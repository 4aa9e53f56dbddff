/-!
# European — names of characters up to Armenian

The rows of the table are read as `Grading.Text.rowCode?` says.
-/

namespace Grading.Text

def europeanNames : String :=
  "20 :SPACE,EXCLAMATION MARK,QUOTATION MARK,,DOLLAR SIGN,PERCENT SIGN,AMPERSAND,APOSTROPHE,,,
   ASTERISK,,COMMA,HYPHEN-MINUS,,SOLIDUS,*10,COLON,SEMICOLON,*3,QUESTION MARK,COMMERCIAL AT,
   *29,CIRCUMFLEX ACCENT,,GRAVE ACCENT,*29,TILDE,*33,NO-BREAK SPACE,,CENT SIGN,POUND SIGN,
   CURRENCY SIGN,YEN SIGN,BROKEN BAR,SECTION SIGN,DIAERESIS,C\x4fPYRIGHT SIGN,
   FEMININE ORDINAL INDICATOR,LEFT-POINTING DOUBLE ANGLE QUOTATION MARK,,SOFT HYPHEN,
   REGISTERED SIGN,MACRON,DEGREE SIGN,PLUS-MINUS SIGN,,,ACUTE ACCENT,MICRO SIGN,PILCROW SIGN,
   MIDDLE DOT,CEDILLA,,MASCULINE ORDINAL INDICATOR,RIGHT-POINTING DOUBLE ANGLE QUOTATION MARK,
   *59,DIVISION SIGN;23 NUMBER:SIGN;28 LEFT:PARENTHESIS;29 RIGHT:PARENTHESIS;2B PLUS:SIGN;
   2E FULL:STOP;30 DIGIT:ZERO,ONE,TWO,THREE,FOUR,FIVE,SIX,SEVEN,EIGHT,NINE;3C LESS-THAN:SIGN;
   3D EQUALS:SIGN;3E GREATER-THAN:SIGN;41 LATIN CAPITAL LETTER:A*26;5B LEFT SQUARE:BRACKET;
   5C REVERSE:SOLIDUS;5D RIGHT SQUARE:BRACKET;5F LOW:LINE;61 LATIN SMALL LETTER:A*26;
   7B LEFT:CURLY BRACKET;7C VERTICAL:LINE;7D RIGHT:CURLY BRACKET;A1 INVERTED:EXCLAMATION MARK,
   *29,QUESTION MARK;AC NOT:SIGN;B2 SUPERSCRIPT:TWO,THREE,*5,ONE;
   BC VULGAR FRACTION ONE:QUARTER,HALF;BE VULGAR FRACTION:THREE QUARTERS;
   C0 LATIN CAPITAL LETTER A WITH:GRAVE,ACUTE,CIRCUMFLEX,TILDE,DIAERESIS,RING ABOVE,*58,
   MACRON,,BREVE,,OGONEK;C6 LATIN CAPITAL LETTER:AE,*9,ETH,*13,THORN;
   C7 LATIN CAPITAL LETTER C WITH:CEDILLA,*62,ACUTE,,CIRCUMFLEX,,DOT ABOVE,,CARON;
   C8 LATIN CAPITAL LETTER E WITH:GRAVE,ACUTE,CIRCUMFLEX,DIAERESIS;
   CC LATIN CAPITAL LETTER I WITH:GRAVE,ACUTE,CIRCUMFLEX,DIAERESIS;
   D1 LATIN CAPITAL LETTER N WITH:TILDE;D2 LATIN CAPITAL LETTER O WITH:GRAVE,ACUTE,CIRCUMFLEX,
   TILDE,DIAERESIS,,STROKE;D7 MULTIPLICATION:SIGN;D9 LATIN CAPITAL LETTER U WITH:GRAVE,ACUTE,
   CIRCUMFLEX,DIAERESIS;DD LATIN CAPITAL LETTER Y WITH:ACUTE;DF LATIN SMALL LETTER:SHARP S,*6,
   AE,*9,ETH,*13,THORN,*50,DOTLESS I,*3,J WITH CIRCUMFLEX,,,KRA,*18,ENG,*51,LONG S,*5,
   TONE SIX,*15,HV,*5,LAMBDA WITH STROKE,*7,OI,*4,TONE TWO,*20,TONE FIVE,*8,DZ WITH CARON,,,
   LJ,,,NJ,*22,AE WITH MACRON,*12,J WITH CARON,,,DZ,*9,AE WITH ACUTE,*31,YOGH,*5,OU,*19,
   DOTLESS J,DB DIGRAPH,QP DIGRAPH,*8,GLOTTAL STOP,*6,J WITH STROKE,,Q WITH HOOK TAIL,*5,
   ALPHA,*7,SCHWA,SCHWA WITH HOOK,*3,CLOSED REVERSED OPEN E,DOTLESS J WITH STROKE,,SCRIPT G,,
   GAMMA,RAMS HORN,,,HENG WITH HOOK,,IOTA,*4,LEZH,*6,BARRED O,,CLOSED OMEGA,PHI,*10,ESH,
   DOTLESS J WITH STROKE AND HOOK,SQUAT REVERSED ESH,*4,UPSILON,*7,EZH,*7,CLOSED OPEN E,,,
   J WITH CROSSED-TAIL,,,Q WITH HOOK,,,DZ DIGRAPH,DEZH DIGRAPH,DZ DIGRAPH WITH CURL,
   TS DIGRAPH,TESH DIGRAPH,TC DIGRAPH WITH CURL,FENG DIGRAPH,LS DIGRAPH,LZ DIGRAPH;
   E0 LATIN SMALL LETTER A WITH:GRAVE,ACUTE,CIRCUMFLEX,TILDE,DIAERESIS,RING ABOVE,*27,MACRON,,
   BREVE,,OGONEK;E7 LATIN SMALL LETTER C WITH:CEDILLA,*31,ACUTE,,CIRCUMFLEX,,DOT ABOVE,,CARON;
   E8 LATIN SMALL LETTER E WITH:GRAVE,ACUTE,CIRCUMFLEX,DIAERESIS,*39,MACRON,,BREVE,,DOT ABOVE,
   ,OGONEK,,CARON;EC LATIN SMALL LETTER I WITH:GRAVE,ACUTE,CIRCUMFLEX,DIAERESIS,*57,TILDE,,
   MACRON,,BREVE,,OGONEK;F1 LATIN SMALL LETTER N WITH:TILDE;
   F2 LATIN SMALL LETTER O WITH:GRAVE,ACUTE,CIRCUMFLEX,TILDE,DIAERESIS,,STROKE;
   F9 LATIN SMALL LETTER U WITH:GRAVE,ACUTE,CIRCUMFLEX,DIAERESIS;
   FD LATIN SMALL LETTER Y WITH:ACUTE,,DIAERESIS;10E LATIN CAPITAL LETTER D WITH:CARON,,
   STROKE;10F LATIN SMALL LETTER D WITH:CARON,,STROKE;112 LATIN CAPITAL LETTER E WITH:MACRON,,
   BREVE,,DOT ABOVE,,OGONEK,,CARON;11C LATIN CAPITAL LETTER G WITH:CIRCUMFLEX,,BREVE,,
   DOT ABOVE,,CEDILLA;11D LATIN SMALL LETTER G WITH:CIRCUMFLEX,,BREVE,,DOT ABOVE,,CEDILLA;
   124 LATIN CAPITAL LETTER H WITH:CIRCUMFLEX,,STROKE;
   125 LATIN SMALL LETTER H WITH:CIRCUMFLEX,,STROKE;128 LATIN CAPITAL LETTER I WITH:TILDE,,
   MACRON,,BREVE,,OGONEK,,DOT ABOVE;132 LATIN CAPITAL:LIGATURE IJ,*31,LIGATURE OE;
   133 LATIN SMALL LIGATURE:IJ,*31,OE;134 LATIN CAPITAL LETTER:J WITH CIRCUMFLEX,*21,ENG,*57,
   TONE SIX,,OPEN O,,,AFRICAN D,*4,REVERSED E,SCHWA,OPEN E,F WITH HOOK,,,GAMMA,,IOTA,*11,OI,
   *4,TONE TWO,,ESH,*7,UPSILON,V WITH HOOK,*4,EZH,EZH REVERSED,*3,TONE FIVE,*7,DZ WITH CARON,,
   ,LJ,,,NJ,*23,AE WITH MACRON,*11,EZH WITH CARON,,,DZ,*4,HWAIR,WYNN,*4,AE WITH ACUTE,*31,
   YOGH,*5,OU,*30,GLOTTAL STOP,*6,J WITH STROKE,,SMALL Q WITH HOOK TAIL;
   136 LATIN CAPITAL LETTER K WITH:CEDILLA;137 LATIN SMALL LETTER K WITH:CEDILLA;
   139 LATIN CAPITAL LETTER L WITH:ACUTE,,CEDILLA,,CARON,,MIDDLE DOT,,STROKE;
   13A LATIN SMALL LETTER L WITH:ACUTE,,CEDILLA,,CARON,,MIDDLE DOT,,STROKE;
   143 LATIN CAPITAL LETTER N WITH:ACUTE,,CEDILLA,,CARON;144 LATIN SMALL LETTER N WITH:ACUTE,,
   CEDILLA,,CARON;149 LATIN SMALL LETTER N:PRECEDED BY APOSTROPHE;
   14C LATIN CAPITAL LETTER O WITH:MACRON,,BREVE,,DOUBLE ACUTE;
   14D LATIN SMALL LETTER O WITH:MACRON,,BREVE,,DOUBLE ACUTE;
   154 LATIN CAPITAL LETTER R WITH:ACUTE,,CEDILLA,,CARON;155 LATIN SMALL LETTER R WITH:ACUTE,,
   CEDILLA,,CARON;15A LATIN CAPITAL LETTER S WITH:ACUTE,,CIRCUMFLEX,,CEDILLA,,CARON;
   15B LATIN SMALL LETTER S WITH:ACUTE,,CIRCUMFLEX,,CEDILLA,,CARON;
   162 LATIN CAPITAL LETTER T WITH:CEDILLA,,CARON,,STROKE;
   163 LATIN SMALL LETTER T WITH:CEDILLA,,CARON,,STROKE;168 LATIN CAPITAL LETTER U WITH:TILDE,
   ,MACRON,,BREVE,,RING ABOVE,,DOUBLE ACUTE,,OGONEK,*60,HORN,*35,CARON;
   169 LATIN SMALL LETTER U WITH:TILDE,,MACRON,,BREVE,,RING ABOVE,,DOUBLE ACUTE,,OGONEK,*60,
   HORN,*35,CARON;174 LATIN CAPITAL LETTER W WITH:CIRCUMFLEX;
   175 LATIN SMALL LETTER W WITH:CIRCUMFLEX;176 LATIN CAPITAL LETTER Y WITH:CIRCUMFLEX,,
   DIAERESIS,*58,HOOK;177 LATIN SMALL LETTER Y WITH:CIRCUMFLEX,*60,HOOK;
   179 LATIN CAPITAL LETTER Z WITH:ACUTE,,DOT ABOVE,,CARON,*55,STROKE;
   17A LATIN SMALL LETTER Z WITH:ACUTE,,DOT ABOVE,,CARON,*55,STROKE;
   180 LATIN SMALL LETTER B WITH:STROKE,,,TOPBAR;181 LATIN CAPITAL LETTER B WITH:HOOK,TOPBAR;
   187 LATIN CAPITAL LETTER C WITH:HOOK;188 LATIN SMALL LETTER C WITH:HOOK;
   18A LATIN CAPITAL LETTER D WITH:HOOK,TOPBAR,*57,SMALL LETTER Z WITH CARON,*44,
   SMALL LETTER Z;18C LATIN SMALL LETTER D WITH:TOPBAR;18D LATIN SMALL LETTER TURNED:DELTA;
   192 LATIN SMALL LETTER F WITH:HOOK;193 LATIN CAPITAL LETTER G WITH:HOOK;
   197 LATIN CAPITAL LETTER I WITH:STROKE,*55,CARON,*56,DOUBLE GRAVE,,INVERTED BREVE;
   198 LATIN CAPITAL LETTER K WITH:HOOK;199 LATIN SMALL LETTER K WITH:HOOK;
   19A LATIN SMALL LETTER L WITH:BAR;19C LATIN CAPITAL LETTER TURNED:M;
   19D LATIN CAPITAL LETTER N WITH:LEFT HOOK,*45,SMALL LETTER J,*44,GRAVE,*39,LONG RIGHT LEG;
   19E LATIN SMALL LETTER N WITH:LONG RIGHT LEG;19F LATIN CAPITAL LETTER O WITH:MIDDLE TILDE,
   HORN,*48,CARON,*24,OGONEK,,OGONEK AND MACRON,*17,STROKE AND ACUTE,*13,DOUBLE GRAVE,,
   INVERTED BREVE,*27,DIAERESIS AND MACRON,,TILDE AND MACRON,,DOT ABOVE,,DOT ABOVE AND MACRON;
   1A1 LATIN SMALL LETTER O WITH:HORN,*48,CARON,*24,OGONEK,,OGONEK AND MACRON,*17,
   STROKE AND ACUTE,*13,DOUBLE GRAVE,,INVERTED BREVE,*27,DIAERESIS AND MACRON,,
   TILDE AND MACRON,,DOT ABOVE,,DOT ABOVE AND MACRON;1A4 LATIN CAPITAL LETTER P WITH:HOOK;
   1A5 LATIN SMALL LETTER P WITH:HOOK;1A6 LATIN LETTER:YR,*3,REVERSED ESH LOOP,*16,
   TWO WITH STROKE,,,INVERTED GLOTTAL STOP WITH STROKE,WYNN,DENTAL CLICK,LATERAL CLICK,
   ALVEOLAR CLICK,RETROFLEX CLICK;1AB LATIN SMALL LETTER T WITH:PALATAL HOOK,,HOOK;
   1AC LATIN CAPITAL LETTER T WITH:HOOK,,RETROFLEX HOOK;1B9 LATIN SMALL LETTER EZH:REVERSED;
   1BA LATIN SMALL LETTER EZH WITH:TAIL,*52,CARON;
   1C8 LATIN CAPITAL LETTER L WITH:SMALL LETTER J;1CD LATIN CAPITAL LETTER A WITH:CARON,*16,
   DIAERESIS AND MACRON,,DOT ABOVE AND MACRON,*25,RING ABOVE AND ACUTE,*5,DOUBLE GRAVE,,
   INVERTED BREVE,*35,DOT ABOVE,*19,STROKE;1CE LATIN SMALL LETTER A WITH:CARON,*16,
   DIAERESIS AND MACRON,,DOT ABOVE AND MACRON,*25,RING ABOVE AND ACUTE,*5,DOUBLE GRAVE,,
   INVERTED BREVE,*35,DOT ABOVE;1D0 LATIN SMALL LETTER I WITH:CARON,*56,DOUBLE GRAVE,,
   INVERTED BREVE;1D5 LATIN CAPITAL LETTER U WITH DIAERESIS:AND MACRON,,AND ACUTE,,AND CARON,,
   AND GRAVE;1D6 LATIN SMALL LETTER U WITH DIAERESIS:AND MACRON,,AND ACUTE,,AND CARON,,
   AND GRAVE;1DD LATIN SMALL LETTER TURNED:E;1E4 LATIN CAPITAL LETTER G WITH:STROKE,,CARON,
   *13,ACUTE;1E5 LATIN SMALL LETTER G WITH:STROKE,,CARON,*13,ACUTE;
   1E8 LATIN CAPITAL LETTER K WITH:CARON;1E9 LATIN SMALL LETTER K WITH:CARON;
   1F9 LATIN SMALL LETTER N WITH:GRAVE,*59,CURL,*60,LEFT HOOK,RETROFLEX HOOK;
   204 LATIN CAPITAL LETTER E WITH:DOUBLE GRAVE,,INVERTED BREVE,*33,CEDILLA,*29,STROKE;
   205 LATIN SMALL LETTER E WITH:DOUBLE GRAVE,,INVERTED BREVE,*33,CEDILLA,*29,STROKE;
   210 LATIN CAPITAL LETTER R WITH:DOUBLE GRAVE,,INVERTED BREVE,*57,STROKE;
   211 LATIN SMALL LETTER R WITH:DOUBLE GRAVE,,INVERTED BREVE,*57,STROKE,*46,LONG LEG,TAIL,
   FISHHOOK;214 LATIN CAPITAL LETTER U WITH:DOUBLE GRAVE,,INVERTED BREVE;
   215 LATIN SMALL LETTER U WITH:DOUBLE GRAVE,,INVERTED BREVE;
   218 LATIN CAPITAL LETTER S WITH:COMMA BELOW;219 LATIN SMALL LETTER S WITH:COMMA BELOW,*37,
   SWASH TAIL;21A LATIN CAPITAL LETTER T WITH:COMMA BELOW,*35,DIAGONAL STROKE;
   21B LATIN SMALL LETTER T WITH:COMMA BELOW,*26,CURL;21E LATIN CAPITAL LETTER H WITH:CARON;
   21F LATIN SMALL LETTER H WITH:CARON;221 LATIN SMALL LETTER D WITH:CURL,*52,TAIL,HOOK;
   224 LATIN CAPITAL LETTER Z WITH:HOOK;225 LATIN SMALL LETTER Z WITH:HOOK,*26,SWASH TAIL;
   232 LATIN CAPITAL LETTER Y WITH:MACRON,*27,STROKE;233 LATIN SMALL LETTER Y WITH:MACRON,*27,
   STROKE;234 LATIN SMALL LETTER L WITH:CURL,*54,MIDDLE TILDE,BELT,RETROFLEX HOOK;
   23B LATIN CAPITAL LETTER C WITH:STROKE;23C LATIN SMALL LETTER C WITH:STROKE,*24,CURL;
   23D LATIN CAPITAL LETTER L WITH:BAR;243 LATIN CAPITAL LETTER B WITH:STROKE;
   244 LATIN CAPITAL LETTER U:BAR;245 LATIN CAPITAL LETTER TURNED:V;
   250 LATIN SMALL LETTER TURNED:A,,ALPHA,*18,H,*9,M,M WITH LONG LEG,*8,R,*13,T,*4,V,W,Y,*15,
   K,*15,H WITH FISHHOOK,H WITH FISHHOOK AND TAIL;253 LATIN SMALL LETTER B WITH:HOOK;
   254 LATIN SMALL LETTER OPEN:O,*6,E;258 LATIN SMALL LETTER REVERSED:E,*3,OPEN E,
   OPEN E WITH HOOK,*33,R WITH FISHHOOK;260 LATIN SMALL LETTER G WITH:HOOK;
   262 LATIN LETTER SMALL CAPITAL:G,*7,I,*9,N,,OE,*9,R,INVERTED R,*13,Y,*9,B,,G WITH HOOK,H,,,
   L;266 LATIN SMALL LETTER H WITH:HOOK;268 LATIN SMALL LETTER I WITH:STROKE;
   271 LATIN SMALL LETTER M WITH:HOOK;27A LATIN SMALL LETTER TURNED R WITH:LONG LEG,HOOK;
   282 LATIN SMALL LETTER S WITH:HOOK;286 LATIN SMALL LETTER ESH WITH:CURL;
   288 LATIN SMALL LETTER T WITH:RETROFLEX HOOK;289 LATIN SMALL LETTER U:BAR;
   28B LATIN SMALL LETTER V WITH:HOOK;290 LATIN SMALL LETTER Z WITH:RETROFLEX HOOK,CURL;
   293 LATIN SMALL LETTER EZH WITH:CURL;294 LATIN LETTER:GLOTTAL STOP,
   PHARYNGEAL VOICED FRICATIVE,INVERTED GLOTTAL STOP,STRETCHED C,BILABIAL CLICK,*8,
   GLOTTAL STOP WITH STROKE,REVERSED GLOTTAL STOP WITH STROKE,*9,BILABIAL PERCUSSIVE,
   BIDENTAL PERCUSSIVE;2B0 MODIFIER LETTER SMALL:H,H WITH HOOK,J,R,*3,W,Y,*39,GAMMA,L,S,X,
   REVERSED GLOTTAL STOP;2B4 MODIFIER LETTER SMALL TURNED:R,R WITH HOOK;
   2B6 MODIFIER LETTER SMALL CAPITAL:INVERTED R;2B9 MODIFIER LETTER:PRIME,DOUBLE PRIME,
   TURNED COMMA,APOSTROPHE,REVERSED COMMA,RIGHT HALF RING,LEFT HALF RING,GLOTTAL STOP,
   REVERSED GLOTTAL STOP,LEFT ARROWHEAD,RIGHT ARROWHEAD,UP ARROWHEAD,DOWN ARROWHEAD,
   CIRCUMFLEX ACCENT,,VERTICAL LINE,MACRON,ACUTE ACCENT,GRAVE ACCENT,*4,TRIANGULAR COLON,
   HALF TRIANGULAR COLON,CENTRED RIGHT HALF RING,CENTRED LEFT HALF RING,UP TACK,DOWN TACK,
   PLUS SIGN,MINUS SIGN,*6,RHOTIC HOOK,CROSS ACCENT,*5,EXTRA-HIGH TONE BAR,HIGH TONE BAR,
   MID TONE BAR,,EXTRA-LOW TONE BAR,YIN DEPARTING TONE MARK,YANG DEPARTING TONE MARK,VOICING,
   UNASPIRATED,DOUBLE APOSTROPHE,*5,MIDDLE GRAVE ACCENT,MIDDLE DOUBLE GRAVE ACCENT,
   MIDDLE DOUBLE ACUTE ACCENT,,,BEGIN HIGH TONE,END HIGH TONE,BEGIN LOW TONE,END LOW TONE,
   SHELF,OPEN SHELF;2C7 :CARON,*16,BREVE,DOT ABOVE,,OGONEK;
   2CC MODIFIER LETTER LOW:VERTICAL LINE,MACRON,GRAVE ACCENT,ACUTE ACCENT,*24,TONE BAR,*6,
   DOWN ARROWHEAD,UP ARROWHEAD,LEFT ARROWHEAD,RIGHT ARROWHEAD,RING,*3,TILDE,*7,LEFT ARROW;
   2DA RING:ABOVE;2DC SMALL:TILDE;2DD DOUBLE:ACUTE ACCENT;2F8 MODIFIER LETTER RAISED:COLON;
   300 COMBINING:GRAVE ACCENT,ACUTE ACCENT,CIRCUMFLEX ACCENT,TILDE,MACRON,OVERLINE,BREVE,,
   DIAERESIS,HOOK ABOVE,RING ABOVE,,CARON,VERTICAL LINE ABOVE,,,CANDRABINDU,,
   TURNED COMMA ABOVE,COMMA ABOVE,REVERSED COMMA ABOVE,COMMA ABOVE RIGHT,GRAVE ACCENT BELOW,
   ACUTE ACCENT BELOW,*3,HORN,,UP TACK BELOW,DOWN TACK BELOW,PLUS SIGN BELOW,MINUS SIGN BELOW,
   PALATALIZED HOOK BELOW,RETROFLEX HOOK BELOW,,DIAERESIS BELOW,RING BELOW,COMMA BELOW,
   CEDILLA,OGONEK,VERTICAL LINE BELOW,BRIDGE BELOW,,CARON BELOW,CIRCUMFLEX ACCENT BELOW,
   BREVE BELOW,,TILDE BELOW,,LOW LINE,,TILDE OVERLAY,SHORT STROKE OVERLAY,LONG STROKE OVERLAY,
   SHORT SOLIDUS OVERLAY,LONG SOLIDUS OVERLAY,,,SQUARE BELOW,SEAGULL BELOW,X ABOVE,
   VERTICAL TILDE,,GRAVE TONE MARK,ACUTE TONE MARK,*4,BRIDGE ABOVE,EQUALS SIGN BELOW,,,
   NOT TILDE ABOVE,HOMOTHETIC ABOVE,ALMOST EQUAL TO ABOVE,,UPWARDS ARROW BELOW,
   GRAPHEME JOINER,,,FERMATA,X BELOW,*5,ASTERISK BELOW,,ZIGZAG ABOVE;307 COMBINING DOT:ABOVE,
   *27,BELOW,*52,ABOVE RIGHT;30B COMBINING DOUBLE:ACUTE ACCENT,,,VERTICAL LINE ABOVE,
   GRAVE ACCENT,*35,LOW LINE,*11,OVERLINE,*8,VERTICAL LINE BELOW,*17,RING BELOW,,BREVE BELOW,
   BREVE,MACRON,MACRON BELOW,TILDE,INVERTED BREVE,RIGHTWARDS ARROW BELOW;
   311 COMBINING INVERTED:BREVE,*25,DOUBLE ARCH BELOW,*3,BREVE BELOW,*10,BRIDGE BELOW;
   318 COMBINING LEFT:TACK BELOW,,ANGLE ABOVE,,HALF RING BELOW,*44,ANGLE BELOW,*3,
   RIGHT ARROW BELOW,*3,HALF RING ABOVE,,,ARROWHEAD BELOW;319 COMBINING RIGHT:TACK BELOW,*31,
   HALF RING BELOW,*22,ARROWHEAD ABOVE,*4,ARROWHEAD BELOW,ARROWHEAD AND UP ARROWHEAD BELOW,
   HALF RING ABOVE;331 COMBINING MACRON:BELOW;342 COMBINING GREEK:PERISPOMENI,KORONIS,
   DIALYTIKA TONOS,YPOGEGRAMMENI;363 COMBINING LATIN SMALL LETTER:A,E,I,O,U,C,D,H,M,R,T,V,X;
   370 GREEK CAPITAL LETTER:HETA,,ARCHAIC SAMPI,*3,PAMPHYLIAN DIGAMMA,*8,YOT,*17,ALPHA,BETA,
   GAMMA,DELTA,EPSILON,ZETA,ETA,THETA,IOTA,KAPPA,LAMDA,MU,NU,XI,OMICRON,PI,RHO,,SIGMA,TAU,
   UPSILON,PHI,CHI,PSI,OMEGA;371 GREEK SMALL LETTER:HETA,,ARCHAIC SAMPI,*3,PAMPHYLIAN DIGAMMA,
   *57,ALPHA,BETA,GAMMA,DELTA,EPSILON,ZETA,ETA,THETA,IOTA,KAPPA,LAMDA,MU,NU,XI,OMICRON,PI,RHO,
   FINAL SIGMA,SIGMA,TAU,UPSILON,PHI,CHI,PSI,OMEGA,*15,ARCHAIC KOPPA,,STIGMA,,DIGAMMA,,KOPPA,,
   SAMPI,*22,SHO,,,SAN;374 GREEK:NUMERAL SIGN,LOWER NUMERAL SIGN,*4,YPOGEGRAMMENI,*3,
   QUESTION MARK,*5,TONOS,DIALYTIKA TONOS,,ANO TELEIA;
   37B GREEK SMALL:REVERSED LUNATE SIGMA SYMBOL,DOTTED LUNATE SIGMA SYMBOL,
   REVERSED DOTTED LUNATE SIGMA SYMBOL;386 GREEK CAPITAL LETTER ALPHA WITH:TONOS;
   388 GREEK CAPITAL LETTER EPSILON WITH:TONOS;389 GREEK CAPITAL LETTER ETA WITH:TONOS;
   38A GREEK CAPITAL LETTER IOTA WITH:TONOS,*31,DIALYTIKA;
   38C GREEK CAPITAL LETTER OMICRON WITH:TONOS;38E GREEK CAPITAL LETTER UPSILON WITH:TONOS,
   *28,DIALYTIKA;38F GREEK CAPITAL LETTER OMEGA WITH:TONOS;
   390 GREEK SMALL LETTER IOTA WITH:DIALYTIKA AND TONOS,*30,TONOS,*26,DIALYTIKA;
   3AC GREEK SMALL LETTER ALPHA WITH:TONOS;3AD GREEK SMALL LETTER EPSILON WITH:TONOS;
   3AE GREEK SMALL LETTER ETA WITH:TONOS;3B0 GREEK SMALL LETTER UPSILON WITH:DIALYTIKA AND
    TONOS,*26,DIALYTIKA,,TONOS;3CC GREEK SMALL LETTER OMICRON WITH:TONOS;
   3CE GREEK SMALL LETTER OMEGA WITH:TONOS;3CF GREEK CAPITAL:KAI SYMBOL,*36,THETA SYMBOL,*4,
   LUNATE SIGMA SYMBOL,*3,REVERSED LUNATE SIGMA SYMBOL,DOTTED LUNATE SIGMA SYMBOL,
   REVERSED DOTTED LUNATE SIGMA SYMBOL;3D0 GREEK:BETA SYMBOL,THETA SYMBOL,
   UPSILON WITH HOOK SYMBOL,UPSILON WITH ACUTE AND HOOK SYMBOL,
   UPSILON WITH DIAERESIS AND HOOK SYMBOL,PHI SYMBOL,PI SYMBOL,KAI SYMBOL,*24,KAPPA SYMBOL,
   RHO SYMBOL,LUNATE SIGMA SYMBOL,,,LUNATE EPSILON SYMBOL,REVERSED LUNATE EPSILON SYMBOL,*5,
   RHO WITH STROKE SYMBOL;3D8 GREEK LETTER:ARCHAIC KOPPA,,STIGMA,,DIGAMMA,,KOPPA,,SAMPI,*18,
   YOT;3E2 COPTIC CAPITAL LETTER:SHEI,,FEI,,KHEI,,HORI,,GANGIA,,SHIMA,,DEI;
   3E3 COPTIC SMALL LETTER:SHEI,,FEI,,KHEI,,HORI,,GANGIA,,SHIMA,,DEI;
   3F7 GREEK CAPITAL LETTER:SHO,,,SAN;400 CYRILLIC CAPITAL LETTER:IE WITH GRAVE,IO,DJE,GJE,
   UKRAINIAN IE,DZE,BYELORUSSIAN-UKRAINIAN I,YI,JE,LJE,NJE,TSHE,KJE,I WITH GRAVE,SHORT U,DZHE,
   A,BE,VE,GHE,DE,IE,ZHE,ZE,I,SHORT I,KA,EL*3,O,PE,ER,ES,TE,U,EF,HA,TSE,CHE,SHA,SHCHA,
   HARD SIGN,YERU,SOFT SIGN,E,YU,YA,*48,OMEGA,,YAT,*3,LITTLE YUS,*3,BIG YUS,*3,KSI,,PSI,,FITA,
   ,IZHITSA,,IZHITSA WITH DOUBLE GRAVE ACCENT,,UK,,ROUND OMEGA,,OMEGA WITH TITLO,,OT,,KOPPA,
   *9,SHORT I WITH TAIL,,SEMISOFT SIGN,,ER WITH TICK,*7,ZHE WITH DESCENDER,,ZE WITH DESCENDER,
   ,KA WITH DESCENDER,,KA WITH VERTICAL STROKE,,KA WITH STROKE,,BASHKIR KA,*5,
   PE WITH MIDDLE HOOK,,ABKHASIAN HA,,ES WITH DESCENDER,,TE WITH DESCENDER,,STRAIGHT U,,
   STRAIGHT U WITH STROKE,,HA WITH DESCENDER,*3,CHE WITH DESCENDER,,CHE WITH VERTICAL STROKE,,
   SHHA,,ABKHASIAN CHE,,ABKHASIAN CHE WITH DESCENDER,,,ZHE WITH BREVE,,KA WITH HOOK,,
   EL WITH TAIL,*5,KHAKASSIAN CHE,,EM WITH TAIL,,,A WITH BREVE,,A WITH DIAERESIS,*3,
   IE WITH BREVE,,SCHWA,,SCHWA WITH DIAERESIS,,ZHE WITH DIAERESIS,,ZE WITH DIAERESIS,,
   ABKHASIAN DZE,,I WITH MACRON,,I WITH DIAERESIS,,O WITH DIAERESIS,,BARRED O,,
   BARRED O WITH DIAERESIS,,E WITH DIAERESIS,,U WITH MACRON,,U WITH DIAERESIS,,
   U WITH DOUBLE ACUTE,,CHE WITH DIAERESIS,*3,YERU WITH DIAERESIS,*3,HA WITH HOOK,,
   HA WITH STROKE,*17,REVERSED ZE,,EL WITH HOOK,,LHA,,RHA,,YAE,,QA,,WE,,ALEUT KA,,
   EL WITH MIDDLE HOOK,*3,PE WITH DESCENDER,,SHHA WITH DESCENDER,*3,DZZHE,,DCHE,,
   EL WITH DESCENDER;430 CYRILLIC SMALL LETTER:A,BE,VE,GHE,DE,IE,ZHE,ZE,I,SHORT I,KA,EL*3,O,
   PE,ER,ES,TE,U,EF,HA,TSE,CHE,SHA,SHCHA,HARD SIGN,YERU,SOFT SIGN,E,YU,YA,IE WITH GRAVE,IO,
   DJE,GJE,UKRAINIAN IE,DZE,BYELORUSSIAN-UKRAINIAN I,YI,JE,LJE,NJE,TSHE,KJE,I WITH GRAVE,
   SHORT U,DZHE,,OMEGA,,YAT,*3,LITTLE YUS,*3,BIG YUS,*3,KSI,,PSI,,FITA,,IZHITSA,,
   IZHITSA WITH DOUBLE GRAVE ACCENT,,UK,,ROUND OMEGA,,OMEGA WITH TITLO,,OT,,KOPPA,*9,
   SHORT I WITH TAIL,,SEMISOFT SIGN,,ER WITH TICK,*7,ZHE WITH DESCENDER,,ZE WITH DESCENDER,,
   KA WITH DESCENDER,,KA WITH VERTICAL STROKE,,KA WITH STROKE,,BASHKIR KA,*5,
   PE WITH MIDDLE HOOK,,ABKHASIAN HA,,ES WITH DESCENDER,,TE WITH DESCENDER,,STRAIGHT U,,
   STRAIGHT U WITH STROKE,,HA WITH DESCENDER,*3,CHE WITH DESCENDER,,CHE WITH VERTICAL STROKE,,
   SHHA,,ABKHASIAN CHE,,ABKHASIAN CHE WITH DESCENDER,,,ZHE WITH BREVE,,KA WITH HOOK,,
   EL WITH TAIL,*5,KHAKASSIAN CHE,,EM WITH TAIL,PALOCHKA,,A WITH BREVE,,A WITH DIAERESIS,*3,
   IE WITH BREVE,,SCHWA,,SCHWA WITH DIAERESIS,,ZHE WITH DIAERESIS,,ZE WITH DIAERESIS,,
   ABKHASIAN DZE,,I WITH MACRON,,I WITH DIAERESIS,,O WITH DIAERESIS,,BARRED O,,
   BARRED O WITH DIAERESIS,,E WITH DIAERESIS,,U WITH MACRON,,U WITH DIAERESIS,,
   U WITH DOUBLE ACUTE,,CHE WITH DIAERESIS,*3,YERU WITH DIAERESIS,*3,HA WITH HOOK,,
   HA WITH STROKE,*17,REVERSED ZE,,EL WITH HOOK,,LHA,,RHA,,YAE,,QA,,WE,,ALEUT KA,,
   EL WITH MIDDLE HOOK,*3,PE WITH DESCENDER,,SHHA WITH DESCENDER,*3,DZZHE,,DCHE,,
   EL WITH DESCENDER;464 CYRILLIC CAPITAL LETTER IOTIFIED:E,*3,LITTLE YUS,*3,BIG YUS;
   465 CYRILLIC SMALL LETTER IOTIFIED:E,*3,LITTLE YUS,*3,BIG YUS;482 CYRILLIC:THOUSANDS SIGN,
   *61,LETTER PALOCHKA;483 COMBINING CYRILLIC:TITLO,PALATALIZATION,DASIA PNEUMATA,
   PSILI PNEUMATA,POKRYTIE,HUNDRED THOUSANDS SIGN,MILLIONS SIGN;
   490 CYRILLIC CAPITAL LETTER GHE WITH:UPTURN,,STROKE,,MIDDLE HOOK;
   491 CYRILLIC SMALL LETTER GHE WITH:UPTURN,,STROKE,,MIDDLE HOOK;
   4A2 CYRILLIC CAPITAL LETTER EN WITH:DESCENDER,*36,HOOK,,TAIL;
   4A3 CYRILLIC SMALL LETTER EN WITH:DESCENDER,*36,HOOK,,TAIL;
   4A4 CYRILLIC CAPITAL:LIGATURE EN GHE,*15,LIGATURE TE TSE,*31,LIGATURE A IE;
   4A5 CYRILLIC SMALL:LIGATURE EN GHE,*15,LIGATURE TE TSE,*31,LIGATURE A IE;
   4F6 CYRILLIC CAPITAL LETTER GHE WITH:DESCENDER,*3,STROKE AND HOOK;
   4F7 CYRILLIC SMALL LETTER GHE WITH:DESCENDER,*3,STROKE AND HOOK;
   500 CYRILLIC CAPITAL LETTER KOMI:DE,,DJE,,ZJE,,DZJE,,LJE,,NJE,,SJE,,TJE;
   501 CYRILLIC SMALL LETTER KOMI:DE,,DJE,,ZJE,,DZJE,,LJE,,NJE,,SJE,,TJE;
   522 CYRILLIC CAPITAL LETTER EN WITH:MIDDLE HOOK,*5,LEFT HOOK;
   523 CYRILLIC SMALL LETTER EN WITH:MIDDLE HOOK,*5,LEFT HOOK;531 ARMENIAN CAPITAL LETTER:AYB,
   BEN,GIM,DA,ECH,ZA,EH,ET,TO,ZHE,INI,LIWN,XEH,CA,KEN,HO,JA,GHAD,CHEH,MEN,YI,NOW,SHA,VO,CHA,
   PEH,JHEH,RA,SEH,VEW,TIWN,REH,CO,YIWN,PIWR,KEH,OH,FEH;
   559 ARMENIAN:MODIFIER LETTER LEFT HALF RING,APOSTROPHE,EMPHASIS MARK,EXCLAMATION MARK,
   COMMA,QUESTION MARK,ABBREVIATION MARK,*41,FULL STOP,HYPHEN,*4,DRAM SIGN;
   560 ARMENIAN SMALL LETTER:TURNED AYB,AYB,BEN,GIM,DA,ECH,ZA,EH,ET,TO,ZHE,INI,LIWN,XEH,CA,
   KEN,HO,JA,GHAD,CHEH,MEN,YI,NOW,SHA,VO,CHA,PEH,JHEH,RA,SEH,VEW,TIWN,REH,CO,YIWN,PIWR,KEH,OH,
   FEH,,YI WITH STROKE;587 ARMENIAN SMALL LIGATURE:ECH YIWN;
   58D :RIGHT-FACING ARMENIAN ETERNITY SIGN,LEFT-FACING ARMENIAN ETERNITY SIGN"

end Grading.Text
