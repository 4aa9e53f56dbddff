/-!
# Eastern — names of characters from Hebrew to the Greek with accents

The rows of the table are read as `Grading.Text.rowCode?` says.
-/

namespace Grading.Text

def easternNames : String :=
  "591 HEBREW ACCENT:ETNAHTA,SEGOL,SHALSHELET,ZAQEF QATAN,ZAQEF GADOL,TIPEHA,REVIA,ZARQA,
   PASHTA,YETIV,TEVIR,GERESH,GERESH MUQDAM,GERSHAYIM,QARNEY PARA,TELISHA GEDOLA,PAZER,
   ATNAH HAFUKH,MUNAH,MAHAPAKH,MERKHA,MERKHA KEFULA,DARGA,QADMA,TELISHA QETANA,YERAH BEN YOMO,
   OLE,ILUY,DEHI,ZINOR;5AF HEBREW:MARK MASORA CIRCLE,*20,MARK UPPER DOT,MARK LOWER DOT,*41,
   YOD TRIANGLE;5B0 HEBREW POINT:SHEVA,HATAF SEGOL,HATAF PATAH,HATAF QAMATS,HIRIQ,TSERE,SEGOL,
   PATAH,QAMATS,HOLAM,HOLAM HASER FOR VAV,QUBUTS,DAGESH OR MAPIQ,METEG,,RAFE,,SHIN DOT,
   SIN DOT,*4,QAMATS QATAN;5BE HEBREW PUNCTUATION:MAQAF,,PASEQ,,,SOF PASUQ,,,NUN HAFUKHA,*44,
   GERESH,GERSHAYIM;5D0 HEBREW LETTER:ALEF,BET,GIMEL,DALET,HE,VAV,ZAYIN,HET,TET,YOD,,KAF,
   LAMED,,MEM,,NUN,SAMEKH,AYIN,,PE,,TSADI,QOF,RESH,SHIN,TAV;5DA HEBREW LETTER FINAL:KAF,,,MEM,
   ,NUN,*3,PE,,TSADI;5F0 HEBREW LIGATURE:YIDDISH DOUBLE VAV,YIDDISH VAV YOD,
   YIDDISH DOUBLE YOD;600 ARABIC:NUMBER SIGN,,FOOTNOTE MARKER,,,NUMBER MARK ABOVE,,,RAY,*3,
   COMMA,DATE SEPARATOR,POETIC VERSE SIGN,*12,SEMICOLON,,END OF TEXT MARK,
   TRIPLE DOT PUNCTUATION MARK,QUESTION MARK,*32,TATWEEL,*10,FATHATAN,DAMMATAN,KASRATAN,FATHA,
   DAMMA,KASRA,SHADDA,SUKUN,MADDAH ABOVE,HAMZA ABOVE,HAMZA BELOW,SUBSCRIPT ALEF,
   INVERTED DAMMA,MARK NOON GHUNNA,ZWARAKAY,VOWEL SIGN SMALL V ABOVE,
   VOWEL SIGN INVERTED SMALL V ABOVE,VOWEL SIGN DOT BELOW,REVERSED DAMMA,,WAVY HAMZA BELOW,
   *10,PERCENT SIGN,DECIMAL SEPARATOR,THOUSANDS SEPARATOR,FIVE POINTED STAR;
   601 ARABIC SIGN:SANAH,,SAFHA,SAMVAT,*10,MISRA,SALLALLAHOU ALAYHE WASSALLAM,ALAYHE ASSALLAM,
   RAHMATULLAH ALAYHE,RADI ALLAHOU ANHU,TAKHALLUS;606 ARABIC-INDIC:CUBE ROOT,FOURTH ROOT,,
   PER MILLE SIGN,PER TEN THOUSAND SIGN;60B :AFGHANI SIGN;615 ARABIC SMALL HIGH:TAH,
   LIGATURE ALEF WITH LAM WITH YEH,ZAIN;618 ARABIC SMALL:FATHA,DAMMA,KASRA;
   61C ARABIC LETTER:MARK,*3,KASHMIRI YEH,HAMZA,*5,ALEF,BEH,,TEH,THEH,JEEM,HAH,KHAH,DAL,THAL,
   REH,ZAIN,SEEN,SHEEN,SAD,DAD,TAH,ZAH,AIN,GHAIN,*6,FEH,QAF,KAF,LAM,MEEM,NOON,HEH,WAW,,YEH,
   *35,DOTLESS BEH,DOTLESS QAF,SUPERSCRIPT ALEF,*3,HIGH HAMZA,HIGH HAMZA ALEF,HIGH HAMZA WAW,
   U WITH HAMZA ABOVE,HIGH HAMZA YEH,TTEH,TTEHEH,BEEH,,,PEH,TEHEH,BEHEH,,,NYEH,DYEH,,TCHEH,
   TCHEHEH,DDAL,*3,DAHAL,DDAHAL,DUL,,,RREH,*6,JEH,*8,DOTLESS FEH,,,VEH,,PEHEH,,,KEHEH,
   SWASH KAF,,,NG,,GAF,,NGOEH,,GUEH,*7,RNOON,*10,OE,U,YU,,,VE,*4,E,*4,AE;
   622 ARABIC LETTER ALEF WITH:MADDA ABOVE;623 ARABIC LETTER ALEF WITH HAMZA:ABOVE,,BELOW;
   624 ARABIC LETTER WAW WITH:HAMZA ABOVE;626 ARABIC LETTER YEH WITH HAMZA:ABOVE;
   629 ARABIC LETTER TEH:MARBUTA;63B ARABIC LETTER KEHEH WITH:TWO DOTS ABOVE,THREE DOTS BELOW;
   63D ARABIC LETTER FARSI YEH WITH:INVERTED V,TWO DOTS ABOVE,THREE DOTS ABOVE;
   649 ARABIC LETTER ALEF:MAKSURA,*39,WASLA;65E ARABIC FATHA:WITH TWO DOTS;
   660 ARABIC-INDIC DIGIT:ZERO,ONE,TWO,THREE,FOUR,FIVE,SIX,SEVEN,EIGHT,NINE;
   672 ARABIC LETTER ALEF WITH:WAVY HAMZA ABOVE,WAVY HAMZA BELOW;
   67C ARABIC LETTER TEH:WITH RING,WITH THREE DOTS ABOVE DOWNWARDS;
   681 ARABIC LETTER HAH WITH:HAMZA ABOVE,TWO DOTS VERTICAL ABOVE,,,THREE DOTS ABOVE;
   689 ARABIC LETTER DAL WITH:RING,DOT BELOW,DOT BELOW AND SMALL TAH,*3,
   THREE DOTS ABOVE DOWNWARDS,FOUR DOTS ABOVE;692 ARABIC LETTER REH WITH:SMALL V,RING,
   DOT BELOW,SMALL V BELOW,DOT BELOW AND DOT ABOVE,TWO DOTS ABOVE,,FOUR DOTS ABOVE;
   69A ARABIC LETTER SEEN WITH:DOT BELOW AND DOT ABOVE,THREE DOTS BELOW,
   THREE DOTS BELOW AND THREE DOTS ABOVE;69D ARABIC LETTER SAD:WITH TWO DOTS BELOW,
   WITH THREE DOTS ABOVE;69F ARABIC LETTER TAH:WITH THREE DOTS ABOVE;
   6A0 ARABIC LETTER AIN WITH:THREE DOTS ABOVE;6A2 ARABIC LETTER FEH WITH:DOT MOVED BELOW,
   DOT BELOW,,THREE DOTS BELOW;6A7 ARABIC LETTER QAF:WITH DOT ABOVE,WITH THREE DOTS ABOVE;
   6AB ARABIC LETTER KAF WITH:RING,DOT ABOVE,,THREE DOTS BELOW;
   6B0 ARABIC LETTER GAF:WITH RING,,WITH TWO DOTS BELOW,,WITH THREE DOTS ABOVE;
   6B5 ARABIC LETTER LAM WITH:SMALL V,DOT ABOVE,THREE DOTS ABOVE,THREE DOTS BELOW;
   6B9 ARABIC LETTER NOON WITH:DOT BELOW,,,RING,THREE DOTS ABOVE;
   6BA ARABIC LETTER NOON:GHUNNA;6BE ARABIC LETTER HEH:DOACHASHMEE,,WITH YEH ABOVE,GOAL,*61,
   WITH INVERTED V;6BF ARABIC LETTER TCHEH:WITH DOT ABOVE;
   6C2 ARABIC LETTER HEH GOAL:WITH HAMZA ABOVE;6C3 ARABIC LETTER TEH:MARBUTA GOAL;
   6C4 ARABIC LETTER WAW WITH:RING,*5,TWO DOTS ABOVE,*4,DOT ABOVE;
   6C5 ARABIC LETTER KIRGHIZ:OE,*3,YU;6CC ARABIC LETTER FARSI:YEH;
   6CD ARABIC LETTER YEH WITH:TAIL,SMALL V,,,THREE DOTS BELOW;6D2 ARABIC LETTER YEH:BARREE;
   6D3 ARABIC LETTER YEH BARREE WITH:HAMZA ABOVE;6D4 ARABIC:FULL STOP,*8,END OF AYAH,
   START OF RUB EL HIZB,*10,PLACE OF SAJDAH,EMPTY CENTRE LOW STOP,EMPTY CENTRE HIGH STOP,
   ROUNDED HIGH STOP WITH FILLED CENTRE;6D6 ARABIC SMALL HIGH:LIGATURE SAD WITH LAM WITH ALEF
    MAKSURA,LIGATURE QAF WITH LAM WITH ALEF MAKSURA,MEEM INITIAL FORM,LAM ALEF,JEEM,
   THREE DOTS,SEEN,,,ROUNDED ZERO,UPRIGHT RECTANGULAR ZERO,DOTLESS HEAD OF KHAH,
   MEEM ISOLATED FORM,,MADDA,,,YEH,NOON;6E3 ARABIC SMALL LOW:SEEN,*9,MEEM;
   6E5 ARABIC SMALL:WAW,YEH;6EE ARABIC LETTER DAL WITH:INVERTED V;
   6EF ARABIC LETTER REH WITH:INVERTED V;6F0 EXTENDED ARABIC-INDIC DIGIT:ZERO,ONE,TWO,THREE,
   FOUR,FIVE,SIX,SEVEN,EIGHT,NINE;6FA ARABIC LETTER SHEEN:WITH DOT BELOW;
   6FB ARABIC LETTER DAD:WITH DOT BELOW;6FC ARABIC LETTER GHAIN:WITH DOT BELOW;
   6FD ARABIC SIGN:SINDHI AMPERSAND,SINDHI POSTPOSITION MEN;700 SYRIAC:END OF PARAGRAPH,
   SUPRALINEAR FULL STOP,SUBLINEAR FULL STOP,SUPRALINEAR COLON,SUBLINEAR COLON,
   HORIZONTAL COLON,COLON SKEWED LEFT,COLON SKEWED RIGHT,SUPRALINEAR COLON SKEWED LEFT,
   SUBLINEAR COLON SKEWED RIGHT,CONTRACTION,HARKLEAN OBELUS,HARKLEAN METOBELUS,
   HARKLEAN ASTERISCUS,,ABBREVIATION MARK,*32,PTHAHA ABOVE,PTHAHA BELOW,PTHAHA DOTTED,
   ZQAPHA ABOVE,ZQAPHA BELOW,ZQAPHA DOTTED,RBASA ABOVE,RBASA BELOW,DOTTED ZLAMA HORIZONTAL,
   DOTTED ZLAMA ANGULAR,HBASA ABOVE,HBASA BELOW,HBASA-ESASA DOTTED,ESASA ABOVE,ESASA BELOW,
   RWAHA,FEMININE DOT,QUSHSHAYA,RUKKAKHA,TWO VERTICAL DOTS ABOVE,TWO VERTICAL DOTS BELOW,
   THREE DOTS ABOVE,THREE DOTS BELOW,OBLIQUE LINE ABOVE,OBLIQUE LINE BELOW,MUSIC,BARREKH;
   710 SYRIAC LETTER:ALAPH,SUPERSCRIPT ALAPH,BETH,GAMAL,GAMAL GARSHUNI,DALATH,
   DOTLESS DALATH RISH,HE,WAW,ZAIN,HETH,TETH,TETH GARSHUNI,YUDH,YUDH HE,KAPH,LAMADH,MIM,NUN,
   SEMKATH,FINAL SEMKATH,E,PE,REVERSED PE,SADHE,QAPH,RISH,SHIN,TAW,PERSIAN BHETH,
   PERSIAN GHAMAL,PERSIAN DHALATH,*29,SOGDIAN ZHAIN,SOGDIAN KHAPH,SOGDIAN FE;
   750 ARABIC LETTER BEH WITH:THREE DOTS HORIZONTALLY BELOW,DOT BELOW AND THREE DOTS ABOVE,
   THREE DOTS POINTING UPWARDS BELOW,THREE DOTS POINTING UPWARDS BELOW AND TWO DOTS ABOVE,
   TWO DOTS BELOW AND DOT ABOVE,INVERTED SMALL V BELOW,SMALL V;
   757 ARABIC LETTER HAH WITH:TWO DOTS ABOVE,THREE DOTS POINTING UPWARDS BELOW,*21,
   SMALL ARABIC LETTER TAH BELOW,SMALL ARABIC LETTER TAH AND TWO DOTS,,,
   SMALL ARABIC LETTER TAH ABOVE,*9,EXTENDED ARABIC-INDIC DIGIT FOUR BELOW;
   759 ARABIC LETTER DAL WITH:TWO DOTS VERTICALLY BELOW AND SMALL TAH,INVERTED SMALL V BELOW;
   75B ARABIC LETTER REH WITH:STROKE,*15,TWO DOTS VERTICALLY ABOVE,HAMZA ABOVE,*4,
   SMALL ARABIC LETTER TAH AND TWO DOTS;75C ARABIC LETTER SEEN WITH:FOUR DOTS ABOVE,*16,
   TWO DOTS VERTICALLY ABOVE,,,SMALL ARABIC LETTER TAH AND TWO DOTS,*12,
   EXTENDED ARABIC-INDIC DIGIT FOUR ABOVE,INVERTED V;
   75D ARABIC LETTER AIN WITH:TWO DOTS ABOVE,THREE DOTS POINTING DOWNWARDS ABOVE,
   TWO DOTS VERTICALLY ABOVE;760 ARABIC LETTER FEH WITH:TWO DOTS BELOW,
   THREE DOTS POINTING UPWARDS BELOW;762 ARABIC LETTER KEHEH WITH:DOT ABOVE,THREE DOTS ABOVE,
   THREE DOTS POINTING UPWARDS BELOW;765 ARABIC LETTER MEEM:WITH DOT ABOVE,WITH DOT BELOW;
   767 ARABIC LETTER NOON WITH:TWO DOTS BELOW,SMALL TAH,SMALL V;
   76A ARABIC LETTER LAM WITH:BAR;773 ARABIC LETTER ALEF WITH:EXTENDED ARABIC-INDIC DIGIT TWO
    ABOVE,EXTENDED ARABIC-INDIC DIGIT THREE ABOVE;
   775 ARABIC LETTER FARSI YEH WITH:EXTENDED ARABIC-INDIC DIGIT TWO ABOVE,
   EXTENDED ARABIC-INDIC DIGIT THREE ABOVE,EXTENDED ARABIC-INDIC DIGIT FOUR BELOW;
   778 ARABIC LETTER WAW WITH:EXTENDED ARABIC-INDIC DIGIT TWO ABOVE,
   EXTENDED ARABIC-INDIC DIGIT THREE ABOVE;77A ARABIC LETTER YEH BARREE WITH:EXTENDED
    ARABIC-INDIC DIGIT TWO ABOVE,EXTENDED ARABIC-INDIC DIGIT THREE ABOVE;
   77F ARABIC LETTER KAF WITH:TWO DOTS ABOVE;780 THAANA LETTER:HAA,SHAVIYANI,NOONU,RAA,BAA,
   LHAVIYANI,KAAFU,ALIFU,VAAVU,MEEMU,FAAFU,DHAALU,THAA,LAAMU,GAAFU,GNAVIYANI,SEENU,DAVIYANI,
   ZAVIYANI,TAVIYANI,YAA,PAVIYANI,JAVIYANI,CHAVIYANI,TTAA,HHAA,KHAA,THAALU,ZAA,SHEENU,SAADHU,
   DAADHU,TO,ZO,AINU,GHAINU,QAAFU,WAAVU,*11,NAA;7A6 THAANA:ABAFILI,AABAAFILI,IBIFILI,
   EEBEEFILI,UBUFILI,OOBOOFILI,EBEFILI,EYBEYFILI,OBOFILI,OABOAFILI,SUKUN;7C0 NKO DIGIT:ZERO,
   ONE,TWO,THREE,FOUR,FIVE,SIX,SEVEN,EIGHT,NINE;7CA NKO LETTER:A,EE,I,E,U,OO,O,DAGBASINNA,N,
   BA,PA,TA,JA,CHA,DA,RA,RRA,SA,GBA,FA,KA,LA,NA WOLOSO,MA,NYA,NA,HA,WA,YA,NYA WOLOSO,JONA JA,
   JONA CHA,JONA RA;7EB NKO COMBINING:SHORT HIGH TONE,SHORT LOW TONE,SHORT RISING TONE,
   LONG DESCENDING TONE,LONG HIGH TONE,LONG LOW TONE,LONG RISING TONE,NASALIZATION MARK,
   DOUBLE DOT ABOVE;7F4 NKO:HIGH TONE APOSTROPHE,LOW TONE APOSTROPHE,SYMBOL OO DENNEN,
   SYMBOL GBAKURUNEN,COMMA,EXCLAMATION MARK,LAJANYALAN,,,DANTAYALAN,DOROME SIGN,TAMAN SIGN;
   800 SAMARITAN LETTER:ALAF,BIT,GAMAN,DALAT,IY,BAA,ZEN,IT,TIT,YUT,KAAF,LABAT,MIM,NUN,SINGAAT,
   IN,FI,TSAADIY,QUF,RISH,SHAN,TAAF;816 SAMARITAN MARK:IN,IN-ALAF,OCCLUSION,DAGESH,,
   EPENTHETIC YUT,*17,NEQUDAA;81A SAMARITAN:MODIFIER LETTER EPENTHETIC YUT,*9,
   MODIFIER LETTER SHORT A,*3,MODIFIER LETTER I,*13,ABBREVIATION MARK;
   81C SAMARITAN VOWEL SIGN LONG:E,,,AA,,,A,*3,U,,,I;81D SAMARITAN VOWEL SIGN:E,OVERLONG AA,,
   AA,OVERLONG A,,A,,SHORT A,,U,,,I,O,SUKUN;830 SAMARITAN PUNCTUATION:NEQUDAA,AFSAAQ,ANGED,
   BAU,ATMAAU,SHIYYAALAA,,MELODIC QITSA,ZIQAA,QITSA,ZAEF,TURU,ARKAANU,SOF MASHFAAT,ANNAAU;
   840 MANDAIC LETTER:HALQA,AB,AG,AD,AH,USHENNA,AZ,IT,ATT,AKSA,AK*4,AS,IN,AP,ASZ,AQ,AR,ASH,AT,
   DUSHENNA,KAD,AIN;859 MANDAIC:AFFRICATION MARK,VOCALIZATION MARK,GEMINATION MARK,,,
   PUNCTUATION;860 SYRIAC LETTER MALAYALAM:NGA,JA,NYA,TTA,NNA,NNNA,BHA,RA,LLA,LLLA,SSA;
   870 ARABIC LETTER ALEF WITH ATTACHED:FATHA,TOP RIGHT FATHA,,,KASRA,BOTTOM RIGHT KASRA,
   ROUND DOT ABOVE,RIGHT ROUND DOT,LEFT ROUND DOT,ROUND DOT BELOW,,
   TOP RIGHT FATHA AND DOT ABOVE,,BOTTOM RIGHT KASRA AND DOT ABOVE,
   TOP RIGHT FATHA AND LEFT RING,,BOTTOM RIGHT KASRA AND LEFT RING,RIGHT HAMZA,LEFT HAMZA;
   872 ARABIC LETTER ALEF WITH:RIGHT MIDDLE STROKE,LEFT MIDDLE STROKE,*6,DOT ABOVE,,
   RIGHT MIDDLE STROKE AND DOT ABOVE,,,RIGHT MIDDLE STROKE AND LEFT RING;
   883 ARABIC:TATWEEL WITH OVERSTRUCK HAMZA,TATWEEL WITH OVERSTRUCK WAW,
   TATWEEL WITH TWO DOTS BELOW,,BASELINE ROUND DOT,RAISED ROUND DOT,*5,VERTICAL TAIL,,
   POUND MARK ABOVE,PIASTRE MARK ABOVE,*10,MADDA WAAJIB,SUPERSCRIPT ALEF MOKHASSAS,
   DOUBLED MADDA,HALF MADDA OVER MADDA,*46,LARGE ROUND DOT ABOVE,LARGE ROUND DOT BELOW,
   SUKUN BELOW,LARGE CIRCLE BELOW,LARGE ROUND DOT INSIDE CIRCLE BELOW,*15,
   DISPUTED END OF AYAH,TURNED DAMMA BELOW,*12,OPEN FATHATAN,OPEN DAMMATAN,OPEN KASRATAN,*3,
   KASRA WITH DOT BELOW,LEFT ARROWHEAD ABOVE,RIGHT ARROWHEAD ABOVE,LEFT ARROWHEAD BELOW,
   RIGHT ARROWHEAD BELOW,DOUBLE RIGHT ARROWHEAD ABOVE,DOUBLE RIGHT ARROWHEAD ABOVE WITH DOT,
   RIGHT ARROWHEAD ABOVE WITH DOT,DAMMA WITH DOT,MARK SIDEWAYS NOON GHUNNA;
   886 ARABIC LETTER:THIN YEH,*37,ROHINGYA YEH,LOW ALEF,*3,STRAIGHT WAW,
   ZAIN WITH INVERTED V ABOVE,*8,AFRICAN FEH,AFRICAN QAF,AFRICAN NOON,*6,
   AFRICAN QAF WITH THREE DOTS ABOVE,*3,GRAF;889 ARABIC LETTER NOON WITH:INVERTED SMALL V;
   88A ARABIC LETTER HAH WITH:INVERTED SMALL V BELOW;88B ARABIC LETTER TAH:WITH DOT BELOW,
   WITH THREE DOTS BELOW,*22,WITH TWO DOTS ABOVE;
   88D ARABIC LETTER KEHEH WITH:TWO DOTS VERTICALLY BELOW,*52,SMALL V;
   898 ARABIC SMALL HIGH WORD:AL-JUZ,*51,SAH,*7,AR-RUB,*5,ATH-THALATHA,AS-SAJDA,AN-NISF,SAKTA,
   QIF,WAQFA;899 ARABIC SMALL LOW:WORD ISHMAAM,WORD IMAALA,WORD TASHEEL,*55,WAW,*5,
   NOON WITH KASRA;8A0 ARABIC LETTER BEH WITH:SMALL V BELOW,HAMZA ABOVE,*20,SMALL MEEM ABOVE;
   8A2 ARABIC LETTER JEEM:WITH TWO DOTS ABOVE,*34,WITH THREE DOTS ABOVE,WITH THREE DOTS BELOW;
   8A4 ARABIC LETTER FEH WITH:DOT BELOW AND THREE DOTS ABOVE;
   8A5 ARABIC LETTER QAF:WITH DOT BELOW,*15,WITH DOT BELOW AND NO DOTS ABOVE;
   8A6 ARABIC LETTER LAM WITH:DOUBLE BAR,*32,SMALL ARABIC LETTER TAH ABOVE;
   8A7 ARABIC LETTER MEEM:WITH THREE DOTS ABOVE;
   8A8 ARABIC LETTER YEH WITH:TWO DOTS BELOW AND HAMZA ABOVE,TWO DOTS BELOW AND DOT ABOVE,*16,
   TWO DOTS BELOW AND SMALL NOON ABOVE;8AA ARABIC LETTER REH WITH:LOOP,*14,SMALL NOON ABOVE;
   8AB ARABIC LETTER WAW WITH:DOT WITHIN;8AE ARABIC LETTER DAL WITH:THREE DOTS BELOW;
   8AF ARABIC LETTER SAD:WITH THREE DOTS BELOW;8B0 ARABIC LETTER GAF:WITH INVERTED STROKE;
   8B3 ARABIC LETTER AIN WITH:THREE DOTS BELOW;8B4 ARABIC LETTER KAF WITH:DOT BELOW;
   8B7 ARABIC LETTER PEH:WITH SMALL MEEM ABOVE,*6,WITH SMALL V;
   8B8 ARABIC LETTER TEH:WITH SMALL TEH ABOVE,*6,WITH SMALL V;
   8C0 ARABIC LETTER TTEH:WITH SMALL V;8C1 ARABIC LETTER TCHEH:WITH SMALL V;
   8C3 ARABIC LETTER GHAIN:WITH THREE DOTS ABOVE;8C9 ARABIC SMALL:FARSI YEH;
   8CA ARABIC SMALL HIGH:FARSI YEH,YEH BARREE WITH TWO DOTS BELOW,,ZAH,*7,SAD,AIN,QAF,
   NOON WITH KASRA,*7,FOOTNOTE MARKER,SIGN SAFHA,*17,WAW;8E4 ARABIC CURLY:FATHA,DAMMA,KASRA,
   FATHATAN,DAMMATAN,KASRATAN;8EA ARABIC TONE:ONE DOT ABOVE,TWO DOTS ABOVE,LOOP ABOVE,
   ONE DOT BELOW,TWO DOTS BELOW,LOOP BELOW;8F4 ARABIC FATHA:WITH RING,WITH DOT ABOVE;
   900 DEVANAGARI SIGN:INVERTED CANDRABINDU,CANDRABINDU,ANUSVARA,VISARGA,*56,NUKTA,AVAGRAHA,
   *15,VIRAMA,*35,HIGH SPACING DOT;904 DEVANAGARI LETTER:SHORT A,A,AA,I,II,U,UU,VOCALIC R,
   VOCALIC L,CANDRA E,SHORT E,E,AI,CANDRA O,SHORT O,O,AU,KA,KHA,GA,GHA,NGA,CA,CHA,JA,JHA,NYA,
   TTA,TTHA,DDA,DDHA,NNA,TA,THA,DA,DHA,NA,NNNA,PA,PHA,BA,BHA,MA,YA,RA,RRA,LA,LLA,LLLA,VA,SHA,
   SSA,SA,HA,*30,QA,KHHA,GHHA,ZA,DDDHA,RHA,FA,YYA,VOCALIC RR,VOCALIC LL,*16,CANDRA A,OE,OOE,
   AW,UE,UUE,MARWARI DDA,ZHA,HEAVY YA,GGA,JJA,GLOTTAL STOP,DDDA,BBA;
   93A DEVANAGARI VOWEL SIGN:OE,OOE,,,AA,I,II,U,UU,VOCALIC R,VOCALIC RR,CANDRA E,SHORT E,E,AI,
   CANDRA O,SHORT O,O,AU,,PRISHTHAMATRA E,AW,*5,CANDRA LONG E,UE,UUE,*10,VOCALIC L,VOCALIC LL;
   950 DEVANAGARI:OM,STRESS SIGN UDATTA,STRESS SIGN ANUDATTA,GRAVE ACCENT,ACUTE ACCENT,*15,
   DANDA,DOUBLE DANDA,*10,ABBREVIATION SIGN;966 DEVANAGARI DIGIT:ZERO,ONE,TWO,THREE,FOUR,FIVE,
   SIX,SEVEN,EIGHT,NINE;980 BENGALI:ANJI;981 BENGALI SIGN:CANDRABINDU,ANUSVARA,VISARGA,*56,
   NUKTA,AVAGRAHA,*15,VIRAMA;985 BENGALI LETTER:A,AA,I,II,U,UU,VOCALIC R,VOCALIC L,,,E,AI,,,O,
   AU,KA,KHA,GA,GHA,NGA,CA,CHA,JA,JHA,NYA,TTA,TTHA,DDA,DDHA,NNA,TA,THA,DA,DHA,NA,,PA,PHA,BA,
   BHA,MA,YA,RA,,LA,*3,SHA,SSA,SA,HA,*20,KHANDA TA,*13,RRA,RHA,,YYA,VOCALIC RR,VOCALIC LL,*14,
   RA WITH MIDDLE DIAGONAL,RA WITH LOWER DIAGONAL,*10,VEDIC ANUSVARA;
   9BE BENGALI VOWEL SIGN:AA,I,II,U,UU,VOCALIC R,VOCALIC RR,,,E,AI,,,O,AU,*21,VOCALIC L,
   VOCALIC LL;9D7 BENGALI:AU LENGTH MARK,*26,RUPEE MARK,RUPEE SIGN,*6,ISSHAR,GANDA MARK,,
   ABBREVIATION SIGN,SANDHI MARK;9E6 BENGALI DIGIT:ZERO,ONE,TWO,THREE,FOUR,FIVE,SIX,SEVEN,
   EIGHT,NINE;9F4 BENGALI CURRENCY NUMERATOR:ONE,TWO,THREE,FOUR,ONE LESS THAN THE DENOMINATOR;
   9F9 BENGALI CURRENCY:DENOMINATOR SIXTEEN;A01 GURMUKHI SIGN:ADAK BINDI,BINDI,VISARGA,*56,
   NUKTA,*16,VIRAMA,*3,UDAAT,*35,YAKASH;A05 GURMUKHI LETTER:A,AA,I,II,U,UU,*4,EE,AI,,,OO,AU,
   KA,KHA,GA,GHA,NGA,CA,CHA,JA,JHA,NYA,TTA,TTHA,DDA,DDHA,NNA,TA,THA,DA,DHA,NA,,PA,PHA,BA,BHA,
   MA,YA,RA,,LA,LLA,,VA,SHA,,SA,HA,*31,KHHA,GHHA,ZA,RRA,,FA;A3E GURMUKHI VOWEL SIGN:AA,I,II,U,
   UU,*4,EE,AI,,,OO,AU;A66 GURMUKHI DIGIT:ZERO,ONE,TWO,THREE,FOUR,FIVE,SIX,SEVEN,EIGHT,NINE;
   A70 GURMUKHI:TIPPI,ADDAK,IRI,URA,EK ONKAR,,ABBREVIATION SIGN;A81 GUJARATI SIGN:CANDRABINDU,
   ANUSVARA,VISARGA,*56,NUKTA,AVAGRAHA,*15,VIRAMA,*44,SUKUN,SHADDA,MADDAH,
   THREE-DOT NUKTA ABOVE,CIRCLE NUKTA ABOVE,TWO-CIRCLE NUKTA ABOVE;A85 GUJARATI LETTER:A,AA,I,
   II,U,UU,VOCALIC R,VOCALIC L,,,E,AI,,,O,AU,KA,KHA,GA,GHA,NGA,CA,CHA,JA,JHA,NYA,TTA,TTHA,DDA,
   DDHA,NNA,TA,THA,DA,DHA,NA,,PA,PHA,BA,BHA,MA,YA,RA,,LA,LLA,,VA,SHA,SSA,SA,HA,*38,VOCALIC RR,
   VOCALIC LL,*23,ZHA;A8D GUJARATI VOWEL:CANDRA E,*3,CANDRA O;ABE GUJARATI VOWEL SIGN:AA,I,II,
   U,UU,VOCALIC R,VOCALIC RR,CANDRA E,,E,AI,CANDRA O,,O,AU,*21,VOCALIC L,VOCALIC LL;
   AD0 GUJARATI:OM,*31,ABBREVIATION SIGN,RUPEE SIGN;AE6 GUJARATI DIGIT:ZERO,ONE,TWO,THREE,
   FOUR,FIVE,SIX,SEVEN,EIGHT,NINE;B01 ORIYA SIGN:CANDRABINDU,ANUSVARA,VISARGA,*56,NUKTA,
   AVAGRAHA,*15,VIRAMA,*7,OVERLINE;B05 ORIYA LETTER:A,AA,I,II,U,UU,VOCALIC R,VOCALIC L,,,E,AI,
   ,,O,AU,KA,KHA,GA,GHA,NGA,CA,CHA,JA,JHA,NYA,TTA,TTHA,DDA,DDHA,NNA,TA,THA,DA,DHA,NA,,PA,PHA,
   BA,BHA,MA,YA,RA,,LA,LLA,,VA,SHA,SSA,SA,HA,*34,RRA,RHA,,YYA,VOCALIC RR,VOCALIC LL,*15,WA;
   B3E ORIYA VOWEL SIGN:AA,I,II,U,UU,VOCALIC R,VOCALIC RR,,,E,AI,,,O,AU,*21,VOCALIC L,
   VOCALIC LL;B56 ORIYA:AI LENGTH MARK,AU LENGTH MARK,*24,ISSHAR;B66 ORIYA DIGIT:ZERO,ONE,TWO,
   THREE,FOUR,FIVE,SIX,SEVEN,EIGHT,NINE;B72 ORIYA FRACTION:ONE QUARTER,ONE HALF,
   THREE QUARTERS,ONE SIXTEENTH,ONE EIGHTH,THREE SIXTEENTHS;B82 TAMIL SIGN:ANUSVARA,VISARGA;
   B85 TAMIL LETTER:A,AA,I,II,U,UU,*3,E,EE,AI,,O,OO,AU,KA,*3,NGA,CA,,JA,,NYA,TTA,*3,NNA,TA,*3,
   NA,NNNA,PA,*3,MA,YA,RA,RRA,LA,LLA,LLLA,VA,SHA,SSA,SA,HA;BBE TAMIL VOWEL SIGN:AA,I,II,U,UU,
   *3,E,EE,AI,,O,OO,AU;BCD TAMIL SIGN:VIRAMA;BD0 TAMIL:OM,*6,AU LENGTH MARK,*24,NUMBER TEN,
   NUMBER ONE HUNDRED,NUMBER ONE THOUSAND,DAY SIGN,MONTH SIGN,YEAR SIGN,DEBIT SIGN,
   CREDIT SIGN,AS ABOVE SIGN,RUPEE SIGN,NUMBER SIGN;BE6 TAMIL DIGIT:ZERO,ONE,TWO,THREE,FOUR,
   FIVE,SIX,SEVEN,EIGHT,NINE;C00 TELUGU SIGN:COMBINING CANDRABINDU ABOVE,CANDRABINDU,ANUSVARA,
   VISARGA,COMBINING ANUSVARA ABOVE,*55,NUKTA,AVAGRAHA,*15,VIRAMA,*41,SIDDHAM,*7,TUUMU;
   C05 TELUGU LETTER:A,AA,I,II,U,UU,VOCALIC R,VOCALIC L,,E,EE,AI,,O,OO,AU,KA,KHA,GA,GHA,NGA,
   CA,CHA,JA,JHA,NYA,TTA,TTHA,DDA,DDHA,NNA,TA,THA,DA,DHA,NA,,PA,PHA,BA,BHA,MA,YA,RA,RRA,LA,
   LLA,LLLA,VA,SHA,SSA,SA,HA,*30,TSA,DZA,RRRA,,,NAKAARA POLLU,,,VOCALIC RR,VOCALIC LL;
   C3E TELUGU VOWEL SIGN:AA,I,II,U,UU,VOCALIC R,VOCALIC RR,,E,EE,AI,,O,OO,AU,*21,VOCALIC L,
   VOCALIC LL;C55 TELUGU:LENGTH MARK,AI LENGTH MARK;C66 TELUGU DIGIT:ZERO,ONE,TWO,THREE,FOUR,
   FIVE,SIX,SEVEN,EIGHT,NINE;C78 TELUGU FRACTION DIGIT:ZERO FOR ODD POWERS OF FOUR,
   ONE FOR ODD POWERS OF FOUR,TWO FOR ODD POWERS OF FOUR,THREE FOR ODD POWERS OF FOUR,
   ONE FOR EVEN POWERS OF FOUR,TWO FOR EVEN POWERS OF FOUR,THREE FOR EVEN POWERS OF FOUR;
   C80 KANNADA SIGN:SPACING CANDRABINDU,CANDRABINDU,ANUSVARA,VISARGA,SIDDHAM,*55,NUKTA,
   AVAGRAHA,*15,VIRAMA,*35,JIHVAMULIYA,UPADHMANIYA;C85 KANNADA LETTER:A,AA,I,II,U,UU,
   VOCALIC R,VOCALIC L,,E,EE,AI,,O,OO,AU,KA,KHA,GA,GHA,NGA,CA,CHA,JA,JHA,NYA,TTA,TTHA,DDA,
   DDHA,NNA,TA,THA,DA,DHA,NA,,PA,PHA,BA,BHA,MA,YA,RA,RRA,LA,LLA,,VA,SHA,SSA,SA,HA,*35,
   NAKAARA POLLU,FA,,VOCALIC RR,VOCALIC LL;CBE KANNADA VOWEL SIGN:AA,I,II,U,UU,VOCALIC R,
   VOCALIC RR,,E,EE,AI,,O,OO,AU,*21,VOCALIC L,VOCALIC LL;CD5 KANNADA:LENGTH MARK,
   AI LENGTH MARK;CE6 KANNADA DIGIT:ZERO,ONE,TWO,THREE,FOUR,FIVE,SIX,SEVEN,EIGHT,NINE;
   D00 MALAYALAM SIGN:COMBINING ANUSVARA ABOVE,CANDRABINDU,ANUSVARA,VISARGA,*55,
   VERTICAL BAR VIRAMA,CIRCULAR VIRAMA,AVAGRAHA,*15,VIRAMA,,PARA;
   D04 MALAYALAM LETTER:VEDIC ANUSVARA,A,AA,I,II,U,UU,VOCALIC R,VOCALIC L,,E,EE,AI,,O,OO,AU,
   KA,KHA,GA,GHA,NGA,CA,CHA,JA,JHA,NYA,TTA,TTHA,DDA,DDHA,NNA,TA,THA,DA,DHA,NA,NNNA,PA,PHA,BA,
   BHA,MA,YA,RA,RRA,LA,LLA,LLLA,VA,SHA,SSA,SA,HA,TTTA,*19,DOT REPH,*16,ARCHAIC II,VOCALIC RR,
   VOCALIC LL;D3E MALAYALAM VOWEL SIGN:AA,I,II,U,UU,VOCALIC R,VOCALIC RR,,E,EE,AI,,O,OO,AU,
   *21,VOCALIC L,VOCALIC LL;D54 MALAYALAM LETTER CHILLU:M,Y,LLL,*35,NN,N,RR,L,LL,K;
   D57 MALAYALAM:AU LENGTH MARK,*24,NUMBER TEN,NUMBER ONE HUNDRED,NUMBER ONE THOUSAND,*6,
   DATE MARK;D58 MALAYALAM FRACTION ONE:ONE-HUNDRED-AND-SIXTIETH,FORTIETH,,TWENTIETH,TENTH,,
   FIFTH,*20,QUARTER,HALF,,SIXTEENTH,EIGHTH;D5A MALAYALAM FRACTION:THREE EIGHTIETHS,,,
   THREE TWENTIETHS,*23,THREE QUARTERS,,,THREE SIXTEENTHS;D66 MALAYALAM DIGIT:ZERO,ONE,TWO,
   THREE,FOUR,FIVE,SIX,SEVEN,EIGHT,NINE;D81 SINHALA:SIGN CANDRABINDU,SIGN ANUSVARAYA,
   SIGN VISARGAYA;D85 SINHALA LETTER:AYANNA,AAYANNA,AEYANNA,AEEYANNA,IYANNA,IIYANNA,UYANNA,
   UUYANNA,IRUYANNA,IRUUYANNA,ILUYANNA,ILUUYANNA,EYANNA,EEYANNA,AIYANNA,OYANNA,OOYANNA,
   AUYANNA,*7,KANTAJA NAASIKYAYA,SANYAKA GAYANNA,*4,TAALUJA NAASIKYAYA,
   TAALUJA SANYOOGA NAAKSIKYAYA,SANYAKA JAYANNA,*4,MUURDHAJA NAYANNA,SANYAKA DDAYANNA,*4,
   DANTAJA NAYANNA,,SANYAKA DAYANNA,*4,MAYANNA,AMBA BAYANNA,YAYANNA,RAYANNA,,DANTAJA LAYANNA,,
   ,VAYANNA,TAALUJA SAYANNA,MUURDHAJA SAYANNA,DANTAJA SAYANNA,HAYANNA,MUURDHAJA LAYANNA,
   FAYANNA;D9A SINHALA LETTER ALPAPRAANA:KAYANNA,,GAYANNA,*3,CAYANNA,,JAYANNA,*4,TTAYANNA,,
   DDAYANNA,*3,TAYANNA,,DAYANNA,*4,PAYANNA,,BAYANNA;D9B SINHALA LETTER MAHAAPRAANA:KAYANNA,,
   GAYANNA,*3,CAYANNA,,JAYANNA,*4,TTAYANNA,,DDAYANNA,*3,TAYANNA,,DAYANNA,*4,PAYANNA,,BAYANNA;
   DCA SINHALA:SIGN AL-LAKUNA,*41,PUNCTUATION KUNDDALIYA;DCF SINHALA VOWEL SIGN:AELA-PILLA,
   KETTI AEDA-PILLA,,KETTI IS-PILLA,,KETTI PAA-PILLA,*3,GAETTA-PILLA,KOMBUVA,,KOMBU DEKA,
   KOMBUVA HAA AELA-PILLA,KOMBUVA HAA DIGA AELA-PILLA,KOMBUVA HAA GAYANUKITTA,GAYANUKITTA;
   DD1 SINHALA VOWEL SIGN DIGA:AEDA-PILLA,,IS-PILLA,,,PAA-PILLA,*3,KOMBUVA,*23,GAETTA-PILLA,
   GAYANUKITTA;DE6 SINHALA LITH DIGIT:ZERO,ONE,TWO,THREE,FOUR,FIVE,SIX,SEVEN,EIGHT,NINE;
   E01 THAI CHARACTER:KO KAI,*5,NGO NGU,CHO CHAN,CHO CHING,CHO CHANG,SO SO,CHO CHOE,YO YING,
   DO CHADA,TO PATAK,*3,NO NEN,DO DEK,TO TAO,*3,NO NU,BO BAIMAI,PO PLA,PHO PHUNG,FO FA,
   PHO PHAN,FO FAN,PHO SAMPHAO,MO MA,YO YAK,RO RUA,RU,LO LING,LU,WO WAEN,SO SALA,SO RUSI,
   SO SUA,HO HIP,LO CHULA,O ANG,HO NOKHUK,PAIYANNOI,*10,PHINTHU,*10,LAKKHANGYAO,MAIYAMOK,
   MAITAIKHU,*4,THANTHAKHAT,NIKHAHIT,YAMAKKAN,FONGMAN,*10,ANGKHANKHU,KHOMUT;
   E02 THAI CHARACTER KHO:KHAI,KHUAT,KHWAI,KHON,RAKHANG;E10 THAI CHARACTER THO:THAN,
   NANGMONTHO,PHUTHAO,*3,THUNG,THAHAN,THONG;E30 THAI CHARACTER SARA:A,,AA,AM,I,II,UE,UEE,U,UU,
   *6,E,AE,O,AI MAIMUAN,AI MAIMALAI;E31 THAI CHARACTER MAI:HAN-AKAT,*22,EK,THO,TRI,CHATTAWA;
   E3F THAI:CURRENCY SYMBOL BAHT;E50 THAI DIGIT:ZERO,ONE,TWO,THREE,FOUR,FIVE,SIX,SEVEN,EIGHT,
   NINE;E81 LAO LETTER:KO,KHO SUNG,,KHO TAM,,,NGO,CO,,SO TAM,,,NYO,*6,DO,TO,THO SUNG,THO TAM,,
   NO,BO,PO,PHO SUNG,FO TAM,PHO TAM,FO SUNG,,MO,YO,LO LING,,LO LOOT,,WO,SANSKRIT SHA,
   SANSKRIT SSA,SO SUNG,HO SUNG,,O,HO TAM,*47,KHMU GO,KHMU NYO;E86 LAO LETTER PALI:GHA,,,CHA,,
   ,JHA,,NYA,TTA,TTHA,DDA,DDHA,NNA,*4,DHA,*7,BHA,*11,LLA;EAF LAO:ELLIPSIS,*10,
   SIGN PALI VIRAMA,,SEMIVOWEL SIGN LO,SEMIVOWEL SIGN NYO,*8,KO LA,,TONE MAI EK,TONE MAI THO,
   TONE MAI TI,TONE MAI CATAWA,CANCELLATION MARK,NIGGAHITA,*14,HO NO,HO MO;
   EB0 LAO VOWEL SIGN:A,MAI KAN,AA,AM,I,II,Y,YY,U,UU,,MAI KON,*4,E,EI,O,AY,AI;
   ED0 LAO DIGIT:ZERO,ONE,TWO,THREE,FOUR,FIVE,SIX,SEVEN,EIGHT,NINE;F00 TIBETAN:SYLLABLE OM,
   *20,LOGOTYPE SIGN CHAD RTAGS,LOGOTYPE SIGN LHAG RTAGS,
   ASTROLOGICAL SIGN SGRA GCAN -CHAR RTAGS,ASTROLOGICAL SIGN -KHYUD PA,
   ASTROLOGICAL SIGN SDONG TSHUGS;F01 TIBETAN MARK:GTER YIG MGO TRUNCATED A,
   GTER YIG MGO -UM RNAM BCAD MA,GTER YIG MGO -UM GTER TSHEG MA,INITIAL YIG MGO MDUN MA,
   CLOSING YIG MGO SGAB MA,CARET YIG MGO PHUR SHAD MA,YIG MGO TSHEG SHAD MA,SBRUL SHAD,
   BSKUR YIG MGO,BKA- SHOG YIG MGO,INTERSYLLABIC TSHEG,DELIMITER TSHEG BSTAR,SHAD,NYIS SHAD,
   TSHEG SHAD,NYIS TSHEG SHAD,RIN CHEN SPUNGS SHAD,RGYA GRAM SHAD,
   CARET -DZUD RTAGS ME LONG CAN,GTER TSHEG,*31,BSDUS RTAGS,NGAS BZUNG NYI ZLA,
   CARET -DZUD RTAGS BZHI MIG CAN,NGAS BZUNG SGOR RTAGS,CHE MGO,TSA -PHRU,GUG RTAGS GYON,
   GUG RTAGS GYAS,ANG KHANG GYON,ANG KHANG GYAS;F1A TIBETAN SIGN RDEL:DKAR GCIG,DKAR GNYIS,
   DKAR GSUM,NAG GCIG,NAG GNYIS,DKAR RDEL NAG;F20 TIBETAN DIGIT:ZERO,ONE,TWO,THREE,FOUR,FIVE,
   SIX,SEVEN,EIGHT,NINE;F2A TIBETAN DIGIT HALF:ONE,TWO,THREE,FOUR,FIVE,SIX,SEVEN,EIGHT,NINE,
   ZERO;F3E TIBETAN SIGN:YAR TSHES,MAR TSHES,*62,RJES SU NGA RO,RNAM BCAD,,,NYI ZLA NAA DA,
   SNA LDAN,,,LCI RTAGS,YANG RTAGS,LCE TSA CAN,MCHU CAN,GRU CAN RGYINGS,GRU MED RGYINGS,
   INVERTED MCHU CAN;F40 TIBETAN LETTER:KA,KHA,GA,GHA,NGA,CA,CHA,JA,,NYA,TTA,TTHA,DDA,DDHA,
   NNA,TA,THA,DA,DHA,NA,PA,PHA,BA,BHA,MA,TSA,TSHA,DZA,DZHA,WA,ZHA,ZA,-A,YA,RA,LA,SHA,SSA,SA,
   HA,A,KSSA,FIXED-FORM RA,KKA,RRA;F71 TIBETAN VOWEL SIGN:AA,I,II,U,UU,VOCALIC R,VOCALIC RR,
   VOCALIC L,VOCALIC LL,E,EE,O,OO,,,REVERSED I,REVERSED II;F84 TIBETAN MARK:HALANTA,PALUTA;
   F8D TIBETAN SUBJOINED:SIGN LCE TSA CAN,SIGN MCHU CAN,SIGN INVERTED MCHU CAN;
   F90 TIBETAN SUBJOINED LETTER:KA,KHA,GA,GHA,NGA,CA,CHA,JA,,NYA,TTA,TTHA,DDA,DDHA,NNA,TA,THA,
   DA,DHA,NA,PA,PHA,BA,BHA,MA,TSA,TSHA,DZA,DZHA,WA,ZHA,ZA,-A,YA,RA,LA,SHA,SSA,SA,HA,A,KSSA,
   FIXED-FORM WA,FIXED-FORM YA,FIXED-FORM RA;FBE TIBETAN:KU RU KHA,KU RU KHA BZHI MIG CAN,
   CANTILLATION SIGN HEAVY BEAT,CANTILLATION SIGN LIGHT BEAT,CANTILLATION SIGN CANG TE-U,
   CANTILLATION SIGN SBUB -CHAL;FC4 TIBETAN SYMBOL:DRIL BU,RDO RJE,PADMA GDAN,
   RDO RJE RGYA GRAM,PHUR PA,NOR BU,NOR BU NYIS -KHYIL,NOR BU GSUM -KHYIL,NOR BU BZHI -KHYIL;
   FCE TIBETAN SIGN RDEL:NAG RDEL DKAR,NAG GSUM;FD0 TIBETAN MARK:BSKA- SHOG GI MGO RGYAN,
   MNYAM YIG GI MGO RGYAN,NYIS TSHEG,INITIAL BRDA RNYING YIG MGO MDUN MA,
   CLOSING BRDA RNYING YIG MGO SGAB MA,*4,LEADING MCHAN RTAGS,TRAILING MCHAN RTAGS;
   FD5 :RIGHT-FACING SVASTI SIGN,LEFT-FACING SVASTI SIGN,RIGHT-FACING SVASTI SIGN WITH DOTS,
   LEFT-FACING SVASTI SIGN WITH DOTS;1000 MYANMAR LETTER:KA,KHA,GA,GHA,NGA,CA,CHA,JA,JHA,NYA,
   NNYA,TTA,TTHA,DDA,DDHA,NNA,TA,THA,DA,DHA,NA,PA,PHA,BA,BHA,MA,YA,RA,LA,WA,SA,HA,LLA,A,,I,II,
   U,UU,E,,O,AU,*20,GREAT SA,*16,SHA,SSA,VOCALIC R,VOCALIC RR,VOCALIC L,VOCALIC LL,*11,
   SGAW KAREN SHA,*3,WESTERN PWO KAREN THA,WESTERN PWO KAREN PWA,*7,EASTERN PWO KAREN NNA,
   EASTERN PWO KAREN YWA,EASTERN PWO KAREN GHWA,*29,RUMAI PALAUNG FA;
   1022 MYANMAR LETTER SHAN:A;1028 MYANMAR LETTER MON:E,*49,NGA,JHA,BBA,BBE;
   102B MYANMAR VOWEL SIGN:TALL AA,AA,I,II,U,UU,E,AI,MON II,MON O,E ABOVE,*32,VOCALIC R,
   VOCALIC RR,VOCALIC L,VOCALIC LL,*8,SGAW KAREN EU,*4,WESTERN PWO KAREN EU,
   WESTERN PWO KAREN UE,*8,GEBA KAREN I,KAYAH OE,KAYAH U,KAYAH EE,*14,SHAN AA,SHAN E,
   SHAN E ABOVE,SHAN FINAL Y,*21,AITON A,AITON AI;1036 MYANMAR SIGN:ANUSVARA,DOT BELOW,
   VISARGA,VIRAMA,ASAT,*15,LITTLE SECTION,SECTION;103B MYANMAR CONSONANT SIGN:MEDIAL YA,
   MEDIAL RA,MEDIAL WA,MEDIAL HA,*31,MON MEDIAL NA,MON MEDIAL MA,MON MEDIAL LA,*33,
   SHAN MEDIAL WA;1040 MYANMAR DIGIT:ZERO,ONE,TWO,THREE,FOUR,FIVE,SIX,SEVEN,EIGHT,NINE;
   104C MYANMAR SYMBOL:LOCATIVE,COMPLETED,AFOREMENTIONED,GENITIVE;
   1063 MYANMAR:TONE MARK SGAW KAREN HATHI,TONE MARK SGAW KAREN KE PHO;
   1069 MYANMAR SIGN WESTERN PWO KAREN:TONE-1*5;1075 MYANMAR LETTER SHAN:KA,KHA,GA,CA,ZA,NYA,
   DA,NA,PHA,FA,BA,THA,HA;1087 MYANMAR SIGN SHAN:TONE-2*2,TONE-5*2,COUNCIL TONE-2*2,
   COUNCIL EMPHATIC TONE;108F MYANMAR SIGN:RUMAI PALAUNG TONE-5,*10,KHAMTI TONE-1,
   KHAMTI TONE-3;1090 MYANMAR SHAN DIGIT:ZERO,ONE,TWO,THREE,FOUR,FIVE,SIX,SEVEN,EIGHT,NINE;
   109E MYANMAR SYMBOL:SHAN ONE,SHAN EXCLAMATION;10A0 GEORGIAN CAPITAL LETTER:AN,BAN,GAN,DON,
   EN,VIN,ZEN,TAN,IN,KAN,LAS,MAN,NAR,ON,PAR,ZHAR,RAE,SAN,TAR,UN,PHAR,KHAR,GHAN,QAR,SHIN,CHIN,
   CAN,JIL,CIL,CHAR,XAN,JHAN,HAE,HE,HIE,WE,HAR,HOE,,YN,*5,AEN;10D0 GEORGIAN LETTER:AN,BAN,GAN,
   DON,EN,VIN,ZEN,TAN,IN,KAN,LAS,MAN,NAR,ON,PAR,ZHAR,RAE,SAN,TAR,UN,PHAR,KHAR,GHAN,QAR,SHIN,
   CHIN,CAN,JIL,CIL,CHAR,XAN,JHAN,HAE,HE,HIE,WE,HAR,HOE,FI,YN,ELIFI,TURNED GAN,AIN,,,AEN,
   HARD SIGN,LABIAL SIGN;10FB GEORGIAN:PARAGRAPH SEPARATOR;10FC MODIFIER LETTER:GEORGIAN NAR;
   1100 HANGUL CHOSEONG:KIYEOK,SSANGKIYEOK,NIEUN,TIKEUT,SSANGTIKEUT,RIEUL,MIEUM,PIEUP,
   SSANGPIEUP,SIOS,SSANGSIOS,IEUNG,CIEUC,SSANGCIEUC,CHIEUCH,KHIEUKH,THIEUTH,PHIEUPH,HIEUH,
   NIEUN-KIYEOK,SSANGNIEUN,NIEUN-TIKEUT,NIEUN-PIEUP,TIKEUT-KIYEOK,RIEUL-NIEUN,SSANGRIEUL,
   RIEUL-HIEUH,KAPYEOUNRIEUL,MIEUM-PIEUP,KAPYEOUNMIEUM,PIEUP-KIYEOK,PIEUP-NIEUN,PIEUP-TIKEUT,
   PIEUP-SIOS,PIEUP-SIOS-KIYEOK,PIEUP-SIOS-TIKEUT,PIEUP-SIOS-PIEUP,PIEUP-SSANGSIOS,
   PIEUP-SIOS-CIEUC,PIEUP-CIEUC,PIEUP-CHIEUCH,PIEUP-THIEUTH,PIEUP-PHIEUPH,KAPYEOUNPIEUP,
   KAPYEOUNSSANGPIEUP,SIOS-KIYEOK,SIOS-NIEUN,SIOS-TIKEUT,SIOS-RIEUL,SIOS-MIEUM,SIOS-PIEUP,
   SIOS-PIEUP-KIYEOK,SIOS-SSANGSIOS,SIOS-IEUNG,SIOS-CIEUC,SIOS-CHIEUCH,SIOS-KHIEUKH,
   SIOS-THIEUTH,SIOS-PHIEUPH,SIOS-HIEUH,CHITUEUMSIOS,CHITUEUMSSANGSIOS,CEONGCHIEUMSIOS,
   CEONGCHIEUMSSANGSIOS,PANSIOS,IEUNG-KIYEOK,IEUNG-TIKEUT,IEUNG-MIEUM,IEUNG-PIEUP,IEUNG-SIOS,
   IEUNG-PANSIOS,SSANGIEUNG,IEUNG-CIEUC,IEUNG-CHIEUCH,IEUNG-THIEUTH,IEUNG-PHIEUPH,YESIEUNG,
   CIEUC-IEUNG,CHITUEUMCIEUC,CHITUEUMSSANGCIEUC,CEONGCHIEUMCIEUC,CEONGCHIEUMSSANGCIEUC,
   CHIEUCH-KHIEUKH,CHIEUCH-HIEUH,CHITUEUMCHIEUCH,CEONGCHIEUMCHIEUCH,PHIEUPH-PIEUP,
   KAPYEOUNPHIEUPH,SSANGHIEUH,YEORINHIEUH,KIYEOK-TIKEUT,NIEUN-SIOS,NIEUN-CIEUC,NIEUN-HIEUH,
   TIKEUT-RIEUL,FILLER;1160 HANGUL JUNGSEONG:FILLER,A,AE,YA,YAE,EO,E,YEO,YE,O,WA,WAE,OE,YO,U,
   WEO,WE,WI,YU,EU,YI,I,A-O,A-U,YA-O,YA-YO,EO-O,EO-U,EO-EU,YEO-O,YEO-U,O-EO,O-E,O-YE,O-O,O-U,
   YO-YA,YO-YAE,YO-YEO,YO-O,YO-I,U-A,U-AE,U-EO-EU,U-YE,U-U,YU-A,YU-EO,YU-E,YU-YEO,YU-YE,YU-U,
   YU-I,EU-U,EU-EU,YI-U,I-A,I-YA,I-O,I-U,I-EU,I-ARAEA,ARAEA,ARAEA-EO,ARAEA-U,ARAEA-I,
   SSANGARAEA,A-EU,YA-U,YEO-YA,O-YA,O-YAE;11A8 HANGUL JONGSEONG:KIYEOK,SSANGKIYEOK,
   KIYEOK-SIOS,NIEUN,NIEUN-CIEUC,NIEUN-HIEUH,TIKEUT,RIEUL,RIEUL-KIYEOK,RIEUL-MIEUM,
   RIEUL-PIEUP,RIEUL-SIOS,RIEUL-THIEUTH,RIEUL-PHIEUPH,RIEUL-HIEUH,MIEUM,PIEUP,PIEUP-SIOS,SIOS,
   SSANGSIOS,IEUNG,CIEUC,CHIEUCH,KHIEUKH,THIEUTH,PHIEUPH,HIEUH,KIYEOK-RIEUL,
   KIYEOK-SIOS-KIYEOK,NIEUN-KIYEOK,NIEUN-TIKEUT,NIEUN-SIOS,NIEUN-PANSIOS,NIEUN-THIEUTH,
   TIKEUT-KIYEOK,TIKEUT-RIEUL,RIEUL-KIYEOK-SIOS,RIEUL-NIEUN,RIEUL-TIKEUT,RIEUL-TIKEUT-HIEUH,
   SSANGRIEUL,RIEUL-MIEUM-KIYEOK,RIEUL-MIEUM-SIOS,RIEUL-PIEUP-SIOS,RIEUL-PIEUP-HIEUH,
   RIEUL-KAPYEOUNPIEUP,RIEUL-SSANGSIOS,RIEUL-PANSIOS,RIEUL-KHIEUKH,RIEUL-YEORINHIEUH,
   MIEUM-KIYEOK,MIEUM-RIEUL,MIEUM-PIEUP,MIEUM-SIOS,MIEUM-SSANGSIOS,MIEUM-PANSIOS,
   MIEUM-CHIEUCH,MIEUM-HIEUH,KAPYEOUNMIEUM,PIEUP-RIEUL,PIEUP-PHIEUPH,PIEUP-HIEUH,
   KAPYEOUNPIEUP,SIOS-KIYEOK,SIOS-TIKEUT,SIOS-RIEUL,SIOS-PIEUP,PANSIOS,IEUNG-KIYEOK,
   IEUNG-SSANGKIYEOK,SSANGIEUNG,IEUNG-KHIEUKH,YESIEUNG,YESIEUNG-SIOS,YESIEUNG-PANSIOS,
   PHIEUPH-PIEUP,KAPYEOUNPHIEUPH,HIEUH-NIEUN,HIEUH-RIEUL,HIEUH-MIEUM,HIEUH-PIEUP,YEORINHIEUH,
   KIYEOK-NIEUN,KIYEOK-PIEUP,KIYEOK-CHIEUCH,KIYEOK-KHIEUKH,KIYEOK-HIEUH,SSANGNIEUN;
   1200 ETHIOPIC SYLLABLE:HA,HU,HI,HAA,HEE,HE,HO,HOA,LA,LU,LI,LAA,LEE,LE,LO,LWA,HHA,HHU,HHI,
   HHAA,HHEE,HHE,HHO,HHWA,MA,MU,MI,MAA,MEE,ME,MO,MWA,SZA,SZU,SZI,SZAA,SZEE,SZE,SZO,SZWA,RA,RU,
   RI,RAA,REE,RE,RO,RWA,SA,SU,SI,SAA,SEE,SE,SO,SWA,SHA,SHU,SHI,SHAA,SHEE,SHE,SHO,SHWA,QA,QU,
   QI,QAA,QEE,QE,QO,QOA,QWA,,QWI,QWAA,QWEE,QWE,,,QHA,QHU,QHI,QHAA,QHEE,QHE,QHO,,QHWA,,QHWI,
   QHWAA,QHWEE,QHWE,,,BA,BU,BI,BAA,BEE,BE,BO,BWA,VA,VU,VI,VAA,VEE,VE,VO,VWA,TA,TU,TI,TAA,TEE,
   TE,TO,TWA,CA,CU,CI,CAA,CEE,CE,CO,CWA,XA,XU,XI,XAA,XEE,XE,XO,XOA,XWA,,XWI,XWAA,XWEE,XWE,,,
   NA,NU,NI,NAA,NEE,NE,NO,NWA,NYA,NYU,NYI,NYAA,NYEE,NYE,NYO,NYWA,*8,KA,KU,KI,KAA,KEE,KE,KO,
   KOA,KWA,,KWI,KWAA,KWEE,KWE,,,KXA,KXU,KXI,KXAA,KXEE,KXE,KXO,,KXWA,,KXWI,KXWAA,KXWEE,KXWE,,,
   WA,WU,WI,WAA,WEE,WE,WO,WOA,*8,ZA,ZU,ZI,ZAA,ZEE,ZE,ZO,ZWA,ZHA,ZHU,ZHI,ZHAA,ZHEE,ZHE,ZHO,
   ZHWA,YA,YU,YI,YAA,YEE,YE,YO,YOA,DA,DU,DI,DAA,DEE,DE,DO,DWA,DDA,DDU,DDI,DDAA,DDEE,DDE,DDO,
   DDWA,JA,JU,JI,JAA,JEE,JE,JO,JWA,GA,GU,GI,GAA,GEE,GE,GO,GOA,GWA,,GWI,GWAA,GWEE,GWE,,,GGA,
   GGU,GGI,GGAA,GGEE,GGE,GGO,GGWAA,THA,THU,THI,THAA,THEE,THE,THO,THWA,CHA,CHU,CHI,CHAA,CHEE,
   CHE,CHO,CHWA,PHA,PHU,PHI,PHAA,PHEE,PHE,PHO,PHWA,TSA,TSU,TSI,TSAA,TSEE,TSE,TSO,TSWA,TZA,TZU,
   TZI,TZAA,TZEE,TZE,TZO,TZOA,FA,FU,FI,FAA,FEE,FE,FO,FWA,PA,PU,PI,PAA,PEE,PE,PO,PWA,RYA,MYA,
   FYA,*37,SEBATBEIT MWA,MWI,MWEE,MWE,SEBATBEIT BWA,BWI,BWEE,BWE,SEBATBEIT FWA,FWI,FWEE,FWE,
   SEBATBEIT PWA,PWI,PWEE,PWE;12A0 ETHIOPIC SYLLABLE GLOTTAL:A,U,I,AA,EE,E,O,WA;
   12D0 ETHIOPIC SYLLABLE PHARYNGEAL:A,U,I,AA,EE,E,O;
   135D ETHIOPIC:COMBINING GEMINATION AND VOWEL LENGTH MARK,COMBINING VOWEL LENGTH MARK,
   COMBINING GEMINATION MARK,SECTION MARK,WORDSPACE,FULL STOP,COMMA,SEMICOLON,COLON,
   PREFACE COLON,QUESTION MARK,PARAGRAPH SEPARATOR;1369 ETHIOPIC DIGIT:ONE,TWO,THREE,FOUR,
   FIVE,SIX,SEVEN,EIGHT,NINE;1372 ETHIOPIC NUMBER:TEN,TWENTY,THIRTY,FORTY,FIFTY,SIXTY,SEVENTY,
   EIGHTY,NINETY,HUNDRED,TEN THOUSAND;1390 ETHIOPIC TONAL MARK:YIZET,DERET,RIKRIK,
   SHORT RIKRIK,DIFAT,KENAT,CHIRET,HIDET,DERET-HIDET,KURT;13A0 CHEROKEE LETTER:A,E,I,O,U,V,GA,
   KA,GE,GI,GO,GU,GV,HA,HE,HI,HO,HU,HV,LA,LE,LI,LO,LU,LV,MA,ME,MI,MO,MU,NA,HNA,NAH,NE,NI,NO,
   NU,NV,QUA,QUE,QUI,QUO,QUU*2,SA,S,SE,SI,SO,SU,SV,DA,TA,DE,TE,DI,TI,DO,DU,DV,DLA,TLA,TLE,TLI,
   TLO,TLU*2,TSA,TSE,TSI,TSO,TSU*2,WA,WE,WI,WO,WU,WV,YA,YE,YI,YO,YU,YV,MV;
   13F8 CHEROKEE SMALL LETTER:YE,YI,YO,YU,YV,MV;1400 CANADIAN SYLLABICS:HYPHEN,E,AAI,I,II,O,
   OO,*3,A,AA,WE,,WI,,WII,,WO,,WOO,,,WA,,WAA,,,AI,,GLOTTAL STOP,*12,EN,IN,ON,AN,PE,PAAI,PI,
   PII,PO,POO,*3,PA,PAA,PWE,,PWI,,PWII,,PWO,,PWOO,,PWA,,PWAA,,,P,,,TE,TAAI,TI,TII,TO,TOO,*3,
   TA,TAA,TWE,,TWI,,TWII,,TWO,,TWOO,,TWA,,TWAA,,,T,TTE,TTI,TTO,TTA,KE,KAAI,KI,KII,KO,KOO,,KA,
   KAA,KWE,,KWI,,KWII,,KWO,,KWOO,,KWA,,KWAA,,,K,KW,SOUTH-SLAVEY KEH,SOUTH-SLAVEY KIH,
   SOUTH-SLAVEY KOH,SOUTH-SLAVEY KAH,CE,CAAI,CI,CII,CO,COO,,CA,CAA,CWE,,CWI,,CWII,,CWO,,CWOO,,
   CWA,,CWAA,,,C,,ME,MAAI,MI,MII,MO,MOO,,MA,MAA,MWE,,MWI,,MWII,,MWO,,MWOO,,MWA,,MWAA,,,M,,MH,
   ATHAPASCAN M,,NE,NAAI,NI,NII,NO,NOO,,NA,NAA,NWE,,NWA,,NWAA,,,N,,NH,LE,LAAI,LI,LII,LO,LOO,,
   LA,LAA,LWE,,LWI,,LWII,,LWO,,LWOO,,LWA,,LWAA,,L,,MEDIAL L,SE,SAAI,SI,SII,SO,SOO,,SA,SAA,SWE,
   ,SWI,,SWII,,SWO,,SWOO,,SWA,,SWAA,,,S,ATHAPASCAN S,SW,,MOOSE-CREE SK,*6,SHE,SHI,SHII,SHO,
   SHOO,SHA,SHAA,SHWE,,SHWI,,SHWII,,SHWO,,SHWOO,,SHWA,,SHWAA,,SH,YE,YAAI,YI,YII,YO,YOO,,YA,
   YAA,YWE,,YWI,,YWII,,YWO,,YWOO,,YWA,,YWAA,,,Y,BIBLE-CREE Y,,,RE,R-CREE RE,,RAAI,RI,RII,RO,
   ROO,,RA,RAA,,RWAA,,R,,MEDIAL R,FE,FAAI,FI,FII,FO,FOO,FA,FAA,FWAA,,F,THE,N-CREE THE,THI,
   N-CREE THI,THII,N-CREE THII,THO,THOO,THA,THAA,THWAA,,TH,TTHE,TTHI,TTHO,TTHA,TTH,TYE,TYI,
   TYO,TYA,*8,NUNAVUT H,HK,QAAI,QI,QII,QO,QOO,QA,QAA,Q,TLHE,TLHI,TLHO,TLHA,*4,NGAAI,NGI,NGII,
   NGO,NGOO,NGA,NGAA,NG,NNG,*9,LHI,LHII,LHO,LHOO,LHA,LHAA,LH,*8,AIVILIK B;
   1407 CANADIAN SYLLABICS Y-CREE:OO,*21,W,*23,POO,*18,PWAA,*9,TOO,*30,KOO,*29,COO,*25,MOO,
   *28,NOO,*18,LOO,*25,SOO,*56,YOO;1408 CANADIAN SYLLABICS CARRIER:EE,I,*44,HEE,HI,*19,H,*7,
   DEE,DI;140D CANADIAN SYLLABICS WEST-CREE:WE,,WI,,WII,,WO,,WOO,,,WA,,WAA,*32,PWE,,PWI,,PWII,
   ,PWO,,PWOO,,PWA,,PWAA,,,P,*13,TWE,,TWI,,TWII,,TWO,,TWOO,,TWA,,TWAA,*16,KWE,,KWI,,KWII,,KWO,
   ,KWOO,,KWA,,KWAA,*17,CWE,,CWI,,CWII,,CWO,,CWOO,,CWA,,CWAA,*13,MWE,,MWI,,MWII,,MWO,,MWOO,,
   MWA,,MWAA,,,M,*13,NWE,,NWA,,NWAA,*14,LWE,,LWI,,LWII,,LWO,,LWOO,,LWA,,LWAA,,L,*11,SWE,,SWI,,
   SWII,,SWO,,SWOO,,SWA,,SWAA,*20,SHWE,,SHWI,,SHWII,,SHWO,,SHWOO,,SHWA,,SHWAA,*11,YWE,,YWI,,
   YWII,,YWO,,YWOO,,YWA,,YWAA,*3,Y,*3,LE,*5,LO,,,LA,,RWAA,,R,*10,FWAA,*12,THWAA,*32,RE,RI,RO,
   RA;1416 CANADIAN SYLLABICS NASKAPI:WOO,*4,WAA;141F CANADIAN SYLLABICS FINAL:ACUTE,GRAVE,
   BOTTOM HALF RING,TOP HALF RING,RIGHT HALF RING,RING,DOUBLE ACUTE,
   DOUBLE SHORT VERTICAL STROKES,MIDDLE DOT,SHORT HORIZONTAL STROKE,PLUS,DOWN TACK;
   1465 CANADIAN SYLLABICS NASKAPI:TWAA,*28,KWAA,*29,CWAA,*25,MWAA,*20,NWAA,*52,SWAA,*5,SKW,
   S-W,SPWA,STWA,SKWA,SCWA,*45,YWAA;14A2 CANADIAN SYLLABICS SAYISI:TH,*28,M;
   14D1 CANADIAN SYLLABICS CARRIER:NG;1508 CANADIAN SYLLABICS BLACKFOOT:S;
   1541 CANADIAN SYLLABICS SAYISI:YI;1574 CANADIAN SYLLABICS NUNAVIK:HE,HI,HII,HO,HOO,HA,HAA,
   H;1597 CANADIAN SYLLABICS SAYISI:SHE,SHI,SHO,SHA,*37,HE,HI,HO,HA;
   159B CANADIAN SYLLABICS WOODS-CREE:THE,THI,THO,THA,TH;15A7 CANADIAN SYLLABICS TH-CREE:THE,
   THI,THII,THO,THOO,THA,THAA,TH;15B0 CANADIAN SYLLABICS BLACKFOOT:E,I,O,A,WE,WI,WO,WA,NE,NI,
   NO,NA,KE,KI,KO,KA;15C4 CANADIAN SYLLABICS CARRIER:GHU,GHO,GHE,GHEE,GHI,GHA,RU,RO,RE,REE,RI,
   RA,WU,WO,WE,WEE,WI,WA,HWU,HWO,HWE,HWEE,HWI,HWA,THU,THO,THE,THEE,THI,THA,TTU,TTO,TTE,TTEE,
   TTI,TTA,PU,PO,PE,PEE,PI,PA,P,GU,GO,GE,GEE,GI,GA,KHU,KHO,KHE,KHEE,KHI,KHA,KKU,KKO,KKE,KKEE,
   KKI,KKA,KK,NU,NO,NE,NEE,NI,NA,MU,MO,ME,MEE,MI,MA,YU,YO,YE,YEE,YI,YA,JU,,JO,JE,JEE,JI,,JA,
   JJU,JJO,JJE,JJEE,JJI,JJA,LU,LO,LE,LEE,LI,LA,DLU,DLO,DLE,DLEE,DLI,DLA,LHU,LHO,LHE,LHEE,LHI,
   LHA,TLHU,TLHO,TLHE,TLHEE,TLHI,TLHA,TLU,TLO,TLE,TLEE,TLI,TLA,ZU,ZO,ZE,ZEE,ZI,ZA,Z,INITIAL Z,
   DZU,DZO,DZE,DZEE,DZI,DZA,SU,SO,SE,SEE,SI,SA,SHU,SHO,SHE,SHEE,SHI,SHA,SH,TSU,TSO,TSE,TSEE,
   TSI,TSA,CHU,CHO,CHE,CHEE,CHI,CHA,TTSU,TTSO,TTSE,TTSEE,TTSI,TTSA;
   1615 CANADIAN SYLLABICS SAYISI:JU,*4,JI;166D CANADIAN SYLLABICS:CHI SIGN,FULL STOP,QAI,
   NGAI,NNGI,NNGII,NNGO,NNGOO,NNGA,NNGAA;1677 CANADIAN SYLLABICS WOODS-CREE:THWEE,THWI,THWII,
   THWO,THWOO,THWA,THWAA,FINAL TH;167F CANADIAN SYLLABICS BLACKFOOT:W;1680 OGHAM:SPACE MARK,
   *26,FEATHER MARK,REVERSED FEATHER MARK;1681 OGHAM LETTER:BEITH,LUIS,FEARN,SAIL,NION,UATH,
   DAIR,TINNE,COLL,CEIRT,MUIN,GORT,NGEADAL,STRAIF,RUIS,AILM,ONN,UR,EADHADH,IODHADH,EABHADH,OR,
   UILLEANN,IFIN,EAMHANCHOLL,PEITH;16A0 RUNIC LETTER:FEHU FEOH FE F,V,URUZ UR U,YR,Y,W,
   THURISAZ THURS THORN,ETH,ANSUZ A,OS O,AC A,AESC,LONG-BRANCH-OSS O,SHORT-TWIG-OSS O,O,OE,ON,
   RAIDO RAD REID R,KAUNA,CEN,KAUN K,G,ENG,GEBO GYFU G,GAR,WUNJO WYNN W,HAGLAZ H,HAEGL H,
   LONG-BRANCH-HAGALL H,SHORT-TWIG-HAGALL H,NAUDIZ NYD NAUD N,SHORT-TWIG-NAUD N,DOTTED-N,
   ISAZ IS ISS I,E,JERAN J,GER,LONG-BRANCH-AR AE,SHORT-TWIG-AR A,IWAZ EOH,PERTHO PEORTH P,
   ALGIZ EOLHX,SOWILO S,SIGEL LONG-BRANCH-SOL S,SHORT-TWIG-SOL S,C,Z,TIWAZ TIR TYR T,
   SHORT-TWIG-TYR T,D,BERKANAN BEORC BJARKAN B,SHORT-TWIG-BJARKAN B,DOTTED-P,OPEN-P,
   EHWAZ EH E,MANNAZ MAN M,LONG-BRANCH-MADR M,SHORT-TWIG-MADR M,LAUKAZ LAGU LOGR L,DOTTED-L,
   INGWAZ,ING,DAGAZ DAEG D,OTHALAN ETHEL O,EAR,IOR,CWEORTH,CALC,CEALC,STAN,LONG-BRANCH-YR,
   SHORT-TWIG-YR,ICELANDIC-YR,Q,X,*6,K,SH,OO;16EB RUNIC:SINGLE PUNCTUATION,
   MULTIPLE PUNCTUATION,CROSS PUNCTUATION,ARLAUG SYMBOL,TVIMADUR SYMBOL,BELGTHOR SYMBOL;
   16F4 RUNIC LETTER FRANKS CASKET:OS,IS,EH,AC,AESC;1700 TAGALOG LETTER:A,I,U,KA,GA,NGA,TA,DA,
   NA,PA,BA,MA,YA,RA,LA,WA,SA,HA,*13,ARCHAIC RA;1712 TAGALOG:VOWEL SIGN I,VOWEL SIGN U,
   SIGN VIRAMA,SIGN PAMUDPOD;1720 HANUNOO LETTER:A,I,U,KA,GA,NGA,TA,DA,NA,PA,BA,MA,YA,RA,LA,
   WA,SA,HA;1732 HANUNOO:VOWEL SIGN I,VOWEL SIGN U,SIGN PAMUDPOD;
   1735 :PHILIPPINE SINGLE PUNCTUATION,PHILIPPINE DOUBLE PUNCTUATION;1740 BUHID LETTER:A,I,U,
   KA,GA,NGA,TA,DA,NA,PA,BA,MA,YA,RA,LA,WA,SA,HA;1752 BUHID:VOWEL SIGN I,VOWEL SIGN U;
   1760 TAGBANWA LETTER:A,I,U,KA,GA,NGA,TA,DA,NA,PA,BA,MA,YA,,LA,WA,SA;
   1772 TAGBANWA:VOWEL SIGN I,VOWEL SIGN U;1780 KHMER LETTER:KA,KHA,KO,KHO,NGO,CA,CHA,CO,CHO,
   NYO,DA,TTHA,DO,TTHO,NNO,TA,THA,TO,THO,NO,BA,PHA,PO,PHO,MO,YO,RO,LO,VO,SHA,SSO,SA,HA,LA,QA;
   17A3 KHMER INDEPENDENT VOWEL:QAQ,QAA,QI,QII,QU,QUK,QUU,QUUV,RY,RYY,LY,LYY,QE,QAI,
   QOO TYPE ONE,QOO TYPE TWO,QAU;17B4 KHMER VOWEL:INHERENT AQ,INHERENT AA;
   17B6 KHMER VOWEL SIGN:AA,I,II,Y,YY,U,UU,UA,OE,YA,IE,E,AE,AI,OO,AU;17C6 KHMER SIGN:NIKAHIT,
   REAHMUK,YUUKALEAPINTU,MUUSIKATOAN,TRIISAP,BANTOC,ROBAT,TOANDAKHIAT,KAKABAT,AHSDA,
   SAMYOK SANNYA,VIRIAM,COENG,BATHAMASAT,KHAN,BARIYOOSAN,CAMNUC PII KUUH,LEK TOO,BEYYAL,
   PHNAEK MUAN,KOOMUUT,,AVAKRAHASANYA,ATTHACAN;17DB KHMER:CURRENCY SYMBOL RIEL;
   17E0 KHMER DIGIT:ZERO,ONE,TWO,THREE,FOUR,FIVE,SIX,SEVEN,EIGHT,NINE;
   17F0 KHMER SYMBOL LEK ATTAK:SON,MUOY,PII,BEI,BUON,PRAM,PRAM-MUOY,PRAM-PII,PRAM-BEI,
   PRAM-BUON;1800 MONGOLIAN:BIRGA,ELLIPSIS,COMMA,FULL STOP,COLON,FOUR DOTS,TODO SOFT HYPHEN,
   SIBE SYLLABLE BOUNDARY MARKER,MANCHU COMMA,MANCHU FULL STOP,NIRUGU,
   FREE VARIATION SELECTOR ONE,FREE VARIATION SELECTOR TWO,FREE VARIATION SELECTOR THREE,
   VOWEL SEPARATOR,FREE VARIATION SELECTOR FOUR;1810 MONGOLIAN DIGIT:ZERO,ONE,TWO,THREE,FOUR,
   FIVE,SIX,SEVEN,EIGHT,NINE;1820 MONGOLIAN LETTER:A,E,I,O,U,OE,UE,EE,NA,ANG,BA,PA,QA,GA,MA,
   LA,SA,SHA,TA,DA,CHA,JA,YA,RA,WA,FA,KA,KHA,TSA,ZA,HAA,ZRA,LHA,ZHI,CHI,*53,CHA WITH TWO DOTS;
   1843 MONGOLIAN LETTER TODO:LONG VOWEL SIGN,E,I,O,U,OE,UE,ANG,BA,PA,QA,GA,MA,TA,DA,CHA,JA,
   TSA,YA,WA,KA,GAA,HAA,JIA,NIA,DZA,*59,ALI GALI TA,ALI GALI ZHA;185D MONGOLIAN LETTER SIBE:E,
   I,IY,UE,U,ANG,KA,GA,HA,PA,SHA,TA,DA,JA,FA,GAA,HAA,TSA,ZA,RAA,CHA,ZHA;
   1873 MONGOLIAN LETTER MANCHU:I,KA,RA,FA,ZHA;1880 MONGOLIAN LETTER ALI GALI:ANUSVARA ONE,
   VISARGA ONE,DAMARU,UBADAMA,INVERTED UBADAMA,BALUDA,THREE BALUDA,A,I,KA,NGA,CA,TTA,TTHA,DDA,
   NNA,TA,DA,PA,PHA,SSA,ZHA,ZA,AH,*14,HALF U,HALF YA,,DAGALGA;
   189A MONGOLIAN LETTER MANCHU ALI GALI:GHA,NGA,CA,JHA,TTA,DDHA,TA,DHA,SSA,CYA,ZHA,ZA,,,BHA,,
   LHA;18B0 CANADIAN SYLLABICS:OY,AY,AAY,WAY,POY,PAY,PWOY,TAY,KAY,KWAY,MAY,NOY,NAY,LAY,SOY,
   SAY,SHOY,SHAY,SHWOY,YOY,YAY,RAY,NWI,,NWII,,NWO,,NWOO,,RWEE,RWI,RWII,RWO,RWOO,RWA,*8,
   EASTERN W,WESTERN W,,,R-CREE RWE,,,THWE,THWA,TTHWE,TTHOO,TTHAA,TLHWE,TLHOO,*9,
   BEAVER DENE L,BEAVER DENE R;18C7 CANADIAN SYLLABICS OJIBWAY:NWI,,NWII,,NWO,,NWOO,*6,P,T,K,
   C,M,N,S,SH;18DE CANADIAN SYLLABICS FINAL:SMALL RING,RAISED DOT;
   18E1 CANADIAN SYLLABICS WEST-CREE:LOO,LAA;18EA CANADIAN SYLLABICS SAYISI:SHWE,SHOO,HOO,*4,
   JUU;18ED CANADIAN SYLLABICS CARRIER:GWU,DENE GEE,GAA,GWA,,JWA,,,DENTAL S;
   1900 LIMBU:VOWEL-CARRIER LETTER,*40,SUBJOINED LETTER YA,SUBJOINED LETTER RA,
   SUBJOINED LETTER WA,*13,SIGN MUKPHRENG,SIGN KEMPHRENG,SIGN SA-I,*4,SIGN LOO,*3,
   EXCLAMATION MARK,QUESTION MARK;1901 LIMBU LETTER:KA,KHA,GA,GHA,NGA,CA,CHA,JA,JHA,YAN,TA,
   THA,DA,DHA,NA,PA,PHA,BA,BHA,MA,YA,RA,LA,WA,SHA,SSA,SA,HA,GYAN,TRA;1920 LIMBU VOWEL SIGN:A,
   I,U,EE,AI,OO,AU,E,O;1930 LIMBU SMALL LETTER:KA,NGA,ANUSVARA,TA,NA,PA,MA,RA,LA;
   1946 LIMBU DIGIT:ZERO,ONE,TWO,THREE,FOUR,FIVE,SIX,SEVEN,EIGHT,NINE;1950 TAI LE LETTER:KA,
   XA,NGA,TSA,SA,YA,TA,THA,LA,PA,PHA,MA,FA,VA,HA,QA,KHA,TSHA,NA,A,I,EE,EH,U,OO,O,UE,E,AUE,AI,,
   ,TONE-2*5;1980 NEW TAI LUE LETTER HIGH:QA,,KA,XA,NGA,*3,TSA,SA,YA,*3,TA,THA,NA,*3,PA,PHA,
   MA,*3,FA,VA,LA,*3,HA,DA,BA,*3,KVA,XVA,,,SUA;1981 NEW TAI LUE LETTER LOW:QA,*3,KA,XA,NGA,*3,
   TSA,SA,YA,*3,TA,THA,NA,*3,PA,PHA,MA,*3,FA,VA,LA,*3,HA,DA,BA,,,KVA,XVA,,SUA;
   19B0 NEW TAI LUE VOWEL SIGN:VOWEL SHORTENER,AA,II,U,UU,E,AE,O,OA,UE,AY,AAY,UY,OY,OAY,UEY,
   IY;19C1 NEW TAI LUE LETTER FINAL:V,NG,N,M,K,D,B;19C8 NEW TAI LUE:TONE MARK-1*2,*16,
   THAM DIGIT ONE,*3,SIGN LAE,SIGN LAEV;19D0 NEW TAI LUE DIGIT:ZERO,ONE,TWO,THREE,FOUR,FIVE,
   SIX,SEVEN,EIGHT,NINE;19E0 KHMER SYMBOL:PATHAMASAT,MUOY KOET,PII KOET,BEI KOET,BUON KOET,
   PRAM KOET,PRAM-MUOY KOET,PRAM-PII KOET,PRAM-BEI KOET,PRAM-BUON KOET,DAP KOET,DAP-MUOY KOET,
   DAP-PII KOET,DAP-BEI KOET,DAP-BUON KOET,DAP-PRAM KOET,TUTEYASAT,MUOY ROC,PII ROC,BEI ROC,
   BUON ROC,PRAM ROC,PRAM-MUOY ROC,PRAM-PII ROC,PRAM-BEI ROC,PRAM-BUON ROC,DAP ROC,
   DAP-MUOY ROC,DAP-PII ROC,DAP-BEI ROC,DAP-BUON ROC,DAP-PRAM ROC;1A00 BUGINESE LETTER:KA,GA,
   NGA,NGKA,PA,BA,MA,MPA,TA,DA,NA,NRA,CA,JA,NYA,NYCA,YA,RA,LA,VA,SA,A,HA;
   1A17 BUGINESE VOWEL SIGN:I,U,E,O,AE;1A1E BUGINESE:PALLAWA,END OF SECTION;
   1A20 TAI THAM LETTER HIGH:KA,KHA,KXA,*4,CA,CHA,*5,RATHA,*3,TA,THA,*4,PA,PHA,FA,*5,YA,*5,
   SHA,SSA,SA,HA;1A23 TAI THAM LETTER LOW:KA,KXA,KHA,*3,CA,SA,CHA,*4,RATHA,*3,TA,THA,*5,PA,FA,
   PHA,,YA,*12,HA;1A26 TAI THAM LETTER:NGA,*5,NYA,RATA,,DA,,RANA,*4,NA,BA,*6,MA,,,RA,RUE,LA,
   LUE,WA,*4,LLA,A,,I,II,U,UU,EE,OO,LAE,GREAT SA;1A55 TAI THAM CONSONANT SIGN:MEDIAL RA,
   MEDIAL LA,LA TANG LAI,,FINAL NGA,LOW PA,HIGH RATHA OR LOW PA,MA,BA,SA;
   1A58 TAI THAM SIGN:MAI KANG LAI,*7,SAKOT,*19,MAI KANG,TONE-1*2,KHUEN TONE-3*3,RA HAAM,
   MAI SAM,KHUEN-LUE KARAN,*35,WIANG,WIANGWAAK,SAWAN,KEOW,HOY,DOKMAI,REVERSED ROTATED RANA,
   MAI YAMOK,KAAN,KAANKUU,SATKAAN,SATKAANKUU,HANG,CAANG;1A61 TAI THAM VOWEL SIGN:A,MAI SAT,AA,
   TALL AA,I,II,UE,UUE,U,UU,O,OA BELOW,OY,E,AE,OO,AI,THAM AI,OA ABOVE;
   1A7F TAI THAM:COMBINING CRYPTOGRAMMIC DOT;1A80 TAI THAM HORA DIGIT:ZERO,ONE,TWO,THREE,FOUR,
   FIVE,SIX,SEVEN,EIGHT,NINE;1A90 TAI THAM THAM DIGIT:ZERO,ONE,TWO,THREE,FOUR,FIVE,SIX,SEVEN,
   EIGHT,NINE;1AB0 COMBINING:DOUBLED CIRCUMFLEX ACCENT,DIAERESIS-RING,INFINITY,
   DOWNWARDS ARROW,TRIPLE DOT,X-X BELOW,WIGGLY LINE BELOW,OPEN MARK BELOW,,
   LIGHT CENTRALIZATION STROKE BELOW,STRONG CENTRALIZATION STROKE BELOW,PARENTHESES ABOVE,,
   PARENTHESES BELOW,PARENTHESES OVERLAY,*6,SQUARE BRACKETS ABOVE,NUMBER SIGN ABOVE,,
   PLUS SIGN ABOVE,,,TRIPLE ACUTE ACCENT;1AB8 COMBINING DOUBLE:OPEN MARK BELOW,*3,
   PARENTHESES ABOVE,*12,PLUS SIGN ABOVE,PLUS SIGN BELOW;
   1ABF COMBINING LATIN SMALL LETTER:W BELOW,TURNED W BELOW,*11,INSULAR G,INSULAR R,INSULAR T;
   1AC1 COMBINING LEFT:PARENTHESIS ABOVE LEFT,,PARENTHESIS BELOW LEFT;
   1AC2 COMBINING RIGHT:PARENTHESIS ABOVE RIGHT,,PARENTHESIS BELOW RIGHT;
   1AC7 COMBINING INVERTED:DOUBLE ARCH ABOVE;1B00 BALINESE SIGN:ULU RICEM,ULU CANDRA,CECEK,
   SURANG,BISAH,*47,REREKAN;1B05 BALINESE LETTER:AKARA,AKARA TEDUNG,IKARA,IKARA TEDUNG,UKARA,
   UKARA TEDUNG,RA REPA,RA REPA TEDUNG,LA LENGA,LA LENGA TEDUNG,EKARA,AIKARA,OKARA,
   OKARA TEDUNG,KA,KA MAHAPRANA,GA,GA GORA,NGA,CA,CA LACA,JA,JA JERA,NYA,TA LATIK,
   TA MURDA MAHAPRANA,DA MURDA ALPAPRANA,DA MURDA MAHAPRANA,NA RAMBAT,TA,TA TAWA,DA,DA MADU,
   NA,PA,PA KAPAL,BA,BA KEMBANG,MA,YA,RA,LA,WA,SA SAGA,SA SAPA,SA,HA,*17,KAF SASAK,KHOT SASAK,
   TZIR SASAK,EF SASAK,VE SASAK,ZAL SASAK,ASYURA SASAK,ARCHAIC JNYA;
   1B35 BALINESE VOWEL SIGN:TEDUNG,ULU,ULU SARI,SUKU,SUKU ILUT,RA REPA,RA REPA TEDUNG,
   LA LENGA,LA LENGA TEDUNG,TALING,TALING REPA,TALING TEDUNG,TALING REPA TEDUNG,PEPET,
   PEPET TEDUNG;1B44 BALINESE:ADEG ADEG,*21,PANTI,PAMADA,WINDU,CARIK PAMUNGKAH,CARIK SIKI,
   CARIK PAREREN,PAMENENG,*28,PANTI LANTANG,PAMADA LANTANG;1B50 BALINESE DIGIT:ZERO,ONE,TWO,
   THREE,FOUR,FIVE,SIX,SEVEN,EIGHT,NINE;1B61 BALINESE MUSICAL SYMBOL:DONG,DENG,DUNG,DANG,
   DANG SURANG,DING,DAENG,DEUNG,DAING,DANG GEDE,*9,RIGHT-HAND OPEN DUG,RIGHT-HAND OPEN DAG,
   RIGHT-HAND CLOSED TUK,RIGHT-HAND CLOSED TAK;1B6B BALINESE MUSICAL SYMBOL COMBINING:TEGEH,
   ENDEP,KEMPUL,KEMPLI,JEGOGAN,KEMPUL WITH JEGOGAN,KEMPLI WITH JEGOGAN,BENDE,GONG;
   1B78 BALINESE MUSICAL SYMBOL LEFT-HAND:OPEN PANG,OPEN PUNG,CLOSED PLAK,CLOSED PLUK,
   OPEN PING;1B80 SUNDANESE SIGN:PANYECEK,PANGLAYAR,PANGWISAD,*39,PAMAAEH,VIRAMA;
   1B83 SUNDANESE LETTER:A,I,U,AE,O,E,EU,KA,QA,GA,NGA,CA,JA,ZA,NYA,TA,DA,NA,PA,FA,VA,BA,MA,YA,
   RA,LA,WA,SA,XA,HA,*13,KHA,SYA,*11,REU,LEU,BHA,FINAL K,FINAL M;
   1BA1 SUNDANESE CONSONANT SIGN:PAMINGKAL,PANYAKRA,PANYIKU,*8,PASANGAN MA,PASANGAN WA;
   1BA4 SUNDANESE VOWEL SIGN:PANGHULU,PANYUKU,PANAELAENG,PANOLONG,PAMEPET,PANEULEUNG;
   1BB0 SUNDANESE DIGIT:ZERO,ONE,TWO,THREE,FOUR,FIVE,SIX,SEVEN,EIGHT,NINE;
   1BBA SUNDANESE:AVAGRAHA;1BC0 BATAK LETTER:A,,HA,,MANDAILING HA,BA,KARO BA,PA,,NA,
   MANDAILING NA,WA,,PAKPAK WA,GA,,JA,DA,RA,,MA,,SOUTHERN TA,NORTHERN TA,SA,,MANDAILING SA,YA,
   ,NGA,LA,,NYA,CA,NDA,MBA,I,U;1BC1 BATAK LETTER SIMALUNGUN:A,,HA,*4,PA,*3,WA,,,GA,*3,RA,,MA,
   *3,SA,,,YA,,,LA;1BE6 BATAK:SIGN TOMPI,*9,CONSONANT SIGN NG,CONSONANT SIGN H,PANGOLAT,
   PANONGONAN,*8,SYMBOL BINDU NA METEK,SYMBOL BINDU PINARBORAS,SYMBOL BINDU JUDUL,
   SYMBOL BINDU PANGOLAT;1BE7 BATAK VOWEL SIGN:E,PAKPAK E,EE,I,KARO I,O,KARO O,U,
   U FOR SIMALUNGUN SA;1C00 LEPCHA LETTER:KA,KLA,KHA,GA,GLA,NGA,CA,CHA,JA,NYA,TA,THA,DA,NA,PA,
   PLA,PHA,FA,FLA,BA,BLA,MA,MLA,TSA,TSHA,DZA,YA,RA,LA,HA,HLA,VA,SA,SHA,WA,A,*41,TTA,TTHA,DDA;
   1C24 LEPCHA:SUBJOINED LETTER YA,SUBJOINED LETTER RA,*16,SIGN RAN,SIGN NUKTA;
   1C26 LEPCHA VOWEL SIGN:AA,I,O,OO,U,UU,E;1C2D LEPCHA CONSONANT SIGN:K,M,L,N,P,R,T,NYIN-DO,
   KANG;1C3B LEPCHA PUNCTUATION:TA-ROL,NYET THYOOM TA-ROL,CER-WA,TSHOOK CER-WA,TSHOOK;
   1C40 LEPCHA DIGIT:ZERO,ONE,TWO,THREE,FOUR,FIVE,SIX,SEVEN,EIGHT,NINE;
   1C50 OL CHIKI DIGIT:ZERO,ONE,TWO,THREE,FOUR,FIVE,SIX,SEVEN,EIGHT,NINE;
   1C5A OL CHIKI LETTER:LA,AT,AG,ANG,AL,LAA,AAK,AAJ,AAM,AAW,LI,IS,IH,INY,IR,LU,UC,UD,UNN,UY,
   LE,EP,EDD,EN,ERR,LO,OTT,OB,OV,OH;1C78 OL CHIKI:MU TTUDDAG,GAAHLAA TTUDDAAG,
   MU-GAAHLAA TTUDDAAG,RELAA,PHAARKAA,AHAD,PUNCTUATION MUCAAD,PUNCTUATION DOUBLE MUCAAD;
   1C80 CYRILLIC SMALL LETTER:ROUNDED VE,LONG-LEGGED DE,NARROW O,WIDE ES,TALL TE,
   THREE-LEGGED TE,TALL HARD SIGN,TALL YAT,UNBLENDED UK;
   1C90 GEORGIAN MTAVRULI CAPITAL LETTER:AN,BAN,GAN,DON,EN,VIN,ZEN,TAN,IN,KAN,LAS,MAN,NAR,ON,
   PAR,ZHAR,RAE,SAN,TAR,UN,PHAR,KHAR,GHAN,QAR,SHIN,CHIN,CAN,JIL,CIL,CHAR,XAN,JHAN,HAE,HE,HIE,
   WE,HAR,HOE,FI,YN,ELIFI,TURNED GAN,AIN,,,AEN,HARD SIGN,LABIAL SIGN;
   1CC0 SUNDANESE PUNCTUATION BINDU:SURYA,PANGLONG,PURNAMA,CAKRA,LEU SATANGA,KA SATANGA,
   DA SATANGA,BA SATANGA;1CD0 VEDIC TONE:KARSHANA,SHARA,PRENKHA,,,
   YAJURVEDIC AGGRAVATED INDEPENDENT SVARITA,YAJURVEDIC INDEPENDENT SVARITA,
   YAJURVEDIC KATHAKA INDEPENDENT SVARITA,CANDRA BELOW,
   YAJURVEDIC KATHAKA INDEPENDENT SVARITA SCHROEDER,DOUBLE SVARITA,TRIPLE SVARITA,
   KATHAKA ANUDATTA,DOT BELOW,TWO DOTS BELOW,THREE DOTS BELOW,
   RIGVEDIC KASHMIRI INDEPENDENT SVARITA,ATHARVAVEDIC INDEPENDENT SVARITA,*18,CANDRA ABOVE,*3,
   RING ABOVE,DOUBLE RING ABOVE;1CD3 VEDIC SIGN:NIHSHVASA,YAJURVEDIC MIDLINE SVARITA,*15,
   REVERSED VISARGA UDATTA,,REVERSED VISARGA ANUDATTA,*6,TIRYAK,HEXIFORM LONG ANUSVARA,
   LONG ANUSVARA,RTHANG LONG ANUSVARA,,ARDHAVISARGA,ROTATED ARDHAVISARGA,,JIHVAMULIYA,
   UPADHMANIYA,ATIKRAMA,,,DOUBLE ANUSVARA ANTARGOMUKHA;1CE2 VEDIC SIGN VISARGA:SVARITA,UDATTA,
   ,ANUDATTA,,UDATTA WITH TAIL,ANUDATTA WITH TAIL;1CE9 VEDIC SIGN ANUSVARA:ANTARGOMUKHA,
   BAHIRGOMUKHA,VAMAGOMUKHA,VAMAGOMUKHA WITH TAIL,*4,UBHAYATO MUKHA;
   1D00 LATIN LETTER SMALL CAPITAL:A,AE,,BARRED B,C,D,ETH,E,,,J,K,L WITH STROKE,M,REVERSED N,
   O,OPEN O,*4,OU,,,P,REVERSED R,,T,U,*3,V,W,Z,EZH;1D02 LATIN SMALL LETTER TURNED:AE,*5,
   OPEN E,I,*10,OE;1D11 LATIN SMALL LETTER SIDEWAYS:O,OPEN O,O WITH STROKE,*9,U,DIAERESIZED U,
   TURNED M;1D16 LATIN SMALL LETTER:TOP HALF O,BOTTOM HALF O;
   1D1A LATIN LETTER SMALL CAPITAL TURNED:R;1D24 LATIN LETTER:VOICED LARYNGEAL SPIRANT,AIN;
   1D26 GREEK LETTER SMALL CAPITAL:GAMMA,LAMDA,PI,RHO,PSI;
   1D2B CYRILLIC:LETTER SMALL CAPITAL EL;1D2C MODIFIER LETTER CAPITAL:A,AE,B,BARRED B,D,E,
   REVERSED E,G*8,REVERSED N,O,OU,P,R,T,U,W;1D43 MODIFIER LETTER SMALL:A,,ALPHA,,B,D,E,SCHWA,
   OPEN E,,G,,K,M,ENG,O,OPEN O,TOP HALF O,BOTTOM HALF O,P,T,U,SIDEWAYS U,,V,AIN,BETA,
   GREEK GAMMA,DELTA,GREEK PHI,CHI,*58,C,C WITH CURL,ETH,REVERSED OPEN E,F,
   DOTLESS J WITH STROKE,SCRIPT G,,I WITH STROKE,IOTA,,,J WITH CROSSED-TAIL,*3,M WITH HOOK,,
   N WITH LEFT HOOK,N WITH RETROFLEX HOOK,,BARRED O,PHI,S WITH HOOK,ESH,T WITH PALATAL HOOK,
   U BAR,UPSILON,,V WITH HOOK,,Z,Z WITH RETROFLEX HOOK,Z WITH CURL,EZH,THETA;
   1D44 MODIFIER LETTER SMALL TURNED:A,,AE,*5,OPEN E,,I,*11,M;
   1D62 LATIN SUBSCRIPT SMALL LETTER:I,R,U,V;1D66 GREEK SUBSCRIPT SMALL LETTER:BETA,GAMMA,RHO,
   PHI,CHI;1D6B LATIN SMALL LETTER:UE,*14,TH WITH STRIKETHROUGH,,IOTA WITH STROKE,,,
   UPSILON WITH STROKE,*16,ALPHA WITH RETROFLEX HOOK,*4,SCHWA WITH RETROFLEX HOOK;
   1D6C LATIN SMALL LETTER B WITH:MIDDLE TILDE,*19,PALATAL HOOK;
   1D6D LATIN SMALL LETTER D WITH:MIDDLE TILDE,*19,PALATAL HOOK,*15,HOOK AND TAIL;
   1D6E LATIN SMALL LETTER F WITH:MIDDLE TILDE,*19,PALATAL HOOK;
   1D6F LATIN SMALL LETTER M WITH:MIDDLE TILDE,*22,PALATAL HOOK;
   1D70 LATIN SMALL LETTER N WITH:MIDDLE TILDE,*22,PALATAL HOOK;
   1D71 LATIN SMALL LETTER P WITH:MIDDLE TILDE,*11,STROKE,*10,PALATAL HOOK;
   1D72 LATIN SMALL LETTER R WITH:MIDDLE TILDE,FISHHOOK AND MIDDLE TILDE,*21,PALATAL HOOK;
   1D74 LATIN SMALL LETTER S WITH:MIDDLE TILDE,*21,PALATAL HOOK;
   1D75 LATIN SMALL LETTER T WITH:MIDDLE TILDE;1D76 LATIN SMALL LETTER Z WITH:MIDDLE TILDE,
   *23,PALATAL HOOK;1D77 LATIN SMALL LETTER TURNED:G;1D78 MODIFIER LETTER:CYRILLIC EN;
   1D79 LATIN SMALL LETTER INSULAR:G;1D7B LATIN SMALL:CAPITAL LETTER I WITH STROKE,,,
   CAPITAL LETTER U WITH STROKE;1D83 LATIN SMALL LETTER G WITH:PALATAL HOOK;
   1D84 LATIN SMALL LETTER K WITH:PALATAL HOOK;1D85 LATIN SMALL LETTER L WITH:PALATAL HOOK;
   1D8B LATIN SMALL LETTER ESH WITH:PALATAL HOOK,*12,RETROFLEX HOOK;
   1D8C LATIN SMALL LETTER V WITH:PALATAL HOOK;1D8D LATIN SMALL LETTER X WITH:PALATAL HOOK;
   1D8F LATIN SMALL LETTER A WITH:RETROFLEX HOOK;
   1D92 LATIN SMALL LETTER E WITH:RETROFLEX HOOK;
   1D93 LATIN SMALL LETTER OPEN:E WITH RETROFLEX HOOK,*3,O WITH RETROFLEX HOOK;
   1D94 LATIN SMALL LETTER REVERSED:OPEN E WITH RETROFLEX HOOK;
   1D96 LATIN SMALL LETTER I WITH:RETROFLEX HOOK;
   1D99 LATIN SMALL LETTER U WITH:RETROFLEX HOOK;
   1D9A LATIN SMALL LETTER EZH WITH:RETROFLEX HOOK;1D9B MODIFIER LETTER SMALL TURNED:ALPHA,*7,
   H,*9,M WITH LONG LEG,*12,V;1DA6 MODIFIER LETTER SMALL CAPITAL:I,I WITH STROKE,*3,L,*4,N,*7,
   U;1DA9 MODIFIER LETTER SMALL L WITH:RETROFLEX HOOK,PALATAL HOOK;
   1DC0 COMBINING:DOTTED GRAVE ACCENT,DOTTED ACUTE ACCENT,SNAKE BELOW,SUSPENSION MARK,
   MACRON-ACUTE,GRAVE-MACRON,MACRON-GRAVE,ACUTE-MACRON,GRAVE-ACUTE-GRAVE,ACUTE-GRAVE-ACUTE,,
   BREVE-MACRON,MACRON-BREVE,,OGONEK ABOVE,ZIGZAG BELOW,IS BELOW,UR ABOVE,US ABOVE,*34,
   UP TACK ABOVE,KAVYKA ABOVE RIGHT,KAVYKA ABOVE LEFT,,WIDE INVERTED BRIDGE BELOW,,
   DELETION MARK,,ALMOST EQUAL TO BELOW;1DCA COMBINING LATIN SMALL LETTER:R BELOW,*8,
   FLATTENED OPEN A ABOVE,AE,AO,AV,C CEDILLA,INSULAR D,ETH,G,,K,L,,,N,,,R ROTUNDA,S,LONG S,Z,
   ALPHA,B,BETA,SCHWA,F,L WITH DOUBLE MIDDLE TILDE,O WITH LIGHT CENTRALIZATION STROKE,P,ESH,
   U WITH LIGHT CENTRALIZATION STROKE,W,A WITH DIAERESIS,O WITH DIAERESIS,U WITH DIAERESIS;
   1DCD COMBINING DOUBLE:CIRCUMFLEX ABOVE,*46,INVERTED BREVE BELOW;
   1DDB COMBINING LATIN LETTER SMALL CAPITAL:G,,,L,M,,N,R;1DF8 COMBINING DOT:ABOVE LEFT,,
   BELOW LEFT;1DFE COMBINING LEFT:ARROWHEAD ABOVE;
   1DFF COMBINING RIGHT:ARROWHEAD AND DOWN ARROWHEAD BELOW;
   1E00 LATIN CAPITAL LETTER A WITH:RING BELOW;1E01 LATIN SMALL LETTER A WITH:RING BELOW;
   1E02 LATIN CAPITAL LETTER B WITH:DOT ABOVE,,DOT BELOW,,LINE BELOW;
   1E03 LATIN SMALL LETTER B WITH:DOT ABOVE,,DOT BELOW,,LINE BELOW;
   1E08 LATIN CAPITAL LETTER C WITH:CEDILLA AND ACUTE;
   1E09 LATIN SMALL LETTER C WITH:CEDILLA AND ACUTE;
   1E0A LATIN CAPITAL LETTER D WITH:DOT ABOVE,,DOT BELOW,,LINE BELOW,,CEDILLA,,
   CIRCUMFLEX BELOW;1E0B LATIN SMALL LETTER D WITH:DOT ABOVE,,DOT BELOW,,LINE BELOW,,CEDILLA,,
   CIRCUMFLEX BELOW;1E14 LATIN CAPITAL LETTER E WITH:MACRON AND GRAVE,,MACRON AND ACUTE,*3,
   TILDE BELOW,,CEDILLA AND BREVE;1E15 LATIN SMALL LETTER E WITH:MACRON AND GRAVE,,
   MACRON AND ACUTE,*3,TILDE BELOW,,CEDILLA AND BREVE;
   1E18 LATIN CAPITAL LETTER E WITH CIRCUMFLEX:BELOW;
   1E19 LATIN SMALL LETTER E WITH CIRCUMFLEX:BELOW;1E1E LATIN CAPITAL LETTER:F WITH DOT ABOVE,
   *31,M WITH ACUTE,,M WITH DOT ABOVE,,M WITH DOT BELOW,*57,V WITH TILDE,,V WITH DOT BELOW,
   *11,X WITH DOT ABOVE,,X WITH DIAERESIS,*17,SHARP S;
   1E1F LATIN SMALL LETTER F WITH:DOT ABOVE;1E20 LATIN CAPITAL LETTER G WITH:MACRON;
   1E21 LATIN SMALL LETTER G WITH:MACRON;1E22 LATIN CAPITAL LETTER H WITH:DOT ABOVE,,
   DOT BELOW,,DIAERESIS,,CEDILLA,,BREVE BELOW;1E23 LATIN SMALL LETTER H WITH:DOT ABOVE,,
   DOT BELOW,,DIAERESIS,,CEDILLA,,BREVE BELOW;1E2C LATIN CAPITAL LETTER I WITH:TILDE BELOW,,
   DIAERESIS AND ACUTE;1E2D LATIN SMALL LETTER I WITH:TILDE BELOW,,DIAERESIS AND ACUTE;
   1E30 LATIN CAPITAL LETTER K WITH:ACUTE,,DOT BELOW,,LINE BELOW;
   1E31 LATIN SMALL LETTER K WITH:ACUTE,,DOT BELOW,,LINE BELOW;
   1E36 LATIN CAPITAL LETTER L WITH:DOT BELOW,,DOT BELOW AND MACRON,,LINE BELOW,,
   CIRCUMFLEX BELOW;1E37 LATIN SMALL LETTER L WITH:DOT BELOW,,DOT BELOW AND MACRON,,
   LINE BELOW,,CIRCUMFLEX BELOW;1E3F LATIN SMALL LETTER M WITH:ACUTE,,DOT ABOVE,,DOT BELOW;
   1E44 LATIN CAPITAL LETTER N WITH:DOT ABOVE,,DOT BELOW,,LINE BELOW,,CIRCUMFLEX BELOW;
   1E45 LATIN SMALL LETTER N WITH:DOT ABOVE,,DOT BELOW,,LINE BELOW,,CIRCUMFLEX BELOW;
   1E4C LATIN CAPITAL LETTER O WITH:TILDE AND ACUTE,,TILDE AND DIAERESIS,,MACRON AND GRAVE,,
   MACRON AND ACUTE;1E4D LATIN SMALL LETTER O WITH:TILDE AND ACUTE,,TILDE AND DIAERESIS,,
   MACRON AND GRAVE,,MACRON AND ACUTE;1E54 LATIN CAPITAL LETTER P WITH:ACUTE,,DOT ABOVE;
   1E55 LATIN SMALL LETTER P WITH:ACUTE,,DOT ABOVE;1E58 LATIN CAPITAL LETTER R WITH:DOT ABOVE,
   ,DOT BELOW,,DOT BELOW AND MACRON,,LINE BELOW;1E59 LATIN SMALL LETTER R WITH:DOT ABOVE,,
   DOT BELOW,,DOT BELOW AND MACRON,,LINE BELOW;1E60 LATIN CAPITAL LETTER S WITH:DOT ABOVE,,
   DOT BELOW,,ACUTE AND DOT ABOVE,,CARON AND DOT ABOVE,,DOT BELOW AND DOT ABOVE;
   1E61 LATIN SMALL LETTER S WITH:DOT ABOVE,,DOT BELOW,,ACUTE AND DOT ABOVE,,
   CARON AND DOT ABOVE,,DOT BELOW AND DOT ABOVE;1E6A LATIN CAPITAL LETTER T WITH:DOT ABOVE,,
   DOT BELOW,,LINE BELOW,,CIRCUMFLEX BELOW;1E6B LATIN SMALL LETTER T WITH:DOT ABOVE,,
   DOT BELOW,,LINE BELOW,,CIRCUMFLEX BELOW,*37,DIAERESIS;
   1E72 LATIN CAPITAL LETTER U WITH DIAERESIS:BELOW;
   1E73 LATIN SMALL LETTER U WITH DIAERESIS:BELOW;
   1E74 LATIN CAPITAL LETTER U WITH:TILDE BELOW,,CIRCUMFLEX BELOW,,TILDE AND ACUTE,,
   MACRON AND DIAERESIS;1E75 LATIN SMALL LETTER U WITH:TILDE BELOW,,CIRCUMFLEX BELOW,,
   TILDE AND ACUTE,,MACRON AND DIAERESIS;1E7D LATIN SMALL LETTER V WITH:TILDE,,DOT BELOW;
   1E80 LATIN CAPITAL LETTER W WITH:GRAVE,,ACUTE,,DIAERESIS,,DOT ABOVE,,DOT BELOW;
   1E81 LATIN SMALL LETTER W WITH:GRAVE,,ACUTE,,DIAERESIS,,DOT ABOVE,,DOT BELOW,*14,
   RING ABOVE;1E8B LATIN SMALL LETTER X WITH:DOT ABOVE,,DIAERESIS;
   1E8E LATIN CAPITAL LETTER Y WITH:DOT ABOVE;1E8F LATIN SMALL LETTER Y WITH:DOT ABOVE,*9,
   RING ABOVE;1E90 LATIN CAPITAL LETTER Z WITH:CIRCUMFLEX,,DOT BELOW,,LINE BELOW;
   1E91 LATIN SMALL LETTER Z WITH:CIRCUMFLEX,,DOT BELOW,,LINE BELOW;
   1E96 LATIN SMALL LETTER H WITH:LINE BELOW;1E9A LATIN SMALL LETTER A WITH:RIGHT HALF RING,
   *6,DOT BELOW,,HOOK ABOVE;1E9B LATIN SMALL LETTER:LONG S WITH DOT ABOVE,
   LONG S WITH DIAGONAL STROKE,LONG S WITH HIGH STROKE,,DELTA;
   1EA0 LATIN CAPITAL LETTER A WITH:DOT BELOW,,HOOK ABOVE;
   1EA4 LATIN CAPITAL LETTER A WITH CIRCUMFLEX AND:ACUTE,,GRAVE,,HOOK ABOVE,,TILDE,,DOT BELOW;
   1EA5 LATIN SMALL LETTER A WITH CIRCUMFLEX AND:ACUTE,,GRAVE,,HOOK ABOVE,,TILDE,,DOT BELOW;
   1EAE LATIN CAPITAL LETTER A WITH BREVE AND:ACUTE,,GRAVE,,HOOK ABOVE,,TILDE,,DOT BELOW;
   1EAF LATIN SMALL LETTER A WITH BREVE AND:ACUTE,,GRAVE,,HOOK ABOVE,,TILDE,,DOT BELOW;
   1EB8 LATIN CAPITAL LETTER E WITH:DOT BELOW,,HOOK ABOVE,,TILDE;
   1EB9 LATIN SMALL LETTER E WITH:DOT BELOW,,HOOK ABOVE,,TILDE;
   1EBE LATIN CAPITAL LETTER E WITH CIRCUMFLEX AND:ACUTE,,GRAVE,,HOOK ABOVE,,TILDE,,DOT BELOW;
   1EBF LATIN SMALL LETTER E WITH CIRCUMFLEX AND:ACUTE,,GRAVE,,HOOK ABOVE,,TILDE,,DOT BELOW;
   1EC8 LATIN CAPITAL LETTER I WITH:HOOK ABOVE,,DOT BELOW;
   1EC9 LATIN SMALL LETTER I WITH:HOOK ABOVE,,DOT BELOW;
   1ECC LATIN CAPITAL LETTER O WITH:DOT BELOW,,HOOK ABOVE;
   1ECD LATIN SMALL LETTER O WITH:DOT BELOW,,HOOK ABOVE;
   1ED0 LATIN CAPITAL LETTER O WITH CIRCUMFLEX AND:ACUTE,,GRAVE,,HOOK ABOVE,,TILDE,,DOT BELOW;
   1ED1 LATIN SMALL LETTER O WITH CIRCUMFLEX AND:ACUTE,,GRAVE,,HOOK ABOVE,,TILDE,,DOT BELOW;
   1EDA LATIN CAPITAL LETTER O WITH HORN AND:ACUTE,,GRAVE,,HOOK ABOVE,,TILDE,,DOT BELOW;
   1EDB LATIN SMALL LETTER O WITH HORN AND:ACUTE,,GRAVE,,HOOK ABOVE,,TILDE,,DOT BELOW;
   1EE4 LATIN CAPITAL LETTER U WITH:DOT BELOW,,HOOK ABOVE;
   1EE5 LATIN SMALL LETTER U WITH:DOT BELOW,,HOOK ABOVE;
   1EE8 LATIN CAPITAL LETTER U WITH HORN AND:ACUTE,,GRAVE,,HOOK ABOVE,,TILDE,,DOT BELOW;
   1EE9 LATIN SMALL LETTER U WITH HORN AND:ACUTE,,GRAVE,,HOOK ABOVE,,TILDE,,DOT BELOW;
   1EF2 LATIN CAPITAL LETTER Y WITH:GRAVE,,DOT BELOW,,HOOK ABOVE,,TILDE,*5,LOOP;
   1EF3 LATIN SMALL LETTER Y WITH:GRAVE,,DOT BELOW,,HOOK ABOVE,,TILDE,*5,LOOP;
   1EFA LATIN CAPITAL LETTER:MIDDLE-WELSH LL,,MIDDLE-WELSH V;
   1EFB LATIN SMALL LETTER:MIDDLE-WELSH LL,,MIDDLE-WELSH V;
   1F00 GREEK SMALL LETTER ALPHA WITH:PSILI,DASIA;
   1F02 GREEK SMALL LETTER ALPHA WITH PSILI AND:VARIA,,OXIA,,PERISPOMENI;
   1F03 GREEK SMALL LETTER ALPHA WITH DASIA AND:VARIA,,OXIA,,PERISPOMENI;
   1F08 GREEK CAPITAL LETTER ALPHA WITH:PSILI,DASIA;
   1F0A GREEK CAPITAL LETTER ALPHA WITH PSILI AND:VARIA,,OXIA,,PERISPOMENI;
   1F0B GREEK CAPITAL LETTER ALPHA WITH DASIA AND:VARIA,,OXIA,,PERISPOMENI;
   1F10 GREEK SMALL LETTER EPSILON WITH:PSILI,DASIA,PSILI AND VARIA,DASIA AND VARIA,
   PSILI AND OXIA,DASIA AND OXIA;1F18 GREEK CAPITAL LETTER EPSILON WITH:PSILI,DASIA,
   PSILI AND VARIA,DASIA AND VARIA,PSILI AND OXIA,DASIA AND OXIA;
   1F20 GREEK SMALL LETTER ETA WITH:PSILI,DASIA;
   1F22 GREEK SMALL LETTER ETA WITH PSILI AND:VARIA,,OXIA,,PERISPOMENI;
   1F23 GREEK SMALL LETTER ETA WITH DASIA AND:VARIA,,OXIA,,PERISPOMENI;
   1F28 GREEK CAPITAL LETTER ETA WITH:PSILI,DASIA;
   1F2A GREEK CAPITAL LETTER ETA WITH PSILI AND:VARIA,,OXIA,,PERISPOMENI;
   1F2B GREEK CAPITAL LETTER ETA WITH DASIA AND:VARIA,,OXIA,,PERISPOMENI;
   1F30 GREEK SMALL LETTER IOTA WITH:PSILI,DASIA,PSILI AND VARIA,DASIA AND VARIA,
   PSILI AND OXIA,DASIA AND OXIA,PSILI AND PERISPOMENI,DASIA AND PERISPOMENI,*62,VARIA,OXIA;
   1F38 GREEK CAPITAL LETTER IOTA WITH:PSILI,DASIA,PSILI AND VARIA,DASIA AND VARIA,
   PSILI AND OXIA,DASIA AND OXIA,PSILI AND PERISPOMENI,DASIA AND PERISPOMENI;
   1F40 GREEK SMALL LETTER OMICRON WITH:PSILI,DASIA,PSILI AND VARIA,DASIA AND VARIA,
   PSILI AND OXIA,DASIA AND OXIA,*50,VARIA,OXIA;1F48 GREEK CAPITAL LETTER OMICRON WITH:PSILI,
   DASIA,PSILI AND VARIA,DASIA AND VARIA,PSILI AND OXIA,DASIA AND OXIA;
   1F50 GREEK SMALL LETTER UPSILON WITH:PSILI,DASIA,PSILI AND VARIA,DASIA AND VARIA,
   PSILI AND OXIA,DASIA AND OXIA,PSILI AND PERISPOMENI,DASIA AND PERISPOMENI,*34,VARIA,OXIA;
   1F59 GREEK CAPITAL LETTER UPSILON WITH:DASIA,,DASIA AND VARIA,,DASIA AND OXIA,,
   DASIA AND PERISPOMENI;1F60 GREEK SMALL LETTER OMEGA WITH:PSILI,DASIA,*26,VARIA,OXIA;
   1F62 GREEK SMALL LETTER OMEGA WITH PSILI AND:VARIA,,OXIA,,PERISPOMENI,*57,YPOGEGRAMMENI,,
   VARIA AND YPOGEGRAMMENI,,OXIA AND YPOGEGRAMMENI,,PERISPOMENI AND YPOGEGRAMMENI;
   1F63 GREEK SMALL LETTER OMEGA WITH DASIA AND:VARIA,,OXIA,,PERISPOMENI,*57,YPOGEGRAMMENI,,
   VARIA AND YPOGEGRAMMENI,,OXIA AND YPOGEGRAMMENI,,PERISPOMENI AND YPOGEGRAMMENI;
   1F68 GREEK CAPITAL LETTER OMEGA WITH:PSILI,DASIA;
   1F6A GREEK CAPITAL LETTER OMEGA WITH PSILI AND:VARIA,,OXIA,,PERISPOMENI,*57,PROSGEGRAMMENI,
   ,VARIA AND PROSGEGRAMMENI,,OXIA AND PROSGEGRAMMENI,,PERISPOMENI AND PROSGEGRAMMENI;
   1F6B GREEK CAPITAL LETTER OMEGA WITH DASIA AND:VARIA,,OXIA,,PERISPOMENI,*57,PROSGEGRAMMENI,
   ,VARIA AND PROSGEGRAMMENI,,OXIA AND PROSGEGRAMMENI,,PERISPOMENI AND PROSGEGRAMMENI;
   1F70 GREEK SMALL LETTER ALPHA WITH:VARIA,OXIA,*62,VRACHY,MACRON,VARIA AND YPOGEGRAMMENI,
   YPOGEGRAMMENI,OXIA AND YPOGEGRAMMENI,,PERISPOMENI,PERISPOMENI AND YPOGEGRAMMENI;
   1F72 GREEK SMALL LETTER EPSILON WITH:VARIA,OXIA;1F74 GREEK SMALL LETTER ETA WITH:VARIA,
   OXIA;1F80 GREEK SMALL LETTER ALPHA WITH PSILI AND:YPOGEGRAMMENI,,VARIA AND YPOGEGRAMMENI,,
   OXIA AND YPOGEGRAMMENI,,PERISPOMENI AND YPOGEGRAMMENI;
   1F81 GREEK SMALL LETTER ALPHA WITH DASIA AND:YPOGEGRAMMENI,,VARIA AND YPOGEGRAMMENI,,
   OXIA AND YPOGEGRAMMENI,,PERISPOMENI AND YPOGEGRAMMENI;
   1F88 GREEK CAPITAL LETTER ALPHA WITH PSILI AND:PROSGEGRAMMENI,,VARIA AND PROSGEGRAMMENI,,
   OXIA AND PROSGEGRAMMENI,,PERISPOMENI AND PROSGEGRAMMENI;
   1F89 GREEK CAPITAL LETTER ALPHA WITH DASIA AND:PROSGEGRAMMENI,,VARIA AND PROSGEGRAMMENI,,
   OXIA AND PROSGEGRAMMENI,,PERISPOMENI AND PROSGEGRAMMENI;
   1F90 GREEK SMALL LETTER ETA WITH PSILI AND:YPOGEGRAMMENI,,VARIA AND YPOGEGRAMMENI,,
   OXIA AND YPOGEGRAMMENI,,PERISPOMENI AND YPOGEGRAMMENI;
   1F91 GREEK SMALL LETTER ETA WITH DASIA AND:YPOGEGRAMMENI,,VARIA AND YPOGEGRAMMENI,,
   OXIA AND YPOGEGRAMMENI,,PERISPOMENI AND YPOGEGRAMMENI;
   1F98 GREEK CAPITAL LETTER ETA WITH PSILI AND:PROSGEGRAMMENI,,VARIA AND PROSGEGRAMMENI,,
   OXIA AND PROSGEGRAMMENI,,PERISPOMENI AND PROSGEGRAMMENI;
   1F99 GREEK CAPITAL LETTER ETA WITH DASIA AND:PROSGEGRAMMENI,,VARIA AND PROSGEGRAMMENI,,
   OXIA AND PROSGEGRAMMENI,,PERISPOMENI AND PROSGEGRAMMENI;
   1FB8 GREEK CAPITAL LETTER ALPHA WITH:VRACHY,MACRON,VARIA,OXIA,PROSGEGRAMMENI;
   1FBD GREEK:KORONIS,PROSGEGRAMMENI,PSILI,PERISPOMENI,DIALYTIKA AND PERISPOMENI,*11,
   PSILI AND VARIA,PSILI AND OXIA,PSILI AND PERISPOMENI,*13,DASIA AND VARIA,DASIA AND OXIA,
   DASIA AND PERISPOMENI,*13,DIALYTIKA AND VARIA,DIALYTIKA AND OXIA,VARIA,*13,OXIA,DASIA;
   1FC2 GREEK SMALL LETTER ETA WITH:VARIA AND YPOGEGRAMMENI,YPOGEGRAMMENI,
   OXIA AND YPOGEGRAMMENI,,PERISPOMENI,PERISPOMENI AND YPOGEGRAMMENI;
   1FC8 GREEK CAPITAL LETTER EPSILON WITH:VARIA,OXIA;1FCA GREEK CAPITAL LETTER ETA WITH:VARIA,
   OXIA,PROSGEGRAMMENI;1FD0 GREEK SMALL LETTER IOTA WITH:VRACHY,MACRON,DIALYTIKA AND VARIA,
   DIALYTIKA AND OXIA,,,PERISPOMENI,DIALYTIKA AND PERISPOMENI;
   1FD8 GREEK CAPITAL LETTER IOTA WITH:VRACHY,MACRON,VARIA,OXIA;
   1FE0 GREEK SMALL LETTER UPSILON WITH:VRACHY,MACRON,DIALYTIKA AND VARIA,DIALYTIKA AND OXIA,,
   ,PERISPOMENI,DIALYTIKA AND PERISPOMENI;1FE4 GREEK SMALL LETTER:RHO WITH PSILI,
   RHO WITH DASIA;1FE8 GREEK CAPITAL LETTER UPSILON WITH:VRACHY,MACRON,VARIA,OXIA;
   1FEC GREEK CAPITAL LETTER:RHO WITH DASIA;
   1FF2 GREEK SMALL LETTER OMEGA WITH:VARIA AND YPOGEGRAMMENI,YPOGEGRAMMENI,
   OXIA AND YPOGEGRAMMENI,,PERISPOMENI,PERISPOMENI AND YPOGEGRAMMENI;
   1FF8 GREEK CAPITAL LETTER OMICRON WITH:VARIA,OXIA;
   1FFA GREEK CAPITAL LETTER OMEGA WITH:VARIA,OXIA,PROSGEGRAMMENI"

end Grading.Text
