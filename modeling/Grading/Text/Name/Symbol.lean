/-!
# Symbol — names of signs

The rows of the table are read as `Grading.Text.rowCode?` says.
-/

namespace Grading.Text

def symbolNames : String :=
  "2000 :EN QUAD,EM QUAD,EN SPACE,EM SPACE,THREE-PER-EM SPACE,FOUR-PER-EM SPACE,
   SIX-PER-EM SPACE,FIGURE SPACE,PUNCTUATION SPACE,THIN SPACE,HAIR SPACE,ZERO WIDTH SPACE,
   ZERO WIDTH NON-JOINER,ZERO WIDTH JOINER,LEFT-TO-RIGHT MARK,RIGHT-TO-LEFT MARK,HYPHEN,
   NON-BREAKING HYPHEN,FIGURE DASH,EN DASH,EM DASH,*5,SINGLE LOW-9 QUOTATION MARK,
   SINGLE HIGH-REVERSED-9 QUOTATION MARK,*4,DAGGER,,BULLET,TRIANGULAR BULLET,ONE DOT LEADER,,,
   HYPHENATION POINT,LINE SEPARATOR,PARAGRAPH SEPARATOR,LEFT-TO-RIGHT EMBEDDING,
   RIGHT-TO-LEFT EMBEDDING,POP DIRECTIONAL FORMATTING,LEFT-TO-RIGHT OVERRIDE,
   RIGHT-TO-LEFT OVERRIDE,NARROW NO-BREAK SPACE,PER MILLE SIGN,PER TEN THOUSAND SIGN,PRIME,*5,
   CARET,SINGLE LEFT-POINTING ANGLE QUOTATION MARK,SINGLE RIGHT-POINTING ANGLE QUOTATION MARK,
   REFERENCE MARK,,INTERROBANG,OVERLINE,UNDERTIE,CHARACTER TIE,CARET INSERTION POINT,ASTERISM,
   HYPHEN BULLET,FRACTION SLASH,*3,QUESTION EXCLAMATION MARK,EXCLAMATION QUESTION MARK,
   TIRONIAN SIGN ET,*5,CLOSE UP,,COMMERCIAL MINUS SIGN,SWUNG DASH,,FLOWER PUNCTUATION MARK,,
   QUADRUPLE PRIME,,FIVE DOT PUNCTUATION,*3,TRICOLON,,,WORD JOINER,FUNCTION APPLICATION,
   INVISIBLE TIMES,INVISIBLE SEPARATOR,INVISIBLE PLUS,,LEFT-TO-RIGHT ISOLATE,
   RIGHT-TO-LEFT ISOLATE,,POP DIRECTIONAL ISOLATE,INHIBIT SYMMETRIC SWAPPING,
   ACTIVATE SYMMETRIC SWAPPING,INHIBIT ARABIC FORM SHAPING,ACTIVATE ARABIC FORM SHAPING,
   NATIONAL DIGIT SHAPES,NOMINAL DIGIT SHAPES,*48,EURO-CURRENCY SIGN,COLON SIGN,CRUZEIRO SIGN,
   FRENCH FRANC SIGN,LIRA SIGN,MILL SIGN,NAIRA SIGN,PESETA SIGN,RUPEE SIGN,WON SIGN,,
   DONG SIGN,EURO SIGN,KIP SIGN,TUGRIK SIGN,DRACHMA SIGN,GERMAN PENNY SIGN,PESO SIGN,
   GUARANI SIGN,AUSTRAL SIGN,HRYVNIA SIGN,CEDI SIGN,LIVRE TOURNOIS SIGN,SPESMILO SIGN,
   TENGE SIGN,INDIAN RUPEE SIGN,TURKISH LIRA SIGN,NORDIC MARK SIGN,MANAT SIGN,RUBLE SIGN,
   LARI SIGN,BITCOIN SIGN,SOM SIGN,*63,ACCOUNT OF,ADDRESSED TO THE SUBJECT,,DEGREE CELSIUS,
   CENTRE LINE SYMBOL,CARE OF,CADA UNA,EULER CONSTANT,SCRUPLE,DEGREE FAHRENHEIT,*4,
   PLANCK CONSTANT,PLANCK CONSTANT OVER TWO PI,*4,L B BAR SYMBOL,,NUMERO SIGN,
   SOUND RECORDING C\x4fPYRIGHT,*6,PRESCRIPTION TAKE,RESPONSE,SERVICE MARK,,TRADE MARK SIGN,
   VERSICLE,,OUNCE SIGN,OHM SIGN,*3,KELVIN SIGN,ANGSTROM SIGN,,,ESTIMATED SYMBOL,*6,
   ALEF SYMBOL,BET SYMBOL,GIMEL SYMBOL,DALET SYMBOL,INFORMATION SOURCE,,FACSIMILE SIGN,*14,
   PROPERTY LINE,,PER SIGN,AKTIESELSKAB,*17,FRACTION NUMERATOR ONE;2015 HORIZONTAL:BAR,*16,
   ELLIPSIS;2016 DOUBLE VERTICAL:LINE;2017 DOUBLE:LOW LINE,*6,LOW-9 QUOTATION MARK,
   HIGH-REVERSED-9 QUOTATION MARK,,DAGGER,*17,PRIME,*8,EXCLAMATION MARK,*10,QUESTION MARK;
   2018 LEFT:SINGLE QUOTATION MARK,*3,DOUBLE QUOTATION MARK;2019 RIGHT:SINGLE QUOTATION MARK;
   201D RIGHT DOUBLE:QUOTATION MARK;2025 TWO:DOT LEADER,*43,ASTERISKS ALIGNED VERTICALLY,*8,
   DOT PUNCTUATION;2034 TRIPLE:PRIME;2035 REVERSED:PRIME,DOUBLE PRIME,TRIPLE PRIME,*19,
   PILCROW SIGN,*3,SEMICOLON;2045 LEFT SQUARE BRACKET WITH:QUILL;
   2046 RIGHT SQUARE BRACKET WITH:QUILL;204C BLACK:LEFTWARDS BULLET,RIGHTWARDS BULLET;
   204E LOW:ASTERISK;2054 INVERTED:UNDERTIE;2056 THREE:DOT PUNCTUATION;
   2058 FOUR:DOT PUNCTUATION,,,DOT MARK;205C DOTTED:CROSS;205E VERTICAL:FOUR DOTS;
   205F MEDIUM:MATHEMATICAL SPACE;2068 FIRST:STRONG ISOLATE;2070 SUPERSCRIPT:ZERO,
   LATIN SMALL LETTER I,,,FOUR,FIVE,SIX,SEVEN,EIGHT,NINE,PLUS SIGN,MINUS,EQUALS SIGN,
   LEFT PARENTHESIS,RIGHT PARENTHESIS,LATIN SMALL LETTER N;2080 SUBSCRIPT:ZERO,ONE,TWO,THREE,
   FOUR,FIVE,SIX,SEVEN,EIGHT,NINE,PLUS SIGN,MINUS,EQUALS SIGN,LEFT PARENTHESIS,
   RIGHT PARENTHESIS;2090 LATIN SUBSCRIPT SMALL LETTER:A,E,O,X,SCHWA,H,K*4,P,S,T;
   20AA NEW:SHEQEL SIGN;20D0 COMBINING LEFT:HARPOON ABOVE,*5,ARROW ABOVE,*10,
   RIGHT ARROW ABOVE,*12,ARROW BELOW;20D1 COMBINING RIGHT:HARPOON ABOVE,*5,ARROW ABOVE,*23,
   ARROW BELOW;20D2 COMBINING:LONG VERTICAL LINE OVERLAY,SHORT VERTICAL LINE OVERLAY,
   ANTICLOCKWISE ARROW ABOVE,CLOCKWISE ARROW ABOVE,,,RING OVERLAY,CLOCKWISE RING OVERLAY,
   ANTICLOCKWISE RING OVERLAY,THREE DOTS ABOVE,FOUR DOTS ABOVE,*8,REVERSE SOLIDUS OVERLAY,,
   ANNUITY SYMBOL,TRIPLE UNDERDOT,WIDE BRIDGE ABOVE,LEFTWARDS ARROW OVERLAY,
   LONG DOUBLE SOLIDUS OVERLAY,RIGHTWARDS HARPOON WITH BARB DOWNWARDS,
   LEFTWARDS HARPOON WITH BARB DOWNWARDS,,,ASTERISK ABOVE;20DD COMBINING ENCLOSING:CIRCLE,
   SQUARE,DIAMOND,CIRCLE BACKSLASH,,SCREEN,KEYCAP,UPWARD POINTING TRIANGLE;
   20E6 COMBINING DOUBLE:VERTICAL STROKE OVERLAY;2102 DOUBLE-STRUCK CAPITAL:C,*10,H,*7,N,*3,P,
   Q,,,R,*6,Z,*25,GAMMA,PI;210A SCRIPT:SMALL G,*8,SMALL L,*27,SMALL E,*4,SMALL O;
   210B SCRIPT CAPITAL:H,*4,I,,L,*5,P,,,R,*16,B,*3,E,F,,M;210C BLACK-LETTER CAPITAL:H,*4,I,
   *10,R,*11,Z,*4,C;2121 TELEPHONE:SIGN;2127 INVERTED:OHM SIGN;
   2129 TURNED:GREEK SMALL LETTER IOTA,*8,CAPITAL F,*14,SANS-SERIF CAPITAL G,
   SANS-SERIF CAPITAL L,,SANS-SERIF CAPITAL Y,*6,AMPERSAND,,,SMALL F,*59,DIGIT TWO,
   DIGIT THREE;213A ROTATED:CAPITAL Q;213C DOUBLE-STRUCK:SMALL PI,SMALL GAMMA,,,
   N-ARY SUMMATION;2143 REVERSED:SANS-SERIF CAPITAL L;2145 DOUBLE-STRUCK ITALIC:CAPITAL D,
   SMALL D*2,SMALL I*2;214F SYMBOL FOR:SAMARITAN SOURCE;2150 VULGAR FRACTION ONE:SEVENTH,
   NINTH,TENTH,THIRD,,FIFTH,*3,SIXTH,,EIGHTH;2154 VULGAR FRACTION:TWO THIRDS,,TWO FIFTHS,
   THREE FIFTHS,FOUR FIFTHS,,FIVE SIXTHS,,THREE EIGHTHS,FIVE EIGHTHS,SEVEN EIGHTHS,*42,
   ZERO THIRDS;2160 ROMAN NUMERAL:ONE,TWO,THREE,FOUR,FIVE,SIX,SEVEN,EIGHT,NINE,TEN,ELEVEN,
   TWELVE,FIFTY,ONE HUNDRED,FIVE HUNDRED,ONE THOUSAND,*16,ONE THOUSAND C D,FIVE THOUSAND,
   TEN THOUSAND,REVERSED ONE HUNDRED,,SIX LATE FORM,FIFTY EARLY FORM,FIFTY THOUSAND,
   ONE HUNDRED THOUSAND;2170 SMALL ROMAN NUMERAL:ONE,TWO,THREE,FOUR,FIVE,SIX,SEVEN,EIGHT,NINE,
   TEN,ELEVEN,TWELVE,FIFTY,ONE HUNDRED,FIVE HUNDRED,ONE THOUSAND;
   2184 LATIN SMALL LETTER REVERSED:C;2190 LEFTWARDS:ARROW,*11,WAVE ARROW,,TWO HEADED ARROW,
   *40,PAIRED ARROWS,*18,TRIPLE ARROW,,SQUIGGLE ARROW,*3,DASHED ARROW,*5,WHITE ARROW,*22,
   OPEN-HEADED ARROW;2191 UPWARDS:ARROW,*13,TWO HEADED ARROW,*40,PAIRED ARROWS,*8,
   DOUBLE ARROW,*15,DASHED ARROW;2192 RIGHTWARDS:ARROW,*10,WAVE ARROW,,,TWO HEADED ARROW,*40,
   PAIRED ARROWS,*17,TRIPLE ARROW,,SQUIGGLE ARROW,*4,DASHED ARROW,*5,WHITE ARROW,*7,
   WHITE ARROW FROM WALL,*13,OPEN-HEADED ARROW;2193 DOWNWARDS:ARROW,*13,TWO HEADED ARROW,*13,
   ZIGZAG ARROW,*26,PAIRED ARROWS,*8,DOUBLE ARROW,*15,DASHED ARROW,*5,WHITE ARROW;
   2194 LEFT RIGHT:ARROW,*24,WAVE ARROW,ARROW WITH STROKE,*31,DOUBLE ARROW WITH STROKE,*5,
   DOUBLE ARROW,*36,ARROW WITH VERTICAL STROKE,,,ARROW WITH DOUBLE VERTICAL STROKE,,,
   OPEN-HEADED ARROW;2195 UP DOWN:ARROW,*18,ARROW WITH BASE,*44,DOUBLE ARROW,*29,WHITE ARROW;
   2196 NORTH WEST:ARROW,*63,DOUBLE ARROW;2197 NORTH EAST:ARROW,*63,DOUBLE ARROW;
   2198 SOUTH EAST:ARROW,*63,DOUBLE ARROW,*25,ARROW TO CORNER;2199 SOUTH WEST:ARROW,*63,
   DOUBLE ARROW;219A LEFTWARDS ARROW WITH:STROKE,*7,TAIL,*6,HOOK,,LOOP;
   219B RIGHTWARDS ARROW WITH:STROKE,*7,TAIL,*6,HOOK,,LOOP,*7,CORNER DOWNWARDS;
   21A4 LEFTWARDS ARROW:FROM BAR,*20,TO BAR OVER RIGHTWARDS ARROW TO BAR,*12,
   OVER RIGHTWARDS ARROW,*29,TO BAR;21A5 UPWARDS ARROW:FROM BAR,*31,
   LEFTWARDS OF DOWNWARDS ARROW;21A6 RIGHTWARDS ARROW:FROM BAR,*29,OVER LEFTWARDS ARROW,*32,
   TO BAR;21A7 DOWNWARDS ARROW:FROM BAR;21B0 UPWARDS ARROW WITH:TIP LEFTWARDS,TIP RIGHTWARDS,
   *44,DOUBLE STROKE;21B2 DOWNWARDS ARROW WITH:TIP LEFTWARDS,TIP RIGHTWARDS,,CORNER LEFTWARDS,
   *41,DOUBLE STROKE;21B6 ANTICLOCKWISE:TOP SEMICIRCLE ARROW,*3,OPEN CIRCLE ARROW;
   21B7 CLOCKWISE:TOP SEMICIRCLE ARROW,*3,OPEN CIRCLE ARROW;21B8 NORTH WEST ARROW:TO LONG BAR,
   *56,TO CORNER;21BC LEFTWARDS HARPOON WITH BARB:UPWARDS,DOWNWARDS;
   21BE UPWARDS HARPOON WITH BARB:RIGHTWARDS,LEFTWARDS;
   21C0 RIGHTWARDS HARPOON WITH BARB:UPWARDS,DOWNWARDS;
   21C2 DOWNWARDS HARPOON WITH BARB:RIGHTWARDS,LEFTWARDS;
   21CB LEFTWARDS HARPOON:OVER RIGHTWARDS HARPOON;
   21CC RIGHTWARDS HARPOON:OVER LEFTWARDS HARPOON;21CD LEFTWARDS DOUBLE:ARROW WITH STROKE,,,
   ARROW;21CF RIGHTWARDS DOUBLE:ARROW WITH STROKE,,,ARROW;21E7 UPWARDS WHITE:ARROW,*6,
   DOUBLE ARROW,DOUBLE ARROW ON PEDESTAL;21EA UPWARDS WHITE ARROW:FROM BAR,ON PEDESTAL,
   ON PEDESTAL WITH HORIZONTAL BAR,ON PEDESTAL WITH VERTICAL BAR;
   21F4 RIGHT:ARROW WITH SMALL CIRCLE,*42,ANGLE;
   21F5 DOWNWARDS ARROW:LEFTWARDS OF UPWARDS ARROW;21F6 THREE:RIGHTWARDS ARROWS;
   21F7 LEFTWARDS ARROW WITH:VERTICAL STROKE,,,DOUBLE VERTICAL STROKE;
   21F8 RIGHTWARDS ARROW WITH:VERTICAL STROKE,,,DOUBLE VERTICAL STROKE;2200 :FOR ALL,
   COMPLEMENT,PARTIAL DIFFERENTIAL,THERE EXISTS,THERE DOES NOT EXIST,,INCREMENT,NABLA,*6,
   END OF PROOF,*4,MINUS-OR-PLUS SIGN,DOT PLUS,DIVISION SLASH,SET MINUS,ASTERISK OPERATOR,,
   BULLET OPERATOR,,CUBE ROOT,FOURTH ROOT,PROPORTIONAL TO,INFINITY,,ANGLE,,SPHERICAL ANGLE,
   DIVIDES,,PARALLEL TO,*3,INTERSECTION,UNION,INTEGRAL,,,CONTOUR INTEGRAL,SURFACE INTEGRAL,
   VOLUME INTEGRAL,*3,THEREFORE,BECAUSE,RATIO,PROPORTION,DOT MINUS,EXCESS,
   GEOMETRIC PROPORTION,HOMOTHETIC,*3,SINE WAVE,WREATH PRODUCT,,,ASYMPTOTICALLY EQUAL TO,,
   APPROXIMATELY EQUAL TO,APPROXIMATELY BUT NOT ACTUALLY EQUAL TO,,ALMOST EQUAL TO,,
   ALMOST EQUAL OR EQUAL TO,,ALL EQUAL TO,EQUIVALENT TO,GEOMETRICALLY EQUIVALENT TO,
   DIFFERENCE BETWEEN,APPROACHES THE LIMIT,GEOMETRICALLY EQUAL TO,
   APPROXIMATELY EQUAL TO OR THE IMAGE OF,IMAGE OF OR APPROXIMATELY EQUAL TO,COLON EQUALS,*3,
   CORRESPONDS TO,ESTIMATES,EQUIANGULAR TO,,DELTA EQUAL TO,,,QUESTIONED EQUAL TO,,
   IDENTICAL TO,,STRICTLY EQUIVALENT TO,*6,MUCH LESS-THAN,MUCH GREATER-THAN,BETWEEN,*13,
   PRECEDES,SUCCEEDS,*16,MULTISET,MULTISET MULTIPLICATION,MULTISET UNION,*23,ASSERTION,MODELS,
   TRUE,FORCES,*5,NEGATED DOUBLE VERTICAL BAR DOUBLE RIGHT TURNSTILE,,,NORMAL SUBGROUP OF,,
   NORMAL SUBGROUP OF OR EQUAL TO,,\x4fRIGINAL OF,IMAGE OF,MULTIMAP,HERMITIAN CONJUGATE MATRIX,
   INTERCALATE,XOR,NAND,NOR,*7,DOT OPERATOR,,DIVISION TIMES,BOWTIE,*5,CURLY LOGICAL OR,
   CURLY LOGICAL AND,*4,PITCHFORK,*26,MIDLINE HORIZONTAL ELLIPSIS,*16,DIAMETER SIGN,
   ELECTRIC ARROW,HOUSE,,,PROJECTIVE,PERSPECTIVE,WAVY LINE,*10,ARC,SEGMENT,SECTOR,,
   POSITION INDICATOR,VIEWDATA SQUARE,PLACE OF INTEREST SIGN,,WATCH,HOURGLASS,*6,FROWN,SMILE,,
   OPTION KEY,ERASE TO THE RIGHT,X IN A RECTANGLE BOX,KEYBOARD,LEFT-POINTING ANGLE BRACKET,
   RIGHT-POINTING ANGLE BRACKET,ERASE TO THE LEFT,BENZENE RING,CYLINDRICITY,
   ALL AROUND-PROFILE,SYMMETRY,TOTAL RUNOUT,DIMENSION ORIGIN,CONICAL TAPER,SLOPE,COUNTERBORE,
   COUNTERSINK;2205 EMPTY:SET;2208 ELEMENT:OF;2209 NOT:AN ELEMENT OF,*28,PARALLEL TO,*26,
   TILDE,,,ASYMPTOTICALLY EQUAL TO,*4,ALMOST EQUAL TO,*22,EQUAL TO,,IDENTICAL TO,*10,
   EQUIVALENT TO,LESS-THAN,GREATER-THAN,*20,A SUBSET OF,A SUPERSET OF,*39,TRUE,*52,
   SQUARE IMAGE OF OR EQUAL TO,SQUARE \x4fRIGINAL OF OR EQUAL TO,*6,NORMAL SUBGROUP OF,,
   NORMAL SUBGROUP OF OR EQUAL TO;220A SMALL:ELEMENT OF,,,CONTAINS AS MEMBER;
   220B CONTAINS:AS MEMBER;220C DOES NOT:CONTAIN AS MEMBER,*23,DIVIDE;220F N-ARY:PRODUCT,
   COPRODUCT,SUMMATION;2212 MINUS:SIGN,*47,TILDE;2218 RING:OPERATOR,*61,IN EQUAL TO,EQUAL TO;
   221A SQUARE:ROOT;2221 MEASURED:ANGLE,*60,BY;2227 LOGICAL:AND,OR;222C DOUBLE:INTEGRAL;
   222D TRIPLE:INTEGRAL,*29,TILDE;2231 CLOCKWISE:INTEGRAL,CONTOUR INTEGRAL;
   2233 ANTICLOCKWISE:CONTOUR INTEGRAL;223C TILDE:OPERATOR;223D REVERSED:TILDE;
   223E INVERTED:LAZY S;2247 NEITHER:APPROXIMATELY NOR ACTUALLY EQUAL TO,*40,
   LESS-THAN NOR EQUAL TO,GREATER-THAN NOR EQUAL TO,,,LESS-THAN NOR EQUIVALENT TO,
   GREATER-THAN NOR EQUIVALENT TO,,,LESS-THAN NOR GREATER-THAN,GREATER-THAN NOR LESS-THAN,*14,
   A SUBSET OF NOR EQUAL TO,A SUPERSET OF NOR EQUAL TO;2255 EQUALS:COLON;225B STAR:EQUALS;
   225D EQUAL TO:BY DEFINITION;2264 LESS-THAN OR:EQUAL TO,*13,EQUIVALENT TO,*3,GREATER-THAN;
   2265 GREATER-THAN OR:EQUAL TO,*13,EQUIVALENT TO,*3,LESS-THAN;2266 LESS-THAN:OVER EQUAL TO,,
   BUT NOT EQUAL TO;2267 GREATER-THAN:OVER EQUAL TO,,BUT NOT EQUAL TO;
   227C PRECEDES:OR EQUAL TO,,OR EQUIVALENT TO,*49,UNDER RELATION,*55,BUT NOT EQUIVALENT TO;
   227D SUCCEEDS:OR EQUAL TO,,OR EQUIVALENT TO,*49,UNDER RELATION,*55,BUT NOT EQUIVALENT TO;
   2280 DOES NOT:PRECEDE,SUCCEED,*42,PROVE,,FORCE,*49,PRECEDE OR EQUAL,SUCCEED OR EQUAL,*9,
   CONTAIN AS NORMAL SUBGROUP,,CONTAIN AS NORMAL SUBGROUP OR EQUAL;2282 SUBSET:OF;
   2283 SUPERSET:OF;2286 SUBSET OF:OR EQUAL TO,*3,WITH NOT EQUAL TO;
   2287 SUPERSET OF:OR EQUAL TO,*3,WITH NOT EQUAL TO;228F SQUARE:IMAGE OF,\x4fRIGINAL OF,
   IMAGE OF OR EQUAL TO,\x4fRIGINAL OF OR EQUAL TO,CAP,CUP;2295 CIRCLED:PLUS,MINUS,TIMES,
   DIVISION SLASH,DOT OPERATOR,RING OPERATOR,ASTERISK OPERATOR,EQUALS,DASH;229E SQUARED:PLUS,
   MINUS,TIMES,DOT OPERATOR;22A2 RIGHT:TACK,*28,TRIANGLE,*10,NORMAL FACTOR SEMIDIRECT PRODUCT,
   ,SEMIDIRECT PRODUCT,*60,CEILING,,FLOOR;22A3 LEFT:TACK,*37,NORMAL FACTOR SEMIDIRECT PRODUCT,
   ,SEMIDIRECT PRODUCT,*60,CEILING,,FLOOR;22A4 DOWN:TACK;22A5 UP:TACK;
   22AA TRIPLE:VERTICAL BAR RIGHT TURNSTILE;22AB DOUBLE VERTICAL:BAR DOUBLE RIGHT TURNSTILE;
   22B3 CONTAINS:AS NORMAL SUBGROUP,,AS NORMAL SUBGROUP OR EQUAL TO;22BE RIGHT ANGLE:WITH ARC;
   22C0 N-ARY:LOGICAL AND,LOGICAL OR,INTERSECTION,UNION;22C4 DIAMOND:OPERATOR;
   22C6 STAR:OPERATOR;22CD REVERSED:TILDE EQUALS;22D0 DOUBLE:SUBSET,SUPERSET,INTERSECTION,
   UNION;22D5 EQUAL:AND PARALLEL TO;22D6 LESS-THAN:WITH DOT,*3,EQUAL TO OR GREATER-THAN,*11,
   BUT NOT EQUIVALENT TO;22D7 GREATER-THAN:WITH DOT,*3,EQUAL TO OR LESS-THAN,*11,
   BUT NOT EQUIVALENT TO;22D8 VERY:MUCH LESS-THAN,MUCH GREATER-THAN;
   22DC EQUAL TO:OR LESS-THAN,OR GREATER-THAN,OR PRECEDES,OR SUCCEEDS;
   22E4 SQUARE:IMAGE OF OR NOT EQUAL TO,\x4fRIGINAL OF OR NOT EQUAL TO,*43,LOZENGE;
   22EE VERTICAL:ELLIPSIS;22F0 UP:RIGHT DIAGONAL ELLIPSIS,*18,ARROWHEAD,*32,
   ARROWHEAD BETWEEN TWO HORIZONTAL BARS;22F1 DOWN:RIGHT DIAGONAL ELLIPSIS,*18,ARROWHEAD;
   22F2 ELEMENT OF WITH:LONG HORIZONTAL STROKE,VERTICAL BAR AT END OF HORIZONTAL STROKE,,
   DOT ABOVE,OVERBAR,,UNDERBAR,TWO HORIZONTAL STROKES;
   22F4 SMALL:ELEMENT OF WITH VERTICAL BAR AT END OF HORIZONTAL STROKE,,,
   ELEMENT OF WITH OVERBAR,*4,CONTAINS WITH VERTICAL BAR AT END OF HORIZONTAL STROKE,,
   CONTAINS WITH OVERBAR;22FA CONTAINS:WITH LONG HORIZONTAL STROKE,
   WITH VERTICAL BAR AT END OF HORIZONTAL STROKE,,WITH OVERBAR;22FF Z NOTATION:BAG MEMBERSHIP;
   230C BOTTOM:RIGHT CROP,LEFT CROP,*16,LEFT CORNER,RIGHT CORNER,,HALF INTEGRAL;
   230E TOP:RIGHT CROP,LEFT CROP,*12,LEFT CORNER,RIGHT CORNER;2310 REVERSED:NOT SIGN;
   2315 TELEPHONE:RECORDER;2319 TURNED:NOT SIGN;2320 TOP HALF:INTEGRAL;
   2336 APL FUNCTIONAL SYMBOL:I-BEAM,SQUISH QUAD,*7,SLASH BAR,BACKSLASH BAR,*4,LEFTWARDS VANE,
   RIGHTWARDS VANE,*3,DOWN TACK UNDERBAR,DELTA STILE,,,DOWN TACK JOT,UPWARDS VANE,,,DEL STILE,
   *3,DOWNWARDS VANE,,QUOTE UNDERBAR,DELTA UNDERBAR,DIAMOND UNDERBAR,JOT UNDERBAR,,,
   QUOTE QUAD,*3,DEL DIAERESIS,STAR DIAERESIS,JOT DIAERESIS,,DOWN SHOE STILE,LEFT SHOE STILE,
   TILDE DIAERESIS,GREATER-THAN DIAERESIS,COMMA BAR,DEL TILDE,ZILDE,STILE TILDE,
   SEMICOLON UNDERBAR,,,DOWN CARET TILDE,,IOTA,RHO,OMEGA,ALPHA UNDERBAR,EPSILON UNDERBAR,
   IOTA UNDERBAR,OMEGA UNDERBAR,ALPHA,*26,QUAD;2338 APL FUNCTIONAL SYMBOL QUAD:EQUAL,DIVIDE,
   DIAMOND,JOT,CIRCLE,*4,SLASH,BACKSLASH,LESS-THAN,GREATER-THAN,,,LEFTWARDS ARROW,
   RIGHTWARDS ARROW,*3,DOWN CARET,DELTA,,,UPWARDS ARROW,,,UP CARET,DEL,,,DOWNWARDS ARROW,*8,
   COLON,*14,NOT EQUAL,QUESTION;233D APL FUNCTIONAL SYMBOL CIRCLE:STILE,JOT,*10,BACKSLASH,*18,
   UNDERBAR,,,STAR,*5,DIAERESIS;2351 APL FUNCTIONAL SYMBOL UP:TACK OVERBAR,*3,TACK JOT,*7,
   SHOE JOT,*3,TACK DIAERESIS,*16,CARET TILDE;237B NOT:CHECK MARK;
   237C RIGHT ANGLE:WITH DOWNWARDS ZIGZAG ARROW;237D :SHOULDERED OPEN BOX,BELL SYMBOL,,
   INSERTION SYMBOL,CONTINUOUS UNDERLINE SYMBOL,DISCONTINUOUS UNDERLINE SYMBOL,
   EMPHASIS SYMBOL,COMPOSITION SYMBOL,,ENTER SYMBOL,ALTERNATIVE KEY SYMBOL,HELM SYMBOL,,,
   BROKEN CIRCLE WITH NORTHWEST ARROW,UNDO SYMBOL,MONOSTABLE SYMBOL,HYSTERESIS SYMBOL,
   OPEN-CIRCUIT-OUTPUT H-TYPE SYMBOL,OPEN-CIRCUIT-OUTPUT L-TYPE SYMBOL,
   PASSIVE-PULL-DOWN-OUTPUT SYMBOL,PASSIVE-PULL-UP-OUTPUT SYMBOL,
   DIRECT CURRENT SYMBOL FORM TWO,SOFTWARE-FUNCTION SYMBOL,,DECIMAL SEPARATOR KEY SYMBOL,
   PREVIOUS PAGE,NEXT PAGE,PRINT SCREEN SYMBOL,CLEAR SCREEN SYMBOL,*15,
   CURLY BRACKET EXTENSION,*7,SUMMATION TOP,SUMMATION BOTTOM,*3,RADICAL SYMBOL BOTTOM,*22,
   RETURN SYMBOL,EJECT SYMBOL,*10,EARTH GROUND,FUSE,*7,BENZENE RING WITH CIRCLE,STRAIGHTNESS,
   FLATNESS,AC CURRENT,ELECTRICAL INTERSECTION,DECIMAL EXPONENT SYMBOL,*7,ALARM CLOCK,
   STOPWATCH,TIMER CLOCK,HOURGLASS WITH FLOWING SAND,*7,POWER SYMBOL,POWER ON-OFF SYMBOL,
   POWER ON SYMBOL,POWER SLEEP SYMBOL,OBSERVER EYE SYMBOL,*34,BLANK SYMBOL;
   237F VERTICAL:LINE WITH MIDDLE DOT;2385 WHITE SQUARE WITH:CENTRE VERTICAL LINE;
   2389 CIRCLED:HORIZONTAL BAR WITH NOTCH,TRIANGLE DOWN;239B LEFT:PARENTHESIS UPPER HOOK,
   PARENTHESIS EXTENSION,PARENTHESIS LOWER HOOK,*9,CURLY BRACKET UPPER HOOK,
   CURLY BRACKET MIDDLE PIECE,CURLY BRACKET LOWER HOOK,*14,VERTICAL BOX LINE;
   239E RIGHT:PARENTHESIS UPPER HOOK,PARENTHESIS EXTENSION,PARENTHESIS LOWER HOOK,*10,
   CURLY BRACKET UPPER HOOK,CURLY BRACKET MIDDLE PIECE,CURLY BRACKET LOWER HOOK,*11,
   VERTICAL BOX LINE;23A1 LEFT SQUARE BRACKET:UPPER CORNER,EXTENSION,LOWER CORNER;
   23A4 RIGHT SQUARE BRACKET:UPPER CORNER,EXTENSION,LOWER CORNER;23AE INTEGRAL:EXTENSION;
   23AF HORIZONTAL:LINE EXTENSION,*10,SCAN LINE-1,SCAN LINE-3,SCAN LINE-7,SCAN LINE-9;
   23B0 UPPER LEFT:OR LOWER RIGHT CURLY BRACKET SECTION;
   23B1 UPPER RIGHT:OR LOWER LEFT CURLY BRACKET SECTION;23B4 TOP:SQUARE BRACKET,*39,
   PARENTHESIS,,CURLY BRACKET,,TORTOISE SHELL BRACKET;23B5 BOTTOM:SQUARE BRACKET,
   SQUARE BRACKET OVER TOP SQUARE BRACKET,*38,PARENTHESIS,,CURLY BRACKET,,
   TORTOISE SHELL BRACKET;23BE DENTISTRY SYMBOL LIGHT VERTICAL AND:TOP RIGHT,BOTTOM RIGHT,*6,
   WAVE,*4,TOP LEFT,BOTTOM LEFT;23C0 DENTISTRY SYMBOL LIGHT VERTICAL:WITH CIRCLE,,,
   WITH TRIANGLE;23C1 DENTISTRY SYMBOL LIGHT:DOWN AND HORIZONTAL WITH CIRCLE,
   UP AND HORIZONTAL WITH CIRCLE,,DOWN AND HORIZONTAL WITH TRIANGLE,
   UP AND HORIZONTAL WITH TRIANGLE,,DOWN AND HORIZONTAL WITH WAVE,UP AND HORIZONTAL WITH WAVE,
   DOWN AND HORIZONTAL,UP AND HORIZONTAL;23CD SQUARE:FOOT;23D0 VERTICAL:LINE EXTENSION;
   23D1 METRICAL:BREVE,LONG OVER SHORT,SHORT OVER LONG,LONG OVER TWO SHORTS,
   TWO SHORTS OVER LONG,TWO SHORTS JOINED,TRISEME,TETRASEME,PENTASEME;23E2 WHITE:TRAPEZIUM;
   23E9 BLACK RIGHT-POINTING:DOUBLE TRIANGLE,*3,DOUBLE TRIANGLE WITH VERTICAL BAR,,
   TRIANGLE WITH DOUBLE VERTICAL BAR;23EA BLACK LEFT-POINTING:DOUBLE TRIANGLE,*3,
   DOUBLE TRIANGLE WITH VERTICAL BAR;23EB BLACK:UP-POINTING DOUBLE TRIANGLE,
   DOWN-POINTING DOUBLE TRIANGLE,*12,SQUARE FOR STOP,CIRCLE FOR RECORD;
   23F4 BLACK MEDIUM:LEFT-POINTING TRIANGLE,RIGHT-POINTING TRIANGLE,UP-POINTING TRIANGLE,
   DOWN-POINTING TRIANGLE;23F8 DOUBLE VERTICAL:BAR;2400 SYMBOL FOR:NULL,START OF HEADING,
   START OF TEXT,END OF TEXT,END OF TRANSMISSION,ENQUIRY,ACKNOWLEDGE,BELL,BACKSPACE,
   HORIZONTAL TABULATION,LINE FEED,VERTICAL TABULATION,FORM FEED,CARRIAGE RETURN,SHIFT OUT,
   SHIFT IN,DATA LINK ESCAPE,DEVICE CONTROL ONE,DEVICE CONTROL TWO,DEVICE CONTROL THREE,
   DEVICE CONTROL FOUR,NEGATIVE ACKNOWLEDGE,SYNCHRONOUS IDLE,END OF TRANSMISSION BLOCK,CANCEL,
   END OF MEDIUM,SUBSTITUTE,ESCAPE,FILE SEPARATOR,GROUP SEPARATOR,RECORD SEPARATOR,
   UNIT SEPARATOR,SPACE,DELETE,,,NEWLINE,DELETE FORM TWO,SUBSTITUTE FORM TWO;2423 OPEN:BOX;
   2440 OCR:HOOK,CHAIR,FORK,INVERTED FORK,BELT BUCKLE,BOW TIE,BRANCH BANK IDENTIFICATION,
   AMOUNT OF CHECK,DASH,CUSTOMER ACCOUNT NUMBER,DOUBLE BACKSLASH;2460 CIRCLED DIGIT:ONE,TWO,
   THREE,FOUR,FIVE,SIX,SEVEN,EIGHT,NINE;2469 CIRCLED NUMBER:TEN,ELEVEN,TWELVE,THIRTEEN,
   FOURTEEN,FIFTEEN,SIXTEEN,SEVENTEEN,EIGHTEEN,NINETEEN,TWENTY;2474 PARENTHESIZED DIGIT:ONE,
   TWO,THREE,FOUR,FIVE,SIX,SEVEN,EIGHT,NINE;247D PARENTHESIZED NUMBER:TEN,ELEVEN,TWELVE,
   THIRTEEN,FOURTEEN,FIFTEEN,SIXTEEN,SEVENTEEN,EIGHTEEN,NINETEEN,TWENTY;
   2488 DIGIT:ONE FULL STOP,TWO FULL STOP,THREE FULL STOP,FOUR FULL STOP,FIVE FULL STOP,
   SIX FULL STOP,SEVEN FULL STOP,EIGHT FULL STOP,NINE FULL STOP;2491 NUMBER:TEN FULL STOP,
   ELEVEN FULL STOP,TWELVE FULL STOP,THIRTEEN FULL STOP,FOURTEEN FULL STOP,FIFTEEN FULL STOP,
   SIXTEEN FULL STOP,SEVENTEEN FULL STOP,EIGHTEEN FULL STOP,NINETEEN FULL STOP,
   TWENTY FULL STOP;249C PARENTHESIZED LATIN SMALL LETTER:A*26;
   24B6 CIRCLED LATIN CAPITAL LETTER:A*26;24D0 CIRCLED LATIN SMALL LETTER:A*26;
   24EA CIRCLED DIGIT:ZERO;24EB NEGATIVE CIRCLED NUMBER:ELEVEN,TWELVE,THIRTEEN,FOURTEEN,
   FIFTEEN,SIXTEEN,SEVENTEEN,EIGHTEEN,NINETEEN,TWENTY;24F5 DOUBLE CIRCLED DIGIT:ONE,TWO,THREE,
   FOUR,FIVE,SIX,SEVEN,EIGHT,NINE;24FE DOUBLE CIRCLED:NUMBER TEN;
   24FF NEGATIVE CIRCLED:DIGIT ZERO;2500 BOX DRAWINGS LIGHT:HORIZONTAL,,VERTICAL,,
   TRIPLE DASH HORIZONTAL,,TRIPLE DASH VERTICAL,,QUADRUPLE DASH HORIZONTAL,,
   QUADRUPLE DASH VERTICAL,,DOWN AND RIGHT,*3,DOWN AND LEFT,*3,UP AND RIGHT,*3,UP AND LEFT,*3,
   VERTICAL AND RIGHT,*7,VERTICAL AND LEFT,*7,DOWN AND HORIZONTAL,*7,UP AND HORIZONTAL,*7,
   VERTICAL AND HORIZONTAL,*15,DOUBLE DASH HORIZONTAL,,DOUBLE DASH VERTICAL,*30,
   ARC DOWN AND RIGHT,ARC DOWN AND LEFT,ARC UP AND LEFT,ARC UP AND RIGHT,*3,LEFT,UP,RIGHT,
   DOWN,*4,LEFT AND HEAVY RIGHT,UP AND HEAVY DOWN;2501 BOX DRAWINGS HEAVY:HORIZONTAL,,
   VERTICAL,,TRIPLE DASH HORIZONTAL,,TRIPLE DASH VERTICAL,,QUADRUPLE DASH HORIZONTAL,,
   QUADRUPLE DASH VERTICAL,*3,DOWN AND RIGHT,*3,DOWN AND LEFT,*3,UP AND RIGHT,*3,UP AND LEFT,
   *7,VERTICAL AND RIGHT,*7,VERTICAL AND LEFT,*7,DOWN AND HORIZONTAL,*7,UP AND HORIZONTAL,*15,
   VERTICAL AND HORIZONTAL,,DOUBLE DASH HORIZONTAL,,DOUBLE DASH VERTICAL,*40,LEFT,UP,RIGHT,
   DOWN,,,LEFT AND LIGHT RIGHT,UP AND LIGHT DOWN;250D BOX DRAWINGS DOWN LIGHT AND:RIGHT HEAVY,
   *3,LEFT HEAVY,*15,RIGHT UP HEAVY,*7,LEFT UP HEAVY,*5,HORIZONTAL HEAVY,*23,
   UP HORIZONTAL HEAVY;250E BOX DRAWINGS DOWN HEAVY AND:RIGHT LIGHT,*3,LEFT LIGHT,*12,
   RIGHT UP LIGHT,*7,LEFT UP LIGHT,*8,HORIZONTAL LIGHT,*16,UP HORIZONTAL LIGHT;
   2515 BOX DRAWINGS UP LIGHT AND:RIGHT HEAVY,*3,LEFT HEAVY,*8,RIGHT DOWN HEAVY,*7,
   LEFT DOWN HEAVY,*12,HORIZONTAL HEAVY,*16,DOWN HORIZONTAL HEAVY;
   2516 BOX DRAWINGS UP HEAVY AND:RIGHT LIGHT,*3,LEFT LIGHT,*3,RIGHT DOWN LIGHT,*7,
   LEFT DOWN LIGHT,*17,HORIZONTAL LIGHT,*7,DOWN HORIZONTAL LIGHT;
   251D BOX DRAWINGS VERTICAL:LIGHT AND RIGHT HEAVY,,,HEAVY AND RIGHT LIGHT,*4,
   LIGHT AND LEFT HEAVY,,,HEAVY AND LEFT LIGHT,*22,LIGHT AND HORIZONTAL HEAVY,,,
   HEAVY AND HORIZONTAL LIGHT,*27,SINGLE AND RIGHT DOUBLE,DOUBLE AND RIGHT SINGLE,,
   SINGLE AND LEFT DOUBLE,DOUBLE AND LEFT SINGLE,*7,SINGLE AND HORIZONTAL DOUBLE,
   DOUBLE AND HORIZONTAL SINGLE;252D BOX DRAWINGS LEFT:HEAVY AND RIGHT DOWN LIGHT,*4,
   LIGHT AND RIGHT DOWN HEAVY,,,HEAVY AND RIGHT UP LIGHT,*4,LIGHT AND RIGHT UP HEAVY,,,
   HEAVY AND RIGHT VERTICAL LIGHT,*5,UP HEAVY AND RIGHT DOWN LIGHT,,
   DOWN HEAVY AND RIGHT UP LIGHT,*4,LIGHT AND RIGHT VERTICAL HEAVY;
   252E BOX DRAWINGS RIGHT:HEAVY AND LEFT DOWN LIGHT,,,LIGHT AND LEFT DOWN HEAVY,*4,
   HEAVY AND LEFT UP LIGHT,,,LIGHT AND LEFT UP HEAVY,*4,HEAVY AND LEFT VERTICAL LIGHT,*5,
   UP HEAVY AND LEFT DOWN LIGHT,,DOWN HEAVY AND LEFT UP LIGHT,,,LIGHT AND LEFT VERTICAL HEAVY;
   2550 BOX DRAWINGS DOUBLE:HORIZONTAL,VERTICAL,,,DOWN AND RIGHT,,,DOWN AND LEFT,,,
   UP AND RIGHT,,,UP AND LEFT,,,VERTICAL AND RIGHT,,,VERTICAL AND LEFT,,,DOWN AND HORIZONTAL,,
   ,UP AND HORIZONTAL,,,VERTICAL AND HORIZONTAL;
   2552 BOX DRAWINGS DOWN:SINGLE AND RIGHT DOUBLE,DOUBLE AND RIGHT SINGLE,,
   SINGLE AND LEFT DOUBLE,DOUBLE AND LEFT SINGLE,*13,SINGLE AND HORIZONTAL DOUBLE,
   DOUBLE AND HORIZONTAL SINGLE;2558 BOX DRAWINGS UP:SINGLE AND RIGHT DOUBLE,
   DOUBLE AND RIGHT SINGLE,,SINGLE AND LEFT DOUBLE,DOUBLE AND LEFT SINGLE,*10,
   SINGLE AND HORIZONTAL DOUBLE,DOUBLE AND HORIZONTAL SINGLE;
   2571 BOX DRAWINGS LIGHT DIAGONAL UPPER:RIGHT TO LOWER LEFT,LEFT TO LOWER RIGHT;
   2573 BOX DRAWINGS LIGHT DIAGONAL:CROSS;2580 UPPER HALF:BLOCK;2581 LOWER:ONE EIGHTH BLOCK,
   ONE QUARTER BLOCK,THREE EIGHTHS BLOCK,HALF BLOCK,FIVE EIGHTHS BLOCK,THREE QUARTERS BLOCK,
   SEVEN EIGHTHS BLOCK;2588 FULL:BLOCK;2589 LEFT:SEVEN EIGHTHS BLOCK,THREE QUARTERS BLOCK,
   FIVE EIGHTHS BLOCK,,THREE EIGHTHS BLOCK,ONE QUARTER BLOCK,ONE EIGHTH BLOCK;
   258C LEFT HALF:BLOCK;2590 RIGHT HALF:BLOCK;2591 LIGHT:SHADE;2592 MEDIUM:SHADE;
   2593 :DARK SHADE,*53,FISHEYE,LOZENGE,*3,BULLSEYE,*50,CLOUD,UMBRELLA,SNOWMAN,COMET,,,
   LIGHTNING,THUNDERSTORM,SUN,ASCENDING NODE,DESCENDING NODE,CONJUNCTION,OPPOSITION,*5,
   SALTIRE,UMBRELLA WITH RAIN DROPS,HOT BEVERAGE,,,SHAMROCK,*7,SKULL AND CROSSBONES,
   CAUTION SIGN,RADIOACTIVE SIGN,BIOHAZARD SIGN,CADUCEUS,ANKH,ORTHODOX CROSS,CHI RHO,*3,
   FARSI SYMBOL,ADI SHAKTI,HAMMER AND SICKLE,PEACE SYMBOL,YIN YANG,*8,WHEEL OF DHARMA,*5,
   LAST QUARTER MOON,MERCURY,FEMALE SIGN,EARTH,MALE SIGN,JUPITER,SATURN,URANUS,NEPTUNE,PLUTO,
   ARIES,TAURUS,GEMINI,CANCER,LEO,VIRGO,LIBRA,SCORPIUS,SAGITTARIUS,CAPRICORN,AQUARIUS,PISCES,
   *20,HOT SPRINGS,QUARTER NOTE,EIGHTH NOTE,BEAMED EIGHTH NOTES,BEAMED SIXTEENTH NOTES,
   MUSIC FLAT SIGN,MUSIC NATURAL SIGN,MUSIC SHARP SIGN,WEST SYRIAC CROSS,EAST SYRIAC CROSS,
   UNIVERSAL RECYCLING SYMBOL,*9,RECYCLED PAPER SYMBOL,PARTIALLY-RECYCLED PAPER SYMBOL,
   PERMANENT PAPER SIGN,WHEELCHAIR SYMBOL,*10,MONOGRAM FOR YANG,MONOGRAM FOR YIN,*6,
   HAMMER AND PICK,ANCHOR,CROSSED SWORDS,STAFF OF AESCULAPIUS,SCALES,ALEMBIC,FLOWER,GEAR,
   STAFF OF HERMES,ATOM SYMBOL,FLEUR-DE-LIS,OUTLINED WHITE STAR,,,WARNING SIGN,
   HIGH VOLTAGE SIGN,DOUBLED FEMALE SIGN,DOUBLED MALE SIGN,INTERLOCKED FEMALE AND MALE SIGN,
   MALE AND FEMALE SIGN,MALE WITH STROKE SIGN,MALE WITH STROKE AND MALE AND FEMALE SIGN,*5,
   MARRIAGE SYMBOL,DIVORCE SYMBOL,UNMARRIED PARTNERSHIP SYMBOL,COFFIN,FUNERAL URN,NEUTER,
   CERES,PALLAS,JUNO,VESTA,CHIRON,,SEXTILE,SEMISEXTILE,QUINCUNX,SESQUIQUADRATE,SOCCER BALL,
   BASEBALL,*5,SNOWMAN WITHOUT SNOW,SUN BEHIND CLOUD,RAIN,,THUNDER CLOUD AND RAIN,*3,
   CROSSING LANES,DISABLED CAR,OPHIUCHUS,PICK,CAR SLIDING,HELMET WITH WHITE CROSS,,CHAINS,,
   ALTERNATE ONE-WAY LEFT WAY TRAFFIC,*4,DRIVE SLOW SIGN,*3,
   FALLING DIAGONAL IN WHITE CIRCLE IN BLACK SQUARE,,RESTRICTED LEFT ENTRY-1*2,
   ASTRONOMICAL SYMBOL FOR URANUS,,PENTAGRAM,RIGHT-HANDED INTERLACED PENTAGRAM,
   LEFT-HANDED INTERLACED PENTAGRAM,,,SHINTO SHRINE,CHURCH,CASTLE,HISTORIC SITE,
   GEAR WITHOUT HUB,GEAR WITH HANDLES,MAP SYMBOL FOR LIGHTHOUSE,MOUNTAIN,UMBRELLA ON GROUND,
   FOUNTAIN,FLAG IN HOLE,FERRY,SAILBOAT,,SKIER,ICE SKATE,,TENT,,HEADSTONE GRAVEYARD SYMBOL,
   FUEL PUMP,CUP ON BLACK SQUARE,*8,TAPE DRIVE,AIRPLANE,ENVELOPE,,,VICTORY HAND,WRITING HAND,,
   PENCIL,*3,CHECK MARK,*5,OUTLINED GREEK CROSS,*4,SHADOWED WHITE LATIN CROSS,
   OUTLINED LATIN CROSS,MALTESE CROSS,*7,SPARKLES,STRESS OUTLINED WHITE STAR,*3,
   OUTLINED BLACK STAR,,PINWHEEL STAR,SHADOWED WHITE STAR,*5,SIX POINTED BLACK STAR,,,
   TWELVE POINTED BLACK STAR,SIXTEEN POINTED ASTERISK,TEARDROP-SPOKED ASTERISK,,,
   SIX PETALLED BLACK AND WHITE FLORETTE,*5,SNOWFLAKE,TIGHT TRIFOLIATE SNOWFLAKE,,SPARKLE,,
   BALLOON-SPOKED ASTERISK,*3,SHADOWED WHITE CIRCLE,*19,CURVED STEM PARAGRAPH SIGN ORNAMENT,
   *4,FLORAL HEART,*52,DRAFTING POINT RIGHTWARDS ARROW,,TRIANGLE-HEADED RIGHTWARDS ARROW,,
   DASHED TRIANGLE-HEADED RIGHTWARDS ARROW,*7,SQUAT BLACK RIGHTWARDS ARROW,,
   RIGHT-SHADED WHITE RIGHTWARDS ARROW,LEFT-SHADED WHITE RIGHTWARDS ARROW,
   BACK-TILTED SHADOWED WHITE RIGHTWARDS ARROW,FRONT-TILTED SHADOWED WHITE RIGHTWARDS ARROW,,,
   NOTCHED LOWER RIGHT-SHADOWED WHITE RIGHTWARDS ARROW,CURLY LOOP,
   NOTCHED UPPER RIGHT-SHADOWED WHITE RIGHTWARDS ARROW,,WHITE-FEATHERED RIGHTWARDS ARROW,
   BLACK-FEATHERED SOUTH EAST ARROW,BLACK-FEATHERED RIGHTWARDS ARROW,
   BLACK-FEATHERED NORTH EAST ARROW,*3,TEARDROP-BARBED RIGHTWARDS ARROW,,
   WEDGE-TAILED RIGHTWARDS ARROW,,OPEN-OUTLINED RIGHTWARDS ARROW,*3,PERPENDICULAR,*4,
   OR WITH DOT INSIDE,*9,AND WITH DOT,*14,LOZENGE DIVIDED BY HORIZONTAL RULE;
   2594 UPPER:ONE EIGHTH BLOCK;2595 RIGHT:ONE EIGHTH BLOCK;2596 QUADRANT:LOWER LEFT,
   LOWER RIGHT;2598 QUADRANT UPPER:LEFT,LEFT AND LOWER LEFT AND LOWER RIGHT,
   LEFT AND LOWER RIGHT,LEFT AND UPPER RIGHT AND LOWER LEFT,
   LEFT AND UPPER RIGHT AND LOWER RIGHT,RIGHT,RIGHT AND LOWER LEFT,
   RIGHT AND LOWER LEFT AND LOWER RIGHT;25A0 BLACK:SQUARE,*9,SMALL SQUARE,,RECTANGLE,,
   VERTICAL RECTANGLE,,PARALLELOGRAM,,UP-POINTING TRIANGLE,,UP-POINTING SMALL TRIANGLE,*7,
   DOWN-POINTING TRIANGLE,,DOWN-POINTING SMALL TRIANGLE,*7,DIAMOND,*8,CIRCLE,*18,
   LOWER RIGHT TRIANGLE,LOWER LEFT TRIANGLE,UPPER LEFT TRIANGLE,UPPER RIGHT TRIANGLE,*26,
   SUN WITH RAYS,*4,STAR,*8,TELEPHONE,*8,SHOGI PIECE,,,LEFT POINTING INDEX,
   RIGHT POINTING INDEX,*31,SMILING FACE,*36,SPADE SUIT,,,CLUB SUIT,,HEART SUIT,*21,
   UNIVERSAL RECYCLING SYMBOL,*12,CIRCLE WITH WHITE DOT RIGHT,CIRCLE WITH TWO WHITE DOTS,*7,
   FLAG,*38,MOON LILITH,*9,DRAUGHTS MAN,DRAUGHTS KING,*3,SNOWMAN,*14,TWO-WAY LEFT WAY TRAFFIC,
   ,LEFT LANE MERGE,*6,TRUCK,*8,CROSS ON SHIELD,*23,SAFETY SCISSORS,,SCISSORS,*15,NIB,*19,
   FOUR POINTED STAR,*5,CENTRE WHITE STAR,*18,FLORETTE,*19,QUESTION MARK ORNAMENT;
   25A1 WHITE:SQUARE,*9,SMALL SQUARE,,RECTANGLE,,VERTICAL RECTANGLE,,PARALLELOGRAM,,
   UP-POINTING TRIANGLE,,UP-POINTING SMALL TRIANGLE,,RIGHT-POINTING TRIANGLE,,
   RIGHT-POINTING SMALL TRIANGLE,,RIGHT-POINTING POINTER,,DOWN-POINTING TRIANGLE,,
   DOWN-POINTING SMALL TRIANGLE,,LEFT-POINTING TRIANGLE,,LEFT-POINTING SMALL TRIANGLE,,
   LEFT-POINTING POINTER,,DIAMOND,*3,CIRCLE,*26,BULLET,*5,UP-POINTING TRIANGLE WITH DOT,*25,
   STAR,*8,TELEPHONE,*6,SHOGI PIECE,*5,LEFT POINTING INDEX,UP POINTING INDEX,
   RIGHT POINTING INDEX,DOWN POINTING INDEX,*25,FROWNING FACE,SMILING FACE,,SUN WITH RAYS,*36,
   HEART SUIT,,,SPADE SUIT,,,CLUB SUIT,*40,FLAG,*47,DRAUGHTS MAN,DRAUGHTS KING,*21,
   TWO-WAY LEFT WAY TRAFFIC,,LEFT LANE MERGE,*37,FLAG WITH HORIZONTAL MIDDLE BLACK STRIPE,*4,
   SCISSORS,HEAVY CHECK MARK,*11,NIB,*21,FOUR POINTED STAR,*24,FLORETTE,*19,
   QUESTION MARK ORNAMENT,EXCLAMATION MARK ORNAMENT;25A2 WHITE SQUARE WITH:ROUNDED CORNERS;
   25A3 WHITE SQUARE:CONTAINING BLACK SMALL SQUARE;25A4 SQUARE WITH:HORIZONTAL FILL,
   VERTICAL FILL,ORTHOGONAL CROSSHATCH FILL,UPPER LEFT TO LOWER RIGHT FILL,
   UPPER RIGHT TO LOWER LEFT FILL,DIAGONAL CROSSHATCH FILL,*61,LEFT HALF BLACK,
   RIGHT HALF BLACK,UPPER LEFT DIAGONAL HALF BLACK,LOWER RIGHT DIAGONAL HALF BLACK;
   25B6 BLACK RIGHT-POINTING:TRIANGLE,,SMALL TRIANGLE,,POINTER;
   25C0 BLACK LEFT-POINTING:TRIANGLE,,SMALL TRIANGLE,,POINTER;
   25C8 WHITE DIAMOND:CONTAINING BLACK SMALL DIAMOND;25CC DOTTED:CIRCLE;
   25CD CIRCLE WITH:VERTICAL FILL,,,LEFT HALF BLACK,RIGHT HALF BLACK,LOWER HALF BLACK,
   UPPER HALF BLACK,UPPER RIGHT QUADRANT BLACK,ALL BUT UPPER LEFT QUADRANT BLACK;
   25D6 LEFT HALF:BLACK CIRCLE;25D7 RIGHT HALF:BLACK CIRCLE;25D8 INVERSE:BULLET,WHITE CIRCLE;
   25DA UPPER HALF:INVERSE WHITE CIRCLE,*5,CIRCLE;25DB LOWER:HALF INVERSE WHITE CIRCLE,*5,
   HALF CIRCLE;25DC UPPER LEFT:QUADRANT CIRCULAR ARC,*27,TRIANGLE;
   25DD UPPER RIGHT:QUADRANT CIRCULAR ARC,*27,TRIANGLE;25DE LOWER RIGHT:QUADRANT CIRCULAR ARC,
   *32,TRIANGLE;25DF LOWER LEFT:QUADRANT CIRCULAR ARC,*26,TRIANGLE;
   25EB WHITE SQUARE WITH:VERTICAL BISECTING LINE,*4,UPPER LEFT QUADRANT,LOWER LEFT QUADRANT,
   LOWER RIGHT QUADRANT,UPPER RIGHT QUADRANT;25ED UP-POINTING:TRIANGLE WITH LEFT HALF BLACK,
   TRIANGLE WITH RIGHT HALF BLACK;25EF LARGE:CIRCLE;
   25F4 WHITE CIRCLE WITH:UPPER LEFT QUADRANT,LOWER LEFT QUADRANT,LOWER RIGHT QUADRANT,
   UPPER RIGHT QUADRANT;25FB WHITE MEDIUM:SQUARE,,SMALL SQUARE;25FC BLACK MEDIUM:SQUARE,,
   SMALL SQUARE;2610 BALLOT:BOX;2611 BALLOT BOX WITH:CHECK,X;
   2619 REVERSED:ROTATED FLORAL HEART BULLET;2628 CROSS:OF LORRAINE,OF JERUSALEM;
   262A STAR:AND CRESCENT;2630 TRIGRAM FOR:HEAVEN,LAKE,FIRE,THUNDER,WIND,WATER,MOUNTAIN,EARTH;
   263D FIRST:QUARTER MOON;2654 WHITE CHESS:KING,QUEEN,ROOK,BISHOP,KNIGHT,PAWN;
   265A BLACK CHESS:KING,QUEEN,ROOK,BISHOP,KNIGHT,PAWN;2662 WHITE DIAMOND:SUIT;
   2666 BLACK DIAMOND:SUIT;2673 RECYCLING SYMBOL FOR:TYPE-1 PLASTICS,TYPE-2 PLASTICS,
   TYPE-3 PLASTICS,TYPE-4 PLASTICS,TYPE-5 PLASTICS,TYPE-6 PLASTICS,TYPE-7 PLASTICS,
   GENERIC MATERIALS;2680 DIE:FACE-1*6;2686 WHITE CIRCLE WITH:DOT RIGHT,TWO DOTS;
   268C DIGRAM FOR:GREATER YANG,LESSER YIN,LESSER YANG,GREATER YIN;
   269E THREE:LINES CONVERGING RIGHT,LINES CONVERGING LEFT;
   26A8 VERTICAL:MALE WITH STROKE SIGN;26A9 HORIZONTAL:MALE WITH STROKE SIGN;
   26AA MEDIUM:WHITE CIRCLE,BLACK CIRCLE,SMALL WHITE CIRCLE;26BF SQUARED:KEY,*29,SALTIRE;
   26C9 TURNED:WHITE SHOGI PIECE,BLACK SHOGI PIECE;26CB WHITE DIAMOND:IN SQUARE;
   26D2 CIRCLED:CROSSING LANES;26D4 NO:ENTRY;26DB HEAVY:WHITE DOWN-POINTING TRIANGLE,*7,
   CIRCLE WITH STROKE AND TWO DOTS ABOVE,*48,CHECK MARK,,MULTIPLICATION X,,BALLOT X,,
   GREEK CROSS,,OPEN CENTRE CROSS,*7,FOUR BALLOON-SPOKED ASTERISK,*9,OUTLINED BLACK STAR,,,
   ASTERISK,*11,TEARDROP-SPOKED ASTERISK,*5,TEARDROP-SPOKED PINWHEEL ASTERISK,,,
   CHEVRON SNOWFLAKE,,SPARKLE,*14,EXCLAMATION MARK SYMBOL,,,VERTICAL BAR,
   SINGLE TURNED COMMA QUOTATION MARK ORNAMENT,SINGLE COMMA QUOTATION MARK ORNAMENT,
   DOUBLE TURNED COMMA QUOTATION MARK ORNAMENT,DOUBLE COMMA QUOTATION MARK ORNAMENT,
   LOW SINGLE COMMA QUOTATION MARK ORNAMENT,LOW DOUBLE COMMA QUOTATION MARK ORNAMENT,,
   EXCLAMATION MARK ORNAMENT,HEART EXCLAMATION MARK ORNAMENT,BLACK HEART,*9,
   LEFT-POINTING ANGLE QUOTATION MARK ORNAMENT,RIGHT-POINTING ANGLE QUOTATION MARK ORNAMENT,
   LEFT-POINTING ANGLE BRACKET ORNAMENT,RIGHT-POINTING ANGLE BRACKET ORNAMENT,*34,
   WIDE-HEADED RIGHTWARDS ARROW,PLUS SIGN,MINUS SIGN,DIVISION SIGN,,RIGHTWARDS ARROW,,,
   ROUND-TIPPED RIGHTWARDS ARROW,,TRIANGLE-HEADED RIGHTWARDS ARROW,,
   DASHED TRIANGLE-HEADED RIGHTWARDS ARROW,*4,BLACK CURVED DOWNWARDS AND RIGHTWARDS ARROW,
   BLACK CURVED UPWARDS AND RIGHTWARDS ARROW,,CONCAVE-POINTED BLACK RIGHTWARDS ARROW,*4,
   LOWER RIGHT-SHADOWED WHITE RIGHTWARDS ARROW,UPPER RIGHT-SHADOWED WHITE RIGHTWARDS ARROW,*8,
   BLACK-FEATHERED SOUTH EAST ARROW,BLACK-FEATHERED RIGHTWARDS ARROW,
   BLACK-FEATHERED NORTH EAST ARROW,,TEARDROP-SHANKED RIGHTWARDS ARROW,,
   WEDGE-TAILED RIGHTWARDS ARROW;26DC LEFT:CLOSED ENTRY;26E7 INVERTED:PENTAGRAM;
   26F6 SQUARE:FOUR CORNERS;26F9 PERSON WITH:BALL;26FB JAPANESE:BANK SYMBOL;
   2701 UPPER:BLADE SCISSORS;2703 LOWER:BLADE SCISSORS;2706 TELEPHONE:LOCATION SIGN;
   270A RAISED:FIST,HAND;270E LOWER RIGHT:PENCIL;2710 UPPER RIGHT:PENCIL,*63,
   DROP-SHADOWED WHITE SQUARE,,SHADOWED WHITE SQUARE;2715 MULTIPLICATION:X;2717 BALLOT:X;
   271B OPEN:CENTRE CROSS,*15,CENTRE BLACK STAR,*6,CENTRE ASTERISK,*9,
   CENTRE TEARDROP-SPOKED ASTERISK;271D LATIN:CROSS;2721 STAR:OF DAVID;
   2722 FOUR:TEARDROP-SPOKED ASTERISK,BALLOON-SPOKED ASTERISK,,CLUB-SPOKED ASTERISK;
   272A CIRCLED:WHITE STAR,*23,OPEN CENTRE EIGHT POINTED STAR;2733 EIGHT:SPOKED ASTERISK,
   POINTED BLACK STAR,POINTED PINWHEEL STAR,,POINTED RECTILINEAR BLACK STAR,*9,
   PETALLED OUTLINED BLACK FLORETTE,*8,TEARDROP-SPOKED PROPELLER ASTERISK;
   2738 HEAVY EIGHT:POINTED RECTILINEAR BLACK STAR,*18,TEARDROP-SPOKED PROPELLER ASTERISK;
   274C CROSS:MARK;274E NEGATIVE SQUARED:CROSS MARK;
   274F LOWER RIGHT:DROP-SHADOWED WHITE SQUARE,,SHADOWED WHITE SQUARE;
   2756 BLACK DIAMOND:MINUS WHITE X;2758 LIGHT:VERTICAL BAR,*25,
   LEFT TORTOISE SHELL BRACKET ORNAMENT,RIGHT TORTOISE SHELL BRACKET ORNAMENT;
   2759 MEDIUM:VERTICAL BAR,*14,LEFT PARENTHESIS ORNAMENT,RIGHT PARENTHESIS ORNAMENT,
   FLATTENED LEFT PARENTHESIS ORNAMENT,FLATTENED RIGHT PARENTHESIS ORNAMENT,
   LEFT-POINTING ANGLE BRACKET ORNAMENT,RIGHT-POINTING ANGLE BRACKET ORNAMENT,*6,
   LEFT CURLY BRACKET ORNAMENT,RIGHT CURLY BRACKET ORNAMENT;
   2765 ROTATED:HEAVY BLACK HEART BULLET,,FLORAL HEART BULLET;
   2776 DINGBAT NEGATIVE CIRCLED DIGIT:ONE,TWO,THREE,FOUR,FIVE,SIX,SEVEN,EIGHT,NINE;
   277F DINGBAT NEGATIVE CIRCLED:NUMBER TEN;2780 DINGBAT CIRCLED SANS-SERIF DIGIT:ONE,TWO,
   THREE,FOUR,FIVE,SIX,SEVEN,EIGHT,NINE;2789 DINGBAT CIRCLED SANS-SERIF:NUMBER TEN;
   278A DINGBAT NEGATIVE CIRCLED SANS-SERIF DIGIT:ONE,TWO,THREE,FOUR,FIVE,SIX,SEVEN,EIGHT,
   NINE;2793 DINGBAT NEGATIVE CIRCLED SANS-SERIF:NUMBER TEN;2798 HEAVY SOUTH:EAST ARROW;
   279A HEAVY NORTH:EAST ARROW;27A1 BLACK:RIGHTWARDS ARROW,,,RIGHTWARDS ARROWHEAD;
   27A2 THREE-D:TOP-LIGHTED RIGHTWARDS ARROWHEAD,BOTTOM-LIGHTED RIGHTWARDS ARROWHEAD;
   27B2 CIRCLED:HEAVY WHITE RIGHTWARDS ARROW;27BF DOUBLE:CURLY LOOP;
   27C0 THREE:DIMENSIONAL ANGLE;27C1 WHITE:TRIANGLE CONTAINING SMALL WHITE TRIANGLE,*31,
   CONCAVE-SIDED DIAMOND,CONCAVE-SIDED DIAMOND WITH LEFTWARDS TICK,
   CONCAVE-SIDED DIAMOND WITH RIGHTWARDS TICK;27C3 OPEN:SUBSET,SUPERSET;
   27C5 LEFT:S-SHAPED BAG DELIMITER,*15,OUTER JOIN,*6,MULTIMAP;
   27C6 RIGHT:S-SHAPED BAG DELIMITER,*15,OUTER JOIN,*29,ARROW WITH CIRCLED PLUS;
   27C8 REVERSE:SOLIDUS PRECEDING SUBSET;27C9 SUPERSET:PRECEDING SOLIDUS;
   27CA VERTICAL:BAR WITH HORIZONTAL STROKE;27CB MATHEMATICAL:RISING DIAGONAL,,
   FALLING DIAGONAL;27CC LONG:DIVISION,*16,RIGHT TACK,LEFT TACK,*24,LEFT RIGHT ARROW,,,
   LEFT RIGHT DOUBLE ARROW;27CE SQUARED:LOGICAL AND,LOGICAL OR;
   27D0 WHITE DIAMOND:WITH CENTRED DOT;27D2 ELEMENT OF:OPENING UPWARDS;
   27D3 LOWER RIGHT:CORNER WITH DOT;27D4 UPPER LEFT:CORNER WITH DOT;27D7 FULL:OUTER JOIN;
   27D8 LARGE:UP TACK,DOWN TACK;27DA LEFT AND:RIGHT DOUBLE TURNSTILE,RIGHT TACK;
   27DF UP:TACK WITH CIRCLE ABOVE;27E4 WHITE SQUARE WITH:LEFTWARDS TICK,RIGHTWARDS TICK;
   27E6 MATHEMATICAL LEFT:WHITE SQUARE BRACKET,,ANGLE BRACKET,,DOUBLE ANGLE BRACKET,,
   WHITE TORTOISE SHELL BRACKET,,FLATTENED PARENTHESIS;
   27E7 MATHEMATICAL RIGHT:WHITE SQUARE BRACKET,,ANGLE BRACKET,,DOUBLE ANGLE BRACKET,,
   WHITE TORTOISE SHELL BRACKET,,FLATTENED PARENTHESIS;27F0 UPWARDS:QUADRUPLE ARROW;
   27F1 DOWNWARDS:QUADRUPLE ARROW;27F2 ANTICLOCKWISE:GAPPED CIRCLE ARROW;
   27F3 CLOCKWISE:GAPPED CIRCLE ARROW;27F5 LONG LEFTWARDS:ARROW,,,DOUBLE ARROW,,,
   ARROW FROM BAR,,DOUBLE ARROW FROM BAR;27F6 LONG RIGHTWARDS:ARROW,,,DOUBLE ARROW,,,
   ARROW FROM BAR,,DOUBLE ARROW FROM BAR,SQUIGGLE ARROW;2800 BRAILLE PATTERN:BLANK,DOTS-1*2,
   DOTS-12,DOTS-3,DOTS-13,DOTS-23,DOTS-123,DOTS-4,DOTS-14,DOTS-24,DOTS-124,DOTS-34,DOTS-134,
   DOTS-234,DOTS-1234,DOTS-5,DOTS-15,DOTS-25,DOTS-125,DOTS-35,DOTS-135,DOTS-235,DOTS-1235,
   DOTS-45,DOTS-145,DOTS-245,DOTS-1245,DOTS-345,DOTS-1345,DOTS-2345,DOTS-12345,DOTS-6,DOTS-16,
   DOTS-26,DOTS-126,DOTS-36,DOTS-136,DOTS-236,DOTS-1236,DOTS-46,DOTS-146,DOTS-246,DOTS-1246,
   DOTS-346,DOTS-1346,DOTS-2346,DOTS-12346,DOTS-56,DOTS-156,DOTS-256,DOTS-1256,DOTS-356,
   DOTS-1356,DOTS-2356,DOTS-12356,DOTS-456,DOTS-1456,DOTS-2456,DOTS-12456,DOTS-3456,
   DOTS-13456,DOTS-23456,DOTS-123456,DOTS-7,DOTS-17,DOTS-27,DOTS-127,DOTS-37,DOTS-137,
   DOTS-237,DOTS-1237,DOTS-47,DOTS-147,DOTS-247,DOTS-1247,DOTS-347,DOTS-1347,DOTS-2347,
   DOTS-12347,DOTS-57,DOTS-157,DOTS-257,DOTS-1257,DOTS-357,DOTS-1357,DOTS-2357,DOTS-12357,
   DOTS-457,DOTS-1457,DOTS-2457,DOTS-12457,DOTS-3457,DOTS-13457,DOTS-23457,DOTS-123457,
   DOTS-67,DOTS-167,DOTS-267,DOTS-1267,DOTS-367,DOTS-1367,DOTS-2367,DOTS-12367,DOTS-467,
   DOTS-1467,DOTS-2467,DOTS-12467,DOTS-3467,DOTS-13467,DOTS-23467,DOTS-123467,DOTS-567,
   DOTS-1567,DOTS-2567,DOTS-12567,DOTS-3567,DOTS-13567,DOTS-23567,DOTS-123567,DOTS-4567,
   DOTS-14567,DOTS-24567,DOTS-124567,DOTS-34567,DOTS-134567,DOTS-234567,DOTS-1234567,DOTS-8,
   DOTS-18,DOTS-28,DOTS-128,DOTS-38,DOTS-138,DOTS-238,DOTS-1238,DOTS-48,DOTS-148,DOTS-248,
   DOTS-1248,DOTS-348,DOTS-1348,DOTS-2348,DOTS-12348,DOTS-58,DOTS-158,DOTS-258,DOTS-1258,
   DOTS-358,DOTS-1358,DOTS-2358,DOTS-12358,DOTS-458,DOTS-1458,DOTS-2458,DOTS-12458,DOTS-3458,
   DOTS-13458,DOTS-23458,DOTS-123458,DOTS-68,DOTS-168,DOTS-268,DOTS-1268,DOTS-368,DOTS-1368,
   DOTS-2368,DOTS-12368,DOTS-468,DOTS-1468,DOTS-2468,DOTS-12468,DOTS-3468,DOTS-13468,
   DOTS-23468,DOTS-123468,DOTS-568,DOTS-1568,DOTS-2568,DOTS-12568,DOTS-3568,DOTS-13568,
   DOTS-23568,DOTS-123568,DOTS-4568,DOTS-14568,DOTS-24568,DOTS-124568,DOTS-34568,DOTS-134568,
   DOTS-234568,DOTS-1234568,DOTS-78,DOTS-178,DOTS-278,DOTS-1278,DOTS-378,DOTS-1378,DOTS-2378,
   DOTS-12378,DOTS-478,DOTS-1478,DOTS-2478,DOTS-12478,DOTS-3478,DOTS-13478,DOTS-23478,
   DOTS-123478,DOTS-578,DOTS-1578,DOTS-2578,DOTS-12578,DOTS-3578,DOTS-13578,DOTS-23578,
   DOTS-123578,DOTS-4578,DOTS-14578,DOTS-24578,DOTS-124578,DOTS-34578,DOTS-134578,DOTS-234578,
   DOTS-1234578,DOTS-678,DOTS-1678,DOTS-2678,DOTS-12678,DOTS-3678,DOTS-13678,DOTS-23678,
   DOTS-123678,DOTS-4678,DOTS-14678,DOTS-24678,DOTS-124678,DOTS-34678,DOTS-134678,DOTS-234678,
   DOTS-1234678,DOTS-5678,DOTS-15678,DOTS-25678,DOTS-125678,DOTS-35678,DOTS-135678,
   DOTS-235678,DOTS-1235678,DOTS-45678,DOTS-145678,DOTS-245678,DOTS-1245678,DOTS-345678,
   DOTS-1345678,DOTS-2345678,DOTS-12345678;2900 RIGHTWARDS TWO-HEADED ARROW WITH:VERTICAL
    STROKE,DOUBLE VERTICAL STROKE,*20,TAIL,TAIL WITH VERTICAL STROKE,
   TAIL WITH DOUBLE VERTICAL STROKE;2902 LEFTWARDS DOUBLE:ARROW WITH VERTICAL STROKE,*3,
   ARROW FROM BAR,*5,DASH ARROW,*14,ARROW-TAIL;
   2903 RIGHTWARDS DOUBLE:ARROW WITH VERTICAL STROKE,*3,ARROW FROM BAR,*5,DASH ARROW,*14,
   ARROW-TAIL;2904 LEFT RIGHT:DOUBLE ARROW WITH VERTICAL STROKE;
   2905 RIGHTWARDS TWO-HEADED ARROW:FROM BAR;2908 DOWNWARDS ARROW WITH:HORIZONTAL STROKE;
   2909 UPWARDS ARROW WITH:HORIZONTAL STROKE;290A UPWARDS:TRIPLE ARROW,*62,
   TWO-HEADED ARROW FROM SMALL CIRCLE;290B DOWNWARDS:TRIPLE ARROW;
   290E LEFTWARDS:TRIPLE DASH ARROW,*10,ARROW-TAIL;290F RIGHTWARDS:TRIPLE DASH ARROW,*10,
   ARROW-TAIL;2910 RIGHTWARDS TWO-HEADED:TRIPLE DASH ARROW;
   2911 RIGHTWARDS ARROW WITH:DOTTED STEM,,,TAIL WITH VERTICAL STROKE,
   TAIL WITH DOUBLE VERTICAL STROKE,*47,PLUS BELOW;2912 UPWARDS ARROW:TO BAR;
   2913 DOWNWARDS ARROW:TO BAR;291D LEFTWARDS ARROW:TO BLACK DIAMOND,,
   FROM BAR TO BLACK DIAMOND;291E RIGHTWARDS ARROW:TO BLACK DIAMOND,,
   FROM BAR TO BLACK DIAMOND,*38,THROUGH X;2921 NORTH WEST:AND SOUTH EAST ARROW;
   2922 NORTH EAST:AND SOUTH WEST ARROW,,ARROW WITH HOOK,*3,ARROW AND SOUTH EAST ARROW,*5,
   ARROW CROSSING SOUTH EAST ARROW,,,ARROW CROSSING NORTH WEST ARROW;
   2923 NORTH WEST ARROW:WITH HOOK,*3,AND NORTH EAST ARROW,*10,CROSSING NORTH EAST ARROW;
   2925 SOUTH EAST:ARROW WITH HOOK,*3,ARROW AND SOUTH WEST ARROW,*3,
   ARROW CROSSING NORTH EAST ARROW;2926 SOUTH WEST:ARROW WITH HOOK,*3,
   ARROW AND NORTH WEST ARROW;292B :RISING DIAGONAL CROSSING FALLING DIAGONAL,
   FALLING DIAGONAL CROSSING RISING DIAGONAL,,,FALLING DIAGONAL CROSSING NORTH EAST ARROW,
   RISING DIAGONAL CROSSING SOUTH EAST ARROW,,,WAVE ARROW POINTING DIRECTLY RIGHT,*4,
   RIGHT-SIDE ARC CLOCKWISE ARROW,LEFT-SIDE ARC ANTICLOCKWISE ARROW;
   2934 ARROW POINTING:RIGHTWARDS THEN CURVING UPWARDS,RIGHTWARDS THEN CURVING DOWNWARDS,
   DOWNWARDS THEN CURVING LEFTWARDS,DOWNWARDS THEN CURVING RIGHTWARDS;
   293A TOP:ARC ANTICLOCKWISE ARROW,,ARC CLOCKWISE ARROW WITH MINUS,
   ARC ANTICLOCKWISE ARROW WITH PLUS;293B BOTTOM:ARC ANTICLOCKWISE ARROW;
   293E LOWER RIGHT:SEMICIRCULAR CLOCKWISE ARROW;
   293F LOWER LEFT:SEMICIRCULAR ANTICLOCKWISE ARROW;2940 ANTICLOCKWISE:CLOSED CIRCLE ARROW;
   2941 CLOCKWISE:CLOSED CIRCLE ARROW;2942 RIGHTWARDS ARROW ABOVE:SHORT LEFTWARDS ARROW,*49,
   TILDE OPERATOR,ALMOST EQUAL TO;2943 LEFTWARDS ARROW ABOVE:SHORT RIGHTWARDS ARROW,*47,
   TILDE OPERATOR;2944 SHORT:RIGHTWARDS ARROW ABOVE LEFTWARDS ARROW;
   2946 LEFTWARDS ARROW WITH:PLUS BELOW;2948 LEFT RIGHT:ARROW THROUGH SMALL CIRCLE;
   294A LEFT:BARB UP RIGHT BARB DOWN HARPOON,BARB DOWN RIGHT BARB UP HARPOON,,,
   BARB UP RIGHT BARB UP HARPOON,,BARB DOWN RIGHT BARB DOWN HARPOON,*43,FISH TAIL,*20,
   ANGLE BRACKET WITH DOT,,ARC LESS-THAN BRACKET,*3,BLACK TORTOISE SHELL BRACKET,*55,
   TRIANGLE BESIDE VERTICAL BAR,*8,WIGGLY FENCE,,DOUBLE WIGGLY FENCE;
   294C UP:BARB RIGHT DOWN BARB LEFT HARPOON,BARB LEFT DOWN BARB RIGHT HARPOON,,
   BARB RIGHT DOWN BARB RIGHT HARPOON,,BARB LEFT DOWN BARB LEFT HARPOON,*44,FISH TAIL,*62,
   ARROW THROUGH CIRCLE;2952 LEFTWARDS HARPOON WITH BARB UP:TO BAR,*7,FROM BAR,*7,
   ABOVE LEFTWARDS HARPOON WITH BARB DOWN,*3,ABOVE RIGHTWARDS HARPOON WITH BARB UP,*3,
   ABOVE LONG DASH;2953 RIGHTWARDS HARPOON WITH BARB UP:TO BAR,*7,FROM BAR,*8,
   ABOVE RIGHTWARDS HARPOON WITH BARB DOWN,*3,ABOVE LEFTWARDS HARPOON WITH BARB UP,*3,
   ABOVE LONG DASH;2954 UPWARDS HARPOON WITH BARB:RIGHT TO BAR,*3,LEFT TO BAR,*3,
   RIGHT FROM BAR,*3,LEFT FROM BAR,,,LEFT BESIDE UPWARDS HARPOON WITH BARB RIGHT,*10,
   LEFT BESIDE DOWNWARDS HARPOON WITH BARB RIGHT;
   2955 DOWNWARDS HARPOON WITH BARB:RIGHT TO BAR,*3,LEFT TO BAR,*3,RIGHT FROM BAR,*3,
   LEFT FROM BAR,*3,LEFT BESIDE DOWNWARDS HARPOON WITH BARB RIGHT,*9,
   LEFT BESIDE UPWARDS HARPOON WITH BARB RIGHT;2956 LEFTWARDS HARPOON WITH BARB:DOWN TO BAR,
   *7,DOWN FROM BAR,*8,DOWN ABOVE RIGHTWARDS HARPOON WITH BARB DOWN,*3,DOWN BELOW LONG DASH;
   2957 RIGHTWARDS HARPOON WITH BARB:DOWN TO BAR,*7,DOWN FROM BAR,*9,
   DOWN ABOVE LEFTWARDS HARPOON WITH BARB DOWN,*3,DOWN BELOW LONG DASH;
   2970 RIGHT DOUBLE:ARROW WITH ROUNDED HEAD;2971 EQUALS SIGN:ABOVE RIGHTWARDS ARROW;
   2972 TILDE:OPERATOR ABOVE RIGHTWARDS ARROW;2976 LESS-THAN ABOVE:LEFTWARDS ARROW;
   2977 LEFTWARDS ARROW:THROUGH LESS-THAN,,,THROUGH SUBSET;
   2978 GREATER-THAN ABOVE:RIGHTWARDS ARROW;2979 SUBSET:ABOVE RIGHTWARDS ARROW;
   297B SUPERSET:ABOVE LEFTWARDS ARROW;297D RIGHT:FISH TAIL,*22,ARC GREATER-THAN BRACKET,*3,
   BLACK TORTOISE SHELL BRACKET,*53,TRIANGLE ABOVE LEFT TRIANGLE,*10,WIGGLY FENCE;
   297F DOWN:FISH TAIL;2980 TRIPLE:VERTICAL BAR DELIMITER;2981 Z NOTATION:SPOT,TYPE COLON,*4,
   LEFT IMAGE BRACKET,RIGHT IMAGE BRACKET,LEFT BINDING BRACKET,RIGHT BINDING BRACKET;
   2983 LEFT WHITE:CURLY BRACKET,,PARENTHESIS;2984 RIGHT WHITE:CURLY BRACKET,,PARENTHESIS;
   298B LEFT SQUARE BRACKET WITH:UNDERBAR,,TICK IN TOP CORNER,,TICK IN BOTTOM CORNER;
   298C RIGHT SQUARE BRACKET WITH:UNDERBAR,,TICK IN BOTTOM CORNER,,TICK IN TOP CORNER;
   2992 RIGHT ANGLE:BRACKET WITH DOT,*9,VARIANT WITH SQUARE;
   2995 DOUBLE:LEFT ARC GREATER-THAN BRACKET,RIGHT ARC LESS-THAN BRACKET;2999 DOTTED:FENCE;
   299A VERTICAL:ZIGZAG LINE,*53,BAR BESIDE RIGHT TRIANGLE;299B MEASURED ANGLE:OPENING LEFT;
   299D MEASURED:RIGHT ANGLE WITH DOT;299E :ANGLE WITH S INSIDE,ACUTE ANGLE,
   SPHERICAL ANGLE OPENING LEFT,SPHERICAL ANGLE OPENING UP,,,ANGLE WITH UNDERBAR,,
   OBLIQUE ANGLE OPENING UP,OBLIQUE ANGLE OPENING DOWN,*34,TRIANGLE WITH DOT ABOVE,
   TRIANGLE WITH UNDERBAR,S IN TRIANGLE,TRIANGLE WITH SERIFS AT BOTTOM,*3,
   BOWTIE WITH LEFT HALF BLACK,BOWTIE WITH RIGHT HALF BLACK,,TIMES WITH LEFT HALF BLACK,
   TIMES WITH RIGHT HALF BLACK,*6,INCOMPLETE INFINITY,TIE OVER INFINITY,
   INFINITY NEGATED WITH VERTICAL BAR,DOUBLE-ENDED MULTIMAP,,INCREASES AS,SHUFFLE PRODUCT,,,
   IDENTICAL TO AND SLANTED PARALLEL,GLEICH STARK,THERMODYNAMIC,
   DOWN-POINTING TRIANGLE WITH LEFT HALF BLACK,DOWN-POINTING TRIANGLE WITH RIGHT HALF BLACK,
   *10,RULE-DELAYED,,SOLIDUS WITH OVERBAR,,BIG SOLIDUS,BIG REVERSE SOLIDUS,,,
   LEFT-POINTING CURVED ANGLE BRACKET,RIGHT-POINTING CURVED ANGLE BRACKET,TINY,MINY,*10,
   MODULO TWO SUM,SUMMATION WITH INTEGRAL,QUADRUPLE INTEGRAL OPERATOR,FINITE PART INTEGRAL,,,
   CIRCULATION FUNCTION,,LINE INTEGRATION WITH RECTANGULAR PATH AROUND POLE,
   LINE INTEGRATION WITH SEMICIRCULAR PATH AROUND POLE,
   LINE INTEGRATION NOT INCLUDING THE POLE,,QUATERNION INTEGRAL OPERATOR,*6,JOIN,*17,
   VECTOR OR CROSS PRODUCT,,,SEMIDIRECT PRODUCT WITH BOTTOM CLOSED,SMASH PRODUCT,*8,
   INTERIOR PRODUCT,RIGHTHAND INTERIOR PRODUCT,,AMALGAMATION OR COPRODUCT,*23,
   SLOPING LARGE OR,SLOPING LARGE AND,*14,IDENTICAL WITH DOT ABOVE,*5,
   CONGRUENT WITH DOT ABOVE,,ALMOST EQUAL TO WITH CIRCUMFLEX ACCENT,
   APPROXIMATELY EQUAL OR EQUAL TO,*7,EQUIVALENT WITH FOUR DOTS ABOVE,*49,SMALLER THAN,
   LARGER THAN,SMALLER THAN OR EQUAL TO,LARGER THAN OR EQUAL TO,*44,PITCHFORK WITH TEE TOP,
   TRANSVERSAL INTERSECTION,FORKING,NONFORKING,*3,PERPENDICULAR WITH S,*16,
   PARALLEL WITH HORIZONTAL STROKE,PARALLEL WITH TILDE OPERATOR;29A2 TURNED:ANGLE;
   29A3 REVERSED:ANGLE,,ANGLE WITH UNDERBAR,*10,EMPTY SET;
   29A8 MEASURED ANGLE WITH OPEN ARM ENDING IN ARROW POINTING:UP AND RIGHT,UP AND LEFT,
   DOWN AND RIGHT,DOWN AND LEFT,RIGHT AND UP,LEFT AND UP,RIGHT AND DOWN,LEFT AND DOWN;
   29B1 EMPTY:SET WITH OVERBAR,SET WITH SMALL CIRCLE ABOVE,SET WITH RIGHT ARROW ABOVE,
   SET WITH LEFT ARROW ABOVE;29B5 CIRCLE WITH:HORIZONTAL BAR,*5,SUPERIMPOSED X,*6,
   SMALL CIRCLE TO THE RIGHT,TWO HORIZONTAL STROKES TO THE RIGHT;29B6 CIRCLED:VERTICAL BAR,
   PARALLEL,REVERSE SOLIDUS,PERPENDICULAR,,,ANTICLOCKWISE-ROTATED DIVISION SIGN,,WHITE BULLET,
   BULLET,LESS-THAN,GREATER-THAN;29BA CIRCLE:DIVIDED BY HORIZONTAL BAR AND TOP HALF DIVIDED
    BY VERTICAL BAR;29C4 SQUARED:RISING DIAGONAL SLASH,FALLING DIAGONAL SLASH,ASTERISK,
   SMALL CIRCLE,SQUARE;29C9 TWO:JOINED SQUARES,*61,LOGICAL AND OPERATOR,LOGICAL OR OPERATOR;
   29D3 BLACK:BOWTIE,*3,HOURGLASS,*19,LOZENGE,,CIRCLE WITH DOWN ARROW;29D6 WHITE:HOURGLASS;
   29DB RIGHT DOUBLE:WIGGLY FENCE;29E0 SQUARE WITH:CONTOURED OUTLINE;
   29E3 EQUALS SIGN:AND SLANTED PARALLEL,AND SLANTED PARALLEL WITH TILDE ABOVE;
   29EA BLACK DIAMOND:WITH DOWN ARROW;29EC WHITE CIRCLE WITH:DOWN ARROW;
   29EE ERROR-BARRED:WHITE SQUARE,BLACK SQUARE,WHITE DIAMOND,BLACK DIAMOND,WHITE CIRCLE,
   BLACK CIRCLE;29F5 REVERSE:SOLIDUS OPERATOR,,SOLIDUS WITH HORIZONTAL STROKE;
   29FA DOUBLE:PLUS;29FB TRIPLE:PLUS;2A00 N-ARY:CIRCLED DOT OPERATOR,CIRCLED PLUS OPERATOR,
   CIRCLED TIMES OPERATOR,UNION OPERATOR WITH DOT,UNION OPERATOR WITH PLUS,
   SQUARE INTERSECTION OPERATOR,SQUARE UNION OPERATOR,,,TIMES OPERATOR;
   2A0E INTEGRAL WITH:DOUBLE STROKE,*8,LEFTWARDS ARROW WITH HOOK,TIMES SIGN,INTERSECTION,
   UNION,OVERBAR,UNDERBAR;2A0F INTEGRAL:AVERAGE WITH SLASH,*5,AROUND A POINT OPERATOR;
   2A11 ANTICLOCKWISE:INTEGRATION;2A1E LARGE:LEFT TRIANGLE OPERATOR;
   2A1F Z NOTATION:SCHEMA COMPOSITION,SCHEMA PIPING,SCHEMA PROJECTION,*28,
   RELATIONAL COMPOSITION,*37,DOMAIN ANTIRESTRICTION,RANGE ANTIRESTRICTION;
   2A22 PLUS SIGN WITH:SMALL CIRCLE ABOVE,CIRCUMFLEX ACCENT ABOVE,TILDE ABOVE,DOT BELOW,
   TILDE BELOW,SUBSCRIPT TWO,BLACK TRIANGLE;2A29 MINUS SIGN:WITH COMMA ABOVE,WITH DOT BELOW,
   WITH FALLING DOTS,WITH RISING DOTS,*13,IN TRIANGLE;2A2D PLUS SIGN:IN LEFT HALF CIRCLE,
   IN RIGHT HALF CIRCLE,*10,IN TRIANGLE,*56,ABOVE EQUALS SIGN;
   2A30 MULTIPLICATION SIGN:WITH DOT ABOVE,WITH UNDERBAR,,,IN LEFT HALF CIRCLE,
   IN RIGHT HALF CIRCLE,,IN DOUBLE CIRCLE,*3,IN TRIANGLE;
   2A36 CIRCLED:MULTIPLICATION SIGN WITH CIRCUMFLEX ACCENT,,DIVISION SIGN;
   2A40 INTERSECTION:WITH DOT,,,WITH OVERBAR,WITH LOGICAL AND,,,ABOVE UNION,,
   ABOVE BAR ABOVE UNION,,BESIDE AND JOINED WITH INTERSECTION;2A41 UNION:WITH MINUS SIGN,
   WITH OVERBAR,,,WITH LOGICAL OR,ABOVE INTERSECTION,,ABOVE BAR ABOVE INTERSECTION,,
   BESIDE AND JOINED WITH UNION;2A4C CLOSED:UNION WITH SERIFS,INTERSECTION WITH SERIFS,,,
   UNION WITH SERIFS AND SMASH PRODUCT;2A4E DOUBLE:SQUARE INTERSECTION,SQUARE UNION,*3,
   LOGICAL AND,LOGICAL OR,*31,COLON EQUAL,*44,NESTED LESS-THAN,NESTED GREATER-THAN,
   NESTED LESS-THAN WITH UNDERBAR,*23,PRECEDES,SUCCEEDS,*45,DOWN TACK,UP TACK,STROKE NOT SIGN,
   *16,SOLIDUS OPERATOR;2A51 LOGICAL AND WITH:DOT ABOVE,*8,MIDDLE STEM,,HORIZONTAL DASH,,
   DOUBLE OVERBAR,UNDERBAR,DOUBLE UNDERBAR;2A52 LOGICAL OR WITH:DOT ABOVE,*8,MIDDLE STEM,,
   HORIZONTAL DASH,*4,DOUBLE OVERBAR,DOUBLE UNDERBAR;2A55 TWO:INTERSECTING LOGICAL AND,
   INTERSECTING LOGICAL OR,*30,CONSECUTIVE EQUALS SIGNS;
   2A59 LOGICAL OR:OVERLAPPING LOGICAL AND;2A61 SMALL:VEE WITH UNDERBAR;
   2A66 EQUALS SIGN:WITH DOT BELOW,*10,ABOVE PLUS SIGN,,ABOVE TILDE OPERATOR,*3,
   WITH TWO DOTS ABOVE AND TWO DOTS BELOW,*54,WITH BUMPY ABOVE;
   2A68 TRIPLE:HORIZONTAL BAR WITH DOUBLE VERTICAL STROKE,
   HORIZONTAL BAR WITH TRIPLE VERTICAL STROKE;2A6A TILDE:OPERATOR WITH DOT ABOVE,
   OPERATOR WITH RISING DOTS;2A6C SIMILAR:MINUS SIMILAR,*48,OR LESS-THAN,OR GREATER-THAN,
   ABOVE LESS-THAN ABOVE EQUALS SIGN,ABOVE GREATER-THAN ABOVE EQUALS SIGN;
   2A6E EQUALS:WITH ASTERISK;2A76 THREE:CONSECUTIVE EQUALS SIGNS;
   2A79 LESS-THAN:WITH CIRCLE INSIDE,,WITH QUESTION MARK ABOVE,*11,
   AND SINGLE-LINE NOT EQUAL TO,,AND NOT APPROXIMATE,*28,CLOSED BY CURVE,,
   CLOSED BY CURVE ABOVE SLANTED EQUAL;2A7A GREATER-THAN:WITH CIRCLE INSIDE,,
   WITH QUESTION MARK ABOVE,*11,AND SINGLE-LINE NOT EQUAL TO,,AND NOT APPROXIMATE,*25,
   OVERLAPPING LESS-THAN,BESIDE LESS-THAN,,CLOSED BY CURVE,,
   CLOSED BY CURVE ABOVE SLANTED EQUAL;2A7D LESS-THAN OR:SLANTED EQUAL TO,,
   SLANTED EQUAL TO WITH DOT INSIDE,,SLANTED EQUAL TO WITH DOT ABOVE,,
   SLANTED EQUAL TO WITH DOT ABOVE RIGHT,,APPROXIMATE;2A7E GREATER-THAN OR:SLANTED EQUAL TO,,
   SLANTED EQUAL TO WITH DOT INSIDE,,SLANTED EQUAL TO WITH DOT ABOVE,,
   SLANTED EQUAL TO WITH DOT ABOVE LEFT,,APPROXIMATE;
   2A8B LESS-THAN ABOVE:DOUBLE-LINE EQUAL ABOVE GREATER-THAN,,SIMILAR OR EQUAL,,
   SIMILAR ABOVE GREATER-THAN,,GREATER-THAN ABOVE DOUBLE-LINE EQUAL,,
   SLANTED EQUAL ABOVE GREATER-THAN ABOVE SLANTED EQUAL;
   2A8C GREATER-THAN ABOVE:DOUBLE-LINE EQUAL ABOVE LESS-THAN,,SIMILAR OR EQUAL,,
   SIMILAR ABOVE LESS-THAN,,LESS-THAN ABOVE DOUBLE-LINE EQUAL,,
   SLANTED EQUAL ABOVE LESS-THAN ABOVE SLANTED EQUAL;2A95 SLANTED:EQUAL TO OR LESS-THAN,
   EQUAL TO OR GREATER-THAN,EQUAL TO OR LESS-THAN WITH DOT INSIDE,
   EQUAL TO OR GREATER-THAN WITH DOT INSIDE;2A99 DOUBLE-LINE:EQUAL TO OR LESS-THAN,
   EQUAL TO OR GREATER-THAN,SLANTED EQUAL TO OR LESS-THAN,SLANTED EQUAL TO OR GREATER-THAN;
   2AAF PRECEDES ABOVE:SINGLE-LINE EQUALS SIGN,,SINGLE-LINE NOT EQUAL TO,,EQUALS SIGN,,
   NOT EQUAL TO,,ALMOST EQUAL TO,,NOT ALMOST EQUAL TO;
   2AB0 SUCCEEDS ABOVE:SINGLE-LINE EQUALS SIGN,,SINGLE-LINE NOT EQUAL TO,,EQUALS SIGN,,
   NOT EQUAL TO,,ALMOST EQUAL TO,,NOT ALMOST EQUAL TO;2ABD SUBSET:WITH DOT,,
   WITH PLUS SIGN BELOW,,WITH MULTIPLICATION SIGN BELOW,*17,ABOVE SUPERSET,,ABOVE SUBSET;
   2ABE SUPERSET:WITH DOT,,WITH PLUS SIGN BELOW,,WITH MULTIPLICATION SIGN BELOW,*17,
   ABOVE SUBSET,,ABOVE SUPERSET,BESIDE SUBSET,BESIDE AND JOINED BY DASH WITH SUBSET;
   2AC3 SUBSET OF:OR EQUAL TO WITH DOT ABOVE,,ABOVE EQUALS SIGN,,ABOVE TILDE OPERATOR,,
   ABOVE ALMOST EQUAL TO,,ABOVE NOT EQUAL TO;2AC4 SUPERSET OF:OR EQUAL TO WITH DOT ABOVE,,
   ABOVE EQUALS SIGN,,ABOVE TILDE OPERATOR,,ABOVE ALMOST EQUAL TO,,ABOVE NOT EQUAL TO;
   2ACD SQUARE:LEFT OPEN BOX OPERATOR,RIGHT OPEN BOX OPERATOR;2ACF CLOSED:SUBSET,SUPERSET,
   SUBSET OR EQUAL TO,SUPERSET OR EQUAL TO;2AD9 ELEMENT OF:OPENING DOWNWARDS;
   2ADE SHORT:LEFT TACK,DOWN TACK,UP TACK,*6,DOWN TACK WITH OVERBAR,UP TACK WITH UNDERBAR,
   UP TACK ABOVE SHORT DOWN TACK;2AE2 VERTICAL:BAR TRIPLE RIGHT TURNSTILE,,
   BAR DOUBLE LEFT TURNSTILE,*10,LINE WITH CIRCLE ABOVE,LINE WITH CIRCLE BELOW;
   2AE3 DOUBLE VERTICAL:BAR LEFT TURNSTILE,,BAR DOUBLE LEFT TURNSTILE;
   2AE6 LONG:DASH FROM LEFT MEMBER OF DOUBLE VERTICAL;2AED REVERSED:DOUBLE STROKE NOT SIGN;
   2AEE DOES NOT:DIVIDE WITH REVERSED NEGATION SLASH;2AF1 DOWN:TACK WITH CIRCLE BELOW;
   2AF4 TRIPLE:VERTICAL BAR BINARY RELATION,VERTICAL BAR WITH HORIZONTAL STROKE,
   COLON OPERATOR,NESTED LESS-THAN,NESTED GREATER-THAN,,,SOLIDUS BINARY RELATION;
   2AF9 DOUBLE-LINE:SLANTED LESS-THAN OR EQUAL TO,SLANTED GREATER-THAN OR EQUAL TO;
   2AFC LARGE:TRIPLE VERTICAL BAR OPERATOR;2AFE WHITE:VERTICAL BAR,*29,LARGE SQUARE,,
   VERY SMALL SQUARE,,PENTAGON,HEXAGON,*9,SMALL LOZENGE,,HORIZONTAL ELLIPSE,,VERTICAL ELLIPSE,
   *34,SMALL STAR,,RIGHT-POINTING PENTAGON;2AFF N-ARY:WHITE VERTICAL BAR;
   2B00 NORTH EAST:WHITE ARROW,*7,BLACK ARROW;2B01 NORTH WEST:WHITE ARROW,*7,BLACK ARROW;
   2B02 SOUTH EAST:WHITE ARROW,*7,BLACK ARROW;2B03 SOUTH WEST:WHITE ARROW,*7,BLACK ARROW;
   2B04 LEFT RIGHT:WHITE ARROW,*7,BLACK ARROW;2B05 LEFTWARDS:BLACK ARROW,*63,QUADRUPLE ARROW;
   2B06 UPWARDS:BLACK ARROW;2B07 DOWNWARDS:BLACK ARROW;2B0D UP DOWN:BLACK ARROW;
   2B0E RIGHTWARDS ARROW WITH:TIP DOWNWARDS,TIP UPWARDS;
   2B10 LEFTWARDS ARROW WITH:TIP DOWNWARDS,TIP UPWARDS,*38,DOTTED STEM,
   TAIL WITH VERTICAL STROKE,TAIL WITH DOUBLE VERTICAL STROKE;2B12 SQUARE WITH:TOP HALF BLACK,
   BOTTOM HALF BLACK,UPPER RIGHT DIAGONAL HALF BLACK,LOWER LEFT DIAGONAL HALF BLACK;
   2B16 DIAMOND:WITH LEFT HALF BLACK,WITH RIGHT HALF BLACK,WITH TOP HALF BLACK,
   WITH BOTTOM HALF BLACK;2B1A DOTTED:SQUARE;2B1B BLACK:LARGE SQUARE,,VERY SMALL SQUARE,,
   PENTAGON,,,HEXAGON,,LARGE CIRCLE,*4,SMALL DIAMOND,SMALL LOZENGE,,HORIZONTAL ELLIPSE,,
   VERTICAL ELLIPSE,*34,SMALL STAR;2B23 HORIZONTAL:BLACK HEXAGON;2B25 BLACK MEDIUM:DIAMOND,,
   LOZENGE;2B26 WHITE MEDIUM:DIAMOND,,LOZENGE,*39,STAR;2B30 LEFT:ARROW WITH SMALL CIRCLE,,
   ARROW WITH CIRCLED PLUS;2B31 THREE:LEFTWARDS ARROWS;2B33 LONG LEFTWARDS:SQUIGGLE ARROW;
   2B34 LEFTWARDS TWO-HEADED ARROW WITH:VERTICAL STROKE,DOUBLE VERTICAL STROKE,*5,TAIL,
   TAIL WITH VERTICAL STROKE,TAIL WITH DOUBLE VERTICAL STROKE;
   2B36 LEFTWARDS TWO-HEADED ARROW:FROM BAR;2B37 LEFTWARDS TWO-HEADED:TRIPLE DASH ARROW;
   2B3E LEFTWARDS ARROW:THROUGH X;2B3F :WAVE ARROW POINTING DIRECTLY LEFT,*27,
   BACKSLANTED SOUTH ARROW WITH HOOKED TAIL,,BACKSLANTED SOUTH ARROW WITH HORIZONTAL TAIL,
   BENT ARROW POINTING DOWNWARDS THEN NORTH EAST,*49,RETURN LEFT,RETURN RIGHT,NEWLINE LEFT,
   NEWLINE RIGHT,*38,OVERLAPPING WHITE SQUARES,OVERLAPPING WHITE AND BLACK SQUARES,
   OVERLAPPING BLACK SQUARES,*12,NEPTUNE FORM TWO,*7,UNCERTAINTY SIGN,GROUP MARK,
   PLUTO FORM TWO,PLUTO FORM THREE,PLUTO FORM FOUR,PLUTO FORM FIVE,TRANSPLUTO,PROSERPINA,
   ASTRAEA,HYGIEA,PHOLUS,NESSUS,,,TRUE LIGHT MOON ARTA,CUPIDO,HADES,ZEUS,KRONOS,APOLLON,
   ADMETOS,VULCANUS,POSEIDON,*8,ERIS FORM ONE,ERIS FORM TWO,SEDNA,*7,UNITED SYMBOL,
   SEPARATED SYMBOL,DOUBLED SYMBOL,PASSED SYMBOL,,HELLSCHREIBER PAUSE SYMBOL;
   2B40 EQUALS SIGN:ABOVE LEFTWARDS ARROW;2B41 REVERSE:TILDE OPERATOR ABOVE LEFTWARDS ARROW,
   *5,TILDE OPERATOR ABOVE RIGHTWARDS ARROW;
   2B42 LEFTWARDS ARROW ABOVE:REVERSE ALMOST EQUAL TO,*7,ALMOST EQUAL TO,
   REVERSE TILDE OPERATOR;2B43 RIGHTWARDS ARROW:THROUGH GREATER-THAN,THROUGH SUPERSET;
   2B46 RIGHTWARDS:QUADRUPLE ARROW;2B48 RIGHTWARDS ARROW ABOVE:REVERSE ALMOST EQUAL TO,*3,
   REVERSE TILDE OPERATOR;2B49 TILDE:OPERATOR ABOVE LEFTWARDS ARROW;
   2B4D DOWNWARDS TRIANGLE-HEADED:ZIGZAG ARROW,*21,ARROW,*9,DASHED ARROW,*25,PAIRED ARROWS;
   2B4E SHORT:SLANTED NORTH ARROW,BACKSLANTED SOUTH ARROW,*15,
   BENT ARROW POINTING DOWNWARDS THEN NORTH EAST;2B53 BLACK RIGHT-POINTING:PENTAGON;
   2B55 HEAVY:LARGE CIRCLE,OVAL WITH OVAL INSIDE,CIRCLE WITH CIRCLE INSIDE,CIRCLE,
   CIRCLED SALTIRE;2B5A SLANTED:NORTH ARROW WITH HOOKED HEAD,,
   NORTH ARROW WITH HORIZONTAL TAIL;2B60 LEFTWARDS TRIANGLE-HEADED:ARROW,*9,DASHED ARROW,*25,
   PAIRED ARROWS;2B61 UPWARDS TRIANGLE-HEADED:ARROW,*9,DASHED ARROW,*25,PAIRED ARROWS;
   2B62 RIGHTWARDS TRIANGLE-HEADED:ARROW,*9,DASHED ARROW,*25,PAIRED ARROWS;
   2B64 LEFT RIGHT:TRIANGLE-HEADED ARROW;2B65 UP DOWN:TRIANGLE-HEADED ARROW;
   2B66 NORTH WEST:TRIANGLE-HEADED ARROW,*15,TRIANGLE-HEADED ARROW TO BAR;
   2B67 NORTH EAST:TRIANGLE-HEADED ARROW,*15,TRIANGLE-HEADED ARROW TO BAR;
   2B68 SOUTH EAST:TRIANGLE-HEADED ARROW,*15,TRIANGLE-HEADED ARROW TO BAR;
   2B69 SOUTH WEST:TRIANGLE-HEADED ARROW,*15,TRIANGLE-HEADED ARROW TO BAR;
   2B6E CLOCKWISE:TRIANGLE-HEADED OPEN CIRCLE ARROW;
   2B6F ANTICLOCKWISE TRIANGLE-HEADED:OPEN CIRCLE ARROW,*28,RIGHT U-SHAPED ARROW,
   BOTTOM U-SHAPED ARROW,LEFT U-SHAPED ARROW,TOP U-SHAPED ARROW;
   2B70 LEFTWARDS TRIANGLE-HEADED ARROW:TO BAR,*15,OVER RIGHTWARDS TRIANGLE-HEADED ARROW;
   2B71 UPWARDS TRIANGLE-HEADED ARROW:TO BAR,*15,LEFTWARDS OF DOWNWARDS TRIANGLE-HEADED ARROW;
   2B72 RIGHTWARDS TRIANGLE-HEADED ARROW:TO BAR,*15,OVER LEFTWARDS TRIANGLE-HEADED ARROW;
   2B73 DOWNWARDS TRIANGLE-HEADED ARROW:TO BAR,*15,LEFTWARDS OF UPWARDS TRIANGLE-HEADED ARROW;
   2B7A LEFTWARDS TRIANGLE-HEADED ARROW WITH:DOUBLE HORIZONTAL STROKE,*41,LONG TIP UPWARDS,,
   LONG TIP DOWNWARDS;2B7B UPWARDS TRIANGLE-HEADED ARROW WITH:DOUBLE HORIZONTAL STROKE,*38,
   LONG TIP LEFTWARDS,LONG TIP RIGHTWARDS;2B7C RIGHTWARDS TRIANGLE-HEADED ARROW WITH:DOUBLE
    HORIZONTAL STROKE,*40,LONG TIP UPWARDS,,LONG TIP DOWNWARDS;
   2B7D DOWNWARDS TRIANGLE-HEADED ARROW WITH:DOUBLE HORIZONTAL STROKE,*34,LONG TIP LEFTWARDS,
   LONG TIP RIGHTWARDS;2B7E HORIZONTAL:TAB KEY;2B7F VERTICAL:TAB KEY;
   2B88 LEFTWARDS:BLACK CIRCLED WHITE ARROW;2B89 UPWARDS:BLACK CIRCLED WHITE ARROW;
   2B8A RIGHTWARDS:BLACK CIRCLED WHITE ARROW,*10,BLACK ARROW;
   2B8B DOWNWARDS:BLACK CIRCLED WHITE ARROW;2B94 FOUR:CORNER ARROWS CIRCLING ANTICLOCKWISE;
   2B97 SYMBOL FOR:TYPE A ELECTRONICS;2B98 THREE-D:TOP-LIGHTED LEFTWARDS EQUILATERAL
    ARROWHEAD,RIGHT-LIGHTED UPWARDS EQUILATERAL ARROWHEAD,
   TOP-LIGHTED RIGHTWARDS EQUILATERAL ARROWHEAD,LEFT-LIGHTED DOWNWARDS EQUILATERAL ARROWHEAD;
   2B9C BLACK:LEFTWARDS EQUILATERAL ARROWHEAD,UPWARDS EQUILATERAL ARROWHEAD,
   RIGHTWARDS EQUILATERAL ARROWHEAD,DOWNWARDS EQUILATERAL ARROWHEAD,*32,SQUARE CENTRED,*3,
   OCTAGON;2BA8 BLACK CURVED:DOWNWARDS AND LEFTWARDS ARROW,DOWNWARDS AND RIGHTWARDS ARROW,
   UPWARDS AND LEFTWARDS ARROW,UPWARDS AND RIGHTWARDS ARROW,LEFTWARDS AND UPWARDS ARROW,
   RIGHTWARDS AND UPWARDS ARROW,LEFTWARDS AND DOWNWARDS ARROW,RIGHTWARDS AND DOWNWARDS ARROW;
   2BB0 RIBBON ARROW:DOWN LEFT,DOWN RIGHT,UP LEFT,UP RIGHT,LEFT UP,RIGHT UP,LEFT DOWN,
   RIGHT DOWN;2BB8 UPWARDS WHITE ARROW:FROM BAR WITH HORIZONTAL BAR;
   2BB9 UP:ARROWHEAD IN A RECTANGLE BOX;2BBD BALLOT BOX WITH:LIGHT X;2BBE CIRCLED:X,BOLD X;
   2BC1 BLACK DIAMOND:CENTRED,*28,ON CROSS;2BC2 TURNED:BLACK PENTAGON;
   2BC3 HORIZONTAL:BLACK OCTAGON;2BC5 BLACK MEDIUM:UP-POINTING TRIANGLE CENTRED,
   DOWN-POINTING TRIANGLE CENTRED,LEFT-POINTING TRIANGLE CENTRED,
   RIGHT-POINTING TRIANGLE CENTRED;2BCA TOP HALF:BLACK CIRCLE;2BCB BOTTOM:HALF BLACK CIRCLE;
   2BCC LIGHT:FOUR POINTED BLACK CUSP;2BCD ROTATED:LIGHT FOUR POINTED BLACK CUSP,,
   WHITE FOUR POINTED CUSP;2BCE WHITE:FOUR POINTED CUSP,*14,MOON SELENA;
   2BD0 SQUARE:POSITION INDICATOR;2BE8 LEFT HALF:BLACK STAR;2BE9 RIGHT HALF:BLACK STAR;
   2BEA STAR:WITH LEFT HALF BLACK,WITH RIGHT HALF BLACK;
   2BEC LEFTWARDS TWO-HEADED ARROW WITH:TRIANGLE ARROWHEADS;
   2BED UPWARDS:TWO-HEADED ARROW WITH TRIANGLE ARROWHEADS;
   2BEE RIGHTWARDS TWO-HEADED ARROW WITH:TRIANGLE ARROWHEADS;
   2BEF DOWNWARDS:TWO-HEADED ARROW WITH TRIANGLE ARROWHEADS;
   2BF3 RUSSIAN ASTROLOGICAL SYMBOL:VIGINTILE,NOVILE,QUINTILE,BINOVILE,SENTAGON,TREDECILE;
   2BF9 EQUALS SIGN:WITH INFINITY BELOW;2BFE REVERSED:RIGHT ANGLE;
   2C00 GLAGOLITIC CAPITAL LETTER:AZU,BUKY,VEDE,GLAGOLI,DOBRO,YESTU,ZHIVETE,DZELO,ZEMLJA,IZHE,
   INITIAL IZHE,I,DJERVI,KAKO,LJUDIJE,MYSLITE,NASHI,ONU,POKOJI,RITSI,SLOVO,TVRIDO,UKU,FRITU,
   HERU,OTU,PE,SHTA,TSI,CHRIVI,SHA,YERU,YERI,YATI,SPIDERY HA,YU,SMALL YUS,SMALL YUS WITH TAIL,
   YO,IOTATED SMALL YUS,BIG YUS,IOTATED BIG YUS,FITA,IZHITSA,SHTAPIC,TROKUTASTI A,
   LATINATE MYSLITE,CAUDATE CHRIVI;2C30 GLAGOLITIC SMALL LETTER:AZU,BUKY,VEDE,GLAGOLI,DOBRO,
   YESTU,ZHIVETE,DZELO,ZEMLJA,IZHE,INITIAL IZHE,I,DJERVI,KAKO,LJUDIJE,MYSLITE,NASHI,ONU,
   POKOJI,RITSI,SLOVO,TVRIDO,UKU,FRITU,HERU,OTU,PE,SHTA,TSI,CHRIVI,SHA,YERU,YERI,YATI,
   SPIDERY HA,YU,SMALL YUS,SMALL YUS WITH TAIL,YO,IOTATED SMALL YUS,BIG YUS,IOTATED BIG YUS,
   FITA,IZHITSA,SHTAPIC,TROKUTASTI A,LATINATE MYSLITE,CAUDATE CHRIVI;
   2C60 LATIN CAPITAL LETTER L WITH:DOUBLE BAR,,MIDDLE TILDE;
   2C61 LATIN SMALL LETTER L WITH:DOUBLE BAR;2C63 LATIN CAPITAL LETTER P WITH:STROKE;
   2C64 LATIN CAPITAL LETTER R WITH:TAIL;2C65 LATIN SMALL LETTER A WITH:STROKE;
   2C66 LATIN SMALL LETTER T WITH:DIAGONAL STROKE;2C67 LATIN CAPITAL LETTER H WITH:DESCENDER;
   2C68 LATIN SMALL LETTER H WITH:DESCENDER;2C69 LATIN CAPITAL LETTER K WITH:DESCENDER;
   2C6A LATIN SMALL LETTER K WITH:DESCENDER;2C6B LATIN CAPITAL LETTER Z WITH:DESCENDER,*19,
   SWASH TAIL;2C6C LATIN SMALL LETTER Z WITH:DESCENDER;2C6D LATIN CAPITAL LETTER:ALPHA,
   M WITH HOOK,*6,HALF H;2C6F LATIN CAPITAL LETTER TURNED:A,ALPHA;
   2C71 LATIN SMALL LETTER V WITH:RIGHT HOOK,,,CURL;2C72 LATIN CAPITAL LETTER W WITH:HOOK;
   2C73 LATIN SMALL LETTER W WITH:HOOK;2C76 LATIN SMALL LETTER:HALF H,TAILLESS PHI;
   2C78 LATIN SMALL LETTER E WITH:NOTCH;2C79 LATIN SMALL LETTER TURNED R WITH:TAIL;
   2C7A LATIN SMALL LETTER O WITH:LOW RING INSIDE;2C7B LATIN LETTER SMALL CAPITAL TURNED:E;
   2C7C LATIN SUBSCRIPT SMALL LETTER:J;2C7D MODIFIER LETTER CAPITAL:V;
   2C7E LATIN CAPITAL LETTER S WITH:SWASH TAIL;2C80 COPTIC CAPITAL LETTER:ALFA,,VIDA,,GAMMA,,
   DALDA,,EIE,,SOU,,ZATA,,HATE,,THETHE,,IAUDA,,KAPA,,LAULA,,MI,,NI,,KSI,,O,,PI,,RO,,SIMA,,TAU,
   ,UA,,FI,,KHI,,PSI,,OOU,,DIALECT-P ALEF,*3,CRYPTOGRAMMIC EIE,,DIALECT-P KAPA,,DIALECT-P NI,,
   CRYPTOGRAMMIC NI,*3,SAMPI,,CROSSED SHEI,*5,AKHMIMIC KHEI,,DIALECT-P HORI,*5,L-SHAPED HA,
   *26,CRYPTOGRAMMIC SHEI,,CRYPTOGRAMMIC GANGIA,*4,BOHAIRIC KHEI;
   2C81 COPTIC SMALL LETTER:ALFA,,VIDA,,GAMMA,,DALDA,,EIE,,SOU,,ZATA,,HATE,,THETHE,,IAUDA,,
   KAPA,,LAULA,,MI,,NI,,KSI,,O,,PI,,RO,,SIMA,,TAU,,UA,,FI,,KHI,,PSI,,OOU,,DIALECT-P ALEF,*3,
   CRYPTOGRAMMIC EIE,,DIALECT-P KAPA,,DIALECT-P NI,,CRYPTOGRAMMIC NI,*3,SAMPI,,CROSSED SHEI,
   *5,AKHMIMIC KHEI,,DIALECT-P HORI,*5,L-SHAPED HA,*26,CRYPTOGRAMMIC SHEI,,
   CRYPTOGRAMMIC GANGIA,*4,BOHAIRIC KHEI;2CB4 COPTIC CAPITAL LETTER OLD COPTIC:AIN,*9,OOU,*5,
   SHEI,,ESH,*5,HORI,,HA,*3,HEI,,HAT,,GANGIA,,DJA,,SHIMA;
   2CB5 COPTIC SMALL LETTER OLD COPTIC:AIN,*9,OOU,*5,SHEI,,ESH,*5,HORI,,HA,*3,HEI,,HAT,,
   GANGIA,,DJA,,SHIMA;2CDC COPTIC CAPITAL LETTER OLD:NUBIAN SHIMA,,NUBIAN NGI,,NUBIAN NYI,,
   NUBIAN WAU;2CDD COPTIC SMALL LETTER OLD:NUBIAN SHIMA,,NUBIAN NGI,,NUBIAN NYI,,NUBIAN WAU;
   2CE4 COPTIC SYMBOL:KAI,MI RO,PI RO,STAUROS,TAU RO,KHI RO,SHIMA SIMA;
   2CEF COPTIC:COMBINING NI ABOVE,COMBINING SPIRITUS ASPER,COMBINING SPIRITUS LENIS,*7,
   OLD NUBIAN FULL STOP,OLD NUBIAN DIRECT QUESTION MARK,OLD NUBIAN INDIRECT QUESTION MARK,
   OLD NUBIAN VERSE DIVIDER,FRACTION ONE HALF,FULL STOP,MORPHOLOGICAL DIVIDER;
   2D00 GEORGIAN SMALL LETTER:AN,BAN,GAN,DON,EN,VIN,ZEN,TAN,IN,KAN,LAS,MAN,NAR,ON,PAR,ZHAR,
   RAE,SAN,TAR,UN,PHAR,KHAR,GHAN,QAR,SHIN,CHIN,CAN,JIL,CIL,CHAR,XAN,JHAN,HAE,HE,HIE,WE,HAR,
   HOE,,YN,*5,AEN;2D30 TIFINAGH LETTER:YA,YAB,YABH,YAG,YAGHH,BERBER ACADEMY YAJ,YAJ,YAD,YADH,
   YADD,YADDH,YEY,YAF,YAK,,YAKHH,YAH,BERBER ACADEMY YAH,,YAHH,YAA,YAKH,,YAQ,,YI,YAZH,
   AHAGGAR YAZH,,YAL*3,,,YAP,YU,YAR,YARR,YAGH,,AYER YAGH,YAS,YASS,YASH,YAT,YATH,YACH,YATT,
   YAV*2,YAY*2,TAWELLEMET YAZ,YAZZ,YE,YO;2D3E TIFINAGH LETTER TUAREG:YAK,*3,YAH,*3,YAKH,,YAQ,
   *3,YAZH,*3,YAGN,YANG,*5,YAGH;2D6F TIFINAGH:MODIFIER LETTER LABIALIZATION MARK,
   SEPARATOR MARK,*14,CONSONANT JOINER;2D80 ETHIOPIC SYLLABLE:LOA,MOA,ROA,SOA,SHOA,BOA,TOA,
   COA,NOA,NYOA,,ZOA,DOA,DDOA,JOA,THOA,CHOA,PHOA,POA,GGWA,GGWI,GGWEE,GGWE,*9,SSA,SSU,SSI,SSAA,
   SSEE,SSE,SSO,,CCA,CCU,CCI,CCAA,CCEE,CCE,CCO,,ZZA,ZZU,ZZI,ZZAA,ZZEE,ZZE,ZZO,,CCHA,CCHU,CCHI,
   CCHAA,CCHEE,CCHE,CCHO,,QYA,QYU,QYI,QYAA,QYEE,QYE,QYO,,KYA,KYU,KYI,KYAA,KYEE,KYE,KYO,,XYA,
   XYU,XYI,XYAA,XYEE,XYE,XYO,,GYA,GYU,GYI,GYAA,GYEE,GYE,GYO;2D8A ETHIOPIC SYLLABLE GLOTTAL:OA;
   2DE0 COMBINING CYRILLIC LETTER:BE,VE,GHE,DE,ZHE,ZE,KA,EL*3,O,PE,ER,ES,TE,HA,TSE,CHE,SHA,
   SHCHA,FITA,ES-TE,A,IE,DJERV,MONOGRAPH UK,YAT,YU,IOTIFIED A,LITTLE YUS,BIG YUS,
   IOTIFIED BIG YUS;2E00 RIGHT ANGLE:SUBSTITUTION MARKER,DOTTED SUBSTITUTION MARKER;
   2E02 LEFT:SUBSTITUTION BRACKET,,DOTTED SUBSTITUTION BRACKET,*4,TRANSPOSITION BRACKET,,,
   RAISED OMISSION BRACKET,*15,LOW PARAPHRASE BRACKET,*3,VERTICAL BAR WITH QUILL,*5,
   SIDEWAYS U BRACKET,,DOUBLE PARENTHESIS;2E03 RIGHT:SUBSTITUTION BRACKET,,
   DOTTED SUBSTITUTION BRACKET,*4,TRANSPOSITION BRACKET,,,RAISED OMISSION BRACKET,*15,
   LOW PARAPHRASE BRACKET,*3,VERTICAL BAR WITH QUILL,*5,SIDEWAYS U BRACKET;
   2E06 RAISED:INTERPOLATION MARKER,DOTTED INTERPOLATION MARKER,*3,SQUARE,*39,DOT,COMMA;
   2E08 DOTTED:TRANSPOSITION MARKER,*10,OBELOS,,,RIGHT-POINTING ANGLE,*51,SOLIDUS;
   2E0E :EDITORIAL CORONIS,PARAGRAPHOS,FORKED PARAGRAPHOS,,HYPODIASTOLE,*6,PALM BRANCH,
   HYPHEN WITH DIAERESIS,*16,ONE DOT OVER TWO DOTS PUNCTUATION,,FIVE DOT MARK,*3,
   WORD SEPARATOR MIDDLE DOT,*4,DAGGER WITH LEFT GUARD,DAGGER WITH RIGHT GUARD,,,TWO-EM DASH,
   THREE-EM DASH,STENOGRAPHIC FULL STOP,,WIGGLY VERTICAL LINE,CAPITULUM,*3,
   DASH WITH LEFT UPTURN,*8,MEDIEVAL COMMA,PARAGRAPHUS MARK,PUNCTUS ELEVATUS MARK,
   CORNISH VERSE DIVIDER,,,TIRONIAN SIGN CAPITAL ET,MEDIEVAL EXCLAMATION MARK,
   MEDIEVAL QUESTION MARK,*8,OBLIQUE HYPHEN;2E11 REVERSED:FORKED PARAGRAPHOS,*28,
   QUESTION MARK,*18,COMMA;2E14 DOWNWARDS:ANCORA;2E15 UPWARDS:ANCORA;
   2E17 DOUBLE:OBLIQUE HYPHEN,*40,HYPHEN,,LOW-REVERSED-9 QUOTATION MARK,,SUSPENSION MARK,*4,
   STACKED COMMA;2E18 INVERTED:INTERROBANG,*44,LOW KAVYKA,LOW KAVYKA WITH KAVYKA ABOVE;
   2E1B TILDE:WITH RING ABOVE,,,WITH DOT ABOVE,WITH DOT BELOW;2E22 TOP:LEFT HALF BRACKET,
   RIGHT HALF BRACKET;2E24 BOTTOM:LEFT HALF BRACKET,RIGHT HALF BRACKET,*53,
   HALF LEFT PARENTHESIS,HALF RIGHT PARENTHESIS;2E29 RIGHT DOUBLE:PARENTHESIS;
   2E2A TWO:DOTS OVER ONE DOT PUNCTUATION;2E2C SQUARED:FOUR DOT PUNCTUATION;
   2E2F VERTICAL:TILDE,*13,SIX DOTS;2E30 RING:POINT;2E32 TURNED:COMMA,,,SEMICOLON,,,DAGGER;
   2E39 TOP HALF:SECTION SIGN,*31,LEFT PARENTHESIS,RIGHT PARENTHESIS;2E47 LOW:KAVYKA,
   KAVYKA WITH DOT;2E4B TRIPLE:DAGGER;2E50 CROSS:PATTY WITH RIGHT CROSSBAR,
   PATTY WITH LEFT CROSSBAR;2E55 LEFT SQUARE BRACKET WITH:STROKE,,DOUBLE STROKE;
   2E56 RIGHT SQUARE BRACKET WITH:STROKE,,DOUBLE STROKE;2E80 CJK RADICAL:REPEAT,CLIFF,
   SECOND ONE,SECOND TWO,SECOND THREE,PERSON,BOX,TABLE,KNIFE ONE,KNIFE TWO,DIVINATION,SEAL,
   SMALL ONE,SMALL TWO,LAME ONE,LAME TWO,LAME THREE,LAME FOUR,SNAKE,THREAD,SNOUT ONE,
   SNOUT TWO,HEART ONE,HEART TWO,HAND,RAP,,CHOKE,SUN,MOON,DEATH,MOTHER,CIVILIAN,WATER ONE,
   WATER TWO,FIRE,PAW ONE,PAW TWO,,COW,DOG,JADE,BOLT OF CLOTH,EYE,SPIRIT ONE,SPIRIT TWO,
   BAMBOO,SILK,,NET ONE,NET TWO,NET THREE,NET FOUR,MESH,SHEEP,RAM,EWE,OLD,BRUSH ONE,BRUSH TWO,
   MEAT,MORTAR,GRASS ONE,GRASS TWO,GRASS THREE,TIGER,CLOTHES,WEST ONE,WEST TWO,,,HORN,,,FOOT,,
   ,WALK ONE,WALK TWO,CITY,,LONG ONE,LONG TWO,,,MOUND ONE,MOUND TWO,RAIN,BLUE,*4,EAT ONE,
   EAT TWO,EAT THREE,,HEAD,,BONE,GHOST,*6,J-SIMPLIFIED EVEN,,J-SIMPLIFIED TOOTH,,
   J-SIMPLIFIED DRAGON,,TURTLE,J-SIMPLIFIED TURTLE;
   2EA6 CJK RADICAL SIMPLIFIED:HALF TREE TRUNK,*31,HORN,*5,WALK,*27,WHEAT,YELLOW;
   2EB0 CJK RADICAL C-SIMPLIFIED:SILK,*20,SEE,,,SPEECH,SHELL,,CART,*4,GOLD,,,LONG,GATE,*4,
   TANNED LEATHER,LEAF,WIND,FLY,*3,EAT,,HORSE,,,FISH,BIRD,SALT,,,FROG,,EVEN,,TOOTH,,DRAGON,,,
   TURTLE;2F00 KANGXI RADICAL:ONE,LINE,DOT,SLASH,SECOND,HOOK,TWO,LID,MAN,LEGS,ENTER,EIGHT,
   DOWN BOX,COVER,ICE,TABLE,OPEN BOX,KNIFE,POWER,WRAP,SPOON,RIGHT OPEN BOX,HIDING ENCLOSURE,
   TEN,DIVINATION,SEAL,CLIFF,PRIVATE,AGAIN,MOUTH,ENCLOSURE,EARTH,SCHOLAR,GO,GO SLOWLY,EVENING,
   BIG,WOMAN,CHILD,ROOF,INCH,SMALL,LAME,CORPSE,SPROUT,MOUNTAIN,RIVER,WORK,ONESELF,TURBAN,DRY,
   SHORT THREAD,DOTTED CLIFF,LONG STRIDE,TWO HANDS,SHOOT,BOW,SNOUT,BRISTLE,STEP,HEART,HALBERD,
   DOOR,HAND,BRANCH,RAP,SCRIPT,DIPPER,AXE,SQUARE,NOT,SUN,SAY,MOON,TREE,LACK,STOP,DEATH,WEAPON,
   DO NOT,COMPARE,FUR,CLAN,STEAM,WATER,FIRE,CLAW,FATHER,DOUBLE X,HALF TREE TRUNK,SLICE,FANG,
   COW,DOG,PROFOUND,JADE,MELON,TILE,SWEET,LIFE,USE,FIELD,BOLT OF CLOTH,SICKNESS,DOTTED TENT,
   WHITE,SKIN,DISH,EYE,SPEAR,ARROW,STONE,SPIRIT,TRACK,GRAIN,CAVE,STAND,BAMBOO,RICE,SILK,JAR,
   NET,SHEEP,FEATHER,OLD,AND,PLOW,EAR,BRUSH,MEAT,MINISTER,SELF,ARRIVE,MORTAR,TONGUE,OPPOSE,
   BOAT,STOPPING,COLOR,GRASS,TIGER,INSECT,BLOOD,WALK ENCLOSURE,CLOTHES,WEST,SEE,HORN,SPEECH,
   VALLEY,BEAN,PIG,BADGER,SHELL,RED,RUN,FOOT,BODY,CART,BITTER,MORNING,WALK,CITY,WINE,
   DISTINGUISH,VILLAGE,GOLD,LONG,GATE,MOUND,SLAVE,SHORT TAILED BIRD,RAIN,BLUE,WRONG,FACE,
   LEATHER,TANNED LEATHER,LEEK,SOUND,LEAF,WIND,FLY,EAT,HEAD,FRAGRANT,HORSE,BONE,TALL,HAIR,
   FIGHT,SACRIFICIAL WINE,CAULDRON,GHOST,FISH,BIRD,SALT,DEER,WHEAT,HEMP,YELLOW,MILLET,BLACK,
   EMBROIDERY,FROG,TRIPOD,DRUM,RAT,NOSE,EVEN,TOOTH,DRAGON,TURTLE,FLUTE;
   2FF0 IDEOGRAPHIC DESCRIPTION CHARACTER:LEFT TO RIGHT,ABOVE TO BELOW,
   LEFT TO MIDDLE AND RIGHT,ABOVE TO MIDDLE AND BELOW,FULL SURROUND,*6,OVERLAID;
   2FF5 IDEOGRAPHIC DESCRIPTION CHARACTER SURROUND FROM:ABOVE,BELOW,LEFT,UPPER LEFT,
   UPPER RIGHT,LOWER LEFT"

end Grading.Text
