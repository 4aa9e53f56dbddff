/-!
# Historic — names of characters of historic scripts

The rows of the table are read as `Grading.Text.rowCode?` says.
-/

namespace Grading.Text

def historicNames : String :=
  "10000 LINEAR B SYLLABLE:B008 A,B038 E,B028 I,B061 O,B010 U,B001 DA,B045 DE,B007 DI,B014 DO,
   B051 DU,B057 JA,B046 JE,,B036 JO,B065 JU,B077 KA,B044 KE,B067 KI,B070 KO,B081 KU,B080 MA,
   B013 ME,B073 MI,B015 MO,B023 MU,B006 NA,B024 NE,B030 NI,B052 NO,B055 NU,B003 PA,B072 PE,
   B039 PI,B011 PO,B050 PU,B016 QA,B078 QE,B021 QI,B032 QO,,B060 RA,B027 RE,B053 RI,B002 RO,
   B026 RU,B031 SA,B009 SE,B041 SI,B012 SO,B058 SU,B059 TA,B004 TE,B037 TI,B005 TO,B069 TU,
   B054 WA,B075 WE,B040 WI,B042 WO,,B017 ZA,B074 ZE,,B020 ZO,B025 A2,B043 A3,B085 AU,B071 DWE,
   B090 DWO,B048 NWA,B029 PU2,B062 PTE,B076 RA2,B033 RA3,B068 RO2,B066 TA2,B087 TWE,B091 TWO;
   10050 LINEAR B SYMBOL:B018*2,B022,B034,B047,B049,B056,B063*2,B079,B082*2,B086,B089;
   10080 LINEAR B IDEOGRAM:B100 MAN,B102 WOMAN,B104 DEER,B105 EQUID,B105F MARE,B105M STALLION,
   B106F EWE,B106M RAM,B107F SHE-GOAT,B107M HE-GOAT,B108F SOW,B108M BOAR,B109F COW,B109M BULL,
   B120 WHEAT,B121 BARLEY,B122 OLIVE,B123 SPICE,B125 CYPERUS,,,B130 OIL,B131 WINE,B132,,,
   B140 BRONZE,B141 GOLD,B142,B145 WOOL,B146,B150,B151 HORN,B152*3,,B157*2,B159 CLOTH,B160*2,
   B162 GARMENT,B163 ARMOUR,B164*9,B173 MONTH,B174,B176 TREE,B177*9,B189*2,B191 HELMET,
   B220 FOOTSTOOL,B225 BATHTUB,B230 SPEAR,B231 ARROW,B232,B233 SWORD,B234,B236,
   B240 WHEELED CHARIOT,B241 CHARIOT,B242 CHARIOT FRAME,B243 WHEEL,B245*2,,B248*2,B251*3,
   B254 DART,B255*5;10093 LINEAR B MONOGRAM:B127 KAPO,B128 KANAKO,*3,B133 AREPA,B135 MERI,*10,
   B156 TURO2,*45,B247 DIPTE;100DE LINEAR B IDEOGRAM VESSEL:B155,B200*20,B221*2,B226*4,B250,
   B305;10100 AEGEAN:WORD SEPARATOR LINE,WORD SEPARATOR DOT,CHECK MARK,*57,
   DRY MEASURE FIRST SUBUNIT,LIQUID MEASURE FIRST SUBUNIT,MEASURE SECOND SUBUNIT,
   MEASURE THIRD SUBUNIT;10107 AEGEAN NUMBER:ONE,TWO,THREE,FOUR,FIVE,SIX,SEVEN,EIGHT,NINE,TEN,
   TWENTY,THIRTY,FORTY,FIFTY,SIXTY,SEVENTY,EIGHTY,NINETY,ONE HUNDRED,TWO HUNDRED,
   THREE HUNDRED,FOUR HUNDRED,FIVE HUNDRED,SIX HUNDRED,SEVEN HUNDRED,EIGHT HUNDRED,
   NINE HUNDRED,ONE THOUSAND,TWO THOUSAND,THREE THOUSAND,FOUR THOUSAND,FIVE THOUSAND,
   SIX THOUSAND,SEVEN THOUSAND,EIGHT THOUSAND,NINE THOUSAND,TEN THOUSAND,TWENTY THOUSAND,
   THIRTY THOUSAND,FORTY THOUSAND,FIFTY THOUSAND,SIXTY THOUSAND,SEVENTY THOUSAND,
   EIGHTY THOUSAND,NINETY THOUSAND;10137 AEGEAN WEIGHT:BASE UNIT,FIRST SUBUNIT,SECOND SUBUNIT,
   THIRD SUBUNIT,FOURTH SUBUNIT;10140 GREEK ACROPHONIC ATTIC ONE:QUARTER,HALF,DRACHMA,*8,
   HUNDRED TALENTS,,THOUSAND TALENTS,*4,HUNDRED STATERS,,THOUSAND STATERS;
   10143 GREEK ACROPHONIC ATTIC:FIVE,FIFTY,,,FIFTY THOUSAND,,TEN TALENTS,FIFTY TALENTS,*5,
   TEN STATERS,FIFTY STATERS,*3,TEN THOUSAND STATERS,FIFTY THOUSAND STATERS,TEN MNAS;
   10145 GREEK ACROPHONIC ATTIC FIVE:HUNDRED,THOUSAND,,TALENTS,*3,HUNDRED TALENTS,,
   THOUSAND TALENTS,STATERS,*3,HUNDRED STATERS;10158 GREEK ACROPHONIC:HERAEUM ONE PLETHRON,,
   HERMIONIAN ONE,EPIDAUREAN TWO,,CYRENAIC TWO DRACHMAS,EPIDAUREAN TWO DRACHMAS,*3,
   HERMIONIAN TEN,MESSENIAN TEN,*4,HERMIONIAN FIFTY,*3,EPIDAUREAN FIVE HUNDRED,,,
   CARYSTIAN FIVE HUNDRED,NAXIAN FIVE HUNDRED,,,DELPHIC FIVE MNAS,STRATIAN FIFTY MNAS;
   10159 GREEK ACROPHONIC THESPIAN:ONE,,,TWO,*7,TEN,THIRTY,*3,FIFTY,ONE HUNDRED,THREE HUNDRED,
   ,,FIVE HUNDRED,,,ONE THOUSAND,FIVE THOUSAND;1015F GREEK ACROPHONIC TROEZENIAN:FIVE,TEN,
   TEN ALTERNATE FORM,*4,FIFTY,FIFTY ALTERNATE FORM,*5,FIVE HUNDRED;10175 GREEK:ONE HALF SIGN,
   ONE HALF SIGN ALTERNATE FORM,TWO THIRDS SIGN,THREE QUARTERS SIGN,YEAR SIGN,TALENT SIGN,
   DRACHMA SIGN,OBOL SIGN,TWO OBOLS SIGN,THREE OBOLS SIGN,FOUR OBOLS SIGN,FIVE OBOLS SIGN,
   METRETES SIGN,KYATHOS BASE SIGN,LITRA SIGN,OUNKIA SIGN,XESTES SIGN,ARTABE SIGN,AROURA SIGN,
   GRAMMA SIGN,TRYBLION BASE SIGN,ZERO SIGN,ONE QUARTER SIGN,SINUSOID SIGN,INDICTION SIGN,*18,
   SYMBOL TAU RHO;1018E :NOMISMA SIGN,*13,ASCIA SYMBOL;10190 ROMAN:SEXTANS SIGN,UNCIA SIGN,
   SEMUNCIA SIGN,SEXTULA SIGN,DIMIDIA SEXTULA SIGN,SILIQUA SIGN,DENARIUS SIGN,QUINARIUS SIGN,
   SESTERTIUS SIGN,DUPONDIUS SIGN,AS SIGN,CENTURIAL SIGN;101D0 PHAISTOS DISC SIGN:PEDESTRIAN,
   PLUMED HEAD,TATTOOED HEAD,CAPTIVE,CHILD,WOMAN,HELMET,GAUNTLET,TIARA,ARROW,BOW,SHIELD,CLUB,
   MANACLES,MATTOCK,SAW,LID,BOOMERANG,CARPENTRY PLANE,DOLIUM,COMB,SLING,COLUMN,BEEHIVE,SHIP,
   HORN,HIDE,BULLS LEG,CAT,RAM,EAGLE,DOVE,TUNNY,BEE,PLANE TREE,VINE,PAPYRUS,ROSETTE,LILY,
   OX BACK,FLUTE,GRATER,STRAINER,SMALL AXE,WAVY BAND,COMBINING OBLIQUE STROKE;
   10280 LYCIAN LETTER:A,E,B,BH,G,D,I,W,Z,TH,J,K,Q,L*3,MM,NN,U,P,KK,R*3,TT,AN,EN,H,X;
   102A0 CARIAN LETTER:A,P2,D,L,UUU,R,LD,A2,Q,B,M,O,D2,T,SH,SH2,S,C-18,U,NN,X,N,TT2,P,SS,I,E,
   UUUU,K,K2,ND,UU,G,G2,ST,ST2,NG,II,C-39,TT,UUU2,RR,MB,MB2*3,LD2,E2,UUU3;
   102E0 COPTIC EPACT:THOUSANDS MARK;102E1 COPTIC EPACT DIGIT:ONE,TWO,THREE,FOUR,FIVE,SIX,
   SEVEN,EIGHT,NINE;102EA COPTIC EPACT NUMBER:TEN,TWENTY,THIRTY,FORTY,FIFTY,SIXTY,SEVENTY,
   EIGHTY,NINETY,ONE HUNDRED,TWO HUNDRED,THREE HUNDRED,FOUR HUNDRED,FIVE HUNDRED,SIX HUNDRED,
   SEVEN HUNDRED,EIGHT HUNDRED,NINE HUNDRED;10300 OLD ITALIC LETTER:A,BE,KE,DE,E,VE,ZE,HE,THE,
   I,KA,EL*3,ESH,O,PE,SHE,KU,ER,ES,TE,U,EKS,PHE,KHE,EF,ERS,CHE,II,UU,ESS,*13,YE,NORTHERN TSE,
   SOUTHERN TSE;10320 OLD ITALIC:NUMERAL ONE,NUMERAL FIVE,NUMERAL TEN,NUMERAL FIFTY;
   10330 GOTHIC LETTER:AHSA,BAIRKAN,GIBA,DAGS,AIHVUS,QAIRTHRA,IUJA,HAGL,THIUTH,EIS,KUSMA,
   LAGUS,MANNA,NAUTHS,JER,URUS,PAIRTHRA,NINETY,RAIDA,SAUIL,TEIWS,WINJA,FAIHU,IGGWS,HWAIR,
   OTHAL,NINE HUNDRED;10350 OLD PERMIC LETTER:AN,BUR,GAI,DOI,E,ZHOI,DZHOI,ZATA,DZITA,I,KOKE,
   LEI,MENOE,NENOE,VOOI,PEEI,REI,SII,TAI,U,CHERY,SHOOI,SHCHOOI,YRY,YERU,O,OO,EF,HA,TSIU,VER,
   YER,YERI,YAT,IE,YU,YA,IA;10376 COMBINING OLD PERMIC LETTER:AN,DOI,ZATA,NENOE,SII;
   10380 UGARITIC LETTER:ALPA,BETA,GAMLA,KHA,DELTA,HO,WO,ZETA,HOTA,TET,YOD,KAF,SHIN,LAMDA,MEM,
   DHAL,NUN,ZU,SAMKA,AIN,PU,SADE,QOPA,RASHA,THANNA,GHAIN,TO,I,U,SSU;
   1039F UGARITIC:WORD DIVIDER;103A0 OLD PERSIAN SIGN:A,I,U,KA,KU,GA,GU,XA,CA,JA,JI,TA,TU,DA,
   DI,DU,THA,PA,BA,FA,NA,NU,MA,MI,MU,YA,VA,VI,RA,RU,LA,SA,ZA,SHA,SSA,HA,*4,AURAMAZDAA,
   AURAMAZDAA-2,AURAMAZDAAHA,XSHAAYATHIYA,DAHYAAUSH,DAHYAAUSH-2,BAGA,BUUMISH;
   103D0 OLD PERSIAN:WORD DIVIDER;103D1 OLD PERSIAN NUMBER:ONE,TWO,TEN,TWENTY,HUNDRED;
   10400 DESERET CAPITAL LETTER LONG:I,E,A,AH,O,OO;10406 DESERET CAPITAL LETTER SHORT:I,E,A,
   AH,O,OO;1040C DESERET CAPITAL LETTER:AY,OW,WU,YEE,H,PEE,BEE,TEE,DEE,CHEE,JEE,KAY,GAY,EF,
   VEE,ETH,THEE,ES,ZEE,ESH,ZHEE,ER,EL*3,ENG,OI,EW;10428 DESERET SMALL LETTER LONG:I,E,A,AH,O,
   OO;1042E DESERET SMALL LETTER SHORT:I,E,A,AH,O,OO;10434 DESERET SMALL LETTER:AY,OW,WU,YEE,
   H,PEE,BEE,TEE,DEE,CHEE,JEE,KAY,GAY,EF,VEE,ETH,THEE,ES,ZEE,ESH,ZHEE,ER,EL*3,ENG,OI,EW;
   10450 SHAVIAN LETTER:PEEP,TOT,KICK,FEE,THIGH,SO,SURE,CHURCH,YEA,HUNG,BIB,DEAD,GAG,VOW,THEY,
   ZOO,MEASURE,JUDGE,WOE,HA-HA,LOLL,MIME,IF,EGG,ASH,ADO,ON,WOOL,OUT,AH,ROAR,NUN,EAT,AGE,ICE,
   UP,OAK,OOZE,OIL,AWE,ARE,OR,AIR,ERR,ARRAY,EAR,IAN,YEW;10480 OSMANYA LETTER:ALEF,BA,TA,JA,XA,
   KHA,DEEL,RA,SA,SHIIN,DHA,CAYN,GA,FA,QAAF,KAAF,LAAN,MIIN,NUUN,WAW,HA,YA,A,E,I,O,U,AA,EE,OO;
   104A0 OSMANYA DIGIT:ZERO,ONE,TWO,THREE,FOUR,FIVE,SIX,SEVEN,EIGHT,NINE;
   104B0 OSAGE CAPITAL LETTER:A,AI,AIN,AH,BRA,CHA,EHCHA,E,EIN,HA,HYA,I,KA,EHKA,KYA,LA,MA,NA,O,
   OIN,PA,EHPA,SA,SHA,TA,EHTA,TSA,EHTSA,TSHA,DHA,U,WA,KHA,GHA,ZA,ZHA;
   104D8 OSAGE SMALL LETTER:A,AI,AIN,AH,BRA,CHA,EHCHA,E,EIN,HA,HYA,I,KA,EHKA,KYA,LA,MA,NA,O,
   OIN,PA,EHPA,SA,SHA,TA,EHTA,TSA,EHTSA,TSHA,DHA,U,WA,KHA,GHA,ZA,ZHA;10500 ELBASAN LETTER:A,
   BE,CE,CHE,DE,NDE,DHE,EI,E,FE,GE,GJE,HE,I,JE,KE,LE,LLE,ME,NE,NA,NJE,O,PE,QE,RE,RRE,SE,SHE,
   TE,THE,U,VE,XE,Y,ZE,ZHE,GHE,GHAMMA,KHE;10530 CAUCASIAN ALBANIAN LETTER:ALT,BET,GIM,DAT,EB,
   ZARL,EYN,ZHIL,TAS,CHA,YOWD,ZHA,IRB,SHA,LAN,INYA,XEYN,DYAN,CAR,JHOX,KAR,LYIT,HEYT,QAY,AOR,
   CHOY,CHI,CYAY,MAQ,QAR,NOWC,DZYAY,SHAK,JAYN,ON,TYAY,FAM,DZAY,CHAT,PEN,GHEYS,RAT,SEYK,VEYZ,
   TIWR,SHOY,IWN,CYAW,CAYN,YAYD,PIWR,KIW;1056F CAUCASIAN ALBANIAN:CITATION MARK;
   10570 VITHKUQI CAPITAL LETTER:A,BBE,BE,CE,CHE,DE,DHE,EI,E,FE,GA,,HA,HHA,I,IJE,JE,KA,LA,LLA,
   ME,NE,NJE,O,PE,QA,RE,,SE,SHE,TE,THE,U,VE,XE,,Y,ZE;10597 VITHKUQI SMALL LETTER:A,BBE,BE,CE,
   CHE,DE,DHE,EI,E,FE,GA,,HA,HHA,I,IJE,JE,KA,LA,LLA,ME,NE,NJE,O,PE,QA,RE,,SE,SHE,TE,THE,U,VE,
   XE,,Y,ZE;10600 LINEAR A SIGN:AB001*11,AB013,AB016*2,AB020*2,AB021F,AB021M,AB022,AB022F,
   AB022M,AB023,AB023M,AB024,AB026*3,A028B,AB029*3,AB034,AB037*5,AB044*8,AB053*9,AB065*3,
   AB069*2,AB073*2,AB076*7,AB085*3,A100-102,AB118,AB120,A120B,AB122*2,AB131A*2,A131C,AB164,
   AB171,AB180,AB188,AB191,A301*8,A309A*3,A310*3,A313A*3,A314*58,A400-VAS,A401-VAS,A402-VAS,
   A403-VAS,A404-VAS,A405-VAS,A406-VAS,A407-VAS,A408-VAS,A409-VAS,A410-VAS,A411-VAS,A412-VAS,
   A413-VAS,A414-VAS,A415-VAS,A416-VAS,A417-VAS,A418-VAS,A501*6,A508*6,A515*2,A520*2,A523*10,
   A534*9,A545,A547*11,A559,A563*4,A568*22,A591*2,A594*3,A598,A600*5,A606,A608*17,A626*4,A634,
   A637*2,A640,A642*5,A648*2,A651*14,*9,A701 A,A702 B,A703 D,A704 E,A705 F,A706 H,A707 J,
   A708 K,A709 L,A709-2 L2,A709-3 L3,A709-4 L4,A709-6 L6,A710 W,A711 X,A712 Y,A713 OMEGA,
   A714 ABB,A715 BB,A717 DD,A726 EYYY,A732 JE,*10,A800*8;
   10780 MODIFIER LETTER SMALL CAPITAL:AA,*3,B,*13,G,,G WITH HOOK,,H,*5,L WITH BELT,*6,OE,*6,
   R,*7,Y;10781 MODIFIER LETTER:SUPERSCRIPT TRIANGULAR COLON,
   SUPERSCRIPT HALF TRIANGULAR COLON,*48,GLOTTAL STOP WITH STROKE,
   REVERSED GLOTTAL STOP WITH STROKE,BILABIAL CLICK,DENTAL CLICK,LATERAL CLICK,ALVEOLAR CLICK,
   RETROFLEX CLICK WITH RETROFLEX HOOK;10783 MODIFIER LETTER SMALL:AE,,B WITH HOOK,,
   DZ DIGRAPH,DZ DIGRAPH WITH RETROFLEX HOOK,DZ DIGRAPH WITH CURL,DEZH DIGRAPH,D WITH TAIL,
   D WITH HOOK,D WITH HOOK AND TAIL,REVERSED E,CLOSED REVERSED OPEN E,FENG DIGRAPH,RAMS HORN,,
   G WITH HOOK,,H WITH STROKE,,HENG WITH HOOK,DOTLESS J WITH STROKE AND HOOK,LS DIGRAPH,
   LZ DIGRAPH,*3,LEZH,LEZH WITH RETROFLEX HOOK,,,O WITH STROKE,,CLOSED OMEGA,Q,,,R WITH TAIL,
   R WITH FISHHOOK,,TC DIGRAPH WITH CURL,TS DIGRAPH,TS DIGRAPH WITH RETROFLEX HOOK,
   TESH DIGRAPH,T WITH RETROFLEX HOOK,V WITH RIGHT HOOK,*9,S WITH CURL;
   1079B MODIFIER LETTER SMALL L WITH:BELT,,RETROFLEX HOOK AND BELT;
   107A0 MODIFIER LETTER SMALL TURNED:Y,Y WITH BELT,*4,R WITH LONG LEG,
   R WITH LONG LEG AND RETROFLEX HOOK;10800 CYPRIOT SYLLABLE:A,E,I,O,U,JA,,,JO,,KA,KE,KI,KO,
   KU,LA,LE,LI,LO,LU,MA,ME,MI,MO,MU,NA,NE,NI,NO,NU,PA,PE,PI,PO,PU,RA,RE,RI,RO,RU,SA,SE,SI,SO,
   SU,TA,TE,TI,TO,TU,WA,WE,WI,WO,,XA,XE,*3,ZA,,,ZO;10840 IMPERIAL ARAMAIC LETTER:ALEPH,BETH,
   GIMEL,DALETH,HE,WAW,ZAYIN,HETH,TETH,YODH,KAPH,LAMEDH,MEM,NUN,SAMEKH,AYIN,PE,SADHE,QOPH,
   RESH,SHIN,TAW;10857 IMPERIAL ARAMAIC:SECTION SIGN;10858 IMPERIAL ARAMAIC NUMBER:ONE,TWO,
   THREE,TEN,TWENTY,ONE HUNDRED,ONE THOUSAND,TEN THOUSAND;10860 PALMYRENE LETTER:ALEPH,BETH,
   GIMEL,DALETH,HE,WAW,ZAYIN,HETH,TETH,YODH,KAPH,LAMEDH,MEM,FINAL NUN,NUN,SAMEKH,AYIN,PE,
   SADHE,QOPH,RESH,SHIN,TAW;10877 PALMYRENE:LEFT-POINTING FLEURON,RIGHT-POINTING FLEURON;
   10879 PALMYRENE NUMBER:ONE,TWO,THREE,FOUR,FIVE,TEN,TWENTY;
   10880 NABATAEAN LETTER FINAL:ALEPH,,BETH,*3,HE,*5,YODH,,KAPH,,LAMEDH,,MEM,,NUN,*7,SHIN;
   10881 NABATAEAN LETTER:ALEPH,,BETH,GIMEL,DALETH,,HE,WAW,ZAYIN,HETH,TETH,,YODH,,KAPH,,
   LAMEDH,,MEM,,NUN,SAMEKH,AYIN,PE,SADHE,QOPH,RESH,,SHIN,TAW;108A7 NABATAEAN NUMBER:ONE,TWO,
   THREE,FOUR,,FIVE,TEN,TWENTY,ONE HUNDRED;108AB NABATAEAN:CRUCIFORM NUMBER FOUR;
   108E0 HATRAN LETTER:ALEPH,BETH,GIMEL,DALETH-RESH,HE,WAW,ZAYN,HETH,TETH,YODH,KAPH,LAMEDH,
   MEM,NUN,SAMEKH,AYN,PE,SADHE,QOPH,,SHIN,TAW;108FB HATRAN NUMBER:ONE,FIVE,TEN,TWENTY,
   ONE HUNDRED;10900 PHOENICIAN LETTER:ALF,BET,GAML,DELT,HE,WAU,ZAI,HET,TET,YOD,KAF,LAMD,MEM,
   NUN,SEMK,AIN,PE,SADE,QOF,ROSH,SHIN,TAU;10916 PHOENICIAN NUMBER:ONE,TEN,TWENTY,ONE HUNDRED,
   TWO,THREE;1091F PHOENICIAN:WORD SEPARATOR;10920 LYDIAN LETTER:A,B,G,D,E,V,I,Y,K*5,R,SS,T,U,
   F,Q,S,TT,AN,EN,LY,NN,C;1093F LYDIAN:TRIANGULAR MARK;10980 MEROITIC HIEROGLYPHIC LETTER:A,E,
   I,O,YA,WA,BA,BA-2,PA,MA,NA,NA-2,NE,NE-2,RA,RA-2,LA,KHA,HHA,SA,SA-2,SE,KA,QA,TA,TA-2,TE,
   TE-2,TO,DA;1099E MEROITIC HIEROGLYPHIC:SYMBOL VIDJ,SYMBOL VIDJ-2;
   109A0 MEROITIC CURSIVE LETTER:A,E,I,O,YA,WA,BA,PA,MA,NA,NE,RA,LA,KHA,HHA,SA,ARCHAIC SA,SE,
   KA,QA,TA,TE,TO,DA;109BC MEROITIC CURSIVE FRACTION:ELEVEN TWELFTHS,ONE HALF,*56,ONE TWELFTH,
   TWO TWELFTHS,THREE TWELFTHS,FOUR TWELFTHS,FIVE TWELFTHS,SIX TWELFTHS,SEVEN TWELFTHS,
   EIGHT TWELFTHS,NINE TWELFTHS,TEN TWELFTHS;109BE MEROITIC CURSIVE:LOGOGRAM RMT,LOGOGRAM IMN;
   109C0 MEROITIC CURSIVE NUMBER:ONE,TWO,THREE,FOUR,FIVE,SIX,SEVEN,EIGHT,NINE,TEN,TWENTY,
   THIRTY,FORTY,FIFTY,SIXTY,SEVENTY,,,ONE HUNDRED,TWO HUNDRED,THREE HUNDRED,FOUR HUNDRED,
   FIVE HUNDRED,SIX HUNDRED,SEVEN HUNDRED,EIGHT HUNDRED,NINE HUNDRED,ONE THOUSAND,
   TWO THOUSAND,THREE THOUSAND,FOUR THOUSAND,FIVE THOUSAND,SIX THOUSAND,SEVEN THOUSAND,
   EIGHT THOUSAND,NINE THOUSAND,TEN THOUSAND,TWENTY THOUSAND,THIRTY THOUSAND,FORTY THOUSAND,
   FIFTY THOUSAND,SIXTY THOUSAND,SEVENTY THOUSAND,EIGHTY THOUSAND,NINETY THOUSAND,
   ONE HUNDRED THOUSAND,TWO HUNDRED THOUSAND,THREE HUNDRED THOUSAND,FOUR HUNDRED THOUSAND,
   FIVE HUNDRED THOUSAND,SIX HUNDRED THOUSAND,SEVEN HUNDRED THOUSAND,EIGHT HUNDRED THOUSAND,
   NINE HUNDRED THOUSAND;10A00 KHAROSHTHI LETTER:A,*15,KA,KHA,GA,GHA,,CA,CHA,JA,,NYA,TTA,TTHA,
   DDA,DDHA,NNA,TA,THA,DA,DHA,NA,PA,PHA,BA,BHA,MA,YA,RA,LA,VA,SHA,SSA,SA,ZA,HA,KKA,TTTHA,TTTA,
   VHA;10A01 KHAROSHTHI VOWEL SIGN:I,U,VOCALIC R,,E,O;10A0C KHAROSHTHI VOWEL:LENGTH MARK;
   10A0D KHAROSHTHI SIGN:DOUBLE RING BELOW,ANUSVARA,VISARGA,*40,BAR ABOVE,CAUDA,DOT BELOW;
   10A3F KHAROSHTHI:VIRAMA,DIGIT ONE,DIGIT TWO,DIGIT THREE,DIGIT FOUR,NUMBER TEN,
   NUMBER TWENTY,NUMBER ONE HUNDRED,NUMBER ONE THOUSAND,FRACTION ONE HALF;
   10A50 KHAROSHTHI PUNCTUATION:DOT,SMALL CIRCLE,CIRCLE,CRESCENT BAR,MANGALAM,LOTUS,DANDA,
   DOUBLE DANDA,LINES;10A60 OLD SOUTH ARABIAN LETTER:HE,LAMEDH,HETH,MEM,QOPH,WAW,SHIN,RESH,
   BETH,TAW,SAT,KAPH,NUN,KHETH,SADHE,SAMEKH,FE,ALEF,AYN,DHADHE,GIMEL,DALETH,GHAYN,TETH,ZAYN,
   DHALETH,YODH,THAW,THETH;10A7D OLD SOUTH ARABIAN:NUMBER ONE,NUMBER FIFTY,NUMERIC INDICATOR;
   10A80 OLD NORTH ARABIAN LETTER:HEH,LAM,HAH,MEEM,QAF,WAW,ES-2,REH,BEH,TEH,ES-1,KAF,NOON,
   KHAH,SAD,ES-3,FEH,ALEF,AIN,DAD,GEEM,DAL,GHAIN,TAH,ZAIN,THAL,YEH,THEH,ZAH;
   10A9D OLD NORTH ARABIAN:NUMBER ONE,NUMBER TEN,NUMBER TWENTY;10AC0 MANICHAEAN LETTER:ALEPH,
   BETH,BHETH,GIMEL,GHIMEL,DALETH,HE,WAW,,ZAYIN,ZHAYIN,JAYIN,JHAYIN,HETH,TETH,YODH,KAPH,XAPH,
   KHAPH,LAMEDH,DHAMEDH,THAMEDH,MEM,NUN,SAMEKH,AYIN,AAYIN,PE,FE,SADHE,QOPH,XOPH,QHOPH,RESH,
   SHIN,SSHIN,TAW;10AC8 MANICHAEAN:SIGN UD,*28,ABBREVIATION MARK ABOVE,
   ABBREVIATION MARK BELOW;10AEB MANICHAEAN NUMBER:ONE,FIVE,TEN,TWENTY,ONE HUNDRED;
   10AF0 MANICHAEAN PUNCTUATION:STAR,FLEURON,DOUBLE DOT WITHIN DOT,DOT WITHIN DOT,DOT,
   TWO DOTS,LINE FILLER;10B00 AVESTAN LETTER:A,AA,AO,AAO,AN,AAN,AE,AEE,E,EE,O,OO,I,II,U,UU,KE,
   XE,XYE,XVE,GE,GGE,GHE,CE,JE,TE,THE,DE,DHE,TTE,PE,FE,BE,BHE,NGE,NGYE,NGVE,NE,NYE,NNE,ME,HME,
   YYE,YE,VE,RE,LE,SE,ZE,SHE,ZHE,SHYE,SSHE,HE;10B39 AVESTAN:ABBREVIATION MARK;
   10B3A :TINY TWO DOTS OVER ONE DOT PUNCTUATION;
   10B3B SMALL:TWO DOTS OVER ONE DOT PUNCTUATION;
   10B3C LARGE:TWO DOTS OVER ONE DOT PUNCTUATION,ONE DOT OVER TWO DOTS PUNCTUATION,
   TWO RINGS OVER ONE RING PUNCTUATION,ONE RING OVER TWO RINGS PUNCTUATION;
   10B40 INSCRIPTIONAL PARTHIAN LETTER:ALEPH,BETH,GIMEL,DALETH,HE,WAW,ZAYIN,HETH,TETH,YODH,
   KAPH,LAMEDH,MEM,NUN,SAMEKH,AYIN,PE,SADHE,QOPH,RESH,SHIN,TAW;
   10B58 INSCRIPTIONAL PARTHIAN NUMBER:ONE,TWO,THREE,FOUR,TEN,TWENTY,ONE HUNDRED,ONE THOUSAND;
   10B60 INSCRIPTIONAL PAHLAVI LETTER:ALEPH,BETH,GIMEL,DALETH,HE,WAW-AYIN-RESH,ZAYIN,HETH,
   TETH,YODH,KAPH,LAMEDH,MEM-QOPH,NUN,SAMEKH,PE,SADHE,SHIN,TAW;
   10B78 INSCRIPTIONAL PAHLAVI NUMBER:ONE,TWO,THREE,FOUR,TEN,TWENTY,ONE HUNDRED,ONE THOUSAND;
   10B80 PSALTER PAHLAVI LETTER:ALEPH,BETH,GIMEL,DALETH,HE,WAW-AYIN-RESH,ZAYIN,HETH,YODH,KAPH,
   LAMEDH,MEM-QOPH,NUN,SAMEKH,PE,SADHE,SHIN,TAW;10B99 PSALTER PAHLAVI:SECTION MARK,
   TURNED SECTION MARK,FOUR DOTS WITH CROSS,FOUR DOTS WITH DOT;
   10BA9 PSALTER PAHLAVI NUMBER:ONE,TWO,THREE,FOUR,TEN,TWENTY,ONE HUNDRED;
   10C00 OLD TURKIC LETTER ORKHON:A,,,I,,,O,OE,,AB,,AEB,,AG,,AEG,,AD,,AED,EZ,,AY,,AEY,,AEK,,
   OEK,,AL,,AEL,ELT,EM,AN,AEN,,ENT,,ENC,,ENY,,,ENG,,EP,OP,IC,EC,,AQ,,IQ,,OQ,,AR,,AER,AS,AES,
   ASH,,ESH,,AT,,AET,,OT,BASH;10C01 OLD TURKIC LETTER YENISEI:A,AE,,I,E,,,OE,,AB,,AEB,,AG,,
   AEG,,AD,,,EZ,,AY,,AEY,,AEK,,OEK,,AL,*5,AEN,,ENT,,ENC,,ENY,ANG,,AENG,*4,EC,,AQ,,IQ,,OQ,,AR,
   *4,ASH,,ESH,,AT,,AET;10C80 OLD HUNGARIAN CAPITAL LETTER:A,AA,EB,AMB,EC,ENC,ECS,ED,AND,E,
   CLOSE E,EE*3,EGY,EH,I,II,EJ,EK,AK,UNK,EL,ELY,EM,EN,ENY,O,OO,NIKOLSBURG OE,RUDIMENTA OE,OEE,
   EP,EMP,ER,SHORT ER,ES,ESZ,ET,ENT,ETY,ECH,U,UU,NIKOLSBURG UE,RUDIMENTA UE,EV,EZ,EZS,
   ENT-SHAPED SIGN,US;10CC0 OLD HUNGARIAN SMALL LETTER:A,AA,EB,AMB,EC,ENC,ECS,ED,AND,E,
   CLOSE E,EE*3,EGY,EH,I,II,EJ,EK,AK,UNK,EL,ELY,EM,EN,ENY,O,OO,NIKOLSBURG OE,RUDIMENTA OE,OEE,
   EP,EMP,ER,SHORT ER,ES,ESZ,ET,ENT,ETY,ECH,U,UU,NIKOLSBURG UE,RUDIMENTA UE,EV,EZ,EZS,
   ENT-SHAPED SIGN,US;10CFA OLD HUNGARIAN NUMBER:ONE,FIVE,TEN,FIFTY,ONE HUNDRED,ONE THOUSAND;
   10D00 HANIFI ROHINGYA LETTER:A,BA,PA,TA,TTA,JA,CA,HA,KHA,FA,DA,DDA,RA,RRA,ZA,SA,SHA,KA,GA,
   LA,MA,NA,WA,KINNA WA,YA,KINNA YA,NGA,NYA,VA;10D1D HANIFI ROHINGYA VOWEL:A,I,U,E,O;
   10D22 HANIFI ROHINGYA:MARK SAKIN,MARK NA KHONNA,SIGN HARBAHAY,SIGN TAHALA,SIGN TANA,
   SIGN TASSI;10D30 HANIFI ROHINGYA DIGIT:ZERO,ONE,TWO,THREE,FOUR,FIVE,SIX,SEVEN,EIGHT,NINE;
   10E60 RUMI DIGIT:ONE,TWO,THREE,FOUR,FIVE,SIX,SEVEN,EIGHT,NINE;10E69 RUMI NUMBER:TEN,TWENTY,
   THIRTY,FORTY,FIFTY,SIXTY,SEVENTY,EIGHTY,NINETY,ONE HUNDRED,TWO HUNDRED,THREE HUNDRED,
   FOUR HUNDRED,FIVE HUNDRED,SIX HUNDRED,SEVEN HUNDRED,EIGHT HUNDRED,NINE HUNDRED;
   10E7B RUMI:FRACTION ONE HALF,FRACTION ONE QUARTER,FRACTION ONE THIRD,FRACTION TWO THIRDS;
   10E80 YEZIDI LETTER:ELIF,BE,PE,PHE,THE,SE,CIM,CHIM,CHHIM,HHA,XA,DAL,ZAL,RA,RHA,ZA,JA,SIN,
   SHIN,SAD,DAD,TA,ZE,EYN,XHEYN,FA,VA,VA ALTERNATE FORM,QAF,KAF,KHAF,GAF,LAM,MIM,NUN,UM,WAW,
   OW,EW,HAY,YOT,ET,*6,LAM WITH DOT ABOVE,YOT WITH CIRCUMFLEX ABOVE;
   10EAB YEZIDI:COMBINING HAMZA MARK,COMBINING MADDA MARK,HYPHENATION MARK;
   10F00 OLD SOGDIAN LETTER:ALEPH,,BETH,,GIMEL,HE,,WAW,ZAYIN,HETH,YODH,KAPH,LAMEDH,MEM,NUN,,,
   SAMEKH,AYIN,ALTERNATE AYIN,PE,SADHE,,,RESH-AYIN-DALETH,SHIN,TAW;
   10F01 OLD SOGDIAN LETTER FINAL:ALEPH,,BETH,,,HE,*8,NUN,NUN WITH VERTICAL TAIL,*5,SADHE,
   SADHE WITH VERTICAL TAIL,*3,TAW,TAW WITH VERTICAL TAIL;10F1D OLD SOGDIAN NUMBER:ONE,TWO,
   THREE,FOUR,FIVE,TEN,TWENTY,THIRTY,ONE HUNDRED;10F26 OLD SOGDIAN:FRACTION ONE HALF,
   LIGATURE AYIN-DALETH;10F30 SOGDIAN LETTER:ALEPH,BETH,GIMEL,HE,WAW,ZAYIN,HETH,YODH,KAPH,
   LAMEDH,MEM,NUN,SAMEKH,AYIN,PE,SADHE,RESH-AYIN,SHIN,TAW,FETH,LESH;
   10F45 SOGDIAN:INDEPENDENT SHIN,*11,NUMBER ONE,NUMBER TEN,NUMBER TWENTY,NUMBER ONE HUNDRED;
   10F46 SOGDIAN COMBINING:DOT BELOW,TWO DOTS BELOW,DOT ABOVE,TWO DOTS ABOVE,CURVE ABOVE,
   CURVE BELOW,HOOK ABOVE,HOOK BELOW,LONG HOOK BELOW,RESH BELOW,STROKE BELOW;
   10F55 SOGDIAN PUNCTUATION:TWO VERTICAL BARS,TWO VERTICAL BARS WITH DOTS,CIRCLE WITH DOT,
   TWO CIRCLES WITH DOTS,HALF CIRCLE WITH DOT;10F70 OLD UYGHUR LETTER:ALEPH,BETH,GIMEL-HETH,
   WAW,ZAYIN,FINAL HETH,YODH,KAPH,LAMEDH,MEM,NUN,SAMEKH,PE,SADHE,RESH,SHIN,TAW,LESH;
   10F82 OLD UYGHUR:COMBINING DOT ABOVE,COMBINING DOT BELOW,COMBINING TWO DOTS ABOVE,
   COMBINING TWO DOTS BELOW,PUNCTUATION BAR,PUNCTUATION TWO BARS,PUNCTUATION TWO DOTS,
   PUNCTUATION FOUR DOTS;10FB0 CHORASMIAN LETTER:ALEPH,SMALL ALEPH,BETH,GIMEL,DALETH,HE,WAW,
   CURLED WAW,ZAYIN,HETH,YODH,KAPH,LAMEDH,MEM,NUN,SAMEKH,AYIN,PE,RESH,SHIN,TAW;
   10FC5 CHORASMIAN NUMBER:ONE,TWO,THREE,FOUR,TEN,TWENTY,ONE HUNDRED;
   10FE0 ELYMAIC LETTER:ALEPH,BETH,GIMEL,DALETH,HE,WAW,ZAYIN,HETH,TETH,YODH,KAPH,LAMEDH,MEM,
   NUN,SAMEKH,AYIN,PE,SADHE,QOPH,RESH,SHIN,TAW;10FF6 ELYMAIC:LIGATURE ZAYIN-YODH;
   11000 BRAHMI SIGN:CANDRABINDU,ANUSVARA,VISARGA,JIHVAMULIYA,UPADHMANIYA;
   11005 BRAHMI LETTER:A,AA,I,II,U,UU,VOCALIC R,VOCALIC RR,VOCALIC L,VOCALIC LL,E,AI,O,AU,KA,
   KHA,GA,GHA,NGA,CA,CHA,JA,JHA,NYA,TTA,TTHA,DDA,DDHA,NNA,TA,THA,DA,DHA,NA,PA,PHA,BA,BHA,MA,
   YA,RA,LA,VA,SHA,SSA,SA,HA,LLA;11035 BRAHMI LETTER OLD TAMIL:LLLA,RRA,NNNA,*57,SHORT E,
   SHORT O,,,LLA;11038 BRAHMI VOWEL SIGN:AA,BHATTIPROLU AA,I,II,U,UU,VOCALIC R,VOCALIC RR,
   VOCALIC L,VOCALIC LL,E,AI,O,AU,*45,OLD TAMIL SHORT E,OLD TAMIL SHORT O;11046 BRAHMI:VIRAMA,
   DANDA,DOUBLE DANDA;11049 BRAHMI PUNCTUATION:DOT,DOUBLE DOT,LINE,CRESCENT BAR,LOTUS;
   11052 BRAHMI NUMBER:ONE,TWO,THREE,FOUR,FIVE,SIX,SEVEN,EIGHT,NINE,TEN,TWENTY,THIRTY,FORTY,
   FIFTY,SIXTY,SEVENTY,EIGHTY,NINETY,ONE HUNDRED,ONE THOUSAND,*25,JOINER;
   11066 BRAHMI DIGIT:ZERO,ONE,TWO,THREE,FOUR,FIVE,SIX,SEVEN,EIGHT,NINE;
   11070 BRAHMI SIGN:OLD TAMIL VIRAMA;11080 KAITHI SIGN:CANDRABINDU,ANUSVARA,VISARGA,*54,
   VIRAMA,NUKTA;11083 KAITHI LETTER:A,AA,I,II,U,UU,E,AI,O,AU,KA,KHA,GA,GHA,NGA,CA,CHA,JA,JHA,
   NYA,TTA,TTHA,DDA,DDDHA,DDHA,RHA,NNA,TA,THA,DA,DHA,NA,PA,PHA,BA,BHA,MA,YA,RA,LA,VA,SHA,SSA,
   SA,HA;110B0 KAITHI VOWEL SIGN:AA,I,II,U,UU,E,AI,O,AU,*9,VOCALIC R;
   110BB KAITHI:ABBREVIATION SIGN,ENUMERATION SIGN,NUMBER SIGN,SECTION MARK,
   DOUBLE SECTION MARK,DANDA,DOUBLE DANDA,*11,NUMBER SIGN ABOVE;110D0 SORA SOMPENG LETTER:SAH,
   TAH,BAH,CAH,DAH,GAH,MAH,NGAH,LAH,NAH,VAH,PAH,YAH,RAH,HAH,KAH,JAH,NYAH,AH,EEH,IH,UH,OH,EH,
   MAE;110F0 SORA SOMPENG DIGIT:ZERO,ONE,TWO,THREE,FOUR,FIVE,SIX,SEVEN,EIGHT,NINE;
   11100 CHAKMA:SIGN CANDRABINDU,SIGN ANUSVARA,SIGN VISARGA,*46,O MARK,AU MARK,VIRAMA,MAAYYAA,
   *11,SECTION MARK,DANDA,DOUBLE DANDA,QUESTION MARK;11103 CHAKMA LETTER:AA,I,U,E,KAA,KHAA,
   GAA,GHAA,NGAA,CAA,CHAA,JAA,JHAA,NYAA,TTAA,TTHAA,DDAA,DDHAA,NNAA,TAA,THAA,DAA,DHAA,NAA,PAA,
   PHAA,BAA,BHAA,MAA,YYAA,YAA,RAA,LAA,WAA,SAA,HAA,*29,LHAA,,,VAA;11127 CHAKMA VOWEL SIGN:A,I,
   II,U,UU,E,AI,O,AU,OI,*20,AA,EI;11136 CHAKMA DIGIT:ZERO,ONE,TWO,THREE,FOUR,FIVE,SIX,SEVEN,
   EIGHT,NINE;11150 MAHAJANI LETTER:A,I,U,E,O,KA,KHA,GA,GHA,CA,CHA,JA,JHA,NYA,TTA,TTHA,DDA,
   DDHA,NNA,TA,THA,DA,DHA,NA,PA,PHA,BA,BHA,MA,RA,LA,VA,SA,HA,RRA;11173 MAHAJANI:SIGN NUKTA,
   ABBREVIATION SIGN,SECTION MARK,LIGATURE SHRI;11180 SHARADA SIGN:CANDRABINDU,ANUSVARA,
   VISARGA,*61,VIRAMA,AVAGRAHA,JIHVAMULIYA,UPADHMANIYA,*6,NUKTA,*4,INVERTED CANDRABINDU,*11,
   SIDDHAM;11183 SHARADA LETTER:A,AA,I,II,U,UU,VOCALIC R,VOCALIC RR,VOCALIC L,VOCALIC LL,E,AI,
   O,AU,KA,KHA,GA,GHA,NGA,CA,CHA,JA,JHA,NYA,TTA,TTHA,DDA,DDHA,NNA,TA,THA,DA,DHA,NA,PA,PHA,BA,
   BHA,MA,YA,RA,LA,LLA,VA,SHA,SSA,SA,HA;111B3 SHARADA VOWEL SIGN:AA,I,II,U,UU,VOCALIC R,
   VOCALIC RR,VOCALIC L,VOCALIC LL,E,AI,O,AU,*14,PRISHTHAMATRA E;111C4 SHARADA:OM,DANDA,
   DOUBLE DANDA,ABBREVIATION SIGN,SEPARATOR,SANDHI MARK,,,EXTRA SHORT VOWEL MARK,SUTRA MARK,
   *12,EKAM,,HEADSTROKE,CONTINUATION SIGN,SECTION MARK-1*2;111CB SHARADA VOWEL:MODIFIER MARK;
   111D0 SHARADA DIGIT:ZERO,ONE,TWO,THREE,FOUR,FIVE,SIX,SEVEN,EIGHT,NINE;
   111E1 SINHALA ARCHAIC DIGIT:ONE,TWO,THREE,FOUR,FIVE,SIX,SEVEN,EIGHT,NINE;
   111EA SINHALA ARCHAIC NUMBER:TEN,TWENTY,THIRTY,FORTY,FIFTY,SIXTY,SEVENTY,EIGHTY,NINETY,
   ONE HUNDRED,ONE THOUSAND;11200 KHOJKI LETTER:A,AA,I,U,E,AI,O,AU,KA,KHA,GA,GGA,GHA,NGA,CA,
   CHA,JA,JJA,,NYA,TTA,TTHA,DDA,DDHA,NNA,TA,THA,DA,DDDA,DHA,NA,PA,PHA,BA,BBA,BHA,MA,YA,RA,LA,
   VA,SA,HA,LLA;1122C KHOJKI VOWEL SIGN:AA,I,II,U,E,AI,O,AU;11234 KHOJKI SIGN:ANUSVARA,VIRAMA,
   NUKTA,SHADDA,*6,SUKUN;11238 KHOJKI:DANDA,DOUBLE DANDA,WORD SEPARATOR,SECTION MARK,
   DOUBLE SECTION MARK,ABBREVIATION SIGN;11280 MULTANI LETTER:A,I,U,E,KA,KHA,GA,,GHA,,CA,CHA,
   JA,JJA,,NYA,TTA,TTHA,DDA,DDDA,DDHA,NNA,TA,THA,DA,DHA,NA,PA,PHA,BA,,BHA,MA,YA,RA,LA,VA,SA,
   HA,RRA,RHA;112A9 MULTANI:SECTION MARK;112B0 KHUDAWADI LETTER:A,AA,I,II,U,UU,E,AI,O,AU,KA,
   KHA,GA,GGA,GHA,NGA,CA,CHA,JA,JJA,JHA,NYA,TTA,TTHA,DDA,DDDA,RRA,DDHA,NNA,TA,THA,DA,DHA,NA,
   PA,PHA,BA,BBA,BHA,MA,YA,RA,LA,VA,SHA,SA,HA;112DF KHUDAWADI:SIGN ANUSVARA,*9,SIGN NUKTA,
   SIGN VIRAMA;112E0 KHUDAWADI VOWEL SIGN:AA,I,II,U,UU,E,AI,O,AU;112F0 KHUDAWADI DIGIT:ZERO,
   ONE,TWO,THREE,FOUR,FIVE,SIX,SEVEN,EIGHT,NINE;11300 GRANTHA SIGN:COMBINING ANUSVARA ABOVE,
   CANDRABINDU,ANUSVARA,VISARGA,*56,NUKTA,AVAGRAHA,*15,VIRAMA,*15,PLUTA;
   11305 GRANTHA LETTER:A,AA,I,II,U,UU,VOCALIC R,VOCALIC L,,,EE,AI,,,OO,AU,KA,KHA,GA,GHA,NGA,
   CA,CHA,JA,JHA,NYA,TTA,TTHA,DDA,DDHA,NNA,TA,THA,DA,DHA,NA,,PA,PHA,BA,BHA,MA,YA,RA,,LA,LLA,,
   VA,SHA,SSA,SA,HA,*36,VEDIC ANUSVARA,VEDIC DOUBLE ANUSVARA,VOCALIC RR,VOCALIC LL;
   1133B COMBINING:BINDU BELOW;1133E GRANTHA VOWEL SIGN:AA,I,II,U,UU,VOCALIC R,VOCALIC RR,,,
   EE,AI,,,OO,AU,*21,VOCALIC L,VOCALIC LL;11350 GRANTHA:OM,*6,AU LENGTH MARK;
   11366 COMBINING GRANTHA DIGIT:ZERO,ONE,TWO,THREE,FOUR,FIVE,SIX;
   11370 COMBINING GRANTHA LETTER:A,KA,NA,VI,PA;11400 NEWA LETTER:A,AA,I,II,U,UU,VOCALIC R,
   VOCALIC RR,VOCALIC L,VOCALIC LL,E,AI,O,AU,KA,KHA,GA,GHA,NGA,NGHA,CA,CHA,JA,JHA,NYA,NYHA,
   TTA,TTHA,DDA,DDHA,NNA,TA,THA,DA,DHA,NA,NHA,PA,PHA,BA,BHA,MA,MHA,YA,RA,RHA,LA,LHA,WA,SHA,
   SSA,SA,HA,*42,VEDIC ANUSVARA;11435 NEWA VOWEL SIGN:AA,I,II,U,UU,VOCALIC R,VOCALIC RR,
   VOCALIC L,VOCALIC LL,E,AI,O,AU;11442 NEWA SIGN:VIRAMA,CANDRABINDU,ANUSVARA,VISARGA,NUKTA,
   AVAGRAHA,FINAL ANUSVARA,*23,JIHVAMULIYA,UPADHMANIYA;11449 NEWA:OM,SIDDHI,DANDA,
   DOUBLE DANDA,COMMA,GAP FILLER,ABBREVIATION SIGN,*10,DOUBLE COMMA,PLACEHOLDER MARK,,
   INSERTION SIGN,SANDHI MARK;11450 NEWA DIGIT:ZERO,ONE,TWO,THREE,FOUR,FIVE,SIX,SEVEN,EIGHT,
   NINE;11480 TIRHUTA:ANJI;11481 TIRHUTA LETTER:A,AA,I,II,U,UU,VOCALIC R,VOCALIC RR,VOCALIC L,
   VOCALIC LL,E,AI,O,AU,KA,KHA,GA,GHA,NGA,CA,CHA,JA,JHA,NYA,TTA,TTHA,DDA,DDHA,NNA,TA,THA,DA,
   DHA,NA,PA,PHA,BA,BHA,MA,YA,RA,LA,VA,SHA,SSA,SA,HA;114B0 TIRHUTA VOWEL SIGN:AA,I,II,U,UU,
   VOCALIC R,VOCALIC RR,VOCALIC L,VOCALIC LL,E,SHORT E,AI,O,SHORT O,AU;
   114BF TIRHUTA SIGN:CANDRABINDU,ANUSVARA,VISARGA,VIRAMA,NUKTA,AVAGRAHA;114C5 TIRHUTA:GVANG,
   ABBREVIATION SIGN,OM;114D0 TIRHUTA DIGIT:ZERO,ONE,TWO,THREE,FOUR,FIVE,SIX,SEVEN,EIGHT,NINE;
   11580 SIDDHAM LETTER:A,AA,I,II,U,UU,VOCALIC R,VOCALIC RR,VOCALIC L,VOCALIC LL,E,AI,O,AU,KA,
   KHA,GA,GHA,NGA,CA,CHA,JA,JHA,NYA,TTA,TTHA,DDA,DDHA,NNA,TA,THA,DA,DHA,NA,PA,PHA,BA,BHA,MA,
   YA,RA,LA,VA,SHA,SSA,SA,HA,*41,THREE-CIRCLE ALTERNATE I,TWO-CIRCLE ALTERNATE I,
   TWO-CIRCLE ALTERNATE II,ALTERNATE U;115AF SIDDHAM VOWEL SIGN:AA,I,II,U,UU,VOCALIC R,
   VOCALIC RR,,,E,AI,O,AU,*32,ALTERNATE U,ALTERNATE UU;115BC SIDDHAM SIGN:CANDRABINDU,
   ANUSVARA,VISARGA,VIRAMA,NUKTA,SIDDHAM;115C2 SIDDHAM:DANDA,DOUBLE DANDA,SEPARATOR DOT,
   SEPARATOR BAR,REPETITION MARK-1*3,END OF TEXT MARK;
   115CA SIDDHAM SECTION MARK WITH:TRIDENT AND U-SHAPED ORNAMENTS,
   TRIDENT AND DOTTED CRESCENTS,RAYS AND DOTTED CRESCENTS,RAYS AND DOTTED DOUBLE CRESCENTS,
   RAYS AND DOTTED TRIPLE CRESCENTS,,,DOUBLE CRESCENTS,TRIPLE CRESCENTS,QUADRUPLE CRESCENTS,
   SEPTUPLE CRESCENTS,CIRCLES AND RAYS,CIRCLES AND TWO ENCLOSURES,CIRCLES AND FOUR ENCLOSURES;
   115CF SIDDHAM SECTION MARK:DOUBLE RING,DOUBLE RING WITH RAYS;11600 MODI LETTER:A,AA,I,II,U,
   UU,VOCALIC R,VOCALIC RR,VOCALIC L,VOCALIC LL,E,AI,O,AU,KA,KHA,GA,GHA,NGA,CA,CHA,JA,JHA,NYA,
   TTA,TTHA,DDA,DDHA,NNA,TA,THA,DA,DHA,NA,PA,PHA,BA,BHA,MA,YA,RA,LA,VA,SHA,SSA,SA,HA,LLA;
   11630 MODI VOWEL SIGN:AA,I,II,U,UU,VOCALIC R,VOCALIC RR,VOCALIC L,VOCALIC LL,E,AI,O,AU;
   1163D MODI SIGN:ANUSVARA,VISARGA,VIRAMA,ARDHACANDRA,*3,HUVA;11641 MODI:DANDA,DOUBLE DANDA,
   ABBREVIATION SIGN;11650 MODI DIGIT:ZERO,ONE,TWO,THREE,FOUR,FIVE,SIX,SEVEN,EIGHT,NINE;
   11660 MONGOLIAN:BIRGA WITH ORNAMENT,ROTATED BIRGA,DOUBLE BIRGA WITH ORNAMENT,
   TRIPLE BIRGA WITH ORNAMENT,BIRGA WITH DOUBLE ORNAMENT,ROTATED BIRGA WITH ORNAMENT,
   ROTATED BIRGA WITH DOUBLE ORNAMENT,INVERTED BIRGA,INVERTED BIRGA WITH DOUBLE ORNAMENT,
   SWIRL BIRGA,SWIRL BIRGA WITH ORNAMENT,SWIRL BIRGA WITH DOUBLE ORNAMENT,
   TURNED SWIRL BIRGA WITH DOUBLE ORNAMENT;11680 TAKRI LETTER:A,AA,I,II,U,UU,E,AI,O,AU,KA,KHA,
   GA,GHA,NGA,CA,CHA,JA,JHA,NYA,TTA,TTHA,DDA,DDHA,NNA,TA,THA,DA,DHA,NA,PA,PHA,BA,BHA,MA,YA,RA,
   LA,VA,SHA,SA,HA,RRA,*13,ARCHAIC KHA;116AB TAKRI:SIGN ANUSVARA,SIGN VISARGA,*9,SIGN VIRAMA,
   SIGN NUKTA,,ABBREVIATION SIGN;116AD TAKRI VOWEL SIGN:AA,I,II,U,UU,E,AI,O,AU;
   116C0 TAKRI DIGIT:ZERO,ONE,TWO,THREE,FOUR,FIVE,SIX,SEVEN,EIGHT,NINE;11700 AHOM LETTER:KA,
   KHA,NGA,NA,TA,ALTERNATE TA,PA,PHA,BA,MA,JA,CHA,THA,RA,LA,SA,NYA,HA,A,DA,DHA,GA,
   ALTERNATE GA,GHA,BHA,JHA,ALTERNATE BA,*37,CA,TTA,TTHA,DDA,DDHA,NNA,LLA;
   1171D AHOM:CONSONANT SIGN MEDIAL LA,CONSONANT SIGN MEDIAL RA,
   CONSONANT SIGN MEDIAL LIGATING RA,*11,SIGN KILLER,*14,NUMBER TEN,NUMBER TWENTY,
   SIGN SMALL SECTION,SIGN SECTION,SIGN RULAI,SYMBOL VI;11720 AHOM VOWEL SIGN:A,AA,I,II,U,UU,
   E,AW,O,AI,AM;11730 AHOM DIGIT:ZERO,ONE,TWO,THREE,FOUR,FIVE,SIX,SEVEN,EIGHT,NINE;
   11800 DOGRA LETTER:A,AA,I,II,U,UU,E,AI,O,AU,KA,KHA,GA,GHA,NGA,CA,CHA,JA,JHA,NYA,TTA,TTHA,
   DDA,DDHA,NNA,TA,THA,DA,DHA,NA,PA,PHA,BA,BHA,MA,YA,RA,LA,VA,SHA,SSA,SA,HA,RRA;
   1182C DOGRA VOWEL SIGN:AA,I,II,U,UU,VOCALIC R,VOCALIC RR,E,AI,O,AU;
   11837 DOGRA:SIGN ANUSVARA,SIGN VISARGA,SIGN VIRAMA,SIGN NUKTA,ABBREVIATION SIGN;
   118A0 WARANG CITI CAPITAL LETTER:NGAA,A,WI,YU,YA,YO,II,UU,E,O,ANG,GA,KO,ENY,YUJ,UC,ENN,ODD,
   TTE,NUNG,DA,AT,AM,BU,PU,HIYO,HOLO,HORR,HAR,SSUU,SII,VIYO;
   118C0 WARANG CITI SMALL LETTER:NGAA,A,WI,YU,YA,YO,II,UU,E,O,ANG,GA,KO,ENY,YUJ,UC,ENN,ODD,
   TTE,NUNG,DA,AT,AM,BU,PU,HIYO,HOLO,HORR,HAR,SSUU,SII,VIYO;118E0 WARANG CITI DIGIT:ZERO,ONE,
   TWO,THREE,FOUR,FIVE,SIX,SEVEN,EIGHT,NINE;118EA WARANG CITI NUMBER:TEN,TWENTY,THIRTY,FORTY,
   FIFTY,SIXTY,SEVENTY,EIGHTY,NINETY;118FF WARANG CITI:OM;11900 DIVES AKURU LETTER:A,AA,I,II,
   U,UU,E,,,O,,,KA,KHA,GA,GHA,NGA,CA,CHA,JA,,NYA,TTA,,DDA,DDHA,NNA,TA,THA,DA,DHA,NA,PA,PHA,BA,
   BHA,MA,YA,YYA,RA,LA,VA,SHA,SSA,SA,HA,LLA,ZA;11930 DIVES AKURU VOWEL SIGN:AA,I,II,U,UU,E,,
   AI,O;1193B DIVES AKURU:SIGN ANUSVARA,SIGN CANDRABINDU,SIGN HALANTA,VIRAMA,
   PREFIXED NASAL SIGN,MEDIAL YA,INITIAL RA,MEDIAL RA,SIGN NUKTA,DOUBLE DANDA,GAP FILLER,
   END OF TEXT MARK;11950 DIVES AKURU DIGIT:ZERO,ONE,TWO,THREE,FOUR,FIVE,SIX,SEVEN,EIGHT,NINE;
   119A0 NANDINAGARI LETTER:A,AA,I,II,U,UU,VOCALIC R,VOCALIC RR,,,E,AI,O,AU,KA,KHA,GA,GHA,NGA,
   CA,CHA,JA,JHA,NYA,TTA,TTHA,DDA,DDHA,NNA,TA,THA,DA,DHA,NA,PA,PHA,BA,BHA,MA,YA,RA,LA,VA,SHA,
   SSA,SA,HA,LLA,RRA;119D1 NANDINAGARI VOWEL SIGN:AA,I,II,U,UU,VOCALIC R,VOCALIC RR,,,E,AI,O,
   AU,*6,PRISHTHAMATRA E;119DE NANDINAGARI SIGN:ANUSVARA,VISARGA,VIRAMA,AVAGRAHA,SIDDHAM;
   119E3 NANDINAGARI:HEADSTROKE;11A00 ZANABAZAR SQUARE LETTER:A,*10,KA,KHA,GA,GHA,NGA,CA,CHA,
   JA,NYA,TTA,TTHA,DDA,DDHA,NNA,TA,THA,DA,DHA,NA,PA,PHA,BA,BHA,MA,TSA,TSHA,DZA,DZHA,ZHA,ZA,-A,
   YA,RA,LA,VA,SHA,SSA,SA,HA,KSSA;11A01 ZANABAZAR SQUARE VOWEL SIGN:I,UE,U,E,OE,O,AI,AU,
   REVERSED I;11A0A ZANABAZAR SQUARE VOWEL:LENGTH MARK;
   11A33 ZANABAZAR SQUARE:FINAL CONSONANT MARK,*6,CLUSTER-INITIAL LETTER RA,
   CLUSTER-FINAL LETTER YA,CLUSTER-FINAL LETTER RA,CLUSTER-FINAL LETTER LA,
   CLUSTER-FINAL LETTER VA,INITIAL HEAD MARK,CLOSING HEAD MARK,MARK TSHEG,MARK SHAD,
   MARK DOUBLE SHAD,MARK LONG TSHEG,INITIAL DOUBLE-LINED HEAD MARK,
   CLOSING DOUBLE-LINED HEAD MARK,SUBJOINER;11A34 ZANABAZAR SQUARE SIGN:VIRAMA,CANDRABINDU,
   CANDRABINDU WITH ORNAMENT,CANDRA WITH ORNAMENT,ANUSVARA,VISARGA;11A50 SOYOMBO LETTER:A,*11,
   KA,KHA,GA,GHA,NGA,CA,CHA,JA,JHA,NYA,TTA,TTHA,DDA,DDHA,NNA,TA,THA,DA,DHA,NA,PA,PHA,BA,BHA,
   MA,TSA,TSHA,DZA,ZHA,ZA,-A,YA,RA,LA,VA,SHA,SSA,SA,HA,KSSA;11A51 SOYOMBO VOWEL SIGN:I,UE,U,E,
   O,OE,AI,AU,VOCALIC R,VOCALIC L;11A5B SOYOMBO VOWEL:LENGTH MARK;
   11A84 SOYOMBO:SIGN JIHVAMULIYA,SIGN UPADHMANIYA,CLUSTER-INITIAL LETTER RA,
   CLUSTER-INITIAL LETTER LA,CLUSTER-INITIAL LETTER SHA,CLUSTER-INITIAL LETTER SA,*12,
   SIGN ANUSVARA,SIGN VISARGA,GEMINATION MARK,SUBJOINER,MARK TSHEG,MARK SHAD,MARK DOUBLE SHAD,
   MARK PLUTA,HEAD MARK WITH MOON AND SUN AND TRIPLE FLAME,
   HEAD MARK WITH MOON AND SUN AND FLAME,HEAD MARK WITH MOON AND SUN,TERMINAL MARK-1*2;
   11A8A SOYOMBO FINAL CONSONANT SIGN:G,K,NG,D,N,B,M,R,L,SH,S,-A;
   11AB0 CANADIAN SYLLABICS NATTILIK:HI,HII,HO,HOO,HA,HAA,SHRI,SHRII,SHRO,SHROO,SHRA,SHRAA;
   11ABC CANADIAN SYLLABICS:SPE,SPI,SPO,SPA;11AC0 PAU CIN HAU LETTER:PA,KA,LA,MA,DA,ZA,VA,NGA,
   HA,GA,KHA,SA,BA,CA,TA,THA,NA,PHA,RA,FA,CHA,A,E,I,O,U,UA,IA;
   11ADC PAU CIN HAU LETTER FINAL:P,K,T,M,N,L,W,NG,Y;11AE5 PAU CIN HAU:RISING TONE LONG,
   RISING TONE,,RISING TONE LONG FINAL,RISING TONE FINAL,*5,MID-LEVEL TONE,
   GLOTTAL STOP VARIANT,MID-LEVEL TONE LONG FINAL,MID-LEVEL TONE FINAL,LOW-FALLING TONE LONG,
   LOW-FALLING TONE,GLOTTAL STOP,LOW-FALLING TONE LONG FINAL,LOW-FALLING TONE FINAL,
   GLOTTAL STOP FINAL;11AE7 PAU CIN HAU SANDHI:GLOTTAL STOP,,,GLOTTAL STOP FINAL,TONE LONG,
   TONE,TONE LONG FINAL,TONE FINAL;11C00 BHAIKSUKI LETTER:A,AA,I,II,U,UU,VOCALIC R,VOCALIC RR,
   VOCALIC L,,E,AI,O,AU,KA,KHA,GA,GHA,NGA,CA,CHA,JA,JHA,NYA,TTA,TTHA,DDA,DDHA,NNA,TA,THA,DA,
   DHA,NA,PA,PHA,BA,BHA,MA,YA,RA,LA,VA,SHA,SSA,SA,HA;11C2F BHAIKSUKI VOWEL SIGN:AA,I,II,U,UU,
   VOCALIC R,VOCALIC RR,VOCALIC L,,E,AI,O,AU;11C3C BHAIKSUKI SIGN:CANDRABINDU,ANUSVARA,
   VISARGA,VIRAMA,AVAGRAHA;11C41 BHAIKSUKI:DANDA,DOUBLE DANDA,WORD SEPARATOR,GAP FILLER-1*2,
   *38,HUNDREDS UNIT MARK;11C50 BHAIKSUKI DIGIT:ZERO,ONE,TWO,THREE,FOUR,FIVE,SIX,SEVEN,EIGHT,
   NINE;11C5A BHAIKSUKI NUMBER:ONE,TWO,THREE,FOUR,FIVE,SIX,SEVEN,EIGHT,NINE,TEN,TWENTY,THIRTY,
   FORTY,FIFTY,SIXTY,SEVENTY,EIGHTY,NINETY;11C70 MARCHEN:HEAD MARK,MARK SHAD;
   11C72 MARCHEN LETTER:KA,KHA,GA,NGA,CA,CHA,JA,NYA,TA,THA,DA,NA,PA,PHA,BA,MA,TSA,TSHA,DZA,WA,
   ZHA,ZA,-A,YA,RA,LA,SHA,SA,HA,A;11C92 MARCHEN SUBJOINED LETTER:KA,KHA,GA,NGA,CA,CHA,JA,NYA,
   TA,THA,DA,NA,PA,PHA,BA,MA,TSA,TSHA,DZA,WA,ZHA,ZA,,YA,RA,LA,SHA,SA,HA,A;
   11CB0 MARCHEN VOWEL SIGN:AA,I,U,E,O;11CB5 MARCHEN:SIGN ANUSVARA,SIGN CANDRABINDU;
   11D00 MASARAM GONDI LETTER:A,AA,I,II,U,UU,E,,AI,O,,AU,KA,KHA,GA,GHA,NGA,CA,CHA,JA,JHA,NYA,
   TTA,TTHA,DDA,DDHA,NNA,TA,THA,DA,DHA,NA,PA,PHA,BA,BHA,MA,YA,RA,LA,VA,SHA,SSA,SA,HA,LLA,KSSA,
   JNYA,TRA;11D31 MASARAM GONDI VOWEL SIGN:AA,I,II,U,UU,VOCALIC R,*3,E,,AI,O,,AU;
   11D40 MASARAM GONDI SIGN:ANUSVARA,VISARGA,NUKTA,CANDRA,HALANTA;11D45 MASARAM GONDI:VIRAMA,
   REPHA,RA-KARA;11D50 MASARAM GONDI DIGIT:ZERO,ONE,TWO,THREE,FOUR,FIVE,SIX,SEVEN,EIGHT,NINE;
   11D60 GUNJALA GONDI LETTER:A,AA,I,II,U,UU,,EE,AI,,OO,AU,YA,VA,BA,BHA,MA,KA,KHA,TA,THA,LA,
   GA,GHA,DA,DHA,NA,CA,CHA,TTA,TTHA,LLA,JA,JHA,DDA,DDHA,NGA,PA,PHA,HA,RA,SA;
   11D8A GUNJALA GONDI VOWEL SIGN:AA,I,II,U,UU,,EE,AI,,OO,AU;
   11D95 GUNJALA GONDI:SIGN ANUSVARA,SIGN VISARGA,VIRAMA,OM;11DA0 GUNJALA GONDI DIGIT:ZERO,
   ONE,TWO,THREE,FOUR,FIVE,SIX,SEVEN,EIGHT,NINE;11EE0 MAKASAR LETTER:KA,GA,NGA,PA,BA,MA,TA,DA,
   NA,CA,JA,NYA,YA,RA,LA,VA,SA,A;11EF2 MAKASAR:ANGKA,VOWEL SIGN I,VOWEL SIGN U,VOWEL SIGN E,
   VOWEL SIGN O,PASSIMBANG,END OF SECTION;11FB0 LISU LETTER:YHA;
   11FC0 TAMIL FRACTION ONE:THREE-HUNDRED-AND-TWENTIETH,ONE-HUNDRED-AND-SIXTIETH,EIGHTIETH,
   SIXTY-FOURTH,FORTIETH,THIRTY-SECOND,,,TWENTIETH,SIXTEENTH-1*2,TENTH,EIGHTH,,,FIFTH,QUARTER,
   HALF-1*2;11FC6 TAMIL FRACTION THREE:EIGHTIETHS,SIXTY-FOURTHS,*5,TWENTIETHS,SIXTEENTHS,*4,
   QUARTERS;11FD4 TAMIL FRACTION:DOWNSCALING FACTOR KIIZH;11FD5 TAMIL SIGN:NEL,CEVITU,
   AAZHAAKKU,UZHAKKU,MUUVUZHAKKU,KURUNI,PATHAKKU,MUKKURUNI,KAACU,PANAM,PON,VARAAKAN,PAARAM,
   KUZHI,VELI,*12,MUTHALIYA,VAKAIYARAA;11FE4 TAMIL:WET CULTIVATION SIGN,DRY CULTIVATION SIGN,
   LAND SIGN,SALT PAN SIGN,TRADITIONAL CREDIT SIGN,TRADITIONAL NUMBER SIGN,CURRENT SIGN,
   AND ODD SIGN,SPENT SIGN,TOTAL SIGN,IN POSSESSION SIGN,STARTING FROM SIGN,*15,
   PUNCTUATION END OF TEXT;12000 CUNEIFORM SIGN:A,*8,A2,AB,*11,AB2,*5,AD,AK,AK TIMES ERIN2,
   AK TIMES SHITA PLUS GISH,AL,*8,ALAN,ALEPH,AMAR,AMAR TIMES SHE,AN,AN OVER AN,AN THREE TIMES,
   AN PLUS NAGA OPPOSING AN PLUS NAGA,AN PLUS NAGA SQUARED,ANSHE,APIN,ARAD,ARAD TIMES KUR,
   ARKAB,ASAL2,ASH,*5,ASH2,ASHGAB,BA,BAD,BAG3,BAHAR2,BAL,BAL OVER BAL,BALAG,BAR,BARA2,BI,
   BI TIMES A,BI TIMES GAR,BI TIMES IGI GUNU,BU,BU OVER BU AB,BU OVER BU UN,BU CROSSING BU,
   BULUG,BULUG OVER BULUG,BUR,BUR2,DA,DAG,*23,DAM,DAR,DARA3*2,DI,DIB,DIM,DIM TIMES SHE,DIM2,
   DIN,DIN KASKAL U GUNU DISH,DISH,DU,DU OVER DU,DU GUNU,DU SHESHIG,DUB,DUB TIMES ESH2,DUB2,
   DUG,DUGUD,DUH,DUN,DUN3,DUN3 GUNU,DUN3 GUNU GUNU,DUN4,DUR2,E,E TIMES PAP,
   E OVER E NUN OVER NUN,E2,*6,EDIN,EGIR,EL,EN,*6,EREN,ERIN2,ESH2,EZEN,*19,GA,GA GUNU,GA2,*54,
   GABA,GABA CROSSING GABA,GAD,GAD OVER GAD GAR OVER GAR,GAL,GAL GAD OVER GAD GAR OVER GAR,
   GALAM,GAM*2,GAN2,GAN2 TENU,GAN2 OVER GAN2,GAN2 CROSSING GAN2,GAR,GAR3,GASHAN,GESHTIN,
   GESHTIN TIMES KUR,GI,GI TIMES E,GI TIMES U,GI CROSSING GI,GI4,GI4 OVER GI4,
   GI4 CROSSING GI4,GIDIM,GIR2,GIR2 GUNU,GIR3,*5,GISAL,GISH,*4,GU,GU CROSSING GU,GU2,*5,GUD,
   GUD TIMES A PLUS KUR,GUD TIMES KUR,GUD OVER GUD LUGAL,GUL*2,GUM TIMES SHE,GUR,GUR7,GURUN,
   GURUSH,HA,HA TENU,HA GUNU,HAL,HI,*9,HU,HUB2,*5,HUL2,I,I A,IB,IDIM,IDIM OVER IDIM BUR,
   IDIM OVER IDIM SQUARED,IG,IGI,IGI DIB,IGI RI,IGI OVER IGI SHIR OVER SHIR UD OVER UD,
   IGI GUNU,IL,IL TIMES GAN2 TENU,IL2,IM,IM TIMES TAK4,IM CROSSING IM,IM OPPOSING IM,
   IM SQUARED,IMIN,IN,IR,ISH,KA,*53,KA2,KA2 CROSSING KA2,KAB,KAD2*4,KAD5 OVER KAD5,KAK,
   KAK TIMES IGI GUNU,KAL,KAL TIMES BAD,KAL CROSSING KAL,KAM2,KAM4,KASKAL,
   KASKAL LAGAB TIMES U OVER LAGAB TIMES U,KASKAL OVER KASKAL LAGAB TIMES U OVER LAGAB TIMES
    U,KESH2,KI,KI TIMES BAD,KI TIMES U,KI TIMES UD,KID,KIN,KISAL,KISH,KISIM5,
   KISIM5 OVER KISIM5,KU,KU OVER HI TIMES ASH2 KU OVER HI TIMES ASH2,KU3*2,KU4 VARIANT FORM,
   KU7,KUL,KUL GUNU,KUN,KUR,KUR OPPOSING KUR,KUSHU2,KWU318,LA,LAGAB,*51,LAGAR,LAGAR TIMES SHE,
   LAGAR TIMES SHE PLUS SUM,LAGAR GUNU,LAGAR GUNU OVER LAGAR GUNU SHE,LAHSHU,LAL,
   LAL TIMES LAL,LAM,LAM TIMES KUR,LAM TIMES KUR PLUS RU,LI,LIL,LIMMU2,LISH,LU,LU TIMES BAD,
   LU2,*24,LU3,LUGAL,LUGAL OVER LUGAL,LUGAL OPPOSING LUGAL,LUGAL SHESHIG,LUH,LUL*2,
   LUM OVER LUM,LUM OVER LUM GAR OVER GAR,MA,MA TIMES TAK4,MA GUNU,MA2,MAH,MAR,MASH,MASH2,ME,
   MES,MI,MIN,MU,MU OVER MU,MUG,MUG GUNU,MUNSUB,MURGU2,MUSH,*6,MUSH3,*4,NA,NA2,NAGA,
   NAGA INVERTED,NAGA TIMES SHU TENU,NAGA OPPOSING NAGA,NAGAR,NAM NUTILLU,NAM,NAM2,NE,
   NE TIMES A,NE TIMES UD,NE SHESHIG,NI,NI TIMES E,NI2,NIM,NIM TIMES GAN2 TENU,
   NIM TIMES GAR PLUS GAN2 TENU,NINDA2,*13,NISAG,NU,NU11,NUN,*9,NUNUZ,*12,PA,PAD,PAN,PAP,
   PESH2,PI,*10,PIRIG,PIRIG TIMES KAL,PIRIG TIMES UD,PIRIG TIMES ZA,PIRIG OPPOSING PIRIG,RA,
   RAB,RI,RU,SA,,SAG,*19,SAL,SAL LAGAB TIMES ASH2,SANGA2,SAR,SHA,SHA3,*8,SHA6,SHAB6,SHAR2,SHE,
   *3,SHEG9,SHEN,SHESH,SHESH2,SHESHLAM,SHID,SHID TIMES A,SHID TIMES IM,SHIM,*11,SHINIG,SHIR,
   SHIR TENU,SHIR OVER SHIR BUR OVER BUR,SHITA,SHU,SHU OVER INVERTED SHU,SHU2,SHUBUR,SI,
   SI GUNU,SIG,SIG4,SIG4 OVER SIG4 SHU2,SIK2,SILA3,SU,SU OVER SU,SUD,SUD2,SUHUR,SUM,SUMASH,
   SUR,SUR9,TA,TA ASTERISK,TA TIMES HI,TA TIMES MI,TA GUNU,TAB,
   TAB OVER TAB NI OVER NI DISH OVER DISH,TAB SQUARED,TAG,*6,TAK4,TAR,TE,TE GUNU,TI,TI TENU,
   TIL,TIR,TIR TIMES TAK4,TIR OVER TIR,TIR OVER TIR GAD OVER GAD GAR OVER GAR,TU,TUG2,TUK,TUM,
   TUR,TUR OVER TUR ZA OVER ZA,U,*5,U2,UB,UD,*8,UDUG,UM,*4,UMBIN,UMUM,UMUM TIMES KASKAL,
   UMUM TIMES PA,UN,UN GUNU,UR,UR CROSSING UR,UR SHESHIG,UR2,*8,UR4,URI,URI3,URU,*23,URUDA,
   URUDA TIMES U,USH,USH TIMES A,USH TIMES KU,USH TIMES KUR,USH TIMES TAK4,USHX,USH2,USHUMX,
   UTUKI,UZ3,UZ3 TIMES KASKAL,UZU,ZA,ZA TENU,ZA SQUARED TIMES KUR,ZAG,ZAMX,ZE2,ZI,ZI OVER ZI,
   ZI3,ZIB,ZIB KABA TENU,ZIG,ZIZ2,ZU,ZU5,ZU5 TIMES A,ZUBUR,ZUM,KAP ELAMITE,,,AMAR TIMES KUG,,
   DAG3,DISH PLUS SHU,DUB TIMES SHE,*4,GE22,GIG,HUSH,*14,MESH,,NA4,NIN,NIN9,,,
   NU11 ROTATED NINETY DEGREES,PESH2 ASTERISK,PIR2,,TI2;12001 CUNEIFORM SIGN A TIMES:A,BAD,
   GAN2 TENU,HA,IGI,LAGAR GUNU,MUSH,SAG;1200B CUNEIFORM SIGN AB TIMES:ASH2,DUN3 GUNU,GAL,
   GAN2 TENU,HA,IGI GUNU,IMIN,LAGAB,SHESH,U PLUS U PLUS U;12015 CUNEIFORM SIGN AB:GUNU;
   12017 CUNEIFORM SIGN AB2 TIMES:BALAG,GAN2 TENU,ME PLUS EN,SHA3,TAK4;
   12021 CUNEIFORM SIGN AL TIMES:AL,DIM2,GISH,HA,KAD3,KI,SHE,USH;
   12039 CUNEIFORM SIGN ASH:ZIDA TENU,KABA TENU,OVER ASH TUG2 OVER TUG2 TUG2 OVER TUG2 PAP,
   OVER ASH OVER ASH,OVER ASH OVER ASH CROSSING ASH OVER ASH OVER ASH;
   12057 CUNEIFORM SIGN DAG KISIM5 TIMES:A PLUS MASH,AMAR,BALAG,BI,GA,GA PLUS MASH,GI,GIR2,
   GUD,HA,IR,IR PLUS LU,KAK,LA,LU,LU PLUS MASH2,LUM,NE,PAP PLUS PAP,SI,TAK4,U2 PLUS GIR2,USH;
   1208E CUNEIFORM SIGN E2 TIMES:A PLUS HA PLUS DA,GAR,MI,SAL,SHE,U;
   12098 CUNEIFORM SIGN EN:TIMES GAN2,TIMES GAN2 TENU,TIMES ME,CROSSING EN,OPPOSING EN,
   SQUARED;120A2 CUNEIFORM SIGN EZEN TIMES:A,A PLUS LAL,A PLUS LAL TIMES LAL,AN,BAD,DUN3 GUNU,
   DUN3 GUNU GUNU,HA,HA GUNU,IGI GUNU,KASKAL,KASKAL SQUARED,KU3,LA,LAL TIMES LAL,LI,LU,U2,UD;
   120B8 CUNEIFORM SIGN GA2 TIMES:A PLUS DA PLUS HA,A PLUS HA,A PLUS IGI,AB2 TENU PLUS TAB,AN,
   ASH,ASH2 PLUS GAL,BAD,BAR PLUS RA,BUR,BUR PLUS RA,DA,DI,DIM TIMES SHE,DUB,EL,EL PLUS LA,EN,
   EN TIMES GAN2 TENU,GAN2 TENU,GAR,GI,GI4,GI4 PLUS A,GIR2 PLUS SU,HA PLUS LU PLUS ESH2,HAL,
   HAL PLUS LA,HI PLUS LI,HUB2,IGI GUNU,ISH PLUS HU PLUS ASH,KAK,KASKAL,KID,KID PLUS LAL,
   KU3 PLUS AN,LA,ME PLUS EN,MI,NUN,NUN OVER NUN,PA,SAL,SAR,SHE,SHE PLUS TUR,SHID,SUM,TAK4,U,
   UD,UD PLUS DU;120ED CUNEIFORM SIGN GA2:OVER GA2;1210B CUNEIFORM SIGN GIR3 TIMES:A PLUS IGI,
   GAN2 TENU,IGI,LU PLUS IGI,PA;12112 CUNEIFORM SIGN GISH:CROSSING GISH,TIMES BAD,TIMES TAK4,
   TENU;12119 CUNEIFORM SIGN GU2 TIMES:KAK,KAK TIMES IGI GUNU,NUN,SAL PLUS TUG2;
   1211D CUNEIFORM SIGN GU2:GUNU;1212E CUNEIFORM SIGN HI TIMES:ASH,ASH2,BAD,DISH,GAD,KIN,NUN,
   SHE,U;12139 CUNEIFORM SIGN HUB2 TIMES:AN,HAL,KASKAL,LISH,UD;
   12158 CUNEIFORM SIGN KA TIMES:A,AD,AD PLUS KU3,ASH2,BAD,BALAG,BAR,BI,ERIN2,ESH2,GA,GAL,
   GAN2 TENU,GAR,GAR PLUS SHA3 PLUS A,GI,GIR2,GISH PLUS SAR,GISH CROSSING GISH,GU,GUR7,IGI,IM,
   KAK,KI,KID,LI,LU,ME,ME PLUS DU,ME PLUS GI,ME PLUS TE,MI,MI PLUS NUNUZ,NE,NUN,PI,RU,SA,SAR,
   SHA,SHE,SHID,SHU,SIG,SUHUR,TAR,U,U2,UD,UMUM TIMES PA,USH,ZI;
   121B9 CUNEIFORM SIGN LAGAB TIMES:A,A PLUS DA PLUS HA,A PLUS GAR,A PLUS LAL,AL,AN,
   ASH ZIDA TENU,BAD,BI,DAR,EN,GA,GAR,GUD,GUD PLUS GUD,HA,HAL,HI TIMES NUN,IGI GUNU,IM,
   IM PLUS HA,IM PLUS LU,KI,KIN,KU3,KUL,KUL PLUS HI PLUS A,LAGAB,LISH,LU,LUL,ME,ME PLUS EN,
   MUSH,NE,SHE PLUS SUM,SHITA PLUS GISH PLUS ERIN2,SHITA PLUS GISH TENU,SHU2,SHU2 PLUS SHU2,
   SUM,TAG,TAK4,TE PLUS A PLUS SU PLUS NA,U,U PLUS A,U PLUS U PLUS U,U2 PLUS ASH,UD,USH;
   121EB CUNEIFORM SIGN LAGAB:SQUARED;121FE CUNEIFORM SIGN LU2 TIMES:AL,BAD,ESH2,ESH2 TENU,
   GAN2 TENU,HI TIMES BAD,IM,KAD2*2,KAD3 PLUS ASH,KI,LA PLUS ASH,LAGAB,ME PLUS EN,NE,NU,
   SI PLUS ASH,SIK2 PLUS BU,TUG2;12211 CUNEIFORM SIGN LU2:TENU,CROSSING LU2,OPPOSING LU2,
   SQUARED,SHESHIG;12233 CUNEIFORM SIGN MUSH:TIMES A,TIMES KUR,TIMES ZA,OVER MUSH,
   OVER MUSH TIMES A PLUS NA,CROSSING MUSH;1223A CUNEIFORM SIGN MUSH3:TIMES A,TIMES A PLUS DI,
   TIMES DI,GUNU;12253 CUNEIFORM SIGN NINDA2 TIMES:AN,ASH,ASH PLUS ASH,GUD,ME PLUS GAN2 TENU,
   NE,NUN,SHE,SHE PLUS A AN,SHE PLUS ASH,SHE PLUS ASH PLUS ASH,U2 PLUS ASH,USH;
   12264 CUNEIFORM SIGN NUN LAGAR TIMES:GAR,MASH,SAL,SAL OVER NUN LAGAR TIMES SAL,USH;
   12269 CUNEIFORM SIGN NUN:TENU,OVER NUN,CROSSING NUN,CROSSING NUN LAGAR OVER LAGAR;
   1226E CUNEIFORM SIGN NUNUZ AB2 TIMES:ASHGAB,BI,DUG,GUD,IGI GUNU,KAD3,LA,NE,SILA3,U2;
   12278 CUNEIFORM SIGN NUNUZ:KISIM5 TIMES BI,KISIM5 TIMES BI U;
   12280 CUNEIFORM SIGN PI TIMES:A,AB,BI,BU,E,I,IB,U,U2;12289 CUNEIFORM SIGN PI:CROSSING PI;
   12294 CUNEIFORM SIGN SAG:NUTILLU,*18,OVER SAG,GUNU;12296 CUNEIFORM SIGN SAG TIMES:A,DU,DUB,
   HA,KAK,KUR,LUM,MI,NUN,SAL,SHID,TAB,U2,UB,UM,UR,USH;122AF CUNEIFORM SIGN SHA3 TIMES:A,BAD,
   GISH,NE,SHU2,TUR,U,U PLUS A;122BB CUNEIFORM SIGN SHE:HU,OVER SHE GAD OVER GAD GAR OVER GAR,
   OVER SHE TAB OVER TAB GAR OVER GAR;122C7 CUNEIFORM SIGN SHIM TIMES:A,BAL,BULUG,DIN,GAR,IGI,
   IGI GUNU,KUSHU2,LUL,MUG,SAL;122F4 CUNEIFORM SIGN TAG TIMES:BI,GUD,SHE,SHU,TUG2,UD;
   1230C CUNEIFORM SIGN U:GUD,U U,OVER U PA OVER PA GAR OVER GAR,OVER U SUR OVER SUR,
   OVER U U REVERSED OVER U REVERSED;12314 CUNEIFORM SIGN UD:KUSHU2,TIMES BAD,TIMES MI,
   TIMES U PLUS U PLUS U,TIMES U PLUS U PLUS U GUNU,GUNU,SHESHIG,SHESHIG TIMES BAD;
   1231E CUNEIFORM SIGN UM TIMES:LAGAB,ME PLUS DA,SHA3,U;
   1232C CUNEIFORM SIGN UR2 TIMES:A PLUS HA,A PLUS NA,AL,HA,NUN,U2,U2 PLUS ASH,U2 PLUS BI;
   12338 CUNEIFORM SIGN URU TIMES:A,ASHGAB,BAR,DUN,GA,GAL,GAN2 TENU,GAR,GU,HA,IGI,IM,ISH,KI,
   LUM,MIN,PA,SHE,SIG4,TU,U PLUS GUD,UD,URUDA;12370 CUNEIFORM SIGN AB TIMES:NUN;
   12371 CUNEIFORM SIGN AB2 TIMES:A;12373 CUNEIFORM SIGN DAG KISIM5 TIMES:U2 PLUS MASH;
   12377 CUNEIFORM SIGN EZEN TIMES:GUD,SHE;12379 CUNEIFORM SIGN GA2 TIMES:AN PLUS KAK PLUS A,
   ASH2;1237E CUNEIFORM SIGN KA TIMES:ANSHE,ASH3,GISH,GUD,HI TIMES ASH2,LUM,PA,SHUL,TU,UR2;
   12388 CUNEIFORM SIGN LAGAB TIMES:GI;12389 CUNEIFORM SIGN LU2:SHESHIG TIMES BAD;
   1238A CUNEIFORM SIGN LU2 TIMES:ESH2 PLUS LAL,SHU;1238D CUNEIFORM SIGN MUSH3:TIMES ZA;
   12391 CUNEIFORM SIGN NINDA2 TIMES:BAL,GI;12396 CUNEIFORM SIGN SAG TIMES:IGI GUNU;
   12398 CUNEIFORM SIGN UM TIMES:ME;12399 CUNEIFORM SIGN U:U;
   12400 CUNEIFORM NUMERIC SIGN TWO:ASH,*21,GESH2,*8,GESHU,*3,SHAR2,*9,SHARU,*7,BURU,*20,
   ASH TENU,*5,BAN2,*8,ESHE3,,THIRDS DISH,,,THIRDS VARIANT FORM A;
   12401 CUNEIFORM NUMERIC SIGN THREE:ASH,*6,DISH,*14,GESH2,*8,GESHU,*3,SHAR2,
   SHAR2 VARIANT FORM,*8,SHARU,SHARU VARIANT FORM,*6,BURU,BURU VARIANT FORM,,,
   VARIANT FORM ESH16,VARIANT FORM ESH21,*15,ASH TENU,*5,BAN2;
   12402 CUNEIFORM NUMERIC SIGN FOUR:ASH,*6,DISH,*5,U,*8,GESH2,*8,GESHU,*4,SHAR2,*9,SHARU,*7,
   BURU,*3,VARIANT FORM LIMMU,VARIANT FORM LIMMU4,VARIANT FORM LIMMU A*2,*12,ASH TENU,*5,BAN2,
   BAN2 VARIANT FORM,*21,U VARIANT FORM;12403 CUNEIFORM NUMERIC SIGN FIVE:ASH,*6,DISH,*5,U,*8,
   GESH2,*8,GESHU,*4,SHAR2,*9,SHARU,*7,BURU,*19,ASH TENU,*6,BAN2,BAN2 VARIANT FORM,*6,
   SIXTHS DISH,*13,U VARIANT FORM;12404 CUNEIFORM NUMERIC SIGN SIX:ASH,*6,DISH,*5,U,*8,GESH2,
   *13,SHAR2,*23,VARIANT FORM ASH9,*13,ASH TENU,*28,U VARIANT FORM;
   12405 CUNEIFORM NUMERIC SIGN SEVEN:ASH,*6,DISH,*5,U,*8,GESH2,*13,SHAR2,*23,
   VARIANT FORM IMIN3,VARIANT FORM IMIN A*2,*40,U VARIANT FORM;
   12406 CUNEIFORM NUMERIC SIGN EIGHT:ASH,*6,DISH,*5,U,*8,GESH2,*13,SHAR2,*25,
   VARIANT FORM USSU,VARIANT FORM USSU3,*39,U VARIANT FORM;
   12407 CUNEIFORM NUMERIC SIGN NINE:ASH,*6,DISH,*5,U,*8,GESH2,*13,SHAR2,*26,
   VARIANT FORM ILIMMU,VARIANT FORM ILIMMU3*2,VARIANT FORM ILIMMU A,*36,U VARIANT FORM;
   12415 CUNEIFORM NUMERIC SIGN ONE:GESH2,*8,GESHU,*13,SHARU,*7,BURU,*26,BAN2,*8,ESHE3,,
   THIRD DISH,,,THIRD VARIANT FORM A,,EIGHTH ASH,QUARTER ASH,,,QUARTER GUR,HALF GUR;
   12432 CUNEIFORM NUMERIC SIGN:SHAR2 TIMES GAL PLUS DISH,SHAR2 TIMES GAL PLUS MIN,*34,
   NIGIDAMIN,NIGIDAESH,*9,OLD ASSYRIAN ONE SIXTH,OLD ASSYRIAN ONE QUARTER,,,ELAMITE ONE THIRD,
   ELAMITE TWO THIRDS,ELAMITE FORTY,ELAMITE FIFTY;
   12470 CUNEIFORM PUNCTUATION SIGN:OLD ASSYRIAN WORD DIVIDER,VERTICAL COLON,DIAGONAL COLON,
   DIAGONAL TRICOLON,DIAGONAL QUADCOLON;12480 CUNEIFORM SIGN AB TIMES:NUN TENU,SHU2;
   12482 CUNEIFORM SIGN:AD TIMES ESH2,BAD TIMES DISH TENU,BAHAR2 TIMES AB2,BAHAR2 TIMES NI,
   BAHAR2 TIMES ZA,BU OVER BU TIMES NA2,DA TIMES TAK4,,DIM TIMES IGI,DIM TIMES U U U,
   DIM2 TIMES UD,*30,ERIN2 X,ESH2 CROSSING ESH2,*28,GABA ROTATED NINETY DEGREES,
   GESHTIN TIMES U,,,GUD PLUS GISH TIMES TAK4,HA TENU GUNU,*6,LAK-003,LAK-021,LAK-025,LAK-030,
   LAK-050*2,LAK-062,LAK-079 OVER LAK-079 GUNU,LAK-080,LAK-081 OVER LAK-081,LAK-092,LAK-130,
   LAK-142,LAK-210,LAK-219*2,LAK-225,LAK-228,LAK-238,LAK-265*2,LAK-343,LAK-347*2,LAK-383*2,
   LAK-390,LAK-441,LAK-449,*5,LAK-450,LAK-457,LAK-470,LAK-483,LAK-490,LAK-492*2,LAK-495,
   LAK-550,LAK-608,LAK-617,*10,LAK-636,LAK-648,*9,LAK-724,LAK-749,*6,MI PLUS ZA7,*17,
   SHA6 TENU,*4,SHU2 PLUS DUG TIMES NI,SHU2 PLUS E2 TIMES AN,SI TIMES TAK4,TAK4 PLUS SAG,
   TUM TIMES GAN2 TENU,TUM TIMES THREE DISH,*5,ZA7,ZU OVER ZU PLUS SAR,
   ZU5 TIMES THREE DISH TENU;12489 CUNEIFORM SIGN DAG:TIMES KUR;
   1248D CUNEIFORM SIGN DUG TIMES:ANSHE,ASH,ASH AT LEFT,DIN,DUN,ERIN2,GA,GI,GIR2 GUNU,GISH,HA,
   HI,IGI GUNU,KASKAL,KUR,KUSHU2,KUSHU2 PLUS KASKAL,LAK-020,LAM,LAM TIMES KUR,LUH PLUS GISH,
   MASH,MES,MI,NI,PI,SHE,SI GUNU;124A9 CUNEIFORM SIGN E2 TIMES:KUR,PAP;
   124AD CUNEIFORM SIGN EZEN SHESHIG TIMES:ASH,HI,IGI GUNU,LA,LAL,ME,MES,SU;
   124B5 CUNEIFORM SIGN EZEN TIMES:SU;124B6 CUNEIFORM SIGN GA2 TIMES:BAHAR2,DIM GUNU,
   DUG TIMES IGI GUNU,DUG TIMES KASKAL,EREN,GA,GAR PLUS DI,GAR PLUS NE,HA PLUS A,
   KUSHU2 PLUS KASKAL,LAM,LAM TIMES KUR,LUH,MUSH,NE,NE PLUS E2,NE PLUS GI,SHIM,ZIZ2;
   124CB CUNEIFORM SIGN GISH:TIMES GISH CROSSING GISH;124CC CUNEIFORM SIGN GU2 TIMES:IGI GUNU;
   124CF CUNEIFORM SIGN HI TIMES:ASH OVER HI TIMES ASH;124D0 CUNEIFORM SIGN KA TIMES:BU,KA,
   U U U,UR;124D4 CUNEIFORM SIGN LAGAB TIMES:ZU OVER ZU;124F2 CUNEIFORM SIGN LAK-449 TIMES:GU,
   IGI,PAP PLUS LU3,PAP PLUS PAP PLUS LU3,U2 PLUS BA;12502 CUNEIFORM SIGN LAK-617 TIMES:ASH,
   BAD,DUN3 GUNU GUNU,KU3,LA,TAR,TE,U2,UD,URUDA;1250E CUNEIFORM SIGN LAK-648 TIMES:DUB,GA,IGI,
   IGI GUNU,NI,PAP PLUS PAP PLUS LU3,SHESH PLUS KI,UD,URUDA;
   12519 CUNEIFORM SIGN LU2:GUNU TIMES ASH;1251A CUNEIFORM SIGN LU2 TIMES:DISH,HAL,PAP,
   PAP PLUS PAP PLUS LU3,TAK4;12520 CUNEIFORM SIGN MUSH:OVER MUSH TIMES GA,
   OVER MUSH TIMES KAK;12522 CUNEIFORM SIGN NINDA2 TIMES:DIM GUNU,GISH,GUL,HI,KESH2,LAK-050,
   MASH,PAP PLUS PAP,U,U PLUS U,URUDA;1252D CUNEIFORM SIGN SAG:GUNU TIMES HA;
   1252E CUNEIFORM SIGN SAG TIMES:EN,SHE AT LEFT,TAK4;12532 CUNEIFORM SIGN SHE:OVER SHE,
   PLUS HUB2,PLUS NAM2,PLUS SAR;1253C CUNEIFORM SIGN UR2:INVERTED;
   1253D CUNEIFORM SIGN UR2 TIMES:UD;1253E CUNEIFORM SIGN URU TIMES:DARA3,LAK-668,LU3;
   12F90 CYPRO-MINOAN SIGN:CM001*2,CM004*9,CM012B,CM013,CM015,CM017,CM019,CM021,CM023*8,
   CM033*9,CM044,CM046*2,CM049*8,CM058*7,CM066*10,CM075B,CM076,CM078*15,CM094*12,CM107*4,
   CM112,CM114,CM301*2;13000 EGYPTIAN HIEROGLYPH:A001*5,A005A,A006,A006A*2,A007*8,A014A,
   A015*3,A017A,A018*15,A032A,A033*8,A040A,A041*2,A042A,A043,A043A,A044*2,A045A,A046*25,
   B001*5,B005A,B006*4,C001*2,C002A*3,C003*8,C010A,C011*14,D001*8,D008A,D009*19,D027A,D028*4,
   D031A,D032*3,D034A,D035*12,D046A,D047*2,D048A,D049*2,D050A*9,D051*2,D052A,D053*2,D054A,
   D055*13,D067A*8,E001*8,E008A,E009,E009A,E010*7,E016A,E017,E017A,E018*3,E020A,E021*8,E028A,
   E029*6,E034A,E036*3,F001,F001A,F002*12,F013A,F014*8,F021A,F022*10,F031A,F032*6,F037A,F038,
   F038A,F039*7,F045A,F046,F046A,F047,F047A,F048*4,F051A*3,F052*2,G001*6,G006A,G007,G007A*2,
   G008*4,G011A,G012*9,G020A,G021*6,G026A,G027*10,G036A,G037,G037A,G038*6,G043A,G044*2,G045A,
   G046*9,H001*6,H006A,H007*2,I001*5,I005A,I006*4,I009A,I010,I010A,I011,I011A,I012*4,K001*8,
   L001*2,L002A,L003*4,L006A,L007*2,M001,M001A*2,M002*2,M003A,M004*7,M010A,M011*2,M012A*8,
   M013*3,M015A,M016,M016A,M017,M017A,M018*5,M022A,M023*2,M024A,M025*4,M028A,M029*3,M031A,
   M032*2,M033A*2,M034*7,M040A,M041*4,N001*18,N018A*2,N019*7,N025A,N026*8,N033A,N034,N034A,
   N035,N035A,N036*2,N037A,N038*5,NL001*5,NL005A,NL006*12,NL017A,NL018*3,NU001*10,NU010A,
   NU011,NU011A,NU012*7,NU018A,NU019*4,NU022A,O001,O001A,O002*4,O005A,O006,O006A*6,O007*4,
   O010A*3,O011*9,O019A,O020,O020A,O021*4,O024A,O025,O025A,O026*4,O029A,O030,O030A,O031*3,
   O033A,O034*3,O036A*4,O037*14,O050A*2,O051,P001,P001A,P002*2,P003A,P004*8,Q001*7,R001*2,
   R002A,R003,R003A*2,R004*7,R010A,R011*6,R016A,R017*13,S001*2,S002A,S003*4,S006A,S007*8,
   S014A*2,S015*3,S017A,S018*9,S026A*2,S027*9,S035A,S036*11,T001*3,T003A,T004*4,T007A,T008,
   T008A,T009,T009A,T010*2,T011A,T012*5,T016A,T017*16,T032A,T033,T033A,T034*3,U001*6,U006A*2,
   U007*17,U023A,U024*6,U029A,U030*3,U032A,U033*10,V001,V001A*9,V002,V002A,V003*5,V007A*2,
   V008*4,V011A*3,V012,V012A*2,V013*8,V020A*12,V021*3,V023A,V024*5,V028A,V029,V029A,V030,
   V030A,V031,V031A,V032*2,V033A,V034*4,V037A,V038*3,V040A,W001*3,W003A,W004*6,W009A,W010,
   W010A,W011*4,W014A,W015*3,W017A,W018,W018A,W019*6,W024A,W025,X001*4,X004A*2,X005*2,X006A,
   X007*2,X008A,Y001,Y001A,Y002*7,Z001*2,Z002A*4,Z003,Z003A*2,Z004,Z004A,Z005,Z005A,Z006*10,
   Z015A*9,Z016,Z016A*8,AA001*7,AA007A*2,AA008*25,,VERTICAL JOINER,HORIZONTAL JOINER,
   INSERT AT TOP START,INSERT AT BOTTOM START,INSERT AT TOP END,INSERT AT BOTTOM END,
   OVERLAY MIDDLE,BEGIN SEGMENT,END SEGMENT;14400 ANATOLIAN HIEROGLYPH:A001*10,A010A,A011*16,
   A026A,A027*13,A039A,A040*2,A041A,A042*4,A045A,A046,A046A*2,A047*20,A066A*3,A067*31,A097A,
   A098,A098A,A099*2,A100A,A101,A101A,A102,A102A,A103*2,A104A*3,A105,A105A*2,A106*2,A107A*3,
   A108*3,A110A*2,A111*5,A115A,A116*10,A125A,A126*10,A135A,A136*67,A202A*2,A203*5,A207A,
   A208*2,A209A,A210*6,A215A,A216,A216A,A217*11,A227A,A228*40,A267A,A268*22,A289A,A290*5,
   A294A,A295*5,A299A,A300*10,A309A,A310*20,A329A,A330*2,A332A*3,A333*4,A336A*3,A337*23,A359A,
   A360*5,A364A,A365*4,A368A,A369*3,A371A,A372*10,A381A,A382,A383 RA OR RI,A383A,A384*3,A386A,
   A387*6,A393 EIGHT,A394*16,A410 BEGIN LOGOGRAM MARK,A410A END LOGOGRAM MARK,A411*40,A450A,
   A451*7,A457A,A458*40,A501*30;16800 BAMUM LETTER PHASE-A:NGKUE MFON,GBIEE FON,
   PON MFON PIPAEMGBIEE,PON MFON PIPAEMBA,NAA MFON,SHUENSHUET,TITA MFON,NZA MFON,
   SHINDA PA NJI,PON PA NJI PIPAEMGBIEE,PON PA NJI PIPAEMBA,MAEMBGBIEE,TU MAEMBA,NGANGU,
   MAEMVEUX,MANSUAE,MVEUAENGAM,SEUNYAM,NTOQPEN,KEUKEUTNDA,NKINDI,SUU,NGKUENZEUM,LAPAQ,LET KUT,
   NTAP MFAA,MAEKEUP,PASHAE,GHEUAERAE,PAMSHAE,MON NGGEUAET,NZUN MEUT,U YUQ NAE,GHEUAEGHEUAE,
   NTAP NTAA,SISA,MGBASA,MEUNJOMNDEUQ,MOOMPUQ,KAFA,PA LEERAEWA,NDA LEERAEWA,PET,MAEMKPEN,NIKA,
   PUP,TUAEP,LUAEP,SONJAM,TEUTEUWEN,MAENYI,KET,NDAANGGEUAET,KUOQ,MOOMEUT,SHUM,LOMMAE,FIRI,ROM,
   KPOQ,SOQ,MAP PIEET,SHIRAE,NTAP,SHOQ NSHUT YUM,NYIT MONGKEUAEQ,PAARAE,NKAARAE,UNKNOWN,NGGEN,
   MAESI,NJAM,MBANYI,NYET,TEUAEN,SOT,PAAM,NSHIEE,MAEM,NYI,KAQ,NSHA,VEE,LU,NEN,NAQ,MBAQ;
   16857 BAMUM LETTER PHASE-B:NSHUET,TU MAEMGBIEE,SIEE,SET TU,LOM NTEUM,MBA MAELEE,KIEEM,
   YEURAE,MBAARAE,KAM,PEESHI,YAFU LEERAEWA,LAM NSHUT NYAM,NTIEE SHEUOQ,NDU NJAA,GHEUGHEUAEM,
   PIT,TU NSIEE,SHET NJAQ,SHEUAEQTU,MFON TEUAEQ,MBIT MBAAKET,NYI NTEUM,KEUPUQ,GHEUGHEN,
   KEUYEUX,LAANAE,PARUM,VEUM,NGKINDI MVOP,NGGEU MBU,WUAET,SAKEUAE,TAAM,MEUQ,NGGUOQ,
   NGGUOQ LARGE,MFIYAQ,SUE,MBEURI,MONTIEEN,NYAEMAE,PUNGAAM,MEUT NGGEET,FEUX,MBUOQ,FEE,KEUAEM,
   MA NJEUAENA,MA NJUQA,LET,NGGAAM,NSEN,MA,KIQ,NGOM;1688F BAMUM LETTER PHASE-C:NGKUE MAEMBA,
   NZA,YUM,WANGKUOQ,NGGEN,NDEUAEREE,NGKAQ,GHARAE,MBEEKEET,GBAYI,NYIR MKPARAQ MEUN,NTU MBIT,
   MBEUM,PIRIEEN,NDOMBU,MBAA CABBAGE-TREE,KEUSHEUAEP,GHAP,KEUKAQ,YU MUOMAE,NZEUM,MBUE,NSEUAEN,
   MBIT,YEUQ,KPARAQ,KAA,SEUX,NDIDA,TAASHAE,NJUEQ,TITA YUE,SUAET,NGGUAEN NYAM,VEUX,NANSANAQ,
   MA KEUAERI,NTAA,NGGUON,LAP,MBIRIEEN,MGBASAQ,NTEUNGBA,TEUTEUX,NGGUM,FUE,NDEUT,NSA,NSHAQ,
   BUNG,VEUAEPEN,MBERAE,RU,NJAEM,LAM,TITUAEP,NSUOT NGOM,NJEEEE,KET,NGGU,MAESI,MBUAEM,LU,KUT,
   NJAM,NGOM,WUP,NGGUEET,NSOM,NTEN,KUOP NKAARAE,NSUN,NDAM,MA NSIEE,YAA,NDAP,SHUEQ,SETFON,MBI,
   MAEMBA,MBANYI,KEUSEUX,MBEUX,KEUM,MBAA PICKET,YUWOQ,NJEUX,MIEE,MUAE,SHIQ,KEN LAW,
   KEN FATIGUE,NGAQ,NAQ,LIQ,PIN,PEN,TET;168F1 BAMUM LETTER PHASE-D:MBUO,WAP,NJI,MFON,NJIEE,
   LIEE,NJEUT,NSHEE,NGGAAMAE,NYAM,WUAEN,NGKUN,SHEE,NGKAP,KEUAETMEUN,TEUT,SHEUAE,NJAP,SUE,KET,
   YAEMMAE,KUOM,SAP,MFEUT,NDEUX,MALEERI,MEUT,SEUAEQ,YEN,NJEUAEM,KEUOT MBUAE,NGKEURI,TU,GHAA,
   NGKYEE,FEUFEUAET,NDEE,MGBOFUM,LEUAEP,NDON,MONI,MGBEUN,PUUT,MGBIEE,MFO,LUM,NSIEEP,MBAA,
   KWAET,NYET,TEUAEN,SOT,YUWOQ,KEUM,RAEM,TEEEE,NGKEUAEQ,MFEUAE,NSIEET,KEUP,PIP,PEUTAE,NYUE,
   LET,NGGAAM,MFIEE,NGGWAEN,YUOM,PAP,YUOP,NDAM,NTEUM,SUAE,KUN,NGGEUX,NGKIEE,TUOT,MEUN,KUQ,
   NSUM,TEUN,MAENJET,NGGAP,LEUM,NGGUOM,NSHUT,NJUEQ,GHEUAE,KU,REN OLD,TAE,TOQ,NYI,RII,LEEEE,
   MEEEE,M,SUU,MU,SHII,SHEUX,KYEE,NU,SHU,NTEE,PEE,NI,SHOQ,PUQ,MVOP,LOQ,REN MUCH,TI,NTUU,
   MBAA SEVEN,SAQ,FAA;16966 BAMUM LETTER PHASE-E:NDAP,TOON,MBEUM,LAP,VOM,LOON,PAA,SOM,RAQ,
   NSHUOP,NDUN,PUAE,TAM,NGKA,KPEUX,WUO,SEE,NGGEUAET,PAAM,TOO,KUOP,LOM,NSHIEE,NGOP,MAEM,NGKEUX,
   NGOQ,NSHUE,RIMGBA,NJEUX,PEEM,SAA,NGGURAE,MGBA,GHEUX,NGKEUAEM,NJAEMLI,MAP,LOOT,NGGEEEE,NDIQ,
   TAEN NTEUM,SET,PUM,NDAA SOFTNESS,NGGUAESHAE NYAM,YIEE,GHEUN,TUAE,YEUAE,PO,TUMAE,KEUAE,
   SUAEN,TEUAEQ,VEUAE,WEUX,LAAM,PU,TAAQ,GHAAMAE,NGEUREUT,SHEUAEQ,MGBEN,MBEE,NZAQ,NKOM,GBET,
   TUM,KUET,YAP,NYI CLEAVER,YIT,MFEUQ,NDIAQ,PIEEQ,YUEQ,LEUAEM,FUE,GBEUX,NGKUP,KET,MAE,NGKAAMI,
   GHET,FA,NTUM,PEUT,YEUM,NGGEUAE,NYI BETWEEN,NZUQ,POON,MIEE,FUET,NAE,MUAE,GHEUAE,FU I,MVI,
   PUAQ,NGKUM,KUT,PIET,NTAP,YEUAET,NGGUP,PA PEOPLE,FU CALL,FOM,NJEE,A,TOQ,O,I,LAQ,PA PLURAL,
   TAA,TAQ,NDAA MY HOUSE,SHIQ,YEUX,NGUAE,YUAEN,YOQ SWIMMING,YOQ COVER,YUQ,YUN,KEUX,PEUX,
   NJEE EPOCH,PUE,WUE,FEE,VEE,LU,MI,REUX,RAE,NGUAET,NGA,SHO,SHOQ,FU REMEDY,NA,PI,LOQ,KO,MEN,
   MA,MAQ,TEU,KI,MON,TEN,FAQ,GHOM;16A03 BAMUM LETTER PHASE-F:KA,U,KU,EE,REE,TAE,NYI,LA,RII,
   RIEE,MEEEE,TAA,NDAA,NJAEM,M,SUU,SHII,SI,SEUX,KYEE,KET,NUAE,NU,NJUAE,YOQ,SHU,YA,NSHA,PEUX,
   NTEE,WUE,PEE,RU,NI,REUX,KEN,NGKWAEN,NGGA,SHO,PUAE,FOM,WA,LI,LOQ,KO,MBEN,REN,MA,MO,MBAA,TET,
   KPA,SAMBA,VUEQ;16A40 MRO LETTER:TA,NGI,YO,MIM,BA,DA,A,PHI,KHAI,HAO,DAI,CHU,KEAAE,OL,MAEM,
   NIN,PA,OO,O,RO,SHI,THEA,EA,WA,E,KO,LAN,LA,HAI,RI,TEK;16A60 MRO DIGIT:ZERO,ONE,TWO,THREE,
   FOUR,FIVE,SIX,SEVEN,EIGHT,NINE;16A6E MRO:DANDA,DOUBLE DANDA;16A70 TANGSA LETTER:OZ,OC,OQ,
   OX,AZ,AC,AQ,AX,VZ,VC,VQ,VX,EZ,EC,EQ,EX,IZ,IC,IQ,IX,UZ,UC,UQ,UX,AWZ,AWC,AWQ,AWX,UIZ,UIC,UIQ,
   UIX,FINAL NG,LONG UEX,SHORT UEZ,SHORT AWX,UEC,UEZ,UEQ,UEX,UIUZ,UIUC,UIUQ,UIUX,MZ,MC,MQ,MX,
   KA,KHA,GA,NGA,SA,YA,WA,PA,NYA,PHA,BA,MA,NA,HA,LA,HTA,TA,DA,RA,NHA,SHA,CA,TSA,GHA,HTTA,THA,
   XA,FA,DHA,CHA,ZA;16AC0 TANGSA DIGIT:ZERO,ONE,TWO,THREE,FOUR,FIVE,SIX,SEVEN,EIGHT,NINE;
   16AD0 BASSA VAH LETTER:ENNI,KA,SE,FA,MBE,YIE,GAH,DHII,KPAH,JO,HWAH,WA,ZO,GBU,DO,CE,UWU,TO,
   BA,VU,YEIN,PA,WADDA,A,O,OO,U,EE,E,I;16AF0 BASSA VAH COMBINING:HIGH TONE,LOW TONE,MID TONE,
   LOW-MID TONE,HIGH-LOW TONE;16AF5 BASSA VAH:FULL STOP;16B00 PAHAWH HMONG VOWEL:KEEB,KEEV,
   KIB,KIV,KAUB,KAUV,KUB,KUV,KEB,KEV,KAIB,KAIV,KOOB,KOOV,KAWB,KAWV,KUAB,KUAV,KOB,KOV,KIAB,
   KIAV,KAB,KAV,KWB,KWV,KAAB,KAAV;16B1C PAHAWH HMONG CONSONANT:VAU,NTSAU,LAU,HAU,NLAU,RAU,
   NKAU,QHAU,YAU,HLAU,MAU,CHAU,NCHAU,HNAU,PLHAU,NTHAU,NAU,AU,XAU,CAU;
   16B30 PAHAWH HMONG MARK CIM:TUB,SO,KES,KHAV,SUAM,HOM,TAUM;16B37 PAHAWH HMONG SIGN VOS:THOM,
   TSHAB CEEB,,THIAB,FEEM,*4,SEEV,,NRUA,*32,LUB;16B39 PAHAWH HMONG SIGN CIM:CHEEM,*11,
   TSOV ROG,*44,HAIS LUS NTOG NTOG,CUAM TSHOOJ,TXWV,TXWV CHWV,PUB DAWB,NRES TOS;
   16B3C PAHAWH HMONG SIGN:XYEEM NTXIV,XYEEM RHO,XYEEM TOV,XYEEM FAIB,,MEEJ SUAB,,IB YAM,XAUS,
   *31,XYOO,HLI,THIRD-STAGE HLI,ZWJ THAJ,HNUB,NQIG,XIAB,NTUJ,AV,TXHEEJ CEEV,MEEJ TSEEB,TAU,
   LOS,MUS;16B50 PAHAWH HMONG DIGIT:ZERO,ONE,TWO,THREE,FOUR,FIVE,SIX,SEVEN,EIGHT,NINE;
   16B5B PAHAWH HMONG NUMBER:TENS,HUNDREDS,TEN THOUSANDS,MILLIONS,HUNDRED MILLIONS,
   TEN BILLIONS,TRILLIONS;16B7D PAHAWH HMONG CLAN SIGN:TSHEEJ,YEEG,LIS,LAUJ,XYOOJ,KOO,HAWJ,
   MUAS,THOJ,TSAB,PHAB,KHAB,HAM,VAJ,FAJ,YAJ,TSWB,KWM,VWJ;16E40 MEDEFAIDRIN CAPITAL LETTER:M,S,
   V,W,ATIU,Z,KP,P,T,G,F,I,K,A,J,E,B,C,U,YU,L,Q,HP,NY,X,D,OE,N,R,O,AI,Y;
   16E60 MEDEFAIDRIN SMALL LETTER:M,S,V,W,ATIU,Z,KP,P,T,G,F,I,K,A,J,E,B,C,U,YU,L,Q,HP,NY,X,D,
   OE,N,R,O,AI,Y;16E80 MEDEFAIDRIN DIGIT:ZERO,ONE,TWO,THREE,FOUR,FIVE,SIX,SEVEN,EIGHT,NINE,
   *10,ONE ALTERNATE FORM,TWO ALTERNATE FORM,THREE ALTERNATE FORM;
   16E8A MEDEFAIDRIN NUMBER:TEN,ELEVEN,TWELVE,THIRTEEN,FOURTEEN,FIFTEEN,SIXTEEN,SEVENTEEN,
   EIGHTEEN,NINETEEN;16E97 MEDEFAIDRIN:COMMA,FULL STOP,SYMBOL AIVA,EXCLAMATION OH;
   16F00 MIAO LETTER:PA,BA,,PLA,MA,MHA,ARCHAIC MA,FA,VA,VFA,TA,DA,,,TTA,DDA,NA,NHA,,
   ARCHAIC NA,NNA,NNHA,LA,LYA,LHA,LHYA,TLHA,DLHA,TLHYA,DLHYA,KA,GA,,QA,QGA,NGA,NGHA,
   ARCHAIC NGA,HA,XA,GHA,GHHA,TSSA,DZZA,NYA,NYHA,TSHA,DZHA,*3,SHA,SSA,ZHA,ZSHA,TSA,DZA,,SA,ZA,
   ZSA,ZZA,ZZSA,ARCHAIC ZZA,ZZYA,ZZSYA,WA,AH,HHA,BRI,SYI,DZYI,TE,TSE,RTE,*5,NASALIZATION;
   16F02 MIAO LETTER YI:PA,*9,TTA,TA,*4,NNA,*13,KA,*15,TSHA,DZHA,*7,TSA;
   16F32 MIAO LETTER REFORMED:TSHA;16F4F MIAO:SIGN CONSONANT MODIFIER BAR,,SIGN ASPIRATION,
   SIGN REFORMED VOICING,SIGN REFORMED ASPIRATION,*59,TONE RIGHT,TONE TOP RIGHT,TONE ABOVE,
   TONE BELOW;16F54 MIAO VOWEL SIGN:A,AA,AHH,AN,ANG,O,OO,WO,W,E,EN,ENG,OEY,I,IA,IAN,IANG,IO,
   IE,II,IU,ING,U,UA,UAN,UANG,UU,UEI,UNG,Y,YI,AE,AEE,ERR,ROUNDED ERR,ER,ROUNDED ER,AI,EI,AU,
   OU,N,NG,UOG,YUI,OG,OER,VW,IG,EA,IONG,UI;16F93 MIAO LETTER:TONE-2*7;
   16F9A MIAO LETTER REFORMED:TONE-1*2,TONE-4*3,TONE-8;16FE0 TANGUT:ITERATION MARK;
   16FE1 :NUSHU ITERATION MARK,,,KHITAN SMALL SCRIPT FILLER,*11,
   VIETNAMESE ALTERNATE READING MARK CA,VIETNAMESE ALTERNATE READING MARK NHAY;
   16FE2 OLD:CHINESE HOOK MARK,CHINESE ITERATION MARK;18800 TANGUT:COMPONENT-001*768;
   1AFF0 KATAKANA LETTER MINNAN:TONE-2*4,,TONE-7*2;
   1AFF7 KATAKANA LETTER MINNAN NASALIZED:TONE-1*5,,TONE-7*2;1B000 KATAKANA LETTER:ARCHAIC E;
   1B001 HIRAGANA LETTER:ARCHAIC YE;1B002 HENTAIGANA LETTER:A-1*3,A-WO,I-1*4,U-1*5,E-2*5,
   O-1*3,KA-1*9,KA-10*2,KA-KE,KI-1*8,KU-1*7,KE-1*6,KO-1*3,KO-KI,SA-1*8,SI-1*6,SU-1*8,SE-1*5,
   SO-1*7,TA-1*4,TI-1*7,TU-1*4,TU-TO,TE-1*9,TO-1*6,TO-RA,NA-1*9,NI-1*7,NI-TE,NU-1*3,NE-1*6,
   NE-KO,NO-1*5,HA-1*9,HA-10*2,HI-1*7,HU-1*3,HE-1*7,HO-1*8,MA-1*7,MI-1*7,MU-1*4,ME-1*2,ME-MA,
   MO-1*6,YA-1*5,YA-YO,YU-1*4,YO-1*6,RA-1*4,RI-1*7,RU-1*6,RE-1*4,RO-1*6,WA-1*5,WI-1*5,WE-1*4,
   WO-1*7,N-MU-MO-1*2;1B11F HIRAGANA LETTER:ARCHAIC WU;1B120 KATAKANA LETTER:ARCHAIC YI,
   ARCHAIC YE,ARCHAIC WU;1B150 HIRAGANA LETTER SMALL:WI,WE,WO;1B164 KATAKANA LETTER SMALL:WI,
   WE,WO,N;1BC00 DUPLOYAN LETTER:H,X,P,T,F,K,L,B,D,V,G,R,P N,D S,F N,K M,R S,TH,,DH,KK,,HL,LH,
   RH,M,N,J,S,M N,N M,,,M WITH DOT,N WITH DOT,*4,M S,N S,,,M N S,N M S,*9,T S,T R S,W,WH,W R,,
   ,K R S,G R S,,,A,,OA,O,AOU,I,E,IE,SHORT I,UI,EE,,ROMANIAN I,,LONG I,YE,U,EU,XW,U N,LONG U,
   ROMANIAN U,UH,,OOH,OW,OU,WA,WO,WI,WEI,WOW,NASAL U,NASAL O,NASAL I,NASAL A,PERNIN AN,
   PERNIN AM,*3,VOCALIC M;1BC12 DUPLOYAN LETTER SLOAN:DH,,,J,*44,OW,*9,EH,,EE,*9,U,*14,EN,AN,
   ON;1BC1F DUPLOYAN LETTER J:M,*3,WITH DOT,WITH DOTS INSIDE AND ABOVE,*4,S,*3,M S,,
   S WITH DOT,N,N S;1BC20 DUPLOYAN LETTER S:J,*4,WITH DOT,WITH DOT BELOW,*3,S,*3,J S,*3,T,T R,
   P,P R,*5,N,M,,,K,K R;1BC70 DUPLOYAN AFFIX:LEFT HORIZONTAL SECANT,MID HORIZONTAL SECANT,
   RIGHT HORIZONTAL SECANT,,MID VERTICAL SECANT;1BC73 DUPLOYAN AFFIX LOW:VERTICAL SECANT,*28,
   ACUTE,TIGHT ACUTE,GRAVE,LONG GRAVE,DOT,CIRCLE,LINE,WAVE,VERTICAL,ARROW;
   1BC75 DUPLOYAN AFFIX HIGH:VERTICAL SECANT,*10,ACUTE,TIGHT ACUTE,GRAVE,LONG GRAVE,DOT,
   CIRCLE,LINE,WAVE,VERTICAL;1BC76 DUPLOYAN AFFIX ATTACHED:SECANT,LEFT-TO-RIGHT SECANT,
   TANGENT,TAIL,E HOOK,I HOOK,TANGENT HOOK;1BC9C DUPLOYAN:SIGN O WITH CROSS,
   THICK LETTER SELECTOR,DOUBLE MARK,PUNCTUATION CHINOOK FULL STOP;
   1BCA0 :SHORTHAND FORMAT LETTER OVERLAP,SHORTHAND FORMAT CONTINUING OVERLAP,
   SHORTHAND FORMAT DOWN STEP,SHORTHAND FORMAT UP STEP;
   1CF00 ZNAMENNY COMBINING MARK GORAZDO:NIZKO S KRYZHEM ON LEFT,,,NIZKO ON LEFT,*8,
   NIZKO S KRYZHEM ON RIGHT,,,NIZKO ON RIGHT,*15,VYSOKO;
   1CF01 ZNAMENNY COMBINING MARK:NIZKO S KRYZHEM ON LEFT,TSATA ON LEFT,,NIZKO ON LEFT,
   SREDNE ON LEFT,*7,NIZKO S KRYZHEM ON RIGHT,TSATA ON RIGHT,,NIZKO ON RIGHT,SREDNE ON RIGHT,
   *6,TSATA S KRYZHEM,,STRANNO MALO POVYSHE,*5,ZELO,ON,RAVNO,TIKHAYA,BORZAYA,UDARKA,PODVERTKA,
   LOMKA,KUPNAYA,KACHKA,ZEVOK,SKOBA,RAZSEKA,KRYZH ON LEFT,*5,ZADERZHKA,DEMESTVENNY ZADERZHKA,
   OTSECHKA,PODCHASHIE,PODCHASHIE WITH VERTICAL STROKE,CHASHKA,CHASHKA POLNAYA,OBLACHKO,
   SOROCHYA NOZHKA,TOCHKA,DVOETOCHIE,,CURVED OMET,KRYZH;
   1CF06 ZNAMENNY COMBINING MARK MALO POVYSHE:ON LEFT,,,S KHOKHLOM ON LEFT,*8,ON RIGHT,,,
   S KHOKHLOM ON RIGHT,*3,S KRYZHEM,*4,STRANNO;1CF07 ZNAMENNY COMBINING MARK POVYSHE:ON LEFT,,
   ,S KHOKHLOM ON LEFT,*8,ON RIGHT,,,S KHOKHLOM ON RIGHT,*4,S KRYZHEM,STRANNO;
   1CF08 ZNAMENNY COMBINING MARK VYSOKO:ON LEFT,,,S KHOKHLOM ON LEFT,*8,ON RIGHT,,,
   S KHOKHLOM ON RIGHT,*5,S KRYZHEM;1CF30 ZNAMENNY COMBINING:TONAL RANGE MARK MRACHNO,
   TONAL RANGE MARK SVETLO,TONAL RANGE MARK TRESVETLO,*11,ATTACHING VERTICAL OMET,,,
   LOWER TONAL RANGE INDICATOR;1CF42 ZNAMENNY PRIZNAK MODIFIER:LEVEL-2*2,DIRECTION FLIP,KRYZH,
   ROG;1CF50 ZNAMENNY NEUME:KRYUK,KRYUK TIKHY,PARAKLIT,DVA V CHELNU,KLYUCH,ZANOZHEK,STOPITSA,
   STOPITSA S OCHKOM,PEREVODKA,PEREVODKA NEPOSTOYANNAYA,STOPITSA WITH SOROCHYA NOZHKA,
   CHELYUSTKA,PALKA,ZAPYATAYA,*13,DOUBLE ZAPYATAYA,REVERSED CHELYUSTKA,DERBITSA,KHAMILO,
   CHASHKA,PODCHASHIE,*4,DEMESTVENNY KLYUCH,*7,SLOZHITIE,SLOZHITIE S ZAPYATOY,
   SLOZHITIE ZAKRYTOE,SLOZHITIE S KRYZHEM,KRYZH,ROG,FITA,KOBYLA,ZMEYTSA,STATYA,*9,POLKULIZMY,
   *22,MECHIK,MECHIK POVODNY,MECHIK KLYUCHEVOY,MECHIK KLYUCHEPOVODNY,
   MECHIK KLYUCHENEPOSTOYANNY,*3,OSOKA,*15,KUFISMA,OBLAKO,DUDA,NEMKA,PAUK;
   1CF5E ZNAMENNY NEUME GOLUBCHIK:BORZY,TIKHY,MRACHNY,SVETLY,TRESVETLY;
   1CF63 ZNAMENNY NEUME VRAKHIYA:PROSTAYA,MRACHNAYA,SVETLAYA,TRESVETLAYA,KLYUCHEVAYA PROSTAYA,
   KLYUCHEVAYA MRACHNAYA,KLYUCHEVAYA SVETLAYA,KLYUCHEVAYA TRESVETLAYA;
   1CF71 ZNAMENNY NEUME SKAMEYTSA:MRACHNAYA,SVETLAYA,TRESVETLAYA,TIKHAYA,,
   KLYUCHEVAYA SVETLAYA,KLYUCHENEPOSTOYANNAYA,KLYUCHEVAYA TIKHAYA,DVOECHELNAYA PROSTAYA,
   DVOECHELNAYA SVETLAYA,DVOECHELNAYA NEPOSTOYANNAYA,DVOECHELNAYA KLYUCHEVAYA;
   1CF87 ZNAMENNY NEUME STATYA S:ZAPYATOY,KRYZHEM,ZAPYATOY I KRYZHEM,KRYZHEM I ZAPYATOY,,,
   ROGOM,DVUMYA ZAPYATYMI,ZAPYATOY I PODCHASHIEM;1CF8B ZNAMENNY NEUME STATYA:ZAKRYTAYA,
   ZAKRYTAYA S ZAPYATOY,*4,NEPOSTOYANNAYA;1CF92 ZNAMENNY NEUME STRELA:PROSTAYA,MRACHNOTIKHAYA,
   KRYZHEVAYA,POLUPOVODNAYA,POVODNAYA,NEPOSTOYANNAYA,KLYUCHEPOVODNAYA,KLYUCHENEPOSTOYANNAYA,
   TIKHAYA PUTNAYA,DVOECHELNAYA,DVOECHELNOKRYZHEVAYA,DVOECHELNOPOVODNAYA,
   DVOECHELNAYA KLYUCHEVAYA,DVOECHELNOPOVODNAYA KLYUCHEVAYA,GROMNAYA WITH SINGLE ZAPYATAYA,
   GROMOPOVODNAYA WITH SINGLE ZAPYATAYA,GROMNAYA,GROMOPOVODNAYA,
   GROMOPOVODNAYA WITH DOUBLE ZAPYATAYA,GROMOKRYZHEVAYA,GROMOKRYZHEVAYA POVODNAYA,*5,
   TRYASOGLASNAYA,TRYASOPOVODNAYA,TRYASOSTRELNAYA,*6,KRYUKOVAYA;
   1CFB0 ZNAMENNY NEUME OSOKA:SVETLAYA,TRESVETLAYA,KRYUKOVAYA SVETLAYA,KLYUCHEVAYA SVETLAYA,
   KLYUCHEVAYA NEPOSTOYANNAYA;1CFB6 ZNAMENNY NEUME STRELA KRYUKOVAYA:POVODNAYA,
   GROMNAYA WITH SINGLE ZAPYATAYA,GROMOPOVODNAYA WITH SINGLE ZAPYATAYA,GROMNAYA,
   GROMOPOVODNAYA,GROMOPOVODNAYA WITH DOUBLE ZAPYATAYA,GROMOKRYZHEVAYA,
   GROMOKRYZHEVAYA POVODNAYA,TRYASKA"

end Grading.Text
