/-!
# Asian — names of characters of East and South Asia

The rows of the table are read as `Grading.Text.rowCode?` says.
-/

namespace Grading.Text

def asianNames : String :=
  "3000 IDEOGRAPHIC:SPACE,COMMA,FULL STOP,,,ITERATION MARK,CLOSING MARK,NUMBER ZERO,*34,
   LEVEL TONE MARK,RISING TONE MARK,DEPARTING TONE MARK,ENTERING TONE MARK,*16,
   VARIATION INDICATOR,HALF FILL SPACE;3003 :DITTO MARK,*14,POSTAL MARK,GETA MARK,*8,
   WAVE DASH,*3,POSTAL MARK FACE,*15,WAVY DASH,*11,MASU MARK,PART ALTERNATION MARK;
   3004 JAPANESE:INDUSTRIAL STANDARD SYMBOL;3008 LEFT:ANGLE BRACKET,,DOUBLE ANGLE BRACKET,,
   CORNER BRACKET,*3,BLACK LENTICULAR BRACKET,*3,TORTOISE SHELL BRACKET;
   3009 RIGHT ANGLE:BRACKET;300B RIGHT DOUBLE:ANGLE BRACKET;300D RIGHT:CORNER BRACKET,*3,
   BLACK LENTICULAR BRACKET,*3,TORTOISE SHELL BRACKET;300E LEFT WHITE:CORNER BRACKET,*7,
   LENTICULAR BRACKET,,TORTOISE SHELL BRACKET,,SQUARE BRACKET;300F RIGHT WHITE:CORNER BRACKET,
   *7,LENTICULAR BRACKET,,TORTOISE SHELL BRACKET,,SQUARE BRACKET;
   301D REVERSED:DOUBLE PRIME QUOTATION MARK;301E DOUBLE:PRIME QUOTATION MARK;
   301F LOW:DOUBLE PRIME QUOTATION MARK;3021 HANGZHOU NUMERAL:ONE,TWO,THREE,FOUR,FIVE,SIX,
   SEVEN,EIGHT,NINE,*14,TEN,TWENTY,THIRTY;302E HANGUL:SINGLE DOT TONE MARK,
   DOUBLE DOT TONE MARK;3031 VERTICAL KANA REPEAT:MARK,WITH VOICED SOUND MARK,MARK UPPER HALF,
   WITH VOICED SOUND MARK UPPER HALF,MARK LOWER HALF;3036 CIRCLED:POSTAL MARK;
   3037 IDEOGRAPHIC TELEGRAPH:LINE FEED SEPARATOR SYMBOL;
   303B VERTICAL:IDEOGRAPHIC ITERATION MARK;3041 HIRAGANA LETTER SMALL:A,,I,,U,,E,,O,*25,TU,
   *31,YA,,YU,,YO,*6,WA,*6,KA,KE;3042 HIRAGANA LETTER:A,,I,,U,,E,,O,KA,GA,KI,GI,KU,GU,KE,GE,
   KO,GO,SA,ZA,SI,ZI,SU,ZU,SE,ZE,SO,ZO,TA,DA,TI,DI,,TU,DU,TE,DE,TO,DO,NA,NI,NU,NE,NO,HA,BA,PA,
   HI,BI,PI,HU,BU,PU,HE,BE,PE,HO,BO,PO,MA,MI,MU,ME,MO,,YA,,YU,,YO,RA,RI,RU,RE,RO,,WA,WI,WE,WO,
   N,VU;3099 COMBINING:KATAKANA-HIRAGANA VOICED SOUND MARK,
   KATAKANA-HIRAGANA SEMI-VOICED SOUND MARK;309B :KATAKANA-HIRAGANA VOICED SOUND MARK,
   KATAKANA-HIRAGANA SEMI-VOICED SOUND MARK,*3,KATAKANA-HIRAGANA DOUBLE HYPHEN;
   309D HIRAGANA:ITERATION MARK,VOICED ITERATION MARK,DIGRAPH YORI;
   30A1 KATAKANA LETTER SMALL:A,,I,,U,,E,,O,*25,TU,*31,YA,,YU,,YO,*6,WA,*6,KA,KE;
   30A2 KATAKANA LETTER:A,,I,,U,,E,,O,KA,GA,KI,GI,KU,GU,KE,GE,KO,GO,SA,ZA,SI,ZI,SU,ZU,SE,ZE,
   SO,ZO,TA,DA,TI,DI,,TU,DU,TE,DE,TO,DO,NA,NI,NU,NE,NO,HA,BA,PA,HI,BI,PI,HU,BU,PU,HE,BE,PE,HO,
   BO,PO,MA,MI,MU,ME,MO,,YA,,YU,,YO,RA,RI,RU,RE,RO,,WA,WI,WE,WO,N,VU,,,VA,VI,VE,VO;
   30FB KATAKANA:MIDDLE DOT,,ITERATION MARK,VOICED ITERATION MARK,DIGRAPH KOTO;
   30FC :KATAKANA-HIRAGANA PROLONGED SOUND MARK;3105 BOPOMOFO LETTER:B,P,M,F,D,T,N,L,G,K,H,J,
   Q,X,ZH,CH,SH,R,Z,C,S,A,O,E,EH,AI,EI,AU,OU,AN,EN,ANG,ENG,ER,I,U,IU,V,NG,GN,IH,
   O WITH DOT ABOVE,NN;3131 HANGUL LETTER:KIYEOK,SSANGKIYEOK,KIYEOK-SIOS,NIEUN,NIEUN-CIEUC,
   NIEUN-HIEUH,TIKEUT,SSANGTIKEUT,RIEUL,RIEUL-KIYEOK,RIEUL-MIEUM,RIEUL-PIEUP,RIEUL-SIOS,
   RIEUL-THIEUTH,RIEUL-PHIEUPH,RIEUL-HIEUH,MIEUM,PIEUP,SSANGPIEUP,PIEUP-SIOS,SIOS,SSANGSIOS,
   IEUNG,CIEUC,SSANGCIEUC,CHIEUCH,KHIEUKH,THIEUTH,PHIEUPH,HIEUH,A,AE,YA,YAE,EO,E,YEO,YE,O,WA,
   WAE,OE,YO,U,WEO,WE,WI,YU,EU,YI,I,,SSANGNIEUN,NIEUN-TIKEUT,NIEUN-SIOS,NIEUN-PANSIOS,
   RIEUL-KIYEOK-SIOS,RIEUL-TIKEUT,RIEUL-PIEUP-SIOS,RIEUL-PANSIOS,RIEUL-YEORINHIEUH,
   MIEUM-PIEUP,MIEUM-SIOS,MIEUM-PANSIOS,KAPYEOUNMIEUM,PIEUP-KIYEOK,PIEUP-TIKEUT,
   PIEUP-SIOS-KIYEOK,PIEUP-SIOS-TIKEUT,PIEUP-CIEUC,PIEUP-THIEUTH,KAPYEOUNPIEUP,
   KAPYEOUNSSANGPIEUP,SIOS-KIYEOK,SIOS-NIEUN,SIOS-TIKEUT,SIOS-PIEUP,SIOS-CIEUC,PANSIOS,
   SSANGIEUNG,YESIEUNG,YESIEUNG-SIOS,YESIEUNG-PANSIOS,KAPYEOUNPHIEUPH,SSANGHIEUH,YEORINHIEUH,
   YO-YA,YO-YAE,YO-I,YU-YEO,YU-YE,YU-I,ARAEA,ARAEAE;3164 HANGUL:FILLER;
   3190 IDEOGRAPHIC ANNOTATION:LINKING MARK,REVERSE MARK,ONE MARK,TWO MARK,THREE MARK,
   FOUR MARK,TOP MARK,MIDDLE MARK,BOTTOM MARK,FIRST MARK,SECOND MARK,THIRD MARK,FOURTH MARK,
   HEAVEN MARK,EARTH MARK,MAN MARK;31A0 BOPOMOFO LETTER:BU,ZI,JI,GU,EE,ENN,OO,ONN,IR,ANN,INN,
   UNN,IM,NGG,AINN,AUNN,AM,OM,ONG,INNN,*4,GH,LH,ZY,,GW,KW,OE,AH;31B4 BOPOMOFO FINAL LETTER:P,
   T,K,H,*3,G;31C0 CJK STROKE:T,WG,XG,BXG,SW,HZZ,HZG,HP,HZWG,SZWG,HZT,HZZP,HPWG,HZW,HZZZ,N,H,
   S,P,SP,D,HZ,HG,SZ,SWZ,ST,SG,PD,PZ,TN,SZZ,SWG,HXWG,HZZZG,PG,Q;31F0 KATAKANA LETTER SMALL:KU,
   SI,SU,TO,NU,HA,HI,HU,HE,HO,MU,RA,RI,RU,RE,RO;3200 PARENTHESIZED HANGUL:KIYEOK,NIEUN,TIKEUT,
   RIEUL,MIEUM,PIEUP,SIOS,IEUNG,CIEUC,CHIEUCH,KHIEUKH,THIEUTH,PHIEUPH,HIEUH,KIYEOK A,NIEUN A,
   TIKEUT A,RIEUL A,MIEUM A,PIEUP A,SIOS A,IEUNG A,CIEUC A,CHIEUCH A,KHIEUKH A,THIEUTH A,
   PHIEUPH A,HIEUH A,CIEUC U;321D PARENTHESIZED:KOREAN CHARACTER OJEON,KOREAN CHARACTER O HU;
   3220 PARENTHESIZED IDEOGRAPH:ONE,TWO,THREE,FOUR,FIVE,SIX,SEVEN,EIGHT,NINE,TEN,MOON,FIRE,
   WATER,WOOD,METAL,EARTH,SUN,STOCK,HAVE,SOCIETY,NAME,SPECIAL,FINANCIAL,CONGRATULATION,LABOR,
   REPRESENT,CALL,STUDY,SUPERVISE,ENTERPRISE,RESOURCE,ALLIANCE,FESTIVAL,REST,SELF,REACH;
   3244 CIRCLED IDEOGRAPH:QUESTION,KINDERGARTEN,SCHOOL,KOTO,*56,ONE,TWO,THREE,FOUR,FIVE,SIX,
   SEVEN,EIGHT,NINE,TEN,MOON,FIRE,WATER,WOOD,METAL,EARTH,SUN,STOCK,HAVE,SOCIETY,NAME,SPECIAL,
   FINANCIAL,CONGRATULATION,LABOR,SECRET,MALE,FEMALE,SUITABLE,EXCELLENT,PRINT,ATTENTION,ITEM,
   REST,COPY,CORRECT,HIGH,CENTRE,LOW,LEFT,RIGHT,MEDICINE,RELIGION,STUDY,SUPERVISE,ENTERPRISE,
   RESOURCE,ALLIANCE,NIGHT;3248 CIRCLED NUMBER:TEN ON BLACK SQUARE,*3,FIFTY ON BLACK SQUARE,
   SIXTY ON BLACK SQUARE,SEVENTY ON BLACK SQUARE,EIGHTY ON BLACK SQUARE,*10,THIRTY;
   3249 CIRCLED NUMBER TWENTY:ON BLACK SQUARE,*7,ONE,TWO,THREE,FOUR,FIVE,SIX,SEVEN,EIGHT,NINE;
   324A CIRCLED NUMBER THIRTY:ON BLACK SQUARE,*16,ONE,TWO,THREE,FOUR,FIVE;
   324B CIRCLED NUMBER FORTY:ON BLACK SQUARE;3250 :PARTNERSHIP SIGN,*46,
   KOREAN STANDARD SYMBOL;3260 CIRCLED HANGUL:KIYEOK,NIEUN,TIKEUT,RIEUL,MIEUM,PIEUP,SIOS,
   IEUNG,CIEUC,CHIEUCH,KHIEUKH,THIEUTH,PHIEUPH,HIEUH,KIYEOK A,NIEUN A,TIKEUT A,RIEUL A,
   MIEUM A,PIEUP A,SIOS A,IEUNG A,CIEUC A,CHIEUCH A,KHIEUKH A,THIEUTH A,PHIEUPH A,HIEUH A,,,
   IEUNG U;327C CIRCLED:KOREAN CHARACTER CHAMKO,KOREAN CHARACTER JUEUI;
   32B1 CIRCLED NUMBER THIRTY:SIX,SEVEN,EIGHT,NINE;32B5 CIRCLED NUMBER:FORTY,*9,FIFTY;
   32B6 CIRCLED NUMBER FORTY:ONE,TWO,THREE,FOUR,FIVE,SIX,SEVEN,EIGHT,NINE;
   32C0 IDEOGRAPHIC TELEGRAPH SYMBOL FOR:JANUARY,FEBRUARY,MARCH,APRIL,MAY,JUNE,JULY,AUGUST,
   SEPTEMBER,OCTOBER,NOVEMBER,DECEMBER;32CC SQUARE:HG,ERG,EV,*49,APAATO,ARUHUA,ANPEA,AARU,
   ININGU,INTI,UON,ESUKUUDO,EEKAA,ONSU,OOMU,KAIRI,KARATTO,KARORII,GARON,GANMA,GIGA,GINII,
   KYURII,GIRUDAA,KIRO,KIROGURAMU,KIROMEETORU,KIROWATTO,GURAMU,GURAMUTON,KURUZEIRO,KUROONE,
   KEESU,KORUNA,KOOPO,SAIKURU,SANTIIMU,SIRINGU,SENTI,SENTO,DAASU,DESI,DORU,TON,NANO,NOTTO,
   HAITU,PAASENTO,PAATU,BAARERU,PIASUTORU,PIKURU,PIKO,BIRU,HUARADDO,HUIITO,BUSSYERU,HURAN,
   HEKUTAARU,PESO,PENIHI,HERUTU,PENSU,PEEZI,BEETA,POINTO,BORUTO,HON,PONDO,HOORU,HOON,MAIKURO,
   MAIRU,MAHHA,MARUKU,MANSYON,MIKURON,MIRI,MIRIBAARU,MEGA,MEGATON,MEETORU,YAADO,YAARU,YUAN,
   RITTORU,RIRA,RUPII,RUUBURU,REMU,RENTOGEN,WATTO,*25,HPA,DA,AU,BAR,OV,PC,DM,DM SQUARED,
   DM CUBED,IU,*4,CORPORATION,PA AMPS,NA,,MA,KA,KB,MB,GB,CAL,KCAL,PF,NF,,,MG,KG,HZ,KHZ,MHZ,
   GHZ,THZ,,ML,DL,KL,FM,NM,,MM,CM,KM,MM SQUARED,CM SQUARED,,KM SQUARED,MM CUBED,CM CUBED,,
   KM CUBED,,,PA,KPA,MPA,GPA,RAD,RAD OVER S,RAD OVER S SQUARED,PS,NS,,MS,PV,NV,,MV,KV,MV MEGA,
   PW,NW,,MW,KW,MW MEGA,K OHM,,AM,BQ,CC,CD,C OVER KG,CO,DB,GY,HA,HP,IN,KK,KM CAPITAL,KT,LM,LN,
   LOG,LX,MB SMALL,MIL,MOL,PH,PM,PPM,PR,SR,SV,WB,V OVER M,A OVER M,*31,GAL;
   32CF :LIMITED LIABILITY SIGN;32D0 CIRCLED KATAKANA:A,I,U,E,O,KA,KI,KU,KE,KO,SA,SI,SU,SE,SO,
   TA,TI,TU,TE,TO,NA,NI,NU,NE,NO,HA,HI,HU,HE,HO,MA,MI,MU,ME,MO,YA,YU,YO,RA,RI,RU,RE,RO,WA,WI,
   WE,WO;32FF SQUARE ERA NAME:REIWA;3358 IDEOGRAPHIC TELEGRAPH SYMBOL FOR HOUR:ZERO,ONE,TWO,
   THREE,FOUR,FIVE,SIX,SEVEN,EIGHT,NINE,TEN,ELEVEN,TWELVE,THIRTEEN,FOURTEEN,FIFTEEN,SIXTEEN,
   SEVENTEEN,EIGHTEEN,NINETEEN,TWENTY,TWENTY-ONE,TWENTY-TWO,TWENTY-THREE,TWENTY-FOUR;
   337B SQUARE ERA NAME:HEISEI,SYOUWA,TAISYOU,MEIZI;3382 SQUARE MU:A,*9,F,G,*7,L,*5,M,*22,S,
   *3,V,*5,W;33A1 SQUARE M:SQUARED,*3,CUBED,,OVER S,OVER S SQUARED,*24,OHM;
   33E0 IDEOGRAPHIC TELEGRAPH SYMBOL FOR DAY:ONE,TWO,THREE,FOUR,FIVE,SIX,SEVEN,EIGHT,NINE,TEN,
   ELEVEN,TWELVE,THIRTEEN,FOURTEEN,FIFTEEN,SIXTEEN,SEVENTEEN,EIGHTEEN,NINETEEN,TWENTY,
   TWENTY-ONE,TWENTY-TWO,TWENTY-THREE,TWENTY-FOUR,TWENTY-FIVE,TWENTY-SIX,TWENTY-SEVEN,
   TWENTY-EIGHT,TWENTY-NINE,THIRTY,THIRTY-ONE;4DC0 HEXAGRAM FOR THE:CREATIVE HEAVEN,
   RECEPTIVE EARTH,*4,ARMY,*21,ABYSMAL WATER,CLINGING FIRE,*6,FAMILY,*10,WELL,,CAULDRON,
   AROUSING THUNDER,KEEPING STILL MOUNTAIN,,MARRYING MAIDEN,,WANDERER,GENTLE WIND,JOYOUS LAKE;
   4DC2 HEXAGRAM FOR:DIFFICULTY AT THE BEGINNING,YOUTHFUL FOLLY,WAITING,CONFLICT,,
   HOLDING TOGETHER,SMALL TAMING,TREADING,PEACE,STANDSTILL,FELLOWSHIP,GREAT POSSESSION,
   MODESTY,ENTHUSIASM,FOLLOWING,WORK ON THE DECAYED,APPROACH,CONTEMPLATION,BITING THROUGH,
   GRACE,SPLITTING APART,RETURN,INNOCENCE,GREAT TAMING,MOUTH CORNERS,GREAT PREPONDERANCE,,,
   INFLUENCE,DURATION,RETREAT,GREAT POWER,PROGRESS,DARKENING OF THE LIGHT,,OPPOSITION,
   OBSTRUCTION,DELIVERANCE,DECREASE,INCREASE,BREAKTHROUGH,COMING TO MEET,GATHERING TOGETHER,
   PUSHING UPWARD,OPPRESSION,,REVOLUTION,*3,DEVELOPMENT,,ABUNDANCE,*3,DISPERSION,LIMITATION,
   INNER TRUTH,SMALL PREPONDERANCE,AFTER COMPLETION,BEFORE COMPLETION;A000 YI SYLLABLE:IT,IX,
   I,IP,IET,IEX,IE,IEP,AT,AX,A,AP,UOX,UO,UOP,OT,OX,O,OP,EX,E,WU,BIT,BIX,BI,BIP,BIET,BIEX,BIE,
   BIEP,BAT,BAX,BA,BAP,BUOX,BUO,BUOP,BOT,BOX,BO,BOP,BEX,BE,BEP,BUT,BUX,BU,BUP,BURX,BUR,BYT,
   BYX,BY,BYP,BYRX,BYR,PIT,PIX,PI,PIP,PIEX,PIE,PIEP,PAT,PAX,PA,PAP,PUOX,PUO,PUOP,POT,POX,PO,
   POP,PUT,PUX,PU,PUP,PURX,PUR,PYT,PYX,PY,PYP,PYRX,PYR,BBIT,BBIX,BBI,BBIP,BBIET,BBIEX,BBIE,
   BBIEP,BBAT,BBAX,BBA,BBAP,BBUOX,BBUO,BBUOP,BBOT,BBOX,BBO,BBOP,BBEX,BBE,BBEP,BBUT,BBUX,BBU,
   BBUP,BBURX,BBUR,BBYT,BBYX,BBY,BBYP,NBIT,NBIX,NBI,NBIP,NBIEX,NBIE,NBIEP,NBAT,NBAX,NBA,NBAP,
   NBOT,NBOX,NBO,NBOP,NBUT,NBUX,NBU,NBUP,NBURX,NBUR,NBYT,NBYX,NBY,NBYP,NBYRX,NBYR,HMIT,HMIX,
   HMI,HMIP,HMIEX,HMIE,HMIEP,HMAT,HMAX,HMA,HMAP,HMUOX,HMUO,HMUOP,HMOT,HMOX,HMO,HMOP,HMUT,HMUX,
   HMU,HMUP,HMURX,HMUR,HMYX,HMY,HMYP,HMYRX,HMYR,MIT,MIX,MI,MIP,MIEX,MIE,MIEP,MAT,MAX,MA,MAP,
   MUOT,MUOX,MUO,MUOP,MOT,MOX,MO,MOP,MEX,ME,MUT,MUX,MU,MUP,MURX,MUR,MYT,MYX,MY,MYP,FIT,FIX,FI,
   FIP,FAT,FAX,FA,FAP,FOX,FO,FOP,FUT,FUX,FU,FUP,FURX,FUR,FYT,FYX,FY,FYP,VIT,VIX,VI,VIP,VIET,
   VIEX,VIE,VIEP,VAT,VAX,VA,VAP,VOT,VOX,VO,VOP,VEX,VEP,VUT,VUX,VU,VUP,VURX,VUR,VYT,VYX,VY,VYP,
   VYRX,VYR,DIT,DIX,DI,DIP,DIEX,DIE,DIEP,DAT,DAX,DA,DAP,DUOX,DUO,DOT,DOX,DO,DOP,DEX,DE,DEP,
   DUT,DUX,DU,DUP,DURX,DUR,TIT,TIX,TI,TIP,TIEX,TIE,TIEP,TAT,TAX,TA,TAP,TUOT,TUOX,TUO,TUOP,TOT,
   TOX,TO,TOP,TEX,TE,TEP,TUT,TUX,TU,TUP,TURX,TUR,DDIT,DDIX,DDI,DDIP,DDIEX,DDIE,DDIEP,DDAT,
   DDAX,DDA,DDAP,DDUOX,DDUO,DDUOP,DDOT,DDOX,DDO,DDOP,DDEX,DDE,DDEP,DDUT,DDUX,DDU,DDUP,DDURX,
   DDUR,NDIT,NDIX,NDI,NDIP,NDIEX,NDIE,NDAT,NDAX,NDA,NDAP,NDOT,NDOX,NDO,NDOP,NDEX,NDE,NDEP,
   NDUT,NDUX,NDU,NDUP,NDURX,NDUR,HNIT,HNIX,HNI,HNIP,HNIET,HNIEX,HNIE,HNIEP,HNAT,HNAX,HNA,HNAP,
   HNUOX,HNUO,HNOT,HNOX,HNOP,HNEX,HNE,HNEP,HNUT,NIT,NIX,NI,NIP,NIEX,NIE,NIEP,NAX,NA,NAP,NUOX,
   NUO,NUOP,NOT,NOX,NO,NOP,NEX,NE,NEP,NUT,NUX,NU,NUP,NURX,NUR,HLIT,HLIX,HLI,HLIP,HLIEX,HLIE,
   HLIEP,HLAT,HLAX,HLA,HLAP,HLUOX,HLUO,HLUOP,HLOX,HLO,HLOP,HLEX,HLE,HLEP,HLUT,HLUX,HLU,HLUP,
   HLURX,HLUR,HLYT,HLYX,HLY,HLYP,HLYRX,HLYR,LIT,LIX,LI,LIP,LIET,LIEX,LIE,LIEP,LAT,LAX,LA,LAP,
   LUOT,LUOX,LUO,LUOP,LOT,LOX,LO,LOP,LEX,LE,LEP,LUT,LUX,LU,LUP,LURX,LUR,LYT,LYX,LY,LYP,LYRX,
   LYR,GIT,GIX,GI,GIP,GIET,GIEX,GIE,GIEP,GAT,GAX,GA,GAP,GUOT,GUOX,GUO,GUOP,GOT,GOX,GO,GOP,GET,
   GEX,GE,GEP,GUT,GUX,GU,GUP,GURX,GUR,KIT,KIX,KI,KIP,KIEX,KIE,KIEP,KAT,KAX,KA,KAP,KUOX,KUO,
   KUOP,KOT,KOX,KO,KOP,KET,KEX,KE,KEP,KUT,KUX,KU,KUP,KURX,KUR,GGIT,GGIX,GGI,GGIEX,GGIE,GGIEP,
   GGAT,GGAX,GGA,GGAP,GGUOT,GGUOX,GGUO,GGUOP,GGOT,GGOX,GGO,GGOP,GGET,GGEX,GGE,GGEP,GGUT,GGUX,
   GGU,GGUP,GGURX,GGUR,MGIEX,MGIE,MGAT,MGAX,MGA,MGAP,MGUOX,MGUO,MGUOP,MGOT,MGOX,MGO,MGOP,MGEX,
   MGE,MGEP,MGUT,MGUX,MGU,MGUP,MGURX,MGUR,HXIT,HXIX,HXI,HXIP,HXIET,HXIEX,HXIE,HXIEP,HXAT,HXAX,
   HXA,HXAP,HXUOT,HXUOX,HXUO,HXUOP,HXOT,HXOX,HXO,HXOP,HXEX,HXE,HXEP,NGIEX,NGIE,NGIEP,NGAT,
   NGAX,NGA,NGAP,NGUOT,NGUOX,NGUO,NGOT,NGOX,NGO,NGOP,NGEX,NGE,NGEP,HIT,HIEX,HIE,HAT,HAX,HA,
   HAP,HUOT,HUOX,HUO,HUOP,HOT,HOX,HO,HOP,HEX,HE,HEP,WAT,WAX,WA,WAP,WUOX,WUO,WUOP,WOX,WO,WOP,
   WEX,WE,WEP,ZIT,ZIX,ZI,ZIP,ZIEX,ZIE,ZIEP,ZAT,ZAX,ZA,ZAP,ZUOX,ZUO,ZUOP,ZOT,ZOX,ZO,ZOP,ZEX,ZE,
   ZEP,ZUT,ZUX,ZU,ZUP,ZURX,ZUR,ZYT,ZYX,ZY,ZYP,ZYRX,ZYR,CIT,CIX,CI,CIP,CIET,CIEX,CIE,CIEP,CAT,
   CAX,CA,CAP,CUOX,CUO,CUOP,COT,COX,CO,COP,CEX,CE,CEP,CUT,CUX,CU,CUP,CURX,CUR,CYT,CYX,CY,CYP,
   CYRX,CYR,ZZIT,ZZIX,ZZI,ZZIP,ZZIET,ZZIEX,ZZIE,ZZIEP,ZZAT,ZZAX,ZZA,ZZAP,ZZOX,ZZO,ZZOP,ZZEX,
   ZZE,ZZEP,ZZUX,ZZU,ZZUP,ZZURX,ZZUR,ZZYT,ZZYX,ZZY,ZZYP,ZZYRX,ZZYR,NZIT,NZIX,NZI,NZIP,NZIEX,
   NZIE,NZIEP,NZAT,NZAX,NZA,NZAP,NZUOX,NZUO,NZOX,NZOP,NZEX,NZE,NZUX,NZU,NZUP,NZURX,NZUR,NZYT,
   NZYX,NZY,NZYP,NZYRX,NZYR,SIT,SIX,SI,SIP,SIEX,SIE,SIEP,SAT,SAX,SA,SAP,SUOX,SUO,SUOP,SOT,SOX,
   SO,SOP,SEX,SE,SEP,SUT,SUX,SU,SUP,SURX,SUR,SYT,SYX,SY,SYP,SYRX,SYR,SSIT,SSIX,SSI,SSIP,SSIEX,
   SSIE,SSIEP,SSAT,SSAX,SSA,SSAP,SSOT,SSOX,SSO,SSOP,SSEX,SSE,SSEP,SSUT,SSUX,SSU,SSUP,SSYT,
   SSYX,SSY,SSYP,SSYRX,SSYR,ZHAT,ZHAX,ZHA,ZHAP,ZHUOX,ZHUO,ZHUOP,ZHOT,ZHOX,ZHO,ZHOP,ZHET,ZHEX,
   ZHE,ZHEP,ZHUT,ZHUX,ZHU,ZHUP,ZHURX,ZHUR,ZHYT,ZHYX,ZHY,ZHYP,ZHYRX,ZHYR,CHAT,CHAX,CHA,CHAP,
   CHUOT,CHUOX,CHUO,CHUOP,CHOT,CHOX,CHO,CHOP,CHET,CHEX,CHE,CHEP,CHUX,CHU,CHUP,CHURX,CHUR,CHYT,
   CHYX,CHY,CHYP,CHYRX,CHYR,RRAX,RRA,RRUOX,RRUO,RROT,RROX,RRO,RROP,RRET,RREX,RRE,RREP,RRUT,
   RRUX,RRU,RRUP,RRURX,RRUR,RRYT,RRYX,RRY,RRYP,RRYRX,RRYR,NRAT,NRAX,NRA,NRAP,NROX,NRO,NROP,
   NRET,NREX,NRE,NREP,NRUT,NRUX,NRU,NRUP,NRURX,NRUR,NRYT,NRYX,NRY,NRYP,NRYRX,NRYR,SHAT,SHAX,
   SHA,SHAP,SHUOX,SHUO,SHUOP,SHOT,SHOX,SHO,SHOP,SHET,SHEX,SHE,SHEP,SHUT,SHUX,SHU,SHUP,SHURX,
   SHUR,SHYT,SHYX,SHY,SHYP,SHYRX,SHYR,RAT,RAX,RA,RAP,RUOX,RUO,RUOP,ROT,ROX,RO,ROP,REX,RE,REP,
   RUT,RUX,RU,RUP,RURX,RUR,RYT,RYX,RY,RYP,RYRX,RYR,JIT,JIX,JI,JIP,JIET,JIEX,JIE,JIEP,JUOT,
   JUOX,JUO,JUOP,JOT,JOX,JO,JOP,JUT,JUX,JU,JUP,JURX,JUR,JYT,JYX,JY,JYP,JYRX,JYR,QIT,QIX,QI,
   QIP,QIET,QIEX,QIE,QIEP,QUOT,QUOX,QUO,QUOP,QOT,QOX,QO,QOP,QUT,QUX,QU,QUP,QURX,QUR,QYT,QYX,
   QY,QYP,QYRX,QYR,JJIT,JJIX,JJI,JJIP,JJIET,JJIEX,JJIE,JJIEP,JJUOX,JJUO,JJUOP,JJOT,JJOX,JJO,
   JJOP,JJUT,JJUX,JJU,JJUP,JJURX,JJUR,JJYT,JJYX,JJY,JJYP,NJIT,NJIX,NJI,NJIP,NJIET,NJIEX,NJIE,
   NJIEP,NJUOX,NJUO,NJOT,NJOX,NJO,NJOP,NJUX,NJU,NJUP,NJURX,NJUR,NJYT,NJYX,NJY,NJYP,NJYRX,NJYR,
   NYIT,NYIX,NYI,NYIP,NYIET,NYIEX,NYIE,NYIEP,NYUOX,NYUO,NYUOP,NYOT,NYOX,NYO,NYOP,NYUT,NYUX,
   NYU,NYUP,XIT,XIX,XI,XIP,XIET,XIEX,XIE,XIEP,XUOX,XUO,XOT,XOX,XO,XOP,XYT,XYX,XY,XYP,XYRX,XYR,
   YIT,YIX,YI,YIP,YIET,YIEX,YIE,YIEP,YUOT,YUOX,YUO,YUOP,YOT,YOX,YO,YOP,YUT,YUX,YU,YUP,YURX,
   YUR,YYT,YYX,YY,YYP,YYRX,YYR;A490 YI RADICAL:QOT,LI,KIT,NYIP,CYP,SSI,GGOP,GEP,MI,HXIT,LYR,
   BBUT,MOP,YO,PUT,HXUO,TAT,GA,ZUP,CYT,DDUR,BUR,GGUO,NYOP,TU,OP,JJUT,ZOT,PYT,HMO,YIT,VUR,SHY,
   VEP,ZA,JO,NZUP,JJY,GOT,JJIE,WO,DU,SHUR,LIE,CY,CUOP,CIP,HXOP,SHAT,ZUR,SHOP,CHE,ZZIET,NBIE,
   KE;A4D0 LISU LETTER:BA,PA,PHA,DA,TA,THA,GA,KA,KHA,JA,CA,CHA,DZA,TSA,TSHA,MA,NA,LA,SA,ZHA,
   ZA,NGA,HA,XA,HHA,FA,WA,SHA,YA,GHA,A,AE,E,EU,I,O,U,UE,UH,OE;A4F8 LISU LETTER TONE MYA:TI,,
   CYA,BO,NA,JEU;A4F9 LISU LETTER TONE:NA PO;A4FE LISU:PUNCTUATION COMMA,
   PUNCTUATION FULL STOP;A500 VAI SYLLABLE:EE,EEN,HEE,WEE,WEEN,PEE,BHEE,BEE,MBEE,KPEE,MGBEE,
   GBEE,FEE,VEE,TEE,THEE,DHEE,DHHEE,LEE,REE,DEE,NDEE,SEE,SHEE,ZEE,ZHEE,CEE,JEE,NJEE,YEE,KEE,
   NGGEE,GEE,MEE,NEE,NYEE,I,IN,HI,HIN,WI,WIN,PI,BHI,BI,MBI,KPI,MGBI,GBI,FI,VI,TI,THI,DHI,DHHI,
   LI,RI,DI,NDI,SI,SHI,ZI,ZHI,CI,JI,NJI,YI,KI,NGGI,GI,MI,NI,NYI,A,AN,NGAN,HA,HAN,WA,WAN,PA,
   BHA,BA,MBA,KPA,KPAN,MGBA,GBA,FA,VA,TA,THA,DHA,DHHA,LA,RA,DA,NDA,SA,SHA,ZA,ZHA,CA,JA,NJA,YA,
   KA,KAN,NGGA,GA,MA,NA,NYA,OO,OON,HOO,WOO,WOON,POO,BHOO,BOO,MBOO,KPOO,MGBOO,GBOO,FOO,VOO,TOO,
   THOO,DHOO,DHHOO,LOO,ROO,DOO,NDOO,SOO,SHOO,ZOO,ZHOO,COO,JOO,NJOO,YOO,KOO,NGGOO,GOO,MOO,NOO,
   NYOO,U,UN,HU,HUN,WU,WUN,PU,BHU,BU,MBU,KPU,MGBU,GBU,FU,VU,TU,THU,DHU,DHHU,LU,RU,DU,NDU,SU,
   SHU,ZU,ZHU,CU,JU,NJU,YU,KU,NGGU,GU,MU,NU,NYU,O,ON,NGON,HO,HON,WO,WON,PO,BHO,BO,MBO,KPO,
   MGBO,GBO,GBON,FO,VO,TO,THO,DHO,DHHO,LO,RO,DO,NDO,SO,SHO,ZO,ZHO,CO,JO,NJO,YO,KO,NGGO,GO,MO,
   NO,NYO,E,EN,NGEN,HE,HEN,WE,WEN,PE,BHE,BE,MBE,KPE,KPEN,MGBE,GBE,GBEN,FE,VE,TE,THE,DHE,DHHE,
   LE,RE,DE,NDE,SE,SHE,ZE,ZHE,CE,JE,NJE,YE,KE,NGGE,NGGEN,GE,GEN,ME,NE,NYE,NG,LENGTHENER;
   A60D VAI:COMMA,FULL STOP,QUESTION MARK;A610 VAI SYLLABLE NDOLE:FA,KA,SOO,*23,MA,DO;
   A613 VAI SYMBOL:FEENG,KEENG,TING,NII,BANG,FAA,TAA,DANG,DOONG,KUNG,TONG,DO-O,JONG;
   A620 VAI DIGIT:ZERO,ONE,TWO,THREE,FOUR,FIVE,SIX,SEVEN,EIGHT,NINE;
   A640 CYRILLIC CAPITAL LETTER:ZEMLYA,,DZELO,,REVERSED DZE,,IOTA,,DJERV,,MONOGRAPH UK,,
   BROAD OMEGA,,NEUTRAL YER,,YERU WITH BACK YER,*3,REVERSED YU,*3,CLOSED LITTLE YUS,,
   BLENDED YUS,*3,YN,,REVERSED TSE,,SOFT DE,,SOFT EL,,SOFT EM,,MONOCULAR O,,BINOCULAR O,,
   DOUBLE MONOCULAR O,*19,DWE,,DZWE,,ZHWE,,CCHE,,DZZE,,TE WITH MIDDLE HOOK,,TWE,,TSWE,,TSSE,,
   TCHE,,HWE,,SHWE,,DOUBLE O,,CROSSED O;A641 CYRILLIC SMALL LETTER:ZEMLYA,,DZELO,,
   REVERSED DZE,,IOTA,,DJERV,,MONOGRAPH UK,,BROAD OMEGA,,NEUTRAL YER,,YERU WITH BACK YER,*3,
   REVERSED YU,*3,CLOSED LITTLE YUS,,BLENDED YUS,*3,YN,,REVERSED TSE,,SOFT DE,,SOFT EL,,
   SOFT EM,,MONOCULAR O,,BINOCULAR O,,DOUBLE MONOCULAR O,*19,DWE,,DZWE,,ZHWE,,CCHE,,DZZE,,
   TE WITH MIDDLE HOOK,,TWE,,TSWE,,TSSE,,TCHE,,HWE,,SHWE,,DOUBLE O,,CROSSED O;
   A652 CYRILLIC CAPITAL LETTER IOTIFIED:YAT,*3,A,*5,CLOSED LITTLE YUS;
   A653 CYRILLIC SMALL LETTER IOTIFIED:YAT,*3,A,*5,CLOSED LITTLE YUS;
   A66E CYRILLIC:LETTER MULTIOCULAR O,*15,KAVYKA,PAYEROK;A66F COMBINING CYRILLIC:VZMET,
   TEN MILLIONS SIGN,HUNDRED MILLIONS SIGN,THOUSAND MILLIONS SIGN,*9,KAVYKA,PAYEROK;
   A673 :SLAVONIC ASTERISK;A674 COMBINING CYRILLIC LETTER:UKRAINIAN IE,I,YI,U,HARD SIGN,YERU,
   SOFT SIGN,OMEGA,*34,EF,IOTIFIED E;A69C MODIFIER LETTER:CYRILLIC HARD SIGN,
   CYRILLIC SOFT SIGN;A6A0 BAMUM LETTER:A,KA,U,KU,EE,REE,TAE,O,NYI,I,LA,PA,RII,RIEE,LEEEE,
   MEEEE,TAA,NDAA,NJAEM,M,SUU,MU,SHII,SI,SHEUX,SEUX,KYEE,KET,NUAE,NU,NJUAE,YOQ,SHU,YUQ,YA,
   NSHA,KEUX,PEUX,NJEE,NTEE,PUE,WUE,PEE,FEE,RU,LU,MI,NI,REUX,RAE,KEN,NGKWAEN,NGGA,NGA,SHO,
   PUAE,FU,FOM,WA,NA,LI,PI,LOQ,KO,MBEN,REN,MEN,MA,TI,KI,MO,MBAA,TET,KPA,TEN,NTUU,SAMBA,FAAMAE,
   KOVUU,KOGHOM;A6F0 BAMUM:COMBINING MARK KOQNDON,COMBINING MARK TUKWENTIS,NJAEMLI,FULL STOP,
   COLON,COMMA,SEMICOLON,QUESTION MARK;A700 MODIFIER LETTER CHINESE TONE:YIN PING,YANG PING,
   YIN SHANG,YANG SHANG,YIN QU,YANG QU,YIN RU,YANG RU;
   A708 MODIFIER LETTER:EXTRA-HIGH DOTTED TONE BAR,HIGH DOTTED TONE BAR,MID DOTTED TONE BAR,,
   EXTRA-LOW DOTTED TONE BAR,EXTRA-HIGH DOTTED LEFT-STEM TONE BAR,
   HIGH DOTTED LEFT-STEM TONE BAR,MID DOTTED LEFT-STEM TONE BAR,,
   EXTRA-LOW DOTTED LEFT-STEM TONE BAR,EXTRA-HIGH LEFT-STEM TONE BAR,HIGH LEFT-STEM TONE BAR,
   MID LEFT-STEM TONE BAR,,EXTRA-LOW LEFT-STEM TONE BAR,DOT VERTICAL BAR,DOT SLASH,
   DOT HORIZONTAL BAR,LOWER RIGHT CORNER ANGLE,*5,STRESS AND HIGH TONE,STRESS AND LOW TONE;
   A70B MODIFIER LETTER LOW:DOTTED TONE BAR,*4,DOTTED LEFT-STEM TONE BAR,*4,
   LEFT-STEM TONE BAR,*9,INVERTED EXCLAMATION MARK;A71B MODIFIER LETTER RAISED:UP ARROW,
   DOWN ARROW,EXCLAMATION MARK,INVERTED EXCLAMATION MARK;
   A722 LATIN CAPITAL LETTER:EGYPTOLOGICAL ALEF,,EGYPTOLOGICAL AIN,,HENG,,TZ,,TRESILLO,,
   CUATRILLO,,CUATRILLO WITH COMMA,*3,AA,,AO,,AU,,AV,,AV WITH HORIZONTAL BAR,,AY,,
   REVERSED C WITH DOT,*7,BROKEN L,*7,OO,*7,Q WITH STROKE THROUGH DESCENDER,,
   Q WITH DIAGONAL STROKE,*3,RUM ROTUNDA,,V WITH DIAGONAL STROKE,,VY,,VISIGOTHIC Z,,
   THORN WITH STROKE,,THORN WITH STROKE THROUGH DESCENDER,,VEND,,ET,,IS,,CON,*28,SALTILLO,*12,
   F WITH STROKE,,VOLAPUK AE,,VOLAPUK OE,,VOLAPUK UE,*12,REVERSED OPEN E,SCRIPT G,,
   SMALL CAPITAL I,*3,J WITH CROSSED-TAIL,CHI,BETA,,OMEGA,*3,GLOTTAL A,,GLOTTAL I,,GLOTTAL U,,
   OLD POLISH O,,ANGLICANA W,*13,CLOSED INSULAR G,*5,MIDDLE SCOTS S,,SIGMOID S,*28,
   REVERSED HALF H;A723 LATIN SMALL LETTER:EGYPTOLOGICAL ALEF,,EGYPTOLOGICAL AIN,,HENG,,TZ,,
   TRESILLO,,CUATRILLO,,CUATRILLO WITH COMMA,*3,AA,,AO,,AU,,AV,,AV WITH HORIZONTAL BAR,,AY,*9,
   BROKEN L,*7,OO,*7,Q WITH STROKE THROUGH DESCENDER,,Q WITH DIAGONAL STROKE,*3,RUM ROTUNDA,
   *3,VY,,VISIGOTHIC Z,,THORN WITH STROKE,,THORN WITH STROKE THROUGH DESCENDER,,VEND,,ET,,IS,,
   CON,,DUM,LUM,MUM,NUM,RUM,,TUM,UM,*19,SALTILLO,*14,VOLAPUK AE,,VOLAPUK OE,,VOLAPUK UE,*21,
   BETA,,OMEGA,*3,GLOTTAL A,,GLOTTAL I,,GLOTTAL U,,OLD POLISH O,,ANGLICANA W,*13,
   CLOSED INSULAR G,,DOUBLE THORN,,DOUBLE WYNN,,MIDDLE SCOTS S,,SIGMOID S;
   A730 LATIN LETTER SMALL CAPITAL:F,S;A73F LATIN SMALL LETTER REVERSED:C WITH DOT;
   A740 LATIN CAPITAL LETTER K WITH:STROKE,,DIAGONAL STROKE,,STROKE AND DIAGONAL STROKE;
   A741 LATIN SMALL LETTER K WITH:STROKE,,DIAGONAL STROKE,,STROKE AND DIAGONAL STROKE;
   A748 LATIN CAPITAL LETTER L WITH:HIGH STROKE;A749 LATIN SMALL LETTER L WITH:HIGH STROKE;
   A74A LATIN CAPITAL LETTER O WITH:LONG STROKE OVERLAY,,LOOP;
   A74B LATIN SMALL LETTER O WITH:LONG STROKE OVERLAY,,LOOP;
   A750 LATIN CAPITAL LETTER P WITH:STROKE THROUGH DESCENDER,,FLOURISH,,SQUIRREL TAIL;
   A751 LATIN SMALL LETTER P WITH:STROKE THROUGH DESCENDER,,FLOURISH,,SQUIRREL TAIL;
   A75A LATIN CAPITAL LETTER R:ROTUNDA;A75B LATIN SMALL LETTER R:ROTUNDA;
   A75F LATIN SMALL LETTER V WITH:DIAGONAL STROKE;A770 MODIFIER LETTER:US,*24,COLON,
   SHORT EQUALS SIGN;A776 LATIN LETTER SMALL CAPITAL:RUM,*56,Q;
   A779 LATIN CAPITAL LETTER INSULAR:D,,F,,G,*4,R,,S,,T;A77A LATIN SMALL LETTER INSULAR:D,,F,
   *6,R,,S,,T;A77E LATIN CAPITAL LETTER TURNED:INSULAR G,,L,*12,H,*34,K,T;
   A77F LATIN SMALL LETTER TURNED:INSULAR G,,L;A788 MODIFIER LETTER LOW:CIRCUMFLEX ACCENT;
   A78E LATIN SMALL LETTER L WITH:RETROFLEX HOOK AND BELT;A78F LATIN LETTER:SINOLOGICAL DOT;
   A790 LATIN CAPITAL LETTER N WITH:DESCENDER,*19,OBLIQUE STROKE;
   A791 LATIN SMALL LETTER N WITH:DESCENDER,*19,OBLIQUE STROKE;
   A792 LATIN CAPITAL LETTER C WITH:BAR,*49,PALATAL HOOK;A793 LATIN SMALL LETTER C WITH:BAR,
   PALATAL HOOK;A795 LATIN SMALL LETTER H WITH:PALATAL HOOK;
   A796 LATIN CAPITAL LETTER B WITH:FLOURISH;A797 LATIN SMALL LETTER B WITH:FLOURISH;
   A799 LATIN SMALL LETTER F WITH:STROKE;A7A0 LATIN CAPITAL LETTER G WITH:OBLIQUE STROKE;
   A7A1 LATIN SMALL LETTER G WITH:OBLIQUE STROKE;
   A7A2 LATIN CAPITAL LETTER K WITH:OBLIQUE STROKE;
   A7A3 LATIN SMALL LETTER K WITH:OBLIQUE STROKE;
   A7A6 LATIN CAPITAL LETTER R WITH:OBLIQUE STROKE;
   A7A7 LATIN SMALL LETTER R WITH:OBLIQUE STROKE;
   A7A8 LATIN CAPITAL LETTER S WITH:OBLIQUE STROKE,*28,HOOK,*3,SHORT STROKE OVERLAY;
   A7A9 LATIN SMALL LETTER S WITH:OBLIQUE STROKE,*32,SHORT STROKE OVERLAY;
   A7AA LATIN CAPITAL LETTER H WITH:HOOK;A7AD LATIN CAPITAL LETTER L WITH:BELT;
   A7B8 LATIN CAPITAL LETTER U WITH:STROKE;A7B9 LATIN SMALL LETTER U WITH:STROKE;
   A7C6 LATIN CAPITAL LETTER Z WITH:PALATAL HOOK;
   A7C7 LATIN CAPITAL LETTER D WITH:SHORT STROKE OVERLAY;
   A7C8 LATIN SMALL LETTER D WITH:SHORT STROKE OVERLAY;A7F2 MODIFIER LETTER CAPITAL:C,F,Q,*3,
   H WITH STROKE;A7F6 LATIN SMALL LETTER REVERSED:HALF H;
   A7F7 LATIN EPIGRAPHIC LETTER:SIDEWAYS I,*3,REVERSED F,REVERSED P,INVERTED M,I LONGA,
   ARCHAIC M;A7F9 MODIFIER LETTER SMALL:LIGATURE OE;A7FA LATIN LETTER SMALL CAPITAL TURNED:M;
   A800 SYLOTI NAGRI LETTER:A,I,,U,E,O,,KO,KHO,GO,GHO,,CO,CHO,JO,JHO,TTO,TTHO,DDO,DDHO,TO,THO,
   DO,DHO,NO,PO,PHO,BO,BHO,MO,RO,LO,RRO,SO,HO;A802 SYLOTI NAGRI:SIGN DVISVARA,*3,SIGN HASANTA,
   *4,SIGN ANUSVARA,*28,POETRY MARK-1*4,SIGN ALTERNATE HASANTA;A823 SYLOTI NAGRI VOWEL SIGN:A,
   I,U,E,OO;A830 NORTH INDIC FRACTION:ONE QUARTER,ONE HALF,THREE QUARTERS,ONE SIXTEENTH,
   ONE EIGHTH,THREE SIXTEENTHS;A836 NORTH INDIC:QUARTER MARK,PLACEHOLDER MARK,RUPEE MARK,
   QUANTITY MARK;A840 PHAGS-PA LETTER:KA,KHA,GA,NGA,CA,CHA,JA,NYA,TA,THA,DA,NA,PA,PHA,BA,MA,
   TSA,TSHA,DZA,WA,ZHA,ZA,SMALL A,YA,RA,LA,SHA,SA,HA,A,I,U,E,O,QA,XA,FA,GGA,EE,,,TTA,TTHA,DDA,
   NNA,ALTERNATE YA,VOICELESS SHA,VOICED HA,ASPIRATED FA,,,CANDRABINDU;
   A867 PHAGS-PA:SUBJOINED LETTER WA,SUBJOINED LETTER YA,*8,SUBJOINED LETTER RA,
   SUPERFIXED LETTER RA,,SINGLE HEAD MARK,DOUBLE HEAD MARK,MARK SHAD,MARK DOUBLE SHAD;
   A880 SAURASHTRA:SIGN ANUSVARA,SIGN VISARGA,*50,CONSONANT SIGN HAARU,*15,SIGN VIRAMA,
   SIGN CANDRABINDU,*8,DANDA,DOUBLE DANDA;A882 SAURASHTRA LETTER:A,AA,I,II,U,UU,VOCALIC R,
   VOCALIC RR,VOCALIC L,VOCALIC LL,E,EE,AI,O,OO,AU,KA,KHA,GA,GHA,NGA,CA,CHA,JA,JHA,NYA,TTA,
   TTHA,DDA,DDHA,NNA,TA,THA,DA,DHA,NA,PA,PHA,BA,BHA,MA,YA,RA,LA,VA,SHA,SSA,SA,HA,LLA;
   A8B5 SAURASHTRA VOWEL SIGN:AA,I,II,U,UU,VOCALIC R,VOCALIC RR,VOCALIC L,VOCALIC LL,E,EE,AI,
   O,OO,AU;A8D0 SAURASHTRA DIGIT:ZERO,ONE,TWO,THREE,FOUR,FIVE,SIX,SEVEN,EIGHT,NINE;
   A8E0 COMBINING DEVANAGARI DIGIT:ZERO,ONE,TWO,THREE,FOUR,FIVE,SIX,SEVEN,EIGHT,NINE;
   A8EA COMBINING DEVANAGARI LETTER:A,U,KA,NA,PA,RA,VI;
   A8F1 COMBINING DEVANAGARI:SIGN AVAGRAHA;A8F2 DEVANAGARI SIGN:SPACING CANDRABINDU,
   CANDRABINDU VIRAMA,DOUBLE CANDRABINDU VIRAMA,CANDRABINDU TWO,CANDRABINDU THREE,
   CANDRABINDU AVAGRAHA,PUSHPIKA,*3,SIDDHAM;A8F9 DEVANAGARI:GAP FILLER,CARET,HEADSTROKE,,
   JAIN OM;A8FE DEVANAGARI LETTER:AY;A8FF DEVANAGARI VOWEL SIGN:AY;A900 KAYAH LI DIGIT:ZERO,
   ONE,TWO,THREE,FOUR,FIVE,SIX,SEVEN,EIGHT,NINE;A90A KAYAH LI LETTER:KA,KHA,GA,NGA,SA,SHA,ZA,
   NYA,TA,HTA,NA,PA,PHA,MA,DA,BA,RA,YA,LA,WA,THA,HA,VA,CA,A,OE,I,OO;A926 KAYAH LI VOWEL:UE,E,
   U,EE,O;A92B KAYAH LI:TONE PLOPHU,TONE CALYA,TONE CALYA PLOPHU,SIGN CWI,SIGN SHYA;
   A930 REJANG LETTER:KA,GA,NGA,TA,DA,NA,PA,BA,MA,CA,JA,NYA,SA,RA,LA,YA,WA,HA,MBA,NGGA,NDA,
   NYJA,A;A947 REJANG VOWEL SIGN:I,U,E,AI,O,AU,EU,EA;A94F REJANG:CONSONANT SIGN NG,
   CONSONANT SIGN N,CONSONANT SIGN R,CONSONANT SIGN H,VIRAMA,*11,SECTION MARK;
   A960 HANGUL CHOSEONG:TIKEUT-MIEUM,TIKEUT-PIEUP,TIKEUT-SIOS,TIKEUT-CIEUC,RIEUL-KIYEOK,
   RIEUL-SSANGKIYEOK,RIEUL-TIKEUT,RIEUL-SSANGTIKEUT,RIEUL-MIEUM,RIEUL-PIEUP,RIEUL-SSANGPIEUP,
   RIEUL-KAPYEOUNPIEUP,RIEUL-SIOS,RIEUL-CIEUC,RIEUL-KHIEUKH,MIEUM-KIYEOK,MIEUM-TIKEUT,
   MIEUM-SIOS,PIEUP-SIOS-THIEUTH,PIEUP-KHIEUKH,PIEUP-HIEUH,SSANGSIOS-PIEUP,IEUNG-RIEUL,
   IEUNG-HIEUH,SSANGCIEUC-HIEUH,SSANGTHIEUTH,PHIEUPH-HIEUH,HIEUH-SIOS,SSANGYEORINHIEUH;
   A980 JAVANESE SIGN:PANYANGGA,CECAK,LAYAR,WIGNYAN,*47,CECAK TELU;A984 JAVANESE LETTER:A,
   I KAWI,I,II,U,PA CEREK,NGA LELET,NGA LELET RASWADI,E,AI,O,KA,KA SASAK,KA MURDA,GA,GA MURDA,
   NGA,CA,CA MURDA,JA,NYA MURDA,JA MAHAPRANA,NYA,TTA,TTA MAHAPRANA,DDA,DDA MAHAPRANA,NA MURDA,
   TA,TA MURDA,DA,DA MAHAPRANA,NA,PA,PA MURDA,BA,BA MURDA,MA,YA,RA,RA AGUNG,LA,WA,SA MURDA,
   SA MAHAPRANA,SA,HA;A9B4 JAVANESE VOWEL SIGN:TARUNG,TOLONG,WULU,WULU MELIK,SUKU,SUKU MENDUT,
   TALING,DIRGA MURE,PEPET;A9BD JAVANESE:CONSONANT SIGN KERET,CONSONANT SIGN PENGKAL,
   CONSONANT SIGN CAKRA,PANGKON,LEFT RERENGGAN,RIGHT RERENGGAN,*10,TURNED PADA PISELEH,,
   PANGRANGKEP;A9C3 JAVANESE PADA:ANDAP,MADYA,LUHUR,WINDU,PANGKAT,LINGSA,LUNGSI,ADEG,
   ADEG ADEG,PISELEH,*17,TIRTA TUMETES,ISEN-ISEN;A9D0 JAVANESE DIGIT:ZERO,ONE,TWO,THREE,FOUR,
   FIVE,SIX,SEVEN,EIGHT,NINE;A9E0 MYANMAR LETTER SHAN:GHA,CHA,JHA,NNA,BHA;
   A9E5 MYANMAR SIGN SHAN:SAW;A9E6 MYANMAR:MODIFIER LETTER SHAN REDUPLICATION;
   A9E7 MYANMAR LETTER TAI LAING:NYA,FA,GA,GHA,JA,JHA,DDA,DDHA,NNA,*10,LLA,DA,DHA,BA,BHA;
   A9F0 MYANMAR TAI LAING DIGIT:ZERO,ONE,TWO,THREE,FOUR,FIVE,SIX,SEVEN,EIGHT,NINE;
   AA00 CHAM LETTER:A,I,U,E,AI,O,KA,KHA,GA,GHA,NGUE,NGA,CHA,CHHA,JA,JHA,NHUE,NHA,NHJA,TA,THA,
   DA,DHA,NUE,NA,DDA,PA,PPA,PHA,BA,BHA,MUE,MA,BBA,YA,RA,LA,VA,SSA,SA,HA;
   AA29 CHAM VOWEL SIGN:AA,I,II,EI,U,OE,O,AI,AU,UE;AA33 CHAM CONSONANT SIGN:YA,RA,LA,WA,*12,
   FINAL NG,*8,FINAL M,FINAL H;AA40 CHAM LETTER FINAL:K,G,NG,,CH,T,N,P,Y,R,L,SS;
   AA50 CHAM DIGIT:ZERO,ONE,TWO,THREE,FOUR,FIVE,SIX,SEVEN,EIGHT,NINE;
   AA5C CHAM:PUNCTUATION SPIRAL,PUNCTUATION DANDA,PUNCTUATION DOUBLE DANDA,
   PUNCTUATION TRIPLE DANDA;AA60 MYANMAR LETTER KHAMTI:GA,CA,CHA,JA,JHA,NYA,TTA,TTHA,DDA,DDHA,
   DHA,NA,SA,HA,HHA,FA,,XA,ZA,RA;AA70 MYANMAR:MODIFIER LETTER KHAMTI REDUPLICATION,*3,
   LOGOGRAM KHAMTI OAY,LOGOGRAM KHAMTI QN,LOGOGRAM KHAMTI HM;
   AA77 MYANMAR SYMBOL:AITON EXCLAMATION,AITON ONE,AITON TWO;AA7A MYANMAR LETTER:AITON RA,*3,
   SHWE PALAUNG CHA,SHWE PALAUNG SHA;AA7B MYANMAR SIGN:PAO KAREN TONE,TAI LAING TONE-2,
   TAI LAING TONE-5;AA80 TAI VIET LETTER LOW:KO,,KHO,,KHHO,,GO,,NGO,,CO,,CHO,,SO,,NYO,,DO,,TO,
   ,THO,,NO,,BO,,PO,,PHO,,FO,,MO,,YO,,RO,,LO,,VO,,HO,,O;AA81 TAI VIET LETTER HIGH:KO,,KHO,,
   KHHO,,GO,,NGO,,CO,,CHO,,SO,,NYO,,DO,,TO,,THO,,NO,,BO,,PO,,PHO,,FO,,MO,,YO,,RO,,LO,,VO,,HO,,
   O;AAB0 TAI VIET:MAI KANG,*6,MAI KHIT,*7,TONE MAI EK,TONE MAI NUENG,TONE MAI THO,
   TONE MAI SONG;AAB1 TAI VIET VOWEL:AA,I,UE,U,E,O,,IA,UEA,UA,AUE,AY,AN,AM;
   AADB TAI VIET SYMBOL:KON,NUENG,SAM,HO HOI,KOI KOI;AAE0 MEETEI MAYEK LETTER:E,O,CHA,NYA,TTA,
   TTHA,DDA,DDHA,NNA,SHA,SSA;AAEB MEETEI MAYEK VOWEL SIGN:II,UU,AAI,AU,AAU,*5,VISARGA;
   AAF0 MEETEI MAYEK:CHEIKHAN,AHANG KHUDAM,ANJI,SYLLABLE REPETITION MARK,WORD REPETITION MARK,
   ,VIRAMA;AB01 ETHIOPIC SYLLABLE:TTHU,TTHI,TTHAA,TTHEE,TTHE,TTHO,,,DDHU,DDHI,DDHAA,DDHEE,
   DDHE,DDHO,,,DZU,DZI,DZAA,DZEE,DZE,DZO,*9,CCHHA,CCHHU,CCHHI,CCHHAA,CCHHEE,CCHHE,CCHHO,,BBA,
   BBU,BBI,BBAA,BBEE,BBE,BBO;AB30 LATIN SMALL LETTER:BARRED ALPHA,,BLACKLETTER E,BARRED E,,
   LENIS F,SCRIPT G WITH CROSSED-TAIL,*5,ENG WITH CROSSED-TAIL,BLACKLETTER O,
   BLACKLETTER O WITH STROKE,,INVERTED OE,*4,STIRRUP R,,,DOUBLE R,,DOUBLE R WITH CROSSED-TAIL,
   SCRIPT R,SCRIPT R WITH RING,BASELINE ESH,,,UI,,,CHI,CHI WITH LOW RIGHT RING,
   CHI WITH LOW LEFT SERIF,*10,SAKHA YAT,IOTIFIED E,,UO,INVERTED ALPHA,,
   DZ DIGRAPH WITH RETROFLEX HOOK,TS DIGRAPH WITH RETROFLEX HOOK;
   AB31 LATIN SMALL LETTER A:REVERSED-SCHWA;AB34 LATIN SMALL LETTER E WITH:FLOURISH;
   AB37 LATIN SMALL LETTER L WITH:INVERTED LAZY S,DOUBLE MIDDLE TILDE,MIDDLE RING;
   AB3A LATIN SMALL LETTER M WITH:CROSSED-TAIL;AB3B LATIN SMALL LETTER N WITH:CROSSED-TAIL;
   AB3F LATIN SMALL LETTER OPEN:O WITH STROKE,*34,OE;
   AB41 LATIN SMALL LETTER TURNED:OE WITH STROKE,OE WITH HORIZONTAL STROKE,O OPEN-O,
   O OPEN-O WITH STROKE,*12,UI;AB46 LATIN LETTER SMALL CAPITAL:R WITH RIGHT LEG;
   AB47 LATIN SMALL LETTER R:WITHOUT HANDLE;AB49 LATIN SMALL LETTER R WITH:CROSSED-TAIL;
   AB4E LATIN SMALL LETTER U WITH:SHORT RIGHT LEG,*3,LEFT HOOK;
   AB4F LATIN SMALL LETTER U:BAR WITH SHORT RIGHT LEG;
   AB56 LATIN SMALL LETTER X WITH:LOW RIGHT RING,LONG LEFT LEG,
   LONG LEFT LEG AND LOW RIGHT RING,LONG LEFT LEG WITH SERIF;
   AB5A LATIN SMALL LETTER Y WITH:SHORT RIGHT LEG;AB5B MODIFIER:BREVE WITH INVERTED BREVE;
   AB5C MODIFIER LETTER SMALL:HENG,,,U WITH LEFT HOOK;
   AB5D MODIFIER LETTER SMALL L WITH:INVERTED LAZY S,MIDDLE TILDE;
   AB65 GREEK LETTER SMALL CAPITAL:OMEGA;AB68 LATIN SMALL LETTER TURNED R WITH:MIDDLE TILDE;
   AB69 MODIFIER LETTER SMALL TURNED:W;AB6A MODIFIER LETTER:LEFT TACK,RIGHT TACK;
   AB70 CHEROKEE SMALL LETTER:A,E,I,O,U,V,GA,KA,GE,GI,GO,GU,GV,HA,HE,HI,HO,HU,HV,LA,LE,LI,LO,
   LU,LV,MA,ME,MI,MO,MU,NA,HNA,NAH,NE,NI,NO,NU,NV,QUA,QUE,QUI,QUO,QUU*2,SA,S,SE,SI,SO,SU,SV,
   DA,TA,DE,TE,DI,TI,DO,DU,DV,DLA,TLA,TLE,TLI,TLO,TLU*2,TSA,TSE,TSI,TSO,TSU*2,WA,WE,WI,WO,WU,
   WV,YA;ABC0 MEETEI MAYEK LETTER:KOK,SAM,LAI,MIT,PA,NA,CHIL,TIL,KHOU,NGOU,THOU,WAI,YANG,HUK,
   UN,I,PHAM,ATIYA,GOK,JHAM,RAI,BA,JIL,DIL,GHOU,DHOU,BHAM,KOK LONSUM,LAI LONSUM,MIT LONSUM,
   PA LONSUM,NA LONSUM,TIL LONSUM,NGOU LONSUM,I LONSUM;ABE3 MEETEI MAYEK VOWEL SIGN:ONAP,INAP,
   ANAP,YENAP,SOUNAP,UNAP,CHEINAP,NUNG;ABEB MEETEI MAYEK:CHEIKHEI,LUM IYEK,APUN IYEK;
   ABF0 MEETEI MAYEK DIGIT:ZERO,ONE,TWO,THREE,FOUR,FIVE,SIX,SEVEN,EIGHT,NINE;
   D7B0 HANGUL JUNGSEONG:O-YEO,O-O-I,YO-A,YO-AE,YO-EO,U-YEO,U-I-I,YU-AE,YU-O,EU-A,EU-EO,EU-E,
   EU-O,I-YA-O,I-YAE,I-YEO,I-YE,I-O-I,I-YO,I-YU,I-I,ARAEA-A,ARAEA-E;
   D7CB HANGUL JONGSEONG:NIEUN-RIEUL,NIEUN-CHIEUCH,SSANGTIKEUT,SSANGTIKEUT-PIEUP,TIKEUT-PIEUP,
   TIKEUT-SIOS,TIKEUT-SIOS-KIYEOK,TIKEUT-CIEUC,TIKEUT-CHIEUCH,TIKEUT-THIEUTH,
   RIEUL-SSANGKIYEOK,RIEUL-KIYEOK-HIEUH,SSANGRIEUL-KHIEUKH,RIEUL-MIEUM-HIEUH,
   RIEUL-PIEUP-TIKEUT,RIEUL-PIEUP-PHIEUPH,RIEUL-YESIEUNG,RIEUL-YEORINHIEUH-HIEUH,
   KAPYEOUNRIEUL,MIEUM-NIEUN,MIEUM-SSANGNIEUN,SSANGMIEUM,MIEUM-PIEUP-SIOS,MIEUM-CIEUC,
   PIEUP-TIKEUT,PIEUP-RIEUL-PHIEUPH,PIEUP-MIEUM,SSANGPIEUP,PIEUP-SIOS-TIKEUT,PIEUP-CIEUC,
   PIEUP-CHIEUCH,SIOS-MIEUM,SIOS-KAPYEOUNPIEUP,SSANGSIOS-KIYEOK,SSANGSIOS-TIKEUT,SIOS-PANSIOS,
   SIOS-CIEUC,SIOS-CHIEUCH,SIOS-THIEUTH,SIOS-HIEUH,PANSIOS-PIEUP,PANSIOS-KAPYEOUNPIEUP,
   YESIEUNG-MIEUM,YESIEUNG-HIEUH,CIEUC-PIEUP,CIEUC-SSANGPIEUP,SSANGCIEUC,PHIEUPH-SIOS,
   PHIEUPH-THIEUTH;FB00 LATIN SMALL LIGATURE:FF,FI,FL,FFI,FFL,LONG S T,ST;
   FB13 ARMENIAN SMALL LIGATURE:MEN NOW,MEN ECH,MEN INI,VEW NOW,MEN XEH;
   FB1D HEBREW LETTER:YOD WITH HIRIQ,,,ALTERNATIVE AYIN,*8,ALTERNATIVE PLUS SIGN,*4,
   ALEF WITH PATAH,ALEF WITH QAMATS,ALEF WITH MAPIQ,BET WITH DAGESH,GIMEL WITH DAGESH,
   DALET WITH DAGESH,HE WITH MAPIQ,VAV WITH DAGESH,ZAYIN WITH DAGESH,,TET WITH DAGESH,
   YOD WITH DAGESH,,KAF WITH DAGESH,LAMED WITH DAGESH,,MEM WITH DAGESH,,NUN WITH DAGESH,
   SAMEKH WITH DAGESH,,,PE WITH DAGESH,,TSADI WITH DAGESH,QOF WITH DAGESH,RESH WITH DAGESH,,
   TAV WITH DAGESH,VAV WITH HOLAM,BET WITH RAFE,KAF WITH RAFE,PE WITH RAFE;
   FB1E HEBREW POINT:JUDEO-SPANISH VARIKA;FB1F HEBREW LIGATURE:YIDDISH YOD YOD PATAH,*47,
   ALEF LAMED;FB21 HEBREW LETTER WIDE:ALEF,DALET,HE,KAF,LAMED,FINAL MEM,RESH,TAV;
   FB2A HEBREW LETTER SHIN WITH:SHIN DOT,SIN DOT,DAGESH AND SHIN DOT,DAGESH AND SIN DOT,*27,
   DAGESH;FB3A HEBREW LETTER FINAL:KAF WITH DAGESH,*8,PE WITH DAGESH;
   FB50 ARABIC LETTER ALEF:WASLA ISOLATED FORM,WASLA FINAL FORM;
   FB52 ARABIC LETTER:BEEH ISOLATED FORM,BEEH FINAL FORM,BEEH INITIAL FORM,BEEH MEDIAL FORM,
   *4,BEHEH ISOLATED FORM,BEHEH FINAL FORM,BEHEH INITIAL FORM,BEHEH MEDIAL FORM,
   TTEHEH ISOLATED FORM,TTEHEH FINAL FORM,TTEHEH INITIAL FORM,TTEHEH MEDIAL FORM,
   TEHEH ISOLATED FORM,TEHEH FINAL FORM,TEHEH INITIAL FORM,TEHEH MEDIAL FORM,*4,
   VEH ISOLATED FORM,VEH FINAL FORM,VEH INITIAL FORM,VEH MEDIAL FORM,PEHEH ISOLATED FORM,
   PEHEH FINAL FORM,PEHEH INITIAL FORM,PEHEH MEDIAL FORM,DYEH ISOLATED FORM,DYEH FINAL FORM,
   DYEH INITIAL FORM,DYEH MEDIAL FORM,NYEH ISOLATED FORM,NYEH FINAL FORM,NYEH INITIAL FORM,
   NYEH MEDIAL FORM,*4,TCHEHEH ISOLATED FORM,TCHEHEH FINAL FORM,TCHEHEH INITIAL FORM,
   TCHEHEH MEDIAL FORM,DDAHAL ISOLATED FORM,DDAHAL FINAL FORM,DAHAL ISOLATED FORM,
   DAHAL FINAL FORM,DUL ISOLATED FORM,DUL FINAL FORM,DDAL ISOLATED FORM,DDAL FINAL FORM,
   JEH ISOLATED FORM,JEH FINAL FORM,RREH ISOLATED FORM,RREH FINAL FORM,*8,GUEH ISOLATED FORM,
   GUEH FINAL FORM,GUEH INITIAL FORM,GUEH MEDIAL FORM,NGOEH ISOLATED FORM,NGOEH FINAL FORM,
   NGOEH INITIAL FORM,NGOEH MEDIAL FORM,,,RNOON ISOLATED FORM,RNOON FINAL FORM,
   RNOON INITIAL FORM,RNOON MEDIAL FORM,*47,NG ISOLATED FORM,NG FINAL FORM,NG INITIAL FORM,
   NG MEDIAL FORM,U ISOLATED FORM,U FINAL FORM,OE ISOLATED FORM,OE FINAL FORM,
   YU ISOLATED FORM,YU FINAL FORM,U WITH HAMZA ABOVE ISOLATED FORM,VE ISOLATED FORM,
   VE FINAL FORM,*4,E ISOLATED FORM,E FINAL FORM,E INITIAL FORM,E MEDIAL FORM,
   UIGHUR KAZAKH KIRGHIZ ALEF MAKSURA INITIAL FORM,
   UIGHUR KAZAKH KIRGHIZ ALEF MAKSURA MEDIAL FORM;FB56 ARABIC LETTER PEH:ISOLATED FORM,
   FINAL FORM,INITIAL FORM,MEDIAL FORM;FB66 ARABIC LETTER TTEH:ISOLATED FORM,FINAL FORM,
   INITIAL FORM,MEDIAL FORM;FB7A ARABIC LETTER TCHEH:ISOLATED FORM,FINAL FORM,INITIAL FORM,
   MEDIAL FORM;FB8E ARABIC LETTER KEHEH:ISOLATED FORM,FINAL FORM,INITIAL FORM,MEDIAL FORM;
   FB92 ARABIC LETTER GAF:ISOLATED FORM,FINAL FORM,INITIAL FORM,MEDIAL FORM;
   FB9E ARABIC LETTER NOON:GHUNNA ISOLATED FORM,GHUNNA FINAL FORM;
   FBA4 ARABIC LETTER HEH:WITH YEH ABOVE ISOLATED FORM,WITH YEH ABOVE FINAL FORM,*4,
   DOACHASHMEE ISOLATED FORM,DOACHASHMEE FINAL FORM,DOACHASHMEE INITIAL FORM,
   DOACHASHMEE MEDIAL FORM;FBA6 ARABIC LETTER HEH GOAL:ISOLATED FORM,FINAL FORM,INITIAL FORM,
   MEDIAL FORM;FBAE ARABIC LETTER YEH BARREE:ISOLATED FORM,FINAL FORM;
   FBB0 ARABIC LETTER YEH BARREE WITH:HAMZA ABOVE ISOLATED FORM,HAMZA ABOVE FINAL FORM;
   FBB2 ARABIC SYMBOL:DOT ABOVE,DOT BELOW,TWO DOTS ABOVE,TWO DOTS BELOW,THREE DOTS ABOVE,
   THREE DOTS BELOW,THREE DOTS POINTING DOWNWARDS ABOVE,THREE DOTS POINTING DOWNWARDS BELOW,
   FOUR DOTS ABOVE,FOUR DOTS BELOW,DOUBLE VERTICAL BAR BELOW,TWO DOTS VERTICALLY ABOVE,
   TWO DOTS VERTICALLY BELOW,RING,SMALL TAH ABOVE,SMALL TAH BELOW,WASLA ABOVE;
   FBE0 ARABIC LETTER KIRGHIZ:OE ISOLATED FORM,OE FINAL FORM,YU ISOLATED FORM,YU FINAL FORM;
   FBEA ARABIC LIGATURE YEH WITH HAMZA ABOVE WITH:ALEF ISOLATED FORM,ALEF FINAL FORM,
   AE ISOLATED FORM,AE FINAL FORM,WAW ISOLATED FORM,WAW FINAL FORM,U ISOLATED FORM,
   U FINAL FORM,OE ISOLATED FORM,OE FINAL FORM,YU ISOLATED FORM,YU FINAL FORM,E ISOLATED FORM,
   E FINAL FORM,E INITIAL FORM,*7,JEEM ISOLATED FORM,HAH ISOLATED FORM,MEEM ISOLATED FORM,
   ALEF MAKSURA ISOLATED FORM,YEH ISOLATED FORM;
   FBF9 ARABIC LIGATURE:UIGHUR KIRGHIZ YEH WITH HAMZA ABOVE WITH ALEF MAKSURA ISOLATED FORM,
   UIGHUR KIRGHIZ YEH WITH HAMZA ABOVE WITH ALEF MAKSURA FINAL FORM,
   UIGHUR KIRGHIZ YEH WITH HAMZA ABOVE WITH ALEF MAKSURA INITIAL FORM,*44,
   ZAH WITH MEEM ISOLATED FORM,*50,THAL WITH SUPERSCRIPT ALEF ISOLATED FORM,
   REH WITH SUPERSCRIPT ALEF ISOLATED FORM,ALEF MAKSURA WITH SUPERSCRIPT ALEF ISOLATED FORM,
   *50,ALEF MAKSURA WITH SUPERSCRIPT ALEF FINAL FORM,*40,ZAH WITH MEEM INITIAL FORM;
   FBFC ARABIC LETTER FARSI YEH:ISOLATED FORM,FINAL FORM,INITIAL FORM,MEDIAL FORM;
   FC05 ARABIC LIGATURE BEH WITH:JEEM ISOLATED FORM,HAH ISOLATED FORM,KHAH ISOLATED FORM,
   MEEM ISOLATED FORM,ALEF MAKSURA ISOLATED FORM,YEH ISOLATED FORM;
   FC0B ARABIC LIGATURE TEH WITH JEEM:ISOLATED FORM;
   FC0C ARABIC LIGATURE TEH WITH HAH:ISOLATED FORM;
   FC0D ARABIC LIGATURE TEH WITH KHAH:ISOLATED FORM;
   FC0E ARABIC LIGATURE TEH WITH MEEM:ISOLATED FORM;
   FC0F ARABIC LIGATURE TEH WITH:ALEF MAKSURA ISOLATED FORM,YEH ISOLATED FORM;
   FC11 ARABIC LIGATURE THEH WITH:JEEM ISOLATED FORM,MEEM ISOLATED FORM,
   ALEF MAKSURA ISOLATED FORM,YEH ISOLATED FORM;
   FC15 ARABIC LIGATURE JEEM WITH:HAH ISOLATED FORM;
   FC16 ARABIC LIGATURE JEEM WITH MEEM:ISOLATED FORM;
   FC17 ARABIC LIGATURE HAH WITH:JEEM ISOLATED FORM,MEEM ISOLATED FORM;
   FC19 ARABIC LIGATURE KHAH WITH:JEEM ISOLATED FORM,HAH ISOLATED FORM,MEEM ISOLATED FORM;
   FC1C ARABIC LIGATURE SEEN WITH JEEM:ISOLATED FORM;
   FC1D ARABIC LIGATURE SEEN WITH:HAH ISOLATED FORM;
   FC1E ARABIC LIGATURE SEEN WITH KHAH:ISOLATED FORM;
   FC1F ARABIC LIGATURE SEEN WITH MEEM:ISOLATED FORM;
   FC20 ARABIC LIGATURE SAD WITH HAH:ISOLATED FORM;
   FC21 ARABIC LIGATURE SAD WITH:MEEM ISOLATED FORM;
   FC22 ARABIC LIGATURE DAD WITH:JEEM ISOLATED FORM,HAH ISOLATED FORM,KHAH ISOLATED FORM,
   MEEM ISOLATED FORM;FC26 ARABIC LIGATURE TAH WITH:HAH ISOLATED FORM;
   FC27 ARABIC LIGATURE TAH WITH MEEM:ISOLATED FORM;
   FC29 ARABIC LIGATURE AIN WITH:JEEM ISOLATED FORM;
   FC2A ARABIC LIGATURE AIN WITH MEEM:ISOLATED FORM;
   FC2B ARABIC LIGATURE GHAIN WITH:JEEM ISOLATED FORM;
   FC2C ARABIC LIGATURE GHAIN WITH MEEM:ISOLATED FORM;
   FC2D ARABIC LIGATURE FEH WITH:JEEM ISOLATED FORM,HAH ISOLATED FORM,KHAH ISOLATED FORM,
   MEEM ISOLATED FORM,ALEF MAKSURA ISOLATED FORM,YEH ISOLATED FORM;
   FC33 ARABIC LIGATURE QAF WITH:HAH ISOLATED FORM,,ALEF MAKSURA ISOLATED FORM,
   YEH ISOLATED FORM;FC34 ARABIC LIGATURE QAF WITH MEEM:ISOLATED FORM;
   FC37 ARABIC LIGATURE KAF WITH:ALEF ISOLATED FORM,JEEM ISOLATED FORM,HAH ISOLATED FORM,
   KHAH ISOLATED FORM,LAM ISOLATED FORM,,ALEF MAKSURA ISOLATED FORM,YEH ISOLATED FORM;
   FC3C ARABIC LIGATURE KAF WITH MEEM:ISOLATED FORM;
   FC3F ARABIC LIGATURE LAM WITH JEEM:ISOLATED FORM;
   FC40 ARABIC LIGATURE LAM WITH HAH:ISOLATED FORM;
   FC41 ARABIC LIGATURE LAM WITH:KHAH ISOLATED FORM,,,YEH ISOLATED FORM;
   FC42 ARABIC LIGATURE LAM WITH MEEM:ISOLATED FORM;
   FC43 ARABIC LIGATURE LAM WITH ALEF:MAKSURA ISOLATED FORM;
   FC45 ARABIC LIGATURE MEEM WITH JEEM:ISOLATED FORM;
   FC46 ARABIC LIGATURE MEEM WITH HAH:ISOLATED FORM;
   FC47 ARABIC LIGATURE MEEM WITH KHAH:ISOLATED FORM;
   FC48 ARABIC LIGATURE MEEM WITH:MEEM ISOLATED FORM,ALEF MAKSURA ISOLATED FORM,
   YEH ISOLATED FORM,*61,ALEF FINAL FORM,MEEM FINAL FORM;
   FC4B ARABIC LIGATURE NOON WITH JEEM:ISOLATED FORM;
   FC4C ARABIC LIGATURE NOON WITH HAH:ISOLATED FORM;
   FC4D ARABIC LIGATURE NOON WITH:KHAH ISOLATED FORM,,ALEF MAKSURA ISOLATED FORM,
   YEH ISOLATED FORM,*57,REH FINAL FORM,ZAIN FINAL FORM,,NOON FINAL FORM,
   ALEF MAKSURA FINAL FORM,YEH FINAL FORM;FC4E ARABIC LIGATURE NOON WITH MEEM:ISOLATED FORM,
   *61,FINAL FORM;FC51 ARABIC LIGATURE HEH WITH:JEEM ISOLATED FORM,MEEM ISOLATED FORM,
   ALEF MAKSURA ISOLATED FORM,YEH ISOLATED FORM;
   FC55 ARABIC LIGATURE YEH WITH:JEEM ISOLATED FORM,HAH ISOLATED FORM,KHAH ISOLATED FORM,,
   ALEF MAKSURA ISOLATED FORM,YEH ISOLATED FORM,*54,REH FINAL FORM,ZAIN FINAL FORM,,
   NOON FINAL FORM,ALEF MAKSURA FINAL FORM,YEH FINAL FORM;
   FC58 ARABIC LIGATURE YEH WITH MEEM:ISOLATED FORM,*58,FINAL FORM;
   FC5E ARABIC LIGATURE SHADDA WITH:DAMMATAN ISOLATED FORM,KASRATAN ISOLATED FORM,
   FATHA ISOLATED FORM,DAMMA ISOLATED FORM,KASRA ISOLATED FORM,SUPERSCRIPT ALEF ISOLATED FORM;
   FC64 ARABIC LIGATURE YEH WITH HAMZA ABOVE WITH:REH FINAL FORM,ZAIN FINAL FORM,
   MEEM FINAL FORM,NOON FINAL FORM,ALEF MAKSURA FINAL FORM,YEH FINAL FORM,*45,
   JEEM INITIAL FORM,HAH INITIAL FORM,KHAH INITIAL FORM,MEEM INITIAL FORM,HEH INITIAL FORM;
   FC6A ARABIC LIGATURE BEH WITH:REH FINAL FORM,ZAIN FINAL FORM,MEEM FINAL FORM,
   NOON FINAL FORM,ALEF MAKSURA FINAL FORM,YEH FINAL FORM,*44,JEEM INITIAL FORM,
   HAH INITIAL FORM,KHAH INITIAL FORM,MEEM INITIAL FORM,HEH INITIAL FORM;
   FC70 ARABIC LIGATURE TEH WITH:REH FINAL FORM,ZAIN FINAL FORM,,NOON FINAL FORM,
   ALEF MAKSURA FINAL FORM,YEH FINAL FORM,*47,HEH INITIAL FORM,*62,HEH MEDIAL FORM;
   FC72 ARABIC LIGATURE TEH WITH MEEM:FINAL FORM,*49,INITIAL FORM,*62,MEDIAL FORM;
   FC76 ARABIC LIGATURE THEH WITH:REH FINAL FORM,ZAIN FINAL FORM,MEEM FINAL FORM,
   NOON FINAL FORM,ALEF MAKSURA FINAL FORM,YEH FINAL FORM,*42,MEEM INITIAL FORM,*62,
   MEEM MEDIAL FORM,HEH MEDIAL FORM;FC7C ARABIC LIGATURE FEH WITH:ALEF MAKSURA FINAL FORM,
   YEH FINAL FORM;FC7E ARABIC LIGATURE QAF WITH:ALEF MAKSURA FINAL FORM,YEH FINAL FORM;
   FC80 ARABIC LIGATURE KAF WITH:ALEF FINAL FORM,LAM FINAL FORM,,ALEF MAKSURA FINAL FORM,
   YEH FINAL FORM,*63,JEEM INITIAL FORM,HAH INITIAL FORM,KHAH INITIAL FORM,LAM INITIAL FORM,
   *35,LAM MEDIAL FORM;FC82 ARABIC LIGATURE KAF WITH MEEM:FINAL FORM;
   FC85 ARABIC LIGATURE LAM WITH MEEM:FINAL FORM;
   FC86 ARABIC LIGATURE LAM WITH ALEF:MAKSURA FINAL FORM;
   FC87 ARABIC LIGATURE LAM WITH:YEH FINAL FORM;
   FCA1 ARABIC LIGATURE TEH WITH JEEM:INITIAL FORM;
   FCA2 ARABIC LIGATURE TEH WITH HAH:INITIAL FORM;
   FCA3 ARABIC LIGATURE TEH WITH KHAH:INITIAL FORM;
   FCA7 ARABIC LIGATURE JEEM WITH:HAH INITIAL FORM;
   FCA8 ARABIC LIGATURE JEEM WITH MEEM:INITIAL FORM;
   FCA9 ARABIC LIGATURE HAH WITH:JEEM INITIAL FORM,MEEM INITIAL FORM;
   FCAB ARABIC LIGATURE KHAH WITH:JEEM INITIAL FORM,MEEM INITIAL FORM;
   FCAD ARABIC LIGATURE SEEN WITH JEEM:INITIAL FORM;
   FCAE ARABIC LIGATURE SEEN WITH:HAH INITIAL FORM,*57,HEH MEDIAL FORM,*18,
   ALEF MAKSURA ISOLATED FORM,YEH ISOLATED FORM,*17,REH ISOLATED FORM,*8,
   ALEF MAKSURA FINAL FORM,YEH FINAL FORM,*17,REH FINAL FORM,*6,HEH INITIAL FORM,*3,
   HAH MEDIAL FORM,*38,HAH WITH JEEM INITIAL FORM;
   FCAF ARABIC LIGATURE SEEN WITH KHAH:INITIAL FORM;
   FCB0 ARABIC LIGATURE SEEN WITH MEEM:INITIAL FORM,*54,MEDIAL FORM;
   FCB1 ARABIC LIGATURE SAD WITH HAH:INITIAL FORM;
   FCB2 ARABIC LIGATURE SAD WITH:KHAH INITIAL FORM,MEEM INITIAL FORM;
   FCB4 ARABIC LIGATURE DAD WITH:JEEM INITIAL FORM,HAH INITIAL FORM,KHAH INITIAL FORM,
   MEEM INITIAL FORM;FCB8 ARABIC LIGATURE TAH WITH:HAH INITIAL FORM,*60,
   ALEF MAKSURA ISOLATED FORM,YEH ISOLATED FORM,*26,ALEF MAKSURA FINAL FORM,YEH FINAL FORM;
   FCBA ARABIC LIGATURE AIN WITH:JEEM INITIAL FORM,*60,ALEF MAKSURA ISOLATED FORM,
   YEH ISOLATED FORM,*26,ALEF MAKSURA FINAL FORM,YEH FINAL FORM;
   FCBB ARABIC LIGATURE AIN WITH MEEM:INITIAL FORM;
   FCBC ARABIC LIGATURE GHAIN WITH:JEEM INITIAL FORM,*60,ALEF MAKSURA ISOLATED FORM,
   YEH ISOLATED FORM,*26,ALEF MAKSURA FINAL FORM,YEH FINAL FORM;
   FCBD ARABIC LIGATURE GHAIN WITH MEEM:INITIAL FORM;
   FCBE ARABIC LIGATURE FEH WITH:JEEM INITIAL FORM,HAH INITIAL FORM,KHAH INITIAL FORM,
   MEEM INITIAL FORM;FCC2 ARABIC LIGATURE QAF WITH:HAH INITIAL FORM;
   FCC3 ARABIC LIGATURE QAF WITH MEEM:INITIAL FORM;
   FCC8 ARABIC LIGATURE KAF WITH MEEM:INITIAL FORM,*35,MEDIAL FORM;
   FCC9 ARABIC LIGATURE LAM WITH JEEM:INITIAL FORM;
   FCCA ARABIC LIGATURE LAM WITH HAH:INITIAL FORM;
   FCCB ARABIC LIGATURE LAM WITH:KHAH INITIAL FORM,,HEH INITIAL FORM;
   FCCC ARABIC LIGATURE LAM WITH MEEM:INITIAL FORM,*32,MEDIAL FORM;
   FCCE ARABIC LIGATURE MEEM WITH JEEM:INITIAL FORM;
   FCCF ARABIC LIGATURE MEEM WITH HAH:INITIAL FORM;
   FCD0 ARABIC LIGATURE MEEM WITH KHAH:INITIAL FORM;
   FCD1 ARABIC LIGATURE MEEM WITH:MEEM INITIAL FORM;
   FCD2 ARABIC LIGATURE NOON WITH JEEM:INITIAL FORM;
   FCD3 ARABIC LIGATURE NOON WITH HAH:INITIAL FORM;
   FCD4 ARABIC LIGATURE NOON WITH:KHAH INITIAL FORM,,HEH INITIAL FORM,*24,HEH MEDIAL FORM;
   FCD5 ARABIC LIGATURE NOON WITH MEEM:INITIAL FORM,*24,MEDIAL FORM;
   FCD7 ARABIC LIGATURE HEH WITH:JEEM INITIAL FORM,MEEM INITIAL FORM,
   SUPERSCRIPT ALEF INITIAL FORM;FCDA ARABIC LIGATURE YEH WITH:JEEM INITIAL FORM,
   HAH INITIAL FORM,KHAH INITIAL FORM,,HEH INITIAL FORM,*18,HEH MEDIAL FORM;
   FCDD ARABIC LIGATURE YEH WITH MEEM:INITIAL FORM,*18,MEDIAL FORM;
   FCDF ARABIC LIGATURE YEH WITH HAMZA ABOVE WITH:MEEM MEDIAL FORM,HEH MEDIAL FORM;
   FCE1 ARABIC LIGATURE BEH WITH:MEEM MEDIAL FORM,HEH MEDIAL FORM;
   FCE9 ARABIC LIGATURE SHEEN WITH MEEM:MEDIAL FORM,*34,ISOLATED FORM,*27,FINAL FORM,*7,
   INITIAL FORM,*57,WITH KHAH FINAL FORM,WITH KHAH INITIAL FORM,WITH MEEM FINAL FORM,
   WITH MEEM INITIAL FORM;FCEA ARABIC LIGATURE SHEEN WITH:HEH MEDIAL FORM,*18,
   ALEF MAKSURA ISOLATED FORM,YEH ISOLATED FORM,*12,KHAH ISOLATED FORM,,REH ISOLATED FORM,*11,
   ALEF MAKSURA FINAL FORM,YEH FINAL FORM,*12,KHAH FINAL FORM,,REH FINAL FORM,*5,
   KHAH INITIAL FORM,,,HEH INITIAL FORM,*6,KHAH MEDIAL FORM;
   FCF2 ARABIC LIGATURE SHADDA WITH:FATHA MEDIAL FORM,DAMMA MEDIAL FORM,KASRA MEDIAL FORM;
   FCFF ARABIC LIGATURE HAH WITH:ALEF MAKSURA ISOLATED FORM,YEH ISOLATED FORM,*26,
   ALEF MAKSURA FINAL FORM,YEH FINAL FORM,*61,MEEM WITH YEH FINAL FORM,
   MEEM WITH ALEF MAKSURA FINAL FORM;FD01 ARABIC LIGATURE JEEM WITH:ALEF MAKSURA ISOLATED
    FORM,YEH ISOLATED FORM,*26,ALEF MAKSURA FINAL FORM,YEH FINAL FORM;
   FD03 ARABIC LIGATURE KHAH WITH:ALEF MAKSURA ISOLATED FORM,YEH ISOLATED FORM,*26,
   ALEF MAKSURA FINAL FORM,YEH FINAL FORM;FD05 ARABIC LIGATURE SAD WITH:ALEF MAKSURA ISOLATED
    FORM,YEH ISOLATED FORM,*8,REH ISOLATED FORM,*17,ALEF MAKSURA FINAL FORM,YEH FINAL FORM,*8,
   REH FINAL FORM,*58,MEEM WITH MEEM FINAL FORM;
   FD07 ARABIC LIGATURE DAD WITH:ALEF MAKSURA ISOLATED FORM,YEH ISOLATED FORM,*7,
   REH ISOLATED FORM,*18,ALEF MAKSURA FINAL FORM,YEH FINAL FORM,*7,REH FINAL FORM;
   FD09 ARABIC LIGATURE SHEEN WITH JEEM:ISOLATED FORM,*27,FINAL FORM,*7,INITIAL FORM,*9,
   MEDIAL FORM,*49,WITH YEH FINAL FORM;FD0A ARABIC LIGATURE SHEEN WITH HAH:ISOLATED FORM,*27,
   FINAL FORM,*7,INITIAL FORM,*9,MEDIAL FORM,*46,WITH MEEM FINAL FORM,WITH MEEM INITIAL FORM;
   FD33 ARABIC LIGATURE TAH WITH MEEM:INITIAL FORM,*6,MEDIAL FORM,*54,WITH HAH FINAL FORM,
   WITH HAH INITIAL FORM,WITH MEEM INITIAL FORM,WITH YEH FINAL FORM;
   FD34 ARABIC LIGATURE SEEN WITH JEEM:MEDIAL FORM,*40,WITH HAH INITIAL FORM,
   WITH ALEF MAKSURA FINAL FORM;FD36 ARABIC LIGATURE SEEN WITH KHAH:MEDIAL FORM;
   FD3B ARABIC LIGATURE:ZAH WITH MEEM MEDIAL FORM,ALEF WITH FATHATAN FINAL FORM,
   ALEF WITH FATHATAN ISOLATED FORM,,,RAHIMAHU ALLAAH,*5,SALLALLAAHU ALAYHI WA-AALIH,
   ALAYHI AS-SALAAM,ALAYHIM AS-SALAAM,ALAYHIMAA AS-SALAAM,ALAYHI AS-SALAATU WAS-SALAAM,
   QUDDISA SIRRAH,SALLALLAHU ALAYHI WAAALIHEE WA-SALLAM,ALAYHAA AS-SALAAM,
   TABAARAKA WA-TAAALAA,RAHIMAHUM ALLAAH;FD3E :ORNATE LEFT PARENTHESIS,
   ORNATE RIGHT PARENTHESIS;FD41 ARABIC LIGATURE RADI ALLAAHU:ANH,ANHAA,ANHUM,ANHUMAA,ANHUNNA;
   FD50 ARABIC LIGATURE TEH WITH JEEM:WITH MEEM INITIAL FORM;
   FD51 ARABIC LIGATURE TEH WITH HAH:WITH JEEM FINAL FORM,WITH JEEM INITIAL FORM,
   WITH MEEM INITIAL FORM;FD54 ARABIC LIGATURE TEH WITH KHAH:WITH MEEM INITIAL FORM;
   FD55 ARABIC LIGATURE TEH WITH MEEM WITH:JEEM INITIAL FORM,HAH INITIAL FORM,
   KHAH INITIAL FORM;FD58 ARABIC LIGATURE JEEM WITH MEEM:WITH HAH FINAL FORM,
   WITH HAH INITIAL FORM;FD5F ARABIC LIGATURE SEEN WITH MEEM WITH:HAH FINAL FORM,
   HAH INITIAL FORM,JEEM INITIAL FORM,MEEM FINAL FORM,MEEM INITIAL FORM;
   FD64 ARABIC LIGATURE SAD WITH HAH:WITH HAH FINAL FORM,WITH HAH INITIAL FORM;
   FD6E ARABIC LIGATURE DAD WITH:HAH WITH ALEF MAKSURA FINAL FORM,KHAH WITH MEEM FINAL FORM,
   KHAH WITH MEEM INITIAL FORM,*58,HAH WITH YEH FINAL FORM;
   FD75 ARABIC LIGATURE AIN WITH:JEEM WITH MEEM FINAL FORM;
   FD76 ARABIC LIGATURE AIN WITH MEEM:WITH MEEM FINAL FORM,WITH MEEM INITIAL FORM,
   WITH ALEF MAKSURA FINAL FORM,*61,WITH YEH FINAL FORM;
   FD79 ARABIC LIGATURE GHAIN WITH MEEM:WITH MEEM FINAL FORM,WITH YEH FINAL FORM,
   WITH ALEF MAKSURA FINAL FORM;FD7C ARABIC LIGATURE FEH WITH:KHAH WITH MEEM FINAL FORM,
   KHAH WITH MEEM INITIAL FORM;FD7E ARABIC LIGATURE QAF WITH MEEM:WITH HAH FINAL FORM,
   WITH MEEM FINAL FORM,*50,WITH YEH FINAL FORM,,WITH HAH INITIAL FORM;
   FD80 ARABIC LIGATURE LAM WITH HAH:WITH MEEM FINAL FORM,WITH YEH FINAL FORM,
   WITH ALEF MAKSURA FINAL FORM,*50,WITH MEEM INITIAL FORM;
   FD83 ARABIC LIGATURE LAM WITH JEEM WITH:JEEM INITIAL FORM,JEEM FINAL FORM,*39,
   YEH FINAL FORM,*13,MEEM INITIAL FORM,,MEEM FINAL FORM;
   FD85 ARABIC LIGATURE LAM WITH:KHAH WITH MEEM FINAL FORM,KHAH WITH MEEM INITIAL FORM;
   FD87 ARABIC LIGATURE LAM WITH MEEM:WITH HAH FINAL FORM,WITH HAH INITIAL FORM,*36,
   WITH YEH FINAL FORM;FD89 ARABIC LIGATURE MEEM WITH HAH:WITH JEEM INITIAL FORM,
   WITH MEEM INITIAL FORM,WITH YEH FINAL FORM;
   FD8C ARABIC LIGATURE MEEM WITH JEEM:WITH HAH INITIAL FORM,WITH MEEM INITIAL FORM,*4,
   WITH KHAH INITIAL FORM,*45,WITH YEH FINAL FORM;
   FD8E ARABIC LIGATURE MEEM WITH KHAH:WITH JEEM INITIAL FORM,WITH MEEM INITIAL FORM,*41,
   WITH YEH FINAL FORM;FD93 ARABIC LIGATURE HEH WITH:MEEM WITH JEEM INITIAL FORM,
   MEEM WITH MEEM INITIAL FORM;FD95 ARABIC LIGATURE NOON WITH HAH:WITH MEEM INITIAL FORM,
   WITH ALEF MAKSURA FINAL FORM,*28,WITH YEH FINAL FORM;
   FD97 ARABIC LIGATURE NOON WITH JEEM WITH:MEEM FINAL FORM,MEEM INITIAL FORM,
   ALEF MAKSURA FINAL FORM,*30,HAH INITIAL FORM,*4,HAH FINAL FORM,*9,YEH FINAL FORM;
   FD9A ARABIC LIGATURE NOON WITH MEEM:WITH YEH FINAL FORM,WITH ALEF MAKSURA FINAL FORM;
   FD9C ARABIC LIGATURE YEH WITH MEEM:WITH MEEM FINAL FORM,WITH MEEM INITIAL FORM,*18,
   WITH YEH FINAL FORM;FD9E ARABIC LIGATURE BEH WITH:KHAH WITH YEH FINAL FORM,*35,
   HAH WITH YEH FINAL FORM;FD9F ARABIC LIGATURE TEH WITH JEEM:WITH YEH FINAL FORM,
   WITH ALEF MAKSURA FINAL FORM;FDA1 ARABIC LIGATURE TEH WITH KHAH:WITH YEH FINAL FORM,
   WITH ALEF MAKSURA FINAL FORM;FDA3 ARABIC LIGATURE TEH WITH MEEM WITH:YEH FINAL FORM,
   ALEF MAKSURA FINAL FORM;FDA5 ARABIC LIGATURE JEEM WITH MEEM:WITH YEH FINAL FORM,,
   WITH ALEF MAKSURA FINAL FORM;FDA6 ARABIC LIGATURE JEEM WITH:HAH WITH ALEF MAKSURA FINAL
    FORM,*23,HAH WITH YEH FINAL FORM;FDA8 ARABIC LIGATURE SEEN WITH KHAH:WITH ALEF MAKSURA
    FINAL FORM,*29,WITH YEH FINAL FORM;FDA9 ARABIC LIGATURE SAD WITH HAH:WITH YEH FINAL FORM;
   FDAA ARABIC LIGATURE SHEEN WITH HAH:WITH YEH FINAL FORM;
   FDAE ARABIC LIGATURE YEH WITH:HAH WITH YEH FINAL FORM,JEEM WITH YEH FINAL FORM;
   FDB1 ARABIC LIGATURE MEEM WITH:MEEM WITH YEH FINAL FORM;
   FDB7 ARABIC LIGATURE KAF WITH MEEM:WITH YEH FINAL FORM,*3,WITH MEEM FINAL FORM,*7,
   WITH MEEM INITIAL FORM;FDBF ARABIC LIGATURE HAH WITH:JEEM WITH YEH FINAL FORM;
   FDC1 ARABIC LIGATURE FEH WITH:MEEM WITH YEH FINAL FORM;
   FDC4 ARABIC LIGATURE AIN WITH:JEEM WITH MEEM INITIAL FORM;
   FDC5 ARABIC LIGATURE SAD WITH:MEEM WITH MEEM INITIAL FORM;
   FDCF ARABIC LIGATURE:SALAAMUHU ALAYNAA,*32,SALLA USED AS KORANIC STOP SIGN ISOLATED FORM,
   QALA USED AS KORANIC STOP SIGN ISOLATED FORM,ALLAH ISOLATED FORM,AKBAR ISOLATED FORM,
   MOHAMMAD ISOLATED FORM,SALAM ISOLATED FORM,RASOUL ISOLATED FORM,ALAYHE ISOLATED FORM,
   WASALLAM ISOLATED FORM,SALLA ISOLATED FORM,SALLALLAHOU ALAYHE WASALLAM,JALLAJALALOUHOU,,
   BISMILLAH AR-RAHMAN AR-RAHEEM,SUBHAANAHU WA TAAALAA,AZZA WA JALL;FDFC :RIAL SIGN;
   FE00 VARIATION:SELECTOR-1*9,SELECTOR-10*7;FE10 PRESENTATION FORM FOR VERTICAL:COMMA,
   IDEOGRAPHIC COMMA,IDEOGRAPHIC FULL STOP,COLON,SEMICOLON,EXCLAMATION MARK,QUESTION MARK,,,
   HORIZONTAL ELLIPSIS,*22,TWO DOT LEADER,EM DASH,EN DASH,LOW LINE,WAVY LOW LINE;
   FE17 PRESENTATION FORM FOR VERTICAL LEFT:WHITE LENTICULAR BRACKET,*29,PARENTHESIS,,
   CURLY BRACKET,,TORTOISE SHELL BRACKET,,BLACK LENTICULAR BRACKET,,DOUBLE ANGLE BRACKET,,
   ANGLE BRACKET,,CORNER BRACKET,,WHITE CORNER BRACKET,*3,SQUARE BRACKET;
   FE18 PRESENTATION FORM FOR VERTICAL RIGHT:WHITE LENTICULAR BRAKCET,*29,PARENTHESIS,,
   CURLY BRACKET,,TORTOISE SHELL BRACKET,,BLACK LENTICULAR BRACKET,,DOUBLE ANGLE BRACKET,,
   ANGLE BRACKET,,CORNER BRACKET,,WHITE CORNER BRACKET,*3,SQUARE BRACKET;
   FE20 COMBINING:LIGATURE LEFT HALF,LIGATURE RIGHT HALF,*4,CONJOINING MACRON,
   LIGATURE LEFT HALF BELOW,LIGATURE RIGHT HALF BELOW,TILDE LEFT HALF BELOW,
   TILDE RIGHT HALF BELOW,,,CONJOINING MACRON BELOW;FE22 COMBINING DOUBLE:TILDE LEFT HALF,
   TILDE RIGHT HALF;FE24 COMBINING MACRON:LEFT HALF,RIGHT HALF,*5,LEFT HALF BELOW,
   RIGHT HALF BELOW;FE2E COMBINING CYRILLIC:TITLO LEFT HALF,TITLO RIGHT HALF;FE45 :SESAME DOT,
   *3,DASHED OVERLINE,CENTRELINE OVERLINE,WAVY OVERLINE,,DASHED LOW LINE,CENTRELINE LOW LINE,
   WAVY LOW LINE;FE46 WHITE:SESAME DOT;FE4C DOUBLE:WAVY OVERLINE;FE50 SMALL:COMMA,
   IDEOGRAPHIC COMMA,FULL STOP,,SEMICOLON,COLON,QUESTION MARK,EXCLAMATION MARK,EM DASH,
   LEFT PARENTHESIS,RIGHT PARENTHESIS,LEFT CURLY BRACKET,RIGHT CURLY BRACKET,
   LEFT TORTOISE SHELL BRACKET,RIGHT TORTOISE SHELL BRACKET,NUMBER SIGN,AMPERSAND,ASTERISK,
   PLUS SIGN,HYPHEN-MINUS,LESS-THAN SIGN,GREATER-THAN SIGN,EQUALS SIGN,,REVERSE SOLIDUS,
   DOLLAR SIGN,PERCENT SIGN,COMMERCIAL AT;FE70 ARABIC:FATHATAN ISOLATED FORM,
   TATWEEL WITH FATHATAN ABOVE,DAMMATAN ISOLATED FORM,TAIL FRAGMENT,KASRATAN ISOLATED FORM,*3,
   DAMMA ISOLATED FORM,DAMMA MEDIAL FORM,KASRA ISOLATED FORM,KASRA MEDIAL FORM,
   SHADDA ISOLATED FORM,SHADDA MEDIAL FORM,SUKUN ISOLATED FORM,SUKUN MEDIAL FORM;
   FE76 ARABIC FATHA:ISOLATED FORM,MEDIAL FORM;FE80 ARABIC LETTER:HAMZA ISOLATED FORM,*24,
   THEH ISOLATED FORM,THEH FINAL FORM,THEH INITIAL FORM,THEH MEDIAL FORM,*8,
   KHAH ISOLATED FORM,KHAH FINAL FORM,KHAH INITIAL FORM,KHAH MEDIAL FORM,,,THAL ISOLATED FORM,
   THAL FINAL FORM,,,ZAIN ISOLATED FORM,ZAIN FINAL FORM,*20,ZAH ISOLATED FORM,ZAH FINAL FORM,
   ZAH INITIAL FORM,ZAH MEDIAL FORM;FE81 ARABIC LETTER ALEF WITH:MADDA ABOVE ISOLATED FORM,
   MADDA ABOVE FINAL FORM;FE83 ARABIC LETTER ALEF WITH HAMZA:ABOVE ISOLATED FORM,
   ABOVE FINAL FORM,,,BELOW ISOLATED FORM,BELOW FINAL FORM;
   FE85 ARABIC LETTER WAW WITH:HAMZA ABOVE ISOLATED FORM,HAMZA ABOVE FINAL FORM;
   FE89 ARABIC LETTER YEH WITH HAMZA:ABOVE ISOLATED FORM,ABOVE FINAL FORM,ABOVE INITIAL FORM,
   ABOVE MEDIAL FORM;FE8D ARABIC LETTER ALEF:ISOLATED FORM,FINAL FORM;
   FE8F ARABIC LETTER BEH:ISOLATED FORM,FINAL FORM,INITIAL FORM,MEDIAL FORM;
   FE93 ARABIC LETTER TEH:MARBUTA ISOLATED FORM,MARBUTA FINAL FORM,ISOLATED FORM,FINAL FORM,
   INITIAL FORM,MEDIAL FORM;FE9D ARABIC LETTER JEEM:ISOLATED FORM,FINAL FORM,INITIAL FORM,
   MEDIAL FORM;FEA1 ARABIC LETTER HAH:ISOLATED FORM,FINAL FORM,INITIAL FORM,MEDIAL FORM;
   FEA9 ARABIC LETTER DAL:ISOLATED FORM,FINAL FORM;FEAD ARABIC LETTER REH:ISOLATED FORM,
   FINAL FORM;FEB1 ARABIC LETTER SEEN:ISOLATED FORM,FINAL FORM,INITIAL FORM,MEDIAL FORM;
   FEB5 ARABIC LETTER SHEEN:ISOLATED FORM,FINAL FORM,INITIAL FORM,MEDIAL FORM;
   FEB9 ARABIC LETTER SAD:ISOLATED FORM,FINAL FORM,INITIAL FORM,MEDIAL FORM;
   FEBD ARABIC LETTER DAD:ISOLATED FORM,FINAL FORM,INITIAL FORM,MEDIAL FORM;
   FEC1 ARABIC LETTER TAH:ISOLATED FORM,FINAL FORM,INITIAL FORM,MEDIAL FORM;
   FEC9 ARABIC LETTER AIN:ISOLATED FORM,FINAL FORM,INITIAL FORM,MEDIAL FORM;
   FECD ARABIC LETTER GHAIN:ISOLATED FORM,FINAL FORM,INITIAL FORM,MEDIAL FORM;
   FED1 ARABIC LETTER FEH:ISOLATED FORM,FINAL FORM,INITIAL FORM,MEDIAL FORM;
   FED5 ARABIC LETTER QAF:ISOLATED FORM,FINAL FORM,INITIAL FORM,MEDIAL FORM;
   FED9 ARABIC LETTER KAF:ISOLATED FORM,FINAL FORM,INITIAL FORM,MEDIAL FORM;
   FEDD ARABIC LETTER LAM:ISOLATED FORM,FINAL FORM,INITIAL FORM,MEDIAL FORM;
   FEE1 ARABIC LETTER MEEM:ISOLATED FORM,FINAL FORM,INITIAL FORM,MEDIAL FORM;
   FEE5 ARABIC LETTER NOON:ISOLATED FORM,FINAL FORM,INITIAL FORM,MEDIAL FORM;
   FEE9 ARABIC LETTER HEH:ISOLATED FORM,FINAL FORM,INITIAL FORM,MEDIAL FORM;
   FEED ARABIC LETTER WAW:ISOLATED FORM,FINAL FORM;
   FEEF ARABIC LETTER ALEF:MAKSURA ISOLATED FORM,MAKSURA FINAL FORM;
   FEF1 ARABIC LETTER YEH:ISOLATED FORM,FINAL FORM,INITIAL FORM,MEDIAL FORM;
   FEF5 ARABIC LIGATURE LAM WITH ALEF WITH:MADDA ABOVE ISOLATED FORM,MADDA ABOVE FINAL FORM,
   HAMZA ABOVE ISOLATED FORM,HAMZA ABOVE FINAL FORM,HAMZA BELOW ISOLATED FORM,
   HAMZA BELOW FINAL FORM;FEFB ARABIC LIGATURE LAM WITH ALEF:ISOLATED FORM,FINAL FORM;
   FEFF :ZERO WIDTH NO-BREAK SPACE;FF01 FULLWIDTH:EXCLAMATION MARK,QUOTATION MARK,NUMBER SIGN,
   DOLLAR SIGN,PERCENT SIGN,AMPERSAND,APOSTROPHE,LEFT PARENTHESIS,RIGHT PARENTHESIS,ASTERISK,
   PLUS SIGN,COMMA,HYPHEN-MINUS,FULL STOP,SOLIDUS,*10,COLON,SEMICOLON,LESS-THAN SIGN,
   EQUALS SIGN,GREATER-THAN SIGN,QUESTION MARK,COMMERCIAL AT,*26,LEFT SQUARE BRACKET,
   REVERSE SOLIDUS,RIGHT SQUARE BRACKET,CIRCUMFLEX ACCENT,LOW LINE,GRAVE ACCENT,*26,
   LEFT CURLY BRACKET,VERTICAL LINE,RIGHT CURLY BRACKET,TILDE,LEFT WHITE PARENTHESIS,
   RIGHT WHITE PARENTHESIS;FF10 FULLWIDTH DIGIT:ZERO,ONE,TWO,THREE,FOUR,FIVE,SIX,SEVEN,EIGHT,
   NINE;FF21 FULLWIDTH LATIN CAPITAL LETTER:A*26;FF41 FULLWIDTH LATIN SMALL LETTER:A*26;
   FF61 HALFWIDTH:IDEOGRAPHIC FULL STOP,LEFT CORNER BRACKET,RIGHT CORNER BRACKET,
   IDEOGRAPHIC COMMA,*11,KATAKANA-HIRAGANA PROLONGED SOUND MARK;
   FF65 HALFWIDTH KATAKANA:MIDDLE DOT,*56,VOICED SOUND MARK,SEMI-VOICED SOUND MARK;
   FF66 HALFWIDTH KATAKANA LETTER:WO,*10,A,I,U,E,O,KA,KI,KU,KE,KO,SA,SI,SU,SE,SO,TA,TI,TU,TE,
   TO,NA,NI,NU,NE,NO,HA,HI,HU,HE,HO,MA,MI,MU,ME,MO,YA,YU,YO,RA,RI,RU,RE,RO,WA,N;
   FF67 HALFWIDTH KATAKANA LETTER SMALL:A,I,U,E,O,YA,YU,YO,TU;FFA0 HALFWIDTH HANGUL:FILLER;
   FFA1 HALFWIDTH HANGUL LETTER:KIYEOK,SSANGKIYEOK,KIYEOK-SIOS,NIEUN,NIEUN-CIEUC,NIEUN-HIEUH,
   TIKEUT,SSANGTIKEUT,RIEUL,RIEUL-KIYEOK,RIEUL-MIEUM,RIEUL-PIEUP,RIEUL-SIOS,RIEUL-THIEUTH,
   RIEUL-PHIEUPH,RIEUL-HIEUH,MIEUM,PIEUP,SSANGPIEUP,PIEUP-SIOS,SIOS,SSANGSIOS,IEUNG,CIEUC,
   SSANGCIEUC,CHIEUCH,KHIEUKH,THIEUTH,PHIEUPH,HIEUH,*3,A,AE,YA,YAE,EO,E,,,YEO,YE,O,WA,WAE,OE,,
   ,YO,U,WEO,WE,WI,YU,,,EU,YI,I;FFE0 FULLWIDTH:CENT SIGN,POUND SIGN,NOT SIGN,MACRON,
   BROKEN BAR,YEN SIGN,WON SIGN;FFE8 HALFWIDTH:FORMS LIGHT VERTICAL,LEFTWARDS ARROW,
   UPWARDS ARROW,RIGHTWARDS ARROW,DOWNWARDS ARROW,BLACK SQUARE,WHITE CIRCLE;
   FFF9 :INTERLINEAR ANNOTATION ANCHOR,INTERLINEAR ANNOTATION SEPARATOR,
   INTERLINEAR ANNOTATION TERMINATOR,OBJECT REPLACEMENT CHARACTER,REPLACEMENT CHARACTER"

end Grading.Text
