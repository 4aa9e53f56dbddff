/-!
# Alias — further names of characters

The rows of the table are read as `Grading.Text.rowCode?` says.
-/

namespace Grading.Text

def aliasNames : String :=
  "0 :NUL,SOH,START OF TEXT,END OF TEXT,END OF TRANSMISSION,ENQ,ACK,ALERT,BACKSPACE,
   CHARACTER TABULATION,END OF LINE,LINE TABULATION,FF,CARRIAGE RETURN,LOCKING-SHIFT ONE,
   LOCKING-SHIFT ZERO,DATA LINK ESCAPE,DC1*4,NAK,SYN,END OF TRANSMISSION BLOCK,CAN,
   END OF MEDIUM,SUB,ESC,FILE SEPARATOR,GROUP SEPARATOR,INFORMATION SEPARATOR TWO,
   INFORMATION SEPARATOR ONE,SP;7F :DEL,PAD,HIGH OCTET PRESET,BPH,NBH,IND,NEL,SSA,
   END OF SELECTED AREA,CHARACTER TABULATION SET,CHARACTER TABULATION WITH JUSTIFICATION,
   LINE TABULATION SET,PARTIAL LINE DOWN,PARTIAL LINE BACKWARD,REVERSE INDEX,SINGLE SHIFT TWO,
   SINGLE SHIFT THREE,DCS,PRIVATE USE ONE,PRIVATE USE TWO,SET TRANSMIT STATE,CANCEL CHARACTER,
   MESSAGE WAITING,SPA,END OF GUARDED AREA,SOS,SGC,SCI,CONTROL SEQUENCE INTRODUCER,ST,
   OPERATING SYSTEM COMMAND,PM,APC,NBSP;AD :SHY;1A2 :LATIN CAPITAL LETTER GHA,
   LATIN SMALL LETTER GHA;34F :CGJ;61C :ALM;709 :SYRIAC SUBLINEAR COLON SKEWED LEFT;
   CDE :KANNADA LETTER LLLA;E9D :LAO LETTER FO FON,,LAO LETTER FO FAY,*3,LAO LETTER RO,,
   LAO LETTER LO;FD0 :TIBETAN MARK BKA- SHOG GI MGO RGYAN;
   11EC :HANGUL JONGSEONG YESIEUNG-KIYEOK,HANGUL JONGSEONG YESIEUNG-SSANGKIYEOK,
   HANGUL JONGSEONG SSANGYESIEUNG,HANGUL JONGSEONG YESIEUNG-KHIEUKH;180B :FVS1*3,MVS,FVS4;
   200B :ZWSP,ZWNJ,ZWJ,LRM,RLM;202A :LRE,RLE,PDF,LRO,RLO,NNBSP;205F :MMSP,WJ,*5,LRI,RLI,FSI,
   PDI;2118 :WEIERSTRASS ELLIPTIC FUNCTION;2448 :MICR ON US SYMBOL,MICR DASH SYMBOL;
   2B7A :LEFTWARDS TRIANGLE-HEADED ARROW WITH DOUBLE VERTICAL STROKE,,
   RIGHTWARDS TRIANGLE-HEADED ARROW WITH DOUBLE VERTICAL STROKE;
   A015 :YI SYLLABLE ITERATION MARK;AA6E :MYANMAR LETTER KHAMTI LLA;FE00 :VS1*9,VS10*7;
   FE18 :PRESENTATION FORM FOR VERTICAL RIGHT WHITE LENTICULAR BRACKET;FEFF :BOM;
   122D4 :CUNEIFORM SIGN NU11 TENU,CUNEIFORM SIGN NU11 OVER NU11 BUR OVER BUR;
   16E56 :MEDEFAIDRIN CAPITAL LETTER H,MEDEFAIDRIN CAPITAL LETTER NG;
   16E76 :MEDEFAIDRIN SMALL LETTER H,MEDEFAIDRIN SMALL LETTER NG;1B001 :HENTAIGANA LETTER E-1;
   1D0C5 :BYZANTINE MUSICAL SYMBOL FTHORA SKLIRON CHROMA VASIS;E0100 :VS17*83,VS100*157;
   0 :NULL,START OF HEADING,STX,ETX,EOT,ENQUIRY,ACKNOWLEDGE,BEL,BS,HORIZONTAL TABULATION,EOL,
   VERTICAL TABULATION,FORM FEED,CR,SHIFT OUT,SHIFT IN,DLE,DEVICE CONTROL ONE,
   DEVICE CONTROL TWO,DEVICE CONTROL THREE,DEVICE CONTROL FOUR,NEGATIVE ACKNOWLEDGE,
   SYNCHRONOUS IDLE,ETB,CANCEL,EOM,SUBSTITUTE,ESCAPE,FS,GS,RECORD SEPARATOR,UNIT SEPARATOR;
   7F :DELETE,PADDING CHARACTER,HOP,BREAK PERMITTED HERE,NO BREAK HERE,INDEX,NEXT LINE,
   START OF SELECTED AREA,ESA,HORIZONTAL TABULATION SET,
   HORIZONTAL TABULATION WITH JUSTIFICATION,VERTICAL TABULATION SET,PARTIAL LINE FORWARD,
   PARTIAL LINE UP,REVERSE LINE FEED,SINGLE-SHIFT-2*2,DEVICE CONTROL STRING,PRIVATE USE-1*2,
   STS,CCH,MW,START OF GUARDED AREA,END OF PROTECTED AREA,START OF STRING,
   SINGLE GRAPHIC CHARACTER INTRODUCER,SINGLE CHARACTER INTRODUCER,CSI,STRING TERMINATOR,OSC,
   PRIVACY MESSAGE,APPLICATION PROGRAM COMMAND;FEFF :BYTE ORDER MARK;9 :HT,LF,VT,,,SO,SI;
   1C :INFORMATION SEPARATOR FOUR,INFORMATION SEPARATOR THREE,RS,US;88 :HTS,HTJ,VTS,PLD,PLU,
   RI,SS2*2,,PU1*2,*3,START OF PROTECTED AREA,EPA;FEFF :ZWNBSP;9 :TAB,LINE FEED;A :NEW LINE;
   A :NL"

end Grading.Text
