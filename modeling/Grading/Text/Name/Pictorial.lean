/-!
# Pictorial — names of musical signs, mathematical letters and pictures

The rows of the table are read as `Grading.Text.rowCode?` says.
-/

namespace Grading.Text

def pictorialNames : String :=
  "1D000 BYZANTINE MUSICAL SYMBOL:PSILI,DASEIA,PERISPOMENI,OXEIA EKFONITIKON,OXEIA DIPLI,
   VAREIA EKFONITIKON,VAREIA DIPLI,KATHISTI,SYRMATIKI,PARAKLITIKI,YPOKRISIS,YPOKRISIS DIPLI,
   KREMASTI,APESO EKFONITIKON,EXO EKFONITIKON,TELEIA,KENTIMATA,APOSTROFOS,APOSTROFOS DIPLI,
   SYNEVMA,THITA,OLIGON ARCHAION,,PSILON,CHAMILON,VATHY,ISON ARCHAION,KENTIMA ARCHAION,
   KENTIMATA ARCHAION,SAXIMATA,PARICHON,STAVROS APODEXIA,OXEIAI ARCHAION,VAREIAI ARCHAION,
   APODERMA ARCHAION,APOTHEMA,KLASMA,REVMA,PIASMA ARCHAION,TINAGMA,ANATRICHISMA,SEISMA,
   SYNAGMA ARCHAION,SYNAGMA META STAVROU,OYRANISMA ARCHAION,THEMA,LEMOI,DYO,TRIA,TESSERA,
   KRATIMATA,APESO EXO NEO,,IMIFTHORA,TROMIKON ARCHAION,KATAVA TROMIKON,PELASTON,PSIFISTON,
   KONTEVMA,CHOREVMA ARCHAION,RAPISMA,PARAKALESMA ARCHAION,PARAKLITIKI ARCHAION,ICHADIN,NANA,
   PETASMA,KONTEVMA ALLO,TROMIKON ALLO,STRAGGISMATA,GRONTHISMATA,ISON NEO,OLIGON NEO,
   OXEIA NEO,PETASTI,KOUFISMA,PETASTOKOUFISMA,KRATIMOKOUFISMA,PELASTON NEO,KENTIMATA NEO ANO,
   KENTIMA NEO ANO,YPSILI,APOSTROFOS NEO,APOSTROFOI SYNDESMOS NEO,YPORROI,KRATIMOYPORROON,
   ELAFRON,CHAMILI,MIKRON ISON,VAREIA NEO,PIASMA NEO,PSIFISTON NEO,OMALON,ANTIKENOMA,LYGISMA,
   PARAKLITIKI NEO,PARAKALESMA NEO,ETERON PARAKALESMA,KYLISMA,ANTIKENOKYLISMA,TROMIKON NEO,
   EKSTREPTON,SYNAGMA NEO,SYRMA,CHOREVMA NEO,EPEGERMA,SEISMA NEO,XIRON KLASMA,
   TROMIKOPSIFISTON,PSIFISTOLYGISMA,TROMIKOLYGISMA,TROMIKOPARAKALESMA,PSIFISTOPARAKALESMA,
   TROMIKOSYNAGMA,PSIFISTOSYNAGMA,GORGOSYNTHETON,ARGOSYNTHETON,ETERON ARGOSYNTHETON,
   OYRANISMA NEO,THEMATISMOS ESO,THEMATISMOS EXO,THEMA APLOUN,THES KAI APOTHES,KATAVASMA,
   ENDOFONON,YFEN KATO,YFEN ANO,STAVROS,KLASMA ANO,DIPLI ARCHAION,KRATIMA ARCHAION,
   KRATIMA ALLO,KRATIMA NEO,APODERMA NEO,APLI,DIPLI,TRIPLI,TETRAPLI,KORONIS,*8,DIGORGON,
   DIGORGON PARESTIGMENON ARISTERA KATO,DIGORGON PARESTIGMENON ARISTERA ANO,
   DIGORGON PARESTIGMENON DEXIA,TRIGORGON,ARGON,IMIDIARGON,DIARGON,*18,
   ISAKIA TELOUS ICHIMATOS,APOSTROFOI TELOUS ICHIMATOS,FANEROSIS TETRAFONIAS,
   FANEROSIS MONOFONIAS,FANEROSIS DIFONIAS,*3,GORTHMIKON N APLOUN,GORTHMIKON N DIPLOUN,
   ENARXIS KAI FTHORA VOU,IMIFONON,IMIFTHORON,*12,FHTORA SKLIRON CHROMA VASIS,,,CHROA ZYGOS,
   CHROA KLITON,CHROA SPATHI,*13,GENIKI DIESIS,GENIKI YFESIS,DIASTOLI APLI MIKRI,
   DIASTOLI APLI MEGALI,DIASTOLI DIPLI,DIASTOLI THESEOS,*8,DIGRAMMA GG,DIFTOGGOS OU,STIGMA,*7,
   KENTIMATA NEO MESO,KENTIMA NEO MESO,KENTIMATA NEO KATO,KENTIMA NEO KATO,KLASMA KATO;
   1D016 BYZANTINE MUSICAL SYMBOL GORGON:ARCHAION;
   1D034 BYZANTINE MUSICAL SYMBOL FTHORA:ARCHAION;
   1D08A BYZANTINE MUSICAL SYMBOL LEIMMA:ENOS CHRONOU,DYO CHRONON,TRION CHRONON,
   TESSARON CHRONON,IMISEOS CHRONOU;1D08F BYZANTINE MUSICAL SYMBOL GORGON:NEO ANO,
   PARESTIGMENON ARISTERA,PARESTIGMENON DEXIA;1D09A BYZANTINE MUSICAL SYMBOL AGOGI:POLI ARGI,
   ARGOTERI,ARGI,METRIA,MESI,GORGI,GORGOTERI,POLI GORGI;
   1D0A2 BYZANTINE MUSICAL SYMBOL MARTYRIA:PROTOS ICHOS,ALLI PROTOS ICHOS,DEYTEROS ICHOS,
   ALLI DEYTEROS ICHOS,TRITOS ICHOS,TRIFONIAS,TETARTOS ICHOS,TETARTOS LEGETOS ICHOS,
   LEGETOS ICHOS,PLAGIOS ICHOS,*5,VARYS ICHOS,PROTOVARYS ICHOS,PLAGIOS TETARTOS ICHOS;
   1D0B9 BYZANTINE MUSICAL SYMBOL FTHORA:ARCHAION DEYTEROU ICHOU,,,NAOS ICHOS,,
   SKLIRON DIATONON DI,*4,MALAKON CHROMA DIFONIAS,MALAKON CHROMA MONOFONIAS,,
   SKLIRON CHROMA SYNAFI,NENANO,*3,I YFESIS TETARTIMORION,ENARMONIOS ANTIFONIA;
   1D0BA BYZANTINE MUSICAL SYMBOL FTHORA DIATONIKI:PA,NANA,,DI,,KE,ZO,NI KATO,NI ANO;
   1D0CD BYZANTINE MUSICAL SYMBOL YFESIS:TRITIMORION,*6,APLI DYO DODEKATA,
   MONOGRAMMOS TESSERA DODEKATA,DIGRAMMOS EX DODEKATA,TRIGRAMMOS OKTO DODEKATA;
   1D0CE BYZANTINE MUSICAL SYMBOL DIESIS:TRITIMORION,TETARTIMORION,APLI DYO DODEKATA,
   MONOGRAMMOS TESSERA DODEKATA,DIGRAMMOS EX DODEKATA,TRIGRAMMOS OKTO DODEKATA;
   1D0DE BYZANTINE MUSICAL SYMBOL SIMANSIS:THESEOS,THESEOS DISIMOU,THESEOS TRISIMOU,
   THESEOS TETRASIMOU,ARSEOS,ARSEOS DISIMOU,ARSEOS TRISIMOU,ARSEOS TETRASIMOU;
   1D0E9 BYZANTINE MUSICAL SYMBOL ARKTIKO:PA,VOU,GA,DI,KE,ZO,NI;
   1D0F5 BYZANTINE MUSICAL SYMBOL GORGON:NEO KATO;1D100 MUSICAL SYMBOL:SINGLE BARLINE,
   DOUBLE BARLINE,FINAL BARLINE,REVERSE FINAL BARLINE,DASHED BARLINE,SHORT BARLINE,
   LEFT REPEAT SIGN,RIGHT REPEAT SIGN,REPEAT DOTS,DAL SEGNO,DA CAPO,SEGNO,CODA,
   REPEATED FIGURE-1*3,FERMATA,FERMATA BELOW,BREATH MARK,CAESURA,BRACE,BRACKET,ONE-LINE STAFF,
   TWO-LINE STAFF,THREE-LINE STAFF,FOUR-LINE STAFF,FIVE-LINE STAFF,SIX-LINE STAFF,
   SIX-STRING FRETBOARD,FOUR-STRING FRETBOARD,G CLEF,G CLEF OTTAVA ALTA,G CLEF OTTAVA BASSA,
   C CLEF,F CLEF,F CLEF OTTAVA ALTA,F CLEF OTTAVA BASSA,DRUM CLEF-1*2,,,MULTIPLE MEASURE REST,
   DOUBLE SHARP,DOUBLE FLAT,FLAT UP,FLAT DOWN,NATURAL UP,NATURAL DOWN,SHARP UP,SHARP DOWN,
   QUARTER TONE SHARP,QUARTER TONE FLAT,COMMON TIME,CUT TIME,OTTAVA ALTA,OTTAVA BASSA,
   QUINDICESIMA ALTA,QUINDICESIMA BASSA,MULTI REST,WHOLE REST,HALF REST,QUARTER REST,
   EIGHTH REST,SIXTEENTH REST,THIRTY-SECOND REST,SIXTY-FOURTH REST,
   ONE HUNDRED TWENTY-EIGHTH REST,X NOTEHEAD,PLUS NOTEHEAD,CIRCLE X NOTEHEAD,
   SQUARE NOTEHEAD WHITE,SQUARE NOTEHEAD BLACK,*10,MOON NOTEHEAD WHITE,MOON NOTEHEAD BLACK,
   TRIANGLE-ROUND NOTEHEAD DOWN WHITE,TRIANGLE-ROUND NOTEHEAD DOWN BLACK,PARENTHESIS NOTEHEAD,
   VOID NOTEHEAD,NOTEHEAD BLACK,NULL NOTEHEAD,CLUSTER NOTEHEAD WHITE,CLUSTER NOTEHEAD BLACK,
   BREVE,WHOLE NOTE,HALF NOTE,QUARTER NOTE,EIGHTH NOTE,SIXTEENTH NOTE,THIRTY-SECOND NOTE,
   SIXTY-FOURTH NOTE,ONE HUNDRED TWENTY-EIGHTH NOTE,*5,FINGERED TREMOLO-1*3,*6,BEGIN BEAM,,
   BEGIN TIE,,BEGIN SLUR,,BEGIN PHRASE,*9,ARPEGGIATO UP,ARPEGGIATO DOWN,*7,RINFORZANDO,SUBITO,
   Z,PIANO,MEZZO,FORTE,CRESCENDO,DECRESCENDO,GRACE NOTE SLASH,GRACE NOTE NO SLASH,TR,TURN,
   INVERTED TURN,TURN SLASH,TURN UP,*11,HAUPTSTIMME,NEBENSTIMME,,DEGREE SLASH,*4,PEDAL MARK,
   PEDAL UP MARK,HALF PEDAL MARK,GLISSANDO UP,GLISSANDO DOWN,WITH FINGERNAILS,DAMP,DAMP ALL,
   MAXIMA,LONGA,BREVIS,SEMIBREVIS WHITE,SEMIBREVIS BLACK,MINIMA,MINIMA BLACK,SEMIMINIMA WHITE,
   SEMIMINIMA BLACK,FUSA WHITE,FUSA BLACK,LONGA PERFECTA REST,LONGA IMPERFECTA REST,
   BREVIS REST,SEMIBREVIS REST,MINIMA REST,SEMIMINIMA REST,*8,CROIX,GREGORIAN C CLEF,
   GREGORIAN F CLEF,SQUARE B,VIRGA,PODATUS,CLIVIS,SCANDICUS,CLIMACUS,TORCULUS,PORRECTUS,
   PORRECTUS FLEXUS,SCANDICUS FLEXUS,TORCULUS RESUPINUS,PES SUBPUNCTIS,*11,SORI,KORON;
   1D148 MUSICAL SYMBOL TRIANGLE NOTEHEAD:UP WHITE,UP BLACK,LEFT WHITE,LEFT BLACK,RIGHT WHITE,
   RIGHT BLACK,DOWN WHITE,DOWN BLACK,UP RIGHT WHITE,UP RIGHT BLACK;
   1D165 MUSICAL SYMBOL COMBINING:STEM,SPRECHGESANG STEM,TREMOLO-1*3,*3,AUGMENTATION DOT,
   FLAG-1*5,*8,ACCENT,STACCATO,TENUTO,STACCATISSIMO,MARCATO,MARCATO-STACCATO,ACCENT-STACCATO,
   LOURE,,,DOIT,RIP,FLIP,SMEAR,BEND,DOUBLE TONGUE,TRIPLE TONGUE,*30,DOWN BOW,UP BOW,HARMONIC,
   SNAP PIZZICATO;1D174 MUSICAL SYMBOL END:BEAM,,TIE,,SLUR,,PHRASE,*45,OF STIMME;
   1D19B MUSICAL SYMBOL ORNAMENT:STROKE-1*9,STROKE-10*2;
   1D1C7 MUSICAL SYMBOL TEMPUS:PERFECTUM CUM PROLATIONE PERFECTA,
   PERFECTUM CUM PROLATIONE IMPERFECTA,PERFECTUM CUM PROLATIONE PERFECTA DIMINUTION-1;
   1D1CA MUSICAL SYMBOL TEMPUS IMPERFECTUM CUM PROLATIONE:PERFECTA,IMPERFECTA,
   IMPERFECTA DIMINUTION-1*3;1D1DE MUSICAL SYMBOL KIEVAN:C CLEF,END OF PIECE,FINAL NOTE,
   RECITATIVE MARK,WHOLE NOTE,HALF NOTE,QUARTER NOTE STEM DOWN,QUARTER NOTE STEM UP,
   EIGHTH NOTE STEM DOWN,EIGHTH NOTE STEM UP,FLAT SIGN;1D200 GREEK VOCAL NOTATION:SYMBOL-1*9,
   SYMBOL-10*15,SYMBOL-50*5;1D21D GREEK INSTRUMENTAL NOTATION:SYMBOL-1*2,SYMBOL-4*2,
   SYMBOL-7*2,SYMBOL-11*4,SYMBOL-17*3,SYMBOL-23*5,SYMBOL-29*2,SYMBOL-32,SYMBOL-36*5,
   SYMBOL-42*2,SYMBOL-45,SYMBOL-47*8;1D242 COMBINING GREEK:MUSICAL TRISEME,MUSICAL TETRASEME,
   MUSICAL PENTASEME;1D245 GREEK:MUSICAL LEIMMA;1D2E0 MAYAN NUMERAL:ZERO,ONE,TWO,THREE,FOUR,
   FIVE,SIX,SEVEN,EIGHT,NINE,TEN,ELEVEN,TWELVE,THIRTEEN,FOURTEEN,FIFTEEN,SIXTEEN,SEVENTEEN,
   EIGHTEEN,NINETEEN;1D300 :MONOGRAM FOR EARTH;1D301 DIGRAM FOR:HEAVENLY EARTH,HUMAN EARTH,
   EARTHLY HEAVEN,EARTHLY HUMAN,EARTH;1D306 TETRAGRAM FOR:CENTRE,FULL CIRCLE,MIRED,BARRIER,
   KEEPING SMALL,CONTRARIETY,ASCENT,OPPOSITION,BRANCHING OUT,DEFECTIVENESS OR DISTORTION,
   DIVERGENCE,YOUTHFULNESS,INCREASE,PENETRATION,REACH,CONTACT,HOLDING BACK,WAITING,FOLLOWING,
   ADVANCE,RELEASE,RESISTANCE,EASE,JOY,CONTENTION,ENDEAVOUR,DUTIES,CHANGE,DECISIVENESS,
   BOLD RESOLUTION,PACKING,LEGION,CLOSENESS,KINSHIP,GATHERING,STRENGTH,PURITY,FULLNESS,
   RESIDENCE,LAW OR MODEL,RESPONSE,GOING TO MEET,ENCOUNTERS,STOVE,GREATNESS,ENLARGEMENT,
   PATTERN,RITUAL,FLIGHT,VASTNESS OR WASTING,CONSTANCY,MEASURE,ETERNITY,UNITY,DIMINISHMENT,
   CLOSED MOUTH,GUARDEDNESS,GATHERING IN,MASSING,ACCUMULATION,EMBELLISHMENT,DOUBT,WATCH,
   SINKING,INNER,DEPARTURE,DARKENING,DIMMING,EXHAUSTION,SEVERANCE,STOPPAGE,HARDNESS,
   COMPLETION,CLOSURE,FAILURE,AGGRAVATION,COMPLIANCE,ON THE VERGE,DIFFICULTIES,LABOURING,
   FOSTERING;1D360 COUNTING ROD UNIT DIGIT:ONE,TWO,THREE,FOUR,FIVE,SIX,SEVEN,EIGHT,NINE;
   1D369 COUNTING ROD TENS DIGIT:ONE,TWO,THREE,FOUR,FIVE,SIX,SEVEN,EIGHT,NINE;
   1D372 IDEOGRAPHIC TALLY MARK:ONE,TWO,THREE,FOUR,FIVE;1D377 :TALLY MARK ONE,TALLY MARK FIVE;
   1D400 MATHEMATICAL BOLD CAPITAL:A*26;1D41A MATHEMATICAL BOLD SMALL:A*26;
   1D434 MATHEMATICAL ITALIC CAPITAL:A*26;1D44E MATHEMATICAL ITALIC SMALL:A*7,,I*18;
   1D468 MATHEMATICAL BOLD ITALIC CAPITAL:A*26;1D482 MATHEMATICAL BOLD ITALIC SMALL:A*26;
   1D49C MATHEMATICAL SCRIPT CAPITAL:A,,C,D,,,G,,,J,K,,,N*4,,S*8;
   1D4B6 MATHEMATICAL SCRIPT SMALL:A*4,,F,,H*7,,P*11;
   1D4D0 MATHEMATICAL BOLD SCRIPT CAPITAL:A*26;1D4EA MATHEMATICAL BOLD SCRIPT SMALL:A*26;
   1D504 MATHEMATICAL FRAKTUR CAPITAL:A,B,,D*4,,,J*8,,S*7;
   1D51E MATHEMATICAL FRAKTUR SMALL:A*26;1D538 MATHEMATICAL DOUBLE-STRUCK CAPITAL:A,B,,D*4,,
   I*5,,O,*3,S*7;1D552 MATHEMATICAL DOUBLE-STRUCK SMALL:A*26;
   1D56C MATHEMATICAL BOLD FRAKTUR CAPITAL:A*26;1D586 MATHEMATICAL BOLD FRAKTUR SMALL:A*26;
   1D5A0 MATHEMATICAL SANS-SERIF CAPITAL:A*26;1D5BA MATHEMATICAL SANS-SERIF SMALL:A*26;
   1D5D4 MATHEMATICAL SANS-SERIF BOLD CAPITAL:A*26;
   1D5EE MATHEMATICAL SANS-SERIF BOLD SMALL:A*26;
   1D608 MATHEMATICAL SANS-SERIF ITALIC CAPITAL:A*26;
   1D622 MATHEMATICAL SANS-SERIF ITALIC SMALL:A*26;
   1D63C MATHEMATICAL SANS-SERIF BOLD ITALIC CAPITAL:A*26;
   1D656 MATHEMATICAL SANS-SERIF BOLD ITALIC SMALL:A*26;
   1D670 MATHEMATICAL MONOSPACE CAPITAL:A*26;1D68A MATHEMATICAL MONOSPACE SMALL:A*26;
   1D6A4 MATHEMATICAL ITALIC SMALL:DOTLESS I*2;1D6A8 MATHEMATICAL BOLD CAPITAL:ALPHA,BETA,
   GAMMA,DELTA,EPSILON,ZETA,ETA,THETA,IOTA,KAPPA,LAMDA,MU,NU,XI,OMICRON,PI,RHO,THETA SYMBOL,
   SIGMA,TAU,UPSILON,PHI,CHI,PSI,OMEGA;1D6C1 MATHEMATICAL BOLD:NABLA,*25,PARTIAL DIFFERENTIAL,
   EPSILON SYMBOL,THETA SYMBOL,KAPPA SYMBOL,PHI SYMBOL,RHO SYMBOL,PI SYMBOL;
   1D6C2 MATHEMATICAL BOLD SMALL:ALPHA,BETA,GAMMA,DELTA,EPSILON,ZETA,ETA,THETA,IOTA,KAPPA,
   LAMDA,MU,NU,XI,OMICRON,PI,RHO,FINAL SIGMA,SIGMA,TAU,UPSILON,PHI,CHI,PSI,OMEGA;
   1D6E2 MATHEMATICAL ITALIC CAPITAL:ALPHA,BETA,GAMMA,DELTA,EPSILON,ZETA,ETA,THETA,IOTA,KAPPA,
   LAMDA,MU,NU,XI,OMICRON,PI,RHO,THETA SYMBOL,SIGMA,TAU,UPSILON,PHI,CHI,PSI,OMEGA;
   1D6FB MATHEMATICAL ITALIC:NABLA,*25,PARTIAL DIFFERENTIAL,EPSILON SYMBOL,THETA SYMBOL,
   KAPPA SYMBOL,PHI SYMBOL,RHO SYMBOL,PI SYMBOL;1D6FC MATHEMATICAL ITALIC SMALL:ALPHA,BETA,
   GAMMA,DELTA,EPSILON,ZETA,ETA,THETA,IOTA,KAPPA,LAMDA,MU,NU,XI,OMICRON,PI,RHO,FINAL SIGMA,
   SIGMA,TAU,UPSILON,PHI,CHI,PSI,OMEGA;1D71C MATHEMATICAL BOLD ITALIC CAPITAL:ALPHA,BETA,
   GAMMA,DELTA,EPSILON,ZETA,ETA,THETA,IOTA,KAPPA,LAMDA,MU,NU,XI,OMICRON,PI,RHO,THETA SYMBOL,
   SIGMA,TAU,UPSILON,PHI,CHI,PSI,OMEGA;1D735 MATHEMATICAL BOLD ITALIC:NABLA,*25,
   PARTIAL DIFFERENTIAL,EPSILON SYMBOL,THETA SYMBOL,KAPPA SYMBOL,PHI SYMBOL,RHO SYMBOL,
   PI SYMBOL;1D736 MATHEMATICAL BOLD ITALIC SMALL:ALPHA,BETA,GAMMA,DELTA,EPSILON,ZETA,ETA,
   THETA,IOTA,KAPPA,LAMDA,MU,NU,XI,OMICRON,PI,RHO,FINAL SIGMA,SIGMA,TAU,UPSILON,PHI,CHI,PSI,
   OMEGA;1D756 MATHEMATICAL SANS-SERIF BOLD CAPITAL:ALPHA,BETA,GAMMA,DELTA,EPSILON,ZETA,ETA,
   THETA,IOTA,KAPPA,LAMDA,MU,NU,XI,OMICRON,PI,RHO,THETA SYMBOL,SIGMA,TAU,UPSILON,PHI,CHI,PSI,
   OMEGA;1D76F MATHEMATICAL SANS-SERIF BOLD:NABLA,*25,PARTIAL DIFFERENTIAL,EPSILON SYMBOL,
   THETA SYMBOL,KAPPA SYMBOL,PHI SYMBOL,RHO SYMBOL,PI SYMBOL;
   1D770 MATHEMATICAL SANS-SERIF BOLD SMALL:ALPHA,BETA,GAMMA,DELTA,EPSILON,ZETA,ETA,THETA,
   IOTA,KAPPA,LAMDA,MU,NU,XI,OMICRON,PI,RHO,FINAL SIGMA,SIGMA,TAU,UPSILON,PHI,CHI,PSI,OMEGA;
   1D790 MATHEMATICAL SANS-SERIF BOLD ITALIC CAPITAL:ALPHA,BETA,GAMMA,DELTA,EPSILON,ZETA,ETA,
   THETA,IOTA,KAPPA,LAMDA,MU,NU,XI,OMICRON,PI,RHO,THETA SYMBOL,SIGMA,TAU,UPSILON,PHI,CHI,PSI,
   OMEGA;1D7A9 MATHEMATICAL SANS-SERIF BOLD ITALIC:NABLA,*25,PARTIAL DIFFERENTIAL,
   EPSILON SYMBOL,THETA SYMBOL,KAPPA SYMBOL,PHI SYMBOL,RHO SYMBOL,PI SYMBOL;
   1D7AA MATHEMATICAL SANS-SERIF BOLD ITALIC SMALL:ALPHA,BETA,GAMMA,DELTA,EPSILON,ZETA,ETA,
   THETA,IOTA,KAPPA,LAMDA,MU,NU,XI,OMICRON,PI,RHO,FINAL SIGMA,SIGMA,TAU,UPSILON,PHI,CHI,PSI,
   OMEGA;1D7CA MATHEMATICAL BOLD CAPITAL:DIGAMMA;1D7CB MATHEMATICAL BOLD SMALL:DIGAMMA;
   1D7CE MATHEMATICAL BOLD DIGIT:ZERO,ONE,TWO,THREE,FOUR,FIVE,SIX,SEVEN,EIGHT,NINE;
   1D7D8 MATHEMATICAL DOUBLE-STRUCK DIGIT:ZERO,ONE,TWO,THREE,FOUR,FIVE,SIX,SEVEN,EIGHT,NINE;
   1D7E2 MATHEMATICAL SANS-SERIF DIGIT:ZERO,ONE,TWO,THREE,FOUR,FIVE,SIX,SEVEN,EIGHT,NINE;
   1D7EC MATHEMATICAL SANS-SERIF BOLD DIGIT:ZERO,ONE,TWO,THREE,FOUR,FIVE,SIX,SEVEN,EIGHT,NINE;
   1D7F6 MATHEMATICAL MONOSPACE DIGIT:ZERO,ONE,TWO,THREE,FOUR,FIVE,SIX,SEVEN,EIGHT,NINE;
   1D800 SIGNWRITING HAND-FIST:INDEX;1D801 SIGNWRITING HAND-CIRCLE:INDEX;
   1D802 SIGNWRITING HAND-CUP:INDEX;1D803 SIGNWRITING HAND-OVAL:INDEX;
   1D804 SIGNWRITING HAND-HINGE:INDEX;1D805 SIGNWRITING HAND-ANGLE:INDEX;
   1D806 SIGNWRITING HAND-FIST INDEX:BENT,,,RAISED KNUCKLE,CUPPED,HINGED,HINGED LOW,,MIDDLE,
   *4,UP MIDDLE HINGED,HINGED MIDDLE UP,*8,BENT OVER MIDDLE,*6,UP MIDDLE HINGED THUMB SIDE,
   UP MIDDLE HINGED THUMB CONJOINED,HINGED MIDDLE UP THUMB SIDE;
   1D807 SIGNWRITING HAND-CIRCLE INDEX:BENT,*5,HINGE,,MIDDLE;
   1D808 SIGNWRITING HAND-FIST THUMB UNDER:INDEX BENT;
   1D810 SIGNWRITING HAND-FIST INDEX MIDDLE:BENT,RAISED KNUCKLES,HINGED,,,CONJOINED,*4,
   CROSSED,*3,THUMB,,STRAIGHT THUMB BENT,BENT THUMB STRAIGHT,,HINGED SPREAD THUMB SIDE,*3,
   UP SPREAD THUMB FORWARD,*11,CROSSED THUMB SIDE;
   1D816 SIGNWRITING HAND-FIST INDEX MIDDLE CONJOINED:INDEX BENT,MIDDLE BENT,CUPPED,HINGED,
   *19,THUMB SIDE,THUMB SIDE CONJOINED,THUMB SIDE BENT,,,HINGED THUMB SIDE,,THUMB FORWARD,
   CUPPED THUMB FORWARD;1D81B SIGNWRITING HAND-CIRCLE INDEX MIDDLE:CROSSED,*3,THUMB;
   1D81C SIGNWRITING HAND-FIST MIDDLE:BENT OVER INDEX;
   1D822 SIGNWRITING HAND-FIST INDEX MIDDLE THUMB:BENT,*5,CUPPED,CIRCLED,HOOKED,HINGED,*17,
   CONJOINED HINGED,ANGLED OUT,ANGLED;1D82C SIGNWRITING HAND-FIST THUMB:BETWEEN INDEX MIDDLE
    STRAIGHT;1D830 SIGNWRITING HAND-FIST MIDDLE THUMB:HOOKED INDEX UP,*5,CUPPED INDEX UP,,
   CIRCLED INDEX UP,CIRCLED INDEX HINGED,*6,ANGLED OUT INDEX UP,ANGLED OUT INDEX CROSSED,
   ANGLED INDEX UP;1D831 SIGNWRITING HAND-FIST INDEX THUMB:HOOKED MIDDLE UP,*5,
   CUPPED MIDDLE UP,,,ANGLED OUT MIDDLE UP,ANGLED IN MIDDLE UP,CIRCLED MIDDLE UP,*6,
   HOOKED MIDDLE HINGED;1D844 SIGNWRITING HAND-FLAT FOUR:FINGERS,FINGERS BENT,FINGERS HINGED,
   FINGERS CONJOINED,FINGERS CONJOINED SPLIT;
   1D849 SIGNWRITING HAND-CLAW:FOUR FINGERS CONJOINED,*29,THUMB SIDE,NO THUMB,THUMB FORWARD;
   1D84A SIGNWRITING HAND-FIST:FOUR FINGERS CONJOINED BENT;
   1D84B SIGNWRITING HAND-HINGE:FOUR FINGERS CONJOINED,*9,FIVE FINGERS SPREAD OPEN,*37,OPEN,
   OPEN THUMB FORWARD,,SMALL,OPEN THUMB SIDE,THUMB SIDE,OPEN NO THUMB,NO THUMB,
   THUMB SIDE TOUCHING INDEX,THUMB BETWEEN MIDDLE RING,*5,LITTLE,*16,LITTLE THUMB,,
   LITTLE INDEX THUMB,*4,LITTLE INDEX,*4,RING,*4,RING DOWN INDEX THUMB HOOK MIDDLE,*24,MIDDLE,
   *11,MIDDLE RING LITTLE;1D84C SIGNWRITING HAND-FLAT FIVE FINGERS:SPREAD;
   1D84D SIGNWRITING HAND-FLAT:HEEL FIVE FINGERS SPREAD,,HEEL FIVE FINGERS SPREAD FOUR BENT,,
   HEEL FIVE FINGERS SPREAD BENT,*9,BETWEEN PALM FACINGS,HEEL,THUMB SIDE,HEEL THUMB SIDE,
   THUMB BENT,THUMB FORWARD;1D84E SIGNWRITING HAND-FLAT FIVE FINGERS SPREAD:FOUR BENT,,BENT,,
   THUMB FORWARD,*4,HINGED,HINGED THUMB SIDE,HINGED NO THUMB;
   1D853 SIGNWRITING HAND-CUP:FIVE FINGERS SPREAD,FIVE FINGERS SPREAD OPEN,*23,OPEN,,
   OPEN THUMB SIDE,THUMB SIDE,OPEN NO THUMB,NO THUMB,OPEN THUMB FORWARD,THUMB FORWARD;
   1D856 SIGNWRITING HAND-OVAL:FIVE FINGERS SPREAD,*33,THUMB SIDE,NO THUMB,THUMB FORWARD,*26,
   LITTLE UP,*28,RING LITTLE;1D85A SIGNWRITING:HAND-FLAT,*11,HAND-CLAW,*4,HAND-HOOK,,HAND-CUP,
   *6,HAND-CURLICUE OPEN,HAND-CURLICUE,HAND-CIRCLE,HAND-OVAL,*5,HAND-HINGE,*7,HAND-ANGLE,*54,
   HAND-CURLICUE INDEX RING LITTLE ON,*18,HAND-CURLICUE MIDDLE RING LITTLE ON,*51,HAND-FIST,,
   TOUCH SINGLE,TOUCH MULTIPLE,TOUCH BETWEEN,GRASP SINGLE,GRASP MULTIPLE,GRASP BETWEEN,
   STRIKE SINGLE,STRIKE MULTIPLE,STRIKE BETWEEN,BRUSH SINGLE,BRUSH MULTIPLE,BRUSH BETWEEN,
   RUB SINGLE,RUB MULTIPLE,RUB BETWEEN,SURFACE SYMBOLS,SURFACE BETWEEN;
   1D861 SIGNWRITING HAND-FLAT SPLIT:INDEX THUMB SIDE,CENTRE,CENTRE THUMB SIDE,
   CENTRE THUMB SIDE BENT,LITTLE;1D86A SIGNWRITING HAND-HOOK:CURLICUE;
   1D886 SIGNWRITING HAND-FIST INDEX MIDDLE:RING,*4,RING BENT,RING CONJOINED,*23,LITTLE,*4,
   CROSS LITTLE;1D887 SIGNWRITING HAND-CIRCLE INDEX MIDDLE:RING,*29,LITTLE,*4,CROSS LITTLE;
   1D888 SIGNWRITING HAND-HINGE INDEX:MIDDLE RING,*4,MIDDLE RING CONJOINED,*24,MIDDLE LITTLE,
   *26,RING LITTLE,*25,HINGED,,THUMB SIDE,*16,THUMB OPEN,THUMB LARGE,THUMB,THUMB SMALL;
   1D889 SIGNWRITING HAND-ANGLE INDEX:MIDDLE RING,*30,MIDDLE LITTLE,*25,RING LITTLE OUT,
   RING LITTLE,*46,THUMB OUT,THUMB IN,THUMB;1D88E SIGNWRITING HAND-FIST LITTLE:DOWN,
   DOWN RIPPLE STRAIGHT,DOWN RIPPLE CURVED,DOWN OTHERS CIRCLED,UP,*4,RAISED KNUCKLE,BENT,
   TOUCHES THUMB,THUMB,,INDEX THUMB,*3,INDEX;
   1D893 SIGNWRITING HAND-FIST THUMB UNDER:LITTLE UP;1D894 SIGNWRITING HAND-CIRCLE:LITTLE UP,
   *12,LITTLE INDEX,*15,RING LITTLE,*21,MIDDLE UP,*6,MIDDLE RING LITTLE,*6,
   MIDDLE RING LITTLE BENT;1D896 SIGNWRITING HAND-ANGLE:LITTLE UP,*7,
   LITTLE INDEX THUMB INDEX THUMB OUT,LITTLE INDEX THUMB INDEX THUMB,*3,LITTLE INDEX,*9,
   RING DOWN MIDDLE THUMB INDEX CROSS,*5,RING LITTLE,*30,MIDDLE RING LITTLE OUT,
   MIDDLE RING LITTLE IN,MIDDLE RING LITTLE;1D8AB SIGNWRITING HAND-FIST RING:DOWN,,,UP,
   RAISED KNUCKLE,LITTLE,*3,MIDDLE,MIDDLE CONJOINED,MIDDLE RAISED KNUCKLES,INDEX,THUMB;
   1D8B9 SIGNWRITING HAND-HOOK:RING THUMB,*3,INDEX RING LITTLE OUT,INDEX RING LITTLE IN,
   INDEX RING LITTLE UNDER,*10,MIDDLE THUMB,*13,MIDDLE RING LITTLE CONJOINED OUT,
   MIDDLE RING LITTLE CONJOINED IN,MIDDLE RING LITTLE CONJOINED;
   1D8BA SIGNWRITING HAND-FIST INDEX:RING LITTLE;
   1D8BB SIGNWRITING HAND-CIRCLE INDEX:RING LITTLE;
   1D8C0 SIGNWRITING HAND-CUP:INDEX RING LITTLE,*15,MIDDLE RING LITTLE,*27,INDEX THUMB,
   INDEX THUMB OPEN;1D8C4 SIGNWRITING HAND-FIST MIDDLE:DOWN,,UP,,RAISED KNUCKLE,UP THUMB SIDE,
   ,,LITTLE,RING LITTLE;1D8CB SIGNWRITING HAND-FIST MIDDLE THUMB:LITTLE;
   1D8D6 SIGNWRITING HAND-CLAW:MIDDLE RING LITTLE CONJOINED,MIDDLE RING LITTLE CONJOINED SIDE,
   *17,INDEX THUMB CURVE THUMB INSIDE;1D8DC SIGNWRITING HAND-FIST INDEX THUMB:SIDE,*7,
   FORWARD INDEX STRAIGHT,FORWARD INDEX BENT,HOOK,CURLICUE,CURVE THUMB INSIDE,,
   CURVE THUMB UNDER,CIRCLE;1D8DE SIGNWRITING HAND-FIST INDEX THUMB SIDE:THUMB DIAGONAL,
   THUMB CONJOINED,THUMB BENT,INDEX BENT,BOTH BENT,INDEX HINGE;
   1D8F5 SIGNWRITING HAND-FIST:THUMB,*14,HEEL;1D8F6 SIGNWRITING HAND-FIST THUMB:HEEL,
   SIDE DIAGONAL,SIDE CONJOINED,SIDE BENT,FORWARD,BETWEEN INDEX MIDDLE,BETWEEN MIDDLE RING,
   BETWEEN RING LITTLE,,OVER TWO FINGERS,,,OVER FOUR RAISED KNUCKLES;
   1D8FE SIGNWRITING HAND-FIST THUMB UNDER:TWO FINGERS,,THREE FINGERS,FOUR FINGERS;
   1D916 SIGNWRITING SQUEEZE:LARGE SINGLE,SMALL SINGLE,LARGE MULTIPLE,SMALL MULTIPLE,
   SEQUENTIAL,*5,FLICK ALTERNATING;1D91B SIGNWRITING FLICK:LARGE SINGLE,SMALL SINGLE,
   LARGE MULTIPLE,SMALL MULTIPLE,SEQUENTIAL;1D921 SIGNWRITING MOVEMENT-HINGE UP:DOWN LARGE,
   DOWN SMALL,SEQUENTIAL,,DOWN ALTERNATING LARGE,DOWN ALTERNATING SMALL;
   1D924 SIGNWRITING MOVEMENT-HINGE:DOWN SEQUENTIAL,,,SIDE TO SIDE SCISSORS;
   1D928 SIGNWRITING MOVEMENT-WALLPLANE:FINGER CONTACT,*6,DOUBLE STRAIGHT,DOUBLE WRIST FLEX,
   DOUBLE ALTERNATING,DOUBLE ALTERNATING WRIST FLEX,CROSS,TRIPLE STRAIGHT MOVEMENT,
   TRIPLE WRIST FLEX,TRIPLE ALTERNATING,TRIPLE ALTERNATING WRIST FLEX,BEND SMALL,BEND MEDIUM,
   BEND LARGE,CORNER SMALL,CORNER MEDIUM,CORNER LARGE,CORNER ROTATION,CHECK SMALL,
   CHECK MEDIUM,CHECK LARGE,BOX SMALL,BOX MEDIUM,BOX LARGE,ZIGZAG SMALL,ZIGZAG MEDIUM,
   ZIGZAG LARGE,PEAKS SMALL,PEAKS MEDIUM,PEAKS LARGE;
   1D929 SIGNWRITING MOVEMENT-FLOORPLANE:FINGER CONTACT;
   1D92A SIGNWRITING MOVEMENT-WALLPLANE SINGLE:STRAIGHT SMALL,STRAIGHT MEDIUM,STRAIGHT LARGE,
   STRAIGHT LARGEST,WRIST FLEX;1D94B SIGNWRITING TRAVEL-WALLPLANE:ROTATION-WALLPLANE SINGLE,
   ROTATION-WALLPLANE DOUBLE,ROTATION-WALLPLANE ALTERNATING,ROTATION-FLOORPLANE SINGLE,
   ROTATION-FLOORPLANE DOUBLE,ROTATION-FLOORPLANE ALTERNATING,SHAKING,ARM SPIRAL SINGLE,
   ARM SPIRAL DOUBLE,ARM SPIRAL TRIPLE;1D955 SIGNWRITING MOVEMENT-DIAGONAL:AWAY SMALL,
   AWAY MEDIUM,AWAY LARGE,AWAY LARGEST,TOWARDS SMALL,TOWARDS MEDIUM,TOWARDS LARGE,
   TOWARDS LARGEST;1D95D SIGNWRITING MOVEMENT-DIAGONAL BETWEEN:AWAY SMALL,AWAY MEDIUM,
   AWAY LARGE,AWAY LARGEST,TOWARDS SMALL,TOWARDS MEDIUM,TOWARDS LARGE,TOWARDS LARGEST;
   1D965 SIGNWRITING MOVEMENT-FLOORPLANE SINGLE:STRAIGHT SMALL,STRAIGHT MEDIUM,STRAIGHT LARGE,
   STRAIGHT LARGEST,WRIST FLEX;1D96A SIGNWRITING MOVEMENT-FLOORPLANE:DOUBLE STRAIGHT,
   DOUBLE WRIST FLEX,DOUBLE ALTERNATING,DOUBLE ALTERNATING WRIST FLEX,CROSS,
   TRIPLE STRAIGHT MOVEMENT,TRIPLE WRIST FLEX,TRIPLE ALTERNATING MOVEMENT,
   TRIPLE ALTERNATING WRIST FLEX,BEND,CORNER SMALL,CORNER MEDIUM,CORNER LARGE,CHECK,BOX SMALL,
   BOX MEDIUM,BOX LARGE,ZIGZAG SMALL,ZIGZAG MEDIUM,ZIGZAG LARGE,PEAKS SMALL,PEAKS MEDIUM,
   PEAKS LARGE;1D981 SIGNWRITING TRAVEL-FLOORPLANE:ROTATION-FLOORPLANE SINGLE,
   ROTATION-FLOORPLANE DOUBLE,ROTATION-FLOORPLANE ALTERNATING,ROTATION-WALLPLANE SINGLE,
   ROTATION-WALLPLANE DOUBLE,ROTATION-WALLPLANE ALTERNATING,SHAKING;
   1D988 SIGNWRITING MOVEMENT-WALLPLANE CURVE:QUARTER SMALL,QUARTER MEDIUM,QUARTER LARGE,
   QUARTER LARGEST,HALF-CIRCLE SMALL,HALF-CIRCLE MEDIUM,HALF-CIRCLE LARGE,HALF-CIRCLE LARGEST,
   THREE-QUARTER CIRCLE SMALL,THREE-QUARTER CIRCLE MEDIUM,*13,THEN STRAIGHT,*6,
   HITTING FRONT WALL,*6,HITTING CHEST;1D992 SIGNWRITING MOVEMENT-WALLPLANE HUMP:SMALL,MEDIUM,
   LARGE,*18,HITTING FRONT WALL,*6,HITTING CHEST;
   1D995 SIGNWRITING MOVEMENT-WALLPLANE LOOP:SMALL,MEDIUM,LARGE,SMALL DOUBLE,*15,
   HITTING FRONT WALL,*6,HITTING CHEST;1D999 SIGNWRITING MOVEMENT-WALLPLANE WAVE CURVE:DOUBLE
    SMALL,DOUBLE MEDIUM,DOUBLE LARGE,TRIPLE SMALL,TRIPLE MEDIUM,TRIPLE LARGE;
   1D9A0 SIGNWRITING MOVEMENT-WALLPLANE:CURVED CROSS SMALL,CURVED CROSS MEDIUM,*3,SHAKING,*61,
   ARM CIRCLE SMALL SINGLE,ARM CIRCLE MEDIUM SINGLE,ARM CIRCLE SMALL DOUBLE,
   ARM CIRCLE MEDIUM DOUBLE,*6,WRIST CIRCLE FRONT SINGLE,WRIST CIRCLE FRONT DOUBLE,,,
   FINGER CIRCLES SINGLE,FINGER CIRCLES DOUBLE;1D9A2 SIGNWRITING ROTATION-WALLPLANE:SINGLE,
   DOUBLE,ALTERNATE,*5,SINGLE HITTING FRONT WALL,DOUBLE HITTING FRONT WALL,
   ALTERNATING HITTING FRONT WALL,*4,SINGLE HITTING CHEST,DOUBLE HITTING CHEST,
   ALTERNATING HITTING CHEST;1D9A9 SIGNWRITING MOVEMENT-WALLPLANE WAVE:HITTING FRONT WALL,*6,
   HITTING CHEST,*3,DIAGONAL PATH SMALL,DIAGONAL PATH MEDIUM,DIAGONAL PATH LARGE;
   1D9B7 SIGNWRITING MOVEMENT-FLOORPLANE CURVE:HITTING CEILING SMALL,HITTING CEILING LARGE,
   *13,HITTING FLOOR SMALL,HITTING FLOOR LARGE,*13,SMALL,MEDIUM,LARGE,LARGEST,COMBINED;
   1D9B9 SIGNWRITING MOVEMENT-FLOORPLANE HUMP HITTING:CEILING SMALL DOUBLE,
   CEILING LARGE DOUBLE,CEILING SMALL TRIPLE,CEILING LARGE TRIPLE,*11,FLOOR SMALL DOUBLE,
   FLOOR LARGE DOUBLE,FLOOR TRIPLE SMALL TRIPLE,FLOOR TRIPLE LARGE TRIPLE;
   1D9BD SIGNWRITING MOVEMENT-FLOORPLANE LOOP HITTING:CEILING SMALL SINGLE,
   CEILING LARGE SINGLE,CEILING SMALL DOUBLE,CEILING LARGE DOUBLE,*11,FLOOR SMALL SINGLE,
   FLOOR LARGE SINGLE,FLOOR SMALL DOUBLE,FLOOR LARGE DOUBLE;
   1D9C1 SIGNWRITING MOVEMENT-FLOORPLANE WAVE:HITTING CEILING SMALL,HITTING CEILING LARGE,*13,
   HITTING FLOOR SMALL,HITTING FLOOR LARGE,*10,SNAKE,SMALL,LARGE;
   1D9C3 SIGNWRITING ROTATION-FLOORPLANE:SINGLE HITTING CEILING,DOUBLE HITTING CEILING,
   ALTERNATING HITTING CEILING,*12,SINGLE HITTING FLOOR,DOUBLE HITTING FLOOR,
   ALTERNATING HITTING FLOOR,*10,SINGLE,DOUBLE,ALTERNATING;
   1D9DA SIGNWRITING MOVEMENT-FLOORPLANE HUMP:SMALL;
   1D9DB SIGNWRITING MOVEMENT-FLOORPLANE LOOP:SMALL;
   1D9E2 SIGNWRITING MOVEMENT-FLOORPLANE:SHAKING PARALLEL,*12,
   WRIST CIRCLE HITTING WALL SINGLE,WRIST CIRCLE HITTING WALL DOUBLE,,,
   FINGER CIRCLES HITTING WALL SINGLE,FINGER CIRCLES HITTING WALL DOUBLE;
   1D9E7 SIGNWRITING MOVEMENT-FLOORPLANE ARM CIRCLE HITTING WALL:SMALL SINGLE,MEDIUM SINGLE,
   LARGE SINGLE,SMALL DOUBLE,MEDIUM DOUBLE,LARGE DOUBLE;
   1D9F5 SIGNWRITING DYNAMIC:ARROWHEAD SMALL,ARROWHEAD LARGE,FAST,SLOW,TENSE,RELAXED,
   SIMULTANEOUS,SIMULTANEOUS ALTERNATING,EVERY OTHER TIME,GRADUAL;1D9FF SIGNWRITING:HEAD,*7,
   FACE DIRECTION POSITION NOSE FORWARD TILTING,FACE DIRECTION POSITION NOSE UP OR DOWN,
   FACE DIRECTION POSITION NOSE UP OR DOWN TILTING,EYEBROWS STRAIGHT UP,
   EYEBROWS STRAIGHT NEUTRAL,EYEBROWS STRAIGHT DOWN,DREAMY EYEBROWS NEUTRAL DOWN,
   DREAMY EYEBROWS DOWN NEUTRAL,DREAMY EYEBROWS UP NEUTRAL,DREAMY EYEBROWS NEUTRAL UP,
   FOREHEAD NEUTRAL,FOREHEAD CONTACT,FOREHEAD WRINKLED,*3,EYE BLINK SINGLE,EYE BLINK MULTIPLE,
   *4,EYE WINK,EYELASHES UP,EYELASHES DOWN,EYELASHES FLUTTERING,*3,
   EYEGAZE-FLOORPLANE STRAIGHT,EYEGAZE-FLOORPLANE STRAIGHT DOUBLE,
   EYEGAZE-FLOORPLANE STRAIGHT ALTERNATING,,EYEGAZE-FLOORPLANE CURVED,,CHEEKS PUFFED,
   CHEEKS NEUTRAL,CHEEKS SUCKED,TENSE CHEEKS HIGH,TENSE CHEEKS MIDDLE,TENSE CHEEKS LOW,EARS,
   NOSE NEUTRAL,NOSE CONTACT,NOSE WRINKLES,NOSE WIGGLES,AIR BLOWING OUT,AIR SUCKING IN,
   AIR BLOW SMALL ROTATIONS,AIR SUCK SMALL ROTATIONS,BREATH INHALE,BREATH EXHALE,*24,
   LIPS PRESSED TOGETHER,LIP LOWER OVER UPPER,LIP UPPER OVER LOWER,*11,TEETH,*8,NECK,HAIR,
   EXCITEMENT,SHOULDER HIP SPINE,SHOULDER HIP POSITIONS,WALLPLANE SHOULDER HIP MOVE,
   FLOORPLANE SHOULDER HIP MOVE,SHOULDER TILTING FROM WAIST,TORSO-WALLPLANE STRAIGHT STRETCH,
   TORSO-WALLPLANE CURVED BEND,TORSO-FLOORPLANE TWISTING,UPPER BODY TILTING FROM HIP JOINTS,
   *8,FINGER,LOCATION-WALLPLANE SPACE,LOCATION-FLOORPLANE SPACE,*6,COMMA,FULL STOP,SEMICOLON,
   COLON,PARENTHESIS;1DA00 SIGNWRITING HEAD:RIM,MOVEMENT-WALLPLANE STRAIGHT,
   MOVEMENT-WALLPLANE TILT,MOVEMENT-FLOORPLANE STRAIGHT,MOVEMENT-WALLPLANE CURVE,
   MOVEMENT-FLOORPLANE CURVE,MOVEMENT CIRCLE;1DA14 SIGNWRITING EYES:OPEN,SQUEEZED,CLOSED,,,
   HALF OPEN,WIDE OPEN,HALF CLOSED,WIDENING MOVEMENT;
   1DA21 SIGNWRITING EYEGAZE-WALLPLANE:STRAIGHT,STRAIGHT DOUBLE,STRAIGHT ALTERNATING,*3,
   CURVED,,CIRCLING;1DA3B SIGNWRITING MOUTH:CLOSED NEUTRAL,CLOSED FORWARD,CLOSED CONTACT,
   SMILE,SMILE WRINKLED,SMILE OPEN,FROWN,FROWN WRINKLED,FROWN OPEN,*9,KISS,KISS FORWARD,
   KISS WRINKLED,TENSE,TENSE FORWARD,TENSE SUCKED,*3,CORNERS,WRINKLES SINGLE,WRINKLES DOUBLE;
   1DA44 SIGNWRITING MOUTH OPEN:CIRCLE,FORWARD,WRINKLED,OVAL,OVAL WRINKLED,OVAL YAWN,
   RECTANGLE,RECTANGLE WRINKLED,RECTANGLE YAWN;1DA59 SIGNWRITING TONGUE:STICKING OUT FAR,
   LICKING LIPS,TIP BETWEEN LIPS,TIP TOUCHING INSIDE MOUTH,INSIDE MOUTH RELAXED,
   MOVES AGAINST CHEEK,CENTRE STICKING OUT,CENTRE INSIDE MOUTH;
   1DA62 SIGNWRITING TEETH:MOVEMENT,ON TONGUE,ON TONGUE MOVEMENT,ON LIPS,ON LIPS MOVEMENT,
   BITE LIPS;1DA68 SIGNWRITING MOVEMENT-WALLPLANE:JAW;
   1DA69 SIGNWRITING MOVEMENT-FLOORPLANE:JAW;1DA76 SIGNWRITING LIMB:COMBINATION,LENGTH-1*7;
   1DA81 SIGNWRITING LOCATION:HEIGHT,WIDTH,DEPTH,HEAD NECK,TORSO,LIMBS DIGITS;
   1DA9B SIGNWRITING FILL:MODIFIER-2*5;1DAA1 SIGNWRITING ROTATION:MODIFIER-2*8,MODIFIER-10*7;
   1DF00 LATIN SMALL LETTER:FENG DIGRAPH WITH TRILL,*4,LEZH WITH RETROFLEX HOOK,*12,
   DEZH DIGRAPH WITH PALATAL HOOK,,ENG WITH PALATAL HOOK,,,TESH DIGRAPH WITH PALATAL HOOK,,
   DEZH DIGRAPH WITH RETROFLEX HOOK,,,TESH DIGRAPH WITH RETROFLEX HOOK;
   1DF01 LATIN SMALL LETTER REVERSED:SCRIPT G,,K,*3,ENG;
   1DF02 LATIN LETTER SMALL CAPITAL TURNED:G,*13,K;
   1DF04 LATIN LETTER SMALL CAPITAL:L WITH BELT;1DF06 LATIN SMALL LETTER TURNED:Y WITH BELT,
   *6,T WITH CURL;1DF08 LATIN SMALL LETTER TURNED R WITH:LONG LEG AND RETROFLEX HOOK,*12,
   PALATAL HOOK;1DF09 LATIN SMALL LETTER T WITH:HOOK AND RETROFLEX HOOK;
   1DF0A LATIN LETTER:RETROFLEX CLICK WITH RETROFLEX HOOK,*3,INVERTED GLOTTAL STOP WITH CURL,
   STRETCHED C WITH CURL;1DF0B LATIN SMALL LETTER ESH WITH:DOUBLE BAR,DOUBLE BAR AND CURL;
   1DF11 LATIN SMALL LETTER L WITH:FISHHOOK,,BELT AND PALATAL HOOK;
   1DF16 LATIN SMALL LETTER R WITH:FISHHOOK AND PALATAL HOOK;
   1DF18 LATIN SMALL LETTER EZH WITH:PALATAL HOOK;
   1DF1A LATIN SMALL LETTER I WITH:STROKE AND RETROFLEX HOOK;
   1DF1B LATIN SMALL LETTER O WITH:RETROFLEX HOOK;
   1DF1D LATIN SMALL LETTER C WITH:RETROFLEX HOOK;1DF1E LATIN SMALL LETTER S WITH:CURL;
   1E000 COMBINING GLAGOLITIC LETTER:AZU,BUKY,VEDE,GLAGOLI,DOBRO,YESTU,ZHIVETE,,ZEMLJA,IZHE,
   INITIAL IZHE,I,DJERVI,KAKO,LJUDIJE,MYSLITE,NASHI,ONU,POKOJI,RITSI,SLOVO,TVRIDO,UKU,FRITU,
   HERU,,,SHTA,TSI,CHRIVI,SHA,YERU,YERI,YATI,,YU,SMALL YUS,,YO,IOTATED SMALL YUS,BIG YUS,
   IOTATED BIG YUS,FITA;1E100 NYIAKENG PUACHUE HMONG LETTER:MA,TSA,NTA,TA,HA,NA,XA,NKA,CA,LA,
   SA,ZA,NCA,NTSA,KA,DA,NYA,NRA,VA,NTXA,TXA,FA,RA,QA,YA,NQA,PA,XYA,NPA,DLA,NPLA,HAH,MLA,PLA,
   GA,RRA,A,AA,I,U,O,OO,E,EE,W;1E130 NYIAKENG PUACHUE HMONG:TONE-B,TONE-M,TONE-J,TONE-V,
   TONE-S,TONE-G,TONE-D,*6,SYLLABLE LENGTHENER,*16,LOGOGRAM NYAJ,CIRCLED CA;
   1E137 NYIAKENG PUACHUE HMONG SIGN FOR:PERSON,THING,LOCATION,ANIMAL,INVERTEBRATE;
   1E13C NYIAKENG PUACHUE HMONG SIGN:XW XW;1E140 NYIAKENG PUACHUE HMONG DIGIT:ZERO,ONE,TWO,
   THREE,FOUR,FIVE,SIX,SEVEN,EIGHT,NINE;1E290 TOTO LETTER:PA,BA,TA,DA,KA,GA,MA,NA,NGA,SA,CHA,
   YA,WA,JA,HA,RA,LA,I,,IU,,U,E,,EO,,O,AE,,A;1E2A2 TOTO LETTER BREATHY:I,,IU,,,E,,EO,,,AE;
   1E2AE TOTO:SIGN RISING TONE;1E2C0 WANCHO LETTER:AA,A,BA,CA,DA,GA,YA,PHA,LA,NA,PA,TA,THA,FA,
   SA,SHA,JA,ZA,WA,VA,KA,O,AU,RA,MA,KHA,HA,E,I,NGA,U,LLHA,TSA,TRA,ONG,AANG,ANG,ING,ON,EN,AAN,
   NYA,UEN,YIH;1E2EC WANCHO:TONE TUP,TONE TUPNI,TONE KOI,TONE KOINI,*15,NGUN SIGN;
   1E2F0 WANCHO DIGIT:ZERO,ONE,TWO,THREE,FOUR,FIVE,SIX,SEVEN,EIGHT,NINE;
   1E7E0 ETHIOPIC SYLLABLE:HHYA,HHYU,HHYI,HHYAA,HHYEE,HHYE,HHYO,,,HHWI,HHWEE,HHWE;
   1E7E8 ETHIOPIC SYLLABLE GURAGE:HHWA,*4,MWI,MWEE,,QWI,QWEE,QWE,BWI,BWEE,KWI,KWEE,KWE,GWI,
   GWEE,GWE,FWI,FWEE,PWI,PWEE;1E800 MENDE KIKAKUI SYLLABLE:M001 KI,M002 KA,M003 KU,M065 KEE,
   M095 KE,M076 KOO,M048 KO,M179 KUA,M004 WI,M005 WA,M006 WU,M126 WEE,M118 WE,M114 WOO,
   M045 WO,M194 WUI,M143 WEI,M061 WVI,M049 WVA,M139 WVE,M007 MIN,M008 MAN,M009 MUN,M059 MEN,
   M094 MON,M154 MUAN,M189 MUEN,M010 BI,M011 BA,M012 BU,M150 BEE,M097 BE,M103 BOO,M138 BO,
   M013 I,M014 A,M015 U,M163 EE,M100 E,M165 OO,M147 O,M137 EI,M131 IN,M135 IN,M195 AN,M178 EN,
   M019 SI,M020 SA,M021 SU,M162 SEE,M116 SE,M136 SOO,M079 SO,M196 SIA,M025 LI,M026 LA,M027 LU,
   M084 LEE,M073 LE,M054 LOO,M153 LO,M110 LONG LE,M016 DI,M017 DA,M018 DU,M089 DEE,M180 DOO,
   M181 DO,M022 TI,M023 TA,M024 TU,M091 TEE,M055 TE,M104 TOO,M069 TO,M028 JI,M029 JA,M030 JU,
   M157 JEE,M113 JE,M160 JOO,M063 JO,M175 LONG JO,M031 YI,M032 YA,M033 YU,M109 YEE,M080 YE,
   M141 YOO,M121 YO,M034 FI,M035 FA,M036 FU,M078 FEE,M075 FE,M133 FOO,M088 FO,M197 FUA,
   M101 FAN,M037 NIN,M038 NAN,M039 NUN,M117 NEN,M169 NON,M176 HI,M041 HA,M186 HU,M040 HEE,
   M096 HE,M042 HOO,M140 HO,M083 HEEI,M128 HOOU,M053 HIN,M130 HAN,M087 HUN,M052 HEN,M193 HON,
   M046 HUAN,M090 NGGI,M043 NGGA,M082 NGGU,M115 NGGEE,M146 NGGE,M156 NGGOO,M120 NGGO,
   M159 NGGAA,M127 NGGUA,M086 LONG NGGE,M106 LONG NGGOO,M183 LONG NGGO,M155 GI,M111 GA,
   M168 GU,M190 GEE,M166 GUEI,M167 GUAN,M184 NGEN,M057 NGON,M177 NGUAN,M068 PI,M099 PA,
   M050 PU,M081 PEE,M051 PE,M102 POO,M066 PO,M145 MBI,M062 MBA,M122 MBU,M047 MBEE,M188 MBEE,
   M072 MBE,M172 MBOO,M174 MBO,M187 MBUU,M161 LONG MBE,M105 LONG MBOO,M142 LONG MBO,M132 KPI,
   M092 KPA,M074 KPU,M044 KPEE,M108 KPE,M112 KPOO,M158 KPO,M124 GBI,M056 GBA,M148 GBU,
   M093 GBEE,M107 GBE,M071 GBOO,M070 GBO,M171 RA,M123 NDI,M129 NDA,M125 NDU,M191 NDEE,
   M119 NDE,M067 NDOO,M064 NDO,M152 NJA,M192 NJU,M149 NJEE,M134 NJOO,M182 VI,M185 VA,M151 VU,
   M173 VEE,M085 VE,M144 VOO,M077 VO,M164 NYIN,M058 NYAN,M170 NYUN,M098 NYEN,M060 NYON;
   1E8C7 MENDE KIKAKUI DIGIT:ONE,TWO,THREE,FOUR,FIVE,SIX,SEVEN,EIGHT,NINE;
   1E8D0 MENDE KIKAKUI COMBINING NUMBER:TEENS,TENS,HUNDREDS,THOUSANDS,TEN THOUSANDS,
   HUNDRED THOUSANDS,MILLIONS;1E900 ADLAM CAPITAL LETTER:ALIF,DAALI,LAAM,MIIM,BA,SINNYIIYHE,
   PE,BHE,RA,E,FA,I,O,DHA,YHE,WAW,NUN,KAF,YA,U,JIIM,CHI,HA,QAAF,GA,NYA,TU,NHA,VA,KHA,GBE,ZAL,
   KPO,SHA;1E922 ADLAM SMALL LETTER:ALIF,DAALI,LAAM,MIIM,BA,SINNYIIYHE,PE,BHE,RA,E,FA,I,O,DHA,
   YHE,WAW,NUN,KAF,YA,U,JIIM,CHI,HA,QAAF,GA,NYA,TU,NHA,VA,KHA,GBE,ZAL,KPO,SHA;
   1E944 ADLAM:ALIF LENGTHENER,VOWEL LENGTHENER,GEMINATION MARK,HAMZA,CONSONANT MODIFIER,
   GEMINATE CONSONANT MODIFIER,NUKTA,NASALIZATION MARK,*18,INITIAL EXCLAMATION MARK,
   INITIAL QUESTION MARK;1E950 ADLAM DIGIT:ZERO,ONE,TWO,THREE,FOUR,FIVE,SIX,SEVEN,EIGHT,NINE;
   1EC71 INDIC SIYAQ NUMBER:ONE,TWO,THREE,FOUR,FIVE,SIX,SEVEN,EIGHT,NINE,TEN,TWENTY,THIRTY,
   FORTY,FIFTY,SIXTY,SEVENTY,EIGHTY,NINETY,ONE HUNDRED,TWO HUNDRED,THREE HUNDRED,FOUR HUNDRED,
   FIVE HUNDRED,SIX HUNDRED,SEVEN HUNDRED,EIGHT HUNDRED,NINE HUNDRED,ONE THOUSAND,
   TWO THOUSAND,THREE THOUSAND,FOUR THOUSAND,FIVE THOUSAND,SIX THOUSAND,SEVEN THOUSAND,
   EIGHT THOUSAND,NINE THOUSAND,TEN THOUSAND,TWENTY THOUSAND,THIRTY THOUSAND,FORTY THOUSAND,
   FIFTY THOUSAND,SIXTY THOUSAND,SEVENTY THOUSAND,EIGHTY THOUSAND,NINETY THOUSAND,LAKH,LAKHAN,
   ,KAROR,KARORAN,*14,ALTERNATE ONE,ALTERNATE TWO,ALTERNATE TEN THOUSAND;
   1ECA0 INDIC SIYAQ:LAKH MARK,*11,PLACEHOLDER,FRACTION ONE QUARTER,FRACTION ONE HALF,
   FRACTION THREE QUARTERS,RUPEE MARK,*3,ALTERNATE LAKH MARK;
   1ECA3 INDIC SIYAQ NUMBER PREFIXED:ONE,TWO,THREE,FOUR,FIVE,SIX,SEVEN,EIGHT,NINE;
   1ED01 OTTOMAN SIYAQ NUMBER:ONE,TWO,THREE,FOUR,FIVE,SIX,SEVEN,EIGHT,NINE,TEN,TWENTY,THIRTY,
   FORTY,FIFTY,SIXTY,SEVENTY,EIGHTY,NINETY,ONE HUNDRED,TWO HUNDRED,THREE HUNDRED,FOUR HUNDRED,
   FIVE HUNDRED,SIX HUNDRED,SEVEN HUNDRED,EIGHT HUNDRED,NINE HUNDRED,ONE THOUSAND,
   TWO THOUSAND,THREE THOUSAND,FOUR THOUSAND,FIVE THOUSAND,SIX THOUSAND,SEVEN THOUSAND,
   EIGHT THOUSAND,NINE THOUSAND,TEN THOUSAND,TWENTY THOUSAND,THIRTY THOUSAND,FORTY THOUSAND,
   FIFTY THOUSAND,SIXTY THOUSAND,SEVENTY THOUSAND,EIGHTY THOUSAND,NINETY THOUSAND;
   1ED2E OTTOMAN SIYAQ:MARRATAN,*13,FRACTION ONE HALF,FRACTION ONE SIXTH;
   1ED2F OTTOMAN SIYAQ ALTERNATE NUMBER:TWO,THREE,FOUR,FIVE,SIX,SEVEN,EIGHT,NINE,TEN,
   FOUR HUNDRED,SIX HUNDRED,TWO THOUSAND,TEN THOUSAND;1EE00 ARABIC MATHEMATICAL:ALEF,BEH,JEEM,
   DAL,,WAW,ZAIN,HAH,TAH,YEH,KAF,LAM,MEEM,NOON,SEEN,AIN,FEH,SAD,QAF,REH,SHEEN,TEH,THEH,KHAH,
   THAL,DAD,ZAH,GHAIN,DOTLESS BEH,DOTLESS NOON,DOTLESS FEH,DOTLESS QAF;
   1EE21 ARABIC MATHEMATICAL INITIAL:BEH,JEEM,,HEH,,,HAH,,YEH,KAF,LAM,MEEM,NOON,SEEN,AIN,FEH,
   SAD,QAF,,SHEEN,TEH,THEH,KHAH,,DAD,,GHAIN;1EE42 ARABIC MATHEMATICAL TAILED:JEEM,*4,HAH,,YEH,
   ,LAM,,NOON,SEEN,AIN,,SAD,QAF,,SHEEN,,,KHAH,,DAD,,GHAIN,,DOTLESS NOON,,DOTLESS QAF;
   1EE61 ARABIC MATHEMATICAL STRETCHED:BEH,JEEM,,HEH,,,HAH,TAH,YEH,KAF,,MEEM,NOON,SEEN,AIN,
   FEH,SAD,QAF,,SHEEN,TEH,THEH,KHAH,,DAD,ZAH,GHAIN,DOTLESS BEH,,DOTLESS FEH;
   1EE80 ARABIC MATHEMATICAL LOOPED:ALEF,BEH,JEEM,DAL,HEH,WAW,ZAIN,HAH,TAH,YEH,,LAM,MEEM,NOON,
   SEEN,AIN,FEH,SAD,QAF,REH,SHEEN,TEH,THEH,KHAH,THAL,DAD,ZAH,GHAIN;
   1EEA1 ARABIC MATHEMATICAL DOUBLE-STRUCK:BEH,JEEM,DAL,,WAW,ZAIN,HAH,TAH,YEH,,LAM,MEEM,NOON,
   SEEN,AIN,FEH,SAD,QAF,REH,SHEEN,TEH,THEH,KHAH,THAL,DAD,ZAH,GHAIN;
   1EEF0 ARABIC MATHEMATICAL:OPERATOR MEEM WITH HAH WITH TATWEEL,OPERATOR HAH WITH DAL;
   1F000 MAHJONG TILE:EAST WIND,SOUTH WIND,WEST WIND,NORTH WIND,RED DRAGON,GREEN DRAGON,
   WHITE DRAGON,ONE OF CHARACTERS,TWO OF CHARACTERS,THREE OF CHARACTERS,FOUR OF CHARACTERS,
   FIVE OF CHARACTERS,SIX OF CHARACTERS,SEVEN OF CHARACTERS,EIGHT OF CHARACTERS,
   NINE OF CHARACTERS,ONE OF BAMBOOS,TWO OF BAMBOOS,THREE OF BAMBOOS,FOUR OF BAMBOOS,
   FIVE OF BAMBOOS,SIX OF BAMBOOS,SEVEN OF BAMBOOS,EIGHT OF BAMBOOS,NINE OF BAMBOOS,
   ONE OF CIRCLES,TWO OF CIRCLES,THREE OF CIRCLES,FOUR OF CIRCLES,FIVE OF CIRCLES,
   SIX OF CIRCLES,SEVEN OF CIRCLES,EIGHT OF CIRCLES,NINE OF CIRCLES,PLUM,ORCHID,BAMBOO,
   CHRYSANTHEMUM,SPRING,SUMMER,AUTUMN,WINTER,JOKER,BACK;1F030 DOMINO TILE:HORIZONTAL BACK,
   HORIZONTAL-00-00*7,HORIZONTAL-01-00*7,HORIZONTAL-02-00*7,HORIZONTAL-03-00*7,
   HORIZONTAL-04-00*7,HORIZONTAL-05-00*7,HORIZONTAL-06-00*7,VERTICAL BACK,VERTICAL-00-00*7,
   VERTICAL-01-00*7,VERTICAL-02-00*7,VERTICAL-03-00*7,VERTICAL-04-00*7,VERTICAL-05-00*7,
   VERTICAL-06-00*7;1F0A0 PLAYING CARD:BACK,ACE OF SPADES,TWO OF SPADES,THREE OF SPADES,
   FOUR OF SPADES,FIVE OF SPADES,SIX OF SPADES,SEVEN OF SPADES,EIGHT OF SPADES,NINE OF SPADES,
   TEN OF SPADES,JACK OF SPADES,KNIGHT OF SPADES,QUEEN OF SPADES,KING OF SPADES,,,
   ACE OF HEARTS,TWO OF HEARTS,THREE OF HEARTS,FOUR OF HEARTS,FIVE OF HEARTS,SIX OF HEARTS,
   SEVEN OF HEARTS,EIGHT OF HEARTS,NINE OF HEARTS,TEN OF HEARTS,JACK OF HEARTS,
   KNIGHT OF HEARTS,QUEEN OF HEARTS,KING OF HEARTS,RED JOKER,,ACE OF DIAMONDS,TWO OF DIAMONDS,
   THREE OF DIAMONDS,FOUR OF DIAMONDS,FIVE OF DIAMONDS,SIX OF DIAMONDS,SEVEN OF DIAMONDS,
   EIGHT OF DIAMONDS,NINE OF DIAMONDS,TEN OF DIAMONDS,JACK OF DIAMONDS,KNIGHT OF DIAMONDS,
   QUEEN OF DIAMONDS,KING OF DIAMONDS,BLACK JOKER,,ACE OF CLUBS,TWO OF CLUBS,THREE OF CLUBS,
   FOUR OF CLUBS,FIVE OF CLUBS,SIX OF CLUBS,SEVEN OF CLUBS,EIGHT OF CLUBS,NINE OF CLUBS,
   TEN OF CLUBS,JACK OF CLUBS,KNIGHT OF CLUBS,QUEEN OF CLUBS,KING OF CLUBS,WHITE JOKER,FOOL,
   TRUMP-1*9,TRUMP-10*12;1F100 DIGIT:ZERO FULL STOP,ZERO COMMA,ONE COMMA,TWO COMMA,
   THREE COMMA,FOUR COMMA,FIVE COMMA,SIX COMMA,SEVEN COMMA,EIGHT COMMA,NINE COMMA;
   1F10B DINGBAT CIRCLED SANS-SERIF DIGIT:ZERO;
   1F10C DINGBAT NEGATIVE CIRCLED SANS-SERIF DIGIT:ZERO;1F10D CIRCLED:ZERO WITH SLASH,
   ANTICLOCKWISE ARROW,DOLLAR SIGN WITH OVERLAID BACKSLASH,*27,ITALIC LATIN CAPITAL LETTER C,
   ITALIC LATIN CAPITAL LETTER R,CD,WZ,*62,CC,C WITH OVERLAID BACKSLASH,HUMAN FIGURE;
   1F110 PARENTHESIZED LATIN CAPITAL LETTER:A*26;
   1F12A TORTOISE SHELL BRACKETED:LATIN CAPITAL LETTER S;1F12F :COPYLEFT SYMBOL;
   1F130 SQUARED LATIN CAPITAL LETTER:A*26;1F14A SQUARED:HV,MV,SD,SS,PPV,WC;
   1F150 NEGATIVE CIRCLED LATIN CAPITAL LETTER:A*26;1F16A RAISED:MC SIGN,MD SIGN,MR SIGN;
   1F170 NEGATIVE SQUARED LATIN CAPITAL LETTER:A*26;
   1F18A :CROSSED NEGATIVE SQUARED LATIN CAPITAL LETTER P,*34,MASK WORK SYMBOL;
   1F18B NEGATIVE SQUARED:IC,PA,SA,AB,WC;1F190 SQUARE:DJ;1F191 SQUARED:CL,COOL,FREE,ID,NEW,NG,
   OK,SOS,UP WITH EXCLAMATION MARK,VS,THREE D,SECOND SCREEN,TWO K,FOUR K,EIGHT K,
   FIVE POINT ONE,SEVEN POINT ONE,TWENTY-TWO POINT TWO,SIXTY P,ONE HUNDRED TWENTY P,,HC,HDR,
   HI-RES,LOSSLESS,SHV,UHD,VOD;1F1A5 SQUARED LATIN:SMALL LETTER D;
   1F1E6 REGIONAL INDICATOR SYMBOL LETTER:A*26;1F200 SQUARE:HIRAGANA HOKA;
   1F201 SQUARED:KATAKANA KOKO,KATAKANA SA,*16,KATAKANA DE;
   1F210 SQUARED CJK UNIFIED:IDEOGRAPH-624B,IDEOGRAPH-5B57,IDEOGRAPH-53CC,,IDEOGRAPH-4E8C,
   IDEOGRAPH-591A,IDEOGRAPH-89E3,IDEOGRAPH-5929,IDEOGRAPH-4EA4,IDEOGRAPH-6620,IDEOGRAPH-7121,
   IDEOGRAPH-6599,IDEOGRAPH-524D,IDEOGRAPH-5F8C,IDEOGRAPH-518D,IDEOGRAPH-65B0,IDEOGRAPH-521D,
   IDEOGRAPH-7D42,IDEOGRAPH-751F,IDEOGRAPH-8CA9,IDEOGRAPH-58F0,IDEOGRAPH-5439,IDEOGRAPH-6F14,
   IDEOGRAPH-6295,IDEOGRAPH-6355,IDEOGRAPH-4E00,IDEOGRAPH-4E09,IDEOGRAPH-904A,IDEOGRAPH-5DE6,
   IDEOGRAPH-4E2D,IDEOGRAPH-53F3,IDEOGRAPH-6307,IDEOGRAPH-8D70,IDEOGRAPH-6253,IDEOGRAPH-7981,
   IDEOGRAPH-7A7A,IDEOGRAPH-5408,IDEOGRAPH-6E80,IDEOGRAPH-6709,IDEOGRAPH-6708,IDEOGRAPH-7533,
   IDEOGRAPH-5272,IDEOGRAPH-55B6,IDEOGRAPH-914D;
   1F240 TORTOISE SHELL BRACKETED CJK UNIFIED:IDEOGRAPH-672C,IDEOGRAPH-4E09,IDEOGRAPH-4E8C,
   IDEOGRAPH-5B89,IDEOGRAPH-70B9,IDEOGRAPH-6253,IDEOGRAPH-76D7,IDEOGRAPH-52DD,IDEOGRAPH-6557;
   1F250 CIRCLED IDEOGRAPH:ADVANTAGE,ACCEPT;1F260 ROUNDED SYMBOL FOR:FU,LU,SHOU,XI,SHUANGXI,
   CAI;1F300 :CYCLONE,FOGGY,,NIGHT WITH STARS,SUNRISE OVER MOUNTAINS,SUNRISE,
   CITYSCAPE AT DUSK,SUNSET OVER BUILDINGS,RAINBOW,BRIDGE AT NIGHT,WATER WAVE,VOLCANO,
   MILKY WAY,EARTH GLOBE EUROPE-AFRICA,EARTH GLOBE AMERICAS,EARTH GLOBE ASIA-AUSTRALIA,
   GLOBE WITH MERIDIANS,,WAXING CRESCENT MOON SYMBOL,,WAXING GIBBOUS MOON SYMBOL,,
   WANING GIBBOUS MOON SYMBOL,LAST QUARTER MOON SYMBOL,WANING CRESCENT MOON SYMBOL,
   CRESCENT MOON,,,LAST QUARTER MOON WITH FACE,,SUN WITH FACE,GLOWING STAR,SHOOTING STAR,
   THERMOMETER,*5,CLOUD WITH RAIN,CLOUD WITH SNOW,CLOUD WITH LIGHTNING,CLOUD WITH TORNADO,FOG,
   WIND BLOWING FACE,HOT DOG,TACO,BURRITO,CHESTNUT,SEEDLING,EVERGREEN TREE,DECIDUOUS TREE,
   PALM TREE,CACTUS,HOT PEPPER,TULIP,CHERRY BLOSSOM,ROSE,HIBISCUS,SUNFLOWER,BLOSSOM,
   EAR OF MAIZE,EAR OF RICE,HERB,,MAPLE LEAF,FALLEN LEAF,LEAF FLUTTERING IN WIND,MUSHROOM,
   TOMATO,AUBERGINE,GRAPES,MELON,WATERMELON,TANGERINE,LEMON,BANANA,PINEAPPLE,RED APPLE,
   GREEN APPLE,PEAR,PEACH,CHERRIES,STRAWBERRY,HAMBURGER,SLICE OF PIZZA,MEAT ON BONE,
   POULTRY LEG,RICE CRACKER,RICE BALL,COOKED RICE,CURRY AND RICE,STEAMING BOWL,SPAGHETTI,
   BREAD,FRENCH FRIES,ROASTED SWEET POTATO,DANGO,ODEN,SUSHI,FRIED SHRIMP,
   FISH CAKE WITH SWIRL DESIGN,SOFT ICE CREAM,SHAVED ICE,ICE CREAM,DOUGHNUT,COOKIE,
   CHOCOLATE BAR,CANDY,LOLLIPOP,CUSTARD,HONEY POT,SHORTCAKE,BENTO BOX,POT OF FOOD,COOKING,
   FORK AND KNIFE,TEACUP WITHOUT HANDLE,SAKE BOTTLE AND CUP,WINE GLASS,COCKTAIL GLASS,
   TROPICAL DRINK,BEER MUG,CLINKING BEER MUGS,BABY BOTTLE,FORK AND KNIFE WITH PLATE,
   BOTTLE WITH POPPING CORK,POPCORN,RIBBON,WRAPPED PRESENT,BIRTHDAY CAKE,JACK-O-LANTERN,
   CHRISTMAS TREE,FATHER CHRISTMAS,FIREWORKS,FIREWORK SPARKLER,BALLOON,PARTY POPPER,
   CONFETTI BALL,TANABATA TREE,CROSSED FLAGS,PINE DECORATION,,CARP STREAMER,WIND CHIME,
   MOON VIEWING CEREMONY,SCHOOL SATCHEL,GRADUATION CAP,,BOUQUET OF FLOWERS,MILITARY MEDAL,
   REMINDER RIBBON,,STUDIO MICROPHONE,LEVEL SLIDER,CONTROL KNOBS,
   BEAMED ASCENDING MUSICAL NOTES,BEAMED DESCENDING MUSICAL NOTES,FILM FRAMES,
   ADMISSION TICKETS,CAROUSEL HORSE,FERRIS WHEEL,ROLLER COASTER,FISHING POLE AND FISH,
   MICROPHONE,MOVIE CAMERA,CINEMA,HEADPHONE,ARTIST PALETTE,,CIRCUS TENT,TICKET,CLAPPER BOARD,
   PERFORMING ARTS,VIDEO GAME,DIRECT HIT,SLOT MACHINE,BILLIARDS,GAME DIE,BOWLING,
   FLOWER PLAYING CARDS,,MULTIPLE MUSICAL NOTES,SAXOPHONE,GUITAR,,TRUMPET,VIOLIN,,
   RUNNING SHIRT WITH SASH,TENNIS RACQUET AND BALL,SKI AND SKI BOOT,BASKETBALL AND HOOP,
   CHEQUERED FLAG,SNOWBOARDER,RUNNER,SURFER,SPORTS MEDAL,TROPHY,HORSE RACING,
   AMERICAN FOOTBALL,RUGBY FOOTBALL,SWIMMER,WEIGHT LIFTER,GOLFER,RACING MOTORCYCLE,RACING CAR,
   CRICKET BAT AND BALL,VOLLEYBALL,FIELD HOCKEY STICK AND BALL,ICE HOCKEY STICK AND PUCK,
   TABLE TENNIS PADDLE AND BALL,SNOW CAPPED MOUNTAIN,CAMPING,BEACH WITH UMBRELLA,
   BUILDING CONSTRUCTION,HOUSE BUILDINGS,CITYSCAPE,DERELICT HOUSE BUILDING,CLASSICAL BUILDING,
   DESERT,DESERT ISLAND,NATIONAL PARK,STADIUM,HOUSE BUILDING,HOUSE WITH GARDEN,
   OFFICE BUILDING,,EUROPEAN POST OFFICE,HOSPITAL,BANK,AUTOMATED TELLER MACHINE,HOTEL,
   LOVE HOTEL,CONVENIENCE STORE,SCHOOL,DEPARTMENT STORE,FACTORY,IZAKAYA LANTERN,,
   EUROPEAN CASTLE,,,WAVING WHITE FLAG,WAVING BLACK FLAG,ROSETTE,,LABEL,
   BADMINTON RACQUET AND SHUTTLECOCK,BOW AND ARROW,AMPHORA,*5,RAT,MOUSE,OX,WATER BUFFALO,COW,
   TIGER,LEOPARD,RABBIT,CAT,DRAGON,CROCODILE,WHALE,SNAIL,SNAKE,HORSE,RAM,GOAT,SHEEP,MONKEY,
   ROOSTER,CHICKEN,DOG,PIG,BOAR,ELEPHANT,OCTOPUS,SPIRAL SHELL,BUG,ANT,HONEYBEE,LADY BEETLE,
   FISH,TROPICAL FISH,BLOWFISH,TURTLE,HATCHING CHICK,BABY CHICK,FRONT-FACING BABY CHICK,BIRD,
   PENGUIN,KOALA,POODLE,DROMEDARY CAMEL,BACTRIAN CAMEL,DOLPHIN,MOUSE FACE,COW FACE,TIGER FACE,
   RABBIT FACE,CAT FACE,DRAGON FACE,SPOUTING WHALE,HORSE FACE,MONKEY FACE,DOG FACE,PIG FACE,
   FROG FACE,HAMSTER FACE,WOLF FACE,BEAR FACE,PANDA FACE,PIG NOSE,PAW PRINTS,CHIPMUNK,EYES,
   EYE,EAR,NOSE,MOUTH,TONGUE,*4,FISTED HAND SIGN,WAVING HAND SIGN,OK HAND SIGN,THUMBS UP SIGN,
   THUMBS DOWN SIGN,CLAPPING HANDS SIGN,,CROWN,WOMANS HAT,EYEGLASSES,NECKTIE,T-SHIRT,JEANS,
   DRESS,KIMONO,BIKINI,WOMANS CLOTHES,PURSE,HANDBAG,POUCH,MANS SHOE,ATHLETIC SHOE,
   HIGH-HEELED SHOE,WOMANS SANDAL,WOMANS BOOTS,FOOTPRINTS,BUST IN SILHOUETTE,
   BUSTS IN SILHOUETTE,BOY,GIRL,MAN,WOMAN,FAMILY,*3,POLICE OFFICER,WOMAN WITH BUNNY EARS,
   BRIDE WITH VEIL,*3,OLDER MAN,OLDER WOMAN,BABY,CONSTRUCTION WORKER,PRINCESS,,,GHOST,
   BABY ANGEL,EXTRATERRESTRIAL ALIEN,ALIEN MONSTER,IMP,SKULL,INFORMATION DESK PERSON,
   GUARDSMAN,DANCER,LIPSTICK,NAIL POLISH,,HAIRCUT,BARBER POLE,SYRINGE,PILL,KISS MARK,
   LOVE LETTER,RING,GEM STONE,KISS,BOUQUET,COUPLE WITH HEART,WEDDING,BEATING HEART,
   BROKEN HEART,,SPARKLING HEART,GROWING HEART,,BLUE HEART,GREEN HEART,YELLOW HEART,
   PURPLE HEART,,REVOLVING HEARTS,,,ELECTRIC LIGHT BULB,ANGER SYMBOL,BOMB,SLEEPING SYMBOL,
   COLLISION SYMBOL,SPLASHING SWEAT SYMBOL,DROPLET,DASH SYMBOL,PILE OF POO,FLEXED BICEPS,
   DIZZY SYMBOL,SPEECH BALLOON,THOUGHT BALLOON,,HUNDRED POINTS SYMBOL,MONEY BAG,
   CURRENCY EXCHANGE,,CREDIT CARD,BANKNOTE WITH YEN SIGN,BANKNOTE WITH DOLLAR SIGN,
   BANKNOTE WITH EURO SIGN,BANKNOTE WITH POUND SIGN,MONEY WITH WINGS,
   CHART WITH UPWARDS TREND AND YEN SIGN,SEAT,PERSONAL COMPUTER,BRIEFCASE,MINIDISC,
   FLOPPY DISK,OPTICAL DISC,DVD,FILE FOLDER,,PAGE WITH CURL,PAGE FACING UP,CALENDAR,
   TEAR-OFF CALENDAR,CARD INDEX,CHART WITH UPWARDS TREND,CHART WITH DOWNWARDS TREND,BAR CHART,
   CLIPBOARD,PUSHPIN,ROUND PUSHPIN,PAPERCLIP,STRAIGHT RULER,TRIANGULAR RULER,BOOKMARK TABS,
   LEDGER,NOTEBOOK,NOTEBOOK WITH DECORATIVE COVER,,,GREEN BOOK,BLUE BOOK,ORANGE BOOK,BOOKS,
   NAME BADGE,SCROLL,MEMO,,PAGER,FAX MACHINE,SATELLITE ANTENNA,PUBLIC ADDRESS LOUDSPEAKER,
   CHEERING MEGAPHONE,OUTBOX TRAY,INBOX TRAY,PACKAGE,E-MAIL SYMBOL,INCOMING ENVELOPE,
   ENVELOPE WITH DOWNWARDS ARROW ABOVE,*4,POSTBOX,POSTAL HORN,NEWSPAPER,MOBILE PHONE,
   MOBILE PHONE WITH RIGHTWARDS ARROW AT LEFT,VIBRATION MODE,MOBILE PHONE OFF,,
   ANTENNA WITH BARS,CAMERA,CAMERA WITH FLASH,VIDEO CAMERA,TELEVISION,RADIO,VIDEOCASSETTE,
   FILM PROJECTOR,PORTABLE STEREO,PRAYER BEADS,TWISTED RIGHTWARDS ARROWS,*5,
   HIGH BRIGHTNESS SYMBOL,SPEAKER WITH CANCELLATION STROKE,SPEAKER,
   SPEAKER WITH ONE SOUND WAVE,SPEAKER WITH THREE SOUND WAVES,BATTERY,ELECTRIC PLUG,
   LEFT-POINTING MAGNIFYING GLASS,RIGHT-POINTING MAGNIFYING GLASS,LOCK WITH INK PEN,,KEY,LOCK,
   ,BELL,BELL WITH CANCELLATION STROKE,BOOKMARK,LINK SYMBOL,RADIO BUTTON,
   BACK WITH LEFTWARDS ARROW ABOVE,END WITH LEFTWARDS ARROW ABOVE,
   ON WITH EXCLAMATION MARK WITH LEFT RIGHT ARROW ABOVE,SOON WITH RIGHTWARDS ARROW ABOVE,,,
   KEYCAP TEN,*5,FIRE,ELECTRIC TORCH,WRENCH,HAMMER,NUT AND BOLT,HOCHO,PISTOL,MICROSCOPE,
   TELESCOPE,CRYSTAL BALL,SIX POINTED STAR WITH MIDDLE DOT,,TRIDENT EMBLEM,*9,
   DOWN-POINTING RED TRIANGLE,,DOWN-POINTING SMALL RED TRIANGLE,*5,
   NOTCHED LEFT SEMICIRCLE WITH THREE DOTS,NOTCHED RIGHT SEMICIRCLE WITH THREE DOTS,*3,
   CELTIC CROSS,OM SYMBOL,DOVE OF PEACE,KAABA,MOSQUE,SYNAGOGUE,MENORAH WITH NINE BRANCHES,
   BOWL OF HYGIEIA,*27,BULLHORN,BULLHORN WITH SOUND WAVES,RINGING BELL,BOOK,CANDLE,
   MANTELPIECE CLOCK,,,HOLE,,SLEUTH OR SPY,DARK SUNGLASSES,SPIDER,SPIDER WEB,JOYSTICK,*7,
   CLAMSHELL MOBILE PHONE,BACK OF ENVELOPE,STAMPED ENVELOPE,ENVELOPE WITH LIGHTNING,
   FLYING ENVELOPE,PEN OVER STAMPED ENVELOPE,LINKED PAPERCLIPS,*29,DESKTOP COMPUTER,
   KEYBOARD AND MOUSE,,PRINTER,POCKET CALCULATOR,,,SOFT SHELL FLOPPY DISK,TAPE CARTRIDGE,
   WIRED KEYBOARD,ONE BUTTON MOUSE,,,TRACKBALL,,HARD DISK,SCREEN,PRINTER ICON,FAX ICON,
   OPTICAL DISC ICON,DOCUMENT WITH TEXT,DOCUMENT WITH TEXT AND PICTURE,DOCUMENT WITH PICTURE,
   FRAME WITH PICTURE,FRAME WITH TILES,FRAME WITH AN X,,FOLDER,,CARD INDEX DIVIDERS,
   CARD FILE BOX,FILE CABINET,*3,NOTE,NOTE PAGE,NOTE PAD,*3,DOCUMENT,PAGE,PAGES,WASTEBASKET,
   SPIRAL NOTE PAD,SPIRAL CALENDAR PAD,DESKTOP WINDOW,MINIMIZE,MAXIMIZE,OVERLAP,,
   CANCELLATION X,INCREASE FONT SIZE SYMBOL,DECREASE FONT SIZE SYMBOL,COMPRESSION,,
   ROLLED-UP NEWSPAPER,PAGE WITH CIRCLED TEXT,STOCK CHART,DAGGER KNIFE,LIPS,
   SPEAKING HEAD IN SILHOUETTE,*12,MOOD BUBBLE,LIGHTNING MOOD BUBBLE,LIGHTNING MOOD,*7,
   WORLD MAP,MOUNT FUJI,TOKYO TOWER,STATUE OF LIBERTY,SILHOUETTE OF JAPAN,MOYAI,*9,
   WINKING FACE,,,RELIEVED FACE,,,SMIRKING FACE,,EXPRESSIONLESS FACE,UNAMUSED FACE,,
   PENSIVE FACE,CONFUSED FACE,CONFOUNDED FACE,KISSING FACE,,KISSING FACE WITH SMILING EYES,
   KISSING FACE WITH CLOSED EYES,*3,DISAPPOINTED FACE,WORRIED FACE,ANGRY FACE,POUTING FACE,
   CRYING FACE,PERSEVERING FACE,,DISAPPOINTED BUT RELIEVED FACE,FROWNING FACE WITH OPEN MOUTH,
   ANGUISHED FACE,FEARFUL FACE,WEARY FACE,SLEEPY FACE,TIRED FACE,GRIMACING FACE,
   LOUDLY CRYING FACE,,HUSHED FACE,,,ASTONISHED FACE,FLUSHED FACE,SLEEPING FACE,DIZZY FACE,*3,
   CAT FACE WITH TEARS OF JOY,,,CAT FACE WITH WRY SMILE,KISSING CAT FACE WITH CLOSED EYES,
   POUTING CAT FACE,CRYING CAT FACE,WEARY CAT FACE,SLIGHTLY FROWNING FACE,
   SLIGHTLY SMILING FACE,UPSIDE-DOWN FACE,*4,SEE-NO-EVIL MONKEY,HEAR-NO-EVIL MONKEY,
   SPEAK-NO-EVIL MONKEY,HAPPY PERSON RAISING ONE HAND,*28,HOLLOW QUILT SQUARE ORNAMENT,
   HOLLOW QUILT SQUARE ORNAMENT IN BLACK SQUARE,SOLID QUILT SQUARE ORNAMENT,
   SOLID QUILT SQUARE ORNAMENT IN BLACK SQUARE,*6,LIGATURE OPEN ET ORNAMENT,,,
   SWASH AMPERSAND ORNAMENT,SANS-SERIF HEAVY DOUBLE TURNED COMMA QUOTATION MARK ORNAMENT,
   SANS-SERIF HEAVY DOUBLE COMMA QUOTATION MARK ORNAMENT,
   SANS-SERIF HEAVY LOW DOUBLE COMMA QUOTATION MARK ORNAMENT,,SANS-SERIF INTERROBANG ORNAMENT,
   *3,CHECKER BOARD,,ROCKET,HELICOPTER,STEAM LOCOMOTIVE,RAILWAY CAR,HIGH-SPEED TRAIN,
   HIGH-SPEED TRAIN WITH BULLET NOSE,TRAIN,METRO,,STATION,TRAM,TRAM CAR,BUS,,TROLLEYBUS,
   BUS STOP,MINIBUS,AMBULANCE,FIRE ENGINE,POLICE CAR,,TAXI,,AUTOMOBILE,,RECREATIONAL VEHICLE,
   DELIVERY TRUCK,ARTICULATED LORRY,TRACTOR,MONORAIL,MOUNTAIN RAILWAY,SUSPENSION RAILWAY,
   MOUNTAIN CABLEWAY,AERIAL TRAMWAY,SHIP,ROWBOAT,SPEEDBOAT,,,CONSTRUCTION SIGN,
   POLICE CARS REVOLVING LIGHT,TRIANGULAR FLAG ON POST,DOOR,,SMOKING SYMBOL,,
   PUT LITTER IN ITS PLACE SYMBOL,DO NOT LITTER SYMBOL,POTABLE WATER SYMBOL,
   NON-POTABLE WATER SYMBOL,BICYCLE,,BICYCLIST,MOUNTAIN BICYCLIST,PEDESTRIAN,,
   CHILDREN CROSSING,MENS SYMBOL,WOMENS SYMBOL,RESTROOM,BABY SYMBOL,TOILET,WATER CLOSET,
   SHOWER,BATH,BATHTUB,PASSPORT CONTROL,CUSTOMS,BAGGAGE CLAIM,,TRIANGLE WITH ROUNDED CORNERS,
   PROHIBITED SIGN,,BOYS SYMBOL,GIRLS SYMBOL,COUCH AND LAMP,SLEEPING ACCOMMODATION,
   SHOPPING BAGS,BELLHOP BELL,BED,PLACE OF WORSHIP,OCTAGONAL SIGN,SHOPPING TROLLEY,STUPA,
   PAGODA,HINDU TEMPLE,HUT,ELEVATOR,*5,PLAYGROUND SLIDE,WHEEL,,HAMMER AND WRENCH,SHIELD,
   OIL DRUM,MOTORWAY,RAILWAY TRACK,MOTOR BOAT,*4,NORTHEAST-POINTING AIRPLANE,
   AIRPLANE DEPARTURE,AIRPLANE ARRIVING,*3,SATELLITE,,DIESEL LOCOMOTIVE,PASSENGER SHIP,
   SCOOTER,MOTOR SCOOTER,CANOE,SLED,FLYING SAUCER,SKATEBOARD,AUTO RICKSHAW,PICKUP TRUCK,
   ROLLER SKATE;1F302 CLOSED:UMBRELLA;1F311 NEW:MOON SYMBOL,*8,MOON WITH FACE;
   1F313 FIRST:QUARTER MOON SYMBOL,*7,QUARTER MOON WITH FACE;1F315 FULL:MOON SYMBOL,*7,
   MOON WITH FACE;1F322 BLACK:DROPLET;1F323 WHITE:SUN,SUN WITH SMALL CLOUD,SUN BEHIND CLOUD,
   SUN BEHIND CLOUD WITH RAIN;1F340 FOUR:LEAF CLOVER;1F38E JAPANESE:DOLLS;
   1F394 HEART:WITH TIP ON THE LEFT;1F398 MUSICAL:KEYBOARD WITH JACKS,*28,NOTE,*3,KEYBOARD,,,
   SCORE;1F3A9 TOP:HAT;1F3E3 JAPANESE:POST OFFICE,*11,CASTLE;1F3F1 WHITE:PENNANT;
   1F3F2 BLACK:PENNANT,*3,ROSETTE;1F3FB EMOJI MODIFIER FITZPATRICK:TYPE-1-2,TYPE-3*4;
   1F446 WHITE:UP POINTING BACKHAND INDEX,DOWN POINTING BACKHAND INDEX,
   LEFT POINTING BACKHAND INDEX,RIGHT POINTING BACKHAND INDEX;1F450 OPEN:HANDS SIGN;
   1F46B MAN:AND WOMAN HOLDING HANDS,*6,WITH GUA PI MAO,WITH TURBAN;
   1F46C TWO:MEN HOLDING HANDS,WOMEN HOLDING HANDS,*39,HEARTS;1F471 PERSON WITH:BLOND HAIR;
   1F479 JAPANESE:OGRE,GOBLIN;1F486 FACE:MASSAGE;1F498 HEART:WITH ARROW,*4,WITH RIBBON,,
   DECORATION;1F4A0 DIAMOND:SHAPE WITH A DOT INSIDE;1F4AE WHITE:FLOWER;
   1F4B2 HEAVY:DOLLAR SIGN;1F4C2 OPEN:FILE FOLDER,*19,BOOK,*21,MAILBOX WITH RAISED FLAG,
   MAILBOX WITH LOWERED FLAG,*37,LOCK;1F4D5 CLOSED:BOOK,*20,MAILBOX WITH LOWERED FLAG,
   MAILBOX WITH RAISED FLAG,*36,LOCK WITH KEY;1F4DE TELEPHONE:RECEIVER;1F4F5 NO:MOBILE PHONES,
   *40,ONE UNDER EIGHTEEN SYMBOL;1F501 CLOCKWISE:RIGHTWARDS AND LEFTWARDS OPEN CIRCLE ARROWS,
   RIGHTWARDS AND LEFTWARDS OPEN CIRCLE ARROWS WITH CIRCLED ONE OVERLAY,
   DOWNWARDS AND UPWARDS OPEN CIRCLE ARROWS;
   1F504 ANTICLOCKWISE:DOWNWARDS AND UPWARDS OPEN CIRCLE ARROWS;1F505 LOW:BRIGHTNESS SYMBOL;
   1F51D TOP:WITH UPWARDS ARROW ABOVE;1F520 INPUT SYMBOL FOR:LATIN CAPITAL LETTERS,
   LATIN SMALL LETTERS,NUMBERS,SYMBOLS,LATIN LETTERS;1F530 JAPANESE:SYMBOL FOR BEGINNER;
   1F532 BLACK:SQUARE BUTTON,*62,SKULL AND CROSSBONES,*13,TOUCHTONE TELEPHONE,*8,PUSHPIN,*19,
   LEFT POINTING BACKHAND INDEX,RIGHT POINTING BACKHAND INDEX,*4,UP POINTING BACKHAND INDEX,
   DOWN POINTING BACKHAND INDEX,HEART,*5,HARD SHELL FLOPPY DISK,*20,FOLDER;
   1F533 WHITE SQUARE:BUTTON;1F534 LARGE:RED CIRCLE,BLUE CIRCLE,ORANGE DIAMOND,BLUE DIAMOND;
   1F538 SMALL:ORANGE DIAMOND,BLUE DIAMOND;1F53A UP-POINTING:RED TRIANGLE,,SMALL RED TRIANGLE;
   1F53E LOWER RIGHT:SHADOWED WHITE CIRCLE;1F53F UPPER RIGHT:SHADOWED WHITE CIRCLE;
   1F540 CIRCLED:CROSS POMMEE;1F541 CROSS:POMMEE WITH HALF-CIRCLE BELOW,POMMEE;
   1F545 SYMBOL FOR:MARKS CHAPTER;1F546 WHITE:LATIN CROSS,*55,TOUCHTONE TELEPHONE,*24,
   DOWN POINTING LEFT HAND INDEX,*19,HARD SHELL FLOPPY DISK;1F547 HEAVY:LATIN CROSS;
   1F550 CLOCK FACE:ONE OCLOCK,TWO OCLOCK,THREE OCLOCK,FOUR OCLOCK,FIVE OCLOCK,SIX OCLOCK,
   SEVEN OCLOCK,EIGHT OCLOCK,NINE OCLOCK,TEN OCLOCK,ELEVEN OCLOCK,TWELVE OCLOCK,ONE-THIRTY,
   TWO-THIRTY,THREE-THIRTY,FOUR-THIRTY,FIVE-THIRTY,SIX-THIRTY,SEVEN-THIRTY,EIGHT-THIRTY,
   NINE-THIRTY,TEN-THIRTY,ELEVEN-THIRTY,TWELVE-THIRTY;1F568 RIGHT:SPEAKER,
   SPEAKER WITH ONE SOUND WAVE,SPEAKER WITH THREE SOUND WAVES,*18,HAND TELEPHONE RECEIVER;
   1F572 NO:PIRACY;1F574 MAN:IN BUSINESS SUIT LEVITATING,*5,DANCING;
   1F57B LEFT:HAND TELEPHONE RECEIVER,*18,WRITING HAND;1F57C TELEPHONE:RECEIVER WITH PAGE,*3,
   ON TOP OF MODEM;1F589 LOWER LEFT:PENCIL,BALLPOINT PEN,FOUNTAIN PEN,PAINTBRUSH,CRAYON;
   1F58F TURNED:OK HAND SIGN;1F590 RAISED:HAND WITH FINGERS SPLAYED,*5,
   HAND WITH PART BETWEEN MIDDLE AND RING FINGERS;
   1F591 REVERSED:RAISED HAND WITH FINGERS SPLAYED,THUMBS UP SIGN,THUMBS DOWN SIGN,
   VICTORY HAND,HAND WITH MIDDLE FINGER EXTENDED;1F598 SIDEWAYS:WHITE LEFT POINTING INDEX,
   WHITE RIGHT POINTING INDEX,BLACK LEFT POINTING INDEX,BLACK RIGHT POINTING INDEX,,,
   WHITE UP POINTING INDEX,WHITE DOWN POINTING INDEX,BLACK UP POINTING INDEX,
   BLACK DOWN POINTING INDEX;1F5A7 THREE:NETWORKED COMPUTERS,*9,BUTTON MOUSE,*50,RAYS ABOVE,
   RAYS BELOW,RAYS LEFT,RAYS RIGHT,*3,SPEECH BUBBLES;1F5B0 TWO:BUTTON MOUSE,*57,
   SPEECH BUBBLES;1F5B3 OLD:PERSONAL COMPUTER,*41,KEY;1F5C1 OPEN:FOLDER;1F5C5 EMPTY:NOTE,
   NOTE PAGE,NOTE PAD,*3,DOCUMENT,PAGE,PAGES;1F5D8 CLOCKWISE:RIGHT AND LEFT SEMICIRCLE ARROWS;
   1F5E8 LEFT:SPEECH BUBBLE,*3,THOUGHT BUBBLE,,ANGER BUBBLE;1F5E9 RIGHT:SPEECH BUBBLE,*3,
   THOUGHT BUBBLE,,ANGER BUBBLE;1F5F3 BALLOT BOX WITH:BALLOT,,SCRIPT X,,BOLD SCRIPT X,,
   BOLD CHECK;1F5F4 BALLOT:SCRIPT X,,BOLD SCRIPT X;1F5F8 LIGHT:CHECK MARK;1F600 GRINNING:FACE,
   FACE WITH SMILING EYES,*54,CAT FACE WITH SMILING EYES;1F602 FACE WITH:TEARS OF JOY,*16,
   COLD SWEAT,*7,STUCK-OUT TONGUE,STUCK-OUT TONGUE AND WINKING EYE,
   STUCK-OUT TONGUE AND TIGHTLY-CLOSED EYES,*6,LOOK OF TRIUMPH,*9,OPEN MOUTH,,
   OPEN MOUTH AND COLD SWEAT,*6,MEDICAL MASK,*12,ROLLING EYES,NO GOOD GESTURE,OK GESTURE;
   1F603 SMILING FACE WITH:OPEN MOUTH,OPEN MOUTH AND SMILING EYES,OPEN MOUTH AND COLD SWEAT,
   OPEN MOUTH AND TIGHTLY-CLOSED EYES,HALO,HORNS,,SMILING EYES,,,HEART-SHAPED EYES,SUNGLASSES;
   1F60B FACE:SAVOURING DELICIOUS FOOD,*12,THROWING A KISS,*24,SCREAMING IN FEAR,*4,
   WITHOUT MOUTH;1F610 NEUTRAL:FACE;1F63A SMILING:CAT FACE WITH OPEN MOUTH,
   CAT FACE WITH HEART-SHAPED EYES;1F647 PERSON:BOWING DEEPLY,*4,
   RAISING BOTH HANDS IN CELEBRATION,FROWNING;1F64E PERSON WITH:POUTING FACE,FOLDED HANDS;
   1F650 NORTH WEST:POINTING LEAF,*7,POINTING VINE LEAF,*7,POINTING BUD;
   1F651 SOUTH WEST:POINTING LEAF,*7,POINTING VINE LEAF,*7,POINTING BUD;
   1F652 NORTH EAST:POINTING LEAF,*7,POINTING VINE LEAF,*7,POINTING BUD;
   1F653 SOUTH EAST:POINTING LEAF,*7,POINTING VINE LEAF,*7,POINTING BUD;
   1F654 TURNED:NORTH WEST POINTING LEAF,SOUTH WEST POINTING LEAF,NORTH EAST POINTING LEAF,
   SOUTH EAST POINTING LEAF;1F65C HEAVY NORTH:WEST POINTING VINE LEAF,,
   EAST POINTING VINE LEAF,*5,WEST POINTING BUD,,EAST POINTING BUD;
   1F65D HEAVY SOUTH:WEST POINTING VINE LEAF,,EAST POINTING VINE LEAF,*5,WEST POINTING BUD,,
   EAST POINTING BUD;1F66C LEFTWARDS:ROCKET;1F66D UPWARDS:ROCKET;1F66E RIGHTWARDS:ROCKET;
   1F66F DOWNWARDS:ROCKET;1F670 SCRIPT:LIGATURE ET ORNAMENT;
   1F671 HEAVY:SCRIPT LIGATURE ET ORNAMENT,,LIGATURE OPEN ET ORNAMENT,AMPERSAND ORNAMENT,*4,
   INTERROBANG ORNAMENT,,SANS-SERIF INTERROBANG ORNAMENT;1F67C VERY HEAVY:SOLIDUS,
   REVERSE SOLIDUS;1F67F REVERSE:CHECKER BOARD;1F688 LIGHT:RAIL;1F68D ONCOMING:BUS,*6,
   POLICE CAR,,TAXI,,AUTOMOBILE;1F6A5 HORIZONTAL:TRAFFIC LIGHT;1F6A6 VERTICAL:TRAFFIC LIGHT;
   1F6AB NO:ENTRY SIGN,,SMOKING SYMBOL,*5,BICYCLES,*3,PEDESTRIANS;1F6C5 LEFT:LUGGAGE;
   1F6C8 CIRCLED:INFORMATION SOURCE;1F6DF RING:BUOY;1F6E6 UP-POINTING:MILITARY AIRPLANE,
   AIRPLANE,SMALL AIRPLANE;1F6E9 SMALL:AIRPLANE;1F6F1 ONCOMING:FIRE ENGINE;
   1F700 ALCHEMICAL SYMBOL FOR:QUINTESSENCE,AIR,FIRE,EARTH,WATER,AQUAFORTIS,AQUA REGIA,
   AQUA REGIA-2,AQUA VITAE,AQUA VITAE-2,VINEGAR,VINEGAR-2*2,SULFUR,PHILOSOPHERS SULFUR,
   BLACK SULFUR,MERCURY SUBLIMATE,MERCURY SUBLIMATE-2*2,CINNABAR,SALT,NITRE,VITRIOL,VITRIOL-2,
   ROCK SALT,ROCK SALT-2,GOLD,SILVER,IRON ORE,IRON ORE-2,CROCUS OF IRON,REGULUS OF IRON,
   COPPER ORE,IRON-COPPER ORE,SUBLIMATE OF COPPER,CROCUS OF COPPER,CROCUS OF COPPER-2,
   COPPER ANTIMONIATE,SALT OF COPPER ANTIMONIATE,SUBLIMATE OF SALT OF COPPER,VERDIGRIS,
   TIN ORE,LEAD ORE,ANTIMONY ORE,SUBLIMATE OF ANTIMONY,SALT OF ANTIMONY,
   SUBLIMATE OF SALT OF ANTIMONY,VINEGAR OF ANTIMONY,REGULUS OF ANTIMONY,
   REGULUS OF ANTIMONY-2,REGULUS,REGULUS-2*3,ALKALI,ALKALI-2,MARCASITE,SAL-AMMONIAC,ARSENIC,
   REALGAR,REALGAR-2,AURIPIGMENT,BISMUTH ORE,TARTAR,TARTAR-2,QUICK LIME,BORAX,BORAX-2*2,ALUM,
   OIL,SPIRIT,TINCTURE,GUM,WAX,POWDER,CALX,TUTTY,CAPUT MORTUUM,SCEPTER OF JOVE,CADUCEUS,
   TRIDENT,STARRED TRIDENT,LODESTONE,SOAP,URINE,HORSE DUNG,ASHES,POT ASHES,BRICK,
   POWDERED BRICK,AMALGAM,STRATUM SUPER STRATUM,STRATUM SUPER STRATUM-2,SUBLIMATION,
   PRECIPITATE,DISTILL,DISSOLVE,DISSOLVE-2,PURIFY,PUTREFACTION,CRUCIBLE,CRUCIBLE-2*4,ALEMBIC,
   BATH OF MARY,BATH OF VAPOURS,RETORT,HOUR,NIGHT,DAY-NIGHT,MONTH,HALF DRAM,HALF OUNCE;
   1F780 BLACK LEFT-POINTING:ISOSCELES RIGHT TRIANGLE;
   1F781 BLACK:UP-POINTING ISOSCELES RIGHT TRIANGLE,,DOWN-POINTING ISOSCELES RIGHT TRIANGLE,
   SLIGHTLY SMALL CIRCLE,*7,TINY SQUARE,SLIGHTLY SMALL SQUARE,*9,TINY DIAMOND,
   VERY SMALL DIAMOND,*4,TINY LOZENGE,VERY SMALL LOZENGE;
   1F782 BLACK RIGHT-POINTING:ISOSCELES RIGHT TRIANGLE;1F785 MEDIUM:BOLD WHITE CIRCLE,*9,
   WHITE SQUARE,*19,GREEK CROSS,*6,SALTIRE,*5,FIVE SPOKED ASTERISK,*5,SIX SPOKED ASTERISK,*5,
   EIGHT SPOKED ASTERISK,*4,THREE POINTED BLACK STAR,,THREE POINTED PINWHEEL STAR,,
   FOUR POINTED BLACK STAR,,FOUR POINTED PINWHEEL STAR,*3,SIX POINTED BLACK STAR,,,
   EIGHT POINTED BLACK STAR;1F786 BOLD:WHITE CIRCLE,*9,WHITE SQUARE,*19,GREEK CROSS,*6,
   SALTIRE,*5,FIVE SPOKED ASTERISK,*5,SIX SPOKED ASTERISK,*5,EIGHT SPOKED ASTERISK;
   1F787 HEAVY:WHITE CIRCLE,*9,WHITE SQUARE,*26,SALTIRE,*5,FIVE SPOKED ASTERISK,*5,
   SIX SPOKED ASTERISK,*17,FIVE POINTED BLACK STAR,,SIX POINTED BLACK STAR,*6,
   TWELVE POINTED BLACK STAR,TWELVE POINTED PINWHEEL STAR,*27,EQUALS SIGN,*39,
   LEFTWARDS ARROW WITH EQUILATERAL ARROWHEAD,UPWARDS ARROW WITH EQUILATERAL ARROWHEAD,
   RIGHTWARDS ARROW WITH EQUILATERAL ARROWHEAD,DOWNWARDS ARROW WITH EQUILATERAL ARROWHEAD,
   LEFTWARDS ARROW WITH LARGE EQUILATERAL ARROWHEAD,
   UPWARDS ARROW WITH LARGE EQUILATERAL ARROWHEAD,
   RIGHTWARDS ARROW WITH LARGE EQUILATERAL ARROWHEAD,
   DOWNWARDS ARROW WITH LARGE EQUILATERAL ARROWHEAD;1F788 VERY HEAVY:WHITE CIRCLE,*9,
   WHITE SQUARE,*19,GREEK CROSS,*6,SALTIRE,*5,FIVE SPOKED ASTERISK,*5,SIX SPOKED ASTERISK,*5,
   EIGHT SPOKED ASTERISK,*16,EIGHT POINTED BLACK STAR;1F789 EXTREMELY HEAVY:WHITE CIRCLE,*9,
   WHITE SQUARE,*19,GREEK CROSS,*6,SALTIRE,*5,FIVE SPOKED ASTERISK,*5,SIX SPOKED ASTERISK;
   1F78A WHITE CIRCLE:CONTAINING BLACK SMALL CIRCLE;1F78B :ROUND TARGET,*21,THIN GREEK CROSS,
   *6,THIN SALTIRE,*36,SIX POINTED PINWHEEL STAR;1F78E LIGHT:WHITE SQUARE,*19,GREEK CROSS,*6,
   SALTIRE,*5,FIVE SPOKED ASTERISK,*5,SIX SPOKED ASTERISK,*5,EIGHT SPOKED ASTERISK,*4,
   THREE POINTED BLACK STAR,*3,FOUR POINTED BLACK STAR,*4,FIVE POINTED BLACK STAR,*8,
   TWELVE POINTED BLACK STAR;1F794 WHITE SQUARE:CONTAINING BLACK VERY SMALL SQUARE,
   CONTAINING BLACK MEDIUM SQUARE;1F796 SQUARE:TARGET;1F799 BLACK MEDIUM:SMALL DIAMOND,*5,
   SMALL LOZENGE;1F79A WHITE DIAMOND:CONTAINING BLACK VERY SMALL DIAMOND,
   CONTAINING BLACK MEDIUM DIAMOND;1F79C DIAMOND:TARGET;
   1F7A0 WHITE:LOZENGE CONTAINING BLACK SMALL LOZENGE;1F7A5 VERY:BOLD GREEK CROSS;
   1F7BE HEAVY EIGHT:SPOKED ASTERISK,*16,POINTED BLACK STAR,,POINTED PINWHEEL STAR;
   1F7C2 THREE:POINTED BLACK STAR;1F7C6 FOUR:POINTED BLACK STAR;
   1F7C8 REVERSE:LIGHT FOUR POINTED PINWHEEL STAR;1F7D5 CIRCLED:TRIANGLE,,SQUARE;
   1F7D6 NEGATIVE CIRCLED:TRIANGLE,,SQUARE;1F7E0 LARGE:ORANGE CIRCLE,YELLOW CIRCLE,
   GREEN CIRCLE,PURPLE CIRCLE,BROWN CIRCLE,RED SQUARE,BLUE SQUARE,ORANGE SQUARE,YELLOW SQUARE,
   GREEN SQUARE,PURPLE SQUARE,BROWN SQUARE;1F800 LEFTWARDS ARROW WITH:SMALL TRIANGLE
    ARROWHEAD,*3,MEDIUM TRIANGLE ARROWHEAD,*3,LARGE TRIANGLE ARROWHEAD,*7,
   SMALL EQUILATERAL ARROWHEAD,*3,EQUILATERAL ARROWHEAD;
   1F801 UPWARDS ARROW WITH:SMALL TRIANGLE ARROWHEAD,*3,MEDIUM TRIANGLE ARROWHEAD,*3,
   LARGE TRIANGLE ARROWHEAD,*7,SMALL EQUILATERAL ARROWHEAD,*3,EQUILATERAL ARROWHEAD;
   1F802 RIGHTWARDS ARROW WITH:SMALL TRIANGLE ARROWHEAD,*3,MEDIUM TRIANGLE ARROWHEAD,*3,
   LARGE TRIANGLE ARROWHEAD,*7,SMALL EQUILATERAL ARROWHEAD,*3,EQUILATERAL ARROWHEAD;
   1F803 DOWNWARDS ARROW WITH:SMALL TRIANGLE ARROWHEAD,*3,MEDIUM TRIANGLE ARROWHEAD,*3,
   LARGE TRIANGLE ARROWHEAD,*7,SMALL EQUILATERAL ARROWHEAD,*3,EQUILATERAL ARROWHEAD;
   1F820 LEFTWARDS TRIANGLE-HEADED ARROW WITH:NARROW SHAFT,*3,MEDIUM SHAFT,*3,BOLD SHAFT,*3,
   HEAVY SHAFT,*3,VERY HEAVY SHAFT;1F821 UPWARDS TRIANGLE-HEADED ARROW WITH:NARROW SHAFT,*3,
   MEDIUM SHAFT,*3,BOLD SHAFT,*3,HEAVY SHAFT,*3,VERY HEAVY SHAFT;
   1F822 RIGHTWARDS TRIANGLE-HEADED ARROW WITH:NARROW SHAFT,*3,MEDIUM SHAFT,*3,BOLD SHAFT,*3,
   HEAVY SHAFT,*3,VERY HEAVY SHAFT;1F823 DOWNWARDS TRIANGLE-HEADED ARROW WITH:NARROW SHAFT,*3,
   MEDIUM SHAFT,*3,BOLD SHAFT,*3,HEAVY SHAFT,*3,VERY HEAVY SHAFT;
   1F834 LEFTWARDS:FINGER-POST ARROW,*3,SQUARED ARROW,*3,COMPRESSED ARROW,*3,
   HEAVY COMPRESSED ARROW,*3,HEAVY ARROW,*11,SANS-SERIF ARROW,*63,TRIANGLE ARROWHEAD,*3,
   WHITE ARROW WITHIN TRIANGLE ARROWHEAD,*11,BOTTOM-SHADED WHITE ARROW,,
   TOP SHADED WHITE ARROW,,LEFT-SHADED WHITE ARROW,,RIGHT-SHADED WHITE ARROW,,
   BACK-TILTED SHADOWED WHITE ARROW,,FRONT-TILTED SHADOWED WHITE ARROW;
   1F835 UPWARDS:FINGER-POST ARROW,*3,SQUARED ARROW,*3,COMPRESSED ARROW,*3,
   HEAVY COMPRESSED ARROW,*3,HEAVY ARROW,*11,SANS-SERIF ARROW,*63,TRIANGLE ARROWHEAD;
   1F836 RIGHTWARDS:FINGER-POST ARROW,*3,SQUARED ARROW,*3,COMPRESSED ARROW,*3,
   HEAVY COMPRESSED ARROW,*3,HEAVY ARROW,*11,SANS-SERIF ARROW,*63,TRIANGLE ARROWHEAD,*3,
   WHITE ARROW WITHIN TRIANGLE ARROWHEAD,*10,BOTTOM SHADED WHITE ARROW,,
   TOP SHADED WHITE ARROW,,RIGHT-SHADED WHITE ARROW,,LEFT-SHADED WHITE ARROW,,
   BACK-TILTED SHADOWED WHITE ARROW,,FRONT-TILTED SHADOWED WHITE ARROW;
   1F837 DOWNWARDS:FINGER-POST ARROW,*3,SQUARED ARROW,*3,COMPRESSED ARROW,*3,
   HEAVY COMPRESSED ARROW,*3,HEAVY ARROW,*11,SANS-SERIF ARROW,*63,TRIANGLE ARROWHEAD,*3,
   WHITE ARROW WITHIN TRIANGLE ARROWHEAD;1F854 NORTH WEST:SANS-SERIF ARROW;
   1F855 NORTH EAST:SANS-SERIF ARROW;1F856 SOUTH EAST:SANS-SERIF ARROW;
   1F857 SOUTH WEST:SANS-SERIF ARROW;1F858 LEFT RIGHT:SANS-SERIF ARROW;
   1F859 UP DOWN:SANS-SERIF ARROW;1F860 WIDE-HEADED LEFTWARDS:LIGHT BARB ARROW,*7,BARB ARROW,
   *7,MEDIUM BARB ARROW,*7,HEAVY BARB ARROW,*7,VERY HEAVY BARB ARROW;
   1F861 WIDE-HEADED UPWARDS:LIGHT BARB ARROW,*7,BARB ARROW,*7,MEDIUM BARB ARROW,*7,
   HEAVY BARB ARROW,*7,VERY HEAVY BARB ARROW;1F862 WIDE-HEADED RIGHTWARDS:LIGHT BARB ARROW,*7,
   BARB ARROW,*7,MEDIUM BARB ARROW,*7,HEAVY BARB ARROW,*7,VERY HEAVY BARB ARROW;
   1F863 WIDE-HEADED DOWNWARDS:LIGHT BARB ARROW,*7,BARB ARROW,*7,MEDIUM BARB ARROW,*7,
   HEAVY BARB ARROW,*7,VERY HEAVY BARB ARROW;1F864 WIDE-HEADED NORTH WEST:LIGHT BARB ARROW,*7,
   BARB ARROW,*7,MEDIUM BARB ARROW,*7,HEAVY BARB ARROW,*7,VERY HEAVY BARB ARROW;
   1F865 WIDE-HEADED NORTH EAST:LIGHT BARB ARROW,*7,BARB ARROW,*7,MEDIUM BARB ARROW,*7,
   HEAVY BARB ARROW,*7,VERY HEAVY BARB ARROW;1F866 WIDE-HEADED SOUTH EAST:LIGHT BARB ARROW,*7,
   BARB ARROW,*7,MEDIUM BARB ARROW,*7,HEAVY BARB ARROW,*7,VERY HEAVY BARB ARROW;
   1F867 WIDE-HEADED SOUTH WEST:LIGHT BARB ARROW,*7,BARB ARROW,*7,MEDIUM BARB ARROW,*7,
   HEAVY BARB ARROW,*7,VERY HEAVY BARB ARROW;
   1F895 UPWARDS WHITE ARROW:WITHIN TRIANGLE ARROWHEAD;
   1F898 LEFTWARDS ARROW WITH:NOTCHED TAIL;1F899 UPWARDS ARROW WITH:NOTCHED TAIL;
   1F89A RIGHTWARDS ARROW WITH:NOTCHED TAIL;1F89B DOWNWARDS ARROW WITH:NOTCHED TAIL;
   1F89C HEAVY:ARROW SHAFT WIDTH ONE,ARROW SHAFT WIDTH TWO THIRDS,ARROW SHAFT WIDTH ONE HALF,
   ARROW SHAFT WIDTH ONE THIRD;1F8AC WHITE:ARROW SHAFT WIDTH ONE,ARROW SHAFT WIDTH TWO THIRDS;
   1F8B0 ARROW POINTING:UPWARDS THEN NORTH WEST,RIGHTWARDS THEN CURVING SOUTH WEST;
   1F900 CIRCLED:CROSS FORMEE WITH FOUR DOTS,CROSS FORMEE WITH TWO DOTS,CROSS FORMEE;
   1F903 LEFT HALF:CIRCLE WITH FOUR DOTS,CIRCLE WITH THREE DOTS,CIRCLE WITH TWO DOTS,
   CIRCLE WITH DOT,CIRCLE;1F908 :DOWNWARD FACING HOOK,DOWNWARD FACING NOTCHED HOOK,
   DOWNWARD FACING HOOK WITH DOT,DOWNWARD FACING NOTCHED HOOK WITH DOT,PINCHED FINGERS,,
   BROWN HEART,PINCHING HAND,ZIPPER-MOUTH FACE,MONEY-MOUTH FACE,,NERD FACE,THINKING FACE,,
   ROBOT FACE,HUGGING FACE,SIGN OF THE HORNS,CALL ME HAND,,LEFT-FACING FIST,RIGHT-FACING FIST,
   HANDSHAKE,HAND WITH INDEX AND MIDDLE FINGERS CROSSED,I LOVE YOU HAND SIGN,,CLOWN FACE,
   NAUSEATED FACE,ROLLING ON THE FLOOR LAUGHING,DROOLING FACE,LYING FACE,,SNEEZING FACE,*4,
   SERIOUS FACE WITH SYMBOLS COVERING MOUTH,,,SHOCKED FACE WITH EXPLODING HEAD,PREGNANT WOMAN,
   BREAST-FEEDING,PALMS UP TOGETHER,SELFIE,PRINCE,,MOTHER CHRISTMAS,SHRUG,,JUGGLING,FENCER,
   MODERN PENTATHLON,WRESTLERS,WATER POLO,HANDBALL,DIVING MASK,WILTED FLOWER,
   DRUM WITH DRUMSTICKS,CLINKING GLASSES,TUMBLER GLASS,SPOON,GOAL NET,RIFLE,,
   SECOND PLACE MEDAL,THIRD PLACE MEDAL,BOXING GLOVE,MARTIAL ARTS UNIFORM,CURLING STONE,
   LACROSSE STICK AND BALL,SOFTBALL,FLYING DISC,CROISSANT,AVOCADO,CUCUMBER,BACON,POTATO,
   CARROT,BAGUETTE BREAD,GREEN SALAD,SHALLOW PAN OF FOOD,STUFFED FLATBREAD,EGG,GLASS OF MILK,
   PEANUTS,KIWIFRUIT,PANCAKES,DUMPLING,FORTUNE COOKIE,TAKEOUT BOX,CHOPSTICKS,BOWL WITH SPOON,
   CUP WITH STRAW,COCONUT,BROCCOLI,PIE,PRETZEL,CUT OF MEAT,SANDWICH,CANNED FOOD,LEAFY GREEN,
   MANGO,MOON CAKE,BAGEL,,YAWNING FACE,*3,OVERHEATED FACE,FREEZING FACE,NINJA,DISGUISED FACE,,
   ,SARI,LAB COAT,GOGGLES,HIKING BOOT,FLAT SHOE,CRAB,LION FACE,SCORPION,TURKEY,UNICORN FACE,
   EAGLE,DUCK,BAT,SHARK,OWL,FOX FACE,BUTTERFLY,DEER,GORILLA,LIZARD,RHINOCEROS,SHRIMP,SQUID,
   GIRAFFE FACE,ZEBRA FACE,HEDGEHOG,SAUROPOD,T-REX,CRICKET,KANGAROO,LLAMA,PEACOCK,
   HIPPOPOTAMUS,PARROT,RACCOON,LOBSTER,MOSQUITO,MICROBE,BADGER,SWAN,MAMMOTH,DODO,SLOTH,OTTER,
   ORANGUTAN,SKUNK,FLAMINGO,OYSTER,BEAVER,BISON,SEAL,GUIDE DOG,PROBING CANE,*4,BONE,LEG,FOOT,
   TOOTH,SUPERHERO,SUPERVILLAIN,SAFETY VEST,EAR WITH HEARING AID,MOTORIZED WHEELCHAIR,
   MANUAL WHEELCHAIR,MECHANICAL ARM,MECHANICAL LEG,CHEESE WEDGE,CUPCAKE,SALT SHAKER,
   BEVERAGE BOX,GARLIC,ONION,FALAFEL,WAFFLE,BUTTER,MATE DRINK,ICE CUBE,BUBBLE TEA,TROLL,
   STANDING PERSON,KNEELING PERSON,DEAF PERSON,,ADULT,CHILD,OLDER ADULT,BEARDED PERSON,*4,
   MAGE,FAIRY,VAMPIRE,MERPERSON,ELF,GENIE,ZOMBIE,BRAIN,ORANGE HEART,BILLED CAP,SCARF,GLOVES,
   COAT,SOCKS,RED GIFT ENVELOPE,FIRECRACKER,JIGSAW PUZZLE PIECE,TEST TUBE,PETRI DISH,
   DNA DOUBLE HELIX,COMPASS,ABACUS,FIRE EXTINGUISHER,TOOLBOX,BRICK,MAGNET,LUGGAGE,
   LOTION BOTTLE,SPOOL OF THREAD,BALL OF YARN,SAFETY PIN,TEDDY BEAR,BROOM,BASKET,
   ROLL OF PAPER,BAR OF SOAP,SPONGE,RECEIPT,NAZAR AMULET;1F90D WHITE:HEART;
   1F912 FACE WITH:THERMOMETER,,,HEAD-BANDAGE,*10,COWBOY HAT,*7,ONE EYEBROW RAISED,,,
   FINGER COVERING CLOSED LIPS,,,OPEN MOUTH VOMITING;1F91A RAISED:BACK OF HAND;
   1F926 FACE:PALM;1F929 GRINNING:FACE WITH STAR EYES,FACE WITH ONE LARGE AND ONE SMALL EYE;
   1F92D SMILING FACE WITH:SMILING EYES AND HAND COVERING MOUTH;1F935 MAN:IN TUXEDO;
   1F938 PERSON:DOING CARTWHEEL;1F947 FIRST:PLACE MEDAL;
   1F970 SMILING FACE WITH:SMILING EYES AND THREE HEARTS,,TEAR;
   1F973 FACE WITH:PARTY HORN AND PARTY HAT,UNEVEN EYES AND WAVY MOUTH,*5,PLEADING EYES;
   1F979 FACE:HOLDING BACK TEARS;1F9B0 EMOJI:COMPONENT RED HAIR,COMPONENT CURLY HAIR,
   COMPONENT BALD,COMPONENT WHITE HAIR;1F9D0 FACE WITH:MONOCLE;1F9D5 PERSON WITH:HEADSCARF;
   1F9D6 PERSON:IN STEAMY ROOM,CLIMBING,IN LOTUS POSITION;1FA00 NEUTRAL CHESS:KING,QUEEN,ROOK,
   BISHOP,KNIGHT,PAWN,*15,KING ROTATED NINETY DEGREES,QUEEN ROTATED NINETY DEGREES,
   ROOK ROTATED NINETY DEGREES,BISHOP ROTATED NINETY DEGREES,,PAWN ROTATED NINETY DEGREES,*36,
   KING ROTATED TWO HUNDRED SEVENTY DEGREES,QUEEN ROTATED TWO HUNDRED SEVENTY DEGREES,
   ROOK ROTATED TWO HUNDRED SEVENTY DEGREES,BISHOP ROTATED TWO HUNDRED SEVENTY DEGREES,,
   PAWN ROTATED TWO HUNDRED SEVENTY DEGREES,*5,EQUIHOPPER,,,EQUIHOPPER ROTATED NINETY DEGREES;
   1FA06 WHITE CHESS KNIGHT ROTATED:FORTY-FIVE DEGREES,*6,NINETY DEGREES,*13,
   ONE HUNDRED THIRTY-FIVE DEGREES,*20,TWO HUNDRED TWENTY-FIVE DEGREES,*6,
   TWO HUNDRED SEVENTY DEGREES,*13,THREE HUNDRED FIFTEEN DEGREES;
   1FA07 BLACK CHESS KNIGHT ROTATED:FORTY-FIVE DEGREES,*11,NINETY DEGREES,*8,
   ONE HUNDRED THIRTY-FIVE DEGREES,*20,TWO HUNDRED TWENTY-FIVE DEGREES,*11,
   TWO HUNDRED SEVENTY DEGREES,*8,THREE HUNDRED FIFTEEN DEGREES;
   1FA08 NEUTRAL CHESS KNIGHT ROTATED:FORTY-FIVE DEGREES,*16,NINETY DEGREES,*3,
   ONE HUNDRED THIRTY-FIVE DEGREES,*20,TWO HUNDRED TWENTY-FIVE DEGREES,*16,
   TWO HUNDRED SEVENTY DEGREES,*3,THREE HUNDRED FIFTEEN DEGREES;
   1FA09 WHITE CHESS:KING ROTATED NINETY DEGREES,QUEEN ROTATED NINETY DEGREES,
   ROOK ROTATED NINETY DEGREES,BISHOP ROTATED NINETY DEGREES,,PAWN ROTATED NINETY DEGREES,*36,
   KING ROTATED TWO HUNDRED SEVENTY DEGREES,QUEEN ROTATED TWO HUNDRED SEVENTY DEGREES,
   ROOK ROTATED TWO HUNDRED SEVENTY DEGREES,BISHOP ROTATED TWO HUNDRED SEVENTY DEGREES,,
   PAWN ROTATED TWO HUNDRED SEVENTY DEGREES,*15,EQUIHOPPER,,,
   EQUIHOPPER ROTATED NINETY DEGREES,,,KNIGHT-QUEEN,KNIGHT-ROOK,KNIGHT-BISHOP;
   1FA0F BLACK CHESS:KING ROTATED NINETY DEGREES,QUEEN ROTATED NINETY DEGREES,
   ROOK ROTATED NINETY DEGREES,BISHOP ROTATED NINETY DEGREES,,PAWN ROTATED NINETY DEGREES,*36,
   KING ROTATED TWO HUNDRED SEVENTY DEGREES,QUEEN ROTATED TWO HUNDRED SEVENTY DEGREES,
   ROOK ROTATED TWO HUNDRED SEVENTY DEGREES,BISHOP ROTATED TWO HUNDRED SEVENTY DEGREES,,
   PAWN ROTATED TWO HUNDRED SEVENTY DEGREES,*10,EQUIHOPPER,,,
   EQUIHOPPER ROTATED NINETY DEGREES,*4,KNIGHT-QUEEN,KNIGHT-ROOK,KNIGHT-BISHOP;
   1FA1E WHITE CHESS TURNED:KING,QUEEN,ROOK,BISHOP,KNIGHT,PAWN;1FA24 BLACK CHESS TURNED:KING,
   QUEEN,ROOK,BISHOP,KNIGHT,PAWN;1FA2A NEUTRAL CHESS TURNED:KING,QUEEN,ROOK,BISHOP,KNIGHT,
   PAWN;1FA60 XIANGQI RED:GENERAL,MANDARIN,ELEPHANT,HORSE,CHARIOT,CANNON,SOLDIER;
   1FA67 XIANGQI BLACK:GENERAL,MANDARIN,ELEPHANT,HORSE,CHARIOT,CANNON,SOLDIER;
   1FA70 :BALLET SHOES,ONE-PIECE SWIMSUIT,BRIEFS,SHORTS,THONG SANDAL,*3,DROP OF BLOOD,
   ADHESIVE BANDAGE,STETHOSCOPE,X-RAY,CRUTCH,*3,YO-YO,KITE,PARACHUTE,BOOMERANG,MAGIC WAND,
   PINATA,NESTING DOLLS,*9,RINGED PLANET,CHAIR,RAZOR,AXE,DIYA LAMP,BANJO,MILITARY HELMET,
   ACCORDION,,COIN,CARPENTRY SAW,SCREWDRIVER,LADDER,HOOK,MIRROR,WINDOW,PLUNGER,SEWING NEEDLE,
   KNOT,BUCKET,MOUSE TRAP,TOOTHBRUSH,HEADSTONE,PLACARD,ROCK,MIRROR BALL,IDENTIFICATION CARD,,
   HAMSA,*3,FLY,WORM,BEETLE,COCKROACH,POTTED PLANT,WOOD,FEATHER,LOTUS,CORAL,,NEST WITH EGGS,
   *5,ANATOMICAL HEART,LUNGS,PEOPLE HUGGING,PREGNANT MAN,PREGNANT PERSON,*11,BLUEBERRIES,
   BELL PEPPER,OLIVE,FLATBREAD,TAMALE,FONDUE,TEAPOT,POURING LIQUID,BEANS,JAR,*6,MELTING FACE,
   SALUTING FACE,*4,BITING LIP,BUBBLES,*8,HAND WITH INDEX FINGER AND THUMB CROSSED,,,
   PALM DOWN HAND,PALM UP HAND,INDEX POINTING AT THE VIEWER;1FA98 LONG:DRUM;1FAAB LOW:BATTERY;
   1FAB9 EMPTY:NEST;1FAC5 PERSON WITH:CROWN;1FAE2 FACE WITH:OPEN EYES AND HAND OVER MOUTH,
   PEEKING EYE,DIAGONAL MOUTH;1FAE5 DOTTED:LINE FACE;1FAF1 RIGHTWARDS:HAND;
   1FAF2 LEFTWARDS:HAND;1FAF6 HEART:HANDS;1FB00 BLOCK:SEXTANT-1*2,SEXTANT-12,SEXTANT-3,
   SEXTANT-13,SEXTANT-23,SEXTANT-123,SEXTANT-4,SEXTANT-14,SEXTANT-24,SEXTANT-124,SEXTANT-34,
   SEXTANT-134,SEXTANT-234,SEXTANT-1234,SEXTANT-5,SEXTANT-15,SEXTANT-25,SEXTANT-125,
   SEXTANT-35,SEXTANT-235,SEXTANT-1235,SEXTANT-45,SEXTANT-145,SEXTANT-245,SEXTANT-1245,
   SEXTANT-345,SEXTANT-1345,SEXTANT-2345,SEXTANT-12345,SEXTANT-6,SEXTANT-16,SEXTANT-26,
   SEXTANT-126,SEXTANT-36,SEXTANT-136,SEXTANT-236,SEXTANT-1236,SEXTANT-46,SEXTANT-146,
   SEXTANT-1246,SEXTANT-346,SEXTANT-1346,SEXTANT-2346,SEXTANT-12346,SEXTANT-56,SEXTANT-156,
   SEXTANT-256,SEXTANT-1256,SEXTANT-356,SEXTANT-1356,SEXTANT-2356,SEXTANT-12356,SEXTANT-456,
   SEXTANT-1456,SEXTANT-2456,SEXTANT-12456,SEXTANT-3456,SEXTANT-13456,SEXTANT-23456;
   1FB3C LOWER LEFT BLOCK DIAGONAL:LOWER MIDDLE LEFT TO LOWER CENTRE,
   LOWER MIDDLE LEFT TO LOWER RIGHT;1FB3E LOWER LEFT BLOCK DIAGONAL UPPER:MIDDLE LEFT TO
    LOWER CENTRE,MIDDLE LEFT TO LOWER RIGHT,LEFT TO LOWER CENTRE,*11,
   CENTRE TO UPPER MIDDLE RIGHT,LEFT TO UPPER MIDDLE RIGHT,CENTRE TO LOWER MIDDLE RIGHT,
   LEFT TO LOWER MIDDLE RIGHT,CENTRE TO LOWER RIGHT,MIDDLE LEFT TO LOWER MIDDLE RIGHT;
   1FB41 LOWER RIGHT BLOCK DIAGONAL:UPPER MIDDLE LEFT TO UPPER CENTRE,
   UPPER MIDDLE LEFT TO UPPER RIGHT;1FB43 LOWER RIGHT BLOCK DIAGONAL LOWER:MIDDLE LEFT TO
    UPPER CENTRE,MIDDLE LEFT TO UPPER RIGHT,LEFT TO UPPER CENTRE,
   MIDDLE LEFT TO UPPER MIDDLE RIGHT,CENTRE TO LOWER MIDDLE RIGHT,LEFT TO LOWER MIDDLE RIGHT,
   CENTRE TO UPPER MIDDLE RIGHT,LEFT TO UPPER MIDDLE RIGHT,CENTRE TO UPPER RIGHT;
   1FB52 UPPER RIGHT BLOCK DIAGONAL:LOWER MIDDLE LEFT TO LOWER CENTRE,
   LOWER MIDDLE LEFT TO LOWER RIGHT;1FB54 UPPER RIGHT BLOCK DIAGONAL UPPER:MIDDLE LEFT TO
    LOWER CENTRE,MIDDLE LEFT TO LOWER RIGHT,LEFT TO LOWER CENTRE,*11,
   CENTRE TO UPPER MIDDLE RIGHT,LEFT TO UPPER MIDDLE RIGHT,CENTRE TO LOWER MIDDLE RIGHT,
   LEFT TO LOWER MIDDLE RIGHT,CENTRE TO LOWER RIGHT,MIDDLE LEFT TO LOWER MIDDLE RIGHT;
   1FB57 UPPER LEFT BLOCK DIAGONAL:UPPER MIDDLE LEFT TO UPPER CENTRE,
   UPPER MIDDLE LEFT TO UPPER RIGHT;1FB59 UPPER LEFT BLOCK DIAGONAL LOWER:MIDDLE LEFT TO
    UPPER CENTRE,MIDDLE LEFT TO UPPER RIGHT,LEFT TO UPPER CENTRE,
   MIDDLE LEFT TO UPPER MIDDLE RIGHT,CENTRE TO LOWER MIDDLE RIGHT,LEFT TO LOWER MIDDLE RIGHT,
   CENTRE TO UPPER MIDDLE RIGHT,LEFT TO UPPER MIDDLE RIGHT,CENTRE TO UPPER RIGHT;
   1FB68 UPPER:AND RIGHT AND LOWER TRIANGULAR THREE QUARTERS BLOCK,,
   AND LEFT AND LOWER TRIANGULAR THREE QUARTERS BLOCK,,,TRIANGULAR ONE QUARTER BLOCK,*18,
   AND LOWER ONE EIGHTH BLOCK,,ONE QUARTER BLOCK,THREE EIGHTHS BLOCK,FIVE EIGHTHS BLOCK,
   THREE QUARTERS BLOCK,SEVEN EIGHTHS BLOCK,*19,AND LOWER TRIANGULAR HALF BLOCK;
   1FB69 LEFT AND:LOWER AND RIGHT TRIANGULAR THREE QUARTERS BLOCK,,
   UPPER AND RIGHT TRIANGULAR THREE QUARTERS BLOCK,*16,LOWER ONE EIGHTH BLOCK,
   UPPER ONE EIGHTH BLOCK,*29,RIGHT TRIANGULAR HALF BLOCK;
   1FB6C LEFT:TRIANGULAR ONE QUARTER BLOCK;1FB6E RIGHT:TRIANGULAR ONE QUARTER BLOCK,*15,
   AND UPPER ONE EIGHTH BLOCK,AND LOWER ONE EIGHTH BLOCK,*7,ONE QUARTER BLOCK,
   THREE EIGHTHS BLOCK,FIVE EIGHTHS BLOCK,THREE QUARTERS BLOCK,SEVEN EIGHTHS BLOCK,*48,
   OPEN SQUARED DOT,*6,THIRD WHITE RIGHT POINTING INDEX;
   1FB6F LOWER:TRIANGULAR ONE QUARTER BLOCK,*31,HALF MEDIUM SHADE;
   1FB70 VERTICAL ONE EIGHTH:BLOCK-2*6;1FB76 HORIZONTAL ONE EIGHTH:BLOCK-2*6,*5,BLOCK-1358;
   1FB8C LEFT HALF:MEDIUM SHADE,*7,INVERSE MEDIUM SHADE AND RIGHT HALF BLOCK,*29,RUNNING MAN,
   *6,FOLDER;1FB8D RIGHT HALF:MEDIUM SHADE,*37,RUNNING MAN,*6,FOLDER;
   1FB8E UPPER HALF:MEDIUM SHADE,,,BLOCK AND LOWER HALF INVERSE MEDIUM SHADE,
   INVERSE MEDIUM SHADE AND LOWER HALF BLOCK;1FB90 INVERSE:MEDIUM SHADE,*5,CHECKER BOARD FILL,
   *26,CHECK MARK,,,DOWNWARDS ARROW WITH TIP LEFTWARDS;1FB95 :CHECKER BOARD FILL,*26,
   ARROWHEAD-SHAPED POINTER,*10,VOIDED GREEK CROSS,*6,MIDDLE THIRD WHITE RIGHT POINTING INDEX;
   1FB97 HEAVY:HORIZONTAL FILL;1FB98 UPPER LEFT:TO LOWER RIGHT FILL,*3,
   TRIANGULAR MEDIUM SHADE;1FB99 UPPER RIGHT:TO LOWER LEFT FILL,*3,TRIANGULAR MEDIUM SHADE;
   1FB9E LOWER RIGHT:TRIANGULAR MEDIUM SHADE;1FB9F LOWER LEFT:TRIANGULAR MEDIUM SHADE;
   1FBA0 BOX DRAWINGS LIGHT DIAGONAL UPPER CENTRE TO MIDDLE:LEFT,RIGHT,,,LEFT TO LOWER CENTRE,
   RIGHT TO LOWER CENTRE,,,LEFT AND MIDDLE RIGHT TO LOWER CENTRE,
   RIGHT AND MIDDLE LEFT TO LOWER CENTRE,RIGHT TO LOWER CENTRE TO MIDDLE LEFT,
   LEFT TO LOWER CENTRE TO MIDDLE RIGHT;1FBA2 BOX DRAWINGS LIGHT DIAGONAL MIDDLE:LEFT TO
    LOWER CENTRE,RIGHT TO LOWER CENTRE,,,LEFT TO LOWER CENTRE TO MIDDLE RIGHT,
   LEFT TO UPPER CENTRE TO MIDDLE RIGHT,*4,LEFT TO UPPER CENTRE TO MIDDLE RIGHT TO LOWER
    CENTRE,RIGHT TO UPPER CENTRE TO MIDDLE LEFT TO LOWER CENTRE;
   1FBAE BOX DRAWINGS LIGHT DIAGONAL:DIAMOND;
   1FBAF BOX DRAWINGS LIGHT:HORIZONTAL WITH VERTICAL STROKE;
   1FBB5 LEFTWARDS ARROW:AND UPPER AND LOWER ONE EIGHTH BLOCK;
   1FBB6 RIGHTWARDS ARROW:AND UPPER AND LOWER ONE EIGHTH BLOCK;
   1FBB7 DOWNWARDS ARROW:AND RIGHT ONE EIGHTH BLOCK;
   1FBB8 UPWARDS ARROW:AND RIGHT ONE EIGHTH BLOCK;1FBBD NEGATIVE:DIAGONAL CROSS,
   DIAGONAL MIDDLE RIGHT TO LOWER CENTRE,DIAGONAL DIAMOND;
   1FBC0 WHITE:HEAVY SALTIRE WITH ROUNDED CORNERS,*9,UP-POINTING CHEVRON;
   1FBC1 LEFT:THIRD WHITE RIGHT POINTING INDEX;1FBC4 NEGATIVE SQUARED:QUESTION MARK;
   1FBC5 STICK:FIGURE,FIGURE WITH ARMS RAISED,FIGURE LEANING LEFT,FIGURE LEANING RIGHT,
   FIGURE WITH DRESS;1FBF0 SEGMENTED DIGIT:ZERO,ONE,TWO,THREE,FOUR,FIVE,SIX,SEVEN,EIGHT,NINE;
   E0001 :LANGUAGE TAG;E0020 TAG:SPACE,EXCLAMATION MARK,QUOTATION MARK,NUMBER SIGN,
   DOLLAR SIGN,PERCENT SIGN,AMPERSAND,APOSTROPHE,LEFT PARENTHESIS,RIGHT PARENTHESIS,ASTERISK,
   PLUS SIGN,COMMA,HYPHEN-MINUS,FULL STOP,SOLIDUS,*10,COLON,SEMICOLON,LESS-THAN SIGN,
   EQUALS SIGN,GREATER-THAN SIGN,QUESTION MARK,COMMERCIAL AT,*26,LEFT SQUARE BRACKET,
   REVERSE SOLIDUS,RIGHT SQUARE BRACKET,CIRCUMFLEX ACCENT,LOW LINE,GRAVE ACCENT,*26,
   LEFT CURLY BRACKET,VERTICAL LINE,RIGHT CURLY BRACKET,TILDE;E0030 TAG DIGIT:ZERO,ONE,TWO,
   THREE,FOUR,FIVE,SIX,SEVEN,EIGHT,NINE;E0041 TAG LATIN CAPITAL LETTER:A*26;
   E0061 TAG LATIN SMALL LETTER:A*26;E007F :CANCEL TAG;E0100 VARIATION:SELECTOR-17*83,
   SELECTOR-100*157"

end Grading.Text
