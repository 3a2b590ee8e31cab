/-!
# Names of characters

The names that Unicode 14 gives to characters, apart from those that follow a rule, and behind them
the other names that characters have. A line starts with a code point in hexadecimal, and names it
and those behind it; nothing between two commas means that a code point has no name here. A name
shares words with the one before: a small letter in front of it says how many it takes over from the
start (`a` one, `b` two), and a small letter behind it how many from the end.
-/

namespace LambdaText.Text

def namesFrom0 : List String :=
  ["20 SPACE,EXCLAMATION MARK,QUOTATIONa,NUMBER SIGN,DOLLARa,PERCENTa,AMPERSAND,APOSTROPHE",
   "28 LEFT PARENTHESIS,RIGHTa,ASTERISK,PLUS SIGN,COMMA,HYPHEN-MINUS,FULL STOP,SOLIDUS,DIGIT ZERO",
   "31 aONE,aTWO,aTHREE,aFOUR,aFIVE,aSIX,aSEVEN,aEIGHT,aNINE,COLON,SEMICOLON,LESS-THAN SIGN",
   "3D EQUALSa,GREATER-THANa,QUESTION MARK,COMMERCIAL AT,LATIN CAPITAL LETTER A,cB,cC,cD,cE,cF,cG",
   "48 cH,cI,cJ,cK,cL,cM,cN,cO,cP,cQ,cR,cS,cT,cU,cV,cW,cX,cY,cZ,LEFT SQUARE BRACKET",
   "5C REVERSE SOLIDUS,RIGHT SQUARE BRACKET,CIRCUMFLEX ACCENT,LOW LINE,GRAVE ACCENT",
   "61 LATIN SMALL LETTER A,cB,cC,cD,cE,cF,cG,cH,cI,cJ,cK,cL,cM,cN,cO,cP,cQ,cR,cS,cT,cU,cV,cW,cX",
   "79 cY,cZ,LEFT CURLY BRACKET,VERTICAL LINE,RIGHT CURLY BRACKET,TILDE",
   "A0 NO-BREAK SPACE,INVERTED EXCLAMATION MARK,CENT SIGN,POUNDa,CURRENCYa,YENa,BROKEN BAR",
   "A7 SECTION SIGN,DIAERESIS,COPYRIGHT SIGN,FEMININE ORDINAL INDICATOR",
   "AB LEFT-POINTING DOUBLE ANGLE QUOTATION MARK,NOT SIGN,SOFT HYPHEN,REGISTERED SIGN,MACRON",
   "B0 DEGREE SIGN,PLUS-MINUSa,SUPERSCRIPT TWO,aTHREE,ACUTE ACCENT,MICRO SIGN,PILCROWa,MIDDLE DOT",
   "B8 CEDILLA,SUPERSCRIPT ONE,MASCULINE ORDINAL INDICATOR",
   "BB RIGHT-POINTING DOUBLE ANGLE QUOTATION MARK,VULGAR FRACTION ONE QUARTER,cHALF",
   "BE bTHREE QUARTERS,INVERTED QUESTION MARK,LATIN CAPITAL LETTER A WITH GRAVE,eACUTE",
   "C2 eCIRCUMFLEX,eTILDE,eDIAERESIS,eRING ABOVE,cAE,cC WITH CEDILLA,cE WITH GRAVE,eACUTE",
   "CA eCIRCUMFLEX,eDIAERESIS,cI WITH GRAVE,eACUTE,eCIRCUMFLEX,eDIAERESIS,cETH,cN WITH TILDE",
   "D2 cO WITH GRAVE,eACUTE,eCIRCUMFLEX,eTILDE,eDIAERESIS,MULTIPLICATION SIGN",
   "D8 LATIN CAPITAL LETTER O WITH STROKE,cU WITH GRAVE,eACUTE,eCIRCUMFLEX,eDIAERESIS",
   "DD cY WITH ACUTE,cTHORN,aSMALL LETTER SHARP S,cA WITH GRAVE,eACUTE,eCIRCUMFLEX,eTILDE",
   "E4 eDIAERESIS,eRING ABOVE,cAE,cC WITH CEDILLA,cE WITH GRAVE,eACUTE,eCIRCUMFLEX,eDIAERESIS",
   "EC cI WITH GRAVE,eACUTE,eCIRCUMFLEX,eDIAERESIS,cETH,cN WITH TILDE,cO WITH GRAVE,eACUTE",
   "F4 eCIRCUMFLEX,eTILDE,eDIAERESIS,DIVISION SIGN,LATIN SMALL LETTER O WITH STROKE,cU WITH GRAVE",
   "FA eACUTE,eCIRCUMFLEX,eDIAERESIS,cY WITH ACUTE,cTHORN,cY WITH DIAERESIS",
   "100 aCAPITAL LETTER A WITH MACRON,aSMALLd,aCAPITAL LETTER A WITH BREVE,aSMALLd",
   "104 aCAPITAL LETTER A WITH OGONEK,aSMALLd,aCAPITAL LETTER C WITH ACUTE,aSMALLd",
   "108 aCAPITAL LETTER C WITH CIRCUMFLEX,aSMALLd,aCAPITAL LETTER C WITH DOT ABOVE,aSMALLe",
   "10C aCAPITAL LETTER C WITH CARON,aSMALLd,aCAPITAL LETTER Db,aSMALLd",
   "110 aCAPITAL LETTER D WITH STROKE,aSMALLd,aCAPITAL LETTER E WITH MACRON,aSMALLd",
   "114 aCAPITAL LETTER E WITH BREVE,aSMALLd,aCAPITAL LETTER E WITH DOT ABOVE,aSMALLe",
   "118 aCAPITAL LETTER E WITH OGONEK,aSMALLd,aCAPITAL LETTER E WITH CARON,aSMALLd",
   "11C aCAPITAL LETTER G WITH CIRCUMFLEX,aSMALLd,aCAPITAL LETTER G WITH BREVE,aSMALLd",
   "120 aCAPITAL LETTER G WITH DOT ABOVE,aSMALLe,aCAPITAL LETTER G WITH CEDILLA,aSMALLd",
   "124 aCAPITAL LETTER H WITH CIRCUMFLEX,aSMALLd,aCAPITAL LETTER H WITH STROKE,aSMALLd",
   "128 aCAPITAL LETTER I WITH TILDE,aSMALLd,aCAPITAL LETTER I WITH MACRON,aSMALLd",
   "12C aCAPITAL LETTER I WITH BREVE,aSMALLd,aCAPITAL LETTER I WITH OGONEK,aSMALLd",
   "130 aCAPITAL LETTER I WITH DOT ABOVE,aSMALL LETTER DOTLESS I,aCAPITAL LIGATURE IJ,aSMALLb",
   "134 aCAPITAL LETTER J WITH CIRCUMFLEX,aSMALLd,aCAPITAL LETTER K WITH CEDILLA,aSMALLd,cKRA",
   "139 aCAPITAL LETTER L WITH ACUTE,aSMALLd,aCAPITAL LETTER L WITH CEDILLA,aSMALLd",
   "13D aCAPITAL LETTER L WITH CARON,aSMALLd,aCAPITAL LETTER L WITH MIDDLE DOT,aSMALLe",
   "141 aCAPITAL LETTER L WITH STROKE,aSMALLd,aCAPITAL LETTER N WITH ACUTE,aSMALLd",
   "145 aCAPITAL LETTER N WITH CEDILLA,aSMALLd,aCAPITAL LETTER N WITH CARON,aSMALLd",
   "149 dPRECEDED BY APOSTROPHE,aCAPITAL LETTER ENG,aSMALLb,aCAPITAL LETTER O WITH MACRON,aSMALLd",
   "14E aCAPITAL LETTER O WITH BREVE,aSMALLd,aCAPITAL LETTER O WITH DOUBLE ACUTE,aSMALLe",
   "152 aCAPITAL LIGATURE OE,aSMALLb,aCAPITAL LETTER R WITH ACUTE,aSMALLd",
   "156 aCAPITAL LETTER R WITH CEDILLA,aSMALLd,aCAPITAL LETTER R WITH CARON,aSMALLd",
   "15A aCAPITAL LETTER S WITH ACUTE,aSMALLd,aCAPITAL LETTER S WITH CIRCUMFLEX,aSMALLd",
   "15E aCAPITAL LETTER S WITH CEDILLA,aSMALLd,aCAPITAL LETTER S WITH CARON,aSMALLd",
   "162 aCAPITAL LETTER T WITH CEDILLA,aSMALLd,aCAPITAL LETTER T WITH CARON,aSMALLd",
   "166 aCAPITAL LETTER T WITH STROKE,aSMALLd,aCAPITAL LETTER U WITH TILDE,aSMALLd",
   "16A aCAPITAL LETTER U WITH MACRON,aSMALLd,aCAPITAL LETTER U WITH BREVE,aSMALLd",
   "16E aCAPITAL LETTER U WITH RING ABOVE,aSMALLe,aCAPITAL LETTER U WITH DOUBLE ACUTE,aSMALLe",
   "172 aCAPITAL LETTER U WITH OGONEK,aSMALLd,aCAPITAL LETTER W WITH CIRCUMFLEX,aSMALLd",
   "176 aCAPITAL LETTER Yb,aSMALLd,aCAPITAL LETTER Y WITH DIAERESIS,cZ WITH ACUTE,aSMALLd",
   "17B aCAPITAL LETTER Z WITH DOT ABOVE,aSMALLe,aCAPITAL LETTER Z WITH CARON,aSMALLd,cLONG S",
   "180 cB WITH STROKE,aCAPITAL LETTER B WITH HOOK,eTOPBAR,aSMALLd,aCAPITAL LETTER TONE SIX",
   "185 aSMALLc,aCAPITAL LETTER OPEN O,cC WITH HOOK,aSMALLd,aCAPITAL LETTER AFRICAN D",
   "18A cD WITH HOOK,eTOPBAR,aSMALLd,cTURNED DELTA,aCAPITAL LETTER REVERSED E,cSCHWA,cOPEN E",
   "191 cF WITH HOOK,aSMALLd,aCAPITAL LETTER Gb,cGAMMA,aSMALL LETTER HV,aCAPITAL LETTER IOTA",
   "197 cI WITH STROKE,cK WITH HOOK,aSMALLd,cL WITH BAR,cLAMBDA WITH STROKE",
   "19C aCAPITAL LETTER TURNED M,cN WITH LEFT HOOK,aSMALL LETTER N WITH LONG RIGHT LEG",
   "19F aCAPITAL LETTER O WITH MIDDLE TILDE,eHORN,aSMALLd,aCAPITAL LETTER OI,aSMALLb",
   "1A4 aCAPITAL LETTER P WITH HOOK,aSMALLd,aLETTER YR,aCAPITAL LETTER TONE TWO,aSMALLc",
   "1A9 aCAPITAL LETTER ESH,aLETTER REVERSED ESH LOOP,aSMALL LETTER T WITH PALATAL HOOK",
   "1AC aCAPITAL LETTER T WITHa,aSMALLd,aCAPITAL LETTER T WITH RETROFLEXa,cU WITH HORN,aSMALLd",
   "1B1 aCAPITAL LETTER UPSILON,cV WITH HOOK,cYb,aSMALLd,aCAPITAL LETTER Z WITH STROKE,aSMALLd",
   "1B7 aCAPITAL LETTER EZH,dREVERSED,aSMALLc,dWITH TAIL,aLETTER TWO WITH STROKE",
   "1BC aCAPITAL LETTER TONE FIVE,aSMALLc,aLETTER INVERTED GLOTTAL STOP WITH STROKE,bWYNN",
   "1C0 bDENTAL CLICK,bLATERALa,bALVEOLARa,bRETROFLEXa,aCAPITAL LETTER DZ WITH CARON",
   "1C5 cD WITH SMALL LETTER Zb,aSMALL LETTER DZb,aCAPITAL LETTER LJ,cL WITH SMALL LETTER J",
   "1C9 aSMALL LETTER LJ,aCAPITAL LETTER NJ,cN WITH SMALL LETTER J,aSMALL LETTER NJ",
   "1CD aCAPITAL LETTER A WITH CARON,aSMALLd,aCAPITAL LETTER Ib,aSMALLd,aCAPITAL LETTER Ob",
   "1D2 aSMALLd,aCAPITAL LETTER Ub,aSMALLd,aCAPITAL LETTER U WITH DIAERESIS AND MACRON,aSMALLf",
   "1D7 aCAPITAL LETTER U WITH DIAERESIS AND ACUTE,aSMALLf",
   "1D9 aCAPITAL LETTER U WITH DIAERESIS AND CARON,aSMALLf",
   "1DB aCAPITAL LETTER U WITH DIAERESIS AND GRAVE,aSMALLf,cTURNED E",
   "1DE aCAPITAL LETTER A WITH DIAERESIS AND MACRON,aSMALLf,aCAPITAL LETTER A WITH DOT ABOVEb",
   "1E1 aSMALLg,aCAPITAL LETTER AE WITHa,aSMALLd,aCAPITAL LETTER G WITH STROKE,aSMALLd",
   "1E6 aCAPITAL LETTER G WITH CARON,aSMALLd,aCAPITAL LETTER Kb,aSMALLd",
   "1EA aCAPITAL LETTER O WITH OGONEK,aSMALLd,aCAPITAL LETTER O WITH OGONEK AND MACRON,aSMALLf",
   "1EE aCAPITAL LETTER EZH WITH CARON,aSMALLd,cJb,aCAPITAL LETTER DZ,cD WITH SMALL LETTER Z",
   "1F3 aSMALL LETTER DZ,aCAPITAL LETTER G WITH ACUTE,aSMALLd,aCAPITAL LETTER HWAIR,cWYNN",
   "1F8 cN WITH GRAVE,aSMALLd,aCAPITAL LETTER A WITH RING ABOVE AND ACUTE,aSMALLg",
   "1FC aCAPITAL LETTER AE WITHa,aSMALLd,aCAPITAL LETTER O WITH STROKE ANDa,aSMALLf",
   "200 aCAPITAL LETTER A WITH DOUBLE GRAVE,aSMALLe,aCAPITAL LETTER A WITH INVERTED BREVE,aSMALLe",
   "204 aCAPITAL LETTER E WITH DOUBLE GRAVE,aSMALLe,aCAPITAL LETTER E WITH INVERTED BREVE,aSMALLe",
   "208 aCAPITAL LETTER I WITH DOUBLE GRAVE,aSMALLe,aCAPITAL LETTER I WITH INVERTED BREVE,aSMALLe",
   "20C aCAPITAL LETTER O WITH DOUBLE GRAVE,aSMALLe,aCAPITAL LETTER O WITH INVERTED BREVE,aSMALLe",
   "210 aCAPITAL LETTER R WITH DOUBLE GRAVE,aSMALLe,aCAPITAL LETTER R WITH INVERTED BREVE,aSMALLe",
   "214 aCAPITAL LETTER U WITH DOUBLE GRAVE,aSMALLe,aCAPITAL LETTER U WITH INVERTED BREVE,aSMALLe",
   "218 aCAPITAL LETTER S WITH COMMA BELOW,aSMALLe,aCAPITAL LETTER Tc,aSMALLe",
   "21C aCAPITAL LETTER YOGH,aSMALLb,aCAPITAL LETTER H WITH CARON,aSMALLd",
   "220 aCAPITAL LETTER N WITH LONG RIGHT LEG,aSMALL LETTER D WITH CURL,aCAPITAL LETTER OU",
   "223 aSMALLb,aCAPITAL LETTER Z WITH HOOK,aSMALLd,aCAPITAL LETTER A WITH DOT ABOVE,aSMALLe",
   "228 aCAPITAL LETTER E WITH CEDILLA,aSMALLd,aCAPITAL LETTER O WITH DIAERESIS AND MACRON",
   "22B aSMALLf,aCAPITAL LETTER O WITH TILDEb,aSMALLf,aCAPITAL LETTER O WITH DOT ABOVE,aSMALLe",
   "230 aCAPITAL LETTER O WITH DOT ABOVE AND MACRON,aSMALLg,aCAPITAL LETTER Y WITHa,aSMALLd",
   "234 cL WITH CURL,cNb,cTb,cDOTLESS J,cDB DIGRAPH,cQPa,aCAPITAL LETTER A WITH STROKE,cCb",
   "23C aSMALLd,aCAPITAL LETTER L WITH BAR,cT WITH DIAGONAL STROKE",
   "23F aSMALL LETTER S WITH SWASH TAIL,cZc,aCAPITAL LETTER GLOTTAL STOP,aSMALLc",
   "243 aCAPITAL LETTER B WITH STROKE,cU BAR,cTURNED V,cE WITH STROKE,aSMALLd,aCAPITAL LETTER Jb",
   "249 aSMALLd,aCAPITAL LETTER SMALL Q WITH HOOK TAIL,aSMALL LETTERd",
   "24C aCAPITAL LETTER R WITH STROKE,aSMALLd,aCAPITAL LETTER Yb,aSMALLd,cTURNED A,cALPHA",
   "252 cTURNEDa,cB WITH HOOK,cOPEN O,cC WITH CURL,cD WITH TAIL,eHOOK,cREVERSED E,cSCHWA",
   "25A dWITH HOOK,cOPEN E,cREVERSEDb,fWITH HOOK,cCLOSED REVERSED OPEN E,cDOTLESS J WITH STROKE",
   "260 cG WITH HOOK,cSCRIPT G,aLETTER SMALL CAPITALa,aSMALL LETTER GAMMA,cRAMS HORN,cTURNED H",
   "266 cH WITH HOOK,cHENGb,cI WITH STROKE,cIOTA,aLETTER SMALL CAPITAL I",
   "26B aSMALL LETTER L WITH MIDDLE TILDE,eBELT,eRETROFLEX HOOK,cLEZH,cTURNED M,eWITH LONG LEG",
   "271 cM WITH HOOK,cN WITH LEFTa,eRETROFLEXa,aLETTER SMALL CAPITAL N,aSMALL LETTER BARRED O",
   "276 aLETTER SMALL CAPITAL OE,aSMALL LETTER CLOSED OMEGA,cPHI,cTURNED R,eWITH LONG LEG,fHOOK",
   "27C cR WITH LONG LEG,eTAIL,eFISHHOOK,cREVERSEDc,aLETTER SMALL CAPITAL R,dINVERTEDa",
   "282 aSMALL LETTER S WITH HOOK,cESH,cDOTLESS J WITH STROKE AND HOOK,cSQUAT REVERSED ESH",
   "286 cESH WITH CURL,cTURNED T,cT WITH RETROFLEX HOOK,cU BAR,cUPSILON,cV WITH HOOK,cTURNED V,dW",
   "28E dY,aLETTER SMALL CAPITALa,aSMALL LETTER Z WITH RETROFLEX HOOK,eCURL,cEZH,dWITH CURL",
   "294 aLETTER GLOTTAL STOP,bPHARYNGEAL VOICED FRICATIVE,bINVERTED GLOTTAL STOP,bSTRETCHED C",
   "298 bBILABIAL CLICK,bSMALL CAPITAL B,aSMALL LETTER CLOSED OPEN E",
   "29B aLETTER SMALL CAPITAL G WITH HOOK,dH,aSMALL LETTER J WITH CROSSED-TAIL,cTURNED K",
   "29F aLETTER SMALL CAPITAL L,aSMALL LETTER Q WITH HOOK,aLETTER GLOTTAL STOP WITH STROKE",
   "2A2 bREVERSEDd,aSMALL LETTER DZ DIGRAPH,cDEZHa,cDZ DIGRAPH WITH CURL,cTS DIGRAPH,cTESHa",
   "2A8 cTC DIGRAPH WITH CURL,cFENG DIGRAPH,cLSa,cLZa,aLETTER BILABIAL PERCUSSIVE,bBIDENTALa",
   "2AE aSMALL LETTER TURNED H WITH FISHHOOK,gAND TAIL,MODIFIER LETTER SMALL H,dWITH HOOK,cJ,cR",
   "2B4 cTURNEDa,eWITH HOOK,cCAPITAL INVERTED R,cW,cY,bPRIME,bDOUBLEa,bTURNED COMMA,bAPOSTROPHE",
   "2BD bREVERSED COMMA,bRIGHT HALF RING,bLEFTb,bGLOTTAL STOP,bREVERSEDb,bLEFT ARROWHEAD,bRIGHTa",
   "2C4 bUPa,bDOWNa,bCIRCUMFLEX ACCENT,CARON,MODIFIER LETTER VERTICAL LINE,bMACRON,bACUTE ACCENT",
   "2CB bGRAVEa,bLOW VERTICAL LINE,cMACRON,cGRAVE ACCENT,cACUTEa,bTRIANGULAR COLON,bHALFb",
   "2D2 bCENTRED RIGHT HALF RING,cLEFTb,bUP TACK,bDOWNa,bPLUS SIGN,bMINUSa,BREVE,DOT ABOVE,RINGa",
   "2DB OGONEK,SMALL TILDE,DOUBLE ACUTE ACCENT,MODIFIER LETTER RHOTIC HOOK,bCROSS ACCENT",
   "2E0 bSMALL GAMMA,cL,cS,cX,cREVERSED GLOTTAL STOP,bEXTRA-HIGH TONE BAR,bHIGHb,bMIDb,bLOWb",
   "2E9 bEXTRA-LOWb,bYIN DEPARTING TONE MARK,bYANGc,bVOICING,bUNASPIRATED,bDOUBLE APOSTROPHE",
   "2EF bLOW DOWN ARROWHEAD,cUPa,cLEFTa,cRIGHTa,cRING,bMIDDLE GRAVE ACCENT,cDOUBLEb,dACUTEa",
   "2F7 bLOW TILDE,bRAISED COLON,bBEGIN HIGH TONE,bENDb,bBEGIN LOWa,bENDb,bSHELF,bOPENa",
   "2FF bLOW LEFT ARROW,COMBINING GRAVE ACCENT,aACUTEa,aCIRCUMFLEXa,aTILDE,aMACRON,aOVERLINE",
   "306 aBREVE,aDOT ABOVE,aDIAERESIS,aHOOK ABOVE,aRINGa,aDOUBLE ACUTE ACCENT,aCARON",
   "30D aVERTICAL LINE ABOVE,aDOUBLEc,bGRAVE ACCENT,aCANDRABINDU,aINVERTED BREVE",
   "312 aTURNED COMMA ABOVE,aCOMMAa,aREVERSEDb,aCOMMA ABOVE RIGHT,aGRAVE ACCENT BELOW,aACUTEb",
   "318 aLEFT TACKa,aRIGHTb,aLEFT ANGLE ABOVE,aHORN,aLEFT HALF RING BELOW,aUP TACKa,aDOWNb",
   "31F aPLUS SIGNa,aMINUSb,aPALATALIZED HOOKa,aRETROFLEXb,aDOTa,aDIAERESISa,aRINGa,aCOMMAa",
   "327 aCEDILLA,aOGONEK,aVERTICAL LINE BELOW,aBRIDGEa,aINVERTED DOUBLE ARCHa,aCARONa",
   "32D aCIRCUMFLEX ACCENTa,aBREVEa,aINVERTEDb,aTILDEa,aMACRONa,aLOW LINE,aDOUBLEb,aTILDE OVERLAY",
   "335 aSHORT STROKEa,aLONGb,aSHORT SOLIDUSa,aLONGb,aRIGHT HALF RING BELOW,aINVERTED BRIDGEa",
   "33B aSQUAREa,aSEAGULLa,aX ABOVE,aVERTICAL TILDE,aDOUBLE OVERLINE,aGRAVE TONE MARK,aACUTEb",
   "342 aGREEK PERISPOMENI,bKORONIS,bDIALYTIKA TONOS,bYPOGEGRAMMENI,aBRIDGE ABOVE",
   "347 aEQUALS SIGN BELOW,aDOUBLE VERTICAL LINEa,aLEFT ANGLEa,aNOT TILDE ABOVE,aHOMOTHETICa",
   "34C aALMOST EQUAL TOa,aLEFT RIGHT ARROW BELOW,aUPWARDSb,aGRAPHEME JOINER",
   "350 aRIGHT ARROWHEAD ABOVE,aLEFT HALF RINGa,aFERMATA,aX BELOW,aLEFT ARROWHEADa,aRIGHTb",
   "356 cAND UP ARROWHEADa,bHALF RING ABOVE,aDOT ABOVE RIGHT,aASTERISK BELOW,aDOUBLE RINGa",
   "35B aZIGZAG ABOVE,aDOUBLE BREVE BELOW,bBREVE,bMACRON,cBELOW,bTILDE,bINVERTED BREVE",
   "362 bRIGHTWARDS ARROW BELOW,aLATIN SMALL LETTER A,dE,dI,dO,dU,dC,dD,dH,dM,dR,dT,dV,dX",
   "370 GREEK CAPITAL LETTER HETA,aSMALLb,aCAPITAL LETTER ARCHAIC SAMPI,aSMALLc,aNUMERAL SIGN",
   "375 aLOWERb,aCAPITAL LETTER PAMPHYLIAN DIGAMMA,aSMALLc,,,aYPOGEGRAMMENI",
   "37B aSMALL REVERSED LUNATE SIGMA SYMBOL,bDOTTEDc,bREVERSEDd,aQUESTION MARK",
   "37F aCAPITAL LETTER YOT,,,,,aTONOS,aDIALYTIKAa,aCAPITAL LETTER ALPHA WITHa,aANO TELEIA",
   "388 aCAPITAL LETTER EPSILON WITH TONOS,cETAb,cIOTAb,,cOMICRONb,,cUPSILONb,cOMEGAb",
   "390 aSMALL LETTER IOTA WITH DIALYTIKA ANDa,aCAPITAL LETTER ALPHA,cBETA,cGAMMA,cDELTA,cEPSILON",
   "396 cZETA,cETA,cTHETA,cIOTA,cKAPPA,cLAMDA,cMU,cNU,cXI,cOMICRON,cPI,cRHO,,cSIGMA,cTAU,cUPSILON",
   "3A6 cPHI,cCHI,cPSI,cOMEGA,cIOTA WITH DIALYTIKA,cUPSILONb,aSMALL LETTER ALPHA WITH TONOS",
   "3AD cEPSILONb,cETAb,cIOTAb,cUPSILON WITH DIALYTIKA ANDa,cALPHA,cBETA,cGAMMA,cDELTA,cEPSILON",
   "3B6 cZETA,cETA,cTHETA,cIOTA,cKAPPA,cLAMDA,cMU,cNU,cXI,cOMICRON,cPI,cRHO,cFINAL SIGMA,cSIGMA",
   "3C4 cTAU,cUPSILON,cPHI,cCHI,cPSI,cOMEGA,cIOTA WITH DIALYTIKA,cUPSILONb,cOMICRON WITH TONOS",
   "3CD cUPSILONb,cOMEGAb,aCAPITAL KAI SYMBOL,aBETAa,aTHETAa,aUPSILON WITH HOOKa,cACUTE ANDb",
   "3D4 cDIAERESISc,aPHIa,aPIa,aKAIa,aLETTER ARCHAIC KOPPA,aSMALLc,aLETTER STIGMA,aSMALLb",
   "3DC aLETTER DIGAMMA,aSMALLb,aLETTER KOPPA,aSMALLb,aLETTER SAMPI,aSMALLb",
   "3E2 COPTIC CAPITAL LETTER SHEI,aSMALLb,aCAPITAL LETTER FEI,aSMALLb,aCAPITAL LETTER KHEI",
   "3E7 aSMALLb,aCAPITAL LETTER HORI,aSMALLb,aCAPITAL LETTER GANGIA,aSMALLb,aCAPITAL LETTER SHIMA",
   "3ED aSMALLb,aCAPITAL LETTER DEI,aSMALLb,GREEK KAPPA SYMBOL,aRHOa,aLUNATE SIGMAa,aLETTER YOT",
   "3F4 aCAPITAL THETA SYMBOL,aLUNATE EPSILONa,aREVERSEDc,aCAPITAL LETTER SHO,aSMALLb",
   "3F9 aCAPITAL LUNATE SIGMA SYMBOL,bLETTER SAN,aSMALLb,aRHO WITH STROKE SYMBOL",
   "3FD aCAPITAL REVERSED LUNATE SIGMAa,bDOTTEDc,bREVERSEDd,CYRILLIC CAPITAL LETTER IE WITH GRAVE",
   "401 cIO,cDJE,cGJE,cUKRAINIAN IE,cDZE,cBYELORUSSIAN-UKRAINIAN I,cYI,cJE,cLJE,cNJE,cTSHE,cKJE",
   "40D cI WITH GRAVE,cSHORT U,cDZHE,cA,cBE,cVE,cGHE,cDE,cIE,cZHE,cZE,cI,cSHORTa,cKA,cEL,cEM,cEN",
   "41E cO,cPE,cER,cES,cTE,cU,cEF,cHA,cTSE,cCHE,cSHA,cSHCHA,cHARD SIGN,cYERU,cSOFT SIGN,cE,cYU",
   "42F cYA,aSMALL LETTER A,cBE,cVE,cGHE,cDE,cIE,cZHE,cZE,cI,cSHORTa,cKA,cEL,cEM,cEN,cO,cPE,cER",
   "441 cES,cTE,cU,cEF,cHA,cTSE,cCHE,cSHA,cSHCHA,cHARD SIGN,cYERU,cSOFT SIGN,cE,cYU,cYA",
   "450 cIE WITH GRAVE,cIO,cDJE,cGJE,cUKRAINIAN IE,cDZE,cBYELORUSSIAN-UKRAINIAN I,cYI,cJE,cLJE",
   "45A cNJE,cTSHE,cKJE,cI WITH GRAVE,cSHORT U,cDZHE,aCAPITAL LETTER OMEGA,aSMALLb",
   "462 aCAPITAL LETTER YAT,aSMALLb,aCAPITAL LETTER IOTIFIED E,aSMALLc,aCAPITAL LETTER LITTLE YUS",
   "467 aSMALLc,aCAPITAL LETTER IOTIFIEDb,aSMALLd,aCAPITAL LETTER BIGa,aSMALLc",
   "46C aCAPITAL LETTER IOTIFIEDb,aSMALLd,aCAPITAL LETTER KSI,aSMALLb,aCAPITAL LETTER PSI,aSMALLb",
   "472 aCAPITAL LETTER FITA,aSMALLb,aCAPITAL LETTER IZHITSA,aSMALLb",
   "476 aCAPITAL LETTER IZHITSA WITH DOUBLE GRAVE ACCENT,aSMALLf,aCAPITAL LETTER UK,aSMALLb",
   "47A aCAPITAL LETTER ROUND OMEGA,aSMALLc,aCAPITAL LETTER OMEGA WITH TITLO,aSMALLd",
   "47E aCAPITAL LETTER OT,aSMALLb,aCAPITAL LETTER KOPPA,aSMALLb,aTHOUSANDS SIGN",
   "483 COMBINING CYRILLIC TITLO,bPALATALIZATION,bDASIA PNEUMATA,bPSILIa,bPOKRYTIE",
   "488 bHUNDRED THOUSANDS SIGN,bMILLIONSa,CYRILLIC CAPITAL LETTER SHORT I WITH TAIL,aSMALLe",
   "48C aCAPITAL LETTER SEMISOFT SIGN,aSMALLc,aCAPITAL LETTER ER WITH TICK,aSMALLd",
   "490 aCAPITAL LETTER GHE WITH UPTURN,aSMALLd,aCAPITAL LETTER GHE WITH STROKE,aSMALLd",
   "494 aCAPITAL LETTER GHE WITH MIDDLE HOOK,aSMALLe,aCAPITAL LETTER ZHE WITH DESCENDER,aSMALLd",
   "498 aCAPITAL LETTER ZEb,aSMALLd,aCAPITAL LETTER KAb,aSMALLd",
   "49C aCAPITAL LETTER KA WITH VERTICAL STROKE,aSMALLe,aCAPITAL LETTER KA WITHa,aSMALLd",
   "4A0 aCAPITAL LETTER BASHKIR KA,aSMALLc,aCAPITAL LETTER EN WITH DESCENDER,aSMALLd",
   "4A4 aCAPITAL LIGATURE EN GHE,aSMALLc,aCAPITAL LETTER PE WITH MIDDLE HOOK,aSMALLe",
   "4A8 aCAPITAL LETTER ABKHASIAN HA,aSMALLc,aCAPITAL LETTER ES WITH DESCENDER,aSMALLd",
   "4AC aCAPITAL LETTER TEb,aSMALLd,aCAPITAL LETTER STRAIGHT U,aSMALLc",
   "4B0 aCAPITAL LETTER STRAIGHT U WITH STROKE,aSMALLe,aCAPITAL LETTER HA WITH DESCENDER,aSMALLd",
   "4B4 aCAPITAL LIGATURE TE TSE,aSMALLc,aCAPITAL LETTER CHE WITH DESCENDER,aSMALLd",
   "4B8 aCAPITAL LETTER CHE WITH VERTICAL STROKE,aSMALLe,aCAPITAL LETTER SHHA,aSMALLb",
   "4BC aCAPITAL LETTER ABKHASIAN CHE,aSMALLc,aCAPITAL LETTER ABKHASIAN CHE WITH DESCENDER",
   "4BF aSMALLe,aLETTER PALOCHKA,aCAPITAL LETTER ZHE WITH BREVE,aSMALLd",
   "4C3 aCAPITAL LETTER KA WITH HOOK,aSMALLd,aCAPITAL LETTER EL WITH TAIL,aSMALLd",
   "4C7 aCAPITAL LETTER EN WITH HOOK,aSMALLd,aCAPITAL LETTER EN WITH TAIL,aSMALLd",
   "4CB aCAPITAL LETTER KHAKASSIAN CHE,aSMALLc,aCAPITAL LETTER EM WITH TAIL,aSMALLd,cPALOCHKA",
   "4D0 aCAPITAL LETTER A WITH BREVE,aSMALLd,aCAPITAL LETTER A WITH DIAERESIS,aSMALLd",
   "4D4 aCAPITAL LIGATURE A IE,aSMALLc,aCAPITAL LETTER IE WITH BREVE,aSMALLd",
   "4D8 aCAPITAL LETTER SCHWA,aSMALLb,aCAPITAL LETTER SCHWA WITH DIAERESIS,aSMALLd",
   "4DC aCAPITAL LETTER ZHEb,aSMALLd,aCAPITAL LETTER ZEb,aSMALLd,aCAPITAL LETTER ABKHASIAN DZE",
   "4E1 aSMALLc,aCAPITAL LETTER I WITH MACRON,aSMALLd,aCAPITAL LETTER I WITH DIAERESIS,aSMALLd",
   "4E6 aCAPITAL LETTER Ob,aSMALLd,aCAPITAL LETTER BARRED O,aSMALLc",
   "4EA aCAPITAL LETTER BARRED O WITH DIAERESIS,aSMALLe,aCAPITAL LETTER Eb,aSMALLd",
   "4EE aCAPITAL LETTER U WITH MACRON,aSMALLd,aCAPITAL LETTER U WITH DIAERESIS,aSMALLd",
   "4F2 aCAPITAL LETTER U WITH DOUBLE ACUTE,aSMALLe,aCAPITAL LETTER CHE WITH DIAERESIS,aSMALLd",
   "4F6 aCAPITAL LETTER GHE WITH DESCENDER,aSMALLd,aCAPITAL LETTER YERU WITH DIAERESIS,aSMALLd",
   "4FA aCAPITAL LETTER GHE WITH STROKE AND HOOK,aSMALLf,aCAPITAL LETTER HA WITHa,aSMALLd",
   "4FE aCAPITAL LETTER HA WITH STROKE,aSMALLd,aCAPITAL LETTER KOMI DE,aSMALLc",
   "502 aCAPITAL LETTER KOMI DJE,aSMALLc,aCAPITAL LETTER KOMI ZJE,aSMALLc",
   "506 aCAPITAL LETTER KOMI DZJE,aSMALLc,aCAPITAL LETTER KOMI LJE,aSMALLc",
   "50A aCAPITAL LETTER KOMI NJE,aSMALLc,aCAPITAL LETTER KOMI SJE,aSMALLc",
   "50E aCAPITAL LETTER KOMI TJE,aSMALLc,aCAPITAL LETTER REVERSED ZE,aSMALLc",
   "512 aCAPITAL LETTER EL WITH HOOK,aSMALLd,aCAPITAL LETTER LHA,aSMALLb,aCAPITAL LETTER RHA",
   "517 aSMALLb,aCAPITAL LETTER YAE,aSMALLb,aCAPITAL LETTER QA,aSMALLb,aCAPITAL LETTER WE,aSMALLb",
   "51E aCAPITAL LETTER ALEUT KA,aSMALLc,aCAPITAL LETTER EL WITH MIDDLE HOOK,aSMALLe",
   "522 aCAPITAL LETTER ENc,aSMALLe,aCAPITAL LETTER PE WITH DESCENDER,aSMALLd",
   "526 aCAPITAL LETTER SHHAb,aSMALLd,aCAPITAL LETTER EN WITH LEFT HOOK,aSMALLe",
   "52A aCAPITAL LETTER DZZHE,aSMALLb,aCAPITAL LETTER DCHE,aSMALLb",
   "52E aCAPITAL LETTER EL WITH DESCENDER,aSMALLd,,ARMENIAN CAPITAL LETTER AYB,cBEN,cGIM,cDA,cECH",
   "536 cZA,cEH,cET,cTO,cZHE,cINI,cLIWN,cXEH,cCA,cKEN,cHO,cJA,cGHAD,cCHEH,cMEN,cYI,cNOW,cSHA,cVO",
   "549 cCHA,cPEH,cJHEH,cRA,cSEH,cVEW,cTIWN,cREH,cCO,cYIWN,cPIWR,cKEH,cOH,cFEH",
   "559 aMODIFIER LETTER LEFT HALF RING,aAPOSTROPHE,aEMPHASIS MARK,aEXCLAMATIONa,aCOMMA",
   "55E aQUESTION MARK,aABBREVIATIONa,aSMALL LETTER TURNED AYB,cAYB,cBEN,cGIM,cDA,cECH,cZA,cEH",
   "568 cET,cTO,cZHE,cINI,cLIWN,cXEH,cCA,cKEN,cHO,cJA,cGHAD,cCHEH,cMEN,cYI,cNOW,cSHA,cVO,cCHA",
   "57A cPEH,cJHEH,cRA,cSEH,cVEW,cTIWN,cREH,cCO,cYIWN,cPIWR,cKEH,cOH,cFEH,bLIGATURE ECH YIWN",
   "588 bLETTER YI WITH STROKE,aFULL STOP,aHYPHEN,,,RIGHT-FACING ARMENIAN ETERNITY SIGN",
   "58E LEFT-FACINGc,ARMENIAN DRAMa,,HEBREW ACCENT ETNAHTA,bSEGOL,bSHALSHELET,bZAQEF QATAN,cGADOL",
   "596 bTIPEHA,bREVIA,bZARQA,bPASHTA,bYETIV,bTEVIR,bGERESH,cMUQDAM,bGERSHAYIM,bQARNEY PARA",
   "5A0 bTELISHA GEDOLA,bPAZER,bATNAH HAFUKH,bMUNAH,bMAHAPAKH,bMERKHA,cKEFULA,bDARGA,bQADMA",
   "5A9 bTELISHA QETANA,bYERAH BEN YOMO,bOLE,bILUY,bDEHI,bZINOR,aMARK MASORA CIRCLE,aPOINT SHEVA",
   "5B1 bHATAF SEGOL,cPATAH,cQAMATS,bHIRIQ,bTSERE,bSEGOL,bPATAH,bQAMATS,bHOLAM,cHASER FOR VAV",
   "5BB bQUBUTS,bDAGESH OR MAPIQ,bMETEG,aPUNCTUATION MAQAF,aPOINT RAFE,aPUNCTUATION PASEQ",
   "5C1 aPOINT SHIN DOT,bSINa,aPUNCTUATION SOF PASUQ,aMARK UPPER DOT,bLOWERa",
   "5C6 aPUNCTUATION NUN HAFUKHA,aPOINT QAMATS QATAN,,,,,,,,,aLETTER ALEF,bBET,bGIMEL,bDALET,bHE",
   "5D5 bVAV,bZAYIN,bHET,bTET,bYOD,bFINAL KAF,bKAF,bLAMED,bFINAL MEM,bMEM,bFINAL NUN,bNUN,bSAMEKH",
   "5E2 bAYIN,bFINAL PE,bPE,bFINAL TSADI,bTSADI,bQOF,bRESH,bSHIN,bTAV,,,,,aYOD TRIANGLE",
   "5F0 aLIGATURE YIDDISH DOUBLE VAV,cVAV YOD,cDOUBLEa,aPUNCTUATION GERESH,bGERSHAYIM",
   "600 ARABIC NUMBER SIGN,aSIGN SANAH,aFOOTNOTE MARKER,aSIGN SAFHA,bSAMVAT,aNUMBER MARK ABOVE",
   "606 ARABIC-INDIC CUBE ROOT,aFOURTHa,ARABIC RAY,ARABIC-INDIC PER MILLE SIGN,bTEN THOUSANDa",
   "60B AFGHANIa,ARABIC COMMA,aDATE SEPARATOR,aPOETIC VERSE SIGN,aSIGN MISRA",
   "610 bSALLALLAHOU ALAYHE WASSALLAM,bALAYHE ASSALLAM,bRAHMATULLAH ALAYHE,bRADI ALLAHOU ANHU",
   "614 bTAKHALLUS,aSMALL HIGH TAH,cLIGATURE ALEF WITH LAM WITH YEH,cZAIN,bFATHA,bDAMMA,bKASRA",
   "61B aSEMICOLON,aLETTER MARK,aEND OF TEXTa,aTRIPLE DOT PUNCTUATIONa,aQUESTIONa",
   "620 aLETTER KASHMIRI YEH,bHAMZA,bALEF WITH MADDA ABOVE,dHAMZAa,bWAWc,bALEF WITH HAMZA BELOW",
   "626 bYEH WITH HAMZA ABOVE,bALEF,bBEH,bTEH MARBUTA,bTEH,bTHEH,bJEEM,bHAH,bKHAH,bDAL,bTHAL,bREH",
   "632 bZAIN,bSEEN,bSHEEN,bSAD,bDAD,bTAH,bZAH,bAIN,bGHAIN,bKEHEH WITH TWO DOTS ABOVE",
   "63C dTHREE DOTS BELOW,bFARSI YEH WITH INVERTED V,eTWO DOTS ABOVE,eTHREEb,aTATWEEL,aLETTER FEH",
   "642 bQAF,bKAF,bLAM,bMEEM,bNOON,bHEH,bWAW,bALEF MAKSURA,bYEH,aFATHATAN,aDAMMATAN,aKASRATAN",
   "64E aFATHA,aDAMMA,aKASRA,aSHADDA,aSUKUN,aMADDAH ABOVE,aHAMZAa,bBELOW,aSUBSCRIPT ALEF",
   "657 aINVERTED DAMMA,aMARK NOON GHUNNA,aZWARAKAY,aVOWEL SIGN SMALL V ABOVE,cINVERTEDc",
   "65C cDOT BELOW,aREVERSED DAMMA,aFATHA WITH TWO DOTS,aWAVY HAMZA BELOW,ARABIC-INDIC DIGIT ZERO",
   "661 bONE,bTWO,bTHREE,bFOUR,bFIVE,bSIX,bSEVEN,bEIGHT,bNINE,ARABIC PERCENT SIGN",
   "66B aDECIMAL SEPARATOR,aTHOUSANDSa,aFIVE POINTED STAR,aLETTER DOTLESS BEH,cQAF",
   "670 bSUPERSCRIPT ALEF,bALEF WASLA,cWITH WAVY HAMZA ABOVE,fBELOW,bHIGH HAMZA,dALEF,dWAW",
   "677 bU WITH HAMZA ABOVE,bHIGH HAMZA YEH,bTTEH,bTTEHEH,bBEEH,bTEH WITH RING",
   "67D dTHREE DOTS ABOVE DOWNWARDS,bPEH,bTEHEH,bBEHEH,bHAH WITH HAMZA ABOVE,dTWO DOTS VERTICALa",
   "683 bNYEH,bDYEH,bHAH WITH THREE DOTS ABOVE,bTCHEH,bTCHEHEH,bDDAL,bDAL WITH RING,dDOT BELOW",
   "68B fAND SMALL TAH,bDAHAL,bDDAHAL,bDUL,bDAL WITH THREE DOTS ABOVE DOWNWARDS,dFOUR DOTS ABOVE",
   "691 bRREH,bREH WITH SMALL V,dRING,dDOT BELOW,dSMALL Va,dDOT BELOW AND DOT ABOVE,dTWO DOTSa",
   "698 bJEH,bREH WITH FOUR DOTS ABOVE,bSEEN WITH DOT BELOW AND DOTa,dTHREE DOTS BELOW",
   "69C gAND THREE DOTS ABOVE,bSAD WITH TWO DOTS BELOW,dTHREE DOTS ABOVE,bTAHd,bAINd,bDOTLESS FEH",
   "6A2 bFEH WITH DOT MOVED BELOW,eBELOW,bVEH,bFEH WITH THREE DOTS BELOW,bPEHEH",
   "6A7 bQAF WITH DOT ABOVE,dTHREE DOTSa,bKEHEH,bSWASH KAF,bKAF WITH RING,dDOT ABOVE,bNG",
   "6AE bKAF WITH THREE DOTS BELOW,bGAF,cWITH RING,bNGOEH,bGAF WITH TWO DOTS BELOW,bGUEH",
   "6B4 bGAF WITH THREE DOTS ABOVE,bLAM WITH SMALL V,dDOT ABOVE,dTHREE DOTSa,fBELOW",
   "6B9 bNOON WITH DOTa,cGHUNNA,bRNOON,bNOON WITH RING,dTHREE DOTS ABOVE,bHEH DOACHASHMEE",
   "6BF bTCHEH WITH DOT ABOVE,bHEH WITH YEHa,cGOAL,dWITH HAMZA ABOVE,bTEH MARBUTA GOAL",
   "6C4 bWAW WITH RING,bKIRGHIZ OE,bOE,bU,bYU,bKIRGHIZa,bWAW WITH TWO DOTS ABOVE,bVE,bFARSI YEH",
   "6CD bYEH WITH TAIL,dSMALL V,bWAW WITH DOT ABOVE,bE,bYEH WITH THREE DOTS BELOW,cBARREE",
   "6D3 dWITH HAMZA ABOVE,aFULL STOP,aLETTER AE",
   "6D6 aSMALL HIGH LIGATURE SAD WITH LAM WITH ALEF MAKSURA,dQAFe,cMEEM INITIAL FORM,cLAM ALEF",
   "6DA cJEEM,cTHREE DOTS,cSEEN,aEND OF AYAH,aSTART OF RUB EL HIZB,aSMALL HIGH ROUNDED ZERO",
   "6E0 cUPRIGHT RECTANGULARa,cDOTLESS HEAD OF KHAH,cMEEM ISOLATED FORM,bLOW SEEN,bHIGH MADDA",
   "6E5 bWAW,bYEH,bHIGHa,cNOON,aPLACE OF SAJDAH,aEMPTY CENTRE LOW STOP,cHIGHa",
   "6EC aROUNDED HIGH STOP WITH FILLED CENTRE,aSMALL LOW MEEM,aLETTER DAL WITH INVERTED V,bREHc",
   "6F0 EXTENDED ARABIC-INDIC DIGIT ZERO,cONE,cTWO,cTHREE,cFOUR,cFIVE,cSIX,cSEVEN,cEIGHT,cNINE",
   "6FA ARABIC LETTER SHEEN WITH DOT BELOW,bDADc,bGHAINc,aSIGN SINDHI AMPERSAND,cPOSTPOSITION MEN",
   "6FF aLETTER HEH WITH INVERTED V,SYRIAC END OF PARAGRAPH,aSUPRALINEAR FULL STOP,aSUBLINEARb",
   "703 aSUPRALINEAR COLON,aSUBLINEARa,aHORIZONTALa,aCOLON SKEWED LEFT,cRIGHT",
   "708 aSUPRALINEAR COLON SKEWED LEFT,aSUBLINEAR COLON SKEWED RIGHT,aCONTRACTION",
   "70B aHARKLEAN OBELUS,bMETOBELUS,bASTERISCUS,,aABBREVIATION MARK,aLETTER ALAPH,bSUPERSCRIPTa",
   "712 bBETH,bGAMAL,cGARSHUNI,bDALATH,bDOTLESS DALATH RISH,bHE,bWAW,bZAIN,bHETH,bTETH,cGARSHUNI",
   "71D bYUDH,cHE,bKAPH,bLAMADH,bMIM,bNUN,bSEMKATH,bFINALa,bE,bPE,bREVERSEDa,bSADHE,bQAPH,bRISH",
   "72B bSHIN,bTAW,bPERSIAN BHETH,cGHAMAL,cDHALATH,aPTHAHA ABOVE,bBELOW,bDOTTED,aZQAPHA ABOVE",
   "734 bBELOW,bDOTTED,aRBASA ABOVE,bBELOW,aDOTTED ZLAMA HORIZONTAL,cANGULAR,aHBASA ABOVE,bBELOW",
   "73C aHBASA-ESASA DOTTED,aESASA ABOVE,bBELOW,aRWAHA,aFEMININE DOT,aQUSHSHAYA,aRUKKAKHA",
   "743 aTWO VERTICAL DOTS ABOVE,dBELOW,aTHREE DOTS ABOVE,cBELOW,aOBLIQUE LINE ABOVE,cBELOW",
   "749 aMUSIC,aBARREKH,,,aLETTER SOGDIAN ZHAIN,cKHAPH,cFE",
   "750 ARABIC LETTER BEH WITH THREE DOTS HORIZONTALLY BELOW,dDOT BELOW AND THREE DOTS ABOVE",
   "752 dTHREE DOTS POINTING UPWARDS BELOW,iAND TWO DOTS ABOVE,dTWO DOTS BELOW AND DOTa",
   "755 dINVERTED SMALL V BELOW,dSMALL V,bHAH WITH TWO DOTS ABOVE",
   "758 dTHREE DOTS POINTING UPWARDS BELOW,bDAL WITH TWO DOTS VERTICALLY BELOW AND SMALL TAH",
   "75A dINVERTED SMALL V BELOW,bREH WITH STROKE,bSEEN WITH FOUR DOTS ABOVE,bAIN WITH TWOb",
   "75E dTHREE DOTS POINTING DOWNWARDSa,dTWO DOTS VERTICALLYa,bFEH WITH TWO DOTS BELOW",
   "761 dTHREE DOTS POINTING UPWARDSa,bKEHEH WITH DOT ABOVE,dTHREE DOTSa,fPOINTING UPWARDS BELOW",
   "765 bMEEM WITH DOT ABOVE,eBELOW,bNOON WITH TWO DOTSa,dSMALL TAH,eV,bLAM WITH BAR",
   "76B bREH WITH TWO DOTS VERTICALLY ABOVE,dHAMZAa,bSEEN WITH TWO DOTS VERTICALLYa",
   "76E bHAH WITH SMALL ARABIC LETTER TAH BELOW,hAND TWO DOTS,bSEENh,bREHh",
   "772 bHAH WITH SMALL ARABIC LETTER TAH ABOVE,bALEF WITH EXTENDED ARABIC-INDIC DIGIT TWOa",
   "774 gTHREEa,bFARSI YEH WITH EXTENDED ARABIC-INDIC DIGIT TWOa,hTHREEa,hFOUR BELOW",
   "778 bWAW WITH EXTENDED ARABIC-INDIC DIGIT TWO ABOVE,gTHREEa",
   "77A bYEH BARREE WITH EXTENDED ARABIC-INDIC DIGIT TWOa,hTHREEa",
   "77C bHAH WITH EXTENDED ARABIC-INDIC DIGIT FOUR BELOW",
   "77D bSEEN WITH EXTENDED ARABIC-INDIC DIGIT FOUR ABOVE,dINVERTED V,bKAF WITH TWO DOTS ABOVE",
   "780 THAANA LETTER HAA,bSHAVIYANI,bNOONU,bRAA,bBAA,bLHAVIYANI,bKAAFU,bALIFU,bVAAVU,bMEEMU",
   "78A bFAAFU,bDHAALU,bTHAA,bLAAMU,bGAAFU,bGNAVIYANI,bSEENU,bDAVIYANI,bZAVIYANI,bTAVIYANI,bYAA",
   "795 bPAVIYANI,bJAVIYANI,bCHAVIYANI,bTTAA,bHHAA,bKHAA,bTHAALU,bZAA,bSHEENU,bSAADHU,bDAADHU,bTO",
   "7A1 bZO,bAINU,bGHAINU,bQAAFU,bWAAVU,aABAFILI,aAABAAFILI,aIBIFILI,aEEBEEFILI,aUBUFILI",
   "7AB aOOBOOFILI,aEBEFILI,aEYBEYFILI,aOBOFILI,aOABOAFILI,aSUKUN,aLETTER NAA",
   "7C0 NKO DIGIT ZERO,bONE,bTWO,bTHREE,bFOUR,bFIVE,bSIX,bSEVEN,bEIGHT,bNINE,aLETTER A,bEE,bI,bE",
   "7CE bU,bOO,bO,bDAGBASINNA,bN,bBA,bPA,bTA,bJA,bCHA,bDA,bRA,bRRA,bSA,bGBA,bFA,bKA,bLA",
   "7E0 bNA WOLOSO,bMA,bNYA,bNA,bHA,bWA,bYA,bNYA WOLOSO,bJONA JA,cCHA,cRA",
   "7EB aCOMBINING SHORT HIGH TONE,cLOWa,cRISINGa,bLONG DESCENDINGa,cHIGHa,cLOWa,cRISINGa",
   "7F2 bNASALIZATION MARK,bDOUBLE DOT ABOVE,aHIGH TONE APOSTROPHE,aLOWb,aSYMBOL OO DENNEN",
   "7F7 bGBAKURUNEN,aCOMMA,aEXCLAMATION MARK,aLAJANYALAN,,,aDANTAYALAN,aDOROME SIGN,aTAMANa",
   "800 SAMARITAN LETTER ALAF,bBIT,bGAMAN,bDALAT,bIY,bBAA,bZEN,bIT,bTIT,bYUT,bKAAF,bLABAT,bMIM",
   "80D bNUN,bSINGAAT,bIN,bFI,bTSAADIY,bQUF,bRISH,bSHAN,bTAAF,aMARK IN,bIN-ALAF,bOCCLUSION",
   "819 bDAGESH,aMODIFIER LETTER EPENTHETIC YUT,aMARKb,aVOWEL SIGN LONG E,cE,cOVERLONG AA,cLONGa",
   "820 cAA,cOVERLONG A,cLONGa,cA,aMODIFIER LETTER SHORTa,aVOWEL SIGNb,cLONG U,cU",
   "828 aMODIFIER LETTER I,aVOWEL SIGN LONGa,cI,cO,cSUKUN,aMARK NEQUDAA,,,aPUNCTUATIONa,bAFSAAQ",
   "832 bANGED,bBAU,bATMAAU,bSHIYYAALAA,aABBREVIATION MARK,aPUNCTUATION MELODIC QITSA,bZIQAA",
   "839 bQITSA,bZAEF,bTURU,bARKAANU,bSOF MASHFAAT,bANNAAU,,MANDAIC LETTER HALQA,bAB,bAG,bAD,bAH",
   "845 bUSHENNA,bAZ,bIT,bATT,bAKSA,bAK,bAL,bAM,bAN,bAS,bIN,bAP,bASZ,bAQ,bAR,bASH,bAT,bDUSHENNA",
   "857 bKAD,bAIN,aAFFRICATION MARK,aVOCALIZATIONa,aGEMINATIONa,,,aPUNCTUATION",
   "860 SYRIAC LETTER MALAYALAM NGA,cJA,cNYA,cTTA,cNNA,cNNNA,cBHA,cRA,cLLA,cLLLA,cSSA",
   "870 ARABIC LETTER ALEF WITH ATTACHED FATHA,eTOP RIGHTa,dRIGHT MIDDLE STROKE,dLEFTb",
   "874 dATTACHED KASRA,eBOTTOM RIGHTa,eROUND DOT ABOVE,eRIGHT ROUND DOT,eLEFTb,eROUND DOT BELOW",
   "87A dDOT ABOVE,dATTACHED TOP RIGHT FATHA ANDb,dRIGHT MIDDLE STROKEc",
   "87D dATTACHED BOTTOM RIGHT KASRAc,eTOP RIGHT FATHA AND LEFT RING,dRIGHT MIDDLE STROKEc",
   "880 dATTACHED BOTTOM RIGHT KASRAc,eRIGHT HAMZA,eLEFTa,aTATWEEL WITH OVERSTRUCKa,dWAW",
   "885 cTWO DOTS BELOW,aLETTER THIN YEH,aBASELINE ROUND DOT,aRAISEDb",
   "889 aLETTER NOON WITH INVERTED SMALL V,bHAH WITH INVERTED SMALL V BELOW,bTAH WITH DOTa",
   "88C dTHREE DOTSa,bKEHEH WITH TWO DOTS VERTICALLYa,aVERTICAL TAIL,,aPOUND MARK ABOVE,aPIASTREb",
   "898 aSMALL HIGH WORD AL-JUZ,bLOW WORD ISHMAAM,dIMAALA,dTASHEEL,aMADDA WAAJIB",
   "89D aSUPERSCRIPT ALEF MOKHASSAS,aDOUBLED MADDA,aHALF MADDA OVERa",
   "8A0 aLETTER BEH WITH SMALL V BELOW,dHAMZA ABOVE,bJEEM WITH TWO DOTSa,bTAHd",
   "8A4 bFEH WITH DOT BELOW AND THREEb,bQAF WITH DOT BELOW,bLAM WITH DOUBLE BAR",
   "8A7 bMEEM WITH THREE DOTS ABOVE,bYEH WITH TWO DOTS BELOW AND HAMZAa,hDOTa,bREH WITH LOOP",
   "8AB bWAW WITH DOT WITHIN,bROHINGYA YEH,bLOW ALEF,bDAL WITH THREE DOTS BELOW,bSADd",
   "8B0 bGAF WITH INVERTED STROKE,bSTRAIGHT WAW,bZAIN WITH INVERTED V ABOVE",
   "8B3 bAIN WITH THREE DOTS BELOW,bKAF WITH DOTa,bQAF WITH DOT BELOW AND NO DOTS ABOVE",
   "8B6 bBEH WITH SMALL MEEMa,bPEHd,bTEH WITH SMALL TEHa,bREH WITH SMALL NOONa",
   "8BA bYEH WITH TWO DOTS BELOW ANDc,bAFRICAN FEH,cQAF,cNOON,bPEH WITH SMALL V,bTEHc,bTTEHc",
   "8C1 bTCHEHc,bKEHEHc,bGHAIN WITH THREE DOTS ABOVE,bAFRICAN QAFd,bJEEMd,fBELOW",
   "8C7 bLAM WITH SMALL ARABIC LETTER TAH ABOVE,bGRAF,aSMALL FARSI YEH,bHIGHb",
   "8CB cYEH BARREE WITH TWO DOTS BELOW,cWORD SAH,cZAH,aLARGE ROUND DOT ABOVE,dBELOW,aSUKUNa",
   "8D1 aLARGE CIRCLEa,bROUND DOT INSIDEb,aSMALL LOW WAW,bHIGH WORD AR-RUB,cSAD,cAIN,cQAF",
   "8D8 cNOON WITH KASRA,bLOWc,bHIGH WORD ATH-THALATHA,dAS-SAJDA,dAN-NISF,dSAKTA,dQIF,dWAQFA",
   "8E0 cFOOTNOTE MARKER,cSIGN SAFHA,aDISPUTED END OF AYAH,aTURNED DAMMA BELOW,aCURLY FATHA",
   "8E5 bDAMMA,bKASRA,bFATHATAN,bDAMMATAN,bKASRATAN,aTONE ONE DOT ABOVE,bTWO DOTSa,bLOOPa",
   "8ED bONE DOT BELOW,bTWO DOTSa,bLOOPa,aOPEN FATHATAN,bDAMMATAN,bKASRATAN,aSMALL HIGH WAW",
   "8F4 aFATHA WITH RING,cDOT ABOVE,aKASRA WITH DOT BELOW,aLEFT ARROWHEAD ABOVE,aRIGHTb",
   "8F9 aLEFT ARROWHEAD BELOW,aRIGHTb,aDOUBLE RIGHT ARROWHEAD ABOVE,eWITH DOT,aRIGHTd,aDAMMAb",
   "8FF aMARK SIDEWAYS NOON GHUNNA,DEVANAGARI SIGN INVERTED CANDRABINDU,bCANDRABINDU,bANUSVARA",
   "903 bVISARGA,aLETTER SHORT A,bA,bAA,bI,bII,bU,bUU,bVOCALIC R,cL,bCANDRA E,bSHORTa,bE,bAI",
   "911 bCANDRA O,bSHORTa,bO,bAU,bKA,bKHA,bGA,bGHA,bNGA,bCA,bCHA,bJA,bJHA,bNYA,bTTA,bTTHA,bDDA",
   "922 bDDHA,bNNA,bTA,bTHA,bDA,bDHA,bNA,bNNNA,bPA,bPHA,bBA,bBHA,bMA,bYA,bRA,bRRA,bLA,bLLA,bLLLA",
   "935 bVA,bSHA,bSSA,bSA,bHA,aVOWEL SIGN OE,cOOE,aSIGN NUKTA,bAVAGRAHA,aVOWEL SIGN AA,cI,cII,cU",
   "942 cUU,cVOCALIC R,dRR,cCANDRA E,cSHORTa,cE,cAI,cCANDRA O,cSHORTa,cO,cAU,aSIGN VIRAMA",
   "94E aVOWEL SIGN PRISHTHAMATRA E,cAW,aOM,aSTRESS SIGN UDATTA,cANUDATTA,aGRAVE ACCENT,aACUTEa",
   "955 aVOWEL SIGN CANDRA LONG E,cUE,cUUE,aLETTER QA,bKHHA,bGHHA,bZA,bDDDHA,bRHA,bFA,bYYA",
   "960 bVOCALIC RR,cLL,aVOWEL SIGN VOCALIC L,dLL,aDANDA,aDOUBLEa,aDIGIT ZERO,bONE,bTWO,bTHREE",
   "96A bFOUR,bFIVE,bSIX,bSEVEN,bEIGHT,bNINE,aABBREVIATION SIGN,aSIGN HIGH SPACING DOT",
   "972 aLETTER CANDRA A,bOE,bOOE,bAW,bUE,bUUE,bMARWARI DDA,bZHA,bHEAVY YA,bGGA,bJJA",
   "97D bGLOTTAL STOP,bDDDA,bBBA,BENGALI ANJI,aSIGN CANDRABINDU,bANUSVARA,bVISARGA,,aLETTER A,bAA",
   "987 bI,bII,bU,bUU,bVOCALIC R,cL,,,bE,bAI,,,bO,bAU,bKA,bKHA,bGA,bGHA,bNGA,bCA,bCHA,bJA,bJHA",
   "99E bNYA,bTTA,bTTHA,bDDA,bDDHA,bNNA,bTA,bTHA,bDA,bDHA,bNA,,bPA,bPHA,bBA,bBHA,bMA,bYA,bRA,,bLA",
   "9B6 bSHA,bSSA,bSA,bHA,,,aSIGN NUKTA,bAVAGRAHA,aVOWEL SIGN AA,cI,cII,cU,cUU,cVOCALIC R,dRR",
   "9C7 cE,cAI,,,cO,cAU,aSIGN VIRAMA,aLETTER KHANDA TA,,,,,,,,,aAU LENGTH MARK,,,,,aLETTER RRA",
   "9DD bRHA,,bYYA,bVOCALIC RR,cLL,aVOWEL SIGN VOCALIC L,dLL,,,aDIGIT ZERO,bONE,bTWO,bTHREE,bFOUR",
   "9EB bFIVE,bSIX,bSEVEN,bEIGHT,bNINE,aLETTER RA WITH MIDDLE DIAGONAL,dLOWERa,aRUPEE MARK,bSIGN",
   "9F4 aCURRENCY NUMERATOR ONE,cTWO,cTHREE,cFOUR,cONE LESS THAN THE DENOMINATOR",
   "9F9 bDENOMINATOR SIXTEEN,aISSHAR,aGANDA MARK,aLETTER VEDIC ANUSVARA,aABBREVIATION SIGN",
   "9FE aSANDHI MARK,,,GURMUKHI SIGN ADAK BINDI,bBINDI,bVISARGA,,aLETTER A,bAA,bI,bII,bU,bUU",
   "A0F bEE,bAI,,,bOO,bAU,bKA,bKHA,bGA,bGHA,bNGA,bCA,bCHA,bJA,bJHA,bNYA,bTTA,bTTHA,bDDA,bDDHA",
   "A23 bNNA,bTA,bTHA,bDA,bDHA,bNA,,bPA,bPHA,bBA,bBHA,bMA,bYA,bRA,,bLA,bLLA,,bVA,bSHA,,bSA,bHA",
   "A3C aSIGN NUKTA,,aVOWEL SIGN AA,cI,cII,cU,cUU,,,,,cEE,cAI,,,cOO,cAU,aSIGN VIRAMA,,,,bUDAAT",
   "A59 aLETTER KHHA,bGHHA,bZA,bRRA,,bFA,,,,,,,,aDIGIT ZERO,bONE,bTWO,bTHREE,bFOUR,bFIVE,bSIX",
   "A6D bSEVEN,bEIGHT,bNINE,aTIPPI,aADDAK,aIRI,aURA,aEK ONKAR,aSIGN YAKASH,aABBREVIATION SIGN",
   "A81 GUJARATI SIGN CANDRABINDU,bANUSVARA,bVISARGA,,aLETTER A,bAA,bI,bII,bU,bUU,bVOCALIC R,cL",
   "A8D aVOWEL CANDRA E,,aLETTERa,bAI,aVOWEL CANDRA O,,aLETTERa,bAU,bKA,bKHA,bGA,bGHA,bNGA,bCA",
   "A9B bCHA,bJA,bJHA,bNYA,bTTA,bTTHA,bDDA,bDDHA,bNNA,bTA,bTHA,bDA,bDHA,bNA,,bPA,bPHA,bBA,bBHA",
   "AAE bMA,bYA,bRA,,bLA,bLLA,,bVA,bSHA,bSSA,bSA,bHA,,,aSIGN NUKTA,bAVAGRAHA,aVOWEL SIGN AA,cI",
   "AC0 cII,cU,cUU,cVOCALIC R,dRR,cCANDRA E,,cE,cAI,cCANDRA O,,cO,cAU,aSIGN VIRAMA,,,aOM",
   "AE0 aLETTER VOCALIC RR,cLL,aVOWEL SIGN VOCALIC L,dLL,,,aDIGIT ZERO,bONE,bTWO,bTHREE,bFOUR",
   "AEB bFIVE,bSIX,bSEVEN,bEIGHT,bNINE,aABBREVIATION SIGN,aRUPEEa,,,,,,,,aLETTER ZHA,aSIGN SUKUN",
   "AFB bSHADDA,bMADDAH,bTHREE-DOT NUKTA ABOVE,bCIRCLEb,bTWO-CIRCLEb,,ORIYA SIGN CANDRABINDU",
   "B02 bANUSVARA,bVISARGA,,aLETTER A,bAA,bI,bII,bU,bUU,bVOCALIC R,cL,,,bE,bAI,,,bO,bAU,bKA,bKHA",
   "B17 bGA,bGHA,bNGA,bCA,bCHA,bJA,bJHA,bNYA,bTTA,bTTHA,bDDA,bDDHA,bNNA,bTA,bTHA,bDA,bDHA,bNA",
   "B2A bPA,bPHA,bBA,bBHA,bMA,bYA,bRA,,bLA,bLLA,,bVA,bSHA,bSSA,bSA,bHA,,,aSIGN NUKTA,bAVAGRAHA",
   "B3E aVOWEL SIGN AA,cI,cII,cU,cUU,cVOCALIC R,dRR,,,cE,cAI,,,cO,cAU,aSIGN VIRAMA",
   "B55 bOVERLINE,aAI LENGTH MARK,aAUb,,,,,aLETTER RRA,bRHA,,bYYA,bVOCALIC RR,cLL",
   "B62 aVOWEL SIGN VOCALIC L,dLL,,,aDIGIT ZERO,bONE,bTWO,bTHREE,bFOUR,bFIVE,bSIX,bSEVEN,bEIGHT",
   "B6F bNINE,aISSHAR,aLETTER WA,aFRACTION ONE QUARTER,cHALF,bTHREE QUARTERS,bONE SIXTEENTH",
   "B76 cEIGHTH,bTHREE SIXTEENTHS",
   "B82 TAMIL SIGN ANUSVARA,bVISARGA,,aLETTER A,bAA,bI,bII,bU,bUU,,,,bE,bEE,bAI,,bO,bOO,bAU,bKA",
   "B99 bNGA,bCA,,bJA,,bNYA,bTTA,,,,bNNA,bTA,,,,bNA,bNNNA,bPA,,,,bMA,bYA,bRA,bRRA,bLA,bLLA,bLLLA",
   "BB5 bVA,bSHA,bSSA,bSA,bHA,,,,,aVOWEL SIGN AA,cI,cII,cU,cUU,,,,cE,cEE,cAI,,cO,cOO,cAU",
   "BCD aSIGN VIRAMA,,,aOM,,,,,,,aAU LENGTH MARK",
   "BE6 aDIGIT ZERO,bONE,bTWO,bTHREE,bFOUR,bFIVE,bSIX,bSEVEN,bEIGHT,bNINE,aNUMBER TEN",
   "BF1 bONE HUNDRED,cTHOUSAND,aDAY SIGN,aMONTHa,aYEARa,aDEBITa,aCREDITa,aAS ABOVEa,aRUPEEa",
   "BFA aNUMBERa,,,,,,TELUGU SIGN COMBINING CANDRABINDU ABOVE,bCANDRABINDU,bANUSVARA,bVISARGA",
   "C04 bCOMBINING ANUSVARA ABOVE,aLETTER A,bAA,bI,bII,bU,bUU,bVOCALIC R,cL,,bE,bEE,bAI,,bO,bOO",
   "C14 bAU,bKA,bKHA,bGA,bGHA,bNGA,bCA,bCHA,bJA,bJHA,bNYA,bTTA,bTTHA,bDDA,bDDHA,bNNA,bTA,bTHA,bDA",
   "C27 bDHA,bNA,,bPA,bPHA,bBA,bBHA,bMA,bYA,bRA,bRRA,bLA,bLLA,bLLLA,bVA,bSHA,bSSA,bSA,bHA",
   "C3C aSIGN NUKTA,bAVAGRAHA,aVOWEL SIGN AA,cI,cII,cU,cUU,cVOCALIC R,dRR,,cE,cEE,cAI,,cO,cOO,cAU",
   "C4D aSIGN VIRAMA,,,,,,,,aLENGTH MARK,aAIb,,aLETTER TSA,bDZA,bRRRA,,,bNAKAARA POLLU",
   "C60 bVOCALIC RR,cLL,aVOWEL SIGN VOCALIC L,dLL,,,aDIGIT ZERO,bONE,bTWO,bTHREE,bFOUR,bFIVE,bSIX",
   "C6D bSEVEN,bEIGHT,bNINE,,,,,,,,aSIGN SIDDHAM,aFRACTION DIGIT ZERO FOR ODD POWERS OF FOUR",
   "C79 cONEe,cTWOe,cTHREEe,cONE FOR EVENc,cTWOe,cTHREEe,aSIGN TUUMU",
   "C80 KANNADA SIGN SPACING CANDRABINDU,bCANDRABINDU,bANUSVARA,bVISARGA,bSIDDHAM,aLETTER A,bAA",
   "C87 bI,bII,bU,bUU,bVOCALIC R,cL,,bE,bEE,bAI,,bO,bOO,bAU,bKA,bKHA,bGA,bGHA,bNGA,bCA,bCHA,bJA",
   "C9D bJHA,bNYA,bTTA,bTTHA,bDDA,bDDHA,bNNA,bTA,bTHA,bDA,bDHA,bNA,,bPA,bPHA,bBA,bBHA,bMA,bYA,bRA",
   "CB1 bRRA,bLA,bLLA,,bVA,bSHA,bSSA,bSA,bHA,,,aSIGN NUKTA,bAVAGRAHA,aVOWEL SIGN AA,cI,cII,cU,cUU",
   "CC3 cVOCALIC R,dRR,,cE,cEE,cAI,,cO,cOO,cAU,aSIGN VIRAMA,,,,,,,,aLENGTH MARK,aAIb",
   "CDD aLETTER NAKAARA POLLU,bFA,,bVOCALIC RR,cLL,aVOWEL SIGN VOCALIC L,dLL,,,aDIGIT ZERO,bONE",
   "CE8 bTWO,bTHREE,bFOUR,bFIVE,bSIX,bSEVEN,bEIGHT,bNINE,,aSIGN JIHVAMULIYA,bUPADHMANIYA",
   "D00 MALAYALAM SIGN COMBINING ANUSVARA ABOVE,bCANDRABINDU,bANUSVARA,bVISARGA",
   "D04 aLETTER VEDIC ANUSVARA,bA,bAA,bI,bII,bU,bUU,bVOCALIC R,cL,,bE,bEE,bAI,,bO,bOO,bAU,bKA",
   "D16 bKHA,bGA,bGHA,bNGA,bCA,bCHA,bJA,bJHA,bNYA,bTTA,bTTHA,bDDA,bDDHA,bNNA,bTA,bTHA,bDA,bDHA",
   "D28 bNA,bNNNA,bPA,bPHA,bBA,bBHA,bMA,bYA,bRA,bRRA,bLA,bLLA,bLLLA,bVA,bSHA,bSSA,bSA,bHA,bTTTA",
   "D3B aSIGN VERTICAL BAR VIRAMA,bCIRCULARa,bAVAGRAHA,aVOWEL SIGN AA,cI,cII,cU,cUU,cVOCALIC R",
   "D44 dRR,,cE,cEE,cAI,,cO,cOO,cAU,aSIGN VIRAMA,aLETTER DOT REPH,aSIGN PARA,,,,,aLETTER CHILLU M",
   "D55 cY,cLLL,aAU LENGTH MARK,aFRACTION ONE ONE-HUNDRED-AND-SIXTIETH,cFORTIETH",
   "D5A bTHREE EIGHTIETHS,bONE TWENTIETH,cTENTH,bTHREE TWENTIETHS,bONE FIFTH,aLETTER ARCHAIC II",
   "D60 bVOCALIC RR,cLL,aVOWEL SIGN VOCALIC L,dLL,,,aDIGIT ZERO,bONE,bTWO,bTHREE,bFOUR,bFIVE,bSIX",
   "D6D bSEVEN,bEIGHT,bNINE,aNUMBER TEN,bONE HUNDRED,cTHOUSAND,aFRACTION ONE QUARTER,cHALF",
   "D75 bTHREE QUARTERS,bONE SIXTEENTH,cEIGHTH,bTHREE SIXTEENTHS,aDATE MARK,aLETTER CHILLU NN,cN",
   "D7C cRR,cL,cLL,cK,,SINHALA SIGN CANDRABINDU,bANUSVARAYA,bVISARGAYA,,aLETTER AYANNA,bAAYANNA",
   "D87 bAEYANNA,bAEEYANNA,bIYANNA,bIIYANNA,bUYANNA,bUUYANNA,bIRUYANNA,bIRUUYANNA,bILUYANNA",
   "D90 bILUUYANNA,bEYANNA,bEEYANNA,bAIYANNA,bOYANNA,bOOYANNA,bAUYANNA,,,,bALPAPRAANA KAYANNA",
   "D9B bMAHAAPRAANAa,bALPAPRAANA GAYANNA,bMAHAAPRAANAa,bKANTAJA NAASIKYAYA,bSANYAKA GAYANNA",
   "DA0 bALPAPRAANA CAYANNA,bMAHAAPRAANAa,bALPAPRAANA JAYANNA,bMAHAAPRAANAa,bTAALUJA NAASIKYAYA",
   "DA5 cSANYOOGA NAAKSIKYAYA,bSANYAKA JAYANNA,bALPAPRAANA TTAYANNA,bMAHAAPRAANAa",
   "DA9 bALPAPRAANA DDAYANNA,bMAHAAPRAANAa,bMUURDHAJA NAYANNA,bSANYAKA DDAYANNA",
   "DAD bALPAPRAANA TAYANNA,bMAHAAPRAANAa,bALPAPRAANA DAYANNA,bMAHAAPRAANAa,bDANTAJA NAYANNA",
   "DB3 bSANYAKA DAYANNA,bALPAPRAANA PAYANNA,bMAHAAPRAANAa,bALPAPRAANA BAYANNA,bMAHAAPRAANAa",
   "DB8 bMAYANNA,bAMBA BAYANNA,bYAYANNA,bRAYANNA,,bDANTAJA LAYANNA,,,bVAYANNA,bTAALUJA SAYANNA",
   "DC2 bMUURDHAJAa,bDANTAJAa,bHAYANNA,bMUURDHAJA LAYANNA,bFAYANNA,,,,aSIGN AL-LAKUNA",
   "DCF aVOWEL SIGN AELA-PILLA,cKETTI AEDA-PILLA,cDIGAa,cKETTI IS-PILLA,cDIGAa,cKETTI PAA-PILLA",
   "DD6 cDIGAa,,cGAETTA-PILLA,cKOMBUVA,cDIGAa,cKOMBU DEKA,cKOMBUVA HAA AELA-PILLA,eDIGAa",
   "DDE eGAYANUKITTA,cGAYANUKITTA,,,,,,,aLITH DIGIT ZERO,cONE,cTWO,cTHREE,cFOUR,cFIVE,cSIX,cSEVEN",
   "DEE cEIGHT,cNINE,,,aVOWEL SIGN DIGA GAETTA-PILLA,dGAYANUKITTA,aPUNCTUATION KUNDDALIYA",
   "E01 THAI CHARACTER KO KAI,bKHO KHAI,cKHUAT,cKHWAI,cKHON,cRAKHANG,bNGO NGU,bCHO CHAN,cCHING",
   "E0A cCHANG,bSO SO,bCHO CHOE,bYO YING,bDO CHADA,bTO PATAK,bTHO THAN,cNANGMONTHO,cPHUTHAO",
   "E13 bNO NEN,bDO DEK,bTO TAO,bTHO THUNG,cTHAHAN,cTHONG,bNO NU,bBO BAIMAI,bPO PLA,bPHO PHUNG",
   "E1D bFO FA,bPHO PHAN,bFO FAN,bPHO SAMPHAO,bMO MA,bYO YAK,bRO RUA,bRU,bLO LING,bLU,bWO WAEN",
   "E28 bSO SALA,cRUSI,cSUA,bHO HIP,bLO CHULA,bO ANG,bHO NOKHUK,bPAIYANNOI,bSARA A,bMAI HAN-AKAT",
   "E32 bSARA AA,cAM,cI,cII,cUE,cUEE,cU,cUU,bPHINTHU,,,,,aCURRENCY SYMBOL BAHT,aCHARACTER SARA E",
   "E41 cAE,cO,cAI MAIMUAN,dMAIMALAI,bLAKKHANGYAO,bMAIYAMOK,bMAITAIKHU,bMAI EK,cTHO,cTRI",
   "E4B cCHATTAWA,bTHANTHAKHAT,bNIKHAHIT,bYAMAKKAN,bFONGMAN,aDIGIT ZERO,bONE,bTWO,bTHREE,bFOUR",
   "E55 bFIVE,bSIX,bSEVEN,bEIGHT,bNINE,aCHARACTER ANGKHANKHU,bKHOMUT",
   "E81 LAO LETTER KO,bKHO SUNG,,cTAM,,bPALI GHA,bNGO,bCO,bPALI CHA,bSO TAM,,bPALI JHA,bNYO",
   "E8E bPALI NYA,cTTA,cTTHA,cDDA,cDDHA,cNNA,bDO,bTO,bTHO SUNG,cTAM,bPALI DHA,bNO,bBO,bPO",
   "E9C bPHO SUNG,bFO TAM,bPHOa,bFO SUNG,bPALI BHA,bMO,bYO,bLO LING,,cLOOT,,bWO,bSANSKRIT SHA",
   "EA9 cSSA,bSO SUNG,bHOa,bPALI LLA,bO,bHO TAM,aELLIPSIS,aVOWEL SIGN A,cMAI KAN,cAA,cAM,cI,cII",
   "EB6 cY,cYY,cU,cUU,aSIGN PALI VIRAMA,aVOWEL SIGN MAI KON,aSEMIVOWEL SIGN LO,cNYO",
   "EC0 aVOWEL SIGN E,cEI,cO,cAY,cAI,,aKO LA,,aTONE MAI EK,cTHO,cTI,cCATAWA,aCANCELLATION MARK",
   "ECD aNIGGAHITA,,,aDIGIT ZERO,bONE,bTWO,bTHREE,bFOUR,bFIVE,bSIX,bSEVEN,bEIGHT,bNINE,,,aHO NO",
   "EDD bMO,aLETTER KHMU GO,cNYO",
   "F00 TIBETAN SYLLABLE OM,aMARK GTER YIG MGO TRUNCATED A,e-UM RNAM BCAD MA,fGTER TSHEGa",
   "F04 bINITIAL YIG MGO MDUNa,bCLOSING YIG MGO SGABa,bCARET YIG MGO PHUR SHADa,bYIG MGO TSHEGb",
   "F08 bSBRUL SHAD,bBSKUR YIG MGO,bBKA- SHOGb,bINTERSYLLABIC TSHEG,bDELIMITER TSHEG BSTAR,bSHAD",
   "F0E bNYISa,bTSHEGa,bNYISb,bRIN CHEN SPUNGSa,bRGYA GRAMa,bCARET -DZUD RTAGS ME LONG CAN",
   "F14 bGTER TSHEG,aLOGOTYPE SIGN CHAD RTAGS,cLHAGa,aASTROLOGICAL SIGN SGRA GCAN -CHARa",
   "F18 c-KHYUD PA,cSDONG TSHUGS,aSIGN RDEL DKAR GCIG,dGNYIS,dGSUM,cNAG GCIG,dGNYIS",
   "F1F cDKAR RDEL NAG,aDIGIT ZERO,bONE,bTWO,bTHREE,bFOUR,bFIVE,bSIX,bSEVEN,bEIGHT,bNINE",
   "F2A bHALF ONE,cTWO,cTHREE,cFOUR,cFIVE,cSIX,cSEVEN,cEIGHT,cNINE,cZERO,aMARK BSDUS RTAGS",
   "F35 bNGAS BZUNG NYI ZLA,bCARET -DZUD RTAGS BZHI MIG CAN,bNGAS BZUNG SGOR RTAGS,bCHE MGO",
   "F39 bTSA -PHRU,bGUG RTAGS GYON,dGYAS,bANG KHANG GYON,dGYAS,aSIGN YAR TSHES,bMARa,aLETTER KA",
   "F41 bKHA,bGA,bGHA,bNGA,bCA,bCHA,bJA,,bNYA,bTTA,bTTHA,bDDA,bDDHA,bNNA,bTA,bTHA,bDA,bDHA,bNA",
   "F54 bPA,bPHA,bBA,bBHA,bMA,bTSA,bTSHA,bDZA,bDZHA,bWA,bZHA,bZA,b-A,bYA,bRA,bLA,bSHA,bSSA,bSA",
   "F67 bHA,bA,bKSSA,bFIXED-FORM RA,bKKA,bRRA,,,,,aVOWEL SIGN AA,cI,cII,cU,cUU,cVOCALIC R,dRR,dL",
   "F79 dLL,cE,cEE,cO,cOO,aSIGN RJES SU NGA RO,bRNAM BCAD,aVOWEL SIGN REVERSED I,dII",
   "F82 aSIGN NYI ZLA NAA DA,bSNA LDAN,aMARK HALANTA,bPALUTA,aSIGN LCI RTAGS,bYANGa,bLCE TSA CAN",
   "F89 bMCHUa,bGRU CAN RGYINGS,cMEDa,bINVERTED MCHU CAN,aSUBJOINED SIGN LCE TSAa,cMCHUa",
   "F8F cINVERTEDb,bLETTER KA,cKHA,cGA,cGHA,cNGA,cCA,cCHA,cJA,,cNYA,cTTA,cTTHA,cDDA,cDDHA,cNNA",
   "F9F cTA,cTHA,cDA,cDHA,cNA,cPA,cPHA,cBA,cBHA,cMA,cTSA,cTSHA,cDZA,cDZHA,cWA,cZHA,cZA,c-A,cYA",
   "FB2 cRA,cLA,cSHA,cSSA,cSA,cHA,cA,cKSSA,cFIXED-FORM WA,dYA,dRA,,aKU RU KHA,dBZHI MIG CAN",
   "FC0 aCANTILLATION SIGN HEAVY BEAT,cLIGHTa,cCANG TE-U,cSBUB -CHAL,aSYMBOL DRIL BU,bRDO RJE",
   "FC6 bPADMA GDAN,bRDO RJE RGYA GRAM,bPHUR PA,bNOR BU,dNYIS -KHYIL,dGSUMa,dBZHIa",
   "FCE aSIGN RDEL NAG RDEL DKAR,dGSUM,aMARK BSKA- SHOG GI MGO RGYAN,bMNYAM YIGc,bNYIS TSHEG",
   "FD3 bINITIAL BRDA RNYING YIG MGO MDUN MA,bCLOSING BRDA RNYING YIG MGO SGABa",
   "FD5 RIGHT-FACING SVASTI SIGN,LEFT-FACINGb,RIGHT-FACING SVASTI SIGN WITH DOTS,LEFT-FACINGd",
   "FD9 TIBETAN MARK LEADING MCHAN RTAGS,bTRAILINGb"]

def namesFrom1000 : List String :=
  ["1000 MYANMAR LETTER KA,bKHA,bGA,bGHA,bNGA,bCA,bCHA,bJA,bJHA,bNYA,bNNYA,bTTA,bTTHA,bDDA,bDDHA",
   "100F bNNA,bTA,bTHA,bDA,bDHA,bNA,bPA,bPHA,bBA,bBHA,bMA,bYA,bRA,bLA,bWA,bSA,bHA,bLLA,bA,bSHANa",
   "1023 bI,bII,bU,bUU,bE,bMONa,bO,bAU,aVOWEL SIGN TALL AA,cAA,cI,cII,cU,cUU,cE,cAI,cMON II,dO",
   "1035 cE ABOVE,aSIGN ANUSVARA,bDOT BELOW,bVISARGA,bVIRAMA,bASAT,aCONSONANT SIGN MEDIAL YA,dRA",
   "103D dWA,dHA,aLETTER GREAT SA,aDIGIT ZERO,bONE,bTWO,bTHREE,bFOUR,bFIVE,bSIX,bSEVEN,bEIGHT",
   "1049 bNINE,aSIGN LITTLE SECTION,bSECTION,aSYMBOL LOCATIVE,bCOMPLETED,bAFOREMENTIONED",
   "104F bGENITIVE,aLETTER SHA,bSSA,bVOCALIC R,cRR,cL,cLL,aVOWEL SIGN VOCALIC R,dRR,dL,dLL",
   "105A aLETTER MON NGA,cJHA,cBBA,cBBE,aCONSONANT SIGN MON MEDIAL NA,eMA,eLA",
   "1061 aLETTER SGAW KAREN SHA,aVOWEL SIGN SGAW KAREN EU,aTONE MARK SGAW KAREN HATHI,eKE PHO",
   "1065 aLETTER WESTERN PWO KAREN THA,ePWA,aVOWEL SIGN WESTERN PWO KAREN EU,fUE",
   "1069 aSIGN WESTERN PWO KAREN TONE-1,eTONE-2,eTONE-3,eTONE-4,eTONE-5",
   "106E aLETTER EASTERN PWO KAREN NNA,eYWA,eGHWA,aVOWEL SIGN GEBA KAREN I,cKAYAH OE,dU,dEE",
   "1075 aLETTER SHAN KA,cKHA,cGA,cCA,cZA,cNYA,cDA,cNA,cPHA,cFA,cBA,cTHA,cHA",
   "1082 aCONSONANT SIGN SHAN MEDIAL WA,aVOWEL SIGN SHAN AA,dE,eABOVE,dFINAL Y,aSIGN SHAN TONE-2",
   "1088 cTONE-3,cTONE-5,cTONE-6,cCOUNCIL TONE-2,dTONE-3,dEMPHATIC TONE,aLETTER RUMAI PALAUNG FA",
   "108F aSIGN RUMAI PALAUNG TONE-5,aSHAN DIGIT ZERO,cONE,cTWO,cTHREE,cFOUR,cFIVE,cSIX,cSEVEN",
   "1098 cEIGHT,cNINE,aSIGN KHAMTI TONE-1,cTONE-3,aVOWEL SIGN AITON A,dAI,aSYMBOL SHAN ONE",
   "109F cEXCLAMATION,GEORGIAN CAPITAL LETTER AN,cBAN,cGAN,cDON,cEN,cVIN,cZEN,cTAN,cIN,cKAN,cLAS",
   "10AB cMAN,cNAR,cON,cPAR,cZHAR,cRAE,cSAN,cTAR,cUN,cPHAR,cKHAR,cGHAN,cQAR,cSHIN,cCHIN,cCAN,cJIL",
   "10BC cCIL,cCHAR,cXAN,cJHAN,cHAE,cHE,cHIE,cWE,cHAR,cHOE,,cYN,,,,,,cAEN,,,aLETTER AN,bBAN,bGAN",
   "10D3 bDON,bEN,bVIN,bZEN,bTAN,bIN,bKAN,bLAS,bMAN,bNAR,bON,bPAR,bZHAR,bRAE,bSAN,bTAR,bUN,bPHAR",
   "10E5 bKHAR,bGHAN,bQAR,bSHIN,bCHIN,bCAN,bJIL,bCIL,bCHAR,bXAN,bJHAN,bHAE,bHE,bHIE,bWE,bHAR,bHOE",
   "10F6 bFI,bYN,bELIFI,bTURNED GAN,bAIN,aPARAGRAPH SEPARATOR,MODIFIER LETTER GEORGIAN NAR",
   "10FD GEORGIAN LETTER AEN,bHARD SIGN,bLABIALa,HANGUL CHOSEONG KIYEOK,bSSANGKIYEOK,bNIEUN",
   "1103 bTIKEUT,bSSANGTIKEUT,bRIEUL,bMIEUM,bPIEUP,bSSANGPIEUP,bSIOS,bSSANGSIOS,bIEUNG,bCIEUC",
   "110D bSSANGCIEUC,bCHIEUCH,bKHIEUKH,bTHIEUTH,bPHIEUPH,bHIEUH,bNIEUN-KIYEOK,bSSANGNIEUN",
   "1115 bNIEUN-TIKEUT,bNIEUN-PIEUP,bTIKEUT-KIYEOK,bRIEUL-NIEUN,bSSANGRIEUL,bRIEUL-HIEUH",
   "111B bKAPYEOUNRIEUL,bMIEUM-PIEUP,bKAPYEOUNMIEUM,bPIEUP-KIYEOK,bPIEUP-NIEUN,bPIEUP-TIKEUT",
   "1121 bPIEUP-SIOS,bPIEUP-SIOS-KIYEOK,bPIEUP-SIOS-TIKEUT,bPIEUP-SIOS-PIEUP,bPIEUP-SSANGSIOS",
   "1126 bPIEUP-SIOS-CIEUC,bPIEUP-CIEUC,bPIEUP-CHIEUCH,bPIEUP-THIEUTH,bPIEUP-PHIEUPH",
   "112B bKAPYEOUNPIEUP,bKAPYEOUNSSANGPIEUP,bSIOS-KIYEOK,bSIOS-NIEUN,bSIOS-TIKEUT,bSIOS-RIEUL",
   "1131 bSIOS-MIEUM,bSIOS-PIEUP,bSIOS-PIEUP-KIYEOK,bSIOS-SSANGSIOS,bSIOS-IEUNG,bSIOS-CIEUC",
   "1137 bSIOS-CHIEUCH,bSIOS-KHIEUKH,bSIOS-THIEUTH,bSIOS-PHIEUPH,bSIOS-HIEUH,bCHITUEUMSIOS",
   "113D bCHITUEUMSSANGSIOS,bCEONGCHIEUMSIOS,bCEONGCHIEUMSSANGSIOS,bPANSIOS,bIEUNG-KIYEOK",
   "1142 bIEUNG-TIKEUT,bIEUNG-MIEUM,bIEUNG-PIEUP,bIEUNG-SIOS,bIEUNG-PANSIOS,bSSANGIEUNG",
   "1148 bIEUNG-CIEUC,bIEUNG-CHIEUCH,bIEUNG-THIEUTH,bIEUNG-PHIEUPH,bYESIEUNG,bCIEUC-IEUNG",
   "114E bCHITUEUMCIEUC,bCHITUEUMSSANGCIEUC,bCEONGCHIEUMCIEUC,bCEONGCHIEUMSSANGCIEUC",
   "1152 bCHIEUCH-KHIEUKH,bCHIEUCH-HIEUH,bCHITUEUMCHIEUCH,bCEONGCHIEUMCHIEUCH,bPHIEUPH-PIEUP",
   "1157 bKAPYEOUNPHIEUPH,bSSANGHIEUH,bYEORINHIEUH,bKIYEOK-TIKEUT,bNIEUN-SIOS,bNIEUN-CIEUC",
   "115D bNIEUN-HIEUH,bTIKEUT-RIEUL,bFILLER,aJUNGSEONGa,bA,bAE,bYA,bYAE,bEO,bE,bYEO,bYE,bO,bWA",
   "116B bWAE,bOE,bYO,bU,bWEO,bWE,bWI,bYU,bEU,bYI,bI,bA-O,bA-U,bYA-O,bYA-YO,bEO-O,bEO-U,bEO-EU",
   "117D bYEO-O,bYEO-U,bO-EO,bO-E,bO-YE,bO-O,bO-U,bYO-YA,bYO-YAE,bYO-YEO,bYO-O,bYO-I,bU-A,bU-AE",
   "118B bU-EO-EU,bU-YE,bU-U,bYU-A,bYU-EO,bYU-E,bYU-YEO,bYU-YE,bYU-U,bYU-I,bEU-U,bEU-EU,bYI-U",
   "1198 bI-A,bI-YA,bI-O,bI-U,bI-EU,bI-ARAEA,bARAEA,bARAEA-EO,bARAEA-U,bARAEA-I,bSSANGARAEA,bA-EU",
   "11A4 bYA-U,bYEO-YA,bO-YA,bO-YAE,aJONGSEONG KIYEOK,bSSANGKIYEOK,bKIYEOK-SIOS,bNIEUN",
   "11AC bNIEUN-CIEUC,bNIEUN-HIEUH,bTIKEUT,bRIEUL,bRIEUL-KIYEOK,bRIEUL-MIEUM,bRIEUL-PIEUP",
   "11B3 bRIEUL-SIOS,bRIEUL-THIEUTH,bRIEUL-PHIEUPH,bRIEUL-HIEUH,bMIEUM,bPIEUP,bPIEUP-SIOS,bSIOS",
   "11BB bSSANGSIOS,bIEUNG,bCIEUC,bCHIEUCH,bKHIEUKH,bTHIEUTH,bPHIEUPH,bHIEUH,bKIYEOK-RIEUL",
   "11C4 bKIYEOK-SIOS-KIYEOK,bNIEUN-KIYEOK,bNIEUN-TIKEUT,bNIEUN-SIOS,bNIEUN-PANSIOS",
   "11C9 bNIEUN-THIEUTH,bTIKEUT-KIYEOK,bTIKEUT-RIEUL,bRIEUL-KIYEOK-SIOS,bRIEUL-NIEUN",
   "11CE bRIEUL-TIKEUT,bRIEUL-TIKEUT-HIEUH,bSSANGRIEUL,bRIEUL-MIEUM-KIYEOK,bRIEUL-MIEUM-SIOS",
   "11D3 bRIEUL-PIEUP-SIOS,bRIEUL-PIEUP-HIEUH,bRIEUL-KAPYEOUNPIEUP,bRIEUL-SSANGSIOS",
   "11D7 bRIEUL-PANSIOS,bRIEUL-KHIEUKH,bRIEUL-YEORINHIEUH,bMIEUM-KIYEOK,bMIEUM-RIEUL,bMIEUM-PIEUP",
   "11DD bMIEUM-SIOS,bMIEUM-SSANGSIOS,bMIEUM-PANSIOS,bMIEUM-CHIEUCH,bMIEUM-HIEUH,bKAPYEOUNMIEUM",
   "11E3 bPIEUP-RIEUL,bPIEUP-PHIEUPH,bPIEUP-HIEUH,bKAPYEOUNPIEUP,bSIOS-KIYEOK,bSIOS-TIKEUT",
   "11E9 bSIOS-RIEUL,bSIOS-PIEUP,bPANSIOS,bIEUNG-KIYEOK,bIEUNG-SSANGKIYEOK,bSSANGIEUNG",
   "11EF bIEUNG-KHIEUKH,bYESIEUNG,bYESIEUNG-SIOS,bYESIEUNG-PANSIOS,bPHIEUPH-PIEUP",
   "11F4 bKAPYEOUNPHIEUPH,bHIEUH-NIEUN,bHIEUH-RIEUL,bHIEUH-MIEUM,bHIEUH-PIEUP,bYEORINHIEUH",
   "11FA bKIYEOK-NIEUN,bKIYEOK-PIEUP,bKIYEOK-CHIEUCH,bKIYEOK-KHIEUKH,bKIYEOK-HIEUH,bSSANGNIEUN",
   "1200 ETHIOPIC SYLLABLE HA,bHU,bHI,bHAA,bHEE,bHE,bHO,bHOA,bLA,bLU,bLI,bLAA,bLEE,bLE,bLO,bLWA",
   "1210 bHHA,bHHU,bHHI,bHHAA,bHHEE,bHHE,bHHO,bHHWA,bMA,bMU,bMI,bMAA,bMEE,bME,bMO,bMWA,bSZA,bSZU",
   "1222 bSZI,bSZAA,bSZEE,bSZE,bSZO,bSZWA,bRA,bRU,bRI,bRAA,bREE,bRE,bRO,bRWA,bSA,bSU,bSI,bSAA",
   "1234 bSEE,bSE,bSO,bSWA,bSHA,bSHU,bSHI,bSHAA,bSHEE,bSHE,bSHO,bSHWA,bQA,bQU,bQI,bQAA,bQEE,bQE",
   "1246 bQO,bQOA,bQWA,,bQWI,bQWAA,bQWEE,bQWE,,,bQHA,bQHU,bQHI,bQHAA,bQHEE,bQHE,bQHO,,bQHWA",
   "125A bQHWI,bQHWAA,bQHWEE,bQHWE,,,bBA,bBU,bBI,bBAA,bBEE,bBE,bBO,bBWA,bVA,bVU,bVI,bVAA,bVEE,bVE",
   "126E bVO,bVWA,bTA,bTU,bTI,bTAA,bTEE,bTE,bTO,bTWA,bCA,bCU,bCI,bCAA,bCEE,bCE,bCO,bCWA,bXA,bXU",
   "1282 bXI,bXAA,bXEE,bXE,bXO,bXOA,bXWA,,bXWI,bXWAA,bXWEE,bXWE,,,bNA,bNU,bNI,bNAA,bNEE,bNE,bNO",
   "1297 bNWA,bNYA,bNYU,bNYI,bNYAA,bNYEE,bNYE,bNYO,bNYWA,bGLOTTAL A,cU,cI,cAA,cEE,cE,cO,cWA,bKA",
   "12A9 bKU,bKI,bKAA,bKEE,bKE,bKO,bKOA,bKWA,,bKWI,bKWAA,bKWEE,bKWE,,,bKXA,bKXU,bKXI,bKXAA,bKXEE",
   "12BD bKXE,bKXO,,bKXWA,,bKXWI,bKXWAA,bKXWEE,bKXWE,,,bWA,bWU,bWI,bWAA,bWEE,bWE,bWO,bWOA",
   "12D0 bPHARYNGEAL A,cU,cI,cAA,cEE,cE,cO,,bZA,bZU,bZI,bZAA,bZEE,bZE,bZO,bZWA,bZHA,bZHU,bZHI",
   "12E3 bZHAA,bZHEE,bZHE,bZHO,bZHWA,bYA,bYU,bYI,bYAA,bYEE,bYE,bYO,bYOA,bDA,bDU,bDI,bDAA,bDEE,bDE",
   "12F6 bDO,bDWA,bDDA,bDDU,bDDI,bDDAA,bDDEE,bDDE,bDDO,bDDWA,bJA,bJU,bJI,bJAA,bJEE,bJE,bJO,bJWA",
   "1308 bGA,bGU,bGI,bGAA,bGEE,bGE,bGO,bGOA,bGWA,,bGWI,bGWAA,bGWEE,bGWE,,,bGGA,bGGU,bGGI,bGGAA",
   "131C bGGEE,bGGE,bGGO,bGGWAA,bTHA,bTHU,bTHI,bTHAA,bTHEE,bTHE,bTHO,bTHWA,bCHA,bCHU,bCHI,bCHAA",
   "132C bCHEE,bCHE,bCHO,bCHWA,bPHA,bPHU,bPHI,bPHAA,bPHEE,bPHE,bPHO,bPHWA,bTSA,bTSU,bTSI,bTSAA",
   "133C bTSEE,bTSE,bTSO,bTSWA,bTZA,bTZU,bTZI,bTZAA,bTZEE,bTZE,bTZO,bTZOA,bFA,bFU,bFI,bFAA,bFEE",
   "134D bFE,bFO,bFWA,bPA,bPU,bPI,bPAA,bPEE,bPE,bPO,bPWA,bRYA,bMYA,bFYA",
   "135D aCOMBINING GEMINATION AND VOWEL LENGTH MARK,bVOWELb,bGEMINATIONa,aSECTIONa,aWORDSPACE",
   "1362 aFULL STOP,aCOMMA,aSEMICOLON,aCOLON,aPREFACEa,aQUESTION MARK,aPARAGRAPH SEPARATOR",
   "1369 aDIGIT ONE,bTWO,bTHREE,bFOUR,bFIVE,bSIX,bSEVEN,bEIGHT,bNINE,aNUMBER TEN,bTWENTY,bTHIRTY",
   "1375 bFORTY,bFIFTY,bSIXTY,bSEVENTY,bEIGHTY,bNINETY,bHUNDRED,bTEN THOUSAND",
   "1380 aSYLLABLE SEBATBEIT MWA,bMWI,bMWEE,bMWE,bSEBATBEIT BWA,bBWI,bBWEE,bBWE,bSEBATBEIT FWA",
   "1389 bFWI,bFWEE,bFWE,bSEBATBEIT PWA,bPWI,bPWEE,bPWE,aTONAL MARK YIZET,cDERET,cRIKRIK,cSHORTa",
   "1394 cDIFAT,cKENAT,cCHIRET,cHIDET,cDERET-HIDET,cKURT,,,,,,,CHEROKEE LETTER A,bE,bI,bO,bU,bV",
   "13A6 bGA,bKA,bGE,bGI,bGO,bGU,bGV,bHA,bHE,bHI,bHO,bHU,bHV,bLA,bLE,bLI,bLO,bLU,bLV,bMA,bME,bMI",
   "13BC bMO,bMU,bNA,bHNA,bNAH,bNE,bNI,bNO,bNU,bNV,bQUA,bQUE,bQUI,bQUO,bQUU,bQUV,bSA,bS,bSE,bSI",
   "13D0 bSO,bSU,bSV,bDA,bTA,bDE,bTE,bDI,bTI,bDO,bDU,bDV,bDLA,bTLA,bTLE,bTLI,bTLO,bTLU,bTLV,bTSA",
   "13E4 bTSE,bTSI,bTSO,bTSU,bTSV,bWA,bWE,bWI,bWO,bWU,bWV,bYA,bYE,bYI,bYO,bYU,bYV,bMV",
   "13F8 aSMALL LETTER YE,cYI,cYO,cYU,cYV,cMV,,,CANADIAN SYLLABICS HYPHEN,bE,bAAI,bI,bII,bO,bOO",
   "1407 bY-CREEa,bCARRIER EE,cI,bA,bAA,bWE,bWEST-CREEa,bWI,bWEST-CREEa,bWII,bWEST-CREEa,bWO",
   "1413 bWEST-CREEa,bWOO,bWEST-CREEa,bNASKAPIa,bWA,bWEST-CREEa,bWAA,bWEST-CREEa,bNASKAPIa,bAI",
   "141D bY-CREE W,bGLOTTAL STOP,bFINAL ACUTE,cGRAVE,cBOTTOM HALF RING,cTOPb,cRIGHTb,cRING",
   "1425 cDOUBLE ACUTE,dSHORT VERTICAL STROKES,cMIDDLE DOT,cSHORT HORIZONTAL STROKE,cPLUS",
   "142A cDOWN TACK,bEN,bIN,bON,bAN,bPE,bPAAI,bPI,bPII,bPO,bPOO,bY-CREEa,bCARRIER HEE,cHI,bPA",
   "1439 bPAA,bPWE,bWEST-CREEa,bPWI,bWEST-CREEa,bPWII,bWEST-CREEa,bPWO,bWEST-CREEa,bPWOO",
   "1443 bWEST-CREEa,bPWA,bWEST-CREEa,bPWAA,bWEST-CREEa,bY-CREEa,bP,bWEST-CREEa,bCARRIER H,bTE",
   "144D bTAAI,bTI,bTII,bTO,bTOO,bY-CREEa,bCARRIER DEE,cDI,bTA,bTAA,bTWE,bWEST-CREEa,bTWI",
   "145A bWEST-CREEa,bTWII,bWEST-CREEa,bTWO,bWEST-CREEa,bTWOO,bWEST-CREEa,bTWA,bWEST-CREEa,bTWAA",
   "1464 bWEST-CREEa,bNASKAPIa,bT,bTTE,bTTI,bTTO,bTTA,bKE,bKAAI,bKI,bKII,bKO,bKOO,bY-CREEa,bKA",
   "1473 bKAA,bKWE,bWEST-CREEa,bKWI,bWEST-CREEa,bKWII,bWEST-CREEa,bKWO,bWEST-CREEa,bKWOO",
   "147D bWEST-CREEa,bKWA,bWEST-CREEa,bKWAA,bWEST-CREEa,bNASKAPIa,bK,bKW,bSOUTH-SLAVEY KEH,cKIH",
   "1487 cKOH,cKAH,bCE,bCAAI,bCI,bCII,bCO,bCOO,bY-CREEa,bCA,bCAA,bCWE,bWEST-CREEa,bCWI",
   "1495 bWEST-CREEa,bCWII,bWEST-CREEa,bCWO,bWEST-CREEa,bCWOO,bWEST-CREEa,bCWA,bWEST-CREEa,bCWAA",
   "149F bWEST-CREEa,bNASKAPIa,bC,bSAYISI TH,bME,bMAAI,bMI,bMII,bMO,bMOO,bY-CREEa,bMA,bMAA,bMWE",
   "14AD bWEST-CREEa,bMWI,bWEST-CREEa,bMWII,bWEST-CREEa,bMWO,bWEST-CREEa,bMWOO,bWEST-CREEa,bMWA",
   "14B7 bWEST-CREEa,bMWAA,bWEST-CREEa,bNASKAPIa,bM,bWEST-CREEa,bMH,bATHAPASCAN M,bSAYISIa,bNE",
   "14C1 bNAAI,bNI,bNII,bNO,bNOO,bY-CREEa,bNA,bNAA,bNWE,bWEST-CREEa,bNWA,bWEST-CREEa,bNWAA",
   "14CE bWEST-CREEa,bNASKAPIa,bN,bCARRIER NG,bNH,bLE,bLAAI,bLI,bLII,bLO,bLOO,bY-CREEa,bLA,bLAA",
   "14DC bLWE,bWEST-CREEa,bLWI,bWEST-CREEa,bLWII,bWEST-CREEa,bLWO,bWEST-CREEa,bLWOO,bWEST-CREEa",
   "14E6 bLWA,bWEST-CREEa,bLWAA,bWEST-CREEa,bL,bWEST-CREEa,bMEDIALa,bSE,bSAAI,bSI,bSII,bSO,bSOO",
   "14F3 bY-CREEa,bSA,bSAA,bSWE,bWEST-CREEa,bSWI,bWEST-CREEa,bSWII,bWEST-CREEa,bSWO,bWEST-CREEa",
   "14FE bSWOO,bWEST-CREEa,bSWA,bWEST-CREEa,bSWAA,bWEST-CREEa,bNASKAPIa,bS,bATHAPASCANa,bSW",
   "1508 bBLACKFOOT S,bMOOSE-CREE SK,bNASKAPI SKW,cS-W,cSPWA,cSTWA,cSKWA,cSCWA,bSHE,bSHI,bSHII",
   "1513 bSHO,bSHOO,bSHA,bSHAA,bSHWE,bWEST-CREEa,bSHWI,bWEST-CREEa,bSHWII,bWEST-CREEa,bSHWO",
   "151E bWEST-CREEa,bSHWOO,bWEST-CREEa,bSHWA,bWEST-CREEa,bSHWAA,bWEST-CREEa,bSH,bYE,bYAAI,bYI",
   "1529 bYII,bYO,bYOO,bY-CREEa,bYA,bYAA,bYWE,bWEST-CREEa,bYWI,bWEST-CREEa,bYWII,bWEST-CREEa,bYWO",
   "1536 bWEST-CREEa,bYWOO,bWEST-CREEa,bYWA,bWEST-CREEa,bYWAA,bWEST-CREEa,bNASKAPIa,bY",
   "153F bBIBLE-CREEa,bWEST-CREEa,bSAYISI YI,bRE,bR-CREEa,bWEST-CREE LE,bRAAI,bRI,bRII,bRO,bROO",
   "154A bWEST-CREE LO,bRA,bRAA,bWEST-CREE LA,bRWAA,bWEST-CREEa,bR,bWEST-CREEa,bMEDIALa,bFE,bFAAI",
   "1555 bFI,bFII,bFO,bFOO,bFA,bFAA,bFWAA,bWEST-CREEa,bF,bTHE,bN-CREEa,bTHI,bN-CREEa,bTHII",
   "1563 bN-CREEa,bTHO,bTHOO,bTHA,bTHAA,bTHWAA,bWEST-CREEa,bTH,bTTHE,bTTHI,bTTHO,bTTHA,bTTH,bTYE",
   "1571 bTYI,bTYO,bTYA,bNUNAVIK HE,cHI,cHII,cHO,cHOO,cHA,cHAA,cH,bNUNAVUTa,bHK,bQAAI,bQI,bQII",
   "1581 bQO,bQOO,bQA,bQAA,bQ,bTLHE,bTLHI,bTLHO,bTLHA,bWEST-CREE RE,cRI,cRO,cRA,bNGAAI,bNGI,bNGII",
   "1591 bNGO,bNGOO,bNGA,bNGAA,bNG,bNNG,bSAYISI SHE,cSHI,cSHO,cSHA,bWOODS-CREE THE,cTHI,cTHO,cTHA",
   "159F cTH,bLHI,bLHII,bLHO,bLHOO,bLHA,bLHAA,bLH,bTH-CREE THE,cTHI,cTHII,cTHO,cTHOO,cTHA,cTHAA",
   "15AE cTH,bAIVILIK B,bBLACKFOOT E,cI,cO,cA,cWE,cWI,cWO,cWA,cNE,cNI,cNO,cNA,cKE,cKI,cKO,cKA",
   "15C0 bSAYISI HE,cHI,cHO,cHA,bCARRIER GHU,cGHO,cGHE,cGHEE,cGHI,cGHA,cRU,cRO,cRE,cREE,cRI,cRA",
   "15D0 cWU,cWO,cWE,cWEE,cWI,cWA,cHWU,cHWO,cHWE,cHWEE,cHWI,cHWA,cTHU,cTHO,cTHE,cTHEE,cTHI,cTHA",
   "15E2 cTTU,cTTO,cTTE,cTTEE,cTTI,cTTA,cPU,cPO,cPE,cPEE,cPI,cPA,cP,cGU,cGO,cGE,cGEE,cGI,cGA,cKHU",
   "15F6 cKHO,cKHE,cKHEE,cKHI,cKHA,cKKU,cKKO,cKKE,cKKEE,cKKI,cKKA,cKK,cNU,cNO,cNE,cNEE,cNI,cNA",
   "1608 cMU,cMO,cME,cMEE,cMI,cMA,cYU,cYO,cYE,cYEE,cYI,cYA,cJU,bSAYISIa,bCARRIER JO,cJE,cJEE,cJI",
   "161A bSAYISIa,bCARRIER JA,cJJU,cJJO,cJJE,cJJEE,cJJI,cJJA,cLU,cLO,cLE,cLEE,cLI,cLA,cDLU,cDLO",
   "162A cDLE,cDLEE,cDLI,cDLA,cLHU,cLHO,cLHE,cLHEE,cLHI,cLHA,cTLHU,cTLHO,cTLHE,cTLHEE,cTLHI,cTLHA",
   "163A cTLU,cTLO,cTLE,cTLEE,cTLI,cTLA,cZU,cZO,cZE,cZEE,cZI,cZA,cZ,cINITIALa,cDZU,cDZO,cDZE",
   "164B cDZEE,cDZI,cDZA,cSU,cSO,cSE,cSEE,cSI,cSA,cSHU,cSHO,cSHE,cSHEE,cSHI,cSHA,cSH,cTSU,cTSO",
   "165D cTSE,cTSEE,cTSI,cTSA,cCHU,cCHO,cCHE,cCHEE,cCHI,cCHA,cTTSU,cTTSO,cTTSE,cTTSEE,cTTSI,cTTSA",
   "166D bCHI SIGN,bFULL STOP,bQAI,bNGAI,bNNGI,bNNGII,bNNGO,bNNGOO,bNNGA,bNNGAA,bWOODS-CREE THWEE",
   "1678 cTHWI,cTHWII,cTHWO,cTHWOO,cTHWA,cTHWAA,cFINAL TH,bBLACKFOOT W,OGHAM SPACE MARK",
   "1681 aLETTER BEITH,bLUIS,bFEARN,bSAIL,bNION,bUATH,bDAIR,bTINNE,bCOLL,bCEIRT,bMUIN,bGORT",
   "168D bNGEADAL,bSTRAIF,bRUIS,bAILM,bONN,bUR,bEADHADH,bIODHADH,bEABHADH,bOR,bUILLEANN,bIFIN",
   "1699 bEAMHANCHOLL,bPEITH,aFEATHER MARK,aREVERSEDb,,,,RUNIC LETTER FEHU FEOH FE F,bV",
   "16A2 bURUZ UR U,bYR,bY,bW,bTHURISAZ THURS THORN,bETH,bANSUZ A,bOS O,bAC A,bAESC",
   "16AC bLONG-BRANCH-OSS O,bSHORT-TWIG-OSSa,bO,bOE,bON,bRAIDO RAD REID R,bKAUNA,bCEN,bKAUN K,bG",
   "16B6 bENG,bGEBO GYFU G,bGAR,bWUNJO WYNN W,bHAGLAZ H,bHAEGLa,bLONG-BRANCH-HAGALLa",
   "16BD bSHORT-TWIG-HAGALLa,bNAUDIZ NYD NAUD N,bSHORT-TWIG-NAUDa,bDOTTED-N,bISAZ IS ISS I,bE",
   "16C3 bJERAN J,bGER,bLONG-BRANCH-AR AE,bSHORT-TWIG-AR A,bIWAZ EOH,bPERTHO PEORTH P",
   "16C9 bALGIZ EOLHX,bSOWILO S,bSIGEL LONG-BRANCH-SOLa,bSHORT-TWIG-SOLa,bC,bZ,bTIWAZ TIR TYR T",
   "16D0 bSHORT-TWIG-TYRa,bD,bBERKANAN BEORC BJARKAN B,bSHORT-TWIG-BJARKANa,bDOTTED-P,bOPEN-P",
   "16D6 bEHWAZ EH E,bMANNAZ MAN M,bLONG-BRANCH-MADRa,bSHORT-TWIG-MADRa,bLAUKAZ LAGU LOGR L",
   "16DB bDOTTED-L,bINGWAZ,bING,bDAGAZ DAEG D,bOTHALAN ETHEL O,bEAR,bIOR,bCWEORTH,bCALC,bCEALC",
   "16E5 bSTAN,bLONG-BRANCH-YR,bSHORT-TWIG-YR,bICELANDIC-YR,bQ,bX,aSINGLE PUNCTUATION,aMULTIPLEa",
   "16ED aCROSSa,aARLAUG SYMBOL,aTVIMADURa,aBELGTHORa,aLETTER K,bSH,bOO,bFRANKS CASKET OS,dIS,dEH",
   "16F7 dAC,dAESC,,,,,,,,TAGALOG LETTER A,bI,bU,bKA,bGA,bNGA,bTA,bDA,bNA,bPA,bBA,bMA,bYA,bRA,bLA",
   "170F bWA,bSA,bHA,aVOWEL SIGN I,cU,aSIGN VIRAMA,bPAMUDPOD,,,,,,,,,,aLETTER ARCHAIC RA",
   "1720 HANUNOO LETTER A,bI,bU,bKA,bGA,bNGA,bTA,bDA,bNA,bPA,bBA,bMA,bYA,bRA,bLA,bWA,bSA,bHA",
   "1732 aVOWEL SIGN I,cU,aSIGN PAMUDPOD,PHILIPPINE SINGLE PUNCTUATION,aDOUBLEa",
   "1740 BUHID LETTER A,bI,bU,bKA,bGA,bNGA,bTA,bDA,bNA,bPA,bBA,bMA,bYA,bRA,bLA,bWA,bSA,bHA",
   "1752 aVOWEL SIGN I,cU",
   "1760 TAGBANWA LETTER A,bI,bU,bKA,bGA,bNGA,bTA,bDA,bNA,bPA,bBA,bMA,bYA,,bLA,bWA,bSA",
   "1772 aVOWEL SIGN I,cU",
   "1780 KHMER LETTER KA,bKHA,bKO,bKHO,bNGO,bCA,bCHA,bCO,bCHO,bNYO,bDA,bTTHA,bDO,bTTHO,bNNO,bTA",
   "1790 bTHA,bTO,bTHO,bNO,bBA,bPHA,bPO,bPHO,bMO,bYO,bRO,bLO,bVO,bSHA,bSSO,bSA,bHA,bLA,bQA",
   "17A3 aINDEPENDENT VOWEL QAQ,cQAA,cQI,cQII,cQU,cQUK,cQUU,cQUUV,cRY,cRYY,cLY,cLYY,cQE,cQAI",
   "17B1 cQOO TYPE ONE,eTWO,cQAU,aVOWEL INHERENT AQ,cAA,bSIGNa,cI,cII,cY,cYY,cU,cUU,cUA,cOE,cYA",
   "17C0 cIE,cE,cAE,cAI,cOO,cAU,aSIGN NIKAHIT,bREAHMUK,bYUUKALEAPINTU,bMUUSIKATOAN,bTRIISAP",
   "17CB bBANTOC,bROBAT,bTOANDAKHIAT,bKAKABAT,bAHSDA,bSAMYOK SANNYA,bVIRIAM,bCOENG,bBATHAMASAT",
   "17D4 bKHAN,bBARIYOOSAN,bCAMNUC PII KUUH,bLEK TOO,bBEYYAL,bPHNAEK MUAN,bKOOMUUT",
   "17DB aCURRENCY SYMBOL RIEL,aSIGN AVAKRAHASANYA,bATTHACAN,,,aDIGIT ZERO,bONE,bTWO,bTHREE,bFOUR",
   "17E5 bFIVE,bSIX,bSEVEN,bEIGHT,bNINE,,,,,,,aSYMBOL LEK ATTAK SON,dMUOY,dPII,dBEI,dBUON,dPRAM",
   "17F6 dPRAM-MUOY,dPRAM-PII,dPRAM-BEI,dPRAM-BUON,,,,,,,MONGOLIAN BIRGA,aELLIPSIS,aCOMMA",
   "1803 aFULL STOP,aCOLON,aFOUR DOTS,aTODO SOFT HYPHEN,aSIBE SYLLABLE BOUNDARY MARKER",
   "1808 aMANCHU COMMA,bFULL STOP,aNIRUGU,aFREE VARIATION SELECTOR ONE,dTWO,dTHREE",
   "180E aVOWEL SEPARATOR,aFREE VARIATION SELECTOR FOUR,aDIGIT ZERO,bONE,bTWO,bTHREE,bFOUR,bFIVE",
   "1816 bSIX,bSEVEN,bEIGHT,bNINE,,,,,,,aLETTER A,bE,bI,bO,bU,bOE,bUE,bEE,bNA,bANG,bBA,bPA,bQA",
   "182D bGA,bMA,bLA,bSA,bSHA,bTA,bDA,bCHA,bJA,bYA,bRA,bWA,bFA,bKA,bKHA,bTSA,bZA,bHAA,bZRA,bLHA",
   "1841 bZHI,bCHI,bTODO LONG VOWEL SIGN,cE,cI,cO,cU,cOE,cUE,cANG,cBA,cPA,cQA,cGA,cMA,cTA,cDA",
   "1852 cCHA,cJA,cTSA,cYA,cWA,cKA,cGAA,cHAA,cJIA,cNIA,cDZA,bSIBE E,cI,cIY,cUE,cU,cANG,cKA,cGA",
   "1865 cHA,cPA,cSHA,cTA,cDA,cJA,cFA,cGAA,cHAA,cTSA,cZA,cRAA,cCHA,cZHA,bMANCHU I,cKA,cRA,cFA",
   "1877 cZHA,bCHA WITH TWO DOTS,,,,,,,,bALI GALI ANUSVARA ONE,dVISARGAa,dDAMARU,dUBADAMA",
   "1884 dINVERTEDa,dBALUDA,dTHREEa,dA,dI,dKA,dNGA,dCA,dTTA,dTTHA,dDDA,dNNA,dTA,dDA,dPA,dPHA,dSSA",
   "1895 dZHA,dZA,dAH,bTODO ALI GALI TA,eZHA,bMANCHU ALI GALI GHA,eNGA,eCA,eJHA,eTTA,eDDHA,eTA",
   "18A1 eDHA,eSSA,eCYA,eZHA,eZA,bALI GALI HALF U,eYA,bMANCHU ALI GALI BHA,bALI GALI DAGALGA",
   "18AA bMANCHU ALI GALI LHA,,,,,,CANADIAN SYLLABICS OY,bAY,bAAY,bWAY,bPOY,bPAY,bPWOY,bTAY,bKAY",
   "18B9 bKWAY,bMAY,bNOY,bNAY,bLAY,bSOY,bSAY,bSHOY,bSHAY,bSHWOY,bYOY,bYAY,bRAY,bNWI,bOJIBWAYa",
   "18C8 bNWII,bOJIBWAYa,bNWO,bOJIBWAYa,bNWOO,bOJIBWAYa,bRWEE,bRWI,bRWII,bRWO,bRWOO,bRWA",
   "18D4 bOJIBWAY P,cT,cK,cC,cM,cN,cS,cSH,bEASTERN W,bWESTERNa,bFINAL SMALL RING,cRAISED DOT",
   "18E0 bR-CREE RWE,bWEST-CREE LOO,cLAA,bTHWE,bTHWA,bTTHWE,bTTHOO,bTTHAA,bTLHWE,bTLHOO",
   "18EA bSAYISI SHWE,cSHOO,cHOO,bCARRIER GWU,cDENE GEE,cGAA,cGWA,bSAYISI JUU,bCARRIER JWA",
   "18F3 bBEAVER DENE L,dR,bCARRIER DENTAL S",
   "1900 LIMBU VOWEL-CARRIER LETTER,aLETTER KA,bKHA,bGA,bGHA,bNGA,bCA,bCHA,bJA,bJHA,bYAN,bTA,bTHA",
   "190D bDA,bDHA,bNA,bPA,bPHA,bBA,bBHA,bMA,bYA,bRA,bLA,bWA,bSHA,bSSA,bSA,bHA,bGYAN,bTRA",
   "1920 aVOWEL SIGN A,cI,cU,cEE,cAI,cOO,cAU,cE,cO,aSUBJOINED LETTER YA,cRA,cWA",
   "1930 aSMALL LETTER KA,cNGA,cANUSVARA,cTA,cNA,cPA,cMA,cRA,cLA,aSIGN MUKPHRENG,bKEMPHRENG,bSA-I",
   "1940 bLOO,,,,aEXCLAMATION MARK,aQUESTIONa,aDIGIT ZERO,bONE,bTWO,bTHREE,bFOUR,bFIVE,bSIX",
   "194D bSEVEN,bEIGHT,bNINE,TAI LE LETTER KA,cXA,cNGA,cTSA,cSA,cYA,cTA,cTHA,cLA,cPA,cPHA,cMA,cFA",
   "195D cVA,cHA,cQA,cKHA,cTSHA,cNA,cA,cI,cEE,cEH,cU,cOO,cO,cUE,cE,cAUE,cAI,,,cTONE-2,cTONE-3",
   "1972 cTONE-4,cTONE-5,cTONE-6",
   "1980 NEW TAI LUE LETTER HIGH QA,dLOWa,dHIGH KA,eXA,eNGA,dLOW KA,eXA,eNGA,dHIGH TSA,eSA,eYA",
   "198B dLOW TSA,eSA,eYA,dHIGH TA,eTHA,eNA,dLOW TA,eTHA,eNA,dHIGH PA,ePHA,eMA,dLOW PA,ePHA,eMA",
   "199A dHIGH FA,eVA,eLA,dLOW FA,eVA,eLA,dHIGH HA,eDA,eBA,dLOW HA,eDA,eBA,dHIGH KVA,eXVA",
   "19A8 dLOW KVA,eXVA,dHIGH SUA,dLOWa,,,,,cVOWEL SIGN VOWEL SHORTENER,eAA,eII,eU,eUU,eE,eAE,eO",
   "19B8 eOA,eUE,eAY,eAAY,eUY,eOY,eOAY,eUEY,eIY,cLETTER FINAL V,eNG,eN,eM,eK,eD,eB,cTONE MARK-1",
   "19C9 dMARK-2,,,,,,,cDIGIT ZERO,dONE,dTWO,dTHREE,dFOUR,dFIVE,dSIX,dSEVEN,dEIGHT,dNINE",
   "19DA cTHAM DIGIT ONE,,,,cSIGN LAE,dLAEV,KHMER SYMBOL PATHAMASAT,bMUOY KOET,bPIIa,bBEIa,bBUONa",
   "19E5 bPRAMa,bPRAM-MUOYa,bPRAM-PIIa,bPRAM-BEIa,bPRAM-BUONa,bDAPa,bDAP-MUOYa,bDAP-PIIa",
   "19ED bDAP-BEIa,bDAP-BUONa,bDAP-PRAMa,bTUTEYASAT,bMUOY ROC,bPIIa,bBEIa,bBUONa,bPRAMa",
   "19F6 bPRAM-MUOYa,bPRAM-PIIa,bPRAM-BEIa,bPRAM-BUONa,bDAPa,bDAP-MUOYa,bDAP-PIIa,bDAP-BEIa",
   "19FE bDAP-BUONa,bDAP-PRAMa,BUGINESE LETTER KA,bGA,bNGA,bNGKA,bPA,bBA,bMA,bMPA,bTA,bDA,bNA",
   "1A0B bNRA,bCA,bJA,bNYA,bNYCA,bYA,bRA,bLA,bVA,bSA,bA,bHA,aVOWEL SIGN I,cU,cE,cO,cAE,,,aPALLAWA",
   "1A1F aEND OF SECTION,TAI THAM LETTER HIGH KA,dKHA,dKXA,cLOW KA,dKXA,dKHA,cNGA,cHIGH CA,dCHA",
   "1A29 cLOW CA,dSA,dCHA,cNYA,cRATA,cHIGH RATHA,cDA,cLOW RATHA,cRANA,cHIGH TA,dTHA,cLOW TA,dTHA",
   "1A36 cNA,cBA,cHIGH PA,dPHA,dFA,cLOW PA,dFA,dPHA,cMA,cLOW YA,cHIGHa,cRA,cRUE,cLA,cLUE,cWA",
   "1A46 cHIGH SHA,dSSA,dSA,dHA,cLLA,cA,cLOW HA,cI,cII,cU,cUU,cEE,cOO,cLAE,cGREAT SA",
   "1A55 bCONSONANT SIGN MEDIAL RA,eLA,dLA TANG LAI,bSIGN MAI KANGa,bCONSONANT SIGN FINAL NGA",
   "1A5A dLOW PA,dHIGH RATHA ORb,dMA,dBA,dSA,,bSIGN SAKOT,bVOWEL SIGN A,dMAI SAT,dAA,dTALLa,dI",
   "1A66 dII,dUE,dUUE,dU,dUU,dO,dOA BELOW,dOY,dE,dAE,dOO,dAI,dTHAMa,dOA ABOVE,bSIGN MAI KANG",
   "1A75 cTONE-1,cTONE-2,cKHUEN TONE-3,dTONE-4,dTONE-5,cRA HAAM,cMAI SAM,cKHUEN-LUE KARAN",
   "1A7F bCOMBINING CRYPTOGRAMMIC DOT,bHORA DIGIT ZERO,dONE,dTWO,dTHREE,dFOUR,dFIVE,dSIX,dSEVEN",
   "1A88 dEIGHT,dNINE,,,,,,,bTHAM DIGIT ZERO,dONE,dTWO,dTHREE,dFOUR,dFIVE,dSIX,dSEVEN,dEIGHT",
   "1A99 dNINE,,,,,,,bSIGN WIANG,cWIANGWAAK,cSAWAN,cKEOW,cHOY,cDOKMAI,cREVERSED ROTATED RANA",
   "1AA7 cMAI YAMOK,cKAAN,cKAANKUU,cSATKAAN,cSATKAANKUU,cHANG,cCAANG",
   "1AB0 COMBINING DOUBLED CIRCUMFLEX ACCENT,aDIAERESIS-RING,aINFINITY,aDOWNWARDS ARROW",
   "1AB4 aTRIPLE DOT,aX-X BELOW,aWIGGLY LINEa,aOPEN MARKa,aDOUBLEc,aLIGHT CENTRALIZATION STROKEa",
   "1ABA aSTRONGc,aPARENTHESES ABOVE,aDOUBLEb,aPARENTHESES BELOW,bOVERLAY",
   "1ABF aLATIN SMALL LETTER W BELOW,dTURNEDb,aLEFT PARENTHESIS ABOVE LEFT",
   "1AC2 aRIGHT PARENTHESIS ABOVE RIGHT,aLEFT PARENTHESIS BELOW LEFT",
   "1AC4 aRIGHT PARENTHESIS BELOW RIGHT,aSQUARE BRACKETS ABOVE,aNUMBER SIGNa",
   "1AC7 aINVERTED DOUBLE ARCHa,aPLUS SIGNa,aDOUBLEc,dBELOW,aTRIPLE ACUTE ACCENT",
   "1ACC aLATIN SMALL LETTER INSULAR G,eR,eT",
   "1B00 BALINESE SIGN ULU RICEM,cCANDRA,bCECEK,bSURANG,bBISAH,aLETTER AKARA,cTEDUNG,bIKARA",
   "1B08 cTEDUNG,bUKARA,cTEDUNG,bRA REPA,dTEDUNG,bLA LENGA,dTEDUNG,bEKARA,bAIKARA,bOKARA,cTEDUNG",
   "1B13 bKA,cMAHAPRANA,bGA,cGORA,bNGA,bCA,cLACA,bJA,cJERA,bNYA,bTA LATIK,cMURDA MAHAPRANA",
   "1B1F bDA MURDA ALPAPRANA,dMAHAPRANA,bNA RAMBAT,bTA,cTAWA,bDA,cMADU,bNA,bPA,cKAPAL,bBA",
   "1B2A cKEMBANG,bMA,bYA,bRA,bLA,bWA,bSA SAGA,cSAPA,bSA,bHA,aSIGN REREKAN,aVOWEL SIGN TEDUNG",
   "1B36 cULU,dSARI,cSUKU,dILUT,cRA REPA,eTEDUNG,cLA LENGA,eTEDUNG,cTALING,dREPA,dTEDUNG,dREPAa",
   "1B42 cPEPET,dTEDUNG,aADEG ADEG,aLETTER KAF SASAK,bKHOTa,bTZIRa,bEFa,bVEa,bZALa,bASYURAa",
   "1B4C bARCHAIC JNYA,,,,aDIGIT ZERO,bONE,bTWO,bTHREE,bFOUR,bFIVE,bSIX,bSEVEN,bEIGHT,bNINE",
   "1B5A aPANTI,aPAMADA,aWINDU,aCARIK PAMUNGKAH,bSIKI,bPAREREN,aPAMENENG,aMUSICAL SYMBOL DONG",
   "1B62 cDENG,cDUNG,cDANG,dSURANG,cDING,cDAENG,cDEUNG,cDAING,cDANG GEDE,cCOMBINING TEGEH,dENDEP",
   "1B6D dKEMPUL,dKEMPLI,dJEGOGAN,dKEMPUL WITHa,dKEMPLIb,dBENDE,dGONG,cRIGHT-HAND OPEN DUG,eDAG",
   "1B76 dCLOSED TUK,eTAK,cLEFT-HAND OPEN PANG,ePUNG,dCLOSED PLAK,ePLUK,dOPEN PING,aPANTI LANTANG",
   "1B7E aPAMADAa,,SUNDANESE SIGN PANYECEK,bPANGLAYAR,bPANGWISAD,aLETTER A,bI,bU,bAE,bO,bE,bEU",
   "1B8A bKA,bQA,bGA,bNGA,bCA,bJA,bZA,bNYA,bTA,bDA,bNA,bPA,bFA,bVA,bBA,bMA,bYA,bRA,bLA,bWA,bSA",
   "1B9F bXA,bHA,aCONSONANT SIGN PAMINGKAL,cPANYAKRA,cPANYIKU,aVOWEL SIGN PANGHULU,cPANYUKU",
   "1BA6 cPANAELAENG,cPANOLONG,cPAMEPET,cPANEULEUNG,aSIGN PAMAAEH,bVIRAMA",
   "1BAC aCONSONANT SIGN PASANGAN MA,dWA,aLETTER KHA,bSYA,aDIGIT ZERO,bONE,bTWO,bTHREE,bFOUR",
   "1BB5 bFIVE,bSIX,bSEVEN,bEIGHT,bNINE,aAVAGRAHA,aLETTER REU,bLEU,bBHA,bFINAL K,cM",
   "1BC0 BATAK LETTER A,bSIMALUNGUNa,bHA,bSIMALUNGUNa,bMANDAILINGa,bBA,bKAROa,bPA,bSIMALUNGUNa",
   "1BC9 bNA,bMANDAILINGa,bWA,bSIMALUNGUNa,bPAKPAKa,bGA,bSIMALUNGUNa,bJA,bDA,bRA,bSIMALUNGUNa,bMA",
   "1BD5 bSIMALUNGUNa,bSOUTHERN TA,bNORTHERNa,bSA,bSIMALUNGUNa,bMANDAILINGa,bYA,bSIMALUNGUNa,bNGA",
   "1BDE bLA,bSIMALUNGUNa,bNYA,bCA,bNDA,bMBA,bI,bU,aSIGN TOMPI,aVOWEL SIGN E,cPAKPAKa,cEE,cI",
   "1BEB cKAROa,cO,cKAROa,cU,dFOR SIMALUNGUN SA,aCONSONANT SIGN NG,cH,aPANGOLAT,aPANONGONAN",
   "1BFC aSYMBOL BINDU NA METEK,cPINARBORAS,cJUDUL,cPANGOLAT,LEPCHA LETTER KA,bKLA,bKHA,bGA,bGLA",
   "1C05 bNGA,bCA,bCHA,bJA,bNYA,bTA,bTHA,bDA,bNA,bPA,bPLA,bPHA,bFA,bFLA,bBA,bBLA,bMA,bMLA,bTSA",
   "1C18 bTSHA,bDZA,bYA,bRA,bLA,bHA,bHLA,bVA,bSA,bSHA,bWA,bA,aSUBJOINED LETTER YA,cRA",
   "1C26 aVOWEL SIGN AA,cI,cO,cOO,cU,cUU,cE,aCONSONANT SIGN K,cM,cL,cN,cP,cR,cT,cNYIN-DO,cKANG",
   "1C36 aSIGN RAN,bNUKTA,,,,aPUNCTUATION TA-ROL,bNYET THYOOMa,bCER-WA,bTSHOOKa,bTSHOOK",
   "1C40 aDIGIT ZERO,bONE,bTWO,bTHREE,bFOUR,bFIVE,bSIX,bSEVEN,bEIGHT,bNINE,,,,aLETTER TTA,bTTHA",
   "1C4F bDDA,OL CHIKI DIGIT ZERO,cONE,cTWO,cTHREE,cFOUR,cFIVE,cSIX,cSEVEN,cEIGHT,cNINE",
   "1C5A bLETTER LA,cAT,cAG,cANG,cAL,cLAA,cAAK,cAAJ,cAAM,cAAW,cLI,cIS,cIH,cINY,cIR,cLU,cUC,cUD",
   "1C6C cUNN,cUY,cLE,cEP,cEDD,cEN,cERR,cLO,cOTT,cOB,cOV,cOH,bMU TTUDDAG,bGAAHLAA TTUDDAAG",
   "1C7A bMU-GAAHLAAa,bRELAA,bPHAARKAA,bAHAD,bPUNCTUATION MUCAAD,cDOUBLEa",
   "1C80 CYRILLIC SMALL LETTER ROUNDED VE,cLONG-LEGGED DE,cNARROW O,cWIDE ES,cTALL TE",
   "1C85 cTHREE-LEGGEDa,cTALL HARD SIGN,dYAT,cUNBLENDED UK",
   "1C90 GEORGIAN MTAVRULI CAPITAL LETTER AN,dBAN,dGAN,dDON,dEN,dVIN,dZEN,dTAN,dIN,dKAN,dLAS,dMAN",
   "1C9C dNAR,dON,dPAR,dZHAR,dRAE,dSAN,dTAR,dUN,dPHAR,dKHAR,dGHAN,dQAR,dSHIN,dCHIN,dCAN,dJIL,dCIL",
   "1CAD dCHAR,dXAN,dJHAN,dHAE,dHE,dHIE,dWE,dHAR,dHOE,dFI,dYN,dELIFI,dTURNED GAN,dAIN,,,dAEN",
   "1CBE dHARD SIGN,dLABIALa,SUNDANESE PUNCTUATION BINDU SURYA,cPANGLONG,cPURNAMA,cCAKRA",
   "1CC4 cLEU SATANGA,cKAa,cDAa,cBAa,,,,,,,,,VEDIC TONE KARSHANA,bSHARA,bPRENKHA,aSIGN NIHSHVASA",
   "1CD4 bYAJURVEDIC MIDLINE SVARITA,aTONE YAJURVEDIC AGGRAVATED INDEPENDENTa,cINDEPENDENTa",
   "1CD7 cKATHAKAb,bCANDRA BELOW,bYAJURVEDIC KATHAKA INDEPENDENT SVARITA SCHROEDER",
   "1CDA bDOUBLE SVARITA,bTRIPLEa,bKATHAKA ANUDATTA,bDOT BELOW,bTWO DOTSa,bTHREEb",
   "1CE0 bRIGVEDIC KASHMIRI INDEPENDENT SVARITA,bATHARVAVEDICb,aSIGN VISARGAa,cUDATTA,bREVERSEDb",
   "1CE5 bVISARGA ANUDATTA,bREVERSEDb,bVISARGA UDATTA WITH TAIL,cANUDATTAb,bANUSVARA ANTARGOMUKHA",
   "1CEA cBAHIRGOMUKHA,cVAMAGOMUKHA,dWITH TAIL,bTIRYAK,bHEXIFORM LONG ANUSVARA,bLONGa,bRTHANGb",
   "1CF1 bANUSVARA UBHAYATO MUKHA,bARDHAVISARGA,bROTATEDa,aTONE CANDRA ABOVE,aSIGN JIHVAMULIYA",
   "1CF6 bUPADHMANIYA,bATIKRAMA,aTONE RING ABOVE,bDOUBLEb,aSIGN DOUBLE ANUSVARA ANTARGOMUKHA",
   "1D00 LATIN LETTER SMALL CAPITAL A,dAE,aSMALL LETTER TURNEDa,aLETTER SMALL CAPITAL BARRED B,dC",
   "1D05 dD,dETH,dE,aSMALL LETTER TURNED OPENa,dI,aLETTER SMALL CAPITAL J,dK,dL WITH STROKE,dM",
   "1D0E dREVERSED N,dO,dOPENa,aSMALL LETTER SIDEWAYSa,dOPENa,dO WITH STROKE,cTURNED OE",
   "1D15 aLETTER SMALL CAPITAL OU,aSMALL LETTER TOP HALF O,cBOTTOMb,aLETTER SMALL CAPITAL P",
   "1D19 dREVERSED R,dTURNEDa,dT,dU,aSMALL LETTER SIDEWAYSa,dDIAERESIZEDa,dTURNED M",
   "1D20 aLETTER SMALL CAPITAL V,dW,dZ,dEZH,bVOICED LARYNGEAL SPIRANT,bAIN",
   "1D26 GREEK LETTER SMALL CAPITAL GAMMA,dLAMDA,dPI,dRHO,dPSI,CYRILLIC LETTER SMALL CAPITAL EL",
   "1D2C MODIFIER LETTER CAPITAL A,cAE,cB,cBARREDa,cD,cE,cREVERSEDa,cG,cH,cI,cJ,cK,cL,cM,cN",
   "1D3B cREVERSEDa,cO,cOU,cP,cR,cT,cU,cW,bSMALL A,cTURNEDa,cALPHA,cTURNED AE,cB,cD,cE,cSCHWA",
   "1D4B cOPEN E,cTURNEDb,cG,cTURNED I,cK,cM,cENG,cO,cOPENa,cTOP HALFa,cBOTTOMb,cP,cT,cU",
   "1D59 cSIDEWAYSa,cTURNED M,cV,cAIN,cBETA,cGREEK GAMMA,cDELTA,cGREEK PHI,cCHI",
   "1D62 LATIN SUBSCRIPT SMALL LETTER I,dR,dU,dV,GREEK SUBSCRIPT SMALL LETTER BETA,dGAMMA,dRHO",
   "1D69 dPHI,dCHI,LATIN SMALL LETTER UE,cB WITH MIDDLE TILDE,cDc,cFc,cMc,cNc,cPc,cRc",
   "1D73 eFISHHOOK ANDb,cS WITHb,cTc,cZc,cTURNED G,MODIFIER LETTER CYRILLIC EN",
   "1D79 LATIN SMALL LETTER INSULAR G,cTH WITH STRIKETHROUGH,bCAPITAL LETTER I WITH STROKE",
   "1D7C bLETTER IOTAb,cPb,bCAPITAL LETTER Ub,bLETTER UPSILONb,cB WITH PALATAL HOOK,cDc,cFc,cGc",
   "1D84 cKc,cLc,cMc,cNc,cPc,cRc,cSc,cESHc,cVc,cXc,cZc,cA WITH RETROFLEXa,cALPHAc",
   "1D91 cD WITH HOOK AND TAIL,cE WITH RETROFLEX HOOK,cOPENd,cREVERSEDe,cSCHWAc,cIc,cOPEN Oc",
   "1D98 cESHc,cUc,cEZHc,MODIFIER LETTER SMALL TURNED ALPHA,cC,dWITH CURL,cETH,cREVERSED OPEN E",
   "1DA0 cF,cDOTLESS J WITH STROKE,cSCRIPT G,cTURNED H,cI WITH STROKE,cIOTA,cCAPITAL I",
   "1DA7 eWITH STROKE,cJ WITH CROSSED-TAIL,cL WITH RETROFLEX HOOK,ePALATALa,cCAPITAL L",
   "1DAC cM WITH HOOK,cTURNED M WITH LONG LEG,cN WITH LEFT HOOK,eRETROFLEXa,cCAPITAL N,cBARRED O",
   "1DB2 cPHI,cS WITH HOOK,cESH,cT WITH PALATAL HOOK,cU BAR,cUPSILON,cCAPITAL U,cV WITH HOOK",
   "1DBA cTURNED V,cZ,dWITH RETROFLEX HOOK,eCURL,cEZH,cTHETA,COMBINING DOTTED GRAVE ACCENT",
   "1DC1 bACUTEa,aSNAKE BELOW,aSUSPENSION MARK,aMACRON-ACUTE,aGRAVE-MACRON,aMACRON-GRAVE",
   "1DC7 aACUTE-MACRON,aGRAVE-ACUTE-GRAVE,aACUTE-GRAVE-ACUTE,aLATIN SMALL LETTER R BELOW",
   "1DCB aBREVE-MACRON,aMACRON-BREVE,aDOUBLE CIRCUMFLEX ABOVE,aOGONEKa,aZIGZAG BELOW,aISa",
   "1DD1 aUR ABOVE,aUSa,aLATIN SMALL LETTER FLATTENED OPEN Aa,dAE,dAO,dAV,dC CEDILLA,dINSULAR D",
   "1DD9 dETH,dG,bLETTER SMALL CAPITALa,bSMALL LETTER K,dL,bLETTER SMALL CAPITALa,eM",
   "1DE0 bSMALL LETTER N,bLETTER SMALL CAPITALa,eR,bSMALL LETTER R ROTUNDA,dS,dLONGa,dZ,dALPHA,dB",
   "1DE9 dBETA,dSCHWA,dF,dL WITH DOUBLE MIDDLE TILDE,dO WITH LIGHT CENTRALIZATION STROKE,dP,dESH",
   "1DF0 dU WITH LIGHT CENTRALIZATION STROKE,dW,dA WITH DIAERESIS,dOb,dUb,aUP TACK ABOVE",
   "1DF6 aKAVYKA ABOVE RIGHT,cLEFT,aDOTb,aWIDE INVERTED BRIDGE BELOW,aDOT BELOW LEFT",
   "1DFB aDELETION MARK,aDOUBLE INVERTED BREVE BELOW,aALMOST EQUAL TOa,aLEFT ARROWHEAD ABOVE",
   "1DFF aRIGHT ARROWHEAD AND DOWN ARROWHEAD BELOW,LATIN CAPITAL LETTER A WITH RINGa,aSMALLe",
   "1E02 aCAPITAL LETTER B WITH DOT ABOVE,aSMALLe,aCAPITAL LETTER B WITH DOT BELOW,aSMALLe",
   "1E06 aCAPITAL LETTER B WITH LINEa,aSMALLe,aCAPITAL LETTER C WITH CEDILLA AND ACUTE,aSMALLf",
   "1E0A aCAPITAL LETTER D WITH DOT ABOVE,aSMALLe,aCAPITAL LETTER D WITH DOT BELOW,aSMALLe",
   "1E0E aCAPITAL LETTER D WITH LINEa,aSMALLe,aCAPITAL LETTER D WITH CEDILLA,aSMALLd",
   "1E12 aCAPITAL LETTER D WITH CIRCUMFLEX BELOW,aSMALLe,aCAPITAL LETTER E WITH MACRON AND GRAVE",
   "1E15 aSMALLf,aCAPITAL LETTER E WITH MACRON AND ACUTE,aSMALLf",
   "1E18 aCAPITAL LETTER E WITH CIRCUMFLEX BELOW,aSMALLe,aCAPITAL LETTER E WITH TILDEa,aSMALLe",
   "1E1C aCAPITAL LETTER E WITH CEDILLA AND BREVE,aSMALLf,aCAPITAL LETTER F WITH DOT ABOVE",
   "1E1F aSMALLe,aCAPITAL LETTER G WITH MACRON,aSMALLd,aCAPITAL LETTER H WITH DOT ABOVE,aSMALLe",
   "1E24 aCAPITAL LETTER H WITH DOT BELOW,aSMALLe,aCAPITAL LETTER H WITH DIAERESIS,aSMALLd",
   "1E28 aCAPITAL LETTER H WITH CEDILLA,aSMALLd,aCAPITAL LETTER H WITH BREVE BELOW,aSMALLe",
   "1E2C aCAPITAL LETTER I WITH TILDEa,aSMALLe,aCAPITAL LETTER I WITH DIAERESIS AND ACUTE,aSMALLf",
   "1E30 aCAPITAL LETTER K WITHa,aSMALLd,aCAPITAL LETTER K WITH DOT BELOW,aSMALLe",
   "1E34 aCAPITAL LETTER K WITH LINEa,aSMALLe,aCAPITAL LETTER L WITH DOTa,aSMALLe",
   "1E38 aCAPITAL LETTER L WITH DOT BELOW AND MACRON,aSMALLg,aCAPITAL LETTER L WITH LINE BELOW",
   "1E3B aSMALLe,aCAPITAL LETTER L WITH CIRCUMFLEXa,aSMALLe,aCAPITAL LETTER M WITH ACUTE,aSMALLd",
   "1E40 aCAPITAL LETTER M WITH DOT ABOVE,aSMALLe,aCAPITAL LETTER M WITH DOT BELOW,aSMALLe",
   "1E44 aCAPITAL LETTER N WITH DOT ABOVE,aSMALLe,aCAPITAL LETTER N WITH DOT BELOW,aSMALLe",
   "1E48 aCAPITAL LETTER N WITH LINEa,aSMALLe,aCAPITAL LETTER N WITH CIRCUMFLEXa,aSMALLe",
   "1E4C aCAPITAL LETTER O WITH TILDE AND ACUTE,aSMALLf",
   "1E4E aCAPITAL LETTER O WITH TILDE AND DIAERESIS,aSMALLf",
   "1E50 aCAPITAL LETTER O WITH MACRON AND GRAVE,aSMALLf,aCAPITAL LETTER O WITH MACRON AND ACUTE",
   "1E53 aSMALLf,aCAPITAL LETTER P WITHa,aSMALLd,aCAPITAL LETTER P WITH DOT ABOVE,aSMALLe",
   "1E58 aCAPITAL LETTER Rc,aSMALLe,aCAPITAL LETTER R WITH DOT BELOW,aSMALLe",
   "1E5C aCAPITAL LETTER R WITH DOT BELOW AND MACRON,aSMALLg,aCAPITAL LETTER R WITH LINE BELOW",
   "1E5F aSMALLe,aCAPITAL LETTER S WITH DOT ABOVE,aSMALLe,aCAPITAL LETTER S WITH DOT BELOW",
   "1E63 aSMALLe,aCAPITAL LETTER S WITH ACUTE AND DOT ABOVE,aSMALLg,aCAPITAL LETTER S WITH CARONc",
   "1E67 aSMALLg,aCAPITAL LETTER S WITH DOT BELOWc,aSMALLh,aCAPITAL LETTER T WITHb,aSMALLe",
   "1E6C aCAPITAL LETTER T WITH DOT BELOW,aSMALLe,aCAPITAL LETTER T WITH LINEa,aSMALLe",
   "1E70 aCAPITAL LETTER T WITH CIRCUMFLEXa,aSMALLe,aCAPITAL LETTER U WITH DIAERESISa,aSMALLe",
   "1E74 aCAPITAL LETTER U WITH TILDEa,aSMALLe,aCAPITAL LETTER U WITH CIRCUMFLEXa,aSMALLe",
   "1E78 aCAPITAL LETTER U WITH TILDE AND ACUTE,aSMALLf",
   "1E7A aCAPITAL LETTER U WITH MACRON AND DIAERESIS,aSMALLf,aCAPITAL LETTER V WITH TILDE,aSMALLd",
   "1E7E aCAPITAL LETTER V WITH DOT BELOW,aSMALLe,aCAPITAL LETTER W WITH GRAVE,aSMALLd",
   "1E82 aCAPITAL LETTER W WITH ACUTE,aSMALLd,aCAPITAL LETTER W WITH DIAERESIS,aSMALLd",
   "1E86 aCAPITAL LETTER W WITH DOT ABOVE,aSMALLe,aCAPITAL LETTER W WITH DOT BELOW,aSMALLe",
   "1E8A aCAPITAL LETTER X WITH DOT ABOVE,aSMALLe,aCAPITAL LETTER X WITH DIAERESIS,aSMALLd",
   "1E8E aCAPITAL LETTER Y WITH DOT ABOVE,aSMALLe,aCAPITAL LETTER Z WITH CIRCUMFLEX,aSMALLd",
   "1E92 aCAPITAL LETTER Z WITH DOT BELOW,aSMALLe,aCAPITAL LETTER Z WITH LINEa,aSMALLe,cHc",
   "1E97 cT WITH DIAERESIS,cW WITH RING ABOVE,cYc,cA WITH RIGHT HALF RING,cLONG S WITH DOT ABOVE",
   "1E9C fDIAGONAL STROKE,fHIGHa,aCAPITAL LETTER SHARP S,aSMALL LETTER DELTA",
   "1EA0 aCAPITAL LETTER A WITH DOT BELOW,aSMALLe,aCAPITAL LETTER A WITH HOOK ABOVE,aSMALLe",
   "1EA4 aCAPITAL LETTER A WITH CIRCUMFLEX AND ACUTE,aSMALLf",
   "1EA6 aCAPITAL LETTER A WITH CIRCUMFLEX AND GRAVE,aSMALLf",
   "1EA8 aCAPITAL LETTER A WITH CIRCUMFLEX AND HOOK ABOVE,aSMALLg",
   "1EAA aCAPITAL LETTER A WITH CIRCUMFLEX AND TILDE,aSMALLf",
   "1EAC aCAPITAL LETTER A WITH CIRCUMFLEX AND DOT BELOW,aSMALLg",
   "1EAE aCAPITAL LETTER A WITH BREVE AND ACUTE,aSMALLf,aCAPITAL LETTER A WITH BREVE AND GRAVE",
   "1EB1 aSMALLf,aCAPITAL LETTER A WITH BREVE AND HOOK ABOVE,aSMALLg",
   "1EB4 aCAPITAL LETTER A WITH BREVE AND TILDE,aSMALLf",
   "1EB6 aCAPITAL LETTER A WITH BREVE AND DOT BELOW,aSMALLg,aCAPITAL LETTER E WITHb,aSMALLe",
   "1EBA aCAPITAL LETTER E WITH HOOK ABOVE,aSMALLe,aCAPITAL LETTER E WITH TILDE,aSMALLd",
   "1EBE aCAPITAL LETTER E WITH CIRCUMFLEX AND ACUTE,aSMALLf",
   "1EC0 aCAPITAL LETTER E WITH CIRCUMFLEX AND GRAVE,aSMALLf",
   "1EC2 aCAPITAL LETTER E WITH CIRCUMFLEX AND HOOK ABOVE,aSMALLg",
   "1EC4 aCAPITAL LETTER E WITH CIRCUMFLEX AND TILDE,aSMALLf",
   "1EC6 aCAPITAL LETTER E WITH CIRCUMFLEX AND DOT BELOW,aSMALLg",
   "1EC8 aCAPITAL LETTER I WITH HOOK ABOVE,aSMALLe,aCAPITAL LETTER I WITH DOT BELOW,aSMALLe",
   "1ECC aCAPITAL LETTER Oc,aSMALLe,aCAPITAL LETTER O WITH HOOK ABOVE,aSMALLe",
   "1ED0 aCAPITAL LETTER O WITH CIRCUMFLEX AND ACUTE,aSMALLf",
   "1ED2 aCAPITAL LETTER O WITH CIRCUMFLEX AND GRAVE,aSMALLf",
   "1ED4 aCAPITAL LETTER O WITH CIRCUMFLEX AND HOOK ABOVE,aSMALLg",
   "1ED6 aCAPITAL LETTER O WITH CIRCUMFLEX AND TILDE,aSMALLf",
   "1ED8 aCAPITAL LETTER O WITH CIRCUMFLEX AND DOT BELOW,aSMALLg",
   "1EDA aCAPITAL LETTER O WITH HORN AND ACUTE,aSMALLf,aCAPITAL LETTER O WITH HORN AND GRAVE",
   "1EDD aSMALLf,aCAPITAL LETTER O WITH HORN AND HOOK ABOVE,aSMALLg",
   "1EE0 aCAPITAL LETTER O WITH HORN AND TILDE,aSMALLf,aCAPITAL LETTER O WITH HORN AND DOT BELOW",
   "1EE3 aSMALLg,aCAPITAL LETTER U WITHb,aSMALLe,aCAPITAL LETTER U WITH HOOK ABOVE,aSMALLe",
   "1EE8 aCAPITAL LETTER U WITH HORN AND ACUTE,aSMALLf,aCAPITAL LETTER U WITH HORN AND GRAVE",
   "1EEB aSMALLf,aCAPITAL LETTER U WITH HORN AND HOOK ABOVE,aSMALLg",
   "1EEE aCAPITAL LETTER U WITH HORN AND TILDE,aSMALLf,aCAPITAL LETTER U WITH HORN AND DOT BELOW",
   "1EF1 aSMALLg,aCAPITAL LETTER Y WITH GRAVE,aSMALLd,aCAPITAL LETTER Y WITH DOT BELOW,aSMALLe",
   "1EF6 aCAPITAL LETTER Y WITH HOOK ABOVE,aSMALLe,aCAPITAL LETTER Y WITH TILDE,aSMALLd",
   "1EFA aCAPITAL LETTER MIDDLE-WELSH LL,aSMALLc,aCAPITAL LETTER MIDDLE-WELSH V,aSMALLc",
   "1EFE aCAPITAL LETTER Y WITH LOOP,aSMALLd,GREEK SMALL LETTER ALPHA WITH PSILI,eDASIA",
   "1F02 ePSILI AND VARIA,eDASIAb,ePSILI AND OXIA,eDASIAb,ePSILI AND PERISPOMENI,eDASIAb",
   "1F08 aCAPITAL LETTER ALPHA WITH PSILI,eDASIA,ePSILI AND VARIA,eDASIAb,ePSILI AND OXIA,eDASIAb",
   "1F0E ePSILI AND PERISPOMENI,eDASIAb,aSMALL LETTER EPSILON WITH PSILI,eDASIA,ePSILI AND VARIA",
   "1F13 eDASIAb,ePSILI AND OXIA,eDASIAb,,,aCAPITAL LETTER EPSILON WITH PSILI,eDASIA",
   "1F1A ePSILI AND VARIA,eDASIAb,ePSILI AND OXIA,eDASIAb,,,aSMALL LETTER ETA WITH PSILI,eDASIA",
   "1F22 ePSILI AND VARIA,eDASIAb,ePSILI AND OXIA,eDASIAb,ePSILI AND PERISPOMENI,eDASIAb",
   "1F28 aCAPITAL LETTER ETA WITH PSILI,eDASIA,ePSILI AND VARIA,eDASIAb,ePSILI AND OXIA,eDASIAb",
   "1F2E ePSILI AND PERISPOMENI,eDASIAb,aSMALL LETTER IOTA WITH PSILI,eDASIA,ePSILI AND VARIA",
   "1F33 eDASIAb,ePSILI AND OXIA,eDASIAb,ePSILI AND PERISPOMENI,eDASIAb",
   "1F38 aCAPITAL LETTER IOTA WITH PSILI,eDASIA,ePSILI AND VARIA,eDASIAb,ePSILI AND OXIA,eDASIAb",
   "1F3E ePSILI AND PERISPOMENI,eDASIAb,aSMALL LETTER OMICRON WITH PSILI,eDASIA,ePSILI AND VARIA",
   "1F43 eDASIAb,ePSILI AND OXIA,eDASIAb,,,aCAPITAL LETTER OMICRON WITH PSILI,eDASIA",
   "1F4A ePSILI AND VARIA,eDASIAb,ePSILI AND OXIA,eDASIAb,,,aSMALL LETTER UPSILON WITH PSILI",
   "1F51 eDASIA,ePSILI AND VARIA,eDASIAb,ePSILI AND OXIA,eDASIAb,ePSILI AND PERISPOMENI,eDASIAb",
   "1F59 aCAPITAL LETTER UPSILON WITH DASIA,,fAND VARIA,,gOXIA,,gPERISPOMENI",
   "1F60 aSMALL LETTER OMEGA WITH PSILI,eDASIA,ePSILI AND VARIA,eDASIAb,ePSILI AND OXIA,eDASIAb",
   "1F66 ePSILI AND PERISPOMENI,eDASIAb,aCAPITAL LETTER OMEGA WITH PSILI,eDASIA,ePSILI AND VARIA",
   "1F6B eDASIAb,ePSILI AND OXIA,eDASIAb,ePSILI AND PERISPOMENI,eDASIAb",
   "1F70 aSMALL LETTER ALPHA WITH VARIA,eOXIA,cEPSILON WITH VARIA,eOXIA,cETA WITH VARIA,eOXIA",
   "1F76 cIOTA WITH VARIA,eOXIA,cOMICRON WITH VARIA,eOXIA,cUPSILON WITH VARIA,eOXIA",
   "1F7C cOMEGA WITH VARIA,eOXIA,,,cALPHA WITH PSILI AND YPOGEGRAMMENI,eDASIAb,ePSILI AND VARIAb",
   "1F83 eDASIAd,ePSILI AND OXIAb,eDASIAd,ePSILI AND PERISPOMENIb,eDASIAd",
   "1F88 aCAPITAL LETTER ALPHA WITH PSILI AND PROSGEGRAMMENI,eDASIAb,ePSILI AND VARIAb,eDASIAd",
   "1F8C ePSILI AND OXIAb,eDASIAd,ePSILI AND PERISPOMENIb,eDASIAd",
   "1F90 aSMALL LETTER ETA WITH PSILI AND YPOGEGRAMMENI,eDASIAb,ePSILI AND VARIAb,eDASIAd",
   "1F94 ePSILI AND OXIAb,eDASIAd,ePSILI AND PERISPOMENIb,eDASIAd",
   "1F98 aCAPITAL LETTER ETA WITH PSILI AND PROSGEGRAMMENI,eDASIAb,ePSILI AND VARIAb,eDASIAd",
   "1F9C ePSILI AND OXIAb,eDASIAd,ePSILI AND PERISPOMENIb,eDASIAd",
   "1FA0 aSMALL LETTER OMEGA WITH PSILI AND YPOGEGRAMMENI,eDASIAb,ePSILI AND VARIAb,eDASIAd",
   "1FA4 ePSILI AND OXIAb,eDASIAd,ePSILI AND PERISPOMENIb,eDASIAd",
   "1FA8 aCAPITAL LETTER OMEGA WITH PSILI AND PROSGEGRAMMENI,eDASIAb,ePSILI AND VARIAb,eDASIAd",
   "1FAC ePSILI AND OXIAb,eDASIAd,ePSILI AND PERISPOMENIb,eDASIAd,aSMALL LETTER ALPHA WITH VRACHY",
   "1FB1 eMACRON,eVARIA AND YPOGEGRAMMENI,eYPOGEGRAMMENI,eOXIA ANDa,,ePERISPOMENI",
   "1FB7 fAND YPOGEGRAMMENI,aCAPITAL LETTER ALPHA WITH VRACHY,eMACRON,eVARIA,eOXIA",
   "1FBC ePROSGEGRAMMENI,aKORONIS,aPROSGEGRAMMENI,aPSILI,aPERISPOMENI,aDIALYTIKA ANDa",
   "1FC2 aSMALL LETTER ETA WITH VARIA AND YPOGEGRAMMENI,eYPOGEGRAMMENI,eOXIA ANDa,,ePERISPOMENI",
   "1FC7 fAND YPOGEGRAMMENI,aCAPITAL LETTER EPSILON WITH VARIA,eOXIA,cETA WITH VARIA,eOXIA",
   "1FCC ePROSGEGRAMMENI,aPSILI AND VARIA,cOXIA,cPERISPOMENI,aSMALL LETTER IOTA WITH VRACHY",
   "1FD1 eMACRON,eDIALYTIKA AND VARIA,gOXIA,,,ePERISPOMENI,eDIALYTIKA ANDa",
   "1FD8 aCAPITAL LETTER IOTA WITH VRACHY,eMACRON,eVARIA,eOXIA,,aDASIA AND VARIA,cOXIA",
   "1FDF cPERISPOMENI,aSMALL LETTER UPSILON WITH VRACHY,eMACRON,eDIALYTIKA AND VARIA,gOXIA",
   "1FE4 cRHO WITH PSILI,eDASIA,cUPSILON WITH PERISPOMENI,eDIALYTIKA ANDa",
   "1FE8 aCAPITAL LETTER UPSILON WITH VRACHY,eMACRON,eVARIA,eOXIA,cRHO WITH DASIA",
   "1FED aDIALYTIKA AND VARIA,cOXIA,aVARIA,,,aSMALL LETTER OMEGA WITH VARIA AND YPOGEGRAMMENI",
   "1FF3 eYPOGEGRAMMENI,eOXIA ANDa,,ePERISPOMENI,fAND YPOGEGRAMMENI",
   "1FF8 aCAPITAL LETTER OMICRON WITH VARIA,eOXIA,cOMEGA WITH VARIA,eOXIA,ePROSGEGRAMMENI,aOXIA",
   "1FFE aDASIA,,EN QUAD,EMa,EN SPACE,EMa,THREE-PER-EMa,FOUR-PER-EMa,SIX-PER-EMa,FIGUREa"]

def namesFrom2000 : List String :=
  ["2008 PUNCTUATIONa,THINa,HAIRa,ZERO WIDTHa,bNON-JOINER,bJOINER,LEFT-TO-RIGHT MARK",
   "200F RIGHT-TO-LEFTa,HYPHEN,NON-BREAKINGa,FIGURE DASH,ENa,EMa,HORIZONTAL BAR",
   "2016 DOUBLE VERTICAL LINE,aLOWa,LEFT SINGLE QUOTATION MARK,RIGHTc,SINGLE LOW-9b",
   "201B aHIGH-REVERSED-9b,LEFT DOUBLEb,RIGHTc,DOUBLE LOW-9b,aHIGH-REVERSED-9b,DAGGER,DOUBLEa",
   "2022 BULLET,TRIANGULARa,ONE DOT LEADER,TWOb,HORIZONTAL ELLIPSIS,HYPHENATION POINT",
   "2028 LINE SEPARATOR,PARAGRAPHa,LEFT-TO-RIGHT EMBEDDING,RIGHT-TO-LEFTa",
   "202C POP DIRECTIONAL FORMATTING,LEFT-TO-RIGHT OVERRIDE,RIGHT-TO-LEFTa,NARROW NO-BREAK SPACE",
   "2030 PER MILLE SIGN,aTEN THOUSANDa,PRIME,DOUBLEa,TRIPLEa,REVERSEDa,aDOUBLEa,aTRIPLEa,CARET",
   "2039 SINGLE LEFT-POINTING ANGLE QUOTATION MARK,aRIGHT-POINTINGc,REFERENCEa",
   "203C DOUBLE EXCLAMATIONa,INTERROBANG,OVERLINE,UNDERTIE,CHARACTER TIE,CARET INSERTION POINT",
   "2042 ASTERISM,HYPHEN BULLET,FRACTION SLASH,LEFT SQUARE BRACKET WITH QUILL,RIGHTd",
   "2047 DOUBLE QUESTION MARK,QUESTION EXCLAMATIONa,EXCLAMATION QUESTIONa,TIRONIAN SIGN ET",
   "204B REVERSED PILCROW SIGN,BLACK LEFTWARDS BULLET,aRIGHTWARDSa,LOW ASTERISK",
   "204F REVERSED SEMICOLON,CLOSE UP,TWO ASTERISKS ALIGNED VERTICALLY,COMMERCIAL MINUS SIGN",
   "2053 SWUNG DASH,INVERTED UNDERTIE,FLOWER PUNCTUATION MARK,THREE DOT PUNCTUATION",
   "2057 QUADRUPLE PRIME,FOUR DOT PUNCTUATION,FIVEb,TWOb,FOUR DOT MARK,DOTTED CROSS,TRICOLON",
   "205E VERTICAL FOUR DOTS,MEDIUM MATHEMATICAL SPACE,WORD JOINER,FUNCTION APPLICATION",
   "2062 INVISIBLE TIMES,aSEPARATOR,aPLUS,,LEFT-TO-RIGHT ISOLATE,RIGHT-TO-LEFTa,FIRST STRONGa",
   "2069 POP DIRECTIONALa,INHIBIT SYMMETRIC SWAPPING,ACTIVATEb,INHIBIT ARABIC FORM SHAPING",
   "206D ACTIVATEc,NATIONAL DIGIT SHAPES,NOMINALb,SUPERSCRIPT ZERO,aLATIN SMALL LETTER I,,,aFOUR",
   "2075 aFIVE,aSIX,aSEVEN,aEIGHT,aNINE,aPLUS SIGN,aMINUS,aEQUALS SIGN,aLEFT PARENTHESIS,aRIGHTa",
   "207F aLATIN SMALL LETTER N,SUBSCRIPT ZERO,aONE,aTWO,aTHREE,aFOUR,aFIVE,aSIX,aSEVEN,aEIGHT",
   "2089 aNINE,aPLUS SIGN,aMINUS,aEQUALS SIGN,aLEFT PARENTHESIS,aRIGHTa",
   "2090 LATIN SUBSCRIPT SMALL LETTER A,dE,dO,dX,dSCHWA,dH,dK,dL,dM,dN,dP,dS,dT",
   "20A0 EURO-CURRENCY SIGN,COLONa,CRUZEIROa,FRENCH FRANCa,LIRAa,MILLa,NAIRAa,PESETAa,RUPEEa,WONa",
   "20AA NEW SHEQELa,DONGa,EUROa,KIPa,TUGRIKa,DRACHMAa,GERMAN PENNYa,PESOa,GUARANIa,AUSTRALa",
   "20B4 HRYVNIAa,CEDIa,LIVRE TOURNOISa,SPESMILOa,TENGEa,INDIAN RUPEEa,TURKISH LIRAa,NORDIC MARKa",
   "20BC MANATa,RUBLEa,LARIa,BITCOINa,SOMa",
   "20D0 COMBINING LEFT HARPOON ABOVE,aRIGHTb,aLONG VERTICAL LINE OVERLAY,aSHORTc",
   "20D4 aANTICLOCKWISE ARROW ABOVE,aCLOCKWISEb,aLEFTb,aRIGHTb,aRING OVERLAY,aCLOCKWISEb",
   "20DA aANTICLOCKWISEb,aTHREE DOTS ABOVE,aFOURb,aENCLOSING CIRCLE,bSQUARE,bDIAMOND",
   "20E0 bCIRCLE BACKSLASH,aLEFT RIGHT ARROW ABOVE,aENCLOSING SCREEN,bKEYCAP",
   "20E4 bUPWARD POINTING TRIANGLE,aREVERSE SOLIDUS OVERLAY,aDOUBLE VERTICAL STROKEa",
   "20E7 aANNUITY SYMBOL,aTRIPLE UNDERDOT,aWIDE BRIDGE ABOVE,aLEFTWARDS ARROW OVERLAY",
   "20EB aLONG DOUBLE SOLIDUSa,aRIGHTWARDS HARPOON WITH BARB DOWNWARDS,aLEFTWARDSd",
   "20EE aLEFT ARROW BELOW,aRIGHTb,aASTERISK ABOVE",
   "2100 ACCOUNT OF,ADDRESSED TO THE SUBJECT,DOUBLE-STRUCK CAPITAL C,DEGREE CELSIUS",
   "2104 CENTRE LINE SYMBOL,CARE OF,CADA UNA,EULER CONSTANT,SCRUPLE,DEGREE FAHRENHEIT",
   "210A SCRIPT SMALL G,aCAPITAL H,BLACK-LETTERb,DOUBLE-STRUCKb,PLANCK CONSTANT,bOVER TWO PI",
   "2110 SCRIPT CAPITAL I,BLACK-LETTERb,SCRIPT CAPITAL L,aSMALLa,L B BAR SYMBOL",
   "2115 DOUBLE-STRUCK CAPITAL N,NUMERO SIGN,SOUND RECORDING COPYRIGHT,SCRIPT CAPITAL P",
   "2119 DOUBLE-STRUCKb,bQ,SCRIPT CAPITAL R,BLACK-LETTERb,DOUBLE-STRUCKb,PRESCRIPTION TAKE",
   "211F RESPONSE,SERVICE MARK,TELEPHONE SIGN,TRADE MARKa,VERSICLE,DOUBLE-STRUCK CAPITAL Z",
   "2125 OUNCE SIGN,OHMa,INVERTEDb,BLACK-LETTER CAPITAL Z,TURNED GREEK SMALL LETTER IOTA",
   "212A KELVIN SIGN,ANGSTROMa,SCRIPT CAPITAL B,BLACK-LETTER CAPITAL C,ESTIMATED SYMBOL",
   "212F SCRIPT SMALL E,aCAPITALa,bF,TURNEDb,SCRIPT CAPITAL M,aSMALL O,ALEF SYMBOL,BETa,GIMELa",
   "2138 DALETa,INFORMATION SOURCE,ROTATED CAPITAL Q,FACSIMILE SIGN,DOUBLE-STRUCK SMALL PI,bGAMMA",
   "213E aCAPITALa,bPI,aN-ARY SUMMATION,TURNED SANS-SERIF CAPITAL G,cL,REVERSEDc",
   "2144 TURNED SANS-SERIF CAPITAL Y,DOUBLE-STRUCK ITALIC CAPITAL D,bSMALLa,cE,cI,cJ",
   "214A PROPERTY LINE,TURNED AMPERSAND,PER SIGN,AKTIESELSKAB,TURNED SMALL F",
   "214F SYMBOL FOR SAMARITAN SOURCE,VULGAR FRACTION ONE SEVENTH,cNINTH,cTENTH,cTHIRD,bTWO THIRDS",
   "2155 bONE FIFTH,bTWO FIFTHS,bTHREEa,bFOURa,bONE SIXTH,bFIVE SIXTHS,bONE EIGHTH,bTHREE EIGHTHS",
   "215D bFIVEa,bSEVENa,FRACTION NUMERATOR ONE,ROMAN NUMERALa,bTWO,bTHREE,bFOUR,bFIVE,bSIX,bSEVEN",
   "2167 bEIGHT,bNINE,bTEN,bELEVEN,bTWELVE,bFIFTY,bONE HUNDRED,bFIVEa,bONE THOUSAND",
   "2170 SMALL ROMAN NUMERAL ONE,cTWO,cTHREE,cFOUR,cFIVE,cSIX,cSEVEN,cEIGHT,cNINE,cTEN,cELEVEN",
   "217B cTWELVE,cFIFTY,cONE HUNDRED,cFIVEa,cONE THOUSAND,ROMAN NUMERAL ONE THOUSAND C D",
   "2181 bFIVE THOUSAND,bTENa,bREVERSED ONE HUNDRED,LATIN SMALL LETTER REVERSED C",
   "2185 ROMAN NUMERAL SIX LATE FORM,bFIFTY EARLYa,cTHOUSAND,bONE HUNDREDa",
   "2189 VULGAR FRACTION ZERO THIRDS,TURNED DIGIT TWO,bTHREE,,,,,LEFTWARDS ARROW,UPWARDSa",
   "2192 RIGHTWARDSa,DOWNWARDSa,LEFT RIGHTa,UP DOWNa,NORTH WESTa,aEASTa,SOUTHb,aWESTa",
   "219A LEFTWARDS ARROW WITH STROKE,RIGHTWARDSc,LEFTWARDS WAVE ARROW,RIGHTWARDSb",
   "219E LEFTWARDS TWO HEADEDa,UPWARDSc,RIGHTWARDSc,DOWNWARDSc,LEFTWARDS ARROW WITH TAIL",
   "21A3 RIGHTWARDSc,LEFTWARDS ARROW FROM BAR,UPWARDSc,RIGHTWARDSc,DOWNWARDSc",
   "21A8 UP DOWN ARROW WITH BASE,LEFTWARDS ARROW WITH HOOK,RIGHTWARDSc,LEFTWARDS ARROW WITH LOOP",
   "21AC RIGHTWARDSc,LEFT RIGHT WAVE ARROW,bARROW WITH STROKE,DOWNWARDS ZIGZAG ARROW",
   "21B0 UPWARDS ARROW WITH TIP LEFTWARDS,dRIGHTWARDS,DOWNWARDS ARROW WITH TIP LEFTWARDS",
   "21B3 dRIGHTWARDS,RIGHTWARDS ARROW WITH CORNER DOWNWARDS,DOWNWARDS ARROW WITH CORNER LEFTWARDS",
   "21B6 ANTICLOCKWISE TOP SEMICIRCLE ARROW,CLOCKWISEc,NORTH WEST ARROW TO LONG BAR",
   "21B9 LEFTWARDS ARROW TO BAR OVER RIGHTWARDS ARROW TOa,ANTICLOCKWISE OPEN CIRCLE ARROW",
   "21BB CLOCKWISEc,LEFTWARDS HARPOON WITH BARB UPWARDS,dDOWNWARDS",
   "21BE UPWARDS HARPOON WITH BARB RIGHTWARDS,dLEFTWARDS,RIGHTWARDS HARPOON WITH BARB UPWARDS",
   "21C1 dDOWNWARDS,DOWNWARDS HARPOON WITH BARB RIGHTWARDS,dLEFTWARDS",
   "21C4 RIGHTWARDS ARROW OVER LEFTWARDS ARROW,UPWARDS ARROW LEFTWARDS OF DOWNWARDSa",
   "21C6 LEFTWARDS ARROW OVER RIGHTWARDSa,aPAIRED ARROWS,UPWARDSb,RIGHTWARDSb,DOWNWARDSb",
   "21CB LEFTWARDS HARPOON OVER RIGHTWARDS HARPOON,RIGHTWARDS HARPOON OVER LEFTWARDSa",
   "21CD LEFTWARDS DOUBLE ARROW WITH STROKE,LEFT RIGHTd,RIGHTWARDSd,LEFTWARDS DOUBLE ARROW",
   "21D1 UPWARDSb,RIGHTWARDSb,DOWNWARDSb,LEFT RIGHTb,UP DOWNb,NORTH WESTb,aEASTb,SOUTHc,aWESTb",
   "21DA LEFTWARDS TRIPLEa,RIGHTWARDSb,LEFTWARDS SQUIGGLEa,RIGHTWARDSb",
   "21DE UPWARDS ARROW WITH DOUBLE STROKE,DOWNWARDSd,LEFTWARDS DASHED ARROW,UPWARDSb,RIGHTWARDSb",
   "21E3 DOWNWARDSb,LEFTWARDS ARROW TO BAR,RIGHTWARDSc,LEFTWARDS WHITE ARROW,UPWARDSb,RIGHTWARDSb",
   "21E9 DOWNWARDSb,UPWARDS WHITE ARROW FROM BAR,cON PEDESTAL,eWITH HORIZONTAL BAR,fVERTICALa",
   "21EE bDOUBLE ARROW,dON PEDESTAL,RIGHTWARDS WHITE ARROW FROM WALL,NORTH WEST ARROW TO CORNER",
   "21F2 SOUTH EASTc,UP DOWN WHITE ARROW,RIGHT ARROW WITH SMALL CIRCLE",
   "21F5 DOWNWARDS ARROW LEFTWARDS OF UPWARDS ARROW,THREE RIGHTWARDS ARROWS",
   "21F7 LEFTWARDS ARROW WITH VERTICAL STROKE,RIGHTWARDSd,LEFT RIGHTd",
   "21FA LEFTWARDS ARROW WITH DOUBLEb,RIGHTWARDSe,LEFT RIGHTe,LEFTWARDS OPEN-HEADED ARROW",
   "21FE RIGHTWARDSb,LEFT RIGHTb,FOR ALL,COMPLEMENT,PARTIAL DIFFERENTIAL,THERE EXISTS",
   "2204 aDOES NOT EXIST,EMPTY SET,INCREMENT,NABLA,ELEMENT OF,NOT ANb,SMALLb,CONTAINS AS MEMBER",
   "220C DOES NOT CONTAINb,SMALL CONTAINSb,END OF PROOF,N-ARY PRODUCT,aCOPRODUCT,aSUMMATION",
   "2212 MINUS SIGN,MINUS-OR-PLUSa,DOT PLUS,DIVISION SLASH,SET MINUS,ASTERISK OPERATOR,RINGa",
   "2219 BULLETa,SQUARE ROOT,CUBEa,FOURTHa,PROPORTIONAL TO,INFINITY,RIGHT ANGLE,ANGLE,MEASUREDa",
   "2222 SPHERICALa,DIVIDES,DOES NOT DIVIDE,PARALLEL TO,NOTb,LOGICAL AND,aOR,INTERSECTION,UNION",
   "222B INTEGRAL,DOUBLEa,TRIPLEa,CONTOURa,SURFACEa,VOLUMEa,CLOCKWISEa,aCONTOURa,ANTICLOCKWISEb",
   "2234 THEREFORE,BECAUSE,RATIO,PROPORTION,DOT MINUS,EXCESS,GEOMETRIC PROPORTION,HOMOTHETIC",
   "223C TILDE OPERATOR,REVERSED TILDE,INVERTED LAZY S,SINE WAVE,WREATH PRODUCT,NOT TILDE,MINUSa",
   "2243 ASYMPTOTICALLY EQUAL TO,NOTc,APPROXIMATELYb,aBUT NOT ACTUALLYb",
   "2247 NEITHER APPROXIMATELY NORc,ALMOSTb,NOTc,ALMOST EQUAL ORb,TRIPLE TILDE,ALL EQUAL TO",
   "224D EQUIVALENTa,GEOMETRICALLYb,DIFFERENCE BETWEEN,APPROACHES THE LIMIT",
   "2251 GEOMETRICALLY EQUAL TO,APPROXIMATELY EQUAL TO OR THE IMAGE OF",
   "2253 IMAGE OF OR APPROXIMATELY EQUAL TO,COLON EQUALS,EQUALS COLON,RING IN EQUAL TO,aEQUALa",
   "2258 CORRESPONDSa,ESTIMATES,EQUIANGULAR TO,STAR EQUALS,DELTA EQUAL TO,EQUAL TO BY DEFINITION",
   "225E MEASURED BY,QUESTIONED EQUAL TO,NOTb,IDENTICALa,NOTb,STRICTLY EQUIVALENTa",
   "2264 LESS-THAN OR EQUALa,GREATER-THANc,LESS-THAN OVERb,GREATER-THANc,LESS-THAN BUT NOTb",
   "2269 GREATER-THANd,MUCH LESS-THAN,aGREATER-THAN,BETWEEN,NOT EQUIVALENT TO,aLESS-THAN",
   "226F aGREATER-THAN,NEITHER LESS-THAN NOR EQUAL TO,aGREATER-THANc,LESS-THAN OR EQUIVALENTa",
   "2273 GREATER-THANc,NEITHER LESS-THAN NORb,aGREATER-THANc,LESS-THAN OR GREATER-THAN",
   "2277 GREATER-THAN OR LESS-THAN,NEITHER LESS-THAN NOR GREATER-THAN,aGREATER-THAN NOR LESS-THAN",
   "227A PRECEDES,SUCCEEDS,PRECEDES OR EQUAL TO,SUCCEEDSc,PRECEDES OR EQUIVALENTa,SUCCEEDSc",
   "2280 DOES NOT PRECEDE,bSUCCEED,SUBSET OF,SUPERSETa,NOT A SUBSETa,bSUPERSETa",
   "2286 SUBSET OF OR EQUAL TO,SUPERSETd,NEITHER A SUBSET OF NORb,bSUPERSETd,SUBSET OF WITH NOTb",
   "228B SUPERSETe,MULTISET,aMULTIPLICATION,aUNION,SQUARE IMAGE OF,aORIGINALa",
   "2291 aIMAGE OF OR EQUAL TO,aORIGINALd,aCAP,aCUP,CIRCLED PLUS,aMINUS,aTIMES,aDIVISION SLASH",
   "2299 aDOT OPERATOR,aRINGa,aASTERISKa,aEQUALS,aDASH,SQUARED PLUS,aMINUS,aTIMES,aDOT OPERATOR",
   "22A2 RIGHT TACK,LEFTa,DOWNa,UPa,ASSERTION,MODELS,TRUE,FORCES",
   "22AA TRIPLE VERTICAL BAR RIGHT TURNSTILE,DOUBLE VERTICAL BAR DOUBLEb,DOES NOT PROVE,NOT TRUE",
   "22AE DOES NOT FORCE,NEGATED DOUBLE VERTICAL BAR DOUBLE RIGHT TURNSTILE",
   "22B0 PRECEDES UNDER RELATION,SUCCEEDSb,NORMAL SUBGROUP OF,CONTAINS AS NORMAL SUBGROUP",
   "22B4 NORMAL SUBGROUP OF OR EQUAL TO,CONTAINS AS NORMAL SUBGROUPc,ORIGINAL OF,IMAGEa,MULTIMAP",
   "22B9 HERMITIAN CONJUGATE MATRIX,INTERCALATE,XOR,NAND,NOR,RIGHT ANGLE WITH ARC,aTRIANGLE",
   "22C0 N-ARY LOGICAL AND,bOR,aINTERSECTION,aUNION,DIAMOND OPERATOR,DOTa,STARa,DIVISION TIMES",
   "22C8 BOWTIE,LEFT NORMAL FACTOR SEMIDIRECT PRODUCT,RIGHTd,LEFTb,RIGHTb,REVERSED TILDE EQUALS",
   "22CE CURLY LOGICAL OR,bAND,DOUBLE SUBSET,aSUPERSET,aINTERSECTION,aUNION,PITCHFORK",
   "22D5 EQUAL AND PARALLEL TO,LESS-THAN WITH DOT,GREATER-THANb,VERY MUCH LESS-THAN,bGREATER-THAN",
   "22DA LESS-THAN EQUAL TO ORa,GREATER-THAN EQUAL TO OR LESS-THAN,EQUALc,cGREATER-THAN,cPRECEDES",
   "22DF cSUCCEEDS,DOES NOT PRECEDE OR EQUAL,bSUCCEEDb,NOT SQUARE IMAGE OF OR EQUAL TO,bORIGINALd",
   "22E4 SQUARE IMAGE OF OR NOTb,aORIGINALe,LESS-THAN BUT NOT EQUIVALENTa,GREATER-THANd,PRECEDESd",
   "22E9 SUCCEEDSd,NOT NORMAL SUBGROUP OF,DOES NOT CONTAIN AS NORMAL SUBGROUP",
   "22EC NOT NORMAL SUBGROUP OF OR EQUAL TO,DOES NOT CONTAIN AS NORMAL SUBGROUP OR EQUAL",
   "22EE VERTICAL ELLIPSIS,MIDLINE HORIZONTALa,UP RIGHT DIAGONALa,DOWNc",
   "22F2 ELEMENT OF WITH LONG HORIZONTAL STROKE,cVERTICAL BAR AT END OFb,SMALLj",
   "22F5 ELEMENT OF WITH DOT ABOVE,cOVERBAR,SMALLd,ELEMENT OF WITH UNDERBAR",
   "22F9 cTWO HORIZONTAL STROKES,CONTAINS WITH LONG HORIZONTAL STROKE,bVERTICAL BAR AT END OFb",
   "22FC SMALLi,CONTAINS WITH OVERBAR,SMALLc,Z NOTATION BAG MEMBERSHIP,DIAMETER SIGN",
   "2301 ELECTRIC ARROW,HOUSE,UP ARROWHEAD,DOWNa,PROJECTIVE,PERSPECTIVE,WAVY LINE,LEFT CEILING",
   "2309 RIGHTa,LEFT FLOOR,RIGHTa,BOTTOM RIGHT CROP,aLEFTa,TOP RIGHTa,aLEFTa,REVERSED NOT SIGN",
   "2311 SQUARE LOZENGE,ARC,SEGMENT,SECTOR,TELEPHONE RECORDER,POSITION INDICATOR,VIEWDATA SQUARE",
   "2318 PLACE OF INTEREST SIGN,TURNED NOTa,WATCH,HOURGLASS,TOP LEFT CORNER,aRIGHTa,BOTTOM LEFTa",
   "231F aRIGHTa,TOP HALF INTEGRAL,BOTTOMb,FROWN,SMILE,UP ARROWHEAD BETWEEN TWO HORIZONTAL BARS",
   "2325 OPTION KEY,ERASE TO THE RIGHT,X IN A RECTANGLE BOX,KEYBOARD,LEFT-POINTING ANGLE BRACKET",
   "232A RIGHT-POINTINGb,ERASE TO THE LEFT,BENZENE RING,CYLINDRICITY,ALL AROUND-PROFILE,SYMMETRY",
   "2330 TOTAL RUNOUT,DIMENSION ORIGIN,CONICAL TAPER,SLOPE,COUNTERBORE,COUNTERSINK",
   "2336 APL FUNCTIONAL SYMBOL I-BEAM,cSQUISH QUAD,cQUAD EQUAL,dDIVIDE,dDIAMOND,dJOT,dCIRCLE",
   "233D cCIRCLE STILE,dJOT,cSLASH BAR,cBACKSLASHa,cQUAD SLASH,dBACKSLASH,dLESS-THAN",
   "2344 dGREATER-THAN,cLEFTWARDS VANE,cRIGHTWARDSa,cQUAD LEFTWARDS ARROW,dRIGHTWARDSa",
   "2349 cCIRCLE BACKSLASH,cDOWN TACK UNDERBAR,cDELTA STILE,cQUAD DOWN CARET,dDELTA",
   "234E cDOWN TACK JOT,cUPWARDS VANE,cQUAD UPWARDS ARROW,cUP TACK OVERBAR,cDEL STILE",
   "2353 cQUAD UP CARET,dDEL,cUP TACK JOT,cDOWNWARDS VANE,cQUAD DOWNWARDS ARROW,cQUOTE UNDERBAR",
   "2359 cDELTAa,cDIAMONDa,cJOTa,cCIRCLEa,cUP SHOE JOT,cQUOTE QUAD,cCIRCLE STAR,cQUAD COLON",
   "2361 cUP TACK DIAERESIS,cDELa,cSTARa,cJOTa,cCIRCLEa,cDOWN SHOE STILE,cLEFTb,cTILDE DIAERESIS",
   "2369 cGREATER-THANa,cCOMMA BAR,cDEL TILDE,cZILDE,cSTILE TILDE,cSEMICOLON UNDERBAR",
   "236F cQUAD NOT EQUAL,dQUESTION,cDOWN CARET TILDE,cUPb,cIOTA,cRHO,cOMEGA,cALPHA UNDERBAR",
   "2377 cEPSILONa,cIOTAa,cOMEGAa,cALPHA,NOT CHECK MARK,RIGHT ANGLE WITH DOWNWARDS ZIGZAG ARROW",
   "237D SHOULDERED OPEN BOX,BELL SYMBOL,VERTICAL LINE WITH MIDDLE DOT,INSERTION SYMBOL",
   "2381 CONTINUOUS UNDERLINEa,DISCONTINUOUSb,EMPHASISa,COMPOSITIONa",
   "2385 WHITE SQUARE WITH CENTRE VERTICAL LINE,ENTER SYMBOL,ALTERNATIVE KEYa,HELMa",
   "2389 CIRCLED HORIZONTAL BAR WITH NOTCH,aTRIANGLE DOWN,BROKEN CIRCLE WITH NORTHWEST ARROW",
   "238C UNDO SYMBOL,MONOSTABLEa,HYSTERESISa,OPEN-CIRCUIT-OUTPUT H-TYPEa,aL-TYPEa",
   "2391 PASSIVE-PULL-DOWN-OUTPUTa,PASSIVE-PULL-UP-OUTPUTa,DIRECT CURRENT SYMBOL FORM TWO",
   "2394 SOFTWARE-FUNCTION SYMBOL,APL FUNCTIONAL SYMBOL QUAD,DECIMAL SEPARATOR KEY SYMBOL",
   "2397 PREVIOUS PAGE,NEXTa,PRINT SCREEN SYMBOL,CLEARb,LEFT PARENTHESIS UPPER HOOK,bEXTENSION",
   "239D bLOWER HOOK,RIGHT PARENTHESIS UPPERa,bEXTENSION,bLOWER HOOK",
   "23A1 LEFT SQUARE BRACKET UPPER CORNER,cEXTENSION,cLOWER CORNER,RIGHT SQUARE BRACKET UPPERa",
   "23A5 cEXTENSION,cLOWER CORNER,LEFT CURLY BRACKET UPPER HOOK,cMIDDLE PIECE,cLOWER HOOK",
   "23AA CURLY BRACKET EXTENSION,RIGHT CURLY BRACKET UPPER HOOK,cMIDDLE PIECE,cLOWER HOOK",
   "23AE INTEGRAL EXTENSION,HORIZONTAL LINEa,UPPER LEFT OR LOWER RIGHT CURLY BRACKET SECTION",
   "23B1 aRIGHT OR LOWER LEFTc,SUMMATION TOP,aBOTTOM,TOP SQUARE BRACKET,BOTTOMb",
   "23B6 cOVER TOP SQUARE BRACKET,RADICAL SYMBOL BOTTOM,LEFT VERTICAL BOX LINE,RIGHTc",
   "23BA HORIZONTAL SCAN LINE-1,bLINE-3,bLINE-7,bLINE-9",
   "23BE DENTISTRY SYMBOL LIGHT VERTICAL AND TOP RIGHT,eBOTTOMa,dWITH CIRCLE",
   "23C1 cDOWN AND HORIZONTALb,cUPd,cVERTICAL WITH TRIANGLE,cDOWN AND HORIZONTALb,cUPd",
   "23C6 cVERTICAL AND WAVE,cDOWN AND HORIZONTAL WITHa,cUPd,cDOWN AND HORIZONTAL,cUPb",
   "23CB cVERTICAL AND TOP LEFT,eBOTTOMa,SQUARE FOOT,RETURN SYMBOL,EJECTa,VERTICAL LINE EXTENSION",
   "23D1 METRICAL BREVE,aLONG OVER SHORT,aSHORT OVER LONG,aLONG OVER TWO SHORTS",
   "23D5 aTWO SHORTS OVER LONG,cJOINED,aTRISEME,aTETRASEME,aPENTASEME,EARTH GROUND,FUSE",
   "23DC TOP PARENTHESIS,BOTTOMa,TOP CURLY BRACKET,BOTTOMb,TOP TORTOISE SHELLa,BOTTOMc",
   "23E2 WHITE TRAPEZIUM,BENZENE RING WITH CIRCLE,STRAIGHTNESS,FLATNESS,AC CURRENT",
   "23E7 ELECTRICAL INTERSECTION,DECIMAL EXPONENT SYMBOL,BLACK RIGHT-POINTING DOUBLE TRIANGLE",
   "23EA aLEFT-POINTINGb,aUP-POINTINGb,aDOWN-POINTINGb",
   "23ED aRIGHT-POINTING DOUBLE TRIANGLE WITH VERTICAL BAR,aLEFT-POINTINGe",
   "23EF aRIGHT-POINTING TRIANGLE WITH DOUBLEb,ALARM CLOCK,STOPWATCH,TIMER CLOCK",
   "23F3 HOURGLASS WITH FLOWING SAND,BLACK MEDIUM LEFT-POINTING TRIANGLE,bRIGHT-POINTINGa",
   "23F6 bUP-POINTINGa,bDOWN-POINTINGa,DOUBLE VERTICAL BAR,BLACK SQUARE FOR STOP",
   "23FA aCIRCLE FOR RECORD,POWER SYMBOL,aON-OFFa,aONa,aSLEEPa,OBSERVER EYEa,SYMBOL FOR NULL",
   "2401 bSTART OF HEADING,dTEXT,bENDb,dTRANSMISSION,bENQUIRY,bACKNOWLEDGE,bBELL,bBACKSPACE",
   "2409 bHORIZONTAL TABULATION,bLINE FEED,bVERTICAL TABULATION,bFORM FEED,bCARRIAGE RETURN",
   "240E bSHIFT OUT,cIN,bDATA LINK ESCAPE,bDEVICE CONTROL ONE,dTWO,dTHREE,dFOUR",
   "2415 bNEGATIVE ACKNOWLEDGE,bSYNCHRONOUS IDLE,bEND OF TRANSMISSION BLOCK,bCANCEL",
   "2419 bEND OF MEDIUM,bSUBSTITUTE,bESCAPE,bFILE SEPARATOR,bGROUPa,bRECORDa,bUNITa,bSPACE",
   "2421 bDELETE,BLANK SYMBOL,OPEN BOX,SYMBOL FOR NEWLINE,bDELETE FORM TWO,bSUBSTITUTEb",
   "2440 OCR HOOK,aCHAIR,aFORK,aINVERTEDa,aBELT BUCKLE,aBOW TIE,aBRANCH BANK IDENTIFICATION",
   "2447 aAMOUNT OF CHECK,aDASH,aCUSTOMER ACCOUNT NUMBER,aDOUBLE BACKSLASH",
   "2460 CIRCLED DIGIT ONE,bTWO,bTHREE,bFOUR,bFIVE,bSIX,bSEVEN,bEIGHT,bNINE,aNUMBER TEN,bELEVEN",
   "246B bTWELVE,bTHIRTEEN,bFOURTEEN,bFIFTEEN,bSIXTEEN,bSEVENTEEN,bEIGHTEEN,bNINETEEN,bTWENTY",
   "2474 PARENTHESIZED DIGIT ONE,bTWO,bTHREE,bFOUR,bFIVE,bSIX,bSEVEN,bEIGHT,bNINE,aNUMBER TEN",
   "247E bELEVEN,bTWELVE,bTHIRTEEN,bFOURTEEN,bFIFTEEN,bSIXTEEN,bSEVENTEEN,bEIGHTEEN,bNINETEEN",
   "2487 bTWENTY,DIGIT ONE FULL STOP,aTWOb,aTHREEb,aFOURb,aFIVEb,aSIXb,aSEVENb,aEIGHTb,aNINEb",
   "2491 NUMBER TENb,aELEVENb,aTWELVEb,aTHIRTEENb,aFOURTEENb,aFIFTEENb,aSIXTEENb,aSEVENTEENb",
   "2499 aEIGHTEENb,aNINETEENb,aTWENTYb,PARENTHESIZED LATIN SMALL LETTER A,dB,dC,dD,dE,dF,dG,dH",
   "24A4 dI,dJ,dK,dL,dM,dN,dO,dP,dQ,dR,dS,dT,dU,dV,dW,dX,dY,dZ,CIRCLED LATIN CAPITAL LETTER A,dB",
   "24B8 dC,dD,dE,dF,dG,dH,dI,dJ,dK,dL,dM,dN,dO,dP,dQ,dR,dS,dT,dU,dV,dW,dX,dY,dZ,bSMALL LETTER A",
   "24D1 dB,dC,dD,dE,dF,dG,dH,dI,dJ,dK,dL,dM,dN,dO,dP,dQ,dR,dS,dT,dU,dV,dW,dX,dY,dZ,aDIGIT ZERO",
   "24EB NEGATIVE CIRCLED NUMBER ELEVEN,cTWELVE,cTHIRTEEN,cFOURTEEN,cFIFTEEN,cSIXTEEN,cSEVENTEEN",
   "24F2 cEIGHTEEN,cNINETEEN,cTWENTY,DOUBLE CIRCLED DIGIT ONE,cTWO,cTHREE,cFOUR,cFIVE,cSIX,cSEVEN",
   "24FC cEIGHT,cNINE,bNUMBER TEN,NEGATIVE CIRCLED DIGIT ZERO,BOX DRAWINGS LIGHT HORIZONTAL",
   "2501 bHEAVYa,bLIGHT VERTICAL,bHEAVYa,bLIGHT TRIPLE DASH HORIZONTAL,bHEAVYc",
   "2506 bLIGHT TRIPLE DASH VERTICAL,bHEAVYc,bLIGHT QUADRUPLE DASH HORIZONTAL,bHEAVYc",
   "250A bLIGHT QUADRUPLE DASH VERTICAL,bHEAVYc,bLIGHT DOWN AND RIGHT,bDOWN LIGHT AND RIGHT HEAVY",
   "250E cHEAVY AND RIGHT LIGHT,bHEAVY DOWN AND RIGHT,bLIGHT DOWN AND LEFT",
   "2511 bDOWN LIGHT AND LEFT HEAVY,cHEAVY AND LEFT LIGHT,bHEAVY DOWN AND LEFT",
   "2514 bLIGHT UP AND RIGHT,bUP LIGHT AND RIGHT HEAVY,cHEAVY AND RIGHT LIGHT,bHEAVY UP AND RIGHT",
   "2518 bLIGHT UP AND LEFT,bUP LIGHT AND LEFT HEAVY,cHEAVY AND LEFT LIGHT,bHEAVY UP AND LEFT",
   "251C bLIGHT VERTICAL AND RIGHT,bVERTICAL LIGHT AND RIGHT HEAVY,bUP HEAVY AND RIGHT DOWN LIGHT",
   "251F bDOWN HEAVY AND RIGHT UPa,bVERTICAL HEAVY AND RIGHTa,bDOWN LIGHT AND RIGHT UP HEAVY",
   "2522 bUP LIGHT AND RIGHT DOWNa,bHEAVY VERTICAL AND RIGHT,bLIGHT VERTICAL AND LEFT",
   "2525 bVERTICAL LIGHT AND LEFT HEAVY,bUP HEAVY AND LEFT DOWN LIGHT,bDOWN HEAVY AND LEFT UPa",
   "2528 bVERTICAL HEAVY AND LEFTa,bDOWN LIGHT AND LEFT UP HEAVY,bUP LIGHT AND LEFT DOWNa",
   "252B bHEAVY VERTICAL AND LEFT,bLIGHT DOWN AND HORIZONTAL,bLEFT HEAVY AND RIGHT DOWN LIGHT",
   "252E bRIGHT HEAVY AND LEFTb,bDOWN LIGHT AND HORIZONTAL HEAVY,cHEAVY AND HORIZONTAL LIGHT",
   "2531 bRIGHT LIGHT AND LEFT DOWN HEAVY,bLEFT LIGHT AND RIGHTb,bHEAVY DOWN AND HORIZONTAL",
   "2534 bLIGHT UPb,bLEFT HEAVY AND RIGHT UP LIGHT,bRIGHT HEAVY AND LEFTb",
   "2537 bUP LIGHT AND HORIZONTAL HEAVY,cHEAVY AND HORIZONTAL LIGHT",
   "2539 bRIGHT LIGHT AND LEFT UP HEAVY,bLEFT LIGHT AND RIGHTb,bHEAVY UP AND HORIZONTAL",
   "253C bLIGHT VERTICALb,bLEFT HEAVY AND RIGHT VERTICAL LIGHT,bRIGHT HEAVY AND LEFTb",
   "253F bVERTICAL LIGHT AND HORIZONTAL HEAVY,bUP HEAVY AND DOWN HORIZONTAL LIGHT",
   "2541 bDOWN HEAVY AND UPb,bVERTICAL HEAVY ANDb,bLEFT UP HEAVY AND RIGHT DOWNa",
   "2544 bRIGHT UP HEAVY AND LEFTb,bLEFT DOWN HEAVY AND RIGHT UPa,bRIGHT DOWN HEAVY AND LEFTb",
   "2547 bDOWN LIGHT AND UP HORIZONTAL HEAVY,bUP LIGHT AND DOWNb,bRIGHT LIGHT AND LEFT VERTICALa",
   "254A bLEFT LIGHT AND RIGHTb,bHEAVY VERTICAL AND HORIZONTAL,bLIGHT DOUBLE DASHa,bHEAVYc",
   "254E bLIGHT DOUBLE DASH VERTICAL,bHEAVYc,bDOUBLE HORIZONTAL,cVERTICAL",
   "2552 bDOWN SINGLE AND RIGHT DOUBLE,cDOUBLE AND RIGHT SINGLE,bDOUBLE DOWN AND RIGHT",
   "2555 bDOWN SINGLE AND LEFT DOUBLE,cDOUBLE AND LEFT SINGLE,bDOUBLE DOWN AND LEFT",
   "2558 bUP SINGLE AND RIGHT DOUBLE,cDOUBLE AND RIGHT SINGLE,bDOUBLE UP AND RIGHT",
   "255B bUP SINGLE AND LEFT DOUBLE,cDOUBLE AND LEFT SINGLE,bDOUBLE UP AND LEFT",
   "255E bVERTICAL SINGLE AND RIGHT DOUBLE,cDOUBLE AND RIGHT SINGLE,bDOUBLE VERTICAL AND RIGHT",
   "2561 bVERTICAL SINGLE AND LEFT DOUBLE,cDOUBLE AND LEFT SINGLE,bDOUBLE VERTICAL AND LEFT",
   "2564 bDOWN SINGLE AND HORIZONTAL DOUBLE,cDOUBLE AND HORIZONTAL SINGLE",
   "2566 bDOUBLE DOWN AND HORIZONTAL,bUP SINGLE AND HORIZONTAL DOUBLE",
   "2568 cDOUBLE AND HORIZONTAL SINGLE,bDOUBLE UP AND HORIZONTAL",
   "256A bVERTICAL SINGLE AND HORIZONTAL DOUBLE,cDOUBLE AND HORIZONTAL SINGLE",
   "256C bDOUBLE VERTICAL AND HORIZONTAL,bLIGHT ARC DOWN AND RIGHT,fLEFT,dUPb,fRIGHT",
   "2571 cDIAGONAL UPPER RIGHT TO LOWER LEFT,eLEFT TO LOWER RIGHT,dCROSS,cLEFT,cUP,cRIGHT,cDOWN",
   "2578 bHEAVY LEFT,cUP,cRIGHT,cDOWN,bLIGHT LEFT AND HEAVY RIGHT,cUP AND HEAVY DOWN",
   "257E bHEAVY LEFT AND LIGHT RIGHT,cUP AND LIGHT DOWN,UPPER HALF BLOCK,LOWER ONE EIGHTHa",
   "2582 bQUARTERa,aTHREE EIGHTHSa,aHALFa,aFIVE EIGHTHSa,aTHREE QUARTERSa,aSEVEN EIGHTHSa,FULLa",
   "2589 LEFT SEVEN EIGHTHSa,aTHREE QUARTERSa,aFIVE EIGHTHSa,aHALFa,aTHREE EIGHTHSa,aONE QUARTERa",
   "258F bEIGHTHa,RIGHT HALFa,LIGHT SHADE,MEDIUMa,DARKa,UPPER ONE EIGHTH BLOCK,RIGHTc",
   "2596 QUADRANT LOWER LEFT,bRIGHT,aUPPER LEFT,cAND LOWER LEFT AND LOWER RIGHT,eRIGHT",
   "259B dUPPER RIGHT AND LOWER LEFT,hRIGHT,bRIGHT,cAND LOWER LEFT,fAND LOWER RIGHT,BLACK SQUARE",
   "25A1 WHITEa,bWITH ROUNDED CORNERS,bCONTAINING BLACK SMALL SQUARE,SQUARE WITH HORIZONTAL FILL",
   "25A5 bVERTICALa,bORTHOGONAL CROSSHATCHa,bUPPER LEFT TO LOWER RIGHTa,cRIGHT TO LOWER LEFTa",
   "25A9 bDIAGONAL CROSSHATCHa,BLACK SMALL SQUARE,WHITEb,BLACK RECTANGLE,WHITEa,BLACK VERTICALa",
   "25AF WHITEb,BLACK PARALLELOGRAM,WHITEa,BLACK UP-POINTING TRIANGLE,WHITEb",
   "25B4 BLACK UP-POINTING SMALLa,WHITEc,BLACK RIGHT-POINTINGa,WHITEb,BLACK RIGHT-POINTING SMALLa",
   "25B9 WHITEc,BLACK RIGHT-POINTING POINTER,WHITEb,BLACK DOWN-POINTING TRIANGLE,WHITEb",
   "25BE BLACK DOWN-POINTING SMALLa,WHITEc,BLACK LEFT-POINTINGa,WHITEb,BLACK LEFT-POINTING SMALLa",
   "25C3 WHITEc,BLACK LEFT-POINTING POINTER,WHITEb,BLACK DIAMOND,WHITEa",
   "25C8 bCONTAINING BLACK SMALL DIAMOND,FISHEYE,LOZENGE,WHITE CIRCLE,DOTTEDa",
   "25CD CIRCLE WITH VERTICAL FILL,BULLSEYE,BLACK CIRCLE,CIRCLE WITH LEFT HALF BLACK,bRIGHTb",
   "25D2 bLOWERb,bUPPERb,cRIGHT QUADRANTa,bALL BUT UPPER LEFTb,LEFT HALF BLACK CIRCLE,RIGHTc",
   "25D8 INVERSE BULLET,aWHITE CIRCLE,UPPER HALFc,LOWERd,UPPER LEFT QUADRANT CIRCULAR ARC,aRIGHTc",
   "25DE LOWERd,aLEFTc,UPPER HALF CIRCLE,LOWERb,BLACK LOWER RIGHT TRIANGLE,bLEFTa,aUPPERb,bRIGHTa",
   "25E6 WHITE BULLET,SQUARE WITH LEFT HALF BLACK,bRIGHTb,bUPPER LEFT DIAGONALb,bLOWER RIGHTc",
   "25EB WHITE SQUARE WITH VERTICAL BISECTING LINE,aUP-POINTING TRIANGLE WITH DOT",
   "25ED UP-POINTING TRIANGLE WITH LEFT HALF BLACK,cRIGHTb,LARGE CIRCLE",
   "25F0 WHITE SQUARE WITH UPPER LEFT QUADRANT,cLOWERb,dRIGHTa,cUPPERb,aCIRCLE WITH UPPER LEFTa",
   "25F5 cLOWERb,dRIGHTa,cUPPERb,UPPER LEFT TRIANGLE,aRIGHTa,LOWER LEFTa,WHITE MEDIUM SQUARE",
   "25FC BLACKb,WHITE MEDIUM SMALLa,BLACKc,LOWER RIGHT TRIANGLE,BLACK SUN WITH RAYS,CLOUD",
   "2602 UMBRELLA,SNOWMAN,COMET,BLACK STAR,WHITEa,LIGHTNING,THUNDERSTORM,SUN,ASCENDING NODE",
   "260B DESCENDINGa,CONJUNCTION,OPPOSITION,BLACK TELEPHONE,WHITEa,BALLOT BOX,bWITH CHECK,cX",
   "2613 SALTIRE,UMBRELLA WITH RAIN DROPS,HOT BEVERAGE,WHITE SHOGI PIECE,BLACKb,SHAMROCK",
   "2619 REVERSED ROTATED FLORAL HEART BULLET,BLACK LEFT POINTING INDEX,aRIGHTb,WHITE LEFTb,aUPb",
   "261E aRIGHTb,aDOWNb,SKULL AND CROSSBONES,CAUTION SIGN,RADIOACTIVEa,BIOHAZARDa,CADUCEUS,ANKH",
   "2626 ORTHODOX CROSS,CHI RHO,CROSS OF LORRAINE,bJERUSALEM,STAR AND CRESCENT,FARSI SYMBOL",
   "262C ADI SHAKTI,HAMMER AND SICKLE,PEACE SYMBOL,YIN YANG,TRIGRAM FOR HEAVEN,bLAKE,bFIRE",
   "2633 bTHUNDER,bWIND,bWATER,bMOUNTAIN,bEARTH,WHEEL OF DHARMA,WHITE FROWNING FACE,aSMILINGa",
   "263B BLACKb,WHITE SUN WITH RAYS,FIRST QUARTER MOON,LASTb,MERCURY,FEMALE SIGN,EARTH,MALE SIGN",
   "2643 JUPITER,SATURN,URANUS,NEPTUNE,PLUTO,ARIES,TAURUS,GEMINI,CANCER,LEO,VIRGO,LIBRA,SCORPIUS",
   "2650 SAGITTARIUS,CAPRICORN,AQUARIUS,PISCES,WHITE CHESS KING,bQUEEN,bROOK,bBISHOP,bKNIGHT",
   "2659 bPAWN,BLACK CHESS KING,bQUEEN,bROOK,bBISHOP,bKNIGHT,bPAWN,aSPADE SUIT,WHITE HEARTa",
   "2662 aDIAMONDa,BLACK CLUBa,WHITE SPADEa,BLACK HEARTa,aDIAMONDa,WHITE CLUBa,HOT SPRINGS",
   "2669 QUARTER NOTE,EIGHTHa,BEAMED EIGHTH NOTES,aSIXTEENTHa,MUSIC FLAT SIGN,aNATURALa,aSHARPa",
   "2670 WEST SYRIAC CROSS,EASTb,UNIVERSAL RECYCLING SYMBOL,RECYCLING SYMBOL FOR TYPE-1 PLASTICS",
   "2674 cTYPE-2a,cTYPE-3a,cTYPE-4a,cTYPE-5a,cTYPE-6a,cTYPE-7a,cGENERIC MATERIALS",
   "267B BLACK UNIVERSAL RECYCLING SYMBOL,RECYCLED PAPERa,PARTIALLY-RECYCLEDb",
   "267E PERMANENT PAPER SIGN,WHEELCHAIR SYMBOL,DIE FACE-1,aFACE-2,aFACE-3,aFACE-4,aFACE-5",
   "2685 aFACE-6,WHITE CIRCLE WITH DOT RIGHT,cTWO DOTS,BLACK CIRCLE WITH WHITE DOT RIGHT",
   "2689 cTWO WHITE DOTS,MONOGRAM FOR YANG,bYIN,DIGRAM FOR GREATER YANG,bLESSER YIN,cYANG",
   "268F bGREATER YIN,WHITE FLAG,BLACKa,HAMMER AND PICK,ANCHOR,CROSSED SWORDS",
   "2695 STAFF OF AESCULAPIUS,SCALES,ALEMBIC,FLOWER,GEAR,STAFF OF HERMES,ATOM SYMBOL,FLEUR-DE-LIS",
   "269D OUTLINED WHITE STAR,THREE LINES CONVERGING RIGHT,cLEFT,WARNING SIGN,HIGH VOLTAGEa",
   "26A2 DOUBLED FEMALEa,aMALEa,INTERLOCKED FEMALE ANDb,MALE AND FEMALEa,aWITH STROKEa",
   "26A7 cAND MALE AND FEMALEa,VERTICAL MALE WITH STROKEa,HORIZONTALd,MEDIUM WHITE CIRCLE,aBLACKa",
   "26AC aSMALL WHITEa,MARRIAGE SYMBOL,DIVORCEa,UNMARRIED PARTNERSHIPa,COFFIN,FUNERAL URN,NEUTER",
   "26B3 CERES,PALLAS,JUNO,VESTA,CHIRON,BLACK MOON LILITH,SEXTILE,SEMISEXTILE,QUINCUNX",
   "26BC SESQUIQUADRATE,SOCCER BALL,BASEBALL,SQUARED KEY,WHITE DRAUGHTS MAN,bKING",
   "26C2 BLACK DRAUGHTS MAN,bKING,SNOWMAN WITHOUT SNOW,SUN BEHIND CLOUD,RAIN,BLACK SNOWMAN",
   "26C8 THUNDER CLOUD AND RAIN,TURNED WHITE SHOGI PIECE,aBLACKb,WHITE DIAMOND IN SQUARE",
   "26CC CROSSING LANES,DISABLED CAR,OPHIUCHUS,PICK,CAR SLIDING,HELMET WITH WHITE CROSS",
   "26D2 CIRCLED CROSSING LANES,CHAINS,NO ENTRY,ALTERNATE ONE-WAY LEFT WAY TRAFFIC,BLACK TWO-WAYc",
   "26D7 WHITEd,BLACK LEFT LANE MERGE,WHITEc,DRIVE SLOW SIGN,HEAVY WHITE DOWN-POINTING TRIANGLE",
   "26DC LEFT CLOSED ENTRY,SQUARED SALTIRE,FALLING DIAGONAL IN WHITE CIRCLE IN BLACK SQUARE",
   "26DF BLACK TRUCK,RESTRICTED LEFT ENTRY-1,bENTRY-2,ASTRONOMICAL SYMBOL FOR URANUS",
   "26E3 HEAVY CIRCLE WITH STROKE AND TWO DOTS ABOVE,PENTAGRAM,RIGHT-HANDED INTERLACEDa",
   "26E6 LEFT-HANDEDb,INVERTEDa,BLACK CROSS ON SHIELD,SHINTO SHRINE,CHURCH,CASTLE,HISTORIC SITE",
   "26ED GEAR WITHOUT HUB,aWITH HANDLES,MAP SYMBOL FOR LIGHTHOUSE,MOUNTAIN,UMBRELLA ON GROUND",
   "26F2 FOUNTAIN,FLAG IN HOLE,FERRY,SAILBOAT,SQUARE FOUR CORNERS,SKIER,ICE SKATE",
   "26F9 PERSON WITH BALL,TENT,JAPANESE BANK SYMBOL,HEADSTONE GRAVEYARDa,FUEL PUMP",
   "26FE CUP ON BLACK SQUARE,WHITE FLAG WITH HORIZONTAL MIDDLE BLACK STRIPE,BLACK SAFETY SCISSORS",
   "2701 UPPER BLADEa,BLACKa,LOWER BLADEa,WHITEa,aHEAVY CHECK MARK,TELEPHONE LOCATION SIGN",
   "2707 TAPE DRIVE,AIRPLANE,ENVELOPE,RAISED FIST,aHAND,VICTORYa,WRITINGa,LOWER RIGHT PENCIL",
   "270F PENCIL,UPPER RIGHTa,WHITE NIB,BLACKa,CHECK MARK,HEAVYb,MULTIPLICATION X,HEAVYb,BALLOTa",
   "2718 HEAVYb,OUTLINED GREEK CROSS,HEAVYb,OPEN CENTREa,HEAVYc,LATINa,SHADOWED WHITEb,OUTLINEDb",
   "2720 MALTESEa,STAR OF DAVID,FOUR TEARDROP-SPOKED ASTERISK,aBALLOON-SPOKEDa,HEAVYc",
   "2725 FOUR CLUB-SPOKEDa,BLACK FOUR POINTED STAR,WHITEc,SPARKLES,STRESS OUTLINED WHITE STAR",
   "272A CIRCLEDb,OPEN CENTRE BLACKa,BLACK CENTRE WHITEa,OUTLINED BLACKa,HEAVYc,PINWHEELa",
   "2730 SHADOWED WHITEa,HEAVY ASTERISK,OPEN CENTREa,EIGHT SPOKEDa,aPOINTED BLACK STAR,bPINWHEELa",
   "2736 SIX POINTED BLACKa,EIGHT POINTED RECTILINEARb,HEAVYe,TWELVE POINTEDb",
   "273A SIXTEEN POINTED ASTERISK,TEARDROP-SPOKEDa,OPEN CENTREb,HEAVYb",
   "273E SIX PETALLED BLACK AND WHITE FLORETTE,BLACKa,WHITEa,EIGHT PETALLED OUTLINED BLACKa",
   "2742 CIRCLED OPEN CENTRE EIGHT POINTED STAR,HEAVY TEARDROP-SPOKED PINWHEEL ASTERISK,SNOWFLAKE",
   "2745 TIGHT TRIFOLIATEa,HEAVY CHEVRONa,SPARKLE,HEAVYa,BALLOON-SPOKED ASTERISK",
   "274A EIGHT TEARDROP-SPOKED PROPELLERa,HEAVYd,CROSS MARK,SHADOWED WHITE CIRCLE",
   "274E NEGATIVE SQUARED CROSS MARK,LOWER RIGHT DROP-SHADOWED WHITE SQUARE,UPPERd",
   "2751 LOWER RIGHT SHADOWEDb,UPPERd,BLACK QUESTION MARK ORNAMENT,WHITEc,aEXCLAMATIONb",
   "2756 BLACK DIAMOND MINUS WHITE X,HEAVY EXCLAMATION MARK SYMBOL,LIGHT VERTICAL BAR,MEDIUMb",
   "275A HEAVYb,aSINGLE TURNED COMMA QUOTATION MARK ORNAMENT,bCOMMAc,aDOUBLE TURNEDd,bCOMMAc",
   "275F aLOW SINGLEd,bDOUBLEd,CURVED STEM PARAGRAPH SIGNa,HEAVY EXCLAMATION MARKa,aHEARTc",
   "2764 aBLACK HEART,ROTATED HEAVY BLACK HEART BULLET,FLORAL HEART,ROTATED FLORAL HEART BULLET",
   "2768 MEDIUM LEFT PARENTHESIS ORNAMENT,aRIGHTb,aFLATTENED LEFTb,bRIGHTb",
   "276C aLEFT-POINTING ANGLE BRACKETa,aRIGHT-POINTINGc,HEAVY LEFT-POINTING ANGLE QUOTATION MARKa",
   "276F aRIGHT-POINTINGd,aLEFT-POINTING ANGLE BRACKETa,aRIGHT-POINTINGc",
   "2772 LIGHT LEFT TORTOISE SHELLb,aRIGHTd,MEDIUM LEFT CURLYb,aRIGHTc",
   "2776 DINGBAT NEGATIVE CIRCLED DIGIT ONE,dTWO,dTHREE,dFOUR,dFIVE,dSIX,dSEVEN,dEIGHT,dNINE",
   "277F cNUMBER TEN,aCIRCLED SANS-SERIF DIGIT ONE,dTWO,dTHREE,dFOUR,dFIVE,dSIX,dSEVEN,dEIGHT",
   "2788 dNINE,cNUMBER TEN,aNEGATIVE CIRCLED SANS-SERIF DIGIT ONE,eTWO,eTHREE,eFOUR,eFIVE,eSIX",
   "2790 eSEVEN,eEIGHT,eNINE,dNUMBER TEN,HEAVY WIDE-HEADED RIGHTWARDS ARROW,aPLUS SIGN,aMINUSa",
   "2797 aDIVISIONa,aSOUTH EAST ARROW,aRIGHTWARDSa,aNORTH EASTa,DRAFTING POINT RIGHTWARDSa",
   "279C HEAVY ROUND-TIPPEDb,TRIANGLE-HEADEDb,HEAVYc,DASHEDc,HEAVYd,BLACKb",
   "27A2 THREE-D TOP-LIGHTED RIGHTWARDS ARROWHEAD,aBOTTOM-LIGHTEDb,BLACKb",
   "27A5 HEAVY BLACK CURVED DOWNWARDS AND RIGHTWARDS ARROW,cUPWARDSc,SQUAT BLACKb",
   "27A8 HEAVY CONCAVE-POINTEDc,RIGHT-SHADED WHITEb,LEFT-SHADEDc,BACK-TILTED SHADOWEDc",
   "27AC FRONT-TILTEDd,HEAVY LOWER RIGHT-SHADOWEDc,aUPPERd,NOTCHED LOWERd,CURLY LOOP",
   "27B1 NOTCHED UPPER RIGHT-SHADOWED WHITE RIGHTWARDS ARROW,CIRCLED HEAVYc,WHITE-FEATHEREDb",
   "27B4 BLACK-FEATHERED SOUTH EASTa,aRIGHTWARDSa,aNORTH EASTa,HEAVY BLACK-FEATHERED SOUTHb",
   "27B8 bRIGHTWARDSa,bNORTH EASTa,TEARDROP-BARBED RIGHTWARDSa,HEAVY TEARDROP-SHANKEDb",
   "27BC WEDGE-TAILEDb,HEAVYc,OPEN-OUTLINEDb,DOUBLE CURLY LOOP,THREE DIMENSIONAL ANGLE",
   "27C1 WHITE TRIANGLE CONTAINING SMALL WHITE TRIANGLE,PERPENDICULAR,OPEN SUBSET,aSUPERSET",
   "27C5 LEFT S-SHAPED BAG DELIMITER,RIGHTc,OR WITH DOT INSIDE,REVERSE SOLIDUS PRECEDING SUBSET",
   "27C9 SUPERSET PRECEDING SOLIDUS,VERTICAL BAR WITH HORIZONTAL STROKE",
   "27CB MATHEMATICAL RISING DIAGONAL,LONG DIVISION,MATHEMATICAL FALLING DIAGONAL",
   "27CE SQUARED LOGICAL AND,bOR,WHITE DIAMOND WITH CENTRED DOT,AND WITHa",
   "27D2 ELEMENT OF OPENING UPWARDS,LOWER RIGHT CORNER WITH DOT,UPPER LEFTc,LEFT OUTER JOIN",
   "27D6 RIGHTb,FULLb,LARGE UP TACK,aDOWNa,LEFT AND RIGHT DOUBLE TURNSTILE,cTACK,aMULTIMAP",
   "27DD LONG RIGHT TACK,aLEFTa,UP TACK WITH CIRCLE ABOVE,LOZENGE DIVIDED BY HORIZONTAL RULE",
   "27E1 WHITE CONCAVE-SIDED DIAMOND,cWITH LEFTWARDS TICK,dRIGHTWARDSa,aSQUARE WITH LEFTWARDSa",
   "27E5 cRIGHTWARDSa,MATHEMATICAL LEFT WHITE SQUARE BRACKET,aRIGHTc,aLEFT ANGLEa,aRIGHTb",
   "27EA aLEFT DOUBLEb,aRIGHTc,aLEFT WHITE TORTOISE SHELLa,aRIGHTd,aLEFT FLATTENED PARENTHESIS",
   "27EF aRIGHTb,UPWARDS QUADRUPLE ARROW,DOWNWARDSb,ANTICLOCKWISE GAPPED CIRCLEa,CLOCKWISEc",
   "27F4 RIGHT ARROW WITH CIRCLED PLUS,LONG LEFTWARDS ARROW,aRIGHTWARDSa,aLEFT RIGHTa",
   "27F8 aLEFTWARDS DOUBLEa,aRIGHTWARDSb,aLEFT RIGHTb,aLEFTWARDS ARROW FROM BAR,aRIGHTWARDSc",
   "27FD aLEFTWARDS DOUBLEc,aRIGHTWARDSd,bSQUIGGLE ARROW,BRAILLE PATTERN BLANK,bDOTS-1,bDOTS-2",
   "2803 bDOTS-12,bDOTS-3,bDOTS-13,bDOTS-23,bDOTS-123,bDOTS-4,bDOTS-14,bDOTS-24,bDOTS-124",
   "280C bDOTS-34,bDOTS-134,bDOTS-234,bDOTS-1234,bDOTS-5,bDOTS-15,bDOTS-25,bDOTS-125,bDOTS-35",
   "2815 bDOTS-135,bDOTS-235,bDOTS-1235,bDOTS-45,bDOTS-145,bDOTS-245,bDOTS-1245,bDOTS-345",
   "281D bDOTS-1345,bDOTS-2345,bDOTS-12345,bDOTS-6,bDOTS-16,bDOTS-26,bDOTS-126,bDOTS-36,bDOTS-136",
   "2826 bDOTS-236,bDOTS-1236,bDOTS-46,bDOTS-146,bDOTS-246,bDOTS-1246,bDOTS-346,bDOTS-1346",
   "282E bDOTS-2346,bDOTS-12346,bDOTS-56,bDOTS-156,bDOTS-256,bDOTS-1256,bDOTS-356,bDOTS-1356",
   "2836 bDOTS-2356,bDOTS-12356,bDOTS-456,bDOTS-1456,bDOTS-2456,bDOTS-12456,bDOTS-3456",
   "283D bDOTS-13456,bDOTS-23456,bDOTS-123456,bDOTS-7,bDOTS-17,bDOTS-27,bDOTS-127,bDOTS-37",
   "2845 bDOTS-137,bDOTS-237,bDOTS-1237,bDOTS-47,bDOTS-147,bDOTS-247,bDOTS-1247,bDOTS-347",
   "284D bDOTS-1347,bDOTS-2347,bDOTS-12347,bDOTS-57,bDOTS-157,bDOTS-257,bDOTS-1257,bDOTS-357",
   "2855 bDOTS-1357,bDOTS-2357,bDOTS-12357,bDOTS-457,bDOTS-1457,bDOTS-2457,bDOTS-12457,bDOTS-3457",
   "285D bDOTS-13457,bDOTS-23457,bDOTS-123457,bDOTS-67,bDOTS-167,bDOTS-267,bDOTS-1267,bDOTS-367",
   "2865 bDOTS-1367,bDOTS-2367,bDOTS-12367,bDOTS-467,bDOTS-1467,bDOTS-2467,bDOTS-12467,bDOTS-3467",
   "286D bDOTS-13467,bDOTS-23467,bDOTS-123467,bDOTS-567,bDOTS-1567,bDOTS-2567,bDOTS-12567",
   "2874 bDOTS-3567,bDOTS-13567,bDOTS-23567,bDOTS-123567,bDOTS-4567,bDOTS-14567,bDOTS-24567",
   "287B bDOTS-124567,bDOTS-34567,bDOTS-134567,bDOTS-234567,bDOTS-1234567,bDOTS-8,bDOTS-18",
   "2882 bDOTS-28,bDOTS-128,bDOTS-38,bDOTS-138,bDOTS-238,bDOTS-1238,bDOTS-48,bDOTS-148,bDOTS-248",
   "288B bDOTS-1248,bDOTS-348,bDOTS-1348,bDOTS-2348,bDOTS-12348,bDOTS-58,bDOTS-158,bDOTS-258",
   "2893 bDOTS-1258,bDOTS-358,bDOTS-1358,bDOTS-2358,bDOTS-12358,bDOTS-458,bDOTS-1458,bDOTS-2458",
   "289B bDOTS-12458,bDOTS-3458,bDOTS-13458,bDOTS-23458,bDOTS-123458,bDOTS-68,bDOTS-168,bDOTS-268",
   "28A3 bDOTS-1268,bDOTS-368,bDOTS-1368,bDOTS-2368,bDOTS-12368,bDOTS-468,bDOTS-1468,bDOTS-2468",
   "28AB bDOTS-12468,bDOTS-3468,bDOTS-13468,bDOTS-23468,bDOTS-123468,bDOTS-568,bDOTS-1568",
   "28B2 bDOTS-2568,bDOTS-12568,bDOTS-3568,bDOTS-13568,bDOTS-23568,bDOTS-123568,bDOTS-4568",
   "28B9 bDOTS-14568,bDOTS-24568,bDOTS-124568,bDOTS-34568,bDOTS-134568,bDOTS-234568,bDOTS-1234568",
   "28C0 bDOTS-78,bDOTS-178,bDOTS-278,bDOTS-1278,bDOTS-378,bDOTS-1378,bDOTS-2378,bDOTS-12378",
   "28C8 bDOTS-478,bDOTS-1478,bDOTS-2478,bDOTS-12478,bDOTS-3478,bDOTS-13478,bDOTS-23478",
   "28CF bDOTS-123478,bDOTS-578,bDOTS-1578,bDOTS-2578,bDOTS-12578,bDOTS-3578,bDOTS-13578",
   "28D6 bDOTS-23578,bDOTS-123578,bDOTS-4578,bDOTS-14578,bDOTS-24578,bDOTS-124578,bDOTS-34578",
   "28DD bDOTS-134578,bDOTS-234578,bDOTS-1234578,bDOTS-678,bDOTS-1678,bDOTS-2678,bDOTS-12678",
   "28E4 bDOTS-3678,bDOTS-13678,bDOTS-23678,bDOTS-123678,bDOTS-4678,bDOTS-14678,bDOTS-24678",
   "28EB bDOTS-124678,bDOTS-34678,bDOTS-134678,bDOTS-234678,bDOTS-1234678,bDOTS-5678,bDOTS-15678",
   "28F2 bDOTS-25678,bDOTS-125678,bDOTS-35678,bDOTS-135678,bDOTS-235678,bDOTS-1235678,bDOTS-45678",
   "28F9 bDOTS-145678,bDOTS-245678,bDOTS-1245678,bDOTS-345678,bDOTS-1345678,bDOTS-2345678",
   "28FF bDOTS-12345678,RIGHTWARDS TWO-HEADED ARROW WITH VERTICAL STROKE,dDOUBLEb",
   "2902 LEFTWARDS DOUBLE ARROW WITHb,RIGHTWARDSe,LEFT RIGHTe",
   "2905 RIGHTWARDS TWO-HEADED ARROW FROM BAR,LEFTWARDS DOUBLEc,RIGHTWARDSd",
   "2908 DOWNWARDS ARROW WITH HORIZONTAL STROKE,UPWARDSd,aTRIPLE ARROW,DOWNWARDSb",
   "290C LEFTWARDS DOUBLE DASHa,RIGHTWARDSc,LEFTWARDS TRIPLEb,RIGHTWARDSc,aTWO-HEADEDc",
   "2911 aARROW WITH DOTTED STEM,UPWARDS ARROW TO BAR,DOWNWARDSc",
   "2914 RIGHTWARDS ARROW WITH TAIL WITH VERTICAL STROKE,eDOUBLEb,aTWO-HEADED ARROW WITH TAIL",
   "2917 eWITH VERTICAL STROKE,fDOUBLEb,LEFTWARDS ARROW-TAIL,RIGHTWARDSa,LEFTWARDS DOUBLEa",
   "291C RIGHTWARDSb,LEFTWARDS ARROW TO BLACK DIAMOND,RIGHTWARDSd,LEFTWARDS ARROW FROM BARc",
   "2920 RIGHTWARDSf,NORTH WEST AND SOUTH EAST ARROW,aEAST AND SOUTH WESTa,aWEST ARROW WITH HOOK",
   "2924 aEASTc,SOUTHd,aWESTc,NORTH WEST ARROW AND NORTH EAST ARROW,aEAST ARROW AND SOUTHb",
   "2929 SOUTH EAST ARROW AND SOUTH WESTa,aWEST ARROW AND NORTHb",
   "292B RISING DIAGONAL CROSSING FALLING DIAGONAL,FALLING DIAGONAL CROSSING RISINGa",
   "292D SOUTH EAST ARROW CROSSING NORTH EAST ARROW,NORTH EAST ARROW CROSSING SOUTHb",
   "292F FALLING DIAGONAL CROSSING NORTHb,RISING DIAGONAL CROSSING SOUTHb",
   "2931 NORTH EAST ARROW CROSSING NORTH WESTa,aWEST ARROW CROSSING NORTH EASTa",
   "2933 WAVE ARROW POINTING DIRECTLY RIGHT,ARROW POINTING RIGHTWARDS THEN CURVING UPWARDS",
   "2935 eDOWNWARDS,bDOWNWARDS THEN CURVING LEFTWARDS,eRIGHTWARDS,RIGHT-SIDE ARC CLOCKWISE ARROW",
   "2939 LEFT-SIDE ARC ANTICLOCKWISEa,TOPc,BOTTOMc,TOP ARC CLOCKWISE ARROW WITH MINUS",
   "293D bANTICLOCKWISE ARROW WITH PLUS,LOWER RIGHT SEMICIRCULAR CLOCKWISE ARROW",
   "293F aLEFT SEMICIRCULAR ANTICLOCKWISEa,ANTICLOCKWISE CLOSED CIRCLEa,CLOCKWISEc",
   "2942 RIGHTWARDS ARROW ABOVE SHORT LEFTWARDSa,LEFTWARDS ARROW ABOVE SHORT RIGHTWARDSa",
   "2944 SHORT RIGHTWARDS ARROW ABOVE LEFTWARDSa,RIGHTWARDS ARROW WITH PLUS BELOW,LEFTWARDSd",
   "2947 RIGHTWARDS ARROW THROUGH X,LEFT RIGHT ARROW THROUGH SMALL CIRCLE",
   "2949 UPWARDS TWO-HEADED ARROW FROMb,LEFT BARB UP RIGHT BARB DOWN HARPOON,bDOWN RIGHT BARB UPa",
   "294C UP BARB RIGHT DOWN BARB LEFTa,bLEFT DOWN BARB RIGHTa,LEFT BARB UP RIGHT BARB UPa",
   "294F UP BARB RIGHT DOWN BARB RIGHTa,LEFT BARB DOWN RIGHT BARB DOWNa",
   "2951 UP BARB LEFT DOWN BARB LEFTa,LEFTWARDS HARPOON WITH BARB UP TO BAR,RIGHTWARDSf",
   "2954 UPWARDS HARPOON WITH BARB RIGHTb,DOWNWARDSf,LEFTWARDS HARPOON WITH BARB DOWNb",
   "2957 RIGHTWARDSf,UPWARDS HARPOON WITH BARB LEFTb,DOWNWARDSf",
   "295A LEFTWARDS HARPOON WITH BARB UP FROMa,RIGHTWARDSf,UPWARDS HARPOON WITH BARB RIGHTb",
   "295D DOWNWARDSf,LEFTWARDS HARPOON WITH BARB DOWNb,RIGHTWARDSf,UPWARDS HARPOON WITH BARB LEFTb",
   "2961 DOWNWARDSf,LEFTWARDS HARPOON WITH BARB UP ABOVE LEFTWARDS HARPOON WITH BARB DOWN",
   "2963 UPWARDS HARPOON WITH BARB LEFT BESIDE UPWARDS HARPOON WITH BARB RIGHT",
   "2964 RIGHTWARDS HARPOON WITH BARB UP ABOVE RIGHTWARDS HARPOON WITH BARB DOWN",
   "2965 DOWNWARDS HARPOON WITH BARB LEFT BESIDE DOWNWARDS HARPOON WITH BARB RIGHT",
   "2966 LEFTWARDS HARPOON WITH BARB UP ABOVE RIGHTWARDS HARPOON WITH BARB UP",
   "2967 dDOWN ABOVE RIGHTWARDS HARPOON WITH BARB DOWN",
   "2968 RIGHTWARDS HARPOON WITH BARB UP ABOVE LEFTWARDS HARPOON WITH BARB UP",
   "2969 dDOWN ABOVE LEFTWARDS HARPOON WITH BARB DOWN",
   "296A LEFTWARDS HARPOON WITH BARB UP ABOVE LONG DASH,dDOWN BELOWb",
   "296C RIGHTWARDS HARPOON WITH BARB UP ABOVEb,dDOWN BELOWb",
   "296E UPWARDS HARPOON WITH BARB LEFT BESIDE DOWNWARDS HARPOON WITH BARB RIGHT",
   "296F DOWNWARDS HARPOON WITH BARB LEFT BESIDE UPWARDSd,RIGHT DOUBLE ARROW WITH ROUNDED HEAD",
   "2971 EQUALS SIGN ABOVE RIGHTWARDS ARROW,TILDE OPERATORc,LEFTWARDS ARROW ABOVE TILDE OPERATOR",
   "2974 RIGHTWARDSd,cALMOST EQUAL TO,LESS-THAN ABOVE LEFTWARDS ARROW",
   "2977 LEFTWARDS ARROW THROUGH LESS-THAN,GREATER-THAN ABOVE RIGHTWARDS ARROW,SUBSETc",
   "297A LEFTWARDS ARROW THROUGH SUBSET,SUPERSET ABOVE LEFTWARDS ARROW,LEFT FISH TAIL,RIGHTb,UPb",
   "297F DOWNb,TRIPLE VERTICAL BAR DELIMITER,Z NOTATION SPOT,bTYPE COLON,LEFT WHITE CURLY BRACKET",
   "2984 RIGHTc,LEFT WHITE PARENTHESIS,RIGHTb,Z NOTATION LEFT IMAGE BRACKET,bRIGHTb",
   "2989 bLEFT BINDINGa,bRIGHTb,LEFT SQUARE BRACKET WITH UNDERBAR,RIGHTd",
   "298D LEFT SQUARE BRACKET WITH TICK IN TOP CORNER,RIGHT SQUARE BRACKET WITH TICK IN BOTTOMa",
   "298F LEFTg,RIGHT SQUARE BRACKET WITH TICK IN TOPa,LEFT ANGLE BRACKET WITH DOT,RIGHTd",
   "2993 LEFT ARC LESS-THAN BRACKET,RIGHT ARC GREATER-THANa,DOUBLE LEFTc,aRIGHT ARC LESS-THANa",
   "2997 LEFT BLACK TORTOISE SHELLa,RIGHTd,DOTTED FENCE,VERTICAL ZIGZAG LINE",
   "299B MEASURED ANGLE OPENING LEFT,RIGHT ANGLE VARIANT WITH SQUARE",
   "299D MEASURED RIGHT ANGLE WITH DOT,ANGLE WITH S INSIDE,ACUTE ANGLE",
   "29A0 SPHERICAL ANGLE OPENING LEFT,cUP,TURNED ANGLE,REVERSEDa,ANGLE WITH UNDERBAR,REVERSEDc",
   "29A6 OBLIQUE ANGLE OPENING UP,cDOWN",
   "29A8 MEASURED ANGLE WITH OPEN ARM ENDING IN ARROW POINTING UP AND RIGHT,kLEFT,iDOWN AND RIGHT",
   "29AB kLEFT,iRIGHT AND UP,iLEFTb,iRIGHT AND DOWN,iLEFTb,REVERSED EMPTY SET",
   "29B1 EMPTY SET WITH OVERBAR,cSMALL CIRCLE ABOVE,cRIGHT ARROWa,cLEFTb",
   "29B5 CIRCLE WITH HORIZONTAL BAR,CIRCLED VERTICALa,aPARALLEL,aREVERSE SOLIDUS,aPERPENDICULAR",
   "29BA CIRCLE DIVIDED BY HORIZONTAL BAR AND TOP HALF DIVIDED BY VERTICAL BAR",
   "29BB aWITH SUPERIMPOSED X,CIRCLED ANTICLOCKWISE-ROTATED DIVISION SIGN,UP ARROW THROUGH CIRCLE",
   "29BE CIRCLED WHITE BULLET,aBULLET,aLESS-THAN,aGREATER-THAN",
   "29C2 CIRCLE WITH SMALL CIRCLE TO THE RIGHT,bTWO HORIZONTAL STROKESc",
   "29C4 SQUARED RISING DIAGONAL SLASH,aFALLINGb,aASTERISK,aSMALL CIRCLE,aSQUARE",
   "29C9 TWO JOINED SQUARES,TRIANGLE WITH DOT ABOVE,bUNDERBAR,S IN TRIANGLE",
   "29CD TRIANGLE WITH SERIFS AT BOTTOM,RIGHT TRIANGLE ABOVE LEFT TRIANGLE",
   "29CF LEFT TRIANGLE BESIDE VERTICAL BAR,VERTICAL BAR BESIDE RIGHT TRIANGLE",
   "29D1 BOWTIE WITH LEFT HALF BLACK,bRIGHTb,BLACK BOWTIE,TIMES WITH LEFT HALF BLACK,bRIGHTb",
   "29D6 WHITE HOURGLASS,BLACKa,LEFT WIGGLY FENCE,RIGHTb,LEFT DOUBLEb,RIGHTc,INCOMPLETE INFINITY",
   "29DD TIE OVERa,INFINITY NEGATED WITH VERTICAL BAR,DOUBLE-ENDED MULTIMAP",
   "29E0 SQUARE WITH CONTOURED OUTLINE,INCREASES AS,SHUFFLE PRODUCT",
   "29E3 EQUALS SIGN AND SLANTED PARALLEL,eWITH TILDE ABOVE,IDENTICAL TO AND SLANTED PARALLEL",
   "29E6 GLEICH STARK,THERMODYNAMIC,DOWN-POINTING TRIANGLE WITH LEFT HALF BLACK,cRIGHTb",
   "29EA BLACK DIAMOND WITH DOWN ARROW,aLOZENGE,WHITE CIRCLE WITH DOWN ARROW,BLACKd",
   "29EE ERROR-BARRED WHITE SQUARE,aBLACKa,aWHITE DIAMOND,aBLACKa,aWHITE CIRCLE,aBLACKa",
   "29F4 RULE-DELAYED,REVERSE SOLIDUS OPERATOR,SOLIDUS WITH OVERBAR",
   "29F7 REVERSE SOLIDUS WITH HORIZONTAL STROKE,BIG SOLIDUS,aREVERSEa,DOUBLE PLUS,TRIPLEa",
   "29FC LEFT-POINTING CURVED ANGLE BRACKET,RIGHT-POINTINGc,TINY,MINY,N-ARY CIRCLED DOT OPERATOR",
   "2A01 bPLUSa,bTIMESa,aUNION OPERATOR WITH DOT,dPLUS,aSQUARE INTERSECTION OPERATOR,bUNIONa",
   "2A07 TWO LOGICAL ANDa,bORa,N-ARY TIMESa,MODULO TWO SUM,SUMMATION WITH INTEGRAL",
   "2A0C QUADRUPLE INTEGRAL OPERATOR,FINITE PART INTEGRAL,INTEGRAL WITH DOUBLE STROKE",
   "2A0F aAVERAGE WITH SLASH,CIRCULATION FUNCTION,ANTICLOCKWISE INTEGRATION",
   "2A12 LINE INTEGRATION WITH RECTANGULAR PATH AROUND POLE,cSEMICIRCULARc,bNOT INCLUDING THEa",
   "2A15 INTEGRAL AROUND A POINT OPERATOR,QUATERNION INTEGRALa",
   "2A17 INTEGRAL WITH LEFTWARDS ARROW WITH HOOK,bTIMES SIGN,bINTERSECTION,bUNION,bOVERBAR",
   "2A1C bUNDERBAR,JOIN,LARGE LEFT TRIANGLE OPERATOR,Z NOTATION SCHEMA COMPOSITION,cPIPING",
   "2A21 cPROJECTION,PLUS SIGN WITH SMALL CIRCLE ABOVE,cCIRCUMFLEX ACCENTa,cTILDEa,cDOT BELOW",
   "2A26 cTILDEa,cSUBSCRIPT TWO,cBLACK TRIANGLE,MINUS SIGN WITH COMMA ABOVE,cDOT BELOW",
   "2A2B cFALLING DOTS,cRISINGa,PLUS SIGN IN LEFT HALF CIRCLE,cRIGHTb,VECTOR OR CROSS PRODUCT",
   "2A30 MULTIPLICATION SIGN WITH DOT ABOVE,cUNDERBAR,SEMIDIRECT PRODUCT WITH BOTTOM CLOSED",
   "2A33 SMASH PRODUCT,MULTIPLICATION SIGN IN LEFT HALF CIRCLE,cRIGHTb",
   "2A36 CIRCLED MULTIPLICATION SIGN WITH CIRCUMFLEX ACCENT,MULTIPLICATION SIGN IN DOUBLE CIRCLE",
   "2A38 CIRCLED DIVISION SIGN,PLUS SIGN IN TRIANGLE,MINUSc,MULTIPLICATIONc,INTERIOR PRODUCT",
   "2A3D RIGHTHANDb,Z NOTATION RELATIONAL COMPOSITION,AMALGAMATION OR COPRODUCT",
   "2A40 INTERSECTION WITH DOT,UNION WITH MINUS SIGN,bOVERBAR,INTERSECTIONb,bLOGICAL AND",
   "2A45 UNION WITH LOGICAL OR,aABOVE INTERSECTION,INTERSECTION ABOVE UNION",
   "2A48 UNION ABOVE BAR ABOVE INTERSECTION,INTERSECTION ABOVE BAR ABOVE UNION",
   "2A4A UNION BESIDE AND JOINED WITHa,INTERSECTION BESIDE AND JOINED WITH INTERSECTION",
   "2A4C CLOSED UNION WITH SERIFS,aINTERSECTIONb,DOUBLE SQUARE INTERSECTION,bUNION",
   "2A50 CLOSED UNION WITH SERIFS AND SMASH PRODUCT,LOGICAL AND WITH DOT ABOVE,aORc",
   "2A53 DOUBLE LOGICAL AND,bOR,TWO INTERSECTING LOGICAL AND,cOR,SLOPING LARGEa,bAND",
   "2A59 LOGICAL OR OVERLAPPING LOGICALa,aAND WITH MIDDLE STEM,aORc,aAND WITH HORIZONTAL DASH",
   "2A5D aORc,aAND WITH DOUBLE OVERBAR,cUNDERBAR,cDOUBLEa,SMALL VEE WITHa",
   "2A62 LOGICAL OR WITH DOUBLE OVERBAR,dUNDERBAR,Z NOTATION DOMAIN ANTIRESTRICTION,bRANGEa",
   "2A66 EQUALS SIGN WITH DOT BELOW,IDENTICAL WITH DOT ABOVE",
   "2A68 TRIPLE HORIZONTAL BAR WITH DOUBLE VERTICAL STROKE,dTRIPLEb,TILDE OPERATOR WITH DOT ABOVE",
   "2A6B cRISING DOTS,SIMILAR MINUS SIMILAR,CONGRUENT WITH DOT ABOVE,EQUALS WITH ASTERISK",
   "2A6F ALMOST EQUAL TO WITH CIRCUMFLEX ACCENT,APPROXIMATELY EQUAL OR EQUAL TO",
   "2A71 EQUALS SIGN ABOVE PLUS SIGN,PLUS SIGN ABOVE EQUALSa,EQUALS SIGN ABOVE TILDE OPERATOR",
   "2A74 DOUBLE COLON EQUAL,TWO CONSECUTIVE EQUALS SIGNS,THREEc",
   "2A77 EQUALS SIGN WITH TWO DOTS ABOVE AND TWO DOTS BELOW,EQUIVALENT WITH FOUR DOTS ABOVE",
   "2A79 LESS-THAN WITH CIRCLE INSIDE,GREATER-THANc,LESS-THAN WITH QUESTION MARK ABOVE",
   "2A7C GREATER-THANd,LESS-THAN OR SLANTED EQUAL TO,GREATER-THANd",
   "2A7F LESS-THAN OR SLANTED EQUAL TO WITH DOT INSIDE,GREATER-THANg",
   "2A81 LESS-THAN OR SLANTED EQUAL TO WITH DOT ABOVE,GREATER-THANg",
   "2A83 LESS-THAN OR SLANTED EQUAL TO WITH DOT ABOVE RIGHT",
   "2A84 GREATER-THAN OR SLANTED EQUAL TO WITH DOT ABOVE LEFT,LESS-THAN OR APPROXIMATE",
   "2A86 GREATER-THANb,LESS-THAN AND SINGLE-LINE NOT EQUAL TO,GREATER-THANe",
   "2A89 LESS-THAN AND NOT APPROXIMATE,GREATER-THANc",
   "2A8B LESS-THAN ABOVE DOUBLE-LINE EQUAL ABOVE GREATER-THAN",
   "2A8C GREATER-THAN ABOVE DOUBLE-LINE EQUAL ABOVE LESS-THAN,LESS-THAN ABOVE SIMILAR OR EQUAL",
   "2A8E GREATER-THANd,LESS-THAN ABOVE SIMILAR ABOVE GREATER-THAN",
   "2A90 GREATER-THAN ABOVE SIMILAR ABOVE LESS-THAN",
   "2A91 LESS-THAN ABOVE GREATER-THAN ABOVE DOUBLE-LINE EQUAL,GREATER-THAN ABOVE LESS-THANc",
   "2A93 LESS-THAN ABOVE SLANTED EQUAL ABOVE GREATER-THAN ABOVE SLANTEDa",
   "2A94 GREATER-THAN ABOVE SLANTED EQUAL ABOVE LESS-THANc,SLANTED EQUAL TO OR LESS-THAN",
   "2A96 dGREATER-THAN,dLESS-THAN WITH DOT INSIDE,dGREATER-THANc",
   "2A99 DOUBLE-LINE EQUAL TO OR LESS-THAN,dGREATER-THAN,aSLANTED EQUAL TO OR LESS-THAN",
   "2A9C eGREATER-THAN,SIMILAR OR LESS-THAN,bGREATER-THAN,aABOVE LESS-THAN ABOVE EQUALS SIGN",
   "2AA0 bGREATER-THANc,DOUBLE NESTED LESS-THAN,bGREATER-THAN,bLESS-THAN WITH UNDERBAR",
   "2AA4 GREATER-THAN OVERLAPPING LESS-THAN,aBESIDEa,LESS-THAN CLOSED BY CURVE,GREATER-THANc",
   "2AA8 LESS-THAN CLOSED BY CURVE ABOVE SLANTED EQUAL,GREATER-THANf,SMALLER THAN,LARGERa",
   "2AAC SMALLER THAN OR EQUAL TO,LARGERd,EQUALS SIGN WITH BUMPY ABOVE",
   "2AAF PRECEDES ABOVE SINGLE-LINE EQUALS SIGN,SUCCEEDSd,PRECEDES ABOVE SINGLE-LINE NOT EQUAL TO",
   "2AB2 SUCCEEDSe,PRECEDES ABOVE EQUALS SIGN,SUCCEEDSc,PRECEDES ABOVE NOT EQUAL TO,SUCCEEDSd",
   "2AB7 PRECEDES ABOVE ALMOSTb,SUCCEEDSd,PRECEDES ABOVE NOTc,SUCCEEDSe,DOUBLE PRECEDES,aSUCCEEDS",
   "2ABD SUBSET WITH DOT,SUPERSETb,SUBSET WITH PLUS SIGN BELOW,SUPERSETd",
   "2AC1 SUBSET WITH MULTIPLICATIONb,SUPERSETd,SUBSET OF OR EQUAL TO WITH DOT ABOVE,SUPERSETg",
   "2AC5 SUBSET OF ABOVE EQUALS SIGN,SUPERSETd,SUBSET OF ABOVE TILDE OPERATOR,SUPERSETd",
   "2AC9 SUBSET OF ABOVE ALMOST EQUAL TO,SUPERSETe,SUBSET OF ABOVE NOTb,SUPERSETe",
   "2ACD SQUARE LEFT OPEN BOX OPERATOR,aRIGHTc,CLOSED SUBSET,aSUPERSET,aSUBSET OR EQUAL TO",
   "2AD2 aSUPERSETc,SUBSET ABOVE SUPERSET,SUPERSET ABOVE SUBSET,SUBSETb,SUPERSET ABOVE SUPERSET",
   "2AD7 aBESIDE SUBSET,bAND JOINED BY DASH WITHa,ELEMENT OF OPENING DOWNWARDS",
   "2ADA PITCHFORK WITH TEE TOP,TRANSVERSAL INTERSECTION,FORKING,NONFORKING,SHORT LEFT TACK",
   "2ADF aDOWNa,aUPa,PERPENDICULAR WITH S,VERTICAL BAR TRIPLE RIGHT TURNSTILE",
   "2AE3 DOUBLE VERTICAL BAR LEFTa,VERTICAL BAR DOUBLEb,DOUBLEe",
   "2AE6 LONG DASH FROM LEFT MEMBER OF DOUBLE VERTICAL,SHORT DOWN TACK WITH OVERBAR",
   "2AE8 aUP TACK WITH UNDERBAR,cABOVE SHORT DOWN TACK,DOUBLEb,aUPa,aSTROKE NOT SIGN,REVERSEDd",
   "2AEE DOES NOT DIVIDE WITH REVERSED NEGATION SLASH,VERTICAL LINE WITH CIRCLE ABOVE,dBELOW",
   "2AF1 DOWN TACKc,PARALLEL WITH HORIZONTAL STROKE,bTILDE OPERATOR",
   "2AF4 TRIPLE VERTICAL BAR BINARY RELATION,cWITH HORIZONTAL STROKE,aCOLON OPERATOR",
   "2AF7 aNESTED LESS-THAN,bGREATER-THAN,DOUBLE-LINE SLANTED LESS-THAN OR EQUAL TO,bGREATER-THANc",
   "2AFB TRIPLE SOLIDUS BINARY RELATION,LARGE TRIPLE VERTICAL BAR OPERATOR,DOUBLE SOLIDUSa",
   "2AFE WHITE VERTICAL BAR,N-ARYc,NORTH EAST WHITE ARROW,aWESTb,SOUTH EASTb,aWESTb,LEFT RIGHTb",
   "2B05 LEFTWARDS BLACKa,UPWARDSb,DOWNWARDSb,NORTH EASTb,aWESTb,SOUTH EASTb,aWESTb,LEFT RIGHTb",
   "2B0D UP DOWNb,RIGHTWARDS ARROW WITH TIP DOWNWARDS,dUPWARDS,LEFTWARDS ARROW WITH TIP DOWNWARDS",
   "2B11 dUPWARDS,SQUARE WITH TOP HALF BLACK,bBOTTOMb,bUPPER RIGHT DIAGONALb,bLOWER LEFTc",
   "2B16 DIAMOND WITH LEFTb,bRIGHTb,bTOPb,bBOTTOMb,DOTTED SQUARE,BLACK LARGEa,WHITEb",
   "2B1D BLACK VERY SMALLa,WHITEc,BLACK PENTAGON,WHITEa,aHEXAGON,BLACKa,HORIZONTALb",
   "2B24 BLACK LARGE CIRCLE,aMEDIUM DIAMOND,WHITEb,BLACK MEDIUM LOZENGE,WHITEb",
   "2B29 BLACK SMALL DIAMOND,bLOZENGE,WHITEb,BLACK HORIZONTAL ELLIPSE,WHITEb,BLACK VERTICALa",
   "2B2F WHITEb,LEFT ARROW WITH SMALL CIRCLE,THREE LEFTWARDS ARROWS,LEFT ARROW WITH CIRCLED PLUS",
   "2B33 LONG LEFTWARDS SQUIGGLE ARROW,LEFTWARDS TWO-HEADED ARROW WITH VERTICAL STROKE,dDOUBLEb",
   "2B36 cFROM BAR,bTRIPLE DASH ARROW,aARROW WITH DOTTED STEM,cTAIL WITH VERTICAL STROKE,eDOUBLEb",
   "2B3B aTWO-HEADED ARROW WITH TAIL,eWITH VERTICAL STROKE,fDOUBLEb,aARROW THROUGH X",
   "2B3F WAVE ARROW POINTING DIRECTLY LEFT,EQUALS SIGN ABOVE LEFTWARDS ARROW",
   "2B41 REVERSE TILDE OPERATORc,LEFTWARDS ARROW ABOVE REVERSE ALMOST EQUAL TO",
   "2B43 RIGHTWARDS ARROW THROUGH GREATER-THAN,cSUPERSET,LEFTWARDS QUADRUPLE ARROW,RIGHTWARDSb",
   "2B47 REVERSE TILDE OPERATOR ABOVE RIGHTWARDSa,RIGHTWARDS ARROW ABOVE REVERSE ALMOST EQUAL TO",
   "2B49 TILDE OPERATOR ABOVE LEFTWARDS ARROW,LEFTWARDS ARROW ABOVE ALMOST EQUAL TO",
   "2B4B cREVERSE TILDE OPERATOR,RIGHTWARDSe,DOWNWARDS TRIANGLE-HEADED ZIGZAG ARROW",
   "2B4E SHORT SLANTED NORTHa,aBACKSLANTED SOUTHa,WHITE MEDIUM STAR,BLACK SMALLa,WHITEb",
   "2B53 BLACK RIGHT-POINTING PENTAGON,WHITEb,HEAVY LARGE CIRCLE,aOVAL WITH OVAL INSIDE",
   "2B57 aCIRCLE WITH CIRCLEa,aCIRCLE,aCIRCLED SALTIRE,SLANTED NORTH ARROW WITH HOOKED HEAD",
   "2B5B BACKSLANTED SOUTH ARROW WITH HOOKED TAIL,SLANTED NORTH ARROW WITH HORIZONTALa",
   "2B5D BACKSLANTED SOUTHd,BENT ARROW POINTING DOWNWARDS THEN NORTH EAST,SHORTg",
   "2B60 LEFTWARDS TRIANGLE-HEADED ARROW,UPWARDSb,RIGHTWARDSb,DOWNWARDSb,LEFT RIGHTb,UP DOWNb",
   "2B66 NORTH WESTb,aEASTb,SOUTHc,aWESTb,LEFTWARDS TRIANGLE-HEADED DASHEDa,UPWARDSc,RIGHTWARDSc",
   "2B6D DOWNWARDSc,CLOCKWISE TRIANGLE-HEADED OPEN CIRCLEa,ANTICLOCKWISEd",
   "2B70 LEFTWARDS TRIANGLE-HEADED ARROW TO BAR,UPWARDSd,RIGHTWARDSd,DOWNWARDSd,,,NORTH WESTd",
   "2B77 aEASTd,SOUTHe,aWESTd,LEFTWARDS TRIANGLE-HEADED ARROW WITH DOUBLE HORIZONTAL STROKE",
   "2B7B UPWARDSf,RIGHTWARDSf,DOWNWARDSf,HORIZONTAL TAB KEY,VERTICALb",
   "2B80 LEFTWARDS TRIANGLE-HEADED ARROW OVER RIGHTWARDS TRIANGLE-HEADED ARROW",
   "2B81 UPWARDS TRIANGLE-HEADED ARROW LEFTWARDS OF DOWNWARDSb",
   "2B82 RIGHTWARDS TRIANGLE-HEADED ARROW OVER LEFTWARDSb",
   "2B83 DOWNWARDS TRIANGLE-HEADED ARROW LEFTWARDS OF UPWARDSb",
   "2B84 LEFTWARDS TRIANGLE-HEADED PAIRED ARROWS,UPWARDSc,RIGHTWARDSc,DOWNWARDSc",
   "2B88 LEFTWARDS BLACK CIRCLED WHITE ARROW,UPWARDSd,RIGHTWARDSd,DOWNWARDSd",
   "2B8C ANTICLOCKWISE TRIANGLE-HEADED RIGHT U-SHAPEDa,bBOTTOMb,bLEFTb,bTOPb,RETURN LEFT,aRIGHT",
   "2B92 NEWLINE LEFT,aRIGHT,FOUR CORNER ARROWS CIRCLING ANTICLOCKWISE,RIGHTWARDS BLACK ARROW",
   "2B97 SYMBOL FOR TYPE A ELECTRONICS,THREE-D TOP-LIGHTED LEFTWARDS EQUILATERAL ARROWHEAD",
   "2B99 aRIGHT-LIGHTED UPWARDSb,aTOP-LIGHTED RIGHTWARDSb,aLEFT-LIGHTED DOWNWARDSb",
   "2B9C BLACK LEFTWARDSb,aUPWARDSb,aRIGHTWARDSb,aDOWNWARDSb",
   "2BA0 DOWNWARDS TRIANGLE-HEADED ARROW WITH LONG TIP LEFTWARDS,fRIGHTWARDS",
   "2BA2 UPWARDS TRIANGLE-HEADED ARROW WITH LONG TIP LEFTWARDS,fRIGHTWARDS",
   "2BA4 LEFTWARDS TRIANGLE-HEADED ARROW WITH LONG TIP UPWARDS,RIGHTWARDSf",
   "2BA6 LEFTWARDS TRIANGLE-HEADED ARROW WITH LONG TIP DOWNWARDS,RIGHTWARDSf",
   "2BA8 BLACK CURVED DOWNWARDS AND LEFTWARDS ARROW,dRIGHTWARDSa,bUPWARDS AND LEFTWARDSa",
   "2BAB dRIGHTWARDSa,bLEFTWARDS AND UPWARDSa,bRIGHTWARDSc,bLEFTWARDS AND DOWNWARDSa,bRIGHTWARDSc",
   "2BB0 RIBBON ARROW DOWN LEFT,cRIGHT,bUP LEFT,cRIGHT,bLEFT UP,bRIGHTa,bLEFT DOWN,bRIGHTa",
   "2BB8 UPWARDS WHITE ARROW FROM BAR WITH HORIZONTAL BAR,UP ARROWHEAD IN A RECTANGLE BOX",
   "2BBA OVERLAPPING WHITE SQUARES,bAND BLACKa,aBLACKa,BALLOT BOX WITH LIGHT X,CIRCLEDa,aBOLDa",
   "2BC0 BLACK SQUARE CENTRED,aDIAMONDa,TURNED BLACK PENTAGON,HORIZONTAL BLACK OCTAGON,BLACKa",
   "2BC5 aMEDIUM UP-POINTING TRIANGLE CENTRED,bDOWN-POINTINGb,bLEFT-POINTINGb,bRIGHT-POINTINGb",
   "2BC9 NEPTUNE FORM TWO,TOP HALF BLACK CIRCLE,BOTTOMc,LIGHT FOUR POINTED BLACK CUSP,ROTATEDe",
   "2BCE WHITE FOUR POINTEDa,ROTATEDd,SQUARE POSITION INDICATOR,UNCERTAINTY SIGN,GROUP MARK",
   "2BD3 PLUTO FORM TWO,bTHREE,bFOUR,bFIVE,TRANSPLUTO,PROSERPINA,ASTRAEA,HYGIEA,PHOLUS,NESSUS",
   "2BDD WHITE MOON SELENA,BLACK DIAMOND ON CROSS,TRUE LIGHT MOON ARTA,CUPIDO,HADES,ZEUS,KRONOS",
   "2BE4 APOLLON,ADMETOS,VULCANUS,POSEIDON,LEFT HALF BLACK STAR,RIGHTc,STAR WITH LEFT HALF BLACK",
   "2BEB bRIGHTb,LEFTWARDS TWO-HEADED ARROW WITH TRIANGLE ARROWHEADS,UPWARDSe,RIGHTWARDSe",
   "2BEF DOWNWARDSe,ERIS FORM ONE,bTWO,SEDNA,RUSSIAN ASTROLOGICAL SYMBOL VIGINTILE,cNOVILE",
   "2BF5 cQUINTILE,cBINOVILE,cSENTAGON,cTREDECILE,EQUALS SIGN WITH INFINITY BELOW,UNITED SYMBOL",
   "2BFB SEPARATEDa,DOUBLEDa,PASSEDa,REVERSED RIGHT ANGLE,HELLSCHREIBER PAUSE SYMBOL",
   "2C00 GLAGOLITIC CAPITAL LETTER AZU,cBUKY,cVEDE,cGLAGOLI,cDOBRO,cYESTU,cZHIVETE,cDZELO,cZEMLJA",
   "2C09 cIZHE,cINITIALa,cI,cDJERVI,cKAKO,cLJUDIJE,cMYSLITE,cNASHI,cONU,cPOKOJI,cRITSI,cSLOVO",
   "2C15 cTVRIDO,cUKU,cFRITU,cHERU,cOTU,cPE,cSHTA,cTSI,cCHRIVI,cSHA,cYERU,cYERI,cYATI,cSPIDERY HA",
   "2C23 cYU,cSMALL YUS,eWITH TAIL,cYO,cIOTATED SMALL YUS,cBIGa,cIOTATEDb,cFITA,cIZHITSA,cSHTAPIC",
   "2C2D cTROKUTASTI A,cLATINATE MYSLITE,cCAUDATE CHRIVI,aSMALL LETTER AZU,cBUKY,cVEDE,cGLAGOLI",
   "2C34 cDOBRO,cYESTU,cZHIVETE,cDZELO,cZEMLJA,cIZHE,cINITIALa,cI,cDJERVI,cKAKO,cLJUDIJE,cMYSLITE",
   "2C40 cNASHI,cONU,cPOKOJI,cRITSI,cSLOVO,cTVRIDO,cUKU,cFRITU,cHERU,cOTU,cPE,cSHTA,cTSI,cCHRIVI",
   "2C4E cSHA,cYERU,cYERI,cYATI,cSPIDERY HA,cYU,cSMALL YUS,eWITH TAIL,cYO,cIOTATED SMALL YUS",
   "2C58 cBIGa,cIOTATEDb,cFITA,cIZHITSA,cSHTAPIC,cTROKUTASTI A,cLATINATE MYSLITE,cCAUDATE CHRIVI",
   "2C60 LATIN CAPITAL LETTER L WITH DOUBLE BAR,aSMALLe,aCAPITAL LETTER L WITH MIDDLE TILDE",
   "2C63 cP WITH STROKE,cR WITH TAIL,aSMALL LETTER A WITH STROKE,cT WITH DIAGONALa",
   "2C67 aCAPITAL LETTER H WITH DESCENDER,aSMALLd,aCAPITAL LETTER Kb,aSMALLd,aCAPITAL LETTER Zb",
   "2C6C aSMALLd,aCAPITAL LETTER ALPHA,cM WITH HOOK,cTURNED A,dALPHA",
   "2C71 aSMALL LETTER V WITH RIGHT HOOK,aCAPITAL LETTER W WITHa,aSMALLd,cV WITH CURL",
   "2C75 aCAPITAL LETTER HALF H,aSMALLc,cTAILLESS PHI,cE WITH NOTCH,cTURNED R WITH TAIL",
   "2C7A cO WITH LOW RING INSIDE,aLETTER SMALL CAPITAL TURNED E,aSUBSCRIPT SMALL LETTER J",
   "2C7D MODIFIER LETTER CAPITAL V,LATIN CAPITAL LETTER S WITH SWASH TAIL,cZc",
   "2C80 COPTIC CAPITAL LETTER ALFA,aSMALLb,aCAPITAL LETTER VIDA,aSMALLb,aCAPITAL LETTER GAMMA",
   "2C85 aSMALLb,aCAPITAL LETTER DALDA,aSMALLb,aCAPITAL LETTER EIE,aSMALLb,aCAPITAL LETTER SOU",
   "2C8B aSMALLb,aCAPITAL LETTER ZATA,aSMALLb,aCAPITAL LETTER HATE,aSMALLb,aCAPITAL LETTER THETHE",
   "2C91 aSMALLb,aCAPITAL LETTER IAUDA,aSMALLb,aCAPITAL LETTER KAPA,aSMALLb,aCAPITAL LETTER LAULA",
   "2C97 aSMALLb,aCAPITAL LETTER MI,aSMALLb,aCAPITAL LETTER NI,aSMALLb,aCAPITAL LETTER KSI",
   "2C9D aSMALLb,aCAPITAL LETTER O,aSMALLb,aCAPITAL LETTER PI,aSMALLb,aCAPITAL LETTER RO,aSMALLb",
   "2CA4 aCAPITAL LETTER SIMA,aSMALLb,aCAPITAL LETTER TAU,aSMALLb,aCAPITAL LETTER UA,aSMALLb",
   "2CAA aCAPITAL LETTER FI,aSMALLb,aCAPITAL LETTER KHI,aSMALLb,aCAPITAL LETTER PSI,aSMALLb",
   "2CB0 aCAPITAL LETTER OOU,aSMALLb,aCAPITAL LETTER DIALECT-P ALEF,aSMALLc",
   "2CB4 aCAPITAL LETTER OLD COPTIC AIN,aSMALLd,aCAPITAL LETTER CRYPTOGRAMMIC EIE,aSMALLc",
   "2CB8 aCAPITAL LETTER DIALECT-P KAPA,aSMALLc,aCAPITAL LETTER DIALECT-P NI,aSMALLc",
   "2CBC aCAPITAL LETTER CRYPTOGRAMMICa,aSMALLc,aCAPITAL LETTER OLD COPTIC OOU,aSMALLd",
   "2CC0 aCAPITAL LETTER SAMPI,aSMALLb,aCAPITAL LETTER CROSSED SHEI,aSMALLc",
   "2CC4 aCAPITAL LETTER OLD COPTICa,aSMALLd,aCAPITAL LETTER OLD COPTIC ESH,aSMALLd",
   "2CC8 aCAPITAL LETTER AKHMIMIC KHEI,aSMALLc,aCAPITAL LETTER DIALECT-P HORI,aSMALLc",
   "2CCC aCAPITAL LETTER OLD COPTICa,aSMALLd,aCAPITAL LETTER OLD COPTIC HA,aSMALLd",
   "2CD0 aCAPITAL LETTER L-SHAPEDa,aSMALLc,aCAPITAL LETTER OLD COPTIC HEI,aSMALLd",
   "2CD4 aCAPITAL LETTER OLD COPTIC HAT,aSMALLd,aCAPITAL LETTER OLD COPTIC GANGIA,aSMALLd",
   "2CD8 aCAPITAL LETTER OLD COPTIC DJA,aSMALLd,aCAPITAL LETTER OLD COPTIC SHIMA,aSMALLd",
   "2CDC aCAPITAL LETTER OLD NUBIANa,aSMALLd,aCAPITAL LETTER OLD NUBIAN NGI,aSMALLd",
   "2CE0 aCAPITAL LETTER OLD NUBIAN NYI,aSMALLd,aCAPITAL LETTER OLD NUBIAN WAU,aSMALLd",
   "2CE4 aSYMBOL KAI,bMI RO,bPIa,bSTAUROS,bTAU RO,bKHIa,bSHIMA SIMA",
   "2CEB aCAPITAL LETTER CRYPTOGRAMMIC SHEI,aSMALLc,aCAPITAL LETTER CRYPTOGRAMMIC GANGIA,aSMALLc",
   "2CEF aCOMBINING NI ABOVE,bSPIRITUS ASPER,cLENIS,aCAPITAL LETTER BOHAIRIC KHEI,aSMALLc",
   "2CF9 aOLD NUBIAN FULL STOP,cDIRECT QUESTION MARK,cINDIRECTb,cVERSE DIVIDER,aFRACTION ONE HALF",
   "2CFE aFULL STOP,aMORPHOLOGICAL DIVIDER,GEORGIAN SMALL LETTER AN,cBAN,cGAN,cDON,cEN,cVIN,cZEN",
   "2D07 cTAN,cIN,cKAN,cLAS,cMAN,cNAR,cON,cPAR,cZHAR,cRAE,cSAN,cTAR,cUN,cPHAR,cKHAR,cGHAN,cQAR",
   "2D18 cSHIN,cCHIN,cCAN,cJIL,cCIL,cCHAR,cXAN,cJHAN,cHAE,cHE,cHIE,cWE,cHAR,cHOE,,cYN,,,,,,cAEN",
   "2D30 TIFINAGH LETTER YA,bYAB,bYABH,bYAG,bYAGHH,bBERBER ACADEMY YAJ,bYAJ,bYAD,bYADH,bYADD",
   "2D3A bYADDH,bYEY,bYAF,bYAK,bTUAREGa,bYAKHH,bYAH,bBERBER ACADEMYa,bTUAREGa,bYAHH,bYAA,bYAKH",
   "2D46 bTUAREGa,bYAQ,bTUAREGa,bYI,bYAZH,bAHAGGARa,bTUAREGa,bYAL,bYAM,bYAN,bTUAREG YAGN,cYANG",
   "2D52 bYAP,bYU,bYAR,bYARR,bYAGH,bTUAREGa,bAYERa,bYAS,bYASS,bYASH,bYAT,bYATH,bYACH,bYATT,bYAV",
   "2D61 bYAW,bYAY,bYAZ,bTAWELLEMETa,bYAZZ,bYE,bYO,,,,,,,,aMODIFIER LETTER LABIALIZATION MARK",
   "2D70 aSEPARATORa",
   "2D7F aCONSONANT JOINER,ETHIOPIC SYLLABLE LOA,bMOA,bROA,bSOA,bSHOA,bBOA,bTOA,bCOA,bNOA,bNYOA",
   "2D8A bGLOTTAL OA,bZOA,bDOA,bDDOA,bJOA,bTHOA,bCHOA,bPHOA,bPOA,bGGWA,bGGWI,bGGWEE,bGGWE",
   "2DA0 bSSA,bSSU,bSSI,bSSAA,bSSEE,bSSE,bSSO,,bCCA,bCCU,bCCI,bCCAA,bCCEE,bCCE,bCCO,,bZZA,bZZU",
   "2DB2 bZZI,bZZAA,bZZEE,bZZE,bZZO,,bCCHA,bCCHU,bCCHI,bCCHAA,bCCHEE,bCCHE,bCCHO,,bQYA,bQYU,bQYI",
   "2DC3 bQYAA,bQYEE,bQYE,bQYO,,bKYA,bKYU,bKYI,bKYAA,bKYEE,bKYE,bKYO,,bXYA,bXYU,bXYI,bXYAA,bXYEE",
   "2DD5 bXYE,bXYO,,bGYA,bGYU,bGYI,bGYAA,bGYEE,bGYE,bGYO,,COMBINING CYRILLIC LETTER BE,cVE,cGHE",
   "2DE3 cDE,cZHE,cZE,cKA,cEL,cEM,cEN,cO,cPE,cER,cES,cTE,cHA,cTSE,cCHE,cSHA,cSHCHA,cFITA,cES-TE",
   "2DF6 cA,cIE,cDJERV,cMONOGRAPH UK,cYAT,cYU,cIOTIFIED A,cLITTLE YUS,cBIGa,cIOTIFIEDb",
   "2E00 RIGHT ANGLE SUBSTITUTION MARKER,bDOTTEDb,LEFT SUBSTITUTION BRACKET,RIGHTb,LEFT DOTTEDb",
   "2E05 RIGHTc,RAISED INTERPOLATION MARKER,aDOTTEDb,DOTTED TRANSPOSITIONa",
   "2E09 LEFT TRANSPOSITION BRACKET,RIGHTb,RAISED SQUARE,LEFT RAISED OMISSION BRACKET,RIGHTc",
   "2E0E EDITORIAL CORONIS,PARAGRAPHOS,FORKEDa,REVERSEDb,HYPODIASTOLE,DOTTED OBELOS",
   "2E14 DOWNWARDS ANCORA,UPWARDSa,DOTTED RIGHT-POINTING ANGLE,DOUBLE OBLIQUE HYPHEN",
   "2E18 INVERTED INTERROBANG,PALM BRANCH,HYPHEN WITH DIAERESIS,TILDE WITH RING ABOVE",
   "2E1C LEFT LOW PARAPHRASE BRACKET,RIGHTc,TILDE WITH DOT ABOVE,cBELOW",
   "2E20 LEFT VERTICAL BAR WITH QUILL,RIGHTd,TOP LEFT HALF BRACKET,aRIGHTb,BOTTOM LEFTb,aRIGHTb",
   "2E26 LEFT SIDEWAYS Ua,RIGHTc,LEFT DOUBLE PARENTHESIS,RIGHTb,TWO DOTS OVER ONE DOT PUNCTUATION",
   "2E2B ONE DOT OVER TWO DOTSa,SQUARED FOUR DOTa,FIVE DOT MARK,REVERSED QUESTIONa,VERTICAL TILDE",
   "2E30 RING POINT,WORD SEPARATOR MIDDLE DOT,TURNED COMMA,RAISED DOT,aCOMMA,TURNED SEMICOLON",
   "2E36 DAGGER WITH LEFT GUARD,bRIGHTa,TURNED DAGGER,TOP HALF SECTION SIGN,TWO-EM DASH,THREE-EMa",
   "2E3C STENOGRAPHIC FULL STOP,VERTICAL SIX DOTS,WIGGLY VERTICAL LINE,CAPITULUM,DOUBLE HYPHEN",
   "2E41 REVERSED COMMA,DOUBLE LOW-REVERSED-9 QUOTATION MARK,DASH WITH LEFT UPTURN",
   "2E44 DOUBLE SUSPENSION MARK,INVERTED LOW KAVYKA,cWITH KAVYKA ABOVE,LOW KAVYKA,bWITH DOT",
   "2E49 DOUBLE STACKED COMMA,DOTTED SOLIDUS,TRIPLE DAGGER,MEDIEVAL COMMA,PARAGRAPHUS MARK",
   "2E4E PUNCTUS ELEVATUSa,CORNISH VERSE DIVIDER,CROSS PATTY WITH RIGHT CROSSBAR,cLEFTa",
   "2E52 TIRONIAN SIGN CAPITAL ET,MEDIEVAL EXCLAMATION MARK,aQUESTIONa",
   "2E55 LEFT SQUARE BRACKET WITH STROKE,RIGHTd,LEFT SQUARE BRACKET WITH DOUBLEa,RIGHTe",
   "2E59 TOP HALF LEFT PARENTHESIS,bRIGHTa,BOTTOM HALF LEFTa,bRIGHTa,OBLIQUE HYPHEN",
   "2E80 CJK RADICAL REPEAT,bCLIFF,bSECOND ONE,cTWO,cTHREE,bPERSON,bBOX,bTABLE,bKNIFE ONE,cTWO",
   "2E8A bDIVINATION,bSEAL,bSMALL ONE,cTWO,bLAME ONE,cTWO,cTHREE,cFOUR,bSNAKE,bTHREAD,bSNOUT ONE",
   "2E95 cTWO,bHEART ONE,cTWO,bHAND,bRAP,,bCHOKE,bSUN,bMOON,bDEATH,bMOTHER,bCIVILIAN,bWATER ONE",
   "2EA2 cTWO,bFIRE,bPAW ONE,cTWO,bSIMPLIFIED HALF TREE TRUNK,bCOW,bDOG,bJADE,bBOLT OF CLOTH,bEYE",
   "2EAC bSPIRIT ONE,cTWO,bBAMBOO,bSILK,bC-SIMPLIFIEDa,bNET ONE,cTWO,cTHREE,cFOUR,bMESH,bSHEEP",
   "2EB7 bRAM,bEWE,bOLD,bBRUSH ONE,cTWO,bMEAT,bMORTAR,bGRASS ONE,cTWO,cTHREE,bTIGER,bCLOTHES",
   "2EC3 bWEST ONE,cTWO,bC-SIMPLIFIED SEE,bSIMPLIFIED HORN,bHORN,bC-SIMPLIFIED SPEECH,cSHELL",
   "2ECA bFOOT,bC-SIMPLIFIED CART,bSIMPLIFIED WALK,bWALK ONE,cTWO,bCITY,bC-SIMPLIFIED GOLD",
   "2ED1 bLONG ONE,cTWO,bC-SIMPLIFIED LONG,cGATE,bMOUND ONE,cTWO,bRAIN,bBLUE",
   "2ED9 bC-SIMPLIFIED TANNED LEATHER,cLEAF,cWIND,cFLY,bEAT ONE,cTWO,cTHREE,bC-SIMPLIFIED EAT",
   "2EE1 bHEAD,bC-SIMPLIFIED HORSE,bBONE,bGHOST,bC-SIMPLIFIED FISH,cBIRD,cSALT,bSIMPLIFIED WHEAT",
   "2EE9 cYELLOW,bC-SIMPLIFIED FROG,bJ-SIMPLIFIED EVEN,bC-SIMPLIFIEDa,bJ-SIMPLIFIED TOOTH",
   "2EEE bC-SIMPLIFIEDa,bJ-SIMPLIFIED DRAGON,bC-SIMPLIFIEDa,bTURTLE,bJ-SIMPLIFIEDa,bC-SIMPLIFIEDa",
   "2F00 KANGXI RADICAL ONE,bLINE,bDOT,bSLASH,bSECOND,bHOOK,bTWO,bLID,bMAN,bLEGS,bENTER,bEIGHT",
   "2F0C bDOWN BOX,bCOVER,bICE,bTABLE,bOPEN BOX,bKNIFE,bPOWER,bWRAP,bSPOON,bRIGHT OPEN BOX",
   "2F16 bHIDING ENCLOSURE,bTEN,bDIVINATION,bSEAL,bCLIFF,bPRIVATE,bAGAIN,bMOUTH,bENCLOSURE,bEARTH",
   "2F20 bSCHOLAR,bGO,cSLOWLY,bEVENING,bBIG,bWOMAN,bCHILD,bROOF,bINCH,bSMALL,bLAME,bCORPSE",
   "2F2C bSPROUT,bMOUNTAIN,bRIVER,bWORK,bONESELF,bTURBAN,bDRY,bSHORT THREAD,bDOTTED CLIFF",
   "2F35 bLONG STRIDE,bTWO HANDS,bSHOOT,bBOW,bSNOUT,bBRISTLE,bSTEP,bHEART,bHALBERD,bDOOR,bHAND",
   "2F40 bBRANCH,bRAP,bSCRIPT,bDIPPER,bAXE,bSQUARE,bNOT,bSUN,bSAY,bMOON,bTREE,bLACK,bSTOP,bDEATH",
   "2F4E bWEAPON,bDO NOT,bCOMPARE,bFUR,bCLAN,bSTEAM,bWATER,bFIRE,bCLAW,bFATHER,bDOUBLE X",
   "2F59 bHALF TREE TRUNK,bSLICE,bFANG,bCOW,bDOG,bPROFOUND,bJADE,bMELON,bTILE,bSWEET,bLIFE,bUSE",
   "2F65 bFIELD,bBOLT OF CLOTH,bSICKNESS,bDOTTED TENT,bWHITE,bSKIN,bDISH,bEYE,bSPEAR,bARROW",
   "2F6F bSTONE,bSPIRIT,bTRACK,bGRAIN,bCAVE,bSTAND,bBAMBOO,bRICE,bSILK,bJAR,bNET,bSHEEP,bFEATHER",
   "2F7C bOLD,bAND,bPLOW,bEAR,bBRUSH,bMEAT,bMINISTER,bSELF,bARRIVE,bMORTAR,bTONGUE,bOPPOSE,bBOAT",
   "2F89 bSTOPPING,bCOLOR,bGRASS,bTIGER,bINSECT,bBLOOD,bWALK ENCLOSURE,bCLOTHES,bWEST,bSEE,bHORN",
   "2F94 bSPEECH,bVALLEY,bBEAN,bPIG,bBADGER,bSHELL,bRED,bRUN,bFOOT,bBODY,bCART,bBITTER,bMORNING",
   "2FA1 bWALK,bCITY,bWINE,bDISTINGUISH,bVILLAGE,bGOLD,bLONG,bGATE,bMOUND,bSLAVE",
   "2FAB bSHORT TAILED BIRD,bRAIN,bBLUE,bWRONG,bFACE,bLEATHER,bTANNEDa,bLEEK,bSOUND,bLEAF,bWIND",
   "2FB6 bFLY,bEAT,bHEAD,bFRAGRANT,bHORSE,bBONE,bTALL,bHAIR,bFIGHT,bSACRIFICIAL WINE,bCAULDRON",
   "2FC1 bGHOST,bFISH,bBIRD,bSALT,bDEER,bWHEAT,bHEMP,bYELLOW,bMILLET,bBLACK,bEMBROIDERY,bFROG",
   "2FCD bTRIPOD,bDRUM,bRAT,bNOSE,bEVEN,bTOOTH,bDRAGON,bTURTLE,bFLUTE",
   "2FF0 IDEOGRAPHIC DESCRIPTION CHARACTER LEFT TO RIGHT,cABOVE TO BELOW",
   "2FF2 cLEFT TO MIDDLE AND RIGHT,cABOVE TO MIDDLE AND BELOW,cFULL SURROUND,cSURROUND FROM ABOVE",
   "2FF6 eBELOW,eLEFT,eUPPERa,fRIGHT,eLOWER LEFT,cOVERLAID,,,,,aSPACE,aCOMMA,aFULL STOP"]

def namesFrom3000 : List String :=
  ["3003 DITTO MARK,JAPANESE INDUSTRIAL STANDARD SYMBOL,IDEOGRAPHIC ITERATION MARK,aCLOSINGa",
   "3007 aNUMBER ZERO,LEFT ANGLE BRACKET,RIGHTb,LEFT DOUBLEb,RIGHTc,LEFT CORNERa,RIGHTb",
   "300E LEFT WHITEb,RIGHTc,LEFT BLACK LENTICULARa,RIGHTc,POSTAL MARK,GETAa",
   "3014 LEFT TORTOISE SHELL BRACKET,RIGHTc,LEFT WHITE LENTICULARa,RIGHTc",
   "3018 LEFT WHITE TORTOISE SHELLa,RIGHTd,LEFT WHITE SQUAREa,RIGHTc,WAVE DASH",
   "301D REVERSED DOUBLE PRIME QUOTATION MARK,DOUBLEc,LOWd,POSTAL MARK FACE,HANGZHOU NUMERAL ONE",
   "3022 bTWO,bTHREE,bFOUR,bFIVE,bSIX,bSEVEN,bEIGHT,bNINE,IDEOGRAPHIC LEVEL TONE MARK,aRISINGb",
   "302C aDEPARTINGb,aENTERINGb,HANGUL SINGLE DOTb,aDOUBLEc,WAVY DASH,VERTICAL KANA REPEAT MARK",
   "3032 cWITH VOICED SOUNDa,cMARK UPPER HALF,cWITH VOICED SOUNDc,cMARK LOWERa",
   "3036 CIRCLED POSTAL MARK,IDEOGRAPHIC TELEGRAPH LINE FEED SEPARATOR SYMBOL",
   "3038 HANGZHOU NUMERAL TEN,bTWENTY,bTHIRTY,VERTICAL IDEOGRAPHIC ITERATION MARK,MASUa",
   "303D PART ALTERNATIONa,IDEOGRAPHIC VARIATION INDICATOR,aHALF FILL SPACE",
   "3041 HIRAGANA LETTER SMALL A,bA,bSMALL I,bI,bSMALL U,bU,bSMALL E,bE,bSMALL O,bO,bKA,bGA,bKI",
   "304E bGI,bKU,bGU,bKE,bGE,bKO,bGO,bSA,bZA,bSI,bZI,bSU,bZU,bSE,bZE,bSO,bZO,bTA,bDA,bTI,bDI",
   "3063 bSMALL TU,bTU,bDU,bTE,bDE,bTO,bDO,bNA,bNI,bNU,bNE,bNO,bHA,bBA,bPA,bHI,bBI,bPI,bHU,bBU",
   "3077 bPU,bHE,bBE,bPE,bHO,bBO,bPO,bMA,bMI,bMU,bME,bMO,bSMALL YA,bYA,bSMALL YU,bYU,bSMALL YO",
   "3088 bYO,bRA,bRI,bRU,bRE,bRO,bSMALL WA,bWA,bWI,bWE,bWO,bN,bVU,bSMALL KA,cKE",
   "3099 COMBINING KATAKANA-HIRAGANA VOICED SOUND MARK,bSEMI-VOICEDb,KATAKANA-HIRAGANA VOICEDb",
   "309C aSEMI-VOICEDb,HIRAGANA ITERATIONa,aVOICEDb,aDIGRAPH YORI,KATAKANA-HIRAGANA DOUBLE HYPHEN",
   "30A1 KATAKANA LETTER SMALL A,bA,bSMALL I,bI,bSMALL U,bU,bSMALL E,bE,bSMALL O,bO,bKA,bGA,bKI",
   "30AE bGI,bKU,bGU,bKE,bGE,bKO,bGO,bSA,bZA,bSI,bZI,bSU,bZU,bSE,bZE,bSO,bZO,bTA,bDA,bTI,bDI",
   "30C3 bSMALL TU,bTU,bDU,bTE,bDE,bTO,bDO,bNA,bNI,bNU,bNE,bNO,bHA,bBA,bPA,bHI,bBI,bPI,bHU,bBU",
   "30D7 bPU,bHE,bBE,bPE,bHO,bBO,bPO,bMA,bMI,bMU,bME,bMO,bSMALL YA,bYA,bSMALL YU,bYU,bSMALL YO",
   "30E8 bYO,bRA,bRI,bRU,bRE,bRO,bSMALL WA,bWA,bWI,bWE,bWO,bN,bVU,bSMALL KA,cKE,bVA,bVI,bVE,bVO",
   "30FB aMIDDLE DOT,KATAKANA-HIRAGANA PROLONGED SOUND MARK,KATAKANA ITERATIONa,aVOICEDb",
   "30FF aDIGRAPH KOTO,,,,,,BOPOMOFO LETTER B,bP,bM,bF,bD,bT,bN,bL,bG,bK,bH,bJ,bQ,bX,bZH,bCH,bSH",
   "3116 bR,bZ,bC,bS,bA,bO,bE,bEH,bAI,bEI,bAU,bOU,bAN,bEN,bANG,bENG,bER,bI,bU,bIU,bV,bNG,bGN,bIH",
   "312E bO WITH DOT ABOVE,bNN,,HANGUL LETTER KIYEOK,bSSANGKIYEOK,bKIYEOK-SIOS,bNIEUN",
   "3135 bNIEUN-CIEUC,bNIEUN-HIEUH,bTIKEUT,bSSANGTIKEUT,bRIEUL,bRIEUL-KIYEOK,bRIEUL-MIEUM",
   "313C bRIEUL-PIEUP,bRIEUL-SIOS,bRIEUL-THIEUTH,bRIEUL-PHIEUPH,bRIEUL-HIEUH,bMIEUM,bPIEUP",
   "3143 bSSANGPIEUP,bPIEUP-SIOS,bSIOS,bSSANGSIOS,bIEUNG,bCIEUC,bSSANGCIEUC,bCHIEUCH,bKHIEUKH",
   "314C bTHIEUTH,bPHIEUPH,bHIEUH,bA,bAE,bYA,bYAE,bEO,bE,bYEO,bYE,bO,bWA,bWAE,bOE,bYO,bU,bWEO,bWE",
   "315F bWI,bYU,bEU,bYI,bI,aFILLER,aLETTER SSANGNIEUN,bNIEUN-TIKEUT,bNIEUN-SIOS,bNIEUN-PANSIOS",
   "3169 bRIEUL-KIYEOK-SIOS,bRIEUL-TIKEUT,bRIEUL-PIEUP-SIOS,bRIEUL-PANSIOS,bRIEUL-YEORINHIEUH",
   "316E bMIEUM-PIEUP,bMIEUM-SIOS,bMIEUM-PANSIOS,bKAPYEOUNMIEUM,bPIEUP-KIYEOK,bPIEUP-TIKEUT",
   "3174 bPIEUP-SIOS-KIYEOK,bPIEUP-SIOS-TIKEUT,bPIEUP-CIEUC,bPIEUP-THIEUTH,bKAPYEOUNPIEUP",
   "3179 bKAPYEOUNSSANGPIEUP,bSIOS-KIYEOK,bSIOS-NIEUN,bSIOS-TIKEUT,bSIOS-PIEUP,bSIOS-CIEUC",
   "317F bPANSIOS,bSSANGIEUNG,bYESIEUNG,bYESIEUNG-SIOS,bYESIEUNG-PANSIOS,bKAPYEOUNPHIEUPH",
   "3185 bSSANGHIEUH,bYEORINHIEUH,bYO-YA,bYO-YAE,bYO-I,bYU-YEO,bYU-YE,bYU-I,bARAEA,bARAEAE",
   "3190 IDEOGRAPHIC ANNOTATION LINKING MARK,bREVERSEa,bONEa,bTWOa,bTHREEa,bFOURa,bTOPa,bMIDDLEa",
   "3198 bBOTTOMa,bFIRSTa,bSECONDa,bTHIRDa,bFOURTHa,bHEAVENa,bEARTHa,bMANa,BOPOMOFO LETTER BU,bZI",
   "31A2 bJI,bGU,bEE,bENN,bOO,bONN,bIR,bANN,bINN,bUNN,bIM,bNGG,bAINN,bAUNN,bAM,bOM,bONG,bINNN",
   "31B4 aFINAL LETTER P,cT,cK,cH,aLETTER GH,bLH,bZY,aFINAL LETTER G,aLETTER GW,bKW,bOE,bAH",
   "31C0 CJK STROKE T,bWG,bXG,bBXG,bSW,bHZZ,bHZG,bHP,bHZWG,bSZWG,bHZT,bHZZP,bHPWG,bHZW,bHZZZ,bN",
   "31D0 bH,bS,bP,bSP,bD,bHZ,bHG,bSZ,bSWZ,bST,bSG,bPD,bPZ,bTN,bSZZ,bSWG,bHXWG,bHZZZG,bPG,bQ",
   "31F0 KATAKANA LETTER SMALL KU,cSI,cSU,cTO,cNU,cHA,cHI,cHU,cHE,cHO,cMU,cRA,cRI,cRU,cRE,cRO",
   "3200 PARENTHESIZED HANGUL KIYEOK,bNIEUN,bTIKEUT,bRIEUL,bMIEUM,bPIEUP,bSIOS,bIEUNG,bCIEUC",
   "3209 bCHIEUCH,bKHIEUKH,bTHIEUTH,bPHIEUPH,bHIEUH,bKIYEOK A,bNIEUNa,bTIKEUTa,bRIEULa,bMIEUMa",
   "3213 bPIEUPa,bSIOSa,bIEUNGa,bCIEUCa,bCHIEUCHa,bKHIEUKHa,bTHIEUTHa,bPHIEUPHa,bHIEUHa,bCIEUC U",
   "321D aKOREAN CHARACTER OJEON,cO HU,,aIDEOGRAPH ONE,bTWO,bTHREE,bFOUR,bFIVE,bSIX,bSEVEN,bEIGHT",
   "3228 bNINE,bTEN,bMOON,bFIRE,bWATER,bWOOD,bMETAL,bEARTH,bSUN,bSTOCK,bHAVE,bSOCIETY,bNAME",
   "3235 bSPECIAL,bFINANCIAL,bCONGRATULATION,bLABOR,bREPRESENT,bCALL,bSTUDY,bSUPERVISE",
   "323D bENTERPRISE,bRESOURCE,bALLIANCE,bFESTIVAL,bREST,bSELF,bREACH,CIRCLED IDEOGRAPH QUESTION",
   "3245 bKINDERGARTEN,bSCHOOL,bKOTO,aNUMBER TEN ON BLACK SQUARE,bTWENTYc,bTHIRTYc,bFORTYc",
   "324C bFIFTYc,bSIXTYc,bSEVENTYc,bEIGHTYc,PARTNERSHIP SIGN,CIRCLED NUMBER TWENTY ONE,cTWO",
   "3253 cTHREE,cFOUR,cFIVE,cSIX,cSEVEN,cEIGHT,cNINE,bTHIRTY,cONE,cTWO,cTHREE,cFOUR,cFIVE",
   "3260 aHANGUL KIYEOK,bNIEUN,bTIKEUT,bRIEUL,bMIEUM,bPIEUP,bSIOS,bIEUNG,bCIEUC,bCHIEUCH,bKHIEUKH",
   "326B bTHIEUTH,bPHIEUPH,bHIEUH,bKIYEOK A,bNIEUNa,bTIKEUTa,bRIEULa,bMIEUMa,bPIEUPa,bSIOSa",
   "3275 bIEUNGa,bCIEUCa,bCHIEUCHa,bKHIEUKHa,bTHIEUTHa,bPHIEUPHa,bHIEUHa,aKOREAN CHARACTER CHAMKO",
   "327D cJUEUI,aHANGUL IEUNG U,KOREAN STANDARD SYMBOL,CIRCLED IDEOGRAPH ONE,bTWO,bTHREE,bFOUR",
   "3284 bFIVE,bSIX,bSEVEN,bEIGHT,bNINE,bTEN,bMOON,bFIRE,bWATER,bWOOD,bMETAL,bEARTH,bSUN,bSTOCK",
   "3292 bHAVE,bSOCIETY,bNAME,bSPECIAL,bFINANCIAL,bCONGRATULATION,bLABOR,bSECRET,bMALE,bFEMALE",
   "329C bSUITABLE,bEXCELLENT,bPRINT,bATTENTION,bITEM,bREST,bCOPY,bCORRECT,bHIGH,bCENTRE,bLOW",
   "32A7 bLEFT,bRIGHT,bMEDICINE,bRELIGION,bSTUDY,bSUPERVISE,bENTERPRISE,bRESOURCE,bALLIANCE",
   "32B0 bNIGHT,aNUMBER THIRTY SIX,cSEVEN,cEIGHT,cNINE,bFORTY,cONE,cTWO,cTHREE,cFOUR,cFIVE,cSIX",
   "32BC cSEVEN,cEIGHT,cNINE,bFIFTY,IDEOGRAPHIC TELEGRAPH SYMBOL FOR JANUARY,dFEBRUARY,dMARCH",
   "32C3 dAPRIL,dMAY,dJUNE,dJULY,dAUGUST,dSEPTEMBER,dOCTOBER,dNOVEMBER,dDECEMBER,SQUARE HG,aERG",
   "32CE aEV,LIMITED LIABILITY SIGN,CIRCLED KATAKANA A,bI,bU,bE,bO,bKA,bKI,bKU,bKE,bKO,bSA,bSI",
   "32DC bSU,bSE,bSO,bTA,bTI,bTU,bTE,bTO,bNA,bNI,bNU,bNE,bNO,bHA,bHI,bHU,bHE,bHO,bMA,bMI,bMU,bME",
   "32F2 bMO,bYA,bYU,bYO,bRA,bRI,bRU,bRE,bRO,bWA,bWI,bWE,bWO,SQUARE ERA NAME REIWA,aAPAATO",
   "3301 aARUHUA,aANPEA,aAARU,aININGU,aINTI,aUON,aESUKUUDO,aEEKAA,aONSU,aOOMU,aKAIRI,aKARATTO",
   "330D aKARORII,aGARON,aGANMA,aGIGA,aGINII,aKYURII,aGIRUDAA,aKIRO,aKIROGURAMU,aKIROMEETORU",
   "3317 aKIROWATTO,aGURAMU,aGURAMUTON,aKURUZEIRO,aKUROONE,aKEESU,aKORUNA,aKOOPO,aSAIKURU",
   "3320 aSANTIIMU,aSIRINGU,aSENTI,aSENTO,aDAASU,aDESI,aDORU,aTON,aNANO,aNOTTO,aHAITU,aPAASENTO",
   "332C aPAATU,aBAARERU,aPIASUTORU,aPIKURU,aPIKO,aBIRU,aHUARADDO,aHUIITO,aBUSSYERU,aHURAN",
   "3336 aHEKUTAARU,aPESO,aPENIHI,aHERUTU,aPENSU,aPEEZI,aBEETA,aPOINTO,aBORUTO,aHON,aPONDO,aHOORU",
   "3342 aHOON,aMAIKURO,aMAIRU,aMAHHA,aMARUKU,aMANSYON,aMIKURON,aMIRI,aMIRIBAARU,aMEGA,aMEGATON",
   "334D aMEETORU,aYAADO,aYAARU,aYUAN,aRITTORU,aRIRA,aRUPII,aRUUBURU,aREMU,aRENTOGEN,aWATTO",
   "3358 IDEOGRAPHIC TELEGRAPH SYMBOL FOR HOUR ZERO,eONE,eTWO,eTHREE,eFOUR,eFIVE,eSIX,eSEVEN",
   "3360 eEIGHT,eNINE,eTEN,eELEVEN,eTWELVE,eTHIRTEEN,eFOURTEEN,eFIFTEEN,eSIXTEEN,eSEVENTEEN",
   "336A eEIGHTEEN,eNINETEEN,eTWENTY,eTWENTY-ONE,eTWENTY-TWO,eTWENTY-THREE,eTWENTY-FOUR",
   "3371 SQUARE HPA,aDA,aAU,aBAR,aOV,aPC,aDM,bSQUARED,bCUBED,aIU,aERA NAME HEISEI,cSYOUWA",
   "337D cTAISYOU,cMEIZI,aCORPORATION,aPA AMPS,aNA,aMU A,aMA,aKA,aKB,aMB,aGB,aCAL,aKCAL,aPF,aNF",
   "338C aMU F,bG,aMG,aKG,aHZ,aKHZ,aMHZ,aGHZ,aTHZ,aMU L,aML,aDL,aKL,aFM,aNM,aMU M,aMM,aCM,aKM",
   "339F aMM SQUARED,aCMa,aMa,aKMa,aMM CUBED,aCMa,aMa,aKMa,aM OVER S,dSQUARED,aPA,aKPA,aMPA,aGPA",
   "33AD aRAD,bOVER S,dSQUARED,aPS,aNS,aMU S,aMS,aPV,aNV,aMU V,aMV,aKV,aMV MEGA,aPW,aNW,aMU W,aMW",
   "33BE aKW,aMW MEGA,aK OHM,aMa,aAM,aBQ,aCC,aCD,aC OVER KG,aCO,aDB,aGY,aHA,aHP,aIN,aKK",
   "33CE aKM CAPITAL,aKT,aLM,aLN,aLOG,aLX,aMB SMALL,aMIL,aMOL,aPH,aPM,aPPM,aPR,aSR,aSV,aWB",
   "33DE aV OVER M,aAb,IDEOGRAPHIC TELEGRAPH SYMBOL FOR DAY ONE,eTWO,eTHREE,eFOUR,eFIVE,eSIX",
   "33E6 eSEVEN,eEIGHT,eNINE,eTEN,eELEVEN,eTWELVE,eTHIRTEEN,eFOURTEEN,eFIFTEEN,eSIXTEEN",
   "33F0 eSEVENTEEN,eEIGHTEEN,eNINETEEN,eTWENTY,eTWENTY-ONE,eTWENTY-TWO,eTWENTY-THREE",
   "33F7 eTWENTY-FOUR,eTWENTY-FIVE,eTWENTY-SIX,eTWENTY-SEVEN,eTWENTY-EIGHT,eTWENTY-NINE,eTHIRTY",
   "33FE eTHIRTY-ONE,SQUARE GAL",
   "4DC0 HEXAGRAM FOR THE CREATIVE HEAVEN,cRECEPTIVE EARTH,bDIFFICULTY AT THE BEGINNING",
   "4DC3 bYOUTHFUL FOLLY,bWAITING,bCONFLICT,bTHE ARMY,bHOLDING TOGETHER,bSMALL TAMING,bTREADING",
   "4DCA bPEACE,bSTANDSTILL,bFELLOWSHIP,bGREAT POSSESSION,bMODESTY,bENTHUSIASM,bFOLLOWING",
   "4DD1 bWORK ON THE DECAYED,bAPPROACH,bCONTEMPLATION,bBITING THROUGH,bGRACE,bSPLITTING APART",
   "4DD7 bRETURN,bINNOCENCE,bGREAT TAMING,bMOUTH CORNERS,bGREAT PREPONDERANCE,bTHE ABYSMAL WATER",
   "4DDD cCLINGING FIRE,bINFLUENCE,bDURATION,bRETREAT,bGREAT POWER,bPROGRESS",
   "4DE3 bDARKENING OF THE LIGHT,bTHE FAMILY,bOPPOSITION,bOBSTRUCTION,bDELIVERANCE,bDECREASE",
   "4DE9 bINCREASE,bBREAKTHROUGH,bCOMING TO MEET,bGATHERING TOGETHER,bPUSHING UPWARD,bOPPRESSION",
   "4DEF bTHE WELL,bREVOLUTION,bTHE CAULDRON,cAROUSING THUNDER,cKEEPING STILL MOUNTAIN",
   "4DF4 bDEVELOPMENT,bTHE MARRYING MAIDEN,bABUNDANCE,bTHE WANDERER,cGENTLE WIND,cJOYOUS LAKE",
   "4DFA bDISPERSION,bLIMITATION,bINNER TRUTH,bSMALL PREPONDERANCE,bAFTER COMPLETION,bBEFOREa",
   "A000 YI SYLLABLE IT,bIX,bI,bIP,bIET,bIEX,bIE,bIEP,bAT,bAX,bA,bAP,bUOX,bUO,bUOP,bOT,bOX,bO,bOP",
   "A013 bEX,bE,bWU,bBIT,bBIX,bBI,bBIP,bBIET,bBIEX,bBIE,bBIEP,bBAT,bBAX,bBA,bBAP,bBUOX,bBUO,bBUOP",
   "A025 bBOT,bBOX,bBO,bBOP,bBEX,bBE,bBEP,bBUT,bBUX,bBU,bBUP,bBURX,bBUR,bBYT,bBYX,bBY,bBYP,bBYRX",
   "A037 bBYR,bPIT,bPIX,bPI,bPIP,bPIEX,bPIE,bPIEP,bPAT,bPAX,bPA,bPAP,bPUOX,bPUO,bPUOP,bPOT,bPOX",
   "A048 bPO,bPOP,bPUT,bPUX,bPU,bPUP,bPURX,bPUR,bPYT,bPYX,bPY,bPYP,bPYRX,bPYR,bBBIT,bBBIX,bBBI",
   "A059 bBBIP,bBBIET,bBBIEX,bBBIE,bBBIEP,bBBAT,bBBAX,bBBA,bBBAP,bBBUOX,bBBUO,bBBUOP,bBBOT,bBBOX",
   "A067 bBBO,bBBOP,bBBEX,bBBE,bBBEP,bBBUT,bBBUX,bBBU,bBBUP,bBBURX,bBBUR,bBBYT,bBBYX,bBBY,bBBYP",
   "A076 bNBIT,bNBIX,bNBI,bNBIP,bNBIEX,bNBIE,bNBIEP,bNBAT,bNBAX,bNBA,bNBAP,bNBOT,bNBOX,bNBO,bNBOP",
   "A085 bNBUT,bNBUX,bNBU,bNBUP,bNBURX,bNBUR,bNBYT,bNBYX,bNBY,bNBYP,bNBYRX,bNBYR,bHMIT,bHMIX,bHMI",
   "A094 bHMIP,bHMIEX,bHMIE,bHMIEP,bHMAT,bHMAX,bHMA,bHMAP,bHMUOX,bHMUO,bHMUOP,bHMOT,bHMOX,bHMO",
   "A0A2 bHMOP,bHMUT,bHMUX,bHMU,bHMUP,bHMURX,bHMUR,bHMYX,bHMY,bHMYP,bHMYRX,bHMYR,bMIT,bMIX,bMI",
   "A0B1 bMIP,bMIEX,bMIE,bMIEP,bMAT,bMAX,bMA,bMAP,bMUOT,bMUOX,bMUO,bMUOP,bMOT,bMOX,bMO,bMOP,bMEX",
   "A0C2 bME,bMUT,bMUX,bMU,bMUP,bMURX,bMUR,bMYT,bMYX,bMY,bMYP,bFIT,bFIX,bFI,bFIP,bFAT,bFAX,bFA",
   "A0D4 bFAP,bFOX,bFO,bFOP,bFUT,bFUX,bFU,bFUP,bFURX,bFUR,bFYT,bFYX,bFY,bFYP,bVIT,bVIX,bVI,bVIP",
   "A0E6 bVIET,bVIEX,bVIE,bVIEP,bVAT,bVAX,bVA,bVAP,bVOT,bVOX,bVO,bVOP,bVEX,bVEP,bVUT,bVUX,bVU",
   "A0F7 bVUP,bVURX,bVUR,bVYT,bVYX,bVY,bVYP,bVYRX,bVYR,bDIT,bDIX,bDI,bDIP,bDIEX,bDIE,bDIEP,bDAT",
   "A108 bDAX,bDA,bDAP,bDUOX,bDUO,bDOT,bDOX,bDO,bDOP,bDEX,bDE,bDEP,bDUT,bDUX,bDU,bDUP,bDURX,bDUR",
   "A11A bTIT,bTIX,bTI,bTIP,bTIEX,bTIE,bTIEP,bTAT,bTAX,bTA,bTAP,bTUOT,bTUOX,bTUO,bTUOP,bTOT,bTOX",
   "A12B bTO,bTOP,bTEX,bTE,bTEP,bTUT,bTUX,bTU,bTUP,bTURX,bTUR,bDDIT,bDDIX,bDDI,bDDIP,bDDIEX,bDDIE",
   "A13C bDDIEP,bDDAT,bDDAX,bDDA,bDDAP,bDDUOX,bDDUO,bDDUOP,bDDOT,bDDOX,bDDO,bDDOP,bDDEX,bDDE",
   "A14A bDDEP,bDDUT,bDDUX,bDDU,bDDUP,bDDURX,bDDUR,bNDIT,bNDIX,bNDI,bNDIP,bNDIEX,bNDIE,bNDAT",
   "A158 bNDAX,bNDA,bNDAP,bNDOT,bNDOX,bNDO,bNDOP,bNDEX,bNDE,bNDEP,bNDUT,bNDUX,bNDU,bNDUP,bNDURX",
   "A167 bNDUR,bHNIT,bHNIX,bHNI,bHNIP,bHNIET,bHNIEX,bHNIE,bHNIEP,bHNAT,bHNAX,bHNA,bHNAP,bHNUOX",
   "A175 bHNUO,bHNOT,bHNOX,bHNOP,bHNEX,bHNE,bHNEP,bHNUT,bNIT,bNIX,bNI,bNIP,bNIEX,bNIE,bNIEP,bNAX",
   "A185 bNA,bNAP,bNUOX,bNUO,bNUOP,bNOT,bNOX,bNO,bNOP,bNEX,bNE,bNEP,bNUT,bNUX,bNU,bNUP,bNURX,bNUR",
   "A197 bHLIT,bHLIX,bHLI,bHLIP,bHLIEX,bHLIE,bHLIEP,bHLAT,bHLAX,bHLA,bHLAP,bHLUOX,bHLUO,bHLUOP",
   "A1A5 bHLOX,bHLO,bHLOP,bHLEX,bHLE,bHLEP,bHLUT,bHLUX,bHLU,bHLUP,bHLURX,bHLUR,bHLYT,bHLYX,bHLY",
   "A1B4 bHLYP,bHLYRX,bHLYR,bLIT,bLIX,bLI,bLIP,bLIET,bLIEX,bLIE,bLIEP,bLAT,bLAX,bLA,bLAP,bLUOT",
   "A1C4 bLUOX,bLUO,bLUOP,bLOT,bLOX,bLO,bLOP,bLEX,bLE,bLEP,bLUT,bLUX,bLU,bLUP,bLURX,bLUR,bLYT",
   "A1D5 bLYX,bLY,bLYP,bLYRX,bLYR,bGIT,bGIX,bGI,bGIP,bGIET,bGIEX,bGIE,bGIEP,bGAT,bGAX,bGA,bGAP",
   "A1E6 bGUOT,bGUOX,bGUO,bGUOP,bGOT,bGOX,bGO,bGOP,bGET,bGEX,bGE,bGEP,bGUT,bGUX,bGU,bGUP,bGURX",
   "A1F7 bGUR,bKIT,bKIX,bKI,bKIP,bKIEX,bKIE,bKIEP,bKAT,bKAX,bKA,bKAP,bKUOX,bKUO,bKUOP,bKOT,bKOX",
   "A208 bKO,bKOP,bKET,bKEX,bKE,bKEP,bKUT,bKUX,bKU,bKUP,bKURX,bKUR,bGGIT,bGGIX,bGGI,bGGIEX,bGGIE",
   "A219 bGGIEP,bGGAT,bGGAX,bGGA,bGGAP,bGGUOT,bGGUOX,bGGUO,bGGUOP,bGGOT,bGGOX,bGGO,bGGOP,bGGET",
   "A227 bGGEX,bGGE,bGGEP,bGGUT,bGGUX,bGGU,bGGUP,bGGURX,bGGUR,bMGIEX,bMGIE,bMGAT,bMGAX,bMGA,bMGAP",
   "A236 bMGUOX,bMGUO,bMGUOP,bMGOT,bMGOX,bMGO,bMGOP,bMGEX,bMGE,bMGEP,bMGUT,bMGUX,bMGU,bMGUP",
   "A244 bMGURX,bMGUR,bHXIT,bHXIX,bHXI,bHXIP,bHXIET,bHXIEX,bHXIE,bHXIEP,bHXAT,bHXAX,bHXA,bHXAP",
   "A252 bHXUOT,bHXUOX,bHXUO,bHXUOP,bHXOT,bHXOX,bHXO,bHXOP,bHXEX,bHXE,bHXEP,bNGIEX,bNGIE,bNGIEP",
   "A260 bNGAT,bNGAX,bNGA,bNGAP,bNGUOT,bNGUOX,bNGUO,bNGOT,bNGOX,bNGO,bNGOP,bNGEX,bNGE,bNGEP,bHIT",
   "A26F bHIEX,bHIE,bHAT,bHAX,bHA,bHAP,bHUOT,bHUOX,bHUO,bHUOP,bHOT,bHOX,bHO,bHOP,bHEX,bHE,bHEP",
   "A280 bWAT,bWAX,bWA,bWAP,bWUOX,bWUO,bWUOP,bWOX,bWO,bWOP,bWEX,bWE,bWEP,bZIT,bZIX,bZI,bZIP,bZIEX",
   "A292 bZIE,bZIEP,bZAT,bZAX,bZA,bZAP,bZUOX,bZUO,bZUOP,bZOT,bZOX,bZO,bZOP,bZEX,bZE,bZEP,bZUT",
   "A2A3 bZUX,bZU,bZUP,bZURX,bZUR,bZYT,bZYX,bZY,bZYP,bZYRX,bZYR,bCIT,bCIX,bCI,bCIP,bCIET,bCIEX",
   "A2B4 bCIE,bCIEP,bCAT,bCAX,bCA,bCAP,bCUOX,bCUO,bCUOP,bCOT,bCOX,bCO,bCOP,bCEX,bCE,bCEP,bCUT",
   "A2C5 bCUX,bCU,bCUP,bCURX,bCUR,bCYT,bCYX,bCY,bCYP,bCYRX,bCYR,bZZIT,bZZIX,bZZI,bZZIP,bZZIET",
   "A2D5 bZZIEX,bZZIE,bZZIEP,bZZAT,bZZAX,bZZA,bZZAP,bZZOX,bZZO,bZZOP,bZZEX,bZZE,bZZEP,bZZUX,bZZU",
   "A2E4 bZZUP,bZZURX,bZZUR,bZZYT,bZZYX,bZZY,bZZYP,bZZYRX,bZZYR,bNZIT,bNZIX,bNZI,bNZIP,bNZIEX",
   "A2F2 bNZIE,bNZIEP,bNZAT,bNZAX,bNZA,bNZAP,bNZUOX,bNZUO,bNZOX,bNZOP,bNZEX,bNZE,bNZUX,bNZU,bNZUP",
   "A301 bNZURX,bNZUR,bNZYT,bNZYX,bNZY,bNZYP,bNZYRX,bNZYR,bSIT,bSIX,bSI,bSIP,bSIEX,bSIE,bSIEP",
   "A310 bSAT,bSAX,bSA,bSAP,bSUOX,bSUO,bSUOP,bSOT,bSOX,bSO,bSOP,bSEX,bSE,bSEP,bSUT,bSUX,bSU,bSUP",
   "A322 bSURX,bSUR,bSYT,bSYX,bSY,bSYP,bSYRX,bSYR,bSSIT,bSSIX,bSSI,bSSIP,bSSIEX,bSSIE,bSSIEP",
   "A331 bSSAT,bSSAX,bSSA,bSSAP,bSSOT,bSSOX,bSSO,bSSOP,bSSEX,bSSE,bSSEP,bSSUT,bSSUX,bSSU,bSSUP",
   "A340 bSSYT,bSSYX,bSSY,bSSYP,bSSYRX,bSSYR,bZHAT,bZHAX,bZHA,bZHAP,bZHUOX,bZHUO,bZHUOP,bZHOT",
   "A34E bZHOX,bZHO,bZHOP,bZHET,bZHEX,bZHE,bZHEP,bZHUT,bZHUX,bZHU,bZHUP,bZHURX,bZHUR,bZHYT,bZHYX",
   "A35D bZHY,bZHYP,bZHYRX,bZHYR,bCHAT,bCHAX,bCHA,bCHAP,bCHUOT,bCHUOX,bCHUO,bCHUOP,bCHOT,bCHOX",
   "A36B bCHO,bCHOP,bCHET,bCHEX,bCHE,bCHEP,bCHUX,bCHU,bCHUP,bCHURX,bCHUR,bCHYT,bCHYX,bCHY,bCHYP",
   "A37A bCHYRX,bCHYR,bRRAX,bRRA,bRRUOX,bRRUO,bRROT,bRROX,bRRO,bRROP,bRRET,bRREX,bRRE,bRREP,bRRUT",
   "A389 bRRUX,bRRU,bRRUP,bRRURX,bRRUR,bRRYT,bRRYX,bRRY,bRRYP,bRRYRX,bRRYR,bNRAT,bNRAX,bNRA,bNRAP",
   "A398 bNROX,bNRO,bNROP,bNRET,bNREX,bNRE,bNREP,bNRUT,bNRUX,bNRU,bNRUP,bNRURX,bNRUR,bNRYT,bNRYX",
   "A3A7 bNRY,bNRYP,bNRYRX,bNRYR,bSHAT,bSHAX,bSHA,bSHAP,bSHUOX,bSHUO,bSHUOP,bSHOT,bSHOX,bSHO",
   "A3B5 bSHOP,bSHET,bSHEX,bSHE,bSHEP,bSHUT,bSHUX,bSHU,bSHUP,bSHURX,bSHUR,bSHYT,bSHYX,bSHY,bSHYP",
   "A3C4 bSHYRX,bSHYR,bRAT,bRAX,bRA,bRAP,bRUOX,bRUO,bRUOP,bROT,bROX,bRO,bROP,bREX,bRE,bREP,bRUT",
   "A3D5 bRUX,bRU,bRUP,bRURX,bRUR,bRYT,bRYX,bRY,bRYP,bRYRX,bRYR,bJIT,bJIX,bJI,bJIP,bJIET,bJIEX",
   "A3E6 bJIE,bJIEP,bJUOT,bJUOX,bJUO,bJUOP,bJOT,bJOX,bJO,bJOP,bJUT,bJUX,bJU,bJUP,bJURX,bJUR,bJYT",
   "A3F7 bJYX,bJY,bJYP,bJYRX,bJYR,bQIT,bQIX,bQI,bQIP,bQIET,bQIEX,bQIE,bQIEP,bQUOT,bQUOX,bQUO",
   "A407 bQUOP,bQOT,bQOX,bQO,bQOP,bQUT,bQUX,bQU,bQUP,bQURX,bQUR,bQYT,bQYX,bQY,bQYP,bQYRX,bQYR",
   "A418 bJJIT,bJJIX,bJJI,bJJIP,bJJIET,bJJIEX,bJJIE,bJJIEP,bJJUOX,bJJUO,bJJUOP,bJJOT,bJJOX,bJJO",
   "A426 bJJOP,bJJUT,bJJUX,bJJU,bJJUP,bJJURX,bJJUR,bJJYT,bJJYX,bJJY,bJJYP,bNJIT,bNJIX,bNJI,bNJIP",
   "A435 bNJIET,bNJIEX,bNJIE,bNJIEP,bNJUOX,bNJUO,bNJOT,bNJOX,bNJO,bNJOP,bNJUX,bNJU,bNJUP,bNJURX",
   "A443 bNJUR,bNJYT,bNJYX,bNJY,bNJYP,bNJYRX,bNJYR,bNYIT,bNYIX,bNYI,bNYIP,bNYIET,bNYIEX,bNYIE",
   "A451 bNYIEP,bNYUOX,bNYUO,bNYUOP,bNYOT,bNYOX,bNYO,bNYOP,bNYUT,bNYUX,bNYU,bNYUP,bXIT,bXIX,bXI",
   "A460 bXIP,bXIET,bXIEX,bXIE,bXIEP,bXUOX,bXUO,bXOT,bXOX,bXO,bXOP,bXYT,bXYX,bXY,bXYP,bXYRX,bXYR",
   "A471 bYIT,bYIX,bYI,bYIP,bYIET,bYIEX,bYIE,bYIEP,bYUOT,bYUOX,bYUO,bYUOP,bYOT,bYOX,bYO,bYOP,bYUT",
   "A482 bYUX,bYU,bYUP,bYURX,bYUR,bYYT,bYYX,bYY,bYYP,bYYRX,bYYR,,,,aRADICAL QOT,bLI,bKIT,bNYIP",
   "A494 bCYP,bSSI,bGGOP,bGEP,bMI,bHXIT,bLYR,bBBUT,bMOP,bYO,bPUT,bHXUO,bTAT,bGA,bZUP,bCYT,bDDUR",
   "A4A5 bBUR,bGGUO,bNYOP,bTU,bOP,bJJUT,bZOT,bPYT,bHMO,bYIT,bVUR,bSHY,bVEP,bZA,bJO,bNZUP,bJJY",
   "A4B6 bGOT,bJJIE,bWO,bDU,bSHUR,bLIE,bCY,bCUOP,bCIP,bHXOP,bSHAT,bZUR,bSHOP,bCHE,bZZIET,bNBIE",
   "A4C6 bKE,,,,,,,,,,LISU LETTER BA,bPA,bPHA,bDA,bTA,bTHA,bGA,bKA,bKHA,bJA,bCA,bCHA,bDZA,bTSA",
   "A4DE bTSHA,bMA,bNA,bLA,bSA,bZHA,bZA,bNGA,bHA,bXA,bHHA,bFA,bWA,bSHA,bYA,bGHA,bA,bAE,bE,bEU,bI",
   "A4F3 bO,bU,bUE,bUH,bOE,bTONE MYA TI,cNA PO,cMYA CYA,dBO,dNA,dJEU,aPUNCTUATION COMMA",
   "A4FF bFULL STOP,VAI SYLLABLE EE,bEEN,bHEE,bWEE,bWEEN,bPEE,bBHEE,bBEE,bMBEE,bKPEE,bMGBEE,bGBEE",
   "A50C bFEE,bVEE,bTEE,bTHEE,bDHEE,bDHHEE,bLEE,bREE,bDEE,bNDEE,bSEE,bSHEE,bZEE,bZHEE,bCEE,bJEE",
   "A51C bNJEE,bYEE,bKEE,bNGGEE,bGEE,bMEE,bNEE,bNYEE,bI,bIN,bHI,bHIN,bWI,bWIN,bPI,bBHI,bBI,bMBI",
   "A52E bKPI,bMGBI,bGBI,bFI,bVI,bTI,bTHI,bDHI,bDHHI,bLI,bRI,bDI,bNDI,bSI,bSHI,bZI,bZHI,bCI,bJI",
   "A541 bNJI,bYI,bKI,bNGGI,bGI,bMI,bNI,bNYI,bA,bAN,bNGAN,bHA,bHAN,bWA,bWAN,bPA,bBHA,bBA,bMBA",
   "A554 bKPA,bKPAN,bMGBA,bGBA,bFA,bVA,bTA,bTHA,bDHA,bDHHA,bLA,bRA,bDA,bNDA,bSA,bSHA,bZA,bZHA,bCA",
   "A567 bJA,bNJA,bYA,bKA,bKAN,bNGGA,bGA,bMA,bNA,bNYA,bOO,bOON,bHOO,bWOO,bWOON,bPOO,bBHOO,bBOO",
   "A579 bMBOO,bKPOO,bMGBOO,bGBOO,bFOO,bVOO,bTOO,bTHOO,bDHOO,bDHHOO,bLOO,bROO,bDOO,bNDOO,bSOO",
   "A588 bSHOO,bZOO,bZHOO,bCOO,bJOO,bNJOO,bYOO,bKOO,bNGGOO,bGOO,bMOO,bNOO,bNYOO,bU,bUN,bHU,bHUN",
   "A599 bWU,bWUN,bPU,bBHU,bBU,bMBU,bKPU,bMGBU,bGBU,bFU,bVU,bTU,bTHU,bDHU,bDHHU,bLU,bRU,bDU,bNDU",
   "A5AC bSU,bSHU,bZU,bZHU,bCU,bJU,bNJU,bYU,bKU,bNGGU,bGU,bMU,bNU,bNYU,bO,bON,bNGON,bHO,bHON,bWO",
   "A5C0 bWON,bPO,bBHO,bBO,bMBO,bKPO,bMGBO,bGBO,bGBON,bFO,bVO,bTO,bTHO,bDHO,bDHHO,bLO,bRO,bDO",
   "A5D2 bNDO,bSO,bSHO,bZO,bZHO,bCO,bJO,bNJO,bYO,bKO,bNGGO,bGO,bMO,bNO,bNYO,bE,bEN,bNGEN,bHE,bHEN",
   "A5E6 bWE,bWEN,bPE,bBHE,bBE,bMBE,bKPE,bKPEN,bMGBE,bGBE,bGBEN,bFE,bVE,bTE,bTHE,bDHE,bDHHE,bLE",
   "A5F8 bRE,bDE,bNDE,bSE,bSHE,bZE,bZHE,bCE,bJE,bNJE,bYE,bKE,bNGGE,bNGGEN,bGE,bGEN,bME,bNE,bNYE",
   "A60B bNG,bLENGTHENER,aCOMMA,aFULL STOP,aQUESTION MARK,aSYLLABLE NDOLE FA,cKA,cSOO",
   "A613 aSYMBOL FEENG,bKEENG,bTING,bNII,bBANG,bFAA,bTAA,bDANG,bDOONG,bKUNG,bTONG,bDO-O,bJONG",
   "A620 aDIGIT ZERO,bONE,bTWO,bTHREE,bFOUR,bFIVE,bSIX,bSEVEN,bEIGHT,bNINE,aSYLLABLE NDOLE MA,cDO",
   "A640 CYRILLIC CAPITAL LETTER ZEMLYA,aSMALLb,aCAPITAL LETTER DZELO,aSMALLb",
   "A644 aCAPITAL LETTER REVERSED DZE,aSMALLc,aCAPITAL LETTER IOTA,aSMALLb,aCAPITAL LETTER DJERV",
   "A649 aSMALLb,aCAPITAL LETTER MONOGRAPH UK,aSMALLc,aCAPITAL LETTER BROAD OMEGA,aSMALLc",
   "A64E aCAPITAL LETTER NEUTRAL YER,aSMALLc,aCAPITAL LETTER YERU WITH BACKa,aSMALLe",
   "A652 aCAPITAL LETTER IOTIFIED YAT,aSMALLc,aCAPITAL LETTER REVERSED YU,aSMALLc",
   "A656 aCAPITAL LETTER IOTIFIED A,aSMALLc,aCAPITAL LETTER CLOSED LITTLE YUS,aSMALLd",
   "A65A aCAPITAL LETTER BLENDEDa,aSMALLc,aCAPITAL LETTER IOTIFIED CLOSED LITTLEa,aSMALLe",
   "A65E aCAPITAL LETTER YN,aSMALLb,aCAPITAL LETTER REVERSED TSE,aSMALLc,aCAPITAL LETTER SOFT DE",
   "A663 aSMALLc,aCAPITAL LETTER SOFT EL,aSMALLc,aCAPITAL LETTER SOFT EM,aSMALLc",
   "A668 aCAPITAL LETTER MONOCULAR O,aSMALLc,aCAPITAL LETTER BINOCULARa,aSMALLc",
   "A66C aCAPITAL LETTER DOUBLE MONOCULARa,aSMALLd,aLETTER MULTIOCULARa,COMBINING CYRILLIC VZMET",
   "A670 bTEN MILLIONS SIGN,bHUNDREDb,bTHOUSANDb,SLAVONIC ASTERISK",
   "A674 COMBINING CYRILLIC LETTER UKRAINIAN IE,cI,cYI,cU,cHARD SIGN,cYERU,cSOFT SIGN,cOMEGA",
   "A67C bKAVYKA,bPAYEROK,CYRILLIC KAVYKA,aPAYEROK,aCAPITAL LETTER DWE,aSMALLb",
   "A682 aCAPITAL LETTER DZWE,aSMALLb,aCAPITAL LETTER ZHWE,aSMALLb,aCAPITAL LETTER CCHE,aSMALLb",
   "A688 aCAPITAL LETTER DZZE,aSMALLb,aCAPITAL LETTER TE WITH MIDDLE HOOK,aSMALLe",
   "A68C aCAPITAL LETTER TWE,aSMALLb,aCAPITAL LETTER TSWE,aSMALLb,aCAPITAL LETTER TSSE,aSMALLb",
   "A692 aCAPITAL LETTER TCHE,aSMALLb,aCAPITAL LETTER HWE,aSMALLb,aCAPITAL LETTER SHWE,aSMALLb",
   "A698 aCAPITAL LETTER DOUBLE O,aSMALLc,aCAPITAL LETTER CROSSEDa,aSMALLc",
   "A69C MODIFIER LETTER CYRILLIC HARD SIGN,cSOFTa,COMBINING CYRILLIC LETTER EF,cIOTIFIED E",
   "A6A0 BAMUM LETTER A,bKA,bU,bKU,bEE,bREE,bTAE,bO,bNYI,bI,bLA,bPA,bRII,bRIEE,bLEEEE,bMEEEE,bTAA",
   "A6B1 bNDAA,bNJAEM,bM,bSUU,bMU,bSHII,bSI,bSHEUX,bSEUX,bKYEE,bKET,bNUAE,bNU,bNJUAE,bYOQ,bSHU",
   "A6C1 bYUQ,bYA,bNSHA,bKEUX,bPEUX,bNJEE,bNTEE,bPUE,bWUE,bPEE,bFEE,bRU,bLU,bMI,bNI,bREUX,bRAE",
   "A6D2 bKEN,bNGKWAEN,bNGGA,bNGA,bSHO,bPUAE,bFU,bFOM,bWA,bNA,bLI,bPI,bLOQ,bKO,bMBEN,bREN,bMEN",
   "A6E3 bMA,bTI,bKI,bMO,bMBAA,bTET,bKPA,bTEN,bNTUU,bSAMBA,bFAAMAE,bKOVUU,bKOGHOM",
   "A6F0 aCOMBINING MARK KOQNDON,cTUKWENTIS,aNJAEMLI,aFULL STOP,aCOLON,aCOMMA,aSEMICOLON",
   "A6F7 aQUESTION MARK,,,,,,,,,MODIFIER LETTER CHINESE TONE YIN PING,dYANGa,dYIN SHANG,dYANGa",
   "A704 dYIN QU,dYANGa,dYIN RU,dYANGa,bEXTRA-HIGH DOTTED TONE BAR,bHIGHc,bMIDc,bLOWc,bEXTRA-LOWc",
   "A70D bEXTRA-HIGH DOTTED LEFT-STEMb,bHIGHd,bMIDd,bLOWd,bEXTRA-LOWd,bEXTRA-HIGHc,bHIGHc,bMIDc",
   "A715 bLOWc,bEXTRA-LOWc,bDOT VERTICALa,cSLASH,cHORIZONTAL BAR,bLOWER RIGHT CORNER ANGLE",
   "A71B bRAISED UP ARROW,cDOWNa,cEXCLAMATION MARK,cINVERTEDb,bLOWc,bSTRESS AND HIGH TONE,dLOWa",
   "A722 LATIN CAPITAL LETTER EGYPTOLOGICAL ALEF,aSMALLc,aCAPITAL LETTER EGYPTOLOGICAL AIN",
   "A725 aSMALLc,aCAPITAL LETTER HENG,aSMALLb,aCAPITAL LETTER TZ,aSMALLb,aCAPITAL LETTER TRESILLO",
   "A72B aSMALLb,aCAPITAL LETTER CUATRILLO,aSMALLb,aCAPITAL LETTER CUATRILLO WITH COMMA,aSMALLd",
   "A730 aLETTER SMALL CAPITAL F,dS,aCAPITAL LETTER AA,aSMALLb,aCAPITAL LETTER AO,aSMALLb",
   "A736 aCAPITAL LETTER AU,aSMALLb,aCAPITAL LETTER AV,aSMALLb",
   "A73A aCAPITAL LETTER AV WITH HORIZONTAL BAR,aSMALLe,aCAPITAL LETTER AY,aSMALLb",
   "A73E aCAPITAL LETTER REVERSED C WITH DOT,aSMALLe,aCAPITAL LETTER K WITH STROKE,aSMALLd",
   "A742 aCAPITAL LETTER K WITH DIAGONALa,aSMALLe,aCAPITAL LETTER K WITH STROKE ANDb,aSMALLg",
   "A746 aCAPITAL LETTER BROKEN L,aSMALLc,aCAPITAL LETTER L WITH HIGH STROKE,aSMALLe",
   "A74A aCAPITAL LETTER O WITH LONG STROKE OVERLAY,aSMALLf,aCAPITAL LETTER O WITH LOOP,aSMALLd",
   "A74E aCAPITAL LETTER OO,aSMALLb,aCAPITAL LETTER P WITH STROKE THROUGH DESCENDER,aSMALLf",
   "A752 aCAPITAL LETTER P WITH FLOURISH,aSMALLd,aCAPITAL LETTER P WITH SQUIRREL TAIL,aSMALLe",
   "A756 aCAPITAL LETTER Q WITH STROKE THROUGH DESCENDER,aSMALLf",
   "A758 aCAPITAL LETTER Q WITH DIAGONAL STROKE,aSMALLe,aCAPITAL LETTER R ROTUNDA,aSMALLc",
   "A75C aCAPITAL LETTER RUMa,aSMALLc,aCAPITAL LETTER V WITH DIAGONAL STROKE,aSMALLe",
   "A760 aCAPITAL LETTER VY,aSMALLb,aCAPITAL LETTER VISIGOTHIC Z,aSMALLc",
   "A764 aCAPITAL LETTER THORN WITH STROKE,aSMALLd",
   "A766 aCAPITAL LETTER THORN WITH STROKE THROUGH DESCENDER,aSMALLf,aCAPITAL LETTER VEND,aSMALLb",
   "A76A aCAPITAL LETTER ET,aSMALLb,aCAPITAL LETTER IS,aSMALLb,aCAPITAL LETTER CON,aSMALLb",
   "A770 MODIFIER LETTER US,LATIN SMALL LETTER DUM,cLUM,cMUM,cNUM,cRUM,aLETTER SMALL CAPITALa",
   "A777 aSMALL LETTER TUM,cUM,aCAPITAL LETTER INSULAR D,aSMALLc,aCAPITAL LETTER INSULAR F",
   "A77C aSMALLc,aCAPITAL LETTER INSULAR G,cTURNEDb,aSMALLd,aCAPITAL LETTER TURNED L,aSMALLc",
   "A782 aCAPITAL LETTER INSULAR R,aSMALLc,aCAPITAL LETTER INSULAR S,aSMALLc",
   "A786 aCAPITAL LETTER INSULAR T,aSMALLc,MODIFIER LETTER LOW CIRCUMFLEX ACCENT,bCOLON",
   "A78A bSHORT EQUALS SIGN,LATIN CAPITAL LETTER SALTILLO,aSMALLb,aCAPITAL LETTER TURNED H",
   "A78E aSMALL LETTER L WITH RETROFLEX HOOK AND BELT,aLETTER SINOLOGICAL DOT",
   "A790 aCAPITAL LETTER N WITH DESCENDER,aSMALLd,aCAPITAL LETTER C WITH BAR,aSMALLd",
   "A794 ePALATAL HOOK,cHc,aCAPITAL LETTER B WITH FLOURISH,aSMALLd,aCAPITAL LETTER F WITH STROKE",
   "A799 aSMALLd,aCAPITAL LETTER VOLAPUK AE,aSMALLc,aCAPITAL LETTER VOLAPUK OE,aSMALLc",
   "A79E aCAPITAL LETTER VOLAPUK UE,aSMALLc,aCAPITAL LETTER G WITH OBLIQUE STROKE,aSMALLe",
   "A7A2 aCAPITAL LETTER Kc,aSMALLe,aCAPITAL LETTER Nc,aSMALLe,aCAPITAL LETTER Rc,aSMALLe",
   "A7A8 aCAPITAL LETTER Sc,aSMALLe,aCAPITAL LETTER H WITH HOOK,cREVERSED OPEN E,cSCRIPT G",
   "A7AD cL WITH BELT,cSMALL CAPITAL I,aLETTER SMALL CAPITAL Q,aCAPITAL LETTER TURNED K,dT",
   "A7B2 cJ WITH CROSSED-TAIL,cCHI,cBETA,aSMALLb,aCAPITAL LETTER OMEGA,aSMALLb",
   "A7B8 aCAPITAL LETTER U WITH STROKE,aSMALLd,aCAPITAL LETTER GLOTTAL A,aSMALLc",
   "A7BC aCAPITAL LETTER GLOTTAL I,aSMALLc,aCAPITAL LETTER GLOTTAL U,aSMALLc",
   "A7C0 aCAPITAL LETTER OLD POLISH O,aSMALLd,aCAPITAL LETTER ANGLICANA W,aSMALLc",
   "A7C4 aCAPITAL LETTER C WITH PALATAL HOOK,cS WITHa,cZ WITH PALATALa",
   "A7C7 cD WITH SHORT STROKE OVERLAY,aSMALLf,aCAPITAL LETTER Sd,aSMALLf",
   "A7D0 aCAPITAL LETTER CLOSED INSULAR G,aSMALLd,,cDOUBLE THORN,,dWYNN",
   "A7D6 aCAPITAL LETTER MIDDLE SCOTS S,aSMALLd,aCAPITAL LETTER SIGMOIDa,aSMALLc",
   "A7F2 MODIFIER LETTER CAPITAL C,cF,cQ,LATIN CAPITAL LETTER REVERSED HALF H,aSMALLd",
   "A7F7 aEPIGRAPHIC LETTER SIDEWAYS I,MODIFIER LETTER CAPITAL H WITH STROKE,bSMALL LIGATURE OE",
   "A7FA LATIN LETTER SMALL CAPITAL TURNED M,aEPIGRAPHIC LETTER REVERSED F,dP,cINVERTED M",
   "A7FE cI LONGA,cARCHAIC M,SYLOTI NAGRI LETTER A,cI,bSIGN DVISVARA,bLETTER U,cE,cO",
   "A806 bSIGN HASANTA,bLETTER KO,cKHO,cGO,cGHO,bSIGN ANUSVARA,bLETTER CO,cCHO,cJO,cJHO,cTTO",
   "A811 cTTHO,cDDO,cDDHO,cTO,cTHO,cDO,cDHO,cNO,cPO,cPHO,cBO,cBHO,cMO,cRO,cLO,cRRO,cSO,cHO",
   "A823 bVOWEL SIGN A,dI,dU,dE,dOO,bPOETRY MARK-1,cMARK-2,cMARK-3,cMARK-4",
   "A82C bSIGN ALTERNATE HASANTA,,,,NORTH INDIC FRACTION ONE QUARTER,dHALF,cTHREE QUARTERS",
   "A833 cONE SIXTEENTH,dEIGHTH,cTHREE SIXTEENTHS,bQUARTER MARK,bPLACEHOLDERa,bRUPEEa,bQUANTITYa",
   "A840 PHAGS-PA LETTER KA,bKHA,bGA,bNGA,bCA,bCHA,bJA,bNYA,bTA,bTHA,bDA,bNA,bPA,bPHA,bBA,bMA",
   "A850 bTSA,bTSHA,bDZA,bWA,bZHA,bZA,bSMALL A,bYA,bRA,bLA,bSHA,bSA,bHA,bA,bI,bU,bE,bO,bQA,bXA",
   "A864 bFA,bGGA,bEE,aSUBJOINED LETTER WA,cYA,aLETTER TTA,bTTHA,bDDA,bNNA,bALTERNATE YA",
   "A86E bVOICELESS SHA,bVOICED HA,bASPIRATED FA,aSUBJOINED LETTER RA,aSUPERFIXEDb",
   "A873 aLETTER CANDRABINDU,aSINGLE HEAD MARK,aDOUBLEb,aMARK SHAD,bDOUBLEa",
   "A880 SAURASHTRA SIGN ANUSVARA,bVISARGA,aLETTER A,bAA,bI,bII,bU,bUU,bVOCALIC R,cRR,cL,cLL,bE",
   "A88D bEE,bAI,bO,bOO,bAU,bKA,bKHA,bGA,bGHA,bNGA,bCA,bCHA,bJA,bJHA,bNYA,bTTA,bTTHA,bDDA,bDDHA",
   "A8A0 bNNA,bTA,bTHA,bDA,bDHA,bNA,bPA,bPHA,bBA,bBHA,bMA,bYA,bRA,bLA,bVA,bSHA,bSSA,bSA,bHA,bLLA",
   "A8B4 aCONSONANT SIGN HAARU,aVOWEL SIGN AA,cI,cII,cU,cUU,cVOCALIC R,dRR,dL,dLL,cE,cEE,cAI,cO",
   "A8C2 cOO,cAU,aSIGN VIRAMA,bCANDRABINDU,,,,,,,,,aDANDA,aDOUBLEa,aDIGIT ZERO,bONE,bTWO,bTHREE",
   "A8D4 bFOUR,bFIVE,bSIX,bSEVEN,bEIGHT,bNINE,,,,,,,COMBINING DEVANAGARI DIGIT ZERO,cONE,cTWO",
   "A8E3 cTHREE,cFOUR,cFIVE,cSIX,cSEVEN,cEIGHT,cNINE,bLETTER A,cU,cKA,cNA,cPA,cRA,cVI",
   "A8F1 bSIGN AVAGRAHA,DEVANAGARI SIGN SPACING CANDRABINDU,bCANDRABINDU VIRAMA,bDOUBLEb",
   "A8F5 bCANDRABINDU TWO,cTHREE,cAVAGRAHA,bPUSHPIKA,aGAP FILLER,aCARET,aHEADSTROKE,aSIGN SIDDHAM",
   "A8FD aJAIN OM,aLETTER AY,aVOWEL SIGNa,KAYAH LI DIGIT ZERO,cONE,cTWO,cTHREE,cFOUR,cFIVE,cSIX",
   "A907 cSEVEN,cEIGHT,cNINE,bLETTER KA,cKHA,cGA,cNGA,cSA,cSHA,cZA,cNYA,cTA,cHTA,cNA,cPA,cPHA,cMA",
   "A918 cDA,cBA,cRA,cYA,cLA,cWA,cTHA,cHA,cVA,cCA,cA,cOE,cI,cOO,bVOWEL UE,cE,cU,cEE,cO",
   "A92B bTONE PLOPHU,cCALYA,dPLOPHU,bSIGN CWI,cSHYA,REJANG LETTER KA,bGA,bNGA,bTA,bDA,bNA,bPA",
   "A937 bBA,bMA,bCA,bJA,bNYA,bSA,bRA,bLA,bYA,bWA,bHA,bMBA,bNGGA,bNDA,bNYJA,bA,aVOWEL SIGN I,cU",
   "A949 cE,cAI,cO,cAU,cEU,cEA,aCONSONANT SIGN NG,cN,cR,cH,aVIRAMA",
   "A95F aSECTION MARK,HANGUL CHOSEONG TIKEUT-MIEUM,bTIKEUT-PIEUP,bTIKEUT-SIOS,bTIKEUT-CIEUC",
   "A964 bRIEUL-KIYEOK,bRIEUL-SSANGKIYEOK,bRIEUL-TIKEUT,bRIEUL-SSANGTIKEUT,bRIEUL-MIEUM",
   "A969 bRIEUL-PIEUP,bRIEUL-SSANGPIEUP,bRIEUL-KAPYEOUNPIEUP,bRIEUL-SIOS,bRIEUL-CIEUC",
   "A96E bRIEUL-KHIEUKH,bMIEUM-KIYEOK,bMIEUM-TIKEUT,bMIEUM-SIOS,bPIEUP-SIOS-THIEUTH",
   "A973 bPIEUP-KHIEUKH,bPIEUP-HIEUH,bSSANGSIOS-PIEUP,bIEUNG-RIEUL,bIEUNG-HIEUH,bSSANGCIEUC-HIEUH",
   "A979 bSSANGTHIEUTH,bPHIEUPH-HIEUH,bHIEUH-SIOS,bSSANGYEORINHIEUH,,,,JAVANESE SIGN PANYANGGA",
   "A981 bCECAK,bLAYAR,bWIGNYAN,aLETTER A,bI KAWI,bI,bII,bU,bPA CEREK,bNGA LELET,dRASWADI,bE,bAI",
   "A98E bO,bKA,cSASAK,cMURDA,bGA,cMURDA,bNGA,bCA,cMURDA,bJA,bNYA MURDA,bJA MAHAPRANA,bNYA,bTTA",
   "A99C cMAHAPRANA,bDDA,cMAHAPRANA,bNA MURDA,bTA,cMURDA,bDA,cMAHAPRANA,bNA,bPA,cMURDA,bBA,cMURDA",
   "A9A9 bMA,bYA,bRA,cAGUNG,bLA,bWA,bSA MURDA,cMAHAPRANA,bSA,bHA,aSIGN CECAK TELU",
   "A9B4 aVOWEL SIGN TARUNG,cTOLONG,cWULU,dMELIK,cSUKU,dMENDUT,cTALING,cDIRGA MURE,cPEPET",
   "A9BD aCONSONANT SIGN KERET,cPENGKAL,cCAKRA,aPANGKON,aLEFT RERENGGAN,aRIGHTa,aPADA ANDAP",
   "A9C4 bMADYA,bLUHUR,bWINDU,bPANGKAT,bLINGSA,bLUNGSI,bADEG,cADEG,bPISELEH,aTURNEDb",
   "A9CF aPANGRANGKEP,aDIGIT ZERO,bONE,bTWO,bTHREE,bFOUR,bFIVE,bSIX,bSEVEN,bEIGHT,bNINE",
   "A9DE aPADA TIRTA TUMETES,bISEN-ISEN,MYANMAR LETTER SHAN GHA,cCHA,cJHA,cNNA,cBHA",
   "A9E5 aSIGN SHAN SAW,aMODIFIER LETTER SHAN REDUPLICATION,aLETTER TAI LAING NYA,dFA,dGA,dGHA",
   "A9EB dJA,dJHA,dDDA,dDDHA,dNNA,aTAI LAING DIGIT ZERO,dONE,dTWO,dTHREE,dFOUR,dFIVE,dSIX,dSEVEN",
   "A9F8 dEIGHT,dNINE,aLETTER TAI LAING LLA,dDA,dDHA,dBA,dBHA,,CHAM LETTER A,bI,bU,bE,bAI,bO,bKA",
   "AA07 bKHA,bGA,bGHA,bNGUE,bNGA,bCHA,bCHHA,bJA,bJHA,bNHUE,bNHA,bNHJA,bTA,bTHA,bDA,bDHA,bNUE,bNA",
   "AA19 bDDA,bPA,bPPA,bPHA,bBA,bBHA,bMUE,bMA,bBBA,bYA,bRA,bLA,bVA,bSSA,bSA,bHA,aVOWEL SIGN AA,cI",
   "AA2B cII,cEI,cU,cOE,cO,cAI,cAU,cUE,aCONSONANT SIGN YA,cRA,cLA,cWA,,,,,,,,,,aLETTER FINAL K,cG",
   "AA42 cNG,aCONSONANT SIGNb,aLETTER FINAL CH,cT,cN,cP,cY,cR,cL,cSS,aCONSONANT SIGN FINAL M,dH",
   "AA50 aDIGIT ZERO,bONE,bTWO,bTHREE,bFOUR,bFIVE,bSIX,bSEVEN,bEIGHT,bNINE,,,aPUNCTUATION SPIRAL",
   "AA5D bDANDA,bDOUBLEa,bTRIPLEa,MYANMAR LETTER KHAMTI GA,cCA,cCHA,cJA,cJHA,cNYA,cTTA,cTTHA,cDDA",
   "AA69 cDDHA,cDHA,cNA,cSA,cHA,cHHA,cFA,aMODIFIER LETTER KHAMTI REDUPLICATION,aLETTER KHAMTI XA",
   "AA72 cZA,cRA,aLOGOGRAM KHAMTI OAY,cQN,cHM,aSYMBOL AITON EXCLAMATION,cONE,cTWO",
   "AA7A aLETTER AITON RA,aSIGN PAO KAREN TONE,bTAI LAING TONE-2,dTONE-5,aLETTER SHWE PALAUNG CHA",
   "AA7F dSHA,TAI VIET LETTER LOW KO,cHIGHa,cLOW KHO,cHIGHa,cLOW KHHO,cHIGHa,cLOW GO,cHIGHa",
   "AA88 cLOW NGO,cHIGHa,cLOW CO,cHIGHa,cLOW CHO,cHIGHa,cLOW SO,cHIGHa,cLOW NYO,cHIGHa,cLOW DO",
   "AA93 cHIGHa,cLOW TO,cHIGHa,cLOW THO,cHIGHa,cLOW NO,cHIGHa,cLOW BO,cHIGHa,cLOW PO,cHIGHa",
   "AA9E cLOW PHO,cHIGHa,cLOW FO,cHIGHa,cLOW MO,cHIGHa,cLOW YO,cHIGHa,cLOW RO,cHIGHa,cLOW LO",
   "AAA9 cHIGHa,cLOW VO,cHIGHa,cLOW HO,cHIGHa,cLOW O,cHIGHa,bMAI KANG,bVOWEL AA,cI,cUE,cU,cE,cO",
   "AAB7 bMAI KHIT,bVOWEL IA,cUEA,cUA,cAUE,cAY,cAN,cAM,bTONE MAI EK,dNUENG,dTHO,dSONG",
   "AADB bSYMBOL KON,cNUENG,cSAM,cHO HOI,cKOI KOI,MEETEI MAYEK LETTER E,cO,cCHA,cNYA,cTTA,cTTHA",
   "AAE6 cDDA,cDDHA,cNNA,cSHA,cSSA,bVOWEL SIGN II,dUU,dAAI,dAU,dAAU,bCHEIKHAN,bAHANG KHUDAM,bANJI",
   "AAF3 bSYLLABLE REPETITION MARK,bWORDb,bVOWEL SIGN VISARGA,bVIRAMA",
   "AB01 ETHIOPIC SYLLABLE TTHU,bTTHI,bTTHAA,bTTHEE,bTTHE,bTTHO,,,bDDHU,bDDHI,bDDHAA,bDDHEE,bDDHE",
   "AB0E bDDHO,,,bDZU,bDZI,bDZAA,bDZEE,bDZE,bDZO,,,,,,,,,,bCCHHA,bCCHHU,bCCHHI,bCCHHAA,bCCHHEE",
   "AB25 bCCHHE,bCCHHO,,bBBA,bBBU,bBBI,bBBAA,bBBEE,bBBE,bBBO,,LATIN SMALL LETTER BARRED ALPHA",
   "AB31 cA REVERSED-SCHWA,cBLACKLETTER E,cBARREDa,cE WITH FLOURISH,cLENIS F",
   "AB36 cSCRIPT G WITH CROSSED-TAIL,cL WITH INVERTED LAZY S,eDOUBLE MIDDLE TILDE,eMIDDLE RING",
   "AB3A cM WITH CROSSED-TAIL,cNb,cENGb,cBLACKLETTER O,eWITH STROKE,cOPENc,cINVERTED OE",
   "AB41 cTURNED OE WITH STROKE,fHORIZONTALa,dO OPEN-O,fWITH STROKE,cSTIRRUP R",
   "AB46 aLETTER SMALL CAPITAL R WITH RIGHT LEG,aSMALL LETTER R WITHOUT HANDLE,cDOUBLE R",
   "AB49 cR WITH CROSSED-TAIL,cDOUBLEc,cSCRIPT R,eWITH RING,cBASELINE ESH,cU WITH SHORT RIGHT LEG",
   "AB4F dBARd,cUI,cTURNEDa,cU WITH LEFT HOOK,cCHI,dWITH LOW RIGHT RING,fLEFT SERIF",
   "AB56 cX WITH LOW RIGHT RING,eLONG LEFT LEG,hAND LOW RIGHT RING,hWITH SERIF",
   "AB5A cY WITH SHORT RIGHT LEG,MODIFIER BREVE WITH INVERTED BREVE,aLETTER SMALL HENG",
   "AB5D cL WITH INVERTED LAZY S,eMIDDLE TILDE,cU WITH LEFT HOOK,LATIN SMALL LETTER SAKHA YAT",
   "AB61 cIOTIFIED E,cOPEN OE,cUO,cINVERTED ALPHA,GREEK LETTER SMALL CAPITAL OMEGA",
   "AB66 LATIN SMALL LETTER DZ DIGRAPH WITH RETROFLEX HOOK,cTSd,cTURNED R WITH MIDDLE TILDE",
   "AB69 MODIFIER LETTER SMALL TURNED W,bLEFT TACK,bRIGHTa,,,,,CHEROKEE SMALL LETTER A,cE,cI,cO",
   "AB74 cU,cV,cGA,cKA,cGE,cGI,cGO,cGU,cGV,cHA,cHE,cHI,cHO,cHU,cHV,cLA,cLE,cLI,cLO,cLU,cLV,cMA",
   "AB8A cME,cMI,cMO,cMU,cNA,cHNA,cNAH,cNE,cNI,cNO,cNU,cNV,cQUA,cQUE,cQUI,cQUO,cQUU,cQUV,cSA,cS",
   "AB9E cSE,cSI,cSO,cSU,cSV,cDA,cTA,cDE,cTE,cDI,cTI,cDO,cDU,cDV,cDLA,cTLA,cTLE,cTLI,cTLO,cTLU",
   "ABB2 cTLV,cTSA,cTSE,cTSI,cTSO,cTSU,cTSV,cWA,cWE,cWI,cWO,cWU,cWV,cYA,MEETEI MAYEK LETTER KOK",
   "ABC1 cSAM,cLAI,cMIT,cPA,cNA,cCHIL,cTIL,cKHOU,cNGOU,cTHOU,cWAI,cYANG,cHUK,cUN,cI,cPHAM,cATIYA",
   "ABD2 cGOK,cJHAM,cRAI,cBA,cJIL,cDIL,cGHOU,cDHOU,cBHAM,cKOK LONSUM,cLAIa,cMITa,cPAa,cNAa,cTILa",
   "ABE1 cNGOUa,cIa,bVOWEL SIGN ONAP,dINAP,dANAP,dYENAP,dSOUNAP,dUNAP,dCHEINAP,dNUNG,bCHEIKHEI",
   "ABEC bLUM IYEK,bAPUNa,,,bDIGIT ZERO,cONE,cTWO,cTHREE,cFOUR,cFIVE,cSIX,cSEVEN,cEIGHT,cNINE",
   "D7B0 HANGUL JUNGSEONG O-YEO,bO-O-I,bYO-A,bYO-AE,bYO-EO,bU-YEO,bU-I-I,bYU-AE,bYU-O,bEU-A",
   "D7BA bEU-EO,bEU-E,bEU-O,bI-YA-O,bI-YAE,bI-YEO,bI-YE,bI-O-I,bI-YO,bI-YU,bI-I,bARAEA-A,bARAEA-E",
   "D7CB aJONGSEONG NIEUN-RIEUL,bNIEUN-CHIEUCH,bSSANGTIKEUT,bSSANGTIKEUT-PIEUP,bTIKEUT-PIEUP",
   "D7D0 bTIKEUT-SIOS,bTIKEUT-SIOS-KIYEOK,bTIKEUT-CIEUC,bTIKEUT-CHIEUCH,bTIKEUT-THIEUTH",
   "D7D5 bRIEUL-SSANGKIYEOK,bRIEUL-KIYEOK-HIEUH,bSSANGRIEUL-KHIEUKH,bRIEUL-MIEUM-HIEUH",
   "D7D9 bRIEUL-PIEUP-TIKEUT,bRIEUL-PIEUP-PHIEUPH,bRIEUL-YESIEUNG,bRIEUL-YEORINHIEUH-HIEUH",
   "D7DD bKAPYEOUNRIEUL,bMIEUM-NIEUN,bMIEUM-SSANGNIEUN,bSSANGMIEUM,bMIEUM-PIEUP-SIOS,bMIEUM-CIEUC",
   "D7E3 bPIEUP-TIKEUT,bPIEUP-RIEUL-PHIEUPH,bPIEUP-MIEUM,bSSANGPIEUP,bPIEUP-SIOS-TIKEUT",
   "D7E8 bPIEUP-CIEUC,bPIEUP-CHIEUCH,bSIOS-MIEUM,bSIOS-KAPYEOUNPIEUP,bSSANGSIOS-KIYEOK",
   "D7ED bSSANGSIOS-TIKEUT,bSIOS-PANSIOS,bSIOS-CIEUC,bSIOS-CHIEUCH,bSIOS-THIEUTH,bSIOS-HIEUH",
   "D7F3 bPANSIOS-PIEUP,bPANSIOS-KAPYEOUNPIEUP,bYESIEUNG-MIEUM,bYESIEUNG-HIEUH,bCIEUC-PIEUP",
   "D7F8 bCIEUC-SSANGPIEUP,bSSANGCIEUC,bPHIEUPH-SIOS,bPHIEUPH-THIEUTH",
   "FB00 LATIN SMALL LIGATURE FF,cFI,cFL,cFFI,cFFL,cLONG S T,cST",
   "FB13 ARMENIAN SMALL LIGATURE MEN NOW,dECH,dINI,cVEW NOW,cMEN XEH",
   "FB1D HEBREW LETTER YOD WITH HIRIQ,aPOINT JUDEO-SPANISH VARIKA,aLIGATURE YIDDISH YOD YOD PATAH",
   "FB20 aLETTER ALTERNATIVE AYIN,bWIDE ALEF,cDALET,cHE,cKAF,cLAMED,cFINAL MEM,cRESH,cTAV",
   "FB29 bALTERNATIVE PLUS SIGN,bSHIN WITH SHIN DOT,dSINa,dDAGESH AND SHINa,fSINa",
   "FB2E bALEF WITH PATAH,dQAMATS,dMAPIQ,bBET WITH DAGESH,bGIMELb,bDALETb,bHE WITH MAPIQ",
   "FB35 bVAV WITH DAGESH,bZAYINb,,bTETb,bYODb,bFINAL KAFb,bKAFb,bLAMEDb,,bMEMb,,bNUNb,bSAMEKHb",
   "FB43 bFINAL PEb,bPEb,,bTSADIb,bQOFb,bRESHb,bSHINb,bTAVb,bVAV WITH HOLAM,bBET WITH RAFE,bKAFb",
   "FB4E bPEb,aLIGATURE ALEF LAMED,ARABIC LETTER ALEF WASLA ISOLATED FORM,dFINALa,bBEEH ISOLATEDa",
   "FB53 cFINALa,cINITIALa,cMEDIALa,bPEH ISOLATEDa,cFINALa,cINITIALa,cMEDIALa,bBEHEH ISOLATEDa",
   "FB5B cFINALa,cINITIALa,cMEDIALa,bTTEHEH ISOLATEDa,cFINALa,cINITIALa,cMEDIALa,bTEHEH ISOLATEDa",
   "FB63 cFINALa,cINITIALa,cMEDIALa,bTTEH ISOLATEDa,cFINALa,cINITIALa,cMEDIALa,bVEH ISOLATEDa",
   "FB6B cFINALa,cINITIALa,cMEDIALa,bPEHEH ISOLATEDa,cFINALa,cINITIALa,cMEDIALa,bDYEH ISOLATEDa",
   "FB73 cFINALa,cINITIALa,cMEDIALa,bNYEH ISOLATEDa,cFINALa,cINITIALa,cMEDIALa,bTCHEH ISOLATEDa",
   "FB7B cFINALa,cINITIALa,cMEDIALa,bTCHEHEH ISOLATEDa,cFINALa,cINITIALa,cMEDIALa",
   "FB82 bDDAHAL ISOLATEDa,cFINALa,bDAHAL ISOLATEDa,cFINALa,bDUL ISOLATEDa,cFINALa",
   "FB88 bDDAL ISOLATEDa,cFINALa,bJEH ISOLATEDa,cFINALa,bRREH ISOLATEDa,cFINALa,bKEHEH ISOLATEDa",
   "FB8F cFINALa,cINITIALa,cMEDIALa,bGAF ISOLATEDa,cFINALa,cINITIALa,cMEDIALa,bGUEH ISOLATEDa",
   "FB97 cFINALa,cINITIALa,cMEDIALa,bNGOEH ISOLATEDa,cFINALa,cINITIALa,cMEDIALa",
   "FB9E bNOON GHUNNA ISOLATEDa,dFINALa,bRNOON ISOLATEDa,cFINALa,cINITIALa,cMEDIALa",
   "FBA4 bHEH WITH YEH ABOVE ISOLATEDa,fFINALa,cGOAL ISOLATEDa,dFINALa,dINITIALa,dMEDIALa",
   "FBAA cDOACHASHMEE ISOLATEDa,dFINALa,dINITIALa,dMEDIALa,bYEH BARREE ISOLATEDa,dFINALa",
   "FBB0 dWITH HAMZA ABOVE ISOLATEDa,gFINALa,aSYMBOL DOT ABOVE,cBELOW,bTWO DOTS ABOVE,dBELOW",
   "FBB6 bTHREE DOTS ABOVE,dBELOW,dPOINTING DOWNWARDS ABOVE,fBELOW,bFOUR DOTS ABOVE,dBELOW",
   "FBBC bDOUBLE VERTICAL BARa,bTWO DOTS VERTICALLY ABOVE,eBELOW,bRING,bSMALL TAH ABOVE,dBELOW",
   "FBC2 bWASLA ABOVE",
   "FBD3 aLETTER NG ISOLATED FORM,cFINALa,cINITIALa,cMEDIALa,bU ISOLATEDa,cFINALa,bOE ISOLATEDa",
   "FBDA cFINALa,bYU ISOLATEDa,cFINALa,bU WITH HAMZA ABOVE ISOLATEDa,bVEb,cFINALa",
   "FBE0 bKIRGHIZ OE ISOLATEDa,dFINALa,cYU ISOLATEDa,dFINALa,bE ISOLATEDa,cFINALa,cINITIALa",
   "FBE7 cMEDIALa,bUIGHUR KAZAKH KIRGHIZ ALEF MAKSURA INITIALa,gMEDIALa",
   "FBEA aLIGATURE YEH WITH HAMZA ABOVE WITH ALEF ISOLATEDa,hFINALa,gAE ISOLATEDa,hFINALa",
   "FBEE gWAW ISOLATEDa,hFINALa,gU ISOLATEDa,hFINALa,gOE ISOLATEDa,hFINALa,gYU ISOLATEDa,hFINALa",
   "FBF6 gE ISOLATEDa,hFINALa,hINITIALa",
   "FBF9 bUIGHUR KIRGHIZ YEH WITH HAMZA ABOVE WITH ALEF MAKSURA ISOLATEDa,kFINALa,kINITIALa",
   "FBFC aLETTER FARSI YEH ISOLATEDa,dFINALa,dINITIALa,dMEDIALa",
   "FC00 aLIGATURE YEH WITH HAMZA ABOVE WITH JEEM ISOLATEDa,gHAHb,gMEEMb,gALEF MAKSURAb,gYEHb",
   "FC05 bBEH WITH JEEMb,dHAHb,dKHAHb,dMEEMb,dALEF MAKSURAb,dYEHb,bTEH WITH JEEMb,dHAHb,dKHAHb",
   "FC0E dMEEMb,dALEF MAKSURAb,dYEHb,bTHEH WITH JEEMb,dMEEMb,dALEF MAKSURAb,dYEHb,bJEEM WITH HAHb",
   "FC16 dMEEMb,bHAH WITH JEEMb,dMEEMb,bKHAH WITH JEEMb,dHAHb,dMEEMb,bSEEN WITH JEEMb,dHAHb",
   "FC1E dKHAHb,dMEEMb,bSAD WITH HAHb,dMEEMb,bDAD WITH JEEMb,dHAHb,dKHAHb,dMEEMb,bTAH WITH HAHb",
   "FC27 dMEEMb,bZAHd,bAIN WITH JEEMb,dMEEMb,bGHAIN WITH JEEMb,dMEEMb,bFEH WITH JEEMb,dHAHb",
   "FC2F dKHAHb,dMEEMb,dALEF MAKSURAb,dYEHb,bQAF WITH HAHb,dMEEMb,dALEF MAKSURAb,dYEHb",
   "FC37 bKAF WITH ALEFb,dJEEMb,dHAHb,dKHAHb,dLAMb,dMEEMb,dALEF MAKSURAb,dYEHb,bLAM WITH JEEMb",
   "FC40 dHAHb,dKHAHb,dMEEMb,dALEF MAKSURAb,dYEHb,bMEEM WITH JEEMb,dHAHb,dKHAHb,dMEEMb",
   "FC49 dALEF MAKSURAb,dYEHb,bNOON WITH JEEMb,dHAHb,dKHAHb,dMEEMb,dALEF MAKSURAb,dYEHb",
   "FC51 bHEH WITH JEEMb,dMEEMb,dALEF MAKSURAb,dYEHb,bYEH WITH JEEMb,dHAHb,dKHAHb,dMEEMb",
   "FC59 dALEF MAKSURAb,dYEHb,bTHAL WITH SUPERSCRIPT ALEFb,bREHe,bALEF MAKSURAe",
   "FC5E bSHADDA WITH DAMMATANb,dKASRATANb,dFATHAb,dDAMMAb,dKASRAb,dSUPERSCRIPT ALEFb",
   "FC64 bYEH WITH HAMZA ABOVE WITH REH FINALa,gZAINb,gMEEMb,gNOONb,gALEF MAKSURAb,gYEHb",
   "FC6A bBEH WITH REHb,dZAINb,dMEEMb,dNOONb,dALEF MAKSURAb,dYEHb,bTEH WITH REHb,dZAINb,dMEEMb",
   "FC73 dNOONb,dALEF MAKSURAb,dYEHb,bTHEH WITH REHb,dZAINb,dMEEMb,dNOONb,dALEF MAKSURAb,dYEHb",
   "FC7C bFEH WITH ALEF MAKSURAb,dYEHb,bQAF WITH ALEF MAKSURAb,dYEHb,bKAF WITH ALEFb,dLAMb,dMEEMb",
   "FC83 dALEF MAKSURAb,dYEHb,bLAM WITH MEEMb,dALEF MAKSURAb,dYEHb,bMEEM WITH ALEFb,dMEEMb",
   "FC8A bNOON WITH REHb,dZAINb,dMEEMb,dNOONb,dALEF MAKSURAb,dYEHb",
   "FC90 bALEF MAKSURA WITH SUPERSCRIPT ALEFb,bYEH WITH REHb,dZAINb,dMEEMb,dNOONb,dALEF MAKSURAb",
   "FC96 dYEHb,dHAMZA ABOVE WITH JEEM INITIALa,gHAHb,gKHAHb,gMEEMb,gHEHb,bBEH WITH JEEMb,dHAHb",
   "FC9E dKHAHb,dMEEMb,dHEHb,bTEH WITH JEEMb,dHAHb,dKHAHb,dMEEMb,dHEHb,bTHEH WITH MEEMb",
   "FCA7 bJEEM WITH HAHb,dMEEMb,bHAH WITH JEEMb,dMEEMb,bKHAH WITH JEEMb,dMEEMb,bSEEN WITH JEEMb",
   "FCAE dHAHb,dKHAHb,dMEEMb,bSAD WITH HAHb,dKHAHb,dMEEMb,bDAD WITH JEEMb,dHAHb,dKHAHb,dMEEMb",
   "FCB8 bTAH WITH HAHb,bZAH WITH MEEMb,bAIN WITH JEEMb,dMEEMb,bGHAIN WITH JEEMb,dMEEMb",
   "FCBE bFEH WITH JEEMb,dHAHb,dKHAHb,dMEEMb,bQAF WITH HAHb,dMEEMb,bKAF WITH JEEMb,dHAHb,dKHAHb",
   "FCC7 dLAMb,dMEEMb,bLAM WITH JEEMb,dHAHb,dKHAHb,dMEEMb,dHEHb,bMEEM WITH JEEMb,dHAHb,dKHAHb",
   "FCD1 dMEEMb,bNOON WITH JEEMb,dHAHb,dKHAHb,dMEEMb,dHEHb,bHEH WITH JEEMb,dMEEMb",
   "FCD9 dSUPERSCRIPT ALEFb,bYEH WITH JEEMb,dHAHb,dKHAHb,dMEEMb,dHEHb",
   "FCDF dHAMZA ABOVE WITH MEEM MEDIALa,gHEHb,bBEH WITH MEEMb,dHEHb,bTEH WITH MEEMb,dHEHb",
   "FCE5 bTHEH WITH MEEMb,dHEHb,bSEEN WITH MEEMb,dHEHb,bSHEEN WITH MEEMb,dHEHb,bKAF WITH LAMb",
   "FCEC dMEEMb,bLAMd,bNOONd,dHEHb,bYEH WITH MEEMb,dHEHb,bSHADDA WITH FATHAb,dDAMMAb,dKASRAb",
   "FCF5 bTAH WITH ALEF MAKSURA ISOLATEDa,dYEHb,bAIN WITH ALEF MAKSURAb,dYEHb",
   "FCF9 bGHAIN WITH ALEF MAKSURAb,dYEHb,bSEEN WITH ALEF MAKSURAb,dYEHb,bSHEEN WITH ALEF MAKSURAb",
   "FCFE dYEHb,bHAH WITH ALEF MAKSURAb,dYEHb,bJEEM WITH ALEF MAKSURAb,dYEHb",
   "FD03 bKHAH WITH ALEF MAKSURAb,dYEHb,bSAD WITH ALEF MAKSURAb,dYEHb,bDAD WITH ALEF MAKSURAb",
   "FD08 dYEHb,bSHEEN WITH JEEMb,dHAHb,dKHAHb,dMEEMb,dREHb,bSEENd,bSADd,bDADd",
   "FD11 bTAH WITH ALEF MAKSURA FINALa,dYEHb,bAIN WITH ALEF MAKSURAb,dYEHb",
   "FD15 bGHAIN WITH ALEF MAKSURAb,dYEHb,bSEEN WITH ALEF MAKSURAb,dYEHb,bSHEEN WITH ALEF MAKSURAb",
   "FD1A dYEHb,bHAH WITH ALEF MAKSURAb,dYEHb,bJEEM WITH ALEF MAKSURAb,dYEHb",
   "FD1F bKHAH WITH ALEF MAKSURAb,dYEHb,bSAD WITH ALEF MAKSURAb,dYEHb,bDAD WITH ALEF MAKSURAb",
   "FD24 dYEHb,bSHEEN WITH JEEMb,dHAHb,dKHAHb,dMEEMb,dREHb,bSEENd,bSADd,bDADd",
   "FD2D bSHEEN WITH JEEM INITIALa,dHAHb,dKHAHb,dMEEMb,bSEEN WITH HEHb,bSHEENd,bTAH WITH MEEMb",
   "FD34 bSEEN WITH JEEM MEDIALa,dHAHb,dKHAHb,bSHEEN WITH JEEMb,dHAHb,dKHAHb,bTAH WITH MEEMb",
   "FD3B bZAHd,bALEF WITH FATHATAN FINALa,eISOLATEDa,ORNATE LEFT PARENTHESIS,aRIGHTa",
   "FD40 ARABIC LIGATURE RAHIMAHU ALLAAH,bRADI ALLAAHU ANH,dANHAA,dANHUM,dANHUMAA,dANHUNNA",
   "FD46 bSALLALLAAHU ALAYHI WA-AALIH,bALAYHI AS-SALAAM,bALAYHIMa,bALAYHIMAAa",
   "FD4A bALAYHI AS-SALAATU WAS-SALAAM,bQUDDISA SIRRAH,bSALLALLAHU ALAYHI WAAALIHEE WA-SALLAM",
   "FD4D bALAYHAA AS-SALAAM,bTABAARAKA WA-TAAALAA,bRAHIMAHUM ALLAAH",
   "FD50 bTEH WITH JEEM WITH MEEM INITIAL FORM,dHAH WITH JEEM FINALa,gINITIALa,fMEEMb,dKHAHd",
   "FD55 dMEEM WITH JEEMb,fHAHb,fKHAHb,bJEEM WITH MEEM WITH HAH FINALa,gINITIALa",
   "FD5A bHAH WITH MEEM WITH YEH FINALa,fALEF MAKSURAb,bSEEN WITH HAH WITH JEEM INITIALa",
   "FD5D dJEEM WITH HAHb,fALEF MAKSURA FINALa,dMEEM WITH HAHb,gINITIALa,fJEEMb,fMEEM FINALa",
   "FD63 gINITIALa,bSAD WITH HAH WITH HAH FINALa,gINITIALa,dMEEM WITH MEEM FINALa",
   "FD67 bSHEEN WITH HAHd,gINITIALa,dJEEM WITH YEH FINALa,dMEEM WITH KHAHb,gINITIALa,fMEEM FINALa",
   "FD6D gINITIALa,bDAD WITH HAH WITH ALEF MAKSURA FINALa,dKHAH WITH MEEMb,gINITIALa",
   "FD71 bTAH WITH MEEM WITH HAH FINALa,gINITIALa,fMEEMb,fYEH FINALa,bAIN WITH JEEM WITH MEEMb",
   "FD76 dMEEMd,gINITIALa,fALEF MAKSURA FINALa,bGHAIN WITH MEEM WITH MEEMb,fYEHb,fALEF MAKSURAb",
   "FD7C bFEH WITH KHAH WITH MEEMb,gINITIALa,bQAF WITH MEEM WITH HAH FINALa,fMEEMb,bLAM WITH HAHd",
   "FD81 fYEHb,fALEF MAKSURAb,dJEEM WITH JEEM INITIALa,gFINALa,dKHAH WITH MEEMb,gINITIALa",
   "FD87 dMEEM WITH HAH FINALa,gINITIALa,bMEEM WITH HAH WITH JEEMb,fMEEMb,fYEH FINALa",
   "FD8C dJEEM WITH HAH INITIALa,fMEEMb,dKHAH WITH JEEMb,fMEEMb,,,dJEEM WITH KHAHb",
   "FD93 bHEH WITH MEEM WITH JEEMb,fMEEMb,bNOON WITH HAHd,fALEF MAKSURA FINALa,dJEEM WITH MEEMb",
   "FD98 gINITIALa,fALEF MAKSURA FINALa,dMEEM WITH YEHb,fALEF MAKSURAb,bYEH WITH MEEM WITH MEEMb",
   "FD9D gINITIALa,bBEH WITH KHAH WITH YEH FINALa,bTEH WITH JEEMd,fALEF MAKSURAb,dKHAH WITH YEHb",
   "FDA2 fALEF MAKSURAb,dMEEM WITH YEHb,fALEF MAKSURAb,bJEEM WITH MEEM WITH YEHb",
   "FDA6 dHAH WITH ALEF MAKSURAb,dMEEMe,bSEEN WITH KHAHe,bSAD WITH HAH WITH YEHb,bSHEENf,bDADf",
   "FDAC bLAM WITH JEEMd,dMEEMd,bYEH WITH HAHd,dJEEMd,dMEEMd,bMEEMf,bQAFf,bNOON WITH HAHd",
   "FDB4 bQAF WITH MEEM WITH HAH INITIALa,bLAM WITH HAH WITH MEEMb,bAIN WITH MEEM WITH YEH FINALa",
   "FDB7 bKAFf,bNOON WITH JEEM WITH HAH INITIALa,bMEEM WITH KHAH WITH YEH FINALa",
   "FDBA bLAM WITH JEEM WITH MEEM INITIALa,bKAF WITH MEEM WITH MEEM FINALa,bLAM WITH JEEMd",
   "FDBD bNOON WITH JEEM WITH HAHb,bJEEM WITH HAH WITH YEHb,bHAH WITH JEEMd,bMEEMf",
   "FDC1 bFEH WITH MEEMd,bBEH WITH HAHd,bKAF WITH MEEM WITH MEEM INITIALa,bAIN WITH JEEMd",
   "FDC5 bSAD WITH MEEMd,bSEEN WITH KHAH WITH YEH FINALa,bNOON WITH JEEMd",
   "FDCF bSALAAMUHU ALAYNAA",
   "FDF0 bSALLA USED AS KORANIC STOP SIGN ISOLATED FORM,bQALAg,bALLAHb,bAKBARb,bMOHAMMADb,bSALAMb",
   "FDF6 bRASOULb,bALAYHEb,bWASALLAMb,bSALLAb,bSALLALLAHOU ALAYHE WASALLAM,bJALLAJALALOUHOU",
   "FDFC RIAL SIGN,ARABIC LIGATURE BISMILLAH AR-RAHMAN AR-RAHEEM,bSUBHAANAHU WA TAAALAA",
   "FDFF bAZZA WA JALL,VARIATION SELECTOR-1,aSELECTOR-2,aSELECTOR-3,aSELECTOR-4,aSELECTOR-5",
   "FE05 aSELECTOR-6,aSELECTOR-7,aSELECTOR-8,aSELECTOR-9,aSELECTOR-10,aSELECTOR-11,aSELECTOR-12",
   "FE0C aSELECTOR-13,aSELECTOR-14,aSELECTOR-15,aSELECTOR-16,PRESENTATION FORM FOR VERTICAL COMMA",
   "FE11 dIDEOGRAPHICa,eFULL STOP,dCOLON,dSEMICOLON,dEXCLAMATION MARK,dQUESTIONa",
   "FE17 dLEFT WHITE LENTICULAR BRACKET,dRIGHT WHITE LENTICULAR BRAKCET,dHORIZONTAL ELLIPSIS",
   "FE20 COMBINING LIGATURE LEFT HALF,bRIGHTa,aDOUBLE TILDE LEFTa,cRIGHTa,aMACRON LEFTa,bRIGHTa",
   "FE26 aCONJOINING MACRON,aLIGATURE LEFT HALF BELOW,bRIGHTb,aTILDE LEFTb,bRIGHTb,aMACRON LEFTb",
   "FE2C bRIGHTb,aCONJOINING MACRONa,aCYRILLIC TITLO LEFT HALF,cRIGHTa",
   "FE30 PRESENTATION FORM FOR VERTICAL TWO DOT LEADER,dEM DASH,dENa,dLOW LINE,dWAVYb",
   "FE35 dLEFT PARENTHESIS,dRIGHTa,dLEFT CURLY BRACKET,dRIGHTb,dLEFT TORTOISE SHELLa,dRIGHTc",
   "FE3B dLEFT BLACK LENTICULARa,dRIGHTc,dLEFT DOUBLE ANGLEa,dRIGHTc,dLEFTb,dRIGHTb,dLEFT CORNERa",
   "FE42 dRIGHTb,dLEFT WHITEb,dRIGHTc,SESAME DOT,WHITEb",
   "FE47 PRESENTATION FORM FOR VERTICAL LEFT SQUARE BRACKET,dRIGHTb,DASHED OVERLINE,CENTRELINEa",
   "FE4B WAVYa,DOUBLEb,DASHED LOW LINE,CENTRELINEb,WAVYb,SMALL COMMA,aIDEOGRAPHICa,aFULL STOP",
   "FE54 aSEMICOLON,aCOLON,aQUESTION MARK,aEXCLAMATIONa,aEM DASH,aLEFT PARENTHESIS,aRIGHTa",
   "FE5B aLEFT CURLY BRACKET,aRIGHTb,aLEFT TORTOISE SHELLa,aRIGHTc,aNUMBER SIGN,aAMPERSAND",
   "FE61 aASTERISK,aPLUS SIGN,aHYPHEN-MINUS,aLESS-THAN SIGN,aGREATER-THANa,aEQUALSa",
   "FE68 aREVERSE SOLIDUS,aDOLLAR SIGN,aPERCENTa,aCOMMERCIAL AT,,,,,ARABIC FATHATAN ISOLATED FORM",
   "FE71 aTATWEEL WITH FATHATAN ABOVE,aDAMMATAN ISOLATED FORM,aTAIL FRAGMENT",
   "FE74 aKASRATAN ISOLATED FORM,,aFATHAb,bMEDIALa,aDAMMA ISOLATEDa,bMEDIALa,aKASRA ISOLATEDa",
   "FE7B bMEDIALa,aSHADDA ISOLATEDa,bMEDIALa,aSUKUN ISOLATEDa,bMEDIALa,aLETTER HAMZA ISOLATEDa",
   "FE81 bALEF WITH MADDA ABOVEb,fFINALa,dHAMZA ABOVE ISOLATEDa,fFINALa",
   "FE85 bWAW WITH HAMZA ABOVE ISOLATEDa,fFINALa,bALEF WITH HAMZA BELOW ISOLATEDa,fFINALa",
   "FE89 bYEH WITH HAMZA ABOVE ISOLATEDa,fFINALa,fINITIALa,fMEDIALa,bALEF ISOLATEDa,cFINALa",
   "FE8F bBEH ISOLATEDa,cFINALa,cINITIALa,cMEDIALa,bTEH MARBUTA ISOLATEDa,dFINALa,cISOLATEDa",
   "FE96 cFINALa,cINITIALa,cMEDIALa,bTHEH ISOLATEDa,cFINALa,cINITIALa,cMEDIALa,bJEEM ISOLATEDa",
   "FE9E cFINALa,cINITIALa,cMEDIALa,bHAH ISOLATEDa,cFINALa,cINITIALa,cMEDIALa,bKHAH ISOLATEDa",
   "FEA6 cFINALa,cINITIALa,cMEDIALa,bDAL ISOLATEDa,cFINALa,bTHAL ISOLATEDa,cFINALa,bREH ISOLATEDa",
   "FEAE cFINALa,bZAIN ISOLATEDa,cFINALa,bSEEN ISOLATEDa,cFINALa,cINITIALa,cMEDIALa",
   "FEB5 bSHEEN ISOLATEDa,cFINALa,cINITIALa,cMEDIALa,bSAD ISOLATEDa,cFINALa,cINITIALa,cMEDIALa",
   "FEBD bDAD ISOLATEDa,cFINALa,cINITIALa,cMEDIALa,bTAH ISOLATEDa,cFINALa,cINITIALa,cMEDIALa",
   "FEC5 bZAH ISOLATEDa,cFINALa,cINITIALa,cMEDIALa,bAIN ISOLATEDa,cFINALa,cINITIALa,cMEDIALa",
   "FECD bGHAIN ISOLATEDa,cFINALa,cINITIALa,cMEDIALa,bFEH ISOLATEDa,cFINALa,cINITIALa,cMEDIALa",
   "FED5 bQAF ISOLATEDa,cFINALa,cINITIALa,cMEDIALa,bKAF ISOLATEDa,cFINALa,cINITIALa,cMEDIALa",
   "FEDD bLAM ISOLATEDa,cFINALa,cINITIALa,cMEDIALa,bMEEM ISOLATEDa,cFINALa,cINITIALa,cMEDIALa",
   "FEE5 bNOON ISOLATEDa,cFINALa,cINITIALa,cMEDIALa,bHEH ISOLATEDa,cFINALa,cINITIALa,cMEDIALa",
   "FEED bWAW ISOLATEDa,cFINALa,bALEF MAKSURA ISOLATEDa,dFINALa,bYEH ISOLATEDa,cFINALa,cINITIALa",
   "FEF4 cMEDIALa,aLIGATURE LAM WITH ALEF WITH MADDA ABOVE ISOLATEDa,hFINALa",
   "FEF7 fHAMZA ABOVE ISOLATEDa,hFINALa,gBELOW ISOLATEDa,hFINALa,eISOLATEDa,eFINALa",
   "FEFF ZERO WIDTH NO-BREAK SPACE,,FULLWIDTH EXCLAMATION MARK,aQUOTATIONa,aNUMBER SIGN,aDOLLARa",
   "FF05 aPERCENTa,aAMPERSAND,aAPOSTROPHE,aLEFT PARENTHESIS,aRIGHTa,aASTERISK,aPLUS SIGN,aCOMMA",
   "FF0D aHYPHEN-MINUS,aFULL STOP,aSOLIDUS,aDIGIT ZERO,bONE,bTWO,bTHREE,bFOUR,bFIVE,bSIX,bSEVEN",
   "FF18 bEIGHT,bNINE,aCOLON,aSEMICOLON,aLESS-THAN SIGN,aEQUALSa,aGREATER-THANa,aQUESTION MARK",
   "FF20 aCOMMERCIAL AT,aLATIN CAPITAL LETTER A,dB,dC,dD,dE,dF,dG,dH,dI,dJ,dK,dL,dM,dN,dO,dP,dQ",
   "FF32 dR,dS,dT,dU,dV,dW,dX,dY,dZ,aLEFT SQUARE BRACKET,aREVERSE SOLIDUS,aRIGHT SQUARE BRACKET",
   "FF3E aCIRCUMFLEX ACCENT,aLOW LINE,aGRAVE ACCENT,aLATIN SMALL LETTER A,dB,dC,dD,dE,dF,dG,dH,dI",
   "FF4A dJ,dK,dL,dM,dN,dO,dP,dQ,dR,dS,dT,dU,dV,dW,dX,dY,dZ,aLEFT CURLY BRACKET,aVERTICAL LINE",
   "FF5D aRIGHT CURLY BRACKET,aTILDE,aLEFT WHITE PARENTHESIS,aRIGHTb",
   "FF61 HALFWIDTH IDEOGRAPHIC FULL STOP,aLEFT CORNER BRACKET,aRIGHTb,aIDEOGRAPHIC COMMA",
   "FF65 aKATAKANA MIDDLE DOT,bLETTER WO,cSMALL A,dI,dU,dE,dO,dYA,dYU,dYO,dTU",
   "FF70 aKATAKANA-HIRAGANA PROLONGED SOUND MARK,aKATAKANA LETTER A,cI,cU,cE,cO,cKA,cKI,cKU,cKE",
   "FF7A cKO,cSA,cSI,cSU,cSE,cSO,cTA,cTI,cTU,cTE,cTO,cNA,cNI,cNU,cNE,cNO,cHA,cHI,cHU,cHE,cHO,cMA",
   "FF90 cMI,cMU,cME,cMO,cYA,cYU,cYO,cRA,cRI,cRU,cRE,cRO,cWA,cN,bVOICED SOUND MARK,bSEMI-VOICEDb",
   "FFA0 aHANGUL FILLER,bLETTER KIYEOK,cSSANGKIYEOK,cKIYEOK-SIOS,cNIEUN,cNIEUN-CIEUC,cNIEUN-HIEUH",
   "FFA7 cTIKEUT,cSSANGTIKEUT,cRIEUL,cRIEUL-KIYEOK,cRIEUL-MIEUM,cRIEUL-PIEUP,cRIEUL-SIOS",
   "FFAE cRIEUL-THIEUTH,cRIEUL-PHIEUPH,cRIEUL-HIEUH,cMIEUM,cPIEUP,cSSANGPIEUP,cPIEUP-SIOS,cSIOS",
   "FFB6 cSSANGSIOS,cIEUNG,cCIEUC,cSSANGCIEUC,cCHIEUCH,cKHIEUKH,cTHIEUTH,cPHIEUPH,cHIEUH,,,,cA",
   "FFC3 cAE,cYA,cYAE,cEO,cE,,,cYEO,cYE,cO,cWA,cWAE,cOE,,,cYO,cU,cWEO,cWE,cWI,cYU,,,cEU,cYI,cI",
   "FFE0 FULLWIDTH CENT SIGN,aPOUNDa,aNOTa,aMACRON,aBROKEN BAR,aYEN SIGN,aWONa",
   "FFE8 HALFWIDTH FORMS LIGHT VERTICAL,aLEFTWARDS ARROW,aUPWARDSa,aRIGHTWARDSa,aDOWNWARDSa",
   "FFED aBLACK SQUARE,aWHITE CIRCLE",
   "FFF9 INTERLINEAR ANNOTATION ANCHOR,bSEPARATOR,bTERMINATOR,OBJECT REPLACEMENT CHARACTER",
   "FFFD REPLACEMENTa,,,LINEAR B SYLLABLE B008 A,cB038 E,cB028 I,cB061 O,cB010 U,cB001 DA"]

def namesFrom10000 : List String :=
  ["10006 cB045 DE,cB007 DI,cB014 DO,cB051 DU,cB057 JA,cB046 JE,,cB036 JO,cB065 JU,cB077 KA",
   "10010 cB044 KE,cB067 KI,cB070 KO,cB081 KU,cB080 MA,cB013 ME,cB073 MI,cB015 MO,cB023 MU",
   "10019 cB006 NA,cB024 NE,cB030 NI,cB052 NO,cB055 NU,cB003 PA,cB072 PE,cB039 PI,cB011 PO",
   "10022 cB050 PU,cB016 QA,cB078 QE,cB021 QI,cB032 QO,,cB060 RA,cB027 RE,cB053 RI,cB002 RO",
   "1002C cB026 RU,cB031 SA,cB009 SE,cB041 SI,cB012 SO,cB058 SU,cB059 TA,cB004 TE,cB037 TI",
   "10035 cB005 TO,cB069 TU,cB054 WA,cB075 WE,cB040 WI,cB042 WO,,cB017 ZA,cB074 ZE,,cB020 ZO",
   "10040 cB025 A2,cB043 A3,cB085 AU,cB071 DWE,cB090 DWO,cB048 NWA,cB029 PU2,cB062 PTE,cB076 RA2",
   "10049 cB033 RA3,cB068 RO2,cB066 TA2,cB087 TWE,cB091 TWO,,,bSYMBOL B018,cB019,cB022,cB034",
   "10054 cB047,cB049,cB056,cB063,cB064,cB079,cB082,cB083,cB086,cB089",
   "10080 bIDEOGRAM B100 MAN,cB102 WOMAN,cB104 DEER,cB105 EQUID,cB105F MARE,cB105M STALLION",
   "10086 cB106F EWE,cB106M RAM,cB107F SHE-GOAT,cB107M HE-GOAT,cB108F SOW,cB108M BOAR,cB109F COW",
   "1008D cB109M BULL,cB120 WHEAT,cB121 BARLEY,cB122 OLIVE,cB123 SPICE,cB125 CYPERUS",
   "10093 bMONOGRAM B127 KAPO,cB128 KANAKO,bIDEOGRAM B130 OIL,cB131 WINE,cB132",
   "10098 bMONOGRAM B133 AREPA,cB135 MERI,bIDEOGRAM B140 BRONZE,cB141 GOLD,cB142,cB145 WOOL,cB146",
   "1009F cB150,cB151 HORN,cB152,cB153,cB154,bMONOGRAM B156 TURO2,bIDEOGRAM B157,cB158",
   "100A7 cB159 CLOTH,cB160,cB161,cB162 GARMENT,cB163 ARMOUR,cB164,cB165,cB166,cB167,cB168,cB169",
   "100B2 cB170,cB171,cB172,cB173 MONTH,cB174,cB176 TREE,cB177,cB178,cB179,cB180,cB181,cB182",
   "100BE cB183,cB184,cB185,cB189,cB190,cB191 HELMET,cB220 FOOTSTOOL,cB225 BATHTUB,cB230 SPEAR",
   "100C7 cB231 ARROW,cB232,cB233 SWORD,cB234,cB236,cB240 WHEELED CHARIOT,cB241a",
   "100CE cB242 CHARIOT FRAME,cB243 WHEEL,cB245,cB246,bMONOGRAM B247 DIPTE,bIDEOGRAM B248,cB249",
   "100D5 cB251,cB252,cB253,cB254 DART,cB255,cB256,cB257,cB258,cB259,cVESSEL B155,dB200,dB201",
   "100E1 dB202,dB203,dB204,dB205,dB206,dB207,dB208,dB209,dB210,dB211,dB212,dB213,dB214,dB215",
   "100EF dB216,dB217,dB218,dB219,dB221,dB222,dB226,dB227,dB228,dB229,dB250,dB305",
   "10100 AEGEAN WORD SEPARATOR LINE,cDOT,aCHECK MARK,,,,,aNUMBER ONE,bTWO,bTHREE,bFOUR,bFIVE",
   "1010C bSIX,bSEVEN,bEIGHT,bNINE,bTEN,bTWENTY,bTHIRTY,bFORTY,bFIFTY,bSIXTY,bSEVENTY,bEIGHTY",
   "10118 bNINETY,bONE HUNDRED,bTWOa,bTHREEa,bFOURa,bFIVEa,bSIXa,bSEVENa,bEIGHTa,bNINEa",
   "10122 bONE THOUSAND,bTWOa,bTHREEa,bFOURa,bFIVEa,bSIXa,bSEVENa,bEIGHTa,bNINEa,bTENa,bTWENTYa",
   "1012D bTHIRTYa,bFORTYa,bFIFTYa,bSIXTYa,bSEVENTYa,bEIGHTYa,bNINETYa,,,,aWEIGHT BASE UNIT",
   "10138 bFIRST SUBUNIT,bSECONDa,bTHIRDa,bFOURTHa,aDRY MEASURE FIRSTa,aLIQUIDc,aMEASURE SECONDa",
   "1013F bTHIRDa,GREEK ACROPHONIC ATTIC ONE QUARTER,dHALF,dDRACHMA,cFIVE,cFIFTY,cFIVE HUNDRED",
   "10146 dTHOUSAND,cFIFTYa,cFIVE TALENTS,cTENa,cFIFTYa,cONE HUNDREDa,cFIVEb,cONE THOUSANDa",
   "1014E cFIVEb,dSTATERS,cTENa,cFIFTYa,cONE HUNDREDa,cFIVEb,cONE THOUSANDa,cTENb,cFIFTYb",
   "10157 cTEN MNAS,bHERAEUM ONE PLETHRON,bTHESPIAN ONE,bHERMIONIANa,bEPIDAUREAN TWO,bTHESPIANa",
   "1015D bCYRENAIC TWO DRACHMAS,bEPIDAUREANb,bTROEZENIAN FIVE,cTEN,dALTERNATE FORM",
   "10162 bHERMIONIAN TEN,bMESSENIANa,bTHESPIANa,cTHIRTY,bTROEZENIAN FIFTY,dALTERNATE FORM",
   "10168 bHERMIONIAN FIFTY,bTHESPIANa,cONE HUNDRED,cTHREEa,bEPIDAUREAN FIVEa,bTROEZENIANb",
   "1016E bTHESPIANb,bCARYSTIANb,bNAXIANb,bTHESPIAN ONE THOUSAND,cFIVEa,bDELPHIC FIVE MNAS",
   "10174 bSTRATIAN FIFTYa,aONE HALF SIGN,dALTERNATE FORM,aTWO THIRDS SIGN,aTHREE QUARTERSa",
   "10179 aYEARa,aTALENTa,aDRACHMAa,aOBOLa,aTWO OBOLSa,aTHREEb,aFOURb,aFIVEb,aMETRETESa",
   "10182 aKYATHOS BASEa,aLITRAa,aOUNKIAa,aXESTESa,aARTABEa,aAROURAa,aGRAMMAa,aTRYBLION BASEa",
   "1018A aZEROa,aONE QUARTERa,aSINUSOIDa,aINDICTIONa,NOMISMAa,,ROMAN SEXTANSa,aUNCIAa,aSEMUNCIAa",
   "10193 aSEXTULAa,aDIMIDIAb,aSILIQUAa,aDENARIUSa,aQUINARIUSa,aSESTERTIUSa,aDUPONDIUSa,aASa",
   "1019B aCENTURIALa,ASCIA SYMBOL,,,,GREEK SYMBOL TAU RHO",
   "101D0 PHAISTOS DISC SIGN PEDESTRIAN,cPLUMED HEAD,cTATTOOEDa,cCAPTIVE,cCHILD,cWOMAN,cHELMET",
   "101D7 cGAUNTLET,cTIARA,cARROW,cBOW,cSHIELD,cCLUB,cMANACLES,cMATTOCK,cSAW,cLID,cBOOMERANG",
   "101E2 cCARPENTRY PLANE,cDOLIUM,cCOMB,cSLING,cCOLUMN,cBEEHIVE,cSHIP,cHORN,cHIDE,cBULLS LEG",
   "101EC cCAT,cRAM,cEAGLE,cDOVE,cTUNNY,cBEE,cPLANE TREE,cVINE,cPAPYRUS,cROSETTE,cLILY,cOX BACK",
   "101F8 cFLUTE,cGRATER,cSTRAINER,cSMALL AXE,cWAVY BAND,cCOMBINING OBLIQUE STROKE",
   "10280 LYCIAN LETTER A,bE,bB,bBH,bG,bD,bI,bW,bZ,bTH,bJ,bK,bQ,bL,bM,bN,bMM,bNN,bU,bP,bKK,bR,bS",
   "10297 bT,bTT,bAN,bEN,bH,bX,,,,CARIAN LETTER A,bP2,bD,bL,bUUU,bR,bLD,bA2,bQ,bB,bM,bO,bD2,bT",
   "102AE bSH,bSH2,bS,bC-18,bU,bNN,bX,bN,bTT2,bP,bSS,bI,bE,bUUUU,bK,bK2,bND,bUU,bG,bG2,bST,bST2",
   "102C4 bNG,bII,bC-39,bTT,bUUU2,bRR,bMB,bMB2,bMB3,bMB4,bLD2,bE2,bUUU3",
   "102E0 COPTIC EPACT THOUSANDS MARK,bDIGIT ONE,cTWO,cTHREE,cFOUR,cFIVE,cSIX,cSEVEN,cEIGHT,cNINE",
   "102EA bNUMBER TEN,cTWENTY,cTHIRTY,cFORTY,cFIFTY,cSIXTY,cSEVENTY,cEIGHTY,cNINETY,cONE HUNDRED",
   "102F4 cTWOa,cTHREEa,cFOURa,cFIVEa,cSIXa,cSEVENa,cEIGHTa,cNINEa,,,,,OLD ITALIC LETTER A,cBE",
   "10302 cKE,cDE,cE,cVE,cZE,cHE,cTHE,cI,cKA,cEL,cEM,cEN,cESH,cO,cPE,cSHE,cKU,cER,cES,cTE,cU,cEKS",
   "10318 cPHE,cKHE,cEF,cERS,cCHE,cII,cUU,cESS,bNUMERAL ONE,cFIVE,cTEN,cFIFTY,,,,,,,,,,bLETTER YE",
   "1032E cNORTHERN TSE,cSOUTHERNa,GOTHIC LETTER AHSA,bBAIRKAN,bGIBA,bDAGS,bAIHVUS,bQAIRTHRA",
   "10336 bIUJA,bHAGL,bTHIUTH,bEIS,bKUSMA,bLAGUS,bMANNA,bNAUTHS,bJER,bURUS,bPAIRTHRA,bNINETY",
   "10342 bRAIDA,bSAUIL,bTEIWS,bWINJA,bFAIHU,bIGGWS,bHWAIR,bOTHAL,bNINE HUNDRED",
   "10350 OLD PERMIC LETTER AN,cBUR,cGAI,cDOI,cE,cZHOI,cDZHOI,cZATA,cDZITA,cI,cKOKE,cLEI,cMENOE",
   "1035D cNENOE,cVOOI,cPEEI,cREI,cSII,cTAI,cU,cCHERY,cSHOOI,cSHCHOOI,cYRY,cYERU,cO,cOO,cEF,cHA",
   "1036D cTSIU,cVER,cYER,cYERI,cYAT,cIE,cYU,cYA,cIA,COMBINING OLD PERMIC LETTER AN,dDOI,dZATA",
   "10379 dNENOE,dSII,,,,,,UGARITIC LETTER ALPA,bBETA,bGAMLA,bKHA,bDELTA,bHO,bWO,bZETA,bHOTA,bTET",
   "1038A bYOD,bKAF,bSHIN,bLAMDA,bMEM,bDHAL,bNUN,bZU,bSAMKA,bAIN,bPU,bSADE,bQOPA,bRASHA,bTHANNA",
   "10399 bGHAIN,bTO,bI,bU,bSSU,,aWORD DIVIDER,OLD PERSIAN SIGN A,cI,cU,cKA,cKU,cGA,cGU,cXA,cCA",
   "103A9 cJA,cJI,cTA,cTU,cDA,cDI,cDU,cTHA,cPA,cBA,cFA,cNA,cNU,cMA,cMI,cMU,cYA,cVA,cVI,cRA,cRU",
   "103BE cLA,cSA,cZA,cSHA,cSSA,cHA,,,,,cAURAMAZDAA,cAURAMAZDAA-2,cAURAMAZDAAHA,cXSHAAYATHIYA",
   "103CC cDAHYAAUSH,cDAHYAAUSH-2,cBAGA,cBUUMISH,bWORD DIVIDER,bNUMBER ONE,cTWO,cTEN,cTWENTY",
   "103D5 cHUNDRED",
   "10400 DESERET CAPITAL LETTER LONG I,dE,dA,dAH,dO,dOO,cSHORT I,dE,dA,dAH,dO,dOO,cAY,cOW,cWU",
   "1040F cYEE,cH,cPEE,cBEE,cTEE,cDEE,cCHEE,cJEE,cKAY,cGAY,cEF,cVEE,cETH,cTHEE,cES,cZEE,cESH",
   "10420 cZHEE,cER,cEL,cEM,cEN,cENG,cOI,cEW,aSMALL LETTER LONG I,dE,dA,dAH,dO,dOO,cSHORT I,dE,dA",
   "10431 dAH,dO,dOO,cAY,cOW,cWU,cYEE,cH,cPEE,cBEE,cTEE,cDEE,cCHEE,cJEE,cKAY,cGAY,cEF,cVEE,cETH",
   "10444 cTHEE,cES,cZEE,cESH,cZHEE,cER,cEL,cEM,cEN,cENG,cOI,cEW,SHAVIAN LETTER PEEP,bTOT,bKICK",
   "10453 bFEE,bTHIGH,bSO,bSURE,bCHURCH,bYEA,bHUNG,bBIB,bDEAD,bGAG,bVOW,bTHEY,bZOO,bMEASURE",
   "10461 bJUDGE,bWOE,bHA-HA,bLOLL,bMIME,bIF,bEGG,bASH,bADO,bON,bWOOL,bOUT,bAH,bROAR,bNUN,bEAT",
   "10471 bAGE,bICE,bUP,bOAK,bOOZE,bOIL,bAWE,bARE,bOR,bAIR,bERR,bARRAY,bEAR,bIAN,bYEW",
   "10480 OSMANYA LETTER ALEF,bBA,bTA,bJA,bXA,bKHA,bDEEL,bRA,bSA,bSHIIN,bDHA,bCAYN,bGA,bFA,bQAAF",
   "1048F bKAAF,bLAAN,bMIIN,bNUUN,bWAW,bHA,bYA,bA,bE,bI,bO,bU,bAA,bEE,bOO,,,aDIGIT ZERO,bONE,bTWO",
   "104A3 bTHREE,bFOUR,bFIVE,bSIX,bSEVEN,bEIGHT,bNINE,,,,,,,OSAGE CAPITAL LETTER A,cAI,cAIN,cAH",
   "104B4 cBRA,cCHA,cEHCHA,cE,cEIN,cHA,cHYA,cI,cKA,cEHKA,cKYA,cLA,cMA,cNA,cO,cOIN,cPA,cEHPA,cSA",
   "104C7 cSHA,cTA,cEHTA,cTSA,cEHTSA,cTSHA,cDHA,cU,cWA,cKHA,cGHA,cZA,cZHA,,,,,aSMALL LETTER A,cAI",
   "104DA cAIN,cAH,cBRA,cCHA,cEHCHA,cE,cEIN,cHA,cHYA,cI,cKA,cEHKA,cKYA,cLA,cMA,cNA,cO,cOIN,cPA",
   "104ED cEHPA,cSA,cSHA,cTA,cEHTA,cTSA,cEHTSA,cTSHA,cDHA,cU,cWA,cKHA,cGHA,cZA,cZHA",
   "10500 ELBASAN LETTER A,bBE,bCE,bCHE,bDE,bNDE,bDHE,bEI,bE,bFE,bGE,bGJE,bHE,bI,bJE,bKE,bLE,bLLE",
   "10512 bME,bNE,bNA,bNJE,bO,bPE,bQE,bRE,bRRE,bSE,bSHE,bTE,bTHE,bU,bVE,bXE,bY,bZE,bZHE,bGHE",
   "10526 bGHAMMA,bKHE,,,,,,,,,CAUCASIAN ALBANIAN LETTER ALT,cBET,cGIM,cDAT,cEB,cZARL,cEYN,cZHIL",
   "10538 cTAS,cCHA,cYOWD,cZHA,cIRB,cSHA,cLAN,cINYA,cXEYN,cDYAN,cCAR,cJHOX,cKAR,cLYIT,cHEYT,cQAY",
   "10548 cAOR,cCHOY,cCHI,cCYAY,cMAQ,cQAR,cNOWC,cDZYAY,cSHAK,cJAYN,cON,cTYAY,cFAM,cDZAY,cCHAT",
   "10557 cPEN,cGHEYS,cRAT,cSEYK,cVEYZ,cTIWR,cSHOY,cIWN,cCYAW,cCAYN,cYAYD,cPIWR,cKIW",
   "1056F bCITATION MARK,VITHKUQI CAPITAL LETTER A,cBBE,cBE,cCE,cCHE,cDE,cDHE,cEI,cE,cFE,cGA,,cHA",
   "1057D cHHA,cI,cIJE,cJE,cKA,cLA,cLLA,cME,cNE,cNJE,cO,cPE,cQA,cRE,,cSE,cSHE,cTE,cTHE,cU,cVE,cXE",
   "10594 cY,cZE,,aSMALL LETTER A,cBBE,cBE,cCE,cCHE,cDE,cDHE,cEI,cE,cFE,cGA,,cHA,cHHA,cI,cIJE,cJE",
   "105A8 cKA,cLA,cLLA,cME,cNE,cNJE,cO,cPE,cQA,cRE,,cSE,cSHE,cTE,cTHE,cU,cVE,cXE,,cY,cZE",
   "10600 LINEAR A SIGN AB001,cAB002,cAB003,cAB004,cAB005,cAB006,cAB007,cAB008,cAB009,cAB010",
   "1060A cAB011,cAB013,cAB016,cAB017,cAB020,cAB021,cAB021F,cAB021M,cAB022,cAB022F,cAB022M,cAB023",
   "10616 cAB023M,cAB024,cAB026,cAB027,cAB028,cA028B,cAB029,cAB030,cAB031,cAB034,cAB037,cAB038",
   "10622 cAB039,cAB040,cAB041,cAB044,cAB045,cAB046,cAB047,cAB048,cAB049,cAB050,cAB051,cAB053",
   "1062E cAB054,cAB055,cAB056,cAB057,cAB058,cAB059,cAB060,cAB061,cAB065,cAB066,cAB067,cAB069",
   "1063A cAB070,cAB073,cAB074,cAB076,cAB077,cAB078,cAB079,cAB080,cAB081,cAB082,cAB085,cAB086",
   "10646 cAB087,cA100-102,cAB118,cAB120,cA120B,cAB122,cAB123,cAB131A,cAB131B,cA131C,cAB164",
   "10651 cAB171,cAB180,cAB188,cAB191,cA301,cA302,cA303,cA304,cA305,cA306,cA307,cA308,cA309A",
   "1065E cA309B,cA309C,cA310,cA311,cA312,cA313A,cA313B,cA313C,cA314,cA315,cA316,cA317,cA318",
   "1066B cA319,cA320,cA321,cA322,cA323,cA324,cA325,cA326,cA327,cA328,cA329,cA330,cA331,cA332",
   "10679 cA333,cA334,cA335,cA336,cA337,cA338,cA339,cA340,cA341,cA342,cA343,cA344,cA345,cA346",
   "10687 cA347,cA348,cA349,cA350,cA351,cA352,cA353,cA354,cA355,cA356,cA357,cA358,cA359,cA360",
   "10695 cA361,cA362,cA363,cA364,cA365,cA366,cA367,cA368,cA369,cA370,cA371,cA400-VAS,cA401-VAS",
   "106A2 cA402-VAS,cA403-VAS,cA404-VAS,cA405-VAS,cA406-VAS,cA407-VAS,cA408-VAS,cA409-VAS",
   "106AA cA410-VAS,cA411-VAS,cA412-VAS,cA413-VAS,cA414-VAS,cA415-VAS,cA416-VAS,cA417-VAS",
   "106B2 cA418-VAS,cA501,cA502,cA503,cA504,cA505,cA506,cA508,cA509,cA510,cA511,cA512,cA513,cA515",
   "106C0 cA516,cA520,cA521,cA523,cA524,cA525,cA526,cA527,cA528,cA529,cA530,cA531,cA532,cA534",
   "106CE cA535,cA536,cA537,cA538,cA539,cA540,cA541,cA542,cA545,cA547,cA548,cA549,cA550,cA551",
   "106DC cA552,cA553,cA554,cA555,cA556,cA557,cA559,cA563,cA564,cA565,cA566,cA568,cA569,cA570",
   "106EA cA571,cA572,cA573,cA574,cA575,cA576,cA577,cA578,cA579,cA580,cA581,cA582,cA583,cA584",
   "106F8 cA585,cA586,cA587,cA588,cA589,cA591,cA592,cA594,cA595,cA596,cA598,cA600,cA601,cA602",
   "10706 cA603,cA604,cA606,cA608,cA609,cA610,cA611,cA612,cA613,cA614,cA615,cA616,cA617,cA618",
   "10714 cA619,cA620,cA621,cA622,cA623,cA624,cA626,cA627,cA628,cA629,cA634,cA637,cA638,cA640",
   "10722 cA642,cA643,cA644,cA645,cA646,cA648,cA649,cA651,cA652,cA653,cA654,cA655,cA656,cA657",
   "10730 cA658,cA659,cA660,cA661,cA662,cA663,cA664,,,,,,,,,,cA701 A,cA702 B,cA703 D,cA704 E",
   "10744 cA705 F,cA706 H,cA707 J,cA708 K,cA709 L,cA709-2 L2,cA709-3 L3,cA709-4 L4,cA709-6 L6",
   "1074D cA710 W,cA711 X,cA712 Y,cA713 OMEGA,cA714 ABB,cA715 BB,cA717 DD,cA726 EYYY,cA732 JE",
   "10760 cA800,cA801,cA802,cA803,cA804,cA805,cA806,cA807",
   "10780 MODIFIER LETTER SMALL CAPITAL AA,bSUPERSCRIPT TRIANGULAR COLON,cHALFb,bSMALL AE",
   "10784 cCAPITAL B,cB WITH HOOK,,cDZ DIGRAPH,eWITH RETROFLEX HOOK,fCURL,cDEZH DIGRAPH",
   "1078B cD WITH TAIL,eHOOK,fAND TAIL,cREVERSED E,cCLOSED REVERSED OPENa,cFENG DIGRAPH",
   "10791 cRAMS HORN,cCAPITAL G,cG WITH HOOK,cCAPITALc,cH WITH STROKE,cCAPITAL H,cHENG WITH HOOK",
   "10798 cDOTLESS J WITH STROKE ANDa,cLS DIGRAPH,cLZa,cL WITH BELT,cCAPITALc",
   "1079D cL WITH RETROFLEX HOOK ANDa,cLEZH,dWITH RETROFLEX HOOK,cTURNED Y,eWITH BELT",
   "107A2 cO WITH STROKE,cCAPITAL OE,cCLOSED OMEGA,cQ,cTURNED R WITH LONG LEG,hAND RETROFLEX HOOK",
   "107A8 cR WITH TAIL,eFISHHOOK,cCAPITAL R,cTC DIGRAPH WITH CURL,cTS DIGRAPH",
   "107AD eWITH RETROFLEX HOOK,cTESH DIGRAPH,cT WITH RETROFLEX HOOK,cV WITH RIGHTa,,cCAPITAL Y",
   "107B3 bGLOTTAL STOP WITH STROKE,bREVERSEDd,bBILABIAL CLICK,bDENTALa,bLATERALa,bALVEOLARa",
   "107B9 bRETROFLEX CLICK WITH RETROFLEX HOOK,bSMALL S WITH CURL",
   "10800 CYPRIOT SYLLABLE A,bE,bI,bO,bU,bJA,,,bJO,,bKA,bKE,bKI,bKO,bKU,bLA,bLE,bLI,bLO,bLU,bMA",
   "10815 bME,bMI,bMO,bMU,bNA,bNE,bNI,bNO,bNU,bPA,bPE,bPI,bPO,bPU,bRA,bRE,bRI,bRO,bRU,bSA,bSE,bSI",
   "1082B bSO,bSU,bTA,bTE,bTI,bTO,bTU,bWA,bWE,bWI,bWO,,bXA,bXE,,,,bZA,,,bZO",
   "10840 IMPERIAL ARAMAIC LETTER ALEPH,cBETH,cGIMEL,cDALETH,cHE,cWAW,cZAYIN,cHETH,cTETH,cYODH",
   "1084A cKAPH,cLAMEDH,cMEM,cNUN,cSAMEKH,cAYIN,cPE,cSADHE,cQOPH,cRESH,cSHIN,cTAW,,bSECTION SIGN",
   "10858 bNUMBER ONE,cTWO,cTHREE,cTEN,cTWENTY,cONE HUNDRED,dTHOUSAND,cTENa",
   "10860 PALMYRENE LETTER ALEPH,bBETH,bGIMEL,bDALETH,bHE,bWAW,bZAYIN,bHETH,bTETH,bYODH,bKAPH",
   "1086B bLAMEDH,bMEM,bFINAL NUN,bNUN,bSAMEKH,bAYIN,bPE,bSADHE,bQOPH,bRESH,bSHIN,bTAW",
   "10877 aLEFT-POINTING FLEURON,aRIGHT-POINTINGa,aNUMBER ONE,bTWO,bTHREE,bFOUR,bFIVE,bTEN",
   "1087F bTWENTY,NABATAEAN LETTER FINAL ALEPH,bALEPH,bFINAL BETH,bBETH,bGIMEL,bDALETH,bFINAL HE",
   "10887 bHE,bWAW,bZAYIN,bHETH,bTETH,bFINAL YODH,bYODH,bFINAL KAPH,bKAPH,bFINAL LAMEDH,bLAMEDH",
   "10892 bFINAL MEM,bMEM,bFINAL NUN,bNUN,bSAMEKH,bAYIN,bPE,bSADHE,bQOPH,bRESH,bFINAL SHIN,bSHIN",
   "1089E bTAW,,,,,,,,,aNUMBER ONE,bTWO,bTHREE,bFOUR,aCRUCIFORMb,aNUMBER FIVE,bTEN,bTWENTY",
   "108AF bONE HUNDRED",
   "108E0 HATRAN LETTER ALEPH,bBETH,bGIMEL,bDALETH-RESH,bHE,bWAW,bZAYN,bHETH,bTETH,bYODH,bKAPH",
   "108EB bLAMEDH,bMEM,bNUN,bSAMEKH,bAYN,bPE,bSADHE,bQOPH,,bSHIN,bTAW,,,,,,aNUMBER ONE,bFIVE,bTEN",
   "108FE bTWENTY,bONE HUNDRED,PHOENICIAN LETTER ALF,bBET,bGAML,bDELT,bHE,bWAU,bZAI,bHET,bTET",
   "10909 bYOD,bKAF,bLAMD,bMEM,bNUN,bSEMK,bAIN,bPE,bSADE,bQOF,bROSH,bSHIN,bTAU,aNUMBER ONE,bTEN",
   "10918 bTWENTY,bONE HUNDRED,bTWO,bTHREE,,,,aWORD SEPARATOR,LYDIAN LETTER A,bB,bG,bD,bE,bV,bI",
   "10927 bY,bK,bL,bM,bN,bO,bR,bSS,bT,bU,bF,bQ,bS,bTT,bAN,bEN,bLY,bNN,bC,,,,,,aTRIANGULAR MARK",
   "10980 MEROITIC HIEROGLYPHIC LETTER A,cE,cI,cO,cYA,cWA,cBA,cBA-2,cPA,cMA,cNA,cNA-2,cNE,cNE-2",
   "1098E cRA,cRA-2,cLA,cKHA,cHHA,cSA,cSA-2,cSE,cKA,cQA,cTA,cTA-2,cTE,cTE-2,cTO,cDA,bSYMBOL VIDJ",
   "1099F cVIDJ-2,aCURSIVE LETTER A,cE,cI,cO,cYA,cWA,cBA,cPA,cMA,cNA,cNE,cRA,cLA,cKHA,cHHA,cSA",
   "109B0 cARCHAICa,cSE,cKA,cQA,cTA,cTE,cTO,cDA,,,,,bFRACTION ELEVEN TWELFTHS,cONE HALF",
   "109BE bLOGOGRAM RMT,cIMN,bNUMBER ONE,cTWO,cTHREE,cFOUR,cFIVE,cSIX,cSEVEN,cEIGHT,cNINE,cTEN",
   "109CA cTWENTY,cTHIRTY,cFORTY,cFIFTY,cSIXTY,cSEVENTY,,,cONE HUNDRED,cTWOa,cTHREEa,cFOURa",
   "109D6 cFIVEa,cSIXa,cSEVENa,cEIGHTa,cNINEa,cONE THOUSAND,cTWOa,cTHREEa,cFOURa,cFIVEa,cSIXa",
   "109E1 cSEVENa,cEIGHTa,cNINEa,cTENa,cTWENTYa,cTHIRTYa,cFORTYa,cFIFTYa,cSIXTYa,cSEVENTYa",
   "109EB cEIGHTYa,cNINETYa,cONE HUNDREDa,cTWOb,cTHREEb,cFOURb,cFIVEb,cSIXb,cSEVENb,cEIGHTb",
   "109F5 cNINEb,bFRACTION ONE TWELFTH,cTWO TWELFTHS,cTHREEa,cFOURa,cFIVEa,cSIXa,cSEVENa,cEIGHTa",
   "109FE cNINEa,cTENa,KHAROSHTHI LETTER A,aVOWEL SIGN I,cU,cVOCALIC R,,cE,cO,,,,,,bLENGTH MARK",
   "10A0D aSIGN DOUBLE RING BELOW,bANUSVARA,bVISARGA,aLETTER KA,bKHA,bGA,bGHA,,bCA,bCHA,bJA,,bNYA",
   "10A1A bTTA,bTTHA,bDDA,bDDHA,bNNA,bTA,bTHA,bDA,bDHA,bNA,bPA,bPHA,bBA,bBHA,bMA,bYA,bRA,bLA,bVA",
   "10A2D bSHA,bSSA,bSA,bZA,bHA,bKKA,bTTTHA,bTTTA,bVHA,,,aSIGN BAR ABOVE,bCAUDA,bDOT BELOW",
   "10A3F aVIRAMA,aDIGIT ONE,bTWO,bTHREE,bFOUR,aNUMBER TEN,bTWENTY,bONE HUNDRED,cTHOUSAND",
   "10A48 aFRACTION ONE HALF,,,,,,,,aPUNCTUATION DOT,bSMALL CIRCLE,bCIRCLE,bCRESCENT BAR",
   "10A54 bMANGALAM,bLOTUS,bDANDA,bDOUBLEa,bLINES,,,,,,,,OLD SOUTH ARABIAN LETTER HE,dLAMEDH",
   "10A62 dHETH,dMEM,dQOPH,dWAW,dSHIN,dRESH,dBETH,dTAW,dSAT,dKAPH,dNUN,dKHETH,dSADHE,dSAMEKH,dFE",
   "10A71 dALEF,dAYN,dDHADHE,dGIMEL,dDALETH,dGHAYN,dTETH,dZAYN,dDHALETH,dYODH,dTHAW,dTHETH",
   "10A7D cNUMBER ONE,dFIFTY,cNUMERIC INDICATOR,aNORTH ARABIAN LETTER HEH,dLAM,dHAH,dMEEM,dQAF",
   "10A85 dWAW,dES-2,dREH,dBEH,dTEH,dES-1,dKAF,dNOON,dKHAH,dSAD,dES-3,dFEH,dALEF,dAIN,dDAD,dGEEM",
   "10A95 dDAL,dGHAIN,dTAH,dZAIN,dTHAL,dYEH,dTHEH,dZAH,cNUMBER ONE,dTEN,dTWENTY",
   "10AC0 MANICHAEAN LETTER ALEPH,bBETH,bBHETH,bGIMEL,bGHIMEL,bDALETH,bHE,bWAW,aSIGN UD",
   "10AC9 aLETTER ZAYIN,bZHAYIN,bJAYIN,bJHAYIN,bHETH,bTETH,bYODH,bKAPH,bXAPH,bKHAPH,bLAMEDH",
   "10AD4 bDHAMEDH,bTHAMEDH,bMEM,bNUN,bSAMEKH,bAYIN,bAAYIN,bPE,bFE,bSADHE,bQOPH,bXOPH,bQHOPH",
   "10AE1 bRESH,bSHIN,bSSHIN,bTAW,aABBREVIATION MARK ABOVE,cBELOW,,,,,aNUMBER ONE,bFIVE,bTEN",
   "10AEE bTWENTY,bONE HUNDRED,aPUNCTUATION STAR,bFLEURON,bDOUBLE DOT WITHIN DOT,bDOTb,bDOT",
   "10AF5 bTWO DOTS,bLINE FILLER,,,,,,,,,,AVESTAN LETTER A,bAA,bAO,bAAO,bAN,bAAN,bAE,bAEE,bE,bEE",
   "10B0A bO,bOO,bI,bII,bU,bUU,bKE,bXE,bXYE,bXVE,bGE,bGGE,bGHE,bCE,bJE,bTE,bTHE,bDE,bDHE,bTTE,bPE",
   "10B1F bFE,bBE,bBHE,bNGE,bNGYE,bNGVE,bNE,bNYE,bNNE,bME,bHME,bYYE,bYE,bVE,bRE,bLE,bSE,bZE,bSHE",
   "10B32 bZHE,bSHYE,bSSHE,bHE,,,,aABBREVIATION MARK,TINY TWO DOTS OVER ONE DOT PUNCTUATION",
   "10B3B SMALLf,LARGEf,aONE DOT OVER TWO DOTSa,aTWO RINGS OVER ONE RINGa",
   "10B3F aONE RING OVER TWO RINGSa,INSCRIPTIONAL PARTHIAN LETTER ALEPH,cBETH,cGIMEL,cDALETH,cHE",
   "10B45 cWAW,cZAYIN,cHETH,cTETH,cYODH,cKAPH,cLAMEDH,cMEM,cNUN,cSAMEKH,cAYIN,cPE,cSADHE,cQOPH",
   "10B53 cRESH,cSHIN,cTAW,,,bNUMBER ONE,cTWO,cTHREE,cFOUR,cTEN,cTWENTY,cONE HUNDRED,dTHOUSAND",
   "10B60 aPAHLAVI LETTER ALEPH,cBETH,cGIMEL,cDALETH,cHE,cWAW-AYIN-RESH,cZAYIN,cHETH,cTETH,cYODH",
   "10B6A cKAPH,cLAMEDH,cMEM-QOPH,cNUN,cSAMEKH,cPE,cSADHE,cSHIN,cTAW,,,,,,bNUMBER ONE,cTWO,cTHREE",
   "10B7B cFOUR,cTEN,cTWENTY,cONE HUNDRED,dTHOUSAND,PSALTER PAHLAVI LETTER ALEPH,cBETH,cGIMEL",
   "10B83 cDALETH,cHE,cWAW-AYIN-RESH,cZAYIN,cHETH,cYODH,cKAPH,cLAMEDH,cMEM-QOPH,cNUN,cSAMEKH,cPE",
   "10B8F cSADHE,cSHIN,cTAW,,,,,,,,bSECTION MARK,bTURNEDb,bFOUR DOTS WITH CROSS,eDOT",
   "10BA9 bNUMBER ONE,cTWO,cTHREE,cFOUR,cTEN,cTWENTY,cONE HUNDRED",
   "10C00 OLD TURKIC LETTER ORKHON A,cYENISEIa,dAE,cORKHON I,cYENISEIa,dE,cORKHON O,dOE,cYENISEIa",
   "10C09 cORKHON AB,cYENISEIa,cORKHON AEB,cYENISEIa,cORKHON AG,cYENISEIa,cORKHON AEG,cYENISEIa",
   "10C11 cORKHON AD,cYENISEIa,cORKHON AED,dEZ,cYENISEIa,cORKHON AY,cYENISEIa,cORKHON AEY",
   "10C19 cYENISEIa,cORKHON AEK,cYENISEIa,cORKHON OEK,cYENISEIa,cORKHON AL,cYENISEIa,cORKHON AEL",
   "10C21 dELT,dEM,dAN,dAEN,cYENISEIa,cORKHON ENT,cYENISEIa,cORKHON ENC,cYENISEIa,cORKHON ENY",
   "10C2B cYENISEIa,dANG,cORKHON ENG,cYENISEI AENG,cORKHON EP,dOP,dIC,dEC,cYENISEIa,cORKHON AQ",
   "10C35 cYENISEIa,cORKHON IQ,cYENISEIa,cORKHON OQ,cYENISEIa,cORKHON AR,cYENISEIa,cORKHON AER",
   "10C3D dAS,dAES,dASH,cYENISEIa,cORKHON ESH,cYENISEIa,cORKHON AT,cYENISEIa,cORKHON AET",
   "10C46 cYENISEIa,cORKHON OT,dBASH",
   "10C80 aHUNGARIAN CAPITAL LETTER A,dAA,dEB,dAMB,dEC,dENC,dECS,dED,dAND,dE,dCLOSEa,dEE,dEF,dEG",
   "10C8E dEGY,dEH,dI,dII,dEJ,dEK,dAK,dUNK,dEL,dELY,dEM,dEN,dENY,dO,dOO,dNIKOLSBURG OE",
   "10C9E dRUDIMENTAa,dOEE,dEP,dEMP,dER,dSHORTa,dES,dESZ,dET,dENT,dETY,dECH,dU,dUU,dNIKOLSBURG UE",
   "10CAD dRUDIMENTAa,dEV,dEZ,dEZS,dENT-SHAPED SIGN,dUS",
   "10CC0 bSMALL LETTER A,dAA,dEB,dAMB,dEC,dENC,dECS,dED,dAND,dE,dCLOSEa,dEE,dEF,dEG,dEGY,dEH,dI",
   "10CD1 dII,dEJ,dEK,dAK,dUNK,dEL,dELY,dEM,dEN,dENY,dO,dOO,dNIKOLSBURG OE,dRUDIMENTAa,dOEE,dEP",
   "10CE1 dEMP,dER,dSHORTa,dES,dESZ,dET,dENT,dETY,dECH,dU,dUU,dNIKOLSBURG UE,dRUDIMENTAa,dEV,dEZ",
   "10CF0 dEZS,dENT-SHAPED SIGN,dUS,,,,,,,,bNUMBER ONE,cFIVE,cTEN,cFIFTY,cONE HUNDRED,dTHOUSAND",
   "10D00 HANIFI ROHINGYA LETTER A,cBA,cPA,cTA,cTTA,cJA,cCA,cHA,cKHA,cFA,cDA,cDDA,cRA,cRRA,cZA",
   "10D0F cSA,cSHA,cKA,cGA,cLA,cMA,cNA,cWA,cKINNAa,cYA,cKINNAa,cNGA,cNYA,cVA,bVOWEL A,cI,cU,cE,cO",
   "10D22 bMARK SAKIN,cNA KHONNA,bSIGN HARBAHAY,cTAHALA,cTANA,cTASSI,,,,,,,,,bDIGIT ZERO,cONE",
   "10D32 cTWO,cTHREE,cFOUR,cFIVE,cSIX,cSEVEN,cEIGHT,cNINE",
   "10E60 RUMI DIGIT ONE,bTWO,bTHREE,bFOUR,bFIVE,bSIX,bSEVEN,bEIGHT,bNINE,aNUMBER TEN,bTWENTY",
   "10E6B bTHIRTY,bFORTY,bFIFTY,bSIXTY,bSEVENTY,bEIGHTY,bNINETY,bONE HUNDRED,bTWOa,bTHREEa,bFOURa",
   "10E76 bFIVEa,bSIXa,bSEVENa,bEIGHTa,bNINEa,aFRACTION ONE HALF,cQUARTER,cTHIRD,bTWO THIRDS",
   "10E80 YEZIDI LETTER ELIF,bBE,bPE,bPHE,bTHE,bSE,bCIM,bCHIM,bCHHIM,bHHA,bXA,bDAL,bZAL,bRA,bRHA",
   "10E8F bZA,bJA,bSIN,bSHIN,bSAD,bDAD,bTA,bZE,bEYN,bXHEYN,bFA,bVA,cALTERNATE FORM,bQAF,bKAF",
   "10E9E bKHAF,bGAF,bLAM,bMIM,bNUN,bUM,bWAW,bOW,bEW,bHAY,bYOT,bET,,aCOMBINING HAMZA MARK,bMADDAa",
   "10EAD aHYPHENATIONa,,,aLETTER LAM WITH DOT ABOVE,bYOT WITH CIRCUMFLEXa",
   "10F00 OLD SOGDIAN LETTER ALEPH,cFINALa,cBETH,cFINALa,cGIMEL,cHE,cFINALa,cWAW,cZAYIN,cHETH",
   "10F0A cYODH,cKAPH,cLAMEDH,cMEM,cNUN,cFINALa,eWITH VERTICAL TAIL,cSAMEKH,cAYIN,cALTERNATEa,cPE",
   "10F15 cSADHE,cFINALa,eWITH VERTICAL TAIL,cRESH-AYIN-DALETH,cSHIN,cTAW,cFINALa",
   "10F1C eWITH VERTICAL TAIL,bNUMBER ONE,cTWO,cTHREE,cFOUR,cFIVE,cTEN,cTWENTY,cTHIRTY",
   "10F25 cONE HUNDRED,bFRACTION ONE HALF,bLIGATURE AYIN-DALETH,,,,,,,,,SOGDIAN LETTER ALEPH",
   "10F31 bBETH,bGIMEL,bHE,bWAW,bZAYIN,bHETH,bYODH,bKAPH,bLAMEDH,bMEM,bNUN,bSAMEKH,bAYIN,bPE",
   "10F3F bSADHE,bRESH-AYIN,bSHIN,bTAW,bFETH,bLESH,aINDEPENDENT SHIN,aCOMBINING DOT BELOW",
   "10F47 bTWO DOTSa,bDOT ABOVE,bTWO DOTSa,bCURVEa,cBELOW,bHOOK ABOVE,cBELOW,bLONGb,bRESHa",
   "10F50 bSTROKEa,aNUMBER ONE,bTEN,bTWENTY,bONE HUNDRED,aPUNCTUATION TWO VERTICAL BARS",
   "10F56 eWITH DOTS,bCIRCLE WITH DOT,bTWO CIRCLES WITH DOTS,bHALF CIRCLE WITH DOT",
   "10F70 OLD UYGHUR LETTER ALEPH,cBETH,cGIMEL-HETH,cWAW,cZAYIN,cFINAL HETH,cYODH,cKAPH,cLAMEDH",
   "10F79 cMEM,cNUN,cSAMEKH,cPE,cSADHE,cRESH,cSHIN,cTAW,cLESH,bCOMBINING DOT ABOVE,dBELOW",
   "10F84 cTWO DOTS ABOVE,eBELOW,bPUNCTUATION BAR,cTWO BARS,dDOTS,cFOURa",
   "10FB0 CHORASMIAN LETTER ALEPH,bSMALLa,bBETH,bGIMEL,bDALETH,bHE,bWAW,bCURLEDa,bZAYIN,bHETH",
   "10FBA bYODH,bKAPH,bLAMEDH,bMEM,bNUN,bSAMEKH,bAYIN,bPE,bRESH,bSHIN,bTAW,aNUMBER ONE,bTWO",
   "10FC7 bTHREE,bFOUR,bTEN,bTWENTY,bONE HUNDRED",
   "10FE0 ELYMAIC LETTER ALEPH,bBETH,bGIMEL,bDALETH,bHE,bWAW,bZAYIN,bHETH,bTETH,bYODH,bKAPH",
   "10FEB bLAMEDH,bMEM,bNUN,bSAMEKH,bAYIN,bPE,bSADHE,bQOPH,bRESH,bSHIN,bTAW,aLIGATURE ZAYIN-YODH",
   "11000 BRAHMI SIGN CANDRABINDU,bANUSVARA,bVISARGA,bJIHVAMULIYA,bUPADHMANIYA,aLETTER A,bAA,bI",
   "11008 bII,bU,bUU,bVOCALIC R,cRR,cL,cLL,bE,bAI,bO,bAU,bKA,bKHA,bGA,bGHA,bNGA,bCA,bCHA,bJA,bJHA",
   "1101C bNYA,bTTA,bTTHA,bDDA,bDDHA,bNNA,bTA,bTHA,bDA,bDHA,bNA,bPA,bPHA,bBA,bBHA,bMA,bYA,bRA,bLA",
   "1102F bVA,bSHA,bSSA,bSA,bHA,bLLA,bOLD TAMIL LLLA,dRRA,dNNNA,aVOWEL SIGN AA,cBHATTIPROLUa,cI",
   "1103B cII,cU,cUU,cVOCALIC R,dRR,dL,dLL,cE,cAI,cO,cAU,aVIRAMA,aDANDA,aDOUBLEa,aPUNCTUATION DOT",
   "1104A bDOUBLEa,bLINE,bCRESCENT BAR,bLOTUS,,,,,aNUMBER ONE,bTWO,bTHREE,bFOUR,bFIVE,bSIX,bSEVEN",
   "11059 bEIGHT,bNINE,bTEN,bTWENTY,bTHIRTY,bFORTY,bFIFTY,bSIXTY,bSEVENTY,bEIGHTY,bNINETY",
   "11064 bONE HUNDRED,cTHOUSAND,aDIGIT ZERO,bONE,bTWO,bTHREE,bFOUR,bFIVE,bSIX,bSEVEN,bEIGHT",
   "1106F bNINE,aSIGN OLD TAMIL VIRAMA,aLETTER OLD TAMIL SHORT E,eO,aVOWEL SIGN OLD TAMIL SHORT E",
   "11074 fO,aLETTER OLD TAMIL LLA,,,,,,,,,,aNUMBER JOINER,KAITHI SIGN CANDRABINDU,bANUSVARA",
   "11082 bVISARGA,aLETTER A,bAA,bI,bII,bU,bUU,bE,bAI,bO,bAU,bKA,bKHA,bGA,bGHA,bNGA,bCA,bCHA,bJA",
   "11095 bJHA,bNYA,bTTA,bTTHA,bDDA,bDDDHA,bDDHA,bRHA,bNNA,bTA,bTHA,bDA,bDHA,bNA,bPA,bPHA,bBA",
   "110A6 bBHA,bMA,bYA,bRA,bLA,bVA,bSHA,bSSA,bSA,bHA,aVOWEL SIGN AA,cI,cII,cU,cUU,cE,cAI,cO,cAU",
   "110B9 aSIGN VIRAMA,bNUKTA,aABBREVIATION SIGN,aENUMERATIONa,aNUMBERa,aSECTION MARK,aDOUBLEb",
   "110C0 aDANDA,aDOUBLEa,aVOWEL SIGN VOCALIC R",
   "110CD aNUMBER SIGN ABOVE,,,SORA SOMPENG LETTER SAH,cTAH,cBAH,cCAH,cDAH,cGAH,cMAH,cNGAH,cLAH",
   "110D9 cNAH,cVAH,cPAH,cYAH,cRAH,cHAH,cKAH,cJAH,cNYAH,cAH,cEEH,cIH,cUH,cOH,cEH,cMAE",
   "110F0 bDIGIT ZERO,cONE,cTWO,cTHREE,cFOUR,cFIVE,cSIX,cSEVEN,cEIGHT,cNINE",
   "11100 CHAKMA SIGN CANDRABINDU,bANUSVARA,bVISARGA,aLETTER AA,bI,bU,bE,bKAA,bKHAA,bGAA,bGHAA",
   "1110B bNGAA,bCAA,bCHAA,bJAA,bJHAA,bNYAA,bTTAA,bTTHAA,bDDAA,bDDHAA,bNNAA,bTAA,bTHAA,bDAA,bDHAA",
   "1111A bNAA,bPAA,bPHAA,bBAA,bBHAA,bMAA,bYYAA,bYAA,bRAA,bLAA,bWAA,bSAA,bHAA,aVOWEL SIGN A,cI",
   "11129 cII,cU,cUU,cE,cAI,cO,cAU,cOI,aO MARK,aAUa,aVIRAMA,aMAAYYAA,,aDIGIT ZERO,bONE,bTWO",
   "11139 bTHREE,bFOUR,bFIVE,bSIX,bSEVEN,bEIGHT,bNINE,aSECTION MARK,aDANDA,aDOUBLEa",
   "11143 aQUESTION MARK,aLETTER LHAA,aVOWEL SIGN AA,cEI,aLETTER VAA,,,,,,,,,MAHAJANI LETTER A,bI",
   "11152 bU,bE,bO,bKA,bKHA,bGA,bGHA,bCA,bCHA,bJA,bJHA,bNYA,bTTA,bTTHA,bDDA,bDDHA,bNNA,bTA,bTHA",
   "11165 bDA,bDHA,bNA,bPA,bPHA,bBA,bBHA,bMA,bRA,bLA,bVA,bSA,bHA,bRRA,aSIGN NUKTA",
   "11174 aABBREVIATION SIGN,aSECTION MARK,aLIGATURE SHRI,,,,,,,,,,SHARADA SIGN CANDRABINDU",
   "11181 bANUSVARA,bVISARGA,aLETTER A,bAA,bI,bII,bU,bUU,bVOCALIC R,cRR,cL,cLL,bE,bAI,bO,bAU,bKA",
   "11192 bKHA,bGA,bGHA,bNGA,bCA,bCHA,bJA,bJHA,bNYA,bTTA,bTTHA,bDDA,bDDHA,bNNA,bTA,bTHA,bDA,bDHA",
   "111A4 bNA,bPA,bPHA,bBA,bBHA,bMA,bYA,bRA,bLA,bLLA,bVA,bSHA,bSSA,bSA,bHA,aVOWEL SIGN AA,cI,cII",
   "111B6 cU,cUU,cVOCALIC R,dRR,dL,dLL,cE,cAI,cO,cAU,aSIGN VIRAMA,bAVAGRAHA,bJIHVAMULIYA",
   "111C3 bUPADHMANIYA,aOM,aDANDA,aDOUBLEa,aABBREVIATION SIGN,aSEPARATOR,aSANDHI MARK,aSIGN NUKTA",
   "111CB aVOWEL MODIFIER MARK,aEXTRA SHORT VOWELa,aSUTRAa,aVOWEL SIGN PRISHTHAMATRA E",
   "111CF aSIGN INVERTED CANDRABINDU,aDIGIT ZERO,bONE,bTWO,bTHREE,bFOUR,bFIVE,bSIX,bSEVEN,bEIGHT",
   "111D9 bNINE,aEKAM,aSIGN SIDDHAM,aHEADSTROKE,aCONTINUATION SIGN,aSECTION MARK-1,bMARK-2",
   "111E1 SINHALA ARCHAIC DIGIT ONE,cTWO,cTHREE,cFOUR,cFIVE,cSIX,cSEVEN,cEIGHT,cNINE,bNUMBER TEN",
   "111EB cTWENTY,cTHIRTY,cFORTY,cFIFTY,cSIXTY,cSEVENTY,cEIGHTY,cNINETY,cONE HUNDRED,dTHOUSAND",
   "11200 KHOJKI LETTER A,bAA,bI,bU,bE,bAI,bO,bAU,bKA,bKHA,bGA,bGGA,bGHA,bNGA,bCA,bCHA,bJA,bJJA",
   "11213 bNYA,bTTA,bTTHA,bDDA,bDDHA,bNNA,bTA,bTHA,bDA,bDDDA,bDHA,bNA,bPA,bPHA,bBA,bBBA,bBHA,bMA",
   "11225 bYA,bRA,bLA,bVA,bSA,bHA,bLLA,aVOWEL SIGN AA,cI,cII,cU,cE,cAI,cO,cAU,aSIGN ANUSVARA",
   "11235 bVIRAMA,bNUKTA,bSHADDA,aDANDA,aDOUBLEa,aWORD SEPARATOR,aSECTION MARK,aDOUBLEb",
   "1123D aABBREVIATION SIGN,aSIGN SUKUN",
   "11280 MULTANI LETTER A,bI,bU,bE,bKA,bKHA,bGA,,bGHA,,bCA,bCHA,bJA,bJJA,,bNYA,bTTA,bTTHA,bDDA",
   "11293 bDDDA,bDDHA,bNNA,bTA,bTHA,bDA,bDHA,bNA,bPA,bPHA,bBA,,bBHA,bMA,bYA,bRA,bLA,bVA,bSA,bHA",
   "112A7 bRRA,bRHA,aSECTION MARK,,,,,,,KHUDAWADI LETTER A,bAA,bI,bII,bU,bUU,bE,bAI,bO,bAU,bKA",
   "112BB bKHA,bGA,bGGA,bGHA,bNGA,bCA,bCHA,bJA,bJJA,bJHA,bNYA,bTTA,bTTHA,bDDA,bDDDA,bRRA,bDDHA",
   "112CC bNNA,bTA,bTHA,bDA,bDHA,bNA,bPA,bPHA,bBA,bBBA,bBHA,bMA,bYA,bRA,bLA,bVA,bSHA,bSA,bHA",
   "112DF aSIGN ANUSVARA,aVOWEL SIGN AA,cI,cII,cU,cUU,cE,cAI,cO,cAU,aSIGN NUKTA,bVIRAMA",
   "112F0 aDIGIT ZERO,bONE,bTWO,bTHREE,bFOUR,bFIVE,bSIX,bSEVEN,bEIGHT,bNINE",
   "11300 GRANTHA SIGN COMBINING ANUSVARA ABOVE,bCANDRABINDU,bANUSVARA,bVISARGA,,aLETTER A,bAA,bI",
   "11308 bII,bU,bUU,bVOCALIC R,cL,,,bEE,bAI,,,bOO,bAU,bKA,bKHA,bGA,bGHA,bNGA,bCA,bCHA,bJA,bJHA",
   "1131E bNYA,bTTA,bTTHA,bDDA,bDDHA,bNNA,bTA,bTHA,bDA,bDHA,bNA,,bPA,bPHA,bBA,bBHA,bMA,bYA,bRA",
   "11332 bLA,bLLA,,bVA,bSHA,bSSA,bSA,bHA,,COMBINING BINDU BELOW,GRANTHA SIGN NUKTA,bAVAGRAHA",
   "1133E aVOWEL SIGN AA,cI,cII,cU,cUU,cVOCALIC R,dRR,,,cEE,cAI,,,cOO,cAU,aSIGN VIRAMA,,,aOM",
   "11357 aAU LENGTH MARK,,,,,,aSIGN PLUTA,aLETTER VEDIC ANUSVARA,cDOUBLEa,bVOCALIC RR,cLL",
   "11362 aVOWEL SIGN VOCALIC L,dLL,,,COMBINING GRANTHA DIGIT ZERO,cONE,cTWO,cTHREE,cFOUR,cFIVE",
   "1136C cSIX,,,,bLETTER A,cKA,cNA,cVI,cPA",
   "11400 NEWA LETTER A,bAA,bI,bII,bU,bUU,bVOCALIC R,cRR,cL,cLL,bE,bAI,bO,bAU,bKA,bKHA,bGA,bGHA",
   "11412 bNGA,bNGHA,bCA,bCHA,bJA,bJHA,bNYA,bNYHA,bTTA,bTTHA,bDDA,bDDHA,bNNA,bTA,bTHA,bDA,bDHA",
   "11423 bNA,bNHA,bPA,bPHA,bBA,bBHA,bMA,bMHA,bYA,bRA,bRHA,bLA,bLHA,bWA,bSHA,bSSA,bSA,bHA",
   "11435 aVOWEL SIGN AA,cI,cII,cU,cUU,cVOCALIC R,dRR,dL,dLL,cE,cAI,cO,cAU,aSIGN VIRAMA",
   "11443 bCANDRABINDU,bANUSVARA,bVISARGA,bNUKTA,bAVAGRAHA,bFINAL ANUSVARA,aOM,aSIDDHI,aDANDA",
   "1144C aDOUBLEa,aCOMMA,aGAP FILLER,aABBREVIATION SIGN,aDIGIT ZERO,bONE,bTWO,bTHREE,bFOUR,bFIVE",
   "11456 bSIX,bSEVEN,bEIGHT,bNINE,aDOUBLE COMMA,aPLACEHOLDER MARK,,aINSERTION SIGN,aSANDHI MARK",
   "1145F aLETTER VEDIC ANUSVARA,aSIGN JIHVAMULIYA,bUPADHMANIYA",
   "11480 TIRHUTA ANJI,aLETTER A,bAA,bI,bII,bU,bUU,bVOCALIC R,cRR,cL,cLL,bE,bAI,bO,bAU,bKA,bKHA",
   "11491 bGA,bGHA,bNGA,bCA,bCHA,bJA,bJHA,bNYA,bTTA,bTTHA,bDDA,bDDHA,bNNA,bTA,bTHA,bDA,bDHA,bNA",
   "114A3 bPA,bPHA,bBA,bBHA,bMA,bYA,bRA,bLA,bVA,bSHA,bSSA,bSA,bHA,aVOWEL SIGN AA,cI,cII,cU,cUU",
   "114B5 cVOCALIC R,dRR,dL,dLL,cE,cSHORTa,cAI,cO,cSHORTa,cAU,aSIGN CANDRABINDU,bANUSVARA",
   "114C1 bVISARGA,bVIRAMA,bNUKTA,bAVAGRAHA,aGVANG,aABBREVIATION SIGN,aOM,,,,,,,,,aDIGIT ZERO",
   "114D1 bONE,bTWO,bTHREE,bFOUR,bFIVE,bSIX,bSEVEN,bEIGHT,bNINE",
   "11580 SIDDHAM LETTER A,bAA,bI,bII,bU,bUU,bVOCALIC R,cRR,cL,cLL,bE,bAI,bO,bAU,bKA,bKHA,bGA",
   "11591 bGHA,bNGA,bCA,bCHA,bJA,bJHA,bNYA,bTTA,bTTHA,bDDA,bDDHA,bNNA,bTA,bTHA,bDA,bDHA,bNA,bPA",
   "115A3 bPHA,bBA,bBHA,bMA,bYA,bRA,bLA,bVA,bSHA,bSSA,bSA,bHA,aVOWEL SIGN AA,cI,cII,cU,cUU",
   "115B4 cVOCALIC R,dRR,,,cE,cAI,cO,cAU,aSIGN CANDRABINDU,bANUSVARA,bVISARGA,bVIRAMA,bNUKTA",
   "115C1 bSIDDHAM,aDANDA,aDOUBLEa,aSEPARATOR DOT,bBAR,aREPETITION MARK-1,bMARK-2,bMARK-3",
   "115C9 aEND OF TEXT MARK,aSECTION MARK WITH TRIDENT AND U-SHAPED ORNAMENTS,fDOTTED CRESCENTS",
   "115CC dRAYSc,gDOUBLEa,gTRIPLEa,cDOUBLE RING,eWITH RAYS,cWITH DOUBLE CRESCENTS,dTRIPLEa",
   "115D3 dQUADRUPLEa,dSEPTUPLEa,dCIRCLES AND RAYS,fTWO ENCLOSURES,fFOURa",
   "115D8 aLETTER THREE-CIRCLE ALTERNATE I,bTWO-CIRCLEb,dII,bALTERNATE U,aVOWEL SIGNb,dUU",
   "11600 MODI LETTER A,bAA,bI,bII,bU,bUU,bVOCALIC R,cRR,cL,cLL,bE,bAI,bO,bAU,bKA,bKHA,bGA,bGHA",
   "11612 bNGA,bCA,bCHA,bJA,bJHA,bNYA,bTTA,bTTHA,bDDA,bDDHA,bNNA,bTA,bTHA,bDA,bDHA,bNA,bPA,bPHA",
   "11624 bBA,bBHA,bMA,bYA,bRA,bLA,bVA,bSHA,bSSA,bSA,bHA,bLLA,aVOWEL SIGN AA,cI,cII,cU,cUU",
   "11635 cVOCALIC R,dRR,dL,dLL,cE,cAI,cO,cAU,aSIGN ANUSVARA,bVISARGA,bVIRAMA,bARDHACANDRA,aDANDA",
   "11642 aDOUBLEa,aABBREVIATION SIGN,aSIGN HUVA",
   "11650 aDIGIT ZERO,bONE,bTWO,bTHREE,bFOUR,bFIVE,bSIX,bSEVEN,bEIGHT,bNINE",
   "11660 MONGOLIAN BIRGA WITH ORNAMENT,aROTATED BIRGA,aDOUBLE BIRGA WITH ORNAMENT,aTRIPLEc",
   "11664 aBIRGA WITH DOUBLEa,aROTATED BIRGA WITHa,dDOUBLEa,aINVERTED BIRGA,cWITH DOUBLE ORNAMENT",
   "11669 aSWIRL BIRGA,cWITH ORNAMENT,dDOUBLEa,aTURNEDe",
   "11680 TAKRI LETTER A,bAA,bI,bII,bU,bUU,bE,bAI,bO,bAU,bKA,bKHA,bGA,bGHA,bNGA,bCA,bCHA,bJA,bJHA",
   "11693 bNYA,bTTA,bTTHA,bDDA,bDDHA,bNNA,bTA,bTHA,bDA,bDHA,bNA,bPA,bPHA,bBA,bBHA,bMA,bYA,bRA,bLA",
   "116A6 bVA,bSHA,bSA,bHA,bRRA,aSIGN ANUSVARA,bVISARGA,aVOWEL SIGN AA,cI,cII,cU,cUU,cE,cAI,cO",
   "116B5 cAU,aSIGN VIRAMA,bNUKTA,aLETTER ARCHAIC KHA,aABBREVIATION SIGN,,,,,,,aDIGIT ZERO,bONE",
   "116C2 bTWO,bTHREE,bFOUR,bFIVE,bSIX,bSEVEN,bEIGHT,bNINE",
   "11700 AHOM LETTER KA,bKHA,bNGA,bNA,bTA,bALTERNATEa,bPA,bPHA,bBA,bMA,bJA,bCHA,bTHA,bRA,bLA,bSA",
   "11710 bNYA,bHA,bA,bDA,bDHA,bGA,bALTERNATEa,bGHA,bBHA,bJHA,bALTERNATE BA",
   "1171D aCONSONANT SIGN MEDIAL LA,dRA,dLIGATINGa,aVOWEL SIGN A,cAA,cI,cII,cU,cUU,cE,cAW,cO,cAI",
   "1172A cAM,aSIGN KILLER,,,,,aDIGIT ZERO,bONE,bTWO,bTHREE,bFOUR,bFIVE,bSIX,bSEVEN,bEIGHT,bNINE",
   "1173A aNUMBER TEN,bTWENTY,aSIGN SMALL SECTION,bSECTION,bRULAI,aSYMBOL VI,aLETTER CA,bTTA",
   "11742 bTTHA,bDDA,bDDHA,bNNA,bLLA",
   "11800 DOGRA LETTER A,bAA,bI,bII,bU,bUU,bE,bAI,bO,bAU,bKA,bKHA,bGA,bGHA,bNGA,bCA,bCHA,bJA,bJHA",
   "11813 bNYA,bTTA,bTTHA,bDDA,bDDHA,bNNA,bTA,bTHA,bDA,bDHA,bNA,bPA,bPHA,bBA,bBHA,bMA,bYA,bRA,bLA",
   "11826 bVA,bSHA,bSSA,bSA,bHA,bRRA,aVOWEL SIGN AA,cI,cII,cU,cUU,cVOCALIC R,dRR,cE,cAI,cO,cAU",
   "11837 aSIGN ANUSVARA,bVISARGA,bVIRAMA,bNUKTA,aABBREVIATION SIGN",
   "118A0 WARANG CITI CAPITAL LETTER NGAA,dA,dWI,dYU,dYA,dYO,dII,dUU,dE,dO,dANG,dGA,dKO,dENY,dYUJ",
   "118AF dUC,dENN,dODD,dTTE,dNUNG,dDA,dAT,dAM,dBU,dPU,dHIYO,dHOLO,dHORR,dHAR,dSSUU,dSII,dVIYO",
   "118C0 bSMALL LETTER NGAA,dA,dWI,dYU,dYA,dYO,dII,dUU,dE,dO,dANG,dGA,dKO,dENY,dYUJ,dUC,dENN",
   "118D1 dODD,dTTE,dNUNG,dDA,dAT,dAM,dBU,dPU,dHIYO,dHOLO,dHORR,dHAR,dSSUU,dSII,dVIYO,bDIGIT ZERO",
   "118E1 cONE,cTWO,cTHREE,cFOUR,cFIVE,cSIX,cSEVEN,cEIGHT,cNINE,bNUMBER TEN,cTWENTY,cTHIRTY",
   "118ED cFORTY,cFIFTY,cSIXTY,cSEVENTY,cEIGHTY,cNINETY",
   "118FF bOM,DIVES AKURU LETTER A,cAA,cI,cII,cU,cUU,cE,,,cO,,,cKA,cKHA,cGA,cGHA,cNGA,cCA,cCHA",
   "11913 cJA,,cNYA,cTTA,,cDDA,cDDHA,cNNA,cTA,cTHA,cDA,cDHA,cNA,cPA,cPHA,cBA,cBHA,cMA,cYA,cYYA",
   "11927 cRA,cLA,cVA,cSHA,cSSA,cSA,cHA,cLLA,cZA,bVOWEL SIGN AA,dI,dII,dU,dUU,dE,,dAI,dO",
   "1193B bSIGN ANUSVARA,cCANDRABINDU,cHALANTA,bVIRAMA,bPREFIXED NASAL SIGN,bMEDIAL YA",
   "11941 bINITIAL RA,bMEDIALa,bSIGN NUKTA,bDOUBLE DANDA,bGAP FILLER,bEND OF TEXT MARK",
   "11950 bDIGIT ZERO,cONE,cTWO,cTHREE,cFOUR,cFIVE,cSIX,cSEVEN,cEIGHT,cNINE",
   "119A0 NANDINAGARI LETTER A,bAA,bI,bII,bU,bUU,bVOCALIC R,cRR,,,bE,bAI,bO,bAU,bKA,bKHA,bGA,bGHA",
   "119B2 bNGA,bCA,bCHA,bJA,bJHA,bNYA,bTTA,bTTHA,bDDA,bDDHA,bNNA,bTA,bTHA,bDA,bDHA,bNA,bPA,bPHA",
   "119C4 bBA,bBHA,bMA,bYA,bRA,bLA,bVA,bSHA,bSSA,bSA,bHA,bLLA,bRRA,aVOWEL SIGN AA,cI,cII,cU,cUU",
   "119D6 cVOCALIC R,dRR,,,cE,cAI,cO,cAU,aSIGN ANUSVARA,bVISARGA,bVIRAMA,bAVAGRAHA,bSIDDHAM",
   "119E3 aHEADSTROKE,aVOWEL SIGN PRISHTHAMATRA E",
   "11A00 ZANABAZAR SQUARE LETTER A,bVOWEL SIGN I,dUE,dU,dE,dOE,dO,dAI,dAU,dREVERSED I",
   "11A0A cLENGTH MARK,bLETTER KA,cKHA,cGA,cGHA,cNGA,cCA,cCHA,cJA,cNYA,cTTA,cTTHA,cDDA,cDDHA,cNNA",
   "11A19 cTA,cTHA,cDA,cDHA,cNA,cPA,cPHA,cBA,cBHA,cMA,cTSA,cTSHA,cDZA,cDZHA,cZHA,cZA,c-A,cYA,cRA",
   "11A2C cLA,cVA,cSHA,cSSA,cSA,cHA,cKSSA,bFINAL CONSONANT MARK,bSIGN VIRAMA,cCANDRABINDU",
   "11A36 dWITH ORNAMENT,cCANDRAb,cANUSVARA,cVISARGA,bCLUSTER-INITIAL LETTER RA",
   "11A3B bCLUSTER-FINAL LETTER YA,dRA,dLA,dVA,bINITIAL HEAD MARK,bCLOSINGb,bMARK TSHEG,cSHAD",
   "11A43 cDOUBLEa,cLONG TSHEG,bINITIAL DOUBLE-LINED HEAD MARK,bCLOSINGc,bSUBJOINER",
   "11A50 SOYOMBO LETTER A,aVOWEL SIGN I,cUE,cU,cE,cO,cOE,cAI,cAU,cVOCALIC R,dL,bLENGTH MARK",
   "11A5C aLETTER KA,bKHA,bGA,bGHA,bNGA,bCA,bCHA,bJA,bJHA,bNYA,bTTA,bTTHA,bDDA,bDDHA,bNNA,bTA",
   "11A6C bTHA,bDA,bDHA,bNA,bPA,bPHA,bBA,bBHA,bMA,bTSA,bTSHA,bDZA,bZHA,bZA,b-A,bYA,bRA,bLA,bVA",
   "11A7F bSHA,bSSA,bSA,bHA,bKSSA,aSIGN JIHVAMULIYA,bUPADHMANIYA,aCLUSTER-INITIAL LETTER RA,cLA",
   "11A88 cSHA,cSA,aFINAL CONSONANT SIGN G,dK,dNG,dD,dN,dB,dM,dR,dL,dSH,dS,d-A,aSIGN ANUSVARA",
   "11A97 bVISARGA,aGEMINATION MARK,aSUBJOINER,aMARK TSHEG,bSHAD,bDOUBLEa,bPLUTA",
   "11A9E aHEAD MARK WITH MOON AND SUN AND TRIPLE FLAME,hFLAME,fSUN,aTERMINAL MARK-1,bMARK-2",
   "11AB0 CANADIAN SYLLABICS NATTILIK HI,cHII,cHO,cHOO,cHA,cHAA,cSHRI,cSHRII,cSHRO,cSHROO,cSHRA",
   "11ABB cSHRAA,bSPE,bSPI,bSPO,bSPA,PAU CIN HAU LETTER PA,dKA,dLA,dMA,dDA,dZA,dVA,dNGA,dHA,dGA",
   "11ACA dKHA,dSA,dBA,dCA,dTA,dTHA,dNA,dPHA,dRA,dFA,dCHA,dA,dE,dI,dO,dU,dUA,dIA,dFINAL P,eK,eT",
   "11ADF eM,eN,eL,eW,eNG,eY,cRISING TONE LONG,dTONE,cSANDHI GLOTTAL STOP,cRISING TONE LONG FINAL",
   "11AE9 eFINAL,cSANDHI GLOTTAL STOPa,dTONE LONG,dTONE,eLONG FINAL,eFINAL,cMID-LEVEL TONE",
   "11AF0 cGLOTTAL STOP VARIANT,cMID-LEVEL TONE LONG FINAL,eFINAL,cLOW-FALLING TONE LONG,dTONE",
   "11AF5 cGLOTTAL STOP,cLOW-FALLING TONE LONG FINAL,eFINAL,cGLOTTAL STOPa",
   "11C00 BHAIKSUKI LETTER A,bAA,bI,bII,bU,bUU,bVOCALIC R,cRR,cL,,bE,bAI,bO,bAU,bKA,bKHA,bGA,bGHA",
   "11C12 bNGA,bCA,bCHA,bJA,bJHA,bNYA,bTTA,bTTHA,bDDA,bDDHA,bNNA,bTA,bTHA,bDA,bDHA,bNA,bPA,bPHA",
   "11C24 bBA,bBHA,bMA,bYA,bRA,bLA,bVA,bSHA,bSSA,bSA,bHA,aVOWEL SIGN AA,cI,cII,cU,cUU,cVOCALIC R",
   "11C35 dRR,dL,,cE,cAI,cO,cAU,aSIGN CANDRABINDU,bANUSVARA,bVISARGA,bVIRAMA,bAVAGRAHA,aDANDA",
   "11C42 aDOUBLEa,aWORD SEPARATOR,aGAP FILLER-1,bFILLER-2",
   "11C50 aDIGIT ZERO,bONE,bTWO,bTHREE,bFOUR,bFIVE,bSIX,bSEVEN,bEIGHT,bNINE,aNUMBER ONE,bTWO",
   "11C5C bTHREE,bFOUR,bFIVE,bSIX,bSEVEN,bEIGHT,bNINE,bTEN,bTWENTY,bTHIRTY,bFORTY,bFIFTY,bSIXTY",
   "11C69 bSEVENTY,bEIGHTY,bNINETY,aHUNDREDS UNIT MARK,,,,MARCHEN HEADa,aMARK SHAD,aLETTER KA",
   "11C73 bKHA,bGA,bNGA,bCA,bCHA,bJA,bNYA,bTA,bTHA,bDA,bNA,bPA,bPHA,bBA,bMA,bTSA,bTSHA,bDZA,bWA",
   "11C86 bZHA,bZA,b-A,bYA,bRA,bLA,bSHA,bSA,bHA,bA,,,aSUBJOINED LETTER KA,cKHA,cGA,cNGA,cCA,cCHA",
   "11C98 cJA,cNYA,cTA,cTHA,cDA,cNA,cPA,cPHA,cBA,cMA,cTSA,cTSHA,cDZA,cWA,cZHA,cZA,,cYA,cRA,cLA",
   "11CAC cSHA,cSA,cHA,cA,aVOWEL SIGN AA,cI,cU,cE,cO,aSIGN ANUSVARA,bCANDRABINDU",
   "11D00 MASARAM GONDI LETTER A,cAA,cI,cII,cU,cUU,cE,,cAI,cO,,cAU,cKA,cKHA,cGA,cGHA,cNGA,cCA",
   "11D12 cCHA,cJA,cJHA,cNYA,cTTA,cTTHA,cDDA,cDDHA,cNNA,cTA,cTHA,cDA,cDHA,cNA,cPA,cPHA,cBA,cBHA",
   "11D24 cMA,cYA,cRA,cLA,cVA,cSHA,cSSA,cSA,cHA,cLLA,cKSSA,cJNYA,cTRA,bVOWEL SIGN AA,dI,dII,dU",
   "11D35 dUU,dVOCALIC R,,,,dE,,dAI,dO,,dAU,bSIGN ANUSVARA,cVISARGA,cNUKTA,cCANDRA,cHALANTA",
   "11D45 bVIRAMA,bREPHA,bRA-KARA,,,,,,,,,bDIGIT ZERO,cONE,cTWO,cTHREE,cFOUR,cFIVE,cSIX,cSEVEN",
   "11D58 cEIGHT,cNINE,,,,,,,GUNJALA GONDI LETTER A,cAA,cI,cII,cU,cUU,,cEE,cAI,,cOO,cAU,cYA,cVA",
   "11D6E cBA,cBHA,cMA,cKA,cKHA,cTA,cTHA,cLA,cGA,cGHA,cDA,cDHA,cNA,cCA,cCHA,cTTA,cTTHA,cLLA,cJA",
   "11D81 cJHA,cDDA,cDDHA,cNGA,cPA,cPHA,cHA,cRA,cSA,bVOWEL SIGN AA,dI,dII,dU,dUU,,dEE,dAI,,dOO",
   "11D94 dAU,bSIGN ANUSVARA,cVISARGA,bVIRAMA,bOM,,,,,,,,bDIGIT ZERO,cONE,cTWO,cTHREE,cFOUR,cFIVE",
   "11DA6 cSIX,cSEVEN,cEIGHT,cNINE",
   "11EE0 MAKASAR LETTER KA,bGA,bNGA,bPA,bBA,bMA,bTA,bDA,bNA,bCA,bJA,bNYA,bYA,bRA,bLA,bVA,bSA,bA",
   "11EF2 aANGKA,aVOWEL SIGN I,cU,cE,cO,aPASSIMBANG,aEND OF SECTION",
   "11FB0 LISU LETTER YHA",
   "11FC0 TAMIL FRACTION ONE THREE-HUNDRED-AND-TWENTIETH,cONE-HUNDRED-AND-SIXTIETH,cEIGHTIETH",
   "11FC3 cSIXTY-FOURTH,cFORTIETH,cTHIRTY-SECOND,bTHREE EIGHTIETHS,cSIXTY-FOURTHS,bONE TWENTIETH",
   "11FC9 cSIXTEENTH-1,cSIXTEENTH-2,cTENTH,cEIGHTH,bTHREE TWENTIETHS,cSIXTEENTHS,bONE FIFTH",
   "11FD0 cQUARTER,cHALF-1,cHALF-2,bTHREE QUARTERS,bDOWNSCALING FACTOR KIIZH,aSIGN NEL,bCEVITU",
   "11FD7 bAAZHAAKKU,bUZHAKKU,bMUUVUZHAKKU,bKURUNI,bPATHAKKU,bMUKKURUNI,bKAACU,bPANAM,bPON",
   "11FE0 bVARAAKAN,bPAARAM,bKUZHI,bVELI,aWET CULTIVATION SIGN,aDRYb,aLANDa,aSALT PANa",
   "11FE8 aTRADITIONAL CREDITa,bNUMBERa,aCURRENTa,aAND ODDa,aSPENTa,aTOTALa,aIN POSSESSIONa",
   "11FEF aSTARTING FROMa,aSIGN MUTHALIYA,bVAKAIYARAA",
   "11FFF aPUNCTUATION END OF TEXT,CUNEIFORM SIGN A,cTIMES A,dBAD,dGAN2 TENU,dHA,dIGI,dLAGAR GUNU"]

def namesFrom12000 : List String :=
  ["12007 dMUSH,dSAG,bA2,bAB,cTIMES ASH2,dDUN3 GUNU,dGAL,dGAN2 TENU,dHA,dIGI GUNU,dIMIN,dLAGAB",
   "12013 dSHESH,dU PLUS U PLUS U,cGUNU,bAB2,cTIMES BALAG,dGAN2 TENU,dME PLUS EN,dSHA3,dTAK4,bAD",
   "1201D bAK,cTIMES ERIN2,dSHITA PLUS GISH,bAL,cTIMES AL,dDIM2,dGISH,dHA,dKAD3,dKI,dSHE,dUSH",
   "12029 bALAN,bALEPH,bAMAR,cTIMES SHE,bAN,cOVER AN,cTHREE TIMES",
   "12030 cPLUS NAGA OPPOSING AN PLUS NAGA,eSQUARED,bANSHE,bAPIN,bARAD,cTIMES KUR,bARKAB,bASAL2",
   "12038 bASH,cZIDA TENU,cKABAa,cOVER ASH TUG2 OVER TUG2 TUG2 OVER TUG2 PAP,eOVER ASH",
   "1203D gCROSSING ASH OVER ASH OVER ASH,bASH2,bASHGAB,bBA,bBAD,bBAG3,bBAHAR2,bBAL,cOVER BAL",
   "12046 bBALAG,bBAR,bBARA2,bBI,cTIMES A,dGAR,dIGI GUNU,bBU,cOVER BU AB,eUN,cCROSSING BU,bBULUG",
   "12052 cOVER BULUG,bBUR,bBUR2,bDA,bDAG,cKISIM5 TIMES A PLUS MASH,eAMAR,eBALAG,eBI,eGA",
   "1205C fPLUS MASH,eGI,eGIR2,eGUD,eHA,eIR,fPLUS LU,eKAK,eLA,eLU,fPLUS MASH2,eLUM,eNE",
   "12069 ePAP PLUS PAP,eSI,eTAK4,eU2 PLUS GIR2,eUSH,bDAM,bDAR,bDARA3,bDARA4,bDI,bDIB,bDIM",
   "12075 cTIMES SHE,bDIM2,bDIN,cKASKAL U GUNU DISH,bDISH,bDU,cOVER DU,cGUNU,cSHESHIG,bDUB",
   "1207F cTIMES ESH2,bDUB2,bDUG,bDUGUD,bDUH,bDUN,bDUN3,cGUNU,dGUNU,bDUN4,bDUR2,bE,cTIMES PAP",
   "1208C cOVER E NUN OVER NUN,bE2,cTIMES A PLUS HA PLUS DA,dGAR,dMI,dSAL,dSHE,dU,bEDIN,bEGIR,bEL",
   "12097 bEN,cTIMES GAN2,eTENU,dME,cCROSSING EN,cOPPOSINGa,cSQUARED,bEREN,bERIN2,bESH2,bEZEN",
   "120A2 cTIMES A,ePLUS LAL,gTIMES LAL,dAN,dBAD,dDUN3 GUNU,fGUNU,dHA,eGUNU,dIGIa,dKASKAL",
   "120AD eSQUARED,dKU3,dLA,dLAL TIMES LAL,dLI,dLU,dU2,dUD,bGA,cGUNU,bGA2",
   "120B8 cTIMES A PLUS DA PLUS HA,fHA,fIGI,dAB2 TENU PLUS TAB,dAN,dASH,dASH2 PLUS GAL,dBAD",
   "120C0 dBAR PLUS RA,dBUR,ePLUS RA,dDA,dDI,dDIM TIMES SHE,dDUB,dEL,ePLUS LA,dEN",
   "120CA eTIMES GAN2 TENU,dGAN2a,dGAR,dGI,dGI4,ePLUS A,dGIR2 PLUS SU,dHA PLUS LU PLUS ESH2,dHAL",
   "120D3 ePLUS LA,dHI PLUS LI,dHUB2,dIGI GUNU,dISH PLUS HU PLUS ASH,dKAK,dKASKAL,dKID,ePLUS LAL",
   "120DC dKU3 PLUS AN,dLA,dME PLUS EN,dMI,dNUN,eOVER NUN,dPA,dSAL,dSAR,dSHE,ePLUS TUR,dSHID,dSUM",
   "120E9 dTAK4,dU,dUD,ePLUS DU,cOVER GA2,bGABA,cCROSSING GABA,bGAD,cOVER GAD GAR OVER GAR,bGAL",
   "120F3 cGAD OVER GAD GAR OVER GAR,bGALAM,bGAM,bGAN,bGAN2,cTENU,cOVER GAN2,cCROSSINGa,bGAR",
   "120FC bGAR3,bGASHAN,bGESHTIN,cTIMES KUR,bGI,cTIMES E,dU,cCROSSING GI,bGI4,cOVER GI4",
   "12106 cCROSSINGa,bGIDIM,bGIR2,cGUNU,bGIR3,cTIMES A PLUS IGI,dGAN2 TENU,dIGI,dLU PLUSa,dPA",
   "12110 bGISAL,bGISH,cCROSSING GISH,cTIMES BAD,dTAK4,cTENU,bGU,cCROSSING GU,bGU2,cTIMES KAK",
   "1211A eTIMES IGI GUNU,dNUN,dSAL PLUS TUG2,cGUNU,bGUD,cTIMES A PLUS KUR,dKUR,cOVER GUD LUGAL",
   "12122 bGUL,bGUM,cTIMES SHE,bGUR,bGUR7,bGURUN,bGURUSH,bHA,cTENU,cGUNU,bHAL,bHI,cTIMES ASH",
   "1212F dASH2,dBAD,dDISH,dGAD,dKIN,dNUN,dSHE,dU,bHU,bHUB2,cTIMES AN,dHAL,dKASKAL,dLISH,dUD",
   "1213E bHUL2,bI,cA,bIB,bIDIM,cOVER IDIM BUR,eSQUARED,bIG,bIGI,cDIB,cRI",
   "12149 cOVER IGI SHIR OVER SHIR UD OVER UD,cGUNU,bIL,cTIMES GAN2 TENU,bIL2,bIM,cTIMES TAK4",
   "12150 cCROSSING IM,cOPPOSINGa,cSQUARED,bIMIN,bIN,bIR,bISH,bKA,cTIMES A,dAD,ePLUS KU3,dASH2",
   "1215C dBAD,dBALAG,dBAR,dBI,dERIN2,dESH2,dGA,dGAL,dGAN2 TENU,dGAR,ePLUS SHA3 PLUS A,dGI,dGIR2",
   "12169 dGISH PLUS SAR,eCROSSING GISH,dGU,dGUR7,dIGI,dIM,dKAK,dKI,dKID,dLI,dLU,dME,ePLUS DU,fGI",
   "12177 fTE,dMI,ePLUS NUNUZ,dNE,dNUN,dPI,dRU,dSA,dSAR,dSHA,dSHE,dSHID,dSHU,dSIG,dSUHUR,dTAR,dU",
   "12188 dU2,dUD,dUMUM TIMES PA,dUSH,dZI,bKA2,cCROSSING KA2,bKAB,bKAD2,bKAD3,bKAD4,bKAD5",
   "12194 cOVER KAD5,bKAK,cTIMES IGI GUNU,bKAL,cTIMES BAD,cCROSSING KAL,bKAM2,bKAM4,bKASKAL",
   "1219D cLAGAB TIMES U OVER LAGAB TIMES U,cOVER KASKALg,bKESH2,bKI,cTIMES BAD,dU,dUD,bKID,bKIN",
   "121A6 bKISAL,bKISH,bKISIM5,cOVER KISIM5,bKU,cOVER HI TIMES ASH2 KU OVER HI TIMES ASH2,bKU3",
   "121AD bKU4,cVARIANT FORM,bKU7,bKUL,cGUNU,bKUN,bKUR,cOPPOSING KUR,bKUSHU2,bKWU318,bLA,bLAGAB",
   "121B9 cTIMES A,ePLUS DA PLUS HA,fGAR,fLAL,dAL,dAN,dASH ZIDA TENU,dBAD,dBI,dDAR,dEN,dGA,dGAR",
   "121C6 dGUD,ePLUS GUD,dHA,dHAL,dHI TIMES NUN,dIGI GUNU,dIM,ePLUS HA,fLU,dKI,dKIN,dKU3,dKUL",
   "121D3 ePLUS HI PLUS A,dLAGAB,dLISH,dLU,dLUL,dME,ePLUS EN,dMUSH,dNE,dSHE PLUS SUM",
   "121DD dSHITA PLUS GISH PLUS ERIN2,gTENU,dSHU2,ePLUS SHU2,dSUM,dTAG,dTAK4",
   "121E4 dTE PLUS A PLUS SU PLUS NA,dU,ePLUS A,fU PLUS U,dU2 PLUS ASH,dUD,dUSH,cSQUARED,bLAGAR",
   "121ED cTIMES SHE,ePLUS SUM,cGUNU,dOVER LAGAR GUNU SHE,bLAHSHU,bLAL,cTIMES LAL,bLAM,cTIMES KUR",
   "121F6 ePLUS RU,bLI,bLIL,bLIMMU2,bLISH,bLU,cTIMES BAD,bLU2,cTIMES AL,dBAD,dESH2,eTENU,dGAN2a",
   "12203 dHI TIMES BAD,dIM,dKAD2,dKAD3,ePLUS ASH,dKI,dLA PLUS ASH,dLAGAB,dME PLUS EN,dNE,dNU",
   "1220E dSI PLUS ASH,dSIK2 PLUS BU,dTUG2,cTENU,cCROSSING LU2,cOPPOSINGa,cSQUARED,cSHESHIG,bLU3",
   "12217 bLUGAL,cOVER LUGAL,cOPPOSINGa,cSHESHIG,bLUH,bLUL,bLUM,cOVER LUM,eGAR OVER GAR,bMA",
   "12221 cTIMES TAK4,cGUNU,bMA2,bMAH,bMAR,bMASH,bMASH2,bME,bMES,bMI,bMIN,bMU,cOVER MU,bMUG,cGUNU",
   "12230 bMUNSUB,bMURGU2,bMUSH,cTIMES A,dKUR,dZA,cOVER MUSH,eTIMES A PLUS NA,cCROSSING MUSH",
   "12239 bMUSH3,cTIMES A,ePLUS DI,dDI,cGUNU,bNA,bNA2,bNAGA,cINVERTED,cTIMES SHU TENU",
   "12243 cOPPOSING NAGA,bNAGAR,bNAM NUTILLU,bNAM,bNAM2,bNE,cTIMES A,dUD,cSHESHIG,bNI,cTIMES E",
   "1224E bNI2,bNIM,cTIMES GAN2 TENU,dGAR PLUSb,bNINDA2,cTIMES AN,dASH,ePLUS ASH,dGUD",
   "12257 dME PLUS GAN2 TENU,dNE,dNUN,dSHE,ePLUS A AN,fASH,gPLUS ASH,dU2b,dUSH,bNISAG,bNU,bNU11",
   "12263 bNUN,cLAGAR TIMES GAR,eMASH,eSAL,fOVER NUN LAGAR TIMES SAL,eUSH,cTENU,cOVER NUN",
   "1226B cCROSSINGa,eLAGAR OVER LAGAR,bNUNUZ,cAB2 TIMES ASHGAB,eBI,eDUG,eGUD,eIGI GUNU,eKAD3,eLA",
   "12275 eNE,eSILA3,eU2,cKISIM5 TIMES BI,fU,bPA,bPAD,bPAN,bPAP,bPESH2,bPI,cTIMES A,dAB,dBI,dBU",
   "12284 dE,dI,dIB,dU,dU2,cCROSSING PI,bPIRIG,cTIMES KAL,dUD,dZA,cOPPOSING PIRIG,bRA,bRAB,bRI",
   "12292 bRU,bSA,bSAG NUTILLU,bSAG,cTIMES A,dDU,dDUB,dHA,dKAK,dKUR,dLUM,dMI,dNUN,dSAL,dSHID,dTAB",
   "122A2 dU2,dUB,dUM,dUR,dUSH,cOVER SAG,cGUNU,bSAL,cLAGAB TIMES ASH2,bSANGA2,bSAR,bSHA,bSHA3",
   "122AF cTIMES A,dBAD,dGISH,dNE,dSHU2,dTUR,dU,ePLUS A,bSHA6,bSHAB6,bSHAR2,bSHE,cHU",
   "122BC cOVER SHE GAD OVER GAD GAR OVER GAR,eTAB OVER TABc,bSHEG9,bSHEN,bSHESH,bSHESH2",
   "122C2 bSHESHLAM,bSHID,cTIMES A,dIM,bSHIM,cTIMES A,dBAL,dBULUG,dDIN,dGAR,dIGI,eGUNU,dKUSHU2",
   "122CF dLUL,dMUG,dSAL,bSHINIG,bSHIR,cTENU,cOVER SHIR BUR OVER BUR,bSHITA,bSHU",
   "122D8 cOVER INVERTED SHU,bSHU2,bSHUBUR,bSI,cGUNU,bSIG,bSIG4,cOVER SIG4 SHU2,bSIK2,bSILA3,bSU",
   "122E3 cOVER SU,bSUD,bSUD2,bSUHUR,bSUM,bSUMASH,bSUR,bSUR9,bTA,cASTERISK,cTIMES HI,dMI,cGUNU",
   "122F0 bTAB,cOVER TAB NI OVER NI DISH OVER DISH,cSQUARED,bTAG,cTIMES BI,dGUD,dSHE,dSHU,dTUG2",
   "122F9 dUD,bTAK4,bTAR,bTE,cGUNU,bTI,cTENU,bTIL,bTIR,cTIMES TAK4,cOVER TIR",
   "12304 eGAD OVER GAD GAR OVER GAR,bTU,bTUG2,bTUK,bTUM,bTUR,cOVER TUR ZA OVER ZA,bU,cGUD,cU U",
   "1230E cOVER U PA OVER PA GAR OVER GAR,eSUR OVER SUR,eU REVERSED OVER U REVERSED,bU2,bUB,bUD",
   "12314 cKUSHU2,cTIMES BAD,dMI,dU PLUS U PLUS U,iGUNU,cGUNU,cSHESHIG,dTIMES BAD,bUDUG,bUM",
   "1231E cTIMES LAGAB,dME PLUS DA,dSHA3,dU,bUMBIN,bUMUM,cTIMES KASKAL,dPA,bUN,cGUNU,bUR",
   "12329 cCROSSING UR,cSHESHIG,bUR2,cTIMES A PLUS HA,fNA,dAL,dHA,dNUN,dU2,ePLUS ASH,fBI,bUR4",
   "12335 bURI,bURI3,bURU,cTIMES A,dASHGAB,dBAR,dDUN,dGA,dGAL,dGAN2 TENU,dGAR,dGU,dHA,dIGI,dIM",
   "12344 dISH,dKI,dLUM,dMIN,dPA,dSHE,dSIG4,dTU,dU PLUS GUD,dUD,dURUDA,bURUDA,cTIMES U,bUSH",
   "12352 cTIMES A,dKU,dKUR,dTAK4,bUSHX,bUSH2,bUSHUMX,bUTUKI,bUZ3,cTIMES KASKAL,bUZU,bZA,cTENU",
   "1235F cSQUARED TIMES KUR,bZAG,bZAMX,bZE2,bZI,cOVER ZI,bZI3,bZIB,cKABA TENU,bZIG,bZIZ2,bZU",
   "1236B bZU5,cTIMES A,bZUBUR,bZUM,bKAP ELAMITE,bAB TIMES NUN,bAB2 TIMES A,bAMAR TIMES KUG",
   "12373 bDAG KISIM5 TIMES U2 PLUS MASH,bDAG3,bDISH PLUS SHU,bDUB TIMES SHE,bEZEN TIMES GUD,dSHE",
   "12379 bGA2 TIMES AN PLUS KAK PLUS A,dASH2,bGE22,bGIG,bHUSH,bKA TIMES ANSHE,dASH3,dGISH,dGUD",
   "12382 dHI TIMES ASH2,dLUM,dPA,dSHUL,dTU,dUR2,bLAGAB TIMES GI,bLU2 SHESHIG TIMES BAD",
   "1238A cTIMES ESH2 PLUS LAL,dSHU,bMESH,bMUSH3 TIMES ZA,bNA4,bNIN,bNIN9,bNINDA2 TIMES BAL,dGI",
   "12393 bNU11 ROTATED NINETY DEGREES,bPESH2 ASTERISK,bPIR2,bSAG TIMES IGI GUNU,bTI2",
   "12398 bUM TIMES ME,bU U",
   "12400 aNUMERIC SIGN TWO ASH,cTHREEa,cFOURa,cFIVEa,cSIXa,cSEVENa,cEIGHTa,cNINEa,cTHREE DISH",
   "12409 cFOURa,cFIVEa,cSIXa,cSEVENa,cEIGHTa,cNINEa,cFOUR U,cFIVEa,cSIXa,cSEVENa,cEIGHTa,cNINEa",
   "12415 cONE GESH2,cTWOa,cTHREEa,cFOURa,cFIVEa,cSIXa,cSEVENa,cEIGHTa,cNINEa,cONE GESHU,cTWOa",
   "12420 cTHREEa,cFOURa,cFIVEa,cTWO SHAR2,cTHREEa,eVARIANT FORM,cFOUR SHAR2,cFIVEa,cSIXa,cSEVENa",
   "1242A cEIGHTa,cNINEa,cONE SHARU,cTWOa,cTHREEa,eVARIANT FORM,cFOUR SHARU,cFIVEa",
   "12432 cSHAR2 TIMES GAL PLUS DISH,gMIN,cONE BURU,cTWOa,cTHREEa,eVARIANT FORM,cFOUR BURU,cFIVEa",
   "1243A cTHREE VARIANT FORM ESH16,fESH21,cFOUR VARIANT FORM LIMMU,fLIMMU4,fLIMMU A,gB",
   "12440 cSIX VARIANT FORM ASH9,cSEVEN VARIANT FORM IMIN3,fIMIN A,gB,cEIGHT VARIANT FORM USSU",
   "12445 fUSSU3,cNINE VARIANT FORM ILIMMU,fILIMMU3,fILIMMU4,fILIMMU A,cTWO ASH TENU,cTHREEb",
   "1244C cFOURb,cFIVEb,cSIXb,cONE BAN2,cTWOa,cTHREEa,cFOURa,eVARIANT FORM,cFIVE BAN2",
   "12455 eVARIANT FORM,cNIGIDAMIN,cNIGIDAESH,cONE ESHE3,cTWOa,cONE THIRD DISH,cTWO THIRDSa",
   "1245C cFIVE SIXTHSa,cONE THIRD VARIANT FORM A,cTWO THIRDSc,cONE EIGHTH ASH,dQUARTERa",
   "12461 cOLD ASSYRIAN ONE SIXTH,fQUARTER,cONE QUARTER GUR,dHALFa,cELAMITE ONE THIRD,dTWO THIRDS",
   "12467 dFORTY,dFIFTY,cFOUR U VARIANT FORM,cFIVEc,cSIXc,cSEVENc,cEIGHTc,cNINEc",
   "12470 aPUNCTUATION SIGN OLD ASSYRIAN WORD DIVIDER,cVERTICAL COLON,cDIAGONALa,dTRICOLON",
   "12474 dQUADCOLON",
   "12480 aSIGN AB TIMES NUN TENU,dSHU2,bAD TIMES ESH2,bBAD TIMES DISH TENU,bBAHAR2 TIMES AB2,dNI",
   "12486 dZA,bBU OVER BU TIMES NA2,bDA TIMES TAK4,bDAG TIMES KUR,bDIM TIMES IGI,dU U U",
   "1248C bDIM2 TIMES UD,bDUG TIMES ANSHE,dASH,eAT LEFT,dDIN,dDUN,dERIN2,dGA,dGI,dGIR2 GUNU,dGISH",
   "12497 dHA,dHI,dIGI GUNU,dKASKAL,dKUR,dKUSHU2,ePLUS KASKAL,dLAK-020,dLAM,eTIMES KUR",
   "124A1 dLUH PLUS GISH,dMASH,dMES,dMI,dNI,dPI,dSHE,dSI GUNU,bE2 TIMES KUR,dPAP,bERIN2 X",
   "124AC bESH2 CROSSING ESH2,bEZEN SHESHIG TIMES ASH,eHI,eIGI GUNU,eLA,eLAL,eME,eMES,eSU,cTIMESa",
   "124B6 bGA2 TIMES BAHAR2,dDIM GUNU,dDUG TIMES IGIa,fKASKAL,dEREN,dGA,dGAR PLUS DI,fNE",
   "124BE dHA PLUS A,dKUSHU2 PLUS KASKAL,dLAM,eTIMES KUR,dLUH,dMUSH,dNE,ePLUS E2,fGI,dSHIM,dZIZ2",
   "124C9 bGABA ROTATED NINETY DEGREES,bGESHTIN TIMES U,bGISH TIMES GISH CROSSING GISH",
   "124CC bGU2 TIMES IGI GUNU,bGUD PLUS GISH TIMES TAK4,bHA TENU GUNU",
   "124CF bHI TIMES ASH OVER HI TIMES ASH,bKA TIMES BU,dKA,dU U U,dUR,bLAGAB TIMES ZU OVER ZU",
   "124D5 bLAK-003,bLAK-021,bLAK-025,bLAK-030,bLAK-050,bLAK-051,bLAK-062",
   "124DC bLAK-079 OVER LAK-079 GUNU,bLAK-080,bLAK-081 OVER LAK-081,bLAK-092,bLAK-130,bLAK-142",
   "124E2 bLAK-210,bLAK-219,bLAK-220,bLAK-225,bLAK-228,bLAK-238,bLAK-265,bLAK-266,bLAK-343",
   "124EB bLAK-347,bLAK-348,bLAK-383,bLAK-384,bLAK-390,bLAK-441,bLAK-449,cTIMES GU,dIGI",
   "124F4 dPAP PLUS LU3,fPAP PLUSa,dU2 PLUS BA,bLAK-450,bLAK-457,bLAK-470,bLAK-483,bLAK-490",
   "124FC bLAK-492,bLAK-493,bLAK-495,bLAK-550,bLAK-608,bLAK-617,cTIMES ASH,dBAD,dDUN3 GUNU GUNU",
   "12505 dKU3,dLA,dTAR,dTE,dU2,dUD,dURUDA,bLAK-636,bLAK-648,cTIMES DUB,dGA,dIGI,eGUNU,dNI",
   "12513 dPAP PLUS PAP PLUS LU3,dSHESH PLUS KI,dUD,dURUDA,bLAK-724,bLAK-749,bLU2 GUNU TIMES ASH",
   "1251A cTIMES DISH,dHAL,dPAP,ePLUS PAP PLUS LU3,dTAK4,bMI PLUS ZA7,bMUSH OVER MUSH TIMES GA",
   "12521 fKAK,bNINDA2 TIMES DIM GUNU,dGISH,dGUL,dHI,dKESH2,dLAK-050,dMASH,dPAP PLUS PAP,dU",
   "1252B ePLUS U,dURUDA,bSAG GUNU TIMES HA,cTIMES EN,dSHE AT LEFT,dTAK4,bSHA6 TENU,bSHE OVER SHE",
   "12533 cPLUS HUB2,dNAM2,dSAR,bSHU2 PLUS DUG TIMES NI,dE2 TIMES AN,bSI TIMES TAK4",
   "12539 bTAK4 PLUS SAG,bTUM TIMES GAN2 TENU,dTHREE DISH,bUR2 INVERTED,cTIMES UD",
   "1253E bURU TIMES DARA3,dLAK-668,dLU3,bZA7,bZU OVER ZU PLUS SAR,bZU5 TIMES THREE DISH TENU",
   "12F90 CYPRO-MINOAN SIGN CM001,bCM002,bCM004,bCM005,bCM006,bCM007,bCM008,bCM009,bCM010,bCM011",
   "12F9A bCM012,bCM012B,bCM013,bCM015,bCM017,bCM019,bCM021,bCM023,bCM024,bCM025,bCM026,bCM027",
   "12FA6 bCM028,bCM029,bCM030,bCM033,bCM034,bCM035,bCM036,bCM037,bCM038,bCM039,bCM040,bCM041",
   "12FB2 bCM044,bCM046,bCM047,bCM049,bCM050,bCM051,bCM052,bCM053,bCM054,bCM055,bCM056,bCM058",
   "12FBE bCM059,bCM060,bCM061,bCM062,bCM063,bCM064,bCM066,bCM067,bCM068,bCM069,bCM070,bCM071",
   "12FCA bCM072,bCM073,bCM074,bCM075,bCM075B,bCM076,bCM078,bCM079,bCM080,bCM081,bCM082,bCM083",
   "12FD6 bCM084,bCM085,bCM086,bCM087,bCM088,bCM089,bCM090,bCM091,bCM092,bCM094,bCM095,bCM096",
   "12FE2 bCM097,bCM098,bCM099,bCM100,bCM101,bCM102,bCM103,bCM104,bCM105,bCM107,bCM108,bCM109",
   "12FEE bCM110,bCM112,bCM114,bCM301,bCM302",
   "13000 EGYPTIAN HIEROGLYPH A001,bA002,bA003,bA004,bA005,bA005A,bA006,bA006A,bA006B,bA007,bA008",
   "1300B bA009,bA010,bA011,bA012,bA013,bA014,bA014A,bA015,bA016,bA017,bA017A,bA018,bA019,bA020",
   "13019 bA021,bA022,bA023,bA024,bA025,bA026,bA027,bA028,bA029,bA030,bA031,bA032,bA032A,bA033",
   "13027 bA034,bA035,bA036,bA037,bA038,bA039,bA040,bA040A,bA041,bA042,bA042A,bA043,bA043A,bA044",
   "13035 bA045,bA045A,bA046,bA047,bA048,bA049,bA050,bA051,bA052,bA053,bA054,bA055,bA056,bA057",
   "13043 bA058,bA059,bA060,bA061,bA062,bA063,bA064,bA065,bA066,bA067,bA068,bA069,bA070,bB001",
   "13051 bB002,bB003,bB004,bB005,bB005A,bB006,bB007,bB008,bB009,bC001,bC002,bC002A,bC002B,bC002C",
   "1305F bC003,bC004,bC005,bC006,bC007,bC008,bC009,bC010,bC010A,bC011,bC012,bC013,bC014,bC015",
   "1306D bC016,bC017,bC018,bC019,bC020,bC021,bC022,bC023,bC024,bD001,bD002,bD003,bD004,bD005",
   "1307B bD006,bD007,bD008,bD008A,bD009,bD010,bD011,bD012,bD013,bD014,bD015,bD016,bD017,bD018",
   "13089 bD019,bD020,bD021,bD022,bD023,bD024,bD025,bD026,bD027,bD027A,bD028,bD029,bD030,bD031",
   "13097 bD031A,bD032,bD033,bD034,bD034A,bD035,bD036,bD037,bD038,bD039,bD040,bD041,bD042,bD043",
   "130A5 bD044,bD045,bD046,bD046A,bD047,bD048,bD048A,bD049,bD050,bD050A,bD050B,bD050C,bD050D",
   "130B2 bD050E,bD050F,bD050G,bD050H,bD050I,bD051,bD052,bD052A,bD053,bD054,bD054A,bD055,bD056",
   "130BF bD057,bD058,bD059,bD060,bD061,bD062,bD063,bD064,bD065,bD066,bD067,bD067A,bD067B,bD067C",
   "130CD bD067D,bD067E,bD067F,bD067G,bD067H,bE001,bE002,bE003,bE004,bE005,bE006,bE007,bE008",
   "130DA bE008A,bE009,bE009A,bE010,bE011,bE012,bE013,bE014,bE015,bE016,bE016A,bE017,bE017A,bE018",
   "130E8 bE019,bE020,bE020A,bE021,bE022,bE023,bE024,bE025,bE026,bE027,bE028,bE028A,bE029,bE030",
   "130F6 bE031,bE032,bE033,bE034,bE034A,bE036,bE037,bE038,bF001,bF001A,bF002,bF003,bF004,bF005",
   "13104 bF006,bF007,bF008,bF009,bF010,bF011,bF012,bF013,bF013A,bF014,bF015,bF016,bF017,bF018",
   "13112 bF019,bF020,bF021,bF021A,bF022,bF023,bF024,bF025,bF026,bF027,bF028,bF029,bF030,bF031",
   "13120 bF031A,bF032,bF033,bF034,bF035,bF036,bF037,bF037A,bF038,bF038A,bF039,bF040,bF041,bF042",
   "1312E bF043,bF044,bF045,bF045A,bF046,bF046A,bF047,bF047A,bF048,bF049,bF050,bF051,bF051A",
   "1313B bF051B,bF051C,bF052,bF053,bG001,bG002,bG003,bG004,bG005,bG006,bG006A,bG007,bG007A",
   "13148 bG007B,bG008,bG009,bG010,bG011,bG011A,bG012,bG013,bG014,bG015,bG016,bG017,bG018,bG019",
   "13156 bG020,bG020A,bG021,bG022,bG023,bG024,bG025,bG026,bG026A,bG027,bG028,bG029,bG030,bG031",
   "13164 bG032,bG033,bG034,bG035,bG036,bG036A,bG037,bG037A,bG038,bG039,bG040,bG041,bG042,bG043",
   "13172 bG043A,bG044,bG045,bG045A,bG046,bG047,bG048,bG049,bG050,bG051,bG052,bG053,bG054,bH001",
   "13180 bH002,bH003,bH004,bH005,bH006,bH006A,bH007,bH008,bI001,bI002,bI003,bI004,bI005,bI005A",
   "1318E bI006,bI007,bI008,bI009,bI009A,bI010,bI010A,bI011,bI011A,bI012,bI013,bI014,bI015,bK001",
   "1319C bK002,bK003,bK004,bK005,bK006,bK007,bK008,bL001,bL002,bL002A,bL003,bL004,bL005,bL006",
   "131AA bL006A,bL007,bL008,bM001,bM001A,bM001B,bM002,bM003,bM003A,bM004,bM005,bM006,bM007,bM008",
   "131B8 bM009,bM010,bM010A,bM011,bM012,bM012A,bM012B,bM012C,bM012D,bM012E,bM012F,bM012G,bM012H",
   "131C5 bM013,bM014,bM015,bM015A,bM016,bM016A,bM017,bM017A,bM018,bM019,bM020,bM021,bM022,bM022A",
   "131D3 bM023,bM024,bM024A,bM025,bM026,bM027,bM028,bM028A,bM029,bM030,bM031,bM031A,bM032,bM033",
   "131E1 bM033A,bM033B,bM034,bM035,bM036,bM037,bM038,bM039,bM040,bM040A,bM041,bM042,bM043,bM044",
   "131EF bN001,bN002,bN003,bN004,bN005,bN006,bN007,bN008,bN009,bN010,bN011,bN012,bN013,bN014",
   "131FD bN015,bN016,bN017,bN018,bN018A,bN018B,bN019,bN020,bN021,bN022,bN023,bN024,bN025,bN025A",
   "1320B bN026,bN027,bN028,bN029,bN030,bN031,bN032,bN033,bN033A,bN034,bN034A,bN035,bN035A,bN036",
   "13219 bN037,bN037A,bN038,bN039,bN040,bN041,bN042,bNL001,bNL002,bNL003,bNL004,bNL005,bNL005A",
   "13226 bNL006,bNL007,bNL008,bNL009,bNL010,bNL011,bNL012,bNL013,bNL014,bNL015,bNL016,bNL017",
   "13232 bNL017A,bNL018,bNL019,bNL020,bNU001,bNU002,bNU003,bNU004,bNU005,bNU006,bNU007,bNU008",
   "1323E bNU009,bNU010,bNU010A,bNU011,bNU011A,bNU012,bNU013,bNU014,bNU015,bNU016,bNU017,bNU018",
   "1324A bNU018A,bNU019,bNU020,bNU021,bNU022,bNU022A,bO001,bO001A,bO002,bO003,bO004,bO005,bO005A",
   "13257 bO006,bO006A,bO006B,bO006C,bO006D,bO006E,bO006F,bO007,bO008,bO009,bO010,bO010A,bO010B",
   "13264 bO010C,bO011,bO012,bO013,bO014,bO015,bO016,bO017,bO018,bO019,bO019A,bO020,bO020A,bO021",
   "13272 bO022,bO023,bO024,bO024A,bO025,bO025A,bO026,bO027,bO028,bO029,bO029A,bO030,bO030A,bO031",
   "13280 bO032,bO033,bO033A,bO034,bO035,bO036,bO036A,bO036B,bO036C,bO036D,bO037,bO038,bO039",
   "1328D bO040,bO041,bO042,bO043,bO044,bO045,bO046,bO047,bO048,bO049,bO050,bO050A,bO050B,bO051",
   "1329B bP001,bP001A,bP002,bP003,bP003A,bP004,bP005,bP006,bP007,bP008,bP009,bP010,bP011,bQ001",
   "132A9 bQ002,bQ003,bQ004,bQ005,bQ006,bQ007,bR001,bR002,bR002A,bR003,bR003A,bR003B,bR004,bR005",
   "132B7 bR006,bR007,bR008,bR009,bR010,bR010A,bR011,bR012,bR013,bR014,bR015,bR016,bR016A,bR017",
   "132C5 bR018,bR019,bR020,bR021,bR022,bR023,bR024,bR025,bR026,bR027,bR028,bR029,bS001,bS002",
   "132D3 bS002A,bS003,bS004,bS005,bS006,bS006A,bS007,bS008,bS009,bS010,bS011,bS012,bS013,bS014",
   "132E1 bS014A,bS014B,bS015,bS016,bS017,bS017A,bS018,bS019,bS020,bS021,bS022,bS023,bS024,bS025",
   "132EF bS026,bS026A,bS026B,bS027,bS028,bS029,bS030,bS031,bS032,bS033,bS034,bS035,bS035A,bS036",
   "132FD bS037,bS038,bS039,bS040,bS041,bS042,bS043,bS044,bS045,bS046,bT001,bT002,bT003,bT003A",
   "1330B bT004,bT005,bT006,bT007,bT007A,bT008,bT008A,bT009,bT009A,bT010,bT011,bT011A,bT012,bT013",
   "13319 bT014,bT015,bT016,bT016A,bT017,bT018,bT019,bT020,bT021,bT022,bT023,bT024,bT025,bT026",
   "13327 bT027,bT028,bT029,bT030,bT031,bT032,bT032A,bT033,bT033A,bT034,bT035,bT036,bU001,bU002",
   "13335 bU003,bU004,bU005,bU006,bU006A,bU006B,bU007,bU008,bU009,bU010,bU011,bU012,bU013,bU014",
   "13343 bU015,bU016,bU017,bU018,bU019,bU020,bU021,bU022,bU023,bU023A,bU024,bU025,bU026,bU027",
   "13351 bU028,bU029,bU029A,bU030,bU031,bU032,bU032A,bU033,bU034,bU035,bU036,bU037,bU038,bU039",
   "1335F bU040,bU041,bU042,bV001,bV001A,bV001B,bV001C,bV001D,bV001E,bV001F,bV001G,bV001H,bV001I",
   "1336C bV002,bV002A,bV003,bV004,bV005,bV006,bV007,bV007A,bV007B,bV008,bV009,bV010,bV011,bV011A",
   "1337A bV011B,bV011C,bV012,bV012A,bV012B,bV013,bV014,bV015,bV016,bV017,bV018,bV019,bV020",
   "13387 bV020A,bV020B,bV020C,bV020D,bV020E,bV020F,bV020G,bV020H,bV020I,bV020J,bV020K,bV020L",
   "13393 bV021,bV022,bV023,bV023A,bV024,bV025,bV026,bV027,bV028,bV028A,bV029,bV029A,bV030,bV030A",
   "133A1 bV031,bV031A,bV032,bV033,bV033A,bV034,bV035,bV036,bV037,bV037A,bV038,bV039,bV040,bV040A",
   "133AF bW001,bW002,bW003,bW003A,bW004,bW005,bW006,bW007,bW008,bW009,bW009A,bW010,bW010A,bW011",
   "133BD bW012,bW013,bW014,bW014A,bW015,bW016,bW017,bW017A,bW018,bW018A,bW019,bW020,bW021,bW022",
   "133CB bW023,bW024,bW024A,bW025,bX001,bX002,bX003,bX004,bX004A,bX004B,bX005,bX006,bX006A,bX007",
   "133D9 bX008,bX008A,bY001,bY001A,bY002,bY003,bY004,bY005,bY006,bY007,bY008,bZ001,bZ002,bZ002A",
   "133E7 bZ002B,bZ002C,bZ002D,bZ003,bZ003A,bZ003B,bZ004,bZ004A,bZ005,bZ005A,bZ006,bZ007,bZ008",
   "133F4 bZ009,bZ010,bZ011,bZ012,bZ013,bZ014,bZ015,bZ015A,bZ015B,bZ015C,bZ015D,bZ015E,bZ015F",
   "13401 bZ015G,bZ015H,bZ015I,bZ016,bZ016A,bZ016B,bZ016C,bZ016D,bZ016E,bZ016F,bZ016G,bZ016H",
   "1340D bAA001,bAA002,bAA003,bAA004,bAA005,bAA006,bAA007,bAA007A,bAA007B,bAA008,bAA009,bAA010",
   "13419 bAA011,bAA012,bAA013,bAA014,bAA015,bAA016,bAA017,bAA018,bAA019,bAA020,bAA021,bAA022",
   "13425 bAA023,bAA024,bAA025,bAA026,bAA027,bAA028,bAA029,bAA030,bAA031,bAA032,,bVERTICAL JOINER",
   "13431 bHORIZONTALa,bINSERT AT TOP START,dBOTTOMa,dTOP END,dBOTTOMa,bOVERLAY MIDDLE",
   "13437 bBEGIN SEGMENT,bENDa",
   "14400 ANATOLIAN HIEROGLYPH A001,bA002,bA003,bA004,bA005,bA006,bA007,bA008,bA009,bA010,bA010A",
   "1440B bA011,bA012,bA013,bA014,bA015,bA016,bA017,bA018,bA019,bA020,bA021,bA022,bA023,bA024",
   "14419 bA025,bA026,bA026A,bA027,bA028,bA029,bA030,bA031,bA032,bA033,bA034,bA035,bA036,bA037",
   "14427 bA038,bA039,bA039A,bA040,bA041,bA041A,bA042,bA043,bA044,bA045,bA045A,bA046,bA046A",
   "14434 bA046B,bA047,bA048,bA049,bA050,bA051,bA052,bA053,bA054,bA055,bA056,bA057,bA058,bA059",
   "14442 bA060,bA061,bA062,bA063,bA064,bA065,bA066,bA066A,bA066B,bA066C,bA067,bA068,bA069,bA070",
   "14450 bA071,bA072,bA073,bA074,bA075,bA076,bA077,bA078,bA079,bA080,bA081,bA082,bA083,bA084",
   "1445E bA085,bA086,bA087,bA088,bA089,bA090,bA091,bA092,bA093,bA094,bA095,bA096,bA097,bA097A",
   "1446C bA098,bA098A,bA099,bA100,bA100A,bA101,bA101A,bA102,bA102A,bA103,bA104,bA104A,bA104B",
   "14479 bA104C,bA105,bA105A,bA105B,bA106,bA107,bA107A,bA107B,bA107C,bA108,bA109,bA110,bA110A",
   "14486 bA110B,bA111,bA112,bA113,bA114,bA115,bA115A,bA116,bA117,bA118,bA119,bA120,bA121,bA122",
   "14494 bA123,bA124,bA125,bA125A,bA126,bA127,bA128,bA129,bA130,bA131,bA132,bA133,bA134,bA135",
   "144A2 bA135A,bA136,bA137,bA138,bA139,bA140,bA141,bA142,bA143,bA144,bA145,bA146,bA147,bA148",
   "144B0 bA149,bA150,bA151,bA152,bA153,bA154,bA155,bA156,bA157,bA158,bA159,bA160,bA161,bA162",
   "144BE bA163,bA164,bA165,bA166,bA167,bA168,bA169,bA170,bA171,bA172,bA173,bA174,bA175,bA176",
   "144CC bA177,bA178,bA179,bA180,bA181,bA182,bA183,bA184,bA185,bA186,bA187,bA188,bA189,bA190",
   "144DA bA191,bA192,bA193,bA194,bA195,bA196,bA197,bA198,bA199,bA200,bA201,bA202,bA202A,bA202B",
   "144E8 bA203,bA204,bA205,bA206,bA207,bA207A,bA208,bA209,bA209A,bA210,bA211,bA212,bA213,bA214",
   "144F6 bA215,bA215A,bA216,bA216A,bA217,bA218,bA219,bA220,bA221,bA222,bA223,bA224,bA225,bA226",
   "14504 bA227,bA227A,bA228,bA229,bA230,bA231,bA232,bA233,bA234,bA235,bA236,bA237,bA238,bA239",
   "14512 bA240,bA241,bA242,bA243,bA244,bA245,bA246,bA247,bA248,bA249,bA250,bA251,bA252,bA253",
   "14520 bA254,bA255,bA256,bA257,bA258,bA259,bA260,bA261,bA262,bA263,bA264,bA265,bA266,bA267",
   "1452E bA267A,bA268,bA269,bA270,bA271,bA272,bA273,bA274,bA275,bA276,bA277,bA278,bA279,bA280",
   "1453C bA281,bA282,bA283,bA284,bA285,bA286,bA287,bA288,bA289,bA289A,bA290,bA291,bA292,bA293",
   "1454A bA294,bA294A,bA295,bA296,bA297,bA298,bA299,bA299A,bA300,bA301,bA302,bA303,bA304,bA305",
   "14558 bA306,bA307,bA308,bA309,bA309A,bA310,bA311,bA312,bA313,bA314,bA315,bA316,bA317,bA318",
   "14566 bA319,bA320,bA321,bA322,bA323,bA324,bA325,bA326,bA327,bA328,bA329,bA329A,bA330,bA331",
   "14574 bA332A,bA332B,bA332C,bA333,bA334,bA335,bA336,bA336A,bA336B,bA336C,bA337,bA338,bA339",
   "14581 bA340,bA341,bA342,bA343,bA344,bA345,bA346,bA347,bA348,bA349,bA350,bA351,bA352,bA353",
   "1458F bA354,bA355,bA356,bA357,bA358,bA359,bA359A,bA360,bA361,bA362,bA363,bA364,bA364A,bA365",
   "1459D bA366,bA367,bA368,bA368A,bA369,bA370,bA371,bA371A,bA372,bA373,bA374,bA375,bA376,bA377",
   "145AB bA378,bA379,bA380,bA381,bA381A,bA382,bA383 RA OR RI,bA383A,bA384,bA385,bA386,bA386A",
   "145B7 bA387,bA388,bA389,bA390,bA391,bA392,bA393 EIGHT,bA394,bA395,bA396,bA397,bA398,bA399",
   "145C4 bA400,bA401,bA402,bA403,bA404,bA405,bA406,bA407,bA408,bA409,bA410 BEGIN LOGOGRAM MARK",
   "145CF bA410A ENDb,bA411,bA412,bA413,bA414,bA415,bA416,bA417,bA418,bA419,bA420,bA421,bA422",
   "145DC bA423,bA424,bA425,bA426,bA427,bA428,bA429,bA430,bA431,bA432,bA433,bA434,bA435,bA436",
   "145EA bA437,bA438,bA439,bA440,bA441,bA442,bA443,bA444,bA445,bA446,bA447,bA448,bA449,bA450",
   "145F8 bA450A,bA451,bA452,bA453,bA454,bA455,bA456,bA457,bA457A,bA458,bA459,bA460,bA461,bA462",
   "14606 bA463,bA464,bA465,bA466,bA467,bA468,bA469,bA470,bA471,bA472,bA473,bA474,bA475,bA476",
   "14614 bA477,bA478,bA479,bA480,bA481,bA482,bA483,bA484,bA485,bA486,bA487,bA488,bA489,bA490",
   "14622 bA491,bA492,bA493,bA494,bA495,bA496,bA497,bA501,bA502,bA503,bA504,bA505,bA506,bA507",
   "14630 bA508,bA509,bA510,bA511,bA512,bA513,bA514,bA515,bA516,bA517,bA518,bA519,bA520,bA521",
   "1463E bA522,bA523,bA524,bA525,bA526,bA527,bA528,bA529,bA530",
   "16800 BAMUM LETTER PHASE-A NGKUE MFON,cGBIEE FON,cPON MFON PIPAEMGBIEE,ePIPAEMBA,cNAA MFON",
   "16805 cSHUENSHUET,cTITA MFON,cNZAa,cSHINDA PA NJI,cPON PA NJI PIPAEMGBIEE,fPIPAEMBA",
   "1680B cMAEMBGBIEE,cTU MAEMBA,cNGANGU,cMAEMVEUX,cMANSUAE,cMVEUAENGAM,cSEUNYAM,cNTOQPEN",
   "16813 cKEUKEUTNDA,cNKINDI,cSUU,cNGKUENZEUM,cLAPAQ,cLET KUT,cNTAP MFAA,cMAEKEUP,cPASHAE",
   "1681C cGHEUAERAE,cPAMSHAE,cMON NGGEUAET,cNZUN MEUT,cU YUQ NAE,cGHEUAEGHEUAE,cNTAP NTAA,cSISA",
   "16824 cMGBASA,cMEUNJOMNDEUQ,cMOOMPUQ,cKAFA,cPA LEERAEWA,cNDAa,cPET,cMAEMKPEN,cNIKA,cPUP",
   "1682E cTUAEP,cLUAEP,cSONJAM,cTEUTEUWEN,cMAENYI,cKET,cNDAANGGEUAET,cKUOQ,cMOOMEUT,cSHUM",
   "16838 cLOMMAE,cFIRI,cROM,cKPOQ,cSOQ,cMAP PIEET,cSHIRAE,cNTAP,cSHOQ NSHUT YUM,cNYIT MONGKEUAEQ",
   "16842 cPAARAE,cNKAARAE,cUNKNOWN,cNGGEN,cMAESI,cNJAM,cMBANYI,cNYET,cTEUAEN,cSOT,cPAAM,cNSHIEE",
   "1684E cMAEM,cNYI,cKAQ,cNSHA,cVEE,cLU,cNEN,cNAQ,cMBAQ,bPHASE-B NSHUET,cTU MAEMGBIEE,cSIEE",
   "1685A cSET TU,cLOM NTEUM,cMBA MAELEE,cKIEEM,cYEURAE,cMBAARAE,cKAM,cPEESHI,cYAFU LEERAEWA",
   "16863 cLAM NSHUT NYAM,cNTIEE SHEUOQ,cNDU NJAA,cGHEUGHEUAEM,cPIT,cTU NSIEE,cSHET NJAQ",
   "1686A cSHEUAEQTU,cMFON TEUAEQ,cMBIT MBAAKET,cNYI NTEUM,cKEUPUQ,cGHEUGHEN,cKEUYEUX,cLAANAE",
   "16872 cPARUM,cVEUM,cNGKINDI MVOP,cNGGEU MBU,cWUAET,cSAKEUAE,cTAAM,cMEUQ,cNGGUOQ,dLARGE",
   "1687C cMFIYAQ,cSUE,cMBEURI,cMONTIEEN,cNYAEMAE,cPUNGAAM,cMEUT NGGEET,cFEUX,cMBUOQ,cFEE,cKEUAEM",
   "16887 cMA NJEUAENA,dNJUQA,cLET,cNGGAAM,cNSEN,cMA,cKIQ,cNGOM,bPHASE-C NGKUE MAEMBA,cNZA,cYUM",
   "16892 cWANGKUOQ,cNGGEN,cNDEUAEREE,cNGKAQ,cGHARAE,cMBEEKEET,cGBAYI,cNYIR MKPARAQ MEUN",
   "1689A cNTU MBIT,cMBEUM,cPIRIEEN,cNDOMBU,cMBAA CABBAGE-TREE,cKEUSHEUAEP,cGHAP,cKEUKAQ",
   "168A2 cYU MUOMAE,cNZEUM,cMBUE,cNSEUAEN,cMBIT,cYEUQ,cKPARAQ,cKAA,cSEUX,cNDIDA,cTAASHAE,cNJUEQ",
   "168AE cTITA YUE,cSUAET,cNGGUAEN NYAM,cVEUX,cNANSANAQ,cMA KEUAERI,cNTAA,cNGGUON,cLAP,cMBIRIEEN",
   "168B8 cMGBASAQ,cNTEUNGBA,cTEUTEUX,cNGGUM,cFUE,cNDEUT,cNSA,cNSHAQ,cBUNG,cVEUAEPEN,cMBERAE,cRU",
   "168C4 cNJAEM,cLAM,cTITUAEP,cNSUOT NGOM,cNJEEEE,cKET,cNGGU,cMAESI,cMBUAEM,cLU,cKUT,cNJAM,cNGOM",
   "168D1 cWUP,cNGGUEET,cNSOM,cNTEN,cKUOP NKAARAE,cNSUN,cNDAM,cMA NSIEE,cYAA,cNDAP,cSHUEQ,cSETFON",
   "168DD cMBI,cMAEMBA,cMBANYI,cKEUSEUX,cMBEUX,cKEUM,cMBAA PICKET,cYUWOQ,cNJEUX,cMIEE,cMUAE,cSHIQ",
   "168E9 cKEN LAW,dFATIGUE,cNGAQ,cNAQ,cLIQ,cPIN,cPEN,cTET,bPHASE-D MBUO,cWAP,cNJI,cMFON,cNJIEE",
   "168F6 cLIEE,cNJEUT,cNSHEE,cNGGAAMAE,cNYAM,cWUAEN,cNGKUN,cSHEE,cNGKAP,cKEUAETMEUN,cTEUT",
   "16901 cSHEUAE,cNJAP,cSUE,cKET,cYAEMMAE,cKUOM,cSAP,cMFEUT,cNDEUX,cMALEERI,cMEUT,cSEUAEQ,cYEN",
   "1690E cNJEUAEM,cKEUOT MBUAE,cNGKEURI,cTU,cGHAA,cNGKYEE,cFEUFEUAET,cNDEE,cMGBOFUM,cLEUAEP",
   "16918 cNDON,cMONI,cMGBEUN,cPUUT,cMGBIEE,cMFO,cLUM,cNSIEEP,cMBAA,cKWAET,cNYET,cTEUAEN,cSOT",
   "16925 cYUWOQ,cKEUM,cRAEM,cTEEEE,cNGKEUAEQ,cMFEUAE,cNSIEET,cKEUP,cPIP,cPEUTAE,cNYUE,cLET",
   "16931 cNGGAAM,cMFIEE,cNGGWAEN,cYUOM,cPAP,cYUOP,cNDAM,cNTEUM,cSUAE,cKUN,cNGGEUX,cNGKIEE,cTUOT",
   "1693E cMEUN,cKUQ,cNSUM,cTEUN,cMAENJET,cNGGAP,cLEUM,cNGGUOM,cNSHUT,cNJUEQ,cGHEUAE,cKU,cREN OLD",
   "1694B cTAE,cTOQ,cNYI,cRII,cLEEEE,cMEEEE,cM,cSUU,cMU,cSHII,cSHEUX,cKYEE,cNU,cSHU,cNTEE,cPEE",
   "1695B cNI,cSHOQ,cPUQ,cMVOP,cLOQ,cREN MUCH,cTI,cNTUU,cMBAA SEVEN,cSAQ,cFAA,bPHASE-E NDAP,cTOON",
   "16968 cMBEUM,cLAP,cVOM,cLOON,cPAA,cSOM,cRAQ,cNSHUOP,cNDUN,cPUAE,cTAM,cNGKA,cKPEUX,cWUO,cSEE",
   "16977 cNGGEUAET,cPAAM,cTOO,cKUOP,cLOM,cNSHIEE,cNGOP,cMAEM,cNGKEUX,cNGOQ,cNSHUE,cRIMGBA,cNJEUX",
   "16984 cPEEM,cSAA,cNGGURAE,cMGBA,cGHEUX,cNGKEUAEM,cNJAEMLI,cMAP,cLOOT,cNGGEEEE,cNDIQ",
   "1698F cTAEN NTEUM,cSET,cPUM,cNDAA SOFTNESS,cNGGUAESHAE NYAM,cYIEE,cGHEUN,cTUAE,cYEUAE,cPO",
   "16999 cTUMAE,cKEUAE,cSUAEN,cTEUAEQ,cVEUAE,cWEUX,cLAAM,cPU,cTAAQ,cGHAAMAE,cNGEUREUT,cSHEUAEQ",
   "169A5 cMGBEN,cMBEE,cNZAQ,cNKOM,cGBET,cTUM,cKUET,cYAP,cNYI CLEAVER,cYIT,cMFEUQ,cNDIAQ,cPIEEQ",
   "169B2 cYUEQ,cLEUAEM,cFUE,cGBEUX,cNGKUP,cKET,cMAE,cNGKAAMI,cGHET,cFA,cNTUM,cPEUT,cYEUM",
   "169BF cNGGEUAE,cNYI BETWEEN,cNZUQ,cPOON,cMIEE,cFUET,cNAE,cMUAE,cGHEUAE,cFU I,cMVI,cPUAQ",
   "169CB cNGKUM,cKUT,cPIET,cNTAP,cYEUAET,cNGGUP,cPA PEOPLE,cFU CALL,cFOM,cNJEE,cA,cTOQ,cO,cI",
   "169D9 cLAQ,cPA PLURAL,cTAA,cTAQ,cNDAA MY HOUSE,cSHIQ,cYEUX,cNGUAE,cYUAEN,cYOQ SWIMMING,dCOVER",
   "169E4 cYUQ,cYUN,cKEUX,cPEUX,cNJEE EPOCH,cPUE,cWUE,cFEE,cVEE,cLU,cMI,cREUX,cRAE,cNGUAET,cNGA",
   "169F3 cSHO,cSHOQ,cFU REMEDY,cNA,cPI,cLOQ,cKO,cMEN,cMA,cMAQ,cTEU,cKI,cMON,cTEN,cFAQ,cGHOM",
   "16A03 bPHASE-F KA,cU,cKU,cEE,cREE,cTAE,cNYI,cLA,cRII,cRIEE,cMEEEE,cTAA,cNDAA,cNJAEM,cM,cSUU",
   "16A13 cSHII,cSI,cSEUX,cKYEE,cKET,cNUAE,cNU,cNJUAE,cYOQ,cSHU,cYA,cNSHA,cPEUX,cNTEE,cWUE,cPEE",
   "16A23 cRU,cNI,cREUX,cKEN,cNGKWAEN,cNGGA,cSHO,cPUAE,cFOM,cWA,cLI,cLOQ,cKO,cMBEN,cREN,cMA,cMO",
   "16A34 cMBAA,cTET,cKPA,cSAMBA,cVUEQ,,,,,,,,MRO LETTER TA,bNGI,bYO,bMIM,bBA,bDA,bA,bPHI,bKHAI",
   "16A49 bHAO,bDAI,bCHU,bKEAAE,bOL,bMAEM,bNIN,bPA,bOO,bO,bRO,bSHI,bTHEA,bEA,bWA,bE,bKO,bLAN,bLA",
   "16A5C bHAI,bRI,bTEK,,aDIGIT ZERO,bONE,bTWO,bTHREE,bFOUR,bFIVE,bSIX,bSEVEN,bEIGHT,bNINE",
   "16A6E aDANDA,aDOUBLEa,TANGSA LETTER OZ,bOC,bOQ,bOX,bAZ,bAC,bAQ,bAX,bVZ,bVC,bVQ,bVX,bEZ,bEC",
   "16A7E bEQ,bEX,bIZ,bIC,bIQ,bIX,bUZ,bUC,bUQ,bUX,bAWZ,bAWC,bAWQ,bAWX,bUIZ,bUIC,bUIQ,bUIX",
   "16A90 bFINAL NG,bLONG UEX,bSHORT UEZ,cAWX,bUEC,bUEZ,bUEQ,bUEX,bUIUZ,bUIUC,bUIUQ,bUIUX,bMZ,bMC",
   "16A9E bMQ,bMX,bKA,bKHA,bGA,bNGA,bSA,bYA,bWA,bPA,bNYA,bPHA,bBA,bMA,bNA,bHA,bLA,bHTA,bTA,bDA",
   "16AB2 bRA,bNHA,bSHA,bCA,bTSA,bGHA,bHTTA,bTHA,bXA,bFA,bDHA,bCHA,bZA,,aDIGIT ZERO,bONE,bTWO",
   "16AC3 bTHREE,bFOUR,bFIVE,bSIX,bSEVEN,bEIGHT,bNINE,,,,,,,BASSA VAH LETTER ENNI,cKA,cSE,cFA",
   "16AD4 cMBE,cYIE,cGAH,cDHII,cKPAH,cJO,cHWAH,cWA,cZO,cGBU,cDO,cCE,cUWU,cTO,cBA,cVU,cYEIN,cPA",
   "16AE6 cWADDA,cA,cO,cOO,cU,cEE,cE,cI,,,bCOMBINING HIGH TONE,cLOWa,cMIDa,cLOW-MIDa,cHIGH-LOWa",
   "16AF5 bFULL STOP",
   "16B00 PAHAWH HMONG VOWEL KEEB,cKEEV,cKIB,cKIV,cKAUB,cKAUV,cKUB,cKUV,cKEB,cKEV,cKAIB,cKAIV",
   "16B0C cKOOB,cKOOV,cKAWB,cKAWV,cKUAB,cKUAV,cKOB,cKOV,cKIAB,cKIAV,cKAB,cKAV,cKWB,cKWV,cKAAB",
   "16B1B cKAAV,bCONSONANT VAU,cNTSAU,cLAU,cHAU,cNLAU,cRAU,cNKAU,cQHAU,cYAU,cHLAU,cMAU,cCHAU",
   "16B28 cNCHAU,cHNAU,cPLHAU,cNTHAU,cNAU,cAU,cXAU,cCAU,bMARK CIM TUB,dSO,dKES,dKHAV,dSUAM,dHOM",
   "16B36 dTAUM,bSIGN VOS THOM,dTSHAB CEEB,cCIM CHEEM,cVOS THIAB,dFEEM,cXYEEM NTXIV,dRHO,dTOV",
   "16B3F dFAIB,cVOS SEEV,cMEEJ SUAB,cVOS NRUA,cIB YAM,cXAUS,cCIM TSOV ROG",
   "16B50 bDIGIT ZERO,cONE,cTWO,cTHREE,cFOUR,cFIVE,cSIX,cSEVEN,cEIGHT,cNINE,,bNUMBER TENS",
   "16B5C cHUNDREDS,cTEN THOUSANDS,cMILLIONS,cHUNDREDa,cTEN BILLIONS,cTRILLIONS,,bSIGN VOS LUB",
   "16B64 cXYOO,cHLI,cTHIRD-STAGEa,cZWJ THAJ,cHNUB,cNQIG,cXIAB,cNTUJ,cAV,cTXHEEJ CEEV,cMEEJ TSEEB",
   "16B6F cTAU,cLOS,cMUS,cCIM HAIS LUS NTOG NTOG,dCUAM TSHOOJ,dTXWV,eCHWV,dPUB DAWB,dNRES TOS",
   "16B7D bCLAN SIGN TSHEEJ,dYEEG,dLIS,dLAUJ,dXYOOJ,dKOO,dHAWJ,dMUAS,dTHOJ,dTSAB,dPHAB,dKHAB,dHAM",
   "16B8A dVAJ,dFAJ,dYAJ,dTSWB,dKWM,dVWJ",
   "16E40 MEDEFAIDRIN CAPITAL LETTER M,cS,cV,cW,cATIU,cZ,cKP,cP,cT,cG,cF,cI,cK,cA,cJ,cE,cB,cC,cU",
   "16E53 cYU,cL,cQ,cHP,cNY,cX,cD,cOE,cN,cR,cO,cAI,cY,aSMALL LETTER M,cS,cV,cW,cATIU,cZ,cKP,cP,cT",
   "16E69 cG,cF,cI,cK,cA,cJ,cE,cB,cC,cU,cYU,cL,cQ,cHP,cNY,cX,cD,cOE,cN,cR,cO,cAI,cY,aDIGIT ZERO",
   "16E81 bONE,bTWO,bTHREE,bFOUR,bFIVE,bSIX,bSEVEN,bEIGHT,bNINE,aNUMBER TEN,bELEVEN,bTWELVE",
   "16E8D bTHIRTEEN,bFOURTEEN,bFIFTEEN,bSIXTEEN,bSEVENTEEN,bEIGHTEEN,bNINETEEN",
   "16E94 aDIGIT ONE ALTERNATE FORM,bTWOb,bTHREEb,aCOMMA,aFULL STOP,aSYMBOL AIVA,aEXCLAMATION OH",
   "16F00 MIAO LETTER PA,bBA,bYI PA,bPLA,bMA,bMHA,bARCHAIC MA,bFA,bVA,bVFA,bTA,bDA,bYI TTA,cTA",
   "16F0E bTTA,bDDA,bNA,bNHA,bYI NNA,bARCHAIC NA,bNNA,bNNHA,bLA,bLYA,bLHA,bLHYA,bTLHA,bDLHA",
   "16F1C bTLHYA,bDLHYA,bKA,bGA,bYI KA,bQA,bQGA,bNGA,bNGHA,bARCHAIC NGA,bHA,bXA,bGHA,bGHHA,bTSSA",
   "16F2B bDZZA,bNYA,bNYHA,bTSHA,bDZHA,bYI TSHA,cDZHA,bREFORMED TSHA,bSHA,bSSA,bZHA,bZSHA,bTSA",
   "16F38 bDZA,bYI TSA,bSA,bZA,bZSA,bZZA,bZZSA,bARCHAIC ZZA,bZZYA,bZZSYA,bWA,bAH,bHHA,bBRI,bSYI",
   "16F47 bDZYI,bTE,bTSE,bRTE,,,,,aSIGN CONSONANT MODIFIER BAR,aLETTER NASALIZATION",
   "16F51 aSIGN ASPIRATION,bREFORMED VOICING,cASPIRATION,aVOWEL SIGN A,cAA,cAHH,cAN,cANG,cO,cOO",
   "16F5B cWO,cW,cE,cEN,cENG,cOEY,cI,cIA,cIAN,cIANG,cIO,cIE,cII,cIU,cING,cU,cUA,cUAN,cUANG,cUU",
   "16F6F cUEI,cUNG,cY,cYI,cAE,cAEE,cERR,cROUNDEDa,cER,cROUNDEDa,cAI,cEI,cAU,cOU,cN,cNG,cUOG,cYUI",
   "16F81 cOG,cOER,cVW,cIG,cEA,cIONG,cUI,,,,,,,,aTONE RIGHT,bTOPa,bABOVE,bBELOW,aLETTER TONE-2",
   "16F94 bTONE-3,bTONE-4,bTONE-5,bTONE-6,bTONE-7,bTONE-8,bREFORMED TONE-1,cTONE-2,cTONE-4",
   "16F9D cTONE-5,cTONE-6,cTONE-8",
   "16FE0 TANGUT ITERATION MARK,NUSHUb,OLD CHINESE HOOKa,bITERATIONa,KHITAN SMALL SCRIPT FILLER",
   "16FF0 VIETNAMESE ALTERNATE READING MARK CA,dNHAY",
   "18800 TANGUT COMPONENT-001,aCOMPONENT-002,aCOMPONENT-003,aCOMPONENT-004,aCOMPONENT-005",
   "18805 aCOMPONENT-006,aCOMPONENT-007,aCOMPONENT-008,aCOMPONENT-009,aCOMPONENT-010",
   "1880A aCOMPONENT-011,aCOMPONENT-012,aCOMPONENT-013,aCOMPONENT-014,aCOMPONENT-015",
   "1880F aCOMPONENT-016,aCOMPONENT-017,aCOMPONENT-018,aCOMPONENT-019,aCOMPONENT-020",
   "18814 aCOMPONENT-021,aCOMPONENT-022,aCOMPONENT-023,aCOMPONENT-024,aCOMPONENT-025",
   "18819 aCOMPONENT-026,aCOMPONENT-027,aCOMPONENT-028,aCOMPONENT-029,aCOMPONENT-030",
   "1881E aCOMPONENT-031,aCOMPONENT-032,aCOMPONENT-033,aCOMPONENT-034,aCOMPONENT-035",
   "18823 aCOMPONENT-036,aCOMPONENT-037,aCOMPONENT-038,aCOMPONENT-039,aCOMPONENT-040",
   "18828 aCOMPONENT-041,aCOMPONENT-042,aCOMPONENT-043,aCOMPONENT-044,aCOMPONENT-045",
   "1882D aCOMPONENT-046,aCOMPONENT-047,aCOMPONENT-048,aCOMPONENT-049,aCOMPONENT-050",
   "18832 aCOMPONENT-051,aCOMPONENT-052,aCOMPONENT-053,aCOMPONENT-054,aCOMPONENT-055",
   "18837 aCOMPONENT-056,aCOMPONENT-057,aCOMPONENT-058,aCOMPONENT-059,aCOMPONENT-060",
   "1883C aCOMPONENT-061,aCOMPONENT-062,aCOMPONENT-063,aCOMPONENT-064,aCOMPONENT-065",
   "18841 aCOMPONENT-066,aCOMPONENT-067,aCOMPONENT-068,aCOMPONENT-069,aCOMPONENT-070",
   "18846 aCOMPONENT-071,aCOMPONENT-072,aCOMPONENT-073,aCOMPONENT-074,aCOMPONENT-075",
   "1884B aCOMPONENT-076,aCOMPONENT-077,aCOMPONENT-078,aCOMPONENT-079,aCOMPONENT-080",
   "18850 aCOMPONENT-081,aCOMPONENT-082,aCOMPONENT-083,aCOMPONENT-084,aCOMPONENT-085",
   "18855 aCOMPONENT-086,aCOMPONENT-087,aCOMPONENT-088,aCOMPONENT-089,aCOMPONENT-090",
   "1885A aCOMPONENT-091,aCOMPONENT-092,aCOMPONENT-093,aCOMPONENT-094,aCOMPONENT-095",
   "1885F aCOMPONENT-096,aCOMPONENT-097,aCOMPONENT-098,aCOMPONENT-099,aCOMPONENT-100",
   "18864 aCOMPONENT-101,aCOMPONENT-102,aCOMPONENT-103,aCOMPONENT-104,aCOMPONENT-105",
   "18869 aCOMPONENT-106,aCOMPONENT-107,aCOMPONENT-108,aCOMPONENT-109,aCOMPONENT-110",
   "1886E aCOMPONENT-111,aCOMPONENT-112,aCOMPONENT-113,aCOMPONENT-114,aCOMPONENT-115",
   "18873 aCOMPONENT-116,aCOMPONENT-117,aCOMPONENT-118,aCOMPONENT-119,aCOMPONENT-120",
   "18878 aCOMPONENT-121,aCOMPONENT-122,aCOMPONENT-123,aCOMPONENT-124,aCOMPONENT-125",
   "1887D aCOMPONENT-126,aCOMPONENT-127,aCOMPONENT-128,aCOMPONENT-129,aCOMPONENT-130",
   "18882 aCOMPONENT-131,aCOMPONENT-132,aCOMPONENT-133,aCOMPONENT-134,aCOMPONENT-135",
   "18887 aCOMPONENT-136,aCOMPONENT-137,aCOMPONENT-138,aCOMPONENT-139,aCOMPONENT-140",
   "1888C aCOMPONENT-141,aCOMPONENT-142,aCOMPONENT-143,aCOMPONENT-144,aCOMPONENT-145",
   "18891 aCOMPONENT-146,aCOMPONENT-147,aCOMPONENT-148,aCOMPONENT-149,aCOMPONENT-150",
   "18896 aCOMPONENT-151,aCOMPONENT-152,aCOMPONENT-153,aCOMPONENT-154,aCOMPONENT-155",
   "1889B aCOMPONENT-156,aCOMPONENT-157,aCOMPONENT-158,aCOMPONENT-159,aCOMPONENT-160",
   "188A0 aCOMPONENT-161,aCOMPONENT-162,aCOMPONENT-163,aCOMPONENT-164,aCOMPONENT-165",
   "188A5 aCOMPONENT-166,aCOMPONENT-167,aCOMPONENT-168,aCOMPONENT-169,aCOMPONENT-170",
   "188AA aCOMPONENT-171,aCOMPONENT-172,aCOMPONENT-173,aCOMPONENT-174,aCOMPONENT-175",
   "188AF aCOMPONENT-176,aCOMPONENT-177,aCOMPONENT-178,aCOMPONENT-179,aCOMPONENT-180",
   "188B4 aCOMPONENT-181,aCOMPONENT-182,aCOMPONENT-183,aCOMPONENT-184,aCOMPONENT-185",
   "188B9 aCOMPONENT-186,aCOMPONENT-187,aCOMPONENT-188,aCOMPONENT-189,aCOMPONENT-190",
   "188BE aCOMPONENT-191,aCOMPONENT-192,aCOMPONENT-193,aCOMPONENT-194,aCOMPONENT-195",
   "188C3 aCOMPONENT-196,aCOMPONENT-197,aCOMPONENT-198,aCOMPONENT-199,aCOMPONENT-200",
   "188C8 aCOMPONENT-201,aCOMPONENT-202,aCOMPONENT-203,aCOMPONENT-204,aCOMPONENT-205",
   "188CD aCOMPONENT-206,aCOMPONENT-207,aCOMPONENT-208,aCOMPONENT-209,aCOMPONENT-210",
   "188D2 aCOMPONENT-211,aCOMPONENT-212,aCOMPONENT-213,aCOMPONENT-214,aCOMPONENT-215",
   "188D7 aCOMPONENT-216,aCOMPONENT-217,aCOMPONENT-218,aCOMPONENT-219,aCOMPONENT-220",
   "188DC aCOMPONENT-221,aCOMPONENT-222,aCOMPONENT-223,aCOMPONENT-224,aCOMPONENT-225",
   "188E1 aCOMPONENT-226,aCOMPONENT-227,aCOMPONENT-228,aCOMPONENT-229,aCOMPONENT-230",
   "188E6 aCOMPONENT-231,aCOMPONENT-232,aCOMPONENT-233,aCOMPONENT-234,aCOMPONENT-235",
   "188EB aCOMPONENT-236,aCOMPONENT-237,aCOMPONENT-238,aCOMPONENT-239,aCOMPONENT-240",
   "188F0 aCOMPONENT-241,aCOMPONENT-242,aCOMPONENT-243,aCOMPONENT-244,aCOMPONENT-245",
   "188F5 aCOMPONENT-246,aCOMPONENT-247,aCOMPONENT-248,aCOMPONENT-249,aCOMPONENT-250",
   "188FA aCOMPONENT-251,aCOMPONENT-252,aCOMPONENT-253,aCOMPONENT-254,aCOMPONENT-255",
   "188FF aCOMPONENT-256,aCOMPONENT-257,aCOMPONENT-258,aCOMPONENT-259,aCOMPONENT-260",
   "18904 aCOMPONENT-261,aCOMPONENT-262,aCOMPONENT-263,aCOMPONENT-264,aCOMPONENT-265",
   "18909 aCOMPONENT-266,aCOMPONENT-267,aCOMPONENT-268,aCOMPONENT-269,aCOMPONENT-270",
   "1890E aCOMPONENT-271,aCOMPONENT-272,aCOMPONENT-273,aCOMPONENT-274,aCOMPONENT-275",
   "18913 aCOMPONENT-276,aCOMPONENT-277,aCOMPONENT-278,aCOMPONENT-279,aCOMPONENT-280",
   "18918 aCOMPONENT-281,aCOMPONENT-282,aCOMPONENT-283,aCOMPONENT-284,aCOMPONENT-285",
   "1891D aCOMPONENT-286,aCOMPONENT-287,aCOMPONENT-288,aCOMPONENT-289,aCOMPONENT-290",
   "18922 aCOMPONENT-291,aCOMPONENT-292,aCOMPONENT-293,aCOMPONENT-294,aCOMPONENT-295",
   "18927 aCOMPONENT-296,aCOMPONENT-297,aCOMPONENT-298,aCOMPONENT-299,aCOMPONENT-300",
   "1892C aCOMPONENT-301,aCOMPONENT-302,aCOMPONENT-303,aCOMPONENT-304,aCOMPONENT-305",
   "18931 aCOMPONENT-306,aCOMPONENT-307,aCOMPONENT-308,aCOMPONENT-309,aCOMPONENT-310",
   "18936 aCOMPONENT-311,aCOMPONENT-312,aCOMPONENT-313,aCOMPONENT-314,aCOMPONENT-315",
   "1893B aCOMPONENT-316,aCOMPONENT-317,aCOMPONENT-318,aCOMPONENT-319,aCOMPONENT-320",
   "18940 aCOMPONENT-321,aCOMPONENT-322,aCOMPONENT-323,aCOMPONENT-324,aCOMPONENT-325",
   "18945 aCOMPONENT-326,aCOMPONENT-327,aCOMPONENT-328,aCOMPONENT-329,aCOMPONENT-330",
   "1894A aCOMPONENT-331,aCOMPONENT-332,aCOMPONENT-333,aCOMPONENT-334,aCOMPONENT-335",
   "1894F aCOMPONENT-336,aCOMPONENT-337,aCOMPONENT-338,aCOMPONENT-339,aCOMPONENT-340",
   "18954 aCOMPONENT-341,aCOMPONENT-342,aCOMPONENT-343,aCOMPONENT-344,aCOMPONENT-345",
   "18959 aCOMPONENT-346,aCOMPONENT-347,aCOMPONENT-348,aCOMPONENT-349,aCOMPONENT-350",
   "1895E aCOMPONENT-351,aCOMPONENT-352,aCOMPONENT-353,aCOMPONENT-354,aCOMPONENT-355",
   "18963 aCOMPONENT-356,aCOMPONENT-357,aCOMPONENT-358,aCOMPONENT-359,aCOMPONENT-360",
   "18968 aCOMPONENT-361,aCOMPONENT-362,aCOMPONENT-363,aCOMPONENT-364,aCOMPONENT-365",
   "1896D aCOMPONENT-366,aCOMPONENT-367,aCOMPONENT-368,aCOMPONENT-369,aCOMPONENT-370",
   "18972 aCOMPONENT-371,aCOMPONENT-372,aCOMPONENT-373,aCOMPONENT-374,aCOMPONENT-375",
   "18977 aCOMPONENT-376,aCOMPONENT-377,aCOMPONENT-378,aCOMPONENT-379,aCOMPONENT-380",
   "1897C aCOMPONENT-381,aCOMPONENT-382,aCOMPONENT-383,aCOMPONENT-384,aCOMPONENT-385",
   "18981 aCOMPONENT-386,aCOMPONENT-387,aCOMPONENT-388,aCOMPONENT-389,aCOMPONENT-390",
   "18986 aCOMPONENT-391,aCOMPONENT-392,aCOMPONENT-393,aCOMPONENT-394,aCOMPONENT-395",
   "1898B aCOMPONENT-396,aCOMPONENT-397,aCOMPONENT-398,aCOMPONENT-399,aCOMPONENT-400",
   "18990 aCOMPONENT-401,aCOMPONENT-402,aCOMPONENT-403,aCOMPONENT-404,aCOMPONENT-405",
   "18995 aCOMPONENT-406,aCOMPONENT-407,aCOMPONENT-408,aCOMPONENT-409,aCOMPONENT-410",
   "1899A aCOMPONENT-411,aCOMPONENT-412,aCOMPONENT-413,aCOMPONENT-414,aCOMPONENT-415",
   "1899F aCOMPONENT-416,aCOMPONENT-417,aCOMPONENT-418,aCOMPONENT-419,aCOMPONENT-420",
   "189A4 aCOMPONENT-421,aCOMPONENT-422,aCOMPONENT-423,aCOMPONENT-424,aCOMPONENT-425",
   "189A9 aCOMPONENT-426,aCOMPONENT-427,aCOMPONENT-428,aCOMPONENT-429,aCOMPONENT-430",
   "189AE aCOMPONENT-431,aCOMPONENT-432,aCOMPONENT-433,aCOMPONENT-434,aCOMPONENT-435",
   "189B3 aCOMPONENT-436,aCOMPONENT-437,aCOMPONENT-438,aCOMPONENT-439,aCOMPONENT-440",
   "189B8 aCOMPONENT-441,aCOMPONENT-442,aCOMPONENT-443,aCOMPONENT-444,aCOMPONENT-445",
   "189BD aCOMPONENT-446,aCOMPONENT-447,aCOMPONENT-448,aCOMPONENT-449,aCOMPONENT-450",
   "189C2 aCOMPONENT-451,aCOMPONENT-452,aCOMPONENT-453,aCOMPONENT-454,aCOMPONENT-455",
   "189C7 aCOMPONENT-456,aCOMPONENT-457,aCOMPONENT-458,aCOMPONENT-459,aCOMPONENT-460",
   "189CC aCOMPONENT-461,aCOMPONENT-462,aCOMPONENT-463,aCOMPONENT-464,aCOMPONENT-465",
   "189D1 aCOMPONENT-466,aCOMPONENT-467,aCOMPONENT-468,aCOMPONENT-469,aCOMPONENT-470",
   "189D6 aCOMPONENT-471,aCOMPONENT-472,aCOMPONENT-473,aCOMPONENT-474,aCOMPONENT-475",
   "189DB aCOMPONENT-476,aCOMPONENT-477,aCOMPONENT-478,aCOMPONENT-479,aCOMPONENT-480",
   "189E0 aCOMPONENT-481,aCOMPONENT-482,aCOMPONENT-483,aCOMPONENT-484,aCOMPONENT-485",
   "189E5 aCOMPONENT-486,aCOMPONENT-487,aCOMPONENT-488,aCOMPONENT-489,aCOMPONENT-490",
   "189EA aCOMPONENT-491,aCOMPONENT-492,aCOMPONENT-493,aCOMPONENT-494,aCOMPONENT-495",
   "189EF aCOMPONENT-496,aCOMPONENT-497,aCOMPONENT-498,aCOMPONENT-499,aCOMPONENT-500",
   "189F4 aCOMPONENT-501,aCOMPONENT-502,aCOMPONENT-503,aCOMPONENT-504,aCOMPONENT-505",
   "189F9 aCOMPONENT-506,aCOMPONENT-507,aCOMPONENT-508,aCOMPONENT-509,aCOMPONENT-510",
   "189FE aCOMPONENT-511,aCOMPONENT-512,aCOMPONENT-513,aCOMPONENT-514,aCOMPONENT-515",
   "18A03 aCOMPONENT-516,aCOMPONENT-517,aCOMPONENT-518,aCOMPONENT-519,aCOMPONENT-520",
   "18A08 aCOMPONENT-521,aCOMPONENT-522,aCOMPONENT-523,aCOMPONENT-524,aCOMPONENT-525",
   "18A0D aCOMPONENT-526,aCOMPONENT-527,aCOMPONENT-528,aCOMPONENT-529,aCOMPONENT-530",
   "18A12 aCOMPONENT-531,aCOMPONENT-532,aCOMPONENT-533,aCOMPONENT-534,aCOMPONENT-535",
   "18A17 aCOMPONENT-536,aCOMPONENT-537,aCOMPONENT-538,aCOMPONENT-539,aCOMPONENT-540",
   "18A1C aCOMPONENT-541,aCOMPONENT-542,aCOMPONENT-543,aCOMPONENT-544,aCOMPONENT-545",
   "18A21 aCOMPONENT-546,aCOMPONENT-547,aCOMPONENT-548,aCOMPONENT-549,aCOMPONENT-550",
   "18A26 aCOMPONENT-551,aCOMPONENT-552,aCOMPONENT-553,aCOMPONENT-554,aCOMPONENT-555",
   "18A2B aCOMPONENT-556,aCOMPONENT-557,aCOMPONENT-558,aCOMPONENT-559,aCOMPONENT-560",
   "18A30 aCOMPONENT-561,aCOMPONENT-562,aCOMPONENT-563,aCOMPONENT-564,aCOMPONENT-565",
   "18A35 aCOMPONENT-566,aCOMPONENT-567,aCOMPONENT-568,aCOMPONENT-569,aCOMPONENT-570",
   "18A3A aCOMPONENT-571,aCOMPONENT-572,aCOMPONENT-573,aCOMPONENT-574,aCOMPONENT-575",
   "18A3F aCOMPONENT-576,aCOMPONENT-577,aCOMPONENT-578,aCOMPONENT-579,aCOMPONENT-580",
   "18A44 aCOMPONENT-581,aCOMPONENT-582,aCOMPONENT-583,aCOMPONENT-584,aCOMPONENT-585",
   "18A49 aCOMPONENT-586,aCOMPONENT-587,aCOMPONENT-588,aCOMPONENT-589,aCOMPONENT-590",
   "18A4E aCOMPONENT-591,aCOMPONENT-592,aCOMPONENT-593,aCOMPONENT-594,aCOMPONENT-595",
   "18A53 aCOMPONENT-596,aCOMPONENT-597,aCOMPONENT-598,aCOMPONENT-599,aCOMPONENT-600",
   "18A58 aCOMPONENT-601,aCOMPONENT-602,aCOMPONENT-603,aCOMPONENT-604,aCOMPONENT-605",
   "18A5D aCOMPONENT-606,aCOMPONENT-607,aCOMPONENT-608,aCOMPONENT-609,aCOMPONENT-610",
   "18A62 aCOMPONENT-611,aCOMPONENT-612,aCOMPONENT-613,aCOMPONENT-614,aCOMPONENT-615",
   "18A67 aCOMPONENT-616,aCOMPONENT-617,aCOMPONENT-618,aCOMPONENT-619,aCOMPONENT-620",
   "18A6C aCOMPONENT-621,aCOMPONENT-622,aCOMPONENT-623,aCOMPONENT-624,aCOMPONENT-625",
   "18A71 aCOMPONENT-626,aCOMPONENT-627,aCOMPONENT-628,aCOMPONENT-629,aCOMPONENT-630",
   "18A76 aCOMPONENT-631,aCOMPONENT-632,aCOMPONENT-633,aCOMPONENT-634,aCOMPONENT-635",
   "18A7B aCOMPONENT-636,aCOMPONENT-637,aCOMPONENT-638,aCOMPONENT-639,aCOMPONENT-640",
   "18A80 aCOMPONENT-641,aCOMPONENT-642,aCOMPONENT-643,aCOMPONENT-644,aCOMPONENT-645",
   "18A85 aCOMPONENT-646,aCOMPONENT-647,aCOMPONENT-648,aCOMPONENT-649,aCOMPONENT-650",
   "18A8A aCOMPONENT-651,aCOMPONENT-652,aCOMPONENT-653,aCOMPONENT-654,aCOMPONENT-655",
   "18A8F aCOMPONENT-656,aCOMPONENT-657,aCOMPONENT-658,aCOMPONENT-659,aCOMPONENT-660",
   "18A94 aCOMPONENT-661,aCOMPONENT-662,aCOMPONENT-663,aCOMPONENT-664,aCOMPONENT-665",
   "18A99 aCOMPONENT-666,aCOMPONENT-667,aCOMPONENT-668,aCOMPONENT-669,aCOMPONENT-670",
   "18A9E aCOMPONENT-671,aCOMPONENT-672,aCOMPONENT-673,aCOMPONENT-674,aCOMPONENT-675",
   "18AA3 aCOMPONENT-676,aCOMPONENT-677,aCOMPONENT-678,aCOMPONENT-679,aCOMPONENT-680",
   "18AA8 aCOMPONENT-681,aCOMPONENT-682,aCOMPONENT-683,aCOMPONENT-684,aCOMPONENT-685",
   "18AAD aCOMPONENT-686,aCOMPONENT-687,aCOMPONENT-688,aCOMPONENT-689,aCOMPONENT-690",
   "18AB2 aCOMPONENT-691,aCOMPONENT-692,aCOMPONENT-693,aCOMPONENT-694,aCOMPONENT-695",
   "18AB7 aCOMPONENT-696,aCOMPONENT-697,aCOMPONENT-698,aCOMPONENT-699,aCOMPONENT-700",
   "18ABC aCOMPONENT-701,aCOMPONENT-702,aCOMPONENT-703,aCOMPONENT-704,aCOMPONENT-705",
   "18AC1 aCOMPONENT-706,aCOMPONENT-707,aCOMPONENT-708,aCOMPONENT-709,aCOMPONENT-710",
   "18AC6 aCOMPONENT-711,aCOMPONENT-712,aCOMPONENT-713,aCOMPONENT-714,aCOMPONENT-715",
   "18ACB aCOMPONENT-716,aCOMPONENT-717,aCOMPONENT-718,aCOMPONENT-719,aCOMPONENT-720",
   "18AD0 aCOMPONENT-721,aCOMPONENT-722,aCOMPONENT-723,aCOMPONENT-724,aCOMPONENT-725",
   "18AD5 aCOMPONENT-726,aCOMPONENT-727,aCOMPONENT-728,aCOMPONENT-729,aCOMPONENT-730",
   "18ADA aCOMPONENT-731,aCOMPONENT-732,aCOMPONENT-733,aCOMPONENT-734,aCOMPONENT-735",
   "18ADF aCOMPONENT-736,aCOMPONENT-737,aCOMPONENT-738,aCOMPONENT-739,aCOMPONENT-740",
   "18AE4 aCOMPONENT-741,aCOMPONENT-742,aCOMPONENT-743,aCOMPONENT-744,aCOMPONENT-745",
   "18AE9 aCOMPONENT-746,aCOMPONENT-747,aCOMPONENT-748,aCOMPONENT-749,aCOMPONENT-750",
   "18AEE aCOMPONENT-751,aCOMPONENT-752,aCOMPONENT-753,aCOMPONENT-754,aCOMPONENT-755",
   "18AF3 aCOMPONENT-756,aCOMPONENT-757,aCOMPONENT-758,aCOMPONENT-759,aCOMPONENT-760",
   "18AF8 aCOMPONENT-761,aCOMPONENT-762,aCOMPONENT-763,aCOMPONENT-764,aCOMPONENT-765",
   "18AFD aCOMPONENT-766,aCOMPONENT-767,aCOMPONENT-768",
   "1AFF0 KATAKANA LETTER MINNAN TONE-2,cTONE-3,cTONE-4,cTONE-5,,cTONE-7,cTONE-8",
   "1AFF7 cNASALIZED TONE-1,dTONE-2,dTONE-3,dTONE-4,dTONE-5,,dTONE-7,dTONE-8,,bARCHAIC E",
   "1B001 HIRAGANA LETTER ARCHAIC YE,HENTAIGANA LETTER A-1,bA-2,bA-3,bA-WO,bI-1,bI-2,bI-3,bI-4",
   "1B00A bU-1,bU-2,bU-3,bU-4,bU-5,bE-2,bE-3,bE-4,bE-5,bE-6,bO-1,bO-2,bO-3,bKA-1,bKA-2,bKA-3",
   "1B01A bKA-4,bKA-5,bKA-6,bKA-7,bKA-8,bKA-9,bKA-10,bKA-11,bKA-KE,bKI-1,bKI-2,bKI-3,bKI-4,bKI-5",
   "1B028 bKI-6,bKI-7,bKI-8,bKU-1,bKU-2,bKU-3,bKU-4,bKU-5,bKU-6,bKU-7,bKE-1,bKE-2,bKE-3,bKE-4",
   "1B036 bKE-5,bKE-6,bKO-1,bKO-2,bKO-3,bKO-KI,bSA-1,bSA-2,bSA-3,bSA-4,bSA-5,bSA-6,bSA-7,bSA-8",
   "1B044 bSI-1,bSI-2,bSI-3,bSI-4,bSI-5,bSI-6,bSU-1,bSU-2,bSU-3,bSU-4,bSU-5,bSU-6,bSU-7,bSU-8",
   "1B052 bSE-1,bSE-2,bSE-3,bSE-4,bSE-5,bSO-1,bSO-2,bSO-3,bSO-4,bSO-5,bSO-6,bSO-7,bTA-1,bTA-2",
   "1B060 bTA-3,bTA-4,bTI-1,bTI-2,bTI-3,bTI-4,bTI-5,bTI-6,bTI-7,bTU-1,bTU-2,bTU-3,bTU-4,bTU-TO",
   "1B06E bTE-1,bTE-2,bTE-3,bTE-4,bTE-5,bTE-6,bTE-7,bTE-8,bTE-9,bTO-1,bTO-2,bTO-3,bTO-4,bTO-5",
   "1B07C bTO-6,bTO-RA,bNA-1,bNA-2,bNA-3,bNA-4,bNA-5,bNA-6,bNA-7,bNA-8,bNA-9,bNI-1,bNI-2,bNI-3",
   "1B08A bNI-4,bNI-5,bNI-6,bNI-7,bNI-TE,bNU-1,bNU-2,bNU-3,bNE-1,bNE-2,bNE-3,bNE-4,bNE-5,bNE-6",
   "1B098 bNE-KO,bNO-1,bNO-2,bNO-3,bNO-4,bNO-5,bHA-1,bHA-2,bHA-3,bHA-4,bHA-5,bHA-6,bHA-7,bHA-8",
   "1B0A6 bHA-9,bHA-10,bHA-11,bHI-1,bHI-2,bHI-3,bHI-4,bHI-5,bHI-6,bHI-7,bHU-1,bHU-2,bHU-3,bHE-1",
   "1B0B4 bHE-2,bHE-3,bHE-4,bHE-5,bHE-6,bHE-7,bHO-1,bHO-2,bHO-3,bHO-4,bHO-5,bHO-6,bHO-7,bHO-8",
   "1B0C2 bMA-1,bMA-2,bMA-3,bMA-4,bMA-5,bMA-6,bMA-7,bMI-1,bMI-2,bMI-3,bMI-4,bMI-5,bMI-6,bMI-7",
   "1B0D0 bMU-1,bMU-2,bMU-3,bMU-4,bME-1,bME-2,bME-MA,bMO-1,bMO-2,bMO-3,bMO-4,bMO-5,bMO-6,bYA-1",
   "1B0DE bYA-2,bYA-3,bYA-4,bYA-5,bYA-YO,bYU-1,bYU-2,bYU-3,bYU-4,bYO-1,bYO-2,bYO-3,bYO-4,bYO-5",
   "1B0EC bYO-6,bRA-1,bRA-2,bRA-3,bRA-4,bRI-1,bRI-2,bRI-3,bRI-4,bRI-5,bRI-6,bRI-7,bRU-1,bRU-2",
   "1B0FA bRU-3,bRU-4,bRU-5,bRU-6,bRE-1,bRE-2,bRE-3,bRE-4,bRO-1,bRO-2,bRO-3,bRO-4,bRO-5,bRO-6",
   "1B108 bWA-1,bWA-2,bWA-3,bWA-4,bWA-5,bWI-1,bWI-2,bWI-3,bWI-4,bWI-5,bWE-1,bWE-2,bWE-3,bWE-4",
   "1B116 bWO-1,bWO-2,bWO-3,bWO-4,bWO-5,bWO-6,bWO-7,bN-MU-MO-1,bN-MU-MO-2",
   "1B11F HIRAGANA LETTER ARCHAIC WU,KATAKANA LETTER ARCHAIC YI,cYE,cWU",
   "1B150 HIRAGANA LETTER SMALL WI,cWE,cWO",
   "1B164 KATAKANA LETTER SMALL WI,cWE,cWO,cN",
   "1BC00 DUPLOYAN LETTER H,bX,bP,bT,bF,bK,bL,bB,bD,bV,bG,bR,bP N,bD S,bF N,bK M,bR S,bTH",
   "1BC12 bSLOAN DH,bDH,bKK,bSLOAN J,bHL,bLH,bRH,bM,bN,bJ,bS,bM N,bN M,bJa,bS J,bM WITH DOT,bNb",
   "1BC23 bJb,dDOTS INSIDE AND ABOVE,bS WITH DOT,eBELOW,bM S,bNa,bJa,bSa,bM Na,bN Ma,bJb,bS Ja",
   "1BC2F bJ S WITH DOT,cN,dS,bS T,dR,cP,dR,bT S,cRa,bW,bWH,bW R,bS N,cM,bK R S,bGb,bS K,dR,bA",
   "1BC42 bSLOAN OW,bOA,bO,bAOU,bI,bE,bIE,bSHORT I,bUI,bEE,bSLOAN EH,bROMANIAN I,bSLOAN EE",
   "1BC4F bLONG I,bYE,bU,bEU,bXW,bU N,bLONG U,bROMANIANa,bUH,bSLOAN U,bOOH,bOW,bOU,bWA,bWO,bWI",
   "1BC5F bWEI,bWOW,bNASAL U,cO,cI,cA,bPERNIN AN,cAM,bSLOAN EN,cAN,cON,bVOCALIC M",
   "1BC70 aAFFIX LEFT HORIZONTAL SECANT,bMIDb,bRIGHTb,bLOW VERTICALa,bMIDb,bHIGHb,bATTACHEDa",
   "1BC77 cLEFT-TO-RIGHTa,cTANGENT,cTAIL,cE HOOK,cIa,cTANGENTa,,,,bHIGH ACUTE,cTIGHTa,cGRAVE",
   "1BC83 cLONGa,cDOT,cCIRCLE,cLINE,cWAVE,cVERTICAL,,,,,,,,bLOW ACUTE,cTIGHTa,cGRAVE,cLONGa,cDOT",
   "1BC95 cCIRCLE,cLINE,cWAVE,cVERTICAL,cARROW,,,aSIGN O WITH CROSS,aTHICK LETTER SELECTOR",
   "1BC9E aDOUBLE MARK,aPUNCTUATION CHINOOK FULL STOP,SHORTHAND FORMAT LETTER OVERLAP",
   "1BCA1 bCONTINUINGa,bDOWN STEP,bUPa",
   "1CF00 ZNAMENNY COMBINING MARK GORAZDO NIZKO S KRYZHEM ON LEFT,cNIZKOd,cTSATAb,cGORAZDO NIZKOb",
   "1CF04 cNIZKOb,cSREDNEb,cMALO POVYSHEb,cPOVYSHEb,cVYSOKOb,cMALO POVYSHE S KHOKHLOMb,cPOVYSHEd",
   "1CF0B cVYSOKOd,cGORAZDO NIZKO S KRYZHEM ON RIGHT,cNIZKOd,cTSATAb,cGORAZDO NIZKOb,cNIZKOb",
   "1CF11 cSREDNEb,cMALO POVYSHEb,cPOVYSHEb,cVYSOKOb,cMALO POVYSHE S KHOKHLOMb,cPOVYSHEd,cVYSOKOd",
   "1CF18 cTSATA S KRYZHEM,cMALO POVYSHEb,cSTRANNO MALO POVYSHE,cPOVYSHE S KRYZHEM,dSTRANNO",
   "1CF1D cVYSOKO S KRYZHEM,cMALO POVYSHE STRANNO,cGORAZDO VYSOKO,cZELO,cON,cRAVNO,cTIKHAYA",
   "1CF24 cBORZAYA,cUDARKA,cPODVERTKA,cLOMKA,cKUPNAYA,cKACHKA,cZEVOK,cSKOBA,cRAZSEKA",
   "1CF2D cKRYZH ON LEFT,,,bTONAL RANGE MARK MRACHNO,eSVETLO,eTRESVETLO,bMARK ZADERZHKA",
   "1CF34 cDEMESTVENNYa,cOTSECHKA,cPODCHASHIE,dWITH VERTICAL STROKE,cCHASHKA,dPOLNAYA,cOBLACHKO",
   "1CF3B cSOROCHYA NOZHKA,cTOCHKA,cDVOETOCHIE,bATTACHING VERTICAL OMET,bMARK CURVEDa,cKRYZH",
   "1CF41 bLOWER TONAL RANGE INDICATOR,aPRIZNAK MODIFIER LEVEL-2,cLEVEL-3,cDIRECTION FLIP,cKRYZH",
   "1CF46 cROG,,,,,,,,,,aNEUME KRYUK,cTIKHY,bPARAKLIT,bDVA V CHELNU,bKLYUCH,bZANOZHEK,bSTOPITSA",
   "1CF57 cS OCHKOM,bPEREVODKA,cNEPOSTOYANNAYA,bSTOPITSA WITH SOROCHYA NOZHKA,bCHELYUSTKA,bPALKA",
   "1CF5D bZAPYATAYA,bGOLUBCHIK BORZY,cTIKHY,cMRACHNY,cSVETLY,cTRESVETLY,bVRAKHIYA PROSTAYA",
   "1CF64 cMRACHNAYA,cSVETLAYA,cTRESVETLAYA,cKLYUCHEVAYA PROSTAYA,dMRACHNAYA,dSVETLAYA",
   "1CF6A dTRESVETLAYA,bDOUBLE ZAPYATAYA,bREVERSED CHELYUSTKA,bDERBITSA,bKHAMILO,bCHASHKA",
   "1CF70 bPODCHASHIE,bSKAMEYTSA MRACHNAYA,cSVETLAYA,cTRESVETLAYA,cTIKHAYA,bDEMESTVENNY KLYUCH",
   "1CF76 bSKAMEYTSA KLYUCHEVAYA SVETLAYA,cKLYUCHENEPOSTOYANNAYA,cKLYUCHEVAYA TIKHAYA",
   "1CF79 cDVOECHELNAYA PROSTAYA,dSVETLAYA,dNEPOSTOYANNAYA,dKLYUCHEVAYA,bSLOZHITIE,cS ZAPYATOY",
   "1CF7F cZAKRYTOE,cS KRYZHEM,bKRYZH,bROG,bFITA,bKOBYLA,bZMEYTSA,bSTATYA,cS ZAPYATOY,dKRYZHEM",
   "1CF89 dZAPYATOY Ia,dKRYZHEM I ZAPYATOY,cZAKRYTAYA,dS ZAPYATOY,cS ROGOM,dDVUMYA ZAPYATYMI",
   "1CF8F dZAPYATOY I PODCHASHIEM,bPOLKULIZMY,bSTATYA NEPOSTOYANNAYA,bSTRELA PROSTAYA",
   "1CF93 cMRACHNOTIKHAYA,cKRYZHEVAYA,cPOLUPOVODNAYA,cPOVODNAYA,cNEPOSTOYANNAYA,cKLYUCHEPOVODNAYA",
   "1CF99 cKLYUCHENEPOSTOYANNAYA,cTIKHAYA PUTNAYA,cDVOECHELNAYA,cDVOECHELNOKRYZHEVAYA",
   "1CF9D cDVOECHELNOPOVODNAYA,cDVOECHELNAYA KLYUCHEVAYA,cDVOECHELNOPOVODNAYAa",
   "1CFA0 cGROMNAYA WITH SINGLE ZAPYATAYA,cGROMOPOVODNAYAc,cGROMNAYA,cGROMOPOVODNAYA",
   "1CFA4 dWITH DOUBLE ZAPYATAYA,cGROMOKRYZHEVAYA,dPOVODNAYA,bMECHIK,cPOVODNY,cKLYUCHEVOY",
   "1CFAA cKLYUCHEPOVODNY,cKLYUCHENEPOSTOYANNY,bSTRELA TRYASOGLASNAYA,cTRYASOPOVODNAYA",
   "1CFAE cTRYASOSTRELNAYA,bOSOKA,cSVETLAYA,cTRESVETLAYA,cKRYUKOVAYA SVETLAYA,cKLYUCHEVAYAa",
   "1CFB4 dNEPOSTOYANNAYA,bSTRELA KRYUKOVAYA,dPOVODNAYA,dGROMNAYA WITH SINGLE ZAPYATAYA",
   "1CFB8 dGROMOPOVODNAYAc,dGROMNAYA,dGROMOPOVODNAYA,eWITH DOUBLE ZAPYATAYA,dGROMOKRYZHEVAYA",
   "1CFBD ePOVODNAYA,dTRYASKA,bKUFISMA,bOBLAKO,bDUDA,bNEMKA,bPAUK"]

def namesFrom1D000 : List String :=
  ["1D000 BYZANTINE MUSICAL SYMBOL PSILI,cDASEIA,cPERISPOMENI,cOXEIA EKFONITIKON,dDIPLI",
   "1D005 cVAREIA EKFONITIKON,dDIPLI,cKATHISTI,cSYRMATIKI,cPARAKLITIKI,cYPOKRISIS,dDIPLI",
   "1D00C cKREMASTI,cAPESO EKFONITIKON,cEXOa,cTELEIA,cKENTIMATA,cAPOSTROFOS,dDIPLI,cSYNEVMA",
   "1D014 cTHITA,cOLIGON ARCHAION,cGORGONa,cPSILON,cCHAMILON,cVATHY,cISON ARCHAION,cKENTIMAa",
   "1D01C cKENTIMATAa,cSAXIMATA,cPARICHON,cSTAVROS APODEXIA,cOXEIAI ARCHAION,cVAREIAIa,cAPODERMAa",
   "1D023 cAPOTHEMA,cKLASMA,cREVMA,cPIASMA ARCHAION,cTINAGMA,cANATRICHISMA,cSEISMA",
   "1D02A cSYNAGMA ARCHAION,dMETA STAVROU,cOYRANISMA ARCHAION,cTHEMA,cLEMOI,cDYO,cTRIA,cTESSERA",
   "1D032 cKRATIMATA,cAPESO EXO NEO,cFTHORA ARCHAION,cIMIFTHORA,cTROMIKON ARCHAION",
   "1D037 cKATAVA TROMIKON,cPELASTON,cPSIFISTON,cKONTEVMA,cCHOREVMA ARCHAION,cRAPISMA",
   "1D03D cPARAKALESMA ARCHAION,cPARAKLITIKIa,cICHADIN,cNANA,cPETASMA,cKONTEVMA ALLO,cTROMIKONa",
   "1D044 cSTRAGGISMATA,cGRONTHISMATA,cISON NEO,cOLIGONa,cOXEIAa,cPETASTI,cKOUFISMA",
   "1D04B cPETASTOKOUFISMA,cKRATIMOKOUFISMA,cPELASTON NEO,cKENTIMATA NEO ANO,cKENTIMAb,cYPSILI",
   "1D051 cAPOSTROFOS NEO,cAPOSTROFOI SYNDESMOSa,cYPORROI,cKRATIMOYPORROON,cELAFRON,cCHAMILI",
   "1D057 cMIKRON ISON,cVAREIA NEO,cPIASMAa,cPSIFISTONa,cOMALON,cANTIKENOMA,cLYGISMA",
   "1D05E cPARAKLITIKI NEO,cPARAKALESMAa,cETERON PARAKALESMA,cKYLISMA,cANTIKENOKYLISMA",
   "1D063 cTROMIKON NEO,cEKSTREPTON,cSYNAGMA NEO,cSYRMA,cCHOREVMA NEO,cEPEGERMA,cSEISMA NEO",
   "1D06A cXIRON KLASMA,cTROMIKOPSIFISTON,cPSIFISTOLYGISMA,cTROMIKOLYGISMA,cTROMIKOPARAKALESMA",
   "1D06F cPSIFISTOPARAKALESMA,cTROMIKOSYNAGMA,cPSIFISTOSYNAGMA,cGORGOSYNTHETON,cARGOSYNTHETON",
   "1D074 cETERONa,cOYRANISMA NEO,cTHEMATISMOS ESO,dEXO,cTHEMA APLOUN,cTHES KAI APOTHES",
   "1D07A cKATAVASMA,cENDOFONON,cYFEN KATO,dANO,cSTAVROS,cKLASMA ANO,cDIPLI ARCHAION,cKRATIMAa",
   "1D082 dALLO,dNEO,cAPODERMAa,cAPLI,cDIPLI,cTRIPLI,cTETRAPLI,cKORONIS,cLEIMMA ENOS CHRONOU",
   "1D08B dDYO CHRONON,dTRIONa,dTESSARONa,dIMISEOS CHRONOU,cGORGON NEO ANO",
   "1D090 dPARESTIGMENON ARISTERA,eDEXIA,cDIGORGON,dPARESTIGMENON ARISTERA KATO,fANO,eDEXIA",
   "1D096 cTRIGORGON,cARGON,cIMIDIARGON,cDIARGON,cAGOGI POLI ARGI,dARGOTERI,dARGI,dMETRIA,dMESI",
   "1D09F dGORGI,dGORGOTERI,dPOLI GORGI,cMARTYRIA PROTOS ICHOS,dALLIb,dDEYTEROSa,dALLIb,dTRITOSa",
   "1D0A7 dTRIFONIAS,dTETARTOS ICHOS,eLEGETOSa,dLEGETOSa,dPLAGIOSa,cISAKIA TELOUS ICHIMATOS",
   "1D0AD cAPOSTROFOIb,cFANEROSIS TETRAFONIAS,dMONOFONIAS,dDIFONIAS,cMARTYRIA VARYS ICHOS",
   "1D0B2 dPROTOVARYSa,dPLAGIOS TETARTOSa,cGORTHMIKON N APLOUN,eDIPLOUN,cENARXIS KAI FTHORA VOU",
   "1D0B7 cIMIFONON,cIMIFTHORON,cFTHORA ARCHAION DEYTEROU ICHOU,dDIATONIKI PA,eNANA,dNAOS ICHOS",
   "1D0BD dDIATONIKI DI,dSKLIRON DIATONONa,dDIATONIKI KE,eZO,eNI KATO,fANO",
   "1D0C3 dMALAKON CHROMA DIFONIAS,fMONOFONIAS,cFHTORA SKLIRON CHROMA VASIS",
   "1D0C6 cFTHORA SKLIRON CHROMA SYNAFI,dNENANO,cCHROA ZYGOS,dKLITON,dSPATHI",
   "1D0CB cFTHORA I YFESIS TETARTIMORION,dENARMONIOS ANTIFONIA,cYFESIS TRITIMORION,cDIESISa",
   "1D0CF dTETARTIMORION,dAPLI DYO DODEKATA,dMONOGRAMMOS TESSERAa,dDIGRAMMOS EXa",
   "1D0D3 dTRIGRAMMOS OKTOa,cYFESIS APLI DYOa,dMONOGRAMMOS TESSERAa,dDIGRAMMOS EXa",
   "1D0D7 dTRIGRAMMOS OKTOa,cGENIKI DIESIS,dYFESIS,cDIASTOLI APLI MIKRI,eMEGALI,dDIPLI,dTHESEOS",
   "1D0DE cSIMANSISa,eDISIMOU,eTRISIMOU,eTETRASIMOU,dARSEOS,eDISIMOU,eTRISIMOU,eTETRASIMOU",
   "1D0E6 cDIGRAMMA GG,cDIFTOGGOS OU,cSTIGMA,cARKTIKO PA,dVOU,dGA,dDI,dKE,dZO,dNI",
   "1D0F0 cKENTIMATA NEO MESO,cKENTIMAb,cKENTIMATA NEO KATO,cKENTIMAb,cKLASMAa,cGORGON NEOa",
   "1D100 MUSICAL SYMBOL SINGLE BARLINE,bDOUBLEa,bFINALa,bREVERSEb,bDASHEDa,bSHORTa",
   "1D106 bLEFT REPEAT SIGN,bRIGHTb,bREPEAT DOTS,bDAL SEGNO,bDA CAPO,bSEGNO,bCODA",
   "1D10D bREPEATED FIGURE-1,cFIGURE-2,cFIGURE-3,bFERMATA,cBELOW,bBREATH MARK,bCAESURA,bBRACE",
   "1D115 bBRACKET,bONE-LINE STAFF,bTWO-LINEa,bTHREE-LINEa,bFOUR-LINEa,bFIVE-LINEa,bSIX-LINEa",
   "1D11C bSIX-STRING FRETBOARD,bFOUR-STRINGa,bG CLEF,dOTTAVA ALTA,eBASSA,bC CLEF,bFa",
   "1D123 dOTTAVA ALTA,eBASSA,bDRUM CLEF-1,cCLEF-2,,,bMULTIPLE MEASURE REST,bDOUBLE SHARP,cFLAT",
   "1D12C bFLAT UP,cDOWN,bNATURAL UP,cDOWN,bSHARP UP,cDOWN,bQUARTER TONE SHARP,dFLAT,bCOMMON TIME",
   "1D135 bCUTa,bOTTAVA ALTA,cBASSA,bQUINDICESIMA ALTA,cBASSA,bMULTI REST,bWHOLEa,bHALFa",
   "1D13D bQUARTERa,bEIGHTHa,bSIXTEENTHa,bTHIRTY-SECONDa,bSIXTY-FOURTHa",
   "1D142 bONE HUNDRED TWENTY-EIGHTHa,bX NOTEHEAD,bPLUSa,bCIRCLE Xa,bSQUARE NOTEHEAD WHITE,dBLACK",
   "1D148 bTRIANGLE NOTEHEAD UP WHITE,eBLACK,dLEFT WHITE,eBLACK,dRIGHT WHITE,eBLACK,dDOWN WHITE",
   "1D14F eBLACK,dUP RIGHT WHITE,fBLACK,bMOON NOTEHEAD WHITE,dBLACK",
   "1D154 bTRIANGLE-ROUND NOTEHEAD DOWN WHITE,eBLACK,bPARENTHESIS NOTEHEAD,bVOIDa,bNOTEHEAD BLACK",
   "1D159 bNULL NOTEHEAD,bCLUSTER NOTEHEAD WHITE,dBLACK,bBREVE,bWHOLE NOTE,bHALFa,bQUARTERa",
   "1D160 bEIGHTHa,bSIXTEENTHa,bTHIRTY-SECONDa,bSIXTY-FOURTHa,bONE HUNDRED TWENTY-EIGHTHa",
   "1D165 bCOMBINING STEM,cSPRECHGESANGa,cTREMOLO-1,cTREMOLO-2,cTREMOLO-3,bFINGERED TREMOLO-1",
   "1D16B cTREMOLO-2,cTREMOLO-3,bCOMBINING AUGMENTATION DOT,cFLAG-1,cFLAG-2,cFLAG-3,cFLAG-4",
   "1D172 cFLAG-5,bBEGIN BEAM,bENDa,bBEGIN TIE,bENDa,bBEGIN SLUR,bENDa,bBEGIN PHRASE,bENDa",
   "1D17B bCOMBINING ACCENT,cSTACCATO,cTENUTO,cSTACCATISSIMO,cMARCATO,cMARCATO-STACCATO",
   "1D181 cACCENT-STACCATO,cLOURE,bARPEGGIATO UP,cDOWN,bCOMBINING DOIT,cRIP,cFLIP,cSMEAR,cBEND",
   "1D18A cDOUBLE TONGUE,cTRIPLEa,bRINFORZANDO,bSUBITO,bZ,bPIANO,bMEZZO,bFORTE,bCRESCENDO",
   "1D193 bDECRESCENDO,bGRACE NOTE SLASH,dNOa,bTR,bTURN,bINVERTEDa,bTURN SLASH,cUP",
   "1D19B bORNAMENT STROKE-1,cSTROKE-2,cSTROKE-3,cSTROKE-4,cSTROKE-5,cSTROKE-6,cSTROKE-7",
   "1D1A2 cSTROKE-8,cSTROKE-9,cSTROKE-10,cSTROKE-11,bHAUPTSTIMME,bNEBENSTIMME,bEND OF STIMME",
   "1D1A9 bDEGREE SLASH,bCOMBINING DOWN BOW,cUPa,cHARMONIC,cSNAP PIZZICATO,bPEDAL MARK,cUPa",
   "1D1B0 bHALF PEDALa,bGLISSANDO UP,cDOWN,bWITH FINGERNAILS,bDAMP,cALL,bMAXIMA,bLONGA,bBREVIS",
   "1D1B9 bSEMIBREVIS WHITE,cBLACK,bMINIMA,cBLACK,bSEMIMINIMA WHITE,cBLACK,bFUSA WHITE,cBLACK",
   "1D1C1 bLONGA PERFECTA REST,cIMPERFECTAa,bBREVISa,bSEMIBREVISa,bMINIMAa,bSEMIMINIMAa",
   "1D1C7 bTEMPUS PERFECTUM CUM PROLATIONE PERFECTA,fIMPERFECTA,fPERFECTA DIMINUTION-1",
   "1D1CA cIMPERFECTUM CUM PROLATIONE PERFECTA,fIMPERFECTA,gDIMINUTION-1,gDIMINUTION-2",
   "1D1CE gDIMINUTION-3,bCROIX,bGREGORIAN C CLEF,cFa,bSQUARE B,bVIRGA,bPODATUS,bCLIVIS,bSCANDICUS",
   "1D1D7 bCLIMACUS,bTORCULUS,bPORRECTUS,cFLEXUS,bSCANDICUSa,bTORCULUS RESUPINUS,bPES SUBPUNCTIS",
   "1D1DE bKIEVAN C CLEF,cEND OF PIECE,cFINAL NOTE,cRECITATIVE MARK,cWHOLE NOTE,cHALFa",
   "1D1E4 cQUARTER NOTE STEM DOWN,fUP,cEIGHTH NOTE STEM DOWN,fUP,cFLAT SIGN,bSORI,bKORON",
   "1D200 GREEK VOCAL NOTATION SYMBOL-1,cSYMBOL-2,cSYMBOL-3,cSYMBOL-4,cSYMBOL-5,cSYMBOL-6",
   "1D206 cSYMBOL-7,cSYMBOL-8,cSYMBOL-9,cSYMBOL-10,cSYMBOL-11,cSYMBOL-12,cSYMBOL-13,cSYMBOL-14",
   "1D20E cSYMBOL-15,cSYMBOL-16,cSYMBOL-17,cSYMBOL-18,cSYMBOL-19,cSYMBOL-20,cSYMBOL-21,cSYMBOL-22",
   "1D216 cSYMBOL-23,cSYMBOL-24,cSYMBOL-50,cSYMBOL-51,cSYMBOL-52,cSYMBOL-53,cSYMBOL-54",
   "1D21D aINSTRUMENTAL NOTATION SYMBOL-1,cSYMBOL-2,cSYMBOL-4,cSYMBOL-5,cSYMBOL-7,cSYMBOL-8",
   "1D223 cSYMBOL-11,cSYMBOL-12,cSYMBOL-13,cSYMBOL-14,cSYMBOL-17,cSYMBOL-18,cSYMBOL-19,cSYMBOL-23",
   "1D22B cSYMBOL-24,cSYMBOL-25,cSYMBOL-26,cSYMBOL-27,cSYMBOL-29,cSYMBOL-30,cSYMBOL-32,cSYMBOL-36",
   "1D233 cSYMBOL-37,cSYMBOL-38,cSYMBOL-39,cSYMBOL-40,cSYMBOL-42,cSYMBOL-43,cSYMBOL-45,cSYMBOL-47",
   "1D23B cSYMBOL-48,cSYMBOL-49,cSYMBOL-50,cSYMBOL-51,cSYMBOL-52,cSYMBOL-53,cSYMBOL-54",
   "1D242 COMBINING GREEK MUSICAL TRISEME,cTETRASEME,cPENTASEME,GREEK MUSICAL LEIMMA",
   "1D2E0 MAYAN NUMERAL ZERO,bONE,bTWO,bTHREE,bFOUR,bFIVE,bSIX,bSEVEN,bEIGHT,bNINE,bTEN,bELEVEN",
   "1D2EC bTWELVE,bTHIRTEEN,bFOURTEEN,bFIFTEEN,bSIXTEEN,bSEVENTEEN,bEIGHTEEN,bNINETEEN",
   "1D300 MONOGRAM FOR EARTH,DIGRAM FOR HEAVENLYa,bHUMANa,bEARTHLY HEAVEN,cHUMAN,bEARTH",
   "1D306 TETRAGRAM FOR CENTRE,bFULL CIRCLE,bMIRED,bBARRIER,bKEEPING SMALL,bCONTRARIETY,bASCENT",
   "1D30D bOPPOSITION,bBRANCHING OUT,bDEFECTIVENESS OR DISTORTION,bDIVERGENCE,bYOUTHFULNESS",
   "1D312 bINCREASE,bPENETRATION,bREACH,bCONTACT,bHOLDING BACK,bWAITING,bFOLLOWING,bADVANCE",
   "1D31A bRELEASE,bRESISTANCE,bEASE,bJOY,bCONTENTION,bENDEAVOUR,bDUTIES,bCHANGE,bDECISIVENESS",
   "1D323 bBOLD RESOLUTION,bPACKING,bLEGION,bCLOSENESS,bKINSHIP,bGATHERING,bSTRENGTH,bPURITY",
   "1D32B bFULLNESS,bRESIDENCE,bLAW OR MODEL,bRESPONSE,bGOING TO MEET,bENCOUNTERS,bSTOVE",
   "1D332 bGREATNESS,bENLARGEMENT,bPATTERN,bRITUAL,bFLIGHT,bVASTNESS OR WASTING,bCONSTANCY",
   "1D339 bMEASURE,bETERNITY,bUNITY,bDIMINISHMENT,bCLOSED MOUTH,bGUARDEDNESS,bGATHERING IN",
   "1D340 bMASSING,bACCUMULATION,bEMBELLISHMENT,bDOUBT,bWATCH,bSINKING,bINNER,bDEPARTURE",
   "1D348 bDARKENING,bDIMMING,bEXHAUSTION,bSEVERANCE,bSTOPPAGE,bHARDNESS,bCOMPLETION,bCLOSURE",
   "1D350 bFAILURE,bAGGRAVATION,bCOMPLIANCE,bON THE VERGE,bDIFFICULTIES,bLABOURING,bFOSTERING",
   "1D360 COUNTING ROD UNIT DIGIT ONE,dTWO,dTHREE,dFOUR,dFIVE,dSIX,dSEVEN,dEIGHT,dNINE",
   "1D369 bTENS DIGIT ONE,dTWO,dTHREE,dFOUR,dFIVE,dSIX,dSEVEN,dEIGHT,dNINE",
   "1D372 IDEOGRAPHIC TALLY MARK ONE,cTWO,cTHREE,cFOUR,cFIVE,TALLY MARK ONE,bFIVE",
   "1D400 MATHEMATICAL BOLD CAPITAL A,cB,cC,cD,cE,cF,cG,cH,cI,cJ,cK,cL,cM,cN,cO,cP,cQ,cR,cS,cT,cU",
   "1D415 cV,cW,cX,cY,cZ,bSMALL A,cB,cC,cD,cE,cF,cG,cH,cI,cJ,cK,cL,cM,cN,cO,cP,cQ,cR,cS,cT,cU,cV",
   "1D430 cW,cX,cY,cZ,aITALIC CAPITAL A,cB,cC,cD,cE,cF,cG,cH,cI,cJ,cK,cL,cM,cN,cO,cP,cQ,cR,cS,cT",
   "1D448 cU,cV,cW,cX,cY,cZ,bSMALL A,cB,cC,cD,cE,cF,cG,,cI,cJ,cK,cL,cM,cN,cO,cP,cQ,cR,cS,cT,cU,cV",
   "1D464 cW,cX,cY,cZ,aBOLD ITALIC CAPITAL A,dB,dC,dD,dE,dF,dG,dH,dI,dJ,dK,dL,dM,dN,dO,dP,dQ,dR",
   "1D47A dS,dT,dU,dV,dW,dX,dY,dZ,cSMALL A,dB,dC,dD,dE,dF,dG,dH,dI,dJ,dK,dL,dM,dN,dO,dP,dQ,dR,dS",
   "1D495 dT,dU,dV,dW,dX,dY,dZ,aSCRIPT CAPITAL A,,cC,cD,,,cG,,,cJ,cK,,,cN,cO,cP,cQ,,cS,cT,cU,cV",
   "1D4B2 cW,cX,cY,cZ,bSMALL A,cB,cC,cD,,cF,,cH,cI,cJ,cK,cL,cM,cN,,cP,cQ,cR,cS,cT,cU,cV,cW,cX,cY",
   "1D4CF cZ,aBOLD SCRIPT CAPITAL A,dB,dC,dD,dE,dF,dG,dH,dI,dJ,dK,dL,dM,dN,dO,dP,dQ,dR,dS,dT,dU",
   "1D4E5 dV,dW,dX,dY,dZ,cSMALL A,dB,dC,dD,dE,dF,dG,dH,dI,dJ,dK,dL,dM,dN,dO,dP,dQ,dR,dS,dT,dU,dV",
   "1D500 dW,dX,dY,dZ,aFRAKTUR CAPITAL A,cB,,cD,cE,cF,cG,,,cJ,cK,cL,cM,cN,cO,cP,cQ,,cS,cT,cU,cV",
   "1D51A cW,cX,cY,,bSMALL A,cB,cC,cD,cE,cF,cG,cH,cI,cJ,cK,cL,cM,cN,cO,cP,cQ,cR,cS,cT,cU,cV,cW,cX",
   "1D536 cY,cZ,aDOUBLE-STRUCK CAPITAL A,cB,,cD,cE,cF,cG,,cI,cJ,cK,cL,cM,,cO,,,,cS,cT,cU,cV,cW,cX",
   "1D550 cY,,bSMALL A,cB,cC,cD,cE,cF,cG,cH,cI,cJ,cK,cL,cM,cN,cO,cP,cQ,cR,cS,cT,cU,cV,cW,cX,cY,cZ",
   "1D56C aBOLD FRAKTUR CAPITAL A,dB,dC,dD,dE,dF,dG,dH,dI,dJ,dK,dL,dM,dN,dO,dP,dQ,dR,dS,dT,dU,dV",
   "1D582 dW,dX,dY,dZ,cSMALL A,dB,dC,dD,dE,dF,dG,dH,dI,dJ,dK,dL,dM,dN,dO,dP,dQ,dR,dS,dT,dU,dV,dW",
   "1D59D dX,dY,dZ,aSANS-SERIF CAPITAL A,cB,cC,cD,cE,cF,cG,cH,cI,cJ,cK,cL,cM,cN,cO,cP,cQ,cR,cS,cT",
   "1D5B4 cU,cV,cW,cX,cY,cZ,bSMALL A,cB,cC,cD,cE,cF,cG,cH,cI,cJ,cK,cL,cM,cN,cO,cP,cQ,cR,cS,cT,cU",
   "1D5CF cV,cW,cX,cY,cZ,bBOLD CAPITAL A,dB,dC,dD,dE,dF,dG,dH,dI,dJ,dK,dL,dM,dN,dO,dP,dQ,dR,dS,dT",
   "1D5E8 dU,dV,dW,dX,dY,dZ,cSMALL A,dB,dC,dD,dE,dF,dG,dH,dI,dJ,dK,dL,dM,dN,dO,dP,dQ,dR,dS,dT,dU",
   "1D603 dV,dW,dX,dY,dZ,bITALIC CAPITAL A,dB,dC,dD,dE,dF,dG,dH,dI,dJ,dK,dL,dM,dN,dO,dP,dQ,dR,dS",
   "1D61B dT,dU,dV,dW,dX,dY,dZ,cSMALL A,dB,dC,dD,dE,dF,dG,dH,dI,dJ,dK,dL,dM,dN,dO,dP,dQ,dR,dS,dT",
   "1D636 dU,dV,dW,dX,dY,dZ,bBOLD ITALIC CAPITAL A,eB,eC,eD,eE,eF,eG,eH,eI,eJ,eK,eL,eM,eN,eO,eP",
   "1D64C eQ,eR,eS,eT,eU,eV,eW,eX,eY,eZ,dSMALL A,eB,eC,eD,eE,eF,eG,eH,eI,eJ,eK,eL,eM,eN,eO,eP,eQ",
   "1D667 eR,eS,eT,eU,eV,eW,eX,eY,eZ,aMONOSPACE CAPITAL A,cB,cC,cD,cE,cF,cG,cH,cI,cJ,cK,cL,cM,cN",
   "1D67E cO,cP,cQ,cR,cS,cT,cU,cV,cW,cX,cY,cZ,bSMALL A,cB,cC,cD,cE,cF,cG,cH,cI,cJ,cK,cL,cM,cN,cO",
   "1D699 cP,cQ,cR,cS,cT,cU,cV,cW,cX,cY,cZ,aITALIC SMALL DOTLESS I,dJ,,,aBOLD CAPITAL ALPHA,cBETA",
   "1D6AA cGAMMA,cDELTA,cEPSILON,cZETA,cETA,cTHETA,cIOTA,cKAPPA,cLAMDA,cMU,cNU,cXI,cOMICRON,cPI",
   "1D6B8 cRHO,cTHETA SYMBOL,cSIGMA,cTAU,cUPSILON,cPHI,cCHI,cPSI,cOMEGA,bNABLA,bSMALL ALPHA,cBETA",
   "1D6C4 cGAMMA,cDELTA,cEPSILON,cZETA,cETA,cTHETA,cIOTA,cKAPPA,cLAMDA,cMU,cNU,cXI,cOMICRON,cPI",
   "1D6D2 cRHO,cFINAL SIGMA,cSIGMA,cTAU,cUPSILON,cPHI,cCHI,cPSI,cOMEGA,bPARTIAL DIFFERENTIAL",
   "1D6DC bEPSILON SYMBOL,bTHETAa,bKAPPAa,bPHIa,bRHOa,bPIa,aITALIC CAPITAL ALPHA,cBETA,cGAMMA",
   "1D6E5 cDELTA,cEPSILON,cZETA,cETA,cTHETA,cIOTA,cKAPPA,cLAMDA,cMU,cNU,cXI,cOMICRON,cPI,cRHO",
   "1D6F3 cTHETA SYMBOL,cSIGMA,cTAU,cUPSILON,cPHI,cCHI,cPSI,cOMEGA,bNABLA,bSMALL ALPHA,cBETA",
   "1D6FE cGAMMA,cDELTA,cEPSILON,cZETA,cETA,cTHETA,cIOTA,cKAPPA,cLAMDA,cMU,cNU,cXI,cOMICRON,cPI",
   "1D70C cRHO,cFINAL SIGMA,cSIGMA,cTAU,cUPSILON,cPHI,cCHI,cPSI,cOMEGA,bPARTIAL DIFFERENTIAL",
   "1D716 bEPSILON SYMBOL,bTHETAa,bKAPPAa,bPHIa,bRHOa,bPIa,aBOLD ITALIC CAPITAL ALPHA,dBETA",
   "1D71E dGAMMA,dDELTA,dEPSILON,dZETA,dETA,dTHETA,dIOTA,dKAPPA,dLAMDA,dMU,dNU,dXI,dOMICRON,dPI",
   "1D72C dRHO,dTHETA SYMBOL,dSIGMA,dTAU,dUPSILON,dPHI,dCHI,dPSI,dOMEGA,cNABLA,cSMALL ALPHA,dBETA",
   "1D738 dGAMMA,dDELTA,dEPSILON,dZETA,dETA,dTHETA,dIOTA,dKAPPA,dLAMDA,dMU,dNU,dXI,dOMICRON,dPI",
   "1D746 dRHO,dFINAL SIGMA,dSIGMA,dTAU,dUPSILON,dPHI,dCHI,dPSI,dOMEGA,cPARTIAL DIFFERENTIAL",
   "1D750 cEPSILON SYMBOL,cTHETAa,cKAPPAa,cPHIa,cRHOa,cPIa,aSANS-SERIF BOLD CAPITAL ALPHA,dBETA",
   "1D758 dGAMMA,dDELTA,dEPSILON,dZETA,dETA,dTHETA,dIOTA,dKAPPA,dLAMDA,dMU,dNU,dXI,dOMICRON,dPI",
   "1D766 dRHO,dTHETA SYMBOL,dSIGMA,dTAU,dUPSILON,dPHI,dCHI,dPSI,dOMEGA,cNABLA,cSMALL ALPHA,dBETA",
   "1D772 dGAMMA,dDELTA,dEPSILON,dZETA,dETA,dTHETA,dIOTA,dKAPPA,dLAMDA,dMU,dNU,dXI,dOMICRON,dPI",
   "1D780 dRHO,dFINAL SIGMA,dSIGMA,dTAU,dUPSILON,dPHI,dCHI,dPSI,dOMEGA,cPARTIAL DIFFERENTIAL",
   "1D78A cEPSILON SYMBOL,cTHETAa,cKAPPAa,cPHIa,cRHOa,cPIa,cITALIC CAPITAL ALPHA,eBETA,eGAMMA",
   "1D793 eDELTA,eEPSILON,eZETA,eETA,eTHETA,eIOTA,eKAPPA,eLAMDA,eMU,eNU,eXI,eOMICRON,ePI,eRHO",
   "1D7A1 eTHETA SYMBOL,eSIGMA,eTAU,eUPSILON,ePHI,eCHI,ePSI,eOMEGA,dNABLA,dSMALL ALPHA,eBETA",
   "1D7AC eGAMMA,eDELTA,eEPSILON,eZETA,eETA,eTHETA,eIOTA,eKAPPA,eLAMDA,eMU,eNU,eXI,eOMICRON,ePI",
   "1D7BA eRHO,eFINAL SIGMA,eSIGMA,eTAU,eUPSILON,ePHI,eCHI,ePSI,eOMEGA,dPARTIAL DIFFERENTIAL",
   "1D7C4 dEPSILON SYMBOL,dTHETAa,dKAPPAa,dPHIa,dRHOa,dPIa,aBOLD CAPITAL DIGAMMA,bSMALLa",
   "1D7CE bDIGIT ZERO,cONE,cTWO,cTHREE,cFOUR,cFIVE,cSIX,cSEVEN,cEIGHT,cNINE",
   "1D7D8 aDOUBLE-STRUCK DIGIT ZERO,cONE,cTWO,cTHREE,cFOUR,cFIVE,cSIX,cSEVEN,cEIGHT,cNINE",
   "1D7E2 aSANS-SERIF DIGIT ZERO,cONE,cTWO,cTHREE,cFOUR,cFIVE,cSIX,cSEVEN,cEIGHT,cNINE",
   "1D7EC bBOLD DIGIT ZERO,dONE,dTWO,dTHREE,dFOUR,dFIVE,dSIX,dSEVEN,dEIGHT,dNINE",
   "1D7F6 aMONOSPACE DIGIT ZERO,cONE,cTWO,cTHREE,cFOUR,cFIVE,cSIX,cSEVEN,cEIGHT,cNINE",
   "1D800 SIGNWRITING HAND-FIST INDEX,aHAND-CIRCLEa,aHAND-CUPa,aHAND-OVALa,aHAND-HINGEa",
   "1D805 aHAND-ANGLEa,aHAND-FIST INDEX BENT,aHAND-CIRCLEb,aHAND-FIST THUMB UNDERb",
   "1D809 bINDEX RAISED KNUCKLE,cCUPPED,cHINGED,dLOW,aHAND-CIRCLE INDEX HINGE",
   "1D80E aHAND-FIST INDEX MIDDLE,aHAND-CIRCLEb,aHAND-FIST INDEX MIDDLE BENT,dRAISED KNUCKLES",
   "1D812 dHINGED,cUPb,cHINGED MIDDLE UP,cMIDDLE CONJOINED,eINDEX BENT,eMIDDLEa,eCUPPED,eHINGED",
   "1D81A dCROSSED,aHAND-CIRCLEc,aHAND-FIST MIDDLE BENT OVER INDEX,bINDEX BENT OVER MIDDLE",
   "1D81E cMIDDLE THUMB,aHAND-CIRCLEc,aHAND-FIST INDEX MIDDLE STRAIGHT THUMB BENT",
   "1D821 dBENT THUMB STRAIGHT,dTHUMB BENT,dHINGED SPREAD THUMB SIDE,cUP MIDDLE HINGEDb",
   "1D825 gCONJOINED,cHINGED MIDDLE UP THUMB SIDE,cMIDDLE UP SPREAD THUMB FORWARD,dTHUMB CUPPED",
   "1D829 eCIRCLED,eHOOKED,eHINGED,bTHUMB BETWEEN INDEX MIDDLE STRAIGHT",
   "1D82D bINDEX MIDDLE CONJOINED THUMB SIDE,gCONJOINED,gBENT,bMIDDLE THUMB HOOKED INDEX UP",
   "1D831 bINDEX THUMB HOOKED MIDDLEa,cMIDDLE CONJOINED HINGED THUMB SIDE,dCROSSEDb",
   "1D834 dCONJOINED THUMB FORWARD,eCUPPEDb,bMIDDLE THUMB CUPPED INDEX UP",
   "1D837 bINDEX THUMB CUPPED MIDDLEa,bMIDDLE THUMB CIRCLED INDEXa,fHINGED",
   "1D83A bINDEX THUMB ANGLED OUT MIDDLE UP,eINb,dCIRCLEDb,cMIDDLE THUMB CONJOINED HINGED",
   "1D83E eANGLED OUT,eANGLED,bMIDDLE THUMB ANGLED OUT INDEX UP,gCROSSED,eINDEX UP",
   "1D843 bINDEX THUMB HOOKED MIDDLE HINGED,aHAND-FLAT FOUR FINGERS,dBENT,dHINGED,dCONJOINED",
   "1D848 eSPLIT,aHAND-CLAW FOUR FINGERS CONJOINED,aHAND-FIST FOUR FINGERS CONJOINED BENT",
   "1D84B aHAND-HINGE FOUR FINGERS CONJOINED,aHAND-FLAT FIVE FINGERS SPREAD,bHEELc",
   "1D84E bFIVE FINGERS SPREAD FOUR BENT,bHEELe,bFIVE FINGERS SPREADa,bHEELd",
   "1D852 bFIVE FINGERS SPREAD THUMB FORWARD,aHAND-CUP FIVE FINGERS SPREAD,eOPEN,aHAND-HINGEd",
   "1D856 aHAND-OVAL FIVE FINGERS SPREAD,aHAND-FLAT FIVE FINGERS SPREAD HINGED,fTHUMB SIDE",
   "1D859 fNO THUMB,aHAND-FLAT,bBETWEEN PALM FACINGS,bHEEL,bTHUMB SIDE,bHEELb,bTHUMB BENT",
   "1D860 cFORWARD,bSPLIT INDEX THUMB SIDE,cCENTRE,dTHUMB SIDE,fBENT,cLITTLE,aHAND-CLAW",
   "1D867 bTHUMB SIDE,bNO THUMB,bTHUMB FORWARD,aHAND-HOOK CURLICUE,aHAND-HOOK,aHAND-CUP OPEN",
   "1D86D aHAND-CUP,bOPEN THUMB SIDE,bTHUMBa,bOPEN NO THUMB,bNOa,bOPEN THUMB FORWARD,bTHUMBa",
   "1D874 aHAND-CURLICUE OPEN,aHAND-CURLICUE,aHAND-CIRCLE,aHAND-OVAL,bTHUMB SIDE,bNO THUMB",
   "1D87A bTHUMB FORWARD,aHAND-HINGE OPEN,cTHUMB FORWARD,aHAND-HINGE,bSMALL,bOPEN THUMB SIDE",
   "1D880 bTHUMBa,bOPEN NO THUMB,bNOa,bTHUMB SIDE TOUCHING INDEX,cBETWEEN MIDDLE RING,aHAND-ANGLE",
   "1D886 aHAND-FIST INDEX MIDDLE RING,aHAND-CIRCLEc,aHAND-HINGEc,aHAND-ANGLEc,aHAND-HINGE LITTLE",
   "1D88B aHAND-FIST INDEX MIDDLE RING BENT,eCONJOINED,aHAND-HINGEd,aHAND-FIST LITTLE DOWN",
   "1D88F dRIPPLE STRAIGHT,eCURVED,dOTHERS CIRCLED,cUP,bTHUMB UNDERb,aHAND-CIRCLEb,aHAND-OVALb",
   "1D896 aHAND-ANGLEb,aHAND-FIST LITTLE RAISED KNUCKLE,cBENT,cTOUCHES THUMB,cTHUMB,aHAND-HINGEb",
   "1D89C aHAND-FIST LITTLE INDEXa,aHAND-HINGEc,aHAND-ANGLE LITTLE INDEX THUMB INDEX THUMB OUT",
   "1D89F fTHUMB,aHAND-FIST LITTLE INDEX,aHAND-CIRCLEb,aHAND-HINGEb,aHAND-ANGLEb",
   "1D8A4 aHAND-FIST INDEX MIDDLE LITTLE,aHAND-CIRCLEc,aHAND-HINGEc,bRING",
   "1D8A8 aHAND-ANGLE INDEX MIDDLE LITTLE,aHAND-FIST INDEX MIDDLE CROSSa,aHAND-CIRCLEd",
   "1D8AB aHAND-FIST RING DOWN,aHAND-HINGE RING DOWN INDEX THUMB HOOK MIDDLE",
   "1D8AD aHAND-ANGLE RING DOWN MIDDLE THUMB INDEX CROSS,aHAND-FIST RING UP,cRAISED KNUCKLE",
   "1D8B0 cLITTLE,aHAND-CIRCLEb,aHAND-OVALb,aHAND-ANGLEb,aHAND-FIST RING MIDDLE,dCONJOINED",
   "1D8B6 dRAISED KNUCKLES,cINDEX,cTHUMB,aHAND-HOOKb,aHAND-FIST INDEX RING LITTLE,aHAND-CIRCLEc",
   "1D8BC aHAND-CURLICUE INDEX RING LITTLE ON,aHAND-HOOK INDEX RING LITTLE OUT,eIN,eUNDER",
   "1D8C0 aHAND-CUP INDEX RING LITTLE,aHAND-HINGEc,aHAND-ANGLE INDEX RING LITTLE OUT,dLITTLE",
   "1D8C4 aHAND-FIST MIDDLE DOWN,aHAND-HINGE MIDDLE,aHAND-FIST MIDDLE UP,aHAND-CIRCLEb",
   "1D8C8 aHAND-FIST MIDDLE RAISED KNUCKLE,cUP THUMB SIDE,aHAND-HOOK MIDDLE THUMB",
   "1D8CB aHAND-FIST MIDDLE THUMB LITTLE,cLITTLE,cRINGa,aHAND-CIRCLEc",
   "1D8CF aHAND-CURLICUE MIDDLE RING LITTLE ON,aHAND-CUP MIDDLE RING LITTLE,aHAND-HINGEc",
   "1D8D2 aHAND-ANGLE MIDDLE RING LITTLE OUT,eIN,dLITTLE,aHAND-CIRCLE MIDDLE RING LITTLE BENT",
   "1D8D6 aHAND-CLAW MIDDLE RING LITTLE CONJOINED,fSIDE",
   "1D8D8 aHAND-HOOK MIDDLE RING LITTLE CONJOINED OUT,fIN,eCONJOINED,aHAND-HINGE INDEX HINGED",
   "1D8DC aHAND-FIST INDEX THUMB SIDE,aHAND-HINGEc,aHAND-FIST INDEX THUMB SIDE THUMB DIAGONAL",
   "1D8DF fCONJOINED,fBENT,eINDEXa,eBOTHa,eINDEX HINGE,dFORWARD INDEX STRAIGHT,fBENT,dHOOK",
   "1D8E7 dCURLICUE,dCURVE THUMB INSIDE,aHAND-CLAWe,aHAND-FIST INDEX THUMB CURVE THUMB UNDER",
   "1D8EB dCIRCLE,aHAND-CUP INDEX THUMB,dOPEN,aHAND-HINGEc,dLARGE,cTHUMB,dSMALL",
   "1D8F2 aHAND-ANGLE INDEX THUMB OUT,dIN,cTHUMB,aHAND-FISTa,cHEEL,cSIDE DIAGONAL,dCONJOINED",
   "1D8F9 dBENT,cFORWARD,cBETWEEN INDEX MIDDLE,dMIDDLE RING,dRING LITTLE,cUNDER TWO FINGERS",
   "1D8FF cOVERb,cUNDER THREEa,dFOURa,cOVER FOUR RAISED KNUCKLES,aHAND-FIST,bHEEL,aTOUCH SINGLE",
   "1D906 bMULTIPLE,bBETWEEN,aGRASP SINGLE,bMULTIPLE,bBETWEEN,aSTRIKE SINGLE,bMULTIPLE,bBETWEEN",
   "1D90E aBRUSH SINGLE,bMULTIPLE,bBETWEEN,aRUB SINGLE,bMULTIPLE,bBETWEEN,aSURFACE SYMBOLS",
   "1D915 bBETWEEN,aSQUEEZE LARGE SINGLE,bSMALLa,bLARGE MULTIPLE,bSMALLa,bSEQUENTIAL",
   "1D91B aFLICK LARGE SINGLE,bSMALLa,bLARGE MULTIPLE,bSMALLa,bSEQUENTIAL",
   "1D920 aSQUEEZE FLICK ALTERNATING,aMOVEMENT-HINGE UP DOWN LARGE,dSMALL,cSEQUENTIAL,bDOWNa",
   "1D925 bUP DOWN ALTERNATING LARGE,eSMALL,bSIDE TO SIDE SCISSORS",
   "1D928 aMOVEMENT-WALLPLANE FINGER CONTACT,aMOVEMENT-FLOORPLANEb",
   "1D92A aMOVEMENT-WALLPLANE SINGLE STRAIGHT SMALL,dMEDIUM,dLARGE,dLARGEST,cWRIST FLEX",
   "1D92F bDOUBLE STRAIGHT,cWRIST FLEX,cALTERNATING,dWRIST FLEX,bCROSS,bTRIPLE STRAIGHT MOVEMENT",
   "1D935 cWRIST FLEX,cALTERNATING,dWRIST FLEX,bBEND SMALL,cMEDIUM,cLARGE,bCORNER SMALL,cMEDIUM",
   "1D93D cLARGE,cROTATION,bCHECK SMALL,cMEDIUM,cLARGE,bBOX SMALL,cMEDIUM,cLARGE,bZIGZAG SMALL",
   "1D946 cMEDIUM,cLARGE,bPEAKS SMALL,cMEDIUM,cLARGE,aTRAVEL-WALLPLANE ROTATION-WALLPLANE SINGLE",
   "1D94C cDOUBLE,cALTERNATING,bROTATION-FLOORPLANE SINGLE,cDOUBLE,cALTERNATING,bSHAKING",
   "1D952 bARM SPIRAL SINGLE,dDOUBLE,dTRIPLE,aMOVEMENT-DIAGONAL AWAY SMALL,cMEDIUM,cLARGE",
   "1D958 cLARGEST,bTOWARDS SMALL,cMEDIUM,cLARGE,cLARGEST,bBETWEEN AWAY SMALL,dMEDIUM,dLARGE",
   "1D960 dLARGEST,cTOWARDS SMALL,dMEDIUM,dLARGE,dLARGEST",
   "1D965 aMOVEMENT-FLOORPLANE SINGLE STRAIGHT SMALL,dMEDIUM,dLARGE,dLARGEST,cWRIST FLEX",
   "1D96A bDOUBLE STRAIGHT,cWRIST FLEX,cALTERNATING,dWRIST FLEX,bCROSS,bTRIPLE STRAIGHT MOVEMENT",
   "1D970 cWRIST FLEX,cALTERNATING MOVEMENT,dWRIST FLEX,bBEND,bCORNER SMALL,cMEDIUM,cLARGE,bCHECK",
   "1D978 bBOX SMALL,cMEDIUM,cLARGE,bZIGZAG SMALL,cMEDIUM,cLARGE,bPEAKS SMALL,cMEDIUM,cLARGE",
   "1D981 aTRAVEL-FLOORPLANE ROTATION-FLOORPLANE SINGLE,cDOUBLE,cALTERNATING",
   "1D984 bROTATION-WALLPLANE SINGLE,cDOUBLE,cALTERNATING,bSHAKING",
   "1D988 aMOVEMENT-WALLPLANE CURVE QUARTER SMALL,dMEDIUM,dLARGE,dLARGEST,cHALF-CIRCLE SMALL",
   "1D98D dMEDIUM,dLARGE,dLARGEST,cTHREE-QUARTER CIRCLE SMALL,eMEDIUM,bHUMP SMALL,cMEDIUM,cLARGE",
   "1D995 bLOOP SMALL,cMEDIUM,cLARGE,cSMALL DOUBLE,bWAVE CURVE DOUBLE SMALL,eMEDIUM,eLARGE",
   "1D99C dTRIPLE SMALL,eMEDIUM,eLARGE,bCURVE THEN STRAIGHT,bCURVED CROSS SMALL,dMEDIUM",
   "1D9A2 aROTATION-WALLPLANE SINGLE,bDOUBLE,bALTERNATE,aMOVEMENT-WALLPLANE SHAKING",
   "1D9A6 bCURVE HITTING FRONT WALL,bHUMPc,bLOOPc,bWAVEc,aROTATION-WALLPLANE SINGLEc,bDOUBLEc",
   "1D9AC bALTERNATINGc,aMOVEMENT-WALLPLANE CURVE HITTING CHEST,bHUMPb,bLOOPb,bWAVEb",
   "1D9B1 aROTATION-WALLPLANE SINGLEb,bDOUBLEb,bALTERNATINGb",
   "1D9B4 aMOVEMENT-WALLPLANE WAVE DIAGONAL PATH SMALL,eMEDIUM,eLARGE",
   "1D9B7 aMOVEMENT-FLOORPLANE CURVE HITTING CEILING SMALL,eLARGE",
   "1D9B9 bHUMP HITTING CEILING SMALL DOUBLE,eLARGEa,eSMALL TRIPLE,eLARGEa",
   "1D9BD bLOOP HITTING CEILING SMALL SINGLE,eLARGEa,eSMALL DOUBLE,eLARGEa",
   "1D9C1 bWAVE HITTING CEILING SMALL,eLARGE,aROTATION-FLOORPLANE SINGLE HITTING CEILING,bDOUBLEb",
   "1D9C5 bALTERNATINGb,aMOVEMENT-FLOORPLANE CURVE HITTING FLOOR SMALL,eLARGE",
   "1D9C8 bHUMP HITTING FLOOR SMALL DOUBLE,eLARGEa,eTRIPLE SMALL TRIPLE,fLARGEa",
   "1D9CC bLOOP HITTING FLOOR SMALL SINGLE,eLARGEa,eSMALL DOUBLE,eLARGEa",
   "1D9D0 bWAVE HITTING FLOOR SMALL,eLARGE,aROTATION-FLOORPLANE SINGLE HITTING FLOOR,bDOUBLEb",
   "1D9D4 bALTERNATINGb,aMOVEMENT-FLOORPLANE CURVE SMALL,cMEDIUM,cLARGE,cLARGEST,cCOMBINED",
   "1D9DA bHUMP SMALL,bLOOPa,bWAVE SNAKE,cSMALL,cLARGE,aROTATION-FLOORPLANE SINGLE,bDOUBLE",
   "1D9E1 bALTERNATING,aMOVEMENT-FLOORPLANE SHAKING PARALLEL",
   "1D9E3 aMOVEMENT-WALLPLANE ARM CIRCLE SMALL SINGLE,dMEDIUMa,dSMALL DOUBLE,dMEDIUMa",
   "1D9E7 aMOVEMENT-FLOORPLANE ARM CIRCLE HITTING WALL SMALL SINGLE,fMEDIUMa,fLARGEa",
   "1D9EA fSMALL DOUBLE,fMEDIUMa,fLARGEa,aMOVEMENT-WALLPLANE WRIST CIRCLE FRONT SINGLE,eDOUBLE",
   "1D9EF aMOVEMENT-FLOORPLANE WRIST CIRCLE HITTING WALL SINGLE,fDOUBLE",
   "1D9F1 aMOVEMENT-WALLPLANE FINGER CIRCLES SINGLE,dDOUBLE",
   "1D9F3 aMOVEMENT-FLOORPLANE FINGER CIRCLES HITTING WALL SINGLE,fDOUBLE",
   "1D9F5 aDYNAMIC ARROWHEAD SMALL,cLARGE,bFAST,bSLOW,bTENSE,bRELAXED,bSIMULTANEOUS,cALTERNATING",
   "1D9FD bEVERY OTHER TIME,bGRADUAL,aHEAD,bRIM,bMOVEMENT-WALLPLANE STRAIGHT,cTILT",
   "1DA03 bMOVEMENT-FLOORPLANE STRAIGHT,bMOVEMENT-WALLPLANE CURVE,bMOVEMENT-FLOORPLANEa",
   "1DA06 bMOVEMENT CIRCLE,aFACE DIRECTION POSITION NOSE FORWARD TILTING,eUP OR DOWN,hTILTING",
   "1DA0A aEYEBROWS STRAIGHT UP,cNEUTRAL,cDOWN,aDREAMY EYEBROWS NEUTRALa,cDOWN NEUTRAL,cUPa",
   "1DA10 cNEUTRAL UP,aFOREHEAD NEUTRAL,bCONTACT,bWRINKLED,aEYES OPEN,bSQUEEZED,bCLOSED",
   "1DA17 aEYE BLINK SINGLE,cMULTIPLE,aEYES HALF OPEN,bWIDEa,bHALF CLOSED,bWIDENING MOVEMENT",
   "1DA1D aEYE WINK,aEYELASHES UP,bDOWN,bFLUTTERING,aEYEGAZE-WALLPLANE STRAIGHT,cDOUBLE",
   "1DA23 cALTERNATING,aEYEGAZE-FLOORPLANE STRAIGHT,cDOUBLE,cALTERNATING",
   "1DA27 aEYEGAZE-WALLPLANE CURVED,aEYEGAZE-FLOORPLANEa,aEYEGAZE-WALLPLANE CIRCLING",
   "1DA2A aCHEEKS PUFFED,bNEUTRAL,bSUCKED,aTENSE CHEEKS HIGH,cMIDDLE,cLOW,aEARS,aNOSE NEUTRAL",
   "1DA32 bCONTACT,bWRINKLES,bWIGGLES,aAIR BLOWING OUT,bSUCKING IN,bBLOW SMALL ROTATIONS,bSUCKb",
   "1DA39 aBREATH INHALE,bEXHALE,aMOUTH CLOSED NEUTRAL,cFORWARD,cCONTACT,bSMILE,cWRINKLED,cOPEN",
   "1DA41 bFROWN,cWRINKLED,cOPEN,bOPEN CIRCLE,cFORWARD,cWRINKLED,cOVAL,dWRINKLED,dYAWN,cRECTANGLE",
   "1DA4B dWRINKLED,dYAWN,bKISS,cFORWARD,cWRINKLED,bTENSE,cFORWARD,cSUCKED,aLIPS PRESSED TOGETHER",
   "1DA54 aLIP LOWER OVER UPPER,bUPPER OVER LOWER,aMOUTH CORNERS,bWRINKLES SINGLE,cDOUBLE",
   "1DA59 aTONGUE STICKING OUT FAR,bLICKING LIPS,bTIP BETWEENa,cTOUCHING INSIDE MOUTH",
   "1DA5D bINSIDE MOUTH RELAXED,bMOVES AGAINST CHEEK,bCENTRE STICKING OUT,cINSIDE MOUTH,aTEETH",
   "1DA62 bMOVEMENT,bON TONGUE,dMOVEMENT,cLIPS,dMOVEMENT,bBITE LIPS,aMOVEMENT-WALLPLANE JAW",
   "1DA69 aMOVEMENT-FLOORPLANEa,aNECK,aHAIR,aEXCITEMENT,aSHOULDER HIP SPINE,cPOSITIONS",
   "1DA6F aWALLPLANE SHOULDER HIP MOVE,aFLOORPLANEc,aSHOULDER TILTING FROM WAIST",
   "1DA72 aTORSO-WALLPLANE STRAIGHT STRETCH,bCURVED BEND,aTORSO-FLOORPLANE TWISTING",
   "1DA75 aUPPER BODY TILTING FROM HIP JOINTS,aLIMB COMBINATION,bLENGTH-1,bLENGTH-2,bLENGTH-3",
   "1DA7A bLENGTH-4,bLENGTH-5,bLENGTH-6,bLENGTH-7,aFINGER,aLOCATION-WALLPLANE SPACE",
   "1DA80 aLOCATION-FLOORPLANEa,aLOCATION HEIGHT,bWIDTH,bDEPTH,bHEAD NECK,bTORSO,bLIMBS DIGITS",
   "1DA87 aCOMMA,aFULL STOP,aSEMICOLON,aCOLON,aPARENTHESIS",
   "1DA9B aFILL MODIFIER-2,bMODIFIER-3,bMODIFIER-4,bMODIFIER-5,bMODIFIER-6,,aROTATION MODIFIER-2",
   "1DAA2 bMODIFIER-3,bMODIFIER-4,bMODIFIER-5,bMODIFIER-6,bMODIFIER-7,bMODIFIER-8,bMODIFIER-9",
   "1DAA9 bMODIFIER-10,bMODIFIER-11,bMODIFIER-12,bMODIFIER-13,bMODIFIER-14,bMODIFIER-15",
   "1DAAF bMODIFIER-16",
   "1DF00 LATIN SMALL LETTER FENG DIGRAPH WITH TRILL,cREVERSED SCRIPT G",
   "1DF02 aLETTER SMALL CAPITAL TURNEDa,aSMALL LETTER REVERSED K",
   "1DF04 aLETTER SMALL CAPITAL L WITH BELT,aSMALL LETTER LEZH WITH RETROFLEX HOOK",
   "1DF06 cTURNED Y WITH BELT,cREVERSED ENG,cTURNED R WITH LONG LEG AND RETROFLEX HOOK",
   "1DF09 cT WITH HOOKc,aLETTER RETROFLEX CLICK WITHb,aSMALL LETTER ESH WITH DOUBLE BAR,gAND CURL",
   "1DF0D cTURNED T WITHa,aLETTER INVERTED GLOTTAL STOPb,bSTRETCHED Cb,bSMALL CAPITAL TURNED K",
   "1DF11 aSMALL LETTER L WITH FISHHOOK,cDEZH DIGRAPH WITH PALATAL HOOK,cL WITH BELT ANDb",
   "1DF14 cENG WITHb,cTURNED Rc,cR WITH FISHHOOK ANDb,cTESH DIGRAPH WITHb,cEZHc",
   "1DF19 cDEZH DIGRAPH WITH RETROFLEXa,cI WITH STROKE ANDb,cO WITHb,cTESH DIGRAPHc,cCc",
   "1DF1E cS WITH CURL",
   "1E000 COMBINING GLAGOLITIC LETTER AZU,cBUKY,cVEDE,cGLAGOLI,cDOBRO,cYESTU,cZHIVETE,,cZEMLJA",
   "1E009 cIZHE,cINITIALa,cI,cDJERVI,cKAKO,cLJUDIJE,cMYSLITE,cNASHI,cONU,cPOKOJI,cRITSI,cSLOVO",
   "1E015 cTVRIDO,cUKU,cFRITU,cHERU,,,cSHTA,cTSI,cCHRIVI,cSHA,cYERU,cYERI,cYATI,,cYU,cSMALL YUS",
   "1E026 cYO,cIOTATED SMALL YUS,cBIGa,cIOTATEDb,cFITA",
   "1E100 NYIAKENG PUACHUE HMONG LETTER MA,dTSA,dNTA,dTA,dHA,dNA,dXA,dNKA,dCA,dLA,dSA,dZA,dNCA",
   "1E10D dNTSA,dKA,dDA,dNYA,dNRA,dVA,dNTXA,dTXA,dFA,dRA,dQA,dYA,dNQA,dPA,dXYA,dNPA,dDLA,dNPLA",
   "1E11F dHAH,dMLA,dPLA,dGA,dRRA,dA,dAA,dI,dU,dO,dOO,dE,dEE,dW,,,,cTONE-B,cTONE-M,cTONE-J",
   "1E133 cTONE-V,cTONE-S,cTONE-G,cTONE-D,cSIGN FOR PERSON,eTHING,eLOCATION,eANIMAL,eINVERTEBRATE",
   "1E13C dXW XW,cSYLLABLE LENGTHENER,,,cDIGIT ZERO,dONE,dTWO,dTHREE,dFOUR,dFIVE,dSIX,dSEVEN",
   "1E148 dEIGHT,dNINE,,,,,cLOGOGRAM NYAJ,cCIRCLED CA",
   "1E290 TOTO LETTER PA,bBA,bTA,bDA,bKA,bGA,bMA,bNA,bNGA,bSA,bCHA,bYA,bWA,bJA,bHA,bRA,bLA,bI",
   "1E2A2 bBREATHYa,bIU,bBREATHYa,bU,bE,bBREATHYa,bEO,bBREATHYa,bO,bAE,bBREATHYa,bA",
   "1E2AE aSIGN RISING TONE",
   "1E2C0 WANCHO LETTER AA,bA,bBA,bCA,bDA,bGA,bYA,bPHA,bLA,bNA,bPA,bTA,bTHA,bFA,bSA,bSHA,bJA,bZA",
   "1E2D2 bWA,bVA,bKA,bO,bAU,bRA,bMA,bKHA,bHA,bE,bI,bNGA,bU,bLLHA,bTSA,bTRA,bONG,bAANG,bANG,bING",
   "1E2E6 bON,bEN,bAAN,bNYA,bUEN,bYIH,aTONE TUP,bTUPNI,bKOI,bKOINI,aDIGIT ZERO,bONE,bTWO,bTHREE",
   "1E2F4 bFOUR,bFIVE,bSIX,bSEVEN,bEIGHT,bNINE,,,,,,aNGUN SIGN",
   "1E7E0 ETHIOPIC SYLLABLE HHYA,bHHYU,bHHYI,bHHYAA,bHHYEE,bHHYE,bHHYO,,bGURAGE HHWA,bHHWI,bHHWEE",
   "1E7EB bHHWE,,bGURAGE MWI,cMWEE,,cQWI,cQWEE,cQWE,cBWI,cBWEE,cKWI,cKWEE,cKWE,cGWI,cGWEE,cGWE",
   "1E7FB cFWI,cFWEE,cPWI,cPWEE,,MENDE KIKAKUI SYLLABLE M001 KI,cM002 KA,cM003 KU,cM065 KEE",
   "1E804 cM095 KE,cM076 KOO,cM048 KO,cM179 KUA,cM004 WI,cM005 WA,cM006 WU,cM126 WEE,cM118 WE",
   "1E80D cM114 WOO,cM045 WO,cM194 WUI,cM143 WEI,cM061 WVI,cM049 WVA,cM139 WVE,cM007 MIN",
   "1E815 cM008 MAN,cM009 MUN,cM059 MEN,cM094 MON,cM154 MUAN,cM189 MUEN,cM010 BI,cM011 BA",
   "1E81D cM012 BU,cM150 BEE,cM097 BE,cM103 BOO,cM138 BO,cM013 I,cM014 A,cM015 U,cM163 EE,cM100 E",
   "1E827 cM165 OO,cM147 O,cM137 EI,cM131 IN,cM135a,cM195 AN,cM178 EN,cM019 SI,cM020 SA,cM021 SU",
   "1E831 cM162 SEE,cM116 SE,cM136 SOO,cM079 SO,cM196 SIA,cM025 LI,cM026 LA,cM027 LU,cM084 LEE",
   "1E83A cM073 LE,cM054 LOO,cM153 LO,cM110 LONG LE,cM016 DI,cM017 DA,cM018 DU,cM089 DEE",
   "1E842 cM180 DOO,cM181 DO,cM022 TI,cM023 TA,cM024 TU,cM091 TEE,cM055 TE,cM104 TOO,cM069 TO",
   "1E84B cM028 JI,cM029 JA,cM030 JU,cM157 JEE,cM113 JE,cM160 JOO,cM063 JO,cM175 LONGa,cM031 YI",
   "1E854 cM032 YA,cM033 YU,cM109 YEE,cM080 YE,cM141 YOO,cM121 YO,cM034 FI,cM035 FA,cM036 FU",
   "1E85D cM078 FEE,cM075 FE,cM133 FOO,cM088 FO,cM197 FUA,cM101 FAN,cM037 NIN,cM038 NAN,cM039 NUN",
   "1E866 cM117 NEN,cM169 NON,cM176 HI,cM041 HA,cM186 HU,cM040 HEE,cM096 HE,cM042 HOO,cM140 HO",
   "1E86F cM083 HEEI,cM128 HOOU,cM053 HIN,cM130 HAN,cM087 HUN,cM052 HEN,cM193 HON,cM046 HUAN",
   "1E877 cM090 NGGI,cM043 NGGA,cM082 NGGU,cM115 NGGEE,cM146 NGGE,cM156 NGGOO,cM120 NGGO",
   "1E87E cM159 NGGAA,cM127 NGGUA,cM086 LONG NGGE,cM106 LONG NGGOO,cM183 LONG NGGO,cM155 GI",
   "1E884 cM111 GA,cM168 GU,cM190 GEE,cM166 GUEI,cM167 GUAN,cM184 NGEN,cM057 NGON,cM177 NGUAN",
   "1E88C cM068 PI,cM099 PA,cM050 PU,cM081 PEE,cM051 PE,cM102 POO,cM066 PO,cM145 MBI,cM062 MBA",
   "1E895 cM122 MBU,cM047 MBEE,cM188a,cM072 MBE,cM172 MBOO,cM174 MBO,cM187 MBUU,cM161 LONG MBE",
   "1E89D cM105 LONG MBOO,cM142 LONG MBO,cM132 KPI,cM092 KPA,cM074 KPU,cM044 KPEE,cM108 KPE",
   "1E8A4 cM112 KPOO,cM158 KPO,cM124 GBI,cM056 GBA,cM148 GBU,cM093 GBEE,cM107 GBE,cM071 GBOO",
   "1E8AC cM070 GBO,cM171 RA,cM123 NDI,cM129 NDA,cM125 NDU,cM191 NDEE,cM119 NDE,cM067 NDOO",
   "1E8B4 cM064 NDO,cM152 NJA,cM192 NJU,cM149 NJEE,cM134 NJOO,cM182 VI,cM185 VA,cM151 VU",
   "1E8BC cM173 VEE,cM085 VE,cM144 VOO,cM077 VO,cM164 NYIN,cM058 NYAN,cM170 NYUN,cM098 NYEN",
   "1E8C4 cM060 NYON,,,bDIGIT ONE,cTWO,cTHREE,cFOUR,cFIVE,cSIX,cSEVEN,cEIGHT,cNINE",
   "1E8D0 bCOMBINING NUMBER TEENS,dTENS,dHUNDREDS,dTHOUSANDS,dTENa,dHUNDREDa,dMILLIONS",
   "1E900 ADLAM CAPITAL LETTER ALIF,cDAALI,cLAAM,cMIIM,cBA,cSINNYIIYHE,cPE,cBHE,cRA,cE,cFA,cI,cO",
   "1E90D cDHA,cYHE,cWAW,cNUN,cKAF,cYA,cU,cJIIM,cCHI,cHA,cQAAF,cGA,cNYA,cTU,cNHA,cVA,cKHA,cGBE",
   "1E91F cZAL,cKPO,cSHA,aSMALL LETTER ALIF,cDAALI,cLAAM,cMIIM,cBA,cSINNYIIYHE,cPE,cBHE,cRA,cE",
   "1E92C cFA,cI,cO,cDHA,cYHE,cWAW,cNUN,cKAF,cYA,cU,cJIIM,cCHI,cHA,cQAAF,cGA,cNYA,cTU,cNHA,cVA",
   "1E93F cKHA,cGBE,cZAL,cKPO,cSHA,aALIF LENGTHENER,aVOWELa,aGEMINATION MARK,aHAMZA",
   "1E948 aCONSONANT MODIFIER,aGEMINATEb,aNUKTA,aNASALIZATION MARK,,,,,aDIGIT ZERO,bONE,bTWO",
   "1E953 bTHREE,bFOUR,bFIVE,bSIX,bSEVEN,bEIGHT,bNINE,,,,,aINITIAL EXCLAMATION MARK,bQUESTIONa",
   "1EC71 INDIC SIYAQ NUMBER ONE,cTWO,cTHREE,cFOUR,cFIVE,cSIX,cSEVEN,cEIGHT,cNINE,cTEN,cTWENTY",
   "1EC7C cTHIRTY,cFORTY,cFIFTY,cSIXTY,cSEVENTY,cEIGHTY,cNINETY,cONE HUNDRED,cTWOa,cTHREEa,cFOURa",
   "1EC87 cFIVEa,cSIXa,cSEVENa,cEIGHTa,cNINEa,cONE THOUSAND,cTWOa,cTHREEa,cFOURa,cFIVEa,cSIXa",
   "1EC92 cSEVENa,cEIGHTa,cNINEa,cTENa,cTWENTYa,cTHIRTYa,cFORTYa,cFIFTYa,cSIXTYa,cSEVENTYa",
   "1EC9C cEIGHTYa,cNINETYa,cLAKH,cLAKHAN,bLAKH MARK,bNUMBER KAROR,cKARORAN,cPREFIXED ONE,dTWO",
   "1ECA5 dTHREE,dFOUR,dFIVE,dSIX,dSEVEN,dEIGHT,dNINE,bPLACEHOLDER,bFRACTION ONE QUARTER,dHALF",
   "1ECAF cTHREE QUARTERS,bRUPEE MARK,bNUMBER ALTERNATE ONE,dTWO,dTEN THOUSAND",
   "1ECB4 bALTERNATE LAKH MARK",
   "1ED01 OTTOMAN SIYAQ NUMBER ONE,cTWO,cTHREE,cFOUR,cFIVE,cSIX,cSEVEN,cEIGHT,cNINE,cTEN,cTWENTY",
   "1ED0C cTHIRTY,cFORTY,cFIFTY,cSIXTY,cSEVENTY,cEIGHTY,cNINETY,cONE HUNDRED,cTWOa,cTHREEa,cFOURa",
   "1ED17 cFIVEa,cSIXa,cSEVENa,cEIGHTa,cNINEa,cONE THOUSAND,cTWOa,cTHREEa,cFOURa,cFIVEa,cSIXa",
   "1ED22 cSEVENa,cEIGHTa,cNINEa,cTENa,cTWENTYa,cTHIRTYa,cFORTYa,cFIFTYa,cSIXTYa,cSEVENTYa",
   "1ED2C cEIGHTYa,cNINETYa,bMARRATAN,bALTERNATE NUMBER TWO,dTHREE,dFOUR,dFIVE,dSIX,dSEVEN,dEIGHT",
   "1ED36 dNINE,dTEN,dFOUR HUNDRED,dSIXa,dTWO THOUSAND,dTENa,bFRACTION ONE HALF,dSIXTH",
   "1EE00 ARABIC MATHEMATICAL ALEF,bBEH,bJEEM,bDAL,,bWAW,bZAIN,bHAH,bTAH,bYEH,bKAF,bLAM,bMEEM",
   "1EE0D bNOON,bSEEN,bAIN,bFEH,bSAD,bQAF,bREH,bSHEEN,bTEH,bTHEH,bKHAH,bTHAL,bDAD,bZAH,bGHAIN",
   "1EE1C bDOTLESS BEH,cNOON,cFEH,cQAF,,bINITIAL BEH,cJEEM,,cHEH,,,cHAH,,cYEH,cKAF,cLAM,cMEEM",
   "1EE2D cNOON,cSEEN,cAIN,cFEH,cSAD,cQAF,,cSHEEN,cTEH,cTHEH,cKHAH,,cDAD,,cGHAIN",
   "1EE42 bTAILED JEEM,,,,,cHAH,,cYEH,,cLAM,,cNOON,cSEEN,cAIN,,cSAD,cQAF,,cSHEEN,,,cKHAH,,cDAD",
   "1EE5B cGHAIN,,cDOTLESS NOON,,dQAF,,bSTRETCHED BEH,cJEEM,,cHEH,,,cHAH,cTAH,cYEH,cKAF,,cMEEM",
   "1EE6D cNOON,cSEEN,cAIN,cFEH,cSAD,cQAF,,cSHEEN,cTEH,cTHEH,cKHAH,,cDAD,cZAH,cGHAIN,cDOTLESS BEH",
   "1EE7E dFEH,,bLOOPED ALEF,cBEH,cJEEM,cDAL,cHEH,cWAW,cZAIN,cHAH,cTAH,cYEH,,cLAM,cMEEM,cNOON",
   "1EE8E cSEEN,cAIN,cFEH,cSAD,cQAF,cREH,cSHEEN,cTEH,cTHEH,cKHAH,cTHAL,cDAD,cZAH,cGHAIN",
   "1EEA1 bDOUBLE-STRUCK BEH,cJEEM,cDAL,,cWAW,cZAIN,cHAH,cTAH,cYEH,,cLAM,cMEEM,cNOON,cSEEN,cAIN",
   "1EEB0 cFEH,cSAD,cQAF,cREH,cSHEEN,cTEH,cTHEH,cKHAH,cTHAL,cDAD,cZAH,cGHAIN",
   "1EEF0 bOPERATOR MEEM WITH HAH WITH TATWEEL,cHAH WITH DAL"]

def namesFrom1F000 : List String :=
  ["1F000 MAHJONG TILE EAST WIND,bSOUTHa,bWESTa,bNORTHa,bRED DRAGON,bGREENa,bWHITEa",
   "1F007 bONE OF CHARACTERS,bTWOb,bTHREEb,bFOURb,bFIVEb,bSIXb,bSEVENb,bEIGHTb,bNINEb",
   "1F010 bONE OF BAMBOOS,bTWOb,bTHREEb,bFOURb,bFIVEb,bSIXb,bSEVENb,bEIGHTb,bNINEb",
   "1F019 bONE OF CIRCLES,bTWOb,bTHREEb,bFOURb,bFIVEb,bSIXb,bSEVENb,bEIGHTb,bNINEb,bPLUM,bORCHID",
   "1F024 bBAMBOO,bCHRYSANTHEMUM,bSPRING,bSUMMER,bAUTUMN,bWINTER,bJOKER,bBACK",
   "1F030 DOMINO TILE HORIZONTALa,bHORIZONTAL-00-00,bHORIZONTAL-00-01,bHORIZONTAL-00-02",
   "1F034 bHORIZONTAL-00-03,bHORIZONTAL-00-04,bHORIZONTAL-00-05,bHORIZONTAL-00-06",
   "1F038 bHORIZONTAL-01-00,bHORIZONTAL-01-01,bHORIZONTAL-01-02,bHORIZONTAL-01-03",
   "1F03C bHORIZONTAL-01-04,bHORIZONTAL-01-05,bHORIZONTAL-01-06,bHORIZONTAL-02-00",
   "1F040 bHORIZONTAL-02-01,bHORIZONTAL-02-02,bHORIZONTAL-02-03,bHORIZONTAL-02-04",
   "1F044 bHORIZONTAL-02-05,bHORIZONTAL-02-06,bHORIZONTAL-03-00,bHORIZONTAL-03-01",
   "1F048 bHORIZONTAL-03-02,bHORIZONTAL-03-03,bHORIZONTAL-03-04,bHORIZONTAL-03-05",
   "1F04C bHORIZONTAL-03-06,bHORIZONTAL-04-00,bHORIZONTAL-04-01,bHORIZONTAL-04-02",
   "1F050 bHORIZONTAL-04-03,bHORIZONTAL-04-04,bHORIZONTAL-04-05,bHORIZONTAL-04-06",
   "1F054 bHORIZONTAL-05-00,bHORIZONTAL-05-01,bHORIZONTAL-05-02,bHORIZONTAL-05-03",
   "1F058 bHORIZONTAL-05-04,bHORIZONTAL-05-05,bHORIZONTAL-05-06,bHORIZONTAL-06-00",
   "1F05C bHORIZONTAL-06-01,bHORIZONTAL-06-02,bHORIZONTAL-06-03,bHORIZONTAL-06-04",
   "1F060 bHORIZONTAL-06-05,bHORIZONTAL-06-06,bVERTICAL BACK,bVERTICAL-00-00,bVERTICAL-00-01",
   "1F065 bVERTICAL-00-02,bVERTICAL-00-03,bVERTICAL-00-04,bVERTICAL-00-05,bVERTICAL-00-06",
   "1F06A bVERTICAL-01-00,bVERTICAL-01-01,bVERTICAL-01-02,bVERTICAL-01-03,bVERTICAL-01-04",
   "1F06F bVERTICAL-01-05,bVERTICAL-01-06,bVERTICAL-02-00,bVERTICAL-02-01,bVERTICAL-02-02",
   "1F074 bVERTICAL-02-03,bVERTICAL-02-04,bVERTICAL-02-05,bVERTICAL-02-06,bVERTICAL-03-00",
   "1F079 bVERTICAL-03-01,bVERTICAL-03-02,bVERTICAL-03-03,bVERTICAL-03-04,bVERTICAL-03-05",
   "1F07E bVERTICAL-03-06,bVERTICAL-04-00,bVERTICAL-04-01,bVERTICAL-04-02,bVERTICAL-04-03",
   "1F083 bVERTICAL-04-04,bVERTICAL-04-05,bVERTICAL-04-06,bVERTICAL-05-00,bVERTICAL-05-01",
   "1F088 bVERTICAL-05-02,bVERTICAL-05-03,bVERTICAL-05-04,bVERTICAL-05-05,bVERTICAL-05-06",
   "1F08D bVERTICAL-06-00,bVERTICAL-06-01,bVERTICAL-06-02,bVERTICAL-06-03,bVERTICAL-06-04",
   "1F092 bVERTICAL-06-05,bVERTICAL-06-06",
   "1F0A0 PLAYING CARD BACK,bACE OF SPADES,bTWOb,bTHREEb,bFOURb,bFIVEb,bSIXb,bSEVENb,bEIGHTb",
   "1F0A9 bNINEb,bTENb,bJACKb,bKNIGHTb,bQUEENb,bKINGb,,,bACE OF HEARTS,bTWOb,bTHREEb,bFOURb",
   "1F0B5 bFIVEb,bSIXb,bSEVENb,bEIGHTb,bNINEb,bTENb,bJACKb,bKNIGHTb,bQUEENb,bKINGb,bRED JOKER",
   "1F0C1 bACE OF DIAMONDS,bTWOb,bTHREEb,bFOURb,bFIVEb,bSIXb,bSEVENb,bEIGHTb,bNINEb,bTENb,bJACKb",
   "1F0CC bKNIGHTb,bQUEENb,bKINGb,bBLACK JOKER,,bACE OF CLUBS,bTWOb,bTHREEb,bFOURb,bFIVEb,bSIXb",
   "1F0D7 bSEVENb,bEIGHTb,bNINEb,bTENb,bJACKb,bKNIGHTb,bQUEENb,bKINGb,bWHITE JOKER,bFOOL,bTRUMP-1",
   "1F0E2 bTRUMP-2,bTRUMP-3,bTRUMP-4,bTRUMP-5,bTRUMP-6,bTRUMP-7,bTRUMP-8,bTRUMP-9,bTRUMP-10",
   "1F0EB bTRUMP-11,bTRUMP-12,bTRUMP-13,bTRUMP-14,bTRUMP-15,bTRUMP-16,bTRUMP-17,bTRUMP-18",
   "1F0F3 bTRUMP-19,bTRUMP-20,bTRUMP-21",
   "1F100 DIGIT ZERO FULL STOP,bCOMMA,aONEa,aTWOa,aTHREEa,aFOURa,aFIVEa,aSIXa,aSEVENa,aEIGHTa",
   "1F10A aNINEa,DINGBAT CIRCLED SANS-SERIF DIGIT ZERO,aNEGATIVEd,CIRCLED ZERO WITH SLASH",
   "1F10E aANTICLOCKWISE ARROW,aDOLLAR SIGN WITH OVERLAID BACKSLASH",
   "1F110 PARENTHESIZED LATIN CAPITAL LETTER A,dB,dC,dD,dE,dF,dG,dH,dI,dJ,dK,dL,dM,dN,dO,dP,dQ,dR",
   "1F122 dS,dT,dU,dV,dW,dX,dY,dZ,TORTOISE SHELL BRACKETED LATIN CAPITAL LETTER S",
   "1F12B CIRCLED ITALIC LATIN CAPITAL LETTER C,eR,aCD,aWZ,COPYLEFT SYMBOL",
   "1F130 SQUARED LATIN CAPITAL LETTER A,dB,dC,dD,dE,dF,dG,dH,dI,dJ,dK,dL,dM,dN,dO,dP,dQ,dR,dS,dT",
   "1F144 dU,dV,dW,dX,dY,dZ,aHV,aMV,aSD,aSS,aPPV,aWC,NEGATIVE CIRCLED LATIN CAPITAL LETTER A,eB",
   "1F152 eC,eD,eE,eF,eG,eH,eI,eJ,eK,eL,eM,eN,eO,eP,eQ,eR,eS,eT,eU,eV,eW,eX,eY,eZ,RAISED MC SIGN",
   "1F16B aMDa,aMRa,CIRCLED CC,aC WITH OVERLAID BACKSLASH,aHUMAN FIGURE",
   "1F170 NEGATIVE SQUARED LATIN CAPITAL LETTER A,eB,eC,eD,eE,eF,eG,eH,eI,eJ,eK,eL,eM,eN,eO,eP,eQ",
   "1F181 eR,eS,eT,eU,eV,eW,eX,eY,eZ,CROSSED NEGATIVE SQUARED LATIN CAPITAL LETTER P",
   "1F18B NEGATIVE SQUARED IC,bPA,bSA,bAB,bWC,SQUARE DJ,SQUARED CL,aCOOL,aFREE,aID,aNEW,aNG,aOK",
   "1F198 aSOS,aUP WITH EXCLAMATION MARK,aVS,aTHREE D,aSECOND SCREEN,aTWO K,aFOURa,aEIGHTa",
   "1F1A0 aFIVE POINT ONE,aSEVENb,aTWENTY-TWO POINT TWO,aSIXTY P,aONE HUNDRED TWENTYa",
   "1F1A5 aLATIN SMALL LETTER D,aHC,aHDR,aHI-RES,aLOSSLESS,aSHV,aUHD,aVOD,MASK WORK SYMBOL",
   "1F1E6 REGIONAL INDICATOR SYMBOL LETTER A,dB,dC,dD,dE,dF,dG,dH,dI,dJ,dK,dL,dM,dN,dO,dP,dQ,dR",
   "1F1F8 dS,dT,dU,dV,dW,dX,dY,dZ,SQUARE HIRAGANA HOKA,SQUARED KATAKANA KOKO,bSA",
   "1F210 aCJK UNIFIED IDEOGRAPH-624B,cIDEOGRAPH-5B57,cIDEOGRAPH-53CC,aKATAKANA DE",
   "1F214 aCJK UNIFIED IDEOGRAPH-4E8C,cIDEOGRAPH-591A,cIDEOGRAPH-89E3,cIDEOGRAPH-5929",
   "1F218 cIDEOGRAPH-4EA4,cIDEOGRAPH-6620,cIDEOGRAPH-7121,cIDEOGRAPH-6599,cIDEOGRAPH-524D",
   "1F21D cIDEOGRAPH-5F8C,cIDEOGRAPH-518D,cIDEOGRAPH-65B0,cIDEOGRAPH-521D,cIDEOGRAPH-7D42",
   "1F222 cIDEOGRAPH-751F,cIDEOGRAPH-8CA9,cIDEOGRAPH-58F0,cIDEOGRAPH-5439,cIDEOGRAPH-6F14",
   "1F227 cIDEOGRAPH-6295,cIDEOGRAPH-6355,cIDEOGRAPH-4E00,cIDEOGRAPH-4E09,cIDEOGRAPH-904A",
   "1F22C cIDEOGRAPH-5DE6,cIDEOGRAPH-4E2D,cIDEOGRAPH-53F3,cIDEOGRAPH-6307,cIDEOGRAPH-8D70",
   "1F231 cIDEOGRAPH-6253,cIDEOGRAPH-7981,cIDEOGRAPH-7A7A,cIDEOGRAPH-5408,cIDEOGRAPH-6E80",
   "1F236 cIDEOGRAPH-6709,cIDEOGRAPH-6708,cIDEOGRAPH-7533,cIDEOGRAPH-5272,cIDEOGRAPH-55B6",
   "1F23B cIDEOGRAPH-914D,,,,,TORTOISE SHELL BRACKETED CJK UNIFIED IDEOGRAPH-672C,eIDEOGRAPH-4E09",
   "1F242 eIDEOGRAPH-4E8C,eIDEOGRAPH-5B89,eIDEOGRAPH-70B9,eIDEOGRAPH-6253,eIDEOGRAPH-76D7",
   "1F247 eIDEOGRAPH-52DD,eIDEOGRAPH-6557,,,,,,,,CIRCLED IDEOGRAPH ADVANTAGE,bACCEPT",
   "1F260 ROUNDED SYMBOL FOR FU,cLU,cSHOU,cXI,cSHUANGXI,cCAI",
   "1F300 CYCLONE,FOGGY,CLOSED UMBRELLA,NIGHT WITH STARS,SUNRISE OVER MOUNTAINS,SUNRISE",
   "1F306 CITYSCAPE AT DUSK,SUNSET OVER BUILDINGS,RAINBOW,BRIDGE AT NIGHT,WATER WAVE,VOLCANO",
   "1F30C MILKY WAY,EARTH GLOBE EUROPE-AFRICA,bAMERICAS,bASIA-AUSTRALIA,GLOBE WITH MERIDIANS",
   "1F311 NEW MOON SYMBOL,WAXING CRESCENTb,FIRST QUARTERb,WAXING GIBBOUSb,FULLb,WANING GIBBOUSb",
   "1F317 LAST QUARTERb,WANING CRESCENTb,CRESCENT MOON,NEW MOON WITH FACE,FIRST QUARTERc,LASTd",
   "1F31D FULLc,SUNb,GLOWING STAR,SHOOTINGa,THERMOMETER,BLACK DROPLET,WHITE SUN,bWITH SMALL CLOUD",
   "1F325 bBEHINDa,dWITH RAIN,CLOUDb,bSNOW,bLIGHTNING,bTORNADO,FOG,WIND BLOWING FACE,HOT DOG,TACO",
   "1F32F BURRITO,CHESTNUT,SEEDLING,EVERGREEN TREE,DECIDUOUSa,PALMa,CACTUS,HOT PEPPER,TULIP",
   "1F338 CHERRY BLOSSOM,ROSE,HIBISCUS,SUNFLOWER,BLOSSOM,EAR OF MAIZE,bRICE,HERB,FOUR LEAF CLOVER",
   "1F341 MAPLE LEAF,FALLENa,LEAF FLUTTERING IN WIND,MUSHROOM,TOMATO,AUBERGINE,GRAPES,MELON",
   "1F349 WATERMELON,TANGERINE,LEMON,BANANA,PINEAPPLE,RED APPLE,GREENa,PEAR,PEACH,CHERRIES",
   "1F353 STRAWBERRY,HAMBURGER,SLICE OF PIZZA,MEAT ON BONE,POULTRY LEG,RICE CRACKER,aBALL",
   "1F35A COOKED RICE,CURRY ANDa,STEAMING BOWL,SPAGHETTI,BREAD,FRENCH FRIES,ROASTED SWEET POTATO",
   "1F361 DANGO,ODEN,SUSHI,FRIED SHRIMP,FISH CAKE WITH SWIRL DESIGN,SOFT ICE CREAM,SHAVED ICE",
   "1F368 ICE CREAM,DOUGHNUT,COOKIE,CHOCOLATE BAR,CANDY,LOLLIPOP,CUSTARD,HONEY POT,SHORTCAKE",
   "1F371 BENTO BOX,POT OF FOOD,COOKING,FORK AND KNIFE,TEACUP WITHOUT HANDLE,SAKE BOTTLE AND CUP",
   "1F377 WINE GLASS,COCKTAILa,TROPICAL DRINK,BEER MUG,CLINKING BEER MUGS,BABY BOTTLE",
   "1F37D FORK AND KNIFE WITH PLATE,BOTTLE WITH POPPING CORK,POPCORN,RIBBON,WRAPPED PRESENT",
   "1F382 BIRTHDAY CAKE,JACK-O-LANTERN,CHRISTMAS TREE,FATHER CHRISTMAS,FIREWORKS",
   "1F387 FIREWORK SPARKLER,BALLOON,PARTY POPPER,CONFETTI BALL,TANABATA TREE,CROSSED FLAGS",
   "1F38D PINE DECORATION,JAPANESE DOLLS,CARP STREAMER,WIND CHIME,MOON VIEWING CEREMONY",
   "1F392 SCHOOL SATCHEL,GRADUATION CAP,HEART WITH TIP ON THE LEFT,BOUQUET OF FLOWERS",
   "1F396 MILITARY MEDAL,REMINDER RIBBON,MUSICAL KEYBOARD WITH JACKS,STUDIO MICROPHONE",
   "1F39A LEVEL SLIDER,CONTROL KNOBS,BEAMED ASCENDING MUSICAL NOTES,aDESCENDINGb,FILM FRAMES",
   "1F39F ADMISSION TICKETS,CAROUSEL HORSE,FERRIS WHEEL,ROLLER COASTER,FISHING POLE AND FISH",
   "1F3A4 MICROPHONE,MOVIE CAMERA,CINEMA,HEADPHONE,ARTIST PALETTE,TOP HAT,CIRCUS TENT,TICKET",
   "1F3AC CLAPPER BOARD,PERFORMING ARTS,VIDEO GAME,DIRECT HIT,SLOT MACHINE,BILLIARDS,GAME DIE",
   "1F3B3 BOWLING,FLOWER PLAYING CARDS,MUSICAL NOTE,MULTIPLE MUSICAL NOTES,SAXOPHONE,GUITAR",
   "1F3B9 MUSICAL KEYBOARD,TRUMPET,VIOLIN,MUSICAL SCORE,RUNNING SHIRT WITH SASH",
   "1F3BE TENNIS RACQUET AND BALL,SKI AND SKI BOOT,BASKETBALL AND HOOP,CHEQUERED FLAG,SNOWBOARDER",
   "1F3C3 RUNNER,SURFER,SPORTS MEDAL,TROPHY,HORSE RACING,AMERICAN FOOTBALL,RUGBYa,SWIMMER",
   "1F3CB WEIGHT LIFTER,GOLFER,RACING MOTORCYCLE,aCAR,CRICKET BAT AND BALL,VOLLEYBALL",
   "1F3D1 FIELD HOCKEY STICK AND BALL,ICE HOCKEY STICK AND PUCK,TABLE TENNIS PADDLE AND BALL",
   "1F3D4 SNOW CAPPED MOUNTAIN,CAMPING,BEACH WITH UMBRELLA,BUILDING CONSTRUCTION,HOUSE BUILDINGS",
   "1F3D9 CITYSCAPE,DERELICT HOUSE BUILDING,CLASSICALa,DESERT,aISLAND,NATIONAL PARK,STADIUM",
   "1F3E0 HOUSE BUILDING,aWITH GARDEN,OFFICE BUILDING,JAPANESE POST OFFICE,EUROPEANb,HOSPITAL",
   "1F3E6 BANK,AUTOMATED TELLER MACHINE,HOTEL,LOVEa,CONVENIENCE STORE,SCHOOL,DEPARTMENT STORE",
   "1F3ED FACTORY,IZAKAYA LANTERN,JAPANESE CASTLE,EUROPEANa,WHITE PENNANT,BLACKa",
   "1F3F3 WAVING WHITE FLAG,aBLACKa,ROSETTE,BLACKa,LABEL,BADMINTON RACQUET AND SHUTTLECOCK",
   "1F3F9 BOW AND ARROW,AMPHORA,EMOJI MODIFIER FITZPATRICK TYPE-1-2,cTYPE-3,cTYPE-4,cTYPE-5",
   "1F3FF cTYPE-6,RAT,MOUSE,OX,WATER BUFFALO,COW,TIGER,LEOPARD,RABBIT,CAT,DRAGON,CROCODILE,WHALE",
   "1F40C SNAIL,SNAKE,HORSE,RAM,GOAT,SHEEP,MONKEY,ROOSTER,CHICKEN,DOG,PIG,BOAR,ELEPHANT,OCTOPUS",
   "1F41A SPIRAL SHELL,BUG,ANT,HONEYBEE,LADY BEETLE,FISH,TROPICALa,BLOWFISH,TURTLE,HATCHING CHICK",
   "1F424 BABYa,FRONT-FACINGb,BIRD,PENGUIN,KOALA,POODLE,DROMEDARY CAMEL,BACTRIANa,DOLPHIN",
   "1F42D MOUSE FACE,COWa,TIGERa,RABBITa,CATa,DRAGONa,SPOUTING WHALE,HORSE FACE,MONKEYa,DOGa,PIGa",
   "1F438 FROGa,HAMSTERa,WOLFa,BEARa,PANDAa,PIG NOSE,PAW PRINTS,CHIPMUNK,EYES,EYE,EAR,NOSE,MOUTH",
   "1F445 TONGUE,WHITE UP POINTING BACKHAND INDEX,aDOWNc,aLEFTc,aRIGHTc,FISTED HAND SIGN,WAVINGb",
   "1F44C OKb,THUMBS UPa,aDOWNa,CLAPPING HANDSa,OPENb,CROWN,WOMANS HAT,EYEGLASSES,NECKTIE,T-SHIRT",
   "1F456 JEANS,DRESS,KIMONO,BIKINI,WOMANS CLOTHES,PURSE,HANDBAG,POUCH,MANS SHOE,ATHLETICa",
   "1F460 HIGH-HEELEDa,WOMANS SANDAL,aBOOTS,FOOTPRINTS,BUST IN SILHOUETTE,BUSTSb,BOY,GIRL,MAN",
   "1F469 WOMAN,FAMILY,MAN AND WOMAN HOLDING HANDS,TWO MENb,aWOMENb,POLICE OFFICER",
   "1F46F WOMAN WITH BUNNY EARS,BRIDE WITH VEIL,PERSON WITH BLOND HAIR,MAN WITH GUA PI MAO",
   "1F473 bTURBAN,OLDER MAN,aWOMAN,BABY,CONSTRUCTION WORKER,PRINCESS,JAPANESE OGRE,aGOBLIN,GHOST",
   "1F47C BABY ANGEL,EXTRATERRESTRIAL ALIEN,ALIEN MONSTER,IMP,SKULL,INFORMATION DESK PERSON",
   "1F482 GUARDSMAN,DANCER,LIPSTICK,NAIL POLISH,FACE MASSAGE,HAIRCUT,BARBER POLE,SYRINGE,PILL",
   "1F48B KISS MARK,LOVE LETTER,RING,GEM STONE,KISS,BOUQUET,COUPLE WITH HEART,WEDDING",
   "1F493 BEATING HEART,BROKENa,TWO HEARTS,SPARKLING HEART,GROWINGa,HEART WITH ARROW,BLUE HEART",
   "1F49A GREENa,YELLOWa,PURPLEa,HEART WITH RIBBON,REVOLVING HEARTS,HEART DECORATION",
   "1F4A0 DIAMOND SHAPE WITH A DOT INSIDE,ELECTRIC LIGHT BULB,ANGER SYMBOL,BOMB,SLEEPING SYMBOL",
   "1F4A5 COLLISIONa,SPLASHING SWEATa,DROPLET,DASH SYMBOL,PILE OF POO,FLEXED BICEPS,DIZZY SYMBOL",
   "1F4AC SPEECH BALLOON,THOUGHTa,WHITE FLOWER,HUNDRED POINTS SYMBOL,MONEY BAG,CURRENCY EXCHANGE",
   "1F4B2 HEAVY DOLLAR SIGN,CREDIT CARD,BANKNOTE WITH YEN SIGN,bDOLLARa,bEUROa,bPOUNDa",
   "1F4B8 MONEY WITH WINGS,CHART WITH UPWARDS TREND AND YEN SIGN,SEAT,PERSONAL COMPUTER,BRIEFCASE",
   "1F4BD MINIDISC,FLOPPY DISK,OPTICAL DISC,DVD,FILE FOLDER,OPENb,PAGE WITH CURL,aFACING UP",
   "1F4C5 CALENDAR,TEAR-OFFa,CARD INDEX,CHART WITH UPWARDS TREND,bDOWNWARDSa,BAR CHART,CLIPBOARD",
   "1F4CC PUSHPIN,ROUNDa,PAPERCLIP,STRAIGHT RULER,TRIANGULARa,BOOKMARK TABS,LEDGER,NOTEBOOK",
   "1F4D4 aWITH DECORATIVE COVER,CLOSED BOOK,OPENa,GREENa,BLUEa,ORANGEa,BOOKS,NAME BADGE,SCROLL",
   "1F4DD MEMO,TELEPHONE RECEIVER,PAGER,FAX MACHINE,SATELLITE ANTENNA,PUBLIC ADDRESS LOUDSPEAKER",
   "1F4E3 CHEERING MEGAPHONE,OUTBOX TRAY,INBOXa,PACKAGE,E-MAIL SYMBOL,INCOMING ENVELOPE",
   "1F4E9 ENVELOPE WITH DOWNWARDS ARROW ABOVE,CLOSED MAILBOX WITH LOWERED FLAG,cRAISEDa,OPENd",
   "1F4ED cLOWEREDa,POSTBOX,POSTAL HORN,NEWSPAPER,MOBILE PHONE,bWITH RIGHTWARDS ARROW AT LEFT",
   "1F4F3 VIBRATION MODE,MOBILE PHONE OFF,NO MOBILE PHONES,ANTENNA WITH BARS,CAMERA,aWITH FLASH",
   "1F4F9 VIDEO CAMERA,TELEVISION,RADIO,VIDEOCASSETTE,FILM PROJECTOR,PORTABLE STEREO,PRAYER BEADS",
   "1F500 TWISTED RIGHTWARDS ARROWS,CLOCKWISE RIGHTWARDS AND LEFTWARDS OPEN CIRCLEa",
   "1F502 gWITH CIRCLED ONE OVERLAY,aDOWNWARDS AND UPWARDS OPEN CIRCLE ARROWS,ANTICLOCKWISEf",
   "1F505 LOW BRIGHTNESS SYMBOL,HIGHb,SPEAKER WITH CANCELLATION STROKE,SPEAKER",
   "1F509 aWITH ONE SOUND WAVE,bTHREE SOUND WAVES,BATTERY,ELECTRIC PLUG",
   "1F50D LEFT-POINTING MAGNIFYING GLASS,RIGHT-POINTINGb,LOCK WITH INK PEN,CLOSED LOCK WITH KEY",
   "1F511 KEY,LOCK,OPENa,BELL,aWITH CANCELLATION STROKE,BOOKMARK,LINK SYMBOL,RADIO BUTTON",
   "1F519 BACK WITH LEFTWARDS ARROW ABOVE,ENDd,ON WITH EXCLAMATION MARK WITH LEFT RIGHTb",
   "1F51C SOON WITH RIGHTWARDSb,TOP WITH UPWARDSb,NO ONE UNDER EIGHTEEN SYMBOL,KEYCAP TEN",
   "1F520 INPUT SYMBOL FOR LATIN CAPITAL LETTERS,dSMALLa,cNUMBERS,cSYMBOLS,cLATIN LETTERS,FIRE",
   "1F526 ELECTRIC TORCH,WRENCH,HAMMER,NUT AND BOLT,HOCHO,PISTOL,MICROSCOPE,TELESCOPE",
   "1F52E CRYSTAL BALL,SIX POINTED STAR WITH MIDDLE DOT,JAPANESE SYMBOL FOR BEGINNER",
   "1F531 TRIDENT EMBLEM,BLACK SQUARE BUTTON,WHITEb,LARGE RED CIRCLE,aBLUEa,aORANGE DIAMOND",
   "1F537 aBLUEa,SMALL ORANGEa,aBLUEa,UP-POINTING RED TRIANGLE,DOWN-POINTINGb,UP-POINTING SMALLb",
   "1F53D DOWN-POINTINGc,LOWER RIGHT SHADOWED WHITE CIRCLE,UPPERd,CIRCLED CROSS POMMEE",
   "1F541 CROSS POMMEE WITH HALF-CIRCLE BELOW,aPOMMEE,NOTCHED LEFT SEMICIRCLE WITH THREE DOTS",
   "1F544 aRIGHTd,SYMBOL FOR MARKS CHAPTER,WHITE LATIN CROSS,HEAVYb,CELTICa,OM SYMBOL",
   "1F54A DOVE OF PEACE,KAABA,MOSQUE,SYNAGOGUE,MENORAH WITH NINE BRANCHES,BOWL OF HYGIEIA",
   "1F550 CLOCK FACE ONE OCLOCK,bTWOa,bTHREEa,bFOURa,bFIVEa,bSIXa,bSEVENa,bEIGHTa,bNINEa,bTENa",
   "1F55A bELEVENa,bTWELVEa,bONE-THIRTY,bTWO-THIRTY,bTHREE-THIRTY,bFOUR-THIRTY,bFIVE-THIRTY",
   "1F561 bSIX-THIRTY,bSEVEN-THIRTY,bEIGHT-THIRTY,bNINE-THIRTY,bTEN-THIRTY,bELEVEN-THIRTY",
   "1F567 bTWELVE-THIRTY,RIGHT SPEAKER,bWITH ONE SOUND WAVE,cTHREE SOUND WAVES,BULLHORN",
   "1F56C aWITH SOUND WAVES,RINGING BELL,BOOK,CANDLE,MANTELPIECE CLOCK,BLACK SKULL AND CROSSBONES",
   "1F572 NO PIRACY,HOLE,MAN IN BUSINESS SUIT LEVITATING,SLEUTH OR SPY,DARK SUNGLASSES,SPIDER",
   "1F578 aWEB,JOYSTICK,MAN DANCING,LEFT HAND TELEPHONE RECEIVER,TELEPHONE RECEIVER WITH PAGE",
   "1F57D RIGHT HAND TELEPHONE RECEIVER,WHITE TOUCHTONE TELEPHONE,BLACKb",
   "1F580 TELEPHONE ON TOP OF MODEM,CLAMSHELL MOBILE PHONE,BACK OF ENVELOPE,STAMPEDa",
   "1F584 ENVELOPE WITH LIGHTNING,FLYING ENVELOPE,PEN OVER STAMPEDa,LINKED PAPERCLIPS",
   "1F588 BLACK PUSHPIN,LOWER LEFT PENCIL,bBALLPOINT PEN,bFOUNTAINa,bPAINTBRUSH,bCRAYON",
   "1F58E LEFT WRITING HAND,TURNED OK HAND SIGN,RAISED HAND WITH FINGERS SPLAYED,REVERSEDe",
   "1F592 aTHUMBS UP SIGN,bDOWNa,aVICTORY HAND,aHAND WITH MIDDLE FINGER EXTENDED",
   "1F596 RAISED HAND WITH PART BETWEEN MIDDLE AND RING FINGERS",
   "1F597 WHITE DOWN POINTING LEFT HAND INDEX,SIDEWAYS WHITE LEFT POINTINGa,bRIGHTb,aBLACK LEFTb",
   "1F59B bRIGHTb,BLACK LEFT POINTING BACKHANDa,aRIGHTc,SIDEWAYS WHITE UP POINTINGa,bDOWNb",
   "1F5A0 aBLACK UPb,bDOWNb,BLACK UP POINTING BACKHANDa,aDOWNc,aHEART,DESKTOP COMPUTER",
   "1F5A6 KEYBOARD AND MOUSE,THREE NETWORKED COMPUTERS,PRINTER,POCKET CALCULATOR",
   "1F5AA BLACK HARD SHELL FLOPPY DISK,WHITEd,SOFTc,TAPE CARTRIDGE,WIRED KEYBOARD",
   "1F5AF ONE BUTTON MOUSE,TWOb,THREEb,TRACKBALL,OLD PERSONAL COMPUTER,HARD DISK,SCREEN",
   "1F5B6 PRINTER ICON,FAXa,OPTICAL DISCa,DOCUMENT WITH TEXT,cAND PICTURE,bPICTURE,FRAMEb,bTILES",
   "1F5BE bAN X,BLACK FOLDER,FOLDER,OPENa,CARD INDEX DIVIDERS,aFILE BOX,FILE CABINET,EMPTY NOTE",
   "1F5C6 bPAGE,bPAD,NOTE,aPAGE,aPAD,EMPTY DOCUMENT,aPAGE,aPAGES,DOCUMENT,PAGE,PAGES,WASTEBASKET",
   "1F5D2 SPIRAL NOTE PAD,aCALENDARa,DESKTOP WINDOW,MINIMIZE,MAXIMIZE,OVERLAP",
   "1F5D8 CLOCKWISE RIGHT AND LEFT SEMICIRCLE ARROWS,CANCELLATION X,INCREASE FONT SIZE SYMBOL",
   "1F5DB DECREASEc,COMPRESSION,OLD KEY,ROLLED-UP NEWSPAPER,PAGE WITH CIRCLED TEXT,STOCK CHART",
   "1F5E1 DAGGER KNIFE,LIPS,SPEAKING HEAD IN SILHOUETTE,THREE RAYS ABOVE,bBELOW,bLEFT,bRIGHT",
   "1F5E8 LEFT SPEECH BUBBLE,RIGHTb,TWO SPEECH BUBBLES,THREEb,LEFT THOUGHT BUBBLE,RIGHTb",
   "1F5EE LEFT ANGERa,RIGHTb,MOODa,LIGHTNINGb,aMOOD,BALLOT BOX WITH BALLOT,aSCRIPT X,aBOX WITHb",
   "1F5F6 aBOLDb,aBOX WITHc,LIGHT CHECK MARK,BALLOT BOX WITH BOLD CHECK,WORLD MAP,MOUNT FUJI",
   "1F5FC TOKYO TOWER,STATUE OF LIBERTY,SILHOUETTE OF JAPAN,MOYAI,GRINNING FACE",
   "1F601 bWITH SMILING EYES,FACE WITH TEARS OF JOY,SMILING FACE WITH OPEN MOUTH",
   "1F604 eAND SMILING EYES,fCOLD SWEAT,fTIGHTLY-CLOSED EYES,cHALO,cHORNS,WINKING FACE",
   "1F60A SMILING FACE WITH SMILING EYES,FACE SAVOURING DELICIOUS FOOD,RELIEVED FACE",
   "1F60D SMILING FACE WITH HEART-SHAPED EYES,cSUNGLASSES,SMIRKING FACE,NEUTRALa,EXPRESSIONLESSa",
   "1F612 UNAMUSEDa,FACE WITH COLD SWEAT,PENSIVE FACE,CONFUSEDa,CONFOUNDEDa,KISSINGa",
   "1F618 FACE THROWING A KISS,KISSING FACE WITH SMILING EYES,cCLOSEDa,FACE WITH STUCK-OUT TONGUE",
   "1F61C dAND WINKING EYE,eTIGHTLY-CLOSED EYES,DISAPPOINTED FACE,WORRIEDa,ANGRYa,POUTINGa",
   "1F622 CRYINGa,PERSEVERINGa,FACE WITH LOOK OF TRIUMPH,DISAPPOINTED BUT RELIEVED FACE",
   "1F626 FROWNING FACE WITH OPEN MOUTH,ANGUISHED FACE,FEARFULa,WEARYa,SLEEPYa,TIREDa,GRIMACINGa",
   "1F62D LOUDLY CRYINGa,FACE WITH OPEN MOUTH,HUSHED FACE,FACE WITH OPEN MOUTH AND COLD SWEAT",
   "1F631 aSCREAMING IN FEAR,ASTONISHED FACE,FLUSHEDa,SLEEPINGa,DIZZYa,FACE WITHOUT MOUTH",
   "1F637 aWITH MEDICAL MASK,GRINNING CAT FACE WITH SMILING EYES,CAT FACE WITH TEARS OF JOY",
   "1F63A SMILING CAT FACE WITH OPEN MOUTH,dHEART-SHAPED EYES,CAT FACE WITH WRY SMILE",
   "1F63D KISSING CAT FACE WITH CLOSED EYES,POUTING CAT FACE,CRYINGb,WEARYb,SLIGHTLY FROWNINGa",
   "1F642 aSMILINGa,UPSIDE-DOWNa,FACE WITH ROLLING EYES,bNO GOOD GESTURE,bOKa",
   "1F647 PERSON BOWING DEEPLY,SEE-NO-EVIL MONKEY,HEAR-NO-EVILa,SPEAK-NO-EVILa",
   "1F64B HAPPY PERSON RAISING ONE HAND,PERSON RAISING BOTH HANDS IN CELEBRATION,aFROWNING",
   "1F64E aWITH POUTING FACE,bFOLDED HANDS,NORTH WEST POINTING LEAF,SOUTHc,NORTH EASTb,SOUTHc",
   "1F654 TURNED NORTH WESTb,aSOUTHc,aNORTH EASTb,aSOUTHc,NORTH WEST POINTING VINEa,SOUTHd",
   "1F65A NORTH EASTc,SOUTHd,HEAVY NORTH WESTc,aSOUTHd,aNORTH EASTc,aSOUTHd",
   "1F660 NORTH WEST POINTING BUD,SOUTHc,NORTH EASTb,SOUTHc,HEAVY NORTH WESTb,aSOUTHc",
   "1F666 aNORTH EASTb,aSOUTHc,HOLLOW QUILT SQUARE ORNAMENT,dIN BLACK SQUARE",
   "1F66A SOLID QUILT SQUARE ORNAMENT,dIN BLACK SQUARE,LEFTWARDS ROCKET,UPWARDSa,RIGHTWARDSa",
   "1F66F DOWNWARDSa,SCRIPT LIGATURE ET ORNAMENT,HEAVYd,LIGATURE OPENb,HEAVYd,aAMPERSANDa,SWASHb",
   "1F676 SANS-SERIF HEAVY DOUBLE TURNED COMMA QUOTATION MARKa,cCOMMAc,bLOWe,HEAVY INTERROBANGa",
   "1F67A SANS-SERIFb,HEAVYc,VERY HEAVY SOLIDUS,bREVERSEa,CHECKER BOARD,REVERSEb,ROCKET",
   "1F681 HELICOPTER,STEAM LOCOMOTIVE,RAILWAY CAR,HIGH-SPEED TRAIN,bWITH BULLET NOSE,TRAIN,METRO",
   "1F688 LIGHT RAIL,STATION,TRAM,aCAR,BUS,ONCOMINGa,TROLLEYBUS,BUS STOP,MINIBUS,AMBULANCE",
   "1F692 FIRE ENGINE,POLICE CAR,ONCOMINGb,TAXI,ONCOMINGa,AUTOMOBILE,ONCOMINGa",
   "1F699 RECREATIONAL VEHICLE,DELIVERY TRUCK,ARTICULATED LORRY,TRACTOR,MONORAIL,MOUNTAIN RAILWAY",
   "1F69F SUSPENSIONa,MOUNTAIN CABLEWAY,AERIAL TRAMWAY,SHIP,ROWBOAT,SPEEDBOAT",
   "1F6A5 HORIZONTAL TRAFFIC LIGHT,VERTICALb,CONSTRUCTION SIGN,POLICE CARS REVOLVING LIGHT",
   "1F6A9 TRIANGULAR FLAG ON POST,DOOR,NO ENTRY SIGN,SMOKING SYMBOL,NOb,PUT LITTER IN ITS PLACEa",
   "1F6AF DO NOT LITTERa,POTABLE WATERa,NON-POTABLEb,BICYCLE,NO BICYCLES,BICYCLIST,MOUNTAINa",
   "1F6B6 PEDESTRIAN,NO PEDESTRIANS,CHILDREN CROSSING,MENS SYMBOL,WOMENSa,RESTROOM,BABY SYMBOL",
   "1F6BD TOILET,WATER CLOSET,SHOWER,BATH,BATHTUB,PASSPORT CONTROL,CUSTOMS,BAGGAGE CLAIM",
   "1F6C5 LEFT LUGGAGE,TRIANGLE WITH ROUNDED CORNERS,PROHIBITED SIGN,CIRCLED INFORMATION SOURCE",
   "1F6C9 BOYS SYMBOL,GIRLSa,COUCH AND LAMP,SLEEPING ACCOMMODATION,SHOPPING BAGS,BELLHOP BELL,BED",
   "1F6D0 PLACE OF WORSHIP,OCTAGONAL SIGN,SHOPPING TROLLEY,STUPA,PAGODA,HINDU TEMPLE,HUT,ELEVATOR",
   "1F6DD PLAYGROUND SLIDE,WHEEL,RING BUOY,HAMMER AND WRENCH,SHIELD,OIL DRUM,MOTORWAY",
   "1F6E4 RAILWAY TRACK,MOTOR BOAT,UP-POINTING MILITARY AIRPLANE,aAIRPLANE,aSMALLa,SMALLa",
   "1F6EA NORTHEAST-POINTINGa,AIRPLANE DEPARTURE,aARRIVING,,,,SATELLITE,ONCOMING FIRE ENGINE",
   "1F6F2 DIESEL LOCOMOTIVE,PASSENGER SHIP,SCOOTER,MOTORa,CANOE,SLED,FLYING SAUCER,SKATEBOARD",
   "1F6FA AUTO RICKSHAW,PICKUP TRUCK,ROLLER SKATE,,,,ALCHEMICAL SYMBOL FOR QUINTESSENCE,cAIR",
   "1F702 cFIRE,cEARTH,cWATER,cAQUAFORTIS,cAQUA REGIA,dREGIA-2,dVITAE,dVITAE-2,cVINEGAR",
   "1F70B cVINEGAR-2,cVINEGAR-3,cSULFUR,cPHILOSOPHERSa,cBLACKa,cMERCURY SUBLIMATE,dSUBLIMATE-2",
   "1F712 dSUBLIMATE-3,cCINNABAR,cSALT,cNITRE,cVITRIOL,cVITRIOL-2,cROCK SALT,dSALT-2,cGOLD",
   "1F71B cSILVER,cIRON ORE,dORE-2,cCROCUS OF IRON,cREGULUSb,cCOPPER ORE,cIRON-COPPERa",
   "1F722 cSUBLIMATE OF COPPER,cCROCUSb,eCOPPER-2,cCOPPER ANTIMONIATE,cSALT OFb",
   "1F727 cSUBLIMATE OF SALT OF COPPER,cVERDIGRIS,cTIN ORE,cLEADa,cANTIMONYa",
   "1F72C cSUBLIMATE OF ANTIMONY,cSALTb,cSUBLIMATE OFc,cVINEGARb,cREGULUSb,eANTIMONY-2,cREGULUS",
   "1F733 cREGULUS-2,cREGULUS-3,cREGULUS-4,cALKALI,cALKALI-2,cMARCASITE,cSAL-AMMONIAC,cARSENIC",
   "1F73B cREALGAR,cREALGAR-2,cAURIPIGMENT,cBISMUTH ORE,cTARTAR,cTARTAR-2,cQUICK LIME,cBORAX",
   "1F743 cBORAX-2,cBORAX-3,cALUM,cOIL,cSPIRIT,cTINCTURE,cGUM,cWAX,cPOWDER,cCALX,cTUTTY",
   "1F74E cCAPUT MORTUUM,cSCEPTER OF JOVE,cCADUCEUS,cTRIDENT,cSTARREDa,cLODESTONE,cSOAP,cURINE",
   "1F756 cHORSE DUNG,cASHES,cPOTa,cBRICK,cPOWDEREDa,cAMALGAM,cSTRATUM SUPER STRATUM,eSTRATUM-2",
   "1F75E cSUBLIMATION,cPRECIPITATE,cDISTILL,cDISSOLVE,cDISSOLVE-2,cPURIFY,cPUTREFACTION",
   "1F765 cCRUCIBLE,cCRUCIBLE-2,cCRUCIBLE-3,cCRUCIBLE-4,cCRUCIBLE-5,cALEMBIC,cBATH OF MARY",
   "1F76C eVAPOURS,cRETORT,cHOUR,cNIGHT,cDAY-NIGHT,cMONTH,cHALF DRAM,dOUNCE",
   "1F780 BLACK LEFT-POINTING ISOSCELES RIGHT TRIANGLE,aUP-POINTINGc,aRIGHT-POINTINGc",
   "1F783 aDOWN-POINTINGc,aSLIGHTLY SMALL CIRCLE,MEDIUM BOLD WHITEa,BOLDb,HEAVYb,VERYc,EXTREMELYc",
   "1F78A WHITE CIRCLE CONTAINING BLACK SMALLa,ROUND TARGET,BLACK TINY SQUARE,aSLIGHTLY SMALLa",
   "1F78E LIGHT WHITEa,MEDIUMb,BOLDb,HEAVYb,VERYc,EXTREMELYc",
   "1F794 WHITE SQUARE CONTAINING BLACK VERY SMALLa,dMEDIUMa,SQUARE TARGET,BLACK TINY DIAMOND",
   "1F798 aVERY SMALLa,aMEDIUMb,WHITE DIAMOND CONTAINING BLACK VERYb,dMEDIUMa,DIAMOND TARGET",
   "1F79D BLACK TINY LOZENGE,aVERY SMALLa,aMEDIUMb,WHITE LOZENGE CONTAINING BLACKb",
   "1F7A1 THIN GREEK CROSS,LIGHTb,MEDIUMb,BOLDb,VERYc,aHEAVYb,EXTREMELYc,THIN SALTIRE,LIGHTa",
   "1F7AA MEDIUMa,BOLDa,HEAVYa,VERYb,EXTREMELYb,LIGHT FIVE SPOKED ASTERISK,MEDIUMc,BOLDc,HEAVYc",
   "1F7B3 VERYd,EXTREMELYd,LIGHT SIXb,MEDIUMc,BOLDc,HEAVYc,VERYd,EXTREMELYd,LIGHT EIGHTb,MEDIUMc",
   "1F7BD BOLDc,HEAVYc,VERYd,LIGHT THREE POINTED BLACK STAR,MEDIUMd,THREEc",
   "1F7C3 MEDIUM THREE POINTED PINWHEELa,LIGHT FOUR POINTED BLACKa,MEDIUMd,FOURc",
   "1F7C7 MEDIUM FOUR POINTED PINWHEELa,REVERSE LIGHTd,LIGHT FIVE POINTED BLACKa,HEAVYd",
   "1F7CB MEDIUM SIXc,HEAVYd,SIX POINTED PINWHEELa,MEDIUM EIGHT POINTED BLACKa,HEAVYd,VERYe",
   "1F7D1 HEAVY EIGHT POINTED PINWHEELa,LIGHT TWELVE POINTED BLACKa,HEAVYd,cPINWHEELa",
   "1F7D5 CIRCLED TRIANGLE,NEGATIVEb,CIRCLED SQUARE,NEGATIVEb,,,,,,,,LARGE ORANGE CIRCLE,aYELLOWa",
   "1F7E2 aGREENa,aPURPLEa,aBROWNa,aRED SQUARE,aBLUEa,aORANGEa,aYELLOWa,aGREENa,aPURPLEa,aBROWNa",
   "1F7F0 HEAVY EQUALS SIGN",
   "1F800 LEFTWARDS ARROW WITH SMALL TRIANGLE ARROWHEAD,UPWARDSe,RIGHTWARDSe,DOWNWARDSe",
   "1F804 LEFTWARDS ARROW WITH MEDIUMb,UPWARDSe,RIGHTWARDSe,DOWNWARDSe",
   "1F808 LEFTWARDS ARROW WITH LARGEb,UPWARDSe,RIGHTWARDSe,DOWNWARDSe",
   "1F810 LEFTWARDS ARROW WITH SMALL EQUILATERALa,UPWARDSe,RIGHTWARDSe,DOWNWARDSe",
   "1F814 LEFTWARDS ARROW WITHb,UPWARDSd,RIGHTWARDSd,DOWNWARDSd,HEAVY LEFTWARDSd,aUPWARDSd",
   "1F81A aRIGHTWARDSd,aDOWNWARDSd,aLEFTWARDS ARROW WITH LARGEb,aUPWARDSe,aRIGHTWARDSe",
   "1F81F aDOWNWARDSe,LEFTWARDS TRIANGLE-HEADED ARROW WITH NARROW SHAFT,UPWARDSe,RIGHTWARDSe",
   "1F823 DOWNWARDSe,LEFTWARDS TRIANGLE-HEADED ARROW WITH MEDIUMa,UPWARDSe,RIGHTWARDSe,DOWNWARDSe",
   "1F828 LEFTWARDS TRIANGLE-HEADED ARROW WITH BOLDa,UPWARDSe,RIGHTWARDSe,DOWNWARDSe",
   "1F82C LEFTWARDS TRIANGLE-HEADED ARROW WITH HEAVYa,UPWARDSe,RIGHTWARDSe,DOWNWARDSe",
   "1F830 LEFTWARDS TRIANGLE-HEADED ARROW WITH VERYb,UPWARDSf,RIGHTWARDSf,DOWNWARDSf",
   "1F834 LEFTWARDS FINGER-POST ARROW,UPWARDSb,RIGHTWARDSb,DOWNWARDSb,LEFTWARDS SQUAREDa,UPWARDSb",
   "1F83A RIGHTWARDSb,DOWNWARDSb,LEFTWARDS COMPRESSEDa,UPWARDSb,RIGHTWARDSb,DOWNWARDSb",
   "1F840 LEFTWARDS HEAVYb,UPWARDSc,RIGHTWARDSc,DOWNWARDSc,LEFTWARDS HEAVYa,UPWARDSb,RIGHTWARDSb",
   "1F847 DOWNWARDSb,,,,,,,,,LEFTWARDS SANS-SERIFa,UPWARDSb,RIGHTWARDSb,DOWNWARDSb,NORTH WESTb",
   "1F855 aEASTb,SOUTHc,aWESTb,LEFT RIGHTb,UP DOWNb,,,,,,,WIDE-HEADED LEFTWARDS LIGHT BARBa",
   "1F861 aUPWARDSc,aRIGHTWARDSc,aDOWNWARDSc,aNORTH WESTc,bEASTc,aSOUTHd,bWESTc,aLEFTWARDSb",
   "1F869 aUPWARDSb,aRIGHTWARDSb,aDOWNWARDSb,aNORTH WESTb,bEASTb,aSOUTHc,bWESTb",
   "1F870 aLEFTWARDS MEDIUMb,aUPWARDSc,aRIGHTWARDSc,aDOWNWARDSc,aNORTH WESTc,bEASTc,aSOUTHd",
   "1F877 bWESTc,aLEFTWARDS HEAVYb,aUPWARDSc,aRIGHTWARDSc,aDOWNWARDSc,aNORTH WESTc,bEASTc,aSOUTHd",
   "1F87F bWESTc,aLEFTWARDS VERYc,aUPWARDSd,aRIGHTWARDSd,aDOWNWARDSd,aNORTH WESTd,bEASTd,aSOUTHe",
   "1F887 bWESTd,,,,,,,,,LEFTWARDS TRIANGLE ARROWHEAD,UPWARDSb,RIGHTWARDSb,DOWNWARDSb",
   "1F894 LEFTWARDS WHITE ARROW WITHINb,UPWARDSe,RIGHTWARDSe,DOWNWARDSe",
   "1F898 LEFTWARDS ARROW WITH NOTCHED TAIL,UPWARDSd,RIGHTWARDSd,DOWNWARDSd",
   "1F89C HEAVY ARROW SHAFT WIDTH ONE,dTWO THIRDS,dONE HALF,eTHIRD",
   "1F8A0 LEFTWARDS BOTTOM-SHADED WHITE ARROW,RIGHTWARDS BOTTOM SHADEDb,LEFTWARDS TOPc",
   "1F8A3 RIGHTWARDSd,LEFTWARDS LEFT-SHADEDb,RIGHTWARDS RIGHT-SHADEDb,LEFTWARDSc",
   "1F8A7 RIGHTWARDS LEFT-SHADEDb,LEFTWARDS BACK-TILTED SHADOWEDb,RIGHTWARDSd",
   "1F8AA LEFTWARDS FRONT-TILTEDc,RIGHTWARDSd,WHITE ARROW SHAFT WIDTH ONE,dTWO THIRDS",
   "1F8B0 ARROW POINTING UPWARDS THEN NORTH WEST,bRIGHTWARDS THEN CURVING SOUTHa",
   "1F900 CIRCLED CROSS FORMEE WITH FOUR DOTS,dTWOa,bFORMEE,LEFT HALF CIRCLE WITH FOUR DOTS",
   "1F904 dTHREEa,dTWOa,dDOT,bCIRCLE,DOWNWARD FACING HOOK,bNOTCHEDa,bHOOK WITH DOT,bNOTCHEDc",
   "1F90C PINCHED FINGERS,WHITE HEART,BROWNa,PINCHING HAND,ZIPPER-MOUTH FACE,MONEY-MOUTHa",
   "1F912 FACE WITH THERMOMETER,NERD FACE,THINKINGa,FACE WITH HEAD-BANDAGE,ROBOT FACE,HUGGINGa",
   "1F918 SIGN OF THE HORNS,CALL ME HAND,RAISED BACK OFa,LEFT-FACING FIST,RIGHT-FACINGa,HANDSHAKE",
   "1F91E HAND WITH INDEX AND MIDDLE FINGERS CROSSED,I LOVE YOU HAND SIGN,FACE WITH COWBOY HAT",
   "1F921 CLOWN FACE,NAUSEATEDa,ROLLING ON THE FLOOR LAUGHING,DROOLING FACE,LYINGa,FACE PALM",
   "1F927 SNEEZING FACE,FACE WITH ONE EYEBROW RAISED,GRINNING FACE WITH STAR EYES",
   "1F92A cONE LARGE AND ONE SMALL EYE,FACE WITH FINGER COVERING CLOSED LIPS",
   "1F92C SERIOUS FACE WITH SYMBOLS COVERING MOUTH,SMILING FACE WITH SMILING EYES AND HANDb",
   "1F92E FACE WITH OPEN MOUTH VOMITING,SHOCKED FACE WITH EXPLODING HEAD,PREGNANT WOMAN",
   "1F931 BREAST-FEEDING,PALMS UP TOGETHER,SELFIE,PRINCE,MAN IN TUXEDO,MOTHER CHRISTMAS,SHRUG",
   "1F938 PERSON DOING CARTWHEEL,JUGGLING,FENCER,MODERN PENTATHLON,WRESTLERS,WATER POLO,HANDBALL",
   "1F93F DIVING MASK,WILTED FLOWER,DRUM WITH DRUMSTICKS,CLINKING GLASSES,TUMBLER GLASS,SPOON",
   "1F945 GOAL NET,RIFLE,FIRST PLACE MEDAL,SECONDb,THIRDb,BOXING GLOVE,MARTIAL ARTS UNIFORM",
   "1F94C CURLING STONE,LACROSSE STICK AND BALL,SOFTBALL,FLYING DISC,CROISSANT,AVOCADO,CUCUMBER",
   "1F953 BACON,POTATO,CARROT,BAGUETTE BREAD,GREEN SALAD,SHALLOW PAN OF FOOD,STUFFED FLATBREAD",
   "1F95A EGG,GLASS OF MILK,PEANUTS,KIWIFRUIT,PANCAKES,DUMPLING,FORTUNE COOKIE,TAKEOUT BOX",
   "1F962 CHOPSTICKS,BOWL WITH SPOON,CUP WITH STRAW,COCONUT,BROCCOLI,PIE,PRETZEL,CUT OF MEAT",
   "1F96A SANDWICH,CANNED FOOD,LEAFY GREEN,MANGO,MOON CAKE,BAGEL",
   "1F970 SMILING FACE WITH SMILING EYES AND THREE HEARTS,YAWNING FACE,SMILING FACE WITH TEAR",
   "1F973 FACE WITH PARTY HORN AND PARTY HAT,bUNEVEN EYES AND WAVY MOUTH,OVERHEATED FACE",
   "1F976 FREEZINGa,NINJA,DISGUISED FACE,FACE HOLDING BACK TEARS,aWITH PLEADING EYES,SARI",
   "1F97C LAB COAT,GOGGLES,HIKING BOOT,FLAT SHOE,CRAB,LION FACE,SCORPION,TURKEY,UNICORN FACE",
   "1F985 EAGLE,DUCK,BAT,SHARK,OWL,FOX FACE,BUTTERFLY,DEER,GORILLA,LIZARD,RHINOCEROS,SHRIMP,SQUID",
   "1F992 GIRAFFE FACE,ZEBRAa,HEDGEHOG,SAUROPOD,T-REX,CRICKET,KANGAROO,LLAMA,PEACOCK,HIPPOPOTAMUS",
   "1F99C PARROT,RACCOON,LOBSTER,MOSQUITO,MICROBE,BADGER,SWAN,MAMMOTH,DODO,SLOTH,OTTER,ORANGUTAN",
   "1F9A8 SKUNK,FLAMINGO,OYSTER,BEAVER,BISON,SEAL,GUIDE DOG,PROBING CANE,EMOJI COMPONENT RED HAIR",
   "1F9B1 bCURLYa,bBALD,bWHITE HAIR,BONE,LEG,FOOT,TOOTH,SUPERHERO,SUPERVILLAIN,SAFETY VEST",
   "1F9BB EAR WITH HEARING AID,MOTORIZED WHEELCHAIR,MANUALa,MECHANICAL ARM,aLEG,CHEESE WEDGE",
   "1F9C1 CUPCAKE,SALT SHAKER,BEVERAGE BOX,GARLIC,ONION,FALAFEL,WAFFLE,BUTTER,MATE DRINK,ICE CUBE",
   "1F9CB BUBBLE TEA,TROLL,STANDING PERSON,KNEELINGa,DEAFa,FACE WITH MONOCLE,ADULT,CHILD",
   "1F9D3 OLDER ADULT,BEARDED PERSON,PERSON WITH HEADSCARF,aIN STEAMY ROOM,aCLIMBING",
   "1F9D8 aIN LOTUS POSITION,MAGE,FAIRY,VAMPIRE,MERPERSON,ELF,GENIE,ZOMBIE,BRAIN,ORANGE HEART",
   "1F9E2 BILLED CAP,SCARF,GLOVES,COAT,SOCKS,RED GIFT ENVELOPE,FIRECRACKER,JIGSAW PUZZLE PIECE",
   "1F9EA TEST TUBE,PETRI DISH,DNA DOUBLE HELIX,COMPASS,ABACUS,FIRE EXTINGUISHER,TOOLBOX,BRICK",
   "1F9F2 MAGNET,LUGGAGE,LOTION BOTTLE,SPOOL OF THREAD,BALL OF YARN,SAFETY PIN,TEDDY BEAR,BROOM",
   "1F9FA BASKET,ROLL OF PAPER,BAR OF SOAP,SPONGE,RECEIPT,NAZAR AMULET,NEUTRAL CHESS KING,bQUEEN",
   "1FA02 bROOK,bBISHOP,bKNIGHT,bPAWN,WHITE CHESS KNIGHT ROTATED FORTY-FIVE DEGREES,BLACKe",
   "1FA08 NEUTRALe,WHITE CHESS KING ROTATED NINETYa,bQUEENc,bROOKc,bBISHOPc,bKNIGHTc,bPAWNc",
   "1FA0F BLACK CHESS KINGc,bQUEENc,bROOKc,bBISHOPc,bKNIGHTc,bPAWNc,NEUTRAL CHESS KINGc,bQUEENc",
   "1FA17 bROOKc,bBISHOPc,bKNIGHTc,bPAWNc,WHITE CHESS KNIGHT ROTATED ONE HUNDRED THIRTY-FIVEa",
   "1FA1C BLACKg,NEUTRALg,WHITE CHESS TURNED KING,cQUEEN,cROOK,cBISHOP,cKNIGHT,cPAWN",
   "1FA24 BLACK CHESS TURNED KING,cQUEEN,cROOK,cBISHOP,cKNIGHT,cPAWN,NEUTRAL CHESS TURNED KING",
   "1FA2B cQUEEN,cROOK,cBISHOP,cKNIGHT,cPAWN",
   "1FA30 WHITE CHESS KNIGHT ROTATED TWO HUNDRED TWENTY-FIVE DEGREES,BLACKg,NEUTRALg",
   "1FA33 WHITE CHESS KING ROTATED TWO HUNDRED SEVENTYa,bQUEENe,bROOKe,bBISHOPe,bKNIGHTe,bPAWNe",
   "1FA39 BLACK CHESS KINGe,bQUEENe,bROOKe,bBISHOPe,bKNIGHTe,bPAWNe,NEUTRAL CHESS KINGe,bQUEENe",
   "1FA41 bROOKe,bBISHOPe,bKNIGHTe,bPAWNe,WHITE CHESS KNIGHT ROTATED THREE HUNDRED FIFTEENa",
   "1FA46 BLACKg,NEUTRALg,WHITE CHESS EQUIHOPPER,BLACKb,NEUTRALb",
   "1FA4B WHITE CHESS EQUIHOPPER ROTATED NINETY DEGREES,BLACKe,NEUTRALe,WHITE CHESS KNIGHT-QUEEN",
   "1FA4F bKNIGHT-ROOK,bKNIGHT-BISHOP,BLACK CHESS KNIGHT-QUEEN,bKNIGHT-ROOK,bKNIGHT-BISHOP",
   "1FA60 XIANGQI RED GENERAL,bMANDARIN,bELEPHANT,bHORSE,bCHARIOT,bCANNON,bSOLDIER,aBLACK GENERAL",
   "1FA68 bMANDARIN,bELEPHANT,bHORSE,bCHARIOT,bCANNON,bSOLDIER,,,BALLET SHOES,ONE-PIECE SWIMSUIT",
   "1FA72 BRIEFS,SHORTS,THONG SANDAL,,,,DROP OF BLOOD,ADHESIVE BANDAGE,STETHOSCOPE,X-RAY,CRUTCH",
   "1FA80 YO-YO,KITE,PARACHUTE,BOOMERANG,MAGIC WAND,PINATA,NESTING DOLLS,,,,,,,,,,RINGED PLANET",
   "1FA91 CHAIR,RAZOR,AXE,DIYA LAMP,BANJO,MILITARY HELMET,ACCORDION,LONG DRUM,COIN,CARPENTRY SAW",
   "1FA9B SCREWDRIVER,LADDER,HOOK,MIRROR,WINDOW,PLUNGER,SEWING NEEDLE,KNOT,BUCKET,MOUSE TRAP",
   "1FAA5 TOOTHBRUSH,HEADSTONE,PLACARD,ROCK,MIRROR BALL,IDENTIFICATION CARD,LOW BATTERY,HAMSA",
   "1FAB0 FLY,WORM,BEETLE,COCKROACH,POTTED PLANT,WOOD,FEATHER,LOTUS,CORAL,EMPTY NEST",
   "1FABA NEST WITH EGGS,,,,,,ANATOMICAL HEART,LUNGS,PEOPLE HUGGING,PREGNANT MAN,aPERSON",
   "1FAC5 PERSON WITH CROWN",
   "1FAD0 BLUEBERRIES,BELL PEPPER,OLIVE,FLATBREAD,TAMALE,FONDUE,TEAPOT,POURING LIQUID,BEANS,JAR",
   "1FAE0 MELTING FACE,SALUTINGa,FACE WITH OPEN EYES AND HAND OVER MOUTH,bPEEKING EYE",
   "1FAE4 bDIAGONAL MOUTH,DOTTED LINE FACE,BITING LIP,BUBBLES",
   "1FAF0 HAND WITH INDEX FINGER AND THUMB CROSSED,RIGHTWARDS HAND,LEFTWARDSa,PALM DOWNa,aUPa",
   "1FAF5 INDEX POINTING AT THE VIEWER,HEART HANDS,,,,,,,,,,BLOCK SEXTANT-1,aSEXTANT-2",
   "1FB02 aSEXTANT-12,aSEXTANT-3,aSEXTANT-13,aSEXTANT-23,aSEXTANT-123,aSEXTANT-4,aSEXTANT-14",
   "1FB09 aSEXTANT-24,aSEXTANT-124,aSEXTANT-34,aSEXTANT-134,aSEXTANT-234,aSEXTANT-1234,aSEXTANT-5",
   "1FB10 aSEXTANT-15,aSEXTANT-25,aSEXTANT-125,aSEXTANT-35,aSEXTANT-235,aSEXTANT-1235,aSEXTANT-45",
   "1FB17 aSEXTANT-145,aSEXTANT-245,aSEXTANT-1245,aSEXTANT-345,aSEXTANT-1345,aSEXTANT-2345",
   "1FB1D aSEXTANT-12345,aSEXTANT-6,aSEXTANT-16,aSEXTANT-26,aSEXTANT-126,aSEXTANT-36,aSEXTANT-136",
   "1FB24 aSEXTANT-236,aSEXTANT-1236,aSEXTANT-46,aSEXTANT-146,aSEXTANT-1246,aSEXTANT-346",
   "1FB2A aSEXTANT-1346,aSEXTANT-2346,aSEXTANT-12346,aSEXTANT-56,aSEXTANT-156,aSEXTANT-256",
   "1FB30 aSEXTANT-1256,aSEXTANT-356,aSEXTANT-1356,aSEXTANT-2356,aSEXTANT-12356,aSEXTANT-456",
   "1FB36 aSEXTANT-1456,aSEXTANT-2456,aSEXTANT-12456,aSEXTANT-3456,aSEXTANT-13456,aSEXTANT-23456",
   "1FB3C LOWER LEFT BLOCK DIAGONAL LOWER MIDDLE LEFT TO LOWER CENTRE,iRIGHT",
   "1FB3E dUPPER MIDDLE LEFT TO LOWER CENTRE,iRIGHT,eLEFT TO LOWER CENTRE",
   "1FB41 aRIGHT BLOCK DIAGONAL UPPER MIDDLE LEFT TO UPPERa,iRIGHT",
   "1FB43 dLOWER MIDDLE LEFT TO UPPER CENTRE,iRIGHT,eLEFT TO UPPER CENTRE",
   "1FB46 eMIDDLE LEFT TO UPPER MIDDLE RIGHT,eCENTRE TO LOWERb,eLEFTd,eCENTRE TO UPPERb,eLEFTd",
   "1FB4B eCENTRE TO UPPERa,aLEFT BLOCK DIAGONAL UPPER CENTRE TO UPPER MIDDLEa,eLEFTd",
   "1FB4E eCENTRE TO LOWERb,eLEFTd,eCENTRE TO LOWERa,eMIDDLE LEFT TO LOWER MIDDLEa",
   "1FB52 UPPER RIGHT BLOCK DIAGONAL LOWER MIDDLE LEFT TO LOWER CENTRE,iRIGHT",
   "1FB54 dUPPER MIDDLE LEFT TO LOWER CENTRE,iRIGHT,eLEFT TO LOWER CENTRE",
   "1FB57 aLEFT BLOCK DIAGONAL UPPER MIDDLE LEFT TO UPPERa,iRIGHT",
   "1FB59 dLOWER MIDDLE LEFT TO UPPER CENTRE,iRIGHT,eLEFT TO UPPER CENTRE",
   "1FB5C eMIDDLE LEFT TO UPPER MIDDLE RIGHT,eCENTRE TO LOWERb,eLEFTd,eCENTRE TO UPPERb,eLEFTd",
   "1FB61 eCENTRE TO UPPERa,aRIGHT BLOCK DIAGONAL UPPER CENTRE TO UPPER MIDDLEa,eLEFTd",
   "1FB64 eCENTRE TO LOWERb,eLEFTd,eCENTRE TO LOWERa,eMIDDLE LEFT TO LOWER MIDDLEa",
   "1FB68 aAND RIGHT AND LOWER TRIANGULAR THREE QUARTERS BLOCK,LEFT AND LOWER AND RIGHTd",
   "1FB6A UPPER AND LEFT AND LOWERd,LEFT AND UPPER AND RIGHTd,aTRIANGULAR ONE QUARTERa,UPPERd",
   "1FB6E RIGHTd,LOWERd,VERTICAL ONE EIGHTH BLOCK-2,cBLOCK-3,cBLOCK-4,cBLOCK-5,cBLOCK-6,cBLOCK-7",
   "1FB76 HORIZONTAL ONE EIGHTH BLOCK-2,cBLOCK-3,cBLOCK-4,cBLOCK-5,cBLOCK-6,cBLOCK-7",
   "1FB7C LEFT AND LOWER ONE EIGHTH BLOCK,bUPPERc,RIGHTe,bLOWERc,UPPERe",
   "1FB81 HORIZONTAL ONE EIGHTH BLOCK-1358,UPPER ONE QUARTER BLOCK,aTHREE EIGHTHSa,aFIVEb",
   "1FB85 aTHREE QUARTERSa,aSEVEN EIGHTHSa,RIGHT ONE QUARTERa,aTHREE EIGHTHSa,aFIVEb",
   "1FB8A aTHREE QUARTERSa,aSEVEN EIGHTHSa,LEFT HALF MEDIUM SHADE,RIGHTc,UPPERc,LOWERc,INVERSEb",
   "1FB91 UPPER HALF BLOCK AND LOWER HALFc,bINVERSE MEDIUM SHADE AND LOWER HALF BLOCK",
   "1FB94 LEFT HALF INVERSE MEDIUM SHADE AND RIGHTb,CHECKER BOARD FILL,INVERSEc,HEAVY HORIZONTALa",
   "1FB98 UPPER LEFT TO LOWER RIGHTa,aRIGHT TO LOWER LEFTa,aAND LOWER TRIANGULAR HALF BLOCK",
   "1FB9B LEFT AND RIGHTc,UPPER LEFT TRIANGULAR MEDIUM SHADE,aRIGHTc,LOWERd,aLEFTc",
   "1FBA0 BOX DRAWINGS LIGHT DIAGONAL UPPER CENTRE TO MIDDLE LEFT,hRIGHT",
   "1FBA2 dMIDDLE LEFT TO LOWER CENTRE,eRIGHTc,dUPPER CENTRE TO MIDDLE LEFTc,hRIGHTc",
   "1FBA6 dMIDDLE LEFT TO LOWER CENTRE TO MIDDLE RIGHT,gUPPERd",
   "1FBA8 dUPPER CENTRE TO MIDDLE LEFT AND MIDDLE RIGHT TO LOWER CENTRE,hRIGHT AND MIDDLE LEFTc",
   "1FBAA iTO LOWER CENTRE TO MIDDLE LEFT,hLEFT TO LOWER CENTRE TO MIDDLE RIGHT",
   "1FBAC dMIDDLE LEFT TO UPPER CENTRE TO MIDDLE RIGHT TO LOWER CENTRE",
   "1FBAD eRIGHT TO UPPER CENTRE TO MIDDLE LEFTc,dDIAMOND,cHORIZONTAL WITH VERTICAL STROKE",
   "1FBB0 ARROWHEAD-SHAPED POINTER,INVERSE CHECK MARK,LEFT HALF RUNNING MAN,RIGHTc",
   "1FBB4 INVERSE DOWNWARDS ARROW WITH TIP LEFTWARDS",
   "1FBB5 LEFTWARDS ARROW AND UPPER AND LOWER ONE EIGHTH BLOCK,RIGHTWARDSh",
   "1FBB7 DOWNWARDS ARROW AND RIGHTc,UPWARDSf,LEFT HALF FOLDER,RIGHTb,VOIDED GREEK CROSS",
   "1FBBC RIGHT OPEN SQUARED DOT,NEGATIVE DIAGONAL CROSS,bMIDDLE RIGHT TO LOWER CENTRE,bDIAMOND",
   "1FBC0 WHITE HEAVY SALTIRE WITH ROUNDED CORNERS,LEFT THIRD WHITE RIGHT POINTING INDEX,MIDDLEe",
   "1FBC3 RIGHTe,NEGATIVE SQUARED QUESTION MARK,STICK FIGURE,bWITH ARMS RAISED,bLEANING LEFT",
   "1FBC8 cRIGHT,bWITH DRESS,WHITE UP-POINTING CHEVRON",
   "1FBF0 SEGMENTED DIGIT ZERO,bONE,bTWO,bTHREE,bFOUR,bFIVE,bSIX,bSEVEN,bEIGHT,bNINE",
   "E0001 LANGUAGE TAG",
   "E0020 TAG SPACE,aEXCLAMATION MARK,aQUOTATIONa,aNUMBER SIGN,aDOLLARa,aPERCENTa,aAMPERSAND",
   "E0027 aAPOSTROPHE,aLEFT PARENTHESIS,aRIGHTa,aASTERISK,aPLUS SIGN,aCOMMA,aHYPHEN-MINUS",
   "E002E aFULL STOP,aSOLIDUS,aDIGIT ZERO,bONE,bTWO,bTHREE,bFOUR,bFIVE,bSIX,bSEVEN,bEIGHT,bNINE",
   "E003A aCOLON,aSEMICOLON,aLESS-THAN SIGN,aEQUALSa,aGREATER-THANa,aQUESTION MARK,aCOMMERCIAL AT",
   "E0041 aLATIN CAPITAL LETTER A,dB,dC,dD,dE,dF,dG,dH,dI,dJ,dK,dL,dM,dN,dO,dP,dQ,dR,dS,dT,dU,dV",
   "E0057 dW,dX,dY,dZ,aLEFT SQUARE BRACKET,aREVERSE SOLIDUS,aRIGHT SQUARE BRACKET",
   "E005E aCIRCUMFLEX ACCENT,aLOW LINE,aGRAVE ACCENT,aLATIN SMALL LETTER A,dB,dC,dD,dE,dF,dG,dH",
   "E0069 dI,dJ,dK,dL,dM,dN,dO,dP,dQ,dR,dS,dT,dU,dV,dW,dX,dY,dZ,aLEFT CURLY BRACKET",
   "E007C aVERTICAL LINE,aRIGHT CURLY BRACKET,aTILDE,CANCEL TAG",
   "E0100 VARIATION SELECTOR-17,aSELECTOR-18,aSELECTOR-19,aSELECTOR-20,aSELECTOR-21,aSELECTOR-22",
   "E0106 aSELECTOR-23,aSELECTOR-24,aSELECTOR-25,aSELECTOR-26,aSELECTOR-27,aSELECTOR-28",
   "E010C aSELECTOR-29,aSELECTOR-30,aSELECTOR-31,aSELECTOR-32,aSELECTOR-33,aSELECTOR-34",
   "E0112 aSELECTOR-35,aSELECTOR-36,aSELECTOR-37,aSELECTOR-38,aSELECTOR-39,aSELECTOR-40",
   "E0118 aSELECTOR-41,aSELECTOR-42,aSELECTOR-43,aSELECTOR-44,aSELECTOR-45,aSELECTOR-46",
   "E011E aSELECTOR-47,aSELECTOR-48,aSELECTOR-49,aSELECTOR-50,aSELECTOR-51,aSELECTOR-52",
   "E0124 aSELECTOR-53,aSELECTOR-54,aSELECTOR-55,aSELECTOR-56,aSELECTOR-57,aSELECTOR-58",
   "E012A aSELECTOR-59,aSELECTOR-60,aSELECTOR-61,aSELECTOR-62,aSELECTOR-63,aSELECTOR-64",
   "E0130 aSELECTOR-65,aSELECTOR-66,aSELECTOR-67,aSELECTOR-68,aSELECTOR-69,aSELECTOR-70",
   "E0136 aSELECTOR-71,aSELECTOR-72,aSELECTOR-73,aSELECTOR-74,aSELECTOR-75,aSELECTOR-76",
   "E013C aSELECTOR-77,aSELECTOR-78,aSELECTOR-79,aSELECTOR-80,aSELECTOR-81,aSELECTOR-82",
   "E0142 aSELECTOR-83,aSELECTOR-84,aSELECTOR-85,aSELECTOR-86,aSELECTOR-87,aSELECTOR-88",
   "E0148 aSELECTOR-89,aSELECTOR-90,aSELECTOR-91,aSELECTOR-92,aSELECTOR-93,aSELECTOR-94",
   "E014E aSELECTOR-95,aSELECTOR-96,aSELECTOR-97,aSELECTOR-98,aSELECTOR-99,aSELECTOR-100",
   "E0154 aSELECTOR-101,aSELECTOR-102,aSELECTOR-103,aSELECTOR-104,aSELECTOR-105,aSELECTOR-106",
   "E015A aSELECTOR-107,aSELECTOR-108,aSELECTOR-109,aSELECTOR-110,aSELECTOR-111,aSELECTOR-112",
   "E0160 aSELECTOR-113,aSELECTOR-114,aSELECTOR-115,aSELECTOR-116,aSELECTOR-117,aSELECTOR-118",
   "E0166 aSELECTOR-119,aSELECTOR-120,aSELECTOR-121,aSELECTOR-122,aSELECTOR-123,aSELECTOR-124",
   "E016C aSELECTOR-125,aSELECTOR-126,aSELECTOR-127,aSELECTOR-128,aSELECTOR-129,aSELECTOR-130",
   "E0172 aSELECTOR-131,aSELECTOR-132,aSELECTOR-133,aSELECTOR-134,aSELECTOR-135,aSELECTOR-136",
   "E0178 aSELECTOR-137,aSELECTOR-138,aSELECTOR-139,aSELECTOR-140,aSELECTOR-141,aSELECTOR-142",
   "E017E aSELECTOR-143,aSELECTOR-144,aSELECTOR-145,aSELECTOR-146,aSELECTOR-147,aSELECTOR-148",
   "E0184 aSELECTOR-149,aSELECTOR-150,aSELECTOR-151,aSELECTOR-152,aSELECTOR-153,aSELECTOR-154",
   "E018A aSELECTOR-155,aSELECTOR-156,aSELECTOR-157,aSELECTOR-158,aSELECTOR-159,aSELECTOR-160",
   "E0190 aSELECTOR-161,aSELECTOR-162,aSELECTOR-163,aSELECTOR-164,aSELECTOR-165,aSELECTOR-166",
   "E0196 aSELECTOR-167,aSELECTOR-168,aSELECTOR-169,aSELECTOR-170,aSELECTOR-171,aSELECTOR-172",
   "E019C aSELECTOR-173,aSELECTOR-174,aSELECTOR-175,aSELECTOR-176,aSELECTOR-177,aSELECTOR-178",
   "E01A2 aSELECTOR-179,aSELECTOR-180,aSELECTOR-181,aSELECTOR-182,aSELECTOR-183,aSELECTOR-184",
   "E01A8 aSELECTOR-185,aSELECTOR-186,aSELECTOR-187,aSELECTOR-188,aSELECTOR-189,aSELECTOR-190",
   "E01AE aSELECTOR-191,aSELECTOR-192,aSELECTOR-193,aSELECTOR-194,aSELECTOR-195,aSELECTOR-196",
   "E01B4 aSELECTOR-197,aSELECTOR-198,aSELECTOR-199,aSELECTOR-200,aSELECTOR-201,aSELECTOR-202",
   "E01BA aSELECTOR-203,aSELECTOR-204,aSELECTOR-205,aSELECTOR-206,aSELECTOR-207,aSELECTOR-208",
   "E01C0 aSELECTOR-209,aSELECTOR-210,aSELECTOR-211,aSELECTOR-212,aSELECTOR-213,aSELECTOR-214",
   "E01C6 aSELECTOR-215,aSELECTOR-216,aSELECTOR-217,aSELECTOR-218,aSELECTOR-219,aSELECTOR-220",
   "E01CC aSELECTOR-221,aSELECTOR-222,aSELECTOR-223,aSELECTOR-224,aSELECTOR-225,aSELECTOR-226",
   "E01D2 aSELECTOR-227,aSELECTOR-228,aSELECTOR-229,aSELECTOR-230,aSELECTOR-231,aSELECTOR-232",
   "E01D8 aSELECTOR-233,aSELECTOR-234,aSELECTOR-235,aSELECTOR-236,aSELECTOR-237,aSELECTOR-238",
   "E01DE aSELECTOR-239,aSELECTOR-240,aSELECTOR-241,aSELECTOR-242,aSELECTOR-243,aSELECTOR-244",
   "E01E4 aSELECTOR-245,aSELECTOR-246,aSELECTOR-247,aSELECTOR-248,aSELECTOR-249,aSELECTOR-250",
   "E01EA aSELECTOR-251,aSELECTOR-252,aSELECTOR-253,aSELECTOR-254,aSELECTOR-255,aSELECTOR-256"]

def otherNames : List String :=
  ["0 NUL,SOH,START OF TEXT,ENDb,bTRANSMISSION,ENQ,ACK,ALERT,BACKSPACE,CHARACTER TABULATION",
   "A END OF LINE,LINE TABULATION,FF,CARRIAGE RETURN,LOCKING-SHIFT ONE,aZERO,DATA LINK ESCAPE,DC1",
   "12 DC2,DC3,DC4,NAK,SYN,END OF TRANSMISSION BLOCK,CAN,END OF MEDIUM,SUB,ESC,FILE SEPARATOR",
   "1D GROUPa,INFORMATION SEPARATOR TWO,bONE,SP",
   "7F DEL,PAD,HIGH OCTET PRESET,BPH,NBH,IND,NEL,SSA,END OF SELECTED AREA",
   "88 CHARACTER TABULATION SET,bWITH JUSTIFICATION,LINE TABULATION SET,PARTIAL LINE DOWN",
   "8C bBACKWARD,REVERSE INDEX,SINGLE SHIFT TWO,bTHREE,DCS,PRIVATE USE ONE,bTWO",
   "93 SET TRANSMIT STATE,CANCEL CHARACTER,MESSAGE WAITING,SPA,END OF GUARDED AREA,SOS,SGC,SCI",
   "9B CONTROL SEQUENCE INTRODUCER,ST,OPERATING SYSTEM COMMAND,PM,APC,NBSP",
   "AD SHY",
   "1A2 LATIN CAPITAL LETTER GHA,aSMALLb",
   "34F CGJ",
   "61C ALM",
   "709 SYRIAC SUBLINEAR COLON SKEWED LEFT",
   "CDE KANNADA LETTER LLLA",
   "E9D LAO LETTER FO FON,,cFAY,,,,bRO,,bLO",
   "FD0 TIBETAN MARK BKA- SHOG GI MGO RGYAN",
   "11EC HANGUL JONGSEONG YESIEUNG-KIYEOK,bYESIEUNG-SSANGKIYEOK,bSSANGYESIEUNG,bYESIEUNG-KHIEUKH",
   "180B FVS1,FVS2,FVS3,MVS,FVS4",
   "200B ZWSP,ZWNJ,ZWJ,LRM,RLM",
   "202A LRE,RLE,PDF,LRO,RLO,NNBSP",
   "205F MMSP,WJ,,,,,,LRI,RLI,FSI,PDI",
   "2118 WEIERSTRASS ELLIPTIC FUNCTION",
   "2448 MICR ON US SYMBOL,aDASHa",
   "2B7A LEFTWARDS TRIANGLE-HEADED ARROW WITH DOUBLE VERTICAL STROKE,,RIGHTWARDSf",
   "A015 YI SYLLABLE ITERATION MARK",
   "AA6E MYANMAR LETTER KHAMTI LLA",
   "FE00 VS1,VS2,VS3,VS4,VS5,VS6,VS7,VS8,VS9,VS10,VS11,VS12,VS13,VS14,VS15,VS16",
   "FE18 PRESENTATION FORM FOR VERTICAL RIGHT WHITE LENTICULAR BRACKET",
   "FEFF BOM",
   "122D4 CUNEIFORM SIGN NU11 TENU,cOVER NU11 BUR OVER BUR",
   "16E56 MEDEFAIDRIN CAPITAL LETTER H,cNG",
   "16E76 aSMALL LETTER H,cNG",
   "1B001 HENTAIGANA LETTER E-1",
   "1D0C5 BYZANTINE MUSICAL SYMBOL FTHORA SKLIRON CHROMA VASIS",
   "E0100 VS17,VS18,VS19,VS20,VS21,VS22,VS23,VS24,VS25,VS26,VS27,VS28,VS29,VS30,VS31,VS32,VS33",
   "E0111 VS34,VS35,VS36,VS37,VS38,VS39,VS40,VS41,VS42,VS43,VS44,VS45,VS46,VS47,VS48,VS49,VS50",
   "E0122 VS51,VS52,VS53,VS54,VS55,VS56,VS57,VS58,VS59,VS60,VS61,VS62,VS63,VS64,VS65,VS66,VS67",
   "E0133 VS68,VS69,VS70,VS71,VS72,VS73,VS74,VS75,VS76,VS77,VS78,VS79,VS80,VS81,VS82,VS83,VS84",
   "E0144 VS85,VS86,VS87,VS88,VS89,VS90,VS91,VS92,VS93,VS94,VS95,VS96,VS97,VS98,VS99,VS100,VS101",
   "E0155 VS102,VS103,VS104,VS105,VS106,VS107,VS108,VS109,VS110,VS111,VS112,VS113,VS114,VS115",
   "E0163 VS116,VS117,VS118,VS119,VS120,VS121,VS122,VS123,VS124,VS125,VS126,VS127,VS128,VS129",
   "E0171 VS130,VS131,VS132,VS133,VS134,VS135,VS136,VS137,VS138,VS139,VS140,VS141,VS142,VS143",
   "E017F VS144,VS145,VS146,VS147,VS148,VS149,VS150,VS151,VS152,VS153,VS154,VS155,VS156,VS157",
   "E018D VS158,VS159,VS160,VS161,VS162,VS163,VS164,VS165,VS166,VS167,VS168,VS169,VS170,VS171",
   "E019B VS172,VS173,VS174,VS175,VS176,VS177,VS178,VS179,VS180,VS181,VS182,VS183,VS184,VS185",
   "E01A9 VS186,VS187,VS188,VS189,VS190,VS191,VS192,VS193,VS194,VS195,VS196,VS197,VS198,VS199",
   "E01B7 VS200,VS201,VS202,VS203,VS204,VS205,VS206,VS207,VS208,VS209,VS210,VS211,VS212,VS213",
   "E01C5 VS214,VS215,VS216,VS217,VS218,VS219,VS220,VS221,VS222,VS223,VS224,VS225,VS226,VS227",
   "E01D3 VS228,VS229,VS230,VS231,VS232,VS233,VS234,VS235,VS236,VS237,VS238,VS239,VS240,VS241",
   "E01E1 VS242,VS243,VS244,VS245,VS246,VS247,VS248,VS249,VS250,VS251,VS252,VS253,VS254,VS255",
   "E01EF VS256",
   "0 NULL,START OF HEADING,STX,ETX,EOT,ENQUIRY,ACKNOWLEDGE,BEL,BS,HORIZONTAL TABULATION,EOL",
   "B VERTICAL TABULATION,FORM FEED,CR,SHIFT OUT,aIN,DLE,DEVICE CONTROL ONE,bTWO,bTHREE,bFOUR",
   "15 NEGATIVE ACKNOWLEDGE,SYNCHRONOUS IDLE,ETB,CANCEL,EOM,SUBSTITUTE,ESCAPE,FS,GS",
   "1E RECORD SEPARATOR,UNITa",
   "7F DELETE,PADDING CHARACTER,HOP,BREAK PERMITTED HERE,NO BREAKa,INDEX,NEXT LINE",
   "86 START OF SELECTED AREA,ESA,HORIZONTAL TABULATION SET,bWITH JUSTIFICATION",
   "8A VERTICAL TABULATION SET,PARTIAL LINE FORWARD,bUP,REVERSE LINE FEED,SINGLE-SHIFT-2",
   "8F SINGLE-SHIFT-3,DEVICE CONTROL STRING,PRIVATE USE-1,aUSE-2,STS,CCH,MW,START OF GUARDED AREA",
   "97 END OF PROTECTEDa,START OF STRING,SINGLE GRAPHIC CHARACTER INTRODUCER,aCHARACTERa,CSI",
   "9C STRING TERMINATOR,OSC,PRIVACY MESSAGE,APPLICATION PROGRAM COMMAND",
   "FEFF BYTE ORDER MARK",
   "9 HT,LF,VT,,,SO,SI",
   "1C INFORMATION SEPARATOR FOUR,bTHREE,RS,US",
   "88 HTS,HTJ,VTS,PLD,PLU,RI,SS2,SS3,,PU1,PU2,,,,START OF PROTECTED AREA,EPA",
   "FEFF ZWNBSP",
   "9 TAB,LINE FEED",
   "A NEW LINE",
   "A NL"]

def nameLines : List String :=
  namesFrom0 ++ namesFrom1000 ++ namesFrom2000 ++ namesFrom3000 ++
    namesFrom10000 ++ namesFrom12000 ++ namesFrom1D000 ++ namesFrom1F000 ++ otherNames

end LambdaText.Text
