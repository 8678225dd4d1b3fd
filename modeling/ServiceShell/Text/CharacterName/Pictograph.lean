/-!
# Names of pictographs

The names of pictographs, and of the marks that select the forms of others.
The form of a table is told where it is read.
-/

namespace ServiceShell.Text.CharacterName

/-- Part 1 of the table. -/
def pictographNamesFirst : List String := [
  "=1E800,aMENDE KIKAKUI SYLLABLE M001 KI,dM002 KA,dM003 KU,dM065 KEE,dM095 KE,dM076 KOO,dM048 KO",
  "dM179 KUA,dM004 WI,dM005 WA,dM006 WU,dM126 WEE,dM118 WE,dM114 WOO,dM045 WO,dM194 WUI,dM143 WEI",
  "dM061 WVI,dM049 WVA,dM139 WVE,dM007 MIN,dM008 MAN,dM009 MUN,dM059 MEN,dM094 MON,dM154 MUAN",
  "dM189 MUEN,dM010 BI,dM011 BA,dM012 BU,dM150 BEE,dM097 BE,dM103 BOO,dM138 BO,dM013 I,dM014 A",
  "dM015 U,dM163 EE,dM100 E,dM165 OO,dM147 O,dM137 EI,dM131 IN,dM135 IN,dM195 AN,dM178 EN",
  "dM019 SI,dM020 SA,dM021 SU,dM162 SEE,dM116 SE,dM136 SOO,dM079 SO,dM196 SIA,dM025 LI,dM026 LA",
  "dM027 LU,dM084 LEE,dM073 LE,dM054 LOO,dM153 LO,dM110 LONG LE,dM016 DI,dM017 DA,dM018 DU",
  "dM089 DEE,dM180 DOO,dM181 DO,dM022 TI,dM023 TA,dM024 TU,dM091 TEE,dM055 TE,dM104 TOO,dM069 TO",
  "dM028 JI,dM029 JA,dM030 JU,dM157 JEE,dM113 JE,dM160 JOO,dM063 JO,dM175 LONG JO,dM031 YI",
  "dM032 YA,dM033 YU,dM109 YEE,dM080 YE,dM141 YOO,dM121 YO,dM034 FI,dM035 FA,dM036 FU,dM078 FEE",
  "dM075 FE,dM133 FOO,dM088 FO,dM197 FUA,dM101 FAN,dM037 NIN,dM038 NAN,dM039 NUN,dM117 NEN",
  "dM169 NON,dM176 HI,dM041 HA,dM186 HU,dM040 HEE,dM096 HE,dM042 HOO,dM140 HO,dM083 HEEI",
  "dM128 HOOU,dM053 HIN,dM130 HAN,dM087 HUN,dM052 HEN,dM193 HON,dM046 HUAN,dM090 NGGI,dM043 NGGA",
  "dM082 NGGU,dM115 NGGEE,dM146 NGGE,dM156 NGGOO,dM120 NGGO,dM159 NGGAA,dM127 NGGUA",
  "dM086 LONG NGGE,dM106 LONG NGGOO,dM183 LONG NGGO,dM155 GI,dM111 GA,dM168 GU,dM190 GEE",
  "dM166 GUEI,dM167 GUAN,dM184 NGEN,dM057 NGON,dM177 NGUAN,dM068 PI,dM099 PA,dM050 PU,dM081 PEE",
  "dM051 PE,dM102 POO,dM066 PO,dM145 MBI,dM062 MBA,dM122 MBU,dM047 MBEE,dM188 MBEE,dM072 MBE",
  "dM172 MBOO,dM174 MBO,dM187 MBUU,dM161 LONG MBE,dM105 LONG MBOO,dM142 LONG MBO,dM132 KPI",
  "dM092 KPA,dM074 KPU,dM044 KPEE,dM108 KPE,dM112 KPOO,dM158 KPO,dM124 GBI,dM056 GBA,dM148 GBU",
  "dM093 GBEE,dM107 GBE,dM071 GBOO,dM070 GBO,dM171 RA,dM123 NDI,dM129 NDA,dM125 NDU,dM191 NDEE",
  "dM119 NDE,dM067 NDOO,dM064 NDO,dM152 NJA,dM192 NJU,dM149 NJEE,dM134 NJOO,dM182 VI,dM185 VA",
  "dM151 VU,dM173 VEE,dM085 VE,dM144 VOO,dM077 VO,dM164 NYIN,dM058 NYAN,dM170 NYUN,dM098 NYEN",
  "dM060 NYON,=1E8C7,cDIGIT ONE,dTWO,dTHREE,dFOUR,dFIVE,dSIX,dSEVEN,dEIGHT,dNINE",
  "cCOMBINING NUMBER TEENS,eTENS,eHUNDREDS,eTHOUSANDS,eTEN THOUSANDS,eHUNDRED THOUSANDS,eMILLIONS",
  "=1E900,aADLAM CAPITAL LETTER ALIF,dDAALI,dLAAM,dMIIM,dBA,dSINNYIIYHE,dPE,dBHE,dRA,dE,dFA,dI,dO",
  "dDHA,dYHE,dWAW,dNUN,dKAF,dYA,dU,dJIIM,dCHI,dHA,dQAAF,dGA,dNYA,dTU,dNHA,dVA,dKHA,dGBE,dZAL,dKPO",
  "dSHA,bSMALL LETTER ALIF,dDAALI,dLAAM,dMIIM,dBA,dSINNYIIYHE,dPE,dBHE,dRA,dE,dFA,dI,dO,dDHA,dYHE",
  "dWAW,dNUN,dKAF,dYA,dU,dJIIM,dCHI,dHA,dQAAF,dGA,dNYA,dTU,dNHA,dVA,dKHA,dGBE,dZAL,dKPO,dSHA",
  "bALIF LENGTHENER,bVOWEL LENGTHENER,bGEMINATION MARK,bHAMZA,bCONSONANT MODIFIER",
  "bGEMINATE CONSONANT MODIFIER,bNUKTA,bNASALIZATION MARK,=1E950,bDIGIT ZERO,cONE,cTWO,cTHREE",
  "cFOUR,cFIVE,cSIX,cSEVEN,cEIGHT,cNINE,=1E95E,bINITIAL EXCLAMATION MARK,cQUESTION MARK,=1EC71",
  "aINDIC SIYAQ NUMBER ONE,dTWO,dTHREE,dFOUR,dFIVE,dSIX,dSEVEN,dEIGHT,dNINE,dTEN,dTWENTY,dTHIRTY",
  "dFORTY,dFIFTY,dSIXTY,dSEVENTY,dEIGHTY,dNINETY,dONE HUNDRED,dTWO HUNDRED,dTHREE HUNDRED",
  "dFOUR HUNDRED,dFIVE HUNDRED,dSIX HUNDRED,dSEVEN HUNDRED,dEIGHT HUNDRED,dNINE HUNDRED",
  "dONE THOUSAND,dTWO THOUSAND,dTHREE THOUSAND,dFOUR THOUSAND,dFIVE THOUSAND,dSIX THOUSAND",
  "dSEVEN THOUSAND,dEIGHT THOUSAND,dNINE THOUSAND,dTEN THOUSAND,dTWENTY THOUSAND,dTHIRTY THOUSAND",
  "dFORTY THOUSAND,dFIFTY THOUSAND,dSIXTY THOUSAND,dSEVENTY THOUSAND,dEIGHTY THOUSAND",
  "dNINETY THOUSAND,dLAKH,dLAKHAN,cLAKH MARK,cNUMBER KAROR,dKARORAN,dPREFIXED ONE,eTWO,eTHREE",
  "eFOUR,eFIVE,eSIX,eSEVEN,eEIGHT,eNINE,cPLACEHOLDER,cFRACTION ONE QUARTER,eHALF,dTHREE QUARTERS",
  "cRUPEE MARK,cNUMBER ALTERNATE ONE,eTWO,eTEN THOUSAND,cALTERNATE LAKH MARK,=1ED01",
  "aOTTOMAN SIYAQ NUMBER ONE,dTWO,dTHREE,dFOUR,dFIVE,dSIX,dSEVEN,dEIGHT,dNINE,dTEN,dTWENTY",
  "dTHIRTY,dFORTY,dFIFTY,dSIXTY,dSEVENTY,dEIGHTY,dNINETY,dONE HUNDRED,dTWO HUNDRED,dTHREE HUNDRED",
  "dFOUR HUNDRED,dFIVE HUNDRED,dSIX HUNDRED,dSEVEN HUNDRED,dEIGHT HUNDRED,dNINE HUNDRED",
  "dONE THOUSAND,dTWO THOUSAND,dTHREE THOUSAND,dFOUR THOUSAND,dFIVE THOUSAND,dSIX THOUSAND",
  "dSEVEN THOUSAND,dEIGHT THOUSAND,dNINE THOUSAND,dTEN THOUSAND,dTWENTY THOUSAND,dTHIRTY THOUSAND",
  "dFORTY THOUSAND,dFIFTY THOUSAND,dSIXTY THOUSAND,dSEVENTY THOUSAND,dEIGHTY THOUSAND",
  "dNINETY THOUSAND,cMARRATAN,cALTERNATE NUMBER TWO,eTHREE,eFOUR,eFIVE,eSIX,eSEVEN,eEIGHT,eNINE",
  "eTEN,eFOUR HUNDRED,eSIX HUNDRED,eTWO THOUSAND,eTEN THOUSAND,cFRACTION ONE HALF,eSIXTH,=1EE00",
  "aARABIC MATHEMATICAL ALEF,cBEH,cJEEM,cDAL,=1EE05,cWAW,cZAIN,cHAH,cTAH,cYEH,cKAF,cLAM,cMEEM",
  "cNOON,cSEEN,cAIN,cFEH,cSAD,cQAF,cREH,cSHEEN,cTEH,cTHEH,cKHAH,cTHAL,cDAD,cZAH,cGHAIN",
  "cDOTLESS BEH,dNOON,dFEH,dQAF,=1EE21,cINITIAL BEH,dJEEM,=1EE24,dHEH,=1EE27,dHAH,=1EE29,dYEH",
  "dKAF,dLAM,dMEEM,dNOON,dSEEN,dAIN,dFEH,dSAD,dQAF,=1EE34,dSHEEN,dTEH,dTHEH,dKHAH,=1EE39,dDAD",
  "=1EE3B,dGHAIN,=1EE42,cTAILED JEEM,=1EE47,dHAH,=1EE49,dYEH,=1EE4B,dLAM,=1EE4D,dNOON,dSEEN,dAIN",
  "=1EE51,dSAD,dQAF,=1EE54,dSHEEN,=1EE57,dKHAH,=1EE59,dDAD,=1EE5B,dGHAIN,=1EE5D,dDOTLESS NOON",
  "=1EE5F,eQAF,=1EE61,cSTRETCHED BEH,dJEEM,=1EE64,dHEH,=1EE67,dHAH,dTAH,dYEH,dKAF,=1EE6C,dMEEM",
  "dNOON,dSEEN,dAIN,dFEH,dSAD,dQAF,=1EE74,dSHEEN,dTEH,dTHEH,dKHAH,=1EE79,dDAD,dZAH,dGHAIN",
  "dDOTLESS BEH,=1EE7E,eFEH,=1EE80,cLOOPED ALEF,dBEH,dJEEM,dDAL,dHEH,dWAW,dZAIN,dHAH,dTAH,dYEH",
  "=1EE8B,dLAM,dMEEM,dNOON,dSEEN,dAIN,dFEH,dSAD,dQAF,dREH,dSHEEN,dTEH,dTHEH,dKHAH,dTHAL,dDAD,dZAH",
  "dGHAIN,=1EEA1,cDOUBLE-STRUCK BEH,dJEEM,dDAL,=1EEA5,dWAW,dZAIN,dHAH,dTAH,dYEH,=1EEAB,dLAM,dMEEM",
  "dNOON,dSEEN,dAIN,dFEH,dSAD,dQAF,dREH,dSHEEN,dTEH,dTHEH,dKHAH,dTHAL,dDAD,dZAH,dGHAIN,=1EEF0",
  "cOPERATOR MEEM WITH HAH WITH TATWEEL,dHAH WITH DAL,=1F000,aMAHJONG TILE EAST WIND,cSOUTH WIND",
  "cWEST WIND,cNORTH WIND,cRED DRAGON,cGREEN DRAGON,cWHITE DRAGON,cONE OF CHARACTERS",
  "cTWO OF CHARACTERS,cTHREE OF CHARACTERS,cFOUR OF CHARACTERS,cFIVE OF CHARACTERS",
  "cSIX OF CHARACTERS,cSEVEN OF CHARACTERS,cEIGHT OF CHARACTERS,cNINE OF CHARACTERS",
  "cONE OF BAMBOOS,cTWO OF BAMBOOS,cTHREE OF BAMBOOS,cFOUR OF BAMBOOS,cFIVE OF BAMBOOS",
  "cSIX OF BAMBOOS,cSEVEN OF BAMBOOS,cEIGHT OF BAMBOOS,cNINE OF BAMBOOS,cONE OF CIRCLES",
  "cTWO OF CIRCLES,cTHREE OF CIRCLES,cFOUR OF CIRCLES,cFIVE OF CIRCLES,cSIX OF CIRCLES",
  "cSEVEN OF CIRCLES,cEIGHT OF CIRCLES,cNINE OF CIRCLES,cPLUM,cORCHID,cBAMBOO,cCHRYSANTHEMUM",
  "cSPRING,cSUMMER,cAUTUMN,cWINTER,cJOKER,cBACK,=1F030,aDOMINO TILE HORIZONTAL BACK",
  "cHORIZONTAL-00-00,cHORIZONTAL-00-01,cHORIZONTAL-00-02,cHORIZONTAL-00-03,cHORIZONTAL-00-04",
  "cHORIZONTAL-00-05,cHORIZONTAL-00-06,cHORIZONTAL-01-00,cHORIZONTAL-01-01,cHORIZONTAL-01-02",
  "cHORIZONTAL-01-03,cHORIZONTAL-01-04,cHORIZONTAL-01-05,cHORIZONTAL-01-06,cHORIZONTAL-02-00",
  "cHORIZONTAL-02-01,cHORIZONTAL-02-02,cHORIZONTAL-02-03,cHORIZONTAL-02-04,cHORIZONTAL-02-05",
  "cHORIZONTAL-02-06,cHORIZONTAL-03-00,cHORIZONTAL-03-01,cHORIZONTAL-03-02,cHORIZONTAL-03-03",
  "cHORIZONTAL-03-04,cHORIZONTAL-03-05,cHORIZONTAL-03-06,cHORIZONTAL-04-00,cHORIZONTAL-04-01",
  "cHORIZONTAL-04-02,cHORIZONTAL-04-03,cHORIZONTAL-04-04,cHORIZONTAL-04-05,cHORIZONTAL-04-06",
  "cHORIZONTAL-05-00,cHORIZONTAL-05-01,cHORIZONTAL-05-02,cHORIZONTAL-05-03,cHORIZONTAL-05-04",
  "cHORIZONTAL-05-05,cHORIZONTAL-05-06,cHORIZONTAL-06-00,cHORIZONTAL-06-01,cHORIZONTAL-06-02",
  "cHORIZONTAL-06-03,cHORIZONTAL-06-04,cHORIZONTAL-06-05,cHORIZONTAL-06-06,cVERTICAL BACK",
  "cVERTICAL-00-00,cVERTICAL-00-01,cVERTICAL-00-02,cVERTICAL-00-03,cVERTICAL-00-04",
  "cVERTICAL-00-05,cVERTICAL-00-06,cVERTICAL-01-00,cVERTICAL-01-01,cVERTICAL-01-02",
  "cVERTICAL-01-03,cVERTICAL-01-04,cVERTICAL-01-05,cVERTICAL-01-06,cVERTICAL-02-00",
  "cVERTICAL-02-01,cVERTICAL-02-02,cVERTICAL-02-03,cVERTICAL-02-04,cVERTICAL-02-05",
  "cVERTICAL-02-06,cVERTICAL-03-00,cVERTICAL-03-01,cVERTICAL-03-02,cVERTICAL-03-03",
  "cVERTICAL-03-04,cVERTICAL-03-05,cVERTICAL-03-06,cVERTICAL-04-00,cVERTICAL-04-01",
  "cVERTICAL-04-02,cVERTICAL-04-03,cVERTICAL-04-04,cVERTICAL-04-05,cVERTICAL-04-06",
  "cVERTICAL-05-00,cVERTICAL-05-01,cVERTICAL-05-02,cVERTICAL-05-03,cVERTICAL-05-04",
  "cVERTICAL-05-05,cVERTICAL-05-06,cVERTICAL-06-00,cVERTICAL-06-01,cVERTICAL-06-02",
  "cVERTICAL-06-03,cVERTICAL-06-04,cVERTICAL-06-05,cVERTICAL-06-06,=1F0A0,aPLAYING CARD BACK",
  "cACE OF SPADES,cTWO OF SPADES,cTHREE OF SPADES,cFOUR OF SPADES,cFIVE OF SPADES,cSIX OF SPADES",
  "cSEVEN OF SPADES,cEIGHT OF SPADES,cNINE OF SPADES,cTEN OF SPADES,cJACK OF SPADES",
  "cKNIGHT OF SPADES,cQUEEN OF SPADES,cKING OF SPADES,=1F0B1,cACE OF HEARTS,cTWO OF HEARTS",
  "cTHREE OF HEARTS,cFOUR OF HEARTS,cFIVE OF HEARTS,cSIX OF HEARTS,cSEVEN OF HEARTS",
  "cEIGHT OF HEARTS,cNINE OF HEARTS,cTEN OF HEARTS,cJACK OF HEARTS,cKNIGHT OF HEARTS",
  "cQUEEN OF HEARTS,cKING OF HEARTS,cRED JOKER,=1F0C1,cACE OF DIAMONDS,cTWO OF DIAMONDS",
  "cTHREE OF DIAMONDS,cFOUR OF DIAMONDS,cFIVE OF DIAMONDS,cSIX OF DIAMONDS,cSEVEN OF DIAMONDS",
  "cEIGHT OF DIAMONDS,cNINE OF DIAMONDS,cTEN OF DIAMONDS,cJACK OF DIAMONDS,cKNIGHT OF DIAMONDS",
  "cQUEEN OF DIAMONDS,cKING OF DIAMONDS,cBLACK JOKER,=1F0D1,cACE OF CLUBS,cTWO OF CLUBS",
  "cTHREE OF CLUBS,cFOUR OF CLUBS,cFIVE OF CLUBS,cSIX OF CLUBS,cSEVEN OF CLUBS,cEIGHT OF CLUBS",
  "cNINE OF CLUBS,cTEN OF CLUBS,cJACK OF CLUBS,cKNIGHT OF CLUBS,cQUEEN OF CLUBS,cKING OF CLUBS",
  "cWHITE JOKER,cFOOL,cTRUMP-1,cTRUMP-2,cTRUMP-3,cTRUMP-4,cTRUMP-5,cTRUMP-6,cTRUMP-7,cTRUMP-8",
  "cTRUMP-9,cTRUMP-10,cTRUMP-11,cTRUMP-12,cTRUMP-13,cTRUMP-14,cTRUMP-15,cTRUMP-16,cTRUMP-17",
  "cTRUMP-18,cTRUMP-19,cTRUMP-20,cTRUMP-21,=1F100,aDIGIT ZERO FULL STOP,cCOMMA,bONE COMMA",
  "bTWO COMMA,bTHREE COMMA,bFOUR COMMA,bFIVE COMMA,bSIX COMMA,bSEVEN COMMA,bEIGHT COMMA",
  "bNINE COMMA,aDINGBAT CIRCLED SANS-SERIF DIGIT ZERO,bNEGATIVE CIRCLED SANS-SERIF DIGIT ZERO",
  "aCIRCLED ZERO WITH SLASH,bANTICLOCKWISE ARROW,bDOLLAR SIGN WITH OVERLAID BACKSLASH",
  "aPARENTHESIZED LATIN CAPITAL LETTER A,eB,eC,eD,eE,eF,eG,eH,eI,eJ,eK,eL,eM,eN,eO,eP,eQ,eR,eS,eT",
  "eU,eV,eW,eX,eY,eZ,aTORTOISE SHELL BRACKETED LATIN CAPITAL LETTER S",
  "aCIRCLED ITALIC LATIN CAPITAL LETTER C,fR,bCD,bWZ,aCOPYLEFT SYMBOL",
  "aSQUARED LATIN CAPITAL LETTER A,eB,eC,eD,eE,eF,eG,eH,eI,eJ,eK,eL,eM,eN,eO,eP,eQ,eR,eS,eT,eU,eV",
  "eW,eX,eY,eZ,bHV,bMV,bSD,bSS,bPPV,bWC,aNEGATIVE CIRCLED LATIN CAPITAL LETTER A,fB,fC,fD,fE,fF",
  "fG,fH,fI,fJ,fK,fL,fM,fN,fO,fP,fQ,fR,fS,fT,fU,fV,fW,fX,fY,fZ,aRAISED MC SIGN,bMD SIGN,bMR SIGN",
  "aCIRCLED CC,bC WITH OVERLAID BACKSLASH,bHUMAN FIGURE,aNEGATIVE SQUARED LATIN CAPITAL LETTER A",
  "fB,fC,fD,fE,fF,fG,fH,fI,fJ,fK,fL,fM,fN,fO,fP,fQ,fR,fS,fT,fU,fV,fW,fX,fY,fZ",
  "aCROSSED NEGATIVE SQUARED LATIN CAPITAL LETTER P,aNEGATIVE SQUARED IC,cPA,cSA,cAB,cWC",
  "aSQUARE DJ,aSQUARED CL,bCOOL,bFREE,bID,bNEW,bNG,bOK,bSOS,bUP WITH EXCLAMATION MARK,bVS",
  "bTHREE D,bSECOND SCREEN,bTWO K,bFOUR K,bEIGHT K,bFIVE POINT ONE,bSEVEN POINT ONE",
  "bTWENTY-TWO POINT TWO,bSIXTY P,bONE HUNDRED TWENTY P,bLATIN SMALL LETTER D,bHC,bHDR,bHI-RES",
  "bLOSSLESS,bSHV,bUHD,bVOD,aMASK WORK SYMBOL,=1F1E6,aREGIONAL INDICATOR SYMBOL LETTER A,eB,eC,eD",
  "eE,eF,eG,eH,eI,eJ,eK,eL,eM,eN,eO,eP,eQ,eR,eS,eT,eU,eV,eW,eX,eY,eZ,aSQUARE HIRAGANA HOKA",
  "aSQUARED KATAKANA KOKO,cSA,=1F210,bCJK UNIFIED IDEOGRAPH-624B,dIDEOGRAPH-5B57,dIDEOGRAPH-53CC",
  "bKATAKANA DE,bCJK UNIFIED IDEOGRAPH-4E8C,dIDEOGRAPH-591A,dIDEOGRAPH-89E3,dIDEOGRAPH-5929",
  "dIDEOGRAPH-4EA4,dIDEOGRAPH-6620,dIDEOGRAPH-7121,dIDEOGRAPH-6599,dIDEOGRAPH-524D",
  "dIDEOGRAPH-5F8C,dIDEOGRAPH-518D,dIDEOGRAPH-65B0,dIDEOGRAPH-521D,dIDEOGRAPH-7D42",
  "dIDEOGRAPH-751F,dIDEOGRAPH-8CA9,dIDEOGRAPH-58F0,dIDEOGRAPH-5439,dIDEOGRAPH-6F14",
  "dIDEOGRAPH-6295,dIDEOGRAPH-6355,dIDEOGRAPH-4E00,dIDEOGRAPH-4E09,dIDEOGRAPH-904A",
  "dIDEOGRAPH-5DE6,dIDEOGRAPH-4E2D,dIDEOGRAPH-53F3,dIDEOGRAPH-6307,dIDEOGRAPH-8D70",
  "dIDEOGRAPH-6253,dIDEOGRAPH-7981,dIDEOGRAPH-7A7A,dIDEOGRAPH-5408,dIDEOGRAPH-6E80",
  "dIDEOGRAPH-6709,dIDEOGRAPH-6708,dIDEOGRAPH-7533,dIDEOGRAPH-5272,dIDEOGRAPH-55B6",
  "dIDEOGRAPH-914D,=1F240,aTORTOISE SHELL BRACKETED CJK UNIFIED IDEOGRAPH-672C,fIDEOGRAPH-4E09",
  "fIDEOGRAPH-4E8C,fIDEOGRAPH-5B89,fIDEOGRAPH-70B9,fIDEOGRAPH-6253,fIDEOGRAPH-76D7",
  "fIDEOGRAPH-52DD,fIDEOGRAPH-6557,=1F250,aCIRCLED IDEOGRAPH ADVANTAGE,cACCEPT,=1F260",
  "aROUNDED SYMBOL FOR FU,dLU,dSHOU,dXI,dSHUANGXI,dCAI,=1F300,aCYCLONE,aFOGGY,aCLOSED UMBRELLA",
  "aNIGHT WITH STARS,aSUNRISE OVER MOUNTAINS,aSUNRISE,aCITYSCAPE AT DUSK,aSUNSET OVER BUILDINGS",
  "aRAINBOW,aBRIDGE AT NIGHT,aWATER WAVE,aVOLCANO,aMILKY WAY,aEARTH GLOBE EUROPE-AFRICA,cAMERICAS",
  "cASIA-AUSTRALIA,aGLOBE WITH MERIDIANS,aNEW MOON SYMBOL,aWAXING CRESCENT MOON SYMBOL",
  "aFIRST QUARTER MOON SYMBOL,aWAXING GIBBOUS MOON SYMBOL,aFULL MOON SYMBOL",
  "aWANING GIBBOUS MOON SYMBOL,aLAST QUARTER MOON SYMBOL,aWANING CRESCENT MOON SYMBOL",
  "aCRESCENT MOON,aNEW MOON WITH FACE,aFIRST QUARTER MOON WITH FACE,aLAST QUARTER MOON WITH FACE",
  "aFULL MOON WITH FACE,aSUN WITH FACE,aGLOWING STAR,aSHOOTING STAR,aTHERMOMETER,aBLACK DROPLET",
  "aWHITE SUN,cWITH SMALL CLOUD,cBEHIND CLOUD,eWITH RAIN,aCLOUD WITH RAIN,cSNOW,cLIGHTNING",
  "cTORNADO,aFOG,aWIND BLOWING FACE,aHOT DOG,aTACO,aBURRITO,aCHESTNUT,aSEEDLING,aEVERGREEN TREE",
  "aDECIDUOUS TREE,aPALM TREE,aCACTUS,aHOT PEPPER,aTULIP,aCHERRY BLOSSOM,aROSE,aHIBISCUS",
  "aSUNFLOWER,aBLOSSOM,aEAR OF MAIZE,cRICE,aHERB,aFOUR LEAF CLOVER,aMAPLE LEAF,aFALLEN LEAF",
  "aLEAF FLUTTERING IN WIND,aMUSHROOM,aTOMATO,aAUBERGINE,aGRAPES,aMELON,aWATERMELON,aTANGERINE",
  "aLEMON,aBANANA,aPINEAPPLE,aRED APPLE,aGREEN APPLE,aPEAR,aPEACH,aCHERRIES,aSTRAWBERRY",
  "aHAMBURGER,aSLICE OF PIZZA,aMEAT ON BONE,aPOULTRY LEG,aRICE CRACKER,bBALL,aCOOKED RICE",
  "aCURRY AND RICE,aSTEAMING BOWL,aSPAGHETTI,aBREAD,aFRENCH FRIES,aROASTED SWEET POTATO,aDANGO",
  "aODEN,aSUSHI,aFRIED SHRIMP,aFISH CAKE WITH SWIRL DESIGN,aSOFT ICE CREAM,aSHAVED ICE,aICE CREAM",
  "aDOUGHNUT,aCOOKIE,aCHOCOLATE BAR,aCANDY,aLOLLIPOP,aCUSTARD,aHONEY POT,aSHORTCAKE,aBENTO BOX",
  "aPOT OF FOOD,aCOOKING,aFORK AND KNIFE,aTEACUP WITHOUT HANDLE,aSAKE BOTTLE AND CUP,aWINE GLASS",
  "aCOCKTAIL GLASS,aTROPICAL DRINK,aBEER MUG,aCLINKING BEER MUGS,aBABY BOTTLE",
  "aFORK AND KNIFE WITH PLATE,aBOTTLE WITH POPPING CORK,aPOPCORN,aRIBBON,aWRAPPED PRESENT",
  "aBIRTHDAY CAKE,aJACK-O-LANTERN,aCHRISTMAS TREE,aFATHER CHRISTMAS,aFIREWORKS,aFIREWORK SPARKLER",
  "aBALLOON,aPARTY POPPER,aCONFETTI BALL,aTANABATA TREE,aCROSSED FLAGS,aPINE DECORATION",
  "aJAPANESE DOLLS,aCARP STREAMER,aWIND CHIME,aMOON VIEWING CEREMONY,aSCHOOL SATCHEL",
  "aGRADUATION CAP,aHEART WITH TIP ON THE LEFT,aBOUQUET OF FLOWERS,aMILITARY MEDAL",
  "aREMINDER RIBBON,aMUSICAL KEYBOARD WITH JACKS,aSTUDIO MICROPHONE,aLEVEL SLIDER,aCONTROL KNOBS",
  "aBEAMED ASCENDING MUSICAL NOTES,bDESCENDING MUSICAL NOTES,aFILM FRAMES,aADMISSION TICKETS",
  "aCAROUSEL HORSE,aFERRIS WHEEL,aROLLER COASTER,aFISHING POLE AND FISH,aMICROPHONE,aMOVIE CAMERA",
  "aCINEMA,aHEADPHONE,aARTIST PALETTE,aTOP HAT,aCIRCUS TENT,aTICKET,aCLAPPER BOARD",
  "aPERFORMING ARTS,aVIDEO GAME,aDIRECT HIT,aSLOT MACHINE,aBILLIARDS,aGAME DIE,aBOWLING",
  "aFLOWER PLAYING CARDS,aMUSICAL NOTE,aMULTIPLE MUSICAL NOTES,aSAXOPHONE,aGUITAR",
  "aMUSICAL KEYBOARD,aTRUMPET,aVIOLIN,aMUSICAL SCORE,aRUNNING SHIRT WITH SASH",
  "aTENNIS RACQUET AND BALL,aSKI AND SKI BOOT,aBASKETBALL AND HOOP,aCHEQUERED FLAG,aSNOWBOARDER",
  "aRUNNER,aSURFER,aSPORTS MEDAL,aTROPHY,aHORSE RACING,aAMERICAN FOOTBALL,aRUGBY FOOTBALL",
  "aSWIMMER,aWEIGHT LIFTER,aGOLFER,aRACING MOTORCYCLE,bCAR,aCRICKET BAT AND BALL,aVOLLEYBALL",
  "aFIELD HOCKEY STICK AND BALL,aICE HOCKEY STICK AND PUCK,aTABLE TENNIS PADDLE AND BALL",
  "aSNOW CAPPED MOUNTAIN,aCAMPING,aBEACH WITH UMBRELLA,aBUILDING CONSTRUCTION,aHOUSE BUILDINGS",
  "aCITYSCAPE,aDERELICT HOUSE BUILDING,aCLASSICAL BUILDING,aDESERT,bISLAND,aNATIONAL PARK",
  "aSTADIUM,aHOUSE BUILDING,bWITH GARDEN,aOFFICE BUILDING,aJAPANESE POST OFFICE",
  "aEUROPEAN POST OFFICE,aHOSPITAL,aBANK,aAUTOMATED TELLER MACHINE,aHOTEL,aLOVE HOTEL",
  "aCONVENIENCE STORE,aSCHOOL,aDEPARTMENT STORE,aFACTORY,aIZAKAYA LANTERN,aJAPANESE CASTLE",
  "aEUROPEAN CASTLE,aWHITE PENNANT,aBLACK PENNANT,aWAVING WHITE FLAG,bBLACK FLAG,aROSETTE",
  "aBLACK ROSETTE,aLABEL,aBADMINTON RACQUET AND SHUTTLECOCK,aBOW AND ARROW,aAMPHORA",
  "aEMOJI MODIFIER FITZPATRICK TYPE-1-2,dTYPE-3,dTYPE-4,dTYPE-5,dTYPE-6,aRAT,aMOUSE,aOX",
  "aWATER BUFFALO,aCOW,aTIGER,aLEOPARD,aRABBIT,aCAT,aDRAGON,aCROCODILE,aWHALE,aSNAIL,aSNAKE",
  "aHORSE,aRAM,aGOAT,aSHEEP,aMONKEY,aROOSTER,aCHICKEN,aDOG,aPIG,aBOAR,aELEPHANT,aOCTOPUS",
  "aSPIRAL SHELL,aBUG,aANT,aHONEYBEE,aLADY BEETLE,aFISH,aTROPICAL FISH,aBLOWFISH,aTURTLE",
  "aHATCHING CHICK,aBABY CHICK,aFRONT-FACING BABY CHICK,aBIRD,aPENGUIN,aKOALA,aPOODLE",
  "aDROMEDARY CAMEL,aBACTRIAN CAMEL,aDOLPHIN,aMOUSE FACE,aCOW FACE,aTIGER FACE,aRABBIT FACE",
  "aCAT FACE,aDRAGON FACE,aSPOUTING WHALE,aHORSE FACE,aMONKEY FACE,aDOG FACE,aPIG FACE,aFROG FACE",
  "aHAMSTER FACE,aWOLF FACE,aBEAR FACE,aPANDA FACE,aPIG NOSE,aPAW PRINTS,aCHIPMUNK,aEYES,aEYE",
  "aEAR,aNOSE,aMOUTH,aTONGUE,aWHITE UP POINTING BACKHAND INDEX,bDOWN POINTING BACKHAND INDEX",
  "bLEFT POINTING BACKHAND INDEX,bRIGHT POINTING BACKHAND INDEX,aFISTED HAND SIGN",
  "aWAVING HAND SIGN,aOK HAND SIGN,aTHUMBS UP SIGN,bDOWN SIGN,aCLAPPING HANDS SIGN",
  "aOPEN HANDS SIGN,aCROWN,aWOMANS HAT,aEYEGLASSES,aNECKTIE,aT-SHIRT,aJEANS,aDRESS,aKIMONO",
  "aBIKINI,aWOMANS CLOTHES,aPURSE,aHANDBAG,aPOUCH,aMANS SHOE,aATHLETIC SHOE,aHIGH-HEELED SHOE",
  "aWOMANS SANDAL,bBOOTS,aFOOTPRINTS,aBUST IN SILHOUETTE,aBUSTS IN SILHOUETTE,aBOY,aGIRL,aMAN",
  "aWOMAN,aFAMILY,aMAN AND WOMAN HOLDING HANDS,aTWO MEN HOLDING HANDS,bWOMEN HOLDING HANDS",
  "aPOLICE OFFICER,aWOMAN WITH BUNNY EARS,aBRIDE WITH VEIL,aPERSON WITH BLOND HAIR",
  "aMAN WITH GUA PI MAO,cTURBAN,aOLDER MAN,bWOMAN,aBABY,aCONSTRUCTION WORKER,aPRINCESS",
  "aJAPANESE OGRE,bGOBLIN,aGHOST,aBABY ANGEL,aEXTRATERRESTRIAL ALIEN,aALIEN MONSTER,aIMP,aSKULL",
  "aINFORMATION DESK PERSON,aGUARDSMAN,aDANCER,aLIPSTICK,aNAIL POLISH,aFACE MASSAGE,aHAIRCUT",
  "aBARBER POLE,aSYRINGE,aPILL,aKISS MARK,aLOVE LETTER,aRING,aGEM STONE,aKISS,aBOUQUET",
  "aCOUPLE WITH HEART,aWEDDING,aBEATING HEART,aBROKEN HEART,aTWO HEARTS,aSPARKLING HEART",
  "aGROWING HEART,aHEART WITH ARROW,aBLUE HEART,aGREEN HEART,aYELLOW HEART,aPURPLE HEART",
  "aHEART WITH RIBBON,aREVOLVING HEARTS,aHEART DECORATION,aDIAMOND SHAPE WITH A DOT INSIDE",
  "aELECTRIC LIGHT BULB,aANGER SYMBOL,aBOMB,aSLEEPING SYMBOL,aCOLLISION SYMBOL",
  "aSPLASHING SWEAT SYMBOL,aDROPLET,aDASH SYMBOL,aPILE OF POO,aFLEXED BICEPS,aDIZZY SYMBOL",
  "aSPEECH BALLOON,aTHOUGHT BALLOON,aWHITE FLOWER,aHUNDRED POINTS SYMBOL,aMONEY BAG",
  "aCURRENCY EXCHANGE,aHEAVY DOLLAR SIGN,aCREDIT CARD,aBANKNOTE WITH YEN SIGN,cDOLLAR SIGN",
  "cEURO SIGN,cPOUND SIGN,aMONEY WITH WINGS,aCHART WITH UPWARDS TREND AND YEN SIGN,aSEAT",
  "aPERSONAL COMPUTER,aBRIEFCASE,aMINIDISC,aFLOPPY DISK,aOPTICAL DISC,aDVD,aFILE FOLDER",
  "aOPEN FILE FOLDER,aPAGE WITH CURL,bFACING UP,aCALENDAR,aTEAR-OFF CALENDAR,aCARD INDEX",
  "aCHART WITH UPWARDS TREND,cDOWNWARDS TREND,aBAR CHART,aCLIPBOARD,aPUSHPIN,aROUND PUSHPIN",
  "aPAPERCLIP,aSTRAIGHT RULER,aTRIANGULAR RULER,aBOOKMARK TABS,aLEDGER,aNOTEBOOK",
  "bWITH DECORATIVE COVER,aCLOSED BOOK,aOPEN BOOK,aGREEN BOOK,aBLUE BOOK,aORANGE BOOK,aBOOKS",
  "aNAME BADGE,aSCROLL,aMEMO,aTELEPHONE RECEIVER,aPAGER,aFAX MACHINE,aSATELLITE ANTENNA",
  "aPUBLIC ADDRESS LOUDSPEAKER,aCHEERING MEGAPHONE,aOUTBOX TRAY,aINBOX TRAY,aPACKAGE",
  "aE-MAIL SYMBOL,aINCOMING ENVELOPE,aENVELOPE WITH DOWNWARDS ARROW ABOVE",
  "aCLOSED MAILBOX WITH LOWERED FLAG,dRAISED FLAG,aOPEN MAILBOX WITH RAISED FLAG,dLOWERED FLAG",
  "aPOSTBOX,aPOSTAL HORN,aNEWSPAPER,aMOBILE PHONE,cWITH RIGHTWARDS ARROW AT LEFT,aVIBRATION MODE",
  "aMOBILE PHONE OFF,aNO MOBILE PHONES,aANTENNA WITH BARS,aCAMERA,bWITH FLASH,aVIDEO CAMERA",
  "aTELEVISION,aRADIO,aVIDEOCASSETTE,aFILM PROJECTOR,aPORTABLE STEREO,aPRAYER BEADS",
  "aTWISTED RIGHTWARDS ARROWS,aCLOCKWISE RIGHTWARDS AND LEFTWARDS OPEN CIRCLE ARROWS",
  "hWITH CIRCLED ONE OVERLAY,bDOWNWARDS AND UPWARDS OPEN CIRCLE ARROWS",
  "aANTICLOCKWISE DOWNWARDS AND UPWARDS OPEN CIRCLE ARROWS,aLOW BRIGHTNESS SYMBOL",
  "aHIGH BRIGHTNESS SYMBOL,aSPEAKER WITH CANCELLATION STROKE,aSPEAKER,bWITH ONE SOUND WAVE",
  "cTHREE SOUND WAVES,aBATTERY,aELECTRIC PLUG,aLEFT-POINTING MAGNIFYING GLASS",
  "aRIGHT-POINTING MAGNIFYING GLASS,aLOCK WITH INK PEN,aCLOSED LOCK WITH KEY,aKEY,aLOCK",
  "aOPEN LOCK,aBELL,bWITH CANCELLATION STROKE,aBOOKMARK,aLINK SYMBOL,aRADIO BUTTON",
  "aBACK WITH LEFTWARDS ARROW ABOVE,aEND WITH LEFTWARDS ARROW ABOVE",
  "aON WITH EXCLAMATION MARK WITH LEFT RIGHT ARROW ABOVE,aSOON WITH RIGHTWARDS ARROW ABOVE",
  "aTOP WITH UPWARDS ARROW ABOVE,aNO ONE UNDER EIGHTEEN SYMBOL,aKEYCAP TEN",
  "aINPUT SYMBOL FOR LATIN CAPITAL LETTERS,eSMALL LETTERS,dNUMBERS,dSYMBOLS,dLATIN LETTERS,aFIRE",
  "aELECTRIC TORCH,aWRENCH,aHAMMER,aNUT AND BOLT,aHOCHO,aPISTOL,aMICROSCOPE,aTELESCOPE",
  "aCRYSTAL BALL,aSIX POINTED STAR WITH MIDDLE DOT,aJAPANESE SYMBOL FOR BEGINNER,aTRIDENT EMBLEM",
  "aBLACK SQUARE BUTTON,aWHITE SQUARE BUTTON,aLARGE RED CIRCLE,bBLUE CIRCLE,bORANGE DIAMOND",
  "bBLUE DIAMOND,aSMALL ORANGE DIAMOND,bBLUE DIAMOND,aUP-POINTING RED TRIANGLE",
  "aDOWN-POINTING RED TRIANGLE,aUP-POINTING SMALL RED TRIANGLE,aDOWN-POINTING SMALL RED TRIANGLE",
  "aLOWER RIGHT SHADOWED WHITE CIRCLE,aUPPER RIGHT SHADOWED WHITE CIRCLE,aCIRCLED CROSS POMMEE",
  "aCROSS POMMEE WITH HALF-CIRCLE BELOW,bPOMMEE,aNOTCHED LEFT SEMICIRCLE WITH THREE DOTS",
  "bRIGHT SEMICIRCLE WITH THREE DOTS,aSYMBOL FOR MARKS CHAPTER,aWHITE LATIN CROSS",
  "aHEAVY LATIN CROSS,aCELTIC CROSS,aOM SYMBOL,aDOVE OF PEACE,aKAABA,aMOSQUE,aSYNAGOGUE",
  "aMENORAH WITH NINE BRANCHES,aBOWL OF HYGIEIA,aCLOCK FACE ONE OCLOCK,cTWO OCLOCK,cTHREE OCLOCK",
  "cFOUR OCLOCK,cFIVE OCLOCK,cSIX OCLOCK,cSEVEN OCLOCK,cEIGHT OCLOCK,cNINE OCLOCK,cTEN OCLOCK",
  "cELEVEN OCLOCK,cTWELVE OCLOCK,cONE-THIRTY,cTWO-THIRTY,cTHREE-THIRTY,cFOUR-THIRTY,cFIVE-THIRTY",
  "cSIX-THIRTY,cSEVEN-THIRTY,cEIGHT-THIRTY,cNINE-THIRTY,cTEN-THIRTY,cELEVEN-THIRTY,cTWELVE-THIRTY",
  "aRIGHT SPEAKER,cWITH ONE SOUND WAVE,dTHREE SOUND WAVES,aBULLHORN,bWITH SOUND WAVES",
  "aRINGING BELL,aBOOK,aCANDLE,aMANTELPIECE CLOCK,aBLACK SKULL AND CROSSBONES,aNO PIRACY,aHOLE",
  "aMAN IN BUSINESS SUIT LEVITATING,aSLEUTH OR SPY,aDARK SUNGLASSES,aSPIDER,bWEB,aJOYSTICK",
  "aMAN DANCING,aLEFT HAND TELEPHONE RECEIVER,aTELEPHONE RECEIVER WITH PAGE",
  "aRIGHT HAND TELEPHONE RECEIVER,aWHITE TOUCHTONE TELEPHONE,aBLACK TOUCHTONE TELEPHONE",
  "aTELEPHONE ON TOP OF MODEM,aCLAMSHELL MOBILE PHONE,aBACK OF ENVELOPE,aSTAMPED ENVELOPE",
  "aENVELOPE WITH LIGHTNING,aFLYING ENVELOPE,aPEN OVER STAMPED ENVELOPE,aLINKED PAPERCLIPS",
  "aBLACK PUSHPIN,aLOWER LEFT PENCIL,cBALLPOINT PEN,cFOUNTAIN PEN,cPAINTBRUSH,cCRAYON",
  "aLEFT WRITING HAND,aTURNED OK HAND SIGN,aRAISED HAND WITH FINGERS SPLAYED",
  "aREVERSED RAISED HAND WITH FINGERS SPLAYED,bTHUMBS UP SIGN,cDOWN SIGN,bVICTORY HAND",
  "bHAND WITH MIDDLE FINGER EXTENDED,aRAISED HAND WITH PART BETWEEN MIDDLE AND RING FINGERS",
  "aWHITE DOWN POINTING LEFT HAND INDEX,aSIDEWAYS WHITE LEFT POINTING INDEX,cRIGHT POINTING INDEX",
  "bBLACK LEFT POINTING INDEX,cRIGHT POINTING INDEX,aBLACK LEFT POINTING BACKHAND INDEX",
  "bRIGHT POINTING BACKHAND INDEX,aSIDEWAYS WHITE UP POINTING INDEX,cDOWN POINTING INDEX",
  "bBLACK UP POINTING INDEX,cDOWN POINTING INDEX,aBLACK UP POINTING BACKHAND INDEX",
  "bDOWN POINTING BACKHAND INDEX,bHEART,aDESKTOP COMPUTER,aKEYBOARD AND MOUSE",
  "aTHREE NETWORKED COMPUTERS,aPRINTER,aPOCKET CALCULATOR,aBLACK HARD SHELL FLOPPY DISK",
  "aWHITE HARD SHELL FLOPPY DISK,aSOFT SHELL FLOPPY DISK,aTAPE CARTRIDGE,aWIRED KEYBOARD",
  "aONE BUTTON MOUSE,aTWO BUTTON MOUSE,aTHREE BUTTON MOUSE,aTRACKBALL,aOLD PERSONAL COMPUTER",
  "aHARD DISK,aSCREEN,aPRINTER ICON,aFAX ICON,aOPTICAL DISC ICON,aDOCUMENT WITH TEXT,dAND PICTURE",
  "cPICTURE,aFRAME WITH PICTURE,cTILES,cAN X,aBLACK FOLDER,aFOLDER,aOPEN FOLDER",
  "aCARD INDEX DIVIDERS,bFILE BOX,aFILE CABINET,aEMPTY NOTE,cPAGE,cPAD,aNOTE,bPAGE,bPAD",
  "aEMPTY DOCUMENT,bPAGE,bPAGES,aDOCUMENT,aPAGE,aPAGES,aWASTEBASKET,aSPIRAL NOTE PAD",
  "bCALENDAR PAD,aDESKTOP WINDOW,aMINIMIZE,aMAXIMIZE,aOVERLAP",
  "aCLOCKWISE RIGHT AND LEFT SEMICIRCLE ARROWS,aCANCELLATION X,aINCREASE FONT SIZE SYMBOL",
  "aDECREASE FONT SIZE SYMBOL,aCOMPRESSION,aOLD KEY,aROLLED-UP NEWSPAPER,aPAGE WITH CIRCLED TEXT",
  "aSTOCK CHART,aDAGGER KNIFE,aLIPS,aSPEAKING HEAD IN SILHOUETTE,aTHREE RAYS ABOVE,cBELOW,cLEFT",
  "cRIGHT,aLEFT SPEECH BUBBLE,aRIGHT SPEECH BUBBLE,aTWO SPEECH BUBBLES,aTHREE SPEECH BUBBLES",
  "aLEFT THOUGHT BUBBLE,aRIGHT THOUGHT BUBBLE,aLEFT ANGER BUBBLE,aRIGHT ANGER BUBBLE,aMOOD BUBBLE",
  "aLIGHTNING MOOD BUBBLE,bMOOD,aBALLOT BOX WITH BALLOT,bSCRIPT X,bBOX WITH SCRIPT X",
  "bBOLD SCRIPT X,bBOX WITH BOLD SCRIPT X,aLIGHT CHECK MARK,aBALLOT BOX WITH BOLD CHECK",
  "aWORLD MAP,aMOUNT FUJI,aTOKYO TOWER,aSTATUE OF LIBERTY,aSILHOUETTE OF JAPAN,aMOYAI",
  "aGRINNING FACE,cWITH SMILING EYES,aFACE WITH TEARS OF JOY,aSMILING FACE WITH OPEN MOUTH",
  "fAND SMILING EYES,gCOLD SWEAT,gTIGHTLY-CLOSED EYES,dHALO,dHORNS,aWINKING FACE",
  "aSMILING FACE WITH SMILING EYES,aFACE SAVOURING DELICIOUS FOOD,aRELIEVED FACE",
  "aSMILING FACE WITH HEART-SHAPED EYES,dSUNGLASSES,aSMIRKING FACE,aNEUTRAL FACE",
  "aEXPRESSIONLESS FACE,aUNAMUSED FACE,aFACE WITH COLD SWEAT,aPENSIVE FACE,aCONFUSED FACE",
  "aCONFOUNDED FACE,aKISSING FACE,aFACE THROWING A KISS,aKISSING FACE WITH SMILING EYES",
  "dCLOSED EYES,aFACE WITH STUCK-OUT TONGUE,eAND WINKING EYE,fTIGHTLY-CLOSED EYES",
  "aDISAPPOINTED FACE,aWORRIED FACE,aANGRY FACE,aPOUTING FACE,aCRYING FACE,aPERSEVERING FACE",
  "aFACE WITH LOOK OF TRIUMPH,aDISAPPOINTED BUT RELIEVED FACE,aFROWNING FACE WITH OPEN MOUTH",
  "aANGUISHED FACE,aFEARFUL FACE,aWEARY FACE,aSLEEPY FACE,aTIRED FACE,aGRIMACING FACE",
  "aLOUDLY CRYING FACE,aFACE WITH OPEN MOUTH,aHUSHED FACE,aFACE WITH OPEN MOUTH AND COLD SWEAT",
  "bSCREAMING IN FEAR,aASTONISHED FACE,aFLUSHED FACE,aSLEEPING FACE,aDIZZY FACE",
  "aFACE WITHOUT MOUTH,bWITH MEDICAL MASK,aGRINNING CAT FACE WITH SMILING EYES",
  "aCAT FACE WITH TEARS OF JOY,aSMILING CAT FACE WITH OPEN MOUTH,eHEART-SHAPED EYES",
  "aCAT FACE WITH WRY SMILE,aKISSING CAT FACE WITH CLOSED EYES,aPOUTING CAT FACE,aCRYING CAT FACE",
  "aWEARY CAT FACE,aSLIGHTLY FROWNING FACE,bSMILING FACE,aUPSIDE-DOWN FACE",
  "aFACE WITH ROLLING EYES,cNO GOOD GESTURE,cOK GESTURE,aPERSON BOWING DEEPLY,aSEE-NO-EVIL MONKEY",
  "aHEAR-NO-EVIL MONKEY,aSPEAK-NO-EVIL MONKEY,aHAPPY PERSON RAISING ONE HAND",
  "aPERSON RAISING BOTH HANDS IN CELEBRATION,bFROWNING,bWITH POUTING FACE,cFOLDED HANDS",
  "aNORTH WEST POINTING LEAF,aSOUTH WEST POINTING LEAF,aNORTH EAST POINTING LEAF",
  "aSOUTH EAST POINTING LEAF,aTURNED NORTH WEST POINTING LEAF,bSOUTH WEST POINTING LEAF",
  "bNORTH EAST POINTING LEAF,bSOUTH EAST POINTING LEAF,aNORTH WEST POINTING VINE LEAF",
  "aSOUTH WEST POINTING VINE LEAF,aNORTH EAST POINTING VINE LEAF,aSOUTH EAST POINTING VINE LEAF",
  "aHEAVY NORTH WEST POINTING VINE LEAF,bSOUTH WEST POINTING VINE LEAF",
  "bNORTH EAST POINTING VINE LEAF,bSOUTH EAST POINTING VINE LEAF,aNORTH WEST POINTING BUD",
  "aSOUTH WEST POINTING BUD,aNORTH EAST POINTING BUD,aSOUTH EAST POINTING BUD",
  "aHEAVY NORTH WEST POINTING BUD,bSOUTH WEST POINTING BUD,bNORTH EAST POINTING BUD",
  "bSOUTH EAST POINTING BUD,aHOLLOW QUILT SQUARE ORNAMENT,eIN BLACK SQUARE",
  "aSOLID QUILT SQUARE ORNAMENT,eIN BLACK SQUARE,aLEFTWARDS ROCKET,aUPWARDS ROCKET"]

/-- Part 2 of the table. -/
def pictographNamesSecond : List String := [
  "aRIGHTWARDS ROCKET,aDOWNWARDS ROCKET,aSCRIPT LIGATURE ET ORNAMENT",
  "aHEAVY SCRIPT LIGATURE ET ORNAMENT,aLIGATURE OPEN ET ORNAMENT,aHEAVY LIGATURE OPEN ET ORNAMENT",
  "bAMPERSAND ORNAMENT,aSWASH AMPERSAND ORNAMENT",
  "aSANS-SERIF HEAVY DOUBLE TURNED COMMA QUOTATION MARK ORNAMENT,dCOMMA QUOTATION MARK ORNAMENT",
  "cLOW DOUBLE COMMA QUOTATION MARK ORNAMENT,aHEAVY INTERROBANG ORNAMENT",
  "aSANS-SERIF INTERROBANG ORNAMENT,aHEAVY SANS-SERIF INTERROBANG ORNAMENT,aVERY HEAVY SOLIDUS",
  "cREVERSE SOLIDUS,aCHECKER BOARD,aREVERSE CHECKER BOARD,aROCKET,aHELICOPTER,aSTEAM LOCOMOTIVE",
  "aRAILWAY CAR,aHIGH-SPEED TRAIN,cWITH BULLET NOSE,aTRAIN,aMETRO,aLIGHT RAIL,aSTATION,aTRAM,bCAR",
  "aBUS,aONCOMING BUS,aTROLLEYBUS,aBUS STOP,aMINIBUS,aAMBULANCE,aFIRE ENGINE,aPOLICE CAR",
  "aONCOMING POLICE CAR,aTAXI,aONCOMING TAXI,aAUTOMOBILE,aONCOMING AUTOMOBILE",
  "aRECREATIONAL VEHICLE,aDELIVERY TRUCK,aARTICULATED LORRY,aTRACTOR,aMONORAIL,aMOUNTAIN RAILWAY",
  "aSUSPENSION RAILWAY,aMOUNTAIN CABLEWAY,aAERIAL TRAMWAY,aSHIP,aROWBOAT,aSPEEDBOAT",
  "aHORIZONTAL TRAFFIC LIGHT,aVERTICAL TRAFFIC LIGHT,aCONSTRUCTION SIGN",
  "aPOLICE CARS REVOLVING LIGHT,aTRIANGULAR FLAG ON POST,aDOOR,aNO ENTRY SIGN,aSMOKING SYMBOL",
  "aNO SMOKING SYMBOL,aPUT LITTER IN ITS PLACE SYMBOL,aDO NOT LITTER SYMBOL,aPOTABLE WATER SYMBOL",
  "aNON-POTABLE WATER SYMBOL,aBICYCLE,aNO BICYCLES,aBICYCLIST,aMOUNTAIN BICYCLIST,aPEDESTRIAN",
  "aNO PEDESTRIANS,aCHILDREN CROSSING,aMENS SYMBOL,aWOMENS SYMBOL,aRESTROOM,aBABY SYMBOL,aTOILET",
  "aWATER CLOSET,aSHOWER,aBATH,aBATHTUB,aPASSPORT CONTROL,aCUSTOMS,aBAGGAGE CLAIM,aLEFT LUGGAGE",
  "aTRIANGLE WITH ROUNDED CORNERS,aPROHIBITED SIGN,aCIRCLED INFORMATION SOURCE,aBOYS SYMBOL",
  "aGIRLS SYMBOL,aCOUCH AND LAMP,aSLEEPING ACCOMMODATION,aSHOPPING BAGS,aBELLHOP BELL,aBED",
  "aPLACE OF WORSHIP,aOCTAGONAL SIGN,aSHOPPING TROLLEY,aSTUPA,aPAGODA,aHINDU TEMPLE,aHUT",
  "aELEVATOR,=1F6DD,aPLAYGROUND SLIDE,aWHEEL,aRING BUOY,aHAMMER AND WRENCH,aSHIELD,aOIL DRUM",
  "aMOTORWAY,aRAILWAY TRACK,aMOTOR BOAT,aUP-POINTING MILITARY AIRPLANE,bAIRPLANE,bSMALL AIRPLANE",
  "aSMALL AIRPLANE,aNORTHEAST-POINTING AIRPLANE,aAIRPLANE DEPARTURE,bARRIVING,=1F6F0,aSATELLITE",
  "aONCOMING FIRE ENGINE,aDIESEL LOCOMOTIVE,aPASSENGER SHIP,aSCOOTER,aMOTOR SCOOTER,aCANOE,aSLED",
  "aFLYING SAUCER,aSKATEBOARD,aAUTO RICKSHAW,aPICKUP TRUCK,aROLLER SKATE,=1F700",
  "aALCHEMICAL SYMBOL FOR QUINTESSENCE,dAIR,dFIRE,dEARTH,dWATER,dAQUAFORTIS,dAQUA REGIA,eREGIA-2",
  "eVITAE,eVITAE-2,dVINEGAR,dVINEGAR-2,dVINEGAR-3,dSULFUR,dPHILOSOPHERS SULFUR,dBLACK SULFUR",
  "dMERCURY SUBLIMATE,eSUBLIMATE-2,eSUBLIMATE-3,dCINNABAR,dSALT,dNITRE,dVITRIOL,dVITRIOL-2",
  "dROCK SALT,eSALT-2,dGOLD,dSILVER,dIRON ORE,eORE-2,dCROCUS OF IRON,dREGULUS OF IRON,dCOPPER ORE",
  "dIRON-COPPER ORE,dSUBLIMATE OF COPPER,dCROCUS OF COPPER,fCOPPER-2,dCOPPER ANTIMONIATE",
  "dSALT OF COPPER ANTIMONIATE,dSUBLIMATE OF SALT OF COPPER,dVERDIGRIS,dTIN ORE,dLEAD ORE",
  "dANTIMONY ORE,dSUBLIMATE OF ANTIMONY,dSALT OF ANTIMONY,dSUBLIMATE OF SALT OF ANTIMONY",
  "dVINEGAR OF ANTIMONY,dREGULUS OF ANTIMONY,fANTIMONY-2,dREGULUS,dREGULUS-2,dREGULUS-3",
  "dREGULUS-4,dALKALI,dALKALI-2,dMARCASITE,dSAL-AMMONIAC,dARSENIC,dREALGAR,dREALGAR-2",
  "dAURIPIGMENT,dBISMUTH ORE,dTARTAR,dTARTAR-2,dQUICK LIME,dBORAX,dBORAX-2,dBORAX-3,dALUM,dOIL",
  "dSPIRIT,dTINCTURE,dGUM,dWAX,dPOWDER,dCALX,dTUTTY,dCAPUT MORTUUM,dSCEPTER OF JOVE,dCADUCEUS",
  "dTRIDENT,dSTARRED TRIDENT,dLODESTONE,dSOAP,dURINE,dHORSE DUNG,dASHES,dPOT ASHES,dBRICK",
  "dPOWDERED BRICK,dAMALGAM,dSTRATUM SUPER STRATUM,fSTRATUM-2,dSUBLIMATION,dPRECIPITATE,dDISTILL",
  "dDISSOLVE,dDISSOLVE-2,dPURIFY,dPUTREFACTION,dCRUCIBLE,dCRUCIBLE-2,dCRUCIBLE-3,dCRUCIBLE-4",
  "dCRUCIBLE-5,dALEMBIC,dBATH OF MARY,fVAPOURS,dRETORT,dHOUR,dNIGHT,dDAY-NIGHT,dMONTH,dHALF DRAM",
  "eOUNCE,=1F780,aBLACK LEFT-POINTING ISOSCELES RIGHT TRIANGLE",
  "bUP-POINTING ISOSCELES RIGHT TRIANGLE,bRIGHT-POINTING ISOSCELES RIGHT TRIANGLE",
  "bDOWN-POINTING ISOSCELES RIGHT TRIANGLE,bSLIGHTLY SMALL CIRCLE,aMEDIUM BOLD WHITE CIRCLE",
  "aBOLD WHITE CIRCLE,aHEAVY WHITE CIRCLE,aVERY HEAVY WHITE CIRCLE,aEXTREMELY HEAVY WHITE CIRCLE",
  "aWHITE CIRCLE CONTAINING BLACK SMALL CIRCLE,aROUND TARGET,aBLACK TINY SQUARE",
  "bSLIGHTLY SMALL SQUARE,aLIGHT WHITE SQUARE,aMEDIUM WHITE SQUARE,aBOLD WHITE SQUARE",
  "aHEAVY WHITE SQUARE,aVERY HEAVY WHITE SQUARE,aEXTREMELY HEAVY WHITE SQUARE",
  "aWHITE SQUARE CONTAINING BLACK VERY SMALL SQUARE,eMEDIUM SQUARE,aSQUARE TARGET",
  "aBLACK TINY DIAMOND,bVERY SMALL DIAMOND,bMEDIUM SMALL DIAMOND",
  "aWHITE DIAMOND CONTAINING BLACK VERY SMALL DIAMOND,eMEDIUM DIAMOND,aDIAMOND TARGET",
  "aBLACK TINY LOZENGE,bVERY SMALL LOZENGE,bMEDIUM SMALL LOZENGE",
  "aWHITE LOZENGE CONTAINING BLACK SMALL LOZENGE,aTHIN GREEK CROSS,aLIGHT GREEK CROSS",
  "aMEDIUM GREEK CROSS,aBOLD GREEK CROSS,aVERY BOLD GREEK CROSS,bHEAVY GREEK CROSS",
  "aEXTREMELY HEAVY GREEK CROSS,aTHIN SALTIRE,aLIGHT SALTIRE,aMEDIUM SALTIRE,aBOLD SALTIRE",
  "aHEAVY SALTIRE,aVERY HEAVY SALTIRE,aEXTREMELY HEAVY SALTIRE,aLIGHT FIVE SPOKED ASTERISK",
  "aMEDIUM FIVE SPOKED ASTERISK,aBOLD FIVE SPOKED ASTERISK,aHEAVY FIVE SPOKED ASTERISK",
  "aVERY HEAVY FIVE SPOKED ASTERISK,aEXTREMELY HEAVY FIVE SPOKED ASTERISK",
  "aLIGHT SIX SPOKED ASTERISK,aMEDIUM SIX SPOKED ASTERISK,aBOLD SIX SPOKED ASTERISK",
  "aHEAVY SIX SPOKED ASTERISK,aVERY HEAVY SIX SPOKED ASTERISK",
  "aEXTREMELY HEAVY SIX SPOKED ASTERISK,aLIGHT EIGHT SPOKED ASTERISK",
  "aMEDIUM EIGHT SPOKED ASTERISK,aBOLD EIGHT SPOKED ASTERISK,aHEAVY EIGHT SPOKED ASTERISK",
  "aVERY HEAVY EIGHT SPOKED ASTERISK,aLIGHT THREE POINTED BLACK STAR",
  "aMEDIUM THREE POINTED BLACK STAR,aTHREE POINTED BLACK STAR,aMEDIUM THREE POINTED PINWHEEL STAR",
  "aLIGHT FOUR POINTED BLACK STAR,aMEDIUM FOUR POINTED BLACK STAR,aFOUR POINTED BLACK STAR",
  "aMEDIUM FOUR POINTED PINWHEEL STAR,aREVERSE LIGHT FOUR POINTED PINWHEEL STAR",
  "aLIGHT FIVE POINTED BLACK STAR,aHEAVY FIVE POINTED BLACK STAR,aMEDIUM SIX POINTED BLACK STAR",
  "aHEAVY SIX POINTED BLACK STAR,aSIX POINTED PINWHEEL STAR,aMEDIUM EIGHT POINTED BLACK STAR",
  "aHEAVY EIGHT POINTED BLACK STAR,aVERY HEAVY EIGHT POINTED BLACK STAR",
  "aHEAVY EIGHT POINTED PINWHEEL STAR,aLIGHT TWELVE POINTED BLACK STAR",
  "aHEAVY TWELVE POINTED BLACK STAR,dPINWHEEL STAR,aCIRCLED TRIANGLE,aNEGATIVE CIRCLED TRIANGLE",
  "aCIRCLED SQUARE,aNEGATIVE CIRCLED SQUARE,=1F7E0,aLARGE ORANGE CIRCLE,bYELLOW CIRCLE",
  "bGREEN CIRCLE,bPURPLE CIRCLE,bBROWN CIRCLE,bRED SQUARE,bBLUE SQUARE,bORANGE SQUARE",
  "bYELLOW SQUARE,bGREEN SQUARE,bPURPLE SQUARE,bBROWN SQUARE,=1F7F0,aHEAVY EQUALS SIGN,=1F800",
  "aLEFTWARDS ARROW WITH SMALL TRIANGLE ARROWHEAD,aUPWARDS ARROW WITH SMALL TRIANGLE ARROWHEAD",
  "aRIGHTWARDS ARROW WITH SMALL TRIANGLE ARROWHEAD,aDOWNWARDS ARROW WITH SMALL TRIANGLE ARROWHEAD",
  "aLEFTWARDS ARROW WITH MEDIUM TRIANGLE ARROWHEAD,aUPWARDS ARROW WITH MEDIUM TRIANGLE ARROWHEAD",
  "aRIGHTWARDS ARROW WITH MEDIUM TRIANGLE ARROWHEAD",
  "aDOWNWARDS ARROW WITH MEDIUM TRIANGLE ARROWHEAD,aLEFTWARDS ARROW WITH LARGE TRIANGLE ARROWHEAD",
  "aUPWARDS ARROW WITH LARGE TRIANGLE ARROWHEAD,aRIGHTWARDS ARROW WITH LARGE TRIANGLE ARROWHEAD",
  "aDOWNWARDS ARROW WITH LARGE TRIANGLE ARROWHEAD,=1F810",
  "aLEFTWARDS ARROW WITH SMALL EQUILATERAL ARROWHEAD",
  "aUPWARDS ARROW WITH SMALL EQUILATERAL ARROWHEAD",
  "aRIGHTWARDS ARROW WITH SMALL EQUILATERAL ARROWHEAD",
  "aDOWNWARDS ARROW WITH SMALL EQUILATERAL ARROWHEAD,aLEFTWARDS ARROW WITH EQUILATERAL ARROWHEAD",
  "aUPWARDS ARROW WITH EQUILATERAL ARROWHEAD,aRIGHTWARDS ARROW WITH EQUILATERAL ARROWHEAD",
  "aDOWNWARDS ARROW WITH EQUILATERAL ARROWHEAD,aHEAVY LEFTWARDS ARROW WITH EQUILATERAL ARROWHEAD",
  "bUPWARDS ARROW WITH EQUILATERAL ARROWHEAD,bRIGHTWARDS ARROW WITH EQUILATERAL ARROWHEAD",
  "bDOWNWARDS ARROW WITH EQUILATERAL ARROWHEAD,bLEFTWARDS ARROW WITH LARGE EQUILATERAL ARROWHEAD",
  "bUPWARDS ARROW WITH LARGE EQUILATERAL ARROWHEAD",
  "bRIGHTWARDS ARROW WITH LARGE EQUILATERAL ARROWHEAD",
  "bDOWNWARDS ARROW WITH LARGE EQUILATERAL ARROWHEAD",
  "aLEFTWARDS TRIANGLE-HEADED ARROW WITH NARROW SHAFT",
  "aUPWARDS TRIANGLE-HEADED ARROW WITH NARROW SHAFT",
  "aRIGHTWARDS TRIANGLE-HEADED ARROW WITH NARROW SHAFT",
  "aDOWNWARDS TRIANGLE-HEADED ARROW WITH NARROW SHAFT",
  "aLEFTWARDS TRIANGLE-HEADED ARROW WITH MEDIUM SHAFT",
  "aUPWARDS TRIANGLE-HEADED ARROW WITH MEDIUM SHAFT",
  "aRIGHTWARDS TRIANGLE-HEADED ARROW WITH MEDIUM SHAFT",
  "aDOWNWARDS TRIANGLE-HEADED ARROW WITH MEDIUM SHAFT",
  "aLEFTWARDS TRIANGLE-HEADED ARROW WITH BOLD SHAFT",
  "aUPWARDS TRIANGLE-HEADED ARROW WITH BOLD SHAFT",
  "aRIGHTWARDS TRIANGLE-HEADED ARROW WITH BOLD SHAFT",
  "aDOWNWARDS TRIANGLE-HEADED ARROW WITH BOLD SHAFT",
  "aLEFTWARDS TRIANGLE-HEADED ARROW WITH HEAVY SHAFT",
  "aUPWARDS TRIANGLE-HEADED ARROW WITH HEAVY SHAFT",
  "aRIGHTWARDS TRIANGLE-HEADED ARROW WITH HEAVY SHAFT",
  "aDOWNWARDS TRIANGLE-HEADED ARROW WITH HEAVY SHAFT",
  "aLEFTWARDS TRIANGLE-HEADED ARROW WITH VERY HEAVY SHAFT",
  "aUPWARDS TRIANGLE-HEADED ARROW WITH VERY HEAVY SHAFT",
  "aRIGHTWARDS TRIANGLE-HEADED ARROW WITH VERY HEAVY SHAFT",
  "aDOWNWARDS TRIANGLE-HEADED ARROW WITH VERY HEAVY SHAFT,aLEFTWARDS FINGER-POST ARROW",
  "aUPWARDS FINGER-POST ARROW,aRIGHTWARDS FINGER-POST ARROW,aDOWNWARDS FINGER-POST ARROW",
  "aLEFTWARDS SQUARED ARROW,aUPWARDS SQUARED ARROW,aRIGHTWARDS SQUARED ARROW",
  "aDOWNWARDS SQUARED ARROW,aLEFTWARDS COMPRESSED ARROW,aUPWARDS COMPRESSED ARROW",
  "aRIGHTWARDS COMPRESSED ARROW,aDOWNWARDS COMPRESSED ARROW,aLEFTWARDS HEAVY COMPRESSED ARROW",
  "aUPWARDS HEAVY COMPRESSED ARROW,aRIGHTWARDS HEAVY COMPRESSED ARROW",
  "aDOWNWARDS HEAVY COMPRESSED ARROW,aLEFTWARDS HEAVY ARROW,aUPWARDS HEAVY ARROW",
  "aRIGHTWARDS HEAVY ARROW,aDOWNWARDS HEAVY ARROW,=1F850,aLEFTWARDS SANS-SERIF ARROW",
  "aUPWARDS SANS-SERIF ARROW,aRIGHTWARDS SANS-SERIF ARROW,aDOWNWARDS SANS-SERIF ARROW",
  "aNORTH WEST SANS-SERIF ARROW,bEAST SANS-SERIF ARROW,aSOUTH EAST SANS-SERIF ARROW",
  "bWEST SANS-SERIF ARROW,aLEFT RIGHT SANS-SERIF ARROW,aUP DOWN SANS-SERIF ARROW,=1F860",
  "aWIDE-HEADED LEFTWARDS LIGHT BARB ARROW,bUPWARDS LIGHT BARB ARROW,bRIGHTWARDS LIGHT BARB ARROW",
  "bDOWNWARDS LIGHT BARB ARROW,bNORTH WEST LIGHT BARB ARROW,cEAST LIGHT BARB ARROW",
  "bSOUTH EAST LIGHT BARB ARROW,cWEST LIGHT BARB ARROW,bLEFTWARDS BARB ARROW,bUPWARDS BARB ARROW",
  "bRIGHTWARDS BARB ARROW,bDOWNWARDS BARB ARROW,bNORTH WEST BARB ARROW,cEAST BARB ARROW",
  "bSOUTH EAST BARB ARROW,cWEST BARB ARROW,bLEFTWARDS MEDIUM BARB ARROW",
  "bUPWARDS MEDIUM BARB ARROW,bRIGHTWARDS MEDIUM BARB ARROW,bDOWNWARDS MEDIUM BARB ARROW",
  "bNORTH WEST MEDIUM BARB ARROW,cEAST MEDIUM BARB ARROW,bSOUTH EAST MEDIUM BARB ARROW",
  "cWEST MEDIUM BARB ARROW,bLEFTWARDS HEAVY BARB ARROW,bUPWARDS HEAVY BARB ARROW",
  "bRIGHTWARDS HEAVY BARB ARROW,bDOWNWARDS HEAVY BARB ARROW,bNORTH WEST HEAVY BARB ARROW",
  "cEAST HEAVY BARB ARROW,bSOUTH EAST HEAVY BARB ARROW,cWEST HEAVY BARB ARROW",
  "bLEFTWARDS VERY HEAVY BARB ARROW,bUPWARDS VERY HEAVY BARB ARROW",
  "bRIGHTWARDS VERY HEAVY BARB ARROW,bDOWNWARDS VERY HEAVY BARB ARROW",
  "bNORTH WEST VERY HEAVY BARB ARROW,cEAST VERY HEAVY BARB ARROW",
  "bSOUTH EAST VERY HEAVY BARB ARROW,cWEST VERY HEAVY BARB ARROW,=1F890",
  "aLEFTWARDS TRIANGLE ARROWHEAD,aUPWARDS TRIANGLE ARROWHEAD,aRIGHTWARDS TRIANGLE ARROWHEAD",
  "aDOWNWARDS TRIANGLE ARROWHEAD,aLEFTWARDS WHITE ARROW WITHIN TRIANGLE ARROWHEAD",
  "aUPWARDS WHITE ARROW WITHIN TRIANGLE ARROWHEAD",
  "aRIGHTWARDS WHITE ARROW WITHIN TRIANGLE ARROWHEAD",
  "aDOWNWARDS WHITE ARROW WITHIN TRIANGLE ARROWHEAD,aLEFTWARDS ARROW WITH NOTCHED TAIL",
  "aUPWARDS ARROW WITH NOTCHED TAIL,aRIGHTWARDS ARROW WITH NOTCHED TAIL",
  "aDOWNWARDS ARROW WITH NOTCHED TAIL,aHEAVY ARROW SHAFT WIDTH ONE,eTWO THIRDS,eONE HALF,fTHIRD",
  "aLEFTWARDS BOTTOM-SHADED WHITE ARROW,aRIGHTWARDS BOTTOM SHADED WHITE ARROW",
  "aLEFTWARDS TOP SHADED WHITE ARROW,aRIGHTWARDS TOP SHADED WHITE ARROW",
  "aLEFTWARDS LEFT-SHADED WHITE ARROW,aRIGHTWARDS RIGHT-SHADED WHITE ARROW",
  "aLEFTWARDS RIGHT-SHADED WHITE ARROW,aRIGHTWARDS LEFT-SHADED WHITE ARROW",
  "aLEFTWARDS BACK-TILTED SHADOWED WHITE ARROW,aRIGHTWARDS BACK-TILTED SHADOWED WHITE ARROW",
  "aLEFTWARDS FRONT-TILTED SHADOWED WHITE ARROW,aRIGHTWARDS FRONT-TILTED SHADOWED WHITE ARROW",
  "aWHITE ARROW SHAFT WIDTH ONE,eTWO THIRDS,=1F8B0,aARROW POINTING UPWARDS THEN NORTH WEST",
  "cRIGHTWARDS THEN CURVING SOUTH WEST,=1F900,aCIRCLED CROSS FORMEE WITH FOUR DOTS,eTWO DOTS",
  "cFORMEE,aLEFT HALF CIRCLE WITH FOUR DOTS,eTHREE DOTS,eTWO DOTS,eDOT,cCIRCLE",
  "aDOWNWARD FACING HOOK,cNOTCHED HOOK,cHOOK WITH DOT,cNOTCHED HOOK WITH DOT,aPINCHED FINGERS",
  "aWHITE HEART,aBROWN HEART,aPINCHING HAND,aZIPPER-MOUTH FACE,aMONEY-MOUTH FACE",
  "aFACE WITH THERMOMETER,aNERD FACE,aTHINKING FACE,aFACE WITH HEAD-BANDAGE,aROBOT FACE",
  "aHUGGING FACE,aSIGN OF THE HORNS,aCALL ME HAND,aRAISED BACK OF HAND,aLEFT-FACING FIST",
  "aRIGHT-FACING FIST,aHANDSHAKE,aHAND WITH INDEX AND MIDDLE FINGERS CROSSED",
  "aI LOVE YOU HAND SIGN,aFACE WITH COWBOY HAT,aCLOWN FACE,aNAUSEATED FACE",
  "aROLLING ON THE FLOOR LAUGHING,aDROOLING FACE,aLYING FACE,aFACE PALM,aSNEEZING FACE",
  "aFACE WITH ONE EYEBROW RAISED,aGRINNING FACE WITH STAR EYES,dONE LARGE AND ONE SMALL EYE",
  "aFACE WITH FINGER COVERING CLOSED LIPS,aSERIOUS FACE WITH SYMBOLS COVERING MOUTH",
  "aSMILING FACE WITH SMILING EYES AND HAND COVERING MOUTH,aFACE WITH OPEN MOUTH VOMITING",
  "aSHOCKED FACE WITH EXPLODING HEAD,aPREGNANT WOMAN,aBREAST-FEEDING,aPALMS UP TOGETHER,aSELFIE",
  "aPRINCE,aMAN IN TUXEDO,aMOTHER CHRISTMAS,aSHRUG,aPERSON DOING CARTWHEEL,aJUGGLING,aFENCER",
  "aMODERN PENTATHLON,aWRESTLERS,aWATER POLO,aHANDBALL,aDIVING MASK,aWILTED FLOWER",
  "aDRUM WITH DRUMSTICKS,aCLINKING GLASSES,aTUMBLER GLASS,aSPOON,aGOAL NET,aRIFLE",
  "aFIRST PLACE MEDAL,aSECOND PLACE MEDAL,aTHIRD PLACE MEDAL,aBOXING GLOVE,aMARTIAL ARTS UNIFORM",
  "aCURLING STONE,aLACROSSE STICK AND BALL,aSOFTBALL,aFLYING DISC,aCROISSANT,aAVOCADO,aCUCUMBER",
  "aBACON,aPOTATO,aCARROT,aBAGUETTE BREAD,aGREEN SALAD,aSHALLOW PAN OF FOOD,aSTUFFED FLATBREAD",
  "aEGG,aGLASS OF MILK,aPEANUTS,aKIWIFRUIT,aPANCAKES,aDUMPLING,aFORTUNE COOKIE,aTAKEOUT BOX",
  "aCHOPSTICKS,aBOWL WITH SPOON,aCUP WITH STRAW,aCOCONUT,aBROCCOLI,aPIE,aPRETZEL,aCUT OF MEAT",
  "aSANDWICH,aCANNED FOOD,aLEAFY GREEN,aMANGO,aMOON CAKE,aBAGEL",
  "aSMILING FACE WITH SMILING EYES AND THREE HEARTS,aYAWNING FACE,aSMILING FACE WITH TEAR",
  "aFACE WITH PARTY HORN AND PARTY HAT,cUNEVEN EYES AND WAVY MOUTH,aOVERHEATED FACE",
  "aFREEZING FACE,aNINJA,aDISGUISED FACE,aFACE HOLDING BACK TEARS,bWITH PLEADING EYES,aSARI",
  "aLAB COAT,aGOGGLES,aHIKING BOOT,aFLAT SHOE,aCRAB,aLION FACE,aSCORPION,aTURKEY,aUNICORN FACE",
  "aEAGLE,aDUCK,aBAT,aSHARK,aOWL,aFOX FACE,aBUTTERFLY,aDEER,aGORILLA,aLIZARD,aRHINOCEROS,aSHRIMP",
  "aSQUID,aGIRAFFE FACE,aZEBRA FACE,aHEDGEHOG,aSAUROPOD,aT-REX,aCRICKET,aKANGAROO,aLLAMA,aPEACOCK",
  "aHIPPOPOTAMUS,aPARROT,aRACCOON,aLOBSTER,aMOSQUITO,aMICROBE,aBADGER,aSWAN,aMAMMOTH,aDODO,aSLOTH",
  "aOTTER,aORANGUTAN,aSKUNK,aFLAMINGO,aOYSTER,aBEAVER,aBISON,aSEAL,aGUIDE DOG,aPROBING CANE",
  "aEMOJI COMPONENT RED HAIR,cCURLY HAIR,cBALD,cWHITE HAIR,aBONE,aLEG,aFOOT,aTOOTH,aSUPERHERO",
  "aSUPERVILLAIN,aSAFETY VEST,aEAR WITH HEARING AID,aMOTORIZED WHEELCHAIR,aMANUAL WHEELCHAIR",
  "aMECHANICAL ARM,bLEG,aCHEESE WEDGE,aCUPCAKE,aSALT SHAKER,aBEVERAGE BOX,aGARLIC,aONION,aFALAFEL",
  "aWAFFLE,aBUTTER,aMATE DRINK,aICE CUBE,aBUBBLE TEA,aTROLL,aSTANDING PERSON,aKNEELING PERSON",
  "aDEAF PERSON,aFACE WITH MONOCLE,aADULT,aCHILD,aOLDER ADULT,aBEARDED PERSON",
  "aPERSON WITH HEADSCARF,bIN STEAMY ROOM,bCLIMBING,bIN LOTUS POSITION,aMAGE,aFAIRY,aVAMPIRE",
  "aMERPERSON,aELF,aGENIE,aZOMBIE,aBRAIN,aORANGE HEART,aBILLED CAP,aSCARF,aGLOVES,aCOAT,aSOCKS",
  "aRED GIFT ENVELOPE,aFIRECRACKER,aJIGSAW PUZZLE PIECE,aTEST TUBE,aPETRI DISH,aDNA DOUBLE HELIX",
  "aCOMPASS,aABACUS,aFIRE EXTINGUISHER,aTOOLBOX,aBRICK,aMAGNET,aLUGGAGE,aLOTION BOTTLE",
  "aSPOOL OF THREAD,aBALL OF YARN,aSAFETY PIN,aTEDDY BEAR,aBROOM,aBASKET,aROLL OF PAPER",
  "aBAR OF SOAP,aSPONGE,aRECEIPT,aNAZAR AMULET,aNEUTRAL CHESS KING,cQUEEN,cROOK,cBISHOP,cKNIGHT",
  "cPAWN,aWHITE CHESS KNIGHT ROTATED FORTY-FIVE DEGREES",
  "aBLACK CHESS KNIGHT ROTATED FORTY-FIVE DEGREES",
  "aNEUTRAL CHESS KNIGHT ROTATED FORTY-FIVE DEGREES,aWHITE CHESS KING ROTATED NINETY DEGREES",
  "cQUEEN ROTATED NINETY DEGREES,cROOK ROTATED NINETY DEGREES,cBISHOP ROTATED NINETY DEGREES",
  "cKNIGHT ROTATED NINETY DEGREES,cPAWN ROTATED NINETY DEGREES",
  "aBLACK CHESS KING ROTATED NINETY DEGREES,cQUEEN ROTATED NINETY DEGREES",
  "cROOK ROTATED NINETY DEGREES,cBISHOP ROTATED NINETY DEGREES,cKNIGHT ROTATED NINETY DEGREES",
  "cPAWN ROTATED NINETY DEGREES,aNEUTRAL CHESS KING ROTATED NINETY DEGREES",
  "cQUEEN ROTATED NINETY DEGREES,cROOK ROTATED NINETY DEGREES,cBISHOP ROTATED NINETY DEGREES",
  "cKNIGHT ROTATED NINETY DEGREES,cPAWN ROTATED NINETY DEGREES",
  "aWHITE CHESS KNIGHT ROTATED ONE HUNDRED THIRTY-FIVE DEGREES",
  "aBLACK CHESS KNIGHT ROTATED ONE HUNDRED THIRTY-FIVE DEGREES",
  "aNEUTRAL CHESS KNIGHT ROTATED ONE HUNDRED THIRTY-FIVE DEGREES,aWHITE CHESS TURNED KING,dQUEEN",
  "dROOK,dBISHOP,dKNIGHT,dPAWN,aBLACK CHESS TURNED KING,dQUEEN,dROOK,dBISHOP,dKNIGHT,dPAWN",
  "aNEUTRAL CHESS TURNED KING,dQUEEN,dROOK,dBISHOP,dKNIGHT,dPAWN",
  "aWHITE CHESS KNIGHT ROTATED TWO HUNDRED TWENTY-FIVE DEGREES",
  "aBLACK CHESS KNIGHT ROTATED TWO HUNDRED TWENTY-FIVE DEGREES",
  "aNEUTRAL CHESS KNIGHT ROTATED TWO HUNDRED TWENTY-FIVE DEGREES",
  "aWHITE CHESS KING ROTATED TWO HUNDRED SEVENTY DEGREES",
  "cQUEEN ROTATED TWO HUNDRED SEVENTY DEGREES,cROOK ROTATED TWO HUNDRED SEVENTY DEGREES",
  "cBISHOP ROTATED TWO HUNDRED SEVENTY DEGREES,cKNIGHT ROTATED TWO HUNDRED SEVENTY DEGREES",
  "cPAWN ROTATED TWO HUNDRED SEVENTY DEGREES",
  "aBLACK CHESS KING ROTATED TWO HUNDRED SEVENTY DEGREES",
  "cQUEEN ROTATED TWO HUNDRED SEVENTY DEGREES,cROOK ROTATED TWO HUNDRED SEVENTY DEGREES",
  "cBISHOP ROTATED TWO HUNDRED SEVENTY DEGREES,cKNIGHT ROTATED TWO HUNDRED SEVENTY DEGREES",
  "cPAWN ROTATED TWO HUNDRED SEVENTY DEGREES",
  "aNEUTRAL CHESS KING ROTATED TWO HUNDRED SEVENTY DEGREES",
  "cQUEEN ROTATED TWO HUNDRED SEVENTY DEGREES,cROOK ROTATED TWO HUNDRED SEVENTY DEGREES",
  "cBISHOP ROTATED TWO HUNDRED SEVENTY DEGREES,cKNIGHT ROTATED TWO HUNDRED SEVENTY DEGREES",
  "cPAWN ROTATED TWO HUNDRED SEVENTY DEGREES",
  "aWHITE CHESS KNIGHT ROTATED THREE HUNDRED FIFTEEN DEGREES",
  "aBLACK CHESS KNIGHT ROTATED THREE HUNDRED FIFTEEN DEGREES",
  "aNEUTRAL CHESS KNIGHT ROTATED THREE HUNDRED FIFTEEN DEGREES,aWHITE CHESS EQUIHOPPER",
  "aBLACK CHESS EQUIHOPPER,aNEUTRAL CHESS EQUIHOPPER",
  "aWHITE CHESS EQUIHOPPER ROTATED NINETY DEGREES,aBLACK CHESS EQUIHOPPER ROTATED NINETY DEGREES",
  "aNEUTRAL CHESS EQUIHOPPER ROTATED NINETY DEGREES,aWHITE CHESS KNIGHT-QUEEN,cKNIGHT-ROOK",
  "cKNIGHT-BISHOP,aBLACK CHESS KNIGHT-QUEEN,cKNIGHT-ROOK,cKNIGHT-BISHOP,=1FA60",
  "aXIANGQI RED GENERAL,cMANDARIN,cELEPHANT,cHORSE,cCHARIOT,cCANNON,cSOLDIER,bBLACK GENERAL",
  "cMANDARIN,cELEPHANT,cHORSE,cCHARIOT,cCANNON,cSOLDIER,=1FA70,aBALLET SHOES,aONE-PIECE SWIMSUIT",
  "aBRIEFS,aSHORTS,aTHONG SANDAL,=1FA78,aDROP OF BLOOD,aADHESIVE BANDAGE,aSTETHOSCOPE,aX-RAY",
  "aCRUTCH,=1FA80,aYO-YO,aKITE,aPARACHUTE,aBOOMERANG,aMAGIC WAND,aPINATA,aNESTING DOLLS,=1FA90",
  "aRINGED PLANET,aCHAIR,aRAZOR,aAXE,aDIYA LAMP,aBANJO,aMILITARY HELMET,aACCORDION,aLONG DRUM",
  "aCOIN,aCARPENTRY SAW,aSCREWDRIVER,aLADDER,aHOOK,aMIRROR,aWINDOW,aPLUNGER,aSEWING NEEDLE,aKNOT",
  "aBUCKET,aMOUSE TRAP,aTOOTHBRUSH,aHEADSTONE,aPLACARD,aROCK,aMIRROR BALL,aIDENTIFICATION CARD",
  "aLOW BATTERY,aHAMSA,=1FAB0,aFLY,aWORM,aBEETLE,aCOCKROACH,aPOTTED PLANT,aWOOD,aFEATHER,aLOTUS",
  "aCORAL,aEMPTY NEST,aNEST WITH EGGS,=1FAC0,aANATOMICAL HEART,aLUNGS,aPEOPLE HUGGING",
  "aPREGNANT MAN,bPERSON,aPERSON WITH CROWN,=1FAD0,aBLUEBERRIES,aBELL PEPPER,aOLIVE,aFLATBREAD",
  "aTAMALE,aFONDUE,aTEAPOT,aPOURING LIQUID,aBEANS,aJAR,=1FAE0,aMELTING FACE,aSALUTING FACE",
  "aFACE WITH OPEN EYES AND HAND OVER MOUTH,cPEEKING EYE,cDIAGONAL MOUTH,aDOTTED LINE FACE",
  "aBITING LIP,aBUBBLES,=1FAF0,aHAND WITH INDEX FINGER AND THUMB CROSSED,aRIGHTWARDS HAND",
  "aLEFTWARDS HAND,aPALM DOWN HAND,bUP HAND,aINDEX POINTING AT THE VIEWER,aHEART HANDS,=1FB00",
  "aBLOCK SEXTANT-1,bSEXTANT-2,bSEXTANT-12,bSEXTANT-3,bSEXTANT-13,bSEXTANT-23,bSEXTANT-123",
  "bSEXTANT-4,bSEXTANT-14,bSEXTANT-24,bSEXTANT-124,bSEXTANT-34,bSEXTANT-134,bSEXTANT-234",
  "bSEXTANT-1234,bSEXTANT-5,bSEXTANT-15,bSEXTANT-25,bSEXTANT-125,bSEXTANT-35,bSEXTANT-235",
  "bSEXTANT-1235,bSEXTANT-45,bSEXTANT-145,bSEXTANT-245,bSEXTANT-1245,bSEXTANT-345,bSEXTANT-1345",
  "bSEXTANT-2345,bSEXTANT-12345,bSEXTANT-6,bSEXTANT-16,bSEXTANT-26,bSEXTANT-126,bSEXTANT-36",
  "bSEXTANT-136,bSEXTANT-236,bSEXTANT-1236,bSEXTANT-46,bSEXTANT-146,bSEXTANT-1246,bSEXTANT-346",
  "bSEXTANT-1346,bSEXTANT-2346,bSEXTANT-12346,bSEXTANT-56,bSEXTANT-156,bSEXTANT-256,bSEXTANT-1256",
  "bSEXTANT-356,bSEXTANT-1356,bSEXTANT-2356,bSEXTANT-12356,bSEXTANT-456,bSEXTANT-1456",
  "bSEXTANT-2456,bSEXTANT-12456,bSEXTANT-3456,bSEXTANT-13456,bSEXTANT-23456",
  "aLOWER LEFT BLOCK DIAGONAL LOWER MIDDLE LEFT TO LOWER CENTRE,jRIGHT",
  "eUPPER MIDDLE LEFT TO LOWER CENTRE,jRIGHT,fLEFT TO LOWER CENTRE",
  "bRIGHT BLOCK DIAGONAL UPPER MIDDLE LEFT TO UPPER CENTRE,jRIGHT",
  "eLOWER MIDDLE LEFT TO UPPER CENTRE,jRIGHT,fLEFT TO UPPER CENTRE",
  "fMIDDLE LEFT TO UPPER MIDDLE RIGHT,fCENTRE TO LOWER MIDDLE RIGHT,fLEFT TO LOWER MIDDLE RIGHT",
  "fCENTRE TO UPPER MIDDLE RIGHT,fLEFT TO UPPER MIDDLE RIGHT,fCENTRE TO UPPER RIGHT",
  "bLEFT BLOCK DIAGONAL UPPER CENTRE TO UPPER MIDDLE RIGHT,fLEFT TO UPPER MIDDLE RIGHT",
  "fCENTRE TO LOWER MIDDLE RIGHT,fLEFT TO LOWER MIDDLE RIGHT,fCENTRE TO LOWER RIGHT",
  "fMIDDLE LEFT TO LOWER MIDDLE RIGHT",
  "aUPPER RIGHT BLOCK DIAGONAL LOWER MIDDLE LEFT TO LOWER CENTRE,jRIGHT",
  "eUPPER MIDDLE LEFT TO LOWER CENTRE,jRIGHT,fLEFT TO LOWER CENTRE",
  "bLEFT BLOCK DIAGONAL UPPER MIDDLE LEFT TO UPPER CENTRE,jRIGHT",
  "eLOWER MIDDLE LEFT TO UPPER CENTRE,jRIGHT,fLEFT TO UPPER CENTRE",
  "fMIDDLE LEFT TO UPPER MIDDLE RIGHT,fCENTRE TO LOWER MIDDLE RIGHT,fLEFT TO LOWER MIDDLE RIGHT",
  "fCENTRE TO UPPER MIDDLE RIGHT,fLEFT TO UPPER MIDDLE RIGHT,fCENTRE TO UPPER RIGHT",
  "bRIGHT BLOCK DIAGONAL UPPER CENTRE TO UPPER MIDDLE RIGHT,fLEFT TO UPPER MIDDLE RIGHT",
  "fCENTRE TO LOWER MIDDLE RIGHT,fLEFT TO LOWER MIDDLE RIGHT,fCENTRE TO LOWER RIGHT",
  "fMIDDLE LEFT TO LOWER MIDDLE RIGHT,bAND RIGHT AND LOWER TRIANGULAR THREE QUARTERS BLOCK",
  "aLEFT AND LOWER AND RIGHT TRIANGULAR THREE QUARTERS BLOCK",
  "aUPPER AND LEFT AND LOWER TRIANGULAR THREE QUARTERS BLOCK",
  "aLEFT AND UPPER AND RIGHT TRIANGULAR THREE QUARTERS BLOCK,bTRIANGULAR ONE QUARTER BLOCK",
  "aUPPER TRIANGULAR ONE QUARTER BLOCK,aRIGHT TRIANGULAR ONE QUARTER BLOCK",
  "aLOWER TRIANGULAR ONE QUARTER BLOCK,aVERTICAL ONE EIGHTH BLOCK-2,dBLOCK-3,dBLOCK-4,dBLOCK-5",
  "dBLOCK-6,dBLOCK-7,aHORIZONTAL ONE EIGHTH BLOCK-2,dBLOCK-3,dBLOCK-4,dBLOCK-5,dBLOCK-6,dBLOCK-7",
  "aLEFT AND LOWER ONE EIGHTH BLOCK,cUPPER ONE EIGHTH BLOCK,aRIGHT AND UPPER ONE EIGHTH BLOCK",
  "cLOWER ONE EIGHTH BLOCK,aUPPER AND LOWER ONE EIGHTH BLOCK,aHORIZONTAL ONE EIGHTH BLOCK-1358",
  "aUPPER ONE QUARTER BLOCK,bTHREE EIGHTHS BLOCK,bFIVE EIGHTHS BLOCK,bTHREE QUARTERS BLOCK",
  "bSEVEN EIGHTHS BLOCK,aRIGHT ONE QUARTER BLOCK,bTHREE EIGHTHS BLOCK,bFIVE EIGHTHS BLOCK",
  "bTHREE QUARTERS BLOCK,bSEVEN EIGHTHS BLOCK,aLEFT HALF MEDIUM SHADE,aRIGHT HALF MEDIUM SHADE",
  "aUPPER HALF MEDIUM SHADE,aLOWER HALF MEDIUM SHADE,aINVERSE MEDIUM SHADE",
  "aUPPER HALF BLOCK AND LOWER HALF INVERSE MEDIUM SHADE",
  "cINVERSE MEDIUM SHADE AND LOWER HALF BLOCK,=1FB94",
  "aLEFT HALF INVERSE MEDIUM SHADE AND RIGHT HALF BLOCK,aCHECKER BOARD FILL",
  "aINVERSE CHECKER BOARD FILL,aHEAVY HORIZONTAL FILL,aUPPER LEFT TO LOWER RIGHT FILL",
  "bRIGHT TO LOWER LEFT FILL,bAND LOWER TRIANGULAR HALF BLOCK",
  "aLEFT AND RIGHT TRIANGULAR HALF BLOCK,aUPPER LEFT TRIANGULAR MEDIUM SHADE",
  "bRIGHT TRIANGULAR MEDIUM SHADE,aLOWER RIGHT TRIANGULAR MEDIUM SHADE",
  "bLEFT TRIANGULAR MEDIUM SHADE,aBOX DRAWINGS LIGHT DIAGONAL UPPER CENTRE TO MIDDLE LEFT,iRIGHT",
  "eMIDDLE LEFT TO LOWER CENTRE,fRIGHT TO LOWER CENTRE",
  "eUPPER CENTRE TO MIDDLE LEFT TO LOWER CENTRE,iRIGHT TO LOWER CENTRE",
  "eMIDDLE LEFT TO LOWER CENTRE TO MIDDLE RIGHT,hUPPER CENTRE TO MIDDLE RIGHT",
  "eUPPER CENTRE TO MIDDLE LEFT AND MIDDLE RIGHT TO LOWER CENTRE",
  "iRIGHT AND MIDDLE LEFT TO LOWER CENTRE,jTO LOWER CENTRE TO MIDDLE LEFT",
  "iLEFT TO LOWER CENTRE TO MIDDLE RIGHT",
  "eMIDDLE LEFT TO UPPER CENTRE TO MIDDLE RIGHT TO LOWER CENTRE",
  "fRIGHT TO UPPER CENTRE TO MIDDLE LEFT TO LOWER CENTRE,eDIAMOND",
  "dHORIZONTAL WITH VERTICAL STROKE,aARROWHEAD-SHAPED POINTER,aINVERSE CHECK MARK",
  "aLEFT HALF RUNNING MAN,aRIGHT HALF RUNNING MAN,aINVERSE DOWNWARDS ARROW WITH TIP LEFTWARDS",
  "aLEFTWARDS ARROW AND UPPER AND LOWER ONE EIGHTH BLOCK"]

/-- Part 3 of the table. -/
def pictographNamesThird : List String := [
  "aRIGHTWARDS ARROW AND UPPER AND LOWER ONE EIGHTH BLOCK",
  "aDOWNWARDS ARROW AND RIGHT ONE EIGHTH BLOCK,aUPWARDS ARROW AND RIGHT ONE EIGHTH BLOCK",
  "aLEFT HALF FOLDER,aRIGHT HALF FOLDER,aVOIDED GREEK CROSS,aRIGHT OPEN SQUARED DOT",
  "aNEGATIVE DIAGONAL CROSS,cMIDDLE RIGHT TO LOWER CENTRE,cDIAMOND",
  "aWHITE HEAVY SALTIRE WITH ROUNDED CORNERS,aLEFT THIRD WHITE RIGHT POINTING INDEX",
  "aMIDDLE THIRD WHITE RIGHT POINTING INDEX,aRIGHT THIRD WHITE RIGHT POINTING INDEX",
  "aNEGATIVE SQUARED QUESTION MARK,aSTICK FIGURE,cWITH ARMS RAISED,cLEANING LEFT,dRIGHT",
  "cWITH DRESS,aWHITE UP-POINTING CHEVRON,=1FBF0,aSEGMENTED DIGIT ZERO,cONE,cTWO,cTHREE,cFOUR",
  "cFIVE,cSIX,cSEVEN,cEIGHT,cNINE,=E0001,aLANGUAGE TAG,=E0020,aTAG SPACE,bEXCLAMATION MARK",
  "bQUOTATION MARK,bNUMBER SIGN,bDOLLAR SIGN,bPERCENT SIGN,bAMPERSAND,bAPOSTROPHE",
  "bLEFT PARENTHESIS,bRIGHT PARENTHESIS,bASTERISK,bPLUS SIGN,bCOMMA,bHYPHEN-MINUS,bFULL STOP",
  "bSOLIDUS,bDIGIT ZERO,cONE,cTWO,cTHREE,cFOUR,cFIVE,cSIX,cSEVEN,cEIGHT,cNINE,bCOLON,bSEMICOLON",
  "bLESS-THAN SIGN,bEQUALS SIGN,bGREATER-THAN SIGN,bQUESTION MARK,bCOMMERCIAL AT",
  "bLATIN CAPITAL LETTER A,eB,eC,eD,eE,eF,eG,eH,eI,eJ,eK,eL,eM,eN,eO,eP,eQ,eR,eS,eT,eU,eV,eW,eX",
  "eY,eZ,bLEFT SQUARE BRACKET,bREVERSE SOLIDUS,bRIGHT SQUARE BRACKET,bCIRCUMFLEX ACCENT,bLOW LINE",
  "bGRAVE ACCENT,bLATIN SMALL LETTER A,eB,eC,eD,eE,eF,eG,eH,eI,eJ,eK,eL,eM,eN,eO,eP,eQ,eR,eS,eT",
  "eU,eV,eW,eX,eY,eZ,bLEFT CURLY BRACKET,bVERTICAL LINE,bRIGHT CURLY BRACKET,bTILDE,aCANCEL TAG",
  "=E0100,aVARIATION SELECTOR-17,bSELECTOR-18,bSELECTOR-19,bSELECTOR-20,bSELECTOR-21,bSELECTOR-22",
  "bSELECTOR-23,bSELECTOR-24,bSELECTOR-25,bSELECTOR-26,bSELECTOR-27,bSELECTOR-28,bSELECTOR-29",
  "bSELECTOR-30,bSELECTOR-31,bSELECTOR-32,bSELECTOR-33,bSELECTOR-34,bSELECTOR-35,bSELECTOR-36",
  "bSELECTOR-37,bSELECTOR-38,bSELECTOR-39,bSELECTOR-40,bSELECTOR-41,bSELECTOR-42,bSELECTOR-43",
  "bSELECTOR-44,bSELECTOR-45,bSELECTOR-46,bSELECTOR-47,bSELECTOR-48,bSELECTOR-49,bSELECTOR-50",
  "bSELECTOR-51,bSELECTOR-52,bSELECTOR-53,bSELECTOR-54,bSELECTOR-55,bSELECTOR-56,bSELECTOR-57",
  "bSELECTOR-58,bSELECTOR-59,bSELECTOR-60,bSELECTOR-61,bSELECTOR-62,bSELECTOR-63,bSELECTOR-64",
  "bSELECTOR-65,bSELECTOR-66,bSELECTOR-67,bSELECTOR-68,bSELECTOR-69,bSELECTOR-70,bSELECTOR-71",
  "bSELECTOR-72,bSELECTOR-73,bSELECTOR-74,bSELECTOR-75,bSELECTOR-76,bSELECTOR-77,bSELECTOR-78",
  "bSELECTOR-79,bSELECTOR-80,bSELECTOR-81,bSELECTOR-82,bSELECTOR-83,bSELECTOR-84,bSELECTOR-85",
  "bSELECTOR-86,bSELECTOR-87,bSELECTOR-88,bSELECTOR-89,bSELECTOR-90,bSELECTOR-91,bSELECTOR-92",
  "bSELECTOR-93,bSELECTOR-94,bSELECTOR-95,bSELECTOR-96,bSELECTOR-97,bSELECTOR-98,bSELECTOR-99",
  "bSELECTOR-100,bSELECTOR-101,bSELECTOR-102,bSELECTOR-103,bSELECTOR-104,bSELECTOR-105",
  "bSELECTOR-106,bSELECTOR-107,bSELECTOR-108,bSELECTOR-109,bSELECTOR-110,bSELECTOR-111",
  "bSELECTOR-112,bSELECTOR-113,bSELECTOR-114,bSELECTOR-115,bSELECTOR-116,bSELECTOR-117",
  "bSELECTOR-118,bSELECTOR-119,bSELECTOR-120,bSELECTOR-121,bSELECTOR-122,bSELECTOR-123",
  "bSELECTOR-124,bSELECTOR-125,bSELECTOR-126,bSELECTOR-127,bSELECTOR-128,bSELECTOR-129",
  "bSELECTOR-130,bSELECTOR-131,bSELECTOR-132,bSELECTOR-133,bSELECTOR-134,bSELECTOR-135",
  "bSELECTOR-136,bSELECTOR-137,bSELECTOR-138,bSELECTOR-139,bSELECTOR-140,bSELECTOR-141",
  "bSELECTOR-142,bSELECTOR-143,bSELECTOR-144,bSELECTOR-145,bSELECTOR-146,bSELECTOR-147",
  "bSELECTOR-148,bSELECTOR-149,bSELECTOR-150,bSELECTOR-151,bSELECTOR-152,bSELECTOR-153",
  "bSELECTOR-154,bSELECTOR-155,bSELECTOR-156,bSELECTOR-157,bSELECTOR-158,bSELECTOR-159",
  "bSELECTOR-160,bSELECTOR-161,bSELECTOR-162,bSELECTOR-163,bSELECTOR-164,bSELECTOR-165",
  "bSELECTOR-166,bSELECTOR-167,bSELECTOR-168,bSELECTOR-169,bSELECTOR-170,bSELECTOR-171",
  "bSELECTOR-172,bSELECTOR-173,bSELECTOR-174,bSELECTOR-175,bSELECTOR-176,bSELECTOR-177",
  "bSELECTOR-178,bSELECTOR-179,bSELECTOR-180,bSELECTOR-181,bSELECTOR-182,bSELECTOR-183",
  "bSELECTOR-184,bSELECTOR-185,bSELECTOR-186,bSELECTOR-187,bSELECTOR-188,bSELECTOR-189",
  "bSELECTOR-190,bSELECTOR-191,bSELECTOR-192,bSELECTOR-193,bSELECTOR-194,bSELECTOR-195",
  "bSELECTOR-196,bSELECTOR-197,bSELECTOR-198,bSELECTOR-199,bSELECTOR-200,bSELECTOR-201",
  "bSELECTOR-202,bSELECTOR-203,bSELECTOR-204,bSELECTOR-205,bSELECTOR-206,bSELECTOR-207",
  "bSELECTOR-208,bSELECTOR-209,bSELECTOR-210,bSELECTOR-211,bSELECTOR-212,bSELECTOR-213",
  "bSELECTOR-214,bSELECTOR-215,bSELECTOR-216,bSELECTOR-217,bSELECTOR-218,bSELECTOR-219",
  "bSELECTOR-220,bSELECTOR-221,bSELECTOR-222,bSELECTOR-223,bSELECTOR-224,bSELECTOR-225",
  "bSELECTOR-226,bSELECTOR-227,bSELECTOR-228,bSELECTOR-229,bSELECTOR-230,bSELECTOR-231",
  "bSELECTOR-232,bSELECTOR-233,bSELECTOR-234,bSELECTOR-235,bSELECTOR-236,bSELECTOR-237",
  "bSELECTOR-238,bSELECTOR-239,bSELECTOR-240,bSELECTOR-241,bSELECTOR-242,bSELECTOR-243",
  "bSELECTOR-244,bSELECTOR-245,bSELECTOR-246,bSELECTOR-247,bSELECTOR-248,bSELECTOR-249",
  "bSELECTOR-250,bSELECTOR-251,bSELECTOR-252,bSELECTOR-253,bSELECTOR-254,bSELECTOR-255",
  "bSELECTOR-256"]

/-- The table of names. -/
def pictographNames : List String :=
  pictographNamesFirst ++ pictographNamesSecond ++ pictographNamesThird

end ServiceShell.Text.CharacterName
