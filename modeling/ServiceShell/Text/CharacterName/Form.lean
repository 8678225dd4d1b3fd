/-!
# Names of forms

The names of the forms that characters take for compatibility.
The form of a table is told where it is read.
-/

namespace ServiceShell.Text.CharacterName

/-- The table of names. -/
def formNames : List String := [
  "=FB00,aLATIN SMALL LIGATURE FF,dFI,dFL,dFFI,dFFL,dLONG S T,dST,=FB13",
  "aARMENIAN SMALL LIGATURE MEN NOW,eECH,eINI,dVEW NOW,dMEN XEH,=FB1D",
  "aHEBREW LETTER YOD WITH HIRIQ,bPOINT JUDEO-SPANISH VARIKA,bLIGATURE YIDDISH YOD YOD PATAH",
  "bLETTER ALTERNATIVE AYIN,cWIDE ALEF,dDALET,dHE,dKAF,dLAMED,dFINAL MEM,dRESH,dTAV",
  "cALTERNATIVE PLUS SIGN,cSHIN WITH SHIN DOT,eSIN DOT,eDAGESH AND SHIN DOT,gSIN DOT",
  "cALEF WITH PATAH,eQAMATS,eMAPIQ,cBET WITH DAGESH,cGIMEL WITH DAGESH,cDALET WITH DAGESH",
  "cHE WITH MAPIQ,cVAV WITH DAGESH,cZAYIN WITH DAGESH,=FB38,cTET WITH DAGESH,cYOD WITH DAGESH",
  "cFINAL KAF WITH DAGESH,cKAF WITH DAGESH,cLAMED WITH DAGESH,=FB3E,cMEM WITH DAGESH,=FB40",
  "cNUN WITH DAGESH,cSAMEKH WITH DAGESH,=FB43,cFINAL PE WITH DAGESH,cPE WITH DAGESH,=FB46",
  "cTSADI WITH DAGESH,cQOF WITH DAGESH,cRESH WITH DAGESH,cSHIN WITH DAGESH,cTAV WITH DAGESH",
  "cVAV WITH HOLAM,cBET WITH RAFE,cKAF WITH RAFE,cPE WITH RAFE,bLIGATURE ALEF LAMED",
  "aARABIC LETTER ALEF WASLA ISOLATED FORM,eFINAL FORM,cBEEH ISOLATED FORM,dFINAL FORM",
  "dINITIAL FORM,dMEDIAL FORM,cPEH ISOLATED FORM,dFINAL FORM,dINITIAL FORM,dMEDIAL FORM",
  "cBEHEH ISOLATED FORM,dFINAL FORM,dINITIAL FORM,dMEDIAL FORM,cTTEHEH ISOLATED FORM,dFINAL FORM",
  "dINITIAL FORM,dMEDIAL FORM,cTEHEH ISOLATED FORM,dFINAL FORM,dINITIAL FORM,dMEDIAL FORM",
  "cTTEH ISOLATED FORM,dFINAL FORM,dINITIAL FORM,dMEDIAL FORM,cVEH ISOLATED FORM,dFINAL FORM",
  "dINITIAL FORM,dMEDIAL FORM,cPEHEH ISOLATED FORM,dFINAL FORM,dINITIAL FORM,dMEDIAL FORM",
  "cDYEH ISOLATED FORM,dFINAL FORM,dINITIAL FORM,dMEDIAL FORM,cNYEH ISOLATED FORM,dFINAL FORM",
  "dINITIAL FORM,dMEDIAL FORM,cTCHEH ISOLATED FORM,dFINAL FORM,dINITIAL FORM,dMEDIAL FORM",
  "cTCHEHEH ISOLATED FORM,dFINAL FORM,dINITIAL FORM,dMEDIAL FORM,cDDAHAL ISOLATED FORM",
  "dFINAL FORM,cDAHAL ISOLATED FORM,dFINAL FORM,cDUL ISOLATED FORM,dFINAL FORM",
  "cDDAL ISOLATED FORM,dFINAL FORM,cJEH ISOLATED FORM,dFINAL FORM,cRREH ISOLATED FORM,dFINAL FORM",
  "cKEHEH ISOLATED FORM,dFINAL FORM,dINITIAL FORM,dMEDIAL FORM,cGAF ISOLATED FORM,dFINAL FORM",
  "dINITIAL FORM,dMEDIAL FORM,cGUEH ISOLATED FORM,dFINAL FORM,dINITIAL FORM,dMEDIAL FORM",
  "cNGOEH ISOLATED FORM,dFINAL FORM,dINITIAL FORM,dMEDIAL FORM,cNOON GHUNNA ISOLATED FORM",
  "eFINAL FORM,cRNOON ISOLATED FORM,dFINAL FORM,dINITIAL FORM,dMEDIAL FORM",
  "cHEH WITH YEH ABOVE ISOLATED FORM,gFINAL FORM,dGOAL ISOLATED FORM,eFINAL FORM,eINITIAL FORM",
  "eMEDIAL FORM,dDOACHASHMEE ISOLATED FORM,eFINAL FORM,eINITIAL FORM,eMEDIAL FORM",
  "cYEH BARREE ISOLATED FORM,eFINAL FORM,eWITH HAMZA ABOVE ISOLATED FORM,hFINAL FORM",
  "bSYMBOL DOT ABOVE,dBELOW,cTWO DOTS ABOVE,eBELOW,cTHREE DOTS ABOVE,eBELOW",
  "ePOINTING DOWNWARDS ABOVE,gBELOW,cFOUR DOTS ABOVE,eBELOW,cDOUBLE VERTICAL BAR BELOW",
  "cTWO DOTS VERTICALLY ABOVE,fBELOW,cRING,cSMALL TAH ABOVE,eBELOW,cWASLA ABOVE,=FBD3",
  "bLETTER NG ISOLATED FORM,dFINAL FORM,dINITIAL FORM,dMEDIAL FORM,cU ISOLATED FORM,dFINAL FORM",
  "cOE ISOLATED FORM,dFINAL FORM,cYU ISOLATED FORM,dFINAL FORM,cU WITH HAMZA ABOVE ISOLATED FORM",
  "cVE ISOLATED FORM,dFINAL FORM,cKIRGHIZ OE ISOLATED FORM,eFINAL FORM,dYU ISOLATED FORM",
  "eFINAL FORM,cE ISOLATED FORM,dFINAL FORM,dINITIAL FORM,dMEDIAL FORM",
  "cUIGHUR KAZAKH KIRGHIZ ALEF MAKSURA INITIAL FORM,hMEDIAL FORM",
  "bLIGATURE YEH WITH HAMZA ABOVE WITH ALEF ISOLATED FORM,iFINAL FORM,hAE ISOLATED FORM",
  "iFINAL FORM,hWAW ISOLATED FORM,iFINAL FORM,hU ISOLATED FORM,iFINAL FORM,hOE ISOLATED FORM",
  "iFINAL FORM,hYU ISOLATED FORM,iFINAL FORM,hE ISOLATED FORM,iFINAL FORM,iINITIAL FORM",
  "cUIGHUR KIRGHIZ YEH WITH HAMZA ABOVE WITH ALEF MAKSURA ISOLATED FORM,lFINAL FORM,lINITIAL FORM",
  "bLETTER FARSI YEH ISOLATED FORM,eFINAL FORM,eINITIAL FORM,eMEDIAL FORM",
  "bLIGATURE YEH WITH HAMZA ABOVE WITH JEEM ISOLATED FORM,hHAH ISOLATED FORM,hMEEM ISOLATED FORM",
  "hALEF MAKSURA ISOLATED FORM,hYEH ISOLATED FORM,cBEH WITH JEEM ISOLATED FORM,eHAH ISOLATED FORM",
  "eKHAH ISOLATED FORM,eMEEM ISOLATED FORM,eALEF MAKSURA ISOLATED FORM,eYEH ISOLATED FORM",
  "cTEH WITH JEEM ISOLATED FORM,eHAH ISOLATED FORM,eKHAH ISOLATED FORM,eMEEM ISOLATED FORM",
  "eALEF MAKSURA ISOLATED FORM,eYEH ISOLATED FORM,cTHEH WITH JEEM ISOLATED FORM",
  "eMEEM ISOLATED FORM,eALEF MAKSURA ISOLATED FORM,eYEH ISOLATED FORM",
  "cJEEM WITH HAH ISOLATED FORM,eMEEM ISOLATED FORM,cHAH WITH JEEM ISOLATED FORM",
  "eMEEM ISOLATED FORM,cKHAH WITH JEEM ISOLATED FORM,eHAH ISOLATED FORM,eMEEM ISOLATED FORM",
  "cSEEN WITH JEEM ISOLATED FORM,eHAH ISOLATED FORM,eKHAH ISOLATED FORM,eMEEM ISOLATED FORM",
  "cSAD WITH HAH ISOLATED FORM,eMEEM ISOLATED FORM,cDAD WITH JEEM ISOLATED FORM",
  "eHAH ISOLATED FORM,eKHAH ISOLATED FORM,eMEEM ISOLATED FORM,cTAH WITH HAH ISOLATED FORM",
  "eMEEM ISOLATED FORM,cZAH WITH MEEM ISOLATED FORM,cAIN WITH JEEM ISOLATED FORM",
  "eMEEM ISOLATED FORM,cGHAIN WITH JEEM ISOLATED FORM,eMEEM ISOLATED FORM",
  "cFEH WITH JEEM ISOLATED FORM,eHAH ISOLATED FORM,eKHAH ISOLATED FORM,eMEEM ISOLATED FORM",
  "eALEF MAKSURA ISOLATED FORM,eYEH ISOLATED FORM,cQAF WITH HAH ISOLATED FORM,eMEEM ISOLATED FORM",
  "eALEF MAKSURA ISOLATED FORM,eYEH ISOLATED FORM,cKAF WITH ALEF ISOLATED FORM",
  "eJEEM ISOLATED FORM,eHAH ISOLATED FORM,eKHAH ISOLATED FORM,eLAM ISOLATED FORM",
  "eMEEM ISOLATED FORM,eALEF MAKSURA ISOLATED FORM,eYEH ISOLATED FORM",
  "cLAM WITH JEEM ISOLATED FORM,eHAH ISOLATED FORM,eKHAH ISOLATED FORM,eMEEM ISOLATED FORM",
  "eALEF MAKSURA ISOLATED FORM,eYEH ISOLATED FORM,cMEEM WITH JEEM ISOLATED FORM",
  "eHAH ISOLATED FORM,eKHAH ISOLATED FORM,eMEEM ISOLATED FORM,eALEF MAKSURA ISOLATED FORM",
  "eYEH ISOLATED FORM,cNOON WITH JEEM ISOLATED FORM,eHAH ISOLATED FORM,eKHAH ISOLATED FORM",
  "eMEEM ISOLATED FORM,eALEF MAKSURA ISOLATED FORM,eYEH ISOLATED FORM",
  "cHEH WITH JEEM ISOLATED FORM,eMEEM ISOLATED FORM,eALEF MAKSURA ISOLATED FORM",
  "eYEH ISOLATED FORM,cYEH WITH JEEM ISOLATED FORM,eHAH ISOLATED FORM,eKHAH ISOLATED FORM",
  "eMEEM ISOLATED FORM,eALEF MAKSURA ISOLATED FORM,eYEH ISOLATED FORM",
  "cTHAL WITH SUPERSCRIPT ALEF ISOLATED FORM,cREH WITH SUPERSCRIPT ALEF ISOLATED FORM",
  "cALEF MAKSURA WITH SUPERSCRIPT ALEF ISOLATED FORM,cSHADDA WITH DAMMATAN ISOLATED FORM",
  "eKASRATAN ISOLATED FORM,eFATHA ISOLATED FORM,eDAMMA ISOLATED FORM,eKASRA ISOLATED FORM",
  "eSUPERSCRIPT ALEF ISOLATED FORM,cYEH WITH HAMZA ABOVE WITH REH FINAL FORM,hZAIN FINAL FORM",
  "hMEEM FINAL FORM,hNOON FINAL FORM,hALEF MAKSURA FINAL FORM,hYEH FINAL FORM",
  "cBEH WITH REH FINAL FORM,eZAIN FINAL FORM,eMEEM FINAL FORM,eNOON FINAL FORM",
  "eALEF MAKSURA FINAL FORM,eYEH FINAL FORM,cTEH WITH REH FINAL FORM,eZAIN FINAL FORM",
  "eMEEM FINAL FORM,eNOON FINAL FORM,eALEF MAKSURA FINAL FORM,eYEH FINAL FORM",
  "cTHEH WITH REH FINAL FORM,eZAIN FINAL FORM,eMEEM FINAL FORM,eNOON FINAL FORM",
  "eALEF MAKSURA FINAL FORM,eYEH FINAL FORM,cFEH WITH ALEF MAKSURA FINAL FORM,eYEH FINAL FORM",
  "cQAF WITH ALEF MAKSURA FINAL FORM,eYEH FINAL FORM,cKAF WITH ALEF FINAL FORM,eLAM FINAL FORM",
  "eMEEM FINAL FORM,eALEF MAKSURA FINAL FORM,eYEH FINAL FORM,cLAM WITH MEEM FINAL FORM",
  "eALEF MAKSURA FINAL FORM,eYEH FINAL FORM,cMEEM WITH ALEF FINAL FORM,eMEEM FINAL FORM",
  "cNOON WITH REH FINAL FORM,eZAIN FINAL FORM,eMEEM FINAL FORM,eNOON FINAL FORM",
  "eALEF MAKSURA FINAL FORM,eYEH FINAL FORM,cALEF MAKSURA WITH SUPERSCRIPT ALEF FINAL FORM",
  "cYEH WITH REH FINAL FORM,eZAIN FINAL FORM,eMEEM FINAL FORM,eNOON FINAL FORM",
  "eALEF MAKSURA FINAL FORM,eYEH FINAL FORM,eHAMZA ABOVE WITH JEEM INITIAL FORM,hHAH INITIAL FORM",
  "hKHAH INITIAL FORM,hMEEM INITIAL FORM,hHEH INITIAL FORM,cBEH WITH JEEM INITIAL FORM",
  "eHAH INITIAL FORM,eKHAH INITIAL FORM,eMEEM INITIAL FORM,eHEH INITIAL FORM",
  "cTEH WITH JEEM INITIAL FORM,eHAH INITIAL FORM,eKHAH INITIAL FORM,eMEEM INITIAL FORM",
  "eHEH INITIAL FORM,cTHEH WITH MEEM INITIAL FORM,cJEEM WITH HAH INITIAL FORM,eMEEM INITIAL FORM",
  "cHAH WITH JEEM INITIAL FORM,eMEEM INITIAL FORM,cKHAH WITH JEEM INITIAL FORM,eMEEM INITIAL FORM",
  "cSEEN WITH JEEM INITIAL FORM,eHAH INITIAL FORM,eKHAH INITIAL FORM,eMEEM INITIAL FORM",
  "cSAD WITH HAH INITIAL FORM,eKHAH INITIAL FORM,eMEEM INITIAL FORM,cDAD WITH JEEM INITIAL FORM",
  "eHAH INITIAL FORM,eKHAH INITIAL FORM,eMEEM INITIAL FORM,cTAH WITH HAH INITIAL FORM",
  "cZAH WITH MEEM INITIAL FORM,cAIN WITH JEEM INITIAL FORM,eMEEM INITIAL FORM",
  "cGHAIN WITH JEEM INITIAL FORM,eMEEM INITIAL FORM,cFEH WITH JEEM INITIAL FORM,eHAH INITIAL FORM",
  "eKHAH INITIAL FORM,eMEEM INITIAL FORM,cQAF WITH HAH INITIAL FORM,eMEEM INITIAL FORM",
  "cKAF WITH JEEM INITIAL FORM,eHAH INITIAL FORM,eKHAH INITIAL FORM,eLAM INITIAL FORM",
  "eMEEM INITIAL FORM,cLAM WITH JEEM INITIAL FORM,eHAH INITIAL FORM,eKHAH INITIAL FORM",
  "eMEEM INITIAL FORM,eHEH INITIAL FORM,cMEEM WITH JEEM INITIAL FORM,eHAH INITIAL FORM",
  "eKHAH INITIAL FORM,eMEEM INITIAL FORM,cNOON WITH JEEM INITIAL FORM,eHAH INITIAL FORM",
  "eKHAH INITIAL FORM,eMEEM INITIAL FORM,eHEH INITIAL FORM,cHEH WITH JEEM INITIAL FORM",
  "eMEEM INITIAL FORM,eSUPERSCRIPT ALEF INITIAL FORM,cYEH WITH JEEM INITIAL FORM",
  "eHAH INITIAL FORM,eKHAH INITIAL FORM,eMEEM INITIAL FORM,eHEH INITIAL FORM",
  "eHAMZA ABOVE WITH MEEM MEDIAL FORM,hHEH MEDIAL FORM,cBEH WITH MEEM MEDIAL FORM",
  "eHEH MEDIAL FORM,cTEH WITH MEEM MEDIAL FORM,eHEH MEDIAL FORM,cTHEH WITH MEEM MEDIAL FORM",
  "eHEH MEDIAL FORM,cSEEN WITH MEEM MEDIAL FORM,eHEH MEDIAL FORM,cSHEEN WITH MEEM MEDIAL FORM",
  "eHEH MEDIAL FORM,cKAF WITH LAM MEDIAL FORM,eMEEM MEDIAL FORM,cLAM WITH MEEM MEDIAL FORM",
  "cNOON WITH MEEM MEDIAL FORM,eHEH MEDIAL FORM,cYEH WITH MEEM MEDIAL FORM,eHEH MEDIAL FORM",
  "cSHADDA WITH FATHA MEDIAL FORM,eDAMMA MEDIAL FORM,eKASRA MEDIAL FORM",
  "cTAH WITH ALEF MAKSURA ISOLATED FORM,eYEH ISOLATED FORM,cAIN WITH ALEF MAKSURA ISOLATED FORM",
  "eYEH ISOLATED FORM,cGHAIN WITH ALEF MAKSURA ISOLATED FORM,eYEH ISOLATED FORM",
  "cSEEN WITH ALEF MAKSURA ISOLATED FORM,eYEH ISOLATED FORM",
  "cSHEEN WITH ALEF MAKSURA ISOLATED FORM,eYEH ISOLATED FORM,cHAH WITH ALEF MAKSURA ISOLATED FORM",
  "eYEH ISOLATED FORM,cJEEM WITH ALEF MAKSURA ISOLATED FORM,eYEH ISOLATED FORM",
  "cKHAH WITH ALEF MAKSURA ISOLATED FORM,eYEH ISOLATED FORM,cSAD WITH ALEF MAKSURA ISOLATED FORM",
  "eYEH ISOLATED FORM,cDAD WITH ALEF MAKSURA ISOLATED FORM,eYEH ISOLATED FORM",
  "cSHEEN WITH JEEM ISOLATED FORM,eHAH ISOLATED FORM,eKHAH ISOLATED FORM,eMEEM ISOLATED FORM",
  "eREH ISOLATED FORM,cSEEN WITH REH ISOLATED FORM,cSAD WITH REH ISOLATED FORM",
  "cDAD WITH REH ISOLATED FORM,cTAH WITH ALEF MAKSURA FINAL FORM,eYEH FINAL FORM",
  "cAIN WITH ALEF MAKSURA FINAL FORM,eYEH FINAL FORM,cGHAIN WITH ALEF MAKSURA FINAL FORM",
  "eYEH FINAL FORM,cSEEN WITH ALEF MAKSURA FINAL FORM,eYEH FINAL FORM",
  "cSHEEN WITH ALEF MAKSURA FINAL FORM,eYEH FINAL FORM,cHAH WITH ALEF MAKSURA FINAL FORM",
  "eYEH FINAL FORM,cJEEM WITH ALEF MAKSURA FINAL FORM,eYEH FINAL FORM",
  "cKHAH WITH ALEF MAKSURA FINAL FORM,eYEH FINAL FORM,cSAD WITH ALEF MAKSURA FINAL FORM",
  "eYEH FINAL FORM,cDAD WITH ALEF MAKSURA FINAL FORM,eYEH FINAL FORM,cSHEEN WITH JEEM FINAL FORM",
  "eHAH FINAL FORM,eKHAH FINAL FORM,eMEEM FINAL FORM,eREH FINAL FORM,cSEEN WITH REH FINAL FORM",
  "cSAD WITH REH FINAL FORM,cDAD WITH REH FINAL FORM,cSHEEN WITH JEEM INITIAL FORM",
  "eHAH INITIAL FORM,eKHAH INITIAL FORM,eMEEM INITIAL FORM,cSEEN WITH HEH INITIAL FORM",
  "cSHEEN WITH HEH INITIAL FORM,cTAH WITH MEEM INITIAL FORM,cSEEN WITH JEEM MEDIAL FORM",
  "eHAH MEDIAL FORM,eKHAH MEDIAL FORM,cSHEEN WITH JEEM MEDIAL FORM,eHAH MEDIAL FORM",
  "eKHAH MEDIAL FORM,cTAH WITH MEEM MEDIAL FORM,cZAH WITH MEEM MEDIAL FORM",
  "cALEF WITH FATHATAN FINAL FORM,fISOLATED FORM,aORNATE LEFT PARENTHESIS,bRIGHT PARENTHESIS",
  "aARABIC LIGATURE RAHIMAHU ALLAAH,cRADI ALLAAHU ANH,eANHAA,eANHUM,eANHUMAA,eANHUNNA",
  "cSALLALLAAHU ALAYHI WA-AALIH,cALAYHI AS-SALAAM,cALAYHIM AS-SALAAM,cALAYHIMAA AS-SALAAM",
  "cALAYHI AS-SALAATU WAS-SALAAM,cQUDDISA SIRRAH,cSALLALLAHU ALAYHI WAAALIHEE WA-SALLAM",
  "cALAYHAA AS-SALAAM,cTABAARAKA WA-TAAALAA,cRAHIMAHUM ALLAAH",
  "cTEH WITH JEEM WITH MEEM INITIAL FORM,eHAH WITH JEEM FINAL FORM,hINITIAL FORM",
  "gMEEM INITIAL FORM,eKHAH WITH MEEM INITIAL FORM,eMEEM WITH JEEM INITIAL FORM,gHAH INITIAL FORM",
  "gKHAH INITIAL FORM,cJEEM WITH MEEM WITH HAH FINAL FORM,hINITIAL FORM",
  "cHAH WITH MEEM WITH YEH FINAL FORM,gALEF MAKSURA FINAL FORM",
  "cSEEN WITH HAH WITH JEEM INITIAL FORM,eJEEM WITH HAH INITIAL FORM,gALEF MAKSURA FINAL FORM",
  "eMEEM WITH HAH FINAL FORM,hINITIAL FORM,gJEEM INITIAL FORM,gMEEM FINAL FORM,hINITIAL FORM",
  "cSAD WITH HAH WITH HAH FINAL FORM,hINITIAL FORM,eMEEM WITH MEEM FINAL FORM",
  "cSHEEN WITH HAH WITH MEEM FINAL FORM,hINITIAL FORM,eJEEM WITH YEH FINAL FORM",
  "eMEEM WITH KHAH FINAL FORM,hINITIAL FORM,gMEEM FINAL FORM,hINITIAL FORM",
  "cDAD WITH HAH WITH ALEF MAKSURA FINAL FORM,eKHAH WITH MEEM FINAL FORM,hINITIAL FORM",
  "cTAH WITH MEEM WITH HAH FINAL FORM,hINITIAL FORM,gMEEM INITIAL FORM,gYEH FINAL FORM",
  "cAIN WITH JEEM WITH MEEM FINAL FORM,eMEEM WITH MEEM FINAL FORM,hINITIAL FORM",
  "gALEF MAKSURA FINAL FORM,cGHAIN WITH MEEM WITH MEEM FINAL FORM,gYEH FINAL FORM",
  "gALEF MAKSURA FINAL FORM,cFEH WITH KHAH WITH MEEM FINAL FORM,hINITIAL FORM",
  "cQAF WITH MEEM WITH HAH FINAL FORM,gMEEM FINAL FORM,cLAM WITH HAH WITH MEEM FINAL FORM",
  "gYEH FINAL FORM,gALEF MAKSURA FINAL FORM,eJEEM WITH JEEM INITIAL FORM,hFINAL FORM",
  "eKHAH WITH MEEM FINAL FORM,hINITIAL FORM,eMEEM WITH HAH FINAL FORM,hINITIAL FORM",
  "cMEEM WITH HAH WITH JEEM INITIAL FORM,gMEEM INITIAL FORM,gYEH FINAL FORM",
  "eJEEM WITH HAH INITIAL FORM,gMEEM INITIAL FORM,eKHAH WITH JEEM INITIAL FORM,gMEEM INITIAL FORM",
  "=FD92,eJEEM WITH KHAH INITIAL FORM,cHEH WITH MEEM WITH JEEM INITIAL FORM,gMEEM INITIAL FORM",
  "cNOON WITH HAH WITH MEEM INITIAL FORM,gALEF MAKSURA FINAL FORM,eJEEM WITH MEEM FINAL FORM",
  "hINITIAL FORM,gALEF MAKSURA FINAL FORM,eMEEM WITH YEH FINAL FORM,gALEF MAKSURA FINAL FORM",
  "cYEH WITH MEEM WITH MEEM FINAL FORM,hINITIAL FORM,cBEH WITH KHAH WITH YEH FINAL FORM",
  "cTEH WITH JEEM WITH YEH FINAL FORM,gALEF MAKSURA FINAL FORM,eKHAH WITH YEH FINAL FORM",
  "gALEF MAKSURA FINAL FORM,eMEEM WITH YEH FINAL FORM,gALEF MAKSURA FINAL FORM",
  "cJEEM WITH MEEM WITH YEH FINAL FORM,eHAH WITH ALEF MAKSURA FINAL FORM",
  "eMEEM WITH ALEF MAKSURA FINAL FORM,cSEEN WITH KHAH WITH ALEF MAKSURA FINAL FORM",
  "cSAD WITH HAH WITH YEH FINAL FORM,cSHEEN WITH HAH WITH YEH FINAL FORM",
  "cDAD WITH HAH WITH YEH FINAL FORM,cLAM WITH JEEM WITH YEH FINAL FORM,eMEEM WITH YEH FINAL FORM",
  "cYEH WITH HAH WITH YEH FINAL FORM,eJEEM WITH YEH FINAL FORM,eMEEM WITH YEH FINAL FORM",
  "cMEEM WITH MEEM WITH YEH FINAL FORM,cQAF WITH MEEM WITH YEH FINAL FORM",
  "cNOON WITH HAH WITH YEH FINAL FORM,cQAF WITH MEEM WITH HAH INITIAL FORM",
  "cLAM WITH HAH WITH MEEM INITIAL FORM,cAIN WITH MEEM WITH YEH FINAL FORM",
  "cKAF WITH MEEM WITH YEH FINAL FORM,cNOON WITH JEEM WITH HAH INITIAL FORM",
  "cMEEM WITH KHAH WITH YEH FINAL FORM,cLAM WITH JEEM WITH MEEM INITIAL FORM",
  "cKAF WITH MEEM WITH MEEM FINAL FORM,cLAM WITH JEEM WITH MEEM FINAL FORM",
  "cNOON WITH JEEM WITH HAH FINAL FORM,cJEEM WITH HAH WITH YEH FINAL FORM",
  "cHAH WITH JEEM WITH YEH FINAL FORM,cMEEM WITH JEEM WITH YEH FINAL FORM",
  "cFEH WITH MEEM WITH YEH FINAL FORM,cBEH WITH HAH WITH YEH FINAL FORM",
  "cKAF WITH MEEM WITH MEEM INITIAL FORM,cAIN WITH JEEM WITH MEEM INITIAL FORM",
  "cSAD WITH MEEM WITH MEEM INITIAL FORM,cSEEN WITH KHAH WITH YEH FINAL FORM",
  "cNOON WITH JEEM WITH YEH FINAL FORM,=FDCF,cSALAAMUHU ALAYNAA,=FDF0",
  "cSALLA USED AS KORANIC STOP SIGN ISOLATED FORM,cQALA USED AS KORANIC STOP SIGN ISOLATED FORM",
  "cALLAH ISOLATED FORM,cAKBAR ISOLATED FORM,cMOHAMMAD ISOLATED FORM,cSALAM ISOLATED FORM",
  "cRASOUL ISOLATED FORM,cALAYHE ISOLATED FORM,cWASALLAM ISOLATED FORM,cSALLA ISOLATED FORM",
  "cSALLALLAHOU ALAYHE WASALLAM,cJALLAJALALOUHOU,aRIAL SIGN",
  "aARABIC LIGATURE BISMILLAH AR-RAHMAN AR-RAHEEM,cSUBHAANAHU WA TAAALAA,cAZZA WA JALL",
  "aVARIATION SELECTOR-1,bSELECTOR-2,bSELECTOR-3,bSELECTOR-4,bSELECTOR-5,bSELECTOR-6,bSELECTOR-7",
  "bSELECTOR-8,bSELECTOR-9,bSELECTOR-10,bSELECTOR-11,bSELECTOR-12,bSELECTOR-13,bSELECTOR-14",
  "bSELECTOR-15,bSELECTOR-16,aPRESENTATION FORM FOR VERTICAL COMMA,eIDEOGRAPHIC COMMA,fFULL STOP",
  "eCOLON,eSEMICOLON,eEXCLAMATION MARK,eQUESTION MARK,eLEFT WHITE LENTICULAR BRACKET",
  "eRIGHT WHITE LENTICULAR BRAKCET,eHORIZONTAL ELLIPSIS,=FE20,aCOMBINING LIGATURE LEFT HALF",
  "cRIGHT HALF,bDOUBLE TILDE LEFT HALF,dRIGHT HALF,bMACRON LEFT HALF,cRIGHT HALF",
  "bCONJOINING MACRON,bLIGATURE LEFT HALF BELOW,cRIGHT HALF BELOW,bTILDE LEFT HALF BELOW",
  "cRIGHT HALF BELOW,bMACRON LEFT HALF BELOW,cRIGHT HALF BELOW,bCONJOINING MACRON BELOW",
  "bCYRILLIC TITLO LEFT HALF,dRIGHT HALF,aPRESENTATION FORM FOR VERTICAL TWO DOT LEADER,eEM DASH",
  "eEN DASH,eLOW LINE,eWAVY LOW LINE,eLEFT PARENTHESIS,eRIGHT PARENTHESIS,eLEFT CURLY BRACKET",
  "eRIGHT CURLY BRACKET,eLEFT TORTOISE SHELL BRACKET,eRIGHT TORTOISE SHELL BRACKET",
  "eLEFT BLACK LENTICULAR BRACKET,eRIGHT BLACK LENTICULAR BRACKET,eLEFT DOUBLE ANGLE BRACKET",
  "eRIGHT DOUBLE ANGLE BRACKET,eLEFT ANGLE BRACKET,eRIGHT ANGLE BRACKET,eLEFT CORNER BRACKET",
  "eRIGHT CORNER BRACKET,eLEFT WHITE CORNER BRACKET,eRIGHT WHITE CORNER BRACKET,aSESAME DOT",
  "aWHITE SESAME DOT,aPRESENTATION FORM FOR VERTICAL LEFT SQUARE BRACKET,eRIGHT SQUARE BRACKET",
  "aDASHED OVERLINE,aCENTRELINE OVERLINE,aWAVY OVERLINE,aDOUBLE WAVY OVERLINE,aDASHED LOW LINE",
  "aCENTRELINE LOW LINE,aWAVY LOW LINE,aSMALL COMMA,bIDEOGRAPHIC COMMA,bFULL STOP,=FE54",
  "bSEMICOLON,bCOLON,bQUESTION MARK,bEXCLAMATION MARK,bEM DASH,bLEFT PARENTHESIS",
  "bRIGHT PARENTHESIS,bLEFT CURLY BRACKET,bRIGHT CURLY BRACKET,bLEFT TORTOISE SHELL BRACKET",
  "bRIGHT TORTOISE SHELL BRACKET,bNUMBER SIGN,bAMPERSAND,bASTERISK,bPLUS SIGN,bHYPHEN-MINUS",
  "bLESS-THAN SIGN,bGREATER-THAN SIGN,bEQUALS SIGN,=FE68,bREVERSE SOLIDUS,bDOLLAR SIGN",
  "bPERCENT SIGN,bCOMMERCIAL AT,=FE70,aARABIC FATHATAN ISOLATED FORM,bTATWEEL WITH FATHATAN ABOVE",
  "bDAMMATAN ISOLATED FORM,bTAIL FRAGMENT,bKASRATAN ISOLATED FORM,=FE76,bFATHA ISOLATED FORM",
  "cMEDIAL FORM,bDAMMA ISOLATED FORM,cMEDIAL FORM,bKASRA ISOLATED FORM,cMEDIAL FORM",
  "bSHADDA ISOLATED FORM,cMEDIAL FORM,bSUKUN ISOLATED FORM,cMEDIAL FORM",
  "bLETTER HAMZA ISOLATED FORM,cALEF WITH MADDA ABOVE ISOLATED FORM,gFINAL FORM",
  "eHAMZA ABOVE ISOLATED FORM,gFINAL FORM,cWAW WITH HAMZA ABOVE ISOLATED FORM,gFINAL FORM",
  "cALEF WITH HAMZA BELOW ISOLATED FORM,gFINAL FORM,cYEH WITH HAMZA ABOVE ISOLATED FORM",
  "gFINAL FORM,gINITIAL FORM,gMEDIAL FORM,cALEF ISOLATED FORM,dFINAL FORM,cBEH ISOLATED FORM",
  "dFINAL FORM,dINITIAL FORM,dMEDIAL FORM,cTEH MARBUTA ISOLATED FORM,eFINAL FORM,dISOLATED FORM",
  "dFINAL FORM,dINITIAL FORM,dMEDIAL FORM,cTHEH ISOLATED FORM,dFINAL FORM,dINITIAL FORM",
  "dMEDIAL FORM,cJEEM ISOLATED FORM,dFINAL FORM,dINITIAL FORM,dMEDIAL FORM,cHAH ISOLATED FORM",
  "dFINAL FORM,dINITIAL FORM,dMEDIAL FORM,cKHAH ISOLATED FORM,dFINAL FORM,dINITIAL FORM",
  "dMEDIAL FORM,cDAL ISOLATED FORM,dFINAL FORM,cTHAL ISOLATED FORM,dFINAL FORM,cREH ISOLATED FORM",
  "dFINAL FORM,cZAIN ISOLATED FORM,dFINAL FORM,cSEEN ISOLATED FORM,dFINAL FORM,dINITIAL FORM",
  "dMEDIAL FORM,cSHEEN ISOLATED FORM,dFINAL FORM,dINITIAL FORM,dMEDIAL FORM,cSAD ISOLATED FORM",
  "dFINAL FORM,dINITIAL FORM,dMEDIAL FORM,cDAD ISOLATED FORM,dFINAL FORM,dINITIAL FORM",
  "dMEDIAL FORM,cTAH ISOLATED FORM,dFINAL FORM,dINITIAL FORM,dMEDIAL FORM,cZAH ISOLATED FORM",
  "dFINAL FORM,dINITIAL FORM,dMEDIAL FORM,cAIN ISOLATED FORM,dFINAL FORM,dINITIAL FORM",
  "dMEDIAL FORM,cGHAIN ISOLATED FORM,dFINAL FORM,dINITIAL FORM,dMEDIAL FORM,cFEH ISOLATED FORM",
  "dFINAL FORM,dINITIAL FORM,dMEDIAL FORM,cQAF ISOLATED FORM,dFINAL FORM,dINITIAL FORM",
  "dMEDIAL FORM,cKAF ISOLATED FORM,dFINAL FORM,dINITIAL FORM,dMEDIAL FORM,cLAM ISOLATED FORM",
  "dFINAL FORM,dINITIAL FORM,dMEDIAL FORM,cMEEM ISOLATED FORM,dFINAL FORM,dINITIAL FORM",
  "dMEDIAL FORM,cNOON ISOLATED FORM,dFINAL FORM,dINITIAL FORM,dMEDIAL FORM,cHEH ISOLATED FORM",
  "dFINAL FORM,dINITIAL FORM,dMEDIAL FORM,cWAW ISOLATED FORM,dFINAL FORM",
  "cALEF MAKSURA ISOLATED FORM,eFINAL FORM,cYEH ISOLATED FORM,dFINAL FORM,dINITIAL FORM",
  "dMEDIAL FORM,bLIGATURE LAM WITH ALEF WITH MADDA ABOVE ISOLATED FORM,iFINAL FORM",
  "gHAMZA ABOVE ISOLATED FORM,iFINAL FORM,hBELOW ISOLATED FORM,iFINAL FORM,fISOLATED FORM",
  "fFINAL FORM,=FEFF,aZERO WIDTH NO-BREAK SPACE,=FF01,aFULLWIDTH EXCLAMATION MARK,bQUOTATION MARK",
  "bNUMBER SIGN,bDOLLAR SIGN,bPERCENT SIGN,bAMPERSAND,bAPOSTROPHE,bLEFT PARENTHESIS",
  "bRIGHT PARENTHESIS,bASTERISK,bPLUS SIGN,bCOMMA,bHYPHEN-MINUS,bFULL STOP,bSOLIDUS,bDIGIT ZERO",
  "cONE,cTWO,cTHREE,cFOUR,cFIVE,cSIX,cSEVEN,cEIGHT,cNINE,bCOLON,bSEMICOLON,bLESS-THAN SIGN",
  "bEQUALS SIGN,bGREATER-THAN SIGN,bQUESTION MARK,bCOMMERCIAL AT,bLATIN CAPITAL LETTER A,eB,eC,eD",
  "eE,eF,eG,eH,eI,eJ,eK,eL,eM,eN,eO,eP,eQ,eR,eS,eT,eU,eV,eW,eX,eY,eZ,bLEFT SQUARE BRACKET",
  "bREVERSE SOLIDUS,bRIGHT SQUARE BRACKET,bCIRCUMFLEX ACCENT,bLOW LINE,bGRAVE ACCENT",
  "bLATIN SMALL LETTER A,eB,eC,eD,eE,eF,eG,eH,eI,eJ,eK,eL,eM,eN,eO,eP,eQ,eR,eS,eT,eU,eV,eW,eX,eY",
  "eZ,bLEFT CURLY BRACKET,bVERTICAL LINE,bRIGHT CURLY BRACKET,bTILDE,bLEFT WHITE PARENTHESIS",
  "bRIGHT WHITE PARENTHESIS,aHALFWIDTH IDEOGRAPHIC FULL STOP,bLEFT CORNER BRACKET",
  "bRIGHT CORNER BRACKET,bIDEOGRAPHIC COMMA,bKATAKANA MIDDLE DOT,cLETTER WO,dSMALL A,eI,eU,eE,eO",
  "eYA,eYU,eYO,eTU,bKATAKANA-HIRAGANA PROLONGED SOUND MARK,bKATAKANA LETTER A,dI,dU,dE,dO,dKA,dKI",
  "dKU,dKE,dKO,dSA,dSI,dSU,dSE,dSO,dTA,dTI,dTU,dTE,dTO,dNA,dNI,dNU,dNE,dNO,dHA,dHI,dHU,dHE,dHO",
  "dMA,dMI,dMU,dME,dMO,dYA,dYU,dYO,dRA,dRI,dRU,dRE,dRO,dWA,dN,cVOICED SOUND MARK",
  "cSEMI-VOICED SOUND MARK,bHANGUL FILLER,cLETTER KIYEOK,dSSANGKIYEOK,dKIYEOK-SIOS,dNIEUN",
  "dNIEUN-CIEUC,dNIEUN-HIEUH,dTIKEUT,dSSANGTIKEUT,dRIEUL,dRIEUL-KIYEOK,dRIEUL-MIEUM,dRIEUL-PIEUP",
  "dRIEUL-SIOS,dRIEUL-THIEUTH,dRIEUL-PHIEUPH,dRIEUL-HIEUH,dMIEUM,dPIEUP,dSSANGPIEUP,dPIEUP-SIOS",
  "dSIOS,dSSANGSIOS,dIEUNG,dCIEUC,dSSANGCIEUC,dCHIEUCH,dKHIEUKH,dTHIEUTH,dPHIEUPH,dHIEUH,=FFC2,dA",
  "dAE,dYA,dYAE,dEO,dE,=FFCA,dYEO,dYE,dO,dWA,dWAE,dOE,=FFD2,dYO,dU,dWEO,dWE,dWI,dYU,=FFDA,dEU,dYI",
  "dI,=FFE0,aFULLWIDTH CENT SIGN,bPOUND SIGN,bNOT SIGN,bMACRON,bBROKEN BAR,bYEN SIGN,bWON SIGN",
  "=FFE8,aHALFWIDTH FORMS LIGHT VERTICAL,bLEFTWARDS ARROW,bUPWARDS ARROW,bRIGHTWARDS ARROW",
  "bDOWNWARDS ARROW,bBLACK SQUARE,bWHITE CIRCLE,=FFF9,aINTERLINEAR ANNOTATION ANCHOR,cSEPARATOR",
  "cTERMINATOR,aOBJECT REPLACEMENT CHARACTER,aREPLACEMENT CHARACTER"]

end ServiceShell.Text.CharacterName
