/-!
# The names of characters

The names are sorted.  Behind the first name of each group small letters write a number
to base 26: so many letters at the end of the name before are dropped, and the capitals
that follow are put in their place.
-/

namespace Tabletop
namespace Text
namespace CharacterName

/-- The first name of each group, and the others of the group. -/
def groups : List (String × String) := [
  ("ABACUS",
    "fC CURRENTiCORDIONfUNT OFiKaNOWLEDGEjTIVATE ARABIC FORM SHAPINGtSYMMETRIC SWAPPINGzUTE ACC" ++
    "ENTfNGLEkDDRESSED TO THE SUBJECTwHESIVE BANDAGEoI SHAKTIiLAM ALIF LENGTHENERpCAPITAL LETTE" ++
    "R ALIFeBAbHEdCHIdDAALIeHAdEbFAcGAbBEdHAcIbJIIMeKAFcHAcPOdLAAMeMIIMeNHAcUNcYAdObPE"),
  ("ADLAM CAPITAL LETTER QAAF",
    "eRAcSHAcINNYIIYHEkTUcUbVAcWAWdYAbHEdZALrONSONANT MODIFIERsDIGIT EIGHTfFIVEdOUReNINEeONEdSE" ++
    "VENeIXdTHREEeWOdZEROkGEMINATE CONSONANT MODIFIERuION MARKpHAMZAfINITIAL EXCLAMATION MARKqQ" ++
    "UESTION MARKvNASALIZATION MARKqUKTAfSMALL LETTER ALIFeBAbHEdCHIdDAALIeHAdEbFAcGAbBE"),
  ("ADLAM SMALL LETTER HA",
    "cIbJIIMeKAFcHAcPOdLAAMeMIIMeNHAcUNcYAdObPEcQAAFeRAcSHAcINNYIIYHEkTUcUbVAcWAWdYAbHEdZALqVOW" ++
    "EL LENGTHENERuMETOSeISSION TICKETSpULTeEGEAN CHECK MARKkDRY MEASURE FIRST SUBUNITzLIQUID M" ++
    "EASURE FIRST SUBUNITbcMEASURE SECOND SUBUNIToTHIRD SUBUNITvNUMBER EIGHTa HUNDRED"),
  ("AEGEAN NUMBER EIGHT THOUSAND",
    "jYa THOUSANDpFIFTYa THOUSANDmVEa HUNDREDhTHOUSANDmORTYa THOUSANDmURa HUNDREDhTHOUSANDnNINE" ++
    "a HUNDREDhTHOUSANDjTYa THOUSANDpONEa HUNDREDhTHOUSANDmSEVENa HUNDREDhTHOUSANDjTYa THOUSAND" ++
    "pIXa HUNDREDhTHOUSANDjTYa THOUSANDoTENa THOUSANDlHIRTYa THOUSANDnREEa HUNDRED"),
  ("AEGEAN NUMBER THREE THOUSAND",
    "nWENTYa THOUSANDnOa HUNDREDhTHOUSANDtWEIGHT BASE UNITjFIRST SUBUNITmOURTH SUBUNIToSECOND S" ++
    "UBUNIToTHIRD SUBUNITtORD SEPARATOR DOTdLINEyRIAL TRAMWAYnFGHANI SIGNlHOM CONSONANT SIGN ME" ++
    "DIAL LAbIGATING RAlRAyDIGIT EIGHTfFIVEdOUReNINEeONEdSEVENeIXdTHREEeWOdZEROkLETTER A"),
  ("AHOM LETTER ALTERNATE BA",
    "cGAcTAmBAbHAdCAbHAdDAbDAbHAdHAdGAbHAdHAcJAbHAdKAbHAdLAbLAdMAcNAbGAcNAcYAdPAbHAdRAcSAcTAbHA" ++
    "cTAbHAlNUMBER TENcWENTYnSIGN KILLERgRULAIfSECTIONgMALL SECTIONrYMBOL VIjVOWEL SIGN AaAbIbM" ++
    "bWcEbIaIcObUaUrIRPLANEa ARRIVINGiDEPARTURErKTIESELSKABlLARM CLOCK"),
  ("ALCHEMICAL SYMBOL FOR AIR",
    "cLEMBICfKALIa-2gUMdMALGAMgNTIMONY ORElQUA REGIAa-2hVITAEa-2iFORTISjRSENICgSHESeURIPIGMENTl" ++
    "BATH OF MARYeVAPOURSoISMUTH OREkLACK SULFURlORAXa-2b3gRICKfCADUCEUSgLXcPUT MORTUUMmINNABAR" ++
    "hOPPER ANTIMONIATElOREjROCUS OF COPPERa-2iIRONmUCIBLEa-2b3b4b5kDAY-NIGHTiISSOLVEa-2"),
  ("ALCHEMICAL SYMBOL FOR DISTILL",
    "hEARTHfFIREeGOLDdUMdHALF DRAMeOUNCEjORSE DUNGiUReIRON OREa-2g-COPPER OREpLEAD OREhODESTONE" ++
    "jMARCASITEiERCURY SUBLIMATEa-2b3sONTHfNIGHTdTREfOILdPHILOSOPHERS SULFURsOT ASHEShWDERaED B" ++
    "RICKnRECIPITATEkURIFYeTREFACTIONmQUICK LIMEhNTESSENCEmREALGARa-2hGULUSa OF ANTIMONY"),
  ("ALCHEMICAL SYMBOL FOR REGULUS OF ANTIMONY-2",
    "kIRONi-2b3b4hTORTfOCK SALTa-2lSAL-AMMONIACjTa OF ANTIMONYiCOPPER ANTIMONIATEzCEPTER OF JOV" ++
    "EoILVERfOAPdPIRITfTARRED TRIDENTnRATUM SUPER STRATUMa-2wUBLIMATE OF ANTIMONYiCOPPERgSALT O" ++
    "F ANTIMONYiCOPPERtIONjLFURgTARTARa-2hIN OREeCTUREhRIDENTgUTTYfURINEfVERDIGRISiINEGAR"),
  ("ALCHEMICAL SYMBOL FOR VINEGAR OF ANTIMONY",
    "m-2b3hTRIOLa-2jWATERdXxEF SYMBOLiMBICeRTdIEN MONSTERlL AROUND-PROFILEoEQUAL TOkMaOST EQUAL" ++
    " OR EQUAL TOlTOa WITH CIRCUMFLEX ACCENTbkTERNATE ONE-WAY LEFT WAY TRAFFICbaIVE KEY SYMBOLv" ++
    "MALGAMATION OR COPRODUCTxBULANCEhERICAN FOOTBALLpPERSANDgHORA"),
  ("ANATOLIAN HIEROGLYPH A001",
    "b2b3b4b5b6b7b8b9c10aAc1b2b3b4b5b6b7b8b9c20b1b2b3b4b5b6aAc7b8b9c30b1b2b3b4b5b6b7b8b9aAd40b1" ++
    "aAc2b3b4b5aAc6aAbBc7b8b9c50b1b2b3b4b5b6b7b8b9c60b1b2b3b4b5b6aAbBbCc7b8b9c70b1b2b3b4b5b6b7b" ++
    "8b9c80b1b2b3b4b5b6b7b8b9c90b1b2b3b4b5b6b7aAc8aAc9d100aAc1aAc2aAc3b4aAbBbCc5aAbBc6b7"),
  ("ANATOLIAN HIEROGLYPH A107A",
    "bBbCc8b9c10aAbBc1b2b3b4b5aAc6b7b8b9c20b1b2b3b4b5aAc6b7b8b9c30b1b2b3b4b5aAc6b7b8b9c40b1b2b3" ++
    "b4b5b6b7b8b9c50b1b2b3b4b5b6b7b8b9c60b1b2b3b4b5b6b7b8b9c70b1b2b3b4b5b6b7b8b9c80b1b2b3b4b5b6" ++
    "b7b8b9c90b1b2b3b4b5b6b7b8b9d200b1b2aAbBc3b4b5b6b7aAc8b9aAd10b1b2b3b4b5aAc6aAc7b8b9"),
  ("ANATOLIAN HIEROGLYPH A220",
    "b1b2b3b4b5b6b7aAc8b9c30b1b2b3b4b5b6b7b8b9c40b1b2b3b4b5b6b7b8b9c50b1b2b3b4b5b6b7b8b9c60b1b2" ++
    "b3b4b5b6b7aAc8b9c70b1b2b3b4b5b6b7b8b9c80b1b2b3b4b5b6b7b8b9aAd90b1b2b3b4aAc5b6b7b8b9aAe300b" ++
    "1b2b3b4b5b6b7b8b9aAd10b1b2b3b4b5b6b7b8b9c20b1b2b3b4b5b6b7b8b9aAd30b1b2AbBbCc3b4b5b6"),
  ("ANATOLIAN HIEROGLYPH A336A",
    "bBbCc7b8b9c40b1b2b3b4b5b6b7b8b9c50b1b2b3b4b5b6b7b8b9aAd60b1b2b3b4aAc5b6b7b8aAc9c70b1aAc2b3" ++
    "b4b5b6b7b8b9c80b1aAc2b3 RA OR RIjAc4b5b6aAc7b8b9c90b1b2b3 EIGHTh4b5b6b7b8b9d400b1b2b3b4b5b" ++
    "6b7b8b9c10 BEGIN LOGOGRAM MARKuA END LOGOGRAM MARKu1b2b3b4b5b6b7b8b9c20b1b2b3b4b5b6"),
  ("ANATOLIAN HIEROGLYPH A427",
    "b8b9c30b1b2b3b4b5b6b7b8b9c40b1b2b3b4b5b6b7b8b9c50aAc1b2b3b4b5b6b7aAc8b9c60b1b2b3b4b5b6b7b8" ++
    "b9c70b1b2b3b4b5b6b7b8b9c80b1b2b3b4b5b6b7b8b9c90b1b2b3b4b5b6b7d501b2b3b4b5b6b7b8b9c10b1b2b3" ++
    "b4b5b6b7b8b9c20b1b2b3b4b5b6b7b8b9c30uMICAL HEARToCHOReD WITH DOTkGER SYMBOLjLE"),
  ("ANGLE WITH S INSIDE",
    "iUNDERBARqRY FACEhSTROM SIGNkUISHED FACEmKHcTaENNA WITH BARSoICLOCKWISE CLOSED CIRCLE ARRO" ++
    "WsONTOUR INTEGRALqDOWNWARDS AND UPWARDS OPEN CIRCLE ARROWSboGAPPED CIRCLE ARROWtINTEGRATI" ++
    "ONlOPEN CIRCLE ARROWrTOP SEMICIRCLE ARROWtRIANGLE-HEADED BOTTOM U-SHAPED ARROW"),
  ("ANTICLOCKWISE TRIANGLE-HEADED LEFT U-SHAPED ARROW",
    "tOPEN CIRCLE ARROWrRIGHT U-SHAPED ARROWuTOP U-SHAPED ARROWbvPCbL FUNCTIONAL SYMBOL ALPHAa" ++
    " UNDERBARoBACKSLASH BARnCIRCLE BACKSLASHjDIAERESISjJOTdSTARcILEfUNDERBARoOMMA BARjDEL DIAE" ++
    "RESISjSTILEfTILDEgTA STILEfUNDERBARnIAMOND UNDERBARpOWN CARET TILDElSHOE STILE"),
  ("APL FUNCTIONAL SYMBOL DOWN TACK JOT",
    "dUNDERBARoWARDS VANEoEPSILON UNDERBARqGREATER-THAN DIAERESISwI-BEAMfOTAa UNDERBARnJOT DIAE" ++
    "RESISjUNDERBARmLEFT SHOE STILElWARDS VANEoOMEGAa UNDERBARoQUADa BACKSLASHjCIRCLEfOLONfDELa" ++
    "TAeIAMONDfVIDEfOWN CARETgWARDS ARROWpEQUALfGREATER-THANmJOTdLEFTWARDS ARROWnSS-THAN"),
  ("APL FUNCTIONAL SYMBOL QUAD NOT EQUAL",
    "jQUESTIONiRIGHTWARDS ARROWqSLASHfUP CARETgWARDS ARROWqOTE QUADeUNDERBARoRHOcIGHTWARDS VANE" ++
    "pSEMICOLON UNDERBARrLASH BARiQUISH QUADkTAR DIAERESISmILE TILDElTILDE DIAERESISpUP CARET T" ++
    "ILDElSHOE JOTiTACK DIAERESISjJOTdOVERBARnWARDS VANEmZILDEzOLLONeSTROPHE"),
  ("APPLICATION PROGRAM COMMAND",
    "yROACHES THE LIMITpXIMATELY BUT NOT ACTUALLY EQUAL TOzEQUAL OR EQUAL TOlTOa OR THE IMAGE O" ++
    "FblQUARIUShRABIC BASELINE ROUND DOTsCOMMAeURLY DAMMAaTANiFATHAaTANiKASRAaTANoDAMMAa ISOLAT" ++
    "ED FORMnMEDIAL FORMlWITH DOTjTANa ISOLATED FORMuTE SEPARATORnECIMAL SEPARATOR"),
  ("ARABIC DISPUTED END OF AYAH",
    "tOUBLE RIGHT ARROWHEAD ABOVEa WITH DOTbfD MADDAnEMPTY CENTRE HIGH STOPjLOW STOPuND OF AYAH" ++
    "eTEXT MARKqFATHAa ISOLATED FORMnMEDIAL FORMlWITH DOT ABOVEjRINGeTWO DOTSoTANa ISOLATED FOR" ++
    "MvIVE POINTED STARqOOTNOTE MARKERoULL STOPjHALF MADDA OVER MADDAtMZA ABOVEfBELOW"),
  ("ARABIC INVERTED DAMMA",
    "oKASRAa ISOLATED FORMnMEDIAL FORMlWITH DOT BELOWpTANa ISOLATED FORMwLARGE CIRCLE BELOWmROU" ++
    "ND DOT ABOVEfBELOWfINSIDE CIRCLE BELOWbiEFT ARROWHEAD ABOVEfBELOWsTTER AEbFRICAN FEHdNOONe" ++
    "QAFa WITH THREE DOTS ABOVEbgINa FINAL FORMkINITIAL FORMlSOLATED FORMnMEDIAL FORM"),
  ("ARABIC LETTER AIN WITH THREE DOTS ABOVE",
    "fBELOWfPOINTING DOWNWARDS ABOVEbiWO DOTS ABOVEfVERTICALLY ABOVEbhLEFa FINAL FORMkISOLATED" ++
    " FORMnMAKSURAa FINAL FORMkISOLATED FORMvWASLAa FINAL FORMkISOLATED FORMsITH ATTACHED BOTTO" ++
    "M RIGHT KASRAa AND DOT ABOVEjLEFT RINGbgFATHAfKASRAfLEFT HAMZAfROUND DOToRIGHT HAMZA"),
  ("ARABIC LETTER ALEF WITH ATTACHED RIGHT ROUND DOT",
    "oOUND DOT ABOVEfBELOWpTOP RIGHT FATHAa AND DOT ABOVEjLEFT RINGbmDOT ABOVEjEXTENDED ARABIC-" ++
    "INDIC DIGIT THREE ABOVEkWO ABOVEblHAMZA ABOVEa FINAL FORMkISOLATED FORMtBELOWa FINAL FORMk" ++
    "ISOLATED FORMzLEFT MIDDLE STROKEsMADDA ABOVEa FINAL FORMkISOLATED FORM"),
  ("ARABIC LETTER ALEF WITH RIGHT MIDDLE STROKE",
    "a AND DOT ABOVEjLEFT RINGbhWAVY HAMZA ABOVEfBELOWbaBEEHa FINAL FORMkINITIAL FORMlSOLATED F" ++
    "ORMnMEDIAL FORMoHa FINAL FORMkINITIAL FORMlSOLATED FORMnMEDIAL FORMlWITH DOT BELOW AND THR" ++
    "EE DOTS ABOVEbeHAMZA ABOVElINVERTED SMALL V BELOWwSMALL MEEM ABOVEkVa BELOW"),
  ("ARABIC LETTER BEH WITH THREE DOTS HORIZONTALLY BELOW",
    "sPOINTING UPWARDS BELOWa AND TWO DOTS ABOVEbzWO DOTS BELOW AND DOT ABOVEbiEHa FINAL FORMkI" ++
    "NITIAL FORMlSOLATED FORMnMEDIAL FORMrDADa FINAL FORMkINITIAL FORMlSOLATED FORMnMEDIAL FORM" ++
    "lWITH DOT BELOWqHALa FINAL FORMkISOLATED FORMrLa FINAL FORMkISOLATED FORM"),
  ("ARABIC LETTER DAL WITH DOT BELOW",
    "a AND SMALL TAHxFOUR DOTS ABOVEpINVERTED SMALL V BELOWnVkRINGeTHREE DOTS ABOVE DOWNWARDSpB" ++
    "ELOWpWO DOTS VERTICALLY BELOW AND SMALL TAHbvDAHALa FINAL FORMkISOLATED FORMrLa FINAL FORM" ++
    "kISOLATED FORMrOTLESS BEHdFEHdQAFkULa FINAL FORMkISOLATED FORMqYEHa FINAL FORM"),
  ("ARABIC LETTER DYEH INITIAL FORM",
    "lSOLATED FORMnMEDIAL FORMqEa FINAL FORMkINITIAL FORMlSOLATED FORMnMEDIAL FORMnFARSI YEHa F" ++
    "INAL FORMkINITIAL FORMlSOLATED FORMnMEDIAL FORMlWITH EXTENDED ARABIC-INDIC DIGIT FOUR BELO" ++
    "WkTHREE ABOVEkWO ABOVEblINVERTED VkTHREE DOTS ABOVEpWO DOTS ABOVEbcEHa FINAL FORM"),
  ("ARABIC LETTER FEH INITIAL FORM",
    "lSOLATED FORMnMEDIAL FORMlWITH DOT BELOWa AND THREE DOTS ABOVEbaMOVED BELOWpTHREE DOTS BEL" ++
    "OWfPOINTING UPWARDS BELOWbgWO DOTS BELOWxGAFa FINAL FORMkINITIAL FORMlSOLATED FORMnMEDIAL" ++
    " FORMlWITH INVERTED STROKEpRINGeTHREE DOTS ABOVEpWO DOTS BELOWwHAINa FINAL FORM"),
  ("ARABIC LETTER GHAIN INITIAL FORM",
    "lSOLATED FORMnMEDIAL FORMlWITH DOT BELOWjTHREE DOTS ABOVEbaRAFdUEHa FINAL FORMkINITIAL FOR" ++
    "MlSOLATED FORMnMEDIAL FORMqHAHa FINAL FORMkINITIAL FORMlSOLATED FORMnMEDIAL FORMlWITH EXTE" ++
    "NDED ARABIC-INDIC DIGIT FOUR BELOWbmHAMZA ABOVElINVERTED SMALL V BELOW"),
  ("ARABIC LETTER HAH WITH SMALL ARABIC LETTER TAH ABOVE",
    "eND TWO DOTSmBELOWbdTHREE DOTS ABOVEfPOINTING UPWARDS BELOWbgWO DOTS ABOVEfVERTICAL ABOVEb" ++
    "eMZAa ISOLATED FORMsEHa DOACHASHMEEa FINAL FORMkINITIAL FORMlSOLATED FORMnMEDIAL FORMxFINA" ++
    "L FORMkGOALa FINAL FORMkINITIAL FORMlSOLATED FORMnMEDIAL FORMlWITH HAMZA ABOVE"),
  ("ARABIC LETTER HEH INITIAL FORM",
    "lSOLATED FORMnMEDIAL FORMlWITH INVERTED VkYEH ABOVEa FINAL FORMkISOLATED FORMbfIGH HAMZAa" ++
    " ALEFeWAWdYEHoJEEMa FINAL FORMkINITIAL FORMlSOLATED FORMnMEDIAL FORMlWITH THREE DOTS ABOVE" ++
    "fBELOWpWO DOTS ABOVEwHa FINAL FORMkISOLATED FORMrKAFa FINAL FORMkINITIAL FORM"),
  ("ARABIC LETTER KAF ISOLATED FORM",
    "nMEDIAL FORMlWITH DOT ABOVEfBELOWjRINGeTHREE DOTS BELOWpWO DOTS ABOVEvSHMIRI YEHlEHEHa FIN" ++
    "AL FORMkINITIAL FORMlSOLATED FORMnMEDIAL FORMlWITH DOT ABOVEjSMALL VhTHREE DOTS ABOVEfBELO" ++
    "WfPOINTING UPWARDS BELOWbgWO DOTS ABOVEfVERTICALLY BELOWbjHAHa FINAL FORM"),
  ("ARABIC LETTER KHAH INITIAL FORM",
    "lSOLATED FORMnMEDIAL FORMpIRGHIZ OEa FINAL FORMkISOLATED FORMqYUa FINAL FORMkISOLATED FORM" ++
    "yLAMa FINAL FORMkINITIAL FORMlSOLATED FORMnMEDIAL FORMlWITH BARdDOT ABOVEhUBLE BARkSMALL A" ++
    "RABIC LETTER TAH ABOVExVhTHREE DOTS ABOVEfBELOWyOW ALEFiMARKdEEMa FINAL FORM"),
  ("ARABIC LETTER MEEM INITIAL FORM",
    "lSOLATED FORMnMEDIAL FORMlWITH DOT ABOVEfBELOWjTHREE DOTS ABOVEbaNGa FINAL FORMkINITIAL FO" ++
    "RMlSOLATED FORMnMEDIAL FORMmOEHa FINAL FORMkINITIAL FORMlSOLATED FORMnMEDIAL FORMqOONa FIN" ++
    "AL FORMkGHUNNAa FINAL FORMkISOLATED FORMuINITIAL FORMlSOLATED FORMnMEDIAL FORM"),
  ("ARABIC LETTER NOON WITH DOT BELOW",
    "jINVERTED SMALL VqRINGeSMALL TAHdVhTHREE DOTS ABOVEpWO DOTS BELOWxYEHa FINAL FORMkINITIAL" ++
    " FORMlSOLATED FORMnMEDIAL FORMqOEa FINAL FORMkISOLATED FORMqPEHa FINAL FORMkINITIAL FORMlS" ++
    "OLATED FORMnMEDIAL FORMlWITH SMALL MEEM ABOVEkVnEHa FINAL FORMkINITIAL FORM"),
  ("ARABIC LETTER PEHEH ISOLATED FORM",
    "nMEDIAL FORMrQAFa FINAL FORMkINITIAL FORMlSOLATED FORMnMEDIAL FORMlWITH DOT ABOVEfBELOWa A" ++
    "ND NO DOTS ABOVEbbTHREE DOTS ABOVEzREHa FINAL FORMkISOLATED FORMnWITH DOT BELOWa AND DOT A" ++
    "BOVExFOUR DOTS ABOVEpHAMZA ABOVElINVERTED VkLOOPeRING"),
  ("ARABIC LETTER REH WITH SMALL ARABIC LETTER TAH AND TWO DOTS",
    "beNOON ABOVEkVa BELOWmTROKEgTWO DOTS ABOVEfVERTICALLY ABOVEbhNOONa FINAL FORMkINITIAL FORM" ++
    "lSOLATED FORMnMEDIAL FORMqOHINGYA YEHlREHa FINAL FORMkISOLATED FORMsSADa FINAL FORMkINITIA" ++
    "L FORMlSOLATED FORMnMEDIAL FORMlWITH THREE DOTS ABOVEfBELOWpWO DOTS BELOWwEEN"),
  ("ARABIC LETTER SEEN FINAL FORM",
    "kINITIAL FORMlSOLATED FORMnMEDIAL FORMlWITH DOT BELOW AND DOT ABOVExEXTENDED ARABIC-INDIC" ++
    " DIGIT FOUR ABOVEbmFOUR DOTS ABOVEpINVERTED VkSMALL ARABIC LETTER TAH AND TWO DOTSbkTHREE" ++
    " DOTS BELOWa AND THREE DOTS ABOVEbkWO DOTS VERTICALLY ABOVEbiHEENa FINAL FORM"),
  ("ARABIC LETTER SHEEN INITIAL FORM",
    "lSOLATED FORMnMEDIAL FORMlWITH DOT BELOWtTRAIGHT WAWlUPERSCRIPT ALEFpWASH KAFjTAHa FINAL F" ++
    "ORMkINITIAL FORMlSOLATED FORMnMEDIAL FORMlWITH DOT BELOWjTHREE DOTS ABOVEfBELOWpWO DOTS AB" ++
    "OVEwCHEHa FINAL FORMkINITIAL FORMlSOLATED FORMnMEDIAL FORMlWITH DOT ABOVEjSMALL VnEH"),
  ("ARABIC LETTER TCHEHEH FINAL FORM",
    "kINITIAL FORMlSOLATED FORMnMEDIAL FORMsEHa FINAL FORMkINITIAL FORMlSOLATED FORMnMARBUTAa F" ++
    "INAL FORMkGOALeISOLATED FORMuEDIAL FORMlWITH RINGeSMALL TEH ABOVEjVhTHREE DOTS ABOVE DOWNW" ++
    "ARDSbgEHa FINAL FORMkINITIAL FORMlSOLATED FORMnMEDIAL FORMqHALa FINAL FORM"),
  ("ARABIC LETTER THAL ISOLATED FORM",
    "qEHa FINAL FORMkINITIAL FORMlSOLATED FORMnMEDIAL FORMoIN YEHhTEHa FINAL FORMkINITIAL FORMl" ++
    "SOLATED FORMnMEDIAL FORMlWITH SMALL VnEHa FINAL FORMkINITIAL FORMlSOLATED FORMnMEDIAL FORM" ++
    "sUa FINAL FORMkISOLATED FORMnWITH HAMZA ABOVEa ISOLATED FORM"),
  ("ARABIC LETTER UIGHUR KAZAKH KIRGHIZ ALEF MAKSURA INITIAL FORM",
    "mMEDIAL FORMbuVEa FINAL FORMkISOLATED FORMoHa FINAL FORMkINITIAL FORMlSOLATED FORMnMEDIAL" ++
    " FORMpWAWa FINAL FORMkISOLATED FORMnWITH DOT ABOVEfWITHINkEXTENDED ARABIC-INDIC DIGIT THRE" ++
    "E ABOVEkWO ABOVEblHAMZA ABOVEa FINAL FORMkISOLATED FORMzRINGeTWO DOTS ABOVExYEH"),
  ("ARABIC LETTER YEH BARREE",
    "a FINAL FORMkISOLATED FORMnWITH EXTENDED ARABIC-INDIC DIGIT THREE ABOVEkWO ABOVEblHAMZA AB" ++
    "OVEa FINAL FORMkISOLATED FORMblFINAL FORMkINITIAL FORMlSOLATED FORMnMEDIAL FORMlWITH HAMZA" ++
    " ABOVEa FINAL FORMkINITIAL FORMlSOLATED FORMnMEDIAL FORMxSMALL VhTAIL"),
  ("ARABIC LETTER YEH WITH THREE DOTS BELOW",
    "pWO DOTS BELOW AND DOT ABOVEjHAMZA ABOVElSMALL NOON ABOVEbrUa FINAL FORMkISOLATED FORMqZAH" ++
    "a FINAL FORMkINITIAL FORMlSOLATED FORMnMEDIAL FORMnINa FINAL FORMkISOLATED FORMnWITH INVER" ++
    "TED V ABOVEbgIGATURE AIN WITH ALEF MAKSURA FINAL FORMkISOLATED FORM"),
  ("ARABIC LIGATURE AIN WITH JEEM INITIAL FORM",
    "lSOLATED FORMnWITH MEEM FINAL FORMkINITIAL FORMbbMEEM INITIAL FORMlSOLATED FORMnWITH ALEF" ++
    " MAKSURA FINAL FORMxMEEM FINAL FORMkINITIAL FORMrYEH FINAL FORMyYEH FINAL FORMkISOLATED FO" ++
    "RMzKBAR ISOLATED FORMsLAYHAA AS-SALAAMmE ISOLATED FORMpI AS-SALAAMbTU WAS-SALAAM"),
  ("ARABIC LIGATURE ALAYHIM AS-SALAAM",
    "kAA AS-SALAAMrEF MAKSURA WITH SUPERSCRIPT ALEF FINAL FORMkISOLATED FORMbrWITH FATHATAN FIN" ++
    "AL FORMkISOLATED FORMbeLAH ISOLATED FORMsZZA WA JALLmBEH WITH ALEF MAKSURA FINAL FORMkISOL" ++
    "ATED FORMbaHAH INITIAL FORMlSOLATED FORMnWITH YEH FINAL FORMwEH INITIAL FORM"),
  ("ARABIC LIGATURE BEH WITH HEH MEDIAL FORM",
    "pJEEM INITIAL FORMlSOLATED FORMsKHAH INITIAL FORMlSOLATED FORMnWITH YEH FINAL FORMyMEEM FI" ++
    "NAL FORMkINITIAL FORMlSOLATED FORMnMEDIAL FORMqNOON FINAL FORMpREH FINAL FORMoYEH FINAL FO" ++
    "RMkISOLATED FORMrZAIN FINAL FORMxISMILLAH AR-RAHMAN AR-RAHEEM"),
  ("ARABIC LIGATURE DAD WITH ALEF MAKSURA FINAL FORM",
    "kISOLATED FORMbaHAH INITIAL FORMlSOLATED FORMnWITH ALEF MAKSURA FINAL FORMxYEH FINAL FORMx" ++
    "JEEM INITIAL FORMlSOLATED FORMsKHAH INITIAL FORMlSOLATED FORMnWITH MEEM FINAL FORMkINITIAL" ++
    " FORMbbMEEM INITIAL FORMlSOLATED FORMsREH FINAL FORMkISOLATED FORMrYEH FINAL FORM"),
  ("ARABIC LIGATURE DAD WITH YEH ISOLATED FORM",
    "baFEH WITH ALEF MAKSURA FINAL FORMkISOLATED FORMbaHAH INITIAL FORMlSOLATED FORMrJEEM INITI" ++
    "AL FORMlSOLATED FORMsKHAH INITIAL FORMlSOLATED FORMnWITH MEEM FINAL FORMkINITIAL FORMbbMEE" ++
    "M INITIAL FORMlSOLATED FORMnWITH YEH FINAL FORMyYEH FINAL FORMkISOLATED FORM"),
  ("ARABIC LIGATURE GHAIN WITH ALEF MAKSURA FINAL FORM",
    "kISOLATED FORMbaJEEM INITIAL FORMlSOLATED FORMsMEEM INITIAL FORMlSOLATED FORMnWITH ALEF MA" ++
    "KSURA FINAL FORMxMEEM FINAL FORMpYEH FINAL FORMyYEH FINAL FORMkISOLATED FORMbcHAH WITH ALE" ++
    "F MAKSURA FINAL FORMkISOLATED FORMbaJEEM INITIAL FORMlSOLATED FORM"),
  ("ARABIC LIGATURE HAH WITH JEEM WITH YEH FINAL FORM",
    "yMEEM INITIAL FORMlSOLATED FORMnWITH ALEF MAKSURA FINAL FORMxYEH FINAL FORMyYEH FINAL FORM" ++
    "kISOLATED FORMzEH WITH ALEF MAKSURA ISOLATED FORMbaJEEM INITIAL FORMlSOLATED FORMsMEEM INI" ++
    "TIAL FORMlSOLATED FORMnWITH JEEM INITIAL FORMrMEEM INITIAL FORM"),
  ("ARABIC LIGATURE HEH WITH SUPERSCRIPT ALEF INITIAL FORM",
    "bdYEH ISOLATED FORMbaJALLAJALALOUHOUoEEM WITH ALEF MAKSURA FINAL FORMkISOLATED FORMbaHAH I" ++
    "NITIAL FORMlSOLATED FORMnWITH ALEF MAKSURA FINAL FORMxYEH FINAL FORMxMEEM INITIAL FORMlSOL" ++
    "ATED FORMnWITH ALEF MAKSURA FINAL FORMxHAH FINAL FORMkINITIAL FORMqYEH FINAL FORM"),
  ("ARABIC LIGATURE JEEM WITH YEH FINAL FORM",
    "kISOLATED FORMbbKAF WITH ALEF FINAL FORMkISOLATED FORMnMAKSURA FINAL FORMkISOLATED FORMbaH" ++
    "AH INITIAL FORMlSOLATED FORMrJEEM INITIAL FORMlSOLATED FORMsKHAH INITIAL FORMlSOLATED FORM" ++
    "sLAM FINAL FORMkINITIAL FORMlSOLATED FORMnMEDIAL FORMpMEEM FINAL FORMkINITIAL FORM"),
  ("ARABIC LIGATURE KAF WITH MEEM ISOLATED FORM",
    "nMEDIAL FORMlWITH MEEM FINAL FORMkINITIAL FORMrYEH FINAL FORMyYEH FINAL FORMkISOLATED FORM" ++
    "zHAH WITH ALEF MAKSURA FINAL FORMkISOLATED FORMbaHAH ISOLATED FORMrJEEM INITIAL FORMlSOLAT" ++
    "ED FORMsMEEM INITIAL FORMlSOLATED FORMsYEH FINAL FORMkISOLATED FORM"),
  ("ARABIC LIGATURE LAM WITH ALEF FINAL FORM",
    "kISOLATED FORMnMAKSURA FINAL FORMkISOLATED FORMvWITH HAMZA ABOVE FINAL FORMkISOLATED FORMt" ++
    "BELOW FINAL FORMkISOLATED FORMzMADDA ABOVE FINAL FORMkISOLATED FORMbjHAH INITIAL FORMlSOLA" ++
    "TED FORMnWITH ALEF MAKSURA FINAL FORMxMEEM FINAL FORMkINITIAL FORMrYEH FINAL FORM"),
  ("ARABIC LIGATURE LAM WITH HEH INITIAL FORM",
    "qJEEM INITIAL FORMlSOLATED FORMnWITH JEEM FINAL FORMkINITIAL FORMrMEEM FINAL FORMkINITIAL" ++
    " FORMrYEH FINAL FORMyKHAH INITIAL FORMlSOLATED FORMnWITH MEEM FINAL FORMkINITIAL FORMbbMEE" ++
    "M FINAL FORMkINITIAL FORMlSOLATED FORMnMEDIAL FORMlWITH HAH FINAL FORMkINITIAL FORM"),
  ("ARABIC LIGATURE LAM WITH MEEM WITH YEH FINAL FORM",
    "yYEH FINAL FORMkISOLATED FORMbaMEEM WITH ALEF FINAL FORMkMAKSURA ISOLATED FORMbaHAH INITIA" ++
    "L FORMlSOLATED FORMnWITH JEEM INITIAL FORMrMEEM INITIAL FORMrYEH FINAL FORMxJEEM INITIAL F" ++
    "ORMlSOLATED FORMnWITH HAH INITIAL FORMqKHAH INITIAL FORMrMEEM INITIAL FORM"),
  ("ARABIC LIGATURE MEEM WITH JEEM WITH YEH FINAL FORM",
    "yKHAH INITIAL FORMlSOLATED FORMnWITH JEEM INITIAL FORMrMEEM INITIAL FORMrYEH FINAL FORMyME" ++
    "EM FINAL FORMkINITIAL FORMlSOLATED FORMnWITH YEH FINAL FORMyYEH ISOLATED FORMbaOHAMMAD ISO" ++
    "LATED FORMwNOON WITH ALEF MAKSURA FINAL FORMkISOLATED FORMbaHAH INITIAL FORM"),
  ("ARABIC LIGATURE NOON WITH HAH ISOLATED FORM",
    "nWITH ALEF MAKSURA FINAL FORMxMEEM INITIAL FORMrYEH FINAL FORMwEH INITIAL FORMmMEDIAL FORM" ++
    "pJEEM INITIAL FORMlSOLATED FORMnWITH ALEF MAKSURA FINAL FORMxHAH FINAL FORMkINITIAL FORMqM" ++
    "EEM FINAL FORMkINITIAL FORMrYEH FINAL FORMyKHAH INITIAL FORMlSOLATED FORM"),
  ("ARABIC LIGATURE NOON WITH MEEM FINAL FORM",
    "kINITIAL FORMlSOLATED FORMnMEDIAL FORMlWITH ALEF MAKSURA FINAL FORMxYEH FINAL FORMyNOON FI" ++
    "NAL FORMpREH FINAL FORMoYEH FINAL FORMkISOLATED FORMrZAIN FINAL FORMzQAF WITH ALEF MAKSURA" ++
    " FINAL FORMkISOLATED FORMbaHAH INITIAL FORMlSOLATED FORMrMEEM INITIAL FORM"),
  ("ARABIC LIGATURE QAF WITH MEEM ISOLATED FORM",
    "nWITH HAH FINAL FORMkINITIAL FORMqMEEM FINAL FORMpYEH FINAL FORMyYEH FINAL FORMkISOLATED F" ++
    "ORMyLA USED AS KORANIC STOP SIGN ISOLATED FORMbrUDDISA SIRRAHoRADI ALLAAHU ANHaAAcUMaAAdNN" ++
    "AsHIMAHU ALLAAHhM ALLAAHoSOUL ISOLATED FORMtEH WITH SUPERSCRIPT ALEF ISOLATED FORM"),
  ("ARABIC LIGATURE SAD WITH ALEF MAKSURA FINAL FORM",
    "kISOLATED FORMbaHAH INITIAL FORMlSOLATED FORMnWITH HAH FINAL FORMkINITIAL FORMqYEH FINAL F" ++
    "ORMxKHAH INITIAL FORMrMEEM INITIAL FORMlSOLATED FORMnWITH MEEM FINAL FORMkINITIAL FORMbbRE" ++
    "H FINAL FORMkISOLATED FORMrYEH FINAL FORMkISOLATED FORMyLAAMUHU ALAYNAA"),
  ("ARABIC LIGATURE SALAM ISOLATED FORM",
    "qLA ISOLATED FORMnUSED AS KORANIC STOP SIGN ISOLATED FORMboLLAAHU ALAYHI WA-AALIHtHOU ALAY" ++
    "HE WASALLAMsU ALAYHI WAAALIHEE WA-SALLAMbkEEN WITH ALEF MAKSURA FINAL FORMkISOLATED FORMba" ++
    "HAH INITIAL FORMlSOLATED FORMnMEDIAL FORMlWITH JEEM INITIAL FORMzEH INITIAL FORM"),
  ("ARABIC LIGATURE SEEN WITH HEH MEDIAL FORM",
    "pJEEM INITIAL FORMlSOLATED FORMnMEDIAL FORMlWITH ALEF MAKSURA FINAL FORMxHAH INITIAL FORMb" ++
    "aKHAH INITIAL FORMlSOLATED FORMnMEDIAL FORMlWITH ALEF MAKSURA FINAL FORMxYEH FINAL FORMyME" ++
    "EM INITIAL FORMlSOLATED FORMnMEDIAL FORMlWITH HAH FINAL FORMkINITIAL FORM"),
  ("ARABIC LIGATURE SEEN WITH MEEM WITH JEEM INITIAL FORM",
    "rMEEM FINAL FORMkINITIAL FORMbbREH FINAL FORMkISOLATED FORMrYEH FINAL FORMkISOLATED FORMba" ++
    "HADDA WITH DAMMA ISOLATED FORMnMEDIAL FORMmTAN ISOLATED FORMwFATHA ISOLATED FORMnMEDIAL FO" ++
    "RMrKASRA ISOLATED FORMnMEDIAL FORMmTAN ISOLATED FORMwSUPERSCRIPT ALEF ISOLATED FORM"),
  ("ARABIC LIGATURE SHEEN WITH ALEF MAKSURA FINAL FORM",
    "kISOLATED FORMbaHAH FINAL FORMkINITIAL FORMlSOLATED FORMnMEDIAL FORMlWITH MEEM FINAL FORMk" ++
    "INITIAL FORMrYEH FINAL FORMwEH INITIAL FORMmMEDIAL FORMpJEEM FINAL FORMkINITIAL FORMlSOLAT" ++
    "ED FORMnMEDIAL FORMlWITH YEH FINAL FORMyKHAH FINAL FORMkINITIAL FORMlSOLATED FORM"),
  ("ARABIC LIGATURE SHEEN WITH KHAH MEDIAL FORM",
    "qMEEM FINAL FORMkINITIAL FORMlSOLATED FORMnMEDIAL FORMlWITH KHAH FINAL FORMkINITIAL FORMrM" ++
    "EEM FINAL FORMkINITIAL FORMbbREH FINAL FORMkISOLATED FORMrYEH FINAL FORMkISOLATED FORMbbUB" ++
    "HAANAHU WA TAAALAAvTABAARAKA WA-TAAALAAsH WITH ALEF MAKSURA FINAL FORMkISOLATED FORM"),
  ("ARABIC LIGATURE TAH WITH HAH INITIAL FORM",
    "lSOLATED FORMrMEEM INITIAL FORMlSOLATED FORMnMEDIAL FORMlWITH HAH FINAL FORMkINITIAL FORMq" ++
    "MEEM INITIAL FORMrYEH FINAL FORMyYEH FINAL FORMkISOLATED FORMzEH WITH ALEF MAKSURA FINAL F" ++
    "ORMkISOLATED FORMbaHAH INITIAL FORMlSOLATED FORMnWITH JEEM FINAL FORMkINITIAL FORM"),
  ("ARABIC LIGATURE TEH WITH HAH WITH MEEM INITIAL FORM",
    "zEH INITIAL FORMmMEDIAL FORMpJEEM INITIAL FORMlSOLATED FORMnWITH ALEF MAKSURA FINAL FORMxM" ++
    "EEM INITIAL FORMrYEH FINAL FORMyKHAH INITIAL FORMlSOLATED FORMnWITH ALEF MAKSURA FINAL FOR" ++
    "MxMEEM INITIAL FORMrYEH FINAL FORMyMEEM FINAL FORMkINITIAL FORMlSOLATED FORM"),
  ("ARABIC LIGATURE TEH WITH MEEM MEDIAL FORM",
    "lWITH ALEF MAKSURA FINAL FORMxHAH INITIAL FORMqJEEM INITIAL FORMrKHAH INITIAL FORMrYEH FIN" ++
    "AL FORMyNOON FINAL FORMpREH FINAL FORMoYEH FINAL FORMkISOLATED FORMrZAIN FINAL FORMxHAL WI" ++
    "TH SUPERSCRIPT ALEF ISOLATED FORMbmEH WITH ALEF MAKSURA FINAL FORMkISOLATED FORM"),
  ("ARABIC LIGATURE THEH WITH HEH MEDIAL FORM",
    "pJEEM ISOLATED FORMsMEEM FINAL FORMkINITIAL FORMlSOLATED FORMnMEDIAL FORMqNOON FINAL FORMp" ++
    "REH FINAL FORMoYEH FINAL FORMkISOLATED FORMrZAIN FINAL FORMzUIGHUR KIRGHIZ YEH WITH HAMZA" ++
    " ABOVE WITH ALEF MAKSURA FINAL FORMkINITIAL FORMlSOLATED FORMcpWASALLAM ISOLATED FORM"),
  ("ARABIC LIGATURE YEH WITH ALEF MAKSURA FINAL FORM",
    "kISOLATED FORMbaHAH INITIAL FORMlSOLATED FORMnWITH YEH FINAL FORMvMZA ABOVE WITH AE FINAL" ++
    " FORMkISOLATED FORMpLEF FINAL FORMkISOLATED FORMnMAKSURA FINAL FORMkISOLATED FORMbaE FINAL" ++
    " FORMkINITIAL FORMlSOLATED FORMpHAH INITIAL FORMlSOLATED FORMqEH INITIAL FORM"),
  ("ARABIC LIGATURE YEH WITH HAMZA ABOVE WITH HEH MEDIAL FORM",
    "pJEEM INITIAL FORMlSOLATED FORMsKHAH INITIAL FORMrMEEM FINAL FORMkINITIAL FORMlSOLATED FOR" ++
    "MnMEDIAL FORMqNOON FINAL FORMpOE FINAL FORMkISOLATED FORMqREH FINAL FORMoU FINAL FORMkISOL" ++
    "ATED FORMpWAW FINAL FORMkISOLATED FORMrYEH FINAL FORMkISOLATED FORMqU FINAL FORM"),
  ("ARABIC LIGATURE YEH WITH HAMZA ABOVE WITH YU ISOLATED FORM",
    "qZAIN FINAL FORMbfEH INITIAL FORMmMEDIAL FORMpJEEM INITIAL FORMlSOLATED FORMnWITH YEH FINA" ++
    "L FORMyKHAH INITIAL FORMlSOLATED FORMsMEEM FINAL FORMkINITIAL FORMlSOLATED FORMnMEDIAL FOR" ++
    "MlWITH MEEM FINAL FORMkINITIAL FORMrYEH FINAL FORMyNOON FINAL FORMpREH FINAL FORM"),
  ("ARABIC LIGATURE YEH WITH YEH FINAL FORM",
    "kISOLATED FORMrZAIN FINAL FORMyZAH WITH MEEM INITIAL FORMlSOLATED FORMnMEDIAL FORMbiMADDA" ++
    " WAAJIBhH ABOVEkRK NOON GHUNNAlSIDEWAYS NOON GHUNNAxTHEMATICAL AINcLEFeBEHdDADbLcOTLESS BE" ++
    "HdFEHdNOONeQAFjUBLE-STRUCK AINdBEHdDADbLdFEHdGHAINfHAHdJEEMeKHAHeLAMdMEEMeNOONeQAF"),
  ("ARABIC MATHEMATICAL DOUBLE-STRUCK REH",
    "dSADcEENdHEENfTAHcEHcHALcEHeWAWdYEHdZAHbINsFEHdGHAINfHAHdINITIAL AINdBEHdDADdFEHdGHAINfHAH" ++
    "cEHdJEEMeKAFcHAHeLAMdMEEMeNOONeQAFdSADcEENdHEENfTEHcHEHeYEHlJEEMeKAFcHAHeLAMcOOPED AINcLEF" ++
    "eBEHdDADbLdFEHdGHAINfHAHcEHdJEEMeKHAHeLAMdMEEMeNOONeQAFdREHdSADcEENdHEENfTAHcEHcHAL"),
  ("ARABIC MATHEMATICAL LOOPED THEH",
    "eWAWdYEHdZAHbINlMEEMeNOONeOPERATOR HAH WITH DALmMEEM WITH HAH WITH TATWEELbjQAFdREHdSADcEE" ++
    "NdHEENeTRETCHED AINdBEHdDADcOTLESS BEHdFEHlFEHdGHAINfHAHcEHdJEEMeKAFcHAHeMEEMeNOONeQAFdSAD" ++
    "cEENdHEENfTAHcEHcHEHeYEHdZAHnTAHbILED AINdDADcOTLESS NOONeQAFlGHAINfHAHdJEEMeKHAH"),
  ("ARABIC MATHEMATICAL TAILED LAM",
    "dNOONeQAFdSADcEENdHEENfYEHjEHcHALcEHeWAWdYEHdZAHbINrNUMBER MARK ABOVEkSIGNlOPEN DAMMATANiF" ++
    "ATHATANiKASRATANnPERCENT SIGNlIASTRE MARK ABOVErLACE OF SAJDAHoOETIC VERSE SIGNpUND MARK A" ++
    "BOVEqQUESTION MARKnRAISED ROUND DOToYcEVERSED DAMMAnIGHT ARROWHEAD ABOVEa WITH DOT"),
  ("ARABIC RIGHT ARROWHEAD BELOW",
    "uOUNDED HIGH STOP WITH FILLED CENTREbkSEMICOLONiHADDAa ISOLATED FORMnMEDIAL FORMrIGN ALAYH" ++
    "E ASSALLAMpMISRAfRADI ALLAHOU ANHUpHMATULLAH ALAYHEsSAFHAdLLALLAHOU ALAYHE WASSALLAMbaMVAT" ++
    "eNAHeINDHI AMPERSANDjPOSTPOSITION MENxTAKHALLUSnMALL DAMMAfFARSI YEHhTHAfHIGH AIN"),
  ("ARABIC SMALL HIGH DOTLESS HEAD OF KHAH",
    "uFARSI YEHiOOTNOTE MARKERpJEEMeLAM ALEFhIGATURE ALEF WITH LAM WITH YEHwQAF WITH LAM WITH A" ++
    "LEF MAKSURAbeSAD WITH LAM WITH ALEF MAKSURAbnMADDAeEEM INITIAL FORMlSOLATED FORMsNOONa WIT" ++
    "H KASRApQAFdROUNDED ZEROmSADcEENdIGN SAFHAkTAHcHREE DOTSkUPRIGHT RECTANGULAR ZERO"),
  ("ARABIC SMALL HIGH WAW",
    "cORD AL-JUZfN-NISFgR-RUBfS-SAJDAhTH-THALATHAmQIFdSAHbKTAfWAQFAkYEHa BARREE WITH TWO DOTS B" ++
    "ELOWbeZAHbINjKASRAfLOW MEEMeNOON WITH KASRApSEENeWAWcORD IMAALAfSHMAAMhTASHEELqWAWdYEHiTAR" ++
    "T OF RUB EL HIZBtUBSCRIPT ALEFmKUNa BELOWfISOLATED FORMnMEDIAL FORM"),
  ("ARABIC SUPERSCRIPT ALEF MOKHASSAS",
    "zYMBOL DOT ABOVEfBELOWhUBLE VERTICAL BAR BELOWzFOUR DOTS ABOVEfBELOWpRINGeSMALL TAH ABOVEf" ++
    "BELOWpTHREE DOTS ABOVEfBELOWfPOINTING DOWNWARDS ABOVEfBELOWbiWO DOTS ABOVEfBELOWfVERTICALL" ++
    "Y ABOVEfBELOWzWASLA ABOVEsTAIL FRAGMENTlTWEELa WITH FATHATAN ABOVEoOVERSTRUCK HAMZA"),
  ("ARABIC TATWEEL WITH OVERSTRUCK WAW",
    "oTWO DOTS BELOWbaHOUSANDS SEPARATORsONE LOOP ABOVEfBELOWkONE DOT ABOVEfBELOWnTWO DOTS ABOV" ++
    "EfBELOWsRIPLE DOT PUNCTUATION MARKbaURNED DAMMA BELOWsVERTICAL TAILmOWEL SIGN DOT BELOWjIN" ++
    "VERTED SMALL V ABOVEwSMALL V ABOVEyWAVY HAMZA BELOWqZWARAKAYj-INDIC CUBE ROOT"),
  ("ARABIC-INDIC DIGIT EIGHT",
    "fFIVEdOUReNINEeONEdSEVENeIXdTHREEeWOdZEROkFOURTH ROOTlPER MILLE SIGNkTEN THOUSAND SIGNbgCb" ++
    "IESdMENIAN ABBREVIATION MARKqPOSTROPHEkCAPITAL LETTER AYBdBENdCAbHAbEHdOcDAcECHcHbTcFEHdGH" ++
    "ADdIMdHOcINIdJAbHEHeKEHbNdLIWNeMENdNOWdOHcPEHcIWReRAbEHdSEHcHAdTIWNdOcVEWcOcXEHdYI"),
  ("ARMENIAN CAPITAL LETTER YIWN",
    "eZAbHErOMMAfDRAM SIGNjEMPHASIS MARKmXCLAMATION MARKqFULL STOPjHYPHENgMODIFIER LETTER LEFT" ++
    " HALF RINGbeQUESTION MARKnSMALL LETTER AYBdBENdCAbHAbEHdOcDAcECHcHbTcFEHdGHADdIMdHOcINIdJA" ++
    "bHEHeKEHbNdLIWNeMENdNOWdOHcPEHcIWReRAbEHdSEHcHAdTIWNdObURNED AYBkVEWcOcXEHdYI"),
  ("ARMENIAN SMALL LETTER YI WITH STROKE",
    "mWNeZAbHEjIGATURE ECH YIWNiMEN ECHdINIdNOWdXEHhVEW NOWbdROW POINTING DOWNWARDS THEN CURVIN" ++
    "G LEFTWARDSjRIGHTWARDSbhRIGHTWARDS THEN CURVING DOWNWARDSjSOUTH WESTkUPWARDSbfUPWARDS THEN" ++
    " NORTH WESTbhHEAD-SHAPED POINTERwTICULATED LORRYnST PALETTEnSCENDING NODElIA SYMBOL"),
  ("ASSERTION",
    "hTERISKa OPERATORkMfONISHED FACEmRAEAdONOMICAL SYMBOL FOR URANUSbcYMPTOTICALLY EQUAL TOwTH" ++
    "LETIC SHOElOM SYMBOLkUBERGINEhSTRAL SIGNkTO RICKSHAWjMATED TELLER MACHINEtOBILEjVESTAN ABB" ++
    "REVIATION MARKrLETTER AaAaNbOcEaEcNbOcBEbHEdCEcDEbHEdEaEcFEcGEbGEcHEdHEbMEdIaIcJEcKE"),
  ("AVESTAN LETTER LE",
    "cMEcNEbGEbVEcYEdNEcYEdOaOcPEcREcSEbHEbYEdSHEeTEbHEcTEdUaUcVEcXEbVEcYEdYEbYEdZEbHEqOCADOgXE" ++
    "dBABYa ANGELfBOTTLEgCHICKfSYMBOLjCK OF ENVELOPElWITH LEFTWARDS ARROW ABOVEbb-TILTED SHADOW" ++
    "ED WHITE RIGHTWARDS ARROWbnSLANTED SOUTH ARROW WITH HOOKED TAILjRIZONTAL TAILbnPACE"),
  ("BACON",
    "cTRIAN CAMELmDGERdMINTON RACQUET AND SHUTTLECOCKbfGELcGAGE CLAIMkUETTE BREADmLINESE ADEG A" ++
    "DEGjCARIK PAMUNGKAHhRERENhSIKIkDIGIT EIGHTfFIVEdOUReNINEeONEdSEVENeIXdTHREEeWOdZEROkLETTER" ++
    " AIKARAfKARAa TEDUNGlRCHAIC JNYAlSYURA SASAKmBAa KEMBANGkCAa LACAhDAa MADU"),
  ("BALINESE LETTER DA MURDA ALPAPRANA",
    "jMAHAPRANAsEF SASAKhKARAfGAa GORAhHAcIKARAa TEDUNGmJAa JERAhKAa MAHAPRANAkF SASAKiHOT SASA" ++
    "KkLAa LENGAa TEDUNGpMAcNAa RAMBATiGAcYAdOKARAa TEDUNGmPAa KAPALiRAa REPAa TEDUNGoSAa SAGAc" ++
    "PAhTAa LATIKfMURDA MAHAPRANApTAWAgZIR SASAKkUKARAa TEDUNGmVE SASAKiWAcYAcZAL SASAK"),
  ("BALINESE MUSICAL SYMBOL COMBINING BENDE",
    "fENDEPfGONGeJEGOGANhKEMPLIa WITH JEGOGANpULa WITH JEGOGANtTEGEHpDAENGdINGdNGa GEDEeSURANGk" ++
    "ENGcUNGeINGdONGdUNGeLEFT-HAND CLOSED PLAKcUKlOPEN PANGdINGdUNGtRIGHT-HAND CLOSED TAKcUKkOP" ++
    "EN DAGcUGbiPAMADAa LANTANGlENENGgNTIa LANTANGnSIGN BISAHfCECEKfREREKANhSURANG"),
  ("BALINESE SIGN ULU CANDRA",
    "gRICEMoVOWEL SIGN LA LENGAa TEDUNGpPEPETa TEDUNGmRA REPAa TEDUNGoSUKUa ILUTjTALINGa REPAa" ++
    " TEDUNGlTEDUNGmEDUNGgULUa SARItWINDUlL OF YARNiET SHOESiOONa-SPOKED ASTERISKsT BOLD SCRIPT" ++
    " XlXa WITH BALLOTfOLD CHECKfSCRIPT XnCHECKfLIGHT XhSCRIPT XiXkSCRIPT XiXgMUM COLON"),
  ("BAMUM COMBINING MARK KOQNDON",
    "hTUKWENTISvMAfFULL STOPjLETTER AbEEcFAAMAEfEEcOMcUcIbKAbENbTbUXdIbOaGHOMeVUUePAcUbYEEeLAbE" ++
    "EEEeIbOQcUcMaAbBAAcENdEEEEdNcIbObUcNAbDAAdGAbGAcKWAENgIbJAEMdEEcUAEeSHAdTEEcUUdUaAEdYIdObP" ++
    "AbEEbUXdHASE-A FIRIeGBIEE FONiHEUAEGHEUAEgRAEjKAFAcQcETbUKEUTNDAjPOQdUOQeLAPAQ"),
  ("BAMUM LETTER PHASE-A LET KUT",
    "gOMMAEfUaAEPfMAEKEUPeMaBGBIEEgKPENeVEUXfNYIdSIdNSUAEfP PIEETiBANYIdQdEUNJOMNDEUQlGBASAfON" ++
    " NGGEUAETkOMEUTdPUQgVEUAENGAMkNAA MFONgQcDA LEERAEWAjANGGEUAETlENcGANGUeGENdKUE MFONfNZEUM" ++
    "jIKAdJAMdKAARAEfINDIfSHAbIEEfTAPa MFAAeNTAAhOQPENgYETcIaT MONGKEUAEQoZA MFONgUN MEUT"),
  ("BAMUM LETTER PHASE-A PA LEERAEWA",
    "jAMbRAEeMSHAEfSHAEfETcON MFON PIPAEMBAcGBIEEqPA NJI PIPAEMBAcGBIEEvUPdROMdSEUNYAMgHINDA PA" ++
    " NJIkRAEeOQ NSHUT YUMmUENSHUEThMdISAdONJAMeQbTcUUdTEUAENdTEUWENiITA MFONiU MAEMBAhAEPfU YU" ++
    "Q NAEiNKNOWNhVEEfB FEEbUXeGHEUGHENbUAEMlKAMcEUAEMdPUQdYEUXgIEEMdQdLAANAE"),
  ("BAMUM LETTER PHASE-B LAM NSHUT NYAM",
    "nETcOM NTEUMjMAa NJEUAENAgUQAhBA MAELEEhARAEfEURIeIT MBAAKETkUOQeEUQbT NGGEETkFIYAQeON TEU" ++
    "AEQkONTIEENiNDU NJAAhGGAAMdEU MBUgUOQa LARGEkKINDI MVOPkOMdSENcHUETfTIEE SHEUOQlYAEMAEfI N" ++
    "TEUMjPARUMeEESHIfITcUNGAAMhSAKEUAEgET TUfHET NJAQgUAEQTUiIEEdUEdTAAMdU MAEMGBIEE"),
  ("BAMUM LETTER PHASE-B TU NSIEE",
    "iVEUMeWUAETfYAFU LEERAEWAmEURAEiC BUNGeFUEdGBAYIeHAPbRAEgKAAcEN FATIGUEhLAWfTbUKAQdMbSEUXd" ++
    "HEUAEPjPARAQfUOP NKAARAEkTdLAMbPcIQcUcMA KEUAERIhNSIEEgEMBAdSIeBAA CABBAGE-TREEmPICKETiNYI" ++
    "eEEKEETfRAEdUMbXdIaRIEENfTcUAEMdEdGBASAQgIEEdUAEeNANSANAQgQcDAMbPcEUAEREEfTdIDAdOMBU"),
  ("BAMUM LETTER PHASE-C NGAQ",
    "cGENcUaAEN NYAMiEETdMbONeKAQcUE MAEMBAkOMdJAEMcMcEEEEdUXdUEQeSAbEUAENfHAQdOMcUNbOT NGOMjTA" ++
    "AcENbUNGBAgU MBIThYIR MKPARAQ MEUNqZAbEUMfPENcINbRIEENhRUcSETFONeUXdHIQcUEQeUAETfTAASHAEgE" ++
    "TbUTEUXgITA YUEfUAEPhVEUAEPENfXeWANGKUOQhUPdYAAcEUQdU MUOMAEhMbWOQhD FAAcEUFEUAET"),
  ("BAMUM LETTER PHASE-D GHAA",
    "cEUAEgKETbUAETMEUNhMbOT MBUAEiPdUaNbOMcQcWAETeYEEeLEEEEdTbUAEPdMdIEEdOQcUMdMaAENJETfLEERIg" ++
    "BAAa SEVENiUOdEEEEdUNbTdFEUAEcTdIEEdOaNdGBEUNdIEEdOFUMgONIdUbVOPeNDAMcEEbUXdONdGGAAMaAEePc" ++
    "EUXdUOMdWAENfKAPcEUAEQdRIeIEEdUNcYEEfIbJAPcEUAEMdTdIaEEdUEQeSHEEcUTdIEEPbTeUMdTEEbUM"),
  ("BAMUM LETTER PHASE-D NTUU",
    "dUbYAMcETcIbUEePAPcEEbUTAEfIPcUQbUTeRAEMdEN MUCHeOLDgIIdSAPbQcEUAEQfHEEbUAEcXdIIcOQcUcOTcU" ++
    "AEcEbUdTAEcEEEEdUAENdNbTdIbOQcUaOTeWAPcUAENfYAEMMAEgENcUOMbPcWOQhE AbFAaQcEEcOMcU CALLeIbR" ++
    "EMEDYhEaTeGBETbUXeHAAMAEfETbUAEcNbXdOMeIbKETbUAEcXdIbObPEUXeUETcOPcTdLAAMcPbQcEUAEM"),
  ("BAMUM LETTER PHASE-E LOM",
    "bONbTcQcUcMAaEaMcPbQcBEEbUMeENcFEUQeGBAbENeIaEEdONcUAEdVIdNAaEcDAA MY HOUSEiSOFTNESSkPcIAQ" ++
    "cQcUNdGAbEUREUTgGEEEEdUAEaTfUAESHAE NYAMlPbRAEfKAaAMIeEUAEMdXdUMbPdOPbQcUAEaTfJAEMLIfEEa E" ++
    "POCHhUXeKOMdSHIEEdUEbOPfTAPcUMdYI BETWEENhCLEAVERkZAQcUQeObPA PEOPLEfLURALhAaMdEEM"),
  ("BAMUM LETTER PHASE-E PEUT",
    "bXdIaEEQcTdOaONdUaAEbQcEbMdRAEbQcEUXdIMGBAgSAAcEEbTcHEUAEQfIQcOaQdOMcUAENfTAAaQcEN NTEUMiM" ++
    "bQcENbUaAEQfOOaNcQcUAEcMaAEfVEEbUAEeOMdWEUXdUEbOdYAPcEUAEaTdMbXdIEEcTcOQ COVERfSWIMMINGlUA" ++
    "ENdEQcNbQfF EEcFOMdKAbENbTcObPAcUbYEEeLAbIbOQdMaAbBAAcENdEEEEeOcNDAAdGGAcKWAENgI"),
  ("BAMUM LETTER PHASE-F NJAEM",
    "dUAEeSHAdTEEdUaAEdYIdPEEbUXdUAEeREEbNbUXdIEEcIcUcSAMBAeEUXdHIIcObUcIbUUdTAAbEcETdUbVUEQeWA" ++
    "bUEdYAbOQkIbUAEcEdRAEcEEbNbUXdIEEcIcUcSAMBAeEUXdHEUXdIIcObUcIbUUdTAAbEcENbTcIcUbWAbUEdYAbO" ++
    "QcUQkNJAEMLIhQUESTION MARKnSEMICOLONnNANAdJOcKaNOTE WITH DOLLAR SIGNlEURO SIGN"),
  ("BANKNOTE WITH POUND SIGN",
    "kYEN SIGNuR CHARTfOF SOAPiBER POLEjSEBALLfKETaBALL AND HOOPqSA VAH COMBINING HIGH TONEf-LO" ++
    "W TONEnLOW TONEf-MID TONEmMID TONEsFULL STOPjLETTER AbBAcCEcDHIIdOcEaEbNNIeFAcGAHcBUdHWAHe" ++
    "IbJOcKAbPAHeMBEdOaOcPAcSEcTOcUaWUdVUcWAaDDAfYEINdIEdZOrTaAK CONSONANT SIGN HbNG"),
  ("BATAK LETTER A",
    "bBAcCAcDAcGAcHAcIbJAcKARO BAhLAcMAaNDAILING HAcNAcSAmBAdNAbDAcGAcORTHERN TAkYAdPAaKPAK WAj" ++
    "RAcSAbIMALUNGUN AbGAcHAcLAcMAcPAcRAcSAcWAcYAmOUTHERN TAlUbWAcYAjPANGOLATfONGONANkSIGN TOMP" ++
    "IjYMBOL BINDU JUDULfNA METEKiPANGOLAThINARBORASxVOWEL SIGN EaEcIbKARO IbOgObPAKPAK E"),
  ("BATAK VOWEL SIGN U",
    "a FOR SIMALUNGUN SAbhHaTUBeTERYgEACH WITH UMBRELLAqMED ASCENDING MUSICAL NOTESxDESCENDING" ++
    " MUSICAL NOTESyEIGHTH NOTESmSIXTEENTH NOTEStNScR FACEfDED PERSONlTING HEARTkVEReCAUSEfDbER" ++
    " MUGfTLEeLaLa PEPPERgSYMBOLgWITH CANCELLATION STROKEzHOP BELLkNGALI ABBREVIATION SIGN"),
  ("BENGALI ANJI",
    "dU LENGTH MARKoCURRENCY DENOMINATOR SIXTEENtNUMERATOR FOUReONEa LESS THAN THE DENOMINATORb" ++
    "dTHREEeWOwDIGIT EIGHTfFIVEdOUReNINEeONEdSEVENeIXdTHREEeWOdZEROkGANDA MARKkISSHARgLETTER Aa" ++
    "AbIbUcBAbHAdCAbHAdDAbDAbHAdHAdEbGAbHAdHAcIaIcJAbHAdKAbHAaNDA TAjLAcMAcNAbGAcNAcYAdO"),
  ("BENGALI LETTER PA",
    "bHAdRAa WITH LOWER DIAGONALoMIDDLE DIAGONALwHAcRAdSAbHAcSAdTAbHAcTAbHAeUaUcVEDIC ANUSVARAn" ++
    "OCALIC LaLcRaRkYAbYAkRUPEE MARKeSIGNkSANDHI MARKkIGN ANUSVARAhVAGRAHAiCANDRABINDUlNUKTAfVI" ++
    "RAMAeSARGAmVOWEL SIGN AAbIbUcEbIaIcObUaUcVOCALIC LaLcRaR"),
  ("BENT ARROW POINTING DOWNWARDS THEN NORTH EAST",
    "bpO BOXgZENE RINGa WITH CIRCLEwT SYMBOLhWEENfVERAGE BOXlHAIKSUKI DANDAeIGIT EIGHTfFIVEdOUR" ++
    "eNINEeONEdSEVENeIXdTHREEeWOdZEROjOUBLE DANDAmGAP FILLER-1b2mHUNDREDS UNIT MARKsLETTER AaAb" ++
    "IbUcBAbHAdCAbHAdDAbDAbHAdHAdEbGAbHAdHAcIaIcJAbHAdKAbHAdLAcMAcNAbGAcNAcYAdObPAbHAdRA"),
  ("BHAIKSUKI LETTER SA",
    "bHAcSAdTAbHAcTAbHAeUaUcVAbOCALIC LbRaRkYAjNUMBER EIGHTaYgFIFTYdVEdORTYdUReNINEaTYgONEdSEVE" ++
    "NaTYgIXaTYfTENcHIRTYeREEeWENTYeOkSIGN ANUSVARAhVAGRAHAiCANDRABINDUlVIRAMAeSARGAmVOWEL SIGN" ++
    " AAbIbUcEbIaIcObUaUcVOCALIC LbRaRvWORD SEPARATORxICYCLEbISThG REVERSE SOLIDUS"),
  ("BIG SOLIDUS",
    "jKINIeLLED CAPgIARDShOHAZARD SIGNmRDbTHDAY CAKElSONdTCOIN SIGNjING LIPjLACK BOWTIEgCENTRE" ++
    " WHITE STARqHESS BISHOPa ROTATED NINETY DEGREESoTWO HUNDRED SEVENTY DEGREESbqEQUIHOPPERa R" ++
    "OTATED NINETY DEGREESbhKINGa ROTATED NINETY DEGREESoTWO HUNDRED SEVENTY DEGREES"),
  ("BLACK CHESS KNIGHT",
    "a ROTATED FORTY-FIVE DEGREESsNINETY DEGREESoONE HUNDRED THIRTY-FIVE DEGREESbfTHREE HUNDRED" ++
    " FIFTEEN DEGREESbcWO HUNDRED SEVENTY DEGREESpTWENTY-FIVE DEGREESbo-BISHOPgQUEENfROOKlPAWNa" ++
    " ROTATED NINETY DEGREESoTWO HUNDRED SEVENTY DEGREESboQUEENa ROTATED NINETY DEGREES"),
  ("BLACK CHESS QUEEN ROTATED TWO HUNDRED SEVENTY DEGREES",
    "bpROOKa ROTATED NINETY DEGREESoTWO HUNDRED SEVENTY DEGREESboTURNED BISHOPgKINGdNIGHTgPAWNe" ++
    "QUEENfROOKqIRCLEa FOR RECORDkWITH DOWN ARROWkTWO WHITE DOTSoWHITE DOT RIGHTbaLUB SUITiROSS" ++
    " ON SHIELDoURVED DOWNWARDS AND LEFTWARDS ARROWpRIGHTWARDS ARROW"),
  ("BLACK CURVED LEFTWARDS AND DOWNWARDS ARROW",
    "pUPWARDS ARROWbbRIGHTWARDS AND DOWNWARDS ARROWpUPWARDS ARROWbcUPWARDS AND LEFTWARDS ARROWp" ++
    "RIGHTWARDS ARROWbjDIAMONDa CENTREDhMINUS WHITE XnON CROSSiSUITeWITH DOWN ARROWwOWN POINTIN" ++
    "G BACKHAND INDEXy-POINTING DOUBLE TRIANGLEpISOSCELES RIGHT TRIANGLEySMALL TRIANGLE"),
  ("BLACK DOWN-POINTING TRIANGLE",
    "sWARDS EQUILATERAL ARROWHEADbeRAUGHTS KINGeMANkOPLEThFLAGcORETTEhOLDEReUR POINTED STARrHAR" ++
    "D SHELL FLOPPY DISKvEARTa SUITiXAGONgORIZONTAL ELLIPSEqURGLASSjLARGE CIRCLEgSQUARElEFT LAN" ++
    "E MERGEkPOINTING BACKHAND INDEXoINDEXp-POINTING DOUBLE TRIANGLEa WITH VERTICAL BAR"),
  ("BLACK LEFT-POINTING ISOSCELES RIGHT TRIANGLE",
    "yPOINTERhSMALL TRIANGLEoTRIANGLEsWARDS BULLETgEQUILATERAL ARROWHEADbeOWER LEFT TRIANGLEnRI" ++
    "GHT TRIANGLEsZENGEhMEDIUM DIAMONDgOWN-POINTING TRIANGLEa CENTREDbeLEFT-POINTING TRIANGLEa" ++
    " CENTREDbdOZENGEhRIGHT-POINTING TRIANGLEa CENTREDbfSMALL DIAMONDhLOZENGEhSQUARElQUARE"),
  ("BLACK MEDIUM UP-POINTING TRIANGLE",
    "a CENTREDbiOON LILITHlNIBdOCTAGONhPARALLELOGRAMmENNANTeTAGONhUSHPINhQUESTION MARK ORNAMENT" ++
    "wRECTANGLEiIGHT POINTING BACKHAND INDEXoINDEXp-POINTING DOUBLE TRIANGLEa WITH VERTICAL BAR" ++
    "bhISOSCELES RIGHT TRIANGLEyPENTAGONhOINTERhSMALL TRIANGLEoTRIANGLE"),
  ("BLACK RIGHT-POINTING TRIANGLE WITH DOUBLE VERTICAL BAR",
    "brWARDS ARROWaHEADjBULLETgEQUILATERAL ARROWHEADbfOSETTEhSAFETY SCISSORSoCISSORShHOGI PIECE" ++
    "kKULL AND CROSSBONEStLIGHTLY SMALL CIRCLEgSQUAREuMALL DIAMONDhLOZENGEhSQUAREfTARiILING FAC" ++
    "ElNOWMANgPADE SUITjQUAREa BUTTONgCENTREDhFOR STOPoTARdUN WITH RAYSnTELEPHONE"),
  ("BLACK TINY DIAMOND",
    "hLOZENGEhSQUAREkOUCHTONE TELEPHONEsRUCKeWO-WAY LEFT WAY TRAFFICyUNIVERSAL RECYCLING SYMBOL" ++
    "zP POINTING BACKHAND INDEXy-POINTING DOUBLE TRIANGLEpISOSCELES RIGHT TRIANGLEySMALL TRIANG" ++
    "LEoTRIANGLEsPER LEFT TRIANGLEnRIGHT TRIANGLEsWARDS EQUILATERAL ARROWHEAD"),
  ("BLACK VERTICAL ELLIPSE",
    "hRECTANGLEpY SMALL DIAMONDhLOZENGEhSQUAREs-FEATHERED NORTH EAST ARROWqRIGHTWARDS ARROWqSOU" ++
    "TH EAST ARROWbaLETTER CAPITAL CbHbIbRbZtNK SYMBOLkOCK SEXTANT-1a2a3a4a5b6c5a6c6c4a5a6c6c5a" ++
    "6c6c3a4a5a6c6c56c6c4a5a6c6c5a6c6c2a3a4a5a6c6c5a6c6c4a5a6d5a6c6c3a4a5a6c6c5a6c6c4a5a6"),
  ("BLOCK SEXTANT-46",
    "c5a6c6mSSOMeWFISHgUE BOOKeHEARTgBERRIESkOARcLD EIGHT SPOKED ASTERISKvFIVE SPOKED ASTERISKu" ++
    "GREEK CROSSlSALTIREgIX SPOKED ASTERISKtWHITE CIRCLEgSQUAREpMaBcNEcOKaMARKa TABSjScMERANGhP" ++
    "OMOFO FINAL LETTER GbHbKbPbToLETTER AaHbIaNNdMbNaGbNcUaNNeBaUcCaHcDbEaEbHbIbNaGbNcR"),
  ("BOPOMOFO LETTER F",
    "bGaHbNbUbWcHbIaHbMbNNaNdRbUcJaIcKaWcLaHcMbNaGaGcNcOa WITH DOT ABOVEpEbMbNGbNcObUcPbQbRbSaH" ++
    "cTbUaNNdVbXbZaHbIbYqTTLE WITH POPPING CORKuOM ARC ANTICLOCKWISE ARROWxCURLY BRACKETnHALF B" ++
    "LACK CIRCLEmINTEGRALiLEFT PARENTHESISqRIGHT PARENTHESISwLEFT CORNERfROPeHALF BRACKET"),
  ("BOTTOM PARENTHESIS",
    "lRIGHT CORNERfROPeHALF BRACKETsSQUARE BRACKETa OVER TOP SQUARE BRACKETbmTORTOISE SHELL BRA" ++
    "CKETbbUQUETa OF FLOWERSqW AND ARROWkL OF HYGIEIAkWITH SPOONlINGeTIEa WITH LEFT HALF BLACKp" ++
    "RIGHT HALF BLACKbaX DRAWINGS DOUBLE DOWN AND HORIZONTALkLEFTeRIGHToHORIZONTAL"),
  ("BOX DRAWINGS DOUBLE UP AND HORIZONTAL",
    "kLEFTeRIGHTmVERTICALa AND HORIZONTALkLEFTeRIGHTxWN DOUBLE AND HORIZONTAL SINGLErLEFT SINGL" ++
    "ElRIGHT SINGLExHEAVY AND HORIZONTAL LIGHTqLEFT LIGHTfUP LIGHTnRIGHT LIGHTfUP LIGHToUP HORI" ++
    "ZONTAL LIGHTbdLIGHT AND HORIZONTAL HEAVYqLEFT HEAVYfUP HEAVYnRIGHT HEAVYfUP HEAVY"),
  ("BOX DRAWINGS DOWN LIGHT AND UP HORIZONTAL HEAVY",
    "bdSINGLE AND HORIZONTAL DOUBLErLEFT DOUBLElRIGHT DOUBLEbcHEAVY DOUBLE DASH HORIZONTALkVERT" ++
    "ICALsWNa AND HORIZONTALkLEFTeRIGHToHORIZONTALkLEFTa AND LIGHT RIGHTuQUADRUPLE DASH HORIZON" ++
    "TALkVERTICALxRIGHTfTRIPLE DASH HORIZONTALkVERTICALuUPa AND HORIZONTALkLEFTdIGHT DOWN"),
  ("BOX DRAWINGS HEAVY UP AND RIGHT",
    "mVERTICALa AND HORIZONTALkLEFTeRIGHTyLEFT DOWN HEAVY AND RIGHT UP LIGHTbdHEAVY AND RIGHT D" ++
    "OWN LIGHTkUP LIGHTiVERTICAL LIGHTbeLIGHT AND RIGHT DOWN HEAVYkUP HEAVYiVERTICAL HEAVYbeUP" ++
    " HEAVY AND RIGHT DOWN LIGHTbhIGHT ARC DOWN AND LEFTeRIGHToUP AND LEFTeRIGHT"),
  ("BOX DRAWINGS LIGHT DIAGONAL CROSS",
    "fDIAMONDhMIDDLE LEFT TO LOWER CENTREa TO MIDDLE RIGHTbcUPPER CENTRE TO MIDDLE RIGHTa TO LO" ++
    "WER CENTREcaRIGHT TO LOWER CENTREmUPPER CENTRE TO MIDDLE LEFT TO LOWER CENTREchUPPER CENTR" ++
    "E TO MIDDLE LEFTa AND MIDDLE RIGHT TO LOWER CENTREbgTO LOWER CENTREa TO MIDDLE RIGHT"),
  ("BOX DRAWINGS LIGHT DIAGONAL UPPER CENTRE TO MIDDLE RIGHT",
    "a AND MIDDLE LEFT TO LOWER CENTREbfTO LOWER CENTREa TO MIDDLE LEFTcbLEFT TO LOWER RIGHTtRI" ++
    "GHT TO LOWER LEFTbhOUBLE DASH HORIZONTALkVERTICALsWNa AND HORIZONTALkLEFTeRIGHToHORIZONTAL" ++
    "a WITH VERTICAL STROKEbfLEFTa AND HEAVY RIGHTuQUADRUPLE DASH HORIZONTALkVERTICAL"),
  ("BOX DRAWINGS LIGHT RIGHT",
    "fTRIPLE DASH HORIZONTALkVERTICALuUPa AND HEAVY DOWNjORIZONTALkLEFTeRIGHTmVERTICALa AND HOR" ++
    "IZONTALkLEFTeRIGHTyRIGHT DOWN HEAVY AND LEFT UP LIGHTbcHEAVY AND LEFT DOWN LIGHTkUP LIGHTi" ++
    "VERTICAL LIGHTbdLIGHT AND LEFT DOWN HEAVYkUP HEAVYiVERTICAL HEAVY"),
  ("BOX DRAWINGS RIGHT UP HEAVY AND LEFT DOWN LIGHT",
    "biUP DOUBLE AND HORIZONTAL SINGLErLEFT SINGLElRIGHT SINGLExHEAVY AND DOWN HORIZONTAL LIGHT" ++
    "vHORIZONTAL LIGHTqLEFT DOWN LIGHTkLIGHTkRIGHT DOWN LIGHTkLIGHTvLIGHT AND DOWN HORIZONTAL H" ++
    "EAVYvHORIZONTAL HEAVYqLEFT DOWN HEAVYkHEAVYkRIGHT DOWN HEAVYkHEAVY"),
  ("BOX DRAWINGS UP SINGLE AND HORIZONTAL DOUBLE",
    "rLEFT DOUBLElRIGHT DOUBLEbaVERTICAL DOUBLE AND HORIZONTAL SINGLErLEFT SINGLElRIGHT SINGLEx" ++
    "HEAVY AND HORIZONTAL LIGHTqLEFT LIGHTkRIGHT LIGHTvLIGHT AND HORIZONTAL HEAVYqLEFT HEAVYkRI" ++
    "GHT HEAVYvSINGLE AND HORIZONTAL DOUBLErLEFT DOUBLElRIGHT DOUBLEbqING GLOVEkY"),
  ("BOYS SYMBOL",
    "kPHcRAHMI DANDAeIGIT EIGHTfFIVEdOUReNINEeONEdSEVENeIXdTHREEeWOdZEROjOUBLE DANDAmLETTER AaA" ++
    "bIbUcBAbHAdCAbHAdDAbDAbHAdHAdEbGAbHAdHAcIaIcJAbHAdKAbHAdLAbLAdMAcNAbGAcNAcYAdOaLD TAMIL LL" ++
    "AbLAeNNNAeRRAdSHORT EbOrPAbHAdRAcSAbHAcSAdTAbHAcTAbHAeUaUcVAbOCALIC LaLcRaRkYA"),
  ("BRAHMI NUMBER EIGHT",
    "aYgFIFTYdVEdORTYdUReJOINERgNINEaTYgONEa HUNDREDhTHOUSANDmSEVENaTYgIXaTYfTENcHIRTYeREEeWENT" ++
    "YeOkPUNCTUATION CRESCENT BARmDOTbUBLE DOTkLINEdOTUSrSIGN ANUSVARAiCANDRABINDUlJIHVAMULIYAl" ++
    "OLD TAMIL VIRAMAqUPADHMANIYAlVISARGAmVIRAMAfOWEL SIGN AAbIbUcBHATTIPROLU AAoEbIaIcO"),
  ("BRAHMI VOWEL SIGN OLD TAMIL SHORT E",
    "bOrUaUcVOCALIC LaLcRaRzILLE PATTERN BLANKfDOTS-1a2a3a4a5a6a7a8c8c7a8c8c6a7a8c8c7a8c8c5a6a7" ++
    "a8c8c7a8c8c6a7a8c8c7a8c8c4a5a6a7a8c8c7a8c8c6a7a8c8c7a8c8c5a6a7a8c8c7a8c8c6a7a8c8c7a8c8c3a4" ++
    "a5a6a7a8c8c7a8c8c6a7a8c8c7a8c8c5a6a7a8c8c7a8c8c6a7a8c8c7a8c8c4a5a6a7a8c8c7a8c8c6a7a8"),
  ("BRAILLE PATTERN DOTS-1468",
    "c7a8c8c5a6a7a8c8c7a8c8c6a7a8c8c7a8c8c2a3a4a5a6a7a8c8c7a8c8c6a7a8c8c7a8c8c5a6a7a8c8c7a8c8c6" ++
    "a7a8c8c7a8c8c4a5a6a7a8c8c7a8c8c6a7a8c8c7a8c8c5a6a7a8c8c7a8c8c6a7a8c8c7a8c8c3a4a5a6a7a8c8c7" ++
    "a8c8c6a7a8c8c7a8c8c5a6a7a8c8c7a8c8c6a7a8c8c7a8c8c4a5a6a7a8c8c7a8c8c6a7a8c8c7a8c8c5a6"),
  ("BRAILLE PATTERN DOTS-567",
    "a8c8c7a8c8c6a7a8c8c7a8c8sNdEADbK PERMITTED HEREqST-FEEDINGlVEdICKcDE WITH VEILlGE AT NIGHT" ++
    "mEFCASEeSeOCCOLIfKEN BARdCIRCLE WITH NORTHWEST ARROWbbHEARTjOMcWN HEARTkSbUBBLE TEAeSfCKET" ++
    "eGaINESE END OF SECTIONoLETTER AbBAcCAcDAcGAcHAcJAcKAcLAcMAbPAdNAbGAbKAdRAcYAbCAePA"),
  ("BUGINESE LETTER RA",
    "cSAcTAcVAcYAjPALLAWAhVOWEL SIGN AEcEbIbObUtHID LETTER AbBAcDAcGAcHAcIbKAcLAcMAcNAbGAdPAcRA" ++
    "cSAcTAcUbWAcYAjVOWEL SIGN IbUqILDING CONSTRUCTIONtLLETa OPERATORlHORNa WITH SOUND WAVESvSE" ++
    "YEgRRITOfSa STOPfT IN SILHOUETTEoS IN SILHOUETTErTTERaFLYiYTE ORDER MARK"),
  ("BYZANTINE MUSICAL SYMBOL AGOGI ARGI",
    "bOTERIiGORGIbOTERIjMESIcTRIAgPOLI ARGIeGORGIpNATRICHISMAkTIKENOKYLISMAhMAjPESO EKFONITIKON" ++
    "kXO NEOlLIcODERMA ARCHAIONiNEOjSTROFOI SYNDESMOS NEOnTELOUS ICHIMATOSsSa DIPLIfNEOlTHEMAhR" ++
    "GONbSYNTHETONlKTIKO DIcGAcKEcNIcPAcVOUdZOkCHAMILIbONgOREVMA ARCHAIONiNEOkROA KLITON"),
  ("BYZANTINE MUSICAL SYMBOL CHROA SPATHI",
    "gZYGOSlDASEIAfIARGONeSTOLI APLI MEGALIfIKRIkDIPLIfTHESEOSoESIS APLI DYO DODEKATArDIGRAMMOS" ++
    " EX DODEKATAvMONOGRAMMOS TESSERA DODEKATAbcTETARTIMORIONmRIGRAMMOS OKTO DODEKATAvTIMORIONq" ++
    "FTOGGOS OUkGORGONa PARESTIGMENON ARISTERA ANOdKATOnDEXIAzRAMMA GGjPLIa ARCHAIONnYO"),
  ("BYZANTINE MUSICAL SYMBOL EKSTREPTON",
    "jLAFRONgNARXIS KAI FTHORA VOUuDOFONONiPEGERMAhTERON ARGOSYNTHETONnPARAKALESMArXO EKFONITIK" ++
    "ONpFANEROSIS DIFONIASiMONOFONIASkTETRAFONIASuHTORA SKLIRON CHROMA VASISbaTHORA ARCHAIONa D" ++
    "EYTEROU ICHOUxDIATONIKI DIcKEcNANAdI ANOdKATOhPAcZOmENARMONIOS ANTIFONIA"),
  ("BYZANTINE MUSICAL SYMBOL FTHORA I YFESIS TETARTIMORION",
    "wMALAKON CHROMA DIFONIASiMONOFONIASzNAOS ICHOSjENANOgSKLIRON CHROMA SYNAFIgVASISmDIATONON" ++
    " DIbaGENIKI DIESISgYFESISmORGON ARCHAIONiNEO ANOdKATOiPARESTIGMENON ARISTERAiDEXIAvSYNTHET" ++
    "ONlTHMIKON N APLOUNgDIPLOUNtRONTHISMATAmICHADINgMIDIARGONhFONONeTHORAbON"),
  ("BYZANTINE MUSICAL SYMBOL ISAKIA TELOUS ICHIMATOS",
    "vON ARCHAIONiNEOiKATAVA TROMIKONjSMAgHISTIhENTIMA ARCHAIONiNEO ANOdKATOeMESOjTAa ARCHAIONi" ++
    "NEO ANOdKATOeMESOrLASMAa ANOdKATOkONTEVMAa ALLOlRONISfUFISMAhRATIMA ALLOdRCHAIONiNEOeTAdOK" ++
    "OUFISMAiYPORROONnEMASTIhYLISMAhLEIMMA DYO CHRONONlENOS CHRONOUmIMISEOS CHRONOU"),
  ("BYZANTINE MUSICAL SYMBOL LEIMMA TESSARON CHRONON",
    "pRION CHRONONsMOIeYGISMAhMARTYRIA ALLI DEYTEROS ICHOSoPROTOS ICHOSrDEYTEROS ICHOSoLEGETOS" ++
    " ICHOSnPLAGIOS ICHOSfTETARTOS ICHOSvROTOS ICHOShVARYS ICHOSqTETARTOS ICHOSfLEGETOS ICHOSvR" ++
    "IFONIASgTOS ICHOSmVARYS ICHOStIKRON ISONlNANAeOLIGON ARCHAIONiNEOjMALONfXEIA DIPLI"),
  ("BYZANTINE MUSICAL SYMBOL OXEIA EKFONITIKON",
    "lNEOeI ARCHAIONoYRANISMA ARCHAIONiNEOnPARAKALESMA ARCHAIONiNEOkLITIKIa ARCHAIONiNEOmICHONh" ++
    "ELASTONa NEOkRISPOMENIjTASMAcTIbOKOUFISMAoIASMA ARCHAIONiNEOjSIFISTOLYGISMAhNa NEOfPARAKAL" ++
    "ESMAlSYNAGMAmLIbONgRAPISMAgEVMAfSAXIMATAhEISMAa NEOjIMANSIS ARSEOSa DISIMOU"),
  ("BYZANTINE MUSICAL SYMBOL SIMANSIS ARSEOS TETRASIMOU",
    "jRISIMOUpTHESEOSa DISIMOUhTETRASIMOUjRISIMOUyTAVROSa APODEXIAoIGMAeRAGGISMATAlYNAGMA ARCHA" ++
    "IONiMETA STAVROUmNEOiEVMAfRMAaTIKIjTELEIAeSSERAfTRAPLIhHEMAa APLOUNhTISMOS ESOcXOmS KAI AP" ++
    "OTHESoITAeINAGMAgRIAbGORGONgPLIeOMIKOLYGISMAhN ALLOdRCHAIONiNEOfPARAKALESMAkSIFISTON"),
  ("BYZANTINE MUSICAL SYMBOL TROMIKOSYNAGMA",
    "oVAREIA DIPLIfEKFONITIKONlNEOeI ARCHAIONoTHYfXIRON KLASMAmYFEN ANOdKATOgSIS APLI DYO DODEK" ++
    "ATArDIGRAMMOS EX DODEKATAvMONOGRAMMOS TESSERA DODEKATAbcTRIGRAMMOS OKTO DODEKATAvTIMORIONr" ++
    "POKRISISa DIPLImRROIfSILIbfCACTUSeDA UNAfUCEUSgLENDARfL ME HANDkMERAa WITH FLASH"),
  ("CAMPING",
    "fNaADIAN SYLLABICS AaAaIbYcIaVILIK BiNbTHAPASCAN MbSlYcBEAVER DENE LbRmIBLE-CREE YlLACKFOO" ++
    "T AbEbIbKAbEbIbOcNAbEbIbOcObSbWaAbEbIbOmCaAaAaIcRRIER CHAbEaEcIbObUdDEEbNE GEEfTAL ShIbLAb" ++
    "EaEcIbObUcZAbEaEcIbObUdEEcGAaAcEaEcHAbEaEcIbObUcIbObUbWAbUdHaEEcIbWAbEaEcIbObUdI"),
  ("CANADIAN SYLLABICS CARRIER INITIAL Z",
    "jJAbEaEcIbJAbEaEcIbObUcObUbWAdKHAbEaEcIbObUcKaAbEaEcIbObUdLAbEaEcHAbEaEcIbObUcIbObUcMAbEaE" ++
    "cIbObUcNAbEaEcGbIbObUcPaAbEaEcIbObUcRAbEaEcIbObUcSAbEaEcHaAbEaEcIbObUcIbObUcTHAbEaEcIbObUc" ++
    "LAbEaEcHAbEaEcIbObUcIbObUcSAbEaEcIbObUcTAbEaEcIbObSAbEaEcIbObUcUdWAbEaEcIbObUcYAbEaE"),
  ("CANADIAN SYLLABICS CARRIER YI",
    "bObUcZaAbEaEcIbObUjEbHI SIGNhIaIcOaOcWAaAcEbIaIcOaOeEaASTERN WiNcFaAaAaIdEbIaIbNAL ACUTEfB" ++
    "OTTOM HALF RINGqDOUBLE ACUTEfSHORT VERTICAL STROKESbbWN TACKjGRAVEfMIDDLE DOTkPLUSeRAISED" ++
    " DOTjIGHT HALF RINGnNGeSHORT HORIZONTAL STROKEwMALL RINGkTOP HALF RINGsOaOcULL STOP"),
  ("CANADIAN SYLLABICS FWAA",
    "eGLOTTAL STOPmHKbYPHENgIaIbNcKaAaAaIcYcEbIaIcOaOcWaAaAbYcEbIaIcOaOeLaAaAaIcYcEbHaAaAcIaIcO" ++
    "aOdIaIcOaOcWAaAcEbIaIcOaOeMaAaAaIcYcEaDIAL LbRhHbIaIcOaOaSE-CREE SKmWAaAcEbIaIcOaOeNa-CREE" ++
    " THEbIaIkAaAaIcSKAPI CWAAeKWAAeMWAAeNWAAeS-WcCWAdKWaAdPWAdTWAdWAAeTWAAeWAAcOOdYWAA"),
  ("CANADIAN SYLLABICS NATTILIK HA",
    "aAcIaIcOaOdSHRAaAcIaIcOaOmYcEbGaAaAaIcIcIaIcOaOdHbIaIcNGaAaAcIaIcOaOeOaObYcUNAVIK HaAaAcEb" ++
    "IaIcOaOgUT HiWAaAcEbIaIcOaOeOaJIBWAY CbKbMbNaWIaIcOaOePbSaHcTiNbObYcPaAaAaIcYcEbIaIcOaObYc" ++
    "WAaAcEbIaIcOaObYeQaAaAaIcIcIaIcOaOdRa-CREE REbWEjAaAaIcYcEbIaIcOaOcWAaAcEEcIaIcOaOeS"),
  ("CANADIAN SYLLABICS SA",
    "aAaIcYaISI HAbEbIbOaOdJIbUaUdMbSHAbEbIbOaOcWEeTHcYIiEbHaAaAbYcEbIaIcOaObYcWAaAcEbIaIcOaObY" ++
    "eIaIcOaObUTH-SLAVEY KAHcEHcIHcOHoYcPAbEbIbOcWaAaAcEbIaIcOaOeTaAaAaIcYcEbHa-CREE THaAaAcEbI" ++
    "aIcOaOkAaAcEbIaIcOaOcWAaAcEdIaIcLHAbEbIbOaOcWEeOaOcTAbEbHaAaAcEbIbOaOcWEdIbOcWAaAcE"),
  ("CANADIAN SYLLABICS TWI",
    "aIcOaOdYAbEbIbOdWAaAbYcEaST-CREE CWAaAcEbIaIcOaOeFWAAeKWAaAcEbIaIcOaOeLaAaAcEbOaOcWAaAcEbI" ++
    "aIcOaOeMaWAaAcEbIaIcOaOeNWAaAcEdPaWAaAcEbIaIcOaOeRaAbEbIbObWAAeSHWAaAcEbIaIcOaOeWAaAcEbIaI" ++
    "cOaOeTHWAAeWAaAcEbIaIcOaOeWAaAcEbIaIcOaOdYaWAaAcEbIaIcOaOkERN WiIaIcOaO"),
  ("CANADIAN SYLLABICS WOODS-CREE FINAL TH",
    "iTHaAbEbIbObWAaAcEEcIaIcOaOqYa-CREE COOdKOOdLOOdMOOdNOOdOOcPOOcWAAeSOOdTOOdWbYOOjAaAaIcYcE" ++
    "bIaIcOaObYcWAaAcEbIaIcOaOuCELa CHARACTERjTAGeLATION XjRdDLEcYcNED FOODiOEdPITULUMgRICORNhR" ++
    " SLIDINGiD FILE BOXiINDEXa DIVIDERSqE OFdTa INSERTION POINTsIAN LETTER Aa2cBbC-18c39"),
  ("CARIAN LETTER D",
    "a2cEa2cGa2cIaIcKa2cLaDa2dMaBa2b3b4dNaDbGbNcObPa2cQbRaRcSaHa2cSbTa2dTaTa2dUaUaUa2b3bUeXmONb" ++
    "USEL HORSElP STREAMERjENTRY SAWkRIAGE RETURNlOTeSTLEeTa FACEa WITH TEARS OF JOYmWRY SMILEv" ++
    "UCASIAN ALBANIAN CITATION MARKnLETTER ALTcORdBETdCARbYNdHAaTcIbOYdYAWbYeDATcYANdZAY"),
  ("CAUCASIAN ALBANIAN LETTER DZYAY",
    "fEBbYNdFAMdGHEYSeIMdHEYTeINYAdRBcWNdJAYNdHOXeKARcIWdLANcYITeMAQdNOWCeONcPENcIWReQARbYdRATd" ++
    "SEYKdHAaKcOYeTAScIWRdYAYeVEYZeXEYNeYAYDdOWDeZARLdHAbILbbTION SIGNlCHcEDI SIGNfLLAfLTIC CRO" ++
    "SSkNT SIGNfRE LINE SYMBOLmLINE LOW LINEiOVERLINErRESeGJcHAINScRcKMA AU MARKhDANDA"),
  ("CHAKMA DIGIT EIGHT",
    "fFIVEdOUReNINEeONEdSEVENeIXdTHREEeWOdZEROjOUBLE DANDAmLETTER AAcBAAcHAAeCAAcHAAeDAAcDAAcHA" ++
    "AeHAAeEbGAAcHAAeHAAdIbJAAcHAAeKAAcHAAeLAAcHAAeMAAdNAAcGAAdNAAdYAAePAAcHAAeRAAdSAAdTAAcHAAd" ++
    "TAAcHAAfUbVAAdWAAdYAAcYAAlMAAYYAAhO MARKgQUESTION MARKnSECTION MARKlIGN ANUSVARA"),
  ("CHAKMA SIGN CANDRABINDU",
    "lVISARGAmVIRAMAfOWEL SIGN AaAbIbUcEaIcIaIcOaIcUaUrM CONSONANT SIGN FINAL HbMbNGiLAcRAcWAcY" ++
    "ArDIGIT EIGHTfFIVEdOUReNINEeONEdSEVENeIXdTHREEeWOdZEROkLETTER AaIcBAbBAcHAdCHAbHAeDAbDAcHA" ++
    "dEbFINAL CHcGbKbLbNaGcPbRbSScTbYhGAbHAdHAcIbJAbHAdKAbHAdLAcMAbUEdNAbGAbUEdHAbJAcUE"),
  ("CHAM LETTER NUE",
    "dObPAbHAcPAdRAcSAbSAdTAbHAdUbVAcYAjPUNCTUATION DANDAeOUBLE DANDAmSPIRALgTRIPLE DANDAyVOWEL" ++
    " SIGN AAbIbUcEIcIaIcOaEcUaEpRACTER TABULATIONa SETdWITH JUSTIFICATIONbcIEjT WITH DOWNWARDS" ++
    " TRENDpUPWARDS TRENDa AND YEN SIGNbjECK MARKfER BOARDa FILLpERING MEGAPHONEoSE WEDGE"),
  ("CHEQUERED FLAG",
    "lROKEE LETTER AbDAbEbIbLAcObUbVcEbGAbEbIbObUbVcHAbEbIbNAcObUbVcIbKAcLAbEbIbObUbVcMAbEbIbOb" ++
    "UbVcNAaHcEbIbObUbVcObQUAbEbIbObUbVdSaAbEbIbObUbVcTAbEbIbLAbEbIbObUbVcSAbEbIbObUbVdUbVbWAbE" ++
    "bIbObUbVcYAbEbIbObUbVjSMALL LETTER AbDAbEbIbLAcObUbVcEbGAbEbIbObUbVcHAbEbIbNAcObUbV"),
  ("CHEROKEE SMALL LETTER I",
    "bKAcLAbEbIbObUbVcMAbEbIbObUbVcNAaHcEbIbObUbVcObQUAbEbIbObUbVdSaAbEbIbObUbVcTAbEbIbLAbEbIbO" ++
    "bUbVcSAbEbIbObUbVdUbVbWAbEbIbObUbVcYAbEbIbObUbVuRIESdY BLOSSOMlSTNUTgI RHOeCKENeLDaREN CRO" ++
    "SSINGoPMUNKfRONeOCOLATE BARkPSTICKShRASMIAN LETTER ALEPHeYINeBETHeCURLED WAWkDALETH"),
  ("CHORASMIAN LETTER GIMEL",
    "fHEaTHeKAPHeLAMEDHgMEMdNUNdPEcRESHeSAMEKHfHINdMALL ALEPHlTAWdWAWdYODHeZAYINmNUMBER FOUReON" ++
    "Ea HUNDREDlTENcHREEeWENTYeOtRISTMAS TREEmURCHfINEMAeRCLE DIVIDED BY HORIZONTAL BAR AND TOP" ++
    " HALF DIVIDED BY VERTICAL BARckWITH ALL BUT UPPER LEFT QUADRANT BLACK"),
  ("CIRCLE WITH HORIZONTAL BAR",
    "oLEFT HALF BLACKoOWER HALF BLACKqRIGHT HALF BLACKqSMALL CIRCLE TO THE RIGHTyUPERIMPOSED Xo" ++
    "TWO HORIZONTAL STROKES TO THE RIGHTbjUPPER HALF BLACKkRIGHT QUADRANT BLACKbaVERTICAL FILLt" ++
    "D ANTICLOCKWISE ARROWg-ROTATED DIVISION SIGNbiSTERISK OPERATORrBOLD XfULLET"),
  ("CIRCLED C WITH OVERLAID BACKSLASH",
    "yCbDbROSS FORMEEa WITH FOUR DOTSjTWO DOTSuPOMMEEhING LANESoDASHdIGIT EIGHTfFIVEdOUReNINEeO" ++
    "NEdSEVENeIXdTHREEeWOdZEROiVISION SIGNdLASHnOLLAR SIGN WITH OVERLAID BACKSLASHbhT OPERATORm" ++
    "EQUALSgGREATER-THANmHANGUL CHIEUCHa AiIEUCa AhHIEUHa AhIEUNGa AbUhKHIEUKHa AiIYEOK"),
  ("CIRCLED HANGUL KIYEOK A",
    "iMIEUMa AhNIEUNa AhPHIEUPHa AiIEUPa AhRIEULa AhSIOSa AgTHIEUTHa AiIKEUTa AoEAVY WHITE RIGH" ++
    "TWARDS ARROWbbORIZONTAL BAR WITH NOTCHyUMAN FIGUREmIDEOGRAPH ACCEPTfDVANTAGEiLLIANCEhTTENT" ++
    "IONjCENTREfONGRATULATIONmPYcRRECThEARTHeIGHTeNTERPRISEjXCELLENTjFEMALEfINANCIALhRE"),
  ("CIRCLED IDEOGRAPH FIVE",
    "dOUReHAVEdIGHeITEMeKINDERGARTENlOTOeLABOReEFTdOWdMALEdEDICINEgTALeOONeNAMEdIGHTdNEeONEdPRI" ++
    "NTfQUESTIONiRELIGIONgSOURCEfTdIGHTfSCHOOLfECRETeVENeIXcOCIETYgPECIALgTOCKdUDYeUITABLEgNbPE" ++
    "RVISEjTENcHREEeWOdWATEReOODnNFORMATION SOURCErTALIC LATIN CAPITAL LETTER CbR"),
  ("CIRCLED KATAKANA A",
    "bEbHAbEbIbObUcIbKAbEbIbObUcMAbEbIbObUcNAbEbIbObUcObRAbEbIbObUcSAbEbIbObUcTAbEbIbObUcUbWAbE" ++
    "bIbOcYAbObUkOREAN CHARACTER CHAMKOgJUEUIwLATIN CAPITAL LETTER AbBbCbDbEbFbGbHbIbJbKbLbMbNb" ++
    "ObPbQbRbSbTbUbVbWbXbYbZqSMALL LETTER AbBbCbDbEbFbGbHbIbJbKbLbMbNbObPbQbRbSbTbUbVbWbX"),
  ("CIRCLED LATIN SMALL LETTER Y",
    "bZtESS-THANjMINUSeULTIPLICATION SIGN WITH CIRCUMFLEX ACCENTbqNUMBER EIGHTEENdY ON BLACK SQ" ++
    "UAREvLEVENgFIFTEENdYa ON BLACK SQUAREuORTYa EIGHTfFIVEdOUReNINEeON BLACK SQUAREnEdSEVENeIX" ++
    "dTHREEeWOhURTEENiNINETEENiSEVENTEENdY ON BLACK SQUAREwIXTEENdY ON BLACK SQUAREvTEN"),
  ("CIRCLED NUMBER TEN ON BLACK SQUARE",
    "sHIRTEENdYa EIGHTfFIVEdOUReNINEeON BLACK SQUAREnEdSEVENeIXdTHREEeWOjWELVEdNTYa EIGHTfFIVEd" ++
    "OUReNINEeON BLACK SQUAREnEdSEVENeIXdTHREEeWOrOPEN CENTRE EIGHT POINTED STARbePARALLELhERPE" ++
    "NDICULARmLUSdOSTAL MARKlREVERSE SOLIDUSoING OPERATORnSQUAREgTIMESeRIANGLEa DOWN"),
  ("CIRCLED VERTICAL BAR",
    "mWHITE BULLETgSTARjZcXbZERO WITH SLASHtULATION FUNCTIONpMFLEX ACCENTmS TENTjTYSCAPEa AT DU" ++
    "SKqJK COMPATIBILITY IDEOGRAPH-2F800b1b2b3b4b5b6b7b8b9bAbBbCbDbEbFc10b1b2b3b4b5b6b7b8b9bAbB" ++
    "bCbDbEbFc20b1b2b3b4b5b6b7b8b9bAbBbCbDbEbFc30b1b2b3b4b5b6b7b8b9bAbBbCbDbEbFc40b1b2b3"),
  ("CJK COMPATIBILITY IDEOGRAPH-2F844",
    "b5b6b7b8b9bAbBbCbDbEbFc50b1b2b3b4b5b6b7b8b9bAbBbCbDbEbFc60b1b2b3b4b5b6b7b8b9bAbBbCbDbEbFc7" ++
    "0b1b2b3b4b5b6b7b8b9bAbBbCbDbEbFc80b1b2b3b4b5b6b7b8b9bAbBbCbDbEbFc90b1b2b3b4b5b6b7b8b9bAbBb" ++
    "CbDbEbFcA0b1b2b3b4b5b6b7b8b9bAbBbCbDbEbFcB0b1b2b3b4b5b6b7b8b9bAbBbCbDbEbFcC0b1b2b3b4"),
  ("CJK COMPATIBILITY IDEOGRAPH-2F8C5",
    "b6b7b8b9bAbBbCbDbEbFcD0b1b2b3b4b5b6b7b8b9bAbBbCbDbEbFcE0b1b2b3b4b5b6b7b8b9bAbBbCbDbEbFcF0b" ++
    "1b2b3b4b5b6b7b8b9bAbBbCbDbEbFd900b1b2b3b4b5b6b7b8b9bAbBbCbDbEbFc10b1b2b3b4b5b6b7b8b9bAbBbC" ++
    "bDbEbFc20b1b2b3b4b5b6b7b8b9bAbBbCbDbEbFc30b1b2b3b4b5b6b7b8b9bAbBbCbDbEbFc40b1b2b3b4"),
  ("CJK COMPATIBILITY IDEOGRAPH-2F945",
    "b6b7b8b9bAbBbCbDbEbFc50b1b2b3b4b5b6b7b8b9bAbBbCbDbEbFc60b1b2b3b4b5b6b7b8b9bAbBbCbDbEbFc70b" ++
    "1b2b3b4b5b6b7b8b9bAbBbCbDbEbFc80b1b2b3b4b5b6b7b8b9bAbBbCbDbEbFc90b1b2b3b4b5b6b7b8b9bAbBbCb" ++
    "DbEbFcA0b1b2b3b4b5b6b7b8b9bAbBbCbDbEbFcB0b1b2b3b4b5b6b7b8b9bAbBbCbDbEbFcC0b1b2b3b4b5"),
  ("CJK COMPATIBILITY IDEOGRAPH-2F9C6",
    "b7b8b9bAbBbCbDbEbFcD0b1b2b3b4b5b6b7b8b9bAbBbCbDbEbFcE0b1b2b3b4b5b6b7b8b9bAbBbCbDbEbFcF0b1b" ++
    "2b3b4b5b6b7b8b9bAbBbCbDbEbFdA00b1b2b3b4b5b6b7b8b9bAbBbCbDbEbFc10b1b2b3b4b5b6b7b8b9bAbBbCbD" ++
    "fF900b1b2b3b4b5b6b7b8b9bAbBbCbDbEbFc10b1b2b3b4b5b6b7b8b9bAbBbCbDbEbFc20b1b2b3b4b5b6"),
  ("CJK COMPATIBILITY IDEOGRAPH-F927",
    "b8b9bAbBbCbDbEbFc30b1b2b3b4b5b6b7b8b9bAbBbCbDbEbFc40b1b2b3b4b5b6b7b8b9bAbBbCbDbEbFc50b1b2b" ++
    "3b4b5b6b7b8b9bAbBbCbDbEbFc60b1b2b3b4b5b6b7b8b9bAbBbCbDbEbFc70b1b2b3b4b5b6b7b8b9bAbBbCbDbEb" ++
    "Fc80b1b2b3b4b5b6b7b8b9bAbBbCbDbEbFc90b1b2b3b4b5b6b7b8b9bAbBbCbDbEbFcA0b1b2b3b4b5b6b7"),
  ("CJK COMPATIBILITY IDEOGRAPH-F9A8",
    "b9bAbBbCbDbEbFcB0b1b2b3b4b5b6b7b8b9bAbBbCbDbEbFcC0b1b2b3b4b5b6b7b8b9bAbBbCbDbEbFcD0b1b2b3b" ++
    "4b5b6b7b8b9bAbBbCbDbEbFcE0b1b2b3b4b5b6b7b8b9bAbBbCbDbEbFcF0b1b2b3b4b5b6b7b8b9bAbBbCbDbEbFd" ++
    "A00b1b2b3b4b5b6b7b8b9bAbBbCbDbEbFc10b1b2b3b4b5b6b7b8b9bAbBbCbDbEbFc20b1b2b3b4b5b6b7"),
  ("CJK COMPATIBILITY IDEOGRAPH-FA28",
    "b9bAbBbCbDbEbFc30b1b2b3b4b5b6b7b8b9bAbBbCbDbEbFc40b1b2b3b4b5b6b7b8b9bAbBbCbDbEbFc50b1b2b3b" ++
    "4b5b6b7b8b9bAbBbCbDbEbFc60b1b2b3b4b5b6b7b8b9bAbBbCbDc70b1b2b3b4b5b6b7b8b9bAbBbCbDbEbFc80b1" ++
    "b2b3b4b5b6b7b8b9bAbBbCbDbEbFc90b1b2b3b4b5b6b7b8b9bAbBbCbDbEbFcA0b1b2b3b4b5b6b7b8b9bA"),
  ("CJK COMPATIBILITY IDEOGRAPH-FAAB",
    "bCbDbEbFcB0b1b2b3b4b5b6b7b8b9bAbBbCbDbEbFcC0b1b2b3b4b5b6b7b8b9bAbBbCbDbEbFcD0b1b2b3b4b5b6b" ++
    "7b8b9bcRADICAL BAMBOOfLUEdOLT OF CLOTHlNEcXcRUSH ONEdTWOjC-SIMPLIFIED BIRDeCARTeDRAGONgEAT" ++
    "cVENeFISHdLYcROGeGATEdOLDeHORSEfLEAFdONGeSALTdEEcHELLeILKdPEECHgTANNED LEATHERnOOTH"),
  ("CJK RADICAL C-SIMPLIFIED TURTLE",
    "gWINDqHOKEeITYcVILIANhLIFFdOTHESgOWdDEATHeIVINATIONjOGdEAT ONEdTHREEeWOgWEcYEdFIREdOOTeGHO" ++
    "STeRASS ONEdTHREEeWOjHANDdEADbRT ONEdTWOiORNeJ-SIMPLIFIED DRAGONgEVENeTOOTHeURTLEsADEeKNIF" ++
    "E ONEdTWOjLAME FOUReONEdTHREEeWOhONG ONEdTWOiMEATcSHdOONcRTAReTHEReUND ONEdTWO"),
  ("CJK RADICAL NET FOUR",
    "eONEdTHREEeWOhOLDdPAW ONEdTWOgERSONgRAINcMbPcEPEATgSEALcCOND ONEdTHREEeWOjHEEPeILKcMPLIFIE" ++
    "D HALF TREE TRUNKoORNeWALKdHEATfYELLOWqMALL ONEdTWOiNAKEdOUT ONEdTWOiPIRIT ONEdTWOjUNdTABL" ++
    "EeHREADfIGEReURTLEgWALK ONEdTWOgTER ONEdTWOiEST ONEdTWOqSTROKE BXGdDbHaGbPaWGdXWGdZ"),
  ("CJK STROKE HZG",
    "bTbWaGcZaPbZaGfNbPaDbGbZcQbSaGbPbTbWaGbZcZaWGcZdTaNcWGcXGmLAMSHELL MOBILE PHONEtPPER BOARD" ++
    "iING HANDS SIGNqSSICAL BUILDINGqEAR SCREEN SYMBOLrINKING BEER MUGSjGLASSESnPBOARDhOCK FACE" ++
    " EIGHT OCLOCKh-THIRTYlLEVEN OCLOCKh-THIRTYnFIVE OCLOCKh-THIRTYkOUR OCLOCKh-THIRTY"),
  ("CLOCK FACE NINE OCLOCK",
    "h-THIRTYlONE OCLOCKh-THIRTYkSEVEN OCLOCKh-THIRTYlIX OCLOCKh-THIRTYkTEN OCLOCKh-THIRTYjHREE" ++
    " OCLOCKh-THIRTYlWELVE OCLOCKh-THIRTYlO OCLOCKh-THIRTYqWISE CLOSED CIRCLE ARROWsONTOUR INTE" ++
    "GRALqDOWNWARDS AND UPWARDS OPEN CIRCLE ARROWSboGAPPED CIRCLE ARROWtINTEGRAL"),
  ("CLOCKWISE OPEN CIRCLE ARROW",
    "rRIGHT AND LEFT SEMICIRCLE ARROWSbbWARDS AND LEFTWARDS OPEN CIRCLE ARROWSa WITH CIRCLED ON" ++
    "E OVERLAYcqTOP SEMICIRCLE ARROWtRIANGLE-HEADED OPEN CIRCLE ARROWboSE UPdD BOOKeINTERSECTI" ++
    "ON WITH SERIFSyLOCK WITH KEYnMAILBOX WITH LOWERED FLAGmRAISED FLAGySUBSET"),
  ("CLOSED SUBSET OR EQUAL TO",
    "qPERSETa OR EQUAL TOuUMBRELLAhNION WITH SERIFSa AND SMASH PRODUCTbnUDa WITH LIGHTNINGjRAIN" ++
    "eSNOWeTORNADOpWN FACEjOATcCKROACHfTAIL GLASSlONUTfFFINeINcLLISION SYMBOLnONa EQUALSgSIGNiM" ++
    "BINING ACUTE ACCENTa BELOWmTONE MARKk-GRAVE-ACUTElMACRONlLMOST EQUAL TO ABOVEfBELOW"),
  ("COMBINING ANNUITY SYMBOL",
    "mTICLOCKWISE ARROW ABOVElRING OVERLAYzSTERISK ABOVEfBELOWoBINDU BELOWkREVEa BELOWg-MACRONk" ++
    "IDGE ABOVEfBELOWmCANDRABINDUjRONa BELOWkEDILLAgIRCUMFLEX ACCENTa BELOWwLOCKWISE ARROW ABOV" ++
    "ElRING OVERLAYvOMMA ABOVEa RIGHTlBELOWjNJOINING MACRONa BELOWwYRILLIC DASIA PNEUMATA"),
  ("COMBINING CYRILLIC HUNDRED MILLIONS SIGN",
    "nTHOUSANDS SIGNwKAVYKAgLETTER AbBEbIG YUShCHEdDEbJERVfEFbLbMbNbRbSa-TEfFITAeGHEdHAaRD SIGN" ++
    "jIaEbOTIFIED AbBIG YUShEkKAcLITTLE YUSkMONOGRAPH UKmOaMEGAfPEcSHAbCHAeOFT SIGNjTEbSEdUaKRA" ++
    "INIAN IEmVEcYATcERUdIbUcZEbHEkMILLIONS SIGNnPALATALIZATIONmYEROKgOKRYTIE"),
  ("COMBINING CYRILLIC PSILI PNEUMATA",
    "oTEN MILLIONS SIGNqHOUSAND MILLIONS SIGNvITLOa LEFT HALFjRIGHT HALFqVZMEToDELETION MARKlVA" ++
    "NAGARI DIGIT EIGHTfFIVEdOUReNINEeONEdSEVENeIXdTHREEeWOdZEROkLETTER AbKAcNAcPAcRAcUbVIjSIGN" ++
    " AVAGRAHAxIAERESISa BELOWg-RINGnOT ABOVEa LEFTeRIGHTlBELOWa LEFTlTED ACUTE ACCENT"),
  ("COMBINING DOTTED GRAVE ACCENT",
    "rUBLE ACUTE ACCENTmBREVEa BELOWlCIRCUMFLEX ABOVEqGRAVE ACCENTmINVERTED BREVEa BELOWuLOW LI" ++
    "NEiMACRONa BELOWmOPEN MARK BELOWoVERLINEiPARENTHESES ABOVEqLUS SIGN ABOVEfBELOWpRIGHTWARDS" ++
    " ARROW BELOWuNG BELOWkTILDEa LEFT HALFjRIGHT HALFqVERTICAL LINE ABOVEfBELOW"),
  ("COMBINING DOUBLE VERTICAL STROKE OVERLAY",
    "yD CIRCUMFLEX ACCENTxWN TACK BELOWlWARDS ARROWpENCLOSING CIRCLEa BACKSLASHqDIAMONDhKEYCAPg" ++
    "SCREENfQUAREgUPWARD POINTING TRIANGLEbhQUALS SIGN BELOWrFERMATAgOUR DOTS ABOVEpGLAGOLITIC" ++
    " LETTER AZUdBIG YUSgUKYeCHRIVIgDJERVIfOBROfFITAdRITUfGLAGOLIhHERUeIaNITIAL IZHE"),
  ("COMBINING GLAGOLITIC LETTER IOTATED BIG YUS",
    "hSMALL YUSqZHEeKAKOeLJUDIJEhMYSLITEhNASHIfONUdPOKOJIgRITSIfSHAbTAdLOVOeMALL YUSjTSIcVRIDOg" ++
    "UKUdVEDEeYATIdERIbUcSTUeObUcZEMLJAfHIVETEyRANTHA DIGIT FIVEdOUReONEdSIXdTHREEeWOdZEROkLETT" ++
    "ER AbKAcNAcPAcVIoPHEME JOINERmVE ACCENTa BELOWmTONE MARKk-ACUTE-GRAVElMACRON"),
  ("COMBINING GREEK DIALYTIKA TONOS",
    "pKORONIShMUSICAL PENTASEMEjTETRASEMEiRISEMEpPERISPOMENIlYPOGEGRAMMENItHOMOTHETIC ABOVEoOK" ++
    " ABOVEiRNeINFINITYgVERTED BREVEa BELOWjIDGE BELOWmDOUBLE ARCH ABOVEfBELOWzS BELOWiKATAKANA" ++
    "-HIRAGANA SEMI-VOICED SOUND MARKwVOICED SOUND MARKbhVYKA ABOVE LEFTeRIGHT"),
  ("COMBINING LATIN LETTER SMALL CAPITAL G",
    "bLbMbNbRwSMALL LETTER Aa WITH DIAERESISpEbLPHAeObVcBaETAeCa CEDILLAjDbEaSHcTHdFaLATTENED O" ++
    "PEN A ABOVEwGbHbIaNSULAR DbGbRbTjKbLa WITH DOUBLE MIDDLE TILDEzONG SgMbNbOa WITH DIAERESIS" ++
    "jLIGHT CENTRALIZATION STROKEbiPbRa BELOWfROTUNDAjSaCHWAfTaURNED W BELOWoU"),
  ("COMBINING LATIN SMALL LETTER U WITH DIAERESIS",
    "jLIGHT CENTRALIZATION STROKEbiVbWa BELOWhXbZtEFT ANGLE ABOVEfBELOWkRROW ABOVEfBELOWgHEAD A" ++
    "BOVEfBELOWpHALF RING ABOVEfBELOWnRPOON ABOVEnPARENTHESIS ABOVE LEFTkBELOW LEFTwRIGHT ARROW" ++
    " ABOVEfBELOWrTACK BELOWlWARDS ARROW OVERLAYnHARPOON WITH BARB DOWNWARDS"),
  ("COMBINING LIGATURE LEFT HALF",
    "a BELOWpRIGHT HALFa BELOWwHT CENTRALIZATION STROKE BELOWbgONG DOUBLE SOLIDUS OVERLAYwSOLID" ++
    "US OVERLAYoTROKE OVERLAYoVERTICAL LINE OVERLAYyW LINEiMACRONa BELOWfLEFT HALFa BELOWpRIGHT" ++
    " HALFa BELOWr-ACUTEfBREVEfGRAVElINUS SIGN BELOWqNOT TILDE ABOVEoUMBER SIGN ABOVE"),
  ("COMBINING OGONEK",
    "a ABOVElLD PERMIC LETTER ANcDOIdNENOEfSIIdZATAvPEN MARK BELOWoVERLINEiPALATALIZED HOOK BEL" ++
    "OWuRENTHESES ABOVEfBELOWfOVERLAYsLUS SIGN ABOVEfBELOWpRETROFLEX HOOK BELOWsVERSE SOLIDUS O" ++
    "VERLAYqD COMMA ABOVEtIGHT ARROW ABOVEfBELOWgHEAD ABOVEeND DOWN ARROWHEAD BELOW"),
  ("COMBINING RIGHT ARROWHEAD AND UP ARROWHEAD BELOW",
    "wBELOWpHALF RING ABOVEfBELOWnRPOON ABOVEnPARENTHESIS ABOVE RIGHTlBELOW RIGHTxTACK BELOWlWA" ++
    "RDS HARPOON WITH BARB DOWNWARDSbkNG ABOVEfBELOWfOVERLAYmSEAGULL BELOWmHORT SOLIDUS OVERLAY" ++
    "oTROKE OVERLAYoVERTICAL LINE OVERLAYbaNAKE BELOWkQUARE BELOWeRACKETS ABOVE"),
  ("COMBINING STRONG CENTRALIZATION STROKE BELOW",
    "bhUSPENSION MARKpTHREE DOTS ABOVEpILDEa BELOWfLEFT HALF BELOWpOVERLAYhRIGHT HALF BELOWvRIP" ++
    "LE ACUTE ACCENTmDOTdUNDERDOToURNED COMMA ABOVEsUP TACK ABOVEfBELOWlWARDS ARROW BELOWsR ABO" ++
    "VEhS ABOVEiVERTICAL LINE ABOVEfBELOWkTILDEoWIDE BRIDGE ABOVEmINVERTED BRIDGE BELOW"),
  ("COMBINING WIGGLY LINE BELOW",
    "rX ABOVEfBELOWg-X BELOWjZIGZAG ABOVEfBELOWtETcMAbERCIAL ATcMINUS SIGNsPASSdLEMENTgOSITION" ++
    " SYMBOLoRESSIONjNFETTI BALLjOUNDED FACElUSED FACEkGRUENT WITH DOT ABOVEvICAL TAPERkJUNCTI" ++
    "ONiSTRUCTION SIGNeWORKERqTAINS AS MEMBERgNORMAL SUBGROUPa OR EQUAL TO"),
  ("CONTAINS WITH LONG HORIZONTAL STROKE",
    "wOVERBARhVERTICAL BAR AT END OF HORIZONTAL STROKEbyINUOUS UNDERLINE SYMBOLxOUR INTEGRALmRO" ++
    "L KNOBSfSEQUENCE INTRODUCERyVENIENCE STOREpOKED RICEhIEbNGfPTIC CAPITAL LETTER AKHMIMIC KH" ++
    "EImLFAeBOHAIRIC KHEInCROSSED SHEIkYPTOGRAMMIC EIEdGANGIAgNIcSHEIsDALDAeEI"),
  ("COPTIC CAPITAL LETTER DIALECT-P ALEF",
    "eHORIeKAPAeNImEIEdFEIcIcGAMMAdNGIAgHATEdORIeIAUDAfKAPAdHEIcIcSIdL-SHAPED HAkAULAfMIcNIcOaL" ++
    "D COPTIC AINdDJAdESHdGANGIAgHAaTcEIcORIeOOUdSHEIcIMAmNUBIAN NGIcYIdSHIMAfWAUnOUdPIbSIdROcS" ++
    "AMPIeHEIcIMAeIMAdOUdTAUcHETHEgUAcVIDAeZATAsOMBINING NI ABOVEiSPIRITUS ASPERfLENIS"),
  ("COPTIC EPACT DIGIT EIGHT",
    "fFIVEdOUReNINEeONEdSEVENeIXdTHREEeWOjNUMBER EIGHT HUNDREDiYgFIFTYdVE HUNDREDlORTYdUR HUNDR" ++
    "EDmNINE HUNDREDiTYgONE HUNDREDlSEVEN HUNDREDiTYgIX HUNDREDiTYfTENcHIRTYeREE HUNDREDmWENTYe" ++
    "O HUNDREDsTHOUSANDS MARKuFRACTION ONE HALFqULL STOPjMORPHOLOGICAL DIVIDER"),
  ("COPTIC OLD NUBIAN DIRECT QUESTION MARK",
    "uFULL STOPjINDIRECT QUESTION MARKwVERSE DIVIDERySMALL LETTER AKHMIMIC KHEImLFAeBOHAIRIC KH" ++
    "EInCROSSED SHEIkYPTOGRAMMIC EIEdGANGIAgNIcSHEIsDALDAeEIcIALECT-P ALEFeHORIeKAPAeNImEIEdFEI" ++
    "cIcGAMMAdNGIAgHATEdORIeIAUDAfKAPAdHEIcIcSIdL-SHAPED HAkAULAfMIcNIcOaLD COPTIC AIN"),
  ("COPTIC SMALL LETTER OLD COPTIC DJA",
    "dESHdGANGIAgHAaTcEIcORIeOOUdSHEIcIMAmNUBIAN NGIcYIdSHIMAfWAUnOUdPIbSIdROcSAMPIeHEIcIMAeIMA" ++
    "dOUdTAUcHETHEgUAcVIDAeZATAqYMBOL KAIcHI ROgMI ROfPI ROfSHIMA SIMAjTAUROShTAU ROrYLEFT SYMB" ++
    "OLlRIGHT SIGNmRALcNISH VERSE DIVIDERsRESPONDS TOmUCH AND LAMPlNTERBOREeSINK"),
  ("COUNTING ROD TENS DIGIT EIGHT",
    "fFIVEdOUReNINEeONEdSEVENeIXdTHREEeWOoUNIT DIGIT EIGHTfFIVEdOUReNINEeONEdSEVENeIXdTHREEeWOy" ++
    "PLE WITH HEARTpWa FACEhRaABcEDIT CARDiSCENT MOONlICKETa BAT AND BALLsOCODILEgISSANTgSS MAR" ++
    "KeOF JERUSALEMjLORRAINElPATTY WITH LEFT CROSSBARnRIGHT CROSSBARyOMMEE"),
  ("CROSS POMMEE WITH HALF-CIRCLE BELOW",
    "beED FLAGSfNEGATIVE SQUARED LATIN CAPITAL LETTER PbnSWORDSjING LANESlWNdUTCHdZEIRO SIGNlYI" ++
    "NG CAT FACEiFACEiSTAL BALLlSIcUBE ROOThCUMBERgNEIFORM NUMERIC SIGN EIGHT ASHdDISHeGESH2fSH" ++
    "AR2fUa VARIANT FORMoVARIANT FORM USSUa3xLAMITE FIFTYeORTYfONE THIRDjTWO THIRDS"),
  ("CUNEIFORM NUMERIC SIGN FIVE ASH",
    "a TENUiBAN2a VARIANT FORMqURUeDISHeGESH2bUfSHAR2bUeIXTHS DISHlUa VARIANT FORMsOUR ASHa TEN" ++
    "UiBAN2a VARIANT FORMqURUeDISHeGESH2bUfSHAR2bUfUa VARIANT FORMoVARIANT FORM LIMMUa AbBc4yNI" ++
    "GIDAESHdMINhNE ASHdDISHeGESH2fSHAR2fUa VARIANT FORMoVARIANT FORM ILIMMUa Ac3b4"),
  ("CUNEIFORM NUMERIC SIGN OLD ASSYRIAN ONE QUARTER",
    "hSIXTHvNE BAN2dURUeEIGHTH ASHjSHE3fGESH2bUfHALF GURiQUARTER ASHdGURlSHARUfTHIRD DISHeVARIA" ++
    "NT FORM AySEVEN ASHdDISHeGESH2fSHAR2fUa VARIANT FORMoVARIANT FORM IMIN AbBc3xHAR2 TIMES GA" ++
    "L PLUS DISHeMINxIX ASHa TENUiDISHeGESH2fSHAR2fUa VARIANT FORMoVARIANT FORM ASH9"),
  ("CUNEIFORM NUMERIC SIGN THREE ASH",
    "a TENUiBAN2dURUa VARIANT FORMrDISHeGESH2bUfSHAR2a VARIANT FORMoUa VARIANT FORMsVARIANT FOR" ++
    "M ESH16c21xWO ASHa TENUiBAN2dURUeESHE3fGESH2bUfSHAR2bUfTHIRDS DISHeVARIANT FORM AbmPUNCTUA" ++
    "TION SIGN DIAGONAL COLONfQUADCOLONjTRICOLONrOLD ASSYRIAN WORD DIVIDERzVERTICAL COLON"),
  ("CUNEIFORM SIGN A",
    "a TIMES AbBADdGAN2 TENUjHAcIGIdLAGAR GUNUkMUSHeSAGk2bBa GUNUeTIMES ASH2eDUN3 GUNUjGALbN2 T" ++
    "ENUjHAcIGI GUNUhMINeLAGABfNUNa TENUiSHESHdU2eU PLUS U PLUS Uw2a TIMES AbBALAGfGAN2 TENUjME" ++
    " PLUS ENkSHA3eTAK4nDa TIMES ESH2mKa TIMES ERIN2fSHITA PLUS GISHxLa TIMES ALcDIM2"),
  ("CUNEIFORM SIGN AL TIMES GISH",
    "eHAcKAD3dIcSHEdUSHkANcEPHeMARa TIMES KUGdSHEnNa OVER ANhPLUS NAGA OPPOSING AN PLUS NAGAvSQ" ++
    "UAREDrTHREE TIMESmSHEePINdRADa TIMES KURmKABeSAL2dHa KABA TENUjOVER ASH OVER ASHa CROSSING" ++
    " ASH OVER ASH OVER ASHbnTUG2 OVER TUG2 TUG2 OVER TUG2 PAPbqZIDA TENUk2bGABgBAaD"),
  ("CUNEIFORM SIGN BAD TIMES DISH TENU",
    "rG3cHAR2a TIMES AB2dNIcZAnLa OVER BALjAGdRaA2eIa TIMES AbGARdIGI GUNUqUa CROSSING BUlOVER" ++
    " BU ABcTIMES NA2jUNlLUGa OVER BULUGoRa2eDAa TIMES TAK4lGa KISIM5 TIMES A PLUS MASHkMAReBAL" ++
    "AGeIcGAa PLUS MASHlIaR2dUDdHAcIRa PLUS LUkKAKdLAbUa PLUS MASH2lMdNEcPAP PLUS PAPmSI"),
  ("CUNEIFORM SIGN DAG KISIM5 TIMES TAK4",
    "eU2 PLUS GIR2eMASHlSHqTIMES KURk3cMbRaA3b4eIaBbMa TIMES IGIdSHEdU U Um2a TIMES UDlNa KASKA" ++
    "L U GUNU DISHuSHa PLUS SHUmUa GUNUeOVER DUhSHESHIGiBa TIMES ESH2eSHEk2cGa TIMES ANSHEeSHa" ++
    " AT LEFTlDINcUNdERIN2fGAbIaR2 GUNUhSHeHAbIcIGI GUNUiKASKALfURbSHU2a PLUS KASKAL"),
  ("CUNEIFORM SIGN DUG TIMES LAK-020",
    "fMa TIMES KURmUH PLUS GISHnMASHdEScIcNIcPIcSHEcI GUNUoUDdHbNa3a GUNUa GUNUl4cR2eEa OVER E" ++
    " NUN OVER NUNtTIMES PAPk2a TIMES A PLUS HA PLUS DArGARdKURdMIcPAPdSALcHEdUjDINdGIRdLbNa CR" ++
    "OSSING ENlOPPOSING ENlSQUAREDhTIMES GAN2a TENUjMEkRENcIN2a XgSH2a CROSSING ESH2rZEN"),
  ("CUNEIFORM SIGN EZEN SHESHIG TIMES ASH",
    "dHIcIGI GUNUiLAaLdMEaSdSUqTIMES Aa PLUS LALa TIMES LALtNcBADdDUN3 GUNUa GUNUoGUDdHAa GUNUh" ++
    "IGI GUNUiKASKALa SQUAREDnU3dLAaL TIMES LALmIbUcSHEcUcU2bDnGAa GUNUf2a OVER GA2iTIMES A PLU" ++
    "S DA PLUS HAkHAcIGIjB2 TENU PLUS TABqNa PLUS KAK PLUS ArSHa2a PLUS GALnBADbHAR2"),
  ("CUNEIFORM SIGN GA2 TIMES BAR PLUS RA",
    "kURa PLUS RAlDAbIaM GUNUeTIMES SHEmUBbG TIMES IGI GUNUiKASKALqELa PLUS LAjNa TIMES GAN2 TE" ++
    "NUrRENeGAaN2 TENUhRa PLUS DIcNEkIa4a PLUS AiR2 PLUS SUmHA PLUS AbLU PLUS ESH2sLa PLUS LAkI" ++
    " PLUS LIjUB2eIGI GUNUhSH PLUS HU PLUS ASHuKAKbSKALfIDa PLUS LALlU3 PLUS AN"),
  ("CUNEIFORM SIGN GA2 TIMES KUSHU2 PLUS KASKAL",
    "sLAaMa TIMES KURmUHdME PLUS ENjIbUSHeNEa PLUS E2cGIjUNa OVER NUNmPAcSALbRcHEa PLUS TURkIDb" ++
    "MdUMdTAK4eUaDa PLUS DUkZIZ2mBAa CROSSING GABAnROTATED NINETY DEGREESzDa OVER GAD GAR OVER" ++
    " GARxLa GAD OVER GAD GAR OVER GARbaAMdMbNa2a CROSSING GAN2nOVER GAN2jTENUhRa3cSHAN"),
  ("CUNEIFORM SIGN GE22",
    "cSHTINa TIMES KURdUoIa CROSSING GIlTIMES EbUi4a CROSSING GI4mOVER GI4kDIMdGbR2a GUNUg3a TI" ++
    "MES A PLUS IGIkGAN2 TENUjIGIdLU PLUS IGIlPAlSALcHa CROSSING GISHnTENUdIMES BADdGISH CROSSI" ++
    "NG GISHsTAK4oUa CROSSING GUm2a GUNUeTIMES IGI GUNUiKAKa TIMES IGI GUNUsNUN"),
  ("CUNEIFORM SIGN GU2 TIMES SAL PLUS TUG2",
    "vDa OVER GUD LUGALoPLUS GISH TIMES TAK4uTIMES A PLUS KURkKURlLbMa TIMES SHElRa7bUNbSHgHAa" ++
    " GUNUeTENUa GUNUkLcIa TIMES ASHa OVER HI TIMES ASHs2eBADdDISHeGADdKINdNUNdSHEdUjUaB2a TIME" ++
    "S ANcHALdKASKALgLISHeUDlL2cSHeIa AcBbDIMa OVER IDIM BURdSQUAREDvGaIa DIBdGUNU"),
  ("CUNEIFORM SIGN IGI OVER IGI SHIR OVER SHIR UD OVER UD",
    "biRIfLa TIMES GAN2 TENUq2cMa CROSSING IMlOPPOSING IMlSQUAREDhTIMES TAK4lINdNbRbSHdKAa TIME" ++
    "S AaDa PLUS KU3kNSHEeSH2b3eBADbLAGdRcIbUcERIN2eSH2eGAaLbN2 TENUhRa PLUS SHA3 PLUS AtIaR2cS" ++
    "Ha CROSSING GISHnPLUS SARmUaDbR7eHI TIMES ASH2nIGIcMcKAaKcIaDdLIbUaMdMEa PLUS DUcGI"),
  ("CUNEIFORM SIGN KA TIMES ME PLUS TE",
    "jIa PLUS NUNUZnNEbUNdPAbIcRUcSAaRcHAbEbIDcUaLdIGcUHURfTARcUcUa U Ue2bDbMUM TIMES PAmRa2cSH" ++
    "dZIj2a CROSSING KA2oBbD2b3b4b5a OVER KAD5mKa TIMES IGI GUNUqLa CROSSING KALmTIMES BADlM2b4" ++
    "cP ELAMITEjSKALa LAGAB TIMES U OVER LAGAB TIMES U"),
  ("CUNEIFORM SIGN KASKAL OVER KASKAL LAGAB TIMES U OVER LAGAB TIMES U",
    "byESH2eIa TIMES BADdUaDjDbNbSALcHbIM5a OVER KISIM5rUa OVER HI TIMES ASH2 KU OVER HI TIMES" ++
    " ASH2bp3b4a VARIANT FORMo7bLa GUNUgNbRa OPPOSING KURoSHU2fWU318gLAaGABa SQUAREDhTIMES Aa P" ++
    "LUS DA PLUS HAkGARdLALjLbNbSH ZIDA TENUnBADcIcDARdENcGAaRcIbUDa PLUS GUDmHAaL"),
  ("CUNEIFORM SIGN LAGAB TIMES HI TIMES NUN",
    "mIGI GUNUhMa PLUS HAcLUkKIaNcU3bLa PLUS HI PLUS AsLAGABeISHdUaLdMEa PLUS ENjUSHeNEcSHE PLU" ++
    "S SUMkITA PLUS GISH PLUS ERIN2kTENUsU2a PLUS SHU2nUMdTAGbK4dE PLUS A PLUS SU PLUS NAzUa PL" ++
    "US AbU PLUS Uo2 PLUS ASHkDbSHdZU OVER ZUsRa GUNUa OVER LAGAR GUNU SHEyTIMES SHE"),
  ("CUNEIFORM SIGN LAGAR TIMES SHE PLUS SUM",
    "wHSHUeK-003c21b5c30c50b1c62c79 OVER LAK-079 GUNUu80b1 OVER LAK-081p92d130c42d210b9c20b5b8c" ++
    "38c65b6d343b7b8c83b4c90d441b9a TIMES GUcIGIdPAP PLUS LU3dPAP PLUS LU3vU2 PLUS BAt50b7c70c8" ++
    "3c90b2b3b5d550d608c17a TIMES ASHdBADdDUN3 GUNU GUNUoKU3dLAcTARcEcU2bDbRUDAo36c48"),
  ("CUNEIFORM SIGN LAK-648 TIMES DUB",
    "dGAcIGIa GUNUiNIcPAP PLUS PAP PLUS LU3vSHESH PLUS KInUDbRUDAp724c49fLa TIMES LALlMa TIMES" ++
    " KURa PLUS RUuIaLbMMU2eSHdUa TIMES BADk2a CROSSING LU2mGUNU TIMES ASHoOPPOSING LU2mSHESHIG" ++
    "a TIMES BADqQUAREDhTENUdIMES ALcBADdDISHeESH2a PLUS LALiTENUjGAN2 TENUjHAL"),
  ("CUNEIFORM SIGN LU2 TIMES HI TIMES BAD",
    "mIMcKAD2b3a PLUS ASHmIcLA PLUS ASHjGABfME PLUS ENkNEbUcPAPa PLUS PAP PLUS LU3vSHUcI PLUS A" ++
    "SHjK2 PLUS BUmTAK4dUG2m3bGALa OPPOSING LUGALnVER LUGALkSHESHIGlHbLbMa OVER LUMa GAR OVER G" ++
    "ARzMAa GUNUeTIMES TAK4l2bHbRbSHa2eEaSaHdIa PLUS ZA7jNcUa OVER MUiGa GUNUgNSUBeRGU2"),
  ("CUNEIFORM SIGN MUSH",
    "a CROSSING MUSHnOVER MUSHa TIMES A PLUS NAjGAcKAKtTIMES AbKURdZAj3a GUNUeTIMES Aa PLUS DIj" ++
    "DIcZAoNAa2b4bGAa INVERTEDiOPPOSING NAGAnTIMES SHU TENUpRdMa NUTILLUi2dEa SHESHIGhTIMES AbU" ++
    "DkIa TIMES Ei2bMa TIMES GAN2 TENUhR PLUS GAN2 TENUbaNa9bDA2a TIMES ANbSHa PLUS ASH"),
  ("CUNEIFORM SIGN NINDA2 TIMES BAL",
    "dDIM GUNUiGIaSHdUDbLdHIcKESH2fLAK-050hMASHdE PLUS GAN2 TENUrNEbUNdPAP PLUS PAPmSHEa PLUS A" ++
    " ANdSHa PLUS ASHvUa PLUS Uh2 PLUS ASHkRUDAeSHoSAGeUa11a OVER NU11 BUR OVER BURwROTATED NIN" ++
    "ETY DEGREESwTENUhNa CROSSING NUNa LAGAR OVER LAGARbdLAGAR TIMES GARdMASHeSAL"),
  ("CUNEIFORM SIGN NUN LAGAR TIMES SAL OVER NUN LAGAR TIMES SAL",
    "bcUSHpOVER NUNiTENUfUZa AB2 TIMES ASHGABgBIcDUGdGUDdIGI GUNUiKAD3eLAcNEcSILA3fU2mKISIM5 TI" ++
    "MES BIa UxPAaDbNbPcESH2a ASTERISKnIa CROSSING PIlTIMES AaBcBIbUcEbIaBcUa2jR2bIGa OPPOSING" ++
    " PIRIGoTIMES KALdUDcZAoRAaBcIbUcSAaGa GUNUa TIMES HAnNUTILLUhOVER SAGiTIMES AbDUaBdEN"),
  ("CUNEIFORM SIGN SAG TIMES HA",
    "cIGI GUNUiKAKcURdLUMdMIcNUNdSALcHE AT LEFTjIDeTABbK4eU2bBbMbRbSHlLa LAGAB TIMES ASH2sNGA2e" ++
    "RcHAa3a TIMES AbBADdGISHeNEcSHU2eTURdUa PLUS Aq6a TENUgB6cR2dEa HUcOVER SHEa GAD OVER GAD" ++
    " GAR OVER GARzTAB OVER TAB GAR OVER GARbiPLUS HUB2eNAM2eSARjG9cNbSHa2bLAMgIDa TIMES A"),
  ("CUNEIFORM SIGN SHID TIMES IM",
    "kMa TIMES AbBALcULUGfDINdGARdIGIa GUNUiKUSHU2gLULdMUGdSALlNIGdRa OVER SHIR BUR OVER BURwTE" ++
    "NUgTAdUa OVER INVERTED SHUs2a PLUS DUG TIMES NImE2 TIMES ANsBURfIa GUNUeTIMES TAK4lGa4a OV" ++
    "ER SIG4 SHU2rK2cLA3eUa OVER SUiDa2cHURdMaASHeRa9eTAa ASTERISKiGUNUeTIMES HIcMIjB"),
  ("CUNEIFORM SIGN TAB OVER TAB NI OVER NI DISH OVER DISH",
    "biSQUAREDjGa TIMES BIcGUDdSHEbUdTUG2eUDkK4a PLUS SAGlRcEa GUNUgIa TENUf2bLbRa OVER TIRa GA" ++
    "D OVER GAD GAR OVER GARbiTIMES TAK4nUaG2cKbMa TIMES GAN2 TENUjTHREE DISHsRa OVER TUR ZA OV" ++
    "ER ZAxUa GUDdOVER U PA OVER PA GAR OVER GARxSUR OVER SURmU REVERSED OVER U REVERSED"),
  ("CUNEIFORM SIGN U U",
    "a Ue2bBbDa GUNUeKUSHU2gSHESHIGa TIMES BADrTIMES BADdMIcU PLUS U PLUS Ua GUNUbbUGdMa TIMES" ++
    " LAGABfMEa PLUS DAkSHA3eUiBINdUMa TIMES KASKALgPAmNa GUNUgRa CROSSING URlSHESHIGi2a INVERT" ++
    "EDiTIMES A PLUS HAcNAiLcHAcNUNdU2a PLUS ASHdBIjDk4bIa3cUa TIMES AaSHGABgBARdDARA3eUN"),
  ("CUNEIFORM SIGN URU TIMES GA",
    "aLbN2 TENUhRcUcHAcIGIcMbSHdKIcLAK-668gU3bMdMINdPAcSHEcIG4eTUcU PLUS GUDjDbRUDAmDAa TIMES U" ++
    "mSHa TIMES AbKUaRdTAK4l2bUMXdXdTUKIeZ3a TIMES KASKALoUdZAa SQUARED TIMES KURrTENUf7bGbMXdE" ++
    "2cIa OVER ZIi3bBa KABA TENUlGbZ2dUa OVER ZU PLUS SARr5a TIMES AbTHREE DISH TENUxBUR"),
  ("CUNEIFORM SIGN ZUM",
    "qP ON BLACK SQUAREpWITH STRAWlCAKEeIDOeRLING STONEjY BRACKET EXTENSIONrLOGICAL ANDdORiOPhR" ++
    "ENCY EXCHANGEiSIGNjY AND RICElVED STEM PARAGRAPH SIGN ORNAMENTbhSTARDdOMSfT OF MEATkYCLONE" ++
    "fLINDRICITYkPRIOT SYLLABLE AbEbIbJAbOcKAbEbIbObUcLAbEbIbObUcMAbEbIbObUcNAbEbIbObUcO"),
  ("CYPRIOT SYLLABLE PA",
    "bEbIbObUcRAbEbIbObUcSAbEbIbObUcTAbEbIbObUcUbWAbEbIbOcXAbEcZAbOpO-MINOAN SIGN CM001b2b4b5b6" ++
    "b7b8b9c10b1b2aBc3b5b7b9c21b3b4b5b6b7b8b9c30b3b4b5b6b7b8b9c40b1b4b6b7b9c50b1b2b3b4b5b6b8b9c" ++
    "60b1b2b3b4b6b7b8b9c70b1b2b3b4b5aBc6b8b9c80b1b2b3b4b5b6b7b8b9c90b1b2b4b5b6b7b8b9d100"),
  ("CYPRO-MINOAN SIGN CM101",
    "b2b3b4b5b7b8b9c10b2b4d301b2vRILLIC CAPITAL LETTER Aa WITH BREVEfDIAERESISpBKHASIAN CHEa WI" ++
    "TH DESCENDERsDZEdHAlLEUT KAiBARRED Oa WITH DIAERESISvSHKIR KAjEbIG YUSfNOCULAR OkLENDED YU" ++
    "SkROAD OMEGAkYELORUSSIAN-UKRAINIAN IyCCHEdHEa WITH DESCENDERiIAERESIS"),
  ("CYRILLIC CAPITAL LETTER CHE WITH VERTICAL STROKE",
    "xLOSED LITTLE YUSqROSSED OjDCHEdEbJEaRVeOUBLE MONOCULAR OlOhWEcZEaLOdHEcWEcZEbHEfEa WITH D" ++
    "IAERESISpFbLa WITH DESCENDERjHOOKeMIDDLE HOOKlTAILlMa WITH TAILlNa WITH DESCENDERjHOOKeLEF" ++
    "T HOOKjMIDDLE HOOKlTAILlRa WITH TICKlSa WITH DESCENDERrFITAeGHEa WITH DESCENDER"),
  ("CYRILLIC CAPITAL LETTER GHE WITH MIDDLE HOOK",
    "lSTROKEa AND HOOKpUPTURNoJEdHAa WITH DESCENDERjHOOKeSTROKEmRD SIGNiWEdIa WITH DIAERESISjGR" ++
    "AVEfMACRONmEa WITH BREVEfGRAVEmOaTAbIFIED AbBIG YUShCLOSED LITTLE YUSrEbLITTLE YUSkYATlZHI" ++
    "TSAa WITH DOUBLE GRAVE ACCENTbgJEcKAa WITH DESCENDERjHOOKeSTROKEgVERTICAL STROKE"),
  ("CYRILLIC CAPITAL LETTER KHAKASSIAN CHE",
    "nJEcOMI DEbJEcZJEeLJEdNJEdSJEdTJEdZJEgPPAeSIdLHAcITTLE YUSjJEdMONOCULAR OhGRAPH UKmNEUTRAL" ++
    " YERkJEdOa WITH DIAERESISpMEGAa WITH TITLOpTcPEa WITH DESCENDERjMIDDLE HOOKsSIdQAcREVERSED" ++
    " DZEdTSEdYUcZEkHAcOUND OMEGAlSCHWAa WITH DIAERESIStEMISOFT SIGNmHAbCHAdHA"),
  ("CYRILLIC CAPITAL LETTER SHHA WITH DESCENDER",
    "rORT Ia WITH TAILlUfWEdOFT DEcELbMcSIGNiTRAIGHT Ua WITH STROKEwTCHEdEa WITH DESCENDERjMIDD" ++
    "LE HOOKsSEbHEcSEcWEdWEdUa WITH DIAERESISiOUBLE ACUTEmMACRONmKaRAINIAN IEmVEcWEcYAaEbTcERUa" ++
    " WITH BACK YERiDIAERESISsIbNbUcZEa WITH DESCENDERiIAERESISpMLYAfHEa WITH BREVE"),
  ("CYRILLIC CAPITAL LETTER ZHE WITH DESCENDER",
    "iIAERESISqWEkIGATURE A IEeEN GHEgTE TSExKAVYKAgLETTER MULTIOCULAR OnPALOCHKAiSMALL CAPITAL" ++
    " ELxPAYEROKhSMALL LETTER Aa WITH BREVEfDIAERESISpBKHASIAN CHEa WITH DESCENDERsDZEdHAlLEUT" ++
    " KAiBARRED Oa WITH DIAERESISvSHKIR KAjEbIG YUSfNOCULAR OkLENDED YUSkROAD OMEGA"),
  ("CYRILLIC SMALL LETTER BYELORUSSIAN-UKRAINIAN I",
    "yCCHEdHEa WITH DESCENDERiIAERESISjVERTICAL STROKExLOSED LITTLE YUSqROSSED OjDCHEdEbJEaRVeO" ++
    "UBLE MONOCULAR OlOhWEcZEaLOdHEcWEcZEbHEfEa WITH DIAERESISpFbLa WITH DESCENDERjHOOKeMIDDLE" ++
    " HOOKlTAILlMa WITH TAILlNa WITH DESCENDERjHOOKeLEFT HOOKjMIDDLE HOOKlTAILlR"),
  ("CYRILLIC SMALL LETTER ER WITH TICK",
    "lSa WITH DESCENDERrFITAeGHEa WITH DESCENDERjMIDDLE HOOKlSTROKEa AND HOOKpUPTURNoJEdHAa WIT" ++
    "H DESCENDERjHOOKeSTROKEmRD SIGNiWEdIa WITH DIAERESISjGRAVEfMACRONmEa WITH BREVEfGRAVEmOaTA" ++
    "bIFIED AbBIG YUShCLOSED LITTLE YUSrEbLITTLE YUSkYATlZHITSAa WITH DOUBLE GRAVE ACCENT"),
  ("CYRILLIC SMALL LETTER JE",
    "cKAa WITH DESCENDERjHOOKeSTROKEgVERTICAL STROKEwHAKASSIAN CHEnJEcOMI DEbJEcZJEeLJEdNJEdSJE" ++
    "dTJEdZJEgPPAeSIdLHAcITTLE YUSjJEcONG-LEGGED DEoMONOCULAR OhGRAPH UKmNARROW OhEUTRAL YERkJE" ++
    "dOa WITH DIAERESISpMEGAa WITH TITLOpTcPALOCHKAhEa WITH DESCENDERjMIDDLE HOOKsSIdQA"),
  ("CYRILLIC SMALL LETTER REVERSED DZE",
    "dTSEdYUcZEkHAcOUND OMEGAgED VEkSCHWAa WITH DIAERESIStEMISOFT SIGNmHAbCHAdHAa WITH DESCENDE" ++
    "RrORT Ia WITH TAILlUfWEdOFT DEcELbMcSIGNiTRAIGHT Ua WITH STROKEwTALL HARD SIGNjTEcYAThCHEd" ++
    "Ea WITH DESCENDERjMIDDLE HOOKsHREE-LEGGED TEoSEbHEcSEcWEdWEdUa WITH DIAERESIS"),
  ("CYRILLIC SMALL LETTER U WITH DOUBLE ACUTE",
    "mMACRONmKaRAINIAN IElNBLENDED UKmVEcWEbIDE EShYAaEbTcERUa WITH BACK YERiDIAERESISsIbNbUcZE" ++
    "a WITH DESCENDERiIAERESISpMLYAfHEa WITH BREVEfDESCENDERiIAERESISqWEkIGATURE A IEeEN GHEgTE" ++
    " TSEvTHOUSANDS SIGNxDAGGERa KNIFEfWITH LEFT GUARDkRIGHT GUARDvLET SYMBOLkNCERdGO"),
  ("DARK SHADE",
    "eUNGLASSESnSH SYMBOLgWITH LEFT UPTURNrED LOW LINEiOVERLINEiTRIANGLE-HEADED RIGHTWARDS ARRO" ++
    "WblTA LINK ESCAPEpC1b2b3b4bScEAF PERSONjCIDUOUS TREEkMAL EXPONENT SYMBOLpSEPARATOR KEY SYM" ++
    "BOLzREASE FONT SIZE SYMBOLxERcGREE CELSIUShFAHRENHEITkSIGNjLaETEdIVERY TRUCK"),
  ("DELTA EQUAL TO",
    "mNTISTRY SYMBOL LIGHT DOWN AND HORIZONTALa WITH CIRCLEgTRIANGLEiWAVEbdUP AND HORIZONTALa W" ++
    "ITH CIRCLEgTRIANGLEiWAVEbbVERTICAL AND BOTTOM LEFTeRIGHTmTOP LEFTeRIGHTjWAVEiWITH CIRCLEgT" ++
    "RIANGLEbrPARTMENT STOREoRELICT HOUSE BUILDINGvSCENDING NODEmERET CAPITAL LETTER AY"),
  ("DESERET CAPITAL LETTER BEE",
    "dCHEEeDEEdEFbLbMbNaGcRbSaHcTHcWcGAYdHbJEEdKAYdLONG AaHcEbIbOaOhOIbWcPEEdSHORT AaHcEbIbOaOi" ++
    "TEEcHEEeVEEdWUcYEEdZEEcHEEtSMALL LETTER AYcBEEdCHEEeDEEdEFbLbMbNaGcRbSaHcTHcWcGAYdHbJEEdKA" ++
    "YdLONG AaHcEbIbOaOhOIbWcPEEdSHORT AaHcEbIbOaOiTEEcHEEeVEEdWUcYEEdZEEcHEEuTa ISLAND"),
  ("DESKTOP COMPUTER",
    "iWINDOWmVANAGARI ABBREVIATION SIGNqCUTE ACCENTmCARETfDANDAeIGIT EIGHTfFIVEdOUReNINEeONEdSE" ++
    "VENeIXdTHREEeWOdZEROjOUBLE DANDAmGAP FILLERjRAVE ACCENTmHEADSTROKEkJAIN OMhLETTER AaAbIbUb" ++
    "WbYcBAbBAcHAdCAaNDRA AbEbOhHAdDAbDAbDAbHAdHAdHAdEbFAcGAbGAcHAbHAdLOTTAL STOPmHA"),
  ("DEVANAGARI LETTER HEAVY YA",
    "iIaIcJAbHAcJAdKAbHAbHAeLAbLAbLAeMAaRWARI DDAlNAbGAcNAbNAdYAdOaEbOEdPAbHAdQAcRAbHAcRAdSAbHA" ++
    "bORT AbEbOgSAdTAbHAcTAbHAeUaEbUaEdVAbOCALIC LaLcRaRkYAbYAdZAbHAkOMcSIGN ANUSVARAhVAGRAHAiC" ++
    "ANDRABINDUa AVAGRAHAiTHREEeWOdVIRAMAsDOUBLE CANDRABINDU VIRAMAzHIGH SPACING DOT"),
  ("DEVANAGARI SIGN INVERTED CANDRABINDU",
    "uNUKTAfPUSHPIKAiSIDDHAMgPACING CANDRABINDUtVIRAMAeSARGAlTRESS SIGN ANUDATTAiUDATTAsVOWEL S" ++
    "IGN AAbIbUbWbYcCANDRA EbLONG EgOiEbIaIcOaEbOEdPRISHTHAMATRA EpSHORT EbOhUaEbUaEdVOCALIC La" ++
    "LcRaRbdICE CONTROL FOUReONEdSTRINGgTHREEeWOrIAERESISgMETER SIGNjOND OPERATOR"),
  ("DIAMOND SHAPE WITH A DOT INSIDE",
    "xTARGETgWITH BOTTOM HALF BLACKrLEFT HALF BLACKpRIGHT HALF BLACKqTOP HALF BLACKzE FACE-1b2b" ++
    "3b4b5b6hSEL LOCOMOTIVEpFFERENCE BETWEENqGIT EIGHTa COMMAfFULL STOPpFIVEa COMMAfFULL STOPnO" ++
    "URa COMMAfFULL STOPoNINEa COMMAfFULL STOPoONEa COMMAfFULL STOPnSEVENa COMMA"),
  ("DIGIT SEVEN FULL STOP",
    "oIXa COMMAfFULL STOPnTHREEa COMMAfFULL STOPoWOa COMMAfFULL STOPnZEROa COMMAfFULL STOPrRAM" ++
    " FOR EARTHaLY HEAVENfUMANnGREATER YANGdINlHEAVENLY EARTHnUMAN EARTHlLESSER YANGdINtMENSION" ++
    " ORIGINoNGBAT CIRCLED SANS-SERIF DIGIT EIGHTfFIVEdOUReNINEeONEdSEVENeIXdTHREEeWOdZERO"),
  ("DINGBAT CIRCLED SANS-SERIF NUMBER TEN",
    "bdNEGATIVE CIRCLED DIGIT EIGHTfFIVEdOUReNINEeONEdSEVENeIXdTHREEeWOjNUMBER TENkSANS-SERIF D" ++
    "IGIT EIGHTfFIVEdOUReNINEeONEdSEVENeIXdTHREEeWOdZEROkNUMBER TENbsRECT CURRENT SYMBOL FORM T" ++
    "WOxHITiSABLED CARiPPOINTED BUT RELIEVED FACErFACEoCONTINUOUS UNDERLINE SYMBOL"),
  ("DISGUISED FACE",
    "mTTO MARKiVES AKURU DIGIT EIGHTfFIVEdOUReNINEeONEdSEVENeIXdTHREEeWOdZEROjOUBLE DANDAmEND O" ++
    "F TEXT MARKqGAP FILLERkINITIAL RAkLETTER AaAcBAbHAdCAbHAdDAbDAbHAdHAdEbGAbHAdHAcIaIcJAcKAb" ++
    "HAdLAbLAdMAcNAbGAcNAcYAdObPAbHAdRAcSAbHAcSAdTAbHAcTAdUaUcVAcYAbYAdZAjMEDIAL RAcYA"),
  ("DIVES AKURU PREFIXED NASAL SIGN",
    "tSIGN ANUSVARAiCANDRABINDUlHALANTAhNUKTAkVIRAMAfOWEL SIGN AAbIcEbIaIcObUaUwIDESdNG MASKhSI" ++
    "ON SIGNdLASHfTIMESlORCE SYMBOLmYA LAMPhZZY FACEeSYMBOLlLEcNA DOUBLE HELIXpO NOT LITTER SYM" ++
    "BOLsCUMENTa WITH PICTUREhTEXTa AND PICTUREbcDOcES NOT CONTAIN AS MEMBER"),
  ("DOES NOT CONTAIN AS NORMAL SUBGROUP",
    "a OR EQUALbjDIVIDEa WITH REVERSED NEGATION SLASHbjFORCEfPRECEDEa OR EQUALoOVEfSUCCEEDa OR" ++
    " EQUALxGa FACEfRA ABBREVIATION SIGNrLETTER AaAbIbUcBAbHAdCAbHAdDAbDAbHAdHAdEbGAbHAdHAcIaIc" ++
    "JAbHAdKAbHAdLAcMAcNAbGAcNAcYAdObPAbHAdRAbRAdSAbHAcSAdTAbHAcTAbHAeUaUcVAcYA"),
  ("DOGRA SIGN ANUSVARA",
    "iNUKTAfVIRAMAeSARGAmVOWEL SIGN AAbIbUcEbIaIcObUaUcVOCALIC RaRzLLAR SIGNiPHINfMINO TILE HOR" ++
    "IZONTAL BACKf-00-00b1b2b3b4b5b6e1-00b1b2b3b4b5b6e2-00b1b2b3b4b5b6e3-00b1b2b3b4b5b6e4-00b1b" ++
    "2b3b4b5b6e5-00b1b2b3b4b5b6e6-00b1b2b3b4b5b6qVERTICAL BACKf-00-00b1b2b3b4b5b6e1-00b1"),
  ("DOMINO TILE VERTICAL-01-02",
    "b3b4b5b6e2-00b1b2b3b4b5b6e3-00b1b2b3b4b5b6e4-00b1b2b3b4b5b6e5-00b1b2b3b4b5b6e6-00b1b2b3b4b" ++
    "5b6yNG SIGNhORcT ABOVEfMINUSfOPERATORiPLUSfTED CIRCLEfROSSfFENCEfLINE FACEjOBELOSgRIGHT-PO" ++
    "INTING ANGLEuSOLIDUSgQUAREgTRANSPOSITION MARKERzUBLE ACUTE ACCENT"),
  ("DOUBLE CIRCLED DIGIT EIGHT",
    "fFIVEdOUReNINEeONEdSEVENeIXdTHREEeWOjNUMBER TENrOLON EQUALkURLY LOOPkDAGGERfOWN TACKjEXCLA" ++
    "MATION MARKqHIGH-REVERSED-9 QUOTATION MARKbdYPHENgINTEGRALeRSECTIONmLEFT ARC GREATER-THAN" ++
    " BRACKETbcOGICAL ANDdORiW LINEf-9 QUOTATION MARKqREVERSED-9 QUOTATION MARK"),
  ("DOUBLE NESTED GREATER-THAN",
    "mLESS-THANa WITH UNDERBARbeOBLIQUE HYPHENoPLUSdRECEDESgIMEa QUOTATION MARKuQUESTION MARKnR" ++
    "IGHT ARC LESS-THAN BRACKETbbSOLIDUS OPERATORpQUARE INTERSECTIONmUNIONlTACKED COMMAlROKE NO" ++
    "T SIGNoUBSETeCCEEDSgPERSETgSPENSION MARKpUNIONeP TACKhVERTICAL BAR"),
  ("DOUBLE VERTICAL BAR DOUBLE LEFT TURNSTILE",
    "oRIGHT TURNSTILEwLEFT TURNSTILEsLINEnWAVY OVERLINEo-ENDED MULTIMAPoLINE EQUAL TO OR GREATE" ++
    "R-THANmLESS-THANvSLANTED EQUAL TO OR GREATER-THANmLESS-THANvGREATER-THAN OR EQUAL TOyLESS-" ++
    "THAN OR EQUAL TObiSTRUCK CAPITAL CbGAMMAfHbNbPaIcQbRbZjITALIC CAPITAL DjSMALL DbEbI"),
  ("DOUBLE-STRUCK ITALIC SMALL J",
    "oN-ARY SUMMATIONpSMALL GAMMAfPIqD FEMALE SIGNlMALE SIGNjSYMBOLlGHNUTgVE OF PEACElWN ARROWH" ++
    "EADjFISH TAILjRIGHT DIAGONAL ELLIPSISxTACKa WITH CIRCLE BELOWx-POINTING RED TRIANGLEmSMALL" ++
    " RED TRIANGLEsTRIANGLE WITH LEFT HALF BLACKpRIGHT HALF BLACKboWARD FACING HOOK"),
  ("DOWNWARD FACING HOOK WITH DOT",
    "nNOTCHED HOOKa WITH DOTbdS ANCORAfRROWa AND RIGHT ONE EIGHTH BLOCKbaFROM BARiLEFTWARDS OF" ++
    " UPWARDS ARROWbaTO BARgWITH CORNER LEFTWARDSqDOUBLE STROKEnEQUILATERAL ARROWHEADvHORIZONTA" ++
    "L STROKErLARGE TRIANGLE ARROWHEADyMEDIUM TRIANGLE ARROWHEADzNOTCHED TAIL"),
  ("DOWNWARDS ARROW WITH SMALL EQUILATERAL ARROWHEAD",
    "vTRIANGLE ARROWHEADyTIP LEFTWARDSjRIGHTWARDSzBLACK ARROWfCIRCLED WHITE ARROWzCOMPRESSED AR" ++
    "ROWqDASHED ARROWlOUBLE ARROWmFINGER-POST ARROWrHARPOON WITH BARB LEFT BESIDE DOWNWARDS HAR" ++
    "POON WITH BARB RIGHTbhUPWARDS HARPOON WITH BARB RIGHTbmFROM BARiTO BARhWARDS"),
  ("DOWNWARDS HARPOON WITH BARB RIGHT FROM BAR",
    "iTO BARhWARDSbbEAVY ARROWfCOMPRESSED ARROWwPAIRED ARROWSnQUADRUPLE ARROWpROCKETgSANS-SERIF" ++
    " ARROWpQUARED ARROWnTRIANGLE ARROWHEADk-HEADED ARROWa LEFTWARDS OF UPWARDS TRIANGLE-HEADED" ++
    " ARROWbqTO BARgWITH BOLD SHAFTkDOUBLE HORIZONTAL STROKEyHEAVY SHAFT"),
  ("DOWNWARDS TRIANGLE-HEADED ARROW WITH LONG TIP LEFTWARDS",
    "jRIGHTWARDStMEDIUM SHAFTmNARROW SHAFTmVERY HEAVY SHAFTbbDASHED ARROWmPAIRED ARROWSnZIGZAG" ++
    " ARROWzPLE ARROWlWO HEADED ARROWn-HEADED ARROW WITH TRIANGLE ARROWHEADSbpWHITE ARROWa WITH" ++
    "IN TRIANGLE ARROWHEADblZIGZAG ARROWvRACHMA SIGNjFTING POINT RIGHTWARDS ARROWbcGON"),
  ("DRAGON FACE",
    "jESSdIVE SLOW SIGNnOMEDARY CAMELmOLING FACEkP OF BLOODjLETfUM WITH DRUMSTICKStUCKcMPLINGgP" ++
    "LOYAN AFFIX ATTACHED E HOOKgI HOOKgLEFT-TO-RIGHT SECANTuSECANTgTAILcNGENTa HOOKvHIGH ACUTE" ++
    "fCIRCLEgDOTdGRAVEfLINEdONG GRAVEkTIGHT ACUTElVERTICALa SECANTpWAVE"),
  ("DUPLOYAN AFFIX LEFT HORIZONTAL SECANT",
    "vOW ACUTEeRROWfCIRCLEgDOTdGRAVEfLINEdONG GRAVEkTIGHT ACUTElVERTICALa SECANTpWAVEiMID HORIZ" ++
    "ONTAL SECANTrVERTICAL SECANTtRIGHT HORIZONTAL SECANTbdDOUBLE MARKlLETTER AaOUdBbDa ScHcEaE" ++
    "bUcFa NdGa R SfHaLcIaEcJa Ma SdNa SdSa WITH DOTkWITH DOTaS INSIDE AND ABOVEbcKa M"),
  ("DUPLOYAN LETTER K R S",
    "eKcLaHbONG IbUgMa Na SdSbWITH DOTkNa Ma SdSbWITH DOTjASAL AbIbObUhOaAbOHcUbWcPa NcERNIN AM" ++
    "bNjRa ScHbOMANIAN IbUkSa Ja SdKa RdMbNbPa RdSbTa RdWITH DOTa BELOWpHORT IgLOAN ANcDHcEEbHb" ++
    "NcJbONbWcUhTa R SdScHcUa NcHbIcVaOCALIC MjWa RcAbEIcHbIbOaWdXaWcYE"),
  ("DUPLOYAN PUNCTUATION CHINOOK FULL STOP",
    "bdSIGN O WITH CROSSrTHICK LETTER SELECTORbdVDdE-MAIL SYMBOLmAGLEdRa OF MAIZEfRICEhWITH HEA" ++
    "RING AIDrTHa GLOBE AMERICAShSIA-AUSTRALIAoEUROPE-AFRICAsROUNDkST SYRIAC CROSSqDITORIAL COR" ++
    "ONISqGGbYPTIAN HIEROGLYPH A001b2b3b4b5aAc6aAbBc7b8b9c10b1b2b3b4aAc5b6b7aAc8b9c20b1b2"),
  ("EGYPTIAN HIEROGLYPH A023",
    "b4b5b6b7b8b9c30b1b2aAc3b4b5b6b7b8b9c40aAc1b2aAc3aAc4b5aAc6b7b8b9c50b1b2b3b4b5b6b7b8b9c60b1" ++
    "b2b3b4b5b6b7b8b9c70dA001b2b3b4b5b6b7aAbBc8b9c10b1b2b3b4b5b6b7b8b9c20b1b2b3b4b5b6b7b8b9c30b" ++
    "1b2fB001b2b3b4b5aAc6b7b8b9dEGIN SEGMENTnC001b2aAbBbCc3b4b5b6b7b8b9c10aAc1b2b3b4b5b6"),
  ("EGYPTIAN HIEROGLYPH C017",
    "b8b9c20b1b2b3b4eD001b2b3b4b5b6b7b8aAc9c10b1b2b3b4b5b6b7b8b9c20b1b2b3b4b5b6b7aAc8b9c30b1aAc" ++
    "2b3b4aAc5b6b7b8b9c40b1b2b3b4b5b6aAc7b8aAc9c50aAbBbCbDbEbFbGbHbIc1b2aAc3b4aAc5b6b7b8b9c60b1" ++
    "b2b3b4b5b6b7aAbBbCbDbEbFbGbHfE001b2b3b4b5b6b7b8aAc9aAd10b1b2b3b4b5b6aAc7aAc8b9c20aA"),
  ("EGYPTIAN HIEROGLYPH E021",
    "b2b3b4b5b6b7b8aAc9c30b1b2b3b4aAc6b7b8dND SEGMENTlF001aAc2b3b4b5b6b7b8b9c10b1b2b3aAc4b5b6b7" ++
    "b8b9c20b1aAc2b3b4b5b6b7b8b9c30b1aAc2b3b4b5b6b7aAc8aAc9c40b1b2b3b4b5aAc6aAc7aAc8b9c50b1aAbB" ++
    "bCc2b3eG001b2b3b4b5b6aAc7aAbBc8b9c10b1aAc2b3b4b5b6b7b8b9c20aAc1b2b3b4b5b6aAc7b8b9c30"),
  ("EGYPTIAN HIEROGLYPH G031",
    "b2b3b4b5b6aAc7aAc8b9c40b1b2b3aAc4b5aAc6b7b8b9c50b1b2b3b4eH001b2b3b4b5b6aAc7b8dORIZONTAL JO" ++
    "INERrI001b2b3b4b5aAc6b7b8b9aAd10aAc1aAc2b3b4b5dNSERT AT BOTTOM ENDdSTARTmTOP ENDdSTARTtK00" ++
    "1b2b3b4b5b6b7b8eL001b2aAc3b4b5b6aAc7b8eM001aAbBc2b3aAc4b5b6b7b8b9c10aAc1b2aAbBbCbDbE"),
  ("EGYPTIAN HIEROGLYPH M012F",
    "bGbHc3b4b5aAc6aAc7aAc8b9c20b1b2aAc3b4aAc5b6b7b8aAc9c30b1aAc2b3aAbBc4b5b6b7b8b9c40aAc1b2b3b" ++
    "4eN001b2b3b4b5b6b7b8b9c10b1b2b3b4b5b6b7b8aAbBc9c20b1b2b3b4b5aAc6b7b8b9c30b1b2b3aAc4aAc5aAc" ++
    "6b7aAc8b9c40b1b2dL001b2b3b4b5aAc6b7b8b9c10b1b2b3b4b5b6b7aAc8b9c20eU001b2b3b4b5b6b7b8"),
  ("EGYPTIAN HIEROGLYPH NU009",
    "c10aAc1aAc2b3b4b5b6b7b8aAc9c20b1b2aAgO001aAc2b3b4b5aAc6aAbBbCbDbEbFc7b8b9c10aAbBbCc1b2b3b4" ++
    "b5b6b7b8b9aAd20aAc1b2b3b4aAc5aAc6b7b8b9aAd30aAc1b2b3aAc4b5b6aAbBbCbDc7b8b9c40b1b2b3b4b5b6b" ++
    "7b8b9c50aAbBc1dVERLAY MIDDLEoP001aAc2b3aAc4b5b6b7b8b9c10b1eQ001b2b3b4b5b6b7eR001b2aA"),
  ("EGYPTIAN HIEROGLYPH R003",
    "aAbBc4b5b6b7b8b9c10aAc1b2b3b4b5b6aAc7b8b9c20b1b2b3b4b5b6b7b8b9eS001b2aAc3b4b5b6aAc7b8b9c10" ++
    "b1b2b3b4aAbBc5b6b7aAc8b9c20b1b2b3b4b5b6aAbBc7b8b9c30b1b2b3b4b5aAc6b7b8b9c40b1b2b3b4b5b6eT0" ++
    "01b2b3aAc4b5b6b7aAc8aAc9aAd10b1aAc2b3b4b5b6aAc7b8b9c20b1b2b3b4b5b6b7b8b9c30b1b2aAc3"),
  ("EGYPTIAN HIEROGLYPH T033A",
    "c4b5b6eU001b2b3b4b5b6aAbBc7b8b9c10b1b2b3b4b5b6b7b8b9c20b1b2b3aAc4b5b6b7b8b9aAd30b1b2aAc3b4" ++
    "b5b6b7b8b9c40b1b2eV001aAbBbCbDbEbFbGbHbIc2aAc3b4b5b6b7aAbBc8b9c10b1aAbBbCc2aAbBc3b4b5b6b7b" ++
    "8b9c20aAbBbCbDbEbFbGbHbIbJbKbLc1b2b3aAc4b5b6b7b8aAc9aAd30aAc1aAc2b3aAc4b5b6b7aAc8b9"),
  ("EGYPTIAN HIEROGLYPH V040",
    "aAeERTICAL JOINERpW001b2b3aAc4b5b6b7b8b9aAd10aAc1b2b3b4aAc5b6b7aAc8aAc9c20b1b2b3b4aAc5eX00" ++
    "1b2b3b4aAbBc5b6aAc7b8aAfY001aAc2b3b4b5b6b7b8eZ001b2aAbBbCbDc3aAbBc4aAc5aAc6b7b8b9c10b1b2b3" ++
    "b4b5aAbBbCbDbEbFbGbHbIc6aAbBbCbDbEbFbGbHyIGHT PETALLED OUTLINED BLACK FLORETTE"),
  ("EIGHT POINTED BLACK STAR",
    "kPINWHEEL STARnRECTILINEAR BLACK STARbeSPOKED ASTERISKpTEARDROP-SPOKED PROPELLER ASTERISKb" ++
    "jH NOTEkJECT SYMBOLlLBASAN LETTER AbBEcCEbHEdDEbHEdEaIcFEcGEbHAMMAeEcJEdHEcIbJEcKEbHEdLEbL" ++
    "EdMEcNAbDEcEbJEdObPEcQEcREbREdSEbHEdTEbHEdUbVEcXEcYbZEbHEqECTRIC ARROWfLIGHT BULB"),
  ("ELECTRIC PLUG",
    "eTORCHgAL INTERSECTIONuMENT OFa OPENING DOWNWARDSjUPWARDSpWITH DOT ABOVEjLONG HORIZONTAL S" ++
    "TROKEwOVERBARhTWO HORIZONTAL STROKESwUNDERBARiVERTICAL BAR AT END OF HORIZONTAL STROKEcbPH" ++
    "ANTfVATORgFbYMAIC LETTER ALEPHeYINeBETHeDALETHgGIMELfHEaTHeKAPHeLAMEDHgMEMdNUNdPE"),
  ("ELYMAIC LETTER QOPH",
    "eRESHeSADHEdMEKHfHINeTAWcETHeWAWdYODHeZAYINlIGATURE ZAYIN-YODHbaM DASHeQUADeSPACEgOJI COMP" ++
    "ONENT BALDeCURLY HAIRkRED HAIRiWHITE HAIRuMODIFIER FITZPATRICK TYPE-1-2d3b4b5b6bfPHASIS SY" ++
    "MBOLmTY DOCUMENTiNESTdOTEa PADbGEjPAGEaSfSETa WITH LEFT ARROW ABOVEqOVERBAR"),
  ("EMPTY SET WITH RIGHT ARROW ABOVE",
    "rSMALL CIRCLE ABOVEbgN DASHeQUADeSPACEgD OF GUARDED AREAmLINEeMEDIUMgPROOFcTECTED AREAoSEL" ++
    "ECTED AREAnTEXTdRANSMISSIONa BLOCKvWITH LEFTWARDS ARROW ABOVEbcQaUIRYfTER SYMBOLkVELOPEa W" ++
    "ITH DOWNWARDS ARROW ABOVEvLIGHTNINGwOLbMbTcPAcQUAL AND PARALLEL TOpTO BY DEFINITION"),
  ("EQUAL TO OR GREATER-THAN",
    "mLESS-THANjPRECEDESiSUCCEEDSpS COLONfSIGNa ABOVE LEFTWARDS ARROWpPLUS SIGNjRIGHTWARDS ARRO" ++
    "WqTILDE OPERATORtND SLANTED PARALLELa WITH TILDE ABOVEblWITH BUMPY ABOVElDOT BELOWjINFINIT" ++
    "Y BELOWoTWO DOTS ABOVE AND TWO DOTS BELOWbrWITH ASTERISKrIANGULAR TOkVALENT TO"),
  ("EQUIVALENT WITH FOUR DOTS ABOVE",
    "beRASE TO THE LEFTeRIGHTqIS FORM ONEdTWOlROR-BARRED BLACK CIRCLEgDIAMONDhSQUAREmWHITE CIRC" ++
    "LEgDIAMONDhSQUAREySAbCaAPEeTIMATED SYMBOLiSiTBbHIOPIC COLONdMBINING GEMINATION AND VOWEL L" ++
    "ENGTH MARKvMARKpVOWEL LENGTH MARKyMAfDIGIT EIGHTfFIVEdOUReNINEeONEdSEVENeIXdTHREEeWO"),
  ("ETHIOPIC FULL STOP",
    "jNUMBER EIGHTYgFIFTYeORTYfHUNDREDhNINETYgSEVENTYgIXTYfTENa THOUSANDlHIRTYfWENTYnPARAGRAPH" ++
    " SEPARATORsREFACE COLONnQUESTION MARKnSECTION MARKkMICOLONiYLLABLE BAaAcBAaAcEaEcIbObUcEaE" ++
    "cIbOaAcUbWAbEaEcIdCAaAcCAaAcEaEcHAaAcEaEcHAaAcEaEcIbObUcIbObUcIbObUcEaEcHAaAcEaEcIbO"),
  ("ETHIOPIC SYLLABLE CHOA",
    "cUbWAdIbOaAcUbWAdDAaAcDAaAcEaEcHAAcEaEcIbObUcIbOaAcUbWAdEaEcIbOaAcUbWAcZAAcEaEcIbObUdFAaAc" ++
    "EaEcIbObUbWAbEaEcIcYAdGAaAcEaEcGAaAcEaEcIbObUbWAaAcEaEcIdIbLOTTAL AaAcEaEcIbOaAcUbWAjOaAcU" ++
    "aRAGE BWEEcIdFWEEcIdGWEaEcIdHHWAeKWEaEcIdMWEEcIdPWEEcIdQWEaEcIjWAaAcEaEcIcYAaAcEaEcI"),
  ("ETHIOPIC SYLLABLE GYO",
    "bUdHAaAcEaEcHAaAcEaEcIbObUbWAbEaEcIcYAaAcEaEcIbObUdIbOaAcUcJAaAcEaEcIbOaAcUbWAdKAaAcEaEcIb" ++
    "OaAcUbWAaAcEaEcIcXAaAcEaEcIbObUbWAaAcEaEcIdYAaAcEaEcIbObUdLAaAcEaEcIbOaAcUbWAdMAaAcEaEcIbO" ++
    "aAcUbWAbEaEcIcYAdNAaAcEaEcIbOaAcUbWAcYAaAcEaEcIbOaAcUbWAePAaAcEaEcHAaAbRYNGEAL AaAcE"),
  ("ETHIOPIC SYLLABLE PHARYNGEAL EE",
    "cIbObUkEaEcIbOaAcUbWAdIbOaAcUbWAbEaEcIdQAaAcEaEcHAaAcEaEcIbObUbWAaAcEaEcIdIbOaAcUbWAaAcEaE" ++
    "cIcYAaAcEaEcIbObUdRAaAcEaEcIbOaAcUbWAcYAdSAaAcEaBATBEIT BWAdFWAdMWAdPWAlEcHAaAcEaEcIbOaAcU" ++
    "bWAdIbOaAcSAaAcEaEcIbObUcUbWAcZAaAcEaEcIbObUbWAeTAaAcEaEcHAaAcEaEcIbOaAcUbWAdIbOaA"),
  ("ETHIOPIC SYLLABLE TSA",
    "aAcEaEcIbObUbWAdTHAAcEaEcIbObUdUbWAcZAaAcEaEcIbOaAcUdVAaAcEaEcIbObUbWAdWAaAcEaEcIbOaAcUcXA" ++
    "aAcEaEcIbOaAcUbWAaAcEaEcIcYAaAcEaEcIbObUdYAaAcEaEcIbOaAcUcZAaAcEaEcHAaAcEaEcIbObUbWAdIbOaA" ++
    "cUbWAcZAaAcEaEcIbObUmTONAL MARK CHIRETgDERETa-HIDETkIFATfHIDETfKENATeURTeRIKRIK"),
  ("ETHIOPIC TONAL MARK SHORT RIKRIK",
    "mYIZETqWORDSPACEqXcULER CONSTANTmRO SIGNf-CURRENCY SIGNoPEAN CASTLEgPOST OFFICEtVERGREEN T" ++
    "REEnXCESSdLAMATION MARKeQUESTION MARKxPRESSIONLESS FACErTENDED ARABIC-INDIC DIGIT EIGHTfFI" ++
    "VEdOUReNINEeONEdSEVENeIXdTHREEeWOdZERObdRATERRESTRIAL ALIEN"),
  ("EXTREMELY HEAVY FIVE SPOKED ASTERISK",
    "uGREEK CROSSlSALTIREgIX SPOKED ASTERISKtWHITE CIRCLEgSQUAREbbYEaGLASSEShSeFACE HOLDING BAC" ++
    "K TEARSsMASSAGEhPALMeSAVOURING DELICIOUS FOODxCREAMING IN FEARrTHROWING A KISSpWITH COLD S" ++
    "WEATiWBOY HATkDIAGONAL MOUTHoFINGER COVERING CLOSED LIPSbbHEAD-BANDAGE"),
  ("FACE WITH LOOK OF TRIUMPH",
    "pMEDICAL MASKlONOCLEhNO GOOD GESTUREpOK GESTUREjNE EYEBROW RAISEDrPEN EYES AND HAND OVER M" ++
    "OUTHyMOUTHa AND COLD SWEAToVOMITINGtPARTY HORN AND PARTY HATxEEKING EYEkLEADING EYESnROLLI" ++
    "NG EYESmSTUCK-OUT TONGUEa AND TIGHTLY-CLOSED EYEStWINKING EYEbgTEARS OF JOY"),
  ("FACE WITH THERMOMETER",
    "lUNEVEN EYES AND WAVY MOUTHbbOUT MOUTHpSIMILE SIGNlTORYfIRYdLAFELeLEN LEAFhING DIAGONAL CR" ++
    "OSSING NORTH EAST ARROWqRISING DIAGONALyIN WHITE CIRCLE IN BLACK SQUAREbuMILYeRSI SYMBOLkT" ++
    "HER CHRISTMASoX ICONeMACHINEkEARFUL FACEjTHERfMALE SIGNiININE ORDINAL INDICATORyNCER"),
  ("FERRIS WHEEL",
    "iYeFbIELD HOCKEY STICK AND BALLzGURE DASHeSPACEkLE CABINEThFOLDERgSEPARATORlM FRAMESgPROJE" ++
    "CTORmNITE PART INTEGRALsREa ENGINEfXTINGUISHERnCRACKERhWORK SPARKLERjSgST PLACE MEDALlQUAR" ++
    "TER MOONa SYMBOLgWITH FACEwSTRONG ISOLATEsSHa CAKE WITH SWIRL DESIGNxEYE"),
  ("FISHING POLE AND FISH",
    "sTED HAND SIGNoVE DOT MARKePUNCTUATIONtLAG IN HOLEjMINGOfT SHOEfBREADfNESSgEUR-DE-LISjXED" ++
    " BICEPSlOPPY DISKiRAL HEARTjWERa PLAYING CARDSmUNCTUATION MARKvUSHED FACEkYaING DISCeENVEL" ++
    "OPEiSAUCERmOGaGYdLDEReNDUEeOTaPRINTSiR ALLeCESdK AND KNIFEa WITH PLATEvED PARAGRAPHOS"),
  ("FORKING",
    "eM FEEDgTUNE COOKIEmUNTAINfR BALLOON-SPOKED ASTERISKxCLUB-SPOKED ASTERISKtORNER ARROWS CIR" ++
    "CLING ANTICLOCKWISEbkDOT MARKePUNCTUATIONpLEAF CLOVERlPOINTED BLACK STARsTEARDROP-SPOKED A" ++
    "STERISKz-PER-EM SPACEnTH ROOTjX FACEhRACTION NUMERATOR ONEnSLASHlME WITH AN X"),
  ("FRAME WITH PICTURE",
    "hTILESoEEZING FACEkNCH FRANC SIGNiIESkIED SHRIMPkOG FACEgNT-FACING BABY CHICKrTILTED SHADO" ++
    "WED WHITE RIGHTWARDS ARROWbpWNaING FACE WITH OPEN MOUTHbcSaIcUEL PUMPhLL BLOCKfMOON SYMBOL" ++
    "gWITH FACEoOUTER JOINkSTOPfWIDTH AMPERSANDiPOSTROPHEjSTERISKiBROKEN BARkCENT SIGN"),
  ("FULLWIDTH CIRCUMFLEX ACCENT",
    "qOLONdMMAbERCIAL ATnDIGIT EIGHTfFIVEdOUReNINEeONEdSEVENeIXdTHREEeWOdZEROjOLLAR SIGNlEQUALS" ++
    " SIGNkXCLAMATION MARKqFULL STOPjGRAVE ACCENTkEATER-THAN SIGNrHYPHEN-MINUSmLATIN CAPITAL LE" ++
    "TTER AbBbCbDbEbFbGbHbIbJbKbLbMbNbObPbQbRbSbTbUbVbWbXbYbZqSMALL LETTER AbBbCbDbEbFbG"),
  ("FULLWIDTH LATIN SMALL LETTER H",
    "bIbJbKbLbMbNbObPbQbRbSbTbUbVbWbXbYbZtEFT CURLY BRACKETnPARENTHESISlSQUARE BRACKEToWHITE PA" ++
    "RENTHESISuSS-THAN SIGNnOW LINEiMACRONgNOT SIGNhUMBER SIGNlPERCENT SIGNlLUS SIGNiOUND SIGNk" ++
    "QUESTION MARKlOTATION MARKoREVERSE SOLIDUSoIGHT CURLY BRACKETnPARENTHESIS"),
  ("FULLWIDTH RIGHT SQUARE BRACKET",
    "oWHITE PARENTHESISxSEMICOLONiOLIDUShTILDEfVERTICAL LINEnWON SIGNiYEN SIGNqNCTION APPLICATI" ++
    "ONrERAL URNjSEdVS1b2b3b4eGAME DIEgRLICfEARa WITH HANDLESiOUT HUBoM STONEgINIeNIEdOMETRIC P" ++
    "ROPORTIONlALLY EQUAL TOfIVALENT TOyRGIAN CAPITAL LETTER AENcNcBANdCANcHARcINdILdDON"),
  ("GEORGIAN CAPITAL LETTER EN",
    "cGANcHANeHAEbRcEbIEcOEdINcJHANdILdKANcHAReLASdMANdNARdONcPARcHAReQARdRAEdSANcHINeTANbRdUNc" ++
    "VINdWEcXANdYNcZENcHARtLETTER AENcINcNcBANdCANcHARcINdILdDONdELIFIeNcFIcGANcHANeHAEbRaD SIG" ++
    "NiEbIEcOEdINcJHANdILdKANcHAReLABIAL SIGNjSdMANdNARdONcPARcHAReQARdRAEdSANcHINeTANbR"),
  ("GEORGIAN LETTER TURNED GAN",
    "kUNcVINdWEcXANdYNcZENcHARlMTAVRULI CAPITAL LETTER AENcINcNcBANdCANcHARcINdILdDONdELIFIeNcF" ++
    "IcGANcHANeHAEbRaD SIGNiEbIEcOEdINcJHANdILdKANcHAReLABIAL SIGNjSdMANdNARdONcPARcHAReQARdRAE" ++
    "dSANcHINeTANbRcURNED GANkUNcVINdWEcXANdYNcZENcHARbcPARAGRAPH SEPARATOR"),
  ("GEORGIAN SMALL LETTER AEN",
    "cNcBANdCANcHARcINdILdDONdENcGANcHANeHAEbRcEbIEcOEdINcJHANdILdKANcHAReLASdMANdNARdONcPARcHA" ++
    "ReQARdRAEdSANcHINeTANbRdUNcVINdWEcXANdYNcZENcHARyRMAN PENNY SIGNpTA MARKiHOSTeIMEL SYMBOLk" ++
    "RAFFE FACEjLaS SYMBOLlLAGOLITIC CAPITAL LETTER AZUdBIG YUSgUKYeCAUDATE CHRIVInHRIVI"),
  ("GLAGOLITIC CAPITAL LETTER DJERVI",
    "fOBROeZELOfFITAdRITUfGLAGOLIhHERUeIaNITIAL IZHElOTATED BIG YUShSMALL YUSqZHEbITSAhKAKOeLAT" ++
    "INATE MYSLITEpJUDIJEhMYSLITEhNASHIfONUcTUdPEbOKOJIgRITSIfSHAbTAaPICgLOVOeMALL YUSa WITH TA" ++
    "ILsPIDERY HAkTROKUTASTI AlSIcVRIDOgUKUdVEDEeYATIdERIbUcSTUeObUcZEMLJAfHIVETE"),
  ("GLAGOLITIC SMALL LETTER AZU",
    "dBIG YUSgUKYeCAUDATE CHRIVInHRIVIgDJERVIfOBROeZELOfFITAdRITUfGLAGOLIhHERUeIaNITIAL IZHElOT" ++
    "ATED BIG YUShSMALL YUSqZHEbITSAhKAKOeLATINATE MYSLITEpJUDIJEhMYSLITEhNASHIfONUcTUdPEbOKOJI" ++
    "gRITSIfSHAbTAaPICgLOVOeMALL YUSa WITH TAILsPIDERY HAkTROKUTASTI AlSIcVRIDOgUKUdVEDE"),
  ("GLAGOLITIC SMALL LETTER YATI",
    "dERIbUcSTUeObUcZEMLJAfHIVETEbcSS OF MILKlEICH STARKkOBE WITH MERIDIANSrVESdWING STARlOAL N" ++
    "ETfTcGGLESfLFEReRILLAfTHIC LETTER AHSAdIHVUSgBAIRKANhDAGSeEISdFAIHUfGIBAeHAGLdWAIRfIGGWSeU" ++
    "JAeJERdKUSMAfLAGUSfMANNAfNAUTHSfINE HUNDREDiTYgOTHALfPAIRTHRAiQAIRTHRAiRAIDAfSAUIL"),
  ("GOTHIC LETTER TEIWS",
    "eHIUTHgURUSeWINJAsRADUATION CAPlNTHA AU LENGTH MARKoLETTER AaAbIbUcBAbHAdCAbHAdDAbDAbHAdHA" ++
    "dEEcGAbHAdHAcIaIcJAbHAdKAbHAdLAbLAdMAcNAbGAcNAcYAdOOcPAbHAdRAcSAbHAcSAdTAbHAcTAbHAeUaUcVAb" ++
    "EDIC ANUSVARAiDOUBLE ANUSVARAuOCALIC LaLcRaRkYAjOMcSIGN ANUSVARAhVAGRAHAiCANDRABINDU"),
  ("GRANTHA SIGN COMBINING ANUSVARA ABOVE",
    "yNUKTAfPLUTAfVIRAMAeSARGAmVOWEL SIGN AAbIbUcEEcIaIcOOcUaUcVOCALIC LaLcRaRbaPESdVE ACCENTkE" ++
    "ATER-THAN ABOVE DOUBLE-LINE EQUAL ABOVE LESS-THANbhLESS-THAN ABOVE DOUBLE-LINE EQUALbhRIGH" ++
    "TWARDS ARROWqSIMILAR ABOVE LESS-THANpOR EQUAL"),
  ("GREATER-THAN ABOVE SLANTED EQUAL ABOVE LESS-THAN ABOVE SLANTED EQUAL",
    "ccND NOT APPROXIMATEpSINGLE-LINE NOT EQUAL TObcBESIDE LESS-THANpUT NOT EQUAL TOfIVALENT TO" ++
    "vCLOSED BY CURVEa ABOVE SLANTED EQUALbjEQUAL TO OR LESS-THANvOR APPROXIMATElEQUAL TOfIVALE" ++
    "NT TOnLESS-THANjSLANTED EQUAL TOa WITH DOT ABOVEa LEFTkINSIDEbiVER EQUAL TO"),
  ("GREATER-THAN OVERLAPPING LESS-THAN",
    "vSIGNeWITH CIRCLE INSIDEnDOTdQUESTION MARK ABOVEbiEK ACROPHONIC ATTIC FIFTYa STATERShTALEN" ++
    "TSgHOUSANDa STATERSuVEa HUNDREDa STATERShTALENTSpSTATERShTALENTSgHOUSANDa TALENTSvONE DRAC" ++
    "HMAhHALFdUNDRED STATERShTALENTSpQUARTERhTHOUSAND STATERShTALENTSuTEN MNASeSTATERS"),
  ("GREEK ACROPHONIC ATTIC TEN TALENTS",
    "gHOUSAND STATERSbaCARYSTIAN FIVE HUNDREDvYRENAIC TWO DRACHMASvDELPHIC FIVE MNASrEPIDAUREAN" ++
    " FIVE HUNDREDmTWOa DRACHMASxHERAEUM ONE PLETHRONrMIONIAN FIFTYfONEdTENoMESSENIAN TENnNAXIA" ++
    "N FIVE HUNDREDtSTRATIAN FIFTY MNAStTHESPIAN FIFTYdVE HUNDREDhTHOUSANDnONEa HUNDRED"),
  ("GREEK ACROPHONIC THESPIAN ONE THOUSAND",
    "mTENcHIRTYeREE HUNDREDmWOlROEZENIAN FIFTYa ALTERNATE FORMsVEa HUNDREDmTENa ALTERNATE FORMb" ++
    "nNO TELEIAjROURA SIGNjTABE SIGNlBETA SYMBOLlCAPITAL DOTTED LUNATE SIGMA SYMBOLbaKAI SYMBOL" ++
    "kLETTER ALPHAa WITH DASIAa AND OXIAa AND PROSGEGRAMMENIxPERISPOMENI"),
  ("GREEK CAPITAL LETTER ALPHA WITH DASIA AND PERISPOMENI AND PROSGEGRAMMENI",
    "bdROSGEGRAMMENIoVARIAa AND PROSGEGRAMMENIbiMACRONgOXIAePROSGEGRAMMENInSILIa AND OXIAa AND" ++
    " PROSGEGRAMMENIxPERISPOMENIa AND PROSGEGRAMMENIbdROSGEGRAMMENIoVARIAa AND PROSGEGRAMMENIbi" ++
    "TONOSfVARIAeRACHYqRCHAIC SAMPInBETAeCHIdDELTAfEPSILONa WITH DASIAa AND OXIAeVARIA"),
  ("GREEK CAPITAL LETTER EPSILON WITH OXIA",
    "ePSILIa AND OXIAeVARIApTONOSfVARIArTAa WITH DASIAa AND OXIAa AND PROSGEGRAMMENIxPERISPOMEN" ++
    "Ia AND PROSGEGRAMMENIbdROSGEGRAMMENIoVARIAa AND PROSGEGRAMMENIbiOXIAePROSGEGRAMMENInSILIa" ++
    " AND OXIAa AND PROSGEGRAMMENIxPERISPOMENIa AND PROSGEGRAMMENIbdROSGEGRAMMENIoVARIA"),
  ("GREEK CAPITAL LETTER ETA WITH PSILI AND VARIA AND PROSGEGRAMMENI",
    "biTONOSfVARIAoGAMMAfHETAeIOTAa WITH DASIAa AND OXIAePERISPOMENIlVARIAoIALYTIKAjMACRONgOXIA" ++
    "ePSILIa AND OXIAePERISPOMENIlVARIApTONOSfVARIAeRACHYqKAPPAfLAMDAfMUcNUcOMEGAa WITH DASIAa" ++
    " AND OXIAa AND PROSGEGRAMMENIxPERISPOMENIa AND PROSGEGRAMMENIbdROSGEGRAMMENIoVARIA"),
  ("GREEK CAPITAL LETTER OMEGA WITH DASIA AND VARIA AND PROSGEGRAMMENI",
    "biOXIAePROSGEGRAMMENInSILIa AND OXIAa AND PROSGEGRAMMENIxPERISPOMENIa AND PROSGEGRAMMENIbd" ++
    "ROSGEGRAMMENIoVARIAa AND PROSGEGRAMMENIbiTONOSfVARIAoICRONa WITH DASIAa AND OXIAeVARIApOXI" ++
    "AePSILIa AND OXIAeVARIApTONOSfVARIAsPAMPHYLIAN DIGAMMArHIcIbSIdRHOa WITH DASIAoSAN"),
  ("GREEK CAPITAL LETTER SHO",
    "cIGMAfTAUcHETAfUPSILONa WITH DASIAa AND OXIAePERISPOMENIlVARIAoIALYTIKAjMACRONgOXIAeTONOSf" ++
    "VARIAeRACHYtXIcYOTdZETAkUNATE SIGMA SYMBOLtREVERSED DOTTED LUNATE SIGMA SYMBOLbaLUNATE SIG" ++
    "MA SYMBOLbcTHETA SYMBOLuDASIAa AND OXIAePERISPOMENIlVARIAoIALYTIKA AND OXIA"),
  ("GREEK DIALYTIKA AND PERISPOMENI",
    "lVARIAjTONOSoRACHMA SIGNmFIVE OBOLS SIGNoOUR OBOLS SIGNpGRAMMA SIGNlINDICTION SIGNmSTRUMEN" ++
    "TAL NOTATION SYMBOL-1a1b2b3b4b7b8b9c2a3b4b5b6b7b9c30b2b6b7b8b9c4a0b2b3b5b7b8b9c5a0b1b2b3b4" ++
    "c7b8beKAI SYMBOLiPPA SYMBOLlORONISgYATHOS BASE SIGNrLETTER ARCHAIC KOPPAnDIGAMMA"),
  ("GREEK LETTER KOPPA",
    "fSAMPIeMALL CAPITAL GAMMAfLAMDAfOMEGAfPIbSIdRHOqTIGMAgYOTjITRA SIGNjOWER NUMERAL SIGNrUNAT" ++
    "E EPSILON SYMBOLoSIGMA SYMBOLtMETRETES SIGNmUSICAL LEIMMAoNUMERAL SIGNmOBOL SIGNiNE HALF S" ++
    "IGNa ALTERNATE FORMyQUARTER SIGNpUNKIA SIGNkXIAePERISPOMENIkHI SYMBOLjI SYMBOL"),
  ("GREEK PROSGEGRAMMENI",
    "nSILIa AND OXIAePERISPOMENIlVARIApQUESTION MARKnREVERSED LUNATE EPSILON SYMBOLbdHO SYMBOLg" ++
    "WITH STROKE SYMBOLwSINUSOID SIGNmMALL DOTTED LUNATE SIGMA SYMBOLbaLETTER ALPHAa WITH DASIA" ++
    "a AND OXIAa AND YPOGEGRAMMENIwPERISPOMENIa AND YPOGEGRAMMENIbdVARIA"),
  ("GREEK SMALL LETTER ALPHA WITH DASIA AND VARIA AND YPOGEGRAMMENI",
    "xYPOGEGRAMMENIxMACRONgOXIAa AND YPOGEGRAMMENIwPERISPOMENIa AND YPOGEGRAMMENIbcSILIa AND OX" ++
    "IAa AND YPOGEGRAMMENIwPERISPOMENIa AND YPOGEGRAMMENIbdVARIAa AND YPOGEGRAMMENIxYPOGEGRAMME" ++
    "NIxTONOSfVARIAa AND YPOGEGRAMMENIwRACHYgYPOGEGRAMMENIxRCHAIC KOPPAfSAMPInBETAeCHI"),
  ("GREEK SMALL LETTER DELTA",
    "eIGAMMAhEPSILONa WITH DASIAa AND OXIAeVARIApOXIAePSILIa AND OXIAeVARIApTONOSfVARIArTAa WIT" ++
    "H DASIAa AND OXIAa AND YPOGEGRAMMENIwPERISPOMENIa AND YPOGEGRAMMENIbdVARIAa AND YPOGEGRAMM" ++
    "ENIxYPOGEGRAMMENIxOXIAa AND YPOGEGRAMMENIwPERISPOMENIa AND YPOGEGRAMMENIbcSILI"),
  ("GREEK SMALL LETTER ETA WITH PSILI AND OXIA",
    "a AND YPOGEGRAMMENIwPERISPOMENIa AND YPOGEGRAMMENIbdVARIAa AND YPOGEGRAMMENIxYPOGEGRAMMENI" ++
    "xTONOSfVARIAa AND YPOGEGRAMMENIxYPOGEGRAMMENIwFINAL SIGMAlGAMMAfHETAeIOTAa WITH DASIAa AND" ++
    " OXIAePERISPOMENIlVARIAoIALYTIKAa AND OXIAePERISPOMENIlTONOSfVARIAtMACRONgOXIA"),
  ("GREEK SMALL LETTER IOTA WITH PERISPOMENI",
    "kSILIa AND OXIAePERISPOMENIlVARIApTONOSfVARIAeRACHYqKAPPAeOPPAfLAMDAfMUcNUcOMEGAa WITH DAS" ++
    "IAa AND OXIAa AND YPOGEGRAMMENIwPERISPOMENIa AND YPOGEGRAMMENIbdVARIAa AND YPOGEGRAMMENIxY" ++
    "POGEGRAMMENIxOXIAa AND YPOGEGRAMMENIwPERISPOMENIa AND YPOGEGRAMMENIbcSILIa AND OXIA"),
  ("GREEK SMALL LETTER OMEGA WITH PSILI AND OXIA AND YPOGEGRAMMENI",
    "wPERISPOMENIa AND YPOGEGRAMMENIbdVARIAa AND YPOGEGRAMMENIxYPOGEGRAMMENIxTONOSfVARIAa AND Y" ++
    "POGEGRAMMENIxYPOGEGRAMMENIwICRONa WITH DASIAa AND OXIAeVARIApOXIAePSILIa AND OXIAeVARIApTO" ++
    "NOSfVARIAsPAMPHYLIAN DIGAMMArHIcIbSIdRHOa WITH DASIAfPSILIoSAMPIdNcHOcIGMAeTIGMAgTAU"),
  ("GREEK SMALL LETTER THETA",
    "fUPSILONa WITH DASIAa AND OXIAePERISPOMENIlVARIAoIALYTIKAa AND OXIAePERISPOMENIlTONOSfVARI" ++
    "AtMACRONgOXIAePERISPOMENIkSILIa AND OXIAePERISPOMENIlVARIApTONOSfVARIAeRACHYtXIcZETAlREVER" ++
    "SED DOTTED LUNATE SIGMA SYMBOLbaLUNATE SIGMA SYMBOLbhUBSCRIPT SMALL LETTER BETAeCHI"),
  ("GREEK SUBSCRIPT SMALL LETTER GAMMA",
    "fPHIdRHOzYMBOL TAU RHOoTALENT SIGNkHETA SYMBOLkREE OBOLS SIGNkQUARTERS SIGNsONOSeRYBLION B" ++
    "ASE SIGNrWO OBOLS SIGNkTHIRDS SIGNpUPSILON WITH ACUTE AND HOOK SYMBOLvDIAERESIS AND HOOK S" ++
    "YMBOLzHOOK SYMBOLyVARIAeOCAL NOTATION SYMBOL-1a0b1b2b3b4b5b6b7b8b9c2a0b1b2b3b4c3b4b5"),
  ("GREEK VOCAL NOTATION SYMBOL-50",
    "b1b2b3b4c6b7b8b9xXESTES SIGNlYEAR SIGNiPOGEGRAMMENInZERO SIGNlN APPLEfBOOKeHEARTfSALADjIMA" ++
    "CING FACElNNING CAT FACE WITH SMILING EYESbaFACEa WITH ONE LARGE AND ONE SMALL EYEbbSMILIN" ++
    "G EYESlTAR EYESbaOUP MARKeSEPARATORmWING HEARTmSbUARANI SIGNiDSMANhIDE DOGgTAR"),
  ("GUJARATI ABBREVIATION SIGN",
    "rDIGIT EIGHTfFIVEdOUReNINEeONEdSEVENeIXdTHREEeWOdZEROkLETTER AaAbIbUcBAbHAdCAbHAdDAbDAbHAd" ++
    "HAdEbGAbHAdHAcIaIcJAbHAdKAbHAdLAbLAdMAcNAbGAcNAcYAdObPAbHAdRAcSAbHAcSAdTAbHAcTAbHAeUaUcVAb" ++
    "OCALIC LaLcRaRkYAcZHAkOMcRUPEE SIGNkSIGN ANUSVARAhVAGRAHAiCANDRABINDU"),
  ("GUJARATI SIGN CIRCLE NUKTA ABOVE",
    "sMADDAHgNUKTAfSHADDAfUKUNfTHREE-DOT NUKTA ABOVEuWO-CIRCLE NUKTA ABOVEwVIRAMAeSARGAmVOWEL C" ++
    "ANDRA EbOiSIGN AAbIbUcCANDRA EbOiEbIaIcObUaUcVOCALIC LaLcRaRbcNJALA GONDI DIGIT EIGHTfFIVE" ++
    "dOUReNINEeONEdSEVENeIXdTHREEeWOdZEROkLETTER AaAbIbUcBAbHAdCAbHAdDAbDAbHAdHAdEEcGAbHA"),
  ("GUNJALA GONDI LETTER HA",
    "cIaIcJAbHAdKAbHAdLAbLAdMAcNAbGAdOOcPAbHAdRAcSAcTAbHAcTAbHAeUaUcVAcYAjOMcSIGN ANUSVARAiVISA" ++
    "RGAmVIRAMAfOWEL SIGN AAbIbUcEEcIaIcOOcUaUzRMUKHI ABBREVIATION SIGNqDDAKfDIGIT EIGHTfFIVEdO" ++
    "UReNINEeONEdSEVENeIXdTHREEeWOdZEROkEK ONKARiIRIdLETTER AaAbIbUcBAbHAdCAbHAdDAbDAbHA"),
  ("GURMUKHI LETTER DHA",
    "dEEcFAcGAbHAbHAeHAcIaIcJAbHAdKAbHAbHAeLAbLAdMAcNAbGAcNAcYAdOOcPAbHAdRAbRAdSAbHAdTAbHAcTAbH" ++
    "AeUaUcVAcYAcZAjSIGN ADAK BINDIkBINDIfNUKTAfUDAATfVIRAMAeSARGAhYAKASHlTIPPIfURAdVOWEL SIGN" ++
    " AAbIbUcEEcIaIcOOcUaUwHADESdIR SPACEgCUTfLFWIDTH BLACK SQUAREmDOWNWARDS ARROW"),
  ("HALFWIDTH FORMS LIGHT VERTICAL",
    "uHANGUL FILLERgLETTER AaEcCHIEUCHgIEUCfEaObUcHIEUHfIaEUNGfKHIEUKHgIYEOKa-SIOSlMIEUMfNIEUNa" ++
    "-CIEUCfHIEUHlOaEcPHIEUPHgIEUPa-SIOSkRIEULa-HIEUHfKIYEOKgMIEUMfPHIEUPHgIEUPfSIOSeTHIEUTHnSI" ++
    "OSdSANGCIEUCfKIYEOKgPIEUPfSIOSeTIKEUTlTHIEUTHgIKEUTgUbWAaEcEaOcIcYAaEcEaOcIbObU"),
  ("HALFWIDTH IDEOGRAPHIC COMMA",
    "fFULL STOPvKATAKANA LETTER AbEbHAbEbIbObUcIbKAbEbIbObUcMAbEbIbObUcNaAbEbIbObUcObRAbEbIbObU" ++
    "cSAbEbIbMALL AbEbIbObTUcUbYAbObUhObUcTAbEbIbObUcUbWAbOcYAbObUjMIDDLE DOTkSEMI-VOICED SOUND" ++
    " MARKwVOICED SOUND MARKs-HIRAGANA PROLONGED SOUND MARKbmLEFT CORNER BRACKET"),
  ("HALFWIDTH LEFTWARDS ARROW",
    "pRIGHT CORNER BRACKETpWARDS ARROWqUPWARDS ARROWnWHITE CIRCLEuMBURGERgMERa AND PICKeSICKLEg" ++
    "WRENCHoSAbTER FACEkND WITH INDEX AND MIDDLE FINGERS CROSSEDbaFINGER AND THUMB CROSSEDbkBAG" ++
    "bLLeSHAKEgGUL CHOSEONG CEONGCHIEUMCHIEUCHgIEUCfSIOSdSANGCIEUCfSIOStHIEUCHa-HIEUH"),
  ("HANGUL CHOSEONG CHIEUCH-KHIEUKH",
    "mTUEUMCHIEUCHgIEUCfSIOSdSANGCIEUCfSIOSqIEUCa-IEUNGlFILLERgHIEUHa-SIOSkIEUNGa-CHIEUCHgIEUCf" ++
    "HIEUHfKIYEOKgMIEUMfPANSIOSgHIEUPHgIEUPfRIEULfSIOSeTHIEUTHgIKEUTmKAPYEOUNMIEUMfPHIEUPHgIEUP" ++
    "fRIEULfSSANGPIEUPrHIEUKHgIYEOKa-TIKEUTnMIEUMa-KIYEOKgPIEUPfSIOSeTIKEUTmNIEUNa-CIEUC"),
  ("HANGUL CHOSEONG NIEUN-HIEUH",
    "fKIYEOKgPIEUPfSIOSeTIKEUTmPANSIOSgHIEUPHa-HIEUHfPIEUPmIEUPa-CHIEUCHgIEUCfHIEUHfKHIEUKHgIYE" ++
    "OKgNIEUNfPHIEUPHhSIOSa-CIEUCfKIYEOKgPIEUPfTHIEUTHgIKEUTkSANGSIOSjTHIEUTHgIKEUTmRIEULa-CIEU" ++
    "CfHIEUHfKAPYEOUNPIEUPmHIEUKHgIYEOKgMIEUMfNIEUNfPIEUPfSIOSdSANGKIYEOKgPIEUPfTIKEUT"),
  ("HANGUL CHOSEONG RIEUL-TIKEUT",
    "mSIOSa-CHIEUCHgIEUCfHIEUHfIEUNGfKHIEUKHgIYEOKgMIEUMfNIEUNfPHIEUPHgIEUPa-KIYEOKmRIEULfSSANG" ++
    "SIOSjTHIEUTHgIKEUTkSANGCIEUCa-HIEUHlHIEUHfIEUNGfKIYEOKgNIEUNfPIEUPfRIEULfSIOSa-PIEUPkTHIEU" ++
    "THgIKEUTgYEORINHIEUHqTHIEUTHgIKEUTa-CIEUCfKIYEOKgMIEUMfPIEUPfRIEULfSIOSlYEORINHIEUH"),
  ("HANGUL CHOSEONG YESIEUNG",
    "rDOUBLE DOT TONE MARKuFILLERgJONGSEONG CHIEUCHgIEUCa-PIEUPfSSANGPIEUPqHIEUHa-MIEUMfNIEUNfP" ++
    "IEUPfRIEULlIEUNGa-KHIEUKHgIYEOKgSSANGKIYEOKrKAPYEOUNMIEUMfPHIEUPHgIEUPfRIEULmHIEUKHgIYEOKa" ++
    "-CHIEUCHhHIEUHfKHIEUKHhNIEUNfPIEUPfRIEULfSIOSa-KIYEOKsMIEUMa-CHIEUCHgIEUCfHIEUH"),
  ("HANGUL JONGSEONG MIEUM-KIYEOK",
    "gNIEUNfPANSIOSgIEUPa-SIOSkRIEULfSIOSdSANGNIEUNfSIOSpNIEUNa-CHIEUCHgIEUCfHIEUHfKIYEOKgPANSI" ++
    "OShRIEULfSIOSeTHIEUTHgIKEUTmPANSIOSa-KAPYEOUNPIEUPnPIEUPmHIEUPHa-PIEUPfSIOSeTHIEUTHoIEUPa-" ++
    "CHIEUCHgIEUCfHIEUHfMIEUMfPHIEUPHhRIEULa-PHIEUPHnSIOSa-TIKEUTlTIKEUTmRIEULa-HIEUH"),
  ("HANGUL JONGSEONG RIEUL-KAPYEOUNPIEUP",
    "mHIEUKHgIYEOKa-HIEUHfSIOSlMIEUMa-HIEUHfKIYEOKgSIOSkNIEUNfPANSIOSgHIEUPHgIEUPa-HIEUHfPHIEUP" ++
    "HhSIOSeTIKEUTmSIOSdSANGKIYEOKgSIOSjTHIEUTHgIKEUTa-HIEUHmYEORINHIEUHa-HIEUHpSIEUNGoSIOSa-CH" ++
    "IEUCHgIEUCfHIEUHfKAPYEOUNPIEUPmIYEOKgMIEUMfPANSIOSgIEUPfRIEULfTHIEUTHgIKEUT"),
  ("HANGUL JONGSEONG SSANGCIEUC",
    "fIEUNGfKIYEOKgMIEUMfNIEUNfPIEUPfRIEULa-KHIEUKHnSIOSa-KIYEOKgTIKEUTlTIKEUTa-PIEUPmYESIEUNGn" ++
    "THIEUTHgIKEUTa-CHIEUCHgIEUCfKIYEOKgPIEUPfRIEULfSIOSa-KIYEOKlTHIEUTHoYEORINHIEUHjSIEUNGa-HI" ++
    "EUHfKHIEUKHgIYEOKgMIEUMfPANSIOShSIOSdSANGKIYEOKbdUNGSEONG Aa-EUcObUcEbRAEAa-AbEaOcI"),
  ("HANGUL JUNGSEONG ARAEA-U",
    "hEaOa-EUcObUdUa-AbEaObUcObUeFILLERgIa-AaRAEAfEUcIbOa-IdUbYAa-OcEcEaOcObUeOa-EaOcOa-IdUbYAa" ++
    "EcEaOeEcSSANGARAEAkUa-AaEcEO-EUfI-IdUbYEaOfWAaEcEaOcIcYAa-ObUbYOdEcEaOa-ObUbYAfIa-UdOa-AaE" ++
    "cEOcIbObYAaEcEOfUa-AaEcEaOcIbObUbYEaOqLETTER AaEbRAEAaEgCHIEUCHgIEUCfEaObUcHIEUHfI"),
  ("HANGUL LETTER IEUNG",
    "fKAPYEOUNMIEUMfPHIEUPHgIEUPfSSANGPIEUPrHIEUKHgIYEOKa-SIOSlMIEUMa-PANSIOSgIEUPfSIOSkNIEUNa-" ++
    "CIEUCfHIEUHfPANSIOShSIOSeTIKEUTmOaEcPANSIOSgHIEUPHgIEUPa-CIEUCfKIYEOKgSIOSa-KIYEOKgTIKEUTl" ++
    "THIEUTHgIKEUTmRIEULa-HIEUHfKIYEOKa-SIOSlMIEUMfPANSIOSgHIEUPHgIEUPa-SIOSkSIOSeTHIEUTH"),
  ("HANGUL LETTER RIEUL-TIKEUT",
    "gYEORINHIEUHrSIOSa-CIEUCfKIYEOKgNIEUNfPIEUPfTIKEUTkSANGCIEUCfHIEUHfIEUNGfKIYEOKgNIEUNfPIEU" ++
    "PfSIOSeTIKEUTlTHIEUTHgIKEUTgUbWAaEcEaOcIcYAaEcEaOaRINHIEUHjSIEUNGa-PANSIOShSIOSmIbOa-IbYAa" ++
    "EfUa-IbYEaOnSINGLE DOT TONE MARKxZHOU NUMERAL EIGHTfFIVEdOUReNINEeONEdSEVENeIXdTEN"),
  ("HANGZHOU NUMERAL THIRTY",
    "eREEeWENTYeOrIFI ROHINGYA DIGIT EIGHTfFIVEdOUReNINEeONEdSEVENeIXdTHREEeWOdZEROkLETTER AbBA" ++
    "cCAcDAbDAdFAcGAcHAcJAcKAbHAcINNA WAcYAiLAcMAcNAbGAcYAdPAcRAbRAdSAbHAdTAbTAdVAcWAcYAcZAjMAR" ++
    "K NA KHONNAjSAKINkSIGN HARBAHAYiTAHALAeNAcSSIkVOWEL AbEbIbObUuUNOO LETTER AbBAcDAcGA"),
  ("HANUNOO LETTER HA",
    "cIbKAcLAcMAcNAbGAdPAcRAcSAcTAcUbWAcYAjSIGN PAMUDPODnVOWEL SIGN IbUsPPY PERSON RAISING ONE" ++
    " HANDbbRD DISKhTCHING CHICKlRAN LETTER ALEPHeYNdBETHeDALETH-RESHlGIMELfHEaTHeKAPHeLAMEDHgM" ++
    "EMdNUNdPEcQOPHeSADHEdMEKHfHINeTAWcETHeWAWdYODHeZAYNlNUMBER FIVEeONEa HUNDREDlTEN"),
  ("HATRAN NUMBER TWENTY",
    "tEADPHONEfSTONEa GRAVEYARD SYMBOLxR-NO-EVIL MONKEYpT DECORATIONkHANDSfWITH ARROWfRIBBONgTI" ++
    "P ON THE LEFTxVY AMPERSAND ORNAMENTrRROW SHAFT WIDTH ONEa HALFeTHIRDjTWO THIRDSbbSTERISKiB" ++
    "ALLOT XhLACK CURVED DOWNWARDS AND RIGHTWARDS ARROWbeUPWARDS AND RIGHTWARDS ARROW"),
  ("HEAVY BLACK HEART",
    "g-FEATHERED NORTH EAST ARROWqRIGHTWARDS ARROWqSOUTH EAST ARROWbgCHECK MARKhVRON SNOWFLAKEq" ++
    "IRCLEa WITH CIRCLE INSIDEnSTROKE AND TWO DOTS ABOVEbfD SALTIREoONCAVE-POINTED BLACK RIGHTW" ++
    "ARDS ARROWbmDASHED TRIANGLE-HEADED RIGHTWARDS ARROWbmIVISION SIGNmOLLAR SIGN"),
  ("HEAVY DOUBLE COMMA QUOTATION MARK ORNAMENT",
    "bdTURNED COMMA QUOTATION MARK ORNAMENTbpWNWARDS ARROW WITH EQUILATERAL ARROWHEADvLARGE EQU" ++
    "ILATERAL ARROWHEADbwEIGHT POINTED BLACK STARkPINWHEEL STARnRECTILINEAR BLACK STARbeSPOKED" ++
    " ASTERISKpTEARDROP-SPOKED PROPELLER ASTERISKbnQUALS SIGNkXCLAMATION MARK ORNAMENT"),
  ("HEAVY EXCLAMATION MARK SYMBOL",
    "xFIVE POINTED BLACK STARsSPOKED ASTERISKtOUR BALLOON-SPOKED ASTERISKbcGREEK CROSSlHEART EX" ++
    "CLAMATION MARK ORNAMENTbeORIZONTAL FILLpINTERROBANG ORNAMENTuLARGE CIRCLEkTIN CROSSkEFT-PO" ++
    "INTING ANGLE BRACKET ORNAMENTqQUOTATION MARK ORNAMENT"),
  ("HEAVY LEFTWARDS ARROW WITH EQUILATERAL ARROWHEAD",
    "vLARGE EQUILATERAL ARROWHEADbvIGATURE OPEN ET ORNAMENTyOW DOUBLE COMMA QUOTATION MARK ORNA" ++
    "MENTbkSINGLE COMMA QUOTATION MARK ORNAMENTblER RIGHT-SHADOWED WHITE RIGHTWARDS ARROWbrMINU" ++
    "S SIGNjULTIPLICATION XqNORTH EAST ARROWfPOINTING BUDdVINE LEAFxWEST POINTING BUD"),
  ("HEAVY NORTH WEST POINTING VINE LEAF",
    "bdOPEN CENTRE CROSSqUTLINED BLACK STARsVAL WITH OVAL INSIDEvPLUS SIGNjRIGHT-POINTING ANGLE" ++
    " BRACKET ORNAMENTqQUOTATION MARK ORNAMENTbnWARDS ARROWa WITH EQUILATERAL ARROWHEADvLARGE E" ++
    "QUILATERAL ARROWHEADbwOUND-TIPPED RIGHTWARDS ARROWbdSALTIRE"),
  ("HEAVY SANS-SERIF INTERROBANG ORNAMENT",
    "beCRIPT LIGATURE ET ORNAMENTbaINGLE COMMA QUOTATION MARK ORNAMENTbdTURNED COMMA QUOTATION" ++
    " MARK ORNAMENTbpX POINTED BLACK STARsSPOKED ASTERISKsOUTH EAST ARROWfPOINTING BUDdVINE LEA" ++
    "FxWEST POINTING BUDdVINE LEAFbcPARKLEhTEARDROP-SHANKED RIGHTWARDS ARROW"),
  ("HEAVY TEARDROP-SPOKED ASTERISK",
    "iPINWHEEL ASTERISKbgRIANGLE-HEADED RIGHTWARDS ARROWbfWELVE POINTED BLACK STARkPINWHEEL STA" ++
    "RbcUPPER RIGHT-SHADOWED WHITE RIGHTWARDS ARROWbpWARDS ARROW WITH EQUILATERAL ARROWHEADvLAR" ++
    "GE EQUILATERAL ARROWHEADbuVERTICAL BARmWEDGE-TAILED RIGHTWARDS ARROWbcHITE CIRCLE"),
  ("HEAVY WHITE DOWN-POINTING TRIANGLE",
    "wSQUARElIDE-HEADED RIGHTWARDS ARROWbgBREW ACCENT ATNAH HAFUKHmDARGAeEHIeETNAHTAhGERESHa MU" ++
    "QDAMkSHAYIMjILUYeMAHAPAKHhERKHAa KEFULAmUNAHfOLEdPASHTAeZERfQADMAdRNEY PARAlREVIAfSEGOLeHA" ++
    "LSHELETkTELISHA GEDOLAgQETANAmVIReIPEHAgYERAH BEN YOMOmTIVfZAQEF GADOLfQATANjRQA"),
  ("HEBREW ACCENT ZINOR",
    "mLETTER ALEFa WITH MAPIQfPATAHfQAMATSoTERNATIVE AYINePLUS SIGNuYINeBETa WITH DAGESHgRAFEnD" ++
    "ALETa WITH DAGESHrFINAL KAFa WITH DAGESHpMEMdNUNdPEa WITH DAGESHoTSADIlGIMELa WITH DAGESHr" ++
    "HEa WITH MAPIQlTdKAFa WITH DAGESHgRAFEnLAMEDa WITH DAGESHrMEMa WITH DAGESHpNUN"),
  ("HEBREW LETTER NUN WITH DAGESH",
    "pPEa WITH DAGESHgRAFEmQOFa WITH DAGESHpRESHa WITH DAGESHqSAMEKHa WITH DAGESHrHINa WITH DAG" ++
    "ESHa AND SHIN DOThIN DOTsSHIN DOThIN DOTrTAVa WITH DAGESHoETa WITH DAGESHoSADIa WITH DAGES" ++
    "HrVAVa WITH DAGESHgHOLAMoWIDE ALEFeDALETfFINAL MEMjHEcKAFdLAMEDfRESHeTAViYOD"),
  ("HEBREW LETTER YOD WITH DAGESH",
    "gHIRIQoZAYINa WITH DAGESHxIGATURE ALEF LAMEDkYIDDISH DOUBLE VAVdYODkVAV YODhYOD YOD PATAHb" ++
    "eMARK LOWER DOTjMASORA CIRCLEnUPPER DOToPOINT DAGESH OR MAPIQpHATAF PATAHfQAMATSgSEGOLkIRI" ++
    "QeOLAMa HASER FOR VAVtJUDEO-SPANISH VARIKAuMETEGfPATAHfQAMATSa QATANlUBUTSgRAFE"),
  ("HEBREW POINT SEGOL",
    "eHEVAdIN DOThIN DOThTSEREkUNCTUATION GERESHdSHAYIMjMAQAFfNUN HAFUKHAlPASEQfSOF PASUQvYOD T" ++
    "RIANGLErDGEHOGgLICOPTERhLSCHREIBER PAUSE SYMBOLxM SYMBOLhET WITH WHITE CROSSvNTAIGANA LETT" ++
    "ER A-1b2b3bWOeE-1b2b3b4b5b6dHA-1a0b1c2b3b4b5b6b7b8b9dE-1b2b3b4b5b6b7dI-1b2b3b4b5b6b7"),
  ("HENTAIGANA LETTER HO-1",
    "b2b3b4b5b6b7b8dU-1b2b3eI-1b2b3b4dKA-1a0b1c2b3b4b5b6b7b8b9bKEeE-1b2b3b4b5b6dI-1b2b3b4b5b6b7" ++
    "b8dO-1b2b3bKIeU-1b2b3b4b5b6b7eMA-1b2b3b4b5b6b7dE-1b2bMAeI-1b2b3b4b5b6b7dO-1b2b3b4b5b6dU-1b" ++
    "2b3b4eN-MU-MO-1b2iA-1b2b3b4b5b6b7b8b9dE-1b2b3b4b5b6bKOeI-1b2b3b4b5b6b7bTEeO-1b2b3b4"),
  ("HENTAIGANA LETTER NO-5",
    "dU-1b2b3eO-1b2b3dRA-1b2b3b4dE-1b2b3b4dI-1b2b3b4b5b6b7dO-1b2b3b4b5b6dU-1b2b3b4b5b6eSA-1b2b3" ++
    "b4b5b6b7b8dE-1b2b3b4b5dI-1b2b3b4b5b6dO-1b2b3b4b5b6b7dU-1b2b3b4b5b6b7b8eTA-1b2b3b4dE-1b2b3b" ++
    "4b5b6b7b8b9dI-1b2b3b4b5b6b7dO-1b2b3b4b5b6bRAeU-1b2b3b4bTOfU-1b2b3b4b5dWA-1b2b3b4b5"),
  ("HENTAIGANA LETTER WE-1",
    "b2b3b4dI-1b2b3b4b5dO-1b2b3b4b5b6b7eYA-1b2b3b4b5bYOeO-1b2b3b4b5b6dU-1b2b3b4uRBbMITIAN CONJU" ++
    "GATE MATRIXyXAGRAM FOR ABUNDANCEiFTER COMPLETIONpPPROACHiBEFORE COMPLETIONqITING THROUGHnR" ++
    "EAKTHROUGHmCOMING TO MEETmNFLICTfTEMPLATIONnDARKENING OF THE LIGHTvECREASEgLIVERANCE"),
  ("HEXAGRAM FOR DEVELOPMENT",
    "kIFFICULTY AT THE BEGINNINGzSPERSIONjURATIONiENTHUSIASMkFELLOWSHIPjOLLOWINGjGATHERING TOGE" ++
    "THERrRACEdEAT POSSESSIONiWEReREPONDERANCEnTAMINGmHOLDING TOGETHERqINCREASEgFLUENCEhNER TRU" ++
    "THiOCENCEjLIMITATIONkMODESTYfUTH CORNERSnOBSTRUCTIONkPPOSITIONhRESSIONkPEACEeROGRESS"),
  ("HEXAGRAM FOR PUSHING UPWARD",
    "oRETREATeURNeVOLUTIONkSMALL PREPONDERANCEnTAMINGlPLITTING APARToTANDSTILLkTHE ABYSMAL WATE" ++
    "RmRMYcOUSING THUNDERqCAULDRONhLINGING FIREmREATIVE HEAVENpFAMILYgGENTLE WINDlJOYOUS LAKElK" ++
    "EEPING STILL MOUNTAINwMARRYING MAIDENpRECEPTIVE EARTHpWANDERERhELLhREADINGiWAITING"),
  ("HEXAGRAM FOR WORK ON THE DECAYED",
    "tYOUTHFUL FOLLYbaIBISCUSgGH BRIGHTNESS SYMBOLrOCTET PRESETmVOLTAGE SIGNn-HEELED SHOElSPEED" ++
    " TRAINa WITH BULLET NOSEbfKING BOOTjNDU TEMPLEkPPOPOTAMUSkRAGANA DIGRAPH YORImITERATION MA" ++
    "RKoLETTER AaRCHAIC WUcYEkBAbEbIbObUcDAbEbIbObUcEbGAbEbIbObUcHAbEbIbObUcIbKAbEbIbObU"),
  ("HIRAGANA LETTER MA",
    "bEbIbObUcNaAbEbIbObUcObPAbEbIbObUcRAbEbIbObUcSAbEbIbMALL AbEbIbKAbEcObTUcUbWAbEbIbOcYAbObU" ++
    "hObUcTAbEbIbObUcUbVUcWAbEbIbOcYAbObUcZAbEbIbObUjVOICED ITERATION MARKbcSTORIC SITEmOCHOdLE" ++
    "bLOW QUILT SQUARE ORNAMENTa IN BLACK SQUAREbqMOTHETICiNEY POTeBEEgOKcPbRIZONTAL BAR"),
  ("HORIZONTAL BLACK HEXAGON",
    "hOCTAGONnELLIPSISiLINE EXTENSIONoMALE WITH STROKE SIGNvONE EIGHTH BLOCK-1358e2b3b4b5b6b7sS" ++
    "CAN LINE-1b3b7b9lTAB KEYeULATIONa SETdWITH JUSTIFICATIONbcRAFFIC LIGHTvSEa FACEeRACINGkSPI" ++
    "TALgT BEVERAGEiDOGdPEPPERgSPRINGSiELdURGLASSa WITH FLOWING SANDySEa BUILDINGaS"),
  ("HOUSE WITH GARDEN",
    "qRYVNIA SIGNlTaJbScUGGING FACEkNDRED POINTS SYMBOLtSHED FACEjTcYGIEAePHENa BULLETgWITH DIA" ++
    "ERESISp-MINUSgATION POINToODIASTOLEkSTERESIS SYMBOLrI LOVE YOU HAND SIGNtCE CREAMeUBEeHOCK" ++
    "EY STICK AND PUCKvSKATEiDENTICAL TOa AND SLANTED PARALLELxWITH DOT ABOVE"),
  ("IDENTIFICATION CARD",
    "qOGRAPHIC ANNOTATION BOTTOM MARKlEARTH MARKkFIRST MARKjOUR MARKfTH MARKlHEAVEN MARKlLINKIN" ++
    "G MARKmMAN MARKhIDDLE MARKlONE MARKiREVERSE MARKmSECOND MARKlTHIRD MARKiREE MARKjOP MARKhW" ++
    "O MARKtCLOSING MARKlOMMAfDEPARTING TONE MARKrSCRIPTION CHARACTER ABOVE TO BELOW"),
  ("IDEOGRAPHIC DESCRIPTION CHARACTER ABOVE TO MIDDLE AND BELOW",
    "zFULL SURROUNDnLEFT TO MIDDLE AND RIGHTqRIGHTnOVERLAIDiSURROUND FROM ABOVEfBELOWfLEFTdOWER" ++
    " LEFTkUPPER LEFTeRIGHTbvENTERING TONE MARKsFULL STOPjHALF FILL SPACEpITERATION MARKoLEVEL" ++
    " TONE MARKpNUMBER ZEROlRISING TONE MARKqSPACEfTALLY MARK FIVEdOUReONEdTHREEeWO"),
  ("IDEOGRAPHIC TELEGRAPH LINE FEED SEPARATOR SYMBOL",
    "baSYMBOL FOR APRILeUGUSTgDAY EIGHTaEENhLEVENgFIFTEENfVEdOURaTEENiNINEaTEENiONEdSEVENaTEENi" ++
    "IXaTEENhTENcHIRTEENdYa-ONEiREEeWELVEdNTYa-EIGHTfFIVEdOUReNINEeONEdSEVENeIXdTHREEeWOiOgECEM" ++
    "BERiFEBRUARYiHOUR EIGHTaEENhLEVENgFIFTEENfVEdOURaTEENiNINEaTEENiONEdSEVENaTEENiIX"),
  ("IDEOGRAPHIC TELEGRAPH SYMBOL FOR HOUR SIXTEEN",
    "hTENcHIRTEENgREEeWELVEdNTYa-FOUReONEdTHREEeWOiOdZEROjJANUARYgULYcNEeMARCHdYdNOVEMBERiOCTOB" ++
    "ERhSEPTEMBERbeVARIATION INDICATORbeMAGE OFa OR APPROXIMATELY EQUAL TObgPaERIAL ARAMAIC LET" ++
    "TER ALEPHeYINeBETHeDALETHgGIMELfHEaTHeKAPHeLAMEDHgMEMdNUNdPEcQOPHeRESHeSADHEdMEKH"),
  ("IMPERIAL ARAMAIC LETTER SHIN",
    "eTAWcETHeWAWdYODHeZAYINmNUMBER ONEa HUNDREDhTHOUSANDmTENa THOUSANDlHREEeWENTYeOkSECTION SI" ++
    "GNbcNBOX TRAYiCOMING ENVELOPEmPLETE INFINITYqREASE FONT SIZE SYMBOLrS AShMENThDaEXa POINTI" ++
    "NG AT THE VIEWERzIAN RUPEE SIGNnC SIYAQ ALTERNATE LAKH MARKtFRACTION ONE HALF"),
  ("INDIC SIYAQ FRACTION ONE QUARTER",
    "lTHREE QUARTERSxLAKH MARKjNUMBER ALTERNATE ONEdTEN THOUSANDlWOnEIGHTa HUNDREDhTHOUSANDjYa" ++
    " THOUSANDpFIFTYa THOUSANDmVEa HUNDREDhTHOUSANDmORTYa THOUSANDmURa HUNDREDhTHOUSANDnKARORaA" ++
    "NhLAKHaANgNINEa HUNDREDhTHOUSANDjTYa THOUSANDpONEa HUNDREDhTHOUSANDmPREFIXED EIGHT"),
  ("INDIC SIYAQ NUMBER PREFIXED FIVE",
    "dOUReNINEeONEdSEVENeIXdTHREEeWOmSEVENa HUNDREDhTHOUSANDjTYa THOUSANDpIXa HUNDREDhTHOUSANDj" ++
    "TYa THOUSANDoTENa THOUSANDlHIRTYa THOUSANDnREEa HUNDREDhTHOUSANDnWENTYa THOUSANDnOa HUNDRE" ++
    "DhTHOUSANDtPLACEHOLDERlRUPEE MARKuFINITYa NEGATED WITH VERTICAL BAR"),
  ("INFORMATION DESK PERSON",
    "lSEPARATOR FOUReONEdTHREEeWOmOURCEqHIBIT ARABIC FORM SHAPINGtSYMMETRIC SWAPPINGyPUT SYMBOL" ++
    " FOR LATIN CAPITAL LETTERSpLETTERShSMALL LETTERStNUMBERShSYMBOLSwSCRIPTIONAL PAHLAVI LETTE" ++
    "R ALEPHfBETHeDALETHgGIMELfHEaTHeKAPHeLAMEDHgMEM-QOPHiNUNdPEcSADHEdMEKHfHINeTAWcETH"),
  ("INSCRIPTIONAL PAHLAVI LETTER WAW-AYIN-RESH",
    "nYODHeZAYINmNUMBER FOUReONEa HUNDREDhTHOUSANDmTENcHREEeWENTYeOqRTHIAN LETTER ALEPHeYINeBET" ++
    "HeDALETHgGIMELfHEaTHeKAPHeLAMEDHgMEMdNUNdPEcQOPHeRESHeSADHEdMEKHfHINeTAWcETHeWAWdYODHeZAYI" ++
    "NmNUMBER FOUReONEa HUNDREDhTHOUSANDmTENcHREEeWENTYeObeERTION SYMBOLoTEGRAL"),
  ("INTEGRAL AROUND A POINT OPERATOR",
    "wVERAGE WITH SLASHsEXTENSIONjWITH DOUBLE STROKEnINTERSECTIONmLEFTWARDS ARROW WITH HOOKzOVE" ++
    "RBARhTIMES SIGNkUNDERBARgIONpRCALATEgIOR PRODUCTlLINEAR ANNOTATION ANCHORgSEPARATORjTERMIN" ++
    "ATORbbOCKED FEMALE AND MALE SIGNbbROBANGgSECTIONa ABOVE BAR ABOVE UNIONpUNION"),
  ("INTERSECTION BESIDE AND JOINED WITH INTERSECTION",
    "bjWITH DOTdLOGICAL ANDlOVERBARxVERSE BULLETgCHECK MARKfER BOARD FILLsDOWNWARDS ARROW WITH" ++
    " TIP LEFTWARDSbiMEDIUM SHADEmWHITE CIRCLEpTED EXCLAMATION MARKqINTERROBANGlLAZY SfOW KAVYK" ++
    "Aa WITH KAVYKA ABOVEbcOHM SIGNiPENTAGRAMjQUESTION MARKnUNDERTIEoISIBLE PLUSeSEPARATOR"),
  ("INVISIBLE TIMES",
    "oZAKAYA LANTERNpJACK-O-LANTERNmPANESE BANK SYMBOLlCASTLEgDOLLSfGOBLINgINDUSTRIAL STANDARD" ++
    " SYMBOLbaOGREePOST OFFICElSYMBOL FOR BEGINNERbaRbVANESE CONSONANT SIGN CAKRAfKERETfPENGKAL" ++
    "wDIGIT EIGHTfFIVEdOUReNINEeONEdSEVENeIXdTHREEeWOdZEROkLEFT RERENGGANmTTER AaIcBA"),
  ("JAVANESE LETTER BA MURDA",
    "iCAa MURDAiDAa MAHAPRANAlDAa MAHAPRANAnEbGAa MURDAiHAcIa KAWIfIcJAa MAHAPRANAmKAa MURDAfSA" ++
    "SAKiLAcMAcNAa MURDAhGAa LELETa RASWADIqYAa MURDAjObPAa CEREKfMURDAiRAa AGUNGiSAa MAHAPRANA" ++
    "iURDAiTAa MURDAhTAa MAHAPRANAnUbWAcYAjPADA ADEGa ADEGiNDAPfISEN-ISENjLINGSAfUHUR"),
  ("JAVANESE PADA LUNGSI",
    "gMADYAfPANGKATgISELEHhTIRTA TUMETESnWINDUiNGKONdRANGKEPlRIGHT RERENGGANpSIGN CECAKa TELUkL" ++
    "AYARfPANYANGGAjWIGNYANmTURNED PADA PISELEHtVOWEL SIGN DIRGA MUREkPEPETfSUKUa MENDUTlTALING" ++
    "eRUNGfOLONGgWULUa MELIKbdEANSeIGSAW PUZZLE PIECEsOINcYSTICKhUGGLINGgNOcPITERhKAABA"),
  ("KAITHI ABBREVIATION SIGN",
    "rDANDAeOUBLE DANDAfSECTION MARKtENUMERATION SIGNqLETTER AaAbIbUcBAbHAdCAbHAdDAbDAbDHAdHAdH" ++
    "AdEbGAbHAdHAcIaIcJAbHAdKAbHAdLAcMAcNAbGAcNAcYAdObPAbHAdRAbHAdSAbHAcSAdTAbHAcTAbHAeUaUcVAcY" ++
    "AjNUMBER SIGNa ABOVErSECTION MARKlIGN ANUSVARAiCANDRABINDUlNUKTAfVIRAMAeSARGA"),
  ("KAITHI VOWEL SIGN AA",
    "bIbUcEbIaIcObUaUcVOCALIC RzNGAROOeXI RADICAL AGAINeNDcRRIVEdOWeXEdBADGEReMBOOfEANdIGbRDcTT" ++
    "ERfLACKdOODdUEdOATcDYcLT OF CLOTHlNEcWcRANCHeISTLEfUSHfCARTcULDRONgVEdHILDeITYdLANbWcIFFdO" ++
    "THESgOLORdMPAREfRPSEeVERdWdDEATHdERdIPPEReSHbTINGUISHjVINATIONjO NOTeGbORcT"),
  ("KANGXI RADICAL DOTTED CLIFF",
    "fTENTjUBLE XgWN BOXhRAGONeUMcYdEARaTHdTcIGHTeMBROIDERYjNCLOSUREhTEReVENaINGgYEdFACEcNGcTHE" ++
    "RfEATHERgIELDdGHTdREcSHdLUTEdYcOOTdRAGRANTgOGdURdGATEdHOSTeOa SLOWLYhLDdRAINcSSfHAIRcLBERD" ++
    "eF TREE TRUNKnNDdEADbRTdMPdIDING ENCLOSUREpOOKcRNbSEfICEcNCHcSECTgJADEcRdKNIFEfLACK"),
  ("KANGXI RADICAL LAME",
    "dEAFbTHERfEKcGSdIDbFEcNEdONGa STRIDElMANcEATcLONeILLETeNISTERhOONcRNINGeTAReUNDbTAINfTHfNE" ++
    "TcOSEcTdOLDcNEaSELFgPEN BOXgPOSEgPIGcLOWdOWEReRIVATEfOFOUNDiRAINcPbTcEDcICEcGHT OPEN BOXmV" ++
    "EReOOFdUNdSACRIFICIAL WINEoLTcYcCHOLARfRIPTfEALcCONDeEbLFdHEEPcLLdOOTcRT TAILED BIRD"),
  ("KANGXI RADICAL SHORT THREAD",
    "lICKNESSgLKdKINdLASHcVEdICEeMALLeNOUTeOUNDePEARcECHeIRITeOONdROUTfQUAREfTANDdEAMcPcONEcPaP" ++
    "INGhUNcWEETfTABLEdLLcNNED LEATHERnENcIGERdLEdONGUEeOTHeRACKdEEcIPODfURBANdTLEfWOa HANDSjUS" ++
    "EdVALLEYfILLAGEhWALKa ENCLOSUREmTEReEAPONeSTdHEATdITEeINDbEdOMANdRKdRAPcONGfYELLOW"),
  ("KANNADA AI LENGTH MARK",
    "oDIGIT EIGHTfFIVEdOUReNINEeONEdSEVENeIXdTHREEeWOdZEROkLENGTH MARKjTTER AaAbIbUcBAbHAdCAbHA" ++
    "dDAbDAbHAdHAdEaEcFAcGAbHAdHAcIaIcJAbHAdKAbHAdLAbLAbLAeMAcNAaKAARA POLLUmGAcNAcYAdOaOcPAbHA" ++
    "dRAbRAdSAbHAcSAdTAbHAcTAbHAeUaUcVAbOCALIC LaLcRaRkYAjSIGN ANUSVARAhVAGRAHA"),
  ("KANNADA SIGN CANDRABINDU",
    "lJIHVAMULIYAlNUKTAfSIDDHAMgPACING CANDRABINDUtUPADHMANIYAlVIRAMAeSARGAmVOWEL SIGN AAbIbUcE" ++
    "aEcIaIcOaOcUaUcVOCALIC LaLcRaRbbTAKANA DIGRAPH KOTOmITERATION MARKoLETTER AaRCHAIC EbWUcYE" ++
    "bIkBAbEbIbObUcDAbEbIbObUcEbGAbEbIbObUcHAbEbIbObUcIbKAbEbIbObUcMAbEbI"),
  ("KATAKANA LETTER MINNAN NASALIZED TONE-1",
    "b2b3b4b5b7b8qTONE-2b3b4b5b7b8mObUcNaAbEbIbObUcObPAbEbIbObUcRAbEbIbObUcSAbEbIbMALL AbEbHAbE" ++
    "bIbObUcIbKAbEbUcMUcNaUcObRAbEbIbObUcSIbUcTObUcUbWAbEbIbOcYAbObUhObUcTAbEbIbObUcUbVAbEbIbOb" ++
    "UcWAbEbIbOcYAbObUcZAbEbIbObUjMIDDLE DOTkVOICED ITERATION MARK"),
  ("KATAKANA-HIRAGANA DOUBLE HYPHEN",
    "nPROLONGED SOUND MARKuSEMI-VOICED SOUND MARKwVOICED SOUND MARKbhYAH LI DIGIT EIGHTfFIVEdOU" ++
    "ReNINEeONEdSEVENeIXdTHREEeWOdZEROkLETTER AbBAcCAcDAcGAcHAbTAdIbKAbHAdLAcMAcNAbGAcYAdOEbOcP" ++
    "AbHAdRAcSAbHAdTAbHAdVAcWAcYAcZAjSIGN CWIdSHYAjTONE CALYAa PLOPHUmPLOPHUlVOWEL EaEcO"),
  ("KAYAH LI VOWEL U",
    "aEqELVIN SIGNjYaBOARDa AND MOUSEpCAP TENjHAROSHTHI DIGIT FOUReONEdTHREEeWOjFRACTION ONE HA" ++
    "LFrLETTER AbBAbHAdCAbHAdDAbDAbHAdHAdGAbHAdHAcJAcKAbHAcKAdLAcMAcNAbNAcYAdPAbHAdRAcSAbHAcSAd" ++
    "TAbHAcTAbHAcTAbHAfVAbHAdYAcZAjNUMBER ONE HUNDREDhTHOUSANDmTENcWENTY"),
  ("KHAROSHTHI PUNCTUATION CIRCLE",
    "fRESCENT BARmDANDAeOTbUBLE DANDAmLINESeOTUSfMANGALAMiSMALL CIRCLEySIGN ANUSVARAiBAR ABOVEj" ++
    "CAUDAfDOT BELOWhUBLE RING BELOWrVISARGAmVIRAMAfOWEL LENGTH MARKlSIGN EbIbObUbVOCALIC RbdIT" ++
    "AN SMALL SCRIPT CHARACTER-18B00b1b2b3b4b5b6b7b8b9bAbBbCbDbEbFc10b1b2b3b4b5b6b7b8b9bA"),
  ("KHITAN SMALL SCRIPT CHARACTER-18B1B",
    "bCbDbEbFc20b1b2b3b4b5b6b7b8b9bAbBbCbDbEbFc30b1b2b3b4b5b6b7b8b9bAbBbCbDbEbFc40b1b2b3b4b5b6b" ++
    "7b8b9bAbBbCbDbEbFc50b1b2b3b4b5b6b7b8b9bAbBbCbDbEbFc60b1b2b3b4b5b6b7b8b9bAbBbCbDbEbFc70b1b2" ++
    "b3b4b5b6b7b8b9bAbBbCbDbEbFc80b1b2b3b4b5b6b7b8b9bAbBbCbDbEbFc90b1b2b3b4b5b6b7b8b9bAbB"),
  ("KHITAN SMALL SCRIPT CHARACTER-18B9C",
    "bDbEbFcA0b1b2b3b4b5b6b7b8b9bAbBbCbDbEbFcB0b1b2b3b4b5b6b7b8b9bAbBbCbDbEbFcC0b1b2b3b4b5b6b7b" ++
    "8b9bAbBbCbDbEbFcD0b1b2b3b4b5b6b7b8b9bAbBbCbDbEbFcE0b1b2b3b4b5b6b7b8b9bAbBbCbDbEbFcF0b1b2b3" ++
    "b4b5b6b7b8b9bAbBbCbDbEbFdC00b1b2b3b4b5b6b7b8b9bAbBbCbDbEbFc10b1b2b3b4b5b6b7b8b9bAbB"),
  ("KHITAN SMALL SCRIPT CHARACTER-18C1C",
    "bDbEbFc20b1b2b3b4b5b6b7b8b9bAbBbCbDbEbFc30b1b2b3b4b5b6b7b8b9bAbBbCbDbEbFc40b1b2b3b4b5b6b7b" ++
    "8b9bAbBbCbDbEbFc50b1b2b3b4b5b6b7b8b9bAbBbCbDbEbFc60b1b2b3b4b5b6b7b8b9bAbBbCbDbEbFc70b1b2b3" ++
    "b4b5b6b7b8b9bAbBbCbDbEbFc80b1b2b3b4b5b6b7b8b9bAbBbCbDbEbFc90b1b2b3b4b5b6b7b8b9bAbBbC"),
  ("KHITAN SMALL SCRIPT CHARACTER-18C9D",
    "bEbFcA0b1b2b3b4b5b6b7b8b9bAbBbCbDbEbFcB0b1b2b3b4b5b6b7b8b9bAbBbCbDbEbFcC0b1b2b3b4b5b6b7b8b" ++
    "9bAbBbCbDbEbFcD0b1b2b3b4b5pFILLERyMER CURRENCY SYMBOL RIELuDIGIT EIGHTfFIVEdOUReNINEeONEdS" ++
    "EVENeIXdTHREEeWOdZEROkINDEPENDENT VOWEL LYaYdQAAbIbQbUcEbIaIcOO TYPE ONEdTWOlUaKbUaV"),
  ("KHMER INDEPENDENT VOWEL RY",
    "aYvLETTER BAcCAbHAbOcOcDAbOcHAcKAbHAbOcOcLAbOcMOcNGOcNOcObYOdPHAbOcOcQAcROcSAbHAcSOdTAbHAb" ++
    "OcObTHAbOeVOcYOjSIGN AHSDAeTTHACANhVAKRAHASANYAnBANTOCeRIYOOSANiTHAMASATjEYYALgCAMNUC PII" ++
    " KUUHoOENGfKAKABATgHANdOOMUUThLEK TOOhMUUSIKATOANlNIKAHIThPHNAEK MUANlREAHMUKgOBAT"),
  ("KHMER SIGN SAMYOK SANNYA",
    "nTOANDAKHIATkRIISAPhVIRIAMgYUUKALEAPINTUrYMBOL BEI KOETeROCgUON KOETeROCiDAP KOETeROCe-BEI" ++
    " KOETeROCgUON KOETeROCiMUOY KOETeROCiPII KOETeROCgRAM KOETeROCmLEK ATTAK BEIcUONeMUOYePIIc" ++
    "RAMa-BEIcUONeMUOYePIIiSONnMUOY KOETeROCiPATHAMASATjII KOETeROCgRAM KOETeROC"),
  ("KHMER SYMBOL PRAM-BEI KOET",
    "eROCgUON KOETeROCiMUOY KOETeROCiPII KOETeROCmTUTEYASATqVOWEL INHERENT AAbQlSIGN AAbEbIbUcE" ++
    "bIaEbIcOEbOcUaAbUcYaAbYrOJKI ABBREVIATION SIGNrDANDAeOUBLE DANDAfSECTION MARKtLETTER AaAbI" ++
    "bUcBAbBAcHAdCAbHAdDAbDAbDAcHAdHAdEbGAbGAcHAdHAcIbJAbJAdKAbHAdLAbLAdMAcNAbGAcNAcYAdO"),
  ("KHOJKI LETTER PA",
    "bHAdRAcSAcTAbHAcTAbHAeUbVAcYAjSECTION MARKlIGN ANUSVARAiNUKTAfSHADDAfUKUNfVIRAMAlVOWEL SIG" ++
    "N AAbIbUcEbIaIcObUmWORD SEPARATORtUDAWADI DIGIT EIGHTfFIVEdOUReNINEeONEdSEVENeIXdTHREEeWOd" ++
    "ZEROkLETTER AaAbIbUcBAbBAcHAdCAbHAdDAbDAbDAcHAdHAdEbGAbGAcHAdHAcIaIcJAbHAcJAdKAbHA"),
  ("KHUDAWADI LETTER LA",
    "cMAcNAbGAcNAcYAdObPAbHAdRAbRAdSAbHAdTAbHAcTAbHAeUaUcVAcYAjSIGN ANUSVARAiNUKTAfVIRAMAlVOWEL" ++
    " SIGN AAbIbUcEbIaIcObUaUwIMONOeP SIGNgSSa MARKfING CAT FACE WITH CLOSED EYESzFACEa WITH CL" ++
    "OSED EYESlSMILING EYESbcTEcWIFRUITiNEELING PERSONnOTdOALAdREAN STANDARD SYMBOLvRONOS"),
  ("L B BAR SYMBOL",
    "nAB COATfELdCROSSE STICK AND BALLvDDERdY BEETLEjNGUAGE TAGkO CANCELLATION MARKrDIGIT EIGHT" ++
    "fFIVEdOUReNINEeONEdSEVENeIXdTHREEeWOdZEROkELLIPSISiHO MOcNOfKO LAfLETTER BOcCOcDOcFO FAYcO" ++
    "NdSUNGeTAMgHO SUNGeTAMgKHMU GOcNYOgO SUNGeTAMgOcLOa LINGdOOThMOcNGOcObYOdObPALI BHA"),
  ("LAO LETTER PALI CHA",
    "dDDAbHAdHAdGHAdJHAdLLAdNNAcYAdTTAbHAiHO SUNGeTAMgOcROcSANSKRIT SHAcSAlO SUNGeTAMgTHO SUNGe" ++
    "TAMgOcWOcYOjNIGGAHITAjSEMIVOWEL SIGN LOcNYOrIGN PALI VIRAMAqTONE MAI CATAWAgEKcTHOcIlVOWEL" ++
    " SIGN AaAbIbMbYcEaIcIaIcMAI KANcONhObUaUcYaYpRGE BLUE CIRCLEgDIAMONDhSQUARE"),
  ("LARGE BROWN CIRCLE",
    "gSQUAREmCIRCLEgDOWN TACKjGREEN CIRCLEgSQUAREmLEFT TRIANGLE OPERATORwONE DOT OVER TWO DOTS" ++
    " PUNCTUATIONbdRING OVER TWO RINGS PUNCTUATIONbiRANGE CIRCLEgDIAMONDhSQUAREnPURPLE CIRCLEgS" ++
    "QUAREnRED CIRCLEgSQUAREkTRIPLE VERTICAL BAR OPERATOR"),
  ("LARGE TWO DOTS OVER ONE DOT PUNCTUATION",
    "bdRINGS OVER ONE RING PUNCTUATIONbjUP TACKhYELLOW CIRCLEgSQUAREoR THANa OR EQUAL TOuI SIGN" ++
    "hST QUARTER MOONa SYMBOLgWITH FACEzTIN CAPITAL LETTER Aa WITH ACUTEfBREVEa AND ACUTEfDOT B" ++
    "ELOWjGRAVEfHOOK ABOVEkTILDEpCARONeIRCUMFLEXa AND ACUTEfDOT BELOWjGRAVEfHOOK ABOVE"),
  ("LATIN CAPITAL LETTER A WITH CIRCUMFLEX AND TILDE",
    "uDIAERESISa AND MACRONtOT ABOVEa AND MACRONqBELOWhUBLE GRAVEmGRAVEfHOOK ABOVEkINVERTED BRE" ++
    "VEoMACRONgOGONEKgRING ABOVEa AND ACUTEpBELOWkSTROKEgTILDElAbEa WITH ACUTEfMACRONnFRICAN Di" ++
    "LPHAeNGLICANA WkObUbVa WITH HORIZONTAL BARvYcBa WITH DOT ABOVEfBELOWjFLOURISHiHOOK"),
  ("LATIN CAPITAL LETTER B WITH LINE BELOW",
    "kSTROKEgTOPBARmETAdROKEN LiCa WITH ACUTEfBARdCARONeEDILLAa AND ACUTEqIRCUMFLEXkDOT ABOVEjH" ++
    "OOKePALATAL HOOKmSTROKEmHIcLOSED INSULAR GpONcUATRILLOa WITH COMMAuDa WITH CARONeEDILLAgIR" ++
    "CUMFLEX BELOWqDOT ABOVEfBELOWjHOOKeLINE BELOWkSHORT STROKE OVERLAYtMALL LETTER Z"),
  ("LATIN CAPITAL LETTER D WITH SMALL LETTER Z WITH CARON",
    "yTROKEgTOPBARmZa WITH CARONnEa WITH ACUTEfBREVEfCARONeEDILLAa AND BREVEqIRCUMFLEXa AND ACU" ++
    "TEfDOT BELOWjGRAVEfHOOK ABOVEkTILDEjBELOWqDIAERESISiOT ABOVEfBELOWhUBLE GRAVEmGRAVEfHOOK A" ++
    "BOVEkINVERTED BREVEoMACRONa AND ACUTEfGRAVEqOGONEKgSTROKEgTILDEa BELOW"),
  ("LATIN CAPITAL LETTER EGYPTOLOGICAL AIN",
    "cLEFrNGcSHcTaHcZHa REVERSEDiWITH CARONoFa WITH DOT ABOVEjHOOKeSTROKEnGa WITH ACUTEfBREVEfC" ++
    "ARONeEDILLAgIRCUMFLEXkDOT ABOVEjHOOKeMACRONgOBLIQUE STROKEoSTROKEmAMMAeHAcLOTTAL AbIbSTOPe" ++
    "UjHa WITH BREVE BELOWlCARONeEDILLAgIRCUMFLEXkDESCENDERiIAERESISiOT ABOVEfBELOWjHOOK"),
  ("LATIN CAPITAL LETTER H WITH STROKE",
    "mALF HfENGdWAIRfIa WITH ACUTEfBREVEfCARONeIRCUMFLEXkDIAERESISa AND ACUTEsOT ABOVEfBELOWhUB" ++
    "LE GRAVEmGRAVEfHOOK ABOVEkINVERTED BREVEoMACRONgOGONEKgSTROKEgTILDEa BELOWrNSULAR DbFbGbRb" ++
    "SbTiOTAdScJa WITH CIRCUMFLEXjROSSED-TAILmSTROKEnKa WITH ACUTEfCARONeEDILLAhDESCENDER"),
  ("LATIN CAPITAL LETTER K WITH DIAGONAL STROKE",
    "oOT BELOWjHOOKeLINE BELOWkOBLIQUE STROKEoSTROKEa AND DIAGONAL STROKEbhLa WITH ACUTEfBARcEL" ++
    "TeCARONeEDILLAgIRCUMFLEX BELOWqDOT BELOWa AND MACRONsUBLE BARkHIGH STROKElLINE BELOWkMIDDL" ++
    "E DOTdTILDEmSMALL LETTER JnTROKEmJcMa WITH ACUTEfDOT ABOVEfBELOWjHOOKkIDDLE SCOTS S"),
  ("LATIN CAPITAL LETTER MIDDLE-WELSH LL",
    "cVoNa WITH ACUTEfCARONeEDILLAgIRCUMFLEX BELOWqDESCENDERiOT ABOVEfBELOWjGRAVEfLEFT HOOKiINE" ++
    " BELOWjONG RIGHT LEGoOBLIQUE STROKEoSMALL LETTER JoTILDElJcOa WITH ACUTEfBREVEfCARONeIRCUM" ++
    "FLEXa AND ACUTEfDOT BELOWjGRAVEfHOOK ABOVEkTILDEuDIAERESISa AND MACRONtOT ABOVE"),
  ("LATIN CAPITAL LETTER O WITH DOT ABOVE AND MACRON",
    "qBELOWhUBLE ACUTEfGRAVEmGRAVEfHOOK ABOVEiRNa AND ACUTEfDOT BELOWjGRAVEfHOOK ABOVEkTILDEoIN" ++
    "VERTED BREVEoLONG STROKE OVERLAYrOPeMACRONa AND ACUTEfGRAVEpIDDLE TILDEmOGONEKa AND MACRON" ++
    "rSTROKEa AND ACUTEqTILDEa AND ACUTEfDIAERESISjMACRONwIbLD POLISH OlMEGAeObPEN EbOfU"),
  ("LATIN CAPITAL LETTER P",
    "a WITH ACUTEfDOT ABOVEjFLOURISHiHOOKeSQUIRREL TAILmTROKEa THROUGH DESCENDERbfQa WITH DIAGO" ++
    "NAL STROKEpSTROKE THROUGH DESCENDERbfRa ROTUNDAhWITH ACUTEfCARONeEDILLAhDOT ABOVEfBELOWa A" ++
    "ND MACRONsUBLE GRAVEmINVERTED BREVEoLINE BELOWkOBLIQUE STROKEoSTROKEgTAIL"),
  ("LATIN CAPITAL LETTER REVERSED C WITH DOT",
    "kEbHALF HgOPEN EoUM ROTUNDAlSa WITH ACUTEa AND DOT ABOVEtCARONa AND DOT ABOVEsEDILLAgIRCUM" ++
    "FLEXjOMMA BELOWlDOT ABOVEfBELOWa AND DOT ABOVExHOOKeOBLIQUE STROKEoSHORT STROKE OVERLAYtWA" ++
    "SH TAILqALTILLOhCHWAdRIPT GhHARP SgIGMOID SiMALL CAPITAL IjQ WITH HOOK TAILwT"),
  ("LATIN CAPITAL LETTER T WITH CARON",
    "eEDILLAgIRCUMFLEX BELOWpOMMA BELOWlDIAGONAL STROKEoOT ABOVEfBELOWjHOOKeLINE BELOWkRETROFLE" ++
    "X HOOKoSTROKEmHORNa WITH STROKEa THROUGH DESCENDERbiONE FIVEeSIXdTWOhRESILLOhURNED AaLPHAf" ++
    "HbINSULAR GjKbLbMbTbVhZcUa BARdWITH ACUTEfBREVEfCARONeIRCUMFLEXa BELOWqDIAERESIS"),
  ("LATIN CAPITAL LETTER U WITH DIAERESIS AND ACUTE",
    "fCARONfGRAVEfMACRONkBELOWoOT BELOWhUBLE ACUTEfGRAVEmGRAVEfHOOK ABOVEiRNa AND ACUTEfDOT BEL" ++
    "OWjGRAVEfHOOK ABOVEkTILDEoINVERTED BREVEoMACRONa AND DIAERESISuOGONEKgRING ABOVEkSTROKEgTI" ++
    "LDEa AND ACUTEjBELOWrPSILONhVa WITH DIAGONAL STROKEoOT BELOWjHOOKeTILDElEND"),
  ("LATIN CAPITAL LETTER VISIGOTHIC Z",
    "lOLAPUK AEcOEcUEjYcWa WITH ACUTEfCIRCUMFLEXkDIAERESISiOT ABOVEfBELOWjGRAVEfHOOKkYNNeXa WIT" ++
    "H DIAERESISiOT ABOVEqYa WITH ACUTEfCIRCUMFLEXkDIAERESISiOT ABOVEfBELOWjGRAVEfHOOKa ABOVEkL" ++
    "OOPeMACRONgSTROKEgTILDElOGHeZa WITH ACUTEfCARONeIRCUMFLEXkDESCENDERiOT ABOVEfBELOW"),
  ("LATIN CAPITAL LETTER Z WITH HOOK",
    "eLINE BELOWkPALATAL HOOKmSTROKEfWASH TAILxIGATURE IJcOEsROSSfEPIGRAPHIC LETTER ARCHAIC MjI" ++
    " LONGAgNVERTED MkREVERSED FbPkSIDEWAYS IbcLETTER AINcLVEOLAR CLICKoBIDENTAL PERCUSSIVErLAB" ++
    "IAL CLICKfPERCUSSIVEtDENTAL CLICKmGLOTTAL STOPa WITH STROKEyINVERTED GLOTTAL STOP"),
  ("LATIN LETTER INVERTED GLOTTAL STOP WITH CURL",
    "eSTROKEbhLATERAL CLICKnPHARYNGEAL VOICED FRICATIVEbbRETROFLEX CLICKa WITH RETROFLEX HOOKbh" ++
    "VERSED ESH LOOPiGLOTTAL STOP WITH STROKEbhSINOLOGICAL DOToMALL CAPITAL AaEcBaARRED BiCbDbE" ++
    "aTHcZHdFbGa WITH HOOKlHbIaNVERTED RkJbKbLa WITH BELTeSTROKEnMbNbOaEbPEN OfUcPbQbR"),
  ("LATIN LETTER SMALL CAPITAL R WITH RIGHT LEG",
    "pEVERSED NbRjUMdSbTaURNED EbGbKbMbRiUbVbWbYbZoTRETCHED Ca WITH CURLvTWO WITH STROKEpVOICED" ++
    " LARYNGEAL SPIRANTyWYNNeYRjSMALL CAPITAL LETTER I WITH STROKEnU WITH STROKEbcLETTER Aa REV" ++
    "ERSED-SCHWAoWITH ACUTEfBREVEa AND ACUTEfDOT BELOWjGRAVEfHOOK ABOVEkTILDEpCARON"),
  ("LATIN SMALL LETTER A WITH CIRCUMFLEX",
    "a AND ACUTEfDOT BELOWjGRAVEfHOOK ABOVEkTILDEuDIAERESISa AND MACRONtOT ABOVEa AND MACRONqBE" ++
    "LOWhUBLE GRAVEmGRAVEfHOOK ABOVEkINVERTED BREVEoMACRONgOGONEKgRETROFLEX HOOKnIGHT HALF RING" ++
    "nNG ABOVEa AND ACUTEpBELOWkSTROKEgTILDElAbEa WITH ACUTEfMACRONnLPHA"),
  ("LATIN SMALL LETTER ALPHA WITH RETROFLEX HOOK",
    "yNGLICANA WkObUbVa WITH HORIZONTAL BARvYcBa WITH DOT ABOVEfBELOWjFLOURISHiHOOKeLINE BELOWk" ++
    "MIDDLE TILDEmPALATAL HOOKmSTROKEgTOPBARmARRED ALPHAfEbOgSELINE ESHlETAdLACKLETTER EbOa WIT" ++
    "H STROKEyOTTOM HALF OmROKEN LiCa WITH ACUTEfBARdCARONeEDILLAa AND ACUTEqIRCUMFLEX"),
  ("LATIN SMALL LETTER C WITH CURL",
    "eDOT ABOVEjHOOKePALATAL HOOKmRETROFLEX HOOKoSTROKEmHIa WITH LOW LEFT SERIFkRIGHT RINGwLOSE" ++
    "D INSULAR GjOMEGAePEN EgREVERSED OPEN EvONcUATRILLOa WITH COMMAuDa WITH CARONeEDILLAgIRCUM" ++
    "FLEX BELOWpURLeDOT ABOVEfBELOWjHOOKa AND TAILnLINE BELOWkMIDDLE TILDEmPALATAL HOOK"),
  ("LATIN SMALL LETTER D WITH SHORT STROKE OVERLAY",
    "tTROKEgTAILdOPBARmB DIGRAPHjELTAdZH DIGRAPHa WITH PALATAL HOOKmRETROFLEX HOOKbfOTLESS IbJa" ++
    " WITH STROKEa AND HOOKbcUBLE Ra WITH CROSSED-TAILtTHORNfWYNNkUMcZa DIGRAPHa WITH CURLeRETR" ++
    "OFLEX HOOKbbWITH CARONnEa WITH ACUTEfBREVEfCARONeEDILLAa AND BREVEqIRCUMFLEX"),
  ("LATIN SMALL LETTER E WITH CIRCUMFLEX AND ACUTE",
    "fDOT BELOWjGRAVEfHOOK ABOVEkTILDEjBELOWqDIAERESISiOT ABOVEfBELOWhUBLE GRAVEmFLOURISHiGRAVE" ++
    "fHOOK ABOVEkINVERTED BREVEoMACRONa AND ACUTEfGRAVEqNOTCHfOGONEKgRETROFLEX HOOKoSTROKEgTILD" ++
    "Ea BELOWrGYPTOLOGICAL AINcLEFrNGa WITH CROSSED-TAILmPALATAL HOOKuSHa WITH CURL"),
  ("LATIN SMALL LETTER ESH WITH DOUBLE BAR",
    "a AND CURLtPALATAL HOOKmRETROFLEX HOOKwTaHcZHa REVERSEDiWITH CARONeURLePALATAL HOOKmRETROF" ++
    "LEX HOOKoTAILnFa WITH DOT ABOVEjHOOKeMIDDLE TILDEmPALATAL HOOKmSTROKEmENG DIGRAPHa WITH TR" ++
    "ILLxGa WITH ACUTEfBREVEfCARONeEDILLAgIRCUMFLEXkDOT ABOVEjHOOKeMACRONgOBLIQUE STROKE"),
  ("LATIN SMALL LETTER G WITH PALATAL HOOK",
    "mSTROKEmAMMAeHAcLOTTAL AbIbSTOPeUjHa WITH BREVE BELOWlCARONeEDILLAgIRCUMFLEXkDESCENDERiIAE" ++
    "RESISiOT ABOVEfBELOWjHOOKeLINE BELOWkPALATAL HOOKmSTROKEmALF HfENGa WITH HOOKnVcIa WITH AC" ++
    "UTEfBREVEfCARONeIRCUMFLEXkDIAERESISa AND ACUTEsOT BELOWhUBLE GRAVEmGRAVEfHOOK ABOVE"),
  ("LATIN SMALL LETTER I WITH INVERTED BREVE",
    "oMACRONgOGONEKgRETROFLEX HOOKoSTROKEa AND RETROFLEX HOOKzTILDEa BELOWrNSULAR DbFbGbRbSbThV" ++
    "ERTED ALPHAfOEkOTAa WITH STROKEnIFIED EjScJa WITH CARONeIRCUMFLEXjROSSED-TAILmSTROKEnKa WI" ++
    "TH ACUTEfCARONeEDILLAhDESCENDERiIAGONAL STROKEoOT BELOWjHOOKeLINE BELOW"),
  ("LATIN SMALL LETTER K WITH OBLIQUE STROKE",
    "oPALATAL HOOKmSTROKEa AND DIAGONAL STROKEbgRAdLa WITH ACUTEfBARcELTa AND PALATAL HOOKvCARO" ++
    "NeEDILLAgIRCUMFLEX BELOWpURLeDOT BELOWa AND MACRONsUBLE BARdMIDDLE TILDEtFISHHOOKiHIGH STR" ++
    "OKElINVERTED LAZY SpLINE BELOWkMIDDLE DOTdRINGeTILDEmPALATAL HOOKmRETROFLEX HOOK"),
  ("LATIN SMALL LETTER L WITH RETROFLEX HOOK AND BELT",
    "xSTROKEmAMBDA WITH STROKErENIS FfZHa WITH RETROFLEX HOOKxJbONG Sa WITH DIAGONAL STROKEoOT" ++
    " ABOVEjHIGH STROKEwS DIGRAPHjUMcZ DIGRAPHkMa WITH ACUTEfCROSSED-TAILmDOT ABOVEfBELOWjHOOKe" ++
    "MIDDLE TILDEmPALATAL HOOKsIDDLE SCOTS Si-WELSH LLcVnUMdNa PRECEDED BY APOSTROPHE"),
  ("LATIN SMALL LETTER N WITH ACUTE",
    "fCARONeEDILLAgIRCUMFLEX BELOWpROSSED-TAILlURLeDESCENDERiOT ABOVEfBELOWjGRAVEfLEFT HOOKiINE" ++
    " BELOWjONG RIGHT LEGoMIDDLE TILDEmOBLIQUE STROKEoPALATAL HOOKmRETROFLEX HOOKoTILDElJbUMdOa" ++
    " WITH ACUTEfBREVEfCARONeIRCUMFLEXa AND ACUTEfDOT BELOWjGRAVEfHOOK ABOVEkTILDE"),
  ("LATIN SMALL LETTER O WITH DIAERESIS",
    "a AND MACRONtOT ABOVEa AND MACRONqBELOWhUBLE ACUTEfGRAVEmGRAVEfHOOK ABOVEiRNa AND ACUTEfDO" ++
    "T BELOWjGRAVEfHOOK ABOVEkTILDEoINVERTED BREVEoLONG STROKE OVERLAYrOPcW RING INSIDEpMACRONa" ++
    " AND ACUTEfGRAVEqOGONEKa AND MACRONrRETROFLEX HOOKoSTROKEa AND ACUTEqTILDE"),
  ("LATIN SMALL LETTER O WITH TILDE AND ACUTE",
    "fDIAERESISjMACRONwIbLD POLISH OlMEGAeObPEN Ea WITH RETROFLEX HOOKvOa WITH RETROFLEX HOOKoS" ++
    "TROKEmEgUcPa WITH ACUTEfDOT ABOVEjFLOURISHiHOOKeMIDDLE TILDEmPALATAL HOOKmSQUIRREL TAILmTR" ++
    "OKEa THROUGH DESCENDERbeHIdQa WITH DIAGONAL STROKEpHOOKa TAIL"),
  ("LATIN SMALL LETTER Q WITH STROKE THROUGH DESCENDER",
    "beP DIGRAPHkRa ROTUNDAhWITH ACUTEfCARONeEDILLAgROSSED-TAILmDOT ABOVEfBELOWa AND MACRONsUBL" ++
    "E GRAVEmFISHHOOKa AND MIDDLE TILDEmPALATAL HOOKzINVERTED BREVEoLINE BELOWjONG LEGiMIDDLE T" ++
    "ILDEmOBLIQUE STROKEoPALATAL HOOKmSTROKEgTAILfOUT HANDLEpAMS HORNiEVERSED Ca WITH DOT"),
  ("LATIN SMALL LETTER REVERSED E",
    "aNGdHALF HgKbOPEN Ea WITH HOOKeRETROFLEX HOOKbaR WITH FISHHOOKpSCRIPT GqUMa ROTUNDAlSa WIT" ++
    "H ACUTEa AND DOT ABOVEtCARONa AND DOT ABOVEsEDILLAgIRCUMFLEXjOMMA BELOWkURLeDOT ABOVEfBELO" ++
    "Wa AND DOT ABOVExHOOKeMIDDLE TILDEmOBLIQUE STROKEoPALATAL HOOKmSHORT STROKE OVERLAY"),
  ("LATIN SMALL LETTER S WITH SWASH TAIL",
    "qAKHA YAThLTILLOhCHWAa WITH HOOKeRETROFLEX HOOKxRIPT Ga WITH CROSSED-TAILtRa WITH RINGrHAR" ++
    "P SgIDEWAYS DIAERESIZED UnOa WITH STROKEmPEN OgTURNED MiUiGMOID SiQUAT REVERSED ESHrTIRRUP" ++
    " RjTa WITH CARONeEDILLAgIRCUMFLEX BELOWpOMMA BELOWkURLeDIAERESISgGONAL STROKE"),
  ("LATIN SMALL LETTER T WITH DOT ABOVE",
    "fBELOWjHOOKa AND RETROFLEX HOOKxLINE BELOWkMIDDLE TILDEmPALATAL HOOKmRETROFLEX HOOKoSTROKE" ++
    "mAILLESS PHIlC DIGRAPH WITH CURLtESH DIGRAPHa WITH PALATAL HOOKmRETROFLEX HOOKbfH WITH STR" ++
    "IKETHROUGHtORNa WITH STROKEa THROUGH DESCENDERbiONE FIVEeSIXdTWOgP HALF OjRESILLO"),
  ("LATIN SMALL LETTER TS DIGRAPH",
    "a WITH RETROFLEX HOOKbdUMbRNED AaEbLPHAfDELTAfEbGbHa WITH FISHHOOKa AND TAILyIaNSULAR GjKb" ++
    "LbMa WITH LONG LEGpO OPEN-Oa WITH STROKEtEa WITH HORIZONTAL STROKErSTROKEnPEN EgRa WITH HO" ++
    "OKeLONG LEGa AND RETROFLEX HOOKbbMIDDLE TILDEmPALATAL HOOKmTAILlTa WITH CURLlUIcVbW"),
  ("LATIN SMALL LETTER TURNED Y",
    "a WITH BELTrZcUa BARa WITH SHORT RIGHT LEGyWITH ACUTEfBREVEfCARONeIRCUMFLEXa BELOWqDIAERES" ++
    "ISa AND ACUTEfCARONfGRAVEfMACRONkBELOWoOT BELOWhUBLE ACUTEfGRAVEmGRAVEfHOOK ABOVEiRNa AND" ++
    " ACUTEfDOT BELOWjGRAVEfHOOK ABOVEkTILDEoINVERTED BREVEoLEFT HOOKjMACRON"),
  ("LATIN SMALL LETTER U WITH MACRON AND DIAERESIS",
    "uOGONEKgRETROFLEX HOOKnING ABOVEkSHORT RIGHT LEGoTROKEgTILDEa AND ACUTEjBELOWrEbIbMbObPSIL" ++
    "ONa WITH STROKEtVa WITH CURLeDIAGONAL STROKEoOT BELOWjHOOKePALATAL HOOKmRIGHT HOOKkTILDElE" ++
    "NDdISIGOTHIC ZlOLAPUK AEcOEcUEjYcWa WITH ACUTEfCIRCUMFLEXkDIAERESISiOT ABOVEfBELOW"),
  ("LATIN SMALL LETTER W WITH GRAVE",
    "fHOOKeRING ABOVErXa WITH DIAERESISiOT ABOVEjLONG LEFT LEGa AND LOW RIGHT RINGsWITH SERIFwW" ++
    " RIGHT RINGoPALATAL HOOKtYa WITH ACUTEfCIRCUMFLEXkDIAERESISiOT ABOVEfBELOWjGRAVEfHOOKa ABO" ++
    "VEkLOOPeMACRONgRING ABOVEkSHORT RIGHT LEGoTROKEgTILDElOGHeZa WITH ACUTEfCARON"),
  ("LATIN SMALL LETTER Z WITH CIRCUMFLEX",
    "jURLeDESCENDERiOT ABOVEfBELOWjHOOKeLINE BELOWkMIDDLE TILDEmPALATAL HOOKmRETROFLEX HOOKoSTR" ++
    "OKEfWASH TAILxIGATURE FFaIbLcIbLcIJcLONG S TiOEcSTqUBSCRIPT SMALL LETTER AbEbHbIbJbKbLbMbN" ++
    "bObPbRbSaCHWAfTbUbVbXbdEAF FLUTTERING IN WINDtY GREENjDGER"),
  ("LEFT AND LOWER AND RIGHT TRIANGULAR THREE QUARTERS BLOCK",
    "bpONE EIGHTH BLOCKwRIGHT DOUBLE TURNSTILEqTACKdRIANGULAR HALF BLOCKbbUPPER AND RIGHT TRIAN" ++
    "GULAR THREE QUARTERS BLOCKbpONE EIGHTH BLOCKyGER BUBBLEjLE BRACKETa WITH DOTvRC LESS-THAN" ++
    " BRACKETtROW WITH CIRCLED PLUSmSMALL CIRCLExBARB DOWN RIGHT BARB DOWN HARPOON"),
  ("LEFT BARB DOWN RIGHT BARB UP HARPOON",
    "baUP RIGHT BARB DOWN HARPOONmUP HARPOONbcLACK LENTICULAR BRACKETsTORTOISE SHELL BRACKETbcC" ++
    "EILINGgLOSED ENTRYlORNER BRACKETnURLY BRACKETa LOWER HOOKkMIDDLE PIECEmUPPER HOOKyDOTTED S" ++
    "UBSTITUTION BRACKETzUBLE ANGLE BRACKETnPARENTHESISlQUOTATION MARKoWIGGLY FENCE"),
  ("LEFT FISH TAIL",
    "hVE EIGHTHS BLOCKrLOORfHALF BLACK CIRCLEgSTARiOCKfCIRCLEa WITH DOTdFOUR DOTSjTHREE DOTSjWO" ++
    " DOTSuFOLDERgINVERSE MEDIUM SHADE AND RIGHT HALF BLOCKbpMEDIUM SHADEmRUNNING MANoND TELEPH" ++
    "ONE RECEIVERxLOW PARAPHRASE BRACKETvUGGAGEhMULTIMAPiNORMAL FACTOR SEMIDIRECT PRODUCT"),
  ("LEFT ONE EIGHTH BLOCK",
    "mQUARTER BLOCKqUTER JOINkPARENTHESISa EXTENSIONjLOWER HOOKkUPPER HOOKwRAISED OMISSION BRAC" ++
    "KETwIGHT ARROWa THROUGH SMALL CIRCLEuWITH DOUBLE VERTICAL STROKEwSTROKEgVERTICAL STROKEbaB" ++
    "LACK ARROWlDOUBLE ARROWa WITH STROKEgVERTICAL STROKEbhOPEN-HEADED ARROW"),
  ("LEFT RIGHT SANS-SERIF ARROW",
    "qTRIANGLE-HEADED ARROWvWAVE ARROWjHITE ARROWrS-SHAPED BAG DELIMITERvEMIDIRECT PRODUCTqVEN" ++
    " EIGHTHS BLOCKsIDEWAYS U BRACKETqNGLE QUOTATION MARKuPEECH BUBBLEmQUARE BRACKETa EXTENSION" ++
    "jLOWER CORNERmUPPER CORNERmWITH DOUBLE STROKEnQUILLfSTROKEgTICK IN BOTTOM CORNER"),
  ("LEFT SQUARE BRACKET WITH TICK IN TOP CORNER",
    "sUNDERBARbbUBSTITUTION BRACKETuTACKdHIRD WHITE RIGHT POINTING INDEXbeOUGHT BUBBLEmREE EIGH" ++
    "THS BLOCKnQUARTERS BLOCKtORTOISE SHELL BRACKETvRANSPOSITION BRACKETtIANGLE BESIDE VERTICAL" ++
    " BARwULAR ONE QUARTER BLOCKbcVERTICAL BAR WITH QUILLnOX LINErWHITE CORNER BRACKET"),
  ("LEFT WHITE CURLY BRACKET",
    "nLENTICULAR BRACKETsPARENTHESISlSQUARE BRACKEToTORTOISE SHELL BRACKETbbIGGLY FENCElRITING" ++
    " HANDn-FACING ARMENIAN ETERNITY SIGNwFISTeSVASTI SIGNa WITH DOTSbcHANDED INTERLACED PENTAG" ++
    "RAMbbPOINTING ANGLE BRACKETnCURVED ANGLE BRACKETuDOUBLE ANGLE QUOTATION MARK"),
  ("LEFT-POINTING MAGNIFYING GLASS",
    "zSHADED WHITE RIGHTWARDS ARROWbcIDE ARC ANTICLOCKWISE ARROWbcTO-RIGHT EMBEDDINGjISOLATEhMA" ++
    "RKeOVERRIDEsWARDS ARROWa ABOVE ALMOST EQUAL TOpREVERSE ALMOST EQUAL TOpTILDE OPERATORwSHOR" ++
    "T RIGHTWARDS ARROWwTILDE OPERATORtND UPPER AND LOWER ONE EIGHTH BLOCKbkFROM BAR"),
  ("LEFTWARDS ARROW FROM BAR TO BLACK DIAMOND",
    "zOVER RIGHTWARDS ARROWvTHROUGH LESS-THANjSUBSETgXiO BARa OVER RIGHTWARDS ARROW TO BARbfLAC" ++
    "K DIAMONDqWITH DOTTED STEMjUBLE VERTICAL STROKEwEQUILATERAL ARROWHEADvHOOKeLARGE TRIANGLE" ++
    " ARROWHEADxOOPeMEDIUM TRIANGLE ARROWHEADzNOTCHED TAILmPLUS BELOW"),
  ("LEFTWARDS ARROW WITH SMALL EQUILATERAL ARROWHEAD",
    "vTRIANGLE ARROWHEADxTROKEgTAILa WITH DOUBLE VERTICAL STROKEwVERTICAL STROKEyIP DOWNWARDSjU" ++
    "PWARDSlVERTICAL STROKEv-TAILkBACK-TILTED SHADOWED WHITE ARROWbfLACK ARROWfCIRCLED WHITE AR" ++
    "ROWyOTTOM-SHADED WHITE ARROWzCOMPRESSED ARROWqDASHED ARROWlOUBLE ARROWa FROM BAR"),
  ("LEFTWARDS DOUBLE ARROW WITH STROKE",
    "gVERTICAL STROKEv-TAILkDASH ARROWrFINGER-POST ARROWqRONT-TILTED SHADOWED WHITE ARROWbhHAND" ++
    "cRPOON OVER RIGHTWARDS HARPOONxWITH BARB DOWN ABOVE RIGHTWARDS HARPOON WITH BARB DOWNbnBEL" ++
    "OW LONG DASHpFROM BARiTO BARhWARDSjUP ABOVE LEFTWARDS HARPOON WITH BARB DOWN"),
  ("LEFTWARDS HARPOON WITH BARB UP ABOVE LONG DASH",
    "jRIGHTWARDS HARPOON WITH BARB UPblFROM BARiTO BARhWARDSyEAVY ARROWfCOMPRESSED ARROWwLEFT-S" ++
    "HADED WHITE ARROWxOPEN-HEADED ARROWrPAIRED ARROWSnQUADRUPLE ARROWpRIGHT-SHADED WHITE ARROW" ++
    "xOCKETgSANS-SERIF ARROWpQUARED ARROWkIGGLE ARROWoTOP SHADED WHITE ARROW"),
  ("LEFTWARDS TRIANGLE ARROWHEAD",
    "k-HEADED ARROWa OVER RIGHTWARDS TRIANGLE-HEADED ARROWblTO BARgWITH BOLD SHAFTkDOUBLE HORIZ" ++
    "ONTAL STROKErVERTICAL STROKEwHEAVY SHAFTlLONG TIP DOWNWARDSjUPWARDSqMEDIUM SHAFTmNARROW SH" ++
    "AFTmVERY HEAVY SHAFTbbDASHED ARROWmPAIRED ARROWSbaPLE ARROWfDASH ARROW"),
  ("LEFTWARDS TWO HEADED ARROW",
    "n-HEADED ARROW FROM BARiWITH DOUBLE VERTICAL STROKEwTAILa WITH DOUBLE VERTICAL STROKEwVERT" ++
    "ICAL STROKEyRIANGLE ARROWHEADStVERTICAL STROKEbaTRIPLE DASH ARROWbcWAVE ARROWjHITE ARROWa" ++
    " WITHIN TRIANGLE ARROWHEADbtGbMONdOaPARDfPCHA CONSONANT SIGN KaANGeLbMbNaYIN-DOhPbRbT"),
  ("LEPCHA DIGIT EIGHT",
    "fFIVEdOUReNINEeONEdSEVENeIXdTHREEeWOdZEROkLETTER AbBAbLAdCAbHAdDAbDAcZAdFAbLAdGAbLAdHAbLAd" ++
    "JAcKAbHAcLAdLAcMAbLAdNAbGAcYAdPAbHAcLAdRAcSAbHAdTAbHAcSAbHAdTAbHAeVAcWAcYAjPUNCTUATION CER" ++
    "-WAgNYET THYOOM TA-ROLsTA-ROLfSHOOKa CER-WAzSIGN NUKTAfRANhUBJOINED LETTER RAcYA"),
  ("LEPCHA VOWEL SIGN AA",
    "cEbIbOaOcUaUsSS-THAN ABOVE DOUBLE-LINE EQUAL ABOVE GREATER-THANbkGREATER-THAN ABOVE DOUBLE" ++
    "-LINE EQUALbkLEFTWARDS ARROWpSIMILAR ABOVE GREATER-THANsOR EQUALpLANTED EQUAL ABOVE GREATE" ++
    "R-THAN ABOVE SLANTED EQUALcfND NOT APPROXIMATEpSINGLE-LINE NOT EQUAL TO"),
  ("LESS-THAN BUT NOT EQUAL TO",
    "fIVALENT TOvCLOSED BY CURVEa ABOVE SLANTED EQUALbjEQUAL TO OR GREATER-THANyOR APPROXIMATEl" ++
    "EQUAL TOfIVALENT TOnGREATER-THANmSLANTED EQUAL TOa WITH DOT ABOVEa RIGHTlINSIDEbiVER EQUAL" ++
    " TOnSIGNeWITH CIRCLE INSIDEnDOTdQUESTION MARK ABOVEbgVEL SLIDERlFbIBRA"),
  ("LIGATURE OPEN ET ORNAMENT",
    "wHT CHECK MARKkEIGHT SPOKED ASTERISKvFIVE POINTED BLACK STARsSPOKED ASTERISKtOUR POINTED B" ++
    "LACK CUSPeSTARxGREEK CROSSlLEFT TORTOISE SHELL BRACKET ORNAMENTbkRAILdIGHT TORTOISE SHELL" ++
    " BRACKET ORNAMENTblSALTIREgHADEeIX SPOKED ASTERISKtTHREE POINTED BLACK STAR"),
  ("LIGHT TWELVE POINTED BLACK STAR",
    "zVERTICAL BARmWHITE SQUAREnNINGa MOODa BUBBLEtMBU DIGIT EIGHTfFIVEdOUReNINEeONEdSEVENeIXdT" ++
    "HREEeWOdZEROkEXCLAMATION MARKqLETTER BAbHAdCAbHAdDAbHAdGAbHAcYANeHAcJAbHAdKAbHAdLAcMAcNAbG" ++
    "AdPAbHAdRAcSAbHAcSAdTAbHAcRAdWAcYAaNkQUESTION MARKnSIGN KEMPHRENGjLOOdMUKPHRENGjSA-I"),
  ("LIMBU SMALL LETTER ANUSVARA",
    "iKAcLAcMAcNAbGAdPAcRAcTAoUBJOINED LETTER RAcWAcYAtVOWEL SIGN AaIbUcEaEcIbOaOcUh-CARRIER LE" ++
    "TTERxITED LIABILITY SIGNuNE FEEDeINTEGRATION NOT INCLUDING THE POLEwWITH RECTANGULAR PATH" ++
    " AROUND POLEbcSEMICIRCULAR PATH AROUND POLEbuSEPARATORjTABULATIONa SET"),
  ("LINEAR A SIGN A028B",
    "e100-102g20Bd31Ce301b2b3b4b5b6b7b8b9AbBbCd10b1b2b3AbBbCc4b5b6b7b8b9c20b1b2b3b4b5b6b7b8b9c3" ++
    "0b1b2b3b4b5b6b7b8b9c40b1b2b3b4b5b6b7b8b9c50b1b2b3b4b5b6b7b8b9c60b1b2b3b4b5b6b7b8b9c70b1d40" ++
    "0-VASf1-VASf2-VASf3-VASf4-VASf5-VASf6-VASf7-VASf8-VASf9-VASg10-VASf1-VASf2-VASf3-VAS"),
  ("LINEAR A SIGN A414-VAS",
    "f5-VASf6-VASf7-VASf8-VASh501b2b3b4b5b6b8b9c10b1b2b3b5b6c20b1b3b4b5b6b7b8b9c30b1b2b4b5b6b7b" ++
    "8b9c40b1b2b5b7b8b9c50b1b2b3b4b5b6b7b9c63b4b5b6b8b9c70b1b2b3b4b5b6b7b8b9c80b1b2b3b4b5b6b7b8" ++
    "b9c91b2b4b5b6b8d600b1b2b3b4b6b8b9c10b1b2b3b4b5b6b7b8b9c20b1b2b3b4b6b7b8b9c34b7b8c40"),
  ("LINEAR A SIGN A642",
    "b3b4b5b6b8b9c51b2b3b4b5b6b7b8b9c60b1b2b3b4d701 Ad2 Bd3 Dd4 Ed5 Fd6 Hd7 Jd8 Kd9 Lc-2 L2e3 L" ++
    "3e4 L4e6 L6h10 Wd1 Xd2 Yd3 OMEGAh4 ABBf5 BBe7 DDf26 EYYYh32 JEg800b1b2b3b4b5b6b7dB001b2b3b" ++
    "4b5b6b7b8b9c10b1b3b6b7c20b1aFbMc2aFbMc3aMc4b6b7b8b9c30b1b4b7b8b9c40b1b4b5b6b7b8b9c50"),
  ("LINEAR A SIGN AB051",
    "b3b4b5b6b7b8b9c60b1b5b6b7b9c70b3b4b6b7b8b9c80b1b2b5b6b7d118c20b2b3c31AbBd64c71c80b8c91mB I" ++
    "DEOGRAM B100 MANf2 WOMANh4 DEERg5 EQUIDgF MAREgM STALLIONl6F EWEfM RAMg7F SHE-GOATkM HE-GO" ++
    "ATk8F SOWfM BOARh9F COWfM BULLi20 WHEATh1 BARLEYi2 OLIVEh3 SPICEh5 CYPERUSk30 OIL"),
  ("LINEAR B IDEOGRAM B131 WINE",
    "g2c40 BRONZEi1 GOLDg2b5 WOOLg6c50b1 HORNg2b3b4b7b8b9 CLOTHi60b1b2 GARMENTj3 ARMOURi4b5b6b7" ++
    "b8b9c70b1b2b3 MONTHh4b6 TREEg7b8b9c80b1b2b3b4b5b9c90b1 HELMETk220 FOOTSTOOLl5 BATHTUBk30 S" ++
    "PEARh1 ARROWh2b3 SWORDh4b6c40 WHEELED CHARIOTr1 CHARIOTj2 CHARIOT FRAMEp3 WHEELh5b6"),
  ("LINEAR B IDEOGRAM B248",
    "b9c51b2b3b4 DARTg5b6b7b8b9eVESSEL B155d200b1b2b3b4b5b6b7b8b9c10b1b2b3b4b5b6b7b8b9c21b2b6b7" ++
    "b8b9c50d305uMONOGRAM B127 KAPOg8 KANAKOj33 AREPAh5 MERIh56 TURO2j247 DIPTEtSYLLABLE B001 D" ++
    "Ae2 ROe3 PAe4 TEe5 TOe6 NAe7 DIe8 Ad9 SEf10 Ud1 POe2 SOe3 MEe4 DOe5 MOe6 QAe7 ZA"),
  ("LINEAR B SYLLABLE B020 ZO",
    "e1 QIe3 MUe4 NEe5 A2e6 RUe7 REe8 Id9 PU2g30 NIe1 SAe2 QOe3 RA3f6 JOe7 TIe8 Ed9 PIf40 WIe1" ++
    " SIe2 WOe3 A3e4 KEe5 DEe6 JEe8 NWAg50 PUe1 DUe2 NOe3 RIe4 WAe5 NUe7 JAe8 SUe9 TAf60 RAe1 O" ++
    "d2 PTEf5 JUe6 TA2f7 KIe8 RO2f9 TUf70 KOe1 DWEf2 PEe3 MIe4 ZEe5 WEe6 RA2f7 KAe8 QE"),
  ("LINEAR B SYLLABLE B080 MA",
    "e1 KUe5 AUe7 TWEg90 DWOf1 TWOpMBOL B018b9c22c34c47b9c56c63b4c79c82b3b6b9rK SYMBOLhED PAPER" ++
    "CLIPSpON FACEhPSaTICKgRA SIGNhSU LETTER AaEcBAcCAbHAdDAbZAdEaUcFAcGAbHAdHAbHAdIbJAcKAbHAdL" ++
    "AcMAcNAbGAdOaEcPAbHAdSAbHAdTAbHAcONE MYA BOcCYAdJEUdNAcTIgNA POjSAbHAeUaEbHcWAcXAcYA"),
  ("LISU LETTER YHA",
    "dZAbHAkPUNCTUATION COMMAfFULL STOPyVRE TOURNOIS SIGNrZARDfLAMAeOBSTERfCKa WITH INK PENnING" ++
    "-SHIFT ONEdZEROqGICAL ANDa WITH DOT ABOVEhUBLE OVERBARhUNDERBARpHORIZONTAL DASHpMIDDLE STE" ++
    "MlUNDERBARrORa OVERLAPPING LOGICAL ANDxWITH DOT ABOVEhUBLE OVERBARhUNDERBAR"),
  ("LOGICAL OR WITH HORIZONTAL DASH",
    "pMIDDLE STEMzLLIPOPgNG DASH FROM LEFT MEMBER OF DOUBLE VERTICALbnIVISIONhRUMeLEFT RIGHT AR" ++
    "ROWfDOUBLE ARROWsTACKfWARDS ARROWa FROM BARoDOUBLE ARROWa FROM BARvSQUIGGLE ARROWyRIGHT TA" ++
    "CKfWARDS ARROWa FROM BARoDOUBLE ARROWa FROM BARvSQUIGGLE ARROWbcTION BOTTLEkUS"),
  ("LOUDLY CRYING FACE",
    "qVE HOTELfLETTERjW ASTERISKiBATTERYgRIGHTNESS SYMBOLrDOUBLE PRIME QUOTATION MARKbbKAVYKAa" ++
    " WITH DOTpLINEfER BLADE SCISSORSoFIVE EIGHTHS BLOCKsHALF BLOCKfCIRCLEgINVERSE WHITE CIRCLE" ++
    "uMEDIUM SHADErLEFT BALLPOINT PENmLOCK DIAGONAL LOWER MIDDLE LEFT TO LOWER CENTRE"),
  ("LOWER LEFT BLOCK DIAGONAL LOWER MIDDLE LEFT TO LOWER RIGHT",
    "bgUPPER CENTRE TO LOWER MIDDLE RIGHTmRIGHTlUPPER MIDDLE RIGHTbcLEFT TO LOWER CENTREgMIDDLE" ++
    " RIGHTsUPPER MIDDLE RIGHTbaMIDDLE LEFT TO LOWER CENTREgMIDDLE RIGHTmRIGHTbvCRAYONgFOUNTAIN" ++
    " PENmPAINTBRUSHjENCILgQUADRANT CIRCULAR ARCvSEMICIRCULAR ANTICLOCKWISE ARROW"),
  ("LOWER LEFT TRIANGLE",
    "cULAR MEDIUM SHADEbcONE EIGHTH BLOCKmQUARTER BLOCKrRIGHT BLOCK DIAGONAL LOWER CENTRE TO LO" ++
    "WER MIDDLE RIGHTsUPPER MIDDLE RIGHTmRIGHTvLEFT TO LOWER MIDDLE RIGHTsUPPER CENTREgMIDDLE R" ++
    "IGHTbaMIDDLE LEFT TO UPPER CENTREgMIDDLE RIGHTmRIGHT"),
  ("LOWER RIGHT BLOCK DIAGONAL UPPER MIDDLE LEFT TO UPPER CENTRE",
    "gRIGHTbvCORNER WITH DOTpDROP-SHADOWED WHITE SQUAREbaPENCILgQUADRANT CIRCULAR ARCvSEMICIRCU" ++
    "LAR CLOCKWISE ARROWbbHADOWED WHITE CIRCLEgSQUAREvTRIANGLEcULAR MEDIUM SHADEbdSEVEN EIGHTHS" ++
    " BLOCKtTHREE EIGHTHS BLOCKnQUARTERS BLOCKtRIANGULAR ONE QUARTER BLOCKbgZENGE"),
  ("LOZENGE DIVIDED BY HORIZONTAL RULE",
    "bhREbIbMbOcUGGAGEfNGSeYCIAN LETTER AaNcBaHcDbEaNcGbHbIbJbKaKcLbMaMcNaNcPbQbRbSbTaHbTcUbWbX" ++
    "bZnDIAN LETTER AaNcBbCbDbEaNcFbGbIbKbLaYcMbNaNcObQbRbSaScTaTcUbVbYiTRIANGULAR MARKuING FAC" ++
    "EkMACRONeGEbIC WANDhNETeHAJANI ABBREVIATION SIGNrLETTER AbBAbHAdCAbHAdDAbDAbHAdHAdE"),
  ("MAHAJANI LETTER GA",
    "bHAdHAcIbJAbHAdKAbHAdLAcMAcNAbNAcYAdObPAbHAdRAbRAdSAcTAbHAcTAbHAeUbVAiIGATURE SHRInSECTION" ++
    " MARKlIGN NUKTAqJONG TILE AUTUMNgBACKcMBOOgCHRYSANTHEMUMnEAST WINDiIGHT OF BAMBOOShCHARACT" ++
    "ERSjIRCLESqFIVE OF BAMBOOShCHARACTERSjIRCLESoOUR OF BAMBOOShCHARACTERSjIRCLES"),
  ("MAHJONG TILE GREEN DRAGON",
    "mJOKERfNINE OF BAMBOOShCHARACTERSjIRCLESoORTH WINDkONE OF BAMBOOShCHARACTERSjIRCLESnRCHIDg" ++
    "PLUMeRED DRAGONkSEVEN OF BAMBOOShCHARACTERSjIRCLESpIX OF BAMBOOShCHARACTERSjIRCLESnOUTH WI" ++
    "NDjPRINGfUMMERgTHREE OF BAMBOOShCHARACTERSjIRCLESpWO OF BAMBOOShCHARACTERSjIRCLES"),
  ("MAHJONG TILE WEST WIND",
    "iHITE DRAGONlINTERrKASAR ANGKAfEND OF SECTIONoLETTER AbBAcCAcDAcGAcJAcKAcLAcMAcNAbGAcYAdPA" ++
    "cRAcSAcTAcVAcYAjPASSIMBANGkVOWEL SIGN EbIbObUsLAYALAM AU LENGTH MARKoDATE MARKiIGIT EIGHTf" ++
    "FIVEdOUReNINEeONEdSEVENeIXdTHREEeWOdZEROkFRACTION ONE EIGHTHgFIFTHeORTIETHiHALF"),
  ("MALAYALAM FRACTION ONE ONE-HUNDRED-AND-SIXTIETH",
    "yQUARTERhSIXTEENTHjTENTHeWENTIETHnTHREE EIGHTIETHSkQUARTERSiSIXTEENTHSkTWENTIETHSzLETTER A" ++
    "aAbIbRCHAIC IIjUcBAbHAdCAbHAbILLU KbLaLaLdMbNaNcRRcYiDAbDAbHAdHAcOT REPHiEaEcGAbHAdHAcIaIc" ++
    "JAbHAdKAbHAdLAbLAbLAeMAcNAbGAcNAbNAdYAdOaOcPAbHAdRAbRAdSAbHAcSAdTAbHAcTAbHAcTAeUaU"),
  ("MALAYALAM LETTER VA",
    "bEDIC ANUSVARAnOCALIC LaLcRaRkYAjNUMBER ONE HUNDREDhTHOUSANDmTENkSIGN ANUSVARAhVAGRAHAiCAN" ++
    "DRABINDUkIRCULAR VIRAMAoOMBINING ANUSVARA ABOVEyPARAeVERTICAL BAR VIRAMAsIRAMAeSARGAmVOWEL" ++
    " SIGN AAbIbUcEaEcIaIcOaOcUaUcVOCALIC LaLcRaRbcE AND FEMALE SIGNpSIGN"),
  ("MALE WITH STROKE AND MALE AND FEMALE SIGN",
    "ySIGNsTESE CROSSlMMOTHfNa AND WOMAN HOLDING HANDSxDANCINGhIN BUSINESS SUIT LEVITATINGyTUXE" ++
    "DOjWITH GUA PI MAOkTURBANmAT SIGNhDAIC AFFRICATION MARKqGEMINATION MARKpLETTER ABbDbGbHbIN" ++
    "cKaSAdLbMbNbPbQbRbSaHbZcTaTcZcDUSHENNAiHALQAfINbTcKADdUSHENNAoPUNCTUATION"),
  ("MANDAIC VOCALIZATION MARK",
    "wGOcICHAEAN ABBREVIATION MARK ABOVEfBELOWxLETTER AAYINeLEPHeYINeBETHdHETHfDALETHfHAMEDHhFE" ++
    "cGHIMELfIMELfHEaTHeJAYINeHAYINgKAPHdHAPHfLAMEDHgMEMdNUNdPEcQHOPHeOPHeRESHeSADHEdMEKHfHINdS" ++
    "HINfTAWcETHdHAMEDHhWAWdXAPHdOPHeYODHeZAYINeHAYINnNUMBER FIVEeONEa HUNDREDlTENcWENTY"),
  ("MANICHAEAN PUNCTUATION DOT",
    "a WITHIN DOTmUBLE DOT WITHIN DOTvFLEURONhLINE FILLERlSTAReTWO DOTSuSIGN UDpS SHOEgTELPIECE" ++
    " CLOCKoUAL WHEELCHAIRpP SYMBOL FOR LIGHTHOUSEwLE LEAFiRCHEN HEAD MARKjLETTER -AcAbBAcCAbHA" ++
    "dDAbZAdGAcHAcJAcKAbHAdLAcMAcNAbGAcYAdPAbHAdRAcSAbHAdTAbHAcSAbHAeWAcYAcZAbHA"),
  ("MARCHEN MARK SHAD",
    "jSIGN ANUSVARAiCANDRABINDUpUBJOINED LETTER AbBAcCAbHAdDAbZAdGAcHAcJAcKAbHAdLAcMAcNAbGAcYAd" ++
    "PAbHAdRAcSAbHAdTAbHAcSAbHAeWAcYAcZAbHAuVOWEL SIGN AAcEbIbObUrRIAGE SYMBOLmTIAL ARTS UNIFOR" ++
    "MsSARAM GONDI DIGIT EIGHTfFIVEdOUReNINEeONEdSEVENeIXdTHREEeWOdZEROkLETTER AaAbIbUcBA"),
  ("MASARAM GONDI LETTER BHA",
    "dCAbHAdDAbDAbHAdHAdEbGAbHAdHAcIaIcJAbHAcNYAeKAbHAcSSAeLAbLAdMAcNAbGAcNAcYAdObPAbHAdRAcSAbH" ++
    "AcSAdTAbHAcRAcTAbHAeUaUcVAcYAjRA-KARAgEPHAfSIGN ANUSVARAiCANDRAgHALANTAhNUKTAfVISARGAmVIRA" ++
    "MAfOWEL SIGN AAbIbUcEbIaIcObUaUcVOCALIC RbfCULINE ORDINAL INDICATORyK WORK SYMBOL"),
  ("MASU MARK",
    "hTE DRINKhHEMATICAL BOLD CAPITAL AaLPHAfBaETAeCaHIdDaELTAeIGAMMAhEaPSILONgTAdFbGaAMMAfHbIa" ++
    "OTAeJbKaAPPAfLaAMDAfMaUcNaUcOaMEGAdICRONhPaHIcIbSIdQbRaHOdSaIGMAfTaAUcHETAa SYMBOLmUaPSILO" ++
    "NhVbWbXaIcYbZaETAmDIGIT EIGHTfFIVEdOUReNINEeONEdSEVENeIXdTHREEeWOdZERO"),
  ("MATHEMATICAL BOLD EPSILON SYMBOL",
    "oFRAKTUR CAPITAL AbBbCbDbEbFbGbHbIbJbKbLbMbNbObPbQbRbSbTbUbVbWbXbYbZjSMALL AbBbCbDbEbFbGbH" ++
    "bIbJbKbLbMbNbObPbQbRbSbTbUbVbWbXbYbZpITALIC CAPITAL AaLPHAfBaETAeCaHIdDaELTAfEaPSILONgTAdF" ++
    "bGaAMMAfHbIaOTAeJbKaAPPAfLaAMDAfMaUcNaUcOaMEGAdICRONhPaHIcIbSIdQbRaHOdSaIGMAfTaAU"),
  ("MATHEMATICAL BOLD ITALIC CAPITAL THETA",
    "a SYMBOLmUaPSILONhVbWbXaIcYbZaETAmEPSILON SYMBOLoKAPPA SYMBOLmNABLAfPARTIAL DIFFERENTIALtH" ++
    "I SYMBOLjI SYMBOLjRHO SYMBOLkSMALL AaLPHAfBaETAeCaHIdDaELTAfEaPSILONgTAdFaINAL SIGMAlGaAMM" ++
    "AfHbIaOTAeJbKaAPPAfLaAMDAfMaUcNaUcOaMEGAdICRONhPaHIcIbSIdQbRaHOdSaIGMAfTaAUcHETAfU"),
  ("MATHEMATICAL BOLD ITALIC SMALL UPSILON",
    "hVbWbXaIcYbZaETAkTHETA SYMBOLtKAPPA SYMBOLmNABLAfPARTIAL DIFFERENTIALtHI SYMBOLjI SYMBOLjR" ++
    "HO SYMBOLkSCRIPT CAPITAL AbBbCbDbEbFbGbHbIbJbKbLbMbNbObPbQbRbSbTbUbVbWbXbYbZjSMALL AbBbCbD" ++
    "bEbFbGbHbIbJbKbLbMbNbObPbQbRbSbTbUbVbWbXbYbZnMALL AaLPHAfBaETAeCaHIdDaELTAeIGAMMAhE"),
  ("MATHEMATICAL BOLD SMALL EPSILON",
    "gTAdFaINAL SIGMAlGaAMMAfHbIaOTAeJbKaAPPAfLaAMDAfMaUcNaUcOaMEGAdICRONhPaHIcIbSIdQbRaHOdSaIG" ++
    "MAfTaAUcHETAfUaPSILONhVbWbXaIcYbZaETAkTHETA SYMBOLrDOUBLE-STRUCK CAPITAL AbBbDbEbFbGbIbJbK" ++
    "bLbMbObSbTbUbVbWbXbYjDIGIT EIGHTfFIVEdOUReNINEeONEdSEVENeIXdTHREEeWOdZEROkSMALL AbB"),
  ("MATHEMATICAL DOUBLE-STRUCK SMALL C",
    "bDbEbFbGbHbIbJbKbLbMbNbObPbQbRbSbTbUbVbWbXbYbZvFALLING DIAGONALpRAKTUR CAPITAL AbBbDbEbFbG" ++
    "bJbKbLbMbNbObPbQbSbTbUbVbWbXbYjSMALL AbBbCbDbEbFbGbHbIbJbKbLbMbNbObPbQbRbSbTbUbVbWbXbYbZpI" ++
    "TALIC CAPITAL AaLPHAfBaETAeCaHIdDaELTAfEaPSILONgTAdFbGaAMMAfHbIaOTAeJbKaAPPAfLaAMDA"),
  ("MATHEMATICAL ITALIC CAPITAL M",
    "aUcNaUcOaMEGAdICRONhPaHIcIbSIdQbRaHOdSaIGMAfTaAUcHETAa SYMBOLmUaPSILONhVbWbXaIcYbZaETAmEPS" ++
    "ILON SYMBOLoKAPPA SYMBOLmNABLAfPARTIAL DIFFERENTIALtHI SYMBOLjI SYMBOLjRHO SYMBOLkSMALL Aa" ++
    "LPHAfBaETAeCaHIdDaELTAeOTLESS IbJjEaPSILONgTAdFaINAL SIGMAlGaAMMAfIaOTAeJbKaAPPAfL"),
  ("MATHEMATICAL ITALIC SMALL LAMDA",
    "fMaUcNaUcOaMEGAdICRONhPaHIcIbSIdQbRaHOdSaIGMAfTaAUcHETAfUaPSILONhVbWbXaIcYbZaETAkTHETA SYM" ++
    "BOLtLEFT ANGLE BRACKETnDOUBLE ANGLE BRACKETuFLATTENED PARENTHESISvWHITE SQUARE BRACKEToTOR" ++
    "TOISE SHELL BRACKETbhMONOSPACE CAPITAL AbBbCbDbEbFbGbHbIbJbKbLbMbNbObPbQbRbSbTbUbVbW"),
  ("MATHEMATICAL MONOSPACE CAPITAL X",
    "bYbZjDIGIT EIGHTfFIVEdOUReNINEeONEdSEVENeIXdTHREEeWOdZEROkSMALL AbBbCbDbEbFbGbHbIbJbKbLbMb" ++
    "NbObPbQbRbSbTbUbVbWbXbYbZrRIGHT ANGLE BRACKETnDOUBLE ANGLE BRACKETuFLATTENED PARENTHESISvW" ++
    "HITE SQUARE BRACKEToTORTOISE SHELL BRACKETbgSING DIAGONALpSANS-SERIF BOLD CAPITAL A"),
  ("MATHEMATICAL SANS-SERIF BOLD CAPITAL ALPHA",
    "fBaETAeCaHIdDaELTAfEaPSILONgTAdFbGaAMMAfHbIaOTAeJbKaAPPAfLaAMDAfMaUcNaUcOaMEGAdICRONhPaHIc" ++
    "IbSIdQbRaHOdSaIGMAfTaAUcHETAa SYMBOLmUaPSILONhVbWbXaIcYbZaETAmDIGIT EIGHTfFIVEdOUReNINEeON" ++
    "EdSEVENeIXdTHREEeWOdZEROkEPSILON SYMBOLoITALIC CAPITAL AaLPHAfBaETAeCaHIdDaELTAfE"),
  ("MATHEMATICAL SANS-SERIF BOLD ITALIC CAPITAL EPSILON",
    "gTAdFbGaAMMAfHbIaOTAeJbKaAPPAfLaAMDAfMaUcNaUcOaMEGAdICRONhPaHIcIbSIdQbRaHOdSaIGMAfTaAUcHET" ++
    "Aa SYMBOLmUaPSILONhVbWbXaIcYbZaETAmEPSILON SYMBOLoKAPPA SYMBOLmNABLAfPARTIAL DIFFERENTIALt" ++
    "HI SYMBOLjI SYMBOLjRHO SYMBOLkSMALL AaLPHAfBaETAeCaHIdDaELTAfEaPSILONgTAdF"),
  ("MATHEMATICAL SANS-SERIF BOLD ITALIC SMALL FINAL SIGMA",
    "lGaAMMAfHbIaOTAeJbKaAPPAfLaAMDAfMaUcNaUcOaMEGAdICRONhPaHIcIbSIdQbRaHOdSaIGMAfTaAUcHETAfUaP" ++
    "SILONhVbWbXaIcYbZaETAkTHETA SYMBOLtKAPPA SYMBOLmNABLAfPARTIAL DIFFERENTIALtHI SYMBOLjI SYM" ++
    "BOLjRHO SYMBOLkSMALL AaLPHAfBaETAeCaHIdDaELTAfEaPSILONgTAdFaINAL SIGMAlGaAMMAfHbI"),
  ("MATHEMATICAL SANS-SERIF BOLD SMALL IOTA",
    "eJbKaAPPAfLaAMDAfMaUcNaUcOaMEGAdICRONhPaHIcIbSIdQbRaHOdSaIGMAfTaAUcHETAfUaPSILONhVbWbXaIcY" ++
    "bZaETAkTHETA SYMBOLrCAPITAL AbBbCbDbEbFbGbHbIbJbKbLbMbNbObPbQbRbSbTbUbVbWbXbYbZjDIGIT EIGH" ++
    "TfFIVEdOUReNINEeONEdSEVENeIXdTHREEeWOdZEROkITALIC CAPITAL AbBbCbDbEbFbGbHbIbJbKbLbM"),
  ("MATHEMATICAL SANS-SERIF ITALIC CAPITAL N",
    "bObPbQbRbSbTbUbVbWbXbYbZjSMALL AbBbCbDbEbFbGbHbIbJbKbLbMbNbObPbQbRbSbTbUbVbWbXbYbZoSMALL A" ++
    "bBbCbDbEbFbGbHbIbJbKbLbMbNbObPbQbRbSbTbUbVbWbXbYbZrCRIPT CAPITAL AbCbDbGbJbKbNbObPbQbSbTbU" ++
    "bVbWbXbYbZjSMALL AbBbCbDbFbHbIbJbKbLbMbNbPbQbRbSbTbUbVbWbXbYbZzXIMIZE"),
  ("MAYAN NUMERAL EIGHT",
    "aEENhLEVENgFIFTEENfVEdOURaTEENiNINEaTEENiONEdSEVENaTEENiIXaTEENhTENcHIRTEENgREEeWELVEeOdZE" ++
    "ROrEASURED ANGLEa OPENING LEFTmWITH OPEN ARM ENDING IN ARROW POINTING DOWN AND LEFTeRIGHTo" ++
    "LEFT AND DOWNeUPlRIGHT AND DOWNeUPmUP AND LEFTeRIGHTcfBYcRIGHT ANGLE WITH DOT"),
  ("MEAT ON BONE",
    "kCHANICAL ARMdLEGmDEFAIDRIN CAPITAL LETTER AaIbTIUeBbCbDbEbFbGbHaPcIbJbKaPcLbMbNaGbYcOaEcP" ++
    "bQbRbSbTbUbVbWbXbYaUcZpOMMAfDIGIT EIGHTfFIVEdOUReNINEeONEa ALTERNATE FORMsSEVENeIXdTHREEa" ++
    " ALTERNATE FORMtWOa ALTERNATE FORMsZEROkEXCLAMATION OHoFULL STOPjNUMBER EIGHTEEN"),
  ("MEDEFAIDRIN NUMBER ELEVEN",
    "gFIFTEENgOURTEENiNINETEENiSEVENTEENiIXTEENhTENcHIRTEENhWELVEnSMALL LETTER AaIbTIUeBbCbDbEb" ++
    "FbGbHaPcIbJbKaPcLbMbNaGbYcOaEcPbQbRbSbTbUbVbWbXbYaUcZnYMBOL AIVAuIEVAL COMMAfEXCLAMATION M" ++
    "ARKqQUESTION MARKsUM BLACK CIRCLElOLD WHITE CIRCLErEIGHT POINTED BLACK STAR"),
  ("MEDIUM EIGHT SPOKED ASTERISK",
    "vFIVE SPOKED ASTERISKtLATTENED LEFT PARENTHESIS ORNAMENTzRIGHT PARENTHESIS ORNAMENTbjOUR P" ++
    "OINTED BLACK STARkPINWHEEL STARbaGREEK CROSSlLEFT CURLY BRACKET ORNAMENTwPARENTHESIS ORNAM" ++
    "ENTv-POINTING ANGLE BRACKET ORNAMENTbkMATHEMATICAL SPACE"),
  ("MEDIUM RIGHT CURLY BRACKET ORNAMENT",
    "wPARENTHESIS ORNAMENTv-POINTING ANGLE BRACKET ORNAMENTblSALTIREgHADEeIX POINTED BLACK STAR" ++
    "sSPOKED ASTERISKsMALL WHITE CIRCLEsTHREE POINTED BLACK STARkPINWHEEL STARbbVERTICAL BARmWH" ++
    "ITE CIRCLEgSQUARErETEI MAYEK AHANG KHUDAMlNJIdPUN IYEKjCHEIKHANcEIiDIGIT EIGHTfFIVE"),
  ("MEETEI MAYEK DIGIT FOUR",
    "eNINEeONEdSEVENeIXdTHREEeWOdZEROkLETTER ATIYAfBAbHAMeCHAbILeDDAbHAdHOUdILdEbGHOUdOKdHUKdIa" ++
    " LONSUMiJHAMdILdKHOUdOKa LONSUMkLAIa LONSUMkMITa LONSUMkNAa LONSUMiGOUa LONSUMkNAcYAdObPAa" ++
    " LONSUMiHAMeRAIdSAMcHAcSAdTHOUdILa LONSUMjTAbHAeUNcWAIdYANGkUM IYEK"),
  ("MEETEI MAYEK SYLLABLE REPETITION MARK",
    "yVIRAMAfOWEL SIGN AAIbUcNAPdUcCHEINAPhIIbNAPeNUNGeONAPeSOUNAPgUNAPdUcVISARGAhYENAPqWORD RE" ++
    "PETITION MARKbfLONcTING FACEkMOcNDE KIKAKUI COMBINING NUMBER HUNDRED THOUSANDSkSiMILLIONSi" ++
    "TEENSdN THOUSANDSkSdHOUSANDSbaDIGIT EIGHTfFIVEdOUReNINEeONEdSEVENeIXdTHREEeWO"),
  ("MENDE KIKAKUI SYLLABLE M001 KI",
    "e2 KAe3 KUe4 WIe5 WAe6 WUe7 MINf8 MANf9 MUNg10 BIe1 BAe2 BUe3 Id4 Ad5 Ud6 DIe7 DAe8 DUe9 S" ++
    "If20 SAe1 SUe2 TIe3 TAe4 TUe5 LIe6 LAe7 LUe8 JIe9 JAf30 JUe1 YIe2 YAe3 YUe4 FIe5 FAe6 FUe7" ++
    " NINf8 NANf9 NUNg40 HEEf1 HAe2 HOOf3 NGGAg4 KPEEg5 WOe6 HUANg7 MBEEg8 KOe9 WVAg50 PU"),
  ("MENDE KIKAKUI SYLLABLE M051 PE",
    "e2 HENf3 HINf4 LOOf5 TEe6 GBAf7 NGONg8 NYANg9 MENg60 NYONg1 WVIf2 MBAf3 JOe4 NDOf5 KEEf6 P" ++
    "Oe7 NDOOg8 PIe9 TOf70 GBOf1 GBOOg2 MBEf3 LEe4 KPUf5 FEe6 KOOf7 VOe8 FEEf9 SOf80 YEe1 PEEf2" ++
    " NGGUg3 HEEIg4 LEEf5 VEe6 LONG NGGEl7 HUNf8 FOe9 DEEg90 NGGIg1 TEEf2 KPAf3 GBEE"),
  ("MENDE KIKAKUI SYLLABLE M094 MON",
    "f5 KEe6 HEe7 BEe8 NYENg9 PAg100 Ed1 FANf2 POOf3 BOOf4 TOOf5 LONG MBOOl6 LONG NGGOOm7 GBEf8" ++
    " KPEf9 YEEg10 LONG LEj1 GAe2 KPOOg3 JEe4 WOOf5 NGGEEh6 SEe7 NENf8 WEe9 NDEg20 NGGOg1 YOe2" ++
    " MBUf3 NDIf4 GBIf5 NDUf6 WEEf7 NGGUAh8 HOOUg9 NDAg30 HANf1 INe2 KPIf3 FOOf4 NJOOg5 IN"),
  ("MENDE KIKAKUI SYLLABLE M136 SOO",
    "f7 EIe8 BOe9 WVEg40 HOe1 YOOf2 LONG MBOk3 WEIf4 VOOf5 MBIf6 NGGEg7 Od8 GBUf9 NJEEh50 BEEf1" ++
    " VUe2 NJAf3 LOe4 MUANg5 GIe6 NGGOOh7 JEEf8 KPOf9 NGGAAi60 JOOf1 LONG MBEk2 SEEf3 EEe4 NYIN" ++
    "g5 OOe6 GUEIg7 GUANg8 GUe9 NONg70 NYUNg1 RAe2 MBOOg3 VEEf4 MBOf5 LONG JOj6 HI"),
  ("MENDE KIKAKUI SYLLABLE M177 NGUAN",
    "h8 ENe9 KUAg80 DOOf1 DOe2 VIe3 LONG NGGOl4 NGENg5 VAe6 HUe7 MBUUg8 MBEEg9 MUENh90 GEEf1 ND" ++
    "EEg2 NJUf3 HONf4 WUIf5 ANe6 SIAf7 FUAbcORAH WITH NINE BRANCHESxS SYMBOLjRCURYeOITIC CURSIV" ++
    "E FRACTION EIGHT TWELFTHSnLEVEN TWELFTHSpFIVE TWELFTHSmOUR TWELFTHSnNINE TWELFTHS"),
  ("MEROITIC CURSIVE FRACTION ONE HALF",
    "eTWELFTHlSEVEN TWELFTHSnIX TWELFTHSmTEN TWELFTHSlHREE TWELFTHSnWO TWELFTHSvLETTER AaRCHAIC" ++
    " SAkBAcDAcEbHHAdIbKAbHAdLAcMAcNAbEcObPAcQAcRAcSAbEcTAbEbOcWAcYAiOGOGRAM IMNdRMTmNUMBER EIG" ++
    "HTa HUNDREDa THOUSANDqTHOUSANDjY THOUSANDpFIFTYa THOUSANDmVEa HUNDREDa THOUSAND"),
  ("MEROITIC CURSIVE NUMBER FIVE THOUSAND",
    "mORTYa THOUSANDmURa HUNDREDa THOUSANDqTHOUSANDnNINEa HUNDREDa THOUSANDqTHOUSANDjTY THOUSAN" ++
    "DpONEa HUNDREDa THOUSANDqTHOUSANDmSEVENa HUNDREDa THOUSANDqTHOUSANDjTYa THOUSANDpIXa HUNDR" ++
    "EDa THOUSANDqTHOUSANDjTYa THOUSANDoTENa THOUSANDlHIRTYa THOUSANDnREEa HUNDRED"),
  ("MEROITIC CURSIVE NUMBER THREE HUNDRED THOUSAND",
    "qTHOUSANDnWENTYa THOUSANDnOa HUNDREDa THOUSANDqTHOUSANDbbHIEROGLYPHIC LETTER AbBAa-2eDAcEb" ++
    "HHAdIbKAbHAdLAcMAcNAa-2dEa-2eObPAcQAcRAa-2eSAa-2dEcTAa-2dEa-2dOcWAcYAjSYMBOL VIDJa-2bgPERS" ++
    "ONhSSAGE WAITINGnTRICAL BREVEfLONG OVER SHORTfTWO SHORTSuPENTASEMEjSHORT OVER LONG"),
  ("METRICAL TETRASEME",
    "iRISEMEgWO SHORTS JOINEDgOVER LONGzOeIAO LETTER AHbRCHAIC MAcNAbGAdZZAlBAbRIdDAbDAcLHAbYAe" ++
    "ZAbHAcYIcZAeFAcGAbHAbHAeHAbHAdKAcLAbHAbYAdYAdMAbHAdNAaSALIZATIONlGAbHAdHAcNAbHAdYAbHAePAbL" ++
    "AdQAbGAdREFORMED TONE-1b2b4b5b6b8fSHAmTEdSAbHAcSAcYIdTAbEbLHAbYAeONE-2b3b4b5b6b7b8"),
  ("MIAO LETTER TSA",
    "bEbHAcSAdTAdVAbFAdWAcXAcYI DZHAeKAcNNAdPAcTAbSAbHAdTAgZAbHAcSAbHAdZAbSAbYAdYAlSIGN ASPIRAT" ++
    "IONkCONSONANT MODIFIER BARwREFORMED ASPIRATIONkVOICINGvTONE ABOVEfBELOWfRIGHTfTOP RIGHToVO" ++
    "WEL SIGN AaAbEaEcHHcIbNaGcUcEaAbIbNaGcRaRdIaAaNaGdEbGbIbNGcOaNGdUcNaGcOaERbYcGbObU"),
  ("MIAO VOWEL SIGN ROUNDED ER",
    "aRlUaAaNaGdEIcIbNGcOGcUcVWcWaOcYaIbUIrCR DASH SYMBOLlON US SYMBOLnO SIGNfBEcPHONEfSCOPEiDD" ++
    "LE DOTdTHIRD WHITE RIGHT POINTING INDEXbkLINE HORIZONTAL ELLIPSISzLITARY HELMETgMEDALlKY W" ++
    "AYgL SIGNhNIBUSdDISCeMIZEfUS SIGNa IN TRIANGLElWITH COMMA ABOVElDOT BELOW"),
  ("MINUS SIGN WITH FALLING DOTS",
    "mRISING DOTSvTILDEg-OR-PLUS SIGNpYcRRORa BALLkMSPdOBILE PHONEa OFFdWITH RIGHTWARDS ARROW A" ++
    "T LEFTboDELScRN PENTATHLONoI ABBREVIATION SIGNrDANDAeIGIT EIGHTfFIVEdOUReNINEeONEdSEVENeIX" ++
    "dTHREEeWOdZEROjOUBLE DANDAmLETTER AaAbIbUcBAbHAdCAbHAdDAbDAbHAdHAdEbGAbHAdHAcIaIcJA"),
  ("MODI LETTER JHA",
    "dKAbHAdLAbLAdMAcNAbGAcNAcYAdObPAbHAdRAcSAbHAcSAdTAbHAcTAbHAeUaUcVAbOCALIC LaLcRaRkYAjSIGN" ++
    " ANUSVARAhRDHACANDRAlHUVAeVIRAMAeSARGAmVOWEL SIGN AAbIbUcEbIaIcObUaUcVOCALIC LaLcRaRwFIER" ++
    " BREVE WITH INVERTED BREVEzLETTER ACUTE ACCENTlLVEOLAR CLICKnPOSTROPHEkBEGIN HIGH TONE"),
  ("MODIFIER LETTER BEGIN LOW TONE",
    "nILABIAL CLICKoCAPITAL AaEcBaARRED BiCbDbEbFbGbHa WITH STROKEnIbJbKbLbMbNbOaUcPbQbRaEVERSE" ++
    "D EbNkTbUbVbWiENTRED LEFT HALF RINGoRIGHT HALF RINGwHINESE TONE YANG PINGeQUcRUcSHANGjIN P" ++
    "INGeQUcRUcSHANGvIRCUMFLEX ACCENTqOLONeROSS ACCENTlYRILLIC ENcHARD SIGNjSOFT SIGN"),
  ("MODIFIER LETTER DENTAL CLICK",
    "lOT HORIZONTAL BARoSLASHfVERTICAL BARoUBLE APOSTROPHEkPRIMEkWN ARROWHEADjTACKjEND HIGH TON" ++
    "EjLOW TONElXTRA-HIGH DOTTED LEFT-STEM TONE BARsTONE BARpLEFT-STEM TONE BARsTONE BARnLOW DO" ++
    "TTED LEFT-STEM TONE BARsTONE BARpLEFT-STEM TONE BARsTONE BARsGEORGIAN NAR"),
  ("MODIFIER LETTER GLOTTAL STOP",
    "a WITH STROKExRAVE ACCENTmHALF TRIANGULAR COLONuIGH DOTTED LEFT-STEM TONE BARsTONE BARpLEF" ++
    "T-STEM TONE BARsTONE BARnLATERAL CLICKmEFT ARROWHEADjHALF RINGjTACKiOW ACUTE ACCENTmCIRCUM" ++
    "FLEX ACCENTrDOTTED LEFT-STEM TONE BARsTONE BARnWN ARROWHEADoGRAVE ACCENT"),
  ("MODIFIER LETTER LOW INVERTED EXCLAMATION MARK",
    "zLEFT ARROWaHEADk-STEM TONE BARsMACRONgRIGHT ARROWHEADnNGeTILDEeONE BARiUP ARROWHEADmVERTI" ++
    "CAL LINEoER RIGHT CORNER ANGLEyMACRONfID DOTTED LEFT-STEM TONE BARsTONE BARpLEFT-STEM TONE" ++
    " BARsTONE BARjDLE DOUBLE ACUTE ACCENTmGRAVE ACCENTtGRAVE ACCENTrNUS SIGNkOPEN SHELF"),
  ("MODIFIER LETTER PLUS SIGN",
    "iRIMEfRAISED COLONfDOWN ARROWkEXCLAMATION MARKqINVERTED EXCLAMATION MARKzUP ARROWoETROFLEX" ++
    " CLICK WITH RETROFLEX HOOKbhVERSED COMMAfGLOTTAL STOPa WITH STROKEbgHOTIC HOOKkIGHT ARROWH" ++
    "EADjHALF RINGjTACKkSHELFdORT EQUALS SIGNqMALL AaEbINcLPHAfBa WITH HOOKkARRED OhETA"),
  ("MODIFIER LETTER SMALL BOTTOM HALF O",
    "nCa WITH CURLkAPITAL AAcBbGa WITH HOOKlHbIa WITH STROKEmNVERTED RkLa WITH BELTlNbOEcRbUbYi" ++
    "HIcLOSED OMEGAfREVERSED OPEN EwDa WITH HOOKa AND TAILnTAILkELTAdZH DIGRAPHlOTLESS J WITH S" ++
    "TROKEa AND HOOKbdZ DIGRAPHa WITH CURLeRETROFLEX HOOKbeEaNGcSHcTHcZHdFaENG DIGRAPHmG"),
  ("MODIFIER LETTER SMALL G WITH HOOK",
    "kAMMAeREEK GAMMAfPHIjHa WITH HOOKeSTROKEmENGa WITH HOOKoI WITH STROKEmOTAeJa WITH CROSSED-" ++
    "TAILtKbLa WITH BELTeINVERTED LAZY SpMIDDLE TILDEmPALATAL HOOKmRETROFLEX HOOKa AND BELTbdEZ" ++
    "Ha WITH RETROFLEX HOOKxIGATURE OEkS DIGRAPHjZ DIGRAPHkMa WITH HOOKlN WITH LEFT HOOK"),
  ("MODIFIER LETTER SMALL N WITH RETROFLEX HOOK",
    "vOa WITH STROKEmPEN EbOgPaHIdQbRa WITH FISHHOOKiTAILkAMS HORNiEVERSED EbGLOTTAL STOPmOPEN" ++
    " EpSa WITH CURLeHOOKkCHWAdRIPT GhIDEWAYS UkTa WITH PALATAL HOOKmRETROFLEX HOOKuC DIGRAPH W" ++
    "ITH CURLtESH DIGRAPHlHETAeOP HALF OjS DIGRAPHa WITH RETROFLEX HOOKbdURNED AaEbLPHAfH"),
  ("MODIFIER LETTER SMALL TURNED I",
    "bMa WITH LONG LEGpOPEN EgRa WITH HOOKeLONG LEGa AND RETROFLEX HOOKbiVbWbYa WITH BELTsUa BA" ++
    "RdWITH LEFT HOOKpPSILONhVa WITH HOOKeRIGHT HOOKrWbXbYbZa WITH CURLeRETROFLEX HOOKbaTRESS A" ++
    "ND HIGH TONEjLOW TONEsUPERSCRIPT HALF TRIANGULAR COLONvTRIANGULAR COLON"),
  ("MODIFIER LETTER TRIANGULAR COLON",
    "pURNED COMMAmUNASPIRATEDkP ARROWHEADjTACKgScVERTICAL LINEmOICINGhYANG DEPARTING TONE MARKx" ++
    "IN DEPARTING TONE MARKbkULO TWO SUMmNEY BAGdWITH WINGSl-MOUTH FACEnGOLIAN BIRGAa WITH DOUB" ++
    "LE ORNAMENTpORNAMENTtCOLONdMMAfDIGIT EIGHTfFIVEdOUReNINEeONEdSEVENeIXdTHREEeWOdZERO"),
  ("MONGOLIAN DOUBLE BIRGA WITH ORNAMENT",
    "baELLIPSISiFOUR DOTSiREE VARIATION SELECTOR FOUReONEdTHREEeWObaULL STOPjINVERTED BIRGAa WI" ++
    "TH DOUBLE ORNAMENTbjLETTER AaLI GALI AaHbNUSVARA ONEmBALUDAgCAcDAaGALGAfMARUfDAdHALF UbYAh" ++
    "IaNVERTED UBADAMAqKAcNGAcNAdPAbHAdSSAdTAbHREE BALUDAlTAbHAeUBADAMAhVISARGA ONElZAbHA"),
  ("MONGOLIAN LETTER ANG",
    "dBAcCHAa WITH TWO DOTSpIdDAcEaEcFAcGAcHAAdIbJAcKAbHAdLAbHAdMAaNCHU ALI GALI BHAdCAbYAdDDHA" ++
    "dHAdGHAdJHAdLHAdNGAdSSAdTAbTAdZAbHAmFAcIbKAcRAcZHAkNAcOaEcPAcQAcRAcSAbHAcIBE ANGdCHAdDAcEb" ++
    "FAcGAaAdHAaAdIaYcJAcKAcPAcRAAdSHAdTAbSAdUaEcZAbHAiTAbODO ALI GALI TAcZHAlNGdBAcCHA"),
  ("MONGOLIAN LETTER TODO DA",
    "bZAdEbGAaAdHAAdIbJAbIAdKAcLONG VOWEL SIGNpMAcNIAdOaEcPAcQAcTAbSAdUaEcWAcYAgSAdUaEcWAcYAcZA" ++
    "bHIcRAkMANCHU COMMAfFULL STOPqNIRUGUgROTATED BIRGAa WITH DOUBLE ORNAMENTpORNAMENTbbSIBE SY" ++
    "LLABLE BOUNDARY MARKERbcWIRL BIRGAa WITH DOUBLE ORNAMENTpORNAMENTzTODO SOFT HYPHEN"),
  ("MONGOLIAN TRIPLE BIRGA WITH ORNAMENT",
    "zURNED SWIRL BIRGA WITH DOUBLE ORNAMENTbnVOWEL SEPARATORwKEYa FACEiOGRAM FOR EARTHfYANGdIN" ++
    "mRAILeSTABLE SYMBOLpOD BUBBLEiN CAKEeVIEWING CEREMONYtSQUEbITOgTHER CHRISTMASnOR BOATeSCOO" ++
    "TERiIZED WHEELCHAIRpWAYgUNT FUJIfAINa BICYCLISTjCABLEWAYiRAILWAYnSEa FACEeTRAPhTH"),
  ("MOVIE CAMERA",
    "kYAIeRO DANDAeIGIT EIGHTfFIVEdOUReNINEeONEdSEVENeIXdTHREEeWOdZEROjOUBLE DANDAmLETTER AbBAc" ++
    "CHUdDAaIdEaAcHAIbOdKEAAEeHAIdOcLAaNdMAEMdIMdNGIcINdOaLbOcPAbHIdRIbOcSHIdTAbEKcHEAeWAcYOmUC" ++
    "H GREATER-THANmLESS-THANmLTANI LETTER AbBAbHAdCAbHAdDAbDAbDAcHAdHAdEbGAbHAdHAcIbJA"),
  ("MULTANI LETTER JJA",
    "dKAbHAdLAcMAcNAbNAcYAdPAbHAdRAbHAcRAdSAcTAbHAcTAbHAeUbVAcYAjSECTION MARKqIMAPdPLE MUSICAL" ++
    " NOTESpICATION SIGNa IN DOUBLE CIRCLEnLEFT HALF CIRCLEqRIGHT HALF CIRCLErTRIANGLElWITH DOT" ++
    " ABOVEjUNDERBARsXlSETa MULTIPLICATIONoUNIONmSHROOMfIC FLAT SIGNjNATURAL SIGN"),
  ("MUSIC SHARP SIGN",
    "lAL KEYBOARDa WITH JACKStNOTEeSCOREeYMBOL ARPEGGIATO DOWNeUPnBEGIN BEAMePHRASEgSLUReTIEiRA" ++
    "CEbKETfEATH MARKiVEbISa RESTlC CLEFfAESURAgIRCLE X NOTEHEADqLIMACUSfVISeUSTER NOTEHEAD BLA" ++
    "CKfWHITEvODAcMBINING ACCENTa-STACCATOoUGMENTATION DOTqBENDeDOITcUBLE TONGUElWN BOW"),
  ("MUSICAL SYMBOL COMBINING FLAG-1",
    "b2b3b4b5eIPeHARMONICiLOUREfMARCATOa-STACCATOqRIPdSMEAReNAP PIZZICATOnPRECHGESANG STEMqTACC" ++
    "ATISSIMOgOgEMeTENUTOfREMOLO-1b2b3hIPLE TONGUEnUP BOWnMON TIMEkRESCENDOhOIXeUT TIMEiDA CAPO" ++
    "fL SEGNOhMPa ALLgSHED BARLINEnECRESCENDOjGREE SLASHlOUBLE BARLINEhFLATeSHARP"),
  ("MUSICAL SYMBOL DRUM CLEF-1",
    "b2lEIGHTH NOTEeRESTkND BEAMeOF STIMMEjPHRASEgSLUReTIEhF CLEFa OTTAVA ALTAeBASSAsERMATAa BE" ++
    "LOWmINAL BARLINEkGERED TREMOLO-1b2b3qVE-LINE STAFFoLAT DOWNeUPgORTEdUR-LINE STAFFkSTRING F" ++
    "RETBOARDuUSA BLACKfWHITEkG CLEFa OTTAVA ALTAeBASSAsLISSANDO DOWNeUP"),
  ("MUSICAL SYMBOL GRACE NOTE NO SLASH",
    "iSLASHoEGORIAN C CLEFgF CLEFqHALF NOTEePEDAL MARKkRESThUPTSTIMMElINVERTED TURNnKIEVAN C CL" ++
    "EFgEIGHTH NOTE STEM DOWNeUPsND OF PIECEmFINAL NOTEjLAT SIGNjHALF NOTEjQUARTER NOTE STEM DO" ++
    "WNeUPuRECITATIVE MARKpWHOLE NOTEqORONfLEFT REPEAT SIGNpONGAa IMPERFECTA REST"),
  ("MUSICAL SYMBOL LONGA PERFECTA REST",
    "tMAXIMAfEZZOeINIMAa BLACKfRESTkOON NOTEHEAD BLACKfWHITEsULTI RESTfPLE MEASURE RESTvNATURAL" ++
    " DOWNeUPjEBENSTIMMEkOTEHEAD BLACKnULL NOTEHEADnONE HUNDRED TWENTY-EIGHTH NOTEeRESTbb-LINE" ++
    " STAFFnRNAMENT STROKE-1a0b1c2b3b4b5b6b7b8b9qTTAVA ALTAeBASSAmPARENTHESIS NOTEHEAD"),
  ("MUSICAL SYMBOL PEDAL MARK",
    "eUP MARKlS SUBPUNCTISnIANOeLUS NOTEHEADmODATUSfRRECTUSa FLEXUSqQUARTER NOTEeRESTeTONE FLAT" ++
    "eSHARPqINDICESIMA ALTAeBASSAsREPEAT DOTSfED FIGURE-1b2b3pVERSE FINAL BARLINEuIGHT REPEAT S" ++
    "IGNpNFORZANDOlSCANDICUSa FLEXUSpEGNOdMIBREVIS BLACKfRESTeWHITEmMINIMA BLACKfREST"),
  ("MUSICAL SYMBOL SEMIMINIMA WHITE",
    "pHARP DOWNeUPgORT BARLINEmINGLE BARLINEmX-LINE STAFFkSTRING FRETBOARDrTEENTH NOTEeRESTkY-F" ++
    "OURTH NOTEeRESTqORIdQUARE BbNOTEHEAD BLACKfWHITEuUBITOgTEMPUS IMPERFECTUM CUM PROLATIONE I" ++
    "MPERFECTAa DIMINUTION-1b2b3xPERFECTAbjPERFECTUM CUM PROLATIONE IMPERFECTAkPERFECTA"),
  ("MUSICAL SYMBOL TEMPUS PERFECTUM CUM PROLATIONE PERFECTA DIMINUTION-1",
    "caHIRTY-SECOND NOTEeRESTqREE-LINE STAFFpORCULUSa RESUPINUSrRaIANGLE NOTEHEAD DOWN BLACKfWH" ++
    "ITEkLEFT BLACKfWHITEkRIGHT BLACKfWHITElUP BLACKfRIGHT BLACKfWHITElWHITEs-ROUND NOTEHEAD DO" ++
    "WN BLACKfWHITEbhURNa SLASHfUPgWO-LINE STAFFoVIRGAeOID NOTEHEADnWHOLE NOTEeREST"),
  ("MUSICAL SYMBOL WITH FINGERNAILS",
    "qX NOTEHEADkZpVScWbYANMAR CONSONANT SIGN MEDIAL HAcRAcWAcYAiON MEDIAL LAcMAcNAnSHAN MEDIAL" ++
    " WAbdDIGIT EIGHTfFIVEdOUReNINEeONEdSEVENeIXdTHREEeWOdZEROkLETTER AaITON RAhUcBAbHAdCAbHAdD" ++
    "AbDAbHAdHAdEaASTERN PWO KAREN GHWAeNNAdYWAvGAbHAcREAT SAiHAcIaIcJAbHAdKAbHAaMTI CA"),
  ("MYANMAR LETTER KHAMTI CHA",
    "dDDAbHAdHAdFAcGAcHAbHAdJAbHAdLLAdNAbYAdRAcSAcTTAbHAeXAcZAjLAbLAdMAbON BBAbEdEbJHAdNGAhNAbG" ++
    "AcNAbYAdYAdObPAbHAdRAbUMAI PALAUNG FAqSAbGAW KAREN SHAnHAaN AbBAbHAdCAbHAdDAcFAcGAbHAdHAcJ" ++
    "HAdKAbHAdNAbNAcYAdPHAdTHAdZAfWE PALAUNG CHAdSHApSAdTAaI LAING BAbHAdDAbDAbHAdHAdFA"),
  ("MYANMAR LETTER TAI LAING GA",
    "bHAdJAbHAdLLAdNNAcYAmHAcTAbHAeUaUcVOCALIC LaLcRaRkWAbESTERN PWO KAREN PWAdTHAvYAiOGOGRAM K" ++
    "HAMTI HMcOAYdQNsMODIFIER LETTER KHAMTI REDUPLICATIONuSHAN REDUPLICATIONbiSHAN DIGIT EIGHTf" ++
    "FIVEdOUReNINEeONEdSEVENeIXdTHREEeWOdZEROoIGN ANUSVARAhSATeDOT BELOWjKHAMTI TONE-1b3"),
  ("MYANMAR SIGN LITTLE SECTION",
    "oPAO KAREN TONEoRUMAI PALAUNG TONE-5uSECTIONgHAN COUNCIL EMPHATIC TONEnTONE-2b3oSAWdTONE-2" ++
    "b3b5b6lTAI LAING TONE-2b5qVIRAMAeSARGAhWESTERN PWO KAREN TONE-1b2b3b4b5bcYMBOL AFOREMENTI" ++
    "ONEDnITON EXCLAMATIONlONEdTWOjCOMPLETEDjGENITIVEiLOCATIVEiSHAN EXCLAMATIONlONE"),
  ("MYANMAR TAI LAING DIGIT EIGHT",
    "fFIVEdOUReNINEeONEdSEVENeIXdTHREEeWOdZEROtONE MARK SGAW KAREN HATHIfKE PHObbVOWEL SIGN AAb" ++
    "IaTON AaIiEa ABOVEhGEBA KAREN ImIaIcKAYAH EEcOEcUhMON IIcOfSGAW KAREN EUmHAN AAcEa ABOVEhF" ++
    "INAL YmTALL AAhUaUcVOCALIC LaLcRaRkWESTERN PWO KAREN EUcUE"),
  ("N-ARY CIRCLED DOT OPERATOR",
    "mPLUS OPERATORnTIMES OPERATORvOPRODUCTjINTERSECTIONmLOGICAL ANDdORkPRODUCThSQUARE INTERSEC" ++
    "TION OPERATORvUNION OPERATORuUMMATIONjTIMES OPERATORoUNIONa OPERATOR WITH DOTdPLUSyWHITE V" ++
    "ERTICAL BARxABATAEAN CRUCIFORM NUMBER FOURvLETTER ALEPHeYINeBETHeDALETHgFINAL ALEPH"),
  ("NABATAEAN LETTER FINAL BETH",
    "eHEcKAPHeLAMEDHgMEMdNUNdSHINeYODHkGIMELfHEaTHeKAPHeLAMEDHgMEMdNUNdPEcQOPHeRESHeSADHEdMEKHf" ++
    "HINeTAWcETHeWAWdYODHeZAYINmNUMBER FIVEdOUReONEa HUNDREDlTENcHREEeWENTYeOrLAdIL POLISHiRA S" ++
    "IGNiKbME BADGEiNDaINAGARI HEADSTROKEkLETTER AaAbIbUcBAbHAdCAbHAdDAbDAbHAdHAdEbGAbHA"),
  ("NANDINAGARI LETTER HA",
    "cIaIcJAbHAdKAbHAdLAbLAdMAcNAbGAcNAcYAdObPAbHAdRAbRAdSAbHAcSAdTAbHAcTAbHAeUaUcVAbOCALIC RaR" ++
    "kYAjSIGN ANUSVARAhVAGRAHAiSIDDHAMhVIRAMAeSARGAmVOWEL SIGN AAbIbUcEbIaIcObPRISHTHAMATRA EpU" ++
    "aUcVOCALIC RaRbfRROW NO-BREAK SPACEtTIONAL DIGIT SHAPESmPARKlUSEATED FACEmZAR AMULET"),
  ("NBH",
    "bSPdECKTIEfGATED DOUBLE VERTICAL BAR DOUBLE RIGHT TURNSTILEbtIVE ACKNOWLEDGElCIRCLED DIGIT" ++
    " ZEROkLATIN CAPITAL LETTER AbBbCbDbEbFbGbHbIbJbKbLbMbNbObPbQbRbSbTbUbVbWbXbYbZwNUMBER EIGH" ++
    "TEENhLEVENgFIFTEENgOURTEENiNINETEENiSEVENTEENiIXTEENhTHIRTEENhWELVEdNTYnSQUARE"),
  ("NEGATIVE CIRCLED TRIANGLE",
    "qDIAGONAL CROSSfDIAMONDhMIDDLE RIGHT TO LOWER CENTREblSQUARED ABcCROSS MARKkICcLATIN CAPIT" ++
    "AL LETTER AbBbCbDbEbFbGbHbIbJbKbLbMbNbObPbQbRbSbTbUbVbWbXbYbZwPAcQUESTION MARKnSAcWCrITHER" ++
    " A SUBSET OF NOR EQUAL TOuPERSET OF NOR EQUAL TOzPPROXIMATELY NOR ACTUALLY EQUAL TO"),
  ("NEITHER GREATER-THAN NOR EQUAL TO",
    "fIVALENT TOnLESS-THANbaLESS-THAN NOR EQUAL TOfIVALENT TOnGREATER-THANbgLbPTUNEa FORM TWOoR" ++
    "D FACEhSSUSdT WITH EGGSkING DOLLSlUTERcRAL CHESS BISHOPa ROTATED NINETY DEGREESoTWO HUNDRE" ++
    "D SEVENTY DEGREESbqEQUIHOPPERa ROTATED NINETY DEGREESbhKINGa ROTATED NINETY DEGREES"),
  ("NEUTRAL CHESS KING ROTATED TWO HUNDRED SEVENTY DEGREES",
    "bnNIGHTa ROTATED FORTY-FIVE DEGREESsNINETY DEGREESoONE HUNDRED THIRTY-FIVE DEGREESbfTHREE" ++
    " HUNDRED FIFTEEN DEGREESbcWO HUNDRED SEVENTY DEGREESpTWENTY-FIVE DEGREESbuPAWNa ROTATED NI" ++
    "NETY DEGREESoTWO HUNDRED SEVENTY DEGREESboQUEENa ROTATED NINETY DEGREES"),
  ("NEUTRAL CHESS QUEEN ROTATED TWO HUNDRED SEVENTY DEGREES",
    "bpROOKa ROTATED NINETY DEGREESoTWO HUNDRED SEVENTY DEGREESboTURNED BISHOPgKINGdNIGHTgPAWNe" ++
    "QUEENfROOKrFACEkW LINEeMOON SYMBOLgWITH FACEoSHEQEL SIGNlTAI LUE DIGIT EIGHTfFIVEdOUReNINE" ++
    "eONEdSEVENeIXdTHREEeWOdZEROkLETTER FINAL BbDbKbMbNaGcVhHIGH BAcDAcFAcHAcKAbVAdLAcMA"),
  ("NEW TAI LUE LETTER HIGH NA",
    "bGAdPAbHAdQAcSAbUAdTAbHAcSAdVAcXAbVAdYAhLOW BAcDAcFAcHAcKAbVAdLAcMAcNAbGAdPAbHAdQAcSAbUAdT" ++
    "AbHAcSAdVAcXAbVAdYAnSIGN LAEaVjTHAM DIGIT ONEnONE MARK-1b2lVOWEL SIGN AAaYcEbYcEbIIbYcOaAa" ++
    "YcYcUaEaYcUbYcVOWEL SHORTENERbjA ABBREVIATION SIGNrCOMMAfDANDAeIGIT EIGHTfFIVEdOUR"),
  ("NEWA DIGIT NINE",
    "eONEdSEVENeIXdTHREEeWOdZEROjOUBLE COMMAfDANDAmGAP FILLERkINSERTION SIGNoLETTER AaAbIbUcBAb" ++
    "HAdCAbHAdDAbDAbHAdHAdEbGAbHAdHAcIaIcJAbHAdKAbHAdLAbHAdMAbHAdNAbGAbHAdHAcNAcYAbHAeObPAbHAdR" ++
    "AbHAdSAbHAcSAdTAbHAcTAbHAeUaUcVEDIC ANUSVARAnOCALIC LaLcRaRkWAcYAjOM"),
  ("NEWA PLACEHOLDER MARK",
    "qSANDHI MARKkIDDHIeGN ANUSVARAhVAGRAHAiCANDRABINDUlFINAL ANUSVARAoJIHVAMULIYAlNUKTAfUPADHM" ++
    "ANIYAlVIRAMAeSARGAmVOWEL SIGN AAbIbUcEbIaIcObUaUcVOCALIC LaLcRaRxLINE LEFTeRIGHTkSPAPERhXT" ++
    " LINEePAGEiIGHT WITH STARSoNJAeKO COMBINING DOUBLE DOT ABOVEqLONG DESCENDING TONE"),
  ("NKO COMBINING LONG HIGH TONE",
    "jLOW TONEiRISING TONEqNASALIZATION MARKrSHORT HIGH TONEjLOW TONEiRISING TONEyMAfDANTAYALAN" ++
    "jIGIT EIGHTfFIVEdOUReNINEeONEdSEVENeIXdTHREEeWOdZEROjOROME SIGNlEXCLAMATION MARKqHIGH TONE" ++
    " APOSTROPHEuLAJANYALANjETTER AbBAcCHAdDAaGBASINNAkEaEcFAcGBAdHAcIbJAbONA CHAdJAcRA"),
  ("NKO LETTER KA",
    "cLAcMAcNaAa WOLOSOiYAa WOLOSOkOaOcPAcRAbRAdSAcTAcUbWAcYAiOW TONE APOSTROPHEtSYMBOL GBAKURU" ++
    "NENkOO DENNENqTAMAN SIGNnLbNBSPeO BICYCLEShREAK HEREkENTRYa SIGNkMOBILE PHONESnONE UNDER E" ++
    "IGHTEEN SYMBOLzPEDESTRIANSkIRACYgSMOKING SYMBOLp-BREAK SPACEmMINAL DIGIT SHAPES"),
  ("NOMISMA SIGN",
    "kN-BREAKING HYPHENpPOTABLE WATER SYMBOLvFORKINGiRaDIC MARK SIGNnMAL SUBGROUP OFa OR EQUAL" ++
    " TObbTH EAST AND SOUTH WEST ARROWtRROWa AND SOUTH EAST ARROWuCROSSING NORTH WEST ARROWqSOU" ++
    "TH EAST ARROWzWITH HOOKpBLACK ARROWlDOUBLE ARROWmPOINTING BUDdLEAFeVINE LEAF"),
  ("NORTH EAST SANS-SERIF ARROW",
    "qTRIANGLE-HEADED ARROWa TO BARbcWHITE ARROWqINDIC FRACTION ONE EIGHTHgHALFeQUARTERhSIXTEEN" ++
    "THnTHREE QUARTERSiSIXTEENTHSzPLACEHOLDER MARKqQUANTITY MARKkRTER MARKmRUPEE MARKqWEST AND" ++
    " SOUTH EAST ARROWtRROWa AND NORTH EAST ARROWuCROSSING NORTH EAST ARROWzTO CORNER"),
  ("NORTH WEST ARROW TO LONG BAR",
    "lWITH HOOKpBLACK ARROWlDOUBLE ARROWmPOINTING BUDdLEAFeVINE LEAFsSANS-SERIF ARROWqTRIANGLE-" ++
    "HEADED ARROWa TO BARbcWHITE ARROWrEAST-POINTING AIRPLANEzSEcT A SUBSET OFhPERSET OFmLMOST" ++
    " EQUAL TOoN ELEMENT OFmSYMPTOTICALLY EQUAL TOxCHECK MARKkEQUAL TOfIVALENT TO"),
  ("NOT GREATER-THAN",
    "mIDENTICAL TOmLESS-THANjNORMAL SUBGROUP OFa OR EQUAL TObePARALLEL TOlSIGNdQUARE IMAGE OF O" ++
    "R EQUAL TOuORIGINAL OF OR EQUAL TObeTILDEeRUEfCHED LEFT SEMICIRCLE WITH THREE DOTSbeOWER R" ++
    "IGHT-SHADOWED WHITE RIGHTWARDS ARROWbrRIGHT SEMICIRCLE WITH THREE DOTS"),
  ("NOTCHED UPPER RIGHT-SHADOWED WHITE RIGHTWARDS ARROW",
    "bwEa PADbGEfBOOKa WITH DECORATIVE COVERbdULaLcMBER EIGHTEEN FULL STOPrLEVEN FULL STOPqFIFT" ++
    "EEN FULL STOPqOURTEEN FULL STOPsNINETEEN FULL STOPsSEVENTEEN FULL STOPsIGNcXTEEN FULL STOP" ++
    "rTEN FULL STOPmHIRTEEN FULL STOPrWELVE FULL STOPnNTY FULL STOPuERO SIGN"),
  ("NUSHU CHARACTER-1B170",
    "b1b2b3b4b5b6b7b8b9bAbBbCbDbEbFc80b1b2b3b4b5b6b7b8b9bAbBbCbDbEbFc90b1b2b3b4b5b6b7b8b9bAbBbC" ++
    "bDbEbFcA0b1b2b3b4b5b6b7b8b9bAbBbCbDbEbFcB0b1b2b3b4b5b6b7b8b9bAbBbCbDbEbFcC0b1b2b3b4b5b6b7b" ++
    "8b9bAbBbCbDbEbFcD0b1b2b3b4b5b6b7b8b9bAbBbCbDbEbFcE0b1b2b3b4b5b6b7b8b9bAbBbCbDbEbFcF0"),
  ("NUSHU CHARACTER-1B1F1",
    "b2b3b4b5b6b7b8b9bAbBbCbDbEbFd200b1b2b3b4b5b6b7b8b9bAbBbCbDbEbFc10b1b2b3b4b5b6b7b8b9bAbBbCb" ++
    "DbEbFc20b1b2b3b4b5b6b7b8b9bAbBbCbDbEbFc30b1b2b3b4b5b6b7b8b9bAbBbCbDbEbFc40b1b2b3b4b5b6b7b8" ++
    "b9bAbBbCbDbEbFc50b1b2b3b4b5b6b7b8b9bAbBbCbDbEbFc60b1b2b3b4b5b6b7b8b9bAbBbCbDbEbFc70"),
  ("NUSHU CHARACTER-1B271",
    "b2b3b4b5b6b7b8b9bAbBbCbDbEbFc80b1b2b3b4b5b6b7b8b9bAbBbCbDbEbFc90b1b2b3b4b5b6b7b8b9bAbBbCbD" ++
    "bEbFcA0b1b2b3b4b5b6b7b8b9bAbBbCbDbEbFcB0b1b2b3b4b5b6b7b8b9bAbBbCbDbEbFcC0b1b2b3b4b5b6b7b8b" ++
    "9bAbBbCbDbEbFcD0b1b2b3b4b5b6b7b8b9bAbBbCbDbEbFcE0b1b2b3b4b5b6b7b8b9bAbBbCbDbEbFcF0b1"),
  ("NUSHU CHARACTER-1B2F2",
    "b3b4b5b6b7b8b9bAbBpITERATION MARKsT AND BOLTlYIAKENG PUACHUE HMONG CIRCLED CAkDIGIT EIGHTf" ++
    "FIVEdOUReNINEeONEdSEVENeIXdTHREEeWOdZEROkLETTER AaAcCAcDAbLAdEaEcFAcGAcHAaHdIbKAcLAcMAbLAd" ++
    "NAbCAcKAcPAbLAdQAcRAcTAbSAcXAdYAdOaOcPAbLAdQAcRAbRAdSAcTAbSAcXAdUbVAcWbXAbYAdYAcZA"),
  ("NYIAKENG PUACHUE HMONG LOGOGRAM NYAJ",
    "nSIGN FOR ANIMALgINVERTEBRATEmLOCATIONiPERSONgTHINGjXW XWjYLLABLE LENGTHENERtTONE-BbDbGbJb" ++
    "MbSbVbdOBJECT REPLACEMENT CHARACTERbaLIQUE ANGLE OPENING DOWNeUPqHYPHENmSERVER EYE SYMBOLs" ++
    "CR AMOUNT OF CHECKpBELT BUCKLEkOW TIEgRANCH BANK IDENTIFICATIONbaCHAIR"),
  ("OCR CUSTOMER ACCOUNT NUMBER",
    "xDASHdOUBLE BACKSLASHqFORKeHOOKeINVERTED FORKpTAGONAL SIGNlOPUSgDENdFFICE BUILDINGoGHAM FE" ++
    "ATHER MARKmLETTER AILMeBEITHfCEIRTeOLLeDAIReEABHADHfDHADHfMHANCHOLLlFEARNfGORTeIFINdODHADH" ++
    "hLUISeMUINeNGEADALgIONeONNcRcPEITHfRUISeSAILdTRAIFgTINNEfUATHdILLEANNhR"),
  ("OGHAM REVERSED FEATHER MARK",
    "vSPACE MARKoONEKfHM SIGNhIL DRUMhK HAND SIGNlL CHIKI AHADeDIGIT EIGHTfFIVEdOUReNINEeONEdSE" ++
    "VENeIXdTHREEeWOdZEROkGAAHLAA TTUDDAAGqLETTER AAJbKbMbWcGbLbNGcTcEDDcNbPbRRdIHbNYcRbScLAaAc" ++
    "EbIbObUcOBbHbTTcVcUCbDbNNcYjMU TTUDDAGi-GAAHLAA TTUDDAAGtPHAARKAA"),
  ("OL CHIKI PUNCTUATION DOUBLE MUCAAD",
    "nMUCAADsRELAAmD CHINESE HOOK MARKjITERATION MARKwHUNGARIAN CAPITAL LETTER AaAbKbMBcNDdCLOS" ++
    "E EhEaBbCaHbScDbEbFbGaYcHbJbKbLaYcMaPcNaCbTa-SHAPED SIGNnYcPbRbSaZcTaYcVbZaSdIaIcNIKOLSBUR" ++
    "G OEcUEnOaEEcOcRUDIMENTA OEcUEmSHORT ERiUaNKcSbUrNUMBER FIFTYdVEeONEa HUNDRED"),
  ("OLD HUNGARIAN NUMBER ONE THOUSAND",
    "mTENkSMALL LETTER AaAbKbMBcNDdCLOSE EhEaBbCaHbScDbEbFbGaYcHbJbKbLaYcMaPcNaCbTa-SHAPED SIGN" ++
    "nYcPbRbSaZcTaYcVbZaSdIaIcNIKOLSBURG OEcUEnOaEEcOcRUDIMENTA OEcUEmSHORT ERiUaNKcSbUzITALIC" ++
    " LETTER AbBEcCHEdDEcEaFbKScLbMbNbRaScSaHbSdHEcIaIcKAbEbHEcUcNORTHERN TSEmObPEbHEdSHE"),
  ("OLD ITALIC LETTER SOUTHERN TSE",
    "mTEbHEdUaUcVEcYEcZEjNUMERAL FIFTYdVEeONEdTENsKEYdNORTH ARABIAN LETTER AINcLEFeBEHdDADbLdES" ++
    "-1b2b3eFEHdGEEMdHAINfHAHcEHdKAFcHAHeLAMdMEEMeNOONeQAFdREHdSADdTAHcEHcHALcEHeWAWdYEHdZAHbIN" ++
    "lNUMBER ONEdTENcWENTYbbPERMIC LETTER ANcBURdCHERYfDOIcZHOIdITAfEaFcGAIdHAcIaAbEcKOKE"),
  ("OLD PERMIC LETTER LEI",
    "dMENOEfNENOEfOaOcPEEIeREIdSHCHOOIfOOIeIIdTAIcSIUeUbVERcOOIeYAaTcERaIbUdRYcUcZATAdHOIpSIAN" ++
    " NUMBER HUNDREDhONEdTENcWENTYeOkSIGN AaURAMAZDAAa-2cHAmBAaGAdUUMISHhCAcDAaHYAAUSHa-2kIbUcF" ++
    "AcGAbUcHAcIbJAbIcKAbUcLAcMAbIbUcNAbUcPAcRAbUcSAbHAcSAdTAbHAcUcUbVAbIcXAbSHAAYATHIYA"),
  ("OLD PERSIAN SIGN YA",
    "cZAhWORD DIVIDERqONAL COMPUTERrSOGDIAN FRACTION ONE HALFrLETTER ALEPHdTERNATE AYINnYINeBET" ++
    "HeFINAL ALEPHfBETHeHEcNUNa WITH VERTICAL TAILwSADHEa WITH VERTICAL TAILyTAWa WITH VERTICAL" ++
    " TAILbcGIMELfHEaTHeKAPHeLAMEDHgMEMdNUNdPEcRESH-AYIN-DALETHqSADHEdMEKHfHINeTAWdWAW"),
  ("OLD SOGDIAN LETTER YODH",
    "eZAYINlIGATURE AYIN-DALETHuNUMBER FIVEdOUReONEa HUNDREDlTENcHIRTYeREEeWENTYeOqUTH ARABIAN" ++
    " LETTER ALEFdYNdBETHeDALETHfHADHEdLETHhFEcGHAYNeIMELfHEaTHeKAPHdHETHfLAMEDHgMEMdNUNdQOPHeR" ++
    "ESHeSADHEdMEKHeTcHINeTAWcETHdHAWcETHfWAWdYODHeZAYNlNUMBER FIFTYfONEhERIC INDICATOR"),
  ("OLD TURKIC LETTER ORKHON A",
    "aBbDbEBbDbGbKbLbNbRbSbTbYcGbLbNbQbRbSaHcTbYcBASHeECbLTcMbNCbGbTbYcPbSHcZcIaCbQcOaEaKcPbQbT" ++
    "jYENISEI AaBbDbEaBbGbKbNaGcTbYcGbLbNGcQbRbSHcTbYcEaCbNCbTbYcSHcZcIaQcOEaKcQyUYGHUR COMBINI" ++
    "NG DOT ABOVEfBELOWjTWO DOTS ABOVEfBELOWyLETTER ALEPHfBETHeFINAL HETHkGIMEL-HETHkKAPH"),
  ("OLD UYGHUR LETTER LAMEDH",
    "fESHeMEMdNUNdPEcRESHeSADHEdMEKHfHINeTAWdWAWdYODHeZAYINmPUNCTUATION BARdFOUR DOTSjTWO BARSe" ++
    "DOTSbcER ADULTfMANdWOMANjIVEeM SYMBOLiN WITH EXCLAMATION MARK WITH LEFT RIGHT ARROW ABOVEb" ++
    "yCOMING AUTOMOBILEkBUSdFIRE ENGINElPOLICE CARkTAXIlE BUTTON MOUSEmDOT LEADER"),
  ("ONE DOT OVER TWO DOTS PUNCTUATION",
    "be-PIECE SWIMSUITqIONePEN BOOKcXdCENTRE ASTERISKiBLACK STARkCROSSfTEARDROP-SPOKED ASTERISK" ++
    "bfFILE FOLDERkOLDERgHANDS SIGNkLOCKeMAILBOX WITH LOWERED FLAGmRAISED FLAGySUBSETePERSETj-C" ++
    "IRCUIT-OUTPUT H-TYPE SYMBOLnL-TYPE SYMBOLbcOUTLINED RIGHTWARDS ARROW"),
  ("OPERATING SYSTEM COMMAND",
    "wHIUCHUShPOSITIONiTICAL DISCa ICONnON KEYjR WITH DOT INSIDEqANGE BOOKeHEARThUTANhIGINAL OF" ++
    "iYA AI LENGTH MARKnU LENGTH MARKoDIGIT EIGHTfFIVEdOUReNINEeONEdSEVENeIXdTHREEeWOdZEROkFRAC" ++
    "TION ONE EIGHTHgHALFeQUARTERhSIXTEENTHnTHREE QUARTERSiSIXTEENTHSzISSHARgLETTER AaAbI"),
  ("ORIYA LETTER AU",
    "cBAbHAdCAbHAdDAbDAbHAdHAdEbGAbHAdHAcIaIcJAbHAdKAbHAdLAbLAdMAcNAbGAcNAcYAdObPAbHAdRAbHAcRAd" ++
    "SAbHAcSAdTAbHAcTAbHAeUaUcVAbOCALIC LaLcRaRkWAcYAbYAkSIGN ANUSVARAhVAGRAHAiCANDRABINDUlNUKT" ++
    "AfOVERLINEiVIRAMAeSARGAmVOWEL SIGN AAbIbUcEbIaIcObUaUcVOCALIC LaLcRaR"),
  ("ORNATE LEFT PARENTHESIS",
    "qRIGHT PARENTHESISwTHODOX CROSSnSAGE CAPITAL LETTER AaHbIaNdBRAdCHAdDHAdEaHCHAdKAcPAcTAbSA" ++
    "eINdGHAdHAbYAdIbKAbHAcYAdLAcMAcNAcOaINdPAcSAbHAdTAbSAbHAeUbWAcZAbHAsSMALL LETTER AaHbIaNdB" ++
    "RAdCHAdDHAdEaHCHAdKAcPAcTAbSAeINdGHAdHAbYAdIbKAbHAcYAdLAcMAcNAcOaINdPAcSAbHAdTAbSA"),
  ("OSAGE SMALL LETTER TSHA",
    "eUbWAcZAbHAuCbMANYA DIGIT EIGHTfFIVEdOUReNINEeONEdSEVENeIXdTHREEeWOdZEROkLETTER AaAbLEFeBA" ++
    "cCAYNeDEELdHAdEaEcFAcGAcHAcIbJAcKAAFdHAdLAANeMIINeNUUNeOaOcQAAFeRAcSAbHIINfTAcUbWAWdXAcYAq" ++
    "TTERcOMAN SIYAQ ALTERNATE NUMBER EIGHTfFIVEdOURa HUNDREDmNINEeSEVENeIXa HUNDREDlTEN"),
  ("OTTOMAN SIYAQ ALTERNATE NUMBER TEN THOUSAND",
    "lHREEeWOa THOUSANDbdFRACTION ONE HALFeSIXTHsMARRATANiNUMBER EIGHTa HUNDREDhTHOUSANDjYa THO" ++
    "USANDpFIFTYa THOUSANDmVEa HUNDREDhTHOUSANDmORTYa THOUSANDmURa HUNDREDhTHOUSANDnNINEa HUNDR" ++
    "EDhTHOUSANDjTYa THOUSANDpONEa HUNDREDhTHOUSANDmSEVENa HUNDREDhTHOUSANDjTYa THOUSAND"),
  ("OTTOMAN SIYAQ NUMBER SIX",
    "a HUNDREDhTHOUSANDjTYa THOUSANDoTENa THOUSANDlHIRTYa THOUSANDnREEa HUNDREDhTHOUSANDnWENTYa" ++
    " THOUSANDnOa HUNDREDhTHOUSANDbgUNCE SIGNiTBOX TRAYiLINED BLACK STARkGREEK CROSSlLATIN CROS" ++
    "SlWHITE STARsVERHEATED FACElLAPaPING BLACK SQUARESnWHITE AND BLACK SQUARESrSQUARES"),
  ("OVERLINE",
    "hWLcXbYSTERgPACKAGEfDaDING CHARACTERpGEa FACING UPjWITH CIRCLED TEXTlURLkRbScODAeHAWH HMON" ++
    "G CLAN SIGN FAJdHAMbWJeKHABdOOcWMdLAUJdISdMUASePHABeTHOJdSABcHEEJeWBeVAJcWJdXYOOJfYAJcEEGn" ++
    "ONSONANT AUcCAUcHAUeHAUcLAUdNAUeLAUdMAUdNAUcCHAUeKAUdLAUdTHAUdSAUfPLHAUfQHAUeRAUdVAU"),
  ("PAHAWH HMONG CONSONANT XAU",
    "dYAUnDIGIT EIGHTfFIVEdOUReNINEeONEdSEVENeIXdTHREEeWOdZEROkMARK CIM HOMdKEScHAVeSObUAMeTAUM" ++
    "dUBmNUMBER HUNDRED MILLIONSjSiMILLIONSiTEN BILLIONSiTHOUSANDSkSdRILLIONSqSIGN AVcCIM CHEEM" ++
    "eUAM TSHOOJlHAIS LUS NTOG NTOGsNRES TOSiPUB DAWBiTSOV ROGhXWVa CHWVnHLIcNUBeIB YAM"),
  ("PAHAWH HMONG SIGN LOS",
    "dMEEJ SUABeTSEEBjUSdNQIGdTUJeTAUcHIRD-STAGE HLIoXHEEJ CEEVlVOS FEEMeLUBdNRUAeSEEVeTHIABdOM" ++
    "dSHAB CEEBoXAUSdIABdYEEM FAIBeNTXIVfRHOdTOVhOOeZWJ THAJnVOWEL KAABbVcBbIBbVcUBbVcVbWBbVdEB" ++
    "bEBbVcVcIABbVcBbVcOBbOBbVcVcUABbVcBbVcWBbVuLLASdM BRANCHgDOWN HANDjTREEeUP HAND"),
  ("PALMS UP TOGETHER",
    "nYRENE LEFT-POINTING FLEURONtTTER ALEPHeYINeBETHeDALETHgFINAL NUNjGIMELfHEaTHeKAPHeLAMEDHg" ++
    "MEMdNUNdPEcQOPHeRESHeSADHEdMEKHfHINeTAWcETHeWAWdYODHeZAYINmNUMBER FIVEdOUReONEdTENcHREEeWE" ++
    "NTYeOkRIGHT-POINTING FLEURONbeNCAKESfDA FACEiPERCLIPhRACHUTEfGRAPH SEPARATORkOS"),
  ("PARAGRAPHUS MARK",
    "mLLEL TOcWITH HORIZONTAL STROKErTILDE OPERATORzENTHESIZED DIGIT EIGHTfFIVEdOUReNINEeONEdSE" ++
    "VENeIXdTHREEeWOjHANGUL CHIEUCHa AiIEUCa AbUhHIEUHa AhIEUNGa AhKHIEUKHa AiIYEOKa AiMIEUMa A" ++
    "hNIEUNa AhPHIEUPHa AiIEUPa AhRIEULa AhSIOSa AgTHIEUTHa AiIKEUTa ApIDEOGRAPH ALLIANCE"),
  ("PARENTHESIZED IDEOGRAPH CALL",
    "dONGRATULATIONoEARTHeIGHTeNTERPRISEkFESTIVALhINANCIALhREcVEdOUReHAVEeLABORfMETALeOONeNAMEd" ++
    "INEeONEdREACHdPRESENThSOURCEfTeSELFcVENeIXcOCIETYgPECIALgTOCKdUDYeUNbPERVISEjTENcHREEeWOdW" ++
    "ATEReOODoKOREAN CHARACTER O HUdJEONwLATIN CAPITAL LETTER AbBbCbDbEbFbGbHbIbJbKbLbMbN"),
  ("PARENTHESIZED LATIN CAPITAL LETTER O",
    "bPbQbRbSbTbUbVbWbXbYbZqSMALL LETTER AbBbCbDbEbFbGbHbIbJbKbLbMbNbObPbQbRbSbTbUbVbWbXbYbZuNU" ++
    "MBER EIGHTEENhLEVENgFIFTEENgOURTEENiNINETEENiSEVENTEENiIXTEENhTENcHIRTEENhWELVEdNTYyROTdT" ++
    " ALTERNATION MARKrIAL DIFFERENTIALmLINE BACKWARDiDOWNeFORWARDhUP"),
  ("PARTIALLY-RECYCLED PAPER SYMBOL",
    "bbNERSHIP SIGNmY POPPERkSSED SYMBOLiNGER SHIPkIVE-PULL-DOWN-OUTPUT SYMBOLsUP-OUTPUT SYMBOL" ++
    "zPORT CONTROLoU CIN HAU GLOTTAL STOPa FINALfVARIANTuLETTER AbBAcCAbHAdDAcEbFAbINAL KbLbMbN" ++
    "aGcPbTbWbYhGAcHAcIaAcKAbHAdLAcMAcNAbGAdObPAbHAdRAcSAcTAbHAdUaAcVAcZAiOW-FALLING TONE"),
  ("PAU CIN HAU LOW-FALLING TONE FINAL",
    "fLONGa FINALbbMID-LEVEL TONEa FINALfLONG FINALzRISING TONEa FINALfLONGa FINALwSANDHI GLOTT" ++
    "AL STOPa FINALsTONEa FINALfLONGa FINALbgW PRINTSjDFbIcEACE SYMBOLiHbOCKeNUTSeRcDESTRIANiN" ++
    " OVER STAMPED ENVELOPEwCILdGUINeSIVE FACEjTAGRAMhOPLE HUGGINGmR MILLE SIGNkSIGN"),
  ("PER TEN THOUSAND SIGN",
    "sCENT SIGNjFORMING ARTSmMANENT PAPER SIGNrPENDICULARa WITH SrSEVERING FACEmON BOWING DEEPL" ++
    "YnCLIMBINGiDOING CARTWHEELpFROWNINGiIN LOTUS POSITIONoSTEAMY ROOMoRAISING BOTH HANDS IN CE" ++
    "LEBRATIONbhWITH BALLdLOND HAIRkCROWNfFOLDED HANDSmHEADSCARFjPOUTING FACEsAL COMPUTER"),
  ("PERSPECTIVE",
    "jSETA SIGNiO SIGNhTRI DISHjHAGS-PA DOUBLE HEAD MARKqLETTER AaLTERNATE YAlSPIRATED FAmBAcCA" ++
    "aNDRABINDUkHAdDAbDAcZAdEaEcFAcGAbGAdHAcIbJAcKAbHAdLAcMAcNAbGAcNAcYAdObPAbHAdQAcRAcSAbHAcMA" ++
    "LL AhTAbHAcSAbHAdTAbHAeUbVOICED HAeLESS SHAnWAcXAcYAcZAbHAkMARK DOUBLE SHADlSHAD"),
  ("PHAGS-PA SINGLE HEAD MARK",
    "pUBJOINED LETTER RAcWAcYArPERFIXED LETTER RAbaISTOS DISC SIGN ARROWfBEEaHIVEgOOMERANGhWcUL" ++
    "LS LEGjCAPTIVEfRPENTRY PLANEnTcHILDeLUBdOLUMNeMBaINING OBLIQUE STROKEyDOLIUMeVEeEAGLEfFLUT" ++
    "EfGAUNTLEThRATERgHELMETfIDEdORNeLIDbLYeMANACLESgTTOCKhOX BACKhPAPYRUSgEDESTRIAN"),
  ("PHAISTOS DISC SIGN PLANE TREE",
    "iUMED HEADlRAMcOSETTEhSAWcHIELDdPdLINGeMALL AXEiTRAINERiTATTOOED HEADmIARAeUNNYfVINEeWAVY" ++
    " BANDiOMANwILIPPINE DOUBLE PUNCTUATIONsSINGLE PUNCTUATIONbbOENICIAN LETTER AINcLFdBETdDELT" ++
    "eGAMLeHEaTdKAFdLAMDeMEMdNUNdPEcQOFdROSHeSADEdEMKdHINeTAUcETdWAUdYODdZAIkNUMBER ONE"),
  ("PHOENICIAN NUMBER ONE HUNDRED",
    "lTENcHREEeWENTYeOkWORD SEPARATORwLUSfICKaUP TRUCKkEbGa FACEeNOSEgLCROW SIGNjE OF POOiLcNAT" ++
    "AdCHED FINGERSkING HANDkE DECORATIONlAPPLEgWHEEL STARlSCESdTOLeTCHFORKa WITH TEE TOPvLACAR" ++
    "DdE OF INTEREST SIGNnWORSHIPnNCK CONSTANTa OVER TWO PIyYGROUND SLIDE"),
  ("PLAYING CARD ACE OF CLUBS",
    "fDIAMONDSiHEARTSgSPADESnBACKdLACK JOKERlEIGHT OF CLUBSfDIAMONDSiHEARTSgSPADESpFIVE OF CLUB" ++
    "SfDIAMONDSiHEARTSgSPADESnOOLcUR OF CLUBSfDIAMONDSiHEARTSgSPADESoJACK OF CLUBSfDIAMONDSiHEA" ++
    "RTSgSPADESoKING OF CLUBSfDIAMONDSiHEARTSgSPADESnNIGHT OF CLUBSfDIAMONDSiHEARTS"),
  ("PLAYING CARD KNIGHT OF SPADES",
    "qNINE OF CLUBSfDIAMONDSiHEARTSgSPADESoQUEEN OF CLUBSfDIAMONDSiHEARTSgSPADESpRED JOKERjSEVE" ++
    "N OF CLUBSfDIAMONDSiHEARTSgSPADESoIX OF CLUBSfDIAMONDSiHEARTSgSPADESnTEN OF CLUBSfDIAMONDS" ++
    "iHEARTSgSPADESmHREE OF CLUBSfDIAMONDSiHEARTSgSPADESoRUMP-1a0b1b2b3b4b5b6b7b8b9c2a0b1"),
  ("PLAYING CARD TRUMP-3",
    "b4b5b6b7b8b9gWO OF CLUBSfDIAMONDSiHEARTSgSPADESnWHITE JOKERwDbUaNGEReS SIGNa ABOVE EQUALS" ++
    " SIGNrIN LEFT HALF CIRCLEqRIGHT HALF CIRCLErTRIANGLElWITH BLACK TRIANGLEoCIRCUMFLEX ACCENT" ++
    " ABOVExDOT BELOWjSMALL CIRCLE ABOVErUBSCRIPT TWOnTILDE ABOVEfBELOWw-MINUS SIGNmTO"),
  ("PLUTO FORM FIVE",
    "dOUReTHREEeWOnMbOCKET CALCULATORpLICE CARaS REVOLVING LIGHTuOFFICERmODLEeP DIRECTIONAL FOR" ++
    "MATTINGkISOLATEuCORNfRTABLE STEREOnSEIDONfITION INDICATORpTAL HORNeMARKa FACEmBOXfT OF FOO" ++
    "DiABLE WATER SYMBOLqTOdTED PLANTkUCHcLTRY LEGiND SIGNhRING LIQUIDlTING CAT FACEiFACE"),
  ("POWER ON SYMBOL",
    "h-OFF SYMBOLnSLEEP SYMBOLlYMBOLlRAYER BEADSkECEDESa ABOVE ALMOST EQUAL TOpEQUALS SIGNlNOT" ++
    " ALMOST EQUAL TOpEQUAL TOmSINGLE-LINE EQUALS SIGNlNOT EQUAL TObeBUT NOT EQUIVALENT TOvOR E" ++
    "QUAL TOfIVALENT TOqUNDER RELATIONuGNANT MANdPERSONgWOMANlSCRIPTION TAKE"),
  ("PRESENTATION FORM FOR VERTICAL COLON",
    "dMMAfEM DASHgN DASHgXCLAMATION MARKqHORIZONTAL ELLIPSIStIDEOGRAPHIC COMMAfFULL STOPvLEFT A" ++
    "NGLE BRACKETnBLACK LENTICULAR BRACKETyCORNER BRACKETnURLY BRACKETnDOUBLE ANGLE BRACKETuPAR" ++
    "ENTHESISlSQUARE BRACKEToTORTOISE SHELL BRACKETwWHITE CORNER BRACKET"),
  ("PRESENTATION FORM FOR VERTICAL LEFT WHITE LENTICULAR BRACKET",
    "bcOW LINEiQUESTION MARKnRIGHT ANGLE BRACKETnBLACK LENTICULAR BRACKETyCORNER BRACKETnURLY B" ++
    "RACKETnDOUBLE ANGLE BRACKETuPARENTHESISlSQUARE BRACKEToTORTOISE SHELL BRACKETwWHITE CORNER" ++
    " BRACKEToLENTICULAR BRACKETeKCETbeSEMICOLONjTWO DOT LEADERoWAVY LOW LINEbpTZEL"),
  ("PREVIOUS PAGE",
    "lIMEcNCEaSSeT SCREEN SYMBOLoERa ICONjVACY MESSAGEkTE USE ONEdTWOe-1b2lOBING CANEjHIBITED S" ++
    "IGNmJECTIVEhPERTY LINEjORTIONaAL TOmSERPINAjSALTER PAHLAVI FOUR DOTS WITH CROSSfDOTsLETTER" ++
    " ALEPHfBETHeDALETHgGIMELfHEaTHeKAPHeLAMEDHgMEM-QOPHiNUNdPEcSADHEdMEKHfHINeTAW"),
  ("PSALTER PAHLAVI LETTER WAW-AYIN-RESH",
    "nYODHeZAYINmNUMBER FOUReONEa HUNDREDlTENcHREEeWENTYeOkSECTION MARKmTURNED SECTION MARKbiU1" ++
    "b2bBLIC ADDRESS LOUDSPEAKERyNCTUATION SPACElS ELEVATUS MARKtRPLE HEARTjSEdSHPINfT LITTER I" ++
    "N ITS PLACE SYMBOLbeQUADRANT LOWER LEFTeRIGHTlUPPER LEFT"),
  ("QUADRANT UPPER LEFT AND LOWER LEFT AND LOWER RIGHT",
    "uRIGHTlUPPER RIGHT AND LOWER LEFTeRIGHTbkRIGHTa AND LOWER LEFTa AND LOWER RIGHTbuUPLE INTE" ++
    "GRAL OPERATORrPRIMEmRTER NOTEjTERNION INTEGRAL OPERATORbaESTION EXCLAMATION MARKqMARKfED E" ++
    "QUAL TOrINCUNXgOTATION MARKoRABBITa FACEjCCOONeING CARdMOTORCYCLE"),
  ("RADICAL SYMBOL BOTTOM",
    "rOa BUTTONhACTIVE SIGNoILWAY CARdTRACKkNaBOWeSED BACK OF HANDmCOMMAfDOTaTED INTERPOLATION" ++
    " MARKERbbFISTeHANDa WITH FINGERS SPLAYEDpPART BETWEEN MIDDLE AND RING FINGERSbuINTERPOLATI" ++
    "ON MARKERuMC SIGNgD SIGNgR SIGNhSQUARElMbTaIOdZOReECEIPTeORD SEPARATOR"),
  ("RECREATIONAL VEHICLE",
    "rYCLED PAPER SYMBOLpING SYMBOL FOR GENERIC MATERIALSrTYPE-1 PLASTICSk2 PLASTICSk3 PLASTICS" ++
    "k4 PLASTICSk5 PLASTICSk6 PLASTICSk7 PLASTICSbiD APPLEfGIFT ENVELOPEpFERENCE MARKmGIONAL IN" ++
    "DICATOR SYMBOL LETTER AbBbCbDbEbFbGbHbIbJbKbLbMbNbObPbQbRbSbTbUbVbWbXbYbZ"),
  ("REGISTERED SIGN",
    "nJANG CONSONANT SIGN HbNaGcRqLETTER AbBAcCAcDAcGAcHAcJAcKAcLAcMAbBAdNAbDAcGAbGAdYAbJAePAcR" ++
    "AcSAcTAcWAcYAjSECTION MARKmVIRAMAfOWEL SIGN AIbUcEaAbUcIbObUrLIEVED FACElMINDER RIBBONnPLA" ++
    "CEMENT CHARACTERtSPONSEfTRICTED LEFT ENTRY-1b2sOOMgTURN LEFTeRIGHTfSYMBOL"),
  ("REVERSE CHECKER BOARD",
    "nINDEXfLIGHT FOUR POINTED PINWHEEL STARbeNE FEEDjSOLIDUSa OPERATORiPRECEDING SUBSETqWITH H" ++
    "ORIZONTAL STROKEbeTILDE OPERATOR ABOVE LEFTWARDS ARROWpRIGHTWARDS ARROWbmD ANGLEa WITH UND" ++
    "ERBARtCOMMAfDOUBLE PRIMEa QUOTATION MARKuSTROKE NOT SIGNwEMPTY SET"),
  ("REVERSED FORKED PARAGRAPHOS",
    "sHAND WITH MIDDLE FINGER EXTENDEDbgNOT SIGNiPILCROW SIGNlRIMEfQUESTION MARKnRAISED HAND WI" ++
    "TH FINGERS SPLAYEDbfIGHT ANGLEkOTATED FLORAL HEART BULLETbbSANS-SERIF CAPITAL LtEMICOLONjT" ++
    "HUMBS DOWN SIGNjUP SIGNnILDEa EQUALSlRIPLE PRIMEmVICTORY HANDsOLVING HEARTS"),
  ("RHINOCEROS",
    "jIaAL SIGNhBBONa ARROW DOWN LEFTeRIGHTkLEFT DOWNeUPhRIGHT DOWNeUPiUP LEFTeRIGHTtCE BALLeCR" ++
    "ACKERkFLEdGHT AND LOWER ONE EIGHTH BLOCKwUPPER ONE EIGHTH BLOCKyGER BUBBLEjLEa BRACKETa WI" ++
    "TH DOTqDOTTED SUBSTITUTION MARKERbaSUBSTITUTION MARKERtVARIANT WITH SQUAREtWITH ARC"),
  ("RIGHT ANGLE WITH DOWNWARDS ZIGZAG ARROW",
    "bgRC GREATER-THAN BRACKETwROW WITH CIRCLED PLUSmSMALL CIRCLExBLACK LENTICULAR BRACKETsTORT" ++
    "OISE SHELL BRACKETbcCEILINGgORNER BRACKETnURLY BRACKETa LOWER HOOKkMIDDLE PIECEmUPPER HOOK" ++
    "yDOTTED SUBSTITUTION BRACKETzUBLE ANGLE BRACKETmRROW WITH ROUNDED HEADxPARENTHESIS"),
  ("RIGHT DOUBLE QUOTATION MARK",
    "oWIGGLY FENCEtFISH TAILhVE EIGHTHS BLOCKrLOORfHALF BLACK CIRCLEgSTARiOCKfFOLDERgMEDIUM SHA" ++
    "DEmRUNNING MANoND TELEPHONE RECEIVERxLOW PARAPHRASE BRACKETwNORMAL FACTOR SEMIDIRECT PRODU" ++
    "CTbgONE EIGHTH BLOCKmQUARTER BLOCKqPEN SQUARED DOTpUTER JOINkPARENTHESISa EXTENSION"),
  ("RIGHT PARENTHESIS LOWER HOOK",
    "kUPPER HOOKwRAISED OMISSION BRACKETxS-SHAPED BAG DELIMITERvEMIDIRECT PRODUCTqVEN EIGHTHS B" ++
    "LOCKsIDEWAYS U BRACKETqNGLE QUOTATION MARKuPEAKERa WITH ONE SOUND WAVEoTHREE SOUND WAVESbb" ++
    "ECH BUBBLEmQUARE BRACKETa EXTENSIONjLOWER CORNERmUPPER CORNERmWITH DOUBLE STROKE"),
  ("RIGHT SQUARE BRACKET WITH QUILL",
    "fSTROKEgTICK IN BOTTOM CORNERnTOP CORNERsUNDERBARbbUBSTITUTION BRACKETuTACKdHIRD WHITE RIG" ++
    "HT POINTING INDEXbeOUGHT BUBBLEmREE EIGHTHS BLOCKnQUARTERS BLOCKtORTOISE SHELL BRACKETvRAN" ++
    "SPOSITION BRACKETtIANGLEa ABOVE LEFT TRIANGLEwULAR ONE QUARTER BLOCK"),
  ("RIGHT VERTICAL BAR WITH QUILL",
    "nOX LINErWHITE CORNER BRACKETnURLY BRACKETnLENTICULAR BRACKETsPARENTHESISlSQUARE BRACKEToT" ++
    "ORTOISE SHELL BRACKETbbIGGLY FENCEn-FACING ARMENIAN ETERNITY SIGNwFISTeSVASTI SIGNa WITH D" ++
    "OTSbcHANDED INTERLACED PENTAGRAMbbPOINTING ANGLE BRACKETnCURVED ANGLE BRACKET"),
  ("RIGHT-POINTING DOUBLE ANGLE QUOTATION MARK",
    "bbMAGNIFYING GLASSzSHADED WHITE RIGHTWARDS ARROWbcIDE ARC CLOCKWISE ARROWyTO-LEFT EMBEDDIN" ++
    "GjISOLATEhMARKeOVERRIDErHAND INTERIOR PRODUCTvWARDS ARROWa ABOVE ALMOST EQUAL TOpREVERSE A" ++
    "LMOST EQUAL TOpTILDE OPERATORwSHORT LEFTWARDS ARROWvTILDE OPERATOR"),
  ("RIGHTWARDS ARROW AND UPPER AND LOWER ONE EIGHTH BLOCK",
    "bkFROM BARa TO BLACK DIAMONDzOVER LEFTWARDS ARROWuTHROUGH GREATER-THANmSUPERSETiXiO BARcLA" ++
    "CK DIAMONDqWITH CORNER DOWNWARDSqDOTTED STEMjUBLE VERTICAL STROKEwEQUILATERAL ARROWHEADvHO" ++
    "OKeLARGE TRIANGLE ARROWHEADxOOPeMEDIUM TRIANGLE ARROWHEADzNOTCHED TAILmPLUS BELOW"),
  ("RIGHTWARDS ARROW WITH SMALL EQUILATERAL ARROWHEAD",
    "vTRIANGLE ARROWHEADxTROKEgTAILa WITH DOUBLE VERTICAL STROKEwVERTICAL STROKEyIP DOWNWARDSjU" ++
    "PWARDSlVERTICAL STROKEv-TAILkBACK-TILTED SHADOWED WHITE ARROWbfLACK ARROWfCIRCLED WHITE AR" ++
    "ROWyOTTOM SHADED WHITE ARROWzCOMPRESSED ARROWqDASHED ARROWlOUBLE ARROWa FROM BAR"),
  ("RIGHTWARDS DOUBLE ARROW WITH STROKE",
    "gVERTICAL STROKEv-TAILkDASH ARROWrFINGER-POST ARROWqRONT-TILTED SHADOWED WHITE ARROWbhHAND" ++
    "cRPOON OVER LEFTWARDS HARPOONwWITH BARB DOWN ABOVE LEFTWARDS HARPOON WITH BARB DOWNbmBELOW" ++
    " LONG DASHpFROM BARiTO BARhWARDSjUP ABOVE LEFTWARDS HARPOON WITH BARB UPbdONG DASH"),
  ("RIGHTWARDS HARPOON WITH BARB UP ABOVE RIGHTWARDS HARPOON WITH BARB DOWN",
    "bnFROM BARiTO BARhWARDSyEAVY ARROWfCOMPRESSED ARROWwLEFT-SHADED WHITE ARROWxOPEN-HEADED AR" ++
    "ROWrPAIRED ARROWSnQUADRUPLE ARROWpRIGHT-SHADED WHITE ARROWxOCKETgSANS-SERIF ARROWpQUARED A" ++
    "RROWkIGGLE ARROWoTOP SHADED WHITE ARROWvRIANGLE ARROWHEADk-HEADED ARROW"),
  ("RIGHTWARDS TRIANGLE-HEADED ARROW OVER LEFTWARDS TRIANGLE-HEADED ARROW",
    "bkTO BARgWITH BOLD SHAFTkDOUBLE HORIZONTAL STROKErVERTICAL STROKEwHEAVY SHAFTlLONG TIP DOW" ++
    "NWARDSjUPWARDSqMEDIUM SHAFTmNARROW SHAFTmVERY HEAVY SHAFTbbDASHED ARROWmPAIRED ARROWSbaPLE" ++
    " ARROWfDASH ARROWqWO HEADED ARROWn-HEADED ARROW FROM BARiWITH DOUBLE VERTICAL STROKE"),
  ("RIGHTWARDS TWO-HEADED ARROW WITH TAIL",
    "a WITH DOUBLE VERTICAL STROKEwVERTICAL STROKEyRIANGLE ARROWHEADStVERTICAL STROKEbaTRIPLE D" ++
    "ASH ARROWbcWAVE ARROWjHITE ARROWa FROM WALLjWITHIN TRIANGLE ARROWHEADbuNGa ABOVEfBUOYeEQUA" ++
    "L TOiIN EQUAL TOlOPERATORiPOINTgED PLANETjING BELL"),
  ("RISING DIAGONAL CROSSING FALLING DIAGONAL",
    "qSOUTH EAST ARROWboLEbIbMbOcOASTED SWEET POTATOsBOT FACEiCKaETeLL OF PAPERjED-UP NEWSPAPER" ++
    "oR COASTERhSKATEiING ON THE FLOOR LAUGHINGbbMAN AS SIGNhCENTURIAL SIGNoDENARIUS SIGNmIMIDI" ++
    "A SEXTULA SIGNtUPONDIUS SIGNoNUMERAL EIGHTeLEVENgFIFTYa EARLY FORMkTHOUSANDmVE"),
  ("ROMAN NUMERAL FIVE HUNDRED",
    "hTHOUSANDmOUReNINEeONEa HUNDREDa THOUSANDqTHOUSANDa C DqREVERSED ONE HUNDREDuSEVENeIXa LAT" ++
    "E FORMnTENa THOUSANDlHREEeWELVEeOlQUINARIUS SIGNoSEMUNCIA SIGNlSTERTIUS SIGNnXTANS SIGNiUL" ++
    "A SIGNlILIQUA SIGNmUNCIA SIGNoOSTERfSEaTTEfTATED CAPITAL QjFLORAL HEART BULLET"),
  ("ROTATED HEAVY BLACK HEART BULLET",
    "yLIGHT FOUR POINTED BLACK CUSPbdWHITE FOUR POINTED CUSPbdUND PUSHPINhTARGEThED SYMBOL FOR" ++
    " CAIdFUcLUcSHOUcUANGXIiXItWBOATgSbUBLE SIGNiGBY FOOTBALLmLE-DELAYEDkMI DIGIT EIGHTfFIVEdOU" ++
    "ReNINEeONEdSEVENeIXdTHREEeWOjFRACTION ONE HALFeQUARTERhTHIRDjTWO THIRDS"),
  ("RUMI NUMBER EIGHT HUNDRED",
    "iYgFIFTYdVE HUNDREDlORTYdUR HUNDREDmNINE HUNDREDiTYgONE HUNDREDlSEVEN HUNDREDiTYgIX HUNDRE" ++
    "DiTYfTENcHIRTYeREE HUNDREDmWENTYeO HUNDREDvNIC ARLAUG SYMBOLnBELGTHOR SYMBOLpCROSS PUNCTUA" ++
    "TIONrLETTER AC AdESCdLGIZ EOLHXkNSUZ AhBERKANAN BEORC BJARKAN ByCaALCdEALCdNcWEORTH"),
  ("RUNIC LETTER D",
    "aAGAZ DAEG DlOTTED-LbNbPiEaARcHWAZ EH EjNGcTHdFEHU FEOH FE FnRANKS CASKET ACbESCeEHcIScOSq" ++
    "GaARcEBO GYFU GjRdHAEGL HfGLAZ HiICELANDIC-YRlNGaWAZfORcSAZ IS ISS ImWAZ EOHiJERAN JhKaAUN" ++
    " KcAfLAUKAZ LAGU LOGR LrONG-BRANCH-AR AEfHAGALL HiMADR MgOSS OfYRoMANNAZ MAN M"),
  ("RUNIC LETTER NAUDIZ NYD NAUD N",
    "rOaEbNbObPEN-PfS OdTHALAN ETHEL OpPERTHO PEORTH PpQbRAIDO RAD REID RqSHaORT-TWIG-AR AeBJAR" ++
    "KAN BjHAGALL HiMADR MgNAUD NgOSS OfSOL SfTYR TfYRmIGEL LONG-BRANCH-SOL SwOWILO ShTANeTHURI" ++
    "SAZ THURS THORNtIWAZ TIR TYR TpURUZ UR UjVbWaUNJO WYNN WmXbYaRcZ"),
  ("RUNIC MULTIPLE PUNCTUATION",
    "uSINGLE PUNCTUATIONsTVIMADUR SYMBOLsNERcING SHIRT WITH SASHvPEE SIGNiSSIAN ASTROLOGICAL SY" ++
    "MBOL BINOVILEiNOVILEgQUINTILEiSENTAGONiTREDECILEjVIGINTILEblS IN TRIANGLEmAFETY PINdVESTjG" ++
    "ITTARIUSjILBOATgKE BOTTLE AND CUPrLT SHAKERhIREeUTING FACElMARITAN ABBREVIATION MARK"),
  ("SAMARITAN LETTER ALAF",
    "eBAAcITdDALATfFIcGAMANfINbTbYcKAAFeLABATfMIMdNUNdQUFdRISHeSHANdINGAAThTAAFdITcSAADIYhYUTdZ" ++
    "ENkMARK DAGESHgEPENTHETIC YUToINa-ALAFhNEQUDAAhOCCLUSIONnODIFIER LETTER EPENTHETIC YUToIbS" ++
    "HORT AxPUNCTUATION AFSAAQfNGEDdNAAUfRKAANUgTMAAUgBAUdMELODIC QITSAnNEQUDAAhQITSA"),
  ("SAMARITAN PUNCTUATION SHIYYAALAA",
    "jOF MASHFAATmTURUeZAEFdIQAArVOWEL SIGN AaAcEbIbLONG AaAcEbIbUgOaVERLONG AaAlSHORT AgUKUNfU" ++
    "uNDWICHfS-SERIF HEAVY DOUBLE COMMA QUOTATION MARK ORNAMENTbdTURNED COMMA QUOTATION MARK OR" ++
    "NAMENTbrLOW DOUBLE COMMA QUOTATION MARK ORNAMENTbuINTERROBANG ORNAMENTbdRIcTELLITE"),
  ("SATELLITE ANTENNA",
    "oURNeURASHTRA CONSONANT SIGN HAARUuDANDAeIGIT EIGHTfFIVEdOUReNINEeONEdSEVENeIXdTHREEeWOdZE" ++
    "ROjOUBLE DANDAmLETTER AaAbIbUcBAbHAdCAbHAdDAbDAbHAdHAdEaEcGAbHAdHAcIaIcJAbHAdKAbHAdLAbLAdM" ++
    "AcNAbGAcNAcYAdOaOcPAbHAdRAcSAbHAcSAdTAbHAcTAbHAeUaUcVAbOCALIC LaLcRaRkYA"),
  ("SAURASHTRA SIGN ANUSVARA",
    "iCANDRABINDUlVIRAMAeSARGAmVOWEL SIGN AAbIbUcEaEcIaIcOaOcUaUcVOCALIC LaLcRaRbcOPODgXOPHONEi" ++
    "CALESdRFdHOOLa SATCHELmIbOOTEReRPIONcUSgREENcWDRIVERiIPT CAPITAL BbEbFbHbIbLbMbPbRjLIGATUR" ++
    "E ET ORNAMENTuSMALL EbGbLbOlOLLdUPLEgEALbTcCOND PLACE MEDALpTION SIGNiOReDNA"),
  ("SEE-NO-EVIL MONKEY",
    "pDLINGgGMENTaED DIGIT EIGHTfFIVEdOUReNINEeONEdSEVENeIXdTHREEeWOdZEROsLFIEeMICOLONfDIRECT P" ++
    "RODUCT WITH BOTTOM CLOSEDbhSEXTILEjPARATED SYMBOLoRIOUS FACE WITH SYMBOLS COVERING MOUTHbl" ++
    "VICE MARKkSAME DOThQUIQUADRATEmT MINUSfTRANSMIT STATEqWING NEEDLElXTILEgGC"),
  ("SHADOWED WHITE CIRCLE",
    "gLATIN CROSSlSTARqLLOW PAN OF FOODqMROCKfRADA ABBREVIATION SIGNrCONTINUATION SIGNrDANDAeIG" ++
    "IT EIGHTfFIVEdOUReNINEeONEdSEVENeIXdTHREEeWOdZEROjOUBLE DANDAmEKAMdXTRA SHORT VOWEL MARKwH" ++
    "EADSTROKEkLETTER AaAbIbUcBAbHAdCAbHAdDAbDAbHAdHAdEbGAbHAdHAcIaIcJAbHAdKAbHAdLAbLAdMA"),
  ("SHARADA LETTER NA",
    "bGAcNAcYAdObPAbHAdRAcSAbHAcSAdTAbHAcTAbHAeUaUcVAbOCALIC LaLcRaRkYAjOMcSANDHI MARKkECTION M" ++
    "ARK-1b2mPARATORiIGN ANUSVARAhVAGRAHAiCANDRABINDUlINVERTED CANDRABINDUuJIHVAMULIYAlNUKTAfSI" ++
    "DDHAMhUPADHMANIYAlVIRAMAeSARGAlUTRA MARKkVOWEL MODIFIER MARKnSIGN AAbIbUcEbIaIcO"),
  ("SHARADA VOWEL SIGN PRISHTHAMATRA E",
    "pUaUcVOCALIC LaLcRaRzKcVED ICEgIAN LETTER ADOcGEcHbIRcREbRAYeSHcWEdBIBdCHURCHgDEADeEARbTcG" ++
    "GcRRdFEEdGAGdHA-HAeUNGeIANcCEcFcJUDGEfKICKeLOLLeMEASUREgIMEeNUNdOAKcILcNbOZEdRbUTdPEEPeROA" ++
    "ReSObUREeTHEYcIGHeOTdUPcVOWdWOEbOLeYEAbWdZOOqEEPdIELDdFT INcOUTgNTO SHRINEkP"),
  ("SHOCKED FACE WITH EXPLODING HEAD",
    "bdOTING STARkPPING BAGSeTROLLEYnRT BACKSLANTED SOUTH ARROWwENT ARROW POINTING DOWNWARDS TH" ++
    "EN NORTH EASTbtDOWN TACKa WITH OVERBARwLEFT TACKjRIGHTWARDS ARROW ABOVE LEFTWARDS ARROWbmS" ++
    "LANTED NORTH ARROWtUP TACKa ABOVE SHORT DOWN TACKvWITH UNDERBARwCAKE"),
  ("SHORTHAND FORMAT CONTINUING OVERLAP",
    "sDOWN STEPjLETTER OVERLAPoUP STEPtSdULDERED OPEN BOXqWEReRIMPdUGdUFFLE PRODUCTnYcIaDDHAM D" ++
    "ANDAeOUBLE DANDAmEND OF TEXT MARKqLETTER AaAbIbLTERNATE UkUcBAbHAdCAbHAdDAbDAbHAdHAdEbGAbH" ++
    "AdHAcIaIcJAbHAdKAbHAdLAcMAcNAbGAcNAcYAdObPAbHAdRAcSAbHAcSAdTAbHA"),
  ("SIDDHAM LETTER THREE-CIRCLE ALTERNATE I",
    "xTAbHAdWO-CIRCLE ALTERNATE IaIxUaUcVAbOCALIC LaLcRaRkYAjREPETITION MARK-1b2b3rSECTION MARK" ++
    " DOUBLE RINGa WITH RAYSvWITH CIRCLES AND FOUR ENCLOSURESpRAYSeTWO ENCLOSURESbaDOUBLE CRESC" ++
    "ENTSqQUADRUPLE CRESCENTStRAYS AND DOTTED CRESCENTSjDOUBLE CRESCENTSqTRIPLE CRESCENTS"),
  ("SIDDHAM SECTION MARK WITH SEPTUPLE CRESCENTS",
    "sTRIDENT AND DOTTED CRESCENTSqU-SHAPED ORNAMENTSbbPLE CRESCENTSbgPARATOR BARdDOTmIGN ANUSV" ++
    "ARAiCANDRABINDUlNUKTAfSIDDHAMhVIRAMAeSARGAmVOWEL SIGN AAbIbLTERNATE UaUlUcEbIaIcObUaUcVOCA" ++
    "LIC RaRbaEWAYS BLACK DOWN POINTING INDEXtLEFT POINTING INDEXtRIGHT POINTING INDEX"),
  ("SIDEWAYS BLACK UP POINTING INDEX",
    "xWHITE DOWN POINTING INDEXtLEFT POINTING INDEXtRIGHT POINTING INDEXuUP POINTING INDEXbeGN" ++
    " OF THE HORNSnWRITING AIR BLOW SMALL ROTATIONSqING OUTlSUCK SMALL ROTATIONSqING INoBREATH" ++
    " EXHALEgINHALElUSH BETWEENhMULTIPLEiSINGLEmCHEEKS NEUTRALhPUFFEDgSUCKEDmOLONdMMA"),
  ("SIGNWRITING DREAMY EYEBROWS DOWN NEUTRAL",
    "mNEUTRAL DOWNeUPkUP NEUTRALzYNAMIC ARROWHEAD LARGEfSMALLpEVERY OTHER TIMEqFASTeGRADUALhREL" ++
    "AXEDhSIMULTANEOUSa ALTERNATINGxLOWeTENSEnEARSdXCITEMENTjYE BLINK MULTIPLEiSINGLEmWINKfBROW" ++
    "S STRAIGHT DOWNeNEUTRALhUPrGAZE-FLOORPLANE CURVEDgSTRAIGHTa ALTERNATINGlDOUBLE"),
  ("SIGNWRITING EYEGAZE-WALLPLANE CIRCLING",
    "hURVEDgSTRAIGHTa ALTERNATINGlDOUBLEbeLASHES DOWNeFLUTTERINGkUPjS CLOSEDgHALF CLOSEDgOPENjO" ++
    "PENeSQUEEZEDiWIDE OPENfNING MOVEMENTwFACE DIRECTION POSITION NOSE FORWARD TILTINGpUP OR DO" ++
    "WNa TILTINGbuILL MODIFIER-2b3b4b5b6nNGERfLICK LARGE MULTIPLEiSINGLEmSEQUENTIAL"),
  ("SIGNWRITING FLICK SMALL MULTIPLE",
    "iSINGLEqOORPLANE SHOULDER HIP MOVEbbOREHEAD CONTACThNEUTRALhWRINKLEDqULL STOPjGRASP BETWEE" ++
    "NhMULTIPLEiSINGLEmHAIRcND-ANGLEa INDEXa MIDDLE LITTLEgRINGlRING LITTLEa OUTpTHUMBa INcOUTp" ++
    "LITTLE INDEXa THUMB INDEX THUMBa OUTbbUPjMIDDLE RING LITTLEa INcOUT"),
  ("SIGNWRITING HAND-ANGLE RING DOWN MIDDLE THUMB INDEX CROSS",
    "bdLITTLErCIRCLEa INDEXa BENTeHINGEfMIDDLEa CROSS LITTLEhEDhLITTLEgRINGeTHUMBmRING LITTLErL" ++
    "ITTLE INDEXfUPjMIDDLE RING LITTLEa BENTqUPjRING LITTLErLAWa FOUR FINGERS CONJOINEDwINDEX T" ++
    "HUMB CURVE THUMB INSIDEbeMIDDLE RING LITTLE CONJOINEDa SIDEbhNO THUMBiTHUMB FORWARD"),
  ("SIGNWRITING HAND-CLAW THUMB SIDE",
    "oUPa FIVE FINGERS SPREADa OPENyINDEXa RING LITTLElTHUMBa OPENqMIDDLE RING LITTLEsNO THUMBi" ++
    "OPENa NO THUMBiTHUMB FORWARDhSIDEpTHUMB FORWARDhSIDEmRLICUEa INDEX RING LITTLE ONuMIDDLE R" ++
    "ING LITTLE ONvOPENnFISTa FOUR FINGERS CONJOINED BENTbbHEELeINDEXa BENTa OVER MIDDLE"),
  ("SIGNWRITING HAND-FIST INDEX CUPPED",
    "gHINGEDa LOWdMIDDLE UPa THUMB SIDEbbMIDDLEa BENTa THUMB STRAIGHTtCONJOINEDa CUPPEDa THUMB" ++
    " FORWARDuHINGEDa THUMB SIDErINDEX BENTkMIDDLE BENTlTHUMB FORWARDhSIDEa BENTeCONJOINEDbdROS" ++
    "S LITTLEhEDa THUMB SIDEsHINGEDa SPREAD THUMB SIDEyLITTLEgRAISED KNUCKLESoINGa BENT"),
  ("SIGNWRITING HAND-FIST INDEX MIDDLE RING CONJOINED",
    "oSTRAIGHT THUMB BENTtTHUMBa ANGLEDa OUTkBENTeCIRCLEDgONJOINED HINGEDpUPPEDgHINGEDfOOKEDmUP" ++
    " SPREAD THUMB FORWARDbeRAISED KNUCKLEnING LITTLElTHUMB ANGLED IN MIDDLE UPmOUT MIDDLE UPuC" ++
    "IRCLEaD MIDDLE UPqUPPED MIDDLE UPoRLICUEfVE THUMB INSIDEgUNDERrFORWARD INDEX BENT"),
  ("SIGNWRITING HAND-FIST INDEX THUMB FORWARD INDEX STRAIGHT",
    "wHOOKaED MIDDLE HINGEDgUPqSIDEa BOTH BENTjINDEX BENTeHINGElTHUMB BENTeCONJOINEDjDIAGONALzU" ++
    "P MIDDLE HINGEDa THUMB CONJOINEDjSIDEbhLITTLE BENTeDOWNa OTHERS CIRCLEDoRIPPLE CURVEDgSTRA" ++
    "IGHTuINDEXa THUMBlRAISED KNUCKLEoTHUMBeOUCHES THUMBnUPjMIDDLE BENT OVER INDEXpDOWN"),
  ("SIGNWRITING HAND-FIST MIDDLE LITTLE",
    "gRAISED KNUCKLEnING LITTLElTHUMB ANGLED INDEX UPiOUT INDEX CROSSEDhUPtCIRCLED INDEX HINGED" ++
    "gUPpUPPED INDEX UPpHOOKED INDEX UPpLITTLEmUPa THUMB SIDEuRING DOWNeINDEXfLITTLEgMIDDLEa CO" ++
    "NJOINEDjRAISED KNUCKLESwRAISED KNUCKLEoTHUMBfUPhTHUMBa BETWEEN INDEX MIDDLE"),
  ("SIGNWRITING HAND-FIST THUMB BETWEEN INDEX MIDDLE STRAIGHT",
    "vMIDDLE RINGlRING LITTLEtFORWARDhHEELeOVER FOUR RAISED KNUCKLESuTWO FINGERSqSIDE BENTeCONJ" ++
    "OINEDjDIAGONALnUNDER FOUR FINGERSmINDEX BENTkLITTLE UPjTHREE FINGERSmWO FINGERSbbLATa BETW" ++
    "EEN PALM FACINGSuFIVE FINGERS SPREADa BENTeFOUR BENTjHINGEDa NO THUMBiTHUMB SIDE"),
  ("SIGNWRITING HAND-FLAT FIVE FINGERS SPREAD THUMB FORWARD",
    "bgOUR FINGERSa BENTeCONJOINEDa SPLITpHINGEDtHEELa FIVE FINGERS SPREADa BENTeFOUR BENTbdTHU" ++
    "MB SIDEpSPLIT CENTREa THUMB SIDEa BENTwINDEX THUMB SIDEqLITTLEmTHUMB BENTeFORWARDhSIDEpHIN" ++
    "GEa FIVE FINGERS SPREAD OPENxOUR FINGERS CONJOINEDwINDEXa HINGEDgMIDDLE LITTLEgRING"),
  ("SIGNWRITING HAND-HINGE INDEX MIDDLE RING CONJOINED",
    "vRING LITTLElTHUMBa LARGEfOPENeSIDEdMALLrLITTLEa INDEXa THUMBlTHUMBmMIDDLEa RING LITTLEsNO" ++
    " THUMBiOPENa NO THUMBiTHUMB FORWARDhSIDEpRINGa DOWN INDEX THUMB HOOK MIDDLEbhSMALLfTHUMB B" ++
    "ETWEEN MIDDLE RINGtSIDEa TOUCHING INDEXbeOOKa CURLICUEiINDEX RING LITTLE INcOUT"),
  ("SIGNWRITING HAND-HOOK INDEX RING LITTLE UNDER",
    "xMIDDLE RING LITTLE CONJOINEDa INcOUTzTHUMBmRING THUMBpOVALa FIVE FINGERS SPREADtINDEXfLIT" ++
    "TLE UPjNO THUMBiRING LITTLElTHUMB FORWARDhSIDEtEADa MOVEMENT CIRCLEh-FLOORPLANE CURVEfSTRA" ++
    "IGHTtWALLPLANE CURVEfSTRAIGHTiTILTxRIMiLIMB COMBINATIONlLENGTH-1b2b3b4b5b6b7"),
  ("SIGNWRITING LIP LOWER OVER UPPER",
    "qUPPER OVER LOWERrS PRESSED TOGETHERuOCATION DEPTHfHEAD NECKhIGHTgLIMBS DIGITSmTORSOfWIDTH" ++
    "g-FLOORPLANE SPACEqWALLPLANE SPACEyMOUTH CLOSED CONTACThFORWARDhNEUTRALnORNERShFROWNa OPEN" ++
    "eWRINKLEDoKISSa FORWARDhWRINKLEDnOPEN CIRCLEgFORWARDhOVALa WRINKLEDiYAWNjRECTANGLE"),
  ("SIGNWRITING MOUTH OPEN RECTANGLE WRINKLED",
    "iYAWNoWRINKLEDnSMILEa OPENeWRINKLEDoTENSEa FORWARDhSUCKEDmWRINKLES DOUBLEgSINGLEtVEMENT-DI" ++
    "AGONAL AWAY LARGEaSThMEDIUMgSMALLkBETWEEN AWAY LARGEaSThMEDIUMgSMALLkTOWARDS LARGEaSThMEDI" ++
    "UMgSMALLvTOWARDS LARGEaSThMEDIUMgSMALL"),
  ("SIGNWRITING MOVEMENT-FLOORPLANE ARM CIRCLE HITTING WALL LARGE DOUBLE",
    "gSINGLEmMEDIUM DOUBLEgSINGLEnSMALL DOUBLEgSINGLEbkBENDdOX LARGEfMEDIUMgSMALLjCHECKeORNER L" ++
    "ARGEfMEDIUMgSMALLlROSSeURVE COMBINEDiHITTING CEILING LARGEfSMALLnFLOOR LARGEfSMALLtLARGEaS" ++
    "ThMEDIUMgSMALLlDOUBLE ALTERNATINGa WRIST FLEXwSTRAIGHTiWRIST FLEX"),
  ("SIGNWRITING MOVEMENT-FLOORPLANE FINGER CIRCLES HITTING WALL DOUBLE",
    "gSINGLEbaONTACToHUMP HITTING CEILING LARGE DOUBLEgTRIPLEmSMALL DOUBLEgTRIPLEuFLOOR LARGE D" ++
    "OUBLEmSMALL DOUBLEmTRIPLE LARGE TRIPLEmSMALL TRIPLEbhSMALLkJAWdLOOP HITTING CEILING LARGE" ++
    " DOUBLEgSINGLEmSMALL DOUBLEgSINGLEuFLOOR LARGE DOUBLEgSINGLEmSMALL DOUBLEgSINGLE"),
  ("SIGNWRITING MOVEMENT-FLOORPLANE LOOP SMALL",
    "kPEAKS LARGEfMEDIUMgSMALLlSHAKING PARALLELpINGLE STRAIGHT LARGEaSThMEDIUMgSMALLoWRIST FLEX" ++
    "rTRIPLE ALTERNATING MOVEMENTiWRIST FLEXwSTRAIGHT MOVEMENTrWRIST FLEXrWAVE HITTING CEILING" ++
    " LARGEfSMALLnFLOOR LARGEfSMALLtLARGEfSMALLeNAKEjRIST CIRCLE HITTING WALL DOUBLE"),
  ("SIGNWRITING MOVEMENT-FLOORPLANE WRIST CIRCLE HITTING WALL SINGLE",
    "bgZIGZAG LARGEfMEDIUMgSMALLxHINGE DOWN SEQUENTIALpSIDE TO SIDE SCISSORSvUP DOWN ALTERNATIN" ++
    "G LARGEfSMALLrLARGEfSMALLkSEQUENTIALtWALLPLANE ARM CIRCLE MEDIUM DOUBLEgSINGLEnSMALL DOUBL" ++
    "EgSINGLExBEND LARGEfMEDIUMgSMALLjOX LARGEfMEDIUMgSMALLjCHECK LARGEfMEDIUMgSMALL"),
  ("SIGNWRITING MOVEMENT-WALLPLANE CORNER LARGE",
    "fMEDIUMgROTATIONiSMALLlROSSeURVE HALF-CIRCLE LARGEaSThMEDIUMgSMALLqITTING CHESTfFRONT WALL" ++
    "sQUARTER LARGEaSThMEDIUMgSMALLnTHEN STRAIGHTlREE-QUARTER CIRCLE MEDIUMgSMALLbbD CROSS MEDI" ++
    "UMgSMALLsDOUBLE ALTERNATINGa WRIST FLEXwSTRAIGHTiWRIST FLEXrFINGER CIRCLES DOUBLE"),
  ("SIGNWRITING MOVEMENT-WALLPLANE FINGER CIRCLES SINGLE",
    "nONTACToHUMP HITTING CHESTfFRONT WALLsLARGEfMEDIUMgSMALLkJAWdLOOP HITTING CHESTfFRONT WALL" ++
    "sLARGEfMEDIUMgSMALLa DOUBLErPEAKS LARGEfMEDIUMgSMALLlSHAKINGgINGLE STRAIGHT LARGEaSThMEDIU" ++
    "MgSMALLoWRIST FLEXrTRIPLE ALTERNATINGa WRIST FLEXwSTRAIGHT MOVEMENTrWRIST FLEX"),
  ("SIGNWRITING MOVEMENT-WALLPLANE WAVE CURVE DOUBLE LARGE",
    "fMEDIUMgSMALLmTRIPLE LARGEfMEDIUMgSMALLsDIAGONAL PATH LARGEfMEDIUMgSMALLtHITTING CHESTfFRO" ++
    "NT WALLwRIST CIRCLE FRONT DOUBLEgSINGLEzZIGZAG LARGEfMEDIUMgSMALLbfNECKdOSE CONTACThNEUTRA" ++
    "LhWIGGLESgRINKLESnPARENTHESISlROTATION MODIFIER-10b1b2b3b4b5b6c2b3b4b5b6b7b8b9"),
  ("SIGNWRITING ROTATION-FLOORPLANE ALTERNATING",
    "a HITTING CEILINGhFLOORzDOUBLEa HITTING CEILINGhFLOORuSINGLEa HITTING CEILINGhFLOORbfWALLP" ++
    "LANE ALTERNATEbING HITTING CHESTfFRONT WALLbeDOUBLEa HITTING CHESTfFRONT WALLzSINGLEa HITT" ++
    "ING CHESTfFRONT WALLbrUB BETWEENhMULTIPLEiSINGLEkSEMICOLONiHOULDER HIP POSITIONS"),
  ("SIGNWRITING SHOULDER HIP SPINE",
    "jTILTING FROM WAISTbaQUEEZE FLICK ALTERNATINGrLARGE MULTIPLEiSINGLEmSEQUENTIALjMALL MULTIP" ++
    "LEiSINGLEtTRIKE BETWEENhMULTIPLEiSINGLEmURFACE BETWEENhSYMBOLSpTEETHa BITE LIPSjMOVEMENTiO" ++
    "N LIPSa MOVEMENTnTONGUEa MOVEMENTwNSE CHEEKS HIGHeLOWdMIDDLE"),
  ("SIGNWRITING TONGUE CENTRE INSIDE MOUTH",
    "mSTICKING OUTtINSIDE MOUTH RELAXEDuLICKING LIPSmMOVES AGAINST CHEEKtSTICKING OUT FARqTIP B" ++
    "ETWEEN LIPSmTOUCHING INSIDE MOUTHbeRSO-FLOORPLANE TWISTINGtWALLPLANE CURVED BENDlSTRAIGHT" ++
    " STRETCHbeUCH BETWEENhMULTIPLEiSINGLE"),
  ("SIGNWRITING TRAVEL-FLOORPLANE ROTATION-FLOORPLANE ALTERNATING",
    "lDOUBLEgSINGLErWALLPLANE ALTERNATINGlDOUBLEgSINGLEzSHAKINGsWALLPLANE ARM SPIRAL DOUBLEgSIN" ++
    "GLEgTRIPLErROTATION-FLOORPLANE ALTERNATINGlDOUBLEgSINGLErWALLPLANE ALTERNATINGlDOUBLEgSING" ++
    "LEzSHAKINGyUPPER BODY TILTING FROM HIP JOINTSbiWALLPLANE SHOULDER HIP MOVE"),
  ("SILHOUETTE OF JAPAN",
    "rMILAR ABOVE GREATER-THAN ABOVE EQUALS SIGNbeLESS-THAN ABOVE EQUALS SIGNbhMINUS SIMILARnOR" ++
    " GREATER-THANmLESS-THANsNE WAVEgGLE CHARACTER INTRODUCERuGRAPHIC CHARACTER INTRODUCERbcHIG" ++
    "H-REVERSED-9 QUOTATION MARKbeLEFT-POINTING ANGLE QUOTATION MARKbhOW-9 QUOTATION MARK"),
  ("SINGLE RIGHT-POINTING ANGLE QUOTATION MARK",
    "bjSHIFT THREEeWOk-SHIFT-2b3lHALA ARCHAIC DIGIT EIGHTfFIVEdOUReNINEeONEdSEVENeIXdTHREEeWOjN" ++
    "UMBER EIGHTYgFIFTYeORTYfNINETYgONE HUNDREDhTHOUSANDmSEVENTYgIXTYfTENcHIRTYfWENTYvLETTER AA" ++
    "YANNAgEEYANNAgYANNAgIYANNAgLPAPRAANA BAYANNAhCAYANNAhDAYANNAgDAYANNAiGAYANNAhJAYANNA"),
  ("SINHALA LETTER ALPAPRAANA KAYANNA",
    "hPAYANNAhTAYANNAgTAYANNAsMBA BAYANNAlUYANNAgYANNAgDANTAJA LAYANNAhNAYANNAhSAYANNApEEYANNAg" ++
    "YANNAgFAYANNAhHAYANNAhIIYANNAgLUUYANNAgYANNAhRUUYANNAgYANNAhYANNAgKANTAJA NAASIKYAYAsMAHAA" ++
    "PRAANA BAYANNAhCAYANNAhDAYANNAgDAYANNAiGAYANNAhJAYANNAhKAYANNAhPAYANNAhTAYANNA"),
  ("SINHALA LETTER MAHAAPRAANA TTAYANNA",
    "sYANNAgUURDHAJA LAYANNAhNAYANNAhSAYANNArOOYANNAgYANNAgRAYANNAhSANYAKA DAYANNAgDAYANNAiGAYA" ++
    "NNAhJAYANNApTAALUJA NAASIKYAYAkSANYOOGA NAAKSIKYAYAsYANNApUUYANNAgYANNAgVAYANNAhYAYANNAnIT" ++
    "H DIGIT EIGHTfFIVEdOUReNINEeONEdSEVENeIXdTHREEeWOdZEROpPUNCTUATION KUNDDALIYA"),
  ("SINHALA SIGN AL-LAKUNA",
    "iNUSVARAYAkCANDRABINDUlVISARGAYAoVOWEL SIGN AELA-PILLAkDIGA AEDA-PILLAkGAETTA-PILLAkYANUKI" ++
    "TTAlIS-PILLAiKOMBUVAhPAA-PILLAoGAETTA-PILLAkYANUKITTAlKETTI AEDA-PILLAkIS-PILLAiPAA-PILLAo" ++
    "OMBU DEKAfVAa HAA AELA-PILLAkDIGA AELA-PILLApGAYANUKITTA"),
  ("SIX PETALLED BLACK AND WHITE FLORETTE",
    "bgOINTED BLACK STARkPINWHEEL STARnSTAR WITH MIDDLE DOTbd-PER-EM SPACEnTEEN POINTED ASTERIS" ++
    "KxKATEBOARDiI AND SKI BOOTnERdULLa AND CROSSBONESrNKeLANTED EQUAL TO OR GREATER-THANa WITH" ++
    " DOT INSIDEbcLESS-THANa WITH DOT INSIDEblNORTH ARROW WITH HOOKED HEADjRIZONTAL TAIL"),
  ("SLAVONIC ASTERISK",
    "pEDbEPING ACCOMMODATIONnFACEeSYMBOLkY FACEiUTH OR SPYlICE OF PIZZAlGHTLY FROWNING FACEnSMI" ++
    "LING FACEtOPEbING LARGE ANDdORnT MACHINEiHeMALL AIRPLANEhMPERSANDiSTERISKiBLUE DIAMONDmCOL" ++
    "ONdMMAbERCIAL ATlNTAINS AS MEMBERjWITH OVERBAR"),
  ("SMALL CONTAINS WITH VERTICAL BAR AT END OF HORIZONTAL STROKE",
    "ccDOLLAR SIGNlELEMENT OFa WITH OVERBARhVERTICAL BAR AT END OF HORIZONTAL STROKEcdM DASHgQU" ++
    "ALS SIGNkXCLAMATION MARKqFULL STOPjGREATER-THAN SIGNrHYPHEN-MINUSmIDEOGRAPHIC COMMArLEFT C" ++
    "URLY BRACKETnPARENTHESISlTORTOISE SHELL BRACKETzSS-THAN SIGNoNUMBER SIGN"),
  ("SMALL ORANGE DIAMOND",
    "oPERCENT SIGNlLUS SIGNjQUESTION MARKnREVERSE SOLIDUSoIGHT CURLY BRACKETnPARENTHESISlTORTOI" ++
    "SE SHELL BRACKETbbOMAN NUMERAL EIGHTeLEVENgFIFTYdVEa HUNDREDlOUReNINEeONEa HUNDREDhTHOUSAN" ++
    "DmSEVENeIXdTENcHREEeWELVEeOrSEMICOLONjTILDEeWO DOTS OVER ONE DOT PUNCTUATION"),
  ("SMALL VEE WITH UNDERBAR",
    "sER THANa OR EQUAL TOvSH PRODUCTlILEbING CAT FACE WITH HEART-SHAPED EYESrOPEN MOUTHyFACE W" ++
    "ITH HALOdEART-SHAPED EYESqORNSfOPEN MOUTHa AND COLD SWEATkSMILING EYESmTIGHTLY-CLOSED EYES" ++
    "biSMILING EYESa AND HAND COVERING MOUTHtTHREE HEARTSbcUNGLASSESkTEARtRKING FACE"),
  ("SMOKING SYMBOL",
    "nNAILcKEdEEZING FACElOW CAPPED MOUNTAINqBOARDERhFLAKEfMANa WITHOUT SNOWtOaCCER BALLiKSdFT" ++
    " HYPHENgICE CREAMjSHELL FLOPPY DISKsBALLeWARE-FUNCTION SYMBOLwGDIAN COMBINING CURVE ABOVEf" ++
    "BELOWlDOT ABOVEfBELOWjHOOK ABOVEfBELOWkLONG HOOK BELOWpRESH BELOWkSTROKE BELOW"),
  ("SOGDIAN COMBINING TWO DOTS ABOVE",
    "fBELOWyINDEPENDENT SHINqLETTER ALEPHeYINeBETHeFETHeGIMELfHEaTHeKAPHeLAMEDHfESHeMEMdNUNdPEc" ++
    "RESH-AYINjSADHEdMEKHfHINeTAWdWAWdYODHeZAYINmNUMBER ONEa HUNDREDlTENcWENTYnPUNCTUATION CIRC" ++
    "LE WITH DOTpHALF CIRCLE WITH DOTuTWO CIRCLES WITH DOTSrVERTICAL BARSa WITH DOTSbtH"),
  ("SOLID QUILT SQUARE ORNAMENT",
    "a IN BLACK SQUAREbmUSa WITH OVERBARsM SIGNgON WITH RIGHTWARDS ARROW ABOVEbeRA SOMPENG DIGI" ++
    "T EIGHTfFIVEdOUReNINEeONEdSEVENeIXdTHREEeWOdZEROkLETTER AHcBAHdCAHdDAHdEEHcHcGAHdHAHdIHcJA" ++
    "HdKAHdLAHdMAEbHdNAHcGAHdYAHeOHcPAHdRAHdSAHdTAHdUHcVAHdYAHvSbUND RECORDING COPYRIGHT"),
  ("SOUTH EAST ARROW",
    "a AND SOUTH WEST ARROWuCROSSING NORTH EAST ARROWzTO CORNERjWITH HOOKpBLACK ARROWlDOUBLE AR" ++
    "ROWmPOINTING BUDdLEAFeVINE LEAFsSANS-SERIF ARROWqTRIANGLE-HEADED ARROWa TO BARbcWHITE ARRO" ++
    "WqWEST ARROWa AND NORTH WEST ARROWuWITH HOOKpBLACK ARROWlDOUBLE ARROWmPOINTING BUD"),
  ("SOUTH WEST POINTING LEAF",
    "eVINE LEAFsSANS-SERIF ARROWqTRIANGLE-HEADED ARROWa TO BARbcWHITE ARROWuYOMBO CLUSTER-INITI" ++
    "AL LETTER LAcRAcSAbHAbaFINAL CONSONANT SIGN -AcBbDbGbKbLbMbNaGcRbSaHxGEMINATION MARKpHEAD" ++
    " MARK WITH MOON AND SUNa AND FLAMEfTRIPLE FLAMEbsLETTER -AcAbBAbHAdCAbHAdDAbDAbHAdHA"),
  ("SOYOMBO LETTER DZA",
    "dGAbHAdHAcJAbHAdKAbHAcSSAeLAcMAcNAbGAcNAcYAdPAbHAdRAcSAbHAcSAdTAbHAcSAbHAdTAbHAeVAcYAcZAbH" ++
    "AkMARK DOUBLE SHADlPLUTAfSHADeTSHEGkSIGN ANUSVARAiJIHVAMULIYAlUPADHMANIYAlVISARGAlUBJOINER" ++
    "jTERMINAL MARK-1b2pVOWEL LENGTH MARKlSIGN AIbUcEbIbOaEcUaEcVOCALIC LbRbbPaAaCE"),
  ("SPAGHETTI",
    "gRKLEaScING HEARTnEAK-NO-EVIL MONKEYpERa WITH CANCELLATION STROKEtONE SOUND WAVEoTHREE SOU" ++
    "ND WAVESzING HEAD IN SILHOUETTEyECH BALLOONkDBOATgSMILO SIGNlHERICAL ANGLEa OPENING LEFTeU" ++
    "PyIDERa WEBhRAL CALENDAR PADmNOTE PADiSHELLkLASHING SWEAT SYMBOLuONGEdOL OF THREADlN"),
  ("SPORTS MEDAL",
    "jUTING WHALEnQUARE A OVER MhARUdMbNPEAePAATOfRUHUAfUcBAARERUfRcEETAeIRUdORUTOfQbUSSYERUiC" ++
    " OVER KGiALbPcCbDbMa CUBEDfSQUAREDjOaRPORATIONkUPdDAaASUeBbESIdJbLbMa CUBEDfSQUAREDjORUeEE" ++
    "KAAeRA NAME HEISEIgMEIZIfREIWAfSYOUWAgTAISYOUoGcSUKUUDOhVcFMbOOTcUR CORNERSmGALbNMA"),
  ("SQUARE GARON",
    "eBbHZcIGAcNIIdRUDAAgPAcURAMUaTONiYcHAaITUeEKUTAARUhRUTUfGbIRAGANA HOKAmONbONbRUePaAcUARADD" ++
    "OgIITOeRANeZcIMAGE OFa OR EQUAL TOiNOT EQUAL TOxNaINGUeTIdUcK OHMeAaIRIdRATTOeORIIgBbCALdE" ++
    "ESUeGbHZcIROaGURAMUgMEETORUhWATTOiKbLbMa CAPITALgUBEDfSQUAREDjOOPOdRUNAfPAcTbUROONE"),
  ("SQUARE KURUZEIRO",
    "iVbWbYURIIgLEFT OPEN BOX OPERATORvMbNbOGbZENGEgXcM CUBEDfOHMcVER Sa SQUAREDoSQUAREDiAaHHAd" ++
    "IKUROeRUdNSYONfRUKUfBa SMALLhEETORUfGAaTONgGbHZcIKURONfLbRIaBAARUiLbMa CUBEDfSQUAREDjOLcPA" ++
    "cSbU AbFbGbLbMbSbVbWdVa MEGAgWa MEGAhNAaNOdFbMbOTTOeSbVbWcONSUdOMUdRIGINAL OF"),
  ("SQUARE ORIGINAL OF OR EQUAL TO",
    "iNOT EQUAL TObaVcPAa AMPSfASENTOfTUeCbEEZIdNIHIdSUdSOdFbHbIASUTORUhKObURUfMbOINTOeNDOdSITI" ++
    "ON INDICATORrPMcRbSbVbWcRADa OVER Sa SQUAREDrEMUcNTOGENhIGHT OPEN BOX OPERATORvRAcTTORUgOO" ++
    "TdUPIIdUBURUhSAIKURUfNTIIMUhENTIbOeIRINGUgRbVcTARGETfHZcONdUONdV OVER MiWATTOeB"),
  ("SQUARE WITH BOTTOM HALF BLACK",
    "rCONTOURED OUTLINErDIAGONAL CROSSHATCH FILLyHORIZONTAL FILLpLEFT HALF BLACKoOWER LEFT DIAG" ++
    "ONAL HALF BLACKyRIGHT DIAGONAL HALF BLACKbfORTHOGONAL CROSSHATCH FILLbaRIGHT HALF BLACKqTO" ++
    "P HALF BLACKoUPPER LEFT DIAGONAL HALF BLACKtTO LOWER RIGHT FILL"),
  ("SQUARE WITH UPPER RIGHT DIAGONAL HALF BLACK",
    "tTO LOWER LEFT FILLbeVERTICAL FILLsYAADOcRUeUANfD ASTERISKiCJK UNIFIED IDEOGRAPH-4E00b9c2D" ++
    "c8CcA4e518Dd21Dc4Dc72d3CCcF3d408c39d5B6d8F0d91Ac29dB57dDE6dF8Ce624Bc53c95d307c55d599cB0d62" ++
    "0d708b9dE80dF14e7121d51Fc33d981dA7AdD42e89E3dCA9dD70e904Ad14DzLbOOLeDOT OPERATOR"),
  ("SQUARED EIGHT K",
    "hFALLING DIAGONAL SLASHvIVE POINT ONEnOUR DOT PUNCTUATIONpKfREEeHCbDRcI-RESfVcIDcKATAKANA" ++
    " DEcKOKOeSAkEYdLATIN CAPITAL LETTER AbBbCbDbEbFbGbHbIbJbKbLbMbNbObPbQbRbSbTbUbVbWbXbYbZqSM" ++
    "ALL LETTER DtOGICAL ANDdORiSSLESSiMINUSeVcNEWcGcOKbNE HUNDRED TWENTY PuPLUSdPV"),
  ("SQUARED RISING DIAGONAL SLASH",
    "vSALTIREgDbECOND SCREENlVEN POINT ONEoHVcIXTY PgMALL CIRCLElOScQUAREfScTHREE DgIMESeWENTY-" ++
    "TWO POINT TWOsO KfUHDcP WITH EXCLAMATION MARKyVODcScWCgT BLACK RIGHTWARDS ARROWzIDeS2b3bAc" ++
    "TaADIUMeFF OF AESCULAPIUSlHERMESmMPED ENVELOPEnNDING PERSONmR AND CRESCENTmEQUALS"),
  ("STAR OF DAVID",
    "hPERATORiWITH LEFT HALF BLACKpRIGHT HALF BLACKwT OF GUARDED AREAmHEADINGhPROTECTED AREAoSE" ++
    "LECTED AREAmTRINGgTEXTkTIONdUE OF LIBERTYpEAM LOCOMOTIVElING BOWLkNOGRAPHIC FULL STOPtTHOS" ++
    "COPEjICK FIGUREa LEANING LEFTeRIGHTnWITH ARMS RAISEDlDRESSvOCK CHARTiPWATCH"),
  ("STRAIGHT RULER",
    "gNESSiWBERRYhESS OUTLINED WHITE STARxICTLY EQUIVALENT TOsNG TERMINATORpSbUDI" ++
    "O MICROPHONEoFFED FLATBREADoPAdXcUBaSCRIPT EIGHTeQUALS SIGNlFIVEdOUReLEFT PARENTHESISqMINU" ++
    "SfNINEeONEdPLUS SIGNjRIGHT PARENTHESISrSEVENeIXdTHREEeWOdZEROkET ABOVE RIGHTWARDS ARROWqSU" ++
    "BSET"),
  ("SUBSET ABOVE SUPERSET",
    "oOFa ABOVE ALMOST EQUAL TOpEQUALS SIGNlNOT EQUAL TOmTILDE OPERATORuOR EQUAL TOa WITH DOT A" ++
    "BOVEbaWITH NOT EQUAL TOuWITH DOTdMULTIPLICATION SIGN BELOWzPLUS SIGN BELOWxTITUTEiCCEEDSa" ++
    " ABOVE ALMOST EQUAL TOpEQUALS SIGNlNOT ALMOST EQUAL TOpEQUAL TO"),
  ("SUCCEEDS ABOVE SINGLE-LINE EQUALS SIGN",
    "lNOT EQUAL TObeBUT NOT EQUIVALENT TOvOR EQUAL TOfIVALENT TOqUNDER RELATIONvMMATION BOTTOMg" ++
    "TOPdWITH INTEGRALvNa BEHIND CLOUDmWITH FACEkDANESE AVAGRAHAiCONSONANT SIGN PAMINGKALhNYAKR" ++
    "AeIKUfSANGAN MAcWAbaDIGIT EIGHTfFIVEdOUReNINEeONEdSEVENeIXdTHREEeWOdZEROkLETTER AaE"),
  ("SUNDANESE LETTER BA",
    "bHAdCAcDAcEaUcFAbINAL KbMhGAcHAcIbJAcKAbHAdLAbEUdMAcNAbGAcYAdObPAcQAcRAbEUdSAbYAdTAcUbVAcW" ++
    "AcXAcYAcZAjPUNCTUATION BINDU BA SATANGAkCAKRAfDA SATANGAkKA SATANGAkLEU SATANGAlPANGLONGhU" ++
    "RNAMAhSURYAxSIGN PAMAAEHfNGLAYARfWISADgYECEKiVIRAMAlVOWEL SIGN PAMEPETfNAELAENG"),
  ("SUNDANESE VOWEL SIGN PANEULEUNG",
    "hGHULUfOLONGfYUKUzFLOWERgRISEa OVER MOUNTAINStSET OVER BUILDINGStPERHEROeSCRIPT EIGHTeQUAL" ++
    "S SIGNlFIVEdOUReLATIN SMALL LETTER IbNtEFT PARENTHESISqMINUSfNINEeONEdPLUS SIGNjRIGHT PARE" ++
    "NTHESISrSEVENeIXdTHREEeWOdZEROkET ABOVE LEFTWARDS ARROWpSUBSETePERSET"),
  ("SUPERSET BESIDE AND JOINED BY DASH WITH SUBSET",
    "beSUBSETnOFa ABOVE ALMOST EQUAL TOpEQUALS SIGNlNOT EQUAL TOmTILDE OPERATORuOR EQUAL TOa WI" ++
    "TH DOT ABOVEbaWITH NOT EQUAL TOuPRECEDING SOLIDUSrWITH DOTdMULTIPLICATION SIGN BELOWzPLUS" ++
    " SIGN BELOWyVILLAINkRFACE INTEGRALmEReSHIcPENSION RAILWAYrWANbSH AMPERSAND ORNAMENT"),
  ("SWIMMER",
    "fUNG DASHjYLOTI NAGRI LETTER AbBHOcOcCHOcOcDDHOcOcHOcOcEbGHOcOcHOcIbJHOcOcKHOcOcLOcMOcNOcO" ++
    "bPHOcOcRObROdSOcTHOcObTHOcOdUiPOETRY MARK-1b2b3b4nSIGN ALTERNATE HASANTAqNUSVARAiDVISVARAi" ++
    "HASANTAmVOWEL SIGN AbEbIbOOcUxMBOL FOR ACKNOWLEDGElBACKSPACEiELLeCANCEL"),
  ("SYMBOL FOR CARRIAGE RETURN",
    "pDATA LINK ESCAPEpELETEa FORM TWOnVICE CONTROL FOUReONEdTHREEeWOsEND OF MEDIUMgTEXTdRANSMI" ++
    "SSIONa BLOCKxQUIRYgSCAPEgFILE SEPARATORnORM FEEDjGROUP SEPARATORpHORIZONTAL TABULATIONvLIN" ++
    "E FEEDjMARKS CHAPTERnNEGATIVE ACKNOWLEDGEsWLINEgULLeRECORD SEPARATOR"),
  ("SYMBOL FOR SAMARITAN SOURCE",
    "pHIFT INcOUTiPACEeTART OF HEADINGhTEXTmUBSTITUTEa FORM TWOsYNCHRONOUS IDLEqTYPE A ELECTRON" ++
    "ICSsUNIT SEPARATORoVERTICAL TABULATIONbbMETRYgNaAGOGUEgCHRONOUS IDLEoRIAC ABBREVIATION MAR" ++
    "KrBARREKHhCOLON SKEWED LEFTeRIGHTqNTRACTIONlDOTTED ZLAMA ANGULARhHORIZONTAL"),
  ("SYRIAC END OF PARAGRAPH",
    "pSASA ABOVEfBELOWlFEMININE DOTmHARKLEAN ASTERISCUSkMETOBELUSjOBELUSoBASA ABOVEfBELOWg-ESAS" ++
    "A DOTTEDrORIZONTAL COLONqLETTER ALAPHfBETHeDALATHfOTLESS DALATH RISHtEbFINAL SEMKATHnGAMAL" ++
    "a GARSHUNIoHEaTHeKAPHeLAMADHgMALAYALAM BHAdJAcLLAbLAeNGAcNAbNAdYAdRAcSSAdTTAmIMdNUN"),
  ("SYRIAC LETTER PE",
    "aRSIAN BHETHfDHALATHhGHAMALoQAPHeREVERSED PEkISHeSADHEeEMKATHgHINdOGDIAN FEcKHAPHfZHAINmUP" ++
    "ERSCRIPT ALAPHrTAWcETHa GARSHUNInWAWdYUDHa HEhZAINlMUSICfOBLIQUE LINE ABOVEfBELOWsPTHAHA A" ++
    "BOVEfBELOWfDOTTEDnQUSHSHAYAjRBASA ABOVEfBELOWkUKKAKHAhWAHAfSUBLINEAR COLON"),
  ("SYRIAC SUBLINEAR COLON SKEWED LEFT",
    "eRIGHTsFULL STOPrPRALINEAR COLONa SKEWED LEFTrFULL STOPvTHREE DOTS ABOVEfBELOWpWO VERTICAL" ++
    " DOTS ABOVEfBELOWxZQAPHA ABOVEfBELOWfDOTTEDqNGEhT-REXdSHIRTgABaLE TENNIS PADDLE AND BALLba" ++
    "COcG AMPERSANDiPOSTROPHEjSTERISKiCIRCUMFLEX ACCENTqOLONdMMAbERCIAL ATnDIGIT EIGHT"),
  ("TAG DIGIT FIVE",
    "dOUReNINEeONEdSEVENeIXdTHREEeWOdZEROjOLLAR SIGNlEQUALS SIGNkXCLAMATION MARKqFULL STOPjGRAV" ++
    "E ACCENTkEATER-THAN SIGNrHYPHEN-MINUSmLATIN CAPITAL LETTER AbBbCbDbEbFbGbHbIbJbKbLbMbNbObP" ++
    "bQbRbSbTbUbVbWbXbYbZqSMALL LETTER AbBbCbDbEbFbGbHbIbJbKbLbMbNbObPbQbRbSbTbUbVbWbXbY"),
  ("TAG LATIN SMALL LETTER Z",
    "tEFT CURLY BRACKETnPARENTHESISlSQUARE BRACKETrSS-THAN SIGNnOW LINEiNUMBER SIGNlPERCENT SIG" ++
    "NlLUS SIGNjQUESTION MARKlOTATION MARKoREVERSE SOLIDUSoIGHT CURLY BRACKETnPARENTHESISlSQUAR" ++
    "E BRACKETuSEMICOLONiOLIDUSgPACEfTILDEfVERTICAL LINEoALOG LETTER AaRCHAIC RAkBAcDAcGA"),
  ("TAGALOG LETTER HA",
    "cIbKAcLAcMAcNAbGAdPAcRAcSAcTAcUbWAcYAjSIGN PAMUDPODiVIRAMAlVOWEL SIGN IbUrBANWA LETTER AbB" ++
    "AcDAcGAcIbKAcLAcMAcNAbGAdPAcSAcTAcUbWAcYAjVOWEL SIGN IbUtI LE LETTER AaIbUEdEaEbHcFAcHAcIb" ++
    "KAbHAdLAcMAcNAbGAdOaOcPAbHAdQAcSAcTAbHAcONE-2b3b4b5b6fSAbHAeUaEcVAcXAcYA"),
  ("TAI THAM COMBINING CRYPTOGRAMMIC DOT",
    "zNSONANT SIGN BAcFINAL NGAjHIGH RATHA OR LOW PAuLA TANG LAIkOW PAgMAbEDIAL LAcRAjSArHORA D" ++
    "IGIT EIGHTfFIVEdOUReNINEeONEdSEVENeIXdTHREEeWOdZEROpLETTER AbBAcDAcEEcGREAT SAiHIGH CAbHAd" ++
    "FAcHAcKAbHAcXAdPAbHAdRATHAfSAbHAcSAdTAbHAdYAhIaIcLAaEcLAcOW CAbHAdFAcHAcKAbHAcXAdPA"),
  ("TAI THAM LETTER LOW PHA",
    "dRATHAfSAcTAbHAdYAfUEdMAcNAbGAcYAdOOcRAaNAcTAdUEdUaUcWAjSIGN CAANGfDOKMAIgHANGdOYdKAANaKUU" ++
    "gEOWdHUEN TONE-3b4b5h-LUE KARANpMAI KANGa LAIiSAMdYAMOKjRA HAAMgEVERSED ROTATED RANAvSAKOT" ++
    "dTKAANaKUUiWANfTONE-1b2gWIANGaWAAKoTHAM DIGIT EIGHTfFIVEdOUReNINEeONEdSEVENeIXdTHREE"),
  ("TAI THAM THAM DIGIT TWO",
    "dZEROpVOWEL SIGN AaAbEbIcEbIaIcMAI SAThOaA ABOVEfBELOWhObYcTALL AAgHAM AIhUaEbUaEtVIET LET" ++
    "TER HIGH BOcCHOcOcDOcFOcGOcHOcKHHOcOcOcLOcMOcNGOcObYOdObPHOcOcROcSOcTHOcOcVOcYOhLOW BOcCHO" ++
    "cOcDOcFOcGOcHOcKHHOcOcOcLOcMOcNGOcObYOdObPHOcOcROcSOcTHOcOcVOcYOnMAI KANGdHIT"),
  ("TAI VIET SYMBOL HO HOI",
    "gKOI KOIfNdNUENGfSAMkTONE MAI EKcNUENGfSONGeTHOmVOWEL AAbMbNbUEcYcEbIaAcObUaAbEaAqKEOUT BO" ++
    "XiRI ABBREVIATION SIGNrDIGIT EIGHTfFIVEdOUReNINEeONEdSEVENeIXdTHREEeWOdZEROkLETTER AaAbIbR" ++
    "CHAIC KHAkUcBAbHAdCAbHAdDAbDAbHAdHAdEbGAbHAdHAcIaIcJAbHAdKAbHAdLAcMAcNAbGAcNAcYAdO"),
  ("TAKRI LETTER PA",
    "bHAdRAbRAdSAbHAdTAbHAcTAbHAeUaUcVAcYAjSIGN ANUSVARAiNUKTAfVIRAMAeSARGAmVOWEL SIGN AAbIbUcE" ++
    "bIaIcObUaUrLLY MARK FIVEeONEmMALEdIL AND ODD SIGNlS ABOVE SIGNmU LENGTH MARKoCREDIT SIGNkU" ++
    "RRENT SIGNmDAY SIGNhEBIT SIGNjIGIT EIGHTfFIVEdOUReNINEeONEdSEVENeIXdTHREEeWOdZERO"),
  ("TAMIL DRY CULTIVATION SIGN",
    "uFRACTION DOWNSCALING FACTOR KIIZHyONE EIGHTHbIETHjFIFTHeORTIETHiHALF-1b2gONE-HUNDRED-AND-" ++
    "SIXTIETHyQUARTERhSIXTEENTH-1b2hY-FOURTHmTENTHeHIRTY-SECONDlREE-HUNDRED-AND-TWENTIETHbaWENT" ++
    "IETHnTHREE EIGHTIETHSkQUARTERSiSIXTEENTHSgY-FOURTHSnTWENTIETHSzIN POSSESSION SIGN"),
  ("TAMIL LAND SIGN",
    "iETTER AaAbIbUcCAcEaEcHAcIaIcJAcKAcLAbLAbLAeMAcNAbGAcNAbNAdYAdOaOcPAcRAbRAdSAbHAcSAdTAbTAd" ++
    "UaUcVAcYAjMONTH SIGNkNUMBER ONE HUNDREDhTHOUSANDmSIGNeTENkOMcPUNCTUATION END OF TEXTxRUPEE" ++
    " SIGNkSALT PAN SIGNmIGN AAZHAAKKUiNUSVARAiCEVITUgKAACUeURUNIeZHIfMUKKURUNIhTHALIYA"),
  ("TAMIL SIGN MUUVUZHAKKU",
    "lNELdPAARAMeNAMdTHAKKUhONdUZHAKKUhVAKAIYARAAiRAAKANhELIdIRAMAeSARGAlPENT SIGNjTARTING FROM" ++
    " SIGNsTOTAL SIGNjRADITIONAL CREDIT SIGNlNUMBER SIGNxVOWEL SIGN AAbIbUcEaEcIaIcOaOcUaUnWET" ++
    " CULTIVATION SIGNuYEAR SIGNnNABATA TREEkGERINEfSA DIGIT EIGHTfFIVEdOUReNINEeONEdSEVEN"),
  ("TANGSA DIGIT SIX",
    "dTHREEeWOdZEROkLETTER ACbQbWCbQbXbZcXbZcBAcCAbHAdDAbHAdECbQbXbZcFAbINAL NGiGAbHAdHAbTAbTAe" ++
    "ICbQbXbZcKAbHAdLAbONG UEXiMAbCbQbXbZcNAbGAcHAcYAdOCbQbXbZcPAbHAdRAcSAbHAbORT AWXdUEZjTAbHA" ++
    "cSAdUCbECbQbXbZcICbQbUCbQbXbZcXbZcQbXbZcVCbQbXbZcWAcXAcYAcZAmUT COMPONENT-001b2b3b4"),
  ("TANGUT COMPONENT-005",
    "b6b7b8b9c10b1b2b3b4b5b6b7b8b9c20b1b2b3b4b5b6b7b8b9c30b1b2b3b4b5b6b7b8b9c40b1b2b3b4b5b6b7b8" ++
    "b9c50b1b2b3b4b5b6b7b8b9c60b1b2b3b4b5b6b7b8b9c70b1b2b3b4b5b6b7b8b9c80b1b2b3b4b5b6b7b8b9c90b" ++
    "1b2b3b4b5b6b7b8b9d100b1b2b3b4b5b6b7b8b9c10b1b2b3b4b5b6b7b8b9c20b1b2b3b4b5b6b7b8b9c30"),
  ("TANGUT COMPONENT-131",
    "b2b3b4b5b6b7b8b9c40b1b2b3b4b5b6b7b8b9c50b1b2b3b4b5b6b7b8b9c60b1b2b3b4b5b6b7b8b9c70b1b2b3b4" ++
    "b5b6b7b8b9c80b1b2b3b4b5b6b7b8b9c90b1b2b3b4b5b6b7b8b9d200b1b2b3b4b5b6b7b8b9c10b1b2b3b4b5b6b" ++
    "7b8b9c20b1b2b3b4b5b6b7b8b9c30b1b2b3b4b5b6b7b8b9c40b1b2b3b4b5b6b7b8b9c50b1b2b3b4b5b6"),
  ("TANGUT COMPONENT-257",
    "b8b9c60b1b2b3b4b5b6b7b8b9c70b1b2b3b4b5b6b7b8b9c80b1b2b3b4b5b6b7b8b9c90b1b2b3b4b5b6b7b8b9d3" ++
    "00b1b2b3b4b5b6b7b8b9c10b1b2b3b4b5b6b7b8b9c20b1b2b3b4b5b6b7b8b9c30b1b2b3b4b5b6b7b8b9c40b1b2" ++
    "b3b4b5b6b7b8b9c50b1b2b3b4b5b6b7b8b9c60b1b2b3b4b5b6b7b8b9c70b1b2b3b4b5b6b7b8b9c80b1b2"),
  ("TANGUT COMPONENT-383",
    "b4b5b6b7b8b9c90b1b2b3b4b5b6b7b8b9d400b1b2b3b4b5b6b7b8b9c10b1b2b3b4b5b6b7b8b9c20b1b2b3b4b5b" ++
    "6b7b8b9c30b1b2b3b4b5b6b7b8b9c40b1b2b3b4b5b6b7b8b9c50b1b2b3b4b5b6b7b8b9c60b1b2b3b4b5b6b7b8b" ++
    "9c70b1b2b3b4b5b6b7b8b9c80b1b2b3b4b5b6b7b8b9c90b1b2b3b4b5b6b7b8b9d500b1b2b3b4b5b6b7b8"),
  ("TANGUT COMPONENT-509",
    "c10b1b2b3b4b5b6b7b8b9c20b1b2b3b4b5b6b7b8b9c30b1b2b3b4b5b6b7b8b9c40b1b2b3b4b5b6b7b8b9c50b1b" ++
    "2b3b4b5b6b7b8b9c60b1b2b3b4b5b6b7b8b9c70b1b2b3b4b5b6b7b8b9c80b1b2b3b4b5b6b7b8b9c90b1b2b3b4b" ++
    "5b6b7b8b9d600b1b2b3b4b5b6b7b8b9c10b1b2b3b4b5b6b7b8b9c20b1b2b3b4b5b6b7b8b9c30b1b2b3b4"),
  ("TANGUT COMPONENT-635",
    "b6b7b8b9c40b1b2b3b4b5b6b7b8b9c50b1b2b3b4b5b6b7b8b9c60b1b2b3b4b5b6b7b8b9c70b1b2b3b4b5b6b7b8" ++
    "b9c80b1b2b3b4b5b6b7b8b9c90b1b2b3b4b5b6b7b8b9d700b1b2b3b4b5b6b7b8b9c10b1b2b3b4b5b6b7b8b9c20" ++
    "b1b2b3b4b5b6b7b8b9c30b1b2b3b4b5b6b7b8b9c40b1b2b3b4b5b6b7b8b9c50b1b2b3b4b5b6b7b8b9c60"),
  ("TANGUT COMPONENT-761",
    "b2b3b4b5b6b7b8nITERATION MARKtPE CARTRIDGEjDRIVEiURUSeXIdEACUP WITHOUT HANDLEsPOTdR-OFF CA" ++
    "LENDARnDROP-BARBED RIGHTWARDS ARROWxSPOKED ASTERISKwDDY BEARiLEPHONE LOCATION SIGNnON TOP" ++
    " OF MODEMpRECEIVERa WITH PAGEpORDERiSIGNkSCOPEfVISIONhUGU AI LENGTH MARKoDIGIT EIGHT"),
  ("TELUGU DIGIT FIVE",
    "dOUReNINEeONEdSEVENeIXdTHREEeWOdZEROkFRACTION DIGIT ONE FOR EVEN POWERS OF FOURtODD POWERS" ++
    " OF FOURbaTHREE FOR EVEN POWERS OF FOURtODD POWERS OF FOURbbWO FOR EVEN POWERS OF FOURtODD" ++
    " POWERS OF FOURbaZERO FOR ODD POWERS OF FOURbqLENGTH MARKjTTER AaAbIbUcBAbHAdCAbHA"),
  ("TELUGU LETTER DA",
    "bDAbHAdHAcZAdEaEcGAbHAdHAcIaIcJAbHAdKAbHAdLAbLAbLAeMAcNAaKAARA POLLUmGAcNAcYAdOaOcPAbHAdRA" ++
    "bRAbRAeSAbHAcSAdTAbHAcSAcTAbHAeUaUcVAbOCALIC LaLcRaRkYAjSIGN ANUSVARAhVAGRAHAiCANDRABINDUk" ++
    "OMBINING ANUSVARA ABOVEoCANDRABINDU ABOVEbbNUKTAfSIDDHAMhTUUMUfVIRAMAeSARGA"),
  ("TELUGU VOWEL SIGN AA",
    "bIbUcEaEcIaIcOaOcUaUcVOCALIC LaLcRaRbaNGE SIGNhNIS RACQUET AND BALLuTcST TUBEhTRAGRAM FOR" ++
    " ACCUMULATIONlDVANCEgGGRAVATIONkSCENTgBARRIERgOLD RESOLUTIONoRANCHING OUTnCENTREfHANGEfLOS" ++
    "ED MOUTHhNESSfUREgOMPLETIONfIANCEiNSTANCYgTACTdENTIONgRARIETYlDARKENINGiECISIVENESS"),
  ("TETRAGRAM FOR DEFECTIVENESS OR DISTORTION",
    "zPARTUREiIFFICULTIESkMINISHMENTjMINGfVERGENCEjOUBTeUTIESgEASEdMBELLISHMENTmNCOUNTERSiDEAVO" ++
    "URhLARGEMENTkTERNITYhXHAUSTIONkFAILUREgLIGHTfOLLOWINGhSTERINGiULL CIRCLEhNESSiGATHERINGa I" ++
    "NlOING TO MEETmREATNESSiUARDEDNESSlHARDNESShOLDING BACKmINCREASEgNERfJOY"),
  ("TETRAGRAM FOR KEEPING SMALL",
    "mINSHIPhLABOURINGhW OR MODELlEGIONgMASSINGgEASUREgIREDfON THE VERGElPPOSITIONkPACKINGfTTER" ++
    "NgENETRATIONkURITYgREACHdLEASEfSIDENCEfSTANCEhPONSEhITUALgSEVERANCEiINKINGgTOPPAGEfVEdRENG" ++
    "THiUNITYfVASTNESS OR WASTINGtWAITINGfTCHfYOUTHFULNESSzHAANA AABAAFILIiBAFILIhEBEFILI"),
  ("THAANA EEBEEFILI",
    "iYBEYFILIjIBIFILIhLETTER AINUdLIFUfBAAdCHAVIYANIjDAADHUeVIYANIhHAALUgFAAFUfGAAFUeHAINUfNAV" ++
    "IYANIjHAAcHAAeJAVIYANIiKAAFUeHAAeLAAMUeHAVIYANIjMEEMUfNAAcOONUfPAVIYANIiQAAFUfRAAdSAADHUfE" ++
    "ENUeHAVIYANIhEENUgTAVIYANIhHAAaLUfObTAAeVAAVUfWAAVUfYAAdZAAbVIYANIhOjOABOAFILI"),
  ("THAANA OBOFILI",
    "gOBOOFILIjSUKUNfUBUFILIlI CHARACTER ANGKHANKHUkBO BAIMAIjCHO CHANaGdINGdOEiDO CHADAfDEKgFO" ++
    " FAaNeNGMANhHO HIPdNOKHUKjKHO KHAIcONcUATdWAIfRAKHANGiMUTfO KAIgLAKKHANGYAOkO CHULAfLINGgU" ++
    "cMAI CHATTAWAiEKcHAN-AKATiTHOcRIeTAIKHUgYAMOKhO MAfNGO NGUgIKHAHIThO NENcUfO ANG"),
  ("THAI CHARACTER PAIYANNOI",
    "iHINTHUfO PHANcUNGfSAMPHAOkO PLAgRO RUAfUcSARA AaAbEbI MAIMALAIeUANjMcEbIaIcObUaEaEcUgO RU" ++
    "SIeSALAdObUAgTHANTHAKHATjO NANGMONTHOkPHUTHAOhTHAHANdNcONGdUNGiO PATAKfTAOgWO WAENhYAMAKKA" ++
    "NhO YAKcINGqURRENCY SYMBOL BAHTuDIGIT EIGHTfFIVEdOUReNINEeONEdSEVENeIXdTHREEeWOdZERO"),
  ("THERE DOES NOT EXIST",
    "oEXISTShFOREfMODYNAMIChMETERjIN GREEK CROSSlSALTIREgPACEgKING FACEkRD PLACE MEDALpONG SAND" ++
    "ALjUGHT BALLOONnREE BUTTON MOUSEmCONSECUTIVE EQUALS SIGNSyDIMENSIONAL ANGLEqOT PUNCTUATION" ++
    "pLEFTWARDS ARROWSpINES CONVERGING LEFTeRIGHTwNETWORKED COMPUTERStPOINTED BLACK STAR"),
  ("THREE RAYS ABOVE",
    "fBELOWfLEFTeRIGHTjIGHTWARDS ARROWSrSPEECH BUBBLESp-D BOTTOM-LIGHTED RIGHTWARDS ARROWHEADbj" ++
    "LEFT-LIGHTED DOWNWARDS EQUILATERAL ARROWHEADbsRIGHT-LIGHTED UPWARDS EQUILATERAL ARROWHEADb" ++
    "rTOP-LIGHTED LEFTWARDS EQUILATERAL ARROWHEADbfRIGHTWARDS ARROWHEAD"),
  ("THREE-D TOP-LIGHTED RIGHTWARDS EQUILATERAL ARROWHEAD",
    "buEM DASHhPER-EM SPACEqUMBS DOWN SIGNjUP SIGNlNDER CLOUD AND RAINpSTORMlIBETAN ASTROLOGICA" ++
    "L SIGN -KHYUD PAjSDONG TSHUGSlGRA GCAN -CHAR RTAGSbnCANTILLATION SIGN CANG TE-UjHEAVY BEAT" ++
    "kLIGHT BEATkSBUB -CHALbcDIGIT EIGHTfFIVEdOUReHALF EIGHTfFIVEdOUReNINEeONEdSEVENeIX"),
  ("TIBETAN DIGIT HALF THREE",
    "eWOdZEROjNINEeONEdSEVENeIXdTHREEeWOdZEROkKU RU KHAa BZHI MIG CANwLETTER -AcAbBAbHAdCAbHAdD" ++
    "AbDAbHAdHAcZAbHAeFIXED-FORM RAnGAbHAdHAcJAcKAbHAcKAcSSAeLAcMAcNAbGAcNAcYAdPAbHAdRAbRAdSAbH" ++
    "AcSAdTAbHAcSAbHAdTAbHAeWAcYAcZAbHAjOGOTYPE SIGN CHAD RTAGSkLHAG RTAGS"),
  ("TIBETAN MARK ANG KHANG GYAS",
    "cONoBKA- SHOG GI MGO RGYANmYIG MGOqSDUS RTAGSjKA- SHOG GI MGO RGYANuUR YIG MGOnCARET -DZUD" ++
    " RTAGS BZHI MIG CANmME LONG CANxYIG MGO PHUR SHAD MAzHE MGOgLOSING BRDA RNYING YIG MGO SGA" ++
    "B MAbbYIG MGO SGAB MAxDELIMITER TSHEG BSTARvGTER TSHEGfYIG MGO -UM GTER TSHEG MA"),
  ("TIBETAN MARK GTER YIG MGO -UM RNAM BCAD MA",
    "qTRUNCATED AxUG RTAGS GYAScONoHALANTAhINITIAL BRDA RNYING YIG MGO MDUN MAbbYIG MGO MDUN MA" ++
    "vTERSYLLABIC TSHEGtLEADING MCHAN RTAGStMNYAM YIG GI MGO RGYANwNGAS BZUNG NYI ZLAhSGOR RTAG" ++
    "SuYIS SHADeTSHEGa SHADpPALUTAgRGYA GRAM SHADnIN CHEN SPUNGS SHADuSBRUL SHADjHAD"),
  ("TIBETAN MARK TRAILING MCHAN RTAGS",
    "tSA -PHRUhHEG SHADkYIG MGO TSHEG SHAD MAbaSIGN GRU CAN RGYINGSlMED RGYINGSpINVERTED MCHU C" ++
    "ANrLCE TSA CANjI RTAGSjMAR TSHESiCHU CANiNYI ZLA NAA DAoRDEL DKAR GCIGdNYISeSUMeRDEL NAGnN" ++
    "AG GCIGdNYISeSUMeRDEL DKARrJES SU NGA ROnNAM BCADjSNA LDANiYANG RTAGSiR TSHES"),
  ("TIBETAN SUBJOINED LETTER -A",
    "cAbBAbHAdCAbHAdDAbDAbHAdHAcZAbHAeFIXED-FORM RAcWAcYAnGAbHAdHAcJAcKAbHAcSSAeLAcMAcNAbGAcNAc" ++
    "YAdPAbHAdRAcSAbHAcSAdTAbHAcSAbHAdTAbHAeWAcYAcZAbHAkSIGN INVERTED MCHU CANrLCE TSA CANlMCHU" ++
    " CANwYLLABLE OMjMBOL DRIL BUhNOR BUa BZHI -KHYILlGSUM -KHYILlNYIS -KHYILsPADMA GDAN"),
  ("TIBETAN SYMBOL PHUR PA",
    "hRDO RJEa RGYA GRAMyVOWEL SIGN AAcEaEcIaIcOaOcREVERSED IaIlUaUcVOCALIC LaLcRaRbbCKETeE OVE" ++
    "R INFINITYpFINAGH CONSONANT JOINERqLETTER AHAGGAR YAZHlYER YAGHjBERBER ACADEMY YAHbJsTAWEL" ++
    "LEMET YAZnUAREG YAGHbNcHbKaHcNGcQbZHlYAaAbBaHcCHcDaDaHcHcFbGaHaHdHaHcJbKaHaHdLbMbNbP"),
  ("TIFINAGH LETTER YAQ",
    "bRaRcSaHbScTaHbTcVbWbYbZaHbZdEaYcIbObUjMODIFIER LETTER LABIALIZATION MARKbiSEPARATOR MARKv" ++
    "GERa FACEhHT TRIFOLIATE SNOWFLAKEyLDEa OPERATORa ABOVE LEFTWARDS ARROWpRIGHTWARDS ARROWwWI" ++
    "TH DOT ABOVEjRISING DOTSzWITH DOT ABOVEfBELOWjRING ABOVEtMER CLOCK"),
  ("TIMES WITH LEFT HALF BLACK",
    "pRIGHT HALF BLACKzNYa TWO DOTS OVER ONE DOT PUNCTUATIONbkRED FACEhHUTA ABBREVIATION SIGNqN" ++
    "JIeDIGIT EIGHTfFIVEdOUReNINEeONEdSEVENeIXdTHREEeWOdZEROkGVANGfLETTER AaAbIbUcBAbHAdCAbHAdD" ++
    "AbDAbHAdHAdEbGAbHAdHAcIaIcJAbHAdKAbHAdLAcMAcNAbGAcNAcYAdObPAbHAdRAcSAbHAcSAdTAbHAcTA"),
  ("TIRHUTA LETTER TTHA",
    "eUaUcVAbOCALIC LaLcRaRkYAjOMcSIGN ANUSVARAhVAGRAHAiCANDRABINDUlNUKTAfVIRAMAeSARGAmVOWEL SI" ++
    "GN AAbIbUcEbIaIcObSHORT EbOhUaUcVOCALIC LaLcRaRbaONIAN SIGN CAPITAL ETkETpOILETeKYO TOWERj" ++
    "MATOeNGUEeOLBOXeTHaBRUSHiP ARC ANTICLOCKWISE ARROWa WITH PLUS"),
  ("TOP ARC CLOCKWISE ARROW WITH MINUS",
    "beCURLY BRACKETnHALF BLACK CIRCLEmINTEGRALiLEFT PARENTHESISqRIGHT PARENTHESISrSECTION SIGN" ++
    "pTdLEFT CORNERfROPeHALF BRACKETrPARENTHESISlRIGHT CORNERfROPeHALF BRACKETsSQUARE BRACKEToT" ++
    "ORTOISE SHELL BRACKETwWITH UPWARDS ARROW ABOVE"),
  ("TORTOISE SHELL BRACKETED CJK UNIFIED IDEOGRAPH-4E09",
    "c8Ce52DDdB89e6253d557d72Ce70B9d6D7baLATIN CAPITAL LETTER SbtTAL RUNOUTjO LETTER AaEcBAbREA" ++
    "THY AEcEaOcIaUkCHAdDAcEaOcGAcHAcIaUcJAcKAcLAcMAcNAbGAdObPAcRAcSAcTAcUbWAcYAjSIGN RISING TO" ++
    "NEuRACKBALLfTOReDE MARK SIGNmINcMa CARfNSPLUTOfVERSAL INTERSECTION"),
  ("TRIANGLE WITH DOT ABOVE",
    "jROUNDED CORNERSpSERIFS AT BOTTOMqUNDERBARo-HEADED RIGHTWARDS ARROWbaULAR BULLETgFLAG ON P" ++
    "OSTmRULERnCOLONfDENT EMBLEMlGRAM FOR EARTHfFIREeHEAVENgLAKEeMOUNTAINiTHUNDERhWATEReINDnPLE" ++
    " COLON OPERATORoDAGGERgHORIZONTAL BAR WITH DOUBLE VERTICAL STROKE"),
  ("TRIPLE HORIZONTAL BAR WITH TRIPLE VERTICAL STROKE",
    "bqINTEGRALiNESTED GREATER-THANmLESS-THANqPLUSdRIMEfSOLIDUS BINARY RELATIONxTILDEfVERTICAL" ++
    " BAR BINARY RELATIONpDELIMITERjRIGHT TURNSTILEpWITH HORIZONTAL STROKEboOLLaEYBUShPHYcICAL" ++
    " DRINKfFISHlUEa LIGHT MOON ARTArMPETgUGRIK SIGNjLIPdMBLER GLASSlRKEYcISH LIRA SIGN"),
  ("TURNED AMPERSAND",
    "iNGLEfBLACK PENTAGONiSHOGI PIECErCAPITAL FiOMMAfDAGGERfIGIT THREEeWOjGREEK SMALL LETTER I" ++
    "OTAxNORTH EAST POINTING LEAFsWEST POINTING LEAFwT SIGNiOK HAND SIGNmSANS-SERIF CAPITAL GbL" ++
    "bYtEMICOLONiMALL FgOUTH EAST POINTING LEAFsWEST POINTING LEAFyWHITE SHOGI PIECEvTLE"),
  ("TWELVE POINTED BLACK STAR",
    "xISTED RIGHTWARDS ARROWSxO ASTERISKS ALIGNED VERTICALLYbcBUTTON MOUSEmCONSECUTIVE EQUALS S" ++
    "IGNSyDOT LEADERgPUNCTUATIONmS OVER ONE DOT PUNCTUATIONbdHEARTSgINTERSECTING LOGICAL ANDdOR" ++
    "xJOINED SQUARESoLOGICAL AND OPERATORmOR OPERATORtMEN HOLDING HANDSrSPEECH BUBBLES"),
  ("TWO WOMEN HOLDING HANDS",
    "u-EM DASHlUGARITIC LETTER AINcLPAeBETAeDELTAeHALeGAMLAeHAINfHOaTAeIbKAFcHAdLAMDAfMEMdNUNdP" ++
    "UcQOPAeRASHAfSADEcMKAeHINdSUdTETcHANNAfOcUbWOcYODdZETAdUjWORD DIVIDERuMBRELLAa ON GROUNDjW" ++
    "ITH RAIN DROPSxNAMUSED FACElCERTAINTY SIGNoDERTIEfO SYMBOLjICORN FACEjON"),
  ("UNION ABOVE BAR ABOVE INTERSECTION",
    "wINTERSECTIONsBESIDE AND JOINED WITH UNIONbcWITH LOGICAL ORkMINUS SIGNkOVERBARpT SEPARATOR" ++
    "kED SYMBOLkVERSAL RECYCLING SYMBOLyMARRIED PARTNERSHIP SYMBOLbbP ARROW THROUGH CIRCLEpHEAD" ++
    "a BETWEEN TWO HORIZONTAL BARSbbIN A RECTANGLE BOXbcBARB LEFT DOWN BARB LEFT HARPOON"),
  ("UP BARB LEFT DOWN BARB RIGHT HARPOON",
    "bcRIGHT DOWN BARB LEFT HARPOONmRIGHT HARPOONbiDOWN ARROWa WITH BASEpBLACK ARROWlDOUBLE ARR" ++
    "OWmSANS-SERIF ARROWqTRIANGLE-HEADED ARROWvWHITE ARROWqFISH TAILjRIGHT DIAGONAL ELLIPSISxTA" ++
    "CKa WITH CIRCLE ABOVEx-POINTING AIRPLANEiMILITARY AIRPLANErRED TRIANGLE"),
  ("UP-POINTING SMALL AIRPLANE",
    "iRED TRIANGLEsTRIANGLE WITH LEFT HALF BLACKpRIGHT HALF BLACKboPER AND LEFT AND LOWER TRIAN" ++
    "GULAR THREE QUARTERS BLOCKbtOWER ONE EIGHTH BLOCKqTRIANGULAR HALF BLOCKbbRIGHT AND LOWER T" ++
    "RIANGULAR THREE QUARTERS BLOCKbzBLADE SCISSORSoFIVE EIGHTHS BLOCKsHALF BLOCK"),
  ("UPPER HALF BLOCK AND LOWER HALF INVERSE MEDIUM SHADE",
    "bpCIRCLEgINVERSE MEDIUM SHADE AND LOWER HALF BLOCKbhWHITE CIRCLEuMEDIUM SHADErLEFT BLOCK D" ++
    "IAGONAL LOWER CENTRE TO LOWER MIDDLE RIGHTsUPPER MIDDLE RIGHTmRIGHTvLEFT TO LOWER MIDDLE R" ++
    "IGHTsUPPER CENTREgMIDDLE RIGHTbaMIDDLE LEFT TO UPPER CENTREgMIDDLE RIGHTmRIGHT"),
  ("UPPER LEFT BLOCK DIAGONAL UPPER MIDDLE LEFT TO UPPER CENTRE",
    "gRIGHTbvCORNER WITH DOTpOR LOWER RIGHT CURLY BRACKET SECTIONbkQUADRANT CIRCULAR ARCvTO LOW" ++
    "ER RIGHT FILLsRIANGLEcULAR MEDIUM SHADEbcONE EIGHTH BLOCKmQUARTER BLOCKrRIGHT BLOCK DIAGON" ++
    "AL LOWER MIDDLE LEFT TO LOWER CENTREgRIGHTbgUPPER CENTRE TO LOWER MIDDLE RIGHTmRIGHT"),
  ("UPPER RIGHT BLOCK DIAGONAL UPPER CENTRE TO UPPER MIDDLE RIGHT",
    "bcLEFT TO LOWER CENTREgMIDDLE RIGHTsUPPER MIDDLE RIGHTbaMIDDLE LEFT TO LOWER CENTREgMIDDLE" ++
    " RIGHTmRIGHTbvDROP-SHADOWED WHITE SQUAREbaOR LOWER LEFT CURLY BRACKET SECTIONbjPENCILgQUAD" ++
    "RANT CIRCULAR ARCvSHADOWED WHITE CIRCLEgSQUAREvTO LOWER LEFT FILLrRIANGLE"),
  ("UPPER RIGHT TRIANGULAR MEDIUM SHADE",
    "bdSEVEN EIGHTHS BLOCKtTHREE EIGHTHS BLOCKnQUARTERS BLOCKtRIANGULAR ONE QUARTER BLOCKbgSIDE" ++
    "-DOWN FACEoWARDS ANCORAfRROWa AND RIGHT ONE EIGHTH BLOCKbaFROM BARiLEFTWARDS OF DOWNWARDS" ++
    " ARROWbcTO BARgWITH DOUBLE STROKEnEQUILATERAL ARROWHEADvHORIZONTAL STROKE"),
  ("UPWARDS ARROW WITH LARGE TRIANGLE ARROWHEAD",
    "yMEDIUM TRIANGLE ARROWHEADzNOTCHED TAILmSMALL EQUILATERAL ARROWHEADvTRIANGLE ARROWHEADyTIP" ++
    " LEFTWARDSjRIGHTWARDSzBLACK ARROWfCIRCLED WHITE ARROWzCOMPRESSED ARROWqDASHED ARROWlOUBLE" ++
    " ARROWmFINGER-POST ARROW"),
  ("UPWARDS HARPOON WITH BARB LEFT BESIDE DOWNWARDS HARPOON WITH BARB RIGHT",
    "bhUPWARDS HARPOON WITH BARB RIGHTbmFROM BARiTO BARhWARDSjRIGHT FROM BARiTO BARhWARDSbbEAVY" ++
    " ARROWfCOMPRESSED ARROWwPAIRED ARROWSnQUADRUPLE ARROWpROCKETgSANS-SERIF ARROWpQUARED ARROW" ++
    "nTRIANGLE ARROWHEADk-HEADED ARROWa LEFTWARDS OF DOWNWARDS TRIANGLE-HEADED ARROW"),
  ("UPWARDS TRIANGLE-HEADED ARROW TO BAR",
    "gWITH BOLD SHAFTkDOUBLE HORIZONTAL STROKEyHEAVY SHAFTlLONG TIP LEFTWARDSjRIGHTWARDStMEDIUM" ++
    " SHAFTmNARROW SHAFTmVERY HEAVY SHAFTbbDASHED ARROWmPAIRED ARROWSbaPLE ARROWlWO HEADED ARRO" ++
    "Wn-HEADED ARROW FROM SMALL CIRCLErWITH TRIANGLE ARROWHEADSbpWHITE ARROWa FROM BAR"),
  ("UPWARDS WHITE ARROW FROM BAR WITH HORIZONTAL BAR",
    "bcON PEDESTALa WITH HORIZONTAL BARoVERTICAL BARbdWITHIN TRIANGLE ARROWHEADbfDOUBLE ARROWa" ++
    " ON PEDESTALblRANUSfScVAI COMMAfDIGIT EIGHTfFIVEdOUReNINEeONEdSEVENeIXdTHREEeWOdZEROkFULL" ++
    " STOPjQUESTION MARKnSYLLABLE AaNcBAbEaEcHAbEaEcIbOaOcUcIbOaOcUcCAbEaEcIbOaOcUcDAbEaE"),
  ("VAI SYLLABLE DHA",
    "bEaEcHAbEaEcIbOaOcUcIbOaOcUcIbOaOcUcEaEaNcNcFAbEaEcIbOaOcUcGAbBAbEaEbNcIbOaNbOcUcEaEbNcIbO" ++
    "aOcUcHAaNcEaEbNcIaNcOaNbOcUaNdIaNcJAbEaEcIbOaOcUcKAaNcEaEcIbOaOcPAaNcEaEbNcIbOaOcUcUcLAbEa" ++
    "EbNGTHENERjIbOaOcUcMAbBAbEaEcIbOaOcUcEaEcGBAbEaEcIbOaOcUdIbOaOcUcNAbDAbEaEcIbOaLE DO"),
  ("VAI SYLLABLE NDOLE FA",
    "cKAcMAcSOOgOcUcEaEcGaANcENcGAbEaEbNcIbOaOcUcONdIbJAbEaEcIbOaOcUcOaOcUbYAbEaEcIbOaOcUdOaNbO" ++
    "aNdPAbEaEcIbOaOcUcRAbEaEcIbOaOcUcSAbEaEcHAbEaEcIbOaOcUcIbOaOcUcTAbEaEcHAbEaEcIbOaOcUcIbOaO" ++
    "cUcUaNcVAbEaEcIbOaOcUcWAaNcEaEaNcNcIaNcOaNbOaNdUaNdYAbEaEcIbOaOcUcZAbEaEcHAbEaEcIbO"),
  ("VAI SYLLABLE ZHOO",
    "cUcIbOaOcUjMBOL BANGeDANGdO-OcONGfFAAcEENGfJONGeKEENGeUNGeNIIdTAAcINGdONGnMPIREfRIATION SE" ++
    "LECTOR-1a0a0b1b2b3b4b5b6b7b8b9c1a0b1b2b3b4b5b6b7b8b9c2a0b1b2b3b4b5b6b7b8b9c3a0b1b2b3b4b5b6" ++
    "b7b8b9c4a0b1b2b3b4b5b6b7b8b9c5a0b1b2b3b4b5b6b7b8b9c6a0b1b2b3b4b5b6b7b8b9c7a0b1b2b3b4"),
  ("VARIATION SELECTOR-175",
    "b6b7b8b9c8a0b1b2b3b4b5b6b7b8b9c9a0b1b2b3b4b5b6b7b8b9d2a0a0b1b2b3b4b5b6b7b8b9c1a0b1b2b3b4b5" ++
    "b6b7b8b9c2a0b1b2b3b4b5b6b7b8b9c3a0b1b2b3b4b5b6b7b8b9c4a0b1b2b3b4b5b6b7b8b9c5a0b1b2b3b4b5b6" ++
    "c6b7b8b9c3a0b1b2b3b4b5b6b7b8b9c4a0b1b2b3b4b5b6b7b8b9c5a0b1b2b3b4b5b6b7b8b9c6a0b1b2b3"),
  ("VARIATION SELECTOR-64",
    "b5b6b7b8b9c7a0b1b2b3b4b5b6b7b8b9c8a0b1b2b3b4b5b6b7b8b9c9a0b1b2b3b4b5b6b7b8b9uECTOR OR CROS" ++
    "S PRODUCTvDIC SIGN ANUSVARA ANTARGOMUKHAmBAHIRGOMUKHAmUBHAYATO MUKHAoVAMAGOMUKHAa WITH TAI" ++
    "LbdRDHAVISARGAlTIKRAMAiDOUBLE ANUSVARA ANTARGOMUKHAbcHEXIFORM LONG ANUSVARA"),
  ("VEDIC SIGN JIHVAMULIYA",
    "lLONG ANUSVARAnNIHSHVASAjREVERSED VISARGA ANUDATTAiUDATTAwOTATED ARDHAVISARGAtTHANG LONG A" ++
    "NUSVARAuTIRYAKgUPADHMANIYAlVISARGA ANUDATTAa WITH TAILsSVARITAhUDATTAa WITH TAILyYAJURVEDI" ++
    "C MIDLINE SVARITAbfTONE ATHARVAVEDIC INDEPENDENT SVARITAbgCANDRA ABOVEfBELOW"),
  ("VEDIC TONE DOT BELOW",
    "hUBLE RING ABOVEkSVARITAoKARSHANAgTHAKA ANUDATTAqPRENKHAhRIGVEDIC KASHMIRI INDEPENDENT SVA" ++
    "RITAbjNG ABOVEkSHARAfTHREE DOTS BELOWpRIPLE SVARITAnWO DOTS BELOWoYAJURVEDIC AGGRAVATED IN" ++
    "DEPENDENT SVARITAbeINDEPENDENT SVARITAtKATHAKA INDEPENDENT SVARITAa SCHROEDER"),
  ("VERSICLE",
    "fTICAL BAR BESIDE RIGHT TRIANGLEvDOUBLE LEFT TURNSTILEvTRIPLE RIGHT TURNSTILEwWITH HORIZON" ++
    "TAL STROKEbaELLIPSISiFOUR DOTSjIDEOGRAPHIC ITERATION MARKbaKANA REPEAT MARKa LOWER HALFkUP" ++
    "PER HALFpWITH VOICED SOUND MARKa UPPER HALFbtLINEa EXTENSIONjWITH CIRCLE ABOVEfBELOW"),
  ("VERTICAL LINE WITH MIDDLE DOT",
    "uMALE WITH STROKE SIGNvONE EIGHTH BLOCK-2b3b4b5b6b7sSIX DOTSiTAB KEYeULATIONa SETnILDEeRAF" ++
    "FIC LIGHTnZIGZAG LINErY BOLD GREEK CROSSqHEAVY EIGHT POINTED BLACK STARsSPOKED ASTERISKvFI" ++
    "VE SPOKED ASTERISKuGREEK CROSSlREVERSE SOLIDUSpSALTIREgIX SPOKED ASTERISKsOLIDUS"),
  ("VERY HEAVY WHITE CIRCLE",
    "gSQUAREsMUCH GREATER-THANmLESS-THANrSTAeIBRATION MODEmCTORY HANDkDEO CAMERAgGAMEfCASSETTEl" ++
    "ETNAMESE ALTERNATE READING MARK CAcNHAYbjWDATA SQUAREnOLINeRGOdTHKUQI CAPITAL LETTER AbBBE" ++
    "cEcCEbHEdDEbHEdEaIcFEcGAcHAbHAdIaJEdJEcKAcLAbLAdMEcNEbJEdObPEcQAcREcSEbHEdTEbHEdUbVE"),
  ("VITHKUQI CAPITAL LETTER XE",
    "cYbZErSMALL LETTER AbBBEcEcCEbHEdDEbHEdEaIcFEcGAcHAbHAdIaJEdJEcKAcLAbLAdMEcNEbJEdObPEcQAcR" ++
    "EcSEbHEdTEbHEdUbVEcXEcYbZExOIDED GREEK CROSSqLCANOeLEYBALLhUME INTEGRALoS1a0a0b1b2b3b4b5b6" ++
    "b7b8b9c1a0b1b2b3b4b5b6b7b8b9c2a0b1b2b3b4b5b6b7b8b9c3a0b1b2b3b4b5b6b7b8b9c4a0b1b2b3b4"),
  ("VS145",
    "b6b7b8b9c5a0b1b2b3b4b5b6b7b8b9c6a0b1b2b3b4b5b6b7b8b9c7a0b1b2b3b4b5b6b7b8b9c8a0b1b2b3b4b5b6" ++
    "b7b8b9c9a0b1b2b3b4b5b6b7b8b9d2a0a0b1b2b3b4b5b6b7b8b9c1a0b1b2b3b4b5b6b7b8b9c2a0b1b2b3b4b5b6" ++
    "b7b8b9c3a0b1b2b3b4b5b6b7b8b9c4a0b1b2b3b4b5b6b7b8b9c5a0b1b2b3b4b5b6c6b7b8b9c3a0b1b2b3"),
  ("VS34",
    "b5b6b7b8b9c4a0b1b2b3b4b5b6b7b8b9c5a0b1b2b3b4b5b6b7b8b9c6a0b1b2b3b4b5b6b7b8b9c7a0b1b2b3b4b5" ++
    "b6b7b8b9c8a0b1b2b3b4b5b6b7b8b9c9a0b1b2b3b4b5b6b7b8b9dTaScULCANUSfGAR FRACTION FIVE EIGHTHS" ++
    "hSIXTHSkOUR FIFTHSlONE EIGHTHgFIFTHfHALFeNINTHfQUARTERhSEVENTHgIXTHfTENTHeHIRD"),
  ("VULGAR FRACTION SEVEN EIGHTHS",
    "nTHREE EIGHTHShFIFTHSgQUARTERSnWO FIFTHSgTHIRDSkZERO THIRDSbbWAFFLEeNCHO DIGIT EIGHTfFIVEd" ++
    "OUReNINEeONEdSEVENeIXdTHREEeWOdZEROkLETTER AaAaNaGdNGcUcBAcCAcDAcEaNcFAcGAcHAcIaNGdJAcKAbH" ++
    "AdLAbLHAeMAcNAbGAcYAdOaNaGdPAbHAdRAcSAbHAdTAbHAcRAcSAdUaENdVAcWAcYAbIHdZAjNGUN SIGN"),
  ("WANCHO TONE KOI",
    "aNIfTUPaNIoING CRESCENT MOON SYMBOLuGIBBOUS MOON SYMBOLyRANG CITI CAPITAL LETTER AaMbNGcTc" ++
    "BUcDAcEaNNbYdGAcHARcIYOdOLOcRReIIcKOcNGAAdUNGeOaDDdPUcSIIcSUUeTTEdUCbUcVIYOeWIcYAbObUaJsDI" ++
    "GIT EIGHTfFIVEdOUReNINEeONEdSEVENeIXdTHREEeWOdZEROkNUMBER EIGHTYgFIFTYeORTYfNINETY"),
  ("WARANG CITI NUMBER SEVENTY",
    "gIXTYfTENcHIRTYfWENTYnOMcSMALL LETTER AaMbNGcTcBUcDAcEaNNbYdGAcHARcIYOdOLOcRReIIcKOcNGAAdU" ++
    "NGeOaDDdPUcSIIcSUUeTTEdUCbUcVIYOeWIcYAbObUaJzNING SIGNkSTEBASKETjTCHcER BUFFALOhCLOSETgPOL" ++
    "OeWAVEfMELONiVE ARROW POINTING DIRECTLY LEFTeRIGHTbdDASHgING BLACK FLAGkHAND SIGN"),
  ("WAVING WHITE FLAG",
    "oY DASHeLINEdOW LINEiOVERLINElXING CRESCENT MOON SYMBOLuGIBBOUS MOON SYMBOLzEARY CAT FACEi" ++
    "FACEiDDINGeGE-TAILED RIGHTWARDS ARROWbbIERSTRASS ELLIPTIC FUNCTIONbaGHT LIFTERlST SYRIAC C" ++
    "ROSSqHALEdEELa OF DHARMAkCHAIR SYMBOLpITE ARROW SHAFT WIDTH ONEdTWO THIRDSbcBULLET"),
  ("WHITE CHESS BISHOP",
    "a ROTATED NINETY DEGREESoTWO HUNDRED SEVENTY DEGREESbqEQUIHOPPERa ROTATED NINETY DEGREESbh" ++
    "KINGa ROTATED NINETY DEGREESoTWO HUNDRED SEVENTY DEGREESbnNIGHTa ROTATED FORTY-FIVE DEGREE" ++
    "SsNINETY DEGREESoONE HUNDRED THIRTY-FIVE DEGREESbfTHREE HUNDRED FIFTEEN DEGREES"),
  ("WHITE CHESS KNIGHT ROTATED TWO HUNDRED SEVENTY DEGREES",
    "pTWENTY-FIVE DEGREESbo-BISHOPgQUEENfROOKlPAWNa ROTATED NINETY DEGREESoTWO HUNDRED SEVENTY" ++
    " DEGREESboQUEENa ROTATED NINETY DEGREESoTWO HUNDRED SEVENTY DEGREESbpROOKa ROTATED NINETY" ++
    " DEGREESoTWO HUNDRED SEVENTY DEGREESboTURNED BISHOPgKINGdNIGHTgPAWNeQUEENfROOKqIRCLE"),
  ("WHITE CIRCLE CONTAINING BLACK SMALL CIRCLE",
    "bdWITH DOT RIGHThWN ARROWkLOWER LEFT QUADRANTnRIGHT QUADRANTuTWO DOTSiUPPER LEFT QUADRANTn" ++
    "RIGHT QUADRANTbfLUB SUITiONCAVE-SIDED DIAMONDa WITH LEFTWARDS TICKoRIGHTWARDS TICKbqDIAMON" ++
    "Da CONTAINING BLACK MEDIUM DIAMONDoSMALL DIAMONDnVERY SMALL DIAMONDbjIN SQUAREjSUIT"),
  ("WHITE DIAMOND WITH CENTRED DOT",
    "xOWN POINTING BACKHAND INDEXoINDEXfLEFT HAND INDEXz-POINTING SMALL TRIANGLEoTRIANGLEvRAUGH" ++
    "TS KINGeMANmEXCLAMATION MARK ORNAMENTzFLAGa WITH HORIZONTAL MIDDLE BLACK STRIPEbmORETTEfWE" ++
    "RfOUR POINTED CUSPeSTARqROWNING FACEnHARD SHELL FLOPPY DISKvEARTa SUIThVY CHECK MARK"),
  ("WHITE HEAVY SALTIRE WITH ROUNDED CORNERS",
    "bgXAGONgORIZONTAL ELLIPSEqURGLASSjLARGE SQUAREkTIN CROSSkEFT LANE MERGEkPOINTING BACKHAND" ++
    " INDEXoINDEXp-POINTING POINTERhSMALL TRIANGLEoTRIANGLEvOZENGE CONTAINING BLACK SMALL LOZEN" ++
    "GEbmMEDIUM DIAMONDhLOZENGEhSMALL SQUARElQUAREfTARkOON SELENAlNIBdPARALLELOGRAMmENNANT"),
  ("WHITE PENTAGON",
    "iQUESTION MARK ORNAMENTwRECTANGLEiIGHT POINTING BACKHAND INDEXoINDEXp-POINTING PENTAGONhOI" ++
    "NTERhSMALL TRIANGLEoTRIANGLExSCISSORShESAME DOTjHOGI PIECEkMALL LOZENGEhSQUAREfTARiILING F" ++
    "ACElPADE SUITjQUAREa BUTTONgCONTAINING BLACK MEDIUM SQUAREnSMALL SQUARE"),
  ("WHITE SQUARE CONTAINING BLACK VERY SMALL SQUARE",
    "biWITH CENTRE VERTICAL LINEuLEFTWARDS TICKnOWER LEFT QUADRANTnRIGHT QUADRANTuRIGHTWARDS TI" ++
    "CKoOUNDED CORNERSpUPPER LEFT QUADRANTnRIGHT QUADRANTuVERTICAL BISECTING LINEbiTARdUNa BEHI" ++
    "ND CLOUDa WITH RAINwWITH RAYSeSMALL CLOUDuTELEPHONEiOUCHTONE TELEPHONEsRAPEZIUM"),
  ("WHITE TRIANGLE CONTAINING SMALL WHITE TRIANGLE",
    "bnWO-WAY LEFT WAY TRAFFICyUP POINTING BACKHAND INDEXoINDEXp-POINTING CHEVRONhSMALL TRIANGL" ++
    "EoTRIANGLEa WITH DOTbdVERTICAL BARdELLIPSEhRECTANGLEpY SMALL SQUAREs-FEATHERED RIGHTWARDS" ++
    " ARROWbfIDE-HEADED DOWNWARDS BARB ARROWkHEAVY BARB ARROWqLIGHT BARB ARROW"),
  ("WIDE-HEADED DOWNWARDS MEDIUM BARB ARROW",
    "rVERY HEAVY BARB ARROWbfLEFTWARDS BARB ARROWkHEAVY BARB ARROWqLIGHT BARB ARROWqMEDIUM BARB" ++
    " ARROWrVERY HEAVY BARB ARROWbfNORTH EAST BARB ARROWkHEAVY BARB ARROWqLIGHT BARB ARROWqMEDI" ++
    "UM BARB ARROWrVERY HEAVY BARB ARROWbaWEST BARB ARROWkHEAVY BARB ARROW"),
  ("WIDE-HEADED NORTH WEST LIGHT BARB ARROW",
    "qMEDIUM BARB ARROWrVERY HEAVY BARB ARROWbgRIGHTWARDS BARB ARROWkHEAVY BARB ARROWqLIGHT BAR" ++
    "B ARROWqMEDIUM BARB ARROWrVERY HEAVY BARB ARROWbgSOUTH EAST BARB ARROWkHEAVY BARB ARROWqLI" ++
    "GHT BARB ARROWqMEDIUM BARB ARROWrVERY HEAVY BARB ARROWbaWEST BARB ARROW"),
  ("WIDE-HEADED SOUTH WEST HEAVY BARB ARROW",
    "qLIGHT BARB ARROWqMEDIUM BARB ARROWrVERY HEAVY BARB ARROWbgUPWARDS BARB ARROWkHEAVY BARB A" ++
    "RROWqLIGHT BARB ARROWqMEDIUM BARB ARROWrVERY HEAVY BARB ARROWbnGGLY VERTICAL LINEsLTED FLO" ++
    "WERlND BLOWING FACEmCHIMEgOWdE GLASShKING FACEkRED KEYBOARDnJbOLF FACEhMAN"),
  ("WOMAN WITH BUNNY EARS",
    "qS BOOTSfCLOTHEShHATdSANDALkENS SYMBOLlN SIGNgODcRD JOINERgSEPARATOR MIDDLE DOTwLD MAPgMbR" ++
    "IED FACElRAPPED PRESENTnEATH PRODUCTlNCHdSTLERShITING HANDmX IN A RECTANGLE BOXt-RAYeIANGQ" ++
    "I BLACK CANNONfHARIOThELEPHANTiGENERALhHORSEfMANDARINiSOLDIERnRED CANNONfHARIOT"),
  ("XIANGQI RED ELEPHANT",
    "iGENERALhHORSEfMANDARINiSOLDIERsORdYAWNING FACElELLOW HEARTkN SIGNgZIDI COMBINING HAMZA MA" ++
    "RKkMADDA MARKuHYPHENATION MARKqLETTER BEcCHHIMdIMdIMdDADbLdELIFdTbWbYNdFAcGAFdHAYcHAdJAcKA" ++
    "FcHAFeLAMa WITH DOT ABOVEsMIMdNUNdOWcPEbHEdQAFdRAbHAdSADcEbHINdINdTAbHEdUMcVA"),
  ("YEZIDI LETTER VA ALTERNATE FORM",
    "rWAWdXAbHEYNfYOTa WITH CIRCUMFLEX ABOVEzZAaLcEpI RADICAL BBUTdURdCHEcIPcUOPdYaPbTdDDURdUcG" ++
    "AbEPcGOPcUOdOTdHMOcXITcOPcUOeJJIEcUTcYcOcKEbITdLIaEcYRdMIbOPdNBIEdYIPcOPdZUPeOPcPUTcYTdQOT" ++
    "dSHATcOPcURcYcSIdTATcUcVEPcURdWOcYITcOcZAbOTcUPbRcZIETnSYLLABLE AaPbTbXcBAaPbTbXcBA"),
  ("YI SYLLABLE BBAP",
    "bTbXcEaPbXcIaEaPbTbXcPbTbXcOaPbTbXcUaOaPbXcPbRaXcTbXcYaPbTbXdEaPbXcIaEaPbTbXcPbTbXcOaPbTbX" ++
    "cUaOaPbXcPbRaXcTbXcYaPbRaXcTbXdCAaPbTbXcEaPbXcHAaPbTbXcEaPbTbXcOaPbTbXcUaOaPbTbXcPbRaXcXcY" ++
    "aPbRaXcTbXdIaEaPbTbXcPbTbXcOaPbTbXcUaOaPbXcPbRaXcTbXcYaPbRaXcTbXdDAaPbTbXcDAaPbTbXcE"),
  ("YI SYLLABLE DDEP",
    "bXcIaEaPbXcPbTbXcOaPbTbXcUaOaPbXcPbRaXcTbXdEaPbXcIaEaPbXcPbTbXcOaPbTbXcUaOaXcPbRaXcTbXdEaX" ++
    "cFAaPbTbXcIaPbTbXcOaPbXcUaPbRaXcTbXcYaPbTbXdGAaPbTbXcEaPbTbXcGAaPbTbXcEaPbTbXcIaEaPbXcTbXc" ++
    "OaPbTbXcUaOaPbTbXcPbRaXcTbXdIaEaPbTbXcPbTbXcOaPbTbXcUaOaPbTbXcPbRaXcTbXdHAaPbTbXcEaP"),
  ("YI SYLLABLE HEX",
    "cIEaXcTcLAaPbTbXcEaPbXcIaEaPbXcPbTbXcOaPbXcUaOaPbXcPbRaXcTbXcYaPbRaXcTbXdMAaPbTbXcIaEaPbXc" ++
    "PbTbXcOaPbTbXcUaOaPbXcPbRaXcTbXcYaPbRaXcXdNAaPbTbXcEaPbXcIaEaPbTbXcPbTbXcOPbTbXcUOaXcTdOaP" ++
    "bTbXcUOaPbTbXdXAaPbTbXcEaPbXcIaEaPbTbXcPbTbXcOaPbTbXcUOaPbTbXfIaEaPbTbXcPbT"),
  ("YI SYLLABLE ITERATION MARK",
    "nXcJIaEaPbTbXcPbTbXcJIaEaPbTbXcPbTbXcOaPbTbXcUaOaPbXcPbRaXcTbXcYaPbTbXdOaPbTbXcUaOaPbTbXcP" ++
    "bRaXcTbXcYaPbRaXcTbXdKAaPbTbXcEaPbTbXcIaEaPbXcPbTbXcOaPbTbXcUaOaPbXcPbRaXcTbXdLAaPbTbXcEaP" ++
    "bXcIaEaPbTbXcPbTbXcOaPbTbXcUaOaPbTbXcPbRaXcTbXcYaPbRaXcTbXdMAaPbTbXcEaXcGAaPbTbXcEaP"),
  ("YI SYLLABLE MGEX",
    "cIEaXdOaPbTbXcUaOaPbXcPbRaXcTbXdIaEaPbXcPbTbXcOaPbTbXcUaOaPbTbXcPbRaXcTbXcYaPbTbXdNAaPbXcB" ++
    "AaPbTbXcIaEaPbXcPbTbXcOaPbTbXcUaPbRaXcTbXcYaPbRaXcTbXdDAaPbTbXcEaPbXcIaEaXcPbTbXcOaPbTbXcU" ++
    "aPbRaXcTbXdEaPbXcGAaPbTbXcEaPbXcIEaPbXdOaPbTbXcUOaTbXeIaEaPbXcPbTbXcJIaEaPbTbXcPbTbX"),
  ("YI SYLLABLE NJO",
    "aPbTbXcUaOaXcPbRaXcXcYaPbRaXcTbXdOaPbTbXcRAaPbTbXcEaPbTbXcOaPbXcUaPbRaXcTbXcYaPbRaXcTbXdUa" ++
    "OaPbXcPbRaXcTbXcYIaEaPbTbXcPbTbXcOaPbTbXcUaOaPbXcPbTbXdZAaPbTbXcEaXcIaEaPbXcPbTbXcOPbXcUaO" ++
    "aXcPbRaXcXcYaPbRaXcTbXeOaPbTbXcPAaPbTbXcIaEaPbXcPbTbXcOaPbTbXcUaOaPbXcPbRaXcTbXcYaP"),
  ("YI SYLLABLE PYR",
    "aXcTbXdQIaEaPbTbXcPbTbXcOaPbTbXcUaOaPbTbXcPbRaXcTbXcYaPbRaXcTbXdRAaPbTbXcEaPbXcOaPbTbXcRAa" ++
    "XcEaPbTbXcOaPbTbXcUaOaXcPbRaXcTbXcYaPbRaXcTbXdUaOaPbXcPbRaXcTbXcYaPbRaXcTbXdSAaPbTbXcEaPbX" ++
    "cHAaPbTbXcEaPbTbXcOaPbTbXcUaOaPbXcPbRaXcTbXcYaPbRaXcTbXdIaEaPbXcPbTbXcOaPbTbXcSAaPbT"),
  ("YI SYLLABLE SSAX",
    "cEaPbXcIaEaPbXcPbTbXcOaPbTbXcUaPbTbXcYaPbRaXcTbXdUaOaPbXcPbRaXcTbXcYaPbRaXcTbXdTAaPbTbXcEa" ++
    "PbXcIaEaPbXcPbTbXcOaPbTbXcUaOaPbTbXcPbRaXcTbXdUOaPbXdVAaPbTbXcEPbXcIaEaPbTbXcPbTbXcOaPbTbX" ++
    "cUaPbRaXcTbXcYaPbRaXcTbXdWAaPbTbXcEaPbXcOaPbXcUaOaPbXeXIaEaPbTbXcPbTbXcOaPbTbXcUOaX"),
  ("YI SYLLABLE XY",
    "aPbRaXcTbXdYIaEaPbTbXcPbTbXcOaPbTbXcUaOaPbTbXcPbRaXcTbXcYaPbRaXcTbXdZAaPbTbXcEaPbXcHAaPbTb" ++
    "XcEaPbTbXcOaPbTbXcUaOaPbXcPbRaXcTbXcYaPbRaXcTbXdIaEaPbXcPbTbXcOaPbTbXcUaOaPbXcPbRaXcTbXcYa" ++
    "PbRaXcTbXcZAaPbTbXcEaPbXcIaEaPbTbXcPbTbXcOaPbXcUaPbRaXcXcYaPbRaXcTbXoN YANGhO-YO"),
  ("Z NOTATION BAG MEMBERSHIP",
    "oDOMAIN ANTIRESTRICTIONwLEFT BINDING BRACKETpIMAGE BRACKETsRANGE ANTIRESTRICTIONuELATIONAL" ++
    " COMPOSITIONvIGHT BINDING BRACKETpIMAGE BRACKETtSCHEMA COMPOSITIONlPIPINGfROJECTIONqPOTeTY" ++
    "PE COLONuANABAZAR SQUARE CLOSING DOUBLE-LINED HEAD MARKwHEAD MARK"),
  ("ZANABAZAR SQUARE CLUSTER-FINAL LETTER LA",
    "cRAcVAcYApINITIAL LETTER RAzFINAL CONSONANT MARKuINITIAL DOUBLE-LINED HEAD MARKwHEAD MARKr" ++
    "LETTER -AcAbBAbHAdCAbHAdDAbDAbHAdHAcZAbHAeGAbHAdHAcJAcKAbHAcSSAeLAcMAcNAbGAcNAcYAdPAbHAdRA" ++
    "cSAbHAcSAdTAbHAcSAbHAdTAbHAeVAcYAcZAbHAkMARK DOUBLE SHADlLONG TSHEGkSHADeTSHEG"),
  ("ZANABAZAR SQUARE SIGN ANUSVARA",
    "iCANDRA WITH ORNAMENToBINDUa WITH ORNAMENTzVIRAMAeSARGAlUBJOINERjVOWEL LENGTH MARKlSIGN AI" ++
    "bUcEbIbOaEcREVERSED IkUaEbdEBRA FACEiRO WIDTH JOINERgNO-BREAK SPACEmN-JOINERkSPACEoUSdIPPE" ++
    "R-MOUTH FACEqNAMENNY COMBINING ATTACHING VERTICAL OMETxLOWER TONAL RANGE INDICATOR"),
  ("ZNAMENNY COMBINING MARK BORZAYA",
    "hCHASHKAa POLNAYAoURVED OMETlDEMESTVENNY ZADERZHKAuVOETOCHIEkGORAZDO NIZKO ON LEFTeRIGHTiS" ++
    " KRYZHEM ON LEFTeRIGHTyVYSOKOoKACHKAfRYZHa ON LEFTmUPNAYAhLOMKAfMALO POVYSHE ON LEFTeRIGHT" ++
    "iS KHOKHLOM ON LEFTeRIGHTqRYZHEMiTRANNOuNIZKO ON LEFTeRIGHTiS KRYZHEM ON LEFTeRIGHT"),
  ("ZNAMENNY COMBINING MARK OBLACHKO",
    "hNbTSECHKAiPODCHASHIEa WITH VERTICAL STROKEbcVERTKAhVYSHE ON LEFTeRIGHTiS KHOKHLOM ON LEFT" ++
    "eRIGHTqRYZHEMiTRANNOpRAVNOdZSEKAhSKOBAeOROCHYA NOZHKAoREDNE ON LEFTeRIGHToTRANNO MALO POVY" ++
    "SHEuTIKHAYAgOCHKAfSATA ON LEFTeRIGHTiS KRYZHEMpUDARKAgVYSOKO ON LEFTeRIGHT"),
  ("ZNAMENNY COMBINING MARK VYSOKO S KHOKHLOM ON LEFT",
    "eRIGHTqRYZHEMqZADERZHKAiELOcVOKkTONAL RANGE MARK MRACHNOhSVETLOgTRESVETLObkNEUME CHASHKAfE" ++
    "LYUSTKAkDEMESTVENNY KLYUCHqRBITSAhOUBLE ZAPYATAYApUDAdVA V CHELNUmFITAeGOLUBCHIK BORZYfMRA" ++
    "CHNYhSVETLYgTIKHYeRESVETLYtKHAMILOgLYUCHfOBYLAfRYUKa TIKHYiZHeUFISMAhMECHIK"),
  ("ZNAMENNY NEUME MECHIK KLYUCHENEPOSTOYANNY",
    "mPOVODNYhVOYkPOVODNYoNEMKAfOBLAKOfSOKAa KLYUCHEVAYA NEPOSTOYANNAYAoSVETLAYAtRYUKOVAYA SVET" ++
    "LAYAtSVETLAYAiTRESVETLAYArPALKAdRAKLITgUKdEREVODKAa NEPOSTOYANNAYAxODCHASHIEiLKULIZMYkREVE" ++
    "RSED CHELYUSTKAsOGdSKAMEYTSA DVOECHELNAYA KLYUCHEVAYAlNEPOSTOYANNAYAoPROSTAYA"),
  ("ZNAMENNY NEUME SKAMEYTSA DVOECHELNAYA SVETLAYA",
    "vKLYUCHENEPOSTOYANNAYAoVAYA SVETLAYAiTIKHAYAtMRACHNAYAjSVETLAYAiTIKHAYAgRESVETLAYAuLOZHITI" ++
    "Ea S KRYZHEMhZAPYATOYkZAKRYTOErTATYAa NEPOSTOYANNAYAoS DVUMYA ZAPYATYMIqKRYZHEMa I ZAPYATO" ++
    "YsROGOMfZAPYATOYa I KRYZHEMhPODCHASHIEMyZAKRYTAYAa S ZAPYATOYzOPITSAa S OCHKOM"),
  ("ZNAMENNY NEUME STOPITSA WITH SOROCHYA NOZHKA",
    "bbRELA DVOECHELNAYAa KLYUCHEVAYApOKRYZHEVAYAkPOVODNAYAa KLYUCHEVAYAbfGROMNAYAa WITH SINGLE" ++
    " ZAPYATAYAbaOKRYZHEVAYAa POVODNAYAuPOVODNAYAa WITH DOUBLE ZAPYATAYAqSINGLE ZAPYATAYAbkKLYU" ++
    "CHENEPOSTOYANNAYAoPOVODNAYApRYUKOVAYAa GROMNAYAa WITH SINGLE ZAPYATAYAbaOKRYZHEVAYA"),
  ("ZNAMENNY NEUME STRELA KRYUKOVAYA GROMOKRYZHEVAYA POVODNAYA",
    "uPOVODNAYAa WITH DOUBLE ZAPYATAYAqSINGLE ZAPYATAYAbkPOVODNAYAjTRYASKApZHEVAYAkMRACHNOTIKHA" ++
    "YAoNEPOSTOYANNAYAoPOLUPOVODNAYAlVODNAYAiROSTAYAiTIKHAYA PUTNAYAoRYASOGLASNAYAiPOVODNAYAjST" ++
    "RELNAYAwVRAKHIYA KLYUCHEVAYA MRACHNAYAjPROSTAYAiSVETLAYAiTRESVETLAYAxMRACHNAYA"),
  ("ZNAMENNY NEUME VRAKHIYA PROSTAYA",
    "iSVETLAYAiTRESVETLAYAuZANOZHEKgPYATAYAiMEYTSAnPRIZNAK MODIFIER DIRECTION FLIPoKRYZHfLEVEL-" ++
    "2b3hROGbcOMBIEfWJbNBSPdJcSP")]

end CharacterName
end Text
end Tabletop
