/-!
The names of characters, as the standard gives them, with the other names that it gives to some.
They are kept on tapes, one for each first letter. A capital letter, digit, space or hyphen is added
to the name so far; a lower-case letter first takes characters off the end of the name before, none
for `a`, one for `b` and so on. Several of these in a row add up.
-/
namespace GrowthGrammar.Text

def nameTapeA : List String :=
  ["ABACUSfC CURRENTiCORDIONfUNT OFiKaNOWLEDGEjTIVATE ARABIC FORM SHAPINGtSYMMETRIC SWAPPINGzUTE A",
   "CCENTfNGLEkDDRESSED TO THE SUBJECTwHESIVE BANDAGEoI SHAKTIiLAM ALIF LENGTHENERpCAPITAL LETTE",
   "R ALIFeBAbHEdCHIdDAALIeHAdEbFAcGAbBEdHAcIbJIIMeKAFcHAcPOdLAAMeMIIMeNHAcUNcYAdObPEcQAAFeRAcSHAc",
   "INNYIIYHEkTUcUbVAcWAWdYAbHEdZALrONSONANT MODIFIERsDIGIT EIGHTfFIVEdOUReNINEeONEdSEVENeIXdTHREE",
   "eWOdZEROkGEMINATE CONSONANT MODIFIERuION MARKpHAMZAfINITIAL EXCLAMATION MARKqQUESTION MARKvNAS",
   "ALIZATION MARKqUKTAfSMALL LETTER ALIFeBAbHEdCHIdDAALIeHAdEbFAcGAbBEdHAcIbJIIMeKAFcHAcPOdLAAMeM",
   "IIMeNHAcUNcYAdObPEcQAAFeRAcSHAcINNYIIYHEkTUcUbVAcWAWdYAbHEdZALqVOWEL LENGTHENERuMETOSeISSION T",
   "ICKETSpULTeEGEAN CHECK MARKkDRY MEASURE FIRST SUBUNITzLIQUID MEASURE FIRST SUBUNITzdMEASURE SE",
   "COND SUBUNIToTHIRD SUBUNITvNUMBER EIGHTa HUNDREDhTHOUSANDjYa THOUSANDpFIFTYa THOUSANDmVEa HUND",
   "REDhTHOUSANDmORTYa THOUSANDmURa HUNDREDhTHOUSANDnNINEa HUNDREDhTHOUSANDjTYa THOUSANDpONEa HUND",
   "REDhTHOUSANDmSEVENa HUNDREDhTHOUSANDjTYa THOUSANDpIXa HUNDREDhTHOUSANDjTYa THOUSANDoTENa THOUS",
   "ANDlHIRTYa THOUSANDnREEa HUNDREDhTHOUSANDnWENTYa THOUSANDnOa HUNDREDhTHOUSANDtWEIGHT BASE UNIT",
   "jFIRST SUBUNITmOURTH SUBUNIToSECOND SUBUNIToTHIRD SUBUNITtORD SEPARATOR DOTdLINEyRIAL TRAMWAYn",
   "FGHANI SIGNlHOM CONSONANT SIGN MEDIAL LAbIGATING RAlRAyDIGIT EIGHTfFIVEdOUReNINEeONEdSEVENeIXd",
   "THREEeWOdZEROkLETTER AaLTERNATE BAcGAcTAmBAbHAdCAbHAdDAbDAbHAdHAdGAbHAdHAcJAbHAdKAbHAdLAbLAdMA",
   "cNAbGAcNAcYAdPAbHAdRAcSAcTAbHAcTAbHAlNUMBER TENcWENTYnSIGN KILLERgRULAIfSECTIONgMALL SECTIONrY",
   "MBOL VIjVOWEL SIGN AaAbIbMbWcEbIaIcObUaUrIRPLANEa ARRIVINGiDEPARTURErKTIESELSKABlLARM CLOCKjCH",
   "EMICAL SYMBOL FOR AIRcLEMBICfKALIa-2gUMdMALGAMgNTIMONY ORElQUA REGIAa-2hVITAEa-2iFORTISjRSENIC",
   "gSHESeURIPIGMENTlBATH OF MARYeVAPOURSoISMUTH OREkLACK SULFURlORAXa-2b3gRICKfCADUCEUSgLXcPUT MO",
   "RTUUMmINNABARhOPPER ANTIMONIATElOREjROCUS OF COPPERa-2iIRONmUCIBLEa-2b3b4b5kDAY-NIGHTiISSOLVEa",
   "-2hTILLhEARTHfFIREeGOLDdUMdHALF DRAMeOUNCEjORSE DUNGiUReIRON OREa-2g-COPPER OREpLEAD OREhODEST",
   "ONEjMARCASITEiERCURY SUBLIMATEa-2b3sONTHfNIGHTdTREfOILdPHILOSOPHERS SULFURsOT ASHEShWDERaED BR",
   "ICKnRECIPITATEkURIFYeTREFACTIONmQUICK LIMEhNTESSENCEmREALGARa-2hGULUSa OF ANTIMONYa-2kIRONi-2b",
   "3b4hTORTfOCK SALTa-2lSAL-AMMONIACjTa OF ANTIMONYiCOPPER ANTIMONIATEzCEPTER OF JOVEoILVERfOAPdP",
   "IRITfTARRED TRIDENTnRATUM SUPER STRATUMa-2wUBLIMATE OF ANTIMONYiCOPPERgSALT OF ANTIMONYiCOPPER",
   "tIONjLFURgTARTARa-2hIN OREeCTUREhRIDENTgUTTYfURINEfVERDIGRISiINEGARa OF ANTIMONYm-2b3hTRIOLa-2",
   "jWATERdXxEF SYMBOLiMBICeRTdIEN MONSTERlL AROUND-PROFILEoEQUAL TOkMaOST EQUAL OR EQUAL TOlTOa W",
   "ITH CIRCUMFLEX ACCENTzlTERNATE ONE-WAY LEFT WAY TRAFFICzbIVE KEY SYMBOLvMALGAMATION OR COPRODU",
   "CTxBULANCEhERICAN FOOTBALLpPERSANDgHORAgNATOLIAN HIEROGLYPH A001b2b3b4b5b6b7b8b9c10aAc1b2b3b4b",
   "5b6b7b8b9c20b1b2b3b4b5b6aAc7b8b9c30b1b2b3b4b5b6b7b8b9aAd40b1aAc2b3b4b5aAc6aAbBc7b8b9c50b1b2b3b",
   "4b5b6b7b8b9c60b1b2b3b4b5b6aAbBbCc7b8b9c70b1b2b3b4b5b6b7b8b9c80b1b2b3b4b5b6b7b8b9c90b1b2b3b4b5b",
   "6b7aAc8aAc9d100aAc1aAc2aAc3b4aAbBbCc5aAbBc6b7aAbBbCc8b9c10aAbBc1b2b3b4b5aAc6b7b8b9c20b1b2b3b4b",
   "5aAc6b7b8b9c30b1b2b3b4b5aAc6b7b8b9c40b1b2b3b4b5b6b7b8b9c50b1b2b3b4b5b6b7b8b9c60b1b2b3b4b5b6b7b",
   "8b9c70b1b2b3b4b5b6b7b8b9c80b1b2b3b4b5b6b7b8b9c90b1b2b3b4b5b6b7b8b9d200b1b2aAbBc3b4b5b6b7aAc8b9",
   "aAd10b1b2b3b4b5aAc6aAc7b8b9c20b1b2b3b4b5b6b7aAc8b9c30b1b2b3b4b5b6b7b8b9c40b1b2b3b4b5b6b7b8b9c5",
   "0b1b2b3b4b5b6b7b8b9c60b1b2b3b4b5b6b7aAc8b9c70b1b2b3b4b5b6b7b8b9c80b1b2b3b4b5b6b7b8b9aAd90b1b2b",
   "3b4aAc5b6b7b8b9aAe300b1b2b3b4b5b6b7b8b9aAd10b1b2b3b4b5b6b7b8b9c20b1b2b3b4b5b6b7b8b9aAd30b1b2Ab",
   "BbCc3b4b5b6aAbBbCc7b8b9c40b1b2b3b4b5b6b7b8b9c50b1b2b3b4b5b6b7b8b9aAd60b1b2b3b4aAc5b6b7b8aAc9c7",
   "0b1aAc2b3b4b5b6b7b8b9c80b1aAc2b3 RA OR RIjAc4b5b6aAc7b8b9c90b1b2b3 EIGHTh4b5b6b7b8b9d400b1b2b3",
   "b4b5b6b7b8b9c10 BEGIN LOGOGRAM MARKuA END LOGOGRAM MARKu1b2b3b4b5b6b7b8b9c20b1b2b3b4b5b6b7b8b9",
   "c30b1b2b3b4b5b6b7b8b9c40b1b2b3b4b5b6b7b8b9c50aAc1b2b3b4b5b6b7aAc8b9c60b1b2b3b4b5b6b7b8b9c70b1b",
   "2b3b4b5b6b7b8b9c80b1b2b3b4b5b6b7b8b9c90b1b2b3b4b5b6b7d501b2b3b4b5b6b7b8b9c10b1b2b3b4b5b6b7b8b9",
   "c20b1b2b3b4b5b6b7b8b9c30uMICAL HEARToCHOReD WITH DOTkGER SYMBOLjLEa WITH S INSIDEiUNDERBARqR",
   "Y FACEhSTROM SIGNkUISHED FACEmKHcTaENNA WITH BARSoICLOCKWISE CLOSED CIRCLE ARROWsONTOUR INTEGR",
   "ALqDOWNWARDS AND UPWARDS OPEN CIRCLE ARROWSzpGAPPED CIRCLE ARROWtINTEGRATIONlOPEN CIRCLE ARROW",
   "rTOP SEMICIRCLE ARROWtRIANGLE-HEADED BOTTOM U-SHAPED ARROWvLEFT U-SHAPED ARROWtOPEN CIRCLE ARR",
   "OWrRIGHT U-SHAPED ARROWuTOP U-SHAPED ARROWzwPCbL FUNCTIONAL SYMBOL ALPHAa UNDERBARoBACKSLASH B",
   "ARnCIRCLE BACKSLASHjDIAERESISjJOTdSTARcILEfUNDERBARoOMMA BARjDEL DIAERESISjSTILEfTILDEgTA STIL",
   "EfUNDERBARnIAMOND UNDERBARpOWN CARET TILDElSHOE STILEkTACK JOTdUNDERBARoWARDS VANEoEPSILON UND",
   "ERBARqGREATER-THAN DIAERESISwI-BEAMfOTAa UNDERBARnJOT DIAERESISjUNDERBARmLEFT SHOE STILElWARD",
   "S VANEoOMEGAa UNDERBARoQUADa BACKSLASHjCIRCLEfOLONfDELaTAeIAMONDfVIDEfOWN CARETgWARDS ARROWpEQ",
   "UALfGREATER-THANmJOTdLEFTWARDS ARROWnSS-THANjNOT EQUALjQUESTIONiRIGHTWARDS ARROWqSLASHfUP CARE",
   "TgWARDS ARROWqOTE QUADeUNDERBARoRHOcIGHTWARDS VANEpSEMICOLON UNDERBARrLASH BARiQUISH QUADkTA",
   "R DIAERESISmILE TILDElTILDE DIAERESISpUP CARET TILDElSHOE JOTiTACK DIAERESISjJOTdOVERBARnWARD",
   "S VANEmZILDEzOLLONeSTROPHEiPLICATION PROGRAM COMMANDyROACHES THE LIMITpXIMATELY BUT NOT ACTUAL",
   "LY EQUAL TOzEQUAL OR EQUAL TOlTOa OR THE IMAGE OFzmQUARIUShRABIC BASELINE ROUND DOTsCOMMAeURL",
   "Y DAMMAaTANiFATHAaTANiKASRAaTANoDAMMAa ISOLATED FORMnMEDIAL FORMlWITH DOTjTANa ISOLATED FORMuT",
   "E SEPARATORnECIMAL SEPARATORqISPUTED END OF AYAHtOUBLE RIGHT ARROWHEAD ABOVEa WITH DOTzgD MADD",
   "AnEMPTY CENTRE HIGH STOPjLOW STOPuND OF AYAHeTEXT MARKqFATHAa ISOLATED FORMnMEDIAL FORMlWITH D",
   "OT ABOVEjRINGeTWO DOTSoTANa ISOLATED FORMvIVE POINTED STARqOOTNOTE MARKERoULL STOPjHALF MADD",
   "A OVER MADDAtMZA ABOVEfBELOWlINVERTED DAMMAoKASRAa ISOLATED FORMnMEDIAL FORMlWITH DOT BELOWpTA",
   "Na ISOLATED FORMwLARGE CIRCLE BELOWmROUND DOT ABOVEfBELOWfINSIDE CIRCLE BELOWzjEFT ARROWHEAD A",
   "BOVEfBELOWsTTER AEbFRICAN FEHdNOONeQAFa WITH THREE DOTS ABOVEzhINa FINAL FORMkINITIAL FORMlSOL",
   "ATED FORMnMEDIAL FORMlWITH THREE DOTS ABOVEfBELOWfPOINTING DOWNWARDS ABOVEzjWO DOTS ABOVEfVERT",
   "ICALLY ABOVEziLEFa FINAL FORMkISOLATED FORMnMAKSURAa FINAL FORMkISOLATED FORMvWASLAa FINAL FOR",
   "MkISOLATED FORMsITH ATTACHED BOTTOM RIGHT KASRAa AND DOT ABOVEjLEFT RINGzhFATHAfKASRAfLEFT HAM",
   "ZAfROUND DOToRIGHT HAMZAfROUND DOToOUND DOT ABOVEfBELOWpTOP RIGHT FATHAa AND DOT ABOVEjLEFT RI",
   "NGznDOT ABOVEjEXTENDED ARABIC-INDIC DIGIT THREE ABOVEkWO ABOVEzmHAMZA ABOVEa FINAL FORMkISOLAT",
   "ED FORMtBELOWa FINAL FORMkISOLATED FORMzLEFT MIDDLE STROKEsMADDA ABOVEa FINAL FORMkISOLATED FO",
   "RMzRIGHT MIDDLE STROKEa AND DOT ABOVEjLEFT RINGziWAVY HAMZA ABOVEfBELOWzbBEEHa FINAL FORMkINIT",
   "IAL FORMlSOLATED FORMnMEDIAL FORMoHa FINAL FORMkINITIAL FORMlSOLATED FORMnMEDIAL FORMlWITH DO",
   "T BELOW AND THREE DOTS ABOVEzfHAMZA ABOVElINVERTED SMALL V BELOWwSMALL MEEM ABOVEkVa BELOWnTHR",
   "EE DOTS HORIZONTALLY BELOWsPOINTING UPWARDS BELOWa AND TWO DOTS ABOVEzzbWO DOTS BELOW AND DO",
   "T ABOVEzjEHa FINAL FORMkINITIAL FORMlSOLATED FORMnMEDIAL FORMrDADa FINAL FORMkINITIAL FORMlSOL",
   "ATED FORMnMEDIAL FORMlWITH DOT BELOWqHALa FINAL FORMkISOLATED FORMrLa FINAL FORMkISOLATED FORM",
   "nWITH DOT BELOWa AND SMALL TAHxFOUR DOTS ABOVEpINVERTED SMALL V BELOWnVkRINGeTHREE DOTS ABOV",
   "E DOWNWARDSpBELOWpWO DOTS VERTICALLY BELOW AND SMALL TAHzwDAHALa FINAL FORMkISOLATED FORMrLa F",
   "INAL FORMkISOLATED FORMrOTLESS BEHdFEHdQAFkULa FINAL FORMkISOLATED FORMqYEHa FINAL FORMkINITIA",
   "L FORMlSOLATED FORMnMEDIAL FORMqEa FINAL FORMkINITIAL FORMlSOLATED FORMnMEDIAL FORMnFARSI YEH",
   "a FINAL FORMkINITIAL FORMlSOLATED FORMnMEDIAL FORMlWITH EXTENDED ARABIC-INDIC DIGIT FOUR BELOW",
   "kTHREE ABOVEkWO ABOVEzmINVERTED VkTHREE DOTS ABOVEpWO DOTS ABOVEzdEHa FINAL FORMkINITIAL FORMl",
   "SOLATED FORMnMEDIAL FORMlWITH DOT BELOWa AND THREE DOTS ABOVEzbMOVED BELOWpTHREE DOTS BELOWfPO",
   "INTING UPWARDS BELOWzhWO DOTS BELOWxGAFa FINAL FORMkINITIAL FORMlSOLATED FORMnMEDIAL FORMlWIT",
   "H INVERTED STROKEpRINGeTHREE DOTS ABOVEpWO DOTS BELOWwHAINa FINAL FORMkINITIAL FORMlSOLATED FO",
   "RMnMEDIAL FORMlWITH DOT BELOWjTHREE DOTS ABOVEzbRAFdUEHa FINAL FORMkINITIAL FORMlSOLATED FORMn",
   "MEDIAL FORMqHAHa FINAL FORMkINITIAL FORMlSOLATED FORMnMEDIAL FORMlWITH EXTENDED ARABIC-INDIC D",
   "IGIT FOUR BELOWznHAMZA ABOVElINVERTED SMALL V BELOWwSMALL ARABIC LETTER TAH ABOVEeND TWO DOTSm",
   "BELOWzeTHREE DOTS ABOVEfPOINTING UPWARDS BELOWzhWO DOTS ABOVEfVERTICAL ABOVEzfMZAa ISOLATED FO",
   "RMsEHa DOACHASHMEEa FINAL FORMkINITIAL FORMlSOLATED FORMnMEDIAL FORMxFINAL FORMkGOALa FINAL FO",
   "RMkINITIAL FORMlSOLATED FORMnMEDIAL FORMlWITH HAMZA ABOVEvINITIAL FORMlSOLATED FORMnMEDIAL FOR",
   "MlWITH INVERTED VkYEH ABOVEa FINAL FORMkISOLATED FORMzgIGH HAMZAa ALEFeWAWdYEHoJEEMa FINAL FOR",
   "MkINITIAL FORMlSOLATED FORMnMEDIAL FORMlWITH THREE DOTS ABOVEfBELOWpWO DOTS ABOVEwHa FINAL FOR",
   "MkISOLATED FORMrKAFa FINAL FORMkINITIAL FORMlSOLATED FORMnMEDIAL FORMlWITH DOT ABOVEfBELOWjRIN",
   "GeTHREE DOTS BELOWpWO DOTS ABOVEvSHMIRI YEHlEHEHa FINAL FORMkINITIAL FORMlSOLATED FORMnMEDIA",
   "L FORMlWITH DOT ABOVEjSMALL VhTHREE DOTS ABOVEfBELOWfPOINTING UPWARDS BELOWzhWO DOTS ABOVEfVER",
   "TICALLY BELOWzkHAHa FINAL FORMkINITIAL FORMlSOLATED FORMnMEDIAL FORMpIRGHIZ OEa FINAL FORMkISO",
   "LATED FORMqYUa FINAL FORMkISOLATED FORMyLAMa FINAL FORMkINITIAL FORMlSOLATED FORMnMEDIAL FORMl",
   "WITH BARdDOT ABOVEhUBLE BARkSMALL ARABIC LETTER TAH ABOVExVhTHREE DOTS ABOVEfBELOWyOW ALEFiMAR",
   "KdEEMa FINAL FORMkINITIAL FORMlSOLATED FORMnMEDIAL FORMlWITH DOT ABOVEfBELOWjTHREE DOTS ABOVEz",
   "bNGa FINAL FORMkINITIAL FORMlSOLATED FORMnMEDIAL FORMmOEHa FINAL FORMkINITIAL FORMlSOLATED FOR",
   "MnMEDIAL FORMqOONa FINAL FORMkGHUNNAa FINAL FORMkISOLATED FORMuINITIAL FORMlSOLATED FORMnMEDIA",
   "L FORMlWITH DOT BELOWjINVERTED SMALL VqRINGeSMALL TAHdVhTHREE DOTS ABOVEpWO DOTS BELOWxYEHa FI",
   "NAL FORMkINITIAL FORMlSOLATED FORMnMEDIAL FORMqOEa FINAL FORMkISOLATED FORMqPEHa FINAL FORMkIN",
   "ITIAL FORMlSOLATED FORMnMEDIAL FORMlWITH SMALL MEEM ABOVEkVnEHa FINAL FORMkINITIAL FORMlSOLATE",
   "D FORMnMEDIAL FORMrQAFa FINAL FORMkINITIAL FORMlSOLATED FORMnMEDIAL FORMlWITH DOT ABOVEfBELOW",
   "a AND NO DOTS ABOVEzcTHREE DOTS ABOVEzREHa FINAL FORMkISOLATED FORMnWITH DOT BELOWa AND DOT AB",
   "OVExFOUR DOTS ABOVEpHAMZA ABOVElINVERTED VkLOOPeRINGeSMALL ARABIC LETTER TAH AND TWO DOTSzfNOO",
   "N ABOVEkVa BELOWmTROKEgTWO DOTS ABOVEfVERTICALLY ABOVEziNOONa FINAL FORMkINITIAL FORMlSOLATE",
   "D FORMnMEDIAL FORMqOHINGYA YEHlREHa FINAL FORMkISOLATED FORMsSADa FINAL FORMkINITIAL FORMlSOLA",
   "TED FORMnMEDIAL FORMlWITH THREE DOTS ABOVEfBELOWpWO DOTS BELOWwEENa FINAL FORMkINITIAL FORMlSO",
   "LATED FORMnMEDIAL FORMlWITH DOT BELOW AND DOT ABOVExEXTENDED ARABIC-INDIC DIGIT FOUR ABOVEznFO",
   "UR DOTS ABOVEpINVERTED VkSMALL ARABIC LETTER TAH AND TWO DOTSzlTHREE DOTS BELOWa AND THREE DOT",
   "S ABOVEzlWO DOTS VERTICALLY ABOVEzjHEENa FINAL FORMkINITIAL FORMlSOLATED FORMnMEDIAL FORMlWIT",
   "H DOT BELOWtTRAIGHT WAWlUPERSCRIPT ALEFpWASH KAFjTAHa FINAL FORMkINITIAL FORMlSOLATED FORMnMED",
   "IAL FORMlWITH DOT BELOWjTHREE DOTS ABOVEfBELOWpWO DOTS ABOVEwCHEHa FINAL FORMkINITIAL FORMlSOL",
   "ATED FORMnMEDIAL FORMlWITH DOT ABOVEjSMALL VnEHa FINAL FORMkINITIAL FORMlSOLATED FORMnMEDIAL F",
   "ORMsEHa FINAL FORMkINITIAL FORMlSOLATED FORMnMARBUTAa FINAL FORMkGOALeISOLATED FORMuEDIAL FORM",
   "lWITH RINGeSMALL TEH ABOVEjVhTHREE DOTS ABOVE DOWNWARDSzhEHa FINAL FORMkINITIAL FORMlSOLATED F",
   "ORMnMEDIAL FORMqHALa FINAL FORMkISOLATED FORMqEHa FINAL FORMkINITIAL FORMlSOLATED FORMnMEDIA",
   "L FORMoIN YEHhTEHa FINAL FORMkINITIAL FORMlSOLATED FORMnMEDIAL FORMlWITH SMALL VnEHa FINAL FOR",
   "MkINITIAL FORMlSOLATED FORMnMEDIAL FORMsUa FINAL FORMkISOLATED FORMnWITH HAMZA ABOVEa ISOLATE",
   "D FORMzgIGHUR KAZAKH KIRGHIZ ALEF MAKSURA INITIAL FORMmMEDIAL FORMzvVEa FINAL FORMkISOLATED FO",
   "RMoHa FINAL FORMkINITIAL FORMlSOLATED FORMnMEDIAL FORMpWAWa FINAL FORMkISOLATED FORMnWITH DO",
   "T ABOVEfWITHINkEXTENDED ARABIC-INDIC DIGIT THREE ABOVEkWO ABOVEzmHAMZA ABOVEa FINAL FORMkISOLA",
   "TED FORMzRINGeTWO DOTS ABOVExYEHa BARREEa FINAL FORMkISOLATED FORMnWITH EXTENDED ARABIC-INDI",
   "C DIGIT THREE ABOVEkWO ABOVEzmHAMZA ABOVEa FINAL FORMkISOLATED FORMzmFINAL FORMkINITIAL FORMlS",
   "OLATED FORMnMEDIAL FORMlWITH HAMZA ABOVEa FINAL FORMkINITIAL FORMlSOLATED FORMnMEDIAL FORMxSMA",
   "LL VhTAILdHREE DOTS BELOWpWO DOTS BELOW AND DOT ABOVEjHAMZA ABOVElSMALL NOON ABOVEzsUa FINAL F",
   "ORMkISOLATED FORMqZAHa FINAL FORMkINITIAL FORMlSOLATED FORMnMEDIAL FORMnINa FINAL FORMkISOLATE",
   "D FORMnWITH INVERTED V ABOVEzhIGATURE AIN WITH ALEF MAKSURA FINAL FORMkISOLATED FORMzbJEEM INI",
   "TIAL FORMlSOLATED FORMnWITH MEEM FINAL FORMkINITIAL FORMzcMEEM INITIAL FORMlSOLATED FORMnWIT",
   "H ALEF MAKSURA FINAL FORMxMEEM FINAL FORMkINITIAL FORMrYEH FINAL FORMyYEH FINAL FORMkISOLATE",
   "D FORMzKBAR ISOLATED FORMsLAYHAA AS-SALAAMmE ISOLATED FORMpI AS-SALAAMbTU WAS-SALAAMwM AS-SALA",
   "AMkAA AS-SALAAMrEF MAKSURA WITH SUPERSCRIPT ALEF FINAL FORMkISOLATED FORMzsWITH FATHATAN FINA",
   "L FORMkISOLATED FORMzfLAH ISOLATED FORMsZZA WA JALLmBEH WITH ALEF MAKSURA FINAL FORMkISOLATE",
   "D FORMzbHAH INITIAL FORMlSOLATED FORMnWITH YEH FINAL FORMwEH INITIAL FORMmMEDIAL FORMpJEEM INI",
   "TIAL FORMlSOLATED FORMsKHAH INITIAL FORMlSOLATED FORMnWITH YEH FINAL FORMyMEEM FINAL FORMkINIT",
   "IAL FORMlSOLATED FORMnMEDIAL FORMqNOON FINAL FORMpREH FINAL FORMoYEH FINAL FORMkISOLATED FORMr",
   "ZAIN FINAL FORMxISMILLAH AR-RAHMAN AR-RAHEEMzeDAD WITH ALEF MAKSURA FINAL FORMkISOLATED FORMzb",
   "HAH INITIAL FORMlSOLATED FORMnWITH ALEF MAKSURA FINAL FORMxYEH FINAL FORMxJEEM INITIAL FORMlSO",
   "LATED FORMsKHAH INITIAL FORMlSOLATED FORMnWITH MEEM FINAL FORMkINITIAL FORMzcMEEM INITIAL FORM",
   "lSOLATED FORMsREH FINAL FORMkISOLATED FORMrYEH FINAL FORMkISOLATED FORMzbFEH WITH ALEF MAKSUR",
   "A FINAL FORMkISOLATED FORMzbHAH INITIAL FORMlSOLATED FORMrJEEM INITIAL FORMlSOLATED FORMsKHA",
   "H INITIAL FORMlSOLATED FORMnWITH MEEM FINAL FORMkINITIAL FORMzcMEEM INITIAL FORMlSOLATED FORMn",
   "WITH YEH FINAL FORMyYEH FINAL FORMkISOLATED FORMzbGHAIN WITH ALEF MAKSURA FINAL FORMkISOLATE",
   "D FORMzbJEEM INITIAL FORMlSOLATED FORMsMEEM INITIAL FORMlSOLATED FORMnWITH ALEF MAKSURA FINA",
   "L FORMxMEEM FINAL FORMpYEH FINAL FORMyYEH FINAL FORMkISOLATED FORMzdHAH WITH ALEF MAKSURA FINA",
   "L FORMkISOLATED FORMzbJEEM INITIAL FORMlSOLATED FORMnWITH YEH FINAL FORMyMEEM INITIAL FORMlSOL",
   "ATED FORMnWITH ALEF MAKSURA FINAL FORMxYEH FINAL FORMyYEH FINAL FORMkISOLATED FORMzEH WITH ALE",
   "F MAKSURA ISOLATED FORMzbJEEM INITIAL FORMlSOLATED FORMsMEEM INITIAL FORMlSOLATED FORMnWITH JE",
   "EM INITIAL FORMrMEEM INITIAL FORMzcSUPERSCRIPT ALEF INITIAL FORMzeYEH ISOLATED FORMzbJALLAJALA",
   "LOUHOUoEEM WITH ALEF MAKSURA FINAL FORMkISOLATED FORMzbHAH INITIAL FORMlSOLATED FORMnWITH ALE",
   "F MAKSURA FINAL FORMxYEH FINAL FORMxMEEM INITIAL FORMlSOLATED FORMnWITH ALEF MAKSURA FINAL FOR",
   "MxHAH FINAL FORMkINITIAL FORMqYEH FINAL FORMyYEH FINAL FORMkISOLATED FORMzcKAF WITH ALEF FINA",
   "L FORMkISOLATED FORMnMAKSURA FINAL FORMkISOLATED FORMzbHAH INITIAL FORMlSOLATED FORMrJEEM INIT",
   "IAL FORMlSOLATED FORMsKHAH INITIAL FORMlSOLATED FORMsLAM FINAL FORMkINITIAL FORMlSOLATED FORMn",
   "MEDIAL FORMpMEEM FINAL FORMkINITIAL FORMlSOLATED FORMnMEDIAL FORMlWITH MEEM FINAL FORMkINITIA",
   "L FORMrYEH FINAL FORMyYEH FINAL FORMkISOLATED FORMzHAH WITH ALEF MAKSURA FINAL FORMkISOLATED F",
   "ORMzbHAH ISOLATED FORMrJEEM INITIAL FORMlSOLATED FORMsMEEM INITIAL FORMlSOLATED FORMsYEH FINA",
   "L FORMkISOLATED FORMzcLAM WITH ALEF FINAL FORMkISOLATED FORMnMAKSURA FINAL FORMkISOLATED FORMv",
   "WITH HAMZA ABOVE FINAL FORMkISOLATED FORMtBELOW FINAL FORMkISOLATED FORMzMADDA ABOVE FINAL FOR",
   "MkISOLATED FORMzkHAH INITIAL FORMlSOLATED FORMnWITH ALEF MAKSURA FINAL FORMxMEEM FINAL FORMkIN",
   "ITIAL FORMrYEH FINAL FORMwEH INITIAL FORMqJEEM INITIAL FORMlSOLATED FORMnWITH JEEM FINAL FORMk",
   "INITIAL FORMrMEEM FINAL FORMkINITIAL FORMrYEH FINAL FORMyKHAH INITIAL FORMlSOLATED FORMnWITH M",
   "EEM FINAL FORMkINITIAL FORMzcMEEM FINAL FORMkINITIAL FORMlSOLATED FORMnMEDIAL FORMlWITH HAH FI",
   "NAL FORMkINITIAL FORMqYEH FINAL FORMyYEH FINAL FORMkISOLATED FORMzbMEEM WITH ALEF FINAL FORMkM",
   "AKSURA ISOLATED FORMzbHAH INITIAL FORMlSOLATED FORMnWITH JEEM INITIAL FORMrMEEM INITIAL FORMrY",
   "EH FINAL FORMxJEEM INITIAL FORMlSOLATED FORMnWITH HAH INITIAL FORMqKHAH INITIAL FORMrMEEM INIT",
   "IAL FORMrYEH FINAL FORMyKHAH INITIAL FORMlSOLATED FORMnWITH JEEM INITIAL FORMrMEEM INITIAL FOR",
   "MrYEH FINAL FORMyMEEM FINAL FORMkINITIAL FORMlSOLATED FORMnWITH YEH FINAL FORMyYEH ISOLATED FO",
   "RMzbOHAMMAD ISOLATED FORMwNOON WITH ALEF MAKSURA FINAL FORMkISOLATED FORMzbHAH INITIAL FORMlSO",
   "LATED FORMnWITH ALEF MAKSURA FINAL FORMxMEEM INITIAL FORMrYEH FINAL FORMwEH INITIAL FORMmMEDIA",
   "L FORMpJEEM INITIAL FORMlSOLATED FORMnWITH ALEF MAKSURA FINAL FORMxHAH FINAL FORMkINITIAL FORM",
   "qMEEM FINAL FORMkINITIAL FORMrYEH FINAL FORMyKHAH INITIAL FORMlSOLATED FORMsMEEM FINAL FORMkIN",
   "ITIAL FORMlSOLATED FORMnMEDIAL FORMlWITH ALEF MAKSURA FINAL FORMxYEH FINAL FORMyNOON FINAL FOR",
   "MpREH FINAL FORMoYEH FINAL FORMkISOLATED FORMrZAIN FINAL FORMzQAF WITH ALEF MAKSURA FINAL FORM",
   "kISOLATED FORMzbHAH INITIAL FORMlSOLATED FORMrMEEM INITIAL FORMlSOLATED FORMnWITH HAH FINAL FO",
   "RMkINITIAL FORMqMEEM FINAL FORMpYEH FINAL FORMyYEH FINAL FORMkISOLATED FORMyLA USED AS KORANI",
   "C STOP SIGN ISOLATED FORMzsUDDISA SIRRAHoRADI ALLAAHU ANHaAAcUMaAAdNNAsHIMAHU ALLAAHhM ALLAAHo",
   "SOUL ISOLATED FORMtEH WITH SUPERSCRIPT ALEF ISOLATED FORMzoSAD WITH ALEF MAKSURA FINAL FORMkIS",
   "OLATED FORMzbHAH INITIAL FORMlSOLATED FORMnWITH HAH FINAL FORMkINITIAL FORMqYEH FINAL FORMxKHA",
   "H INITIAL FORMrMEEM INITIAL FORMlSOLATED FORMnWITH MEEM FINAL FORMkINITIAL FORMzcREH FINAL FOR",
   "MkISOLATED FORMrYEH FINAL FORMkISOLATED FORMyLAAMUHU ALAYNAAnM ISOLATED FORMqLA ISOLATED FORMn",
   "USED AS KORANIC STOP SIGN ISOLATED FORMzpLLAAHU ALAYHI WA-AALIHtHOU ALAYHE WASALLAMsU ALAYHI W",
   "AAALIHEE WA-SALLAMzlEEN WITH ALEF MAKSURA FINAL FORMkISOLATED FORMzbHAH INITIAL FORMlSOLATED F",
   "ORMnMEDIAL FORMlWITH JEEM INITIAL FORMzEH INITIAL FORMmMEDIAL FORMpJEEM INITIAL FORMlSOLATED F",
   "ORMnMEDIAL FORMlWITH ALEF MAKSURA FINAL FORMxHAH INITIAL FORMzbKHAH INITIAL FORMlSOLATED FORMn",
   "MEDIAL FORMlWITH ALEF MAKSURA FINAL FORMxYEH FINAL FORMyMEEM INITIAL FORMlSOLATED FORMnMEDIA",
   "L FORMlWITH HAH FINAL FORMkINITIAL FORMqJEEM INITIAL FORMrMEEM FINAL FORMkINITIAL FORMzcREH FI",
   "NAL FORMkISOLATED FORMrYEH FINAL FORMkISOLATED FORMzbHADDA WITH DAMMA ISOLATED FORMnMEDIAL FOR",
   "MmTAN ISOLATED FORMwFATHA ISOLATED FORMnMEDIAL FORMrKASRA ISOLATED FORMnMEDIAL FORMmTAN ISOLAT",
   "ED FORMwSUPERSCRIPT ALEF ISOLATED FORMzpEEN WITH ALEF MAKSURA FINAL FORMkISOLATED FORMzbHAH FI",
   "NAL FORMkINITIAL FORMlSOLATED FORMnMEDIAL FORMlWITH MEEM FINAL FORMkINITIAL FORMrYEH FINAL FOR",
   "MwEH INITIAL FORMmMEDIAL FORMpJEEM FINAL FORMkINITIAL FORMlSOLATED FORMnMEDIAL FORMlWITH YEH F",
   "INAL FORMyKHAH FINAL FORMkINITIAL FORMlSOLATED FORMnMEDIAL FORMqMEEM FINAL FORMkINITIAL FORMlS",
   "OLATED FORMnMEDIAL FORMlWITH KHAH FINAL FORMkINITIAL FORMrMEEM FINAL FORMkINITIAL FORMzcREH FI",
   "NAL FORMkISOLATED FORMrYEH FINAL FORMkISOLATED FORMzcUBHAANAHU WA TAAALAAvTABAARAKA WA-TAAALAA",
   "sH WITH ALEF MAKSURA FINAL FORMkISOLATED FORMzbHAH INITIAL FORMlSOLATED FORMrMEEM INITIAL FORM",
   "lSOLATED FORMnMEDIAL FORMlWITH HAH FINAL FORMkINITIAL FORMqMEEM INITIAL FORMrYEH FINAL FORMyYE",
   "H FINAL FORMkISOLATED FORMzEH WITH ALEF MAKSURA FINAL FORMkISOLATED FORMzbHAH INITIAL FORMlSOL",
   "ATED FORMnWITH JEEM FINAL FORMkINITIAL FORMrMEEM INITIAL FORMzEH INITIAL FORMmMEDIAL FORMpJEE",
   "M INITIAL FORMlSOLATED FORMnWITH ALEF MAKSURA FINAL FORMxMEEM INITIAL FORMrYEH FINAL FORMyKHA",
   "H INITIAL FORMlSOLATED FORMnWITH ALEF MAKSURA FINAL FORMxMEEM INITIAL FORMrYEH FINAL FORMyMEE",
   "M FINAL FORMkINITIAL FORMlSOLATED FORMnMEDIAL FORMlWITH ALEF MAKSURA FINAL FORMxHAH INITIAL FO",
   "RMqJEEM INITIAL FORMrKHAH INITIAL FORMrYEH FINAL FORMyNOON FINAL FORMpREH FINAL FORMoYEH FINA",
   "L FORMkISOLATED FORMrZAIN FINAL FORMxHAL WITH SUPERSCRIPT ALEF ISOLATED FORMznEH WITH ALEF MAK",
   "SURA FINAL FORMkISOLATED FORMzbHEH MEDIAL FORMpJEEM ISOLATED FORMsMEEM FINAL FORMkINITIAL FORM",
   "lSOLATED FORMnMEDIAL FORMqNOON FINAL FORMpREH FINAL FORMoYEH FINAL FORMkISOLATED FORMrZAIN FIN",
   "AL FORMzUIGHUR KIRGHIZ YEH WITH HAMZA ABOVE WITH ALEF MAKSURA FINAL FORMkINITIAL FORMlSOLATE",
   "D FORMzzrWASALLAM ISOLATED FORMwYEH WITH ALEF MAKSURA FINAL FORMkISOLATED FORMzbHAH INITIAL FO",
   "RMlSOLATED FORMnWITH YEH FINAL FORMvMZA ABOVE WITH AE FINAL FORMkISOLATED FORMpLEF FINAL FORMk",
   "ISOLATED FORMnMAKSURA FINAL FORMkISOLATED FORMzbE FINAL FORMkINITIAL FORMlSOLATED FORMpHAH INI",
   "TIAL FORMlSOLATED FORMqEH INITIAL FORMmMEDIAL FORMpJEEM INITIAL FORMlSOLATED FORMsKHAH INITIA",
   "L FORMrMEEM FINAL FORMkINITIAL FORMlSOLATED FORMnMEDIAL FORMqNOON FINAL FORMpOE FINAL FORMkISO",
   "LATED FORMqREH FINAL FORMoU FINAL FORMkISOLATED FORMpWAW FINAL FORMkISOLATED FORMrYEH FINAL FO",
   "RMkISOLATED FORMqU FINAL FORMkISOLATED FORMqZAIN FINAL FORMzgEH INITIAL FORMmMEDIAL FORMpJEE",
   "M INITIAL FORMlSOLATED FORMnWITH YEH FINAL FORMyKHAH INITIAL FORMlSOLATED FORMsMEEM FINAL FORM",
   "kINITIAL FORMlSOLATED FORMnMEDIAL FORMlWITH MEEM FINAL FORMkINITIAL FORMrYEH FINAL FORMyNOON F",
   "INAL FORMpREH FINAL FORMoYEH FINAL FORMkISOLATED FORMrZAIN FINAL FORMyZAH WITH MEEM INITIAL FO",
   "RMlSOLATED FORMnMEDIAL FORMzjMADDA WAAJIBhH ABOVEkRK NOON GHUNNAlSIDEWAYS NOON GHUNNAxTHEMATIC",
   "AL AINcLEFeBEHdDADbLcOTLESS BEHdFEHdNOONeQAFjUBLE-STRUCK AINdBEHdDADbLdFEHdGHAINfHAHdJEEMeKHAH",
   "eLAMdMEEMeNOONeQAFdREHdSADcEENdHEENfTAHcEHcHALcEHeWAWdYEHdZAHbINsFEHdGHAINfHAHdINITIAL AINdBEH",
   "dDADdFEHdGHAINfHAHcEHdJEEMeKAFcHAHeLAMdMEEMeNOONeQAFdSADcEENdHEENfTEHcHEHeYEHlJEEMeKAFcHAHeLAM",
   "cOOPED AINcLEFeBEHdDADbLdFEHdGHAINfHAHcEHdJEEMeKHAHeLAMdMEEMeNOONeQAFdREHdSADcEENdHEENfTAHcEHc",
   "HALcEHeWAWdYEHdZAHbINlMEEMeNOONeOPERATOR HAH WITH DALmMEEM WITH HAH WITH TATWEELzkQAFdREHdSADc",
   "EENdHEENeTRETCHED AINdBEHdDADcOTLESS BEHdFEHlFEHdGHAINfHAHcEHdJEEMeKAFcHAHeMEEMeNOONeQAFdSADcE",
   "ENdHEENfTAHcEHcHEHeYEHdZAHnTAHbILED AINdDADcOTLESS NOONeQAFlGHAINfHAHdJEEMeKHAHeLAMdNOONeQAFdS",
   "ADcEENdHEENfYEHjEHcHALcEHeWAWdYEHdZAHbINrNUMBER MARK ABOVEkSIGNlOPEN DAMMATANiFATHATANiKASRATA",
   "NnPERCENT SIGNlIASTRE MARK ABOVErLACE OF SAJDAHoOETIC VERSE SIGNpUND MARK ABOVEqQUESTION MARKn",
   "RAISED ROUND DOToYcEVERSED DAMMAnIGHT ARROWHEAD ABOVEa WITH DOToBELOWuOUNDED HIGH STOP WITH FI",
   "LLED CENTREzlSEMICOLONiHADDAa ISOLATED FORMnMEDIAL FORMrIGN ALAYHE ASSALLAMpMISRAfRADI ALLAHO",
   "U ANHUpHMATULLAH ALAYHEsSAFHAdLLALLAHOU ALAYHE WASSALLAMzbMVATeNAHeINDHI AMPERSANDjPOSTPOSITIO",
   "N MENxTAKHALLUSnMALL DAMMAfFARSI YEHhTHAfHIGH AINdDOTLESS HEAD OF KHAHuFARSI YEHiOOTNOTE MARKE",
   "RpJEEMeLAM ALEFhIGATURE ALEF WITH LAM WITH YEHwQAF WITH LAM WITH ALEF MAKSURAzfSAD WITH LAM WI",
   "TH ALEF MAKSURAzoMADDAeEEM INITIAL FORMlSOLATED FORMsNOONa WITH KASRApQAFdROUNDED ZEROmSADcEEN",
   "dIGN SAFHAkTAHcHREE DOTSkUPRIGHT RECTANGULAR ZEROyWAWcORD AL-JUZfN-NISFgR-RUBfS-SAJDAhTH-THALA",
   "THAmQIFdSAHbKTAfWAQFAkYEHa BARREE WITH TWO DOTS BELOWzfZAHbINjKASRAfLOW MEEMeNOON WITH KASRApS",
   "EENeWAWcORD IMAALAfSHMAAMhTASHEELqWAWdYEHiTART OF RUB EL HIZBtUBSCRIPT ALEFmKUNa BELOWfISOLATE",
   "D FORMnMEDIAL FORMpPERSCRIPT ALEF MOKHASSASzYMBOL DOT ABOVEfBELOWhUBLE VERTICAL BAR BELOWzFOU",
   "R DOTS ABOVEfBELOWpRINGeSMALL TAH ABOVEfBELOWpTHREE DOTS ABOVEfBELOWfPOINTING DOWNWARDS ABOVEf",
   "BELOWzjWO DOTS ABOVEfBELOWfVERTICALLY ABOVEfBELOWzWASLA ABOVEsTAIL FRAGMENTlTWEELa WITH FATHAT",
   "AN ABOVEoOVERSTRUCK HAMZAfWAWoTWO DOTS BELOWzbHOUSANDS SEPARATORsONE LOOP ABOVEfBELOWkONE DO",
   "T ABOVEfBELOWnTWO DOTS ABOVEfBELOWsRIPLE DOT PUNCTUATION MARKzbURNED DAMMA BELOWsVERTICAL TAIL",
   "mOWEL SIGN DOT BELOWjINVERTED SMALL V ABOVEwSMALL V ABOVEyWAVY HAMZA BELOWqZWARAKAYj-INDIC CUB",
   "E ROOTjDIGIT EIGHTfFIVEdOUReNINEeONEdSEVENeIXdTHREEeWOdZEROkFOURTH ROOTlPER MILLE SIGNkTEN THO",
   "USAND SIGNzhCbIESdMENIAN ABBREVIATION MARKqPOSTROPHEkCAPITAL LETTER AYBdBENdCAbHAbEHdOcDAcECHc",
   "HbTcFEHdGHADdIMdHOcINIdJAbHEHeKEHbNdLIWNeMENdNOWdOHcPEHcIWReRAbEHdSEHcHAdTIWNdOcVEWcOcXEHdYIaW",
   "NeZAbHErOMMAfDRAM SIGNjEMPHASIS MARKmXCLAMATION MARKqFULL STOPjHYPHENgMODIFIER LETTER LEFT HAL",
   "F RINGzfQUESTION MARKnSMALL LETTER AYBdBENdCAbHAbEHdOcDAcECHcHbTcFEHdGHADdIMdHOcINIdJAbHEHeKEH",
   "bNdLIWNeMENdNOWdOHcPEHcIWReRAbEHdSEHcHAdTIWNdObURNED AYBkVEWcOcXEHdYIa WITH STROKEmWNeZAbHEjIG",
   "ATURE ECH YIWNiMEN ECHdINIdNOWdXEHhVEW NOWzeROW POINTING DOWNWARDS THEN CURVING LEFTWARDSjRIGH",
   "TWARDSziRIGHTWARDS THEN CURVING DOWNWARDSjSOUTH WESTkUPWARDSzgUPWARDS THEN NORTH WESTziHEAD-SH",
   "APED POINTERwTICULATED LORRYnST PALETTEnSCENDING NODElIA SYMBOLkSERTIONhTERISKa OPERATORkMfONI",
   "SHED FACEmRAEAdONOMICAL SYMBOL FOR URANUSzdYMPTOTICALLY EQUAL TOwTHLETIC SHOElOM SYMBOLkUBERGI",
   "NEhSTRAL SIGNkTO RICKSHAWjMATED TELLER MACHINEtOBILEjVESTAN ABBREVIATION MARKrLETTER AaAaNbOcE",
   "aEcNbOcBEbHEdCEcDEbHEdEaEcFEcGEbGEcHEdHEbMEdIaIcJEcKEcLEcMEcNEbGEbVEcYEdNEcYEdOaOcPEcREcSEbHEb",
   "YEdSHEeTEbHEcTEdUaUcVEcXEbVEcYEdYEbYEdZEbHEqOCADOgXE"]

def nameTapeB : List String :=
  ["BABYa ANGELfBOTTLEgCHICKfSYMBOLjCK OF ENVELOPElWITH LEFTWARDS ARROW ABOVEzc-TILTED SHADOWED WH",
   "ITE RIGHTWARDS ARROWzoSLANTED SOUTH ARROW WITH HOOKED TAILjRIZONTAL TAILzoPACEgONcTRIAN CAMELm",
   "DGERdMINTON RACQUET AND SHUTTLECOCKzgGELcGAGE CLAIMkUETTE BREADmLINESE ADEG ADEGjCARIK PAMUNGK",
   "AHhRERENhSIKIkDIGIT EIGHTfFIVEdOUReNINEeONEdSEVENeIXdTHREEeWOdZEROkLETTER AIKARAfKARAa TEDUNGl",
   "RCHAIC JNYAlSYURA SASAKmBAa KEMBANGkCAa LACAhDAa MADUdURDA ALPAPRANAjMAHAPRANAsEF SASAKhKARAfG",
   "Aa GORAhHAcIKARAa TEDUNGmJAa JERAhKAa MAHAPRANAkF SASAKiHOT SASAKkLAa LENGAa TEDUNGpMAcNAa RAM",
   "BATiGAcYAdOKARAa TEDUNGmPAa KAPALiRAa REPAa TEDUNGoSAa SAGAcPAhTAa LATIKfMURDA MAHAPRANApTAWAg",
   "ZIR SASAKkUKARAa TEDUNGmVE SASAKiWAcYAcZAL SASAKqMUSICAL SYMBOL COMBINING BENDEfENDEPfGONGeJEG",
   "OGANhKEMPLIa WITH JEGOGANpULa WITH JEGOGANtTEGEHpDAENGdINGdNGa GEDEeSURANGkENGcUNGeINGdONGdUNG",
   "eLEFT-HAND CLOSED PLAKcUKlOPEN PANGdINGdUNGtRIGHT-HAND CLOSED TAKcUKkOPEN DAGcUGzjPAMADAa LANT",
   "ANGlENENGgNTIa LANTANGnSIGN BISAHfCECEKfREREKANhSURANGgULU CANDRAgRICEMoVOWEL SIGN LA LENGAa T",
   "EDUNGpPEPETa TEDUNGmRA REPAa TEDUNGoSUKUa ILUTjTALINGa REPAa TEDUNGlTEDUNGmEDUNGgULUa SARItWIN",
   "DUlL OF YARNiET SHOESiOONa-SPOKED ASTERISKsT BOLD SCRIPT XlXa WITH BALLOTfOLD CHECKfSCRIPT XnC",
   "HECKfLIGHT XhSCRIPT XiXkSCRIPT XiXgMUM COLONdMBINING MARK KOQNDONhTUKWENTISvMAfFULL STOPjLETTE",
   "R AbEEcFAAMAEfEEcOMcUcIbKAbENbTbUXdIbOaGHOMeVUUePAcUbYEEeLAbEEEEeIbOQcUcMaAbBAAcENdEEEEdNcIbOb",
   "UcNAbDAAdGAbGAcKWAENgIbJAEMdEEcUAEeSHAdTEEcUUdUaAEdYIdObPAbEEbUXdHASE-A FIRIeGBIEE FONiHEUAEGH",
   "EUAEgRAEjKAFAcQcETbUKEUTNDAjPOQdUOQeLAPAQeET KUTgOMMAEfUaAEPfMAEKEUPeMaBGBIEEgKPENeVEUXfNYIdSI",
   "dNSUAEfP PIEETiBANYIdQdEUNJOMNDEUQlGBASAfON NGGEUAETkOMEUTdPUQgVEUAENGAMkNAA MFONgQcDA LEERAEW",
   "AjANGGEUAETlENcGANGUeGENdKUE MFONfNZEUMjIKAdJAMdKAARAEfINDIfSHAbIEEfTAPa MFAAeNTAAhOQPENgYETcI",
   "aT MONGKEUAEQoZA MFONgUN MEUTjPA LEERAEWAjAMbRAEeMSHAEfSHAEfETcON MFON PIPAEMBAcGBIEEqPA NJI P",
   "IPAEMBAcGBIEEvUPdROMdSEUNYAMgHINDA PA NJIkRAEeOQ NSHUT YUMmUENSHUEThMdISAdONJAMeQbTcUUdTEUAENd",
   "TEUWENiITA MFONiU MAEMBAhAEPfU YUQ NAEiNKNOWNhVEEfB FEEbUXeGHEUGHENbUAEMlKAMcEUAEMdPUQdYEUXgIE",
   "EMdQdLAANAEeM NSHUT NYAMnETcOM NTEUMjMAa NJEUAENAgUQAhBA MAELEEhARAEfEURIeIT MBAAKETkUOQeEUQb",
   "T NGGEETkFIYAQeON TEUAEQkONTIEENiNDU NJAAhGGAAMdEU MBUgUOQa LARGEkKINDI MVOPkOMdSENcHUETfTIE",
   "E SHEUOQlYAEMAEfI NTEUMjPARUMeEESHIfITcUNGAAMhSAKEUAEgET TUfHET NJAQgUAEQTUiIEEdUEdTAAMdU MAEM",
   "GBIEEjNSIEEiVEUMeWUAETfYAFU LEERAEWAmEURAEiC BUNGeFUEdGBAYIeHAPbRAEgKAAcEN FATIGUEhLAWfTbUKAQd",
   "MbSEUXdHEUAEPjPARAQfUOP NKAARAEkTdLAMbPcIQcUcMA KEUAERIhNSIEEgEMBAdSIeBAA CABBAGE-TREEmPICKETi",
   "NYIeEEKEETfRAEdUMbXdIaRIEENfTcUAEMdEdGBASAQgIEEdUAEeNANSANAQgQcDAMbPcEUAEREEfTdIDAdOMBUfGAQcGE",
   "NcUaAEN NYAMiEETdMbONeKAQcUE MAEMBAkOMdJAEMcMcEEEEdUXdUEQeSAbEUAENfHAQdOMcUNbOT NGOMjTAAcENbUN",
   "GBAgU MBIThYIR MKPARAQ MEUNqZAbEUMfPENcINbRIEENhRUcSETFONeUXdHIQcUEQeUAETfTAASHAEgETbUTEUXgIT",
   "A YUEfUAEPhVEUAEPENfXeWANGKUOQhUPdYAAcEUQdU MUOMAEhMbWOQhD FAAcEUFEUAETjGHAAcEUAEgKETbUAETMEUN",
   "hMbOT MBUAEiPdUaNbOMcQcWAETeYEEeLEEEEdTbUAEPdMdIEEdOQcUMdMaAENJETfLEERIgBAAa SEVENiUOdEEEEdUNb",
   "TdFEUAEcTdIEEdOaNdGBEUNdIEEdOFUMgONIdUbVOPeNDAMcEEbUXdONdGGAAMaAEePcEUXdUOMdWAENfKAPcEUAEQdRIe",
   "IEEdUNcYEEfIbJAPcEUAEMdTdIaEEdUEQeSHEEcUTdIEEPbTeUMdTEEbUMdUUdUbYAMcETcIbUEePAPcEEbUTAEfIPcUQb",
   "UTeRAEMdEN MUCHeOLDgIIdSAPbQcEUAEQfHEEbUAEcXdIIcOQcUcOTcUAEcEbUdTAEcEEEEdUAENdNbTdIbOQcUaOTeWA",
   "PcUAENfYAEMMAEgENcUOMbPcWOQhE AbFAaQcEEcOMcU CALLeIbREMEDYhEaTeGBETbUXeHAAMAEfETbUAEcNbXdOMeIb",
   "KETbUAEcXdIbObPEUXeUETcOPcTdLAAMcPbQcEUAEMfOMbONbTcQcUcMAaEaMcPbQcBEEbUMeENcFEUQeGBAbENeIaEEdO",
   "NcUAEdVIdNAaEcDAA MY HOUSEiSOFTNESSkPcIAQcQcUNdGAbEUREUTgGEEEEdUAEaTfUAESHAE NYAMlPbRAEfKAaAMI",
   "eEUAEMdXdUMbPdOPbQcUAEaTfJAEMLIfEEa EPOCHhUXeKOMdSHIEEdUEbOPfTAPcUMdYI BETWEENhCLEAVERkZAQcUQe",
   "ObPA PEOPLEfLURALhAaMdEEMcUTbXdIaEEQcTdOaONdUaAEbQcEbMdRAEbQcEUXdIMGBAgSAAcEEbTcHEUAEQfIQcOaQd",
   "OMcUAENfTAAaQcEN NTEUMiMbQcENbUaAEQfOOaNcQcUAEcMaAEfVEEbUAEeOMdWEUXdUEbOdYAPcEUAEaTdMbXdIEEcTc",
   "OQ COVERfSWIMMINGlUAENdEQcNbQfF EEcFOMdKAbENbTcObPAcUbYEEeLAbIbOQdMaAbBAAcENdEEEEeOcNDAAdGGAcK",
   "WAENgIbJAEMdUAEeSHAdTEEdUaAEdYIdPEEbUXdUAEeREEbNbUXdIEEcIcUcSAMBAeEUXdHIIcObUcIbUUdTAAbEcETdUb",
   "VUEQeWAbUEdYAbOQkIbUAEcEdRAEcEEbNbUXdIEEcIcUcSAMBAeEUXdHEUXdIIcObUcIbUUdTAAbEcENbTcIcUbWAbUEdY",
   "AbOQcUQkNJAEMLIhQUESTION MARKnSEMICOLONnNANAdJOcKaNOTE WITH DOLLAR SIGNlEURO SIGNjPOUND SIGNkY",
   "EN SIGNuR CHARTfOF SOAPiBER POLEjSEBALLfKETaBALL AND HOOPqSA VAH COMBINING HIGH TONEf-LOW TONE",
   "nLOW TONEf-MID TONEmMID TONEsFULL STOPjLETTER AbBAcCEcDHIIdOcEaEbNNIeFAcGAHcBUdHWAHeIbJOcKAbPA",
   "HeMBEdOaOcPAcSEcTOcUaWUdVUcWAaDDAfYEINdIEdZOrTaAK CONSONANT SIGN HbNGrLETTER AbBAcCAcDAcGAcHAc",
   "IbJAcKARO BAhLAcMAaNDAILING HAcNAcSAmBAdNAbDAcGAcORTHERN TAkYAdPAaKPAK WAjRAcSAbIMALUNGUN AbGA",
   "cHAcLAcMAcPAcRAcSAcWAcYAmOUTHERN TAlUbWAcYAjPANGOLATfONGONANkSIGN TOMPIjYMBOL BINDU JUDULfNA M",
   "ETEKiPANGOLAThINARBORASxVOWEL SIGN EaEcIbKARO IbOgObPAKPAK EiUa FOR SIMALUNGUN SAziHaTUBeTERYg",
   "EACH WITH UMBRELLAqMED ASCENDING MUSICAL NOTESxDESCENDING MUSICAL NOTESyEIGHTH NOTESmSIXTEENT",
   "H NOTEStNScR FACEfDED PERSONlTING HEARTkVEReCAUSEfDbER MUGfTLEeLaLa PEPPERgSYMBOLgWITH CANCELL",
   "ATION STROKEzHOP BELLkNGALI ABBREVIATION SIGNqNJIdU LENGTH MARKoCURRENCY DENOMINATOR SIXTEENtN",
   "UMERATOR FOUReONEa LESS THAN THE DENOMINATORzeTHREEeWOwDIGIT EIGHTfFIVEdOUReNINEeONEdSEVENeIXd",
   "THREEeWOdZEROkGANDA MARKkISSHARgLETTER AaAbIbUcBAbHAdCAbHAdDAbDAbHAdHAdEbGAbHAdHAcIaIcJAbHAdKA",
   "bHAaNDA TAjLAcMAcNAbGAcNAcYAdObPAbHAdRAa WITH LOWER DIAGONALoMIDDLE DIAGONALwHAcRAdSAbHAcSAdTA",
   "bHAcTAbHAeUaUcVEDIC ANUSVARAnOCALIC LaLcRaRkYAbYAkRUPEE MARKeSIGNkSANDHI MARKkIGN ANUSVARAhVAG",
   "RAHAiCANDRABINDUlNUKTAfVIRAMAeSARGAmVOWEL SIGN AAbIbUcEbIaIcObUaUcVOCALIC LaLcRaRzbT ARROW POI",
   "NTING DOWNWARDS THEN NORTH EASTzqO BOXgZENE RINGa WITH CIRCLEwT SYMBOLhWEENfVERAGE BOXlHAIKSUK",
   "I DANDAeIGIT EIGHTfFIVEdOUReNINEeONEdSEVENeIXdTHREEeWOdZEROjOUBLE DANDAmGAP FILLER-1b2mHUNDRED",
   "S UNIT MARKsLETTER AaAbIbUcBAbHAdCAbHAdDAbDAbHAdHAdEbGAbHAdHAcIaIcJAbHAdKAbHAdLAcMAcNAbGAcNAcY",
   "AdObPAbHAdRAcSAbHAcSAdTAbHAcTAbHAeUaUcVAbOCALIC LbRaRkYAjNUMBER EIGHTaYgFIFTYdVEdORTYdUReNINEa",
   "TYgONEdSEVENaTYgIXaTYfTENcHIRTYeREEeWENTYeOkSIGN ANUSVARAhVAGRAHAiCANDRABINDUlVIRAMAeSARGAmVOW",
   "EL SIGN AAbIbUcEbIaIcObUaUcVOCALIC LbRaRvWORD SEPARATORxICYCLEbISThG REVERSE SOLIDUSpSOLIDUSjK",
   "INIeLLED CAPgIARDShOHAZARD SIGNmRDbTHDAY CAKElSONdTCOIN SIGNjING LIPjLACK BOWTIEgCENTRE WHIT",
   "E STARqHESS BISHOPa ROTATED NINETY DEGREESoTWO HUNDRED SEVENTY DEGREESzrEQUIHOPPERa ROTATED NI",
   "NETY DEGREESziKINGa ROTATED NINETY DEGREESoTWO HUNDRED SEVENTY DEGREESzoNIGHTa ROTATED FORTY-F",
   "IVE DEGREESsNINETY DEGREESoONE HUNDRED THIRTY-FIVE DEGREESzgTHREE HUNDRED FIFTEEN DEGREESzdW",
   "O HUNDRED SEVENTY DEGREESpTWENTY-FIVE DEGREESzp-BISHOPgQUEENfROOKlPAWNa ROTATED NINETY DEGREES",
   "oTWO HUNDRED SEVENTY DEGREESzpQUEENa ROTATED NINETY DEGREESoTWO HUNDRED SEVENTY DEGREESzqROOK",
   "a ROTATED NINETY DEGREESoTWO HUNDRED SEVENTY DEGREESzpTURNED BISHOPgKINGdNIGHTgPAWNeQUEENfROOK",
   "qIRCLEa FOR RECORDkWITH DOWN ARROWkTWO WHITE DOTSoWHITE DOT RIGHTzbLUB SUITiROSS ON SHIELDoURV",
   "ED DOWNWARDS AND LEFTWARDS ARROWpRIGHTWARDS ARROWzfLEFTWARDS AND DOWNWARDS ARROWpUPWARDS ARROW",
   "zcRIGHTWARDS AND DOWNWARDS ARROWpUPWARDS ARROWzdUPWARDS AND LEFTWARDS ARROWpRIGHTWARDS ARROWzk",
   "DIAMONDa CENTREDhMINUS WHITE XnON CROSSiSUITeWITH DOWN ARROWwOWN POINTING BACKHAND INDEXy-POIN",
   "TING DOUBLE TRIANGLEpISOSCELES RIGHT TRIANGLEySMALL TRIANGLEoTRIANGLEsWARDS EQUILATERAL ARROWH",
   "EADzfRAUGHTS KINGeMANkOPLEThFLAGcORETTEhOLDEReUR POINTED STARrHARD SHELL FLOPPY DISKvEARTa SUI",
   "TiXAGONgORIZONTAL ELLIPSEqURGLASSjLARGE CIRCLEgSQUARElEFT LANE MERGEkPOINTING BACKHAND INDEXoI",
   "NDEXp-POINTING DOUBLE TRIANGLEa WITH VERTICAL BARziISOSCELES RIGHT TRIANGLEyPOINTERhSMALL TRIA",
   "NGLEoTRIANGLEsWARDS BULLETgEQUILATERAL ARROWHEADzfOWER LEFT TRIANGLEnRIGHT TRIANGLEsZENGEhMEDI",
   "UM DIAMONDgOWN-POINTING TRIANGLEa CENTREDzfLEFT-POINTING TRIANGLEa CENTREDzeOZENGEhRIGHT-POINT",
   "ING TRIANGLEa CENTREDzgSMALL DIAMONDhLOZENGEhSQUARElQUAREgUP-POINTING TRIANGLEa CENTREDzjOON L",
   "ILITHlNIBdOCTAGONhPARALLELOGRAMmENNANTeTAGONhUSHPINhQUESTION MARK ORNAMENTwRECTANGLEiIGHT POIN",
   "TING BACKHAND INDEXoINDEXp-POINTING DOUBLE TRIANGLEa WITH VERTICAL BARziISOSCELES RIGHT TRIANG",
   "LEyPENTAGONhOINTERhSMALL TRIANGLEoTRIANGLEa WITH DOUBLE VERTICAL BARzsWARDS ARROWaHEADjBULLETg",
   "EQUILATERAL ARROWHEADzgOSETTEhSAFETY SCISSORSoCISSORShHOGI PIECEkKULL AND CROSSBONEStLIGHTLY S",
   "MALL CIRCLEgSQUAREuMALL DIAMONDhLOZENGEhSQUAREfTARiILING FACElNOWMANgPADE SUITjQUAREa BUTTONgC",
   "ENTREDhFOR STOPoTARdUN WITH RAYSnTELEPHONEiINY DIAMONDhLOZENGEhSQUAREkOUCHTONE TELEPHONEsRUCKe",
   "WO-WAY LEFT WAY TRAFFICyUNIVERSAL RECYCLING SYMBOLzP POINTING BACKHAND INDEXy-POINTING DOUBL",
   "E TRIANGLEpISOSCELES RIGHT TRIANGLEySMALL TRIANGLEoTRIANGLEsPER LEFT TRIANGLEnRIGHT TRIANGLEsW",
   "ARDS EQUILATERAL ARROWHEADzeVERTICAL ELLIPSEhRECTANGLEpY SMALL DIAMONDhLOZENGEhSQUAREs-FEATHER",
   "ED NORTH EAST ARROWqRIGHTWARDS ARROWqSOUTH EAST ARROWzbLETTER CAPITAL CbHbIbRbZtNK SYMBOLkOC",
   "K SEXTANT-1a2a3a4a5b6c5a6c6c4a5a6c6c5a6c6c3a4a5a6c6c56c6c4a5a6c6c5a6c6c2a3a4a5a6c6c5a6c6c4a5a6",
   "d5a6c6c3a4a5a6c6c5a6c6c4a5a6c6c5a6c6mSSOMeWFISHgUE BOOKeHEARTgBERRIESkOARcLD EIGHT SPOKED ASTE",
   "RISKvFIVE SPOKED ASTERISKuGREEK CROSSlSALTIREgIX SPOKED ASTERISKtWHITE CIRCLEgSQUAREpMaBcNEcOK",
   "aMARKa TABSjScMERANGhPOMOFO FINAL LETTER GbHbKbPbToLETTER AaHbIaNNdMbNaGbNcUaNNeBaUcCaHcDbEaEb",
   "HbIbNaGbNcRcFbGaHbNbUbWcHbIaHbMbNNaNdRbUcJaIcKaWcLaHcMbNaGaGcNcOa WITH DOT ABOVEpEbMbNGbNcObUc",
   "PbQbRbSaHcTbUaNNdVbXbZaHbIbYqTTLE WITH POPPING CORKuOM ARC ANTICLOCKWISE ARROWxCURLY BRACKETnH",
   "ALF BLACK CIRCLEmINTEGRALiLEFT PARENTHESISqRIGHT PARENTHESISwLEFT CORNERfROPeHALF BRACKETrPARE",
   "NTHESISlRIGHT CORNERfROPeHALF BRACKETsSQUARE BRACKETa OVER TOP SQUARE BRACKETznTORTOISE SHEL",
   "L BRACKETzcUQUETa OF FLOWERSqW AND ARROWkL OF HYGIEIAkWITH SPOONlINGeTIEa WITH LEFT HALF BLACK",
   "pRIGHT HALF BLACKzbX DRAWINGS DOUBLE DOWN AND HORIZONTALkLEFTeRIGHToHORIZONTALkUP AND HORIZONT",
   "ALkLEFTeRIGHTmVERTICALa AND HORIZONTALkLEFTeRIGHTxWN DOUBLE AND HORIZONTAL SINGLErLEFT SINGLEl",
   "RIGHT SINGLExHEAVY AND HORIZONTAL LIGHTqLEFT LIGHTfUP LIGHTnRIGHT LIGHTfUP LIGHToUP HORIZONTA",
   "L LIGHTzeLIGHT AND HORIZONTAL HEAVYqLEFT HEAVYfUP HEAVYnRIGHT HEAVYfUP HEAVYoUP HORIZONTAL HEA",
   "VYzeSINGLE AND HORIZONTAL DOUBLErLEFT DOUBLElRIGHT DOUBLEzdHEAVY DOUBLE DASH HORIZONTALkVERTIC",
   "ALsWNa AND HORIZONTALkLEFTeRIGHToHORIZONTALkLEFTa AND LIGHT RIGHTuQUADRUPLE DASH HORIZONTALkVE",
   "RTICALxRIGHTfTRIPLE DASH HORIZONTALkVERTICALuUPa AND HORIZONTALkLEFTdIGHT DOWNkRIGHTmVERTICAL",
   "a AND HORIZONTALkLEFTeRIGHTyLEFT DOWN HEAVY AND RIGHT UP LIGHTzeHEAVY AND RIGHT DOWN LIGHTkU",
   "P LIGHTiVERTICAL LIGHTzfLIGHT AND RIGHT DOWN HEAVYkUP HEAVYiVERTICAL HEAVYzfUP HEAVY AND RIGH",
   "T DOWN LIGHTziIGHT ARC DOWN AND LEFTeRIGHToUP AND LEFTeRIGHTqDIAGONAL CROSSfDIAMONDhMIDDLE LEF",
   "T TO LOWER CENTREa TO MIDDLE RIGHTzdUPPER CENTRE TO MIDDLE RIGHTa TO LOWER CENTREzzcRIGHT TO L",
   "OWER CENTREmUPPER CENTRE TO MIDDLE LEFT TO LOWER CENTREzzjUPPER CENTRE TO MIDDLE LEFTa AND MID",
   "DLE RIGHT TO LOWER CENTREzhTO LOWER CENTREa TO MIDDLE RIGHTzlRIGHTa AND MIDDLE LEFT TO LOWER C",
   "ENTREzgTO LOWER CENTREa TO MIDDLE LEFTzzdLEFT TO LOWER RIGHTtRIGHT TO LOWER LEFTziOUBLE DASH H",
   "ORIZONTALkVERTICALsWNa AND HORIZONTALkLEFTeRIGHToHORIZONTALa WITH VERTICAL STROKEzgLEFTa AND H",
   "EAVY RIGHTuQUADRUPLE DASH HORIZONTALkVERTICALxRIGHTfTRIPLE DASH HORIZONTALkVERTICALuUPa AND HE",
   "AVY DOWNjORIZONTALkLEFTeRIGHTmVERTICALa AND HORIZONTALkLEFTeRIGHTyRIGHT DOWN HEAVY AND LEFT U",
   "P LIGHTzdHEAVY AND LEFT DOWN LIGHTkUP LIGHTiVERTICAL LIGHTzeLIGHT AND LEFT DOWN HEAVYkUP HEAVY",
   "iVERTICAL HEAVYzeUP HEAVY AND LEFT DOWN LIGHTzjUP DOUBLE AND HORIZONTAL SINGLErLEFT SINGLElRIG",
   "HT SINGLExHEAVY AND DOWN HORIZONTAL LIGHTvHORIZONTAL LIGHTqLEFT DOWN LIGHTkLIGHTkRIGHT DOWN LI",
   "GHTkLIGHTvLIGHT AND DOWN HORIZONTAL HEAVYvHORIZONTAL HEAVYqLEFT DOWN HEAVYkHEAVYkRIGHT DOWN HE",
   "AVYkHEAVYvSINGLE AND HORIZONTAL DOUBLErLEFT DOUBLElRIGHT DOUBLEzbVERTICAL DOUBLE AND HORIZONTA",
   "L SINGLErLEFT SINGLElRIGHT SINGLExHEAVY AND HORIZONTAL LIGHTqLEFT LIGHTkRIGHT LIGHTvLIGHT AN",
   "D HORIZONTAL HEAVYqLEFT HEAVYkRIGHT HEAVYvSINGLE AND HORIZONTAL DOUBLErLEFT DOUBLElRIGHT DOUBL",
   "EzrING GLOVEkYaS SYMBOLkPHcRAHMI DANDAeIGIT EIGHTfFIVEdOUReNINEeONEdSEVENeIXdTHREEeWOdZEROjOUB",
   "LE DANDAmLETTER AaAbIbUcBAbHAdCAbHAdDAbDAbHAdHAdEbGAbHAdHAcIaIcJAbHAdKAbHAdLAbLAdMAcNAbGAcNAcY",
   "AdOaLD TAMIL LLAbLAeNNNAeRRAdSHORT EbOrPAbHAdRAcSAbHAcSAdTAbHAcTAbHAeUaUcVAbOCALIC LaLcRaRkYAj",
   "NUMBER EIGHTaYgFIFTYdVEdORTYdUReJOINERgNINEaTYgONEa HUNDREDhTHOUSANDmSEVENaTYgIXaTYfTENcHIRTYe",
   "REEeWENTYeOkPUNCTUATION CRESCENT BARmDOTbUBLE DOTkLINEdOTUSrSIGN ANUSVARAiCANDRABINDUlJIHVAMUL",
   "IYAlOLD TAMIL VIRAMAqUPADHMANIYAlVISARGAmVIRAMAfOWEL SIGN AAbIbUcBHATTIPROLU AAoEbIaIcOaLD TAM",
   "IL SHORT EbOrUaUcVOCALIC LaLcRaRzILLE PATTERN BLANKfDOTS-1a2a3a4a5a6a7a8c8c7a8c8c6a7a8c8c7a8c8",
   "c5a6a7a8c8c7a8c8c6a7a8c8c7a8c8c4a5a6a7a8c8c7a8c8c6a7a8c8c7a8c8c5a6a7a8c8c7a8c8c6a7a8c8c7a8c8c3",
   "a4a5a6a7a8c8c7a8c8c6a7a8c8c7a8c8c5a6a7a8c8c7a8c8c6a7a8c8c7a8c8c4a5a6a7a8c8c7a8c8c6a7a8c8c7a8c8",
   "c5a6a7a8c8c7a8c8c6a7a8c8c7a8c8c2a3a4a5a6a7a8c8c7a8c8c6a7a8c8c7a8c8c5a6a7a8c8c7a8c8c6a7a8c8c7a8",
   "c8c4a5a6a7a8c8c7a8c8c6a7a8c8c7a8c8c5a6a7a8c8c7a8c8c6a7a8c8c7a8c8c3a4a5a6a7a8c8c7a8c8c6a7a8c8c7",
   "a8c8c5a6a7a8c8c7a8c8c6a7a8c8c7a8c8c4a5a6a7a8c8c7a8c8c6a7a8c8c7a8c8c5a6a7a8c8c7a8c8c6a7a8c8c7a8",
   "c8sNdEADbK PERMITTED HEREqST-FEEDINGlVEdICKcDE WITH VEILlGE AT NIGHTmEFCASEeSeOCCOLIfKEN BARdC",
   "IRCLE WITH NORTHWEST ARROWzcHEARTjOMcWN HEARTkSbUBBLE TEAeSfCKETeGaINESE END OF SECTIONoLETTE",
   "R AbBAcCAcDAcGAcHAcJAcKAcLAcMAbPAdNAbGAbKAdRAcYAbCAePAcRAcSAcTAcVAcYAjPALLAWAhVOWEL SIGN AEcEb",
   "IbObUtHID LETTER AbBAcDAcGAcHAcIbKAcLAcMAcNAbGAdPAcRAcSAcTAcUbWAcYAjVOWEL SIGN IbUqILDING CONS",
   "TRUCTIONtLLETa OPERATORlHORNa WITH SOUND WAVESvSEYEgRRITOfSa STOPfT IN SILHOUETTEoS IN SILHOUE",
   "TTErTTERaFLYiYTE ORDER MARKnZANTINE MUSICAL SYMBOL AGOGI ARGIbOTERIiGORGIbOTERIjMESIcTRIAgPOL",
   "I ARGIeGORGIpNATRICHISMAkTIKENOKYLISMAhMAjPESO EKFONITIKONkXO NEOlLIcODERMA ARCHAIONiNEOjSTROF",
   "OI SYNDESMOS NEOnTELOUS ICHIMATOSsSa DIPLIfNEOlTHEMAhRGONbSYNTHETONlKTIKO DIcGAcKEcNIcPAcVOUdZ",
   "OkCHAMILIbONgOREVMA ARCHAIONiNEOkROA KLITONgSPATHIgZYGOSlDASEIAfIARGONeSTOLI APLI MEGALIfIKRIk",
   "DIPLIfTHESEOSoESIS APLI DYO DODEKATArDIGRAMMOS EX DODEKATAvMONOGRAMMOS TESSERA DODEKATAzdTETAR",
   "TIMORIONmRIGRAMMOS OKTO DODEKATAvTIMORIONqFTOGGOS OUkGORGONa PARESTIGMENON ARISTERA ANOdKATOnD",
   "EXIAzRAMMA GGjPLIa ARCHAIONnYOdEKSTREPTONjLAFRONgNARXIS KAI FTHORA VOUuDOFONONiPEGERMAhTERON A",
   "RGOSYNTHETONnPARAKALESMArXO EKFONITIKONpFANEROSIS DIFONIASiMONOFONIASkTETRAFONIASuHTORA SKLIRO",
   "N CHROMA VASISzbTHORA ARCHAIONa DEYTEROU ICHOUxDIATONIKI DIcKEcNANAdI ANOdKATOhPAcZOmENARMONIO",
   "S ANTIFONIAuI YFESIS TETARTIMORIONwMALAKON CHROMA DIFONIASiMONOFONIASzNAOS ICHOSjENANOgSKLIRO",
   "N CHROMA SYNAFIgVASISmDIATONON DIzbGENIKI DIESISgYFESISmORGON ARCHAIONiNEO ANOdKATOiPARESTIGME",
   "NON ARISTERAiDEXIAvSYNTHETONlTHMIKON N APLOUNgDIPLOUNtRONTHISMATAmICHADINgMIDIARGONhFONONeTHOR",
   "AbONjSAKIA TELOUS ICHIMATOSvON ARCHAIONiNEOiKATAVA TROMIKONjSMAgHISTIhENTIMA ARCHAIONiNEO ANOd",
   "KATOeMESOjTAa ARCHAIONiNEO ANOdKATOeMESOrLASMAa ANOdKATOkONTEVMAa ALLOlRONISfUFISMAhRATIMA ALL",
   "OdRCHAIONiNEOeTAdOKOUFISMAiYPORROONnEMASTIhYLISMAhLEIMMA DYO CHRONONlENOS CHRONOUmIMISEOS CHRO",
   "NOUpTESSARON CHRONONpRION CHRONONsMOIeYGISMAhMARTYRIA ALLI DEYTEROS ICHOSoPROTOS ICHOSrDEYTERO",
   "S ICHOSoLEGETOS ICHOSnPLAGIOS ICHOSfTETARTOS ICHOSvROTOS ICHOShVARYS ICHOSqTETARTOS ICHOSfLEGE",
   "TOS ICHOSvRIFONIASgTOS ICHOSmVARYS ICHOStIKRON ISONlNANAeOLIGON ARCHAIONiNEOjMALONfXEIA DIPLIf",
   "EKFONITIKONlNEOeI ARCHAIONoYRANISMA ARCHAIONiNEOnPARAKALESMA ARCHAIONiNEOkLITIKIa ARCHAIONiNEO",
   "mICHONhELASTONa NEOkRISPOMENIjTASMAcTIbOKOUFISMAoIASMA ARCHAIONiNEOjSIFISTOLYGISMAhNa NEOfPARA",
   "KALESMAlSYNAGMAmLIbONgRAPISMAgEVMAfSAXIMATAhEISMAa NEOjIMANSIS ARSEOSa DISIMOUhTETRASIMOUjRISI",
   "MOUpTHESEOSa DISIMOUhTETRASIMOUjRISIMOUyTAVROSa APODEXIAoIGMAeRAGGISMATAlYNAGMA ARCHAIONiMET",
   "A STAVROUmNEOiEVMAfRMAaTIKIjTELEIAeSSERAfTRAPLIhHEMAa APLOUNhTISMOS ESOcXOmS KAI APOTHESoITAeI",
   "NAGMAgRIAbGORGONgPLIeOMIKOLYGISMAhN ALLOdRCHAIONiNEOfPARAKALESMAkSIFISTONjSYNAGMAoVAREIA DIPLI",
   "fEKFONITIKONlNEOeI ARCHAIONoTHYfXIRON KLASMAmYFEN ANOdKATOgSIS APLI DYO DODEKATArDIGRAMMOS E",
   "X DODEKATAvMONOGRAMMOS TESSERA DODEKATAzdTRIGRAMMOS OKTO DODEKATAvTIMORIONrPOKRISISa DIPLImRRO",
   "IfSILI"]

def nameTapeC : List String :=
  ["CACTUSeDA UNAfUCEUSgLENDARfL ME HANDkMERAa WITH FLASHoPINGfNaADIAN SYLLABICS AaAaIbYcIaVILIK B",
   "iNbTHAPASCAN MbSlYcBEAVER DENE LbRmIBLE-CREE YlLACKFOOT AbEbIbKAbEbIbOcNAbEbIbOcObSbWaAbEbIbOm",
   "CaAaAaIcRRIER CHAbEaEcIbObUdDEEbNE GEEfTAL ShIbLAbEaEcIbObUcZAbEaEcIbObUdEEcGAaAcEaEcHAbEaEcIb",
   "ObUcIbObUbWAbUdHaEEcIbWAbEaEcIbObUdIaNITIAL ZjJAbEaEcIbJAbEaEcIbObUcObUbWAdKHAbEaEcIbObUcKaAbE",
   "aEcIbObUdLAbEaEcHAbEaEcIbObUcIbObUcMAbEaEcIbObUcNAbEaEcGbIbObUcPaAbEaEcIbObUcRAbEaEcIbObUcSAbE",
   "aEcHaAbEaEcIbObUcIbObUcTHAbEaEcIbObUcLAbEaEcHAbEaEcIbObUcIbObUcSAbEaEcIbObUcTAbEaEcIbObSAbEaEc",
   "IbObUcUdWAbEaEcIbObUcYAbEaEcIbObUcZaAbEaEcIbObUjEbHI SIGNhIaIcOaOcWAaAcEbIaIcOaOeEaASTERN WiNc",
   "FaAaAaIdEbIaIbNAL ACUTEfBOTTOM HALF RINGqDOUBLE ACUTEfSHORT VERTICAL STROKESzcWN TACKjGRAVEfMI",
   "DDLE DOTkPLUSeRAISED DOTjIGHT HALF RINGnNGeSHORT HORIZONTAL STROKEwMALL RINGkTOP HALF RINGsOaO",
   "cULL STOPiWAAeGLOTTAL STOPmHKbYPHENgIaIbNcKaAaAaIcYcEbIaIcOaOcWaAaAbYcEbIaIcOaOeLaAaAaIcYcEbHa",
   "AaAcIaIcOaOdIaIcOaOcWAaAcEbIaIcOaOeMaAaAaIcYcEaDIAL LbRhHbIaIcOaOaSE-CREE SKmWAaAcEbIaIcOaOeNa",
   "-CREE THEbIaIkAaAaIcSKAPI CWAAeKWAAeMWAAeNWAAeS-WcCWAdKWaAdPWAdTWAdWAAeTWAAeWAAcOOdYWAAkTTILI",
   "K HAaAcIaIcOaOdSHRAaAcIaIcOaOmYcEbGaAaAaIcIcIaIcOaOdHbIaIcNGaAaAcIaIcOaOeOaObYcUNAVIK HaAaAcEb",
   "IaIcOaOgUT HiWAaAcEbIaIcOaOeOaJIBWAY CbKbMbNaWIaIcOaOePbSaHcTiNbObYcPaAaAaIcYcEbIaIcOaObYcWAaA",
   "cEbIaIcOaObYeQaAaAaIcIcIaIcOaOdRa-CREE REbWEjAaAaIcYcEbIaIcOaOcWAaAcEEcIaIcOaOeSaAaAaIcYaISI H",
   "AbEbIbOaOdJIbUaUdMbSHAbEbIbOaOcWEeTHcYIiEbHaAaAbYcEbIaIcOaObYcWAaAcEbIaIcOaObYeIaIcOaObUTH-SLA",
   "VEY KAHcEHcIHcOHoYcPAbEbIbOcWaAaAcEbIaIcOaOeTaAaAaIcYcEbHa-CREE THaAaAcEbIaIcOaOkAaAcEbIaIcOaO",
   "cWAaAcEdIaIcLHAbEbIbOaOcWEeOaOcTAbEbHaAaAcEbIbOaOcWEdIbOcWAaAcEbIaIcOaOdYAbEbIbOdWAaAbYcEaST-C",
   "REE CWAaAcEbIaIcOaOeFWAAeKWAaAcEbIaIcOaOeLaAaAcEbOaOcWAaAcEbIaIcOaOeMaWAaAcEbIaIcOaOeNWAaAcEdP",
   "aWAaAcEbIaIcOaOeRaAbEbIbObWAAeSHWAaAcEbIaIcOaOeWAaAcEbIaIcOaOeTHWAAeWAaAcEbIaIcOaOeWAaAcEbIaIc",
   "OaOdYaWAaAcEbIaIcOaOkERN WiIaIcOaOaDS-CREE FINAL THiTHaAbEbIbObWAaAcEEcIaIcOaOqYa-CREE COOdKOO",
   "dLOOdMOOdNOOdOOcPOOcWAAeSOOdTOOdWbYOOjAaAaIcYcEbIaIcOaObYcWAaAcEbIaIcOaOuCELa CHARACTERjTAGeLA",
   "TION XjRdDLEcYcNED FOODiOEdPITULUMgRICORNhR SLIDINGiD FILE BOXiINDEXa DIVIDERSqE OFdTa INSERTI",
   "ON POINTsIAN LETTER Aa2cBbC-18c39eDa2cEa2cGa2cIaIcKa2cLaDa2dMaBa2b3b4dNaDbGbNcObPa2cQbRaRcSaHa",
   "2cSbTa2dTaTa2dUaUaUa2b3bUeXmONbUSEL HORSElP STREAMERjENTRY SAWkRIAGE RETURNlOTeSTLEeTa FACEa W",
   "ITH TEARS OF JOYmWRY SMILEvUCASIAN ALBANIAN CITATION MARKnLETTER ALTcORdBETdCARbYNdHAaTcIbOYdY",
   "AWbYeDATcYANdZAYcYAYfEBbYNdFAMdGHEYSeIMdHEYTeINYAdRBcWNdJAYNdHOXeKARcIWdLANcYITeMAQdNOWCeONcPE",
   "NcIWReQARbYdRATdSEYKdHAaKcOYeTAScIWRdYAYeVEYZeXEYNeYAYDdOWDeZARLdHAbILzcTION SIGNlCHcEDI SIGNf",
   "LLAfLTIC CROSSkNT SIGNfRE LINE SYMBOLmLINE LOW LINEiOVERLINErRESeGJcHAINScRcKMA AU MARKhDANDAe",
   "IGIT EIGHTfFIVEdOUReNINEeONEdSEVENeIXdTHREEeWOdZEROjOUBLE DANDAmLETTER AAcBAAcHAAeCAAcHAAeDAAc",
   "DAAcHAAeHAAeEbGAAcHAAeHAAdIbJAAcHAAeKAAcHAAeLAAcHAAeMAAdNAAcGAAdNAAdYAAePAAcHAAeRAAdSAAdTAAcHA",
   "AdTAAcHAAfUbVAAdWAAdYAAcYAAlMAAYYAAhO MARKgQUESTION MARKnSECTION MARKlIGN ANUSVARAiCANDRABINDU",
   "lVISARGAmVIRAMAfOWEL SIGN AaAbIbUcEaIcIaIcOaIcUaUrM CONSONANT SIGN FINAL HbMbNGiLAcRAcWAcYArDI",
   "GIT EIGHTfFIVEdOUReNINEeONEdSEVENeIXdTHREEeWOdZEROkLETTER AaIcBAbBAcHAdCHAbHAeDAbDAcHAdEbFINA",
   "L CHcGbKbLbNaGcPbRbSScTbYhGAbHAdHAcIbJAbHAdKAbHAdLAcMAbUEdNAbGAbUEdHAbJAcUEdUEdObPAbHAcPAdRAcS",
   "AbSAdTAbHAdUbVAcYAjPUNCTUATION DANDAeOUBLE DANDAmSPIRALgTRIPLE DANDAyVOWEL SIGN AAbIbUcEIcIaIc",
   "OaEcUaEpRACTER TABULATIONa SETdWITH JUSTIFICATIONzdIEjT WITH DOWNWARDS TRENDpUPWARDS TRENDa AN",
   "D YEN SIGNzkECK MARKfER BOARDa FILLpERING MEGAPHONEoSE WEDGEjQUERED FLAGlROKEE LETTER AbDAbEbI",
   "bLAcObUbVcEbGAbEbIbObUbVcHAbEbIbNAcObUbVcIbKAcLAbEbIbObUbVcMAbEbIbObUbVcNAaHcEbIbObUbVcObQUAbE",
   "bIbObUbVdSaAbEbIbObUbVcTAbEbIbLAbEbIbObUbVcSAbEbIbObUbVdUbVbWAbEbIbObUbVcYAbEbIbObUbVjSMALL LE",
   "TTER AbDAbEbIbLAcObUbVcEbGAbEbIbObUbVcHAbEbIbNAcObUbVcIbKAcLAbEbIbObUbVcMAbEbIbObUbVcNAaHcEbIb",
   "ObUbVcObQUAbEbIbObUbVdSaAbEbIbObUbVcTAbEbIbLAbEbIbObUbVcSAbEbIbObUbVdUbVbWAbEbIbObUbVcYAbEbIbO",
   "bUbVuRIESdY BLOSSOMlSTNUTgI RHOeCKENeLDaREN CROSSINGoPMUNKfRONeOCOLATE BARkPSTICKShRASMIAN LET",
   "TER ALEPHeYINeBETHeCURLED WAWkDALETHgGIMELfHEaTHeKAPHeLAMEDHgMEMdNUNdPEcRESHeSAMEKHfHINdMALL A",
   "LEPHlTAWdWAWdYODHeZAYINmNUMBER FOUReONEa HUNDREDlTENcHREEeWENTYeOtRISTMAS TREEmURCHfINEMAeRCL",
   "E DIVIDED BY HORIZONTAL BAR AND TOP HALF DIVIDED BY VERTICAL BARzzmWITH ALL BUT UPPER LEFT QUA",
   "DRANT BLACKziHORIZONTAL BARoLEFT HALF BLACKoOWER HALF BLACKqRIGHT HALF BLACKqSMALL CIRCLE TO T",
   "HE RIGHTyUPERIMPOSED XoTWO HORIZONTAL STROKES TO THE RIGHTzkUPPER HALF BLACKkRIGHT QUADRANT BL",
   "ACKzbVERTICAL FILLtD ANTICLOCKWISE ARROWg-ROTATED DIVISION SIGNzjSTERISK OPERATORrBOLD XfULLET",
   "gC WITH OVERLAID BACKSLASHyCbDbROSS FORMEEa WITH FOUR DOTSjTWO DOTSuPOMMEEhING LANESoDASHdIGI",
   "T EIGHTfFIVEdOUReNINEeONEdSEVENeIXdTHREEeWOdZEROiVISION SIGNdLASHnOLLAR SIGN WITH OVERLAID BAC",
   "KSLASHziT OPERATORmEQUALSgGREATER-THANmHANGUL CHIEUCHa AiIEUCa AhHIEUHa AhIEUNGa AbUhKHIEUKH",
   "a AiIYEOKa AiMIEUMa AhNIEUNa AhPHIEUPHa AiIEUPa AhRIEULa AhSIOSa AgTHIEUTHa AiIKEUTa AoEAVY WH",
   "ITE RIGHTWARDS ARROWzcORIZONTAL BAR WITH NOTCHyUMAN FIGUREmIDEOGRAPH ACCEPTfDVANTAGEiLLIANCEhT",
   "TENTIONjCENTREfONGRATULATIONmPYcRRECThEARTHeIGHTeNTERPRISEjXCELLENTjFEMALEfINANCIALhREcVEdOURe",
   "HAVEdIGHeITEMeKINDERGARTENlOTOeLABOReEFTdOWdMALEdEDICINEgTALeOONeNAMEdIGHTdNEeONEdPRINTfQUESTI",
   "ONiRELIGIONgSOURCEfTdIGHTfSCHOOLfECRETeVENeIXcOCIETYgPECIALgTOCKdUDYeUITABLEgNbPERVISEjTENcHRE",
   "EeWOdWATEReOODnNFORMATION SOURCErTALIC LATIN CAPITAL LETTER CbRzeKATAKANA AbEbHAbEbIbObUcIbKAb",
   "EbIbObUcMAbEbIbObUcNAbEbIbObUcObRAbEbIbObUcSAbEbIbObUcTAbEbIbObUcUbWAbEbIbOcYAbObUkOREAN CHARA",
   "CTER CHAMKOgJUEUIwLATIN CAPITAL LETTER AbBbCbDbEbFbGbHbIbJbKbLbMbNbObPbQbRbSbTbUbVbWbXbYbZqSMA",
   "LL LETTER AbBbCbDbEbFbGbHbIbJbKbLbMbNbObPbQbRbSbTbUbVbWbXbYbZtESS-THANjMINUSeULTIPLICATION SIG",
   "N WITH CIRCUMFLEX ACCENTzrNUMBER EIGHTEENdY ON BLACK SQUAREvLEVENgFIFTEENdYa ON BLACK SQUAREuO",
   "RTYa EIGHTfFIVEdOUReNINEeON BLACK SQUAREnEdSEVENeIXdTHREEeWOhURTEENiNINETEENiSEVENTEENdY ON BL",
   "ACK SQUAREwIXTEENdY ON BLACK SQUAREvTENa ON BLACK SQUAREsHIRTEENdYa EIGHTfFIVEdOUReNINEeON BLA",
   "CK SQUAREnEdSEVENeIXdTHREEeWOjWELVEdNTYa EIGHTfFIVEdOUReNINEeON BLACK SQUAREnEdSEVENeIXdTHREEe",
   "WOrOPEN CENTRE EIGHT POINTED STARzfPARALLELhERPENDICULARmLUSdOSTAL MARKlREVERSE SOLIDUSoING OP",
   "ERATORnSQUAREgTIMESeRIANGLEa DOWNnVERTICAL BARmWHITE BULLETgSTARjZcXbZERO WITH SLASHtULATION F",
   "UNCTIONpMFLEX ACCENTmS TENTjTYSCAPEa AT DUSKqJK COMPATIBILITY IDEOGRAPH-2F800b1b2b3b4b5b6b7b8b",
   "9bAbBbCbDbEbFc10b1b2b3b4b5b6b7b8b9bAbBbCbDbEbFc20b1b2b3b4b5b6b7b8b9bAbBbCbDbEbFc30b1b2b3b4b5b6",
   "b7b8b9bAbBbCbDbEbFc40b1b2b3b4b5b6b7b8b9bAbBbCbDbEbFc50b1b2b3b4b5b6b7b8b9bAbBbCbDbEbFc60b1b2b3b",
   "4b5b6b7b8b9bAbBbCbDbEbFc70b1b2b3b4b5b6b7b8b9bAbBbCbDbEbFc80b1b2b3b4b5b6b7b8b9bAbBbCbDbEbFc90b1",
   "b2b3b4b5b6b7b8b9bAbBbCbDbEbFcA0b1b2b3b4b5b6b7b8b9bAbBbCbDbEbFcB0b1b2b3b4b5b6b7b8b9bAbBbCbDbEbF",
   "cC0b1b2b3b4b5b6b7b8b9bAbBbCbDbEbFcD0b1b2b3b4b5b6b7b8b9bAbBbCbDbEbFcE0b1b2b3b4b5b6b7b8b9bAbBbCb",
   "DbEbFcF0b1b2b3b4b5b6b7b8b9bAbBbCbDbEbFd900b1b2b3b4b5b6b7b8b9bAbBbCbDbEbFc10b1b2b3b4b5b6b7b8b9b",
   "AbBbCbDbEbFc20b1b2b3b4b5b6b7b8b9bAbBbCbDbEbFc30b1b2b3b4b5b6b7b8b9bAbBbCbDbEbFc40b1b2b3b4b5b6b7",
   "b8b9bAbBbCbDbEbFc50b1b2b3b4b5b6b7b8b9bAbBbCbDbEbFc60b1b2b3b4b5b6b7b8b9bAbBbCbDbEbFc70b1b2b3b4b",
   "5b6b7b8b9bAbBbCbDbEbFc80b1b2b3b4b5b6b7b8b9bAbBbCbDbEbFc90b1b2b3b4b5b6b7b8b9bAbBbCbDbEbFcA0b1b2",
   "b3b4b5b6b7b8b9bAbBbCbDbEbFcB0b1b2b3b4b5b6b7b8b9bAbBbCbDbEbFcC0b1b2b3b4b5b6b7b8b9bAbBbCbDbEbFcD",
   "0b1b2b3b4b5b6b7b8b9bAbBbCbDbEbFcE0b1b2b3b4b5b6b7b8b9bAbBbCbDbEbFcF0b1b2b3b4b5b6b7b8b9bAbBbCbDb",
   "EbFdA00b1b2b3b4b5b6b7b8b9bAbBbCbDbEbFc10b1b2b3b4b5b6b7b8b9bAbBbCbDfF900b1b2b3b4b5b6b7b8b9bAbBb",
   "CbDbEbFc10b1b2b3b4b5b6b7b8b9bAbBbCbDbEbFc20b1b2b3b4b5b6b7b8b9bAbBbCbDbEbFc30b1b2b3b4b5b6b7b8b9",
   "bAbBbCbDbEbFc40b1b2b3b4b5b6b7b8b9bAbBbCbDbEbFc50b1b2b3b4b5b6b7b8b9bAbBbCbDbEbFc60b1b2b3b4b5b6b",
   "7b8b9bAbBbCbDbEbFc70b1b2b3b4b5b6b7b8b9bAbBbCbDbEbFc80b1b2b3b4b5b6b7b8b9bAbBbCbDbEbFc90b1b2b3b4",
   "b5b6b7b8b9bAbBbCbDbEbFcA0b1b2b3b4b5b6b7b8b9bAbBbCbDbEbFcB0b1b2b3b4b5b6b7b8b9bAbBbCbDbEbFcC0b1b",
   "2b3b4b5b6b7b8b9bAbBbCbDbEbFcD0b1b2b3b4b5b6b7b8b9bAbBbCbDbEbFcE0b1b2b3b4b5b6b7b8b9bAbBbCbDbEbFc",
   "F0b1b2b3b4b5b6b7b8b9bAbBbCbDbEbFdA00b1b2b3b4b5b6b7b8b9bAbBbCbDbEbFc10b1b2b3b4b5b6b7b8b9bAbBbCb",
   "DbEbFc20b1b2b3b4b5b6b7b8b9bAbBbCbDbEbFc30b1b2b3b4b5b6b7b8b9bAbBbCbDbEbFc40b1b2b3b4b5b6b7b8b9bA",
   "bBbCbDbEbFc50b1b2b3b4b5b6b7b8b9bAbBbCbDbEbFc60b1b2b3b4b5b6b7b8b9bAbBbCbDc70b1b2b3b4b5b6b7b8b9b",
   "AbBbCbDbEbFc80b1b2b3b4b5b6b7b8b9bAbBbCbDbEbFc90b1b2b3b4b5b6b7b8b9bAbBbCbDbEbFcA0b1b2b3b4b5b6b7",
   "b8b9bAbBbCbDbEbFcB0b1b2b3b4b5b6b7b8b9bAbBbCbDbEbFcC0b1b2b3b4b5b6b7b8b9bAbBbCbDbEbFcD0b1b2b3b4b",
   "5b6b7b8b9zdRADICAL BAMBOOfLUEdOLT OF CLOTHlNEcXcRUSH ONEdTWOjC-SIMPLIFIED BIRDeCARTeDRAGONgEAT",
   "cVENeFISHdLYcROGeGATEdOLDeHORSEfLEAFdONGeSALTdEEcHELLeILKdPEECHgTANNED LEATHERnOOTHeURTLEgWIND",
   "qHOKEeITYcVILIANhLIFFdOTHESgOWdDEATHeIVINATIONjOGdEAT ONEdTHREEeWOgWEcYEdFIREdOOTeGHOSTeRASS O",
   "NEdTHREEeWOjHANDdEADbRT ONEdTWOiORNeJ-SIMPLIFIED DRAGONgEVENeTOOTHeURTLEsADEeKNIFE ONEdTWOjLAM",
   "E FOUReONEdTHREEeWOhONG ONEdTWOiMEATcSHdOONcRTAReTHEReUND ONEdTWOjNET FOUReONEdTHREEeWOhOLDdPA",
   "W ONEdTWOgERSONgRAINcMbPcEPEATgSEALcCOND ONEdTHREEeWOjHEEPeILKcMPLIFIED HALF TREE TRUNKoORNeWA",
   "LKdHEATfYELLOWqMALL ONEdTWOiNAKEdOUT ONEdTWOiPIRIT ONEdTWOjUNdTABLEeHREADfIGEReURTLEgWALK ONEd",
   "TWOgTER ONEdTWOiEST ONEdTWOqSTROKE BXGdDbHaGbPaWGdXWGdZaGbTbWaGcZaPbZaGfNbPaDbGbZcQbSaGbPbTbWa",
   "GbZcZaWGcZdTaNcWGcXGmLAMSHELL MOBILE PHONEtPPER BOARDiING HANDS SIGNqSSICAL BUILDINGqEAR SCREE",
   "N SYMBOLrINKING BEER MUGSjGLASSESnPBOARDhOCK FACE EIGHT OCLOCKh-THIRTYlLEVEN OCLOCKh-THIRTYnFI",
   "VE OCLOCKh-THIRTYkOUR OCLOCKh-THIRTYlNINE OCLOCKh-THIRTYlONE OCLOCKh-THIRTYkSEVEN OCLOCKh-THIR",
   "TYlIX OCLOCKh-THIRTYkTEN OCLOCKh-THIRTYjHREE OCLOCKh-THIRTYlWELVE OCLOCKh-THIRTYlO OCLOCKh-THI",
   "RTYqWISE CLOSED CIRCLE ARROWsONTOUR INTEGRALqDOWNWARDS AND UPWARDS OPEN CIRCLE ARROWSzpGAPPE",
   "D CIRCLE ARROWtINTEGRALiOPEN CIRCLE ARROWrRIGHT AND LEFT SEMICIRCLE ARROWSzcWARDS AND LEFTWARD",
   "S OPEN CIRCLE ARROWSa WITH CIRCLED ONE OVERLAYzzsTOP SEMICIRCLE ARROWtRIANGLE-HEADED OPEN CIRC",
   "LE ARROWzpSE UPdD BOOKeINTERSECTION WITH SERIFSyLOCK WITH KEYnMAILBOX WITH LOWERED FLAGmRAISE",
   "D FLAGySUBSETa OR EQUAL TOqPERSETa OR EQUAL TOuUMBRELLAhNION WITH SERIFSa AND SMASH PRODUCTzoU",
   "Da WITH LIGHTNINGjRAINeSNOWeTORNADOpWN FACEjOATcCKROACHfTAIL GLASSlONUTfFFINeINcLLISION SYMBOL",
   "nONa EQUALSgSIGNiMBINING ACUTE ACCENTa BELOWmTONE MARKk-GRAVE-ACUTElMACRONlLMOST EQUAL TO ABOV",
   "EfBELOWuNNUITY SYMBOLmTICLOCKWISE ARROW ABOVElRING OVERLAYzSTERISK ABOVEfBELOWoBINDU BELOWkREV",
   "Ea BELOWg-MACRONkIDGE ABOVEfBELOWmCANDRABINDUjRONa BELOWkEDILLAgIRCUMFLEX ACCENTa BELOWwLOCKWI",
   "SE ARROW ABOVElRING OVERLAYvOMMA ABOVEa RIGHTlBELOWjNJOINING MACRONa BELOWwYRILLIC DASIA PNEUM",
   "ATAoHUNDRED MILLIONS SIGNnTHOUSANDS SIGNwKAVYKAgLETTER AbBEbIG YUShCHEdDEbJERVfEFbLbMbNbRbSa-T",
   "EfFITAeGHEdHAaRD SIGNjIaEbOTIFIED AbBIG YUShEkKAcLITTLE YUSkMONOGRAPH UKmOaMEGAfPEcSHAbCHAeOF",
   "T SIGNjTEbSEdUaKRAINIAN IEmVEcYATcERUdIbUcZEbHEkMILLIONS SIGNnPALATALIZATIONmYEROKgOKRYTIEhSIL",
   "I PNEUMATAoTEN MILLIONS SIGNqHOUSAND MILLIONS SIGNvITLOa LEFT HALFjRIGHT HALFqVZMEToDELETION M",
   "ARKlVANAGARI DIGIT EIGHTfFIVEdOUReNINEeONEdSEVENeIXdTHREEeWOdZEROkLETTER AbKAcNAcPAcRAcUbVIjSI",
   "GN AVAGRAHAxIAERESISa BELOWg-RINGnOT ABOVEa LEFTeRIGHTlBELOWa LEFTlTED ACUTE ACCENTmGRAVE ACCE",
   "NTrUBLE ACUTE ACCENTmBREVEa BELOWlCIRCUMFLEX ABOVEqGRAVE ACCENTmINVERTED BREVEa BELOWuLOW LINE",
   "iMACRONa BELOWmOPEN MARK BELOWoVERLINEiPARENTHESES ABOVEqLUS SIGN ABOVEfBELOWpRIGHTWARDS ARRO",
   "W BELOWuNG BELOWkTILDEa LEFT HALFjRIGHT HALFqVERTICAL LINE ABOVEfBELOWkSTROKE OVERLAYyD CIRCUM",
   "FLEX ACCENTxWN TACK BELOWlWARDS ARROWpENCLOSING CIRCLEa BACKSLASHqDIAMONDhKEYCAPgSCREENfQUAREg",
   "UPWARD POINTING TRIANGLEziQUALS SIGN BELOWrFERMATAgOUR DOTS ABOVEpGLAGOLITIC LETTER AZUdBIG YU",
   "SgUKYeCHRIVIgDJERVIfOBROfFITAdRITUfGLAGOLIhHERUeIaNITIAL IZHElOTATED BIG YUShSMALL YUSqZHEeKAK",
   "OeLJUDIJEhMYSLITEhNASHIfONUdPOKOJIgRITSIfSHAbTAdLOVOeMALL YUSjTSIcVRIDOgUKUdVEDEeYATIdERIbUcST",
   "UeObUcZEMLJAfHIVETEyRANTHA DIGIT FIVEdOUReONEdSIXdTHREEeWOdZEROkLETTER AbKAcNAcPAcVIoPHEME JOI",
   "NERmVE ACCENTa BELOWmTONE MARKk-ACUTE-GRAVElMACRONkEEK DIALYTIKA TONOSpKORONIShMUSICAL PENTASE",
   "MEjTETRASEMEiRISEMEpPERISPOMENIlYPOGEGRAMMENItHOMOTHETIC ABOVEoOK ABOVEiRNeINFINITYgVERTED BRE",
   "VEa BELOWjIDGE BELOWmDOUBLE ARCH ABOVEfBELOWzS BELOWiKATAKANA-HIRAGANA SEMI-VOICED SOUND MARKw",
   "VOICED SOUND MARKziVYKA ABOVE LEFTeRIGHTsLATIN LETTER SMALL CAPITAL GbLbMbNbRwSMALL LETTER A",
   "a WITH DIAERESISpEbLPHAeObVcBaETAeCa CEDILLAjDbEaSHcTHdFaLATTENED OPEN A ABOVEwGbHbIaNSULAR Db",
   "GbRbTjKbLa WITH DOUBLE MIDDLE TILDEzONG SgMbNbOa WITH DIAERESISjLIGHT CENTRALIZATION STROKEzjP",
   "bRa BELOWfROTUNDAjSaCHWAfTaURNED W BELOWoUa WITH DIAERESISjLIGHT CENTRALIZATION STROKEzjVbWa B",
   "ELOWhXbZtEFT ANGLE ABOVEfBELOWkRROW ABOVEfBELOWgHEAD ABOVEfBELOWpHALF RING ABOVEfBELOWnRPOON A",
   "BOVEnPARENTHESIS ABOVE LEFTkBELOW LEFTwRIGHT ARROW ABOVEfBELOWrTACK BELOWlWARDS ARROW OVERLAYn",
   "HARPOON WITH BARB DOWNWARDSzlIGATURE LEFT HALFa BELOWpRIGHT HALFa BELOWwHT CENTRALIZATION STRO",
   "KE BELOWzhONG DOUBLE SOLIDUS OVERLAYwSOLIDUS OVERLAYoTROKE OVERLAYoVERTICAL LINE OVERLAYyW LIN",
   "EiMACRONa BELOWfLEFT HALFa BELOWpRIGHT HALFa BELOWr-ACUTEfBREVEfGRAVElINUS SIGN BELOWqNOT TILD",
   "E ABOVEoUMBER SIGN ABOVErOGONEKa ABOVElLD PERMIC LETTER ANcDOIdNENOEfSIIdZATAvPEN MARK BELOWoV",
   "ERLINEiPALATALIZED HOOK BELOWuRENTHESES ABOVEfBELOWfOVERLAYsLUS SIGN ABOVEfBELOWpRETROFLEX HOO",
   "K BELOWsVERSE SOLIDUS OVERLAYqD COMMA ABOVEtIGHT ARROW ABOVEfBELOWgHEAD ABOVEeND DOWN ARROWHEA",
   "D BELOWuUP ARROWHEAD BELOWwBELOWpHALF RING ABOVEfBELOWnRPOON ABOVEnPARENTHESIS ABOVE RIGHTlBEL",
   "OW RIGHTxTACK BELOWlWARDS HARPOON WITH BARB DOWNWARDSzlNG ABOVEfBELOWfOVERLAYmSEAGULL BELOWmHO",
   "RT SOLIDUS OVERLAYoTROKE OVERLAYoVERTICAL LINE OVERLAYzbNAKE BELOWkQUARE BELOWeRACKETS ABOVEuT",
   "RONG CENTRALIZATION STROKE BELOWziUSPENSION MARKpTHREE DOTS ABOVEpILDEa BELOWfLEFT HALF BELOWp",
   "OVERLAYhRIGHT HALF BELOWvRIPLE ACUTE ACCENTmDOTdUNDERDOToURNED COMMA ABOVEsUP TACK ABOVEfBELOW",
   "lWARDS ARROW BELOWsR ABOVEhS ABOVEiVERTICAL LINE ABOVEfBELOWkTILDEoWIDE BRIDGE ABOVEmINVERTE",
   "D BRIDGE BELOWyGGLY LINE BELOWrX ABOVEfBELOWg-X BELOWjZIGZAG ABOVEfBELOWtETcMAbERCIAL ATcMINU",
   "S SIGNsPASSdLEMENTgOSITION SYMBOLoRESSIONjNFETTI BALLjOUNDED FACElUSED FACEkGRUENT WITH DOT AB",
   "OVEvICAL TAPERkJUNCTIONiSTRUCTION SIGNeWORKERqTAINS AS MEMBERgNORMAL SUBGROUPa OR EQUAL TOzfWI",
   "TH LONG HORIZONTAL STROKEwOVERBARhVERTICAL BAR AT END OF HORIZONTAL STROKEzzINUOUS UNDERLINE S",
   "YMBOLxOUR INTEGRALmROL KNOBSfSEQUENCE INTRODUCERyVENIENCE STOREpOKED RICEhIEbNGfPTIC CAPITAL L",
   "ETTER AKHMIMIC KHEImLFAeBOHAIRIC KHEInCROSSED SHEIkYPTOGRAMMIC EIEdGANGIAgNIcSHEIsDALDAeEIcIAL",
   "ECT-P ALEFeHORIeKAPAeNImEIEdFEIcIcGAMMAdNGIAgHATEdORIeIAUDAfKAPAdHEIcIcSIdL-SHAPED HAkAULAfMIc",
   "NIcOaLD COPTIC AINdDJAdESHdGANGIAgHAaTcEIcORIeOOUdSHEIcIMAmNUBIAN NGIcYIdSHIMAfWAUnOUdPIbSIdRO",
   "cSAMPIeHEIcIMAeIMAdOUdTAUcHETHEgUAcVIDAeZATAsOMBINING NI ABOVEiSPIRITUS ASPERfLENISyEPACT DIGI",
   "T EIGHTfFIVEdOUReNINEeONEdSEVENeIXdTHREEeWOjNUMBER EIGHT HUNDREDiYgFIFTYdVE HUNDREDlORTYdUR HU",
   "NDREDmNINE HUNDREDiTYgONE HUNDREDlSEVEN HUNDREDiTYgIX HUNDREDiTYfTENcHIRTYeREE HUNDREDmWENTYe",
   "O HUNDREDsTHOUSANDS MARKuFRACTION ONE HALFqULL STOPjMORPHOLOGICAL DIVIDERvOLD NUBIAN DIRECT QU",
   "ESTION MARKuFULL STOPjINDIRECT QUESTION MARKwVERSE DIVIDERySMALL LETTER AKHMIMIC KHEImLFAeBOHA",
   "IRIC KHEInCROSSED SHEIkYPTOGRAMMIC EIEdGANGIAgNIcSHEIsDALDAeEIcIALECT-P ALEFeHORIeKAPAeNImEIEd",
   "FEIcIcGAMMAdNGIAgHATEdORIeIAUDAfKAPAdHEIcIcSIdL-SHAPED HAkAULAfMIcNIcOaLD COPTIC AINdDJAdESHdG",
   "ANGIAgHAaTcEIcORIeOOUdSHEIcIMAmNUBIAN NGIcYIdSHIMAfWAUnOUdPIbSIdROcSAMPIeHEIcIMAeIMAdOUdTAUcHE",
   "THEgUAcVIDAeZATAqYMBOL KAIcHI ROgMI ROfPI ROfSHIMA SIMAjTAUROShTAU ROrYLEFT SYMBOLlRIGHT SIGNm",
   "RALcNISH VERSE DIVIDERsRESPONDS TOmUCH AND LAMPlNTERBOREeSINKgING ROD TENS DIGIT EIGHTfFIVEdOU",
   "ReNINEeONEdSEVENeIXdTHREEeWOoUNIT DIGIT EIGHTfFIVEdOUReNINEeONEdSEVENeIXdTHREEeWOyPLE WITH HEA",
   "RTpWa FACEhRaABcEDIT CARDiSCENT MOONlICKETa BAT AND BALLsOCODILEgISSANTgSS MARKeOF JERUSALEMjL",
   "ORRAINElPATTY WITH LEFT CROSSBARnRIGHT CROSSBARyOMMEEa WITH HALF-CIRCLE BELOWzfED FLAGSfNEGATI",
   "VE SQUARED LATIN CAPITAL LETTER PzoSWORDSjING LANESlWNdUTCHdZEIRO SIGNlYING CAT FACEiFACEiSTA",
   "L BALLlSIcUBE ROOThCUMBERgNEIFORM NUMERIC SIGN EIGHT ASHdDISHeGESH2fSHAR2fUa VARIANT FORMoVARI",
   "ANT FORM USSUa3xLAMITE FIFTYeORTYfONE THIRDjTWO THIRDSsFIVE ASHa TENUiBAN2a VARIANT FORMqURUeD",
   "ISHeGESH2bUfSHAR2bUeIXTHS DISHlUa VARIANT FORMsOUR ASHa TENUiBAN2a VARIANT FORMqURUeDISHeGESH2",
   "bUfSHAR2bUfUa VARIANT FORMoVARIANT FORM LIMMUa AbBc4yNIGIDAESHdMINhNE ASHdDISHeGESH2fSHAR2fU",
   "a VARIANT FORMoVARIANT FORM ILIMMUa Ac3b4zOLD ASSYRIAN ONE QUARTERhSIXTHvNE BAN2dURUeEIGHTH AS",
   "HjSHE3fGESH2bUfHALF GURiQUARTER ASHdGURlSHARUfTHIRD DISHeVARIANT FORM AySEVEN ASHdDISHeGESH2fS",
   "HAR2fUa VARIANT FORMoVARIANT FORM IMIN AbBc3xHAR2 TIMES GAL PLUS DISHeMINxIX ASHa TENUiDISHeGE",
   "SH2fSHAR2fUa VARIANT FORMoVARIANT FORM ASH9vTHREE ASHa TENUiBAN2dURUa VARIANT FORMrDISHeGESH2b",
   "UfSHAR2a VARIANT FORMoUa VARIANT FORMsVARIANT FORM ESH16c21xWO ASHa TENUiBAN2dURUeESHE3fGESH2b",
   "UfSHAR2bUfTHIRDS DISHeVARIANT FORM AznPUNCTUATION SIGN DIAGONAL COLONfQUADCOLONjTRICOLONrOLD A",
   "SSYRIAN WORD DIVIDERzVERTICAL COLONzgSIGN Aa TIMES AbBADdGAN2 TENUjHAcIGIdLAGAR GUNUkMUSHeSAGk",
   "2bBa GUNUeTIMES ASH2eDUN3 GUNUjGALbN2 TENUjHAcIGI GUNUhMINeLAGABfNUNa TENUiSHESHdU2eU PLUS U P",
   "LUS Uw2a TIMES AbBALAGfGAN2 TENUjME PLUS ENkSHA3eTAK4nDa TIMES ESH2mKa TIMES ERIN2fSHITA PLU",
   "S GISHxLa TIMES ALcDIM2eGISHeHAcKAD3dIcSHEdUSHkANcEPHeMARa TIMES KUGdSHEnNa OVER ANhPLUS NAG",
   "A OPPOSING AN PLUS NAGAvSQUAREDrTHREE TIMESmSHEePINdRADa TIMES KURmKABeSAL2dHa KABA TENUjOVE",
   "R ASH OVER ASHa CROSSING ASH OVER ASH OVER ASHzoTUG2 OVER TUG2 TUG2 OVER TUG2 PAPzrZIDA TENUk2",
   "bGABgBAaDa TIMES DISH TENUrG3cHAR2a TIMES AB2dNIcZAnLa OVER BALjAGdRaA2eIa TIMES AbGARdIGI GUN",
   "UqUa CROSSING BUlOVER BU ABcTIMES NA2jUNlLUGa OVER BULUGoRa2eDAa TIMES TAK4lGa KISIM5 TIME",
   "S A PLUS MASHkMAReBALAGeIcGAa PLUS MASHlIaR2dUDdHAcIRa PLUS LUkKAKdLAbUa PLUS MASH2lMdNEcPAP P",
   "LUS PAPmSIcTAK4eU2 PLUS GIR2eMASHlSHqTIMES KURk3cMbRaA3b4eIaBbMa TIMES IGIdSHEdU U Um2a TIME",
   "S UDlNa KASKAL U GUNU DISHuSHa PLUS SHUmUa GUNUeOVER DUhSHESHIGiBa TIMES ESH2eSHEk2cGa TIMES A",
   "NSHEeSHa AT LEFTlDINcUNdERIN2fGAbIaR2 GUNUhSHeHAbIcIGI GUNUiKASKALfURbSHU2a PLUS KASKALsLAK-02",
   "0fMa TIMES KURmUH PLUS GISHnMASHdEScIcNIcPIcSHEcI GUNUoUDdHbNa3a GUNUa GUNUl4cR2eEa OVER E NU",
   "N OVER NUNtTIMES PAPk2a TIMES A PLUS HA PLUS DArGARdKURdMIcPAPdSALcHEdUjDINdGIRdLbNa CROSSIN",
   "G ENlOPPOSING ENlSQUAREDhTIMES GAN2a TENUjMEkRENcIN2a XgSH2a CROSSING ESH2rZENa SHESHIG TIME",
   "S ASHdHIcIGI GUNUiLAaLdMEaSdSUqTIMES Aa PLUS LALa TIMES LALtNcBADdDUN3 GUNUa GUNUoGUDdHAa GUNU",
   "hIGI GUNUiKASKALa SQUAREDnU3dLAaL TIMES LALmIbUcSHEcUcU2bDnGAa GUNUf2a OVER GA2iTIMES A PLUS D",
   "A PLUS HAkHAcIGIjB2 TENU PLUS TABqNa PLUS KAK PLUS ArSHa2a PLUS GALnBADbHAR2eR PLUS RAkURa PLU",
   "S RAlDAbIaM GUNUeTIMES SHEmUBbG TIMES IGI GUNUiKASKALqELa PLUS LAjNa TIMES GAN2 TENUrRENeGAaN",
   "2 TENUhRa PLUS DIcNEkIa4a PLUS AiR2 PLUS SUmHA PLUS AbLU PLUS ESH2sLa PLUS LAkI PLUS LIjUB2eIG",
   "I GUNUhSH PLUS HU PLUS ASHuKAKbSKALfIDa PLUS LALlU3 PLUS ANjSHU2 PLUS KASKALsLAaMa TIMES KURmU",
   "HdME PLUS ENjIbUSHeNEa PLUS E2cGIjUNa OVER NUNmPAcSALbRcHEa PLUS TURkIDbMdUMdTAK4eUaDa PLUS DU",
   "kZIZ2mBAa CROSSING GABAnROTATED NINETY DEGREESzDa OVER GAD GAR OVER GARxLa GAD OVER GAD GAR OV",
   "ER GARzbAMdMbNa2a CROSSING GAN2nOVER GAN2jTENUhRa3cSHANfE22cSHTINa TIMES KURdUoIa CROSSING GIl",
   "TIMES EbUi4a CROSSING GI4mOVER GI4kDIMdGbR2a GUNUg3a TIMES A PLUS IGIkGAN2 TENUjIGIdLU PLUS IG",
   "IlPAlSALcHa CROSSING GISHnTENUdIMES BADdGISH CROSSING GISHsTAK4oUa CROSSING GUm2a GUNUeTIMES I",
   "GI GUNUiKAKa TIMES IGI GUNUsNUNdSAL PLUS TUG2vDa OVER GUD LUGALoPLUS GISH TIMES TAK4uTIMES A P",
   "LUS KURkKURlLbMa TIMES SHElRa7bUNbSHgHAa GUNUeTENUa GUNUkLcIa TIMES ASHa OVER HI TIMES ASHs2eB",
   "ADdDISHeGADdKINdNUNdSHEdUjUaB2a TIMES ANcHALdKASKALgLISHeUDlL2cSHeIa AcBbDIMa OVER IDIM BURdSQ",
   "UAREDvGaIa DIBdGUNUeOVER IGI SHIR OVER SHIR UD OVER UDzjRIfLa TIMES GAN2 TENUq2cMa CROSSING IM",
   "lOPPOSING IMlSQUAREDhTIMES TAK4lINdNbRbSHdKAa TIMES AaDa PLUS KU3kNSHEeSH2b3eBADbLAGdRcIbUcERI",
   "N2eSH2eGAaLbN2 TENUhRa PLUS SHA3 PLUS AtIaR2cSHa CROSSING GISHnPLUS SARmUaDbR7eHI TIMES ASH2nI",
   "GIcMcKAaKcIaDdLIbUaMdMEa PLUS DUcGIcTEjIa PLUS NUNUZnNEbUNdPAbIcRUcSAaRcHAbEbIDcUaLdIGcUHURfTA",
   "RcUcUa U Ue2bDbMUM TIMES PAmRa2cSHdZIj2a CROSSING KA2oBbD2b3b4b5a OVER KAD5mKa TIMES IGI GUNUq",
   "La CROSSING KALmTIMES BADlM2b4cP ELAMITEjSKALa LAGAB TIMES U OVER LAGAB TIMES UzhOVER KASKAL L",
   "AGAB TIMES U OVER LAGAB TIMES UzzESH2eIa TIMES BADdUaDjDbNbSALcHbIM5a OVER KISIM5rUa OVER HI T",
   "IMES ASH2 KU OVER HI TIMES ASH2zq3b4a VARIANT FORMo7bLa GUNUgNbRa OPPOSING KURoSHU2fWU318gLAaG",
   "ABa SQUAREDhTIMES Aa PLUS DA PLUS HAkGARdLALjLbNbSH ZIDA TENUnBADcIcDARdENcGAaRcIbUDa PLUS GUD",
   "mHAaLcI TIMES NUNmIGI GUNUhMa PLUS HAcLUkKIaNcU3bLa PLUS HI PLUS AsLAGABeISHdUaLdMEa PLUS ENjU",
   "SHeNEcSHE PLUS SUMkITA PLUS GISH PLUS ERIN2kTENUsU2a PLUS SHU2nUMdTAGbK4dE PLUS A PLUS SU PLU",
   "S NAzUa PLUS AbU PLUS Uo2 PLUS ASHkDbSHdZU OVER ZUsRa GUNUa OVER LAGAR GUNU SHEyTIMES SHEa PLU",
   "S SUMwHSHUeK-003c21b5c30c50b1c62c79 OVER LAK-079 GUNUu80b1 OVER LAK-081p92d130c42d210b9c20b5b8",
   "c38c65b6d343b7b8c83b4c90d441b9a TIMES GUcIGIdPAP PLUS LU3dPAP PLUS LU3vU2 PLUS BAt50b7c70c83c9",
   "0b2b3b5d550d608c17a TIMES ASHdBADdDUN3 GUNU GUNUoKU3dLAcTARcEcU2bDbRUDAo36c48a TIMES DUBdGAcIG",
   "Ia GUNUiNIcPAP PLUS PAP PLUS LU3vSHESH PLUS KInUDbRUDAp724c49fLa TIMES LALlMa TIMES KURa PLU",
   "S RUuIaLbMMU2eSHdUa TIMES BADk2a CROSSING LU2mGUNU TIMES ASHoOPPOSING LU2mSHESHIGa TIMES BADqQ",
   "UAREDhTENUdIMES ALcBADdDISHeESH2a PLUS LALiTENUjGAN2 TENUjHALcI TIMES BADmIMcKAD2b3a PLUS ASHm",
   "IcLA PLUS ASHjGABfME PLUS ENkNEbUcPAPa PLUS PAP PLUS LU3vSHUcI PLUS ASHjK2 PLUS BUmTAK4dUG2m3b",
   "GALa OPPOSING LUGALnVER LUGALkSHESHIGlHbLbMa OVER LUMa GAR OVER GARzMAa GUNUeTIMES TAK4l2bHbRb",
   "SHa2eEaSaHdIa PLUS ZA7jNcUa OVER MUiGa GUNUgNSUBeRGU2eSHa CROSSING MUSHnOVER MUSHa TIMES A PLU",
   "S NAjGAcKAKtTIMES AbKURdZAj3a GUNUeTIMES Aa PLUS DIjDIcZAoNAa2b4bGAa INVERTEDiOPPOSING NAGAnTI",
   "MES SHU TENUpRdMa NUTILLUi2dEa SHESHIGhTIMES AbUDkIa TIMES Ei2bMa TIMES GAN2 TENUhR PLUS GAN",
   "2 TENUzbNa9bDA2a TIMES ANbSHa PLUS ASHmBALdDIM GUNUiGIaSHdUDbLdHIcKESH2fLAK-050hMASHdE PLUS GA",
   "N2 TENUrNEbUNdPAP PLUS PAPmSHEa PLUS A ANdSHa PLUS ASHvUa PLUS Uh2 PLUS ASHkRUDAeSHoSAGeUa11",
   "a OVER NU11 BUR OVER BURwROTATED NINETY DEGREESwTENUhNa CROSSING NUNa LAGAR OVER LAGARzeLAGA",
   "R TIMES GARdMASHeSALa OVER NUN LAGAR TIMES SALzdUSHpOVER NUNiTENUfUZa AB2 TIMES ASHGABgBIcDUGd",
   "GUDdIGI GUNUiKAD3eLAcNEcSILA3fU2mKISIM5 TIMES BIa UxPAaDbNbPcESH2a ASTERISKnIa CROSSING PIlTIM",
   "ES AaBcBIbUcEbIaBcUa2jR2bIGa OPPOSING PIRIGoTIMES KALdUDcZAoRAaBcIbUcSAaGa GUNUa TIMES HAnNUTI",
   "LLUhOVER SAGiTIMES AbDUaBdENcHAcIGI GUNUiKAKcURdLUMdMIcNUNdSALcHE AT LEFTjIDeTABbK4eU2bBbMbRbS",
   "HlLa LAGAB TIMES ASH2sNGA2eRcHAa3a TIMES AbBADdGISHeNEcSHU2eTURdUa PLUS Aq6a TENUgB6cR2dEa HUc",
   "OVER SHEa GAD OVER GAD GAR OVER GARzTAB OVER TAB GAR OVER GARzjPLUS HUB2eNAM2eSARjG9cNbSHa2bLA",
   "MgIDa TIMES AbIMkMa TIMES AbBALcULUGfDINdGARdIGIa GUNUiKUSHU2gLULdMUGdSALlNIGdRa OVER SHIR BU",
   "R OVER BURwTENUgTAdUa OVER INVERTED SHUs2a PLUS DUG TIMES NImE2 TIMES ANsBURfIa GUNUeTIMES TAK",
   "4lGa4a OVER SIG4 SHU2rK2cLA3eUa OVER SUiDa2cHURdMaASHeRa9eTAa ASTERISKiGUNUeTIMES HIcMIjBa OVE",
   "R TAB NI OVER NI DISH OVER DISHzjSQUAREDjGa TIMES BIcGUDdSHEbUdTUG2eUDkK4a PLUS SAGlRcEa GUNUg",
   "Ia TENUf2bLbRa OVER TIRa GAD OVER GAD GAR OVER GARzjTIMES TAK4nUaG2cKbMa TIMES GAN2 TENUjTHRE",
   "E DISHsRa OVER TUR ZA OVER ZAxUa GUDdOVER U PA OVER PA GAR OVER GARxSUR OVER SURmU REVERSED OV",
   "ER U REVERSEDziUa Ue2bBbDa GUNUeKUSHU2gSHESHIGa TIMES BADrTIMES BADdMIcU PLUS U PLUS Ua GUNUzc",
   "UGdMa TIMES LAGABfMEa PLUS DAkSHA3eUiBINdUMa TIMES KASKALgPAmNa GUNUgRa CROSSING URlSHESHIGi2",
   "a INVERTEDiTIMES A PLUS HAcNAiLcHAcNUNdU2a PLUS ASHdBIjDk4bIa3cUa TIMES AaSHGABgBARdDARA3eUNdG",
   "AaLbN2 TENUhRcUcHAcIGIcMbSHdKIcLAK-668gU3bMdMINdPAcSHEcIG4eTUcU PLUS GUDjDbRUDAmDAa TIMES UmSH",
   "a TIMES AbKUaRdTAK4l2bUMXdXdTUKIeZ3a TIMES KASKALoUdZAa SQUARED TIMES KURrTENUf7bGbMXdE2cIa OV",
   "ER ZIi3bBa KABA TENUlGbZ2dUa OVER ZU PLUS SARr5a TIMES AbTHREE DISH TENUxBURdMqP ON BLACK SQUA",
   "REpWITH STRAWlCAKEeIDOeRLING STONEjY BRACKET EXTENSIONrLOGICAL ANDdORiOPhRENCY EXCHANGEiSIGNj",
   "Y AND RICElVED STEM PARAGRAPH SIGN ORNAMENTziSTARDdOMSfT OF MEATkYCLONEfLINDRICITYkPRIOT SYLLA",
   "BLE AbEbIbJAbOcKAbEbIbObUcLAbEbIbObUcMAbEbIbObUcNAbEbIbObUcObPAbEbIbObUcRAbEbIbObUcSAbEbIbObUc",
   "TAbEbIbObUcUbWAbEbIbOcXAbEcZAbOpO-MINOAN SIGN CM001b2b4b5b6b7b8b9c10b1b2aBc3b5b7b9c21b3b4b5b6b",
   "7b8b9c30b3b4b5b6b7b8b9c40b1b4b6b7b9c50b1b2b3b4b5b6b8b9c60b1b2b3b4b6b7b8b9c70b1b2b3b4b5aBc6b8b9",
   "c80b1b2b3b4b5b6b7b8b9c90b1b2b4b5b6b7b8b9d100b1b2b3b4b5b7b8b9c10b2b4d301b2vRILLIC CAPITAL LETTE",
   "R Aa WITH BREVEfDIAERESISpBKHASIAN CHEa WITH DESCENDERsDZEdHAlLEUT KAiBARRED Oa WITH DIAERESIS",
   "vSHKIR KAjEbIG YUSfNOCULAR OkLENDED YUSkROAD OMEGAkYELORUSSIAN-UKRAINIAN IyCCHEdHEa WITH DESCE",
   "NDERiIAERESISjVERTICAL STROKExLOSED LITTLE YUSqROSSED OjDCHEdEbJEaRVeOUBLE MONOCULAR OlOhWEcZE",
   "aLOdHEcWEcZEbHEfEa WITH DIAERESISpFbLa WITH DESCENDERjHOOKeMIDDLE HOOKlTAILlMa WITH TAILlNa WI",
   "TH DESCENDERjHOOKeLEFT HOOKjMIDDLE HOOKlTAILlRa WITH TICKlSa WITH DESCENDERrFITAeGHEa WITH DES",
   "CENDERjMIDDLE HOOKlSTROKEa AND HOOKpUPTURNoJEdHAa WITH DESCENDERjHOOKeSTROKEmRD SIGNiWEdIa WIT",
   "H DIAERESISjGRAVEfMACRONmEa WITH BREVEfGRAVEmOaTAbIFIED AbBIG YUShCLOSED LITTLE YUSrEbLITTLE Y",
   "USkYATlZHITSAa WITH DOUBLE GRAVE ACCENTzhJEcKAa WITH DESCENDERjHOOKeSTROKEgVERTICAL STROKEwHAK",
   "ASSIAN CHEnJEcOMI DEbJEcZJEeLJEdNJEdSJEdTJEdZJEgPPAeSIdLHAcITTLE YUSjJEdMONOCULAR OhGRAPH UKmN",
   "EUTRAL YERkJEdOa WITH DIAERESISpMEGAa WITH TITLOpTcPEa WITH DESCENDERjMIDDLE HOOKsSIdQAcREVERS",
   "ED DZEdTSEdYUcZEkHAcOUND OMEGAlSCHWAa WITH DIAERESIStEMISOFT SIGNmHAbCHAdHAa WITH DESCENDERrOR",
   "T Ia WITH TAILlUfWEdOFT DEcELbMcSIGNiTRAIGHT Ua WITH STROKEwTCHEdEa WITH DESCENDERjMIDDLE HOOK",
   "sSEbHEcSEcWEdWEdUa WITH DIAERESISiOUBLE ACUTEmMACRONmKaRAINIAN IEmVEcWEcYAaEbTcERUa WITH BAC",
   "K YERiDIAERESISsIbNbUcZEa WITH DESCENDERiIAERESISpMLYAfHEa WITH BREVEfDESCENDERiIAERESISqWEkIG",
   "ATURE A IEeEN GHEgTE TSExKAVYKAgLETTER MULTIOCULAR OnPALOCHKAiSMALL CAPITAL ELxPAYEROKhSMALL L",
   "ETTER Aa WITH BREVEfDIAERESISpBKHASIAN CHEa WITH DESCENDERsDZEdHAlLEUT KAiBARRED Oa WITH DIAER",
   "ESISvSHKIR KAjEbIG YUSfNOCULAR OkLENDED YUSkROAD OMEGAkYELORUSSIAN-UKRAINIAN IyCCHEdHEa WITH D",
   "ESCENDERiIAERESISjVERTICAL STROKExLOSED LITTLE YUSqROSSED OjDCHEdEbJEaRVeOUBLE MONOCULAR OlOhW",
   "EcZEaLOdHEcWEcZEbHEfEa WITH DIAERESISpFbLa WITH DESCENDERjHOOKeMIDDLE HOOKlTAILlMa WITH TAILlN",
   "a WITH DESCENDERjHOOKeLEFT HOOKjMIDDLE HOOKlTAILlRa WITH TICKlSa WITH DESCENDERrFITAeGHEa WIT",
   "H DESCENDERjMIDDLE HOOKlSTROKEa AND HOOKpUPTURNoJEdHAa WITH DESCENDERjHOOKeSTROKEmRD SIGNiWEdI",
   "a WITH DIAERESISjGRAVEfMACRONmEa WITH BREVEfGRAVEmOaTAbIFIED AbBIG YUShCLOSED LITTLE YUSrEbLIT",
   "TLE YUSkYATlZHITSAa WITH DOUBLE GRAVE ACCENTzhJEcKAa WITH DESCENDERjHOOKeSTROKEgVERTICAL STROK",
   "EwHAKASSIAN CHEnJEcOMI DEbJEcZJEeLJEdNJEdSJEdTJEdZJEgPPAeSIdLHAcITTLE YUSjJEcONG-LEGGED DEoMON",
   "OCULAR OhGRAPH UKmNARROW OhEUTRAL YERkJEdOa WITH DIAERESISpMEGAa WITH TITLOpTcPALOCHKAhEa WIT",
   "H DESCENDERjMIDDLE HOOKsSIdQAcREVERSED DZEdTSEdYUcZEkHAcOUND OMEGAgED VEkSCHWAa WITH DIAERESIS",
   "tEMISOFT SIGNmHAbCHAdHAa WITH DESCENDERrORT Ia WITH TAILlUfWEdOFT DEcELbMcSIGNiTRAIGHT Ua WIT",
   "H STROKEwTALL HARD SIGNjTEcYAThCHEdEa WITH DESCENDERjMIDDLE HOOKsHREE-LEGGED TEoSEbHEcSEcWEdWE",
   "dUa WITH DIAERESISiOUBLE ACUTEmMACRONmKaRAINIAN IElNBLENDED UKmVEcWEbIDE EShYAaEbTcERUa WITH B",
   "ACK YERiDIAERESISsIbNbUcZEa WITH DESCENDERiIAERESISpMLYAfHEa WITH BREVEfDESCENDERiIAERESISqWEk",
   "IGATURE A IEeEN GHEgTE TSEvTHOUSANDS SIGN"]

def nameTapeD : List String :=
  ["DAGGERa KNIFEfWITH LEFT GUARDkRIGHT GUARDvLET SYMBOLkNCERdGOdRK SHADEeUNGLASSESnSH SYMBOLgWIT",
   "H LEFT UPTURNrED LOW LINEiOVERLINEiTRIANGLE-HEADED RIGHTWARDS ARROWzmTA LINK ESCAPEpC1b2b3b4bS",
   "cEAF PERSONjCIDUOUS TREEkMAL EXPONENT SYMBOLpSEPARATOR KEY SYMBOLzREASE FONT SIZE SYMBOLxERcGR",
   "EE CELSIUShFAHRENHEITkSIGNjLaETEdIVERY TRUCKlTA EQUAL TOmNTISTRY SYMBOL LIGHT DOWN AND HORIZON",
   "TALa WITH CIRCLEgTRIANGLEiWAVEzeUP AND HORIZONTALa WITH CIRCLEgTRIANGLEiWAVEzcVERTICAL AND BOT",
   "TOM LEFTeRIGHTmTOP LEFTeRIGHTjWAVEiWITH CIRCLEgTRIANGLEzsPARTMENT STOREoRELICT HOUSE BUILDINGv",
   "SCENDING NODEmERET CAPITAL LETTER AYcBEEdCHEEeDEEdEFbLbMbNaGcRbSaHcTHcWcGAYdHbJEEdKAYdLONG AaH",
   "cEbIbOaOhOIbWcPEEdSHORT AaHcEbIbOaOiTEEcHEEeVEEdWUcYEEdZEEcHEEtSMALL LETTER AYcBEEdCHEEeDEEdEF",
   "bLbMbNaGcRbSaHcTHcWcGAYdHbJEEdKAYdLONG AaHcEbIbOaOhOIbWcPEEdSHORT AaHcEbIbOaOiTEEcHEEeVEEdWUcY",
   "EEdZEEcHEEuTa ISLANDkKTOP COMPUTERiWINDOWmVANAGARI ABBREVIATION SIGNqCUTE ACCENTmCARETfDANDAeI",
   "GIT EIGHTfFIVEdOUReNINEeONEdSEVENeIXdTHREEeWOdZEROjOUBLE DANDAmGAP FILLERjRAVE ACCENTmHEADSTRO",
   "KEkJAIN OMhLETTER AaAbIbUbWbYcBAbBAcHAdCAaNDRA AbEbOhHAdDAbDAbDAbHAdHAdHAdEbFAcGAbGAcHAbHAdLOT",
   "TAL STOPmHAbEAVY YAiIaIcJAbHAcJAdKAbHAbHAeLAbLAbLAeMAaRWARI DDAlNAbGAcNAbNAdYAdOaEbOEdPAbHAdQA",
   "cRAbHAcRAdSAbHAbORT AbEbOgSAdTAbHAcTAbHAeUaEbUaEdVAbOCALIC LaLcRaRkYAbYAdZAbHAkOMcSIGN ANUSVAR",
   "AhVAGRAHAiCANDRABINDUa AVAGRAHAiTHREEeWOdVIRAMAsDOUBLE CANDRABINDU VIRAMAzHIGH SPACING DOTqINV",
   "ERTED CANDRABINDUuNUKTAfPUSHPIKAiSIDDHAMgPACING CANDRABINDUtVIRAMAeSARGAlTRESS SIGN ANUDATTAiU",
   "DATTAsVOWEL SIGN AAbIbUbWbYcCANDRA EbLONG EgOiEbIaIcOaEbOEdPRISHTHAMATRA EpSHORT EbOhUaEbUaEdV",
   "OCALIC LaLcRaRzeICE CONTROL FOUReONEdSTRINGgTHREEeWOrIAERESISgMETER SIGNjOND OPERATORiSHAPE WI",
   "TH A DOT INSIDExTARGETgWITH BOTTOM HALF BLACKrLEFT HALF BLACKpRIGHT HALF BLACKqTOP HALF BLACKz",
   "E FACE-1b2b3b4b5b6hSEL LOCOMOTIVEpFFERENCE BETWEENqGIT EIGHTa COMMAfFULL STOPpFIVEa COMMAfFUL",
   "L STOPnOURa COMMAfFULL STOPoNINEa COMMAfFULL STOPoONEa COMMAfFULL STOPnSEVENa COMMAfFULL STOPo",
   "IXa COMMAfFULL STOPnTHREEa COMMAfFULL STOPoWOa COMMAfFULL STOPnZEROa COMMAfFULL STOPrRAM FOR E",
   "ARTHaLY HEAVENfUMANnGREATER YANGdINlHEAVENLY EARTHnUMAN EARTHlLESSER YANGdINtMENSION ORIGINoNG",
   "BAT CIRCLED SANS-SERIF DIGIT EIGHTfFIVEdOUReNINEeONEdSEVENeIXdTHREEeWOdZEROkNUMBER TENzeNEGATI",
   "VE CIRCLED DIGIT EIGHTfFIVEdOUReNINEeONEdSEVENeIXdTHREEeWOjNUMBER TENkSANS-SERIF DIGIT EIGHTfF",
   "IVEdOUReNINEeONEdSEVENeIXdTHREEeWOdZEROkNUMBER TENztRECT CURRENT SYMBOL FORM TWOxHITiSABLED CA",
   "RiPPOINTED BUT RELIEVED FACErFACEoCONTINUOUS UNDERLINE SYMBOLzcGUISED FACEmTTO MARKiVES AKUR",
   "U DIGIT EIGHTfFIVEdOUReNINEeONEdSEVENeIXdTHREEeWOdZEROjOUBLE DANDAmEND OF TEXT MARKqGAP FILLER",
   "kINITIAL RAkLETTER AaAcBAbHAdCAbHAdDAbDAbHAdHAdEbGAbHAdHAcIaIcJAcKAbHAdLAbLAdMAcNAbGAcNAcYAdOb",
   "PAbHAdRAcSAbHAcSAdTAbHAcTAdUaUcVAcYAbYAdZAjMEDIAL RAcYAjPREFIXED NASAL SIGNtSIGN ANUSVARAiCAND",
   "RABINDUlHALANTAhNUKTAkVIRAMAfOWEL SIGN AAbIcEbIaIcObUaUwIDESdNG MASKhSION SIGNdLASHfTIMESlORC",
   "E SYMBOLmYA LAMPhZZY FACEeSYMBOLlLEcNA DOUBLE HELIXpO NOT LITTER SYMBOLsCUMENTa WITH PICTUREhT",
   "EXTa AND PICTUREzdDOcES NOT CONTAIN AS MEMBERgNORMAL SUBGROUPa OR EQUALzkDIVIDEa WITH REVERSE",
   "D NEGATION SLASHzkFORCEfPRECEDEa OR EQUALoOVEfSUCCEEDa OR EQUALxGa FACEfRA ABBREVIATION SIGNrL",
   "ETTER AaAbIbUcBAbHAdCAbHAdDAbDAbHAdHAdEbGAbHAdHAcIaIcJAbHAdKAbHAdLAcMAcNAbGAcNAcYAdObPAbHAdRAb",
   "RAdSAbHAcSAdTAbHAcTAbHAeUaUcVAcYAjSIGN ANUSVARAiNUKTAfVIRAMAeSARGAmVOWEL SIGN AAbIbUcEbIaIcObU",
   "aUcVOCALIC RaRzLLAR SIGNiPHINfMINO TILE HORIZONTAL BACKf-00-00b1b2b3b4b5b6e1-00b1b2b3b4b5b6e2-",
   "00b1b2b3b4b5b6e3-00b1b2b3b4b5b6e4-00b1b2b3b4b5b6e5-00b1b2b3b4b5b6e6-00b1b2b3b4b5b6qVERTICAL BA",
   "CKf-00-00b1b2b3b4b5b6e1-00b1b2b3b4b5b6e2-00b1b2b3b4b5b6e3-00b1b2b3b4b5b6e4-00b1b2b3b4b5b6e5-00",
   "b1b2b3b4b5b6e6-00b1b2b3b4b5b6yNG SIGNhORcT ABOVEfMINUSfOPERATORiPLUSfTED CIRCLEfROSSfFENCEfLIN",
   "E FACEjOBELOSgRIGHT-POINTING ANGLEuSOLIDUSgQUAREgTRANSPOSITION MARKERzUBLE ACUTE ACCENTmCIRCLE",
   "D DIGIT EIGHTfFIVEdOUReNINEeONEdSEVENeIXdTHREEeWOjNUMBER TENrOLON EQUALkURLY LOOPkDAGGERfOWN T",
   "ACKjEXCLAMATION MARKqHIGH-REVERSED-9 QUOTATION MARKzeYPHENgINTEGRALeRSECTIONmLEFT ARC GREATER-",
   "THAN BRACKETzdOGICAL ANDdORiW LINEf-9 QUOTATION MARKqREVERSED-9 QUOTATION MARKzeNESTED GREATER",
   "-THANmLESS-THANa WITH UNDERBARzfOBLIQUE HYPHENoPLUSdRECEDESgIMEa QUOTATION MARKuQUESTION MARKn",
   "RIGHT ARC LESS-THAN BRACKETzcSOLIDUS OPERATORpQUARE INTERSECTIONmUNIONlTACKED COMMAlROKE NOT S",
   "IGNoUBSETeCCEEDSgPERSETgSPENSION MARKpUNIONeP TACKhVERTICAL BARa DOUBLE LEFT TURNSTILEoRIGHT T",
   "URNSTILEwLEFT TURNSTILEsLINEnWAVY OVERLINEo-ENDED MULTIMAPoLINE EQUAL TO OR GREATER-THANmLESS-",
   "THANvSLANTED EQUAL TO OR GREATER-THANmLESS-THANvGREATER-THAN OR EQUAL TOyLESS-THAN OR EQUAL TO",
   "zjSTRUCK CAPITAL CbGAMMAfHbNbPaIcQbRbZjITALIC CAPITAL DjSMALL DbEbIbJoN-ARY SUMMATIONpSMALL GA",
   "MMAfPIqD FEMALE SIGNlMALE SIGNjSYMBOLlGHNUTgVE OF PEACElWN ARROWHEADjFISH TAILjRIGHT DIAGONA",
   "L ELLIPSISxTACKa WITH CIRCLE BELOWx-POINTING RED TRIANGLEmSMALL RED TRIANGLEsTRIANGLE WITH LEF",
   "T HALF BLACKpRIGHT HALF BLACKzpWARD FACING HOOKa WITH DOTnNOTCHED HOOKa WITH DOTzeS ANCORAfRRO",
   "Wa AND RIGHT ONE EIGHTH BLOCKzbFROM BARiLEFTWARDS OF UPWARDS ARROWzbTO BARgWITH CORNER LEFTWAR",
   "DSqDOUBLE STROKEnEQUILATERAL ARROWHEADvHORIZONTAL STROKErLARGE TRIANGLE ARROWHEADyMEDIUM TRIAN",
   "GLE ARROWHEADzNOTCHED TAILmSMALL EQUILATERAL ARROWHEADvTRIANGLE ARROWHEADyTIP LEFTWARDSjRIGHTW",
   "ARDSzBLACK ARROWfCIRCLED WHITE ARROWzCOMPRESSED ARROWqDASHED ARROWlOUBLE ARROWmFINGER-POST ARR",
   "OWrHARPOON WITH BARB LEFT BESIDE DOWNWARDS HARPOON WITH BARB RIGHTziUPWARDS HARPOON WITH BAR",
   "B RIGHTznFROM BARiTO BARhWARDSjRIGHT FROM BARiTO BARhWARDSzcEAVY ARROWfCOMPRESSED ARROWwPAIRE",
   "D ARROWSnQUADRUPLE ARROWpROCKETgSANS-SERIF ARROWpQUARED ARROWnTRIANGLE ARROWHEADk-HEADED ARROW",
   "a LEFTWARDS OF UPWARDS TRIANGLE-HEADED ARROWzrTO BARgWITH BOLD SHAFTkDOUBLE HORIZONTAL STROKEy",
   "HEAVY SHAFTlLONG TIP LEFTWARDSjRIGHTWARDStMEDIUM SHAFTmNARROW SHAFTmVERY HEAVY SHAFTzcDASHED A",
   "RROWmPAIRED ARROWSnZIGZAG ARROWzPLE ARROWlWO HEADED ARROWn-HEADED ARROW WITH TRIANGLE ARROWHEA",
   "DSzqWHITE ARROWa WITHIN TRIANGLE ARROWHEADzmZIGZAG ARROWvRACHMA SIGNjFTING POINT RIGHTWARDS AR",
   "ROWzdGONa FACEjESSdIVE SLOW SIGNnOMEDARY CAMELmOLING FACEkP OF BLOODjLETfUM WITH DRUMSTICKStUC",
   "KcMPLINGgPLOYAN AFFIX ATTACHED E HOOKgI HOOKgLEFT-TO-RIGHT SECANTuSECANTgTAILcNGENTa HOOKvHIG",
   "H ACUTEfCIRCLEgDOTdGRAVEfLINEdONG GRAVEkTIGHT ACUTElVERTICALa SECANTpWAVEjLEFT HORIZONTAL SECA",
   "NTvOW ACUTEeRROWfCIRCLEgDOTdGRAVEfLINEdONG GRAVEkTIGHT ACUTElVERTICALa SECANTpWAVEiMID HORIZON",
   "TAL SECANTrVERTICAL SECANTtRIGHT HORIZONTAL SECANTzeDOUBLE MARKlLETTER AaOUdBbDa ScHcEaEbUcF",
   "a NdGa R SfHaLcIaEcJa Ma SdNa SdSa WITH DOTkWITH DOTaS INSIDE AND ABOVEzdKa MbR SeKcLaHbONG Ib",
   "UgMa Na SdSbWITH DOTkNa Ma SdSbWITH DOTjASAL AbIbObUhOaAbOHcUbWcPa NcERNIN AMbNjRa ScHbOMANIA",
   "N IbUkSa Ja SdKa RdMbNbPa RdSbTa RdWITH DOTa BELOWpHORT IgLOAN ANcDHcEEbHbNcJbONbWcUhTa R SdSc",
   "HcUa NcHbIcVaOCALIC MjWa RcAbEIcHbIbOaWdXaWcYEjPUNCTUATION CHINOOK FULL STOPzeSIGN O WITH CROS",
   "SrTHICK LETTER SELECTORzeVD"]

def nameTapeE : List String :=
  ["E-MAIL SYMBOLmAGLEdRa OF MAIZEfRICEhWITH HEARING AIDrTHa GLOBE AMERICAShSIA-AUSTRALIAoEUROPE-A",
   "FRICAsROUNDkST SYRIAC CROSSqDITORIAL CORONISqGGbYPTIAN HIEROGLYPH A001b2b3b4b5aAc6aAbBc7b8b9c1",
   "0b1b2b3b4aAc5b6b7aAc8b9c20b1b2b3b4b5b6b7b8b9c30b1b2aAc3b4b5b6b7b8b9c40aAc1b2aAc3aAc4b5aAc6b7b8",
   "b9c50b1b2b3b4b5b6b7b8b9c60b1b2b3b4b5b6b7b8b9c70dA001b2b3b4b5b6b7aAbBc8b9c10b1b2b3b4b5b6b7b8b9c",
   "20b1b2b3b4b5b6b7b8b9c30b1b2fB001b2b3b4b5aAc6b7b8b9dEGIN SEGMENTnC001b2aAbBbCc3b4b5b6b7b8b9c10a",
   "Ac1b2b3b4b5b6b7b8b9c20b1b2b3b4eD001b2b3b4b5b6b7b8aAc9c10b1b2b3b4b5b6b7b8b9c20b1b2b3b4b5b6b7aAc",
   "8b9c30b1aAc2b3b4aAc5b6b7b8b9c40b1b2b3b4b5b6aAc7b8aAc9c50aAbBbCbDbEbFbGbHbIc1b2aAc3b4aAc5b6b7b8",
   "b9c60b1b2b3b4b5b6b7aAbBbCbDbEbFbGbHfE001b2b3b4b5b6b7b8aAc9aAd10b1b2b3b4b5b6aAc7aAc8b9c20aAc1b2",
   "b3b4b5b6b7b8aAc9c30b1b2b3b4aAc6b7b8dND SEGMENTlF001aAc2b3b4b5b6b7b8b9c10b1b2b3aAc4b5b6b7b8b9c2",
   "0b1aAc2b3b4b5b6b7b8b9c30b1aAc2b3b4b5b6b7aAc8aAc9c40b1b2b3b4b5aAc6aAc7aAc8b9c50b1aAbBbCc2b3eG00",
   "1b2b3b4b5b6aAc7aAbBc8b9c10b1aAc2b3b4b5b6b7b8b9c20aAc1b2b3b4b5b6aAc7b8b9c30b1b2b3b4b5b6aAc7aAc8",
   "b9c40b1b2b3aAc4b5aAc6b7b8b9c50b1b2b3b4eH001b2b3b4b5b6aAc7b8dORIZONTAL JOINERrI001b2b3b4b5aAc6b",
   "7b8b9aAd10aAc1aAc2b3b4b5dNSERT AT BOTTOM ENDdSTARTmTOP ENDdSTARTtK001b2b3b4b5b6b7b8eL001b2aAc3",
   "b4b5b6aAc7b8eM001aAbBc2b3aAc4b5b6b7b8b9c10aAc1b2aAbBbCbDbEbFbGbHc3b4b5aAc6aAc7aAc8b9c20b1b2aAc",
   "3b4aAc5b6b7b8aAc9c30b1aAc2b3aAbBc4b5b6b7b8b9c40aAc1b2b3b4eN001b2b3b4b5b6b7b8b9c10b1b2b3b4b5b6b",
   "7b8aAbBc9c20b1b2b3b4b5aAc6b7b8b9c30b1b2b3aAc4aAc5aAc6b7aAc8b9c40b1b2dL001b2b3b4b5aAc6b7b8b9c10",
   "b1b2b3b4b5b6b7aAc8b9c20eU001b2b3b4b5b6b7b8b9c10aAc1aAc2b3b4b5b6b7b8aAc9c20b1b2aAgO001aAc2b3b4b",
   "5aAc6aAbBbCbDbEbFc7b8b9c10aAbBbCc1b2b3b4b5b6b7b8b9aAd20aAc1b2b3b4aAc5aAc6b7b8b9aAd30aAc1b2b3aA",
   "c4b5b6aAbBbCbDc7b8b9c40b1b2b3b4b5b6b7b8b9c50aAbBc1dVERLAY MIDDLEoP001aAc2b3aAc4b5b6b7b8b9c10b1",
   "eQ001b2b3b4b5b6b7eR001b2aAc3aAbBc4b5b6b7b8b9c10aAc1b2b3b4b5b6aAc7b8b9c20b1b2b3b4b5b6b7b8b9eS00",
   "1b2aAc3b4b5b6aAc7b8b9c10b1b2b3b4aAbBc5b6b7aAc8b9c20b1b2b3b4b5b6aAbBc7b8b9c30b1b2b3b4b5aAc6b7b8",
   "b9c40b1b2b3b4b5b6eT001b2b3aAc4b5b6b7aAc8aAc9aAd10b1aAc2b3b4b5b6aAc7b8b9c20b1b2b3b4b5b6b7b8b9c3",
   "0b1b2aAc3aAc4b5b6eU001b2b3b4b5b6aAbBc7b8b9c10b1b2b3b4b5b6b7b8b9c20b1b2b3aAc4b5b6b7b8b9aAd30b1b",
   "2aAc3b4b5b6b7b8b9c40b1b2eV001aAbBbCbDbEbFbGbHbIc2aAc3b4b5b6b7aAbBc8b9c10b1aAbBbCc2aAbBc3b4b5b6",
   "b7b8b9c20aAbBbCbDbEbFbGbHbIbJbKbLc1b2b3aAc4b5b6b7b8aAc9aAd30aAc1aAc2b3aAc4b5b6b7aAc8b9c40aAeER",
   "TICAL JOINERpW001b2b3aAc4b5b6b7b8b9aAd10aAc1b2b3b4aAc5b6b7aAc8aAc9c20b1b2b3b4aAc5eX001b2b3b4aA",
   "bBc5b6aAc7b8aAfY001aAc2b3b4b5b6b7b8eZ001b2aAbBbCbDc3aAbBc4aAc5aAc6b7b8b9c10b1b2b3b4b5aAbBbCbDb",
   "EbFbGbHbIc6aAbBbCbDbEbFbGbHyIGHT PETALLED OUTLINED BLACK FLORETTEzgOINTED BLACK STARkPINWHEE",
   "L STARnRECTILINEAR BLACK STARzfSPOKED ASTERISKpTEARDROP-SPOKED PROPELLER ASTERISKzkH NOTEkJEC",
   "T SYMBOLlLBASAN LETTER AbBEcCEbHEdDEbHEdEaIcFEcGEbHAMMAeEcJEdHEcIbJEcKEbHEdLEbLEdMEcNAbDEcEbJE",
   "dObPEcQEcREbREdSEbHEdTEbHEdUbVEcXEcYbZEbHEqECTRIC ARROWfLIGHT BULBkPLUGeTORCHgAL INTERSECTIONu",
   "MENT OFa OPENING DOWNWARDSjUPWARDSpWITH DOT ABOVEjLONG HORIZONTAL STROKEwOVERBARhTWO HORIZONTA",
   "L STROKESwUNDERBARiVERTICAL BAR AT END OF HORIZONTAL STROKEzzdPHANTfVATORgFbYMAIC LETTER ALEPH",
   "eYINeBETHeDALETHgGIMELfHEaTHeKAPHeLAMEDHgMEMdNUNdPEcQOPHeRESHeSADHEdMEKHfHINeTAWcETHeWAWdYODHe",
   "ZAYINlIGATURE ZAYIN-YODHzbM DASHeQUADeSPACEgOJI COMPONENT BALDeCURLY HAIRkRED HAIRiWHITE HAIRu",
   "MODIFIER FITZPATRICK TYPE-1-2d3b4b5b6zgPHASIS SYMBOLmTY DOCUMENTiNESTdOTEa PADbGEjPAGEaSfSET",
   "a WITH LEFT ARROW ABOVEqOVERBARhRIGHT ARROW ABOVErSMALL CIRCLE ABOVEzhN DASHeQUADeSPACEgD OF G",
   "UARDED AREAmLINEeMEDIUMgPROOFcTECTED AREAoSELECTED AREAnTEXTdRANSMISSIONa BLOCKvWITH LEFTWARD",
   "S ARROW ABOVEzdQaUIRYfTER SYMBOLkVELOPEa WITH DOWNWARDS ARROW ABOVEvLIGHTNINGwOLbMbTcPAcQUAL A",
   "ND PARALLEL TOpTO BY DEFINITIONnOR GREATER-THANmLESS-THANjPRECEDESiSUCCEEDSpS COLONfSIGNa ABOV",
   "E LEFTWARDS ARROWpPLUS SIGNjRIGHTWARDS ARROWqTILDE OPERATORtND SLANTED PARALLELa WITH TILDE AB",
   "OVEzmWITH BUMPY ABOVElDOT BELOWjINFINITY BELOWoTWO DOTS ABOVE AND TWO DOTS BELOWzsWITH ASTERIS",
   "KrIANGULAR TOkVALENT TOcWITH FOUR DOTS ABOVEzfRASE TO THE LEFTeRIGHTqIS FORM ONEdTWOlROR-BARRE",
   "D BLACK CIRCLEgDIAMONDhSQUAREmWHITE CIRCLEgDIAMONDhSQUAREySAbCaAPEeTIMATED SYMBOLiSiTBbHIOPI",
   "C COLONdMBINING GEMINATION AND VOWEL LENGTH MARKvMARKpVOWEL LENGTH MARKyMAfDIGIT EIGHTfFIVEdOU",
   "ReNINEeONEdSEVENeIXdTHREEeWOjFULL STOPjNUMBER EIGHTYgFIFTYeORTYfHUNDREDhNINETYgSEVENTYgIXTYfTE",
   "Na THOUSANDlHIRTYfWENTYnPARAGRAPH SEPARATORsREFACE COLONnQUESTION MARKnSECTION MARKkMICOLONiYL",
   "LABLE BAaAcBAaAcEaEcIbObUcEaEcIbOaAcUbWAbEaEcIdCAaAcCAaAcEaEcHAaAcEaEcHAaAcEaEcIbObUcIbObUcIbO",
   "bUcEaEcHAaAcEaEcIbOaAcUbWAdIbOaAcUbWAdDAaAcDAaAcEaEcHAAcEaEcIbObUcIbOaAcUbWAdEaEcIbOaAcUbWAcZA",
   "AcEaEcIbObUdFAaAcEaEcIbObUbWAbEaEcIcYAdGAaAcEaEcGAaAcEaEcIbObUbWAaAcEaEcIdIbLOTTAL AaAcEaEcIbO",
   "aAcUbWAjOaAcUaRAGE BWEEcIdFWEEcIdGWEaEcIdHHWAeKWEaEcIdMWEEcIdPWEEcIdQWEaEcIjWAaAcEaEcIcYAaAcEa",
   "EcIbObUdHAaAcEaEcHAaAcEaEcIbObUbWAbEaEcIcYAaAcEaEcIbObUdIbOaAcUcJAaAcEaEcIbOaAcUbWAdKAaAcEaEcI",
   "bOaAcUbWAaAcEaEcIcXAaAcEaEcIbObUbWAaAcEaEcIdYAaAcEaEcIbObUdLAaAcEaEcIbOaAcUbWAdMAaAcEaEcIbOaAc",
   "UbWAbEaEcIcYAdNAaAcEaEcIbOaAcUbWAcYAaAcEaEcIbOaAcUbWAePAaAcEaEcHAaAbRYNGEAL AaAcEaEcIbObUkEaEc",
   "IbOaAcUbWAdIbOaAcUbWAbEaEcIdQAaAcEaEcHAaAcEaEcIbObUbWAaAcEaEcIdIbOaAcUbWAaAcEaEcIcYAaAcEaEcIbO",
   "bUdRAaAcEaEcIbOaAcUbWAcYAdSAaAcEaBATBEIT BWAdFWAdMWAdPWAlEcHAaAcEaEcIbOaAcUbWAdIbOaAcSAaAcEaEc",
   "IbObUcUbWAcZAaAcEaEcIbObUbWAeTAaAcEaEcHAaAcEaEcIbOaAcUbWAdIbOaAcSAaAcEaEcIbObUbWAdTHAAcEaEcIbO",
   "bUdUbWAcZAaAcEaEcIbOaAcUdVAaAcEaEcIbObUbWAdWAaAcEaEcIbOaAcUcXAaAcEaEcIbOaAcUbWAaAcEaEcIcYAaAcE",
   "aEcIbObUdYAaAcEaEcIbOaAcUcZAaAcEaEcHAaAcEaEcIbObUbWAdIbOaAcUbWAcZAaAcEaEcIbObUmTONAL MARK CHIR",
   "ETgDERETa-HIDETkIFATfHIDETfKENATeURTeRIKRIKgSHORT RIKRIKmYIZETqWORDSPACEqXcULER CONSTANTmRO SI",
   "GNf-CURRENCY SIGNoPEAN CASTLEgPOST OFFICEtVERGREEN TREEnXCESSdLAMATION MARKeQUESTION MARKxPRES",
   "SIONLESS FACErTENDED ARABIC-INDIC DIGIT EIGHTfFIVEdOUReNINEeONEdSEVENeIXdTHREEeWOdZEROzeRATERR",
   "ESTRIAL ALIENsEMELY HEAVY FIVE SPOKED ASTERISKuGREEK CROSSlSALTIREgIX SPOKED ASTERISKtWHITE CI",
   "RCLEgSQUAREzcYEaGLASSEShS"]

def nameTapeF : List String :=
  ["FACE HOLDING BACK TEARSsMASSAGEhPALMeSAVOURING DELICIOUS FOODxCREAMING IN FEARrTHROWING A KISS",
   "pWITH COLD SWEATiWBOY HATkDIAGONAL MOUTHoFINGER COVERING CLOSED LIPSzcHEAD-BANDAGEmLOOK OF TRI",
   "UMPHpMEDICAL MASKlONOCLEhNO GOOD GESTUREpOK GESTUREjNE EYEBROW RAISEDrPEN EYES AND HAND OVER M",
   "OUTHyMOUTHa AND COLD SWEAToVOMITINGtPARTY HORN AND PARTY HATxEEKING EYEkLEADING EYESnROLLING E",
   "YESmSTUCK-OUT TONGUEa AND TIGHTLY-CLOSED EYEStWINKING EYEzhTEARS OF JOYlHERMOMETERlUNEVEN EYE",
   "S AND WAVY MOUTHzcOUT MOUTHpSIMILE SIGNlTORYfIRYdLAFELeLEN LEAFhING DIAGONAL CROSSING NORTH EA",
   "ST ARROWqRISING DIAGONALyIN WHITE CIRCLE IN BLACK SQUAREzvMILYeRSI SYMBOLkTHER CHRISTMASoX ICO",
   "NeMACHINEkEARFUL FACEjTHERfMALE SIGNiININE ORDINAL INDICATORyNCEReRRIS WHEELiYeFbIELD HOCKEY S",
   "TICK AND BALLzGURE DASHeSPACEkLE CABINEThFOLDERgSEPARATORlM FRAMESgPROJECTORmNITE PART INTEGRA",
   "LsREa ENGINEfXTINGUISHERnCRACKERhWORK SPARKLERjSgST PLACE MEDALlQUARTER MOONa SYMBOLgWITH FACE",
   "wSTRONG ISOLATEsSHa CAKE WITH SWIRL DESIGNxEYEdING POLE AND FISHsTED HAND SIGNoVE DOT MARKePUN",
   "CTUATIONtLAG IN HOLEjMINGOfT SHOEfBREADfNESSgEUR-DE-LISjXED BICEPSlOPPY DISKiRAL HEARTjWERa PL",
   "AYING CARDSmUNCTUATION MARKvUSHED FACEkYaING DISCeENVELOPEiSAUCERmOGaGYdLDEReNDUEeOTaPRINTSi",
   "R ALLeCESdK AND KNIFEa WITH PLATEvED PARAGRAPHOSoINGeM FEEDgTUNE COOKIEmUNTAINfR BALLOON-SPOKE",
   "D ASTERISKxCLUB-SPOKED ASTERISKtORNER ARROWS CIRCLING ANTICLOCKWISEzlDOT MARKePUNCTUATIONpLEA",
   "F CLOVERlPOINTED BLACK STARsTEARDROP-SPOKED ASTERISKz-PER-EM SPACEnTH ROOTjX FACEhRACTION NUME",
   "RATOR ONEnSLASHlME WITH AN XePICTUREhTILESoEEZING FACEkNCH FRANC SIGNiIESkIED SHRIMPkOG FACEgN",
   "T-FACING BABY CHICKrTILTED SHADOWED WHITE RIGHTWARDS ARROWzqWNaING FACE WITH OPEN MOUTHzdSaIcU",
   "EL PUMPhLL BLOCKfMOON SYMBOLgWITH FACEoOUTER JOINkSTOPfWIDTH AMPERSANDiPOSTROPHEjSTERISKiBROKE",
   "N BARkCENT SIGNiIRCUMFLEX ACCENTqOLONdMMAbERCIAL ATnDIGIT EIGHTfFIVEdOUReNINEeONEdSEVENeIXdTHR",
   "EEeWOdZEROjOLLAR SIGNlEQUALS SIGNkXCLAMATION MARKqFULL STOPjGRAVE ACCENTkEATER-THAN SIGNrHYPHE",
   "N-MINUSmLATIN CAPITAL LETTER AbBbCbDbEbFbGbHbIbJbKbLbMbNbObPbQbRbSbTbUbVbWbXbYbZqSMALL LETTE",
   "R AbBbCbDbEbFbGbHbIbJbKbLbMbNbObPbQbRbSbTbUbVbWbXbYbZtEFT CURLY BRACKETnPARENTHESISlSQUARE BRA",
   "CKEToWHITE PARENTHESISuSS-THAN SIGNnOW LINEiMACRONgNOT SIGNhUMBER SIGNlPERCENT SIGNlLUS SIGNiO",
   "UND SIGNkQUESTION MARKlOTATION MARKoREVERSE SOLIDUSoIGHT CURLY BRACKETnPARENTHESISlSQUARE BRAC",
   "KEToWHITE PARENTHESISxSEMICOLONiOLIDUShTILDEfVERTICAL LINEnWON SIGNiYEN SIGNqNCTION APPLICATIO",
   "NrERAL URNjSEdVS1b2b3b4"]

def nameTapeG : List String :=
  ["GAME DIEgRLICfEARa WITH HANDLESiOUT HUBoM STONEgINIeNIEdOMETRIC PROPORTIONlALLY EQUAL TOfIVALE",
   "NT TOyRGIAN CAPITAL LETTER AENcNcBANdCANcHARcINdILdDONdENcGANcHANeHAEbRcEbIEcOEdINcJHANdILdKAN",
   "cHAReLASdMANdNARdONcPARcHAReQARdRAEdSANcHINeTANbRdUNcVINdWEcXANdYNcZENcHARtLETTER AENcINcNcBAN",
   "dCANcHARcINdILdDONdELIFIeNcFIcGANcHANeHAEbRaD SIGNiEbIEcOEdINcJHANdILdKANcHAReLABIAL SIGNjSdMA",
   "NdNARdONcPARcHAReQARdRAEdSANcHINeTANbRcURNED GANkUNcVINdWEcXANdYNcZENcHARlMTAVRULI CAPITAL LET",
   "TER AENcINcNcBANdCANcHARcINdILdDONdELIFIeNcFIcGANcHANeHAEbRaD SIGNiEbIEcOEdINcJHANdILdKANcHARe",
   "LABIAL SIGNjSdMANdNARdONcPARcHAReQARdRAEdSANcHINeTANbRcURNED GANkUNcVINdWEcXANdYNcZENcHARzdPAR",
   "AGRAPH SEPARATORtSMALL LETTER AENcNcBANdCANcHARcINdILdDONdENcGANcHANeHAEbRcEbIEcOEdINcJHANdILd",
   "KANcHAReLASdMANdNARdONcPARcHAReQARdRAEdSANcHINeTANbRdUNcVINdWEcXANdYNcZENcHARyRMAN PENNY SIGNp",
   "TA MARKiHOSTeIMEL SYMBOLkRAFFE FACEjLaS SYMBOLlLAGOLITIC CAPITAL LETTER AZUdBIG YUSgUKYeCAUDAT",
   "E CHRIVInHRIVIgDJERVIfOBROeZELOfFITAdRITUfGLAGOLIhHERUeIaNITIAL IZHElOTATED BIG YUShSMALL YUSq",
   "ZHEbITSAhKAKOeLATINATE MYSLITEpJUDIJEhMYSLITEhNASHIfONUcTUdPEbOKOJIgRITSIfSHAbTAaPICgLOVOeMAL",
   "L YUSa WITH TAILsPIDERY HAkTROKUTASTI AlSIcVRIDOgUKUdVEDEeYATIdERIbUcSTUeObUcZEMLJAfHIVETEwSMA",
   "LL LETTER AZUdBIG YUSgUKYeCAUDATE CHRIVInHRIVIgDJERVIfOBROeZELOfFITAdRITUfGLAGOLIhHERUeIaNITIA",
   "L IZHElOTATED BIG YUShSMALL YUSqZHEbITSAhKAKOeLATINATE MYSLITEpJUDIJEhMYSLITEhNASHIfONUcTUdPEb",
   "OKOJIgRITSIfSHAbTAaPICgLOVOeMALL YUSa WITH TAILsPIDERY HAkTROKUTASTI AlSIcVRIDOgUKUdVEDEeYATId",
   "ERIbUcSTUeObUcZEMLJAfHIVETEzdSS OF MILKlEICH STARKkOBE WITH MERIDIANSrVESdWING STARlOAL NETfTc",
   "GGLESfLFEReRILLAfTHIC LETTER AHSAdIHVUSgBAIRKANhDAGSeEISdFAIHUfGIBAeHAGLdWAIRfIGGWSeUJAeJERdKU",
   "SMAfLAGUSfMANNAfNAUTHSfINE HUNDREDiTYgOTHALfPAIRTHRAiQAIRTHRAiRAIDAfSAUILfTEIWSeHIUTHgURUSeWIN",
   "JAsRADUATION CAPlNTHA AU LENGTH MARKoLETTER AaAbIbUcBAbHAdCAbHAdDAbDAbHAdHAdEEcGAbHAdHAcIaIcJA",
   "bHAdKAbHAdLAbLAdMAcNAbGAcNAcYAdOOcPAbHAdRAcSAbHAcSAdTAbHAcTAbHAeUaUcVAbEDIC ANUSVARAiDOUBLE AN",
   "USVARAuOCALIC LaLcRaRkYAjOMcSIGN ANUSVARAhVAGRAHAiCANDRABINDUkOMBINING ANUSVARA ABOVEyNUKTAfPL",
   "UTAfVIRAMAeSARGAmVOWEL SIGN AAbIbUcEEcIaIcOOcUaUcVOCALIC LaLcRaRzbPESdVE ACCENTkEATER-THAN ABO",
   "VE DOUBLE-LINE EQUAL ABOVE LESS-THANziLESS-THAN ABOVE DOUBLE-LINE EQUALziRIGHTWARDS ARROWqSIMI",
   "LAR ABOVE LESS-THANpOR EQUALpLANTED EQUAL ABOVE LESS-THAN ABOVE SLANTED EQUALzzeND NOT APPROXI",
   "MATEpSINGLE-LINE NOT EQUAL TOzdBESIDE LESS-THANpUT NOT EQUAL TOfIVALENT TOvCLOSED BY CURVEa AB",
   "OVE SLANTED EQUALzkEQUAL TO OR LESS-THANvOR APPROXIMATElEQUAL TOfIVALENT TOnLESS-THANjSLANTE",
   "D EQUAL TOa WITH DOT ABOVEa LEFTkINSIDEzjVER EQUAL TOjLAPPING LESS-THANvSIGNeWITH CIRCLE INSID",
   "EnDOTdQUESTION MARK ABOVEzjEK ACROPHONIC ATTIC FIFTYa STATERShTALENTSgHOUSANDa STATERSuVEa HUN",
   "DREDa STATERShTALENTSpSTATERShTALENTSgHOUSANDa TALENTSvONE DRACHMAhHALFdUNDRED STATERShTALENTS",
   "pQUARTERhTHOUSAND STATERShTALENTSuTEN MNASeSTATERShTALENTSgHOUSAND STATERSzbCARYSTIAN FIVE HUN",
   "DREDvYRENAIC TWO DRACHMASvDELPHIC FIVE MNASrEPIDAUREAN FIVE HUNDREDmTWOa DRACHMASxHERAEUM ON",
   "E PLETHRONrMIONIAN FIFTYfONEdTENoMESSENIAN TENnNAXIAN FIVE HUNDREDtSTRATIAN FIFTY MNAStTHESPIA",
   "N FIFTYdVE HUNDREDhTHOUSANDnONEa HUNDREDhTHOUSANDmTENcHIRTYeREE HUNDREDmWOlROEZENIAN FIFTYa AL",
   "TERNATE FORMsVEa HUNDREDmTENa ALTERNATE FORMzoNO TELEIAjROURA SIGNjTABE SIGNlBETA SYMBOLlCAPIT",
   "AL DOTTED LUNATE SIGMA SYMBOLzbKAI SYMBOLkLETTER ALPHAa WITH DASIAa AND OXIAa AND PROSGEGRAMME",
   "NIxPERISPOMENIa AND PROSGEGRAMMENIzeROSGEGRAMMENIoVARIAa AND PROSGEGRAMMENIzjMACRONgOXIAePROSG",
   "EGRAMMENInSILIa AND OXIAa AND PROSGEGRAMMENIxPERISPOMENIa AND PROSGEGRAMMENIzeROSGEGRAMMENIoVA",
   "RIAa AND PROSGEGRAMMENIzjTONOSfVARIAeRACHYqRCHAIC SAMPInBETAeCHIdDELTAfEPSILONa WITH DASIAa AN",
   "D OXIAeVARIApOXIAePSILIa AND OXIAeVARIApTONOSfVARIArTAa WITH DASIAa AND OXIAa AND PROSGEGRAMME",
   "NIxPERISPOMENIa AND PROSGEGRAMMENIzeROSGEGRAMMENIoVARIAa AND PROSGEGRAMMENIzjOXIAePROSGEGRAMME",
   "NInSILIa AND OXIAa AND PROSGEGRAMMENIxPERISPOMENIa AND PROSGEGRAMMENIzeROSGEGRAMMENIoVARIAa AN",
   "D PROSGEGRAMMENIzjTONOSfVARIAoGAMMAfHETAeIOTAa WITH DASIAa AND OXIAePERISPOMENIlVARIAoIALYTIKA",
   "jMACRONgOXIAePSILIa AND OXIAePERISPOMENIlVARIApTONOSfVARIAeRACHYqKAPPAfLAMDAfMUcNUcOMEGAa WIT",
   "H DASIAa AND OXIAa AND PROSGEGRAMMENIxPERISPOMENIa AND PROSGEGRAMMENIzeROSGEGRAMMENIoVARIAa AN",
   "D PROSGEGRAMMENIzjOXIAePROSGEGRAMMENInSILIa AND OXIAa AND PROSGEGRAMMENIxPERISPOMENIa AND PROS",
   "GEGRAMMENIzeROSGEGRAMMENIoVARIAa AND PROSGEGRAMMENIzjTONOSfVARIAoICRONa WITH DASIAa AND OXIAeV",
   "ARIApOXIAePSILIa AND OXIAeVARIApTONOSfVARIAsPAMPHYLIAN DIGAMMArHIcIbSIdRHOa WITH DASIAoSANcHOc",
   "IGMAfTAUcHETAfUPSILONa WITH DASIAa AND OXIAePERISPOMENIlVARIAoIALYTIKAjMACRONgOXIAeTONOSfVARIA",
   "eRACHYtXIcYOTdZETAkUNATE SIGMA SYMBOLtREVERSED DOTTED LUNATE SIGMA SYMBOLzbLUNATE SIGMA SYMBOL",
   "zdTHETA SYMBOLuDASIAa AND OXIAePERISPOMENIlVARIAoIALYTIKA AND OXIAePERISPOMENIlVARIAjTONOSoRAC",
   "HMA SIGNmFIVE OBOLS SIGNoOUR OBOLS SIGNpGRAMMA SIGNlINDICTION SIGNmSTRUMENTAL NOTATION SYMBOL-",
   "1a1b2b3b4b7b8b9c2a3b4b5b6b7b9c30b2b6b7b8b9c4a0b2b3b5b7b8b9c5a0b1b2b3b4c7b8zfKAI SYMBOLiPPA SYM",
   "BOLlORONISgYATHOS BASE SIGNrLETTER ARCHAIC KOPPAnDIGAMMAhKOPPAfSAMPIeMALL CAPITAL GAMMAfLAMDAf",
   "OMEGAfPIbSIdRHOqTIGMAgYOTjITRA SIGNjOWER NUMERAL SIGNrUNATE EPSILON SYMBOLoSIGMA SYMBOLtMETRET",
   "ES SIGNmUSICAL LEIMMAoNUMERAL SIGNmOBOL SIGNiNE HALF SIGNa ALTERNATE FORMyQUARTER SIGNpUNKIA S",
   "IGNkXIAePERISPOMENIkHI SYMBOLjI SYMBOLiROSGEGRAMMENInSILIa AND OXIAePERISPOMENIlVARIApQUESTIO",
   "N MARKnREVERSED LUNATE EPSILON SYMBOLzeHO SYMBOLgWITH STROKE SYMBOLwSINUSOID SIGNmMALL DOTTE",
   "D LUNATE SIGMA SYMBOLzbLETTER ALPHAa WITH DASIAa AND OXIAa AND YPOGEGRAMMENIwPERISPOMENIa AN",
   "D YPOGEGRAMMENIzeVARIAa AND YPOGEGRAMMENIxYPOGEGRAMMENIxMACRONgOXIAa AND YPOGEGRAMMENIwPERISPO",
   "MENIa AND YPOGEGRAMMENIzdSILIa AND OXIAa AND YPOGEGRAMMENIwPERISPOMENIa AND YPOGEGRAMMENIzeVAR",
   "IAa AND YPOGEGRAMMENIxYPOGEGRAMMENIxTONOSfVARIAa AND YPOGEGRAMMENIwRACHYgYPOGEGRAMMENIxRCHAI",
   "C KOPPAfSAMPInBETAeCHIdDELTAeIGAMMAhEPSILONa WITH DASIAa AND OXIAeVARIApOXIAePSILIa AND OXIAeV",
   "ARIApTONOSfVARIArTAa WITH DASIAa AND OXIAa AND YPOGEGRAMMENIwPERISPOMENIa AND YPOGEGRAMMENIzeV",
   "ARIAa AND YPOGEGRAMMENIxYPOGEGRAMMENIxOXIAa AND YPOGEGRAMMENIwPERISPOMENIa AND YPOGEGRAMMENIzd",
   "SILIa AND OXIAa AND YPOGEGRAMMENIwPERISPOMENIa AND YPOGEGRAMMENIzeVARIAa AND YPOGEGRAMMENIxYPO",
   "GEGRAMMENIxTONOSfVARIAa AND YPOGEGRAMMENIxYPOGEGRAMMENIwFINAL SIGMAlGAMMAfHETAeIOTAa WITH DASI",
   "Aa AND OXIAePERISPOMENIlVARIAoIALYTIKAa AND OXIAePERISPOMENIlTONOSfVARIAtMACRONgOXIAePERISPOME",
   "NIkSILIa AND OXIAePERISPOMENIlVARIApTONOSfVARIAeRACHYqKAPPAeOPPAfLAMDAfMUcNUcOMEGAa WITH DASIA",
   "a AND OXIAa AND YPOGEGRAMMENIwPERISPOMENIa AND YPOGEGRAMMENIzeVARIAa AND YPOGEGRAMMENIxYPOGEGR",
   "AMMENIxOXIAa AND YPOGEGRAMMENIwPERISPOMENIa AND YPOGEGRAMMENIzdSILIa AND OXIAa AND YPOGEGRAMME",
   "NIwPERISPOMENIa AND YPOGEGRAMMENIzeVARIAa AND YPOGEGRAMMENIxYPOGEGRAMMENIxTONOSfVARIAa AND YPO",
   "GEGRAMMENIxYPOGEGRAMMENIwICRONa WITH DASIAa AND OXIAeVARIApOXIAePSILIa AND OXIAeVARIApTONOSfVA",
   "RIAsPAMPHYLIAN DIGAMMArHIcIbSIdRHOa WITH DASIAfPSILIoSAMPIdNcHOcIGMAeTIGMAgTAUcHETAfUPSILONa W",
   "ITH DASIAa AND OXIAePERISPOMENIlVARIAoIALYTIKAa AND OXIAePERISPOMENIlTONOSfVARIAtMACRONgOXIAeP",
   "ERISPOMENIkSILIa AND OXIAePERISPOMENIlVARIApTONOSfVARIAeRACHYtXIcZETAlREVERSED DOTTED LUNATE S",
   "IGMA SYMBOLzbLUNATE SIGMA SYMBOLziUBSCRIPT SMALL LETTER BETAeCHIdGAMMAfPHIdRHOzYMBOL TAU RHOoT",
   "ALENT SIGNkHETA SYMBOLkREE OBOLS SIGNkQUARTERS SIGNsONOSeRYBLION BASE SIGNrWO OBOLS SIGNkTHIRD",
   "S SIGNpUPSILON WITH ACUTE AND HOOK SYMBOLvDIAERESIS AND HOOK SYMBOLzHOOK SYMBOLyVARIAeOCAL NOT",
   "ATION SYMBOL-1a0b1b2b3b4b5b6b7b8b9c2a0b1b2b3b4c3b4b5a0b1b2b3b4c6b7b8b9xXESTES SIGNlYEAR SIGNiP",
   "OGEGRAMMENInZERO SIGNlN APPLEfBOOKeHEARTfSALADjIMACING FACElNNING CAT FACE WITH SMILING EYESzb",
   "FACEa WITH ONE LARGE AND ONE SMALL EYEzcSMILING EYESlTAR EYESzbOUP MARKeSEPARATORmWING HEARTmS",
   "bUARANI SIGNiDSMANhIDE DOGgTAReJARATI ABBREVIATION SIGNrDIGIT EIGHTfFIVEdOUReNINEeONEdSEVENeIX",
   "dTHREEeWOdZEROkLETTER AaAbIbUcBAbHAdCAbHAdDAbDAbHAdHAdEbGAbHAdHAcIaIcJAbHAdKAbHAdLAbLAdMAcNAbG",
   "AcNAcYAdObPAbHAdRAcSAbHAcSAdTAbHAcTAbHAeUaUcVAbOCALIC LaLcRaRkYAcZHAkOMcRUPEE SIGNkSIGN ANUSVA",
   "RAhVAGRAHAiCANDRABINDUkIRCLE NUKTA ABOVEsMADDAHgNUKTAfSHADDAfUKUNfTHREE-DOT NUKTA ABOVEuWO-CIR",
   "CLE NUKTA ABOVEwVIRAMAeSARGAmVOWEL CANDRA EbOiSIGN AAbIbUcCANDRA EbOiEbIaIcObUaUcVOCALIC LaLcR",
   "aRzdNJALA GONDI DIGIT EIGHTfFIVEdOUReNINEeONEdSEVENeIXdTHREEeWOdZEROkLETTER AaAbIbUcBAbHAdCAbH",
   "AdDAbDAbHAdHAdEEcGAbHAdHAcIaIcJAbHAdKAbHAdLAbLAdMAcNAbGAdOOcPAbHAdRAcSAcTAbHAcTAbHAeUaUcVAcYAj",
   "OMcSIGN ANUSVARAiVISARGAmVIRAMAfOWEL SIGN AAbIbUcEEcIaIcOOcUaUzRMUKHI ABBREVIATION SIGNqDDAKfD",
   "IGIT EIGHTfFIVEdOUReNINEeONEdSEVENeIXdTHREEeWOdZEROkEK ONKARiIRIdLETTER AaAbIbUcBAbHAdCAbHAdDA",
   "bDAbHAdHAdEEcFAcGAbHAbHAeHAcIaIcJAbHAdKAbHAbHAeLAbLAdMAcNAbGAcNAcYAdOOcPAbHAdRAbRAdSAbHAdTAbHA",
   "cTAbHAeUaUcVAcYAcZAjSIGN ADAK BINDIkBINDIfNUKTAfUDAATfVIRAMAeSARGAhYAKASHlTIPPIfURAdVOWEL SIG",
   "N AAbIbUcEEcIaIcOOcUaU"]

def nameTapeH : List String :=
  ["HADESdIR SPACEgCUTfLFWIDTH BLACK SQUAREmDOWNWARDS ARROWpFORMS LIGHT VERTICALuHANGUL FILLERgLET",
   "TER AaEcCHIEUCHgIEUCfEaObUcHIEUHfIaEUNGfKHIEUKHgIYEOKa-SIOSlMIEUMfNIEUNa-CIEUCfHIEUHlOaEcPHIEU",
   "PHgIEUPa-SIOSkRIEULa-HIEUHfKIYEOKgMIEUMfPHIEUPHgIEUPfSIOSeTHIEUTHnSIOSdSANGCIEUCfKIYEOKgPIEUPf",
   "SIOSeTIKEUTlTHIEUTHgIKEUTgUbWAaEcEaOcIcYAaEcEaOcIbObUqIDEOGRAPHIC COMMAfFULL STOPvKATAKANA LET",
   "TER AbEbHAbEbIbObUcIbKAbEbIbObUcMAbEbIbObUcNaAbEbIbObUcObRAbEbIbObUcSAbEbIbMALL AbEbIbObTUcUbY",
   "AbObUhObUcTAbEbIbObUcUbWAbOcYAbObUjMIDDLE DOTkSEMI-VOICED SOUND MARKwVOICED SOUND MARKs-HIRAGA",
   "NA PROLONGED SOUND MARKznLEFT CORNER BRACKETpWARDS ARROWpRIGHT CORNER BRACKETpWARDS ARROWqUPWA",
   "RDS ARROWnWHITE CIRCLEuMBURGERgMERa AND PICKeSICKLEgWRENCHoSAbTER FACEkND WITH INDEX AND MIDDL",
   "E FINGERS CROSSEDzbFINGER AND THUMB CROSSEDzlBAGbLLeSHAKEgGUL CHOSEONG CEONGCHIEUMCHIEUCHgIEUC",
   "fSIOSdSANGCIEUCfSIOStHIEUCHa-HIEUHfKHIEUKHmTUEUMCHIEUCHgIEUCfSIOSdSANGCIEUCfSIOSqIEUCa-IEUNGlF",
   "ILLERgHIEUHa-SIOSkIEUNGa-CHIEUCHgIEUCfHIEUHfKIYEOKgMIEUMfPANSIOSgHIEUPHgIEUPfRIEULfSIOSeTHIEUT",
   "HgIKEUTmKAPYEOUNMIEUMfPHIEUPHgIEUPfRIEULfSSANGPIEUPrHIEUKHgIYEOKa-TIKEUTnMIEUMa-KIYEOKgPIEUPfS",
   "IOSeTIKEUTmNIEUNa-CIEUCfHIEUHfKIYEOKgPIEUPfSIOSeTIKEUTmPANSIOSgHIEUPHa-HIEUHfPIEUPmIEUPa-CHIEU",
   "CHgIEUCfHIEUHfKHIEUKHgIYEOKgNIEUNfPHIEUPHhSIOSa-CIEUCfKIYEOKgPIEUPfTHIEUTHgIKEUTkSANGSIOSjTHIE",
   "UTHgIKEUTmRIEULa-CIEUCfHIEUHfKAPYEOUNPIEUPmHIEUKHgIYEOKgMIEUMfNIEUNfPIEUPfSIOSdSANGKIYEOKgPIEU",
   "PfTIKEUTlTIKEUTmSIOSa-CHIEUCHgIEUCfHIEUHfIEUNGfKHIEUKHgIYEOKgMIEUMfNIEUNfPHIEUPHgIEUPa-KIYEOKm",
   "RIEULfSSANGSIOSjTHIEUTHgIKEUTkSANGCIEUCa-HIEUHlHIEUHfIEUNGfKIYEOKgNIEUNfPIEUPfRIEULfSIOSa-PIEU",
   "PkTHIEUTHgIKEUTgYEORINHIEUHqTHIEUTHgIKEUTa-CIEUCfKIYEOKgMIEUMfPIEUPfRIEULfSIOSlYEORINHIEUHjSIE",
   "UNGrDOUBLE DOT TONE MARKuFILLERgJONGSEONG CHIEUCHgIEUCa-PIEUPfSSANGPIEUPqHIEUHa-MIEUMfNIEUNfPI",
   "EUPfRIEULlIEUNGa-KHIEUKHgIYEOKgSSANGKIYEOKrKAPYEOUNMIEUMfPHIEUPHgIEUPfRIEULmHIEUKHgIYEOKa-CHIE",
   "UCHhHIEUHfKHIEUKHhNIEUNfPIEUPfRIEULfSIOSa-KIYEOKsMIEUMa-CHIEUCHgIEUCfHIEUHfKIYEOKgNIEUNfPANSIO",
   "SgIEUPa-SIOSkRIEULfSIOSdSANGNIEUNfSIOSpNIEUNa-CHIEUCHgIEUCfHIEUHfKIYEOKgPANSIOShRIEULfSIOSeTHI",
   "EUTHgIKEUTmPANSIOSa-KAPYEOUNPIEUPnPIEUPmHIEUPHa-PIEUPfSIOSeTHIEUTHoIEUPa-CHIEUCHgIEUCfHIEUHfMI",
   "EUMfPHIEUPHhRIEULa-PHIEUPHnSIOSa-TIKEUTlTIKEUTmRIEULa-HIEUHfKAPYEOUNPIEUPmHIEUKHgIYEOKa-HIEUHf",
   "SIOSlMIEUMa-HIEUHfKIYEOKgSIOSkNIEUNfPANSIOSgHIEUPHgIEUPa-HIEUHfPHIEUPHhSIOSeTIKEUTmSIOSdSANGKI",
   "YEOKgSIOSjTHIEUTHgIKEUTa-HIEUHmYEORINHIEUHa-HIEUHpSIEUNGoSIOSa-CHIEUCHgIEUCfHIEUHfKAPYEOUNPIEU",
   "PmIYEOKgMIEUMfPANSIOSgIEUPfRIEULfTHIEUTHgIKEUTkSANGCIEUCfIEUNGfKIYEOKgMIEUMfNIEUNfPIEUPfRIEULa",
   "-KHIEUKHnSIOSa-KIYEOKgTIKEUTlTIKEUTa-PIEUPmYESIEUNGnTHIEUTHgIKEUTa-CHIEUCHgIEUCfKIYEOKgPIEUPfR",
   "IEULfSIOSa-KIYEOKlTHIEUTHoYEORINHIEUHjSIEUNGa-HIEUHfKHIEUKHgIYEOKgMIEUMfPANSIOShSIOSdSANGKIYEO",
   "KzeUNGSEONG Aa-EUcObUcEbRAEAa-AbEaOcIbUhEaOa-EUcObUdUa-AbEaObUcObUeFILLERgIa-AaRAEAfEUcIbOa-Id",
   "UbYAa-OcEcEaOcObUeOa-EaOcOa-IdUbYAaEcEaOeEcSSANGARAEAkUa-AaEcEO-EUfI-IdUbYEaOfWAaEcEaOcIcYAa-O",
   "bUbYOdEcEaOa-ObUbYAfIa-UdOa-AaEcEOcIbObYAaEcEOfUa-AaEcEaOcIbObUbYEaOqLETTER AaEbRAEAaEgCHIEUCH",
   "gIEUCfEaObUcHIEUHfIaEUNGfKAPYEOUNMIEUMfPHIEUPHgIEUPfSSANGPIEUPrHIEUKHgIYEOKa-SIOSlMIEUMa-PANSI",
   "OSgIEUPfSIOSkNIEUNa-CIEUCfHIEUHfPANSIOShSIOSeTIKEUTmOaEcPANSIOSgHIEUPHgIEUPa-CIEUCfKIYEOKgSIOS",
   "a-KIYEOKgTIKEUTlTHIEUTHgIKEUTmRIEULa-HIEUHfKIYEOKa-SIOSlMIEUMfPANSIOSgHIEUPHgIEUPa-SIOSkSIOSeT",
   "HIEUTHgIKEUTgYEORINHIEUHrSIOSa-CIEUCfKIYEOKgNIEUNfPIEUPfTIKEUTkSANGCIEUCfHIEUHfIEUNGfKIYEOKgNI",
   "EUNfPIEUPfSIOSeTIKEUTlTHIEUTHgIKEUTgUbWAaEcEaOcIcYAaEcEaOaRINHIEUHjSIEUNGa-PANSIOShSIOSmIbOa-I",
   "bYAaEfUa-IbYEaOnSINGLE DOT TONE MARKxZHOU NUMERAL EIGHTfFIVEdOUReNINEeONEdSEVENeIXdTENcHIRTYeR",
   "EEeWENTYeOrIFI ROHINGYA DIGIT EIGHTfFIVEdOUReNINEeONEdSEVENeIXdTHREEeWOdZEROkLETTER AbBAcCAcDA",
   "bDAdFAcGAcHAcJAcKAbHAcINNA WAcYAiLAcMAcNAbGAcYAdPAcRAbRAdSAbHAdTAbTAdVAcWAcYAcZAjMARK NA KHONN",
   "AjSAKINkSIGN HARBAHAYiTAHALAeNAcSSIkVOWEL AbEbIbObUuUNOO LETTER AbBAcDAcGAcHAcIbKAcLAcMAcNAbGA",
   "dPAcRAcSAcTAcUbWAcYAjSIGN PAMUDPODnVOWEL SIGN IbUsPPY PERSON RAISING ONE HANDzcRD DISKhTCHIN",
   "G CHICKlRAN LETTER ALEPHeYNdBETHeDALETH-RESHlGIMELfHEaTHeKAPHeLAMEDHgMEMdNUNdPEcQOPHeSADHEdMEK",
   "HfHINeTAWcETHeWAWdYODHeZAYNlNUMBER FIVEeONEa HUNDREDlTENcWENTYtEADPHONEfSTONEa GRAVEYARD SYMBO",
   "LxR-NO-EVIL MONKEYpT DECORATIONkHANDSfWITH ARROWfRIBBONgTIP ON THE LEFTxVY AMPERSAND ORNAMENTr",
   "RROW SHAFT WIDTH ONEa HALFeTHIRDjTWO THIRDSzcSTERISKiBALLOT XhLACK CURVED DOWNWARDS AND RIGHTW",
   "ARDS ARROWzfUPWARDS AND RIGHTWARDS ARROWzkHEARTg-FEATHERED NORTH EAST ARROWqRIGHTWARDS ARROWqS",
   "OUTH EAST ARROWzhCHECK MARKhVRON SNOWFLAKEqIRCLEa WITH CIRCLE INSIDEnSTROKE AND TWO DOTS ABOVE",
   "zgD SALTIREoONCAVE-POINTED BLACK RIGHTWARDS ARROWznDASHED TRIANGLE-HEADED RIGHTWARDS ARROWznIV",
   "ISION SIGNmOLLAR SIGNjUBLE COMMA QUOTATION MARK ORNAMENTzeTURNED COMMA QUOTATION MARK ORNAMENT",
   "zqWNWARDS ARROW WITH EQUILATERAL ARROWHEADvLARGE EQUILATERAL ARROWHEADzxEIGHT POINTED BLACK ST",
   "ARkPINWHEEL STARnRECTILINEAR BLACK STARzfSPOKED ASTERISKpTEARDROP-SPOKED PROPELLER ASTERISKzoQ",
   "UALS SIGNkXCLAMATION MARK ORNAMENTiSYMBOLxFIVE POINTED BLACK STARsSPOKED ASTERISKtOUR BALLOON-",
   "SPOKED ASTERISKzdGREEK CROSSlHEART EXCLAMATION MARK ORNAMENTzfORIZONTAL FILLpINTERROBANG ORNAM",
   "ENTuLARGE CIRCLEkTIN CROSSkEFT-POINTING ANGLE BRACKET ORNAMENTqQUOTATION MARK ORNAMENTzoWARD",
   "S ARROW WITH EQUILATERAL ARROWHEADvLARGE EQUILATERAL ARROWHEADzwIGATURE OPEN ET ORNAMENTyOW DO",
   "UBLE COMMA QUOTATION MARK ORNAMENTzlSINGLE COMMA QUOTATION MARK ORNAMENTzmER RIGHT-SHADOWED WH",
   "ITE RIGHTWARDS ARROWzsMINUS SIGNjULTIPLICATION XqNORTH EAST ARROWfPOINTING BUDdVINE LEAFxWES",
   "T POINTING BUDdVINE LEAFzeOPEN CENTRE CROSSqUTLINED BLACK STARsVAL WITH OVAL INSIDEvPLUS SIGNj",
   "RIGHT-POINTING ANGLE BRACKET ORNAMENTqQUOTATION MARK ORNAMENTzoWARDS ARROWa WITH EQUILATERAL A",
   "RROWHEADvLARGE EQUILATERAL ARROWHEADzxOUND-TIPPED RIGHTWARDS ARROWzeSALTIREfNS-SERIF INTERROBA",
   "NG ORNAMENTzfCRIPT LIGATURE ET ORNAMENTzbINGLE COMMA QUOTATION MARK ORNAMENTzeTURNED COMMA QUO",
   "TATION MARK ORNAMENTzqX POINTED BLACK STARsSPOKED ASTERISKsOUTH EAST ARROWfPOINTING BUDdVINE L",
   "EAFxWEST POINTING BUDdVINE LEAFzdPARKLEhTEARDROP-SHANKED RIGHTWARDS ARROWxPOKED ASTERISKiPINWH",
   "EEL ASTERISKzhRIANGLE-HEADED RIGHTWARDS ARROWzgWELVE POINTED BLACK STARkPINWHEEL STARzdUPPER R",
   "IGHT-SHADOWED WHITE RIGHTWARDS ARROWzqWARDS ARROW WITH EQUILATERAL ARROWHEADvLARGE EQUILATERA",
   "L ARROWHEADzvVERTICAL BARmWEDGE-TAILED RIGHTWARDS ARROWzdHITE CIRCLEgDOWN-POINTING TRIANGLEwSQ",
   "UARElIDE-HEADED RIGHTWARDS ARROWzhBREW ACCENT ATNAH HAFUKHmDARGAeEHIeETNAHTAhGERESHa MUQDAMkSH",
   "AYIMjILUYeMAHAPAKHhERKHAa KEFULAmUNAHfOLEdPASHTAeZERfQADMAdRNEY PARAlREVIAfSEGOLeHALSHELETkTEL",
   "ISHA GEDOLAgQETANAmVIReIPEHAgYERAH BEN YOMOmTIVfZAQEF GADOLfQATANjRQAeINORmLETTER ALEFa WITH M",
   "APIQfPATAHfQAMATSoTERNATIVE AYINePLUS SIGNuYINeBETa WITH DAGESHgRAFEnDALETa WITH DAGESHrFINA",
   "L KAFa WITH DAGESHpMEMdNUNdPEa WITH DAGESHoTSADIlGIMELa WITH DAGESHrHEa WITH MAPIQlTdKAFa WIT",
   "H DAGESHgRAFEnLAMEDa WITH DAGESHrMEMa WITH DAGESHpNUNa WITH DAGESHpPEa WITH DAGESHgRAFEmQOFa W",
   "ITH DAGESHpRESHa WITH DAGESHqSAMEKHa WITH DAGESHrHINa WITH DAGESHa AND SHIN DOThIN DOTsSHIN DO",
   "ThIN DOTrTAVa WITH DAGESHoETa WITH DAGESHoSADIa WITH DAGESHrVAVa WITH DAGESHgHOLAMoWIDE ALEFeD",
   "ALETfFINAL MEMjHEcKAFdLAMEDfRESHeTAViYODa WITH DAGESHgHIRIQoZAYINa WITH DAGESHxIGATURE ALEF LA",
   "MEDkYIDDISH DOUBLE VAVdYODkVAV YODhYOD YOD PATAHzfMARK LOWER DOTjMASORA CIRCLEnUPPER DOToPOIN",
   "T DAGESH OR MAPIQpHATAF PATAHfQAMATSgSEGOLkIRIQeOLAMa HASER FOR VAVtJUDEO-SPANISH VARIKAuMETEG",
   "fPATAHfQAMATSa QATANlUBUTSgRAFEeSEGOLeHEVAdIN DOThIN DOThTSEREkUNCTUATION GERESHdSHAYIMjMAQAFf",
   "NUN HAFUKHAlPASEQfSOF PASUQvYOD TRIANGLErDGEHOGgLICOPTERhLSCHREIBER PAUSE SYMBOLxM SYMBOLhET W",
   "ITH WHITE CROSSvNTAIGANA LETTER A-1b2b3bWOeE-1b2b3b4b5b6dHA-1a0b1c2b3b4b5b6b7b8b9dE-1b2b3b4b5b",
   "6b7dI-1b2b3b4b5b6b7dO-1b2b3b4b5b6b7b8dU-1b2b3eI-1b2b3b4dKA-1a0b1c2b3b4b5b6b7b8b9bKEeE-1b2b3b4b",
   "5b6dI-1b2b3b4b5b6b7b8dO-1b2b3bKIeU-1b2b3b4b5b6b7eMA-1b2b3b4b5b6b7dE-1b2bMAeI-1b2b3b4b5b6b7dO-1",
   "b2b3b4b5b6dU-1b2b3b4eN-MU-MO-1b2iA-1b2b3b4b5b6b7b8b9dE-1b2b3b4b5b6bKOeI-1b2b3b4b5b6b7bTEeO-1b2",
   "b3b4b5dU-1b2b3eO-1b2b3dRA-1b2b3b4dE-1b2b3b4dI-1b2b3b4b5b6b7dO-1b2b3b4b5b6dU-1b2b3b4b5b6eSA-1b2",
   "b3b4b5b6b7b8dE-1b2b3b4b5dI-1b2b3b4b5b6dO-1b2b3b4b5b6b7dU-1b2b3b4b5b6b7b8eTA-1b2b3b4dE-1b2b3b4b",
   "5b6b7b8b9dI-1b2b3b4b5b6b7dO-1b2b3b4b5b6bRAeU-1b2b3b4bTOfU-1b2b3b4b5dWA-1b2b3b4b5dE-1b2b3b4dI-1",
   "b2b3b4b5dO-1b2b3b4b5b6b7eYA-1b2b3b4b5bYOeO-1b2b3b4b5b6dU-1b2b3b4uRBbMITIAN CONJUGATE MATRIXyXA",
   "GRAM FOR ABUNDANCEiFTER COMPLETIONpPPROACHiBEFORE COMPLETIONqITING THROUGHnREAKTHROUGHmCOMIN",
   "G TO MEETmNFLICTfTEMPLATIONnDARKENING OF THE LIGHTvECREASEgLIVERANCEjVELOPMENTkIFFICULTY AT TH",
   "E BEGINNINGzSPERSIONjURATIONiENTHUSIASMkFELLOWSHIPjOLLOWINGjGATHERING TOGETHERrRACEdEAT POSSES",
   "SIONiWEReREPONDERANCEnTAMINGmHOLDING TOGETHERqINCREASEgFLUENCEhNER TRUTHiOCENCEjLIMITATIONkMOD",
   "ESTYfUTH CORNERSnOBSTRUCTIONkPPOSITIONhRESSIONkPEACEeROGRESShUSHING UPWARDoRETREATeURNeVOLUTIO",
   "NkSMALL PREPONDERANCEnTAMINGlPLITTING APARToTANDSTILLkTHE ABYSMAL WATERmRMYcOUSING THUNDERqCAU",
   "LDRONhLINGING FIREmREATIVE HEAVENpFAMILYgGENTLE WINDlJOYOUS LAKElKEEPING STILL MOUNTAINwMARRYI",
   "NG MAIDENpRECEPTIVE EARTHpWANDERERhELLhREADINGiWAITINGgORK ON THE DECAYEDtYOUTHFUL FOLLYzbIBIS",
   "CUSgGH BRIGHTNESS SYMBOLrOCTET PRESETmVOLTAGE SIGNn-HEELED SHOElSPEED TRAINa WITH BULLET NOSEz",
   "gKING BOOTjNDU TEMPLEkPPOPOTAMUSkRAGANA DIGRAPH YORImITERATION MARKoLETTER AaRCHAIC WUcYEkBAbE",
   "bIbObUcDAbEbIbObUcEbGAbEbIbObUcHAbEbIbObUcIbKAbEbIbObUcMAbEbIbObUcNaAbEbIbObUcObPAbEbIbObUcRAb",
   "EbIbObUcSAbEbIbMALL AbEbIbKAbEcObTUcUbWAbEbIbOcYAbObUhObUcTAbEbIbObUcUbVUcWAbEbIbOcYAbObUcZAbE",
   "bIbObUjVOICED ITERATION MARKzdSTORIC SITEmOCHOdLEbLOW QUILT SQUARE ORNAMENTa IN BLACK SQUAREzr",
   "MOTHETICiNEY POTeBEEgOKcPbRIZONTAL BARcLACK HEXAGONhOCTAGONnELLIPSISiLINE EXTENSIONoMALE WIT",
   "H STROKE SIGNvONE EIGHTH BLOCK-1358e2b3b4b5b6b7sSCAN LINE-1b3b7b9lTAB KEYeULATIONa SETdWITH JU",
   "STIFICATIONzdRAFFIC LIGHTvSEa FACEeRACINGkSPITALgT BEVERAGEiDOGdPEPPERgSPRINGSiELdURGLASSa WIT",
   "H FLOWING SANDySEa BUILDINGaSjWITH GARDENqRYVNIA SIGNlTaJbScUGGING FACEkNDRED POINTS SYMBOLtSH",
   "ED FACEjTcYGIEAePHENa BULLETgWITH DIAERESISp-MINUSgATION POINToODIASTOLEkSTERESIS SYMBOL"]

def nameTapeI : List String :=
  ["I LOVE YOU HAND SIGNtCE CREAMeUBEeHOCKEY STICK AND PUCKvSKATEiDENTICAL TOa AND SLANTED PARALLE",
   "LxWITH DOT ABOVEsFICATION CARDqOGRAPHIC ANNOTATION BOTTOM MARKlEARTH MARKkFIRST MARKjOUR MARKf",
   "TH MARKlHEAVEN MARKlLINKING MARKmMAN MARKhIDDLE MARKlONE MARKiREVERSE MARKmSECOND MARKlTHIRD M",
   "ARKiREE MARKjOP MARKhWO MARKtCLOSING MARKlOMMAfDEPARTING TONE MARKrSCRIPTION CHARACTER ABOVE T",
   "O BELOWfMIDDLE AND BELOWzFULL SURROUNDnLEFT TO MIDDLE AND RIGHTqRIGHTnOVERLAIDiSURROUND FROM A",
   "BOVEfBELOWfLEFTdOWER LEFTkUPPER LEFTeRIGHTzwENTERING TONE MARKsFULL STOPjHALF FILL SPACEpITERA",
   "TION MARKoLEVEL TONE MARKpNUMBER ZEROlRISING TONE MARKqSPACEfTALLY MARK FIVEdOUReONEdTHREEeWOn",
   "ELEGRAPH LINE FEED SEPARATOR SYMBOLzbSYMBOL FOR APRILeUGUSTgDAY EIGHTaEENhLEVENgFIFTEENfVEdOUR",
   "aTEENiNINEaTEENiONEdSEVENaTEENiIXaTEENhTENcHIRTEENdYa-ONEiREEeWELVEdNTYa-EIGHTfFIVEdOUReNINEeO",
   "NEdSEVENeIXdTHREEeWOiOgECEMBERiFEBRUARYiHOUR EIGHTaEENhLEVENgFIFTEENfVEdOURaTEENiNINEaTEENiONE",
   "dSEVENaTEENiIXaTEENhTENcHIRTEENgREEeWELVEdNTYa-FOUReONEdTHREEeWOiOdZEROjJANUARYgULYcNEeMARCHdY",
   "dNOVEMBERiOCTOBERhSEPTEMBERzfVARIATION INDICATORzfMAGE OFa OR APPROXIMATELY EQUAL TOzhPaERIA",
   "L ARAMAIC LETTER ALEPHeYINeBETHeDALETHgGIMELfHEaTHeKAPHeLAMEDHgMEMdNUNdPEcQOPHeRESHeSADHEdMEKH",
   "fHINeTAWcETHeWAWdYODHeZAYINmNUMBER ONEa HUNDREDhTHOUSANDmTENa THOUSANDlHREEeWENTYeOkSECTION SI",
   "GNzdNBOX TRAYiCOMING ENVELOPEmPLETE INFINITYqREASE FONT SIZE SYMBOLrS AShMENThDaEXa POINTING A",
   "T THE VIEWERzIAN RUPEE SIGNnC SIYAQ ALTERNATE LAKH MARKtFRACTION ONE HALFeQUARTERlTHREE QUARTE",
   "RSxLAKH MARKjNUMBER ALTERNATE ONEdTEN THOUSANDlWOnEIGHTa HUNDREDhTHOUSANDjYa THOUSANDpFIFTYa T",
   "HOUSANDmVEa HUNDREDhTHOUSANDmORTYa THOUSANDmURa HUNDREDhTHOUSANDnKARORaANhLAKHaANgNINEa HUNDRE",
   "DhTHOUSANDjTYa THOUSANDpONEa HUNDREDhTHOUSANDmPREFIXED EIGHTfFIVEdOUReNINEeONEdSEVENeIXdTHREEe",
   "WOmSEVENa HUNDREDhTHOUSANDjTYa THOUSANDpIXa HUNDREDhTHOUSANDjTYa THOUSANDoTENa THOUSANDlHIRTY",
   "a THOUSANDnREEa HUNDREDhTHOUSANDnWENTYa THOUSANDnOa HUNDREDhTHOUSANDtPLACEHOLDERlRUPEE MARKuFI",
   "NITYa NEGATED WITH VERTICAL BARzgORMATION DESK PERSONlSEPARATOR FOUReONEdTHREEeWOmOURCEqHIBI",
   "T ARABIC FORM SHAPINGtSYMMETRIC SWAPPINGyPUT SYMBOL FOR LATIN CAPITAL LETTERSpLETTERShSMALL LE",
   "TTERStNUMBERShSYMBOLSwSCRIPTIONAL PAHLAVI LETTER ALEPHfBETHeDALETHgGIMELfHEaTHeKAPHeLAMEDHgMEM",
   "-QOPHiNUNdPEcSADHEdMEKHfHINeTAWcETHeWAW-AYIN-RESHnYODHeZAYINmNUMBER FOUReONEa HUNDREDhTHOUSAND",
   "mTENcHREEeWENTYeOqRTHIAN LETTER ALEPHeYINeBETHeDALETHgGIMELfHEaTHeKAPHeLAMEDHgMEMdNUNdPEcQOPHe",
   "RESHeSADHEdMEKHfHINeTAWcETHeWAWdYODHeZAYINmNUMBER FOUReONEa HUNDREDhTHOUSANDmTENcHREEeWENTYeOz",
   "fERTION SYMBOLoTEGRALa AROUND A POINT OPERATORwVERAGE WITH SLASHsEXTENSIONjWITH DOUBLE STROKEn",
   "INTERSECTIONmLEFTWARDS ARROW WITH HOOKzOVERBARhTIMES SIGNkUNDERBARgIONpRCALATEgIOR PRODUCTlLIN",
   "EAR ANNOTATION ANCHORgSEPARATORjTERMINATORzcOCKED FEMALE AND MALE SIGNzcROBANGgSECTIONa ABOV",
   "E BAR ABOVE UNIONpUNIONlBESIDE AND JOINED WITH INTERSECTIONzkWITH DOTdLOGICAL ANDlOVERBARxVERS",
   "E BULLETgCHECK MARKfER BOARD FILLsDOWNWARDS ARROW WITH TIP LEFTWARDSzjMEDIUM SHADEmWHITE CIRCL",
   "EpTED EXCLAMATION MARKqINTERROBANGlLAZY SfOW KAVYKAa WITH KAVYKA ABOVEzdOHM SIGNiPENTAGRAMjQUE",
   "STION MARKnUNDERTIEoISIBLE PLUSeSEPARATORjTIMESoZAKAYA LANTERN"]

def nameTapeJ : List String :=
  ["JACK-O-LANTERNmPANESE BANK SYMBOLlCASTLEgDOLLSfGOBLINgINDUSTRIAL STANDARD SYMBOLzbOGREePOST OF",
   "FICElSYMBOL FOR BEGINNERzbRbVANESE CONSONANT SIGN CAKRAfKERETfPENGKALwDIGIT EIGHTfFIVEdOUReNIN",
   "EeONEdSEVENeIXdTHREEeWOdZEROkLEFT RERENGGANmTTER AaIcBAa MURDAiCAa MURDAiDAa MAHAPRANAlDAa MAH",
   "APRANAnEbGAa MURDAiHAcIa KAWIfIcJAa MAHAPRANAmKAa MURDAfSASAKiLAcMAcNAa MURDAhGAa LELETa RASWA",
   "DIqYAa MURDAjObPAa CEREKfMURDAiRAa AGUNGiSAa MAHAPRANAiURDAiTAa MURDAhTAa MAHAPRANAnUbWAcYAjPA",
   "DA ADEGa ADEGiNDAPfISEN-ISENjLINGSAfUHURdNGSIgMADYAfPANGKATgISELEHhTIRTA TUMETESnWINDUiNGKONdR",
   "ANGKEPlRIGHT RERENGGANpSIGN CECAKa TELUkLAYARfPANYANGGAjWIGNYANmTURNED PADA PISELEHtVOWEL SIG",
   "N DIRGA MUREkPEPETfSUKUa MENDUTlTALINGeRUNGfOLONGgWULUa MELIKzeEANSeIGSAW PUZZLE PIECEsOINcYST",
   "ICKhUGGLINGgNOcPITER"]

def nameTapeK : List String :=
  ["KAABAdITHI ABBREVIATION SIGNrDANDAeOUBLE DANDAfSECTION MARKtENUMERATION SIGNqLETTER AaAbIbUcBA",
   "bHAdCAbHAdDAbDAbDHAdHAdHAdEbGAbHAdHAcIaIcJAbHAdKAbHAdLAcMAcNAbGAcNAcYAdObPAbHAdRAbHAdSAbHAcSAd",
   "TAbHAcTAbHAeUaUcVAcYAjNUMBER SIGNa ABOVErSECTION MARKlIGN ANUSVARAiCANDRABINDUlNUKTAfVIRAMAeSA",
   "RGAmVOWEL SIGN AAbIbUcEbIaIcObUaUcVOCALIC RzNGAROOeXI RADICAL AGAINeNDcRRIVEdOWeXEdBADGEReMBOO",
   "fEANdIGbRDcTTERfLACKdOODdUEdOATcDYcLT OF CLOTHlNEcWcRANCHeISTLEfUSHfCARTcULDRONgVEdHILDeITYdLA",
   "NbWcIFFdOTHESgOLORdMPAREfRPSEeVERdWdDEATHdERdIPPEReSHbTINGUISHjVINATIONjO NOTeGbORcTaTED CLIFF",
   "fTENTjUBLE XgWN BOXhRAGONeUMcYdEARaTHdTcIGHTeMBROIDERYjNCLOSUREhTEReVENaINGgYEdFACEcNGcTHERfEA",
   "THERgIELDdGHTdREcSHdLUTEdYcOOTdRAGRANTgOGdURdGATEdHOSTeOa SLOWLYhLDdRAINcSSfHAIRcLBERDeF TRE",
   "E TRUNKnNDdEADbRTdMPdIDING ENCLOSUREpOOKcRNbSEfICEcNCHcSECTgJADEcRdKNIFEfLACKcMEdEAFbTHERfEKcG",
   "SdIDbFEcNEdONGa STRIDElMANcEATcLONeILLETeNISTERhOONcRNINGeTAReUNDbTAINfTHfNETcOSEcTdOLDcNEaSEL",
   "FgPEN BOXgPOSEgPIGcLOWdOWEReRIVATEfOFOUNDiRAINcPbTcEDcICEcGHT OPEN BOXmVEReOOFdUNdSACRIFICIA",
   "L WINEoLTcYcCHOLARfRIPTfEALcCONDeEbLFdHEEPcLLdOOTcRT TAILED BIRDkHREADlICKNESSgLKdKINdLASHcVEd",
   "ICEeMALLeNOUTeOUNDePEARcECHeIRITeOONdROUTfQUAREfTANDdEAMcPcONEcPaPINGhUNcWEETfTABLEdLLcNNED LE",
   "ATHERnENcIGERdLEdONGUEeOTHeRACKdEEcIPODfURBANdTLEfWOa HANDSjUSEdVALLEYfILLAGEhWALKa ENCLOSUREm",
   "TEReEAPONeSTdHEATdITEeINDbEdOMANdRKdRAPcONGfYELLOWsNADA AI LENGTH MARKoDIGIT EIGHTfFIVEdOUReNI",
   "NEeONEdSEVENeIXdTHREEeWOdZEROkLENGTH MARKjTTER AaAbIbUcBAbHAdCAbHAdDAbDAbHAdHAdEaEcFAcGAbHAdHA",
   "cIaIcJAbHAdKAbHAdLAbLAbLAeMAcNAaKAARA POLLUmGAcNAcYAdOaOcPAbHAdRAbRAdSAbHAcSAdTAbHAcTAbHAeUaUc",
   "VAbOCALIC LaLcRaRkYAjSIGN ANUSVARAhVAGRAHAiCANDRABINDUlJIHVAMULIYAlNUKTAfSIDDHAMgPACING CANDRA",
   "BINDUtUPADHMANIYAlVIRAMAeSARGAmVOWEL SIGN AAbIbUcEaEcIaIcOaOcUaUcVOCALIC LaLcRaRzcTAKANA DIGRA",
   "PH KOTOmITERATION MARKoLETTER AaRCHAIC EbWUcYEbIkBAbEbIbObUcDAbEbIbObUcEbGAbEbIbObUcHAbEbIbObU",
   "cIbKAbEbIbObUcMAbEbIaNNAN NASALIZED TONE-1b2b3b4b5b7b8qTONE-2b3b4b5b7b8mObUcNaAbEbIbObUcObPAbE",
   "bIbObUcRAbEbIbObUcSAbEbIbMALL AbEbHAbEbIbObUcIbKAbEbUcMUcNaUcObRAbEbIbObUcSIbUcTObUcUbWAbEbIbO",
   "cYAbObUhObUcTAbEbIbObUcUbVAbEbIbObUcWAbEbIbOcYAbObUcZAbEbIbObUjMIDDLE DOTkVOICED ITERATION MAR",
   "Kw-HIRAGANA DOUBLE HYPHENnPROLONGED SOUND MARKuSEMI-VOICED SOUND MARKwVOICED SOUND MARKziYAH L",
   "I DIGIT EIGHTfFIVEdOUReNINEeONEdSEVENeIXdTHREEeWOdZEROkLETTER AbBAcCAcDAcGAcHAbTAdIbKAbHAdLAcM",
   "AcNAbGAcYAdOEbOcPAbHAdRAcSAbHAdTAbHAdVAcWAcYAcZAjSIGN CWIdSHYAjTONE CALYAa PLOPHUmPLOPHUlVOWE",
   "L EaEcObUaEqELVIN SIGNjYaBOARDa AND MOUSEpCAP TENjHAROSHTHI DIGIT FOUReONEdTHREEeWOjFRACTION O",
   "NE HALFrLETTER AbBAbHAdCAbHAdDAbDAbHAdHAdGAbHAdHAcJAcKAbHAcKAdLAcMAcNAbNAcYAdPAbHAdRAcSAbHAcSA",
   "dTAbHAcTAbHAcTAbHAfVAbHAdYAcZAjNUMBER ONE HUNDREDhTHOUSANDmTENcWENTYnPUNCTUATION CIRCLEfRESCEN",
   "T BARmDANDAeOTbUBLE DANDAmLINESeOTUSfMANGALAMiSMALL CIRCLEySIGN ANUSVARAiBAR ABOVEjCAUDAfDOT B",
   "ELOWhUBLE RING BELOWrVISARGAmVIRAMAfOWEL LENGTH MARKlSIGN EbIbObUbVOCALIC RzeITAN SMALL SCRIP",
   "T CHARACTER-18B00b1b2b3b4b5b6b7b8b9bAbBbCbDbEbFc10b1b2b3b4b5b6b7b8b9bAbBbCbDbEbFc20b1b2b3b4b5b",
   "6b7b8b9bAbBbCbDbEbFc30b1b2b3b4b5b6b7b8b9bAbBbCbDbEbFc40b1b2b3b4b5b6b7b8b9bAbBbCbDbEbFc50b1b2b3",
   "b4b5b6b7b8b9bAbBbCbDbEbFc60b1b2b3b4b5b6b7b8b9bAbBbCbDbEbFc70b1b2b3b4b5b6b7b8b9bAbBbCbDbEbFc80b",
   "1b2b3b4b5b6b7b8b9bAbBbCbDbEbFc90b1b2b3b4b5b6b7b8b9bAbBbCbDbEbFcA0b1b2b3b4b5b6b7b8b9bAbBbCbDbEb",
   "FcB0b1b2b3b4b5b6b7b8b9bAbBbCbDbEbFcC0b1b2b3b4b5b6b7b8b9bAbBbCbDbEbFcD0b1b2b3b4b5b6b7b8b9bAbBbC",
   "bDbEbFcE0b1b2b3b4b5b6b7b8b9bAbBbCbDbEbFcF0b1b2b3b4b5b6b7b8b9bAbBbCbDbEbFdC00b1b2b3b4b5b6b7b8b9",
   "bAbBbCbDbEbFc10b1b2b3b4b5b6b7b8b9bAbBbCbDbEbFc20b1b2b3b4b5b6b7b8b9bAbBbCbDbEbFc30b1b2b3b4b5b6b",
   "7b8b9bAbBbCbDbEbFc40b1b2b3b4b5b6b7b8b9bAbBbCbDbEbFc50b1b2b3b4b5b6b7b8b9bAbBbCbDbEbFc60b1b2b3b4",
   "b5b6b7b8b9bAbBbCbDbEbFc70b1b2b3b4b5b6b7b8b9bAbBbCbDbEbFc80b1b2b3b4b5b6b7b8b9bAbBbCbDbEbFc90b1b",
   "2b3b4b5b6b7b8b9bAbBbCbDbEbFcA0b1b2b3b4b5b6b7b8b9bAbBbCbDbEbFcB0b1b2b3b4b5b6b7b8b9bAbBbCbDbEbFc",
   "C0b1b2b3b4b5b6b7b8b9bAbBbCbDbEbFcD0b1b2b3b4b5pFILLERyMER CURRENCY SYMBOL RIELuDIGIT EIGHTfFIVE",
   "dOUReNINEeONEdSEVENeIXdTHREEeWOdZEROkINDEPENDENT VOWEL LYaYdQAAbIbQbUcEbIaIcOO TYPE ONEdTWOlUa",
   "KbUaVeRYaYvLETTER BAcCAbHAbOcOcDAbOcHAcKAbHAbOcOcLAbOcMOcNGOcNOcObYOdPHAbOcOcQAcROcSAbHAcSOdTA",
   "bHAbOcObTHAbOeVOcYOjSIGN AHSDAeTTHACANhVAKRAHASANYAnBANTOCeRIYOOSANiTHAMASATjEYYALgCAMNUC PI",
   "I KUUHoOENGfKAKABATgHANdOOMUUThLEK TOOhMUUSIKATOANlNIKAHIThPHNAEK MUANlREAHMUKgOBATfSAMYOK SAN",
   "NYAnTOANDAKHIATkRIISAPhVIRIAMgYUUKALEAPINTUrYMBOL BEI KOETeROCgUON KOETeROCiDAP KOETeROCe-BE",
   "I KOETeROCgUON KOETeROCiMUOY KOETeROCiPII KOETeROCgRAM KOETeROCmLEK ATTAK BEIcUONeMUOYePIIcRAM",
   "a-BEIcUONeMUOYePIIiSONnMUOY KOETeROCiPATHAMASATjII KOETeROCgRAM KOETeROCe-BEI KOETeROCgUON KOE",
   "TeROCiMUOY KOETeROCiPII KOETeROCmTUTEYASATqVOWEL INHERENT AAbQlSIGN AAbEbIbUcEbIaEbIcOEbOcUaAb",
   "UcYaAbYrOJKI ABBREVIATION SIGNrDANDAeOUBLE DANDAfSECTION MARKtLETTER AaAbIbUcBAbBAcHAdCAbHAdDA",
   "bDAbDAcHAdHAdEbGAbGAcHAdHAcIbJAbJAdKAbHAdLAbLAdMAcNAbGAcNAcYAdObPAbHAdRAcSAcTAbHAcTAbHAeUbVAcY",
   "AjSECTION MARKlIGN ANUSVARAiNUKTAfSHADDAfUKUNfVIRAMAlVOWEL SIGN AAbIbUcEbIaIcObUmWORD SEPARATO",
   "RtUDAWADI DIGIT EIGHTfFIVEdOUReNINEeONEdSEVENeIXdTHREEeWOdZEROkLETTER AaAbIbUcBAbBAcHAdCAbHAdD",
   "AbDAbDAcHAdHAdEbGAbGAcHAdHAcIaIcJAbHAcJAdKAbHAdLAcMAcNAbGAcNAcYAdObPAbHAdRAbRAdSAbHAdTAbHAcTAb",
   "HAeUaUcVAcYAjSIGN ANUSVARAiNUKTAfVIRAMAlVOWEL SIGN AAbIbUcEbIaIcObUaUwIMONOeP SIGNgSSa MARKfIN",
   "G CAT FACE WITH CLOSED EYESzFACEa WITH CLOSED EYESlSMILING EYESzdTEcWIFRUITiNEELING PERSONnOTd",
   "OALAdREAN STANDARD SYMBOLvRONOS"]

def nameTapeL : List String :=
  ["L B BAR SYMBOLnAB COATfELdCROSSE STICK AND BALLvDDERdY BEETLEjNGUAGE TAGkO CANCELLATION MARKrD",
   "IGIT EIGHTfFIVEdOUReNINEeONEdSEVENeIXdTHREEeWOdZEROkELLIPSISiHO MOcNOfKO LAfLETTER BOcCOcDOcF",
   "O FAYcONdSUNGeTAMgHO SUNGeTAMgKHMU GOcNYOgO SUNGeTAMgOcLOa LINGdOOThMOcNGOcObYOdObPALI BHAdCHA",
   "dDDAbHAdHAdGHAdJHAdLLAdNNAcYAdTTAbHAiHO SUNGeTAMgOcROcSANSKRIT SHAcSAlO SUNGeTAMgTHO SUNGeTAMg",
   "OcWOcYOjNIGGAHITAjSEMIVOWEL SIGN LOcNYOrIGN PALI VIRAMAqTONE MAI CATAWAgEKcTHOcIlVOWEL SIGN Aa",
   "AbIbMbYcEaIcIaIcMAI KANcONhObUaUcYaYpRGE BLUE CIRCLEgDIAMONDhSQUAREkROWN CIRCLEgSQUAREmCIRCLEg",
   "DOWN TACKjGREEN CIRCLEgSQUAREmLEFT TRIANGLE OPERATORwONE DOT OVER TWO DOTS PUNCTUATIONzeRING O",
   "VER TWO RINGS PUNCTUATIONzjRANGE CIRCLEgDIAMONDhSQUAREnPURPLE CIRCLEgSQUAREnRED CIRCLEgSQUAREk",
   "TRIPLE VERTICAL BAR OPERATORzcWO DOTS OVER ONE DOT PUNCTUATIONzeRINGS OVER ONE RING PUNCTUATIO",
   "NzkUP TACKhYELLOW CIRCLEgSQUAREoR THANa OR EQUAL TOuI SIGNhST QUARTER MOONa SYMBOLgWITH FACEzT",
   "IN CAPITAL LETTER Aa WITH ACUTEfBREVEa AND ACUTEfDOT BELOWjGRAVEfHOOK ABOVEkTILDEpCARONeIRCUMF",
   "LEXa AND ACUTEfDOT BELOWjGRAVEfHOOK ABOVEkTILDEuDIAERESISa AND MACRONtOT ABOVEa AND MACRONqBEL",
   "OWhUBLE GRAVEmGRAVEfHOOK ABOVEkINVERTED BREVEoMACRONgOGONEKgRING ABOVEa AND ACUTEpBELOWkSTROKE",
   "gTILDElAbEa WITH ACUTEfMACRONnFRICAN DiLPHAeNGLICANA WkObUbVa WITH HORIZONTAL BARvYcBa WITH DO",
   "T ABOVEfBELOWjFLOURISHiHOOKeLINE BELOWkSTROKEgTOPBARmETAdROKEN LiCa WITH ACUTEfBARdCARONeEDILL",
   "Aa AND ACUTEqIRCUMFLEXkDOT ABOVEjHOOKePALATAL HOOKmSTROKEmHIcLOSED INSULAR GpONcUATRILLOa WIT",
   "H COMMAuDa WITH CARONeEDILLAgIRCUMFLEX BELOWqDOT ABOVEfBELOWjHOOKeLINE BELOWkSHORT STROKE OVER",
   "LAYtMALL LETTER Za WITH CARONyTROKEgTOPBARmZa WITH CARONnEa WITH ACUTEfBREVEfCARONeEDILLAa AN",
   "D BREVEqIRCUMFLEXa AND ACUTEfDOT BELOWjGRAVEfHOOK ABOVEkTILDEjBELOWqDIAERESISiOT ABOVEfBELOWhU",
   "BLE GRAVEmGRAVEfHOOK ABOVEkINVERTED BREVEoMACRONa AND ACUTEfGRAVEqOGONEKgSTROKEgTILDEa BELOWrG",
   "YPTOLOGICAL AINcLEFrNGcSHcTaHcZHa REVERSEDiWITH CARONoFa WITH DOT ABOVEjHOOKeSTROKEnGa WITH AC",
   "UTEfBREVEfCARONeEDILLAgIRCUMFLEXkDOT ABOVEjHOOKeMACRONgOBLIQUE STROKEoSTROKEmAMMAeHAcLOTTAL Ab",
   "IbSTOPeUjHa WITH BREVE BELOWlCARONeEDILLAgIRCUMFLEXkDESCENDERiIAERESISiOT ABOVEfBELOWjHOOKeSTR",
   "OKEmALF HfENGdWAIRfIa WITH ACUTEfBREVEfCARONeIRCUMFLEXkDIAERESISa AND ACUTEsOT ABOVEfBELOWhUBL",
   "E GRAVEmGRAVEfHOOK ABOVEkINVERTED BREVEoMACRONgOGONEKgSTROKEgTILDEa BELOWrNSULAR DbFbGbRbSbTiO",
   "TAdScJa WITH CIRCUMFLEXjROSSED-TAILmSTROKEnKa WITH ACUTEfCARONeEDILLAhDESCENDERiIAGONAL STROKE",
   "oOT BELOWjHOOKeLINE BELOWkOBLIQUE STROKEoSTROKEa AND DIAGONAL STROKEziLa WITH ACUTEfBARcELTeCA",
   "RONeEDILLAgIRCUMFLEX BELOWqDOT BELOWa AND MACRONsUBLE BARkHIGH STROKElLINE BELOWkMIDDLE DOTdTI",
   "LDEmSMALL LETTER JnTROKEmJcMa WITH ACUTEfDOT ABOVEfBELOWjHOOKkIDDLE SCOTS Si-WELSH LLcVoNa WIT",
   "H ACUTEfCARONeEDILLAgIRCUMFLEX BELOWqDESCENDERiOT ABOVEfBELOWjGRAVEfLEFT HOOKiINE BELOWjONG RI",
   "GHT LEGoOBLIQUE STROKEoSMALL LETTER JoTILDElJcOa WITH ACUTEfBREVEfCARONeIRCUMFLEXa AND ACUTEfD",
   "OT BELOWjGRAVEfHOOK ABOVEkTILDEuDIAERESISa AND MACRONtOT ABOVEa AND MACRONqBELOWhUBLE ACUTEfGR",
   "AVEmGRAVEfHOOK ABOVEiRNa AND ACUTEfDOT BELOWjGRAVEfHOOK ABOVEkTILDEoINVERTED BREVEoLONG STROK",
   "E OVERLAYrOPeMACRONa AND ACUTEfGRAVEpIDDLE TILDEmOGONEKa AND MACRONrSTROKEa AND ACUTEqTILDEa A",
   "ND ACUTEfDIAERESISjMACRONwIbLD POLISH OlMEGAeObPEN EbOfUcPa WITH ACUTEfDOT ABOVEjFLOURISHiHOOK",
   "eSQUIRREL TAILmTROKEa THROUGH DESCENDERzgQa WITH DIAGONAL STROKEpSTROKE THROUGH DESCENDERzgR",
   "a ROTUNDAhWITH ACUTEfCARONeEDILLAhDOT ABOVEfBELOWa AND MACRONsUBLE GRAVEmINVERTED BREVEoLINE B",
   "ELOWkOBLIQUE STROKEoSTROKEgTAILkEVERSED C WITH DOTkEbHALF HgOPEN EoUM ROTUNDAlSa WITH ACUTEa A",
   "ND DOT ABOVEtCARONa AND DOT ABOVEsEDILLAgIRCUMFLEXjOMMA BELOWlDOT ABOVEfBELOWa AND DOT ABOVExH",
   "OOKeOBLIQUE STROKEoSHORT STROKE OVERLAYtWASH TAILqALTILLOhCHWAdRIPT GhHARP SgIGMOID SiMALL CAP",
   "ITAL IjQ WITH HOOK TAILwTa WITH CARONeEDILLAgIRCUMFLEX BELOWpOMMA BELOWlDIAGONAL STROKEoOT ABO",
   "VEfBELOWjHOOKeLINE BELOWkRETROFLEX HOOKoSTROKEmHORNa WITH STROKEa THROUGH DESCENDERzjONE FIVEe",
   "SIXdTWOhRESILLOhURNED AaLPHAfHbINSULAR GjKbLbMbTbVhZcUa BARdWITH ACUTEfBREVEfCARONeIRCUMFLEX",
   "a BELOWqDIAERESISa AND ACUTEfCARONfGRAVEfMACRONkBELOWoOT BELOWhUBLE ACUTEfGRAVEmGRAVEfHOOK ABO",
   "VEiRNa AND ACUTEfDOT BELOWjGRAVEfHOOK ABOVEkTILDEoINVERTED BREVEoMACRONa AND DIAERESISuOGONEKg",
   "RING ABOVEkSTROKEgTILDEa AND ACUTEjBELOWrPSILONhVa WITH DIAGONAL STROKEoOT BELOWjHOOKeTILDElEN",
   "DdISIGOTHIC ZlOLAPUK AEcOEcUEjYcWa WITH ACUTEfCIRCUMFLEXkDIAERESISiOT ABOVEfBELOWjGRAVEfHOOKkY",
   "NNeXa WITH DIAERESISiOT ABOVEqYa WITH ACUTEfCIRCUMFLEXkDIAERESISiOT ABOVEfBELOWjGRAVEfHOOKa AB",
   "OVEkLOOPeMACRONgSTROKEgTILDElOGHeZa WITH ACUTEfCARONeIRCUMFLEXkDESCENDERiOT ABOVEfBELOWjHOOKeL",
   "INE BELOWkPALATAL HOOKmSTROKEfWASH TAILxIGATURE IJcOEsROSSfEPIGRAPHIC LETTER ARCHAIC MjI LONGA",
   "gNVERTED MkREVERSED FbPkSIDEWAYS IzdLETTER AINcLVEOLAR CLICKoBIDENTAL PERCUSSIVErLABIAL CLICKf",
   "PERCUSSIVEtDENTAL CLICKmGLOTTAL STOPa WITH STROKEyINVERTED GLOTTAL STOPa WITH CURLeSTROKEziLAT",
   "ERAL CLICKnPHARYNGEAL VOICED FRICATIVEzcRETROFLEX CLICKa WITH RETROFLEX HOOKziVERSED ESH LOOPi",
   "GLOTTAL STOP WITH STROKEziSINOLOGICAL DOToMALL CAPITAL AaEcBaARRED BiCbDbEaTHcZHdFbGa WITH HOO",
   "KlHbIaNVERTED RkJbKbLa WITH BELTeSTROKEnMbNbOaEbPEN OfUcPbQbRa WITH RIGHT LEGpEVERSED NbRjUMdS",
   "bTaURNED EbGbKbMbRiUbVbWbYbZoTRETCHED Ca WITH CURLvTWO WITH STROKEpVOICED LARYNGEAL SPIRANTyWY",
   "NNeYRjSMALL CAPITAL LETTER I WITH STROKEnU WITH STROKEzdLETTER Aa REVERSED-SCHWAoWITH ACUTEfBR",
   "EVEa AND ACUTEfDOT BELOWjGRAVEfHOOK ABOVEkTILDEpCARONeIRCUMFLEXa AND ACUTEfDOT BELOWjGRAVEfHOO",
   "K ABOVEkTILDEuDIAERESISa AND MACRONtOT ABOVEa AND MACRONqBELOWhUBLE GRAVEmGRAVEfHOOK ABOVEkINV",
   "ERTED BREVEoMACRONgOGONEKgRETROFLEX HOOKnIGHT HALF RINGnNG ABOVEa AND ACUTEpBELOWkSTROKEgTILDE",
   "lAbEa WITH ACUTEfMACRONnLPHAa WITH RETROFLEX HOOKyNGLICANA WkObUbVa WITH HORIZONTAL BARvYcBa W",
   "ITH DOT ABOVEfBELOWjFLOURISHiHOOKeLINE BELOWkMIDDLE TILDEmPALATAL HOOKmSTROKEgTOPBARmARRED ALP",
   "HAfEbOgSELINE ESHlETAdLACKLETTER EbOa WITH STROKEyOTTOM HALF OmROKEN LiCa WITH ACUTEfBARdCARON",
   "eEDILLAa AND ACUTEqIRCUMFLEXjURLeDOT ABOVEjHOOKePALATAL HOOKmRETROFLEX HOOKoSTROKEmHIa WITH LO",
   "W LEFT SERIFkRIGHT RINGwLOSED INSULAR GjOMEGAePEN EgREVERSED OPEN EvONcUATRILLOa WITH COMMAuD",
   "a WITH CARONeEDILLAgIRCUMFLEX BELOWpURLeDOT ABOVEfBELOWjHOOKa AND TAILnLINE BELOWkMIDDLE TILDE",
   "mPALATAL HOOKmSHORT STROKE OVERLAYtTROKEgTAILdOPBARmB DIGRAPHjELTAdZH DIGRAPHa WITH PALATAL HO",
   "OKmRETROFLEX HOOKzgOTLESS IbJa WITH STROKEa AND HOOKzdUBLE Ra WITH CROSSED-TAILtTHORNfWYNNkUMc",
   "Za DIGRAPHa WITH CURLeRETROFLEX HOOKzcWITH CARONnEa WITH ACUTEfBREVEfCARONeEDILLAa AND BREVEqI",
   "RCUMFLEXa AND ACUTEfDOT BELOWjGRAVEfHOOK ABOVEkTILDEjBELOWqDIAERESISiOT ABOVEfBELOWhUBLE GRAVE",
   "mFLOURISHiGRAVEfHOOK ABOVEkINVERTED BREVEoMACRONa AND ACUTEfGRAVEqNOTCHfOGONEKgRETROFLEX HOOKo",
   "STROKEgTILDEa BELOWrGYPTOLOGICAL AINcLEFrNGa WITH CROSSED-TAILmPALATAL HOOKuSHa WITH CURLeDOUB",
   "LE BARa AND CURLtPALATAL HOOKmRETROFLEX HOOKwTaHcZHa REVERSEDiWITH CARONeURLePALATAL HOOKmRETR",
   "OFLEX HOOKoTAILnFa WITH DOT ABOVEjHOOKeMIDDLE TILDEmPALATAL HOOKmSTROKEmENG DIGRAPHa WITH TRIL",
   "LxGa WITH ACUTEfBREVEfCARONeEDILLAgIRCUMFLEXkDOT ABOVEjHOOKeMACRONgOBLIQUE STROKEoPALATAL HOOK",
   "mSTROKEmAMMAeHAcLOTTAL AbIbSTOPeUjHa WITH BREVE BELOWlCARONeEDILLAgIRCUMFLEXkDESCENDERiIAERESI",
   "SiOT ABOVEfBELOWjHOOKeLINE BELOWkPALATAL HOOKmSTROKEmALF HfENGa WITH HOOKnVcIa WITH ACUTEfBREV",
   "EfCARONeIRCUMFLEXkDIAERESISa AND ACUTEsOT BELOWhUBLE GRAVEmGRAVEfHOOK ABOVEkINVERTED BREVEoMAC",
   "RONgOGONEKgRETROFLEX HOOKoSTROKEa AND RETROFLEX HOOKzTILDEa BELOWrNSULAR DbFbGbRbSbThVERTED AL",
   "PHAfOEkOTAa WITH STROKEnIFIED EjScJa WITH CARONeIRCUMFLEXjROSSED-TAILmSTROKEnKa WITH ACUTEfCAR",
   "ONeEDILLAhDESCENDERiIAGONAL STROKEoOT BELOWjHOOKeLINE BELOWkOBLIQUE STROKEoPALATAL HOOKmSTROKE",
   "a AND DIAGONAL STROKEzhRAdLa WITH ACUTEfBARcELTa AND PALATAL HOOKvCARONeEDILLAgIRCUMFLEX BELOW",
   "pURLeDOT BELOWa AND MACRONsUBLE BARdMIDDLE TILDEtFISHHOOKiHIGH STROKElINVERTED LAZY SpLINE BEL",
   "OWkMIDDLE DOTdRINGeTILDEmPALATAL HOOKmRETROFLEX HOOKa AND BELTxSTROKEmAMBDA WITH STROKErENIS F",
   "fZHa WITH RETROFLEX HOOKxJbONG Sa WITH DIAGONAL STROKEoOT ABOVEjHIGH STROKEwS DIGRAPHjUMcZ DIG",
   "RAPHkMa WITH ACUTEfCROSSED-TAILmDOT ABOVEfBELOWjHOOKeMIDDLE TILDEmPALATAL HOOKsIDDLE SCOTS Si-",
   "WELSH LLcVnUMdNa PRECEDED BY APOSTROPHEwWITH ACUTEfCARONeEDILLAgIRCUMFLEX BELOWpROSSED-TAILlUR",
   "LeDESCENDERiOT ABOVEfBELOWjGRAVEfLEFT HOOKiINE BELOWjONG RIGHT LEGoMIDDLE TILDEmOBLIQUE STROKE",
   "oPALATAL HOOKmRETROFLEX HOOKoTILDElJbUMdOa WITH ACUTEfBREVEfCARONeIRCUMFLEXa AND ACUTEfDOT BEL",
   "OWjGRAVEfHOOK ABOVEkTILDEuDIAERESISa AND MACRONtOT ABOVEa AND MACRONqBELOWhUBLE ACUTEfGRAVEmGR",
   "AVEfHOOK ABOVEiRNa AND ACUTEfDOT BELOWjGRAVEfHOOK ABOVEkTILDEoINVERTED BREVEoLONG STROKE OVERL",
   "AYrOPcW RING INSIDEpMACRONa AND ACUTEfGRAVEqOGONEKa AND MACRONrRETROFLEX HOOKoSTROKEa AND ACUT",
   "EqTILDEa AND ACUTEfDIAERESISjMACRONwIbLD POLISH OlMEGAeObPEN Ea WITH RETROFLEX HOOKvOa WITH RE",
   "TROFLEX HOOKoSTROKEmEgUcPa WITH ACUTEfDOT ABOVEjFLOURISHiHOOKeMIDDLE TILDEmPALATAL HOOKmSQUIRR",
   "EL TAILmTROKEa THROUGH DESCENDERzfHIdQa WITH DIAGONAL STROKEpHOOKa TAILjSTROKE THROUGH DESCEND",
   "ERzfP DIGRAPHkRa ROTUNDAhWITH ACUTEfCARONeEDILLAgROSSED-TAILmDOT ABOVEfBELOWa AND MACRONsUBL",
   "E GRAVEmFISHHOOKa AND MIDDLE TILDEmPALATAL HOOKzINVERTED BREVEoLINE BELOWjONG LEGiMIDDLE TILDE",
   "mOBLIQUE STROKEoPALATAL HOOKmSTROKEgTAILfOUT HANDLEpAMS HORNiEVERSED Ca WITH DOTkEaNGdHALF HgK",
   "bOPEN Ea WITH HOOKeRETROFLEX HOOKzbR WITH FISHHOOKpSCRIPT GqUMa ROTUNDAlSa WITH ACUTEa AND DO",
   "T ABOVEtCARONa AND DOT ABOVEsEDILLAgIRCUMFLEXjOMMA BELOWkURLeDOT ABOVEfBELOWa AND DOT ABOVExHO",
   "OKeMIDDLE TILDEmOBLIQUE STROKEoPALATAL HOOKmSHORT STROKE OVERLAYtWASH TAILqAKHA YAThLTILLOhCHW",
   "Aa WITH HOOKeRETROFLEX HOOKxRIPT Ga WITH CROSSED-TAILtRa WITH RINGrHARP SgIDEWAYS DIAERESIZE",
   "D UnOa WITH STROKEmPEN OgTURNED MiUiGMOID SiQUAT REVERSED ESHrTIRRUP RjTa WITH CARONeEDILLAgIR",
   "CUMFLEX BELOWpOMMA BELOWkURLeDIAERESISgGONAL STROKEoOT ABOVEfBELOWjHOOKa AND RETROFLEX HOOKxLI",
   "NE BELOWkMIDDLE TILDEmPALATAL HOOKmRETROFLEX HOOKoSTROKEmAILLESS PHIlC DIGRAPH WITH CURLtESH D",
   "IGRAPHa WITH PALATAL HOOKmRETROFLEX HOOKzgH WITH STRIKETHROUGHtORNa WITH STROKEa THROUGH DESCE",
   "NDERzjONE FIVEeSIXdTWOgP HALF OjRESILLOhS DIGRAPHa WITH RETROFLEX HOOKzeUMbRNED AaEbLPHAfDELTA",
   "fEbGbHa WITH FISHHOOKa AND TAILyIaNSULAR GjKbLbMa WITH LONG LEGpO OPEN-Oa WITH STROKEtEa WIT",
   "H HORIZONTAL STROKErSTROKEnPEN EgRa WITH HOOKeLONG LEGa AND RETROFLEX HOOKzcMIDDLE TILDEmPALAT",
   "AL HOOKmTAILlTa WITH CURLlUIcVbWbYa WITH BELTrZcUa BARa WITH SHORT RIGHT LEGyWITH ACUTEfBREVEf",
   "CARONeIRCUMFLEXa BELOWqDIAERESISa AND ACUTEfCARONfGRAVEfMACRONkBELOWoOT BELOWhUBLE ACUTEfGRAVE",
   "mGRAVEfHOOK ABOVEiRNa AND ACUTEfDOT BELOWjGRAVEfHOOK ABOVEkTILDEoINVERTED BREVEoLEFT HOOKjMACR",
   "ONa AND DIAERESISuOGONEKgRETROFLEX HOOKnING ABOVEkSHORT RIGHT LEGoTROKEgTILDEa AND ACUTEjBELOW",
   "rEbIbMbObPSILONa WITH STROKEtVa WITH CURLeDIAGONAL STROKEoOT BELOWjHOOKePALATAL HOOKmRIGHT HOO",
   "KkTILDElENDdISIGOTHIC ZlOLAPUK AEcOEcUEjYcWa WITH ACUTEfCIRCUMFLEXkDIAERESISiOT ABOVEfBELOWjGR",
   "AVEfHOOKeRING ABOVErXa WITH DIAERESISiOT ABOVEjLONG LEFT LEGa AND LOW RIGHT RINGsWITH SERIFw",
   "W RIGHT RINGoPALATAL HOOKtYa WITH ACUTEfCIRCUMFLEXkDIAERESISiOT ABOVEfBELOWjGRAVEfHOOKa ABOVEk",
   "LOOPeMACRONgRING ABOVEkSHORT RIGHT LEGoTROKEgTILDElOGHeZa WITH ACUTEfCARONeIRCUMFLEXjURLeDESCE",
   "NDERiOT ABOVEfBELOWjHOOKeLINE BELOWkMIDDLE TILDEmPALATAL HOOKmRETROFLEX HOOKoSTROKEfWASH TAILx",
   "IGATURE FFaIbLcIbLcIJcLONG S TiOEcSTqUBSCRIPT SMALL LETTER AbEbHbIbJbKbLbMbNbObPbRbSaCHWAfTbUb",
   "VbXzeEAF FLUTTERING IN WINDtY GREENjDGEReFT AND LOWER AND RIGHT TRIANGULAR THREE QUARTERS BLOC",
   "KzqONE EIGHTH BLOCKwRIGHT DOUBLE TURNSTILEqTACKdRIANGULAR HALF BLOCKzcUPPER AND RIGHT TRIANGUL",
   "AR THREE QUARTERS BLOCKzqONE EIGHTH BLOCKyGER BUBBLEjLE BRACKETa WITH DOTvRC LESS-THAN BRACKET",
   "tROW WITH CIRCLED PLUSmSMALL CIRCLExBARB DOWN RIGHT BARB DOWN HARPOONmUP HARPOONzbUP RIGHT BAR",
   "B DOWN HARPOONmUP HARPOONzdLACK LENTICULAR BRACKETsTORTOISE SHELL BRACKETzdCEILINGgLOSED ENTRY",
   "lORNER BRACKETnURLY BRACKETa LOWER HOOKkMIDDLE PIECEmUPPER HOOKyDOTTED SUBSTITUTION BRACKETzUB",
   "LE ANGLE BRACKETnPARENTHESISlQUOTATION MARKoWIGGLY FENCEtFISH TAILhVE EIGHTHS BLOCKrLOORfHAL",
   "F BLACK CIRCLEgSTARiOCKfCIRCLEa WITH DOTdFOUR DOTSjTHREE DOTSjWO DOTSuFOLDERgINVERSE MEDIUM SH",
   "ADE AND RIGHT HALF BLOCKzqMEDIUM SHADEmRUNNING MANoND TELEPHONE RECEIVERxLOW PARAPHRASE BRACKE",
   "TvUGGAGEhMULTIMAPiNORMAL FACTOR SEMIDIRECT PRODUCTzhONE EIGHTH BLOCKmQUARTER BLOCKqUTER JOINkP",
   "ARENTHESISa EXTENSIONjLOWER HOOKkUPPER HOOKwRAISED OMISSION BRACKETwIGHT ARROWa THROUGH SMAL",
   "L CIRCLEuWITH DOUBLE VERTICAL STROKEwSTROKEgVERTICAL STROKEzbBLACK ARROWlDOUBLE ARROWa WITH ST",
   "ROKEgVERTICAL STROKEziOPEN-HEADED ARROWrSANS-SERIF ARROWqTRIANGLE-HEADED ARROWvWAVE ARROWjHIT",
   "E ARROWrS-SHAPED BAG DELIMITERvEMIDIRECT PRODUCTqVEN EIGHTHS BLOCKsIDEWAYS U BRACKETqNGLE QUOT",
   "ATION MARKuPEECH BUBBLEmQUARE BRACKETa EXTENSIONjLOWER CORNERmUPPER CORNERmWITH DOUBLE STROKEn",
   "QUILLfSTROKEgTICK IN BOTTOM CORNERnTOP CORNERsUNDERBARzcUBSTITUTION BRACKETuTACKdHIRD WHITE RI",
   "GHT POINTING INDEXzfOUGHT BUBBLEmREE EIGHTHS BLOCKnQUARTERS BLOCKtORTOISE SHELL BRACKETvRANSPO",
   "SITION BRACKETtIANGLE BESIDE VERTICAL BARwULAR ONE QUARTER BLOCKzdVERTICAL BAR WITH QUILLnOX L",
   "INErWHITE CORNER BRACKETnURLY BRACKETnLENTICULAR BRACKETsPARENTHESISlSQUARE BRACKEToTORTOISE S",
   "HELL BRACKETzcIGGLY FENCElRITING HANDn-FACING ARMENIAN ETERNITY SIGNwFISTeSVASTI SIGNa WITH DO",
   "TSzdHANDED INTERLACED PENTAGRAMzcPOINTING ANGLE BRACKETnCURVED ANGLE BRACKETuDOUBLE ANGLE QUOT",
   "ATION MARKzcMAGNIFYING GLASSzSHADED WHITE RIGHTWARDS ARROWzdIDE ARC ANTICLOCKWISE ARROWzdTO-RI",
   "GHT EMBEDDINGjISOLATEhMARKeOVERRIDEsWARDS ARROWa ABOVE ALMOST EQUAL TOpREVERSE ALMOST EQUAL TO",
   "pTILDE OPERATORwSHORT RIGHTWARDS ARROWwTILDE OPERATORtND UPPER AND LOWER ONE EIGHTH BLOCKzlFRO",
   "M BARa TO BLACK DIAMONDzOVER RIGHTWARDS ARROWvTHROUGH LESS-THANjSUBSETgXiO BARa OVER RIGHTWARD",
   "S ARROW TO BARzgLACK DIAMONDqWITH DOTTED STEMjUBLE VERTICAL STROKEwEQUILATERAL ARROWHEADvHOOKe",
   "LARGE TRIANGLE ARROWHEADxOOPeMEDIUM TRIANGLE ARROWHEADzNOTCHED TAILmPLUS BELOWkSMALL EQUILATER",
   "AL ARROWHEADvTRIANGLE ARROWHEADxTROKEgTAILa WITH DOUBLE VERTICAL STROKEwVERTICAL STROKEyIP DOW",
   "NWARDSjUPWARDSlVERTICAL STROKEv-TAILkBACK-TILTED SHADOWED WHITE ARROWzgLACK ARROWfCIRCLED WHIT",
   "E ARROWyOTTOM-SHADED WHITE ARROWzCOMPRESSED ARROWqDASHED ARROWlOUBLE ARROWa FROM BARiWITH STRO",
   "KEgVERTICAL STROKEv-TAILkDASH ARROWrFINGER-POST ARROWqRONT-TILTED SHADOWED WHITE ARROWziHANDcR",
   "POON OVER RIGHTWARDS HARPOONxWITH BARB DOWN ABOVE RIGHTWARDS HARPOON WITH BARB DOWNzoBELOW LON",
   "G DASHpFROM BARiTO BARhWARDSjUP ABOVE LEFTWARDS HARPOON WITH BARB DOWNzgONG DASHjRIGHTWARDS HA",
   "RPOON WITH BARB UPzmFROM BARiTO BARhWARDSyEAVY ARROWfCOMPRESSED ARROWwLEFT-SHADED WHITE ARROWx",
   "OPEN-HEADED ARROWrPAIRED ARROWSnQUADRUPLE ARROWpRIGHT-SHADED WHITE ARROWxOCKETgSANS-SERIF ARRO",
   "WpQUARED ARROWkIGGLE ARROWoTOP SHADED WHITE ARROWvRIANGLE ARROWHEADk-HEADED ARROWa OVER RIGHTW",
   "ARDS TRIANGLE-HEADED ARROWzmTO BARgWITH BOLD SHAFTkDOUBLE HORIZONTAL STROKErVERTICAL STROKEwHE",
   "AVY SHAFTlLONG TIP DOWNWARDSjUPWARDSqMEDIUM SHAFTmNARROW SHAFTmVERY HEAVY SHAFTzcDASHED ARROWm",
   "PAIRED ARROWSzbPLE ARROWfDASH ARROWqWO HEADED ARROWn-HEADED ARROW FROM BARiWITH DOUBLE VERTICA",
   "L STROKEwTAILa WITH DOUBLE VERTICAL STROKEwVERTICAL STROKEyRIANGLE ARROWHEADStVERTICAL STROKEz",
   "bTRIPLE DASH ARROWzdWAVE ARROWjHITE ARROWa WITHIN TRIANGLE ARROWHEADzuGbMONdOaPARDfPCHA CONSON",
   "ANT SIGN KaANGeLbMbNaYIN-DOhPbRbTqDIGIT EIGHTfFIVEdOUReNINEeONEdSEVENeIXdTHREEeWOdZEROkLETTE",
   "R AbBAbLAdCAbHAdDAbDAcZAdFAbLAdGAbLAdHAbLAdJAcKAbHAcLAdLAcMAbLAdNAbGAcYAdPAbHAcLAdRAcSAbHAdTAb",
   "HAcSAbHAdTAbHAeVAcWAcYAjPUNCTUATION CER-WAgNYET THYOOM TA-ROLsTA-ROLfSHOOKa CER-WAzSIGN NUKTAf",
   "RANhUBJOINED LETTER RAcYAtVOWEL SIGN AAcEbIbOaOcUaUsSS-THAN ABOVE DOUBLE-LINE EQUAL ABOVE GREA",
   "TER-THANzlGREATER-THAN ABOVE DOUBLE-LINE EQUALzlLEFTWARDS ARROWpSIMILAR ABOVE GREATER-THANsO",
   "R EQUALpLANTED EQUAL ABOVE GREATER-THAN ABOVE SLANTED EQUALzzhND NOT APPROXIMATEpSINGLE-LINE N",
   "OT EQUAL TOzdBUT NOT EQUAL TOfIVALENT TOvCLOSED BY CURVEa ABOVE SLANTED EQUALzkEQUAL TO OR GRE",
   "ATER-THANyOR APPROXIMATElEQUAL TOfIVALENT TOnGREATER-THANmSLANTED EQUAL TOa WITH DOT ABOVEa RI",
   "GHTlINSIDEzjVER EQUAL TOnSIGNeWITH CIRCLE INSIDEnDOTdQUESTION MARK ABOVEzhVEL SLIDERlFbIBRAdGA",
   "TURE OPEN ET ORNAMENTwHT CHECK MARKkEIGHT SPOKED ASTERISKvFIVE POINTED BLACK STARsSPOKED ASTER",
   "ISKtOUR POINTED BLACK CUSPeSTARxGREEK CROSSlLEFT TORTOISE SHELL BRACKET ORNAMENTzlRAILdIGHT TO",
   "RTOISE SHELL BRACKET ORNAMENTzmSALTIREgHADEeIX SPOKED ASTERISKtTHREE POINTED BLACK STARxWELV",
   "E POINTED BLACK STARzVERTICAL BARmWHITE SQUAREnNINGa MOODa BUBBLEtMBU DIGIT EIGHTfFIVEdOUReNIN",
   "EeONEdSEVENeIXdTHREEeWOdZEROkEXCLAMATION MARKqLETTER BAbHAdCAbHAdDAbHAdGAbHAcYANeHAcJAbHAdKAbH",
   "AdLAcMAcNAbGAdPAbHAdRAcSAbHAcSAdTAbHAcRAdWAcYAaNkQUESTION MARKnSIGN KEMPHRENGjLOOdMUKPHRENGjSA",
   "-IiMALL LETTER ANUSVARAiKAcLAcMAcNAbGAdPAcRAcTAoUBJOINED LETTER RAcWAcYAtVOWEL SIGN AaIbUcEaEc",
   "IbOaOcUh-CARRIER LETTERxITED LIABILITY SIGNuNE FEEDeINTEGRATION NOT INCLUDING THE POLEwWITH RE",
   "CTANGULAR PATH AROUND POLEzdSEMICIRCULAR PATH AROUND POLEzvSEPARATORjTABULATIONa SETpAR A SIG",
   "N A028Be100-102g20Bd31Ce301b2b3b4b5b6b7b8b9AbBbCd10b1b2b3AbBbCc4b5b6b7b8b9c20b1b2b3b4b5b6b7b8b",
   "9c30b1b2b3b4b5b6b7b8b9c40b1b2b3b4b5b6b7b8b9c50b1b2b3b4b5b6b7b8b9c60b1b2b3b4b5b6b7b8b9c70b1d400",
   "-VASf1-VASf2-VASf3-VASf4-VASf5-VASf6-VASf7-VASf8-VASf9-VASg10-VASf1-VASf2-VASf3-VASf4-VASf5-VA",
   "Sf6-VASf7-VASf8-VASh501b2b3b4b5b6b8b9c10b1b2b3b5b6c20b1b3b4b5b6b7b8b9c30b1b2b4b5b6b7b8b9c40b1b",
   "2b5b7b8b9c50b1b2b3b4b5b6b7b9c63b4b5b6b8b9c70b1b2b3b4b5b6b7b8b9c80b1b2b3b4b5b6b7b8b9c91b2b4b5b6",
   "b8d600b1b2b3b4b6b8b9c10b1b2b3b4b5b6b7b8b9c20b1b2b3b4b6b7b8b9c34b7b8c40b2b3b4b5b6b8b9c51b2b3b4b",
   "5b6b7b8b9c60b1b2b3b4d701 Ad2 Bd3 Dd4 Ed5 Fd6 Hd7 Jd8 Kd9 Lc-2 L2e3 L3e4 L4e6 L6h10 Wd1 Xd2 Yd",
   "3 OMEGAh4 ABBf5 BBe7 DDf26 EYYYh32 JEg800b1b2b3b4b5b6b7dB001b2b3b4b5b6b7b8b9c10b1b3b6b7c20b1aF",
   "bMc2aFbMc3aMc4b6b7b8b9c30b1b4b7b8b9c40b1b4b5b6b7b8b9c50b1b3b4b5b6b7b8b9c60b1b5b6b7b9c70b3b4b6b",
   "7b8b9c80b1b2b5b6b7d118c20b2b3c31AbBd64c71c80b8c91mB IDEOGRAM B100 MANf2 WOMANh4 DEERg5 EQUIDg",
   "F MAREgM STALLIONl6F EWEfM RAMg7F SHE-GOATkM HE-GOATk8F SOWfM BOARh9F COWfM BULLi20 WHEATh1 BA",
   "RLEYi2 OLIVEh3 SPICEh5 CYPERUSk30 OILf1 WINEg2c40 BRONZEi1 GOLDg2b5 WOOLg6c50b1 HORNg2b3b4b7b8",
   "b9 CLOTHi60b1b2 GARMENTj3 ARMOURi4b5b6b7b8b9c70b1b2b3 MONTHh4b6 TREEg7b8b9c80b1b2b3b4b5b9c90b",
   "1 HELMETk220 FOOTSTOOLl5 BATHTUBk30 SPEARh1 ARROWh2b3 SWORDh4b6c40 WHEELED CHARIOTr1 CHARIOTj",
   "2 CHARIOT FRAMEp3 WHEELh5b6b8b9c51b2b3b4 DARTg5b6b7b8b9eVESSEL B155d200b1b2b3b4b5b6b7b8b9c10b1",
   "b2b3b4b5b6b7b8b9c21b2b6b7b8b9c50d305uMONOGRAM B127 KAPOg8 KANAKOj33 AREPAh5 MERIh56 TURO2j24",
   "7 DIPTEtSYLLABLE B001 DAe2 ROe3 PAe4 TEe5 TOe6 NAe7 DIe8 Ad9 SEf10 Ud1 POe2 SOe3 MEe4 DOe5 MOe",
   "6 QAe7 ZAf20 ZOe1 QIe3 MUe4 NEe5 A2e6 RUe7 REe8 Id9 PU2g30 NIe1 SAe2 QOe3 RA3f6 JOe7 TIe8 Ed",
   "9 PIf40 WIe1 SIe2 WOe3 A3e4 KEe5 DEe6 JEe8 NWAg50 PUe1 DUe2 NOe3 RIe4 WAe5 NUe7 JAe8 SUe9 TAf6",
   "0 RAe1 Od2 PTEf5 JUe6 TA2f7 KIe8 RO2f9 TUf70 KOe1 DWEf2 PEe3 MIe4 ZEe5 WEe6 RA2f7 KAe8 QEf80 M",
   "Ae1 KUe5 AUe7 TWEg90 DWOf1 TWOpMBOL B018b9c22c34c47b9c56c63b4c79c82b3b6b9rK SYMBOLhED PAPERCLI",
   "PSpON FACEhPSaTICKgRA SIGNhSU LETTER AaEcBAcCAbHAdDAbZAdEaUcFAcGAbHAdHAbHAdIbJAcKAbHAdLAcMAcNA",
   "bGAdOaEcPAbHAdSAbHAdTAbHAcONE MYA BOcCYAdJEUdNAcTIgNA POjSAbHAeUaEbHcWAcXAcYAbHAdZAbHAkPUNCTUA",
   "TION COMMAfFULL STOPyVRE TOURNOIS SIGNrZARDfLAMAeOBSTERfCKa WITH INK PENnING-SHIFT ONEdZEROqGI",
   "CAL ANDa WITH DOT ABOVEhUBLE OVERBARhUNDERBARpHORIZONTAL DASHpMIDDLE STEMlUNDERBARrORa OVERLAP",
   "PING LOGICAL ANDxWITH DOT ABOVEhUBLE OVERBARhUNDERBARpHORIZONTAL DASHpMIDDLE STEMzLLIPOPgNG DA",
   "SH FROM LEFT MEMBER OF DOUBLE VERTICALzoIVISIONhRUMeLEFT RIGHT ARROWfDOUBLE ARROWsTACKfWARDS A",
   "RROWa FROM BARoDOUBLE ARROWa FROM BARvSQUIGGLE ARROWyRIGHT TACKfWARDS ARROWa FROM BARoDOUBLE A",
   "RROWa FROM BARvSQUIGGLE ARROWzdTION BOTTLEkUSdUDLY CRYING FACEqVE HOTELfLETTERjW ASTERISKiBATT",
   "ERYgRIGHTNESS SYMBOLrDOUBLE PRIME QUOTATION MARKzcKAVYKAa WITH DOTpLINEfER BLADE SCISSORSoFIV",
   "E EIGHTHS BLOCKsHALF BLOCKfCIRCLEgINVERSE WHITE CIRCLEuMEDIUM SHADErLEFT BALLPOINT PENmLOCK DI",
   "AGONAL LOWER MIDDLE LEFT TO LOWER CENTREgRIGHTzhUPPER CENTRE TO LOWER MIDDLE RIGHTmRIGHTlUPPE",
   "R MIDDLE RIGHTzdLEFT TO LOWER CENTREgMIDDLE RIGHTsUPPER MIDDLE RIGHTzbMIDDLE LEFT TO LOWER CEN",
   "TREgMIDDLE RIGHTmRIGHTzwCRAYONgFOUNTAIN PENmPAINTBRUSHjENCILgQUADRANT CIRCULAR ARCvSEMICIRCULA",
   "R ANTICLOCKWISE ARROWzhTRIANGLEcULAR MEDIUM SHADEzdONE EIGHTH BLOCKmQUARTER BLOCKrRIGHT BLOC",
   "K DIAGONAL LOWER CENTRE TO LOWER MIDDLE RIGHTsUPPER MIDDLE RIGHTmRIGHTvLEFT TO LOWER MIDDLE RI",
   "GHTsUPPER CENTREgMIDDLE RIGHTzbMIDDLE LEFT TO UPPER CENTREgMIDDLE RIGHTmRIGHTzhUPPER MIDDLE LE",
   "FT TO UPPER CENTREgRIGHTzwCORNER WITH DOTpDROP-SHADOWED WHITE SQUAREzbPENCILgQUADRANT CIRCULA",
   "R ARCvSEMICIRCULAR CLOCKWISE ARROWzcHADOWED WHITE CIRCLEgSQUAREvTRIANGLEcULAR MEDIUM SHADEzeSE",
   "VEN EIGHTHS BLOCKtTHREE EIGHTHS BLOCKnQUARTERS BLOCKtRIANGULAR ONE QUARTER BLOCKzhZENGEa DIVID",
   "ED BY HORIZONTAL RULEziREbIbMbOcUGGAGEfNGSeYCIAN LETTER AaNcBaHcDbEaNcGbHbIbJbKaKcLbMaMcNaNcPb",
   "QbRbSbTaHbTcUbWbXbZnDIAN LETTER AaNcBbCbDbEaNcFbGbIbKbLaYcMbNaNcObQbRbSaScTaTcUbVbYiTRIANGULA",
   "R MARKuING FACE"]

def nameTapeM : List String :=
  ["MACRONeGEbIC WANDhNETeHAJANI ABBREVIATION SIGNrLETTER AbBAbHAdCAbHAdDAbDAbHAdHAdEbGAbHAdHAcIbJ",
   "AbHAdKAbHAdLAcMAcNAbNAcYAdObPAbHAdRAbRAdSAcTAbHAcTAbHAeUbVAiIGATURE SHRInSECTION MARKlIGN NUKT",
   "AqJONG TILE AUTUMNgBACKcMBOOgCHRYSANTHEMUMnEAST WINDiIGHT OF BAMBOOShCHARACTERSjIRCLESqFIVE O",
   "F BAMBOOShCHARACTERSjIRCLESoOUR OF BAMBOOShCHARACTERSjIRCLESpGREEN DRAGONmJOKERfNINE OF BAMBOO",
   "ShCHARACTERSjIRCLESoORTH WINDkONE OF BAMBOOShCHARACTERSjIRCLESnRCHIDgPLUMeRED DRAGONkSEVEN O",
   "F BAMBOOShCHARACTERSjIRCLESpIX OF BAMBOOShCHARACTERSjIRCLESnOUTH WINDjPRINGfUMMERgTHREE OF BAM",
   "BOOShCHARACTERSjIRCLESpWO OF BAMBOOShCHARACTERSjIRCLESoWEST WINDiHITE DRAGONlINTERrKASAR ANGKA",
   "fEND OF SECTIONoLETTER AbBAcCAcDAcGAcJAcKAcLAcMAcNAbGAcYAdPAcRAcSAcTAcVAcYAjPASSIMBANGkVOWEL S",
   "IGN EbIbObUsLAYALAM AU LENGTH MARKoDATE MARKiIGIT EIGHTfFIVEdOUReNINEeONEdSEVENeIXdTHREEeWOdZE",
   "ROkFRACTION ONE EIGHTHgFIFTHeORTIETHiHALFeONE-HUNDRED-AND-SIXTIETHyQUARTERhSIXTEENTHjTENTHeWEN",
   "TIETHnTHREE EIGHTIETHSkQUARTERSiSIXTEENTHSkTWENTIETHSzLETTER AaAbIbRCHAIC IIjUcBAbHAdCAbHAbILL",
   "U KbLaLaLdMbNaNcRRcYiDAbDAbHAdHAcOT REPHiEaEcGAbHAdHAcIaIcJAbHAdKAbHAdLAbLAbLAeMAcNAbGAcNAbNAd",
   "YAdOaOcPAbHAdRAbRAdSAbHAcSAdTAbHAcTAbHAcTAeUaUcVAbEDIC ANUSVARAnOCALIC LaLcRaRkYAjNUMBER ONE H",
   "UNDREDhTHOUSANDmTENkSIGN ANUSVARAhVAGRAHAiCANDRABINDUkIRCULAR VIRAMAoOMBINING ANUSVARA ABOVEyP",
   "ARAeVERTICAL BAR VIRAMAsIRAMAeSARGAmVOWEL SIGN AAbIbUcEaEcIaIcOaOcUaUcVOCALIC LaLcRaRzdE AND F",
   "EMALE SIGNpSIGNeWITH STROKE AND MALE AND FEMALE SIGNySIGNsTESE CROSSlMMOTHfNa AND WOMAN HOLDIN",
   "G HANDSxDANCINGhIN BUSINESS SUIT LEVITATINGyTUXEDOjWITH GUA PI MAOkTURBANmAT SIGNhDAIC AFFRICA",
   "TION MARKqGEMINATION MARKpLETTER ABbDbGbHbINcKaSAdLbMbNbPbQbRbSaHbZcTaTcZcDUSHENNAiHALQAfINbTc",
   "KADdUSHENNAoPUNCTUATIONlVOCALIZATION MARKwGOcICHAEAN ABBREVIATION MARK ABOVEfBELOWxLETTER AAYI",
   "NeLEPHeYINeBETHdHETHfDALETHfHAMEDHhFEcGHIMELfIMELfHEaTHeJAYINeHAYINgKAPHdHAPHfLAMEDHgMEMdNUNdP",
   "EcQHOPHeOPHeRESHeSADHEdMEKHfHINdSHINfTAWcETHdHAMEDHhWAWdXAPHdOPHeYODHeZAYINeHAYINnNUMBER FIVEe",
   "ONEa HUNDREDlTENcWENTYnPUNCTUATION DOTa WITHIN DOTmUBLE DOT WITHIN DOTvFLEURONhLINE FILLERlSTA",
   "ReTWO DOTSuSIGN UDpS SHOEgTELPIECE CLOCKoUAL WHEELCHAIRpP SYMBOL FOR LIGHTHOUSEwLE LEAFiRCHE",
   "N HEAD MARKjLETTER -AcAbBAcCAbHAdDAbZAdGAcHAcJAcKAbHAdLAcMAcNAbGAcYAdPAbHAdRAcSAbHAdTAbHAcSAbH",
   "AeWAcYAcZAbHAkMARK SHADjSIGN ANUSVARAiCANDRABINDUpUBJOINED LETTER AbBAcCAbHAdDAbZAdGAcHAcJAcKA",
   "bHAdLAcMAcNAbGAcYAdPAbHAdRAcSAbHAdTAbHAcSAbHAeWAcYAcZAbHAuVOWEL SIGN AAcEbIbObUrRIAGE SYMBOLmT",
   "IAL ARTS UNIFORMsSARAM GONDI DIGIT EIGHTfFIVEdOUReNINEeONEdSEVENeIXdTHREEeWOdZEROkLETTER AaAbI",
   "bUcBAbHAdCAbHAdDAbDAbHAdHAdEbGAbHAdHAcIaIcJAbHAcNYAeKAbHAcSSAeLAbLAdMAcNAbGAcNAcYAdObPAbHAdRAc",
   "SAbHAcSAdTAbHAcRAcTAbHAeUaUcVAcYAjRA-KARAgEPHAfSIGN ANUSVARAiCANDRAgHALANTAhNUKTAfVISARGAmVIRA",
   "MAfOWEL SIGN AAbIbUcEbIaIcObUaUcVOCALIC RzgCULINE ORDINAL INDICATORyK WORK SYMBOLnU MARKhTE DR",
   "INKhHEMATICAL BOLD CAPITAL AaLPHAfBaETAeCaHIdDaELTAeIGAMMAhEaPSILONgTAdFbGaAMMAfHbIaOTAeJbKaAP",
   "PAfLaAMDAfMaUcNaUcOaMEGAdICRONhPaHIcIbSIdQbRaHOdSaIGMAfTaAUcHETAa SYMBOLmUaPSILONhVbWbXaIcYbZa",
   "ETAmDIGIT EIGHTfFIVEdOUReNINEeONEdSEVENeIXdTHREEeWOdZEROkEPSILON SYMBOLoFRAKTUR CAPITAL AbBbCb",
   "DbEbFbGbHbIbJbKbLbMbNbObPbQbRbSbTbUbVbWbXbYbZjSMALL AbBbCbDbEbFbGbHbIbJbKbLbMbNbObPbQbRbSbTbUb",
   "VbWbXbYbZpITALIC CAPITAL AaLPHAfBaETAeCaHIdDaELTAfEaPSILONgTAdFbGaAMMAfHbIaOTAeJbKaAPPAfLaAMDA",
   "fMaUcNaUcOaMEGAdICRONhPaHIcIbSIdQbRaHOdSaIGMAfTaAUcHETAa SYMBOLmUaPSILONhVbWbXaIcYbZaETAmEPSIL",
   "ON SYMBOLoKAPPA SYMBOLmNABLAfPARTIAL DIFFERENTIALtHI SYMBOLjI SYMBOLjRHO SYMBOLkSMALL AaLPHAfB",
   "aETAeCaHIdDaELTAfEaPSILONgTAdFaINAL SIGMAlGaAMMAfHbIaOTAeJbKaAPPAfLaAMDAfMaUcNaUcOaMEGAdICRONh",
   "PaHIcIbSIdQbRaHOdSaIGMAfTaAUcHETAfUaPSILONhVbWbXaIcYbZaETAkTHETA SYMBOLtKAPPA SYMBOLmNABLAfPAR",
   "TIAL DIFFERENTIALtHI SYMBOLjI SYMBOLjRHO SYMBOLkSCRIPT CAPITAL AbBbCbDbEbFbGbHbIbJbKbLbMbNbObP",
   "bQbRbSbTbUbVbWbXbYbZjSMALL AbBbCbDbEbFbGbHbIbJbKbLbMbNbObPbQbRbSbTbUbVbWbXbYbZnMALL AaLPHAfBaE",
   "TAeCaHIdDaELTAeIGAMMAhEaPSILONgTAdFaINAL SIGMAlGaAMMAfHbIaOTAeJbKaAPPAfLaAMDAfMaUcNaUcOaMEGAdI",
   "CRONhPaHIcIbSIdQbRaHOdSaIGMAfTaAUcHETAfUaPSILONhVbWbXaIcYbZaETAkTHETA SYMBOLrDOUBLE-STRUCK CAP",
   "ITAL AbBbDbEbFbGbIbJbKbLbMbObSbTbUbVbWbXbYjDIGIT EIGHTfFIVEdOUReNINEeONEdSEVENeIXdTHREEeWOdZER",
   "OkSMALL AbBbCbDbEbFbGbHbIbJbKbLbMbNbObPbQbRbSbTbUbVbWbXbYbZvFALLING DIAGONALpRAKTUR CAPITAL Ab",
   "BbDbEbFbGbJbKbLbMbNbObPbQbSbTbUbVbWbXbYjSMALL AbBbCbDbEbFbGbHbIbJbKbLbMbNbObPbQbRbSbTbUbVbWbXb",
   "YbZpITALIC CAPITAL AaLPHAfBaETAeCaHIdDaELTAfEaPSILONgTAdFbGaAMMAfHbIaOTAeJbKaAPPAfLaAMDAfMaUcN",
   "aUcOaMEGAdICRONhPaHIcIbSIdQbRaHOdSaIGMAfTaAUcHETAa SYMBOLmUaPSILONhVbWbXaIcYbZaETAmEPSILON SYM",
   "BOLoKAPPA SYMBOLmNABLAfPARTIAL DIFFERENTIALtHI SYMBOLjI SYMBOLjRHO SYMBOLkSMALL AaLPHAfBaETAeC",
   "aHIdDaELTAeOTLESS IbJjEaPSILONgTAdFaINAL SIGMAlGaAMMAfIaOTAeJbKaAPPAfLaAMDAfMaUcNaUcOaMEGAdICR",
   "ONhPaHIcIbSIdQbRaHOdSaIGMAfTaAUcHETAfUaPSILONhVbWbXaIcYbZaETAkTHETA SYMBOLtLEFT ANGLE BRACKETn",
   "DOUBLE ANGLE BRACKETuFLATTENED PARENTHESISvWHITE SQUARE BRACKEToTORTOISE SHELL BRACKETziMONOSP",
   "ACE CAPITAL AbBbCbDbEbFbGbHbIbJbKbLbMbNbObPbQbRbSbTbUbVbWbXbYbZjDIGIT EIGHTfFIVEdOUReNINEeONEd",
   "SEVENeIXdTHREEeWOdZEROkSMALL AbBbCbDbEbFbGbHbIbJbKbLbMbNbObPbQbRbSbTbUbVbWbXbYbZrRIGHT ANGLE B",
   "RACKETnDOUBLE ANGLE BRACKETuFLATTENED PARENTHESISvWHITE SQUARE BRACKEToTORTOISE SHELL BRACKETz",
   "hSING DIAGONALpSANS-SERIF BOLD CAPITAL AaLPHAfBaETAeCaHIdDaELTAfEaPSILONgTAdFbGaAMMAfHbIaOTAeJ",
   "bKaAPPAfLaAMDAfMaUcNaUcOaMEGAdICRONhPaHIcIbSIdQbRaHOdSaIGMAfTaAUcHETAa SYMBOLmUaPSILONhVbWbXaI",
   "cYbZaETAmDIGIT EIGHTfFIVEdOUReNINEeONEdSEVENeIXdTHREEeWOdZEROkEPSILON SYMBOLoITALIC CAPITAL Aa",
   "LPHAfBaETAeCaHIdDaELTAfEaPSILONgTAdFbGaAMMAfHbIaOTAeJbKaAPPAfLaAMDAfMaUcNaUcOaMEGAdICRONhPaHIc",
   "IbSIdQbRaHOdSaIGMAfTaAUcHETAa SYMBOLmUaPSILONhVbWbXaIcYbZaETAmEPSILON SYMBOLoKAPPA SYMBOLmNABL",
   "AfPARTIAL DIFFERENTIALtHI SYMBOLjI SYMBOLjRHO SYMBOLkSMALL AaLPHAfBaETAeCaHIdDaELTAfEaPSILONgT",
   "AdFaINAL SIGMAlGaAMMAfHbIaOTAeJbKaAPPAfLaAMDAfMaUcNaUcOaMEGAdICRONhPaHIcIbSIdQbRaHOdSaIGMAfTaA",
   "UcHETAfUaPSILONhVbWbXaIcYbZaETAkTHETA SYMBOLtKAPPA SYMBOLmNABLAfPARTIAL DIFFERENTIALtHI SYMBOL",
   "jI SYMBOLjRHO SYMBOLkSMALL AaLPHAfBaETAeCaHIdDaELTAfEaPSILONgTAdFaINAL SIGMAlGaAMMAfHbIaOTAeJb",
   "KaAPPAfLaAMDAfMaUcNaUcOaMEGAdICRONhPaHIcIbSIdQbRaHOdSaIGMAfTaAUcHETAfUaPSILONhVbWbXaIcYbZaETAk",
   "THETA SYMBOLrCAPITAL AbBbCbDbEbFbGbHbIbJbKbLbMbNbObPbQbRbSbTbUbVbWbXbYbZjDIGIT EIGHTfFIVEdOURe",
   "NINEeONEdSEVENeIXdTHREEeWOdZEROkITALIC CAPITAL AbBbCbDbEbFbGbHbIbJbKbLbMbNbObPbQbRbSbTbUbVbWbX",
   "bYbZjSMALL AbBbCbDbEbFbGbHbIbJbKbLbMbNbObPbQbRbSbTbUbVbWbXbYbZoSMALL AbBbCbDbEbFbGbHbIbJbKbLbM",
   "bNbObPbQbRbSbTbUbVbWbXbYbZrCRIPT CAPITAL AbCbDbGbJbKbNbObPbQbSbTbUbVbWbXbYbZjSMALL AbBbCbDbFbH",
   "bIbJbKbLbMbNbPbQbRbSbTbUbVbWbXbYbZzXIMIZEgYAN NUMERAL EIGHTaEENhLEVENgFIFTEENfVEdOURaTEENiNINE",
   "aTEENiONEdSEVENaTEENiIXaTEENhTENcHIRTEENgREEeWELVEeOdZEROrEASURED ANGLEa OPENING LEFTmWITH OPE",
   "N ARM ENDING IN ARROW POINTING DOWN AND LEFTeRIGHToLEFT AND DOWNeUPlRIGHT AND DOWNeUPmUP AND L",
   "EFTeRIGHTzzhBYcRIGHT ANGLE WITH DOTzbT ON BONEkCHANICAL ARMdLEGmDEFAIDRIN CAPITAL LETTER AaIbT",
   "IUeBbCbDbEbFbGbHaPcIbJbKaPcLbMbNaGbYcOaEcPbQbRbSbTbUbVbWbXbYaUcZpOMMAfDIGIT EIGHTfFIVEdOUReNIN",
   "EeONEa ALTERNATE FORMsSEVENeIXdTHREEa ALTERNATE FORMtWOa ALTERNATE FORMsZEROkEXCLAMATION OHoFU",
   "LL STOPjNUMBER EIGHTEENhLEVENgFIFTEENgOURTEENiNINETEENiSEVENTEENiIXTEENhTENcHIRTEENhWELVEnSMAL",
   "L LETTER AaIbTIUeBbCbDbEbFbGbHaPcIbJbKaPcLbMbNaGbYcOaEcPbQbRbSbTbUbVbWbXbYaUcZnYMBOL AIVAuIEVA",
   "L COMMAfEXCLAMATION MARKqQUESTION MARKsUM BLACK CIRCLElOLD WHITE CIRCLErEIGHT POINTED BLACK ST",
   "ARsSPOKED ASTERISKvFIVE SPOKED ASTERISKtLATTENED LEFT PARENTHESIS ORNAMENTzRIGHT PARENTHESIS O",
   "RNAMENTzkOUR POINTED BLACK STARkPINWHEEL STARzbGREEK CROSSlLEFT CURLY BRACKET ORNAMENTwPARENTH",
   "ESIS ORNAMENTv-POINTING ANGLE BRACKET ORNAMENTzlMATHEMATICAL SPACEsRIGHT CURLY BRACKET ORNAMEN",
   "TwPARENTHESIS ORNAMENTv-POINTING ANGLE BRACKET ORNAMENTzmSALTIREgHADEeIX POINTED BLACK STARsSP",
   "OKED ASTERISKsMALL WHITE CIRCLEsTHREE POINTED BLACK STARkPINWHEEL STARzcVERTICAL BARmWHITE CIR",
   "CLEgSQUARErETEI MAYEK AHANG KHUDAMlNJIdPUN IYEKjCHEIKHANcEIiDIGIT EIGHTfFIVEdOUReNINEeONEdSEVE",
   "NeIXdTHREEeWOdZEROkLETTER ATIYAfBAbHAMeCHAbILeDDAbHAdHOUdILdEbGHOUdOKdHUKdIa LONSUMiJHAMdILdKH",
   "OUdOKa LONSUMkLAIa LONSUMkMITa LONSUMkNAa LONSUMiGOUa LONSUMkNAcYAdObPAa LONSUMiHAMeRAIdSAMcHA",
   "cSAdTHOUdILa LONSUMjTAbHAeUNcWAIdYANGkUM IYEKiSYLLABLE REPETITION MARKyVIRAMAfOWEL SIGN AAIbUc",
   "NAPdUcCHEINAPhIIbNAPeNUNGeONAPeSOUNAPgUNAPdUcVISARGAhYENAPqWORD REPETITION MARKzgLONcTING FACE",
   "kMOcNDE KIKAKUI COMBINING NUMBER HUNDRED THOUSANDSkSiMILLIONSiTEENSdN THOUSANDSkSdHOUSANDSzbDI",
   "GIT EIGHTfFIVEdOUReNINEeONEdSEVENeIXdTHREEeWOjSYLLABLE M001 KIe2 KAe3 KUe4 WIe5 WAe6 WUe7 MINf",
   "8 MANf9 MUNg10 BIe1 BAe2 BUe3 Id4 Ad5 Ud6 DIe7 DAe8 DUe9 SIf20 SAe1 SUe2 TIe3 TAe4 TUe5 LIe6 L",
   "Ae7 LUe8 JIe9 JAf30 JUe1 YIe2 YAe3 YUe4 FIe5 FAe6 FUe7 NINf8 NANf9 NUNg40 HEEf1 HAe2 HOOf3 NGG",
   "Ag4 KPEEg5 WOe6 HUANg7 MBEEg8 KOe9 WVAg50 PUe1 PEe2 HENf3 HINf4 LOOf5 TEe6 GBAf7 NGONg8 NYANg",
   "9 MENg60 NYONg1 WVIf2 MBAf3 JOe4 NDOf5 KEEf6 POe7 NDOOg8 PIe9 TOf70 GBOf1 GBOOg2 MBEf3 LEe4 KP",
   "Uf5 FEe6 KOOf7 VOe8 FEEf9 SOf80 YEe1 PEEf2 NGGUg3 HEEIg4 LEEf5 VEe6 LONG NGGEl7 HUNf8 FOe9 DEE",
   "g90 NGGIg1 TEEf2 KPAf3 GBEEg4 MONf5 KEe6 HEe7 BEe8 NYENg9 PAg100 Ed1 FANf2 POOf3 BOOf4 TOOf5 L",
   "ONG MBOOl6 LONG NGGOOm7 GBEf8 KPEf9 YEEg10 LONG LEj1 GAe2 KPOOg3 JEe4 WOOf5 NGGEEh6 SEe7 NENf",
   "8 WEe9 NDEg20 NGGOg1 YOe2 MBUf3 NDIf4 GBIf5 NDUf6 WEEf7 NGGUAh8 HOOUg9 NDAg30 HANf1 INe2 KPIf",
   "3 FOOf4 NJOOg5 INe6 SOOf7 EIe8 BOe9 WVEg40 HOe1 YOOf2 LONG MBOk3 WEIf4 VOOf5 MBIf6 NGGEg7 Od",
   "8 GBUf9 NJEEh50 BEEf1 VUe2 NJAf3 LOe4 MUANg5 GIe6 NGGOOh7 JEEf8 KPOf9 NGGAAi60 JOOf1 LONG MBEk",
   "2 SEEf3 EEe4 NYINg5 OOe6 GUEIg7 GUANg8 GUe9 NONg70 NYUNg1 RAe2 MBOOg3 VEEf4 MBOf5 LONG JOj6 HI",
   "e7 NGUANh8 ENe9 KUAg80 DOOf1 DOe2 VIe3 LONG NGGOl4 NGENg5 VAe6 HUe7 MBUUg8 MBEEg9 MUENh90 GEEf",
   "1 NDEEg2 NJUf3 HONf4 WUIf5 ANe6 SIAf7 FUAzdORAH WITH NINE BRANCHESxS SYMBOLjRCURYeOITIC CURSIV",
   "E FRACTION EIGHT TWELFTHSnLEVEN TWELFTHSpFIVE TWELFTHSmOUR TWELFTHSnNINE TWELFTHSnONE HALFeTWE",
   "LFTHlSEVEN TWELFTHSnIX TWELFTHSmTEN TWELFTHSlHREE TWELFTHSnWO TWELFTHSvLETTER AaRCHAIC SAkBAcD",
   "AcEbHHAdIbKAbHAdLAcMAcNAbEcObPAcQAcRAcSAbEcTAbEbOcWAcYAiOGOGRAM IMNdRMTmNUMBER EIGHTa HUNDRED",
   "a THOUSANDqTHOUSANDjY THOUSANDpFIFTYa THOUSANDmVEa HUNDREDa THOUSANDqTHOUSANDmORTYa THOUSANDmU",
   "Ra HUNDREDa THOUSANDqTHOUSANDnNINEa HUNDREDa THOUSANDqTHOUSANDjTY THOUSANDpONEa HUNDREDa THOUS",
   "ANDqTHOUSANDmSEVENa HUNDREDa THOUSANDqTHOUSANDjTYa THOUSANDpIXa HUNDREDa THOUSANDqTHOUSANDjTY",
   "a THOUSANDoTENa THOUSANDlHIRTYa THOUSANDnREEa HUNDREDa THOUSANDqTHOUSANDnWENTYa THOUSANDnOa HU",
   "NDREDa THOUSANDqTHOUSANDzcHIEROGLYPHIC LETTER AbBAa-2eDAcEbHHAdIbKAbHAdLAcMAcNAa-2dEa-2eObPAcQ",
   "AcRAa-2eSAa-2dEcTAa-2dEa-2dOcWAcYAjSYMBOL VIDJa-2zhPERSONhSSAGE WAITINGnTRICAL BREVEfLONG OVE",
   "R SHORTfTWO SHORTSuPENTASEMEjSHORT OVER LONGpTETRASEMEiRISEMEgWO SHORTS JOINEDgOVER LONGzOeIA",
   "O LETTER AHbRCHAIC MAcNAbGAdZZAlBAbRIdDAbDAcLHAbYAeZAbHAcYIcZAeFAcGAbHAbHAeHAbHAdKAcLAbHAbYAdY",
   "AdMAbHAdNAaSALIZATIONlGAbHAdHAcNAbHAdYAbHAePAbLAdQAbGAdREFORMED TONE-1b2b4b5b6b8fSHAmTEdSAbHAc",
   "SAcYIdTAbEbLHAbYAeONE-2b3b4b5b6b7b8fSAbEbHAcSAdTAdVAbFAdWAcXAcYI DZHAeKAcNNAdPAcTAbSAbHAdTAgZA",
   "bHAcSAbHAdZAbSAbYAdYAlSIGN ASPIRATIONkCONSONANT MODIFIER BARwREFORMED ASPIRATIONkVOICINGvTON",
   "E ABOVEfBELOWfRIGHTfTOP RIGHToVOWEL SIGN AaAbEaEcHHcIbNaGcUcEaAbIbNaGcRaRdIaAaNaGdEbGbIbNGcOaN",
   "GdUcNaGcOaERbYcGbObUcROUNDED ERaRlUaAaNaGdEIcIbNGcOGcUcVWcWaOcYaIbUIrCR DASH SYMBOLlON US SYMB",
   "OLnO SIGNfBEcPHONEfSCOPEiDDLE DOTdTHIRD WHITE RIGHT POINTING INDEXzlLINE HORIZONTAL ELLIPSISzL",
   "ITARY HELMETgMEDALlKY WAYgL SIGNhNIBUSdDISCeMIZEfUS SIGNa IN TRIANGLElWITH COMMA ABOVElDOT BEL",
   "OWjFALLING DOTSmRISING DOTSvTILDEg-OR-PLUS SIGNpYcRRORa BALLkMSPdOBILE PHONEa OFFdWITH RIGHTWA",
   "RDS ARROW AT LEFTzpDELScRN PENTATHLONoI ABBREVIATION SIGNrDANDAeIGIT EIGHTfFIVEdOUReNINEeONEdS",
   "EVENeIXdTHREEeWOdZEROjOUBLE DANDAmLETTER AaAbIbUcBAbHAdCAbHAdDAbDAbHAdHAdEbGAbHAdHAcIaIcJAbHAd",
   "KAbHAdLAbLAdMAcNAbGAcNAcYAdObPAbHAdRAcSAbHAcSAdTAbHAcTAbHAeUaUcVAbOCALIC LaLcRaRkYAjSIGN ANUSV",
   "ARAhRDHACANDRAlHUVAeVIRAMAeSARGAmVOWEL SIGN AAbIbUcEbIaIcObUaUcVOCALIC LaLcRaRwFIER BREVE WIT",
   "H INVERTED BREVEzLETTER ACUTE ACCENTlLVEOLAR CLICKnPOSTROPHEkBEGIN HIGH TONEjLOW TONEnILABIA",
   "L CLICKoCAPITAL AaEcBaARRED BiCbDbEbFbGbHa WITH STROKEnIbJbKbLbMbNbOaUcPbQbRaEVERSED EbNkTbUbV",
   "bWiENTRED LEFT HALF RINGoRIGHT HALF RINGwHINESE TONE YANG PINGeQUcRUcSHANGjIN PINGeQUcRUcSHANG",
   "vIRCUMFLEX ACCENTqOLONeROSS ACCENTlYRILLIC ENcHARD SIGNjSOFT SIGNsDENTAL CLICKlOT HORIZONTAL B",
   "ARoSLASHfVERTICAL BARoUBLE APOSTROPHEkPRIMEkWN ARROWHEADjTACKjEND HIGH TONEjLOW TONElXTRA-HIG",
   "H DOTTED LEFT-STEM TONE BARsTONE BARpLEFT-STEM TONE BARsTONE BARnLOW DOTTED LEFT-STEM TONE BAR",
   "sTONE BARpLEFT-STEM TONE BARsTONE BARsGEORGIAN NARlLOTTAL STOPa WITH STROKExRAVE ACCENTmHALF T",
   "RIANGULAR COLONuIGH DOTTED LEFT-STEM TONE BARsTONE BARpLEFT-STEM TONE BARsTONE BARnLATERAL CLI",
   "CKmEFT ARROWHEADjHALF RINGjTACKiOW ACUTE ACCENTmCIRCUMFLEX ACCENTrDOTTED LEFT-STEM TONE BARsTO",
   "NE BARnWN ARROWHEADoGRAVE ACCENTmINVERTED EXCLAMATION MARKzLEFT ARROWaHEADk-STEM TONE BARsMACR",
   "ONgRIGHT ARROWHEADnNGeTILDEeONE BARiUP ARROWHEADmVERTICAL LINEoER RIGHT CORNER ANGLEyMACRONfI",
   "D DOTTED LEFT-STEM TONE BARsTONE BARpLEFT-STEM TONE BARsTONE BARjDLE DOUBLE ACUTE ACCENTmGRAV",
   "E ACCENTtGRAVE ACCENTrNUS SIGNkOPEN SHELFkPLUS SIGNiRIMEfRAISED COLONfDOWN ARROWkEXCLAMATION M",
   "ARKqINVERTED EXCLAMATION MARKzUP ARROWoETROFLEX CLICK WITH RETROFLEX HOOKziVERSED COMMAfGLOTTA",
   "L STOPa WITH STROKEzhHOTIC HOOKkIGHT ARROWHEADjHALF RINGjTACKkSHELFdORT EQUALS SIGNqMALL AaEbI",
   "NcLPHAfBa WITH HOOKkARRED OhETAdOTTOM HALF OnCa WITH CURLkAPITAL AAcBbGa WITH HOOKlHbIa WITH S",
   "TROKEmNVERTED RkLa WITH BELTlNbOEcRbUbYiHIcLOSED OMEGAfREVERSED OPEN EwDa WITH HOOKa AND TAILn",
   "TAILkELTAdZH DIGRAPHlOTLESS J WITH STROKEa AND HOOKzeZ DIGRAPHa WITH CURLeRETROFLEX HOOKzfEaNG",
   "cSHcTHcZHdFaENG DIGRAPHmGa WITH HOOKkAMMAeREEK GAMMAfPHIjHa WITH HOOKeSTROKEmENGa WITH HOOKo",
   "I WITH STROKEmOTAeJa WITH CROSSED-TAILtKbLa WITH BELTeINVERTED LAZY SpMIDDLE TILDEmPALATAL HOO",
   "KmRETROFLEX HOOKa AND BELTzeEZHa WITH RETROFLEX HOOKxIGATURE OEkS DIGRAPHjZ DIGRAPHkMa WITH HO",
   "OKlN WITH LEFT HOOKjRETROFLEX HOOKvOa WITH STROKEmPEN EbOgPaHIdQbRa WITH FISHHOOKiTAILkAMS HOR",
   "NiEVERSED EbGLOTTAL STOPmOPEN EpSa WITH CURLeHOOKkCHWAdRIPT GhIDEWAYS UkTa WITH PALATAL HOOKmR",
   "ETROFLEX HOOKuC DIGRAPH WITH CURLtESH DIGRAPHlHETAeOP HALF OjS DIGRAPHa WITH RETROFLEX HOOKzeU",
   "RNED AaEbLPHAfHbIbMa WITH LONG LEGpOPEN EgRa WITH HOOKeLONG LEGa AND RETROFLEX HOOKzjVbWbYa WI",
   "TH BELTsUa BARdWITH LEFT HOOKpPSILONhVa WITH HOOKeRIGHT HOOKrWbXbYbZa WITH CURLeRETROFLEX HOOK",
   "zbTRESS AND HIGH TONEjLOW TONEsUPERSCRIPT HALF TRIANGULAR COLONvTRIANGULAR COLONzdTRIANGULAR C",
   "OLONpURNED COMMAmUNASPIRATEDkP ARROWHEADjTACKgScVERTICAL LINEmOICINGhYANG DEPARTING TONE MARKx",
   "IN DEPARTING TONE MARKzlULO TWO SUMmNEY BAGdWITH WINGSl-MOUTH FACEnGOLIAN BIRGAa WITH DOUBLE O",
   "RNAMENTpORNAMENTtCOLONdMMAfDIGIT EIGHTfFIVEdOUReNINEeONEdSEVENeIXdTHREEeWOdZEROjOUBLE BIRGA WI",
   "TH ORNAMENTzbELLIPSISiFOUR DOTSiREE VARIATION SELECTOR FOUReONEdTHREEeWOzbULL STOPjINVERTED BI",
   "RGAa WITH DOUBLE ORNAMENTzkLETTER AaLI GALI AaHbNUSVARA ONEmBALUDAgCAcDAaGALGAfMARUfDAdHALF Ub",
   "YAhIaNVERTED UBADAMAqKAcNGAcNAdPAbHAdSSAdTAbHREE BALUDAlTAbHAeUBADAMAhVISARGA ONElZAbHAlNGdBAc",
   "CHAa WITH TWO DOTSpIdDAcEaEcFAcGAcHAAdIbJAcKAbHAdLAbHAdMAaNCHU ALI GALI BHAdCAbYAdDDHAdHAdGHAd",
   "JHAdLHAdNGAdSSAdTAbTAdZAbHAmFAcIbKAcRAcZHAkNAcOaEcPAcQAcRAcSAbHAcIBE ANGdCHAdDAcEbFAcGAaAdHAaA",
   "dIaYcJAcKAcPAcRAAdSHAdTAbSAdUaEcZAbHAiTAbODO ALI GALI TAcZHAlNGdBAcCHAdDAbZAdEbGAaAdHAAdIbJAbI",
   "AdKAcLONG VOWEL SIGNpMAcNIAdOaEcPAcQAcTAbSAdUaEcWAcYAgSAdUaEcWAcYAcZAbHIcRAkMANCHU COMMAfFUL",
   "L STOPqNIRUGUgROTATED BIRGAa WITH DOUBLE ORNAMENTpORNAMENTzcSIBE SYLLABLE BOUNDARY MARKERzdWIR",
   "L BIRGAa WITH DOUBLE ORNAMENTpORNAMENTzTODO SOFT HYPHENpRIPLE BIRGA WITH ORNAMENTzURNED SWIR",
   "L BIRGA WITH DOUBLE ORNAMENTzoVOWEL SEPARATORwKEYa FACEiOGRAM FOR EARTHfYANGdINmRAILeSTABLE SY",
   "MBOLpOD BUBBLEiN CAKEeVIEWING CEREMONYtSQUEbITOgTHER CHRISTMASnOR BOATeSCOOTERiIZED WHEELCHAIR",
   "pWAYgUNT FUJIfAINa BICYCLISTjCABLEWAYiRAILWAYnSEa FACEeTRAPhTHdVIE CAMERAkYAIeRO DANDAeIGIT EI",
   "GHTfFIVEdOUReNINEeONEdSEVENeIXdTHREEeWOdZEROjOUBLE DANDAmLETTER AbBAcCHUdDAaIdEaAcHAIbOdKEAAEe",
   "HAIdOcLAaNdMAEMdIMdNGIcINdOaLbOcPAbHIdRIbOcSHIdTAbEKcHEAeWAcYOmUCH GREATER-THANmLESS-THANmLTAN",
   "I LETTER AbBAbHAdCAbHAdDAbDAbDAcHAdHAdEbGAbHAdHAcIbJAbJAdKAbHAdLAcMAcNAbNAcYAdPAbHAdRAbHAcRAdS",
   "AcTAbHAcTAbHAeUbVAcYAjSECTION MARKqIMAPdPLE MUSICAL NOTESpICATION SIGNa IN DOUBLE CIRCLEnLEF",
   "T HALF CIRCLEqRIGHT HALF CIRCLErTRIANGLElWITH DOT ABOVEjUNDERBARsXlSETa MULTIPLICATIONoUNIONmS",
   "HROOMfIC FLAT SIGNjNATURAL SIGNmSHARP SIGNlAL KEYBOARDa WITH JACKStNOTEeSCOREeYMBOL ARPEGGIAT",
   "O DOWNeUPnBEGIN BEAMePHRASEgSLUReTIEiRACEbKETfEATH MARKiVEbISa RESTlC CLEFfAESURAgIRCLE X NOTE",
   "HEADqLIMACUSfVISeUSTER NOTEHEAD BLACKfWHITEvODAcMBINING ACCENTa-STACCATOoUGMENTATION DOTqBENDe",
   "DOITcUBLE TONGUElWN BOWiFLAG-1b2b3b4b5eIPeHARMONICiLOUREfMARCATOa-STACCATOqRIPdSMEAReNAP PIZZI",
   "CATOnPRECHGESANG STEMqTACCATISSIMOgOgEMeTENUTOfREMOLO-1b2b3hIPLE TONGUEnUP BOWnMON TIMEkRESCEN",
   "DOhOIXeUT TIMEiDA CAPOfL SEGNOhMPa ALLgSHED BARLINEnECRESCENDOjGREE SLASHlOUBLE BARLINEhFLATeS",
   "HARPlRUM CLEF-1b2lEIGHTH NOTEeRESTkND BEAMeOF STIMMEjPHRASEgSLUReTIEhF CLEFa OTTAVA ALTAeBASSA",
   "sERMATAa BELOWmINAL BARLINEkGERED TREMOLO-1b2b3qVE-LINE STAFFoLAT DOWNeUPgORTEdUR-LINE STAFFkS",
   "TRING FRETBOARDuUSA BLACKfWHITEkG CLEFa OTTAVA ALTAeBASSAsLISSANDO DOWNeUPlRACE NOTE NO SLASHi",
   "SLASHoEGORIAN C CLEFgF CLEFqHALF NOTEePEDAL MARKkRESThUPTSTIMMElINVERTED TURNnKIEVAN C CLEFgEI",
   "GHTH NOTE STEM DOWNeUPsND OF PIECEmFINAL NOTEjLAT SIGNjHALF NOTEjQUARTER NOTE STEM DOWNeUPuREC",
   "ITATIVE MARKpWHOLE NOTEqORONfLEFT REPEAT SIGNpONGAa IMPERFECTA RESTpPERFECTA RESTtMAXIMAfEZZOe",
   "INIMAa BLACKfRESTkOON NOTEHEAD BLACKfWHITEsULTI RESTfPLE MEASURE RESTvNATURAL DOWNeUPjEBENSTIM",
   "MEkOTEHEAD BLACKnULL NOTEHEADnONE HUNDRED TWENTY-EIGHTH NOTEeRESTzc-LINE STAFFnRNAMENT STROKE-",
   "1a0b1c2b3b4b5b6b7b8b9qTTAVA ALTAeBASSAmPARENTHESIS NOTEHEADtEDAL MARKeUP MARKlS SUBPUNCTISnIAN",
   "OeLUS NOTEHEADmODATUSfRRECTUSa FLEXUSqQUARTER NOTEeRESTeTONE FLATeSHARPqINDICESIMA ALTAeBASSAs",
   "REPEAT DOTSfED FIGURE-1b2b3pVERSE FINAL BARLINEuIGHT REPEAT SIGNpNFORZANDOlSCANDICUSa FLEXUSpE",
   "GNOdMIBREVIS BLACKfRESTeWHITEmMINIMA BLACKfRESTeWHITEpHARP DOWNeUPgORT BARLINEmINGLE BARLINEmX",
   "-LINE STAFFkSTRING FRETBOARDrTEENTH NOTEeRESTkY-FOURTH NOTEeRESTqORIdQUARE BbNOTEHEAD BLACKfWH",
   "ITEuUBITOgTEMPUS IMPERFECTUM CUM PROLATIONE IMPERFECTAa DIMINUTION-1b2b3xPERFECTAzkPERFECTUM C",
   "UM PROLATIONE IMPERFECTAkPERFECTAa DIMINUTION-1zzcHIRTY-SECOND NOTEeRESTqREE-LINE STAFFpORCULU",
   "Sa RESUPINUSrRaIANGLE NOTEHEAD DOWN BLACKfWHITEkLEFT BLACKfWHITEkRIGHT BLACKfWHITElUP BLACKfRI",
   "GHT BLACKfWHITElWHITEs-ROUND NOTEHEAD DOWN BLACKfWHITEziURNa SLASHfUPgWO-LINE STAFFoVIRGAeOI",
   "D NOTEHEADnWHOLE NOTEeRESTjITH FINGERNAILSqX NOTEHEADkZpVScWbYANMAR CONSONANT SIGN MEDIAL HAcR",
   "AcWAcYAiON MEDIAL LAcMAcNAnSHAN MEDIAL WAzeDIGIT EIGHTfFIVEdOUReNINEeONEdSEVENeIXdTHREEeWOdZER",
   "OkLETTER AaITON RAhUcBAbHAdCAbHAdDAbDAbHAdHAdEaASTERN PWO KAREN GHWAeNNAdYWAvGAbHAcREAT SAiHAc",
   "IaIcJAbHAdKAbHAaMTI CAbHAdDDAbHAdHAdFAcGAcHAbHAdJAbHAdLLAdNAbYAdRAcSAcTTAbHAeXAcZAjLAbLAdMAbO",
   "N BBAbEdEbJHAdNGAhNAbGAcNAbYAdYAdObPAbHAdRAbUMAI PALAUNG FAqSAbGAW KAREN SHAnHAaN AbBAbHAdCAbH",
   "AdDAcFAcGAbHAdHAcJHAdKAbHAdNAbNAcYAdPHAdTHAdZAfWE PALAUNG CHAdSHApSAdTAaI LAING BAbHAdDAbDAbHA",
   "dHAdFAcGAbHAdJAbHAdLLAdNNAcYAmHAcTAbHAeUaUcVOCALIC LaLcRaRkWAbESTERN PWO KAREN PWAdTHAvYAiOGOG",
   "RAM KHAMTI HMcOAYdQNsMODIFIER LETTER KHAMTI REDUPLICATIONuSHAN REDUPLICATIONzjSHAN DIGIT EIGHT",
   "fFIVEdOUReNINEeONEdSEVENeIXdTHREEeWOdZEROoIGN ANUSVARAhSATeDOT BELOWjKHAMTI TONE-1b3nLITTLE SE",
   "CTIONoPAO KAREN TONEoRUMAI PALAUNG TONE-5uSECTIONgHAN COUNCIL EMPHATIC TONEnTONE-2b3oSAWdTONE-",
   "2b3b5b6lTAI LAING TONE-2b5qVIRAMAeSARGAhWESTERN PWO KAREN TONE-1b2b3b4b5zdYMBOL AFOREMENTIONED",
   "nITON EXCLAMATIONlONEdTWOjCOMPLETEDjGENITIVEiLOCATIVEiSHAN EXCLAMATIONlONEpTAI LAING DIGIT EIG",
   "HTfFIVEdOUReNINEeONEdSEVENeIXdTHREEeWOdZEROtONE MARK SGAW KAREN HATHIfKE PHOzcVOWEL SIGN AAbIa",
   "TON AaIiEa ABOVEhGEBA KAREN ImIaIcKAYAH EEcOEcUhMON IIcOfSGAW KAREN EUmHAN AAcEa ABOVEhFINAL Y",
   "mTALL AAhUaUcVOCALIC LaLcRaRkWESTERN PWO KAREN EUcUE"]

def nameTapeN : List String :=
  ["N-ARY CIRCLED DOT OPERATORmPLUS OPERATORnTIMES OPERATORvOPRODUCTjINTERSECTIONmLOGICAL ANDdORkP",
   "RODUCThSQUARE INTERSECTION OPERATORvUNION OPERATORuUMMATIONjTIMES OPERATORoUNIONa OPERATOR WIT",
   "H DOTdPLUSyWHITE VERTICAL BARxABATAEAN CRUCIFORM NUMBER FOURvLETTER ALEPHeYINeBETHeDALETHgFINA",
   "L ALEPHfBETHeHEcKAPHeLAMEDHgMEMdNUNdSHINeYODHkGIMELfHEaTHeKAPHeLAMEDHgMEMdNUNdPEcQOPHeRESHeSAD",
   "HEdMEKHfHINeTAWcETHeWAWdYODHeZAYINmNUMBER FIVEdOUReONEa HUNDREDlTENcHREEeWENTYeOrLAdIL POLISHi",
   "RA SIGNiKbME BADGEiNDaINAGARI HEADSTROKEkLETTER AaAbIbUcBAbHAdCAbHAdDAbDAbHAdHAdEbGAbHAdHAcIaI",
   "cJAbHAdKAbHAdLAbLAdMAcNAbGAcNAcYAdObPAbHAdRAbRAdSAbHAcSAdTAbHAcTAbHAeUaUcVAbOCALIC RaRkYAjSIG",
   "N ANUSVARAhVAGRAHAiSIDDHAMhVIRAMAeSARGAmVOWEL SIGN AAbIbUcEbIaIcObPRISHTHAMATRA EpUaUcVOCALI",
   "C RaRzgRROW NO-BREAK SPACEtTIONAL DIGIT SHAPESmPARKlUSEATED FACEmZAR AMULETlBHbSPdECKTIEfGATE",
   "D DOUBLE VERTICAL BAR DOUBLE RIGHT TURNSTILEzuIVE ACKNOWLEDGElCIRCLED DIGIT ZEROkLATIN CAPITA",
   "L LETTER AbBbCbDbEbFbGbHbIbJbKbLbMbNbObPbQbRbSbTbUbVbWbXbYbZwNUMBER EIGHTEENhLEVENgFIFTEENgOUR",
   "TEENiNINETEENiSEVENTEENiIXTEENhTHIRTEENhWELVEdNTYnSQUAREgTRIANGLEqDIAGONAL CROSSfDIAMONDhMIDDL",
   "E RIGHT TO LOWER CENTREzmSQUARED ABcCROSS MARKkICcLATIN CAPITAL LETTER AbBbCbDbEbFbGbHbIbJbKbL",
   "bMbNbObPbQbRbSbTbUbVbWbXbYbZwPAcQUESTION MARKnSAcWCrITHER A SUBSET OF NOR EQUAL TOuPERSET OF N",
   "OR EQUAL TOzPPROXIMATELY NOR ACTUALLY EQUAL TOzkGREATER-THAN NOR EQUAL TOfIVALENT TOnLESS-THAN",
   "zbLESS-THAN NOR EQUAL TOfIVALENT TOnGREATER-THANzhLbPTUNEa FORM TWOoRD FACEhSSUSdT WITH EGGSkI",
   "NG DOLLSlUTERcRAL CHESS BISHOPa ROTATED NINETY DEGREESoTWO HUNDRED SEVENTY DEGREESzrEQUIHOPPER",
   "a ROTATED NINETY DEGREESziKINGa ROTATED NINETY DEGREESoTWO HUNDRED SEVENTY DEGREESzoNIGHTa ROT",
   "ATED FORTY-FIVE DEGREESsNINETY DEGREESoONE HUNDRED THIRTY-FIVE DEGREESzgTHREE HUNDRED FIFTEE",
   "N DEGREESzdWO HUNDRED SEVENTY DEGREESpTWENTY-FIVE DEGREESzvPAWNa ROTATED NINETY DEGREESoTWO HU",
   "NDRED SEVENTY DEGREESzpQUEENa ROTATED NINETY DEGREESoTWO HUNDRED SEVENTY DEGREESzqROOKa ROTATE",
   "D NINETY DEGREESoTWO HUNDRED SEVENTY DEGREESzpTURNED BISHOPgKINGdNIGHTgPAWNeQUEENfROOKrFACEk",
   "W LINEeMOON SYMBOLgWITH FACEoSHEQEL SIGNlTAI LUE DIGIT EIGHTfFIVEdOUReNINEeONEdSEVENeIXdTHREEe",
   "WOdZEROkLETTER FINAL BbDbKbMbNaGcVhHIGH BAcDAcFAcHAcKAbVAdLAcMAcNAbGAdPAbHAdQAcSAbUAdTAbHAcSAd",
   "VAcXAbVAdYAhLOW BAcDAcFAcHAcKAbVAdLAcMAcNAbGAdPAbHAdQAcSAbUAdTAbHAcSAdVAcXAbVAdYAnSIGN LAEaVjT",
   "HAM DIGIT ONEnONE MARK-1b2lVOWEL SIGN AAaYcEbYcEbIIbYcOaAaYcYcUaEaYcUbYcVOWEL SHORTENERzkA ABB",
   "REVIATION SIGNrCOMMAfDANDAeIGIT EIGHTfFIVEdOUReNINEeONEdSEVENeIXdTHREEeWOdZEROjOUBLE COMMAfDAN",
   "DAmGAP FILLERkINSERTION SIGNoLETTER AaAbIbUcBAbHAdCAbHAdDAbDAbHAdHAdEbGAbHAdHAcIaIcJAbHAdKAbHA",
   "dLAbHAdMAbHAdNAbGAbHAdHAcNAcYAbHAeObPAbHAdRAbHAdSAbHAcSAdTAbHAcTAbHAeUaUcVEDIC ANUSVARAnOCALI",
   "C LaLcRaRkWAcYAjOMcPLACEHOLDER MARKqSANDHI MARKkIDDHIeGN ANUSVARAhVAGRAHAiCANDRABINDUlFINAL AN",
   "USVARAoJIHVAMULIYAlNUKTAfUPADHMANIYAlVIRAMAeSARGAmVOWEL SIGN AAbIbUcEbIaIcObUaUcVOCALIC LaLcRa",
   "RxLINE LEFTeRIGHTkSPAPERhXT LINEePAGEiIGHT WITH STARSoNJAeKO COMBINING DOUBLE DOT ABOVEqLONG D",
   "ESCENDING TONEpHIGH TONEjLOW TONEiRISING TONEqNASALIZATION MARKrSHORT HIGH TONEjLOW TONEiRISIN",
   "G TONEyMAfDANTAYALANjIGIT EIGHTfFIVEdOUReNINEeONEdSEVENeIXdTHREEeWOdZEROjOROME SIGNlEXCLAMATIO",
   "N MARKqHIGH TONE APOSTROPHEuLAJANYALANjETTER AbBAcCHAdDAaGBASINNAkEaEcFAcGBAdHAcIbJAbONA CHAdJ",
   "AcRAhKAcLAcMAcNaAa WOLOSOiYAa WOLOSOkOaOcPAcRAbRAdSAcTAcUbWAcYAiOW TONE APOSTROPHEtSYMBOL GBAK",
   "URUNENkOO DENNENqTAMAN SIGNnLbNBSPeO BICYCLEShREAK HEREkENTRYa SIGNkMOBILE PHONESnONE UNDER EI",
   "GHTEEN SYMBOLzPEDESTRIANSkIRACYgSMOKING SYMBOLp-BREAK SPACEmMINAL DIGIT SHAPESqSMA SIGNkN-BREA",
   "KING HYPHENpPOTABLE WATER SYMBOLvFORKINGiRaDIC MARK SIGNnMAL SUBGROUP OFa OR EQUAL TOzcTH EAS",
   "T AND SOUTH WEST ARROWtRROWa AND SOUTH EAST ARROWuCROSSING NORTH WEST ARROWqSOUTH EAST ARROWzW",
   "ITH HOOKpBLACK ARROWlDOUBLE ARROWmPOINTING BUDdLEAFeVINE LEAFsSANS-SERIF ARROWqTRIANGLE-HEADE",
   "D ARROWa TO BARzdWHITE ARROWqINDIC FRACTION ONE EIGHTHgHALFeQUARTERhSIXTEENTHnTHREE QUARTERSiS",
   "IXTEENTHSzPLACEHOLDER MARKqQUANTITY MARKkRTER MARKmRUPEE MARKqWEST AND SOUTH EAST ARROWtRROW",
   "a AND NORTH EAST ARROWuCROSSING NORTH EAST ARROWzTO CORNERgLONG BARlWITH HOOKpBLACK ARROWlDOUB",
   "LE ARROWmPOINTING BUDdLEAFeVINE LEAFsSANS-SERIF ARROWqTRIANGLE-HEADED ARROWa TO BARzdWHITE ARR",
   "OWrEAST-POINTING AIRPLANEzSEcT A SUBSET OFhPERSET OFmLMOST EQUAL TOoN ELEMENT OFmSYMPTOTICALL",
   "Y EQUAL TOxCHECK MARKkEQUAL TOfIVALENT TOnGREATER-THANmIDENTICAL TOmLESS-THANjNORMAL SUBGROU",
   "P OFa OR EQUAL TOzfPARALLEL TOlSIGNdQUARE IMAGE OF OR EQUAL TOuORIGINAL OF OR EQUAL TOzfTILDEe",
   "RUEfCHED LEFT SEMICIRCLE WITH THREE DOTSzfOWER RIGHT-SHADOWED WHITE RIGHTWARDS ARROWzsRIGHT SE",
   "MICIRCLE WITH THREE DOTSzhUPPER RIGHT-SHADOWED WHITE RIGHTWARDS ARROWzxEa PADbGEfBOOKa WITH DE",
   "CORATIVE COVERzeULaLcMBER EIGHTEEN FULL STOPrLEVEN FULL STOPqFIFTEEN FULL STOPqOURTEEN FULL ST",
   "OPsNINETEEN FULL STOPsSEVENTEEN FULL STOPsIGNcXTEEN FULL STOPrTEN FULL STOPmHIRTEEN FULL STOPr",
   "WELVE FULL STOPnNTY FULL STOPuERO SIGNjSHU CHARACTER-1B170b1b2b3b4b5b6b7b8b9bAbBbCbDbEbFc80b1b",
   "2b3b4b5b6b7b8b9bAbBbCbDbEbFc90b1b2b3b4b5b6b7b8b9bAbBbCbDbEbFcA0b1b2b3b4b5b6b7b8b9bAbBbCbDbEbFc",
   "B0b1b2b3b4b5b6b7b8b9bAbBbCbDbEbFcC0b1b2b3b4b5b6b7b8b9bAbBbCbDbEbFcD0b1b2b3b4b5b6b7b8b9bAbBbCbD",
   "bEbFcE0b1b2b3b4b5b6b7b8b9bAbBbCbDbEbFcF0b1b2b3b4b5b6b7b8b9bAbBbCbDbEbFd200b1b2b3b4b5b6b7b8b9bA",
   "bBbCbDbEbFc10b1b2b3b4b5b6b7b8b9bAbBbCbDbEbFc20b1b2b3b4b5b6b7b8b9bAbBbCbDbEbFc30b1b2b3b4b5b6b7b",
   "8b9bAbBbCbDbEbFc40b1b2b3b4b5b6b7b8b9bAbBbCbDbEbFc50b1b2b3b4b5b6b7b8b9bAbBbCbDbEbFc60b1b2b3b4b5",
   "b6b7b8b9bAbBbCbDbEbFc70b1b2b3b4b5b6b7b8b9bAbBbCbDbEbFc80b1b2b3b4b5b6b7b8b9bAbBbCbDbEbFc90b1b2b",
   "3b4b5b6b7b8b9bAbBbCbDbEbFcA0b1b2b3b4b5b6b7b8b9bAbBbCbDbEbFcB0b1b2b3b4b5b6b7b8b9bAbBbCbDbEbFcC0",
   "b1b2b3b4b5b6b7b8b9bAbBbCbDbEbFcD0b1b2b3b4b5b6b7b8b9bAbBbCbDbEbFcE0b1b2b3b4b5b6b7b8b9bAbBbCbDbE",
   "bFcF0b1b2b3b4b5b6b7b8b9bAbBpITERATION MARKsT AND BOLTlYIAKENG PUACHUE HMONG CIRCLED CAkDIGIT E",
   "IGHTfFIVEdOUReNINEeONEdSEVENeIXdTHREEeWOdZEROkLETTER AaAcCAcDAbLAdEaEcFAcGAcHAaHdIbKAcLAcMAbLA",
   "dNAbCAcKAcPAbLAdQAcRAcTAbSAcXAdYAdOaOcPAbLAdQAcRAbRAdSAcTAbSAcXAdUbVAcWbXAbYAdYAcZAiOGOGRAM NY",
   "AJnSIGN FOR ANIMALgINVERTEBRATEmLOCATIONiPERSONgTHINGjXW XWjYLLABLE LENGTHENERtTONE-BbDbGbJbMb",
   "SbV"]

def nameTapeO : List String :=
  ["OBJECT REPLACEMENT CHARACTERzbLIQUE ANGLE OPENING DOWNeUPqHYPHENmSERVER EYE SYMBOLsCR AMOUNT O",
   "F CHECKpBELT BUCKLEkOW TIEgRANCH BANK IDENTIFICATIONzbCHAIReUSTOMER ACCOUNT NUMBERxDASHdOUBL",
   "E BACKSLASHqFORKeHOOKeINVERTED FORKpTAGONAL SIGNlOPUSgDENdFFICE BUILDINGoGHAM FEATHER MARKmLET",
   "TER AILMeBEITHfCEIRTeOLLeDAIReEABHADHfDHADHfMHANCHOLLlFEARNfGORTeIFINdODHADHhLUISeMUINeNGEADAL",
   "gIONeONNcRcPEITHfRUISeSAILdTRAIFgTINNEfUATHdILLEANNhRjREVERSED FEATHER MARKvSPACE MARKoONEKfH",
   "M SIGNhIL DRUMhK HAND SIGNlL CHIKI AHADeDIGIT EIGHTfFIVEdOUReNINEeONEdSEVENeIXdTHREEeWOdZEROkG",
   "AAHLAA TTUDDAAGqLETTER AAJbKbMbWcGbLbNGcTcEDDcNbPbRRdIHbNYcRbScLAaAcEbIbObUcOBbHbTTcVcUCbDbNNc",
   "YjMU TTUDDAGi-GAAHLAA TTUDDAAGtPHAARKAAhUNCTUATION DOUBLE MUCAADnMUCAADsRELAAmD CHINESE HOOK M",
   "ARKjITERATION MARKwHUNGARIAN CAPITAL LETTER AaAbKbMBcNDdCLOSE EhEaBbCaHbScDbEbFbGaYcHbJbKbLaYc",
   "MaPcNaCbTa-SHAPED SIGNnYcPbRbSaZcTaYcVbZaSdIaIcNIKOLSBURG OEcUEnOaEEcOcRUDIMENTA OEcUEmSHORT E",
   "RiUaNKcSbUrNUMBER FIFTYdVEeONEa HUNDREDhTHOUSANDmTENkSMALL LETTER AaAbKbMBcNDdCLOSE EhEaBbCaHb",
   "ScDbEbFbGaYcHbJbKbLaYcMaPcNaCbTa-SHAPED SIGNnYcPbRbSaZcTaYcVbZaSdIaIcNIKOLSBURG OEcUEnOaEEcOcR",
   "UDIMENTA OEcUEmSHORT ERiUaNKcSbUzITALIC LETTER AbBEcCHEdDEcEaFbKScLbMbNbRaScSaHbSdHEcIaIcKAbEb",
   "HEcUcNORTHERN TSEmObPEbHEdSHEcOUTHERN TSEmTEbHEdUaUcVEcYEcZEjNUMERAL FIFTYdVEeONEdTENsKEYdNORT",
   "H ARABIAN LETTER AINcLEFeBEHdDADbLdES-1b2b3eFEHdGEEMdHAINfHAHcEHdKAFcHAHeLAMdMEEMeNOONeQAFdREH",
   "dSADdTAHcEHcHALcEHeWAWdYEHdZAHbINlNUMBER ONEdTENcWENTYzcPERMIC LETTER ANcBURdCHERYfDOIcZHOIdIT",
   "AfEaFcGAIdHAcIaAbEcKOKEeLEIdMENOEfNENOEfOaOcPEEIeREIdSHCHOOIfOOIeIIdTAIcSIUeUbVERcOOIeYAaTcERa",
   "IbUdRYcUcZATAdHOIpSIAN NUMBER HUNDREDhONEdTENcWENTYeOkSIGN AaURAMAZDAAa-2cHAmBAaGAdUUMISHhCAcD",
   "AaHYAAUSHa-2kIbUcFAcGAbUcHAcIbJAbIcKAbUcLAcMAbIbUcNAbUcPAcRAbUcSAbHAcSAdTAbHAcUcUbVAbIcXAbSHAA",
   "YATHIYAmYAcZAhWORD DIVIDERqONAL COMPUTERrSOGDIAN FRACTION ONE HALFrLETTER ALEPHdTERNATE AYINnY",
   "INeBETHeFINAL ALEPHfBETHeHEcNUNa WITH VERTICAL TAILwSADHEa WITH VERTICAL TAILyTAWa WITH VERTIC",
   "AL TAILzdGIMELfHEaTHeKAPHeLAMEDHgMEMdNUNdPEcRESH-AYIN-DALETHqSADHEdMEKHfHINeTAWdWAWdYODHeZAYIN",
   "lIGATURE AYIN-DALETHuNUMBER FIVEdOUReONEa HUNDREDlTENcHIRTYeREEeWENTYeOqUTH ARABIAN LETTER ALE",
   "FdYNdBETHeDALETHfHADHEdLETHhFEcGHAYNeIMELfHEaTHeKAPHdHETHfLAMEDHgMEMdNUNdQOPHeRESHeSADHEdMEKHe",
   "TcHINeTAWcETHdHAWcETHfWAWdYODHeZAYNlNUMBER FIFTYfONEhERIC INDICATORzgTURKIC LETTER ORKHON AaBb",
   "DbEBbDbGbKbLbNbRbSbTbYcGbLbNbQbRbSaHcTbYcBASHeECbLTcMbNCbGbTbYcPbSHcZcIaCbQcOaEaKcPbQbTjYENISE",
   "I AaBbDbEaBbGbKbNaGcTbYcGbLbNGcQbRbSHcTbYcEaCbNCbTbYcSHcZcIaQcOEaKcQyUYGHUR COMBINING DOT ABOV",
   "EfBELOWjTWO DOTS ABOVEfBELOWyLETTER ALEPHfBETHeFINAL HETHkGIMEL-HETHkKAPHeLAMEDHfESHeMEMdNUNdP",
   "EcRESHeSADHEdMEKHfHINeTAWdWAWdYODHeZAYINmPUNCTUATION BARdFOUR DOTSjTWO BARSeDOTSzdER ADULTfMAN",
   "dWOMANjIVEeM SYMBOLiN WITH EXCLAMATION MARK WITH LEFT RIGHT ARROW ABOVEzzCOMING AUTOMOBILEkBUS",
   "dFIRE ENGINElPOLICE CARkTAXIlE BUTTON MOUSEmDOT LEADERgOVER TWO DOTS PUNCTUATIONzf-PIECE SWIMS",
   "UITqIONePEN BOOKcXdCENTRE ASTERISKiBLACK STARkCROSSfTEARDROP-SPOKED ASTERISKzgFILE FOLDERkOLDE",
   "RgHANDS SIGNkLOCKeMAILBOX WITH LOWERED FLAGmRAISED FLAGySUBSETePERSETj-CIRCUIT-OUTPUT H-TYPE S",
   "YMBOLnL-TYPE SYMBOLzdOUTLINED RIGHTWARDS ARROWzcRATING SYSTEM COMMANDwHIUCHUShPOSITIONiTICAL D",
   "ISCa ICONnON KEYjR WITH DOT INSIDEqANGE BOOKeHEARThUTANhIGINAL OFiYA AI LENGTH MARKnU LENGTH M",
   "ARKoDIGIT EIGHTfFIVEdOUReNINEeONEdSEVENeIXdTHREEeWOdZEROkFRACTION ONE EIGHTHgHALFeQUARTERhSIXT",
   "EENTHnTHREE QUARTERSiSIXTEENTHSzISSHARgLETTER AaAbIbUcBAbHAdCAbHAdDAbDAbHAdHAdEbGAbHAdHAcIaIcJ",
   "AbHAdKAbHAdLAbLAdMAcNAbGAcNAcYAdObPAbHAdRAbHAcRAdSAbHAcSAdTAbHAcTAbHAeUaUcVAbOCALIC LaLcRaRkWA",
   "cYAbYAkSIGN ANUSVARAhVAGRAHAiCANDRABINDUlNUKTAfOVERLINEiVIRAMAeSARGAmVOWEL SIGN AAbIbUcEbIaIcO",
   "bUaUcVOCALIC LaLcRaRzNATE LEFT PARENTHESISqRIGHT PARENTHESISwTHODOX CROSSnSAGE CAPITAL LETTE",
   "R AaHbIaNdBRAdCHAdDHAdEaHCHAdKAcPAcTAbSAeINdGHAdHAbYAdIbKAbHAcYAdLAcMAcNAcOaINdPAcSAbHAdTAbSAb",
   "HAeUbWAcZAbHAsSMALL LETTER AaHbIaNdBRAdCHAdDHAdEaHCHAdKAcPAcTAbSAeINdGHAdHAbYAdIbKAbHAcYAdLAcM",
   "AcNAcOaINdPAcSAbHAdTAbSAbHAeUbWAcZAbHAuCbMANYA DIGIT EIGHTfFIVEdOUReNINEeONEdSEVENeIXdTHREEeWO",
   "dZEROkLETTER AaAbLEFeBAcCAYNeDEELdHAdEaEcFAcGAcHAcIbJAcKAAFdHAdLAANeMIINeNUUNeOaOcQAAFeRAcSAbH",
   "IINfTAcUbWAWdXAcYAqTTERcOMAN SIYAQ ALTERNATE NUMBER EIGHTfFIVEdOURa HUNDREDmNINEeSEVENeIXa HUN",
   "DREDlTENa THOUSANDlHREEeWOa THOUSANDzeFRACTION ONE HALFeSIXTHsMARRATANiNUMBER EIGHTa HUNDREDhT",
   "HOUSANDjYa THOUSANDpFIFTYa THOUSANDmVEa HUNDREDhTHOUSANDmORTYa THOUSANDmURa HUNDREDhTHOUSANDnN",
   "INEa HUNDREDhTHOUSANDjTYa THOUSANDpONEa HUNDREDhTHOUSANDmSEVENa HUNDREDhTHOUSANDjTYa THOUSANDp",
   "IXa HUNDREDhTHOUSANDjTYa THOUSANDoTENa THOUSANDlHIRTYa THOUSANDnREEa HUNDREDhTHOUSANDnWENTYa T",
   "HOUSANDnOa HUNDREDhTHOUSANDzhUNCE SIGNiTBOX TRAYiLINED BLACK STARkGREEK CROSSlLATIN CROSSlWHIT",
   "E STARsVERHEATED FACElLAPaPING BLACK SQUARESnWHITE AND BLACK SQUARESrSQUARESuINEhWLcXbYSTER"]

def nameTapeP : List String :=
  ["PACKAGEfDaDING CHARACTERpGEa FACING UPjWITH CIRCLED TEXTlURLkRbScODAeHAWH HMONG CLAN SIGN FAJd",
   "HAMbWJeKHABdOOcWMdLAUJdISdMUASePHABeTHOJdSABcHEEJeWBeVAJcWJdXYOOJfYAJcEEGnONSONANT AUcCAUcHAUe",
   "HAUcLAUdNAUeLAUdMAUdNAUcCHAUeKAUdLAUdTHAUdSAUfPLHAUfQHAUeRAUdVAUdXAUdYAUnDIGIT EIGHTfFIVEdOURe",
   "NINEeONEdSEVENeIXdTHREEeWOdZEROkMARK CIM HOMdKEScHAVeSObUAMeTAUMdUBmNUMBER HUNDRED MILLIONSjSi",
   "MILLIONSiTEN BILLIONSiTHOUSANDSkSdRILLIONSqSIGN AVcCIM CHEEMeUAM TSHOOJlHAIS LUS NTOG NTOGsNRE",
   "S TOSiPUB DAWBiTSOV ROGhXWVa CHWVnHLIcNUBeIB YAMgLOSdMEEJ SUABeTSEEBjUSdNQIGdTUJeTAUcHIRD-STAG",
   "E HLIoXHEEJ CEEVlVOS FEEMeLUBdNRUAeSEEVeTHIABdOMdSHAB CEEBoXAUSdIABdYEEM FAIBeNTXIVfRHOdTOVhOO",
   "eZWJ THAJnVOWEL KAABbVcBbIBbVcUBbVcVbWBbVdEBbEBbVcVcIABbVcBbVcOBbOBbVcVcUABbVcBbVcWBbVuLLASd",
   "M BRANCHgDOWN HANDjTREEeUP HANDiS UP TOGETHERnYRENE LEFT-POINTING FLEURONtTTER ALEPHeYINeBETHe",
   "DALETHgFINAL NUNjGIMELfHEaTHeKAPHeLAMEDHgMEMdNUNdPEcQOPHeRESHeSADHEdMEKHfHINeTAWcETHeWAWdYODHe",
   "ZAYINmNUMBER FIVEdOUReONEdTENcHREEeWENTYeOkRIGHT-POINTING FLEURONzfNCAKESfDA FACEiPERCLIPhRACH",
   "UTEfGRAPH SEPARATORkOScUS MARKmLLEL TOcWITH HORIZONTAL STROKErTILDE OPERATORzENTHESIZED DIGI",
   "T EIGHTfFIVEdOUReNINEeONEdSEVENeIXdTHREEeWOjHANGUL CHIEUCHa AiIEUCa AbUhHIEUHa AhIEUNGa AhKHIE",
   "UKHa AiIYEOKa AiMIEUMa AhNIEUNa AhPHIEUPHa AiIEUPa AhRIEULa AhSIOSa AgTHIEUTHa AiIKEUTa ApIDEO",
   "GRAPH ALLIANCEiCALLdONGRATULATIONoEARTHeIGHTeNTERPRISEkFESTIVALhINANCIALhREcVEdOUReHAVEeLABORf",
   "METALeOONeNAMEdINEeONEdREACHdPRESENThSOURCEfTeSELFcVENeIXcOCIETYgPECIALgTOCKdUDYeUNbPERVISEjTE",
   "NcHREEeWOdWATEReOODoKOREAN CHARACTER O HUdJEONwLATIN CAPITAL LETTER AbBbCbDbEbFbGbHbIbJbKbLbMb",
   "NbObPbQbRbSbTbUbVbWbXbYbZqSMALL LETTER AbBbCbDbEbFbGbHbIbJbKbLbMbNbObPbQbRbSbTbUbVbWbXbYbZuNUM",
   "BER EIGHTEENhLEVENgFIFTEENgOURTEENiNINETEENiSEVENTEENiIXTEENhTENcHIRTEENhWELVEdNTYyROTdT ALTER",
   "NATION MARKrIAL DIFFERENTIALmLINE BACKWARDiDOWNeFORWARDhUPiLY-RECYCLED PAPER SYMBOLzcNERSHIP S",
   "IGNmY POPPERkSSED SYMBOLiNGER SHIPkIVE-PULL-DOWN-OUTPUT SYMBOLsUP-OUTPUT SYMBOLzPORT CONTROLo",
   "U CIN HAU GLOTTAL STOPa FINALfVARIANTuLETTER AbBAcCAbHAdDAcEbFAbINAL KbLbMbNaGcPbTbWbYhGAcHAcI",
   "aAcKAbHAdLAcMAcNAbGAdObPAbHAdRAcSAcTAbHAdUaAcVAcZAiOW-FALLING TONEa FINALfLONGa FINALzcMID-LEV",
   "EL TONEa FINALfLONG FINALzRISING TONEa FINALfLONGa FINALwSANDHI GLOTTAL STOPa FINALsTONEa FINA",
   "LfLONGa FINALzhW PRINTSjDFbIcEACE SYMBOLiHbOCKeNUTSeRcDESTRIANiN OVER STAMPED ENVELOPEwCILdGUI",
   "NeSIVE FACEjTAGRAMhOPLE HUGGINGmR MILLE SIGNkSIGNeTEN THOUSAND SIGNsCENT SIGNjFORMING ARTSmMAN",
   "ENT PAPER SIGNrPENDICULARa WITH SrSEVERING FACEmON BOWING DEEPLYnCLIMBINGiDOING CARTWHEELpFROW",
   "NINGiIN LOTUS POSITIONoSTEAMY ROOMoRAISING BOTH HANDS IN CELEBRATIONziWITH BALLdLOND HAIRkCROW",
   "NfFOLDED HANDSmHEADSCARFjPOUTING FACEsAL COMPUTERnPECTIVEjSETA SIGNiO SIGNhTRI DISHjHAGS-PA DO",
   "UBLE HEAD MARKqLETTER AaLTERNATE YAlSPIRATED FAmBAcCAaNDRABINDUkHAdDAbDAcZAdEaEcFAcGAbGAdHAcIb",
   "JAcKAbHAdLAcMAcNAbGAcNAcYAdObPAbHAdQAcRAcSAbHAcMALL AhTAbHAcSAbHAdTAbHAeUbVOICED HAeLESS SHAnW",
   "AcXAcYAcZAbHAkMARK DOUBLE SHADlSHADjSINGLE HEAD MARKpUBJOINED LETTER RAcWAcYArPERFIXED LETTE",
   "R RAzbISTOS DISC SIGN ARROWfBEEaHIVEgOOMERANGhWcULLS LEGjCAPTIVEfRPENTRY PLANEnTcHILDeLUBdOLUM",
   "NeMBaINING OBLIQUE STROKEyDOLIUMeVEeEAGLEfFLUTEfGAUNTLEThRATERgHELMETfIDEdORNeLIDbLYeMANACLESg",
   "TTOCKhOX BACKhPAPYRUSgEDESTRIANjLANE TREEiUMED HEADlRAMcOSETTEhSAWcHIELDdPdLINGeMALL AXEiTRAIN",
   "ERiTATTOOED HEADmIARAeUNNYfVINEeWAVY BANDiOMANwILIPPINE DOUBLE PUNCTUATIONsSINGLE PUNCTUATIONz",
   "cOENICIAN LETTER AINcLFdBETdDELTeGAMLeHEaTdKAFdLAMDeMEMdNUNdPEcQOFdROSHeSADEdEMKdHINeTAUcETdWA",
   "UdYODdZAIkNUMBER ONEa HUNDREDlTENcHREEeWENTYeOkWORD SEPARATORwLUSfICKaUP TRUCKkEbGa FACEeNOSEg",
   "LCROW SIGNjE OF POOiLcNATAdCHED FINGERSkING HANDkE DECORATIONlAPPLEgWHEEL STARlSCESdTOLeTCHFOR",
   "Ka WITH TEE TOPvLACARDdE OF INTEREST SIGNnWORSHIPnNCK CONSTANTa OVER TWO PIyYGROUND SLIDEmIN",
   "G CARD ACE OF CLUBSfDIAMONDSiHEARTSgSPADESnBACKdLACK JOKERlEIGHT OF CLUBSfDIAMONDSiHEARTSgSPAD",
   "ESpFIVE OF CLUBSfDIAMONDSiHEARTSgSPADESnOOLcUR OF CLUBSfDIAMONDSiHEARTSgSPADESoJACK OF CLUBSfD",
   "IAMONDSiHEARTSgSPADESoKING OF CLUBSfDIAMONDSiHEARTSgSPADESnNIGHT OF CLUBSfDIAMONDSiHEARTSgSPAD",
   "ESqNINE OF CLUBSfDIAMONDSiHEARTSgSPADESoQUEEN OF CLUBSfDIAMONDSiHEARTSgSPADESpRED JOKERjSEVE",
   "N OF CLUBSfDIAMONDSiHEARTSgSPADESoIX OF CLUBSfDIAMONDSiHEARTSgSPADESnTEN OF CLUBSfDIAMONDSiHEA",
   "RTSgSPADESmHREE OF CLUBSfDIAMONDSiHEARTSgSPADESoRUMP-1a0b1b2b3b4b5b6b7b8b9c2a0b1c3b4b5b6b7b8b9",
   "gWO OF CLUBSfDIAMONDSiHEARTSgSPADESnWHITE JOKERwDbUaNGEReS SIGNa ABOVE EQUALS SIGNrIN LEFT HAL",
   "F CIRCLEqRIGHT HALF CIRCLErTRIANGLElWITH BLACK TRIANGLEoCIRCUMFLEX ACCENT ABOVExDOT BELOWjSMAL",
   "L CIRCLE ABOVErUBSCRIPT TWOnTILDE ABOVEfBELOWw-MINUS SIGNmTOa FORM FIVEdOUReTHREEeWOnMbOCKET C",
   "ALCULATORpLICE CARaS REVOLVING LIGHTuOFFICERmODLEeP DIRECTIONAL FORMATTINGkISOLATEuCORNfRTABL",
   "E STEREOnSEIDONfITION INDICATORpTAL HORNeMARKa FACEmBOXfT OF FOODiABLE WATER SYMBOLqTOdTED PLA",
   "NTkUCHcLTRY LEGiND SIGNhRING LIQUIDlTING CAT FACEiFACEkWER ON SYMBOLh-OFF SYMBOLnSLEEP SYMBOLl",
   "YMBOLlRAYER BEADSkECEDESa ABOVE ALMOST EQUAL TOpEQUALS SIGNlNOT ALMOST EQUAL TOpEQUAL TOmSINGL",
   "E-LINE EQUALS SIGNlNOT EQUAL TOzfBUT NOT EQUIVALENT TOvOR EQUAL TOfIVALENT TOqUNDER RELATIONuG",
   "NANT MANdPERSONgWOMANlSCRIPTION TAKEnENTATION FORM FOR VERTICAL COLONdMMAfEM DASHgN DASHgXCLAM",
   "ATION MARKqHORIZONTAL ELLIPSIStIDEOGRAPHIC COMMAfFULL STOPvLEFT ANGLE BRACKETnBLACK LENTICULA",
   "R BRACKETyCORNER BRACKETnURLY BRACKETnDOUBLE ANGLE BRACKETuPARENTHESISlSQUARE BRACKEToTORTOIS",
   "E SHELL BRACKETwWHITE CORNER BRACKEToLENTICULAR BRACKETzdOW LINEiQUESTION MARKnRIGHT ANGLE BRA",
   "CKETnBLACK LENTICULAR BRACKETyCORNER BRACKETnURLY BRACKETnDOUBLE ANGLE BRACKETuPARENTHESISlSQU",
   "ARE BRACKEToTORTOISE SHELL BRACKETwWHITE CORNER BRACKEToLENTICULAR BRACKETeKCETzfSEMICOLONjTW",
   "O DOT LEADERoWAVY LOW LINEzqTZELeVIOUS PAGElIMEcNCEaSSeT SCREEN SYMBOLoERa ICONjVACY MESSAGEkT",
   "E USE ONEdTWOe-1b2lOBING CANEjHIBITED SIGNmJECTIVEhPERTY LINEjORTIONaAL TOmSERPINAjSALTER PAHL",
   "AVI FOUR DOTS WITH CROSSfDOTsLETTER ALEPHfBETHeDALETHgGIMELfHEaTHeKAPHeLAMEDHgMEM-QOPHiNUNdPEc",
   "SADHEdMEKHfHINeTAWdWAW-AYIN-RESHnYODHeZAYINmNUMBER FOUReONEa HUNDREDlTENcHREEeWENTYeOkSECTIO",
   "N MARKmTURNED SECTION MARKzjU1b2bBLIC ADDRESS LOUDSPEAKERyNCTUATION SPACElS ELEVATUS MARKtRPL",
   "E HEARTjSEdSHPINfT LITTER IN ITS PLACE SYMBOL"]

def nameTapeQ : List String :=
  ["QUADRANT LOWER LEFTeRIGHTlUPPER LEFTa AND LOWER LEFT AND LOWER RIGHTuRIGHTlUPPER RIGHT AND LOW",
   "ER LEFTeRIGHTzlRIGHTa AND LOWER LEFTa AND LOWER RIGHTzvUPLE INTEGRAL OPERATORrPRIMEmRTER NOTEj",
   "TERNION INTEGRAL OPERATORzbESTION EXCLAMATION MARKqMARKfED EQUAL TOrINCUNXgOTATION MARK"]

def nameTapeR : List String :=
  ["RABBITa FACEjCCOONeING CARdMOTORCYCLEpDICAL SYMBOL BOTTOMrOa BUTTONhACTIVE SIGNoILWAY CARdTRAC",
   "KkNaBOWeSED BACK OF HANDmCOMMAfDOTaTED INTERPOLATION MARKERzcFISTeHANDa WITH FINGERS SPLAYEDpP",
   "ART BETWEEN MIDDLE AND RING FINGERSzvINTERPOLATION MARKERuMC SIGNgD SIGNgR SIGNhSQUARElMbTaIOd",
   "ZOReECEIPTeORD SEPARATORnREATIONAL VEHICLErYCLED PAPER SYMBOLpING SYMBOL FOR GENERIC MATERIALS",
   "rTYPE-1 PLASTICSk2 PLASTICSk3 PLASTICSk4 PLASTICSk5 PLASTICSk6 PLASTICSk7 PLASTICSzjD APPLEfGI",
   "FT ENVELOPEpFERENCE MARKmGIONAL INDICATOR SYMBOL LETTER AbBbCbDbEbFbGbHbIbJbKbLbMbNbObPbQbRbSb",
   "TbUbVbWbXbYbZzfSTERED SIGNnJANG CONSONANT SIGN HbNaGcRqLETTER AbBAcCAcDAcGAcHAcJAcKAcLAcMAbBAd",
   "NAbDAcGAbGAdYAbJAePAcRAcSAcTAcWAcYAjSECTION MARKmVIRAMAfOWEL SIGN AIbUcEaAbUcIbObUrLIEVED FACE",
   "lMINDER RIBBONnPLACEMENT CHARACTERtSPONSEfTRICTED LEFT ENTRY-1b2sOOMgTURN LEFTeRIGHTfSYMBOLlVE",
   "RSE CHECKER BOARDnINDEXfLIGHT FOUR POINTED PINWHEEL STARzfNE FEEDjSOLIDUSa OPERATORiPRECEDIN",
   "G SUBSETqWITH HORIZONTAL STROKEzfTILDE OPERATOR ABOVE LEFTWARDS ARROWpRIGHTWARDS ARROWznD ANGL",
   "Ea WITH UNDERBARtCOMMAfDOUBLE PRIMEa QUOTATION MARKuSTROKE NOT SIGNwEMPTY SETjFORKED PARAGRAPH",
   "OSsHAND WITH MIDDLE FINGER EXTENDEDzhNOT SIGNiPILCROW SIGNlRIMEfQUESTION MARKnRAISED HAND WIT",
   "H FINGERS SPLAYEDzgIGHT ANGLEkOTATED FLORAL HEART BULLETzcSANS-SERIF CAPITAL LtEMICOLONjTHUMB",
   "S DOWN SIGNjUP SIGNnILDEa EQUALSlRIPLE PRIMEmVICTORY HANDsOLVING HEARTSpHINOCEROSjIaAL SIGNhBB",
   "ONa ARROW DOWN LEFTeRIGHTkLEFT DOWNeUPhRIGHT DOWNeUPiUP LEFTeRIGHTtCE BALLeCRACKERkFLEdGHT AN",
   "D LOWER ONE EIGHTH BLOCKwUPPER ONE EIGHTH BLOCKyGER BUBBLEjLEa BRACKETa WITH DOTqDOTTED SUBSTI",
   "TUTION MARKERzbSUBSTITUTION MARKERtVARIANT WITH SQUAREtWITH ARCdDOWNWARDS ZIGZAG ARROWzhRC GRE",
   "ATER-THAN BRACKETwROW WITH CIRCLED PLUSmSMALL CIRCLExBLACK LENTICULAR BRACKETsTORTOISE SHELL B",
   "RACKETzdCEILINGgORNER BRACKETnURLY BRACKETa LOWER HOOKkMIDDLE PIECEmUPPER HOOKyDOTTED SUBSTITU",
   "TION BRACKETzUBLE ANGLE BRACKETmRROW WITH ROUNDED HEADxPARENTHESISlQUOTATION MARKoWIGGLY FENCE",
   "tFISH TAILhVE EIGHTHS BLOCKrLOORfHALF BLACK CIRCLEgSTARiOCKfFOLDERgMEDIUM SHADEmRUNNING MANoN",
   "D TELEPHONE RECEIVERxLOW PARAPHRASE BRACKETwNORMAL FACTOR SEMIDIRECT PRODUCTzhONE EIGHTH BLOCK",
   "mQUARTER BLOCKqPEN SQUARED DOTpUTER JOINkPARENTHESISa EXTENSIONjLOWER HOOKkUPPER HOOKwRAISED O",
   "MISSION BRACKETxS-SHAPED BAG DELIMITERvEMIDIRECT PRODUCTqVEN EIGHTHS BLOCKsIDEWAYS U BRACKETqN",
   "GLE QUOTATION MARKuPEAKERa WITH ONE SOUND WAVEoTHREE SOUND WAVESzcECH BUBBLEmQUARE BRACKETa EX",
   "TENSIONjLOWER CORNERmUPPER CORNERmWITH DOUBLE STROKEnQUILLfSTROKEgTICK IN BOTTOM CORNERnTOP CO",
   "RNERsUNDERBARzcUBSTITUTION BRACKETuTACKdHIRD WHITE RIGHT POINTING INDEXzfOUGHT BUBBLEmREE EIGH",
   "THS BLOCKnQUARTERS BLOCKtORTOISE SHELL BRACKETvRANSPOSITION BRACKETtIANGLEa ABOVE LEFT TRIANGL",
   "EwULAR ONE QUARTER BLOCKzdVERTICAL BAR WITH QUILLnOX LINErWHITE CORNER BRACKETnURLY BRACKETnLE",
   "NTICULAR BRACKETsPARENTHESISlSQUARE BRACKEToTORTOISE SHELL BRACKETzcIGGLY FENCEn-FACING ARMENI",
   "AN ETERNITY SIGNwFISTeSVASTI SIGNa WITH DOTSzdHANDED INTERLACED PENTAGRAMzcPOINTING ANGLE BRAC",
   "KETnCURVED ANGLE BRACKETuDOUBLE ANGLE QUOTATION MARKzcMAGNIFYING GLASSzSHADED WHITE RIGHTWARD",
   "S ARROWzdIDE ARC CLOCKWISE ARROWyTO-LEFT EMBEDDINGjISOLATEhMARKeOVERRIDErHAND INTERIOR PRODUCT",
   "vWARDS ARROWa ABOVE ALMOST EQUAL TOpREVERSE ALMOST EQUAL TOpTILDE OPERATORwSHORT LEFTWARDS ARR",
   "OWvTILDE OPERATORtND UPPER AND LOWER ONE EIGHTH BLOCKzlFROM BARa TO BLACK DIAMONDzOVER LEFTWAR",
   "DS ARROWuTHROUGH GREATER-THANmSUPERSETiXiO BARcLACK DIAMONDqWITH CORNER DOWNWARDSqDOTTED STEMj",
   "UBLE VERTICAL STROKEwEQUILATERAL ARROWHEADvHOOKeLARGE TRIANGLE ARROWHEADxOOPeMEDIUM TRIANGLE A",
   "RROWHEADzNOTCHED TAILmPLUS BELOWkSMALL EQUILATERAL ARROWHEADvTRIANGLE ARROWHEADxTROKEgTAILa WI",
   "TH DOUBLE VERTICAL STROKEwVERTICAL STROKEyIP DOWNWARDSjUPWARDSlVERTICAL STROKEv-TAILkBACK-TILT",
   "ED SHADOWED WHITE ARROWzgLACK ARROWfCIRCLED WHITE ARROWyOTTOM SHADED WHITE ARROWzCOMPRESSED AR",
   "ROWqDASHED ARROWlOUBLE ARROWa FROM BARiWITH STROKEgVERTICAL STROKEv-TAILkDASH ARROWrFINGER-POS",
   "T ARROWqRONT-TILTED SHADOWED WHITE ARROWziHANDcRPOON OVER LEFTWARDS HARPOONwWITH BARB DOWN ABO",
   "VE LEFTWARDS HARPOON WITH BARB DOWNznBELOW LONG DASHpFROM BARiTO BARhWARDSjUP ABOVE LEFTWARD",
   "S HARPOON WITH BARB UPzeONG DASHjRIGHTWARDS HARPOON WITH BARB DOWNzoFROM BARiTO BARhWARDSyEAV",
   "Y ARROWfCOMPRESSED ARROWwLEFT-SHADED WHITE ARROWxOPEN-HEADED ARROWrPAIRED ARROWSnQUADRUPLE ARR",
   "OWpRIGHT-SHADED WHITE ARROWxOCKETgSANS-SERIF ARROWpQUARED ARROWkIGGLE ARROWoTOP SHADED WHITE A",
   "RROWvRIANGLE ARROWHEADk-HEADED ARROWa OVER LEFTWARDS TRIANGLE-HEADED ARROWzlTO BARgWITH BOLD S",
   "HAFTkDOUBLE HORIZONTAL STROKErVERTICAL STROKEwHEAVY SHAFTlLONG TIP DOWNWARDSjUPWARDSqMEDIUM SH",
   "AFTmNARROW SHAFTmVERY HEAVY SHAFTzcDASHED ARROWmPAIRED ARROWSzbPLE ARROWfDASH ARROWqWO HEADE",
   "D ARROWn-HEADED ARROW FROM BARiWITH DOUBLE VERTICAL STROKEwTAILa WITH DOUBLE VERTICAL STROKEwV",
   "ERTICAL STROKEyRIANGLE ARROWHEADStVERTICAL STROKEzbTRIPLE DASH ARROWzdWAVE ARROWjHITE ARROWa F",
   "ROM WALLjWITHIN TRIANGLE ARROWHEADzvNGa ABOVEfBUOYeEQUAL TOiIN EQUAL TOlOPERATORiPOINTgED PLAN",
   "ETjING BELLkSING DIAGONAL CROSSING FALLING DIAGONALqSOUTH EAST ARROWzpLEbIbMbOcOASTED SWEET PO",
   "TATOsBOT FACEiCKaETeLL OF PAPERjED-UP NEWSPAPERoR COASTERhSKATEiING ON THE FLOOR LAUGHINGzcMA",
   "N AS SIGNhCENTURIAL SIGNoDENARIUS SIGNmIMIDIA SEXTULA SIGNtUPONDIUS SIGNoNUMERAL EIGHTeLEVENgF",
   "IFTYa EARLY FORMkTHOUSANDmVEa HUNDREDhTHOUSANDmOUReNINEeONEa HUNDREDa THOUSANDqTHOUSANDa C DqR",
   "EVERSED ONE HUNDREDuSEVENeIXa LATE FORMnTENa THOUSANDlHREEeWELVEeOlQUINARIUS SIGNoSEMUNCIA SIG",
   "NlSTERTIUS SIGNnXTANS SIGNiULA SIGNlILIQUA SIGNmUNCIA SIGNoOSTERfSEaTTEfTATED CAPITAL QjFLORA",
   "L HEART BULLETtHEAVY BLACK HEART BULLETyLIGHT FOUR POINTED BLACK CUSPzeWHITE FOUR POINTED CUSP",
   "zeUND PUSHPINhTARGEThED SYMBOL FOR CAIdFUcLUcSHOUcUANGXIiXItWBOATgSbUBLE SIGNiGBY FOOTBALLmLE-",
   "DELAYEDkMI DIGIT EIGHTfFIVEdOUReNINEeONEdSEVENeIXdTHREEeWOjFRACTION ONE HALFeQUARTERhTHIRDjTW",
   "O THIRDStNUMBER EIGHT HUNDREDiYgFIFTYdVE HUNDREDlORTYdUR HUNDREDmNINE HUNDREDiTYgONE HUNDREDlS",
   "EVEN HUNDREDiTYgIX HUNDREDiTYfTENcHIRTYeREE HUNDREDmWENTYeO HUNDREDvNIC ARLAUG SYMBOLnBELGTHO",
   "R SYMBOLpCROSS PUNCTUATIONrLETTER AC AdESCdLGIZ EOLHXkNSUZ AhBERKANAN BEORC BJARKAN ByCaALCdEA",
   "LCdNcWEORTHhDaAGAZ DAEG DlOTTED-LbNbPiEaARcHWAZ EH EjNGcTHdFEHU FEOH FE FnRANKS CASKET ACbESCe",
   "EHcIScOSqGaARcEBO GYFU GjRdHAEGL HfGLAZ HiICELANDIC-YRlNGaWAZfORcSAZ IS ISS ImWAZ EOHiJERAN Jh",
   "KaAUN KcAfLAUKAZ LAGU LOGR LrONG-BRANCH-AR AEfHAGALL HiMADR MgOSS OfYRoMANNAZ MAN MmNAUDIZ NY",
   "D NAUD NrOaEbNbObPEN-PfS OdTHALAN ETHEL OpPERTHO PEORTH PpQbRAIDO RAD REID RqSHaORT-TWIG-AR Ae",
   "BJARKAN BjHAGALL HiMADR MgNAUD NgOSS OfSOL SfTYR TfYRmIGEL LONG-BRANCH-SOL SwOWILO ShTANeTHURI",
   "SAZ THURS THORNtIWAZ TIR TYR TpURUZ UR UjVbWaUNJO WYNN WmXbYaRcZiMULTIPLE PUNCTUATIONuSINGLE P",
   "UNCTUATIONsTVIMADUR SYMBOLsNERcING SHIRT WITH SASHvPEE SIGNiSSIAN ASTROLOGICAL SYMBOL BINOVILE",
   "iNOVILEgQUINTILEiSENTAGONiTREDECILEjVIGINTILE"]

def nameTapeS : List String :=
  ["S IN TRIANGLEmAFETY PINdVESTjGITTARIUSjILBOATgKE BOTTLE AND CUPrLT SHAKERhIREeUTING FACElMARIT",
   "AN ABBREVIATION MARKrLETTER ALAFeBAAcITdDALATfFIcGAMANfINbTbYcKAAFeLABATfMIMdNUNdQUFdRISHeSHAN",
   "dINGAAThTAAFdITcSAADIYhYUTdZENkMARK DAGESHgEPENTHETIC YUToINa-ALAFhNEQUDAAhOCCLUSIONnODIFIER L",
   "ETTER EPENTHETIC YUToIbSHORT AxPUNCTUATION AFSAAQfNGEDdNAAUfRKAANUgTMAAUgBAUdMELODIC QITSAnNEQ",
   "UDAAhQITSAfSHIYYAALAAjOF MASHFAATmTURUeZAEFdIQAArVOWEL SIGN AaAcEbIbLONG AaAcEbIbUgOaVERLONG A",
   "aAlSHORT AgUKUNfUuNDWICHfS-SERIF HEAVY DOUBLE COMMA QUOTATION MARK ORNAMENTzeTURNED COMMA QUOT",
   "ATION MARK ORNAMENTzsLOW DOUBLE COMMA QUOTATION MARK ORNAMENTzvINTERROBANG ORNAMENTzeRIcTELLIT",
   "Ea ANTENNAoURNeURASHTRA CONSONANT SIGN HAARUuDANDAeIGIT EIGHTfFIVEdOUReNINEeONEdSEVENeIXdTHREE",
   "eWOdZEROjOUBLE DANDAmLETTER AaAbIbUcBAbHAdCAbHAdDAbDAbHAdHAdEaEcGAbHAdHAcIaIcJAbHAdKAbHAdLAbLA",
   "dMAcNAbGAcNAcYAdOaOcPAbHAdRAcSAbHAcSAdTAbHAcTAbHAeUaUcVAbOCALIC LaLcRaRkYAjSIGN ANUSVARAiCANDR",
   "ABINDUlVIRAMAeSARGAmVOWEL SIGN AAbIbUcEaEcIaIcOaOcUaUcVOCALIC LaLcRaRzdOPODgXOPHONEiCALESdRFdH",
   "OOLa SATCHELmIbOOTEReRPIONcUSgREENcWDRIVERiIPT CAPITAL BbEbFbHbIbLbMbPbRjLIGATURE ET ORNAMENTu",
   "SMALL EbGbLbOlOLLdUPLEgEALbTcCOND PLACE MEDALpTION SIGNiOReDNAdE-NO-EVIL MONKEYpDLINGgGMENTaE",
   "D DIGIT EIGHTfFIVEdOUReNINEeONEdSEVENeIXdTHREEeWOdZEROsLFIEeMICOLONfDIRECT PRODUCT WITH BOTTO",
   "M CLOSEDziSEXTILEjPARATED SYMBOLoRIOUS FACE WITH SYMBOLS COVERING MOUTHzmVICE MARKkSAME DOThQU",
   "IQUADRATEmT MINUSfTRANSMIT STATEqWING NEEDLElXTILEgGCcHADOWED WHITE CIRCLEgLATIN CROSSlSTARqLL",
   "OW PAN OF FOODqMROCKfRADA ABBREVIATION SIGNrCONTINUATION SIGNrDANDAeIGIT EIGHTfFIVEdOUReNINEeO",
   "NEdSEVENeIXdTHREEeWOdZEROjOUBLE DANDAmEKAMdXTRA SHORT VOWEL MARKwHEADSTROKEkLETTER AaAbIbUcBAb",
   "HAdCAbHAdDAbDAbHAdHAdEbGAbHAdHAcIaIcJAbHAdKAbHAdLAbLAdMAcNAbGAcNAcYAdObPAbHAdRAcSAbHAcSAdTAbHA",
   "cTAbHAeUaUcVAbOCALIC LaLcRaRkYAjOMcSANDHI MARKkECTION MARK-1b2mPARATORiIGN ANUSVARAhVAGRAHAiCA",
   "NDRABINDUlINVERTED CANDRABINDUuJIHVAMULIYAlNUKTAfSIDDHAMhUPADHMANIYAlVIRAMAeSARGAlUTRA MARKkVO",
   "WEL MODIFIER MARKnSIGN AAbIbUcEbIaIcObPRISHTHAMATRA EpUaUcVOCALIC LaLcRaRzKcVED ICEgIAN LETTE",
   "R ADOcGEcHbIRcREbRAYeSHcWEdBIBdCHURCHgDEADeEARbTcGGcRRdFEEdGAGdHA-HAeUNGeIANcCEcFcJUDGEfKICKeL",
   "OLLeMEASUREgIMEeNUNdOAKcILcNbOZEdRbUTdPEEPeROAReSObUREeTHEYcIGHeOTdUPcVOWdWOEbOLeYEAbWdZOOqEEP",
   "dIELDdFT INcOUTgNTO SHRINEkPcOCKED FACE WITH EXPLODING HEADzeOTING STARkPPING BAGSeTROLLEYnR",
   "T BACKSLANTED SOUTH ARROWwENT ARROW POINTING DOWNWARDS THEN NORTH EASTzuDOWN TACKa WITH OVERBA",
   "RwLEFT TACKjRIGHTWARDS ARROW ABOVE LEFTWARDS ARROWznSLANTED NORTH ARROWtUP TACKa ABOVE SHORT D",
   "OWN TACKvWITH UNDERBARwCAKEeHAND FORMAT CONTINUING OVERLAPsDOWN STEPjLETTER OVERLAPoUP STEPtSd",
   "ULDERED OPEN BOXqWEReRIMPdUGdUFFLE PRODUCTnYcIaDDHAM DANDAeOUBLE DANDAmEND OF TEXT MARKqLETTE",
   "R AaAbIbLTERNATE UkUcBAbHAdCAbHAdDAbDAbHAdHAdEbGAbHAdHAcIaIcJAbHAdKAbHAdLAcMAcNAbGAcNAcYAdObPA",
   "bHAdRAcSAbHAcSAdTAbHAbREE-CIRCLE ALTERNATE IxTAbHAdWO-CIRCLE ALTERNATE IaIxUaUcVAbOCALIC LaLcR",
   "aRkYAjREPETITION MARK-1b2b3rSECTION MARK DOUBLE RINGa WITH RAYSvWITH CIRCLES AND FOUR ENCLOSUR",
   "ESpRAYSeTWO ENCLOSURESzbDOUBLE CRESCENTSqQUADRUPLE CRESCENTStRAYS AND DOTTED CRESCENTSjDOUBL",
   "E CRESCENTSqTRIPLE CRESCENTSzhSEPTUPLE CRESCENTSsTRIDENT AND DOTTED CRESCENTSqU-SHAPED ORNAMEN",
   "TSzcPLE CRESCENTSzhPARATOR BARdDOTmIGN ANUSVARAiCANDRABINDUlNUKTAfSIDDHAMhVIRAMAeSARGAmVOWEL S",
   "IGN AAbIbLTERNATE UaUlUcEbIaIcObUaUcVOCALIC RaRzbEWAYS BLACK DOWN POINTING INDEXtLEFT POINTIN",
   "G INDEXtRIGHT POINTING INDEXuUP POINTING INDEXxWHITE DOWN POINTING INDEXtLEFT POINTING INDEXtR",
   "IGHT POINTING INDEXuUP POINTING INDEXzfGN OF THE HORNSnWRITING AIR BLOW SMALL ROTATIONSqING OU",
   "TlSUCK SMALL ROTATIONSqING INoBREATH EXHALEgINHALElUSH BETWEENhMULTIPLEiSINGLEmCHEEKS NEUTRALh",
   "PUFFEDgSUCKEDmOLONdMMAfDREAMY EYEBROWS DOWN NEUTRALmNEUTRAL DOWNeUPkUP NEUTRALzYNAMIC ARROWHEA",
   "D LARGEfSMALLpEVERY OTHER TIMEqFASTeGRADUALhRELAXEDhSIMULTANEOUSa ALTERNATINGxLOWeTENSEnEARSdX",
   "CITEMENTjYE BLINK MULTIPLEiSINGLEmWINKfBROWS STRAIGHT DOWNeNEUTRALhUPrGAZE-FLOORPLANE CURVEDgS",
   "TRAIGHTa ALTERNATINGlDOUBLEzbWALLPLANE CIRCLINGhURVEDgSTRAIGHTa ALTERNATINGlDOUBLEzfLASHES DOW",
   "NeFLUTTERINGkUPjS CLOSEDgHALF CLOSEDgOPENjOPENeSQUEEZEDiWIDE OPENfNING MOVEMENTwFACE DIRECTIO",
   "N POSITION NOSE FORWARD TILTINGpUP OR DOWNa TILTINGzvILL MODIFIER-2b3b4b5b6nNGERfLICK LARGE MU",
   "LTIPLEiSINGLEmSEQUENTIALjMALL MULTIPLEiSINGLEqOORPLANE SHOULDER HIP MOVEzcOREHEAD CONTACThNEUT",
   "RALhWRINKLEDqULL STOPjGRASP BETWEENhMULTIPLEiSINGLEmHAIRcND-ANGLEa INDEXa MIDDLE LITTLEgRINGlR",
   "ING LITTLEa OUTpTHUMBa INcOUTpLITTLE INDEXa THUMB INDEX THUMBa OUTzcUPjMIDDLE RING LITTLEa INc",
   "OUTwRING DOWN MIDDLE THUMB INDEX CROSSzeLITTLErCIRCLEa INDEXa BENTeHINGEfMIDDLEa CROSS LITTLEh",
   "EDhLITTLEgRINGeTHUMBmRING LITTLErLITTLE INDEXfUPjMIDDLE RING LITTLEa BENTqUPjRING LITTLErLAW",
   "a FOUR FINGERS CONJOINEDwINDEX THUMB CURVE THUMB INSIDEzfMIDDLE RING LITTLE CONJOINEDa SIDEziN",
   "O THUMBiTHUMB FORWARDhSIDEoUPa FIVE FINGERS SPREADa OPENyINDEXa RING LITTLElTHUMBa OPENqMIDDL",
   "E RING LITTLEsNO THUMBiOPENa NO THUMBiTHUMB FORWARDhSIDEpTHUMB FORWARDhSIDEmRLICUEa INDEX RIN",
   "G LITTLE ONuMIDDLE RING LITTLE ONvOPENnFISTa FOUR FINGERS CONJOINED BENTzcHEELeINDEXa BENTa OV",
   "ER MIDDLEqCUPPEDgHINGEDa LOWdMIDDLE UPa THUMB SIDEzcMIDDLEa BENTa THUMB STRAIGHTtCONJOINEDa CU",
   "PPEDa THUMB FORWARDuHINGEDa THUMB SIDErINDEX BENTkMIDDLE BENTlTHUMB FORWARDhSIDEa BENTeCONJOIN",
   "EDzeROSS LITTLEhEDa THUMB SIDEsHINGEDa SPREAD THUMB SIDEyLITTLEgRAISED KNUCKLESoINGa BENTeCONJ",
   "OINEDoSTRAIGHT THUMB BENTtTHUMBa ANGLEDa OUTkBENTeCIRCLEDgONJOINED HINGEDpUPPEDgHINGEDfOOKEDmU",
   "P SPREAD THUMB FORWARDzfRAISED KNUCKLEnING LITTLElTHUMB ANGLED IN MIDDLE UPmOUT MIDDLE UPuCIRC",
   "LEaD MIDDLE UPqUPPED MIDDLE UPoRLICUEfVE THUMB INSIDEgUNDERrFORWARD INDEX BENTeSTRAIGHTwHOOKaE",
   "D MIDDLE HINGEDgUPqSIDEa BOTH BENTjINDEX BENTeHINGElTHUMB BENTeCONJOINEDjDIAGONALzUP MIDDLE HI",
   "NGEDa THUMB CONJOINEDjSIDEziLITTLE BENTeDOWNa OTHERS CIRCLEDoRIPPLE CURVEDgSTRAIGHTuINDEXa THU",
   "MBlRAISED KNUCKLEoTHUMBeOUCHES THUMBnUPjMIDDLE BENT OVER INDEXpDOWNeLITTLEgRAISED KNUCKLEnIN",
   "G LITTLElTHUMB ANGLED INDEX UPiOUT INDEX CROSSEDhUPtCIRCLED INDEX HINGEDgUPpUPPED INDEX UPpHOO",
   "KED INDEX UPpLITTLEmUPa THUMB SIDEuRING DOWNeINDEXfLITTLEgMIDDLEa CONJOINEDjRAISED KNUCKLESwRA",
   "ISED KNUCKLEoTHUMBfUPhTHUMBa BETWEEN INDEX MIDDLEa STRAIGHTvMIDDLE RINGlRING LITTLEtFORWARDhHE",
   "ELeOVER FOUR RAISED KNUCKLESuTWO FINGERSqSIDE BENTeCONJOINEDjDIAGONALnUNDER FOUR FINGERSmINDE",
   "X BENTkLITTLE UPjTHREE FINGERSmWO FINGERSzcLATa BETWEEN PALM FACINGSuFIVE FINGERS SPREADa BENT",
   "eFOUR BENTjHINGEDa NO THUMBiTHUMB SIDErTHUMB FORWARDzhOUR FINGERSa BENTeCONJOINEDa SPLITpHINGE",
   "DtHEELa FIVE FINGERS SPREADa BENTeFOUR BENTzeTHUMB SIDEpSPLIT CENTREa THUMB SIDEa BENTwINDEX T",
   "HUMB SIDEqLITTLEmTHUMB BENTeFORWARDhSIDEpHINGEa FIVE FINGERS SPREAD OPENxOUR FINGERS CONJOINED",
   "wINDEXa HINGEDgMIDDLE LITTLEgRINGa CONJOINEDvRING LITTLElTHUMBa LARGEfOPENeSIDEdMALLrLITTLEa I",
   "NDEXa THUMBlTHUMBmMIDDLEa RING LITTLEsNO THUMBiOPENa NO THUMBiTHUMB FORWARDhSIDEpRINGa DOWN IN",
   "DEX THUMB HOOK MIDDLEziSMALLfTHUMB BETWEEN MIDDLE RINGtSIDEa TOUCHING INDEXzfOOKa CURLICUEiIND",
   "EX RING LITTLE INcOUTdUNDERxMIDDLE RING LITTLE CONJOINEDa INcOUTzTHUMBmRING THUMBpOVALa FIVE F",
   "INGERS SPREADtINDEXfLITTLE UPjNO THUMBiRING LITTLElTHUMB FORWARDhSIDEtEADa MOVEMENT CIRCLEh-FL",
   "OORPLANE CURVEfSTRAIGHTtWALLPLANE CURVEfSTRAIGHTiTILTxRIMiLIMB COMBINATIONlLENGTH-1b2b3b4b5b6b",
   "7lP LOWER OVER UPPERqUPPER OVER LOWERrS PRESSED TOGETHERuOCATION DEPTHfHEAD NECKhIGHTgLIMBS DI",
   "GITSmTORSOfWIDTHg-FLOORPLANE SPACEqWALLPLANE SPACEyMOUTH CLOSED CONTACThFORWARDhNEUTRALnORNERS",
   "hFROWNa OPENeWRINKLEDoKISSa FORWARDhWRINKLEDnOPEN CIRCLEgFORWARDhOVALa WRINKLEDiYAWNjRECTANGLE",
   "a WRINKLEDiYAWNoWRINKLEDnSMILEa OPENeWRINKLEDoTENSEa FORWARDhSUCKEDmWRINKLES DOUBLEgSINGLEtVEM",
   "ENT-DIAGONAL AWAY LARGEaSThMEDIUMgSMALLkBETWEEN AWAY LARGEaSThMEDIUMgSMALLkTOWARDS LARGEaSThME",
   "DIUMgSMALLvTOWARDS LARGEaSThMEDIUMgSMALLwFLOORPLANE ARM CIRCLE HITTING WALL LARGE DOUBLEgSINGL",
   "EmMEDIUM DOUBLEgSINGLEnSMALL DOUBLEgSINGLEzlBENDdOX LARGEfMEDIUMgSMALLjCHECKeORNER LARGEfMEDIU",
   "MgSMALLlROSSeURVE COMBINEDiHITTING CEILING LARGEfSMALLnFLOOR LARGEfSMALLtLARGEaSThMEDIUMgSMALL",
   "lDOUBLE ALTERNATINGa WRIST FLEXwSTRAIGHTiWRIST FLEXrFINGER CIRCLES HITTING WALL DOUBLEgSINGLEz",
   "bONTACToHUMP HITTING CEILING LARGE DOUBLEgTRIPLEmSMALL DOUBLEgTRIPLEuFLOOR LARGE DOUBLEmSMAL",
   "L DOUBLEmTRIPLE LARGE TRIPLEmSMALL TRIPLEziSMALLkJAWdLOOP HITTING CEILING LARGE DOUBLEgSINGLEm",
   "SMALL DOUBLEgSINGLEuFLOOR LARGE DOUBLEgSINGLEmSMALL DOUBLEgSINGLEzbSMALLkPEAKS LARGEfMEDIUMgSM",
   "ALLlSHAKING PARALLELpINGLE STRAIGHT LARGEaSThMEDIUMgSMALLoWRIST FLEXrTRIPLE ALTERNATING MOVEME",
   "NTiWRIST FLEXwSTRAIGHT MOVEMENTrWRIST FLEXrWAVE HITTING CEILING LARGEfSMALLnFLOOR LARGEfSMALLt",
   "LARGEfSMALLeNAKEjRIST CIRCLE HITTING WALL DOUBLEgSINGLEzhZIGZAG LARGEfMEDIUMgSMALLxHINGE DOW",
   "N SEQUENTIALpSIDE TO SIDE SCISSORSvUP DOWN ALTERNATING LARGEfSMALLrLARGEfSMALLkSEQUENTIALtWALL",
   "PLANE ARM CIRCLE MEDIUM DOUBLEgSINGLEnSMALL DOUBLEgSINGLExBEND LARGEfMEDIUMgSMALLjOX LARGEfMED",
   "IUMgSMALLjCHECK LARGEfMEDIUMgSMALLkORNER LARGEfMEDIUMgROTATIONiSMALLlROSSeURVE HALF-CIRCLE LAR",
   "GEaSThMEDIUMgSMALLqITTING CHESTfFRONT WALLsQUARTER LARGEaSThMEDIUMgSMALLnTHEN STRAIGHTlREE-QUA",
   "RTER CIRCLE MEDIUMgSMALLzcD CROSS MEDIUMgSMALLsDOUBLE ALTERNATINGa WRIST FLEXwSTRAIGHTiWRIST F",
   "LEXrFINGER CIRCLES DOUBLEgSINGLEnONTACToHUMP HITTING CHESTfFRONT WALLsLARGEfMEDIUMgSMALLkJAWdL",
   "OOP HITTING CHESTfFRONT WALLsLARGEfMEDIUMgSMALLa DOUBLErPEAKS LARGEfMEDIUMgSMALLlSHAKINGgINGL",
   "E STRAIGHT LARGEaSThMEDIUMgSMALLoWRIST FLEXrTRIPLE ALTERNATINGa WRIST FLEXwSTRAIGHT MOVEMENTrW",
   "RIST FLEXrWAVE CURVE DOUBLE LARGEfMEDIUMgSMALLmTRIPLE LARGEfMEDIUMgSMALLsDIAGONAL PATH LARGEfM",
   "EDIUMgSMALLtHITTING CHESTfFRONT WALLwRIST CIRCLE FRONT DOUBLEgSINGLEzZIGZAG LARGEfMEDIUMgSMALL",
   "zgNECKdOSE CONTACThNEUTRALhWIGGLESgRINKLESnPARENTHESISlROTATION MODIFIER-10b1b2b3b4b5b6c2b3b4b",
   "5b6b7b8b9l-FLOORPLANE ALTERNATINGa HITTING CEILINGhFLOORzDOUBLEa HITTING CEILINGhFLOORuSINGLE",
   "a HITTING CEILINGhFLOORzgWALLPLANE ALTERNATEbING HITTING CHESTfFRONT WALLzfDOUBLEa HITTING CHE",
   "STfFRONT WALLzSINGLEa HITTING CHESTfFRONT WALLzsUB BETWEENhMULTIPLEiSINGLEkSEMICOLONiHOULDER H",
   "IP POSITIONSjSPINEjTILTING FROM WAISTzbQUEEZE FLICK ALTERNATINGrLARGE MULTIPLEiSINGLEmSEQUENTI",
   "ALjMALL MULTIPLEiSINGLEtTRIKE BETWEENhMULTIPLEiSINGLEmURFACE BETWEENhSYMBOLSpTEETHa BITE LIPSj",
   "MOVEMENTiON LIPSa MOVEMENTnTONGUEa MOVEMENTwNSE CHEEKS HIGHeLOWdMIDDLEsONGUE CENTRE INSIDE MOU",
   "THmSTICKING OUTtINSIDE MOUTH RELAXEDuLICKING LIPSmMOVES AGAINST CHEEKtSTICKING OUT FARqTIP BET",
   "WEEN LIPSmTOUCHING INSIDE MOUTHzfRSO-FLOORPLANE TWISTINGtWALLPLANE CURVED BENDlSTRAIGHT STRETC",
   "HzfUCH BETWEENhMULTIPLEiSINGLElRAVEL-FLOORPLANE ROTATION-FLOORPLANE ALTERNATINGlDOUBLEgSINGLEr",
   "WALLPLANE ALTERNATINGlDOUBLEgSINGLEzSHAKINGsWALLPLANE ARM SPIRAL DOUBLEgSINGLEgTRIPLErROTATION",
   "-FLOORPLANE ALTERNATINGlDOUBLEgSINGLErWALLPLANE ALTERNATINGlDOUBLEgSINGLEzSHAKINGyUPPER BODY T",
   "ILTING FROM HIP JOINTSzjWALLPLANE SHOULDER HIP MOVEzmLHOUETTE OF JAPANrMILAR ABOVE GREATER-THA",
   "N ABOVE EQUALS SIGNzfLESS-THAN ABOVE EQUALS SIGNziMINUS SIMILARnOR GREATER-THANmLESS-THANsNE W",
   "AVEgGLE CHARACTER INTRODUCERuGRAPHIC CHARACTER INTRODUCERzdHIGH-REVERSED-9 QUOTATION MARKzfLEF",
   "T-POINTING ANGLE QUOTATION MARKziOW-9 QUOTATION MARKuRIGHT-POINTING ANGLE QUOTATION MARKzkSHIF",
   "T THREEeWOk-SHIFT-2b3lHALA ARCHAIC DIGIT EIGHTfFIVEdOUReNINEeONEdSEVENeIXdTHREEeWOjNUMBER EIGH",
   "TYgFIFTYeORTYfNINETYgONE HUNDREDhTHOUSANDmSEVENTYgIXTYfTENcHIRTYfWENTYvLETTER AAYANNAgEEYANNAg",
   "YANNAgIYANNAgLPAPRAANA BAYANNAhCAYANNAhDAYANNAgDAYANNAiGAYANNAhJAYANNAhKAYANNAhPAYANNAhTAYANNA",
   "gTAYANNAsMBA BAYANNAlUYANNAgYANNAgDANTAJA LAYANNAhNAYANNAhSAYANNApEEYANNAgYANNAgFAYANNAhHAYANN",
   "AhIIYANNAgLUUYANNAgYANNAhRUUYANNAgYANNAhYANNAgKANTAJA NAASIKYAYAsMAHAAPRAANA BAYANNAhCAYANNAhD",
   "AYANNAgDAYANNAiGAYANNAhJAYANNAhKAYANNAhPAYANNAhTAYANNAgTAYANNAsYANNAgUURDHAJA LAYANNAhNAYANNAh",
   "SAYANNArOOYANNAgYANNAgRAYANNAhSANYAKA DAYANNAgDAYANNAiGAYANNAhJAYANNApTAALUJA NAASIKYAYAkSANYO",
   "OGA NAAKSIKYAYAsYANNApUUYANNAgYANNAgVAYANNAhYAYANNAnITH DIGIT EIGHTfFIVEdOUReNINEeONEdSEVENeIX",
   "dTHREEeWOdZEROpPUNCTUATION KUNDDALIYAwSIGN AL-LAKUNAiNUSVARAYAkCANDRABINDUlVISARGAYAoVOWEL SIG",
   "N AELA-PILLAkDIGA AEDA-PILLAkGAETTA-PILLAkYANUKITTAlIS-PILLAiKOMBUVAhPAA-PILLAoGAETTA-PILLAkYA",
   "NUKITTAlKETTI AEDA-PILLAkIS-PILLAiPAA-PILLAoOMBU DEKAfVAa HAA AELA-PILLAkDIGA AELA-PILLApGAYAN",
   "UKITTAzpX PETALLED BLACK AND WHITE FLORETTEzhOINTED BLACK STARkPINWHEEL STARnSTAR WITH MIDDL",
   "E DOTze-PER-EM SPACEnTEEN POINTED ASTERISKxKATEBOARDiI AND SKI BOOTnERdULLa AND CROSSBONESrNKe",
   "LANTED EQUAL TO OR GREATER-THANa WITH DOT INSIDEzdLESS-THANa WITH DOT INSIDEzmNORTH ARROW WIT",
   "H HOOKED HEADjRIZONTAL TAILzmVONIC ASTERISKpEDbEPING ACCOMMODATIONnFACEeSYMBOLkY FACEiUTH OR S",
   "PYlICE OF PIZZAlGHTLY FROWNING FACEnSMILING FACEtOPEbING LARGE ANDdORnT MACHINEiHeMALL AIRPLAN",
   "EhMPERSANDiSTERISKiBLUE DIAMONDmCOLONdMMAbERCIAL ATlNTAINS AS MEMBERjWITH OVERBARhVERTICAL BA",
   "R AT END OF HORIZONTAL STROKEzzeDOLLAR SIGNlELEMENT OFa WITH OVERBARhVERTICAL BAR AT END OF HO",
   "RIZONTAL STROKEzzfM DASHgQUALS SIGNkXCLAMATION MARKqFULL STOPjGREATER-THAN SIGNrHYPHEN-MINUSmI",
   "DEOGRAPHIC COMMArLEFT CURLY BRACKETnPARENTHESISlTORTOISE SHELL BRACKETzSS-THAN SIGNoNUMBER SIG",
   "NlORANGE DIAMONDoPERCENT SIGNlLUS SIGNjQUESTION MARKnREVERSE SOLIDUSoIGHT CURLY BRACKETnPARENT",
   "HESISlTORTOISE SHELL BRACKETzcOMAN NUMERAL EIGHTeLEVENgFIFTYdVEa HUNDREDlOUReNINEeONEa HUNDRED",
   "hTHOUSANDmSEVENeIXdTENcHREEeWELVEeOrSEMICOLONjTILDEeWO DOTS OVER ONE DOT PUNCTUATIONziVEE WIT",
   "H UNDERBARsER THANa OR EQUAL TOvSH PRODUCTlILEbING CAT FACE WITH HEART-SHAPED EYESrOPEN MOUTHy",
   "FACE WITH HALOdEART-SHAPED EYESqORNSfOPEN MOUTHa AND COLD SWEATkSMILING EYESmTIGHTLY-CLOSED EY",
   "ESzjSMILING EYESa AND HAND COVERING MOUTHtTHREE HEARTSzdUNGLASSESkTEARtRKING FACElOKING SYMBOL",
   "nNAILcKEdEEZING FACElOW CAPPED MOUNTAINqBOARDERhFLAKEfMANa WITHOUT SNOWtOaCCER BALLiKSdFT HYPH",
   "ENgICE CREAMjSHELL FLOPPY DISKsBALLeWARE-FUNCTION SYMBOLwGDIAN COMBINING CURVE ABOVEfBELOWlDO",
   "T ABOVEfBELOWjHOOK ABOVEfBELOWkLONG HOOK BELOWpRESH BELOWkSTROKE BELOWmTWO DOTS ABOVEfBELOWyIN",
   "DEPENDENT SHINqLETTER ALEPHeYINeBETHeFETHeGIMELfHEaTHeKAPHeLAMEDHfESHeMEMdNUNdPEcRESH-AYINjSAD",
   "HEdMEKHfHINeTAWdWAWdYODHeZAYINmNUMBER ONEa HUNDREDlTENcWENTYnPUNCTUATION CIRCLE WITH DOTpHAL",
   "F CIRCLE WITH DOTuTWO CIRCLES WITH DOTSrVERTICAL BARSa WITH DOTSzuHbLID QUILT SQUARE ORNAMENT",
   "a IN BLACK SQUAREznUSa WITH OVERBARsM SIGNgON WITH RIGHTWARDS ARROW ABOVEzfRA SOMPENG DIGIT EI",
   "GHTfFIVEdOUReNINEeONEdSEVENeIXdTHREEeWOdZEROkLETTER AHcBAHdCAHdDAHdEEHcHcGAHdHAHdIHcJAHdKAHdLA",
   "HdMAEbHdNAHcGAHdYAHeOHcPAHdRAHdSAHdTAHdUHcVAHdYAHvSbUND RECORDING COPYRIGHTwTH EAST ARROWa AN",
   "D SOUTH WEST ARROWuCROSSING NORTH EAST ARROWzTO CORNERjWITH HOOKpBLACK ARROWlDOUBLE ARROWmPOIN",
   "TING BUDdLEAFeVINE LEAFsSANS-SERIF ARROWqTRIANGLE-HEADED ARROWa TO BARzdWHITE ARROWqWEST ARROW",
   "a AND NORTH WEST ARROWuWITH HOOKpBLACK ARROWlDOUBLE ARROWmPOINTING BUDdLEAFeVINE LEAFsSANS-SER",
   "IF ARROWqTRIANGLE-HEADED ARROWa TO BARzdWHITE ARROWuYOMBO CLUSTER-INITIAL LETTER LAcRAcSAbHAzb",
   "FINAL CONSONANT SIGN -AcBbDbGbKbLbMbNaGcRbSaHxGEMINATION MARKpHEAD MARK WITH MOON AND SUNa AN",
   "D FLAMEfTRIPLE FLAMEztLETTER -AcAbBAbHAdCAbHAdDAbDAbHAdHAcZAdGAbHAdHAcJAbHAdKAbHAcSSAeLAcMAcNA",
   "bGAcNAcYAdPAbHAdRAcSAbHAcSAdTAbHAcSAbHAdTAbHAeVAcYAcZAbHAkMARK DOUBLE SHADlPLUTAfSHADeTSHEGkSI",
   "GN ANUSVARAiJIHVAMULIYAlUPADHMANIYAlVISARGAlUBJOINERjTERMINAL MARK-1b2pVOWEL LENGTH MARKlSIG",
   "N AIbUcEbIbOaEcUaEcVOCALIC LbRzcPaAaCEcGHETTIgRKLEaScING HEARTnEAK-NO-EVIL MONKEYpERa WITH CAN",
   "CELLATION STROKEtONE SOUND WAVEoTHREE SOUND WAVESzING HEAD IN SILHOUETTEyECH BALLOONkDBOATgSMI",
   "LO SIGNlHERICAL ANGLEa OPENING LEFTeUPyIDERa WEBhRAL CALENDAR PADmNOTE PADiSHELLkLASHING SWEA",
   "T SYMBOLuONGEdOL OF THREADlNcRTS MEDALjUTING WHALEnQUARE A OVER MhARUdMbNPEAePAATOfRUHUAfUcBAA",
   "RERUfRcEETAeIRUdORUTOfQbUSSYERUiC OVER KGiALbPcCbDbMa CUBEDfSQUAREDjOaRPORATIONkUPdDAaASUeBbES",
   "IdJbLbMa CUBEDfSQUAREDjORUeEEKAAeRA NAME HEISEIgMEIZIfREIWAfSYOUWAgTAISYOUoGcSUKUUDOhVcFMbOOTc",
   "UR CORNERSmGALbNMAdRONeBbHZcIGAcNIIdRUDAAgPAcURAMUaTONiYcHAaITUeEKUTAARUhRUTUfGbIRAGANA HOKAmO",
   "NbONbRUePaAcUARADDOgIITOeRANeZcIMAGE OFa OR EQUAL TOiNOT EQUAL TOxNaINGUeTIdUcK OHMeAaIRIdRATT",
   "OeORIIgBbCALdEESUeGbHZcIROaGURAMUgMEETORUhWATTOiKbLbMa CAPITALgUBEDfSQUAREDjOOPOdRUNAfPAcTbURO",
   "ONEeUZEIROiVbWbYURIIgLEFT OPEN BOX OPERATORvMbNbOGbZENGEgXcM CUBEDfOHMcVER Sa SQUAREDoSQUAREDi",
   "AaHHAdIKUROeRUdNSYONfRUKUfBa SMALLhEETORUfGAaTONgGbHZcIKURONfLbRIaBAARUiLbMa CUBEDfSQUAREDjOLc",
   "PAcSbU AbFbGbLbMbSbVbWdVa MEGAgWa MEGAhNAaNOdFbMbOTTOeSbVbWcONSUdOMUdRIGINAL OFa OR EQUAL TOiN",
   "OT EQUAL TOzbVcPAa AMPSfASENTOfTUeCbEEZIdNIHIdSUdSOdFbHbIASUTORUhKObURUfMbOINTOeNDOdSITION IND",
   "ICATORrPMcRbSbVbWcRADa OVER Sa SQUAREDrEMUcNTOGENhIGHT OPEN BOX OPERATORvRAcTTORUgOOTdUPIIdUBU",
   "RUhSAIKURUfNTIIMUhENTIbOeIRINGUgRbVcTARGETfHZcONdUONdV OVER MiWATTOeBbITH BOTTOM HALF BLACKrCO",
   "NTOURED OUTLINErDIAGONAL CROSSHATCH FILLyHORIZONTAL FILLpLEFT HALF BLACKoOWER LEFT DIAGONAL HA",
   "LF BLACKyRIGHT DIAGONAL HALF BLACKzgORTHOGONAL CROSSHATCH FILLzbRIGHT HALF BLACKqTOP HALF BLAC",
   "KoUPPER LEFT DIAGONAL HALF BLACKtTO LOWER RIGHT FILLyRIGHT DIAGONAL HALF BLACKtTO LOWER LEFT F",
   "ILLzfVERTICAL FILLsYAADOcRUeUANfD ASTERISKiCJK UNIFIED IDEOGRAPH-4E00b9c2Dc8CcA4e518Dd21Dc4Dc7",
   "2d3CCcF3d408c39d5B6d8F0d91Ac29dB57dDE6dF8Ce624Bc53c95d307c55d599cB0d620d708b9dE80dF14e7121d51F",
   "c33d981dA7AdD42e89E3dCA9dD70e904Ad14DzLbOOLeDOT OPERATORmEIGHT KhFALLING DIAGONAL SLASHvIVE PO",
   "INT ONEnOUR DOT PUNCTUATIONpKfREEeHCbDRcI-RESfVcIDcKATAKANA DEcKOKOeSAkEYdLATIN CAPITAL LETTE",
   "R AbBbCbDbEbFbGbHbIbJbKbLbMbNbObPbQbRbSbTbUbVbWbXbYbZqSMALL LETTER DtOGICAL ANDdORiSSLESSiMINU",
   "SeVcNEWcGcOKbNE HUNDRED TWENTY PuPLUSdPVdRISING DIAGONAL SLASHvSALTIREgDbECOND SCREENlVEN POIN",
   "T ONEoHVcIXTY PgMALL CIRCLElOScQUAREfScTHREE DgIMESeWENTY-TWO POINT TWOsO KfUHDcP WITH EXCLAMA",
   "TION MARKyVODcScWCgT BLACK RIGHTWARDS ARROWzIDeS2b3bAcTaADIUMeFF OF AESCULAPIUSlHERMESmMPED EN",
   "VELOPEnNDING PERSONmR AND CRESCENTmEQUALSgOF DAVIDhPERATORiWITH LEFT HALF BLACKpRIGHT HALF BLA",
   "CKwT OF GUARDED AREAmHEADINGhPROTECTED AREAoSELECTED AREAmTRINGgTEXTkTIONdUE OF LIBERTYpEAM LO",
   "COMOTIVElING BOWLkNOGRAPHIC FULL STOPtTHOSCOPEjICK FIGUREa LEANING LEFTeRIGHTnWITH ARMS RAISED",
   "lDRESSvOCK CHARTiPWATCHhRAIGHT RULERgNESSiWBERRYhESS OUTLINED WHITE STARxICTLY EQUIVALENT TOsN",
   "G TERMINATORpSbUDIO MICROPHONEoFFED FLATBREADoPAdXcUBaSCRIPT EIGHTeQUALS SIGNlFIVEdOUReLEFT PA",
   "RENTHESISqMINUSfNINEeONEdPLUS SIGNjRIGHT PARENTHESISrSEVENeIXdTHREEeWOdZEROkET ABOVE RIGHTWARD",
   "S ARROWqSUBSETePERSEToOFa ABOVE ALMOST EQUAL TOpEQUALS SIGNlNOT EQUAL TOmTILDE OPERATORuOR EQU",
   "AL TOa WITH DOT ABOVEzbWITH NOT EQUAL TOuWITH DOTdMULTIPLICATION SIGN BELOWzPLUS SIGN BELOWxTI",
   "TUTEiCCEEDSa ABOVE ALMOST EQUAL TOpEQUALS SIGNlNOT ALMOST EQUAL TOpEQUAL TOmSINGLE-LINE EQUAL",
   "S SIGNlNOT EQUAL TOzfBUT NOT EQUIVALENT TOvOR EQUAL TOfIVALENT TOqUNDER RELATIONvMMATION BOTTO",
   "MgTOPdWITH INTEGRALvNa BEHIND CLOUDmWITH FACEkDANESE AVAGRAHAiCONSONANT SIGN PAMINGKALhNYAKRAe",
   "IKUfSANGAN MAcWAzbDIGIT EIGHTfFIVEdOUReNINEeONEdSEVENeIXdTHREEeWOdZEROkLETTER AaEcBAbHAdCAcDAc",
   "EaUcFAbINAL KbMhGAcHAcIbJAcKAbHAdLAbEUdMAcNAbGAcYAdObPAcQAcRAbEUdSAbYAdTAcUbVAcWAcXAcYAcZAjPUN",
   "CTUATION BINDU BA SATANGAkCAKRAfDA SATANGAkKA SATANGAkLEU SATANGAlPANGLONGhURNAMAhSURYAxSIGN P",
   "AMAAEHfNGLAYARfWISADgYECEKiVIRAMAlVOWEL SIGN PAMEPETfNAELAENGhEULEUNGhGHULUfOLONGfYUKUzFLOWERg",
   "RISEa OVER MOUNTAINStSET OVER BUILDINGStPERHEROeSCRIPT EIGHTeQUALS SIGNlFIVEdOUReLATIN SMALL L",
   "ETTER IbNtEFT PARENTHESISqMINUSfNINEeONEdPLUS SIGNjRIGHT PARENTHESISrSEVENeIXdTHREEeWOdZEROkE",
   "T ABOVE LEFTWARDS ARROWpSUBSETePERSEToBESIDE AND JOINED BY DASH WITH SUBSETzfSUBSETnOFa ABOV",
   "E ALMOST EQUAL TOpEQUALS SIGNlNOT EQUAL TOmTILDE OPERATORuOR EQUAL TOa WITH DOT ABOVEzbWITH NO",
   "T EQUAL TOuPRECEDING SOLIDUSrWITH DOTdMULTIPLICATION SIGN BELOWzPLUS SIGN BELOWyVILLAINkRFAC",
   "E INTEGRALmEReSHIcPENSION RAILWAYrWANbSH AMPERSAND ORNAMENTwIMMERfUNG DASHjYLOTI NAGRI LETTE",
   "R AbBHOcOcCHOcOcDDHOcOcHOcOcEbGHOcOcHOcIbJHOcOcKHOcOcLOcMOcNOcObPHOcOcRObROdSOcTHOcObTHOcOdUiP",
   "OETRY MARK-1b2b3b4nSIGN ALTERNATE HASANTAqNUSVARAiDVISVARAiHASANTAmVOWEL SIGN AbEbIbOOcUxMBO",
   "L FOR ACKNOWLEDGElBACKSPACEiELLeCANCELeRRIAGE RETURNpDATA LINK ESCAPEpELETEa FORM TWOnVICE CON",
   "TROL FOUReONEdTHREEeWOsEND OF MEDIUMgTEXTdRANSMISSIONa BLOCKxQUIRYgSCAPEgFILE SEPARATORnORM FE",
   "EDjGROUP SEPARATORpHORIZONTAL TABULATIONvLINE FEEDjMARKS CHAPTERnNEGATIVE ACKNOWLEDGEsWLINEgUL",
   "LeRECORD SEPARATORqSAMARITAN SOURCEpHIFT INcOUTiPACEeTART OF HEADINGhTEXTmUBSTITUTEa FORM TWOs",
   "YNCHRONOUS IDLEqTYPE A ELECTRONICSsUNIT SEPARATORoVERTICAL TABULATIONzcMETRYgNaAGOGUEgCHRONOU",
   "S IDLEoRIAC ABBREVIATION MARKrBARREKHhCOLON SKEWED LEFTeRIGHTqNTRACTIONlDOTTED ZLAMA ANGULARhH",
   "ORIZONTALxEND OF PARAGRAPHpSASA ABOVEfBELOWlFEMININE DOTmHARKLEAN ASTERISCUSkMETOBELUSjOBELUSo",
   "BASA ABOVEfBELOWg-ESASA DOTTEDrORIZONTAL COLONqLETTER ALAPHfBETHeDALATHfOTLESS DALATH RISHtEbF",
   "INAL SEMKATHnGAMALa GARSHUNIoHEaTHeKAPHeLAMADHgMALAYALAM BHAdJAcLLAbLAeNGAcNAbNAdYAdRAcSSAdTTA",
   "mIMdNUNdPEaRSIAN BHETHfDHALATHhGHAMALoQAPHeREVERSED PEkISHeSADHEeEMKATHgHINdOGDIAN FEcKHAPHfZH",
   "AINmUPERSCRIPT ALAPHrTAWcETHa GARSHUNInWAWdYUDHa HEhZAINlMUSICfOBLIQUE LINE ABOVEfBELOWsPTHAH",
   "A ABOVEfBELOWfDOTTEDnQUSHSHAYAjRBASA ABOVEfBELOWkUKKAKHAhWAHAfSUBLINEAR COLONa SKEWED LEFTeRIG",
   "HTsFULL STOPrPRALINEAR COLONa SKEWED LEFTrFULL STOPvTHREE DOTS ABOVEfBELOWpWO VERTICAL DOTS AB",
   "OVEfBELOWxZQAPHA ABOVEfBELOWfDOTTEDqNGE"]

def nameTapeT : List String :=
  ["T-REXdSHIRTgABaLE TENNIS PADDLE AND BALLzbCOcG AMPERSANDiPOSTROPHEjSTERISKiCIRCUMFLEX ACCENTqO",
   "LONdMMAbERCIAL ATnDIGIT EIGHTfFIVEdOUReNINEeONEdSEVENeIXdTHREEeWOdZEROjOLLAR SIGNlEQUALS SIGNk",
   "XCLAMATION MARKqFULL STOPjGRAVE ACCENTkEATER-THAN SIGNrHYPHEN-MINUSmLATIN CAPITAL LETTER AbBbC",
   "bDbEbFbGbHbIbJbKbLbMbNbObPbQbRbSbTbUbVbWbXbYbZqSMALL LETTER AbBbCbDbEbFbGbHbIbJbKbLbMbNbObPbQb",
   "RbSbTbUbVbWbXbYbZtEFT CURLY BRACKETnPARENTHESISlSQUARE BRACKETrSS-THAN SIGNnOW LINEiNUMBER SIG",
   "NlPERCENT SIGNlLUS SIGNjQUESTION MARKlOTATION MARKoREVERSE SOLIDUSoIGHT CURLY BRACKETnPARENTHE",
   "SISlSQUARE BRACKETuSEMICOLONiOLIDUSgPACEfTILDEfVERTICAL LINEoALOG LETTER AaRCHAIC RAkBAcDAcGAc",
   "HAcIbKAcLAcMAcNAbGAdPAcRAcSAcTAcUbWAcYAjSIGN PAMUDPODiVIRAMAlVOWEL SIGN IbUrBANWA LETTER AbBAc",
   "DAcGAcIbKAcLAcMAcNAbGAdPAcSAcTAcUbWAcYAjVOWEL SIGN IbUtI LE LETTER AaIbUEdEaEbHcFAcHAcIbKAbHAd",
   "LAcMAcNAbGAdOaOcPAbHAdQAcSAcTAbHAcONE-2b3b4b5b6fSAbHAeUaEcVAcXAcYAmTHAM COMBINING CRYPTOGRAMMI",
   "C DOTzNSONANT SIGN BAcFINAL NGAjHIGH RATHA OR LOW PAuLA TANG LAIkOW PAgMAbEDIAL LAcRAjSArHOR",
   "A DIGIT EIGHTfFIVEdOUReNINEeONEdSEVENeIXdTHREEeWOdZEROpLETTER AbBAcDAcEEcGREAT SAiHIGH CAbHAdF",
   "AcHAcKAbHAcXAdPAbHAdRATHAfSAbHAcSAdTAbHAdYAhIaIcLAaEcLAcOW CAbHAdFAcHAcKAbHAcXAdPAbHAdRATHAfSA",
   "cTAbHAdYAfUEdMAcNAbGAcYAdOOcRAaNAcTAdUEdUaUcWAjSIGN CAANGfDOKMAIgHANGdOYdKAANaKUUgEOWdHUEN TON",
   "E-3b4b5h-LUE KARANpMAI KANGa LAIiSAMdYAMOKjRA HAAMgEVERSED ROTATED RANAvSAKOTdTKAANaKUUiWANfTO",
   "NE-1b2gWIANGaWAAKoTHAM DIGIT EIGHTfFIVEdOUReNINEeONEdSEVENeIXdTHREEeWOdZEROpVOWEL SIGN AaAbEbI",
   "cEbIaIcMAI SAThOaA ABOVEfBELOWhObYcTALL AAgHAM AIhUaEbUaEtVIET LETTER HIGH BOcCHOcOcDOcFOcGOcH",
   "OcKHHOcOcOcLOcMOcNGOcObYOdObPHOcOcROcSOcTHOcOcVOcYOhLOW BOcCHOcOcDOcFOcGOcHOcKHHOcOcOcLOcMOcNG",
   "OcObYOdObPHOcOcROcSOcTHOcOcVOcYOnMAI KANGdHITiSYMBOL HO HOIgKOI KOIfNdNUENGfSAMkTONE MAI EKcNU",
   "ENGfSONGeTHOmVOWEL AAbMbNbUEcYcEbIaAcObUaAbEaAqKEOUT BOXiRI ABBREVIATION SIGNrDIGIT EIGHTfFIVE",
   "dOUReNINEeONEdSEVENeIXdTHREEeWOdZEROkLETTER AaAbIbRCHAIC KHAkUcBAbHAdCAbHAdDAbDAbHAdHAdEbGAbHA",
   "dHAcIaIcJAbHAdKAbHAdLAcMAcNAbGAcNAcYAdObPAbHAdRAbRAdSAbHAdTAbHAcTAbHAeUaUcVAcYAjSIGN ANUSVARAi",
   "NUKTAfVIRAMAeSARGAmVOWEL SIGN AAbIbUcEbIaIcObUaUrLLY MARK FIVEeONEmMALEdIL AND ODD SIGNlS ABOV",
   "E SIGNmU LENGTH MARKoCREDIT SIGNkURRENT SIGNmDAY SIGNhEBIT SIGNjIGIT EIGHTfFIVEdOUReNINEeONEdS",
   "EVENeIXdTHREEeWOdZEROjRY CULTIVATION SIGNuFRACTION DOWNSCALING FACTOR KIIZHyONE EIGHTHbIETHjFI",
   "FTHeORTIETHiHALF-1b2gONE-HUNDRED-AND-SIXTIETHyQUARTERhSIXTEENTH-1b2hY-FOURTHmTENTHeHIRTY-SECON",
   "DlREE-HUNDRED-AND-TWENTIETHzbWENTIETHnTHREE EIGHTIETHSkQUARTERSiSIXTEENTHSgY-FOURTHSnTWENTIETH",
   "SzIN POSSESSION SIGNsLAND SIGNiETTER AaAbIbUcCAcEaEcHAcIaIcJAcKAcLAbLAbLAeMAcNAbGAcNAbNAdYAdOa",
   "OcPAcRAbRAdSAbHAcSAdTAbTAdUaUcVAcYAjMONTH SIGNkNUMBER ONE HUNDREDhTHOUSANDmSIGNeTENkOMcPUNCTUA",
   "TION END OF TEXTxRUPEE SIGNkSALT PAN SIGNmIGN AAZHAAKKUiNUSVARAiCEVITUgKAACUeURUNIeZHIfMUKKURU",
   "NIhTHALIYAhUVUZHAKKUlNELdPAARAMeNAMdTHAKKUhONdUZHAKKUhVAKAIYARAAiRAAKANhELIdIRAMAeSARGAlPENT S",
   "IGNjTARTING FROM SIGNsTOTAL SIGNjRADITIONAL CREDIT SIGNlNUMBER SIGNxVOWEL SIGN AAbIbUcEaEcIaIc",
   "OaOcUaUnWET CULTIVATION SIGNuYEAR SIGNnNABATA TREEkGERINEfSA DIGIT EIGHTfFIVEdOUReNINEeONEdSEV",
   "ENeIXdTHREEeWOdZEROkLETTER ACbQbWCbQbXbZcXbZcBAcCAbHAdDAbHAdECbQbXbZcFAbINAL NGiGAbHAdHAbTAbTA",
   "eICbQbXbZcKAbHAdLAbONG UEXiMAbCbQbXbZcNAbGAcHAcYAdOCbQbXbZcPAbHAdRAcSAbHAbORT AWXdUEZjTAbHAcSA",
   "dUCbECbQbXbZcICbQbUCbQbXbZcXbZcQbXbZcVCbQbXbZcWAcXAcYAcZAmUT COMPONENT-001b2b3b4b5b6b7b8b9c10b",
   "1b2b3b4b5b6b7b8b9c20b1b2b3b4b5b6b7b8b9c30b1b2b3b4b5b6b7b8b9c40b1b2b3b4b5b6b7b8b9c50b1b2b3b4b5b",
   "6b7b8b9c60b1b2b3b4b5b6b7b8b9c70b1b2b3b4b5b6b7b8b9c80b1b2b3b4b5b6b7b8b9c90b1b2b3b4b5b6b7b8b9d10",
   "0b1b2b3b4b5b6b7b8b9c10b1b2b3b4b5b6b7b8b9c20b1b2b3b4b5b6b7b8b9c30b1b2b3b4b5b6b7b8b9c40b1b2b3b4b",
   "5b6b7b8b9c50b1b2b3b4b5b6b7b8b9c60b1b2b3b4b5b6b7b8b9c70b1b2b3b4b5b6b7b8b9c80b1b2b3b4b5b6b7b8b9c",
   "90b1b2b3b4b5b6b7b8b9d200b1b2b3b4b5b6b7b8b9c10b1b2b3b4b5b6b7b8b9c20b1b2b3b4b5b6b7b8b9c30b1b2b3b",
   "4b5b6b7b8b9c40b1b2b3b4b5b6b7b8b9c50b1b2b3b4b5b6b7b8b9c60b1b2b3b4b5b6b7b8b9c70b1b2b3b4b5b6b7b8b",
   "9c80b1b2b3b4b5b6b7b8b9c90b1b2b3b4b5b6b7b8b9d300b1b2b3b4b5b6b7b8b9c10b1b2b3b4b5b6b7b8b9c20b1b2b",
   "3b4b5b6b7b8b9c30b1b2b3b4b5b6b7b8b9c40b1b2b3b4b5b6b7b8b9c50b1b2b3b4b5b6b7b8b9c60b1b2b3b4b5b6b7b",
   "8b9c70b1b2b3b4b5b6b7b8b9c80b1b2b3b4b5b6b7b8b9c90b1b2b3b4b5b6b7b8b9d400b1b2b3b4b5b6b7b8b9c10b1b",
   "2b3b4b5b6b7b8b9c20b1b2b3b4b5b6b7b8b9c30b1b2b3b4b5b6b7b8b9c40b1b2b3b4b5b6b7b8b9c50b1b2b3b4b5b6b",
   "7b8b9c60b1b2b3b4b5b6b7b8b9c70b1b2b3b4b5b6b7b8b9c80b1b2b3b4b5b6b7b8b9c90b1b2b3b4b5b6b7b8b9d500b",
   "1b2b3b4b5b6b7b8b9c10b1b2b3b4b5b6b7b8b9c20b1b2b3b4b5b6b7b8b9c30b1b2b3b4b5b6b7b8b9c40b1b2b3b4b5b",
   "6b7b8b9c50b1b2b3b4b5b6b7b8b9c60b1b2b3b4b5b6b7b8b9c70b1b2b3b4b5b6b7b8b9c80b1b2b3b4b5b6b7b8b9c90",
   "b1b2b3b4b5b6b7b8b9d600b1b2b3b4b5b6b7b8b9c10b1b2b3b4b5b6b7b8b9c20b1b2b3b4b5b6b7b8b9c30b1b2b3b4b",
   "5b6b7b8b9c40b1b2b3b4b5b6b7b8b9c50b1b2b3b4b5b6b7b8b9c60b1b2b3b4b5b6b7b8b9c70b1b2b3b4b5b6b7b8b9c",
   "80b1b2b3b4b5b6b7b8b9c90b1b2b3b4b5b6b7b8b9d700b1b2b3b4b5b6b7b8b9c10b1b2b3b4b5b6b7b8b9c20b1b2b3b",
   "4b5b6b7b8b9c30b1b2b3b4b5b6b7b8b9c40b1b2b3b4b5b6b7b8b9c50b1b2b3b4b5b6b7b8b9c60b1b2b3b4b5b6b7b8n",
   "ITERATION MARKtPE CARTRIDGEjDRIVEiURUSeXIdEACUP WITHOUT HANDLEsPOTdR-OFF CALENDARnDROP-BARBE",
   "D RIGHTWARDS ARROWxSPOKED ASTERISKwDDY BEARiLEPHONE LOCATION SIGNnON TOP OF MODEMpRECEIVERa WI",
   "TH PAGEpORDERiSIGNkSCOPEfVISIONhUGU AI LENGTH MARKoDIGIT EIGHTfFIVEdOUReNINEeONEdSEVENeIXdTHRE",
   "EeWOdZEROkFRACTION DIGIT ONE FOR EVEN POWERS OF FOURtODD POWERS OF FOURzbTHREE FOR EVEN POWER",
   "S OF FOURtODD POWERS OF FOURzcWO FOR EVEN POWERS OF FOURtODD POWERS OF FOURzbZERO FOR ODD POWE",
   "RS OF FOURzrLENGTH MARKjTTER AaAbIbUcBAbHAdCAbHAdDAbDAbHAdHAcZAdEaEcGAbHAdHAcIaIcJAbHAdKAbHAdL",
   "AbLAbLAeMAcNAaKAARA POLLUmGAcNAcYAdOaOcPAbHAdRAbRAbRAeSAbHAcSAdTAbHAcSAcTAbHAeUaUcVAbOCALIC La",
   "LcRaRkYAjSIGN ANUSVARAhVAGRAHAiCANDRABINDUkOMBINING ANUSVARA ABOVEoCANDRABINDU ABOVEzcNUKTAfSI",
   "DDHAMhTUUMUfVIRAMAeSARGAmVOWEL SIGN AAbIbUcEaEcIaIcOaOcUaUcVOCALIC LaLcRaRzbNGE SIGNhNIS RACQU",
   "ET AND BALLuTcST TUBEhTRAGRAM FOR ACCUMULATIONlDVANCEgGGRAVATIONkSCENTgBARRIERgOLD RESOLUTIONo",
   "RANCHING OUTnCENTREfHANGEfLOSED MOUTHhNESSfUREgOMPLETIONfIANCEiNSTANCYgTACTdENTIONgRARIETYlDAR",
   "KENINGiECISIVENESSkFECTIVENESS OR DISTORTIONzPARTUREiIFFICULTIESkMINISHMENTjMINGfVERGENCEjOUBT",
   "eUTIESgEASEdMBELLISHMENTmNCOUNTERSiDEAVOURhLARGEMENTkTERNITYhXHAUSTIONkFAILUREgLIGHTfOLLOWINGh",
   "STERINGiULL CIRCLEhNESSiGATHERINGa INlOING TO MEETmREATNESSiUARDEDNESSlHARDNESShOLDING BACKmIN",
   "CREASEgNERfJOYdKEEPING SMALLmINSHIPhLABOURINGhW OR MODELlEGIONgMASSINGgEASUREgIREDfON THE VERG",
   "ElPPOSITIONkPACKINGfTTERNgENETRATIONkURITYgREACHdLEASEfSIDENCEfSTANCEhPONSEhITUALgSEVERANCEiIN",
   "KINGgTOPPAGEfVEdRENGTHiUNITYfVASTNESS OR WASTINGtWAITINGfTCHfYOUTHFULNESSzHAANA AABAAFILIiBAFI",
   "LIhEBEFILIgEBEEFILIiYBEYFILIjIBIFILIhLETTER AINUdLIFUfBAAdCHAVIYANIjDAADHUeVIYANIhHAALUgFAAFUf",
   "GAAFUeHAINUfNAVIYANIjHAAcHAAeJAVIYANIiKAAFUeHAAeLAAMUeHAVIYANIjMEEMUfNAAcOONUfPAVIYANIiQAAFUfR",
   "AAdSAADHUfEENUeHAVIYANIhEENUgTAVIYANIhHAAaLUfObTAAeVAAVUfWAAVUfYAAdZAAbVIYANIhOjOABOAFILIiBOFI",
   "LIgOBOOFILIjSUKUNfUBUFILIlI CHARACTER ANGKHANKHUkBO BAIMAIjCHO CHANaGdINGdOEiDO CHADAfDEKgFO F",
   "AaNeNGMANhHO HIPdNOKHUKjKHO KHAIcONcUATdWAIfRAKHANGiMUTfO KAIgLAKKHANGYAOkO CHULAfLINGgUcMAI C",
   "HATTAWAiEKcHAN-AKATiTHOcRIeTAIKHUgYAMOKhO MAfNGO NGUgIKHAHIThO NENcUfO ANGfPAIYANNOIiHINTHUf",
   "O PHANcUNGfSAMPHAOkO PLAgRO RUAfUcSARA AaAbEbI MAIMALAIeUANjMcEbIaIcObUaEaEcUgO RUSIeSALAdObUA",
   "gTHANTHAKHATjO NANGMONTHOkPHUTHAOhTHAHANdNcONGdUNGiO PATAKfTAOgWO WAENhYAMAKKANhO YAKcINGqURRE",
   "NCY SYMBOL BAHTuDIGIT EIGHTfFIVEdOUReNINEeONEdSEVENeIXdTHREEeWOdZEROnERE DOES NOT EXISToEXISTS",
   "hFOREfMODYNAMIChMETERjIN GREEK CROSSlSALTIREgPACEgKING FACEkRD PLACE MEDALpONG SANDALjUGHT BAL",
   "LOONnREE BUTTON MOUSEmCONSECUTIVE EQUALS SIGNSyDIMENSIONAL ANGLEqOT PUNCTUATIONpLEFTWARDS ARRO",
   "WSpINES CONVERGING LEFTeRIGHTwNETWORKED COMPUTERStPOINTED BLACK STARsRAYS ABOVEfBELOWfLEFTeRIG",
   "HTjIGHTWARDS ARROWSrSPEECH BUBBLESp-D BOTTOM-LIGHTED RIGHTWARDS ARROWHEADzkLEFT-LIGHTED DOWNWA",
   "RDS EQUILATERAL ARROWHEADztRIGHT-LIGHTED UPWARDS EQUILATERAL ARROWHEADzsTOP-LIGHTED LEFTWARD",
   "S EQUILATERAL ARROWHEADzgRIGHTWARDS ARROWHEADjEQUILATERAL ARROWHEADzvEM DASHhPER-EM SPACEqUMB",
   "S DOWN SIGNjUP SIGNlNDER CLOUD AND RAINpSTORMlIBETAN ASTROLOGICAL SIGN -KHYUD PAjSDONG TSHUGSl",
   "GRA GCAN -CHAR RTAGSzoCANTILLATION SIGN CANG TE-UjHEAVY BEATkLIGHT BEATkSBUB -CHALzdDIGIT EIGH",
   "TfFIVEdOUReHALF EIGHTfFIVEdOUReNINEeONEdSEVENeIXdTHREEeWOdZEROjNINEeONEdSEVENeIXdTHREEeWOdZERO",
   "kKU RU KHAa BZHI MIG CANwLETTER -AcAbBAbHAdCAbHAdDAbDAbHAdHAcZAbHAeFIXED-FORM RAnGAbHAdHAcJAcK",
   "AbHAcKAcSSAeLAcMAcNAbGAcNAcYAdPAbHAdRAbRAdSAbHAcSAdTAbHAcSAbHAdTAbHAeWAcYAcZAbHAjOGOTYPE SIG",
   "N CHAD RTAGSkLHAG RTAGSyMARK ANG KHANG GYAScONoBKA- SHOG GI MGO RGYANmYIG MGOqSDUS RTAGSjKA- S",
   "HOG GI MGO RGYANuUR YIG MGOnCARET -DZUD RTAGS BZHI MIG CANmME LONG CANxYIG MGO PHUR SHAD MAzH",
   "E MGOgLOSING BRDA RNYING YIG MGO SGAB MAzcYIG MGO SGAB MAxDELIMITER TSHEG BSTARvGTER TSHEGfYI",
   "G MGO -UM GTER TSHEG MAnRNAM BCAD MAqTRUNCATED AxUG RTAGS GYAScONoHALANTAhINITIAL BRDA RNYIN",
   "G YIG MGO MDUN MAzcYIG MGO MDUN MAvTERSYLLABIC TSHEGtLEADING MCHAN RTAGStMNYAM YIG GI MGO RGYA",
   "NwNGAS BZUNG NYI ZLAhSGOR RTAGSuYIS SHADeTSHEGa SHADpPALUTAgRGYA GRAM SHADnIN CHEN SPUNGS SHAD",
   "uSBRUL SHADjHADeTRAILING MCHAN RTAGStSA -PHRUhHEG SHADkYIG MGO TSHEG SHAD MAzbSIGN GRU CAN RGY",
   "INGSlMED RGYINGSpINVERTED MCHU CANrLCE TSA CANjI RTAGSjMAR TSHESiCHU CANiNYI ZLA NAA DAoRDEL D",
   "KAR GCIGdNYISeSUMeRDEL NAGnNAG GCIGdNYISeSUMeRDEL DKARrJES SU NGA ROnNAM BCADjSNA LDANiYANG RT",
   "AGSiR TSHESnUBJOINED LETTER -AcAbBAbHAdCAbHAdDAbDAbHAdHAcZAbHAeFIXED-FORM RAcWAcYAnGAbHAdHAcJA",
   "cKAbHAcSSAeLAcMAcNAbGAcNAcYAdPAbHAdRAcSAbHAcSAdTAbHAcSAbHAdTAbHAeWAcYAcZAbHAkSIGN INVERTED MCH",
   "U CANrLCE TSA CANlMCHU CANwYLLABLE OMjMBOL DRIL BUhNOR BUa BZHI -KHYILlGSUM -KHYILlNYIS -KHYIL",
   "sPADMA GDANjHUR PAhRDO RJEa RGYA GRAMyVOWEL SIGN AAcEaEcIaIcOaOcREVERSED IaIlUaUcVOCALIC LaLcR",
   "aRzcCKETeE OVER INFINITYpFINAGH CONSONANT JOINERqLETTER AHAGGAR YAZHlYER YAGHjBERBER ACADEMY Y",
   "AHbJsTAWELLEMET YAZnUAREG YAGHbNcHbKaHcNGcQbZHlYAaAbBaHcCHcDaDaHcHcFbGaHaHdHaHcJbKaHaHdLbMbNbP",
   "bQbRaRcSaHbScTaHbTcVbWbYbZaHbZdEaYcIbObUjMODIFIER LETTER LABIALIZATION MARKzjSEPARATOR MARKvGE",
   "Ra FACEhHT TRIFOLIATE SNOWFLAKEyLDEa OPERATORa ABOVE LEFTWARDS ARROWpRIGHTWARDS ARROWwWITH DO",
   "T ABOVEjRISING DOTSzWITH DOT ABOVEfBELOWjRING ABOVEtMER CLOCKhS WITH LEFT HALF BLACKpRIGHT HAL",
   "F BLACKzNYa TWO DOTS OVER ONE DOT PUNCTUATIONzlRED FACEhHUTA ABBREVIATION SIGNqNJIeDIGIT EIGHT",
   "fFIVEdOUReNINEeONEdSEVENeIXdTHREEeWOdZEROkGVANGfLETTER AaAbIbUcBAbHAdCAbHAdDAbDAbHAdHAdEbGAbHA",
   "dHAcIaIcJAbHAdKAbHAdLAcMAcNAbGAcNAcYAdObPAbHAdRAcSAbHAcSAdTAbHAcTAbHAeUaUcVAbOCALIC LaLcRaRkYA",
   "jOMcSIGN ANUSVARAhVAGRAHAiCANDRABINDUlNUKTAfVIRAMAeSARGAmVOWEL SIGN AAbIbUcEbIaIcObSHORT EbOhU",
   "aUcVOCALIC LaLcRaRzbONIAN SIGN CAPITAL ETkETpOILETeKYO TOWERjMATOeNGUEeOLBOXeTHaBRUSHiP ARC AN",
   "TICLOCKWISE ARROWa WITH PLUSzeCLOCKWISE ARROW WITH MINUSzfCURLY BRACKETnHALF BLACK CIRCLEmINTE",
   "GRALiLEFT PARENTHESISqRIGHT PARENTHESISrSECTION SIGNpTdLEFT CORNERfROPeHALF BRACKETrPARENTHESI",
   "SlRIGHT CORNERfROPeHALF BRACKETsSQUARE BRACKEToTORTOISE SHELL BRACKETwWITH UPWARDS ARROW ABOVE",
   "zbRTOISE SHELL BRACKETED CJK UNIFIED IDEOGRAPH-4E09c8Ce52DDdB89e6253d557d72Ce70B9d6D7zbLATIN C",
   "APITAL LETTER SzuTAL RUNOUTjO LETTER AaEcBAbREATHY AEcEaOcIaUkCHAdDAcEaOcGAcHAcIaUcJAcKAcLAcMA",
   "cNAbGAdObPAcRAcSAcTAcUbWAcYAjSIGN RISING TONEuRACKBALLfTOReDE MARK SIGNmINcMa CARfNSPLUTOfVERS",
   "AL INTERSECTIONwIANGLE WITH DOT ABOVEjROUNDED CORNERSpSERIFS AT BOTTOMqUNDERBARo-HEADED RIGHTW",
   "ARDS ARROWzbULAR BULLETgFLAG ON POSTmRULERnCOLONfDENT EMBLEMlGRAM FOR EARTHfFIREeHEAVENgLAKEeM",
   "OUNTAINiTHUNDERhWATEReINDnPLE COLON OPERATORoDAGGERgHORIZONTAL BAR WITH DOUBLE VERTICAL STROKE",
   "wTRIPLE VERTICAL STROKEzrINTEGRALiNESTED GREATER-THANmLESS-THANqPLUSdRIMEfSOLIDUS BINARY RELAT",
   "IONxTILDEfVERTICAL BAR BINARY RELATIONpDELIMITERjRIGHT TURNSTILEpWITH HORIZONTAL STROKEzpOLLaE",
   "YBUShPHYcICAL DRINKfFISHlUEa LIGHT MOON ARTArMPETgUGRIK SIGNjLIPdMBLER GLASSlRKEYcISH LIRA SIG",
   "NoNED AMPERSANDiNGLEfBLACK PENTAGONiSHOGI PIECErCAPITAL FiOMMAfDAGGERfIGIT THREEeWOjGREEK SMAL",
   "L LETTER IOTAxNORTH EAST POINTING LEAFsWEST POINTING LEAFwT SIGNiOK HAND SIGNmSANS-SERIF CAPIT",
   "AL GbLbYtEMICOLONiMALL FgOUTH EAST POINTING LEAFsWEST POINTING LEAFyWHITE SHOGI PIECEvTLEfWELV",
   "E POINTED BLACK STARxISTED RIGHTWARDS ARROWSxO ASTERISKS ALIGNED VERTICALLYzdBUTTON MOUSEmCONS",
   "ECUTIVE EQUALS SIGNSyDOT LEADERgPUNCTUATIONmS OVER ONE DOT PUNCTUATIONzeHEARTSgINTERSECTING LO",
   "GICAL ANDdORxJOINED SQUARESoLOGICAL AND OPERATORmOR OPERATORtMEN HOLDING HANDSrSPEECH BUBBLESo",
   "WOMEN HOLDING HANDSu-EM DASH"]

def nameTapeU : List String :=
  ["UGARITIC LETTER AINcLPAeBETAeDELTAeHALeGAMLAeHAINfHOaTAeIbKAFcHAdLAMDAfMEMdNUNdPUcQOPAeRASHAfS",
   "ADEcMKAeHINdSUdTETcHANNAfOcUbWOcYODdZETAdUjWORD DIVIDERuMBRELLAa ON GROUNDjWITH RAIN DROPSxNAM",
   "USED FACElCERTAINTY SIGNoDERTIEfO SYMBOLjICORN FACEjONa ABOVE BAR ABOVE INTERSECTIONwINTERSECT",
   "IONsBESIDE AND JOINED WITH UNIONzdWITH LOGICAL ORkMINUS SIGNkOVERBARpT SEPARATORkED SYMBOLkVER",
   "SAL RECYCLING SYMBOLyMARRIED PARTNERSHIP SYMBOLzcP ARROW THROUGH CIRCLEpHEADa BETWEEN TWO HORI",
   "ZONTAL BARSzcIN A RECTANGLE BOXzdBARB LEFT DOWN BARB LEFT HARPOONmRIGHT HARPOONzdRIGHT DOWN BA",
   "RB LEFT HARPOONmRIGHT HARPOONzjDOWN ARROWa WITH BASEpBLACK ARROWlDOUBLE ARROWmSANS-SERIF ARROW",
   "qTRIANGLE-HEADED ARROWvWHITE ARROWqFISH TAILjRIGHT DIAGONAL ELLIPSISxTACKa WITH CIRCLE ABOVEx-",
   "POINTING AIRPLANEiMILITARY AIRPLANErRED TRIANGLEmSMALL AIRPLANEiRED TRIANGLEsTRIANGLE WITH LEF",
   "T HALF BLACKpRIGHT HALF BLACKzpPER AND LEFT AND LOWER TRIANGULAR THREE QUARTERS BLOCKzuOWER ON",
   "E EIGHTH BLOCKqTRIANGULAR HALF BLOCKzcRIGHT AND LOWER TRIANGULAR THREE QUARTERS BLOCKzzbBLAD",
   "E SCISSORSoFIVE EIGHTHS BLOCKsHALF BLOCKa AND LOWER HALF INVERSE MEDIUM SHADEzqCIRCLEgINVERS",
   "E MEDIUM SHADE AND LOWER HALF BLOCKziWHITE CIRCLEuMEDIUM SHADErLEFT BLOCK DIAGONAL LOWER CENTR",
   "E TO LOWER MIDDLE RIGHTsUPPER MIDDLE RIGHTmRIGHTvLEFT TO LOWER MIDDLE RIGHTsUPPER CENTREgMIDDL",
   "E RIGHTzbMIDDLE LEFT TO UPPER CENTREgMIDDLE RIGHTmRIGHTzhUPPER MIDDLE LEFT TO UPPER CENTREgRIG",
   "HTzwCORNER WITH DOTpOR LOWER RIGHT CURLY BRACKET SECTIONzlQUADRANT CIRCULAR ARCvTO LOWER RIGH",
   "T FILLsRIANGLEcULAR MEDIUM SHADEzdONE EIGHTH BLOCKmQUARTER BLOCKrRIGHT BLOCK DIAGONAL LOWER MI",
   "DDLE LEFT TO LOWER CENTREgRIGHTzhUPPER CENTRE TO LOWER MIDDLE RIGHTmRIGHTlUPPER MIDDLE RIGHTzd",
   "LEFT TO LOWER CENTREgMIDDLE RIGHTsUPPER MIDDLE RIGHTzbMIDDLE LEFT TO LOWER CENTREgMIDDLE RIGHT",
   "mRIGHTzwDROP-SHADOWED WHITE SQUAREzbOR LOWER LEFT CURLY BRACKET SECTIONzkPENCILgQUADRANT CIRCU",
   "LAR ARCvSHADOWED WHITE CIRCLEgSQUAREvTO LOWER LEFT FILLrRIANGLEcULAR MEDIUM SHADEzeSEVEN EIGHT",
   "HS BLOCKtTHREE EIGHTHS BLOCKnQUARTERS BLOCKtRIANGULAR ONE QUARTER BLOCKzhSIDE-DOWN FACEoWARD",
   "S ANCORAfRROWa AND RIGHT ONE EIGHTH BLOCKzbFROM BARiLEFTWARDS OF DOWNWARDS ARROWzdTO BARgWIT",
   "H DOUBLE STROKEnEQUILATERAL ARROWHEADvHORIZONTAL STROKErLARGE TRIANGLE ARROWHEADyMEDIUM TRIANG",
   "LE ARROWHEADzNOTCHED TAILmSMALL EQUILATERAL ARROWHEADvTRIANGLE ARROWHEADyTIP LEFTWARDSjRIGHTWA",
   "RDSzBLACK ARROWfCIRCLED WHITE ARROWzCOMPRESSED ARROWqDASHED ARROWlOUBLE ARROWmFINGER-POST ARRO",
   "WrHARPOON WITH BARB LEFT BESIDE DOWNWARDS HARPOON WITH BARB RIGHTziUPWARDS HARPOON WITH BARB R",
   "IGHTznFROM BARiTO BARhWARDSjRIGHT FROM BARiTO BARhWARDSzcEAVY ARROWfCOMPRESSED ARROWwPAIRED AR",
   "ROWSnQUADRUPLE ARROWpROCKETgSANS-SERIF ARROWpQUARED ARROWnTRIANGLE ARROWHEADk-HEADED ARROWa LE",
   "FTWARDS OF DOWNWARDS TRIANGLE-HEADED ARROWztTO BARgWITH BOLD SHAFTkDOUBLE HORIZONTAL STROKEyHE",
   "AVY SHAFTlLONG TIP LEFTWARDSjRIGHTWARDStMEDIUM SHAFTmNARROW SHAFTmVERY HEAVY SHAFTzcDASHED ARR",
   "OWmPAIRED ARROWSzbPLE ARROWlWO HEADED ARROWn-HEADED ARROW FROM SMALL CIRCLErWITH TRIANGLE ARRO",
   "WHEADSzqWHITE ARROWa FROM BARa WITH HORIZONTAL BARzdON PEDESTALa WITH HORIZONTAL BARoVERTICA",
   "L BARzeWITHIN TRIANGLE ARROWHEADzgDOUBLE ARROWa ON PEDESTALzmRANUSfS"]

def nameTapeV : List String :=
  ["VAI COMMAfDIGIT EIGHTfFIVEdOUReNINEeONEdSEVENeIXdTHREEeWOdZEROkFULL STOPjQUESTION MARKnSYLLABL",
   "E AaNcBAbEaEcHAbEaEcIbOaOcUcIbOaOcUcCAbEaEcIbOaOcUcDAbEaEcHAbEaEcHAbEaEcIbOaOcUcIbOaOcUcIbOaOc",
   "UcEaEaNcNcFAbEaEcIbOaOcUcGAbBAbEaEbNcIbOaNbOcUcEaEbNcIbOaOcUcHAaNcEaEbNcIaNcOaNbOcUaNdIaNcJAbE",
   "aEcIbOaOcUcKAaNcEaEcIbOaOcPAaNcEaEbNcIbOaOcUcUcLAbEaEbNGTHENERjIbOaOcUcMAbBAbEaEcIbOaOcUcEaEcG",
   "BAbEaEcIbOaOcUdIbOaOcUcNAbDAbEaEcIbOaLE DOcFAcKAcMAcSOOgOcUcEaEcGaANcENcGAbEaEbNcIbOaOcUcONdIb",
   "JAbEaEcIbOaOcUcOaOcUbYAbEaEcIbOaOcUdOaNbOaNdPAbEaEcIbOaOcUcRAbEaEcIbOaOcUcSAbEaEcHAbEaEcIbOaOc",
   "UcIbOaOcUcTAbEaEcHAbEaEcIbOaOcUcIbOaOcUcUaNcVAbEaEcIbOaOcUcWAaNcEaEaNcNcIaNcOaNbOaNdUaNdYAbEaE",
   "cIbOaOcUcZAbEaEcHAbEaEcIbOaOcUcIbOaOcUjMBOL BANGeDANGdO-OcONGfFAAcEENGfJONGeKEENGeUNGeNIIdTAAc",
   "INGdONGnMPIREfRIATION SELECTOR-1a0a0b1b2b3b4b5b6b7b8b9c1a0b1b2b3b4b5b6b7b8b9c2a0b1b2b3b4b5b6b7",
   "b8b9c3a0b1b2b3b4b5b6b7b8b9c4a0b1b2b3b4b5b6b7b8b9c5a0b1b2b3b4b5b6b7b8b9c6a0b1b2b3b4b5b6b7b8b9c7",
   "a0b1b2b3b4b5b6b7b8b9c8a0b1b2b3b4b5b6b7b8b9c9a0b1b2b3b4b5b6b7b8b9d2a0a0b1b2b3b4b5b6b7b8b9c1a0b1",
   "b2b3b4b5b6b7b8b9c2a0b1b2b3b4b5b6b7b8b9c3a0b1b2b3b4b5b6b7b8b9c4a0b1b2b3b4b5b6b7b8b9c5a0b1b2b3b4",
   "b5b6c6b7b8b9c3a0b1b2b3b4b5b6b7b8b9c4a0b1b2b3b4b5b6b7b8b9c5a0b1b2b3b4b5b6b7b8b9c6a0b1b2b3b4b5b6",
   "b7b8b9c7a0b1b2b3b4b5b6b7b8b9c8a0b1b2b3b4b5b6b7b8b9c9a0b1b2b3b4b5b6b7b8b9uECTOR OR CROSS PRODUC",
   "TvDIC SIGN ANUSVARA ANTARGOMUKHAmBAHIRGOMUKHAmUBHAYATO MUKHAoVAMAGOMUKHAa WITH TAILzeRDHAVISAR",
   "GAlTIKRAMAiDOUBLE ANUSVARA ANTARGOMUKHAzdHEXIFORM LONG ANUSVARAwJIHVAMULIYAlLONG ANUSVARAnNIHS",
   "HVASAjREVERSED VISARGA ANUDATTAiUDATTAwOTATED ARDHAVISARGAtTHANG LONG ANUSVARAuTIRYAKgUPADHMAN",
   "IYAlVISARGA ANUDATTAa WITH TAILsSVARITAhUDATTAa WITH TAILyYAJURVEDIC MIDLINE SVARITAzgTONE ATH",
   "ARVAVEDIC INDEPENDENT SVARITAzhCANDRA ABOVEfBELOWmDOT BELOWhUBLE RING ABOVEkSVARITAoKARSHANAgT",
   "HAKA ANUDATTAqPRENKHAhRIGVEDIC KASHMIRI INDEPENDENT SVARITAzkNG ABOVEkSHARAfTHREE DOTS BELOWpR",
   "IPLE SVARITAnWO DOTS BELOWoYAJURVEDIC AGGRAVATED INDEPENDENT SVARITAzfINDEPENDENT SVARITAtKATH",
   "AKA INDEPENDENT SVARITAa SCHROEDERzzhRSICLEfTICAL BAR BESIDE RIGHT TRIANGLEvDOUBLE LEFT TURNST",
   "ILEvTRIPLE RIGHT TURNSTILEwWITH HORIZONTAL STROKEzbELLIPSISiFOUR DOTSjIDEOGRAPHIC ITERATION MA",
   "RKzbKANA REPEAT MARKa LOWER HALFkUPPER HALFpWITH VOICED SOUND MARKa UPPER HALFzuLINEa EXTENSIO",
   "NjWITH CIRCLE ABOVEfBELOWmMIDDLE DOTuMALE WITH STROKE SIGNvONE EIGHTH BLOCK-2b3b4b5b6b7sSIX DO",
   "TSiTAB KEYeULATIONa SETnILDEeRAFFIC LIGHTnZIGZAG LINErY BOLD GREEK CROSSqHEAVY EIGHT POINTED B",
   "LACK STARsSPOKED ASTERISKvFIVE SPOKED ASTERISKuGREEK CROSSlREVERSE SOLIDUSpSALTIREgIX SPOKED A",
   "STERISKsOLIDUShWHITE CIRCLEgSQUAREsMUCH GREATER-THANmLESS-THANrSTAeIBRATION MODEmCTORY HANDkDE",
   "O CAMERAgGAMEfCASSETTElETNAMESE ALTERNATE READING MARK CAcNHAYzkWDATA SQUAREnOLINeRGOdTHKUQI C",
   "APITAL LETTER AbBBEcEcCEbHEdDEbHEdEaIcFEcGAcHAbHAdIaJEdJEcKAcLAbLAdMEcNEbJEdObPEcQAcREcSEbHEdT",
   "EbHEdUbVEcXEcYbZErSMALL LETTER AbBBEcEcCEbHEdDEbHEdEaIcFEcGAcHAbHAdIaJEdJEcKAcLAbLAdMEcNEbJEdO",
   "bPEcQAcREcSEbHEdTEbHEdUbVEcXEcYbZExOIDED GREEK CROSSqLCANOeLEYBALLhUME INTEGRALoS1a0a0b1b2b3b4",
   "b5b6b7b8b9c1a0b1b2b3b4b5b6b7b8b9c2a0b1b2b3b4b5b6b7b8b9c3a0b1b2b3b4b5b6b7b8b9c4a0b1b2b3b4b5b6b7",
   "b8b9c5a0b1b2b3b4b5b6b7b8b9c6a0b1b2b3b4b5b6b7b8b9c7a0b1b2b3b4b5b6b7b8b9c8a0b1b2b3b4b5b6b7b8b9c9",
   "a0b1b2b3b4b5b6b7b8b9d2a0a0b1b2b3b4b5b6b7b8b9c1a0b1b2b3b4b5b6b7b8b9c2a0b1b2b3b4b5b6b7b8b9c3a0b1",
   "b2b3b4b5b6b7b8b9c4a0b1b2b3b4b5b6b7b8b9c5a0b1b2b3b4b5b6c6b7b8b9c3a0b1b2b3b4b5b6b7b8b9c4a0b1b2b3",
   "b4b5b6b7b8b9c5a0b1b2b3b4b5b6b7b8b9c6a0b1b2b3b4b5b6b7b8b9c7a0b1b2b3b4b5b6b7b8b9c8a0b1b2b3b4b5b6",
   "b7b8b9c9a0b1b2b3b4b5b6b7b8b9dTaScULCANUSfGAR FRACTION FIVE EIGHTHShSIXTHSkOUR FIFTHSlONE EIGHT",
   "HgFIFTHfHALFeNINTHfQUARTERhSEVENTHgIXTHfTENTHeHIRDjSEVEN EIGHTHSnTHREE EIGHTHShFIFTHSgQUARTERS",
   "nWO FIFTHSgTHIRDSkZERO THIRDS"]

def nameTapeW : List String :=
  ["WAFFLEeNCHO DIGIT EIGHTfFIVEdOUReNINEeONEdSEVENeIXdTHREEeWOdZEROkLETTER AaAaNaGdNGcUcBAcCAcDAc",
   "EaNcFAcGAcHAcIaNGdJAcKAbHAdLAbLHAeMAcNAbGAcYAdOaNaGdPAbHAdRAcSAbHAdTAbHAcRAcSAdUaENdVAcWAcYAbI",
   "HdZAjNGUN SIGNjTONE KOIaNIfTUPaNIoING CRESCENT MOON SYMBOLuGIBBOUS MOON SYMBOLyRANG CITI CAPIT",
   "AL LETTER AaMbNGcTcBUcDAcEaNNbYdGAcHARcIYOdOLOcRReIIcKOcNGAAdUNGeOaDDdPUcSIIcSUUeTTEdUCbUcVIYO",
   "eWIcYAbObUaJsDIGIT EIGHTfFIVEdOUReNINEeONEdSEVENeIXdTHREEeWOdZEROkNUMBER EIGHTYgFIFTYeORTYfNIN",
   "ETYgSEVENTYgIXTYfTENcHIRTYfWENTYnOMcSMALL LETTER AaMbNGcTcBUcDAcEaNNbYdGAcHARcIYOdOLOcRReIIcKO",
   "cNGAAdUNGeOaDDdPUcSIIcSUUeTTEdUCbUcVIYOeWIcYAbObUaJzNING SIGNkSTEBASKETjTCHcER BUFFALOhCLOSETg",
   "POLOeWAVEfMELONiVE ARROW POINTING DIRECTLY LEFTeRIGHTzeDASHgING BLACK FLAGkHAND SIGNjWHITE FLA",
   "GoY DASHeLINEdOW LINEiOVERLINElXING CRESCENT MOON SYMBOLuGIBBOUS MOON SYMBOLzEARY CAT FACEiFAC",
   "EiDDINGeGE-TAILED RIGHTWARDS ARROWzcIERSTRASS ELLIPTIC FUNCTIONzbGHT LIFTERlST SYRIAC CROSSqHA",
   "LEdEELa OF DHARMAkCHAIR SYMBOLpITE ARROW SHAFT WIDTH ONEdTWO THIRDSzdBULLETgCHESS BISHOPa ROTA",
   "TED NINETY DEGREESoTWO HUNDRED SEVENTY DEGREESzrEQUIHOPPERa ROTATED NINETY DEGREESziKINGa ROTA",
   "TED NINETY DEGREESoTWO HUNDRED SEVENTY DEGREESzoNIGHTa ROTATED FORTY-FIVE DEGREESsNINETY DEGRE",
   "ESoONE HUNDRED THIRTY-FIVE DEGREESzgTHREE HUNDRED FIFTEEN DEGREESzdWO HUNDRED SEVENTY DEGREESp",
   "TWENTY-FIVE DEGREESzp-BISHOPgQUEENfROOKlPAWNa ROTATED NINETY DEGREESoTWO HUNDRED SEVENTY DEGRE",
   "ESzpQUEENa ROTATED NINETY DEGREESoTWO HUNDRED SEVENTY DEGREESzqROOKa ROTATED NINETY DEGREESoTW",
   "O HUNDRED SEVENTY DEGREESzpTURNED BISHOPgKINGdNIGHTgPAWNeQUEENfROOKqIRCLEa CONTAINING BLACK SM",
   "ALL CIRCLEzeWITH DOT RIGHThWN ARROWkLOWER LEFT QUADRANTnRIGHT QUADRANTuTWO DOTSiUPPER LEFT QUA",
   "DRANTnRIGHT QUADRANTzgLUB SUITiONCAVE-SIDED DIAMONDa WITH LEFTWARDS TICKoRIGHTWARDS TICKzrDIAM",
   "ONDa CONTAINING BLACK MEDIUM DIAMONDoSMALL DIAMONDnVERY SMALL DIAMONDzkIN SQUAREjSUITeWITH CEN",
   "TRED DOTxOWN POINTING BACKHAND INDEXoINDEXfLEFT HAND INDEXz-POINTING SMALL TRIANGLEoTRIANGLEvR",
   "AUGHTS KINGeMANmEXCLAMATION MARK ORNAMENTzFLAGa WITH HORIZONTAL MIDDLE BLACK STRIPEznORETTEfWE",
   "RfOUR POINTED CUSPeSTARqROWNING FACEnHARD SHELL FLOPPY DISKvEARTa SUIThVY CHECK MARKkSALTIRE W",
   "ITH ROUNDED CORNERSzhXAGONgORIZONTAL ELLIPSEqURGLASSjLARGE SQUAREkTIN CROSSkEFT LANE MERGEkPOI",
   "NTING BACKHAND INDEXoINDEXp-POINTING POINTERhSMALL TRIANGLEoTRIANGLEvOZENGE CONTAINING BLACK S",
   "MALL LOZENGEznMEDIUM DIAMONDhLOZENGEhSMALL SQUARElQUAREfTARkOON SELENAlNIBdPARALLELOGRAMmENNAN",
   "TeTAGONiQUESTION MARK ORNAMENTwRECTANGLEiIGHT POINTING BACKHAND INDEXoINDEXp-POINTING PENTAGON",
   "hOINTERhSMALL TRIANGLEoTRIANGLExSCISSORShESAME DOTjHOGI PIECEkMALL LOZENGEhSQUAREfTARiILING FA",
   "CElPADE SUITjQUAREa BUTTONgCONTAINING BLACK MEDIUM SQUAREnSMALL SQUAREmVERY SMALL SQUAREzjWIT",
   "H CENTRE VERTICAL LINEuLEFTWARDS TICKnOWER LEFT QUADRANTnRIGHT QUADRANTuRIGHTWARDS TICKoOUNDE",
   "D CORNERSpUPPER LEFT QUADRANTnRIGHT QUADRANTuVERTICAL BISECTING LINEzjTARdUNa BEHIND CLOUDa WI",
   "TH RAINwWITH RAYSeSMALL CLOUDuTELEPHONEiOUCHTONE TELEPHONEsRAPEZIUMhIANGLE CONTAINING SMALL WH",
   "ITE TRIANGLEzoWO-WAY LEFT WAY TRAFFICyUP POINTING BACKHAND INDEXoINDEXp-POINTING CHEVRONhSMAL",
   "L TRIANGLEoTRIANGLEa WITH DOTzeVERTICAL BARdELLIPSEhRECTANGLEpY SMALL SQUAREs-FEATHERED RIGHTW",
   "ARDS ARROWzgIDE-HEADED DOWNWARDS BARB ARROWkHEAVY BARB ARROWqLIGHT BARB ARROWqMEDIUM BARB ARRO",
   "WrVERY HEAVY BARB ARROWzgLEFTWARDS BARB ARROWkHEAVY BARB ARROWqLIGHT BARB ARROWqMEDIUM BARB AR",
   "ROWrVERY HEAVY BARB ARROWzgNORTH EAST BARB ARROWkHEAVY BARB ARROWqLIGHT BARB ARROWqMEDIUM BAR",
   "B ARROWrVERY HEAVY BARB ARROWzbWEST BARB ARROWkHEAVY BARB ARROWqLIGHT BARB ARROWqMEDIUM BARB A",
   "RROWrVERY HEAVY BARB ARROWzhRIGHTWARDS BARB ARROWkHEAVY BARB ARROWqLIGHT BARB ARROWqMEDIUM BAR",
   "B ARROWrVERY HEAVY BARB ARROWzhSOUTH EAST BARB ARROWkHEAVY BARB ARROWqLIGHT BARB ARROWqMEDIU",
   "M BARB ARROWrVERY HEAVY BARB ARROWzbWEST BARB ARROWkHEAVY BARB ARROWqLIGHT BARB ARROWqMEDIUM B",
   "ARB ARROWrVERY HEAVY BARB ARROWzhUPWARDS BARB ARROWkHEAVY BARB ARROWqLIGHT BARB ARROWqMEDIUM B",
   "ARB ARROWrVERY HEAVY BARB ARROWzoGGLY VERTICAL LINEsLTED FLOWERlND BLOWING FACEmCHIMEgOWdE GLA",
   "SShKING FACEkRED KEYBOARDnJbOLF FACEhMANa WITH BUNNY EARSqS BOOTSfCLOTHEShHATdSANDALkENS SYMBO",
   "LlN SIGNgODcRD JOINERgSEPARATOR MIDDLE DOTwLD MAPgMbRIED FACElRAPPED PRESENTnEATH PRODUCTlNCHd",
   "STLERShITING HAND"]

def nameTapeX : List String :=
  ["X IN A RECTANGLE BOXt-RAYeIANGQI BLACK CANNONfHARIOThELEPHANTiGENERALhHORSEfMANDARINiSOLDIERnR",
   "ED CANNONfHARIOThELEPHANTiGENERALhHORSEfMANDARINiSOLDIERsOR"]

def nameTapeY : List String :=
  ["YAWNING FACElELLOW HEARTkN SIGNgZIDI COMBINING HAMZA MARKkMADDA MARKuHYPHENATION MARKqLETTER B",
   "EcCHHIMdIMdIMdDADbLdELIFdTbWbYNdFAcGAFdHAYcHAdJAcKAFcHAFeLAMa WITH DOT ABOVEsMIMdNUNdOWcPEbHEd",
   "QAFdRAbHAdSADcEbHINdINdTAbHEdUMcVAa ALTERNATE FORMrWAWdXAbHEYNfYOTa WITH CIRCUMFLEX ABOVEzZAaL",
   "cEpI RADICAL BBUTdURdCHEcIPcUOPdYaPbTdDDURdUcGAbEPcGOPcUOdOTdHMOcXITcOPcUOeJJIEcUTcYcOcKEbITdL",
   "IaEcYRdMIbOPdNBIEdYIPcOPdZUPeOPcPUTcYTdQOTdSHATcOPcURcYcSIdTATcUcVEPcURdWOcYITcOcZAbOTcUPbRcZI",
   "ETnSYLLABLE AaPbTbXcBAaPbTbXcBAaPbTbXcEaPbXcIaEaPbTbXcPbTbXcOaPbTbXcUaOaPbXcPbRaXcTbXcYaPbTbXd",
   "EaPbXcIaEaPbTbXcPbTbXcOaPbTbXcUaOaPbXcPbRaXcTbXcYaPbRaXcTbXdCAaPbTbXcEaPbXcHAaPbTbXcEaPbTbXcOa",
   "PbTbXcUaOaPbTbXcPbRaXcXcYaPbRaXcTbXdIaEaPbTbXcPbTbXcOaPbTbXcUaOaPbXcPbRaXcTbXcYaPbRaXcTbXdDAaP",
   "bTbXcDAaPbTbXcEaPbXcIaEaPbXcPbTbXcOaPbTbXcUaOaPbXcPbRaXcTbXdEaPbXcIaEaPbXcPbTbXcOaPbTbXcUaOaXc",
   "PbRaXcTbXdEaXcFAaPbTbXcIaPbTbXcOaPbXcUaPbRaXcTbXcYaPbTbXdGAaPbTbXcEaPbTbXcGAaPbTbXcEaPbTbXcIaE",
   "aPbXcTbXcOaPbTbXcUaOaPbTbXcPbRaXcTbXdIaEaPbTbXcPbTbXcOaPbTbXcUaOaPbTbXcPbRaXcTbXdHAaPbTbXcEaPb",
   "XcIEaXcTcLAaPbTbXcEaPbXcIaEaPbXcPbTbXcOaPbXcUaOaPbXcPbRaXcTbXcYaPbRaXcTbXdMAaPbTbXcIaEaPbXcPbT",
   "bXcOaPbTbXcUaOaPbXcPbRaXcTbXcYaPbRaXcXdNAaPbTbXcEaPbXcIaEaPbTbXcPbTbXcOPbTbXcUOaXcTdOaPbTbXcUO",
   "aPbTbXdXAaPbTbXcEaPbXcIaEaPbTbXcPbTbXcOaPbTbXcUOaPbTbXfIaEaPbTbXcPbTaERATION MARKnXcJIaEaPbTbX",
   "cPbTbXcJIaEaPbTbXcPbTbXcOaPbTbXcUaOaPbXcPbRaXcTbXcYaPbTbXdOaPbTbXcUaOaPbTbXcPbRaXcTbXcYaPbRaXc",
   "TbXdKAaPbTbXcEaPbTbXcIaEaPbXcPbTbXcOaPbTbXcUaOaPbXcPbRaXcTbXdLAaPbTbXcEaPbXcIaEaPbTbXcPbTbXcOa",
   "PbTbXcUaOaPbTbXcPbRaXcTbXcYaPbRaXcTbXdMAaPbTbXcEaXcGAaPbTbXcEaPbXcIEaXdOaPbTbXcUaOaPbXcPbRaXcT",
   "bXdIaEaPbXcPbTbXcOaPbTbXcUaOaPbTbXcPbRaXcTbXcYaPbTbXdNAaPbXcBAaPbTbXcIaEaPbXcPbTbXcOaPbTbXcUaP",
   "bRaXcTbXcYaPbRaXcTbXdDAaPbTbXcEaPbXcIaEaXcPbTbXcOaPbTbXcUaPbRaXcTbXdEaPbXcGAaPbTbXcEaPbXcIEaPb",
   "XdOaPbTbXcUOaTbXeIaEaPbXcPbTbXcJIaEaPbTbXcPbTbXcOaPbTbXcUaOaXcPbRaXcXcYaPbRaXcTbXdOaPbTbXcRAaP",
   "bTbXcEaPbTbXcOaPbXcUaPbRaXcTbXcYaPbRaXcTbXdUaOaPbXcPbRaXcTbXcYIaEaPbTbXcPbTbXcOaPbTbXcUaOaPbXc",
   "PbTbXdZAaPbTbXcEaXcIaEaPbXcPbTbXcOPbXcUaOaXcPbRaXcXcYaPbRaXcTbXeOaPbTbXcPAaPbTbXcIaEaPbXcPbTbX",
   "cOaPbTbXcUaOaPbXcPbRaXcTbXcYaPbRaXcTbXdQIaEaPbTbXcPbTbXcOaPbTbXcUaOaPbTbXcPbRaXcTbXcYaPbRaXcTb",
   "XdRAaPbTbXcEaPbXcOaPbTbXcRAaXcEaPbTbXcOaPbTbXcUaOaXcPbRaXcTbXcYaPbRaXcTbXdUaOaPbXcPbRaXcTbXcYa",
   "PbRaXcTbXdSAaPbTbXcEaPbXcHAaPbTbXcEaPbTbXcOaPbTbXcUaOaPbXcPbRaXcTbXcYaPbRaXcTbXdIaEaPbXcPbTbXc",
   "OaPbTbXcSAaPbTbXcEaPbXcIaEaPbXcPbTbXcOaPbTbXcUaPbTbXcYaPbRaXcTbXdUaOaPbXcPbRaXcTbXcYaPbRaXcTbX",
   "dTAaPbTbXcEaPbXcIaEaPbXcPbTbXcOaPbTbXcUaOaPbTbXcPbRaXcTbXdUOaPbXdVAaPbTbXcEPbXcIaEaPbTbXcPbTbX",
   "cOaPbTbXcUaPbRaXcTbXcYaPbRaXcTbXdWAaPbTbXcEaPbXcOaPbXcUaOaPbXeXIaEaPbTbXcPbTbXcOaPbTbXcUOaXdYa",
   "PbRaXcTbXdYIaEaPbTbXcPbTbXcOaPbTbXcUaOaPbTbXcPbRaXcTbXcYaPbRaXcTbXdZAaPbTbXcEaPbXcHAaPbTbXcEaP",
   "bTbXcOaPbTbXcUaOaPbXcPbRaXcTbXcYaPbRaXcTbXdIaEaPbXcPbTbXcOaPbTbXcUaOaPbXcPbRaXcTbXcYaPbRaXcTbX",
   "cZAaPbTbXcEaPbXcIaEaPbTbXcPbTbXcOaPbXcUaPbRaXcXcYaPbRaXcTbXoN YANGhO-YO"]

def nameTapeZ : List String :=
  ["Z NOTATION BAG MEMBERSHIPoDOMAIN ANTIRESTRICTIONwLEFT BINDING BRACKETpIMAGE BRACKETsRANGE ANTI",
   "RESTRICTIONuELATIONAL COMPOSITIONvIGHT BINDING BRACKETpIMAGE BRACKETtSCHEMA COMPOSITIONlPIPING",
   "fROJECTIONqPOTeTYPE COLONuANABAZAR SQUARE CLOSING DOUBLE-LINED HEAD MARKwHEAD MARKpUSTER-FINA",
   "L LETTER LAcRAcVAcYApINITIAL LETTER RAzFINAL CONSONANT MARKuINITIAL DOUBLE-LINED HEAD MARKwHEA",
   "D MARKrLETTER -AcAbBAbHAdCAbHAdDAbDAbHAdHAcZAbHAeGAbHAdHAcJAcKAbHAcSSAeLAcMAcNAbGAcNAcYAdPAbHA",
   "dRAcSAbHAcSAdTAbHAcSAbHAdTAbHAeVAcYAcZAbHAkMARK DOUBLE SHADlLONG TSHEGkSHADeTSHEGkSIGN ANUSVAR",
   "AiCANDRA WITH ORNAMENToBINDUa WITH ORNAMENTzVIRAMAeSARGAlUBJOINERjVOWEL LENGTH MARKlSIGN AIbUc",
   "EbIbOaEcREVERSED IkUaEzeEBRA FACEiRO WIDTH JOINERgNO-BREAK SPACEmN-JOINERkSPACEoUSdIPPER-MOUT",
   "H FACEqNAMENNY COMBINING ATTACHING VERTICAL OMETxLOWER TONAL RANGE INDICATORzcMARK BORZAYAhCHA",
   "SHKAa POLNAYAoURVED OMETlDEMESTVENNY ZADERZHKAuVOETOCHIEkGORAZDO NIZKO ON LEFTeRIGHTiS KRYZHE",
   "M ON LEFTeRIGHTyVYSOKOoKACHKAfRYZHa ON LEFTmUPNAYAhLOMKAfMALO POVYSHE ON LEFTeRIGHTiS KHOKHLO",
   "M ON LEFTeRIGHTqRYZHEMiTRANNOuNIZKO ON LEFTeRIGHTiS KRYZHEM ON LEFTeRIGHTyOBLACHKOhNbTSECHKAiP",
   "ODCHASHIEa WITH VERTICAL STROKEzdVERTKAhVYSHE ON LEFTeRIGHTiS KHOKHLOM ON LEFTeRIGHTqRYZHEMiTR",
   "ANNOpRAVNOdZSEKAhSKOBAeOROCHYA NOZHKAoREDNE ON LEFTeRIGHToTRANNO MALO POVYSHEuTIKHAYAgOCHKAfSA",
   "TA ON LEFTeRIGHTiS KRYZHEMpUDARKAgVYSOKO ON LEFTeRIGHTiS KHOKHLOM ON LEFTeRIGHTqRYZHEMqZADERZH",
   "KAiELOcVOKkTONAL RANGE MARK MRACHNOhSVETLOgTRESVETLOzlNEUME CHASHKAfELYUSTKAkDEMESTVENNY KLYUC",
   "HqRBITSAhOUBLE ZAPYATAYApUDAdVA V CHELNUmFITAeGOLUBCHIK BORZYfMRACHNYhSVETLYgTIKHYeRESVETLYtKH",
   "AMILOgLYUCHfOBYLAfRYUKa TIKHYiZHeUFISMAhMECHIKa KLYUCHENEPOSTOYANNYmPOVODNYhVOYkPOVODNYoNEMKAf",
   "OBLAKOfSOKAa KLYUCHEVAYA NEPOSTOYANNAYAoSVETLAYAtRYUKOVAYA SVETLAYAtSVETLAYAiTRESVETLAYArPALKA",
   "dRAKLITgUKdEREVODKAa NEPOSTOYANNAYAxODCHASHIEiLKULIZMYkREVERSED CHELYUSTKAsOGdSKAMEYTSA DVOECH",
   "ELNAYA KLYUCHEVAYAlNEPOSTOYANNAYAoPROSTAYAiSVETLAYAvKLYUCHENEPOSTOYANNAYAoVAYA SVETLAYAiTIKHAY",
   "AtMRACHNAYAjSVETLAYAiTIKHAYAgRESVETLAYAuLOZHITIEa S KRYZHEMhZAPYATOYkZAKRYTOErTATYAa NEPOSTOYA",
   "NNAYAoS DVUMYA ZAPYATYMIqKRYZHEMa I ZAPYATOYsROGOMfZAPYATOYa I KRYZHEMhPODCHASHIEMyZAKRYTAYA",
   "a S ZAPYATOYzOPITSAa S OCHKOMiWITH SOROCHYA NOZHKAzcRELA DVOECHELNAYAa KLYUCHEVAYApOKRYZHEVAYA",
   "kPOVODNAYAa KLYUCHEVAYAzgGROMNAYAa WITH SINGLE ZAPYATAYAzbOKRYZHEVAYAa POVODNAYAuPOVODNAYAa WI",
   "TH DOUBLE ZAPYATAYAqSINGLE ZAPYATAYAzlKLYUCHENEPOSTOYANNAYAoPOVODNAYApRYUKOVAYAa GROMNAYAa WIT",
   "H SINGLE ZAPYATAYAzbOKRYZHEVAYAa POVODNAYAuPOVODNAYAa WITH DOUBLE ZAPYATAYAqSINGLE ZAPYATAYAzl",
   "POVODNAYAjTRYASKApZHEVAYAkMRACHNOTIKHAYAoNEPOSTOYANNAYAoPOLUPOVODNAYAlVODNAYAiROSTAYAiTIKHAY",
   "A PUTNAYAoRYASOGLASNAYAiPOVODNAYAjSTRELNAYAwVRAKHIYA KLYUCHEVAYA MRACHNAYAjPROSTAYAiSVETLAYAiT",
   "RESVETLAYAxMRACHNAYAjPROSTAYAiSVETLAYAiTRESVETLAYAuZANOZHEKgPYATAYAiMEYTSAnPRIZNAK MODIFIER DI",
   "RECTION FLIPoKRYZHfLEVEL-2b3hROGzdOMBIEfWJbNBSPdJcSP"]

def nameTapes : List (Char × List String) :=
  [('A', nameTapeA), ('B', nameTapeB), ('C', nameTapeC), ('D', nameTapeD),
   ('E', nameTapeE), ('F', nameTapeF), ('G', nameTapeG), ('H', nameTapeH),
   ('I', nameTapeI), ('J', nameTapeJ), ('K', nameTapeK), ('L', nameTapeL),
   ('M', nameTapeM), ('N', nameTapeN), ('O', nameTapeO), ('P', nameTapeP),
   ('Q', nameTapeQ), ('R', nameTapeR), ('S', nameTapeS), ('T', nameTapeT),
   ('U', nameTapeU), ('V', nameTapeV), ('W', nameTapeW), ('X', nameTapeX),
   ('Y', nameTapeY), ('Z', nameTapeZ)]

end GrowthGrammar.Text
