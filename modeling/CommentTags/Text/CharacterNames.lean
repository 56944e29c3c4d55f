import CommentTags.Text

namespace CommentTags.Text

/-- The names of characters in their order. A name stands behind small letters, which tell how many
characters it shares with the one before: from `a` for none to `z` for 25, and as many as all of
them together. -/
def characterNameLines : List String :=
  ["aABACUSbC CURRENTcCORDIONeUNT OFcKdNOWLEDGEcTIVATE ARABIC FORM SHAPINGjSYMMETRIC SWAPPING",
   "cUTE ACCENThNGLEbDDRESSED TO THE SUBJECTcHESIVE BANDAGEcI SHAKTIcLAM ALIF LENGTHENER",
   "gCAPITAL LETTER ALIFvBAwHEvCHIvDAALIwHAvEvFAvGAwBEvHAvIvJIIMvKAFwHAwPOvLAAMvMIIMvNHAwUNwYAvO",
   "vPEvQAAFvRAvSHAwINNYIIYHEvTUvUvVAvWAWvYAwHEvZALhONSONANT MODIFIERgDIGIT EIGHTmFIVEnOURmNINE",
   "mONEmSEVENnIXmTHREEnWOmZEROgGEMINATE CONSONANT MODIFIERnION MARKgHAMZA",
   "gINITIAL EXCLAMATION MARKoQUESTION MARKgNASALIZATION MARKhUKTAgSMALL LETTER ALIFtBAuHEtCHI",
   "tDAALIuHAtEtFAtGAuBEtHAtItJIIMtKAFuHAuPOtLAAMtMIIMtNHAuUNuYAtOtPEtQAAFtRAtSHAuINNYIIYHEtTUtU",
   "tVAtWAWtYAuHEtZALgVOWEL LENGTHENERcMETOSdISSION TICKETScULTbEGEAN CHECK MARK",
   "hDRY MEASURE FIRST SUBUNIThLIQUID MEASURE FIRST SUBUNIThMEASURE SECOND SUBUNITpTHIRD SUBUNIT",
   "hNUMBER EIGHTt HUNDREDuTHOUSANDtYu THOUSANDoFIFTYt THOUSANDqVEs HUNDREDtTHOUSANDpORTY",
   "t THOUSANDqURs HUNDREDtTHOUSANDoNINEs HUNDREDtTHOUSANDsTYu THOUSANDoONEr HUNDREDsTHOUSAND",
   "oSEVENt HUNDREDuTHOUSANDtTYv THOUSANDpIXr HUNDREDsTHOUSANDrTYt THOUSANDoTENr THOUSANDpHIRTY",
   "u THOUSANDqREEt HUNDREDuTHOUSANDpWENTYu THOUSANDqOr HUNDREDsTHOUSANDhWEIGHT BASE UNIT",
   "oFIRST SUBUNITpOURTH SUBUNIToSECOND SUBUNIToTHIRD SUBUNITiORD SEPARATOR DOTwLINEcRIAL TRAMWAY",
   "bFGHANI SIGNbHOM CONSONANT SIGN MEDIAL LAzdIGATING RAzcRAfDIGIT EIGHTlFIVEmOURlNINElONElSEVEN",
   "mIXlTHREEmWOlZEROfLETTER AnLTERNATE BAwGAwTAmBAnHAmCAnHAmDAnDAoHAnHAmGAnHAmHAmJAnHAmKAnHAmLA",
   "nLAmMAmNAnGAnNAnYAmPAnHAmRAmSAmTAnHAnTAoHAfNUMBER TENnWENTYfSIGN KILLERkRULAIkSECTION",
   "lMALL SECTIONgYMBOL VIfVOWEL SIGN ArArIrMrWqEqIrIqOqUrUbIRPLANEi ARRIVINGjDEPARTURE",
   "bKTIESELSKABbLARM CLOCKcCHEMICAL SYMBOL FOR AIRxLEMBICyKALIzd-2yUMxMALGAMxNTIMONY ORE",
   "xQUA REGIAzh-2zcVITAEzh-2zbFORTISxRSENICxSHESxURIPIGMENTwBATH OF MARYzfVAPOURSxISMUTH ORE",
   "xLACK SULFURxORAXzc-2zd3xRICKwCADUCEUSyLXyPUT MORTUUMxINNABARxOPPER ANTIMONIATEzeORE",
   "xROCUS OF COPPERzn-2zhIRONyUCIBLEzf-2zg3zg4zg5wDAY-NIGHTxISSOLVEzf-2zTILLwEARTHwFIREwGOLDxUM",
   "wHALF DRAMzcOUNCExORSE DUNGyURwIRON OREzf-2zb-COPPER OREwLEAD ORExODESTONEwMARCASITE",
   "xERCURY SUBLIMATEzo-2zp3xONTHwNIGHTyTREwOILwPHILOSOPHERS SULFURxOT ASHESyWDERzdED BRICK",
   "xRECIPITATExURIFYyTREFACTIONwQUICK LIMEzNTESSENCEwREALGARze-2yGULUSze OF ANTIMONYzq-2ziIRON",
   "ze-2zf3zf4yTORTxOCK SALTzg-2wSAL-AMMONIACzTzb OF ANTIMONYzfCOPPER ANTIMONIATExCEPTER OF JOVE",
   "xILVERxOAPxPIRITxTARRED TRIDENTyRATUM SUPER STRATUMzs-2xUBLIMATE OF ANTIMONYzkCOPPER",
   "zkSALT OF ANTIMONYzsCOPPERzfIONyLFURwTARTARzd-2xIN OREzCTURExRIDENTxUTTYwURINEwVERDIGRIS",
   "xINEGARze OF ANTIMONYze-2zf3yTRIOLze-2wWATERyXcEF SYMBOLdMBICdRTcIEN MONSTERcL AROUND-PROFILE",
   "eEQUAL TOcMdOST EQUAL OR EQUAL TOnTOp WITH CIRCUMFLEX ACCENTcTERNATE ONE-WAY LEFT WAY TRAFFIC",
   "iIVE KEY SYMBOLbMALGAMATION OR COPRODUCTcBULANCEcERICAN FOOTBALLcPERSANDdHORA",
   "bNATOLIAN HIEROGLYPH A001y2y3y4y5y6y7y8y9x10zAy1y2y3y4y5y6y7y8y9x20y1y2y3y4y5y6zAy7y8y9x30y1y2",
   "y3y4y5y6y7y8y9zAx40y1zAy2y3y4y5zAy6zAzBy7y8y9x50y1y2y3y4y5y6y7y8y9x60y1y2y3y4y5y6zAzBzCy7y8y9",
   "x70y1y2y3y4y5y6y7y8y9x80y1y2y3y4y5y6y7y8y9x90y1y2y3y4y5y6y7zAy8zAy9w100zAy1zAy2zAy3y4zAzBzCy5",
   "zAzBy6y7zAzBzCy8y9x10zAzBy1y2y3y4y5zAy6y7y8y9x20y1y2y3y4y5zAy6y7y8y9x30y1y2y3y4y5zAy6y7y8y9x40",
   "y1y2y3y4y5y6y7y8y9x50y1y2y3y4y5y6y7y8y9x60y1y2y3y4y5y6y7y8y9x70y1y2y3y4y5y6y7y8y9x80y1y2y3y4y5",
   "y6y7y8y9x90y1y2y3y4y5y6y7y8y9w200y1y2zAzBy3y4y5y6y7zAy8y9zAx10y1y2y3y4y5zAy6zAy7y8y9x20y1y2y3",
   "y4y5y6y7zAy8y9x30y1y2y3y4y5y6y7y8y9x40y1y2y3y4y5y6y7y8y9x50y1y2y3y4y5y6y7y8y9x60y1y2y3y4y5y6y7",
   "zAy8y9x70y1y2y3y4y5y6y7y8y9x80y1y2y3y4y5y6y7y8y9zAx90y1y2y3y4zAy5y6y7y8y9zAw300y1y2y3y4y5y6y7",
   "y8y9zAx10y1y2y3y4y5y6y7y8y9x20y1y2y3y4y5y6y7y8y9zAx30y1y2AzBzCy3y4y5y6zAzBzCy7y8y9x40y1y2y3y4",
   "y5y6y7y8y9x50y1y2y3y4y5y6y7y8y9zAx60y1y2y3y4zAy5y6y7y8zAy9x70y1zAy2y3y4y5y6y7y8y9x80y1zAy2",
   "y3 RA OR RIzAy4y5y6zAy7y8y9x90y1y2y3 EIGHTy4y5y6y7y8y9w400y1y2y3y4y5y6y7y8y9",
   "x10 BEGIN LOGOGRAM MARKzA END LOGOGRAM MARKy1y2y3y4y5y6y7y8y9x20y1y2y3y4y5y6y7y8y9x30y1y2y3y4",
   "y5y6y7y8y9x40y1y2y3y4y5y6y7y8y9x50zAy1y2y3y4y5y6y7zAy8y9x60y1y2y3y4y5y6y7y8y9x70y1y2y3y4y5y6y7",
   "y8y9x80y1y2y3y4y5y6y7y8y9x90y1y2y3y4y5y6y7w501y2y3y4y5y6y7y8y9x10y1y2y3y4y5y6y7y8y9x20y1y2y3y4",
   "y5y6y7y8y9x30fMICAL HEARTcCHORcD WITH DOTcGER SYMBOLdLEf WITH S INSIDElUNDERBARdRY FACE",
   "dSTROM SIGNdUISHED FACEcKHcTdENNA WITH BARSdICLOCKWISE CLOSED CIRCLE ARROWpONTOUR INTEGRAL",
   "oDOWNWARDS AND UPWARDS OPEN CIRCLE ARROWSoGAPPED CIRCLE ARROWoINTEGRATIONoOPEN CIRCLE ARROW",
   "oTOP SEMICIRCLE ARROWpRIANGLE-HEADED BOTTOM U-SHAPED ARROWzfLEFT U-SHAPED ARROW",
   "zfOPEN CIRCLE ARROWzfRIGHT U-SHAPED ARROWzfTOP U-SHAPED ARROWbPCcL FUNCTIONAL SYMBOL ALPHA",
   "zc UNDERBARwBACKSLASH BARwCIRCLE BACKSLASHzeDIAERESISzeJOTzeSTARzgILEzeUNDERBARxOMMA BAR",
   "wDEL DIAERESISzbSTILEzbTILDEzTA STILEzdUNDERBARxIAMOND UNDERBARxOWN CARET TILDEzcSHOE STILE",
   "zcTACK JOTzhUNDERBARzbWARDS VANEwEPSILON UNDERBARwGREATER-THAN DIAERESISwI-BEAMxOTAzb UNDERBAR",
   "wJOT DIAERESISzbUNDERBARwLEFT SHOE STILEzbWARDS VANEwOMEGAzc UNDERBARwQUADzb BACKSLASHzcCIRCLE",
   "zdOLONzcDELzfTAzdIAMONDzeVIDEzdOWN CARETzgWARDS ARROWzcEQUALzcGREATER-THANzcJOT",
   "zcLEFTWARDS ARROWzeSS-THANzcNOT EQUALzcQUESTIONzcRIGHTWARDS ARROWzcSLASHzcUP CARET",
   "zeWARDS ARROWyOTE QUADzdUNDERBARwRHOxIGHTWARDS VANEwSEMICOLON UNDERBARxLASH BARxQUISH QUAD",
   "xTAR DIAERESISyILE TILDEwTILDE DIAERESISwUP CARET TILDEzSHOE JOTzTACK DIAERESISzfJOTzfOVERBAR",
   "yWARDS VANEwZILDEcOLLONdSTROPHEcPLICATION PROGRAM COMMANDdROACHES THE LIMIT",
   "fXIMATELY BUT NOT ACTUALLY EQUAL TOoEQUAL OR EQUAL TOuTOw OR THE IMAGE OFbQUARIUS",
   "bRABIC BASELINE ROUND DOThCOMMAiURLY DAMMAsTANnFATHAsTANnKASRAsTANhDAMMAm ISOLATED FORM",
   "nMEDIAL FORMnWITH DOTmTANp ISOLATED FORMjTE SEPARATORiECIMAL SEPARATORiISPUTED END OF AYAH",
   "iOUBLE RIGHT ARROWHEAD ABOVEzk WITH DOTnD MADDAhEMPTY CENTRE HIGH STOPuLOW STOPiND OF AYAH",
   "oTEXT MARKhFATHAm ISOLATED FORMnMEDIAL FORMnWITH DOT ABOVEsRINGsTWO DOTSmTANp ISOLATED FORM",
   "iIVE POINTED STARiOOTNOTE MARKERiULL STOPhHALF MADDA OVER MADDAjMZA ABOVEnBELOWhINVERTED DAMMA",
   "hKASRAm ISOLATED FORMnMEDIAL FORMnWITH DOT BELOWmTANp ISOLATED FORMhLARGE CIRCLE BELOW",
   "nROUND DOT ABOVExBELOWxINSIDE CIRCLE BELOWiEFT ARROWHEAD ABOVEwBELOWjTTER AEpFRICAN FEHwNOON",
   "wQAFz WITH THREE DOTS ABOVEpINr FINAL FORMsINITIAL FORMtSOLATED FORMsMEDIAL FORM",
   "sWITH THREE DOTS ABOVEzjBELOWzjPOINTING DOWNWARDS ABOVEyWO DOTS ABOVEzhVERTICALLY ABOVEpLEF",
   "s FINAL FORMtISOLATED FORMtMAKSURAzb FINAL FORMzcISOLATED FORMtWASLAy FINAL FORMzISOLATED FORM",
   "uITH ATTACHED BOTTOM RIGHT KASRAzzb AND DOT ABOVEzzgLEFT RINGziFATHAziKASRAziLEFT HAMZA",
   "znROUND DOTziRIGHT HAMZAzoROUND DOTzjOUND DOT ABOVEzsBELOWziTOP RIGHT FATHAzx AND DOT ABOVE",
   "zzdLEFT RINGyDOT ABOVEyEXTENDED ARABIC-INDIC DIGIT THREE ABOVEzzdWO ABOVEyHAMZA ABOVE",
   "zk FINAL FORMzlISOLATED FORMzfBELOWzk FINAL FORMzlISOLATED FORMyLEFT MIDDLE STROKEyMADDA ABOVE",
   "zk FINAL FORMzlISOLATED FORMyRIGHT MIDDLE STROKEzs AND DOT ABOVEzxLEFT RINGyWAVY HAMZA ABOVE",
   "zkBELOWoBEEHs FINAL FORMtINITIAL FORMuSOLATED FORMtMEDIAL FORMqHr FINAL FORMsINITIAL FORM",
   "tSOLATED FORMsMEDIAL FORMsWITH DOT BELOW AND THREE DOTS ABOVExHAMZA ABOVE",
   "xINVERTED SMALL V BELOWxSMALL MEEM ABOVEzeVzf BELOWxTHREE DOTS HORIZONTALLY BELOW",
   "zjPOINTING UPWARDS BELOWzzg AND TWO DOTS ABOVEyWO DOTS BELOW AND DOT ABOVErEHt FINAL FORM",
   "uINITIAL FORMvSOLATED FORMuMEDIAL FORMoDADr FINAL FORMsINITIAL FORMtSOLATED FORMsMEDIAL FORM",
   "sWITH DOT BELOWqHALt FINAL FORMuISOLATED FORMqLr FINAL FORMsISOLATED FORMsWITH DOT BELOW",
   "zh AND SMALL TAHxFOUR DOTS ABOVExINVERTED SMALL V BELOWzhVxRINGxTHREE DOTS ABOVE DOWNWARDS",
   "zjBELOWyWO DOTS VERTICALLY BELOW AND SMALL TAHpDAHALu FINAL FORMvISOLATED FORMrLs FINAL FORM",
   "tISOLATED FORMpOTLESS BEHwFEHwQAFpULr FINAL FORMsISOLATED FORMpYEHs FINAL FORMtINITIAL FORM",
   "uSOLATED FORMtMEDIAL FORMoEp FINAL FORMqINITIAL FORMrSOLATED FORMqMEDIAL FORMoFARSI YEH",
   "x FINAL FORMyINITIAL FORMzSOLATED FORMyMEDIAL FORMyWITH EXTENDED ARABIC-INDIC DIGIT FOUR BELOW",
   "zzhTHREE ABOVEzziWO ABOVEzeINVERTED VzeTHREE DOTS ABOVEzfWO DOTS ABOVEpEHr FINAL FORM",
   "sINITIAL FORMtSOLATED FORMsMEDIAL FORMsWITH DOT BELOWzh AND THREE DOTS ABOVEzcMOVED BELOW",
   "xTHREE DOTS BELOWzjPOINTING UPWARDS BELOWyWO DOTS BELOWoGAFr FINAL FORMsINITIAL FORM",
   "tSOLATED FORMsMEDIAL FORMsWITH INVERTED STROKExRINGxTHREE DOTS ABOVEyWO DOTS BELOWpHAIN",
   "t FINAL FORMuINITIAL FORMvSOLATED FORMuMEDIAL FORMuWITH DOT BELOWzTHREE DOTS ABOVEpRAFpUEH",
   "s FINAL FORMtINITIAL FORMuSOLATED FORMtMEDIAL FORMoHAHr FINAL FORMsINITIAL FORMtSOLATED FORM",
   "sMEDIAL FORMsWITH EXTENDED ARABIC-INDIC DIGIT FOUR BELOWxHAMZA ABOVExINVERTED SMALL V BELOW",
   "xSMALL ARABIC LETTER TAH ABOVEzxND TWO DOTSzwBELOWxTHREE DOTS ABOVEzjPOINTING UPWARDS BELOW",
   "yWO DOTS ABOVEzhVERTICAL ABOVEqMZAt ISOLATED FORMpEHr DOACHASHMEEze FINAL FORMzfINITIAL FORM",
   "zgSOLATED FORMzfMEDIAL FORMsFINAL FORMsGOALw FINAL FORMxINITIAL FORMySOLATED FORMxMEDIAL FORM",
   "xWITH HAMZA ABOVEsINITIAL FORMtSOLATED FORMsMEDIAL FORMsWITH INVERTED VxYEH ABOVEzh FINAL FORM",
   "ziISOLATED FORMpIGH HAMZAy ALEFzWAWzYEHoJEEMs FINAL FORMtINITIAL FORMuSOLATED FORMtMEDIAL FORM",
   "tWITH THREE DOTS ABOVEzkBELOWzWO DOTS ABOVEqHr FINAL FORMsISOLATED FORMoKAFr FINAL FORM",
   "sINITIAL FORMtSOLATED FORMsMEDIAL FORMsWITH DOT ABOVEzcBELOWxRINGxTHREE DOTS BELOW",
   "yWO DOTS ABOVEqSHMIRI YEHpEHEHt FINAL FORMuINITIAL FORMvSOLATED FORMuMEDIAL FORM",
   "uWITH DOT ABOVEzSMALL VzTHREE DOTS ABOVEzlBELOWzlPOINTING UPWARDS BELOWzbWO DOTS ABOVE",
   "zjVERTICALLY BELOWpHAHs FINAL FORMtINITIAL FORMuSOLATED FORMtMEDIAL FORMpIRGHIZ OEy FINAL FORM",
   "zISOLATED FORMwYUy FINAL FORMzISOLATED FORMoLAMr FINAL FORMsINITIAL FORMtSOLATED FORM",
   "sMEDIAL FORMsWITH BARxDOT ABOVEzUBLE BARxSMALL ARABIC LETTER TAH ABOVEzeVxTHREE DOTS ABOVE",
   "zjBELOWpOW ALEFoMARKpEEMs FINAL FORMtINITIAL FORMuSOLATED FORMtMEDIAL FORMtWITH DOT ABOVE",
   "zdBELOWyTHREE DOTS ABOVEoNGq FINAL FORMrINITIAL FORMsSOLATED FORMrMEDIAL FORMqOEHt FINAL FORM",
   "uINITIAL FORMvSOLATED FORMuMEDIAL FORMpOONs FINAL FORMtGHUNNAz FINAL FORMzbISOLATED FORM",
   "tINITIAL FORMuSOLATED FORMtMEDIAL FORMtWITH DOT BELOWyINVERTED SMALL VyRINGySMALL TAHzfV",
   "yTHREE DOTS ABOVEzWO DOTS BELOWpYEHs FINAL FORMtINITIAL FORMuSOLATED FORMtMEDIAL FORMoOE",
   "q FINAL FORMrISOLATED FORMoPEHr FINAL FORMsINITIAL FORMtSOLATED FORMsMEDIAL FORM",
   "sWITH SMALL MEEM ABOVEzeVrEHt FINAL FORMuINITIAL FORMvSOLATED FORMuMEDIAL FORMoQAFr FINAL FORM",
   "sINITIAL FORMtSOLATED FORMsMEDIAL FORMsWITH DOT ABOVEzcBELOWzh AND NO DOTS ABOVE",
   "xTHREE DOTS ABOVEoREHr FINAL FORMsISOLATED FORMsWITH DOT BELOWzh AND DOT ABOVExFOUR DOTS ABOVE",
   "xHAMZA ABOVExINVERTED VxLOOPxRINGxSMALL ARABIC LETTER TAH AND TWO DOTSzeNOON ABOVEzeVzf BELOW",
   "yTROKExTWO DOTS ABOVEzhVERTICALLY ABOVEpNOONt FINAL FORMuINITIAL FORMvSOLATED FORMuMEDIAL FORM",
   "pOHINGYA YEHpREHs FINAL FORMtISOLATED FORMoSADr FINAL FORMsINITIAL FORMtSOLATED FORM",
   "sMEDIAL FORMsWITH THREE DOTS ABOVEzjBELOWyWO DOTS BELOWpEENs FINAL FORMtINITIAL FORM",
   "uSOLATED FORMtMEDIAL FORMtWITH DOT BELOW AND DOT ABOVEyEXTENDED ARABIC-INDIC DIGIT FOUR ABOVE",
   "yFOUR DOTS ABOVEyINVERTED VySMALL ARABIC LETTER TAH AND TWO DOTSyTHREE DOTS BELOW",
   "zp AND THREE DOTS ABOVEzWO DOTS VERTICALLY ABOVEpHEENt FINAL FORMuINITIAL FORMvSOLATED FORM",
   "uMEDIAL FORMuWITH DOT BELOWpTRAIGHT WAWpUPERSCRIPT ALEFpWASH KAFoTAHr FINAL FORMsINITIAL FORM",
   "tSOLATED FORMsMEDIAL FORMsWITH DOT BELOWxTHREE DOTS ABOVEzjBELOWyWO DOTS ABOVEpCHEH",
   "t FINAL FORMuINITIAL FORMvSOLATED FORMuMEDIAL FORMuWITH DOT ABOVEzSMALL VtEHv FINAL FORM",
   "wINITIAL FORMxSOLATED FORMwMEDIAL FORMpEHr FINAL FORMsINITIAL FORMtSOLATED FORMsMARBUTA",
   "z FINAL FORMzbGOALzbISOLATED FORMtEDIAL FORMsWITH RINGxSMALL TEH ABOVEzeV",
   "xTHREE DOTS ABOVE DOWNWARDSrEHt FINAL FORMuINITIAL FORMvSOLATED FORMuMEDIAL FORMpHAL",
   "s FINAL FORMtISOLATED FORMqEHs FINAL FORMtINITIAL FORMuSOLATED FORMtMEDIAL FORMqIN YEHpTEH",
   "s FINAL FORMtINITIAL FORMuSOLATED FORMtMEDIAL FORMtWITH SMALL VsEHu FINAL FORMvINITIAL FORM",
   "wSOLATED FORMvMEDIAL FORMoUp FINAL FORMqISOLATED FORMqWITH HAMZA ABOVEzh ISOLATED FORM",
   "pIGHUR KAZAKH KIRGHIZ ALEF MAKSURA INITIAL FORMzyMEDIAL FORMoVEq FINAL FORMrISOLATED FORMqH",
   "r FINAL FORMsINITIAL FORMtSOLATED FORMsMEDIAL FORMoWAWr FINAL FORMsISOLATED FORM",
   "sWITH DOT ABOVEzcWITHINxEXTENDED ARABIC-INDIC DIGIT THREE ABOVEzzcWO ABOVExHAMZA ABOVE",
   "zj FINAL FORMzkISOLATED FORMxRINGxTWO DOTS ABOVEoYEHr BARREEy FINAL FORMzISOLATED FORM",
   "zWITH EXTENDED ARABIC-INDIC DIGIT THREE ABOVEzzjWO ABOVEzfHAMZA ABOVEzq FINAL FORM",
   "zrISOLATED FORMsFINAL FORMsINITIAL FORMtSOLATED FORMsMEDIAL FORMsWITH HAMZA ABOVEzj FINAL FORM",
   "zkINITIAL FORMzlSOLATED FORMzkMEDIAL FORMxSMALL VxTAILyHREE DOTS BELOW",
   "yWO DOTS BELOW AND DOT ABOVEzrHAMZA ABOVEzrSMALL NOON ABOVEpUq FINAL FORMrISOLATED FORMoZAH",
   "r FINAL FORMsINITIAL FORMtSOLATED FORMsMEDIAL FORMqINs FINAL FORMtISOLATED FORM",
   "tWITH INVERTED V ABOVEiIGATURE AIN WITH ALEF MAKSURA FINAL FORMznISOLATED FORM",
   "zJEEM INITIAL FORMzgSOLATED FORMzfWITH MEEM FINAL FORMzpINITIAL FORMzMEEM INITIAL FORM",
   "zgSOLATED FORMzfWITH ALEF MAKSURA FINAL FORMzkMEEM FINAL FORMzpINITIAL FORMzkYEH FINAL FORM",
   "zYEH FINAL FORMzeISOLATED FORMrKBAR ISOLATED FORMrLAYHAA AS-SALAAMvE ISOLATED FORMvI AS-SALAAM",
   "zgTU WAS-SALAAMwM AS-SALAAMxAA AS-SALAAMsEF MAKSURA WITH SUPERSCRIPT ALEF FINAL FORM",
   "zzbISOLATED FORMvWITH FATHATAN FINAL FORMzkISOLATED FORMsLAH ISOLATED FORMrZZA WA JALL",
   "qBEH WITH ALEF MAKSURA FINAL FORMznISOLATED FORMzHAH INITIAL FORMzfSOLATED FORM",
   "zeWITH YEH FINAL FORMzbEH INITIAL FORMzeMEDIAL FORMzJEEM INITIAL FORMzgSOLATED FORM",
   "zKHAH INITIAL FORMzgSOLATED FORMzfWITH YEH FINAL FORMzMEEM FINAL FORMzfINITIAL FORM",
   "zgSOLATED FORMzfMEDIAL FORMzNOON FINAL FORMzREH FINAL FORMzYEH FINAL FORMzeISOLATED FORM",
   "zZAIN FINAL FORMrISMILLAH AR-RAHMAN AR-RAHEEMqDAD WITH ALEF MAKSURA FINAL FORMznISOLATED FORM",
   "zHAH INITIAL FORMzfSOLATED FORMzeWITH ALEF MAKSURA FINAL FORMzjYEH FINAL FORM",
   "zJEEM INITIAL FORMzgSOLATED FORMzKHAH INITIAL FORMzgSOLATED FORMzfWITH MEEM FINAL FORM",
   "zpINITIAL FORMzMEEM INITIAL FORMzgSOLATED FORMzREH FINAL FORMzeISOLATED FORMzYEH FINAL FORM",
   "zeISOLATED FORMqFEH WITH ALEF MAKSURA FINAL FORMznISOLATED FORMzHAH INITIAL FORMzfSOLATED FORM",
   "zJEEM INITIAL FORMzgSOLATED FORMzKHAH INITIAL FORMzgSOLATED FORMzfWITH MEEM FINAL FORM",
   "zpINITIAL FORMzMEEM INITIAL FORMzgSOLATED FORMzfWITH YEH FINAL FORMzYEH FINAL FORM",
   "zeISOLATED FORMqGHAIN WITH ALEF MAKSURA FINAL FORMzpISOLATED FORMzcJEEM INITIAL FORM",
   "ziSOLATED FORMzcMEEM INITIAL FORMziSOLATED FORMzhWITH ALEF MAKSURA FINAL FORMzmMEEM FINAL FORM",
   "zmYEH FINAL FORMzcYEH FINAL FORMzgISOLATED FORMqHAH WITH ALEF MAKSURA FINAL FORM",
   "znISOLATED FORMzJEEM INITIAL FORMzgSOLATED FORMzfWITH YEH FINAL FORMzMEEM INITIAL FORM",
   "zgSOLATED FORMzfWITH ALEF MAKSURA FINAL FORMzkYEH FINAL FORMzYEH FINAL FORMzeISOLATED FORM",
   "rEH WITH ALEF MAKSURA ISOLATED FORMzJEEM INITIAL FORMzgSOLATED FORMzMEEM INITIAL FORM",
   "zgSOLATED FORMzfWITH JEEM INITIAL FORMzkMEEM INITIAL FORMzSUPERSCRIPT ALEF INITIAL FORM",
   "zYEH ISOLATED FORMqJALLAJALALOUHOUrEEM WITH ALEF MAKSURA FINAL FORMzoISOLATED FORM",
   "zbHAH INITIAL FORMzgSOLATED FORMzfWITH ALEF MAKSURA FINAL FORMzkYEH FINAL FORM",
   "zbMEEM INITIAL FORMzhSOLATED FORMzgWITH ALEF MAKSURA FINAL FORMzlHAH FINAL FORMzpINITIAL FORM",
   "zlYEH FINAL FORMzbYEH FINAL FORMzfISOLATED FORMqKAF WITH ALEF FINAL FORMzfISOLATED FORM",
   "zfMAKSURA FINAL FORMznISOLATED FORMzHAH INITIAL FORMzfSOLATED FORMzJEEM INITIAL FORM",
   "zgSOLATED FORMzKHAH INITIAL FORMzgSOLATED FORMzLAM FINAL FORMzeINITIAL FORMzfSOLATED FORM",
   "zeMEDIAL FORMzMEEM FINAL FORMzfINITIAL FORMzgSOLATED FORMzfMEDIAL FORMzfWITH MEEM FINAL FORM",
   "zpINITIAL FORMzkYEH FINAL FORMzYEH FINAL FORMzeISOLATED FORMrHAH WITH ALEF MAKSURA FINAL FORM",
   "zoISOLATED FORMzbHAH ISOLATED FORMzbJEEM INITIAL FORMzhSOLATED FORMzbMEEM INITIAL FORM",
   "zhSOLATED FORMzbYEH FINAL FORMzfISOLATED FORMqLAM WITH ALEF FINAL FORMzfISOLATED FORM",
   "zfMAKSURA FINAL FORMznISOLATED FORMzfWITH HAMZA ABOVE FINAL FORMzwISOLATED FORM",
   "zqBELOW FINAL FORMzwISOLATED FORMzkMADDA ABOVE FINAL FORMzwISOLATED FORMzHAH INITIAL FORM",
   "zfSOLATED FORMzeWITH ALEF MAKSURA FINAL FORMzjMEEM FINAL FORMzoINITIAL FORMzjYEH FINAL FORM",
   "zbEH INITIAL FORMzJEEM INITIAL FORMzgSOLATED FORMzfWITH JEEM FINAL FORMzpINITIAL FORM",
   "zkMEEM FINAL FORMzpINITIAL FORMzkYEH FINAL FORMzKHAH INITIAL FORMzgSOLATED FORM",
   "zfWITH MEEM FINAL FORMzpINITIAL FORMzMEEM FINAL FORMzfINITIAL FORMzgSOLATED FORMzfMEDIAL FORM",
   "zfWITH HAH FINAL FORMzoINITIAL FORMzkYEH FINAL FORMzYEH FINAL FORMzeISOLATED FORM",
   "qMEEM WITH ALEF FINAL FORMzgMAKSURA ISOLATED FORMzbHAH INITIAL FORMzgSOLATED FORM",
   "zfWITH JEEM INITIAL FORMzkMEEM INITIAL FORMzkYEH FINAL FORMzbJEEM INITIAL FORMzhSOLATED FORM",
   "zgWITH HAH INITIAL FORMzlKHAH INITIAL FORMzlMEEM INITIAL FORMzlYEH FINAL FORM",
   "zbKHAH INITIAL FORMzhSOLATED FORMzgWITH JEEM INITIAL FORMzlMEEM INITIAL FORMzlYEH FINAL FORM",
   "zbMEEM FINAL FORMzgINITIAL FORMzhSOLATED FORMzgWITH YEH FINAL FORMzbYEH ISOLATED FORM",
   "rOHAMMAD ISOLATED FORMqNOON WITH ALEF MAKSURA FINAL FORMzoISOLATED FORMzbHAH INITIAL FORM",
   "zgSOLATED FORMzfWITH ALEF MAKSURA FINAL FORMzkMEEM INITIAL FORMzkYEH FINAL FORM",
   "zcEH INITIAL FORMzfMEDIAL FORMzbJEEM INITIAL FORMzhSOLATED FORMzgWITH ALEF MAKSURA FINAL FORM",
   "zlHAH FINAL FORMzpINITIAL FORMzlMEEM FINAL FORMzqINITIAL FORMzlYEH FINAL FORM",
   "zbKHAH INITIAL FORMzhSOLATED FORMzbMEEM FINAL FORMzgINITIAL FORMzhSOLATED FORMzgMEDIAL FORM",
   "zgWITH ALEF MAKSURA FINAL FORMzlYEH FINAL FORMzbNOON FINAL FORMzbREH FINAL FORM",
   "zbYEH FINAL FORMzfISOLATED FORMzbZAIN FINAL FORMqQAF WITH ALEF MAKSURA FINAL FORM",
   "znISOLATED FORMzHAH INITIAL FORMzfSOLATED FORMzMEEM INITIAL FORMzgSOLATED FORM",
   "zfWITH HAH FINAL FORMzoINITIAL FORMzkMEEM FINAL FORMzkYEH FINAL FORMzYEH FINAL FORM",
   "zeISOLATED FORMsLA USED AS KORANIC STOP SIGN ISOLATED FORMrUDDISA SIRRAHqRADI ALLAAHU ANHzhAA",
   "zhUMzjAAziNNAsHIMAHU ALLAAHyM ALLAAHsSOUL ISOLATED FORMrEH WITH SUPERSCRIPT ALEF ISOLATED FORM",
   "qSAD WITH ALEF MAKSURA FINAL FORMznISOLATED FORMzHAH INITIAL FORMzfSOLATED FORM",
   "zeWITH HAH FINAL FORMznINITIAL FORMzjYEH FINAL FORMzKHAH INITIAL FORMzMEEM INITIAL FORM",
   "zgSOLATED FORMzfWITH MEEM FINAL FORMzpINITIAL FORMzREH FINAL FORMzeISOLATED FORM",
   "zYEH FINAL FORMzeISOLATED FORMsLAAMUHU ALAYNAAuM ISOLATED FORMtLA ISOLATED FORM",
   "wUSED AS KORANIC STOP SIGN ISOLATED FORMvLLAAHU ALAYHI WA-AALIHyHOU ALAYHE WASALLAM",
   "zU ALAYHI WAAALIHEE WA-SALLAMrEEN WITH ALEF MAKSURA FINAL FORMzoISOLATED FORM",
   "zbHAH INITIAL FORMzgSOLATED FORMzfMEDIAL FORMzfWITH JEEM INITIAL FORMzcEH INITIAL FORM",
   "zfMEDIAL FORMzbJEEM INITIAL FORMzhSOLATED FORMzgMEDIAL FORMzgWITH ALEF MAKSURA FINAL FORM",
   "zlHAH INITIAL FORMzbKHAH INITIAL FORMzhSOLATED FORMzgMEDIAL FORMzgWITH ALEF MAKSURA FINAL FORM",
   "zlYEH FINAL FORMzbMEEM INITIAL FORMzhSOLATED FORMzgMEDIAL FORMzgWITH HAH FINAL FORM",
   "zpINITIAL FORMzlJEEM INITIAL FORMzlMEEM FINAL FORMzqINITIAL FORMzbREH FINAL FORM",
   "zfISOLATED FORMzbYEH FINAL FORMzfISOLATED FORMrHADDA WITH DAMMA ISOLATED FORMzjMEDIAL FORM",
   "ziTAN ISOLATED FORMzdFATHA ISOLATED FORMzjMEDIAL FORMzdKASRA ISOLATED FORMzjMEDIAL FORM",
   "ziTAN ISOLATED FORMzdSUPERSCRIPT ALEF ISOLATED FORMsEEN WITH ALEF MAKSURA FINAL FORM",
   "zpISOLATED FORMzcHAH FINAL FORMzgINITIAL FORMzhSOLATED FORMzgMEDIAL FORMzgWITH MEEM FINAL FORM",
   "zqINITIAL FORMzlYEH FINAL FORMzdEH INITIAL FORMzgMEDIAL FORMzcJEEM FINAL FORMzhINITIAL FORM",
   "ziSOLATED FORMzhMEDIAL FORMzhWITH YEH FINAL FORMzcKHAH FINAL FORMzhINITIAL FORMziSOLATED FORM",
   "zhMEDIAL FORMzcMEEM FINAL FORMzhINITIAL FORMziSOLATED FORMzhMEDIAL FORMzhWITH KHAH FINAL FORM",
   "zrINITIAL FORMzmMEEM FINAL FORMzrINITIAL FORMzcREH FINAL FORMzgISOLATED FORMzcYEH FINAL FORM",
   "zgISOLATED FORMrUBHAANAHU WA TAAALAAqTABAARAKA WA-TAAALAAsH WITH ALEF MAKSURA FINAL FORM",
   "znISOLATED FORMzHAH INITIAL FORMzfSOLATED FORMzMEEM INITIAL FORMzgSOLATED FORMzfMEDIAL FORM",
   "zfWITH HAH FINAL FORMzoINITIAL FORMzkMEEM INITIAL FORMzkYEH FINAL FORMzYEH FINAL FORM",
   "zeISOLATED FORMrEH WITH ALEF MAKSURA FINAL FORMznISOLATED FORMzHAH INITIAL FORMzfSOLATED FORM",
   "zeWITH JEEM FINAL FORMzoINITIAL FORMzjMEEM INITIAL FORMzbEH INITIAL FORMzeMEDIAL FORM",
   "zJEEM INITIAL FORMzgSOLATED FORMzfWITH ALEF MAKSURA FINAL FORMzkMEEM INITIAL FORM",
   "zkYEH FINAL FORMzKHAH INITIAL FORMzgSOLATED FORMzfWITH ALEF MAKSURA FINAL FORM",
   "zkMEEM INITIAL FORMzkYEH FINAL FORMzMEEM FINAL FORMzfINITIAL FORMzgSOLATED FORMzfMEDIAL FORM",
   "zfWITH ALEF MAKSURA FINAL FORMzkHAH INITIAL FORMzkJEEM INITIAL FORMzkKHAH INITIAL FORM",
   "zkYEH FINAL FORMzNOON FINAL FORMzREH FINAL FORMzYEH FINAL FORMzeISOLATED FORMzZAIN FINAL FORM",
   "rHAL WITH SUPERSCRIPT ALEF ISOLATED FORMsEH WITH ALEF MAKSURA FINAL FORMzoISOLATED FORM",
   "zbHEH MEDIAL FORMzbJEEM ISOLATED FORMzbMEEM FINAL FORMzgINITIAL FORMzhSOLATED FORM",
   "zgMEDIAL FORMzbNOON FINAL FORMzbREH FINAL FORMzbYEH FINAL FORMzfISOLATED FORMzbZAIN FINAL FORM",
   "qUIGHUR KIRGHIZ YEH WITH HAMZA ABOVE WITH ALEF MAKSURA FINAL FORMzzuINITIAL FORM",
   "zzvSOLATED FORMqWASALLAM ISOLATED FORMqYEH WITH ALEF MAKSURA FINAL FORMznISOLATED FORM",
   "zHAH INITIAL FORMzfSOLATED FORMzeWITH YEH FINAL FORMzcMZA ABOVE WITH AE FINAL FORM",
   "zuISOLATED FORMzsLEF FINAL FORMzwISOLATED FORMzwMAKSURA FINAL FORMzzfISOLATED FORM",
   "zrE FINAL FORMztINITIAL FORMzuSOLATED FORMzrHAH INITIAL FORMzwSOLATED FORMzsEH INITIAL FORM",
   "zvMEDIAL FORMzrJEEM INITIAL FORMzxSOLATED FORMzrKHAH INITIAL FORMzrMEEM FINAL FORM",
   "zwINITIAL FORMzxSOLATED FORMzwMEDIAL FORMzrNOON FINAL FORMzrOE FINAL FORMzuISOLATED FORM",
   "zrREH FINAL FORMzrU FINAL FORMztISOLATED FORMzrWAW FINAL FORMzvISOLATED FORMzrYEH FINAL FORM",
   "zvISOLATED FORMzsU FINAL FORMzuISOLATED FORMzrZAIN FINAL FORMzbEH INITIAL FORMzeMEDIAL FORM",
   "zJEEM INITIAL FORMzgSOLATED FORMzfWITH YEH FINAL FORMzKHAH INITIAL FORMzgSOLATED FORM",
   "zMEEM FINAL FORMzfINITIAL FORMzgSOLATED FORMzfMEDIAL FORMzfWITH MEEM FINAL FORMzpINITIAL FORM",
   "zkYEH FINAL FORMzNOON FINAL FORMzREH FINAL FORMzYEH FINAL FORMzeISOLATED FORMzZAIN FINAL FORM",
   "qZAH WITH MEEM INITIAL FORMzgSOLATED FORMzfMEDIAL FORMhMADDA WAAJIBmH ABOVEjRK NOON GHUNNA",
   "mSIDEWAYS NOON GHUNNAjTHEMATICAL AINvLEFuBEHuDADwLvOTLESS BEHzdFEHzdNOONzdQAFwUBLE-STRUCK AIN",
   "zjBEHzjDADzlLzjFEHzjGHAINzjHAHzjJEEMzjKHAHzjLAMzjMEEMzjNOONzjQAFzjREHzjSADzkEENzkHEENzjTAHzkEH",
   "zkHALzlEHzjWAWzjYEHzjZAHzlINuFEHuGHAINuHAHuINITIAL AINzdBEHzdDADzdFEHzdGHAINzdHAHzeEHzdJEEM",
   "zdKAFzeHAHzdLAMzdMEEMzdNOONzdQAFzdSADzeEENzeHEENzdTEHzeHEHzdYEHuJEEMuKAFvHAHuLAMvOOPED AIN",
   "zdLEFzcBEHzcDADzeLzcFEHzcGHAINzcHAHzdEHzcJEEMzcKHAHzcLAMzcMEEMzcNOONzcQAFzcREHzcSADzdEENzdHEEN",
   "zcTAHzdEHzdHALzeEHzcWAWzcYEHzcZAHzeINuMEEMuNOONuOPERATOR HAH WITH DAL",
   "zeMEEM WITH HAH WITH TATWEELuQAFuREHuSADvEENvHEENvTRETCHED AINzfBEHzfDADzgOTLESS BEHznFEHzfFEH",
   "zfGHAINzfHAHzgEHzfJEEMzfKAFzgHAHzfMEEMzfNOONzfQAFzfSADzgEENzgHEENzfTAHzgEHzgHEHzfYEHzfZAHuTAH",
   "wILED AINzcDADzdOTLESS NOONzkQAFzcGHAINzcHAHzcJEEMzcKHAHzcLAMzcNOONzcQAFzcSADzdEENzdHEENzcYEH",
   "vEHvHALwEHuWAWuYEHuZAHwINhNUMBER MARK ABOVEoSIGNhOPEN DAMMATANmFATHATANmKASRATANhPERCENT SIGN",
   "iIASTRE MARK ABOVEiLACE OF SAJDAHiOETIC VERSE SIGNjUND MARK ABOVEhQUESTION MARK",
   "hRAISED ROUND DOTjYiEVERSED DAMMAiIGHT ARROWHEAD ABOVEzd WITH DOTxBELOW",
   "iOUNDED HIGH STOP WITH FILLED CENTREhSEMICOLONiHADDAn ISOLATED FORMoMEDIAL FORM",
   "iIGN ALAYHE ASSALLAMmMISRAmRADI ALLAHOU ANHUoHMATULLAH ALAYHEmSAFHAoLLALLAHOU ALAYHE WASSALLAM",
   "oMVAToNAHnINDHI AMPERSANDtPOSTPOSITION MENmTAKHALLUSiMALL DAMMAnFARSI YEHpTHAnHIGH AIN",
   "sDOTLESS HEAD OF KHAHsFARSI YEHtOOTNOTE MARKERsJEEMsLAM ALEFtIGATURE ALEF WITH LAM WITH YEH",
   "zcQAF WITH LAM WITH ALEF MAKSURAzcSAD WITH LAM WITH ALEF MAKSURAsMADDAtEEM INITIAL FORM",
   "ySOLATED FORMsNOONw WITH KASRAsQAFsROUNDED ZEROsSADtEENtIGN SAFHAsTAHtHREE DOTS",
   "sUPRIGHT RECTANGULAR ZEROsWAWtORD AL-JUZyN-NISFyR-RUByS-SAJDAyTH-THALATHAxQIFxSAHzKTAxWAQFA",
   "sYEHv BARREE WITH TWO DOTS BELOWsZAHuINnKASRAnLOW MEEMrNOON WITH KASRArSEENrWAWsORD IMAALA",
   "xSHMAAMwTASHEELnWAWnYEHiTART OF RUB EL HIZBiUBSCRIPT ALEFjKUNm BELOWnISOLATED FORMnMEDIAL FORM",
   "jPERSCRIPT ALEF MOKHASSASiYMBOL DOT ABOVEsBELOWqUBLE VERTICAL BAR BELOWoFOUR DOTS ABOVEyBELOW",
   "oRINGoSMALL TAH ABOVEyBELOWoTHREE DOTS ABOVEzBELOWzPOINTING DOWNWARDS ABOVEztBELOW",
   "pWO DOTS ABOVExBELOWxVERTICALLY ABOVEzjBELOWoWASLA ABOVEhTAIL FRAGMENTjTWEEL",
   "o WITH FATHATAN ABOVEuOVERSTRUCK HAMZAzgWAWuTWO DOTS BELOWiHOUSANDS SEPARATORiONE LOOP ABOVE",
   "rBELOWmONE DOT ABOVEuBELOWmTWO DOTS ABOVEvBELOWiRIPLE DOT PUNCTUATION MARKiURNED DAMMA BELOW",
   "hVERTICAL TAILiOWEL SIGN DOT BELOWsINVERTED SMALL V ABOVEsSMALL V ABOVEhWAVY HAMZA BELOW",
   "hZWARAKAYg-INDIC CUBE ROOTnDIGIT EIGHTtFIVEuOURtNINEtONEtSEVENuIXtTHREEuWOtZEROnFOURTH ROOT",
   "nPER MILLE SIGNrTEN THOUSAND SIGNcCcIEScMENIAN ABBREVIATION MARKkPOSTROPHEjCAPITAL LETTER AYB",
   "yBENyCAzHAzbEHzOyDAyECHzHzTyFEHyGHADzIMyHOyINIyJAzHEHyKEHzbNyLIWNyMENyNOWyOHyPEHzIWRyRAzEHySEH",
   "zHAyTIWNzOyVEWzOyXEHyYIzbWNyZAzHEkOMMAjDRAM SIGNjEMPHASIS MARKkXCLAMATION MARKjFULL STOP",
   "jHYPHENjMODIFIER LETTER LEFT HALF RINGjQUESTION MARKjSMALL LETTER AYBwBENwCAxHAyEHxOwDAwECHxH",
   "xTwFEHwGHADxIMwHOwINIwJAxHEHwKEHyNwLIWNwMENwNOWwOHwPEHxIWRwRAxEHwSEHxHAwTIWNxOxURNED AYBwVEWxO",
   "wXEHwYIy WITH STROKEyWNwZAxHEqIGATURE ECH YIWNyMEN ECHzdINIzdNOWzdXEHyVEW NOW",
   "cROW POINTING DOWNWARDS THEN CURVING LEFTWARDSznRIGHTWARDSpRIGHTWARDS THEN CURVING DOWNWARDS",
   "zoSOUTH WESTzoUPWARDSpUPWARDS THEN NORTH WESTfHEAD-SHAPED POINTERcTICULATED LORRYeST PALETTE",
   "bSCENDING NODEdIA SYMBOLcSERTIONcTERISKi OPERATORhMdONISHED FACEdRAEA",
   "eONOMICAL SYMBOL FOR URANUScYMPTOTICALLY EQUAL TObTHLETIC SHOEcOM SYMBOLbUBERGINEcSTRAL SIGN",
   "cTO RICKSHAWeMATED TELLER MACHINEfOBILEbVESTAN ABBREVIATION MARKiLETTER AqArNrOqErEqNqOpBEqHE",
   "pCEpDEqHEpEqEpFEpGEqGEqHEpHEqMEpIqIpJEpKEpLEpMEpNEqGErVErYEqNEqYEpOqOpPEpREpSEqHErYEqSHEpTEqHE",
   "qTEpUqUpVEpXEqVEqYEpYEqYEpZEqHEcOCADObXEaBABYe ANGELfBOTTLEfCHICKfSYMBOLcCK OF ENVELOPE",
   "fWITH LEFTWARDS ARROW ABOVEe-TILTED SHADOWED WHITE RIGHTWARDS ARROW",
   "eSLANTED SOUTH ARROW WITH HOOKED TAILzgRIZONTAL TAILfPACEdONdTRIAN CAMELcDGER",
   "dMINTON RACQUET AND SHUTTLECOCKcGELdGAGE CLAIMdUETTE BREADcLINESE ADEG ADEGjCARIK PAMUNGKAH",
   "rRERENpSIKIjDIGIT EIGHTpFIVEqOURpNINEpONEpSEVENqIXpTHREEqWOpZEROjLETTER AIKARArKARAv TEDUNG",
   "rRCHAIC JNYArSYURA SASAKqBAs KEMBANGqCAs LACAqDAs MADUuURDA ALPAPRANAzMAHAPRANAqEF SASAKrKARA",
   "qGAs GORAqHAqIKARAv TEDUNGqJAs JERAqKAs MAHAPRANAsF SASAKrHOT SASAKqLAs LENGAy TEDUNGqMAqNA",
   "s RAMBATrGArYAqOKARAv TEDUNGqPAs KAPALqRAs REPAx TEDUNGqSAs SAGAvPAqTAs LATIKtMURDA MAHAPRANA",
   "tTAWArZIR SASAKqUKARAv TEDUNGqVE SASAKqWAqYAqZAL SASAKjMUSICAL SYMBOL COMBINING BENDEzjENDEP",
   "zjGONGzjJEGOGANzjKEMPLIzp WITH JEGOGANznULzp WITH JEGOGANzjTEGEHyDAENGzbINGzbNGzd GEDEzeSURANG",
   "zENGzbUNGzINGzONGzUNGyLEFT-HAND CLOSED PLAKzsUKzjOPEN PANGzpINGzpUNGyRIGHT-HAND CLOSED TAKzsUK",
   "zkOPEN DAGzqUGjPAMADAp LANTANGmENENGlNTIo LANTANGjSIGN BISAHoCECEKoREREKANoSURANGoULU CANDRA",
   "sRICEMjVOWEL SIGN LA LENGAzd TEDUNGuPEPETz TEDUNGuRA REPAzc TEDUNGuSUKUy ILUTuTALINGzb REPA",
   "zg TEDUNGzcTEDUNGvEDUNGuULUx SARIjWINDUdL OF YARNeET SHOESeOONh-SPOKED ASTERISK",
   "fT BOLD SCRIPT XjXk WITH BALLOTrOLD CHECKvSCRIPT XqCHECKqLIGHT XqSCRIPT XqXhSCRIPT XhX",
   "cMUM COLONiMBINING MARK KOQNDONvTUKWENTISjMAgFULL STOPgLETTER AnEEnFAAMAEoEEoOMoUnInKAoENpTpUX",
   "oIoOpGHOMpVUUoPAoUoYEEnLAoEEEEoIoOQoUnMoAoBAApENoEEEEpNoIoOoUnNAoDAAoGApGApKWAENoIoJAEMpEEpUAE",
   "oSHAoTEEpUUoUpAEoYInOnPAoEEpUXoHASE-A FIRIvGBIEE FONwHEUAEGHEUAEzcRAEvKAFAxQwETxUKEUTNDAwPOQ",
   "wUOQvLAPAQwET KUTwOMMAEwUxAEPvMAEKEUPyMzBGBIEEzKPENzVEUXyNYIySIxNSUAExP PIEETwBANYIyQ",
   "wEUNJOMNDEUQwGBASAwON NGGEUAETxOMEUTzPUQwVEUAENGAMvNAA MFONxQwDA LEERAEWAyANGGEUAETwENwGANGU",
   "xGENxKUE MFONzbNZEUMwIKAwJAMwKAARAExINDIwSHAyIEEwTAPz MFAAzbNTAAxOQPENwYETxIyT MONGKEUAEQ",
   "wZA MFONxUN MEUTvPA LEERAEWAxAMyRAExMSHAExSHAEwETwON MFON PIPAEMBAzlGBIEEzPA NJI PIPAEMBA",
   "znGBIEEwUPvROMvSEUNYAMwHINDA PA NJIyRAExOQ NSHUT YUMxUENSHUETyMwISAwONJAMxQxTwUUvTEUAENyTEUWEN",
   "wITA MFONwU MAEMBAxAEPvU YUQ NAEwNKNOWNvVEEtB FEExUXvGHEUGHENzdUAEMvKAMwEUAEMyPUQyYEUXwIEEMxQ",
   "vLAANAExM NSHUT NYAMwETwOM NTEUMvMAx NJEUAENAzbUQAwBA MAELEEyARAExEURIxIT MBAAKETxUOQwEUQ",
   "yT NGGEETwFIYAQxON TEUAEQwONTIEENvNDU NJAAwGGAAMyEU MBUyUOQzc LARGExKINDI MVOPxOMwSENxHUET",
   "wTIEE SHEUOQwYAEMAExI NTEUMvPARUMwEESHIwITwUNGAAMvSAKEUAEwET TUwHET NJAQyUAEQTUwIEEwUEvTAAM",
   "wU MAEMGBIEEyNSIEEvVEUMvWUAETvYAFU LEERAEWAwEURAEtC BUNGvFUEvGBAYIwHAPyRAEvKAAwEN FATIGUEzLAW",
   "xTxUKAQyMySEUXzHEUAEPwPARAQwUOP NKAARAExTvLAMxPwIQwUvMA KEUAERIyNSIEExEMBAySIwBAA CABBAGE-TREE",
   "zbPICKETyNYIxEEKEETyRAEyUMzXxIyRIEENyTxUAEMyEwGBASAQwIEEwUAEvNANSANAQxQwDAMyPxEUAEREEzTxIDA",
   "xOMBUwGAQxGENyUzAEN NYAMzEETzMzONxKAQyUE MAEMBAxOMwJAEMyMxEEEEyUXxUEQwSAxEUAENxHAQxOMxUN",
   "yOT NGOMwTAAxENyUNGBAxU MBITwYIR MKPARAQ MEUNwZAxEUMvPENwINxRIEENvRUvSETFONxUXwHIQxUEQwUAET",
   "vTAASHAEwETxUTEUXwITA YUEyUAEPvVEUAEPENyXvWANGKUOQwUPvYAAwEUQwU MUOMAExMxWOQtD FAAwEUFEUAET",
   "vGHAAxEUAEvKETxUAETMEUNyMyOT MBUAEyPwUxNxOMxQwWAETwYEEvLEEEExTxUAEPyMwIEEwOQwUMvMwAENJETxLEERI",
   "wBAAz SEVENxUOwEEEExUNyTwFEUAEzTxIEExOyNwGBEUNyIEEyOFUMwONIwUwVOPvNDAMxEEyUXxONwGGAAMzcAEzP",
   "yEUXyUOMyWAENxKAPyEUAEQzbRIyIEEyUNyYEEwIwJAPxEUAEMzTxIyEExUEQwSHEEyUTxIEEPzbTxUMwTEEyUMxUUwU",
   "wYAMxETxIxUEvPAPwEExUTAEwIPwUQxUTvRAEMwEN MUCHzOLDwIIvSAPxQwEUAEQwHEEyUAEzXxIIxOQxUwOTwUAExExU",
   "vTAEwEEEExUAENyNyTwIwOQwUxOTvWAPwUAENvYAEMMAEwENwUOMyPxWOQtE AvFAxQwEEwOMwU CALLyIyREMEDYxEyT",
   "vGBETyUXwHAAMAExETyUAEzNzXxOMvIvKETxUAEyXwIwOwPEUXwUETxOPxTvLAAMxPxQwEUAEMwOMxONyTxQwUvMAxEyM",
   "xPxQwBEEyUMwENwFEUQwGBAyENwIxEEwONwUAEwVIvNAxEwDAA MY HOUSEzbSOFTNESSyPxIAQyQxUNwGAxEUREUT",
   "xGEEEEzUAEzdTyUAESHAE NYAMzPzRAExKAzAMIyEUAEMzbXyUMzPxOPyQxUAEzbTwJAEMLIxEEz EPOCHyUXwKOM",
   "wSHIEEyUEzOPwTAPxUMwYI BETWEENzCLEAVERwZAQxUQvOvPA PEOPLEzLURALxAyMwEEMxUTyXwIxEEQyTwOxONwUxAE",
   "yQxExMvRAExQwEUXwIMGBAvSAAwEExTwHEUAEQxIQxOyQwOMwUAENvTAAyQxEN NTEUMxMxQwENxUyAEQwOOyNxQwUAExM",
   "yAEvVEExUAEwOMvWEUXwUExOvYAPwEUAEzbTyMyXwIEExTwOQ COVERzSWIMMINGwUAENxEQxNxQtF EEvFOMvKAwENxT",
   "wOwPAwUwYEEvLAwIwOQvMwAwBAAxENwEEEEwOvNDAAwGGAxKWAENwIwJAEMxUAEwSHAwTEEwUxAEwYIvPEExUXwUAEvREE",
   "xNxUXwIEExIwUvSAMBAwEUXwHIIxOxUwIwUUvTAAxEwETvUvVUEQvWAwUEvYAwOQoIoUAEpEnRAEoEEpNpUXoIEEpIoU",
   "nSAMBAoEUXoHEUXpIIpOpUoIoUUnTAApEoENpToInUnWAoUEnYAoOQoUQgNJAEMLIgQUESTION MARKgSEMICOLONcNANA",
   "dJOdKeNOTE WITH DOLLAR SIGNoEURO SIGNoPOUND SIGNoYEN SIGNcR CHARTeOF SOAPdBER POLEcSEBALLdKET",
   "gBALL AND HOOPdSA VAH COMBINING HIGH TONEy-LOW TONEuLOW TONEx-MID TONEuMID TONEkFULL STOP",
   "kLETTER ArBArCErDHIIsOrEsEsNNIrFArGAHsBUrHWAHrIrJOrKAsPAHrMBErOsOrPArSErTOrUsWUrVUrWAtDDArYEIN",
   "sIErZOcTdAK CONSONANT SIGN HvNGgLETTER AnBAnCAnDAnGAnHAnInJAnKARO BAnLAnMApNDAILING HAyNAySA",
   "oBAnNAoDAoGAoORTHERN TAoYAnPApKPAK WAnRAnSAoIMALUNGUN AyGAyHAyLAyMAyPAyRAySAyWAyYAoOUTHERN TA",
   "nUnWAnYAgPANGOLATjONGONANgSIGN TOMPIhYMBOL BINDU JUDULtNA METEKtPANGOLATuINARBORAS",
   "gVOWEL SIGN EsErIrKARO IwOrOrPAKPAK ErUs FOR SIMALUNGUN SAdHeTUBdTERYbEACH WITH UMBRELLA",
   "dMED ASCENDING MUSICAL NOTEShDESCENDING MUSICAL NOTEShEIGHTH NOTEShSIXTEENTH NOTESdNSdR FACE",
   "eDED PERSONdTING HEARTdVERcCAUSEcDcER MUGdTLEcLdLe PEPPERfSYMBOLfWITH CANCELLATION STROKE",
   "eHOP BELLcNGALI ABBREVIATION SIGNjNJIjU LENGTH MARKiCURRENCY DENOMINATOR SIXTEEN",
   "rNUMERATOR FOURzcONEzf LESS THAN THE DENOMINATORzcTHREEzdWOiDIGIT EIGHToFIVEpOURoNINEoONE",
   "oSEVENpIXoTHREEpWOoZEROiGANDA MARKiISSHARiLETTER AqAqIqUpBAqHApCAqHApDAqDArHAqHApEpGAqHApHApI",
   "qIpJAqHApKAqHAsNDA TApLApMApNAqGAqNAqYApOpPAqHApRAr WITH LOWER DIAGONALxMIDDLE DIAGONALqHAqRA",
   "pSAqHAqSApTAqHAqTArHApUqUpVEDIC ANUSVARAqOCALIC LyLxRyRpYAqYAiRUPEE MARKoSIGNiSANDHI MARK",
   "jIGN ANUSVARAoVAGRAHAnCANDRABINDUnNUKTAnVIRAMApSARGAiVOWEL SIGN AAuIuUtEtIuItOtUuUtVOCALIC L",
   "zdLzcRzdRdT ARROW POINTING DOWNWARDS THEN NORTH EASTeO BOXdZENE RINGm WITH CIRCLEcT SYMBOL",
   "dWEENcVERAGE BOXbHAIKSUKI DANDAlIGIT EIGHTqFIVErOURqNINEqONEqSEVENrIXqTHREErWOqZERO",
   "lOUBLE DANDAkGAP FILLER-1v2kHUNDREDS UNIT MARKkLETTER AsAsIsUrBAsHArCAsHArDAsDAtHAsHArErGAsHA",
   "rHArIsIrJAsHArKAsHArLArMArNAsGAsNAsYArOrPAsHArRArSAsHAsSArTAsHAsTAtHArUsUrVAsOCALIC LzRzbRrYA",
   "kNUMBER EIGHTwYrFIFTYtVEsORTYtURrNINEvTYrONErSEVENwTYsIXuTYrTENsHIRTYtREEsWENTYtO",
   "kSIGN ANUSVARAqVAGRAHApCANDRABINDUpVIRAMArSARGAkVOWEL SIGN AAwIwUvEvIwIvOvUwUvVOCALIC LzeRzfR",
   "kWORD SEPARATORbICYCLEgISTcG REVERSE SOLIDUSeSOLIDUScKINIcLLED CAPeIARDScOHAZARD SIGNcRD",
   "dTHDAY CAKEcSONcTCOIN SIGNdING LIPbLACK BOWTIEgCENTRE WHITE STARhHESS BISHOP",
   "s ROTATED NINETY DEGREESzcTWO HUNDRED SEVENTY DEGREESmEQUIHOPPERw ROTATED NINETY DEGREESmKING",
   "q ROTATED NINETY DEGREESzTWO HUNDRED SEVENTY DEGREESnNIGHTs ROTATED FORTY-FIVE DEGREES",
   "zcNINETY DEGREESzcONE HUNDRED THIRTY-FIVE DEGREESzcTHREE HUNDRED FIFTEEN DEGREES",
   "zdWO HUNDRED SEVENTY DEGREESzoTWENTY-FIVE DEGREESs-BISHOPtQUEENtROOKmPAWN",
   "q ROTATED NINETY DEGREESzTWO HUNDRED SEVENTY DEGREESmQUEENr ROTATED NINETY DEGREES",
   "zbTWO HUNDRED SEVENTY DEGREESmROOKq ROTATED NINETY DEGREESzTWO HUNDRED SEVENTY DEGREES",
   "mTURNED BISHOPtKINGuNIGHTtPAWNtQUEENtROOKhIRCLEm FOR RECORDnWITH DOWN ARROWsTWO WHITE DOTS",
   "sWHITE DOT RIGHThLUB SUIThROSS ON SHIELDhURVED DOWNWARDS AND LEFTWARDS ARROWzcRIGHTWARDS ARROW",
   "nLEFTWARDS AND DOWNWARDS ARROWzcUPWARDS ARROWnRIGHTWARDS AND DOWNWARDS ARROWzdUPWARDS ARROW",
   "nUPWARDS AND LEFTWARDS ARROWzRIGHTWARDS ARROWgDIAMONDn CENTREDoMINUS WHITE XoON CROSSoSUIT",
   "oWITH DOWN ARROWhOWN POINTING BACKHAND INDEXk-POINTING DOUBLE TRIANGLE",
   "uISOSCELES RIGHT TRIANGLEuSMALL TRIANGLEuTRIANGLEkWARDS EQUILATERAL ARROWHEADhRAUGHTS KINGpMAN",
   "iOPLETgFLAGiORETTEhOLDERiUR POINTED STARgHARD SHELL FLOPPY DISKhEARTl SUITiXAGON",
   "hORIZONTAL ELLIPSEiURGLASSgLARGE CIRCLEmSQUAREhEFT LANE MERGElPOINTING BACKHAND INDEXuINDEX",
   "k-POINTING DOUBLE TRIANGLEzk WITH VERTICAL BARuISOSCELES RIGHT TRIANGLEuPOINTERuSMALL TRIANGLE",
   "uTRIANGLEkWARDS BULLETqEQUILATERAL ARROWHEADhOWER LEFT TRIANGLEmRIGHT TRIANGLEiZENGE",
   "gMEDIUM DIAMONDoOWN-POINTING TRIANGLEzk CENTREDnLEFT-POINTING TRIANGLEzk CENTREDoOZENGE",
   "nRIGHT-POINTING TRIANGLEzl CENTREDnSMALL DIAMONDtLOZENGEtSQUAREoQUAREnUP-POINTING TRIANGLE",
   "zi CENTREDhOON LILITHgNIBgOCTAGONgPARALLELOGRAMhENNANTjTAGONhUSHPINgQUESTION MARK ORNAMENT",
   "gRECTANGLEhIGHT POINTING BACKHAND INDEXvINDEXl-POINTING DOUBLE TRIANGLEzl WITH VERTICAL BAR",
   "vISOSCELES RIGHT TRIANGLEvPENTAGONwOINTERvSMALL TRIANGLEvTRIANGLEze WITH DOUBLE VERTICAL BAR",
   "lWARDS ARROWwHEADrBULLETrEQUILATERAL ARROWHEADhOSETTEgSAFETY SCISSORShCISSORShHOGI PIECE",
   "hKULL AND CROSSBONEShLIGHTLY SMALL CIRCLEvSQUAREhMALL DIAMONDmLOZENGEmSQUAREnTARiILING FACE",
   "hNOWMANhPADE SUIThQUAREm BUTTONnCENTREDnFOR STOPhTARhUN WITH RAYSgTELEPHONEhINY DIAMOND",
   "lLOZENGElSQUAREhOUCHTONE TELEPHONEhRUCKhWO-WAY LEFT WAY TRAFFICgUNIVERSAL RECYCLING SYMBOL",
   "hP POINTING BACKHAND INDEXi-POINTING DOUBLE TRIANGLEsISOSCELES RIGHT TRIANGLEsSMALL TRIANGLE",
   "sTRIANGLEiPER LEFT TRIANGLEmRIGHT TRIANGLEiWARDS EQUILATERAL ARROWHEADgVERTICAL ELLIPSE",
   "pRECTANGLEjY SMALL DIAMONDrLOZENGErSQUAREf-FEATHERED NORTH EAST ARROWqRIGHTWARDS ARROW",
   "qSOUTH EAST ARROWgLETTER CAPITAL CvHvIvRvZdNK SYMBOLcOCK SEXTANT-1p2q3r4s5s6r5s6r6q4r5s6r6q5r6",
   "q6p3q4r5s6r6q56q6p4q5r6q6p5q6p6o2p3q4r5s6r6q5r6q6p4q5r6p5q6p6o3p4q5r6q6p5q6p6o4p5q6p6o5p6o6",
   "dSSOMdWFISHcUE BOOKfHEARTeBERRIESbOARcLD EIGHT SPOKED ASTERISKfFIVE SPOKED ASTERISK",
   "fGREEK CROSSfSALTIREgIX SPOKED ASTERISKfWHITE CIRCLElSQUAREcMdBcNEcOKeMARKi TABSeSdMERANG",
   "cPOMOFO FINAL LETTER GwHwKwPwTjLETTER ArHrIsNNrMrNsGsNrUsNNqBrUqCrHqDqErErHrIrNsGsNrRqFqGrHrN",
   "rUrWqHqIrHrMrNNtNrRrUqJrIqKrWqLrHqMqNrGsGrNqOr WITH DOT ABOVErErMrNGsNrOrUqPqQqRqSrHqTqUrNNqV",
   "qXqZrHrIrYcTTLE WITH POPPING CORKeOM ARC ANTICLOCKWISE ARROWhCURLY BRACKEThHALF BLACK CIRCLE",
   "mINTEGRALmLEFT PARENTHESISmRIGHT PARENTHESIShLEFT CORNERnROPmHALF BRACKEThPARENTHESIS",
   "hRIGHT CORNERoROPnHALF BRACKEThSQUARE BRACKETv OVER TOP SQUARE BRACKEThTORTOISE SHELL BRACKET",
   "cUQUETh OF FLOWERScW AND ARROWdL OF HYGIEIAfWITH SPOONeINGdTIEg WITH LEFT HALF BLACK",
   "mRIGHT HALF BLACKcX DRAWINGS DOUBLE DOWN AND HORIZONTALzeLEFTzeRIGHTuHORIZONTAL",
   "uUP AND HORIZONTALzcLEFTzcRIGHTuVERTICALzd AND HORIZONTALziLEFTziRIGHT",
   "pWN DOUBLE AND HORIZONTAL SINGLEzeLEFT SINGLEzeRIGHT SINGLEsHEAVY AND HORIZONTAL LIGHT",
   "zdLEFT LIGHTziUP LIGHTzdRIGHT LIGHTzjUP LIGHTzdUP HORIZONTAL LIGHTsLIGHT AND HORIZONTAL HEAVY",
   "zdLEFT HEAVYziUP HEAVYzdRIGHT HEAVYzjUP HEAVYzdUP HORIZONTAL HEAVY",
   "sSINGLE AND HORIZONTAL DOUBLEzeLEFT DOUBLEzeRIGHT DOUBLEnHEAVY DOUBLE DASH HORIZONTAL",
   "zgVERTICALvWNx AND HORIZONTALzdLEFTzdRIGHTtHORIZONTALtLEFTx AND LIGHT RIGHT",
   "tQUADRUPLE DASH HORIZONTALzjVERTICALtRIGHTtTRIPLE DASH HORIZONTALzgVERTICALtUPv AND HORIZONTAL",
   "zbLEFTzcIGHT DOWNzbRIGHTtVERTICALzc AND HORIZONTALzhLEFTzhRIGHT",
   "nLEFT DOWN HEAVY AND RIGHT UP LIGHTsHEAVY AND RIGHT DOWN LIGHTzjUP LIGHTzjVERTICAL LIGHT",
   "sLIGHT AND RIGHT DOWN HEAVYzjUP HEAVYzjVERTICAL HEAVYsUP HEAVY AND RIGHT DOWN LIGHT",
   "oIGHT ARC DOWN AND LEFTzhRIGHTxUP AND LEFTzfRIGHTtDIAGONAL CROSSzdDIAMOND",
   "zdMIDDLE LEFT TO LOWER CENTREzzf TO MIDDLE RIGHTzsUPPER CENTRE TO MIDDLE RIGHT",
   "zzv TO LOWER CENTREzkRIGHT TO LOWER CENTREztUPPER CENTRE TO MIDDLE LEFT TO LOWER CENTRE",
   "zdUPPER CENTRE TO MIDDLE LEFTzzf AND MIDDLE RIGHT TO LOWER CENTREzzgTO LOWER CENTRE",
   "zzv TO MIDDLE RIGHTzzbRIGHTzzg AND MIDDLE LEFT TO LOWER CENTREzzhTO LOWER CENTRE",
   "zzw TO MIDDLE LEFTzjLEFT TO LOWER RIGHTzjRIGHT TO LOWER LEFTuOUBLE DASH HORIZONTALzgVERTICAL",
   "vWNx AND HORIZONTALzdLEFTzdRIGHTtHORIZONTALze WITH VERTICAL STROKEtLEFTx AND HEAVY RIGHT",
   "tQUADRUPLE DASH HORIZONTALzjVERTICALtRIGHTtTRIPLE DASH HORIZONTALzgVERTICALtUPv AND HEAVY DOWN",
   "zcORIZONTALzbLEFTzbRIGHTtVERTICALzc AND HORIZONTALzhLEFTzhRIGHT",
   "nRIGHT DOWN HEAVY AND LEFT UP LIGHTtHEAVY AND LEFT DOWN LIGHTzjUP LIGHTzjVERTICAL LIGHT",
   "tLIGHT AND LEFT DOWN HEAVYzjUP HEAVYzjVERTICAL HEAVYtUP HEAVY AND LEFT DOWN LIGHT",
   "nUP DOUBLE AND HORIZONTAL SINGLEzcLEFT SINGLEzcRIGHT SINGLEqHEAVY AND DOWN HORIZONTAL LIGHT",
   "zbHORIZONTAL LIGHTzbLEFT DOWN LIGHTzgLIGHTzbRIGHT DOWN LIGHTzhLIGHT",
   "qLIGHT AND DOWN HORIZONTAL HEAVYzbHORIZONTAL HEAVYzbLEFT DOWN HEAVYzgHEAVYzbRIGHT DOWN HEAVY",
   "zhHEAVYqSINGLE AND HORIZONTAL DOUBLEzcLEFT DOUBLEzcRIGHT DOUBLE",
   "nVERTICAL DOUBLE AND HORIZONTAL SINGLEziLEFT SINGLEziRIGHT SINGLEwHEAVY AND HORIZONTAL LIGHT",
   "zhLEFT LIGHTzhRIGHT LIGHTwLIGHT AND HORIZONTAL HEAVYzhLEFT HEAVYzhRIGHT HEAVY",
   "wSINGLE AND HORIZONTAL DOUBLEziLEFT DOUBLEziRIGHT DOUBLEdING GLOVEcYdS SYMBOLbPHbRAHMI DANDA",
   "iIGIT EIGHTnFIVEoOURnNINEnONEnSEVENoIXnTHREEoWOnZEROiOUBLE DANDAhLETTER ApApIpUoBApHAoCApHAoDA",
   "pDAqHApHAoEoGApHAoHAoIpIoJApHAoKApHAoLApLAoMAoNApGApNApYAoOpLD TAMIL LLAzbLAyNNNAyRRAySHORT E",
   "zfOoPApHAoRAoSApHApSAoTApHApTAqHAoUpUoVApOCALIC LxLwRxRoYAhNUMBER EIGHTtYoFIFTYqVEpORTYqUR",
   "oJOINERoNINEsTYoONEr HUNDREDsTHOUSANDoSEVENtTYpIXrTYoTENpHIRTYqREEpWENTYqO",
   "hPUNCTUATION CRESCENT BARtDOTvUBLE DOTtLINEuOTUShSIGN ANUSVARAmCANDRABINDUmJIHVAMULIYA",
   "mOLD TAMIL VIRAMAmUPADHMANIYAmVISARGAhVIRAMAiOWEL SIGN AAtItUsBHATTIPROLU AAsEsItIsO",
   "tLD TAMIL SHORT EzjOsUtUsVOCALIC LzcLzbRzcRdILLE PATTERN BLANKqDOTS-1w2x3y4z5zb6zc7zd8zc8zb7",
   "zc8zb8z6zb7zc8zb8z7zb8z8y5z6zb7zc8zb8z7zb8z8y6z7zb8z8y7z8y8x4y5z6zb7zc8zb8z7zb8z8y6z7zb8z8y7z8",
   "y8x5y6z7zb8z8y7z8y8x6y7z8y8x7y8x8w3x4y5z6zb7zc8zb8z7zb8z8y6z7zb8z8y7z8y8x5y6z7zb8z8y7z8y8x6y7",
   "z8y8x7y8x8w4x5y6z7zb8z8y7z8y8x6y7z8y8x7y8x8w5x6y7z8y8x7y8x8w6x7y8x8w7x8w8v2w3x4y5z6zb7zc8zb8z7",
   "zb8z8y6z7zb8z8y7z8y8x5y6z7zb8z8y7z8y8x6y7z8y8x7y8x8w4x5y6z7zb8z8y7z8y8x6y7z8y8x7y8x8w5x6y7z8y8",
   "x7y8x8w6x7y8x8w7x8w8v3w4x5y6z7zb8z8y7z8y8x6y7z8y8x7y8x8w5x6y7z8y8x7y8x8w6x7y8x8w7x8w8v4w5x6y7",
   "z8y8x7y8x8w6x7y8x8w7x8w8v5w6x7y8x8w7x8w8v6w7x8w8v7w8v8eNcEADeK PERMITTED HEREeST-FEEDINGdVE",
   "cICKdDE WITH VEILeGE AT NIGHTdEFCASEfScOCCOLIdKEN BARhCIRCLE WITH NORTHWEST ARROWhHEARTdOM",
   "dWN HEARTbSbUBBLE TEAgScCKETcGdINESE END OF SECTIONjLETTER AqBAqCAqDAqGAqHAqJAqKAqLAqMArPAqNA",
   "rGAsKArRArYAsCAqPAqRAqSAqTAqVAqYAjPALLAWAjVOWEL SIGN AEuEuIuOuUcHID LETTER AnBAnDAnGAnHAnInKA",
   "nLAnMAnNAoGAnPAnRAnSAnTAnUnWAnYAgVOWEL SIGN IrUcILDING CONSTRUCTIONcLLETg OPERATOReHORN",
   "i WITH SOUND WAVESeSEYEcRRITOcSd STOPdT IN SILHOUETTEeS IN SILHOUETTEcTTERgFLYbYTE ORDER MARK",
   "cZANTINE MUSICAL SYMBOL AGOGI ARGIzjOTERIzgGORGIzkOTERIzgMESIziTRIAzgPOLI ARGIzlGORGI",
   "zbNATRICHISMAzcTIKENOKYLISMAziMAzbPESO EKFONITIKONzhXO NEOzcLIzcODERMA ARCHAIONzjNEO",
   "zdSTROFOI SYNDESMOS NEOzlTELOUS ICHIMATOSzjSzk DIPLIzlNEOzdTHEMAzbRGONzeSYNTHETONzcKTIKO DI",
   "ziGAziKEziNIziPAziVOUziZOzCHAMILIzgONzcOREVMA ARCHAIONzjNEOzcROA KLITONzgSPATHIzgZYGOSzDASEIA",
   "zbIARGONzdSTOLI APLI MEGALIzpIKRIzjDIPLIzjTHESEOSzcESIS APLI DYO DODEKATA",
   "zhDIGRAMMOS EX DODEKATAzhMONOGRAMMOS TESSERA DODEKATAzhTETARTIMORIONziRIGRAMMOS OKTO DODEKATA",
   "zkTIMORIONzcFTOGGOS OUzcGORGONzi PARESTIGMENON ARISTERA ANOzzhKATOzxDEXIAzdRAMMA GGzcPLI",
   "zf ARCHAIONzbYOzEKSTREPTONzbLAFRONzbNARXIS KAI FTHORA VOUzcDOFONONzbPEGERMA",
   "zbTERON ARGOSYNTHETONzhPARAKALESMAzbXO EKFONITIKONzFANEROSIS DIFONIASzkMONOFONIASzkTETRAFONIAS",
   "zbHTORA SKLIRON CHROMA VASISzbTHORA ARCHAIONzp DEYTEROU ICHOUzhDIATONIKI DIzrKEzrNANAzsI ANO",
   "zuKATOzrPAzrZOzhENARMONIOS ANTIFONIAzhI YFESIS TETARTIMORIONzhMALAKON CHROMA DIFONIAS",
   "zwMONOFONIASzhNAOS ICHOSziENANOzhSKLIRON CHROMA SYNAFIzwVASISzpDIATONON DIzGENIKI DIESIS",
   "zhYFESISzbORGON ARCHAIONzhNEO ANOzlKATOzhPARESTIGMENON ARISTERAzvDEXIAzfSYNTHETON",
   "zdTHMIKON N APLOUNznDIPLOUNzbRONTHISMATAzICHADINzbMIDIARGONzdFONONzeTHORAziON",
   "zbSAKIA TELOUS ICHIMATOSzcON ARCHAIONzfNEOzKATAVA TROMIKONzgSMAzdHISTIzbENTIMA ARCHAION",
   "ziNEO ANOzmKATOzmMESOzhTAzj ARCHAIONzkNEO ANOzoKATOzoMESOzbLASMAzg ANOzhKATOzbONTEVMAzi ALLO",
   "zcRONISzcUFISMAzbRATIMA ALLOzjRCHAIONziNEOzhTAzgOKOUFISMAzhYPORROONzcEMASTIzbYLISMA",
   "zLEIMMA DYO CHRONONzhENOS CHRONOUzhIMISEOS CHRONOUzhTESSARON CHRONONziRION CHRONONzcMOI",
   "zbYGISMAzMARTYRIA ALLI DEYTEROS ICHOSzoPROTOS ICHOSzjDEYTEROS ICHOSzjLEGETOS ICHOS",
   "zjPLAGIOS ICHOSzrTETARTOS ICHOSzkROTOS ICHOSzoVARYS ICHOSzjTETARTOS ICHOSzsLEGETOS ICHOS",
   "zkRIFONIASzmTOS ICHOSzjVARYS ICHOSzbIKRON ISONzNANAzOLIGON ARCHAIONzhNEOzbMALONzbXEIA DIPLI",
   "zgEKFONITIKONzgNEOzfI ARCHAIONzbYRANISMA ARCHAIONzkNEOzPARAKALESMA ARCHAIONzmNEOzfLITIKI",
   "zl ARCHAIONzmNEOzdICHONzbELASTONzi NEOzcRISPOMENIzcTASMAzfTIzgOKOUFISMAzbIASMA ARCHAIONzhNEO",
   "zbSIFISTOLYGISMAziNzj NEOziPARAKALESMAziSYNAGMAzdLIzeONzRAPISMAzbEVMAzSAXIMATAzbEISMAzg NEO",
   "zbIMANSIS ARSEOSzp DISIMOUzqTETRASIMOUzrRISIMOUzjTHESEOSzq DISIMOUzrTETRASIMOUzsRISIMOU",
   "zbTAVROSzh APODEXIAzcIGMAzcRAGGISMATAzbYNAGMA ARCHAIONziMETA STAVROUziNEOzdEVMAzcRMAzfTIKI",
   "zTELEIAzcSSERAzcTRAPLIzbHEMAzf APLOUNzfTISMOS ESOznXOzdS KAI APOTHESzcITAzbINAGMAzbRIAzdGORGON",
   "zdPLIzcOMIKOLYGISMAzhN ALLOzkRCHAIONzjNEOzhPARAKALESMAziSIFISTONzhSYNAGMAzVAREIA DIPLI",
   "zhEKFONITIKONzhNEOzgI ARCHAIONzcTHYzXIRON KLASMAzYFEN ANOzfKATOzdSIS APLI DYO DODEKATA",
   "zhDIGRAMMOS EX DODEKATAzhMONOGRAMMOS TESSERA DODEKATAzhTRIGRAMMOS OKTO DODEKATAzkTIMORION",
   "zbPOKRISISzj DIPLIzdRROIzcSILIaCACTUScDA UNAdUCEUScLENDARdL ME HANDcMERAg WITH FLASHdPINGcN",
   "dADIAN SYLLABICS AuAvIvYuIvVILIK BuNuTHAPASCAN MzfSuYtBEAVER DENE LzgRuIBLE-CREE YuLACKFOOT A",
   "zeEzeIzeKAzfEzfIzfOzeNAzfEzfIzfOzeOzeSzeWzfAzfEzfIzfOtCuAvAwIvRRIER CHAzeEzfEzeIzeOzeUzcDEE",
   "zeNE GEEzfTAL SzdIzdLAzeEzfEzeIzeOzeUzdZAzeEzfEzeIzeOzeUzcEEzcGAzeAzdEzeEzdHAzeEzfEzeIzeOzeU",
   "zdIzdOzdUzdWAzeUzcHzdEEzdIzdWAzeEzfEzeIzeOzeUzcIzdNITIAL ZzcJAzdEzeEzdIzdJAzeEzfEzeIzeOzeUzdO",
   "zdUzdWAzcKHAzeEzfEzeIzeOzeUzdKzeAzeEzfEzeIzeOzeUzcLAzdEzeEzdHAzeEzfEzeIzeOzeUzdIzdOzdUzcMAzdE",
   "zeEzdIzdOzdUzcNAzdEzeEzdGzdIzdOzdUzcPzdAzdEzeEzdIzdOzdUzcRAzdEzeEzdIzdOzdUzcSAzdEzeEzdHzeAzeE",
   "zfEzeIzeOzeUzdIzdOzdUzcTHAzeEzfEzeIzeOzeUzdLAzeEzfEzeHAzfEzgEzfIzfOzfUzeIzeOzeUzdSAzeEzfEzeI",
   "zeOzeUzdTAzeEzfEzeIzeOzeSAzfEzgEzfIzfOzfUzeUzcWAzdEzeEzdIzdOzdUzcYAzdEzeEzdIzdOzdUzcZzdAzdEzeE",
   "zdIzdOzdUuEuHI SIGNuIvIuOvOuWAwAvEvIwIvOwOtEuASTERN WuNtFuAvAwIuEuIvIvNAL ACUTE",
   "zBOTTOM HALF RINGzDOUBLE ACUTEzhSHORT VERTICAL STROKESzcWN TACKzGRAVEzMIDDLE DOTzPLUS",
   "zRAISED DOTzbIGHT HALF RINGzcNGzSHORT HORIZONTAL STROKEzbMALL RINGzTOP HALF RINGuOvOuULL STOP",
   "uWAAtGLOTTAL STOPtHKuYPHENtIuIuNtKuAvAwIvYuEuIvIuOvOuWvAwAwYvEvIwIvOwOtLuAvAwIvYuEuHvAwAvIwIvO",
   "wOuIvIuOvOuWAwAvEvIwIvOwOtMuAvAwIvYuEvDIAL LzbRuHuIvIuOvOwSE-CREE SKuWAwAvEvIwIvOwOtN",
   "u-CREE THEzdIzeIuAvAwIvSKAPI CWAAzcKWAAzcMWAAzcNWAAzcS-WzdCWAzdKWzfAzdPWAzdTWAzdWAAzcTWAAzcWAA",
   "zdOOzcYWAAvTTILIK HAzfAzeIzfIzeOzfOzdSHRAzhAzgIzhIzgOzhOvYuEuGvAwAxIwIvIwIvOwOuHuIvIuNGwAxAwI",
   "xIwOxOuOvOvYuUNAVIK HzdAzeAzdEzdIzeIzdOzeOyUT HuWAwAvEvIwIvOwOtOuJIBWAY CzcKzcMzcNzdWIzfIzeO",
   "zfOzcPzcSzdHzcTuNuOuYtPuAvAwIvYuEuIvIuOvOvYuWAwAvEvIwIvOwOwYtQuAvAwIvIuIvIuOvOtRu-CREE REzcWE",
   "uAvAwIvYuEuIvIuOvOuWAwAvEEvIwIvOwOtSuAvAwIvYwISI HAzcEzcIzcOzdOzbJIzcUzdUzbMzbSHAzdEzdIzdOzeO",
   "zdWEzbTHzbYIuEuHvAwAwYvEvIwIvOwOwYvWAxAwEwIxIwOxOxYuIvIuOvOvUTH-SLAVEY KAHziEHziIHziOHvYuPAvE",
   "vIvOuWvAwAvEvIwIvOwOtTuAvAwIvYuEuHv-CREE THzeAzfAzeEzeIzfIzeOzfOvAwAvEvIwIvOwOvWAxAwEuIvIuLHA",
   "wEwIwOxOwWEuOvOuTAvEvHwAxAwEwIwOxOwWEvIvOuWAwAvEvIwIvOwOuYAvEvIvOtWAvAvYuEvST-CREE CWAzhAzgE",
   "zgIzhIzgOzhOzeFWAAzeKWAzhAzgEzgIzhIzgOzhOzeLzfAzgAzfEzfOzgOzfWAzhAzgEzgIzhIzgOzhOzeMzfWAzhAzgE",
   "zgIzhIzgOzhOzeNWAzhAzgEzePzfWAzhAzgEzgIzhIzgOzhOzeRzfAzfEzfIzfOzfWAAzeSHWAziAzhEzhIziIzhOziO",
   "zfWAzhAzgEzgIzhIzgOzhOzeTHWAAzfWAzhAzgEzgIzhIzgOzhOzeWAzgAzfEzfIzgIzfOzgOzeYzfWAzhAzgEzgIzhI",
   "zgOzhOxERN WuIvIuOvOwDS-CREE FINAL THzfTHzhAzhEzhIzhOzhWAzjAziEEziIzjIziOzjOtYu-CREE COOzbKOO",
   "zbLOOzbMOOzbNOOzbOOzbPOOzcWAAzbSOOzbTOOzbWzbYOOuAvAwIvYuEuIvIuOvOvYuWAwAvEvIwIvOwOdCEL",
   "g CHARACTERhTAGgLATION XfRdDLEeYdNED FOODdOEcPITULUMdRICORNcR SLIDINGdD FILE BOXfINDEX",
   "k DIVIDERSdE OFeTf INSERTION POINTdIAN LETTER Ap2oBoC-18q39oDp2oEp2oGp2oIpIoKp2oLpDq2oMpBq2q3",
   "q4oNpDpGpNoOoPp2oQoRpRoSpHq2pSpTq2oTpTq2oUpUqUr2r3rUoXdONeUSEL HORSEdP STREAMEReENTRY SAW",
   "dRIAGE RETURNeOTcSTLEcTd FACEi WITH TEARS OF JOYoWRY SMILEcUCASIAN ALBANIAN CITATION MARK",
   "tLETTER ALTzcORzbBETzbCARzdYNzcHAzeTzdIzdOYzcYAWzeYzbDATzcYANzcZAYzdYAYzbEBzcYNzbFAMzbGHEYS",
   "zcIMzbHEYTzbINYAzcRBzcWNzbJAYNzcHOXzbKARzcIWzbLANzcYITzbMAQzbNOWCzbONzbPENzcIWRzbQARzdYzbRAT",
   "zbSEYKzcHAzeKzdOYzbTASzcIWRzcYAYzbVEYZzbXEYNzbYAYDzcOWDzbZARLzcHAzdILdTION SIGNbCHbEDI SIGN",
   "eLLAcLTIC CROSScNT SIGNeRE LINE SYMBOLgLINE LOW LINElOVERLINEcRESbGJbHAINSeRdKMA AU MARKhDANDA",
   "iIGIT EIGHTnFIVEoOURnNINEnONEnSEVENoIXnTHREEoWOnZEROiOUBLE DANDAhLETTER AAoBAApHAAoCAApHAAoDAA",
   "pDAAqHAApHAAoEoGAApHAAoHAAoIoJAApHAAoKAApHAAoLAApHAAoMAAoNAApGAApNAApYAAoPAApHAAoRAAoSAAoTAA",
   "pHAApTAAqHAAoUoVAAoWAAoYAApYAAhMAAYYAAhO MARKhQUESTION MARKhSECTION MARKiIGN ANUSVARA",
   "mCANDRABINDUmVISARGAhVIRAMAiOWEL SIGN AtAtItUsEtIsItIsOtIsUtUdM CONSONANT SIGN FINAL HzbMzbNG",
   "uLAuRAuWAuYAfDIGIT EIGHTlFIVEmOURlNINElONElSEVENmIXlTHREEmWOlZEROfLETTER AnImBAnBAnHAmCHAoHA",
   "mDAnDAnHAmEmFINAL CHsGsKsLsNtGsPsRsSSsTsYmGAnHAmHAmImJAnHAmKAnHAmLAmMAnUEmNAnGAoUEnHAoJAoUEnUE",
   "mOmPAnHAnPAmRAmSAnSAmTAnHAmUmVAmYAfPUNCTUATION DANDAsOUBLE DANDArSPIRALrTRIPLE DANDA",
   "fVOWEL SIGN AArIrUqEIqIrIqOrEqUrEdRACTER TABULATIONu SETvWITH JUSTIFICATIONlIE",
   "eT WITH DOWNWARDS TRENDlUPWARDS TRENDy AND YEN SIGNcECK MARKfER BOARDn FILLdERING MEGAPHONE",
   "eSE WEDGEdQUERED FLAGdROKEE LETTER AqDArErIrLArOrUrVqEqGArErIrOrUrVqHArErIrNArOrUrVqIqKAqLArE",
   "rIrOrUrVqMArErIrOrUrVqNAsHrErIrOrUrVqOqQUAsEsIsOsUsVqSrArErIrOrUrVqTArErIrLAsEsIsOsUsVrSAsEsI",
   "sOsUsVqUqVqWArErIrOrUrVqYArErIrOrUrVjSMALL LETTER AwDAxExIxLAxOxUxVwEwGAxExIxOxUxVwHAxExIxNAxO",
   "xUxVwIwKAwLAxExIxOxUxVwMAxExIxOxUxVwNAyHxExIxOxUxVwOwQUAyEyIyOyUyVwSxAxExIxOxUxVwTAxExIxLAyEyI",
   "yOyUyVxSAyEyIyOyUyVwUwVwWAxExIxOxUxVwYAxExIxOxUxVeRIESfY BLOSSOMdSTNUTcI RHOdCKENdLD",
   "fREN CROSSINGdPMUNKdRONcOCOLATE BARdPSTICKSdRASMIAN LETTER ALEPHtYINsBETHsCURLED WAWsDALETH",
   "sGIMELsHEuTHsKAPHsLAMEDHsMEMsNUNsPEsRESHsSAMEKHtHINtMALL ALEPHsTAWsWAWsYODHsZAYINlNUMBER FOUR",
   "sONEv HUNDREDsTENtHREEtWENTYuOcRISTMAS TREEcURCHbINEMA",
   "cRCLE DIVIDED BY HORIZONTAL BAR AND TOP HALF DIVIDED BY VERTICAL BAR",
   "hWITH ALL BUT UPPER LEFT QUADRANT BLACKmHORIZONTAL BARmLEFT HALF BLACKnOWER HALF BLACK",
   "mRIGHT HALF BLACKmSMALL CIRCLE TO THE RIGHTnUPERIMPOSED XmTWO HORIZONTAL STROKES TO THE RIGHT",
   "mUPPER HALF BLACKsRIGHT QUADRANT BLACKmVERTICAL FILLgD ANTICLOCKWISE ARROW",
   "v-ROTATED DIVISION SIGNjSTERISK OPERATORiBOLD XjULLETiC WITH OVERLAID BACKSLASHjCjD",
   "jROSS FORMEEu WITH FOUR DOTSzbTWO DOTSoPOMMEEnING LANESiDASHjIGIT EIGHToFIVEpOURoNINEoONE",
   "oSEVENpIXoTHREEpWOoZEROkVISION SIGNsLASHjOLLAR SIGN WITH OVERLAID BACKSLASHkT OPERATORiEQUALS",
   "iGREATER-THANiHANGUL CHIEUCHw AqIEUCu ApHIEUHu ApIEUNGu AvUpKHIEUKHw AqIYEOKv ApMIEUMu ApNIEUN",
   "u ApPHIEUPHw AqIEUPu ApRIEULu ApSIOSt ApTHIEUTHw AqIKEUTv AjEAVY WHITE RIGHTWARDS ARROW",
   "jORIZONTAL BAR WITH NOTCHjUMAN FIGUREiIDEOGRAPH ACCEPTtDVANTAGEtLLIANCEtTTENTIONsCENTRE",
   "tONGRATULATIONuPYuRRECTsEARTHtIGHTtNTERPRISEtXCELLENTsFEMALEtINANCIALuREuVEtOURsHAVEtIGHsITEM",
   "sKINDERGARTENtOTOsLABORtEFTtOWsMALEtEDICINEuTALtOONsNAMEtIGHTuNEsONEsPRINTsQUESTIONsRELIGION",
   "uSOURCEvTtIGHTsSCHOOLtECRETuVENtIXtOCIETYtPECIALtTOCKuUDYtUITABLEuNuPERVISEsTENtHREEtWOsWATER",
   "tOODjNFORMATION SOURCEjTALIC LATIN CAPITAL LETTER CzlRiKATAKANA ArErHAsEsIsOsUrIrKAsEsIsOsUrMA",
   "sEsIsOsUrNAsEsIsOsUrOrRAsEsIsOsUrSAsEsIsOsUrTAsEsIsOsUrUrWAsEsIsOrYAsOsU",
   "jOREAN CHARACTER CHAMKOzJUEUIiLATIN CAPITAL LETTER AzeBzeCzeDzeEzeFzeGzeHzeIzeJzeKzeLzeMzeNzeO",
   "zePzeQzeRzeSzeTzeUzeVzeWzeXzeYzeZoSMALL LETTER AzcBzcCzcDzcEzcFzcGzcHzcIzcJzcKzcLzcMzcNzcOzcP",
   "zcQzcRzcSzcTzcUzcVzcWzcXzcYzcZjESS-THANiMINUSjULTIPLICATION SIGN WITH CIRCUMFLEX ACCENT",
   "iNUMBER EIGHTEENuY ON BLACK SQUAREqLEVENpFIFTEENtYu ON BLACK SQUAREqORTYu EIGHTvFIVEwOURvNINE",
   "vON BLACK SQUARExEvSEVENwIXvTHREEwWOrURTEENpNINETEENpSEVENTEENvY ON BLACK SQUAREqIXTEEN",
   "tY ON BLACK SQUAREpTENs ON BLACK SQUAREqHIRTEENuYv EIGHTwFIVExOURwNINEwON BLACK SQUAREyEwSEVEN",
   "xIXwTHREExWOqWELVEsNTYv EIGHTwFIVExOURwNINEwON BLACK SQUAREyEwSEVENxIXwTHREExWO",
   "iOPEN CENTRE EIGHT POINTED STARiPARALLELjERPENDICULARjLUSjOSTAL MARKiREVERSE SOLIDUS",
   "jING OPERATORiSQUAREiTIMESjRIANGLEq DOWNiVERTICAL BARiWHITE BULLEToSTARjZiXiZERO WITH SLASH",
   "eULATION FUNCTIONfMFLEX ACCENTfS TENTcTYSCAPEj AT DUSKbJK COMPATIBILITY IDEOGRAPH-2F800zh1zh2",
   "zh3zh4zh5zh6zh7zh8zh9zhAzhBzhCzhDzhEzhFzg10zh1zh2zh3zh4zh5zh6zh7zh8zh9zhAzhBzhCzhDzhEzhFzg20",
   "zh1zh2zh3zh4zh5zh6zh7zh8zh9zhAzhBzhCzhDzhEzhFzg30zh1zh2zh3zh4zh5zh6zh7zh8zh9zhAzhBzhCzhDzhEzhF",
   "zg40zh1zh2zh3zh4zh5zh6zh7zh8zh9zhAzhBzhCzhDzhEzhFzg50zh1zh2zh3zh4zh5zh6zh7zh8zh9zhAzhBzhCzhD",
   "zhEzhFzg60zh1zh2zh3zh4zh5zh6zh7zh8zh9zhAzhBzhCzhDzhEzhFzg70zh1zh2zh3zh4zh5zh6zh7zh8zh9zhAzhB",
   "zhCzhDzhEzhFzg80zh1zh2zh3zh4zh5zh6zh7zh8zh9zhAzhBzhCzhDzhEzhFzg90zh1zh2zh3zh4zh5zh6zh7zh8zh9",
   "zhAzhBzhCzhDzhEzhFzgA0zh1zh2zh3zh4zh5zh6zh7zh8zh9zhAzhBzhCzhDzhEzhFzgB0zh1zh2zh3zh4zh5zh6zh7",
   "zh8zh9zhAzhBzhCzhDzhEzhFzgC0zh1zh2zh3zh4zh5zh6zh7zh8zh9zhAzhBzhCzhDzhEzhFzgD0zh1zh2zh3zh4zh5",
   "zh6zh7zh8zh9zhAzhBzhCzhDzhEzhFzgE0zh1zh2zh3zh4zh5zh6zh7zh8zh9zhAzhBzhCzhDzhEzhFzgF0zh1zh2zh3",
   "zh4zh5zh6zh7zh8zh9zhAzhBzhCzhDzhEzhFzf900zh1zh2zh3zh4zh5zh6zh7zh8zh9zhAzhBzhCzhDzhEzhFzg10zh1",
   "zh2zh3zh4zh5zh6zh7zh8zh9zhAzhBzhCzhDzhEzhFzg20zh1zh2zh3zh4zh5zh6zh7zh8zh9zhAzhBzhCzhDzhEzhF",
   "zg30zh1zh2zh3zh4zh5zh6zh7zh8zh9zhAzhBzhCzhDzhEzhFzg40zh1zh2zh3zh4zh5zh6zh7zh8zh9zhAzhBzhCzhD",
   "zhEzhFzg50zh1zh2zh3zh4zh5zh6zh7zh8zh9zhAzhBzhCzhDzhEzhFzg60zh1zh2zh3zh4zh5zh6zh7zh8zh9zhAzhB",
   "zhCzhDzhEzhFzg70zh1zh2zh3zh4zh5zh6zh7zh8zh9zhAzhBzhCzhDzhEzhFzg80zh1zh2zh3zh4zh5zh6zh7zh8zh9",
   "zhAzhBzhCzhDzhEzhFzg90zh1zh2zh3zh4zh5zh6zh7zh8zh9zhAzhBzhCzhDzhEzhFzgA0zh1zh2zh3zh4zh5zh6zh7",
   "zh8zh9zhAzhBzhCzhDzhEzhFzgB0zh1zh2zh3zh4zh5zh6zh7zh8zh9zhAzhBzhCzhDzhEzhFzgC0zh1zh2zh3zh4zh5",
   "zh6zh7zh8zh9zhAzhBzhCzhDzhEzhFzgD0zh1zh2zh3zh4zh5zh6zh7zh8zh9zhAzhBzhCzhDzhEzhFzgE0zh1zh2zh3",
   "zh4zh5zh6zh7zh8zh9zhAzhBzhCzhDzhEzhFzgF0zh1zh2zh3zh4zh5zh6zh7zh8zh9zhAzhBzhCzhDzhEzhFzfA00zh1",
   "zh2zh3zh4zh5zh6zh7zh8zh9zhAzhBzhCzhDzhEzhFzg10zh1zh2zh3zh4zh5zh6zh7zh8zh9zhAzhBzhCzhDzdF900zg1",
   "zg2zg3zg4zg5zg6zg7zg8zg9zgAzgBzgCzgDzgEzgFzf10zg1zg2zg3zg4zg5zg6zg7zg8zg9zgAzgBzgCzgDzgEzgF",
   "zf20zg1zg2zg3zg4zg5zg6zg7zg8zg9zgAzgBzgCzgDzgEzgFzf30zg1zg2zg3zg4zg5zg6zg7zg8zg9zgAzgBzgCzgD",
   "zgEzgFzf40zg1zg2zg3zg4zg5zg6zg7zg8zg9zgAzgBzgCzgDzgEzgFzf50zg1zg2zg3zg4zg5zg6zg7zg8zg9zgAzgB",
   "zgCzgDzgEzgFzf60zg1zg2zg3zg4zg5zg6zg7zg8zg9zgAzgBzgCzgDzgEzgFzf70zg1zg2zg3zg4zg5zg6zg7zg8zg9",
   "zgAzgBzgCzgDzgEzgFzf80zg1zg2zg3zg4zg5zg6zg7zg8zg9zgAzgBzgCzgDzgEzgFzf90zg1zg2zg3zg4zg5zg6zg7",
   "zg8zg9zgAzgBzgCzgDzgEzgFzfA0zg1zg2zg3zg4zg5zg6zg7zg8zg9zgAzgBzgCzgDzgEzgFzfB0zg1zg2zg3zg4zg5",
   "zg6zg7zg8zg9zgAzgBzgCzgDzgEzgFzfC0zg1zg2zg3zg4zg5zg6zg7zg8zg9zgAzgBzgCzgDzgEzgFzfD0zg1zg2zg3",
   "zg4zg5zg6zg7zg8zg9zgAzgBzgCzgDzgEzgFzfE0zg1zg2zg3zg4zg5zg6zg7zg8zg9zgAzgBzgCzgDzgEzgFzfF0zg1",
   "zg2zg3zg4zg5zg6zg7zg8zg9zgAzgBzgCzgDzgEzgFzeA00zg1zg2zg3zg4zg5zg6zg7zg8zg9zgAzgBzgCzgDzgEzgF",
   "zf10zg1zg2zg3zg4zg5zg6zg7zg8zg9zgAzgBzgCzgDzgEzgFzf20zg1zg2zg3zg4zg5zg6zg7zg8zg9zgAzgBzgCzgD",
   "zgEzgFzf30zg1zg2zg3zg4zg5zg6zg7zg8zg9zgAzgBzgCzgDzgEzgFzf40zg1zg2zg3zg4zg5zg6zg7zg8zg9zgAzgB",
   "zgCzgDzgEzgFzf50zg1zg2zg3zg4zg5zg6zg7zg8zg9zgAzgBzgCzgDzgEzgFzf60zg1zg2zg3zg4zg5zg6zg7zg8zg9",
   "zgAzgBzgCzgDzf70zg1zg2zg3zg4zg5zg6zg7zg8zg9zgAzgBzgCzgDzgEzgFzf80zg1zg2zg3zg4zg5zg6zg7zg8zg9",
   "zgAzgBzgCzgDzgEzgFzf90zg1zg2zg3zg4zg5zg6zg7zg8zg9zgAzgBzgCzgDzgEzgFzfA0zg1zg2zg3zg4zg5zg6zg7",
   "zg8zg9zgAzgBzgCzgDzgEzgFzfB0zg1zg2zg3zg4zg5zg6zg7zg8zg9zgAzgBzgCzgDzgEzgFzfC0zg1zg2zg3zg4zg5",
   "zg6zg7zg8zg9zgAzgBzgCzgDzgEzgFzfD0zg1zg2zg3zg4zg5zg6zg7zg8zg9eRADICAL BAMBOOnLUEnOLT OF CLOTH",
   "oNEoXnRUSH ONEsTWOmC-SIMPLIFIED BIRDzCARTzDRAGONzEATzbVENzFISHzbLYzbROGzGATEzbOLDzHORSEzLEAF",
   "zbONGzSALTzbEEzbHELLzbILKzbPEECHzTANNED LEATHERzbOOTHzbURTLEzWINDnHOKEnITYoVILIANnLIFFoOTHES",
   "nOWmDEATHnIVINATIONnOGmEAT ONEqTHREErWOnWEnYEmFIREnOOTmGHOSTnRASS ONEsTHREEtWOmHANDnEADpRT ONE",
   "sTWOnORNmJ-SIMPLIFIED DRAGONzEVENzTOOTHzbURTLEnADEmKNIFE ONEsTWOmLAME FOURrONErTHREEsWO",
   "nONG ONErTWOmMEAToSHnOONoRTARoTHERoUND ONEsTWOmNET FOURqONEqTHREErWOmOLDmPAW ONEqTWOnERSON",
   "mRAINoMoPnEPEATmSEALoCOND ONEtTHREEuWOnHEEPnILKoMPLIFIED HALF TREE TRUNKyORNxWALKyHEATxYELLOW",
   "nMALL ONEsTWOnNAKEoOUT ONEsTWOnPIRIT ONEtTWOnUNmTABLEnHREADnIGERnURTLEmWALK ONErTWOoTER ONE",
   "sTWOnEST ONErTWOeSTROKE BXGlDlHmGmPnWGmXWGmZnGnTnWoGnZoPoZpGlNlPmDmGmZlQlSmGmPmTmWnGnZmZnWGnZ",
   "lTmNlWGlXGbLAMSHELL MOBILE PHONEdPPER BOARDfING HANDS SIGNdSSICAL BUILDINGcEAR SCREEN SYMBOL",
   "cINKING BEER MUGSjGLASSESdPBOARDcOCK FACE EIGHT OCLOCKq-THIRTYmLEVEN OCLOCKr-THIRTY",
   "lFIVE OCLOCKp-THIRTYmOUR OCLOCKp-THIRTYlNINE OCLOCKp-THIRTYlONE OCLOCKo-THIRTYlSEVEN OCLOCK",
   "q-THIRTYmIX OCLOCKo-THIRTYlTEN OCLOCKo-THIRTYmHREE OCLOCKq-THIRTYmWELVE OCLOCKr-THIRTY",
   "nO OCLOCKo-THIRTYfWISE CLOSED CIRCLE ARROWlONTOUR INTEGRAL",
   "kDOWNWARDS AND UPWARDS OPEN CIRCLE ARROWSkGAPPED CIRCLE ARROWkINTEGRALkOPEN CIRCLE ARROW",
   "kRIGHT AND LEFT SEMICIRCLE ARROWSpWARDS AND LEFTWARDS OPEN CIRCLE ARROWS",
   "zzd WITH CIRCLED ONE OVERLAYkTOP SEMICIRCLE ARROWlRIANGLE-HEADED OPEN CIRCLE ARROWdSE UP",
   "fD BOOKhINTERSECTION WITH SERIFShLOCK WITH KEYhMAILBOX WITH LOWERED FLAGuRAISED FLAGhSUBSET",
   "n OR EQUAL TOjPERSETp OR EQUAL TOhUMBRELLAiNION WITH SERIFSy AND SMASH PRODUCTdUD",
   "f WITH LIGHTNINGlRAINlSNOWlTORNADOdWN FACEbOATcCKROACHeTAIL GLASSdONUTcFFINcINcLLISION SYMBOL",
   "dONf EQUALSgSIGNcMBINING ACUTE ACCENTw BELOWqTONE MARKp-GRAVE-ACUTEqMACRON",
   "lLMOST EQUAL TO ABOVEzbBELOWlNNUITY SYMBOLmTICLOCKWISE ARROW ABOVEyRING OVERLAYlSTERISK ABOVE",
   "tBELOWkBINDU BELOWlREVEp BELOWp-MACRONmIDGE ABOVErBELOWkCANDRABINDUmRONp BELOWlEDILLA",
   "lIRCUMFLEX ACCENTzc BELOWlLOCKWISE ARROW ABOVEuRING OVERLAYlOMMA ABOVEv RIGHTqBELOW",
   "mNJOINING MACRONzc BELOWlYRILLIC DASIA PNEUMATAtHUNDRED MILLIONS SIGNzcTHOUSANDS SIGNtKAVYKA",
   "tLETTER AzbBEzcIG YUSzbCHEzbDEzcJERVzbEFzcLzcMzcNzcRzcSzd-TEzbFITAzbGHEzbHAzdRD SIGNzbIzcE",
   "zcOTIFIED AzkBIG YUSzkEzbKAzbLITTLE YUSzbMONOGRAPH UKzbOzcMEGAzbPEzbSHAzdCHAzcOFT SIGNzbTEzcSE",
   "zbUzcKRAINIAN IEzbVEzbYATzcERUzcIzcUzbZEzcHEtMILLIONS SIGNtPALATALIZATIONvYEROKuOKRYTIE",
   "uSILI PNEUMATAtTEN MILLIONS SIGNuHOUSAND MILLIONS SIGNuITLOy LEFT HALFzRIGHT HALFtVZMET",
   "kDELETION MARKmVANAGARI DIGIT EIGHTzcFIVEzdOURzcNINEzcONEzcSEVENzdIXzcTHREEzdWOzcZEROvLETTER A",
   "zdKAzdNAzdPAzdRAzdUzdVIvSIGN AVAGRAHAlIAERESISt BELOWt-RINGlOT ABOVEt LEFTuRIGHToBELOWt LEFT",
   "nTED ACUTE ACCENTrGRAVE ACCENTmUBLE ACUTE ACCENTrBREVEw BELOWrCIRCUMFLEX ABOVErGRAVE ACCENT",
   "rINVERTED BREVEzg BELOWrLOW LINErMACRONx BELOWrOPEN MARK BELOWsVERLINErPARENTHESES ABOVE",
   "sLUS SIGN ABOVEzcBELOWrRIGHTWARDS ARROW BELOWtNG BELOWrTILDEw LEFT HALFxRIGHT HALF",
   "rVERTICAL LINE ABOVEzgBELOWzbSTROKE OVERLAYqD CIRCUMFLEX ACCENTmWN TACK BELOWoWARDS ARROW",
   "kENCLOSING CIRCLEzb BACKSLASHuDIAMONDuKEYCAPuSCREENvQUAREuUPWARD POINTING TRIANGLE",
   "lQUALS SIGN BELOWkFERMATAlOUR DOTS ABOVEkGLAGOLITIC LETTER AZUzdBIG YUSzeUKYzdCHRIVIzdDJERVI",
   "zeOBROzdFITAzeRITUzdGLAGOLIzdHERUzdIzeNITIAL IZHEzeOTATED BIG YUSzlSMALL YUSzeZHEzdKAKO",
   "zdLJUDIJEzdMYSLITEzdNASHIzdONUzdPOKOJIzdRITSIzdSHAzfTAzeLOVOzeMALL YUSzdTSIzeVRIDOzdUKUzdVEDE",
   "zdYATIzeERIzgUzfSTUzeOzeUzdZEMLJAzeHIVETElRANTHA DIGIT FIVEzOURyONEySIXyTHREEzWOyZEROsLETTER A",
   "zKAzNAzPAzVInPHEME JOINERnVE ACCENTw BELOWqTONE MARKp-ACUTE-GRAVEqMACRONmEEK DIALYTIKA TONOS",
   "qKORONISqMUSICAL PENTASEMEyTETRASEMEzRISEMEqPERISPOMENIqYPOGEGRAMMENIkHOMOTHETIC ABOVE",
   "mOK ABOVEmRNkINFINITYmVERTED BREVEy BELOWvIDGE BELOWtDOUBLE ARCH ABOVEzgBELOWlS BELOW",
   "kKATAKANA-HIRAGANA SEMI-VOICED SOUND MARKzdVOICED SOUND MARKmVYKA ABOVE LEFTxRIGHT",
   "kLATIN LETTER SMALL CAPITAL GzmLzmMzmNzmRqSMALL LETTER Azf WITH DIAERESISzfEzfLPHAzfOzfVzeB",
   "zfETAzeCzf CEDILLAzeDzeEzfSHzfTHzeFzfLATTENED OPEN A ABOVEzeGzeHzeIzfNSULAR DzmGzmRzmTzeKzeL",
   "zf WITH DOUBLE MIDDLE TILDEzfONG SzeMzeNzeOzf WITH DIAERESISzlLIGHT CENTRALIZATION STROKEzeP",
   "zeRzf BELOWzgROTUNDAzeSzfCHWAzeTzfURNED W BELOWzeUzf WITH DIAERESIS",
   "zlLIGHT CENTRALIZATION STROKEzeVzeWzf BELOWzeXzeZlEFT ANGLE ABOVEvBELOWqRROW ABOVEvBELOW",
   "uHEAD ABOVEzBELOWpHALF RING ABOVEzBELOWrRPOON ABOVEpPARENTHESIS ABOVE LEFTzcBELOW LEFT",
   "pRIGHT ARROW ABOVEzcBELOWpTACK BELOWoWARDS ARROW OVERLAYuHARPOON WITH BARB DOWNWARDS",
   "lIGATURE LEFT HALFzd BELOWtRIGHT HALFze BELOWnHT CENTRALIZATION STROKE BELOW",
   "lONG DOUBLE SOLIDUS OVERLAYpSOLIDUS OVERLAYqTROKE OVERLAYpVERTICAL LINE OVERLAYmW LINEkMACRON",
   "q BELOWrLEFT HALFzb BELOWrRIGHT HALFzc BELOWq-ACUTErBREVErGRAVElINUS SIGN BELOW",
   "kNOT TILDE ABOVElUMBER SIGN ABOVEkOGONEKq ABOVElLD PERMIC LETTER ANzdDOIzdNENOEzdSIIzdZATA",
   "lPEN MARK BELOWlVERLINEkPALATALIZED HOOK BELOWmRENTHESES ABOVEwBELOWwOVERLAYlLUS SIGN ABOVE",
   "uBELOWkRETROFLEX HOOK BELOWmVERSE SOLIDUS OVERLAYrD COMMA ABOVElIGHT ARROW ABOVEwBELOW",
   "vHEAD ABOVEzcND DOWN ARROWHEAD BELOWzfUP ARROWHEAD BELOWzbBELOWqHALF RING ABOVEzbBELOW",
   "sRPOON ABOVEqPARENTHESIS ABOVE RIGHTzdBELOW RIGHTqTACK BELOWpWARDS HARPOON WITH BARB DOWNWARDS",
   "mNG ABOVEpBELOWpOVERLAYkSEAGULL BELOWlHORT SOLIDUS OVERLAYrTROKE OVERLAYqVERTICAL LINE OVERLAY",
   "lNAKE BELOWlQUARE BELOWsRACKETS ABOVElTRONG CENTRALIZATION STROKE BELOWlUSPENSION MARK",
   "kTHREE DOTS ABOVElILDEp BELOWqLEFT HALF BELOWqOVERLAYqRIGHT HALF BELOWlRIPLE ACUTE ACCENTrDOT",
   "rUNDERDOTlURNED COMMA ABOVEkUP TACK ABOVEsBELOWmWARDS ARROW BELOWlR ABOVElS ABOVE",
   "kVERTICAL LINE ABOVEyBELOWtTILDEkWIDE BRIDGE ABOVEpINVERTED BRIDGE BELOWmGGLY LINE BELOW",
   "kX ABOVEmBELOWl-X BELOWkZIGZAG ABOVErBELOWdETdMAeERCIAL ATlMINUS SIGNdPASSeLEMENT",
   "eOSITION SYMBOLeRESSIONcNFETTI BALLeOUNDED FACEeUSED FACEdGRUENT WITH DOT ABOVEdICAL TAPER",
   "dJUNCTIONdSTRUCTION SIGNnWORKERdTAINS AS MEMBERmNORMAL SUBGROUPzc OR EQUAL TO",
   "jWITH LONG HORIZONTAL STROKEoOVERBARoVERTICAL BAR AT END OF HORIZONTAL STROKE",
   "eINUOUS UNDERLINE SYMBOLeOUR INTEGRALeROL KNOBSiSEQUENCE INTRODUCERdVENIENCE STOREcOKED RICE",
   "eIEfNGcPTIC CAPITAL LETTER AKHMIMIC KHEIxLFAwBOHAIRIC KHEIwCROSSED SHEIyYPTOGRAMMIC EIE",
   "zlGANGIAzlNIzlSHEIwDALDAxEIxIALECT-P ALEFzhHORIzhKAPAzhNIwEIEwFEIxIwGAMMAyNGIAwHATExORIwIAUDA",
   "wKAPAxHEIyIxSIwL-SHAPED HAxAULAwMIwNIwOxLD COPTIC AINziDJAziESHziGANGIAziHAzkTzjEIzjORIziOOU",
   "ziSHEIzkIMAzbNUBIAN NGIzjYIziSHIMAziWAUxOUwPIxSIwROwSAMPIxHEIyIMAxIMAxOUwTAUxHETHEwUAwVIDA",
   "wZATAiOMBINING NI ABOVErSPIRITUS ASPERzbLENIShEPACT DIGIT EIGHTtFIVEuOURtNINEtONEtSEVENuIX",
   "tTHREEuWOnNUMBER EIGHT HUNDREDzYuFIFTYwVE HUNDREDvORTYwUR HUNDREDuNINE HUNDREDyTYuONE HUNDRED",
   "uSEVEN HUNDREDzTYvIX HUNDREDxTYuTENvHIRTYwREE HUNDREDvWENTYwO HUNDREDnTHOUSANDS MARK",
   "hFRACTION ONE HALFiULL STOPhMORPHOLOGICAL DIVIDERhOLD NUBIAN DIRECT QUESTION MARKsFULL STOP",
   "sINDIRECT QUESTION MARKsVERSE DIVIDERhSMALL LETTER AKHMIMIC KHEIvLFAuBOHAIRIC KHEI",
   "uCROSSED SHEIwYPTOGRAMMIC EIEzjGANGIAzjNIzjSHEIuDALDAvEIvIALECT-P ALEFzfHORIzfKAPAzfNIuEIEuFEI",
   "vIuGAMMAwNGIAuHATEvORIuIAUDAuKAPAvHEIwIvSIuL-SHAPED HAvAULAuMIuNIuOvLD COPTIC AINzgDJAzgESH",
   "zgGANGIAzgHAziTzhEIzhORIzgOOUzgSHEIziIMAyNUBIAN NGIzhYIzgSHIMAzgWAUvOUuPIvSIuROuSAMPIvHEIwIMA",
   "vIMAvOUuTAUvHETHEuUAuVIDAuZATAiYMBOL KAIpHI ROoMI ROoPI ROoSHIMA SIMApTAUROSoTAU RO",
   "dYLEFT SYMBOLeRIGHT SIGNcRALdNISH VERSE DIVIDERdRESPONDS TOcUCH AND LAMPdNTERBOREhSINK",
   "fING ROD TENS DIGIT EIGHTyFIVEzOURyNINEyONEySEVENzIXyTHREEzWOnUNIT DIGIT EIGHTyFIVEzOURyNINE",
   "yONEySEVENzIXyTHREEzWOdPLE WITH HEARTcWd FACEbRcABcEDIT CARDdSCENT MOONcICKETh BAT AND BALL",
   "cOCODILEdISSANTdSS MARKgOF JERUSALEMjLORRAINEgPATTY WITH LEFT CROSSBARrRIGHT CROSSBARhOMMEE",
   "m WITH HALF-CIRCLE BELOWfED FLAGSiNEGATIVE SQUARED LATIN CAPITAL LETTER PiSWORDSfING LANESdWN",
   "cUTCHdZEIRO SIGNcYING CAT FACEhFACEdSTAL BALLbSIbUBE ROOTcCUMBER",
   "cNEIFORM NUMERIC SIGN EIGHT ASHzeDISHzeGESH2zeSHAR2zeUzf VARIANT FORMzeVARIANT FORM USSUzv3",
   "yLAMITE FIFTYzhORTYzgONE THIRDzgTWO THIRDSxFIVE ASHzg TENUzdBAN2zh VARIANT FORMzeURUzdDISH",
   "zdGESH2zhUzdSHAR2zhUzeIXTHS DISHzdUze VARIANT FORMyOUR ASHzg TENUzdBAN2zh VARIANT FORMzeURU",
   "zdDISHzdGESH2zhUzdSHAR2zhUzdUze VARIANT FORMzdVARIANT FORM LIMMUzv AzwBzv4xNIGIDAESHzeMIN",
   "zNE ASHzdDISHzdGESH2zdSHAR2zdUze VARIANT FORMzdVARIANT FORM ILIMMUzw Azw3zw4",
   "xOLD ASSYRIAN ONE QUARTERzpSIXTHyNE BAN2zdURUzcEIGHTH ASHzdSHE3zcGESH2zgUzcHALF GUR",
   "zcQUARTER ASHzkGURzcSHARUzcTHIRD DISHziVARIANT FORM AxSEVEN ASHzeDISHzeGESH2zeSHAR2zeU",
   "zf VARIANT FORMzeVARIANT FORM IMIN AzwBzv3yHAR2 TIMES GAL PLUS DISHztMINyIX ASHzf TENUzcDISH",
   "zcGESH2zcSHAR2zcUzd VARIANT FORMzcVARIANT FORM ASH9xTHREE ASHzh TENUzeBAN2zfURUzi VARIANT FORM",
   "zeDISHzeGESH2ziUzeSHAR2zj VARIANT FORMziUzj VARIANT FORMzeVARIANT FORM ESH16zu21yWO ASHzf TENU",
   "zcBAN2zdURUzcESHE3zcGESH2zgUzcSHAR2zgUzcTHIRDS DISHzjVARIANT FORM A",
   "kPUNCTUATION SIGN DIAGONAL COLONzlQUADCOLONzlTRICOLONzcOLD ASSYRIAN WORD DIVIDER",
   "zcVERTICAL COLONkSIGN Aq TIMES AxBADxGAN2 TENUxHAxIGIxLAGAR GUNUxMUSHxSAGq2qBr GUNUsTIMES ASH2",
   "yDUN3 GUNUyGALzbN2 TENUyHAyIGI GUNUzMINyLAGAByNUNzc TENUySHESHzbU2yU PLUS U PLUS Ur2s TIMES A",
   "zBALAGzGAN2 TENUzME PLUS ENzSHA3zTAK4qDr TIMES ESH2qKr TIMES ERIN2ySHITA PLUS GISHqLr TIMES AL",
   "yDIM2yGISHyHAyKAD3zIySHEyUSHrANrEPHqMARt TIMES KUGzbSHEqNr OVER AN",
   "sPLUS NAGA OPPOSING AN PLUS NAGAzdSQUAREDsTHREE TIMESrSHEqPINqRADt TIMES KURrKABqSAL2rH",
   "s KABA TENUtOVER ASH OVER ASHzl CROSSING ASH OVER ASH OVER ASH",
   "zdTUG2 OVER TUG2 TUG2 OVER TUG2 PAPtZIDA TENUs2sGABpBArDs TIMES DISH TENUrG3rHAR2v TIMES AB2",
   "zdNIzdZArLs OVER BALsAGrRsA2qIr TIMES AyGARyIGI GUNUqUr CROSSING BUsOVER BU ABzbTIMES NA2zbUN",
   "rLUGu OVER BULUGrRs2pDAr TIMES TAK4rGs KISIM5 TIMES A PLUS MASHziMARzhBALAGziIzhGAzj PLUS MASH",
   "ziIzjR2ziUDzhHAzhIRzj PLUS LUzhKAKzhLAziUzj PLUS MASH2zjMzhNEzhPAP PLUS PAPzhSIzhTAK4",
   "zhU2 PLUS GIR2zpMASHziSHtTIMES KURs3rMrRsA3t4qIrBrMs TIMES IGIzSHEzU U Us2t TIMES UDrN",
   "s KASKAL U GUNU DISHrSHt PLUS SHUqUr GUNUsOVER DUsSHESHIGrBs TIMES ESH2zSHEs2rGs TIMES ANSHE",
   "zbSHzd AT LEFTzDINzbUNzERIN2zGAzbIzcR2 GUNUzcSHzHAzbIzIGI GUNUzKASKALzbURzcSHU2zg PLUS KASKAL",
   "zLAK-020zcMzd TIMES KURzbUH PLUS GISHzMASHzbESzbIzNIzPIzSHEzbI GUNUsUDrHrNs3t GUNUy GUNUs4rR2",
   "pEq OVER E NUN OVER NUNrTIMES PAPq2r TIMES A PLUS HA PLUS DAyGARyKURyMIyPAPySALzHEyUqDINqGIRqL",
   "qNr CROSSING ENsOPPOSING ENsSQUAREDsTIMES GAN2zd TENUyMEqRENrIN2u XqSH2t CROSSING ESH2qZEN",
   "t SHESHIG TIMES ASHzjHIzjIGI GUNUzjLAzlLzjMEzlSzjSUuTIMES Azc PLUS LALzl TIMES LALzcNzbBAD",
   "zbDUN3 GUNUzk GUNUzbGUDzbHAzd GUNUzbIGI GUNUzbKASKALzh SQUAREDzcU3zbLAzdL TIMES LALzcIzcUzbSHE",
   "zcUzbU2zcDpGAr GUNUr2s OVER GA2tTIMES A PLUS DA PLUS HAzhHAzhIGIzbB2 TENU PLUS TABzbN",
   "zc PLUS KAK PLUS AzbSHzd2ze PLUS GALzBADzcHAR2zcR PLUS RAzbURzd PLUS RAzDAzbIzcM GUNU",
   "zeTIMES SHEzbUBzcG TIMES IGI GUNUzkKASKALzELzc PLUS LAzbNzc TIMES GAN2 TENUzbRENzGAzcN2 TENU",
   "zcRzd PLUS DIzjNEzbIzc4zd PLUS AzcR2 PLUS SUzHA PLUS AziLU PLUS ESH2zcLzd PLUS LAzbI PLUS LI",
   "zbUB2zIGI GUNUzbSH PLUS HU PLUS ASHzKAKzcSKALzbIDzd PLUS LALzbU3 PLUS ANzcSHU2 PLUS KASKALzLA",
   "zcMzd TIMES KURzbUHzME PLUS ENzbIzbUSHzNEzc PLUS E2ziGIzbUNzd OVER NUNzPAzSALzcRzbHE",
   "zd PLUS TURzcIDzdMzbUMzTAK4zUzbDzc PLUS DUzZIZ2rBAt CROSSING GABAuROTATED NINETY DEGREESrD",
   "s OVER GAD GAR OVER GARrLs GAD OVER GAD GAR OVER GARsAMrMrNs2t CROSSING GAN2uOVER GAN2uTENUrR",
   "s3rSHANqE22rSHTINw TIMES KURzeUqIr CROSSING GIsTIMES EyUr4s CROSSING GI4tOVER GI4rDIMrGrR2",
   "t GUNUs3t TIMES A PLUS IGIzbGAN2 TENUzbIGIzbLU PLUS IGIzbPArSALsHt CROSSING GISHuTENUvIMES BAD",
   "zbGISH CROSSING GISHzbTAK4qUr CROSSING GUr2s GUNUtTIMES IGI GUNUzKAKzd TIMES IGI GUNUzNUN",
   "zSAL PLUS TUG2rDs OVER GUD LUGALtPLUS GISH TIMES TAK4tTIMES A PLUS KURzKURrLrMs TIMES SHErRs7",
   "sUNtSHpHAr GUNUsTENUw GUNUrLqIr TIMES ASHzc OVER HI TIMES ASHzc2yBADyDISHyGADyKINyNUNySHEyUqU",
   "rB2t TIMES ANzbHALzbKASKALzbLISHzbUDrL2rSHpIq AqBqDIMt OVER IDIM BURzfSQUAREDqGrIs DIBtGUNU",
   "tOVER IGI SHIR OVER SHIR UD OVER UDtRIqLr TIMES GAN2 TENUr2qMr CROSSING IMsOPPOSING IMsSQUARED",
   "sTIMES TAK4rINqNqRqSHpKAr TIMES AzDzb PLUS KU3zNSHEzSH2zc3yBADzbLAGzbRzIzUyERIN2zSH2yGAzbL",
   "zbN2 TENUzbRzc PLUS SHA3 PLUS AzIzbR2zbSHzd CROSSING GISHzePLUS SARzUzbDzbR7yHI TIMES ASH2yIGI",
   "zMyKAzbKzIzbDyLIzUzbMyMEzb PLUS DUzhGIzhTEzIzb PLUS NUNUZyNEzUNyPAzIyRUySAzbRzHAzbEzbIDzbUzcL",
   "zIGzUHURyTARzUyUz U Uz2zDzMUM TIMES PAzRzb2zSHyZIr2s CROSSING KA2rBrD2s3s4s5t OVER KAD5rK",
   "s TIMES IGI GUNUrLs CROSSING KALtTIMES BADrM2s4rP ELAMITErSKAL",
   "v LAGAB TIMES U OVER LAGAB TIMES UwOVER KASKAL LAGAB TIMES U OVER LAGAB TIMES UqESH2qI",
   "r TIMES BADyUzDrDrNrSALsHsIM5v OVER KISIM5qUr OVER HI TIMES ASH2 KU OVER HI TIMES ASH2r3r4",
   "s VARIANT FORMr7rLs GUNUrNrRs OPPOSING KURrSHU2qWU318pLArGABu SQUAREDvTIMES A",
   "zd PLUS DA PLUS HAzjGARzjLALzdLzdNzdSH ZIDA TENUzcBADzdIzcDARzcENzcGAzeRzdIzdUDzf PLUS GUDzcHA",
   "zeLzdI TIMES NUNzcIGI GUNUzdMze PLUS HAzkLUzcKIzeNzdU3zeLzf PLUS HI PLUS AzcLAGABzdISHzdUzeL",
   "zcMEze PLUS ENzdUSHzcNEzcSHE PLUS SUMzeITA PLUS GISH PLUS ERIN2zsTENUzeU2zg PLUS SHU2zdUMzcTAG",
   "zeK4zdE PLUS A PLUS SU PLUS NAzcUzd PLUS AzjU PLUS Uzd2 PLUS ASHzdDzdSHzcZU OVER ZUtRu GUNU",
   "z OVER LAGAR GUNU SHEvTIMES SHEzf PLUS SUMrHSHUrK-003u21v5u30u50v1u62u79 OVER LAK-079 GUNUu80",
   "v1 OVER LAK-081u92t130u42t210v9u20v5v8u38u65v6t343v7v8u83v4u90t441v9w TIMES GUzeIGI",
   "zePAP PLUS LU3znPAP PLUS LU3zeU2 PLUS BAu50v7u70u83u90v2v3v5t550t608u17w TIMES ASHzeBAD",
   "zeDUN3 GUNU GUNUzeKU3zeLAzeTARzfEzeU2zfDzfRUDAu36u48w TIMES DUBzeGAzeIGIzh GUNUzeNI",
   "zePAP PLUS PAP PLUS LU3zeSHESH PLUS KIzeUDzfRUDAt724u49rLs TIMES LALrMs TIMES KURzd PLUS RUqI",
   "rLrMMU2rSHqUr TIMES BADr2s CROSSING LU2tGUNU TIMES ASHtOPPOSING LU2tSHESHIGzb TIMES BADuQUARED",
   "tTENUuIMES ALzBADzDISHzESH2ze PLUS LALzfTENUzGAN2 TENUzHALzbI TIMES BADzIMzKAD2zd3ze PLUS ASH",
   "zbIzLA PLUS ASHzcGABzME PLUS ENzNEzbUzPAPzd PLUS PAP PLUS LU3zSHUzbI PLUS ASHzcK2 PLUS BUzTAK4",
   "zbUG2r3rGALu OPPOSING LUGALwVER LUGALvSHESHIGrHrLrMs OVER LUMzc GAR OVER GARpMAr GUNU",
   "sTIMES TAK4r2rHrRrSHt2qErSsHqIr PLUS ZA7rNqUr OVER MUrGs GUNUrNSUBrRGU2rSHt CROSSING MUSH",
   "uOVER MUSHze TIMES A PLUS NAzlGAzlKAKuTIMES AzbKURzbZAt3u GUNUvTIMES Azd PLUS DIzcDIzcZApNAr2",
   "r4rGAt INVERTEDuOPPOSING NAGAuTIMES SHU TENUtRrMs NUTILLUs2qEr SHESHIGsTIMES AyUDqIr TIMES Er2",
   "rMs TIMES GAN2 TENUzcR PLUS GAN2 TENUrNs9sDA2v TIMES ANzeSHzg PLUS ASHzdBALzdDIM GUNUzdGIzfSH",
   "zeUDzfLzdHIzdKESH2zdLAK-050zdMASHzeE PLUS GAN2 TENUzdNEzeUNzdPAP PLUS PAPzdSHEzg PLUS A ANznSH",
   "zp PLUS ASHzdUze PLUS Uze2 PLUS ASHzeRUDAzeSHrSAGqUr11t OVER NU11 BUR OVER BUR",
   "uROTATED NINETY DEGREESuTENUrNs CROSSING NUNzg LAGAR OVER LAGARtLAGAR TIMES GARzgMASHzgSAL",
   "zj OVER NUN LAGAR TIMES SALzgUSHtOVER NUNtTENUsUZu AB2 TIMES ASHGABzgBIzgDUGzgGUDzgIGI GUNU",
   "zgKAD3zgLAzgNEzgSILA3zgU2vKISIM5 TIMES BIzl UpPArDrNrPqESH2u ASTERISKqIr CROSSING PIsTIMES AzB",
   "yBIzUyEyIzByUz2rR2sIGu OPPOSING PIRIGvTIMES KALzcUDzcZApRArBqIqUpSArGs GUNUx TIMES HAtNUTILLU",
   "tOVER SAGtTIMES AzDUzcBzENzHAzIGI GUNUzKAKzbURzLUMzMIzNUNzSALzbHE AT LEFTzcIDzTABzcK4zU2zbBzbM",
   "zbRzbSHrLs LAGAB TIMES ASH2rNGA2rRqHAs3t TIMES AzbBADzbGISHzbNEzbSHU2zbTURzbUzc PLUS As6t TENU",
   "sB6sR2rEs HUtOVER SHEzc GAD OVER GAD GAR OVER GARzdTAB OVER TAB GAR OVER GARtPLUS HUB2yNAM2",
   "ySARsG9sNsSHu2uLAMrIDt TIMES AzbIMsMt TIMES AzbBALzcULUGzbDINzbGARzbIGIze GUNUzbKUSHU2zbLUL",
   "zbMUGzbSALsNIGsRt OVER SHIR BUR OVER BURuTENUsTArUs OVER INVERTED SHUs2t PLUS DUG TIMES NI",
   "zE2 TIMES ANsBURqIr GUNUsTIMES TAK4rGs4t OVER SIG4 SHU2rK2rLA3qUr OVER SUrDs2rHURrMsASHrRs9pTA",
   "r ASTERISKsGUNUsTIMES HIyMIrBs OVER TAB NI OVER NI DISH OVER DISHtSQUAREDrGs TIMES BIzGUDzSHE",
   "zcUzTUG2zUDrK4t PLUS SAGrRqEr GUNUqIr TENUr2rLrRs OVER TIRzc GAD OVER GAD GAR OVER GAR",
   "tTIMES TAK4qUrG2rKrMs TIMES GAN2 TENUzTHREE DISHrRs OVER TUR ZA OVER ZApUq GUD",
   "rOVER U PA OVER PA GAR OVER GARySUR OVER SURyU REVERSED OVER U REVERSEDrUs Uq2qBqDr GUNU",
   "sKUSHU2sSHESHIGz TIMES BADsTIMES BADyMIyU PLUS U PLUS Uzo GUNUrUGqMr TIMES LAGAByMEzb PLUS DA",
   "ySHA3yUrBINrUMt TIMES KASKALzbPAqNr GUNUqRr CROSSING URsSHESHIGr2s INVERTEDtTIMES A PLUS HA",
   "zhNAzbLzHAzNUNzU2zc PLUS ASHziBIzbDr4rIs3rUs TIMES AzbSHGABzBARzDARA3zbUNzGAzcLzcN2 TENUzcRzbU",
   "zHAzIGIzbMzbSHzKIzLAK-668zbU3zcMzMINzPAzSHEzbIG4zTUzU PLUS GUDzbDzbRUDAsDAu TIMES UqSH",
   "s TIMES AzKUzcRzTAK4s2sUMXsXqTUKIqZ3s TIMES KASKALrUpZAr SQUARED TIMES KURsTENUr7rGrMXqE2qI",
   "r OVER ZIr3rBs KABA TENUrGrZ2qUr OVER ZU PLUS SARr5s TIMES AzTHREE DISH TENUrBURrM",
   "cP ON BLACK SQUAREeWITH STRAWdCAKEdIDOcRLING STONEeY BRACKET EXTENSIONgLOGICAL ANDoORiOP",
   "dRENCY EXCHANGEjSIGNeY AND RICEdVED STEM PARAGRAPH SIGN ORNAMENTcSTARDeOMScT OF MEATbYCLONE",
   "cLINDRICITYcPRIOT SYLLABLE ArErIrJAsOrKAsEsIsOsUrLAsEsIsOsUrMAsEsIsOsUrNAsEsIsOsUrOrPAsEsIsOsU",
   "rRAsEsIsOsUrSAsEsIsOsUrTAsEsIsOsUrUrWAsEsIsOrXAsErZAsOeO-MINOAN SIGN CM001w2w4w5w6w7w8w9v10w1",
   "w2xBw3w5w7w9v21w3w4w5w6w7w8w9v30w3w4w5w6w7w8w9v40w1w4w6w7w9v50w1w2w3w4w5w6w8w9v60w1w2w3w4w6w7",
   "w8w9v70w1w2w3w4w5xBw6w8w9v80w1w2w3w4w5w6w7w8w9v90w1w2w4w5w6w7w8w9u100w1w2w3w4w5w7w8w9v10w2w4",
   "u301w2cRILLIC CAPITAL LETTER Az WITH BREVEzgDIAERESISzBKHASIAN CHEzm WITH DESCENDERzjDZEzjHA",
   "zLEUT KAyBARRED Ozh WITH DIAERESISzbSHKIR KAzEzIG YUSzbNOCULAR OzLENDED YUSzROAD OMEGA",
   "zYELORUSSIAN-UKRAINIAN IyCCHEzHEzc WITH DESCENDERzjIAERESISziVERTICAL STROKEzLOSED LITTLE YUS",
   "zROSSED OyDCHEzEzJEzcRVzOUBLE MONOCULAR OzgOzWEzZEzcLOzbHEzbWEzbZEzcHEyEz WITH DIAERESISzFzL",
   "zb WITH DESCENDERzhHOOKzhMIDDLE HOOKzhTAILzMzb WITH TAILzNzb WITH DESCENDERzhHOOKzhLEFT HOOK",
   "zhMIDDLE HOOKzhTAILzRzb WITH TICKzSzb WITH DESCENDERyFITAyGHEzc WITH DESCENDERziMIDDLE HOOK",
   "ziSTROKEzo AND HOOKziUPTURNzJEyHAzb WITH DESCENDERzhHOOKzhSTROKEzbRD SIGNzWEyIz WITH DIAERESIS",
   "zgGRAVEzgMACRONzEzb WITH BREVEzhGRAVEzOzbTAzcIFIED AziBIG YUSziCLOSED LITTLE YUSziE",
   "ziLITTLE YUSziYATzZHITSAzg WITH DOUBLE GRAVE ACCENTyJEyKAzb WITH DESCENDERzhHOOKzhSTROKE",
   "zhVERTICAL STROKEzHAKASSIAN CHEzJEzOMI DEzfJEzfZJEzeLJEzeNJEzeSJEzeTJEzeZJEzbPPAzSIyLHA",
   "zITTLE YUSzJEyMONOCULAR OzdGRAPH UKyNEUTRAL YERzJEyOz WITH DIAERESISzMEGAze WITH TITLOzTyPE",
   "zb WITH DESCENDERzhMIDDLE HOOKzSIyQAyREVERSED DZEziTSEziYUziZEzHAzOUND OMEGAySCHWA",
   "ze WITH DIAERESISzEMISOFT SIGNzHAzbCHAzbHAzd WITH DESCENDERzbORT Izg WITH TAILzfUzbWEzOFT DE",
   "zeELzfMzeSIGNzTRAIGHT Uzj WITH STROKEyTCHEzEzb WITH DESCENDERzhMIDDLE HOOKzSEzbHEzbSEzbWEzWEyU",
   "z WITH DIAERESISzhOUBLE ACUTEzgMACRONzKzbRAINIAN IEyVEyWEyYAzbEzbTzERUzd WITH BACK YER",
   "zjDIAERESISzIzNzUyZEzb WITH DESCENDERziIAERESISzbMLYAzHEzc WITH BREVEziDESCENDERzjIAERESISzbWE",
   "sIGATURE A IEzbEN GHEzbTE TSEjKAVYKAjLETTER MULTIOCULAR OqPALOCHKAqSMALL CAPITAL ELjPAYEROK",
   "jSMALL LETTER Ax WITH BREVEzeDIAERESISxBKHASIAN CHEzk WITH DESCENDERzhDZEzhHAxLEUT KAwBARRED O",
   "zf WITH DIAERESISySHKIR KAxExIG YUSyNOCULAR OxLENDED YUSxROAD OMEGAxYELORUSSIAN-UKRAINIAN I",
   "wCCHExHEz WITH DESCENDERzhIAERESISzgVERTICAL STROKExLOSED LITTLE YUSxROSSED OwDCHExExJEzRV",
   "xOUBLE MONOCULAR OzeOxWExZEzLOyHEyWEyZEzHEwEx WITH DIAERESISxFxLy WITH DESCENDERzfHOOK",
   "zfMIDDLE HOOKzfTAILxMy WITH TAILxNy WITH DESCENDERzfHOOKzfLEFT HOOKzfMIDDLE HOOKzfTAILxR",
   "y WITH TICKxSy WITH DESCENDERwFITAwGHEz WITH DESCENDERzgMIDDLE HOOKzgSTROKEzm AND HOOKzgUPTURN",
   "xJEwHAy WITH DESCENDERzfHOOKzfSTROKEyRD SIGNxWEwIx WITH DIAERESISzeGRAVEzeMACRONxEy WITH BREVE",
   "zfGRAVExOyTAzIFIED AzgBIG YUSzgCLOSED LITTLE YUSzgEzgLITTLE YUSzgYATxZHITSA",
   "ze WITH DOUBLE GRAVE ACCENTwJEwKAy WITH DESCENDERzfHOOKzfSTROKEzfVERTICAL STROKExHAKASSIAN CHE",
   "xJExOMI DEzdJEzdZJEzcLJEzcNJEzcSJEzcTJEzcZJEyPPAxSIwLHAxITTLE YUSxJExONG-LEGGED DEwMONOCULAR O",
   "zbGRAPH UKwNARROW OxEUTRAL YERxJEwOx WITH DIAERESISxMEGAzc WITH TITLOxTwPALOCHKAxE",
   "y WITH DESCENDERzfMIDDLE HOOKxSIwQAwREVERSED DZEzgTSEzgYUzgZExHAxOUND OMEGAzcED VEwSCHWA",
   "zc WITH DIAERESISxEMISOFT SIGNxHAyCHAyHAzb WITH DESCENDERyORT Ize WITH TAILzdUyWExOFT DEzcEL",
   "zdMzcSIGNxTRAIGHT Uzh WITH STROKEwTALL HARD SIGNzcTEzcYATxCHExEy WITH DESCENDERzfMIDDLE HOOK",
   "xHREE-LEGGED TExSEyHEySEyWExWEwUx WITH DIAERESISzfOUBLE ACUTEzeMACRONxKyRAINIAN IExNBLENDED UK",
   "wVEwWExIDE ESwYAyEyTxERUzb WITH BACK YERzhDIAERESISxIxNxUwZEy WITH DESCENDERzgIAERESISyMLYAxHE",
   "z WITH BREVEzgDESCENDERzhIAERESISyWEqIGATURE A IEyEN GHEyTE TSEjTHOUSANDS SIGNaDAGGERg KNIFE",
   "hWITH LEFT GUARDmRIGHT GUARDcLET SYMBOLcNCERdGOcRK SHADEgUNGLASSEScSH SYMBOLfWITH LEFT UPTURN",
   "eED LOW LINEhOVERLINEhTRIANGLE-HEADED RIGHTWARDS ARROWcTA LINK ESCAPEbC1c2c3c4cSbEAF PERSON",
   "cCIDUOUS TREEeMAL EXPONENT SYMBOLiSEPARATOR KEY SYMBOLdREASE FONT SIZE SYMBOLcERcGREE CELSIUS",
   "hFAHRENHEIThSIGNcLdETEdIVERY TRUCKdTA EQUAL TOcNTISTRY SYMBOL LIGHT DOWN AND HORIZONTAL",
   "zr WITH CIRCLEzxTRIANGLEzxWAVExUP AND HORIZONTALzp WITH CIRCLEzvTRIANGLEzvWAVE",
   "xVERTICAL AND BOTTOM LEFTzsRIGHTzlTOP LEFTzpRIGHTzlWAVEzhWITH CIRCLEzmTRIANGLEcPARTMENT STORE",
   "cRELICT HOUSE BUILDINGcSCENDING NODEdERET CAPITAL LETTER AYxBEExCHEExDEExEFyLyMyNzGyRySzHyTHyW",
   "xGAYxHxJEExKAYxLONG AzeHzdEzdIzdOzeOxOIyWxPEExSHORT AzfHzeEzeIzeOzfOxTEEyHEExVEExWUxYEExZEE",
   "yHEEiSMALL LETTER AYvBEEvCHEEvDEEvEFwLwMwNxGwRwSxHwTHwWvGAYvHvJEEvKAYvLONG AzcHzbEzbIzbOzcOvOI",
   "wWvPEEvSHORT AzdHzcEzcIzcOzdOvTEEwHEEvVEEvWUvYEEvZEEwHEEfTg ISLANDdKTOP COMPUTERiWINDOW",
   "cVANAGARI ABBREVIATION SIGNmCUTE ACCENTlCARETlDANDAmIGIT EIGHTrFIVEsOURrNINErONErSEVENsIX",
   "rTHREEsWOrZEROmOUBLE DANDAlGAP FILLERmRAVE ACCENTlHEADSTROKElJAIN OMlLETTER AtAtItUtWtYsBAtBA",
   "tHAsCAuNDRA AzEzOtHAsDAtDAuDAvHAuHAtHAsEsFAsGAtGAtHAuHAtLOTTAL STOPsHAtEAVY YAsItIsJAtHAtJAsKA",
   "tHAuHAsLAtLAuLAsMAuRWARI DDAsNAtGAtNAuNAtYAsOtEtOEsPAtHAsQAsRAtHAtRAsSAtHAuORT AyEyOtSAsTAtHA",
   "tTAuHAsUtEtUuEsVAtOCALIC LzcLzbRzcRsYAtYAsZAtHAlOMlSIGN ANUSVARArVAGRAHAqCANDRABINDU",
   "zc AVAGRAHAzdTHREEzeWOzdVIRAMAqDOUBLE CANDRABINDU VIRAMAqHIGH SPACING DOTqINVERTED CANDRABINDU",
   "qNUKTAqPUSHPIKAqSIDDHAMrPACING CANDRABINDUqVIRAMAsSARGAmTRESS SIGN ANUDATTAxUDATTA",
   "lVOWEL SIGN AAxIxUxWxYwCANDRA EzeLONG EzeOwEwIxIwOxExOEwPRISHTHAMATRA EwSHORT EzdOwUxExUyE",
   "wVOCALIC LzgLzfRzgRdICE CONTROL FOURpONEpSTRINGpTHREEqWObIAERESISdMETER SIGNeOND OPERATOR",
   "iSHAPE WITH A DOT INSIDEiTARGETiWITH BOTTOM HALF BLACKnLEFT HALF BLACKnRIGHT HALF BLACK",
   "nTOP HALF BLACKcE FACE-1j2j3j4j5j6dSEL LOCOMOTIVEcFFERENCE BETWEENcGIT EIGHTl COMMAmFULL STOP",
   "gFIVEk COMMAlFULL STOPhOURk COMMAlFULL STOPgNINEk COMMAlFULL STOPgONEj COMMAkFULL STOPgSEVEN",
   "l COMMAmFULL STOPhIXj COMMAkFULL STOPgTHREEl COMMAmFULL STOPhWOj COMMAkFULL STOPgZEROk COMMA",
   "lFULL STOPdRAM FOR EARTHqLY HEAVENuUMANlGREATER YANGuINlHEAVENLY EARTHmUMAN EARTHlLESSER YANG",
   "tINcMENSION ORIGINcNGBAT CIRCLED SANS-SERIF DIGIT EIGHTziFIVEzjOURziNINEziONEziSEVENzjIX",
   "ziTHREEzjWOziZEROzcNUMBER TENiNEGATIVE CIRCLED DIGIT EIGHTzgFIVEzhOURzgNINEzgONEzgSEVENzhIX",
   "zgTHREEzhWOzNUMBER TENzSANS-SERIF DIGIT EIGHTzrFIVEzsOURzrNINEzrONEzrSEVENzsIXzrTHREEzsWO",
   "zrZEROzlNUMBER TENcRECT CURRENT SYMBOL FORM TWOhHITcSABLED CARePPOINTED BUT RELIEVED FACEnFACE",
   "dCONTINUOUS UNDERLINE SYMBOLdGUISED FACEcTTO MARKcVES AKURU DIGIT EIGHTsFIVEtOURsNINEsONE",
   "sSEVENtIXsTHREEtWOsZEROnOUBLE DANDAmEND OF TEXT MARKmGAP FILLERmINITIAL RAmLETTER AuAtBAuHAtCA",
   "uHAtDAuDAvHAuHAtEtGAuHAtHAtIuItJAtKAuHAtLAuLAtMAtNAuGAuNAuYAtOtPAuHAtRAtSAuHAuSAtTAuHAuTAtUuU",
   "tVAtYAuYAtZAmMEDIAL RAtYAmPREFIXED NASAL SIGNmSIGN ANUSVARArCANDRABINDUrHALANTArNUKTAmVIRAMA",
   "nOWEL SIGN AAyIxExIyIxOxUyUdIDESeNG MASKeSION SIGNkLASHjTIMESdORCE SYMBOLcYA LAMPcZZY FACE",
   "gSYMBOLbLEbNA DOUBLE HELIXbO NOT LITTER SYMBOLcCUMENTi WITH PICTUREoTEXTs AND PICTUREcDO",
   "cES NOT CONTAIN AS MEMBERuNORMAL SUBGROUPzk OR EQUALjDIVIDEp WITH REVERSED NEGATION SLASH",
   "jFORCEjPRECEDEq OR EQUALlOVEjSUCCEEDq OR EQUALcGd FACEdRA ABBREVIATION SIGNgLETTER AoAoIoUnBA",
   "oHAnCAoHAnDAoDApHAoHAnEnGAoHAnHAnIoInJAoHAnKAoHAnLAnMAnNAoGAoNAoYAnOnPAoHAnRAoRAnSAoHAoSAnTA",
   "oHAoTApHAnUoUnVAnYAgSIGN ANUSVARAlNUKTAlVIRAMAnSARGAgVOWEL SIGN AAsIsUrErIsIrOrUsUrVOCALIC R",
   "zbRcLLAR SIGNdPHINcMINO TILE HORIZONTAL BACKw-00-00zc1zc2zc3zc4zc5zc6y1-00zc1zc2zc3zc4zc5zc6",
   "y2-00zc1zc2zc3zc4zc5zc6y3-00zc1zc2zc3zc4zc5zc6y4-00zc1zc2zc3zc4zc5zc6y5-00zc1zc2zc3zc4zc5zc6",
   "y6-00zc1zc2zc3zc4zc5zc6mVERTICAL BACKu-00-00z1z2z3z4z5z6w1-00z1z2z3z4z5z6w2-00z1z2z3z4z5z6",
   "w3-00z1z2z3z4z5z6w4-00z1z2z3z4z5z6w5-00z1z2z3z4z5z6w6-00z1z2z3z4z5z6cNG SIGNcORcT ABOVEeMINUS",
   "eOPERATORePLUSdTED CIRCLEiROSShFENCEhLINE FACEhOBELOShRIGHT-POINTING ANGLEhSOLIDUSiQUARE",
   "hTRANSPOSITION MARKERcUBLE ACUTE ACCENThCIRCLED DIGIT EIGHTvFIVEwOURvNINEvONEvSEVENwIXvTHREE",
   "wWOpNUMBER TENiOLON EQUALiURLY LOOPhDAGGERiOWN TACKhEXCLAMATION MARK",
   "hHIGH-REVERSED-9 QUOTATION MARKiYPHENhINTEGRALlRSECTIONhLEFT ARC GREATER-THAN BRACKET",
   "iOGICAL ANDpORjW LINEk-9 QUOTATION MARKlREVERSED-9 QUOTATION MARKhNESTED GREATER-THAN",
   "oLESS-THANx WITH UNDERBARhOBLIQUE HYPHENhPLUSiRECEDESjIMEm QUOTATION MARKhQUESTION MARK",
   "hRIGHT ARC LESS-THAN BRACKEThSOLIDUS OPERATORiQUARE INTERSECTIONoUNIONiTACKED COMMA",
   "jROKE NOT SIGNiUBSETjCCEEDSjPERSETjSPENSION MARKhUNIONiP TACKhVERTICAL BAR",
   "t DOUBLE LEFT TURNSTILEzcRIGHT TURNSTILEuLEFT TURNSTILEqLINEhWAVY OVERLINEg-ENDED MULTIMAP",
   "hLINE EQUAL TO OR GREATER-THANyLESS-THANmSLANTED EQUAL TO OR GREATER-THANzhLESS-THAN",
   "uGREATER-THAN OR EQUAL TOuLESS-THAN OR EQUAL TOhSTRUCK CAPITAL CwGAMMAwHwNwPxIwQwRwZ",
   "oITALIC CAPITAL DvSMALL DzcEzcIzcJoN-ARY SUMMATIONoSMALL GAMMAuPIgD FEMALE SIGNiMALE SIGN",
   "iSYMBOLdGHNUTcVE OF PEACEcWN ARROWHEADfFISH TAILfRIGHT DIAGONAL ELLIPSISfTACK",
   "j WITH CIRCLE BELOWe-POINTING RED TRIANGLEoSMALL RED TRIANGLEoTRIANGLE WITH LEFT HALF BLACK",
   "zdRIGHT HALF BLACKeWARD FACING HOOKu WITH DOTqNOTCHED HOOKzd WITH DOTiS ANCORAlRROW",
   "p AND RIGHT ONE EIGHTH BLOCKqFROM BARqLEFTWARDS OF UPWARDS ARROWqTO BARqWITH CORNER LEFTWARDS",
   "vDOUBLE STROKEvEQUILATERAL ARROWHEADvHORIZONTAL STROKEvLARGE TRIANGLE ARROWHEAD",
   "vMEDIUM TRIANGLE ARROWHEADvNOTCHED TAILvSMALL EQUILATERAL ARROWHEADzcTRIANGLE ARROWHEAD",
   "vTIP LEFTWARDSzRIGHTWARDSkBLACK ARROWqCIRCLED WHITE ARROWkCOMPRESSED ARROWkDASHED ARROW",
   "lOUBLE ARROWkFINGER-POST ARROWkHARPOON WITH BARB LEFT BESIDE DOWNWARDS HARPOON WITH BARB RIGHT",
   "zpUPWARDS HARPOON WITH BARB RIGHTziFROM BARziTO BARzhWARDSzdRIGHT FROM BARzjTO BARziWARDS",
   "lEAVY ARROWqCOMPRESSED ARROWkPAIRED ARROWSkQUADRUPLE ARROWkROCKETkSANS-SERIF ARROW",
   "lQUARED ARROWkTRIANGLE ARROWHEADs-HEADED ARROWzg LEFTWARDS OF UPWARDS TRIANGLE-HEADED ARROW",
   "zhTO BARzhWITH BOLD SHAFTzmDOUBLE HORIZONTAL STROKEzmHEAVY SHAFTzmLONG TIP LEFTWARDS",
   "zvRIGHTWARDSzmMEDIUM SHAFTzmNARROW SHAFTzmVERY HEAVY SHAFTzbDASHED ARROWzbPAIRED ARROWS",
   "zbZIGZAG ARROWnPLE ARROWlWO HEADED ARROWn-HEADED ARROW WITH TRIANGLE ARROWHEADSkWHITE ARROW",
   "v WITHIN TRIANGLE ARROWHEADkZIGZAG ARROWbRACHMA SIGNdFTING POINT RIGHTWARDS ARROWdGONg FACE",
   "cESScIVE SLOW SIGNcOMEDARY CAMELdOLING FACEdP OF BLOODeLETcUM WITH DRUMSTICKSbUCKcMPLING",
   "cPLOYAN AFFIX ATTACHED E HOOKyI HOOKyLEFT-TO-RIGHT SECANTySECANTyTAILzbNGENTzg HOOKpHIGH ACUTE",
   "uCIRCLEuDOTuGRAVEuLINEvONG GRAVEuTIGHT ACUTEuVERTICALzd SECANTuWAVEpLEFT HORIZONTAL SECANT",
   "qOW ACUTEuRROWtCIRCLEtDOTtGRAVEtLINEuONG GRAVEtTIGHT ACUTEtVERTICALzc SECANTtWAVE",
   "pMID HORIZONTAL SECANTtVERTICAL SECANTpRIGHT HORIZONTAL SECANTjDOUBLE MARKjLETTER ArOUqBqDr S",
   "rHqErErUqFr NqGr R SqHrLqIrEqJr Mt SsNt SsSt WITH DOTsWITH DOTzbS INSIDE AND ABOVEqKr MsR SrK",
   "qLrHrONG IvUqMr Nt SsSsWITH DOTqNr Mt SsSsWITH DOTrASAL AwIwOwUqOrArOHrUrWqPr NrERNIN AMyNqR",
   "r SrHrOMANIAN IzUqSr Jt SsKt RsMsNsPt RsSsTt RsWITH DOTzb BELOWrHORT IrLOAN ANwDHwEExHxNwJwON",
   "xWwUqTr R SsSrHqUr NrHrIqVrOCALIC MqWr RrArEIrHrIrOsWqXrWqYEjPUNCTUATION CHINOOK FULL STOP",
   "jSIGN O WITH CROSSjTHICK LETTER SELECTORbVDaE-MAIL SYMBOLbAGLEcRd OF MAIZEhRICE",
   "eWITH HEARING AIDdTHf GLOBE AMERICASnSIA-AUSTRALIAmEUROPE-AFRICAhROUNDcST SYRIAC CROSS",
   "bDITORIAL CORONISbGGcYPTIAN HIEROGLYPH A001x2x3x4x5yAx6yAyBx7x8x9w10x1x2x3x4yAx5x6x7yAx8x9w20",
   "x1x2x3x4x5x6x7x8x9w30x1x2yAx3x4x5x6x7x8x9w40yAx1x2yAx3yAx4x5yAx6x7x8x9w50x1x2x3x4x5x6x7x8x9w60",
   "x1x2x3x4x5x6x7x8x9w70vA001y2y3y4y5y6y7zAzBy8y9x10y1y2y3y4y5y6y7y8y9x20y1y2y3y4y5y6y7y8y9x30y1",
   "y2uB001x2x3x4x5yAx6x7x8x9vEGIN SEGMENTuC001x2yAyByCx3x4x5x6x7x8x9w10yAx1x2x3x4x5x6x7x8x9w20x1",
   "x2x3x4uD001x2x3x4x5x6x7x8yAx9w10x1x2x3x4x5x6x7x8x9w20x1x2x3x4x5x6x7yAx8x9w30x1yAx2x3x4yAx5x6x7",
   "x8x9w40x1x2x3x4x5x6yAx7x8yAx9w50yAyByCyDyEyFyGyHyIx1x2yAx3x4yAx5x6x7x8x9w60x1x2x3x4x5x6x7yAyB",
   "yCyDyEyFyGyHuE001x2x3x4x5x6x7x8yAx9yAw10x1x2x3x4x5x6yAx7yAx8x9w20yAx1x2x3x4x5x6x7x8yAx9w30x1x2",
   "x3x4yAx6x7x8vND SEGMENTuF001yAx2x3x4x5x6x7x8x9w10x1x2x3yAx4x5x6x7x8x9w20x1yAx2x3x4x5x6x7x8x9",
   "w30x1yAx2x3x4x5x6x7yAx8yAx9w40x1x2x3x4x5yAx6yAx7yAx8x9w50x1yAyByCx2x3uG001x2x3x4x5x6yAx7yAyBx8",
   "x9w10x1yAx2x3x4x5x6x7x8x9w20yAx1x2x3x4x5x6yAx7x8x9w30x1x2x3x4x5x6yAx7yAx8x9w40x1x2x3yAx4x5yAx6",
   "x7x8x9w50x1x2x3x4uH001x2x3x4x5x6yAx7x8vORIZONTAL JOINERuI001x2x3x4x5yAx6x7x8x9yAw10yAx1yAx2x3",
   "x4x5vNSERT AT BOTTOM ENDzmSTARTzfTOP ENDzjSTARTuK001x2x3x4x5x6x7x8uL001x2yAx3x4x5x6yAx7x8uM001",
   "yAyBx2x3yAx4x5x6x7x8x9w10yAx1x2yAyByCyDyEyFyGyHx3x4x5yAx6yAx7yAx8x9w20x1x2yAx3x4yAx5x6x7x8yAx9",
   "w30x1yAx2x3yAyBx4x5x6x7x8x9w40yAx1x2x3x4uN001x2x3x4x5x6x7x8x9w10x1x2x3x4x5x6x7x8yAyBx9w20x1x2",
   "x3x4x5yAx6x7x8x9w30x1x2x3yAx4yAx5yAx6x7yAx8x9w40x1x2vL001y2y3y4y5zAy6y7y8y9x10y1y2y3y4y5y6y7zA",
   "y8y9x20vU001y2y3y4y5y6y7y8y9x10zAy1zAy2y3y4y5y6y7y8zAy9x20y1y2zAuO001yAx2x3x4x5yAx6yAyByCyDyE",
   "yFx7x8x9w10yAyByCx1x2x3x4x5x6x7x8x9yAw20yAx1x2x3x4yAx5yAx6x7x8x9yAw30yAx1x2x3yAx4x5x6yAyByCyD",
   "x7x8x9w40x1x2x3x4x5x6x7x8x9w50yAyBx1vVERLAY MIDDLEuP001yAx2x3yAx4x5x6x7x8x9w10x1uQ001x2x3x4x5",
   "x6x7uR001x2yAx3yAyBx4x5x6x7x8x9w10yAx1x2x3x4x5x6yAx7x8x9w20x1x2x3x4x5x6x7x8x9uS001x2yAx3x4x5x6",
   "yAx7x8x9w10x1x2x3x4yAyBx5x6x7yAx8x9w20x1x2x3x4x5x6yAyBx7x8x9w30x1x2x3x4x5yAx6x7x8x9w40x1x2x3x4",
   "x5x6uT001x2x3yAx4x5x6x7yAx8yAx9yAw10x1yAx2x3x4x5x6yAx7x8x9w20x1x2x3x4x5x6x7x8x9w30x1x2yAx3yAx4",
   "x5x6uU001x2x3x4x5x6yAyBx7x8x9w10x1x2x3x4x5x6x7x8x9w20x1x2x3yAx4x5x6x7x8x9yAw30x1x2yAx3x4x5x6x7",
   "x8x9w40x1x2uV001yAyByCyDyEyFyGyHyIx2yAx3x4x5x6x7yAyBx8x9w10x1yAyByCx2yAyBx3x4x5x6x7x8x9w20yAyB",
   "yCyDyEyFyGyHyIyJyKyLx1x2x3yAx4x5x6x7x8yAx9yAw30yAx1yAx2x3yAx4x5x6x7yAx8x9w40yAvERTICAL JOINER",
   "uW001x2x3yAx4x5x6x7x8x9yAw10yAx1x2x3x4yAx5x6x7yAx8yAx9w20x1x2x3x4yAx5uX001x2x3x4yAyBx5x6yAx7x8",
   "yAuY001yAx2x3x4x5x6x7x8uZ001x2yAyByCyDx3yAyBx4yAx5yAx6x7x8x9w10x1x2x3x4x5yAyByCyDyEyFyGyHyIx6",
   "yAyByCyDyEyFyGyHbIGHT PETALLED OUTLINED BLACK FLORETTEhOINTED BLACK STARoPINWHEEL STAR",
   "oRECTILINEAR BLACK STARgSPOKED ASTERISKgTEARDROP-SPOKED PROPELLER ASTERISKfH NOTEbJECT SYMBOL",
   "bLBASAN LETTER ApBEpCEqHEpDEqHEpEqIpFEpGEqHAMMArEqJEpHEpIpJEpKEqHEpLEqLEpMEpNAqDEqEqJEpOpPEpQE",
   "pREqREpSEqHEpTEqHEpUpVEpXEpYpZEqHEcECTRIC ARROWjLIGHT BULBjPLUGjTORCHiAL INTERSECTIONdMENT OF",
   "k OPENING DOWNWARDStUPWARDSlWITH DOT ABOVEqLONG HORIZONTAL STROKEqOVERBAR",
   "qTWO HORIZONTAL STROKESqUNDERBARqVERTICAL BAR AT END OF HORIZONTAL STROKEdPHANTdVATORcF",
   "cYMAIC LETTER ALEPHqYINpBETHpDALETHpGIMELpHErTHpKAPHpLAMEDHpMEMpNUNpPEpQOPHpRESHpSADHErMEKH",
   "qHINpTAWqETHpWAWpYODHpZAYINjIGATURE ZAYIN-YODHbM DASHdQUADdSPACEcOJI COMPONENT BALDqCURLY HAIR",
   "qRED HAIRqWHITE HAIRgMODIFIER FITZPATRICK TYPE-1-2zh3zh4zh5zh6cPHASIS SYMBOLdTY DOCUMENTgNEST",
   "hOTEk PADnGEgPAGEkSgSETj WITH LEFT ARROW ABOVEpOVERBARpRIGHT ARROW ABOVEpSMALL CIRCLE ABOVE",
   "bN DASHdQUADdSPACEcD OF GUARDED AREAhLINEhMEDIUMhPROOFkTECTED AREAhSELECTED AREAhTEXT",
   "iRANSMISSIONt BLOCKeWITH LEFTWARDS ARROW ABOVEcQdUIRYcTER SYMBOLcVELOPE",
   "i WITH DOWNWARDS ARROW ABOVEoLIGHTNINGbOLcMcTbPAbQUAL AND PARALLEL TOgTO BY DEFINITION",
   "jOR GREATER-THANmLESS-THANmPRECEDESmSUCCEEDSfS COLONhSIGNl ABOVE LEFTWARDS ARROWsPLUS SIGN",
   "sRIGHTWARDS ARROWsTILDE OPERATORnND SLANTED PARALLELzh WITH TILDE ABOVEmWITH BUMPY ABOVE",
   "rDOT BELOWrINFINITY BELOWrTWO DOTS ABOVE AND TWO DOTS BELOWhWITH ASTERISKdIANGULAR TO",
   "eVALENT TOlWITH FOUR DOTS ABOVEbRASE TO THE LEFTnRIGHTcIS FORM ONEkTWOcROR-BARRED BLACK CIRCLE",
   "tDIAMONDtSQUAREnWHITE CIRCLEtDIAMONDtSQUAREbSAcCdAPEcTIMATED SYMBOLiSbTBcHIOPIC COLON",
   "lMBINING GEMINATION AND VOWEL LENGTH MARKzfMARKtVOWEL LENGTH MARKmMAjDIGIT EIGHTpFIVEqOURpNINE",
   "pONEpSEVENqIXpTHREEqWOjFULL STOPjNUMBER EIGHTYqFIFTYrORTYqHUNDREDqNINETYqSEVENTYrIXTYqTEN",
   "t THOUSANDrHIRTYrWENTYjPARAGRAPH SEPARATORkREFACE COLONjQUESTION MARKjSECTION MARKlMICOLON",
   "kYLLABLE BAuAtBAvAuEvEuIuOuUtEuEtItOuAtUtWAuEvEuIsCAuAtCAvAuEvEuHAwAvEwEvHAxAwExEwIwOwUvIvOvU",
   "uIuOuUtEuEtHAvAuEvEuIuOvAuUuWAtItOuAtUtWAsDAuAtDAvAuEvEuHAAvEwEvIvOvUuIuOvAuUuWAtEuEtItOuAtU",
   "tWAtZAAuEvEuIuOuUsFAuAtEuEtItOtUtWAuEvEuItYAsGAuAtEuEtGAvAuEvEuIuOuUuWAwAvEwEvItItLOTTAL AzcA",
   "zbEzcEzbIzbOzcAzbUzbWAtOuAtUuRAGE BWEEzcIzFWEEzcIzGWEzdEzcIzHHWAzKWEzdEzcIzMWEEzcIzPWEEzcIzQWE",
   "zdEzcItWAvAuEvEuItYAvAuEvEuIuOuUsHAuAtEuEtHAvAuEvEuIuOuUuWAvEwEvIuYAwAvEwEvIvOvUtItOuAtUsJAuA",
   "tEuEtItOuAtUtWAsKAuAtEuEtItOuAtUtWAvAuEvEuItXAvAuEvEuIuOuUuWAwAvEwEvItYAvAuEvEuIuOuUsLAuAtEuE",
   "tItOuAtUtWAsMAuAtEuEtItOuAtUtWAuEvEuItYAsNAuAtEuEtItOuAtUtWAtYAvAuEvEuIuOvAuUuWAsPAuAtEuEtHAvA",
   "vRYNGEAL AzfAzeEzfEzeIzeOzeUuEvEuIuOvAuUuWAtItOuAtUtWAuEvEuIsQAuAtEuEtHAvAuEvEuIuOuUuWAwAvEwE",
   "vItItOuAtUtWAvAuEvEuItYAvAuEvEuIuOuUsRAuAtEuEtItOuAtUtWAtYAsSAuAtEuBATBEIT BWAzdFWAzdMWAzdPWA",
   "uEtHAvAuEvEuIuOvAuUuWAtItOuAtSAvAuEvEuIuOuUtUtWAtZAvAuEvEuIuOuUuWAsTAuAtEuEtHAvAuEvEuIuOvAuU",
   "uWAtItOuAtSAvAuEvEuIuOuUuWAtTHAAvEwEvIvOvUtUtWAtZAvAuEvEuIuOvAuUsVAuAtEuEtItOtUtWAsWAuAtEuEtI",
   "tOuAtUsXAuAtEuEtItOuAtUtWAvAuEvEuItYAvAuEvEuIuOuUsYAuAtEuEtItOuAtUsZAuAtEuEtHAvAuEvEuIuOuUuWA",
   "tItOuAtUtWAtZAvAuEvEuIuOuUjTONAL MARK CHIRETuDERETz-HIDETvIFATuHIDETuKENATvURTuRIKRIK",
   "uSHORT RIKRIKuYIZETjWORDSPACEcXbULER CONSTANTcRO SIGNe-CURRENCY SIGNePEAN CASTLEjPOST OFFICE",
   "bVERGREEN TREEbXCESSdLAMATION MARKmQUESTION MARKcPRESSIONLESS FACE",
   "cTENDED ARABIC-INDIC DIGIT EIGHTzdFIVEzeOURzdNINEzdONEzdSEVENzeIXzdTHREEzeWOzdZERO",
   "dRATERRESTRIAL ALIENeEMELY HEAVY FIVE SPOKED ASTERISKqGREEK CROSSqSALTIRErIX SPOKED ASTERISK",
   "qWHITE CIRCLEwSQUAREbYEdGLASSESdSaFACE HOLDING BACK TEARSfMASSAGEfPALM",
   "fSAVOURING DELICIOUS FOODgCREAMING IN FEARfTHROWING A KISSfWITH COLD SWEATmWBOY HAT",
   "kDIAGONAL MOUTHkFINGER COVERING CLOSED LIPSkHEAD-BANDAGEkLOOK OF TRIUMPHkMEDICAL MASKlONOCLE",
   "kNO GOOD GESTUREkOK GESTURElNE EYEBROW RAISEDlPEN EYES AND HAND OVER MOUTHpMOUTH",
   "u AND COLD SWEATvVOMITINGkPARTY HORN AND PARTY HATlEEKING EYElLEADING EYESkROLLING EYES",
   "kSTUCK-OUT TONGUEzb AND TIGHTLY-CLOSED EYESzgWINKING EYEkTEARS OF JOYlHERMOMETER",
   "kUNEVEN EYES AND WAVY MOUTHjOUT MOUTHdSIMILE SIGNdTORYcIRYcLAFELdLEN LEAF",
   "eING DIAGONAL CROSSING NORTH EAST ARROWzbRISING DIAGONALrIN WHITE CIRCLE IN BLACK SQUAREcMILY",
   "cRSI SYMBOLcTHER CHRISTMAScX ICONeMACHINEbEARFUL FACEdTHERcMALE SIGNdININE ORDINAL INDICATOR",
   "cNCERcRRIS WHEELeYbFbIELD HOCKEY STICK AND BALLcGURE DASHhSPACEcLE CABINETfFOLDERfSEPARATOR",
   "dM FRAMESfPROJECTORcNITE PART INTEGRALcREe ENGINEgXTINGUISHEReCRACKEReWORK SPARKLERiS",
   "dST PLACE MEDALgQUARTER MOONs SYMBOLtWITH FACEgSTRONG ISOLATEcSHe CAKE WITH SWIRL DESIGNeEYE",
   "eING POLE AND FISHdTED HAND SIGNcVE DOT MARKjPUNCTUATIONbLAG IN HOLEdMINGOdT SHOEeBREADeNESS",
   "cEUR-DE-LISdXED BICEPScOPPY DISKdRAL HEARTdWERg PLAYING CARDSiUNCTUATION MARKcUSHED FACEcY",
   "dING DISChENVELOPEhSAUCERbOGdGYcLDERcNDUEcOTePRINTScR ALLdCESdK AND KNIFEo WITH PLATE",
   "eED PARAGRAPHOSeINGdM FEEDdTUNE COOKIEcUNTAINdR BALLOON-SPOKED ASTERISKfCLUB-SPOKED ASTERISK",
   "gORNER ARROWS CIRCLING ANTICLOCKWISEfDOT MARKjPUNCTUATIONfLEAF CLOVERfPOINTED BLACK STAR",
   "fTEARDROP-SPOKED ASTERISKe-PER-EM SPACEeTH ROOTcX FACEbRACTION NUMERATOR ONEjSLASH",
   "dME WITH AN XlPICTURElTILEScEEZING FACEdNCH FRANC SIGNjIEScIED SHRIMPcOG FACE",
   "dNT-FACING BABY CHICKgTILTED SHADOWED WHITE RIGHTWARDS ARROWdWNfING FACE WITH OPEN MOUTHbScI",
   "bUEL PUMPcLL BLOCKfMOON SYMBOLkWITH FACEfOUTER JOINfSTOPeWIDTH AMPERSANDlPOSTROPHElSTERISK",
   "kBROKEN BARkCENT SIGNlIRCUMFLEX ACCENTlOLONmMMAoERCIAL ATkDIGIT EIGHTqFIVErOURqNINEqONEqSEVEN",
   "rIXqTHREErWOqZEROlOLLAR SIGNkEQUALS SIGNlXCLAMATION MARKkFULL STOPkGRAVE ACCENT",
   "mEATER-THAN SIGNkHYPHEN-MINUSkLATIN CAPITAL LETTER AzgBzgCzgDzgEzgFzgGzgHzgIzgJzgKzgLzgMzgNzgO",
   "zgPzgQzgRzgSzgTzgUzgVzgWzgXzgYzgZqSMALL LETTER AzeBzeCzeDzeEzeFzeGzeHzeIzeJzeKzeLzeMzeNzeOzeP",
   "zeQzeRzeSzeTzeUzeVzeWzeXzeYzeZlEFT CURLY BRACKETpPARENTHESISpSQUARE BRACKETpWHITE PARENTHESIS",
   "mSS-THAN SIGNlOW LINEkMACRONkNOT SIGNlUMBER SIGNkPERCENT SIGNlLUS SIGNlOUND SIGNkQUESTION MARK",
   "mOTATION MARKkREVERSE SOLIDUSlIGHT CURLY BRACKETqPARENTHESISqSQUARE BRACKETqWHITE PARENTHESIS",
   "kSEMICOLONlOLIDUSkTILDEkVERTICAL LINEkWON SIGNkYEN SIGNcNCTION APPLICATIONdERAL URNcSEbVS1d2d3",
   "d4aGAME DIEcRLICbEARe WITH HANDLESjOUT HUBcM STONEdINIcNIEcOMETRIC PROPORTIONjALLY EQUAL TO",
   "rIVALENT TOdRGIAN CAPITAL LETTER AENzNyBANyCANzHARzbINzILyDONyENyGANzHANyHAEzbRzEzIEzOEyIN",
   "yJHANzILyKANzHARyLASyMANyNARyONyPARzHARyQARyRAEySANzHINyTANzbRyUNyVINyWEyXANyYNyZENzHAR",
   "jLETTER AENrINrNqBANqCANrHARsINrILqDONqELIFIrNqFIqGANrHANqHAEsRtD SIGNrErIErOEqINqJHANrILqKAN",
   "rHARqLABIAL SIGNsSqMANqNARqONqPARrHARqQARqRAEqSANrHINqTANsRrURNED GANqUNqVINqWEqXANqYNqZENrHAR",
   "jMTAVRULI CAPITAL LETTER AENzjINzjNziBANziCANzjHARzkINzjILziDONziELIFIzjNziFIziGANzjHANziHAE",
   "zkRzlD SIGNzjEzjIEzjOEziINziJHANzjILziKANzjHARziLABIAL SIGNzkSziMANziNARziONziPARzjHARziQAR",
   "ziRAEziSANzjHINziTANzkRzjURNED GANziUNziVINziWEziXANziYNziZENzjHARjPARAGRAPH SEPARATOR",
   "jSMALL LETTER AENxNwBANwCANxHARyINxILwDONwENwGANxHANwHAEyRxExIExOEwINwJHANxILwKANxHARwLASwMAN",
   "wNARwONwPARxHARwQARwRAEwSANxHINwTANyRwUNwVINwWEwXANwYNwZENxHARcRMAN PENNY SIGNcTA MARKbHOST",
   "bIMEL SYMBOLcRAFFE FACEdLeS SYMBOLbLAGOLITIC CAPITAL LETTER AZUzbBIG YUSzcUKYzbCAUDATE CHRIVI",
   "zcHRIVIzbDJERVIzcOBROzcZELOzbFITAzcRITUzbGLAGOLIzbHERUzbIzcNITIAL IZHEzcOTATED BIG YUS",
   "zjSMALL YUSzcZHEzeITSAzbKAKOzbLATINATE MYSLITEzcJUDIJEzbMYSLITEzbNASHIzbONUzcTUzbPEzcOKOJI",
   "zbRITSIzbSHAzdTAzfPICzcLOVOzcMALL YUSzk WITH TAILzcPIDERY HAzbTROKUTASTI AzcSIzcVRIDOzbUKU",
   "zbVEDEzbYATIzcERIzeUzdSTUzcOzcUzbZEMLJAzcHIVETElSMALL LETTER AZUyBIG YUSzUKYyCAUDATE CHRIVI",
   "zHRIVIyDJERVIzOBROzZELOyFITAzRITUyGLAGOLIyHERUyIzNITIAL IZHEzOTATED BIG YUSzhSMALL YUSzZHE",
   "zcITSAyKAKOyLATINATE MYSLITEzJUDIJEyMYSLITEyNASHIyONUzTUyPEzOKOJIyRITSIySHAzbTAzdPICzLOVO",
   "zMALL YUSzi WITH TAILzPIDERY HAyTROKUTASTI AzSIzVRIDOyUKUyVEDEyYATIzERIzcUzbSTUzOzUyZEMLJA",
   "zHIVETEdSS OF MILKcEICH STARKcOBE WITH MERIDIANSdVESdWING STARbOAL NETdTcGGLEScLFERcRILLA",
   "cTHIC LETTER AHSApIHVUSoBAIRKANoDAGSoEISoFAIHUoGIBAoHAGLpWAIRoIGGWSpUJAoJERoKUSMAoLAGUSoMANNA",
   "oNAUTHSpINE HUNDREDsTYoOTHALoPAIRTHRAoQAIRTHRAoRAIDAoSAUILoTEIWSpHIUTHoURUSoWINJA",
   "bRADUATION CAPdNTHA AU LENGTH MARKiLETTER AqAqIqUpBAqHApCAqHApDAqDArHAqHApEEpGAqHApHApIqIpJA",
   "qHApKAqHApLAqLApMApNAqGAqNAqYApOOpPAqHApRApSAqHAqSApTAqHAqTArHApUqUpVAqEDIC ANUSVARA",
   "vDOUBLE ANUSVARAqOCALIC LyLxRyRpYAiOMiSIGN ANUSVARAoVAGRAHAnCANDRABINDU",
   "oOMBINING ANUSVARA ABOVEnNUKTAnPLUTAnVIRAMApSARGAiVOWEL SIGN AAuIuUtEEtIuItOOtUuUtVOCALIC LzdL",
   "zcRzdRdPESdVE ACCENTcEATER-THAN ABOVE DOUBLE-LINE EQUAL ABOVE LESS-THAN",
   "tLESS-THAN ABOVE DOUBLE-LINE EQUALtRIGHTWARDS ARROWtSIMILAR ABOVE LESS-THANzcOR EQUAL",
   "uLANTED EQUAL ABOVE LESS-THAN ABOVE SLANTED EQUALoND NOT APPROXIMATErSINGLE-LINE NOT EQUAL TO",
   "nBESIDE LESS-THANoUT NOT EQUAL TOyIVALENT TOnCLOSED BY CURVEzd ABOVE SLANTED EQUAL",
   "nEQUAL TO OR LESS-THANnOR APPROXIMATEqEQUAL TOtIVALENT TOqLESS-THANqSLANTED EQUAL TO",
   "zh WITH DOT ABOVEzw LEFTzrINSIDEoVER EQUAL TOrLAPPING LESS-THANnSIGNnWITH CIRCLE INSIDEsDOT",
   "sQUESTION MARK ABOVEdEK ACROPHONIC ATTIC FIFTYzd STATERSzeTALENTSzfHOUSANDzm STATERSzVE",
   "zc HUNDREDzk STATERSzlTALENTSzdSTATERSzdTALENTSzeHOUSANDzl TALENTSxONE DRACHMAzcHALF",
   "zdUNDRED STATERSzkTALENTSzcQUARTERzcTHOUSAND STATERSzlTALENTSxTEN MNASzcSTATERSzcTALENTS",
   "zdHOUSAND STATERSrCARYSTIAN FIVE HUNDREDsYRENAIC TWO DRACHMASrDELPHIC FIVE MNAS",
   "rEPIDAUREAN FIVE HUNDREDzdTWOzg DRACHMASrHERAEUM ONE PLETHRONuMIONIAN FIFTYzdONEzdTEN",
   "rMESSENIAN TENrNAXIAN FIVE HUNDREDrSTRATIAN FIFTY MNASrTHESPIAN FIFTYzdVE HUNDREDzgTHOUSAND",
   "zbONEze HUNDREDzfTHOUSANDzbTENzcHIRTYzdREE HUNDREDzcWOsROEZENIAN FIFTYzi ALTERNATE FORMzfVE",
   "zh HUNDREDzdTENzg ALTERNATE FORMhNO TELEIAhROURA SIGNiTABE SIGNgBETA SYMBOL",
   "gCAPITAL DOTTED LUNATE SIGMA SYMBOLoKAI SYMBOLoLETTER ALPHAzb WITH DASIAzm AND OXIA",
   "zv AND PROSGEGRAMMENIzrPERISPOMENIzzd AND PROSGEGRAMMENIzsROSGEGRAMMENIzrVARIA",
   "zw AND PROSGEGRAMMENIzhMACRONzhOXIAzhPROSGEGRAMMENIziSILIzm AND OXIAzv AND PROSGEGRAMMENI",
   "zrPERISPOMENIzzd AND PROSGEGRAMMENIzsROSGEGRAMMENIzrVARIAzw AND PROSGEGRAMMENIzhTONOSzhVARIA",
   "ziRACHYwRCHAIC SAMPIvBETAvCHIvDELTAvEPSILONzd WITH DASIAzo AND OXIAztVARIAzjOXIAzjPSILI",
   "zo AND OXIAztVARIAzjTONOSzjVARIAwTAy WITH DASIAzk AND OXIAzt AND PROSGEGRAMMENIzpPERISPOMENI",
   "zzb AND PROSGEGRAMMENIzqROSGEGRAMMENIzpVARIAzu AND PROSGEGRAMMENIzfOXIAzfPROSGEGRAMMENIzgSILI",
   "zk AND OXIAzt AND PROSGEGRAMMENIzpPERISPOMENIzzb AND PROSGEGRAMMENIzqROSGEGRAMMENIzpVARIA",
   "zu AND PROSGEGRAMMENIzfTONOSzfVARIAvGAMMAvHETAvIOTAz WITH DASIAzl AND OXIAzqPERISPOMENIzqVARIA",
   "zhIALYTIKAzgMACRONzgOXIAzgPSILIzl AND OXIAzqPERISPOMENIzqVARIAzgTONOSzgVARIAzhRACHYvKAPPA",
   "vLAMDAvMUvNUvOMEGAzb WITH DASIAzm AND OXIAzv AND PROSGEGRAMMENIzrPERISPOMENI",
   "zzd AND PROSGEGRAMMENIzsROSGEGRAMMENIzrVARIAzw AND PROSGEGRAMMENIzhOXIAzhPROSGEGRAMMENIziSILI",
   "zm AND OXIAzv AND PROSGEGRAMMENIzrPERISPOMENIzzd AND PROSGEGRAMMENIzsROSGEGRAMMENIzrVARIA",
   "zw AND PROSGEGRAMMENIzhTONOSzhVARIAxICRONzd WITH DASIAzo AND OXIAztVARIAzjOXIAzjPSILI",
   "zo AND OXIAztVARIAzjTONOSzjVARIAvPAMPHYLIAN DIGAMMAwHIwIwSIvRHOy WITH DASIAvSANwHOwIGMAvTAU",
   "wHETAvUPSILONzd WITH DASIAzo AND OXIAztPERISPOMENIztVARIAzkIALYTIKAzjMACRONzjOXIAzjTONOS",
   "zjVARIAzkRACHYvXIvYOTvZETApUNATE SIGMA SYMBOLoREVERSED DOTTED LUNATE SIGMA SYMBOL",
   "xLUNATE SIGMA SYMBOLoTHETA SYMBOLgDASIAl AND OXIAqPERISPOMENIqVARIAhIALYTIKA AND OXIA",
   "uPERISPOMENIuVARIAqTONOShRACHMA SIGNgFIVE OBOLS SIGNhOUR OBOLS SIGNgGRAMMA SIGNgINDICTION SIGN",
   "iSTRUMENTAL NOTATION SYMBOL-1zl1zl2zl3zl4zl7zl8zl9zk2zl3zl4zl5zl6zl7zl9zk30zl2zl6zl7zl8zl9zk4",
   "zl0zl2zl3zl5zl7zl8zl9zk5zl0zl1zl2zl3zl4zk7zk8gKAI SYMBOLiPPA SYMBOLhORONIShYATHOS BASE SIGN",
   "gLETTER ARCHAIC KOPPAnDIGAMMAnKOPPAnSAMPIoMALL CAPITAL GAMMAzcLAMDAzcOMEGAzcPIzdSIzcRHOoTIGMA",
   "nYOThITRA SIGNhOWER NUMERAL SIGNhUNATE EPSILON SYMBOLnSIGMA SYMBOLgMETRETES SIGNhUSICAL LEIMMA",
   "gNUMERAL SIGNgOBOL SIGNhNE HALF SIGNt ALTERNATE FORMkQUARTER SIGNhUNKIA SIGNhXIAgPERISPOMENI",
   "hHI SYMBOLhI SYMBOLhROSGEGRAMMENIhSILIl AND OXIAqPERISPOMENIqVARIAgQUESTION MARK",
   "gREVERSED LUNATE EPSILON SYMBOLhHO SYMBOLkWITH STROKE SYMBOLgSINUSOID SIGN",
   "hMALL DOTTED LUNATE SIGMA SYMBOLmLETTER ALPHAy WITH DASIAzk AND OXIAzt AND YPOGEGRAMMENI",
   "zpPERISPOMENIzzb AND YPOGEGRAMMENIzpVARIAzu AND YPOGEGRAMMENIzpYPOGEGRAMMENIzfMACRONzfOXIA",
   "zj AND YPOGEGRAMMENIzfPERISPOMENIzq AND YPOGEGRAMMENIzgSILIzk AND OXIAzt AND YPOGEGRAMMENI",
   "zpPERISPOMENIzzb AND YPOGEGRAMMENIzpVARIAzu AND YPOGEGRAMMENIzpYPOGEGRAMMENIzfTONOSzfVARIA",
   "zk AND YPOGEGRAMMENIzgRACHYzfYPOGEGRAMMENIuRCHAIC KOPPAzcSAMPItBETAtCHItDELTAuIGAMMAtEPSILON",
   "zb WITH DASIAzm AND OXIAzrVARIAzhOXIAzhPSILIzm AND OXIAzrVARIAzhTONOSzhVARIAuTAw WITH DASIA",
   "zi AND OXIAzr AND YPOGEGRAMMENIznPERISPOMENIzy AND YPOGEGRAMMENIznVARIAzs AND YPOGEGRAMMENI",
   "znYPOGEGRAMMENIzdOXIAzh AND YPOGEGRAMMENIzdPERISPOMENIzo AND YPOGEGRAMMENIzeSILIzi AND OXIA",
   "zr AND YPOGEGRAMMENIznPERISPOMENIzy AND YPOGEGRAMMENIznVARIAzs AND YPOGEGRAMMENI",
   "znYPOGEGRAMMENIzdTONOSzdVARIAzi AND YPOGEGRAMMENIzdYPOGEGRAMMENItFINAL SIGMAtGAMMAtHETAtIOTA",
   "x WITH DASIAzj AND OXIAzoPERISPOMENIzoVARIAzfIALYTIKAzn AND OXIAzsPERISPOMENIzsTONOSzsVARIA",
   "zeMACRONzeOXIAzePERISPOMENIzfSILIzj AND OXIAzoPERISPOMENIzoVARIAzeTONOSzeVARIAzfRACHYtKAPPA",
   "uOPPAtLAMDAtMUtNUtOMEGAy WITH DASIAzk AND OXIAzt AND YPOGEGRAMMENIzpPERISPOMENI",
   "zzb AND YPOGEGRAMMENIzpVARIAzu AND YPOGEGRAMMENIzpYPOGEGRAMMENIzfOXIAzj AND YPOGEGRAMMENI",
   "zfPERISPOMENIzq AND YPOGEGRAMMENIzgSILIzk AND OXIAzt AND YPOGEGRAMMENIzpPERISPOMENI",
   "zzb AND YPOGEGRAMMENIzpVARIAzu AND YPOGEGRAMMENIzpYPOGEGRAMMENIzfTONOSzfVARIA",
   "zk AND YPOGEGRAMMENIzfYPOGEGRAMMENIvICRONzb WITH DASIAzm AND OXIAzrVARIAzhOXIAzhPSILI",
   "zm AND OXIAzrVARIAzhTONOSzhVARIAtPAMPHYLIAN DIGAMMAuHIuIuSItRHOw WITH DASIAzdPSILItSAMPIvNuHO",
   "uIGMAuTIGMAtTAUuHETAtUPSILONzb WITH DASIAzm AND OXIAzrPERISPOMENIzrVARIAziIALYTIKAzq AND OXIA",
   "zvPERISPOMENIzvTONOSzvVARIAzhMACRONzhOXIAzhPERISPOMENIziSILIzm AND OXIAzrPERISPOMENIzrVARIA",
   "zhTONOSzhVARIAziRACHYtXItZETAmREVERSED DOTTED LUNATE SIGMA SYMBOLvLUNATE SIGMA SYMBOL",
   "hUBSCRIPT SMALL LETTER BETAzeCHIzeGAMMAzePHIzeRHOhYMBOL TAU RHOgTALENT SIGNhHETA SYMBOL",
   "iREE OBOLS SIGNmQUARTERS SIGNhONOShRYBLION BASE SIGNhWO OBOLS SIGNkTHIRDS SIGN",
   "gUPSILON WITH ACUTE AND HOOK SYMBOLtDIAERESIS AND HOOK SYMBOLtHOOK SYMBOLgVARIA",
   "hOCAL NOTATION SYMBOL-1ze0ze1ze2ze3ze4ze5ze6ze7ze8ze9zd2ze0ze1ze2ze3ze4zd3zd4zd5ze0ze1ze2ze3",
   "ze4zd6zd7zd8zd9gXESTES SIGNgYEAR SIGNhPOGEGRAMMENIgZERO SIGNeN APPLEgBOOKgHEARTgSALAD",
   "cIMACING FACEdNNING CAT FACE WITH SMILING EYESjFACEn WITH ONE LARGE AND ONE SMALL EYE",
   "tSMILING EYESuTAR EYEScOUP MARKgSEPARATORdWING HEARTbSbUARANI SIGNeDSMANcIDE DOGdTAR",
   "cJARATI ABBREVIATION SIGNjDIGIT EIGHTpFIVEqOURpNINEpONEpSEVENqIXpTHREEqWOpZEROjLETTER ArArIrU",
   "qBArHAqCArHAqDArDAsHArHAqEqGArHAqHAqIrIqJArHAqKArHAqLArLAqMAqNArGArNArYAqOqPArHAqRAqSArHArSA",
   "qTArHArTAsHAqUrUqVArOCALIC LzLyRzRqYAqZHAjOMjRUPEE SIGNjSIGN ANUSVARApVAGRAHAoCANDRABINDU",
   "pIRCLE NUKTA ABOVEoMADDAHoNUKTAoSHADDApUKUNoTHREE-DOT NUKTA ABOVEpWO-CIRCLE NUKTA ABOVEoVIRAMA",
   "qSARGAjVOWEL CANDRA EwOpSIGN AAvIvUuCANDRA EzcOuEuIvIuOuUvUuVOCALIC LzeLzdRzeR",
   "cNJALA GONDI DIGIT EIGHTuFIVEvOURuNINEuONEuSEVENvIXuTHREEvWOuZEROoLETTER AwAwIwUvBAwHAvCAwHA",
   "vDAwDAxHAwHAvEEvGAwHAvHAvIwIvJAwHAvKAwHAvLAwLAvMAvNAwGAvOOvPAwHAvRAvSAvTAwHAwTAxHAvUwUvVAvYA",
   "oOMoSIGN ANUSVARAtVISARGAoVIRAMApOWEL SIGN AAzbIzbUzEEzIzbIzOOzUzbUcRMUKHI ABBREVIATION SIGN",
   "kDDAKjDIGIT EIGHTpFIVEqOURpNINEpONEpSEVENqIXpTHREEqWOpZEROjEK ONKARjIRIjLETTER ArArIrUqBArHA",
   "qCArHAqDArDAsHArHAqEEqFAqGArHAsHAqHAqIrIqJArHAqKArHAsHAqLArLAqMAqNArGArNArYAqOOqPArHAqRArRAqSA",
   "rHAqTArHArTAsHAqUrUqVAqYAqZAjSIGN ADAK BINDIoBINDIoNUKTAoUDAAToVIRAMAqSARGAoYAKASHjTIPPIjURA",
   "jVOWEL SIGN AAvIvUuEEuIvIuOOuUvUaHADEScIR SPACEeCUTcLFWIDTH BLACK SQUAREkDOWNWARDS ARROW",
   "kFORMS LIGHT VERTICALkHANGUL FILLERrLETTER AzEyCHIEUCHzIEUCyEzOzUyHIEUHyIzEUNGyKHIEUKHzIYEOK",
   "zf-SIOSyMIEUMyNIEUNze-CIEUCzfHIEUHyOzEyPHIEUPHzIEUPze-SIOSyRIEULze-HIEUHzfKIYEOKzfMIEUM",
   "zfPHIEUPHzgIEUPzfSIOSzfTHIEUTHySIOSzSANGCIEUCzeKIYEOKzePIEUPzeSIOSzeTIKEUTyTHIEUTHzIKEUTyUyWA",
   "zbEzEzbOzIyYAzbEzEzbOzIzOzUkIDEOGRAPHIC COMMAwFULL STOPkKATAKANA LETTER AzbEzbHAzcEzcIzcOzcU",
   "zbIzbKAzcEzcIzcOzcUzbMAzcEzcIzcOzcUzbNzcAzcEzcIzcOzcUzbOzbRAzcEzcIzcOzcUzbSAzcEzcIzcMALL AzhE",
   "zhIzhOzhTUzhUzhYAziOziUzcOzcUzbTAzcEzcIzcOzcUzbUzbWAzcOzbYAzcOzcUtMIDDLE DOT",
   "tSEMI-VOICED SOUND MARKtVOICED SOUND MARKs-HIRAGANA PROLONGED SOUND MARKkLEFT CORNER BRACKET",
   "oWARDS ARROWkRIGHT CORNER BRACKETpWARDS ARROWkUPWARDS ARROWkWHITE CIRCLEcMBURGERdMERg AND PICK",
   "lSICKLElWRENCHdSAeTER FACEcND WITH INDEX AND MIDDLE FINGERS CROSSEDqFINGER AND THUMB CROSSED",
   "eBAGgLLeSHAKEdGUL CHOSEONG CEONGCHIEUMCHIEUCHzdIEUCzcSIOSzdSANGCIEUCzhSIOSrHIEUCHx-HIEUH",
   "yKHIEUKHtTUEUMCHIEUCHzIEUCySIOSzSANGCIEUCzeSIOSrIEUCv-IEUNGqFILLERqHIEUHv-SIOSqIEUNGv-CHIEUCH",
   "xIEUCwHIEUHwKIYEOKwMIEUMwPANSIOSxHIEUPHxIEUPwRIEULwSIOSwTHIEUTHxIKEUTqKAPYEOUNMIEUMyPHIEUPH",
   "zIEUPyRIEULySSANGPIEUPrHIEUKHrIYEOKw-TIKEUTqMIEUMv-KIYEOKwPIEUPwSIOSwTIKEUTqNIEUNv-CIEUCwHIEUH",
   "wKIYEOKwPIEUPwSIOSwTIKEUTqPANSIOSrHIEUPHx-HIEUHyPIEUPrIEUPv-CHIEUCHxIEUCwHIEUHwKHIEUKHxIYEOK",
   "wNIEUNwPHIEUPHwSIOSzb-CIEUCzcKIYEOKzcPIEUPzcTHIEUTHzdIKEUTxSANGSIOSwTHIEUTHxIKEUTqRIEULv-CIEUC",
   "wHIEUHwKAPYEOUNPIEUPxHIEUKHxIYEOKwMIEUMwNIEUNwPIEUPwSIOSxSANGKIYEOKzcPIEUPzcTIKEUTwTIKEUTqSIOS",
   "u-CHIEUCHwIEUCvHIEUHvIEUNGvKHIEUKHwIYEOKvMIEUMvNIEUNvPHIEUPHwIEUPzb-KIYEOKvRIEULvSSANGSIOS",
   "vTHIEUTHwIKEUTrSANGCIEUCzb-HIEUHvHIEUHvIEUNGvKIYEOKvNIEUNvPIEUPvRIEULvSIOSz-PIEUPvTHIEUTH",
   "wIKEUTvYEORINHIEUHqTHIEUTHrIKEUTw-CIEUCxKIYEOKxMIEUMxPIEUPxRIEULxSIOSqYEORINHIEUHsSIEUNG",
   "hDOUBLE DOT TONE MARKhFILLERhJONGSEONG CHIEUCHsIEUCw-PIEUPxSSANGPIEUPrHIEUHw-MIEUMxNIEUNxPIEUP",
   "xRIEULrIEUNGw-KHIEUKHyIYEOKxSSANGKIYEOKrKAPYEOUNMIEUMzPHIEUPHzbIEUPzRIEULsHIEUKHsIYEOK",
   "x-CHIEUCHyHIEUHyKHIEUKHyNIEUNyPIEUPyRIEULySIOSzd-KIYEOKrMIEUMw-CHIEUCHyIEUCxHIEUHxKIYEOKxNIEUN",
   "xPANSIOSyIEUPzd-SIOSxRIEULxSIOSySANGNIEUNzdSIOSrNIEUNw-CHIEUCHyIEUCxHIEUHxKIYEOKxPANSIOSxRIEUL",
   "xSIOSxTHIEUTHyIKEUTrPANSIOSy-KAPYEOUNPIEUPzPIEUPsHIEUPHy-PIEUPzSIOSzTHIEUTHsIEUPw-CHIEUCHyIEUC",
   "xHIEUHxMIEUMxPHIEUPHxRIEULzd-PHIEUPHxSIOSzc-TIKEUTxTIKEUTrRIEULw-HIEUHxKAPYEOUNPIEUPyHIEUKH",
   "yIYEOKze-HIEUHzfSIOSxMIEUMzd-HIEUHzeKIYEOKzeSIOSxNIEUNxPANSIOSyHIEUPHyIEUPzd-HIEUHzePHIEUPH",
   "zeSIOSzeTIKEUTxSIOSySANGKIYEOKzdSIOSxTHIEUTHyIKEUTze-HIEUHxYEORINHIEUHzj-HIEUHzSIEUNGrSIOS",
   "v-CHIEUCHxIEUCwHIEUHwKAPYEOUNPIEUPxIYEOKwMIEUMwPANSIOSxIEUPwRIEULwTHIEUTHxIKEUTsSANGCIEUC",
   "wIEUNGwKIYEOKwMIEUMwNIEUNwPIEUPwRIEULzc-KHIEUKHwSIOSzb-KIYEOKzcTIKEUTwTIKEUTzd-PIEUPwYESIEUNG",
   "rTHIEUTHsIKEUTx-CHIEUCHzIEUCyKIYEOKyPIEUPyRIEULySIOSzd-KIYEOKyTHIEUTHrYEORINHIEUHtSIEUNG",
   "z-HIEUHzbKHIEUKHzcIYEOKzbMIEUMzbPANSIOSzbSIOSzcSANGKIYEOKiUNGSEONG As-EUtOtUsEsRAEAw-AxEyOxIxU",
   "rEsOt-EUuOuUsUt-AuEvOvUuOuUrFILLERrIs-AuRAEAtEUtItOu-ItUtYAv-OvEuEvOuOuUrOs-EuOtOu-ItUtYAvEuE",
   "vOsErSSANGARAEArUs-AuEtEO-EUtI-ItUtYEvOrWAtEsEtOsIrYAt-OuUuYOtEsEtOu-OvUvYAsIt-UsOt-AvEuEOuIuO",
   "uYAwEvEOsUt-AvEuEvOuIuOuUuYEwOhLETTER ApEpRAEAtEoCHIEUCHpIEUCoEpOpUoHIEUHoIpEUNGoKAPYEOUNMIEUM",
   "wPHIEUPHxIEUPwSSANGPIEUPpHIEUKHpIYEOKu-SIOSoMIEUMt-PANSIOSvIEUPuSIOSoNIEUNt-CIEUCuHIEUH",
   "uPANSIOSuSIOSuTIKEUToOpEoPANSIOSpHIEUPHpIEUPt-CIEUCuKIYEOKuSIOSy-KIYEOKzTIKEUTuTHIEUTHvIKEUT",
   "oRIEULt-HIEUHuKIYEOKzb-SIOSuMIEUMuPANSIOSvHIEUPHvIEUPz-SIOSuSIOSuTHIEUTHvIKEUTuYEORINHIEUH",
   "oSIOSs-CIEUCtKIYEOKtNIEUNtPIEUPtTIKEUTpSANGCIEUCtHIEUHtIEUNGtKIYEOKtNIEUNtPIEUPtSIOStTIKEUT",
   "oTHIEUTHpIKEUToUoWAqEpEqOpIoYAqEpEqOrRINHIEUHqSIEUNGw-PANSIOSxSIOSpIpOq-IrYAtEpUq-IrYEtO",
   "hSINGLE DOT TONE MARKeZHOU NUMERAL EIGHTrFIVEsOURrNINErONErSEVENsIXrTENsHIRTYtREEsWENTYtO",
   "dIFI ROHINGYA DIGIT EIGHTwFIVExOURwNINEwONEwSEVENxIXwTHREExWOwZEROqLETTER AxBAxCAxDAyDAxFAxGA",
   "xHAxJAxKAyHAyINNA WAzeYAxLAxMAxNAyGAyYAxPAxRAyRAxSAyHAxTAyTAxVAxWAxYAxZAqMARK NA KHONNAvSAKIN",
   "qSIGN HARBAHAYvTAHALAxNAxSSIqVOWEL AwEwIwOwUdUNOO LETTER ApBApDApGApHApIpKApLApMApNAqGApPApRA",
   "pSApTApUpWApYAiSIGN PAMUDPODiVOWEL SIGN ItUcPPY PERSON RAISING ONE HANDcRD DISKcTCHING CHICK",
   "dRAN LETTER ALEPHpYNoBETHoDALETH-RESHoGIMELoHEqTHoKAPHoLAMEDHoMEMoNUNoPEoQOPHoSADHEqMEKHpHIN",
   "oTAWpETHoWAWoYODHoZAYNhNUMBER FIVEoONEr HUNDREDoTENpWENTYbEADPHONEeSTONEj GRAVEYARD SYMBOL",
   "dR-NO-EVIL MONKEYeT DECORATIONgHANDSgWITH ARROWlRIBBONlTIP ON THE LEFTdVY AMPERSAND ORNAMENT",
   "hRROW SHAFT WIDTH ONEzc HALFzdTHIRDyTWO THIRDShSTERISKgBALLOT X",
   "hLACK CURVED DOWNWARDS AND RIGHTWARDS ARROWtUPWARDS AND RIGHTWARDS ARROWmHEART",
   "l-FEATHERED NORTH EAST ARROWwRIGHTWARDS ARROWwSOUTH EAST ARROWgCHECK MARKjVRON SNOWFLAKEhIRCLE",
   "m WITH CIRCLE INSIDEsSTROKE AND TWO DOTS ABOVEmD SALTIREhONCAVE-POINTED BLACK RIGHTWARDS ARROW",
   "gDASHED TRIANGLE-HEADED RIGHTWARDS ARROWhIVISION SIGNhOLLAR SIGN",
   "iUBLE COMMA QUOTATION MARK ORNAMENTnTURNED COMMA QUOTATION MARK ORNAMENT",
   "iWNWARDS ARROW WITH EQUILATERAL ARROWHEADzcLARGE EQUILATERAL ARROWHEAD",
   "gEIGHT POINTED BLACK STARuPINWHEEL STARuRECTILINEAR BLACK STARmSPOKED ASTERISK",
   "mTEARDROP-SPOKED PROPELLER ASTERISKhQUALS SIGNhXCLAMATION MARK ORNAMENTxSYMBOL",
   "gFIVE POINTED BLACK STARlSPOKED ASTERISKhOUR BALLOON-SPOKED ASTERISKgGREEK CROSS",
   "gHEART EXCLAMATION MARK ORNAMENThORIZONTAL FILLgINTERROBANG ORNAMENTgLARGE CIRCLEiTIN CROSS",
   "hEFT-POINTING ANGLE BRACKET ORNAMENTzbQUOTATION MARK ORNAMENT",
   "kWARDS ARROW WITH EQUILATERAL ARROWHEADzcLARGE EQUILATERAL ARROWHEADhIGATURE OPEN ET ORNAMENT",
   "hOW DOUBLE COMMA QUOTATION MARK ORNAMENTkSINGLE COMMA QUOTATION MARK ORNAMENT",
   "jER RIGHT-SHADOWED WHITE RIGHTWARDS ARROWgMINUS SIGNhULTIPLICATION XgNORTH EAST ARROW",
   "rPOINTING BUDzbVINE LEAFmWEST POINTING BUDzbVINE LEAFgOPEN CENTRE CROSShUTLINED BLACK STAR",
   "hVAL WITH OVAL INSIDEgPLUS SIGNgRIGHT-POINTING ANGLE BRACKET ORNAMENTzcQUOTATION MARK ORNAMENT",
   "lWARDS ARROWw WITH EQUILATERAL ARROWHEADzdLARGE EQUILATERAL ARROWHEAD",
   "hOUND-TIPPED RIGHTWARDS ARROWgSALTIREiNS-SERIF INTERROBANG ORNAMENThCRIPT LIGATURE ET ORNAMENT",
   "hINGLE COMMA QUOTATION MARK ORNAMENTnTURNED COMMA QUOTATION MARK ORNAMENTiX POINTED BLACK STAR",
   "kSPOKED ASTERISKhOUTH EAST ARROWrPOINTING BUDzbVINE LEAFmWEST POINTING BUDzbVINE LEAFhPARKLE",
   "gTEARDROP-SHANKED RIGHTWARDS ARROWqPOKED ASTERISKwPINWHEEL ASTERISK",
   "hRIANGLE-HEADED RIGHTWARDS ARROWhWELVE POINTED BLACK STARvPINWHEEL STAR",
   "gUPPER RIGHT-SHADOWED WHITE RIGHTWARDS ARROWiWARDS ARROW WITH EQUILATERAL ARROWHEAD",
   "zLARGE EQUILATERAL ARROWHEADgVERTICAL BARgWEDGE-TAILED RIGHTWARDS ARROWhHITE CIRCLE",
   "mDOWN-POINTING TRIANGLEmSQUAREhIDE-HEADED RIGHTWARDS ARROWcBREW ACCENT ATNAH HAFUKHoDARGApEHI",
   "oETNAHTAoGERESHu MUQDAMrSHAYIMoILUYoMAHAPAKHpERKHAu KEFULApUNAHoOLEoPASHTAqZERoQADMAqRNEY PARA",
   "oREVIAoSEGOLpHALSHELEToTELISHA GEDOLAwQETANAqVIRpIPEHAoYERAH BEN YOMOqTIVoZAQEF GADOLuQATAN",
   "qRQApINORhLETTER ALEFs WITH MAPIQyPATAHyQAMATSqTERNATIVE AYINzbPLUS SIGNpYINoBETr WITH DAGESH",
   "xRAFEoDALETt WITH DAGESHoFINAL KAFx WITH DAGESHuMEMuNUNuPEw WITH DAGESHuTSADIoGIMEL",
   "t WITH DAGESHoHEq WITH MAPIQqToKAFr WITH DAGESHxRAFEoLAMEDt WITH DAGESHoMEMr WITH DAGESHoNUN",
   "r WITH DAGESHoPEq WITH DAGESHwRAFEoQOFr WITH DAGESHoRESHs WITH DAGESHoSAMEKHu WITH DAGESHpHIN",
   "s WITH DAGESHzf AND SHIN DOTzlIN DOTySHIN DOTzIN DOToTAVr WITH DAGESHpETr WITH DAGESHpSADI",
   "t WITH DAGESHoVAVr WITH DAGESHxHOLAMoWIDE ALEFtDALETtFINAL MEMtHEtKAFtLAMEDtRESHtTAVoYOD",
   "r WITH DAGESHxHIRIQoZAYINt WITH DAGESHiIGATURE ALEF LAMEDqYIDDISH DOUBLE VAVzgYODyVAV YOD",
   "yYOD YOD PATAHhMARK LOWER DOTmMASORA CIRCLEmUPPER DOThPOINT DAGESH OR MAPIQnHATAF PATAHtQAMATS",
   "tSEGOLoIRIQoOLAMs HASER FOR VAVnJUDEO-SPANISH VARIKAnMETEGnPATAHnQAMATSt QATANoUBUTSnRAFE",
   "nSEGOLoHEVApIN DOToIN DOTnTSEREiUNCTUATION GERESHwSHAYIMtMAQAFtNUN HAFUKHAtPASEQtSOF PASUQ",
   "hYOD TRIANGLEcDGEHOGcLICOPTERdLSCHREIBER PAUSE SYMBOLdM SYMBOLeET WITH WHITE CROSS",
   "cNTAIGANA LETTER A-1u2u3uWOsE-1u2u3u4u5u6sHA-1w0w1v2v3v4v5v6v7v8v9tE-1v2v3v4v5v6v7tI-1v2v3v4v5",
   "v6v7tO-1v2v3v4v5v6v7v8tU-1v2v3sI-1u2u3u4sKA-1w0w1v2v3v4v5v6v7v8v9vKEtE-1v2v3v4v5v6tI-1v2v3v4v5",
   "v6v7v8tO-1v2v3vKItU-1v2v3v4v5v6v7sMA-1v2v3v4v5v6v7tE-1v2vMAtI-1v2v3v4v5v6v7tO-1v2v3v4v5v6tU-1",
   "v2v3v4sN-MU-MO-1zb2tA-1v2v3v4v5v6v7v8v9tE-1v2v3v4v5v6vKOtI-1v2v3v4v5v6v7vTEtO-1v2v3v4v5tU-1v2",
   "v3sO-1u2u3sRA-1v2v3v4tE-1v2v3v4tI-1v2v3v4v5v6v7tO-1v2v3v4v5v6tU-1v2v3v4v5v6sSA-1v2v3v4v5v6v7v8",
   "tE-1v2v3v4v5tI-1v2v3v4v5v6tO-1v2v3v4v5v6v7tU-1v2v3v4v5v6v7v8sTA-1v2v3v4tE-1v2v3v4v5v6v7v8v9",
   "tI-1v2v3v4v5v6v7tO-1v2v3v4v5v6vRAtU-1v2v3v4vTOsU-1u2u3u4u5sWA-1v2v3v4v5tE-1v2v3v4tI-1v2v3v4v5",
   "tO-1v2v3v4v5v6v7sYA-1v2v3v4v5vYOtO-1v2v3v4v5v6tU-1v2v3v4cRBdMITIAN CONJUGATE MATRIX",
   "cXAGRAM FOR ABUNDANCEoFTER COMPLETIONoPPROACHnBEFORE COMPLETIONoITING THROUGHoREAKTHROUGH",
   "nCOMING TO MEETpNFLICTqTEMPLATIONnDARKENING OF THE LIGHToECREASEpLIVERANCEpVELOPMENT",
   "oIFFICULTY AT THE BEGINNINGpSPERSIONoURATIONnENTHUSIASMnFELLOWSHIPoOLLOWINGnGATHERING TOGETHER",
   "oRACEpEAT POSSESSIONvWERuREPONDERANCEtTAMINGnHOLDING TOGETHERnINCREASEpFLUENCEpNER TRUTH",
   "qOCENCEnLIMITATIONnMODESTYpUTH CORNERSnOBSTRUCTIONoPPOSITIONqRESSIONnPEACEoROGRESS",
   "oUSHING UPWARDnRETREATqURNpVOLUTIONnSMALL PREPONDERANCEtTAMINGoPLITTING APARToTANDSTILL",
   "nTHE ABYSMAL WATERsRMYtOUSING THUNDERrCAULDRONsLINGING FIREsREATIVE HEAVENrFAMILYrGENTLE WIND",
   "rJOYOUS LAKErKEEPING STILL MOUNTAINrMARRYING MAIDENrRECEPTIVE EARTHrWANDERERsELLoREADING",
   "nWAITINGoORK ON THE DECAYEDnYOUTHFUL FOLLYbIBISCUScGH BRIGHTNESS SYMBOLfOCTET PRESET",
   "fVOLTAGE SIGNe-HEELED SHOEfSPEED TRAINq WITH BULLET NOSEcKING BOOTcNDU TEMPLEcPPOPOTAMUS",
   "cRAGANA DIGRAPH YORIjITERATION MARKjLETTER ArRCHAIC WUyYEqBArErIrOrUqDArErIrOrUqEqGArErIrOrU",
   "qHArErIrOrUqIqKArErIrOrUqMArErIrOrUqNrArErIrOrUqOqPArErIrOrUqRArErIrOrUqSArErIrMALL AwEwIwKAxE",
   "wOwTUwUwWAxExIxOwYAxOxUrOrUqTArErIrOrUqUqVUqWArErIrOqYArOrUqZArErIrOrUjVOICED ITERATION MARK",
   "cSTORIC SITEbOCHOcLEdLOW QUILT SQUARE ORNAMENTzd IN BLACK SQUAREcMOTHETICcNEY POTfBEEcOKcP",
   "cRIZONTAL BARmLACK HEXAGONrOCTAGONlELLIPSISlLINE EXTENSIONlMALE WITH STROKE SIGN",
   "lONE EIGHTH BLOCK-1358zd2zd3zd4zd5zd6zd7lSCAN LINE-1v3v7v9lTAB KEYoULATIONv SET",
   "wWITH JUSTIFICATIONmRAFFIC LIGHTdSEf FACEgRACINGcSPITALcT BEVERAGEeDOGePEPPEReSPRINGSdEL",
   "cURGLASSj WITH FLOWING SANDdSEf BUILDINGoSgWITH GARDENbRYVNIA SIGNbTcJcSbUGGING FACE",
   "cNDRED POINTS SYMBOLcSHED FACEcTbYGIEAcPHENg BULLEThWITH DIAERESISg-MINUSgATION POINT",
   "dODIASTOLEcSTERESIS SYMBOLaI LOVE YOU HAND SIGNbCE CREAMfUBEeHOCKEY STICK AND PUCKeSKATE",
   "bDENTICAL TOm AND SLANTED PARALLELkWITH DOT ABOVEgFICATION CARD",
   "dOGRAPHIC ANNOTATION BOTTOM MARKxEARTH MARKxFIRST MARKyOUR MARKzcTH MARKxHEAVEN MARK",
   "xLINKING MARKxMAN MARKyIDDLE MARKxONE MARKxREVERSE MARKxSECOND MARKxTHIRD MARKzREE MARK",
   "yOP MARKyWO MARKmCLOSING MARKnOMMAmDEPARTING TONE MARKoSCRIPTION CHARACTER ABOVE TO BELOW",
   "zsMIDDLE AND BELOWzjFULL SURROUNDzjLEFT TO MIDDLE AND RIGHTzrRIGHTzjOVERLAID",
   "zjSURROUND FROM ABOVEzxBELOWzxLEFTzyOWER LEFTzxUPPER LEFTzzeRIGHTmENTERING TONE MARKmFULL STOP",
   "mHALF FILL SPACEmITERATION MARKmLEVEL TONE MARKmNUMBER ZEROmRISING TONE MARKmSPACE",
   "mTALLY MARK FIVEyOURxONExTHREEyWOnELEGRAPH LINE FEED SEPARATOR SYMBOLwSYMBOL FOR APRILzjUGUST",
   "ziDAY EIGHTzrEENznLEVENzmFIFTEENzoVEznOURzqTEENzmNINEzqTEENzmONEzmSEVENzrTEENznIXzpTEENzmTEN",
   "znHIRTEENzrYzs-ONEzoREEznWELVEzpNTYzs-EIGHTztFIVEzuOURztNINEztONEztSEVENzuIXztTHREEzuWOzoO",
   "zjECEMBERziFEBRUARYziHOUR EIGHTzsEENzoLEVENznFIFTEENzpVEzoOURzrTEENznNINEzrTEENznONEznSEVEN",
   "zsTEENzoIXzqTEENznTENzoHIRTEENzpREEzoWELVEzqNTYzt-FOURzuONEzuTHREEzvWOzpOznZEROziJANUARYzjULY",
   "zkNEziMARCHzkYziNOVEMBERziOCTOBERziSEPTEMBERmVARIATION INDICATORbMAGE OF",
   "i OR APPROXIMATELY EQUAL TOcPdERIAL ARAMAIC LETTER ALEPHzYINyBETHyDALETHyGIMELyHEzbTHyKAPH",
   "yLAMEDHyMEMyNUNyPEyQOPHyRESHySADHEzbMEKHzHINyTAWzETHyWAWyYODHyZAYINrNUMBER ONEzc HUNDRED",
   "zdTHOUSANDyTENzc THOUSANDzHREEzWENTYzbOrSECTION SIGNbNBOX TRAYcCOMING ENVELOPEfPLETE INFINITY",
   "dREASE FONT SIZE SYMBOLiS ASfMENTcDdEXf POINTING AT THE VIEWERdIAN RUPEE SIGN",
   "eC SIYAQ ALTERNATE LAKH MARKmFRACTION ONE HALFzQUARTERvTHREE QUARTERSmLAKH MARK",
   "mNUMBER ALTERNATE ONEzeTEN THOUSANDzfWOtEIGHTy HUNDREDzTHOUSANDyYz THOUSANDtFIFTYy THOUSANDvVE",
   "x HUNDREDyTHOUSANDuORTYy THOUSANDvURx HUNDREDyTHOUSANDtKARORyANtLAKHxANtNINEx HUNDREDyTHOUSAND",
   "xTYz THOUSANDtONEw HUNDREDxTHOUSANDtPREFIXED EIGHTzdFIVEzeOURzdNINEzdONEzdSEVENzeIXzdTHREEzeWO",
   "tSEVENy HUNDREDzTHOUSANDyTYzb THOUSANDuIXw HUNDREDxTHOUSANDwTYy THOUSANDtTENw THOUSANDuHIRTY",
   "z THOUSANDvREEy HUNDREDzTHOUSANDuWENTYz THOUSANDvOw HUNDREDxTHOUSANDmPLACEHOLDERmRUPEE MARK",
   "cFINITYi NEGATED WITH VERTICAL BARdORMATION DESK PERSONmSEPARATOR FOURwONEwTHREExWOnOURCE",
   "cHIBIT ARABIC FORM SHAPINGiSYMMETRIC SWAPPINGcPUT SYMBOL FOR LATIN CAPITAL LETTERSxLETTERS",
   "xSMALL LETTERSrNUMBERSrSYMBOLScSCRIPTIONAL PAHLAVI LETTER ALEPHzeBETHzeDALETHzeGIMELzeHEzgTH",
   "zeKAPHzeLAMEDHzeMEM-QOPHzeNUNzePEzeSADHEzgMEKHzfHINzeTAWzfETHzeWAW-AYIN-RESHzeYODHzeZAYIN",
   "wNUMBER FOURzeONEzh HUNDREDziTHOUSANDzeTENzfHREEzfWENTYzgOqRTHIAN LETTER ALEPHzgYINzfBETH",
   "zfDALETHzfGIMELzfHEzhTHzfKAPHzfLAMEDHzfMEMzfNUNzfPEzfQOPHzfRESHzfSADHEzhMEKHzgHINzfTAWzgETH",
   "zfWAWzfYODHzfZAYINxNUMBER FOURzfONEzi HUNDREDzjTHOUSANDzfTENzgHREEzgWENTYzhOdERTION SYMBOL",
   "cTEGRALi AROUND A POINT OPERATORkVERAGE WITH SLASHjEXTENSIONjWITH DOUBLE STROKEoINTERSECTION",
   "oLEFTWARDS ARROW WITH HOOKoOVERBARoTIMES SIGNoUNDERBARqIONeRCALATEfIOR PRODUCT",
   "fLINEAR ANNOTATION ANCHORxSEPARATORxTERMINATORgOCKED FEMALE AND MALE SIGNfROBANGfSECTION",
   "m ABOVE BAR ABOVE UNIONtUNIONnBESIDE AND JOINED WITH INTERSECTIONnWITH DOTsLOGICAL ANDsOVERBAR",
   "cVERSE BULLETiCHECK MARKnER BOARD FILLiDOWNWARDS ARROW WITH TIP LEFTWARDSiMEDIUM SHADE",
   "iWHITE CIRCLEfTED EXCLAMATION MARKjINTERROBANGjLAZY SkOW KAVYKAt WITH KAVYKA ABOVEjOHM SIGN",
   "jPENTAGRAMjQUESTION MARKjUNDERTIEdISIBLE PLUSkSEPARATORkTIMESbZAKAYA LANTERNaJACK-O-LANTERN",
   "cPANESE BANK SYMBOLjCASTLEjDOLLSjGOBLINjINDUSTRIAL STANDARD SYMBOLjOGREjPOST OFFICE",
   "jSYMBOL FOR BEGINNERcRcVANESE CONSONANT SIGN CAKRAyKERETyPENGKALjDIGIT EIGHTpFIVEqOURpNINEpONE",
   "pSEVENqIXpTHREEqWOpZEROjLEFT RERENGGANlTTER ArIqBAs MURDAqCAs MURDAqDAs MAHAPRANArDA",
   "t MAHAPRANAqEqGAs MURDAqHAqIr KAWIrIqJAs MAHAPRANAqKAs MURDAtSASAKqLAqMAqNAs MURDArGAt LELET",
   "z RASWADIrYAt MURDAqOqPAs CEREKtMURDAqRAs AGUNGqSAs MAHAPRANAuURDAqTAs MURDArTAt MAHAPRANAqU",
   "qWAqYAjPADA ADEGs ADEGpNDAPoISEN-ISENoLINGSApUHURqNGSIoMADYAoPANGKATpISELEHoTIRTA TUMETES",
   "oWINDUlNGKONnRANGKEPjRIGHT RERENGGANjSIGN CECAKt TELUoLAYARoPANYANGGAoWIGNYAN",
   "jTURNED PADA PISELEHjVOWEL SIGN DIRGA MUREuPEPETuSUKUy MENDUTuTALINGwRUNGvOLONGuWULUy MELIK",
   "bEANSbIGSAW PUZZLE PIECEbOINcYSTICKbUGGLINGcNOcPITERaKAABAcITHI ABBREVIATION SIGNhDANDA",
   "iOUBLE DANDAoSECTION MARKhENUMERATION SIGNhLETTER ApApIpUoBApHAoCApHAoDApDAqDHAqHApHAoEoGApHA",
   "oHAoIpIoJApHAoKApHAoLAoMAoNApGApNApYAoOoPApHAoRApHAoSApHApSAoTApHApTAqHAoUpUoVAoYAhNUMBER SIGN",
   "s ABOVEhSECTION MARKiIGN ANUSVARAmCANDRABINDUmNUKTAmVIRAMAoSARGAhVOWEL SIGN AAtItUsEsItIsOsUtU",
   "sVOCALIC RcNGAROOeXI RADICAL AGAINqNDqRRIVEsOWqXEpBADGERrMBOOqEANqIGrRDrTTERqLACKrOODrUEqOAT",
   "rDYrLT OF CLOTHrNErWqRANCHrISTLErUSHpCARTrULDRONrVEqHILDqITYqLANsWrIFFrOTHESqOLORrMPARErRPSE",
   "rVERrWpDEATHrERqIPPERrSHsTINGUISHrVINATIONqO NOTrGrORrTsTED CLIFFwTENTrUBLE XrWN BOXqRAGONrUM",
   "rYpEARsTHrTqIGHTqMBROIDERYqNCLOSURErTERqVENtINGqYEpFACErNGrTHERqEATHERqIELDrGHTrRErSHqLUTErY",
   "qOOTqRAGRANTrOGqURpGATEqHOSTqOr SLOWLYrLDqRAINsSSpHAIRrLBERDsF TREE TRUNKrNDqEADsRTrMP",
   "qIDING ENCLOSUREqOOKrRNsSEpICEqNCHrSECTpJADErRpKNIFEpLACKrMEqEAFsTHERrEKrGSqIDrFErNEqONG",
   "t STRIDEpMANqEATrLONqILLETrNISTERqOONrRNINGsTARrUNDtTAINsTHpNETqOSErTpOLDqNEsSELFqPEN BOXrPOSE",
   "pPIGqLOWqOWERqRIVATErOFOUNDpRAINrPrTqEDqICErGHT OPEN BOXrVERqOOFqUNpSACRIFICIAL WINErLTrY",
   "qCHOLARrRIPTqEALrCONDrErLFqHEEPsLLrOOTsRT TAILED BIRDwHREADqICKNESSrLKqKINqLASHsVErICEqMALL",
   "qNOUTqOUNDqPEARsECHrIRITrOONrROUTqQUAREqTANDrEAMsPrONEsPtPINGqUNqWEETpTABLErLLrNNED LEATHERqEN",
   "qIGERrLEqONGUErOTHqRACKrEErIPODqURBANsTLEqWOs HANDSpUSEpVALLEYqILLAGEpWALKt ENCLOSURErTER",
   "qEAPONrSTqHEATrITEqINDsEqOMANrRKqRAPrONGpYELLOWdNADA AI LENGTH MARKiDIGIT EIGHToFIVEpOURoNINE",
   "oONEoSEVENpIXoTHREEpWOoZEROiLENGTH MARKkTTER AqAqIqUpBAqHApCAqHApDAqDArHAqHApEqEpFApGAqHApHApI",
   "qIpJAqHApKAqHApLAqLArLApMApNArKAARA POLLUqGAqNAqYApOqOpPAqHApRAqRApSAqHAqSApTAqHAqTArHApUqUpVA",
   "qOCALIC LyLxRyRpYAiSIGN ANUSVARAoVAGRAHAnCANDRABINDUnJIHVAMULIYAnNUKTAnSIDDHAM",
   "oPACING CANDRABINDUnUPADHMANIYAnVIRAMApSARGAiVOWEL SIGN AAuIuUtEuEtIuItOuOtUuUtVOCALIC LzdLzcR",
   "zdRcTAKANA DIGRAPH KOTOjITERATION MARKjLETTER ArRCHAIC EyWUyYEzIqBArErIrOrUqDArErIrOrUqEqGArE",
   "rIrOrUqHArErIrOrUqIqKArErIrOrUqMArErIsNNAN NASALIZED TONE-1zn2zn3zn4zn5zn7zn8xTONE-2zd3zd4zd5",
   "zd7zd8rOrUqNrArErIrOrUqOqPArErIrOrUqRArErIrOrUqSArErIrMALL AwEwHAxExIxOxUwIwKAxExUwMUwNxUwOwRA",
   "xExIxOxUwSIxUwTOxUwUwWAxExIxOwYAxOxUrOrUqTArErIrOrUqUqVArErIrOrUqWArErIrOqYArOrUqZArErIrOrU",
   "jMIDDLE DOTjVOICED ITERATION MARKi-HIRAGANA DOUBLE HYPHENsPROLONGED SOUND MARK",
   "sSEMI-VOICED SOUND MARKsVOICED SOUND MARKcYAH LI DIGIT EIGHTpFIVEqOURpNINEpONEpSEVENqIXpTHREE",
   "qWOpZEROjLETTER AqBAqCAqDAqGAqHArTAqIqKArHAqLAqMAqNArGArYAqOErOqPArHAqRAqSArHAqTArHAqVAqWAqYA",
   "qZAjSIGN CWIoSHYAjTONE CALYAt PLOPHUoPLOPHUjVOWEL EqEpOpUqEbELVIN SIGNcYdBOARDi AND MOUSE",
   "dCAP TENbHAROSHTHI DIGIT FOURrONErTHREEsWOlFRACTION ONE HALFlLETTER AsBAtHAsCAtHAsDAtDAuHAtHA",
   "sGAtHAsHAsJAsKAtHAtKAsLAsMAsNAtNAtYAsPAtHAsRAsSAtHAtSAsTAtHAtTAuHAuTAvHAsVAtHAsYAsZA",
   "lNUMBER ONE HUNDREDwTHOUSANDsTENtWENTYlPUNCTUATION CIRCLEyRESCENT BARxDANDAyOTzUBLE DANDA",
   "xLINESyOTUSxMANGALAMxSMALL CIRCLElSIGN ANUSVARAqBAR ABOVEqCAUDAqDOT BELOWsUBLE RING BELOW",
   "qVISARGAlVIRAMAmOWEL LENGTH MARKrSIGN EwIwOwUwVOCALIC RcITAN SMALL SCRIPT CHARACTER-18B00zj1",
   "zj2zj3zj4zj5zj6zj7zj8zj9zjAzjBzjCzjDzjEzjFzi10zj1zj2zj3zj4zj5zj6zj7zj8zj9zjAzjBzjCzjDzjEzjF",
   "zi20zj1zj2zj3zj4zj5zj6zj7zj8zj9zjAzjBzjCzjDzjEzjFzi30zj1zj2zj3zj4zj5zj6zj7zj8zj9zjAzjBzjCzjD",
   "zjEzjFzi40zj1zj2zj3zj4zj5zj6zj7zj8zj9zjAzjBzjCzjDzjEzjFzi50zj1zj2zj3zj4zj5zj6zj7zj8zj9zjAzjB",
   "zjCzjDzjEzjFzi60zj1zj2zj3zj4zj5zj6zj7zj8zj9zjAzjBzjCzjDzjEzjFzi70zj1zj2zj3zj4zj5zj6zj7zj8zj9",
   "zjAzjBzjCzjDzjEzjFzi80zj1zj2zj3zj4zj5zj6zj7zj8zj9zjAzjBzjCzjDzjEzjFzi90zj1zj2zj3zj4zj5zj6zj7",
   "zj8zj9zjAzjBzjCzjDzjEzjFziA0zj1zj2zj3zj4zj5zj6zj7zj8zj9zjAzjBzjCzjDzjEzjFziB0zj1zj2zj3zj4zj5",
   "zj6zj7zj8zj9zjAzjBzjCzjDzjEzjFziC0zj1zj2zj3zj4zj5zj6zj7zj8zj9zjAzjBzjCzjDzjEzjFziD0zj1zj2zj3",
   "zj4zj5zj6zj7zj8zj9zjAzjBzjCzjDzjEzjFziE0zj1zj2zj3zj4zj5zj6zj7zj8zj9zjAzjBzjCzjDzjEzjFziF0zj1",
   "zj2zj3zj4zj5zj6zj7zj8zj9zjAzjBzjCzjDzjEzjFzhC00zj1zj2zj3zj4zj5zj6zj7zj8zj9zjAzjBzjCzjDzjEzjF",
   "zi10zj1zj2zj3zj4zj5zj6zj7zj8zj9zjAzjBzjCzjDzjEzjFzi20zj1zj2zj3zj4zj5zj6zj7zj8zj9zjAzjBzjCzjD",
   "zjEzjFzi30zj1zj2zj3zj4zj5zj6zj7zj8zj9zjAzjBzjCzjDzjEzjFzi40zj1zj2zj3zj4zj5zj6zj7zj8zj9zjAzjB",
   "zjCzjDzjEzjFzi50zj1zj2zj3zj4zj5zj6zj7zj8zj9zjAzjBzjCzjDzjEzjFzi60zj1zj2zj3zj4zj5zj6zj7zj8zj9",
   "zjAzjBzjCzjDzjEzjFzi70zj1zj2zj3zj4zj5zj6zj7zj8zj9zjAzjBzjCzjDzjEzjFzi80zj1zj2zj3zj4zj5zj6zj7",
   "zj8zj9zjAzjBzjCzjDzjEzjFzi90zj1zj2zj3zj4zj5zj6zj7zj8zj9zjAzjBzjCzjDzjEzjFziA0zj1zj2zj3zj4zj5",
   "zj6zj7zj8zj9zjAzjBzjCzjDzjEzjFziB0zj1zj2zj3zj4zj5zj6zj7zj8zj9zjAzjBzjCzjDzjEzjFziC0zj1zj2zj3",
   "zj4zj5zj6zj7zj8zj9zjAzjBzjCzjDzjEzjFziD0zj1zj2zj3zj4zj5uFILLERcMER CURRENCY SYMBOL RIEL",
   "gDIGIT EIGHTmFIVEnOURmNINEmONEmSEVENnIXmTHREEnWOmZEROgINDEPENDENT VOWEL LYzbYyQAAzbIzbQzbUzEzI",
   "zbIzOO TYPE ONEziTWOzUzbKzbUzcVyRYzbYgLETTER BAnCAoHApOoOnDAoOnHAnKAoHApOoOnLAoOnMOnNGOoNOoO",
   "oYOnPHApOoOnQAnROnSAoHAoSOnTAoHApOoOoTHAqOnVOnYOgSIGN AHSDAmTTHACANmVAKRAHASANYAlBANTOC",
   "nRIYOOSANnTHAMASATmEYYALlCAMNUC PII KUUHmOENGlKAKABATmHANmOOMUUTlLEK TOOlMUUSIKATOANlNIKAHIT",
   "lPHNAEK MUANlREAHMUKmOBATlSAMYOK SANNYAlTOANDAKHIATmRIISAPlVIRIAMlYUUKALEAPINTUhYMBOL BEI KOET",
   "rROCoUON KOETsROCnDAP KOETrROCq-BEI KOETvROCsUON KOETwROCrMUOY KOETwROCrPII KOETvROCsRAM KOET",
   "wROCnLEK ATTAK BEIyUONxMUOYxPIIyRAMzc-BEIzeUONzdMUOYzdPIIxSONnMUOY KOETsROCnPATHAMASAToII KOET",
   "rROCoRAM KOETsROCr-BEI KOETwROCtUON KOETxROCsMUOY KOETxROCsPII KOETwROCnTUTEYASAT",
   "gVOWEL INHERENT AAwQmSIGN AAsEsIsUrErIsEsIrOEsOrUsAsUrYsAsYcOJKI ABBREVIATION SIGNhDANDA",
   "iOUBLE DANDAoSECTION MARKhLETTER ApApIpUoBApBApHAoCApHAoDApDAqDAqHApHAoEoGApGApHAoHAoIoJApJA",
   "oKApHAoLApLAoMAoNApGApNApYAoOoPApHAoRAoSAoTApHApTAqHAoUoVAoYAhSECTION MARKiIGN ANUSVARAmNUKTA",
   "mSHADDAnUKUNmVIRAMAhVOWEL SIGN AAtItUsEsItIsOsUhWORD SEPARATORcUDAWADI DIGIT EIGHTqFIVErOUR",
   "qNINEqONEqSEVENrIXqTHREErWOqZEROkLETTER AsAsIsUrBAsBAsHArCAsHArDAsDAtDAtHAsHArErGAsGAsHArHArI",
   "sIrJAsHAsJArKAsHArLArMArNAsGAsNAsYArOrPAsHArRAsRArSAsHArTAsHAsTAtHArUsUrVArYAkSIGN ANUSVARA",
   "pNUKTApVIRAMAkVOWEL SIGN AAwIwUvEvIwIvOvUwUbIMONOcP SIGNcSSe MARK",
   "eING CAT FACE WITH CLOSED EYESiFACEm WITH CLOSED EYESsSMILING EYEScTEcWIFRUITbNEELING PERSON",
   "cOTbOALAcREAN STANDARD SYMBOLbRONOSaL B BAR SYMBOLbAB COATdELcCROSSE STICK AND BALLcDDER",
   "dY BEETLEcNGUAGE TAGcO CANCELLATION MARKeDIGIT EIGHTkFIVElOURkNINEkONEkSEVENlIXkTHREElWOkZERO",
   "eELLIPSISeHO MOhNOeKO LAeLETTER BOlCOlDOlFO FAYpONoSUNGoTAMlHO SUNGoTAMlKHMU GOqNYOnO SUNGpTAM",
   "mOlLOn LINGpOOTlMOlNGOmOmYOlOlPALI BHAqCHAqDDAsHArHAqGHAqJHAqLLAqNNArYAqTTAsHAmHO SUNGpTAMmO",
   "lROlSANSKRIT SHAvSAmO SUNGoTAMlTHO SUNGpTAMmOlWOlYOeNIGGAHITAeSEMIVOWEL SIGN LOtNYO",
   "fIGN PALI VIRAMAeTONE MAI CATAWAnEKnTHOoIeVOWEL SIGN AqAqIqMqYpEqIpIqIpMAI KANuONpOpUqUpYqY",
   "cRGE BLUE CIRCLElDIAMONDlSQUAREhROWN CIRCLEmSQUAREgCIRCLEgDOWN TACKgGREEN CIRCLEmSQUARE",
   "gLEFT TRIANGLE OPERATORgONE DOT OVER TWO DOTS PUNCTUATIONkRING OVER TWO RINGS PUNCTUATION",
   "hRANGE CIRCLEnDIAMONDnSQUAREgPURPLE CIRCLEnSQUAREgRED CIRCLEkSQUARE",
   "gTRIPLE VERTICAL BAR OPERATORhWO DOTS OVER ONE DOT PUNCTUATIONkRINGS OVER ONE RING PUNCTUATION",
   "gUP TACKgYELLOW CIRCLEnSQUAREfR THANl OR EQUAL TOdI SIGNcST QUARTER MOONr SYMBOLsWITH FACE",
   "cTIN CAPITAL LETTER Aw WITH ACUTEzdBREVEzi AND ACUTEznDOT BELOWznGRAVEznHOOK ABOVEznTILDE",
   "zdCARONzeIRCUMFLEXzn AND ACUTEzsDOT BELOWzsGRAVEzsHOOK ABOVEzsTILDEzdDIAERESISzm AND MACRON",
   "zeOT ABOVEzm AND MACRONzhBELOWzfUBLE GRAVEzdGRAVEzdHOOK ABOVEzdINVERTED BREVEzdMACRONzdOGONEK",
   "zdRING ABOVEzn AND ACUTEziBELOWzdSTROKEzdTILDEwAwEx WITH ACUTEzeMACRONwFRICAN DwLPHA",
   "wNGLICANA WwOwUwVx WITH HORIZONTAL BARwYvBw WITH DOT ABOVEzhBELOWzdFLOURISHzdHOOKzdLINE BELOW",
   "zdSTROKEzdTOPBARwETAwROKEN LvCw WITH ACUTEzdBARzdCARONzeEDILLAzk AND ACUTEzeIRCUMFLEX",
   "zdDOT ABOVEzdHOOKzdPALATAL HOOKzdSTROKEwHIwLOSED INSULAR GwONwUATRILLOzf WITH COMMAvD",
   "w WITH CARONzeEDILLAzeIRCUMFLEX BELOWzdDOT ABOVEzhBELOWzdHOOKzdLINE BELOW",
   "zdSHORT STROKE OVERLAYzeMALL LETTER Zzr WITH CARONzeTROKEzdTOPBARwZx WITH CARONvEw WITH ACUTE",
   "zdBREVEzdCARONzeEDILLAzk AND BREVEzeIRCUMFLEXzn AND ACUTEzsDOT BELOWzsGRAVEzsHOOK ABOVEzsTILDE",
   "zoBELOWzdDIAERESISzeOT ABOVEzhBELOWzfUBLE GRAVEzdGRAVEzdHOOK ABOVEzdINVERTED BREVEzdMACRON",
   "zj AND ACUTEzoGRAVEzdOGONEKzdSTROKEzdTILDEzi BELOWwGYPTOLOGICAL AINzlLEFwNGwSHwTxHwZH",
   "y REVERSEDzWITH CARONvFw WITH DOT ABOVEzdHOOKzdSTROKEvGw WITH ACUTEzdBREVEzdCARONzeEDILLA",
   "zeIRCUMFLEXzdDOT ABOVEzdHOOKzdMACRONzdOBLIQUE STROKEzdSTROKEwAMMAwHAwLOTTAL AzeIzeSTOPzeUvH",
   "w WITH BREVE BELOWzdCARONzeEDILLAzeIRCUMFLEXzdDESCENDERzeIAERESISzeOT ABOVEzhBELOWzdHOOK",
   "zdSTROKEwALF HwENGwWAIRvIw WITH ACUTEzdBREVEzdCARONzeIRCUMFLEXzdDIAERESISzm AND ACUTE",
   "zeOT ABOVEzhBELOWzfUBLE GRAVEzdGRAVEzdHOOK ABOVEzdINVERTED BREVEzdMACRONzdOGONEKzdSTROKE",
   "zdTILDEzi BELOWwNSULAR DzeFzeGzeRzeSzeTwOTAwSvJw WITH CIRCUMFLEXzeROSSED-TAILzdSTROKEvK",
   "w WITH ACUTEzdCARONzeEDILLAzdDESCENDERzeIAGONAL STROKEzeOT BELOWzdHOOKzdLINE BELOW",
   "zdOBLIQUE STROKEzdSTROKEzj AND DIAGONAL STROKEvLw WITH ACUTEzdBARzeELTzdCARONzeEDILLA",
   "zeIRCUMFLEX BELOWzdDOT BELOWzm AND MACRONzfUBLE BARzdHIGH STROKEzdLINE BELOWzdMIDDLE DOT",
   "zkTILDEzdSMALL LETTER JzeTROKEwJvMw WITH ACUTEzdDOT ABOVEzhBELOWzdHOOKwIDDLE SCOTS S",
   "zc-WELSH LLzjVvNw WITH ACUTEzdCARONzeEDILLAzeIRCUMFLEX BELOWzdDESCENDERzeOT ABOVEzhBELOW",
   "zdGRAVEzdLEFT HOOKzeINE BELOWzeONG RIGHT LEGzdOBLIQUE STROKEzdSMALL LETTER JzdTILDEwJvO",
   "w WITH ACUTEzdBREVEzdCARONzeIRCUMFLEXzn AND ACUTEzsDOT BELOWzsGRAVEzsHOOK ABOVEzsTILDE",
   "zdDIAERESISzm AND MACRONzeOT ABOVEzm AND MACRONzhBELOWzfUBLE ACUTEzkGRAVEzdGRAVEzdHOOK ABOVE",
   "zfRNzh AND ACUTEzmDOT BELOWzmGRAVEzmHOOK ABOVEzmTILDEzdINVERTED BREVEzdLONG STROKE OVERLAYzfOP",
   "zdMACRONzj AND ACUTEzoGRAVEzeIDDLE TILDEzdOGONEKzj AND MACRONzdSTROKEzj AND ACUTEzdTILDE",
   "zi AND ACUTEznDIAERESISznMACRONwIwLD POLISH OwMEGAwOwPEN EzbOwUvPw WITH ACUTEzdDOT ABOVE",
   "zdFLOURISHzdHOOKzdSQUIRREL TAILzeTROKEzj THROUGH DESCENDERvQw WITH DIAGONAL STROKE",
   "zdSTROKE THROUGH DESCENDERvRw ROTUNDAxWITH ACUTEzdCARONzeEDILLAzdDOT ABOVEzhBELOWzm AND MACRON",
   "zfUBLE GRAVEzdINVERTED BREVEzdLINE BELOWzdOBLIQUE STROKEzdSTROKEzdTAILwEVERSED C WITH DOTzfE",
   "zfHALF HzfOPEN EwUM ROTUNDAvSw WITH ACUTEzi AND DOT ABOVEzdCARONzi AND DOT ABOVEzeEDILLA",
   "zeIRCUMFLEXzeOMMA BELOWzdDOT ABOVEzhBELOWzm AND DOT ABOVEzdHOOKzdOBLIQUE STROKE",
   "zdSHORT STROKE OVERLAYzeWASH TAILwALTILLOwCHWAxRIPT GwHARP SwIGMOID SwMALL CAPITAL I",
   "zcQ WITH HOOK TAILvTw WITH CARONzeEDILLAzeIRCUMFLEX BELOWzeOMMA BELOWzdDIAGONAL STROKE",
   "zeOT ABOVEzhBELOWzdHOOKzdLINE BELOWzdRETROFLEX HOOKzdSTROKEwHORNzb WITH STROKE",
   "zn THROUGH DESCENDERwONE FIVEzbSIXzbTWOwRESILLOwURNED AzeLPHAzdHzdINSULAR GzdKzdLzdMzdTzdVwZvU",
   "w BARxWITH ACUTEzdBREVEzdCARONzeIRCUMFLEXzn BELOWzdDIAERESISzm AND ACUTEzrCARONzrGRAVEzrMACRON",
   "znBELOWzeOT BELOWzfUBLE ACUTEzkGRAVEzdGRAVEzdHOOK ABOVEzfRNzh AND ACUTEzmDOT BELOWzmGRAVE",
   "zmHOOK ABOVEzmTILDEzdINVERTED BREVEzdMACRONzj AND DIAERESISzdOGONEKzdRING ABOVEzdSTROKEzdTILDE",
   "zi AND ACUTEzjBELOWwPSILONvVw WITH DIAGONAL STROKEzeOT BELOWzdHOOKzdTILDEwENDwISIGOTHIC Z",
   "wOLAPUK AEzeOEzeUEwYvWw WITH ACUTEzdCIRCUMFLEXzdDIAERESISzeOT ABOVEzhBELOWzdGRAVEzdHOOKwYNNvX",
   "w WITH DIAERESISzeOT ABOVEvYw WITH ACUTEzdCIRCUMFLEXzdDIAERESISzeOT ABOVEzhBELOWzdGRAVEzdHOOK",
   "zh ABOVEzdLOOPzdMACRONzdSTROKEzdTILDEwOGHvZw WITH ACUTEzdCARONzeIRCUMFLEXzdDESCENDERzeOT ABOVE",
   "zhBELOWzdHOOKzdLINE BELOWzdPALATAL HOOKzdSTROKEzeWASH TAILpIGATURE IJxOEhROSS",
   "gEPIGRAPHIC LETTER ARCHAIC MyI LONGAzNVERTED MyREVERSED FziPySIDEWAYS IgLETTER AIN",
   "oLVEOLAR CLICKnBIDENTAL PERCUSSIVEpLABIAL CLICKwPERCUSSIVEnDENTAL CLICKnGLOTTAL STOP",
   "z WITH STROKEnINVERTED GLOTTAL STOPzj WITH CURLzpSTROKEnLATERAL CLICK",
   "nPHARYNGEAL VOICED FRICATIVEnRETROFLEX CLICKzd WITH RETROFLEX HOOKpVERSED ESH LOOP",
   "wGLOTTAL STOP WITH STROKEnSINOLOGICAL DOToMALL CAPITAL AzdEzcBzdARRED BzcCzcDzcEzdTHzdZHzcFzcG",
   "zd WITH HOOKzcHzcIzdNVERTED RzcJzcKzcLzd WITH BELTzjSTROKEzcMzcNzcOzdEzdPEN OzdUzcPzcQzcR",
   "zd WITH RIGHT LEGzdEVERSED NzlRzdUMzcSzcTzdURNED EzjGzjKzjMzjRzcUzcVzcWzcYzcZoTRETCHED C",
   "y WITH CURLnTWO WITH STROKEnVOICED LARYNGEAL SPIRANTnWYNNnYR",
   "gSMALL CAPITAL LETTER I WITH STROKEzcU WITH STROKEmLETTER Au REVERSED-SCHWAvWITH ACUTEzbBREVE",
   "zg AND ACUTEzlDOT BELOWzlGRAVEzlHOOK ABOVEzlTILDEzbCARONzcIRCUMFLEXzl AND ACUTEzqDOT BELOW",
   "zqGRAVEzqHOOK ABOVEzqTILDEzbDIAERESISzk AND MACRONzcOT ABOVEzk AND MACRONzfBELOWzdUBLE GRAVE",
   "zbGRAVEzbHOOK ABOVEzbINVERTED BREVEzbMACRONzbOGONEKzbRETROFLEX HOOKzcIGHT HALF RINGzdNG ABOVE",
   "zl AND ACUTEzgBELOWzbSTROKEzbTILDEuAuEv WITH ACUTEzcMACRONuLPHAy WITH RETROFLEX HOOK",
   "uNGLICANA WuOuUuVv WITH HORIZONTAL BARuYtBu WITH DOT ABOVEzfBELOWzbFLOURISHzbHOOKzbLINE BELOW",
   "zbMIDDLE TILDEzbPALATAL HOOKzbSTROKEzbTOPBARuARRED ALPHAzbEzbOvSELINE ESHuETAuLACKLETTER EzgO",
   "zh WITH STROKEuOTTOM HALF OuROKEN LtCu WITH ACUTEzbBARzbCARONzcEDILLAzi AND ACUTEzcIRCUMFLEX",
   "zcURLzbDOT ABOVEzbHOOKzbPALATAL HOOKzbRETROFLEX HOOKzbSTROKEuHIw WITH LOW LEFT SERIF",
   "zhRIGHT RINGuLOSED INSULAR GzbOMEGAzcPEN EzbREVERSED OPEN EuONuUATRILLOzd WITH COMMAtD",
   "u WITH CARONzcEDILLAzcIRCUMFLEX BELOWzcURLzbDOT ABOVEzfBELOWzbHOOKzf AND TAILzbLINE BELOW",
   "zbMIDDLE TILDEzbPALATAL HOOKzbSHORT STROKE OVERLAYzcTROKEzbTAILzcOPBARuB DIGRAPHuELTA",
   "vZH DIGRAPHzg WITH PALATAL HOOKzmRETROFLEX HOOKuOTLESS IzcJzd WITH STROKEzp AND HOOKvUBLE R",
   "zc WITH CROSSED-TAILzbTHORNzbWYNNuUMuZv DIGRAPHze WITH CURLzkRETROFLEX HOOKwWITH CARONtE",
   "u WITH ACUTEzbBREVEzbCARONzcEDILLAzi AND BREVEzcIRCUMFLEXzl AND ACUTEzqDOT BELOWzqGRAVE",
   "zqHOOK ABOVEzqTILDEzmBELOWzbDIAERESISzcOT ABOVEzfBELOWzdUBLE GRAVEzbFLOURISHzbGRAVE",
   "zbHOOK ABOVEzbINVERTED BREVEzbMACRONzh AND ACUTEzmGRAVEzbNOTCHzbOGONEKzbRETROFLEX HOOKzbSTROKE",
   "zbTILDEzg BELOWuGYPTOLOGICAL AINzjLEFuNGw WITH CROSSED-TAILzdPALATAL HOOKuSHw WITH CURL",
   "zdDOUBLE BARzn AND CURLzdPALATAL HOOKzdRETROFLEX HOOKuTvHuZHw REVERSEDxWITH CARONzeURL",
   "zdPALATAL HOOKzdRETROFLEX HOOKzdTAILtFu WITH DOT ABOVEzbHOOKzbMIDDLE TILDEzbPALATAL HOOK",
   "zbSTROKEuENG DIGRAPHzg WITH TRILLtGu WITH ACUTEzbBREVEzbCARONzcEDILLAzcIRCUMFLEXzbDOT ABOVE",
   "zbHOOKzbMACRONzbOBLIQUE STROKEzbPALATAL HOOKzbSTROKEuAMMAuHAuLOTTAL AzcIzcSTOPzcUtH",
   "u WITH BREVE BELOWzbCARONzcEDILLAzcIRCUMFLEXzbDESCENDERzcIAERESISzcOT ABOVEzfBELOWzbHOOK",
   "zbLINE BELOWzbPALATAL HOOKzbSTROKEuALF HuENGx WITH HOOKuVtIu WITH ACUTEzbBREVEzbCARON",
   "zcIRCUMFLEXzbDIAERESISzk AND ACUTEzcOT BELOWzdUBLE GRAVEzbGRAVEzbHOOK ABOVEzbINVERTED BREVE",
   "zbMACRONzbOGONEKzbRETROFLEX HOOKzbSTROKEzh AND RETROFLEX HOOKzbTILDEzg BELOWuNSULAR DzcFzcGzcR",
   "zcSzcTvVERTED ALPHAzdOEuOTAx WITH STROKEwIFIED EuStJu WITH CARONzcIRCUMFLEXzcROSSED-TAIL",
   "zbSTROKEtKu WITH ACUTEzbCARONzcEDILLAzbDESCENDERzcIAGONAL STROKEzcOT BELOWzbHOOKzbLINE BELOW",
   "zbOBLIQUE STROKEzbPALATAL HOOKzbSTROKEzh AND DIAGONAL STROKEuRAtLu WITH ACUTEzbBARzcELT",
   "zf AND PALATAL HOOKzbCARONzcEDILLAzcIRCUMFLEX BELOWzcURLzbDOT BELOWzk AND MACRONzdUBLE BAR",
   "ziMIDDLE TILDEzbFISHHOOKzbHIGH STROKEzbINVERTED LAZY SzbLINE BELOWzbMIDDLE DOTziRINGziTILDE",
   "zbPALATAL HOOKzbRETROFLEX HOOKzp AND BELTzbSTROKEuAMBDA WITH STROKEuENIS FvZH",
   "x WITH RETROFLEX HOOKuJuONG Sz WITH DIAGONAL STROKEzhOT ABOVEzgHIGH STROKEuS DIGRAPHuUM",
   "uZ DIGRAPHtMu WITH ACUTEzbCROSSED-TAILzbDOT ABOVEzfBELOWzbHOOKzbMIDDLE TILDEzbPALATAL HOOK",
   "uIDDLE SCOTS Sz-WELSH LLzhVuUMtNu PRECEDED BY APOSTROPHEvWITH ACUTEzbCARONzcEDILLA",
   "zcIRCUMFLEX BELOWzcROSSED-TAILzcURLzbDESCENDERzcOT ABOVEzfBELOWzbGRAVEzbLEFT HOOKzcINE BELOW",
   "zcONG RIGHT LEGzbMIDDLE TILDEzbOBLIQUE STROKEzbPALATAL HOOKzbRETROFLEX HOOKzbTILDEuJuUMtO",
   "u WITH ACUTEzbBREVEzbCARONzcIRCUMFLEXzl AND ACUTEzqDOT BELOWzqGRAVEzqHOOK ABOVEzqTILDE",
   "zbDIAERESISzk AND MACRONzcOT ABOVEzk AND MACRONzfBELOWzdUBLE ACUTEziGRAVEzbGRAVEzbHOOK ABOVE",
   "zdRNzf AND ACUTEzkDOT BELOWzkGRAVEzkHOOK ABOVEzkTILDEzbINVERTED BREVEzbLONG STROKE OVERLAYzdOP",
   "zdW RING INSIDEzbMACRONzh AND ACUTEzmGRAVEzbOGONEKzh AND MACRONzbRETROFLEX HOOKzbSTROKE",
   "zh AND ACUTEzbTILDEzg AND ACUTEzlDIAERESISzlMACRONuIuLD POLISH OuMEGAuOuPEN E",
   "z WITH RETROFLEX HOOKyOz WITH RETROFLEX HOOKzgSTROKEzEuUtPu WITH ACUTEzbDOT ABOVEzbFLOURISH",
   "zbHOOKzbMIDDLE TILDEzbPALATAL HOOKzbSQUIRREL TAILzcTROKEzh THROUGH DESCENDERuHItQ",
   "u WITH DIAGONAL STROKEzbHOOKzf TAILzbSTROKE THROUGH DESCENDERuP DIGRAPHtRu ROTUNDAvWITH ACUTE",
   "zbCARONzcEDILLAzcROSSED-TAILzbDOT ABOVEzfBELOWzk AND MACRONzdUBLE GRAVEzbFISHHOOK",
   "zj AND MIDDLE TILDEzoPALATAL HOOKzbINVERTED BREVEzbLINE BELOWzcONG LEGzbMIDDLE TILDE",
   "zbOBLIQUE STROKEzbPALATAL HOOKzbSTROKEzbTAILzOUT HANDLEuAMS HORNuEVERSED Cze WITH DOTzdEzeNG",
   "zdHALF HzdKzdOPEN Ezj WITH HOOKzpRETROFLEX HOOKzdR WITH FISHHOOKzdSCRIPT GuUMw ROTUNDAtS",
   "u WITH ACUTEzg AND DOT ABOVEzbCARONzg AND DOT ABOVEzcEDILLAzcIRCUMFLEXzcOMMA BELOWzcURL",
   "zbDOT ABOVEzfBELOWzk AND DOT ABOVEzbHOOKzbMIDDLE TILDEzbOBLIQUE STROKEzbPALATAL HOOK",
   "zbSHORT STROKE OVERLAYzcWASH TAILuAKHA YATvLTILLOuCHWAy WITH HOOKzfRETROFLEX HOOKvRIPT G",
   "zc WITH CROSSED-TAILzbRzc WITH RINGuHARP SuIDEWAYS DIAERESIZED UzdOze WITH STROKEzePEN O",
   "zdTURNED MzdUvGMOID SuQUAT REVERSED ESHuTIRRUP RtTu WITH CARONzcEDILLAzcIRCUMFLEX BELOW",
   "zcOMMA BELOWzcURLzbDIAERESISzeGONAL STROKEzcOT ABOVEzfBELOWzbHOOKzf AND RETROFLEX HOOK",
   "zbLINE BELOWzbMIDDLE TILDEzbPALATAL HOOKzbRETROFLEX HOOKzbSTROKEuAILLESS PHI",
   "uC DIGRAPH WITH CURLuESH DIGRAPHzg WITH PALATAL HOOKzmRETROFLEX HOOKuH WITH STRIKETHROUGHvORN",
   "y WITH STROKEzl THROUGH DESCENDERuONE FIVEySIXyTWOvP HALF OuRESILLOuS DIGRAPH",
   "ze WITH RETROFLEX HOOKuUMvRNED AzcEzcLPHAzbDELTAzbEzbGzbHzc WITH FISHHOOKzq AND TAILzbI",
   "zcNSULAR GzbKzbLzbMzc WITH LONG LEGzbO OPEN-Ozj WITH STROKEzcEzd WITH HORIZONTAL STROKE",
   "zjSTROKEzcPEN EzbRzc WITH HOOKziLONG LEGzq AND RETROFLEX HOOKziMIDDLE TILDEziPALATAL HOOK",
   "ziTAILzbTzc WITH CURLzbUIzbVzbWzbYzc WITH BELTuZtUu BARy WITH SHORT RIGHT LEGvWITH ACUTE",
   "zbBREVEzbCARONzcIRCUMFLEXzl BELOWzbDIAERESISzk AND ACUTEzpCARONzpGRAVEzpMACRONzlBELOW",
   "zcOT BELOWzdUBLE ACUTEziGRAVEzbGRAVEzbHOOK ABOVEzdRNzf AND ACUTEzkDOT BELOWzkGRAVEzkHOOK ABOVE",
   "zkTILDEzbINVERTED BREVEzbLEFT HOOKzbMACRONzh AND DIAERESISzbOGONEKzbRETROFLEX HOOKzcING ABOVE",
   "zbSHORT RIGHT LEGzcTROKEzbTILDEzg AND ACUTEzhBELOWuEuIuMuOuPSILONzb WITH STROKEtVu WITH CURL",
   "zbDIAGONAL STROKEzcOT BELOWzbHOOKzbPALATAL HOOKzbRIGHT HOOKzbTILDEuENDuISIGOTHIC ZuOLAPUK AE",
   "zcOEzcUEuYtWu WITH ACUTEzbCIRCUMFLEXzbDIAERESISzcOT ABOVEzfBELOWzbGRAVEzbHOOKzbRING ABOVEtX",
   "u WITH DIAERESISzcOT ABOVEzbLONG LEFT LEGzo AND LOW RIGHT RINGzpWITH SERIFzdW RIGHT RING",
   "zbPALATAL HOOKtYu WITH ACUTEzbCIRCUMFLEXzbDIAERESISzcOT ABOVEzfBELOWzbGRAVEzbHOOKzf ABOVE",
   "zbLOOPzbMACRONzbRING ABOVEzbSHORT RIGHT LEGzcTROKEzbTILDEuOGHtZu WITH ACUTEzbCARONzcIRCUMFLEX",
   "zcURLzbDESCENDERzcOT ABOVEzfBELOWzbHOOKzbLINE BELOWzbMIDDLE TILDEzbPALATAL HOOK",
   "zbRETROFLEX HOOKzbSTROKEzcWASH TAILnIGATURE FFxIxLwIwLvIJvLONG S TvOEvST",
   "hUBSCRIPT SMALL LETTER AzeEzeHzeIzeJzeKzeLzeMzeNzeOzePzeRzeSzfCHWAzeTzeUzeVzeX",
   "bEAF FLUTTERING IN WINDeY GREENcDGERcFT AND LOWER AND RIGHT TRIANGULAR THREE QUARTERS BLOCK",
   "pONE EIGHTH BLOCKjRIGHT DOUBLE TURNSTILEpTACKqRIANGULAR HALF BLOCK",
   "jUPPER AND RIGHT TRIANGULAR THREE QUARTERS BLOCKpONE EIGHTH BLOCKhGER BUBBLEiLE BRACKET",
   "s WITH DOTgRC LESS-THAN BRACKEThROW WITH CIRCLED PLUSqSMALL CIRCLE",
   "fBARB DOWN RIGHT BARB DOWN HARPOONzbUP HARPOONkUP RIGHT BARB DOWN HARPOONyUP HARPOON",
   "gLACK LENTICULAR BRACKETlTORTOISE SHELL BRACKETfCEILINGgLOSED ENTRYgORNER BRACKETgURLY BRACKET",
   "s LOWER HOOKtMIDDLE PIECEtUPPER HOOKfDOTTED SUBSTITUTION BRACKEThUBLE ANGLE BRACKET",
   "mPARENTHESISmQUOTATION MARKmWIGGLY FENCEfFISH TAILhVE EIGHTHS BLOCKgLOORfHALF BLACK CIRCLE",
   "qSTARmOCKkCIRCLEq WITH DOTwFOUR DOTSwTHREE DOTSxWO DOTSkFOLDER",
   "kINVERSE MEDIUM SHADE AND RIGHT HALF BLOCKkMEDIUM SHADEkRUNNING MANhND TELEPHONE RECEIVER",
   "fLOW PARAPHRASE BRACKETgUGGAGEfMULTIMAPfNORMAL FACTOR SEMIDIRECT PRODUCTfONE EIGHTH BLOCK",
   "jQUARTER BLOCKgUTER JOINfPARENTHESISq EXTENSIONrLOWER HOOKrUPPER HOOKfRAISED OMISSION BRACKET",
   "gIGHT ARROWq THROUGH SMALL CIRCLErWITH DOUBLE VERTICAL STROKEwSTROKEwVERTICAL STROKE",
   "lBLACK ARROWlDOUBLE ARROWx WITH STROKEzeVERTICAL STROKElOPEN-HEADED ARROWlSANS-SERIF ARROW",
   "lTRIANGLE-HEADED ARROWlWAVE ARROWmHITE ARROWfS-SHAPED BAG DELIMITERgEMIDIRECT PRODUCT",
   "hVEN EIGHTHS BLOCKgIDEWAYS U BRACKEThNGLE QUOTATION MARKgPEECH BUBBLEgQUARE BRACKETt EXTENSION",
   "uLOWER CORNERuUPPER CORNERuWITH DOUBLE STROKEzQUILLzSTROKEzTICK IN BOTTOM CORNERziTOP CORNER",
   "zUNDERBARgUBSTITUTION BRACKETfTACKgHIRD WHITE RIGHT POINTING INDEXhOUGHT BUBBLE",
   "hREE EIGHTHS BLOCKlQUARTERS BLOCKgORTOISE SHELL BRACKETgRANSPOSITION BRACKET",
   "hIANGLE BESIDE VERTICAL BARlULAR ONE QUARTER BLOCKfVERTICAL BAR WITH QUILLpOX LINE",
   "fWHITE CORNER BRACKETmURLY BRACKETlLENTICULAR BRACKETlPARENTHESISlSQUARE BRACKET",
   "lTORTOISE SHELL BRACKETgIGGLY FENCEgRITING HANDe-FACING ARMENIAN ETERNITY SIGNmFIST",
   "mSVASTI SIGNx WITH DOTSfHANDED INTERLACED PENTAGRAMfPOINTING ANGLE BRACKET",
   "oCURVED ANGLE BRACKEToDOUBLE ANGLE QUOTATION MARKoMAGNIFYING GLASS",
   "fSHADED WHITE RIGHTWARDS ARROWgIDE ARC ANTICLOCKWISE ARROWfTO-RIGHT EMBEDDINGoISOLATEoMARK",
   "oOVERRIDEeWARDS ARROWp ABOVE ALMOST EQUAL TOwREVERSE ALMOST EQUAL TOzfTILDE OPERATOR",
   "wSHORT RIGHTWARDS ARROWwTILDE OPERATORrND UPPER AND LOWER ONE EIGHTH BLOCKqFROM BAR",
   "y TO BLACK DIAMONDqOVER RIGHTWARDS ARROWqTHROUGH LESS-THANySUBSETyXrO BAR",
   "w OVER RIGHTWARDS ARROW TO BARuLACK DIAMONDqWITH DOTTED STEMxUBLE VERTICAL STROKE",
   "vEQUILATERAL ARROWHEADvHOOKvLARGE TRIANGLE ARROWHEADwOOPvMEDIUM TRIANGLE ARROWHEAD",
   "vNOTCHED TAILvPLUS BELOWvSMALL EQUILATERAL ARROWHEADzcTRIANGLE ARROWHEADwTROKEvTAIL",
   "z WITH DOUBLE VERTICAL STROKEzgVERTICAL STROKEwIP DOWNWARDSzUPWARDSvVERTICAL STROKEp-TAIL",
   "kBACK-TILTED SHADOWED WHITE ARROWlLACK ARROWqCIRCLED WHITE ARROWlOTTOM-SHADED WHITE ARROW",
   "kCOMPRESSED ARROWkDASHED ARROWlOUBLE ARROWw FROM BARxWITH STROKEzdVERTICAL STROKEw-TAIL",
   "rDASH ARROWkFINGER-POST ARROWlRONT-TILTED SHADOWED WHITE ARROWkHAND",
   "mRPOON OVER RIGHTWARDS HARPOONsWITH BARB DOWN ABOVE RIGHTWARDS HARPOON WITH BARB DOWN",
   "ziBELOW LONG DASHziFROM BARziTO BARzhWARDSzdUP ABOVE LEFTWARDS HARPOON WITH BARB DOWN",
   "znONG DASHzmRIGHTWARDS HARPOON WITH BARB UPzgFROM BARzgTO BARzfWARDSlEAVY ARROW",
   "qCOMPRESSED ARROWkLEFT-SHADED WHITE ARROWkOPEN-HEADED ARROWkPAIRED ARROWSkQUADRUPLE ARROW",
   "kRIGHT-SHADED WHITE ARROWlOCKETkSANS-SERIF ARROWlQUARED ARROWnIGGLE ARROW",
   "kTOP SHADED WHITE ARROWlRIANGLE ARROWHEADs-HEADED ARROW",
   "zg OVER RIGHTWARDS TRIANGLE-HEADED ARROWzhTO BARzhWITH BOLD SHAFTzmDOUBLE HORIZONTAL STROKE",
   "ztVERTICAL STROKEzmHEAVY SHAFTzmLONG TIP DOWNWARDSzvUPWARDSzmMEDIUM SHAFTzmNARROW SHAFT",
   "zmVERY HEAVY SHAFTzbDASHED ARROWzbPAIRED ARROWSnPLE ARROWrDASH ARROWlWO HEADED ARROW",
   "n-HEADED ARROW FROM BARzcWITH DOUBLE VERTICAL STROKEzhTAILzl WITH DOUBLE VERTICAL STROKE",
   "zrVERTICAL STROKEziRIANGLE ARROWHEADSzhVERTICAL STROKEvTRIPLE DASH ARROWkWAVE ARROWlHITE ARROW",
   "v WITHIN TRIANGLE ARROWHEADcGcMONcOdPARDcPCHA CONSONANT SIGN KxANGwLwMwNxYIN-DOwPwRwT",
   "hDIGIT EIGHTnFIVEoOURnNINEnONEnSEVENoIXnTHREEoWOnZEROhLETTER AoBApLAoCApHAoDApDApZAoFApLAoGA",
   "pLAoHApLAoJAoKApHApLAoLAoMApLAoNApGApYAoPApHApLAoRAoSApHAoTApHApSAqHApTAqHAoVAoWAoYA",
   "hPUNCTUATION CER-WAtNYET THYOOM TA-ROLtTA-ROLuSHOOKz CER-WAhSIGN NUKTAmRANiUBJOINED LETTER RA",
   "yYAhVOWEL SIGN AAsEsIsOtOsUtUcSS-THAN ABOVE DOUBLE-LINE EQUAL ABOVE GREATER-THAN",
   "qGREATER-THAN ABOVE DOUBLE-LINE EQUALqLEFTWARDS ARROWqSIMILAR ABOVE GREATER-THANyOR EQUAL",
   "rLANTED EQUAL ABOVE GREATER-THAN ABOVE SLANTED EQUALlND NOT APPROXIMATE",
   "oSINGLE-LINE NOT EQUAL TOkBUT NOT EQUAL TOvIVALENT TOkCLOSED BY CURVEz ABOVE SLANTED EQUAL",
   "kEQUAL TO OR GREATER-THANkOR APPROXIMATEnEQUAL TOqIVALENT TOnGREATER-THANnSLANTED EQUAL TO",
   "ze WITH DOT ABOVEzt RIGHTzoINSIDElVER EQUAL TOkSIGNkWITH CIRCLE INSIDEpDOTpQUESTION MARK ABOVE",
   "cVEL SLIDERbFbIBRAcGATURE OPEN ET ORNAMENTdHT CHECK MARKgEIGHT SPOKED ASTERISK",
   "gFIVE POINTED BLACK STARlSPOKED ASTERISKhOUR POINTED BLACK CUSPzSTARgGREEK CROSS",
   "gLEFT TORTOISE SHELL BRACKET ORNAMENTgRAILhIGHT TORTOISE SHELL BRACKET ORNAMENTgSALTIREhHADE",
   "hIX SPOKED ASTERISKgTHREE POINTED BLACK STARhWELVE POINTED BLACK STARgVERTICAL BAR",
   "gWHITE SQUAREfNINGj MOODo BUBBLEcMBU DIGIT EIGHTmFIVEnOURmNINEmONEmSEVENnIXmTHREEnWOmZERO",
   "gEXCLAMATION MARKgLETTER BAoHAnCAoHAnDAoHAnGAoHAoYANnHAnJAoHAnKAoHAnLAnMAnNAoGAnPAoHAnRAnSAoHA",
   "oSAnTAoHAoRAnWAnYApNgQUESTION MARKgSIGN KEMPHRENGlLOOlMUKPHRENGlSA-IhMALL LETTER ANUSVARAtKA",
   "tLAtMAtNAuGAtPAtRAtTAhUBJOINED LETTER RAxWAxYAgVOWEL SIGN AsIsUrEsErIrOsOrUl-CARRIER LETTER",
   "dITED LIABILITY SIGNcNE FEEDfINTEGRATION NOT INCLUDING THE POLE",
   "rWITH RECTANGULAR PATH AROUND POLEwSEMICIRCULAR PATH AROUND POLEfSEPARATORfTABULATIONp SET",
   "eAR A SIGN A028Bp100-102q20Bq31Cp301r2r3r4r5r6r7r8r9AsBsCq10r1r2r3AsBsCr4r5r6r7r8r9q20r1r2r3r4",
   "r5r6r7r8r9q30r1r2r3r4r5r6r7r8r9q40r1r2r3r4r5r6r7r8r9q50r1r2r3r4r5r6r7r8r9q60r1r2r3r4r5r6r7r8r9",
   "q70r1p400-VASr1-VASr2-VASr3-VASr4-VASr5-VASr6-VASr7-VASr8-VASr9-VASq10-VASr1-VASr2-VASr3-VAS",
   "r4-VASr5-VASr6-VASr7-VASr8-VASp501r2r3r4r5r6r8r9q10r1r2r3r5r6q20r1r3r4r5r6r7r8r9q30r1r2r4r5r6",
   "r7r8r9q40r1r2r5r7r8r9q50r1r2r3r4r5r6r7r9q63r4r5r6r8r9q70r1r2r3r4r5r6r7r8r9q80r1r2r3r4r5r6r7r8",
   "r9q91r2r4r5r6r8p600r1r2r3r4r6r8r9q10r1r2r3r4r5r6r7r8r9q20r1r2r3r4r6r7r8r9q34r7r8q40r2r3r4r5r6",
   "r8r9q51r2r3r4r5r6r7r8r9q60r1r2r3r4p701 Ar2 Br3 Dr4 Er5 Fr6 Hr7 Jr8 Kr9 Ls-2 L2t3 L3t4 L4t6 L6",
   "q10 Wr1 Xr2 Yr3 OMEGAr4 ABBr5 BBr7 DDq26 EYYYq32 JEp800r1r2r3r4r5r6r7pB001s2s3s4s5s6s7s8s9r10",
   "s1s3s6s7r20s1tFtMs2tFtMs3tMs4s6s7s8s9r30s1s4s7s8s9r40s1s4s5s6s7s8s9r50s1s3s4s5s6s7s8s9r60s1s5",
   "s6s7s9r70s3s4s6s7s8s9r80s1s2s5s6s7q118r20s2s3r31AtBr64r71r80s8r91hB IDEOGRAM B100 MANv2 WOMAN",
   "v4 DEERv5 EQUIDwF MAREwM STALLIONv6F EWEwM RAMv7F SHE-GOATwM HE-GOATv8F SOWwM BOARv9F COW",
   "wM BULLu20 WHEATv1 BARLEYv2 OLIVEv3 SPICEv5 CYPERUSu30 OILv1 WINEv2u40 BRONZEv1 GOLDv2v5 WOOL",
   "v6u50v1 HORNv2v3v4v7v8v9 CLOTHu60v1v2 GARMENTv3 ARMOURv4v5v6v7v8v9u70v1v2v3 MONTHv4v6 TREEv7v8",
   "v9u80v1v2v3v4v5v9u90v1 HELMETt220 FOOTSTOOLv5 BATHTUBu30 SPEARv1 ARROWv2v3 SWORDv4v6",
   "u40 WHEELED CHARIOTv1 CHARIOTv2 CHARIOT FRAMEv3 WHEELv5v6v8v9u51v2v3v4 DARTv5v6v7v8v9",
   "sVESSEL B155zb200zd1zd2zd3zd4zd5zd6zd7zd8zd9zc10zd1zd2zd3zd4zd5zd6zd7zd8zd9zc21zd2zd6zd7zd8zd9",
   "zc50zb305jMONOGRAM B127 KAPOv8 KANAKOu33 AREPAv5 MERIu56 TURO2t247 DIPTEjSYLLABLE B001 DAv2 RO",
   "v3 PAv4 TEv5 TOv6 NAv7 DIv8 Av9 SEu10 Uv1 POv2 SOv3 MEv4 DOv5 MOv6 QAv7 ZAu20 ZOv1 QIv3 MU",
   "v4 NEv5 A2v6 RUv7 REv8 Iv9 PU2u30 NIv1 SAv2 QOv3 RA3v6 JOv7 TIv8 Ev9 PIu40 WIv1 SIv2 WOv3 A3",
   "v4 KEv5 DEv6 JEv8 NWAu50 PUv1 DUv2 NOv3 RIv4 WAv5 NUv7 JAv8 SUv9 TAu60 RAv1 Ov2 PTEv5 JUv6 TA2",
   "v7 KIv8 RO2v9 TUu70 KOv1 DWEv2 PEv3 MIv4 ZEv5 WEv6 RA2v7 KAv8 QEu80 MAv1 KUv5 AUv7 TWEu90 DWO",
   "v1 TWOlMBOL B018t9s22s34s47t9s56s63t4s79s82t3t6t9dK SYMBOLeED PAPERCLIPScON FACEcPSeTICK",
   "cRA SIGNcSU LETTER AnEmBAmCAnHAmDAnZAmEnUmFAmGAnHAmHAnHAmImJAmKAnHAmLAmMAmNAnGAmOnEmPAnHAmSA",
   "nHAmTAnHAnONE MYA BOvCYAvJEUvNAvTIrNA POnSAoHAmUnEnHmWAmXAmYAnHAmZAnHAfPUNCTUATION COMMA",
   "rFULL STOPcVRE TOURNOIS SIGNcZARDbLAMAbOBSTERcCKe WITH INK PENeING-SHIFT ONEoZEROcGICAL AND",
   "l WITH DOT ABOVEtUBLE OVERBARyUNDERBARrHORIZONTAL DASHrMIDDLE STEMrUNDERBARiOR",
   "k OVERLAPPING LOGICAL ANDlWITH DOT ABOVEsUBLE OVERBARxUNDERBARqHORIZONTAL DASHqMIDDLE STEM",
   "cLLIPOPcNG DASH FROM LEFT MEMBER OF DOUBLE VERTICALgIVISIONgRUMfLEFT RIGHT ARROWqDOUBLE ARROW",
   "kTACKjWARDS ARROWu FROM BARpDOUBLE ARROWzc FROM BARpSQUIGGLE ARROWfRIGHT TACKkWARDS ARROW",
   "v FROM BARqDOUBLE ARROWzd FROM BARqSQUIGGLE ARROWcTION BOTTLEdUScUDLY CRYING FACEcVE HOTEL",
   "fLETTERcW ASTERISKeBATTERYfRIGHTNESS SYMBOLeDOUBLE PRIME QUOTATION MARKeKAVYKAk WITH DOTeLINE",
   "dER BLADE SCISSORSgFIVE EIGHTHS BLOCKgHALF BLOCKlCIRCLElINVERSE WHITE CIRCLElMEDIUM SHADE",
   "gLEFT BALLPOINT PENmLOCK DIAGONAL LOWER MIDDLE LEFT TO LOWER CENTREzzdRIGHT",
   "zbUPPER CENTRE TO LOWER MIDDLE RIGHTzxRIGHTzrUPPER MIDDLE RIGHTzhLEFT TO LOWER CENTRE",
   "zvMIDDLE RIGHTzpUPPER MIDDLE RIGHTzhMIDDLE LEFT TO LOWER CENTREzzdMIDDLE RIGHTzzdRIGHTlCRAYON",
   "lFOUNTAIN PENlPAINTBRUSHmENCILlQUADRANT CIRCULAR ARClSEMICIRCULAR ANTICLOCKWISE ARROWlTRIANGLE",
   "rULAR MEDIUM SHADEgONE EIGHTH BLOCKkQUARTER BLOCK",
   "gRIGHT BLOCK DIAGONAL LOWER CENTRE TO LOWER MIDDLE RIGHTzsUPPER MIDDLE RIGHTzyRIGHT",
   "ziLEFT TO LOWER MIDDLE RIGHTzqUPPER CENTREzwMIDDLE RIGHTziMIDDLE LEFT TO UPPER CENTRE",
   "zzeMIDDLE RIGHTzzeRIGHTzcUPPER MIDDLE LEFT TO UPPER CENTREzzeRIGHTmCORNER WITH DOT",
   "mDROP-SHADOWED WHITE SQUAREmPENCILmQUADRANT CIRCULAR ARCmSEMICIRCULAR CLOCKWISE ARROW",
   "nHADOWED WHITE CIRCLEzcSQUAREmTRIANGLEsULAR MEDIUM SHADEgSEVEN EIGHTHS BLOCK",
   "gTHREE EIGHTHS BLOCKmQUARTERS BLOCKhRIANGULAR ONE QUARTER BLOCKcZENGE",
   "h DIVIDED BY HORIZONTAL RULEbREcIcMcObUGGAGEcNGSbYCIAN LETTER ApNoBpHoDoEpNoGoHoIoJoKpKoLoMpM",
   "oNpNoPoQoRoSoTpHpToUoWoXoZcDIAN LETTER ApNoBoCoDoEpNoFoGoIoKoLpYoMoNpNoOoQoRoSpSoTpToUoVoY",
   "hTRIANGULAR MARKcING FACEaMACRONcGEdIC WANDdNETcHAJANI ABBREVIATION SIGNjLETTER AqBArHAqCArHA",
   "qDArDAsHArHAqEqGArHAqHAqIqJArHAqKArHAqLAqMAqNArNArYAqOqPArHAqRArRAqSAqTArHArTAsHAqUqVA",
   "kIGATURE SHRIjSECTION MARKkIGN NUKTAdJONG TILE AUTUMNnBACKpMBOOnCHRYSANTHEMUMnEAST WIND",
   "oIGHT OF BAMBOOSwCHARACTERSxIRCLESnFIVE OF BAMBOOSvCHARACTERSwIRCLESoOUR OF BAMBOOSvCHARACTERS",
   "wIRCLESnGREEN DRAGONnJOKERnNINE OF BAMBOOSvCHARACTERSwIRCLESoORTH WINDnONE OF BAMBOOS",
   "uCHARACTERSvIRCLESoRCHIDnPLUMnRED DRAGONnSEVEN OF BAMBOOSwCHARACTERSxIRCLESoIX OF BAMBOOS",
   "uCHARACTERSvIRCLESoOUTH WINDoPRINGoUMMERnTHREE OF BAMBOOSwCHARACTERSxIRCLESoWO OF BAMBOOS",
   "uCHARACTERSvIRCLESnWEST WINDoHITE DRAGONoINTERcKASAR ANGKAiEND OF SECTIONiLETTER ApBApCApDApGA",
   "pJApKApLApMApNAqGAqYApPApRApSApTApVApYAiPASSIMBANGiVOWEL SIGN EtItOtUcLAYALAM AU LENGTH MARK",
   "kDATE MARKlIGIT EIGHTqFIVErOURqNINEqONEqSEVENrIXqTHREErWOqZEROkFRACTION ONE EIGHTHxFIFTH",
   "yORTIETHxHALFxONE-HUNDRED-AND-SIXTIETHxQUARTERxSIXTEENTHxTENTHyWENTIETHtTHREE EIGHTIETHS",
   "zQUARTERSzSIXTEENTHSzTWENTIETHSkLETTER AsAsIsRCHAIC IIsUrBAsHArCAsHAtILLU KyLzLzbLyMyNzNyRRyY",
   "rDAsDAtHAsHAsOT REPHrEsErGAsHArHArIsIrJAsHArKAsHArLAsLAtLArMArNAsGAsNAtNAsYArOsOrPAsHArRAsRA",
   "rSAsHAsSArTAsHAsTAtHAtTArUsUrVAsEDIC ANUSVARAsOCALIC LzbLzRzbRrYAkNUMBER ONE HUNDREDvTHOUSAND",
   "rTENkSIGN ANUSVARAqVAGRAHApCANDRABINDUqIRCULAR VIRAMAqOMBINING ANUSVARA ABOVEpPARA",
   "pVERTICAL BAR VIRAMAqIRAMArSARGAkVOWEL SIGN AAwIwUvEwEvIwIvOwOvUwUvVOCALIC LzfLzeRzfR",
   "dE AND FEMALE SIGNfSIGNfWITH STROKE AND MALE AND FEMALE SIGNrSIGNdTESE CROSScMMOTHcN",
   "d AND WOMAN HOLDING HANDSeDANCINGeIN BUSINESS SUIT LEVITATINGhTUXEDOeWITH GUA PI MAOjTURBAN",
   "dAT SIGNdDAIC AFFRICATION MARKiGEMINATION MARKiLETTER ABqDqGqHqINqKrSAqLqMqNqPqQqRqSrHrZqTrTqZ",
   "pDUSHENNApHALQApINqTpKADpUSHENNAiPUNCTUATIONiVOCALIZATION MARKdGO",
   "dICHAEAN ABBREVIATION MARK ABOVEzeBELOWlLETTER AAYINtLEPHtYINsBETHtHETHsDALETHtHAMEDHsFE",
   "sGHIMELtIMELsHEuTHsJAYINtHAYINsKAPHtHAPHsLAMEDHsMEMsNUNsPEsQHOPHtOPHsRESHsSADHEuMEKHtHINtSHIN",
   "sTAWtETHtHAMEDHsWAWsXAPHtOPHsYODHsZAYINtHAYINlNUMBER FIVEsONEv HUNDREDsTENtWENTY",
   "lPUNCTUATION DOTzb WITHIN DOTzUBLE DOT WITHIN DOTxFLEURONxLINE FILLERxSTARxTWO DOTSlSIGN UD",
   "dS SHOEdTELPIECE CLOCKdUAL WHEELCHAIRcP SYMBOL FOR LIGHTHOUSEdLE LEAFcRCHEN HEAD MARK",
   "iLETTER -ApApBApCAqHApDAqZApGApHApJApKAqHApLApMApNAqGAqYApPAqHApRApSAqHApTAqHAqSArHApWApYApZA",
   "qHAiMARK SHADiSIGN ANUSVARAnCANDRABINDUjUBJOINED LETTER AzBAzCAzbHAzDAzbZAzGAzHAzJAzKAzbHAzLA",
   "zMAzNAzbGAzbYAzPAzbHAzRAzSAzbHAzTAzbHAzbSAzcHAzWAzYAzZAzbHAiVOWEL SIGN AAtEtItOtUdRIAGE SYMBOL",
   "dTIAL ARTS UNIFORMcSARAM GONDI DIGIT EIGHTuFIVEvOURuNINEuONEuSEVENvIXuTHREEvWOuZEROoLETTER AwA",
   "wIwUvBAwHAvCAwHAvDAwDAxHAwHAvEvGAwHAvHAvIwIvJAwHAwNYAvKAwHAwSSAvLAwLAvMAvNAwGAwNAwYAvOvPAwHA",
   "vRAvSAwHAwSAvTAwHAwRAwTAxHAvUwUvVAvYAoRA-KARApEPHAoSIGN ANUSVARAtCANDRAtHALANTAtNUKTAtVISARGA",
   "oVIRAMApOWEL SIGN AAzbIzbUzEzIzbIzOzUzbUzVOCALIC RdCULINE ORDINAL INDICATORdK WORK SYMBOL",
   "dU MARKcTE DRINKdHEMATICAL BOLD CAPITAL AzcLPHAzbBzcETAzbCzcHIzbDzcELTAzcIGAMMAzbEzcPSILONzcTA",
   "zbFzbGzcAMMAzbHzbIzcOTAzbJzbKzcAPPAzbLzcAMDAzbMzcUzbNzcUzbOzcMEGAzdICRONzbPzcHIzcIzcSIzbQzbR",
   "zcHOzbSzcIGMAzbTzcAUzcHETAzg SYMBOLzbUzcPSILONzbVzbWzbXzcIzbYzbZzcETAsDIGIT EIGHTyFIVEzOUR",
   "yNINEyONEySEVENzIXyTHREEzWOyZEROsEPSILON SYMBOLsFRAKTUR CAPITAL AzjBzjCzjDzjEzjFzjGzjHzjIzjJ",
   "zjKzjLzjMzjNzjOzjPzjQzjRzjSzjTzjUzjVzjWzjXzjYzjZzbSMALL AzhBzhCzhDzhEzhFzhGzhHzhIzhJzhKzhLzhM",
   "zhNzhOzhPzhQzhRzhSzhTzhUzhVzhWzhXzhYzhZsITALIC CAPITAL AzjLPHAziBzjETAziCzjHIziDzjELTAziE",
   "zjPSILONzjTAziFziGzjAMMAziHziIzjOTAziJziKzjAPPAziLzjAMDAziMzjUziNzjUziOzjMEGAzkICRONziPzjHIzjI",
   "zjSIziQziRzjHOziSzjIGMAziTzjAUzjHETAzn SYMBOLziUzjPSILONziVziWziXzjIziYziZzjETAzEPSILON SYMBOL",
   "zKAPPA SYMBOLzNABLAzPARTIAL DIFFERENTIALzbHI SYMBOLzbI SYMBOLzRHO SYMBOLzSMALL AzhLPHAzgBzhETA",
   "zgCzhHIzgDzhELTAzgEzhPSILONzhTAzgFzhINAL SIGMAzgGzhAMMAzgHzgIzhOTAzgJzgKzhAPPAzgLzhAMDAzgMzhU",
   "zgNzhUzgOzhMEGAziICRONzgPzhHIzhIzhSIzgQzgRzhHOzgSzhIGMAzgTzhAUzhHETAzgUzhPSILONzgVzgWzgXzhIzgY",
   "zgZzhETAzTHETA SYMBOLsKAPPA SYMBOLsNABLAsPARTIAL DIFFERENTIALtHI SYMBOLtI SYMBOLsRHO SYMBOL",
   "sSCRIPT CAPITAL AziBziCziDziEziFziGziHziIziJziKziLziMziNziOziPziQziRziSziTziUziVziWziXziYziZ",
   "zSMALL AzgBzgCzgDzgEzgFzgGzgHzgIzgJzgKzgLzgMzgNzgOzgPzgQzgRzgSzgTzgUzgVzgWzgXzgYzgZtMALL A",
   "zLPHAyBzETAyCzHIyDzELTAzIGAMMAyEzPSILONzTAyFzINAL SIGMAyGzAMMAyHyIzOTAyJyKzAPPAyLzAMDAyMzUyNzU",
   "yOzMEGAzbICRONyPzHIzIzSIyQyRzHOySzIGMAyTzAUzHETAyUzPSILONyVyWyXzIyYyZzETAsTHETA SYMBOL",
   "nDOUBLE-STRUCK CAPITAL AzkBzkDzkEzkFzkGzkIzkJzkKzkLzkMzkOzkSzkTzkUzkVzkWzkXzkYzcDIGIT EIGHT",
   "ziFIVEzjOURziNINEziONEziSEVENzjIXziTHREEzjWOziZEROzcSMALL AziBziCziDziEziFziGziHziIziJziKziL",
   "ziMziNziOziPziQziRziSziTziUziVziWziXziYziZnFALLING DIAGONALoRAKTUR CAPITAL AzeBzeDzeEzeFzeGzeJ",
   "zeKzeLzeMzeNzeOzePzeQzeSzeTzeUzeVzeWzeXzeYvSMALL AzcBzcCzcDzcEzcFzcGzcHzcIzcJzcKzcLzcMzcNzcO",
   "zcPzcQzcRzcSzcTzcUzcVzcWzcXzcYzcZnITALIC CAPITAL AzeLPHAzdBzeETAzdCzeHIzdDzeELTAzdEzePSILON",
   "zeTAzdFzdGzeAMMAzdHzdIzeOTAzdJzdKzeAPPAzdLzeAMDAzdMzeUzdNzeUzdOzeMEGAzfICRONzdPzeHIzeIzeSIzdQ",
   "zdRzeHOzdSzeIGMAzdTzeAUzeHETAzi SYMBOLzdUzePSILONzdVzdWzdXzeIzdYzdZzeETAuEPSILON SYMBOL",
   "uKAPPA SYMBOLuNABLAuPARTIAL DIFFERENTIALvHI SYMBOLvI SYMBOLuRHO SYMBOLuSMALL AzcLPHAzbBzcETA",
   "zbCzcHIzbDzcELTAzcOTLESS IzjJzbEzcPSILONzcTAzbFzcINAL SIGMAzbGzcAMMAzbIzcOTAzbJzbKzcAPPAzbL",
   "zcAMDAzbMzcUzbNzcUzbOzcMEGAzdICRONzbPzcHIzcIzcSIzbQzbRzcHOzbSzcIGMAzbTzcAUzcHETAzbUzcPSILONzbV",
   "zbWzbXzcIzbYzbZzcETAuTHETA SYMBOLnLEFT ANGLE BRACKETsDOUBLE ANGLE BRACKET",
   "sFLATTENED PARENTHESISsWHITE SQUARE BRACKETyTORTOISE SHELL BRACKETnMONOSPACE CAPITAL AzgBzgC",
   "zgDzgEzgFzgGzgHzgIzgJzgKzgLzgMzgNzgOzgPzgQzgRzgSzgTzgUzgVzgWzgXzgYzgZxDIGIT EIGHTzeFIVEzfOUR",
   "zeNINEzeONEzeSEVENzfIXzeTHREEzfWOzeZEROxSMALL AzeBzeCzeDzeEzeFzeGzeHzeIzeJzeKzeLzeMzeNzeOzeP",
   "zeQzeRzeSzeTzeUzeVzeWzeXzeYzeZnRIGHT ANGLE BRACKETtDOUBLE ANGLE BRACKETtFLATTENED PARENTHESIS",
   "tWHITE SQUARE BRACKETzTORTOISE SHELL BRACKETpSING DIAGONALnSANS-SERIF BOLD CAPITAL AznLPHAzmB",
   "znETAzmCznHIzmDznELTAzmEznPSILONznTAzmFzmGznAMMAzmHzmIznOTAzmJzmKznAPPAzmLznAMDAzmMznUzmNznU",
   "zmOznMEGAzoICRONzmPznHIznIznSIzmQzmRznHOzmSznIGMAzmTznAUznHETAzr SYMBOLzmUznPSILONzmVzmWzmXznI",
   "zmYzmZznETAzeDIGIT EIGHTzkFIVEzlOURzkNINEzkONEzkSEVENzlIXzkTHREEzlWOzkZEROzeEPSILON SYMBOL",
   "zeITALIC CAPITAL AzuLPHAztBzuETAztCzuHIztDzuELTAztEzuPSILONzuTAztFztGzuAMMAztHztIzuOTAztJztK",
   "zuAPPAztLzuAMDAztMzuUztNzuUztOzuMEGAzvICRONztPzuHIzuIzuSIztQztRzuHOztSzuIGMAztTzuAUzuHETA",
   "zy SYMBOLztUzuPSILONztVztWztXzuIztYztZzuETAzlEPSILON SYMBOLzlKAPPA SYMBOLzlNABLA",
   "zlPARTIAL DIFFERENTIALzmHI SYMBOLzmI SYMBOLzlRHO SYMBOLzlSMALL AzsLPHAzrBzsETAzrCzsHIzrDzsELTA",
   "zrEzsPSILONzsTAzrFzsINAL SIGMAzrGzsAMMAzrHzrIzsOTAzrJzrKzsAPPAzrLzsAMDAzrMzsUzrNzsUzrOzsMEGA",
   "ztICRONzrPzsHIzsIzsSIzrQzrRzsHOzrSzsIGMAzrTzsAUzsHETAzrUzsPSILONzrVzrWzrXzsIzrYzrZzsETA",
   "zlTHETA SYMBOLzeKAPPA SYMBOLzeNABLAzePARTIAL DIFFERENTIALzfHI SYMBOLzfI SYMBOLzeRHO SYMBOL",
   "zeSMALL AzlLPHAzkBzlETAzkCzlHIzkDzlELTAzkEzlPSILONzlTAzkFzlINAL SIGMAzkGzlAMMAzkHzkIzlOTAzkJ",
   "zkKzlAPPAzkLzlAMDAzkMzlUzkNzlUzkOzlMEGAzmICRONzkPzlHIzlIzlSIzkQzkRzlHOzkSzlIGMAzkTzlAUzlHETA",
   "zkUzlPSILONzkVzkWzkXzlIzkYzkZzlETAzeTHETA SYMBOLyCAPITAL AzhBzhCzhDzhEzhFzhGzhHzhIzhJzhKzhLzhM",
   "zhNzhOzhPzhQzhRzhSzhTzhUzhVzhWzhXzhYzhZyDIGIT EIGHTzfFIVEzgOURzfNINEzfONEzfSEVENzgIXzfTHREE",
   "zgWOzfZEROyITALIC CAPITAL AzoBzoCzoDzoEzoFzoGzoHzoIzoJzoKzoLzoMzoNzoOzoPzoQzoRzoSzoTzoUzoVzoW",
   "zoXzoYzoZzgSMALL AzmBzmCzmDzmEzmFzmGzmHzmIzmJzmKzmLzmMzmNzmOzmPzmQzmRzmSzmTzmUzmVzmWzmXzmYzmZ",
   "ySMALL AzfBzfCzfDzfEzfFzfGzfHzfIzfJzfKzfLzfMzfNzfOzfPzfQzfRzfSzfTzfUzfVzfWzfXzfYzfZ",
   "oCRIPT CAPITAL AzdCzdDzdGzdJzdKzdNzdOzdPzdQzdSzdTzdUzdVzdWzdXzdYzdZuSMALL AzbBzbCzbDzbFzbHzbI",
   "zbJzbKzbLzbMzbNzbPzbQzbRzbSzbTzbUzbVzbWzbXzbYzbZcXIMIZEcYAN NUMERAL EIGHTtEENpLEVENoFIFTEENqVE",
   "pOURsTEENoNINEsTEENoONEoSEVENtTEENpIXrTEENoTENpHIRTEENqREEpWELVEqOoZERObEASURED ANGLE",
   "o OPENING LEFTpWITH OPEN ARM ENDING IN ARROW POINTING DOWN AND LEFTzznRIGHTzzeLEFT AND DOWN",
   "zznUPzzeRIGHT AND DOWNzzoUPzzeUP AND LEFTzzlRIGHTjBYjRIGHT ANGLE WITH DOTdT ON BONE",
   "cCHANICAL ARMlLEGcDEFAIDRIN CAPITAL LETTER AzdIzdTIUzcBzcCzcDzcEzcFzcGzcHzdPzcIzcJzcKzdPzcLzcM",
   "zcNzdGzdYzcOzdEzcPzcQzcRzcSzcTzcUzcVzcWzcXzcYzdUzcZnOMMAmDIGIT EIGHTsFIVEtOURsNINEsONE",
   "v ALTERNATE FORMsSEVENtIXsTHREEx ALTERNATE FORMtWOv ALTERNATE FORMsZEROmEXCLAMATION OH",
   "mFULL STOPmNUMBER EIGHTEENuLEVENtFIFTEENuOURTEENtNINETEENtSEVENTEENuIXTEENtTENuHIRTEENuWELVE",
   "mSMALL LETTER AzbIzbTIUzBzCzDzEzFzGzHzbPzIzJzKzbPzLzMzNzbGzbYzOzbEzPzQzRzSzTzUzVzWzXzYzbUzZ",
   "nYMBOL AIVAdIEVAL COMMAjEXCLAMATION MARKjQUESTION MARKeUM BLACK CIRCLEiOLD WHITE CIRCLE",
   "hEIGHT POINTED BLACK STARnSPOKED ASTERISKhFIVE SPOKED ASTERISK",
   "iLATTENED LEFT PARENTHESIS ORNAMENTrRIGHT PARENTHESIS ORNAMENTiOUR POINTED BLACK STAR",
   "uPINWHEEL STARhGREEK CROSShLEFT CURLY BRACKET ORNAMENTmPARENTHESIS ORNAMENT",
   "l-POINTING ANGLE BRACKET ORNAMENThMATHEMATICAL SPACEhRIGHT CURLY BRACKET ORNAMENT",
   "nPARENTHESIS ORNAMENTm-POINTING ANGLE BRACKET ORNAMENThSALTIREiHADEiIX POINTED BLACK STAR",
   "lSPOKED ASTERISKiMALL WHITE CIRCLEhTHREE POINTED BLACK STARvPINWHEEL STARhVERTICAL BAR",
   "hWHITE CIRCLEnSQUAREcETEI MAYEK AHANG KHUDAMoNJIoPUN IYEKnCHEIKHANtEInDIGIT EIGHTtFIVEuOUR",
   "tNINEtONEtSEVENuIXtTHREEuWOtZEROnLETTER ATIYAuBAvHAMuCHAwILuDDAwHAvHOUvILuEuGHOUvOKuHUKuI",
   "v LONSUMuJHAMvILuKHOUvOKx LONSUMuLAIx LONSUMuMITx LONSUMuNAw LONSUMvGOUy LONSUMvNAvYAuOuPA",
   "w LONSUMvHAMuRAIuSAMvHAvSAuTHOUvILx LONSUMvTAwHAuUNuWAIuYANGoUM IYEKnSYLLABLE REPETITION MARK",
   "nVIRAMAoOWEL SIGN AAIzbUzNAPzUyCHEINAPyIIzNAPyNUNGyONAPySOUNAPyUNAPzUyVISARGAyYENAP",
   "nWORD REPETITION MARKcLONdTING FACEcMOcNDE KIKAKUI COMBINING NUMBER HUNDRED THOUSANDSznS",
   "zgMILLIONSzgTEENSziN THOUSANDSzjSzhHOUSANDSoDIGIT EIGHTuFIVEvOURuNINEuONEuSEVENvIXuTHREEvWO",
   "oSYLLABLE M001 KIzb2 KAzb3 KUzb4 WIzb5 WAzb6 WUzb7 MINzb8 MANzb9 MUNz10 BIzb1 BAzb2 BUzb3 I",
   "zb4 Azb5 Uzb6 DIzb7 DAzb8 DUzb9 SIz20 SAzb1 SUzb2 TIzb3 TAzb4 TUzb5 LIzb6 LAzb7 LUzb8 JIzb9 JA",
   "z30 JUzb1 YIzb2 YAzb3 YUzb4 FIzb5 FAzb6 FUzb7 NINzb8 NANzb9 NUNz40 HEEzb1 HAzb2 HOOzb3 NGGA",
   "zb4 KPEEzb5 WOzb6 HUANzb7 MBEEzb8 KOzb9 WVAz50 PUzb1 PEzb2 HENzb3 HINzb4 LOOzb5 TEzb6 GBA",
   "zb7 NGONzb8 NYANzb9 MENz60 NYONzb1 WVIzb2 MBAzb3 JOzb4 NDOzb5 KEEzb6 POzb7 NDOOzb8 PIzb9 TO",
   "z70 GBOzb1 GBOOzb2 MBEzb3 LEzb4 KPUzb5 FEzb6 KOOzb7 VOzb8 FEEzb9 SOz80 YEzb1 PEEzb2 NGGU",
   "zb3 HEEIzb4 LEEzb5 VEzb6 LONG NGGEzb7 HUNzb8 FOzb9 DEEz90 NGGIzb1 TEEzb2 KPAzb3 GBEEzb4 MON",
   "zb5 KEzb6 HEzb7 BEzb8 NYENzb9 PAy100 Ezb1 FANzb2 POOzb3 BOOzb4 TOOzb5 LONG MBOOzb6 LONG NGGOO",
   "zb7 GBEzb8 KPEzb9 YEEz10 LONG LEzb1 GAzb2 KPOOzb3 JEzb4 WOOzb5 NGGEEzb6 SEzb7 NENzb8 WEzb9 NDE",
   "z20 NGGOzb1 YOzb2 MBUzb3 NDIzb4 GBIzb5 NDUzb6 WEEzb7 NGGUAzb8 HOOUzb9 NDAz30 HANzb1 INzb2 KPI",
   "zb3 FOOzb4 NJOOzb5 INzb6 SOOzb7 EIzb8 BOzb9 WVEz40 HOzb1 YOOzb2 LONG MBOzb3 WEIzb4 VOOzb5 MBI",
   "zb6 NGGEzb7 Ozb8 GBUzb9 NJEEz50 BEEzb1 VUzb2 NJAzb3 LOzb4 MUANzb5 GIzb6 NGGOOzb7 JEEzb8 KPO",
   "zb9 NGGAAz60 JOOzb1 LONG MBEzb2 SEEzb3 EEzb4 NYINzb5 OOzb6 GUEIzb7 GUANzb8 GUzb9 NONz70 NYUN",
   "zb1 RAzb2 MBOOzb3 VEEzb4 MBOzb5 LONG JOzb6 HIzb7 NGUANzb8 ENzb9 KUAz80 DOOzb1 DOzb2 VI",
   "zb3 LONG NGGOzb4 NGENzb5 VAzb6 HUzb7 MBUUzb8 MBEEzb9 MUENz90 GEEzb1 NDEEzb2 NJUzb3 HONzb4 WUI",
   "zb5 ANzb6 SIAzb7 FUAdORAH WITH NINE BRANCHESdS SYMBOLcRCURY",
   "dOITIC CURSIVE FRACTION EIGHT TWELFTHSzcLEVEN TWELFTHSzbFIVE TWELFTHSzcOUR TWELFTHS",
   "zbNINE TWELFTHSzbONE HALFzfTWELFTHzbSEVEN TWELFTHSzcIX TWELFTHSzbTEN TWELFTHSzcHREE TWELFTHS",
   "zcWO TWELFTHSrLETTER AzRCHAIC SAyBAyDAyEyHHAyIyKAzHAyLAyMAyNAzEyOyPAyQAyRAySAzEyTAzEzOyWAyYA",
   "sOGOGRAM IMNzbRMTrNUMBER EIGHTze HUNDREDzm THOUSANDzfTHOUSANDzeY THOUSANDyFIFTYze THOUSANDzbVE",
   "zd HUNDREDzl THOUSANDzeTHOUSANDzORTYze THOUSANDzbURzd HUNDREDzl THOUSANDzeTHOUSANDyNINE",
   "zd HUNDREDzl THOUSANDzeTHOUSANDzdTY THOUSANDyONEzc HUNDREDzk THOUSANDzdTHOUSANDySEVEN",
   "ze HUNDREDzm THOUSANDzfTHOUSANDzeTYzg THOUSANDzIXzc HUNDREDzk THOUSANDzdTHOUSANDzcTY",
   "ze THOUSANDyTENzc THOUSANDzHIRTYzf THOUSANDzbREEze HUNDREDzm THOUSANDzfTHOUSANDzWENTY",
   "zf THOUSANDzbOzc HUNDREDzk THOUSANDzdTHOUSANDjHIEROGLYPHIC LETTER AzeBAzg-2zeDAzeEzeHHAzeIzeKA",
   "zfHAzeLAzeMAzeNAzg-2zfEzg-2zeOzePAzeQAzeRAzg-2zeSAzg-2zfEzeTAzg-2zfEzg-2zfOzeWAzeYA",
   "wSYMBOL VIDJzi-2dPERSONcSSAGE WAITINGcTRICAL BREVEjLONG OVER SHORTtTWO SHORTSjPENTASEME",
   "jSHORT OVER LONGjTETRASEMEkRISEMEkWO SHORTS JOINEDuOVER LONGeObIAO LETTER AHnRCHAIC MAuNAvGA",
   "uZZAmBAnRImDAnDAnLHApYAnZAoHAoYIoZAmFAmGAnHAoHAmHAnHAmKAmLAnHAoYAnYAmMAnHAmNAoSALIZATIONnGAoHA",
   "nHAnNAoHAnYAoHAmPAnLAmQAnGAmREFORMED TONE-1zb2zb4zb5zb6zb8wSHAnTEmSAnHAnSAnYImTAnEnLHApYA",
   "nONE-2r3r4r5r6r7r8nSAoEoHAoSAnTAmVAnFAmWAmXAmYI DZHApKApNNApPApTAqSArHAqTAmZAnHAnSAoHAnZAoSA",
   "pYAoYAfSIGN ASPIRATIONkCONSONANT MODIFIER BARkREFORMED ASPIRATIONtVOICINGfTONE ABOVEkBELOW",
   "kRIGHTkTOP RIGHTfVOWEL SIGN ArArEsErHHrIrNsGrUqErArIrNsGrRsRqIrAsNtGrErGrIrNGrOsNGrUqNrGqOrER",
   "sYrGrOrUqROUNDED ERzbRqUrAsNtGrEIrIrNGrOGrUqVWqWrOqYrIrUIcCR DASH SYMBOLfON US SYMBOLeO SIGN",
   "fBEfPHONEfSCOPEcDDLE DOThTHIRD WHITE RIGHT POINTING INDEXdLINE HORIZONTAL ELLIPSIS",
   "cLITARY HELMETjMEDALdKY WAYdL SIGNcNIBUSeDISCeMIZEdUS SIGNk IN TRIANGLElWITH COMMA ABOVE",
   "qDOT BELOWqFALLING DOTSqRISING DOTSgTILDEf-OR-PLUS SIGNdYcRRORg BALLbMSPbOBILE PHONEm OFF",
   "nWITH RIGHTWARDS ARROW AT LEFTcDELSeRN PENTATHLONdI ABBREVIATION SIGNfDANDAgIGIT EIGHTlFIVE",
   "mOURlNINElONElSEVENmIXlTHREEmWOlZEROgOUBLE DANDAfLETTER AnAnInUmBAnHAmCAnHAmDAnDAoHAnHAmEmGA",
   "nHAmHAmInImJAnHAmKAnHAmLAnLAmMAmNAnGAnNAnYAmOmPAnHAmRAmSAnHAnSAmTAnHAnTAoHAmUnUmVAnOCALIC LvL",
   "uRvRmYAfSIGN ANUSVARAlRDHACANDRAkHUVAkVIRAMAmSARGAfVOWEL SIGN AArIrUqEqIrIqOqUrUqVOCALIC LzLyR",
   "zReFIER BREVE WITH INVERTED BREVEjLETTER ACUTE ACCENTrLVEOLAR CLICKrPOSTROPHEqBEGIN HIGH TONE",
   "wLOW TONErILABIAL CLICKqCAPITAL AzEyBzARRED ByCyDyEyFyGyHz WITH STROKEyIyJyKyLyMyNyOzUyPyQyR",
   "zEVERSED EziNyTyUyVyWrENTRED LEFT HALF RINGyRIGHT HALF RINGrHINESE TONE YANG PINGzjQUzjRU",
   "zjSHANGzfIN PINGziQUziRUziSHANGrIRCUMFLEX ACCENTrOLONrROSS ACCENTrYRILLIC ENzHARD SIGN",
   "zSOFT SIGNqDENTAL CLICKrOT HORIZONTAL BARuSLASHuVERTICAL BARsUBLE APOSTROPHExPRIME",
   "sWN ARROWHEADvTACKqEND HIGH TONEuLOW TONErXTRA-HIGH DOTTED LEFT-STEM TONE BARzjTONE BAR",
   "zcLEFT-STEM TONE BARzcTONE BARwLOW DOTTED LEFT-STEM TONE BARziTONE BARzbLEFT-STEM TONE BAR",
   "zbTONE BARqGEORGIAN NARrLOTTAL STOPzd WITH STROKErRAVE ACCENTqHALF TRIANGULAR COLON",
   "rIGH DOTTED LEFT-STEM TONE BARzdTONE BARvLEFT-STEM TONE BARvTONE BARqLATERAL CLICK",
   "rEFT ARROWHEADvHALF RINGvTACKrOW ACUTE ACCENTuCIRCUMFLEX ACCENTuDOTTED LEFT-STEM TONE BAR",
   "zcTONE BARwWN ARROWHEADuGRAVE ACCENTuINVERTED EXCLAMATION MARKuLEFT ARROWzfHEADy-STEM TONE BAR",
   "uMACRONuRIGHT ARROWHEADwNGuTILDEvONE BARuUP ARROWHEADuVERTICAL LINEtER RIGHT CORNER ANGLE",
   "qMACRONrID DOTTED LEFT-STEM TONE BARzcTONE BARuLEFT-STEM TONE BARuTONE BAR",
   "tDLE DOUBLE ACUTE ACCENTzfGRAVE ACCENTxGRAVE ACCENTsNUS SIGNqOPEN SHELFqPLUS SIGNrRIME",
   "qRAISED COLONxDOWN ARROWxEXCLAMATION MARKxINVERTED EXCLAMATION MARKxUP ARROW",
   "rETROFLEX CLICK WITH RETROFLEX HOOKsVERSED COMMAzGLOTTAL STOPzm WITH STROKErHOTIC HOOK",
   "rIGHT ARROWHEADwHALF RINGwTACKqSHELFsORT EQUALS SIGNrMALL AxExINxLPHAwBx WITH HOOKxARRED OxETA",
   "xOTTOM HALF OwCx WITH CURLxAPITAL AAzfBzfGzg WITH HOOKzfHzfIzg WITH STROKEzgNVERTED RzfL",
   "zg WITH BELTzfNzfOEzfRzfUzfYxHIxLOSED OMEGAzeREVERSED OPEN EwDx WITH HOOKzi AND TAILzeTAIL",
   "xELTAyZH DIGRAPHxOTLESS J WITH STROKEzs AND HOOKxZ DIGRAPHzh WITH CURLznRETROFLEX HOOKwExNGxSH",
   "xTHxZHwFxENG DIGRAPHwGx WITH HOOKxAMMAxREEK GAMMAzdPHIwHx WITH HOOKzeSTROKExENGzb WITH HOOK",
   "wI WITH STROKExOTAwJx WITH CROSSED-TAILwKwLx WITH BELTzeINVERTED LAZY SzeMIDDLE TILDE",
   "zePALATAL HOOKzeRETROFLEX HOOKzs AND BELTxEZHzb WITH RETROFLEX HOOKxIGATURE OExS DIGRAPH",
   "xZ DIGRAPHwMx WITH HOOKwN WITH LEFT HOOKzeRETROFLEX HOOKwOx WITH STROKExPEN EzcOwPxHIwQwR",
   "x WITH FISHHOOKzeTAILxAMS HORNxEVERSED EzgGLOTTAL STOPzgOPEN EwSx WITH CURLzeHOOKxCHWAyRIPT G",
   "xIDEWAYS UwTx WITH PALATAL HOOKzeRETROFLEX HOOKxC DIGRAPH WITH CURLxESH DIGRAPHxHETAxOP HALF O",
   "xS DIGRAPHzh WITH RETROFLEX HOOKxURNED AzfEzfLPHAzeHzeIzeMzf WITH LONG LEGzeOPEN EzeR",
   "zf WITH HOOKzlLONG LEGzt AND RETROFLEX HOOKzeVzeWzeYzf WITH BELTwUx BARyWITH LEFT HOOKxPSILON",
   "wVx WITH HOOKzeRIGHT HOOKwWwXwYwZx WITH CURLzeRETROFLEX HOOKrTRESS AND HIGH TONEzcLOW TONE",
   "rUPERSCRIPT HALF TRIANGULAR COLONzdTRIANGULAR COLONqTRIANGULAR COLONrURNED COMMAqUNASPIRATED",
   "rP ARROWHEADtTACKrSqVERTICAL LINErOICINGqYANG DEPARTING TONE MARKrIN DEPARTING TONE MARK",
   "dULO TWO SUMcNEY BAGgWITH WINGSf-MOUTH FACEdGOLIAN BIRGAp WITH DOUBLE ORNAMENTvORNAMENTkCOLON",
   "mMMAkDIGIT EIGHTqFIVErOURqNINEqONEqSEVENrIXqTHREErWOqZEROlOUBLE BIRGA WITH ORNAMENTkELLIPSIS",
   "kFOUR DOTSlREE VARIATION SELECTOR FOURzjONEzjTHREEzkWOlULL STOPkINVERTED BIRGA",
   "y WITH DOUBLE ORNAMENTkLETTER AsLI GALI AzcHzcNUSVARA ONEzbBALUDAzbCAzbDAzdGALGAzdMARUzcDA",
   "zbHALF UzgYAzbIzcNVERTED UBADAMAzbKAzbNGAzcNAzbPAzcHAzbSSAzbTAzcHREE BALUDAzcTAzdHAzbUBADAMA",
   "zbVISARGA ONEzbZAzcHAsNGrBArCHAu WITH TWO DOTStIrDArEsErFArGArHAArIrJArKAsHArLAsHArMA",
   "tNCHU ALI GALI BHAziCAzjYAziDDHAzjHAziGHAziJHAziLHAziNGAziSSAziTAzjTAziZAzjHAyFAyIyKAyRAyZHA",
   "rNArOsErPArQArRArSAsHAsIBE ANGwCHAwDAwEwFAwGAyAwHAyAwIxYwJAwKAwPAwRAAwSHAwTAxSAwUxEwZAxHArTA",
   "sODO ALI GALI TAzgZHAxNGwBAwCHAwDAxZAwEwGAyAwHAAwIwJAxIAwKAwLONG VOWEL SIGNwMAwNIAwOxEwPAwQA",
   "wTAxSAwUxEwWAwYAsSArUsErWArYArZAsHIsRAkMANCHU COMMArFULL STOPkNIRUGUkROTATED BIRGA",
   "x WITH DOUBLE ORNAMENTzeORNAMENTkSIBE SYLLABLE BOUNDARY MARKERlWIRL BIRGA",
   "v WITH DOUBLE ORNAMENTzcORNAMENTkTODO SOFT HYPHENlRIPLE BIRGA WITH ORNAMENT",
   "lURNED SWIRL BIRGA WITH DOUBLE ORNAMENTkVOWEL SEPARATORdKEYg FACEdOGRAM FOR EARTHnYANGoINeRAIL",
   "eSTABLE SYMBOLcOD BUBBLEdN CAKEfVIEWING CEREMONYcSQUEfITOcTHER CHRISTMASdOR BOATgSCOOTER",
   "fIZED WHEELCHAIRfWAYcUNT FUJIfAINi BICYCLISTjCABLEWAYjRAILWAYdSEf FACEgTRAPdTHcVIE CAMERAcYAI",
   "bRO DANDAfIGIT EIGHTkFIVElOURkNINEkONEkSEVENlIXkTHREElWOkZEROfOUBLE DANDAeLETTER AlBAlCHUlDAnI",
   "lEmAlHAInOlKEAAEmHAImOlLAnNlMAEMmIMlNGImINlOmLmOlPAmHIlRImOlSHIlTAmEKmHEAlWAlYO",
   "bUCH GREATER-THANfLESS-THANcLTANI LETTER ApBAqHApCAqHApDAqDArDArHAqHApEpGAqHApHApIpJAqJApKAqHA",
   "pLApMApNAqNAqYApPAqHApRAqHAqRApSApTAqHAqTArHApUpVApYAiSECTION MARKeIMAPfPLE MUSICAL NOTES",
   "hICATION SIGNt IN DOUBLE CIRCLExLEFT HALF CIRCLExRIGHT HALF CIRCLExTRIANGLEuWITH DOT ABOVE",
   "zUNDERBARpXfSETi MULTIPLICATIONjUNIONcSHROOMdIC FLAT SIGNgNATURAL SIGNgSHARP SIGNfAL KEYBOARD",
   "q WITH JACKSiNOTEiSCOREjYMBOL ARPEGGIATO DOWNzbUPpBEGIN BEAMvPHRASEvSLURvTIEqRACEtKET",
   "rEATH MARKsVEtISv RESTpC CLEFqAESURAqIRCLE X NOTEHEADqLIMACUSsVISrUSTER NOTEHEAD BLACKzhWHITE",
   "qODArMBINING ACCENTzg-STACCATOzbUGMENTATION DOTzBENDzDOITzcUBLE TONGUEzcWN BOWzFLAG-1zf2zf3zf4",
   "zf5zcIPzHARMONICzLOUREzMARCATOzh-STACCATOzRIPzSMEARzbNAP PIZZICATOzbPRECHGESANG STEM",
   "zbTACCATISSIMOzhOzcEMzTENUTOzbREMOLO-1zi2zi3zcIPLE TONGUEzUP BOWsMON TIMEqRESCENDOrOIXqUT TIME",
   "pDA CAPOrL SEGNOrMPt ALLrSHED BARLINEqECRESCENDOrGREE SLASHqOUBLE BARLINEwFLATwSHARP",
   "qRUM CLEF-1z2pEIGHTH NOTEwRESTqND BEAMtOF STIMMEtPHRASEtSLURtTIEpF CLEFv OTTAVA ALTAzeBASSA",
   "qERMATAw BELOWqINAL BARLINEsGERED TREMOLO-1zh2zh3rVE-LINE STAFFqLAT DOWNuUPqORTErUR-LINE STAFF",
   "uSTRING FRETBOARDqUSA BLACKuWHITEpG CLEFv OTTAVA ALTAzeBASSAqLISSANDO DOWNzUP",
   "qRACE NOTE NO SLASHzbSLASHrEGORIAN C CLEFzF CLEFpHALF NOTEuPEDAL MARKuRESTrUPTSTIMME",
   "pINVERTED TURNpKIEVAN C CLEFwEIGHTH NOTE STEM DOWNzoUPxND OF PIECEwFINAL NOTExLAT SIGN",
   "wHALF NOTEwQUARTER NOTE STEM DOWNzpUPwRECITATIVE MARKwWHOLE NOTEqORONpLEFT REPEAT SIGNqONGA",
   "u IMPERFECTA RESTvPERFECTA RESTpMAXIMAqEZZOqINIMAv BLACKwRESTqOON NOTEHEAD BLACKzeWHITE",
   "qULTI RESTuPLE MEASURE RESTpNATURAL DOWNxUPqEBENSTIMMEqOTEHEAD BLACKqULL NOTEHEAD",
   "pONE HUNDRED TWENTY-EIGHTH NOTEzqRESTs-LINE STAFFqRNAMENT STROKE-1zh0zh1zg2zg3zg4zg5zg6zg7zg8",
   "zg9qTTAVA ALTAwBASSApPARENTHESIS NOTEHEADqEDAL MARKvUP MARKrS SUBPUNCTISqIANOqLUS NOTEHEAD",
   "qODATUSrRRECTUSy FLEXUSpQUARTER NOTExRESTxTONE FLATzdSHARPrINDICESIMA ALTAzdBASSApREPEAT DOTS",
   "vED FIGURE-1zg2zg3rVERSE FINAL BARLINEqIGHT REPEAT SIGNrNFORZANDOpSCANDICUSy FLEXUSqEGNO",
   "rMIBREVIS BLACKzbRESTzbWHITEtMINIMA BLACKzbRESTzbWHITEqHARP DOWNvUPrORT BARLINEqINGLE BARLINE",
   "rX-LINE STAFFtSTRING FRETBOARDsTEENTH NOTEzRESTtY-FOURTH NOTEzdRESTqORIqQUARE BwNOTEHEAD BLACK",
   "zgWHITEqUBITOpTEMPUS IMPERFECTUM CUM PROLATIONE IMPERFECTAzzj DIMINUTION-1zzv2zzv3zyPERFECTA",
   "wPERFECTUM CUM PROLATIONE IMPERFECTAzwPERFECTAzzf DIMINUTION-1qHIRTY-SECOND NOTEzeREST",
   "rREE-LINE STAFFqORCULUSx RESUPINUSqRrIANGLE NOTEHEAD DOWN BLACKznWHITEziLEFT BLACKznWHITE",
   "ziRIGHT BLACKzoWHITEziUP BLACKzlRIGHT BLACKzrWHITEzlWHITEx-ROUND NOTEHEAD DOWN BLACKztWHITE",
   "qURNt SLASHuUPqWO-LINE STAFFpVIRGAqOID NOTEHEADpWHOLE NOTEvRESTqITH FINGERNAILSpX NOTEHEADpZ",
   "bVSbWbYANMAR CONSONANT SIGN MEDIAL HAzfRAzfWAzfYAyON MEDIAL LAzjMAzjNAxSHAN MEDIAL WA",
   "iDIGIT EIGHToFIVEpOURoNINEoONEoSEVENpIXoTHREEpWOoZEROiLETTER AqITON RAqUpBAqHApCAqHApDAqDArHA",
   "qHApEqASTERN PWO KAREN GHWAziNNAziYWApGAqHAqREAT SApHApIqIpJAqHApKAqHAsMTI CAxHAwDDAyHAxHAwFA",
   "wGAwHAxHAwJAxHAwLLAwNAxYAwRAwSAwTTAyHAwXAwZApLAqLApMAqON BBAvEtEtJHAtNGApNAqGAqNArYAqYApOpPA",
   "qHApRAqUMAI PALAUNG FApSAqGAW KAREN SHAqHAsN AuBAvHAuCAvHAuDAuFAuGAvHAuHAuJHAuKAvHAuNAvNAvYA",
   "uPHAuTHAuZArWE PALAUNG CHAzdSHAqSApTArI LAING BAzbHAzDAzbDAzcHAzbHAzFAzGAzbHAzJAzbHAzLLAzNNA",
   "zbYAqHAqTArHApUqUpVOCALIC LyLxRyRpWAqESTERN PWO KAREN PWAziTHApYAjOGOGRAM KHAMTI HMyOAYyQN",
   "iMODIFIER LETTER KHAMTI REDUPLICATIONySHAN REDUPLICATIONiSHAN DIGIT EIGHTtFIVEuOURtNINEtONE",
   "tSEVENuIXtTHREEuWOtZEROjIGN ANUSVARAoSATnDOT BELOWnKHAMTI TONE-1z3nLITTLE SECTION",
   "nPAO KAREN TONEnRUMAI PALAUNG TONE-5nSECTIONoHAN COUNCIL EMPHATIC TONEzbTONE-2zg3sSAWsTONE-2x3",
   "x5x6nTAI LAING TONE-2zd5nVIRAMApSARGAnWESTERN PWO KAREN TONE-1zl2zl3zl4zl5",
   "jYMBOL AFOREMENTIONEDqITON EXCLAMATIONvONEvTWOpCOMPLETEDpGENITIVEpLOCATIVEpSHAN EXCLAMATION",
   "uONEiTAI LAING DIGIT EIGHTyFIVEzOURyNINEyONEySEVENzIXyTHREEzWOyZEROjONE MARK SGAW KAREN HATHI",
   "zeKE PHOiVOWEL SIGN AAuIvTON AzbItEu ABOVEtGEBA KAREN ItIuItKAYAH EEzOEzUtMON IIxO",
   "tSGAW KAREN EUuHAN AAyEz ABOVEyFINAL YtTALL AAtUuUtVOCALIC LzdLzcRzdRtWESTERN PWO KAREN EUzmUE",
   "aN-ARY CIRCLED DOT OPERATORoPLUS OPERATORoTIMES OPERATORhOPRODUCTgINTERSECTIONgLOGICAL ANDoOR",
   "gPRODUCTgSQUARE INTERSECTION OPERATORnUNION OPERATORhUMMATIONgTIMES OPERATORgUNION",
   "l OPERATOR WITH DOTzbPLUSgWHITE VERTICAL BARbABATAEAN CRUCIFORM NUMBER FOURkLETTER ALEPHsYIN",
   "rBETHrDALETHrFINAL ALEPHxBETHxHExKAPHxLAMEDHxMEMxNUNxSHINxYODHrGIMELrHEtTHrKAPHrLAMEDHrMEMrNUN",
   "rPErQOPHrRESHrSADHEtMEKHsHINrTAWsETHrWAWrYODHrZAYINkNUMBER FIVEsOURrONEu HUNDREDrTENsHREE",
   "sWENTYtOdLAcIL POLISHdRA SIGNcKcME BADGEcNDeINAGARI HEADSTROKEmLETTER AuAuIuUtBAuHAtCAuHAtDA",
   "uDAvHAuHAtEtGAuHAtHAtIuItJAuHAtKAuHAtLAuLAtMAtNAuGAuNAuYAtOtPAuHAtRAuRAtSAuHAuSAtTAuHAuTAvHAtU",
   "uUtVAuOCALIC RzdRtYAmSIGN ANUSVARAsVAGRAHArSIDDHAMrVIRAMAtSARGAmVOWEL SIGN AAyIyUxExIyIxO",
   "xPRISHTHAMATRA ExUyUxVOCALIC RzhRcRROW NO-BREAK SPACEcTIONAL DIGIT SHAPESjPARKcUSEATED FACE",
   "cZAR AMULETbBHcSPbECKTIEcGATED DOUBLE VERTICAL BAR DOUBLE RIGHT TURNSTILEfIVE ACKNOWLEDGE",
   "jCIRCLED DIGIT ZEROrLATIN CAPITAL LETTER AznBznCznDznEznFznGznHznIznJznKznLznMznNznOznPznQznR",
   "znSznTznUznVznWznXznYznZrNUMBER EIGHTEENzLEVENyFIFTEENzOURTEENyNINETEENySEVENTEENzIXTEEN",
   "yTHIRTEENzWELVEzcNTYrSQUARErTRIANGLEjDIAGONAL CROSSsDIAMONDsMIDDLE RIGHT TO LOWER CENTRE",
   "jSQUARED ABrCROSS MARKrICrLATIN CAPITAL LETTER AznBznCznDznEznFznGznHznIznJznKznLznMznNznOznP",
   "znQznRznSznTznUznVznWznXznYznZrPArQUESTION MARKrSArWCcITHER A SUBSET OF NOR EQUAL TO",
   "mPERSET OF NOR EQUAL TOjPPROXIMATELY NOR ACTUALLY EQUAL TOiGREATER-THAN NOR EQUAL TO",
   "zdIVALENT TOzLESS-THANiLESS-THAN NOR EQUAL TOzIVALENT TOwGREATER-THANcLcPTUNEh FORM TWO",
   "cRD FACEcSSUSdT WITH EGGSeING DOLLScUTEReRAL CHESS BISHOPu ROTATED NINETY DEGREES",
   "zeTWO HUNDRED SEVENTY DEGREESoEQUIHOPPERy ROTATED NINETY DEGREESoKINGs ROTATED NINETY DEGREES",
   "zcTWO HUNDRED SEVENTY DEGREESpNIGHTu ROTATED FORTY-FIVE DEGREESzeNINETY DEGREES",
   "zeONE HUNDRED THIRTY-FIVE DEGREESzeTHREE HUNDRED FIFTEEN DEGREESzfWO HUNDRED SEVENTY DEGREES",
   "zqTWENTY-FIVE DEGREESoPAWNs ROTATED NINETY DEGREESzcTWO HUNDRED SEVENTY DEGREESoQUEEN",
   "t ROTATED NINETY DEGREESzdTWO HUNDRED SEVENTY DEGREESoROOKs ROTATED NINETY DEGREES",
   "zcTWO HUNDRED SEVENTY DEGREESoTURNED BISHOPvKINGwNIGHTvPAWNvQUEENvROOKiFACEcW LINEeMOON SYMBOL",
   "jWITH FACEeSHEQEL SIGNeTAI LUE DIGIT EIGHTsFIVEtOURsNINEsONEsSEVENtIXsTHREEtWOsZERO",
   "mLETTER FINAL BzDzKzMzNzbGzVtHIGH BAyDAyFAyHAyKAzVAyLAyMAyNAzGAyPAzHAyQAySAzUAyTAzHAzSAyVAyXA",
   "zVAyYAtLOW BAxDAxFAxHAxKAyVAxLAxMAxNAyGAxPAyHAxQAxSAyUAxTAyHAySAxVAxXAyVAxYAmSIGN LAEuV",
   "mTHAM DIGIT ONEnONE MARK-1w2mVOWEL SIGN AAzYyEyYxExIIyYxOyAzYyYxUyEzYyUyYxVOWEL SHORTENER",
   "dA ABBREVIATION SIGNfCOMMAfDANDAgIGIT EIGHTlFIVEmOURlNINElONElSEVENmIXlTHREEmWOlZERO",
   "gOUBLE COMMAmDANDAfGAP FILLERfINSERTION SIGNfLETTER AnAnInUmBAnHAmCAnHAmDAnDAoHAnHAmEmGAnHAmHA",
   "mInImJAnHAmKAnHAmLAnHAmMAnHAmNAnGAoHAnHAnNAnYAoHAmOmPAnHAmRAnHAmSAnHAnSAmTAnHAnTAoHAmUnU",
   "mVEDIC ANUSVARAnOCALIC LvLuRvRmWAmYAfOMfPLACEHOLDER MARKfSANDHI MARKgIDDHIhGN ANUSVARAlVAGRAHA",
   "kCANDRABINDUkFINAL ANUSVARAkJIHVAMULIYAkNUKTAkUPADHMANIYAkVIRAMAmSARGAfVOWEL SIGN AArIrUqEqIrI",
   "qOqUrUqVOCALIC LzLyRzRdLINE LEFTiRIGHTdSPAPERcXT LINEfPAGEbIGHT WITH STARScNJA",
   "bKO COMBINING DOUBLE DOT ABOVEoLONG DESCENDING TONEtHIGH TONEtLOW TONEtRISING TONE",
   "oNASALIZATION MARKoSHORT HIGH TONEuLOW TONEuRISING TONEhMAeDANTAYALANfIGIT EIGHTkFIVElOURkNINE",
   "kONEkSEVENlIXkTHREElWOkZEROfOROME SIGNeEXCLAMATION MARKeHIGH TONE APOSTROPHEeLAJANYALAN",
   "fETTER AlBAlCHAlDAnGBASINNAlEmElFAlGBAlHAlIlJAmONA CHAqJAqRAlKAlLAlMAlNmAn WOLOSOmYAo WOLOSOlO",
   "mOlPAlRAmRAlSAlTAlUlWAlYAfOW TONE APOSTROPHEeSYMBOL GBAKURUNENlOO DENNENeTAMAN SIGNbLbNBSP",
   "bO BICYCLESeREAK HEREdENTRYi SIGNdMOBILE PHONESdONE UNDER EIGHTEEN SYMBOLdPEDESTRIANSeIRACY",
   "dSMOKING SYMBOLc-BREAK SPACEcMINAL DIGIT SHAPESeSMA SIGNcN-BREAKING HYPHEN",
   "ePOTABLE WATER SYMBOLdFORKINGcRdDIC MARK SIGNdMAL SUBGROUP OFs OR EQUAL TO",
   "dTH EAST AND SOUTH WEST ARROWmRROWq AND SOUTH EAST ARROWrCROSSING NORTH WEST ARROW",
   "zbSOUTH EAST ARROWrWITH HOOKlBLACK ARROWlDOUBLE ARROWlPOINTING BUDuLEAFuVINE LEAF",
   "lSANS-SERIF ARROWlTRIANGLE-HEADED ARROWzh TO BARlWHITE ARROWgINDIC FRACTION ONE EIGHTHzHALF",
   "zQUARTERzSIXTEENTHvTHREE QUARTERSzcSIXTEENTHSmPLACEHOLDER MARKmQUANTITY MARKpRTER MARK",
   "mRUPEE MARKgWEST AND SOUTH EAST ARROWmRROWq AND NORTH EAST ARROWrCROSSING NORTH EAST ARROW",
   "rTO CORNERuLONG BARrWITH HOOKlBLACK ARROWlDOUBLE ARROWlPOINTING BUDuLEAFuVINE LEAF",
   "lSANS-SERIF ARROWlTRIANGLE-HEADED ARROWzh TO BARlWHITE ARROWfEAST-POINTING AIRPLANEcSE",
   "cT A SUBSET OFiPERSET OFfLMOST EQUAL TOfN ELEMENT OFfSYMPTOTICALLY EQUAL TOeCHECK MARK",
   "eEQUAL TOhIVALENT TOeGREATER-THANeIDENTICAL TOeLESS-THANeNORMAL SUBGROUP OFw OR EQUAL TO",
   "ePARALLEL TOeSIGNfQUARE IMAGE OF OR EQUAL TOlORIGINAL OF OR EQUAL TOeTILDEfRUE",
   "dCHED LEFT SEMICIRCLE WITH THREE DOTSjOWER RIGHT-SHADOWED WHITE RIGHTWARDS ARROW",
   "iRIGHT SEMICIRCLE WITH THREE DOTSiUPPER RIGHT-SHADOWED WHITE RIGHTWARDS ARROWdEe PADhGEeBOOK",
   "i WITH DECORATIVE COVERbULdLcMBER EIGHTEEN FULL STOPiLEVEN FULL STOPhFIFTEEN FULL STOP",
   "iOURTEEN FULL STOPhNINETEEN FULL STOPhSEVENTEEN FULL STOPiIGNjXTEEN FULL STOPhTEN FULL STOP",
   "iHIRTEEN FULL STOPiWELVE FULL STOPkNTY FULL STOPdERO SIGNcSHU CHARACTER-1B170u1u2u3u4u5u6u7u8",
   "u9uAuBuCuDuEuFt80u1u2u3u4u5u6u7u8u9uAuBuCuDuEuFt90u1u2u3u4u5u6u7u8u9uAuBuCuDuEuFtA0u1u2u3u4u5",
   "u6u7u8u9uAuBuCuDuEuFtB0u1u2u3u4u5u6u7u8u9uAuBuCuDuEuFtC0u1u2u3u4u5u6u7u8u9uAuBuCuDuEuFtD0u1u2",
   "u3u4u5u6u7u8u9uAuBuCuDuEuFtE0u1u2u3u4u5u6u7u8u9uAuBuCuDuEuFtF0u1u2u3u4u5u6u7u8u9uAuBuCuDuEuF",
   "s200u1u2u3u4u5u6u7u8u9uAuBuCuDuEuFt10u1u2u3u4u5u6u7u8u9uAuBuCuDuEuFt20u1u2u3u4u5u6u7u8u9uAuBuC",
   "uDuEuFt30u1u2u3u4u5u6u7u8u9uAuBuCuDuEuFt40u1u2u3u4u5u6u7u8u9uAuBuCuDuEuFt50u1u2u3u4u5u6u7u8u9",
   "uAuBuCuDuEuFt60u1u2u3u4u5u6u7u8u9uAuBuCuDuEuFt70u1u2u3u4u5u6u7u8u9uAuBuCuDuEuFt80u1u2u3u4u5u6",
   "u7u8u9uAuBuCuDuEuFt90u1u2u3u4u5u6u7u8u9uAuBuCuDuEuFtA0u1u2u3u4u5u6u7u8u9uAuBuCuDuEuFtB0u1u2u3",
   "u4u5u6u7u8u9uAuBuCuDuEuFtC0u1u2u3u4u5u6u7u8u9uAuBuCuDuEuFtD0u1u2u3u4u5u6u7u8u9uAuBuCuDuEuFtE0",
   "u1u2u3u4u5u6u7u8u9uAuBuCuDuEuFtF0u1u2u3u4u5u6u7u8u9uAuBgITERATION MARKcT AND BOLT",
   "bYIAKENG PUACHUE HMONG CIRCLED CAxDIGIT EIGHTzeFIVEzfOURzeNINEzeONEzeSEVENzfIXzeTHREEzfWO",
   "zeZEROxLETTER AzgAzfCAzfDAzgLAzfEzgEzfFAzfGAzfHAzhHzfIzfKAzfLAzfMAzgLAzfNAzgCAzgKAzgPAzhLAzgQA",
   "zgRAzgTAzhSAzhXAzgYAzfOzgOzfPAzgLAzfQAzfRAzgRAzfSAzfTAzgSAzgXAzfUzfVAzfWzfXAzgYAzfYAzfZA",
   "yOGOGRAM NYAJxSIGN FOR ANIMALzhINVERTEBRATEzhLOCATIONzhPERSONzhTHINGzdXW XWyYLLABLE LENGTHENER",
   "xTONE-BzdDzdGzdJzdMzdSzdVaOBJECT REPLACEMENT CHARACTERcLIQUE ANGLE OPENING DOWNwUPiHYPHEN",
   "cSERVER EYE SYMBOLbCR AMOUNT OF CHECKeBELT BUCKLEfOW TIEfRANCH BANK IDENTIFICATIONeCHAIR",
   "fUSTOMER ACCOUNT NUMBEReDASHfOUBLE BACKSLASHeFORKeHOOKeINVERTED FORKcTAGONAL SIGNdOPUSbDEN",
   "bFFICE BUILDINGbGHAM FEATHER MARKgLETTER AILMnBEITHnCEIRToOLLnDAIRnEABHADHpDHADHpMHANCHOLL",
   "nFEARNnGORTnIFINoODHADHnLUISnMUINnNGEADALoIONnONNoRnPEITHnRUISnSAILoTRAIFnTINNEnUATHoILLEANNoR",
   "gREVERSED FEATHER MARKgSPACE MARKcONEKbHM SIGNbIL DRUMbK HAND SIGNbL CHIKI AHADjDIGIT EIGHT",
   "pFIVEqOURpNINEpONEpSEVENqIXpTHREEqWOpZEROjGAAHLAA TTUDDAAGjLETTER AAJsKsMsWrGrLrNGrTqEDDrNrP",
   "rRRqIHrNYrRrSqLAsArErIrOrUqOBrHrTTrVqUCrDrNNrYjMU TTUDDAGl-GAAHLAA TTUDDAAGjPHAARKAA",
   "kUNCTUATION DOUBLE MUCAADvMUCAADjRELAAcD CHINESE HOOK MARKmITERATION MARK",
   "eHUNGARIAN CAPITAL LETTER AzfAzfKzfMBzfNDzeCLOSE EzeEzfBzfCzgHzgSzfDzfEzfFzfGzgYzfHzfJzfKzfL",
   "zgYzfMzgPzfNzgCzgTzh-SHAPED SIGNzgYzfPzfRzfSzgZzfTzgYzfVzfZzgSzeIzfIzeNIKOLSBURG OEzpUEzeOzfEE",
   "zfOzeRUDIMENTA OEzoUEzeSHORT ERzeUzfNKzfSzfUoNUMBER FIFTYxVEvONEy HUNDREDzTHOUSANDvTEN",
   "oSMALL LETTER AzdAzdKzdMBzdNDzcCLOSE EzcEzdBzdCzeHzeSzdDzdEzdFzdGzeYzdHzdJzdKzdLzeYzdMzePzdN",
   "zeCzeTzf-SHAPED SIGNzeYzdPzdRzdSzeZzdTzeYzdVzdZzeSzcIzdIzcNIKOLSBURG OEznUEzcOzdEEzdO",
   "zcRUDIMENTA OEzmUEzcSHORT ERzcUzdNKzdSzdUeITALIC LETTER AsBEsCHEsDEsEtFtKStLtMtNtRuStSuHuSsHE",
   "sItIsKAtEtHEtUsNORTHERN TSEsOsPEtHEsSHEtOUTHERN TSEsTEtHEsUtUsVEsYEsZElNUMERAL FIFTYvVEtONE",
   "tTENeKEYeNORTH ARABIAN LETTER AINzbLEFzBEHzDADzcLzES-1zd2zd3zFEHzGEEMzbHAINzHAHzbEHzKAFzbHAH",
   "zLAMzMEEMzNOONzQAFzREHzSADzTAHzbEHzbHALzcEHzWAWzYEHzZAHzcINsNUMBER ONEzTENzbWENTY",
   "ePERMIC LETTER ANsBURsCHERYsDOItZHOIuITAsEtFsGAIsHAsItAtEsKOKEsLEIsMENOEsNENOEsOtOsPEEIsREI",
   "sSHCHOOIuOOItIIsTAItSIUsUsVERtOOIsYAuTtERvIvUtRYtUsZATAtHOIhSIAN NUMBER HUNDREDtONEtTENuWENTY",
   "vOmSIGN AsURAMAZDAAzc-2zcHArBAtGAsUUMISHrCArDAtHYAAUSHzb-2sIsUrFArGAsUrHArIrJAsIrKAsUrLArMAsI",
   "sUrNAsUrPArRAsUrSAsHAsSArTAsHAsUrUrVAsIrXAsSHAAYATHIYArYArZAmWORD DIVIDERiONAL COMPUTER",
   "eSOGDIAN FRACTION ONE HALFmLETTER ALEPHvTERNATE AYINuYINtBETHtFINAL ALEPHzBETHzHEzNUN",
   "zd WITH VERTICAL TAILzSADHEzf WITH VERTICAL TAILzTAWzd WITH VERTICAL TAILtGIMELtHEvTHtKAPH",
   "tLAMEDHtMEMtNUNtPEtRESH-AYIN-DALETHtSADHEvMEKHuHINtTAWtWAWtYODHtZAYINnIGATURE AYIN-DALETH",
   "mNUMBER FIVEuOURtONEw HUNDREDtTENuHIRTYvREEuWENTYvOgUTH ARABIAN LETTER ALEFzbYNzBETHzDALETH",
   "zbHADHEzdLETHzFEzGHAYNzbIMELzHEzcTHzKAPHzbHETHzLAMEDHzMEMzNUNzQOPHzRESHzSADHEzcMEKHzcTzbHIN",
   "zTAWzbETHzbHAWzcETHzWAWzYODHzZAYNsNUMBER FIFTYzONEvERIC INDICATOReTURKIC LETTER ORKHON AzbBzbD",
   "zbEBzcDzcGzcKzcLzcNzcRzcSzcTzcYzbGzbLzbNzbQzbRzbSzcHzbTzbYzBASHzECzbLTzbMzbNCzcGzcTzcYzbPzbSH",
   "zbZzIzbCzbQzOzbEzcKzbPzbQzbTsYENISEI AzcBzcDzcEzdBzdGzdKzdNzeGzdTzdYzcGzcLzcNGzcQzcRzcSHzcTzcY",
   "zbEzcCzcNCzdTzdYzcSHzcZzbIzcQzbOEzdKzcQeUYGHUR COMBINING DOT ABOVEzBELOWvTWO DOTS ABOVEzfBELOW",
   "lLETTER ALEPHsBETHsFINAL HETHsGIMEL-HETHsKAPHsLAMEDHtESHsMEMsNUNsPEsRESHsSADHEuMEKHtHINsTAW",
   "sWAWsYODHsZAYINlPUNCTUATION BARxFOUR DOTSxTWO BARSzcDOTSdER ADULTgMANgWOMANcIVEbM SYMBOL",
   "bN WITH EXCLAMATION MARK WITH LEFT RIGHT ARROW ABOVEcCOMING AUTOMOBILEjBUSjFIRE ENGINE",
   "jPOLICE CARjTAXIcE BUTTON MOUSEeDOT LEADERiOVER TWO DOTS PUNCTUATIONd-PIECE SWIMSUITcION",
   "bPEN BOOKhXfCENTRE ASTERISKmBLACK STARmCROSSmTEARDROP-SPOKED ASTERISKfFILE FOLDERgOLDER",
   "fHANDS SIGNfLOCKfMAILBOX WITH LOWERED FLAGsRAISED FLAGfSUBSEThPERSET",
   "e-CIRCUIT-OUTPUT H-TYPE SYMBOLuL-TYPE SYMBOLfOUTLINED RIGHTWARDS ARROWdRATING SYSTEM COMMAND",
   "cHIUCHUScPOSITIONcTICAL DISCm ICONeON KEYbR WITH DOT INSIDEcANGE BOOKhHEARTfUTANcIGINAL OF",
   "dYA AI LENGTH MARKhU LENGTH MARKgDIGIT EIGHTmFIVEnOURmNINEmONEmSEVENnIXmTHREEnWOmZERO",
   "gFRACTION ONE EIGHTHtHALFtQUARTERtSIXTEENTHpTHREE QUARTERSvSIXTEENTHSgISSHARgLETTER AoAoIoUnBA",
   "oHAnCAoHAnDAoDApHAoHAnEnGAoHAnHAnIoInJAoHAnKAoHAnLAoLAnMAnNAoGAoNAoYAnOnPAoHAnRAoHAoRAnSAoHA",
   "oSAnTAoHAoTApHAnUoUnVAoOCALIC LwLvRwRnWAnYAoYAgSIGN ANUSVARAmVAGRAHAlCANDRABINDUlNUKTA",
   "lOVERLINElVIRAMAnSARGAgVOWEL SIGN AAsIsUrErIsIrOrUsUrVOCALIC LzbLzRzbRcNATE LEFT PARENTHESIS",
   "hRIGHT PARENTHESIScTHODOX CROSSbSAGE CAPITAL LETTER AwHwIxNvBRAvCHAvDHAvEwHCHAxKAxPAxTAySAwIN",
   "vGHAvHAwYAvIvKAwHAwYAvLAvMAvNAvOwINvPAvSAwHAvTAwSAxHAvUvWAvZAwHAgSMALL LETTER AuHuIvNtBRAtCHA",
   "tDHAtEuHCHAvKAvPAvTAwSAuINtGHAtHAuYAtItKAuHAuYAtLAtMAtNAtOuINtPAtSAuHAtTAuSAvHAtUtWAtZAuHAcC",
   "cMANYA DIGIT EIGHToFIVEpOURoNINEoONEoSEVENpIXoTHREEpWOoZEROiLETTER AqAqLEFpBApCAYNpDEELqHApEqE",
   "pFApGApHApIpJApKAAFqHApLAANpMIINpNUUNpOqOpQAAFpRApSAqHIINpTApUpWAWpXApYAbTTER",
   "dOMAN SIYAQ ALTERNATE NUMBER EIGHTzgFIVEzhOURzk HUNDREDzgNINEzgSEVENzhIXzj HUNDREDzgTEN",
   "zj THOUSANDzhHREEzhWOzj THOUSANDoFRACTION ONE HALFzcSIXTHoMARRATANoNUMBER EIGHTzb HUNDRED",
   "zcTHOUSANDzbYzc THOUSANDvFIFTYzb THOUSANDxVEz HUNDREDzbTHOUSANDwORTYzb THOUSANDxURz HUNDRED",
   "zbTHOUSANDvNINEz HUNDREDzbTHOUSANDzTYzc THOUSANDvONEy HUNDREDzTHOUSANDvSEVENzb HUNDRED",
   "zcTHOUSANDzbTYzd THOUSANDwIXy HUNDREDzTHOUSANDyTYzb THOUSANDvTENy THOUSANDwHIRTYzc THOUSAND",
   "xREEzb HUNDREDzcTHOUSANDwWENTYzc THOUSANDxOy HUNDREDzTHOUSANDbUNCE SIGNcTBOX TRAY",
   "dLINED BLACK STARjGREEK CROSSjLATIN CROSSjWHITE STARbVERHEATED FACEeLAPhPING BLACK SQUARES",
   "mWHITE AND BLACK SQUARESsSQUARESfINEbWLbXbYSTERaPACKAGEcDdDING CHARACTERcGEe FACING UP",
   "fWITH CIRCLED TEXTlURLeReSdODAcHAWH HMONG CLAN SIGN FAJxHAMzWJxKHAByOOyWMxLAUJyISxMUASxPHAB",
   "xTHOJySABzHEEJzWBxVAJyWJxXYOOJxYAJyEEGoONSONANT AUxCAUyHAUxHAUyLAUyNAUxLAUxMAUxNAUyCHAUyKAU",
   "yLAUyTHAUzSAUxPLHAUxQHAUxRAUxVAUxXAUxYAUnDIGIT EIGHTtFIVEuOURtNINEtONEtSEVENuIXtTHREEuWOtZERO",
   "nMARK CIM HOMwKESxHAVwSOxUAMwTAUMxUBnNUMBER HUNDRED MILLIONSzcSuMILLIONSuTEN BILLIONS",
   "yTHOUSANDSxSvRILLIONSnSIGN AVsCIM CHEEMxUAM TSHOOJwHAIS LUS NTOG NTOGwNRES TOSwPUB DAWB",
   "wTSOV ROGxXWVzb CHWVsHLItNUBsIB YAMsLOSsMEEJ SUABxTSEEBtUSsNQIGtTUJsTAUtHIRD-STAGE HLI",
   "tXHEEJ CEEVsVOS FEEMwLUBwNRUAwSEEVwTHIAByOMxSHAB CEEBsXAUStIABtYEEM FAIByNTXIVyRHOyTOVuOO",
   "sZWJ THAJnVOWEL KAABwVvBvIBwVvUBwVvVvWBwVuEBvEBwVvVuIABwVvBvVuOBvOBwVvVuUABwVvBvVuWBvVcLLAS",
   "dM BRANCHfDOWN HANDfTREEfUP HANDeS UP TOGETHEReYRENE LEFT-POINTING FLEURONmTTER ALEPHsYINrBETH",
   "rDALETHrFINAL NUNrGIMELrHEtTHrKAPHrLAMEDHrMEMrNUNrPErQOPHrRESHrSADHEtMEKHsHINrTAWsETHrWAWrYODH",
   "rZAYINkNUMBER FIVEsOURrONErTENsHREEsWENTYtOkRIGHT-POINTING FLEURONcNCAKESdDA FACEcPERCLIP",
   "cRACHUTEeGRAPH SEPARATORjOSjUS MARKeLLEL TOjWITH HORIZONTAL STROKEoTILDE OPERATOR",
   "dENTHESIZED DIGIT EIGHTuFIVEvOURuNINEuONEuSEVENvIXuTHREEvWOoHANGUL CHIEUCHzd AwIEUCzb AzcU",
   "vHIEUHzb AvIEUNGzb AvKHIEUKHzd AwIYEOKzc AvMIEUMzb AvNIEUNzb AvPHIEUPHzd AwIEUPzb AvRIEULzb A",
   "vSIOSz AvTHIEUTHzd AwIKEUTzc AoIDEOGRAPH ALLIANCEyCALLzONGRATULATIONyEARTHzIGHTzNTERPRISE",
   "yFESTIVALzINANCIALzbREzbVEzOURyHAVEyLABORyMETALzOONyNAMEzINEyONEyREACHzbPRESENTzbSOURCEzcT",
   "ySELFzbVENzIXzOCIETYzPECIALzTOCKzbUDYzUNzbPERVISEyTENzHREEzWOyWATERzOODoKOREAN CHARACTER O HU",
   "zhJEONoLATIN CAPITAL LETTER AzkBzkCzkDzkEzkFzkGzkHzkIzkJzkKzkLzkMzkNzkOzkPzkQzkRzkSzkTzkUzkV",
   "zkWzkXzkYzkZuSMALL LETTER AziBziCziDziEziFziGziHziIziJziKziLziMziNziOziPziQziRziSziTziUziVziW",
   "ziXziYziZoNUMBER EIGHTEENwLEVENvFIFTEENwOURTEENvNINETEENvSEVENTEENwIXTEENvTENwHIRTEENwWELVE",
   "yNTYdROTdT ALTERNATION MARKeIAL DIFFERENTIALiLINE BACKWARDnDOWNnFORWARDnUP",
   "hLY-RECYCLED PAPER SYMBOLeNERSHIP SIGNeY POPPERcSSED SYMBOLfNGER SHIP",
   "eIVE-PULL-DOWN-OUTPUT SYMBOLnUP-OUTPUT SYMBOLePORT CONTROLcU CIN HAU GLOTTAL STOPy FINAL",
   "zVARIANTmLETTER AtBAtCAuHAtDAtEtFAuINAL KzLzMzNzbGzPzTzWzYtGAtHAtIuAtKAuHAtLAtMAtNAuGAtOtPAuHA",
   "tRAtSAtTAuHAtUuAtVAtZAnOW-FALLING TONEzd FINALzeLONGzi FINALmMID-LEVEL TONEzb FINAL",
   "zcLONG FINALmRISING TONEx FINALyLONGzd FINALmSANDHI GLOTTAL STOPzg FINALtTONEx FINALyLONG",
   "zd FINALcW PRINTSbDFcIbEACE SYMBOLeHeOCKdNUTSdRcDESTRIANcN OVER STAMPED ENVELOPEdCILdGUIN",
   "dSIVE FACEdTAGRAMcOPLE HUGGINGcR MILLE SIGNeSIGNeTEN THOUSAND SIGNdCENT SIGNdFORMING ARTS",
   "dMANENT PAPER SIGNdPENDICULARn WITH SdSEVERING FACEeON BOWING DEEPLYhCLIMBINGhDOING CARTWHEEL",
   "hFROWNINGhIN LOTUS POSITIONkSTEAMY ROOMhRAISING BOTH HANDS IN CELEBRATIONhWITH BALLnLOND HAIR",
   "mCROWNmFOLDED HANDSmHEADSCARFmPOUTING FACEgAL COMPUTERePECTIVEcSETA SIGNdO SIGNcTRI DISH",
   "bHAGS-PA DOUBLE HEAD MARKjLETTER ArLTERNATE YArSPIRATED FAqBAqCAsNDRABINDUrHAqDArDArZAqErEqFA",
   "qGArGAqHAqIqJAqKArHAqLAqMAqNArGArNArYAqOqPArHAqQAqRAqSArHArMALL AqTArHArSAsHArTAsHAqU",
   "qVOICED HAvLESS SHAqWAqXAqYAqZArHAjMARK DOUBLE SHADoSHADjSINGLE HEAD MARKkUBJOINED LETTER RA",
   "zbWAzbYAlPERFIXED LETTER RAdISTOS DISC SIGN ARROWtBEEwHIVEuOOMERANGvWuULLS LEGtCAPTIVE",
   "vRPENTRY PLANEvTuHILDuLUBuOLUMNvMBxINING OBLIQUE STROKEtDOLIUMvVEtEAGLEtFLUTEtGAUNTLETuRATER",
   "tHELMETuIDEuORNtLIDvLYtMANACLESvTTOCKtOX BACKtPAPYRUSuEDESTRIANuLANE TREEvUMED HEADtRAMuOSETTE",
   "tSAWuHIELDwPuLINGuMALL AXEuTRAINERtTATTOOED HEADuIARAuUNNYtVINEtWAVY BANDuOMAN",
   "cILIPPINE DOUBLE PUNCTUATIONlSINGLE PUNCTUATIONcOENICIAN LETTER AINtLFsBETsDELTsGAMLsHEuTsKAF",
   "sLAMDsMEMsNUNsPEsQOFsROSHsSADEtEMKtHINsTAUtETsWAUsYODsZAIlNUMBER ONEv HUNDREDsTENtHREEtWENTYuO",
   "lWORD SEPARATORdLUSbICKeUP TRUCKcEcGd FACEeNOSEcLCROW SIGNdE OF POOdLcNATAdCHED FINGERS",
   "fING HANDdE DECORATIONeAPPLEdWHEEL STARcSCESdTOLcTCHFORKj WITH TEE TOPbLACARD",
   "eE OF INTEREST SIGNjWORSHIPdNCK CONSTANTp OVER TWO PIdYGROUND SLIDEeING CARD ACE OF CLUBS",
   "uDIAMONDSuHEARTSuSPADESnBACKoLACK JOKERnEIGHT OF CLUBSwDIAMONDSwHEARTSwSPADESnFIVE OF CLUBS",
   "vDIAMONDSvHEARTSvSPADESoOOLpUR OF CLUBSvDIAMONDSvHEARTSvSPADESnJACK OF CLUBSvDIAMONDSvHEARTS",
   "vSPADESnKING OF CLUBSvDIAMONDSvHEARTSvSPADESoNIGHT OF CLUBSxDIAMONDSxHEARTSxSPADES",
   "nNINE OF CLUBSvDIAMONDSvHEARTSvSPADESnQUEEN OF CLUBSwDIAMONDSwHEARTSwSPADESnRED JOKER",
   "nSEVEN OF CLUBSwDIAMONDSwHEARTSwSPADESoIX OF CLUBSuDIAMONDSuHEARTSuSPADESnTEN OF CLUBS",
   "uDIAMONDSuHEARTSuSPADESoHREE OF CLUBSwDIAMONDSwHEARTSwSPADESoRUMP-1u0u1u2u3u4u5u6u7u8u9t2u0u1",
   "t3t4t5t6t7t8t9oWO OF CLUBSuDIAMONDSuHEARTSuSPADESnWHITE JOKERcDcUdNGERdS SIGN",
   "j ABOVE EQUALS SIGNkIN LEFT HALF CIRCLEnRIGHT HALF CIRCLEnTRIANGLEkWITH BLACK TRIANGLE",
   "pCIRCUMFLEX ACCENT ABOVEpDOT BELOWpSMALL CIRCLE ABOVEqUBSCRIPT TWOpTILDE ABOVEvBELOW",
   "e-MINUS SIGNdTOf FORM FIVEmOURlTHREEmWObMbOCKET CALCULATORcLICE CARkS REVOLVING LIGHThOFFICER",
   "cODLEcP DIRECTIONAL FORMATTINGqISOLATEdCORNcRTABLE STEREOcSEIDONdITION INDICATORdTAL HORNhMARK",
   "l FACEeBOXcT OF FOODdABLE WATER SYMBOLeTOdTED PLANTcUCHdLTRY LEGdND SIGNdRING LIQUID",
   "dTING CAT FACEiFACEcWER ON SYMBOLi-OFF SYMBOLgSLEEP SYMBOLhYMBOLbRAYER BEADScECEDES",
   "i ABOVE ALMOST EQUAL TOpEQUALS SIGNpNOT ALMOST EQUAL TOtEQUAL TOpSINGLE-LINE EQUALS SIGN",
   "zcNOT EQUAL TOjBUT NOT EQUIVALENT TOjOR EQUAL TOpIVALENT TOjUNDER RELATIONdGNANT MANjPERSON",
   "jWOMANdSCRIPTION TAKEeENTATION FORM FOR VERTICAL COLONziMMAzgEM DASHzhN DASHzhXCLAMATION MARK",
   "zgHORIZONTAL ELLIPSISzgIDEOGRAPHIC COMMAzsFULL STOPzgLEFT ANGLE BRACKET",
   "zlBLACK LENTICULAR BRACKETzlCORNER BRACKETzmURLY BRACKETzlDOUBLE ANGLE BRACKETzlPARENTHESIS",
   "zlSQUARE BRACKETzlTORTOISE SHELL BRACKETzlWHITE CORNER BRACKETzrLENTICULAR BRACKETzhOW LINE",
   "zgQUESTION MARKzgRIGHT ANGLE BRACKETzmBLACK LENTICULAR BRACKETzmCORNER BRACKETznURLY BRACKET",
   "zmDOUBLE ANGLE BRACKETzmPARENTHESISzmSQUARE BRACKETzmTORTOISE SHELL BRACKET",
   "zmWHITE CORNER BRACKETzsLENTICULAR BRACKETzzhKCETzgSEMICOLONzgTWO DOT LEADERzgWAVY LOW LINE",
   "dTZELdVIOUS PAGEcIMEdNCEgSSeT SCREEN SYMBOLfERh ICONdVACY MESSAGEfTE USE ONEmTWOl-1m2",
   "cOBING CANEdHIBITED SIGNdJECTIVEdPERTY LINEeORTIONkAL TOdSERPINA",
   "bSALTER PAHLAVI FOUR DOTS WITH CROSSzgDOTqLETTER ALEPHxBETHxDALETHxGIMELxHEzTHxKAPHxLAMEDH",
   "xMEM-QOPHxNUNxPExSADHEzMEKHyHINxTAWxWAW-AYIN-RESHxYODHxZAYINqNUMBER FOURxONEzb HUNDREDxTEN",
   "yHREEyWENTYzOqSECTION MARKqTURNED SECTION MARKbU1c2cBLIC ADDRESS LOUDSPEAKERcNCTUATION SPACE",
   "gS ELEVATUS MARKcRPLE HEARTdSEcSHPINcT LITTER IN ITS PLACE SYMBOLaQUADRANT LOWER LEFTpRIGHT",
   "jUPPER LEFTt AND LOWER LEFT AND LOWER RIGHTzfRIGHTyUPPER RIGHT AND LOWER LEFTzvRIGHTpRIGHT",
   "u AND LOWER LEFTzk AND LOWER RIGHTfUPLE INTEGRAL OPERATORkPRIMEdRTER NOTE",
   "dTERNION INTEGRAL OPERATORcESTION EXCLAMATION MARKjMARKiED EQUAL TOcINCUNXcOTATION MARKaRABBIT",
   "g FACEcCCOONdING CARhMOTORCYCLEcDICAL SYMBOL BOTTOMeOf BUTTONfACTIVE SIGNcILWAY CARiTRACKdN",
   "eBOWdSED BACK OF HANDhCOMMAhDOTkTED INTERPOLATION MARKERhFISThHANDl WITH FINGERS SPLAYED",
   "rPART BETWEEN MIDDLE AND RING FINGERShINTERPOLATION MARKERhMC SIGNiD SIGNiR SIGNhSQUAREcMcTdIO",
   "cZORbECEIPTdORD SEPARATORdREATIONAL VEHICLEdYCLED PAPER SYMBOL",
   "gING SYMBOL FOR GENERIC MATERIALSvTYPE-1 PLASTICSzb2 PLASTICSzb3 PLASTICSzb4 PLASTICS",
   "zb5 PLASTICSzb6 PLASTICSzb7 PLASTICScD APPLEeGIFT ENVELOPEcFERENCE MARK",
   "cGIONAL INDICATOR SYMBOL LETTER AziBziCziDziEziFziGziHziIziJziKziLziMziNziOziPziQziRziSziTziU",
   "ziVziWziXziYziZeSTERED SIGNcJANG CONSONANT SIGN HwNxGwRhLETTER AoBAoCAoDAoGAoHAoJAoKAoLAoMApBA",
   "oNApDApGAqGApYAqJAoPAoRAoSAoTAoWAoYAhSECTION MARKhVIRAMAiOWEL SIGN AItUsEtAtUsIsOsU",
   "cLIEVED FACEcMINDER RIBBONcPLACEMENT CHARACTERcSPONSEdTRICTED LEFT ENTRY-1w2fOOMcTURN LEFT",
   "hRIGHThSYMBOLcVERSE CHECKER BOARDiINDEXiLIGHT FOUR POINTED PINWHEEL STARkNE FEEDiSOLIDUS",
   "p OPERATORqPRECEDING SUBSETqWITH HORIZONTAL STROKEiTILDE OPERATOR ABOVE LEFTWARDS ARROW",
   "zeRIGHTWARDS ARROWhD ANGLEo WITH UNDERBARjCOMMAjDOUBLE PRIMEv QUOTATION MARKqSTROKE NOT SIGN",
   "jEMPTY SETjFORKED PARAGRAPHOSjHAND WITH MIDDLE FINGER EXTENDEDjNOT SIGNjPILCROW SIGNkRIME",
   "jQUESTION MARKjRAISED HAND WITH FINGERS SPLAYEDkIGHT ANGLEkOTATED FLORAL HEART BULLET",
   "jSANS-SERIF CAPITAL LkEMICOLONjTHUMBS DOWN SIGNqUP SIGNkILDEo EQUALSkRIPLE PRIMEjVICTORY HAND",
   "dOLVING HEARTSbHINOCEROSbIcAL SIGNcBBONg ARROW DOWN LEFTsRIGHTnLEFT DOWNsUPnRIGHT DOWNtUP",
   "nUP LEFTqRIGHTcCE BALLfCRACKERcFLEcGHT AND LOWER ONE EIGHTH BLOCKkUPPER ONE EIGHTH BLOCK",
   "iGER BUBBLEjLEl BRACKETt WITH DOTmDOTTED SUBSTITUTION MARKERmSUBSTITUTION MARKER",
   "mVARIANT WITH SQUAREmWITH ARCrDOWNWARDS ZIGZAG ARROWhRC GREATER-THAN BRACKET",
   "iROW WITH CIRCLED PLUSrSMALL CIRCLEgBLACK LENTICULAR BRACKETmTORTOISE SHELL BRACKETgCEILING",
   "hORNER BRACKEThURLY BRACKETt LOWER HOOKuMIDDLE PIECEuUPPER HOOKgDOTTED SUBSTITUTION BRACKET",
   "iUBLE ANGLE BRACKEToRROW WITH ROUNDED HEADnPARENTHESISnQUOTATION MARKnWIGGLY FENCEgFISH TAIL",
   "iVE EIGHTHS BLOCKhLOORgHALF BLACK CIRCLErSTARnOCKlFOLDERlMEDIUM SHADElRUNNING MAN",
   "iND TELEPHONE RECEIVERgLOW PARAPHRASE BRACKETgNORMAL FACTOR SEMIDIRECT PRODUCT",
   "gONE EIGHTH BLOCKkQUARTER BLOCKhPEN SQUARED DOThUTER JOINgPARENTHESISr EXTENSIONsLOWER HOOK",
   "sUPPER HOOKgRAISED OMISSION BRACKETgS-SHAPED BAG DELIMITERhEMIDIRECT PRODUCTiVEN EIGHTHS BLOCK",
   "hIDEWAYS U BRACKETiNGLE QUOTATION MARKhPEAKERn WITH ONE SOUND WAVEtTHREE SOUND WAVES",
   "jECH BUBBLEhQUARE BRACKETu EXTENSIONvLOWER CORNERvUPPER CORNERvWITH DOUBLE STROKEzbQUILL",
   "zbSTROKEzbTICK IN BOTTOM CORNERzjTOP CORNERzbUNDERBARhUBSTITUTION BRACKETgTACK",
   "hHIRD WHITE RIGHT POINTING INDEXiOUGHT BUBBLEiREE EIGHTHS BLOCKmQUARTERS BLOCK",
   "hORTOISE SHELL BRACKEThRANSPOSITION BRACKETiIANGLEo ABOVE LEFT TRIANGLEmULAR ONE QUARTER BLOCK",
   "gVERTICAL BAR WITH QUILLqOX LINEgWHITE CORNER BRACKETnURLY BRACKETmLENTICULAR BRACKET",
   "mPARENTHESISmSQUARE BRACKETmTORTOISE SHELL BRACKEThIGGLY FENCEf-FACING ARMENIAN ETERNITY SIGN",
   "nFISTnSVASTI SIGNy WITH DOTSgHANDED INTERLACED PENTAGRAMgPOINTING ANGLE BRACKET",
   "pCURVED ANGLE BRACKETpDOUBLE ANGLE QUOTATION MARKpMAGNIFYING GLASS",
   "gSHADED WHITE RIGHTWARDS ARROWhIDE ARC CLOCKWISE ARROWgTO-LEFT EMBEDDINGoISOLATEoMARKoOVERRIDE",
   "fHAND INTERIOR PRODUCTfWARDS ARROWq ABOVE ALMOST EQUAL TOxREVERSE ALMOST EQUAL TO",
   "zgTILDE OPERATORxSHORT LEFTWARDS ARROWxTILDE OPERATORsND UPPER AND LOWER ONE EIGHTH BLOCK",
   "rFROM BARz TO BLACK DIAMONDrOVER LEFTWARDS ARROWrTHROUGH GREATER-THANzSUPERSETzXsO BAR",
   "vLACK DIAMONDrWITH CORNER DOWNWARDSwDOTTED STEMyUBLE VERTICAL STROKEwEQUILATERAL ARROWHEAD",
   "wHOOKwLARGE TRIANGLE ARROWHEADxOOPwMEDIUM TRIANGLE ARROWHEADwNOTCHED TAILwPLUS BELOW",
   "wSMALL EQUILATERAL ARROWHEADzdTRIANGLE ARROWHEADxTROKEwTAILzb WITH DOUBLE VERTICAL STROKE",
   "zhVERTICAL STROKExIP DOWNWARDSzbUPWARDSwVERTICAL STROKEq-TAILlBACK-TILTED SHADOWED WHITE ARROW",
   "mLACK ARROWrCIRCLED WHITE ARROWmOTTOM SHADED WHITE ARROWlCOMPRESSED ARROWlDASHED ARROW",
   "mOUBLE ARROWx FROM BARyWITH STROKEzeVERTICAL STROKEx-TAILsDASH ARROWlFINGER-POST ARROW",
   "mRONT-TILTED SHADOWED WHITE ARROWlHANDnRPOON OVER LEFTWARDS HARPOON",
   "tWITH BARB DOWN ABOVE LEFTWARDS HARPOON WITH BARB DOWNzjBELOW LONG DASHzjFROM BARzjTO BAR",
   "ziWARDSzeUP ABOVE LEFTWARDS HARPOON WITH BARB UPzoONG DASHznRIGHTWARDS HARPOON WITH BARB DOWN",
   "zhFROM BARzhTO BARzgWARDSmEAVY ARROWrCOMPRESSED ARROWlLEFT-SHADED WHITE ARROW",
   "lOPEN-HEADED ARROWlPAIRED ARROWSlQUADRUPLE ARROWlRIGHT-SHADED WHITE ARROWmOCKET",
   "lSANS-SERIF ARROWmQUARED ARROWoIGGLE ARROWlTOP SHADED WHITE ARROWmRIANGLE ARROWHEAD",
   "t-HEADED ARROWzh OVER LEFTWARDS TRIANGLE-HEADED ARROWziTO BARziWITH BOLD SHAFT",
   "znDOUBLE HORIZONTAL STROKEzuVERTICAL STROKEznHEAVY SHAFTznLONG TIP DOWNWARDSzwUPWARDS",
   "znMEDIUM SHAFTznNARROW SHAFTznVERY HEAVY SHAFTzcDASHED ARROWzcPAIRED ARROWSoPLE ARROW",
   "sDASH ARROWmWO HEADED ARROWo-HEADED ARROW FROM BARzdWITH DOUBLE VERTICAL STROKEziTAIL",
   "zm WITH DOUBLE VERTICAL STROKEzsVERTICAL STROKEzjRIANGLE ARROWHEADSziVERTICAL STROKE",
   "wTRIPLE DASH ARROWlWAVE ARROWmHITE ARROWw FROM WALLxWITHIN TRIANGLE ARROWHEADcNGe ABOVEfBUOY",
   "fEQUAL TOfIN EQUAL TOfOPERATORfPOINTeED PLANETeING BELL",
   "cSING DIAGONAL CROSSING FALLING DIAGONALzSOUTH EAST ARROWbLEcIcMcObOASTED SWEET POTATO",
   "cBOT FACEcCKeETcLL OF PAPEReED-UP NEWSPAPERfR COASTERhSKATEeING ON THE FLOOR LAUGHING",
   "cMAN AS SIGNgCENTURIAL SIGNgDENARIUS SIGNhIMIDIA SEXTULA SIGNhUPONDIUS SIGNgNUMERAL EIGHT",
   "pLEVENoFIFTYt EARLY FORMuTHOUSANDqVEs HUNDREDtTHOUSANDpOURoNINEoONEr HUNDREDz THOUSAND",
   "sTHOUSANDzb C DoREVERSED ONE HUNDREDoSEVENpIXr LATE FORMoTENr THOUSANDpHREEpWELVEqO",
   "gQUINARIUS SIGNgSEMUNCIA SIGNiSTERTIUS SIGNiXTANS SIGNkULA SIGNhILIQUA SIGNgUNCIA SIGNcOSTER",
   "cSEeTTEcTATED CAPITAL QiFLORAL HEART BULLETiHEAVY BLACK HEART BULLET",
   "iLIGHT FOUR POINTED BLACK CUSPiWHITE FOUR POINTED CUSPcUND PUSHPINgTARGETfED SYMBOL FOR CAItFU",
   "tLUtSHOUvUANGXItXIcWBOATbSbUBLE SIGNcGBY FOOTBALLcLE-DELAYEDcMI DIGIT EIGHTlFIVEmOURlNINElONE",
   "lSEVENmIXlTHREEmWOfFRACTION ONE HALFsQUARTERsTHIRDoTWO THIRDSfNUMBER EIGHT HUNDREDrYmFIFTY",
   "oVE HUNDREDnORTYoUR HUNDREDmNINE HUNDREDqTYmONE HUNDREDmSEVEN HUNDREDrTYnIX HUNDREDpTYmTEN",
   "nHIRTYoREE HUNDREDnWENTYoO HUNDREDcNIC ARLAUG SYMBOLgBELGTHOR SYMBOLgCROSS PUNCTUATION",
   "gLETTER AC AoESCoLGIZ EOLHXoNSUZ AnBERKANAN BEORC BJARKAN BnCoALCoEALCpNoWEORTHnDoAGAZ DAEG D",
   "oOTTED-LuNuPnEoARoHWAZ EH EoNGoTHnFEHU FEOH FE FoRANKS CASKET ACzdESCzcEHzcISzcOSnGoAR",
   "oEBO GYFU GpRnHAEGL HpGLAZ HnICELANDIC-YRoNGqWAZoORoSAZ IS ISS IoWAZ EOHnJERAN JnKoAUN KrA",
   "nLAUKAZ LAGU LOGR LoONG-BRANCH-AR AEzHAGALL HzMADR MzOSS OzYRnMANNAZ MAN MnNAUDIZ NYD NAUD NnO",
   "oEoNoOoPEN-PoS OoTHALAN ETHEL OnPERTHO PEORTH PnQnRAIDO RAD REID RnSHpORT-TWIG-AR AyBJARKAN B",
   "yHAGALL HyMADR MyNAUD NyOSS OySOL SyTYR TyYRoIGEL LONG-BRANCH-SOL SoOWILO SoTAN",
   "nTHURISAZ THURS THORNoIWAZ TIR TYR TnURUZ UR UnVnWoUNJO WYNN WnXnYoRnZgMULTIPLE PUNCTUATION",
   "gSINGLE PUNCTUATIONgTVIMADUR SYMBOLdNEReING SHIRT WITH SASHcPEE SIGN",
   "cSSIAN ASTROLOGICAL SYMBOL BINOVILEzdNOVILEzdQUINTILEzdSENTAGONzdTREDECILEzdVIGINTILE",
   "aS IN TRIANGLEbAFETY PINhVESTcGITTARIUScILBOATcKE BOTTLE AND CUPcLT SHAKEReIREdUTING FACE",
   "cMARITAN ABBREVIATION MARKkLETTER ALAFrBAAsITrDALATrFIrGAMANrINsTsYrKAAFrLABATrMIMrNUNrQUF",
   "rRISHrSHANsINGAATrTAAFsITsSAADIYrYUTrZENkMARK DAGESHpEPENTHETIC YUTpINr-ALAFpNEQUDAApOCCLUSION",
   "lODIFIER LETTER EPENTHETIC YUTzbIzbSHORT AkPUNCTUATION AFSAAQxNGEDyNAAUxRKAANUxTMAAUwBAU",
   "wMELODIC QITSAwNEQUDAAwQITSAwSHIYYAALAAxOF MASHFAATwTURUwZAEFxIQAAkVOWEL SIGN AwAvEvIvLONG A",
   "zcAzbEzbIzbUvOwVERLONG AzgAvSHORT AwUKUNvUcNDWICH",
   "dS-SERIF HEAVY DOUBLE COMMA QUOTATION MARK ORNAMENTyTURNED COMMA QUOTATION MARK ORNAMENT",
   "rLOW DOUBLE COMMA QUOTATION MARK ORNAMENTlINTERROBANG ORNAMENTcRIcTELLITEj ANTENNAdURN",
   "cURASHTRA CONSONANT SIGN HAARUlDANDAmIGIT EIGHTrFIVEsOURrNINErONErSEVENsIXrTHREEsWOrZERO",
   "mOUBLE DANDAlLETTER AtAtItUsBAtHAsCAtHAsDAtDAuHAtHAsEtEsGAtHAsHAsItIsJAtHAsKAtHAsLAtLAsMAsNA",
   "tGAtNAtYAsOtOsPAtHAsRAsSAtHAtSAsTAtHAtTAuHAsUtUsVAtOCALIC LzcLzbRzcRsYAlSIGN ANUSVARA",
   "qCANDRABINDUqVIRAMAsSARGAlVOWEL SIGN AAxIxUwExEwIxIwOxOwUxUwVOCALIC LzgLzfRzgReOPODcXOPHONE",
   "bCALESdRFcHOOLg SATCHELcIcOOTERdRPIONgUScREENeWDRIVERdIPT CAPITAL BpEpFpHpIpLpMpPpR",
   "hLIGATURE ET ORNAMENThSMALL EnGnLnOdOLLdUPLEbEALdTcCOND PLACE MEDALdTION SIGNeORcDNA",
   "cE-NO-EVIL MONKEYdDLINGcGMENThED DIGIT EIGHTqFIVErOURqNINEqONEqSEVENrIXqTHREErWOqZEROcLFIE",
   "cMICOLONeDIRECT PRODUCT WITH BOTTOM CLOSEDeSEXTILEcPARATED SYMBOL",
   "cRIOUS FACE WITH SYMBOLS COVERING MOUTHdVICE MARKcSAME DOTdQUIQUADRATEcT MINUSeTRANSMIT STATE",
   "cWING NEEDLEcXTILEbGCbHADOWED WHITE CIRCLEpLATIN CROSSpSTARdLLOW PAN OF FOODdMROCK",
   "dRADA ABBREVIATION SIGNiCONTINUATION SIGNiDANDAjIGIT EIGHToFIVEpOURoNINEoONEoSEVENpIXoTHREEpWO",
   "oZEROjOUBLE DANDAiEKAMjXTRA SHORT VOWEL MARKiHEADSTROKEiLETTER AqAqIqUpBAqHApCAqHApDAqDArHAqHA",
   "pEpGAqHApHApIqIpJAqHApKAqHApLAqLApMApNAqGAqNAqYApOpPAqHApRApSAqHAqSApTAqHAqTArHApUqUpVA",
   "qOCALIC LyLxRyRpYAiOMiSANDHI MARKjECTION MARK-1v2kPARATORjIGN ANUSVARAoVAGRAHAnCANDRABINDU",
   "nINVERTED CANDRABINDUnJIHVAMULIYAnNUKTAnSIDDHAMnUPADHMANIYAnVIRAMApSARGAjUTRA MARK",
   "iVOWEL MODIFIER MARKoSIGN AAuIuUtEtIuItOtPRISHTHAMATRA EtUuUtVOCALIC LzdLzcRzdReKdVED ICE",
   "eIAN LETTER ADOqGEqHqIRqRErRAYqSHqWEpBIBpCHURCHpDEADpEARrTqGGqRRpFEEpGAGpHA-HAqUNGpIANqCEqF",
   "pJUDGEpKICKpLOLLpMEASUREqIMEpNUNpOAKqILqNqOZEqRqUTpPEEPpROARpSOqUREpTHEYrIGHqOTpUPpVOWpWOErOL",
   "pYEArWpZOOcEEPcIELDdFT INgOUTdNTO SHRINEdPcOCKED FACE WITH EXPLODING HEADdOTING STAR",
   "dPPING BAGSjTROLLEYdRT BACKSLANTED SOUTH ARROWhENT ARROW POINTING DOWNWARDS THEN NORTH EAST",
   "gDOWN TACKp WITH OVERBARgLEFT TACKgRIGHTWARDS ARROW ABOVE LEFTWARDS ARROWgSLANTED NORTH ARROW",
   "gUP TACKn ABOVE SHORT DOWN TACKoWITH UNDERBARfCAKEfHAND FORMAT CONTINUING OVERLAPrDOWN STEP",
   "rLETTER OVERLAPrUP STEPfSdULDERED OPEN BOXdWERcRIMPdUGcUFFLE PRODUCTcYbIcDDHAM DANDA",
   "jOUBLE DANDAiEND OF TEXT MARKiLETTER AqAqIqLTERNATE UqUpBAqHApCAqHApDAqDArHAqHApEpGAqHApHApIqI",
   "pJAqHApKAqHApLApMApNAqGAqNAqYApOpPAqHApRApSAqHAqSApTAqHArREE-CIRCLE ALTERNATE IqTArHA",
   "qWO-CIRCLE ALTERNATE IzmIpUqUpVAqOCALIC LyLxRyRpYAiREPETITION MARK-1y2y3",
   "iSECTION MARK DOUBLE RINGzh WITH RAYSvWITH CIRCLES AND FOUR ENCLOSURESznRAYSznTWO ENCLOSURES",
   "zbDOUBLE CRESCENTSzbQUADRUPLE CRESCENTSzbRAYS AND DOTTED CRESCENTSzrDOUBLE CRESCENTS",
   "zrTRIPLE CRESCENTSzbSEPTUPLE CRESCENTSzbTRIDENT AND DOTTED CRESCENTSznU-SHAPED ORNAMENTS",
   "zePLE CRESCENTSkPARATOR BARsDOTjIGN ANUSVARAnCANDRABINDUnNUKTAnSIDDHAMnVIRAMApSARGA",
   "iVOWEL SIGN AAuIuLTERNATE UzfUuUtEtIuItOtUuUtVOCALIC RzdRdEWAYS BLACK DOWN POINTING INDEX",
   "pLEFT POINTING INDEXpRIGHT POINTING INDEXpUP POINTING INDEXjWHITE DOWN POINTING INDEX",
   "pLEFT POINTING INDEXpRIGHT POINTING INDEXpUP POINTING INDEXcGN OF THE HORNS",
   "eWRITING AIR BLOW SMALL ROTATIONSuING OUTqSUCK SMALL ROTATIONSuING INmBREATH EXHALEtINHALE",
   "oUSH BETWEENsMULTIPLEsSINGLEmCHEEKS NEUTRALtPUFFEDtSUCKEDnOLONoMMA",
   "mDREAMY EYEBROWS DOWN NEUTRALzdNEUTRAL DOWNzlUPzdUP NEUTRALnYNAMIC ARROWHEAD LARGEzfSMALL",
   "uEVERY OTHER TIMEuFASTuGRADUALuRELAXEDuSIMULTANEOUSzh ALTERNATINGvLOWuTENSEmEARSnXCITEMENT",
   "nYE BLINK MULTIPLEwSINGLEqWINKpBROWS STRAIGHT DOWNzfNEUTRALzfUPpGAZE-FLOORPLANE CURVED",
   "zgSTRAIGHTzo ALTERNATINGzpDOUBLEuWALLPLANE CIRCLINGzgURVEDzfSTRAIGHTzn ALTERNATINGzoDOUBLE",
   "pLASHES DOWNwFLUTTERINGwUPpS CLOSEDrHALF CLOSEDwOPENrOPENrSQUEEZEDrWIDE OPENvNING MOVEMENT",
   "mFACE DIRECTION POSITION NOSE FORWARD TILTINGzqUP OR DOWNzzb TILTINGnILL MODIFIER-2zb3zb4zb5",
   "zb6oNGERnLICK LARGE MULTIPLEySINGLEsSEQUENTIALtMALL MULTIPLEySINGLEoOORPLANE SHOULDER HIP MOVE",
   "nOREHEAD CONTACTvNEUTRALvWRINKLEDnULL STOPmGRASP BETWEENsMULTIPLEsSINGLEmHAIRoND-ANGLEw INDEX",
   "zd MIDDLE LITTLEzlRINGzeRING LITTLEzp OUTzeTHUMBzj INzkOUTxLITTLE INDEXzk THUMB INDEX THUMB",
   "zzd OUTzfUPxMIDDLE RING LITTLEzq INzrOUTxRING DOWN MIDDLE THUMB INDEX CROSSzdLITTLErCIRCLE",
   "x INDEXze BENTzfHINGEzfMIDDLEzl CROSS LITTLEzrEDzmLITTLEzmRINGzmTHUMBzfRING LITTLE",
   "yLITTLE INDEXzgUPyMIDDLE RING LITTLEzr BENTzgUPyRING LITTLEsLAWv FOUR FINGERS CONJOINED",
   "wINDEX THUMB CURVE THUMB INSIDEwMIDDLE RING LITTLE CONJOINEDzz SIDEwNO THUMBwTHUMB FORWARD",
   "zdSIDEsUPu FIVE FINGERS SPREADzp OPENvINDEXzb RING LITTLEzcTHUMBzh OPENvMIDDLE RING LITTLE",
   "vNO THUMBvOPENz NO THUMBzbTHUMB FORWARDzhSIDEvTHUMB FORWARDzcSIDEtRLICUEz INDEX RING LITTLE ON",
   "zbMIDDLE RING LITTLE ONzbOPENrFISTv FOUR FINGERS CONJOINED BENTwHEELwINDEXzc BENT",
   "zh OVER MIDDLEzdCUPPEDzdHINGEDzj LOWzkMIDDLE UPzt THUMB SIDEzdMIDDLEzj BENTzo THUMB STRAIGHT",
   "zkCONJOINEDzt CUPPEDzzb THUMB FORWARDzuHINGEDzzb THUMB SIDEzuINDEX BENTzuMIDDLE BENT",
   "zuTHUMB FORWARDzzbSIDEzzf BENTzzgCONJOINEDzlROSS LITTLEzpEDzr THUMB SIDEzkHINGED",
   "zq SPREAD THUMB SIDEzkLITTLEzkRAISED KNUCKLESzlINGzo BENTzpCONJOINEDzkSTRAIGHT THUMB BENT",
   "zkTHUMBzp ANGLEDzw OUTzqBENTzqCIRCLEDzrONJOINED HINGEDzrUPPEDzqHINGEDzrOOKED",
   "zkUP SPREAD THUMB FORWARDzdRAISED KNUCKLEzeING LITTLEzdTHUMB ANGLED IN MIDDLE UP",
   "zqOUT MIDDLE UPzjCIRCLEzpD MIDDLE UPzkUPPED MIDDLE UPzlRLICUEzmVE THUMB INSIDEzvUNDER",
   "zjFORWARD INDEX BENTzxSTRAIGHTzjHOOKznED MIDDLE HINGEDzxUPzjSIDEzn BOTH BENTzoINDEX BENT",
   "zuHINGEzoTHUMB BENTzuCONJOINEDzuDIAGONALzdUP MIDDLE HINGEDzt THUMB CONJOINEDzzbSIDE",
   "wLITTLE BENTzeDOWNzi OTHERS CIRCLEDzjRIPPLE CURVEDzqSTRAIGHTzeINDEXzj THUMBzeRAISED KNUCKLE",
   "zeTHUMBzfOUCHES THUMBzeUPwMIDDLE BENT OVER INDEXzeDOWNzeLITTLEzeRAISED KNUCKLEzfING LITTLE",
   "zeTHUMB ANGLED INDEX UPzrOUT INDEX CROSSEDzzcUPzkCIRCLED INDEX HINGEDzyUPzlUPPED INDEX UP",
   "zkHOOKED INDEX UPzkLITTLEzeUPzg THUMB SIDEwRING DOWNzcINDEXzcLITTLEzcMIDDLEzi CONJOINED",
   "zjRAISED KNUCKLESzcRAISED KNUCKLEzcTHUMBzcUPwTHUMBzc BETWEEN INDEX MIDDLEzx STRAIGHT",
   "zlMIDDLE RINGzlRING LITTLEzdFORWARDzdHEELzdOVER FOUR RAISED KNUCKLESziTWO FINGERSzdSIDE BENT",
   "ziCONJOINEDziDIAGONALzdUNDER FOUR FINGERSzjINDEX BENTzjLITTLE UPzjTHREE FINGERSzkWO FINGERS",
   "sLATv BETWEEN PALM FACINGSwFIVE FINGERS SPREADzq BENTzrFOUR BENTzrHINGEDzx NO THUMB",
   "zyTHUMB SIDEzrTHUMB FORWARDxOUR FINGERSzj BENTzkCONJOINEDzt SPLITzkHINGEDwHEEL",
   "zb FIVE FINGERS SPREADzv BENTzwFOUR BENTzcTHUMB SIDEwSPLIT CENTREzj THUMB SIDEzu BENT",
   "zdINDEX THUMB SIDEzdLITTLEwTHUMB BENTzdFORWARDzdSIDErHINGEw FIVE FINGERS SPREAD OPEN",
   "yOUR FINGERS CONJOINEDxINDEXzd HINGEDzeMIDDLE LITTLEzlRINGzp CONJOINEDzeRING LITTLEzeTHUMB",
   "zj LARGEzkOPENzkSIDEzlMALLxLITTLEze INDEXzk THUMBzfTHUMBxMIDDLEze RING LITTLExNO THUMBxOPEN",
   "zc NO THUMBzdTHUMB FORWARDzjSIDExRINGzc DOWN INDEX THUMB HOOK MIDDLExSMALL",
   "xTHUMB BETWEEN MIDDLE RINGzeSIDEzi TOUCHING INDEXsOOKv CURLICUEwINDEX RING LITTLE INzpOUT",
   "zpUNDERwMIDDLE RING LITTLE CONJOINEDzz INzzbOUTzeTHUMBwRING THUMBrOVALv FIVE FINGERS SPREAD",
   "wINDEXwLITTLE UPwNO THUMBwRING LITTLEwTHUMB FORWARDzdSIDEnEADq MOVEMENT CIRCLE",
   "z-FLOORPLANE CURVEzmSTRAIGHTzbWALLPLANE CURVEzlSTRAIGHTzlTILTrRIMmLIMB COMBINATIONrLENGTH-1y2",
   "y3y4y5y6y7oP LOWER OVER UPPERqUPPER OVER LOWERpS PRESSED TOGETHERnOCATION DEPTHvHEAD NECKxIGHT",
   "vLIMBS DIGITSvTORSOvWIDTHu-FLOORPLANE SPACEvWALLPLANE SPACEmMOUTH CLOSED CONTACTzFORWARD",
   "zNEUTRALtORNERSsFROWNx OPENyWRINKLEDsKISSw FORWARDxWRINKLEDsOPEN CIRCLExFORWARDxOVAL",
   "zc WRINKLEDzdYAWNxRECTANGLEzh WRINKLEDziYAWNxWRINKLEDsSMILEx OPENyWRINKLEDsTENSEx FORWARD",
   "ySUCKEDsWRINKLES DOUBLEzcSINGLEoVEMENT-DIAGONAL AWAY LARGEzpSTzkMEDIUMzkSMALL",
   "zfBETWEEN AWAY LARGEzxSTzsMEDIUMzsSMALLznTOWARDS LARGEzzbSTzvMEDIUMzvSMALLzfTOWARDS LARGEzsST",
   "znMEDIUMznSMALLvFLOORPLANE ARM CIRCLE HITTING WALL LARGE DOUBLEzzmSINGLEzzgMEDIUM DOUBLE",
   "zznSINGLEzzgSMALL DOUBLEzzmSINGLEzhBENDziOX LARGEzlMEDIUMzlSMALLzhCHECKziORNER LARGEzoMEDIUM",
   "zoSMALLziROSSziURVE COMBINEDznHITTING CEILING LARGEzzeSMALLzvFLOOR LARGEzzcSMALLznLARGEzsST",
   "znMEDIUMznSMALLzhDOUBLE ALTERNATINGzz WRIST FLEXzoSTRAIGHTzoWRIST FLEX",
   "zhFINGER CIRCLES HITTING WALL DOUBLEzzkSINGLEzpONTACTzhHUMP HITTING CEILING LARGE DOUBLE",
   "zzjTRIPLEzzdSMALL DOUBLEzzjTRIPLEzuFLOOR LARGE DOUBLEzzbSMALL DOUBLEzzbTRIPLE LARGE TRIPLE",
   "zziSMALL TRIPLEzmSMALLzhJAWzhLOOP HITTING CEILING LARGE DOUBLEzzjSINGLEzzdSMALL DOUBLE",
   "zzjSINGLEzuFLOOR LARGE DOUBLEzzhSINGLEzzbSMALL DOUBLEzzhSINGLEzmSMALLzhPEAKS LARGEznMEDIUM",
   "znSMALLzhSHAKING PARALLELziINGLE STRAIGHT LARGEzzdSTzxMEDIUMzxSMALLzoWRIST FLEX",
   "zhTRIPLE ALTERNATING MOVEMENTzzbWRIST FLEXzoSTRAIGHT MOVEMENTzoWRIST FLEX",
   "zhWAVE HITTING CEILING LARGEzzdSMALLzuFLOOR LARGEzzbSMALLzmLARGEzmSMALLznNAKE",
   "ziRIST CIRCLE HITTING WALL DOUBLEzziSINGLEzhZIGZAG LARGEzoMEDIUMzoSMALLvHINGE DOWN SEQUENTIAL",
   "zcSIDE TO SIDE SCISSORSzcUP DOWN ALTERNATING LARGEzwSMALLzkLARGEzkSMALLzfSEQUENTIAL",
   "vWALLPLANE ARM CIRCLE MEDIUM DOUBLEzySINGLEzrSMALL DOUBLEzxSINGLEzgBEND LARGEzlMEDIUMzlSMALL",
   "zhOX LARGEzkMEDIUMzkSMALLzgCHECK LARGEzmMEDIUMzmSMALLzhORNER LARGEznMEDIUMznROTATIONznSMALL",
   "zhROSSzhURVE HALF-CIRCLE LARGEzzeSTzyMEDIUMzySMALLznITTING CHESTzuFRONT WALLzmQUARTER LARGE",
   "zzSTzuMEDIUMzuSMALLzmTHEN STRAIGHTzoREE-QUARTER CIRCLE MEDIUMzziSMALLzlD CROSS MEDIUMztSMALL",
   "zgDOUBLE ALTERNATINGzy WRIST FLEXznSTRAIGHTznWRIST FLEXzgFINGER CIRCLES DOUBLEzvSINGLEzoONTACT",
   "zgHUMP HITTING CHESTztFRONT WALLzlLARGEzlMEDIUMzlSMALLzgJAWzgLOOP HITTING CHESTztFRONT WALL",
   "zlLARGEzlMEDIUMzlSMALLzq DOUBLEzgPEAKS LARGEzmMEDIUMzmSMALLzgSHAKINGzhINGLE STRAIGHT LARGE",
   "zzcSTzwMEDIUMzwSMALLznWRIST FLEXzgTRIPLE ALTERNATINGzy WRIST FLEXznSTRAIGHT MOVEMENT",
   "znWRIST FLEXzgWAVE CURVE DOUBLE LARGEzyMEDIUMzySMALLzrTRIPLE LARGEzyMEDIUMzySMALL",
   "zlDIAGONAL PATH LARGEzzMEDIUMzzSMALLzlHITTING CHESTztFRONT WALLzhRIST CIRCLE FRONT DOUBLE",
   "zzSINGLEzgZIGZAG LARGEznMEDIUMznSMALLmNECKnOSE CONTACTrNEUTRALrWIGGLESsRINKLESmPARENTHESIS",
   "mROTATION MODIFIER-10zg1zg2zg3zg4zg5zg6zf2zf3zf4zf5zf6zf7zf8zf9u-FLOORPLANE ALTERNATING",
   "zs HITTING CEILINGzzcFLOORzhDOUBLEzn HITTING CEILINGzwFLOORzhSINGLEzn HITTING CEILINGzwFLOOR",
   "vWALLPLANE ALTERNATEzoING HITTING CHESTzzbFRONT WALLzgDOUBLEzm HITTING CHESTzvFRONT WALL",
   "zgSINGLEzm HITTING CHESTzvFRONT WALLnUB BETWEENqMULTIPLEqSINGLEmSEMICOLON",
   "nHOULDER HIP POSITIONSzSPINEvTILTING FROM WAISTnQUEEZE FLICK ALTERNATINGuLARGE MULTIPLE",
   "zbSINGLEuSEQUENTIALvMALL MULTIPLEzbSINGLEnTRIKE BETWEENtMULTIPLEtSINGLEnURFACE BETWEENuSYMBOLS",
   "mTEETHr BITE LIPSsMOVEMENTsON LIPSz MOVEMENTvTONGUEzc MOVEMENToNSE CHEEKS HIGHzLOWzMIDDLE",
   "nONGUE CENTRE INSIDE MOUTHzbSTICKING OUTtINSIDE MOUTH RELAXEDtLICKING LIPStMOVES AGAINST CHEEK",
   "tSTICKING OUT FARtTIP BETWEEN LIPSxTOUCHING INSIDE MOUTHoRSO-FLOORPLANE TWISTING",
   "sWALLPLANE CURVED BENDzdSTRAIGHT STRETCHoUCH BETWEENsMULTIPLEsSINGLE",
   "nRAVEL-FLOORPLANE ROTATION-FLOORPLANE ALTERNATINGzzDOUBLEzzSINGLEzoWALLPLANE ALTERNATING",
   "zyDOUBLEzySINGLEzfSHAKINGtWALLPLANE ARM SPIRAL DOUBLEzpSINGLEzpTRIPLE",
   "zeROTATION-FLOORPLANE ALTERNATINGzyDOUBLEzySINGLEznWALLPLANE ALTERNATINGzxDOUBLEzxSINGLE",
   "zeSHAKINGmUPPER BODY TILTING FROM HIP JOINTSmWALLPLANE SHOULDER HIP MOVEcLHOUETTE OF JAPAN",
   "cMILAR ABOVE GREATER-THAN ABOVE EQUALS SIGNoLESS-THAN ABOVE EQUALS SIGNiMINUS SIMILAR",
   "iOR GREATER-THANlLESS-THANcNE WAVEdGLE CHARACTER INTRODUCERhGRAPHIC CHARACTER INTRODUCER",
   "hHIGH-REVERSED-9 QUOTATION MARKhLEFT-POINTING ANGLE QUOTATION MARKiOW-9 QUOTATION MARK",
   "hRIGHT-POINTING ANGLE QUOTATION MARKhSHIFT THREEoWOg-SHIFT-2n3dHALA ARCHAIC DIGIT EIGHTwFIVE",
   "xOURwNINEwONEwSEVENxIXwTHREExWOqNUMBER EIGHTYxFIFTYyORTYxNINETYxONE HUNDREDzcTHOUSANDxSEVENTY",
   "yIXTYxTENyHIRTYyWENTYiLETTER AAYANNAqEEYANNArYANNAqIYANNAqLPAPRAANA BAYANNAzbCAYANNAzbDAYANNA",
   "zcDAYANNAzbGAYANNAzbJAYANNAzbKAYANNAzbPAYANNAzbTAYANNAzcTAYANNAqMBA BAYANNAqUYANNAqYANNA",
   "pDANTAJA LAYANNAxNAYANNAxSAYANNApEEYANNAqYANNApFAYANNApHAYANNApIIYANNAqLUUYANNAsYANNAqRUUYANNA",
   "sYANNAqYANNApKANTAJA NAASIKYAYApMAHAAPRAANA BAYANNAzcCAYANNAzcDAYANNAzdDAYANNAzcGAYANNA",
   "zcJAYANNAzcKAYANNAzcPAYANNAzcTAYANNAzdTAYANNArYANNAqUURDHAJA LAYANNAzNAYANNAzSAYANNApOOYANNA",
   "qYANNApRAYANNApSANYAKA DAYANNAyDAYANNAxGAYANNAxJAYANNApTAALUJA NAASIKYAYAxSANYOOGA NAAKSIKYAYA",
   "zYANNApUUYANNAqYANNApVAYANNApYAYANNAjITH DIGIT EIGHTtFIVEuOURtNINEtONEtSEVENuIXtTHREEuWOtZERO",
   "iPUNCTUATION KUNDDALIYAiSIGN AL-LAKUNAoNUSVARAYAnCANDRABINDUnVISARGAYAiVOWEL SIGN AELA-PILLA",
   "tDIGA AEDA-PILLAyGAETTA-PILLAzbYANUKITTAyIS-PILLAyKOMBUVAyPAA-PILLAtGAETTA-PILLAvYANUKITTA",
   "tKETTI AEDA-PILLAzIS-PILLAzPAA-PILLAuOMBU DEKAyVAzb HAA AELA-PILLAzgDIGA AELA-PILLA",
   "zgGAYANUKITTAcX PETALLED BLACK AND WHITE FLORETTEfOINTED BLACK STARmPINWHEEL STAR",
   "mSTAR WITH MIDDLE DOTd-PER-EM SPACEdTEEN POINTED ASTERISKbKATEBOARDcI AND SKI BOOTdERcULL",
   "f AND CROSSBONESdNKbLANTED EQUAL TO OR GREATER-THANzh WITH DOT INSIDEuLESS-THAN",
   "ze WITH DOT INSIDEiNORTH ARROW WITH HOOKED HEADzcRIZONTAL TAILdVONIC ASTERISKcED",
   "dEPING ACCOMMODATIONjFACEjSYMBOLfY FACEdUTH OR SPYcICE OF PIZZAdGHTLY FROWNING FACE",
   "jSMILING FACEcOPEeING LARGE ANDoORdT MACHINEeHbMALL AIRPLANEhMPERSANDhSTERISKgBLUE DIAMOND",
   "gCOLONiMMAkERCIAL ATiNTAINS AS MEMBERpWITH OVERBARuVERTICAL BAR AT END OF HORIZONTAL STROKE",
   "gDOLLAR SIGNgELEMENT OFq WITH OVERBARwVERTICAL BAR AT END OF HORIZONTAL STROKEhM DASH",
   "hQUALS SIGNhXCLAMATION MARKgFULL STOPgGREATER-THAN SIGNgHYPHEN-MINUSgIDEOGRAPHIC COMMA",
   "gLEFT CURLY BRACKETlPARENTHESISlTORTOISE SHELL BRACKETiSS-THAN SIGNgNUMBER SIGNgORANGE DIAMOND",
   "gPERCENT SIGNhLUS SIGNgQUESTION MARKgREVERSE SOLIDUShIGHT CURLY BRACKETmPARENTHESIS",
   "mTORTOISE SHELL BRACKEThOMAN NUMERAL EIGHTvLEVENuFIFTYwVEy HUNDREDvOURuNINEuONEx HUNDRED",
   "yTHOUSANDuSEVENvIXuTENvHREEvWELVEwOgSEMICOLONgTILDEhWO DOTS OVER ONE DOT PUNCTUATION",
   "gVEE WITH UNDERBARfER THANm OR EQUAL TOdSH PRODUCTcILEeING CAT FACE WITH HEART-SHAPED EYES",
   "wOPEN MOUTHiFACE WITH HALOtEART-SHAPED EYEStORNSsOPEN MOUTHzd AND COLD SWEATziSMILING EYES",
   "ziTIGHTLY-CLOSED EYESsSMILING EYESzf AND HAND COVERING MOUTHzkTHREE HEARTStUNGLASSESsTEAR",
   "dRKING FACEcOKING SYMBOLbNAILdKEcEEZING FACEcOW CAPPED MOUNTAINeBOARDEReFLAKEeMAN",
   "h WITHOUT SNOWbOcCCER BALLdKScFT HYPHENfICE CREAMfSHELL FLOPPY DISKeBALLeWARE-FUNCTION SYMBOL",
   "cGDIAN COMBINING CURVE ABOVEyBELOWsDOT ABOVEwBELOWsHOOK ABOVExBELOWsLONG HOOK BELOWsRESH BELOW",
   "sSTROKE BELOWsTWO DOTS ABOVEzcBELOWiINDEPENDENT SHINiLETTER ALEPHqYINpBETHpFETHpGIMELpHErTH",
   "pKAPHpLAMEDHqESHpMEMpNUNpPEpRESH-AYINpSADHErMEKHqHINpTAWpWAWpYODHpZAYINiNUMBER ONEs HUNDRED",
   "pTENqWENTYiPUNCTUATION CIRCLE WITH DOTuHALF CIRCLE WITH DOTuTWO CIRCLES WITH DOTS",
   "yVERTICAL BARSzm WITH DOTScHcLID QUILT SQUARE ORNAMENTzc IN BLACK SQUAREfUSh WITH OVERBAR",
   "cM SIGNcON WITH RIGHTWARDS ARROW ABOVEcRA SOMPENG DIGIT EIGHTtFIVEuOURtNINEtONEtSEVENuIXtTHREE",
   "uWOtZEROnLETTER AHuBAHuCAHuDAHuEEHvHuGAHuHAHuIHuJAHuKAHuLAHuMAEwHuNAHvGAHvYAHuOHuPAHuRAHuSAH",
   "uTAHuUHuVAHuYAHcScUND RECORDING COPYRIGHTdTH EAST ARROWq AND SOUTH WEST ARROW",
   "rCROSSING NORTH EAST ARROWrTO CORNERrWITH HOOKlBLACK ARROWlDOUBLE ARROWlPOINTING BUDuLEAF",
   "uVINE LEAFlSANS-SERIF ARROWlTRIANGLE-HEADED ARROWzh TO BARlWHITE ARROWgWEST ARROW",
   "q AND NORTH WEST ARROWrWITH HOOKlBLACK ARROWlDOUBLE ARROWlPOINTING BUDuLEAFuVINE LEAF",
   "lSANS-SERIF ARROWlTRIANGLE-HEADED ARROWzh TO BARlWHITE ARROWcYOMBO CLUSTER-INITIAL LETTER LA",
   "zgRAzgSAzhHAiFINAL CONSONANT SIGN -AzeBzeDzeGzeKzeLzeMzeNzfGzeRzeSzfHiGEMINATION MARK",
   "iHEAD MARK WITH MOON AND SUNzk AND FLAMEzpTRIPLE FLAMEiLETTER -ApApBAqHApCAqHApDAqDArHAqHAqZA",
   "pGAqHApHApJAqHApKAqHAqSSApLApMApNAqGAqNAqYApPAqHApRApSAqHAqSApTAqHAqSArHAqTArHApVApYApZAqHA",
   "iMARK DOUBLE SHADnPLUTAnSHADnTSHEGiSIGN ANUSVARAnJIHVAMULIYAnUPADHMANIYAnVISARGAjUBJOINER",
   "iTERMINAL MARK-1w2iVOWEL LENGTH MARKoSIGN AIuUtEtItOuEtUuEtVOCALIC LzcRbPcAdCEdGHETTIdRKLEhS",
   "gING HEARTcEAK-NO-EVIL MONKEYfERh WITH CANCELLATION STROKEnONE SOUND WAVEnTHREE SOUND WAVES",
   "fING HEAD IN SILHOUETTEdECH BALLOONeDBOATdSMILO SIGNcHERICAL ANGLEp OPENING LEFTyUPcIDERg WEB",
   "dRAL CALENDAR PADhNOTE PADhSHELLcLASHING SWEAT SYMBOLcONGEdOL OF THREADeNdRTS MEDAL",
   "dUTING WHALEbQUARE A OVER MiARUiMiNPEAiPAATOiRUHUAiUhBAARERUjRiEETAiIRUiORUTOiQiUSSYERU",
   "hC OVER KGiALjPiCiDiMj CUBEDkSQUAREDiOjRPORATIONiUPhDAjASUiBiESIiJiLiMj CUBEDkSQUAREDiORU",
   "hEEKAAiRA NAME HEISEIqMEIZIqREIWAqSYOUWAqTAISYOUjGiSUKUUDOiVhFMiOOTjUR CORNERShGALjNMAjRONiB",
   "iHZiIGAjNIIjRUDAAiPAiURAMUnTONiYhHAjITUiEKUTAARUjRUTUiGiIRAGANA HOKAiONjONkRUiPjAiUARADDOjIITO",
   "jRANiZhIMAGE OFp OR EQUAL TOtNOT EQUAL TOiNjINGUjTIiUhK OHMiAjIRIjRATTOkORIIiBiCALiEESUiGiHZ",
   "iIROlGURAMUlMEETORUlWATTOiKiLiMj CAPITALlUBEDkSQUAREDiOOPOjRUNAiPAiTiUROONEkUZEIROiViWiYURII",
   "hLEFT OPEN BOX OPERATORiMiNiOGjZENGEiXhM CUBEDjOHMkVER Sp SQUAREDjSQUAREDiAjHHAjIKUROkRUjNSYON",
   "jRUKUiBj SMALLiEETORUjGAlTONiGiHZiIKURONjLjRIlBAARUiLiMj CUBEDkSQUAREDiOLiPAiSiU AkFkGkLkMkSkV",
   "kWiVj MEGAiWj MEGAhNAjNOiFiMiOTTOiSiViWhONSUiOMUiRIGINAL OFs OR EQUAL TOwNOT EQUAL TOiVhPA",
   "j AMPSjASENTOkTUiCiEEZIjNIHIkSUjSOiFiHiIASUTORUjKOkURUiMiOINTOjNDOjSITION INDICATORiPMiRiSiViW",
   "hRADk OVER Sr SQUAREDiEMUjNTOGENiIGHT OPEN BOX OPERATORjRAjTTORUiOOTiUPIIjUBURUhSAIKURUjNTIIMU",
   "iENTIlOiIRINGUiRiVhTARGETiHZiONhUONhV OVER MhWATTOiBiITH BOTTOM HALF BLACKmCONTOURED OUTLINE",
   "mDIAGONAL CROSSHATCH FILLmHORIZONTAL FILLmLEFT HALF BLACKnOWER LEFT DIAGONAL HALF BLACK",
   "sRIGHT DIAGONAL HALF BLACKmORTHOGONAL CROSSHATCH FILLmRIGHT HALF BLACKmTOP HALF BLACK",
   "mUPPER LEFT DIAGONAL HALF BLACKxTO LOWER RIGHT FILLsRIGHT DIAGONAL HALF BLACK",
   "yTO LOWER LEFT FILLmVERTICAL FILLhYAADOkRUiUANgD ASTERISKiCJK UNIFIED IDEOGRAPH-4E00zi9zh2D",
   "zh8CzhA4zf518Dzg21Dzh4Dzh72zg3CCzhF3zg408zh39zg5B6zg8F0zg91Azh29zgB57zgDE6zgF8Czf624Bzh53zh95",
   "zg307zh55zg599zhB0zg620zg708zi9zgE80zgF14zf7121zg51Fzh33zg981zgA7AzgD42zf89E3zgCA9zgD70zf904A",
   "zg14DjLjOOLiDOT OPERATORiEIGHT KiFALLING DIAGONAL SLASHjIVE POINT ONEjOUR DOT PUNCTUATIONnK",
   "jREEiHCjDRjI-RESjViIDiKATAKANA DErKOKOrSAjEYiLATIN CAPITAL LETTER AzeBzeCzeDzeEzeFzeGzeHzeIzeJ",
   "zeKzeLzeMzeNzeOzePzeQzeRzeSzeTzeUzeVzeWzeXzeYzeZoSMALL LETTER DjOGICAL ANDqORkSSLESSiMINUSjV",
   "iNEWjGiOKjNE HUNDRED TWENTY PiPLUSjPViRISING DIAGONAL SLASHiSALTIREjDjECOND SCREEN",
   "kVEN POINT ONEjHVjIXTY PjMALL CIRCLEjOSjQUAREjSiTHREE DjIMESjWENTY-TWO POINT TWOkO KiUHD",
   "jP WITH EXCLAMATION MARKiVODjSiWCeT BLACK RIGHTWARDS ARROWdIDbS2c3cAbTcADIUMdFF OF AESCULAPIUS",
   "jHERMESdMPED ENVELOPEdNDING PERSONdR AND CRESCENTfEQUALSfOF DAVIDgPERATORfWITH LEFT HALF BLACK",
   "kRIGHT HALF BLACKeT OF GUARDED AREAjHEADINGjPROTECTED AREAjSELECTED AREAkTRINGjTEXTdTION",
   "eUE OF LIBERTYcEAM LOCOMOTIVEfING BOWLdNOGRAPHIC FULL STOPdTHOSCOPEcICK FIGUREm LEANING LEFT",
   "vRIGHTnWITH ARMS RAISEDsDRESScOCK CHARTdPWATCHcRAIGHT RULERiNESSeWBERRY",
   "dESS OUTLINED WHITE STARdICTLY EQUIVALENT TOeNG TERMINATORcScUDIO MICROPHONEdFFED FLATBREADdPA",
   "cXbUBdSCRIPT EIGHTlQUALS SIGNkFIVElOURkLEFT PARENTHESISkMINUSkNINEkONEkPLUS SIGN",
   "kRIGHT PARENTHESISkSEVENlIXkTHREElWOkZEROeET ABOVE RIGHTWARDS ARROWnSUBSETpPERSEThOF",
   "j ABOVE ALMOST EQUAL TOqEQUALS SIGNqNOT EQUAL TOqTILDE OPERATORkOR EQUAL TOv WITH DOT ABOVE",
   "kWITH NOT EQUAL TOhWITH DOTmMULTIPLICATION SIGN BELOWmPLUS SIGN BELOWeTITUTEcCCEEDS",
   "i ABOVE ALMOST EQUAL TOpEQUALS SIGNpNOT ALMOST EQUAL TOtEQUAL TOpSINGLE-LINE EQUALS SIGN",
   "zcNOT EQUAL TOjBUT NOT EQUIVALENT TOjOR EQUAL TOpIVALENT TOjUNDER RELATIONcMMATION BOTTOMkTOP",
   "kWITH INTEGRALcNd BEHIND CLOUDeWITH FACEdDANESE AVAGRAHAkCONSONANT SIGN PAMINGKALzcNYAKRAzeIKU",
   "zcSANGAN MAzjWAkDIGIT EIGHTqFIVErOURqNINEqONEqSEVENrIXqTHREErWOqZEROkLETTER AsErBAsHArCArDArE",
   "sUrFAsINAL KxMrGArHArIrJArKAsHArLAsEUrMArNAsGAsYArOrPArQArRAsEUrSAsYArTArUrVArWArXArYArZA",
   "kPUNCTUATION BINDU BA SATANGAzdCAKRAzdDA SATANGAzdKA SATANGAzdLEU SATANGAzdPANGLONGzeURNAMA",
   "zdSURYAkSIGN PAMAAEHrNGLAYARtWISADsYECEKpVIRAMAkVOWEL SIGN PAMEPETxNAELAENGyEULEUNGyGHULU",
   "yOLONGyYUKUdFLOWERdRISEh OVER MOUNTAINSdSET OVER BUILDINGScPERHEROfSCRIPT EIGHTnQUALS SIGN",
   "mFIVEnOURmLATIN SMALL LETTER IzgNnEFT PARENTHESISmMINUSmNINEmONEmPLUS SIGNmRIGHT PARENTHESIS",
   "mSEVENnIXmTHREEnWOmZEROgET ABOVE LEFTWARDS ARROWpSUBSETrPERSET",
   "jBESIDE AND JOINED BY DASH WITH SUBSETqSUBSETjOFl ABOVE ALMOST EQUAL TOsEQUALS SIGN",
   "sNOT EQUAL TOsTILDE OPERATORmOR EQUAL TOx WITH DOT ABOVEmWITH NOT EQUAL TOjPRECEDING SOLIDUS",
   "jWITH DOToMULTIPLICATION SIGN BELOWoPLUS SIGN BELOWfVILLAINcRFACE INTEGRALeERcSHI",
   "dPENSION RAILWAYbWANdSH AMPERSAND ORNAMENTcIMMERcUNG DASHbYLOTI NAGRI LETTER AuBHOvOuCHOvO",
   "uDDHOwOvHOvOuEuGHOvOuHOuIuJHOvOuKHOvOuLOuMOuNOuOuPHOvOuROvROuSOuTHOvOvTHOwOuUnPOETRY MARK-1z2",
   "z3z4nSIGN ALTERNATE HASANTAtNUSVARAsDVISVARAsHASANTAnVOWEL SIGN AyEyIyOOyU",
   "cMBOL FOR ACKNOWLEDGElBACKSPACEmELLlCANCELnRRIAGE RETURNlDATA LINK ESCAPEmELETEr FORM TWO",
   "nVICE CONTROL FOURzbONEzbTHREEzcWOlEND OF MEDIUMsTEXTtRANSMISSIONzf BLOCKnQUIRYmSCAPE",
   "lFILE SEPARATORmORM FEEDlGROUP SEPARATORlHORIZONTAL TABULATIONlLINE FEEDlMARKS CHAPTER",
   "lNEGATIVE ACKNOWLEDGEnWLINEmULLlRECORD SEPARATORlSAMARITAN SOURCEmHIFT INrOUTmPACE",
   "mTART OF HEADINGuTEXTmUBSTITUTEv FORM TWOmYNCHRONOUS IDLElTYPE A ELECTRONICSlUNIT SEPARATOR",
   "lVERTICAL TABULATIONdMETRYcNdAGOGUEdCHRONOUS IDLEcRIAC ABBREVIATION MARKhBARREKH",
   "hCOLON SKEWED LEFTuRIGHTjNTRACTIONhDOTTED ZLAMA ANGULARuHORIZONTALhEND OF PARAGRAPHiSASA ABOVE",
   "nBELOWhFEMININE DOThHARKLEAN ASTERISCUSqMETOBELUSqOBELUSiBASA ABOVEnBELOWm-ESASA DOTTED",
   "iORIZONTAL COLONhLETTER ALAPHoBETHoDALATHpOTLESS DALATH RISHoEoFINAL SEMKATHoGAMALt GARSHUNI",
   "oHEqTHoKAPHoLAMADHoMALAYALAM BHAyJAyLLAzbLAyNGAzNAzbNAzYAyRAySSAyTTApIMoNUNoPEqRSIAN BHETH",
   "wDHALATHwGHAMALoQAPHoREVERSED PEpISHoSADHEpEMKATHpHINpOGDIAN FEwKHAPHwZHAINpUPERSCRIPT ALAPH",
   "oTAWpETHs GARSHUNIoWAWoYUDHs HEoZAINhMUSIChOBLIQUE LINE ABOVEuBELOWhPTHAHA ABOVEoBELOWoDOTTED",
   "hQUSHSHAYAhRBASA ABOVEnBELOWiUKKAKHAiWAHAhSUBLINEAR COLONw SKEWED LEFTzfRIGHTrFULL STOP",
   "jPRALINEAR COLONy SKEWED LEFTtFULL STOPhTHREE DOTS ABOVEsBELOWiWO VERTICAL DOTS ABOVEzBELOW",
   "hZQAPHA ABOVEoBELOWoDOTTEDeNGEaT-REXcSHIRTbABdLE TENNIS PADDLE AND BALLcCOcG AMPERSAND",
   "fPOSTROPHEfSTERISKeCIRCUMFLEX ACCENTfOLONgMMAiERCIAL ATeDIGIT EIGHTkFIVElOURkNINEkONEkSEVENlIX",
   "kTHREElWOkZEROfOLLAR SIGNeEQUALS SIGNfXCLAMATION MARKeFULL STOPeGRAVE ACCENTgEATER-THAN SIGN",
   "eHYPHEN-MINUSeLATIN CAPITAL LETTER AzBzCzDzEzFzGzHzIzJzKzLzMzNzOzPzQzRzSzTzUzVzWzXzYzZ",
   "kSMALL LETTER AxBxCxDxExFxGxHxIxJxKxLxMxNxOxPxQxRxSxTxUxVxWxXxYxZfEFT CURLY BRACKET",
   "jPARENTHESISjSQUARE BRACKETgSS-THAN SIGNfOW LINEeNUMBER SIGNePERCENT SIGNfLUS SIGN",
   "eQUESTION MARKgOTATION MARKeREVERSE SOLIDUSfIGHT CURLY BRACKETkPARENTHESISkSQUARE BRACKET",
   "eSEMICOLONfOLIDUSfPACEeTILDEeVERTICAL LINEdALOG LETTER AqRCHAIC RApBApDApGApHApIpKApLApMApNA",
   "qGApPApRApSApTApUpWApYAiSIGN PAMUDPODnVIRAMAiVOWEL SIGN ItUdBANWA LETTER AqBAqDAqGAqIqKAqLAqMA",
   "qNArGAqPAqSAqTAqUqWAqYAjVOWEL SIGN IuUcI LE LETTER ApIpUEoEpEpHoFAoHAoIoKApHAoLAoMAoNApGAoOpO",
   "oPApHAoQAoSAoTApHApONE-2t3t4t5t6pSAqHAoUpEoVAoXAoYAeTHAM COMBINING CRYPTOGRAMMIC DOT",
   "lNSONANT SIGN BAyFINAL NGAyHIGH RATHA OR LOW PAyLA TANG LAIzOW PAyMAzEDIAL LAzgRAySA",
   "jHORA DIGIT EIGHTuFIVEvOURuNINEuONEuSEVENvIXuTHREEvWOuZEROjLETTER AqBAqDAqEEqGREAT SAqHIGH CA",
   "wHAvFAvHAvKAwHAwXAvPAwHAvRATHAvSAwHAwSAvTAwHAvYAqIrIqLAsErLArOW CAvHAuFAuHAuKAvHAvXAuPAvHA",
   "uRATHAuSAuTAvHAuYArUEqMAqNArGArYAqOOqRAsNAsTArUEqUrUqWAjSIGN CAANGoDOKMAIoHANGpOYoKAANsKUUpEOW",
   "pHUEN TONE-3z4z5t-LUE KARANoMAI KANGw LAIsSAMsYAMOKoRA HAAMpEVERSED ROTATED RANAoSAKOTqTKAAN",
   "vKUUqWANoTONE-1t2oWIANGtWAAKjTHAM DIGIT EIGHTuFIVEvOURuNINEuONEuSEVENvIXuTHREEvWOuZERO",
   "jVOWEL SIGN AvAvEvIuEuIvIuMAI SATuOvA ABOVExBELOWvOvYuTALL AAvHAM AIuUvEvUwE",
   "eVIET LETTER HIGH BOvCHOwOvDOvFOvGOvHOvKHHOxOwOvLOvMOvNGOwOwYOvOvPHOwOvROvSOvTHOwOvVOvYO",
   "qLOW BOuCHOvOuDOuFOuGOuHOuKHHOwOvOuLOuMOuNGOvOvYOuOuPHOvOuROuSOuTHOvOuVOuYOjMAI KANGoHIT",
   "jSYMBOL HO HOIqKOI KOIsNqNUENGqSAMjTONE MAI EKsNUENGsSONGsTHOjVOWEL AAqMqNqUEqYpEpIqApOpUqAqE",
   "rAcKEOUT BOXdRI ABBREVIATION SIGNgDIGIT EIGHTmFIVEnOURmNINEmONEmSEVENnIXmTHREEnWOmZERO",
   "gLETTER AoAoIoRCHAIC KHAoUnBAoHAnCAoHAnDAoDApHAoHAnEnGAoHAnHAnIoInJAoHAnKAoHAnLAnMAnNAoGAoNA",
   "oYAnOnPAoHAnRAoRAnSAoHAnTAoHAoTApHAnUoUnVAnYAgSIGN ANUSVARAlNUKTAlVIRAMAnSARGAgVOWEL SIGN AAsI",
   "sUrErIsIrOrUsUcLLY MARK FIVElONEcMALEdIL AND ODD SIGNhS ABOVE SIGNhU LENGTH MARKgCREDIT SIGN",
   "hURRENT SIGNgDAY SIGNhEBIT SIGNhIGIT EIGHTmFIVEnOURmNINEmONEmSEVENnIXmTHREEnWOmZERO",
   "hRY CULTIVATION SIGNgFRACTION DOWNSCALING FACTOR KIIZHpONE EIGHTHyIETHtFIFTHuORTIETHtHALF-1y2",
   "tONE-HUNDRED-AND-SIXTIETHtQUARTERtSIXTEENTH-1ze2xY-FOURTHtTENTHuHIRTY-SECOND",
   "vREE-HUNDRED-AND-TWENTIETHuWENTIETHpTHREE EIGHTIETHSvQUARTERSvSIXTEENTHSzY-FOURTHSvTWENTIETHS",
   "gIN POSSESSION SIGNgLAND SIGNhETTER AoAoIoUnCAnEoEnHAnIoInJAnKAnLAoLApLAnMAnNAoGAoNApNAoYAnOoO",
   "nPAnRAoRAnSAoHAoSAnTAoTAnUoUnVAnYAgMONTH SIGNgNUMBER ONE HUNDREDrTHOUSANDnSIGNnTENgOM",
   "gPUNCTUATION END OF TEXTgRUPEE SIGNgSALT PAN SIGNhIGN AAZHAAKKUmNUSVARAlCEVITUlKAACUmURUNInZHI",
   "lMUKKURUNInTHALIYAnUVUZHAKKUlNELlPAARAMnNAMnTHAKKUmONlUZHAKKUlVAKAIYARAAnRAAKANmELImIRAMA",
   "nSARGAhPENT SIGNhTARTING FROM SIGNgTOTAL SIGNhRADITIONAL CREDIT SIGNsNUMBER SIGNgVOWEL SIGN AA",
   "sIsUrEsErIsIrOsOrUsUgWET CULTIVATION SIGNgYEAR SIGNcNABATA TREEdGERINEeSA DIGIT EIGHTnFIVEoOUR",
   "nNINEnONEnSEVENoIXnTHREEoWOnZEROhLETTER ACpQpWCqQqXqZpXpZoBAoCApHAoDApHAoECpQpXpZoFApINAL NG",
   "oGApHAoHApTAqTAoICpQpXpZoKApHAoLApONG UEXoMApCpQpXpZoNApGApHApYAoOCpQpXpZoPApHAoRAoSApHA",
   "qORT AWXuUEZoTApHApSAoUCpECqQqXqZpICqQqUCrQrXrZqXqZpQpXpZoVCpQpXpZoWAoXAoYAoZA",
   "eUT COMPONENT-001t2t3t4t5t6t7t8t9s10t1t2t3t4t5t6t7t8t9s20t1t2t3t4t5t6t7t8t9s30t1t2t3t4t5t6t7t8",
   "t9s40t1t2t3t4t5t6t7t8t9s50t1t2t3t4t5t6t7t8t9s60t1t2t3t4t5t6t7t8t9s70t1t2t3t4t5t6t7t8t9s80t1t2",
   "t3t4t5t6t7t8t9s90t1t2t3t4t5t6t7t8t9r100t1t2t3t4t5t6t7t8t9s10t1t2t3t4t5t6t7t8t9s20t1t2t3t4t5t6",
   "t7t8t9s30t1t2t3t4t5t6t7t8t9s40t1t2t3t4t5t6t7t8t9s50t1t2t3t4t5t6t7t8t9s60t1t2t3t4t5t6t7t8t9s70",
   "t1t2t3t4t5t6t7t8t9s80t1t2t3t4t5t6t7t8t9s90t1t2t3t4t5t6t7t8t9r200t1t2t3t4t5t6t7t8t9s10t1t2t3t4",
   "t5t6t7t8t9s20t1t2t3t4t5t6t7t8t9s30t1t2t3t4t5t6t7t8t9s40t1t2t3t4t5t6t7t8t9s50t1t2t3t4t5t6t7t8t9",
   "s60t1t2t3t4t5t6t7t8t9s70t1t2t3t4t5t6t7t8t9s80t1t2t3t4t5t6t7t8t9s90t1t2t3t4t5t6t7t8t9r300t1t2t3",
   "t4t5t6t7t8t9s10t1t2t3t4t5t6t7t8t9s20t1t2t3t4t5t6t7t8t9s30t1t2t3t4t5t6t7t8t9s40t1t2t3t4t5t6t7t8",
   "t9s50t1t2t3t4t5t6t7t8t9s60t1t2t3t4t5t6t7t8t9s70t1t2t3t4t5t6t7t8t9s80t1t2t3t4t5t6t7t8t9s90t1t2",
   "t3t4t5t6t7t8t9r400t1t2t3t4t5t6t7t8t9s10t1t2t3t4t5t6t7t8t9s20t1t2t3t4t5t6t7t8t9s30t1t2t3t4t5t6",
   "t7t8t9s40t1t2t3t4t5t6t7t8t9s50t1t2t3t4t5t6t7t8t9s60t1t2t3t4t5t6t7t8t9s70t1t2t3t4t5t6t7t8t9s80",
   "t1t2t3t4t5t6t7t8t9s90t1t2t3t4t5t6t7t8t9r500t1t2t3t4t5t6t7t8t9s10t1t2t3t4t5t6t7t8t9s20t1t2t3t4",
   "t5t6t7t8t9s30t1t2t3t4t5t6t7t8t9s40t1t2t3t4t5t6t7t8t9s50t1t2t3t4t5t6t7t8t9s60t1t2t3t4t5t6t7t8t9",
   "s70t1t2t3t4t5t6t7t8t9s80t1t2t3t4t5t6t7t8t9s90t1t2t3t4t5t6t7t8t9r600t1t2t3t4t5t6t7t8t9s10t1t2t3",
   "t4t5t6t7t8t9s20t1t2t3t4t5t6t7t8t9s30t1t2t3t4t5t6t7t8t9s40t1t2t3t4t5t6t7t8t9s50t1t2t3t4t5t6t7t8",
   "t9s60t1t2t3t4t5t6t7t8t9s70t1t2t3t4t5t6t7t8t9s80t1t2t3t4t5t6t7t8t9s90t1t2t3t4t5t6t7t8t9r700t1t2",
   "t3t4t5t6t7t8t9s10t1t2t3t4t5t6t7t8t9s20t1t2t3t4t5t6t7t8t9s30t1t2t3t4t5t6t7t8t9s40t1t2t3t4t5t6t7",
   "t8t9s50t1t2t3t4t5t6t7t8t9s60t1t2t3t4t5t6t7t8hITERATION MARKcPE CARTRIDGEfDRIVEcURUScXI",
   "bEACUP WITHOUT HANDLEdPOTdR-OFF CALENDAReDROP-BARBED RIGHTWARDS ARROWjSPOKED ASTERISKcDDY BEAR",
   "cLEPHONE LOCATION SIGNkON TOP OF MODEMkRECEIVERs WITH PAGEnORDERkSIGNeSCOPEeVISION",
   "dUGU AI LENGTH MARKhDIGIT EIGHTnFIVEoOURnNINEnONEnSEVENoIXnTHREEoWOnZERO",
   "hFRACTION DIGIT ONE FOR EVEN POWERS OF FOURzfODD POWERS OF FOURwTHREE FOR EVEN POWERS OF FOUR",
   "zhODD POWERS OF FOURxWO FOR EVEN POWERS OF FOURzfODD POWERS OF FOUR",
   "wZERO FOR ODD POWERS OF FOURhLENGTH MARKjTTER ApApIpUoBApHAoCApHAoDApDAqHApHApZAoEpEoGApHAoHA",
   "oIpIoJApHAoKApHAoLApLAqLAoMAoNAqKAARA POLLUpGApNApYAoOpOoPApHAoRApRAqRAoSApHApSAoTApHApSApTA",
   "qHAoUpUoVApOCALIC LxLwRxRoYAhSIGN ANUSVARAnVAGRAHAmCANDRABINDUnOMBINING ANUSVARA ABOVE",
   "wCANDRABINDU ABOVEmNUKTAmSIDDHAMmTUUMUmVIRAMAoSARGAhVOWEL SIGN AAtItUsEtEsItIsOtOsUtU",
   "sVOCALIC LzcLzbRzcRcNGE SIGNdNIS RACQUET AND BALLdTcST TUBEcTRAGRAM FOR ACCUMULATIONpDVANCE",
   "pGGRAVATIONpSCENToBARRIERpOLD RESOLUTIONpRANCHING OUToCENTREpHANGEpLOSED MOUTHtNESSsURE",
   "pOMPLETIONtIANCEqNSTANCYrTACTsENTIONsRARIETYoDARKENINGpECISIVENESSqFECTIVENESS OR DISTORTION",
   "qPARTUREpIFFICULTIESqMINISHMENTrMINGqVERGENCEpOUBTpUTIESoEASEpMBELLISHMENTpNCOUNTERSqDEAVOUR",
   "qLARGEMENTpTERNITYpXHAUSTIONoFAILUREpLIGHTpOLLOWINGqSTERINGpULL CIRCLEsNESSoGATHERINGx IN",
   "pOING TO MEETpREATNESSpUARDEDNESSoHARDNESSpOLDING BACKoINCREASEqNERoJOYoKEEPING SMALLpINSHIP",
   "oLABOURINGqW OR MODELpEGIONoMASSINGpEASUREpIREDoON THE VERGEpPPOSITIONoPACKINGqTTERN",
   "pENETRATIONpURITYoREACHqLEASEqSIDENCEsSTANCErPONSEpITUALoSEVERANCEpINKINGpTOPPAGErVEqRENGTH",
   "oUNITYoVASTNESS OR WASTINGoWAITINGqTCHoYOUTHFULNESSbHAANA AABAAFILIiBAFILIhEBEFILIiEBEEFILI",
   "iYBEYFILIhIBIFILIhLETTER AINUpLIFUoBAAoCHAVIYANIoDAADHUqVIYANIpHAALUoFAAFUoGAAFUpHAINU",
   "pNAVIYANIoHAApHAAoJAVIYANIoKAAFUpHAAoLAAMUpHAVIYANIoMEEMUoNAApOONUoPAVIYANIoQAAFUoRAAoSAADHU",
   "pEENUpHAVIYANIqEENUoTAVIYANIpHAAsLUpOpTAAoVAAVUoWAAVUoYAAoZAAqVIYANIpOhOABOAFILIiBOFILI",
   "iOBOOFILIhSUKUNhUBUFILIdI CHARACTER ANGKHANKHUpBO BAIMAIpCHO CHANxGvINGvOEpDO CHADAsDEKpFO FA",
   "uNrNGMANpHO HIPsNOKHUKpKHO KHAIvONvUATvWAItRAKHANGsMUTqO KAIpLAKKHANGYAOqO CHULAsLINGqU",
   "pMAI CHATTAWAtEKtHAN-AKATtTHOuRIsTAIKHUsYAMOKqO MApNGO NGUqIKHAHITqO NENtUpO ANGpPAIYANNOI",
   "qHINTHUrO PHANvUNGtSAMPHAOqO PLApRO RUAqUpSARA AvAvEvI MAIMALAIzcUANvMuEuIvIuOuUvEwEvUqO RUSI",
   "sSALAtOtUApTHANTHAKHATrO NANGMONTHOtPHUTHAOtTHAHANwNvONGvUNGqO PATAKsTAOpWO WAENpYAMAKKAN",
   "qO YAKtINGgURRENCY SYMBOL BAHTfDIGIT EIGHTlFIVEmOURlNINElONElSEVENmIXlTHREEmWOlZERO",
   "cERE DOES NOT EXISTgEXISTSfFOREeMODYNAMICgMETERcIN GREEK CROSSfSALTIREgPACEeKING FACE",
   "dRD PLACE MEDALcONG SANDALdUGHT BALLOONcREE BUTTON MOUSEgCONSECUTIVE EQUALS SIGNS",
   "gDIMENSIONAL ANGLEhOT PUNCTUATIONgLEFTWARDS ARROWShINES CONVERGING LEFTxRIGHT",
   "gNETWORKED COMPUTERSgPOINTED BLACK STARgRAYS ABOVElBELOWlLEFTlRIGHThIGHTWARDS ARROWS",
   "gSPEECH BUBBLESf-D BOTTOM-LIGHTED RIGHTWARDS ARROWHEAD",
   "iLEFT-LIGHTED DOWNWARDS EQUILATERAL ARROWHEADiRIGHT-LIGHTED UPWARDS EQUILATERAL ARROWHEAD",
   "iTOP-LIGHTED LEFTWARDS EQUILATERAL ARROWHEADuRIGHTWARDS ARROWHEADzgEQUILATERAL ARROWHEAD",
   "gEM DASHgPER-EM SPACEcUMBS DOWN SIGNhUP SIGNdNDER CLOUD AND RAINhSTORM",
   "bIBETAN ASTROLOGICAL SIGN -KHYUD PAzbSDONG TSHUGSzcGRA GCAN -CHAR RTAGS",
   "iCANTILLATION SIGN CANG TE-UzbHEAVY BEATzbLIGHT BEATzbSBUB -CHALiDIGIT EIGHToFIVEpOUR",
   "oHALF EIGHTtFIVEuOURtNINEtONEtSEVENuIXtTHREEuWOtZEROoNINEoONEoSEVENpIXoTHREEpWOoZEROiKU RU KHA",
   "r BZHI MIG CANiLETTER -ApApBAqHApCAqHApDAqDArHAqHAqZArHApFIXED-FORM RApGAqHApHApJApKAqHAqKA",
   "qSSApLApMApNAqGAqNAqYApPAqHApRAqRApSAqHAqSApTAqHAqSArHAqTArHApWApYApZAqHA",
   "jOGOTYPE SIGN CHAD RTAGSwLHAG RTAGSiMARK ANG KHANG GYASzONnBKA- SHOG GI MGO RGYANxYIG MGO",
   "oSDUS RTAGSpKA- SHOG GI MGO RGYANqUR YIG MGOnCARET -DZUD RTAGS BZHI MIG CANzgME LONG CAN",
   "tYIG MGO PHUR SHAD MAoHE MGOoLOSING BRDA RNYING YIG MGO SGAB MAvYIG MGO SGAB MA",
   "nDELIMITER TSHEG BSTARnGTER TSHEGsYIG MGO -UM GTER TSHEG MAzfRNAM BCAD MAzbTRUNCATED A",
   "oUG RTAGS GYASzONnHALANTAnINITIAL BRDA RNYING YIG MGO MDUN MAvYIG MGO MDUN MA",
   "pTERSYLLABIC TSHEGnLEADING MCHAN RTAGSnMNYAM YIG GI MGO RGYANnNGAS BZUNG NYI ZLAySGOR RTAGS",
   "oYIS SHADsTSHEGx SHADnPALUTAnRGYA GRAM SHADoIN CHEN SPUNGS SHADnSBRUL SHADoHAD",
   "nTRAILING MCHAN RTAGSoSA -PHRUpHEG SHADnYIG MGO TSHEG SHAD MAiSIGN GRU CAN RGYINGSrMED RGYINGS",
   "nINVERTED MCHU CANnLCE TSA CANpI RTAGSnMAR TSHESoCHU CANnNYI ZLA NAA DAnRDEL DKAR GCIGyNYIS",
   "ySUMxRDEL NAGsNAG GCIGxNYISxSUMwRDEL DKARoJES SU NGA ROoNAM BCADnSNA LDANnYANG RTAGSpR TSHES",
   "jUBJOINED LETTER -AzAzBAzbHAzCAzbHAzDAzbDAzcHAzbHAzbZAzcHAzFIXED-FORM RAzlWAzlYAzGAzbHAzHAzJA",
   "zKAzbHAzbSSAzLAzMAzNAzbGAzbNAzbYAzPAzbHAzRAzSAzbHAzbSAzTAzbHAzbSAzcHAzbTAzcHAzWAzYAzZAzbHA",
   "sSIGN INVERTED MCHU CANxLCE TSA CANxMCHU CANjYLLABLE OMkMBOL DRIL BUpNOR BUv BZHI -KHYIL",
   "wGSUM -KHYILwNYIS -KHYILpPADMA GDANqHUR PApRDO RJEw RGYA GRAMiVOWEL SIGN AAtEuEtIuItOuO",
   "tREVERSED IzeItUuUtVOCALIC LzdLzcRzdRcCKETcE OVER INFINITYcFINAGH CONSONANT JOINER",
   "jLETTER AHAGGAR YAZHrYER YAGHqBERBER ACADEMY YAHziJqTAWELLEMET YAZrUAREG YAGHzbNzHzKzbHzNGzQ",
   "zZHqYAsAsBtHsCHsDtDuHtHsFsGtHuHsHtHsJsKtHuHsLsMsNsPsQsRtRsStHtSsTtHtTsVsWsYsZtHtZrEsYrIrOrU",
   "jMODIFIER LETTER LABIALIZATION MARKjSEPARATOR MARKcGERf FACEdHT TRIFOLIATE SNOWFLAKEcLDE",
   "f OPERATORo ABOVE LEFTWARDS ARROWvRIGHTWARDS ARROWpWITH DOT ABOVEuRISING DOTSgWITH DOT ABOVE",
   "pBELOWlRING ABOVEcMER CLOCKeS WITH LEFT HALF BLACKlRIGHT HALF BLACKcNY",
   "e TWO DOTS OVER ONE DOT PUNCTUATIONcRED FACEdHUTA ABBREVIATION SIGNjNJIiDIGIT EIGHToFIVEpOUR",
   "oNINEoONEoSEVENpIXoTHREEpWOoZEROiGVANGiLETTER AqAqIqUpBAqHApCAqHApDAqDArHAqHApEpGAqHApHApIqI",
   "pJAqHApKAqHApLApMApNAqGAqNAqYApOpPAqHApRApSAqHAqSApTAqHAqTArHApUqUpVAqOCALIC LyLxRyRpYAiOM",
   "iSIGN ANUSVARAoVAGRAHAnCANDRABINDUnNUKTAnVIRAMApSARGAiVOWEL SIGN AAuIuUtEtIuItOtSHORT EzOtUuU",
   "tVOCALIC LzdLzcRzdRdONIAN SIGN CAPITAL EToETbOILETcKYO TOWERcMATOcNGUEcOLBOXdTHfBRUSH",
   "cP ARC ANTICLOCKWISE ARROWzc WITH PLUSiCLOCKWISE ARROW WITH MINUSeCURLY BRACKET",
   "eHALF BLACK CIRCLEjINTEGRALjLEFT PARENTHESISjRIGHT PARENTHESISjSECTION SIGNgTeLEFT CORNERkROP",
   "jHALF BRACKETePARENTHESISeRIGHT CORNERlROPkHALF BRACKETeSQUARE BRACKETeTORTOISE SHELL BRACKET",
   "eWITH UPWARDS ARROW ABOVEcRTOISE SHELL BRACKETED CJK UNIFIED IDEOGRAPH-4E09zy8Czw52DDzxB89",
   "zw6253zx557zx72Czw70B9zx6D7zLATIN CAPITAL LETTER ScTAL RUNOUTdO LETTER AnEmBAnREATHY AEuEvOuI",
   "vUmCHAmDAmEnOmGAmHAmInUmJAmKAmLAmMAmNAnGAmOmPAmRAmSAmTAmUmWAmYAfSIGN RISING TONEbRACKBALLeTOR",
   "dDE MARK SIGNdINdMe CARdNSPLUTOfVERSAL INTERSECTIONcIANGLE WITH DOT ABOVEoROUNDED CORNERS",
   "oSERIFS AT BOTTOMoUNDERBARi-HEADED RIGHTWARDS ARROWgULAR BULLETlFLAG ON POSTlRULERdCOLON",
   "dDENT EMBLEMdGRAM FOR EARTHmFIREmHEAVENmLAKEmMOUNTAINmTHUNDERmWATERnINDdPLE COLON OPERATOR",
   "hDAGGERhHORIZONTAL BAR WITH DOUBLE VERTICAL STROKEzcTRIPLE VERTICAL STROKEhINTEGRAL",
   "hNESTED GREATER-THANoLESS-THANhPLUSiRIMEhSOLIDUS BINARY RELATIONhTILDE",
   "hVERTICAL BAR BINARY RELATIONuDELIMITERuRIGHT TURNSTILEuWITH HORIZONTAL STROKEcOLLfEYBUSdPHY",
   "eICAL DRINKjFISHcUEe LIGHT MOON ARTAdMPETbUGRIK SIGNcLIPcMBLER GLASScRKEYeISH LIRA SIGN",
   "dNED AMPERSANDiNGLEhBLACK PENTAGONnSHOGI PIECEhCAPITAL FiOMMAhDAGGERiIGIT THREEoWO",
   "hGREEK SMALL LETTER IOTAhNORTH EAST POINTING LEAFnWEST POINTING LEAFjT SIGNhOK HAND SIGN",
   "hSANS-SERIF CAPITAL GzbLzbYiEMICOLONiMALL FiOUTH EAST POINTING LEAFnWEST POINTING LEAF",
   "hWHITE SHOGI PIECEdTLEbWELVE POINTED BLACK STARcISTED RIGHTWARDS ARROWS",
   "cO ASTERISKS ALIGNED VERTICALLYeBUTTON MOUSEeCONSECUTIVE EQUALS SIGNSeDOT LEADERiPUNCTUATION",
   "hS OVER ONE DOT PUNCTUATIONeHEARTSeINTERSECTING LOGICAL ANDzOReJOINED SQUARES",
   "eLOGICAL AND OPERATORmOR OPERATOReMEN HOLDING HANDSeSPEECH BUBBLESeWOMEN HOLDING HANDS",
   "d-EM DASHaUGARITIC LETTER AINrLPAqBETAqDELTArHALqGAMLArHAINqHOsTAqIqKAFrHAqLAMDAqMEMqNUNqPU",
   "qQOPAqRASHAqSADEsMKArHINrSUqTETrHANNArOqUqWOqYODqZETArUjWORD DIVIDERbMBRELLAi ON GROUND",
   "jWITH RAIN DROPSbNAMUSED FACEcCERTAINTY SIGNcDERTIEdO SYMBOLcICORN FACEdON",
   "f ABOVE BAR ABOVE INTERSECTIONmINTERSECTIONgBESIDE AND JOINED WITH UNIONgWITH LOGICAL OR",
   "lMINUS SIGNlOVERBARdT SEPARATOReED SYMBOLdVERSAL RECYCLING SYMBOLcMARRIED PARTNERSHIP SYMBOL",
   "bP ARROW THROUGH CIRCLEiHEADm BETWEEN TWO HORIZONTAL BARSnIN A RECTANGLE BOX",
   "dBARB LEFT DOWN BARB LEFT HARPOONxRIGHT HARPOONiRIGHT DOWN BARB LEFT HARPOONyRIGHT HARPOON",
   "dDOWN ARROWn WITH BASEiBLACK ARROWiDOUBLE ARROWiSANS-SERIF ARROWiTRIANGLE-HEADED ARROW",
   "iWHITE ARROWdFISH TAILdRIGHT DIAGONAL ELLIPSISdTACKh WITH CIRCLE ABOVEc-POINTING AIRPLANE",
   "mMILITARY AIRPLANEmRED TRIANGLEmSMALL AIRPLANEsRED TRIANGLEmTRIANGLE WITH LEFT HALF BLACK",
   "zbRIGHT HALF BLACKcPER AND LEFT AND LOWER TRIANGULAR THREE QUARTERS BLOCK",
   "lOWER ONE EIGHTH BLOCKqTRIANGULAR HALF BLOCKkRIGHT AND LOWER TRIANGULAR THREE QUARTERS BLOCK",
   "gBLADE SCISSORSgFIVE EIGHTHS BLOCKgHALF BLOCKq AND LOWER HALF INVERSE MEDIUM SHADElCIRCLE",
   "lINVERSE MEDIUM SHADE AND LOWER HALF BLOCKtWHITE CIRCLElMEDIUM SHADE",
   "gLEFT BLOCK DIAGONAL LOWER CENTRE TO LOWER MIDDLE RIGHTzrUPPER MIDDLE RIGHTzxRIGHT",
   "zhLEFT TO LOWER MIDDLE RIGHTzpUPPER CENTREzvMIDDLE RIGHTzhMIDDLE LEFT TO UPPER CENTRE",
   "zzdMIDDLE RIGHTzzdRIGHTzbUPPER MIDDLE LEFT TO UPPER CENTREzzdRIGHTlCORNER WITH DOT",
   "lOR LOWER RIGHT CURLY BRACKET SECTIONlQUADRANT CIRCULAR ARClTO LOWER RIGHT FILLmRIANGLE",
   "rULAR MEDIUM SHADEgONE EIGHTH BLOCKkQUARTER BLOCK",
   "gRIGHT BLOCK DIAGONAL LOWER MIDDLE LEFT TO LOWER CENTREzzeRIGHT",
   "zcUPPER CENTRE TO LOWER MIDDLE RIGHTzyRIGHTzsUPPER MIDDLE RIGHTziLEFT TO LOWER CENTRE",
   "zwMIDDLE RIGHTzqUPPER MIDDLE RIGHTziMIDDLE LEFT TO LOWER CENTREzzeMIDDLE RIGHTzzeRIGHT",
   "mDROP-SHADOWED WHITE SQUAREmOR LOWER LEFT CURLY BRACKET SECTIONmPENCILmQUADRANT CIRCULAR ARC",
   "mSHADOWED WHITE CIRCLEzcSQUAREmTO LOWER LEFT FILLnRIANGLEsULAR MEDIUM SHADE",
   "gSEVEN EIGHTHS BLOCKgTHREE EIGHTHS BLOCKmQUARTERS BLOCKhRIANGULAR ONE QUARTER BLOCK",
   "cSIDE-DOWN FACEcWARDS ANCORAjRROWn AND RIGHT ONE EIGHTH BLOCKoFROM BAR",
   "oLEFTWARDS OF DOWNWARDS ARROWoTO BARoWITH DOUBLE STROKEtEQUILATERAL ARROWHEAD",
   "tHORIZONTAL STROKEtLARGE TRIANGLE ARROWHEADtMEDIUM TRIANGLE ARROWHEADtNOTCHED TAIL",
   "tSMALL EQUILATERAL ARROWHEADzTRIANGLE ARROWHEADtTIP LEFTWARDSxRIGHTWARDSiBLACK ARROW",
   "oCIRCLED WHITE ARROWiCOMPRESSED ARROWiDASHED ARROWjOUBLE ARROWiFINGER-POST ARROW",
   "iHARPOON WITH BARB LEFT BESIDE DOWNWARDS HARPOON WITH BARB RIGHT",
   "znUPWARDS HARPOON WITH BARB RIGHTzgFROM BARzgTO BARzfWARDSzbRIGHT FROM BARzhTO BARzgWARDS",
   "jEAVY ARROWoCOMPRESSED ARROWiPAIRED ARROWSiQUADRUPLE ARROWiROCKETiSANS-SERIF ARROW",
   "jQUARED ARROWiTRIANGLE ARROWHEADq-HEADED ARROWze LEFTWARDS OF DOWNWARDS TRIANGLE-HEADED ARROW",
   "zfTO BARzfWITH BOLD SHAFTzkDOUBLE HORIZONTAL STROKEzkHEAVY SHAFTzkLONG TIP LEFTWARDS",
   "ztRIGHTWARDSzkMEDIUM SHAFTzkNARROW SHAFTzkVERY HEAVY SHAFTyDASHED ARROWyPAIRED ARROWS",
   "lPLE ARROWjWO HEADED ARROWl-HEADED ARROW FROM SMALL CIRCLEzWITH TRIANGLE ARROWHEADS",
   "iWHITE ARROWt FROM BARzd WITH HORIZONTAL BARuON PEDESTALzg WITH HORIZONTAL BARzmVERTICAL BAR",
   "uWITHIN TRIANGLE ARROWHEADoDOUBLE ARROWzb ON PEDESTALbRANUSbSaVAI COMMAeDIGIT EIGHTkFIVElOUR",
   "kNINEkONEkSEVENlIXkTHREElWOkZEROeFULL STOPeQUESTION MARKeSYLLABLE AoNnBAoEpEoHApEqEpIpOqOpUoI",
   "oOpOoUnCAoEpEoIoOpOoUnDAoEpEoHApEqEpHAqErEqIqOrOqUpIpOqOpUoIoOpOoUnEoEpNoNnFAoEpEoIoOpOoUnGA",
   "oBApEqEqNpIpOqNqOpUoEpEpNoIoOpOoUnHApNoEpEpNoIpNoOpNpOoUpNnIoNnJAoEpEoIoOpOoUnKApNoEpEoIoOpO",
   "oPAqNpEqEqNpIpOqOpUoUnLAoEpEpNGTHENERoIoOpOoUnMAoBApEqEpIpOqOpUoEpEoGBAqErEqIqOrOqUoIoOpOoUnNA",
   "oDApEqEpIpOqLE DOtFAtKAtMAtSOOqOpUoEpEoGpANpENpGAqErErNqIqOrOqUpONoIoJApEqEpIpOqOpUoOpOoUoYApE",
   "qEpIpOqOpUnOoNoOpNnPAoEpEoIoOpOoUnRAoEpEoIoOpOoUnSAoEpEoHApEqEpIpOqOpUoIoOpOoUnTAoEpEoHApEqEpI",
   "pOqOpUoIoOpOoUnUoNnVAoEpEoIoOpOoUnWApNoEpEqNpNoIpNoOpNpOqNoUpNnYAoEpEoIoOpOoUnZAoEpEoHApEqEpI",
   "pOqOpUoIoOpOoUgMBOL BANGlDANGmO-OnONGlFAAmEENGlJONGlKEENGmUNGlNIIlTAAmINGmONGcMPIRE",
   "cRIATION SELECTOR-1u0v0v1v2v3v4v5v6v7v8v9u1v0v1v2v3v4v5v6v7v8v9u2v0v1v2v3v4v5v6v7v8v9u3v0v1v2",
   "v3v4v5v6v7v8v9u4v0v1v2v3v4v5v6v7v8v9u5v0v1v2v3v4v5v6v7v8v9u6v0v1v2v3v4v5v6v7v8v9u7v0v1v2v3v4v5",
   "v6v7v8v9u8v0v1v2v3v4v5v6v7v8v9u9v0v1v2v3v4v5v6v7v8v9t2u0v0v1v2v3v4v5v6v7v8v9u1v0v1v2v3v4v5v6v7",
   "v8v9u2v0v1v2v3v4v5v6v7v8v9u3v0v1v2v3v4v5v6v7v8v9u4v0v1v2v3v4v5v6v7v8v9u5v0v1v2v3v4v5v6u6u7u8u9",
   "t3u0u1u2u3u4u5u6u7u8u9t4u0u1u2u3u4u5u6u7u8u9t5u0u1u2u3u4u5u6u7u8u9t6u0u1u2u3u4u5u6u7u8u9t7u0u1",
   "u2u3u4u5u6u7u8u9t8u0u1u2u3u4u5u6u7u8u9t9u0u1u2u3u4u5u6u7u8u9bECTOR OR CROSS PRODUCT",
   "cDIC SIGN ANUSVARA ANTARGOMUKHAuBAHIRGOMUKHAuUBHAYATO MUKHAuVAMAGOMUKHAzg WITH TAIL",
   "mRDHAVISARGAmTIKRAMAlDOUBLE ANUSVARA ANTARGOMUKHAlHEXIFORM LONG ANUSVARAlJIHVAMULIYA",
   "lLONG ANUSVARAlNIHSHVASAlREVERSED VISARGA ANUDATTAzdUDATTAmOTATED ARDHAVISARGA",
   "mTHANG LONG ANUSVARAlTIRYAKlUPADHMANIYAlVISARGA ANUDATTAzc WITH TAILtSVARITAtUDATTAz WITH TAIL",
   "lYAJURVEDIC MIDLINE SVARITAgTONE ATHARVAVEDIC INDEPENDENT SVARITAlCANDRA ABOVEsBELOWlDOT BELOW",
   "nUBLE RING ABOVEsSVARITAlKARSHANAnTHAKA ANUDATTAlPRENKHAlRIGVEDIC KASHMIRI INDEPENDENT SVARITA",
   "nNG ABOVElSHARAlTHREE DOTS BELOWmRIPLE SVARITAmWO DOTS BELOW",
   "lYAJURVEDIC AGGRAVATED INDEPENDENT SVARITAwINDEPENDENT SVARITAwKATHAKA INDEPENDENT SVARITA",
   "zy SCHROEDERcRSICLEdTICAL BAR BESIDE RIGHT TRIANGLEnDOUBLE LEFT TURNSTILE",
   "nTRIPLE RIGHT TURNSTILEnWITH HORIZONTAL STROKEjELLIPSISjFOUR DOTSjIDEOGRAPHIC ITERATION MARK",
   "jKANA REPEAT MARKz LOWER HALFzbUPPER HALFvWITH VOICED SOUND MARKzs UPPER HALFjLINEn EXTENSION",
   "oWITH CIRCLE ABOVEzbBELOWtMIDDLE DOTjMALE WITH STROKE SIGNjONE EIGHTH BLOCK-2zb3zb4zb5zb6zb7",
   "jSIX DOTSjTAB KEYmULATIONt SETkILDEkRAFFIC LIGHTjZIGZAG LINEdY BOLD GREEK CROSS",
   "fHEAVY EIGHT POINTED BLACK STARrSPOKED ASTERISKlFIVE SPOKED ASTERISKlGREEK CROSS",
   "lREVERSE SOLIDUSlSALTIREmIX SPOKED ASTERISKmOLIDUSlWHITE CIRCLErSQUAREfMUCH GREATER-THAN",
   "kLESS-THANcSTAbIBRATION MODEcCTORY HANDcDEO CAMERAgGAMEfCASSETTE",
   "cETNAMESE ALTERNATE READING MARK CAzjNHAYdWDATA SQUAREcOLINcRGOcTHKUQI CAPITAL LETTER AyBBEzE",
   "yCEzHEyDEzHEyEzIyFEyGAyHAzHAyIzJEyJEyKAyLAzLAyMEyNEzJEyOyPEyQAyREySEzHEyTEzHEyUyVEyXEyYyZE",
   "jSMALL LETTER AwBBExEwCExHEwDExHEwExIwFEwGAwHAxHAwIxJEwJEwKAwLAxLAwMEwNExJEwOwPEwQAwREwSExHE",
   "wTExHEwUwVEwXEwYwZEbOIDED GREEK CROSScLCANOdLEYBALLdUME INTEGRALbS1d0e0e1e2e3e4e5e6e7e8e9d1e0",
   "e1e2e3e4e5e6e7e8e9d2e0e1e2e3e4e5e6e7e8e9d3e0e1e2e3e4e5e6e7e8e9d4e0e1e2e3e4e5e6e7e8e9d5e0e1e2e3",
   "e4e5e6e7e8e9d6e0e1e2e3e4e5e6e7e8e9d7e0e1e2e3e4e5e6e7e8e9d8e0e1e2e3e4e5e6e7e8e9d9e0e1e2e3e4e5e6",
   "e7e8e9c2d0e0e1e2e3e4e5e6e7e8e9d1e0e1e2e3e4e5e6e7e8e9d2e0e1e2e3e4e5e6e7e8e9d3e0e1e2e3e4e5e6e7e8",
   "e9d4e0e1e2e3e4e5e6e7e8e9d5e0e1e2e3e4e5e6d6d7d8d9c3d0d1d2d3d4d5d6d7d8d9c4d0d1d2d3d4d5d6d7d8d9c5",
   "d0d1d2d3d4d5d6d7d8d9c6d0d1d2d3d4d5d6d7d8d9c7d0d1d2d3d4d5d6d7d8d9c8d0d1d2d3d4d5d6d7d8d9c9d0d1d2",
   "d3d4d5d6d7d8d9bTcSbULCANUSdGAR FRACTION FIVE EIGHTHSvSIXTHSrOUR FIFTHSqONE EIGHTHuFIFTHuHALF",
   "uNINTHuQUARTERuSEVENTHvIXTHuTENTHvHIRDqSEVEN EIGHTHSqTHREE EIGHTHSwFIFTHSwQUARTERSrWO FIFTHS",
   "uTHIRDSqZERO THIRDSaWAFFLEcNCHO DIGIT EIGHTnFIVEoOURnNINEnONEnSEVENoIXnTHREEoWOnZEROhLETTER A",
   "pAqNrGpNGpUoBAoCAoDAoEpNoFAoGAoHAoIpNGoJAoKApHAoLApLHAoMAoNApGApYAoOpNqGoPApHAoRAoSApHAoTApHA",
   "pRApSAoUpENoVAoWAoYApIHoZAhNGUN SIGNhTONE KOIpNImTUPpNIdING CRESCENT MOON SYMBOL",
   "hGIBBOUS MOON SYMBOLcRANG CITI CAPITAL LETTER AzdMzdNGzdTzcBUzcDAzcEzdNNzeYzcGAzcHARzdIYOzdOLO",
   "zeRRzcIIzcKOzcNGAAzdUNGzcOzdDDzcPUzcSIIzdSUUzcTTEzcUCzdUzcVIYOzcWIzcYAzdOzdUzeJmDIGIT EIGHT",
   "sFIVEtOURsNINEsONEsSEVENtIXsTHREEtWOsZEROmNUMBER EIGHTYtFIFTYuORTYtNINETYtSEVENTYuIXTYtTEN",
   "uHIRTYuWENTYmOMmSMALL LETTER AzbMzbNGzbTzBUzDAzEzbNNzcYzGAzHARzbIYOzbOLOzcRRzIIzKOzNGAAzbUNGzO",
   "zbDDzPUzSIIzbSUUzTTEzUCzbUzVIYOzWIzYAzbOzbUzcJdNING SIGNcSTEBASKETcTCHdER BUFFALOgCLOSETgPOLO",
   "gWAVEfMELONcVE ARROW POINTING DIRECTLY LEFTzeRIGHTfDASHdING BLACK FLAGhHAND SIGNhWHITE FLAG",
   "dY DASHfLINEgOW LINEfOVERLINEcXING CRESCENT MOON SYMBOLhGIBBOUS MOON SYMBOLbEARY CAT FACEgFACE",
   "cDDINGdGE-TAILED RIGHTWARDS ARROWcIERSTRASS ELLIPTIC FUNCTIONdGHT LIFTERcST SYRIAC CROSSbHALE",
   "cEELf OF DHARMAfCHAIR SYMBOLcITE ARROW SHAFT WIDTH ONEyTWO THIRDSgBULLETgCHESS BISHOP",
   "s ROTATED NINETY DEGREESzcTWO HUNDRED SEVENTY DEGREESmEQUIHOPPERw ROTATED NINETY DEGREESmKING",
   "q ROTATED NINETY DEGREESzTWO HUNDRED SEVENTY DEGREESnNIGHTs ROTATED FORTY-FIVE DEGREES",
   "zcNINETY DEGREESzcONE HUNDRED THIRTY-FIVE DEGREESzcTHREE HUNDRED FIFTEEN DEGREES",
   "zdWO HUNDRED SEVENTY DEGREESzoTWENTY-FIVE DEGREESs-BISHOPtQUEENtROOKmPAWN",
   "q ROTATED NINETY DEGREESzTWO HUNDRED SEVENTY DEGREESmQUEENr ROTATED NINETY DEGREES",
   "zbTWO HUNDRED SEVENTY DEGREESmROOKq ROTATED NINETY DEGREESzTWO HUNDRED SEVENTY DEGREES",
   "mTURNED BISHOPtKINGuNIGHTtPAWNtQUEENtROOKhIRCLEm CONTAINING BLACK SMALL CIRCLEnWITH DOT RIGHT",
   "uWN ARROWsLOWER LEFT QUADRANTyRIGHT QUADRANTsTWO DOTSsUPPER LEFT QUADRANTyRIGHT QUADRANT",
   "hLUB SUIThONCAVE-SIDED DIAMONDzc WITH LEFTWARDS TICKziRIGHTWARDS TICKgDIAMOND",
   "n CONTAINING BLACK MEDIUM DIAMONDzgSMALL DIAMONDzgVERY SMALL DIAMONDoIN SQUAREoSUIT",
   "oWITH CENTRED DOThOWN POINTING BACKHAND INDEXuINDEXuLEFT HAND INDEXk-POINTING SMALL TRIANGLE",
   "uTRIANGLEhRAUGHTS KINGpMANgEXCLAMATION MARK ORNAMENTgFLAGk WITH HORIZONTAL MIDDLE BLACK STRIPE",
   "iORETTEjWERhOUR POINTED CUSPtSTARhROWNING FACEgHARD SHELL FLOPPY DISKhEARTl SUITjVY CHECK MARK",
   "mSALTIRE WITH ROUNDED CORNERSiXAGONhORIZONTAL ELLIPSEiURGLASSgLARGE SQUAREiTIN CROSS",
   "hEFT LANE MERGElPOINTING BACKHAND INDEXuINDEXk-POINTING POINTERuSMALL TRIANGLEuTRIANGLE",
   "hOZENGE CONTAINING BLACK SMALL LOZENGEgMEDIUM DIAMONDnLOZENGEnSMALL SQUAREoQUAREoTAR",
   "hOON SELENAgNIBgPARALLELOGRAMhENNANTjTAGONgQUESTION MARK ORNAMENTgRECTANGLE",
   "hIGHT POINTING BACKHAND INDEXvINDEXl-POINTING PENTAGONwOINTERvSMALL TRIANGLEvTRIANGLEgSCISSORS",
   "hESAME DOThHOGI PIECEhMALL LOZENGEmSQUAREnTARiILING FACEhPADE SUIThQUAREm BUTTON",
   "nCONTAINING BLACK MEDIUM SQUAREzfSMALL SQUAREzfVERY SMALL SQUAREnWITH CENTRE VERTICAL LINE",
   "sLEFTWARDS TICKtOWER LEFT QUADRANTyRIGHT QUADRANTsRIGHTWARDS TICKtOUNDED CORNERS",
   "sUPPER LEFT QUADRANTyRIGHT QUADRANTsVERTICAL BISECTING LINEhTARhUNj BEHIND CLOUDw WITH RAIN",
   "kWITH RAYSpSMALL CLOUDgTELEPHONEhOUCHTONE TELEPHONEhRAPEZIUM",
   "iIANGLE CONTAINING SMALL WHITE TRIANGLEhWO-WAY LEFT WAY TRAFFICgUP POINTING BACKHAND INDEX",
   "sINDEXi-POINTING CHEVRONsSMALL TRIANGLEsTRIANGLEzb WITH DOTgVERTICAL BARpELLIPSEpRECTANGLE",
   "jY SMALL SQUAREf-FEATHERED RIGHTWARDS ARROWbIDE-HEADED DOWNWARDS BARB ARROWwHEAVY BARB ARROW",
   "wLIGHT BARB ARROWwMEDIUM BARB ARROWwVERY HEAVY BARB ARROWmLEFTWARDS BARB ARROW",
   "wHEAVY BARB ARROWwLIGHT BARB ARROWwMEDIUM BARB ARROWwVERY HEAVY BARB ARROW",
   "mNORTH EAST BARB ARROWxHEAVY BARB ARROWxLIGHT BARB ARROWxMEDIUM BARB ARROW",
   "xVERY HEAVY BARB ARROWsWEST BARB ARROWxHEAVY BARB ARROWxLIGHT BARB ARROWxMEDIUM BARB ARROW",
   "xVERY HEAVY BARB ARROWmRIGHTWARDS BARB ARROWxHEAVY BARB ARROWxLIGHT BARB ARROW",
   "xMEDIUM BARB ARROWxVERY HEAVY BARB ARROWmSOUTH EAST BARB ARROWxHEAVY BARB ARROW",
   "xLIGHT BARB ARROWxMEDIUM BARB ARROWxVERY HEAVY BARB ARROWsWEST BARB ARROWxHEAVY BARB ARROW",
   "xLIGHT BARB ARROWxMEDIUM BARB ARROWxVERY HEAVY BARB ARROWmUPWARDS BARB ARROWuHEAVY BARB ARROW",
   "uLIGHT BARB ARROWuMEDIUM BARB ARROWuVERY HEAVY BARB ARROWcGGLY VERTICAL LINEcLTED FLOWER",
   "cND BLOWING FACEfCHIMEeOWdE GLASSdKING FACEcRED KEYBOARDbJbOLF FACEcMANf WITH BUNNY EARS",
   "fS BOOTShCLOTHEShHAThSANDALdENS SYMBOLcN SIGNcODcRD JOINERfSEPARATOR MIDDLE DOTdLD MAPdM",
   "dRIED FACEbRAPPED PRESENTcEATH PRODUCTdNCHdSTLERScITING HANDaX IN A RECTANGLE BOXb-RAY",
   "bIANGQI BLACK CANNONpHARIOToELEPHANToGENERALoHORSEoMANDARINoSOLDIERiRED CANNONnHARIOTmELEPHANT",
   "mGENERALmHORSEmMANDARINmSOLDIERbORaYAWNING FACEbELLOW HEARTcN SIGNcZIDI COMBINING HAMZA MARK",
   "rMADDA MARKhHYPHENATION MARKhLETTER BEoCHHIMqIMpIMoDADqLoELIFpTpWpYNoFAoGAFoHAYpHAoJAoKAFpHAF",
   "oLAMr WITH DOT ABOVEoMIMoNUNoOWoPEpHEoQAFoRApHAoSADpEpHINpINoTApHEoUMoVAq ALTERNATE FORMoWAW",
   "oXApHEYNoYOTr WITH CIRCUMFLEX ABOVEoZAqLpEbI RADICAL BBUTmURlCHEmIPmUOPmYnPnTlDDURmUlGAmEPmGOP",
   "nUOmOTlHMOmXITnOPnUOlJJIEnUTnYmOlKEmITlLInEmYRlMImOPlNBIEmYIPnOPmZUPlOPlPUTmYTlQOTlSHATnOPnUR",
   "nYmSIlTATmUlVEPmURlWOlYITmOlZAmOTmUPnRmZIETdSYLLABLE AnPnTnXmBAoPoToXnBApPpTpXoEpPpXoIpEqPqTqX",
   "pPpTpXoOpPpTpXoUpOqPqXpPpRqXpTpXoYpPpTpXnEoPoXnIoEpPpTpXoPoToXnOoPoToXnUoOpPpXoPoRpXoToXnYoPoR",
   "pXoToXmCAoPoToXnEoPoXnHApPpTpXoEpPpTpXoOpPpTpXoUpOqPqTqXpPpRqXpXoYpPpRqXpTpXnIoEpPpTpXoPoToXnO",
   "oPoToXnUoOpPpXoPoRpXoToXnYoPoRpXoToXmDAoPoToXnDApPpTpXoEpPpXoIpEqPqXpPpTpXoOpPpTpXoUpOqPqXpPpR",
   "qXpTpXnEoPoXnIoEpPpXoPoToXnOoPoToXnUoOpXoPoRpXoToXmEnXmFAoPoToXnIoPoToXnOoPoXnUoPoRpXoToXnYoP",
   "oToXmGAoPoToXnEoPoToXnGApPpTpXoEpPpTpXoIpEqPqXpTpXoOpPpTpXoUpOqPqTqXpPpRqXpTpXnIoEpPpTpXoPoToX",
   "nOoPoToXnUoOpPpTpXoPoRpXoToXmHAoPoToXnEoPoXnIEpXoTnLApPpTpXoEpPpXoIpEqPqXpPpTpXoOpPpXoUpOqPqX",
   "pPpRqXpTpXoYpPpRqXpTpXnMApPpTpXoIpEqPqXpPpTpXoOpPpTpXoUpOqPqXpPpRqXpTpXoYpPpRqXpXnNApPpTpXoEpP",
   "pXoIpEqPqTqXpPpTpXoOPpTpXoUOqXpTnOoPoToXnUOpPpTpXnXApPpTpXoEpPpXoIpEqPqTqXpPpTpXoOpPpTpXoUOqP",
   "qTqXmInEoPoToXnPnToERATION MARKnXmJIoEpPpTpXoPoToXnJIpEqPqTqXpPpTpXoOpPpTpXoUpOqPqXpPpRqXpTpX",
   "oYpPpTpXnOoPoToXnUoOpPpTpXoPoRpXoToXnYoPoRpXoToXmKAoPoToXnEoPoToXnIoEpPpXoPoToXnOoPoToXnUoOpP",
   "pXoPoRpXoToXmLAoPoToXnEoPoXnIoEpPpTpXoPoToXnOoPoToXnUoOpPpTpXoPoRpXoToXnYoPoRpXoToXmMAoPoToXnE",
   "oXnGApPpTpXoEpPpXoIEqXoOpPpTpXoUpOqPqXpPpRqXpTpXnIoEpPpXoPoToXnOoPoToXnUoOpPpTpXoPoRpXoToXnYoP",
   "oToXmNAoPoXnBApPpTpXoIpEqPqXpPpTpXoOpPpTpXoUpPpRqXpTpXoYpPpRqXpTpXnDApPpTpXoEpPpXoIpEqXpPpTpX",
   "oOpPpTpXoUpPpRqXpTpXnEoPoXnGApPpTpXoEpPpXoIEqPqXoOpPpTpXoUOqTqXnIoEpPpXoPoToXnJIpEqPqTqXpPpTpX",
   "oOpPpTpXoUpOqXpPpRqXpXoYpPpRqXpTpXnOoPoToXnRApPpTpXoEpPpTpXoOpPpXoUpPpRqXpTpXoYpPpRqXpTpXnUoO",
   "pPpXoPoRpXoToXnYIpEqPqTqXpPpTpXoOpPpTpXoUpOqPqXpPpTpXnZApPpTpXoEpXoIpEqPqXpPpTpXoOPpXoUpOqXpP",
   "pRqXpXoYpPpRqXpTpXmOnPnTnXmPAoPoToXnIoEpPpXoPoToXnOoPoToXnUoOpPpXoPoRpXoToXnYoPoRpXoToXmQIoEpP",
   "pTpXoPoToXnOoPoToXnUoOpPpTpXoPoRpXoToXnYoPoRpXoToXmRAoPoToXnEoPoXnOoPoToXnRApXoEpPpTpXoOpPpTpX",
   "oUpOqXpPpRqXpTpXoYpPpRqXpTpXnUoOpPpXoPoRpXoToXnYoPoRpXoToXmSAoPoToXnEoPoXnHApPpTpXoEpPpTpXoOpP",
   "pTpXoUpOqPqXpPpRqXpTpXoYpPpRqXpTpXnIoEpPpXoPoToXnOoPoToXnSApPpTpXoEpPpXoIpEqPqXpPpTpXoOpPpTpX",
   "oUpPpTpXoYpPpRqXpTpXnUoOpPpXoPoRpXoToXnYoPoRpXoToXmTAoPoToXnEoPoXnIoEpPpXoPoToXnOoPoToXnUoOpP",
   "pTpXoPoRpXoToXmUOoPoXmVAoPoToXnEPoXnIoEpPpTpXoPoToXnOoPoToXnUoPoRpXoToXnYoPoRpXoToXmWAoPoToXnE",
   "oPoXnOoPoXnUoOpPpXmXIoEpPpTpXoPoToXnOoPoToXnUOpXnYoPoRpXoToXmYIoEpPpTpXoPoToXnOoPoToXnUoOpPpT",
   "pXoPoRpXoToXnYoPoRpXoToXmZAoPoToXnEoPoXnHApPpTpXoEpPpTpXoOpPpTpXoUpOqPqXpPpRqXpTpXoYpPpRqXpTpX",
   "nIoEpPpXoPoToXnOoPoToXnUoOpPpXoPoRpXoToXnYoPoRpXoToXnZApPpTpXoEpPpXoIpEqPqTqXpPpTpXoOpPpXoUpP",
   "pRqXpXoYpPpRqXpTpXcN YANGbO-YOaZ NOTATION BAG MEMBERSHIPlDOMAIN ANTIRESTRICTION",
   "lLEFT BINDING BRACKETqIMAGE BRACKETlRANGE ANTIRESTRICTIONmELATIONAL COMPOSITION",
   "mIGHT BINDING BRACKETrIMAGE BRACKETlSCHEMA COMPOSITIONsPIPINGtROJECTIONmPOTlTYPE COLON",
   "bANABAZAR SQUARE CLOSING DOUBLE-LINED HEAD MARKzHEAD MARKtUSTER-FINAL LETTER LAznRAznVAznYA",
   "zINITIAL LETTER RArFINAL CONSONANT MARKrINITIAL DOUBLE-LINED HEAD MARKzHEAD MARKrLETTER -AyA",
   "yBAzHAyCAzHAyDAzDAzbHAzHAzZAzbHAyGAzHAyHAyJAyKAzHAzSSAyLAyMAyNAzGAzNAzYAyPAzHAyRAySAzHAzSAyTA",
   "zHAzSAzbHAzTAzbHAyVAyYAyZAzHArMARK DOUBLE SHADwLONG TSHEGwSHADwTSHEGrSIGN ANUSVARA",
   "wCANDRA WITH ORNAMENTzdBINDUzi WITH ORNAMENTwVIRAMAySARGAsUBJOINERrVOWEL LENGTH MARKxSIGN AI",
   "zeUzdEzdIzdOzeEzdREVERSED IzdUzeEbEBRA FACEcRO WIDTH JOINERlNO-BREAK SPACEnN-JOINERlSPACEcUS",
   "bIPPER-MOUTH FACEbNAMENNY COMBINING ATTACHING VERTICAL OMETtLOWER TONAL RANGE INDICATOR",
   "tMARK BORZAYAyCHASHKAzg POLNAYAzURVED OMETyDEMESTVENNY ZADERZHKAzVOETOCHIE",
   "yGORAZDO NIZKO ON LEFTzqRIGHTznS KRYZHEM ON LEFTzzbRIGHTzhVYSOKOyKACHKAzRYZHze ON LEFTzUPNAYA",
   "yLOMKAyMALO POVYSHE ON LEFTzpRIGHTzmS KHOKHLOM ON LEFTzzbRIGHTzpRYZHEMznTRANNOyNIZKO ON LEFT",
   "ziRIGHTzfS KRYZHEM ON LEFTzsRIGHTyOBLACHKOzNzTSECHKAyPODCHASHIEzj WITH VERTICAL STROKEzcVERTKA",
   "zbVYSHE ON LEFTzkRIGHTzhS KHOKHLOM ON LEFTzvRIGHTzkRYZHEMziTRANNOyRAVNOzbZSEKAySKOBA",
   "zOROCHYA NOZHKAzREDNE ON LEFTzjRIGHTzTRANNO MALO POVYSHEyTIKHAYAzOCHKAzSATA ON LEFTziRIGHT",
   "zfS KRYZHEMyUDARKAyVYSOKO ON LEFTzjRIGHTzgS KHOKHLOM ON LEFTzuRIGHTzjRYZHEMyZADERZHKAzELOzbVOK",
   "tTONAL RANGE MARK MRACHNOzlSVETLOzlTRESVETLOjNEUME CHASHKArELYUSTKApDEMESTVENNY KLYUCHrRBITSA",
   "qOUBLE ZAPYATAYAqUDAqVA V CHELNUpFITApGOLUBCHIK BORZYzMRACHNYzSVETLYzTIKHYzbRESVETLYpKHAMILO",
   "qLYUCHqOBYLAqRYUKu TIKHYsZHqUFISMApMECHIKv KLYUCHENEPOSTOYANNYzePOVODNYzeVOYwPOVODNYpNEMKA",
   "pOBLAKOqSOKAu KLYUCHEVAYA NEPOSTOYANNAYAziSVETLAYAwRYUKOVAYA SVETLAYAvSVETLAYAvTRESVETLAYA",
   "pPALKArRAKLITrUKqEREVODKAy NEPOSTOYANNAYAqODCHASHIErLKULIZMYpREVERSED CHELYUSTKAqOG",
   "pSKAMEYTSA DVOECHELNAYA KLYUCHEVAYAznNEPOSTOYANNAYAznPROSTAYAznSVETLAYAzKLYUCHENEPOSTOYANNAYA",
   "zhVAYA SVETLAYAzmTIKHAYAzMRACHNAYAzSVETLAYAzTIKHAYAzbRESVETLAYAqLOZHITIEy S KRYZHEMzcZAPYATOY",
   "zZAKRYTOEqTATYAv NEPOSTOYANNAYAwS DVUMYA ZAPYATYMIyKRYZHEMzg I ZAPYATOYyROGOMyZAPYATOY",
   "zh I KRYZHEMzkPODCHASHIEMwZAKRYTAYAzg S ZAPYATOYrOPITSAx S OCHKOMyWITH SOROCHYA NOZHKA",
   "rRELA DVOECHELNAYAzj KLYUCHEVAYAzgOKRYZHEVAYAzhPOVODNAYAzq KLYUCHEVAYAwGROMNAYA",
   "zf WITH SINGLE ZAPYATAYAzbOKRYZHEVAYAzm POVODNAYAzcPOVODNAYAzl WITH DOUBLE ZAPYATAYA",
   "zrSINGLE ZAPYATAYAwKLYUCHENEPOSTOYANNAYAzePOVODNAYAxRYUKOVAYAzh GROMNAYA",
   "zq WITH SINGLE ZAPYATAYAzmOKRYZHEVAYAzx POVODNAYAznPOVODNAYAzw WITH DOUBLE ZAPYATAYA",
   "zzdSINGLE ZAPYATAYAziPOVODNAYAziTRYASKAzZHEVAYAwMRACHNOTIKHAYAwNEPOSTOYANNAYAwPOLUPOVODNAYA",
   "yVODNAYAxROSTAYAwTIKHAYA PUTNAYAxRYASOGLASNAYAzdPOVODNAYAzdSTRELNAYA",
   "pVRAKHIYA KLYUCHEVAYA MRACHNAYAzlPROSTAYAzlSVETLAYAzlTRESVETLAYAyMRACHNAYAyPROSTAYAySVETLAYA",
   "yTRESVETLAYApZANOZHEKrPYATAYAqMEYTSAjPRIZNAK MODIFIER DIRECTION FLIPzbKRYZHzbLEVEL-2zh3zbROG",
   "bOMBIEbWJcNBSPdJcSP"]

end CommentTags.Text
