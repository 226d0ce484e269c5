/-!
# Names of characters from U+1000 to U+1FFF: more alphabets and syllabaries, and letters with marks
-/

namespace ModuleBridge.Text

/-- Lines of names. -/
def syllabaryNames : List String := [
  "1000aMYANMAR LETTER KAqHApGAqHApNGApCAqHApJAqHApNYAqNYApTTArHApDDArHApNNApTAqHApDAqHApNApPAqHA",
  "1017pBAqHApMApYApRApLApWApSApHApLLApApSHAN ApIqIpUqUpEpMON EpOpAUiVOWEL SIGN TALL AAtAAtIuItU",
  "1030uUtEtAItMON IIxOtE ABOVEiSIGN ANUSVARAnDOT BELOWnVISARGApRAMAnASAT",
  "103BiCONSONANT SIGN MEDIAL YAzfRAzfWAzfHAiLETTER GREAT SAiDIGIT ZEROoONEoTWOpHREEoFOURpIVEoSIX",
  "1047pEVENoEIGHToNINEiSIGN LITTLE SECTIONnSECTIONjYMBOL LOCATIVEpCOMPLETEDpAFOREMENTIONED",
  "104FpGENITIVEiLETTER SHAqSApVOCALIC RyRxLyLiVOWEL SIGN VOCALIC RzdRzcLzdLiLETTER MON NGAtJHA",
  "105CtBBAvEiCONSONANT SIGN MON MEDIAL NAzjMAzjLAiLETTER SGAW KAREN SHAiVOWEL SIGN SGAW KAREN EU",
  "1063iTONE MARK SGAW KAREN HATHIzeKE PHOiLETTER WESTERN PWO KAREN THAziPWA",
  "1067iVOWEL SIGN WESTERN PWO KAREN EUzmUEiSIGN WESTERN PWO KAREN TONE-1zl2zl3zl4zl5",
  "106EiLETTER EASTERN PWO KAREN NNAziYWAziGHWAiVOWEL SIGN GEBA KAREN ItKAYAH OEzUzEE",
  "1075iLETTER SHAN KAvHAuGAuCAuZAuNYAuDAuNAuPHAuFAuBAuTHAuHAiCONSONANT SIGN SHAN MEDIAL WA",
  "1083iVOWEL SIGN SHAN AAyEz ABOVEyFINAL YiSIGN SHAN TONE-2x3x5x6sCOUNCIL TONE-2zg3",
  "108DzbEMPHATIC TONEiLETTER RUMAI PALAUNG FAiSIGN RUMAI PALAUNG TONE-5jHAN DIGIT ZEROtONEtTWO",
  "1093uHREEtFOURuIVEtSIXuEVENtEIGHTtNINEjIGN KHAMTI TONE-1z3iVOWEL SIGN AITON AzbI",
  "109EiSYMBOL SHAN ONEuEXCLAMATIONaGEORGIAN CAPITAL LETTER ANyBANyGANyDONyENyVINyZENyTANyINyKAN",
  "10AAyLASyMANyNARyONyPARyZHARyRAEySANyTARyUNyPHARyKHARyGHANyQARySHINyCHINzANyJILyCILzHARyXAN",
  "10BFyJHANyHAEzEzIEyWEyHARzOE",
  "10C7yYN",
  "10CDyAEN",
  "10D0jLETTER ANqBANqGANqDONqENqVINqZENqTANqINqKANqLASqMANqNARqONqPARqZHARqRAEqSANqTARqUNqPHAR",
  "10E5qKHARqGHANqQARqSHINqCHINrANqJILqCILrHARqXANqJHANqHAErErIEqWEqHARrOEqFIqYNqELIFIqTURNED GAN",
  "10FAqAINjPARAGRAPH SEPARATORaMODIFIER LETTER GEORGIAN NARaGEORGIAN LETTER AENqHARD SIGN",
  "10FFqLABIAL SIGNaHANGUL CHOSEONG KIYEOKqSSANGKIYEOKqNIEUNqTIKEUTqSSANGTIKEUTqRIEULqMIEUMqPIEUP",
  "1108qSSANGPIEUPrIOSrSANGSIOSqIEUNGqCIEUCqSSANGCIEUCqCHIEUCHqKHIEUKHqTHIEUTHqPHIEUPHqHIEUH",
  "1113qNIEUN-KIYEOKqSSANGNIEUNqNIEUN-TIKEUTwPIEUPqTIKEUT-KIYEOKqRIEUL-NIEUNqSSANGRIEUL",
  "111AqRIEUL-HIEUHqKAPYEOUNRIEULqMIEUM-PIEUPqKAPYEOUNMIEUMqPIEUP-KIYEOKwNIEUNwTIKEUTwSIOS",
  "1122zb-KIYEOKzcTIKEUTzcPIEUPxSANGSIOSxIOS-CIEUCwCIEUCxHIEUCHwTHIEUTHwPHIEUPHqKAPYEOUNPIEUP",
  "112CySSANGPIEUPqSIOS-KIYEOKvNIEUNvTIKEUTvRIEULvMIEUMvPIEUPzb-KIYEOKvSSANGSIOSvIEUNGvCIEUC",
  "1137wHIEUCHvKHIEUKHvTHIEUTHvPHIEUPHvHIEUHqCHITUEUMSIOSzSANGSIOSrEONGCHIEUMSIOSzdSANGSIOS",
  "1140qPANSIOSqIEUNG-KIYEOKwTIKEUTwMIEUMwPIEUPwSIOSwPANSIOSqSSANGIEUNGqIEUNG-CIEUCxHIEUCH",
  "114AwTHIEUTHwPHIEUPHqYESIEUNGqCIEUC-IEUNGrHITUEUMCIEUCySSANGCIEUCrEONGCHIEUMCIEUCzcSSANGCIEUC",
  "1152rHIEUCH-KHIEUKHyHIEUHtTUEUMCHIEUCHrEONGCHIEUMCHIEUCHqPHIEUPH-PIEUPqKAPYEOUNPHIEUPH",
  "1158qSSANGHIEUHqYEORINHIEUHqKIYEOK-TIKEUTqNIEUN-SIOSwCIEUCwHIEUHqTIKEUT-RIEULqFILLER",
  "1160hJUNGSEONG FILLERrAsErYAtErEOrErYEOsErOrWAtErOErYOrUrWEOsEsIrYUrEUrYIrIrA-OtUrYA-OuYOrEO-O",
  "117BuUuEUrYEO-OvUrO-EOtEtYEtOtUrYO-YAwEvEOuOuIrU-AuEtEO-EUtYEtUrYU-AuEOuEuYEOvEuUuIrEU-UuEU",
  "1197rYI-UrI-AtYAtOtUtEUtARAEArARAEAw-EOxUxIrSSANGARAEArA-EUrYA-UsEO-YArO-YAvEiONGSEONG KIYEOK",
  "11A9rSSANGKIYEOKrKIYEOK-SIOSrNIEUNw-CIEUCxHIEUHrTIKEUTrRIEULw-KIYEOKxMIEUMxPIEUPxSIOSxTHIEUTH",
  "11B5xPHIEUPHxHIEUHrMIEUMrPIEUPw-SIOSrSIOSsSANGSIOSrIEUNGrCIEUCsHIEUCHrKHIEUKHrTHIEUTHrPHIEUPH",
  "11C2rHIEUHrKIYEOK-RIEULySIOS-KIYEOKrNIEUN-KIYEOKxTIKEUTxSIOSxPANSIOSxTHIEUTHrTIKEUT-KIYEOK",
  "11CByRIEULrRIEUL-KIYEOK-SIOSxNIEUNxTIKEUTze-HIEUHrSSANGRIEULrRIEUL-MIEUM-KIYEOKzeSIOS",
  "11D3xPIEUP-SIOSzeHIEUHxKAPYEOUNPIEUPxSSANGSIOSxPANSIOSxKHIEUKHxYEORINHIEUHrMIEUM-KIYEOKxRIEUL",
  "11DCxPIEUPxSIOSySANGSIOSxPANSIOSxCHIEUCHxHIEUHrKAPYEOUNMIEUMrPIEUP-RIEULxPHIEUPHxHIEUH",
  "11E6rKAPYEOUNPIEUPrSIOS-KIYEOKwTIKEUTwRIEULwPIEUPrPANSIOSrIEUNG-KIYEOKxSSANGKIYEOKrSSANGIEUNG",
  "11EFrIEUNG-KHIEUKHrYESIEUNGz-SIOSzbPANSIOSrPHIEUPH-PIEUPrKAPYEOUNPHIEUPHrHIEUH-NIEUNxRIEUL",
  "11F7xMIEUMxPIEUPrYEORINHIEUHrKIYEOK-NIEUNyPIEUPyCHIEUCHyKHIEUKHyHIEUHrSSANGNIEUN",
  "1200aETHIOPIC SYLLABLE HAtUtItAAtEEtEtOuAsLAtUtItAAtEEtEtOtWAsHHAuUuIuAAuEEuEuOuWAsMAtUtItAA",
  "121CtEEtEtOtWAsSZAuUuIuAAuEEuEuOuWAsRAtUtItAAtEEtEtOtWAsSAtUtItAAtEEtEtOtWAtHAuUuIuAAuEEuEuO",
  "123FuWAsQAtUtItAAtEEtEtOuAtWA",
  "124AuIuAAuEEuE",
  "1250tHAuUuIuAAuEEuEuO",
  "1258uWA",
  "125AvIvAAvEEvE",
  "1260sBAtUtItAAtEEtEtOtWAsVAtUtItAAtEEtEtOtWAsTAtUtItAAtEEtEtOtWAsCAtUtItAAtEEtEtOtWAsXAtUtItAA",
  "1284tEEtEtOuAtWA",
  "128AuIuAAuEEuE",
  "1290sNAtUtItAAtEEtEtOtWAtYAuUuIuAAuEEuEuOuWAsGLOTTAL AzbUzbIzbAAzbEEzbEzbOzbWAsKAtUtItAAtEEtE",
  "12AEtOuAtWA",
  "12B2uIuAAuEEuE",
  "12B8tXAuUuIuAAuEEuEuO",
  "12C0uWA",
  "12C2vIvAAvEEvE",
  "12C8sWAtUtItAAtEEtEtOuAsPHARYNGEAL AzeUzeIzeAAzeEEzeEzeO",
  "12D8sZAtUtItAAtEEtEtOtWAtHAuUuIuAAuEEuEuOuWAsYAtUtItAAtEEtEtOuAsDAtUtItAAtEEtEtOtWAtDAuUuIuAA",
  "12FCuEEuEuOuWAsJAtUtItAAtEEtEtOtWAsGAtUtItAAtEEtEtOuAtWA",
  "1312uIuAAuEEuE",
  "1318tGAuUuIuAAuEEuEuOuWAAsTHAuUuIuAAuEEuEuOuWAsCHAuUuIuAAuEEuEuOuWAsPHAuUuIuAAuEEuEuOuWAsTSAuU",
  "133AuIuAAuEEuEuOuWAtZAuUuIuAAuEEuEuOvAsFAtUtItAAtEEtEtOtWAsPAtUtItAAtEEtEtOtWAsRYAsMYAsFYA",
  "135DjCOMBINING GEMINATION AND VOWEL LENGTH MARKtVOWEL LENGTH MARKtGEMINATION MARKjSECTION MARK",
  "1361jWORDSPACEjFULL STOPjCOMMAjSEMICOLONjCOLONjPREFACE COLONjQUESTION MARKjPARAGRAPH SEPARATOR",
  "1369jDIGIT ONEpTWOqHREEpFOURqIVEpSIXqEVENpEIGHTpNINEjNUMBER TENrWENTYrHIRTYqFORTYrIFTYqSIXTY",
  "1378rEVENTYqEIGHTYqNINETYqHUNDREDqTEN THOUSAND",
  "1380jSYLLABLE SEBATBEIT MWAsMWIuEEuEsSEBATBEIT BWAsBWIuEEuEsSEBATBEIT FWAsFWIuEEuE",
  "138CsSEBATBEIT PWAsPWIuEEuEjTONAL MARK YIZETuDERETuRIKRIKuSHORT RIKRIKuDIFATuKENATuCHIRET",
  "1397uHIDETuDERET-HIDETuKURT",
  "13A0aCHEROKEE LETTER AqEqIqOqUqVqGAqKAqGErIrOrUrVqHArErIrOrUrVqLArErIrOrUrVqMArErIrOrUqNAqHNA",
  "13C0qNAHrErIrOrUrVqQUAsEsIsOsUsVqSAqSrErIrOrUrVqDAqTAqDEqTEqDIqTIqDOrUrVrLAqTLAsEsIsOsUsVrSAsE",
  "13E5sIsOsUsVqWArErIrOrUrVqYArErIrOrUrVqMV",
  "13F8jSMALL LETTER YExIxOxUxVwMV",
  "1400bANADIAN SYLLABICS HYPHENtEtAAItIuItOuOtY-CREE OOtCARRIER EEzcItAuAtWEvST-CREE WEuI",
  "140FuEST-CREE WIuIIuEST-CREE WIIuOuEST-CREE WOuOOuEST-CREE WOOtNASKAPI WOOtWAuEST-CREE WAuAA",
  "141AuEST-CREE WAAtNASKAPI WAAtAItY-CREE WtGLOTTAL STOPtFINAL ACUTEzGRAVEzBOTTOM HALF RING",
  "1422zTOP HALF RINGzRIGHT HALF RINGzcNGzDOUBLE ACUTEzhSHORT VERTICAL STROKESzMIDDLE DOT",
  "1428zSHORT HORIZONTAL STROKEzPLUSzDOWN TACKtENtINtONtANtPEuAAIuIvIuOvOtY-CREE POOtCARRIER HEE",
  "1437zdItPAvAuWEtWEST-CREE PWEtPWItWEST-CREE PWItPWIItWEST-CREE PWIItPWOtWEST-CREE PWOtPWOO",
  "1443tWEST-CREE PWOOtPWAtWEST-CREE PWAtPWAAtWEST-CREE PWAAtY-CREE PWAAtPtWEST-CREE PtCARRIER H",
  "144CtTEuAAIuIvIuOvOtY-CREE TOOtCARRIER DEEzdItTAvAuWEtWEST-CREE TWEtTWItWEST-CREE TWItTWII",
  "145CtWEST-CREE TWIItTWOtWEST-CREE TWOtTWOOtWEST-CREE TWOOtTWAtWEST-CREE TWAtTWAA",
  "1464tWEST-CREE TWAAtNASKAPI TWAAtTuTEvIvOvAtKEuAAIuIvIuOvOtY-CREE KOOtKAvAuWEtWEST-CREE KWE",
  "1476tKWItWEST-CREE KWItKWIItWEST-CREE KWIItKWOtWEST-CREE KWOtKWOOtWEST-CREE KWOOtKWA",
  "147FtWEST-CREE KWAtKWAAtWEST-CREE KWAAtNASKAPI KWAAtKuWtSOUTH-SLAVEY KEHziIHziOHziAHtCEuAAIuI",
  "148CvIuOvOtY-CREE COOtCAvAuWEtWEST-CREE CWEtCWItWEST-CREE CWItCWIItWEST-CREE CWIItCWO",
  "1499tWEST-CREE CWOtCWOOtWEST-CREE CWOOtCWAtWEST-CREE CWAtCWAAtWEST-CREE CWAAtNASKAPI CWAAtC",
  "14A2tSAYISI THtMEuAAIuIvIuOvOtY-CREE MOOtMAvAuWEtWEST-CREE MWEtMWItWEST-CREE MWItMWII",
  "14B1tWEST-CREE MWIItMWOtWEST-CREE MWOtMWOOtWEST-CREE MWOOtMWAtWEST-CREE MWAtMWAA",
  "14B9tWEST-CREE MWAAtNASKAPI MWAAtMtWEST-CREE MtMHtATHAPASCAN MtSAYISI MtNEuAAIuIvIuOvO",
  "14C6tY-CREE NOOtNAvAuWEtWEST-CREE NWEtNWAtWEST-CREE NWAtNWAAtWEST-CREE NWAAtNASKAPI NWAAtN",
  "14D1tCARRIER NGtNHtLEuAAIuIvIuOvOtY-CREE LOOtLAvAuWEtWEST-CREE LWEtLWItWEST-CREE LWItLWII",
  "14E1tWEST-CREE LWIItLWOtWEST-CREE LWOtLWOOtWEST-CREE LWOOtLWAtWEST-CREE LWAtLWAA",
  "14E9tWEST-CREE LWAAtLtWEST-CREE LtMEDIAL LtSEuAAIuIvIuOvOtY-CREE SOOtSAvAuWEtWEST-CREE SWEtSWI",
  "14F9tWEST-CREE SWItSWIItWEST-CREE SWIItSWOtWEST-CREE SWOtSWOOtWEST-CREE SWOOtSWAtWEST-CREE SWA",
  "1502tSWAAtWEST-CREE SWAAtNASKAPI SWAAtStATHAPASCAN StSWtBLACKFOOT StMOOSE-CREE SKtNASKAPI SKW",
  "150Bzd-WzdPWAzdTWAzdKWAzdCWAtSHEvIwIvOwOvAwAvWEtWEST-CREE SHWEtSHWItWEST-CREE SHWItSHWII",
  "151CtWEST-CREE SHWIItSHWOtWEST-CREE SHWOtSHWOOtWEST-CREE SHWOOtSHWAtWEST-CREE SHWAtSHWAA",
  "1524tWEST-CREE SHWAAtSHtYEuAAIuIvIuOvOu-CREE YOOuAvAuWEtWEST-CREE YWEtYWItWEST-CREE YWItYWII",
  "1534tWEST-CREE YWIItYWOtWEST-CREE YWOtYWOOtWEST-CREE YWOOtYWAtWEST-CREE YWAtYWAA",
  "153CtWEST-CREE YWAAtNASKAPI YWAAtYtBIBLE-CREE YtWEST-CREE YtSAYISI YItREu-CREE REtWEST-CREE LE",
  "1545tRAAIuIvIuOvOtWEST-CREE LOtRAvAtWEST-CREE LAtRWAAtWEST-CREE RWAAtRtWEST-CREE RtMEDIAL RtFE",
  "1554uAAIuIvIuOvOuAvAuWAAtWEST-CREE FWAAtFtTHEtN-CREE THEtTHItN-CREE THItTHIItN-CREE THIItTHOwO",
  "1566vAwAvWAAtWEST-CREE THWAAtTHuTHEwIwOwAvHuYEvIvOvAtNUNAVIK HEzdIzeIzdOzeOzdAzeAzcHyUT HtHK",
  "157EtQAAIuIvIuOvOuAvAtQtTLHEwIwOwAtWEST-CREE REzfIzfOzfAtNGAAIvIwIvOwOvAwAuGuNGtSAYISI SHEzdI",
  "1599zdOzdAtWOODS-CREE THEzhIzhOzhAzgHtLHIwIvOwOvAwAuHtTH-CREE THEzeIzfIzeOzfOzeAzfAzdH",
  "15AFtAIVILIK BtBLACKFOOT EzeIzeOzeAzeWEzfIzfOzfAzeNEzfIzfOzfAzeKEzfIzfOzfAtSAYISI HEzcIzcOzcA",
  "15C4tCARRIER GHUzeOzeEzfEzeIzeAzcRUzdOzdEzeEzdIzdAzcWUzdOzdEzeEzdIzdAzcHWUzeOzeEzfEzeIzeAzcTHU",
  "15DDzeOzeEzfEzeIzeAzdTUzeOzeEzfEzeIzeAzcPUzdOzdEzeEzdIzdAzcPzcGUzdOzdEzeEzdIzdAzcKHUzeOzeEzfE",
  "15F9zeIzeAzdKUzeOzeEzfEzeIzeAzdKzcNUzdOzdEzeEzdIzdAzcMUzdOzdEzeEzdIzdAzcYUzdOzdEzeEzdIzdAzcJU",
  "1615tSAYISI JUtCARRIER JOzdEzeEzdItSAYISI JItCARRIER JAzdJUzeOzeEzfEzeIzeAzcLUzdOzdEzeEzdIzdA",
  "1628zcDLUzeOzeEzfEzeIzeAzcLHUzeOzeEzfEzeIzeAzcTLHUzfOzfEzgEzfIzfAzeUzeOzeEzfEzeIzeAzcZUzdOzdE",
  "1643zeEzdIzdAzcZzcINITIAL ZzcDZUzeOzeEzfEzeIzeAzcSUzdOzdEzeEzdIzdAzdHUzeOzeEzfEzeIzeAzdHzcTSU",
  "165CzeOzeEzfEzeIzeAzcCHUzeOzeEzfEzeIzeAzcTTSUzfOzfEzgEzfIzfAuHI SIGNtFULL STOPtQAItNGAIuNGIxI",
  "1673wOxOwAxAtWOODS-CREE THWEEziIzjIziOzjOziAzjAzfFINAL THtBLACKFOOT WaOGHAM SPACE MARK",
  "1681gLETTER BEITHnLUISnFEARNnSAILnNIONnUATHnDAIRnTINNEnCOLLoEIRTnMUINnGORTnNGEADALnSTRAIFnRUIS",
  "1690nAILMnONNnURnEADHADHnIODHADHnEABHADHnORnUILLEANNnIFINnEAMHANCHOLLnPEITHgFEATHER MARK",
  "169CgREVERSED FEATHER MARK",
  "16A0aRUNIC LETTER FEHU FEOH FE FnVnURUZ UR UnYRnYnWnTHURISAZ THURS THORNnETHnANSUZ AnOS OnAC A",
  "16ABoESCnLONG-BRANCH-OSS OnSHORT-TWIG-OSS OnOoEoNnRAIDO RAD REID RnKAUNAnCENnKAUN KnGnENG",
  "16B7nGEBO GYFU GoARnWUNJO WYNN WnHAGLAZ HpEGL HnLONG-BRANCH-HAGALL HnSHORT-TWIG-HAGALL H",
  "16BEnNAUDIZ NYD NAUD NnSHORT-TWIG-NAUD NnDOTTED-NnISAZ IS ISS InEnJERAN JnGER",
  "16C5nLONG-BRANCH-AR AEnSHORT-TWIG-AR AnIWAZ EOHnPERTHO PEORTH PnALGIZ EOLHXnSOWILO S",
  "16CBoIGEL LONG-BRANCH-SOL SoHORT-TWIG-SOL SnCnZnTIWAZ TIR TYR TnSHORT-TWIG-TYR TnD",
  "16D2nBERKANAN BEORC BJARKAN BnSHORT-TWIG-BJARKAN BnDOTTED-PnOPEN-PnEHWAZ EH EnMANNAZ MAN M",
  "16D8nLONG-BRANCH-MADR MnSHORT-TWIG-MADR MnLAUKAZ LAGU LOGR LnDOTTED-LnINGWAZpGnDAGAZ DAEG D",
  "16DFnOTHALAN ETHEL OnEARnIORnCWEORTHoALCoEALCnSTANnLONG-BRANCH-YRnSHORT-TWIG-YRnICELANDIC-YRnQ",
  "16EAnXgSINGLE PUNCTUATIONgMULTIPLE PUNCTUATIONgCROSS PUNCTUATIONgARLAUG SYMBOLgTVIMADUR SYMBOL",
  "16F0gBELGTHOR SYMBOLgLETTER KnSHnOOnFRANKS CASKET OSzcISzcEHzcACzdESC",
  "1700aTAGALOG LETTER ApIpUpKApGApNGApTApDApNApPApBApMApYApRApLApWApSApHAiVOWEL SIGN ItU",
  "1714iSIGN VIRAMAnPAMUDPOD",
  "171FiLETTER ARCHAIC RAaHANUNOO LETTER ApIpUpKApGApNGApTApDApNApPApBApMApYApRApLApWApSApHA",
  "1732iVOWEL SIGN ItUiSIGN PAMUDPODaPHILIPPINE SINGLE PUNCTUATIONlDOUBLE PUNCTUATION",
  "1740aBUHID LETTER AnInUnKAnGAnNGAnTAnDAnNAnPAnBAnMAnYAnRAnLAnWAnSAnHAgVOWEL SIGN IrU",
  "1760aTAGBANWA LETTER AqIqUqKAqGAqNGAqTAqDAqNAqPAqBAqMAqYA",
  "176EqLAqWAqSA",
  "1772jVOWEL SIGN IuU",
  "1780aKHMER LETTER KAoHAoOoHOnNGOnCAoHAoOoHOnNYOnDAnTTHAnDOnTTHOnNNOnTAoHAoOoHOnNOnBAnPHAoOoHO",
  "1798nMOnYOnROnLOnVOnSHAoSOoAnHAnLAnQAgINDEPENDENT VOWEL QAQzbAzIzbIzUzbKzbUzcVyRYzbYyLYzbYyQE",
  "17B0zAIzOO TYPE ONEziTWOzAUgVOWEL INHERENT AQwAmSIGN AArIsIrYsYrUsUsArOErYArIErErAEsIrOOrAU",
  "17C6gSIGN NIKAHITlREAHMUKlYUUKALEAPINTUlMUUSIKATOANlTRIISAPlBANTOClROBATlTOANDAKHIATlKAKABAT",
  "17CFlAHSDAlSAMYOK SANNYAlVIRIAMlCOENGlBATHAMASATlKHANlBARIYOOSANlCAMNUC PII KUUHlLEK TOO",
  "17D8lBEYYALlPHNAEK MUANlKOOMUUTgCURRENCY SYMBOL RIELgSIGN AVAKRAHASANYAmTTHACAN",
  "17E0gDIGIT ZEROmONEmTWOnHREEmFOURnIVEmSIXnEVENmEIGHTmNINE",
  "17F0gSYMBOL LEK ATTAK SONxMUOYxPIIxBEIyUONxPRAMzc-MUOYzdPIIzdBEIzeUON",
  "1800aMONGOLIAN BIRGAkELLIPSISkCOMMAkFULL STOPkCOLONkFOUR DOTSkTODO SOFT HYPHEN",
  "1807kSIBE SYLLABLE BOUNDARY MARKERkMANCHU COMMArFULL STOPkNIRUGUkFREE VARIATION SELECTOR ONE",
  "180CzjTWOzkHREEkVOWEL SEPARATORkFREE VARIATION SELECTOR FOURkDIGIT ZEROqONEqTWOrHREEqFOURrIVE",
  "1816qSIXrEVENqEIGHTqNINE",
  "1820kLETTER ArErIrOrUrOErUErEErNArANGrBArPArQArGArMArLArSAsHArTArDArCHArJArYArRArWArFArKAsHA",
  "183CrTSArZArHAArZRArLHArZHIrCHIrTODO LONG VOWEL SIGNwEwIwOwUwOEwUEwANGwBAwPAwQAwGAwMAwTAwDA",
  "1852wCHAwJAwTSAwYAwWAwKAwGAAwHAAwJIAwNIAwDZArSIBE EwIxYwUEwUwANGwKAwGAwHAwPAwSHAwTAwDAwJAwFA",
  "186CwGAAwHAAwTSAwZAwRAAwCHAwZHArMANCHU IyKAyRAyFAyZHArCHA WITH TWO DOTS",
  "1880rALI GALI ANUSVARA ONEzbVISARGA ONEzbDAMARUzbUBADAMAzbINVERTED UBADAMAzbBALUDA",
  "1886zbTHREE BALUDAzbAzbIzbKAzbNGAzbCAzbTTAzdHAzbDDAzbNNAzbTAzbDAzbPAzcHAzbSSAzbZHAzcAzbAH",
  "1898rTODO ALI GALI TAzgZHArMANCHU ALI GALI GHAziNGAziCAziJHAziTTAziDDHAziTAziDHAziSSAziCYA",
  "18A4ziZHAzjArALI GALI HALF UzgYArMANCHU ALI GALI BHArALI GALI DAGALGArMANCHU ALI GALI LHA",
  "18B0aCANADIAN SYLLABICS OYtAYuAYtWAYtPOYuAYuWOYtTAYtKAYuWAYtMAYtNOYuAYtLAYtSOYuAYuHOYvAYvWOY",
  "18C3tYOYuAYtRAYtNWItOJIBWAY NWItNWIItOJIBWAY NWIItNWOtOJIBWAY NWOtNWOOtOJIBWAY NWOOtRWEEvIwIvO",
  "18D2wOvAtOJIBWAY PzcTzcKzcCzcMzcNzcSzdHtEASTERN WtWESTERN WtFINAL SMALL RINGzRAISED DOT",
  "18E0tR-CREE RWEtWEST-CREE LOOzfAAtTHWEwAuTHWEwOOwAAuLHWEwOOtSAYISI SHWEzdOOzbHOOtCARRIER GWU",
  "18EEzcDENE GEEzcGAAzdWAtSAYISI JUUtCARRIER JWAtBEAVER DENE LzgRtCARRIER DENTAL S",
  "1900aLIMBU VOWEL-CARRIER LETTERgLETTER KAoHAnGAoHAnNGAnCAoHAnJAoHAnYANnTAoHAnDAoHAnNAnPAoHAnBA",
  "1913oHAnMAnYAnRAnLAnWAnSHAoSAoAnHAnGYANnTRA",
  "1920gVOWEL SIGN ArIrUrEErAIrOOrAUrErOgSUBJOINED LETTER YAxRAxWA",
  "1930hMALL LETTER KAtNGAtANUSVARAtTAtNAtPAtMAtRAtLAhIGN MUKPHRENGlKEMPHRENGlSA-I",
  "1940lLOO",
  "1944gEXCLAMATION MARKgQUESTION MARKgDIGIT ZEROmONEmTWOnHREEmFOURnIVEmSIXnEVENmEIGHTmNINE",
  "1950aTAI LE LETTER KAoXAoNGAoTSAoSAoYAoTApHAoLAoPApHAoMAoFAoVAoHAoQAoKHAoTSHAoNAoAoIoEEpHoUoOO",
  "1969oOoUEoEoAUEpI",
  "1970oTONE-2t3t4t5t6",
  "1980aNEW TAI LUE LETTER HIGH QAtLOW QAtHIGH KAyXAyNGAtLOW KAxXAxNGAtHIGH TSAySAyYAtLOW TSAxSA",
  "198DxYAtHIGH TAzHAyNAtLOW TAyHAxNAtHIGH PAzHAyMAtLOW PAyHAxMAtHIGH FAyVAyLAtLOW FAxVAxLA",
  "19A0tHIGH HAyDAyBAtLOW HAxDAxBAtHIGH KVAyXVAtLOW KVAxXVAtHIGH SUAtLOW SUA",
  "19B0mVOWEL SIGN VOWEL SHORTENERxAAxIIxUyUxExAExOyAxUExAYyAYxUYxOYyAYxUEYxIYmLETTER FINAL VzNG",
  "19C3zNzMzKzDzBmTONE MARK-1w2",
  "19D0mDIGIT ZEROsONEsTWOtHREEsFOURtIVEsSIXtEVENsEIGHTsNINEmTHAM DIGIT ONE",
  "19DEmSIGN LAEuVaKHMER SYMBOL PATHAMASATnMUOY KOETnPII KOETnBEI KOEToUON KOETnPRAM KOET",
  "19E6r-MUOY KOETsPII KOETsBEI KOETtUON KOETnDAP KOETq-MUOY KOETrPII KOETrBEI KOETsUON KOET",
  "19EFrPRAM KOETnTUTEYASATnMUOY ROCnPII ROCnBEI ROCoUON ROCnPRAM ROCr-MUOY ROCsPII ROCsBEI ROC",
  "19F9tUON ROCnDAP ROCq-MUOY ROCrPII ROCrBEI ROCsUON ROCrPRAM ROCaBUGINESE LETTER KAqGAqNGAsKA",
  "1A04qPAqBAqMArPAqTAqDAqNArRAqCAqJAqNYAsCAqYAqRAqLAqVAqSAqAqHAjVOWEL SIGN IuUuEuOuAE",
  "1A1EjPALLAWAjEND OF SECTIONaTAI THAM LETTER HIGH KAwHAwXAqLOW KAvXAvHAqNGAqHIGH CAwHAqLOW CA",
  "1A2AuSAuCHAqNYAqRATAqHIGH RATHAqDAqLOW RATHAqRANAqHIGH TAwHAqLOW TAvHAqNAqBAqHIGH PAwHAvFA",
  "1A3BqLOW PAuFAuPHAqMAqLOW YAqHIGH YAqRArUEqLArUEqWAqHIGH SHAwSAwAvHAqLLAqAqLOW HAqIrIqUrUqEE",
  "1A52qOOqLAEqGREAT SAjCONSONANT SIGN MEDIAL RAzgLAyLA TANG LAIjSIGN MAI KANG LAI",
  "1A59jCONSONANT SIGN FINAL NGAyLOW PAyHIGH RATHA OR LOW PAyMAyBAySA",
  "1A60jSIGN SAKOTjVOWEL SIGN AuMAI SATuAAuTALL AAuIvIuUEvUEuUvUuOvA BELOWvYuEuAEuOOuAIuTHAM AI",
  "1A73uOA ABOVEjSIGN MAI KANGoTONE-1t2oKHUEN TONE-3z4z5oRA HAAMoMAI SAMoKHUEN-LUE KARAN",
  "1A7FjCOMBINING CRYPTOGRAMMIC DOTjHORA DIGIT ZEROuONEuTWOvHREEuFOURvIVEuSIXvEVENuEIGHTuNINE",
  "1A90jTHAM DIGIT ZEROuONEuTWOvHREEuFOURvIVEuSIXvEVENuEIGHTuNINE",
  "1AA0jSIGN WIANGtWAAKoSAWANoKEOWoHOYoDOKMAIoREVERSED ROTATED RANAoMAI YAMOKoKAANsKUUoSATKAAN",
  "1AABvKUUoHANGoCAANG",
  "1AB0aCOMBINING DOUBLED CIRCUMFLEX ACCENTlIAERESIS-RINGkINFINITYkDOWNWARDS ARROWkTRIPLE DOT",
  "1AB5kX-X BELOWkWIGGLY LINE BELOWkOPEN MARK BELOWkDOUBLE OPEN MARK BELOW",
  "1AB9kLIGHT CENTRALIZATION STROKE BELOWkSTRONG CENTRALIZATION STROKE BELOWkPARENTHESES ABOVE",
  "1ABCkDOUBLE PARENTHESES ABOVEkPARENTHESES BELOWwOVERLAYkLATIN SMALL LETTER W BELOW",
  "1AC0zeTURNED W BELOWlEFT PARENTHESIS ABOVE LEFTkRIGHT PARENTHESIS ABOVE RIGHT",
  "1AC3kLEFT PARENTHESIS BELOW LEFTkRIGHT PARENTHESIS BELOW RIGHTkSQUARE BRACKETS ABOVE",
  "1AC6kNUMBER SIGN ABOVEkINVERTED DOUBLE ARCH ABOVEkPLUS SIGN ABOVEkDOUBLE PLUS SIGN ABOVE",
  "1ACAzcBELOWkTRIPLE ACUTE ACCENTkLATIN SMALL LETTER INSULAR GzmRzmT",
  "1B00aBALINESE SIGN ULU RICEMsCANDRAoCECEKoSURANGoBISAHjLETTER AKARAv TEDUNGqIKARAv TEDUNG",
  "1B09qUKARAv TEDUNGqRA REPAx TEDUNGqLA LENGAy TEDUNGqEKARAqAIKARAqOKARAv TEDUNGqKAs MAHAPRANA",
  "1B15qGAs GORAqNGAqCAs LACAqJAs JERAqNYAqTA LATIKtMURDA MAHAPRANAqDA MURDA ALPAPRANAzMAHAPRANA",
  "1B21qNA RAMBATqTAs TAWAqDAs MADUqNAqPAs KAPALqBAs KEMBANGqMAqYAqRAqLAqWAqSA SAGAvPArAqHA",
  "1B34jSIGN REREKANjVOWEL SIGN TEDUNGuULUx SARIuSUKUy ILUTuRA REPAzc TEDUNGuLA LENGAzd TEDUNG",
  "1B3EuTALINGzb REPAzcTEDUNGzcREPA TEDUNGuPEPETz TEDUNGjADEG ADEGjLETTER KAF SASAKrHOT SASAK",
  "1B47qTZIR SASAKqEF SASAKqVE SASAKqZAL SASAKqASYURA SASAKrRCHAIC JNYA",
  "1B50jDIGIT ZEROpONEpTWOqHREEpFOURqIVEpSIXqEVENpEIGHTpNINEjPANTIlMADAjWINDUjCARIK PAMUNGKAH",
  "1B5EpSIKIpPARERENjPAMENENGjMUSICAL SYMBOL DONGzENGzUNGzANGzd SURANGzINGzAENGzEUNGzAING",
  "1B6AzbNG GEDEyCOMBINING TEGEHzjENDEPzjKEMPULznLIzjJEGOGANzjKEMPUL WITH JEGOGAN",
  "1B71znLI WITH JEGOGANzjBENDEzjGONGyRIGHT-HAND OPEN DUGzqAGzkCLOSED TUKzsAKyLEFT-HAND OPEN PANG",
  "1B79zpUNGzjCLOSED PLAKzsUKzjOPEN PINGjPANTI LANTANGlMADA LANTANG",
  "1B80aSUNDANESE SIGN PANYECEKsGLAYARtWISADkLETTER ArIrUrAErOrEsUrKArQArGArNGArCArJArZArNYArTA",
  "1B93rDArNArPArFArVArBArMArYArRArLArWArSArXArHAkCONSONANT SIGN PAMINGKALzcNYAKRAzeIKU",
  "1BA4kVOWEL SIGN PANGHULUyYUKUyAELAENGyOLONGxMEPETxNEULEUNGkSIGN PAMAAEHpVIRAMA",
  "1BACkCONSONANT SIGN PASANGAN MAzjWAkLETTER KHArSYAkDIGIT ZEROqONEqTWOrHREEqFOURrIVEqSIXrEVEN",
  "1BB8qEIGHTqNINEkAVAGRAHAkLETTER REUrLEUrBHArFINAL KxMaBATAK LETTER AnSIMALUNGUN AnHA",
  "1BC3nSIMALUNGUN HAnMANDAILING HAnBAnKARO BAnPAnSIMALUNGUN PAnNAnMANDAILING NAnWAnSIMALUNGUN WA",
  "1BCDnPAKPAK WAnGAnSIMALUNGUN GAnJAnDAnRAnSIMALUNGUN RAnMAnSIMALUNGUN MAoOUTHERN TAnNORTHERN TA",
  "1BD8nSAoIMALUNGUN SAnMANDAILING SAnYAnSIMALUNGUN YAnNGAnLAnSIMALUNGUN LAnNYAnCAnNDAnMBAnInU",
  "1BE6gSIGN TOMPIgVOWEL SIGN ErPAKPAK ErEErIrKARO IrOrKARO OrUs FOR SIMALUNGUN SA",
  "1BF0gCONSONANT SIGN NGvHgPANGOLATjONGONAN",
  "1BFCgSYMBOL BINDU NA METEKtPINARBORAStJUDULtPANGOLATaLEPCHA LETTER KApLApHAoGApLAoNGAoCApHAoJA",
  "1C09oNYAoTApHAoDAoNAoPApLApHAoFApLAoBApLAoMApLAoTSAqHAoDZAoYAoRAoLAoHApLAoVAoSApHAoWAoA",
  "1C24hSUBJOINED LETTER YAyRAhVOWEL SIGN AAsIsOtOsUtUsEhCONSONANT SIGN KwMwLwNwPwRwTwNYIN-DO",
  "1C35wKANGhSIGN RANmNUKTA",
  "1C3BhPUNCTUATION TA-ROLtNYET THYOOM TA-ROLtCER-WAtTSHOOK CER-WAyKhDIGIT ZEROnONEnTWOoHREEnFOUR",
  "1C45oIVEnSIXoEVENnEIGHTnNINE",
  "1C4DhLETTER TTAqHAoDDAaOL CHIKI DIGIT ZEROpONEpTWOqHREEpFOURqIVEpSIXqEVENpEIGHTpNINEjLETTER LA",
  "1C5BqATrGrNGrLqLAAqAAKsJsMsWqLIqISrHrNYrRqLUqUCrDrNNrYqLEqEPrDDrNrRRqLOqOTTrBrVrHjMU TTUDDAG",
  "1C79jGAAHLAA TTUDDAAGjMU-GAAHLAA TTUDDAAGjRELAAjPHAARKAAjAHADjPUNCTUATION MUCAADvDOUBLE MUCAAD",
  "1C80aCYRILLIC SMALL LETTER ROUNDED VEwLONG-LEGGED DEwNARROW OwWIDE ESwTALL TExHREE-LEGGED TE",
  "1C86xALL HARD SIGNzcYATwUNBLENDED UK",
  "1C90aGEORGIAN MTAVRULI CAPITAL LETTER ANziBANziGANziDONziENziVINziZENziTANziINziKANziLASziMAN",
  "1C9CziNARziONziPARziZHARziRAEziSANziTARziUNziPHARziKHARziGHANziQARziSHINziCHINzjANziJILziCIL",
  "1CADzjHARziXANziJHANziHAEzjEzjIEziWEziHARzjOEziFIziYNziELIFIziTURNED GANziAIN",
  "1CBDzjENziHARD SIGNziLABIAL SIGNaSUNDANESE PUNCTUATION BINDU SURYAzdPANGLONGzeURNAMAzdCAKRA",
  "1CC4zdLEU SATANGAzdKA SATANGAzdDA SATANGAzdBA SATANGA",
  "1CD0aVEDIC TONE KARSHANAlSHARAlPRENKHAgSIGN NIHSHVASAlYAJURVEDIC MIDLINE SVARITA",
  "1CD5gTONE YAJURVEDIC AGGRAVATED INDEPENDENT SVARITAwINDEPENDENT SVARITA",
  "1CD7wKATHAKA INDEPENDENT SVARITAlCANDRA BELOWlYAJURVEDIC KATHAKA INDEPENDENT SVARITA SCHROEDER",
  "1CDAlDOUBLE SVARITAlTRIPLE SVARITAlKATHAKA ANUDATTAlDOT BELOWlTWO DOTS BELOWmHREE DOTS BELOW",
  "1CE0lRIGVEDIC KASHMIRI INDEPENDENT SVARITAlATHARVAVEDIC INDEPENDENT SVARITA",
  "1CE2gSIGN VISARGA SVARITAtUDATTAlREVERSED VISARGA UDATTAlVISARGA ANUDATTA",
  "1CE6lREVERSED VISARGA ANUDATTAlVISARGA UDATTA WITH TAILtANUDATTA WITH TAIL",
  "1CE9lANUSVARA ANTARGOMUKHAuBAHIRGOMUKHAuVAMAGOMUKHAzg WITH TAILlTIRYAKlHEXIFORM LONG ANUSVARA",
  "1CEFlLONG ANUSVARAlRTHANG LONG ANUSVARAlANUSVARA UBHAYATO MUKHAmRDHAVISARGA",
  "1CF3lROTATED ARDHAVISARGAgTONE CANDRA ABOVEgSIGN JIHVAMULIYAlUPADHMANIYAlATIKRAMA",
  "1CF8gTONE RING ABOVElDOUBLE RING ABOVEgSIGN DOUBLE ANUSVARA ANTARGOMUKHA",
  "1D00aLATIN LETTER SMALL CAPITAL AzdEgSMALL LETTER TURNED AEgLETTER SMALL CAPITAL BARRED BzcC",
  "1D05zcDzcETHzcEgSMALL LETTER TURNED OPEN EzbIgLETTER SMALL CAPITAL JzcKzcL WITH STROKEzcM",
  "1D0EzcREVERSED NzcOzdPEN OgSMALL LETTER SIDEWAYS OzePEN Oze WITH STROKEtTURNED OE",
  "1D15gLETTER SMALL CAPITAL OUgSMALL LETTER TOP HALF OtBOTTOM HALF OgLETTER SMALL CAPITAL P",
  "1D19zcREVERSED RzcTURNED RzcTzcUgSMALL LETTER SIDEWAYS UzdDIAERESIZED UzdTURNED M",
  "1D20gLETTER SMALL CAPITAL VzcWzcZzcEZHnVOICED LARYNGEAL SPIRANTnAIN",
  "1D26aGREEK LETTER SMALL CAPITAL GAMMAzcLAMDAzcPIzcRHOzcPSIaCYRILLIC LETTER SMALL CAPITAL EL",
  "1D2CaMODIFIER LETTER CAPITAL AzEyBzARRED ByDyEyREVERSED EyGyHyIyJyKyLyMyNyREVERSED NyOzUyPyRyT",
  "1D41yUyWqSMALL AwTURNED AwALPHAwTURNED AEwBwDwEwSCHWAwOPEN EwTURNED OPEN EwGwTURNED IwKwMwENG",
  "1D52wOxPEN OwTOP HALF OwBOTTOM HALF OwPwTwUwSIDEWAYS UwTURNED MwVwAINwBETAwGREEK GAMMAwDELTA",
  "1D60wGREEK PHIwCHIaLATIN SUBSCRIPT SMALL LETTER IzeRzeUzeVaGREEK SUBSCRIPT SMALL LETTER BETA",
  "1D67zeGAMMAzeRHOzePHIzeCHIaLATIN SMALL LETTER UEtB WITH MIDDLE TILDEtD WITH MIDDLE TILDE",
  "1D6EtF WITH MIDDLE TILDEtM WITH MIDDLE TILDEtN WITH MIDDLE TILDEtP WITH MIDDLE TILDE",
  "1D72tR WITH MIDDLE TILDEzbFISHHOOK AND MIDDLE TILDEtS WITH MIDDLE TILDEtT WITH MIDDLE TILDE",
  "1D76tZ WITH MIDDLE TILDEtTURNED GaMODIFIER LETTER CYRILLIC ENaLATIN SMALL LETTER INSULAR G",
  "1D7AtTH WITH STRIKETHROUGHmCAPITAL LETTER I WITH STROKEmLETTER IOTA WITH STROKEtP WITH STROKE",
  "1D7EmCAPITAL LETTER U WITH STROKEmLETTER UPSILON WITH STROKEtB WITH PALATAL HOOK",
  "1D81tD WITH PALATAL HOOKtF WITH PALATAL HOOKtG WITH PALATAL HOOKtK WITH PALATAL HOOK",
  "1D85tL WITH PALATAL HOOKtM WITH PALATAL HOOKtN WITH PALATAL HOOKtP WITH PALATAL HOOK",
  "1D89tR WITH PALATAL HOOKtS WITH PALATAL HOOKtESH WITH PALATAL HOOKtV WITH PALATAL HOOK",
  "1D8DtX WITH PALATAL HOOKtZ WITH PALATAL HOOKtA WITH RETROFLEX HOOKuLPHA WITH RETROFLEX HOOK",
  "1D91tD WITH HOOK AND TAILtE WITH RETROFLEX HOOKtOPEN E WITH RETROFLEX HOOK",
  "1D94tREVERSED OPEN E WITH RETROFLEX HOOKtSCHWA WITH RETROFLEX HOOKtI WITH RETROFLEX HOOK",
  "1D97tOPEN O WITH RETROFLEX HOOKtESH WITH RETROFLEX HOOKtU WITH RETROFLEX HOOK",
  "1D9AtEZH WITH RETROFLEX HOOKaMODIFIER LETTER SMALL TURNED ALPHAwCx WITH CURLwETH",
  "1D9FwREVERSED OPEN EwFwDOTLESS J WITH STROKEwSCRIPT GwTURNED HwI WITH STROKExOTAwCAPITAL I",
  "1DA7zg WITH STROKEwJ WITH CROSSED-TAILwL WITH RETROFLEX HOOKzePALATAL HOOKwCAPITAL L",
  "1DACwM WITH HOOKwTURNED M WITH LONG LEGwN WITH LEFT HOOKzeRETROFLEX HOOKwCAPITAL NwBARRED O",
  "1DB2wPHIwS WITH HOOKwESHwT WITH PALATAL HOOKwU BARxPSILONwCAPITAL UwV WITH HOOKwTURNED VwZ",
  "1DBCx WITH RETROFLEX HOOKzeCURLwEZHwTHETAaCOMBINING DOTTED GRAVE ACCENTrACUTE ACCENT",
  "1DC2kSNAKE BELOWlUSPENSION MARKkMACRON-ACUTEkGRAVE-MACRONkMACRON-GRAVEkACUTE-MACRON",
  "1DC8kGRAVE-ACUTE-GRAVEkACUTE-GRAVE-ACUTEkLATIN SMALL LETTER R BELOWkBREVE-MACRONkMACRON-BREVE",
  "1DCDkDOUBLE CIRCUMFLEX ABOVEkOGONEK ABOVEkZIGZAG BELOWkIS BELOWkUR ABOVElS ABOVE",
  "1DD3kLATIN SMALL LETTER FLATTENED OPEN A ABOVEzeAEzfOzfVzeC CEDILLAzeINSULAR DzeETHzeG",
  "1DDBqLETTER SMALL CAPITAL GqSMALL LETTER KzeLqLETTER SMALL CAPITAL LzmMqSMALL LETTER N",
  "1DE1qLETTER SMALL CAPITAL NzmRqSMALL LETTER R ROTUNDAzeSzeLONG SzeZzeALPHAzeBzfETAzeSCHWAzeF",
  "1DECzeL WITH DOUBLE MIDDLE TILDEzeO WITH LIGHT CENTRALIZATION STROKEzePzeESH",
  "1DF0zeU WITH LIGHT CENTRALIZATION STROKEzeWzeA WITH DIAERESISzeO WITH DIAERESIS",
  "1DF4zeU WITH DIAERESISkUP TACK ABOVEkKAVYKA ABOVE RIGHTxLEFTkDOT ABOVE LEFT",
  "1DF9kWIDE INVERTED BRIDGE BELOWkDOT BELOW LEFTlELETION MARKlOUBLE INVERTED BREVE BELOW",
  "1DFDkALMOST EQUAL TO BELOWkLEFT ARROWHEAD ABOVEkRIGHT ARROWHEAD AND DOWN ARROWHEAD BELOW",
  "1E00aLATIN CAPITAL LETTER A WITH RING BELOWgSMALL LETTER A WITH RING BELOW",
  "1E02gCAPITAL LETTER B WITH DOT ABOVEgSMALL LETTER B WITH DOT ABOVE",
  "1E04gCAPITAL LETTER B WITH DOT BELOWgSMALL LETTER B WITH DOT BELOW",
  "1E06gCAPITAL LETTER B WITH LINE BELOWgSMALL LETTER B WITH LINE BELOW",
  "1E08gCAPITAL LETTER C WITH CEDILLA AND ACUTEgSMALL LETTER C WITH CEDILLA AND ACUTE",
  "1E0AgCAPITAL LETTER D WITH DOT ABOVEgSMALL LETTER D WITH DOT ABOVE",
  "1E0CgCAPITAL LETTER D WITH DOT BELOWgSMALL LETTER D WITH DOT BELOW",
  "1E0EgCAPITAL LETTER D WITH LINE BELOWgSMALL LETTER D WITH LINE BELOW",
  "1E10gCAPITAL LETTER D WITH CEDILLAgSMALL LETTER D WITH CEDILLA",
  "1E12gCAPITAL LETTER D WITH CIRCUMFLEX BELOWgSMALL LETTER D WITH CIRCUMFLEX BELOW",
  "1E14gCAPITAL LETTER E WITH MACRON AND GRAVEgSMALL LETTER E WITH MACRON AND GRAVE",
  "1E16gCAPITAL LETTER E WITH MACRON AND ACUTEgSMALL LETTER E WITH MACRON AND ACUTE",
  "1E18gCAPITAL LETTER E WITH CIRCUMFLEX BELOWgSMALL LETTER E WITH CIRCUMFLEX BELOW",
  "1E1AgCAPITAL LETTER E WITH TILDE BELOWgSMALL LETTER E WITH TILDE BELOW",
  "1E1CgCAPITAL LETTER E WITH CEDILLA AND BREVEgSMALL LETTER E WITH CEDILLA AND BREVE",
  "1E1EgCAPITAL LETTER F WITH DOT ABOVEgSMALL LETTER F WITH DOT ABOVE",
  "1E20gCAPITAL LETTER G WITH MACRONgSMALL LETTER G WITH MACRONgCAPITAL LETTER H WITH DOT ABOVE",
  "1E23gSMALL LETTER H WITH DOT ABOVEgCAPITAL LETTER H WITH DOT BELOW",
  "1E25gSMALL LETTER H WITH DOT BELOWgCAPITAL LETTER H WITH DIAERESIS",
  "1E27gSMALL LETTER H WITH DIAERESISgCAPITAL LETTER H WITH CEDILLAgSMALL LETTER H WITH CEDILLA",
  "1E2AgCAPITAL LETTER H WITH BREVE BELOWgSMALL LETTER H WITH BREVE BELOW",
  "1E2CgCAPITAL LETTER I WITH TILDE BELOWgSMALL LETTER I WITH TILDE BELOW",
  "1E2EgCAPITAL LETTER I WITH DIAERESIS AND ACUTEgSMALL LETTER I WITH DIAERESIS AND ACUTE",
  "1E30gCAPITAL LETTER K WITH ACUTEgSMALL LETTER K WITH ACUTEgCAPITAL LETTER K WITH DOT BELOW",
  "1E33gSMALL LETTER K WITH DOT BELOWgCAPITAL LETTER K WITH LINE BELOW",
  "1E35gSMALL LETTER K WITH LINE BELOWgCAPITAL LETTER L WITH DOT BELOW",
  "1E37gSMALL LETTER L WITH DOT BELOWgCAPITAL LETTER L WITH DOT BELOW AND MACRON",
  "1E39gSMALL LETTER L WITH DOT BELOW AND MACRONgCAPITAL LETTER L WITH LINE BELOW",
  "1E3BgSMALL LETTER L WITH LINE BELOWgCAPITAL LETTER L WITH CIRCUMFLEX BELOW",
  "1E3DgSMALL LETTER L WITH CIRCUMFLEX BELOWgCAPITAL LETTER M WITH ACUTE",
  "1E3FgSMALL LETTER M WITH ACUTEgCAPITAL LETTER M WITH DOT ABOVEgSMALL LETTER M WITH DOT ABOVE",
  "1E42gCAPITAL LETTER M WITH DOT BELOWgSMALL LETTER M WITH DOT BELOW",
  "1E44gCAPITAL LETTER N WITH DOT ABOVEgSMALL LETTER N WITH DOT ABOVE",
  "1E46gCAPITAL LETTER N WITH DOT BELOWgSMALL LETTER N WITH DOT BELOW",
  "1E48gCAPITAL LETTER N WITH LINE BELOWgSMALL LETTER N WITH LINE BELOW",
  "1E4AgCAPITAL LETTER N WITH CIRCUMFLEX BELOWgSMALL LETTER N WITH CIRCUMFLEX BELOW",
  "1E4CgCAPITAL LETTER O WITH TILDE AND ACUTEgSMALL LETTER O WITH TILDE AND ACUTE",
  "1E4EgCAPITAL LETTER O WITH TILDE AND DIAERESISgSMALL LETTER O WITH TILDE AND DIAERESIS",
  "1E50gCAPITAL LETTER O WITH MACRON AND GRAVEgSMALL LETTER O WITH MACRON AND GRAVE",
  "1E52gCAPITAL LETTER O WITH MACRON AND ACUTEgSMALL LETTER O WITH MACRON AND ACUTE",
  "1E54gCAPITAL LETTER P WITH ACUTEgSMALL LETTER P WITH ACUTEgCAPITAL LETTER P WITH DOT ABOVE",
  "1E57gSMALL LETTER P WITH DOT ABOVEgCAPITAL LETTER R WITH DOT ABOVE",
  "1E59gSMALL LETTER R WITH DOT ABOVEgCAPITAL LETTER R WITH DOT BELOW",
  "1E5BgSMALL LETTER R WITH DOT BELOWgCAPITAL LETTER R WITH DOT BELOW AND MACRON",
  "1E5DgSMALL LETTER R WITH DOT BELOW AND MACRONgCAPITAL LETTER R WITH LINE BELOW",
  "1E5FgSMALL LETTER R WITH LINE BELOWgCAPITAL LETTER S WITH DOT ABOVE",
  "1E61gSMALL LETTER S WITH DOT ABOVEgCAPITAL LETTER S WITH DOT BELOW",
  "1E63gSMALL LETTER S WITH DOT BELOWgCAPITAL LETTER S WITH ACUTE AND DOT ABOVE",
  "1E65gSMALL LETTER S WITH ACUTE AND DOT ABOVEgCAPITAL LETTER S WITH CARON AND DOT ABOVE",
  "1E67gSMALL LETTER S WITH CARON AND DOT ABOVEgCAPITAL LETTER S WITH DOT BELOW AND DOT ABOVE",
  "1E69gSMALL LETTER S WITH DOT BELOW AND DOT ABOVEgCAPITAL LETTER T WITH DOT ABOVE",
  "1E6BgSMALL LETTER T WITH DOT ABOVEgCAPITAL LETTER T WITH DOT BELOW",
  "1E6DgSMALL LETTER T WITH DOT BELOWgCAPITAL LETTER T WITH LINE BELOW",
  "1E6FgSMALL LETTER T WITH LINE BELOWgCAPITAL LETTER T WITH CIRCUMFLEX BELOW",
  "1E71gSMALL LETTER T WITH CIRCUMFLEX BELOWgCAPITAL LETTER U WITH DIAERESIS BELOW",
  "1E73gSMALL LETTER U WITH DIAERESIS BELOWgCAPITAL LETTER U WITH TILDE BELOW",
  "1E75gSMALL LETTER U WITH TILDE BELOWgCAPITAL LETTER U WITH CIRCUMFLEX BELOW",
  "1E77gSMALL LETTER U WITH CIRCUMFLEX BELOWgCAPITAL LETTER U WITH TILDE AND ACUTE",
  "1E79gSMALL LETTER U WITH TILDE AND ACUTEgCAPITAL LETTER U WITH MACRON AND DIAERESIS",
  "1E7BgSMALL LETTER U WITH MACRON AND DIAERESISgCAPITAL LETTER V WITH TILDE",
  "1E7DgSMALL LETTER V WITH TILDEgCAPITAL LETTER V WITH DOT BELOWgSMALL LETTER V WITH DOT BELOW",
  "1E80gCAPITAL LETTER W WITH GRAVEgSMALL LETTER W WITH GRAVEgCAPITAL LETTER W WITH ACUTE",
  "1E83gSMALL LETTER W WITH ACUTEgCAPITAL LETTER W WITH DIAERESISgSMALL LETTER W WITH DIAERESIS",
  "1E86gCAPITAL LETTER W WITH DOT ABOVEgSMALL LETTER W WITH DOT ABOVE",
  "1E88gCAPITAL LETTER W WITH DOT BELOWgSMALL LETTER W WITH DOT BELOW",
  "1E8AgCAPITAL LETTER X WITH DOT ABOVEgSMALL LETTER X WITH DOT ABOVE",
  "1E8CgCAPITAL LETTER X WITH DIAERESISgSMALL LETTER X WITH DIAERESIS",
  "1E8EgCAPITAL LETTER Y WITH DOT ABOVEgSMALL LETTER Y WITH DOT ABOVE",
  "1E90gCAPITAL LETTER Z WITH CIRCUMFLEXgSMALL LETTER Z WITH CIRCUMFLEX",
  "1E92gCAPITAL LETTER Z WITH DOT BELOWgSMALL LETTER Z WITH DOT BELOW",
  "1E94gCAPITAL LETTER Z WITH LINE BELOWgSMALL LETTER Z WITH LINE BELOWtH WITH LINE BELOW",
  "1E97tT WITH DIAERESIStW WITH RING ABOVEtY WITH RING ABOVEtA WITH RIGHT HALF RING",
  "1E9BtLONG S WITH DOT ABOVEzhIAGONAL STROKEzgHIGH STROKEgCAPITAL LETTER SHARP S",
  "1E9FgSMALL LETTER DELTAgCAPITAL LETTER A WITH DOT BELOWgSMALL LETTER A WITH DOT BELOW",
  "1EA2gCAPITAL LETTER A WITH HOOK ABOVEgSMALL LETTER A WITH HOOK ABOVE",
  "1EA4gCAPITAL LETTER A WITH CIRCUMFLEX AND ACUTEgSMALL LETTER A WITH CIRCUMFLEX AND ACUTE",
  "1EA6gCAPITAL LETTER A WITH CIRCUMFLEX AND GRAVEgSMALL LETTER A WITH CIRCUMFLEX AND GRAVE",
  "1EA8gCAPITAL LETTER A WITH CIRCUMFLEX AND HOOK ABOVE",
  "1EA9gSMALL LETTER A WITH CIRCUMFLEX AND HOOK ABOVEgCAPITAL LETTER A WITH CIRCUMFLEX AND TILDE",
  "1EABgSMALL LETTER A WITH CIRCUMFLEX AND TILDEgCAPITAL LETTER A WITH CIRCUMFLEX AND DOT BELOW",
  "1EADgSMALL LETTER A WITH CIRCUMFLEX AND DOT BELOWgCAPITAL LETTER A WITH BREVE AND ACUTE",
  "1EAFgSMALL LETTER A WITH BREVE AND ACUTEgCAPITAL LETTER A WITH BREVE AND GRAVE",
  "1EB1gSMALL LETTER A WITH BREVE AND GRAVEgCAPITAL LETTER A WITH BREVE AND HOOK ABOVE",
  "1EB3gSMALL LETTER A WITH BREVE AND HOOK ABOVEgCAPITAL LETTER A WITH BREVE AND TILDE",
  "1EB5gSMALL LETTER A WITH BREVE AND TILDEgCAPITAL LETTER A WITH BREVE AND DOT BELOW",
  "1EB7gSMALL LETTER A WITH BREVE AND DOT BELOWgCAPITAL LETTER E WITH DOT BELOW",
  "1EB9gSMALL LETTER E WITH DOT BELOWgCAPITAL LETTER E WITH HOOK ABOVE",
  "1EBBgSMALL LETTER E WITH HOOK ABOVEgCAPITAL LETTER E WITH TILDEgSMALL LETTER E WITH TILDE",
  "1EBEgCAPITAL LETTER E WITH CIRCUMFLEX AND ACUTEgSMALL LETTER E WITH CIRCUMFLEX AND ACUTE",
  "1EC0gCAPITAL LETTER E WITH CIRCUMFLEX AND GRAVEgSMALL LETTER E WITH CIRCUMFLEX AND GRAVE",
  "1EC2gCAPITAL LETTER E WITH CIRCUMFLEX AND HOOK ABOVE",
  "1EC3gSMALL LETTER E WITH CIRCUMFLEX AND HOOK ABOVEgCAPITAL LETTER E WITH CIRCUMFLEX AND TILDE",
  "1EC5gSMALL LETTER E WITH CIRCUMFLEX AND TILDEgCAPITAL LETTER E WITH CIRCUMFLEX AND DOT BELOW",
  "1EC7gSMALL LETTER E WITH CIRCUMFLEX AND DOT BELOWgCAPITAL LETTER I WITH HOOK ABOVE",
  "1EC9gSMALL LETTER I WITH HOOK ABOVEgCAPITAL LETTER I WITH DOT BELOW",
  "1ECBgSMALL LETTER I WITH DOT BELOWgCAPITAL LETTER O WITH DOT BELOW",
  "1ECDgSMALL LETTER O WITH DOT BELOWgCAPITAL LETTER O WITH HOOK ABOVE",
  "1ECFgSMALL LETTER O WITH HOOK ABOVEgCAPITAL LETTER O WITH CIRCUMFLEX AND ACUTE",
  "1ED1gSMALL LETTER O WITH CIRCUMFLEX AND ACUTEgCAPITAL LETTER O WITH CIRCUMFLEX AND GRAVE",
  "1ED3gSMALL LETTER O WITH CIRCUMFLEX AND GRAVEgCAPITAL LETTER O WITH CIRCUMFLEX AND HOOK ABOVE",
  "1ED5gSMALL LETTER O WITH CIRCUMFLEX AND HOOK ABOVEgCAPITAL LETTER O WITH CIRCUMFLEX AND TILDE",
  "1ED7gSMALL LETTER O WITH CIRCUMFLEX AND TILDEgCAPITAL LETTER O WITH CIRCUMFLEX AND DOT BELOW",
  "1ED9gSMALL LETTER O WITH CIRCUMFLEX AND DOT BELOWgCAPITAL LETTER O WITH HORN AND ACUTE",
  "1EDBgSMALL LETTER O WITH HORN AND ACUTEgCAPITAL LETTER O WITH HORN AND GRAVE",
  "1EDDgSMALL LETTER O WITH HORN AND GRAVEgCAPITAL LETTER O WITH HORN AND HOOK ABOVE",
  "1EDFgSMALL LETTER O WITH HORN AND HOOK ABOVEgCAPITAL LETTER O WITH HORN AND TILDE",
  "1EE1gSMALL LETTER O WITH HORN AND TILDEgCAPITAL LETTER O WITH HORN AND DOT BELOW",
  "1EE3gSMALL LETTER O WITH HORN AND DOT BELOWgCAPITAL LETTER U WITH DOT BELOW",
  "1EE5gSMALL LETTER U WITH DOT BELOWgCAPITAL LETTER U WITH HOOK ABOVE",
  "1EE7gSMALL LETTER U WITH HOOK ABOVEgCAPITAL LETTER U WITH HORN AND ACUTE",
  "1EE9gSMALL LETTER U WITH HORN AND ACUTEgCAPITAL LETTER U WITH HORN AND GRAVE",
  "1EEBgSMALL LETTER U WITH HORN AND GRAVEgCAPITAL LETTER U WITH HORN AND HOOK ABOVE",
  "1EEDgSMALL LETTER U WITH HORN AND HOOK ABOVEgCAPITAL LETTER U WITH HORN AND TILDE",
  "1EEFgSMALL LETTER U WITH HORN AND TILDEgCAPITAL LETTER U WITH HORN AND DOT BELOW",
  "1EF1gSMALL LETTER U WITH HORN AND DOT BELOWgCAPITAL LETTER Y WITH GRAVE",
  "1EF3gSMALL LETTER Y WITH GRAVEgCAPITAL LETTER Y WITH DOT BELOWgSMALL LETTER Y WITH DOT BELOW",
  "1EF6gCAPITAL LETTER Y WITH HOOK ABOVEgSMALL LETTER Y WITH HOOK ABOVE",
  "1EF8gCAPITAL LETTER Y WITH TILDEgSMALL LETTER Y WITH TILDEgCAPITAL LETTER MIDDLE-WELSH LL",
  "1EFBgSMALL LETTER MIDDLE-WELSH LLgCAPITAL LETTER MIDDLE-WELSH VgSMALL LETTER MIDDLE-WELSH V",
  "1EFEgCAPITAL LETTER Y WITH LOOPgSMALL LETTER Y WITH LOOPaGREEK SMALL LETTER ALPHA WITH PSILI",
  "1F01zfDASIAzfPSILI AND VARIAzfDASIA AND VARIAzfPSILI AND OXIAzfDASIA AND OXIA",
  "1F06zfPSILI AND PERISPOMENIzfDASIA AND PERISPOMENIgCAPITAL LETTER ALPHA WITH PSILIzhDASIA",
  "1F0AzhPSILI AND VARIAzhDASIA AND VARIAzhPSILI AND OXIAzhDASIA AND OXIAzhPSILI AND PERISPOMENI",
  "1F0FzhDASIA AND PERISPOMENIgSMALL LETTER EPSILON WITH PSILIzhDASIAzhPSILI AND VARIA",
  "1F13zhDASIA AND VARIAzhPSILI AND OXIAzhDASIA AND OXIA",
  "1F18gCAPITAL LETTER EPSILON WITH PSILIzjDASIAzjPSILI AND VARIAzjDASIA AND VARIA",
  "1F1CzjPSILI AND OXIAzjDASIA AND OXIA",
  "1F20gSMALL LETTER ETA WITH PSILIzdDASIAzdPSILI AND VARIAzdDASIA AND VARIAzdPSILI AND OXIA",
  "1F25zdDASIA AND OXIAzdPSILI AND PERISPOMENIzdDASIA AND PERISPOMENI",
  "1F28gCAPITAL LETTER ETA WITH PSILIzfDASIAzfPSILI AND VARIAzfDASIA AND VARIAzfPSILI AND OXIA",
  "1F2DzfDASIA AND OXIAzfPSILI AND PERISPOMENIzfDASIA AND PERISPOMENI",
  "1F30gSMALL LETTER IOTA WITH PSILIzeDASIAzePSILI AND VARIAzeDASIA AND VARIAzePSILI AND OXIA",
  "1F35zeDASIA AND OXIAzePSILI AND PERISPOMENIzeDASIA AND PERISPOMENI",
  "1F38gCAPITAL LETTER IOTA WITH PSILIzgDASIAzgPSILI AND VARIAzgDASIA AND VARIAzgPSILI AND OXIA",
  "1F3DzgDASIA AND OXIAzgPSILI AND PERISPOMENIzgDASIA AND PERISPOMENI",
  "1F40gSMALL LETTER OMICRON WITH PSILIzhDASIAzhPSILI AND VARIAzhDASIA AND VARIAzhPSILI AND OXIA",
  "1F45zhDASIA AND OXIA",
  "1F48gCAPITAL LETTER OMICRON WITH PSILIzjDASIAzjPSILI AND VARIAzjDASIA AND VARIA",
  "1F4CzjPSILI AND OXIAzjDASIA AND OXIA",
  "1F50gSMALL LETTER UPSILON WITH PSILIzhDASIAzhPSILI AND VARIAzhDASIA AND VARIAzhPSILI AND OXIA",
  "1F55zhDASIA AND OXIAzhPSILI AND PERISPOMENIzhDASIA AND PERISPOMENI",
  "1F59gCAPITAL LETTER UPSILON WITH DASIA",
  "1F5Bzo AND VARIA",
  "1F5DztOXIA",
  "1F5FztPERISPOMENIgSMALL LETTER OMEGA WITH PSILIzfDASIAzfPSILI AND VARIAzfDASIA AND VARIA",
  "1F64zfPSILI AND OXIAzfDASIA AND OXIAzfPSILI AND PERISPOMENIzfDASIA AND PERISPOMENI",
  "1F68gCAPITAL LETTER OMEGA WITH PSILIzhDASIAzhPSILI AND VARIAzhDASIA AND VARIAzhPSILI AND OXIA",
  "1F6DzhDASIA AND OXIAzhPSILI AND PERISPOMENIzhDASIA AND PERISPOMENI",
  "1F70gSMALL LETTER ALPHA WITH VARIAzfOXIAtEPSILON WITH VARIAzhOXIAuTA WITH VARIAzdOXIA",
  "1F76tIOTA WITH VARIAzeOXIAtOMICRON WITH VARIAzhOXIAtUPSILON WITH VARIAzhOXIAtOMEGA WITH VARIA",
  "1F7DzfOXIA",
  "1F80tALPHA WITH PSILI AND YPOGEGRAMMENIzfDASIA AND YPOGEGRAMMENI",
  "1F82zfPSILI AND VARIA AND YPOGEGRAMMENIzfDASIA AND VARIA AND YPOGEGRAMMENI",
  "1F84zfPSILI AND OXIA AND YPOGEGRAMMENIzfDASIA AND OXIA AND YPOGEGRAMMENI",
  "1F86zfPSILI AND PERISPOMENI AND YPOGEGRAMMENIzfDASIA AND PERISPOMENI AND YPOGEGRAMMENI",
  "1F88gCAPITAL LETTER ALPHA WITH PSILI AND PROSGEGRAMMENIzhDASIA AND PROSGEGRAMMENI",
  "1F8AzhPSILI AND VARIA AND PROSGEGRAMMENIzhDASIA AND VARIA AND PROSGEGRAMMENI",
  "1F8CzhPSILI AND OXIA AND PROSGEGRAMMENIzhDASIA AND OXIA AND PROSGEGRAMMENI",
  "1F8EzhPSILI AND PERISPOMENI AND PROSGEGRAMMENIzhDASIA AND PERISPOMENI AND PROSGEGRAMMENI",
  "1F90gSMALL LETTER ETA WITH PSILI AND YPOGEGRAMMENIzdDASIA AND YPOGEGRAMMENI",
  "1F92zdPSILI AND VARIA AND YPOGEGRAMMENIzdDASIA AND VARIA AND YPOGEGRAMMENI",
  "1F94zdPSILI AND OXIA AND YPOGEGRAMMENIzdDASIA AND OXIA AND YPOGEGRAMMENI",
  "1F96zdPSILI AND PERISPOMENI AND YPOGEGRAMMENIzdDASIA AND PERISPOMENI AND YPOGEGRAMMENI",
  "1F98gCAPITAL LETTER ETA WITH PSILI AND PROSGEGRAMMENIzfDASIA AND PROSGEGRAMMENI",
  "1F9AzfPSILI AND VARIA AND PROSGEGRAMMENIzfDASIA AND VARIA AND PROSGEGRAMMENI",
  "1F9CzfPSILI AND OXIA AND PROSGEGRAMMENIzfDASIA AND OXIA AND PROSGEGRAMMENI",
  "1F9EzfPSILI AND PERISPOMENI AND PROSGEGRAMMENIzfDASIA AND PERISPOMENI AND PROSGEGRAMMENI",
  "1FA0gSMALL LETTER OMEGA WITH PSILI AND YPOGEGRAMMENIzfDASIA AND YPOGEGRAMMENI",
  "1FA2zfPSILI AND VARIA AND YPOGEGRAMMENIzfDASIA AND VARIA AND YPOGEGRAMMENI",
  "1FA4zfPSILI AND OXIA AND YPOGEGRAMMENIzfDASIA AND OXIA AND YPOGEGRAMMENI",
  "1FA6zfPSILI AND PERISPOMENI AND YPOGEGRAMMENIzfDASIA AND PERISPOMENI AND YPOGEGRAMMENI",
  "1FA8gCAPITAL LETTER OMEGA WITH PSILI AND PROSGEGRAMMENIzhDASIA AND PROSGEGRAMMENI",
  "1FAAzhPSILI AND VARIA AND PROSGEGRAMMENIzhDASIA AND VARIA AND PROSGEGRAMMENI",
  "1FACzhPSILI AND OXIA AND PROSGEGRAMMENIzhDASIA AND OXIA AND PROSGEGRAMMENI",
  "1FAEzhPSILI AND PERISPOMENI AND PROSGEGRAMMENIzhDASIA AND PERISPOMENI AND PROSGEGRAMMENI",
  "1FB0gSMALL LETTER ALPHA WITH VRACHYzfMACRONzfVARIA AND YPOGEGRAMMENIzfYPOGEGRAMMENI",
  "1FB4zfOXIA AND YPOGEGRAMMENI",
  "1FB6zfPERISPOMENIzq AND YPOGEGRAMMENIgCAPITAL LETTER ALPHA WITH VRACHYzhMACRONzhVARIAzhOXIA",
  "1FBCzhPROSGEGRAMMENIgKORONISgPROSGEGRAMMENIhSILIhERISPOMENIgDIALYTIKA AND PERISPOMENI",
  "1FC2gSMALL LETTER ETA WITH VARIA AND YPOGEGRAMMENIzdYPOGEGRAMMENIzdOXIA AND YPOGEGRAMMENI",
  "1FC6zdPERISPOMENIzo AND YPOGEGRAMMENIgCAPITAL LETTER EPSILON WITH VARIAzjOXIAwTA WITH VARIA",
  "1FCBzfOXIAzfPROSGEGRAMMENIgPSILI AND VARIAqOXIAqPERISPOMENIgSMALL LETTER IOTA WITH VRACHY",
  "1FD1zeMACRONzeDIALYTIKA AND VARIAzsOXIA",
  "1FD6zePERISPOMENIzeDIALYTIKA AND PERISPOMENIgCAPITAL LETTER IOTA WITH VRACHYzgMACRONzgVARIA",
  "1FDBzgOXIA",
  "1FDDgDASIA AND VARIAqOXIAqPERISPOMENIgSMALL LETTER UPSILON WITH VRACHYzhMACRON",
  "1FE2zhDIALYTIKA AND VARIAzvOXIAtRHO WITH PSILIzdDASIAtUPSILON WITH PERISPOMENI",
  "1FE7zhDIALYTIKA AND PERISPOMENIgCAPITAL LETTER UPSILON WITH VRACHYzjMACRONzjVARIAzjOXIA",
  "1FECvRHO WITH DASIAgDIALYTIKA AND VARIAuOXIAgVARIA",
  "1FF2gSMALL LETTER OMEGA WITH VARIA AND YPOGEGRAMMENIzfYPOGEGRAMMENIzfOXIA AND YPOGEGRAMMENI",
  "1FF6zfPERISPOMENIzq AND YPOGEGRAMMENIgCAPITAL LETTER OMICRON WITH VARIAzjOXIAxEGA WITH VARIA",
  "1FFBzhOXIAzhPROSGEGRAMMENIgOXIAgDASIA"]

end ModuleBridge.Text
