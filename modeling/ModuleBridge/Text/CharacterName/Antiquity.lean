/-!
# Names of characters from U+10000 to U+11FFF: scripts of antiquity and of few readers
-/

namespace ModuleBridge.Text

/-- Lines of names. -/
def ancientNames : List String := [
  "10000aLINEAR B SYLLABLE B008 Au38 Eu28 Iu61 Ou10 Uu01 DAu45 DEu07 DIu14 DOu51 DUv7 JAu46 JE",
  "1000Du36 JOu65 JUu77 KAu44 KEu67 KIu70 KOu81 KUv0 MAu13 MEu73 MIu15 MOu23 MUu06 NAu24 NEu30 NI",
  "1001Cu52 NOv5 NUu03 PAu72 PEu39 PIu11 POu50 PUu16 QAu78 QEu21 QIu32 QO",
  "10028u60 RAu27 REu53 RIu02 ROu26 RUu31 SAu09 SEu41 SIu12 SOu58 SUv9 TAu04 TEu37 TIu05 TOu69 TU",
  "10037u54 WAu75 WEu40 WIv2 WO",
  "1003Cu17 ZAu74 ZE",
  "1003Fu20 ZOv5 A2u43 A3u85 AUu71 DWEu90 DWOu48 NWAu29 PU2u62 PTEu76 RA2u33 RA3u68 RO2v6 TA2",
  "1004Cu87 TWEu91 TWO",
  "10050lMBOL B018t9s22s34s47t9s56s63t4s79s82t3t6t9",
  "10080jIDEOGRAM B100 MANv2 WOMANv4 DEERv5 EQUIDwF MAREwM STALLIONv6F EWEwM RAMv7F SHE-GOAT",
  "10089wM HE-GOATv8F SOWwM BOARv9F COWwM BULLu20 WHEATv1 BARLEYv2 OLIVEv3 SPICEv5 CYPERUS",
  "10093jMONOGRAM B127 KAPOv8 KANAKOjIDEOGRAM B130 OILv1 WINEv2jMONOGRAM B133 AREPAv5 MERI",
  "1009AjIDEOGRAM B140 BRONZEv1 GOLDv2v5 WOOLv6u50v1 HORNv2v3v4jMONOGRAM B156 TURO2jIDEOGRAM B157",
  "100A6v8v9 CLOTHu60v1v2 GARMENTv3 ARMOURv4v5v6v7v8v9u70v1v2v3 MONTHv4v6 TREEv7v8v9u80v1v2v3v4v5",
  "100C1v9u90v1 HELMETt220 FOOTSTOOLv5 BATHTUBu30 SPEARv1 ARROWv2v3 SWORDv4v6u40 WHEELED CHARIOT",
  "100CDv1 CHARIOTv2 CHARIOT FRAMEv3 WHEELv5v6jMONOGRAM B247 DIPTEjIDEOGRAM B248v9u51v2v3v4 DART",
  "100D9v5v6v7v8v9sVESSEL B155zb200zd1zd2zd3zd4zd5zd6zd7zd8zd9zc10zd1zd2zd3zd4zd5zd6zd7zd8zd9zc21",
  "100F4zd2zd6zd7zd8zd9zc50zb305",
  "10100aAEGEAN WORD SEPARATOR LINEwDOThCHECK MARK",
  "10107hNUMBER ONEoTWOpHREEoFOURpIVEoSIXpEVENoEIGHToNINEoTENpWENTYpHIRTYoFORTYpIFTYoSIXTYpEVENTY",
  "10117oEIGHTYoNINETYoONE HUNDREDoTWO HUNDREDpHREE HUNDREDoFOUR HUNDREDpIVE HUNDREDoSIX HUNDRED",
  "1011FpEVEN HUNDREDoEIGHT HUNDREDoNINE HUNDREDoONE THOUSANDoTWO THOUSANDpHREE THOUSAND",
  "10125oFOUR THOUSANDpIVE THOUSANDoSIX THOUSANDpEVEN THOUSANDoEIGHT THOUSANDoNINE THOUSAND",
  "1012BoTEN THOUSANDpWENTY THOUSANDpHIRTY THOUSANDoFORTY THOUSANDpIFTY THOUSANDoSIXTY THOUSAND",
  "10131pEVENTY THOUSANDoEIGHTY THOUSANDoNINETY THOUSAND",
  "10137hWEIGHT BASE UNIToFIRST SUBUNIToSECOND SUBUNIToTHIRD SUBUNIToFOURTH SUBUNIT",
  "1013ChDRY MEASURE FIRST SUBUNIThLIQUID MEASURE FIRST SUBUNIThMEASURE SECOND SUBUNIT",
  "1013FpTHIRD SUBUNITaGREEK ACROPHONIC ATTIC ONE QUARTERzcHALFzcDRACHMAxFIVEzFTYzVE HUNDRED",
  "10146zdTHOUSANDzFTY THOUSANDzVE TALENTSxTEN TALENTSxFIFTY TALENTSxONE HUNDRED TALENTS",
  "1014CxFIVE HUNDRED TALENTSxONE THOUSAND TALENTSxFIVE THOUSAND TALENTSzdSTATERSxTEN STATERS",
  "10151xFIFTY STATERSxONE HUNDRED STATERSxFIVE HUNDRED STATERSxONE THOUSAND STATERS",
  "10155xTEN THOUSAND STATERSxFIFTY THOUSAND STATERSxTEN MNASrHERAEUM ONE PLETHRONrTHESPIAN ONE",
  "1015ArHERMIONIAN ONErEPIDAUREAN TWOrTHESPIAN TWOrCYRENAIC TWO DRACHMASrEPIDAUREAN TWO DRACHMAS",
  "1015FrTROEZENIAN FIVEzdTENzg ALTERNATE FORMrHERMIONIAN TENrMESSENIAN TENrTHESPIAN TENzcHIRTY",
  "10166sROEZENIAN FIFTYzi ALTERNATE FORMrHERMIONIAN FIFTYrTHESPIAN FIFTYzbONE HUNDRED",
  "1016BzbTHREE HUNDREDrEPIDAUREAN FIVE HUNDREDrTROEZENIAN FIVE HUNDREDsHESPIAN FIVE HUNDRED",
  "1016FrCARYSTIAN FIVE HUNDREDrNAXIAN FIVE HUNDREDrTHESPIAN ONE THOUSANDzbFIVE THOUSAND",
  "10173rDELPHIC FIVE MNASrSTRATIAN FIFTY MNASgONE HALF SIGNt ALTERNATE FORMgTWO THIRDS SIGN",
  "10178hHREE QUARTERS SIGNgYEAR SIGNgTALENT SIGNgDRACHMA SIGNgOBOL SIGNgTWO OBOLS SIGN",
  "1017EhHREE OBOLS SIGNgFOUR OBOLS SIGNhIVE OBOLS SIGNgMETRETES SIGNgKYATHOS BASE SIGN",
  "10183gLITRA SIGNgOUNKIA SIGNgXESTES SIGNgARTABE SIGNiOURA SIGNgGRAMMA SIGNgTRYBLION BASE SIGN",
  "1018AgZERO SIGNgONE QUARTER SIGNgSINUSOID SIGNgINDICTION SIGNaNOMISMA SIGN",
  "10190aROMAN SEXTANS SIGNgUNCIA SIGNgSEMUNCIA SIGNiXTULA SIGNgDIMIDIA SEXTULA SIGNgSILIQUA SIGN",
  "10196gDENARIUS SIGNgQUINARIUS SIGNgSESTERTIUS SIGNgDUPONDIUS SIGNgAS SIGNgCENTURIAL SIGN",
  "1019CaASCIA SYMBOL",
  "101A0aGREEK SYMBOL TAU RHO",
  "101D0aPHAISTOS DISC SIGN PEDESTRIANuLUMED HEADtTATTOOED HEADtCAPTIVEuHILDtWOMANtHELMET",
  "101D7tGAUNTLETtTIARAtARROWtBOWtSHIELDtCLUBtMANACLESvTTOCKtSAWtLIDtBOOMERANGtCARPENTRY PLANE",
  "101E3tDOLIUMtCOMBtSLINGtCOLUMNtBEEHIVEtSHIPtHORNuIDEtBULLS LEGtCATtRAMtEAGLEtDOVEtTUNNYtBEE",
  "101F2tPLANE TREEtVINEtPAPYRUStROSETTEtLILYtOX BACKtFLUTEtGRATERtSTRAINERuMALL AXEtWAVY BAND",
  "101FDtCOMBINING OBLIQUE STROKE",
  "10280aLYCIAN LETTER AoEoBpHoGoDoIoWoZoTHoJoKoQoLoMoNoMMoNNoUoPoKKoRoSoTpToANoENoHoX",
  "102A0aCARIAN LETTER AoP2oDoLoUUUoRoLDoA2oQoBoMoOoD2oToSHq2oSoC-18oUoNNoXoNoTT2oPoSSoIoEoUUUUoK",
  "102BDp2oNDoUUoGp2oSTq2oNGoIIoC-39oTToUUU2oRRoMBq2q3q4oLD2oE2oUUU3",
  "102E0bOPTIC EPACT THOUSANDS MARKnDIGIT ONEtTWOuHREEtFOURuIVEtSIXuEVENtEIGHTtNINEnNUMBER TEN",
  "102EBvWENTYvHIRTYuFORTYvIFTYuSIXTYvEVENTYuEIGHTYuNINETYuONE HUNDREDuTWO HUNDREDvHREE HUNDRED",
  "102F6uFOUR HUNDREDvIVE HUNDREDuSIX HUNDREDvEVEN HUNDREDuEIGHT HUNDREDuNINE HUNDRED",
  "10300aOLD ITALIC LETTER AsBEsKEsDEsEsVEsZEsHEsTHEsIsKAsELtMtNtSHsOsPEsSHEsKUsERtSsTEsUsEKSsPHE",
  "10319sKHEsEFtRSsCHEsIIsUUsESSlNUMERAL ONEtFIVEtTENtFIFTY",
  "1032DlLETTER YEsNORTHERN TSEsSOUTHERN TSEaGOTHIC LETTER AHSAoBAIRKANoGIBAoDAGSoAIHVUSoQAIRTHRA",
  "10336oIUJAoHAGLoTHIUTHoEISoKUSMAoLAGUSoMANNAoNAUTHSoJERoURUSoPAIRTHRAoNINETYoRAIDAoSAUILoTEIWS",
  "10345oWINJAoFAIHUoIGGWSoHWAIRoOTHALoNINE HUNDRED",
  "10350aOLD PERMIC LETTER ANsBURsGAIsDOIsEsZHOIsDZHOIsZATAsDZITAsIsKOKEsLEIsMENOEsNENOEsVOOI",
  "1035FsPEEIsREIsSIIsTAIsUsCHERYsSHOOIuCHOOIsYRYtERUsOtOsEFsHAsTSIUsVERsYERvItATsIEsYUtAsIA",
  "10376aCOMBINING OLD PERMIC LETTER ANzdDOIzdZATAzdNENOEzdSII",
  "10380aUGARITIC LETTER ALPAqBETAqGAMLAqKHAqDELTAqHOqWOqZETAqHOTAqTETqYODqKAFqSHINqLAMDAqMEM",
  "1038FqDHALqNUNqZUqSAMKAqAINqPUqSADEqQOPAqRASHAqTHANNAqGHAINqTOqIqUqSSU",
  "1039FjWORD DIVIDERaOLD PERSIAN SIGN ArIrUrKAsUrGAsUrXArCArJAsIrTAsUrDAsIsUrTHArPArBArFArNAsU",
  "103B6rMAsIsUrYArVAsIrRAsUrLArSArZArSHAsSArHA",
  "103C8rAURAMAZDAAzc-2zcHArXSHAAYATHIYArDAHYAAUSHzb-2rBAGAsUUMISHmWORD DIVIDERmNUMBER ONEtTWOuEN",
  "103D4uWENTYtHUNDRED",
  "10400aDESERET CAPITAL LETTER LONG IzdEzdAzeHzdOzeOxSHORT IzeEzeAzfHzeOzfOxAYxOWxWUxYEExHxPEE",
  "10412xBEExTEExDEExCHEExJEExKAYxGAYxEFxVEExETHxTHEExESxZEExESHxZHEExERyLyMyNzGxOIxEW",
  "10428iSMALL LETTER LONG IzbEzbAzcHzbOzcOvSHORT IzcEzcAzdHzcOzdOvAYvOWvWUvYEEvHvPEEvBEEvTEEvDEE",
  "1043DvCHEEvJEEvKAYvGAYvEFvVEEvETHvTHEEvESvZEEvESHvZHEEvERwLwMwNxGvOIvEWaSHAVIAN LETTER PEEP",
  "10451pTOTpKICKpFEEpTHIGHpSOqUREpCHURCHpYEApHUNGpBIBpDEADpGAGpVOWpTHEYpZOOpMEASUREpJUDGEpWOE",
  "10463pHA-HApLOLLpMIMEpIFpEGGpASHqDOpONpWOOLpOUTpAHpROARpNUNpEATpAGEpICEpUPpOAKqOZEqILpAWEqRE",
  "10479pORpAIRpERRpARRAYpEARpIANpYEWaOSMANYA LETTER ALEFpBApTApJApXApKHApDEELpRApSAqHIINpDHA",
  "1048BpCAYNpGApFApQAAFpKAAFpLAANpMIINpNUUNpWAWpHApYApApEpIpOpUpAApEEpOO",
  "104A0iDIGIT ZEROoONEoTWOpHREEoFOURpIVEoSIXpEVENoEIGHToNINE",
  "104B0cAGE CAPITAL LETTER AwIxNwHvBRAvCHAvEHCHAvEwINvHAwYAvIvKAvEHKAvKYAvLAvMAvNAvOwINvPAvEHPA",
  "104C6vSAwHAvTAvEHTAvTSAvEHTSAvTSHAvDHAvUvWAvKHAvGHAvZAwHA",
  "104D8gSMALL LETTER AuIvNuHtBRAtCHAtEHCHAtEuINtHAuYAtItKAtEHKAtKYAtLAtMAtNAtOuINtPAtEHPAtSAuHA",
  "104F0tTAtEHTAtTSAtEHTSAtTSHAtDHAtUtWAtKHAtGHAtZAuHA",
  "10500aELBASAN LETTER ApBEpCEqHEpDEpNDEpDHEpEIpEpFEpGEqJEpHEpIpJEpKEpLEqLEpMEpNEqAqJEpOpPEpQE",
  "10519pREqREpSEqHEpTEqHEpUpVEpXEpYpZEqHEpGHErAMMApKHE",
  "10530aCAUCASIAN ALBANIAN LETTER ALTzbBETzbGIMzbDATzbEBzbZARLzbEYNzbZHILzbTASzbCHAzbYOWDzbZHA",
  "1053CzbIRBzbSHAzbLANzbINYAzbXEYNzbDYANzbCARzbJHOXzbKARzbLYITzbHEYTzbQAYzbAORzbCHOYzdIzcYAY",
  "1054CzbMAQzbQARzbNOWCzbDZYAYzbSHAKzbJAYNzbONzbTYAYzbFAMzbDZAYzbCHATzbPENzbGHEYSzbRATzbSEYK",
  "1055BzbVEYZzbTIWRzbSHOYzbIWNzbCYAWzcAYNzbYAYDzbPIWRzbKIW",
  "1056FtCITATION MARKaVITHKUQI CAPITAL LETTER AyBBEzEyCEzHEyDEzHEyEIyEyFEyGA",
  "1057CyHAzHAyIzJEyJEyKAyLAzLAyMEyNEzJEyOyPEyQAyRE",
  "1058CySEzHEyTEzHEyUyVEyXE",
  "10594yYyZE",
  "10597jSMALL LETTER AwBBExEwCExHEwDExHEwEIwEwFEwGA",
  "105A3wHAxHAwIxJEwJEwKAwLAxLAwMEwNExJEwOwPEwQAwRE",
  "105B3wSExHEwTExHEwUwVEwXE",
  "105BBwYwZE",
  "10600aLINEAR A SIGN AB001s2s3s4s5s6s7s8s9r10s1s3s6s7r20s1tFtMs2tFtMs3tMs4s6s7s8p028BpB029r30s1",
  "1061Fs4s7s8s9r40s1s4s5s6s7s8s9r50s1s3s4s5s6s7s8s9r60s1s5s6s7s9r70s3s4s6s7s8s9r80s1s2s5s6s7",
  "10647p100-102pB118r20p120BpB122s3r31AtBp131CpB164r71r80s8r91p301r2r3r4r5r6r7r8r9AsBsCq10r1r2",
  "10663r3AsBsCr4r5r6r7r8r9q20r1r2r3r4r5r6r7r8r9q30r1r2r3r4r5r6r7r8r9q40r1r2r3r4r5r6r7r8r9q50r1r2",
  "1068Dr3r4r5r6r7r8r9q60r1r2r3r4r5r6r7r8r9q70r1p400-VASr1-VASr2-VASr3-VASr4-VASr5-VASr6-VAS",
  "106A7r7-VASr8-VASr9-VASq10-VASr1-VASr2-VASr3-VASr4-VASr5-VASr6-VASr7-VASr8-VASp501r2r3r4r5r6r8",
  "106BAr9q10r1r2r3r5r6q20r1r3r4r5r6r7r8r9q30r1r2r4r5r6r7r8r9q40r1r2r5r7r8r9q50r1r2r3r4r5r6r7r9",
  "106E3q63r4r5r6r8r9q70r1r2r3r4r5r6r7r8r9q80r1r2r3r4r5r6r7r8r9q91r2r4r5r6r8p600r1r2r3r4r6r8r9q10",
  "1070Cr1r2r3r4r5r6r7r8r9q20r1r2r3r4r6r7r8r9q34r7r8q40r2r3r4r5r6r8r9q51r2r3r4r5r6r7r8r9q60r1r2r3",
  "10736r4",
  "10740p701 Ar2 Br3 Dr4 Er5 Fr6 Hr7 Jr8 Kr9 Ls-2 L2t3 L3t4 L4t6 L6q10 Wr1 Xr2 Yr3 OMEGAr4 ABB",
  "10752r5 BBr7 DDq26 EYYYq32 JE",
  "10760p800r1r2r3r4r5r6r7",
  "10780aMODIFIER LETTER SMALL CAPITAL AArUPERSCRIPT TRIANGULAR COLONzdHALF TRIANGULAR COLON",
  "10783rMALL AEwCAPITAL BwB WITH HOOK",
  "10787wDZ DIGRAPHzh WITH RETROFLEX HOOKznCURLxEZH DIGRAPHx WITH TAILzeHOOKzi AND TAIL",
  "1078EwREVERSED EwCLOSED REVERSED OPEN EwFENG DIGRAPHwRAMS HORNwCAPITAL GwG WITH HOOK",
  "10794wCAPITAL G WITH HOOKwH WITH STROKEwCAPITAL HwHENG WITH HOOK",
  "10798wDOTLESS J WITH STROKE AND HOOKwLS DIGRAPHxZ DIGRAPHx WITH BELTwCAPITAL L WITH BELT",
  "1079DwL WITH RETROFLEX HOOK AND BELTxEZHzb WITH RETROFLEX HOOKwTURNED Yzf WITH BELT",
  "107A2wO WITH STROKEwCAPITAL OExLOSED OMEGAwQwTURNED R WITH LONG LEGzt AND RETROFLEX HOOK",
  "107A8wR WITH TAILzeFISHHOOKwCAPITAL RwTC DIGRAPH WITH CURLxS DIGRAPHzh WITH RETROFLEX HOOK",
  "107AExESH DIGRAPHx WITH RETROFLEX HOOKwV WITH RIGHT HOOK",
  "107B2wCAPITAL YqGLOTTAL STOP WITH STROKEqREVERSED GLOTTAL STOP WITH STROKEqBILABIAL CLICK",
  "107B6qDENTAL CLICKqLATERAL CLICKqALVEOLAR CLICKqRETROFLEX CLICK WITH RETROFLEX HOOK",
  "107BAqSMALL S WITH CURL",
  "10800aCYPRIOT SYLLABLE ArErIrOrUrJA",
  "10808sO",
  "1080ArKAsEsIsOsUrLAsEsIsOsUrMAsEsIsOsUrNAsEsIsOsUrPAsEsIsOsUrRAsEsIsOsUrSAsEsIsOsUrTAsEsIsOsU",
  "10832rWAsEsIsO",
  "10837rXAsE",
  "1083CrZA",
  "1083FsOaIMPERIAL ARAMAIC LETTER ALEPHyBETHyGIMELyDALETHyHEyWAWyZAYINyHETHyTETHyYODHyKAPH",
  "1084ByLAMEDHyMEMyNUNySAMEKHyAYINyPEySADHEyQOPHyRESHySHINyTAW",
  "10857rSECTION SIGNrNUMBER ONEyTWOzHREEzENzWENTYyONE HUNDREDzdTHOUSANDyTEN THOUSAND",
  "10860aPALMYRENE LETTER ALEPHrBETHrGIMELrDALETHrHErWAWrZAYINrHETHrTETHrYODHrKAPHrLAMEDHrMEM",
  "1086DrFINAL NUNrNUNrSAMEKHrAYINrPErSADHErQOPHrRESHrSHINrTAWmFT-POINTING FLEURON",
  "10878kRIGHT-POINTING FLEURONkNUMBER ONErTWOsHREErFOURsIVErTENsWENTY",
  "10880aNABATAEAN LETTER FINAL ALEPHrALEPHrFINAL BETHrBETHrGIMELrDALETHrFINAL HErHErWAWrZAYIN",
  "1088ArHETHrTETHrFINAL YODHrYODHrFINAL KAPHrKAPHrFINAL LAMEDHrLAMEDHrFINAL MEMrMEMrFINAL NUN",
  "10895rNUNrSAMEKHrAYINrPErSADHErQOPHrRESHrFINAL SHINrSHINrTAW",
  "108A7kNUMBER ONErTWOsHREErFOURkCRUCIFORM NUMBER FOURkNUMBER FIVErTENsWENTYrONE HUNDRED",
  "108E0aHATRAN LETTER ALEPHoBETHoGIMELoDALETH-RESHoHEoWAWoZAYNoHETHoTETHoYODHoKAPHoLAMEDHoMEM",
  "108EDoNUNoSAMEKHoAYNoPEoSADHEoQOPH",
  "108F4oSHINoTAW",
  "108FBhNUMBER ONEoFIVEoTENpWENTYoONE HUNDREDaPHOENICIAN LETTER ALFsBETsGAMLsDELTsHEsWAUsZAIsHET",
  "10908sTETsYODsKAFsLAMDsMEMsNUNsSEMKsAINsPEsSADEsQOFsROSHsSHINsTAUlNUMBER ONEsTENtWENTY",
  "10919sONE HUNDREDsTWOtHREE",
  "1091FlWORD SEPARATORaLYDIAN LETTER AoBoGoDoEoVoIoYoKoLoMoNoOoRoSSoToUoFoQoSoTToANoENoLYoNNoC",
  "1093FhTRIANGULAR MARK",
  "10980aMEROITIC HIEROGLYPHIC LETTER AzeEzeIzeOzeYAzeWAzeBAzg-2zePAzeMAzeNAzg-2zfEzg-2zeRAzg-2",
  "10990zeLAzeKHAzeHHAzeSAzg-2zfEzeKAzeQAzeTAzg-2zfEzg-2zfOzeDAwSYMBOL VIDJzi-2jCURSIVE LETTER A",
  "109A1yEyIyOyYAyWAyBAyPAyMAyNAzEyRAyLAyKHAyHHAySAyARCHAIC SAySEyKAyQAyTAzEzOyDA",
  "109BCrFRACTION ELEVEN TWELFTHSzbONE HALFrLOGOGRAM RMTzbIMNrNUMBER ONEyTWOzHREEyFOURzIVEySIX",
  "109C6zEVENyEIGHTyNINEyTENzWENTYzHIRTYyFORTYzIFTYySIXTYzEVENTY",
  "109D2yONE HUNDREDyTWO HUNDREDzHREE HUNDREDyFOUR HUNDREDzIVE HUNDREDySIX HUNDREDzEVEN HUNDRED",
  "109D9yEIGHT HUNDREDyNINE HUNDREDyONE THOUSANDyTWO THOUSANDzHREE THOUSANDyFOUR THOUSAND",
  "109DFzIVE THOUSANDySIX THOUSANDzEVEN THOUSANDyEIGHT THOUSANDyNINE THOUSANDyTEN THOUSAND",
  "109E5zWENTY THOUSANDzHIRTY THOUSANDyFORTY THOUSANDzIFTY THOUSANDySIXTY THOUSAND",
  "109EAzEVENTY THOUSANDyEIGHTY THOUSANDyNINETY THOUSANDyONE HUNDRED THOUSAND",
  "109EEyTWO HUNDRED THOUSANDzHREE HUNDRED THOUSANDyFOUR HUNDRED THOUSANDzIVE HUNDRED THOUSAND",
  "109F2ySIX HUNDRED THOUSANDzEVEN HUNDRED THOUSANDyEIGHT HUNDRED THOUSANDyNINE HUNDRED THOUSAND",
  "109F6rFRACTION ONE TWELFTHzbTWO TWELFTHSzcHREE TWELFTHSzbFOUR TWELFTHSzcIVE TWELFTHS",
  "109FBzbSIX TWELFTHSzcEVEN TWELFTHSzbEIGHT TWELFTHSzbNINE TWELFTHSzbTEN TWELFTHS",
  "10A00aKHAROSHTHI LETTER AlVOWEL SIGN IwUwVOCALIC R",
  "10A05wEwO",
  "10A0CrLENGTH MARKlSIGN DOUBLE RING BELOWqANUSVARAqVISARGAlLETTER KAtHAsGAtHA",
  "10A15sCAtHAsJA",
  "10A19sNYAsTTAuHAsDDAuHAsNNAsTAtHAsDAtHAsNAsPAtHAsBAtHAsMAsYAsRAsLAsVAsSHAtSAtAsZAsHAsKKAsTTTHA",
  "10A34vAsVHA",
  "10A38lSIGN BAR ABOVEqCAUDAqDOT BELOW",
  "10A3FlVIRAMAlDIGIT ONErTWOsHREErFOURlNUMBER TENtWENTYsONE HUNDREDwTHOUSANDlFRACTION ONE HALF",
  "10A50lPUNCTUATION DOTxSMALL CIRCLExCIRCLEyRESCENT BARxMANGALAMxLOTUSxDANDAyOUBLE DANDAxLINES",
  "10A60aOLD SOUTH ARABIAN LETTER HEzLAMEDHzHETHzMEMzQOPHzWAWzSHINzRESHzBETHzTAWzSATzKAPHzNUN",
  "10A6DzKHETHzSADHEzcMEKHzFEzALEFzbYNzDHADHEzGIMELzDALETHzGHAYNzTETHzZAYNzDHALETHzYODHzTHAWzcETH",
  "10A7DsNUMBER ONEzFIFTYvERIC INDICATOReNORTH ARABIAN LETTER HEHzLAMzHAHzMEEMzQAFzWAWzES-2zREH",
  "10A88zBEHzTEHzES-1zKAFzNOONzKHAHzSADzES-3zFEHzALEFzbINzDADzGEEMzDALzGHAINzTAHzZAINzTHALzYEH",
  "10A9BzTHEHzZAHsNUMBER ONEzTENzbWENTY",
  "10AC0aMANICHAEAN LETTER ALEPHsBETHtHETHsGIMELtHIMELsDALETHsHEsWAWlSIGN UDlLETTER ZAYINtHAYIN",
  "10ACBsJAYINtHAYINsHETHsTETHsYODHsKAPHsXAPHsKHAPHsLAMEDHsDHAMEDHsTHAMEDHsMEMsNUNsSAMEKHsAYIN",
  "10ADAtAYINsPEsFEsSADHEsQOPHsXOPHsQHOPHsRESHsSHINtSHINsTAWlABBREVIATION MARK ABOVEzeBELOW",
  "10AEBlNUMBER ONEsFIVEsTENtWENTYsONE HUNDREDlPUNCTUATION STARxFLEURONxDOUBLE DOT WITHIN DOT",
  "10AF3zT WITHIN DOTzTxTWO DOTSxLINE FILLER",
  "10B00aAVESTAN LETTER AqAqOqAOqNqANqErEpEqEpOqOpIqIpUqUpKEpXEqYEqVEpGEqGEqHEpCEpJEpTEqHEpDEqHE",
  "10B1DpTTEpPEpFEpBEqHEpNGErYErVEqEqYEqNEpMEpHMEpYYEqEpVEpREpLEpSEpZEpSHEpZHEpSHYEqSHEpHE",
  "10B39iABBREVIATION MARKaTINY TWO DOTS OVER ONE DOT PUNCTUATION",
  "10B3BaSMALL TWO DOTS OVER ONE DOT PUNCTUATIONaLARGE TWO DOTS OVER ONE DOT PUNCTUATION",
  "10B3DgONE DOT OVER TWO DOTS PUNCTUATIONgTWO RINGS OVER ONE RING PUNCTUATION",
  "10B3FgONE RING OVER TWO RINGS PUNCTUATIONaINSCRIPTIONAL PARTHIAN LETTER ALEPHzfBETHzfGIMEL",
  "10B43zfDALETHzfHEzfWAWzfZAYINzfHETHzfTETHzfYODHzfKAPHzfLAMEDHzfMEMzfNUNzfSAMEKHzfAYINzfPE",
  "10B51zfSADHEzfQOPHzfRESHzfSHINzfTAW",
  "10B58xNUMBER ONEzfTWOzgHREEzfFOURzfTENzgWENTYzfONE HUNDREDzjTHOUSANDqHLAVI LETTER ALEPHzeBETH",
  "10B62zeGIMELzeDALETHzeHEzeWAW-AYIN-RESHzeZAYINzeHETHzeTETHzeYODHzeKAPHzeLAMEDHzeMEM-QOPHzeNUN",
  "10B6EzeSAMEKHzePEzeSADHEzfHINzeTAW",
  "10B78wNUMBER ONEzeTWOzfHREEzeFOURzeTENzfWENTYzeONE HUNDREDziTHOUSAND",
  "10B80aPSALTER PAHLAVI LETTER ALEPHxBETHxGIMELxDALETHxHExWAW-AYIN-RESHxZAYINxHETHxYODHxKAPH",
  "10B8AxLAMEDHxMEM-QOPHxNUNxSAMEKHxPExSADHEyHINxTAW",
  "10B99qSECTION MARKqTURNED SECTION MARKqFOUR DOTS WITH CROSSzgDOT",
  "10BA9qNUMBER ONExTWOyHREExFOURxTENyWENTYxONE HUNDRED",
  "10C00aOLD TURKIC LETTER ORKHON AsYENISEI AzcEsORKHON IsYENISEI IzbEsORKHON OzbEsYENISEI OE",
  "10C09sORKHON ABsYENISEI ABsORKHON AEBsYENISEI AEBsORKHON AGsYENISEI AGsORKHON AEGsYENISEI AEG",
  "10C11sORKHON ADsYENISEI ADsORKHON AEDzEZsYENISEI EZsORKHON AYsYENISEI AYsORKHON AEY",
  "10C19sYENISEI AEYsORKHON AEKsYENISEI AEKsORKHON OEKsYENISEI OEKsORKHON ALsYENISEI AL",
  "10C20sORKHON AELzELTzbMzANzbENsYENISEI AENsORKHON ENTsYENISEI ENTsORKHON ENCsYENISEI ENC",
  "10C2AsORKHON ENYsYENISEI ENYzbANGsORKHON ENGsYENISEI AENGsORKHON EPzOPzICzECsYENISEI EC",
  "10C34sORKHON AQsYENISEI AQsORKHON IQsYENISEI IQsORKHON OQsYENISEI OQsORKHON ARsYENISEI AR",
  "10C3CsORKHON AERzbSzbESzbSHsYENISEI ASHsORKHON ESHsYENISEI ESHsORKHON ATsYENISEI ATsORKHON AET",
  "10C46sYENISEI AETsORKHON OTzBASH",
  "10C80eHUNGARIAN CAPITAL LETTER AzfAzeEBzeAMBzeECzfNCzfCSzfDzeANDzeEzeCLOSE EzeEEzfFzfGzgYzfH",
  "10C90zeIzfIzeEJzfKzeAKzeUNKzeELzgYzfMzfNzgYzeOzfOzeNIKOLSBURG OEzeRUDIMENTA OEzeOEEzeEPzfMPzfR",
  "10CA3zeSHORT ERzeESzgZzfTzfNTzfTYzfCHzeUzfUzeNIKOLSBURG UEzeRUDIMENTA UEzeEVzfZzgS",
  "10CB1zfNT-SHAPED SIGNzeUS",
  "10CC0oSMALL LETTER AzdAzcEBzcAMBzcECzdNCzdCSzdDzcANDzcEzcCLOSE EzcEEzdFzdGzeYzdHzcIzdIzcEJzdK",
  "10CD4zcAKzcUNKzcELzeYzdMzdNzeYzcOzdOzcNIKOLSBURG OEzcRUDIMENTA OEzcOEEzcEPzdMPzdRzcSHORT ER",
  "10CE4zcESzeZzdTzdNTzdTYzdCHzcUzdUzcNIKOLSBURG UEzcRUDIMENTA UEzcEVzdZzeSzdNT-SHAPED SIGNzcUS",
  "10CFAoNUMBER ONEvFIVEvTENvFIFTYvONE HUNDREDzTHOUSANDaHANIFI ROHINGYA LETTER AxBAxPAxTAyTAxJA",
  "10D06xCAxHAxKHAxFAxDAyDAxRAyRAxZAxSAyHAxKAxGAxLAxMAxNAxWAxKINNA WAxYAxKINNA YAxNGAyYAxVA",
  "10D1DqVOWEL AwIwUwEwOqMARK SAKINvNA KHONNAqSIGN HARBAHAYvTAHALAxNAxSSI",
  "10D30qDIGIT ZEROwONEwTWOxHREEwFOURxIVEwSIXxEVENwEIGHTwNINE",
  "10E60aRUMI DIGIT ONElTWOmHREElFOURmIVElSIXmEVENlEIGHTlNINEfNUMBER TENnWENTYnHIRTYmFORTYnIFTY",
  "10E6EmSIXTYnEVENTYmEIGHTYmNINETYmONE HUNDREDmTWO HUNDREDnHREE HUNDREDmFOUR HUNDREDnIVE HUNDRED",
  "10E77mSIX HUNDREDnEVEN HUNDREDmEIGHT HUNDREDmNINE HUNDREDfFRACTION ONE HALFsQUARTERsTHIRD",
  "10E7EoTWO THIRDS",
  "10E80aYEZIDI LETTER ELIFoBEoPEpHEoTHEoSEoCIMpHIMqHIMoHHAoXAoDALoZALoRApHAoZAoJAoSINpHINpADoDAD",
  "10E95oTAoZEoEYNoXHEYNoFAoVAq ALTERNATE FORMoQAFoKAFpHAFoGAFoLAMoMIMoNUNoUMoWAWoOWoEWoHAYoYOT",
  "10EA9oET",
  "10EABhCOMBINING HAMZA MARKrMADDA MARKhHYPHENATION MARK",
  "10EB0hLETTER LAM WITH DOT ABOVEoYOT WITH CIRCUMFLEX ABOVE",
  "10F00aOLD SOGDIAN LETTER ALEPHtFINAL ALEPHtBETHtFINAL BETHtGIMELtHEtFINAL HEtWAWtZAYINtHETH",
  "10F0AtYODHtKAPHtLAMEDHtMEMtNUNtFINAL NUNzd WITH VERTICAL TAILtSAMEKHtAYINuLTERNATE AYINtPE",
  "10F15tSADHEtFINAL SADHEzf WITH VERTICAL TAILtRESH-AYIN-DALETHtSHINtTAWtFINAL TAW",
  "10F1Czd WITH VERTICAL TAILmNUMBER ONEtTWOuHREEtFOURuIVEtTENuWENTYuHIRTYtONE HUNDRED",
  "10F26mFRACTION ONE HALFmLIGATURE AYIN-DALETH",
  "10F30aSOGDIAN LETTER ALEPHpBETHpGIMELpHEpWAWpZAYINpHETHpYODHpKAPHpLAMEDHpMEMpNUNpSAMEKHpAYIN",
  "10F3EpPEpSADHEpRESH-AYINpSHINpTAWpFETHpLESHiINDEPENDENT SHINiCOMBINING DOT BELOW",
  "10F47sTWO DOTS BELOWsDOT ABOVEsTWO DOTS ABOVEsCURVE ABOVEyBELOWsHOOK ABOVExBELOW",
  "10F4EsLONG HOOK BELOWsRESH BELOWsSTROKE BELOWiNUMBER ONEpTENqWENTYpONE HUNDRED",
  "10F55iPUNCTUATION TWO VERTICAL BARSzm WITH DOTSuCIRCLE WITH DOTuTWO CIRCLES WITH DOTS",
  "10F59uHALF CIRCLE WITH DOT",
  "10F70aOLD UYGHUR LETTER ALEPHsBETHsGIMEL-HETHsWAWsZAYINsFINAL HETHsYODHsKAPHsLAMEDHsMEMsNUN",
  "10F7BsSAMEKHsPEsSADHEsRESHsSHINsTAWsLESHlCOMBINING DOT ABOVEzBELOWvTWO DOTS ABOVEzfBELOW",
  "10F86lPUNCTUATION BARxTWO BARSzcDOTSxFOUR DOTS",
  "10FB0aCHORASMIAN LETTER ALEPHsSMALL ALEPHsBETHsGIMELsDALETHsHEsWAWsCURLED WAWsZAYINsHETHsYODH",
  "10FBBsKAPHsLAMEDHsMEMsNUNsSAMEKHsAYINsPEsRESHsSHINsTAWlNUMBER ONEsTWOtHREEsFOURsTENtWENTY",
  "10FCBsONE HUNDRED",
  "10FE0aELYMAIC LETTER ALEPHpBETHpGIMELpDALETHpHEpWAWpZAYINpHETHpTETHpYODHpKAPHpLAMEDHpMEMpNUN",
  "10FEEpSAMEKHpAYINpPEpSADHEpQOPHpRESHpSHINpTAWjIGATURE ZAYIN-YODH",
  "11000aBRAHMI SIGN CANDRABINDUmANUSVARAmVISARGAmJIHVAMULIYAmUPADHMANIYAhLETTER ApAoIpIoUpU",
  "1100BoVOCALIC RxRwLxLoEoAIoOoAUoKApHAoGApHAoNGAoCApHAoJApHAoNYAoTTAqHAoDDAqHAoNNAoTApHAoDApHA",
  "11026oNAoPApHAoBApHAoMAoYAoRAoLAoVAoSHApSApAoHAoLLAoOLD TAMIL LLLAyRRAyNNNAhVOWEL SIGN AA",
  "11039sBHATTIPROLU AAsItIsUtUsVOCALIC RzcRzbLzcLsEsAIsOsAUiIRAMAhDANDAiOUBLE DANDA",
  "11049hPUNCTUATION DOTvUBLE DOTtLINEtCRESCENT BARtLOTUS",
  "11052hNUMBER ONEoTWOpHREEoFOURpIVEoSIXpEVENoEIGHToNINEoTENpWENTYpHIRTYoFORTYpIFTYoSIXTYpEVENTY",
  "11062oEIGHTYoNINETYoONE HUNDREDsTHOUSANDhDIGIT ZEROnONEnTWOoHREEnFOURoIVEnSIXoEVENnEIGHTnNINE",
  "11070hSIGN OLD TAMIL VIRAMAhLETTER OLD TAMIL SHORT EzfOhVOWEL SIGN OLD TAMIL SHORT EzjO",
  "11075hLETTER OLD TAMIL LLA",
  "1107FhNUMBER JOINERaKAITHI SIGN CANDRABINDUmANUSVARAmVISARGAhLETTER ApAoIpIoUpUoEoAIoOoAUoKA",
  "1108EpHAoGApHAoNGAoCApHAoJApHAoNYAoTTAqHAoDDAqDHAqHAoRHAoNNAoTApHAoDApHAoNAoPApHAoBApHAoMAoYA",
  "110A9oRAoLAoVAoSHApSApAoHAhVOWEL SIGN AAsItIsUtUsEsAIsOsAUhSIGN VIRAMAmNUKTAhABBREVIATION SIGN",
  "110BChENUMERATION SIGNhNUMBER SIGNhSECTION MARKhDOUBLE SECTION MARKiANDAiOUBLE DANDA",
  "110C2hVOWEL SIGN VOCALIC R",
  "110CDhNUMBER SIGN ABOVE",
  "110D0aSORA SOMPENG LETTER SAHuTAHuBAHuCAHuDAHuGAHuMAHuNGAHuLAHuNAHuVAHuPAHuYAHuRAHuHAHuKAHuJAH",
  "110E1uNYAHuAHuEEHuIHuUHuOHuEHuMAE",
  "110F0nDIGIT ZEROtONEtTWOuHREEtFOURuIVEtSIXuEVENtEIGHTtNINE",
  "11100aCHAKMA SIGN CANDRABINDUmANUSVARAmVISARGAhLETTER AAoIoUoEoKAApHAAoGAApHAAoNGAAoCAApHAA",
  "1110EoJAApHAAoNYAAoTTAAqHAAoDDAAqHAAoNNAAoTAApHAAoDAApHAAoNAAoPAApHAAoBAApHAAoMAAoYYAApAAoRAA",
  "11123oLAAoWAAoSAAoHAAhVOWEL SIGN AsItIsUtUsEsAIsOsAUsOIhO MARKhAU MARKhVIRAMAhMAAYYAA",
  "11136hDIGIT ZEROnONEnTWOoHREEnFOURoIVEnSIXoEVENnEIGHTnNINEhSECTION MARKhDANDAiOUBLE DANDA",
  "11143hQUESTION MARKhLETTER LHAAhVOWEL SIGN AAsEIhLETTER VAA",
  "11150aMAHAJANI LETTER AqIqUqEqOqKArHAqGArHAqCArHAqJArHAqNYAqTTAsHAqDDAsHAqNNAqTArHAqDArHAqNA",
  "11168qPArHAqBArHAqMAqRAqLAqVAqSAqHAqRRAjSIGN NUKTAjABBREVIATION SIGNjSECTION MARK",
  "11176jLIGATURE SHRI",
  "11180aSHARADA SIGN CANDRABINDUnANUSVARAnVISARGAiLETTER AqApIqIpUqUpVOCALIC RyRxLyLpEpAIpOpAU",
  "11191pKAqHApGAqHApNGApCAqHApJAqHApNYApTTArHApDDArHApNNApTAqHApDAqHApNApPAqHApBAqHApMApYApRApLA",
  "111ADqLApVApSHAqSAqApHAiVOWEL SIGN AAtIuItUuUtVOCALIC RzdRzcLzdLtEtAItOtAUiSIGN VIRAMA",
  "111C1nAVAGRAHAnJIHVAMULIYAnUPADHMANIYAiOMiDANDAjOUBLE DANDAiABBREVIATION SIGNiSEPARATOR",
  "111C9jANDHI MARKjIGN NUKTAiVOWEL MODIFIER MARKiEXTRA SHORT VOWEL MARKiSUTRA MARK",
  "111CEiVOWEL SIGN PRISHTHAMATRA EiSIGN INVERTED CANDRABINDUiDIGIT ZEROoONEoTWOpHREEoFOURpIVE",
  "111D6oSIXpEVENoEIGHToNINEiEKAMiSIGN SIDDHAMiHEADSTROKEiCONTINUATION SIGNiSECTION MARK-1v2",
  "111E1bINHALA ARCHAIC DIGIT ONEwTWOxHREEwFOURxIVEwSIXxEVENwEIGHTwNINEqNUMBER TENyWENTYyHIRTY",
  "111EDxFORTYyIFTYxSIXTYyEVENTYxEIGHTYxNINETYxONE HUNDREDzcTHOUSAND",
  "11200aKHOJKI LETTER ApAoIoUoEoAIoOoAUoKApHAoGApGApHAoNGAoCApHAoJApJA",
  "11213oNYAoTTAqHAoDDAqHAoNNAoTApHAoDApDDApHAoNAoPApHAoBApBApHAoMAoYAoRAoLAoVAoSAoHAoLLA",
  "1122ChVOWEL SIGN AAsItIsUsEsAIsOsAUhSIGN ANUSVARAmVIRAMAmNUKTAmSHADDAhDANDAiOUBLE DANDA",
  "1123AhWORD SEPARATORhSECTION MARKhDOUBLE SECTION MARKhABBREVIATION SIGNhSIGN SUKUN",
  "11280aMULTANI LETTER ApIpUpEpKAqHApGA",
  "11288qHA",
  "1128ApCAqHApJAqJA",
  "1128FpNYApTTArHApDDArDArHApNNApTAqHApDAqHApNApPAqHApBA",
  "1129FqHApMApYApRApLApVApSApHApRRAqHAiSECTION MARK",
  "112B0aKHUDAWADI LETTER AsArIsIrUsUrErAIrOrAUrKAsHArGAsGAsHArNGArCAsHArJAsJAsHArNYArTTAtHArDDA",
  "112C9tDArRRArDDHArNNArTAsHArDAsHArNArPAsHArBAsBAsHArMArYArRArLArVArSHAsArHAkSIGN ANUSVARA",
  "112E0kVOWEL SIGN AAvIwIvUwUvEvAIvOvAUkSIGN NUKTApVIRAMA",
  "112F0kDIGIT ZEROqONEqTWOrHREEqFOURrIVEqSIXrEVENqEIGHTqNINE",
  "11300aGRANTHA SIGN COMBINING ANUSVARA ABOVEoANDRABINDUnANUSVARAnVISARGA",
  "11305iLETTER AqApIqIpUqUpVOCALIC RxL",
  "1130FpEEpAI",
  "11313pOOpAUpKAqHApGAqHApNGApCAqHApJAqHApNYApTTArHApDDArHApNNApTAqHApDAqHApNA",
  "1132ApPAqHApBAqHApMApYApRA",
  "11332pLAqLA",
  "11335pVApSHAqSAqApHA",
  "1133BaCOMBINING BINDU BELOWaGRANTHA SIGN NUKTAnAVAGRAHAiVOWEL SIGN AAtIuItUuUtVOCALIC RzdR",
  "11347tEEtAI",
  "1134BtOOtAUiSIGN VIRAMA",
  "11350iOM",
  "11357iAU LENGTH MARK",
  "1135DiSIGN PLUTAiLETTER VEDIC ANUSVARAvDOUBLE ANUSVARAqOCALIC RRxLLiVOWEL SIGN VOCALIC LzdL",
  "11366aCOMBINING GRANTHA DIGIT ZEROyONEyTWOzHREEyFOURzIVEySIX",
  "11370sLETTER AzKAzNAzVIzPA",
  "11400aNEWA LETTER AnAmInImUnUmVOCALIC RvRuLvLmEmAImOmAUmKAnHAmGAnHAmNGAoHAmCAnHAmJAnHAmNYAoHA",
  "1141AmTTAoHAmDDAoHAmNNAmTAnHAmDAnHAmNAnHAmPAnHAmBAnHAmMAnHAmYAmRAnHAmLAnHAmWAmSHAnSAnAmHA",
  "11435fVOWEL SIGN AAqIrIqUrUqVOCALIC RzRyLzLqEqAIqOqAUfSIGN VIRAMAkCANDRABINDUkANUSVARAkVISARGA",
  "11446kNUKTAkAVAGRAHAkFINAL ANUSVARAfOMfSIDDHIfDANDAgOUBLE DANDAfCOMMAfGAP FILLER",
  "1144FfABBREVIATION SIGNfDIGIT ZEROlONElTWOmHREElFOURmIVElSIXmEVENlEIGHTlNINEgOUBLE COMMA",
  "1145BfPLACEHOLDER MARK",
  "1145DfINSERTION SIGNfSANDHI MARKfLETTER VEDIC ANUSVARAfSIGN JIHVAMULIYAkUPADHMANIYA",
  "11480aTIRHUTA ANJIiLETTER AqApIqIpUqUpVOCALIC RyRxLyLpEpAIpOpAUpKAqHApGAqHApNGApCAqHApJAqHA",
  "11498pNYApTTArHApDDArHApNNApTAqHApDAqHApNApPAqHApBAqHApMApYApRApLApVApSHAqSAqApHA",
  "114B0iVOWEL SIGN AAtIuItUuUtVOCALIC RzdRzcLzdLtEtSHORT EtAItOtSHORT OtAUiSIGN CANDRABINDU",
  "114C0nANUSVARAnVISARGApRAMAnNUKTAnAVAGRAHAiGVANGiABBREVIATION SIGNiOM",
  "114D0iDIGIT ZEROoONEoTWOpHREEoFOURpIVEoSIXpEVENoEIGHToNINE",
  "11580aSIDDHAM LETTER AqApIqIpUqUpVOCALIC RyRxLyLpEpAIpOpAUpKAqHApGAqHApNGApCAqHApJAqHApNYApTTA",
  "11599rHApDDArHApNNApTAqHApDAqHApNApPAqHApBAqHApMApYApRApLApVApSHAqSAqApHAiVOWEL SIGN AAtIuItU",
  "115B3uUtVOCALIC RzdR",
  "115B8tEtAItOtAUiSIGN CANDRABINDUnANUSVARAnVISARGApRAMAnNUKTAnSIDDHAMiDANDAjOUBLE DANDA",
  "115C4iSEPARATOR DOTsBARiREPETITION MARK-1y2y3iEND OF TEXT MARK",
  "115CAiSECTION MARK WITH TRIDENT AND U-SHAPED ORNAMENTSznDOTTED CRESCENTS",
  "115CCzbRAYS AND DOTTED CRESCENTSzrDOUBLE CRESCENTSzrTRIPLE CRESCENTSvDOUBLE RINGzh WITH RAYS",
  "115D1vWITH DOUBLE CRESCENTSzbTRIPLE CRESCENTSzbQUADRUPLE CRESCENTSzbSEPTUPLE CRESCENTS",
  "115D5zbCIRCLES AND RAYSznTWO ENCLOSURESznFOUR ENCLOSURESiLETTER THREE-CIRCLE ALTERNATE I",
  "115D9qWO-CIRCLE ALTERNATE IzmIpALTERNATE UiVOWEL SIGN ALTERNATE UzfU",
  "11600aMODI LETTER AnAmInImUnUmVOCALIC RvRuLvLmEmAImOmAUmKAnHAmGAnHAmNGAmCAnHAmJAnHAmNYAmTTAoHA",
  "1161AmDDAoHAmNNAmTAnHAmDAnHAmNAmPAnHAmBAnHAmMAmYAmRAmLAmVAmSHAnSAnAmHAmLLAfVOWEL SIGN AAqIrIqU",
  "11634rUqVOCALIC RzRyLzLqEqAIqOqAUfSIGN ANUSVARAkVISARGAmRAMAkARDHACANDRAfDANDAgOUBLE DANDA",
  "11643fABBREVIATION SIGNfSIGN HUVA",
  "11650fDIGIT ZEROlONElTWOmHREElFOURmIVElSIXmEVENlEIGHTlNINE",
  "11660cNGOLIAN BIRGA WITH ORNAMENTkROTATED BIRGAkDOUBLE BIRGA WITH ORNAMENT",
  "11663kTRIPLE BIRGA WITH ORNAMENTkBIRGA WITH DOUBLE ORNAMENTkROTATED BIRGA WITH ORNAMENT",
  "11666zeDOUBLE ORNAMENTkINVERTED BIRGAy WITH DOUBLE ORNAMENTkSWIRL BIRGAv WITH ORNAMENT",
  "1166BzcDOUBLE ORNAMENTkTURNED SWIRL BIRGA WITH DOUBLE ORNAMENT",
  "11680aTAKRI LETTER AoAnIoInUoUnEnAInOnAUnKAoHAnGAoHAnNGAnCAoHAnJAoHAnNYAnTTApHAnDDApHAnNNAnTA",
  "1169AoHAnDAoHAnNAnPAoHAnBAoHAnMAnYAnRAnLAnVAnSHAoAnHAnRRAgSIGN ANUSVARAlVISARGAgVOWEL SIGN AA",
  "116AErIsIrUsUrErAIrOrAUgSIGN VIRAMAlNUKTAgLETTER ARCHAIC KHAgABBREVIATION SIGN",
  "116C0gDIGIT ZEROmONEmTWOnHREEmFOURnIVEmSIXnEVENmEIGHTmNINE",
  "11700aAHOM LETTER KAnHAmNGAnAmTAmALTERNATE TAmPAnHAmBAmMAmJAmCHAmTHAmRAmLAmSAmNYAmHAmAmDAnHA",
  "11715mGAmALTERNATE GAmGHAmBHAmJHAmALTERNATE BA",
  "1171DfCONSONANT SIGN MEDIAL LAzcRAzcLIGATING RAfVOWEL SIGN ArAqIrIqUrUqEqAWqOqAIrMfSIGN KILLER",
  "11730fDIGIT ZEROlONElTWOmHREElFOURmIVElSIXmEVENlEIGHTlNINEfNUMBER TENnWENTYfSIGN SMALL SECTION",
  "1173DlECTIONkRULAIgYMBOL VIfLETTER CAmTTAoHAmDDAoHAmNNAmLLA",
  "11800aDOGRA LETTER AoAnIoInUoUnEnAInOnAUnKAoHAnGAoHAnNGAnCAoHAnJAoHAnNYAnTTApHAnDDApHAnNNAnTA",
  "1181AoHAnDAoHAnNAnPAoHAnBAoHAnMAnYAnRAnLAnVAnSHAoSAoAnHAnRRAgVOWEL SIGN AArIsIrUsUrVOCALIC R",
  "11832zbRrErAIrOrAUgSIGN ANUSVARAlVISARGAnRAMAlNUKTAgABBREVIATION SIGN",
  "118A0aWARANG CITI CAPITAL LETTER NGAAzcAzcWIzcYUzdAzdOzcIIzcUUzcEzcOzcANGzcGAzcKOzcENYzcYUJ",
  "118AFzcUCzcENNzcODDzcTTEzcNUNGzcDAzcATzdMzcBUzcPUzcHIYOzdOLOzeRRzdARzcSSUUzdIIzcVIYO",
  "118C0mSMALL LETTER NGAAzAzWIzYUzbAzbOzIIzUUzEzOzANGzGAzKOzENYzYUJzUCzENNzODDzTTEzNUNGzDAzATzbM",
  "118D7zBUzPUzHIYOzbOLOzcRRzbARzSSUUzbIIzVIYOmDIGIT ZEROsONEsTWOtHREEsFOURtIVEsSIXtEVENsEIGHT",
  "118E9sNINEmNUMBER TENuWENTYuHIRTYtFORTYuIFTYtSIXTYuEVENTYtEIGHTYtNINETY",
  "118FFmOMaDIVES AKURU LETTER AuAtIuItUuUtE",
  "11909tO",
  "1190CtKAuHAtGAuHAtNGAtCAuHAtJA",
  "11915tNYAtTTA",
  "11918tDDAvHAtNNAtTAuHAtDAuHAtNAtPAuHAtBAuHAtMAtYAuYAtRAtLAtVAtSHAuSAuAtHAtLLAtZAmVOWEL SIGN AA",
  "11931xIyIxUyUxE",
  "11937xAIxO",
  "1193BmSIGN ANUSVARArCANDRABINDUrHALANTAmVIRAMAmPREFIXED NASAL SIGNmMEDIAL YAmINITIAL RA",
  "11942mMEDIAL RAmSIGN NUKTAmDOUBLE DANDAmGAP FILLERmEND OF TEXT MARK",
  "11950mDIGIT ZEROsONEsTWOtHREEsFOURtIVEsSIXtEVENsEIGHTsNINE",
  "119A0aNANDINAGARI LETTER AuAtIuItUuUtVOCALIC RzdR",
  "119AAtEtAItOtAUtKAuHAtGAuHAtNGAtCAuHAtJAuHAtNYAtTTAvHAtDDAvHAtNNAtTAuHAtDAuHAtNAtPAuHAtBAuHA",
  "119C6tMAtYAtRAtLAtVAtSHAuSAuAtHAtLLAtRRAmVOWEL SIGN AAxIyIxUyUxVOCALIC RzhR",
  "119DAxExAIxOxAUmSIGN ANUSVARArVISARGAtRAMArAVAGRAHArSIDDHAMmHEADSTROKE",
  "119E4mVOWEL SIGN PRISHTHAMATRA E",
  "11A00aZANABAZAR SQUARE LETTER ArVOWEL SIGN IzdUEzdUzdEzdOEzdOzdAIzeUzdREVERSED IxLENGTH MARK",
  "11A0BrLETTER KAzHAyGAzHAyNGAyCAzHAyJAyNYAyTTAzbHAyDDAzbHAyNNAyTAzHAyDAzHAyNAyPAzHAyBAzHAyMA",
  "11A23yTSAzbHAyDZAzbHAyZHAzAy-AyYAyRAyLAyVAySHAzSAzAyHAyKSSArFINAL CONSONANT MARKrSIGN VIRAMA",
  "11A35wCANDRABINDUzi WITH ORNAMENTzd WITH ORNAMENTwANUSVARAwVISARGArCLUSTER-INITIAL LETTER RA",
  "11A3BzFINAL LETTER YAznRAznLAznVArINITIAL HEAD MARKrCLOSING HEAD MARKrMARK TSHEGwSHAD",
  "11A43wDOUBLE SHADwLONG TSHEGrINITIAL DOUBLE-LINED HEAD MARKrCLOSING DOUBLE-LINED HEAD MARK",
  "11A47rSUBJOINER",
  "11A50aSOYOMBO LETTER AiVOWEL SIGN ItUEtUtEtOuEtAIuUtVOCALIC RzcLoLENGTH MARKiLETTER KAqHApGA",
  "11A5FqHApNGApCAqHApJAqHApNYApTTArHApDDArHApNNApTAqHApDAqHApNApPAqHApBAqHApMApTSArHApDZApZHAqA",
  "11A7Ap-ApYApRApLApVApSHAqSAqApHApKSSAiSIGN JIHVAMULIYAnUPADHMANIYAiCLUSTER-INITIAL LETTER RA",
  "11A87zgLAzgSHAzhAiFINAL CONSONANT SIGN GzeKzeNGzeDzeNzeBzeMzeRzeLzeSHzeSze-AiSIGN ANUSVARA",
  "11A97nVISARGAiGEMINATION MARKiSUBJOINERiMARK TSHEGnSHADnDOUBLE SHADnPLUTA",
  "11A9EiHEAD MARK WITH MOON AND SUN AND TRIPLE FLAMEzpFLAMEzjNiTERMINAL MARK-1w2",
  "11AB0aCANADIAN SYLLABICS NATTILIK HIzfIzeOzfOzeAzfAzdSHRIzhIzgOzhOzgAzhAtSPEvIvOvA",
  "11AC0aPAU CIN HAU LETTER PAtKAtLAtMAtDAtZAtVAtNGAtHAtGAtKHAtSAtBAtCAtTAuHAtNAtPHAtRAtFAtCHAtA",
  "11AD6tEtItOtUuAtIAtFINAL PzKzTzMzNzLzWzNGzYmRISING TONE LONGwEmSANDHI GLOTTAL STOP",
  "11AE8mRISING TONE LONG FINALyFINALmSANDHI GLOTTAL STOP FINALtTONE LONGwEx LONG FINALyFINAL",
  "11AEFmMID-LEVEL TONEmGLOTTAL STOP VARIANTmMID-LEVEL TONE LONG FINALzcFINAL",
  "11AF3mLOW-FALLING TONE LONGzcEmGLOTTAL STOPmLOW-FALLING TONE LONG FINALzeFINAL",
  "11AF8mGLOTTAL STOP FINAL",
  "11C00aBHAIKSUKI LETTER AsArIsIrUsUrVOCALIC RzbRzL",
  "11C0ArErAIrOrAUrKAsHArGAsHArNGArCAsHArJAsHArNYArTTAtHArDDAtHArNNArTAsHArDAsHArNArPAsHArBAsHA",
  "11C26rMArYArRArLArVArSHAsSAsArHAkVOWEL SIGN AAvIwIvUwUvVOCALIC RzfRzeL",
  "11C38vEvAIvOvAUkSIGN CANDRABINDUpANUSVARApVISARGArRAMApAVAGRAHAkDANDAlOUBLE DANDA",
  "11C43kWORD SEPARATORkGAP FILLER-1v2",
  "11C50kDIGIT ZEROqONEqTWOrHREEqFOURrIVEqSIXrEVENqEIGHTqNINEkNUMBER ONErTWOsHREErFOURsIVErSIX",
  "11C60sEVENrEIGHTrNINErTENsWENTYsHIRTYrFORTYsIFTYrSIXTYsEVENTYrEIGHTYrNINETYkHUNDREDS UNIT MARK",
  "11C70aMARCHEN HEAD MARKiMARK SHADiLETTER KAqHApGApNGApCAqHApJApNYApTAqHApDApNApPAqHApBApMApTSA",
  "11C83rHApDZApWApZHAqAp-ApYApRApLApSHAqApHApA",
  "11C92iSUBJOINED LETTER KAzbHAzGAzNGAzCAzbHAzJAzNYAzTAzbHAzDAzNAzPAzbHAzBAzMAzTSAzcHAzDZAzWA",
  "11CA6zZHAzbA",
  "11CA9zYAzRAzLAzSHAzbAzHAzAiVOWEL SIGN AAtItUtEtOiSIGN ANUSVARAnCANDRABINDU",
  "11D00cSARAM GONDI LETTER AwAvIwIvUwUvE",
  "11D08vAIvO",
  "11D0BvAUvKAwHAvGAwHAvNGAvCAwHAvJAwHAvNYAvTTAxHAvDDAxHAvNNAvTAwHAvDAwHAvNAvPAwHAvBAwHAvMAvYAvRA",
  "11D27vLAvVAvSHAwSAwAvHAvLLAvKSSAvJNYAvTRAoVOWEL SIGN AAzIzbIzUzbUzVOCALIC R",
  "11D3AzE",
  "11D3CzAIzO",
  "11D3FzAUoSIGN ANUSVARAtVISARGAtNUKTAtCANDRAtHALANTAoVIRAMAoREPHApA-KARA",
  "11D50oDIGIT ZEROuONEuTWOvHREEuFOURvIVEuSIXvEVENuEIGHTuNINE",
  "11D60aGUNJALA GONDI LETTER AwAvIwIvUwU",
  "11D67vEEvAI",
  "11D6AvOOvAUvYAvVAvBAwHAvMAvKAwHAvTAwHAvLAvGAwHAvDAwHAvNAvCAwHAvTTAxHAvLLAvJAwHAvDDAxHAvNGAvPA",
  "11D86wHAvHAvRAvSAoVOWEL SIGN AAzIzbIzUzbU",
  "11D90zEEzAI",
  "11D93zOOzAUoSIGN ANUSVARAtVISARGAoVIRAMAoOM",
  "11DA0oDIGIT ZEROuONEuTWOvHREEuFOURvIVEuSIXvEVENuEIGHTuNINE",
  "11EE0aMAKASAR LETTER KApGApNGApPApBApMApTApDApNApCApJApNYApYApRApLApVApSApAiANGKAiVOWEL SIGN I",
  "11EF4tUtEtOiPASSIMBANGiEND OF SECTION",
  "11FB0aLISU LETTER YHA",
  "11FC0aTAMIL FRACTION ONE THREE-HUNDRED-AND-TWENTIETHtONE-HUNDRED-AND-SIXTIETHtEIGHTIETH",
  "11FC3tSIXTY-FOURTHtFORTIETHtTHIRTY-SECONDpTHREE EIGHTIETHSvSIXTY-FOURTHSpONE TWENTIETH",
  "11FC9tSIXTEENTH-1ze2tTENTHtEIGHTHpTHREE TWENTIETHSvSIXTEENTHSpONE FIFTHtQUARTERtHALF-1y2",
  "11FD3pTHREE QUARTERSpDOWNSCALING FACTOR KIIZHgSIGN NELlCEVITUlAAZHAAKKUlUZHAKKUlMUUVUZHAKKU",
  "11FDAlKURUNIlPATHAKKUlMUKKURUNIlKAACUlPANAMmONlVARAAKANlPAARAMlKUZHIlVELIgWET CULTIVATION SIGN",
  "11FE5gDRY CULTIVATION SIGNgLAND SIGNgSALT PAN SIGNgTRADITIONAL CREDIT SIGNsNUMBER SIGN",
  "11FEAgCURRENT SIGNgAND ODD SIGNgSPENT SIGNgTOTAL SIGNgIN POSSESSION SIGNgSTARTING FROM SIGN",
  "11FF0hIGN MUTHALIYAlVAKAIYARAA",
  "11FFFgPUNCTUATION END OF TEXT"]

end ModuleBridge.Text
