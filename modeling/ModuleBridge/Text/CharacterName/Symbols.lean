/-!
# Names of characters from U+2000 to U+2FFF: punctuation, signs, arrows, shapes and patterns
-/

namespace ModuleBridge.Text

/-- Lines of names. -/
def symbolNames : List String := [
  "2000aEN QUADbM QUADbN SPACEbM SPACEaTHREE-PER-EM SPACEaFOUR-PER-EM SPACEaSIX-PER-EM SPACE",
  "2007aFIGURE SPACEaPUNCTUATION SPACEaTHIN SPACEaHAIR SPACEaZERO WIDTH SPACElNON-JOINERlJOINER",
  "200EaLEFT-TO-RIGHT MARKaRIGHT-TO-LEFT MARKaHYPHENaNON-BREAKING HYPHENaFIGURE DASHaEN DASH",
  "2014bM DASHaHORIZONTAL BARaDOUBLE VERTICAL LINEhLOW LINEaLEFT SINGLE QUOTATION MARK",
  "2019aRIGHT SINGLE QUOTATION MARKaSINGLE LOW-9 QUOTATION MARKhHIGH-REVERSED-9 QUOTATION MARK",
  "201CaLEFT DOUBLE QUOTATION MARKaRIGHT DOUBLE QUOTATION MARKaDOUBLE LOW-9 QUOTATION MARK",
  "201FhHIGH-REVERSED-9 QUOTATION MARKbAGGERbOUBLE DAGGERaBULLETaTRIANGULAR BULLETaONE DOT LEADER",
  "2025aTWO DOT LEADERaHORIZONTAL ELLIPSISbYPHENATION POINTaLINE SEPARATORaPARAGRAPH SEPARATOR",
  "202AaLEFT-TO-RIGHT EMBEDDINGaRIGHT-TO-LEFT EMBEDDINGaPOP DIRECTIONAL FORMATTING",
  "202DaLEFT-TO-RIGHT OVERRIDEaRIGHT-TO-LEFT OVERRIDEaNARROW NO-BREAK SPACEaPER MILLE SIGN",
  "2031eTEN THOUSAND SIGNbRIMEaDOUBLE PRIMEaTRIPLE PRIMEaREVERSED PRIMEjDOUBLE PRIMEjTRIPLE PRIME",
  "2038aCARETaSINGLE LEFT-POINTING ANGLE QUOTATION MARKhRIGHT-POINTING ANGLE QUOTATION MARK",
  "203BaREFERENCE MARKaDOUBLE EXCLAMATION MARKaINTERROBANGaOVERLINEaUNDERTIEaCHARACTER TIE",
  "2041bARET INSERTION POINTaASTERISMaHYPHEN BULLETaFRACTION SLASHaLEFT SQUARE BRACKET WITH QUILL",
  "2046aRIGHT SQUARE BRACKET WITH QUILLaDOUBLE QUESTION MARKaQUESTION EXCLAMATION MARK",
  "2049aEXCLAMATION QUESTION MARKaTIRONIAN SIGN ETaREVERSED PILCROW SIGNaBLACK LEFTWARDS BULLET",
  "204DgRIGHTWARDS BULLETaLOW ASTERISKaREVERSED SEMICOLONaCLOSE UP",
  "2051aTWO ASTERISKS ALIGNED VERTICALLYaCOMMERCIAL MINUS SIGNaSWUNG DASHaINVERTED UNDERTIE",
  "2055aFLOWER PUNCTUATION MARKaTHREE DOT PUNCTUATIONaQUADRUPLE PRIMEaFOUR DOT PUNCTUATION",
  "2059bIVE DOT PUNCTUATIONaTWO DOT PUNCTUATIONaFOUR DOT MARKaDOTTED CROSSaTRICOLON",
  "205EaVERTICAL FOUR DOTSaMEDIUM MATHEMATICAL SPACEaWORD JOINERaFUNCTION APPLICATION",
  "2062aINVISIBLE TIMESkSEPARATORkPLUS",
  "2066aLEFT-TO-RIGHT ISOLATEaRIGHT-TO-LEFT ISOLATEaFIRST STRONG ISOLATEaPOP DIRECTIONAL ISOLATE",
  "206AaINHIBIT SYMMETRIC SWAPPINGaACTIVATE SYMMETRIC SWAPPINGaINHIBIT ARABIC FORM SHAPING",
  "206DaACTIVATE ARABIC FORM SHAPINGaNATIONAL DIGIT SHAPESbOMINAL DIGIT SHAPESaSUPERSCRIPT ZERO",
  "2071mLATIN SMALL LETTER I",
  "2074mFOURnIVEmSIXnEVENmEIGHTmNINEmPLUS SIGNmMINUSmEQUALS SIGNmLEFT PARENTHESIS",
  "207EmRIGHT PARENTHESISmLATIN SMALL LETTER NcBSCRIPT ZEROkONEkTWOlHREEkFOURlIVEkSIXlEVENkEIGHT",
  "2089kNINEkPLUS SIGNkMINUSkEQUALS SIGNkLEFT PARENTHESISkRIGHT PARENTHESIS",
  "2090aLATIN SUBSCRIPT SMALL LETTER AzeEzeOzeXzeSCHWAzeHzeKzeLzeMzeNzePzeSzeT",
  "20A0aEURO-CURRENCY SIGNaCOLON SIGNbRUZEIRO SIGNaFRENCH FRANC SIGNaLIRA SIGNaMILL SIGN",
  "20A6aNAIRA SIGNaPESETA SIGNaRUPEE SIGNaWON SIGNaNEW SHEQEL SIGNaDONG SIGNaEURO SIGNaKIP SIGN",
  "20AEaTUGRIK SIGNaDRACHMA SIGNaGERMAN PENNY SIGNaPESO SIGNaGUARANI SIGNaAUSTRAL SIGN",
  "20B4aHRYVNIA SIGNaCEDI SIGNaLIVRE TOURNOIS SIGNaSPESMILO SIGNaTENGE SIGNaINDIAN RUPEE SIGN",
  "20BAaTURKISH LIRA SIGNaNORDIC MARK SIGNaMANAT SIGNaRUBLE SIGNaLARI SIGNaBITCOIN SIGNaSOM SIGN",
  "20D0aCOMBINING LEFT HARPOON ABOVEkRIGHT HARPOON ABOVEkLONG VERTICAL LINE OVERLAY",
  "20D3kSHORT VERTICAL LINE OVERLAYkANTICLOCKWISE ARROW ABOVEkCLOCKWISE ARROW ABOVE",
  "20D6kLEFT ARROW ABOVEkRIGHT ARROW ABOVEmNG OVERLAYkCLOCKWISE RING OVERLAY",
  "20DAkANTICLOCKWISE RING OVERLAYkTHREE DOTS ABOVEkFOUR DOTS ABOVEkENCLOSING CIRCLEuSQUARE",
  "20DFuDIAMONDuCIRCLE BACKSLASHkLEFT RIGHT ARROW ABOVEkENCLOSING SCREENuKEYCAP",
  "20E4uUPWARD POINTING TRIANGLEkREVERSE SOLIDUS OVERLAYkDOUBLE VERTICAL STROKE OVERLAY",
  "20E7kANNUITY SYMBOLkTRIPLE UNDERDOTkWIDE BRIDGE ABOVEkLEFTWARDS ARROW OVERLAY",
  "20EBlONG DOUBLE SOLIDUS OVERLAYkRIGHTWARDS HARPOON WITH BARB DOWNWARDS",
  "20EDkLEFTWARDS HARPOON WITH BARB DOWNWARDSo ARROW BELOWkRIGHT ARROW BELOWkASTERISK ABOVE",
  "2100aACCOUNT OFbDDRESSED TO THE SUBJECTaDOUBLE-STRUCK CAPITAL CbEGREE CELSIUS",
  "2104aCENTRE LINE SYMBOLbARE OFcDA UNAaEULER CONSTANTaSCRUPLEaDEGREE FAHRENHEITaSCRIPT SMALL G",
  "210BhCAPITAL HaBLACK-LETTER CAPITAL HaDOUBLE-STRUCK CAPITAL HaPLANCK CONSTANTp OVER TWO PI",
  "2110aSCRIPT CAPITAL IaBLACK-LETTER CAPITAL IaSCRIPT CAPITAL LhSMALL LaL B BAR SYMBOL",
  "2115aDOUBLE-STRUCK CAPITAL NaNUMERO SIGNaSOUND RECORDING COPYRIGHTbCRIPT CAPITAL P",
  "2119aDOUBLE-STRUCK CAPITAL PwQaSCRIPT CAPITAL RaBLACK-LETTER CAPITAL RaDOUBLE-STRUCK CAPITAL R",
  "211EaPRESCRIPTION TAKEaRESPONSEaSERVICE MARKaTELEPHONE SIGNbRADE MARK SIGNaVERSICLE",
  "2124aDOUBLE-STRUCK CAPITAL ZaOUNCE SIGNbHM SIGNaINVERTED OHM SIGNaBLACK-LETTER CAPITAL Z",
  "2129aTURNED GREEK SMALL LETTER IOTAaKELVIN SIGNaANGSTROM SIGNaSCRIPT CAPITAL B",
  "212DaBLACK-LETTER CAPITAL CaESTIMATED SYMBOLaSCRIPT SMALL EhCAPITAL EpFaTURNED CAPITAL F",
  "2133aSCRIPT CAPITAL MhSMALL OaALEF SYMBOLaBET SYMBOLaGIMEL SYMBOLaDALET SYMBOL",
  "2139aINFORMATION SOURCEaROTATED CAPITAL QaFACSIMILE SIGNaDOUBLE-STRUCK SMALL PIuGAMMA",
  "213EoCAPITAL GAMMAwPIoN-ARY SUMMATIONaTURNED SANS-SERIF CAPITAL GzbL",
  "2143aREVERSED SANS-SERIF CAPITAL LaTURNED SANS-SERIF CAPITAL YaDOUBLE-STRUCK ITALIC CAPITAL D",
  "2146vSMALL DzcEzcIzcJaPROPERTY LINEaTURNED AMPERSANDaPER SIGNaAKTIESELSKABaTURNED SMALL F",
  "214FaSYMBOL FOR SAMARITAN SOURCEaVULGAR FRACTION ONE SEVENTHuNINTHuTENTHvHIRDqTWO THIRDS",
  "2155qONE FIFTHqTWO FIFTHSrHREE FIFTHSqFOUR FIFTHSqONE SIXTHqFIVE SIXTHSqONE EIGHTH",
  "215CqTHREE EIGHTHSqFIVE EIGHTHSqSEVEN EIGHTHSaFRACTION NUMERATOR ONEaROMAN NUMERAL ONEoTWO",
  "2162pHREEoFOURpIVEoSIXpEVENoEIGHToNINEoTENoELEVENoTWELVEoFIFTYoONE HUNDREDoFIVE HUNDRED",
  "216FoONE THOUSANDaSMALL ROMAN NUMERAL ONEuTWOvHREEuFOURvIVEuSIXvEVENuEIGHTuNINEuTENuELEVEN",
  "217BuTWELVEuFIFTYuONE HUNDREDuFIVE HUNDREDuONE THOUSANDaROMAN NUMERAL ONE THOUSAND C D",
  "2181oFIVE THOUSANDoTEN THOUSANDoREVERSED ONE HUNDREDaLATIN SMALL LETTER REVERSED C",
  "2185aROMAN NUMERAL SIX LATE FORMoFIFTY EARLY FORMuTHOUSANDoONE HUNDRED THOUSAND",
  "2189aVULGAR FRACTION ZERO THIRDSaTURNED DIGIT TWOoHREE",
  "2190aLEFTWARDS ARROWaUPWARDS ARROWaRIGHTWARDS ARROWaDOWNWARDS ARROWaLEFT RIGHT ARROW",
  "2195aUP DOWN ARROWaNORTH WEST ARROWgEAST ARROWaSOUTH EAST ARROWgWEST ARROW",
  "219AaLEFTWARDS ARROW WITH STROKEaRIGHTWARDS ARROW WITH STROKEaLEFTWARDS WAVE ARROW",
  "219DaRIGHTWARDS WAVE ARROWaLEFTWARDS TWO HEADED ARROWaUPWARDS TWO HEADED ARROW",
  "21A0aRIGHTWARDS TWO HEADED ARROWaDOWNWARDS TWO HEADED ARROWaLEFTWARDS ARROW WITH TAIL",
  "21A3aRIGHTWARDS ARROW WITH TAILaLEFTWARDS ARROW FROM BARaUPWARDS ARROW FROM BAR",
  "21A6aRIGHTWARDS ARROW FROM BARaDOWNWARDS ARROW FROM BARaUP DOWN ARROW WITH BASE",
  "21A9aLEFTWARDS ARROW WITH HOOKaRIGHTWARDS ARROW WITH HOOKaLEFTWARDS ARROW WITH LOOP",
  "21ACaRIGHTWARDS ARROW WITH LOOPaLEFT RIGHT WAVE ARROWlARROW WITH STROKEaDOWNWARDS ZIGZAG ARROW",
  "21B0aUPWARDS ARROW WITH TIP LEFTWARDSxRIGHTWARDSaDOWNWARDS ARROW WITH TIP LEFTWARDSzRIGHTWARDS",
  "21B4aRIGHTWARDS ARROW WITH CORNER DOWNWARDSaDOWNWARDS ARROW WITH CORNER LEFTWARDS",
  "21B6aANTICLOCKWISE TOP SEMICIRCLE ARROWaCLOCKWISE TOP SEMICIRCLE ARROW",
  "21B8aNORTH WEST ARROW TO LONG BARaLEFTWARDS ARROW TO BAR OVER RIGHTWARDS ARROW TO BAR",
  "21BAaANTICLOCKWISE OPEN CIRCLE ARROWaCLOCKWISE OPEN CIRCLE ARROW",
  "21BCaLEFTWARDS HARPOON WITH BARB UPWARDSzdDOWNWARDSaUPWARDS HARPOON WITH BARB RIGHTWARDS",
  "21BFzbLEFTWARDSaRIGHTWARDS HARPOON WITH BARB UPWARDSzeDOWNWARDS",
  "21C2aDOWNWARDS HARPOON WITH BARB RIGHTWARDSzdLEFTWARDSaRIGHTWARDS ARROW OVER LEFTWARDS ARROW",
  "21C5aUPWARDS ARROW LEFTWARDS OF DOWNWARDS ARROWaLEFTWARDS ARROW OVER RIGHTWARDS ARROW",
  "21C7kPAIRED ARROWSaUPWARDS PAIRED ARROWSaRIGHTWARDS PAIRED ARROWSaDOWNWARDS PAIRED ARROWS",
  "21CBaLEFTWARDS HARPOON OVER RIGHTWARDS HARPOONaRIGHTWARDS HARPOON OVER LEFTWARDS HARPOON",
  "21CDaLEFTWARDS DOUBLE ARROW WITH STROKEe RIGHT DOUBLE ARROW WITH STROKE",
  "21CFaRIGHTWARDS DOUBLE ARROW WITH STROKEaLEFTWARDS DOUBLE ARROWaUPWARDS DOUBLE ARROW",
  "21D2aRIGHTWARDS DOUBLE ARROWaDOWNWARDS DOUBLE ARROWaLEFT RIGHT DOUBLE ARROW",
  "21D5aUP DOWN DOUBLE ARROWaNORTH WEST DOUBLE ARROWgEAST DOUBLE ARROWaSOUTH EAST DOUBLE ARROW",
  "21D9gWEST DOUBLE ARROWaLEFTWARDS TRIPLE ARROWaRIGHTWARDS TRIPLE ARROWaLEFTWARDS SQUIGGLE ARROW",
  "21DDaRIGHTWARDS SQUIGGLE ARROWaUPWARDS ARROW WITH DOUBLE STROKE",
  "21DFaDOWNWARDS ARROW WITH DOUBLE STROKEaLEFTWARDS DASHED ARROWaUPWARDS DASHED ARROW",
  "21E2aRIGHTWARDS DASHED ARROWaDOWNWARDS DASHED ARROWaLEFTWARDS ARROW TO BAR",
  "21E5aRIGHTWARDS ARROW TO BARaLEFTWARDS WHITE ARROWaUPWARDS WHITE ARROWaRIGHTWARDS WHITE ARROW",
  "21E9aDOWNWARDS WHITE ARROWaUPWARDS WHITE ARROW FROM BARuON PEDESTALzg WITH HORIZONTAL BAR",
  "21EDzmVERTICAL BARoDOUBLE ARROWzb ON PEDESTALaRIGHTWARDS WHITE ARROW FROM WALL",
  "21F1aNORTH WEST ARROW TO CORNERaSOUTH EAST ARROW TO CORNERaUP DOWN WHITE ARROW",
  "21F4aRIGHT ARROW WITH SMALL CIRCLEaDOWNWARDS ARROW LEFTWARDS OF UPWARDS ARROW",
  "21F6aTHREE RIGHTWARDS ARROWSaLEFTWARDS ARROW WITH VERTICAL STROKE",
  "21F8aRIGHTWARDS ARROW WITH VERTICAL STROKEaLEFT RIGHT ARROW WITH VERTICAL STROKE",
  "21FAeWARDS ARROW WITH DOUBLE VERTICAL STROKEaRIGHTWARDS ARROW WITH DOUBLE VERTICAL STROKE",
  "21FCaLEFT RIGHT ARROW WITH DOUBLE VERTICAL STROKEeWARDS OPEN-HEADED ARROW",
  "21FEaRIGHTWARDS OPEN-HEADED ARROWaLEFT RIGHT OPEN-HEADED ARROWaFOR ALLaCOMPLEMENT",
  "2202aPARTIAL DIFFERENTIALaTHERE EXISTSgDOES NOT EXISTaEMPTY SETaINCREMENTaNABLAaELEMENT OF",
  "2209aNOT AN ELEMENT OFaSMALL ELEMENT OFaCONTAINS AS MEMBERaDOES NOT CONTAIN AS MEMBER",
  "220DaSMALL CONTAINS AS MEMBERaEND OF PROOFaN-ARY PRODUCTgCOPRODUCTgSUMMATIONaMINUS SIGN",
  "2213f-OR-PLUS SIGNaDOT PLUSbIVISION SLASHaSET MINUSaASTERISK OPERATORaRING OPERATOR",
  "2219aBULLET OPERATORaSQUARE ROOTaCUBE ROOTaFOURTH ROOTaPROPORTIONAL TOaINFINITYaRIGHT ANGLE",
  "2220aANGLEaMEASURED ANGLEaSPHERICAL ANGLEaDIVIDESbOES NOT DIVIDEaPARALLEL TOaNOT PARALLEL TO",
  "2227aLOGICAL ANDiORaINTERSECTIONaUNIONaINTEGRALaDOUBLE INTEGRALaTRIPLE INTEGRAL",
  "222EaCONTOUR INTEGRALaSURFACE INTEGRALaVOLUME INTEGRALaCLOCKWISE INTEGRALkCONTOUR INTEGRAL",
  "2233aANTICLOCKWISE CONTOUR INTEGRALaTHEREFOREaBECAUSEaRATIOaPROPORTIONaDOT MINUSaEXCESS",
  "223AaGEOMETRIC PROPORTIONaHOMOTHETICaTILDE OPERATORaREVERSED TILDEaINVERTED LAZY SaSINE WAVE",
  "2240aWREATH PRODUCTaNOT TILDEaMINUS TILDEaASYMPTOTICALLY EQUAL TOaNOT ASYMPTOTICALLY EQUAL TO",
  "2245aAPPROXIMATELY EQUAL TOoBUT NOT ACTUALLY EQUAL TO",
  "2247aNEITHER APPROXIMATELY NOR ACTUALLY EQUAL TOaALMOST EQUAL TOaNOT ALMOST EQUAL TO",
  "224AaALMOST EQUAL OR EQUAL TOaTRIPLE TILDEaALL EQUAL TOaEQUIVALENT TO",
  "224EaGEOMETRICALLY EQUIVALENT TOaDIFFERENCE BETWEENaAPPROACHES THE LIMIT",
  "2251aGEOMETRICALLY EQUAL TOaAPPROXIMATELY EQUAL TO OR THE IMAGE OF",
  "2253aIMAGE OF OR APPROXIMATELY EQUAL TOaCOLON EQUALSaEQUALS COLONaRING IN EQUAL TOfEQUAL TO",
  "2258aCORRESPONDS TOaESTIMATESbQUIANGULAR TOaSTAR EQUALSaDELTA EQUAL TOaEQUAL TO BY DEFINITION",
  "225EaMEASURED BYaQUESTIONED EQUAL TOaNOT EQUAL TOaIDENTICAL TOaNOT IDENTICAL TO",
  "2263aSTRICTLY EQUIVALENT TOaLESS-THAN OR EQUAL TOaGREATER-THAN OR EQUAL TO",
  "2266aLESS-THAN OVER EQUAL TOaGREATER-THAN OVER EQUAL TOaLESS-THAN BUT NOT EQUAL TO",
  "2269aGREATER-THAN BUT NOT EQUAL TOaMUCH LESS-THANfGREATER-THANaBETWEENaNOT EQUIVALENT TO",
  "226EeLESS-THANeGREATER-THANbEITHER LESS-THAN NOR EQUAL TOiGREATER-THAN NOR EQUAL TO",
  "2272aLESS-THAN OR EQUIVALENT TOaGREATER-THAN OR EQUIVALENT TO",
  "2274aNEITHER LESS-THAN NOR EQUIVALENT TOiGREATER-THAN NOR EQUIVALENT TO",
  "2276aLESS-THAN OR GREATER-THANaGREATER-THAN OR LESS-THANaNEITHER LESS-THAN NOR GREATER-THAN",
  "2279iGREATER-THAN NOR LESS-THANaPRECEDESaSUCCEEDSaPRECEDES OR EQUAL TOaSUCCEEDS OR EQUAL TO",
  "227EaPRECEDES OR EQUIVALENT TOaSUCCEEDS OR EQUIVALENT TOaDOES NOT PRECEDEjSUCCEEDaSUBSET OF",
  "2283cPERSET OFaNOT A SUBSET OFiPERSET OFaSUBSET OF OR EQUAL TOcPERSET OF OR EQUAL TO",
  "2288aNEITHER A SUBSET OF NOR EQUAL TOmPERSET OF NOR EQUAL TOaSUBSET OF WITH NOT EQUAL TO",
  "228BcPERSET OF WITH NOT EQUAL TOaMULTISETi MULTIPLICATIONjUNIONaSQUARE IMAGE OFhORIGINAL OF",
  "2291hIMAGE OF OR EQUAL TOhORIGINAL OF OR EQUAL TOhCAPiUPaCIRCLED PLUSiMINUSiTIMES",
  "2298iDIVISION SLASHjOT OPERATORiRING OPERATORiASTERISK OPERATORiEQUALSiDASHaSQUARED PLUSiMINUS",
  "22A0iTIMESiDOT OPERATORaRIGHT TACKaLEFT TACKaDOWN TACKaUP TACKaASSERTIONaMODELSaTRUEaFORCES",
  "22AAaTRIPLE VERTICAL BAR RIGHT TURNSTILEaDOUBLE VERTICAL BAR DOUBLE RIGHT TURNSTILE",
  "22ACcES NOT PROVEaNOT TRUEaDOES NOT FORCEaNEGATED DOUBLE VERTICAL BAR DOUBLE RIGHT TURNSTILE",
  "22B0aPRECEDES UNDER RELATIONaSUCCEEDS UNDER RELATIONaNORMAL SUBGROUP OF",
  "22B3aCONTAINS AS NORMAL SUBGROUPaNORMAL SUBGROUP OF OR EQUAL TO",
  "22B5aCONTAINS AS NORMAL SUBGROUP OR EQUAL TOaORIGINAL OFaIMAGE OFaMULTIMAP",
  "22B9aHERMITIAN CONJUGATE MATRIXaINTERCALATEaXORaNANDbORaRIGHT ANGLE WITH ARCgTRIANGLE",
  "22C0aN-ARY LOGICAL ANDoORgINTERSECTIONgUNIONaDIAMOND OPERATORbOT OPERATORaSTAR OPERATOR",
  "22C7aDIVISION TIMESaBOWTIEaLEFT NORMAL FACTOR SEMIDIRECT PRODUCT",
  "22CAaRIGHT NORMAL FACTOR SEMIDIRECT PRODUCTaLEFT SEMIDIRECT PRODUCTaRIGHT SEMIDIRECT PRODUCT",
  "22CDbEVERSED TILDE EQUALSaCURLY LOGICAL ORoANDaDOUBLE SUBSETjPERSEThINTERSECTIONhUNION",
  "22D4aPITCHFORKaEQUAL AND PARALLEL TOaLESS-THAN WITH DOTaGREATER-THAN WITH DOT",
  "22D8aVERY MUCH LESS-THANkGREATER-THANaLESS-THAN EQUAL TO OR GREATER-THAN",
  "22DBaGREATER-THAN EQUAL TO OR LESS-THANaEQUAL TO OR LESS-THANmGREATER-THANmPRECEDESmSUCCEEDS",
  "22E0aDOES NOT PRECEDE OR EQUALjSUCCEED OR EQUALaNOT SQUARE IMAGE OF OR EQUAL TO",
  "22E3lORIGINAL OF OR EQUAL TOaSQUARE IMAGE OF OR NOT EQUAL TOhORIGINAL OF OR NOT EQUAL TO",
  "22E6aLESS-THAN BUT NOT EQUIVALENT TOaGREATER-THAN BUT NOT EQUIVALENT TO",
  "22E8aPRECEDES BUT NOT EQUIVALENT TOaSUCCEEDS BUT NOT EQUIVALENT TOaNOT NORMAL SUBGROUP OF",
  "22EBaDOES NOT CONTAIN AS NORMAL SUBGROUPaNOT NORMAL SUBGROUP OF OR EQUAL TO",
  "22EDaDOES NOT CONTAIN AS NORMAL SUBGROUP OR EQUALaVERTICAL ELLIPSIS",
  "22EFaMIDLINE HORIZONTAL ELLIPSISaUP RIGHT DIAGONAL ELLIPSISaDOWN RIGHT DIAGONAL ELLIPSIS",
  "22F2aELEMENT OF WITH LONG HORIZONTAL STROKEqVERTICAL BAR AT END OF HORIZONTAL STROKE",
  "22F4aSMALL ELEMENT OF WITH VERTICAL BAR AT END OF HORIZONTAL STROKEaELEMENT OF WITH DOT ABOVE",
  "22F6qOVERBARaSMALL ELEMENT OF WITH OVERBARaELEMENT OF WITH UNDERBARqTWO HORIZONTAL STROKES",
  "22FAaCONTAINS WITH LONG HORIZONTAL STROKEoVERTICAL BAR AT END OF HORIZONTAL STROKE",
  "22FCaSMALL CONTAINS WITH VERTICAL BAR AT END OF HORIZONTAL STROKEaCONTAINS WITH OVERBAR",
  "22FEaSMALL CONTAINS WITH OVERBARaZ NOTATION BAG MEMBERSHIPaDIAMETER SIGNaELECTRIC ARROWaHOUSE",
  "2303aUP ARROWHEADaDOWN ARROWHEADaPROJECTIVEbERSPECTIVEaWAVY LINEaLEFT CEILINGaRIGHT CEILING",
  "230AaLEFT FLOORaRIGHT FLOORaBOTTOM RIGHT CROPhLEFT CROPaTOP RIGHT CROPeLEFT CROP",
  "2310aREVERSED NOT SIGNaSQUARE LOZENGEaARCaSEGMENTcCTORaTELEPHONE RECORDERaPOSITION INDICATOR",
  "2317aVIEWDATA SQUAREaPLACE OF INTEREST SIGNaTURNED NOT SIGNaWATCHaHOURGLASSaTOP LEFT CORNER",
  "231DeRIGHT CORNERaBOTTOM LEFT CORNERhRIGHT CORNERaTOP HALF INTEGRALaBOTTOM HALF INTEGRALaFROWN",
  "2323aSMILEaUP ARROWHEAD BETWEEN TWO HORIZONTAL BARSaOPTION KEYaERASE TO THE RIGHT",
  "2327aX IN A RECTANGLE BOXaKEYBOARDaLEFT-POINTING ANGLE BRACKETaRIGHT-POINTING ANGLE BRACKET",
  "232BaERASE TO THE LEFTaBENZENE RINGaCYLINDRICITYaALL AROUND-PROFILEaSYMMETRYaTOTAL RUNOUT",
  "2331aDIMENSION ORIGINaCONICAL TAPERaSLOPEaCOUNTERBOREhSINKaAPL FUNCTIONAL SYMBOL I-BEAM",
  "2337wSQUISH QUADwQUAD EQUALzcDIVIDEzeAMONDzcJOTzcCIRCLEwCIRCLE STILEzeJOTwSLASH BAR",
  "2340wBACKSLASH BARwQUAD SLASHzcBACKSLASHzcLESS-THANzcGREATER-THANwLEFTWARDS VANE",
  "2346wRIGHTWARDS VANEwQUAD LEFTWARDS ARROWzcRIGHTWARDS ARROWwCIRCLE BACKSLASH",
  "234AwDOWN TACK UNDERBARxELTA STILEwQUAD DOWN CARETzdELTAwDOWN TACK JOTwUPWARDS VANE",
  "2350wQUAD UPWARDS ARROWwUP TACK OVERBARwDEL STILEwQUAD UP CARETzcDELwUP TACK JOT",
  "2356wDOWNWARDS VANEwQUAD DOWNWARDS ARROWyOTE UNDERBARwDELTA UNDERBARxIAMOND UNDERBAR",
  "235BwJOT UNDERBARwCIRCLE UNDERBARwUP SHOE JOTwQUOTE QUADwCIRCLE STARwQUAD COLON",
  "2361wUP TACK DIAERESISwDEL DIAERESISwSTAR DIAERESISwJOT DIAERESISwCIRCLE DIAERESIS",
  "2366wDOWN SHOE STILEwLEFT SHOE STILEwTILDE DIAERESISwGREATER-THAN DIAERESISwCOMMA BAR",
  "236BwDEL TILDEwZILDEwSTILE TILDExEMICOLON UNDERBARwQUAD NOT EQUALzcQUESTIONwDOWN CARET TILDE",
  "2372wUP CARET TILDEwIOTAwRHOwOMEGAwALPHA UNDERBARwEPSILON UNDERBARwIOTA UNDERBAR",
  "2379wOMEGA UNDERBARwALPHAaNOT CHECK MARKaRIGHT ANGLE WITH DOWNWARDS ZIGZAG ARROW",
  "237DaSHOULDERED OPEN BOXaBELL SYMBOLaVERTICAL LINE WITH MIDDLE DOTaINSERTION SYMBOL",
  "2381aCONTINUOUS UNDERLINE SYMBOLaDISCONTINUOUS UNDERLINE SYMBOLaEMPHASIS SYMBOL",
  "2384aCOMPOSITION SYMBOLaWHITE SQUARE WITH CENTRE VERTICAL LINEaENTER SYMBOL",
  "2387aALTERNATIVE KEY SYMBOLaHELM SYMBOLaCIRCLED HORIZONTAL BAR WITH NOTCHiTRIANGLE DOWN",
  "238BaBROKEN CIRCLE WITH NORTHWEST ARROWaUNDO SYMBOLaMONOSTABLE SYMBOLaHYSTERESIS SYMBOL",
  "238FaOPEN-CIRCUIT-OUTPUT H-TYPE SYMBOLuL-TYPE SYMBOLaPASSIVE-PULL-DOWN-OUTPUT SYMBOL",
  "2392nUP-OUTPUT SYMBOLaDIRECT CURRENT SYMBOL FORM TWOaSOFTWARE-FUNCTION SYMBOL",
  "2395aAPL FUNCTIONAL SYMBOL QUADaDECIMAL SEPARATOR KEY SYMBOLaPREVIOUS PAGEaNEXT PAGE",
  "2399aPRINT SCREEN SYMBOLaCLEAR SCREEN SYMBOLaLEFT PARENTHESIS UPPER HOOKrEXTENSIONrLOWER HOOK",
  "239EaRIGHT PARENTHESIS UPPER HOOKsEXTENSIONsLOWER HOOKaLEFT SQUARE BRACKET UPPER CORNER",
  "23A2uEXTENSIONuLOWER CORNERaRIGHT SQUARE BRACKET UPPER CORNERvEXTENSIONvLOWER CORNER",
  "23A7aLEFT CURLY BRACKET UPPER HOOKtMIDDLE PIECEtLOWER HOOKaCURLY BRACKET EXTENSION",
  "23ABaRIGHT CURLY BRACKET UPPER HOOKuMIDDLE PIECEuLOWER HOOKaINTEGRAL EXTENSION",
  "23AFaHORIZONTAL LINE EXTENSIONaUPPER LEFT OR LOWER RIGHT CURLY BRACKET SECTION",
  "23B1gRIGHT OR LOWER LEFT CURLY BRACKET SECTIONaSUMMATION TOPkBOTTOMaTOP SQUARE BRACKET",
  "23B5aBOTTOM SQUARE BRACKETv OVER TOP SQUARE BRACKETaRADICAL SYMBOL BOTTOM",
  "23B8aLEFT VERTICAL BOX LINEaRIGHT VERTICAL BOX LINEaHORIZONTAL SCAN LINE-1v3v7v9",
  "23BEaDENTISTRY SYMBOL LIGHT VERTICAL AND TOP RIGHTzlBOTTOM RIGHTzhWITH CIRCLE",
  "23C1xDOWN AND HORIZONTAL WITH CIRCLExUP AND HORIZONTAL WITH CIRCLExVERTICAL WITH TRIANGLE",
  "23C4xDOWN AND HORIZONTAL WITH TRIANGLExUP AND HORIZONTAL WITH TRIANGLExVERTICAL AND WAVE",
  "23C7xDOWN AND HORIZONTAL WITH WAVExUP AND HORIZONTAL WITH WAVExDOWN AND HORIZONTAL",
  "23CAxUP AND HORIZONTALxVERTICAL AND TOP LEFTzlBOTTOM LEFTaSQUARE FOOTaRETURN SYMBOL",
  "23CFaEJECT SYMBOLaVERTICAL LINE EXTENSIONaMETRICAL BREVEjLONG OVER SHORTjSHORT OVER LONG",
  "23D4jLONG OVER TWO SHORTSjTWO SHORTS OVER LONGuJOINEDkRISEMEkETRASEMEjPENTASEMEaEARTH GROUND",
  "23DBaFUSEaTOP PARENTHESISaBOTTOM PARENTHESISaTOP CURLY BRACKETaBOTTOM CURLY BRACKET",
  "23E0aTOP TORTOISE SHELL BRACKETaBOTTOM TORTOISE SHELL BRACKETaWHITE TRAPEZIUM",
  "23E3aBENZENE RING WITH CIRCLEaSTRAIGHTNESSaFLATNESSaAC CURRENTaELECTRICAL INTERSECTION",
  "23E8aDECIMAL EXPONENT SYMBOLaBLACK RIGHT-POINTING DOUBLE TRIANGLE",
  "23EAgLEFT-POINTING DOUBLE TRIANGLEgUP-POINTING DOUBLE TRIANGLEgDOWN-POINTING DOUBLE TRIANGLE",
  "23EDgRIGHT-POINTING DOUBLE TRIANGLE WITH VERTICAL BAR",
  "23EEgLEFT-POINTING DOUBLE TRIANGLE WITH VERTICAL BAR",
  "23EFgRIGHT-POINTING TRIANGLE WITH DOUBLE VERTICAL BARaALARM CLOCKaSTOPWATCHaTIMER CLOCK",
  "23F3aHOURGLASS WITH FLOWING SANDaBLACK MEDIUM LEFT-POINTING TRIANGLEnRIGHT-POINTING TRIANGLE",
  "23F6nUP-POINTING TRIANGLEnDOWN-POINTING TRIANGLEaDOUBLE VERTICAL BARaBLACK SQUARE FOR STOP",
  "23FAgCIRCLE FOR RECORDaPOWER SYMBOLgON-OFF SYMBOLi SYMBOLgSLEEP SYMBOLaOBSERVER EYE SYMBOL",
  "2400aSYMBOL FOR NULLlSTART OF HEADINGuTEXTlEND OF TEXTtRANSMISSIONnQUIRYlACKNOWLEDGElBELL",
  "2408mACKSPACElHORIZONTAL TABULATIONlLINE FEEDlVERTICAL TABULATIONlFORM FEEDlCARRIAGE RETURN",
  "240ElSHIFT OUTrINlDATA LINK ESCAPEmEVICE CONTROL ONEzbTWOzcHREEzbFOURlNEGATIVE ACKNOWLEDGE",
  "2416lSYNCHRONOUS IDLElEND OF TRANSMISSION BLOCKlCANCELlEND OF MEDIUMlSUBSTITUTElESCAPE",
  "241ClFILE SEPARATORlGROUP SEPARATORlRECORD SEPARATORlUNIT SEPARATORlSPACElDELETEaBLANK SYMBOL",
  "2423aOPEN BOXaSYMBOL FOR NEWLINElDELETE FORM TWOlSUBSTITUTE FORM TWO",
  "2440aOCR HOOKeCHAIReFORKeINVERTED FORKeBELT BUCKLEfOW TIEfRANCH BANK IDENTIFICATION",
  "2447eAMOUNT OF CHECKeDASHeCUSTOMER ACCOUNT NUMBEReDOUBLE BACKSLASH",
  "2460aCIRCLED DIGIT ONEoTWOpHREEoFOURpIVEoSIXpEVENoEIGHToNINEiNUMBER TENpELEVENpTWELVEqHIRTEEN",
  "246DpFOURTEENqIFTEENpSIXTEENqEVENTEENpEIGHTEENpNINETEENpTWENTYaPARENTHESIZED DIGIT ONEuTWO",
  "2476vHREEuFOURvIVEuSIXvEVENuEIGHTuNINEoNUMBER TENvELEVENvTWELVEwHIRTEENvFOURTEENwIFTEEN",
  "2483vSIXTEENwEVENTEENvEIGHTEENvNINETEENvTWENTYaDIGIT ONE FULL STOPgTWO FULL STOP",
  "248AhHREE FULL STOPgFOUR FULL STOPhIVE FULL STOPgSIX FULL STOPhEVEN FULL STOPgEIGHT FULL STOP",
  "2490gNINE FULL STOPaNUMBER TEN FULL STOPhELEVEN FULL STOPhTWELVE FULL STOPiHIRTEEN FULL STOP",
  "2495hFOURTEEN FULL STOPiIFTEEN FULL STOPhSIXTEEN FULL STOPiEVENTEEN FULL STOP",
  "2499hEIGHTEEN FULL STOPhNINETEEN FULL STOPhTWENTY FULL STOPaPARENTHESIZED LATIN SMALL LETTER A",
  "249DziBziCziDziEziFziGziHziIziJziKziLziMziNziOziPziQziRziSziTziUziVziWziXziYziZ",
  "24B6aCIRCLED LATIN CAPITAL LETTER AzeBzeCzeDzeEzeFzeGzeHzeIzeJzeKzeLzeMzeNzeOzePzeQzeRzeSzeT",
  "24CAzeUzeVzeWzeXzeYzeZoSMALL LETTER AzcBzcCzcDzcEzcFzcGzcHzcIzcJzcKzcLzcMzcNzcOzcPzcQzcRzcSzcT",
  "24E4zcUzcVzcWzcXzcYzcZiDIGIT ZEROaNEGATIVE CIRCLED NUMBER ELEVENyTWELVEzHIRTEENyFOURTEEN",
  "24EFzIFTEENySIXTEENzEVENTEENyEIGHTEENyNINETEENyTWENTYaDOUBLE CIRCLED DIGIT ONEvTWOwHREEvFOUR",
  "24F9wIVEvSIXwEVENvEIGHTvNINEpNUMBER TENaNEGATIVE CIRCLED DIGIT ZERO",
  "2500aBOX DRAWINGS LIGHT HORIZONTALnHEAVY HORIZONTALnLIGHT VERTICALnHEAVY VERTICAL",
  "2504nLIGHT TRIPLE DASH HORIZONTALnHEAVY TRIPLE DASH HORIZONTALnLIGHT TRIPLE DASH VERTICAL",
  "2507nHEAVY TRIPLE DASH VERTICALnLIGHT QUADRUPLE DASH HORIZONTAL",
  "2509nHEAVY QUADRUPLE DASH HORIZONTALnLIGHT QUADRUPLE DASH VERTICAL",
  "250BnHEAVY QUADRUPLE DASH VERTICALnLIGHT DOWN AND RIGHTnDOWN LIGHT AND RIGHT HEAVY",
  "250EsHEAVY AND RIGHT LIGHTnHEAVY DOWN AND RIGHTnLIGHT DOWN AND LEFTnDOWN LIGHT AND LEFT HEAVY",
  "2512sHEAVY AND LEFT LIGHTnHEAVY DOWN AND LEFTnLIGHT UP AND RIGHTnUP LIGHT AND RIGHT HEAVY",
  "2516qHEAVY AND RIGHT LIGHTnHEAVY UP AND RIGHTnLIGHT UP AND LEFTnUP LIGHT AND LEFT HEAVY",
  "251AqHEAVY AND LEFT LIGHTnHEAVY UP AND LEFTnLIGHT VERTICAL AND RIGHT",
  "251DnVERTICAL LIGHT AND RIGHT HEAVYnUP HEAVY AND RIGHT DOWN LIGHT",
  "251FnDOWN HEAVY AND RIGHT UP LIGHTnVERTICAL HEAVY AND RIGHT LIGHT",
  "2521nDOWN LIGHT AND RIGHT UP HEAVYnUP LIGHT AND RIGHT DOWN HEAVYnHEAVY VERTICAL AND RIGHT",
  "2524nLIGHT VERTICAL AND LEFTnVERTICAL LIGHT AND LEFT HEAVYnUP HEAVY AND LEFT DOWN LIGHT",
  "2527nDOWN HEAVY AND LEFT UP LIGHTnVERTICAL HEAVY AND LEFT LIGHTnDOWN LIGHT AND LEFT UP HEAVY",
  "252AnUP LIGHT AND LEFT DOWN HEAVYnHEAVY VERTICAL AND LEFTnLIGHT DOWN AND HORIZONTAL",
  "252DoEFT HEAVY AND RIGHT DOWN LIGHTnRIGHT HEAVY AND LEFT DOWN LIGHT",
  "252FnDOWN LIGHT AND HORIZONTAL HEAVYsHEAVY AND HORIZONTAL LIGHT",
  "2531nRIGHT LIGHT AND LEFT DOWN HEAVYnLEFT LIGHT AND RIGHT DOWN HEAVYnHEAVY DOWN AND HORIZONTAL",
  "2534nLIGHT UP AND HORIZONTALoEFT HEAVY AND RIGHT UP LIGHTnRIGHT HEAVY AND LEFT UP LIGHT",
  "2537nUP LIGHT AND HORIZONTAL HEAVYqHEAVY AND HORIZONTAL LIGHTnRIGHT LIGHT AND LEFT UP HEAVY",
  "253AnLEFT LIGHT AND RIGHT UP HEAVYnHEAVY UP AND HORIZONTALnLIGHT VERTICAL AND HORIZONTAL",
  "253DoEFT HEAVY AND RIGHT VERTICAL LIGHTnRIGHT HEAVY AND LEFT VERTICAL LIGHT",
  "253FnVERTICAL LIGHT AND HORIZONTAL HEAVYnUP HEAVY AND DOWN HORIZONTAL LIGHT",
  "2541nDOWN HEAVY AND UP HORIZONTAL LIGHTnVERTICAL HEAVY AND HORIZONTAL LIGHT",
  "2543nLEFT UP HEAVY AND RIGHT DOWN LIGHTnRIGHT UP HEAVY AND LEFT DOWN LIGHT",
  "2545nLEFT DOWN HEAVY AND RIGHT UP LIGHTnRIGHT DOWN HEAVY AND LEFT UP LIGHT",
  "2547nDOWN LIGHT AND UP HORIZONTAL HEAVYnUP LIGHT AND DOWN HORIZONTAL HEAVY",
  "2549nRIGHT LIGHT AND LEFT VERTICAL HEAVYnLEFT LIGHT AND RIGHT VERTICAL HEAVY",
  "254BnHEAVY VERTICAL AND HORIZONTALnLIGHT DOUBLE DASH HORIZONTALnHEAVY DOUBLE DASH HORIZONTAL",
  "254EnLIGHT DOUBLE DASH VERTICALnHEAVY DOUBLE DASH VERTICALnDOUBLE HORIZONTALuVERTICAL",
  "2552pWN SINGLE AND RIGHT DOUBLEsDOUBLE AND RIGHT SINGLEpUBLE DOWN AND RIGHT",
  "2555pWN SINGLE AND LEFT DOUBLEsDOUBLE AND LEFT SINGLEpUBLE DOWN AND LEFT",
  "2558nUP SINGLE AND RIGHT DOUBLEqDOUBLE AND RIGHT SINGLEnDOUBLE UP AND RIGHT",
  "255BnUP SINGLE AND LEFT DOUBLEqDOUBLE AND LEFT SINGLEnDOUBLE UP AND LEFT",
  "255EnVERTICAL SINGLE AND RIGHT DOUBLEwDOUBLE AND RIGHT SINGLEnDOUBLE VERTICAL AND RIGHT",
  "2561nVERTICAL SINGLE AND LEFT DOUBLEwDOUBLE AND LEFT SINGLEnDOUBLE VERTICAL AND LEFT",
  "2564pWN SINGLE AND HORIZONTAL DOUBLEsDOUBLE AND HORIZONTAL SINGLEpUBLE DOWN AND HORIZONTAL",
  "2567nUP SINGLE AND HORIZONTAL DOUBLEqDOUBLE AND HORIZONTAL SINGLEnDOUBLE UP AND HORIZONTAL",
  "256AnVERTICAL SINGLE AND HORIZONTAL DOUBLEwDOUBLE AND HORIZONTAL SINGLE",
  "256CnDOUBLE VERTICAL AND HORIZONTALnLIGHT ARC DOWN AND RIGHTzhLEFTxUP AND LEFTzfRIGHT",
  "2571tDIAGONAL UPPER RIGHT TO LOWER LEFTzjLEFT TO LOWER RIGHTzdCROSStLEFTtUPtRIGHTtDOWN",
  "2578nHEAVY LEFTtUPtRIGHTtDOWNnLIGHT LEFT AND HEAVY RIGHTtUP AND HEAVY DOWN",
  "257EnHEAVY LEFT AND LIGHT RIGHTtUP AND LIGHT DOWNaUPPER HALF BLOCKaLOWER ONE EIGHTH BLOCK",
  "2582kQUARTER BLOCKgTHREE EIGHTHS BLOCKgHALF BLOCKgFIVE EIGHTHS BLOCKgTHREE QUARTERS BLOCK",
  "2587gSEVEN EIGHTHS BLOCKaFULL BLOCKaLEFT SEVEN EIGHTHS BLOCKfTHREE QUARTERS BLOCK",
  "258BfFIVE EIGHTHS BLOCKfHALF BLOCKfTHREE EIGHTHS BLOCKfONE QUARTER BLOCKjEIGHTH BLOCK",
  "2590aRIGHT HALF BLOCKaLIGHT SHADEaMEDIUM SHADEaDARK SHADEaUPPER ONE EIGHTH BLOCK",
  "2595aRIGHT ONE EIGHTH BLOCKaQUADRANT LOWER LEFTpRIGHTjUPPER LEFT",
  "2599t AND LOWER LEFT AND LOWER RIGHTzfRIGHTyUPPER RIGHT AND LOWER LEFTzvRIGHTpRIGHT",
  "259Eu AND LOWER LEFTzk AND LOWER RIGHTaBLACK SQUAREaWHITE SQUAREm WITH ROUNDED CORNERS",
  "25A3nCONTAINING BLACK SMALL SQUAREaSQUARE WITH HORIZONTAL FILLmVERTICAL FILL",
  "25A6mORTHOGONAL CROSSHATCH FILLmUPPER LEFT TO LOWER RIGHT FILLsRIGHT TO LOWER LEFT FILL",
  "25A9mDIAGONAL CROSSHATCH FILLaBLACK SMALL SQUAREaWHITE SMALL SQUAREaBLACK RECTANGLE",
  "25ADaWHITE RECTANGLEaBLACK VERTICAL RECTANGLEaWHITE VERTICAL RECTANGLEaBLACK PARALLELOGRAM",
  "25B1aWHITE PARALLELOGRAMaBLACK UP-POINTING TRIANGLEaWHITE UP-POINTING TRIANGLE",
  "25B4aBLACK UP-POINTING SMALL TRIANGLEaWHITE UP-POINTING SMALL TRIANGLE",
  "25B6aBLACK RIGHT-POINTING TRIANGLEaWHITE RIGHT-POINTING TRIANGLE",
  "25B8aBLACK RIGHT-POINTING SMALL TRIANGLEaWHITE RIGHT-POINTING SMALL TRIANGLE",
  "25BAaBLACK RIGHT-POINTING POINTERaWHITE RIGHT-POINTING POINTERaBLACK DOWN-POINTING TRIANGLE",
  "25BDaWHITE DOWN-POINTING TRIANGLEaBLACK DOWN-POINTING SMALL TRIANGLE",
  "25BFaWHITE DOWN-POINTING SMALL TRIANGLEaBLACK LEFT-POINTING TRIANGLE",
  "25C1aWHITE LEFT-POINTING TRIANGLEaBLACK LEFT-POINTING SMALL TRIANGLE",
  "25C3aWHITE LEFT-POINTING SMALL TRIANGLEaBLACK LEFT-POINTING POINTER",
  "25C5aWHITE LEFT-POINTING POINTERaBLACK DIAMONDaWHITE DIAMONDn CONTAINING BLACK SMALL DIAMOND",
  "25C9aFISHEYEaLOZENGEaWHITE CIRCLEaDOTTED CIRCLEaCIRCLE WITH VERTICAL FILLaBULLSEYEbLACK CIRCLE",
  "25D0aCIRCLE WITH LEFT HALF BLACKmRIGHT HALF BLACKmLOWER HALF BLACKmUPPER HALF BLACK",
  "25D4sRIGHT QUADRANT BLACKmALL BUT UPPER LEFT QUADRANT BLACKaLEFT HALF BLACK CIRCLE",
  "25D7aRIGHT HALF BLACK CIRCLEaINVERSE BULLETiWHITE CIRCLEaUPPER HALF INVERSE WHITE CIRCLE",
  "25DBaLOWER HALF INVERSE WHITE CIRCLEaUPPER LEFT QUADRANT CIRCULAR ARC",
  "25DDgRIGHT QUADRANT CIRCULAR ARCaLOWER RIGHT QUADRANT CIRCULAR ARCgLEFT QUADRANT CIRCULAR ARC",
  "25E0aUPPER HALF CIRCLEaLOWER HALF CIRCLEaBLACK LOWER RIGHT TRIANGLEmLEFT TRIANGLE",
  "25E4gUPPER LEFT TRIANGLEmRIGHT TRIANGLEaWHITE BULLETaSQUARE WITH LEFT HALF BLACK",
  "25E8mRIGHT HALF BLACKmUPPER LEFT DIAGONAL HALF BLACKmLOWER RIGHT DIAGONAL HALF BLACK",
  "25EBaWHITE SQUARE WITH VERTICAL BISECTING LINEgUP-POINTING TRIANGLE WITH DOT",
  "25EDaUP-POINTING TRIANGLE WITH LEFT HALF BLACKzbRIGHT HALF BLACKaLARGE CIRCLE",
  "25F0aWHITE SQUARE WITH UPPER LEFT QUADRANTsLOWER LEFT QUADRANTyRIGHT QUADRANT",
  "25F3sUPPER RIGHT QUADRANTgCIRCLE WITH UPPER LEFT QUADRANTsLOWER LEFT QUADRANTyRIGHT QUADRANT",
  "25F7sUPPER RIGHT QUADRANTaUPPER LEFT TRIANGLEgRIGHT TRIANGLEaLOWER LEFT TRIANGLE",
  "25FBaWHITE MEDIUM SQUAREaBLACK MEDIUM SQUAREaWHITE MEDIUM SMALL SQUARE",
  "25FEaBLACK MEDIUM SMALL SQUAREaLOWER RIGHT TRIANGLEaBLACK SUN WITH RAYSaCLOUDaUMBRELLAaSNOWMAN",
  "2604aCOMETaBLACK STARaWHITE STARaLIGHTNINGaTHUNDERSTORMaSUNaASCENDING NODEaDESCENDING NODE",
  "260CaCONJUNCTIONaOPPOSITIONaBLACK TELEPHONEaWHITE TELEPHONEaBALLOT BOXk WITH CHECKqXaSALTIRE",
  "2614aUMBRELLA WITH RAIN DROPSaHOT BEVERAGEaWHITE SHOGI PIECEaBLACK SHOGI PIECEaSHAMROCK",
  "2619aREVERSED ROTATED FLORAL HEART BULLETaBLACK LEFT POINTING INDEXgRIGHT POINTING INDEX",
  "261CaWHITE LEFT POINTING INDEXgUP POINTING INDEXgRIGHT POINTING INDEXgDOWN POINTING INDEX",
  "2620aSKULL AND CROSSBONESaCAUTION SIGNaRADIOACTIVE SIGNaBIOHAZARD SIGNaCADUCEUSaANKH",
  "2626aORTHODOX CROSSaCHI RHObROSS OF LORRAINEjJERUSALEMaSTAR AND CRESCENTaFARSI SYMBOL",
  "262CaADI SHAKTIaHAMMER AND SICKLEaPEACE SYMBOLaYIN YANGaTRIGRAM FOR HEAVENmLAKEmFIREmTHUNDER",
  "2634mWINDnATERmMOUNTAINmEARTHaWHEEL OF DHARMAcITE FROWNING FACEgSMILING FACE",
  "263BaBLACK SMILING FACEaWHITE SUN WITH RAYSaFIRST QUARTER MOONaLAST QUARTER MOONaMERCURY",
  "2640aFEMALE SIGNaEARTHaMALE SIGNaJUPITERaSATURNaURANUSaNEPTUNEaPLUTOaARIESaTAURUSaGEMINI",
  "264BaCANCERaLEOaVIRGOaLIBRAaSCORPIUSbAGITTARIUSaCAPRICORNaAQUARIUSaPISCESaWHITE CHESS KING",
  "2655mQUEENmROOKmBISHOPmKNIGHTmPAWNaBLACK CHESS KINGmQUEENmROOKmBISHOPmKNIGHTmPAWNgSPADE SUIT",
  "2661aWHITE HEART SUITgDIAMOND SUITaBLACK CLUB SUITaWHITE SPADE SUITaBLACK HEART SUIT",
  "2666gDIAMOND SUITaWHITE CLUB SUITaHOT SPRINGSaQUARTER NOTEaEIGHTH NOTEaBEAMED EIGHTH NOTES",
  "266ChSIXTEENTH NOTESaMUSIC FLAT SIGNgNATURAL SIGNgSHARP SIGNaWEST SYRIAC CROSS",
  "2671aEAST SYRIAC CROSSaUNIVERSAL RECYCLING SYMBOLaRECYCLING SYMBOL FOR TYPE-1 PLASTICS",
  "2674zb2 PLASTICSzb3 PLASTICSzb4 PLASTICSzb5 PLASTICSzb6 PLASTICSzb7 PLASTICSvGENERIC MATERIALS",
  "267BaBLACK UNIVERSAL RECYCLING SYMBOLaRECYCLED PAPER SYMBOLaPARTIALLY-RECYCLED PAPER SYMBOL",
  "267EbERMANENT PAPER SIGNaWHEELCHAIR SYMBOLaDIE FACE-1j2j3j4j5j6aWHITE CIRCLE WITH DOT RIGHT",
  "2687sTWO DOTSaBLACK CIRCLE WITH WHITE DOT RIGHTsTWO WHITE DOTSaMONOGRAM FOR YANGoIN",
  "268CaDIGRAM FOR GREATER YANGlLESSER YINtANGlGREATER YINaWHITE FLAGaBLACK FLAGaHAMMER AND PICK",
  "2693aANCHORaCROSSED SWORDSaSTAFF OF AESCULAPIUSbCALESaALEMBICaFLOWERaGEARaSTAFF OF HERMES",
  "269BaATOM SYMBOLaFLEUR-DE-LISaOUTLINED WHITE STARaTHREE LINES CONVERGING RIGHTxLEFT",
  "26A0aWARNING SIGNaHIGH VOLTAGE SIGNaDOUBLED FEMALE SIGNiMALE SIGN",
  "26A4aINTERLOCKED FEMALE AND MALE SIGNaMALE AND FEMALE SIGNfWITH STROKE SIGN",
  "26A7rAND MALE AND FEMALE SIGNaVERTICAL MALE WITH STROKE SIGNaHORIZONTAL MALE WITH STROKE SIGN",
  "26AAaMEDIUM WHITE CIRCLEhBLACK CIRCLEhSMALL WHITE CIRCLEbARRIAGE SYMBOLaDIVORCE SYMBOL",
  "26AFaUNMARRIED PARTNERSHIP SYMBOLaCOFFINaFUNERAL URNaNEUTERaCERESaPALLASaJUNOaVESTAaCHIRON",
  "26B8aBLACK MOON LILITHaSEXTILEcMISEXTILEaQUINCUNXaSESQUIQUADRATEbOCCER BALLaBASEBALL",
  "26BFaSQUARED KEYaWHITE DRAUGHTS MANpKINGaBLACK DRAUGHTS MANpKINGaSNOWMAN WITHOUT SNOW",
  "26C5bUN BEHIND CLOUDaRAINaBLACK SNOWMANaTHUNDER CLOUD AND RAINbURNED WHITE SHOGI PIECE",
  "26CAhBLACK SHOGI PIECEaWHITE DIAMOND IN SQUAREaCROSSING LANESaDISABLED CARaOPHIUCHUSaPICK",
  "26D0aCAR SLIDINGaHELMET WITH WHITE CROSSaCIRCLED CROSSING LANESbHAINSaNO ENTRY",
  "26D5aALTERNATE ONE-WAY LEFT WAY TRAFFICaBLACK TWO-WAY LEFT WAY TRAFFIC",
  "26D7aWHITE TWO-WAY LEFT WAY TRAFFICaBLACK LEFT LANE MERGEaWHITE LEFT LANE MERGE",
  "26DAaDRIVE SLOW SIGNaHEAVY WHITE DOWN-POINTING TRIANGLEaLEFT CLOSED ENTRYaSQUARED SALTIRE",
  "26DEaFALLING DIAGONAL IN WHITE CIRCLE IN BLACK SQUAREaBLACK TRUCKaRESTRICTED LEFT ENTRY-1w2",
  "26E2aASTRONOMICAL SYMBOL FOR URANUSaHEAVY CIRCLE WITH STROKE AND TWO DOTS ABOVEaPENTAGRAM",
  "26E5aRIGHT-HANDED INTERLACED PENTAGRAMaLEFT-HANDED INTERLACED PENTAGRAMaINVERTED PENTAGRAM",
  "26E8aBLACK CROSS ON SHIELDaSHINTO SHRINEaCHURCHbASTLEaHISTORIC SITEaGEAR WITHOUT HUBj HANDLES",
  "26EFaMAP SYMBOL FOR LIGHTHOUSEbOUNTAINaUMBRELLA ON GROUNDaFOUNTAINbLAG IN HOLEbERRYaSAILBOAT",
  "26F6bQUARE FOUR CORNERSbKIERaICE SKATEaPERSON WITH BALLaTENTaJAPANESE BANK SYMBOL",
  "26FCaHEADSTONE GRAVEYARD SYMBOLaFUEL PUMPaCUP ON BLACK SQUARE",
  "26FFaWHITE FLAG WITH HORIZONTAL MIDDLE BLACK STRIPEaBLACK SAFETY SCISSORSaUPPER BLADE SCISSORS",
  "2702aBLACK SCISSORSaLOWER BLADE SCISSORSaWHITE SCISSORSgHEAVY CHECK MARK",
  "2706aTELEPHONE LOCATION SIGNbAPE DRIVEaAIRPLANEaENVELOPEaRAISED FISThHANDaVICTORY HAND",
  "270DaWRITING HANDaLOWER RIGHT PENCILaPENCILaUPPER RIGHT PENCILaWHITE NIBaBLACK NIBaCHECK MARK",
  "2714aHEAVY CHECK MARKaMULTIPLICATION XaHEAVY MULTIPLICATION XaBALLOT XaHEAVY BALLOT X",
  "2719aOUTLINED GREEK CROSSaHEAVY GREEK CROSSaOPEN CENTRE CROSSaHEAVY OPEN CENTRE CROSS",
  "271DaLATIN CROSSaSHADOWED WHITE LATIN CROSSaOUTLINED LATIN CROSSaMALTESE CROSSaSTAR OF DAVID",
  "2722aFOUR TEARDROP-SPOKED ASTERISKfBALLOON-SPOKED ASTERISKaHEAVY FOUR BALLOON-SPOKED ASTERISK",
  "2725aFOUR CLUB-SPOKED ASTERISKaBLACK FOUR POINTED STARaWHITE FOUR POINTED STARaSPARKLES",
  "2729bTRESS OUTLINED WHITE STARaCIRCLED WHITE STARaOPEN CENTRE BLACK STAR",
  "272CaBLACK CENTRE WHITE STARaOUTLINED BLACK STARaHEAVY OUTLINED BLACK STARaPINWHEEL STAR",
  "2730aSHADOWED WHITE STARaHEAVY ASTERISKaOPEN CENTRE ASTERISKaEIGHT SPOKED ASTERISK",
  "2734gPOINTED BLACK STARoPINWHEEL STARaSIX POINTED BLACK STAR",
  "2737aEIGHT POINTED RECTILINEAR BLACK STARaHEAVY EIGHT POINTED RECTILINEAR BLACK STAR",
  "2739aTWELVE POINTED BLACK STARaSIXTEEN POINTED ASTERISKaTEARDROP-SPOKED ASTERISK",
  "273CaOPEN CENTRE TEARDROP-SPOKED ASTERISKaHEAVY TEARDROP-SPOKED ASTERISK",
  "273EaSIX PETALLED BLACK AND WHITE FLORETTEaBLACK FLORETTEaWHITE FLORETTE",
  "2741aEIGHT PETALLED OUTLINED BLACK FLORETTEaCIRCLED OPEN CENTRE EIGHT POINTED STAR",
  "2743aHEAVY TEARDROP-SPOKED PINWHEEL ASTERISKaSNOWFLAKEaTIGHT TRIFOLIATE SNOWFLAKE",
  "2746aHEAVY CHEVRON SNOWFLAKEaSPARKLEaHEAVY SPARKLEaBALLOON-SPOKED ASTERISK",
  "274AaEIGHT TEARDROP-SPOKED PROPELLER ASTERISKaHEAVY EIGHT TEARDROP-SPOKED PROPELLER ASTERISK",
  "274CaCROSS MARKaSHADOWED WHITE CIRCLEaNEGATIVE SQUARED CROSS MARK",
  "274FaLOWER RIGHT DROP-SHADOWED WHITE SQUAREaUPPER RIGHT DROP-SHADOWED WHITE SQUARE",
  "2751aLOWER RIGHT SHADOWED WHITE SQUAREaUPPER RIGHT SHADOWED WHITE SQUARE",
  "2753aBLACK QUESTION MARK ORNAMENTaWHITE QUESTION MARK ORNAMENTgEXCLAMATION MARK ORNAMENT",
  "2756aBLACK DIAMOND MINUS WHITE XaHEAVY EXCLAMATION MARK SYMBOLaLIGHT VERTICAL BAR",
  "2759aMEDIUM VERTICAL BARaHEAVY VERTICAL BARgSINGLE TURNED COMMA QUOTATION MARK ORNAMENT",
  "275CnCOMMA QUOTATION MARK ORNAMENTgDOUBLE TURNED COMMA QUOTATION MARK ORNAMENT",
  "275EnCOMMA QUOTATION MARK ORNAMENTgLOW SINGLE COMMA QUOTATION MARK ORNAMENT",
  "2760kDOUBLE COMMA QUOTATION MARK ORNAMENTaCURVED STEM PARAGRAPH SIGN ORNAMENT",
  "2762aHEAVY EXCLAMATION MARK ORNAMENTgHEART EXCLAMATION MARK ORNAMENTgBLACK HEART",
  "2765aROTATED HEAVY BLACK HEART BULLETaFLORAL HEARTaROTATED FLORAL HEART BULLET",
  "2768aMEDIUM LEFT PARENTHESIS ORNAMENThRIGHT PARENTHESIS ORNAMENT",
  "276AhFLATTENED LEFT PARENTHESIS ORNAMENTrRIGHT PARENTHESIS ORNAMENT",
  "276ChLEFT-POINTING ANGLE BRACKET ORNAMENThRIGHT-POINTING ANGLE BRACKET ORNAMENT",
  "276EaHEAVY LEFT-POINTING ANGLE QUOTATION MARK ORNAMENT",
  "276FgRIGHT-POINTING ANGLE QUOTATION MARK ORNAMENTgLEFT-POINTING ANGLE BRACKET ORNAMENT",
  "2771gRIGHT-POINTING ANGLE BRACKET ORNAMENTaLIGHT LEFT TORTOISE SHELL BRACKET ORNAMENT",
  "2773gRIGHT TORTOISE SHELL BRACKET ORNAMENTaMEDIUM LEFT CURLY BRACKET ORNAMENT",
  "2775hRIGHT CURLY BRACKET ORNAMENTaDINGBAT NEGATIVE CIRCLED DIGIT ONEzgTWOzhHREEzgFOURzhIVE",
  "277BzgSIXzhEVENzgEIGHTzgNINEzNUMBER TENiCIRCLED SANS-SERIF DIGIT ONEziTWOzjHREEziFOURzjIVE",
  "2785ziSIXzjEVENziEIGHTziNINEzcNUMBER TENiNEGATIVE CIRCLED SANS-SERIF DIGIT ONEzrTWOzsHREE",
  "278DzrFOURzsIVEzrSIXzsEVENzrEIGHTzrNINEzlNUMBER TENaHEAVY WIDE-HEADED RIGHTWARDS ARROW",
  "2795gPLUS SIGNgMINUS SIGNgDIVISION SIGNgSOUTH EAST ARROWgRIGHTWARDS ARROWgNORTH EAST ARROW",
  "279BaDRAFTING POINT RIGHTWARDS ARROWaHEAVY ROUND-TIPPED RIGHTWARDS ARROW",
  "279DaTRIANGLE-HEADED RIGHTWARDS ARROWaHEAVY TRIANGLE-HEADED RIGHTWARDS ARROW",
  "279FaDASHED TRIANGLE-HEADED RIGHTWARDS ARROWaHEAVY DASHED TRIANGLE-HEADED RIGHTWARDS ARROW",
  "27A1aBLACK RIGHTWARDS ARROWaTHREE-D TOP-LIGHTED RIGHTWARDS ARROWHEAD",
  "27A3iBOTTOM-LIGHTED RIGHTWARDS ARROWHEADaBLACK RIGHTWARDS ARROWHEAD",
  "27A5aHEAVY BLACK CURVED DOWNWARDS AND RIGHTWARDS ARROWtUPWARDS AND RIGHTWARDS ARROW",
  "27A7aSQUAT BLACK RIGHTWARDS ARROWaHEAVY CONCAVE-POINTED BLACK RIGHTWARDS ARROW",
  "27A9aRIGHT-SHADED WHITE RIGHTWARDS ARROWaLEFT-SHADED WHITE RIGHTWARDS ARROW",
  "27ABaBACK-TILTED SHADOWED WHITE RIGHTWARDS ARROWaFRONT-TILTED SHADOWED WHITE RIGHTWARDS ARROW",
  "27ADaHEAVY LOWER RIGHT-SHADOWED WHITE RIGHTWARDS ARROW",
  "27AEgUPPER RIGHT-SHADOWED WHITE RIGHTWARDS ARROW",
  "27AFaNOTCHED LOWER RIGHT-SHADOWED WHITE RIGHTWARDS ARROWaCURLY LOOP",
  "27B1aNOTCHED UPPER RIGHT-SHADOWED WHITE RIGHTWARDS ARROWaCIRCLED HEAVY WHITE RIGHTWARDS ARROW",
  "27B3aWHITE-FEATHERED RIGHTWARDS ARROWaBLACK-FEATHERED SOUTH EAST ARROWqRIGHTWARDS ARROW",
  "27B6qNORTH EAST ARROWaHEAVY BLACK-FEATHERED SOUTH EAST ARROWwRIGHTWARDS ARROWwNORTH EAST ARROW",
  "27BAaTEARDROP-BARBED RIGHTWARDS ARROWaHEAVY TEARDROP-SHANKED RIGHTWARDS ARROW",
  "27BCaWEDGE-TAILED RIGHTWARDS ARROWaHEAVY WEDGE-TAILED RIGHTWARDS ARROW",
  "27BEaOPEN-OUTLINED RIGHTWARDS ARROWaDOUBLE CURLY LOOPaTHREE DIMENSIONAL ANGLE",
  "27C1aWHITE TRIANGLE CONTAINING SMALL WHITE TRIANGLEaPERPENDICULARaOPEN SUBSEThPERSET",
  "27C5aLEFT S-SHAPED BAG DELIMITERaRIGHT S-SHAPED BAG DELIMITERaOR WITH DOT INSIDE",
  "27C8aREVERSE SOLIDUS PRECEDING SUBSETaSUPERSET PRECEDING SOLIDUS",
  "27CAaVERTICAL BAR WITH HORIZONTAL STROKEaMATHEMATICAL RISING DIAGONALaLONG DIVISION",
  "27CDaMATHEMATICAL FALLING DIAGONALaSQUARED LOGICAL ANDqORaWHITE DIAMOND WITH CENTRED DOT",
  "27D1aAND WITH DOTaELEMENT OF OPENING UPWARDSaLOWER RIGHT CORNER WITH DOT",
  "27D4aUPPER LEFT CORNER WITH DOTaLEFT OUTER JOINaRIGHT OUTER JOINaFULL OUTER JOINaLARGE UP TACK",
  "27D9gDOWN TACKbEFT AND RIGHT DOUBLE TURNSTILEpTACKfMULTIMAPbONG RIGHT TACKfLEFT TACK",
  "27DFaUP TACK WITH CIRCLE ABOVEaLOZENGE DIVIDED BY HORIZONTAL RULEaWHITE CONCAVE-SIDED DIAMOND",
  "27E2zc WITH LEFTWARDS TICKziRIGHTWARDS TICKgSQUARE WITH LEFTWARDS TICKsRIGHTWARDS TICK",
  "27E6aMATHEMATICAL LEFT WHITE SQUARE BRACKETnRIGHT WHITE SQUARE BRACKETnLEFT ANGLE BRACKET",
  "27E9nRIGHT ANGLE BRACKETnLEFT DOUBLE ANGLE BRACKETnRIGHT DOUBLE ANGLE BRACKET",
  "27ECnLEFT WHITE TORTOISE SHELL BRACKETnRIGHT WHITE TORTOISE SHELL BRACKET",
  "27EEnLEFT FLATTENED PARENTHESISnRIGHT FLATTENED PARENTHESISaUPWARDS QUADRUPLE ARROW",
  "27F1aDOWNWARDS QUADRUPLE ARROWaANTICLOCKWISE GAPPED CIRCLE ARROWaCLOCKWISE GAPPED CIRCLE ARROW",
  "27F4aRIGHT ARROW WITH CIRCLED PLUSaLONG LEFTWARDS ARROWfRIGHTWARDS ARROWfLEFT RIGHT ARROW",
  "27F8jWARDS DOUBLE ARROWfRIGHTWARDS DOUBLE ARROWfLEFT RIGHT DOUBLE ARROWjWARDS ARROW FROM BAR",
  "27FCfRIGHTWARDS ARROW FROM BARfLEFTWARDS DOUBLE ARROW FROM BAR",
  "27FEfRIGHTWARDS DOUBLE ARROW FROM BARqSQUIGGLE ARROWaBRAILLE PATTERN BLANKqDOTS-1v2v12v3v13v23",
  "2807v123v4v14v24v124v34v134v234v1234v5v15v25v125v35v135v235v1235v45v145v245v1245v345v1345v2345",
  "281Fv12345v6v16v26v126v36v136v236v1236v46v146v246v1246v346v1346v2346v12346v56v156v256v1256v356",
  "2835v1356v2356v12356v456v1456v2456v12456v3456v13456v23456v123456v7v17v27v127v37v137v237v1237",
  "2848v47v147v247v1247v347v1347v2347v12347v57v157v257v1257v357v1357v2357v12357v457v1457v2457",
  "285Bv12457v3457v13457v23457v123457v67v167v267v1267v367v1367v2367v12367v467v1467v2467v12467",
  "286Cv3467v13467v23467v123467v567v1567v2567v12567v3567v13567v23567v123567v4567v14567v24567",
  "287Bv124567v34567v134567v234567v1234567v8v18v28v128v38v138v238v1238v48v148v248v1248v348v1348",
  "288Ev2348v12348v58v158v258v1258v358v1358v2358v12358v458v1458v2458v12458v3458v13458v23458",
  "289Fv123458v68v168v268v1268v368v1368v2368v12368v468v1468v2468v12468v3468v13468v23468v123468",
  "28B0v568v1568v2568v12568v3568v13568v23568v123568v4568v14568v24568v124568v34568v134568v234568",
  "28BFv1234568v78v178v278v1278v378v1378v2378v12378v478v1478v2478v12478v3478v13478v23478v123478",
  "28D0v578v1578v2578v12578v3578v13578v23578v123578v4578v14578v24578v124578v34578v134578v234578",
  "28DFv1234578v678v1678v2678v12678v3678v13678v23678v123678v4678v14678v24678v124678v34678v134678",
  "28EEv234678v1234678v5678v15678v25678v125678v35678v135678v235678v1235678v45678v145678v245678",
  "28FBv1245678v345678v1345678v2345678v12345678aRIGHTWARDS TWO-HEADED ARROW WITH VERTICAL STROKE",
  "2901ziDOUBLE VERTICAL STROKEaLEFTWARDS DOUBLE ARROW WITH VERTICAL STROKE",
  "2903aRIGHTWARDS DOUBLE ARROW WITH VERTICAL STROKEaLEFT RIGHT DOUBLE ARROW WITH VERTICAL STROKE",
  "2905aRIGHTWARDS TWO-HEADED ARROW FROM BARaLEFTWARDS DOUBLE ARROW FROM BAR",
  "2907aRIGHTWARDS DOUBLE ARROW FROM BARaDOWNWARDS ARROW WITH HORIZONTAL STROKE",
  "2909aUPWARDS ARROW WITH HORIZONTAL STROKEiTRIPLE ARROWaDOWNWARDS TRIPLE ARROW",
  "290CaLEFTWARDS DOUBLE DASH ARROWaRIGHTWARDS DOUBLE DASH ARROWaLEFTWARDS TRIPLE DASH ARROW",
  "290FaRIGHTWARDS TRIPLE DASH ARROWmWO-HEADED TRIPLE DASH ARROWlARROW WITH DOTTED STEM",
  "2912aUPWARDS ARROW TO BARaDOWNWARDS ARROW TO BAR",
  "2914aRIGHTWARDS ARROW WITH TAIL WITH VERTICAL STROKEzhDOUBLE VERTICAL STROKE",
  "2916lTWO-HEADED ARROW WITH TAILzm WITH VERTICAL STROKEzsDOUBLE VERTICAL STROKE",
  "2919aLEFTWARDS ARROW-TAILaRIGHTWARDS ARROW-TAILaLEFTWARDS DOUBLE ARROW-TAIL",
  "291CaRIGHTWARDS DOUBLE ARROW-TAILaLEFTWARDS ARROW TO BLACK DIAMOND",
  "291EaRIGHTWARDS ARROW TO BLACK DIAMONDaLEFTWARDS ARROW FROM BAR TO BLACK DIAMOND",
  "2920aRIGHTWARDS ARROW FROM BAR TO BLACK DIAMONDaNORTH WEST AND SOUTH EAST ARROW",
  "2922gEAST AND SOUTH WEST ARROWgWEST ARROW WITH HOOKgEAST ARROW WITH HOOK",
  "2925aSOUTH EAST ARROW WITH HOOKgWEST ARROW WITH HOOKaNORTH WEST ARROW AND NORTH EAST ARROW",
  "2928gEAST ARROW AND SOUTH EAST ARROWaSOUTH EAST ARROW AND SOUTH WEST ARROW",
  "292AgWEST ARROW AND NORTH WEST ARROWaRISING DIAGONAL CROSSING FALLING DIAGONAL",
  "292CaFALLING DIAGONAL CROSSING RISING DIAGONALaSOUTH EAST ARROW CROSSING NORTH EAST ARROW",
  "292EaNORTH EAST ARROW CROSSING SOUTH EAST ARROWaFALLING DIAGONAL CROSSING NORTH EAST ARROW",
  "2930aRISING DIAGONAL CROSSING SOUTH EAST ARROWaNORTH EAST ARROW CROSSING NORTH WEST ARROW",
  "2932gWEST ARROW CROSSING NORTH EAST ARROWaWAVE ARROW POINTING DIRECTLY RIGHT",
  "2934aARROW POINTING RIGHTWARDS THEN CURVING UPWARDSzoDOWNWARDS",
  "2936pDOWNWARDS THEN CURVING LEFTWARDSznRIGHTWARDSaRIGHT-SIDE ARC CLOCKWISE ARROW",
  "2939aLEFT-SIDE ARC ANTICLOCKWISE ARROWaTOP ARC ANTICLOCKWISE ARROW",
  "293BaBOTTOM ARC ANTICLOCKWISE ARROWaTOP ARC CLOCKWISE ARROW WITH MINUS",
  "293DiANTICLOCKWISE ARROW WITH PLUSaLOWER RIGHT SEMICIRCULAR CLOCKWISE ARROW",
  "293FgLEFT SEMICIRCULAR ANTICLOCKWISE ARROWaANTICLOCKWISE CLOSED CIRCLE ARROW",
  "2941aCLOCKWISE CLOSED CIRCLE ARROWaRIGHTWARDS ARROW ABOVE SHORT LEFTWARDS ARROW",
  "2943aLEFTWARDS ARROW ABOVE SHORT RIGHTWARDS ARROWaSHORT RIGHTWARDS ARROW ABOVE LEFTWARDS ARROW",
  "2945aRIGHTWARDS ARROW WITH PLUS BELOWaLEFTWARDS ARROW WITH PLUS BELOW",
  "2947aRIGHTWARDS ARROW THROUGH XaLEFT RIGHT ARROW THROUGH SMALL CIRCLE",
  "2949aUPWARDS TWO-HEADED ARROW FROM SMALL CIRCLEaLEFT BARB UP RIGHT BARB DOWN HARPOON",
  "294BkDOWN RIGHT BARB UP HARPOONaUP BARB RIGHT DOWN BARB LEFT HARPOON",
  "294DiLEFT DOWN BARB RIGHT HARPOONaLEFT BARB UP RIGHT BARB UP HARPOON",
  "294FaUP BARB RIGHT DOWN BARB RIGHT HARPOONaLEFT BARB DOWN RIGHT BARB DOWN HARPOON",
  "2951aUP BARB LEFT DOWN BARB LEFT HARPOONaLEFTWARDS HARPOON WITH BARB UP TO BAR",
  "2953aRIGHTWARDS HARPOON WITH BARB UP TO BARaUPWARDS HARPOON WITH BARB RIGHT TO BAR",
  "2955aDOWNWARDS HARPOON WITH BARB RIGHT TO BARaLEFTWARDS HARPOON WITH BARB DOWN TO BAR",
  "2957aRIGHTWARDS HARPOON WITH BARB DOWN TO BARaUPWARDS HARPOON WITH BARB LEFT TO BAR",
  "2959aDOWNWARDS HARPOON WITH BARB LEFT TO BARaLEFTWARDS HARPOON WITH BARB UP FROM BAR",
  "295BaRIGHTWARDS HARPOON WITH BARB UP FROM BARaUPWARDS HARPOON WITH BARB RIGHT FROM BAR",
  "295DaDOWNWARDS HARPOON WITH BARB RIGHT FROM BARaLEFTWARDS HARPOON WITH BARB DOWN FROM BAR",
  "295FaRIGHTWARDS HARPOON WITH BARB DOWN FROM BARaUPWARDS HARPOON WITH BARB LEFT FROM BAR",
  "2961aDOWNWARDS HARPOON WITH BARB LEFT FROM BAR",
  "2962aLEFTWARDS HARPOON WITH BARB UP ABOVE LEFTWARDS HARPOON WITH BARB DOWN",
  "2963aUPWARDS HARPOON WITH BARB LEFT BESIDE UPWARDS HARPOON WITH BARB RIGHT",
  "2964aRIGHTWARDS HARPOON WITH BARB UP ABOVE RIGHTWARDS HARPOON WITH BARB DOWN",
  "2965aDOWNWARDS HARPOON WITH BARB LEFT BESIDE DOWNWARDS HARPOON WITH BARB RIGHT",
  "2966aLEFTWARDS HARPOON WITH BARB UP ABOVE RIGHTWARDS HARPOON WITH BARB UP",
  "2967zdDOWN ABOVE RIGHTWARDS HARPOON WITH BARB DOWN",
  "2968aRIGHTWARDS HARPOON WITH BARB UP ABOVE LEFTWARDS HARPOON WITH BARB UP",
  "2969zeDOWN ABOVE LEFTWARDS HARPOON WITH BARB DOWN",
  "296AaLEFTWARDS HARPOON WITH BARB UP ABOVE LONG DASHzdDOWN BELOW LONG DASH",
  "296CaRIGHTWARDS HARPOON WITH BARB UP ABOVE LONG DASHzeDOWN BELOW LONG DASH",
  "296EaUPWARDS HARPOON WITH BARB LEFT BESIDE DOWNWARDS HARPOON WITH BARB RIGHT",
  "296FaDOWNWARDS HARPOON WITH BARB LEFT BESIDE UPWARDS HARPOON WITH BARB RIGHT",
  "2970aRIGHT DOUBLE ARROW WITH ROUNDED HEADaEQUALS SIGN ABOVE RIGHTWARDS ARROW",
  "2972aTILDE OPERATOR ABOVE RIGHTWARDS ARROWaLEFTWARDS ARROW ABOVE TILDE OPERATOR",
  "2974aRIGHTWARDS ARROW ABOVE TILDE OPERATORxALMOST EQUAL TOaLESS-THAN ABOVE LEFTWARDS ARROW",
  "2977cFTWARDS ARROW THROUGH LESS-THANaGREATER-THAN ABOVE RIGHTWARDS ARROW",
  "2979aSUBSET ABOVE RIGHTWARDS ARROWaLEFTWARDS ARROW THROUGH SUBSET",
  "297BaSUPERSET ABOVE LEFTWARDS ARROWaLEFT FISH TAILaRIGHT FISH TAILaUP FISH TAILaDOWN FISH TAIL",
  "2980aTRIPLE VERTICAL BAR DELIMITERaZ NOTATION SPOTlTYPE COLONaLEFT WHITE CURLY BRACKET",
  "2984aRIGHT WHITE CURLY BRACKETaLEFT WHITE PARENTHESISaRIGHT WHITE PARENTHESIS",
  "2987aZ NOTATION LEFT IMAGE BRACKETlRIGHT IMAGE BRACKETlLEFT BINDING BRACKET",
  "298AlRIGHT BINDING BRACKETaLEFT SQUARE BRACKET WITH UNDERBAR",
  "298CaRIGHT SQUARE BRACKET WITH UNDERBARaLEFT SQUARE BRACKET WITH TICK IN TOP CORNER",
  "298EaRIGHT SQUARE BRACKET WITH TICK IN BOTTOM CORNER",
  "298FaLEFT SQUARE BRACKET WITH TICK IN BOTTOM CORNER",
  "2990aRIGHT SQUARE BRACKET WITH TICK IN TOP CORNERaLEFT ANGLE BRACKET WITH DOT",
  "2992aRIGHT ANGLE BRACKET WITH DOTaLEFT ARC LESS-THAN BRACKETaRIGHT ARC GREATER-THAN BRACKET",
  "2995aDOUBLE LEFT ARC GREATER-THAN BRACKEThRIGHT ARC LESS-THAN BRACKET",
  "2997aLEFT BLACK TORTOISE SHELL BRACKETaRIGHT BLACK TORTOISE SHELL BRACKETaDOTTED FENCE",
  "299AaVERTICAL ZIGZAG LINEaMEASURED ANGLE OPENING LEFTaRIGHT ANGLE VARIANT WITH SQUARE",
  "299DaMEASURED RIGHT ANGLE WITH DOTaANGLE WITH S INSIDEbCUTE ANGLEaSPHERICAL ANGLE OPENING LEFT",
  "29A1yUPaTURNED ANGLEaREVERSED ANGLEaANGLE WITH UNDERBARaREVERSED ANGLE WITH UNDERBAR",
  "29A6aOBLIQUE ANGLE OPENING UPwDOWN",
  "29A8aMEASURED ANGLE WITH OPEN ARM ENDING IN ARROW POINTING UP AND RIGHTzzlLEFT",
  "29AAzzeDOWN AND RIGHTzznLEFTzzeRIGHT AND UPzzeLEFT AND UPzzeRIGHT AND DOWNzzeLEFT AND DOWN",
  "29B0aREVERSED EMPTY SETaEMPTY SET WITH OVERBARpSMALL CIRCLE ABOVEpRIGHT ARROW ABOVE",
  "29B4pLEFT ARROW ABOVEaCIRCLE WITH HORIZONTAL BARgD VERTICAL BARiPARALLELiREVERSE SOLIDUS",
  "29B9iPERPENDICULARg DIVIDED BY HORIZONTAL BAR AND TOP HALF DIVIDED BY VERTICAL BAR",
  "29BBhWITH SUPERIMPOSED XgD ANTICLOCKWISE-ROTATED DIVISION SIGNaUP ARROW THROUGH CIRCLE",
  "29BEaCIRCLED WHITE BULLETiBULLETiLESS-THANiGREATER-THANg WITH SMALL CIRCLE TO THE RIGHT",
  "29C3mTWO HORIZONTAL STROKES TO THE RIGHTaSQUARED RISING DIAGONAL SLASHiFALLING DIAGONAL SLASH",
  "29C6iASTERISKiSMALL CIRCLEjQUAREaTWO JOINED SQUARESbRIANGLE WITH DOT ABOVEoUNDERBAR",
  "29CCaS IN TRIANGLEaTRIANGLE WITH SERIFS AT BOTTOMaRIGHT TRIANGLE ABOVE LEFT TRIANGLE",
  "29CFaLEFT TRIANGLE BESIDE VERTICAL BARaVERTICAL BAR BESIDE RIGHT TRIANGLE",
  "29D1aBOWTIE WITH LEFT HALF BLACKmRIGHT HALF BLACKbLACK BOWTIEaTIMES WITH LEFT HALF BLACK",
  "29D5lRIGHT HALF BLACKaWHITE HOURGLASSaBLACK HOURGLASSaLEFT WIGGLY FENCEaRIGHT WIGGLY FENCE",
  "29DAaLEFT DOUBLE WIGGLY FENCEaRIGHT DOUBLE WIGGLY FENCEaINCOMPLETE INFINITYaTIE OVER INFINITY",
  "29DEaINFINITY NEGATED WITH VERTICAL BARaDOUBLE-ENDED MULTIMAPaSQUARE WITH CONTOURED OUTLINE",
  "29E1aINCREASES ASaSHUFFLE PRODUCTaEQUALS SIGN AND SLANTED PARALLELzh WITH TILDE ABOVE",
  "29E5aIDENTICAL TO AND SLANTED PARALLELaGLEICH STARKaTHERMODYNAMIC",
  "29E8aDOWN-POINTING TRIANGLE WITH LEFT HALF BLACKzdRIGHT HALF BLACK",
  "29EAaBLACK DIAMOND WITH DOWN ARROWgLOZENGEaWHITE CIRCLE WITH DOWN ARROW",
  "29EDaBLACK CIRCLE WITH DOWN ARROWaERROR-BARRED WHITE SQUAREnBLACK SQUAREnWHITE DIAMOND",
  "29F1nBLACK DIAMONDnWHITE CIRCLEnBLACK CIRCLEaRULE-DELAYEDbEVERSE SOLIDUS OPERATOR",
  "29F6aSOLIDUS WITH OVERBARaREVERSE SOLIDUS WITH HORIZONTAL STROKEaBIG SOLIDUSeREVERSE SOLIDUS",
  "29FAaDOUBLE PLUSaTRIPLE PLUSaLEFT-POINTING CURVED ANGLE BRACKET",
  "29FDaRIGHT-POINTING CURVED ANGLE BRACKETaTINYaMINYaN-ARY CIRCLED DOT OPERATORoPLUS OPERATOR",
  "2A02oTIMES OPERATORgUNION OPERATOR WITH DOTzbPLUSgSQUARE INTERSECTION OPERATORnUNION OPERATOR",
  "2A07aTWO LOGICAL AND OPERATORmOR OPERATORaN-ARY TIMES OPERATORaMODULO TWO SUM",
  "2A0BaSUMMATION WITH INTEGRALaQUADRUPLE INTEGRAL OPERATORaFINITE PART INTEGRAL",
  "2A0EaINTEGRAL WITH DOUBLE STROKEjAVERAGE WITH SLASHaCIRCULATION FUNCTION",
  "2A11aANTICLOCKWISE INTEGRATIONaLINE INTEGRATION WITH RECTANGULAR PATH AROUND POLE",
  "2A13wSEMICIRCULAR PATH AROUND POLErNOT INCLUDING THE POLEaINTEGRAL AROUND A POINT OPERATOR",
  "2A16aQUATERNION INTEGRAL OPERATORaINTEGRAL WITH LEFTWARDS ARROW WITH HOOKoTIMES SIGN",
  "2A19oINTERSECTIONoUNIONoOVERBARoUNDERBARaJOINaLARGE LEFT TRIANGLE OPERATOR",
  "2A1FaZ NOTATION SCHEMA COMPOSITIONsPIPINGtROJECTIONaPLUS SIGN WITH SMALL CIRCLE ABOVE",
  "2A23pCIRCUMFLEX ACCENT ABOVEpTILDE ABOVEpDOT BELOWpTILDE BELOWpSUBSCRIPT TWOpBLACK TRIANGLE",
  "2A29aMINUS SIGN WITH COMMA ABOVEqDOT BELOWqFALLING DOTSqRISING DOTS",
  "2A2DaPLUS SIGN IN LEFT HALF CIRCLEnRIGHT HALF CIRCLEaVECTOR OR CROSS PRODUCT",
  "2A30aMULTIPLICATION SIGN WITH DOT ABOVEzUNDERBARaSEMIDIRECT PRODUCT WITH BOTTOM CLOSED",
  "2A33bMASH PRODUCTaMULTIPLICATION SIGN IN LEFT HALF CIRCLExRIGHT HALF CIRCLE",
  "2A36aCIRCLED MULTIPLICATION SIGN WITH CIRCUMFLEX ACCENTaMULTIPLICATION SIGN IN DOUBLE CIRCLE",
  "2A38aCIRCLED DIVISION SIGNaPLUS SIGN IN TRIANGLEaMINUS SIGN IN TRIANGLE",
  "2A3BbULTIPLICATION SIGN IN TRIANGLEaINTERIOR PRODUCTaRIGHTHAND INTERIOR PRODUCT",
  "2A3EaZ NOTATION RELATIONAL COMPOSITIONaAMALGAMATION OR COPRODUCTaINTERSECTION WITH DOT",
  "2A41aUNION WITH MINUS SIGNlOVERBARaINTERSECTION WITH OVERBARsLOGICAL ANDaUNION WITH LOGICAL OR",
  "2A46gABOVE INTERSECTIONaINTERSECTION ABOVE UNIONaUNION ABOVE BAR ABOVE INTERSECTION",
  "2A49aINTERSECTION ABOVE BAR ABOVE UNIONaUNION BESIDE AND JOINED WITH UNION",
  "2A4BaINTERSECTION BESIDE AND JOINED WITH INTERSECTIONaCLOSED UNION WITH SERIFS",
  "2A4DhINTERSECTION WITH SERIFSaDOUBLE SQUARE INTERSECTIONoUNION",
  "2A50aCLOSED UNION WITH SERIFS AND SMASH PRODUCTaLOGICAL AND WITH DOT ABOVEiOR WITH DOT ABOVE",
  "2A53aDOUBLE LOGICAL ANDpORaTWO INTERSECTING LOGICAL ANDzORaSLOPING LARGE ORoAND",
  "2A59aLOGICAL OR OVERLAPPING LOGICAL ANDiAND WITH MIDDLE STEMiOR WITH MIDDLE STEM",
  "2A5CiAND WITH HORIZONTAL DASHiOR WITH HORIZONTAL DASHiAND WITH DOUBLE OVERBARrUNDERBAR",
  "2A60rDOUBLE UNDERBARaSMALL VEE WITH UNDERBARaLOGICAL OR WITH DOUBLE OVERBARxUNDERBAR",
  "2A64aZ NOTATION DOMAIN ANTIRESTRICTIONlRANGE ANTIRESTRICTIONaEQUALS SIGN WITH DOT BELOW",
  "2A67aIDENTICAL WITH DOT ABOVEaTRIPLE HORIZONTAL BAR WITH DOUBLE VERTICAL STROKE",
  "2A69zcTRIPLE VERTICAL STROKEbILDE OPERATOR WITH DOT ABOVEuRISING DOTSaSIMILAR MINUS SIMILAR",
  "2A6DaCONGRUENT WITH DOT ABOVEaEQUALS WITH ASTERISKaALMOST EQUAL TO WITH CIRCUMFLEX ACCENT",
  "2A70bPPROXIMATELY EQUAL OR EQUAL TOaEQUALS SIGN ABOVE PLUS SIGNaPLUS SIGN ABOVE EQUALS SIGN",
  "2A73aEQUALS SIGN ABOVE TILDE OPERATORaDOUBLE COLON EQUALaTWO CONSECUTIVE EQUALS SIGNS",
  "2A76bHREE CONSECUTIVE EQUALS SIGNSaEQUALS SIGN WITH TWO DOTS ABOVE AND TWO DOTS BELOW",
  "2A78dIVALENT WITH FOUR DOTS ABOVEaLESS-THAN WITH CIRCLE INSIDEaGREATER-THAN WITH CIRCLE INSIDE",
  "2A7BaLESS-THAN WITH QUESTION MARK ABOVEaGREATER-THAN WITH QUESTION MARK ABOVE",
  "2A7DaLESS-THAN OR SLANTED EQUAL TOaGREATER-THAN OR SLANTED EQUAL TO",
  "2A7FaLESS-THAN OR SLANTED EQUAL TO WITH DOT INSIDE",
  "2A80aGREATER-THAN OR SLANTED EQUAL TO WITH DOT INSIDE",
  "2A81aLESS-THAN OR SLANTED EQUAL TO WITH DOT ABOVE",
  "2A82aGREATER-THAN OR SLANTED EQUAL TO WITH DOT ABOVE",
  "2A83aLESS-THAN OR SLANTED EQUAL TO WITH DOT ABOVE RIGHT",
  "2A84aGREATER-THAN OR SLANTED EQUAL TO WITH DOT ABOVE LEFTaLESS-THAN OR APPROXIMATE",
  "2A86aGREATER-THAN OR APPROXIMATEaLESS-THAN AND SINGLE-LINE NOT EQUAL TO",
  "2A88aGREATER-THAN AND SINGLE-LINE NOT EQUAL TOaLESS-THAN AND NOT APPROXIMATE",
  "2A8AaGREATER-THAN AND NOT APPROXIMATEaLESS-THAN ABOVE DOUBLE-LINE EQUAL ABOVE GREATER-THAN",
  "2A8CaGREATER-THAN ABOVE DOUBLE-LINE EQUAL ABOVE LESS-THANaLESS-THAN ABOVE SIMILAR OR EQUAL",
  "2A8EaGREATER-THAN ABOVE SIMILAR OR EQUALaLESS-THAN ABOVE SIMILAR ABOVE GREATER-THAN",
  "2A90aGREATER-THAN ABOVE SIMILAR ABOVE LESS-THAN",
  "2A91aLESS-THAN ABOVE GREATER-THAN ABOVE DOUBLE-LINE EQUAL",
  "2A92aGREATER-THAN ABOVE LESS-THAN ABOVE DOUBLE-LINE EQUAL",
  "2A93aLESS-THAN ABOVE SLANTED EQUAL ABOVE GREATER-THAN ABOVE SLANTED EQUAL",
  "2A94aGREATER-THAN ABOVE SLANTED EQUAL ABOVE LESS-THAN ABOVE SLANTED EQUAL",
  "2A95aSLANTED EQUAL TO OR LESS-THANuGREATER-THANuLESS-THAN WITH DOT INSIDE",
  "2A98uGREATER-THAN WITH DOT INSIDEaDOUBLE-LINE EQUAL TO OR LESS-THANyGREATER-THAN",
  "2A9BmSLANTED EQUAL TO OR LESS-THANzhGREATER-THANaSIMILAR OR LESS-THANlGREATER-THAN",
  "2A9FiABOVE LESS-THAN ABOVE EQUALS SIGNoGREATER-THAN ABOVE EQUALS SIGNaDOUBLE NESTED LESS-THAN",
  "2AA2oGREATER-THANoLESS-THAN WITH UNDERBARaGREATER-THAN OVERLAPPING LESS-THANnBESIDE LESS-THAN",
  "2AA6aLESS-THAN CLOSED BY CURVEaGREATER-THAN CLOSED BY CURVE",
  "2AA8aLESS-THAN CLOSED BY CURVE ABOVE SLANTED EQUAL",
  "2AA9aGREATER-THAN CLOSED BY CURVE ABOVE SLANTED EQUALaSMALLER THANaLARGER THAN",
  "2AACaSMALLER THAN OR EQUAL TOaLARGER THAN OR EQUAL TOaEQUALS SIGN WITH BUMPY ABOVE",
  "2AAFaPRECEDES ABOVE SINGLE-LINE EQUALS SIGNaSUCCEEDS ABOVE SINGLE-LINE EQUALS SIGN",
  "2AB1aPRECEDES ABOVE SINGLE-LINE NOT EQUAL TOaSUCCEEDS ABOVE SINGLE-LINE NOT EQUAL TO",
  "2AB3aPRECEDES ABOVE EQUALS SIGNaSUCCEEDS ABOVE EQUALS SIGNaPRECEDES ABOVE NOT EQUAL TO",
  "2AB6aSUCCEEDS ABOVE NOT EQUAL TOaPRECEDES ABOVE ALMOST EQUAL TOaSUCCEEDS ABOVE ALMOST EQUAL TO",
  "2AB9aPRECEDES ABOVE NOT ALMOST EQUAL TOaSUCCEEDS ABOVE NOT ALMOST EQUAL TOaDOUBLE PRECEDES",
  "2ABChSUCCEEDSaSUBSET WITH DOTcPERSET WITH DOTcBSET WITH PLUS SIGN BELOW",
  "2AC0cPERSET WITH PLUS SIGN BELOWcBSET WITH MULTIPLICATION SIGN BELOW",
  "2AC2cPERSET WITH MULTIPLICATION SIGN BELOWcBSET OF OR EQUAL TO WITH DOT ABOVE",
  "2AC4cPERSET OF OR EQUAL TO WITH DOT ABOVEcBSET OF ABOVE EQUALS SIGN",
  "2AC6cPERSET OF ABOVE EQUALS SIGNcBSET OF ABOVE TILDE OPERATORcPERSET OF ABOVE TILDE OPERATOR",
  "2AC9cBSET OF ABOVE ALMOST EQUAL TOcPERSET OF ABOVE ALMOST EQUAL TOcBSET OF ABOVE NOT EQUAL TO",
  "2ACCcPERSET OF ABOVE NOT EQUAL TObQUARE LEFT OPEN BOX OPERATORhRIGHT OPEN BOX OPERATOR",
  "2ACFaCLOSED SUBSETjPERSETjBSET OR EQUAL TOjPERSET OR EQUAL TOaSUBSET ABOVE SUPERSET",
  "2AD4cPERSET ABOVE SUBSETcBSET ABOVE SUBSETcPERSET ABOVE SUPERSETjBESIDE SUBSET",
  "2AD8qAND JOINED BY DASH WITH SUBSETaELEMENT OF OPENING DOWNWARDSaPITCHFORK WITH TEE TOP",
  "2ADBaTRANSVERSAL INTERSECTIONaFORKINGaNONFORKINGaSHORT LEFT TACKgDOWN TACKgUP TACK",
  "2AE1aPERPENDICULAR WITH SaVERTICAL BAR TRIPLE RIGHT TURNSTILE",
  "2AE3aDOUBLE VERTICAL BAR LEFT TURNSTILEaVERTICAL BAR DOUBLE LEFT TURNSTILE",
  "2AE5aDOUBLE VERTICAL BAR DOUBLE LEFT TURNSTILEaLONG DASH FROM LEFT MEMBER OF DOUBLE VERTICAL",
  "2AE7aSHORT DOWN TACK WITH OVERBARgUP TACK WITH UNDERBARoABOVE SHORT DOWN TACKaDOUBLE DOWN TACK",
  "2AEBhUP TACKhSTROKE NOT SIGNaREVERSED DOUBLE STROKE NOT SIGN",
  "2AEEaDOES NOT DIVIDE WITH REVERSED NEGATION SLASHaVERTICAL LINE WITH CIRCLE ABOVEzbBELOW",
  "2AF1aDOWN TACK WITH CIRCLE BELOWaPARALLEL WITH HORIZONTAL STROKEoTILDE OPERATOR",
  "2AF4aTRIPLE VERTICAL BAR BINARY RELATIONuWITH HORIZONTAL STROKEhCOLON OPERATOR",
  "2AF7hNESTED LESS-THANoGREATER-THANaDOUBLE-LINE SLANTED LESS-THAN OR EQUAL TO",
  "2AFAuGREATER-THAN OR EQUAL TOaTRIPLE SOLIDUS BINARY RELATION",
  "2AFCaLARGE TRIPLE VERTICAL BAR OPERATORaDOUBLE SOLIDUS OPERATORaWHITE VERTICAL BAR",
  "2AFFaN-ARY WHITE VERTICAL BARbORTH EAST WHITE ARROWgWEST WHITE ARROWaSOUTH EAST WHITE ARROW",
  "2B03gWEST WHITE ARROWaLEFT RIGHT WHITE ARROWeWARDS BLACK ARROWaUPWARDS BLACK ARROW",
  "2B07aDOWNWARDS BLACK ARROWaNORTH EAST BLACK ARROWgWEST BLACK ARROWaSOUTH EAST BLACK ARROW",
  "2B0BgWEST BLACK ARROWaLEFT RIGHT BLACK ARROWaUP DOWN BLACK ARROW",
  "2B0EaRIGHTWARDS ARROW WITH TIP DOWNWARDSzbUPWARDSaLEFTWARDS ARROW WITH TIP DOWNWARDSzUPWARDS",
  "2B12aSQUARE WITH TOP HALF BLACKmBOTTOM HALF BLACKmUPPER RIGHT DIAGONAL HALF BLACK",
  "2B15mLOWER LEFT DIAGONAL HALF BLACKaDIAMOND WITH LEFT HALF BLACKnRIGHT HALF BLACK",
  "2B18nTOP HALF BLACKnBOTTOM HALF BLACKbOTTED SQUAREaBLACK LARGE SQUAREaWHITE LARGE SQUARE",
  "2B1DaBLACK VERY SMALL SQUAREaWHITE VERY SMALL SQUAREaBLACK PENTAGONaWHITE PENTAGONgHEXAGON",
  "2B22aBLACK HEXAGONaHORIZONTAL BLACK HEXAGONaBLACK LARGE CIRCLEgMEDIUM DIAMOND",
  "2B26aWHITE MEDIUM DIAMONDaBLACK MEDIUM LOZENGEaWHITE MEDIUM LOZENGEaBLACK SMALL DIAMOND",
  "2B2AmLOZENGEaWHITE SMALL LOZENGEaBLACK HORIZONTAL ELLIPSEaWHITE HORIZONTAL ELLIPSE",
  "2B2EaBLACK VERTICAL ELLIPSEaWHITE VERTICAL ELLIPSEaLEFT ARROW WITH SMALL CIRCLE",
  "2B31aTHREE LEFTWARDS ARROWSaLEFT ARROW WITH CIRCLED PLUSbONG LEFTWARDS SQUIGGLE ARROW",
  "2B34bEFTWARDS TWO-HEADED ARROW WITH VERTICAL STROKEzhDOUBLE VERTICAL STROKEzcFROM BAR",
  "2B37vTRIPLE DASH ARROWkARROW WITH DOTTED STEMvTAIL WITH VERTICAL STROKE",
  "2B3AzgDOUBLE VERTICAL STROKEkTWO-HEADED ARROW WITH TAILzl WITH VERTICAL STROKE",
  "2B3DzrDOUBLE VERTICAL STROKEkARROW THROUGH XaWAVE ARROW POINTING DIRECTLY LEFT",
  "2B40aEQUALS SIGN ABOVE LEFTWARDS ARROWaREVERSE TILDE OPERATOR ABOVE LEFTWARDS ARROW",
  "2B42aLEFTWARDS ARROW ABOVE REVERSE ALMOST EQUAL TOaRIGHTWARDS ARROW THROUGH GREATER-THAN",
  "2B44zSUPERSETaLEFTWARDS QUADRUPLE ARROWaRIGHTWARDS QUADRUPLE ARROW",
  "2B47bEVERSE TILDE OPERATOR ABOVE RIGHTWARDS ARROW",
  "2B48bIGHTWARDS ARROW ABOVE REVERSE ALMOST EQUAL TOaTILDE OPERATOR ABOVE LEFTWARDS ARROW",
  "2B4AaLEFTWARDS ARROW ABOVE ALMOST EQUAL TOwREVERSE TILDE OPERATOR",
  "2B4CaRIGHTWARDS ARROW ABOVE REVERSE TILDE OPERATORaDOWNWARDS TRIANGLE-HEADED ZIGZAG ARROW",
  "2B4EaSHORT SLANTED NORTH ARROWgBACKSLANTED SOUTH ARROWaWHITE MEDIUM STARaBLACK SMALL STAR",
  "2B52aWHITE SMALL STARaBLACK RIGHT-POINTING PENTAGONaWHITE RIGHT-POINTING PENTAGON",
  "2B55aHEAVY LARGE CIRCLEgOVAL WITH OVAL INSIDEgCIRCLE WITH CIRCLE INSIDElEmD SALTIRE",
  "2B5AaSLANTED NORTH ARROW WITH HOOKED HEADaBACKSLANTED SOUTH ARROW WITH HOOKED TAIL",
  "2B5CaSLANTED NORTH ARROW WITH HORIZONTAL TAILaBACKSLANTED SOUTH ARROW WITH HORIZONTAL TAIL",
  "2B5EbENT ARROW POINTING DOWNWARDS THEN NORTH EAST",
  "2B5FaSHORT BENT ARROW POINTING DOWNWARDS THEN NORTH EASTaLEFTWARDS TRIANGLE-HEADED ARROW",
  "2B61aUPWARDS TRIANGLE-HEADED ARROWaRIGHTWARDS TRIANGLE-HEADED ARROW",
  "2B63aDOWNWARDS TRIANGLE-HEADED ARROWaLEFT RIGHT TRIANGLE-HEADED ARROW",
  "2B65aUP DOWN TRIANGLE-HEADED ARROWaNORTH WEST TRIANGLE-HEADED ARROWgEAST TRIANGLE-HEADED ARROW",
  "2B68aSOUTH EAST TRIANGLE-HEADED ARROWgWEST TRIANGLE-HEADED ARROW",
  "2B6AaLEFTWARDS TRIANGLE-HEADED DASHED ARROWaUPWARDS TRIANGLE-HEADED DASHED ARROW",
  "2B6CaRIGHTWARDS TRIANGLE-HEADED DASHED ARROWaDOWNWARDS TRIANGLE-HEADED DASHED ARROW",
  "2B6EaCLOCKWISE TRIANGLE-HEADED OPEN CIRCLE ARROW",
  "2B6FaANTICLOCKWISE TRIANGLE-HEADED OPEN CIRCLE ARROWaLEFTWARDS TRIANGLE-HEADED ARROW TO BAR",
  "2B71aUPWARDS TRIANGLE-HEADED ARROW TO BARaRIGHTWARDS TRIANGLE-HEADED ARROW TO BAR",
  "2B73aDOWNWARDS TRIANGLE-HEADED ARROW TO BAR",
  "2B76aNORTH WEST TRIANGLE-HEADED ARROW TO BARgEAST TRIANGLE-HEADED ARROW TO BAR",
  "2B78aSOUTH EAST TRIANGLE-HEADED ARROW TO BARgWEST TRIANGLE-HEADED ARROW TO BAR",
  "2B7AaLEFTWARDS TRIANGLE-HEADED ARROW WITH DOUBLE HORIZONTAL STROKE",
  "2B7BaUPWARDS TRIANGLE-HEADED ARROW WITH DOUBLE HORIZONTAL STROKE",
  "2B7CaRIGHTWARDS TRIANGLE-HEADED ARROW WITH DOUBLE HORIZONTAL STROKE",
  "2B7DaDOWNWARDS TRIANGLE-HEADED ARROW WITH DOUBLE HORIZONTAL STROKEaHORIZONTAL TAB KEY",
  "2B7FaVERTICAL TAB KEYaLEFTWARDS TRIANGLE-HEADED ARROW OVER RIGHTWARDS TRIANGLE-HEADED ARROW",
  "2B81aUPWARDS TRIANGLE-HEADED ARROW LEFTWARDS OF DOWNWARDS TRIANGLE-HEADED ARROW",
  "2B82aRIGHTWARDS TRIANGLE-HEADED ARROW OVER LEFTWARDS TRIANGLE-HEADED ARROW",
  "2B83aDOWNWARDS TRIANGLE-HEADED ARROW LEFTWARDS OF UPWARDS TRIANGLE-HEADED ARROW",
  "2B84aLEFTWARDS TRIANGLE-HEADED PAIRED ARROWSaUPWARDS TRIANGLE-HEADED PAIRED ARROWS",
  "2B86aRIGHTWARDS TRIANGLE-HEADED PAIRED ARROWSaDOWNWARDS TRIANGLE-HEADED PAIRED ARROWS",
  "2B88aLEFTWARDS BLACK CIRCLED WHITE ARROWaUPWARDS BLACK CIRCLED WHITE ARROW",
  "2B8AaRIGHTWARDS BLACK CIRCLED WHITE ARROWaDOWNWARDS BLACK CIRCLED WHITE ARROW",
  "2B8CaANTICLOCKWISE TRIANGLE-HEADED RIGHT U-SHAPED ARROWzfBOTTOM U-SHAPED ARROW",
  "2B8EzfLEFT U-SHAPED ARROWzfTOP U-SHAPED ARROWaRETURN LEFThRIGHTaNEWLINE LEFTiRIGHT",
  "2B94aFOUR CORNER ARROWS CIRCLING ANTICLOCKWISEaRIGHTWARDS BLACK ARROW",
  "2B97aSYMBOL FOR TYPE A ELECTRONICSaTHREE-D TOP-LIGHTED LEFTWARDS EQUILATERAL ARROWHEAD",
  "2B99iRIGHT-LIGHTED UPWARDS EQUILATERAL ARROWHEADiTOP-LIGHTED RIGHTWARDS EQUILATERAL ARROWHEAD",
  "2B9BiLEFT-LIGHTED DOWNWARDS EQUILATERAL ARROWHEADaBLACK LEFTWARDS EQUILATERAL ARROWHEAD",
  "2B9DgUPWARDS EQUILATERAL ARROWHEADgRIGHTWARDS EQUILATERAL ARROWHEAD",
  "2B9FgDOWNWARDS EQUILATERAL ARROWHEADaDOWNWARDS TRIANGLE-HEADED ARROW WITH LONG TIP LEFTWARDS",
  "2BA1zvRIGHTWARDSaUPWARDS TRIANGLE-HEADED ARROW WITH LONG TIP LEFTWARDSztRIGHTWARDS",
  "2BA4aLEFTWARDS TRIANGLE-HEADED ARROW WITH LONG TIP UPWARDS",
  "2BA5aRIGHTWARDS TRIANGLE-HEADED ARROW WITH LONG TIP UPWARDS",
  "2BA6aLEFTWARDS TRIANGLE-HEADED ARROW WITH LONG TIP DOWNWARDS",
  "2BA7aRIGHTWARDS TRIANGLE-HEADED ARROW WITH LONG TIP DOWNWARDS",
  "2BA8aBLACK CURVED DOWNWARDS AND LEFTWARDS ARROWzcRIGHTWARDS ARROWnUPWARDS AND LEFTWARDS ARROW",
  "2BABzRIGHTWARDS ARROWnLEFTWARDS AND UPWARDS ARROWnRIGHTWARDS AND UPWARDS ARROW",
  "2BAEnLEFTWARDS AND DOWNWARDS ARROWnRIGHTWARDS AND DOWNWARDS ARROWaRIBBON ARROW DOWN LEFTsRIGHT",
  "2BB2nUP LEFTqRIGHTnLEFT UPnRIGHT UPnLEFT DOWNnRIGHT DOWN",
  "2BB8aUPWARDS WHITE ARROW FROM BAR WITH HORIZONTAL BARc ARROWHEAD IN A RECTANGLE BOX",
  "2BBAaOVERLAPPING WHITE SQUARESsAND BLACK SQUARESmBLACK SQUARESaBALLOT BOX WITH LIGHT X",
  "2BBEaCIRCLED XiBOLD XaBLACK SQUARE CENTREDgDIAMOND CENTREDaTURNED BLACK PENTAGON",
  "2BC3aHORIZONTAL BLACK OCTAGONaBLACK OCTAGONgMEDIUM UP-POINTING TRIANGLE CENTRED",
  "2BC6nDOWN-POINTING TRIANGLE CENTREDnLEFT-POINTING TRIANGLE CENTRED",
  "2BC8nRIGHT-POINTING TRIANGLE CENTREDaNEPTUNE FORM TWOaTOP HALF BLACK CIRCLE",
  "2BCBaBOTTOM HALF BLACK CIRCLEaLIGHT FOUR POINTED BLACK CUSP",
  "2BCDaROTATED LIGHT FOUR POINTED BLACK CUSPaWHITE FOUR POINTED CUSP",
  "2BCFaROTATED WHITE FOUR POINTED CUSPaSQUARE POSITION INDICATORaUNCERTAINTY SIGNaGROUP MARK",
  "2BD3aPLUTO FORM TWOmHREElFOURmIVEaTRANSPLUTOaPROSERPINAaASTRAEAaHYGIEAaPHOLUSaNESSUS",
  "2BDDaWHITE MOON SELENAaBLACK DIAMOND ON CROSSaTRUE LIGHT MOON ARTAaCUPIDOaHADESaZEUSaKRONOS",
  "2BE4aAPOLLONbDMETOSaVULCANUSaPOSEIDONaLEFT HALF BLACK STARaRIGHT HALF BLACK STAR",
  "2BEAaSTAR WITH LEFT HALF BLACKkRIGHT HALF BLACK",
  "2BECaLEFTWARDS TWO-HEADED ARROW WITH TRIANGLE ARROWHEADS",
  "2BEDaUPWARDS TWO-HEADED ARROW WITH TRIANGLE ARROWHEADS",
  "2BEEaRIGHTWARDS TWO-HEADED ARROW WITH TRIANGLE ARROWHEADS",
  "2BEFaDOWNWARDS TWO-HEADED ARROW WITH TRIANGLE ARROWHEADSaERIS FORM ONEkTWOaSEDNA",
  "2BF3aRUSSIAN ASTROLOGICAL SYMBOL VIGINTILEzdNOVILEzdQUINTILEzdBINOVILEzdSENTAGONzdTREDECILE",
  "2BF9aEQUALS SIGN WITH INFINITY BELOWaUNITED SYMBOLaSEPARATED SYMBOLaDOUBLED SYMBOL",
  "2BFDaPASSED SYMBOLaREVERSED RIGHT ANGLEaHELLSCHREIBER PAUSE SYMBOL",
  "2C00aGLAGOLITIC CAPITAL LETTER AZUzbBUKYzbVEDEzbGLAGOLIzbDOBROzbYESTUzbZHIVETEzbDZELOzbZEMLJA",
  "2C09zbIZHEzcNITIAL IZHEzbIzbDJERVIzbKAKOzbLJUDIJEzbMYSLITEzbNASHIzbONUzbPOKOJIzbRITSIzbSLOVO",
  "2C15zbTVRIDOzbUKUzbFRITUzbHERUzbOTUzbPEzbSHTAzbTSIzbCHRIVIzbSHAzbYERUzeIzcATIzbSPIDERY HAzbYU",
  "2C24zbSMALL YUSzk WITH TAILzbYOzbIOTATED SMALL YUSzbBIG YUSzbIOTATED BIG YUSzbFITAzbIZHITSA",
  "2C2CzbSHTAPICzbTROKUTASTI AzbLATINATE MYSLITEzbCAUDATE CHRIVIlSMALL LETTER AZUyBUKYyVEDE",
  "2C33yGLAGOLIyDOBROyYESTUyZHIVETEyDZELOyZEMLJAyIZHEzNITIAL IZHEyIyDJERVIyKAKOyLJUDIJEyMYSLITE",
  "2C40yNASHIyONUyPOKOJIyRITSIySLOVOyTVRIDOyUKUyFRITUyHERUyOTUyPEySHTAyTSIyCHRIVIySHAyYERUzcIzATI",
  "2C52ySPIDERY HAyYUySMALL YUSzi WITH TAILyYOyIOTATED SMALL YUSyBIG YUSyIOTATED BIG YUSyFITA",
  "2C5ByIZHITSAySHTAPICyTROKUTASTI AyLATINATE MYSLITEyCAUDATE CHRIVI",
  "2C60aLATIN CAPITAL LETTER L WITH DOUBLE BARgSMALL LETTER L WITH DOUBLE BAR",
  "2C62gCAPITAL LETTER L WITH MIDDLE TILDEvP WITH STROKEvR WITH TAILgSMALL LETTER A WITH STROKE",
  "2C66tT WITH DIAGONAL STROKEgCAPITAL LETTER H WITH DESCENDERgSMALL LETTER H WITH DESCENDER",
  "2C69gCAPITAL LETTER K WITH DESCENDERgSMALL LETTER K WITH DESCENDER",
  "2C6BgCAPITAL LETTER Z WITH DESCENDERgSMALL LETTER Z WITH DESCENDERgCAPITAL LETTER ALPHA",
  "2C6EvM WITH HOOKvTURNED AzeLPHAgSMALL LETTER V WITH RIGHT HOOKgCAPITAL LETTER W WITH HOOK",
  "2C73gSMALL LETTER W WITH HOOKtV WITH CURLgCAPITAL LETTER HALF HgSMALL LETTER HALF H",
  "2C77tTAILLESS PHItE WITH NOTCHtTURNED R WITH TAILtO WITH LOW RING INSIDE",
  "2C7BgLETTER SMALL CAPITAL TURNED EgSUBSCRIPT SMALL LETTER JaMODIFIER LETTER CAPITAL V",
  "2C7EaLATIN CAPITAL LETTER S WITH SWASH TAILvZ WITH SWASH TAILaCOPTIC CAPITAL LETTER ALFA",
  "2C81hSMALL LETTER ALFAhCAPITAL LETTER VIDAhSMALL LETTER VIDAhCAPITAL LETTER GAMMA",
  "2C85hSMALL LETTER GAMMAhCAPITAL LETTER DALDAhSMALL LETTER DALDAhCAPITAL LETTER EIE",
  "2C89hSMALL LETTER EIEhCAPITAL LETTER SOUhSMALL LETTER SOUhCAPITAL LETTER ZATA",
  "2C8DhSMALL LETTER ZATAhCAPITAL LETTER HATEhSMALL LETTER HATEhCAPITAL LETTER THETHE",
  "2C91hSMALL LETTER THETHEhCAPITAL LETTER IAUDAhSMALL LETTER IAUDAhCAPITAL LETTER KAPA",
  "2C95hSMALL LETTER KAPAhCAPITAL LETTER LAULAhSMALL LETTER LAULAhCAPITAL LETTER MI",
  "2C99hSMALL LETTER MIhCAPITAL LETTER NIhSMALL LETTER NIhCAPITAL LETTER KSIhSMALL LETTER KSI",
  "2C9EhCAPITAL LETTER OhSMALL LETTER OhCAPITAL LETTER PIhSMALL LETTER PIhCAPITAL LETTER RO",
  "2CA3hSMALL LETTER ROhCAPITAL LETTER SIMAhSMALL LETTER SIMAhCAPITAL LETTER TAUhSMALL LETTER TAU",
  "2CA8hCAPITAL LETTER UAhSMALL LETTER UAhCAPITAL LETTER FIhSMALL LETTER FIhCAPITAL LETTER KHI",
  "2CADhSMALL LETTER KHIhCAPITAL LETTER PSIhSMALL LETTER PSIhCAPITAL LETTER OOUhSMALL LETTER OOU",
  "2CB2hCAPITAL LETTER DIALECT-P ALEFhSMALL LETTER DIALECT-P ALEFhCAPITAL LETTER OLD COPTIC AIN",
  "2CB5hSMALL LETTER OLD COPTIC AINhCAPITAL LETTER CRYPTOGRAMMIC EIE",
  "2CB7hSMALL LETTER CRYPTOGRAMMIC EIEhCAPITAL LETTER DIALECT-P KAPAhSMALL LETTER DIALECT-P KAPA",
  "2CBAhCAPITAL LETTER DIALECT-P NIhSMALL LETTER DIALECT-P NIhCAPITAL LETTER CRYPTOGRAMMIC NI",
  "2CBDhSMALL LETTER CRYPTOGRAMMIC NIhCAPITAL LETTER OLD COPTIC OOUhSMALL LETTER OLD COPTIC OOU",
  "2CC0hCAPITAL LETTER SAMPIhSMALL LETTER SAMPIhCAPITAL LETTER CROSSED SHEI",
  "2CC3hSMALL LETTER CROSSED SHEIhCAPITAL LETTER OLD COPTIC SHEIhSMALL LETTER OLD COPTIC SHEI",
  "2CC6hCAPITAL LETTER OLD COPTIC ESHhSMALL LETTER OLD COPTIC ESHhCAPITAL LETTER AKHMIMIC KHEI",
  "2CC9hSMALL LETTER AKHMIMIC KHEIhCAPITAL LETTER DIALECT-P HORIhSMALL LETTER DIALECT-P HORI",
  "2CCChCAPITAL LETTER OLD COPTIC HORIhSMALL LETTER OLD COPTIC HORIhCAPITAL LETTER OLD COPTIC HA",
  "2CCFhSMALL LETTER OLD COPTIC HAhCAPITAL LETTER L-SHAPED HAhSMALL LETTER L-SHAPED HA",
  "2CD2hCAPITAL LETTER OLD COPTIC HEIhSMALL LETTER OLD COPTIC HEIhCAPITAL LETTER OLD COPTIC HAT",
  "2CD5hSMALL LETTER OLD COPTIC HAThCAPITAL LETTER OLD COPTIC GANGIA",
  "2CD7hSMALL LETTER OLD COPTIC GANGIAhCAPITAL LETTER OLD COPTIC DJAhSMALL LETTER OLD COPTIC DJA",
  "2CDAhCAPITAL LETTER OLD COPTIC SHIMAhSMALL LETTER OLD COPTIC SHIMA",
  "2CDChCAPITAL LETTER OLD NUBIAN SHIMAhSMALL LETTER OLD NUBIAN SHIMA",
  "2CDEhCAPITAL LETTER OLD NUBIAN NGIhSMALL LETTER OLD NUBIAN NGIhCAPITAL LETTER OLD NUBIAN NYI",
  "2CE1hSMALL LETTER OLD NUBIAN NYIhCAPITAL LETTER OLD NUBIAN WAUhSMALL LETTER OLD NUBIAN WAU",
  "2CE4iYMBOL KAIoMI ROoPI ROoSTAUROSoTAU ROoKHI ROoSHIMA SIMAhCAPITAL LETTER CRYPTOGRAMMIC SHEI",
  "2CEChSMALL LETTER CRYPTOGRAMMIC SHEIhCAPITAL LETTER CRYPTOGRAMMIC GANGIA",
  "2CEEhSMALL LETTER CRYPTOGRAMMIC GANGIAhCOMBINING NI ABOVErSPIRITUS ASPERzbLENIS",
  "2CF2iAPITAL LETTER BOHAIRIC KHEIhSMALL LETTER BOHAIRIC KHEI",
  "2CF9hOLD NUBIAN FULL STOPsDIRECT QUESTION MARKsINDIRECT QUESTION MARKsVERSE DIVIDER",
  "2CFDhFRACTION ONE HALFiULL STOPhMORPHOLOGICAL DIVIDERaGEORGIAN SMALL LETTER ANwBANwGANwDONwEN",
  "2D05wVINwZENwTANwINwKANwLASwMANwNARwONwPARwZHARwRAEwSANwTARwUNwPHARwKHARwGHANwQARwSHINwCHINxAN",
  "2D1BwJILwCILxHARwXANwJHANwHAExExIEwWEwHARxOE",
  "2D27wYN",
  "2D2DwAEN",
  "2D30aTIFINAGH LETTER YAsBtHsGtHHqBERBER ACADEMY YAJqYAJsDtHtDuHrEYrAFsKqTUAREG YAKqYAKHHsH",
  "2D41qBERBER ACADEMY YAHqTUAREG YAHqYAHHsAsKHqTUAREG YAKHqYAQqTUAREG YAQqYIrAZHqAHAGGAR YAZH",
  "2D4CqTUAREG YAZHqYALsMsNqTUAREG YAGNzNGqYAPrUrARtRsGHqTUAREG YAGHqAYER YAGHqYAStStHsTtHsCHsTT",
  "2D60sVsWsYsZqTAWELLEMET YAZqYAZZrErO",
  "2D6FjMODIFIER LETTER LABIALIZATION MARKjSEPARATOR MARK",
  "2D7FjCONSONANT JOINERaETHIOPIC SYLLABLE LOAsMOAsROAsSOAtHOAsBOAsTOAsCOAsNOAtYOAsGLOTTAL OAsZOA",
  "2D8CsDOAtDOAsJOAsTHOAsCHOAsPHOAtOAsGGWAvIvEEvE",
  "2DA0sSSAuUuIuAAuEEuEuO",
  "2DA8sCCAuUuIuAAuEEuEuO",
  "2DB0sZZAuUuIuAAuEEuEuO",
  "2DB8sCCHAvUvIvAAvEEvEvO",
  "2DC0sQYAuUuIuAAuEEuEuO",
  "2DC8sKYAuUuIuAAuEEuEuO",
  "2DD0sXYAuUuIuAAuEEuEuO",
  "2DD8sGYAuUuIuAAuEEuEuO",
  "2DE0aCOMBINING CYRILLIC LETTER BEzbVEzbGHEzbDEzbZHEzcEzbKAzbELzcMzcNzbOzbPEzbERzcSzbTEzbHA",
  "2DF0zbTSEzbCHEzbSHAzdCHAzbFITAzbES-TEzbAzbIEzbDJERVzbMONOGRAPH UKzbYATzcUzbIOTIFIED A",
  "2DFDzbLITTLE YUSzbBIG YUSzbIOTIFIED BIG YUSaRIGHT ANGLE SUBSTITUTION MARKER",
  "2E01mDOTTED SUBSTITUTION MARKERaLEFT SUBSTITUTION BRACKETaRIGHT SUBSTITUTION BRACKET",
  "2E04aLEFT DOTTED SUBSTITUTION BRACKETaRIGHT DOTTED SUBSTITUTION BRACKET",
  "2E06bAISED INTERPOLATION MARKERhDOTTED INTERPOLATION MARKERaDOTTED TRANSPOSITION MARKER",
  "2E09aLEFT TRANSPOSITION BRACKETaRIGHT TRANSPOSITION BRACKETbAISED SQUARE",
  "2E0CaLEFT RAISED OMISSION BRACKETaRIGHT RAISED OMISSION BRACKETaEDITORIAL CORONISaPARAGRAPHOS",
  "2E10aFORKED PARAGRAPHOSaREVERSED FORKED PARAGRAPHOSaHYPODIASTOLEaDOTTED OBELOScWNWARDS ANCORA",
  "2E15aUPWARDS ANCORAaDOTTED RIGHT-POINTING ANGLEcUBLE OBLIQUE HYPHENaINVERTED INTERROBANG",
  "2E19aPALM BRANCHaHYPHEN WITH DIAERESISaTILDE WITH RING ABOVEaLEFT LOW PARAPHRASE BRACKET",
  "2E1DaRIGHT LOW PARAPHRASE BRACKETaTILDE WITH DOT ABOVEpBELOWaLEFT VERTICAL BAR WITH QUILL",
  "2E21aRIGHT VERTICAL BAR WITH QUILLaTOP LEFT HALF BRACKETeRIGHT HALF BRACKET",
  "2E24aBOTTOM LEFT HALF BRACKEThRIGHT HALF BRACKETaLEFT SIDEWAYS U BRACKET",
  "2E27aRIGHT SIDEWAYS U BRACKETaLEFT DOUBLE PARENTHESISaRIGHT DOUBLE PARENTHESIS",
  "2E2AaTWO DOTS OVER ONE DOT PUNCTUATIONaONE DOT OVER TWO DOTS PUNCTUATION",
  "2E2CaSQUARED FOUR DOT PUNCTUATIONaFIVE DOT MARKaREVERSED QUESTION MARKaVERTICAL TILDE",
  "2E30aRING POINTaWORD SEPARATOR MIDDLE DOTaTURNED COMMAaRAISED DOThCOMMAaTURNED SEMICOLON",
  "2E36aDAGGER WITH LEFT GUARDmRIGHT GUARDaTURNED DAGGERbOP HALF SECTION SIGNbWO-EM DASH",
  "2E3BbHREE-EM DASHaSTENOGRAPHIC FULL STOPaVERTICAL SIX DOTSaWIGGLY VERTICAL LINEaCAPITULUM",
  "2E40aDOUBLE HYPHENaREVERSED COMMAaDOUBLE LOW-REVERSED-9 QUOTATION MARKbASH WITH LEFT UPTURN",
  "2E44bOUBLE SUSPENSION MARKaINVERTED LOW KAVYKAt WITH KAVYKA ABOVEaLOW KAVYKAk WITH DOT",
  "2E49aDOUBLE STACKED COMMAcTTED SOLIDUSaTRIPLE DAGGERaMEDIEVAL COMMAaPARAGRAPHUS MARK",
  "2E4EbUNCTUS ELEVATUS MARKaCORNISH VERSE DIVIDERbROSS PATTY WITH RIGHT CROSSBARrLEFT CROSSBAR",
  "2E52aTIRONIAN SIGN CAPITAL ETaMEDIEVAL EXCLAMATION MARKjQUESTION MARK",
  "2E55aLEFT SQUARE BRACKET WITH STROKEaRIGHT SQUARE BRACKET WITH STROKE",
  "2E57aLEFT SQUARE BRACKET WITH DOUBLE STROKEaRIGHT SQUARE BRACKET WITH DOUBLE STROKE",
  "2E59aTOP HALF LEFT PARENTHESISjRIGHT PARENTHESISaBOTTOM HALF LEFT PARENTHESIS",
  "2E5CmRIGHT PARENTHESISaOBLIQUE HYPHEN",
  "2E80aCJK RADICAL REPEATmCLIFFmSECOND ONEtTWOuHREEmPERSONmBOXmTABLEmKNIFE ONEsTWOmDIVINATION",
  "2E8BmSEALnMALL ONEsTWOmLAME ONErTWOsHREErFOURmSNAKEmTHREADmSNOUT ONEsTWOmHEART ONEsTWOnANDmRAP",
  "2E9BmCHOKEmSUNmMOONmDEATHmMOTHERmCIVILIANmWATER ONEsTWOmFIREmPAW ONEqTWO",
  "2EA6mSIMPLIFIED HALF TREE TRUNKmCOWmDOGmJADEmBOLT OF CLOTHmEYEmSPIRIT ONEtTWOmBAMBOOmSILK",
  "2EB0mC-SIMPLIFIED SILKmNET ONEqTWOrHREEqFOURmMESHmSHEEPmRAMmEWEmOLDmBRUSH ONEsTWOmMEATnORTAR",
  "2EBEmGRASS ONEsTWOtHREEmTIGERmCLOTHESmWEST ONErTWOmC-SIMPLIFIED SEEmSIMPLIFIED HORNmHORN",
  "2EC8mC-SIMPLIFIED SPEECHzbHELLmFOOTmC-SIMPLIFIED CARTmSIMPLIFIED WALKmWALK ONErTWOmCITY",
  "2ED0n-SIMPLIFIED GOLDmLONG ONErTWOmC-SIMPLIFIED LONGzGATEmMOUND ONEsTWOmRAINmBLUE",
  "2ED9mC-SIMPLIFIED TANNED LEATHERzLEAFzWINDzFLYmEAT ONEqTWOrHREEmC-SIMPLIFIED EATmHEAD",
  "2EE2mC-SIMPLIFIED HORSEmBONEmGHOSTmC-SIMPLIFIED FISHzBIRDzSALTmSIMPLIFIED WHEATxYELLOW",
  "2EEAmC-SIMPLIFIED FROGmJ-SIMPLIFIED EVENmC-SIMPLIFIED EVENmJ-SIMPLIFIED TOOTH",
  "2EEEmC-SIMPLIFIED TOOTHmJ-SIMPLIFIED DRAGONmC-SIMPLIFIED DRAGONmTURTLEmJ-SIMPLIFIED TURTLE",
  "2EF3mC-SIMPLIFIED TURTLE",
  "2F00aKANGXI RADICAL ONEpLINEpDOTpSLASHqECONDpHOOKpTWOpLIDpMANpLEGSpENTERqIGHTpDOWN BOXpCOVER",
  "2F0EpICEpTABLEpOPEN BOXpKNIFEpPOWERpWRAPpSPOONpRIGHT OPEN BOXpHIDING ENCLOSUREpTENpDIVINATION",
  "2F19pSEALpCLIFFpPRIVATEpAGAINpMOUTHpENCLOSUREqARTHpSCHOLARpGOr SLOWLYpEVENINGpBIGpWOMANpCHILD",
  "2F27pROOFpINCHpSMALLpLAMEpCORPSEpSPROUTpMOUNTAINpRIVERpWORKpONESELFpTURBANpDRYpSHORT THREAD",
  "2F34pDOTTED CLIFFpLONG STRIDEpTWO HANDSpSHOOTpBOWpSNOUTpBRISTLEpSTEPpHEARTqALBERDpDOORpHAND",
  "2F40pBRANCHpRAPpSCRIPTpDIPPERpAXEpSQUAREpNOTpSUNqAYpMOONpTREEpLACKpSTOPpDEATHpWEAPONpDO NOT",
  "2F50pCOMPAREpFURpCLANpSTEAMpWATERpFIREpCLAWpFATHERpDOUBLE XpHALF TREE TRUNKpSLICEpFANGpCOWpDOG",
  "2F5EpPROFOUNDpJADEpMELONpTILEpSWEETpLIFEpUSEpFIELDpBOLT OF CLOTHpSICKNESSpDOTTED TENTpWHITE",
  "2F6ApSKINpDISHpEYEpSPEARpARROWpSTONEqPIRITpTRACKpGRAINpCAVEpSTANDpBAMBOOpRICEpSILKpJARpNET",
  "2F7ApSHEEPpFEATHERpOLDpANDpPLOWpEARpBRUSHpMEATqINISTERpSELFpARRIVEpMORTARpTONGUEpOPPOSEpBOAT",
  "2F89pSTOPPINGpCOLORpGRASSpTIGERpINSECTpBLOODpWALK ENCLOSUREpCLOTHESpWESTpSEEpHORNpSPEECH",
  "2F95pVALLEYpBEANpPIGpBADGERpSHELLpREDqUNpFOOTpBODYpCARTpBITTERpMORNINGpWALKpCITYpWINE",
  "2FA4pDISTINGUISHpVILLAGEpGOLDpLONGpGATEpMOUNDpSLAVEqHORT TAILED BIRDpRAINpBLUEpWRONGpFACE",
  "2FB0pLEATHERpTANNED LEATHERpLEEKpSOUNDpLEAFpWINDpFLYpEATpHEADpFRAGRANTpHORSEpBONEpTALLpHAIR",
  "2FBEpFIGHTpSACRIFICIAL WINEpCAULDRONpGHOSTpFISHpBIRDpSALTpDEERpWHEATpHEMPpYELLOWpMILLETpBLACK",
  "2FCBpEMBROIDERYpFROGpTRIPODpDRUMpRATpNOSEpEVENpTOOTHpDRAGONpTURTLEpFLUTE",
  "2FF0aIDEOGRAPHIC DESCRIPTION CHARACTER LEFT TO RIGHTzjABOVE TO BELOWzjLEFT TO MIDDLE AND RIGHT",
  "2FF3zjABOVE TO MIDDLE AND BELOWzjFULL SURROUNDzjSURROUND FROM ABOVEzxBELOWzxLEFTzxUPPER LEFT",
  "2FF9zzeRIGHTzxLOWER LEFTzjOVERLAID"]

end ModuleBridge.Text
