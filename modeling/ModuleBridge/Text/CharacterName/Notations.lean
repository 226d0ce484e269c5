/-!
# Names of characters from U+1D000 to U+1DFFF: musical notation, mathematical letters and sign writing
-/

namespace ModuleBridge.Text

/-- Lines of names. -/
def notationNames : List String := [
  "1D000aBYZANTINE MUSICAL SYMBOL PSILIzDASEIAzPERISPOMENIzOXEIA EKFONITIKONzgDIPLI",
  "1D005zVAREIA EKFONITIKONzhDIPLIzKATHISTIzSYRMATIKIzPARAKLITIKIzYPOKRISISzj DIPLIzKREMASTI",
  "1D00DzAPESO EKFONITIKONzEXO EKFONITIKONzTELEIAzKENTIMATAzAPOSTROFOSzk DIPLIzSYNEVMAzTHITA",
  "1D015zOLIGON ARCHAIONzGORGON ARCHAIONzPSILONzCHAMILONzVATHYzISON ARCHAIONzKENTIMA ARCHAION",
  "1D01CzhTA ARCHAIONzSAXIMATAzPARICHONzSTAVROS APODEXIAzOXEIAI ARCHAIONzVAREIAI ARCHAION",
  "1D022zAPODERMA ARCHAIONzdTHEMAzKLASMAzREVMAzPIASMA ARCHAIONzTINAGMAzANATRICHISMAzSEISMA",
  "1D02AzbYNAGMA ARCHAIONziMETA STAVROUzOYRANISMA ARCHAIONzTHEMAzLEMOIzDYOzTRIAzbESSERAzKRATIMATA",
  "1D033zAPESO EXO NEOzFTHORA ARCHAIONzIMIFTHORAzTROMIKON ARCHAIONzKATAVA TROMIKONzPELASTON",
  "1D039zbSIFISTONzKONTEVMAzCHOREVMA ARCHAIONzRAPISMAzPARAKALESMA ARCHAIONzfLITIKI ARCHAION",
  "1D03FzICHADINzNANAzPETASMAzKONTEVMA ALLOzTROMIKON ALLOzSTRAGGISMATAzGRONTHISMATAzISON NEO",
  "1D047zOLIGON NEOzbXEIA NEOzPETASTIzKOUFISMAzPETASTOKOUFISMAzKRATIMOKOUFISMAzPELASTON NEO",
  "1D04EzKENTIMATA NEO ANOzh NEO ANOzYPSILIzAPOSTROFOS NEOzjI SYNDESMOS NEOzYPORROI",
  "1D054zKRATIMOYPORROONzELAFRONzCHAMILIzMIKRON ISONzVAREIA NEOzPIASMA NEOzbSIFISTON NEOzOMALON",
  "1D05CzANTIKENOMAzLYGISMAzPARAKLITIKI NEOzfALESMA NEOzETERON PARAKALESMAzKYLISMA",
  "1D062zANTIKENOKYLISMAzTROMIKON NEOzEKSTREPTONzSYNAGMA NEOzcRMAzCHOREVMA NEOzEPEGERMA",
  "1D069zSEISMA NEOzXIRON KLASMAzTROMIKOPSIFISTONzPSIFISTOLYGISMAzTROMIKOLYGISMAzhPARAKALESMA",
  "1D06FzPSIFISTOPARAKALESMAzTROMIKOSYNAGMAzPSIFISTOSYNAGMAzGORGOSYNTHETONzARGOSYNTHETON",
  "1D074zETERON ARGOSYNTHETONzOYRANISMA NEOzTHEMATISMOS ESOznXOzf APLOUNzdS KAI APOTHESzKATAVASMA",
  "1D07BzENDOFONONzYFEN KATOzfANOzSTAVROSzKLASMA ANOzDIPLI ARCHAIONzKRATIMA ARCHAIONzjLLOziNEO",
  "1D084zAPODERMA NEOzcLIzDIPLIzTRIPLIzbETRAPLIzKORONISzLEIMMA ENOS CHRONOUzhDYO CHRONON",
  "1D08CzhTRION CHRONONziESSARON CHRONONzhIMISEOS CHRONOUzGORGON NEO ANOzhPARESTIGMENON ARISTERA",
  "1D091zvDEXIAzDIGORGONzi PARESTIGMENON ARISTERA KATOzzhANOzxDEXIAzTRIGORGONzARGONzIMIDIARGON",
  "1D099zDIARGONzAGOGI POLI ARGIzgARGOTERIzjIzgMETRIAziSIzgGORGIzkOTERIzgPOLI GORGI",
  "1D0A2zMARTYRIA PROTOS ICHOSzjALLI PROTOS ICHOSzjDEYTEROS ICHOSzjALLI DEYTEROS ICHOS",
  "1D0A6zjTRITOS ICHOSzmFONIASzkETARTOS ICHOSzsLEGETOS ICHOSzjLEGETOS ICHOSzjPLAGIOS ICHOS",
  "1D0ACzISAKIA TELOUS ICHIMATOSzAPOSTROFOI TELOUS ICHIMATOSzFANEROSIS TETRAFONIASzkMONOFONIAS",
  "1D0B0zkDIFONIASzMARTYRIA VARYS ICHOSzjPROTOVARYS ICHOSzkLAGIOS TETARTOS ICHOS",
  "1D0B4zGORTHMIKON N APLOUNznDIPLOUNzENARXIS KAI FTHORA VOUzIMIFONONzeTHORON",
  "1D0B9zFTHORA ARCHAION DEYTEROU ICHOUzhDIATONIKI PAzrNANAzhNAOS ICHOSzhDIATONIKI DI",
  "1D0BEzhSKLIRON DIATONON DIzhDIATONIKI KEzrZOzrNI KATOzuANOzhMALAKON CHROMA DIFONIAS",
  "1D0C4zwMONOFONIASzbHTORA SKLIRON CHROMA VASISzbTHORA SKLIRON CHROMA SYNAFIzhNENANOzCHROA ZYGOS",
  "1D0C9zgKLITONzgSPATHIzFTHORA I YFESIS TETARTIMORIONzhENARMONIOS ANTIFONIAzYFESIS TRITIMORION",
  "1D0CEzDIESIS TRITIMORIONziETARTIMORIONzhAPLI DYO DODEKATAzhMONOGRAMMOS TESSERA DODEKATA",
  "1D0D2zhDIGRAMMOS EX DODEKATAzhTRIGRAMMOS OKTO DODEKATAzYFESIS APLI DYO DODEKATA",
  "1D0D5zhMONOGRAMMOS TESSERA DODEKATAzhDIGRAMMOS EX DODEKATAzhTRIGRAMMOS OKTO DODEKATA",
  "1D0D8zGENIKI DIESISzhYFESISzDIASTOLI APLI MIKRIzpEGALIzjDIPLIzjTHESEOSzSIMANSIS THESEOS",
  "1D0DFzq DISIMOUzrTRISIMOUzsETRASIMOUzjARSEOSzp DISIMOUzqTRISIMOUzrETRASIMOUzDIGRAMMA GG",
  "1D0E7zcFTOGGOS OUzSTIGMAzARKTIKO PAziVOUziGAziDIziKEziZOziNIzKENTIMATA NEO MESOzh NEO MESO",
  "1D0F2zhTA NEO KATOzh NEO KATOzbLASMA KATOzGORGON NEO KATO",
  "1D100aMUSICAL SYMBOL SINGLE BARLINEpDOUBLE BARLINEpFINAL BARLINEpREVERSE FINAL BARLINE",
  "1D104pDASHED BARLINEpSHORT BARLINEpLEFT REPEAT SIGNpRIGHT REPEAT SIGNqEPEAT DOTSpDAL SEGNO",
  "1D10Ar CAPOpSEGNOpCODApREPEATED FIGURE-1zg2zg3pFERMATAw BELOWpBREATH MARKpCAESURApBRACEtKET",
  "1D116pONE-LINE STAFFpTWO-LINE STAFFqHREE-LINE STAFFpFOUR-LINE STAFFqIVE-LINE STAFF",
  "1D11BpSIX-LINE STAFFtSTRING FRETBOARDpFOUR-STRING FRETBOARDpG CLEFv OTTAVA ALTAzeBASSApC CLEF",
  "1D122pF CLEFv OTTAVA ALTAzeBASSApDRUM CLEF-1z2",
  "1D129pMULTIPLE MEASURE RESTpDOUBLE SHARPwFLATpFLAT UPuDOWNpNATURAL UPxDOWNpSHARP UPvDOWN",
  "1D132pQUARTER TONE SHARPzdFLATpCOMMON TIMEqUT TIMEpOTTAVA ALTAwBASSApQUINDICESIMA ALTAzdBASSA",
  "1D13ApMULTI RESTpWHOLE RESTpHALF RESTpQUARTER RESTpEIGHTH RESTpSIXTEENTH REST",
  "1D140pTHIRTY-SECOND RESTpSIXTY-FOURTH RESTpONE HUNDRED TWENTY-EIGHTH RESTpX NOTEHEAD",
  "1D144pPLUS NOTEHEADpCIRCLE X NOTEHEADpSQUARE NOTEHEAD WHITEzgBLACKpTRIANGLE NOTEHEAD UP WHITE",
  "1D149zlBLACKziLEFT WHITEznBLACKziRIGHT WHITEzoBLACKziDOWN WHITEznBLACKziUP RIGHT WHITEzrBLACK",
  "1D152pMOON NOTEHEAD WHITEzeBLACKpTRIANGLE-ROUND NOTEHEAD DOWN WHITEztBLACK",
  "1D156pPARENTHESIS NOTEHEADpVOID NOTEHEADpNOTEHEAD BLACKqULL NOTEHEADpCLUSTER NOTEHEAD WHITE",
  "1D15BzhBLACKpBREVEpWHOLE NOTEpHALF NOTEpQUARTER NOTEpEIGHTH NOTEpSIXTEENTH NOTE",
  "1D162pTHIRTY-SECOND NOTEpSIXTY-FOURTH NOTEpONE HUNDRED TWENTY-EIGHTH NOTEpCOMBINING STEM",
  "1D166zbPRECHGESANG STEMzTREMOLO-1zi2zi3pFINGERED TREMOLO-1zh2zh3pCOMBINING AUGMENTATION DOT",
  "1D16EzFLAG-1zf2zf3zf4zf5pBEGIN BEAMpEND BEAMpBEGIN TIEpEND TIEpBEGIN SLURpEND SLUR",
  "1D179pBEGIN PHRASEpEND PHRASEpCOMBINING ACCENTzSTACCATOzTENUTOzSTACCATISSIMOzMARCATO",
  "1D180zh-STACCATOzACCENT-STACCATOzLOUREpARPEGGIATO UPzbDOWNpCOMBINING DOITzRIPzFLIPzSMEARzBEND",
  "1D18AzDOUBLE TONGUEzTRIPLE TONGUEpRINFORZANDOpSUBITOpZpPIANOpMEZZOpFORTEpCRESCENDOpDECRESCENDO",
  "1D194pGRACE NOTE SLASHzbNO SLASHpTRqURNpINVERTED TURNpTURN SLASHuUPpORNAMENT STROKE-1zg2zg3zg4",
  "1D19Fzg5zg6zg7zg8zg9zg10zh1pHAUPTSTIMMEpNEBENSTIMMEpEND OF STIMMEpDEGREE SLASH",
  "1D1AApCOMBINING DOWN BOWzUP BOWzHARMONICzSNAP PIZZICATOpPEDAL MARKvUP MARKpHALF PEDAL MARK",
  "1D1B1pGLISSANDO UPzDOWNpWITH FINGERNAILSpDAMPt ALLpMAXIMApLONGApBREVISpSEMIBREVIS WHITEzbBLACK",
  "1D1BBpMINIMAv BLACKpSEMIMINIMA WHITEzbBLACKpFUSA WHITEuBLACKpLONGA PERFECTA REST",
  "1D1C2vIMPERFECTA RESTpBREVIS RESTpSEMIBREVIS RESTpMINIMA RESTpSEMIMINIMA REST",
  "1D1C7pTEMPUS PERFECTUM CUM PROLATIONE PERFECTAzwIMPERFECTAzwPERFECTA DIMINUTION-1",
  "1D1CAwIMPERFECTUM CUM PROLATIONE PERFECTAzyIMPERFECTAzzj DIMINUTION-1zzv2zzv3pCROIX",
  "1D1D0pGREGORIAN C CLEFzF CLEFpSQUARE BpVIRGApPODATUSpCLIVISpSCANDICUSpCLIMACUSpTORCULUS",
  "1D1D9pPORRECTUSy FLEXUSpSCANDICUS FLEXUSpTORCULUS RESUPINUSpPES SUBPUNCTISpKIEVAN C CLEF",
  "1D1DFwEND OF PIECEwFINAL NOTEwRECITATIVE MARKwWHOLE NOTEwHALF NOTEwQUARTER NOTE STEM DOWNzpUP",
  "1D1E6wEIGHTH NOTE STEM DOWNzoUPwFLAT SIGNpSORIpKORON",
  "1D200aGREEK VOCAL NOTATION SYMBOL-1zd2zd3zd4zd5zd6zd7zd8zd9zd10ze1ze2ze3ze4ze5ze6ze7ze8ze9zd20",
  "1D214ze1ze2ze3ze4zd50ze1ze2ze3ze4gINSTRUMENTAL NOTATION SYMBOL-1zk2zk4zk5zk7zk8zk11zl2zl3zl4",
  "1D227zl7zl8zl9zk23zl4zl5zl6zl7zl9zk30zl2zl6zl7zl8zl9zk40zl2zl3zl5zl7zl8zl9zk50zl1zl2zl3zl4",
  "1D242aCOMBINING GREEK MUSICAL TRISEMEzETRASEMEyPENTASEMEaGREEK MUSICAL LEIMMA",
  "1D2E0aMAYAN NUMERAL ZEROoONEoTWOpHREEoFOURpIVEoSIXpEVENoEIGHToNINEoTENoELEVENoTWELVEpHIRTEEN",
  "1D2EEoFOURTEENpIFTEENoSIXTEENpEVENTEENoEIGHTEENoNINETEEN",
  "1D300bONOGRAM FOR EARTHaDIGRAM FOR HEAVENLY EARTHmUMAN EARTHlEARTHLY HEAVENuUMANpH",
  "1D306aTETRAGRAM FOR CENTREoFULL CIRCLEoMIREDoBARRIERoKEEPING SMALLoCONTRARIETYoASCENT",
  "1D30DoOPPOSITIONoBRANCHING OUToDEFECTIVENESS OR DISTORTIONpIVERGENCEoYOUTHFULNESSoINCREASE",
  "1D313oPENETRATIONoREACHoCONTACToHOLDING BACKoWAITINGoFOLLOWINGoADVANCEoRELEASEqSISTANCEoEASE",
  "1D31DoJOYoCONTENTIONoENDEAVOURoDUTIESoCHANGEoDECISIVENESSoBOLD RESOLUTIONoPACKINGoLEGION",
  "1D326oCLOSENESSoKINSHIPoGATHERINGoSTRENGTHoPURITYoFULLNESSoRESIDENCEoLAW OR MODELoRESPONSE",
  "1D32FoGOING TO MEEToENCOUNTERSoSTOVEoGREATNESSoENLARGEMENToPATTERNoRITUALoFLIGHT",
  "1D337oVASTNESS OR WASTINGoCONSTANCYoMEASUREoETERNITYoUNITYoDIMINISHMENToCLOSED MOUTH",
  "1D33EoGUARDEDNESSpATHERING INoMASSINGoACCUMULATIONoEMBELLISHMENToDOUBToWATCHoSINKINGoINNER",
  "1D347oDEPARTUREpARKENINGpIMMINGoEXHAUSTIONoSEVERANCEpTOPPAGEoHARDNESSoCOMPLETIONpLOSURE",
  "1D350oFAILUREoAGGRAVATIONoCOMPLIANCEoON THE VERGEoDIFFICULTIESoLABOURINGoFOSTERING",
  "1D360aCOUNTING ROD UNIT DIGIT ONEyTWOzHREEyFOURzIVEySIXzEVENyEIGHTyNINEnTENS DIGIT ONEyTWO",
  "1D36BzHREEyFOURzIVEySIXzEVENyEIGHTyNINEaIDEOGRAPHIC TALLY MARK ONExTWOyHREExFOURyIVE",
  "1D377aTALLY MARK ONElFIVE",
  "1D400aMATHEMATICAL BOLD CAPITAL AzbBzbCzbDzbEzbFzbGzbHzbIzbJzbKzbLzbMzbNzbOzbPzbQzbRzbSzbTzbU",
  "1D415zbVzbWzbXzbYzbZsSMALL AyByCyDyEyFyGyHyIyJyKyLyMyNyOyPyQyRySyTyUyVyWyXyYyZ",
  "1D434nITALIC CAPITAL AzdBzdCzdDzdEzdFzdGzdHzdIzdJzdKzdLzdMzdNzdOzdPzdQzdRzdSzdTzdUzdVzdWzdXzdY",
  "1D44DzdZuSMALL AzbBzbCzbDzbEzbFzbG",
  "1D456zbIzbJzbKzbLzbMzbNzbOzbPzbQzbRzbSzbTzbUzbVzbWzbXzbYzbZnBOLD ITALIC CAPITAL AziBziCziDziE",
  "1D46DziFziGziHziIziJziKziLziMziNziOziPziQziRziSziTziUziVziWziXziYziZzSMALL AzgBzgCzgDzgEzgFzgG",
  "1D489zgHzgIzgJzgKzgLzgMzgNzgOzgPzgQzgRzgSzgTzgUzgVzgWzgXzgYzgZnSCRIPT CAPITAL A",
  "1D49EzdCzdD",
  "1D4A2zdG",
  "1D4A5zdJzdK",
  "1D4A9zdNzdOzdPzdQ",
  "1D4AEzdSzdTzdUzdVzdWzdXzdYzdZuSMALL AzbBzbCzbD",
  "1D4BBzbF",
  "1D4BDzbHzbIzbJzbKzbLzbMzbN",
  "1D4C5zbPzbQzbRzbSzbTzbUzbVzbWzbXzbYzbZnBOLD SCRIPT CAPITAL AziBziCziDziEziFziGziHziIziJziKziL",
  "1D4DCziMziNziOziPziQziRziSziTziUziVziWziXziYziZzSMALL AzgBzgCzgDzgEzgFzgGzgHzgIzgJzgKzgLzgMzgN",
  "1D4F8zgOzgPzgQzgRzgSzgTzgUzgVzgWzgXzgYzgZnFRAKTUR CAPITAL AzeB",
  "1D507zeDzeEzeFzeG",
  "1D50DzeJzeKzeLzeMzeNzeOzePzeQ",
  "1D516zeSzeTzeUzeVzeWzeXzeY",
  "1D51EvSMALL AzcBzcCzcDzcEzcFzcGzcHzcIzcJzcKzcLzcMzcNzcOzcPzcQzcRzcSzcTzcUzcVzcWzcXzcYzcZ",
  "1D538nDOUBLE-STRUCK CAPITAL AzkB",
  "1D53BzkDzkEzkFzkG",
  "1D540zkIzkJzkKzkLzkM",
  "1D546zkO",
  "1D54AzkSzkTzkUzkVzkWzkXzkY",
  "1D552zcSMALL AziBziCziDziEziFziGziHziIziJziKziLziMziNziOziPziQziRziSziTziUziVziWziXziYziZ",
  "1D56CnBOLD FRAKTUR CAPITAL AzjBzjCzjDzjEzjFzjGzjHzjIzjJzjKzjLzjMzjNzjOzjPzjQzjRzjSzjTzjUzjVzjW",
  "1D583zjXzjYzjZzbSMALL AzhBzhCzhDzhEzhFzhGzhHzhIzhJzhKzhLzhMzhNzhOzhPzhQzhRzhSzhTzhUzhVzhWzhX",
  "1D59EzhYzhZnSANS-SERIF CAPITAL AzhBzhCzhDzhEzhFzhGzhHzhIzhJzhKzhLzhMzhNzhOzhPzhQzhRzhSzhTzhU",
  "1D5B5zhVzhWzhXzhYzhZySMALL AzfBzfCzfDzfEzfFzfGzfHzfIzfJzfKzfLzfMzfNzfOzfPzfQzfRzfSzfTzfUzfVzfW",
  "1D5D1zfXzfYzfZyBOLD CAPITAL AzmBzmCzmDzmEzmFzmGzmHzmIzmJzmKzmLzmMzmNzmOzmPzmQzmRzmSzmTzmUzmV",
  "1D5EAzmWzmXzmYzmZzeSMALL AzkBzkCzkDzkEzkFzkGzkHzkIzkJzkKzkLzkMzkNzkOzkPzkQzkRzkSzkTzkUzkVzkW",
  "1D605zkXzkYzkZyITALIC CAPITAL AzoBzoCzoDzoEzoFzoGzoHzoIzoJzoKzoLzoMzoNzoOzoPzoQzoRzoSzoTzoUzoV",
  "1D61EzoWzoXzoYzoZzgSMALL AzmBzmCzmDzmEzmFzmGzmHzmIzmJzmKzmLzmMzmNzmOzmPzmQzmRzmSzmTzmUzmVzmW",
  "1D639zmXzmYzmZyBOLD ITALIC CAPITAL AztBztCztDztEztFztGztHztIztJztKztLztMztNztOztPztQztRztSztT",
  "1D650ztUztVztWztXztYztZzlSMALL AzrBzrCzrDzrEzrFzrGzrHzrIzrJzrKzrLzrMzrNzrOzrPzrQzrRzrSzrTzrU",
  "1D66BzrVzrWzrXzrYzrZnMONOSPACE CAPITAL AzgBzgCzgDzgEzgFzgGzgHzgIzgJzgKzgLzgMzgNzgOzgPzgQzgRzgS",
  "1D683zgTzgUzgVzgWzgXzgYzgZxSMALL AzeBzeCzeDzeEzeFzeGzeHzeIzeJzeKzeLzeMzeNzeOzePzeQzeRzeSzeTzeU",
  "1D69FzeVzeWzeXzeYzeZnITALIC SMALL DOTLESS IzjJ",
  "1D6A8nBOLD CAPITAL ALPHAzbBETAzbGAMMAzbDELTAzbEPSILONzbZETAzbETAzbTHETAzbIOTAzbKAPPAzbLAMDA",
  "1D6B3zbMUzbNUzbXIzbOMICRONzbPIzbRHOzbTHETA SYMBOLzbSIGMAzbTAUzbUPSILONzbPHIzbCHIzbPSIzbOMEGA",
  "1D6C1sNABLAsSMALL ALPHAyBETAyGAMMAyDELTAyEPSILONyZETAyETAyTHETAyIOTAyKAPPAyLAMDAyMUyNUyXI",
  "1D6D0yOMICRONyPIyRHOyFINAL SIGMAySIGMAyTAUyUPSILONyPHIyCHIyPSIyOMEGAsPARTIAL DIFFERENTIAL",
  "1D6DCsEPSILON SYMBOLsTHETA SYMBOLsKAPPA SYMBOLsPHI SYMBOLsRHO SYMBOLsPI SYMBOL",
  "1D6E2nITALIC CAPITAL ALPHAzdBETAzdGAMMAzdDELTAzdEPSILONzdZETAzdETAzdTHETAzdIOTAzdKAPPAzdLAMDA",
  "1D6EDzdMUzdNUzdXIzdOMICRONzdPIzdRHOzdTHETA SYMBOLzdSIGMAzdTAUzdUPSILONzdPHIzdCHIzdPSIzdOMEGA",
  "1D6FBuNABLAuSMALL ALPHAzbBETAzbGAMMAzbDELTAzbEPSILONzbZETAzbETAzbTHETAzbIOTAzbKAPPAzbLAMDAzbMU",
  "1D708zbNUzbXIzbOMICRONzbPIzbRHOzbFINAL SIGMAzbSIGMAzbTAUzbUPSILONzbPHIzbCHIzbPSIzbOMEGA",
  "1D715uPARTIAL DIFFERENTIALuEPSILON SYMBOLuTHETA SYMBOLuKAPPA SYMBOLuPHI SYMBOLuRHO SYMBOL",
  "1D71BuPI SYMBOLnBOLD ITALIC CAPITAL ALPHAziBETAziGAMMAziDELTAziEPSILONziZETAziETAziTHETAziIOTA",
  "1D725ziKAPPAziLAMDAziMUziNUziXIziOMICRONziPIziRHOziTHETA SYMBOLziSIGMAziTAUziUPSILONziPHIziCHI",
  "1D733ziPSIziOMEGAzNABLAzSMALL ALPHAzgBETAzgGAMMAzgDELTAzgEPSILONzgZETAzgETAzgTHETAzgIOTA",
  "1D73FzgKAPPAzgLAMDAzgMUzgNUzgXIzgOMICRONzgPIzgRHOzgFINAL SIGMAzgSIGMAzgTAUzgUPSILONzgPHIzgCHI",
  "1D74DzgPSIzgOMEGAzPARTIAL DIFFERENTIALzEPSILON SYMBOLzTHETA SYMBOLzKAPPA SYMBOLzPHI SYMBOL",
  "1D754zRHO SYMBOLzPI SYMBOLnSANS-SERIF BOLD CAPITAL ALPHAzmBETAzmGAMMAzmDELTAzmEPSILONzmZETA",
  "1D75CzmETAzmTHETAzmIOTAzmKAPPAzmLAMDAzmMUzmNUzmXIzmOMICRONzmPIzmRHOzmTHETA SYMBOLzmSIGMAzmTAU",
  "1D76AzmUPSILONzmPHIzmCHIzmPSIzmOMEGAzeNABLAzeSMALL ALPHAzkBETAzkGAMMAzkDELTAzkEPSILONzkZETA",
  "1D776zkETAzkTHETAzkIOTAzkKAPPAzkLAMDAzkMUzkNUzkXIzkOMICRONzkPIzkRHOzkFINAL SIGMAzkSIGMAzkTAU",
  "1D784zkUPSILONzkPHIzkCHIzkPSIzkOMEGAzePARTIAL DIFFERENTIALzeEPSILON SYMBOLzeTHETA SYMBOL",
  "1D78CzeKAPPA SYMBOLzePHI SYMBOLzeRHO SYMBOLzePI SYMBOLzeITALIC CAPITAL ALPHAztBETAztGAMMA",
  "1D793ztDELTAztEPSILONztZETAztETAztTHETAztIOTAztKAPPAztLAMDAztMUztNUztXIztOMICRONztPIztRHO",
  "1D7A1ztTHETA SYMBOLztSIGMAztTAUztUPSILONztPHIztCHIztPSIztOMEGAzlNABLAzlSMALL ALPHAzrBETA",
  "1D7ACzrGAMMAzrDELTAzrEPSILONzrZETAzrETAzrTHETAzrIOTAzrKAPPAzrLAMDAzrMUzrNUzrXIzrOMICRONzrPI",
  "1D7BAzrRHOzrFINAL SIGMAzrSIGMAzrTAUzrUPSILONzrPHIzrCHIzrPSIzrOMEGAzlPARTIAL DIFFERENTIAL",
  "1D7C4zlEPSILON SYMBOLzlTHETA SYMBOLzlKAPPA SYMBOLzlPHI SYMBOLzlRHO SYMBOLzlPI SYMBOL",
  "1D7CAnBOLD CAPITAL DIGAMMAsSMALL DIGAMMA",
  "1D7CEsDIGIT ZEROyONEyTWOzHREEyFOURzIVEySIXzEVENyEIGHTyNINEnDOUBLE-STRUCK DIGIT ZEROziONEziTWO",
  "1D7DBzjHREEziFOURzjIVEziSIXzjEVENziEIGHTziNINEnSANS-SERIF DIGIT ZEROzfONEzfTWOzgHREEzfFOUR",
  "1D7E7zgIVEzfSIXzgEVENzfEIGHTzfNINEyBOLD DIGIT ZEROzkONEzkTWOzlHREEzkFOURzlIVEzkSIXzlEVEN",
  "1D7F4zkEIGHTzkNINEnMONOSPACE DIGIT ZEROzeONEzeTWOzfHREEzeFOURzfIVEzeSIXzfEVENzeEIGHTzeNINE",
  "1D800aSIGNWRITING HAND-FIST INDEXrCIRCLE INDEXsUP INDEXrOVAL INDEXrHINGE INDEXrANGLE INDEX",
  "1D806rFIST INDEX BENTrCIRCLE INDEX BENTrFIST THUMB UNDER INDEX BENTwINDEX RAISED KNUCKLE",
  "1D80AzdCUPPEDzdHINGEDzj LOWrCIRCLE INDEX HINGErFIST INDEX MIDDLErCIRCLE INDEX MIDDLE",
  "1D810rFIST INDEX MIDDLE BENTzkRAISED KNUCKLESzkHINGEDzdUP MIDDLE HINGEDzdHINGED MIDDLE UP",
  "1D815zdMIDDLE CONJOINEDzt INDEX BENTzuMIDDLE BENTzuCUPPEDzuHINGEDzlROSSED",
  "1D81BrCIRCLE INDEX MIDDLE CROSSEDrFIST MIDDLE BENT OVER INDEXwINDEX BENT OVER MIDDLE",
  "1D81EzdMIDDLE THUMBrCIRCLE INDEX MIDDLE THUMBrFIST INDEX MIDDLE STRAIGHT THUMB BENT",
  "1D821zkBENT THUMB STRAIGHTzkTHUMB BENTzkHINGED SPREAD THUMB SIDEzdUP MIDDLE HINGED THUMB SIDE",
  "1D825zzbCONJOINEDzdHINGED MIDDLE UP THUMB SIDEzdMIDDLE UP SPREAD THUMB FORWARDzkTHUMB CUPPED",
  "1D829zrIRCLEDzqHOOKEDzrINGEDwTHUMB BETWEEN INDEX MIDDLE STRAIGHT",
  "1D82DwINDEX MIDDLE CONJOINED THUMB SIDEzzf CONJOINEDzzgBENTwMIDDLE THUMB HOOKED INDEX UP",
  "1D831wINDEX THUMB HOOKED MIDDLE UPzdMIDDLE CONJOINED HINGED THUMB SIDEzlROSSED THUMB SIDE",
  "1D834zlONJOINED THUMB FORWARDzuCUPPED THUMB FORWARDwMIDDLE THUMB CUPPED INDEX UP",
  "1D837wINDEX THUMB CUPPED MIDDLE UPwMIDDLE THUMB CIRCLED INDEX UPzyHINGED",
  "1D83AwINDEX THUMB ANGLED OUT MIDDLE UPzqIN MIDDLE UPzjCIRCLED MIDDLE UP",
  "1D83DzdMIDDLE THUMB CONJOINED HINGEDzqANGLED OUTzvDwMIDDLE THUMB ANGLED OUT INDEX UPzzcCROSSED",
  "1D842zrINDEX UPwINDEX THUMB HOOKED MIDDLE HINGEDsLAT FOUR FINGERSzj BENTzkHINGEDzkCONJOINED",
  "1D848zt SPLITrCLAW FOUR FINGERS CONJOINEDrFIST FOUR FINGERS CONJOINED BENT",
  "1D84BrHINGE FOUR FINGERS CONJOINEDrFLAT FIVE FINGERS SPREADwHEEL FIVE FINGERS SPREAD",
  "1D84EwFIVE FINGERS SPREAD FOUR BENTwHEEL FIVE FINGERS SPREAD FOUR BENT",
  "1D850wFIVE FINGERS SPREAD BENTwHEEL FIVE FINGERS SPREAD BENTwFIVE FINGERS SPREAD THUMB FORWARD",
  "1D853rCUP FIVE FINGERS SPREADzp OPENrHINGE FIVE FINGERS SPREAD OPENrOVAL FIVE FINGERS SPREAD",
  "1D857rFLAT FIVE FINGERS SPREAD HINGEDzx THUMB SIDEzyNO THUMBuTv BETWEEN PALM FACINGSwHEEL",
  "1D85DwTHUMB SIDEwHEEL THUMB SIDEwTHUMB BENTzdFORWARDwSPLIT INDEX THUMB SIDEzdCENTRE",
  "1D863zj THUMB SIDEzu BENTzdLITTLErCLAWv THUMB SIDEwNO THUMBwTHUMB FORWARDrHOOK CURLICUEuK",
  "1D86CrCUP OPENtPu OPEN THUMB SIDEvTHUMB SIDEvOPEN NO THUMBvNO THUMBvOPEN THUMB FORWARD",
  "1D873vTHUMB FORWARDtRLICUE OPENyEsIRCLErOVALv THUMB SIDEwNO THUMBwTHUMB FORWARDrHINGE OPEN",
  "1D87Czc THUMB FORWARDvEw SMALLxOPEN THUMB SIDExTHUMB SIDExOPEN NO THUMBxNO THUMB",
  "1D883xTHUMB SIDE TOUCHING INDEXzeBETWEEN MIDDLE RINGrANGLErFIST INDEX MIDDLE RING",
  "1D887rCIRCLE INDEX MIDDLE RINGrHINGE INDEX MIDDLE RINGrANGLE INDEX MIDDLE RINGrHINGE LITTLE",
  "1D88BrFIST INDEX MIDDLE RING BENTzpCONJOINEDrHINGE INDEX MIDDLE RING CONJOINED",
  "1D88ErFIST LITTLE DOWNzi RIPPLE STRAIGHTzqCURVEDzjOTHERS CIRCLEDzeUPwTHUMB UNDER LITTLE UP",
  "1D894rCIRCLE LITTLE UPrOVAL LITTLE UPrANGLE LITTLE UPrFIST LITTLE RAISED KNUCKLEzeBENT",
  "1D899zeTOUCHES THUMBzfHUMBrHINGE LITTLE THUMBrFIST LITTLE INDEX THUMBrHINGE LITTLE INDEX THUMB",
  "1D89ErANGLE LITTLE INDEX THUMB INDEX THUMB OUTzzcBrFIST LITTLE INDEXrCIRCLE LITTLE INDEX",
  "1D8A2rHINGE LITTLE INDEXrANGLE LITTLE INDEXrFIST INDEX MIDDLE LITTLE",
  "1D8A5rCIRCLE INDEX MIDDLE LITTLErHINGE INDEX MIDDLE LITTLExRINGrANGLE INDEX MIDDLE LITTLE",
  "1D8A9rFIST INDEX MIDDLE CROSS LITTLErCIRCLE INDEX MIDDLE CROSS LITTLErFIST RING DOWN",
  "1D8ACrHINGE RING DOWN INDEX THUMB HOOK MIDDLErANGLE RING DOWN MIDDLE THUMB INDEX CROSS",
  "1D8AErFIST RING UPzcRAISED KNUCKLEzcLITTLErCIRCLE RING LITTLErOVAL RING LITTLE",
  "1D8B3rANGLE RING LITTLErFIST RING MIDDLEzi CONJOINEDzjRAISED KNUCKLESzcINDEXzcTHUMB",
  "1D8B9rHOOK RING THUMBrFIST INDEX RING LITTLErCIRCLE INDEX RING LITTLE",
  "1D8BCsURLICUE INDEX RING LITTLE ONrHOOK INDEX RING LITTLE OUTzpINzpUNDERrCUP INDEX RING LITTLE",
  "1D8C1rHINGE INDEX RING LITTLErANGLE INDEX RING LITTLE OUTzoErFIST MIDDLE DOWNrHINGE MIDDLE",
  "1D8C6rFIST MIDDLE UPrCIRCLE MIDDLE UPrFIST MIDDLE RAISED KNUCKLEzeUP THUMB SIDE",
  "1D8CArHOOK MIDDLE THUMBrFIST MIDDLE THUMB LITTLEzeLITTLEzeRING LITTLE",
  "1D8CErCIRCLE MIDDLE RING LITTLEsURLICUE MIDDLE RING LITTLE ONtP MIDDLE RING LITTLE",
  "1D8D1rHINGE MIDDLE RING LITTLErANGLE MIDDLE RING LITTLE OUTzrINzpE",
  "1D8D5rCIRCLE MIDDLE RING LITTLE BENTsLAW MIDDLE RING LITTLE CONJOINEDzz SIDE",
  "1D8D8rHOOK MIDDLE RING LITTLE CONJOINED OUTzzbINzyDsINGE INDEX HINGEDrFIST INDEX THUMB SIDE",
  "1D8DDrHINGE INDEX THUMB SIDErFIST INDEX THUMB SIDE THUMB DIAGONALzuCONJOINEDzuBENTzoINDEX BENT",
  "1D8E2zoBOTH BENTzoINDEX HINGEzjFORWARD INDEX STRAIGHTzxBENTzjHOOKzjCURLICUEzmVE THUMB INSIDE",
  "1D8E9rCLAW INDEX THUMB CURVE THUMB INSIDErFIST INDEX THUMB CURVE THUMB UNDERzkIRCLE",
  "1D8ECrCUP INDEX THUMBzh OPENrHINGE INDEX THUMB OPENzkLARGEziBzj SMALLrANGLE INDEX THUMB OUT",
  "1D8F3zkINziBrFIST THUMBzc HEELzdSIDE DIAGONALziCONJOINEDziBENTzdFORWARDzdBETWEEN INDEX MIDDLE",
  "1D8FCzlMIDDLE RINGzlRING LITTLEzdUNDER TWO FINGERSzdOVER TWO FINGERSzdUNDER THREE FINGERS",
  "1D901zjFOUR FINGERSzdOVER FOUR RAISED KNUCKLESuTv HEELmTOUCH SINGLEsMULTIPLEsBETWEEN",
  "1D908mGRASP SINGLEsMULTIPLEsBETWEENmSTRIKE SINGLEtMULTIPLEtBETWEENmBRUSH SINGLEsMULTIPLE",
  "1D910sBETWEENmRUB SINGLEqMULTIPLEqBETWEENmSURFACE SYMBOLSuBETWEENnQUEEZE LARGE SINGLE",
  "1D917uSMALL SINGLEuLARGE MULTIPLEuSMALL MULTIPLEvEQUENTIALmFLICK LARGE SINGLEsSMALL SINGLE",
  "1D91DsLARGE MULTIPLEsSMALL MULTIPLEtEQUENTIALmSQUEEZE FLICK ALTERNATING",
  "1D921mMOVEMENT-HINGE UP DOWN LARGEzkSMALLzfSEQUENTIALzcDOWN SEQUENTIAL",
  "1D925zcUP DOWN ALTERNATING LARGEzwSMALLzcSIDE TO SIDE SCISSORSvWALLPLANE FINGER CONTACT",
  "1D929vFLOORPLANE FINGER CONTACTvWALLPLANE SINGLE STRAIGHT SMALLzwMEDIUMzwLARGEzzcST",
  "1D92EznWRIST FLEXzgDOUBLE STRAIGHTznWRIST FLEXznALTERNATINGzy WRIST FLEXzgCROSS",
  "1D934zgTRIPLE STRAIGHT MOVEMENTznWRIST FLEXznALTERNATINGzy WRIST FLEXzgBEND SMALLzlMEDIUM",
  "1D93AzlLARGEzgCORNER SMALLznMEDIUMznLARGEznROTATIONzhHECK SMALLzmMEDIUMzmLARGEzgBOX SMALL",
  "1D943zkMEDIUMzkLARGEzgZIGZAG SMALLznMEDIUMznLARGEzgPEAKS SMALLzmMEDIUMzmLARGE",
  "1D94BmTRAVEL-WALLPLANE ROTATION-WALLPLANE SINGLEzxDOUBLEzxALTERNATINGznFLOORPLANE SINGLE",
  "1D94FzyDOUBLEzyALTERNATINGzeSHAKINGzeARM SPIRAL SINGLEzpDOUBLEzpTRIPLE",
  "1D955mMOVEMENT-DIAGONAL AWAY SMALLzkMEDIUMzkLARGEzpSTzfTOWARDS SMALLznMEDIUMznLARGEzsST",
  "1D95DzfBETWEEN AWAY SMALLzsMEDIUMzsLARGEzxSTznTOWARDS SMALLzvMEDIUMzvLARGEzzbST",
  "1D965vFLOORPLANE SINGLE STRAIGHT SMALLzxMEDIUMzxLARGEzzdSTzoWRIST FLEXzhDOUBLE STRAIGHT",
  "1D96BzoWRIST FLEXzoALTERNATINGzz WRIST FLEXzhCROSSzhTRIPLE STRAIGHT MOVEMENTzoWRIST FLEX",
  "1D971zoALTERNATING MOVEMENTzzbWRIST FLEXzhBENDzhCORNER SMALLzoMEDIUMzoLARGEziHECKzhBOX SMALL",
  "1D979zlMEDIUMzlLARGEzhZIGZAG SMALLzoMEDIUMzoLARGEzhPEAKS SMALLznMEDIUMznLARGE",
  "1D981mTRAVEL-FLOORPLANE ROTATION-FLOORPLANE SINGLEzzDOUBLEzzALTERNATINGzoWALLPLANE SINGLE",
  "1D985zyDOUBLEzyALTERNATINGzfSHAKINGmMOVEMENT-WALLPLANE CURVE QUARTER SMALLzuMEDIUMzuLARGEzzST",
  "1D98CzmHALF-CIRCLE SMALLzyMEDIUMzyLARGEzzeSTzmTHREE-QUARTER CIRCLE SMALLzziMEDIUMzgHUMP SMALL",
  "1D993zlMEDIUMzlLARGEzgLOOP SMALLzlMEDIUMzlLARGEzlSMALL DOUBLEzgWAVE CURVE DOUBLE SMALLzyMEDIUM",
  "1D99BzyLARGEzrTRIPLE SMALLzyMEDIUMzyLARGEzgCURVE THEN STRAIGHTzlD CROSS SMALLztMEDIUM",
  "1D9A2mROTATION-WALLPLANE SINGLEzgDOUBLEzgALTERNATEmMOVEMENT-WALLPLANE SHAKING",
  "1D9A6zgCURVE HITTING FRONT WALLzgHUMP HITTING FRONT WALLzgLOOP HITTING FRONT WALL",
  "1D9A9zgWAVE HITTING FRONT WALLmROTATION-WALLPLANE SINGLE HITTING FRONT WALL",
  "1D9ABzgDOUBLE HITTING FRONT WALLzgALTERNATING HITTING FRONT WALL",
  "1D9ADmMOVEMENT-WALLPLANE CURVE HITTING CHESTzgHUMP HITTING CHESTzgLOOP HITTING CHEST",
  "1D9B0zgWAVE HITTING CHESTmROTATION-WALLPLANE SINGLE HITTING CHESTzgDOUBLE HITTING CHEST",
  "1D9B3zgALTERNATING HITTING CHESTmMOVEMENT-WALLPLANE WAVE DIAGONAL PATH SMALLzzMEDIUMzzLARGE",
  "1D9B7vFLOORPLANE CURVE HITTING CEILING SMALLzzeLARGEzhHUMP HITTING CEILING SMALL DOUBLE",
  "1D9BAzzdLARGE DOUBLEzzdSMALL TRIPLEzzdLARGE TRIPLEzhLOOP HITTING CEILING SMALL SINGLE",
  "1D9BEzzdLARGE SINGLEzzdSMALL DOUBLEzzdLARGE DOUBLEzhWAVE HITTING CEILING SMALLzzdLARGE",
  "1D9C3mROTATION-FLOORPLANE SINGLE HITTING CEILINGzhDOUBLE HITTING CEILING",
  "1D9C5zhALTERNATING HITTING CEILINGmMOVEMENT-FLOORPLANE CURVE HITTING FLOOR SMALLzzcLARGE",
  "1D9C8zhHUMP HITTING FLOOR SMALL DOUBLEzzbLARGE DOUBLEzzbTRIPLE SMALL TRIPLEzziLARGE TRIPLE",
  "1D9CCzhLOOP HITTING FLOOR SMALL SINGLEzzbLARGE SINGLEzzbSMALL DOUBLEzzbLARGE DOUBLE",
  "1D9D0zhWAVE HITTING FLOOR SMALLzzbLARGEmROTATION-FLOORPLANE SINGLE HITTING FLOOR",
  "1D9D3zhDOUBLE HITTING FLOORzhALTERNATING HITTING FLOORmMOVEMENT-FLOORPLANE CURVE SMALLznMEDIUM",
  "1D9D7znLARGEzsSTznCOMBINEDzhHUMP SMALLzhLOOP SMALLzhWAVE SNAKEznMALLzmLARGE",
  "1D9DFmROTATION-FLOORPLANE SINGLEzhDOUBLEzhALTERNATINGmMOVEMENT-FLOORPLANE SHAKING PARALLEL",
  "1D9E3vWALLPLANE ARM CIRCLE SMALL SINGLEzrMEDIUM SINGLEzrSMALL DOUBLEzrMEDIUM DOUBLE",
  "1D9E7vFLOORPLANE ARM CIRCLE HITTING WALL SMALL SINGLEzzgMEDIUM SINGLEzzgLARGE SINGLE",
  "1D9EAzzgSMALL DOUBLEzzgMEDIUM DOUBLEzzgLARGE DOUBLEvWALLPLANE WRIST CIRCLE FRONT SINGLE",
  "1D9EEzzDOUBLEvFLOORPLANE WRIST CIRCLE HITTING WALL SINGLEzziDOUBLE",
  "1D9F1vWALLPLANE FINGER CIRCLES SINGLEzvDOUBLEvFLOORPLANE FINGER CIRCLES HITTING WALL SINGLE",
  "1D9F4zzkDOUBLEmDYNAMIC ARROWHEAD SMALLzfLARGEuFASTuSLOWuTENSEuRELAXEDuSIMULTANEOUS",
  "1D9FCzh ALTERNATINGuEVERY OTHER TIMEuGRADUALmHEADq RIMrMOVEMENT-WALLPLANE STRAIGHTzlTILT",
  "1DA03zbFLOORPLANE STRAIGHTzbWALLPLANE CURVEzbFLOORPLANE CURVEz CIRCLE",
  "1DA07mFACE DIRECTION POSITION NOSE FORWARD TILTINGzqUP OR DOWNzzb TILTINGmEYEBROWS STRAIGHT UP",
  "1DA0BzfNEUTRALzfDOWNmDREAMY EYEBROWS NEUTRAL DOWNzdDOWN NEUTRALzdUP NEUTRALzdNEUTRAL UP",
  "1DA11mFOREHEAD NEUTRALvCONTACTvWRINKLEDmEYES OPENrSQUEEZEDrCLOSEDp BLINK SINGLEwMULTIPLE",
  "1DA19pS HALF OPENrWIDE OPENrHALF CLOSEDrWIDENING MOVEMENTp WINKpLASHES UPwDOWNwFLUTTERING",
  "1DA21pGAZE-WALLPLANE STRAIGHTzn DOUBLEzoALTERNATINGuFLOORPLANE STRAIGHTzo DOUBLEzpALTERNATING",
  "1DA27uWALLPLANE CURVEDuFLOORPLANE CURVEDuWALLPLANE CIRCLINGmCHEEKS PUFFEDtNEUTRALtSUCKED",
  "1DA2DmTENSE CHEEKS HIGHzMIDDLEzLOWmEARSmNOSE NEUTRALrCONTACTrWRINKLESsIGGLESmAIR BLOWING OUT",
  "1DA36qSUCKING INqBLOW SMALL ROTATIONSqSUCK SMALL ROTATIONSmBREATH INHALEtEXHALE",
  "1DA3BmMOUTH CLOSED NEUTRALzFORWARDzCONTACTsSMILEx WRINKLEDyOPENsFROWNx WRINKLEDyOPEN",
  "1DA44sOPEN CIRCLExFORWARDxWRINKLEDxOVALzc WRINKLEDzdYAWNxRECTANGLEzh WRINKLEDziYAWNsKISS",
  "1DA4Ew FORWARDxWRINKLEDsTENSEx FORWARDySUCKEDmLIPS PRESSED TOGETHERp LOWER OVER UPPER",
  "1DA55qUPPER OVER LOWERmMOUTH CORNERSsWRINKLES SINGLEzcDOUBLEmTONGUE STICKING OUT FAR",
  "1DA5AtLICKING LIPStTIP BETWEEN LIPSxTOUCHING INSIDE MOUTHtINSIDE MOUTH RELAXED",
  "1DA5EtMOVES AGAINST CHEEKtCENTRE STICKING OUTzbINSIDE MOUTHnEETHr MOVEMENTsON TONGUE",
  "1DA64zc MOVEMENTvLIPSz MOVEMENTsBITE LIPSmMOVEMENT-WALLPLANE JAWvFLOORPLANE JAWmNECKmHAIR",
  "1DA6CmEXCITEMENTmSHOULDER HIP SPINEzPOSITIONSmWALLPLANE SHOULDER HIP MOVE",
  "1DA70mFLOORPLANE SHOULDER HIP MOVEmSHOULDER TILTING FROM WAIST",
  "1DA72mTORSO-WALLPLANE STRAIGHT STRETCHzdCURVED BENDsFLOORPLANE TWISTING",
  "1DA75mUPPER BODY TILTING FROM HIP JOINTSmLIMB COMBINATIONrLENGTH-1y2y3y4y5y6y7mFINGER",
  "1DA7FmLOCATION-WALLPLANE SPACEvFLOORPLANE SPACEu HEIGHTvWIDTHvDEPTHvHEAD NECKvTORSO",
  "1DA86vLIMBS DIGITSmCOMMAmFULL STOPmSEMICOLONmCOLONmPARENTHESIS",
  "1DA9BmFILL MODIFIER-2zb3zb4zb5zb6",
  "1DAA1mROTATION MODIFIER-2zf3zf4zf5zf6zf7zf8zf9zf10zg1zg2zg3zg4zg5zg6",
  "1DF00aLATIN SMALL LETTER FENG DIGRAPH WITH TRILLtREVERSED SCRIPT G",
  "1DF02gLETTER SMALL CAPITAL TURNED GgSMALL LETTER REVERSED KgLETTER SMALL CAPITAL L WITH BELT",
  "1DF05gSMALL LETTER LEZH WITH RETROFLEX HOOKtTURNED Y WITH BELTtREVERSED ENG",
  "1DF08tTURNED R WITH LONG LEG AND RETROFLEX HOOKu WITH HOOK AND RETROFLEX HOOK",
  "1DF0AgLETTER RETROFLEX CLICK WITH RETROFLEX HOOKgSMALL LETTER ESH WITH DOUBLE BARzn AND CURL",
  "1DF0DtTURNED T WITH CURLgLETTER INVERTED GLOTTAL STOP WITH CURLnSTRETCHED C WITH CURL",
  "1DF10oMALL CAPITAL TURNED KgSMALL LETTER L WITH FISHHOOKtDEZH DIGRAPH WITH PALATAL HOOK",
  "1DF13tL WITH BELT AND PALATAL HOOKtENG WITH PALATAL HOOKtTURNED R WITH PALATAL HOOK",
  "1DF16tR WITH FISHHOOK AND PALATAL HOOKtTESH DIGRAPH WITH PALATAL HOOKtEZH WITH PALATAL HOOK",
  "1DF19tDEZH DIGRAPH WITH RETROFLEX HOOKtI WITH STROKE AND RETROFLEX HOOKtO WITH RETROFLEX HOOK",
  "1DF1CtTESH DIGRAPH WITH RETROFLEX HOOKtC WITH RETROFLEX HOOKtS WITH CURL"]

end ModuleBridge.Text
