/-!
# Names of characters from U+3000 to U+FFFF: the scripts of East Asia, and forms of letters
-/

namespace ModuleBridge.Text

/-- Lines of names. -/
def eastAsianNames : List String := [
  "3000aIDEOGRAPHIC SPACEmCOMMAmFULL STOPaDITTO MARKaJAPANESE INDUSTRIAL STANDARD SYMBOL",
  "3005aIDEOGRAPHIC ITERATION MARKmCLOSING MARKmNUMBER ZEROaLEFT ANGLE BRACKET",
  "3009aRIGHT ANGLE BRACKETaLEFT DOUBLE ANGLE BRACKETaRIGHT DOUBLE ANGLE BRACKET",
  "300CaLEFT CORNER BRACKETaRIGHT CORNER BRACKETaLEFT WHITE CORNER BRACKET",
  "300FaRIGHT WHITE CORNER BRACKETaLEFT BLACK LENTICULAR BRACKETaRIGHT BLACK LENTICULAR BRACKET",
  "3012aPOSTAL MARKaGETA MARKaLEFT TORTOISE SHELL BRACKETaRIGHT TORTOISE SHELL BRACKET",
  "3016aLEFT WHITE LENTICULAR BRACKETaRIGHT WHITE LENTICULAR BRACKET",
  "3018aLEFT WHITE TORTOISE SHELL BRACKETaRIGHT WHITE TORTOISE SHELL BRACKET",
  "301AaLEFT WHITE SQUARE BRACKETaRIGHT WHITE SQUARE BRACKETaWAVE DASH",
  "301DaREVERSED DOUBLE PRIME QUOTATION MARKaDOUBLE PRIME QUOTATION MARK",
  "301FaLOW DOUBLE PRIME QUOTATION MARKaPOSTAL MARK FACEaHANGZHOU NUMERAL ONErTWOsHREErFOURsIVE",
  "3026rSIXsEVENrEIGHTrNINEaIDEOGRAPHIC LEVEL TONE MARKmRISING TONE MARKmDEPARTING TONE MARK",
  "302DmENTERING TONE MARKaHANGUL SINGLE DOT TONE MARKhDOUBLE DOT TONE MARKaWAVY DASH",
  "3031aVERTICAL KANA REPEAT MARKvWITH VOICED SOUND MARKvMARK UPPER HALF",
  "3034vWITH VOICED SOUND MARK UPPER HALFvMARK LOWER HALFaCIRCLED POSTAL MARK",
  "3037aIDEOGRAPHIC TELEGRAPH LINE FEED SEPARATOR SYMBOLaHANGZHOU NUMERAL TENsWENTYsHIRTY",
  "303BaVERTICAL IDEOGRAPHIC ITERATION MARKaMASU MARKaPART ALTERNATION MARK",
  "303EaIDEOGRAPHIC VARIATION INDICATORmHALF FILL SPACE",
  "3041aHIRAGANA LETTER SMALL AqAqSMALL IqIqSMALL UqUqSMALL EqEqSMALL OqOqKAqGAqKIqGIqKUqGUqKEqGE",
  "3053qKOqGOqSAqZAqSIqZIqSUqZUqSEqZEqSOqZOqTAqDAqTIqDIqSMALL TUqTUqDUqTEqDEqTOqDOqNArIrUrErOqHA",
  "3070qBAqPAqHIqBIqPIqHUqBUqPUqHEqBEqPEqHOqBOqPOqMArIrUrErOqSMALL YAqYAqSMALL YUqYUqSMALL YOqYO",
  "3089qRArIrUrErOqSMALL WAqWArIrErOqNqVUqSMALL KAxE",
  "3099aCOMBINING KATAKANA-HIRAGANA VOICED SOUND MARKzdSEMI-VOICED SOUND MARK",
  "309BaKATAKANA-HIRAGANA VOICED SOUND MARKsSEMI-VOICED SOUND MARKaHIRAGANA ITERATION MARK",
  "309EjVOICED ITERATION MARKjDIGRAPH YORIaKATAKANA-HIRAGANA DOUBLE HYPHENi LETTER SMALL AqA",
  "30A3qSMALL IqIqSMALL UqUqSMALL EqEqSMALL OqOqKAqGAqKIqGIqKUqGUqKEqGEqKOqGOqSAqZAqSIqZIqSUqZU",
  "30BBqSEqZEqSOqZOqTAqDAqTIqDIqSMALL TUqTUqDUqTEqDEqTOqDOqNArIrUrErOqHAqBAqPAqHIqBIqPIqHUqBUqPU",
  "30D8qHEqBEqPEqHOqBOqPOqMArIrUrErOqSMALL YAqYAqSMALL YUqYUqSMALL YOqYOqRArIrUrErOqSMALL WAqWArI",
  "30F1rErOqNqVUqSMALL KAxEqVArIrErOjMIDDLE DOTi-HIRAGANA PROLONGED SOUND MARKi ITERATION MARK",
  "30FEjVOICED ITERATION MARKjDIGRAPH KOTO",
  "3105aBOPOMOFO LETTER BqPqMqFqDqTqNqLqGqKqHqJqQqXqZHqCHqSHqRqZqCqSqAqOqErHqAIqEIqAUqOUqANqEN",
  "3124qANGqENGrRqIqUqIUqVqNGqGNqIHqO WITH DOT ABOVEqNN",
  "3131aHANGUL LETTER KIYEOKoSSANGKIYEOKoKIYEOK-SIOSoNIEUNt-CIEUCuHIEUHoTIKEUToSSANGTIKEUToRIEUL",
  "313At-KIYEOKuMIEUMuPIEUPuSIOSuTHIEUTHuPHIEUPHuHIEUHoMIEUMoPIEUPoSSANGPIEUPoPIEUP-SIOSoSIOS",
  "3146pSANGSIOSoIEUNGoCIEUCoSSANGCIEUCoCHIEUCHoKHIEUKHoTHIEUTHoPHIEUPHoHIEUHoApEoYAqEoEOoEoYEOpE",
  "3157oOoWAqEoOEoYOoUoWEOpEpIoYUoEUoYIoIhFILLERhLETTER SSANGNIEUNoNIEUN-TIKEUTuSIOSuPANSIOS",
  "3169oRIEUL-KIYEOK-SIOSuTIKEUTuPIEUP-SIOSvANSIOSuYEORINHIEUHoMIEUM-PIEUPuSIOSuPANSIOS",
  "3171oKAPYEOUNMIEUMoPIEUP-KIYEOKuTIKEUTuSIOS-KIYEOKzTIKEUTuCIEUCuTHIEUTHoKAPYEOUNPIEUP",
  "3179wSSANGPIEUPoSIOS-KIYEOKtNIEUNtTIKEUTtPIEUPtCIEUCoPANSIOSoSSANGIEUNGoYESIEUNGw-SIOSxPANSIOS",
  "3184oKAPYEOUNPHIEUPHoSSANGHIEUHoYEORINHIEUHpO-YAtErIpU-YEOsErIoARAEAtE",
  "3190aIDEOGRAPHIC ANNOTATION LINKING MARKxREVERSE MARKxONE MARKxTWO MARKyHREE MARKxFOUR MARK",
  "3196xTOP MARKxMIDDLE MARKxBOTTOM MARKxFIRST MARKxSECOND MARKxTHIRD MARKxFOURTH MARK",
  "319DxHEAVEN MARKxEARTH MARKxMAN MARKaBOPOMOFO LETTER BUqZIqJIqGUqEErNNqOOrNNqIRqANNqINNqUNNqIM",
  "31ADqNGGqAINNrUNNrMqOMrNGqINNNjFINAL LETTER PwTwKwHjLETTER GHqLHqZYjFINAL LETTER GjLETTER GW",
  "31BDqKWqOEqAHaCJK STROKE TlWGlXGlBXGlSWlHZZnGmPmZWGlSZWGlHZTnZPmPWGmZWnZZlNlHlSlPlSPlDlHZmGlSZ",
  "31D8mWZmTmGlPDmZlTNlSZZmWGlHXWGmZZZGlPGlQ",
  "31F0aKATAKANA LETTER SMALL KUwSIxUwTOwNUwHAxIxUxExOwMUwRAxIxUxExOaPARENTHESIZED HANGUL KIYEOK",
  "3201vNIEUNvTIKEUTvRIEULvMIEUMvPIEUPvSIOSvIEUNGvCIEUCwHIEUCHvKHIEUKHvTHIEUTHvPHIEUPHvHIEUH",
  "320EvKIYEOK AvNIEUN AvTIKEUT AvRIEUL AvMIEUM AvPIEUP AvSIOS AvIEUNG AvCIEUC AwHIEUCH A",
  "3218vKHIEUKH AvTHIEUTH AvPHIEUPH AvHIEUH AvCIEUC UoKOREAN CHARACTER OJEONzh HU",
  "3220oIDEOGRAPH ONEyTWOzHREEyFOURzIVEySIXzEVENyEIGHTyNINEyTENyMOONyFIREyWATERzOODyMETALyEARTH",
  "3230ySUNzTOCKyHAVEySOCIETYyNAMEySPECIALyFINANCIALyCONGRATULATIONyLABORyREPRESENTyCALLySTUDY",
  "323CzUPERVISEyENTERPRISEyRESOURCEyALLIANCEyFESTIVALyRESTySELFyREACHaCIRCLED IDEOGRAPH QUESTION",
  "3245sKINDERGARTENsSCHOOLsKOTOiNUMBER TEN ON BLACK SQUAREqWENTY ON BLACK SQUARE",
  "324AqHIRTY ON BLACK SQUAREpFORTY ON BLACK SQUAREqIFTY ON BLACK SQUAREpSIXTY ON BLACK SQUARE",
  "324EqEVENTY ON BLACK SQUAREpEIGHTY ON BLACK SQUAREaPARTNERSHIP SIGNaCIRCLED NUMBER TWENTY ONE",
  "3252wTWOxHREEwFOURxIVEwSIXxEVENwEIGHTwNINEqHIRTYv ONEwTWOxHREEwFOURxIVEiHANGUL KIYEOKpNIEUN",
  "3262pTIKEUTpRIEULpMIEUMpPIEUPpSIOSpIEUNGpCIEUCqHIEUCHpKHIEUKHpTHIEUTHpPHIEUPHpHIEUHpKIYEOK A",
  "326FpNIEUN ApTIKEUT ApRIEUL ApMIEUM ApPIEUP ApSIOS ApIEUNG ApCIEUC AqHIEUCH ApKHIEUKH A",
  "3279pTHIEUTH ApPHIEUPH ApHIEUH AiKOREAN CHARACTER CHAMKOzJUEUIiHANGUL IEUNG U",
  "327FaKOREAN STANDARD SYMBOLaCIRCLED IDEOGRAPH ONEsTWOtHREEsFOURtIVEsSIXtEVENsEIGHTsNINEsTEN",
  "328AsMOONsFIREsWATERtOODsMETALsEARTHsSUNtTOCKsHAVEsSOCIETYsNAMEsSPECIALsFINANCIAL",
  "3297sCONGRATULATIONsLABORsSECRETsMALEsFEMALEsSUITABLEsEXCELLENTsPRINTsATTENTIONsITEMsRESTsCOPY",
  "32A3uRRECTsHIGHsCENTREsLOWtEFTsRIGHTsMEDICINEsRELIGIONsSTUDYtUPERVISEsENTERPRISEsRESOURCE",
  "32AFsALLIANCEsNIGHTiNUMBER THIRTY SIXxEVENwEIGHTwNINEpFORTYu ONEvTWOwHREEvFOURwIVEvSIXwEVEN",
  "32BDvEIGHTvNINEqIFTYaIDEOGRAPHIC TELEGRAPH SYMBOL FOR JANUARYziFEBRUARYziMARCHziAPRILziMAY",
  "32C5ziJUNEzkLYziAUGUSTziSEPTEMBERziOCTOBERziNOVEMBERziDECEMBERaSQUARE HGhERGiV",
  "32CFaLIMITED LIABILITY SIGNaCIRCLED KATAKANA ArIrUrErOrKAsIsUsEsOrSAsIsUsEsOrTAsIsUsEsOrNAsIsU",
  "32E7sEsOrHAsIsUsEsOrMAsIsUsEsOrYAsUsOrRAsIsUsEsOrWAsIsEsOaSQUARE ERA NAME REIWAhAPAATOiRUHUA",
  "3302iNPEAiARUhININGUjTIhUONhESUKUUDOiEKAAhONSUiOMUhKAIRIjRATTOkORIIhGARONjNMAiIGAjNIIhKYURII",
  "3313hGIRUDAAhKIROlGURAMUlMEETORUlWATTOhGURAMUnTONhKURUZEIROkOONEiEESUiORUNAjOPOhSAIKURUjNTIIMU",
  "3321iIRINGUiENTIlOhDAASUiESIiORUhTONhNANOiOTTOhHAITUhPAASENTOkTUhBAARERUhPIASUTORUjKURUkOhBIRU",
  "3332hHUARADDOjIITOhBUSSYERUhHURANiEKUTAARUhPESOjNIHIhHERUTUhPENSUjEZIhBEETAhPOINTOhBORUTOhHON",
  "3340hPONDOhHOORUkNhMAIKUROkRUjHHAjRUKUjNSYONiIKURONjRIlBAARUiEGAlTONjETORUhYAADOkRUiUAN",
  "3351hRITTORUjRAiUPIIjUBURUiEMUjNTOGENhWATTOaIDEOGRAPHIC TELEGRAPH SYMBOL FOR HOUR ZEROznONE",
  "335AznTWOzoHREEznFOURzoIVEznSIXzoEVENznEIGHTznNINEznTENznELEVENznTWELVEzoHIRTEENznFOURTEEN",
  "3367zoIFTEENznSIXTEENzoEVENTEENznEIGHTEENznNINETEENznTWENTYzt-ONEzuTWOzvHREEzuFOURaSQUARE HPA",
  "3372hDAhAUhBARhOVhPChDMj SQUAREDkCUBEDhIUhERA NAME HEISEIqSYOUWAqTAISYOUqMEIZIhCORPORATION",
  "3380hPA AMPShNAhMU AiAhKAiBhMBhGBhCALhKCALhPFhNFhMU FkGiGhKGhHZhKHZhMHZhGHZhTHZhMU LiLhDLhKL",
  "3399hFMhNMhMU MiMhCMhKMhMM SQUAREDhCM SQUAREDhM SQUAREDhKM SQUAREDhMM CUBEDhCM CUBEDhM CUBED",
  "33A6hKM CUBEDhM OVER Sp SQUAREDhPAhKPAhMPAhGPAhRADk OVER Sr SQUAREDhPShNShMU SiShPVhNVhMU ViV",
  "33B8hKVhMV MEGAhPWhNWhMU WiWhKWhMW MEGAhK OHMhM OHMhAMhBQhCCiDi OVER KGiOhDBhGYhHAiPhINhKK",
  "33CEiM CAPITALiThLMiNiOGiXhMB SMALLiILiOLhPHiMiPMiRhSRiVhWBhV OVER MhA OVER M",
  "33E0aIDEOGRAPHIC TELEGRAPH SYMBOL FOR DAY ONEzmTWOznHREEzmFOURznIVEzmSIXznEVENzmEIGHTzmNINE",
  "33E9zmTENzmELEVENzmTWELVEznHIRTEENzmFOURTEENznIFTEENzmSIXTEENznEVENTEENzmEIGHTEENzmNINETEEN",
  "33F3zmTWENTYzs-ONEztTWOzuHREEztFOURzuIVEztSIXzuEVENztEIGHTztNINEznHIRTYzs-ONEaSQUARE GAL",
  "4DC0aHEXAGRAM FOR THE CREATIVE HEAVENrRECEPTIVE EARTHnDIFFICULTY AT THE BEGINNING",
  "4DC3nYOUTHFUL FOLLYnWAITINGnCONFLICTnTHE ARMYnHOLDING TOGETHERnSMALL TAMINGnTREADINGnPEACE",
  "4DCBnSTANDSTILLnFELLOWSHIPnGREAT POSSESSIONnMODESTYnENTHUSIASMnFOLLOWINGnWORK ON THE DECAYED",
  "4DD2nAPPROACHnCONTEMPLATIONnBITING THROUGHnGRACEnSPLITTING APARTnRETURNnINNOCENCEnGREAT TAMING",
  "4DDAnMOUTH CORNERSnGREAT PREPONDERANCEnTHE ABYSMAL WATERrCLINGING FIREnINFLUENCEnDURATION",
  "4DE0nRETREATnGREAT POWERnPROGRESSnDARKENING OF THE LIGHTnTHE FAMILYnOPPOSITIONoBSTRUCTION",
  "4DE7nDELIVERANCEpCREASEnINCREASEnBREAKTHROUGHnCOMING TO MEETnGATHERING TOGETHERnPUSHING UPWARD",
  "4DEEnOPPRESSIONnTHE WELLnREVOLUTIONnTHE CAULDRONrAROUSING THUNDERrKEEPING STILL MOUNTAIN",
  "4DF4nDEVELOPMENTnTHE MARRYING MAIDENnABUNDANCEnTHE WANDERERrGENTLE WINDrJOYOUS LAKEnDISPERSION",
  "4DFBnLIMITATIONnINNER TRUTHnSMALL PREPONDERANCEnAFTER COMPLETIONnBEFORE COMPLETION",
  "A000aYI SYLLABLE ITnXmInPnEToXnEoPmATnXmAnPmUOXnOoPmOTnXmOnPmEXmEmWUmBIToXnIoPoETpXoEpPnAToXnA",
  "A021oPnUOXoOpPnOToXnOoPnEXnEoPnUToXnUoPoRXoRnYToXnYoPoRXoRmPIToXnIoPoEXoEpPnAToXnAoPnUOXoOpP",
  "A046nOToXnOoPnUToXnUoPoRXoRnYToXnYoPoRXoRmBBITpXoIpPpETqXpEqPoATpXoApPoUOXpOqPoOTpXoOpPoEXoEpP",
  "A06CoUTpXoUpPpRXpRoYTpXoYpPmNBITpXoIpPpEXpEqPoATpXoApPoOTpXoOpPoUTpXoUpPpRXpRoYTpXoYpPpRXpR",
  "A091mHMITpXoIpPpEXpEqPoATpXoApPoUOXpOqPoOTpXoOpPoUTpXoUpPpRXpRoYXoYpPpRXpRmMIToXnIoPoEXoEpPnAT",
  "A0B6oXnAoPnUOTpXoOpPnOToXnOoPnEXnEnUToXnUoPoRXoRnYToXnYoPmFIToXnIoPnAToXnAoPnOXnOoPnUToXnUoP",
  "A0DCoRXoRnYToXnYoPmVIToXnIoPoETpXoEpPnAToXnAoPnOToXnOoPnEXoPnUToXnUoPoRXoRnYToXnYoPoRXoRmDIToX",
  "A102nIoPoEXoEpPnAToXnAoPnUOXoOnOToXnOoPnEXnEoPnUToXnUoPoRXoRmTIToXnIoPoEXoEpPnAToXnAoPnUOTpXoO",
  "A128pPnOToXnOoPnEXnEoPnUToXnUoPoRXoRmDDITpXoIpPpEXpEqPoATpXoApPoUOXpOqPoOTpXoOpPoEXoEpPoUTpXoU",
  "A14EpPpRXpRmNDITpXoIpPpEXpEoATpXoApPoOTpXoOpPoEXoEpPoUTpXoUpPpRXpRmHNITpXoIpPpETqXpEqPoATpXoA",
  "A173pPoUOXpOoOTpXpPoEXoEpPoUTmNIToXnIoPoEXoEpPnAXnAoPnUOXoOpPnOToXnOoPnEXnEoPnUToXnUoPoRXoR",
  "A197mHLITpXoIpPpEXpEqPoATpXoApPoUOXpOqPoOXoOpPoEXoEpPoUTpXoUpPpRXpRoYTpXoYpPpRXpRmLIToXnIoPoET",
  "A1BCpXoEpPnAToXnAoPnUOTpXoOpPnOToXnOoPnEXnEoPnUToXnUoPoRXoRnYToXnYoPoRXoRmGIToXnIoPoETpXoEpP",
  "A1E2nAToXnAoPnUOTpXoOpPnOToXnOoPnEToXnEoPnUToXnUoPoRXoRmKIToXnIoPoEXoEpPnAToXnAoPnUOXoOpPnOToX",
  "A208nOoPnEToXnEoPnUToXnUoPoRXoRmGGITpXoIpEXpEqPoATpXoApPoUOTqXpOqPoOTpXoOpPoETpXoEpPoUTpXoUpP",
  "A22EpRXpRmMGIEXpEoATpXoApPoUOXpOqPoOTpXoOpPoEXoEpPoUTpXoUpPpRXpRmHXITpXoIpPpETqXpEqPoATpXoApP",
  "A252oUOTqXpOqPoOTpXoOpPoEXoEpPmNGIEXpEqPoATpXoApPoUOTqXpOoOTpXoOpPoEXoEpPmHIToEXoEnAToXnAoP",
  "A275nUOTpXoOpPnOToXnOoPnEXnEoPmWAToXnAoPnUOXoOpPnOXnOoPnEXnEoPmZIToXnIoPoEXoEpPnAToXnAoPnUOXoO",
  "A29ApPnOToXnOoPnEXnEoPnUToXnUoPoRXoRnYToXnYoPoRXoRmCIToXnIoPoETpXoEpPnAToXnAoPnUOXoOpPnOToXnO",
  "A2C0oPnEXnEoPnUToXnUoPoRXoRnYToXnYoPoRXoRmZZITpXoIpPpETqXpEqPoATpXoApPoOXoOpPoEXoEpPoUXoUpPpRX",
  "A2E6pRoYTpXoYpPpRXpRmNZITpXoIpPpEXpEqPoATpXoApPoUOXpOoOXpPoEXoEoUXoUpPpRXpRoYTpXoYpPpRXpRmSIT",
  "A30AoXnIoPoEXoEpPnAToXnAoPnUOXoOpPnOToXnOoPnEXnEoPnUToXnUoPoRXoRnYToXnYoPoRXoRnSITpXoIpPpEXpE",
  "A330qPoATpXoApPoOTpXoOpPoEXoEpPoUTpXoUpPoYTpXoYpPpRXpRmZHATpXoApPoUOXpOqPoOTpXoOpPoETpXoEpPoUT",
  "A356pXoUpPpRXpRoYTpXoYpPpRXpRmCHATpXoApPoUOTqXpOqPoOTpXoOpPoETpXoEpPoUXoUpPpRXpRoYTpXoYpPpRXpR",
  "A37CmRRAXoAoUOXpOoOTpXoOpPoETpXoEpPoUTpXoUpPpRXpRoYTpXoYpPpRXpRmNRATpXoApPoOXoOpPoETpXoEpPoUT",
  "A3A0pXoUpPpRXpRoYTpXoYpPpRXpRmSHATpXoApPoUOXpOqPoOTpXoOpPoETpXoEpPoUTpXoUpPpRXpRoYTpXoYpPpRXpR",
  "A3C6mRAToXnAoPnUOXoOpPnOToXnOoPnEXnEoPnUToXnUoPoRXoRnYToXnYoPoRXoRmJIToXnIoPoETpXoEpPnUOTpXoO",
  "A3EBpPnOToXnOoPnUToXnUoPoRXoRnYToXnYoPoRXoRmQIToXnIoPoETpXoEpPnUOTpXoOpPnOToXnOoPnUToXnUoPoRX",
  "A411oRnYToXnYoPoRXoRmJJITpXoIpPpETqXpEqPoUOXpOqPoOTpXoOpPoUTpXoUpPpRXpRoYTpXoYpPmNJITpXoIpPpET",
  "A436qXpEqPoUOXpOoOTpXoOpPoUXoUpPpRXpRoYTpXoYpPpRXpRnYITpXoIpPpETqXpEqPoUOXpOqPoOTpXoOpPoUTpXoU",
  "A45CpPmXIToXnIoPoETpXoEpPnUOXoOnOToXnOoPnYToXnYoPoRXoRmYIToXnIoPoETpXoEpPnUOTpXoOpPnOToXnOoP",
  "A481nUToXnUoPoRXoRnYToXnYoPoRXoR",
  "A490dRADICAL QOTlLIlKITlNYIPlCYPlSSIlGGOPmEPlMIlHXITlLYRlBBUTlMOPlYOlPUTlHXUOlTATlGAlZUPlCYT",
  "A4A4lDDURlBURlGGUOlNYOPlTUlOPlJJUTlZOTlPYTlHMOlYITlVURlSHYlVEPlZAlJOlNZUPlJJYlGOTlJJIElWOlDU",
  "A4BAlSHURlLIElCYmUOPmIPlHXOPlSHATlZURlSHOPlCHElZZIETlNBIElKE",
  "A4D0aLISU LETTER BAmPAnHAmDAmTAnHAmGAmKAnHAmJAmCAnHAmDZAmTSAoHAmMAmNAmLAmSAmZHAnAmNGAmHAmXA",
  "A4E8mHHAmFAmWAmSHAmYAmGHAmAnEmEnUmImOmUnEnHmOEmTONE MYA TIrNA POrMYA CYAvBOvNAvJEU",
  "A4FEfPUNCTUATION COMMArFULL STOPaVAI SYLLABLE EEpNnHEEnWEEqNnPEEnBHEEoEEnMBEEnKPEEnMGBEEnGBEE",
  "A50CnFEEnVEEnTEEoHEEnDHEEpHEEnLEEnREEnDEEnNDEEnSEEoHEEnZEEoHEEnCEEnJEEnNJEEnYEEnKEEnNGGEEnGEE",
  "A521nMEEnNEEoYEEnIoNnHIpNnWIpNnPInBHIoInMBInKPInMGBInGBInFInVInTIoHInDHIpHInLInRInDInNDInSIoHI",
  "A53DnZIoHInCInJInNJInYInKInNGGInGInMInNIoYInAoNnNGANnHApNnWApNnPAnBHAoAnMBAnKPAqNnMGBAnGBAnFA",
  "A559nVAnTAoHAnDHApHAnLAnRAnDAnNDAnSAoHAnZAoHAnCAnJAnNJAnYAnKApNnNGGAnGAnMAnNAoYAnOOpNnHOOnWOO",
  "A575qNnPOOnBHOOoOOnMBOOnKPOOnMGBOOnGBOOnFOOnVOOnTOOoHOOnDHOOpHOOnLOOnROOnDOOnNDOOnSOOoHOOnZOO",
  "A58AoHOOnCOOnJOOnNJOOnYOOnKOOnNGGOOnGOOnMOOnNOOoYOOnUoNnHUpNnWUpNnPUnBHUoUnMBUnKPUnMGBUnGBUnFU",
  "A5A3nVUnTUoHUnDHUpHUnLUnRUnDUnNDUnSUoHUnZUoHUnCUnJUnNJUnYUnKUnNGGUnGUnMUnNUoYUnOoNnNGONnHOpN",
  "A5BFnWOpNnPOnBHOoOnMBOnKPOnMGBOnGBOqNnFOnVOnTOoHOnDHOpHOnLOnROnDOnNDOnSOoHOnZOoHOnCOnJOnNJOnYO",
  "A5DBnKOnNGGOnGOnMOnNOoYOnEoNnNGENnHEpNnWEpNnPEnBHEoEnMBEnKPEqNnMGBEnGBEqNnFEnVEnTEoHEnDHEpHE",
  "A5F7nLEnREnDEnNDEnSEoHEnZEoHEnCEnJEnNJEnYEnKEnNGGErNnGEpNnMEnNEoYEoGnLENGTHENEReCOMMA",
  "A60EeFULL STOPeQUESTION MARKeSYLLABLE NDOLE FAtKAtSOOgMBOL FEENGlKEENGlTINGlNIIlBANGlFAAlTAA",
  "A61AlDANGmOONGlKUNGlTONGlDO-OlJONGeDIGIT ZEROkONEkTWOlHREEkFOURlIVEkSIXlEVENkEIGHTkNINE",
  "A62AeSYLLABLE NDOLE MAtDO",
  "A640aCYRILLIC CAPITAL LETTER ZEMLYAjSMALL LETTER ZEMLYAjCAPITAL LETTER DZELO",
  "A643jSMALL LETTER DZELOjCAPITAL LETTER REVERSED DZEjSMALL LETTER REVERSED DZE",
  "A646jCAPITAL LETTER IOTAjSMALL LETTER IOTAjCAPITAL LETTER DJERVjSMALL LETTER DJERV",
  "A64AjCAPITAL LETTER MONOGRAPH UKjSMALL LETTER MONOGRAPH UKjCAPITAL LETTER BROAD OMEGA",
  "A64DjSMALL LETTER BROAD OMEGAjCAPITAL LETTER NEUTRAL YERjSMALL LETTER NEUTRAL YER",
  "A650jCAPITAL LETTER YERU WITH BACK YERjSMALL LETTER YERU WITH BACK YER",
  "A652jCAPITAL LETTER IOTIFIED YATjSMALL LETTER IOTIFIED YATjCAPITAL LETTER REVERSED YU",
  "A655jSMALL LETTER REVERSED YUjCAPITAL LETTER IOTIFIED AjSMALL LETTER IOTIFIED A",
  "A658jCAPITAL LETTER CLOSED LITTLE YUSjSMALL LETTER CLOSED LITTLE YUS",
  "A65AjCAPITAL LETTER BLENDED YUSjSMALL LETTER BLENDED YUS",
  "A65CjCAPITAL LETTER IOTIFIED CLOSED LITTLE YUSjSMALL LETTER IOTIFIED CLOSED LITTLE YUS",
  "A65EjCAPITAL LETTER YNjSMALL LETTER YNjCAPITAL LETTER REVERSED TSEjSMALL LETTER REVERSED TSE",
  "A662jCAPITAL LETTER SOFT DEjSMALL LETTER SOFT DEjCAPITAL LETTER SOFT ELjSMALL LETTER SOFT EL",
  "A666jCAPITAL LETTER SOFT EMjSMALL LETTER SOFT EMjCAPITAL LETTER MONOCULAR O",
  "A669jSMALL LETTER MONOCULAR OjCAPITAL LETTER BINOCULAR OjSMALL LETTER BINOCULAR O",
  "A66CjCAPITAL LETTER DOUBLE MONOCULAR OjSMALL LETTER DOUBLE MONOCULAR OjLETTER MULTIOCULAR O",
  "A66FbOMBINING CYRILLIC VZMETtTEN MILLIONS SIGNtHUNDRED MILLIONS SIGNtTHOUSAND MILLIONS SIGN",
  "A673aSLAVONIC ASTERISKaCOMBINING CYRILLIC LETTER UKRAINIAN IEzbIzbYIzbUzbHARD SIGNzbYERU",
  "A67AzbSOFT SIGNzbOMEGAtKAVYKAtPAYEROKbYRILLIC KAVYKAjPAYEROKjCAPITAL LETTER DWE",
  "A681jSMALL LETTER DWEjCAPITAL LETTER DZWEjSMALL LETTER DZWEjCAPITAL LETTER ZHWE",
  "A685jSMALL LETTER ZHWEjCAPITAL LETTER CCHEjSMALL LETTER CCHEjCAPITAL LETTER DZZE",
  "A689jSMALL LETTER DZZEjCAPITAL LETTER TE WITH MIDDLE HOOKjSMALL LETTER TE WITH MIDDLE HOOK",
  "A68CjCAPITAL LETTER TWEjSMALL LETTER TWEjCAPITAL LETTER TSWEjSMALL LETTER TSWE",
  "A690jCAPITAL LETTER TSSEjSMALL LETTER TSSEjCAPITAL LETTER TCHEjSMALL LETTER TCHE",
  "A694jCAPITAL LETTER HWEjSMALL LETTER HWEjCAPITAL LETTER SHWEjSMALL LETTER SHWE",
  "A698jCAPITAL LETTER DOUBLE OjSMALL LETTER DOUBLE OjCAPITAL LETTER CROSSED O",
  "A69BjSMALL LETTER CROSSED OaMODIFIER LETTER CYRILLIC HARD SIGNzSOFT SIGN",
  "A69EaCOMBINING CYRILLIC LETTER EFzbIOTIFIED EaBAMUM LETTER AnKAnUnKUnEEnREEnTAEnOnNYInInLAnPA",
  "A6ACnRIIpEEnLEEEEnMEEEEnTAAnNDAAoJAEMnMnSUUnMUnSHIIoIoHEUXoEUXnKYEEoETnNUAEoUoJUAEnYOQnSHUnYUQ",
  "A6C2oAnNSHAnKEUXnPEUXnNJEEoTEEnPUEnWUEnPEEnFEEnRUnLUnMInNInREUXoAEnKENnNGKWAENpGApAnSHOnPUAE",
  "A6D8nFUoOMnWAnNAnLInPInLOQnKOnMBENnRENnMENoAnTInKInMOoBAAnTETnKPAnTENnNTUUnSAMBAnFAAMAEnKOVUU",
  "A6EFpGHOMgCOMBINING MARK KOQNDONvTUKWENTISgNJAEMLIgFULL STOPgCOLONiMMAgSEMICOLONgQUESTION MARK",
  "A700aMODIFIER LETTER CHINESE TONE YIN PINGzfANG PINGzfIN SHANGzfANG SHANGzfIN QUzfANG QU",
  "A706zfIN RUzfANG RUqEXTRA-HIGH DOTTED TONE BARqHIGH DOTTED TONE BARqMID DOTTED TONE BAR",
  "A70BqLOW DOTTED TONE BARqEXTRA-LOW DOTTED TONE BARwHIGH DOTTED LEFT-STEM TONE BAR",
  "A70EqHIGH DOTTED LEFT-STEM TONE BARqMID DOTTED LEFT-STEM TONE BAR",
  "A710qLOW DOTTED LEFT-STEM TONE BARqEXTRA-LOW DOTTED LEFT-STEM TONE BARwHIGH LEFT-STEM TONE BAR",
  "A713qHIGH LEFT-STEM TONE BARqMID LEFT-STEM TONE BARqLOW LEFT-STEM TONE BAR",
  "A716qEXTRA-LOW LEFT-STEM TONE BARqDOT VERTICAL BARuSLASHuHORIZONTAL BAR",
  "A71AqLOWER RIGHT CORNER ANGLEqRAISED UP ARROWxDOWN ARROWxEXCLAMATION MARK",
  "A71ExINVERTED EXCLAMATION MARKqLOW INVERTED EXCLAMATION MARKqSTRESS AND HIGH TONEzcLOW TONE",
  "A722aLATIN CAPITAL LETTER EGYPTOLOGICAL ALEFgSMALL LETTER EGYPTOLOGICAL ALEF",
  "A724gCAPITAL LETTER EGYPTOLOGICAL AINgSMALL LETTER EGYPTOLOGICAL AINgCAPITAL LETTER HENG",
  "A727gSMALL LETTER HENGgCAPITAL LETTER TZgSMALL LETTER TZgCAPITAL LETTER TRESILLO",
  "A72BgSMALL LETTER TRESILLOgCAPITAL LETTER CUATRILLOgSMALL LETTER CUATRILLO",
  "A72EgCAPITAL LETTER CUATRILLO WITH COMMAgSMALL LETTER CUATRILLO WITH COMMA",
  "A730gLETTER SMALL CAPITAL FzcSgCAPITAL LETTER AAgSMALL LETTER AAgCAPITAL LETTER AO",
  "A735gSMALL LETTER AOgCAPITAL LETTER AUgSMALL LETTER AUgCAPITAL LETTER AVgSMALL LETTER AV",
  "A73AgCAPITAL LETTER AV WITH HORIZONTAL BARgSMALL LETTER AV WITH HORIZONTAL BAR",
  "A73CgCAPITAL LETTER AYgSMALL LETTER AYgCAPITAL LETTER REVERSED C WITH DOT",
  "A73FgSMALL LETTER REVERSED C WITH DOTgCAPITAL LETTER K WITH STROKEgSMALL LETTER K WITH STROKE",
  "A742gCAPITAL LETTER K WITH DIAGONAL STROKEgSMALL LETTER K WITH DIAGONAL STROKE",
  "A744gCAPITAL LETTER K WITH STROKE AND DIAGONAL STROKE",
  "A745gSMALL LETTER K WITH STROKE AND DIAGONAL STROKEgCAPITAL LETTER BROKEN L",
  "A747gSMALL LETTER BROKEN LgCAPITAL LETTER L WITH HIGH STROKEgSMALL LETTER L WITH HIGH STROKE",
  "A74AgCAPITAL LETTER O WITH LONG STROKE OVERLAYgSMALL LETTER O WITH LONG STROKE OVERLAY",
  "A74CgCAPITAL LETTER O WITH LOOPgSMALL LETTER O WITH LOOPgCAPITAL LETTER OOgSMALL LETTER OO",
  "A750gCAPITAL LETTER P WITH STROKE THROUGH DESCENDER",
  "A751gSMALL LETTER P WITH STROKE THROUGH DESCENDERgCAPITAL LETTER P WITH FLOURISH",
  "A753gSMALL LETTER P WITH FLOURISHgCAPITAL LETTER P WITH SQUIRREL TAIL",
  "A755gSMALL LETTER P WITH SQUIRREL TAILgCAPITAL LETTER Q WITH STROKE THROUGH DESCENDER",
  "A757gSMALL LETTER Q WITH STROKE THROUGH DESCENDERgCAPITAL LETTER Q WITH DIAGONAL STROKE",
  "A759gSMALL LETTER Q WITH DIAGONAL STROKEgCAPITAL LETTER R ROTUNDAgSMALL LETTER R ROTUNDA",
  "A75CgCAPITAL LETTER RUM ROTUNDAgSMALL LETTER RUM ROTUNDAgCAPITAL LETTER V WITH DIAGONAL STROKE",
  "A75FgSMALL LETTER V WITH DIAGONAL STROKEgCAPITAL LETTER VYgSMALL LETTER VY",
  "A762gCAPITAL LETTER VISIGOTHIC ZgSMALL LETTER VISIGOTHIC ZgCAPITAL LETTER THORN WITH STROKE",
  "A765gSMALL LETTER THORN WITH STROKEgCAPITAL LETTER THORN WITH STROKE THROUGH DESCENDER",
  "A767gSMALL LETTER THORN WITH STROKE THROUGH DESCENDERgCAPITAL LETTER VENDgSMALL LETTER VEND",
  "A76AgCAPITAL LETTER ETgSMALL LETTER ETgCAPITAL LETTER ISgSMALL LETTER ISgCAPITAL LETTER CON",
  "A76FgSMALL LETTER CONaMODIFIER LETTER USaLATIN SMALL LETTER DUMtLUMtMUMtNUMtRUM",
  "A776gLETTER SMALL CAPITAL RUMgSMALL LETTER TUMtUMgCAPITAL LETTER INSULAR D",
  "A77AgSMALL LETTER INSULAR DgCAPITAL LETTER INSULAR FgSMALL LETTER INSULAR F",
  "A77DgCAPITAL LETTER INSULAR GvTURNED INSULAR GgSMALL LETTER TURNED INSULAR G",
  "A780gCAPITAL LETTER TURNED LgSMALL LETTER TURNED LgCAPITAL LETTER INSULAR R",
  "A783gSMALL LETTER INSULAR RgCAPITAL LETTER INSULAR SgSMALL LETTER INSULAR S",
  "A786gCAPITAL LETTER INSULAR TgSMALL LETTER INSULAR TaMODIFIER LETTER LOW CIRCUMFLEX ACCENT",
  "A789qCOLONqSHORT EQUALS SIGNaLATIN CAPITAL LETTER SALTILLOgSMALL LETTER SALTILLO",
  "A78DgCAPITAL LETTER TURNED HgSMALL LETTER L WITH RETROFLEX HOOK AND BELT",
  "A78FgLETTER SINOLOGICAL DOTgCAPITAL LETTER N WITH DESCENDERgSMALL LETTER N WITH DESCENDER",
  "A792gCAPITAL LETTER C WITH BARgSMALL LETTER C WITH BARzbPALATAL HOOKtH WITH PALATAL HOOK",
  "A796gCAPITAL LETTER B WITH FLOURISHgSMALL LETTER B WITH FLOURISHgCAPITAL LETTER F WITH STROKE",
  "A799gSMALL LETTER F WITH STROKEgCAPITAL LETTER VOLAPUK AEgSMALL LETTER VOLAPUK AE",
  "A79CgCAPITAL LETTER VOLAPUK OEgSMALL LETTER VOLAPUK OEgCAPITAL LETTER VOLAPUK UE",
  "A79FgSMALL LETTER VOLAPUK UEgCAPITAL LETTER G WITH OBLIQUE STROKE",
  "A7A1gSMALL LETTER G WITH OBLIQUE STROKEgCAPITAL LETTER K WITH OBLIQUE STROKE",
  "A7A3gSMALL LETTER K WITH OBLIQUE STROKEgCAPITAL LETTER N WITH OBLIQUE STROKE",
  "A7A5gSMALL LETTER N WITH OBLIQUE STROKEgCAPITAL LETTER R WITH OBLIQUE STROKE",
  "A7A7gSMALL LETTER R WITH OBLIQUE STROKEgCAPITAL LETTER S WITH OBLIQUE STROKE",
  "A7A9gSMALL LETTER S WITH OBLIQUE STROKEgCAPITAL LETTER H WITH HOOKvREVERSED OPEN EvSCRIPT G",
  "A7ADvL WITH BELTvSMALL CAPITAL IgLETTER SMALL CAPITAL QgCAPITAL LETTER TURNED KzdT",
  "A7B2vJ WITH CROSSED-TAILvCHIvBETAgSMALL LETTER BETAgCAPITAL LETTER OMEGAgSMALL LETTER OMEGA",
  "A7B8gCAPITAL LETTER U WITH STROKEgSMALL LETTER U WITH STROKEgCAPITAL LETTER GLOTTAL A",
  "A7BBgSMALL LETTER GLOTTAL AgCAPITAL LETTER GLOTTAL IgSMALL LETTER GLOTTAL I",
  "A7BEgCAPITAL LETTER GLOTTAL UgSMALL LETTER GLOTTAL UgCAPITAL LETTER OLD POLISH O",
  "A7C1gSMALL LETTER OLD POLISH OgCAPITAL LETTER ANGLICANA WgSMALL LETTER ANGLICANA W",
  "A7C4gCAPITAL LETTER C WITH PALATAL HOOKvS WITH HOOKvZ WITH PALATAL HOOK",
  "A7C7vD WITH SHORT STROKE OVERLAYgSMALL LETTER D WITH SHORT STROKE OVERLAY",
  "A7C9gCAPITAL LETTER S WITH SHORT STROKE OVERLAYgSMALL LETTER S WITH SHORT STROKE OVERLAY",
  "A7D0gCAPITAL LETTER CLOSED INSULAR GgSMALL LETTER CLOSED INSULAR G",
  "A7D3tDOUBLE THORN",
  "A7D5zbWYNNgCAPITAL LETTER MIDDLE SCOTS SgSMALL LETTER MIDDLE SCOTS SgCAPITAL LETTER SIGMOID S",
  "A7D9gSMALL LETTER SIGMOID S",
  "A7F2aMODIFIER LETTER CAPITAL CyFyQaLATIN CAPITAL LETTER REVERSED HALF H",
  "A7F6gSMALL LETTER REVERSED HALF HgEPIGRAPHIC LETTER SIDEWAYS I",
  "A7F8aMODIFIER LETTER CAPITAL H WITH STROKEqSMALL LIGATURE OE",
  "A7FAaLATIN LETTER SMALL CAPITAL TURNED MgEPIGRAPHIC LETTER REVERSED FziPyINVERTED Mz LONGA",
  "A7FFyARCHAIC MaSYLOTI NAGRI LETTER AuInSIGN DVISVARAnLETTER UuEuOnSIGN HASANTAnLETTER KOvHOuGO",
  "A80AvHOnSIGN ANUSVARAnLETTER COvHOuJOvHOuTTOwHOuDDOwHOuTOvHOuDOvHOuNOuPOvHOuBOvHOuMOuROuLOuRRO",
  "A821uSOuHOnVOWEL SIGN AyIyUyEyOOnPOETRY MARK-1z2z3z4nSIGN ALTERNATE HASANTA",
  "A830aNORTH INDIC FRACTION ONE QUARTERzHALFvTHREE QUARTERSvONE SIXTEENTHzEIGHTH",
  "A835vTHREE SIXTEENTHSmQUARTER MARKmPLACEHOLDER MARKmRUPEE MARKmQUANTITY MARK",
  "A840aPHAGS-PA LETTER KArHAqGAqNGAqCArHAqJAqNYAqTArHAqDAqNAqPArHAqBAqMAqTSAsHAqDZAqWAqZHArA",
  "A856qSMALL AqYAqRAqLAqSHArAqHAqAqIqUqEqOqQAqXAqFAqGGAqEEjSUBJOINED LETTER WAzbYAjLETTER TTAsHA",
  "A86BqDDAqNNAqALTERNATE YAqVOICELESS SHAvD HAqASPIRATED FAjSUBJOINED LETTER RA",
  "A872lPERFIXED LETTER RAjLETTER CANDRABINDUjSINGLE HEAD MARKjDOUBLE HEAD MARKjMARK SHAD",
  "A877oDOUBLE SHAD",
  "A880aSAURASHTRA SIGN ANUSVARAqVISARGAlLETTER AtAsItIsUtUsVOCALIC RzcRzbLzcLsEtEsAIsOtOsAUsKA",
  "A893tHAsGAtHAsNGAsCAtHAsJAtHAsNYAsTTAuHAsDDAuHAsNNAsTAtHAsDAtHAsNAsPAtHAsBAtHAsMAsYAsRAsLAsVA",
  "A8AFsSHAtSAtAsHAsLLAlCONSONANT SIGN HAARUlVOWEL SIGN AAwIxIwUxUwVOCALIC RzgRzfLzgLwExEwAIwOxO",
  "A8C3wAUlSIGN VIRAMAqCANDRABINDU",
  "A8CElDANDAmOUBLE DANDAmIGIT ZEROrONErTWOsHREErFOURsIVErSIXsEVENrEIGHTrNINE",
  "A8E0aCOMBINING DEVANAGARI DIGIT ZEROzcONEzcTWOzdHREEzcFOURzdIVEzcSIXzdEVENzcEIGHTzcNINE",
  "A8EAvLETTER AzdUzdKAzdNAzdPAzdRAzdVIvSIGN AVAGRAHAaDEVANAGARI SIGN SPACING CANDRABINDU",
  "A8F3qCANDRABINDU VIRAMAqDOUBLE CANDRABINDU VIRAMAqCANDRABINDU TWOzeHREEzdAVAGRAHAqPUSHPIKA",
  "A8F9lGAP FILLERlCARETlHEADSTROKElSIGN SIDDHAMlJAIN OMlLETTER AYlVOWEL SIGN AY",
  "A900aKAYAH LI DIGIT ZEROpONEpTWOqHREEpFOURqIVEpSIXqEVENpEIGHTpNINEjLETTER KArHAqGAqNGAqSArHA",
  "A910qZAqNYAqTAqHTAqNAqPArHAqMAqDAqBAqRAqYAqLAqWAqTHAqHAqVAqCAqAqOEqIqOOjVOWEL UEpEpUpEEpO",
  "A92BjTONE PLOPHUoCALYAt PLOPHUjSIGN CWIoSHYAaREJANG LETTER KAoGAoNGAoTAoDAoNAoPAoBAoMAoCAoJA",
  "A93BoNYAoSAoRAoLAoYAoWAoHAoMBAoNGGApDApYJAoAhVOWEL SIGN IsUsEsAIsOsAUsEUtAhCONSONANT SIGN NGwN",
  "A951wRwHhVIRAMA",
  "A95FhSECTION MARKaHANGUL CHOSEONG TIKEUT-MIEUMxPIEUPxSIOSxCIEUCqRIEUL-KIYEOKwSSANGKIYEOK",
  "A966wTIKEUTwSSANGTIKEUTwMIEUMwPIEUPwSSANGPIEUPwKAPYEOUNPIEUPwSIOSwCIEUCwKHIEUKHqMIEUM-KIYEOK",
  "A970wTIKEUTwSIOSqPIEUP-SIOS-THIEUTHwKHIEUKHwHIEUHqSSANGSIOS-PIEUPqIEUNG-RIEULwHIEUH",
  "A978qSSANGCIEUC-HIEUHvTHIEUTHqPHIEUPH-HIEUHqHIEUH-SIOSqSSANGYEORINHIEUH",
  "A980aJAVANESE SIGN PANYANGGAoCECAKoLAYARoWIGNYANjLETTER AqI KAWIqIrIqUqPA CEREKqNGA LELET",
  "A98Bz RASWADIqEqAIqOqKAs SASAKtMURDAqGAs MURDAqNGAqCAs MURDAqJAqNYA MURDAqJA MAHAPRANAqNYAqTTA",
  "A99Ct MAHAPRANAqDDAt MAHAPRANAqNA MURDAqTAs MURDAqDAs MAHAPRANAqNAqPAs MURDAqBAs MURDAqMAqYA",
  "A9ABqRAs AGUNGqLAqWAqSA MURDAuAHAPRANArAqHAjSIGN CECAK TELUjVOWEL SIGN TARUNGvOLONGuWULU",
  "A9B7y MELIKuSUKUy MENDUTuTALINGuDIRGA MUREuPEPETjCONSONANT SIGN KERETyPENGKALyCAKRAjPANGKON",
  "A9C1jLEFT RERENGGANjRIGHT RERENGGANjPADA ANDAPoMADYAoLUHURoWINDUoPANGKAToLINGSApUNGSIoADEG",
  "A9CBs ADEGoPISELEHjTURNED PADA PISELEH",
  "A9CFjPANGRANGKEPjDIGIT ZEROpONEpTWOqHREEpFOURqIVEpSIXqEVENpEIGHTpNINE",
  "A9DEjPADA TIRTA TUMETESoISEN-ISENaMYANMAR LETTER SHAN GHAuCHAuJHAuNNAuBHAiSIGN SHAN SAW",
  "A9E6iMODIFIER LETTER SHAN REDUPLICATIONiLETTER TAI LAING NYAzFAzGAzbHAzJAzbHAzDDAzcHAzNNA",
  "A9F0iTAI LAING DIGIT ZEROyONEyTWOzHREEyFOURzIVEySIXzEVENyEIGHTyNINEiLETTER TAI LAING LLAzDA",
  "A9FCzbHAzBAzbHA",
  "AA00aCHAM LETTER AmImUmEmAImOmKAnHAmGAnHAmNGUEoAmCHAoHAmJAnHAmNHUEoAoJAmTAnHAmDAnHAmNUEnAmDDA",
  "AA1AmPAnPAnHAmBAnHAmMUEnAmBBAmYAmRAmLAmVAmSSAnAmHAfVOWEL SIGN AAqIrIqEIqUqOEqOqAIrUqUE",
  "AA33fCONSONANT SIGN YAuRAuLAuWA",
  "AA40fLETTER FINAL KsGsNGfCONSONANT SIGN FINAL NGfLETTER FINAL CHsTsNsPsYsRsLsSS",
  "AA4CfCONSONANT SIGN FINAL MzbH",
  "AA50fDIGIT ZEROlONElTWOmHREElFOURmIVElSIXmEVENlEIGHTlNINE",
  "AA5CfPUNCTUATION SPIRALrDANDAsOUBLE DANDArTRIPLE DANDAaMYANMAR LETTER KHAMTI GAwCAxHAwJAxHA",
  "AA65wNYAwTTAyHAwDDAyHAxHAwNAwSAwHAxHAwFAiMODIFIER LETTER KHAMTI REDUPLICATIONiLETTER KHAMTI XA",
  "AA72wZAwRAjOGOGRAM KHAMTI OAYyQNyHMiSYMBOL AITON EXCLAMATIONvONEvTWOiLETTER AITON RA",
  "AA7BiSIGN PAO KAREN TONEnTAI LAING TONE-2zd5iLETTER SHWE PALAUNG CHAzdSHA",
  "AA80aTAI VIET LETTER LOW KOqHIGH KOqLOW KHOqHIGH KHOqLOW KHHOqHIGH KHHOqLOW GOqHIGH GOqLOW NGO",
  "AA89qHIGH NGOqLOW COqHIGH COqLOW CHOqHIGH CHOqLOW SOqHIGH SOqLOW NYOqHIGH NYOqLOW DOqHIGH DO",
  "AA94qLOW TOqHIGH TOqLOW THOqHIGH THOqLOW NOqHIGH NOqLOW BOqHIGH BOqLOW POqHIGH POqLOW PHO",
  "AA9FqHIGH PHOqLOW FOqHIGH FOqLOW MOqHIGH MOqLOW YOqHIGH YOqLOW ROqHIGH ROqLOW LOqHIGH LO",
  "AAAAqLOW VOqHIGH VOqLOW HOqHIGH HOqLOW OqHIGH OjMAI KANGjVOWEL AApIpUEpUpEpOjMAI KHITjVOWEL IA",
  "AAB9pUEAqApAUEqYqNqMjTONE MAI EKsNUENGsTHOsSONG",
  "AADBjSYMBOL KONqNUENGqSAMqHO HOIqKOI KOIaMEETEI MAYEK LETTER EuOuCHAuNYAuTTAwHAuDDAwHAuNNAuSHA",
  "AAEAvSAnVOWEL SIGN IIyUUyAAIzUzAUnCHEIKHANnAHANG KHUDAMoNJInSYLLABLE REPETITION MARK",
  "AAF4nWORD REPETITION MARKnVOWEL SIGN VISARGAoIRAMA",
  "AB01aETHIOPIC SYLLABLE TTHUvIvAAvEEvEvO",
  "AB09sDDHUvIvAAvEEvEvO",
  "AB11tZUuIuAAuEEuEuO",
  "AB20sCCHHAwUwIwAAwEEwEwO",
  "AB28sBBAuUuIuAAuEEuEuO",
  "AB30aLATIN SMALL LETTER BARRED ALPHAtA REVERSED-SCHWAtBLACKLETTER EuARRED EtE WITH FLOURISH",
  "AB35tLENIS FtSCRIPT G WITH CROSSED-TAILtL WITH INVERTED LAZY SzbDOUBLE MIDDLE TILDE",
  "AB39zbMIDDLE RINGtM WITH CROSSED-TAILtN WITH CROSSED-TAILtENG WITH CROSSED-TAILtBLACKLETTER O",
  "AB3Ezh WITH STROKEtOPEN O WITH STROKEtINVERTED OEtTURNED OE WITH STROKEzjHORIZONTAL STROKE",
  "AB43zc OPEN-Ozj WITH STROKEtSTIRRUP RgLETTER SMALL CAPITAL R WITH RIGHT LEG",
  "AB47gSMALL LETTER R WITHOUT HANDLEtDOUBLE RtR WITH CROSSED-TAILtDOUBLE R WITH CROSSED-TAIL",
  "AB4BtSCRIPT Rzc WITH RINGtBASELINE ESHtU WITH SHORT RIGHT LEGvBAR WITH SHORT RIGHT LEGuI",
  "AB51tTURNED UItU WITH LEFT HOOKtCHIw WITH LOW RIGHT RINGzhLEFT SERIFtX WITH LOW RIGHT RING",
  "AB57zdNG LEFT LEGzo AND LOW RIGHT RINGzpWITH SERIFtY WITH SHORT RIGHT LEG",
  "AB5BaMODIFIER BREVE WITH INVERTED BREVEjLETTER SMALL HENGwL WITH INVERTED LAZY SzeMIDDLE TILDE",
  "AB5FwU WITH LEFT HOOKaLATIN SMALL LETTER SAKHA YATtIOTIFIED EtOPEN OEtUOtINVERTED ALPHA",
  "AB65aGREEK LETTER SMALL CAPITAL OMEGAaLATIN SMALL LETTER DZ DIGRAPH WITH RETROFLEX HOOK",
  "AB67tTS DIGRAPH WITH RETROFLEX HOOKuURNED R WITH MIDDLE TILDEaMODIFIER LETTER SMALL TURNED W",
  "AB6AqLEFT TACKqRIGHT TACK",
  "AB70aCHEROKEE SMALL LETTER AwEwIwOwUwVwGAwKAwGExIxOxUxVwHAxExIxOxUxVwLAxExIxOxUxVwMAxExIxOxU",
  "AB8EwNAwHNAwNAHxExIxOxUxVwQUAyEyIyOyUyVwSAwSxExIxOxUxVwDAwTAwDEwTEwDIwTIwDOxUxVxLAwTLAyEyIyOyU",
  "ABB2yVxSAyEyIyOyUyVwWAxExIxOxUxVwYAaMEETEI MAYEK LETTER KOKuSAMuLAIuMITuPAuNAuCHILuTILuKHOU",
  "ABC9uNGOUuTHOUuWAIuYANGuHUKuUNuIuPHAMuATIYAuGOKuJHAMuRAIuBAuJILuDILuGHOUuDHOUuBHAMuKOK LONSUM",
  "ABDCuLAI LONSUMuMIT LONSUMuPA LONSUMuNA LONSUMuTIL LONSUMuNGOU LONSUMuI LONSUMnVOWEL SIGN ONAP",
  "ABE4yINAPyANAPyYENAPySOUNAPyUNAPyCHEINAPyNUNGnCHEIKHEInLUM IYEKnAPUN IYEK",
  "ABF0nDIGIT ZEROtONEtTWOuHREEtFOURuIVEtSIXuEVENtEIGHTtNINE",
  "D7B0aHANGUL JUNGSEONG O-YEOtO-IrYO-AvEuEOrU-YEOtI-IrYU-AEuOrEU-AuEOuEuOrI-YA-OvEuEOuEtO-ItYOuU",
  "D7C4tIrARAEA-AxE",
  "D7CBiONGSEONG NIEUN-RIEULxCHIEUCHrSSANGTIKEUTzd-PIEUPrTIKEUT-PIEUPySIOSzd-KIYEOKyCIEUCzHIEUCH",
  "D7D4yTHIEUTHrRIEUL-SSANGKIYEOKxKIYEOK-HIEUHrSSANGRIEUL-KHIEUKHrRIEUL-MIEUM-HIEUHxPIEUP-TIKEUT",
  "D7DAzePHIEUPHxYESIEUNGzORINHIEUH-HIEUHrKAPYEOUNRIEULrMIEUM-NIEUNxSSANGNIEUNrSSANGMIEUM",
  "D7E1rMIEUM-PIEUP-SIOSxCIEUCrPIEUP-TIKEUTxRIEUL-PHIEUPHxMIEUMrSSANGPIEUPrPIEUP-SIOS-TIKEUT",
  "D7E8xCIEUCyHIEUCHrSIOS-MIEUMwKAPYEOUNPIEUPsSANGSIOS-KIYEOKzcTIKEUTsIOS-PANSIOSwCIEUCxHIEUCH",
  "D7F1wTHIEUTHwHIEUHrPANSIOS-PIEUPzKAPYEOUNPIEUPrYESIEUNG-MIEUMzbHIEUHrCIEUC-PIEUPxSSANGPIEUP",
  "D7F9rSSANGCIEUCrPHIEUPH-SIOSzTHIEUTH",
  "FB00aLATIN SMALL LIGATURE FFwIwLwFIxLvLONG S TvST",
  "FB13aARMENIAN SMALL LIGATURE MEN NOWzdECHzdINIyVEW NOWyMEN XEH",
  "FB1DaHEBREW LETTER YOD WITH HIRIQhPOINT JUDEO-SPANISH VARIKAhLIGATURE YIDDISH YOD YOD PATAH",
  "FB20iETTER ALTERNATIVE AYINoWIDE ALEFtDALETtHEtKAFtLAMEDtFINAL MEMtRESHtTAV",
  "FB29oALTERNATIVE PLUS SIGNoSHIN WITH SHIN DOTzIN DOTyDAGESH AND SHIN DOTzlIN DOT",
  "FB2EoALEF WITH PATAHyQAMATSyMAPIQoBET WITH DAGESHoGIMEL WITH DAGESHoDALET WITH DAGESH",
  "FB34oHE WITH MAPIQoVAV WITH DAGESHoZAYIN WITH DAGESH",
  "FB38oTET WITH DAGESHoYOD WITH DAGESHoFINAL KAF WITH DAGESHoKAF WITH DAGESHoLAMED WITH DAGESH",
  "FB3EoMEM WITH DAGESH",
  "FB40oNUN WITH DAGESHoSAMEKH WITH DAGESH",
  "FB43oFINAL PE WITH DAGESHoPE WITH DAGESH",
  "FB46oTSADI WITH DAGESHoQOF WITH DAGESHoRESH WITH DAGESHoSHIN WITH DAGESHoTAV WITH DAGESH",
  "FB4BoVAV WITH HOLAMoBET WITH RAFEoKAF WITH RAFEoPE WITH RAFEiIGATURE ALEF LAMED",
  "FB50aARABIC LETTER ALEF WASLA ISOLATED FORMzFINAL FORMoBEEH ISOLATED FORMtFINAL FORM",
  "FB54tINITIAL FORMtMEDIAL FORMoPEH ISOLATED FORMsFINAL FORMsINITIAL FORMsMEDIAL FORM",
  "FB5AoBEHEH ISOLATED FORMuFINAL FORMuINITIAL FORMuMEDIAL FORMoTTEHEH ISOLATED FORMvFINAL FORM",
  "FB60vINITIAL FORMvMEDIAL FORMpEHEH ISOLATED FORMuFINAL FORMuINITIAL FORMuMEDIAL FORM",
  "FB66pTEH ISOLATED FORMtFINAL FORMtINITIAL FORMtMEDIAL FORMoVEH ISOLATED FORMsFINAL FORM",
  "FB6CsINITIAL FORMsMEDIAL FORMoPEHEH ISOLATED FORMuFINAL FORMuINITIAL FORMuMEDIAL FORM",
  "FB72oDYEH ISOLATED FORMtFINAL FORMtINITIAL FORMtMEDIAL FORMoNYEH ISOLATED FORMtFINAL FORM",
  "FB78tINITIAL FORMtMEDIAL FORMoTCHEH ISOLATED FORMuFINAL FORMuINITIAL FORMuMEDIAL FORM",
  "FB7EtEH ISOLATED FORMwFINAL FORMwINITIAL FORMwMEDIAL FORMoDDAHAL ISOLATED FORMvFINAL FORM",
  "FB84pAHAL ISOLATED FORMuFINAL FORMpUL ISOLATED FORMsFINAL FORMpDAL ISOLATED FORMtFINAL FORM",
  "FB8AoJEH ISOLATED FORMsFINAL FORMoRREH ISOLATED FORMtFINAL FORMoKEHEH ISOLATED FORMuFINAL FORM",
  "FB90uINITIAL FORMuMEDIAL FORMoGAF ISOLATED FORMsFINAL FORMsINITIAL FORMsMEDIAL FORM",
  "FB96pUEH ISOLATED FORMtFINAL FORMtINITIAL FORMtMEDIAL FORMoNGOEH ISOLATED FORMuFINAL FORM",
  "FB9CuINITIAL FORMuMEDIAL FORMpOON GHUNNA ISOLATED FORMzbFINAL FORMoRNOON ISOLATED FORM",
  "FBA1uFINAL FORMuINITIAL FORMuMEDIAL FORMoHEH WITH YEH ABOVE ISOLATED FORMziFINAL FORM",
  "FBA6sGOAL ISOLATED FORMxFINAL FORMxINITIAL FORMxMEDIAL FORMsDOACHASHMEE ISOLATED FORM",
  "FBABzfFINAL FORMzfINITIAL FORMzfMEDIAL FORMoYEH BARREE ISOLATED FORMzFINAL FORM",
  "FBB0zWITH HAMZA ABOVE ISOLATED FORMzrFINAL FORMhSYMBOL DOT ABOVEsBELOWoTWO DOTS ABOVExBELOW",
  "FBB6pHREE DOTS ABOVEzBELOWzPOINTING DOWNWARDS ABOVEztBELOWoFOUR DOTS ABOVEyBELOW",
  "FBBCoDOUBLE VERTICAL BAR BELOWoTWO DOTS VERTICALLY ABOVEzjBELOWoRINGoSMALL TAH ABOVEyBELOW",
  "FBC2oWASLA ABOVE",
  "FBD3hLETTER NG ISOLATED FORMrFINAL FORMrINITIAL FORMrMEDIAL FORMoU ISOLATED FORMqFINAL FORM",
  "FBD9oOE ISOLATED FORMrFINAL FORMoYU ISOLATED FORMrFINAL FORMoU WITH HAMZA ABOVE ISOLATED FORM",
  "FBDEoVE ISOLATED FORMrFINAL FORMoKIRGHIZ OE ISOLATED FORMzFINAL FORMwYU ISOLATED FORM",
  "FBE3zFINAL FORMoE ISOLATED FORMqFINAL FORMqINITIAL FORMqMEDIAL FORM",
  "FBE8oUIGHUR KAZAKH KIRGHIZ ALEF MAKSURA INITIAL FORMzyMEDIAL FORM",
  "FBEAiIGATURE YEH WITH HAMZA ABOVE WITH ALEF ISOLATED FORMzwFINAL FORMzsE ISOLATED FORM",
  "FBEDzuFINAL FORMzrWAW ISOLATED FORMzvFINAL FORMzrU ISOLATED FORMztFINAL FORMzrOE ISOLATED FORM",
  "FBF3zuFINAL FORMzrYU ISOLATED FORMzuFINAL FORMzrE ISOLATED FORMztFINAL FORMztINITIAL FORM",
  "FBF9qUIGHUR KIRGHIZ YEH WITH HAMZA ABOVE WITH ALEF MAKSURA ISOLATED FORMzzuFINAL FORM",
  "FBFBzzuINITIAL FORMiETTER FARSI YEH ISOLATED FORMyFINAL FORMyINITIAL FORMyMEDIAL FORM",
  "FC00iIGATURE YEH WITH HAMZA ABOVE WITH JEEM ISOLATED FORMzrHAH ISOLATED FORM",
  "FC02zrMEEM ISOLATED FORMzrALEF MAKSURA ISOLATED FORMzrYEH ISOLATED FORM",
  "FC05qBEH WITH JEEM ISOLATED FORMzHAH ISOLATED FORMzKHAH ISOLATED FORMzMEEM ISOLATED FORM",
  "FC09zALEF MAKSURA ISOLATED FORMzYEH ISOLATED FORMqTEH WITH JEEM ISOLATED FORM",
  "FC0CzHAH ISOLATED FORMzKHAH ISOLATED FORMzMEEM ISOLATED FORMzALEF MAKSURA ISOLATED FORM",
  "FC10zYEH ISOLATED FORMrHEH WITH JEEM ISOLATED FORMzbMEEM ISOLATED FORM",
  "FC13zbALEF MAKSURA ISOLATED FORMzbYEH ISOLATED FORMqJEEM WITH HAH ISOLATED FORM",
  "FC16zbMEEM ISOLATED FORMqHAH WITH JEEM ISOLATED FORMzMEEM ISOLATED FORM",
  "FC19qKHAH WITH JEEM ISOLATED FORMzbHAH ISOLATED FORMzbMEEM ISOLATED FORM",
  "FC1CqSEEN WITH JEEM ISOLATED FORMzbHAH ISOLATED FORMzbKHAH ISOLATED FORMzbMEEM ISOLATED FORM",
  "FC20rAD WITH HAH ISOLATED FORMzMEEM ISOLATED FORMqDAD WITH JEEM ISOLATED FORM",
  "FC23zHAH ISOLATED FORMzKHAH ISOLATED FORMzMEEM ISOLATED FORMqTAH WITH HAH ISOLATED FORM",
  "FC27zMEEM ISOLATED FORMqZAH WITH MEEM ISOLATED FORMqAIN WITH JEEM ISOLATED FORM",
  "FC2AzMEEM ISOLATED FORMqGHAIN WITH JEEM ISOLATED FORMzcMEEM ISOLATED FORM",
  "FC2DqFEH WITH JEEM ISOLATED FORMzHAH ISOLATED FORMzKHAH ISOLATED FORMzMEEM ISOLATED FORM",
  "FC31zALEF MAKSURA ISOLATED FORMzYEH ISOLATED FORMqQAF WITH HAH ISOLATED FORM",
  "FC34zMEEM ISOLATED FORMzALEF MAKSURA ISOLATED FORMzYEH ISOLATED FORM",
  "FC37qKAF WITH ALEF ISOLATED FORMzJEEM ISOLATED FORMzHAH ISOLATED FORMzKHAH ISOLATED FORM",
  "FC3BzLAM ISOLATED FORMzMEEM ISOLATED FORMzALEF MAKSURA ISOLATED FORMzYEH ISOLATED FORM",
  "FC3FqLAM WITH JEEM ISOLATED FORMzHAH ISOLATED FORMzKHAH ISOLATED FORMzMEEM ISOLATED FORM",
  "FC43zALEF MAKSURA ISOLATED FORMzYEH ISOLATED FORMqMEEM WITH JEEM ISOLATED FORM",
  "FC46zbHAH ISOLATED FORMzbKHAH ISOLATED FORMzbMEEM ISOLATED FORMzbALEF MAKSURA ISOLATED FORM",
  "FC4AzbYEH ISOLATED FORMqNOON WITH JEEM ISOLATED FORMzbHAH ISOLATED FORMzbKHAH ISOLATED FORM",
  "FC4EzbMEEM ISOLATED FORMzbALEF MAKSURA ISOLATED FORMzbYEH ISOLATED FORM",
  "FC51qHEH WITH JEEM ISOLATED FORMzMEEM ISOLATED FORMzALEF MAKSURA ISOLATED FORM",
  "FC54zYEH ISOLATED FORMqYEH WITH JEEM ISOLATED FORMzHAH ISOLATED FORMzKHAH ISOLATED FORM",
  "FC58zMEEM ISOLATED FORMzALEF MAKSURA ISOLATED FORMzYEH ISOLATED FORM",
  "FC5BqTHAL WITH SUPERSCRIPT ALEF ISOLATED FORMqREH WITH SUPERSCRIPT ALEF ISOLATED FORM",
  "FC5DqALEF MAKSURA WITH SUPERSCRIPT ALEF ISOLATED FORMqSHADDA WITH DAMMATAN ISOLATED FORM",
  "FC5FzdKASRATAN ISOLATED FORMzdFATHA ISOLATED FORMzdDAMMA ISOLATED FORMzdKASRA ISOLATED FORM",
  "FC63zdSUPERSCRIPT ALEF ISOLATED FORMqYEH WITH HAMZA ABOVE WITH REH FINAL FORMzrZAIN FINAL FORM",
  "FC66zrMEEM FINAL FORMzrNOON FINAL FORMzrALEF MAKSURA FINAL FORMzrYEH FINAL FORM",
  "FC6AqBEH WITH REH FINAL FORMzZAIN FINAL FORMzMEEM FINAL FORMzNOON FINAL FORM",
  "FC6EzALEF MAKSURA FINAL FORMzYEH FINAL FORMqTEH WITH REH FINAL FORMzZAIN FINAL FORM",
  "FC72zMEEM FINAL FORMzNOON FINAL FORMzALEF MAKSURA FINAL FORMzYEH FINAL FORM",
  "FC76rHEH WITH REH FINAL FORMzbZAIN FINAL FORMzbMEEM FINAL FORMzbNOON FINAL FORM",
  "FC7AzbALEF MAKSURA FINAL FORMzbYEH FINAL FORMqFEH WITH ALEF MAKSURA FINAL FORMzYEH FINAL FORM",
  "FC7EqQAF WITH ALEF MAKSURA FINAL FORMzYEH FINAL FORMqKAF WITH ALEF FINAL FORMzLAM FINAL FORM",
  "FC82zMEEM FINAL FORMzALEF MAKSURA FINAL FORMzYEH FINAL FORMqLAM WITH MEEM FINAL FORM",
  "FC86zALEF MAKSURA FINAL FORMzYEH FINAL FORMqMEEM WITH ALEF FINAL FORMzbMEEM FINAL FORM",
  "FC8AqNOON WITH REH FINAL FORMzbZAIN FINAL FORMzbMEEM FINAL FORMzbNOON FINAL FORM",
  "FC8EzbALEF MAKSURA FINAL FORMzbYEH FINAL FORMqALEF MAKSURA WITH SUPERSCRIPT ALEF FINAL FORM",
  "FC91qYEH WITH REH FINAL FORMzZAIN FINAL FORMzMEEM FINAL FORMzNOON FINAL FORM",
  "FC95zALEF MAKSURA FINAL FORMzYEH FINAL FORMzHAMZA ABOVE WITH JEEM INITIAL FORM",
  "FC98zrHAH INITIAL FORMzrKHAH INITIAL FORMzrMEEM INITIAL FORMzrHEH INITIAL FORM",
  "FC9CqBEH WITH JEEM INITIAL FORMzHAH INITIAL FORMzKHAH INITIAL FORMzMEEM INITIAL FORM",
  "FCA0zHEH INITIAL FORMqTEH WITH JEEM INITIAL FORMzHAH INITIAL FORMzKHAH INITIAL FORM",
  "FCA4zMEEM INITIAL FORMzHEH INITIAL FORMrHEH WITH MEEM INITIAL FORMqJEEM WITH HAH INITIAL FORM",
  "FCA8zbMEEM INITIAL FORMqHAH WITH JEEM INITIAL FORMzMEEM INITIAL FORM",
  "FCABqKHAH WITH JEEM INITIAL FORMzbMEEM INITIAL FORMqSEEN WITH JEEM INITIAL FORM",
  "FCAEzbHAH INITIAL FORMzbKHAH INITIAL FORMzbMEEM INITIAL FORMrAD WITH HAH INITIAL FORM",
  "FCB2zKHAH INITIAL FORMzMEEM INITIAL FORMqDAD WITH JEEM INITIAL FORMzHAH INITIAL FORM",
  "FCB6zKHAH INITIAL FORMzMEEM INITIAL FORMqTAH WITH HAH INITIAL FORMqZAH WITH MEEM INITIAL FORM",
  "FCBAqAIN WITH JEEM INITIAL FORMzMEEM INITIAL FORMqGHAIN WITH JEEM INITIAL FORM",
  "FCBDzcMEEM INITIAL FORMqFEH WITH JEEM INITIAL FORMzHAH INITIAL FORMzKHAH INITIAL FORM",
  "FCC1zMEEM INITIAL FORMqQAF WITH HAH INITIAL FORMzMEEM INITIAL FORMqKAF WITH JEEM INITIAL FORM",
  "FCC5zHAH INITIAL FORMzKHAH INITIAL FORMzLAM INITIAL FORMzMEEM INITIAL FORM",
  "FCC9qLAM WITH JEEM INITIAL FORMzHAH INITIAL FORMzKHAH INITIAL FORMzMEEM INITIAL FORM",
  "FCCDzHEH INITIAL FORMqMEEM WITH JEEM INITIAL FORMzbHAH INITIAL FORMzbKHAH INITIAL FORM",
  "FCD1zbMEEM INITIAL FORMqNOON WITH JEEM INITIAL FORMzbHAH INITIAL FORMzbKHAH INITIAL FORM",
  "FCD5zbMEEM INITIAL FORMzbHEH INITIAL FORMqHEH WITH JEEM INITIAL FORMzMEEM INITIAL FORM",
  "FCD9zSUPERSCRIPT ALEF INITIAL FORMqYEH WITH JEEM INITIAL FORMzHAH INITIAL FORM",
  "FCDCzKHAH INITIAL FORMzMEEM INITIAL FORMzHEH INITIAL FORMzbAMZA ABOVE WITH MEEM MEDIAL FORM",
  "FCE0zrHEH MEDIAL FORMqBEH WITH MEEM MEDIAL FORMzHEH MEDIAL FORMqTEH WITH MEEM MEDIAL FORM",
  "FCE4zHEH MEDIAL FORMrHEH WITH MEEM MEDIAL FORMzbHEH MEDIAL FORMqSEEN WITH MEEM MEDIAL FORM",
  "FCE8zbHEH MEDIAL FORMrHEEN WITH MEEM MEDIAL FORMzcHEH MEDIAL FORMqKAF WITH LAM MEDIAL FORM",
  "FCECzMEEM MEDIAL FORMqLAM WITH MEEM MEDIAL FORMqNOON WITH MEEM MEDIAL FORMzbHEH MEDIAL FORM",
  "FCF0qYEH WITH MEEM MEDIAL FORMzHEH MEDIAL FORMqSHADDA WITH FATHA MEDIAL FORM",
  "FCF3zdDAMMA MEDIAL FORMzdKASRA MEDIAL FORMqTAH WITH ALEF MAKSURA ISOLATED FORM",
  "FCF6zYEH ISOLATED FORMqAIN WITH ALEF MAKSURA ISOLATED FORMzYEH ISOLATED FORM",
  "FCF9qGHAIN WITH ALEF MAKSURA ISOLATED FORMzcYEH ISOLATED FORM",
  "FCFBqSEEN WITH ALEF MAKSURA ISOLATED FORMzbYEH ISOLATED FORM",
  "FCFDrHEEN WITH ALEF MAKSURA ISOLATED FORMzcYEH ISOLATED FORM",
  "FCFFqHAH WITH ALEF MAKSURA ISOLATED FORMzYEH ISOLATED FORM",
  "FD01qJEEM WITH ALEF MAKSURA ISOLATED FORMzbYEH ISOLATED FORM",
  "FD03qKHAH WITH ALEF MAKSURA ISOLATED FORMzbYEH ISOLATED FORM",
  "FD05qSAD WITH ALEF MAKSURA ISOLATED FORMzYEH ISOLATED FORMqDAD WITH ALEF MAKSURA ISOLATED FORM",
  "FD08zYEH ISOLATED FORMqSHEEN WITH JEEM ISOLATED FORMzcHAH ISOLATED FORMzcKHAH ISOLATED FORM",
  "FD0CzcMEEM ISOLATED FORMzcREH ISOLATED FORMrEEN WITH REH ISOLATED FORM",
  "FD0FrAD WITH REH ISOLATED FORMqDAD WITH REH ISOLATED FORMqTAH WITH ALEF MAKSURA FINAL FORM",
  "FD12zYEH FINAL FORMqAIN WITH ALEF MAKSURA FINAL FORMzYEH FINAL FORM",
  "FD15qGHAIN WITH ALEF MAKSURA FINAL FORMzcYEH FINAL FORMqSEEN WITH ALEF MAKSURA FINAL FORM",
  "FD18zbYEH FINAL FORMrHEEN WITH ALEF MAKSURA FINAL FORMzcYEH FINAL FORM",
  "FD1BqHAH WITH ALEF MAKSURA FINAL FORMzYEH FINAL FORMqJEEM WITH ALEF MAKSURA FINAL FORM",
  "FD1EzbYEH FINAL FORMqKHAH WITH ALEF MAKSURA FINAL FORMzbYEH FINAL FORM",
  "FD21qSAD WITH ALEF MAKSURA FINAL FORMzYEH FINAL FORMqDAD WITH ALEF MAKSURA FINAL FORM",
  "FD24zYEH FINAL FORMqSHEEN WITH JEEM FINAL FORMzcHAH FINAL FORMzcKHAH FINAL FORM",
  "FD28zcMEEM FINAL FORMzcREH FINAL FORMrEEN WITH REH FINAL FORMrAD WITH REH FINAL FORM",
  "FD2CqDAD WITH REH FINAL FORMqSHEEN WITH JEEM INITIAL FORMzcHAH INITIAL FORMzcKHAH INITIAL FORM",
  "FD30zcMEEM INITIAL FORMrEEN WITH HEH INITIAL FORMrHEEN WITH HEH INITIAL FORM",
  "FD33qTAH WITH MEEM INITIAL FORMqSEEN WITH JEEM MEDIAL FORMzbHAH MEDIAL FORMzbKHAH MEDIAL FORM",
  "FD37rHEEN WITH JEEM MEDIAL FORMzcHAH MEDIAL FORMzcKHAH MEDIAL FORMqTAH WITH MEEM MEDIAL FORM",
  "FD3BqZAH WITH MEEM MEDIAL FORMqALEF WITH FATHATAN FINAL FORMzkISOLATED FORM",
  "FD3EaORNATE LEFT PARENTHESIShRIGHT PARENTHESISaARABIC LIGATURE RAHIMAHU ALLAAHsDI ALLAAHU ANH",
  "FD42zhAAzhUMzjAAziNNAqSALLALLAAHU ALAYHI WA-AALIHqALAYHI AS-SALAAMwM AS-SALAAMxAA AS-SALAAM",
  "FD4Aw AS-SALAATU WAS-SALAAMqQUDDISA SIRRAHqSALLALLAHU ALAYHI WAAALIHEE WA-SALLAM",
  "FD4DqALAYHAA AS-SALAAMqTABAARAKA WA-TAAALAAqRAHIMAHUM ALLAAH",
  "FD50qTEH WITH JEEM WITH MEEM INITIAL FORMzHAH WITH JEEM FINAL FORMzoINITIAL FORM",
  "FD53zjMEEM INITIAL FORMzKHAH WITH MEEM INITIAL FORMzMEEM WITH JEEM INITIAL FORM",
  "FD56zkHAH INITIAL FORMzkKHAH INITIAL FORMqJEEM WITH MEEM WITH HAH FINAL FORMzpINITIAL FORM",
  "FD5AqHAH WITH MEEM WITH YEH FINAL FORMzkALEF MAKSURA FINAL FORM",
  "FD5CqSEEN WITH HAH WITH JEEM INITIAL FORMzbJEEM WITH HAH INITIAL FORMzlALEF MAKSURA FINAL FORM",
  "FD5FzbMEEM WITH HAH FINAL FORMzpINITIAL FORMzlJEEM INITIAL FORMzlMEEM FINAL FORMzqINITIAL FORM",
  "FD64rAD WITH HAH WITH HAH FINAL FORMznINITIAL FORMzMEEM WITH MEEM FINAL FORM",
  "FD67rHEEN WITH HAH WITH MEEM FINAL FORMzqINITIAL FORMzcJEEM WITH YEH FINAL FORM",
  "FD6AzcMEEM WITH KHAH FINAL FORMzrINITIAL FORMzmMEEM FINAL FORMzrINITIAL FORM",
  "FD6EqDAD WITH HAH WITH ALEF MAKSURA FINAL FORMzKHAH WITH MEEM FINAL FORMzpINITIAL FORM",
  "FD71qTAH WITH MEEM WITH HAH FINAL FORMzoINITIAL FORMzkMEEM INITIAL FORMzkYEH FINAL FORM",
  "FD75qAIN WITH JEEM WITH MEEM FINAL FORMzMEEM WITH MEEM FINAL FORMzpINITIAL FORM",
  "FD78zkALEF MAKSURA FINAL FORMqGHAIN WITH MEEM WITH MEEM FINAL FORMzmYEH FINAL FORM",
  "FD7BzmALEF MAKSURA FINAL FORMqFEH WITH KHAH WITH MEEM FINAL FORMzpINITIAL FORM",
  "FD7EqQAF WITH MEEM WITH HAH FINAL FORMzkMEEM FINAL FORMqLAM WITH HAH WITH MEEM FINAL FORM",
  "FD81zjYEH FINAL FORMzjALEF MAKSURA FINAL FORMzJEEM WITH JEEM INITIAL FORMzpFINAL FORM",
  "FD85zKHAH WITH MEEM FINAL FORMzpINITIAL FORMzMEEM WITH HAH FINAL FORMzoINITIAL FORM",
  "FD89qMEEM WITH HAH WITH JEEM INITIAL FORMzkMEEM INITIAL FORMzkYEH FINAL FORM",
  "FD8CzbJEEM WITH HAH INITIAL FORMzlMEEM INITIAL FORMzbKHAH WITH JEEM INITIAL FORM",
  "FD8FzlMEEM INITIAL FORM",
  "FD92zbJEEM WITH KHAH INITIAL FORMqHEH WITH MEEM WITH JEEM INITIAL FORMzkMEEM INITIAL FORM",
  "FD95qNOON WITH HAH WITH MEEM INITIAL FORMzkALEF MAKSURA FINAL FORMzbJEEM WITH MEEM FINAL FORM",
  "FD98zqINITIAL FORMzlALEF MAKSURA FINAL FORMzbMEEM WITH YEH FINAL FORMzlALEF MAKSURA FINAL FORM",
  "FD9CqYEH WITH MEEM WITH MEEM FINAL FORMzpINITIAL FORMqBEH WITH KHAH WITH YEH FINAL FORM",
  "FD9FqTEH WITH JEEM WITH YEH FINAL FORMzkALEF MAKSURA FINAL FORMzKHAH WITH YEH FINAL FORM",
  "FDA2zkALEF MAKSURA FINAL FORMzMEEM WITH YEH FINAL FORMzkALEF MAKSURA FINAL FORM",
  "FDA5qJEEM WITH MEEM WITH YEH FINAL FORMzbHAH WITH ALEF MAKSURA FINAL FORM",
  "FDA7zbMEEM WITH ALEF MAKSURA FINAL FORMqSEEN WITH KHAH WITH ALEF MAKSURA FINAL FORM",
  "FDA9rAD WITH HAH WITH YEH FINAL FORMrHEEN WITH HAH WITH YEH FINAL FORM",
  "FDABqDAD WITH HAH WITH YEH FINAL FORMqLAM WITH JEEM WITH YEH FINAL FORM",
  "FDADzMEEM WITH YEH FINAL FORMqYEH WITH HAH WITH YEH FINAL FORMzJEEM WITH YEH FINAL FORM",
  "FDB0zMEEM WITH YEH FINAL FORMqMEEM WITH MEEM WITH YEH FINAL FORM",
  "FDB2qQAF WITH MEEM WITH YEH FINAL FORMqNOON WITH HAH WITH YEH FINAL FORM",
  "FDB4qQAF WITH MEEM WITH HAH INITIAL FORMqLAM WITH HAH WITH MEEM INITIAL FORM",
  "FDB6qAIN WITH MEEM WITH YEH FINAL FORMqKAF WITH MEEM WITH YEH FINAL FORM",
  "FDB8qNOON WITH JEEM WITH HAH INITIAL FORMqMEEM WITH KHAH WITH YEH FINAL FORM",
  "FDBAqLAM WITH JEEM WITH MEEM INITIAL FORMqKAF WITH MEEM WITH MEEM FINAL FORM",
  "FDBCqLAM WITH JEEM WITH MEEM FINAL FORMqNOON WITH JEEM WITH HAH FINAL FORM",
  "FDBEqJEEM WITH HAH WITH YEH FINAL FORMqHAH WITH JEEM WITH YEH FINAL FORM",
  "FDC0qMEEM WITH JEEM WITH YEH FINAL FORMqFEH WITH MEEM WITH YEH FINAL FORM",
  "FDC2qBEH WITH HAH WITH YEH FINAL FORMqKAF WITH MEEM WITH MEEM INITIAL FORM",
  "FDC4qAIN WITH JEEM WITH MEEM INITIAL FORMqSAD WITH MEEM WITH MEEM INITIAL FORM",
  "FDC6rEEN WITH KHAH WITH YEH FINAL FORMqNOON WITH JEEM WITH YEH FINAL FORM",
  "FDCFqSALAAMUHU ALAYNAA",
  "FDF0tLA USED AS KORANIC STOP SIGN ISOLATED FORMqQALA USED AS KORANIC STOP SIGN ISOLATED FORM",
  "FDF2qALLAH ISOLATED FORMrKBAR ISOLATED FORMqMOHAMMAD ISOLATED FORMqSALAM ISOLATED FORM",
  "FDF6qRASOUL ISOLATED FORMqALAYHE ISOLATED FORMqWASALLAM ISOLATED FORMqSALLA ISOLATED FORM",
  "FDFAvLLAHOU ALAYHE WASALLAMqJALLAJALALOUHOUaRIAL SIGN",
  "FDFDaARABIC LIGATURE BISMILLAH AR-RAHMAN AR-RAHEEMqSUBHAANAHU WA TAAALAAqAZZA WA JALL",
  "FE00aVARIATION SELECTOR-1t2t3t4t5t6t7t8t9t10u1u2u3u4u5u6aPRESENTATION FORM FOR VERTICAL COMMA",
  "FE11zgIDEOGRAPHIC COMMAzsFULL STOPzgCOLONzgSEMICOLONzgEXCLAMATION MARKzgQUESTION MARK",
  "FE17zgLEFT WHITE LENTICULAR BRACKETzgRIGHT WHITE LENTICULAR BRAKCETzgHORIZONTAL ELLIPSIS",
  "FE20aCOMBINING LIGATURE LEFT HALFtRIGHT HALFkDOUBLE TILDE LEFT HALFxRIGHT HALF",
  "FE24kMACRON LEFT HALFrRIGHT HALFkCONJOINING MACRONkLIGATURE LEFT HALF BELOWtRIGHT HALF BELOW",
  "FE29kTILDE LEFT HALF BELOWqRIGHT HALF BELOWkMACRON LEFT HALF BELOWrRIGHT HALF BELOW",
  "FE2DkCONJOINING MACRON BELOWlYRILLIC TITLO LEFT HALFzRIGHT HALF",
  "FE30aPRESENTATION FORM FOR VERTICAL TWO DOT LEADERzgEM DASHzhN DASHzgLOW LINEzgWAVY LOW LINE",
  "FE35zgLEFT PARENTHESISzgRIGHT PARENTHESISzgLEFT CURLY BRACKETzgRIGHT CURLY BRACKET",
  "FE39zgLEFT TORTOISE SHELL BRACKETzgRIGHT TORTOISE SHELL BRACKETzgLEFT BLACK LENTICULAR BRACKET",
  "FE3CzgRIGHT BLACK LENTICULAR BRACKETzgLEFT DOUBLE ANGLE BRACKETzgRIGHT DOUBLE ANGLE BRACKET",
  "FE3FzgLEFT ANGLE BRACKETzgRIGHT ANGLE BRACKETzgLEFT CORNER BRACKETzgRIGHT CORNER BRACKET",
  "FE43zgLEFT WHITE CORNER BRACKETzgRIGHT WHITE CORNER BRACKETaSESAME DOTaWHITE SESAME DOT",
  "FE47aPRESENTATION FORM FOR VERTICAL LEFT SQUARE BRACKETzgRIGHT SQUARE BRACKETaDASHED OVERLINE",
  "FE4AaCENTRELINE OVERLINEaWAVY OVERLINEaDOUBLE WAVY OVERLINEbASHED LOW LINEaCENTRELINE LOW LINE",
  "FE4FaWAVY LOW LINEaSMALL COMMAgIDEOGRAPHIC COMMAgFULL STOP",
  "FE54gSEMICOLONgCOLONgQUESTION MARKgEXCLAMATION MARKhM DASHgLEFT PARENTHESISgRIGHT PARENTHESIS",
  "FE5BgLEFT CURLY BRACKETgRIGHT CURLY BRACKETgLEFT TORTOISE SHELL BRACKET",
  "FE5EgRIGHT TORTOISE SHELL BRACKETgNUMBER SIGNgAMPERSANDhSTERISKgPLUS SIGNgHYPHEN-MINUS",
  "FE64gLESS-THAN SIGNgGREATER-THAN SIGNgEQUALS SIGN",
  "FE68gREVERSE SOLIDUSgDOLLAR SIGNgPERCENT SIGNgCOMMERCIAL AT",
  "FE70aARABIC FATHATAN ISOLATED FORMhTATWEEL WITH FATHATAN ABOVEhDAMMATAN ISOLATED FORM",
  "FE73hTAIL FRAGMENThKASRATAN ISOLATED FORM",
  "FE76hFATHA ISOLATED FORMnMEDIAL FORMhDAMMA ISOLATED FORMnMEDIAL FORMhKASRA ISOLATED FORM",
  "FE7BnMEDIAL FORMhSHADDA ISOLATED FORMoMEDIAL FORMiUKUN ISOLATED FORMnMEDIAL FORM",
  "FE80hLETTER HAMZA ISOLATED FORMoALEF WITH MADDA ABOVE ISOLATED FORMzlFINAL FORM",
  "FE83yHAMZA ABOVE ISOLATED FORMzlFINAL FORMoWAW WITH HAMZA ABOVE ISOLATED FORMzkFINAL FORM",
  "FE87oALEF WITH HAMZA BELOW ISOLATED FORMzlFINAL FORMoYEH WITH HAMZA ABOVE ISOLATED FORM",
  "FE8AzkFINAL FORMzkINITIAL FORMzkMEDIAL FORMoALEF ISOLATED FORMtFINAL FORMoBEH ISOLATED FORM",
  "FE90sFINAL FORMsINITIAL FORMsMEDIAL FORMoTEH MARBUTA ISOLATED FORMzbFINAL FORMsISOLATED FORM",
  "FE96sFINAL FORMsINITIAL FORMsMEDIAL FORMpHEH ISOLATED FORMtFINAL FORMtINITIAL FORMtMEDIAL FORM",
  "FE9DoJEEM ISOLATED FORMtFINAL FORMtINITIAL FORMtMEDIAL FORMoHAH ISOLATED FORMsFINAL FORM",
  "FEA3sINITIAL FORMsMEDIAL FORMoKHAH ISOLATED FORMtFINAL FORMtINITIAL FORMtMEDIAL FORM",
  "FEA9oDAL ISOLATED FORMsFINAL FORMoTHAL ISOLATED FORMtFINAL FORMoREH ISOLATED FORMsFINAL FORM",
  "FEAFoZAIN ISOLATED FORMtFINAL FORMoSEEN ISOLATED FORMtFINAL FORMtINITIAL FORMtMEDIAL FORM",
  "FEB5pHEEN ISOLATED FORMuFINAL FORMuINITIAL FORMuMEDIAL FORMpAD ISOLATED FORMsFINAL FORM",
  "FEBBsINITIAL FORMsMEDIAL FORMoDAD ISOLATED FORMsFINAL FORMsINITIAL FORMsMEDIAL FORM",
  "FEC1oTAH ISOLATED FORMsFINAL FORMsINITIAL FORMsMEDIAL FORMoZAH ISOLATED FORMsFINAL FORM",
  "FEC7sINITIAL FORMsMEDIAL FORMoAIN ISOLATED FORMsFINAL FORMsINITIAL FORMsMEDIAL FORM",
  "FECDoGHAIN ISOLATED FORMuFINAL FORMuINITIAL FORMuMEDIAL FORMoFEH ISOLATED FORMsFINAL FORM",
  "FED3sINITIAL FORMsMEDIAL FORMoQAF ISOLATED FORMsFINAL FORMsINITIAL FORMsMEDIAL FORM",
  "FED9oKAF ISOLATED FORMsFINAL FORMsINITIAL FORMsMEDIAL FORMoLAM ISOLATED FORMsFINAL FORM",
  "FEDFsINITIAL FORMsMEDIAL FORMoMEEM ISOLATED FORMtFINAL FORMtINITIAL FORMtMEDIAL FORM",
  "FEE5oNOON ISOLATED FORMtFINAL FORMtINITIAL FORMtMEDIAL FORMoHEH ISOLATED FORMsFINAL FORM",
  "FEEBsINITIAL FORMsMEDIAL FORMoWAW ISOLATED FORMsFINAL FORMoALEF MAKSURA ISOLATED FORM",
  "FEF0zcFINAL FORMoYEH ISOLATED FORMsFINAL FORMsINITIAL FORMsMEDIAL FORM",
  "FEF5iIGATURE LAM WITH ALEF WITH MADDA ABOVE ISOLATED FORMzwFINAL FORM",
  "FEF7zkHAMZA ABOVE ISOLATED FORMzwFINAL FORMzqBELOW ISOLATED FORMzwFINAL FORMzfISOLATED FORM",
  "FEFCzfFINAL FORM",
  "FEFFaZERO WIDTH NO-BREAK SPACE",
  "FF01aFULLWIDTH EXCLAMATION MARKkQUOTATION MARKkNUMBER SIGNkDOLLAR SIGNkPERCENT SIGNkAMPERSAND",
  "FF07lPOSTROPHEkLEFT PARENTHESISkRIGHT PARENTHESISkASTERISKkPLUS SIGNkCOMMAkHYPHEN-MINUS",
  "FF0EkFULL STOPkSOLIDUSkDIGIT ZEROqONEqTWOrHREEqFOURrIVEqSIXrEVENqEIGHTqNINEkCOLONkSEMICOLON",
  "FF1CkLESS-THAN SIGNkEQUALS SIGNkGREATER-THAN SIGNkQUESTION MARKkCOMMERCIAL AT",
  "FF21kLATIN CAPITAL LETTER AzgBzgCzgDzgEzgFzgGzgHzgIzgJzgKzgLzgMzgNzgOzgPzgQzgRzgSzgTzgUzgVzgW",
  "FF38zgXzgYzgZlEFT SQUARE BRACKETkREVERSE SOLIDUSlIGHT SQUARE BRACKETkCIRCUMFLEX ACCENT",
  "FF3FkLOW LINEkGRAVE ACCENTkLATIN SMALL LETTER AzeBzeCzeDzeEzeFzeGzeHzeIzeJzeKzeLzeMzeNzeOzeP",
  "FF51zeQzeRzeSzeTzeUzeVzeWzeXzeYzeZlEFT CURLY BRACKETkVERTICAL LINEkRIGHT CURLY BRACKETkTILDE",
  "FF5FkLEFT WHITE PARENTHESISkRIGHT WHITE PARENTHESISaHALFWIDTH IDEOGRAPHIC FULL STOP",
  "FF62kLEFT CORNER BRACKETkRIGHT CORNER BRACKETkIDEOGRAPHIC COMMAkKATAKANA MIDDLE DOTtLETTER WO",
  "FF67zbSMALL AzhIzhUzhEzhOzhYAziUziOzhTUs-HIRAGANA PROLONGED SOUND MARKs LETTER AzbIzbUzbEzbO",
  "FF76zbKAzcIzcUzcEzcOzbSAzcIzcUzcEzcOzbTAzcIzcUzcEzcOzbNAzcIzcUzcEzcOzbHAzcIzcUzcEzcOzbMAzcIzcU",
  "FF92zcEzcOzbYAzcUzcOzbRAzcIzcUzcEzcOzbWAzbNtVOICED SOUND MARKtSEMI-VOICED SOUND MARK",
  "FFA0kHANGUL FILLERrLETTER KIYEOKySSANGKIYEOKyKIYEOK-SIOSyNIEUNze-CIEUCzfHIEUHyTIKEUT",
  "FFA8ySSANGTIKEUTyRIEULze-KIYEOKzfMIEUMzfPIEUPzfSIOSzfTHIEUTHzfPHIEUPHzfHIEUHyMIEUMyPIEUP",
  "FFB3ySSANGPIEUPyPIEUP-SIOSySIOSzSANGSIOSyIEUNGyCIEUCySSANGCIEUCyCHIEUCHyKHIEUKHyTHIEUTH",
  "FFBDyPHIEUPHyHIEUH",
  "FFC2yAzEyYAzbEyEOyE",
  "FFCAyYEOzEyOyWAzbEyOE",
  "FFD2yYOyUyWEOzEzIyYU",
  "FFDAyEUyYIyI",
  "FFE0aFULLWIDTH CENT SIGNkPOUND SIGNkNOT SIGNkMACRONkBROKEN BARkYEN SIGNkWON SIGN",
  "FFE8aHALFWIDTH FORMS LIGHT VERTICALkLEFTWARDS ARROWkUPWARDS ARROWkRIGHTWARDS ARROW",
  "FFECkDOWNWARDS ARROWkBLACK SQUAREkWHITE CIRCLE",
  "FFF9aINTERLINEAR ANNOTATION ANCHORxSEPARATORxTERMINATORaOBJECT REPLACEMENT CHARACTER",
  "FFFDaREPLACEMENT CHARACTER"]

end ModuleBridge.Text
