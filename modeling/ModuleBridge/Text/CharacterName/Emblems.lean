/-!
# Names of characters from U+1E000 and above: more scripts, and emoji
-/

namespace ModuleBridge.Text

/-- Lines of names. -/
def emblemNames : List String := [
  "1E000aCOMBINING GLAGOLITIC LETTER AZUzdBUKYzdVEDEzdGLAGOLIzdDOBROzdYESTUzdZHIVETE",
  "1E008zeEMLJAzdIZHEzeNITIAL IZHEzdIzdDJERVIzdKAKOzdLJUDIJEzdMYSLITEzdNASHIzdONUzdPOKOJIzdRITSI",
  "1E014zdSLOVOzdTVRIDOzdUKUzdFRITUzdHERU",
  "1E01BzdSHTAzdTSIzdCHRIVIzdSHAzdYERUzgIzeATI",
  "1E023zeUzdSMALL YUS",
  "1E026zdYOzdIOTATED SMALL YUSzdBIG YUSzdIOTATED BIG YUSzdFITA",
  "1E100aNYIAKENG PUACHUE HMONG LETTER MAzfTSAzfNTAzfTAzfHAzfNAzfXAzfNKAzfCAzfLAzfSAzfZAzfNCA",
  "1E10DzgTSAzfKAzfDAzfNYAzgRAzfVAzfNTXAzfTXAzfFAzfRAzfQAzfYAzfNQAzfPAzfXYAzfNPAzfDLAzfNPLAzfHAH",
  "1E120zfMLAzfPLAzfGAzfRRAzfAzgAzfIzfUzfOzgOzfEzgEzfW",
  "1E130xTONE-BzdMzdJzdVzdSzdGzdDxSIGN FOR PERSONzhTHINGzhLOCATIONzhANIMALzhINVERTEBRATEzdXW XW",
  "1E13DyYLLABLE LENGTHENER",
  "1E140xDIGIT ZEROzeONEzeTWOzfHREEzeFOURzfIVEzeSIXzfEVENzeEIGHTzeNINE",
  "1E14ExLOGOGRAM NYAJxCIRCLED CA",
  "1E290aTOTO LETTER PAmBAmTAmDAmKAmGAmMAmNAnGAmSAmCHAmYAmWAmJAmHAmRAmLAmImBREATHY ImIU",
  "1E2A4mBREATHY IUmUmEmBREATHY EmEOmBREATHY EOmOmAEmBREATHY AEmAfSIGN RISING TONE",
  "1E2C0aWANCHO LETTER AAoAoBAoCAoDAoGAoYAoPHAoLAoNAoPAoTApHAoFAoSApHAoJAoZAoWAoVAoKAoOoAUoRAoMA",
  "1E2D9oKHAoHAoEoIoNGAoUoLLHAoTSApRAoONGoAANGpNGoINGoONoENoAANoNYAoUENoYIHhTONE TUPpNImKOIpNI",
  "1E2F0hDIGIT ZEROnONEnTWOoHREEnFOURoIVEnSIXoEVENnEIGHTnNINE",
  "1E2FFhNGUN SIGN",
  "1E7E0aETHIOPIC SYLLABLE HHYAvUvIvAAvEEvEvO",
  "1E7E8sGURAGE HHWAsHHWIvEEvE",
  "1E7EDsGURAGE MWIzcEE",
  "1E7F0zQWIzcEEzcEzBWIzcEEzKWIzcEEzcEzGWIzcEEzcEzFWIzcEEzPWIzcEE",
  "1E800aMENDE KIKAKUI SYLLABLE M001 KIzb2 KAzb3 KUz65 KEEz95 KEz76 KOOz48 KOy179 KUAy004 WI",
  "1E809zb5 WAzb6 WUy126 WEEz18 WEzb4 WOOy045 WOy194 WUIz43 WEIy061 WVIz49 WVAy139 WVEy007 MIN",
  "1E815zb8 MANzb9 MUNz59 MENz94 MONy154 MUANz89 MUENy010 BIzb1 BAzb2 BUy150 BEEy097 BEy103 BOO",
  "1E821z38 BOy013 Izb4 Azb5 Uy163 EEz00 Ez65 OOz47 Oz37 EIzb1 INzb5 INz95 ANz78 ENy019 SIz20 SA",
  "1E830zb1 SUy162 SEEz16 SEz36 SOOy079 SOy196 SIAy025 LIzb6 LAzb7 LUz84 LEEz73 LEz54 LOOy153 LO",
  "1E83Dz10 LONG LEy016 DIzb7 DAzb8 DUz89 DEEy180 DOOzb1 DOy022 TIzb3 TAzb4 TUz91 TEEz55 TE",
  "1E849y104 TOOy069 TOz28 JIzb9 JAz30 JUy157 JEEz13 JEz60 JOOy063 JOy175 LONG JOy031 YIzb2 YA",
  "1E855zb3 YUy109 YEEy080 YEy141 YOOz21 YOy034 FIzb5 FAzb6 FUz78 FEEzb5 FEy133 FOOy088 FO",
  "1E861y197 FUAz01 FANy037 NINzb8 NANzb9 NUNy117 NENz69 NONz76 HIy041 HAy186 HUy040 HEEz96 HE",
  "1E86Dz42 HOOy140 HOy083 HEEIy128 HOOUy053 HINy130 HANy087 HUNz52 HENy193 HONy046 HUANz90 NGGI",
  "1E878z43 NGGAz82 NGGUy115 NGGEEz46 NGGEz56 NGGOOz20 NGGOz59 NGGAAz27 NGGUAy086 LONG NGGE",
  "1E881y106 LONG NGGOOz83 LONG NGGOz55 GIz11 GAz68 GUz90 GEEz66 GUEIzb7 GUANz84 NGENy057 NGON",
  "1E88By177 NGUANy068 PIz99 PAz50 PUz81 PEEz51 PEy102 POOy066 POy145 MBIy062 MBAy122 MBU",
  "1E896y047 MBEEy188 MBEEy072 MBEy172 MBOOzb4 MBOz87 MBUUz61 LONG MBEz05 LONG MBOOz42 LONG MBO",
  "1E89Fz32 KPIy092 KPAz74 KPUz44 KPEEy108 KPEz12 KPOOz58 KPOz24 GBIy056 GBAy148 GBUy093 GBEE",
  "1E8AAy107 GBEy071 GBOOzb0 GBOy171 RAz23 NDIzb9 NDAzb5 NDUz91 NDEEz19 NDEy067 NDOOzb4 NDO",
  "1E8B5y152 NJAz92 NJUz49 NJEEz34 NJOOz82 VIzb5 VAz51 VUz73 VEEy085 VEy144 VOOy077 VOy164 NYIN",
  "1E8C1y058 NYANy170 NYUNy098 NYENz60 NYON",
  "1E8C7oDIGIT ONEuTWOvHREEuFOURvIVEuSIXvEVENuEIGHTuNINEoCOMBINING NUMBER TEENSziNSzgHUNDREDS",
  "1E8D3zgTHOUSANDSzhEN THOUSANDSzgHUNDRED THOUSANDSzgMILLIONS",
  "1E900aADLAM CAPITAL LETTER ALIFvDAALIvLAAMvMIIMvBAvSINNYIIYHEvPEvBHEvRAvEvFAvIvOvDHAvYHEvWAW",
  "1E910vNUNvKAFvYAvUvJIIMvCHIvHAvQAAFvGAvNYAvTUvNHAvVAvKHAvGBEvZALvKPOvSHAgSMALL LETTER ALIF",
  "1E923tDAALItLAAMtMIIMtBAtSINNYIIYHEtPEtBHEtRAtEtFAtItOtDHAtYHEtWAWtNUNtKAFtYAtUtJIIMtCHItHA",
  "1E939tQAAFtGAtNYAtTUtNHAtVAtKHAtGBEtZALtKPOtSHAgALIF LENGTHENERgVOWEL LENGTHENER",
  "1E946gGEMINATION MARKgHAMZAgCONSONANT MODIFIERgGEMINATE CONSONANT MODIFIERgNUKTA",
  "1E94BhASALIZATION MARK",
  "1E950gDIGIT ZEROmONEmTWOnHREEmFOURnIVEmSIXnEVENmEIGHTmNINE",
  "1E95EgINITIAL EXCLAMATION MARKoQUESTION MARK",
  "1EC71aINDIC SIYAQ NUMBER ONEtTWOuHREEtFOURuIVEtSIXuEVENtEIGHTtNINEtTENuWENTYuHIRTYtFORTYuIFTY",
  "1EC7FtSIXTYuEVENTYtEIGHTYtNINETYtONE HUNDREDtTWO HUNDREDuHREE HUNDREDtFOUR HUNDREDuIVE HUNDRED",
  "1EC88tSIX HUNDREDuEVEN HUNDREDtEIGHT HUNDREDtNINE HUNDREDtONE THOUSANDtTWO THOUSAND",
  "1EC8EuHREE THOUSANDtFOUR THOUSANDuIVE THOUSANDtSIX THOUSANDuEVEN THOUSANDtEIGHT THOUSAND",
  "1EC94tNINE THOUSANDtTEN THOUSANDuWENTY THOUSANDuHIRTY THOUSANDtFORTY THOUSANDuIFTY THOUSAND",
  "1EC9AtSIXTY THOUSANDuEVENTY THOUSANDtEIGHTY THOUSANDtNINETY THOUSANDtLAKHxANmLAKH MARK",
  "1ECA1mNUMBER KARORyANtPREFIXED ONEzdTWOzeHREEzdFOURzeIVEzdSIXzeEVENzdEIGHTzdNINEmPLACEHOLDER",
  "1ECADmFRACTION ONE QUARTERzHALFvTHREE QUARTERSmRUPEE MARKmNUMBER ALTERNATE ONEzeTWO",
  "1ECB3zfEN THOUSANDmALTERNATE LAKH MARK",
  "1ED01aOTTOMAN SIYAQ NUMBER ONEvTWOwHREEvFOURwIVEvSIXwEVENvEIGHTvNINEvTENwWENTYwHIRTYvFORTY",
  "1ED0EwIFTYvSIXTYwEVENTYvEIGHTYvNINETYvONE HUNDREDvTWO HUNDREDwHREE HUNDREDvFOUR HUNDRED",
  "1ED17wIVE HUNDREDvSIX HUNDREDwEVEN HUNDREDvEIGHT HUNDREDvNINE HUNDREDvONE THOUSAND",
  "1ED1DvTWO THOUSANDwHREE THOUSANDvFOUR THOUSANDwIVE THOUSANDvSIX THOUSANDwEVEN THOUSAND",
  "1ED23vEIGHT THOUSANDvNINE THOUSANDvTEN THOUSANDwWENTY THOUSANDwHIRTY THOUSANDvFORTY THOUSAND",
  "1ED29wIFTY THOUSANDvSIXTY THOUSANDwEVENTY THOUSANDvEIGHTY THOUSANDvNINETY THOUSANDoMARRATAN",
  "1ED2FoALTERNATE NUMBER TWOzhHREEzgFOURzhIVEzgSIXzhEVENzgEIGHTzgNINEzgTENzgFOUR HUNDRED",
  "1ED39zgSIX HUNDREDzgTWO THOUSANDzhEN THOUSANDoFRACTION ONE HALFzcSIXTH",
  "1EE00aARABIC MATHEMATICAL ALEFuBEHuJEEMuDAL",
  "1EE05uWAWuZAINuHAHuTAHuYEHuKAFuLAMuMEEMuNOONuSEENuAINuFEHuSADuQAFuREHuSHEENuTEHvHEHuKHAHuTHAL",
  "1EE19uDADuZAHuGHAINuDOTLESS BEHzdNOONzdFEHzdQAF",
  "1EE21uINITIAL BEHzdJEEM",
  "1EE24zdHEH",
  "1EE27zeAH",
  "1EE29zdYEHzdKAFzdLAMzdMEEMzdNOONzdSEENzdAINzdFEHzdSADzdQAF",
  "1EE34zdSHEENzdTEHzeHEHzdKHAH",
  "1EE39zdDAD",
  "1EE3BzdGHAIN",
  "1EE42uTAILED JEEM",
  "1EE47zcHAH",
  "1EE49zcYEH",
  "1EE4BzcLAM",
  "1EE4DzcNOONzcSEENzcAIN",
  "1EE51zcSADzcQAF",
  "1EE54zcSHEEN",
  "1EE57zcKHAH",
  "1EE59zcDAD",
  "1EE5BzcGHAIN",
  "1EE5DzcDOTLESS NOON",
  "1EE5FzkQAF",
  "1EE61uSTRETCHED BEHzfJEEM",
  "1EE64zfHEH",
  "1EE67zgAHzfTAHzfYEHzfKAF",
  "1EE6CzfMEEMzfNOONzfSEENzfAINzfFEHzfSADzfQAF",
  "1EE74zfSHEENzfTEHzgHEHzfKHAH",
  "1EE79zfDADzfZAHzfGHAINzfDOTLESS BEH",
  "1EE7EznFEH",
  "1EE80uLOOPED ALEFzcBEHzcJEEMzcDALzcHEHzcWAWzcZAINzcHAHzcTAHzcYEH",
  "1EE8BzcLAMzcMEEMzcNOONzcSEENzcAINzcFEHzcSADzcQAFzcREHzcSHEENzcTEHzdHEHzcKHAHzcTHALzcDADzcZAH",
  "1EE9BzcGHAIN",
  "1EEA1uDOUBLE-STRUCK BEHzjJEEMzjDAL",
  "1EEA5zjWAWzjZAINzjHAHzjTAHzjYEH",
  "1EEABzjLAMzjMEEMzjNOONzjSEENzjAINzjFEHzjSADzjQAFzjREHzjSHEENzjTEHzkHEHzjKHAHzjTHALzjDADzjZAH",
  "1EEBBzjGHAIN",
  "1EEF0uOPERATOR MEEM WITH HAH WITH TATWEELzeHAH WITH DAL",
  "1F000aMAHJONG TILE EAST WINDnSOUTH WINDnWEST WINDnNORTH WINDnRED DRAGONnGREEN DRAGON",
  "1F006nWHITE DRAGONnONE OF CHARACTERSnTWO OF CHARACTERSoHREE OF CHARACTERSnFOUR OF CHARACTERS",
  "1F00BoIVE OF CHARACTERSnSIX OF CHARACTERSoEVEN OF CHARACTERSnEIGHT OF CHARACTERS",
  "1F00FnNINE OF CHARACTERSnONE OF BAMBOOSnTWO OF BAMBOOSoHREE OF BAMBOOSnFOUR OF BAMBOOS",
  "1F014oIVE OF BAMBOOSnSIX OF BAMBOOSoEVEN OF BAMBOOSnEIGHT OF BAMBOOSnNINE OF BAMBOOS",
  "1F019nONE OF CIRCLESnTWO OF CIRCLESoHREE OF CIRCLESnFOUR OF CIRCLESoIVE OF CIRCLES",
  "1F01EnSIX OF CIRCLESoEVEN OF CIRCLESnEIGHT OF CIRCLESnNINE OF CIRCLESnPLUMnORCHIDnBAMBOO",
  "1F025nCHRYSANTHEMUMnSPRINGoUMMERnAUTUMNnWINTERnJOKERnBACK",
  "1F030aDOMINO TILE HORIZONTAL BACKw-00-00zc1zc2zc3zc4zc5zc6y1-00zc1zc2zc3zc4zc5zc6y2-00zc1zc2",
  "1F042zc3zc4zc5zc6y3-00zc1zc2zc3zc4zc5zc6y4-00zc1zc2zc3zc4zc5zc6y5-00zc1zc2zc3zc4zc5zc6y6-00zc1",
  "1F05Dzc2zc3zc4zc5zc6mVERTICAL BACKu-00-00z1z2z3z4z5z6w1-00z1z2z3z4z5z6w2-00z1z2z3z4z5z6w3-00z1",
  "1F07Az2z3z4z5z6w4-00z1z2z3z4z5z6w5-00z1z2z3z4z5z6w6-00z1z2z3z4z5z6",
  "1F0A0aPLAYING CARD BACKnACE OF SPADESnTWO OF SPADESoHREE OF SPADESnFOUR OF SPADES",
  "1F0A5oIVE OF SPADESnSIX OF SPADESoEVEN OF SPADESnEIGHT OF SPADESnNINE OF SPADESnTEN OF SPADES",
  "1F0ABnJACK OF SPADESnKNIGHT OF SPADESnQUEEN OF SPADESnKING OF SPADES",
  "1F0B1nACE OF HEARTSnTWO OF HEARTSoHREE OF HEARTSnFOUR OF HEARTSoIVE OF HEARTSnSIX OF HEARTS",
  "1F0B7oEVEN OF HEARTSnEIGHT OF HEARTSnNINE OF HEARTSnTEN OF HEARTSnJACK OF HEARTS",
  "1F0BCnKNIGHT OF HEARTSnQUEEN OF HEARTSnKING OF HEARTSnRED JOKER",
  "1F0C1nACE OF DIAMONDSnTWO OF DIAMONDSoHREE OF DIAMONDSnFOUR OF DIAMONDSoIVE OF DIAMONDS",
  "1F0C6nSIX OF DIAMONDSoEVEN OF DIAMONDSnEIGHT OF DIAMONDSnNINE OF DIAMONDSnTEN OF DIAMONDS",
  "1F0CBnJACK OF DIAMONDSnKNIGHT OF DIAMONDSnQUEEN OF DIAMONDSnKING OF DIAMONDSnBLACK JOKER",
  "1F0D1nACE OF CLUBSnTWO OF CLUBSoHREE OF CLUBSnFOUR OF CLUBSoIVE OF CLUBSnSIX OF CLUBS",
  "1F0D7oEVEN OF CLUBSnEIGHT OF CLUBSnNINE OF CLUBSnTEN OF CLUBSnJACK OF CLUBSnKNIGHT OF CLUBS",
  "1F0DDnQUEEN OF CLUBSnKING OF CLUBSnWHITE JOKERnFOOLnTRUMP-1t2t3t4t5t6t7t8t9t10u1u2u3u4u5u6u7u8",
  "1F0F3u9t20u1",
  "1F100aDIGIT ZERO FULL STOPlCOMMAgONE COMMAgTWO COMMAhHREE COMMAgFOUR COMMAhIVE COMMAgSIX COMMA",
  "1F108hEVEN COMMAgEIGHT COMMAgNINE COMMAcNGBAT CIRCLED SANS-SERIF DIGIT ZERO",
  "1F10CiNEGATIVE CIRCLED SANS-SERIF DIGIT ZEROaCIRCLED ZERO WITH SLASHiANTICLOCKWISE ARROW",
  "1F10FiDOLLAR SIGN WITH OVERLAID BACKSLASHaPARENTHESIZED LATIN CAPITAL LETTER AzkBzkCzkDzkEzkF",
  "1F116zkGzkHzkIzkJzkKzkLzkMzkNzkOzkPzkQzkRzkSzkTzkUzkVzkWzkXzkYzkZ",
  "1F12AaTORTOISE SHELL BRACKETED LATIN CAPITAL LETTER SaCIRCLED ITALIC LATIN CAPITAL LETTER CzlR",
  "1F12DiCDiWZbOPYLEFT SYMBOLaSQUARED LATIN CAPITAL LETTER AzeBzeCzeDzeEzeFzeGzeHzeIzeJzeKzeLzeM",
  "1F13DzeNzeOzePzeQzeRzeSzeTzeUzeVzeWzeXzeYzeZiHViMViSDjSiPPViWC",
  "1F150aNEGATIVE CIRCLED LATIN CAPITAL LETTER AznBznCznDznEznFznGznHznIznJznKznLznMznNznOznPznQ",
  "1F161znRznSznTznUznVznWznXznYznZaRAISED MC SIGNiD SIGNiR SIGNaCIRCLED CC",
  "1F16Ej WITH OVERLAID BACKSLASHiHUMAN FIGUREaNEGATIVE SQUARED LATIN CAPITAL LETTER AznBznCznD",
  "1F174znEznFznGznHznIznJznKznLznMznNznOznPznQznRznSznTznUznVznWznXznYznZ",
  "1F18AaCROSSED NEGATIVE SQUARED LATIN CAPITAL LETTER PaNEGATIVE SQUARED ICrPArSArABrWC",
  "1F190aSQUARE DJgD CLjOOLiFREEiIDiNEWjGiOKiSOSiUP WITH EXCLAMATION MARKiVSiTHREE D",
  "1F19CiSECOND SCREENiTWO KiFOUR KiEIGHT KiFIVE POINT ONEiSEVEN POINT ONEiTWENTY-TWO POINT TWO",
  "1F1A3iSIXTY PiONE HUNDRED TWENTY PiLATIN SMALL LETTER DiHCjDRjI-RESiLOSSLESSiSHViUHDiVOD",
  "1F1ADaMASK WORK SYMBOL",
  "1F1E6aREGIONAL INDICATOR SYMBOL LETTER AziBziCziDziEziFziGziHziIziJziKziLziMziNziOziPziQziRziS",
  "1F1F9ziTziUziVziWziXziYziZaSQUARE HIRAGANA HOKAgD KATAKANA KOKOrSA",
  "1F210iCJK UNIFIED IDEOGRAPH-624Bzf5B57zg3CCiKATAKANA DEiCJK UNIFIED IDEOGRAPH-4E8Czf591Azf89E3",
  "1F217zf5929zf4EA4zf6620zf7121zf6599zf524DzgF8Czg18Dzf65B0zf521Dzf7D42zg51Fzf8CA9zf58F0zg439",
  "1F226zf6F14zg295zg355zf4E00zi9zf904Azf5DE6zf4E2Dzf53F3zf6307zf8D70zf6253zf7981zgA7Azf5408",
  "1F235zf6E80zg709zi8zf7533zf5272zg5B6zf914D",
  "1F240aTORTOISE SHELL BRACKETED CJK UNIFIED IDEOGRAPH-672Czw4E09zy8Czw5B89zw70B9zw6253zw76D7",
  "1F247zw52DDzw6557",
  "1F250aCIRCLED IDEOGRAPH ADVANTAGEtCCEPT",
  "1F260aROUNDED SYMBOL FOR FUtLUtSHOUtXItSHUANGXItCAI",
  "1F300aCYCLONEaFOGGYaCLOSED UMBRELLAaNIGHT WITH STARSaSUNRISE OVER MOUNTAINSgE",
  "1F306aCITYSCAPE AT DUSKaSUNSET OVER BUILDINGSaRAINBOWaBRIDGE AT NIGHTaWATER WAVEaVOLCANO",
  "1F30CaMILKY WAYaEARTH GLOBE EUROPE-AFRICAmAMERICASnSIA-AUSTRALIAaGLOBE WITH MERIDIANS",
  "1F311aNEW MOON SYMBOLaWAXING CRESCENT MOON SYMBOLaFIRST QUARTER MOON SYMBOL",
  "1F314aWAXING GIBBOUS MOON SYMBOLaFULL MOON SYMBOLaWANING GIBBOUS MOON SYMBOL",
  "1F317aLAST QUARTER MOON SYMBOLaWANING CRESCENT MOON SYMBOLaCRESCENT MOONaNEW MOON WITH FACE",
  "1F31BaFIRST QUARTER MOON WITH FACEaLAST QUARTER MOON WITH FACEaFULL MOON WITH FACE",
  "1F31EaSUN WITH FACEaGLOWING STARaSHOOTING STARaTHERMOMETERaBLACK DROPLETaWHITE SUN",
  "1F324j WITH SMALL CLOUDkBEHIND CLOUDw WITH RAINaCLOUD WITH RAINlSNOWlLIGHTNINGlTORNADOaFOG",
  "1F32CaWIND BLOWING FACEaHOT DOGaTACOaBURRITOaCHESTNUTaSEEDLINGaEVERGREEN TREEaDECIDUOUS TREE",
  "1F334aPALM TREEaCACTUSaHOT PEPPERaTULIPaCHERRY BLOSSOMaROSEaHIBISCUSaSUNFLOWERaBLOSSOM",
  "1F33DaEAR OF MAIZEhRICEaHERBaFOUR LEAF CLOVERaMAPLE LEAFaFALLEN LEAFaLEAF FLUTTERING IN WIND",
  "1F344aMUSHROOMaTOMATOaAUBERGINEaGRAPESaMELONaWATERMELONaTANGERINEaLEMONaBANANAaPINEAPPLE",
  "1F34EaRED APPLEaGREEN APPLEaPEARdCHaCHERRIESaSTRAWBERRYaHAMBURGERaSLICE OF PIZZAaMEAT ON BONE",
  "1F357aPOULTRY LEGaRICE CRACKERfBALLaCOOKED RICEbURRY AND RICEaSTEAMING BOWLbPAGHETTIaBREAD",
  "1F35FaFRENCH FRIESaROASTED SWEET POTATOaDANGOaODENaSUSHIaFRIED SHRIMP",
  "1F365bISH CAKE WITH SWIRL DESIGNaSOFT ICE CREAMbHAVED ICEaICE CREAMaDOUGHNUTaCOOKIE",
  "1F36BbHOCOLATE BARbANDYaLOLLIPOPaCUSTARDaHONEY POTaSHORTCAKEaBENTO BOXaPOT OF FOODaCOOKING",
  "1F374aFORK AND KNIFEaTEACUP WITHOUT HANDLEaSAKE BOTTLE AND CUPaWINE GLASSaCOCKTAIL GLASS",
  "1F379aTROPICAL DRINKaBEER MUGaCLINKING BEER MUGSaBABY BOTTLEaFORK AND KNIFE WITH PLATE",
  "1F37EaBOTTLE WITH POPPING CORKaPOPCORNaRIBBONaWRAPPED PRESENTaBIRTHDAY CAKEaJACK-O-LANTERN",
  "1F384aCHRISTMAS TREEaFATHER CHRISTMASbIREWORKSi SPARKLERaBALLOONaPARTY POPPERaCONFETTI BALL",
  "1F38BaTANABATA TREEaCROSSED FLAGSaPINE DECORATIONaJAPANESE DOLLSaCARP STREAMERaWIND CHIME",
  "1F391aMOON VIEWING CEREMONYaSCHOOL SATCHELaGRADUATION CAPaHEART WITH TIP ON THE LEFT",
  "1F395aBOUQUET OF FLOWERSaMILITARY MEDALaREMINDER RIBBONaMUSICAL KEYBOARD WITH JACKS",
  "1F399aSTUDIO MICROPHONEaLEVEL SLIDERaCONTROL KNOBSaBEAMED ASCENDING MUSICAL NOTES",
  "1F39DhDESCENDING MUSICAL NOTESaFILM FRAMESaADMISSION TICKETSaCAROUSEL HORSEaFERRIS WHEEL",
  "1F3A2aROLLER COASTERaFISHING POLE AND FISHaMICROPHONEbOVIE CAMERAaCINEMAaHEADPHONE",
  "1F3A8aARTIST PALETTEaTOP HATaCIRCUS TENTaTICKETaCLAPPER BOARDaPERFORMING ARTSaVIDEO GAME",
  "1F3AFaDIRECT HITaSLOT MACHINEaBILLIARDSaGAME DIEaBOWLINGaFLOWER PLAYING CARDSaMUSICAL NOTE",
  "1F3B6cLTIPLE MUSICAL NOTESaSAXOPHONEaGUITARaMUSICAL KEYBOARDaTRUMPETaVIOLINaMUSICAL SCORE",
  "1F3BDaRUNNING SHIRT WITH SASHaTENNIS RACQUET AND BALLaSKI AND SKI BOOTaBASKETBALL AND HOOP",
  "1F3C1aCHEQUERED FLAGaSNOWBOARDERaRUNNERaSURFERbPORTS MEDALaTROPHYaHORSE RACING",
  "1F3C8aAMERICAN FOOTBALLaRUGBY FOOTBALLaSWIMMERaWEIGHT LIFTERaGOLFERaRACING MOTORCYCLEhCAR",
  "1F3CFaCRICKET BAT AND BALLaVOLLEYBALLaFIELD HOCKEY STICK AND BALLaICE HOCKEY STICK AND PUCK",
  "1F3D3aTABLE TENNIS PADDLE AND BALLaSNOW CAPPED MOUNTAINaCAMPINGaBEACH WITH UMBRELLA",
  "1F3D7bUILDING CONSTRUCTIONaHOUSE BUILDINGSaCITYSCAPEaDERELICT HOUSE BUILDING",
  "1F3DBaCLASSICAL BUILDINGaDESERTg ISLANDaNATIONAL PARKaSTADIUMaHOUSE BUILDINGgWITH GARDEN",
  "1F3E2aOFFICE BUILDINGaJAPANESE POST OFFICEaEUROPEAN POST OFFICEaHOSPITALaBANK",
  "1F3E7aAUTOMATED TELLER MACHINEaHOTELaLOVE HOTELaCONVENIENCE STOREaSCHOOLaDEPARTMENT STORE",
  "1F3EDaFACTORYaIZAKAYA LANTERNaJAPANESE CASTLEaEUROPEAN CASTLEaWHITE PENNANTaBLACK PENNANT",
  "1F3F3aWAVING WHITE FLAGhBLACK FLAGaROSETTEaBLACK ROSETTEaLABEL",
  "1F3F8aBADMINTON RACQUET AND SHUTTLECOCKbOW AND ARROWaAMPHORA",
  "1F3FBaEMOJI MODIFIER FITZPATRICK TYPE-1-2zh3zh4zh5zh6aRATaMOUSEaOXaWATER BUFFALOaCOWaTIGER",
  "1F406aLEOPARDaRABBITaCATaDRAGONaCROCODILEaWHALEaSNAILdKEaHORSEaRAMaGOATaSHEEPaMONKEYaROOSTER",
  "1F414aCHICKENaDOGaPIGaBOARaELEPHANTaOCTOPUSaSPIRAL SHELLaBUGaANTaHONEYBEEaLADY BEETLEaFISH",
  "1F420aTROPICAL FISHaBLOWFISHaTURTLEaHATCHING CHICKaBABY CHICKaFRONT-FACING BABY CHICKaBIRD",
  "1F427aPENGUINaKOALAaPOODLEaDROMEDARY CAMELaBACTRIAN CAMELaDOLPHINaMOUSE FACEaCOW FACE",
  "1F42FaTIGER FACEaRABBIT FACEaCAT FACEaDRAGON FACEaSPOUTING WHALEaHORSE FACEaMONKEY FACE",
  "1F436aDOG FACEaPIG FACEaFROG FACEaHAMSTER FACEaWOLF FACEaBEAR FACEaPANDA FACEbIG NOSE",
  "1F43EbAW PRINTSaCHIPMUNKaEYEScEbARaNOSEaMOUTHaTONGUEaWHITE UP POINTING BACKHAND INDEX",
  "1F447gDOWN POINTING BACKHAND INDEXgLEFT POINTING BACKHAND INDEXgRIGHT POINTING BACKHAND INDEX",
  "1F44AaFISTED HAND SIGNaWAVING HAND SIGNaOK HAND SIGNaTHUMBS UP SIGNhDOWN SIGN",
  "1F44FaCLAPPING HANDS SIGNaOPEN HANDS SIGNaCROWNaWOMANS HATaEYEGLASSESaNECKTIEaT-SHIRTaJEANS",
  "1F457aDRESSaKIMONOaBIKINIaWOMANS CLOTHESaPURSEaHANDBAGaPOUCHaMANS SHOEaATHLETIC SHOE",
  "1F460aHIGH-HEELED SHOEaWOMANS SANDALhBOOTSaFOOTPRINTSaBUST IN SILHOUETTEeS IN SILHOUETTEbOY",
  "1F467aGIRLaMANaWOMANaFAMILYaMAN AND WOMAN HOLDING HANDSaTWO MEN HOLDING HANDS",
  "1F46DeWOMEN HOLDING HANDSaPOLICE OFFICERaWOMAN WITH BUNNY EARSaBRIDE WITH VEIL",
  "1F471aPERSON WITH BLOND HAIRaMAN WITH GUA PI MAOjTURBANaOLDER MANgWOMANaBABY",
  "1F477aCONSTRUCTION WORKERaPRINCESSaJAPANESE OGREjGOBLINaGHOSTaBABY ANGEL",
  "1F47DaEXTRATERRESTRIAL ALIENaALIEN MONSTERaIMPaSKULLaINFORMATION DESK PERSONaGUARDSMANaDANCER",
  "1F484aLIPSTICKaNAIL POLISHaFACE MASSAGEaHAIRCUTaBARBER POLEaSYRINGEaPILLaKISS MARKaLOVE LETTER",
  "1F48DaRINGaGEM STONEaKISSaBOUQUETaCOUPLE WITH HEARTaWEDDINGaBEATING HEARTbROKEN HEART",
  "1F495aTWO HEARTSaSPARKLING HEARTaGROWING HEARTaHEART WITH ARROWaBLUE HEARTaGREEN HEART",
  "1F49BaYELLOW HEARTaPURPLE HEARTaHEART WITH RIBBONaREVOLVING HEARTSaHEART DECORATION",
  "1F4A0aDIAMOND SHAPE WITH A DOT INSIDEaELECTRIC LIGHT BULBaANGER SYMBOLaBOMBaSLEEPING SYMBOL",
  "1F4A5aCOLLISION SYMBOLaSPLASHING SWEAT SYMBOLaDROPLETbASH SYMBOLaPILE OF POOaFLEXED BICEPS",
  "1F4ABaDIZZY SYMBOLaSPEECH BALLOONaTHOUGHT BALLOONaWHITE FLOWERaHUNDRED POINTS SYMBOLaMONEY BAG",
  "1F4B1aCURRENCY EXCHANGEaHEAVY DOLLAR SIGNaCREDIT CARDaBANKNOTE WITH YEN SIGNoDOLLAR SIGN",
  "1F4B6oEURO SIGNoPOUND SIGNaMONEY WITH WINGSaCHART WITH UPWARDS TREND AND YEN SIGNaSEAT",
  "1F4BBaPERSONAL COMPUTERaBRIEFCASEaMINIDISCaFLOPPY DISKaOPTICAL DISCaDVDaFILE FOLDER",
  "1F4C2aOPEN FILE FOLDERaPAGE WITH CURLfFACING UPaCALENDARaTEAR-OFF CALENDARaCARD INDEX",
  "1F4C8bHART WITH UPWARDS TRENDlDOWNWARDS TRENDaBAR CHARTaCLIPBOARDaPUSHPINaROUND PUSHPIN",
  "1F4CEaPAPERCLIPaSTRAIGHT RULERaTRIANGULAR RULERaBOOKMARK TABSaLEDGERaNOTEBOOK",
  "1F4D4i WITH DECORATIVE COVERaCLOSED BOOKaOPEN BOOKaGREEN BOOKaBLUE BOOKaORANGE BOOKaBOOKS",
  "1F4DBaNAME BADGEaSCROLLaMEMOaTELEPHONE RECEIVERaPAGERaFAX MACHINEaSATELLITE ANTENNA",
  "1F4E2aPUBLIC ADDRESS LOUDSPEAKERaCHEERING MEGAPHONEaOUTBOX TRAYaINBOX TRAYaPACKAGE",
  "1F4E7aE-MAIL SYMBOLaINCOMING ENVELOPEaENVELOPE WITH DOWNWARDS ARROW ABOVE",
  "1F4EAaCLOSED MAILBOX WITH LOWERED FLAGuRAISED FLAGaOPEN MAILBOX WITH RAISED FLAGsLOWERED FLAG",
  "1F4EEaPOSTBOXeAL HORNaNEWSPAPERaMOBILE PHONEm WITH RIGHTWARDS ARROW AT LEFTaVIBRATION MODE",
  "1F4F4aMOBILE PHONE OFFaNO MOBILE PHONESaANTENNA WITH BARSaCAMERAg WITH FLASHaVIDEO CAMERA",
  "1F4FAaTELEVISIONaRADIOaVIDEOCASSETTEaFILM PROJECTORaPORTABLE STEREObRAYER BEADS",
  "1F500aTWISTED RIGHTWARDS ARROWSaCLOCKWISE RIGHTWARDS AND LEFTWARDS OPEN CIRCLE ARROWS",
  "1F502zzd WITH CIRCLED ONE OVERLAYkDOWNWARDS AND UPWARDS OPEN CIRCLE ARROWS",
  "1F504aANTICLOCKWISE DOWNWARDS AND UPWARDS OPEN CIRCLE ARROWSaLOW BRIGHTNESS SYMBOL",
  "1F506aHIGH BRIGHTNESS SYMBOLaSPEAKER WITH CANCELLATION STROKEgRh WITH ONE SOUND WAVE",
  "1F50AnTHREE SOUND WAVESaBATTERYaELECTRIC PLUGaLEFT-POINTING MAGNIFYING GLASS",
  "1F50EaRIGHT-POINTING MAGNIFYING GLASSaLOCK WITH INK PENaCLOSED LOCK WITH KEYaKEYaLOCK",
  "1F513aOPEN LOCKaBELLe WITH CANCELLATION STROKEbOOKMARKaLINK SYMBOLaRADIO BUTTON",
  "1F519aBACK WITH LEFTWARDS ARROW ABOVEaEND WITH LEFTWARDS ARROW ABOVE",
  "1F51BaON WITH EXCLAMATION MARK WITH LEFT RIGHT ARROW ABOVEaSOON WITH RIGHTWARDS ARROW ABOVE",
  "1F51DaTOP WITH UPWARDS ARROW ABOVEaNO ONE UNDER EIGHTEEN SYMBOLaKEYCAP TEN",
  "1F520aINPUT SYMBOL FOR LATIN CAPITAL LETTERSxSMALL LETTERSrNUMBERSrSYMBOLSrLATIN LETTERSaFIRE",
  "1F526aELECTRIC TORCHaWRENCHaHAMMERaNUT AND BOLTaHOCHOaPISTOLaMICROSCOPEaTELESCOPEaCRYSTAL BALL",
  "1F52FaSIX POINTED STAR WITH MIDDLE DOTaJAPANESE SYMBOL FOR BEGINNERaTRIDENT EMBLEM",
  "1F532aBLACK SQUARE BUTTONaWHITE SQUARE BUTTONaLARGE RED CIRCLEgBLUE CIRCLEgORANGE DIAMOND",
  "1F537gBLUE DIAMONDaSMALL ORANGE DIAMONDgBLUE DIAMONDaUP-POINTING RED TRIANGLE",
  "1F53BaDOWN-POINTING RED TRIANGLEaUP-POINTING SMALL RED TRIANGLE",
  "1F53DaDOWN-POINTING SMALL RED TRIANGLEaLOWER RIGHT SHADOWED WHITE CIRCLE",
  "1F53FaUPPER RIGHT SHADOWED WHITE CIRCLEaCIRCLED CROSS POMMEE",
  "1F541bROSS POMMEE WITH HALF-CIRCLE BELOWlEaNOTCHED LEFT SEMICIRCLE WITH THREE DOTS",
  "1F544iRIGHT SEMICIRCLE WITH THREE DOTSaSYMBOL FOR MARKS CHAPTERaWHITE LATIN CROSS",
  "1F547aHEAVY LATIN CROSSaCELTIC CROSSaOM SYMBOLaDOVE OF PEACEaKAABAaMOSQUEaSYNAGOGUE",
  "1F54EaMENORAH WITH NINE BRANCHESaBOWL OF HYGIEIAaCLOCK FACE ONE OCLOCKlTWO OCLOCKmHREE OCLOCK",
  "1F553lFOUR OCLOCKmIVE OCLOCKlSIX OCLOCKmEVEN OCLOCKlEIGHT OCLOCKlNINE OCLOCKlTEN OCLOCK",
  "1F55AlELEVEN OCLOCKlTWELVE OCLOCKlONE-THIRTYlTWO-THIRTYmHREE-THIRTYlFOUR-THIRTYmIVE-THIRTY",
  "1F561lSIX-THIRTYmEVEN-THIRTYlEIGHT-THIRTYlNINE-THIRTYlTEN-THIRTYlELEVEN-THIRTYlTWELVE-THIRTY",
  "1F568aRIGHT SPEAKERn WITH ONE SOUND WAVEtTHREE SOUND WAVESaBULLHORNi WITH SOUND WAVES",
  "1F56DaRINGING BELLaBOOKaCANDLEaMANTELPIECE CLOCKaBLACK SKULL AND CROSSBONESaNO PIRACYaHOLE",
  "1F574aMAN IN BUSINESS SUIT LEVITATINGaSLEUTH OR SPYaDARK SUNGLASSESaSPIDERg WEBaJOYSTICK",
  "1F57AaMAN DANCINGaLEFT HAND TELEPHONE RECEIVERaTELEPHONE RECEIVER WITH PAGE",
  "1F57DaRIGHT HAND TELEPHONE RECEIVERaWHITE TOUCHTONE TELEPHONEaBLACK TOUCHTONE TELEPHONE",
  "1F580aTELEPHONE ON TOP OF MODEMaCLAMSHELL MOBILE PHONEaBACK OF ENVELOPEaSTAMPED ENVELOPE",
  "1F584aENVELOPE WITH LIGHTNINGaFLYING ENVELOPEaPEN OVER STAMPED ENVELOPEaLINKED PAPERCLIPS",
  "1F588aBLACK PUSHPINaLOWER LEFT PENCILlBALLPOINT PENlFOUNTAIN PENlPAINTBRUSHlCRAYON",
  "1F58EbEFT WRITING HANDaTURNED OK HAND SIGNaRAISED HAND WITH FINGERS SPLAYED",
  "1F591bEVERSED RAISED HAND WITH FINGERS SPLAYEDjTHUMBS UP SIGNqDOWN SIGNjVICTORY HAND",
  "1F595jHAND WITH MIDDLE FINGER EXTENDEDbAISED HAND WITH PART BETWEEN MIDDLE AND RING FINGERS",
  "1F597aWHITE DOWN POINTING LEFT HAND INDEXaSIDEWAYS WHITE LEFT POINTING INDEX",
  "1F599pRIGHT POINTING INDEXjBLACK LEFT POINTING INDEXpRIGHT POINTING INDEX",
  "1F59CaBLACK LEFT POINTING BACKHAND INDEXgRIGHT POINTING BACKHAND INDEX",
  "1F59EaSIDEWAYS WHITE UP POINTING INDEXpDOWN POINTING INDEXjBLACK UP POINTING INDEX",
  "1F5A1pDOWN POINTING INDEXaBLACK UP POINTING BACKHAND INDEXgDOWN POINTING BACKHAND INDEXgHEART",
  "1F5A5aDESKTOP COMPUTERaKEYBOARD AND MOUSEaTHREE NETWORKED COMPUTERSaPRINTERbOCKET CALCULATOR",
  "1F5AAaBLACK HARD SHELL FLOPPY DISKaWHITE HARD SHELL FLOPPY DISKaSOFT SHELL FLOPPY DISK",
  "1F5ADaTAPE CARTRIDGEaWIRED KEYBOARDaONE BUTTON MOUSEaTWO BUTTON MOUSEbHREE BUTTON MOUSE",
  "1F5B2bRACKBALLaOLD PERSONAL COMPUTERaHARD DISKaSCREENaPRINTER ICONaFAX ICONaOPTICAL DISC ICON",
  "1F5B9aDOCUMENT WITH TEXTs AND PICTUREoPICTUREaFRAME WITH PICTURElTILESlAN XaBLACK FOLDER",
  "1F5C0aFOLDERaOPEN FOLDERaCARD INDEX DIVIDERSfFILE BOXaFILE CABINETaEMPTY NOTEk PAGEnDaNOTE",
  "1F5C9e PAGEhDaEMPTY DOCUMENTgPAGEkSaDOCUMENTaPAGEeSaWASTEBASKETaSPIRAL NOTE PADhCALENDAR PAD",
  "1F5D4aDESKTOP WINDOWaMINIMIZEbAXIMIZEaOVERLAPaCLOCKWISE RIGHT AND LEFT SEMICIRCLE ARROWS",
  "1F5D9bANCELLATION XaINCREASE FONT SIZE SYMBOLaDECREASE FONT SIZE SYMBOLaCOMPRESSIONaOLD KEY",
  "1F5DEaROLLED-UP NEWSPAPERaPAGE WITH CIRCLED TEXTaSTOCK CHARTaDAGGER KNIFEaLIPS",
  "1F5E3aSPEAKING HEAD IN SILHOUETTEaTHREE RAYS ABOVElBELOWlLEFTlRIGHTaLEFT SPEECH BUBBLE",
  "1F5E9aRIGHT SPEECH BUBBLEaTWO SPEECH BUBBLESbHREE SPEECH BUBBLESaLEFT THOUGHT BUBBLE",
  "1F5EDaRIGHT THOUGHT BUBBLEaLEFT ANGER BUBBLEaRIGHT ANGER BUBBLEaMOOD BUBBLE",
  "1F5F1aLIGHTNING MOOD BUBBLEnDaBALLOT BOX WITH BALLOThSCRIPT XhBOX WITH SCRIPT XjLD SCRIPT X",
  "1F5F7jX WITH BOLD SCRIPT XaLIGHT CHECK MARKaBALLOT BOX WITH BOLD CHECKaWORLD MAPaMOUNT FUJI",
  "1F5FCaTOKYO TOWERaSTATUE OF LIBERTYbILHOUETTE OF JAPANaMOYAIaGRINNING FACEn WITH SMILING EYES",
  "1F602aFACE WITH TEARS OF JOYaSMILING FACE WITH OPEN MOUTHzd AND SMILING EYESziCOLD SWEAT",
  "1F606ziTIGHTLY-CLOSED EYESsHALOtORNSaWINKING FACEaSMILING FACE WITH SMILING EYES",
  "1F60BaFACE SAVOURING DELICIOUS FOODaRELIEVED FACEaSMILING FACE WITH HEART-SHAPED EYES",
  "1F60EsSUNGLASSESdRKING FACEaNEUTRAL FACEaEXPRESSIONLESS FACEaUNAMUSED FACE",
  "1F613aFACE WITH COLD SWEATaPENSIVE FACEaCONFUSED FACEeOUNDED FACEaKISSING FACE",
  "1F618aFACE THROWING A KISSaKISSING FACE WITH SMILING EYESsCLOSED EYES",
  "1F61BaFACE WITH STUCK-OUT TONGUEzb AND WINKING EYEzgTIGHTLY-CLOSED EYESaDISAPPOINTED FACE",
  "1F61FaWORRIED FACEaANGRY FACEaPOUTING FACEaCRYING FACEaPERSEVERING FACE",
  "1F624aFACE WITH LOOK OF TRIUMPHaDISAPPOINTED BUT RELIEVED FACEaFROWNING FACE WITH OPEN MOUTH",
  "1F627aANGUISHED FACEaFEARFUL FACEaWEARY FACEaSLEEPY FACEaTIRED FACEaGRIMACING FACE",
  "1F62DaLOUDLY CRYING FACEaFACE WITH OPEN MOUTHaHUSHED FACEaFACE WITH OPEN MOUTH AND COLD SWEAT",
  "1F631fSCREAMING IN FEARaASTONISHED FACEaFLUSHED FACEaSLEEPING FACEaDIZZY FACE",
  "1F636aFACE WITHOUT MOUTHj MEDICAL MASKaGRINNING CAT FACE WITH SMILING EYES",
  "1F639aCAT FACE WITH TEARS OF JOYaSMILING CAT FACE WITH OPEN MOUTHwHEART-SHAPED EYES",
  "1F63CaCAT FACE WITH WRY SMILEaKISSING CAT FACE WITH CLOSED EYESaPOUTING CAT FACE",
  "1F63FaCRYING CAT FACEaWEARY CAT FACEaSLIGHTLY FROWNING FACEjSMILING FACEaUPSIDE-DOWN FACE",
  "1F644aFACE WITH ROLLING EYESkNO GOOD GESTUREkOK GESTUREaPERSON BOWING DEEPLY",
  "1F648aSEE-NO-EVIL MONKEYaHEAR-NO-EVIL MONKEYaSPEAK-NO-EVIL MONKEY",
  "1F64BaHAPPY PERSON RAISING ONE HANDaPERSON RAISING BOTH HANDS IN CELEBRATIONhFROWNING",
  "1F64EhWITH POUTING FACEmFOLDED HANDSaNORTH WEST POINTING LEAFaSOUTH WEST POINTING LEAF",
  "1F652aNORTH EAST POINTING LEAFaSOUTH EAST POINTING LEAFaTURNED NORTH WEST POINTING LEAF",
  "1F655hSOUTH WEST POINTING LEAFhNORTH EAST POINTING LEAFhSOUTH EAST POINTING LEAF",
  "1F658aNORTH WEST POINTING VINE LEAFaSOUTH WEST POINTING VINE LEAF",
  "1F65AaNORTH EAST POINTING VINE LEAFaSOUTH EAST POINTING VINE LEAF",
  "1F65CaHEAVY NORTH WEST POINTING VINE LEAFgSOUTH WEST POINTING VINE LEAF",
  "1F65EgNORTH EAST POINTING VINE LEAFgSOUTH EAST POINTING VINE LEAFaNORTH WEST POINTING BUD",
  "1F661aSOUTH WEST POINTING BUDaNORTH EAST POINTING BUDaSOUTH EAST POINTING BUD",
  "1F664aHEAVY NORTH WEST POINTING BUDgSOUTH WEST POINTING BUDgNORTH EAST POINTING BUD",
  "1F667gSOUTH EAST POINTING BUDbOLLOW QUILT SQUARE ORNAMENTzd IN BLACK SQUARE",
  "1F66AaSOLID QUILT SQUARE ORNAMENTzc IN BLACK SQUAREaLEFTWARDS ROCKETaUPWARDS ROCKET",
  "1F66EaRIGHTWARDS ROCKETaDOWNWARDS ROCKETaSCRIPT LIGATURE ET ORNAMENT",
  "1F671aHEAVY SCRIPT LIGATURE ET ORNAMENTaLIGATURE OPEN ET ORNAMENT",
  "1F673aHEAVY LIGATURE OPEN ET ORNAMENTgAMPERSAND ORNAMENTaSWASH AMPERSAND ORNAMENT",
  "1F676bANS-SERIF HEAVY DOUBLE TURNED COMMA QUOTATION MARK ORNAMENT",
  "1F677yCOMMA QUOTATION MARK ORNAMENTrLOW DOUBLE COMMA QUOTATION MARK ORNAMENT",
  "1F679aHEAVY INTERROBANG ORNAMENTaSANS-SERIF INTERROBANG ORNAMENT",
  "1F67BaHEAVY SANS-SERIF INTERROBANG ORNAMENTaVERY HEAVY SOLIDUSlREVERSE SOLIDUSaCHECKER BOARD",
  "1F67FaREVERSE CHECKER BOARDbOCKETaHELICOPTERaSTEAM LOCOMOTIVEaRAILWAY CARaHIGH-SPEED TRAIN",
  "1F685q WITH BULLET NOSEaTRAINaMETROaLIGHT RAILaSTATIONaTRAMe CARaBUSaONCOMING BUSaTROLLEYBUS",
  "1F68FaBUS STOPaMINIBUSaAMBULANCEaFIRE ENGINEaPOLICE CARaONCOMING POLICE CARaTAXIaONCOMING TAXI",
  "1F697aAUTOMOBILEaONCOMING AUTOMOBILEaRECREATIONAL VEHICLEaDELIVERY TRUCKaARTICULATED LORRY",
  "1F69CaTRACTORaMONORAILcUNTAIN RAILWAYaSUSPENSION RAILWAYaMOUNTAIN CABLEWAYaAERIAL TRAMWAYaSHIP",
  "1F6A3aROWBOATaSPEEDBOATaHORIZONTAL TRAFFIC LIGHTaVERTICAL TRAFFIC LIGHTaCONSTRUCTION SIGN",
  "1F6A8aPOLICE CARS REVOLVING LIGHTaTRIANGULAR FLAG ON POSTaDOORaNO ENTRY SIGNaSMOKING SYMBOL",
  "1F6ADaNO SMOKING SYMBOLaPUT LITTER IN ITS PLACE SYMBOLaDO NOT LITTER SYMBOL",
  "1F6B0aPOTABLE WATER SYMBOLaNON-POTABLE WATER SYMBOLaBICYCLEaNO BICYCLESaBICYCLIST",
  "1F6B5aMOUNTAIN BICYCLISTaPEDESTRIANaNO PEDESTRIANSaCHILDREN CROSSINGaMENS SYMBOLaWOMENS SYMBOL",
  "1F6BBaRESTROOMaBABY SYMBOLaTOILETaWATER CLOSETaSHOWERaBATHeTUBaPASSPORT CONTROLaCUSTOMS",
  "1F6C4aBAGGAGE CLAIMaLEFT LUGGAGEaTRIANGLE WITH ROUNDED CORNERSaPROHIBITED SIGN",
  "1F6C8aCIRCLED INFORMATION SOURCEaBOYS SYMBOLaGIRLS SYMBOLaCOUCH AND LAMP",
  "1F6CCaSLEEPING ACCOMMODATIONbHOPPING BAGSaBELLHOP BELLcDaPLACE OF WORSHIPaOCTAGONAL SIGN",
  "1F6D2aSHOPPING TROLLEYbTUPAaPAGODAaHINDU TEMPLEbUTaELEVATOR",
  "1F6DDaPLAYGROUND SLIDEaWHEELaRING BUOYaHAMMER AND WRENCHaSHIELDaOIL DRUMaMOTORWAY",
  "1F6E4aRAILWAY TRACKaMOTOR BOATaUP-POINTING MILITARY AIRPLANEmAIRPLANEmSMALL AIRPLANE",
  "1F6E9aSMALL AIRPLANEaNORTHEAST-POINTING AIRPLANEaAIRPLANE DEPARTUREjARRIVING",
  "1F6F0aSATELLITEaONCOMING FIRE ENGINEaDIESEL LOCOMOTIVEaPASSENGER SHIPaSCOOTERaMOTOR SCOOTER",
  "1F6F6aCANOEaSLEDaFLYING SAUCERaSKATEBOARDaAUTO RICKSHAWaPICKUP TRUCKaROLLER SKATE",
  "1F700aALCHEMICAL SYMBOL FOR QUINTESSENCEwAIRwFIREwEARTHwWATERwAQUAFORTISzb REGIAzh-2zcVITAE",
  "1F709zh-2wVINEGARze-2zf3wSULFURwPHILOSOPHERS SULFURwBLACK SULFURwMERCURY SUBLIMATEzo-2zp3",
  "1F713wCINNABARwSALTwNITREwVITRIOLze-2wROCK SALTzg-2wGOLDwSILVERwIRON OREzf-2wCROCUS OF IRON",
  "1F71FwREGULUS OF IRONwCOPPER OREwIRON-COPPER OREwSUBLIMATE OF COPPERwCROCUS OF COPPERzn-2",
  "1F725xOPPER ANTIMONIATEwSALT OF COPPER ANTIMONIATExUBLIMATE OF SALT OF COPPERwVERDIGRIS",
  "1F729wTIN OREwLEAD OREwANTIMONY OREwSUBLIMATE OF ANTIMONYxALT OF ANTIMONY",
  "1F72ExUBLIMATE OF SALT OF ANTIMONYwVINEGAR OF ANTIMONYwREGULUS OF ANTIMONYzq-2zdSze-2zf3zf4",
  "1F736wALKALIzd-2wMARCASITEwSAL-AMMONIACwARSENICwREALGARze-2wAURIPIGMENTwBISMUTH OREwTARTARzd-2",
  "1F741wQUICK LIMEwBORAXzc-2zd3wALUMwOILwSPIRITwTINCTUREwGUMwWAXwPOWDERwCALXwTUTTYwCAPUT MORTUUM",
  "1F74FwSCEPTER OF JOVEwCADUCEUSwTRIDENTwSTARRED TRIDENTwLODESTONEwSOAPwURINEwHORSE DUNGwASHES",
  "1F758wPOT ASHESwBRICKwPOWDERED BRICKwAMALGAMwSTRATUM SUPER STRATUMzs-2xUBLIMATIONwPRECIPITATE",
  "1F760wDISTILLzSOLVEzf-2wPURIFYyTREFACTIONwCRUCIBLEzf-2zg3zg4zg5wALEMBICwBATH OF MARYzfVAPOURS",
  "1F76DwRETORTwHOURwNIGHTwDAY-NIGHTwMONTHwHALF DRAMzcOUNCE",
  "1F780aBLACK LEFT-POINTING ISOSCELES RIGHT TRIANGLEgUP-POINTING ISOSCELES RIGHT TRIANGLE",
  "1F782gRIGHT-POINTING ISOSCELES RIGHT TRIANGLEgDOWN-POINTING ISOSCELES RIGHT TRIANGLE",
  "1F784gSLIGHTLY SMALL CIRCLEaMEDIUM BOLD WHITE CIRCLEaBOLD WHITE CIRCLEaHEAVY WHITE CIRCLE",
  "1F788aVERY HEAVY WHITE CIRCLEaEXTREMELY HEAVY WHITE CIRCLE",
  "1F78AaWHITE CIRCLE CONTAINING BLACK SMALL CIRCLEaROUND TARGETaBLACK TINY SQUARE",
  "1F78DgSLIGHTLY SMALL SQUAREaLIGHT WHITE SQUAREaMEDIUM WHITE SQUAREaBOLD WHITE SQUARE",
  "1F791aHEAVY WHITE SQUAREaVERY HEAVY WHITE SQUAREaEXTREMELY HEAVY WHITE SQUARE",
  "1F794aWHITE SQUARE CONTAINING BLACK VERY SMALL SQUAREzfMEDIUM SQUAREaSQUARE TARGET",
  "1F797aBLACK TINY DIAMONDgVERY SMALL DIAMONDgMEDIUM SMALL DIAMOND",
  "1F79AaWHITE DIAMOND CONTAINING BLACK VERY SMALL DIAMONDzgMEDIUM DIAMONDaDIAMOND TARGET",
  "1F79DaBLACK TINY LOZENGEgVERY SMALL LOZENGEgMEDIUM SMALL LOZENGE",
  "1F7A0aWHITE LOZENGE CONTAINING BLACK SMALL LOZENGEaTHIN GREEK CROSSaLIGHT GREEK CROSS",
  "1F7A3aMEDIUM GREEK CROSSaBOLD GREEK CROSSaVERY BOLD GREEK CROSSfHEAVY GREEK CROSS",
  "1F7A7aEXTREMELY HEAVY GREEK CROSSaTHIN SALTIREaLIGHT SALTIREaMEDIUM SALTIREaBOLD SALTIRE",
  "1F7ACaHEAVY SALTIREaVERY HEAVY SALTIREaEXTREMELY HEAVY SALTIREaLIGHT FIVE SPOKED ASTERISK",
  "1F7B0aMEDIUM FIVE SPOKED ASTERISKaBOLD FIVE SPOKED ASTERISKaHEAVY FIVE SPOKED ASTERISK",
  "1F7B3aVERY HEAVY FIVE SPOKED ASTERISKaEXTREMELY HEAVY FIVE SPOKED ASTERISK",
  "1F7B5aLIGHT SIX SPOKED ASTERISKaMEDIUM SIX SPOKED ASTERISKaBOLD SIX SPOKED ASTERISK",
  "1F7B8aHEAVY SIX SPOKED ASTERISKaVERY HEAVY SIX SPOKED ASTERISK",
  "1F7BAaEXTREMELY HEAVY SIX SPOKED ASTERISKaLIGHT EIGHT SPOKED ASTERISK",
  "1F7BCaMEDIUM EIGHT SPOKED ASTERISKaBOLD EIGHT SPOKED ASTERISKaHEAVY EIGHT SPOKED ASTERISK",
  "1F7BFaVERY HEAVY EIGHT SPOKED ASTERISKaLIGHT THREE POINTED BLACK STAR",
  "1F7C1aMEDIUM THREE POINTED BLACK STARaTHREE POINTED BLACK STAR",
  "1F7C3aMEDIUM THREE POINTED PINWHEEL STARaLIGHT FOUR POINTED BLACK STAR",
  "1F7C5aMEDIUM FOUR POINTED BLACK STARaFOUR POINTED BLACK STARaMEDIUM FOUR POINTED PINWHEEL STAR",
  "1F7C8aREVERSE LIGHT FOUR POINTED PINWHEEL STARaLIGHT FIVE POINTED BLACK STAR",
  "1F7CAaHEAVY FIVE POINTED BLACK STARaMEDIUM SIX POINTED BLACK STARaHEAVY SIX POINTED BLACK STAR",
  "1F7CDaSIX POINTED PINWHEEL STARaMEDIUM EIGHT POINTED BLACK STARaHEAVY EIGHT POINTED BLACK STAR",
  "1F7D0aVERY HEAVY EIGHT POINTED BLACK STARaHEAVY EIGHT POINTED PINWHEEL STAR",
  "1F7D2aLIGHT TWELVE POINTED BLACK STARaHEAVY TWELVE POINTED BLACK STARvPINWHEEL STAR",
  "1F7D5aCIRCLED TRIANGLEaNEGATIVE CIRCLED TRIANGLEaCIRCLED SQUAREaNEGATIVE CIRCLED SQUARE",
  "1F7E0aLARGE ORANGE CIRCLEgYELLOW CIRCLEgGREEN CIRCLEgPURPLE CIRCLEgBROWN CIRCLEgRED SQUARE",
  "1F7E6gBLUE SQUAREgORANGE SQUAREgYELLOW SQUAREgGREEN SQUAREgPURPLE SQUAREgBROWN SQUARE",
  "1F7F0aHEAVY EQUALS SIGN",
  "1F800aLEFTWARDS ARROW WITH SMALL TRIANGLE ARROWHEAD",
  "1F801aUPWARDS ARROW WITH SMALL TRIANGLE ARROWHEAD",
  "1F802aRIGHTWARDS ARROW WITH SMALL TRIANGLE ARROWHEAD",
  "1F803aDOWNWARDS ARROW WITH SMALL TRIANGLE ARROWHEAD",
  "1F804aLEFTWARDS ARROW WITH MEDIUM TRIANGLE ARROWHEAD",
  "1F805aUPWARDS ARROW WITH MEDIUM TRIANGLE ARROWHEAD",
  "1F806aRIGHTWARDS ARROW WITH MEDIUM TRIANGLE ARROWHEAD",
  "1F807aDOWNWARDS ARROW WITH MEDIUM TRIANGLE ARROWHEAD",
  "1F808aLEFTWARDS ARROW WITH LARGE TRIANGLE ARROWHEAD",
  "1F809aUPWARDS ARROW WITH LARGE TRIANGLE ARROWHEAD",
  "1F80AaRIGHTWARDS ARROW WITH LARGE TRIANGLE ARROWHEAD",
  "1F80BaDOWNWARDS ARROW WITH LARGE TRIANGLE ARROWHEAD",
  "1F810aLEFTWARDS ARROW WITH SMALL EQUILATERAL ARROWHEAD",
  "1F811aUPWARDS ARROW WITH SMALL EQUILATERAL ARROWHEAD",
  "1F812aRIGHTWARDS ARROW WITH SMALL EQUILATERAL ARROWHEAD",
  "1F813aDOWNWARDS ARROW WITH SMALL EQUILATERAL ARROWHEAD",
  "1F814aLEFTWARDS ARROW WITH EQUILATERAL ARROWHEADaUPWARDS ARROW WITH EQUILATERAL ARROWHEAD",
  "1F816aRIGHTWARDS ARROW WITH EQUILATERAL ARROWHEADaDOWNWARDS ARROW WITH EQUILATERAL ARROWHEAD",
  "1F818aHEAVY LEFTWARDS ARROW WITH EQUILATERAL ARROWHEAD",
  "1F819gUPWARDS ARROW WITH EQUILATERAL ARROWHEADgRIGHTWARDS ARROW WITH EQUILATERAL ARROWHEAD",
  "1F81BgDOWNWARDS ARROW WITH EQUILATERAL ARROWHEAD",
  "1F81CgLEFTWARDS ARROW WITH LARGE EQUILATERAL ARROWHEAD",
  "1F81DgUPWARDS ARROW WITH LARGE EQUILATERAL ARROWHEAD",
  "1F81EgRIGHTWARDS ARROW WITH LARGE EQUILATERAL ARROWHEAD",
  "1F81FgDOWNWARDS ARROW WITH LARGE EQUILATERAL ARROWHEAD",
  "1F820aLEFTWARDS TRIANGLE-HEADED ARROW WITH NARROW SHAFT",
  "1F821aUPWARDS TRIANGLE-HEADED ARROW WITH NARROW SHAFT",
  "1F822aRIGHTWARDS TRIANGLE-HEADED ARROW WITH NARROW SHAFT",
  "1F823aDOWNWARDS TRIANGLE-HEADED ARROW WITH NARROW SHAFT",
  "1F824aLEFTWARDS TRIANGLE-HEADED ARROW WITH MEDIUM SHAFT",
  "1F825aUPWARDS TRIANGLE-HEADED ARROW WITH MEDIUM SHAFT",
  "1F826aRIGHTWARDS TRIANGLE-HEADED ARROW WITH MEDIUM SHAFT",
  "1F827aDOWNWARDS TRIANGLE-HEADED ARROW WITH MEDIUM SHAFT",
  "1F828aLEFTWARDS TRIANGLE-HEADED ARROW WITH BOLD SHAFT",
  "1F829aUPWARDS TRIANGLE-HEADED ARROW WITH BOLD SHAFT",
  "1F82AaRIGHTWARDS TRIANGLE-HEADED ARROW WITH BOLD SHAFT",
  "1F82BaDOWNWARDS TRIANGLE-HEADED ARROW WITH BOLD SHAFT",
  "1F82CaLEFTWARDS TRIANGLE-HEADED ARROW WITH HEAVY SHAFT",
  "1F82DaUPWARDS TRIANGLE-HEADED ARROW WITH HEAVY SHAFT",
  "1F82EaRIGHTWARDS TRIANGLE-HEADED ARROW WITH HEAVY SHAFT",
  "1F82FaDOWNWARDS TRIANGLE-HEADED ARROW WITH HEAVY SHAFT",
  "1F830aLEFTWARDS TRIANGLE-HEADED ARROW WITH VERY HEAVY SHAFT",
  "1F831aUPWARDS TRIANGLE-HEADED ARROW WITH VERY HEAVY SHAFT",
  "1F832aRIGHTWARDS TRIANGLE-HEADED ARROW WITH VERY HEAVY SHAFT",
  "1F833aDOWNWARDS TRIANGLE-HEADED ARROW WITH VERY HEAVY SHAFTaLEFTWARDS FINGER-POST ARROW",
  "1F835aUPWARDS FINGER-POST ARROWaRIGHTWARDS FINGER-POST ARROWaDOWNWARDS FINGER-POST ARROW",
  "1F838aLEFTWARDS SQUARED ARROWaUPWARDS SQUARED ARROWaRIGHTWARDS SQUARED ARROW",
  "1F83BaDOWNWARDS SQUARED ARROWaLEFTWARDS COMPRESSED ARROWaUPWARDS COMPRESSED ARROW",
  "1F83EaRIGHTWARDS COMPRESSED ARROWaDOWNWARDS COMPRESSED ARROWaLEFTWARDS HEAVY COMPRESSED ARROW",
  "1F841aUPWARDS HEAVY COMPRESSED ARROWaRIGHTWARDS HEAVY COMPRESSED ARROW",
  "1F843aDOWNWARDS HEAVY COMPRESSED ARROWaLEFTWARDS HEAVY ARROWaUPWARDS HEAVY ARROW",
  "1F846aRIGHTWARDS HEAVY ARROWaDOWNWARDS HEAVY ARROW",
  "1F850aLEFTWARDS SANS-SERIF ARROWaUPWARDS SANS-SERIF ARROWaRIGHTWARDS SANS-SERIF ARROW",
  "1F853aDOWNWARDS SANS-SERIF ARROWaNORTH WEST SANS-SERIF ARROWgEAST SANS-SERIF ARROW",
  "1F856aSOUTH EAST SANS-SERIF ARROWgWEST SANS-SERIF ARROWaLEFT RIGHT SANS-SERIF ARROW",
  "1F859aUP DOWN SANS-SERIF ARROW",
  "1F860aWIDE-HEADED LEFTWARDS LIGHT BARB ARROWmUPWARDS LIGHT BARB ARROW",
  "1F862mRIGHTWARDS LIGHT BARB ARROWmDOWNWARDS LIGHT BARB ARROWmNORTH WEST LIGHT BARB ARROW",
  "1F865sEAST LIGHT BARB ARROWmSOUTH EAST LIGHT BARB ARROWsWEST LIGHT BARB ARROW",
  "1F868mLEFTWARDS BARB ARROWmUPWARDS BARB ARROWmRIGHTWARDS BARB ARROWmDOWNWARDS BARB ARROW",
  "1F86CmNORTH WEST BARB ARROWsEAST BARB ARROWmSOUTH EAST BARB ARROWsWEST BARB ARROW",
  "1F870mLEFTWARDS MEDIUM BARB ARROWmUPWARDS MEDIUM BARB ARROWmRIGHTWARDS MEDIUM BARB ARROW",
  "1F873mDOWNWARDS MEDIUM BARB ARROWmNORTH WEST MEDIUM BARB ARROWsEAST MEDIUM BARB ARROW",
  "1F876mSOUTH EAST MEDIUM BARB ARROWsWEST MEDIUM BARB ARROWmLEFTWARDS HEAVY BARB ARROW",
  "1F879mUPWARDS HEAVY BARB ARROWmRIGHTWARDS HEAVY BARB ARROWmDOWNWARDS HEAVY BARB ARROW",
  "1F87CmNORTH WEST HEAVY BARB ARROWsEAST HEAVY BARB ARROWmSOUTH EAST HEAVY BARB ARROW",
  "1F87FsWEST HEAVY BARB ARROWmLEFTWARDS VERY HEAVY BARB ARROWmUPWARDS VERY HEAVY BARB ARROW",
  "1F882mRIGHTWARDS VERY HEAVY BARB ARROWmDOWNWARDS VERY HEAVY BARB ARROW",
  "1F884mNORTH WEST VERY HEAVY BARB ARROWsEAST VERY HEAVY BARB ARROW",
  "1F886mSOUTH EAST VERY HEAVY BARB ARROWsWEST VERY HEAVY BARB ARROW",
  "1F890aLEFTWARDS TRIANGLE ARROWHEADaUPWARDS TRIANGLE ARROWHEADaRIGHTWARDS TRIANGLE ARROWHEAD",
  "1F893aDOWNWARDS TRIANGLE ARROWHEADaLEFTWARDS WHITE ARROW WITHIN TRIANGLE ARROWHEAD",
  "1F895aUPWARDS WHITE ARROW WITHIN TRIANGLE ARROWHEAD",
  "1F896aRIGHTWARDS WHITE ARROW WITHIN TRIANGLE ARROWHEAD",
  "1F897aDOWNWARDS WHITE ARROW WITHIN TRIANGLE ARROWHEADaLEFTWARDS ARROW WITH NOTCHED TAIL",
  "1F899aUPWARDS ARROW WITH NOTCHED TAILaRIGHTWARDS ARROW WITH NOTCHED TAIL",
  "1F89BaDOWNWARDS ARROW WITH NOTCHED TAILaHEAVY ARROW SHAFT WIDTH ONEyTWO THIRDSyONE HALFzdTHIRD",
  "1F8A0aLEFTWARDS BOTTOM-SHADED WHITE ARROWaRIGHTWARDS BOTTOM SHADED WHITE ARROW",
  "1F8A2aLEFTWARDS TOP SHADED WHITE ARROWaRIGHTWARDS TOP SHADED WHITE ARROW",
  "1F8A4aLEFTWARDS LEFT-SHADED WHITE ARROWaRIGHTWARDS RIGHT-SHADED WHITE ARROW",
  "1F8A6aLEFTWARDS RIGHT-SHADED WHITE ARROWaRIGHTWARDS LEFT-SHADED WHITE ARROW",
  "1F8A8aLEFTWARDS BACK-TILTED SHADOWED WHITE ARROWaRIGHTWARDS BACK-TILTED SHADOWED WHITE ARROW",
  "1F8AAaLEFTWARDS FRONT-TILTED SHADOWED WHITE ARROWaRIGHTWARDS FRONT-TILTED SHADOWED WHITE ARROW",
  "1F8ACaWHITE ARROW SHAFT WIDTH ONEyTWO THIRDS",
  "1F8B0aARROW POINTING UPWARDS THEN NORTH WESTpRIGHTWARDS THEN CURVING SOUTH WEST",
  "1F900aCIRCLED CROSS FORMEE WITH FOUR DOTSzbTWO DOTStEaLEFT HALF CIRCLE WITH FOUR DOTS",
  "1F904wTHREE DOTSxWO DOTSwDOTpEaDOWNWARD FACING HOOKqNOTCHED HOOKqHOOK WITH DOT",
  "1F90BqNOTCHED HOOK WITH DOTaPINCHED FINGERSaWHITE HEARTaBROWN HEARTaPINCHING HAND",
  "1F910aZIPPER-MOUTH FACEaMONEY-MOUTH FACEaFACE WITH THERMOMETERaNERD FACEaTHINKING FACE",
  "1F915aFACE WITH HEAD-BANDAGEaROBOT FACEaHUGGING FACEaSIGN OF THE HORNSaCALL ME HAND",
  "1F91AaRAISED BACK OF HANDaLEFT-FACING FISTaRIGHT-FACING FISTaHANDSHAKE",
  "1F91Ee WITH INDEX AND MIDDLE FINGERS CROSSEDaI LOVE YOU HAND SIGNaFACE WITH COWBOY HAT",
  "1F921aCLOWN FACEaNAUSEATED FACEaROLLING ON THE FLOOR LAUGHINGaDROOLING FACEaLYING FACE",
  "1F926aFACE PALMaSNEEZING FACEaFACE WITH ONE EYEBROW RAISEDaGRINNING FACE WITH STAR EYES",
  "1F92AtONE LARGE AND ONE SMALL EYEaFACE WITH FINGER COVERING CLOSED LIPS",
  "1F92CaSERIOUS FACE WITH SYMBOLS COVERING MOUTH",
  "1F92DbMILING FACE WITH SMILING EYES AND HAND COVERING MOUTHaFACE WITH OPEN MOUTH VOMITING",
  "1F92FaSHOCKED FACE WITH EXPLODING HEADaPREGNANT WOMANaBREAST-FEEDINGaPALMS UP TOGETHERaSELFIE",
  "1F934aPRINCEaMAN IN TUXEDObOTHER CHRISTMASaSHRUGaPERSON DOING CARTWHEELaJUGGLINGaFENCER",
  "1F93BaMODERN PENTATHLONaWRESTLERSbATER POLOaHANDBALLaDIVING MASKaWILTED FLOWER",
  "1F941aDRUM WITH DRUMSTICKSaCLINKING GLASSESaTUMBLER GLASSaSPOONaGOAL NETaRIFLE",
  "1F947aFIRST PLACE MEDALaSECOND PLACE MEDALaTHIRD PLACE MEDALaBOXING GLOVEaMARTIAL ARTS UNIFORM",
  "1F94CaCURLING STONEaLACROSSE STICK AND BALLaSOFTBALLaFLYING DISCaCROISSANTaAVOCADOaCUCUMBER",
  "1F953aBACONaPOTATOaCARROTaBAGUETTE BREADaGREEN SALADaSHALLOW PAN OF FOODbTUFFED FLATBREADaEGG",
  "1F95BaGLASS OF MILKaPEANUTSaKIWIFRUITaPANCAKESaDUMPLINGaFORTUNE COOKIEaTAKEOUT BOXaCHOPSTICKS",
  "1F963aBOWL WITH SPOONaCUP WITH STRAWbOCONUTaBROCCOLIaPIEbRETZELaCUT OF MEATaSANDWICH",
  "1F96BaCANNED FOODaLEAFY GREENaMANGObOON CAKEaBAGEL",
  "1F970aSMILING FACE WITH SMILING EYES AND THREE HEARTSaYAWNING FACEaSMILING FACE WITH TEAR",
  "1F973aFACE WITH PARTY HORN AND PARTY HATkUNEVEN EYES AND WAVY MOUTHaOVERHEATED FACE",
  "1F976aFREEZING FACEaNINJAaDISGUISED FACEaFACE HOLDING BACK TEARSfWITH PLEADING EYESaSARI",
  "1F97CaLAB COATaGOGGLESaHIKING BOOTaFLAT SHOEaCRABaLION FACEaSCORPIONaTURKEYaUNICORN FACEaEAGLE",
  "1F986aDUCKaBATaSHARKaOWLaFOX FACEaBUTTERFLYaDEERaGORILLAaLIZARDaRHINOCEROSaSHRIMPbQUID",
  "1F992aGIRAFFE FACEaZEBRA FACEaHEDGEHOGaSAUROPODaT-REXaCRICKETaKANGAROOaLLAMAaPEACOCK",
  "1F99BaHIPPOPOTAMUSaPARROTaRACCOONaLOBSTERaMOSQUITObICROBEaBADGERaSWANaMAMMOTHaDODOaSLOTHaOTTER",
  "1F9A7bRANGUTANaSKUNKaFLAMINGOaOYSTERaBEAVERbISONaSEALaGUIDE DOGaPROBING CANE",
  "1F9B0aEMOJI COMPONENT RED HAIRqCURLY HAIRqBALDqWHITE HAIRaBONEaLEGaFOOTaTOOTHaSUPERHERO",
  "1F9B9fVILLAINbAFETY VESTaEAR WITH HEARING AIDaMOTORIZED WHEELCHAIRbANUAL WHEELCHAIR",
  "1F9BEbECHANICAL ARMlLEGaCHEESE WEDGEbUPCAKEaSALT SHAKERaBEVERAGE BOXaGARLICaONIONaFALAFEL",
  "1F9C7aWAFFLEaBUTTERaMATE DRINKaICE CUBEaBUBBLE TEAaTROLLaSTANDING PERSONaKNEELING PERSON",
  "1F9CFaDEAF PERSONaFACE WITH MONOCLEaADULTaCHILDaOLDER ADULTaBEARDED PERSON",
  "1F9D5aPERSON WITH HEADSCARFhIN STEAMY ROOMhCLIMBINGhIN LOTUS POSITIONaMAGEaFAIRYaVAMPIRE",
  "1F9DCaMERPERSONaELFaGENIEaZOMBIEaBRAINaORANGE HEARTaBILLED CAPaSCARFaGLOVESaCOATaSOCKS",
  "1F9E7aRED GIFT ENVELOPEaFIRECRACKERaJIGSAW PUZZLE PIECEaTEST TUBEaPETRI DISHaDNA DOUBLE HELIX",
  "1F9EDaCOMPASSaABACUSaFIRE EXTINGUISHERaTOOLBOXaBRICKaMAGNETaLUGGAGEbOTION BOTTLE",
  "1F9F5aSPOOL OF THREADaBALL OF YARNaSAFETY PINaTEDDY BEARaBROOMbASKETaROLL OF PAPERaBAR OF SOAP",
  "1F9FDaSPONGEaRECEIPTaNAZAR AMULETbEUTRAL CHESS KINGoQUEENoROOKoBISHOPoKNIGHToPAWN",
  "1FA06aWHITE CHESS KNIGHT ROTATED FORTY-FIVE DEGREES",
  "1FA07aBLACK CHESS KNIGHT ROTATED FORTY-FIVE DEGREES",
  "1FA08aNEUTRAL CHESS KNIGHT ROTATED FORTY-FIVE DEGREESaWHITE CHESS KING ROTATED NINETY DEGREES",
  "1FA0AmQUEEN ROTATED NINETY DEGREESmROOK ROTATED NINETY DEGREESmBISHOP ROTATED NINETY DEGREES",
  "1FA0DmKNIGHT ROTATED NINETY DEGREESmPAWN ROTATED NINETY DEGREES",
  "1FA0FaBLACK CHESS KING ROTATED NINETY DEGREESmQUEEN ROTATED NINETY DEGREES",
  "1FA11mROOK ROTATED NINETY DEGREESmBISHOP ROTATED NINETY DEGREESmKNIGHT ROTATED NINETY DEGREES",
  "1FA14mPAWN ROTATED NINETY DEGREESaNEUTRAL CHESS KING ROTATED NINETY DEGREES",
  "1FA16oQUEEN ROTATED NINETY DEGREESoROOK ROTATED NINETY DEGREESoBISHOP ROTATED NINETY DEGREES",
  "1FA19oKNIGHT ROTATED NINETY DEGREESoPAWN ROTATED NINETY DEGREES",
  "1FA1BaWHITE CHESS KNIGHT ROTATED ONE HUNDRED THIRTY-FIVE DEGREES",
  "1FA1CaBLACK CHESS KNIGHT ROTATED ONE HUNDRED THIRTY-FIVE DEGREES",
  "1FA1DaNEUTRAL CHESS KNIGHT ROTATED ONE HUNDRED THIRTY-FIVE DEGREESaWHITE CHESS TURNED KING",
  "1FA1FtQUEENtROOKtBISHOPtKNIGHTtPAWNaBLACK CHESS TURNED KINGtQUEENtROOKtBISHOPtKNIGHTtPAWN",
  "1FA2AaNEUTRAL CHESS TURNED KINGvQUEENvROOKvBISHOPvKNIGHTvPAWN",
  "1FA30aWHITE CHESS KNIGHT ROTATED TWO HUNDRED TWENTY-FIVE DEGREES",
  "1FA31aBLACK CHESS KNIGHT ROTATED TWO HUNDRED TWENTY-FIVE DEGREES",
  "1FA32aNEUTRAL CHESS KNIGHT ROTATED TWO HUNDRED TWENTY-FIVE DEGREES",
  "1FA33aWHITE CHESS KING ROTATED TWO HUNDRED SEVENTY DEGREES",
  "1FA34mQUEEN ROTATED TWO HUNDRED SEVENTY DEGREESmROOK ROTATED TWO HUNDRED SEVENTY DEGREES",
  "1FA36mBISHOP ROTATED TWO HUNDRED SEVENTY DEGREESmKNIGHT ROTATED TWO HUNDRED SEVENTY DEGREES",
  "1FA38mPAWN ROTATED TWO HUNDRED SEVENTY DEGREES",
  "1FA39aBLACK CHESS KING ROTATED TWO HUNDRED SEVENTY DEGREES",
  "1FA3AmQUEEN ROTATED TWO HUNDRED SEVENTY DEGREESmROOK ROTATED TWO HUNDRED SEVENTY DEGREES",
  "1FA3CmBISHOP ROTATED TWO HUNDRED SEVENTY DEGREESmKNIGHT ROTATED TWO HUNDRED SEVENTY DEGREES",
  "1FA3EmPAWN ROTATED TWO HUNDRED SEVENTY DEGREES",
  "1FA3FaNEUTRAL CHESS KING ROTATED TWO HUNDRED SEVENTY DEGREES",
  "1FA40oQUEEN ROTATED TWO HUNDRED SEVENTY DEGREESoROOK ROTATED TWO HUNDRED SEVENTY DEGREES",
  "1FA42oBISHOP ROTATED TWO HUNDRED SEVENTY DEGREESoKNIGHT ROTATED TWO HUNDRED SEVENTY DEGREES",
  "1FA44oPAWN ROTATED TWO HUNDRED SEVENTY DEGREES",
  "1FA45aWHITE CHESS KNIGHT ROTATED THREE HUNDRED FIFTEEN DEGREES",
  "1FA46aBLACK CHESS KNIGHT ROTATED THREE HUNDRED FIFTEEN DEGREES",
  "1FA47aNEUTRAL CHESS KNIGHT ROTATED THREE HUNDRED FIFTEEN DEGREESaWHITE CHESS EQUIHOPPER",
  "1FA49aBLACK CHESS EQUIHOPPERaNEUTRAL CHESS EQUIHOPPER",
  "1FA4BaWHITE CHESS EQUIHOPPER ROTATED NINETY DEGREES",
  "1FA4CaBLACK CHESS EQUIHOPPER ROTATED NINETY DEGREES",
  "1FA4DaNEUTRAL CHESS EQUIHOPPER ROTATED NINETY DEGREESaWHITE CHESS KNIGHT-QUEENtROOKtBISHOP",
  "1FA51aBLACK CHESS KNIGHT-QUEENtROOKtBISHOP",
  "1FA60aXIANGQI RED GENERALmMANDARINmELEPHANTmHORSEmCHARIOTnANNONmSOLDIERiBLACK GENERALoMANDARIN",
  "1FA69oELEPHANToHORSEoCHARIOTpANNONoSOLDIER",
  "1FA70aBALLET SHOESaONE-PIECE SWIMSUITaBRIEFSaSHORTSaTHONG SANDAL",
  "1FA78aDROP OF BLOODaADHESIVE BANDAGEaSTETHOSCOPEaX-RAYaCRUTCH",
  "1FA80aYO-YOaKITEaPARACHUTEaBOOMERANGaMAGIC WANDaPINATAaNESTING DOLLS",
  "1FA90aRINGED PLANETaCHAIRaRAZORaAXEaDIYA LAMPaBANJOaMILITARY HELMETaACCORDIONaLONG DRUMaCOIN",
  "1FA9AbARPENTRY SAWaSCREWDRIVERaLADDERaHOOKaMIRRORaWINDOWaPLUNGERaSEWING NEEDLEaKNOTaBUCKET",
  "1FAA4aMOUSE TRAPaTOOTHBRUSHaHEADSTONEaPLACARDaROCKaMIRROR BALLaIDENTIFICATION CARDaLOW BATTERY",
  "1FAACaHAMSA",
  "1FAB0aFLYaWORMaBEETLEaCOCKROACHaPOTTED PLANTaWOODaFEATHERaLOTUSaCORALaEMPTY NEST",
  "1FABAaNEST WITH EGGS",
  "1FAC0aANATOMICAL HEARTaLUNGSaPEOPLE HUGGINGbREGNANT MANjPERSONbERSON WITH CROWN",
  "1FAD0aBLUEBERRIESbELL PEPPERaOLIVEaFLATBREADaTAMALEaFONDUEaTEAPOTaPOURING LIQUIDaBEANSaJAR",
  "1FAE0aMELTING FACEaSALUTING FACEaFACE WITH OPEN EYES AND HAND OVER MOUTHkPEEKING EYE",
  "1FAE4kDIAGONAL MOUTHaDOTTED LINE FACEaBITING LIPbUBBLES",
  "1FAF0aHAND WITH INDEX FINGER AND THUMB CROSSEDaRIGHTWARDS HANDaLEFTWARDS HANDaPALM DOWN HAND",
  "1FAF4fUP HANDaINDEX POINTING AT THE VIEWERaHEART HANDS",
  "1FB00aBLOCK SEXTANT-1o2o12o3o13o23o123o4o14o24o124o34o134o234o1234o5o15o25o125o35o235o1235o45",
  "1FB17o145o245o1245o345o1345o2345o12345o6o16o26o126o36o136o236o1236o46o146p246o346o1346o2346",
  "1FB2Co12346o56o156o256o1256o356o1356o2356o12356o456o1456o2456o12456o3456o13456o23456",
  "1FB3CaLOWER LEFT BLOCK DIAGONAL LOWER MIDDLE LEFT TO LOWER CENTREzzdRIGHT",
  "1FB3EzbUPPER MIDDLE LEFT TO LOWER CENTREzzdRIGHTzhLEFT TO LOWER CENTRE",
  "1FB41gRIGHT BLOCK DIAGONAL UPPER MIDDLE LEFT TO UPPER CENTREzzeRIGHT",
  "1FB43zcLOWER MIDDLE LEFT TO UPPER CENTREzzeRIGHTziLEFT TO UPPER CENTRE",
  "1FB46ziMIDDLE LEFT TO UPPER MIDDLE RIGHTziCENTRE TO LOWER MIDDLE RIGHT",
  "1FB48ziLEFT TO LOWER MIDDLE RIGHTziCENTRE TO UPPER MIDDLE RIGHTziLEFT TO UPPER MIDDLE RIGHT",
  "1FB4BziCENTRE TO UPPER RIGHTgLEFT BLOCK DIAGONAL UPPER CENTRE TO UPPER MIDDLE RIGHT",
  "1FB4DzhLEFT TO UPPER MIDDLE RIGHTzhCENTRE TO LOWER MIDDLE RIGHTzhLEFT TO LOWER MIDDLE RIGHT",
  "1FB50zhCENTRE TO LOWER RIGHTzhMIDDLE LEFT TO LOWER MIDDLE RIGHT",
  "1FB52aUPPER RIGHT BLOCK DIAGONAL LOWER MIDDLE LEFT TO LOWER CENTREzzeRIGHT",
  "1FB54zcUPPER MIDDLE LEFT TO LOWER CENTREzzeRIGHTziLEFT TO LOWER CENTRE",
  "1FB57gLEFT BLOCK DIAGONAL UPPER MIDDLE LEFT TO UPPER CENTREzzdRIGHT",
  "1FB59zbLOWER MIDDLE LEFT TO UPPER CENTREzzdRIGHTzhLEFT TO UPPER CENTRE",
  "1FB5CzhMIDDLE LEFT TO UPPER MIDDLE RIGHTzhCENTRE TO LOWER MIDDLE RIGHT",
  "1FB5EzhLEFT TO LOWER MIDDLE RIGHTzhCENTRE TO UPPER MIDDLE RIGHTzhLEFT TO UPPER MIDDLE RIGHT",
  "1FB61zhCENTRE TO UPPER RIGHTgRIGHT BLOCK DIAGONAL UPPER CENTRE TO UPPER MIDDLE RIGHT",
  "1FB63ziLEFT TO UPPER MIDDLE RIGHTziCENTRE TO LOWER MIDDLE RIGHTziLEFT TO LOWER MIDDLE RIGHT",
  "1FB66ziCENTRE TO LOWER RIGHTziMIDDLE LEFT TO LOWER MIDDLE RIGHT",
  "1FB68gAND RIGHT AND LOWER TRIANGULAR THREE QUARTERS BLOCK",
  "1FB69aLEFT AND LOWER AND RIGHT TRIANGULAR THREE QUARTERS BLOCK",
  "1FB6AaUPPER AND LEFT AND LOWER TRIANGULAR THREE QUARTERS BLOCK",
  "1FB6BaLEFT AND UPPER AND RIGHT TRIANGULAR THREE QUARTERS BLOCKfTRIANGULAR ONE QUARTER BLOCK",
  "1FB6DaUPPER TRIANGULAR ONE QUARTER BLOCKaRIGHT TRIANGULAR ONE QUARTER BLOCK",
  "1FB6FaLOWER TRIANGULAR ONE QUARTER BLOCKaVERTICAL ONE EIGHTH BLOCK-2zb3zb4zb5zb6zb7",
  "1FB76aHORIZONTAL ONE EIGHTH BLOCK-2zd3zd4zd5zd6zd7aLEFT AND LOWER ONE EIGHTH BLOCK",
  "1FB7DjUPPER ONE EIGHTH BLOCKaRIGHT AND UPPER ONE EIGHTH BLOCKkLOWER ONE EIGHTH BLOCK",
  "1FB80aUPPER AND LOWER ONE EIGHTH BLOCKaHORIZONTAL ONE EIGHTH BLOCK-1358",
  "1FB82aUPPER ONE QUARTER BLOCKgTHREE EIGHTHS BLOCKgFIVE EIGHTHS BLOCKgTHREE QUARTERS BLOCK",
  "1FB86gSEVEN EIGHTHS BLOCKaRIGHT ONE QUARTER BLOCKgTHREE EIGHTHS BLOCKgFIVE EIGHTHS BLOCK",
  "1FB8AgTHREE QUARTERS BLOCKgSEVEN EIGHTHS BLOCKaLEFT HALF MEDIUM SHADEaRIGHT HALF MEDIUM SHADE",
  "1FB8EaUPPER HALF MEDIUM SHADEaLOWER HALF MEDIUM SHADEaINVERSE MEDIUM SHADE",
  "1FB91aUPPER HALF BLOCK AND LOWER HALF INVERSE MEDIUM SHADE",
  "1FB92lINVERSE MEDIUM SHADE AND LOWER HALF BLOCK",
  "1FB94aLEFT HALF INVERSE MEDIUM SHADE AND RIGHT HALF BLOCKaCHECKER BOARD FILL",
  "1FB96aINVERSE CHECKER BOARD FILLaHEAVY HORIZONTAL FILLaUPPER LEFT TO LOWER RIGHT FILL",
  "1FB99gRIGHT TO LOWER LEFT FILLgAND LOWER TRIANGULAR HALF BLOCK",
  "1FB9BaLEFT AND RIGHT TRIANGULAR HALF BLOCKaUPPER LEFT TRIANGULAR MEDIUM SHADE",
  "1FB9DgRIGHT TRIANGULAR MEDIUM SHADEaLOWER RIGHT TRIANGULAR MEDIUM SHADE",
  "1FB9FgLEFT TRIANGULAR MEDIUM SHADEaBOX DRAWINGS LIGHT DIAGONAL UPPER CENTRE TO MIDDLE LEFT",
  "1FBA1zzbRIGHTzdMIDDLE LEFT TO LOWER CENTREzkRIGHT TO LOWER CENTRE",
  "1FBA4zdUPPER CENTRE TO MIDDLE LEFT TO LOWER CENTREzzbRIGHT TO LOWER CENTRE",
  "1FBA6zdMIDDLE LEFT TO LOWER CENTRE TO MIDDLE RIGHTzsUPPER CENTRE TO MIDDLE RIGHT",
  "1FBA8zdUPPER CENTRE TO MIDDLE LEFT AND MIDDLE RIGHT TO LOWER CENTRE",
  "1FBA9zzbRIGHT AND MIDDLE LEFT TO LOWER CENTREzzhTO LOWER CENTRE TO MIDDLE LEFT",
  "1FBABzzbLEFT TO LOWER CENTRE TO MIDDLE RIGHT",
  "1FBACzdMIDDLE LEFT TO UPPER CENTRE TO MIDDLE RIGHT TO LOWER CENTRE",
  "1FBADzkRIGHT TO UPPER CENTRE TO MIDDLE LEFT TO LOWER CENTREzdDIAMOND",
  "1FBAFtHORIZONTAL WITH VERTICAL STROKEaARROWHEAD-SHAPED POINTERaINVERSE CHECK MARK",
  "1FBB2aLEFT HALF RUNNING MANaRIGHT HALF RUNNING MANaINVERSE DOWNWARDS ARROW WITH TIP LEFTWARDS",
  "1FBB5aLEFTWARDS ARROW AND UPPER AND LOWER ONE EIGHTH BLOCK",
  "1FBB6aRIGHTWARDS ARROW AND UPPER AND LOWER ONE EIGHTH BLOCK",
  "1FBB7aDOWNWARDS ARROW AND RIGHT ONE EIGHTH BLOCKaUPWARDS ARROW AND RIGHT ONE EIGHTH BLOCK",
  "1FBB9aLEFT HALF FOLDERaRIGHT HALF FOLDERaVOIDED GREEK CROSSaRIGHT OPEN SQUARED DOT",
  "1FBBDaNEGATIVE DIAGONAL CROSSsMIDDLE RIGHT TO LOWER CENTREsDIAMOND",
  "1FBC0aWHITE HEAVY SALTIRE WITH ROUNDED CORNERSaLEFT THIRD WHITE RIGHT POINTING INDEX",
  "1FBC2aMIDDLE THIRD WHITE RIGHT POINTING INDEXaRIGHT THIRD WHITE RIGHT POINTING INDEX",
  "1FBC4aNEGATIVE SQUARED QUESTION MARKaSTICK FIGUREm WITH ARMS RAISEDnLEANING LEFTvRIGHT",
  "1FBC9nWITH DRESSaWHITE UP-POINTING CHEVRON",
  "1FBF0aSEGMENTED DIGIT ZEROqONEqTWOrHREEqFOURrIVEqSIXrEVENqEIGHTqNINE",
  "E0001aLANGUAGE TAG",
  "E0020aTAG SPACEeEXCLAMATION MARKeQUOTATION MARKeNUMBER SIGNeDOLLAR SIGNePERCENT SIGNeAMPERSAND",
  "E0027fPOSTROPHEeLEFT PARENTHESISeRIGHT PARENTHESISeASTERISKePLUS SIGNeCOMMAeHYPHEN-MINUS",
  "E002EeFULL STOPeSOLIDUSeDIGIT ZEROkONEkTWOlHREEkFOURlIVEkSIXlEVENkEIGHTkNINEeCOLONeSEMICOLON",
  "E003CeLESS-THAN SIGNeEQUALS SIGNeGREATER-THAN SIGNeQUESTION MARKeCOMMERCIAL AT",
  "E0041eLATIN CAPITAL LETTER AzBzCzDzEzFzGzHzIzJzKzLzMzNzOzPzQzRzSzTzUzVzWzXzYzZ",
  "E005BfEFT SQUARE BRACKETeREVERSE SOLIDUSfIGHT SQUARE BRACKETeCIRCUMFLEX ACCENTeLOW LINE",
  "E0060eGRAVE ACCENTeLATIN SMALL LETTER AxBxCxDxExFxGxHxIxJxKxLxMxNxOxPxQxRxSxTxUxVxWxXxYxZ",
  "E007BfEFT CURLY BRACKETeVERTICAL LINEeRIGHT CURLY BRACKETeTILDEaCANCEL TAG",
  "E0100aVARIATION SELECTOR-17u8u9t20u1u2u3u4u5u6u7u8u9t30u1u2u3u4u5u6u7u8u9t40u1u2u3u4u5u6u7u8u9",
  "E0121t50u1u2u3u4u5u6u7u8u9t60u1u2u3u4u5u6u7u8u9t70u1u2u3u4u5u6u7u8u9t80u1u2u3u4u5u6u7u8u9t90u1",
  "E014Bu2u3u4u5u6u7u8u9t100v1v2v3v4v5v6v7v8v9u10v1v2v3v4v5v6v7v8v9u20v1v2v3v4v5v6v7v8v9u30v1v2v3",
  "E0175v4v5v6v7v8v9u40v1v2v3v4v5v6v7v8v9u50v1v2v3v4v5v6v7v8v9u60v1v2v3v4v5v6v7v8v9u70v1v2v3v4v5",
  "E019Fv6v7v8v9u80v1v2v3v4v5v6v7v8v9u90v1v2v3v4v5v6v7v8v9t200v1v2v3v4v5v6v7v8v9u10v1v2v3v4v5v6v7",
  "E01C9v8v9u20v1v2v3v4v5v6v7v8v9u30v1v2v3v4v5v6v7v8v9u40v1v2v3v4v5v6v7v8v9u50v1v2v3v4v5v6"]

end ModuleBridge.Text
