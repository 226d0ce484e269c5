/-!
# Names of characters from U+0000 to U+0FFF: the alphabets and alphasyllabaries in wide use
-/

namespace ModuleBridge.Text

/-- Lines of names. -/
def alphabetNames : List String := [
  "20aSPACEaEXCLAMATION MARKaQUOTATION MARKaNUMBER SIGNaDOLLAR SIGNaPERCENT SIGNaAMPERSAND",
  "27bPOSTROPHEaLEFT PARENTHESISaRIGHT PARENTHESISaASTERISKaPLUS SIGNaCOMMAaHYPHEN-MINUS",
  "2EaFULL STOPaSOLIDUSaDIGIT ZEROgONEgTWOhHREEgFOURhIVEgSIXhEVENgEIGHTgNINEaCOLONaSEMICOLON",
  "3CaLESS-THAN SIGNaEQUALS SIGNaGREATER-THAN SIGNaQUESTION MARKaCOMMERCIAL AT",
  "41aLATIN CAPITAL LETTER AvBvCvDvEvFvGvHvIvJvKvLvMvNvOvPvQvRvSvTvUvVvWvXvYvZbEFT SQUARE BRACKET",
  "5CaREVERSE SOLIDUSbIGHT SQUARE BRACKETaCIRCUMFLEX ACCENTaLOW LINEaGRAVE ACCENT",
  "61aLATIN SMALL LETTER AtBtCtDtEtFtGtHtItJtKtLtMtNtOtPtQtRtStTtUtVtWtXtYtZbEFT CURLY BRACKET",
  "7CaVERTICAL LINEaRIGHT CURLY BRACKETaTILDE",
  "A0aNO-BREAK SPACEaINVERTED EXCLAMATION MARKaCENT SIGNaPOUND SIGNaCURRENCY SIGNaYEN SIGN",
  "A6aBROKEN BARaSECTION SIGNaDIAERESISaCOPYRIGHT SIGNaFEMININE ORDINAL INDICATOR",
  "ABaLEFT-POINTING DOUBLE ANGLE QUOTATION MARKaNOT SIGNaSOFT HYPHENaREGISTERED SIGNaMACRON",
  "B0aDEGREE SIGNaPLUS-MINUS SIGNaSUPERSCRIPT TWOnHREEaACUTE ACCENTaMICRO SIGNaPILCROW SIGN",
  "B7aMIDDLE DOTaCEDILLAaSUPERSCRIPT ONEaMASCULINE ORDINAL INDICATOR",
  "BBaRIGHT-POINTING DOUBLE ANGLE QUOTATION MARKaVULGAR FRACTION ONE QUARTERuHALFqTHREE QUARTERS",
  "BFaINVERTED QUESTION MARKaLATIN CAPITAL LETTER A WITH GRAVEzdACUTEzdCIRCUMFLEXzdTILDE",
  "C4zdDIAERESISzdRING ABOVEwEvC WITH CEDILLAvE WITH GRAVEzdACUTEzdCIRCUMFLEXzdDIAERESIS",
  "CCvI WITH GRAVEzdACUTEzdCIRCUMFLEXzdDIAERESISvETHvN WITH TILDEvO WITH GRAVEzdACUTEzdCIRCUMFLEX",
  "D5zdTILDEzdDIAERESISaMULTIPLICATION SIGNaLATIN CAPITAL LETTER O WITH STROKEvU WITH GRAVE",
  "DAzdACUTEzdCIRCUMFLEXzdDIAERESISvY WITH ACUTEvTHORNgSMALL LETTER SHARP StA WITH GRAVEzbACUTE",
  "E2zbCIRCUMFLEXzbTILDEzbDIAERESISzbRING ABOVEuEtC WITH CEDILLAtE WITH GRAVEzbACUTEzbCIRCUMFLEX",
  "EBzbDIAERESIStI WITH GRAVEzbACUTEzbCIRCUMFLEXzbDIAERESIStETHtN WITH TILDEtO WITH GRAVEzbACUTE",
  "F4zbCIRCUMFLEXzbTILDEzbDIAERESISaDIVISION SIGNaLATIN SMALL LETTER O WITH STROKEtU WITH GRAVE",
  "FAzbACUTEzbCIRCUMFLEXzbDIAERESIStY WITH ACUTEtTHORNtY WITH DIAERESIS",
  "100gCAPITAL LETTER A WITH MACRONgSMALL LETTER A WITH MACRONgCAPITAL LETTER A WITH BREVE",
  "103gSMALL LETTER A WITH BREVEgCAPITAL LETTER A WITH OGONEKgSMALL LETTER A WITH OGONEK",
  "106gCAPITAL LETTER C WITH ACUTEgSMALL LETTER C WITH ACUTEgCAPITAL LETTER C WITH CIRCUMFLEX",
  "109gSMALL LETTER C WITH CIRCUMFLEXgCAPITAL LETTER C WITH DOT ABOVE",
  "10BgSMALL LETTER C WITH DOT ABOVEgCAPITAL LETTER C WITH CARONgSMALL LETTER C WITH CARON",
  "10EgCAPITAL LETTER D WITH CARONgSMALL LETTER D WITH CARONgCAPITAL LETTER D WITH STROKE",
  "111gSMALL LETTER D WITH STROKEgCAPITAL LETTER E WITH MACRONgSMALL LETTER E WITH MACRON",
  "114gCAPITAL LETTER E WITH BREVEgSMALL LETTER E WITH BREVEgCAPITAL LETTER E WITH DOT ABOVE",
  "117gSMALL LETTER E WITH DOT ABOVEgCAPITAL LETTER E WITH OGONEKgSMALL LETTER E WITH OGONEK",
  "11AgCAPITAL LETTER E WITH CARONgSMALL LETTER E WITH CARONgCAPITAL LETTER G WITH CIRCUMFLEX",
  "11DgSMALL LETTER G WITH CIRCUMFLEXgCAPITAL LETTER G WITH BREVEgSMALL LETTER G WITH BREVE",
  "120gCAPITAL LETTER G WITH DOT ABOVEgSMALL LETTER G WITH DOT ABOVE",
  "122gCAPITAL LETTER G WITH CEDILLAgSMALL LETTER G WITH CEDILLAgCAPITAL LETTER H WITH CIRCUMFLEX",
  "125gSMALL LETTER H WITH CIRCUMFLEXgCAPITAL LETTER H WITH STROKEgSMALL LETTER H WITH STROKE",
  "128gCAPITAL LETTER I WITH TILDEgSMALL LETTER I WITH TILDEgCAPITAL LETTER I WITH MACRON",
  "12BgSMALL LETTER I WITH MACRONgCAPITAL LETTER I WITH BREVEgSMALL LETTER I WITH BREVE",
  "12EgCAPITAL LETTER I WITH OGONEKgSMALL LETTER I WITH OGONEKgCAPITAL LETTER I WITH DOT ABOVE",
  "131gSMALL LETTER DOTLESS IgCAPITAL LIGATURE IJgSMALL LIGATURE IJ",
  "134gCAPITAL LETTER J WITH CIRCUMFLEXgSMALL LETTER J WITH CIRCUMFLEX",
  "136gCAPITAL LETTER K WITH CEDILLAgSMALL LETTER K WITH CEDILLAuRAgCAPITAL LETTER L WITH ACUTE",
  "13AgSMALL LETTER L WITH ACUTEgCAPITAL LETTER L WITH CEDILLAgSMALL LETTER L WITH CEDILLA",
  "13DgCAPITAL LETTER L WITH CARONgSMALL LETTER L WITH CARONgCAPITAL LETTER L WITH MIDDLE DOT",
  "140gSMALL LETTER L WITH MIDDLE DOTgCAPITAL LETTER L WITH STROKEgSMALL LETTER L WITH STROKE",
  "143gCAPITAL LETTER N WITH ACUTEgSMALL LETTER N WITH ACUTEgCAPITAL LETTER N WITH CEDILLA",
  "146gSMALL LETTER N WITH CEDILLAgCAPITAL LETTER N WITH CARONgSMALL LETTER N WITH CARON",
  "149vPRECEDED BY APOSTROPHEgCAPITAL LETTER ENGgSMALL LETTER ENGgCAPITAL LETTER O WITH MACRON",
  "14DgSMALL LETTER O WITH MACRONgCAPITAL LETTER O WITH BREVEgSMALL LETTER O WITH BREVE",
  "150gCAPITAL LETTER O WITH DOUBLE ACUTEgSMALL LETTER O WITH DOUBLE ACUTEgCAPITAL LIGATURE OE",
  "153gSMALL LIGATURE OEgCAPITAL LETTER R WITH ACUTEgSMALL LETTER R WITH ACUTE",
  "156gCAPITAL LETTER R WITH CEDILLAgSMALL LETTER R WITH CEDILLAgCAPITAL LETTER R WITH CARON",
  "159gSMALL LETTER R WITH CARONgCAPITAL LETTER S WITH ACUTEgSMALL LETTER S WITH ACUTE",
  "15CgCAPITAL LETTER S WITH CIRCUMFLEXgSMALL LETTER S WITH CIRCUMFLEX",
  "15EgCAPITAL LETTER S WITH CEDILLAgSMALL LETTER S WITH CEDILLAgCAPITAL LETTER S WITH CARON",
  "161gSMALL LETTER S WITH CARONgCAPITAL LETTER T WITH CEDILLAgSMALL LETTER T WITH CEDILLA",
  "164gCAPITAL LETTER T WITH CARONgSMALL LETTER T WITH CARONgCAPITAL LETTER T WITH STROKE",
  "167gSMALL LETTER T WITH STROKEgCAPITAL LETTER U WITH TILDEgSMALL LETTER U WITH TILDE",
  "16AgCAPITAL LETTER U WITH MACRONgSMALL LETTER U WITH MACRONgCAPITAL LETTER U WITH BREVE",
  "16DgSMALL LETTER U WITH BREVEgCAPITAL LETTER U WITH RING ABOVEgSMALL LETTER U WITH RING ABOVE",
  "170gCAPITAL LETTER U WITH DOUBLE ACUTEgSMALL LETTER U WITH DOUBLE ACUTE",
  "172gCAPITAL LETTER U WITH OGONEKgSMALL LETTER U WITH OGONEKgCAPITAL LETTER W WITH CIRCUMFLEX",
  "175gSMALL LETTER W WITH CIRCUMFLEXgCAPITAL LETTER Y WITH CIRCUMFLEX",
  "177gSMALL LETTER Y WITH CIRCUMFLEXgCAPITAL LETTER Y WITH DIAERESISvZ WITH ACUTE",
  "17AgSMALL LETTER Z WITH ACUTEgCAPITAL LETTER Z WITH DOT ABOVEgSMALL LETTER Z WITH DOT ABOVE",
  "17DgCAPITAL LETTER Z WITH CARONgSMALL LETTER Z WITH CARONtLONG StB WITH STROKE",
  "181gCAPITAL LETTER B WITH HOOKzdTOPBARgSMALL LETTER B WITH TOPBARgCAPITAL LETTER TONE SIX",
  "185gSMALL LETTER TONE SIXgCAPITAL LETTER OPEN OvC WITH HOOKgSMALL LETTER C WITH HOOK",
  "189gCAPITAL LETTER AFRICAN DvD WITH HOOKzdTOPBARgSMALL LETTER D WITH TOPBARtTURNED DELTA",
  "18EgCAPITAL LETTER REVERSED EvSCHWAvOPEN EvF WITH HOOKgSMALL LETTER F WITH HOOK",
  "193gCAPITAL LETTER G WITH HOOKwAMMAgSMALL LETTER HVgCAPITAL LETTER IOTAw WITH STROKE",
  "198vK WITH HOOKgSMALL LETTER K WITH HOOKtL WITH BARuAMBDA WITH STROKEgCAPITAL LETTER TURNED M",
  "19DvN WITH LEFT HOOKgSMALL LETTER N WITH LONG RIGHT LEGgCAPITAL LETTER O WITH MIDDLE TILDE",
  "1A0zdHORNgSMALL LETTER O WITH HORNgCAPITAL LETTER OIgSMALL LETTER OI",
  "1A4gCAPITAL LETTER P WITH HOOKgSMALL LETTER P WITH HOOKgLETTER YRgCAPITAL LETTER TONE TWO",
  "1A8gSMALL LETTER TONE TWOgCAPITAL LETTER ESHgLETTER REVERSED ESH LOOP",
  "1ABgSMALL LETTER T WITH PALATAL HOOKgCAPITAL LETTER T WITH HOOKgSMALL LETTER T WITH HOOK",
  "1AEgCAPITAL LETTER T WITH RETROFLEX HOOKvU WITH HORNgSMALL LETTER U WITH HORN",
  "1B1gCAPITAL LETTER UPSILONvV WITH HOOKvY WITH HOOKgSMALL LETTER Y WITH HOOK",
  "1B5gCAPITAL LETTER Z WITH STROKEgSMALL LETTER Z WITH STROKEgCAPITAL LETTER EZHy REVERSED",
  "1B9gSMALL LETTER EZH REVERSEDxWITH TAILgLETTER TWO WITH STROKEgCAPITAL LETTER TONE FIVE",
  "1BDgSMALL LETTER TONE FIVEgLETTER INVERTED GLOTTAL STOP WITH STROKEnWYNNnDENTAL CLICK",
  "1C1nLATERAL CLICKnALVEOLAR CLICKnRETROFLEX CLICKgCAPITAL LETTER DZ WITH CARON",
  "1C5w WITH SMALL LETTER Z WITH CARONgSMALL LETTER DZ WITH CARONgCAPITAL LETTER LJ",
  "1C8w WITH SMALL LETTER JgSMALL LETTER LJgCAPITAL LETTER NJw WITH SMALL LETTER J",
  "1CCgSMALL LETTER NJgCAPITAL LETTER A WITH CARONgSMALL LETTER A WITH CARON",
  "1CFgCAPITAL LETTER I WITH CARONgSMALL LETTER I WITH CARONgCAPITAL LETTER O WITH CARON",
  "1D2gSMALL LETTER O WITH CARONgCAPITAL LETTER U WITH CARONgSMALL LETTER U WITH CARON",
  "1D5gCAPITAL LETTER U WITH DIAERESIS AND MACRONgSMALL LETTER U WITH DIAERESIS AND MACRON",
  "1D7gCAPITAL LETTER U WITH DIAERESIS AND ACUTEgSMALL LETTER U WITH DIAERESIS AND ACUTE",
  "1D9gCAPITAL LETTER U WITH DIAERESIS AND CARONgSMALL LETTER U WITH DIAERESIS AND CARON",
  "1DBgCAPITAL LETTER U WITH DIAERESIS AND GRAVEgSMALL LETTER U WITH DIAERESIS AND GRAVEtTURNED E",
  "1DEgCAPITAL LETTER A WITH DIAERESIS AND MACRONgSMALL LETTER A WITH DIAERESIS AND MACRON",
  "1E0gCAPITAL LETTER A WITH DOT ABOVE AND MACRONgSMALL LETTER A WITH DOT ABOVE AND MACRON",
  "1E2gCAPITAL LETTER AE WITH MACRONgSMALL LETTER AE WITH MACRONgCAPITAL LETTER G WITH STROKE",
  "1E5gSMALL LETTER G WITH STROKEgCAPITAL LETTER G WITH CARONgSMALL LETTER G WITH CARON",
  "1E8gCAPITAL LETTER K WITH CARONgSMALL LETTER K WITH CARONgCAPITAL LETTER O WITH OGONEK",
  "1EBgSMALL LETTER O WITH OGONEKgCAPITAL LETTER O WITH OGONEK AND MACRON",
  "1EDgSMALL LETTER O WITH OGONEK AND MACRONgCAPITAL LETTER EZH WITH CARON",
  "1EFgSMALL LETTER EZH WITH CARONtJ WITH CARONgCAPITAL LETTER DZw WITH SMALL LETTER Z",
  "1F3gSMALL LETTER DZgCAPITAL LETTER G WITH ACUTEgSMALL LETTER G WITH ACUTEgCAPITAL LETTER HWAIR",
  "1F7vWYNNvN WITH GRAVEgSMALL LETTER N WITH GRAVEgCAPITAL LETTER A WITH RING ABOVE AND ACUTE",
  "1FBgSMALL LETTER A WITH RING ABOVE AND ACUTEgCAPITAL LETTER AE WITH ACUTE",
  "1FDgSMALL LETTER AE WITH ACUTEgCAPITAL LETTER O WITH STROKE AND ACUTE",
  "1FFgSMALL LETTER O WITH STROKE AND ACUTEgCAPITAL LETTER A WITH DOUBLE GRAVE",
  "201gSMALL LETTER A WITH DOUBLE GRAVEgCAPITAL LETTER A WITH INVERTED BREVE",
  "203gSMALL LETTER A WITH INVERTED BREVEgCAPITAL LETTER E WITH DOUBLE GRAVE",
  "205gSMALL LETTER E WITH DOUBLE GRAVEgCAPITAL LETTER E WITH INVERTED BREVE",
  "207gSMALL LETTER E WITH INVERTED BREVEgCAPITAL LETTER I WITH DOUBLE GRAVE",
  "209gSMALL LETTER I WITH DOUBLE GRAVEgCAPITAL LETTER I WITH INVERTED BREVE",
  "20BgSMALL LETTER I WITH INVERTED BREVEgCAPITAL LETTER O WITH DOUBLE GRAVE",
  "20DgSMALL LETTER O WITH DOUBLE GRAVEgCAPITAL LETTER O WITH INVERTED BREVE",
  "20FgSMALL LETTER O WITH INVERTED BREVEgCAPITAL LETTER R WITH DOUBLE GRAVE",
  "211gSMALL LETTER R WITH DOUBLE GRAVEgCAPITAL LETTER R WITH INVERTED BREVE",
  "213gSMALL LETTER R WITH INVERTED BREVEgCAPITAL LETTER U WITH DOUBLE GRAVE",
  "215gSMALL LETTER U WITH DOUBLE GRAVEgCAPITAL LETTER U WITH INVERTED BREVE",
  "217gSMALL LETTER U WITH INVERTED BREVEgCAPITAL LETTER S WITH COMMA BELOW",
  "219gSMALL LETTER S WITH COMMA BELOWgCAPITAL LETTER T WITH COMMA BELOW",
  "21BgSMALL LETTER T WITH COMMA BELOWgCAPITAL LETTER YOGHgSMALL LETTER YOGH",
  "21EgCAPITAL LETTER H WITH CARONgSMALL LETTER H WITH CARONgCAPITAL LETTER N WITH LONG RIGHT LEG",
  "221gSMALL LETTER D WITH CURLgCAPITAL LETTER OUgSMALL LETTER OUgCAPITAL LETTER Z WITH HOOK",
  "225gSMALL LETTER Z WITH HOOKgCAPITAL LETTER A WITH DOT ABOVEgSMALL LETTER A WITH DOT ABOVE",
  "228gCAPITAL LETTER E WITH CEDILLAgSMALL LETTER E WITH CEDILLA",
  "22AgCAPITAL LETTER O WITH DIAERESIS AND MACRONgSMALL LETTER O WITH DIAERESIS AND MACRON",
  "22CgCAPITAL LETTER O WITH TILDE AND MACRONgSMALL LETTER O WITH TILDE AND MACRON",
  "22EgCAPITAL LETTER O WITH DOT ABOVEgSMALL LETTER O WITH DOT ABOVE",
  "230gCAPITAL LETTER O WITH DOT ABOVE AND MACRONgSMALL LETTER O WITH DOT ABOVE AND MACRON",
  "232gCAPITAL LETTER Y WITH MACRONgSMALL LETTER Y WITH MACRONtL WITH CURLtN WITH CURL",
  "236tT WITH CURLtDOTLESS JuB DIGRAPHtQP DIGRAPHgCAPITAL LETTER A WITH STROKEvC WITH STROKE",
  "23CgSMALL LETTER C WITH STROKEgCAPITAL LETTER L WITH BARvT WITH DIAGONAL STROKE",
  "23FgSMALL LETTER S WITH SWASH TAILtZ WITH SWASH TAILgCAPITAL LETTER GLOTTAL STOP",
  "242gSMALL LETTER GLOTTAL STOPgCAPITAL LETTER B WITH STROKEvU BARvTURNED VvE WITH STROKE",
  "247gSMALL LETTER E WITH STROKEgCAPITAL LETTER J WITH STROKEgSMALL LETTER J WITH STROKE",
  "24AgCAPITAL LETTER SMALL Q WITH HOOK TAILgSMALL LETTER Q WITH HOOK TAIL",
  "24CgCAPITAL LETTER R WITH STROKEgSMALL LETTER R WITH STROKEgCAPITAL LETTER Y WITH STROKE",
  "24FgSMALL LETTER Y WITH STROKEtTURNED AtALPHAtTURNED ALPHAtB WITH HOOKtOPEN OtC WITH CURL",
  "256tD WITH TAILzbHOOKtREVERSED EtSCHWAy WITH HOOKtOPEN EtREVERSED OPEN Ezj WITH HOOK",
  "25EtCLOSED REVERSED OPEN EtDOTLESS J WITH STROKEtG WITH HOOKtSCRIPT GgLETTER SMALL CAPITAL G",
  "263gSMALL LETTER GAMMAtRAMS HORNtTURNED HtH WITH HOOKuENG WITH HOOKtI WITH STROKEuOTA",
  "26AgLETTER SMALL CAPITAL IgSMALL LETTER L WITH MIDDLE TILDEzbBELTzbRETROFLEX HOOKuEZHtTURNED M",
  "270zc WITH LONG LEGtM WITH HOOKtN WITH LEFT HOOKzbRETROFLEX HOOKgLETTER SMALL CAPITAL N",
  "275gSMALL LETTER BARRED OgLETTER SMALL CAPITAL OEgSMALL LETTER CLOSED OMEGAtPHItTURNED R",
  "27Azc WITH LONG LEGziHOOKtR WITH LONG LEGzbTAILzbFISHHOOKuEVERSED R WITH FISHHOOK",
  "280gLETTER SMALL CAPITAL RzcINVERTED RgSMALL LETTER S WITH HOOKtESH",
  "284tDOTLESS J WITH STROKE AND HOOKtSQUAT REVERSED ESHtESH WITH CURLtTURNED T",
  "288u WITH RETROFLEX HOOKtU BARuPSILONtV WITH HOOKtTURNED VzbWzbYgLETTER SMALL CAPITAL Y",
  "290gSMALL LETTER Z WITH RETROFLEX HOOKzbCURLtEZHw WITH CURLgLETTER GLOTTAL STOP",
  "295nPHARYNGEAL VOICED FRICATIVEnINVERTED GLOTTAL STOPnSTRETCHED CnBILABIAL CLICK",
  "299nSMALL CAPITAL BgSMALL LETTER CLOSED OPEN EgLETTER SMALL CAPITAL G WITH HOOKzcH",
  "29DgSMALL LETTER J WITH CROSSED-TAILtTURNED KgLETTER SMALL CAPITAL LgSMALL LETTER Q WITH HOOK",
  "2A1gLETTER GLOTTAL STOP WITH STROKEnREVERSED GLOTTAL STOP WITH STROKEgSMALL LETTER DZ DIGRAPH",
  "2A4uEZH DIGRAPHuZ DIGRAPH WITH CURLtTS DIGRAPHuESH DIGRAPHuC DIGRAPH WITH CURLtFENG DIGRAPH",
  "2AAtLS DIGRAPHuZ DIGRAPHgLETTER BILABIAL PERCUSSIVEpDENTAL PERCUSSIVE",
  "2AEgSMALL LETTER TURNED H WITH FISHHOOKzq AND TAILaMODIFIER LETTER SMALL Hx WITH HOOKwJwR",
  "2B4wTURNED Rzf WITH HOOKwCAPITAL INVERTED RwWwYqPRIMEqDOUBLE PRIMEqTURNED COMMAqAPOSTROPHE",
  "2BDqREVERSED COMMArIGHT HALF RINGqLEFT HALF RINGqGLOTTAL STOPqREVERSED GLOTTAL STOP",
  "2C2qLEFT ARROWHEADqRIGHT ARROWHEADqUP ARROWHEADqDOWN ARROWHEADqCIRCUMFLEX ACCENTaCARON",
  "2C8aMODIFIER LETTER VERTICAL LINEqMACRONqACUTE ACCENTqGRAVE ACCENTqLOW VERTICAL LINEuMACRON",
  "2CEuGRAVE ACCENTuACUTE ACCENTqTRIANGULAR COLONqHALF TRIANGULAR COLONqCENTRED RIGHT HALF RING",
  "2D3yLEFT HALF RINGqUP TACKqDOWN TACKqPLUS SIGNqMINUS SIGNaBREVEaDOT ABOVEaRING ABOVEaOGONEK",
  "2DCaSMALL TILDEaDOUBLE ACUTE ACCENTaMODIFIER LETTER RHOTIC HOOKqCROSS ACCENTqSMALL GAMMAwLwSwX",
  "2E4wREVERSED GLOTTAL STOPqEXTRA-HIGH TONE BARqHIGH TONE BARqMID TONE BARqLOW TONE BAR",
  "2E9qEXTRA-LOW TONE BARqYIN DEPARTING TONE MARKrANG DEPARTING TONE MARKqVOICINGqUNASPIRATED",
  "2EEqDOUBLE APOSTROPHEqLOW DOWN ARROWHEADuUP ARROWHEADuLEFT ARROWHEADuRIGHT ARROWHEADwNG",
  "2F4qMIDDLE GRAVE ACCENTxDOUBLE GRAVE ACCENTzfACUTE ACCENTqLOW TILDEqRAISED COLON",
  "2F9qBEGIN HIGH TONEqEND HIGH TONEqBEGIN LOW TONEqEND LOW TONEqSHELFqOPEN SHELFqLOW LEFT ARROW",
  "300aCOMBINING GRAVE ACCENTkACUTE ACCENTkCIRCUMFLEX ACCENTkTILDEkMACRONkOVERLINEkBREVE",
  "307kDOT ABOVElIAERESISkHOOK ABOVEkRING ABOVEkDOUBLE ACUTE ACCENTkCARONkVERTICAL LINE ABOVE",
  "30EkDOUBLE VERTICAL LINE ABOVErGRAVE ACCENTkCANDRABINDUkINVERTED BREVEkTURNED COMMA ABOVE",
  "313kCOMMA ABOVEkREVERSED COMMA ABOVEkCOMMA ABOVE RIGHTkGRAVE ACCENT BELOWkACUTE ACCENT BELOW",
  "318kLEFT TACK BELOWkRIGHT TACK BELOWkLEFT ANGLE ABOVEkHORNkLEFT HALF RING BELOWkUP TACK BELOW",
  "31EkDOWN TACK BELOWkPLUS SIGN BELOWkMINUS SIGN BELOWkPALATALIZED HOOK BELOW",
  "322kRETROFLEX HOOK BELOWkDOT BELOWlIAERESIS BELOWkRING BELOWkCOMMA BELOWlEDILLAkOGONEK",
  "329kVERTICAL LINE BELOWkBRIDGE BELOWkINVERTED DOUBLE ARCH BELOWkCARON BELOW",
  "32DlIRCUMFLEX ACCENT BELOWkBREVE BELOWkINVERTED BREVE BELOWkTILDE BELOWkMACRON BELOWkLOW LINE",
  "333kDOUBLE LOW LINEkTILDE OVERLAYkSHORT STROKE OVERLAYkLONG STROKE OVERLAY",
  "337kSHORT SOLIDUS OVERLAYkLONG SOLIDUS OVERLAYkRIGHT HALF RING BELOWkINVERTED BRIDGE BELOW",
  "33BkSQUARE BELOWlEAGULL BELOWkX ABOVEkVERTICAL TILDEkDOUBLE OVERLINEkGRAVE TONE MARK",
  "341kACUTE TONE MARKkGREEK PERISPOMENIqKORONISqDIALYTIKA TONOSqYPOGEGRAMMENIkBRIDGE ABOVE",
  "347kEQUALS SIGN BELOWkDOUBLE VERTICAL LINE BELOWkLEFT ANGLE BELOWkNOT TILDE ABOVE",
  "34BkHOMOTHETIC ABOVEkALMOST EQUAL TO ABOVEkLEFT RIGHT ARROW BELOWkUPWARDS ARROW BELOW",
  "34FkGRAPHEME JOINERkRIGHT ARROWHEAD ABOVEkLEFT HALF RING ABOVEkFERMATAkX BELOW",
  "354kLEFT ARROWHEAD BELOWkRIGHT ARROWHEAD BELOWzbAND UP ARROWHEAD BELOWqHALF RING ABOVE",
  "358kDOT ABOVE RIGHTkASTERISK BELOWkDOUBLE RING BELOWkZIGZAG ABOVEkDOUBLE BREVE BELOWvErMACRON",
  "35Fx BELOWrTILDErINVERTED BREVErRIGHTWARDS ARROW BELOWkLATIN SMALL LETTER AzeEzeIzeOzeUzeCzeD",
  "36AzeHzeMzeRzeTzeVzeXaGREEK CAPITAL LETTER HETAgSMALL LETTER HETAgCAPITAL LETTER ARCHAIC SAMPI",
  "373gSMALL LETTER ARCHAIC SAMPIgNUMERAL SIGNgLOWER NUMERAL SIGN",
  "376gCAPITAL LETTER PAMPHYLIAN DIGAMMAgSMALL LETTER PAMPHYLIAN DIGAMMA",
  "37AgYPOGEGRAMMENIgSMALL REVERSED LUNATE SIGMA SYMBOLmDOTTED LUNATE SIGMA SYMBOL",
  "37DmREVERSED DOTTED LUNATE SIGMA SYMBOLgQUESTION MARKgCAPITAL LETTER YOT",
  "384gTONOSgDIALYTIKA TONOSgCAPITAL LETTER ALPHA WITH TONOSgANO TELEIA",
  "388gCAPITAL LETTER EPSILON WITH TONOSwTA WITH TONOSvIOTA WITH TONOS",
  "38CvOMICRON WITH TONOS",
  "38EvUPSILON WITH TONOSvOMEGA WITH TONOSgSMALL LETTER IOTA WITH DIALYTIKA AND TONOS",
  "391gCAPITAL LETTER ALPHAvBETAvGAMMAvDELTAvEPSILONvZETAvETAvTHETAvIOTAvKAPPAvLAMDAvMUvNUvXI",
  "39FvOMICRONvPIvRHO",
  "3A3vSIGMAvTAUvUPSILONvPHIvCHIvPSIvOMEGAvIOTA WITH DIALYTIKAvUPSILON WITH DIALYTIKA",
  "3ACgSMALL LETTER ALPHA WITH TONOStEPSILON WITH TONOSuTA WITH TONOStIOTA WITH TONOS",
  "3B0tUPSILON WITH DIALYTIKA AND TONOStALPHAtBETAtGAMMAtDELTAtEPSILONtZETAtETAtTHETAtIOTAtKAPPA",
  "3BBtLAMDAtMUtNUtXItOMICRONtPItRHOtFINAL SIGMAtSIGMAtTAUtUPSILONtPHItCHItPSItOMEGA",
  "3CAtIOTA WITH DIALYTIKAtUPSILON WITH DIALYTIKAtOMICRON WITH TONOStUPSILON WITH TONOS",
  "3CEtOMEGA WITH TONOSgCAPITAL KAI SYMBOLgBETA SYMBOLgTHETA SYMBOLgUPSILON WITH HOOK SYMBOL",
  "3D3tACUTE AND HOOK SYMBOLtDIAERESIS AND HOOK SYMBOLgPHI SYMBOLhI SYMBOLgKAI SYMBOL",
  "3D8gLETTER ARCHAIC KOPPAgSMALL LETTER ARCHAIC KOPPAgLETTER STIGMAgSMALL LETTER STIGMA",
  "3DCgLETTER DIGAMMAgSMALL LETTER DIGAMMAgLETTER KOPPAgSMALL LETTER KOPPAgLETTER SAMPI",
  "3E1gSMALL LETTER SAMPIaCOPTIC CAPITAL LETTER SHEIhSMALL LETTER SHEIhCAPITAL LETTER FEI",
  "3E5hSMALL LETTER FEIhCAPITAL LETTER KHEIhSMALL LETTER KHEIhCAPITAL LETTER HORI",
  "3E9hSMALL LETTER HORIhCAPITAL LETTER GANGIAhSMALL LETTER GANGIAhCAPITAL LETTER SHIMA",
  "3EDhSMALL LETTER SHIMAhCAPITAL LETTER DEIhSMALL LETTER DEIaGREEK KAPPA SYMBOLgRHO SYMBOL",
  "3F2gLUNATE SIGMA SYMBOLhETTER YOTgCAPITAL THETA SYMBOLgLUNATE EPSILON SYMBOL",
  "3F6gREVERSED LUNATE EPSILON SYMBOLgCAPITAL LETTER SHOgSMALL LETTER SHO",
  "3F9gCAPITAL LUNATE SIGMA SYMBOLpETTER SANgSMALL LETTER SANgRHO WITH STROKE SYMBOL",
  "3FDgCAPITAL REVERSED LUNATE SIGMA SYMBOLoDOTTED LUNATE SIGMA SYMBOL",
  "3FFoREVERSED DOTTED LUNATE SIGMA SYMBOLaCYRILLIC CAPITAL LETTER IE WITH GRAVEzOyDJEyGJE",
  "404yUKRAINIAN IEyDZEyBYELORUSSIAN-UKRAINIAN IyYIyJEyLJEyNJEyTSHEyKJEyI WITH GRAVEySHORT UyDZHE",
  "410yAyBEyVEyGHEyDEyIEyZHEzEyIySHORT IyKAyELzMzNyOyPEyERzSyTEyUyEFyHAyTSEyCHEySHAzbCHA",
  "42AyHARD SIGNyYERUySOFT SIGNyEyYUzAjSMALL LETTER AwBEwVEwGHEwDEwIEwZHExEwIwSHORT IwKAwELxMxNwO",
  "43FwPEwERxSwTEwUwEFwHAwTSEwCHEwSHAyCHAwHARD SIGNwYERUwSOFT SIGNwEwYUxAwIE WITH GRAVExOwDJEwGJE",
  "454wUKRAINIAN IEwDZEwBYELORUSSIAN-UKRAINIAN IwYIwJEwLJEwNJEwTSHEwKJEwI WITH GRAVEwSHORT UwDZHE",
  "460jCAPITAL LETTER OMEGAjSMALL LETTER OMEGAjCAPITAL LETTER YATjSMALL LETTER YAT",
  "464jCAPITAL LETTER IOTIFIED EjSMALL LETTER IOTIFIED EjCAPITAL LETTER LITTLE YUS",
  "467jSMALL LETTER LITTLE YUSjCAPITAL LETTER IOTIFIED LITTLE YUS",
  "469jSMALL LETTER IOTIFIED LITTLE YUSjCAPITAL LETTER BIG YUSjSMALL LETTER BIG YUS",
  "46CjCAPITAL LETTER IOTIFIED BIG YUSjSMALL LETTER IOTIFIED BIG YUSjCAPITAL LETTER KSI",
  "46FjSMALL LETTER KSIjCAPITAL LETTER PSIjSMALL LETTER PSIjCAPITAL LETTER FITAjSMALL LETTER FITA",
  "474jCAPITAL LETTER IZHITSAjSMALL LETTER IZHITSA",
  "476jCAPITAL LETTER IZHITSA WITH DOUBLE GRAVE ACCENT",
  "477jSMALL LETTER IZHITSA WITH DOUBLE GRAVE ACCENTjCAPITAL LETTER UKjSMALL LETTER UK",
  "47AjCAPITAL LETTER ROUND OMEGAjSMALL LETTER ROUND OMEGAjCAPITAL LETTER OMEGA WITH TITLO",
  "47DjSMALL LETTER OMEGA WITH TITLOjCAPITAL LETTER OTjSMALL LETTER OTjCAPITAL LETTER KOPPA",
  "481jSMALL LETTER KOPPAjTHOUSANDS SIGNbOMBINING CYRILLIC TITLOtPALATALIZATIONtDASIA PNEUMATA",
  "486tPSILI PNEUMATAuOKRYTIEtHUNDRED THOUSANDS SIGNtMILLIONS SIGN",
  "48AbYRILLIC CAPITAL LETTER SHORT I WITH TAILjSMALL LETTER SHORT I WITH TAIL",
  "48CjCAPITAL LETTER SEMISOFT SIGNjSMALL LETTER SEMISOFT SIGNjCAPITAL LETTER ER WITH TICK",
  "48FjSMALL LETTER ER WITH TICKjCAPITAL LETTER GHE WITH UPTURNjSMALL LETTER GHE WITH UPTURN",
  "492jCAPITAL LETTER GHE WITH STROKEjSMALL LETTER GHE WITH STROKE",
  "494jCAPITAL LETTER GHE WITH MIDDLE HOOKjSMALL LETTER GHE WITH MIDDLE HOOK",
  "496jCAPITAL LETTER ZHE WITH DESCENDERjSMALL LETTER ZHE WITH DESCENDER",
  "498jCAPITAL LETTER ZE WITH DESCENDERjSMALL LETTER ZE WITH DESCENDER",
  "49AjCAPITAL LETTER KA WITH DESCENDERjSMALL LETTER KA WITH DESCENDER",
  "49CjCAPITAL LETTER KA WITH VERTICAL STROKEjSMALL LETTER KA WITH VERTICAL STROKE",
  "49EjCAPITAL LETTER KA WITH STROKEjSMALL LETTER KA WITH STROKEjCAPITAL LETTER BASHKIR KA",
  "4A1jSMALL LETTER BASHKIR KAjCAPITAL LETTER EN WITH DESCENDERjSMALL LETTER EN WITH DESCENDER",
  "4A4jCAPITAL LIGATURE EN GHEjSMALL LIGATURE EN GHEjCAPITAL LETTER PE WITH MIDDLE HOOK",
  "4A7jSMALL LETTER PE WITH MIDDLE HOOKjCAPITAL LETTER ABKHASIAN HAjSMALL LETTER ABKHASIAN HA",
  "4AAjCAPITAL LETTER ES WITH DESCENDERjSMALL LETTER ES WITH DESCENDER",
  "4ACjCAPITAL LETTER TE WITH DESCENDERjSMALL LETTER TE WITH DESCENDERjCAPITAL LETTER STRAIGHT U",
  "4AFjSMALL LETTER STRAIGHT UjCAPITAL LETTER STRAIGHT U WITH STROKE",
  "4B1jSMALL LETTER STRAIGHT U WITH STROKEjCAPITAL LETTER HA WITH DESCENDER",
  "4B3jSMALL LETTER HA WITH DESCENDERjCAPITAL LIGATURE TE TSEjSMALL LIGATURE TE TSE",
  "4B6jCAPITAL LETTER CHE WITH DESCENDERjSMALL LETTER CHE WITH DESCENDER",
  "4B8jCAPITAL LETTER CHE WITH VERTICAL STROKEjSMALL LETTER CHE WITH VERTICAL STROKE",
  "4BAjCAPITAL LETTER SHHAjSMALL LETTER SHHAjCAPITAL LETTER ABKHASIAN CHE",
  "4BDjSMALL LETTER ABKHASIAN CHEjCAPITAL LETTER ABKHASIAN CHE WITH DESCENDER",
  "4BFjSMALL LETTER ABKHASIAN CHE WITH DESCENDERjLETTER PALOCHKAjCAPITAL LETTER ZHE WITH BREVE",
  "4C2jSMALL LETTER ZHE WITH BREVEjCAPITAL LETTER KA WITH HOOKjSMALL LETTER KA WITH HOOK",
  "4C5jCAPITAL LETTER EL WITH TAILjSMALL LETTER EL WITH TAILjCAPITAL LETTER EN WITH HOOK",
  "4C8jSMALL LETTER EN WITH HOOKjCAPITAL LETTER EN WITH TAILjSMALL LETTER EN WITH TAIL",
  "4CBjCAPITAL LETTER KHAKASSIAN CHEjSMALL LETTER KHAKASSIAN CHEjCAPITAL LETTER EM WITH TAIL",
  "4CEjSMALL LETTER EM WITH TAILwPALOCHKAjCAPITAL LETTER A WITH BREVEjSMALL LETTER A WITH BREVE",
  "4D2jCAPITAL LETTER A WITH DIAERESISjSMALL LETTER A WITH DIAERESISjCAPITAL LIGATURE A IE",
  "4D5jSMALL LIGATURE A IEjCAPITAL LETTER IE WITH BREVEjSMALL LETTER IE WITH BREVE",
  "4D8jCAPITAL LETTER SCHWAjSMALL LETTER SCHWAjCAPITAL LETTER SCHWA WITH DIAERESIS",
  "4DBjSMALL LETTER SCHWA WITH DIAERESISjCAPITAL LETTER ZHE WITH DIAERESIS",
  "4DDjSMALL LETTER ZHE WITH DIAERESISjCAPITAL LETTER ZE WITH DIAERESIS",
  "4DFjSMALL LETTER ZE WITH DIAERESISjCAPITAL LETTER ABKHASIAN DZEjSMALL LETTER ABKHASIAN DZE",
  "4E2jCAPITAL LETTER I WITH MACRONjSMALL LETTER I WITH MACRONjCAPITAL LETTER I WITH DIAERESIS",
  "4E5jSMALL LETTER I WITH DIAERESISjCAPITAL LETTER O WITH DIAERESIS",
  "4E7jSMALL LETTER O WITH DIAERESISjCAPITAL LETTER BARRED OjSMALL LETTER BARRED O",
  "4EAjCAPITAL LETTER BARRED O WITH DIAERESISjSMALL LETTER BARRED O WITH DIAERESIS",
  "4ECjCAPITAL LETTER E WITH DIAERESISjSMALL LETTER E WITH DIAERESISjCAPITAL LETTER U WITH MACRON",
  "4EFjSMALL LETTER U WITH MACRONjCAPITAL LETTER U WITH DIAERESISjSMALL LETTER U WITH DIAERESIS",
  "4F2jCAPITAL LETTER U WITH DOUBLE ACUTEjSMALL LETTER U WITH DOUBLE ACUTE",
  "4F4jCAPITAL LETTER CHE WITH DIAERESISjSMALL LETTER CHE WITH DIAERESIS",
  "4F6jCAPITAL LETTER GHE WITH DESCENDERjSMALL LETTER GHE WITH DESCENDER",
  "4F8jCAPITAL LETTER YERU WITH DIAERESISjSMALL LETTER YERU WITH DIAERESIS",
  "4FAjCAPITAL LETTER GHE WITH STROKE AND HOOKjSMALL LETTER GHE WITH STROKE AND HOOK",
  "4FCjCAPITAL LETTER HA WITH HOOKjSMALL LETTER HA WITH HOOKjCAPITAL LETTER HA WITH STROKE",
  "4FFjSMALL LETTER HA WITH STROKEjCAPITAL LETTER KOMI DEjSMALL LETTER KOMI DE",
  "502jCAPITAL LETTER KOMI DJEjSMALL LETTER KOMI DJEjCAPITAL LETTER KOMI ZJE",
  "505jSMALL LETTER KOMI ZJEjCAPITAL LETTER KOMI DZJEjSMALL LETTER KOMI DZJE",
  "508jCAPITAL LETTER KOMI LJEjSMALL LETTER KOMI LJEjCAPITAL LETTER KOMI NJE",
  "50BjSMALL LETTER KOMI NJEjCAPITAL LETTER KOMI SJEjSMALL LETTER KOMI SJE",
  "50EjCAPITAL LETTER KOMI TJEjSMALL LETTER KOMI TJEjCAPITAL LETTER REVERSED ZE",
  "511jSMALL LETTER REVERSED ZEjCAPITAL LETTER EL WITH HOOKjSMALL LETTER EL WITH HOOK",
  "514jCAPITAL LETTER LHAjSMALL LETTER LHAjCAPITAL LETTER RHAjSMALL LETTER RHAjCAPITAL LETTER YAE",
  "519jSMALL LETTER YAEjCAPITAL LETTER QAjSMALL LETTER QAjCAPITAL LETTER WEjSMALL LETTER WE",
  "51EjCAPITAL LETTER ALEUT KAjSMALL LETTER ALEUT KAjCAPITAL LETTER EL WITH MIDDLE HOOK",
  "521jSMALL LETTER EL WITH MIDDLE HOOKjCAPITAL LETTER EN WITH MIDDLE HOOK",
  "523jSMALL LETTER EN WITH MIDDLE HOOKjCAPITAL LETTER PE WITH DESCENDER",
  "525jSMALL LETTER PE WITH DESCENDERjCAPITAL LETTER SHHA WITH DESCENDER",
  "527jSMALL LETTER SHHA WITH DESCENDERjCAPITAL LETTER EN WITH LEFT HOOK",
  "529jSMALL LETTER EN WITH LEFT HOOKjCAPITAL LETTER DZZHEjSMALL LETTER DZZHEjCAPITAL LETTER DCHE",
  "52DjSMALL LETTER DCHEjCAPITAL LETTER EL WITH DESCENDERjSMALL LETTER EL WITH DESCENDER",
  "531aARMENIAN CAPITAL LETTER AYByBENyGIMyDAyECHyZAyEHzTyTOyZHEyINIyLIWNyXEHyCAyKENyHOyJAyGHAD",
  "543yCHEHyMENyYIyNOWySHAyVOyCHAyPEHyJHEHyRAySEHyVEWyTIWNyREHyCOyYIWNyPIWRyKEHyOHyFEH",
  "559jMODIFIER LETTER LEFT HALF RINGjAPOSTROPHEjEMPHASIS MARKkXCLAMATION MARKjCOMMA",
  "55EjQUESTION MARKjABBREVIATION MARKjSMALL LETTER TURNED AYBwAYBwBENwGIMwDAwECHwZAwEHxTwTOwZHE",
  "56BwINIwLIWNwXEHwCAwKENwHOwJAwGHADwCHEHwMENwYIwNOWwSHAwVOwCHAwPEHwJHEHwRAwSEHwVEWwTIWNwREHwCO",
  "582wYIWNwPIWRwKEHwOHwFEHqIGATURE ECH YIWNqETTER YI WITH STROKEjFULL STOPjHYPHEN",
  "58DaRIGHT-FACING ARMENIAN ETERNITY SIGNaLEFT-FACING ARMENIAN ETERNITY SIGNaARMENIAN DRAM SIGN",
  "591aHEBREW ACCENT ETNAHTAoSEGOLpHALSHELEToZAQEF QATANuGADOLoTIPEHAoREVIAoZARQAoPASHTAoYETIV",
  "59BoTEVIRoGERESHu MUQDAMrSHAYIMoQARNEY PARAoTELISHA GEDOLAoPAZERoATNAH HAFUKHoMUNAHpAHAPAKH",
  "5A5pERKHAu KEFULAoDARGAoQADMAoTELISHA QETANAoYERAH BEN YOMOoOLEoILUYoDEHIoZINOR",
  "5AFhMARK MASORA CIRCLEhPOINT SHEVAnHATAF SEGOLtPATAHtQAMATSoIRIQnTSEREnSEGOLnPATAHnQAMATS",
  "5B9nHOLAMs HASER FOR VAVnQUBUTSnDAGESH OR MAPIQnMETEGiUNCTUATION MAQAFiOINT RAFE",
  "5C0iUNCTUATION PASEQiOINT SHIN DOToIN DOTiUNCTUATION SOF PASUQhMARK UPPER DOTmLOWER DOT",
  "5C6hPUNCTUATION NUN HAFUKHAiOINT QAMATS QATAN",
  "5D0hLETTER ALEFoBEToGIMELoDALEToHEoVAVoZAYINoHEToTEToYODoFINAL KAFoKAFoLAMEDoFINAL MEMoMEM",
  "5DFoFINAL NUNoNUNoSAMEKHoAYINoFINAL PEoPEoFINAL TSADIoTSADIoQOFoRESHoSHINoTAV",
  "5EFhYOD TRIANGLEhLIGATURE YIDDISH DOUBLE VAVyVAV YODyDOUBLE YODhPUNCTUATION GERESHwSHAYIM",
  "600aARABIC NUMBER SIGNhSIGN SANAHhFOOTNOTE MARKERhSIGN SAFHAoMVAThNUMBER MARK ABOVE",
  "606g-INDIC CUBE ROOTnFOURTH ROOTg RAYg-INDIC PER MILLE SIGNrTEN THOUSAND SIGNbFGHANI SIGN",
  "60CbRABIC COMMAhDATE SEPARATORhPOETIC VERSE SIGNhSIGN MISRAmSALLALLAHOU ALAYHE WASSALLAM",
  "611mALAYHE ASSALLAMmRAHMATULLAH ALAYHEoDI ALLAHOU ANHUmTAKHALLUSiMALL HIGH TAH",
  "616sLIGATURE ALEF WITH LAM WITH YEHsZAINnFATHAnDAMMAnKASRAiEMICOLONhLETTER MARK",
  "61DhEND OF TEXT MARKhTRIPLE DOT PUNCTUATION MARKhQUESTION MARKhLETTER KASHMIRI YEHoHAMZA",
  "622oALEF WITH MADDA ABOVEyHAMZA ABOVEoWAW WITH HAMZA ABOVEoALEF WITH HAMZA BELOW",
  "626oYEH WITH HAMZA ABOVEoALEFoBEHoTEH MARBUTAqHpHEHoJEEMoHAHoKHAHoDALoTHALoREHoZAINoSEENpHEEN",
  "635pADoDADoTAHoZAHoAINoGHAINoKEHEH WITH TWO DOTS ABOVEzbHREE DOTS BELOW",
  "63DoFARSI YEH WITH INVERTED VzeTWO DOTS ABOVEzfHREE DOTS ABOVEhTATWEELhLETTER FEHoQAFoKAFoLAM",
  "645oMEEMoNOONoHEHoWAWoALEF MAKSURAoYEHhFATHATANhDAMMATANhKASRATANhFATHAhDAMMAhKASRAhSHADDA",
  "652iUKUNhMADDAH ABOVEhHAMZA ABOVEnBELOWhSUBSCRIPT ALEFhINVERTED DAMMAhMARK NOON GHUNNA",
  "659hZWARAKAYhVOWEL SIGN SMALL V ABOVEsINVERTED SMALL V ABOVEsDOT BELOWhREVERSED DAMMA",
  "65EhFATHA WITH TWO DOTShWAVY HAMZA BELOWg-INDIC DIGIT ZEROtONEtTWOuHREEtFOURuIVEtSIXuEVEN",
  "668tEIGHTtNINEg PERCENT SIGNhDECIMAL SEPARATORhTHOUSANDS SEPARATORhFIVE POINTED STAR",
  "66EhLETTER DOTLESS BEHwQAFoSUPERSCRIPT ALEFoALEF WASLAuITH WAVY HAMZA ABOVEzkBELOWoHIGH HAMZA",
  "675y ALEFzWAWoU WITH HAMZA ABOVEoHIGH HAMZA YEHoTTEHsEHoBEEHoTEH WITH RING",
  "67DxTHREE DOTS ABOVE DOWNWARDSoPEHoTEHEHoBEHEHoHAH WITH HAMZA ABOVExTWO DOTS VERTICAL ABOVE",
  "683oNYEHoDYEHoHAH WITH THREE DOTS ABOVEoTCHEHtEHoDDALpAL WITH RINGxDOT BELOWzh AND SMALL TAH",
  "68CqHALpDAHALpULpAL WITH THREE DOTS ABOVE DOWNWARDSxFOUR DOTS ABOVEoRREHpEH WITH SMALL VxRING",
  "694xDOT BELOWxSMALL V BELOWxDOT BELOW AND DOT ABOVExTWO DOTS ABOVEoJEH",
  "699oREH WITH FOUR DOTS ABOVEoSEEN WITH DOT BELOW AND DOT ABOVEyTHREE DOTS BELOW",
  "69Czp AND THREE DOTS ABOVEpAD WITH TWO DOTS BELOWyHREE DOTS ABOVEoTAH WITH THREE DOTS ABOVE",
  "6A0oAIN WITH THREE DOTS ABOVEoDOTLESS FEHoFEH WITH DOT MOVED BELOWzcBELOWoVEH",
  "6A5oFEH WITH THREE DOTS BELOWoPEHEHoQAF WITH DOT ABOVExTHREE DOTS ABOVEoKEHEHoSWASH KAF",
  "6ABoKAF WITH RINGxDOT ABOVEoNGoKAF WITH THREE DOTS BELOWoGAFr WITH RINGoNGOEH",
  "6B2oGAF WITH TWO DOTS BELOWpUEHpAF WITH THREE DOTS ABOVEoLAM WITH SMALL VxDOT ABOVE",
  "6B7xTHREE DOTS ABOVEzjBELOWoNOON WITH DOT BELOWtGHUNNAoRNOONoNOON WITH RINGyTHREE DOTS ABOVE",
  "6BEoHEH DOACHASHMEEoTCHEH WITH DOT ABOVEoHEH WITH YEH ABOVEsGOALw WITH HAMZA ABOVE",
  "6C3oTEH MARBUTA GOALoWAW WITH RINGoKIRGHIZ OEoOEoUoYUoKIRGHIZ YUoWAW WITH TWO DOTS ABOVEoVE",
  "6CCoFARSI YEHoYEH WITH TAILxSMALL VoWAW WITH DOT ABOVEoEoYEH WITH THREE DOTS BELOWsBARREE",
  "6D3y WITH HAMZA ABOVEhFULL STOPhLETTER AEhSMALL HIGH LIGATURE SAD WITH LAM WITH ALEF MAKSURA",
  "6D7zcQAF WITH LAM WITH ALEF MAKSURAsMEEM INITIAL FORMsLAM ALEFsJEEMsTHREE DOTSsSEEN",
  "6DDhEND OF AYAHhSTART OF RUB EL HIZBiMALL HIGH ROUNDED ZEROsUPRIGHT RECTANGULAR ZERO",
  "6E1sDOTLESS HEAD OF KHAHsMEEM ISOLATED FORMnLOW SEENnHIGH MADDAnWAWnYEHnHIGH YEHsNOON",
  "6E9hPLACE OF SAJDAHhEMPTY CENTRE LOW STOPuHIGH STOPhROUNDED HIGH STOP WITH FILLED CENTRE",
  "6EDhSMALL LOW MEEMhLETTER DAL WITH INVERTED VoREH WITH INVERTED V",
  "6F0aEXTENDED ARABIC-INDIC DIGIT ZEROzdONEzdTWOzeHREEzdFOURzeIVEzdSIXzeEVENzdEIGHTzdNINE",
  "6FAaARABIC LETTER SHEEN WITH DOT BELOWoDAD WITH DOT BELOWoGHAIN WITH DOT BELOW",
  "6FDhSIGN SINDHI AMPERSANDtPOSTPOSITION MENhLETTER HEH WITH INVERTED VaSYRIAC END OF PARAGRAPH",
  "701hSUPRALINEAR FULL STOPjBLINEAR FULL STOPjPRALINEAR COLONjBLINEAR COLONhHORIZONTAL COLON",
  "706hCOLON SKEWED LEFTuRIGHThSUPRALINEAR COLON SKEWED LEFTjBLINEAR COLON SKEWED RIGHT",
  "70AhCONTRACTIONhHARKLEAN OBELUSqMETOBELUSqASTERISCUS",
  "70FhABBREVIATION MARKhLETTER ALAPHoSUPERSCRIPT ALAPHoBETHoGAMALt GARSHUNIoDALATH",
  "716pOTLESS DALATH RISHoHEoWAWoZAINoHETHoTETHs GARSHUNIoYUDHs HEoKAPHoLAMADHoMIMoNUNoSEMKATH",
  "724oFINAL SEMKATHoEoPEoREVERSED PEoSADHEoQAPHoRISHoSHINoTAWoPERSIAN BHETHwGHAMALwDHALATH",
  "730hPTHAHA ABOVEoBELOWoDOTTEDhZQAPHA ABOVEoBELOWoDOTTEDhRBASA ABOVEnBELOW",
  "738hDOTTED ZLAMA HORIZONTALuANGULARhHBASA ABOVEnBELOWm-ESASA DOTTEDhESASA ABOVEnBELOWhRWAHA",
  "740hFEMININE DOThQUSHSHAYAhRUKKAKHAhTWO VERTICAL DOTS ABOVEzBELOWiHREE DOTS ABOVEsBELOW",
  "747hOBLIQUE LINE ABOVEuBELOWhMUSIChBARREKH",
  "74DhLETTER SOGDIAN ZHAINwKHAPHwFEaARABIC LETTER BEH WITH THREE DOTS HORIZONTALLY BELOW",
  "751xDOT BELOW AND THREE DOTS ABOVExTHREE DOTS POINTING UPWARDS BELOWzzg AND TWO DOTS ABOVE",
  "754yWO DOTS BELOW AND DOT ABOVExINVERTED SMALL V BELOWxSMALL VoHAH WITH TWO DOTS ABOVE",
  "758yHREE DOTS POINTING UPWARDS BELOWoDAL WITH TWO DOTS VERTICALLY BELOW AND SMALL TAH",
  "75AxINVERTED SMALL V BELOWoREH WITH STROKEoSEEN WITH FOUR DOTS ABOVEoAIN WITH TWO DOTS ABOVE",
  "75EyHREE DOTS POINTING DOWNWARDS ABOVEyWO DOTS VERTICALLY ABOVEoFEH WITH TWO DOTS BELOW",
  "761yHREE DOTS POINTING UPWARDS BELOWoKEHEH WITH DOT ABOVEzTHREE DOTS ABOVE",
  "764zlPOINTING UPWARDS BELOWoMEEM WITH DOT ABOVEzdBELOWoNOON WITH TWO DOTS BELOWySMALL TAHzfV",
  "76AoLAM WITH BARoREH WITH TWO DOTS VERTICALLY ABOVExHAMZA ABOVE",
  "76DoSEEN WITH TWO DOTS VERTICALLY ABOVEoHAH WITH SMALL ARABIC LETTER TAH BELOWzwAND TWO DOTS",
  "770oSEEN WITH SMALL ARABIC LETTER TAH AND TWO DOTS",
  "771oREH WITH SMALL ARABIC LETTER TAH AND TWO DOTSoHAH WITH SMALL ARABIC LETTER TAH ABOVE",
  "773oALEF WITH EXTENDED ARABIC-INDIC DIGIT TWO ABOVEzzdHREE ABOVE",
  "775oFARSI YEH WITH EXTENDED ARABIC-INDIC DIGIT TWO ABOVEzziHREE ABOVEzzhFOUR BELOW",
  "778oWAW WITH EXTENDED ARABIC-INDIC DIGIT TWO ABOVEzzcHREE ABOVE",
  "77AoYEH BARREE WITH EXTENDED ARABIC-INDIC DIGIT TWO ABOVEzzjHREE ABOVE",
  "77CoHAH WITH EXTENDED ARABIC-INDIC DIGIT FOUR BELOW",
  "77DoSEEN WITH EXTENDED ARABIC-INDIC DIGIT FOUR ABOVEyINVERTED VoKAF WITH TWO DOTS ABOVE",
  "780aTHAANA LETTER HAAoSHAVIYANIoNOONUoRAAoBAAoLHAVIYANIoKAAFUoALIFUoVAAVUoMEEMUoFAAFUoDHAALU",
  "78CoTHAAoLAAMUoGAAFUpNAVIYANIoSEENUoDAVIYANIoZAVIYANIoTAVIYANIoYAAoPAVIYANIoJAVIYANIoCHAVIYANI",
  "798oTTAAoHHAAoKHAAoTHAALUoZAAoSHEENUpAADHUoDAADHUoTOoZOoAINUoGHAINUoQAAFUoWAAVUhABAFILI",
  "7A7iABAAFILIhIBIFILIhEEBEEFILIhUBUFILIhOOBOOFILIhEBEFILIiYBEYFILIhOBOFILIiABOAFILIhSUKUN",
  "7B1hLETTER NAA",
  "7C0aNKO DIGIT ZEROkONEkTWOlHREEkFOURlIVEkSIXlEVENkEIGHTkNINEeLETTER AlEElIlElUlOOlOlDAGBASINNA",
  "7D2lNlBAlPAlTAlJAlCHAlDAlRAmRAlSAlGBAlFAlKAlLAlNA WOLOSOlMAlNYAmAlHAlWAlYAlNYA WOLOSOlJONA JA",
  "7E9qCHAqRAeCOMBINING SHORT HIGH TONEuLOW TONEuRISING TONEoLONG DESCENDING TONEtHIGH TONE",
  "7F0tLOW TONEtRISING TONEoNASALIZATION MARKoDOUBLE DOT ABOVEeHIGH TONE APOSTROPHE",
  "7F5eLOW TONE APOSTROPHEeSYMBOL OO DENNENlGBAKURUNENeCOMMAeEXCLAMATION MARKeLAJANYALAN",
  "7FDeDANTAYALANfOROME SIGNeTAMAN SIGNaSAMARITAN LETTER ALAFrBITrGAMANrDALATrIYrBAArZENrITrTIT",
  "809rYUTrKAAFrLABATrMIMrNUNrSINGAATrINrFIrTSAADIYrQUFrRISHrSHANrTAAFkMARK INr-ALAFpOCCLUSION",
  "819pDAGESHlODIFIER LETTER EPENTHETIC YUTlARK EPENTHETIC YUTkVOWEL SIGN LONG EvEvOVERLONG AA",
  "81FvLONG AAvAAvOVERLONG AvLONG AvAkMODIFIER LETTER SHORT AkVOWEL SIGN SHORT AvLONG UvU",
  "828kMODIFIER LETTER IkVOWEL SIGN LONG IvIvOvSUKUNkMARK NEQUDAA",
  "830kPUNCTUATION NEQUDAAwAFSAAQxNGEDwBAUwATMAAUwSHIYYAALAAkABBREVIATION MARK",
  "837kPUNCTUATION MELODIC QITSAwZIQAAwQITSAwZAEFwTURUwARKAANUwSOF MASHFAATwANNAAU",
  "840aMANDAIC LETTER HALQApABqGqDqHpUSHENNApAZpITpATTqKSAqKqLqMqNqSpINpAPqSZqQqRqSHqTpDUSHENNA",
  "857pKADpAINiAFFRICATION MARKiVOCALIZATION MARKiGEMINATION MARK",
  "85EiPUNCTUATION",
  "860aSYRIAC LETTER MALAYALAM NGAyJAyNYAyTTAyNNAzbNAyBHAyRAyLLAzbLAySSA",
  "870aARABIC LETTER ALEF WITH ATTACHED FATHAziTOP RIGHT FATHAyRIGHT MIDDLE STROKE",
  "873yLEFT MIDDLE STROKEyATTACHED KASRAziBOTTOM RIGHT KASRAziROUND DOT ABOVEzjIGHT ROUND DOT",
  "878ziLEFT ROUND DOTziROUND DOT BELOWyDOT ABOVEyATTACHED TOP RIGHT FATHA AND DOT ABOVE",
  "87CyRIGHT MIDDLE STROKE AND DOT ABOVEyATTACHED BOTTOM RIGHT KASRA AND DOT ABOVE",
  "87EziTOP RIGHT FATHA AND LEFT RINGyRIGHT MIDDLE STROKE AND LEFT RING",
  "880yATTACHED BOTTOM RIGHT KASRA AND LEFT RINGziRIGHT HAMZAziLEFT HAMZA",
  "883hTATWEEL WITH OVERSTRUCK HAMZAzgWAWuTWO DOTS BELOWhLETTER THIN YEHhBASELINE ROUND DOT",
  "888hRAISED ROUND DOThLETTER NOON WITH INVERTED SMALL VoHAH WITH INVERTED SMALL V BELOW",
  "88BoTAH WITH DOT BELOWxTHREE DOTS BELOWoKEHEH WITH TWO DOTS VERTICALLY BELOWhVERTICAL TAIL",
  "890hPOUND MARK ABOVEiIASTRE MARK ABOVE",
  "898hSMALL HIGH WORD AL-JUZnLOW WORD ISHMAAMxMAALAwTASHEELhMADDA WAAJIB",
  "89DhSUPERSCRIPT ALEF MOKHASSAShDOUBLED MADDAhHALF MADDA OVER MADDA",
  "8A0hLETTER BEH WITH SMALL V BELOWxHAMZA ABOVEoJEEM WITH TWO DOTS ABOVEoTAH WITH TWO DOTS ABOVE",
  "8A4oFEH WITH DOT BELOW AND THREE DOTS ABOVEoQAF WITH DOT BELOWoLAM WITH DOUBLE BAR",
  "8A7oMEEM WITH THREE DOTS ABOVEoYEH WITH TWO DOTS BELOW AND HAMZA ABOVEzrDOT ABOVE",
  "8AAoREH WITH LOOPoWAW WITH DOT WITHINoROHINGYA YEHoLOW ALEFoDAL WITH THREE DOTS BELOW",
  "8AFoSAD WITH THREE DOTS BELOWoGAF WITH INVERTED STROKEoSTRAIGHT WAWoZAIN WITH INVERTED V ABOVE",
  "8B3oAIN WITH THREE DOTS BELOWoKAF WITH DOT BELOWoQAF WITH DOT BELOW AND NO DOTS ABOVE",
  "8B6oBEH WITH SMALL MEEM ABOVEoPEH WITH SMALL MEEM ABOVEoTEH WITH SMALL TEH ABOVE",
  "8B9oREH WITH SMALL NOON ABOVEoYEH WITH TWO DOTS BELOW AND SMALL NOON ABOVEoAFRICAN FEHwQAF",
  "8BDwNOONoPEH WITH SMALL VoTEH WITH SMALL VpTEH WITH SMALL VpCHEH WITH SMALL V",
  "8C2oKEHEH WITH SMALL VoGHAIN WITH THREE DOTS ABOVEoAFRICAN QAF WITH THREE DOTS ABOVE",
  "8C5oJEEM WITH THREE DOTS ABOVEzkBELOWoLAM WITH SMALL ARABIC LETTER TAH ABOVEoGRAF",
  "8C9hSMALL FARSI YEHnHIGH FARSI YEHsYEH BARREE WITH TWO DOTS BELOWsWORD SAHsZAH",
  "8CEhLARGE ROUND DOT ABOVExBELOWhSUKUN BELOWhLARGE CIRCLE BELOWnROUND DOT INSIDE CIRCLE BELOW",
  "8D3hSMALL LOW WAWnHIGH WORD AR-RUBsSADsAINsQAFsNOON WITH KASRAnLOW NOON WITH KASRA",
  "8DAnHIGH WORD ATH-THALATHAyS-SAJDAyN-NISFxSAKTAxQIFxWAQFAsFOOTNOTE MARKERsSIGN SAFHA",
  "8E2hDISPUTED END OF AYAHhTURNED DAMMA BELOWhCURLY FATHAnDAMMAnKASRAnFATHATANnDAMMATANnKASRATAN",
  "8EAhTONE ONE DOT ABOVEmTWO DOTS ABOVEmLOOP ABOVEmONE DOT BELOWmTWO DOTS BELOWmLOOP BELOW",
  "8F0hOPEN FATHATANmDAMMATANmKASRATANhSMALL HIGH WAWhFATHA WITH RINGsDOT ABOVE",
  "8F6hKASRA WITH DOT BELOWhLEFT ARROWHEAD ABOVEhRIGHT ARROWHEAD ABOVEhLEFT ARROWHEAD BELOW",
  "8FAhRIGHT ARROWHEAD BELOWhDOUBLE RIGHT ARROWHEAD ABOVEzk WITH DOT",
  "8FDhRIGHT ARROWHEAD ABOVE WITH DOThDAMMA WITH DOThMARK SIDEWAYS NOON GHUNNA",
  "900aDEVANAGARI SIGN INVERTED CANDRABINDUqCANDRABINDUqANUSVARAqVISARGAlLETTER SHORT AsAtAsItIsU",
  "90AtUsVOCALIC RzbLsCANDRA EsSHORT EsEsAIsCANDRA OsSHORT OsOsAUsKAtHAsGAtHAsNGAsCAtHAsJAtHAsNYA",
  "91FsTTAuHAsDDAuHAsNNAsTAtHAsDAtHAsNAtNNAsPAtHAsBAtHAsMAsYAsRAtRAsLAtLAuLAsVAsSHAtSAtAsHA",
  "93AlVOWEL SIGN OExOElSIGN NUKTAqAVAGRAHAlVOWEL SIGN AAwIxIwUxUwVOCALIC RzgRwCANDRA EwSHORT EwE",
  "948wAIwCANDRA OwSHORT OwOwAUlSIGN VIRAMAlVOWEL SIGN PRISHTHAMATRA EwAWlOMlSTRESS SIGN UDATTA",
  "952xANUDATTAlGRAVE ACCENTlACUTE ACCENTlVOWEL SIGN CANDRA LONG EwUExUElLETTER QAsKHHAsGHHAsZA",
  "95CsDDDHAsRHAsFAsYYAsVOCALIC RRzbLLlVOWEL SIGN VOCALIC LzgLlDANDAmOUBLE DANDAmIGIT ZEROrONE",
  "968rTWOsHREErFOURsIVErSIXsEVENrEIGHTrNINElABBREVIATION SIGNlSIGN HIGH SPACING DOT",
  "972lLETTER CANDRA AsOEtOEsAWsUEtUEsMARWARI DDAsZHAsHEAVY YAsGGAsJJAsGLOTTAL STOPsDDDAsBBA",
  "980aBENGALI ANJIiSIGN CANDRABINDUnANUSVARAnVISARGA",
  "985iLETTER AqApIqIpUqUpVOCALIC RxL",
  "98FpEpAI",
  "993pOpAUpKAqHApGAqHApNGApCAqHApJAqHApNYApTTArHApDDArHApNNApTAqHApDAqHApNA",
  "9AApPAqHApBAqHApMApYApRA",
  "9B2pLA",
  "9B6pSHAqSAqApHA",
  "9BCiSIGN NUKTAnAVAGRAHAiVOWEL SIGN AAtIuItUuUtVOCALIC RzdR",
  "9C7tEtAI",
  "9CBtOtAUiSIGN VIRAMAiLETTER KHANDA TA",
  "9D7iAU LENGTH MARK",
  "9DCiLETTER RRAqHA",
  "9DFpYYApVOCALIC RRxLLiVOWEL SIGN VOCALIC LzdL",
  "9E6iDIGIT ZEROoONEoTWOpHREEoFOURpIVEoSIXpEVENoEIGHToNINEiLETTER RA WITH MIDDLE DIAGONAL",
  "9F1xLOWER DIAGONALiRUPEE MARKoSIGNiCURRENCY NUMERATOR ONEzcTWOzdHREEzcFOUR",
  "9F8zcONE LESS THAN THE DENOMINATORrDENOMINATOR SIXTEENiISSHARiGANDA MARKiLETTER VEDIC ANUSVARA",
  "9FDiABBREVIATION SIGNiSANDHI MARK",
  "A01aGURMUKHI SIGN ADAK BINDIoBINDIoVISARGA",
  "A05jLETTER ArAqIrIqUrU",
  "A0FqEEqAI",
  "A13qOOqAUqKArHAqGArHAqNGAqCArHAqJArHAqNYAqTTAsHAqDDAsHAqNNAqTArHAqDArHAqNA",
  "A2AqPArHAqBArHAqMAqYAqRA",
  "A32qLArLA",
  "A35qVAqSHA",
  "A38rAqHA",
  "A3CjSIGN NUKTA",
  "A3EjVOWEL SIGN AAuIvIuUvU",
  "A47uEEuAI",
  "A4BuOOuAUjSIGN VIRAMA",
  "A51oUDAAT",
  "A59jLETTER KHHAqGHHAqZAqRRA",
  "A5EqFA",
  "A66jDIGIT ZEROpONEpTWOqHREEpFOURqIVEpSIXqEVENpEIGHTpNINEjTIPPIjADDAKjIRIjURAjEK ONKAR",
  "A75jSIGN YAKASHjABBREVIATION SIGN",
  "A81cJARATI SIGN CANDRABINDUoANUSVARAoVISARGA",
  "A85jLETTER ArAqIrIqUrUqVOCALIC RyLjVOWEL CANDRA E",
  "A8FjLETTER EqAIjVOWEL CANDRA O",
  "A93jLETTER OqAUqKArHAqGArHAqNGAqCArHAqJArHAqNYAqTTAsHAqDDAsHAqNNAqTArHAqDArHAqNA",
  "AAAqPArHAqBArHAqMAqYAqRA",
  "AB2qLArLA",
  "AB5qVAqSHArSArAqHA",
  "ABCjSIGN NUKTAoAVAGRAHAjVOWEL SIGN AAuIvIuUvUuVOCALIC RzeRuCANDRA E",
  "AC7uEuAIuCANDRA O",
  "ACBuOuAUjSIGN VIRAMA",
  "AD0jOM",
  "AE0jLETTER VOCALIC RRyLLjVOWEL SIGN VOCALIC LzeL",
  "AE6jDIGIT ZEROpONEpTWOqHREEpFOURqIVEpSIXqEVENpEIGHTpNINEjABBREVIATION SIGNjRUPEE SIGN",
  "AF9jLETTER ZHAjSIGN SUKUNpHADDAoMADDAHoTHREE-DOT NUKTA ABOVEoCIRCLE NUKTA ABOVE",
  "AFFoTWO-CIRCLE NUKTA ABOVE",
  "B01aORIYA SIGN CANDRABINDUlANUSVARAlVISARGA",
  "B05gLETTER AoAnIoInUoUnVOCALIC RvL",
  "B0FnEnAI",
  "B13nOnAUnKAoHAnGAoHAnNGAnCAoHAnJAoHAnNYAnTTApHAnDDApHAnNNAnTAoHAnDAoHAnNA",
  "B2AnPAoHAnBAoHAnMAnYAnRA",
  "B32nLAoLA",
  "B35nVAnSHAoSAoAnHA",
  "B3CgSIGN NUKTAlAVAGRAHAgVOWEL SIGN AArIsIrUsUrVOCALIC RzbR",
  "B47rErAI",
  "B4BrOrAUgSIGN VIRAMA",
  "B55lOVERLINEgAI LENGTH MARKhU LENGTH MARK",
  "B5CgLETTER RRAoHA",
  "B5FnYYAnVOCALIC RRvLLgVOWEL SIGN VOCALIC LzbL",
  "B66gDIGIT ZEROmONEmTWOnHREEmFOURnIVEmSIXnEVENmEIGHTmNINEgISSHARgLETTER WAgFRACTION ONE QUARTER",
  "B73tHALFpTHREE QUARTERSpONE SIXTEENTHtEIGHTHpTHREE SIXTEENTHS",
  "B82aTAMIL SIGN ANUSVARAlVISARGA",
  "B85gLETTER AoAnIoInUoU",
  "B8EnEoEnAI",
  "B92nOoOnAUnKA",
  "B99nNGAnCA",
  "B9CnJA",
  "B9EnNYAnTTA",
  "BA3nNNAnTA",
  "BA8nNAoNNAnPA",
  "BAEnMAnYAnRAoRAnLAoLApLAnVAnSHAoSAoAnHA",
  "BBEgVOWEL SIGN AArIsIrUsU",
  "BC6rEsErAI",
  "BCArOsOrAUgSIGN VIRAMA",
  "BD0gOM",
  "BD7gAU LENGTH MARK",
  "BE6gDIGIT ZEROmONEmTWOnHREEmFOURnIVEmSIXnEVENmEIGHTmNINEgNUMBER TENnONE HUNDREDrTHOUSAND",
  "BF3gDAY SIGNgMONTH SIGNgYEAR SIGNgDEBIT SIGNgCREDIT SIGNgAS ABOVE SIGNgRUPEE SIGNgNUMBER SIGN",
  "C00bELUGU SIGN COMBINING CANDRABINDU ABOVEnANDRABINDUmANUSVARAmVISARGA",
  "C04mCOMBINING ANUSVARA ABOVEhLETTER ApAoIpIoUpUoVOCALIC RwL",
  "C0EoEpEoAI",
  "C12oOpOoAUoKApHAoGApHAoNGAoCApHAoJApHAoNYAoTTAqHAoDDAqHAoNNAoTApHAoDApHAoNA",
  "C2AoPApHAoBApHAoMAoYAoRApRAoLApLAqLAoVAoSHApSApAoHA",
  "C3ChSIGN NUKTAmAVAGRAHAhVOWEL SIGN AAsItIsUtUsVOCALIC RzcR",
  "C46sEtEsAI",
  "C4AsOtOsAUhSIGN VIRAMA",
  "C55hLENGTH MARKhAI LENGTH MARK",
  "C58hLETTER TSAoDZAoRRRA",
  "C5DoNAKAARA POLLU",
  "C60oVOCALIC RRwLLhVOWEL SIGN VOCALIC LzcL",
  "C66hDIGIT ZEROnONEnTWOoHREEnFOURoIVEnSIXoEVENnEIGHTnNINE",
  "C77hSIGN SIDDHAMhFRACTION DIGIT ZERO FOR ODD POWERS OF FOURwONE FOR ODD POWERS OF FOUR",
  "C7AwTWO FOR ODD POWERS OF FOURxHREE FOR ODD POWERS OF FOURwONE FOR EVEN POWERS OF FOUR",
  "C7DwTWO FOR EVEN POWERS OF FOURxHREE FOR EVEN POWERS OF FOURhSIGN TUUMU",
  "C80aKANNADA SIGN SPACING CANDRABINDUnCANDRABINDUnANUSVARAnVISARGAnSIDDHAMiLETTER AqApIqIpUqU",
  "C8BpVOCALIC RxL",
  "C8EpEqEpAI",
  "C92pOqOpAUpKAqHApGAqHApNGApCAqHApJAqHApNYApTTArHApDDArHApNNApTAqHApDAqHApNA",
  "CAApPAqHApBAqHApMApYApRAqRApLAqLA",
  "CB5pVApSHAqSAqApHA",
  "CBCiSIGN NUKTAnAVAGRAHAiVOWEL SIGN AAtIuItUuUtVOCALIC RzdR",
  "CC6tEuEtAI",
  "CCAtOuOtAUiSIGN VIRAMA",
  "CD5iLENGTH MARKiAI LENGTH MARK",
  "CDDiLETTER NAKAARA POLLUpFA",
  "CE0pVOCALIC RRxLLiVOWEL SIGN VOCALIC LzdL",
  "CE6iDIGIT ZEROoONEoTWOpHREEoFOURpIVEoSIXpEVENoEIGHToNINE",
  "CF1iSIGN JIHVAMULIYAnUPADHMANIYA",
  "D00aMALAYALAM SIGN COMBINING ANUSVARA ABOVEqANDRABINDUpANUSVARApVISARGAkLETTER VEDIC ANUSVARA",
  "D05rAsArIsIrUsUrVOCALIC RzL",
  "D0ErEsErAI",
  "D12rOsOrAUrKAsHArGAsHArNGArCAsHArJAsHArNYArTTAtHArDDAtHArNNArTAsHArDAsHArNAsNNArPAsHArBAsHArMA",
  "D2FrYArRAsRArLAsLAtLArVArSHAsSAsArHArTTTAkSIGN VERTICAL BAR VIRAMApCIRCULAR VIRAMApAVAGRAHA",
  "D3EkVOWEL SIGN AAvIwIvUwUvVOCALIC RzfR",
  "D46vEwEvAI",
  "D4AvOwOvAUkSIGN VIRAMAkLETTER DOT REPHkSIGN PARA",
  "D54kLETTER CHILLU MyYyLLLkAU LENGTH MARKkFRACTION ONE ONE-HUNDRED-AND-SIXTIETHxFORTIETH",
  "D5AtTHREE EIGHTIETHStONE TWENTIETHyENTHtTHREE TWENTIETHStONE FIFTHkLETTER ARCHAIC II",
  "D60rVOCALIC RRzLLkVOWEL SIGN VOCALIC LzfL",
  "D66kDIGIT ZEROqONEqTWOrHREEqFOURrIVEqSIXrEVENqEIGHTqNINEkNUMBER TENrONE HUNDREDvTHOUSAND",
  "D73kFRACTION ONE QUARTERxHALFtTHREE QUARTERStONE SIXTEENTHxEIGHTHtTHREE SIXTEENTHSkDATE MARK",
  "D7AkLETTER CHILLU NNyNyRRyLzLyK",
  "D81aSINHALA SIGN CANDRABINDUnANUSVARAYAnVISARGAYA",
  "D85iLETTER AYANNAqAYANNAqEYANNArEYANNApIYANNAqIYANNApUYANNAqUYANNApIRUYANNAsUYANNAqLUYANNA",
  "D90sUYANNApEYANNAqEYANNApAIYANNApOYANNAqOYANNApAUYANNA",
  "D9AqLPAPRAANA KAYANNApMAHAAPRAANA KAYANNApALPAPRAANA GAYANNApMAHAAPRAANA GAYANNA",
  "D9EpKANTAJA NAASIKYAYApSANYAKA GAYANNApALPAPRAANA CAYANNApMAHAAPRAANA CAYANNA",
  "DA2pALPAPRAANA JAYANNApMAHAAPRAANA JAYANNApTAALUJA NAASIKYAYAxSANYOOGA NAAKSIKYAYA",
  "DA6pSANYAKA JAYANNApALPAPRAANA TTAYANNApMAHAAPRAANA TTAYANNApALPAPRAANA DDAYANNA",
  "DAApMAHAAPRAANA DDAYANNAqUURDHAJA NAYANNApSANYAKA DDAYANNApALPAPRAANA TAYANNA",
  "DAEpMAHAAPRAANA TAYANNApALPAPRAANA DAYANNApMAHAAPRAANA DAYANNApDANTAJA NAYANNA",
  "DB3pSANYAKA DAYANNApALPAPRAANA PAYANNApMAHAAPRAANA PAYANNApALPAPRAANA BAYANNA",
  "DB7pMAHAAPRAANA BAYANNArYANNApAMBA BAYANNApYAYANNApRAYANNA",
  "DBDpDANTAJA LAYANNA",
  "DC0pVAYANNApTAALUJA SAYANNApMUURDHAJA SAYANNApDANTAJA SAYANNApHAYANNApMUURDHAJA LAYANNA",
  "DC6pFAYANNA",
  "DCAiSIGN AL-LAKUNA",
  "DCFiVOWEL SIGN AELA-PILLAtKETTI AEDA-PILLAtDIGA AEDA-PILLAtKETTI IS-PILLAtDIGA IS-PILLA",
  "DD4tKETTI PAA-PILLA",
  "DD6tDIGA PAA-PILLA",
  "DD8tGAETTA-PILLAtKOMBUVAtDIGA KOMBUVAtKOMBU DEKAyVA HAA AELA-PILLAzgDIGA AELA-PILLA",
  "DDEzgGAYANUKITTAtGAYANUKITTA",
  "DE6iLITH DIGIT ZEROtONEtTWOuHREEtFOURuIVEtSIXuEVENtEIGHTtNINE",
  "DF2iVOWEL SIGN DIGA GAETTA-PILLAzbYANUKITTAiPUNCTUATION KUNDDALIYA",
  "E01aTHAI CHARACTER KO KAIqHO KHAIvUATvWAIvONtRAKHANGpNGO NGUpCHO CHANvINGvANGpSO SOpCHO CHOE",
  "E0DpYO YINGpDO CHADApTO PATAKqHO THANtNANGMONTHOtPHUTHAOpNO NENpDO DEKpTO TAOqHO THUNGvAHAN",
  "E18vONGpNO NUpBO BAIMAIpPO PLAqHO PHUNGpFO FApPHO PHANpFO FANpPHO SAMPHAOpMO MApYO YAKpRO RUA",
  "E24qUpLO LINGqUpWO WAENpSO SALAsRUSIsSUApHO HIPpLO CHULApO ANGpHO NOKHUKpPAIYANNOIpSARA A",
  "E31pMAI HAN-AKATpSARA AAvMuIvIuUEwEuUvUpPHINTHU",
  "E3FgURRENCY SYMBOL BAHTgHARACTER SARA EuAEuOuAI MAIMUANzcALAIpLAKKHANGYAOpMAIYAMOKsTAIKHUs EK",
  "E49tTHOuRItCHATTAWApTHANTHAKHATpNIKHAHITpYAMAKKANpFONGMANfDIGIT ZEROlONElTWOmHREElFOURmIVElSIX",
  "E57mEVENlEIGHTlNINEfCHARACTER ANGKHANKHUpKHOMUT",
  "E81aLAO LETTER KOmHO SUNG",
  "E84pTAM",
  "E86lPALI GHAlNGOlCOlPALI CHAlSO TAM",
  "E8ClPALI JHAlNYOlPALI NYAqTTAsHAqDDAsHAqNNAlDOlTOmHO SUNGpTAMlPALI DHAlNOlBOlPOmHO SUNGlFO TAM",
  "E9ElPHO TAMlFO SUNGlPALI BHAlMOlYOlLO LING",
  "EA5pOOT",
  "EA7lWOlSANSKRIT SHAvSAmO SUNGlHO SUNGlPALI LLAlOlHO TAMeELLIPSISeVOWEL SIGN ApMAI KANpAAqMpIqI",
  "EB6pYqYpUqUeSIGN PALI VIRAMAeVOWEL SIGN MAI KONeSEMIVOWEL SIGN LOtNYO",
  "EC0eVOWEL SIGN EqIpOpAYqI",
  "EC6eKO LA",
  "EC8eTONE MAI EKnTHOoInCATAWAeCANCELLATION MARKeNIGGAHITA",
  "ED0eDIGIT ZEROkONEkTWOlHREEkFOURlIVEkSIXlEVENkEIGHTkNINE",
  "EDCeHO NOhMOeLETTER KHMU GOqNYO",
  "F00aTIBETAN SYLLABLE OMiMARK GTER YIG MGO TRUNCATED Azb-UM RNAM BCAD MAzfGTER TSHEG MA",
  "F04nINITIAL YIG MGO MDUN MAnCLOSING YIG MGO SGAB MAoARET YIG MGO PHUR SHAD MA",
  "F07nYIG MGO TSHEG SHAD MAnSBRUL SHADnBSKUR YIG MGOoKA- SHOG YIG MGOnINTERSYLLABIC TSHEG",
  "F0CnDELIMITER TSHEG BSTARnSHADnNYIS SHADnTSHEG SHADnNYIS TSHEG SHADnRIN CHEN SPUNGS SHAD",
  "F12oGYA GRAM SHADnCARET -DZUD RTAGS ME LONG CANnGTER TSHEGiLOGOTYPE SIGN CHAD RTAGSwLHAG RTAGS",
  "F17iASTROLOGICAL SIGN SGRA GCAN -CHAR RTAGSzb-KHYUD PAzbSDONG TSHUGSiSIGN RDEL DKAR GCIGyNYIS",
  "F1CySUMsNAG GCIGxNYISsDKAR RDEL NAGiDIGIT ZEROoONEoTWOpHREEoFOURpIVEoSIXpEVENoEIGHToNINE",
  "F2AoHALF ONEtTWOuHREEtFOURuIVEtSIXuEVENtEIGHTtNINEtZEROiMARK BSDUS RTAGSnNGAS BZUNG NYI ZLA",
  "F36nCARET -DZUD RTAGS BZHI MIG CANnNGAS BZUNG SGOR RTAGSnCHE MGOnTSA -PHRUnGUG RTAGS GYONzAS",
  "F3CnANG KHANG GYONzASiSIGN YAR TSHESnMAR TSHESiLETTER KAqHApGAqHApNGApCAqHApJA",
  "F49pNYApTTArHApDDArHApNNApTAqHApDAqHApNApPAqHApBAqHApMApTSArHApDZArHApWApZHAqAp-ApYApRApLApSHA",
  "F65qSAqApHApApKSSApFIXED-FORM RApKKApRRA",
  "F71iVOWEL SIGN AAtIuItUuUtVOCALIC RzdRzcLzdLtEuEtOuOiSIGN RJES SU NGA ROoNAM BCAD",
  "F80iVOWEL SIGN REVERSED IzeIiSIGN NYI ZLA NAA DAnSNA LDANiMARK HALANTAnPALUTAiSIGN LCI RTAGS",
  "F87nYANG RTAGSnLCE TSA CANnMCHU CANnGRU CAN RGYINGSrMED RGYINGSnINVERTED MCHU CAN",
  "F8DjUBJOINED SIGN LCE TSA CANxMCHU CANxINVERTED MCHU CANsLETTER KAzbHAzGAzbHAzNGAzCAzbHAzJA",
  "F99zNYAzTTAzcHAzDDAzcHAzNNAzTAzbHAzDAzbHAzNAzPAzbHAzBAzbHAzMAzTSAzcHAzDZAzcHAzWAzZHAzbAz-AzYA",
  "FB2zRAzLAzSHAzbSAzbAzHAzAzKSSAzFIXED-FORM WAzlYAzlRA",
  "FBEiKU RU KHAr BZHI MIG CANiCANTILLATION SIGN HEAVY BEATzbLIGHT BEATzbCANG TE-UzbSBUB -CHAL",
  "FC4iSYMBOL DRIL BUpRDO RJEpPADMA GDANpRDO RJE RGYA GRAMpPHUR PApNOR BUv NYIS -KHYIL",
  "FCBwGSUM -KHYILwBZHI -KHYIL",
  "FCEjIGN RDEL NAG RDEL DKARwGSUMiMARK BSKA- SHOG GI MGO RGYANnMNYAM YIG GI MGO RGYANnNYIS TSHEG",
  "FD3nINITIAL BRDA RNYING YIG MGO MDUN MAnCLOSING BRDA RNYING YIG MGO SGAB MA",
  "FD5aRIGHT-FACING SVASTI SIGNaLEFT-FACING SVASTI SIGNaRIGHT-FACING SVASTI SIGN WITH DOTS",
  "FD8aLEFT-FACING SVASTI SIGN WITH DOTSaTIBETAN MARK LEADING MCHAN RTAGSnTRAILING MCHAN RTAGS"]

end ModuleBridge.Text
