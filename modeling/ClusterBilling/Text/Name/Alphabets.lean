import ClusterBilling.Text.Name.Table

/-! Names of characters below U+2000: the scripts in use. -/
namespace ClusterBilling.Text.NameTable

def alphabets : NameTable where
  rows := [
    (0x20, 95), (0xa0, 728), (0x37a, 6), (0x384, 7), (0x38c, 1), (0x38e, 20), (0x3a3, 397),
    (0x531, 38), (0x559, 50), (0x58d, 3), (0x591, 55), (0x5d0, 27), (0x5ef, 6), (0x600, 270),
    (0x70f, 60), (0x74d, 101), (0x7c0, 59), (0x7fd, 49), (0x830, 15), (0x840, 28), (0x85e, 1),
    (0x860, 11), (0x870, 31), (0x890, 2), (0x898, 236), (0x985, 8), (0x98f, 2), (0x993, 22),
    (0x9aa, 7), (0x9b2, 1), (0x9b6, 4), (0x9bc, 9), (0x9c7, 2), (0x9cb, 4), (0x9d7, 1), (0x9dc, 2),
    (0x9df, 5), (0x9e6, 25), (0xa01, 3), (0xa05, 6), (0xa0f, 2), (0xa13, 22), (0xa2a, 7),
    (0xa32, 2), (0xa35, 2), (0xa38, 2), (0xa3c, 1), (0xa3e, 5), (0xa47, 2), (0xa4b, 3), (0xa51, 1),
    (0xa59, 4), (0xa5e, 1), (0xa66, 17), (0xa81, 3), (0xa85, 9), (0xa8f, 3), (0xa93, 22),
    (0xaaa, 7), (0xab2, 2), (0xab5, 5), (0xabc, 10), (0xac7, 3), (0xacb, 3), (0xad0, 1), (0xae0, 4),
    (0xae6, 12), (0xaf9, 7), (0xb01, 3), (0xb05, 8), (0xb0f, 2), (0xb13, 22), (0xb2a, 7),
    (0xb32, 2), (0xb35, 5), (0xb3c, 9), (0xb47, 2), (0xb4b, 3), (0xb55, 3), (0xb5c, 2), (0xb5f, 5),
    (0xb66, 18), (0xb82, 2), (0xb85, 6), (0xb8e, 3), (0xb92, 4), (0xb99, 2), (0xb9c, 1), (0xb9e, 2),
    (0xba3, 2), (0xba8, 3), (0xbae, 12), (0xbbe, 5), (0xbc6, 3), (0xbca, 4), (0xbd0, 1), (0xbd7, 1),
    (0xbe6, 21), (0xc00, 13), (0xc0e, 3), (0xc12, 23), (0xc2a, 16), (0xc3c, 9), (0xc46, 3),
    (0xc4a, 4), (0xc55, 2), (0xc58, 3), (0xc5d, 1), (0xc60, 4), (0xc66, 10), (0xc77, 22),
    (0xc8e, 3), (0xc92, 23), (0xcaa, 10), (0xcb5, 5), (0xcbc, 9), (0xcc6, 3), (0xcca, 4),
    (0xcd5, 2), (0xcdd, 2), (0xce0, 4), (0xce6, 10), (0xcf1, 2), (0xd00, 13), (0xd0e, 3),
    (0xd12, 51), (0xd46, 3), (0xd4a, 6), (0xd54, 16), (0xd66, 26), (0xd81, 3), (0xd85, 18),
    (0xd9a, 24), (0xdb3, 9), (0xdbd, 1), (0xdc0, 7), (0xdca, 1), (0xdcf, 6), (0xdd6, 1), (0xdd8, 8),
    (0xde6, 10), (0xdf2, 3), (0xe01, 58), (0xe3f, 29), (0xe81, 2), (0xe84, 1), (0xe86, 5),
    (0xe8c, 24), (0xea5, 1), (0xea7, 23), (0xec0, 5), (0xec6, 1), (0xec8, 6), (0xed0, 10),
    (0xedc, 4), (0xf00, 72), (0xf49, 36), (0xf71, 39), (0xf99, 36), (0xfbe, 15), (0xfce, 13),
    (0x1000, 198), (0x10c7, 1), (0x10cd, 1), (0x10d0, 377), (0x124a, 4), (0x1250, 7), (0x1258, 1),
    (0x125a, 4), (0x1260, 41), (0x128a, 4), (0x1290, 33), (0x12b2, 4), (0x12b8, 7), (0x12c0, 1),
    (0x12c2, 4), (0x12c8, 15), (0x12d8, 57), (0x1312, 4), (0x1318, 67), (0x135d, 32), (0x1380, 26),
    (0x13a0, 86), (0x13f8, 6), (0x1400, 669), (0x16a0, 89), (0x1700, 22), (0x171f, 24),
    (0x1740, 20), (0x1760, 13), (0x176e, 3), (0x1772, 2), (0x1780, 94), (0x17e0, 10), (0x17f0, 10),
    (0x1800, 26), (0x1820, 89), (0x1880, 43), (0x18b0, 70), (0x1900, 31), (0x1920, 12),
    (0x1930, 12), (0x1940, 1), (0x1944, 42), (0x1970, 5), (0x1980, 44), (0x19b0, 26), (0x19d0, 11),
    (0x19de, 62), (0x1a1e, 65), (0x1a60, 29), (0x1a7f, 11), (0x1a90, 10), (0x1aa0, 14),
    (0x1ab0, 31), (0x1b00, 77), (0x1b50, 47), (0x1b80, 116), (0x1bfc, 60), (0x1c3b, 15),
    (0x1c4d, 60), (0x1c90, 43), (0x1cbd, 11), (0x1cd0, 43), (0x1d00, 534), (0x1f18, 6),
    (0x1f20, 38), (0x1f48, 6), (0x1f50, 8), (0x1f59, 1), (0x1f5b, 1), (0x1f5d, 1), (0x1f5f, 31),
    (0x1f80, 53), (0x1fb6, 15), (0x1fc6, 14), (0x1fd6, 6), (0x1fdd, 19), (0x1ff2, 3), (0x1ff6, 9)]
  entries := [
    "aaSPACEaaEXCLAMATION MARKabQUOTATIONaaNUMBER SIGNabDOLLARabPERCENTaaAMPERSANDaaAPOSTROPHE",
    "aaLEFT PARENTHESISabRIGHTaaASTERISKaaPLUS SIGNaaCOMMAaaHYPHEN-MINUSaaFULL STOPaaSOLIDUS",
    "aaDIGIT ZERObaONEbaTWObaTHREEbaFOURbaFIVEbaSIXbaSEVENbaEIGHTbaNINEaaCOLONaaSEMICOLON",
    "aaLESS-THAN SIGNabEQUALSabGREATER-THANaaQUESTION MARKaaCOMMERCIAL ATaaLATIN CAPITAL LETTER A",
    "daBdaCdaDdaEdaFdaGdaHdaIdaJdaKdaLdaMdaNdaOdaPdaQdaRdaSdaTdaUdaVdaWdaXdaYdaZ",
    "aaLEFT SQUARE BRACKETaaREVERSE SOLIDUSaaRIGHT SQUARE BRACKETaaCIRCUMFLEX ACCENTaaLOW LINE",
    "aaGRAVE ACCENTaaLATIN SMALL LETTER AdaBdaCdaDdaEdaFdaGdaHdaIdaJdaKdaLdaMdaNdaOdaPdaQdaRdaSdaT",
    "daUdaVdaWdaXdaYdaZaaLEFT CURLY BRACKETaaVERTICAL LINEaaRIGHT CURLY BRACKETaaTILDE",
    "aaNO-BREAK SPACEaaINVERTED EXCLAMATION MARKaaCENT SIGNabPOUNDabCURRENCYabYENaaBROKEN BAR",
    "aaSECTION SIGNaaDIAERESISaaCOPYRIGHT SIGNaaFEMININE ORDINAL INDICATOR",
    "aaLEFT-POINTING DOUBLE ANGLE QUOTATION MARKaaNOT SIGNaaSOFT HYPHENaaREGISTERED SIGNaaMACRON",
    "aaDEGREE SIGNabPLUS-MINUSaaSUPERSCRIPT TWObaTHREEaaACUTE ACCENTaaMICRO SIGNabPILCROW",
    "aaMIDDLE DOTaaCEDILLAaaSUPERSCRIPT ONEaaMASCULINE ORDINAL INDICATOR",
    "aaRIGHT-POINTING DOUBLE ANGLE QUOTATION MARKaaVULGAR FRACTION ONE QUARTERdaHALF",
    "caTHREE QUARTERSaaINVERTED QUESTION MARKaaLATIN CAPITAL LETTER A WITH GRAVEfaACUTE",
    "faCIRCUMFLEXfaTILDEfaDIAERESISfaRING ABOVEdaAEdaC WITH CEDILLAdaE WITH GRAVEfaACUTE",
    "faCIRCUMFLEXfaDIAERESISdaI WITH GRAVEfaACUTEfaCIRCUMFLEXfaDIAERESISdaETHdaN WITH TILDE",
    "daO WITH GRAVEfaACUTEfaCIRCUMFLEXfaTILDEfaDIAERESISaaMULTIPLICATION SIGN",
    "aaLATIN CAPITAL LETTER O WITH STROKEdaU WITH GRAVEfaACUTEfaCIRCUMFLEXfaDIAERESIS",
    "daY WITH ACUTEdaTHORNbaSMALL LETTER SHARP SdaA WITH GRAVEfaACUTEfaCIRCUMFLEXfaTILDE",
    "faDIAERESISfaRING ABOVEdaAEdaC WITH CEDILLAdaE WITH GRAVEfaACUTEfaCIRCUMFLEXfaDIAERESIS",
    "daI WITH GRAVEfaACUTEfaCIRCUMFLEXfaDIAERESISdaETHdaN WITH TILDEdaO WITH GRAVEfaACUTE",
    "faCIRCUMFLEXfaTILDEfaDIAERESISaaDIVISION SIGNaaLATIN SMALL LETTER O WITH STROKEdaU WITH GRAVE",
    "faACUTEfaCIRCUMFLEXfaDIAERESISdaY WITH ACUTEdaTHORNdaY WITH DIAERESIS",
    "baCAPITAL LETTER A WITH MACRONbeSMALLbaCAPITAL LETTER A WITH BREVEbeSMALL",
    "baCAPITAL LETTER A WITH OGONEKbeSMALLbaCAPITAL LETTER C WITH ACUTEbeSMALL",
    "baCAPITAL LETTER C WITH CIRCUMFLEXbeSMALLbaCAPITAL LETTER C WITH DOT ABOVEbfSMALL",
    "baCAPITAL LETTER C WITH CARONbeSMALLbcCAPITAL LETTER DbeSMALLbaCAPITAL LETTER D WITH STROKE",
    "beSMALLbaCAPITAL LETTER E WITH MACRONbeSMALLbaCAPITAL LETTER E WITH BREVEbeSMALL",
    "baCAPITAL LETTER E WITH DOT ABOVEbfSMALLbaCAPITAL LETTER E WITH OGONEKbeSMALL",
    "baCAPITAL LETTER E WITH CARONbeSMALLbaCAPITAL LETTER G WITH CIRCUMFLEXbeSMALL",
    "baCAPITAL LETTER G WITH BREVEbeSMALLbaCAPITAL LETTER G WITH DOT ABOVEbfSMALL",
    "baCAPITAL LETTER G WITH CEDILLAbeSMALLbaCAPITAL LETTER H WITH CIRCUMFLEXbeSMALL",
    "baCAPITAL LETTER H WITH STROKEbeSMALLbaCAPITAL LETTER I WITH TILDEbeSMALL",
    "baCAPITAL LETTER I WITH MACRONbeSMALLbaCAPITAL LETTER I WITH BREVEbeSMALL",
    "baCAPITAL LETTER I WITH OGONEKbeSMALLbaCAPITAL LETTER I WITH DOT ABOVE",
    "baSMALL LETTER DOTLESS IbaCAPITAL LIGATURE IJbcSMALLbaCAPITAL LETTER J WITH CIRCUMFLEXbeSMALL",
    "baCAPITAL LETTER K WITH CEDILLAbeSMALLdaKRAbaCAPITAL LETTER L WITH ACUTEbeSMALL",
    "baCAPITAL LETTER L WITH CEDILLAbeSMALLbaCAPITAL LETTER L WITH CARONbeSMALL",
    "baCAPITAL LETTER L WITH MIDDLE DOTbfSMALLbaCAPITAL LETTER L WITH STROKEbeSMALL",
    "baCAPITAL LETTER N WITH ACUTEbeSMALLbaCAPITAL LETTER N WITH CEDILLAbeSMALL",
    "baCAPITAL LETTER N WITH CARONbeSMALLeaPRECEDED BY APOSTROPHEbaCAPITAL LETTER ENGbcSMALL",
    "baCAPITAL LETTER O WITH MACRONbeSMALLbaCAPITAL LETTER O WITH BREVEbeSMALL",
    "baCAPITAL LETTER O WITH DOUBLE ACUTEbfSMALLbaCAPITAL LIGATURE OEbcSMALL",
    "baCAPITAL LETTER R WITH ACUTEbeSMALLbaCAPITAL LETTER R WITH CEDILLAbeSMALL",
    "baCAPITAL LETTER R WITH CARONbeSMALLbaCAPITAL LETTER S WITH ACUTEbeSMALL",
    "baCAPITAL LETTER S WITH CIRCUMFLEXbeSMALLbaCAPITAL LETTER S WITH CEDILLAbeSMALL",
    "baCAPITAL LETTER S WITH CARONbeSMALLbaCAPITAL LETTER T WITH CEDILLAbeSMALL",
    "baCAPITAL LETTER T WITH CARONbeSMALLbaCAPITAL LETTER T WITH STROKEbeSMALL",
    "baCAPITAL LETTER U WITH TILDEbeSMALLbaCAPITAL LETTER U WITH MACRONbeSMALL",
    "baCAPITAL LETTER U WITH BREVEbeSMALLbaCAPITAL LETTER U WITH RING ABOVEbfSMALL",
    "baCAPITAL LETTER U WITH DOUBLE ACUTEbfSMALLbaCAPITAL LETTER U WITH OGONEKbeSMALL",
    "baCAPITAL LETTER W WITH CIRCUMFLEXbeSMALLbcCAPITAL LETTER YbeSMALL",
    "baCAPITAL LETTER Y WITH DIAERESISdaZ WITH ACUTEbeSMALLbaCAPITAL LETTER Z WITH DOT ABOVE",
    "bfSMALLbaCAPITAL LETTER Z WITH CARONbeSMALLdaLONG SdaB WITH STROKE",
    "baCAPITAL LETTER B WITH HOOKfaTOPBARbeSMALLbaCAPITAL LETTER TONE SIXbdSMALL",
    "baCAPITAL LETTER OPEN OdaC WITH HOOKbeSMALLbaCAPITAL LETTER AFRICAN DdaD WITH HOOKfaTOPBAR",
    "beSMALLdaTURNED DELTAbaCAPITAL LETTER REVERSED EdaSCHWAdaOPEN EdaF WITH HOOKbeSMALL",
    "bcCAPITAL LETTER GdaGAMMAbaSMALL LETTER HVbaCAPITAL LETTER IOTAdaI WITH STROKEdaK WITH HOOK",
    "beSMALLdaL WITH BARdaLAMBDA WITH STROKEbaCAPITAL LETTER TURNED MdaN WITH LEFT HOOK",
    "baSMALL LETTER N WITH LONG RIGHT LEGbaCAPITAL LETTER O WITH MIDDLE TILDEfaHORNbeSMALL",
    "baCAPITAL LETTER OIbcSMALLbaCAPITAL LETTER P WITH HOOKbeSMALLbaLETTER YR",
    "baCAPITAL LETTER TONE TWObdSMALLbaCAPITAL LETTER ESHbaLETTER REVERSED ESH LOOP",
    "baSMALL LETTER T WITH PALATAL HOOKbbCAPITAL LETTER T WITHbeSMALL",
    "bbCAPITAL LETTER T WITH RETROFLEXdaU WITH HORNbeSMALLbaCAPITAL LETTER UPSILONdaV WITH HOOKdcY",
    "beSMALLbaCAPITAL LETTER Z WITH STROKEbeSMALLbaCAPITAL LETTER EZHeaREVERSEDbdSMALLeaWITH TAIL",
    "baLETTER TWO WITH STROKEbaCAPITAL LETTER TONE FIVEbdSMALL",
    "baLETTER INVERTED GLOTTAL STOP WITH STROKEcaWYNNcaDENTAL CLICKcbLATERALcbALVEOLARcbRETROFLEX",
    "baCAPITAL LETTER DZ WITH CARONdcD WITH SMALL LETTER ZbcSMALL LETTER DZbaCAPITAL LETTER LJ",
    "daL WITH SMALL LETTER JbaSMALL LETTER LJbaCAPITAL LETTER NJdaN WITH SMALL LETTER J",
    "baSMALL LETTER NJbaCAPITAL LETTER A WITH CARONbeSMALLbcCAPITAL LETTER IbeSMALL",
    "bcCAPITAL LETTER ObeSMALLbcCAPITAL LETTER UbeSMALL",
    "baCAPITAL LETTER U WITH DIAERESIS AND MACRONbgSMALL",
    "baCAPITAL LETTER U WITH DIAERESIS AND ACUTEbgSMALLbaCAPITAL LETTER U WITH DIAERESIS AND CARON",
    "bgSMALLbaCAPITAL LETTER U WITH DIAERESIS AND GRAVEbgSMALLdaTURNED E",
    "baCAPITAL LETTER A WITH DIAERESIS AND MACRONbgSMALLbcCAPITAL LETTER A WITH DOT ABOVEbhSMALL",
    "bbCAPITAL LETTER AE WITHbeSMALLbaCAPITAL LETTER G WITH STROKEbeSMALL",
    "baCAPITAL LETTER G WITH CARONbeSMALLbcCAPITAL LETTER KbeSMALLbaCAPITAL LETTER O WITH OGONEK",
    "beSMALLbaCAPITAL LETTER O WITH OGONEK AND MACRONbgSMALLbaCAPITAL LETTER EZH WITH CARONbeSMALL",
    "dcJbaCAPITAL LETTER DZdaD WITH SMALL LETTER ZbaSMALL LETTER DZbaCAPITAL LETTER G WITH ACUTE",
    "beSMALLbaCAPITAL LETTER HWAIRdaWYNNdaN WITH GRAVEbeSMALL",
    "baCAPITAL LETTER A WITH RING ABOVE AND ACUTEbhSMALLbbCAPITAL LETTER AE WITHbeSMALL",
    "bbCAPITAL LETTER O WITH STROKE ANDbgSMALLbaCAPITAL LETTER A WITH DOUBLE GRAVEbfSMALL",
    "baCAPITAL LETTER A WITH INVERTED BREVEbfSMALLbaCAPITAL LETTER E WITH DOUBLE GRAVEbfSMALL",
    "baCAPITAL LETTER E WITH INVERTED BREVEbfSMALLbaCAPITAL LETTER I WITH DOUBLE GRAVEbfSMALL",
    "baCAPITAL LETTER I WITH INVERTED BREVEbfSMALLbaCAPITAL LETTER O WITH DOUBLE GRAVEbfSMALL",
    "baCAPITAL LETTER O WITH INVERTED BREVEbfSMALLbaCAPITAL LETTER R WITH DOUBLE GRAVEbfSMALL",
    "baCAPITAL LETTER R WITH INVERTED BREVEbfSMALLbaCAPITAL LETTER U WITH DOUBLE GRAVEbfSMALL",
    "baCAPITAL LETTER U WITH INVERTED BREVEbfSMALLbaCAPITAL LETTER S WITH COMMA BELOWbfSMALL",
    "bdCAPITAL LETTER TbfSMALLbaCAPITAL LETTER YOGHbcSMALLbaCAPITAL LETTER H WITH CARONbeSMALL",
    "baCAPITAL LETTER N WITH LONG RIGHT LEGbaSMALL LETTER D WITH CURLbaCAPITAL LETTER OUbcSMALL",
    "baCAPITAL LETTER Z WITH HOOKbeSMALLbaCAPITAL LETTER A WITH DOT ABOVEbfSMALL",
    "baCAPITAL LETTER E WITH CEDILLAbeSMALLbaCAPITAL LETTER O WITH DIAERESIS AND MACRONbgSMALL",
    "bcCAPITAL LETTER O WITH TILDEbgSMALLbaCAPITAL LETTER O WITH DOT ABOVEbfSMALL",
    "baCAPITAL LETTER O WITH DOT ABOVE AND MACRONbhSMALLbbCAPITAL LETTER Y WITHbeSMALL",
    "daL WITH CURLdcNdcTdaDOTLESS JdaDB DIGRAPHdbQPbaCAPITAL LETTER A WITH STROKEdcCbeSMALL",
    "baCAPITAL LETTER L WITH BARdaT WITH DIAGONAL STROKEbaSMALL LETTER S WITH SWASH TAILddZ",
    "baCAPITAL LETTER GLOTTAL STOPbdSMALLbaCAPITAL LETTER B WITH STROKEdaU BARdaTURNED V",
    "daE WITH STROKEbeSMALLbcCAPITAL LETTER JbeSMALLbaCAPITAL LETTER SMALL Q WITH HOOK TAIL",
    "beSMALL LETTERbaCAPITAL LETTER R WITH STROKEbeSMALLbcCAPITAL LETTER YbeSMALLdaTURNED AdaALPHA",
    "dbTURNEDdaB WITH HOOKdaOPEN OdaC WITH CURLdaD WITH TAILfaHOOKdaREVERSED EdaSCHWAeaWITH HOOK",
    "daOPEN EdcREVERSEDgaWITH HOOKdaCLOSED REVERSED OPEN EdaDOTLESS J WITH STROKEdaG WITH HOOK",
    "daSCRIPT GbbLETTER SMALL CAPITALbaSMALL LETTER GAMMAdaRAMS HORNdaTURNED HdaH WITH HOOKdcHENG",
    "daI WITH STROKEdaIOTAbaLETTER SMALL CAPITAL IbaSMALL LETTER L WITH MIDDLE TILDEfaBELT",
    "faRETROFLEX HOOKdaLEZHdaTURNED MfaWITH LONG LEGdaM WITH HOOKdbN WITH LEFTfbRETROFLEX",
    "baLETTER SMALL CAPITAL NbaSMALL LETTER BARRED ObaLETTER SMALL CAPITAL OE",
    "baSMALL LETTER CLOSED OMEGAdaPHIdaTURNED RfaWITH LONG LEGgaHOOKdaR WITH LONG LEGfaTAIL",
    "faFISHHOOKddREVERSEDbaLETTER SMALL CAPITAL RebINVERTEDbaSMALL LETTER S WITH HOOKdaESH",
    "daDOTLESS J WITH STROKE AND HOOKdaSQUAT REVERSED ESHdaESH WITH CURLdaTURNED T",
    "daT WITH RETROFLEX HOOKdaU BARdaUPSILONdaV WITH HOOKdaTURNED VeaWeaYbbLETTER SMALL CAPITAL",
    "baSMALL LETTER Z WITH RETROFLEX HOOKfaCURLdaEZHeaWITH CURLbaLETTER GLOTTAL STOP",
    "caPHARYNGEAL VOICED FRICATIVEcaINVERTED GLOTTAL STOPcaSTRETCHED CcaBILABIAL CLICK",
    "caSMALL CAPITAL BbaSMALL LETTER CLOSED OPEN EbaLETTER SMALL CAPITAL G WITH HOOKeaH",
    "baSMALL LETTER J WITH CROSSED-TAILdaTURNED KbaLETTER SMALL CAPITAL L",
    "baSMALL LETTER Q WITH HOOKbaLETTER GLOTTAL STOP WITH STROKEceREVERSED",
    "baSMALL LETTER DZ DIGRAPHdbDEZHdaDZ DIGRAPH WITH CURLdaTS DIGRAPHdbTESHdaTC DIGRAPH WITH CURL",
    "daFENG DIGRAPHdbLSdbLZbaLETTER BILABIAL PERCUSSIVEcbBIDENTAL",
    "baSMALL LETTER TURNED H WITH FISHHOOKhaAND TAILaaMODIFIER LETTER SMALL HeaWITH HOOKdaJdaR",
    "dbTURNEDfaWITH HOOKdaCAPITAL INVERTED RdaWdaYcaPRIMEcbDOUBLEcaTURNED COMMAcaAPOSTROPHE",
    "caREVERSED COMMAcaRIGHT HALF RINGccLEFTcaGLOTTAL STOPccREVERSEDcaLEFT ARROWHEADcbRIGHTcbUP",
    "cbDOWNcaCIRCUMFLEX ACCENTaaCARONaaMODIFIER LETTER VERTICAL LINEcaMACRONcaACUTE ACCENTcbGRAVE",
    "caLOW VERTICAL LINEdaMACRONdaGRAVE ACCENTdbACUTEcaTRIANGULAR COLONccHALF",
    "caCENTRED RIGHT HALF RINGdcLEFTcaUP TACKcbDOWNcaPLUS SIGNcbMINUSaaBREVEaaDOT ABOVEabRING",
    "aaOGONEKaaSMALL TILDEaaDOUBLE ACUTE ACCENTaaMODIFIER LETTER RHOTIC HOOKcaCROSS ACCENT",
    "caSMALL GAMMAdaLdaSdaXdaREVERSED GLOTTAL STOPcaEXTRA-HIGH TONE BARccHIGHccMIDccLOWccEXTRA-LOW",
    "caYIN DEPARTING TONE MARKcdYANGcaVOICINGcaUNASPIRATEDcaDOUBLE APOSTROPHEcaLOW DOWN ARROWHEAD",
    "dbUPdbLEFTdbRIGHTdaRINGcaMIDDLE GRAVE ACCENTdcDOUBLEebACUTEcaLOW TILDEcaRAISED COLON",
    "caBEGIN HIGH TONEccENDcbBEGIN LOWccENDcaSHELFcbOPENcaLOW LEFT ARROWaaCOMBINING GRAVE ACCENT",
    "bbACUTEbbCIRCUMFLEXbaTILDEbaMACRONbaOVERLINEbaBREVEbaDOT ABOVEbaDIAERESISbaHOOK ABOVEbbRING",
    "baDOUBLE ACUTE ACCENTbaCARONbaVERTICAL LINE ABOVEbdDOUBLEcaGRAVE ACCENTbaCANDRABINDU",
    "baINVERTED BREVEbaTURNED COMMA ABOVEbcbcREVERSEDbaCOMMA ABOVE RIGHTbaGRAVE ACCENT BELOW",
    "bcACUTEbbLEFT TACKbcRIGHTbaLEFT ANGLE ABOVEbaHORNbaLEFT HALF RING BELOWbbUP TACKbcDOWN",
    "bbPLUS SIGNbcMINUSbbPALATALIZED HOOKbcRETROFLEXbbDOTbbDIAERESISbbRINGbbCOMMAbaCEDILLAbaOGONEK",
    "baVERTICAL LINE BELOWbbBRIDGEbbINVERTED DOUBLE ARCHbbCARONbbCIRCUMFLEX ACCENTbbBREVE",
    "bcINVERTEDbbTILDEbbMACRONbaLOW LINEbcDOUBLEbaTILDE OVERLAYbbSHORT STROKEbcLONGbbSHORT SOLIDUS",
    "bcLONGbaRIGHT HALF RING BELOWbbINVERTED BRIDGEbbSQUAREbbSEAGULLbaX ABOVEbaVERTICAL TILDE",
    "baDOUBLE OVERLINEbaGRAVE TONE MARKbcACUTEbaGREEK PERISPOMENIcaKORONIScaDIALYTIKA TONOS",
    "caYPOGEGRAMMENIbaBRIDGE ABOVEbaEQUALS SIGN BELOWbbDOUBLE VERTICAL LINEbbLEFT ANGLE",
    "baNOT TILDE ABOVEbbHOMOTHETICbbALMOST EQUAL TObaLEFT RIGHT ARROW BELOWbcUPWARDS",
    "baGRAPHEME JOINERbaRIGHT ARROWHEAD ABOVEbbLEFT HALF RINGbaFERMATAbaX BELOWbbLEFT ARROWHEAD",
    "bcRIGHTdbAND UP ARROWHEADcaHALF RING ABOVEbaDOT ABOVE RIGHTbaASTERISK BELOWbbDOUBLE RING",
    "baZIGZAG ABOVEbaDOUBLE BREVE BELOWdacaMACRONdaBELOWcaTILDEcaINVERTED BREVE",
    "caRIGHTWARDS ARROW BELOWbaLATIN SMALL LETTER AeaEeaIeaOeaUeaCeaDeaHeaMeaReaTeaVeaX",
    "aaGREEK CAPITAL LETTER HETAbcSMALLbaCAPITAL LETTER ARCHAIC SAMPIbdSMALLbaNUMERAL SIGNbcLOWER",
    "baCAPITAL LETTER PAMPHYLIAN DIGAMMAbdSMALLbaYPOGEGRAMMENIbaSMALL REVERSED LUNATE SIGMA SYMBOL",
    "cdDOTTEDceREVERSEDbaQUESTION MARKbaCAPITAL LETTER YOTbaTONOSbbDIALYTIKA",
    "bbCAPITAL LETTER ALPHA WITHbaANO TELEIAbaCAPITAL LETTER EPSILON WITH TONOSdcETAdcIOTA",
    "dcOMICRONdcUPSILONdcOMEGAbbSMALL LETTER IOTA WITH DIALYTIKA ANDbaCAPITAL LETTER ALPHAdaBETA",
    "daGAMMAdaDELTAdaEPSILONdaZETAdaETAdaTHETAdaIOTAdaKAPPAdaLAMDAdaMUdaNUdaXIdaOMICRONdaPIdaRHO",
    "daSIGMAdaTAUdaUPSILONdaPHIdaCHIdaPSIdaOMEGAdaIOTA WITH DIALYTIKAdcUPSILON",
    "baSMALL LETTER ALPHA WITH TONOSdcEPSILONdcETAdcIOTAdbUPSILON WITH DIALYTIKA ANDdaALPHAdaBETA",
    "daGAMMAdaDELTAdaEPSILONdaZETAdaETAdaTHETAdaIOTAdaKAPPAdaLAMDAdaMUdaNUdaXIdaOMICRONdaPIdaRHO",
    "daFINAL SIGMAdbdaTAUdaUPSILONdaPHIdaCHIdaPSIdaOMEGAdaIOTA WITH DIALYTIKAdcUPSILON",
    "daOMICRON WITH TONOSdcUPSILONdcOMEGAbaCAPITAL KAI SYMBOLbbBETAbbTHETAbbUPSILON WITH HOOK",
    "dcACUTE ANDddDIAERESISbbPHIbbPIbbKAIbaLETTER ARCHAIC KOPPAbdSMALLbaLETTER STIGMAbcSMALL",
    "baLETTER DIGAMMAbcSMALLbaLETTER KOPPAbcSMALLbaLETTER SAMPIbcSMALLaaCOPTIC CAPITAL LETTER SHEI",
    "bcSMALLbaCAPITAL LETTER FEIbcSMALLbaCAPITAL LETTER KHEIbcSMALLbaCAPITAL LETTER HORIbcSMALL",
    "baCAPITAL LETTER GANGIAbcSMALLbaCAPITAL LETTER SHIMAbcSMALLbaCAPITAL LETTER DEIbcSMALL",
    "aaGREEK KAPPA SYMBOLbbRHObbLUNATE SIGMAbaLETTER YOTbaCAPITAL THETA SYMBOLbbLUNATE EPSILON",
    "bdREVERSEDbaCAPITAL LETTER SHObcSMALLbaCAPITAL LUNATE SIGMA SYMBOLcaLETTER SANbcSMALL",
    "baRHO WITH STROKE SYMBOLbbCAPITAL REVERSED LUNATE SIGMAcdDOTTEDceREVERSED",
    "aaCYRILLIC CAPITAL LETTER IE WITH GRAVEdaIOdaDJEdaGJEdaUKRAINIAN IEdaDZE",
    "daBYELORUSSIAN-UKRAINIAN IdaYIdaJEdaLJEdaNJEdaTSHEdaKJEdaI WITH GRAVEdaSHORT UdaDZHEdaAdaBE",
    "daVEdaGHEdaDEdaIEdaZHEdaZEdaIdbSHORTdaKAdaELdaEMdaENdaOdaPEdaERdaESdaTEdaUdaEFdaHAdaTSEdaCHE",
    "daSHAdaSHCHAdaHARD SIGNdaYERUdaSOFT SIGNdaEdaYUdaYAbaSMALL LETTER AdaBEdaVEdaGHEdaDEdaIEdaZHE",
    "daZEdaIdbSHORTdaKAdaELdaEMdaENdaOdaPEdaERdaESdaTEdaUdaEFdaHAdaTSEdaCHEdaSHAdaSHCHAdaHARD SIGN",
    "daYERUdaSOFT SIGNdaEdaYUdaYAdaIE WITH GRAVEdaIOdaDJEdaGJEdaUKRAINIAN IEdaDZE",
    "daBYELORUSSIAN-UKRAINIAN IdaYIdaJEdaLJEdaNJEdaTSHEdaKJEdaI WITH GRAVEdaSHORT UdaDZHE",
    "baCAPITAL LETTER OMEGAbcSMALLbaCAPITAL LETTER YATbcSMALLbaCAPITAL LETTER IOTIFIED EbdSMALL",
    "baCAPITAL LETTER LITTLE YUSbdSMALLbcCAPITAL LETTER IOTIFIEDbeSMALLbbCAPITAL LETTER BIGbdSMALL",
    "bcCAPITAL LETTER IOTIFIEDbeSMALLbaCAPITAL LETTER KSIbcSMALLbaCAPITAL LETTER PSIbcSMALL",
    "baCAPITAL LETTER FITAbcSMALLbaCAPITAL LETTER IZHITSAbcSMALL",
    "baCAPITAL LETTER IZHITSA WITH DOUBLE GRAVE ACCENTbgSMALLbaCAPITAL LETTER UKbcSMALL",
    "baCAPITAL LETTER ROUND OMEGAbdSMALLbaCAPITAL LETTER OMEGA WITH TITLObeSMALL",
    "baCAPITAL LETTER OTbcSMALLbaCAPITAL LETTER KOPPAbcSMALLbaTHOUSANDS SIGN",
    "aaCOMBINING CYRILLIC TITLOcaPALATALIZATIONcaDASIA PNEUMATAcbPSILIcaPOKRYTIE",
    "caHUNDRED THOUSANDS SIGNcbMILLIONSaaCYRILLIC CAPITAL LETTER SHORT I WITH TAILbfSMALL",
    "baCAPITAL LETTER SEMISOFT SIGNbdSMALLbaCAPITAL LETTER ER WITH TICKbeSMALL",
    "baCAPITAL LETTER GHE WITH UPTURNbeSMALLbaCAPITAL LETTER GHE WITH STROKEbeSMALL",
    "baCAPITAL LETTER GHE WITH MIDDLE HOOKbfSMALLbaCAPITAL LETTER ZHE WITH DESCENDERbeSMALL",
    "bcCAPITAL LETTER ZEbeSMALLbcCAPITAL LETTER KAbeSMALLbaCAPITAL LETTER KA WITH VERTICAL STROKE",
    "bfSMALLbbCAPITAL LETTER KA WITHbeSMALLbaCAPITAL LETTER BASHKIR KAbdSMALL",
    "baCAPITAL LETTER EN WITH DESCENDERbeSMALLbaCAPITAL LIGATURE EN GHEbdSMALL",
    "baCAPITAL LETTER PE WITH MIDDLE HOOKbfSMALLbaCAPITAL LETTER ABKHASIAN HAbdSMALL",
    "baCAPITAL LETTER ES WITH DESCENDERbeSMALLbcCAPITAL LETTER TEbeSMALL",
    "baCAPITAL LETTER STRAIGHT UbdSMALLbaCAPITAL LETTER STRAIGHT U WITH STROKEbfSMALL",
    "baCAPITAL LETTER HA WITH DESCENDERbeSMALLbaCAPITAL LIGATURE TE TSEbdSMALL",
    "baCAPITAL LETTER CHE WITH DESCENDERbeSMALLbaCAPITAL LETTER CHE WITH VERTICAL STROKEbfSMALL",
    "baCAPITAL LETTER SHHAbcSMALLbaCAPITAL LETTER ABKHASIAN CHEbdSMALL",
    "baCAPITAL LETTER ABKHASIAN CHE WITH DESCENDERbfSMALLbaLETTER PALOCHKA",
    "baCAPITAL LETTER ZHE WITH BREVEbeSMALLbaCAPITAL LETTER KA WITH HOOKbeSMALL",
    "baCAPITAL LETTER EL WITH TAILbeSMALLbaCAPITAL LETTER EN WITH HOOKbeSMALL",
    "baCAPITAL LETTER EN WITH TAILbeSMALLbaCAPITAL LETTER KHAKASSIAN CHEbdSMALL",
    "baCAPITAL LETTER EM WITH TAILbeSMALLdaPALOCHKAbaCAPITAL LETTER A WITH BREVEbeSMALL",
    "baCAPITAL LETTER A WITH DIAERESISbeSMALLbaCAPITAL LIGATURE A IEbdSMALL",
    "baCAPITAL LETTER IE WITH BREVEbeSMALLbaCAPITAL LETTER SCHWAbcSMALL",
    "baCAPITAL LETTER SCHWA WITH DIAERESISbeSMALLbcCAPITAL LETTER ZHEbeSMALLbcCAPITAL LETTER ZE",
    "beSMALLbaCAPITAL LETTER ABKHASIAN DZEbdSMALLbaCAPITAL LETTER I WITH MACRONbeSMALL",
    "baCAPITAL LETTER I WITH DIAERESISbeSMALLbcCAPITAL LETTER ObeSMALLbaCAPITAL LETTER BARRED O",
    "bdSMALLbaCAPITAL LETTER BARRED O WITH DIAERESISbfSMALLbcCAPITAL LETTER EbeSMALL",
    "baCAPITAL LETTER U WITH MACRONbeSMALLbaCAPITAL LETTER U WITH DIAERESISbeSMALL",
    "baCAPITAL LETTER U WITH DOUBLE ACUTEbfSMALLbaCAPITAL LETTER CHE WITH DIAERESISbeSMALL",
    "baCAPITAL LETTER GHE WITH DESCENDERbeSMALLbaCAPITAL LETTER YERU WITH DIAERESISbeSMALL",
    "baCAPITAL LETTER GHE WITH STROKE AND HOOKbgSMALLbbCAPITAL LETTER HA WITHbeSMALL",
    "baCAPITAL LETTER HA WITH STROKEbeSMALLbaCAPITAL LETTER KOMI DEbdSMALL",
    "baCAPITAL LETTER KOMI DJEbdSMALLbaCAPITAL LETTER KOMI ZJEbdSMALLbaCAPITAL LETTER KOMI DZJE",
    "bdSMALLbaCAPITAL LETTER KOMI LJEbdSMALLbaCAPITAL LETTER KOMI NJEbdSMALL",
    "baCAPITAL LETTER KOMI SJEbdSMALLbaCAPITAL LETTER KOMI TJEbdSMALLbaCAPITAL LETTER REVERSED ZE",
    "bdSMALLbaCAPITAL LETTER EL WITH HOOKbeSMALLbaCAPITAL LETTER LHAbcSMALLbaCAPITAL LETTER RHA",
    "bcSMALLbaCAPITAL LETTER YAEbcSMALLbaCAPITAL LETTER QAbcSMALLbaCAPITAL LETTER WEbcSMALL",
    "baCAPITAL LETTER ALEUT KAbdSMALLbaCAPITAL LETTER EL WITH MIDDLE HOOKbfSMALL",
    "bdCAPITAL LETTER ENbfSMALLbaCAPITAL LETTER PE WITH DESCENDERbeSMALLbcCAPITAL LETTER SHHA",
    "beSMALLbaCAPITAL LETTER EN WITH LEFT HOOKbfSMALLbaCAPITAL LETTER DZZHEbcSMALL",
    "baCAPITAL LETTER DCHEbcSMALLbaCAPITAL LETTER EL WITH DESCENDERbeSMALL",
    "aaARMENIAN CAPITAL LETTER AYBdaBENdaGIMdaDAdaECHdaZAdaEHdaETdaTOdaZHEdaINIdaLIWNdaXEHdaCA",
    "daKENdaHOdaJAdaGHADdaCHEHdaMENdaYIdaNOWdaSHAdaVOdaCHAdaPEHdaJHEHdaRAdaSEHdaVEWdaTIWNdaREHdaCO",
    "daYIWNdaPIWRdaKEHdaOHdaFEHbaMODIFIER LETTER LEFT HALF RINGbaAPOSTROPHEbaEMPHASIS MARK",
    "bbEXCLAMATIONbaCOMMAbaQUESTION MARKbbABBREVIATIONbaSMALL LETTER TURNED AYBdbdaBENdaGIMdaDA",
    "daECHdaZAdaEHdaETdaTOdaZHEdaINIdaLIWNdaXEHdaCAdaKENdaHOdaJAdaGHADdaCHEHdaMENdaYIdaNOWdaSHA",
    "daVOdaCHAdaPEHdaJHEHdaRAdaSEHdaVEWdaTIWNdaREHdaCOdaYIWNdaPIWRdaKEHdaOHdaFEH",
    "caLIGATURE ECH YIWNcaLETTER YI WITH STROKEbaFULL STOPbaHYPHEN",
    "aaRIGHT-FACING ARMENIAN ETERNITY SIGNadLEFT-FACINGabARMENIAN DRAMaaHEBREW ACCENT ETNAHTA",
    "caSEGOLcaSHALSHELETcaZAQEF QATANdaGADOLcaTIPEHAcaREVIAcaZARQAcaPASHTAcaYETIVcaTEVIRcaGERESH",
    "daMUQDAMcaGERSHAYIMcaQARNEY PARAcaTELISHA GEDOLAcaPAZERcaATNAH HAFUKHcaMUNAHcaMAHAPAKH",
    "caMERKHAdaKEFULAcaDARGAcaQADMAcaTELISHA QETANAcaYERAH BEN YOMOcaOLEcaILUYcaDEHIcaZINOR",
    "baMARK MASORA CIRCLEbaPOINT SHEVAcaHATAF SEGOLdaPATAHdaQAMATScaHIRIQcaTSEREcaSEGOLcaPATAH",
    "caQAMATScaHOLAMdaHASER FOR VAVcaQUBUTScaDAGESH OR MAPIQcaMETEGbaPUNCTUATION MAQAFbaPOINT RAFE",
    "baPUNCTUATION PASEQbaPOINT SHIN DOTcbSINbaPUNCTUATION SOF PASUQbaMARK UPPER DOTcbLOWER",
    "baPUNCTUATION NUN HAFUKHAbaPOINT QAMATS QATANbaLETTER ALEFcaBETcaGIMELcaDALETcaHEcaVAVcaZAYIN",
    "caHETcaTETcaYODcaFINAL KAFcbcaLAMEDcaFINAL MEMcbcaFINAL NUNcbcaSAMEKHcaAYINcaFINAL PEcb",
    "caFINAL TSADIcbcaQOFcaRESHcaSHINcaTAVbaYOD TRIANGLEbaLIGATURE YIDDISH DOUBLE VAVdaVAV YOD",
    "dbDOUBLEbaPUNCTUATION GERESHcaGERSHAYIMaaARABIC NUMBER SIGNbaSIGN SANAHbaFOOTNOTE MARKER",
    "baSIGN SAFHAcaSAMVATbaNUMBER MARK ABOVEaaARABIC-INDIC CUBE ROOTbbFOURTHaaARABIC RAY",
    "aaARABIC-INDIC PER MILLE SIGNcbTEN THOUSANDabAFGHANIaaARABIC COMMAbaDATE SEPARATOR",
    "baPOETIC VERSE SIGNbaSIGN MISRAcaSALLALLAHOU ALAYHE WASSALLAMcaALAYHE ASSALLAM",
    "caRAHMATULLAH ALAYHEcaRADI ALLAHOU ANHUcaTAKHALLUSbaSMALL HIGH TAH",
    "daLIGATURE ALEF WITH LAM WITH YEHdaZAINcaFATHAcaDAMMAcaKASRAbaSEMICOLONbaLETTER MARK",
    "bbEND OF TEXTbbTRIPLE DOT PUNCTUATIONbbQUESTIONbaLETTER KASHMIRI YEHcaHAMZA",
    "caALEF WITH MADDA ABOVEebHAMZAcdWAWcaALEF WITH HAMZA BELOWcaYEH WITH HAMZA ABOVEcaALEFcaBEH",
    "caTEH MARBUTAdacaTHEHcaJEEMcaHAHcaKHAHcaDALcaTHALcaREHcaZAINcaSEENcaSHEENcaSADcaDADcaTAHcaZAH",
    "caAINcaGHAINcaKEHEH WITH TWO DOTS ABOVEeaTHREE DOTS BELOWcaFARSI YEH WITH INVERTED V",
    "faTWO DOTS ABOVEfcTHREEbaTATWEELbaLETTER FEHcaQAFcaKAFcaLAMcaMEEMcaNOONcaHEHcaWAW",
    "caALEF MAKSURAcaYEHbaFATHATANbaDAMMATANbaKASRATANbaFATHAbaDAMMAbaKASRAbaSHADDAbaSUKUN",
    "baMADDAH ABOVEbbHAMZAcaBELOWbaSUBSCRIPT ALEFbaINVERTED DAMMAbaMARK NOON GHUNNAbaZWARAKAY",
    "baVOWEL SIGN SMALL V ABOVEddINVERTEDdaDOT BELOWbaREVERSED DAMMAbaFATHA WITH TWO DOTS",
    "baWAVY HAMZA BELOWaaARABIC-INDIC DIGIT ZEROcaONEcaTWOcaTHREEcaFOURcaFIVEcaSIXcaSEVENcaEIGHT",
    "caNINEaaARABIC PERCENT SIGNbaDECIMAL SEPARATORbbTHOUSANDSbaFIVE POINTED STAR",
    "baLETTER DOTLESS BEHdaQAFcaSUPERSCRIPT ALEFcaALEF WASLAdaWITH WAVY HAMZA ABOVEgaBELOW",
    "caHIGH HAMZAeaALEFeaWAWcaU WITH HAMZA ABOVEcaHIGH HAMZA YEHcaTTEHcaTTEHEHcaBEEH",
    "caTEH WITH RINGeaTHREE DOTS ABOVE DOWNWARDScaPEHcaTEHEHcaBEHEHcaHAH WITH HAMZA ABOVE",
    "ebTWO DOTS VERTICALcaNYEHcaDYEHcaHAH WITH THREE DOTS ABOVEcaTCHEHcaTCHEHEHcaDDAL",
    "caDAL WITH RINGeaDOT BELOWgaAND SMALL TAHcaDAHALcaDDAHALcaDUL",
    "caDAL WITH THREE DOTS ABOVE DOWNWARDSeaFOUR DOTS ABOVEcaRREHcaREH WITH SMALL VeaRING",
    "eaDOT BELOWebSMALL VeaDOT BELOW AND DOT ABOVEebTWO DOTScaJEHcaREH WITH FOUR DOTS ABOVE",
    "cbSEEN WITH DOT BELOW AND DOTeaTHREE DOTS BELOWhaAND THREE DOTS ABOVE",
    "caSAD WITH TWO DOTS BELOWeaTHREE DOTS ABOVEceTAHceAINcaDOTLESS FEHcaFEH WITH DOT MOVED BELOW",
    "fbcaVEHcaFEH WITH THREE DOTS BELOWcaPEHEHcaQAF WITH DOT ABOVEebTHREE DOTScaKEHEHcaSWASH KAF",
    "caKAF WITH RINGeaDOT ABOVEcaNGcaKAF WITH THREE DOTS BELOWcaGAFdaWITH RINGcaNGOEH",
    "caGAF WITH TWO DOTS BELOWcaGUEHcaGAF WITH THREE DOTS ABOVEcaLAM WITH SMALL VeaDOT ABOVE",
    "ebTHREE DOTSgaBELOWcbNOON WITH DOTdaGHUNNAcaRNOONcaNOON WITH RINGeaTHREE DOTS ABOVE",
    "caHEH DOACHASHMEEcaTCHEH WITH DOT ABOVEcbHEH WITH YEHdaGOALeaWITH HAMZA ABOVE",
    "caTEH MARBUTA GOALcaWAW WITH RINGcaKIRGHIZ OEcbcaUcaYUcbKIRGHIZcaWAW WITH TWO DOTS ABOVEcaVE",
    "caFARSI YEHcaYEH WITH TAILeaSMALL VcaWAW WITH DOT ABOVEcaEcaYEH WITH THREE DOTS BELOWdaBARREE",
    "eaWITH HAMZA ABOVEbaFULL STOPbaLETTER AEbaSMALL HIGH LIGATURE SAD WITH LAM WITH ALEF MAKSURA",
    "efQAFdaMEEM INITIAL FORMdaLAM ALEFdaJEEMdaTHREE DOTSdaSEENbaEND OF AYAHbaSTART OF RUB EL HIZB",
    "baSMALL HIGH ROUNDED ZEROdbUPRIGHT RECTANGULARdaDOTLESS HEAD OF KHAHdaMEEM ISOLATED FORM",
    "caLOW SEENcaHIGH MADDAcaWAWcaYEHcbHIGHdaNOONbaPLACE OF SAJDAHbaEMPTY CENTRE LOW STOPdbHIGH",
    "baROUNDED HIGH STOP WITH FILLED CENTREbaSMALL LOW MEEMbaLETTER DAL WITH INVERTED VcdREH",
    "aaEXTENDED ARABIC-INDIC DIGIT ZEROdaONEdaTWOdaTHREEdaFOURdaFIVEdaSIXdaSEVENdaEIGHTdaNINE",
    "aaARABIC LETTER SHEEN WITH DOT BELOWcdDADcdGHAINbaSIGN SINDHI AMPERSANDdaPOSTPOSITION MEN",
    "baLETTER HEH WITH INVERTED VaaSYRIAC END OF PARAGRAPHbaSUPRALINEAR FULL STOPbcSUBLINEAR",
    "baSUPRALINEAR COLONbbSUBLINEARbbHORIZONTALbaCOLON SKEWED LEFTdaRIGHT",
    "baSUPRALINEAR COLON SKEWED LEFTbaSUBLINEAR COLON SKEWED RIGHTbaCONTRACTIONbaHARKLEAN OBELUS",
    "caMETOBELUScaASTERISCUSbaABBREVIATION MARKbaLETTER ALAPHcbSUPERSCRIPTcaBETHcaGAMALdaGARSHUNI",
    "caDALATHcaDOTLESS DALATH RISHcaHEcaWAWcaZAINcaHETHcaTETHdaGARSHUNIcaYUDHdaHEcaKAPHcaLAMADH",
    "caMIMcaNUNcaSEMKATHcbFINALcaEcaPEcbREVERSEDcaSADHEcaQAPHcaRISHcaSHINcaTAWcaPERSIAN BHETH",
    "daGHAMALdaDHALATHbaPTHAHA ABOVEcaBELOWcaDOTTEDbaZQAPHA ABOVEcaBELOWcaDOTTEDbaRBASA ABOVE",
    "caBELOWbaDOTTED ZLAMA HORIZONTALdaANGULARbaHBASA ABOVEcaBELOWbaHBASA-ESASA DOTTED",
    "baESASA ABOVEcaBELOWbaRWAHAbaFEMININE DOTbaQUSHSHAYAbaRUKKAKHAbaTWO VERTICAL DOTS ABOVE",
    "eaBELOWbaTHREE DOTS ABOVEdaBELOWbaOBLIQUE LINE ABOVEdaBELOWbaMUSICbaBARREKH",
    "baLETTER SOGDIAN ZHAINdaKHAPHdaFEaaARABIC LETTER BEH WITH THREE DOTS HORIZONTALLY BELOW",
    "eaDOT BELOW AND THREE DOTS ABOVEeaTHREE DOTS POINTING UPWARDS BELOWjaAND TWO DOTS ABOVE",
    "ebTWO DOTS BELOW AND DOTeaINVERTED SMALL V BELOWeaSMALL VcaHAH WITH TWO DOTS ABOVE",
    "eaTHREE DOTS POINTING UPWARDS BELOWcaDAL WITH TWO DOTS VERTICALLY BELOW AND SMALL TAH",
    "eaINVERTED SMALL V BELOWcaREH WITH STROKEcaSEEN WITH FOUR DOTS ABOVEccAIN WITH TWO",
    "ebTHREE DOTS POINTING DOWNWARDSebTWO DOTS VERTICALLYcaFEH WITH TWO DOTS BELOW",
    "ebTHREE DOTS POINTING UPWARDScaKEHEH WITH DOT ABOVEebTHREE DOTSgaPOINTING UPWARDS BELOW",
    "caMEEM WITH DOT ABOVEfaBELOWcbNOON WITH TWO DOTSeaSMALL TAHfaVcaLAM WITH BAR",
    "caREH WITH TWO DOTS VERTICALLY ABOVEebHAMZAcbSEEN WITH TWO DOTS VERTICALLY",
    "caHAH WITH SMALL ARABIC LETTER TAH BELOWiaAND TWO DOTSciSEENciREH",
    "caHAH WITH SMALL ARABIC LETTER TAH ABOVEcbALEF WITH EXTENDED ARABIC-INDIC DIGIT TWOhbTHREE",
    "cbFARSI YEH WITH EXTENDED ARABIC-INDIC DIGIT TWOibTHREEiaFOUR BELOW",
    "caWAW WITH EXTENDED ARABIC-INDIC DIGIT TWO ABOVEhbTHREE",
    "cbYEH BARREE WITH EXTENDED ARABIC-INDIC DIGIT TWOibTHREE",
    "caHAH WITH EXTENDED ARABIC-INDIC DIGIT FOUR BELOW",
    "caSEEN WITH EXTENDED ARABIC-INDIC DIGIT FOUR ABOVEeaINVERTED VcaKAF WITH TWO DOTS ABOVE",
    "aaTHAANA LETTER HAAcaSHAVIYANIcaNOONUcaRAAcaBAAcaLHAVIYANIcaKAAFUcaALIFUcaVAAVUcaMEEMUcaFAAFU",
    "caDHAALUcaTHAAcaLAAMUcaGAAFUcaGNAVIYANIcaSEENUcaDAVIYANIcaZAVIYANIcaTAVIYANIcaYAAcaPAVIYANI",
    "caJAVIYANIcaCHAVIYANIcaTTAAcaHHAAcaKHAAcaTHAALUcaZAAcaSHEENUcaSAADHUcaDAADHUcaTOcaZOcaAINU",
    "caGHAINUcaQAAFUcaWAAVUbaABAFILIbaAABAAFILIbaIBIFILIbaEEBEEFILIbaUBUFILIbaOOBOOFILIbaEBEFILI",
    "baEYBEYFILIbaOBOFILIbaOABOAFILIbaSUKUNbaLETTER NAAaaNKO DIGIT ZEROcaONEcaTWOcaTHREEcaFOUR",
    "caFIVEcaSIXcaSEVENcaEIGHTcaNINEbaLETTER AcaEEcaIcaEcaUcaOOcaOcaDAGBASINNAcaNcaBAcaPAcaTAcaJA",
    "caCHAcaDAcaRAcaRRAcaSAcaGBAcaFAcaKAcaLAcaNA WOLOSOcaMAcaNYAcaNAcaHAcaWAcaYAcaNYA WOLOSO",
    "caJONA JAdaCHAdaRAbaCOMBINING SHORT HIGH TONEdbLOWdbRISINGcbLONG DESCENDINGdbHIGHdbLOW",
    "dbRISINGcaNASALIZATION MARKcaDOUBLE DOT ABOVEbaHIGH TONE APOSTROPHEbcLOWbaSYMBOL OO DENNEN",
    "caGBAKURUNENbaCOMMAbaEXCLAMATION MARKbaLAJANYALANbaDANTAYALANbaDOROME SIGNbbTAMAN",
    "aaSAMARITAN LETTER ALAFcaBITcaGAMANcaDALATcaIYcaBAAcaZENcaITcaTITcaYUTcaKAAFcaLABATcaMIMcaNUN",
    "caSINGAATcaINcaFIcaTSAADIYcaQUFcaRISHcaSHANcaTAAFbaMARK INcaIN-ALAFcaOCCLUSIONcaDAGESH",
    "baMODIFIER LETTER EPENTHETIC YUTbcMARKbaVOWEL SIGN LONG EdbdaOVERLONG AAdbLONGdbdaOVERLONG A",
    "dbLONGdbbbMODIFIER LETTER SHORTbcVOWEL SIGNdaLONG UdbbaMODIFIER LETTER IbbVOWEL SIGN LONGdb",
    "daOdaSUKUNbaMARK NEQUDAAbbPUNCTUATIONcaAFSAAQcaANGEDcaBAUcaATMAAUcaSHIYYAALAA",
    "baABBREVIATION MARKbaPUNCTUATION MELODIC QITSAcaZIQAAcaQITSAcaZAEFcaTURUcaARKAANU",
    "caSOF MASHFAATcaANNAAUaaMANDAIC LETTER HALQAcaABcaAGcaADcaAHcaUSHENNAcaAZcaITcaATTcaAKSAcaAK",
    "caALcaAMcaANcaAScaINcaAPcaASZcaAQcaARcaASHcaATcaDUSHENNAcaKADcaAINbaAFFRICATION MARK",
    "bbVOCALIZATIONbbGEMINATIONbaPUNCTUATIONaaSYRIAC LETTER MALAYALAM NGAdaJAdaNYAdaTTAdaNNAdaNNNA",
    "daBHAdaRAdaLLAdaLLLAdaSSAaaARABIC LETTER ALEF WITH ATTACHED FATHAfbTOP RIGHT",
    "eaRIGHT MIDDLE STROKEecLEFTeaATTACHED KASRAfbBOTTOM RIGHTfaROUND DOT ABOVEfaRIGHT ROUND DOT",
    "fcLEFTfaROUND DOT BELOWeaDOT ABOVEecATTACHED TOP RIGHT FATHA ANDedRIGHT MIDDLE STROKE",
    "edATTACHED BOTTOM RIGHT KASRAfaTOP RIGHT FATHA AND LEFT RINGedRIGHT MIDDLE STROKE",
    "edATTACHED BOTTOM RIGHT KASRAfaRIGHT HAMZAfbLEFTbbTATWEEL WITH OVERSTRUCKeaWAW",
    "daTWO DOTS BELOWbaLETTER THIN YEHbaBASELINE ROUND DOTbcRAISED",
    "baLETTER NOON WITH INVERTED SMALL VcaHAH WITH INVERTED SMALL V BELOWcbTAH WITH DOT",
    "ebTHREE DOTScbKEHEH WITH TWO DOTS VERTICALLYbaVERTICAL TAILbaPOUND MARK ABOVEbcPIASTRE",
    "baSMALL HIGH WORD AL-JUZcaLOW WORD ISHMAAMeaIMAALAeaTASHEELbaMADDA WAAJIB",
    "baSUPERSCRIPT ALEF MOKHASSASbaDOUBLED MADDAbbHALF MADDA OVERbaLETTER BEH WITH SMALL V BELOW",
    "eaHAMZA ABOVEcbJEEM WITH TWO DOTSceTAHccFEH WITH DOT BELOW AND THREEcaQAF WITH DOT BELOW",
    "caLAM WITH DOUBLE BARcaMEEM WITH THREE DOTS ABOVEcbYEH WITH TWO DOTS BELOW AND HAMZAibDOT",
    "caREH WITH LOOPcaWAW WITH DOT WITHINcaROHINGYA YEHcaLOW ALEFcaDAL WITH THREE DOTS BELOWceSAD",
    "caGAF WITH INVERTED STROKEcaSTRAIGHT WAWcaZAIN WITH INVERTED V ABOVE",
    "caAIN WITH THREE DOTS BELOWcbKAF WITH DOTcaQAF WITH DOT BELOW AND NO DOTS ABOVE",
    "cbBEH WITH SMALL MEEMcePEHcbTEH WITH SMALL TEHcbREH WITH SMALL NOON",
    "cdYEH WITH TWO DOTS BELOW ANDcaAFRICAN FEHdaQAFdaNOONcaPEH WITH SMALL VcdTEHcdTTEHcdTCHEH",
    "cdKEHEHcaGHAIN WITH THREE DOTS ABOVEceAFRICAN QAFceJEEMgaBELOW",
    "caLAM WITH SMALL ARABIC LETTER TAH ABOVEcaGRAFbaSMALL FARSI YEHccHIGH",
    "daYEH BARREE WITH TWO DOTS BELOWdaWORD SAHdaZAHbaLARGE ROUND DOT ABOVEeaBELOWbbSUKUN",
    "bbLARGE CIRCLEccROUND DOT INSIDEbaSMALL LOW WAWcaHIGH WORD AR-RUBdaSADdaAINdaQAF",
    "daNOON WITH KASRAcdLOWcaHIGH WORD ATH-THALATHAeaAS-SAJDAeaAN-NISFeaSAKTAeaQIFeaWAQFA",
    "daFOOTNOTE MARKERdaSIGN SAFHAbaDISPUTED END OF AYAHbaTURNED DAMMA BELOWbaCURLY FATHAcaDAMMA",
    "caKASRAcaFATHATANcaDAMMATANcaKASRATANbaTONE ONE DOT ABOVEcbTWO DOTScbLOOPcaONE DOT BELOW",
    "cbTWO DOTScbLOOPbaOPEN FATHATANcaDAMMATANcaKASRATANbaSMALL HIGH WAWbaFATHA WITH RING",
    "daDOT ABOVEbaKASRA WITH DOT BELOWbaLEFT ARROWHEAD ABOVEbcRIGHTbaLEFT ARROWHEAD BELOWbcRIGHT",
    "baDOUBLE RIGHT ARROWHEAD ABOVEfaWITH DOTbfbcDAMMAbaMARK SIDEWAYS NOON GHUNNA",
    "aaDEVANAGARI SIGN INVERTED CANDRABINDUcbcaANUSVARAcaVISARGAbaLETTER SHORT AcbcaAAcaIcaIIcaU",
    "caUUcaVOCALIC RdaLcaCANDRA EcbSHORTcbcaAIcaCANDRA OcbSHORTcbcaAUcaKAcaKHAcaGAcaGHAcaNGAcaCA",
    "caCHAcaJAcaJHAcaNYAcaTTAcaTTHAcaDDAcaDDHAcaNNAcaTAcaTHAcaDAcaDHAcaNAcaNNNAcaPAcaPHAcaBAcaBHA",
    "caMAcaYAcaRAcaRRAcaLAcaLLAcaLLLAcaVAcaSHAcaSSAcaSAcaHAbaVOWEL SIGN OEdaOOEbaSIGN NUKTA",
    "caAVAGRAHAbaVOWEL SIGN AAdaIdaIIdaUdaUUdaVOCALIC ReaRRdaCANDRA EdbSHORTdbdaAIdaCANDRA O",
    "dbSHORTdbdaAUbaSIGN VIRAMAbaVOWEL SIGN PRISHTHAMATRA EdaAWbaOMbaSTRESS SIGN UDATTAdaANUDATTA",
    "baGRAVE ACCENTbbACUTEbaVOWEL SIGN CANDRA LONG EdaUEdaUUEbaLETTER QAcaKHHAcaGHHAcaZAcaDDDHA",
    "caRHAcaFAcaYYAcaVOCALIC RRdaLLbaVOWEL SIGN VOCALIC LeaLLbaDANDAbbDOUBLEbaDIGIT ZEROcaONEcaTWO",
    "caTHREEcaFOURcaFIVEcaSIXcaSEVENcaEIGHTcaNINEbaABBREVIATION SIGNbaSIGN HIGH SPACING DOT",
    "baLETTER CANDRA AcaOEcaOOEcaAWcaUEcaUUEcaMARWARI DDAcaZHAcaHEAVY YAcaGGAcaJJAcaGLOTTAL STOP",
    "caDDDAcaBBAaaBENGALI ANJIbaSIGN CANDRABINDUcaANUSVARAcaVISARGAbaLETTER AcaAAcaIcaIIcaUcaUU",
    "caVOCALIC RdaLcaEcaAIcaOcaAUcaKAcaKHAcaGAcaGHAcaNGAcaCAcaCHAcaJAcaJHAcaNYAcaTTAcaTTHAcaDDA",
    "caDDHAcaNNAcaTAcaTHAcaDAcaDHAcaNAcaPAcaPHAcaBAcaBHAcaMAcaYAcaRAcaLAcaSHAcaSSAcaSAcaHA",
    "baSIGN NUKTAcaAVAGRAHAbaVOWEL SIGN AAdaIdaIIdaUdaUUdaVOCALIC ReaRRdaEdaAIdaOdaAUbaSIGN VIRAMA",
    "baLETTER KHANDA TAbaAU LENGTH MARKbaLETTER RRAcaRHAcaYYAcaVOCALIC RRdaLL",
    "baVOWEL SIGN VOCALIC LeaLLbaDIGIT ZEROcaONEcaTWOcaTHREEcaFOURcaFIVEcaSIXcaSEVENcaEIGHTcaNINE",
    "baLETTER RA WITH MIDDLE DIAGONALebLOWERbaRUPEE MARKcaSIGNbaCURRENCY NUMERATOR ONEdaTWOdaTHREE",
    "daFOURdaONE LESS THAN THE DENOMINATORcaDENOMINATOR SIXTEENbaISSHARbaGANDA MARK",
    "baLETTER VEDIC ANUSVARAbaABBREVIATION SIGNbaSANDHI MARKaaGURMUKHI SIGN ADAK BINDIcbcaVISARGA",
    "baLETTER AcaAAcaIcaIIcaUcaUUcaEEcaAIcaOOcaAUcaKAcaKHAcaGAcaGHAcaNGAcaCAcaCHAcaJAcaJHAcaNYA",
    "caTTAcaTTHAcaDDAcaDDHAcaNNAcaTAcaTHAcaDAcaDHAcaNAcaPAcaPHAcaBAcaBHAcaMAcaYAcaRAcaLAcaLLAcaVA",
    "caSHAcaSAcaHAbaSIGN NUKTAbaVOWEL SIGN AAdaIdaIIdaUdaUUdaEEdaAIdaOOdaAUbaSIGN VIRAMAcaUDAAT",
    "baLETTER KHHAcaGHHAcaZAcaRRAcaFAbaDIGIT ZEROcaONEcaTWOcaTHREEcaFOURcaFIVEcaSIXcaSEVENcaEIGHT",
    "caNINEbaTIPPIbaADDAKbaIRIbaURAbaEK ONKARbaSIGN YAKASHbaABBREVIATION SIGN",
    "aaGUJARATI SIGN CANDRABINDUcaANUSVARAcaVISARGAbaLETTER AcaAAcaIcaIIcaUcaUUcaVOCALIC RdaL",
    "baVOWEL CANDRA EbbLETTERcaAIbaVOWEL CANDRA ObbLETTERcaAUcaKAcaKHAcaGAcaGHAcaNGAcaCAcaCHAcaJA",
    "caJHAcaNYAcaTTAcaTTHAcaDDAcaDDHAcaNNAcaTAcaTHAcaDAcaDHAcaNAcaPAcaPHAcaBAcaBHAcaMAcaYAcaRAcaLA",
    "caLLAcaVAcaSHAcaSSAcaSAcaHAbaSIGN NUKTAcaAVAGRAHAbaVOWEL SIGN AAdaIdaIIdaUdaUUdaVOCALIC ReaRR",
    "daCANDRA EdbdaAIdaCANDRA OdbdaAUbaSIGN VIRAMAbaOMbaLETTER VOCALIC RRdaLL",
    "baVOWEL SIGN VOCALIC LeaLLbaDIGIT ZEROcaONEcaTWOcaTHREEcaFOURcaFIVEcaSIXcaSEVENcaEIGHTcaNINE",
    "baABBREVIATION SIGNbbRUPEEbaLETTER ZHAbaSIGN SUKUNcaSHADDAcaMADDAHcaTHREE-DOT NUKTA ABOVE",
    "ccCIRCLEccTWO-CIRCLEaaORIYA SIGN CANDRABINDUcaANUSVARAcaVISARGAbaLETTER AcaAAcaIcaIIcaUcaUU",
    "caVOCALIC RdaLcaEcaAIcaOcaAUcaKAcaKHAcaGAcaGHAcaNGAcaCAcaCHAcaJAcaJHAcaNYAcaTTAcaTTHAcaDDA",
    "caDDHAcaNNAcaTAcaTHAcaDAcaDHAcaNAcaPAcaPHAcaBAcaBHAcaMAcaYAcaRAcaLAcaLLAcaVAcaSHAcaSSAcaSA",
    "caHAbaSIGN NUKTAcaAVAGRAHAbaVOWEL SIGN AAdaIdaIIdaUdaUUdaVOCALIC ReaRRdaEdaAIdaOdaAU",
    "baSIGN VIRAMAcaOVERLINEbaAI LENGTH MARKbcAUbaLETTER RRAcaRHAcaYYAcaVOCALIC RRdaLL",
    "baVOWEL SIGN VOCALIC LeaLLbaDIGIT ZEROcaONEcaTWOcaTHREEcaFOURcaFIVEcaSIXcaSEVENcaEIGHTcaNINE",
    "baISSHARbaLETTER WAbaFRACTION ONE QUARTERdaHALFcaTHREE QUARTERScaONE SIXTEENTHdaEIGHTH",
    "caTHREE SIXTEENTHSaaTAMIL SIGN ANUSVARAcaVISARGAbaLETTER AcaAAcaIcaIIcaUcaUUcaEcaEEcaAIcaO",
    "caOOcaAUcaKAcaNGAcaCAcaJAcaNYAcaTTAcaNNAcaTAcaNAcaNNNAcaPAcaMAcaYAcaRAcaRRAcaLAcaLLAcaLLLA",
    "caVAcaSHAcaSSAcaSAcaHAbaVOWEL SIGN AAdaIdaIIdaUdaUUdaEdaEEdaAIdaOdaOOdaAUbaSIGN VIRAMAbaOM",
    "baAU LENGTH MARKbaDIGIT ZEROcaONEcaTWOcaTHREEcaFOURcaFIVEcaSIXcaSEVENcaEIGHTcaNINE",
    "baNUMBER TENcaONE HUNDREDdaTHOUSANDbaDAY SIGNbbMONTHbbYEARbbDEBITbbCREDITbbAS ABOVEbbRUPEE",
    "bbNUMBERaaTELUGU SIGN COMBINING CANDRABINDU ABOVEcaCANDRABINDUcaANUSVARAcaVISARGA",
    "caCOMBINING ANUSVARA ABOVEbaLETTER AcaAAcaIcaIIcaUcaUUcaVOCALIC RdaLcaEcaEEcaAIcaOcaOOcaAU",
    "caKAcaKHAcaGAcaGHAcaNGAcaCAcaCHAcaJAcaJHAcaNYAcaTTAcaTTHAcaDDAcaDDHAcaNNAcaTAcaTHAcaDAcaDHA",
    "caNAcaPAcaPHAcaBAcaBHAcaMAcaYAcaRAcaRRAcaLAcaLLAcaLLLAcaVAcaSHAcaSSAcaSAcaHAbaSIGN NUKTA",
    "caAVAGRAHAbaVOWEL SIGN AAdaIdaIIdaUdaUUdaVOCALIC ReaRRdaEdaEEdaAIdaOdaOOdaAUbaSIGN VIRAMA",
    "baLENGTH MARKbcAIbaLETTER TSAcaDZAcaRRRAcaNAKAARA POLLUcaVOCALIC RRdaLLbaVOWEL SIGN VOCALIC L",
    "eaLLbaDIGIT ZEROcaONEcaTWOcaTHREEcaFOURcaFIVEcaSIXcaSEVENcaEIGHTcaNINEbaSIGN SIDDHAM",
    "baFRACTION DIGIT ZERO FOR ODD POWERS OF FOURdfONEdfTWOdfTHREEddONE FOR EVENdfTWOdfTHREE",
    "baSIGN TUUMUaaKANNADA SIGN SPACING CANDRABINDUcbcaANUSVARAcaVISARGAcaSIDDHAMbaLETTER AcaAAcaI",
    "caIIcaUcaUUcaVOCALIC RdaLcaEcaEEcaAIcaOcaOOcaAUcaKAcaKHAcaGAcaGHAcaNGAcaCAcaCHAcaJAcaJHAcaNYA",
    "caTTAcaTTHAcaDDAcaDDHAcaNNAcaTAcaTHAcaDAcaDHAcaNAcaPAcaPHAcaBAcaBHAcaMAcaYAcaRAcaRRAcaLAcaLLA",
    "caVAcaSHAcaSSAcaSAcaHAbaSIGN NUKTAcaAVAGRAHAbaVOWEL SIGN AAdaIdaIIdaUdaUUdaVOCALIC ReaRRdaE",
    "daEEdaAIdaOdaOOdaAUbaSIGN VIRAMAbaLENGTH MARKbcAIbaLETTER NAKAARA POLLUcaFAcaVOCALIC RRdaLL",
    "baVOWEL SIGN VOCALIC LeaLLbaDIGIT ZEROcaONEcaTWOcaTHREEcaFOURcaFIVEcaSIXcaSEVENcaEIGHTcaNINE",
    "baSIGN JIHVAMULIYAcaUPADHMANIYAaaMALAYALAM SIGN COMBINING ANUSVARA ABOVEcaCANDRABINDU",
    "caANUSVARAcaVISARGAbaLETTER VEDIC ANUSVARAcaAcaAAcaIcaIIcaUcaUUcaVOCALIC RdaLcaEcaEEcaAIcaO",
    "caOOcaAUcaKAcaKHAcaGAcaGHAcaNGAcaCAcaCHAcaJAcaJHAcaNYAcaTTAcaTTHAcaDDAcaDDHAcaNNAcaTAcaTHA",
    "caDAcaDHAcaNAcaNNNAcaPAcaPHAcaBAcaBHAcaMAcaYAcaRAcaRRAcaLAcaLLAcaLLLAcaVAcaSHAcaSSAcaSAcaHA",
    "caTTTAbaSIGN VERTICAL BAR VIRAMAcbCIRCULARcaAVAGRAHAbaVOWEL SIGN AAdaIdaIIdaUdaUUdaVOCALIC R",
    "eaRRdaEdaEEdaAIdaOdaOOdaAUbaSIGN VIRAMAbaLETTER DOT REPHbaSIGN PARAbaLETTER CHILLU MdaYdaLLL",
    "baAU LENGTH MARKbaFRACTION ONE ONE-HUNDRED-AND-SIXTIETHdaFORTIETHcaTHREE EIGHTIETHS",
    "caONE TWENTIETHdaTENTHcaTHREE TWENTIETHScaONE FIFTHbaLETTER ARCHAIC IIcaVOCALIC RRdaLL",
    "baVOWEL SIGN VOCALIC LeaLLbaDIGIT ZEROcaONEcaTWOcaTHREEcaFOURcaFIVEcaSIXcaSEVENcaEIGHTcaNINE",
    "baNUMBER TENcaONE HUNDREDdaTHOUSANDbaFRACTION ONE QUARTERdaHALFcaTHREE QUARTERS",
    "caONE SIXTEENTHdaEIGHTHcaTHREE SIXTEENTHSbaDATE MARKbaLETTER CHILLU NNdaNdaRRdaLdaLLdaK",
    "aaSINHALA SIGN CANDRABINDUcaANUSVARAYAcaVISARGAYAbaLETTER AYANNAcaAAYANNAcaAEYANNAcaAEEYANNA",
    "caIYANNAcaIIYANNAcaUYANNAcaUUYANNAcaIRUYANNAcaIRUUYANNAcaILUYANNAcaILUUYANNAcaEYANNAcaEEYANNA",
    "caAIYANNAcaOYANNAcaOOYANNAcaAUYANNAcaALPAPRAANA KAYANNAcbMAHAAPRAANAcaALPAPRAANA GAYANNA",
    "cbMAHAAPRAANAcaKANTAJA NAASIKYAYAcaSANYAKA GAYANNAcaALPAPRAANA CAYANNAcbMAHAAPRAANA",
    "caALPAPRAANA JAYANNAcbMAHAAPRAANAcaTAALUJA NAASIKYAYAdaSANYOOGA NAAKSIKYAYAcaSANYAKA JAYANNA",
    "caALPAPRAANA TTAYANNAcbMAHAAPRAANAcaALPAPRAANA DDAYANNAcbMAHAAPRAANAcaMUURDHAJA NAYANNA",
    "caSANYAKA DDAYANNAcaALPAPRAANA TAYANNAcbMAHAAPRAANAcaALPAPRAANA DAYANNAcbMAHAAPRAANA",
    "caDANTAJA NAYANNAcaSANYAKA DAYANNAcaALPAPRAANA PAYANNAcbMAHAAPRAANAcaALPAPRAANA BAYANNA",
    "cbMAHAAPRAANAcaMAYANNAcaAMBA BAYANNAcaYAYANNAcaRAYANNAcaDANTAJA LAYANNAcaVAYANNA",
    "caTAALUJA SAYANNAcbMUURDHAJAcbDANTAJAcaHAYANNAcaMUURDHAJA LAYANNAcaFAYANNAbaSIGN AL-LAKUNA",
    "baVOWEL SIGN AELA-PILLAdaKETTI AEDA-PILLAdbDIGAdaKETTI IS-PILLAdbDIGAdaKETTI PAA-PILLAdbDIGA",
    "daGAETTA-PILLAdaKOMBUVAdbDIGAdaKOMBU DEKAdaKOMBUVA HAA AELA-PILLAfbDIGAfaGAYANUKITTAdb",
    "baLITH DIGIT ZEROdaONEdaTWOdaTHREEdaFOURdaFIVEdaSIXdaSEVENdaEIGHTdaNINE",
    "baVOWEL SIGN DIGA GAETTA-PILLAeaGAYANUKITTAbaPUNCTUATION KUNDDALIYAaaTHAI CHARACTER KO KAI",
    "caKHO KHAIdaKHUATdaKHWAIdaKHONdaRAKHANGcaNGO NGUcaCHO CHANdaCHINGdaCHANGcaSO SOcaCHO CHOE",
    "caYO YINGcaDO CHADAcaTO PATAKcaTHO THANdaNANGMONTHOdaPHUTHAOcaNO NENcaDO DEKcaTO TAO",
    "caTHO THUNGdaTHAHANdaTHONGcaNO NUcaBO BAIMAIcaPO PLAcaPHO PHUNGcaFO FAcaPHO PHANcaFO FAN",
    "caPHO SAMPHAOcaMO MAcaYO YAKcaRO RUAcaRUcaLO LINGcaLUcaWO WAENcaSO SALAdaRUSIdaSUAcaHO HIP",
    "caLO CHULAcaO ANGcaHO NOKHUKcaPAIYANNOIcaSARA AcaMAI HAN-AKATcaSARA AAdaAMdaIdaIIdaUEdaUEEdaU",
    "daUUcaPHINTHUbaCURRENCY SYMBOL BAHTbaCHARACTER SARA EdaAEdaOdaAI MAIMUANeaMAIMALAI",
    "caLAKKHANGYAOcaMAIYAMOKcaMAITAIKHUcaMAI EKdaTHOdaTRIdaCHATTAWAcaTHANTHAKHATcaNIKHAHIT",
    "caYAMAKKANcaFONGMANbaDIGIT ZEROcaONEcaTWOcaTHREEcaFOURcaFIVEcaSIXcaSEVENcaEIGHTcaNINE",
    "baCHARACTER ANGKHANKHUcaKHOMUTaaLAO LETTER KOcaKHO SUNGdaTAMcaPALI GHAcaNGOcaCOcaPALI CHA",
    "caSO TAMcaPALI JHAcaNYOcaPALI NYAdaTTAdaTTHAdaDDAdaDDHAdaNNAcaDOcaTOcaTHO SUNGdaTAMcaPALI DHA",
    "caNOcaBOcaPOcaPHO SUNGcaFO TAMcbPHOcaFO SUNGcaPALI BHAcaMOcaYOcaLO LINGdaLOOTcaWO",
    "caSANSKRIT SHAdaSSAcaSO SUNGcbHOcaPALI LLAcaOcaHO TAMbaELLIPSISbaVOWEL SIGN AdaMAI KANdaAA",
    "daAMdaIdaIIdaYdaYYdaUdaUUbaSIGN PALI VIRAMAbaVOWEL SIGN MAI KONbaSEMIVOWEL SIGN LOdaNYO",
    "baVOWEL SIGN EdaEIdaOdaAYdaAIbaKO LAbaTONE MAI EKdaTHOdaTIdaCATAWAbaCANCELLATION MARK",
    "baNIGGAHITAbaDIGIT ZEROcaONEcaTWOcaTHREEcaFOURcaFIVEcaSIXcaSEVENcaEIGHTcaNINEbaHO NOcaMO",
    "baLETTER KHMU GOdaNYOaaTIBETAN SYLLABLE OMbaMARK GTER YIG MGO TRUNCATED Afa-UM RNAM BCAD MA",
    "gbGTER TSHEGcbINITIAL YIG MGO MDUNcbCLOSING YIG MGO SGABcbCARET YIG MGO PHUR SHAD",
    "ccYIG MGO TSHEGcaSBRUL SHADcaBSKUR YIG MGOccBKA- SHOGcaINTERSYLLABIC TSHEG",
    "caDELIMITER TSHEG BSTARcaSHADcbNYIScbTSHEGccNYIScbRIN CHEN SPUNGScbRGYA GRAM",
    "caCARET -DZUD RTAGS ME LONG CANcaGTER TSHEGbaLOGOTYPE SIGN CHAD RTAGSdbLHAG",
    "bbASTROLOGICAL SIGN SGRA GCAN -CHARda-KHYUD PAdaSDONG TSHUGSbaSIGN RDEL DKAR GCIGeaGNYIS",
    "eaGSUMdaNAG GCIGeaGNYISdaDKAR RDEL NAGbaDIGIT ZEROcaONEcaTWOcaTHREEcaFOURcaFIVEcaSIXcaSEVEN",
    "caEIGHTcaNINEcaHALF ONEdaTWOdaTHREEdaFOURdaFIVEdaSIXdaSEVENdaEIGHTdaNINEdaZERO",
    "baMARK BSDUS RTAGScaNGAS BZUNG NYI ZLAcaCARET -DZUD RTAGS BZHI MIG CANcaNGAS BZUNG SGOR RTAGS",
    "caCHE MGOcaTSA -PHRUcaGUG RTAGS GYONeaGYAScaANG KHANG GYONeaGYASbaSIGN YAR TSHEScbMAR",
    "baLETTER KAcaKHAcaGAcaGHAcaNGAcaCAcaCHAcaJAcaNYAcaTTAcaTTHAcaDDAcaDDHAcaNNAcaTAcaTHAcaDAcaDHA",
    "caNAcaPAcaPHAcaBAcaBHAcaMAcaTSAcaTSHAcaDZAcaDZHAcaWAcaZHAcaZAca-AcaYAcaRAcaLAcaSHAcaSSAcaSA",
    "caHAcaAcaKSSAcaFIXED-FORM RAcaKKAcaRRAbaVOWEL SIGN AAdaIdaIIdaUdaUUdaVOCALIC ReaRReaLeaLLdaE",
    "daEEdaOdaOObaSIGN RJES SU NGA ROcaRNAM BCADbaVOWEL SIGN REVERSED IeaIIbaSIGN NYI ZLA NAA DA",
    "caSNA LDANbaMARK HALANTAcaPALUTAbaSIGN LCI RTAGScbYANGcaLCE TSA CANcbMCHUcaGRU CAN RGYINGS",
    "dbMEDcaINVERTED MCHU CANbbSUBJOINED SIGN LCE TSAdbMCHUdcINVERTEDcaLETTER KAdaKHAdaGAdaGHA",
    "daNGAdaCAdaCHAdaJAdaNYAdaTTAdaTTHAdaDDAdaDDHAdaNNAdaTAdaTHAdaDAdaDHAdaNAdaPAdaPHAdaBAdaBHA",
    "daMAdaTSAdaTSHAdaDZAdaDZHAdaWAdaZHAdaZAda-AdaYAdaRAdaLAdaSHAdaSSAdaSAdaHAdaAdaKSSA",
    "daFIXED-FORM WAeaYAeaRAbaKU RU KHAeaBZHI MIG CANbaCANTILLATION SIGN HEAVY BEATdbLIGHT",
    "daCANG TE-UdaSBUB -CHALbaSYMBOL DRIL BUcaRDO RJEcaPADMA GDANcaRDO RJE RGYA GRAMcaPHUR PA",
    "caNOR BUeaNYIS -KHYILebGSUMebBZHIbaSIGN RDEL NAG RDEL DKAReaGSUM",
    "baMARK BSKA- SHOG GI MGO RGYANcdMNYAM YIGcaNYIS TSHEGcaINITIAL BRDA RNYING YIG MGO MDUN MA",
    "cbCLOSING BRDA RNYING YIG MGO SGABaaRIGHT-FACING SVASTI SIGNacLEFT-FACING",
    "aaRIGHT-FACING SVASTI SIGN WITH DOTSaeLEFT-FACINGaaTIBETAN MARK LEADING MCHAN RTAGSccTRAILING",
    "aaMYANMAR LETTER KAcaKHAcaGAcaGHAcaNGAcaCAcaCHAcaJAcaJHAcaNYAcaNNYAcaTTAcaTTHAcaDDAcaDDHA",
    "caNNAcaTAcaTHAcaDAcaDHAcaNAcaPAcaPHAcaBAcaBHAcaMAcaYAcaRAcaLAcaWAcaSAcaHAcaLLAcaAcbSHANcaI",
    "caIIcaUcaUUcaEcbMONcaOcaAUbaVOWEL SIGN TALL AAdbdaIdaIIdaUdaUUdaEdaAIdaMON IIeaOdaE ABOVE",
    "baSIGN ANUSVARAcaDOT BELOWcaVISARGAcaVIRAMAcaASATbaCONSONANT SIGN MEDIAL YAeaRAeaWAeaHA",
    "baLETTER GREAT SAbaDIGIT ZEROcaONEcaTWOcaTHREEcaFOURcaFIVEcaSIXcaSEVENcaEIGHTcaNINE",
    "baSIGN LITTLE SECTIONcbbaSYMBOL LOCATIVEcaCOMPLETEDcaAFOREMENTIONEDcaGENITIVEbaLETTER SHA",
    "caSSAcaVOCALIC RdaRRdaLdaLLbaVOWEL SIGN VOCALIC ReaRReaLeaLLbaLETTER MON NGAdaJHAdaBBAdaBBE",
    "baCONSONANT SIGN MON MEDIAL NAfaMAfaLAbaLETTER SGAW KAREN SHAbaVOWEL SIGN SGAW KAREN EU",
    "baTONE MARK SGAW KAREN HATHIfaKE PHObaLETTER WESTERN PWO KAREN THAfaPWA",
    "baVOWEL SIGN WESTERN PWO KAREN EUgaUEbaSIGN WESTERN PWO KAREN TONE-1faTONE-2faTONE-3faTONE-4",
    "faTONE-5baLETTER EASTERN PWO KAREN NNAfaYWAfaGHWAbaVOWEL SIGN GEBA KAREN IdaKAYAH OEeaUeaEE",
    "baLETTER SHAN KAdaKHAdaGAdaCAdaZAdaNYAdaDAdaNAdaPHAdaFAdaBAdaTHAdaHA",
    "baCONSONANT SIGN SHAN MEDIAL WAbaVOWEL SIGN SHAN AAeaEfaABOVEeaFINAL YbaSIGN SHAN TONE-2",
    "daTONE-3daTONE-5daTONE-6daCOUNCIL TONE-2eaTONE-3eaEMPHATIC TONEbaLETTER RUMAI PALAUNG FA",
    "baSIGN RUMAI PALAUNG TONE-5baSHAN DIGIT ZEROdaONEdaTWOdaTHREEdaFOURdaFIVEdaSIXdaSEVENdaEIGHT",
    "daNINEbaSIGN KHAMTI TONE-1daTONE-3baVOWEL SIGN AITON AeaAIbaSYMBOL SHAN ONEdaEXCLAMATION",
    "aaGEORGIAN CAPITAL LETTER ANdaBANdaGANdaDONdaENdaVINdaZENdaTANdaINdaKANdaLASdaMANdaNARdaON",
    "daPARdaZHARdaRAEdaSANdaTARdaUNdaPHARdaKHARdaGHANdaQARdaSHINdaCHINdaCANdaJILdaCILdaCHARdaXAN",
    "daJHANdaHAEdaHEdaHIEdaWEdaHARdaHOEdaYNdaAENbaLETTER ANcaBANcaGANcaDONcaENcaVINcaZENcaTANcaIN",
    "caKANcaLAScaMANcaNARcaONcaPARcaZHARcaRAEcaSANcaTARcaUNcaPHARcaKHARcaGHANcaQARcaSHINcaCHIN",
    "caCANcaJILcaCILcaCHARcaXANcaJHANcaHAEcaHEcaHIEcaWEcaHARcaHOEcaFIcaYNcaELIFIcaTURNED GANcaAIN",
    "baPARAGRAPH SEPARATORaaMODIFIER LETTER GEORGIAN NARaaGEORGIAN LETTER AENcaHARD SIGNcbLABIAL",
    "aaHANGUL CHOSEONG KIYEOKcaSSANGKIYEOKcaNIEUNcaTIKEUTcaSSANGTIKEUTcaRIEULcaMIEUMcaPIEUP",
    "caSSANGPIEUPcaSIOScaSSANGSIOScaIEUNGcaCIEUCcaSSANGCIEUCcaCHIEUCHcaKHIEUKHcaTHIEUTHcaPHIEUPH",
    "caHIEUHcaNIEUN-KIYEOKcaSSANGNIEUNcaNIEUN-TIKEUTcaNIEUN-PIEUPcaTIKEUT-KIYEOKcaRIEUL-NIEUN",
    "caSSANGRIEULcaRIEUL-HIEUHcaKAPYEOUNRIEULcaMIEUM-PIEUPcaKAPYEOUNMIEUMcaPIEUP-KIYEOK",
    "caPIEUP-NIEUNcaPIEUP-TIKEUTcaPIEUP-SIOScaPIEUP-SIOS-KIYEOKcaPIEUP-SIOS-TIKEUT",
    "caPIEUP-SIOS-PIEUPcaPIEUP-SSANGSIOScaPIEUP-SIOS-CIEUCcaPIEUP-CIEUCcaPIEUP-CHIEUCH",
    "caPIEUP-THIEUTHcaPIEUP-PHIEUPHcaKAPYEOUNPIEUPcaKAPYEOUNSSANGPIEUPcaSIOS-KIYEOKcaSIOS-NIEUN",
    "caSIOS-TIKEUTcaSIOS-RIEULcaSIOS-MIEUMcaSIOS-PIEUPcaSIOS-PIEUP-KIYEOKcaSIOS-SSANGSIOS",
    "caSIOS-IEUNGcaSIOS-CIEUCcaSIOS-CHIEUCHcaSIOS-KHIEUKHcaSIOS-THIEUTHcaSIOS-PHIEUPHcaSIOS-HIEUH",
    "caCHITUEUMSIOScaCHITUEUMSSANGSIOScaCEONGCHIEUMSIOScaCEONGCHIEUMSSANGSIOScaPANSIOS",
    "caIEUNG-KIYEOKcaIEUNG-TIKEUTcaIEUNG-MIEUMcaIEUNG-PIEUPcaIEUNG-SIOScaIEUNG-PANSIOScaSSANGIEUNG",
    "caIEUNG-CIEUCcaIEUNG-CHIEUCHcaIEUNG-THIEUTHcaIEUNG-PHIEUPHcaYESIEUNGcaCIEUC-IEUNG",
    "caCHITUEUMCIEUCcaCHITUEUMSSANGCIEUCcaCEONGCHIEUMCIEUCcaCEONGCHIEUMSSANGCIEUCcaCHIEUCH-KHIEUKH",
    "caCHIEUCH-HIEUHcaCHITUEUMCHIEUCHcaCEONGCHIEUMCHIEUCHcaPHIEUPH-PIEUPcaKAPYEOUNPHIEUPH",
    "caSSANGHIEUHcaYEORINHIEUHcaKIYEOK-TIKEUTcaNIEUN-SIOScaNIEUN-CIEUCcaNIEUN-HIEUHcaTIKEUT-RIEUL",
    "caFILLERbbJUNGSEONGcaAcaAEcaYAcaYAEcaEOcaEcaYEOcaYEcaOcaWAcaWAEcaOEcaYOcaUcaWEOcaWEcaWIcaYU",
    "caEUcaYIcaIcaA-OcaA-UcaYA-OcaYA-YOcaEO-OcaEO-UcaEO-EUcaYEO-OcaYEO-UcaO-EOcaO-EcaO-YEcaO-O",
    "caO-UcaYO-YAcaYO-YAEcaYO-YEOcaYO-OcaYO-IcaU-AcaU-AEcaU-EO-EUcaU-YEcaU-UcaYU-AcaYU-EOcaYU-E",
    "caYU-YEOcaYU-YEcaYU-UcaYU-IcaEU-UcaEU-EUcaYI-UcaI-AcaI-YAcaI-OcaI-UcaI-EUcaI-ARAEAcaARAEA",
    "caARAEA-EOcaARAEA-UcaARAEA-IcaSSANGARAEAcaA-EUcaYA-UcaYEO-YAcaO-YAcaO-YAEbaJONGSEONG KIYEOK",
    "caSSANGKIYEOKcaKIYEOK-SIOScaNIEUNcaNIEUN-CIEUCcaNIEUN-HIEUHcaTIKEUTcaRIEULcaRIEUL-KIYEOK",
    "caRIEUL-MIEUMcaRIEUL-PIEUPcaRIEUL-SIOScaRIEUL-THIEUTHcaRIEUL-PHIEUPHcaRIEUL-HIEUHcaMIEUM",
    "caPIEUPcaPIEUP-SIOScaSIOScaSSANGSIOScaIEUNGcaCIEUCcaCHIEUCHcaKHIEUKHcaTHIEUTHcaPHIEUPHcaHIEUH",
    "caKIYEOK-RIEULcaKIYEOK-SIOS-KIYEOKcaNIEUN-KIYEOKcaNIEUN-TIKEUTcaNIEUN-SIOScaNIEUN-PANSIOS",
    "caNIEUN-THIEUTHcaTIKEUT-KIYEOKcaTIKEUT-RIEULcaRIEUL-KIYEOK-SIOScaRIEUL-NIEUNcaRIEUL-TIKEUT",
    "caRIEUL-TIKEUT-HIEUHcaSSANGRIEULcaRIEUL-MIEUM-KIYEOKcaRIEUL-MIEUM-SIOScaRIEUL-PIEUP-SIOS",
    "caRIEUL-PIEUP-HIEUHcaRIEUL-KAPYEOUNPIEUPcaRIEUL-SSANGSIOScaRIEUL-PANSIOScaRIEUL-KHIEUKH",
    "caRIEUL-YEORINHIEUHcaMIEUM-KIYEOKcaMIEUM-RIEULcaMIEUM-PIEUPcaMIEUM-SIOScaMIEUM-SSANGSIOS",
    "caMIEUM-PANSIOScaMIEUM-CHIEUCHcaMIEUM-HIEUHcaKAPYEOUNMIEUMcaPIEUP-RIEULcaPIEUP-PHIEUPH",
    "caPIEUP-HIEUHcaKAPYEOUNPIEUPcaSIOS-KIYEOKcaSIOS-TIKEUTcaSIOS-RIEULcaSIOS-PIEUPcaPANSIOS",
    "caIEUNG-KIYEOKcaIEUNG-SSANGKIYEOKcaSSANGIEUNGcaIEUNG-KHIEUKHcaYESIEUNGcaYESIEUNG-SIOS",
    "caYESIEUNG-PANSIOScaPHIEUPH-PIEUPcaKAPYEOUNPHIEUPHcaHIEUH-NIEUNcaHIEUH-RIEULcaHIEUH-MIEUM",
    "caHIEUH-PIEUPcaYEORINHIEUHcaKIYEOK-NIEUNcaKIYEOK-PIEUPcaKIYEOK-CHIEUCHcaKIYEOK-KHIEUKH",
    "caKIYEOK-HIEUHcaSSANGNIEUNaaETHIOPIC SYLLABLE HAcaHUcaHIcaHAAcaHEEcaHEcaHOcaHOAcaLAcaLUcaLI",
    "caLAAcaLEEcaLEcaLOcaLWAcaHHAcaHHUcaHHIcaHHAAcaHHEEcaHHEcaHHOcaHHWAcaMAcaMUcaMIcaMAAcaMEEcaME",
    "caMOcaMWAcaSZAcaSZUcaSZIcaSZAAcaSZEEcaSZEcaSZOcaSZWAcaRAcaRUcaRIcaRAAcaREEcaREcaROcaRWAcaSA",
    "caSUcaSIcaSAAcaSEEcaSEcaSOcaSWAcaSHAcaSHUcaSHIcaSHAAcaSHEEcaSHEcaSHOcaSHWAcaQAcaQUcaQIcaQAA",
    "caQEEcaQEcaQOcaQOAcaQWAcaQWIcaQWAAcaQWEEcaQWEcaQHAcaQHUcaQHIcaQHAAcaQHEEcaQHEcaQHOcaQHWA",
    "caQHWIcaQHWAAcaQHWEEcaQHWEcaBAcaBUcaBIcaBAAcaBEEcaBEcaBOcaBWAcaVAcaVUcaVIcaVAAcaVEEcaVEcaVO",
    "caVWAcaTAcaTUcaTIcaTAAcaTEEcaTEcaTOcaTWAcaCAcaCUcaCIcaCAAcaCEEcaCEcaCOcaCWAcaXAcaXUcaXIcaXAA",
    "caXEEcaXEcaXOcaXOAcaXWAcaXWIcaXWAAcaXWEEcaXWEcaNAcaNUcaNIcaNAAcaNEEcaNEcaNOcaNWAcaNYAcaNYU",
    "caNYIcaNYAAcaNYEEcaNYEcaNYOcaNYWAcaGLOTTAL AdaUdaIdaAAdaEEdaEdaOdaWAcaKAcaKUcaKIcaKAAcaKEE",
    "caKEcaKOcaKOAcaKWAcaKWIcaKWAAcaKWEEcaKWEcaKXAcaKXUcaKXIcaKXAAcaKXEEcaKXEcaKXOcaKXWAcaKXWI",
    "caKXWAAcaKXWEEcaKXWEcaWAcaWUcaWIcaWAAcaWEEcaWEcaWOcaWOAcaPHARYNGEAL AdaUdaIdaAAdaEEdaEdaOcaZA",
    "caZUcaZIcaZAAcaZEEcaZEcaZOcaZWAcaZHAcaZHUcaZHIcaZHAAcaZHEEcaZHEcaZHOcaZHWAcaYAcaYUcaYIcaYAA",
    "caYEEcaYEcaYOcaYOAcaDAcaDUcaDIcaDAAcaDEEcaDEcaDOcaDWAcaDDAcaDDUcaDDIcaDDAAcaDDEEcaDDEcaDDO",
    "caDDWAcaJAcaJUcaJIcaJAAcaJEEcaJEcaJOcaJWAcaGAcaGUcaGIcaGAAcaGEEcaGEcaGOcaGOAcaGWAcaGWIcaGWAA",
    "caGWEEcaGWEcaGGAcaGGUcaGGIcaGGAAcaGGEEcaGGEcaGGOcaGGWAAcaTHAcaTHUcaTHIcaTHAAcaTHEEcaTHEcaTHO",
    "caTHWAcaCHAcaCHUcaCHIcaCHAAcaCHEEcaCHEcaCHOcaCHWAcaPHAcaPHUcaPHIcaPHAAcaPHEEcaPHEcaPHOcaPHWA",
    "caTSAcaTSUcaTSIcaTSAAcaTSEEcaTSEcaTSOcaTSWAcaTZAcaTZUcaTZIcaTZAAcaTZEEcaTZEcaTZOcaTZOAcaFA",
    "caFUcaFIcaFAAcaFEEcaFEcaFOcaFWAcaPAcaPUcaPIcaPAAcaPEEcaPEcaPOcaPWAcaRYAcaMYAcaFYA",
    "baCOMBINING GEMINATION AND VOWEL LENGTH MARKcdcbGEMINATIONbbSECTIONbaWORDSPACEbaFULL STOP",
    "baCOMMAbaSEMICOLONbaCOLONbbPREFACEbaQUESTION MARKbaPARAGRAPH SEPARATORbaDIGIT ONEcaTWOcaTHREE",
    "caFOURcaFIVEcaSIXcaSEVENcaEIGHTcaNINEbaNUMBER TENcaTWENTYcaTHIRTYcaFORTYcaFIFTYcaSIXTY",
    "caSEVENTYcaEIGHTYcaNINETYcaHUNDREDcaTEN THOUSANDbaSYLLABLE SEBATBEIT MWAcaMWIcaMWEEcaMWE",
    "caSEBATBEIT BWAcaBWIcaBWEEcaBWEcaSEBATBEIT FWAcaFWIcaFWEEcaFWEcaSEBATBEIT PWAcaPWIcaPWEEcaPWE",
    "baTONAL MARK YIZETdaDERETdaRIKRIKdbSHORTdaDIFATdaKENATdaCHIRETdaHIDETdaDERET-HIDETdaKURT",
    "aaCHEROKEE LETTER AcaEcaIcaOcaUcaVcaGAcaKAcaGEcaGIcaGOcaGUcaGVcaHAcaHEcaHIcaHOcaHUcaHVcaLA",
    "caLEcaLIcaLOcaLUcaLVcaMAcaMEcaMIcaMOcaMUcaNAcaHNAcaNAHcaNEcaNIcaNOcaNUcaNVcaQUAcaQUEcaQUI",
    "caQUOcaQUUcaQUVcaSAcaScaSEcaSIcaSOcaSUcaSVcaDAcaTAcaDEcaTEcaDIcaTIcaDOcaDUcaDVcaDLAcaTLAcaTLE",
    "caTLIcaTLOcaTLUcaTLVcaTSAcaTSEcaTSIcaTSOcaTSUcaTSVcaWAcaWEcaWIcaWOcaWUcaWVcaYAcaYEcaYIcaYO",
    "caYUcaYVcaMVbaSMALL LETTER YEdaYIdaYOdaYUdaYVdaMVaaCANADIAN SYLLABICS HYPHENcaEcaAAIcaIcaII",
    "caOcaOOcbY-CREEcaCARRIER EEdaIcaAcaAAcaWEcbWEST-CREEcaWIcbWEST-CREEcaWIIcbWEST-CREEcaWO",
    "cbWEST-CREEcaWOOcbWEST-CREEcbNASKAPIcaWAcbWEST-CREEcaWAAcbWEST-CREEcbNASKAPIcaAIcaY-CREE W",
    "caGLOTTAL STOPcaFINAL ACUTEdaGRAVEdaBOTTOM HALF RINGdcTOPdcRIGHTdbdaDOUBLE ACUTE",
    "eaSHORT VERTICAL STROKESdaMIDDLE DOTdaSHORT HORIZONTAL STROKEdaPLUSdaDOWN TACKcaENcaINcaON",
    "caANcaPEcaPAAIcaPIcaPIIcaPOcaPOOcbY-CREEcaCARRIER HEEdaHIcaPAcaPAAcaPWEcbWEST-CREEcaPWI",
    "cbWEST-CREEcaPWIIcbWEST-CREEcaPWOcbWEST-CREEcaPWOOcbWEST-CREEcaPWAcbWEST-CREEcaPWAA",
    "cbWEST-CREEcbY-CREEcaPcbWEST-CREEcaCARRIER HcaTEcaTAAIcaTIcaTIIcaTOcaTOOcbY-CREEcaCARRIER DEE",
    "daDIcaTAcaTAAcaTWEcbWEST-CREEcaTWIcbWEST-CREEcaTWIIcbWEST-CREEcaTWOcbWEST-CREEcaTWOO",
    "cbWEST-CREEcaTWAcbWEST-CREEcaTWAAcbWEST-CREEcbNASKAPIcaTcaTTEcaTTIcaTTOcaTTAcaKEcaKAAIcaKI",
    "caKIIcaKOcaKOOcbY-CREEcaKAcaKAAcaKWEcbWEST-CREEcaKWIcbWEST-CREEcaKWIIcbWEST-CREEcaKWO",
    "cbWEST-CREEcaKWOOcbWEST-CREEcaKWAcbWEST-CREEcaKWAAcbWEST-CREEcbNASKAPIcaKcaKW",
    "caSOUTH-SLAVEY KEHdaKIHdaKOHdaKAHcaCEcaCAAIcaCIcaCIIcaCOcaCOOcbY-CREEcaCAcaCAAcaCWE",
    "cbWEST-CREEcaCWIcbWEST-CREEcaCWIIcbWEST-CREEcaCWOcbWEST-CREEcaCWOOcbWEST-CREEcaCWAcbWEST-CREE",
    "caCWAAcbWEST-CREEcbNASKAPIcaCcaSAYISI THcaMEcaMAAIcaMIcaMIIcaMOcaMOOcbY-CREEcaMAcaMAAcaMWE",
    "cbWEST-CREEcaMWIcbWEST-CREEcaMWIIcbWEST-CREEcaMWOcbWEST-CREEcaMWOOcbWEST-CREEcaMWAcbWEST-CREE",
    "caMWAAcbWEST-CREEcbNASKAPIcaMcbWEST-CREEcaMHcaATHAPASCAN McbSAYISIcaNEcaNAAIcaNIcaNIIcaNO",
    "caNOOcbY-CREEcaNAcaNAAcaNWEcbWEST-CREEcaNWAcbWEST-CREEcaNWAAcbWEST-CREEcbNASKAPIcaN",
    "caCARRIER NGcaNHcaLEcaLAAIcaLIcaLIIcaLOcaLOOcbY-CREEcaLAcaLAAcaLWEcbWEST-CREEcaLWIcbWEST-CREE",
    "caLWIIcbWEST-CREEcaLWOcbWEST-CREEcaLWOOcbWEST-CREEcaLWAcbWEST-CREEcaLWAAcbWEST-CREEcaL",
    "cbWEST-CREEcbMEDIALcaSEcaSAAIcaSIcaSIIcaSOcaSOOcbY-CREEcaSAcaSAAcaSWEcbWEST-CREEcaSWI",
    "cbWEST-CREEcaSWIIcbWEST-CREEcaSWOcbWEST-CREEcaSWOOcbWEST-CREEcaSWAcbWEST-CREEcaSWAA",
    "cbWEST-CREEcbNASKAPIcaScbATHAPASCANcaSWcaBLACKFOOT ScaMOOSE-CREE SKcaNASKAPI SKWdaS-WdaSPWA",
    "daSTWAdaSKWAdaSCWAcaSHEcaSHIcaSHIIcaSHOcaSHOOcaSHAcaSHAAcaSHWEcbWEST-CREEcaSHWIcbWEST-CREE",
    "caSHWIIcbWEST-CREEcaSHWOcbWEST-CREEcaSHWOOcbWEST-CREEcaSHWAcbWEST-CREEcaSHWAAcbWEST-CREEcaSH",
    "caYEcaYAAIcaYIcaYIIcaYOcaYOOcbY-CREEcaYAcaYAAcaYWEcbWEST-CREEcaYWIcbWEST-CREEcaYWII",
    "cbWEST-CREEcaYWOcbWEST-CREEcaYWOOcbWEST-CREEcaYWAcbWEST-CREEcaYWAAcbWEST-CREEcbNASKAPIcaY",
    "cbBIBLE-CREEcbWEST-CREEcaSAYISI YIcaREcbR-CREEcaWEST-CREE LEcaRAAIcaRIcaRIIcaROcaROO",
    "caWEST-CREE LOcaRAcaRAAcaWEST-CREE LAcaRWAAcbWEST-CREEcaRcbWEST-CREEcbMEDIALcaFEcaFAAIcaFI",
    "caFIIcaFOcaFOOcaFAcaFAAcaFWAAcbWEST-CREEcaFcaTHEcbN-CREEcaTHIcbN-CREEcaTHIIcbN-CREEcaTHO",
    "caTHOOcaTHAcaTHAAcaTHWAAcbWEST-CREEcaTHcaTTHEcaTTHIcaTTHOcaTTHAcaTTHcaTYEcaTYIcaTYOcaTYA",
    "caNUNAVIK HEdaHIdaHIIdaHOdaHOOdaHAdaHAAdaHcbNUNAVUTcaHKcaQAAIcaQIcaQIIcaQOcaQOOcaQAcaQAAcaQ",
    "caTLHEcaTLHIcaTLHOcaTLHAcaWEST-CREE REdaRIdaROdaRAcaNGAAIcaNGIcaNGIIcaNGOcaNGOOcaNGAcaNGAA",
    "caNGcaNNGcaSAYISI SHEdaSHIdaSHOdaSHAcaWOODS-CREE THEdaTHIdaTHOdaTHAdaTHcaLHIcaLHIIcaLHOcaLHOO",
    "caLHAcaLHAAcaLHcaTH-CREE THEdaTHIdaTHIIdaTHOdaTHOOdaTHAdaTHAAdaTHcaAIVILIK BcaBLACKFOOT EdaI",
    "daOdaAdaWEdaWIdaWOdaWAdaNEdaNIdaNOdaNAdaKEdaKIdaKOdaKAcaSAYISI HEdaHIdaHOdaHAcaCARRIER GHU",
    "daGHOdaGHEdaGHEEdaGHIdaGHAdaRUdaROdaREdaREEdaRIdaRAdaWUdaWOdaWEdaWEEdaWIdaWAdaHWUdaHWOdaHWE",
    "daHWEEdaHWIdaHWAdaTHUdaTHOdaTHEdaTHEEdaTHIdaTHAdaTTUdaTTOdaTTEdaTTEEdaTTIdaTTAdaPUdaPOdaPE",
    "daPEEdaPIdaPAdaPdaGUdaGOdaGEdaGEEdaGIdaGAdaKHUdaKHOdaKHEdaKHEEdaKHIdaKHAdaKKUdaKKOdaKKEdaKKEE",
    "daKKIdaKKAdaKKdaNUdaNOdaNEdaNEEdaNIdaNAdaMUdaMOdaMEdaMEEdaMIdaMAdaYUdaYOdaYEdaYEEdaYIdaYAdaJU",
    "cbSAYISIcaCARRIER JOdaJEdaJEEdaJIcbSAYISIcaCARRIER JAdaJJUdaJJOdaJJEdaJJEEdaJJIdaJJAdaLUdaLO",
    "daLEdaLEEdaLIdaLAdaDLUdaDLOdaDLEdaDLEEdaDLIdaDLAdaLHUdaLHOdaLHEdaLHEEdaLHIdaLHAdaTLHUdaTLHO",
    "daTLHEdaTLHEEdaTLHIdaTLHAdaTLUdaTLOdaTLEdaTLEEdaTLIdaTLAdaZUdaZOdaZEdaZEEdaZIdaZAdaZdbINITIAL",
    "daDZUdaDZOdaDZEdaDZEEdaDZIdaDZAdaSUdaSOdaSEdaSEEdaSIdaSAdaSHUdaSHOdaSHEdaSHEEdaSHIdaSHAdaSH",
    "daTSUdaTSOdaTSEdaTSEEdaTSIdaTSAdaCHUdaCHOdaCHEdaCHEEdaCHIdaCHAdaTTSUdaTTSOdaTTSEdaTTSEEdaTTSI",
    "daTTSAcaCHI SIGNcaFULL STOPcaQAIcaNGAIcaNNGIcaNNGIIcaNNGOcaNNGOOcaNNGAcaNNGAA",
    "caWOODS-CREE THWEEdaTHWIdaTHWIIdaTHWOdaTHWOOdaTHWAdaTHWAAdaFINAL THcaBLACKFOOT W",
    "aaOGHAM SPACE MARKbaLETTER BEITHcaLUIScaFEARNcaSAILcaNIONcaUATHcaDAIRcaTINNEcaCOLLcaCEIRT",
    "caMUINcaGORTcaNGEADALcaSTRAIFcaRUIScaAILMcaONNcaURcaEADHADHcaIODHADHcaEABHADHcaORcaUILLEANN",
    "caIFINcaEAMHANCHOLLcaPEITHbaFEATHER MARKbcREVERSEDaaRUNIC LETTER FEHU FEOH FE FcaVcaURUZ UR U",
    "caYRcaYcaWcaTHURISAZ THURS THORNcaETHcaANSUZ AcaOS OcaAC AcaAESCcaLONG-BRANCH-OSS O",
    "cbSHORT-TWIG-OSScbcaOEcaONcaRAIDO RAD REID RcaKAUNAcaCENcaKAUN KcaGcaENGcaGEBO GYFU GcaGAR",
    "caWUNJO WYNN WcaHAGLAZ HcbHAEGLcbLONG-BRANCH-HAGALLcbSHORT-TWIG-HAGALLcaNAUDIZ NYD NAUD N",
    "cbSHORT-TWIG-NAUDcaDOTTED-NcaISAZ IS ISS IcaEcaJERAN JcaGERcaLONG-BRANCH-AR AE",
    "caSHORT-TWIG-AR AcaIWAZ EOHcaPERTHO PEORTH PcaALGIZ EOLHXcaSOWILO ScbSIGEL LONG-BRANCH-SOL",
    "cbSHORT-TWIG-SOLcaCcaZcaTIWAZ TIR TYR TcbSHORT-TWIG-TYRcaDcaBERKANAN BEORC BJARKAN B",
    "cbSHORT-TWIG-BJARKANcaDOTTED-PcaOPEN-PcaEHWAZ EH EcaMANNAZ MAN McbLONG-BRANCH-MADR",
    "cbSHORT-TWIG-MADRcaLAUKAZ LAGU LOGR LcaDOTTED-LcaINGWAZcaINGcaDAGAZ DAEG DcaOTHALAN ETHEL O",
    "caEARcaIORcaCWEORTHcaCALCcaCEALCcaSTANcaLONG-BRANCH-YRcaSHORT-TWIG-YRcaICELANDIC-YRcaQcaX",
    "baSINGLE PUNCTUATIONbbMULTIPLEbbCROSSbaARLAUG SYMBOLbbTVIMADURbbBELGTHORbaLETTER KcaSHcaOO",
    "caFRANKS CASKET OSeaISeaEHeaACeaAESCaaTAGALOG LETTER AcaIcaUcaKAcaGAcaNGAcaTAcaDAcaNAcaPAcaBA",
    "caMAcaYAcaRAcaLAcaWAcaSAcaHAbaVOWEL SIGN IdaUbaSIGN VIRAMAcaPAMUDPODbaLETTER ARCHAIC RA",
    "aaHANUNOO LETTER AcaIcaUcaKAcaGAcaNGAcaTAcaDAcaNAcaPAcaBAcaMAcaYAcaRAcaLAcaWAcaSAcaHA",
    "baVOWEL SIGN IdaUbaSIGN PAMUDPODaaPHILIPPINE SINGLE PUNCTUATIONbbDOUBLEaaBUHID LETTER AcaIcaU",
    "caKAcaGAcaNGAcaTAcaDAcaNAcaPAcaBAcaMAcaYAcaRAcaLAcaWAcaSAcaHAbaVOWEL SIGN IdaU",
    "aaTAGBANWA LETTER AcaIcaUcaKAcaGAcaNGAcaTAcaDAcaNAcaPAcaBAcaMAcaYAcaLAcaWAcaSAbaVOWEL SIGN I",
    "daUaaKHMER LETTER KAcaKHAcaKOcaKHOcaNGOcaCAcaCHAcaCOcaCHOcaNYOcaDAcaTTHAcaDOcaTTHOcaNNOcaTA",
    "caTHAcaTOcaTHOcaNOcaBAcaPHAcaPOcaPHOcaMOcaYOcaROcaLOcaVOcaSHAcaSSOcaSAcaHAcaLAcaQA",
    "baINDEPENDENT VOWEL QAQdaQAAdaQIdaQIIdaQUdaQUKdaQUUdaQUUVdaRYdaRYYdaLYdaLYYdaQEdaQAI",
    "daQOO TYPE ONEfaTWOdaQAUbaVOWEL INHERENT AQdaAAcbSIGNdaIdaIIdaYdaYYdaUdaUUdaUAdaOEdaYAdaIEdaE",
    "daAEdaAIdaOOdaAUbaSIGN NIKAHITcaREAHMUKcaYUUKALEAPINTUcaMUUSIKATOANcaTRIISAPcaBANTOCcaROBAT",
    "caTOANDAKHIATcaKAKABATcaAHSDAcaSAMYOK SANNYAcaVIRIAMcaCOENGcaBATHAMASATcaKHANcaBARIYOOSAN",
    "caCAMNUC PII KUUHcaLEK TOOcaBEYYALcaPHNAEK MUANcaKOOMUUTbaCURRENCY SYMBOL RIEL",
    "baSIGN AVAKRAHASANYAcaATTHACANbaDIGIT ZEROcaONEcaTWOcaTHREEcaFOURcaFIVEcaSIXcaSEVENcaEIGHT",
    "caNINEbaSYMBOL LEK ATTAK SONeaMUOYeaPIIeaBEIeaBUONeaPRAMeaPRAM-MUOYeaPRAM-PIIeaPRAM-BEI",
    "eaPRAM-BUONaaMONGOLIAN BIRGAbaELLIPSISbaCOMMAbaFULL STOPbaCOLONbaFOUR DOTSbaTODO SOFT HYPHEN",
    "baSIBE SYLLABLE BOUNDARY MARKERbaMANCHU COMMAcaFULL STOPbaNIRUGUbaFREE VARIATION SELECTOR ONE",
    "eaTWOeaTHREEbaVOWEL SEPARATORbaFREE VARIATION SELECTOR FOURbaDIGIT ZEROcaONEcaTWOcaTHREE",
    "caFOURcaFIVEcaSIXcaSEVENcaEIGHTcaNINEbaLETTER AcaEcaIcaOcaUcaOEcaUEcaEEcaNAcaANGcaBAcaPAcaQA",
    "caGAcaMAcaLAcaSAcaSHAcaTAcaDAcaCHAcaJAcaYAcaRAcaWAcaFAcaKAcaKHAcaTSAcaZAcaHAAcaZRAcaLHAcaZHI",
    "caCHIcaTODO LONG VOWEL SIGNdaEdaIdaOdaUdaOEdaUEdaANGdaBAdaPAdaQAdaGAdaMAdaTAdaDAdaCHAdaJA",
    "daTSAdaYAdaWAdaKAdaGAAdaHAAdaJIAdaNIAdaDZAcaSIBE EdaIdaIYdaUEdaUdaANGdaKAdaGAdaHAdaPAdaSHA",
    "daTAdaDAdaJAdaFAdaGAAdaHAAdaTSAdaZAdaRAAdaCHAdaZHAcaMANCHU IdaKAdaRAdaFAdaZHA",
    "caCHA WITH TWO DOTScaALI GALI ANUSVARA ONEebVISARGAeaDAMARUeaUBADAMAebINVERTEDeaBALUDAebTHREE",
    "eaAeaIeaKAeaNGAeaCAeaTTAeaTTHAeaDDAeaNNAeaTAeaDAeaPAeaPHAeaSSAeaZHAeaZAeaAHcaTODO ALI GALI TA",
    "faZHAcaMANCHU ALI GALI GHAfaNGAfaCAfaJHAfaTTAfaDDHAfaTAfaDHAfaSSAfaCYAfaZHAfaZA",
    "caALI GALI HALF UfaYAcaMANCHU ALI GALI BHAcaALI GALI DAGALGAcaMANCHU ALI GALI LHA",
    "aaCANADIAN SYLLABICS OYcaAYcaAAYcaWAYcaPOYcaPAYcaPWOYcaTAYcaKAYcaKWAYcaMAYcaNOYcaNAYcaLAY",
    "caSOYcaSAYcaSHOYcaSHAYcaSHWOYcaYOYcaYAYcaRAYcaNWIcbOJIBWAYcaNWIIcbOJIBWAYcaNWOcbOJIBWAYcaNWOO",
    "cbOJIBWAYcaRWEEcaRWIcaRWIIcaRWOcaRWOOcaRWAcaOJIBWAY PdaTdaKdaCdaMdaNdaSdaSHcaEASTERN W",
    "cbWESTERNcaFINAL SMALL RINGdaRAISED DOTcaR-CREE RWEcaWEST-CREE LOOdaLAAcaTHWEcaTHWAcaTTHWE",
    "caTTHOOcaTTHAAcaTLHWEcaTLHOOcaSAYISI SHWEdaSHOOdaHOOcaCARRIER GWUdaDENE GEEdaGAAdaGWA",
    "caSAYISI JUUcaCARRIER JWAcaBEAVER DENE LeaRcaCARRIER DENTAL SaaLIMBU VOWEL-CARRIER LETTER",
    "baLETTER KAcaKHAcaGAcaGHAcaNGAcaCAcaCHAcaJAcaJHAcaYANcaTAcaTHAcaDAcaDHAcaNAcaPAcaPHAcaBAcaBHA",
    "caMAcaYAcaRAcaLAcaWAcaSHAcaSSAcaSAcaHAcaGYANcaTRAbaVOWEL SIGN AdaIdaUdaEEdaAIdaOOdaAUdaEdaO",
    "baSUBJOINED LETTER YAdaRAdaWAbaSMALL LETTER KAdaNGAdaANUSVARAdaTAdaNAdaPAdaMAdaRAdaLA",
    "baSIGN MUKPHRENGcaKEMPHRENGcaSA-IcaLOObaEXCLAMATION MARKbbQUESTIONbaDIGIT ZEROcaONEcaTWO",
    "caTHREEcaFOURcaFIVEcaSIXcaSEVENcaEIGHTcaNINEaaTAI LE LETTER KAdaXAdaNGAdaTSAdaSAdaYAdaTAdaTHA",
    "daLAdaPAdaPHAdaMAdaFAdaVAdaHAdaQAdaKHAdaTSHAdaNAdaAdaIdaEEdaEHdaUdaOOdaOdaUEdaEdaAUEdaAI",
    "daTONE-2daTONE-3daTONE-4daTONE-5daTONE-6aaNEW TAI LUE LETTER HIGH QAebLOWeaHIGH KAfaXAfaNGA",
    "eaLOW KAfaXAfaNGAeaHIGH TSAfaSAfaYAeaLOW TSAfaSAfaYAeaHIGH TAfaTHAfaNAeaLOW TAfaTHAfaNA",
    "eaHIGH PAfaPHAfaMAeaLOW PAfaPHAfaMAeaHIGH FAfaVAfaLAeaLOW FAfaVAfaLAeaHIGH HAfaDAfaBAeaLOW HA",
    "faDAfaBAeaHIGH KVAfaXVAeaLOW KVAfaXVAeaHIGH SUAebLOWdaVOWEL SIGN VOWEL SHORTENERfaAAfaIIfaU",
    "faUUfaEfaAEfaOfaOAfaUEfaAYfaAAYfaUYfaOYfaOAYfaUEYfaIYdaLETTER FINAL VfaNGfaNfaMfaKfaDfaB",
    "daTONE MARK-1eaMARK-2daDIGIT ZEROeaONEeaTWOeaTHREEeaFOUReaFIVEeaSIXeaSEVENeaEIGHTeaNINE",
    "daTHAM DIGIT ONEdaSIGN LAEeaLAEVaaKHMER SYMBOL PATHAMASATcaMUOY KOETcbPIIcbBEIcbBUONcbPRAM",
    "cbPRAM-MUOYcbPRAM-PIIcbPRAM-BEIcbPRAM-BUONcbDAPcbDAP-MUOYcbDAP-PIIcbDAP-BEIcbDAP-BUON",
    "cbDAP-PRAMcaTUTEYASATcaMUOY ROCcbPIIcbBEIcbBUONcbPRAMcbPRAM-MUOYcbPRAM-PIIcbPRAM-BEI",
    "cbPRAM-BUONcbDAPcbDAP-MUOYcbDAP-PIIcbDAP-BEIcbDAP-BUONcbDAP-PRAMaaBUGINESE LETTER KAcaGAcaNGA",
    "caNGKAcaPAcaBAcaMAcaMPAcaTAcaDAcaNAcaNRAcaCAcaJAcaNYAcaNYCAcaYAcaRAcaLAcaVAcaSAcaAcaHA",
    "baVOWEL SIGN IdaUdaEdaOdaAEbaPALLAWAbaEND OF SECTIONaaTAI THAM LETTER HIGH KAeaKHAeaKXA",
    "daLOW KAeaKXAeaKHAdaNGAdaHIGH CAeaCHAdaLOW CAeaSAeaCHAdaNYAdaRATAdaHIGH RATHAdaDAdaLOW RATHA",
    "daRANAdaHIGH TAeaTHAdaLOW TAeaTHAdaNAdaBAdaHIGH PAeaPHAeaFAdaLOW PAeaFAeaPHAdaMAdaLOW YA",
    "dbHIGHdaRAdaRUEdaLAdaLUEdaWAdaHIGH SHAeaSSAeaSAeaHAdaLLAdaAdaLOW HAdaIdaIIdaUdaUUdaEEdaOO",
    "daLAEdaGREAT SAcaCONSONANT SIGN MEDIAL RAfaLAeaLA TANG LAIcbSIGN MAI KANG",
    "caCONSONANT SIGN FINAL NGAeaLOW PAecHIGH RATHA OReaMAeaBAeaSAcaSIGN SAKOTcaVOWEL SIGN A",
    "eaMAI SATeaAAebTALLeaIeaIIeaUEeaUUEeaUeaUUeaOeaOA BELOWeaOYeaEeaAEeaOOeaAIebTHAMeaOA ABOVE",
    "caSIGN MAI KANGdaTONE-1daTONE-2daKHUEN TONE-3eaTONE-4eaTONE-5daRA HAAMdaMAI SAM",
    "daKHUEN-LUE KARANcaCOMBINING CRYPTOGRAMMIC DOTcaHORA DIGIT ZEROeaONEeaTWOeaTHREEeaFOUReaFIVE",
    "eaSIXeaSEVENeaEIGHTeaNINEcaTHAM DIGIT ZEROeaONEeaTWOeaTHREEeaFOUReaFIVEeaSIXeaSEVENeaEIGHT",
    "eaNINEcaSIGN WIANGdaWIANGWAAKdaSAWANdaKEOWdaHOYdaDOKMAIdaREVERSED ROTATED RANAdaMAI YAMOK",
    "daKAANdaKAANKUUdaSATKAANdaSATKAANKUUdaHANGdaCAANGaaCOMBINING DOUBLED CIRCUMFLEX ACCENT",
    "baDIAERESIS-RINGbaINFINITYbaDOWNWARDS ARROWbaTRIPLE DOTbaX-X BELOWbbWIGGLY LINEbbOPEN MARK",
    "bdDOUBLEbbLIGHT CENTRALIZATION STROKEbdSTRONGbaPARENTHESES ABOVEbcDOUBLEbaPARENTHESES BELOW",
    "caOVERLAYbaLATIN SMALL LETTER W BELOWecTURNEDbaLEFT PARENTHESIS ABOVE LEFT",
    "baRIGHT PARENTHESIS ABOVE RIGHTbaLEFT PARENTHESIS BELOW LEFTbaRIGHT PARENTHESIS BELOW RIGHT",
    "baSQUARE BRACKETS ABOVEbbNUMBER SIGNbbINVERTED DOUBLE ARCHbbPLUS SIGNbdDOUBLEeaBELOW",
    "baTRIPLE ACUTE ACCENTbaLATIN SMALL LETTER INSULAR GfaRfaTaaBALINESE SIGN ULU RICEMdaCANDRA",
    "caCECEKcaSURANGcaBISAHbaLETTER AKARAdaTEDUNGcaIKARAdaTEDUNGcaUKARAdaTEDUNGcaRA REPAeaTEDUNG",
    "caLA LENGAeaTEDUNGcaEKARAcaAIKARAcaOKARAdaTEDUNGcaKAdaMAHAPRANAcaGAdaGORAcaNGAcaCAdaLACAcaJA",
    "daJERAcaNYAcaTA LATIKdaMURDA MAHAPRANAcaDA MURDA ALPAPRANAeaMAHAPRANAcaNA RAMBATcaTAdaTAWA",
    "caDAdaMADUcaNAcaPAdaKAPALcaBAdaKEMBANGcaMAcaYAcaRAcaLAcaWAcaSA SAGAdaSAPAdacaHAbaSIGN REREKAN",
    "baVOWEL SIGN TEDUNGdaULUeaSARIdaSUKUeaILUTdaRA REPAfaTEDUNGdaLA LENGAfaTEDUNGdaTALINGeaREPA",
    "eaTEDUNGebREPAdaPEPETeaTEDUNGbaADEG ADEGbaLETTER KAF SASAKcbKHOTcbTZIRcbEFcbVEcbZALcbASYURA",
    "caARCHAIC JNYAbaDIGIT ZEROcaONEcaTWOcaTHREEcaFOURcaFIVEcaSIXcaSEVENcaEIGHTcaNINEbaPANTI",
    "baPAMADAbaWINDUbaCARIK PAMUNGKAHcaSIKIcaPARERENbaPAMENENGbaMUSICAL SYMBOL DONGdaDENGdaDUNG",
    "daDANGeaSURANGdaDINGdaDAENGdaDEUNGdaDAINGdaDANG GEDEdaCOMBINING TEGEHeaENDEPeaKEMPULeaKEMPLI",
    "eaJEGOGANebKEMPUL WITHecKEMPLIeaBENDEeaGONGdaRIGHT-HAND OPEN DUGfaDAGeaCLOSED TUKfaTAK",
    "daLEFT-HAND OPEN PANGfaPUNGeaCLOSED PLAKfaPLUKeaOPEN PINGbaPANTI LANTANGbbPAMADA",
    "aaSUNDANESE SIGN PANYECEKcaPANGLAYARcaPANGWISADbaLETTER AcaIcaUcaAEcaOcaEcaEUcaKAcaQAcaGA",
    "caNGAcaCAcaJAcaZAcaNYAcaTAcaDAcaNAcaPAcaFAcaVAcaBAcaMAcaYAcaRAcaLAcaWAcaSAcaXAcaHA",
    "baCONSONANT SIGN PAMINGKALdaPANYAKRAdaPANYIKUbaVOWEL SIGN PANGHULUdaPANYUKUdaPANAELAENG",
    "daPANOLONGdaPAMEPETdaPANEULEUNGbaSIGN PAMAAEHcaVIRAMAbaCONSONANT SIGN PASANGAN MAeaWA",
    "baLETTER KHAcaSYAbaDIGIT ZEROcaONEcaTWOcaTHREEcaFOURcaFIVEcaSIXcaSEVENcaEIGHTcaNINEbaAVAGRAHA",
    "baLETTER REUcaLEUcaBHAcaFINAL KdaMaaBATAK LETTER AcbSIMALUNGUNcaHAcbSIMALUNGUNcbMANDAILING",
    "caBAcbKAROcaPAcbSIMALUNGUNcaNAcbMANDAILINGcaWAcbSIMALUNGUNcbPAKPAKcaGAcbSIMALUNGUNcaJAcaDA",
    "caRAcbSIMALUNGUNcaMAcbSIMALUNGUNcaSOUTHERN TAcbNORTHERNcaSAcbSIMALUNGUNcbMANDAILINGcaYA",
    "cbSIMALUNGUNcaNGAcaLAcbSIMALUNGUNcaNYAcaCAcaNDAcaMBAcaIcaUbaSIGN TOMPIbaVOWEL SIGN EdbPAKPAK",
    "daEEdaIdbKAROdaOdbKAROdaUeaFOR SIMALUNGUN SAbaCONSONANT SIGN NGdaHbaPANGOLATbaPANONGONAN",
    "baSYMBOL BINDU NA METEKdaPINARBORASdaJUDULdaPANGOLATaaLEPCHA LETTER KAcaKLAcaKHAcaGAcaGLA",
    "caNGAcaCAcaCHAcaJAcaNYAcaTAcaTHAcaDAcaNAcaPAcaPLAcaPHAcaFAcaFLAcaBAcaBLAcaMAcaMLAcaTSAcaTSHA",
    "caDZAcaYAcaRAcaLAcaHAcaHLAcaVAcaSAcaSHAcaWAcaAbaSUBJOINED LETTER YAdaRAbaVOWEL SIGN AAdaIdaO",
    "daOOdaUdaUUdaEbaCONSONANT SIGN KdaMdaLdaNdaPdaRdaTdaNYIN-DOdaKANGbaSIGN RANcaNUKTA",
    "baPUNCTUATION TA-ROLcbNYET THYOOMcaCER-WAcbTSHOOKdabaDIGIT ZEROcaONEcaTWOcaTHREEcaFOURcaFIVE",
    "caSIXcaSEVENcaEIGHTcaNINEbaLETTER TTAcaTTHAcaDDAaaOL CHIKI DIGIT ZEROdaONEdaTWOdaTHREEdaFOUR",
    "daFIVEdaSIXdaSEVENdaEIGHTdaNINEcaLETTER LAdaATdaAGdaANGdaALdaLAAdaAAKdaAAJdaAAMdaAAWdaLIdaIS",
    "daIHdaINYdaIRdaLUdaUCdaUDdaUNNdaUYdaLEdaEPdaEDDdaENdaERRdaLOdaOTTdaOBdaOVdaOHcaMU TTUDDAG",
    "caGAAHLAA TTUDDAAGcbMU-GAAHLAAcaRELAAcaPHAARKAAcaAHADcaPUNCTUATION MUCAADdbDOUBLE",
    "aaCYRILLIC SMALL LETTER ROUNDED VEdaLONG-LEGGED DEdaNARROW OdaWIDE ESdaTALL TEdbTHREE-LEGGED",
    "daTALL HARD SIGNeaYATdaUNBLENDED UKaaGEORGIAN MTAVRULI CAPITAL LETTER ANeaBANeaGANeaDONeaEN",
    "eaVINeaZENeaTANeaINeaKANeaLASeaMANeaNAReaONeaPAReaZHAReaRAEeaSANeaTAReaUNeaPHAReaKHAReaGHAN",
    "eaQAReaSHINeaCHINeaCANeaJILeaCILeaCHAReaXANeaJHANeaHAEeaHEeaHIEeaWEeaHAReaHOEeaFIeaYNeaELIFI",
    "eaTURNED GANeaAINeaAENeaHARD SIGNebLABIALaaSUNDANESE PUNCTUATION BINDU SURYAdaPANGLONG",
    "daPURNAMAdaCAKRAdaLEU SATANGAdbKAdbDAdbBAaaVEDIC TONE KARSHANAcaSHARAcaPRENKHA",
    "baSIGN NIHSHVASAcaYAJURVEDIC MIDLINE SVARITAbbTONE YAJURVEDIC AGGRAVATED INDEPENDENTdc",
    "dcKATHAKAcaCANDRA BELOWcaYAJURVEDIC KATHAKA INDEPENDENT SVARITA SCHROEDERcaDOUBLE SVARITA",
    "cbTRIPLEcaKATHAKA ANUDATTAcaDOT BELOWcbTWO DOTSccTHREEcaRIGVEDIC KASHMIRI INDEPENDENT SVARITA",
    "ccATHARVAVEDICbbSIGN VISARGAdaUDATTAccREVERSEDcaVISARGA ANUDATTAccREVERSED",
    "caVISARGA UDATTA WITH TAILdcANUDATTAcaANUSVARA ANTARGOMUKHAdaBAHIRGOMUKHAdaVAMAGOMUKHA",
    "eaWITH TAILcaTIRYAKcaHEXIFORM LONG ANUSVARAccccRTHANGcaANUSVARA UBHAYATO MUKHAcaARDHAVISARGA",
    "cbROTATEDbaTONE CANDRA ABOVEbaSIGN JIHVAMULIYAcaUPADHMANIYAcaATIKRAMAbaTONE RING ABOVE",
    "ccDOUBLEbaSIGN DOUBLE ANUSVARA ANTARGOMUKHAaaLATIN LETTER SMALL CAPITAL AeaAE",
    "bbSMALL LETTER TURNEDbaLETTER SMALL CAPITAL BARRED BeaCeaDeaETHeaEbbSMALL LETTER TURNED OPEN",
    "eaIbaLETTER SMALL CAPITAL JeaKeaL WITH STROKEeaMeaREVERSED NeaOebOPENbbSMALL LETTER SIDEWAYS",
    "ebOPENeaO WITH STROKEdaTURNED OEbaLETTER SMALL CAPITAL OUbaSMALL LETTER TOP HALF OdcBOTTOM",
    "baLETTER SMALL CAPITAL PeaREVERSED RebTURNEDeaTeaUbbSMALL LETTER SIDEWAYSebDIAERESIZED",
    "eaTURNED MbaLETTER SMALL CAPITAL VeaWeaZeaEZHcaVOICED LARYNGEAL SPIRANTcaAIN",
    "aaGREEK LETTER SMALL CAPITAL GAMMAeaLAMDAeaPIeaRHOeaPSIaaCYRILLIC LETTER SMALL CAPITAL EL",
    "aaMODIFIER LETTER CAPITAL AdaAEdaBdbBARREDdaDdaEdbREVERSEDdaGdaHdaIdaJdaKdaLdaMdaNdbREVERSED",
    "daOdaOUdaPdaRdaTdaUdaWcaSMALL AdbTURNEDdaALPHAdaTURNED AEdaBdaDdaEdaSCHWAdaOPEN EdcTURNEDdaG",
    "daTURNED IdaKdaMdaENGdaOdbOPENdbTOP HALFdcBOTTOMdaPdaTdaUdbSIDEWAYSdaTURNED MdaVdaAINdaBETA",
    "daGREEK GAMMAdaDELTAdaGREEK PHIdaCHIaaLATIN SUBSCRIPT SMALL LETTER IeaReaUeaV",
    "aaGREEK SUBSCRIPT SMALL LETTER BETAeaGAMMAeaRHOeaPHIeaCHIaaLATIN SMALL LETTER UE",
    "daB WITH MIDDLE TILDEddDddFddMddNddPddRfcFISHHOOK ANDdcS WITHddTddZdaTURNED G",
    "aaMODIFIER LETTER CYRILLIC ENaaLATIN SMALL LETTER INSULAR GdaTH WITH STRIKETHROUGH",
    "caCAPITAL LETTER I WITH STROKEccLETTER IOTAdcPccCAPITAL LETTER UccLETTER UPSILON",
    "daB WITH PALATAL HOOKddDddFddGddKddLddMddNddPddRddSddESHddVddXddZdbA WITH RETROFLEXddALPHA",
    "daD WITH HOOK AND TAILdaE WITH RETROFLEX HOOKdeOPENdfREVERSEDddSCHWAddIddOPEN OddESHddUddEZH",
    "aaMODIFIER LETTER SMALL TURNED ALPHAdaCeaWITH CURLdaETHdaREVERSED OPEN EdaF",
    "daDOTLESS J WITH STROKEdaSCRIPT GdaTURNED HdaI WITH STROKEdaIOTAdaCAPITAL IfaWITH STROKE",
    "daJ WITH CROSSED-TAILdaL WITH RETROFLEX HOOKfbPALATALdaCAPITAL LdaM WITH HOOK",
    "daTURNED M WITH LONG LEGdaN WITH LEFT HOOKfbRETROFLEXdaCAPITAL NdaBARRED OdaPHIdaS WITH HOOK",
    "daESHdaT WITH PALATAL HOOKdaU BARdaUPSILONdaCAPITAL UdaV WITH HOOKdaTURNED VdaZ",
    "eaWITH RETROFLEX HOOKfaCURLdaEZHdaTHETAaaCOMBINING DOTTED GRAVE ACCENTcbACUTEbaSNAKE BELOW",
    "baSUSPENSION MARKbaMACRON-ACUTEbaGRAVE-MACRONbaMACRON-GRAVEbaACUTE-MACRONbaGRAVE-ACUTE-GRAVE",
    "baACUTE-GRAVE-ACUTEbaLATIN SMALL LETTER R BELOWbaBREVE-MACRONbaMACRON-BREVE",
    "baDOUBLE CIRCUMFLEX ABOVEbbOGONEKbaZIGZAG BELOWbbISbaUR ABOVEbbUS",
    "bbLATIN SMALL LETTER FLATTENED OPEN AeaAEeaAOeaAVeaC CEDILLAeaINSULAR DeaETHeaG",
    "cbLETTER SMALL CAPITALcaSMALL LETTER KeaLcbLETTER SMALL CAPITALfaMcaSMALL LETTER N",
    "cbLETTER SMALL CAPITALfaRcaSMALL LETTER R ROTUNDAeaSebLONGeaZeaALPHAeaBeaBETAeaSCHWAeaF",
    "eaL WITH DOUBLE MIDDLE TILDEeaO WITH LIGHT CENTRALIZATION STROKEeaPeaESH",
    "eaU WITH LIGHT CENTRALIZATION STROKEeaWeaA WITH DIAERESISecOecUbaUP TACK ABOVE",
    "baKAVYKA ABOVE RIGHTdaLEFTbcDOTbaWIDE INVERTED BRIDGE BELOWbaDOT BELOW LEFTbaDELETION MARK",
    "baDOUBLE INVERTED BREVE BELOWbbALMOST EQUAL TObaLEFT ARROWHEAD ABOVE",
    "baRIGHT ARROWHEAD AND DOWN ARROWHEAD BELOWabLATIN CAPITAL LETTER A WITH RINGbfSMALL",
    "baCAPITAL LETTER B WITH DOT ABOVEbfSMALLbaCAPITAL LETTER B WITH DOT BELOWbfSMALL",
    "bbCAPITAL LETTER B WITH LINEbfSMALLbaCAPITAL LETTER C WITH CEDILLA AND ACUTEbgSMALL",
    "baCAPITAL LETTER D WITH DOT ABOVEbfSMALLbaCAPITAL LETTER D WITH DOT BELOWbfSMALL",
    "bbCAPITAL LETTER D WITH LINEbfSMALLbaCAPITAL LETTER D WITH CEDILLAbeSMALL",
    "baCAPITAL LETTER D WITH CIRCUMFLEX BELOWbfSMALLbaCAPITAL LETTER E WITH MACRON AND GRAVE",
    "bgSMALLbaCAPITAL LETTER E WITH MACRON AND ACUTEbgSMALL",
    "baCAPITAL LETTER E WITH CIRCUMFLEX BELOWbfSMALLbbCAPITAL LETTER E WITH TILDEbfSMALL",
    "baCAPITAL LETTER E WITH CEDILLA AND BREVEbgSMALLbaCAPITAL LETTER F WITH DOT ABOVEbfSMALL",
    "baCAPITAL LETTER G WITH MACRONbeSMALLbaCAPITAL LETTER H WITH DOT ABOVEbfSMALL",
    "baCAPITAL LETTER H WITH DOT BELOWbfSMALLbaCAPITAL LETTER H WITH DIAERESISbeSMALL",
    "baCAPITAL LETTER H WITH CEDILLAbeSMALLbaCAPITAL LETTER H WITH BREVE BELOWbfSMALL",
    "bbCAPITAL LETTER I WITH TILDEbfSMALLbaCAPITAL LETTER I WITH DIAERESIS AND ACUTEbgSMALL",
    "bbCAPITAL LETTER K WITHbeSMALLbaCAPITAL LETTER K WITH DOT BELOWbfSMALL",
    "bbCAPITAL LETTER K WITH LINEbfSMALLbbCAPITAL LETTER L WITH DOTbfSMALL",
    "baCAPITAL LETTER L WITH DOT BELOW AND MACRONbhSMALLbaCAPITAL LETTER L WITH LINE BELOWbfSMALL",
    "bbCAPITAL LETTER L WITH CIRCUMFLEXbfSMALLbaCAPITAL LETTER M WITH ACUTEbeSMALL",
    "baCAPITAL LETTER M WITH DOT ABOVEbfSMALLbaCAPITAL LETTER M WITH DOT BELOWbfSMALL",
    "baCAPITAL LETTER N WITH DOT ABOVEbfSMALLbaCAPITAL LETTER N WITH DOT BELOWbfSMALL",
    "bbCAPITAL LETTER N WITH LINEbfSMALLbbCAPITAL LETTER N WITH CIRCUMFLEXbfSMALL",
    "baCAPITAL LETTER O WITH TILDE AND ACUTEbgSMALLbaCAPITAL LETTER O WITH TILDE AND DIAERESIS",
    "bgSMALLbaCAPITAL LETTER O WITH MACRON AND GRAVEbgSMALL",
    "baCAPITAL LETTER O WITH MACRON AND ACUTEbgSMALLbbCAPITAL LETTER P WITHbeSMALL",
    "baCAPITAL LETTER P WITH DOT ABOVEbfSMALLbdCAPITAL LETTER RbfSMALL",
    "baCAPITAL LETTER R WITH DOT BELOWbfSMALLbaCAPITAL LETTER R WITH DOT BELOW AND MACRONbhSMALL",
    "baCAPITAL LETTER R WITH LINE BELOWbfSMALLbaCAPITAL LETTER S WITH DOT ABOVEbfSMALL",
    "baCAPITAL LETTER S WITH DOT BELOWbfSMALLbaCAPITAL LETTER S WITH ACUTE AND DOT ABOVEbhSMALL",
    "bdCAPITAL LETTER S WITH CARONbhSMALLbdCAPITAL LETTER S WITH DOT BELOWbiSMALL",
    "bcCAPITAL LETTER T WITHbfSMALLbaCAPITAL LETTER T WITH DOT BELOWbfSMALL",
    "bbCAPITAL LETTER T WITH LINEbfSMALLbbCAPITAL LETTER T WITH CIRCUMFLEXbfSMALL",
    "bbCAPITAL LETTER U WITH DIAERESISbfSMALLbbCAPITAL LETTER U WITH TILDEbfSMALL",
    "bbCAPITAL LETTER U WITH CIRCUMFLEXbfSMALLbaCAPITAL LETTER U WITH TILDE AND ACUTEbgSMALL",
    "baCAPITAL LETTER U WITH MACRON AND DIAERESISbgSMALLbaCAPITAL LETTER V WITH TILDEbeSMALL",
    "baCAPITAL LETTER V WITH DOT BELOWbfSMALLbaCAPITAL LETTER W WITH GRAVEbeSMALL",
    "baCAPITAL LETTER W WITH ACUTEbeSMALLbaCAPITAL LETTER W WITH DIAERESISbeSMALL",
    "baCAPITAL LETTER W WITH DOT ABOVEbfSMALLbaCAPITAL LETTER W WITH DOT BELOWbfSMALL",
    "baCAPITAL LETTER X WITH DOT ABOVEbfSMALLbaCAPITAL LETTER X WITH DIAERESISbeSMALL",
    "baCAPITAL LETTER Y WITH DOT ABOVEbfSMALLbaCAPITAL LETTER Z WITH CIRCUMFLEXbeSMALL",
    "baCAPITAL LETTER Z WITH DOT BELOWbfSMALLbbCAPITAL LETTER Z WITH LINEbfSMALLddH",
    "daT WITH DIAERESISdaW WITH RING ABOVEddYdaA WITH RIGHT HALF RINGdaLONG S WITH DOT ABOVE",
    "gaDIAGONAL STROKEgbHIGHbaCAPITAL LETTER SHARP SbaSMALL LETTER DELTA",
    "baCAPITAL LETTER A WITH DOT BELOWbfSMALLbaCAPITAL LETTER A WITH HOOK ABOVEbfSMALL",
    "baCAPITAL LETTER A WITH CIRCUMFLEX AND ACUTEbgSMALL",
    "baCAPITAL LETTER A WITH CIRCUMFLEX AND GRAVEbgSMALL",
    "baCAPITAL LETTER A WITH CIRCUMFLEX AND HOOK ABOVEbhSMALL",
    "baCAPITAL LETTER A WITH CIRCUMFLEX AND TILDEbgSMALL",
    "baCAPITAL LETTER A WITH CIRCUMFLEX AND DOT BELOWbhSMALL",
    "baCAPITAL LETTER A WITH BREVE AND ACUTEbgSMALLbaCAPITAL LETTER A WITH BREVE AND GRAVEbgSMALL",
    "baCAPITAL LETTER A WITH BREVE AND HOOK ABOVEbhSMALLbaCAPITAL LETTER A WITH BREVE AND TILDE",
    "bgSMALLbaCAPITAL LETTER A WITH BREVE AND DOT BELOWbhSMALLbcCAPITAL LETTER E WITHbfSMALL",
    "baCAPITAL LETTER E WITH HOOK ABOVEbfSMALLbaCAPITAL LETTER E WITH TILDEbeSMALL",
    "baCAPITAL LETTER E WITH CIRCUMFLEX AND ACUTEbgSMALL",
    "baCAPITAL LETTER E WITH CIRCUMFLEX AND GRAVEbgSMALL",
    "baCAPITAL LETTER E WITH CIRCUMFLEX AND HOOK ABOVEbhSMALL",
    "baCAPITAL LETTER E WITH CIRCUMFLEX AND TILDEbgSMALL",
    "baCAPITAL LETTER E WITH CIRCUMFLEX AND DOT BELOWbhSMALLbaCAPITAL LETTER I WITH HOOK ABOVE",
    "bfSMALLbaCAPITAL LETTER I WITH DOT BELOWbfSMALLbdCAPITAL LETTER ObfSMALL",
    "baCAPITAL LETTER O WITH HOOK ABOVEbfSMALLbaCAPITAL LETTER O WITH CIRCUMFLEX AND ACUTEbgSMALL",
    "baCAPITAL LETTER O WITH CIRCUMFLEX AND GRAVEbgSMALL",
    "baCAPITAL LETTER O WITH CIRCUMFLEX AND HOOK ABOVEbhSMALL",
    "baCAPITAL LETTER O WITH CIRCUMFLEX AND TILDEbgSMALL",
    "baCAPITAL LETTER O WITH CIRCUMFLEX AND DOT BELOWbhSMALLbaCAPITAL LETTER O WITH HORN AND ACUTE",
    "bgSMALLbaCAPITAL LETTER O WITH HORN AND GRAVEbgSMALL",
    "baCAPITAL LETTER O WITH HORN AND HOOK ABOVEbhSMALLbaCAPITAL LETTER O WITH HORN AND TILDE",
    "bgSMALLbaCAPITAL LETTER O WITH HORN AND DOT BELOWbhSMALLbcCAPITAL LETTER U WITHbfSMALL",
    "baCAPITAL LETTER U WITH HOOK ABOVEbfSMALLbaCAPITAL LETTER U WITH HORN AND ACUTEbgSMALL",
    "baCAPITAL LETTER U WITH HORN AND GRAVEbgSMALLbaCAPITAL LETTER U WITH HORN AND HOOK ABOVE",
    "bhSMALLbaCAPITAL LETTER U WITH HORN AND TILDEbgSMALL",
    "baCAPITAL LETTER U WITH HORN AND DOT BELOWbhSMALLbaCAPITAL LETTER Y WITH GRAVEbeSMALL",
    "baCAPITAL LETTER Y WITH DOT BELOWbfSMALLbaCAPITAL LETTER Y WITH HOOK ABOVEbfSMALL",
    "baCAPITAL LETTER Y WITH TILDEbeSMALLbaCAPITAL LETTER MIDDLE-WELSH LLbdSMALL",
    "baCAPITAL LETTER MIDDLE-WELSH VbdSMALLbaCAPITAL LETTER Y WITH LOOPbeSMALL",
    "aaGREEK SMALL LETTER ALPHA WITH PSILIfaDASIAfaPSILI AND VARIAfcDASIAfaPSILI AND OXIAfcDASIA",
    "faPSILI AND PERISPOMENIfcDASIAbaCAPITAL LETTER ALPHA WITH PSILIfaDASIAfaPSILI AND VARIA",
    "fcDASIAfaPSILI AND OXIAfcDASIAfaPSILI AND PERISPOMENIfcDASIAbaSMALL LETTER EPSILON WITH PSILI",
    "faDASIAfaPSILI AND VARIAfcDASIAfaPSILI AND OXIAfcDASIAbaCAPITAL LETTER EPSILON WITH PSILI",
    "faDASIAfaPSILI AND VARIAfcDASIAfaPSILI AND OXIAfcDASIAbaSMALL LETTER ETA WITH PSILIfaDASIA",
    "faPSILI AND VARIAfcDASIAfaPSILI AND OXIAfcDASIAfaPSILI AND PERISPOMENIfcDASIA",
    "baCAPITAL LETTER ETA WITH PSILIfaDASIAfaPSILI AND VARIAfcDASIAfaPSILI AND OXIAfcDASIA",
    "faPSILI AND PERISPOMENIfcDASIAbaSMALL LETTER IOTA WITH PSILIfaDASIAfaPSILI AND VARIAfcDASIA",
    "faPSILI AND OXIAfcDASIAfaPSILI AND PERISPOMENIfcDASIAbaCAPITAL LETTER IOTA WITH PSILIfaDASIA",
    "faPSILI AND VARIAfcDASIAfaPSILI AND OXIAfcDASIAfaPSILI AND PERISPOMENIfcDASIA",
    "baSMALL LETTER OMICRON WITH PSILIfaDASIAfaPSILI AND VARIAfcDASIAfaPSILI AND OXIAfcDASIA",
    "baCAPITAL LETTER OMICRON WITH PSILIfaDASIAfaPSILI AND VARIAfcDASIAfaPSILI AND OXIAfcDASIA",
    "baSMALL LETTER UPSILON WITH PSILIfaDASIAfaPSILI AND VARIAfcDASIAfaPSILI AND OXIAfcDASIA",
    "faPSILI AND PERISPOMENIfcDASIAbaCAPITAL LETTER UPSILON WITH DASIAgaAND VARIAhaOXIA",
    "haPERISPOMENIbaSMALL LETTER OMEGA WITH PSILIfaDASIAfaPSILI AND VARIAfcDASIAfaPSILI AND OXIA",
    "fcDASIAfaPSILI AND PERISPOMENIfcDASIAbaCAPITAL LETTER OMEGA WITH PSILIfaDASIA",
    "faPSILI AND VARIAfcDASIAfaPSILI AND OXIAfcDASIAfaPSILI AND PERISPOMENIfcDASIA",
    "baSMALL LETTER ALPHA WITH VARIAfaOXIAdaEPSILON WITH VARIAfaOXIAdaETA WITH VARIAfaOXIA",
    "daIOTA WITH VARIAfaOXIAdaOMICRON WITH VARIAfaOXIAdaUPSILON WITH VARIAfaOXIAdaOMEGA WITH VARIA",
    "faOXIAdaALPHA WITH PSILI AND YPOGEGRAMMENIfcDASIAfcPSILI AND VARIAfeDASIAfcPSILI AND OXIA",
    "feDASIAfcPSILI AND PERISPOMENIfeDASIAbaCAPITAL LETTER ALPHA WITH PSILI AND PROSGEGRAMMENI",
    "fcDASIAfcPSILI AND VARIAfeDASIAfcPSILI AND OXIAfeDASIAfcPSILI AND PERISPOMENIfeDASIA",
    "baSMALL LETTER ETA WITH PSILI AND YPOGEGRAMMENIfcDASIAfcPSILI AND VARIAfeDASIA",
    "fcPSILI AND OXIAfeDASIAfcPSILI AND PERISPOMENIfeDASIA",
    "baCAPITAL LETTER ETA WITH PSILI AND PROSGEGRAMMENIfcDASIAfcPSILI AND VARIAfeDASIA",
    "fcPSILI AND OXIAfeDASIAfcPSILI AND PERISPOMENIfeDASIA",
    "baSMALL LETTER OMEGA WITH PSILI AND YPOGEGRAMMENIfcDASIAfcPSILI AND VARIAfeDASIA",
    "fcPSILI AND OXIAfeDASIAfcPSILI AND PERISPOMENIfeDASIA",
    "baCAPITAL LETTER OMEGA WITH PSILI AND PROSGEGRAMMENIfcDASIAfcPSILI AND VARIAfeDASIA",
    "fcPSILI AND OXIAfeDASIAfcPSILI AND PERISPOMENIfeDASIAbaSMALL LETTER ALPHA WITH VRACHYfaMACRON",
    "faVARIA AND YPOGEGRAMMENIfbfbOXIA ANDfaPERISPOMENIgaAND YPOGEGRAMMENI",
    "baCAPITAL LETTER ALPHA WITH VRACHYfaMACRONfaVARIAfaOXIAfaPROSGEGRAMMENIbaKORONIS",
    "baPROSGEGRAMMENIbaPSILIbaPERISPOMENIbbDIALYTIKA AND",
    "baSMALL LETTER ETA WITH VARIA AND YPOGEGRAMMENIfbfbOXIA ANDfaPERISPOMENIgaAND YPOGEGRAMMENI",
    "baCAPITAL LETTER EPSILON WITH VARIAfaOXIAdaETA WITH VARIAfaOXIAfaPROSGEGRAMMENI",
    "baPSILI AND VARIAdaOXIAdaPERISPOMENIbaSMALL LETTER IOTA WITH VRACHYfaMACRON",
    "faDIALYTIKA AND VARIAhaOXIAfaPERISPOMENIfbDIALYTIKA ANDbaCAPITAL LETTER IOTA WITH VRACHY",
    "faMACRONfaVARIAfaOXIAbaDASIA AND VARIAdaOXIAdaPERISPOMENIbaSMALL LETTER UPSILON WITH VRACHY",
    "faMACRONfaDIALYTIKA AND VARIAhaOXIAdaRHO WITH PSILIfaDASIAdaUPSILON WITH PERISPOMENI",
    "fbDIALYTIKA ANDbaCAPITAL LETTER UPSILON WITH VRACHYfaMACRONfaVARIAfaOXIAdaRHO WITH DASIA",
    "baDIALYTIKA AND VARIAdaOXIAbaVARIAbaSMALL LETTER OMEGA WITH VARIA AND YPOGEGRAMMENIfb",
    "fbOXIA ANDfaPERISPOMENIgaAND YPOGEGRAMMENIbaCAPITAL LETTER OMICRON WITH VARIAfaOXIA",
    "daOMEGA WITH VARIAfaOXIAfaPROSGEGRAMMENIbaOXIAbaDASIA"]

end ClusterBilling.Text.NameTable
