import ClusterBilling.Text.Name.Table

/-! Names of characters from U+2000 up to U+2FFF: punctuation and symbols. -/
namespace ClusterBilling.Text.NameTable

def symbols : NameTable where
  rows := [
    (0x2000, 101), (0x2066, 12), (0x2074, 27), (0x2090, 13), (0x20a0, 33), (0x20d0, 33),
    (0x2100, 140), (0x2190, 663), (0x2440, 11), (0x2460, 1812), (0x2b76, 32), (0x2b97, 349),
    (0x2cf9, 45), (0x2d27, 1), (0x2d2d, 1), (0x2d30, 56), (0x2d6f, 2), (0x2d7f, 24), (0x2da0, 7),
    (0x2da8, 7), (0x2db0, 7), (0x2db8, 7), (0x2dc0, 7), (0x2dc8, 7), (0x2dd0, 7), (0x2dd8, 7),
    (0x2de0, 126), (0x2e80, 26), (0x2e9b, 89), (0x2f00, 214), (0x2ff0, 12)]
  entries := [
    "aaEN QUADabEMaaEN SPACEabEMabTHREE-PER-EMabFOUR-PER-EMabSIX-PER-EMabFIGUREabPUNCTUATIONabTHIN",
    "abHAIRabZERO WIDTHcaNON-JOINERcaJOINERaaLEFT-TO-RIGHT MARKabRIGHT-TO-LEFTaaHYPHEN",
    "abNON-BREAKINGaaFIGURE DASHabENabEMaaHORIZONTAL BARaaDOUBLE VERTICAL LINEbbLOW",
    "aaLEFT SINGLE QUOTATION MARKadRIGHTacSINGLE LOW-9bcHIGH-REVERSED-9acLEFT DOUBLEadRIGHT",
    "acDOUBLE LOW-9bcHIGH-REVERSED-9aaDAGGERabDOUBLEaaBULLETabTRIANGULARaaONE DOT LEADERacTWO",
    "aaHORIZONTAL ELLIPSISaaHYPHENATION POINTaaLINE SEPARATORabPARAGRAPHaaLEFT-TO-RIGHT EMBEDDING",
    "abRIGHT-TO-LEFTaaPOP DIRECTIONAL FORMATTINGaaLEFT-TO-RIGHT OVERRIDEabRIGHT-TO-LEFT",
    "aaNARROW NO-BREAK SPACEaaPER MILLE SIGNbbTEN THOUSANDaaPRIMEabDOUBLEabTRIPLEabREVERSED",
    "bbDOUBLEbbTRIPLEaaCARETaaSINGLE LEFT-POINTING ANGLE QUOTATION MARKbdRIGHT-POINTINGabREFERENCE",
    "abDOUBLE EXCLAMATIONaaINTERROBANGaaOVERLINEaaUNDERTIEaaCHARACTER TIEaaCARET INSERTION POINT",
    "aaASTERISMaaHYPHEN BULLETaaFRACTION SLASHaaLEFT SQUARE BRACKET WITH QUILLaeRIGHT",
    "aaDOUBLE QUESTION MARKabQUESTION EXCLAMATIONabEXCLAMATION QUESTIONaaTIRONIAN SIGN ET",
    "aaREVERSED PILCROW SIGNaaBLACK LEFTWARDS BULLETbbRIGHTWARDSaaLOW ASTERISKaaREVERSED SEMICOLON",
    "aaCLOSE UPaaTWO ASTERISKS ALIGNED VERTICALLYaaCOMMERCIAL MINUS SIGNaaSWUNG DASH",
    "aaINVERTED UNDERTIEaaFLOWER PUNCTUATION MARKaaTHREE DOT PUNCTUATIONaaQUADRUPLE PRIME",
    "aaFOUR DOT PUNCTUATIONacFIVEacTWOaaFOUR DOT MARKaaDOTTED CROSSaaTRICOLONaaVERTICAL FOUR DOTS",
    "aaMEDIUM MATHEMATICAL SPACEaaWORD JOINERaaFUNCTION APPLICATIONaaINVISIBLE TIMESbaSEPARATOR",
    "baPLUSaaLEFT-TO-RIGHT ISOLATEabRIGHT-TO-LEFTabFIRST STRONGabPOP DIRECTIONAL",
    "aaINHIBIT SYMMETRIC SWAPPINGacACTIVATEaaINHIBIT ARABIC FORM SHAPINGadACTIVATE",
    "aaNATIONAL DIGIT SHAPESacNOMINALaaSUPERSCRIPT ZERObaLATIN SMALL LETTER IbaFOURbaFIVEbaSIX",
    "baSEVENbaEIGHTbaNINEbaPLUS SIGNbaMINUSbaEQUALS SIGNbaLEFT PARENTHESISbbRIGHT",
    "baLATIN SMALL LETTER NaaSUBSCRIPT ZERObaONEbaTWObaTHREEbaFOURbaFIVEbaSIXbaSEVENbaEIGHTbaNINE",
    "baPLUS SIGNbaMINUSbaEQUALS SIGNbaLEFT PARENTHESISbbRIGHTaaLATIN SUBSCRIPT SMALL LETTER AeaE",
    "eaOeaXeaSCHWAeaHeaKeaLeaMeaNeaPeaSeaTaaEURO-CURRENCY SIGNabCOLONabCRUZEIROabFRENCH FRANC",
    "abLIRAabMILLabNAIRAabPESETAabRUPEEabWONabNEW SHEQELabDONGabEUROabKIPabTUGRIKabDRACHMA",
    "abGERMAN PENNYabPESOabGUARANIabAUSTRALabHRYVNIAabCEDIabLIVRE TOURNOISabSPESMILOabTENGE",
    "abINDIAN RUPEEabTURKISH LIRAabNORDIC MARKabMANATabRUBLEabLARIabBITCOINabSOM",
    "aaCOMBINING LEFT HARPOON ABOVEbcRIGHTbaLONG VERTICAL LINE OVERLAYbdSHORT",
    "baANTICLOCKWISE ARROW ABOVEbcCLOCKWISEbcLEFTbcRIGHTbaRING OVERLAYbcCLOCKWISEbcANTICLOCKWISE",
    "baTHREE DOTS ABOVEbcFOURbaENCLOSING CIRCLEcaSQUAREcaDIAMONDcaCIRCLE BACKSLASH",
    "baLEFT RIGHT ARROW ABOVEbaENCLOSING SCREENcaKEYCAPcaUPWARD POINTING TRIANGLE",
    "baREVERSE SOLIDUS OVERLAYbbDOUBLE VERTICAL STROKEbaANNUITY SYMBOLbaTRIPLE UNDERDOT",
    "baWIDE BRIDGE ABOVEbaLEFTWARDS ARROW OVERLAYbbLONG DOUBLE SOLIDUS",
    "baRIGHTWARDS HARPOON WITH BARB DOWNWARDSbeLEFTWARDSbaLEFT ARROW BELOWbcRIGHTbaASTERISK ABOVE",
    "aaACCOUNT OFaaADDRESSED TO THE SUBJECTaaDOUBLE-STRUCK CAPITAL CaaDEGREE CELSIUS",
    "aaCENTRE LINE SYMBOLaaCARE OFaaCADA UNAaaEULER CONSTANTaaSCRUPLEaaDEGREE FAHRENHEIT",
    "aaSCRIPT SMALL GbaCAPITAL HacBLACK-LETTERacDOUBLE-STRUCKaaPLANCK CONSTANTcaOVER TWO PI",
    "aaSCRIPT CAPITAL IacBLACK-LETTERaaSCRIPT CAPITAL LbbSMALLaaL B BAR SYMBOL",
    "aaDOUBLE-STRUCK CAPITAL NaaNUMERO SIGNaaSOUND RECORDING COPYRIGHTaaSCRIPT CAPITAL P",
    "acDOUBLE-STRUCKcaQaaSCRIPT CAPITAL RacBLACK-LETTERacDOUBLE-STRUCKaaPRESCRIPTION TAKE",
    "aaRESPONSEaaSERVICE MARKaaTELEPHONE SIGNabTRADE MARKaaVERSICLEaaDOUBLE-STRUCK CAPITAL Z",
    "aaOUNCE SIGNabOHMacINVERTEDaaBLACK-LETTER CAPITAL ZaaTURNED GREEK SMALL LETTER IOTA",
    "aaKELVIN SIGNabANGSTROMaaSCRIPT CAPITAL BaaBLACK-LETTER CAPITAL CaaESTIMATED SYMBOL",
    "aaSCRIPT SMALL EbbCAPITALcaFacTURNEDaaSCRIPT CAPITAL MbaSMALL OaaALEF SYMBOLabBETabGIMEL",
    "abDALETaaINFORMATION SOURCEaaROTATED CAPITAL QaaFACSIMILE SIGNaaDOUBLE-STRUCK SMALL PIcaGAMMA",
    "bbCAPITALcaPIbaN-ARY SUMMATIONaaTURNED SANS-SERIF CAPITAL GdaLadREVERSED",
    "aaTURNED SANS-SERIF CAPITAL YaaDOUBLE-STRUCK ITALIC CAPITAL DcbSMALLdaEdaIdaJaaPROPERTY LINE",
    "aaTURNED AMPERSANDaaPER SIGNaaAKTIESELSKABaaTURNED SMALL FaaSYMBOL FOR SAMARITAN SOURCE",
    "aaVULGAR FRACTION ONE SEVENTHdaNINTHdaTENTHdaTHIRDcaTWO THIRDScaONE FIFTHcaTWO FIFTHScbTHREE",
    "cbFOURcaONE SIXTHcaFIVE SIXTHScaONE EIGHTHcaTHREE EIGHTHScbFIVEcbSEVEN",
    "aaFRACTION NUMERATOR ONEabROMAN NUMERALcaTWOcaTHREEcaFOURcaFIVEcaSIXcaSEVENcaEIGHTcaNINEcaTEN",
    "caELEVENcaTWELVEcaFIFTYcaONE HUNDREDcbFIVEcaONE THOUSANDaaSMALL ROMAN NUMERAL ONEdaTWOdaTHREE",
    "daFOURdaFIVEdaSIXdaSEVENdaEIGHTdaNINEdaTENdaELEVENdaTWELVEdaFIFTYdaONE HUNDREDdbFIVE",
    "daONE THOUSANDaaROMAN NUMERAL ONE THOUSAND C DcaFIVE THOUSANDcbTENcaREVERSED ONE HUNDRED",
    "aaLATIN SMALL LETTER REVERSED CaaROMAN NUMERAL SIX LATE FORMcbFIFTY EARLYdaTHOUSAND",
    "cbONE HUNDREDaaVULGAR FRACTION ZERO THIRDSaaTURNED DIGIT TWOcaTHREEaaLEFTWARDS ARROWabUPWARDS",
    "abRIGHTWARDSabDOWNWARDSabLEFT RIGHTabUP DOWNabNORTH WESTbbEASTacSOUTHbbWEST",
    "aaLEFTWARDS ARROW WITH STROKEadRIGHTWARDSaaLEFTWARDS WAVE ARROWacRIGHTWARDS",
    "abLEFTWARDS TWO HEADEDadUPWARDSadRIGHTWARDSadDOWNWARDSaaLEFTWARDS ARROW WITH TAILadRIGHTWARDS",
    "aaLEFTWARDS ARROW FROM BARadUPWARDSadRIGHTWARDSadDOWNWARDSaaUP DOWN ARROW WITH BASE",
    "aaLEFTWARDS ARROW WITH HOOKadRIGHTWARDSaaLEFTWARDS ARROW WITH LOOPadRIGHTWARDS",
    "aaLEFT RIGHT WAVE ARROWcaARROW WITH STROKEaaDOWNWARDS ZIGZAG ARROW",
    "aaUPWARDS ARROW WITH TIP LEFTWARDSeaRIGHTWARDSaaDOWNWARDS ARROW WITH TIP LEFTWARDS",
    "eaRIGHTWARDSaaRIGHTWARDS ARROW WITH CORNER DOWNWARDSaaDOWNWARDS ARROW WITH CORNER LEFTWARDS",
    "aaANTICLOCKWISE TOP SEMICIRCLE ARROWadCLOCKWISEaaNORTH WEST ARROW TO LONG BAR",
    "abLEFTWARDS ARROW TO BAR OVER RIGHTWARDS ARROW TOaaANTICLOCKWISE OPEN CIRCLE ARROWadCLOCKWISE",
    "aaLEFTWARDS HARPOON WITH BARB UPWARDSeaDOWNWARDSaaUPWARDS HARPOON WITH BARB RIGHTWARDS",
    "eaLEFTWARDSaaRIGHTWARDS HARPOON WITH BARB UPWARDSeaDOWNWARDS",
    "aaDOWNWARDS HARPOON WITH BARB RIGHTWARDSeaLEFTWARDSaaRIGHTWARDS ARROW OVER LEFTWARDS ARROW",
    "abUPWARDS ARROW LEFTWARDS OF DOWNWARDSabLEFTWARDS ARROW OVER RIGHTWARDSbaPAIRED ARROWS",
    "acUPWARDSacRIGHTWARDSacDOWNWARDSaaLEFTWARDS HARPOON OVER RIGHTWARDS HARPOON",
    "abRIGHTWARDS HARPOON OVER LEFTWARDSaaLEFTWARDS DOUBLE ARROW WITH STROKEaeLEFT RIGHT",
    "aeRIGHTWARDSaaLEFTWARDS DOUBLE ARROWacUPWARDSacRIGHTWARDSacDOWNWARDSacLEFT RIGHTacUP DOWN",
    "acNORTH WESTbcEASTadSOUTHbcWESTabLEFTWARDS TRIPLEacRIGHTWARDSabLEFTWARDS SQUIGGLEacRIGHTWARDS",
    "aaUPWARDS ARROW WITH DOUBLE STROKEaeDOWNWARDSaaLEFTWARDS DASHED ARROWacUPWARDSacRIGHTWARDS",
    "acDOWNWARDSaaLEFTWARDS ARROW TO BARadRIGHTWARDSaaLEFTWARDS WHITE ARROWacUPWARDSacRIGHTWARDS",
    "acDOWNWARDSaaUPWARDS WHITE ARROW FROM BARdaON PEDESTALfaWITH HORIZONTAL BARgbVERTICAL",
    "caDOUBLE ARROWeaON PEDESTALaaRIGHTWARDS WHITE ARROW FROM WALLaaNORTH WEST ARROW TO CORNER",
    "adSOUTH EASTaaUP DOWN WHITE ARROWaaRIGHT ARROW WITH SMALL CIRCLE",
    "aaDOWNWARDS ARROW LEFTWARDS OF UPWARDS ARROWaaTHREE RIGHTWARDS ARROWS",
    "aaLEFTWARDS ARROW WITH VERTICAL STROKEaeRIGHTWARDSaeLEFT RIGHTacLEFTWARDS ARROW WITH DOUBLE",
    "afRIGHTWARDSafLEFT RIGHTaaLEFTWARDS OPEN-HEADED ARROWacRIGHTWARDSacLEFT RIGHTaaFOR ALL",
    "aaCOMPLEMENTaaPARTIAL DIFFERENTIALaaTHERE EXISTSbaDOES NOT EXISTaaEMPTY SETaaINCREMENTaaNABLA",
    "aaELEMENT OFacNOT ANacSMALLaaCONTAINS AS MEMBERacDOES NOT CONTAINacSMALL CONTAINS",
    "aaEND OF PROOFaaN-ARY PRODUCTbaCOPRODUCTbaSUMMATIONaaMINUS SIGNabMINUS-OR-PLUSaaDOT PLUS",
    "aaDIVISION SLASHaaSET MINUSaaASTERISK OPERATORabRINGabBULLETaaSQUARE ROOTabCUBEabFOURTH",
    "aaPROPORTIONAL TOaaINFINITYaaRIGHT ANGLEababMEASUREDabSPHERICALaaDIVIDESaaDOES NOT DIVIDE",
    "aaPARALLEL TOacNOTaaLOGICAL ANDbaORaaINTERSECTIONaaUNIONaaINTEGRALabDOUBLEabTRIPLEabCONTOUR",
    "abSURFACEabVOLUMEabCLOCKWISEbbCONTOURacANTICLOCKWISEaaTHEREFOREaaBECAUSEaaRATIOaaPROPORTION",
    "aaDOT MINUSaaEXCESSaaGEOMETRIC PROPORTIONaaHOMOTHETICaaTILDE OPERATORaaREVERSED TILDE",
    "aaINVERTED LAZY SaaSINE WAVEaaWREATH PRODUCTaaNOT TILDEabMINUSaaASYMPTOTICALLY EQUAL TOadNOT",
    "acAPPROXIMATELYbcBUT NOT ACTUALLYadNEITHER APPROXIMATELY NORacALMOSTadNOTacALMOST EQUAL OR",
    "aaTRIPLE TILDEaaALL EQUAL TOabEQUIVALENTacGEOMETRICALLYaaDIFFERENCE BETWEEN",
    "aaAPPROACHES THE LIMITaaGEOMETRICALLY EQUAL TOaaAPPROXIMATELY EQUAL TO OR THE IMAGE OF",
    "aaIMAGE OF OR APPROXIMATELY EQUAL TOaaCOLON EQUALSaaEQUALS COLONaaRING IN EQUAL TObc",
    "abCORRESPONDSaaESTIMATESaaEQUIANGULAR TOaaSTAR EQUALSaaDELTA EQUAL TOaaEQUAL TO BY DEFINITION",
    "aaMEASURED BYaaQUESTIONED EQUAL TOacNOTabIDENTICALacNOTabSTRICTLY EQUIVALENT",
    "abLESS-THAN OR EQUALadGREATER-THANacLESS-THAN OVERadGREATER-THANacLESS-THAN BUT NOT",
    "aeGREATER-THANaaMUCH LESS-THANbaGREATER-THANaaBETWEENaaNOT EQUIVALENT TObaLESS-THAN",
    "baGREATER-THANaaNEITHER LESS-THAN NOR EQUAL TObdGREATER-THANabLESS-THAN OR EQUIVALENT",
    "adGREATER-THANacNEITHER LESS-THAN NORbdGREATER-THANaaLESS-THAN OR GREATER-THAN",
    "aaGREATER-THAN OR LESS-THANaaNEITHER LESS-THAN NOR GREATER-THANbaGREATER-THAN NOR LESS-THAN",
    "aaPRECEDESaaSUCCEEDSaaPRECEDES OR EQUAL TOadSUCCEEDSabPRECEDES OR EQUIVALENTadSUCCEEDS",
    "aaDOES NOT PRECEDEcaSUCCEEDaaSUBSET OFabSUPERSETabNOT A SUBSETcbSUPERSET",
    "aaSUBSET OF OR EQUAL TOaeSUPERSETacNEITHER A SUBSET OF NORceSUPERSETacSUBSET OF WITH NOT",
    "afSUPERSETaaMULTISETbaMULTIPLICATIONbaUNIONaaSQUARE IMAGE OFbbORIGINALbaIMAGE OF OR EQUAL TO",
    "beORIGINALbaCAPbaCUPaaCIRCLED PLUSbaMINUSbaTIMESbaDIVISION SLASHbaDOT OPERATORbbRING",
    "bbASTERISKbaEQUALSbaDASHaaSQUARED PLUSbaMINUSbaTIMESbaDOT OPERATORaaRIGHT TACKabLEFTabDOWN",
    "abUPaaASSERTIONaaMODELSaaTRUEaaFORCESaaTRIPLE VERTICAL BAR RIGHT TURNSTILE",
    "acDOUBLE VERTICAL BAR DOUBLEaaDOES NOT PROVEaaNOT TRUEaaDOES NOT FORCE",
    "aaNEGATED DOUBLE VERTICAL BAR DOUBLE RIGHT TURNSTILEaaPRECEDES UNDER RELATIONacSUCCEEDS",
    "aaNORMAL SUBGROUP OFaaCONTAINS AS NORMAL SUBGROUPaaNORMAL SUBGROUP OF OR EQUAL TO",
    "adCONTAINS AS NORMAL SUBGROUPaaORIGINAL OFabIMAGEaaMULTIMAPaaHERMITIAN CONJUGATE MATRIX",
    "aaINTERCALATEaaXORaaNANDaaNORaaRIGHT ANGLE WITH ARCbaTRIANGLEaaN-ARY LOGICAL ANDcaOR",
    "baINTERSECTIONbaUNIONaaDIAMOND OPERATORabDOTabSTARaaDIVISION TIMESaaBOWTIE",
    "aaLEFT NORMAL FACTOR SEMIDIRECT PRODUCTaeRIGHTacLEFTacRIGHTaaREVERSED TILDE EQUALS",
    "aaCURLY LOGICAL ORcaANDaaDOUBLE SUBSETbaSUPERSETbaINTERSECTIONbaUNIONaaPITCHFORK",
    "aaEQUAL AND PARALLEL TOaaLESS-THAN WITH DOTacGREATER-THANaaVERY MUCH LESS-THANcaGREATER-THAN",
    "abLESS-THAN EQUAL TO ORaaGREATER-THAN EQUAL TO OR LESS-THANaedaGREATER-THANdaPRECEDES",
    "daSUCCEEDSaaDOES NOT PRECEDE OR EQUALccSUCCEEDaaNOT SQUARE IMAGE OF OR EQUAL TOceORIGINAL",
    "acSQUARE IMAGE OF OR NOTbfORIGINALabLESS-THAN BUT NOT EQUIVALENTaeGREATER-THANaePRECEDES",
    "aeSUCCEEDSaaNOT NORMAL SUBGROUP OFaaDOES NOT CONTAIN AS NORMAL SUBGROUP",
    "aaNOT NORMAL SUBGROUP OF OR EQUAL TOaaDOES NOT CONTAIN AS NORMAL SUBGROUP OR EQUAL",
    "aaVERTICAL ELLIPSISabMIDLINE HORIZONTALabUP RIGHT DIAGONALadDOWN",
    "aaELEMENT OF WITH LONG HORIZONTAL STROKEdcVERTICAL BAR AT END OFakSMALL",
    "aaELEMENT OF WITH DOT ABOVEdaOVERBARaeSMALLaaELEMENT OF WITH UNDERBARdaTWO HORIZONTAL STROKES",
    "aaCONTAINS WITH LONG HORIZONTAL STROKEccVERTICAL BAR AT END OFajSMALLaaCONTAINS WITH OVERBAR",
    "adSMALLaaZ NOTATION BAG MEMBERSHIPaaDIAMETER SIGNaaELECTRIC ARROWaaHOUSEaaUP ARROWHEADabDOWN",
    "aaPROJECTIVEaaPERSPECTIVEaaWAVY LINEaaLEFT CEILINGabRIGHTaaLEFT FLOORabRIGHT",
    "aaBOTTOM RIGHT CROPbbLEFTabTOP RIGHTbbLEFTaaREVERSED NOT SIGNaaSQUARE LOZENGEaaARCaaSEGMENT",
    "aaSECTORaaTELEPHONE RECORDERaaPOSITION INDICATORaaVIEWDATA SQUAREaaPLACE OF INTEREST SIGN",
    "abTURNED NOTaaWATCHaaHOURGLASSaaTOP LEFT CORNERbbRIGHTabBOTTOM LEFTbbRIGHTaaTOP HALF INTEGRAL",
    "acBOTTOMaaFROWNaaSMILEaaUP ARROWHEAD BETWEEN TWO HORIZONTAL BARSaaOPTION KEY",
    "aaERASE TO THE RIGHTaaX IN A RECTANGLE BOXaaKEYBOARDaaLEFT-POINTING ANGLE BRACKET",
    "acRIGHT-POINTINGaaERASE TO THE LEFTaaBENZENE RINGaaCYLINDRICITYaaALL AROUND-PROFILEaaSYMMETRY",
    "aaTOTAL RUNOUTaaDIMENSION ORIGINaaCONICAL TAPERaaSLOPEaaCOUNTERBOREaaCOUNTERSINK",
    "aaAPL FUNCTIONAL SYMBOL I-BEAMdaSQUISH QUADdaQUAD EQUALeaDIVIDEeaDIAMONDeaJOTeaCIRCLE",
    "daCIRCLE STILEeaJOTdaSLASH BARdbBACKSLASHdaQUAD SLASHeaBACKSLASHeaLESS-THANeaGREATER-THAN",
    "daLEFTWARDS VANEdbRIGHTWARDSdaQUAD LEFTWARDS ARROWebRIGHTWARDSdaCIRCLE BACKSLASH",
    "daDOWN TACK UNDERBARdaDELTA STILEdaQUAD DOWN CARETeaDELTAdaDOWN TACK JOTdaUPWARDS VANE",
    "daQUAD UPWARDS ARROWdaUP TACK OVERBARdaDEL STILEdaQUAD UP CARETeaDELdaUP TACK JOT",
    "daDOWNWARDS VANEdaQUAD DOWNWARDS ARROWdaQUOTE UNDERBARdbDELTAdbDIAMONDdbJOTdbCIRCLE",
    "daUP SHOE JOTdaQUOTE QUADdaCIRCLE STARdaQUAD COLONdaUP TACK DIAERESISdbDELdbSTARdbJOTdbCIRCLE",
    "daDOWN SHOE STILEdcLEFTdaTILDE DIAERESISdbGREATER-THANdaCOMMA BARdaDEL TILDEdaZILDE",
    "daSTILE TILDEdaSEMICOLON UNDERBARdaQUAD NOT EQUALeaQUESTIONdaDOWN CARET TILDEdcUPdaIOTAdaRHO",
    "daOMEGAdaALPHA UNDERBARdbEPSILONdbIOTAdbOMEGAdaALPHAaaNOT CHECK MARK",
    "aaRIGHT ANGLE WITH DOWNWARDS ZIGZAG ARROWaaSHOULDERED OPEN BOXaaBELL SYMBOL",
    "aaVERTICAL LINE WITH MIDDLE DOTaaINSERTION SYMBOLabCONTINUOUS UNDERLINEacDISCONTINUOUS",
    "abEMPHASISabCOMPOSITIONaaWHITE SQUARE WITH CENTRE VERTICAL LINEaaENTER SYMBOL",
    "abALTERNATIVE KEYabHELMaaCIRCLED HORIZONTAL BAR WITH NOTCHbaTRIANGLE DOWN",
    "aaBROKEN CIRCLE WITH NORTHWEST ARROWaaUNDO SYMBOLabMONOSTABLEabHYSTERESIS",
    "abOPEN-CIRCUIT-OUTPUT H-TYPEbbL-TYPEabPASSIVE-PULL-DOWN-OUTPUTabPASSIVE-PULL-UP-OUTPUT",
    "aaDIRECT CURRENT SYMBOL FORM TWOaaSOFTWARE-FUNCTION SYMBOLaaAPL FUNCTIONAL SYMBOL QUAD",
    "aaDECIMAL SEPARATOR KEY SYMBOLaaPREVIOUS PAGEabNEXTaaPRINT SCREEN SYMBOLacCLEAR",
    "aaLEFT PARENTHESIS UPPER HOOKcaEXTENSIONcaLOWER HOOKabRIGHT PARENTHESIS UPPERcaEXTENSION",
    "caLOWER HOOKaaLEFT SQUARE BRACKET UPPER CORNERdaEXTENSIONdaLOWER CORNER",
    "abRIGHT SQUARE BRACKET UPPERdaEXTENSIONdaLOWER CORNERaaLEFT CURLY BRACKET UPPER HOOK",
    "daMIDDLE PIECEdaLOWER HOOKaaCURLY BRACKET EXTENSIONaaRIGHT CURLY BRACKET UPPER HOOK",
    "daMIDDLE PIECEdaLOWER HOOKaaINTEGRAL EXTENSIONabHORIZONTAL LINE",
    "aaUPPER LEFT OR LOWER RIGHT CURLY BRACKET SECTIONbdRIGHT OR LOWER LEFTaaSUMMATION TOPbaBOTTOM",
    "aaTOP SQUARE BRACKETacBOTTOMdaOVER TOP SQUARE BRACKETaaRADICAL SYMBOL BOTTOM",
    "aaLEFT VERTICAL BOX LINEadRIGHTaaHORIZONTAL SCAN LINE-1caLINE-3caLINE-7caLINE-9",
    "aaDENTISTRY SYMBOL LIGHT VERTICAL AND TOP RIGHTfbBOTTOMeaWITH CIRCLEdcDOWN AND HORIZONTALdeUP",
    "daVERTICAL WITH TRIANGLEdcDOWN AND HORIZONTALdeUPdaVERTICAL AND WAVE",
    "dbDOWN AND HORIZONTAL WITHdeUPdaDOWN AND HORIZONTALdcUPdaVERTICAL AND TOP LEFTfbBOTTOM",
    "aaSQUARE FOOTaaRETURN SYMBOLabEJECTaaVERTICAL LINE EXTENSIONaaMETRICAL BREVEbaLONG OVER SHORT",
    "baSHORT OVER LONGbaLONG OVER TWO SHORTSbaTWO SHORTS OVER LONGdaJOINEDbaTRISEMEbaTETRASEME",
    "baPENTASEMEaaEARTH GROUNDaaFUSEaaTOP PARENTHESISabBOTTOMaaTOP CURLY BRACKETacBOTTOM",
    "abTOP TORTOISE SHELLadBOTTOMaaWHITE TRAPEZIUMaaBENZENE RING WITH CIRCLEaaSTRAIGHTNESS",
    "aaFLATNESSaaAC CURRENTaaELECTRICAL INTERSECTIONaaDECIMAL EXPONENT SYMBOL",
    "aaBLACK RIGHT-POINTING DOUBLE TRIANGLEbcLEFT-POINTINGbcUP-POINTINGbcDOWN-POINTING",
    "baRIGHT-POINTING DOUBLE TRIANGLE WITH VERTICAL BARbfLEFT-POINTING",
    "bcRIGHT-POINTING TRIANGLE WITH DOUBLEaaALARM CLOCKaaSTOPWATCHaaTIMER CLOCK",
    "aaHOURGLASS WITH FLOWING SANDaaBLACK MEDIUM LEFT-POINTING TRIANGLEcbRIGHT-POINTING",
    "cbUP-POINTINGcbDOWN-POINTINGaaDOUBLE VERTICAL BARaaBLACK SQUARE FOR STOPbaCIRCLE FOR RECORD",
    "aaPOWER SYMBOLbbON-OFFbbONbbSLEEPabOBSERVER EYEaaSYMBOL FOR NULLcaSTART OF HEADINGeaTEXTccEND",
    "eaTRANSMISSIONcaENQUIRYcaACKNOWLEDGEcaBELLcaBACKSPACEcaHORIZONTAL TABULATIONcaLINE FEED",
    "caVERTICAL TABULATIONcaFORM FEEDcaCARRIAGE RETURNcaSHIFT OUTdaINcaDATA LINK ESCAPE",
    "caDEVICE CONTROL ONEeaTWOeaTHREEeaFOURcaNEGATIVE ACKNOWLEDGEcaSYNCHRONOUS IDLE",
    "caEND OF TRANSMISSION BLOCKcaCANCELcaEND OF MEDIUMcaSUBSTITUTEcaESCAPEcaFILE SEPARATORcbGROUP",
    "cbRECORDcbUNITcaSPACEcaDELETEaaBLANK SYMBOLaaOPEN BOXaaSYMBOL FOR NEWLINEcaDELETE FORM TWO",
    "ccSUBSTITUTEaaOCR HOOKbaCHAIRbaFORKbbINVERTEDbaBELT BUCKLEbaBOW TIE",
    "baBRANCH BANK IDENTIFICATIONbaAMOUNT OF CHECKbaDASHbaCUSTOMER ACCOUNT NUMBER",
    "baDOUBLE BACKSLASHaaCIRCLED DIGIT ONEcaTWOcaTHREEcaFOURcaFIVEcaSIXcaSEVENcaEIGHTcaNINE",
    "baNUMBER TENcaELEVENcaTWELVEcaTHIRTEENcaFOURTEENcaFIFTEENcaSIXTEENcaSEVENTEENcaEIGHTEEN",
    "caNINETEENcaTWENTYaaPARENTHESIZED DIGIT ONEcaTWOcaTHREEcaFOURcaFIVEcaSIXcaSEVENcaEIGHTcaNINE",
    "baNUMBER TENcaELEVENcaTWELVEcaTHIRTEENcaFOURTEENcaFIFTEENcaSIXTEENcaSEVENTEENcaEIGHTEEN",
    "caNINETEENcaTWENTYaaDIGIT ONE FULL STOPbcTWObcTHREEbcFOURbcFIVEbcSIXbcSEVENbcEIGHTbcNINE",
    "acNUMBER TENbcELEVENbcTWELVEbcTHIRTEENbcFOURTEENbcFIFTEENbcSIXTEENbcSEVENTEENbcEIGHTEEN",
    "bcNINETEENbcTWENTYaaPARENTHESIZED LATIN SMALL LETTER AeaBeaCeaDeaEeaFeaGeaHeaIeaJeaKeaLeaMeaN",
    "eaOeaPeaQeaReaSeaTeaUeaVeaWeaXeaYeaZaaCIRCLED LATIN CAPITAL LETTER AeaBeaCeaDeaEeaFeaGeaHeaI",
    "eaJeaKeaLeaMeaNeaOeaPeaQeaReaSeaTeaUeaVeaWeaXeaYeaZcaSMALL LETTER AeaBeaCeaDeaEeaFeaGeaHeaI",
    "eaJeaKeaLeaMeaNeaOeaPeaQeaReaSeaTeaUeaVeaWeaXeaYeaZbaDIGIT ZERO",
    "aaNEGATIVE CIRCLED NUMBER ELEVENdaTWELVEdaTHIRTEENdaFOURTEENdaFIFTEENdaSIXTEENdaSEVENTEEN",
    "daEIGHTEENdaNINETEENdaTWENTYaaDOUBLE CIRCLED DIGIT ONEdaTWOdaTHREEdaFOURdaFIVEdaSIXdaSEVEN",
    "daEIGHTdaNINEcaNUMBER TENaaNEGATIVE CIRCLED DIGIT ZEROaaBOX DRAWINGS LIGHT HORIZONTALcbHEAVY",
    "caLIGHT VERTICALcbHEAVYcaLIGHT TRIPLE DASH HORIZONTALcdHEAVYcaLIGHT TRIPLE DASH VERTICAL",
    "cdHEAVYcaLIGHT QUADRUPLE DASH HORIZONTALcdHEAVYcaLIGHT QUADRUPLE DASH VERTICALcdHEAVY",
    "caLIGHT DOWN AND RIGHTcaDOWN LIGHT AND RIGHT HEAVYdaHEAVY AND RIGHT LIGHT",
    "caHEAVY DOWN AND RIGHTcaLIGHT DOWN AND LEFTcaDOWN LIGHT AND LEFT HEAVYdaHEAVY AND LEFT LIGHT",
    "caHEAVY DOWN AND LEFTcaLIGHT UP AND RIGHTcaUP LIGHT AND RIGHT HEAVYdaHEAVY AND RIGHT LIGHT",
    "caHEAVY UP AND RIGHTcaLIGHT UP AND LEFTcaUP LIGHT AND LEFT HEAVYdaHEAVY AND LEFT LIGHT",
    "caHEAVY UP AND LEFTcaLIGHT VERTICAL AND RIGHTcaVERTICAL LIGHT AND RIGHT HEAVY",
    "caUP HEAVY AND RIGHT DOWN LIGHTcbDOWN HEAVY AND RIGHT UPcbVERTICAL HEAVY AND RIGHT",
    "caDOWN LIGHT AND RIGHT UP HEAVYcbUP LIGHT AND RIGHT DOWNcaHEAVY VERTICAL AND RIGHT",
    "caLIGHT VERTICAL AND LEFTcaVERTICAL LIGHT AND LEFT HEAVYcaUP HEAVY AND LEFT DOWN LIGHT",
    "cbDOWN HEAVY AND LEFT UPcbVERTICAL HEAVY AND LEFTcaDOWN LIGHT AND LEFT UP HEAVY",
    "cbUP LIGHT AND LEFT DOWNcaHEAVY VERTICAL AND LEFTcaLIGHT DOWN AND HORIZONTAL",
    "caLEFT HEAVY AND RIGHT DOWN LIGHTccRIGHT HEAVY AND LEFTcaDOWN LIGHT AND HORIZONTAL HEAVY",
    "daHEAVY AND HORIZONTAL LIGHTcaRIGHT LIGHT AND LEFT DOWN HEAVYccLEFT LIGHT AND RIGHT",
    "caHEAVY DOWN AND HORIZONTALccLIGHT UPcaLEFT HEAVY AND RIGHT UP LIGHTccRIGHT HEAVY AND LEFT",
    "caUP LIGHT AND HORIZONTAL HEAVYdaHEAVY AND HORIZONTAL LIGHTcaRIGHT LIGHT AND LEFT UP HEAVY",
    "ccLEFT LIGHT AND RIGHTcaHEAVY UP AND HORIZONTALccLIGHT VERTICAL",
    "caLEFT HEAVY AND RIGHT VERTICAL LIGHTccRIGHT HEAVY AND LEFT",
    "caVERTICAL LIGHT AND HORIZONTAL HEAVYcaUP HEAVY AND DOWN HORIZONTAL LIGHTccDOWN HEAVY AND UP",
    "ccVERTICAL HEAVY ANDcbLEFT UP HEAVY AND RIGHT DOWNccRIGHT UP HEAVY AND LEFT",
    "cbLEFT DOWN HEAVY AND RIGHT UPccRIGHT DOWN HEAVY AND LEFTcaDOWN LIGHT AND UP HORIZONTAL HEAVY",
    "ccUP LIGHT AND DOWNcbRIGHT LIGHT AND LEFT VERTICALccLEFT LIGHT AND RIGHT",
    "caHEAVY VERTICAL AND HORIZONTALcbLIGHT DOUBLE DASHcdHEAVYcaLIGHT DOUBLE DASH VERTICALcdHEAVY",
    "caDOUBLE HORIZONTALdaVERTICALcaDOWN SINGLE AND RIGHT DOUBLEdaDOUBLE AND RIGHT SINGLE",
    "caDOUBLE DOWN AND RIGHTcaDOWN SINGLE AND LEFT DOUBLEdaDOUBLE AND LEFT SINGLE",
    "caDOUBLE DOWN AND LEFTcaUP SINGLE AND RIGHT DOUBLEdaDOUBLE AND RIGHT SINGLE",
    "caDOUBLE UP AND RIGHTcaUP SINGLE AND LEFT DOUBLEdaDOUBLE AND LEFT SINGLEcaDOUBLE UP AND LEFT",
    "caVERTICAL SINGLE AND RIGHT DOUBLEdaDOUBLE AND RIGHT SINGLEcaDOUBLE VERTICAL AND RIGHT",
    "caVERTICAL SINGLE AND LEFT DOUBLEdaDOUBLE AND LEFT SINGLEcaDOUBLE VERTICAL AND LEFT",
    "caDOWN SINGLE AND HORIZONTAL DOUBLEdaDOUBLE AND HORIZONTAL SINGLEcaDOUBLE DOWN AND HORIZONTAL",
    "caUP SINGLE AND HORIZONTAL DOUBLEdaDOUBLE AND HORIZONTAL SINGLEcaDOUBLE UP AND HORIZONTAL",
    "caVERTICAL SINGLE AND HORIZONTAL DOUBLEdaDOUBLE AND HORIZONTAL SINGLE",
    "caDOUBLE VERTICAL AND HORIZONTALcaLIGHT ARC DOWN AND RIGHTgaLEFTecUPgaRIGHT",
    "daDIAGONAL UPPER RIGHT TO LOWER LEFTfaLEFT TO LOWER RIGHTeaCROSSdaLEFTdaUPdaRIGHTdaDOWN",
    "caHEAVY LEFTdaUPdaRIGHTdaDOWNcaLIGHT LEFT AND HEAVY RIGHTdaUP AND HEAVY DOWN",
    "caHEAVY LEFT AND LIGHT RIGHTdaUP AND LIGHT DOWNaaUPPER HALF BLOCKabLOWER ONE EIGHTHcbQUARTER",
    "bbTHREE EIGHTHSbbHALFbbFIVE EIGHTHSbbTHREE QUARTERSbbSEVEN EIGHTHSabFULLabLEFT SEVEN EIGHTHS",
    "bbTHREE QUARTERSbbFIVE EIGHTHSbbHALFbbTHREE EIGHTHSbbONE QUARTERcbEIGHTHabRIGHT HALF",
    "aaLIGHT SHADEabMEDIUMabDARKaaUPPER ONE EIGHTH BLOCKadRIGHTaaQUADRANT LOWER LEFTcaRIGHT",
    "baUPPER LEFTdaAND LOWER LEFT AND LOWER RIGHTfbeaUPPER RIGHT AND LOWER LEFTiaRIGHTcb",
    "daAND LOWER LEFTgaAND LOWER RIGHTaaBLACK SQUAREabWHITEcaWITH ROUNDED CORNERS",
    "caCONTAINING BLACK SMALL SQUAREaaSQUARE WITH HORIZONTAL FILLcbVERTICALcbORTHOGONAL CROSSHATCH",
    "cbUPPER LEFT TO LOWER RIGHTdbRIGHT TO LOWER LEFTcbDIAGONAL CROSSHATCHaaBLACK SMALL SQUARE",
    "acWHITEaaBLACK RECTANGLEabWHITEabBLACK VERTICALacWHITEaaBLACK PARALLELOGRAMabWHITE",
    "aaBLACK UP-POINTING TRIANGLEacWHITEabBLACK UP-POINTING SMALLadWHITEabBLACK RIGHT-POINTING",
    "acWHITEabBLACK RIGHT-POINTING SMALLadWHITEaaBLACK RIGHT-POINTING POINTERacWHITE",
    "aaBLACK DOWN-POINTING TRIANGLEacWHITEabBLACK DOWN-POINTING SMALLadWHITEabBLACK LEFT-POINTING",
    "acWHITEabBLACK LEFT-POINTING SMALLadWHITEaaBLACK LEFT-POINTING POINTERacWHITEaaBLACK DIAMOND",
    "abWHITEcaCONTAINING BLACK SMALL DIAMONDaaFISHEYEaaLOZENGEaaWHITE CIRCLEabDOTTED",
    "aaCIRCLE WITH VERTICAL FILLaaBULLSEYEaaBLACK CIRCLEaaCIRCLE WITH LEFT HALF BLACKccRIGHT",
    "ccLOWERccUPPERdbRIGHT QUADRANTccALL BUT UPPER LEFTaaLEFT HALF BLACK CIRCLEadRIGHT",
    "aaINVERSE BULLETbaWHITE CIRCLEadUPPER HALFaeLOWERaaUPPER LEFT QUADRANT CIRCULAR ARCbdRIGHT",
    "aeLOWERbdLEFTaaUPPER HALF CIRCLEacLOWERaaBLACK LOWER RIGHT TRIANGLEcbLEFTbcUPPERcbRIGHT",
    "aaWHITE BULLETaaSQUARE WITH LEFT HALF BLACKccRIGHTccUPPER LEFT DIAGONALcdLOWER RIGHT",
    "aaWHITE SQUARE WITH VERTICAL BISECTING LINEbaUP-POINTING TRIANGLE WITH DOT",
    "aaUP-POINTING TRIANGLE WITH LEFT HALF BLACKdcRIGHTaaLARGE CIRCLE",
    "aaWHITE SQUARE WITH UPPER LEFT QUADRANTdcLOWERebRIGHTdcUPPERbbCIRCLE WITH UPPER LEFTdcLOWER",
    "ebRIGHTdcUPPERaaUPPER LEFT TRIANGLEbbRIGHTabLOWER LEFTaaWHITE MEDIUM SQUAREacBLACK",
    "abWHITE MEDIUM SMALLadBLACKaaLOWER RIGHT TRIANGLEaaBLACK SUN WITH RAYSaaCLOUDaaUMBRELLA",
    "aaSNOWMANaaCOMETaaBLACK STARabWHITEaaLIGHTNINGaaTHUNDERSTORMaaSUNaaASCENDING NODEabDESCENDING",
    "aaCONJUNCTIONaaOPPOSITIONaaBLACK TELEPHONEabWHITEaaBALLOT BOXcaWITH CHECKdaXaaSALTIRE",
    "aaUMBRELLA WITH RAIN DROPSaaHOT BEVERAGEaaWHITE SHOGI PIECEacBLACKaaSHAMROCK",
    "aaREVERSED ROTATED FLORAL HEART BULLETaaBLACK LEFT POINTING INDEXbcRIGHTacWHITE LEFTbcUP",
    "bcRIGHTbcDOWNaaSKULL AND CROSSBONESaaCAUTION SIGNabRADIOACTIVEabBIOHAZARDaaCADUCEUSaaANKH",
    "aaORTHODOX CROSSaaCHI RHOaaCROSS OF LORRAINEcaJERUSALEMaaSTAR AND CRESCENTaaFARSI SYMBOL",
    "aaADI SHAKTIaaHAMMER AND SICKLEaaPEACE SYMBOLaaYIN YANGaaTRIGRAM FOR HEAVENcaLAKEcaFIRE",
    "caTHUNDERcaWINDcaWATERcaMOUNTAINcaEARTHaaWHEEL OF DHARMAaaWHITE FROWNING FACEbbSMILINGacBLACK",
    "aaWHITE SUN WITH RAYSaaFIRST QUARTER MOONacLASTaaMERCURYaaFEMALE SIGNaaEARTHaaMALE SIGN",
    "aaJUPITERaaSATURNaaURANUSaaNEPTUNEaaPLUTOaaARIESaaTAURUSaaGEMINIaaCANCERaaLEOaaVIRGOaaLIBRA",
    "aaSCORPIUSaaSAGITTARIUSaaCAPRICORNaaAQUARIUSaaPISCESaaWHITE CHESS KINGcaQUEENcaROOKcaBISHOP",
    "caKNIGHTcaPAWNaaBLACK CHESS KINGcaQUEENcaROOKcaBISHOPcaKNIGHTcaPAWNbaSPADE SUITabWHITE HEART",
    "bbDIAMONDabBLACK CLUBabWHITE SPADEabBLACK HEARTbbDIAMONDabWHITE CLUBaaHOT SPRINGS",
    "aaQUARTER NOTEabEIGHTHaaBEAMED EIGHTH NOTESbbSIXTEENTHaaMUSIC FLAT SIGNbbNATURALbbSHARP",
    "aaWEST SYRIAC CROSSacEASTaaUNIVERSAL RECYCLING SYMBOLaaRECYCLING SYMBOL FOR TYPE-1 PLASTICS",
    "dbTYPE-2dbTYPE-3dbTYPE-4dbTYPE-5dbTYPE-6dbTYPE-7daGENERIC MATERIALS",
    "aaBLACK UNIVERSAL RECYCLING SYMBOLabRECYCLED PAPERacPARTIALLY-RECYCLEDaaPERMANENT PAPER SIGN",
    "aaWHEELCHAIR SYMBOLaaDIE FACE-1baFACE-2baFACE-3baFACE-4baFACE-5baFACE-6",
    "aaWHITE CIRCLE WITH DOT RIGHTdaTWO DOTSaaBLACK CIRCLE WITH WHITE DOT RIGHTdaTWO WHITE DOTS",
    "aaMONOGRAM FOR YANGcaYINaaDIGRAM FOR GREATER YANGcaLESSER YINdaYANGcaGREATER YINaaWHITE FLAG",
    "abBLACKaaHAMMER AND PICKaaANCHORaaCROSSED SWORDSaaSTAFF OF AESCULAPIUSaaSCALESaaALEMBIC",
    "aaFLOWERaaGEARaaSTAFF OF HERMESaaATOM SYMBOLaaFLEUR-DE-LISaaOUTLINED WHITE STAR",
    "aaTHREE LINES CONVERGING RIGHTdaLEFTaaWARNING SIGNabHIGH VOLTAGEabDOUBLED FEMALEbbMALE",
    "acINTERLOCKED FEMALE ANDabMALE AND FEMALEbbWITH STROKEdbAND MALE AND FEMALE",
    "abVERTICAL MALE WITH STROKEaeHORIZONTALaaMEDIUM WHITE CIRCLEbbBLACKbbSMALL WHITE",
    "aaMARRIAGE SYMBOLabDIVORCEabUNMARRIED PARTNERSHIPaaCOFFINaaFUNERAL URNaaNEUTERaaCERESaaPALLAS",
    "aaJUNOaaVESTAaaCHIRONaaBLACK MOON LILITHaaSEXTILEaaSEMISEXTILEaaQUINCUNXaaSESQUIQUADRATE",
    "aaSOCCER BALLaaBASEBALLaaSQUARED KEYaaWHITE DRAUGHTS MANcaKINGaaBLACK DRAUGHTS MANcaKING",
    "aaSNOWMAN WITHOUT SNOWaaSUN BEHIND CLOUDaaRAINaaBLACK SNOWMANaaTHUNDER CLOUD AND RAIN",
    "aaTURNED WHITE SHOGI PIECEbcBLACKaaWHITE DIAMOND IN SQUAREaaCROSSING LANESaaDISABLED CAR",
    "aaOPHIUCHUSaaPICKaaCAR SLIDINGaaHELMET WITH WHITE CROSSaaCIRCLED CROSSING LANESaaCHAINS",
    "aaNO ENTRYaaALTERNATE ONE-WAY LEFT WAY TRAFFICadBLACK TWO-WAYaeWHITEaaBLACK LEFT LANE MERGE",
    "adWHITEaaDRIVE SLOW SIGNaaHEAVY WHITE DOWN-POINTING TRIANGLEaaLEFT CLOSED ENTRY",
    "aaSQUARED SALTIREaaFALLING DIAGONAL IN WHITE CIRCLE IN BLACK SQUAREaaBLACK TRUCK",
    "aaRESTRICTED LEFT ENTRY-1caENTRY-2aaASTRONOMICAL SYMBOL FOR URANUS",
    "aaHEAVY CIRCLE WITH STROKE AND TWO DOTS ABOVEaaPENTAGRAMabRIGHT-HANDED INTERLACED",
    "acLEFT-HANDEDabINVERTEDaaBLACK CROSS ON SHIELDaaSHINTO SHRINEaaCHURCHaaCASTLEaaHISTORIC SITE",
    "aaGEAR WITHOUT HUBbaWITH HANDLESaaMAP SYMBOL FOR LIGHTHOUSEaaMOUNTAINaaUMBRELLA ON GROUND",
    "aaFOUNTAINaaFLAG IN HOLEaaFERRYaaSAILBOATaaSQUARE FOUR CORNERSaaSKIERaaICE SKATE",
    "aaPERSON WITH BALLaaTENTaaJAPANESE BANK SYMBOLabHEADSTONE GRAVEYARDaaFUEL PUMP",
    "aaCUP ON BLACK SQUAREaaWHITE FLAG WITH HORIZONTAL MIDDLE BLACK STRIPEaaBLACK SAFETY SCISSORS",
    "abUPPER BLADEabBLACKabLOWER BLADEabWHITEbaHEAVY CHECK MARKaaTELEPHONE LOCATION SIGN",
    "aaTAPE DRIVEaaAIRPLANEaaENVELOPEaaRAISED FISTbaHANDabVICTORYabWRITINGaaLOWER RIGHT PENCILab",
    "abUPPER RIGHTaaWHITE NIBabBLACKaaCHECK MARKacHEAVYaaMULTIPLICATION XacHEAVYabBALLOTacHEAVY",
    "aaOUTLINED GREEK CROSSacHEAVYabOPEN CENTREadHEAVYabLATINacSHADOWED WHITEacOUTLINEDabMALTESE",
    "aaSTAR OF DAVIDaaFOUR TEARDROP-SPOKED ASTERISKbbBALLOON-SPOKEDadHEAVYabFOUR CLUB-SPOKED",
    "aaBLACK FOUR POINTED STARadWHITEaaSPARKLESaaSTRESS OUTLINED WHITE STARacCIRCLED",
    "abOPEN CENTRE BLACKabBLACK CENTRE WHITEabOUTLINED BLACKadHEAVYabPINWHEELabSHADOWED WHITE",
    "aaHEAVY ASTERISKabOPEN CENTREabEIGHT SPOKEDbaPOINTED BLACK STARcbPINWHEELabSIX POINTED BLACK",
    "acEIGHT POINTED RECTILINEARafHEAVYacTWELVE POINTEDaaSIXTEEN POINTED ASTERISKabTEARDROP-SPOKED",
    "acOPEN CENTREacHEAVYaaSIX PETALLED BLACK AND WHITE FLORETTEabBLACKabWHITE",
    "abEIGHT PETALLED OUTLINED BLACKaaCIRCLED OPEN CENTRE EIGHT POINTED STAR",
    "aaHEAVY TEARDROP-SPOKED PINWHEEL ASTERISKaaSNOWFLAKEabTIGHT TRIFOLIATEabHEAVY CHEVRON",
    "aaSPARKLEabHEAVYaaBALLOON-SPOKED ASTERISKabEIGHT TEARDROP-SPOKED PROPELLERaeHEAVYaaCROSS MARK",
    "aaSHADOWED WHITE CIRCLEaaNEGATIVE SQUARED CROSS MARKaaLOWER RIGHT DROP-SHADOWED WHITE SQUARE",
    "aeUPPERacLOWER RIGHT SHADOWEDaeUPPERaaBLACK QUESTION MARK ORNAMENTadWHITEbcEXCLAMATION",
    "aaBLACK DIAMOND MINUS WHITE XaaHEAVY EXCLAMATION MARK SYMBOLaaLIGHT VERTICAL BARacMEDIUM",
    "acHEAVYbaSINGLE TURNED COMMA QUOTATION MARK ORNAMENTcebeDOUBLE TURNEDcebeLOW SINGLEceDOUBLE",
    "abCURVED STEM PARAGRAPH SIGNabHEAVY EXCLAMATION MARKbdHEARTbaBLACK HEART",
    "aaROTATED HEAVY BLACK HEART BULLETaaFLORAL HEARTaaROTATED FLORAL HEART BULLET",
    "aaMEDIUM LEFT PARENTHESIS ORNAMENTbcRIGHTbcFLATTENED LEFTccRIGHTbbLEFT-POINTING ANGLE BRACKET",
    "bdRIGHT-POINTINGabHEAVY LEFT-POINTING ANGLE QUOTATION MARKbeRIGHT-POINTING",
    "bbLEFT-POINTING ANGLE BRACKETbdRIGHT-POINTINGacLIGHT LEFT TORTOISE SHELLbeRIGHT",
    "acMEDIUM LEFT CURLYbdRIGHTaaDINGBAT NEGATIVE CIRCLED DIGIT ONEeaTWOeaTHREEeaFOUReaFIVEeaSIX",
    "eaSEVENeaEIGHTeaNINEdaNUMBER TENbaCIRCLED SANS-SERIF DIGIT ONEeaTWOeaTHREEeaFOUReaFIVEeaSIX",
    "eaSEVENeaEIGHTeaNINEdaNUMBER TENbaNEGATIVE CIRCLED SANS-SERIF DIGIT ONEfaTWOfaTHREEfaFOUR",
    "faFIVEfaSIXfaSEVENfaEIGHTfaNINEeaNUMBER TENaaHEAVY WIDE-HEADED RIGHTWARDS ARROWbaPLUS SIGN",
    "bbMINUSbbDIVISIONbaSOUTH EAST ARROWbbRIGHTWARDSbbNORTH EASTabDRAFTING POINT RIGHTWARDS",
    "acHEAVY ROUND-TIPPEDacTRIANGLE-HEADEDadHEAVYadDASHEDaeHEAVYacBLACK",
    "aaTHREE-D TOP-LIGHTED RIGHTWARDS ARROWHEADbcBOTTOM-LIGHTEDacBLACK",
    "aaHEAVY BLACK CURVED DOWNWARDS AND RIGHTWARDS ARROWddUPWARDSacSQUAT BLACK",
    "adHEAVY CONCAVE-POINTEDacRIGHT-SHADED WHITEadLEFT-SHADEDadBACK-TILTED SHADOWEDaeFRONT-TILTED",
    "adHEAVY LOWER RIGHT-SHADOWEDbeUPPERaeNOTCHED LOWERaaCURLY LOOP",
    "aaNOTCHED UPPER RIGHT-SHADOWED WHITE RIGHTWARDS ARROWadCIRCLED HEAVYacWHITE-FEATHERED",
    "abBLACK-FEATHERED SOUTH EASTbbRIGHTWARDSbbNORTH EASTacHEAVY BLACK-FEATHERED SOUTHcbRIGHTWARDS",
    "cbNORTH EASTabTEARDROP-BARBED RIGHTWARDSacHEAVY TEARDROP-SHANKEDacWEDGE-TAILEDadHEAVY",
    "acOPEN-OUTLINEDaaDOUBLE CURLY LOOPaaTHREE DIMENSIONAL ANGLE",
    "aaWHITE TRIANGLE CONTAINING SMALL WHITE TRIANGLEaaPERPENDICULARaaOPEN SUBSETbaSUPERSET",
    "aaLEFT S-SHAPED BAG DELIMITERadRIGHTaaOR WITH DOT INSIDEaaREVERSE SOLIDUS PRECEDING SUBSET",
    "aaSUPERSET PRECEDING SOLIDUSaaVERTICAL BAR WITH HORIZONTAL STROKE",
    "aaMATHEMATICAL RISING DIAGONALaaLONG DIVISIONaaMATHEMATICAL FALLING DIAGONAL",
    "aaSQUARED LOGICAL ANDcaORaaWHITE DIAMOND WITH CENTRED DOTabAND WITH",
    "aaELEMENT OF OPENING UPWARDSaaLOWER RIGHT CORNER WITH DOTadUPPER LEFTaaLEFT OUTER JOINacRIGHT",
    "acFULLaaLARGE UP TACKbbDOWNaaLEFT AND RIGHT DOUBLE TURNSTILEdaTACKbaMULTIMAPaaLONG RIGHT TACK",
    "bbLEFTaaUP TACK WITH CIRCLE ABOVEaaLOZENGE DIVIDED BY HORIZONTAL RULE",
    "aaWHITE CONCAVE-SIDED DIAMONDdaWITH LEFTWARDS TICKebRIGHTWARDSbbSQUARE WITH LEFTWARDS",
    "dbRIGHTWARDSaaMATHEMATICAL LEFT WHITE SQUARE BRACKETbdRIGHTbbLEFT ANGLEbcRIGHTbcLEFT DOUBLE",
    "bdRIGHTbbLEFT WHITE TORTOISE SHELLbeRIGHTbaLEFT FLATTENED PARENTHESISbcRIGHT",
    "aaUPWARDS QUADRUPLE ARROWacDOWNWARDSabANTICLOCKWISE GAPPED CIRCLEadCLOCKWISE",
    "aaRIGHT ARROW WITH CIRCLED PLUSaaLONG LEFTWARDS ARROWbbRIGHTWARDSbbLEFT RIGHT",
    "bbLEFTWARDS DOUBLEbcRIGHTWARDSbcLEFT RIGHTbaLEFTWARDS ARROW FROM BARbdRIGHTWARDS",
    "bdLEFTWARDS DOUBLEbeRIGHTWARDScaSQUIGGLE ARROWaaBRAILLE PATTERN BLANKcaDOTS-1caDOTS-2",
    "caDOTS-12caDOTS-3caDOTS-13caDOTS-23caDOTS-123caDOTS-4caDOTS-14caDOTS-24caDOTS-124caDOTS-34",
    "caDOTS-134caDOTS-234caDOTS-1234caDOTS-5caDOTS-15caDOTS-25caDOTS-125caDOTS-35caDOTS-135",
    "caDOTS-235caDOTS-1235caDOTS-45caDOTS-145caDOTS-245caDOTS-1245caDOTS-345caDOTS-1345caDOTS-2345",
    "caDOTS-12345caDOTS-6caDOTS-16caDOTS-26caDOTS-126caDOTS-36caDOTS-136caDOTS-236caDOTS-1236",
    "caDOTS-46caDOTS-146caDOTS-246caDOTS-1246caDOTS-346caDOTS-1346caDOTS-2346caDOTS-12346caDOTS-56",
    "caDOTS-156caDOTS-256caDOTS-1256caDOTS-356caDOTS-1356caDOTS-2356caDOTS-12356caDOTS-456",
    "caDOTS-1456caDOTS-2456caDOTS-12456caDOTS-3456caDOTS-13456caDOTS-23456caDOTS-123456caDOTS-7",
    "caDOTS-17caDOTS-27caDOTS-127caDOTS-37caDOTS-137caDOTS-237caDOTS-1237caDOTS-47caDOTS-147",
    "caDOTS-247caDOTS-1247caDOTS-347caDOTS-1347caDOTS-2347caDOTS-12347caDOTS-57caDOTS-157",
    "caDOTS-257caDOTS-1257caDOTS-357caDOTS-1357caDOTS-2357caDOTS-12357caDOTS-457caDOTS-1457",
    "caDOTS-2457caDOTS-12457caDOTS-3457caDOTS-13457caDOTS-23457caDOTS-123457caDOTS-67caDOTS-167",
    "caDOTS-267caDOTS-1267caDOTS-367caDOTS-1367caDOTS-2367caDOTS-12367caDOTS-467caDOTS-1467",
    "caDOTS-2467caDOTS-12467caDOTS-3467caDOTS-13467caDOTS-23467caDOTS-123467caDOTS-567caDOTS-1567",
    "caDOTS-2567caDOTS-12567caDOTS-3567caDOTS-13567caDOTS-23567caDOTS-123567caDOTS-4567",
    "caDOTS-14567caDOTS-24567caDOTS-124567caDOTS-34567caDOTS-134567caDOTS-234567caDOTS-1234567",
    "caDOTS-8caDOTS-18caDOTS-28caDOTS-128caDOTS-38caDOTS-138caDOTS-238caDOTS-1238caDOTS-48",
    "caDOTS-148caDOTS-248caDOTS-1248caDOTS-348caDOTS-1348caDOTS-2348caDOTS-12348caDOTS-58",
    "caDOTS-158caDOTS-258caDOTS-1258caDOTS-358caDOTS-1358caDOTS-2358caDOTS-12358caDOTS-458",
    "caDOTS-1458caDOTS-2458caDOTS-12458caDOTS-3458caDOTS-13458caDOTS-23458caDOTS-123458caDOTS-68",
    "caDOTS-168caDOTS-268caDOTS-1268caDOTS-368caDOTS-1368caDOTS-2368caDOTS-12368caDOTS-468",
    "caDOTS-1468caDOTS-2468caDOTS-12468caDOTS-3468caDOTS-13468caDOTS-23468caDOTS-123468caDOTS-568",
    "caDOTS-1568caDOTS-2568caDOTS-12568caDOTS-3568caDOTS-13568caDOTS-23568caDOTS-123568caDOTS-4568",
    "caDOTS-14568caDOTS-24568caDOTS-124568caDOTS-34568caDOTS-134568caDOTS-234568caDOTS-1234568",
    "caDOTS-78caDOTS-178caDOTS-278caDOTS-1278caDOTS-378caDOTS-1378caDOTS-2378caDOTS-12378",
    "caDOTS-478caDOTS-1478caDOTS-2478caDOTS-12478caDOTS-3478caDOTS-13478caDOTS-23478caDOTS-123478",
    "caDOTS-578caDOTS-1578caDOTS-2578caDOTS-12578caDOTS-3578caDOTS-13578caDOTS-23578caDOTS-123578",
    "caDOTS-4578caDOTS-14578caDOTS-24578caDOTS-124578caDOTS-34578caDOTS-134578caDOTS-234578",
    "caDOTS-1234578caDOTS-678caDOTS-1678caDOTS-2678caDOTS-12678caDOTS-3678caDOTS-13678caDOTS-23678",
    "caDOTS-123678caDOTS-4678caDOTS-14678caDOTS-24678caDOTS-124678caDOTS-34678caDOTS-134678",
    "caDOTS-234678caDOTS-1234678caDOTS-5678caDOTS-15678caDOTS-25678caDOTS-125678caDOTS-35678",
    "caDOTS-135678caDOTS-235678caDOTS-1235678caDOTS-45678caDOTS-145678caDOTS-245678caDOTS-1245678",
    "caDOTS-345678caDOTS-1345678caDOTS-2345678caDOTS-12345678",
    "aaRIGHTWARDS TWO-HEADED ARROW WITH VERTICAL STROKEecDOUBLEacLEFTWARDS DOUBLE ARROW WITH",
    "afRIGHTWARDSafLEFT RIGHTaaRIGHTWARDS TWO-HEADED ARROW FROM BARadLEFTWARDS DOUBLEaeRIGHTWARDS",
    "aaDOWNWARDS ARROW WITH HORIZONTAL STROKEaeUPWARDSbaTRIPLE ARROWacDOWNWARDS",
    "abLEFTWARDS DOUBLE DASHadRIGHTWARDSacLEFTWARDS TRIPLEadRIGHTWARDSbdTWO-HEADED",
    "baARROW WITH DOTTED STEMaaUPWARDS ARROW TO BARadDOWNWARDS",
    "aaRIGHTWARDS ARROW WITH TAIL WITH VERTICAL STROKEfcDOUBLEbaTWO-HEADED ARROW WITH TAIL",
    "faWITH VERTICAL STROKEgcDOUBLEaaLEFTWARDS ARROW-TAILabRIGHTWARDSabLEFTWARDS DOUBLE",
    "acRIGHTWARDSaaLEFTWARDS ARROW TO BLACK DIAMONDaeRIGHTWARDSadLEFTWARDS ARROW FROM BAR",
    "agRIGHTWARDSaaNORTH WEST AND SOUTH EAST ARROWbbEAST AND SOUTH WESTbaWEST ARROW WITH HOOK",
    "bdEASTaeSOUTHbdWESTaaNORTH WEST ARROW AND NORTH EAST ARROWbcEAST ARROW AND SOUTH",
    "abSOUTH EAST ARROW AND SOUTH WESTbcWEST ARROW AND NORTH",
    "aaRISING DIAGONAL CROSSING FALLING DIAGONALabFALLING DIAGONAL CROSSING RISING",
    "aaSOUTH EAST ARROW CROSSING NORTH EAST ARROWacNORTH EAST ARROW CROSSING SOUTH",
    "acFALLING DIAGONAL CROSSING NORTHacRISING DIAGONAL CROSSING SOUTH",
    "abNORTH EAST ARROW CROSSING NORTH WESTbbWEST ARROW CROSSING NORTH EAST",
    "aaWAVE ARROW POINTING DIRECTLY RIGHTaaARROW POINTING RIGHTWARDS THEN CURVING UPWARDS",
    "faDOWNWARDScaDOWNWARDS THEN CURVING LEFTWARDSfaRIGHTWARDSaaRIGHT-SIDE ARC CLOCKWISE ARROW",
    "abLEFT-SIDE ARC ANTICLOCKWISEadTOPadBOTTOMaaTOP ARC CLOCKWISE ARROW WITH MINUS",
    "caANTICLOCKWISE ARROW WITH PLUSaaLOWER RIGHT SEMICIRCULAR CLOCKWISE ARROW",
    "bbLEFT SEMICIRCULAR ANTICLOCKWISEabANTICLOCKWISE CLOSED CIRCLEadCLOCKWISE",
    "abRIGHTWARDS ARROW ABOVE SHORT LEFTWARDSabLEFTWARDS ARROW ABOVE SHORT RIGHTWARDS",
    "abSHORT RIGHTWARDS ARROW ABOVE LEFTWARDSaaRIGHTWARDS ARROW WITH PLUS BELOWaeLEFTWARDS",
    "aaRIGHTWARDS ARROW THROUGH XaaLEFT RIGHT ARROW THROUGH SMALL CIRCLE",
    "acUPWARDS TWO-HEADED ARROW FROMaaLEFT BARB UP RIGHT BARB DOWN HARPOONcbDOWN RIGHT BARB UP",
    "abUP BARB RIGHT DOWN BARB LEFTcbLEFT DOWN BARB RIGHTabLEFT BARB UP RIGHT BARB UP",
    "abUP BARB RIGHT DOWN BARB RIGHTabLEFT BARB DOWN RIGHT BARB DOWNabUP BARB LEFT DOWN BARB LEFT",
    "aaLEFTWARDS HARPOON WITH BARB UP TO BARagRIGHTWARDSacUPWARDS HARPOON WITH BARB RIGHT",
    "agDOWNWARDSacLEFTWARDS HARPOON WITH BARB DOWNagRIGHTWARDSacUPWARDS HARPOON WITH BARB LEFT",
    "agDOWNWARDSabLEFTWARDS HARPOON WITH BARB UP FROMagRIGHTWARDSacUPWARDS HARPOON WITH BARB RIGHT",
    "agDOWNWARDSacLEFTWARDS HARPOON WITH BARB DOWNagRIGHTWARDSacUPWARDS HARPOON WITH BARB LEFT",
    "agDOWNWARDSaaLEFTWARDS HARPOON WITH BARB UP ABOVE LEFTWARDS HARPOON WITH BARB DOWN",
    "aaUPWARDS HARPOON WITH BARB LEFT BESIDE UPWARDS HARPOON WITH BARB RIGHT",
    "aaRIGHTWARDS HARPOON WITH BARB UP ABOVE RIGHTWARDS HARPOON WITH BARB DOWN",
    "aaDOWNWARDS HARPOON WITH BARB LEFT BESIDE DOWNWARDS HARPOON WITH BARB RIGHT",
    "aaLEFTWARDS HARPOON WITH BARB UP ABOVE RIGHTWARDS HARPOON WITH BARB UP",
    "eaDOWN ABOVE RIGHTWARDS HARPOON WITH BARB DOWN",
    "aaRIGHTWARDS HARPOON WITH BARB UP ABOVE LEFTWARDS HARPOON WITH BARB UP",
    "eaDOWN ABOVE LEFTWARDS HARPOON WITH BARB DOWNaaLEFTWARDS HARPOON WITH BARB UP ABOVE LONG DASH",
    "ecDOWN BELOWacRIGHTWARDS HARPOON WITH BARB UP ABOVEecDOWN BELOW",
    "aaUPWARDS HARPOON WITH BARB LEFT BESIDE DOWNWARDS HARPOON WITH BARB RIGHT",
    "aeDOWNWARDS HARPOON WITH BARB LEFT BESIDE UPWARDSaaRIGHT DOUBLE ARROW WITH ROUNDED HEAD",
    "aaEQUALS SIGN ABOVE RIGHTWARDS ARROWadTILDE OPERATORaaLEFTWARDS ARROW ABOVE TILDE OPERATOR",
    "aeRIGHTWARDSdaALMOST EQUAL TOaaLESS-THAN ABOVE LEFTWARDS ARROW",
    "aaLEFTWARDS ARROW THROUGH LESS-THANaaGREATER-THAN ABOVE RIGHTWARDS ARROWadSUBSET",
    "aaLEFTWARDS ARROW THROUGH SUBSETaaSUPERSET ABOVE LEFTWARDS ARROWaaLEFT FISH TAILacRIGHTacUP",
    "acDOWNaaTRIPLE VERTICAL BAR DELIMITERaaZ NOTATION SPOTcaTYPE COLONaaLEFT WHITE CURLY BRACKET",
    "adRIGHTaaLEFT WHITE PARENTHESISacRIGHTaaZ NOTATION LEFT IMAGE BRACKETccRIGHTcbLEFT BINDING",
    "ccRIGHTaaLEFT SQUARE BRACKET WITH UNDERBARaeRIGHT",
    "aaLEFT SQUARE BRACKET WITH TICK IN TOP CORNERabRIGHT SQUARE BRACKET WITH TICK IN BOTTOMahLEFT",
    "abRIGHT SQUARE BRACKET WITH TICK IN TOPaaLEFT ANGLE BRACKET WITH DOTaeRIGHT",
    "aaLEFT ARC LESS-THAN BRACKETabRIGHT ARC GREATER-THANadDOUBLE LEFTbbRIGHT ARC LESS-THAN",
    "abLEFT BLACK TORTOISE SHELLaeRIGHTaaDOTTED FENCEaaVERTICAL ZIGZAG LINE",
    "aaMEASURED ANGLE OPENING LEFTaaRIGHT ANGLE VARIANT WITH SQUAREaaMEASURED RIGHT ANGLE WITH DOT",
    "aaANGLE WITH S INSIDEaaACUTE ANGLEaaSPHERICAL ANGLE OPENING LEFTdaUPaaTURNED ANGLEabREVERSED",
    "aaANGLE WITH UNDERBARadREVERSEDaaOBLIQUE ANGLE OPENING UPdaDOWN",
    "aaMEASURED ANGLE WITH OPEN ARM ENDING IN ARROW POINTING UP AND RIGHTlaLEFTjaDOWN AND RIGHT",
    "laLEFTjaRIGHT AND UPjcLEFTjaRIGHT AND DOWNjcLEFTaaREVERSED EMPTY SETaaEMPTY SET WITH OVERBAR",
    "daSMALL CIRCLE ABOVEdbRIGHT ARROWdcLEFTaaCIRCLE WITH HORIZONTAL BARabCIRCLED VERTICAL",
    "baPARALLELbaREVERSE SOLIDUSbaPERPENDICULAR",
    "aaCIRCLE DIVIDED BY HORIZONTAL BAR AND TOP HALF DIVIDED BY VERTICAL BARbaWITH SUPERIMPOSED X",
    "aaCIRCLED ANTICLOCKWISE-ROTATED DIVISION SIGNaaUP ARROW THROUGH CIRCLEaaCIRCLED WHITE BULLET",
    "bbbaLESS-THANbaGREATER-THANaaCIRCLE WITH SMALL CIRCLE TO THE RIGHTcdTWO HORIZONTAL STROKES",
    "aaSQUARED RISING DIAGONAL SLASHbcFALLINGbaASTERISKbaSMALL CIRCLEbaSQUAREaaTWO JOINED SQUARES",
    "aaTRIANGLE WITH DOT ABOVEcaUNDERBARaaS IN TRIANGLEaaTRIANGLE WITH SERIFS AT BOTTOM",
    "aaRIGHT TRIANGLE ABOVE LEFT TRIANGLEaaLEFT TRIANGLE BESIDE VERTICAL BAR",
    "aaVERTICAL BAR BESIDE RIGHT TRIANGLEaaBOWTIE WITH LEFT HALF BLACKccRIGHTaaBLACK BOWTIE",
    "aaTIMES WITH LEFT HALF BLACKccRIGHTaaWHITE HOURGLASSabBLACKaaLEFT WIGGLY FENCEacRIGHT",
    "acLEFT DOUBLEadRIGHTaaINCOMPLETE INFINITYabTIE OVERaaINFINITY NEGATED WITH VERTICAL BAR",
    "aaDOUBLE-ENDED MULTIMAPaaSQUARE WITH CONTOURED OUTLINEaaINCREASES ASaaSHUFFLE PRODUCT",
    "aaEQUALS SIGN AND SLANTED PARALLELfaWITH TILDE ABOVEaaIDENTICAL TO AND SLANTED PARALLEL",
    "aaGLEICH STARKaaTHERMODYNAMICaaDOWN-POINTING TRIANGLE WITH LEFT HALF BLACKdcRIGHT",
    "aaBLACK DIAMOND WITH DOWN ARROWbaLOZENGEaaWHITE CIRCLE WITH DOWN ARROWaeBLACK",
    "aaERROR-BARRED WHITE SQUAREbbBLACKbaWHITE DIAMONDbbBLACKbaWHITE CIRCLEbbBLACKaaRULE-DELAYED",
    "aaREVERSE SOLIDUS OPERATORaaSOLIDUS WITH OVERBARaaREVERSE SOLIDUS WITH HORIZONTAL STROKE",
    "aaBIG SOLIDUSbbREVERSEaaDOUBLE PLUSabTRIPLEaaLEFT-POINTING CURVED ANGLE BRACKET",
    "adRIGHT-POINTINGaaTINYaaMINYaaN-ARY CIRCLED DOT OPERATORcbPLUScbTIMES",
    "baUNION OPERATOR WITH DOTeaPLUSbaSQUARE INTERSECTION OPERATORcbUNIONabTWO LOGICAL ANDcbOR",
    "abN-ARY TIMESaaMODULO TWO SUMaaSUMMATION WITH INTEGRALaaQUADRUPLE INTEGRAL OPERATOR",
    "aaFINITE PART INTEGRALaaINTEGRAL WITH DOUBLE STROKEbaAVERAGE WITH SLASHaaCIRCULATION FUNCTION",
    "aaANTICLOCKWISE INTEGRATIONaaLINE INTEGRATION WITH RECTANGULAR PATH AROUND POLEddSEMICIRCULAR",
    "cbNOT INCLUDING THEaaINTEGRAL AROUND A POINT OPERATORabQUATERNION INTEGRAL",
    "aaINTEGRAL WITH LEFTWARDS ARROW WITH HOOKcaTIMES SIGNcaINTERSECTIONcaUNIONcaOVERBARcaUNDERBAR",
    "aaJOINaaLARGE LEFT TRIANGLE OPERATORaaZ NOTATION SCHEMA COMPOSITIONdaPIPINGdaPROJECTION",
    "aaPLUS SIGN WITH SMALL CIRCLE ABOVEdbCIRCUMFLEX ACCENTdbTILDEdaDOT BELOWdbTILDE",
    "daSUBSCRIPT TWOdaBLACK TRIANGLEaaMINUS SIGN WITH COMMA ABOVEdaDOT BELOWdaFALLING DOTSdbRISING",
    "aaPLUS SIGN IN LEFT HALF CIRCLEdcRIGHTaaVECTOR OR CROSS PRODUCT",
    "aaMULTIPLICATION SIGN WITH DOT ABOVEdaUNDERBARaaSEMIDIRECT PRODUCT WITH BOTTOM CLOSED",
    "aaSMASH PRODUCTaaMULTIPLICATION SIGN IN LEFT HALF CIRCLEdcRIGHT",
    "aaCIRCLED MULTIPLICATION SIGN WITH CIRCUMFLEX ACCENTaaMULTIPLICATION SIGN IN DOUBLE CIRCLE",
    "aaCIRCLED DIVISION SIGNaaPLUS SIGN IN TRIANGLEadMINUSadMULTIPLICATIONaaINTERIOR PRODUCT",
    "acRIGHTHANDaaZ NOTATION RELATIONAL COMPOSITIONaaAMALGAMATION OR COPRODUCT",
    "aaINTERSECTION WITH DOTaaUNION WITH MINUS SIGNcaOVERBARacINTERSECTIONcaLOGICAL AND",
    "aaUNION WITH LOGICAL ORbaABOVE INTERSECTIONaaINTERSECTION ABOVE UNION",
    "aaUNION ABOVE BAR ABOVE INTERSECTIONaaINTERSECTION ABOVE BAR ABOVE UNION",
    "abUNION BESIDE AND JOINED WITHaaINTERSECTION BESIDE AND JOINED WITH INTERSECTION",
    "aaCLOSED UNION WITH SERIFSbcINTERSECTIONaaDOUBLE SQUARE INTERSECTIONcaUNION",
    "aaCLOSED UNION WITH SERIFS AND SMASH PRODUCTaaLOGICAL AND WITH DOT ABOVEbdOR",
    "aaDOUBLE LOGICAL ANDcaORaaTWO INTERSECTING LOGICAL ANDdaORabSLOPING LARGEcaAND",
    "abLOGICAL OR OVERLAPPING LOGICALbaAND WITH MIDDLE STEMbdORbaAND WITH HORIZONTAL DASHbdOR",
    "baAND WITH DOUBLE OVERBARdaUNDERBARdbDOUBLEabSMALL VEE WITHaaLOGICAL OR WITH DOUBLE OVERBAR",
    "eaUNDERBARaaZ NOTATION DOMAIN ANTIRESTRICTIONcbRANGEaaEQUALS SIGN WITH DOT BELOW",
    "aaIDENTICAL WITH DOT ABOVEaaTRIPLE HORIZONTAL BAR WITH DOUBLE VERTICAL STROKEecTRIPLE",
    "aaTILDE OPERATOR WITH DOT ABOVEdaRISING DOTSaaSIMILAR MINUS SIMILARaaCONGRUENT WITH DOT ABOVE",
    "aaEQUALS WITH ASTERISKaaALMOST EQUAL TO WITH CIRCUMFLEX ACCENT",
    "aaAPPROXIMATELY EQUAL OR EQUAL TOaaEQUALS SIGN ABOVE PLUS SIGNabPLUS SIGN ABOVE EQUALS",
    "aaEQUALS SIGN ABOVE TILDE OPERATORaaDOUBLE COLON EQUALaaTWO CONSECUTIVE EQUALS SIGNSadTHREE",
    "aaEQUALS SIGN WITH TWO DOTS ABOVE AND TWO DOTS BELOWaaEQUIVALENT WITH FOUR DOTS ABOVE",
    "aaLESS-THAN WITH CIRCLE INSIDEadGREATER-THANaaLESS-THAN WITH QUESTION MARK ABOVE",
    "aeGREATER-THANaaLESS-THAN OR SLANTED EQUAL TOaeGREATER-THAN",
    "aaLESS-THAN OR SLANTED EQUAL TO WITH DOT INSIDEahGREATER-THAN",
    "aaLESS-THAN OR SLANTED EQUAL TO WITH DOT ABOVEahGREATER-THAN",
    "aaLESS-THAN OR SLANTED EQUAL TO WITH DOT ABOVE RIGHT",
    "aaGREATER-THAN OR SLANTED EQUAL TO WITH DOT ABOVE LEFTaaLESS-THAN OR APPROXIMATE",
    "acGREATER-THANaaLESS-THAN AND SINGLE-LINE NOT EQUAL TOafGREATER-THAN",
    "aaLESS-THAN AND NOT APPROXIMATEadGREATER-THAN",
    "aaLESS-THAN ABOVE DOUBLE-LINE EQUAL ABOVE GREATER-THAN",
    "aaGREATER-THAN ABOVE DOUBLE-LINE EQUAL ABOVE LESS-THANaaLESS-THAN ABOVE SIMILAR OR EQUAL",
    "aeGREATER-THANaaLESS-THAN ABOVE SIMILAR ABOVE GREATER-THAN",
    "aaGREATER-THAN ABOVE SIMILAR ABOVE LESS-THAN",
    "aaLESS-THAN ABOVE GREATER-THAN ABOVE DOUBLE-LINE EQUALadGREATER-THAN ABOVE LESS-THAN",
    "abLESS-THAN ABOVE SLANTED EQUAL ABOVE GREATER-THAN ABOVE SLANTED",
    "adGREATER-THAN ABOVE SLANTED EQUAL ABOVE LESS-THANaaSLANTED EQUAL TO OR LESS-THAN",
    "eaGREATER-THANeaLESS-THAN WITH DOT INSIDEedGREATER-THANaaDOUBLE-LINE EQUAL TO OR LESS-THAN",
    "eaGREATER-THANbaSLANTED EQUAL TO OR LESS-THANfaGREATER-THANaaSIMILAR OR LESS-THAN",
    "caGREATER-THANbaABOVE LESS-THAN ABOVE EQUALS SIGNcdGREATER-THANaaDOUBLE NESTED LESS-THAN",
    "caGREATER-THANcaLESS-THAN WITH UNDERBARaaGREATER-THAN OVERLAPPING LESS-THANbbBESIDE",
    "aaLESS-THAN CLOSED BY CURVEadGREATER-THANaaLESS-THAN CLOSED BY CURVE ABOVE SLANTED EQUAL",
    "agGREATER-THANaaSMALLER THANabLARGERaaSMALLER THAN OR EQUAL TOaeLARGER",
    "aaEQUALS SIGN WITH BUMPY ABOVEaaPRECEDES ABOVE SINGLE-LINE EQUALS SIGNaeSUCCEEDS",
    "aaPRECEDES ABOVE SINGLE-LINE NOT EQUAL TOafSUCCEEDSaaPRECEDES ABOVE EQUALS SIGNadSUCCEEDS",
    "aaPRECEDES ABOVE NOT EQUAL TOaeSUCCEEDSacPRECEDES ABOVE ALMOSTaeSUCCEEDSadPRECEDES ABOVE NOT",
    "afSUCCEEDSaaDOUBLE PRECEDESbaSUCCEEDSaaSUBSET WITH DOTacSUPERSETaaSUBSET WITH PLUS SIGN BELOW",
    "aeSUPERSETacSUBSET WITH MULTIPLICATIONaeSUPERSETaaSUBSET OF OR EQUAL TO WITH DOT ABOVE",
    "ahSUPERSETaaSUBSET OF ABOVE EQUALS SIGNaeSUPERSETaaSUBSET OF ABOVE TILDE OPERATORaeSUPERSET",
    "aaSUBSET OF ABOVE ALMOST EQUAL TOafSUPERSETacSUBSET OF ABOVE NOTafSUPERSET",
    "aaSQUARE LEFT OPEN BOX OPERATORbdRIGHTaaCLOSED SUBSETbaSUPERSETbaSUBSET OR EQUAL TObdSUPERSET",
    "aaSUBSET ABOVE SUPERSETaaSUPERSET ABOVE SUBSETacSUBSETaaSUPERSET ABOVE SUPERSET",
    "baBESIDE SUBSETcbAND JOINED BY DASH WITHaaELEMENT OF OPENING DOWNWARDS",
    "aaPITCHFORK WITH TEE TOPaaTRANSVERSAL INTERSECTIONaaFORKINGaaNONFORKINGaaSHORT LEFT TACK",
    "bbDOWNbbUPaaPERPENDICULAR WITH SaaVERTICAL BAR TRIPLE RIGHT TURNSTILE",
    "abDOUBLE VERTICAL BAR LEFTacVERTICAL BAR DOUBLEafDOUBLE",
    "aaLONG DASH FROM LEFT MEMBER OF DOUBLE VERTICALaaSHORT DOWN TACK WITH OVERBAR",
    "baUP TACK WITH UNDERBARdaABOVE SHORT DOWN TACKacDOUBLEbbUPbaSTROKE NOT SIGNaeREVERSED",
    "aaDOES NOT DIVIDE WITH REVERSED NEGATION SLASHaaVERTICAL LINE WITH CIRCLE ABOVEeaBELOW",
    "adDOWN TACKaaPARALLEL WITH HORIZONTAL STROKEcaTILDE OPERATOR",
    "aaTRIPLE VERTICAL BAR BINARY RELATIONdaWITH HORIZONTAL STROKEbaCOLON OPERATOR",
    "baNESTED LESS-THANcaGREATER-THANaaDOUBLE-LINE SLANTED LESS-THAN OR EQUAL TOcdGREATER-THAN",
    "aaTRIPLE SOLIDUS BINARY RELATIONaaLARGE TRIPLE VERTICAL BAR OPERATORabDOUBLE SOLIDUS",
    "aaWHITE VERTICAL BARadN-ARYaaNORTH EAST WHITE ARROWbcWESTacSOUTH EASTbcWESTacLEFT RIGHT",
    "abLEFTWARDS BLACKacUPWARDSacDOWNWARDSacNORTH EASTbcWESTacSOUTH EASTbcWESTacLEFT RIGHT",
    "acUP DOWNaaRIGHTWARDS ARROW WITH TIP DOWNWARDSeaUPWARDSaaLEFTWARDS ARROW WITH TIP DOWNWARDS",
    "eaUPWARDSaaSQUARE WITH TOP HALF BLACKccBOTTOMccUPPER RIGHT DIAGONALcdLOWER LEFT",
    "acDIAMOND WITH LEFTccRIGHTccTOPccBOTTOMaaDOTTED SQUAREabBLACK LARGEacWHITEabBLACK VERY SMALL",
    "adWHITEaaBLACK PENTAGONabWHITEbaHEXAGONabBLACKacHORIZONTALaaBLACK LARGE CIRCLE",
    "baMEDIUM DIAMONDacWHITEaaBLACK MEDIUM LOZENGEacWHITEaaBLACK SMALL DIAMONDcaLOZENGEacWHITE",
    "aaBLACK HORIZONTAL ELLIPSEacWHITEabBLACK VERTICALacWHITEaaLEFT ARROW WITH SMALL CIRCLE",
    "aaTHREE LEFTWARDS ARROWSaaLEFT ARROW WITH CIRCLED PLUSaaLONG LEFTWARDS SQUIGGLE ARROW",
    "aaLEFTWARDS TWO-HEADED ARROW WITH VERTICAL STROKEecDOUBLEdaFROM BARcaTRIPLE DASH ARROW",
    "baARROW WITH DOTTED STEMdaTAIL WITH VERTICAL STROKEfcDOUBLEbaTWO-HEADED ARROW WITH TAIL",
    "faWITH VERTICAL STROKEgcDOUBLEbaARROW THROUGH XaaWAVE ARROW POINTING DIRECTLY LEFT",
    "aaEQUALS SIGN ABOVE LEFTWARDS ARROWadREVERSE TILDE OPERATOR",
    "aaLEFTWARDS ARROW ABOVE REVERSE ALMOST EQUAL TOaaRIGHTWARDS ARROW THROUGH GREATER-THAN",
    "daSUPERSETaaLEFTWARDS QUADRUPLE ARROWacRIGHTWARDSabREVERSE TILDE OPERATOR ABOVE RIGHTWARDS",
    "aaRIGHTWARDS ARROW ABOVE REVERSE ALMOST EQUAL TOaaTILDE OPERATOR ABOVE LEFTWARDS ARROW",
    "aaLEFTWARDS ARROW ABOVE ALMOST EQUAL TOdaREVERSE TILDE OPERATORafRIGHTWARDS",
    "aaDOWNWARDS TRIANGLE-HEADED ZIGZAG ARROWabSHORT SLANTED NORTHbbBACKSLANTED SOUTH",
    "aaWHITE MEDIUM STARabBLACK SMALLacWHITEaaBLACK RIGHT-POINTING PENTAGONacWHITE",
    "aaHEAVY LARGE CIRCLEbaOVAL WITH OVAL INSIDEbbCIRCLE WITH CIRCLEcabaCIRCLED SALTIRE",
    "aaSLANTED NORTH ARROW WITH HOOKED HEADaaBACKSLANTED SOUTH ARROW WITH HOOKED TAIL",
    "abSLANTED NORTH ARROW WITH HORIZONTALaeBACKSLANTED SOUTH",
    "aaBENT ARROW POINTING DOWNWARDS THEN NORTH EASTahSHORTaaLEFTWARDS TRIANGLE-HEADED ARROW",
    "acUPWARDSacRIGHTWARDSacDOWNWARDSacLEFT RIGHTacUP DOWNacNORTH WESTbcEASTadSOUTHbcWEST",
    "abLEFTWARDS TRIANGLE-HEADED DASHEDadUPWARDSadRIGHTWARDSadDOWNWARDS",
    "abCLOCKWISE TRIANGLE-HEADED OPEN CIRCLEaeANTICLOCKWISE",
    "aaLEFTWARDS TRIANGLE-HEADED ARROW TO BARaeUPWARDSaeRIGHTWARDSaeDOWNWARDSaeNORTH WESTbeEAST",
    "afSOUTHbeWESTaaLEFTWARDS TRIANGLE-HEADED ARROW WITH DOUBLE HORIZONTAL STROKEagUPWARDS",
    "agRIGHTWARDSagDOWNWARDSaaHORIZONTAL TAB KEYacVERTICAL",
    "aaLEFTWARDS TRIANGLE-HEADED ARROW OVER RIGHTWARDS TRIANGLE-HEADED ARROW",
    "acUPWARDS TRIANGLE-HEADED ARROW LEFTWARDS OF DOWNWARDS",
    "acRIGHTWARDS TRIANGLE-HEADED ARROW OVER LEFTWARDS",
    "acDOWNWARDS TRIANGLE-HEADED ARROW LEFTWARDS OF UPWARDS",
    "aaLEFTWARDS TRIANGLE-HEADED PAIRED ARROWSadUPWARDSadRIGHTWARDSadDOWNWARDS",
    "aaLEFTWARDS BLACK CIRCLED WHITE ARROWaeUPWARDSaeRIGHTWARDSaeDOWNWARDS",
    "abANTICLOCKWISE TRIANGLE-HEADED RIGHT U-SHAPEDccBOTTOMccLEFTccTOPaaRETURN LEFTbaRIGHT",
    "aaNEWLINE LEFTbaRIGHTaaFOUR CORNER ARROWS CIRCLING ANTICLOCKWISEaaRIGHTWARDS BLACK ARROW",
    "aaSYMBOL FOR TYPE A ELECTRONICSaaTHREE-D TOP-LIGHTED LEFTWARDS EQUILATERAL ARROWHEAD",
    "bcRIGHT-LIGHTED UPWARDSbcTOP-LIGHTED RIGHTWARDSbcLEFT-LIGHTED DOWNWARDSacBLACK LEFTWARDS",
    "bcUPWARDSbcRIGHTWARDSbcDOWNWARDSaaDOWNWARDS TRIANGLE-HEADED ARROW WITH LONG TIP LEFTWARDS",
    "gaRIGHTWARDSaaUPWARDS TRIANGLE-HEADED ARROW WITH LONG TIP LEFTWARDSgaRIGHTWARDS",
    "aaLEFTWARDS TRIANGLE-HEADED ARROW WITH LONG TIP UPWARDSagRIGHTWARDS",
    "aaLEFTWARDS TRIANGLE-HEADED ARROW WITH LONG TIP DOWNWARDSagRIGHTWARDS",
    "aaBLACK CURVED DOWNWARDS AND LEFTWARDS ARROWebRIGHTWARDScbUPWARDS AND LEFTWARDSebRIGHTWARDS",
    "cbLEFTWARDS AND UPWARDScdRIGHTWARDScbLEFTWARDS AND DOWNWARDScdRIGHTWARDS",
    "aaRIBBON ARROW DOWN LEFTdaRIGHTcaUP LEFTdaRIGHTcaLEFT UPcbRIGHTcaLEFT DOWNcbRIGHT",
    "aaUPWARDS WHITE ARROW FROM BAR WITH HORIZONTAL BARaaUP ARROWHEAD IN A RECTANGLE BOX",
    "aaOVERLAPPING WHITE SQUAREScbAND BLACKbcaaBALLOT BOX WITH LIGHT XabCIRCLEDbbBOLD",
    "aaBLACK SQUARE CENTREDbbDIAMONDaaTURNED BLACK PENTAGONaaHORIZONTAL BLACK OCTAGONac",
    "baMEDIUM UP-POINTING TRIANGLE CENTREDccDOWN-POINTINGccLEFT-POINTINGccRIGHT-POINTING",
    "aaNEPTUNE FORM TWOaaTOP HALF BLACK CIRCLEadBOTTOMaaLIGHT FOUR POINTED BLACK CUSPafROTATED",
    "abWHITE FOUR POINTEDaeROTATEDaaSQUARE POSITION INDICATORaaUNCERTAINTY SIGNaaGROUP MARK",
    "aaPLUTO FORM TWOcaTHREEcaFOURcaFIVEaaTRANSPLUTOaaPROSERPINAaaASTRAEAaaHYGIEAaaPHOLUSaaNESSUS",
    "aaWHITE MOON SELENAaaBLACK DIAMOND ON CROSSaaTRUE LIGHT MOON ARTAaaCUPIDOaaHADESaaZEUS",
    "aaKRONOSaaAPOLLONaaADMETOSaaVULCANUSaaPOSEIDONaaLEFT HALF BLACK STARadRIGHT",
    "aaSTAR WITH LEFT HALF BLACKccRIGHTaaLEFTWARDS TWO-HEADED ARROW WITH TRIANGLE ARROWHEADS",
    "afUPWARDSafRIGHTWARDSafDOWNWARDSaaERIS FORM ONEcaTWOaaSEDNA",
    "aaRUSSIAN ASTROLOGICAL SYMBOL VIGINTILEdaNOVILEdaQUINTILEdaBINOVILEdaSENTAGONdaTREDECILE",
    "aaEQUALS SIGN WITH INFINITY BELOWaaUNITED SYMBOLabSEPARATEDabDOUBLEDabPASSED",
    "aaREVERSED RIGHT ANGLEaaHELLSCHREIBER PAUSE SYMBOLaaGLAGOLITIC CAPITAL LETTER AZUdaBUKYdaVEDE",
    "daGLAGOLIdaDOBROdaYESTUdaZHIVETEdaDZELOdaZEMLJAdaIZHEdbINITIALdaIdaDJERVIdaKAKOdaLJUDIJE",
    "daMYSLITEdaNASHIdaONUdaPOKOJIdaRITSIdaSLOVOdaTVRIDOdaUKUdaFRITUdaHERUdaOTUdaPEdaSHTAdaTSI",
    "daCHRIVIdaSHAdaYERUdaYERIdaYATIdaSPIDERY HAdaYUdaSMALL YUSfaWITH TAILdaYOdaIOTATED SMALL YUS",
    "dbBIGdcIOTATEDdaFITAdaIZHITSAdaSHTAPICdaTROKUTASTI AdaLATINATE MYSLITEdaCAUDATE CHRIVI",
    "baSMALL LETTER AZUdaBUKYdaVEDEdaGLAGOLIdaDOBROdaYESTUdaZHIVETEdaDZELOdaZEMLJAdaIZHEdbINITIAL",
    "daIdaDJERVIdaKAKOdaLJUDIJEdaMYSLITEdaNASHIdaONUdaPOKOJIdaRITSIdaSLOVOdaTVRIDOdaUKUdaFRITU",
    "daHERUdaOTUdaPEdaSHTAdaTSIdaCHRIVIdaSHAdaYERUdaYERIdaYATIdaSPIDERY HAdaYUdaSMALL YUS",
    "faWITH TAILdaYOdaIOTATED SMALL YUSdbBIGdcIOTATEDdaFITAdaIZHITSAdaSHTAPICdaTROKUTASTI A",
    "daLATINATE MYSLITEdaCAUDATE CHRIVIaaLATIN CAPITAL LETTER L WITH DOUBLE BARbfSMALL",
    "baCAPITAL LETTER L WITH MIDDLE TILDEdaP WITH STROKEdaR WITH TAILbaSMALL LETTER A WITH STROKE",
    "dbT WITH DIAGONALbaCAPITAL LETTER H WITH DESCENDERbeSMALLbcCAPITAL LETTER KbeSMALL",
    "bcCAPITAL LETTER ZbeSMALLbaCAPITAL LETTER ALPHAdaM WITH HOOKdaTURNED AeaALPHA",
    "baSMALL LETTER V WITH RIGHT HOOKbbCAPITAL LETTER W WITHbeSMALLdaV WITH CURL",
    "baCAPITAL LETTER HALF HbdSMALLdaTAILLESS PHIdaE WITH NOTCHdaTURNED R WITH TAIL",
    "daO WITH LOW RING INSIDEbaLETTER SMALL CAPITAL TURNED EbaSUBSCRIPT SMALL LETTER J",
    "aaMODIFIER LETTER CAPITAL VaaLATIN CAPITAL LETTER S WITH SWASH TAILddZ",
    "aaCOPTIC CAPITAL LETTER ALFAbcSMALLbaCAPITAL LETTER VIDAbcSMALLbaCAPITAL LETTER GAMMAbcSMALL",
    "baCAPITAL LETTER DALDAbcSMALLbaCAPITAL LETTER EIEbcSMALLbaCAPITAL LETTER SOUbcSMALL",
    "baCAPITAL LETTER ZATAbcSMALLbaCAPITAL LETTER HATEbcSMALLbaCAPITAL LETTER THETHEbcSMALL",
    "baCAPITAL LETTER IAUDAbcSMALLbaCAPITAL LETTER KAPAbcSMALLbaCAPITAL LETTER LAULAbcSMALL",
    "baCAPITAL LETTER MIbcSMALLbaCAPITAL LETTER NIbcSMALLbaCAPITAL LETTER KSIbcSMALL",
    "baCAPITAL LETTER ObcSMALLbaCAPITAL LETTER PIbcSMALLbaCAPITAL LETTER RObcSMALL",
    "baCAPITAL LETTER SIMAbcSMALLbaCAPITAL LETTER TAUbcSMALLbaCAPITAL LETTER UAbcSMALL",
    "baCAPITAL LETTER FIbcSMALLbaCAPITAL LETTER KHIbcSMALLbaCAPITAL LETTER PSIbcSMALL",
    "baCAPITAL LETTER OOUbcSMALLbaCAPITAL LETTER DIALECT-P ALEFbdSMALL",
    "baCAPITAL LETTER OLD COPTIC AINbeSMALLbaCAPITAL LETTER CRYPTOGRAMMIC EIEbdSMALL",
    "baCAPITAL LETTER DIALECT-P KAPAbdSMALLbaCAPITAL LETTER DIALECT-P NIbdSMALL",
    "bbCAPITAL LETTER CRYPTOGRAMMICbdSMALLbaCAPITAL LETTER OLD COPTIC OOUbeSMALL",
    "baCAPITAL LETTER SAMPIbcSMALLbaCAPITAL LETTER CROSSED SHEIbdSMALLbbCAPITAL LETTER OLD COPTIC",
    "beSMALLbaCAPITAL LETTER OLD COPTIC ESHbeSMALLbaCAPITAL LETTER AKHMIMIC KHEIbdSMALL",
    "baCAPITAL LETTER DIALECT-P HORIbdSMALLbbCAPITAL LETTER OLD COPTICbeSMALL",
    "baCAPITAL LETTER OLD COPTIC HAbeSMALLbbCAPITAL LETTER L-SHAPEDbdSMALL",
    "baCAPITAL LETTER OLD COPTIC HEIbeSMALLbaCAPITAL LETTER OLD COPTIC HATbeSMALL",
    "baCAPITAL LETTER OLD COPTIC GANGIAbeSMALLbaCAPITAL LETTER OLD COPTIC DJAbeSMALL",
    "baCAPITAL LETTER OLD COPTIC SHIMAbeSMALLbbCAPITAL LETTER OLD NUBIANbeSMALL",
    "baCAPITAL LETTER OLD NUBIAN NGIbeSMALLbaCAPITAL LETTER OLD NUBIAN NYIbeSMALL",
    "baCAPITAL LETTER OLD NUBIAN WAUbeSMALLbaSYMBOL KAIcaMI ROcbPIcaSTAUROScaTAU ROcbKHI",
    "caSHIMA SIMAbaCAPITAL LETTER CRYPTOGRAMMIC SHEIbdSMALLbaCAPITAL LETTER CRYPTOGRAMMIC GANGIA",
    "bdSMALLbaCOMBINING NI ABOVEcaSPIRITUS ASPERdaLENISbaCAPITAL LETTER BOHAIRIC KHEIbdSMALL",
    "baOLD NUBIAN FULL STOPdaDIRECT QUESTION MARKdcINDIRECTdaVERSE DIVIDERbaFRACTION ONE HALF",
    "baFULL STOPbaMORPHOLOGICAL DIVIDERaaGEORGIAN SMALL LETTER ANdaBANdaGANdaDONdaENdaVINdaZEN",
    "daTANdaINdaKANdaLASdaMANdaNARdaONdaPARdaZHARdaRAEdaSANdaTARdaUNdaPHARdaKHARdaGHANdaQARdaSHIN",
    "daCHINdaCANdaJILdaCILdaCHARdaXANdaJHANdaHAEdaHEdaHIEdaWEdaHARdaHOEdaYNdaAEN",
    "aaTIFINAGH LETTER YAcaYABcaYABHcaYAGcaYAGHHcaBERBER ACADEMY YAJcbcaYADcaYADHcaYADDcaYADDH",
    "caYEYcaYAFcaYAKcbTUAREGcaYAKHHcaYAHcbBERBER ACADEMYcbTUAREGcaYAHHcaYAAcaYAKHcbTUAREGcaYAQ",
    "cbTUAREGcaYIcaYAZHcbAHAGGARcbTUAREGcaYALcaYAMcaYANcaTUAREG YAGNdaYANGcaYAPcaYUcaYARcaYARR",
    "caYAGHcbTUAREGcbAYERcaYAScaYASScaYASHcaYATcaYATHcaYACHcaYATTcaYAVcaYAWcaYAYcaYAZcbTAWELLEMET",
    "caYAZZcaYEcaYObaMODIFIER LETTER LABIALIZATION MARKbbSEPARATORbaCONSONANT JOINER",
    "aaETHIOPIC SYLLABLE LOAcaMOAcaROAcaSOAcaSHOAcaBOAcaTOAcaCOAcaNOAcaNYOAcaGLOTTAL OAcaZOAcaDOA",
    "caDDOAcaJOAcaTHOAcaCHOAcaPHOAcaPOAcaGGWAcaGGWIcaGGWEEcaGGWEcaSSAcaSSUcaSSIcaSSAAcaSSEEcaSSE",
    "caSSOcaCCAcaCCUcaCCIcaCCAAcaCCEEcaCCEcaCCOcaZZAcaZZUcaZZIcaZZAAcaZZEEcaZZEcaZZOcaCCHAcaCCHU",
    "caCCHIcaCCHAAcaCCHEEcaCCHEcaCCHOcaQYAcaQYUcaQYIcaQYAAcaQYEEcaQYEcaQYOcaKYAcaKYUcaKYIcaKYAA",
    "caKYEEcaKYEcaKYOcaXYAcaXYUcaXYIcaXYAAcaXYEEcaXYEcaXYOcaGYAcaGYUcaGYIcaGYAAcaGYEEcaGYEcaGYO",
    "aaCOMBINING CYRILLIC LETTER BEdaVEdaGHEdaDEdaZHEdaZEdaKAdaELdaEMdaENdaOdaPEdaERdaESdaTEdaHA",
    "daTSEdaCHEdaSHAdaSHCHAdaFITAdaES-TEdaAdaIEdaDJERVdaMONOGRAPH UKdaYATdaYUdaIOTIFIED A",
    "daLITTLE YUSdbBIGdcIOTIFIEDaaRIGHT ANGLE SUBSTITUTION MARKERccDOTTED",
    "aaLEFT SUBSTITUTION BRACKETacRIGHTacLEFT DOTTEDadRIGHTaaRAISED INTERPOLATION MARKERbcDOTTED",
    "abDOTTED TRANSPOSITIONaaLEFT TRANSPOSITION BRACKETacRIGHTaaRAISED SQUARE",
    "aaLEFT RAISED OMISSION BRACKETadRIGHTaaEDITORIAL CORONISaaPARAGRAPHOSabFORKEDacREVERSED",
    "aaHYPODIASTOLEaaDOTTED OBELOSaaDOWNWARDS ANCORAabUPWARDSaaDOTTED RIGHT-POINTING ANGLE",
    "aaDOUBLE OBLIQUE HYPHENaaINVERTED INTERROBANGaaPALM BRANCHaaHYPHEN WITH DIAERESIS",
    "aaTILDE WITH RING ABOVEaaLEFT LOW PARAPHRASE BRACKETadRIGHTaaTILDE WITH DOT ABOVEdaBELOW",
    "aaLEFT VERTICAL BAR WITH QUILLaeRIGHTaaTOP LEFT HALF BRACKETbcRIGHTacBOTTOM LEFTbcRIGHT",
    "abLEFT SIDEWAYS UadRIGHTaaLEFT DOUBLE PARENTHESISacRIGHTaaTWO DOTS OVER ONE DOT PUNCTUATION",
    "abONE DOT OVER TWO DOTSabSQUARED FOUR DOTaaFIVE DOT MARKabREVERSED QUESTIONaaVERTICAL TILDE",
    "aaRING POINTaaWORD SEPARATOR MIDDLE DOTaaTURNED COMMAaaRAISED DOTbaCOMMAaaTURNED SEMICOLON",
    "aaDAGGER WITH LEFT GUARDcbRIGHTaaTURNED DAGGERaaTOP HALF SECTION SIGNaaTWO-EM DASHabTHREE-EM",
    "aaSTENOGRAPHIC FULL STOPaaVERTICAL SIX DOTSaaWIGGLY VERTICAL LINEaaCAPITULUMaaDOUBLE HYPHEN",
    "aaREVERSED COMMAaaDOUBLE LOW-REVERSED-9 QUOTATION MARKaaDASH WITH LEFT UPTURN",
    "aaDOUBLE SUSPENSION MARKaaINVERTED LOW KAVYKAdaWITH KAVYKA ABOVEaaLOW KAVYKAcaWITH DOT",
    "aaDOUBLE STACKED COMMAaaDOTTED SOLIDUSaaTRIPLE DAGGERaaMEDIEVAL COMMAaaPARAGRAPHUS MARK",
    "abPUNCTUS ELEVATUSaaCORNISH VERSE DIVIDERaaCROSS PATTY WITH RIGHT CROSSBARdbLEFT",
    "aaTIRONIAN SIGN CAPITAL ETaaMEDIEVAL EXCLAMATION MARKbbQUESTION",
    "aaLEFT SQUARE BRACKET WITH STROKEaeRIGHTabLEFT SQUARE BRACKET WITH DOUBLEafRIGHT",
    "aaTOP HALF LEFT PARENTHESIScbRIGHTabBOTTOM HALF LEFTcbRIGHTaaOBLIQUE HYPHEN",
    "aaCJK RADICAL REPEATcaCLIFFcaSECOND ONEdaTWOdaTHREEcaPERSONcaBOXcaTABLEcaKNIFE ONEdaTWO",
    "caDIVINATIONcaSEALcaSMALL ONEdaTWOcaLAME ONEdaTWOdaTHREEdaFOURcaSNAKEcaTHREADcaSNOUT ONEdaTWO",
    "caHEART ONEdaTWOcaHANDcaRAPcaCHOKEcaSUNcaMOONcaDEATHcaMOTHERcaCIVILIANcaWATER ONEdaTWOcaFIRE",
    "caPAW ONEdaTWOcaSIMPLIFIED HALF TREE TRUNKcaCOWcaDOGcaJADEcaBOLT OF CLOTHcaEYEcaSPIRIT ONE",
    "daTWOcaBAMBOOcaSILKcbC-SIMPLIFIEDcaNET ONEdaTWOdaTHREEdaFOURcaMESHcaSHEEPcaRAMcaEWEcaOLD",
    "caBRUSH ONEdaTWOcaMEATcaMORTARcaGRASS ONEdaTWOdaTHREEcaTIGERcaCLOTHEScaWEST ONEdaTWO",
    "caC-SIMPLIFIED SEEcaSIMPLIFIED HORNcbcaC-SIMPLIFIED SPEECHdaSHELLcaFOOTcaC-SIMPLIFIED CART",
    "caSIMPLIFIED WALKcaWALK ONEdaTWOcaCITYcaC-SIMPLIFIED GOLDcaLONG ONEdaTWOcaC-SIMPLIFIED LONG",
    "daGATEcaMOUND ONEdaTWOcaRAINcaBLUEcaC-SIMPLIFIED TANNED LEATHERdaLEAFdaWINDdaFLYcaEAT ONE",
    "daTWOdaTHREEcaC-SIMPLIFIED EATcaHEADcaC-SIMPLIFIED HORSEcaBONEcaGHOSTcaC-SIMPLIFIED FISH",
    "daBIRDdaSALTcaSIMPLIFIED WHEATdaYELLOWcaC-SIMPLIFIED FROGcaJ-SIMPLIFIED EVENcbC-SIMPLIFIED",
    "caJ-SIMPLIFIED TOOTHcbC-SIMPLIFIEDcaJ-SIMPLIFIED DRAGONcbC-SIMPLIFIEDcaTURTLEcbJ-SIMPLIFIED",
    "cbC-SIMPLIFIEDaaKANGXI RADICAL ONEcaLINEcaDOTcaSLASHcaSECONDcaHOOKcaTWOcaLIDcaMANcaLEGS",
    "caENTERcaEIGHTcaDOWN BOXcaCOVERcaICEcaTABLEcaOPEN BOXcaKNIFEcaPOWERcaWRAPcaSPOON",
    "caRIGHT OPEN BOXcaHIDING ENCLOSUREcaTENcaDIVINATIONcaSEALcaCLIFFcaPRIVATEcaAGAINcaMOUTH",
    "caENCLOSUREcaEARTHcaSCHOLARcaGOdaSLOWLYcaEVENINGcaBIGcaWOMANcaCHILDcaROOFcaINCHcaSMALLcaLAME",
    "caCORPSEcaSPROUTcaMOUNTAINcaRIVERcaWORKcaONESELFcaTURBANcaDRYcaSHORT THREADcaDOTTED CLIFF",
    "caLONG STRIDEcaTWO HANDScaSHOOTcaBOWcaSNOUTcaBRISTLEcaSTEPcaHEARTcaHALBERDcaDOORcaHAND",
    "caBRANCHcaRAPcaSCRIPTcaDIPPERcaAXEcaSQUAREcaNOTcaSUNcaSAYcaMOONcaTREEcaLACKcaSTOPcaDEATH",
    "caWEAPONcaDO NOTcaCOMPAREcaFURcaCLANcaSTEAMcaWATERcaFIREcaCLAWcaFATHERcaDOUBLE X",
    "caHALF TREE TRUNKcaSLICEcaFANGcaCOWcaDOGcaPROFOUNDcaJADEcaMELONcaTILEcaSWEETcaLIFEcaUSE",
    "caFIELDcaBOLT OF CLOTHcaSICKNESScaDOTTED TENTcaWHITEcaSKINcaDISHcaEYEcaSPEARcaARROWcaSTONE",
    "caSPIRITcaTRACKcaGRAINcaCAVEcaSTANDcaBAMBOOcaRICEcaSILKcaJARcaNETcaSHEEPcaFEATHERcaOLDcaAND",
    "caPLOWcaEARcaBRUSHcaMEATcaMINISTERcaSELFcaARRIVEcaMORTARcaTONGUEcaOPPOSEcaBOATcaSTOPPING",
    "caCOLORcaGRASScaTIGERcaINSECTcaBLOODcaWALK ENCLOSUREcaCLOTHEScaWESTcaSEEcaHORNcaSPEECH",
    "caVALLEYcaBEANcaPIGcaBADGERcaSHELLcaREDcaRUNcaFOOTcaBODYcaCARTcaBITTERcaMORNINGcaWALKcaCITY",
    "caWINEcaDISTINGUISHcaVILLAGEcaGOLDcaLONGcaGATEcaMOUNDcaSLAVEcaSHORT TAILED BIRDcaRAINcaBLUE",
    "caWRONGcaFACEcaLEATHERcbTANNEDcaLEEKcaSOUNDcaLEAFcaWINDcaFLYcaEATcaHEADcaFRAGRANTcaHORSE",
    "caBONEcaTALLcaHAIRcaFIGHTcaSACRIFICIAL WINEcaCAULDRONcaGHOSTcaFISHcaBIRDcaSALTcaDEERcaWHEAT",
    "caHEMPcaYELLOWcaMILLETcaBLACKcaEMBROIDERYcaFROGcaTRIPODcaDRUMcaRATcaNOSEcaEVENcaTOOTHcaDRAGON",
    "caTURTLEcaFLUTEaaIDEOGRAPHIC DESCRIPTION CHARACTER LEFT TO RIGHTdaABOVE TO BELOW",
    "daLEFT TO MIDDLE AND RIGHTdaABOVE TO MIDDLE AND BELOWdaFULL SURROUNDdaSURROUND FROM ABOVE",
    "faBELOWfaLEFTfbUPPERgaRIGHTfaLOWER LEFTdaOVERLAID"]

end ClusterBilling.Text.NameTable
