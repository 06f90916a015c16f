import ClusterBilling.Text.Name.Table

/-! Names of characters from U+3000 up to U+FFFF: scripts of syllables, and compatibility forms. -/
namespace ClusterBilling.Text.NameTable

def syllables : NameTable where
  rows := [
    (0x3000, 64), (0x3041, 86), (0x3099, 103), (0x3105, 43), (0x3131, 94), (0x3190, 84),
    (0x31f0, 47), (0x3220, 480), (0x4dc0, 64), (0xa000, 1165), (0xa490, 55), (0xa4d0, 348),
    (0xa640, 184), (0xa700, 203), (0xa7d0, 2), (0xa7d3, 1), (0xa7d5, 5), (0xa7f2, 59), (0xa830, 10),
    (0xa840, 56), (0xa880, 70), (0xa8ce, 12), (0xa8e0, 116), (0xa95f, 30), (0xa980, 78),
    (0xa9cf, 11), (0xa9de, 33), (0xaa00, 55), (0xaa40, 14), (0xaa50, 10), (0xaa5c, 103),
    (0xaadb, 28), (0xab01, 6), (0xab09, 6), (0xab11, 6), (0xab20, 7), (0xab28, 7), (0xab30, 60),
    (0xab70, 126), (0xabf0, 10), (0xd7b0, 23), (0xd7cb, 49), (0xfb00, 7), (0xfb13, 5), (0xfb1d, 26),
    (0xfb38, 5), (0xfb3e, 1), (0xfb40, 2), (0xfb43, 2), (0xfb46, 125), (0xfbd3, 445), (0xfd92, 54),
    (0xfdcf, 1), (0xfdf0, 42), (0xfe20, 51), (0xfe54, 19), (0xfe68, 4), (0xfe70, 5), (0xfe76, 135),
    (0xfeff, 1), (0xff01, 190), (0xffc2, 6), (0xffca, 6), (0xffd2, 6), (0xffda, 3), (0xffe0, 7),
    (0xffe8, 7), (0xfff9, 5)]
  entries := [
    "aaIDEOGRAPHIC SPACEbaCOMMAbaFULL STOPaaDITTO MARKaaJAPANESE INDUSTRIAL STANDARD SYMBOL",
    "aaIDEOGRAPHIC ITERATION MARKbbCLOSINGbaNUMBER ZEROaaLEFT ANGLE BRACKETacRIGHTacLEFT DOUBLE",
    "adRIGHTabLEFT CORNERacRIGHTacLEFT WHITEadRIGHTabLEFT BLACK LENTICULARadRIGHTaaPOSTAL MARK",
    "abGETAaaLEFT TORTOISE SHELL BRACKETadRIGHTabLEFT WHITE LENTICULARadRIGHT",
    "abLEFT WHITE TORTOISE SHELLaeRIGHTabLEFT WHITE SQUAREadRIGHTaaWAVE DASH",
    "aaREVERSED DOUBLE PRIME QUOTATION MARKaeaeLOWaaPOSTAL MARK FACEaaHANGZHOU NUMERAL ONEcaTWO",
    "caTHREEcaFOURcaFIVEcaSIXcaSEVENcaEIGHTcaNINEaaIDEOGRAPHIC LEVEL TONE MARKbcRISINGbcDEPARTING",
    "bcENTERINGacHANGUL SINGLE DOTbdDOUBLEaaWAVY DASHaaVERTICAL KANA REPEAT MARK",
    "dbWITH VOICED SOUNDdaMARK UPPER HALFddWITH VOICED SOUNDdbMARK LOWERaaCIRCLED POSTAL MARK",
    "aaIDEOGRAPHIC TELEGRAPH LINE FEED SEPARATOR SYMBOLaaHANGZHOU NUMERAL TENcaTWENTYcaTHIRTY",
    "aaVERTICAL IDEOGRAPHIC ITERATION MARKabMASUabPART ALTERNATION",
    "aaIDEOGRAPHIC VARIATION INDICATORbaHALF FILL SPACEaaHIRAGANA LETTER SMALL AcbcaSMALL Icb",
    "caSMALL UcbcaSMALL EcbcaSMALL OcbcaKAcaGAcaKIcaGIcaKUcaGUcaKEcaGEcaKOcaGOcaSAcaZAcaSIcaZIcaSU",
    "caZUcaSEcaZEcaSOcaZOcaTAcaDAcaTIcaDIcaSMALL TUcbcaDUcaTEcaDEcaTOcaDOcaNAcaNIcaNUcaNEcaNOcaHA",
    "caBAcaPAcaHIcaBIcaPIcaHUcaBUcaPUcaHEcaBEcaPEcaHOcaBOcaPOcaMAcaMIcaMUcaMEcaMOcaSMALL YAcb",
    "caSMALL YUcbcaSMALL YOcbcaRAcaRIcaRUcaREcaROcaSMALL WAcbcaWIcaWEcaWOcaNcaVUcaSMALL KAdaKE",
    "aaCOMBINING KATAKANA-HIRAGANA VOICED SOUND MARKccSEMI-VOICEDacKATAKANA-HIRAGANA VOICED",
    "bcSEMI-VOICEDabHIRAGANA ITERATIONbcVOICEDbaDIGRAPH YORIaaKATAKANA-HIRAGANA DOUBLE HYPHEN",
    "aaKATAKANA LETTER SMALL AcbcaSMALL IcbcaSMALL UcbcaSMALL EcbcaSMALL OcbcaKAcaGAcaKIcaGIcaKU",
    "caGUcaKEcaGEcaKOcaGOcaSAcaZAcaSIcaZIcaSUcaZUcaSEcaZEcaSOcaZOcaTAcaDAcaTIcaDIcaSMALL TUcbcaDU",
    "caTEcaDEcaTOcaDOcaNAcaNIcaNUcaNEcaNOcaHAcaBAcaPAcaHIcaBIcaPIcaHUcaBUcaPUcaHEcaBEcaPEcaHOcaBO",
    "caPOcaMAcaMIcaMUcaMEcaMOcaSMALL YAcbcaSMALL YUcbcaSMALL YOcbcaRAcaRIcaRUcaREcaROcaSMALL WAcb",
    "caWIcaWEcaWOcaNcaVUcaSMALL KAdaKEcaVAcaVIcaVEcaVObaMIDDLE DOT",
    "aaKATAKANA-HIRAGANA PROLONGED SOUND MARKabKATAKANA ITERATIONbcVOICEDbaDIGRAPH KOTO",
    "aaBOPOMOFO LETTER BcaPcaMcaFcaDcaTcaNcaLcaGcaKcaHcaJcaQcaXcaZHcaCHcaSHcaRcaZcaCcaScaAcaOcaE",
    "caEHcaAIcaEIcaAUcaOUcaANcaENcaANGcaENGcaERcaIcaUcaIUcaVcaNGcaGNcaIHcaO WITH DOT ABOVEcaNN",
    "aaHANGUL LETTER KIYEOKcaSSANGKIYEOKcaKIYEOK-SIOScaNIEUNcaNIEUN-CIEUCcaNIEUN-HIEUHcaTIKEUT",
    "caSSANGTIKEUTcaRIEULcaRIEUL-KIYEOKcaRIEUL-MIEUMcaRIEUL-PIEUPcaRIEUL-SIOScaRIEUL-THIEUTH",
    "caRIEUL-PHIEUPHcaRIEUL-HIEUHcaMIEUMcaPIEUPcaSSANGPIEUPcaPIEUP-SIOScaSIOScaSSANGSIOScaIEUNG",
    "caCIEUCcaSSANGCIEUCcaCHIEUCHcaKHIEUKHcaTHIEUTHcaPHIEUPHcaHIEUHcaAcaAEcaYAcaYAEcaEOcaEcaYEO",
    "caYEcaOcaWAcaWAEcaOEcaYOcaUcaWEOcaWEcaWIcaYUcaEUcaYIcaIbaFILLERbaLETTER SSANGNIEUN",
    "caNIEUN-TIKEUTcaNIEUN-SIOScaNIEUN-PANSIOScaRIEUL-KIYEOK-SIOScaRIEUL-TIKEUTcaRIEUL-PIEUP-SIOS",
    "caRIEUL-PANSIOScaRIEUL-YEORINHIEUHcaMIEUM-PIEUPcaMIEUM-SIOScaMIEUM-PANSIOScaKAPYEOUNMIEUM",
    "caPIEUP-KIYEOKcaPIEUP-TIKEUTcaPIEUP-SIOS-KIYEOKcaPIEUP-SIOS-TIKEUTcaPIEUP-CIEUC",
    "caPIEUP-THIEUTHcaKAPYEOUNPIEUPcaKAPYEOUNSSANGPIEUPcaSIOS-KIYEOKcaSIOS-NIEUNcaSIOS-TIKEUT",
    "caSIOS-PIEUPcaSIOS-CIEUCcaPANSIOScaSSANGIEUNGcaYESIEUNGcaYESIEUNG-SIOScaYESIEUNG-PANSIOS",
    "caKAPYEOUNPHIEUPHcaSSANGHIEUHcaYEORINHIEUHcaYO-YAcaYO-YAEcaYO-IcaYU-YEOcaYU-YEcaYU-IcaARAEA",
    "caARAEAEaaIDEOGRAPHIC ANNOTATION LINKING MARKcbREVERSEcbONEcbTWOcbTHREEcbFOURcbTOPcbMIDDLE",
    "cbBOTTOMcbFIRSTcbSECONDcbTHIRDcbFOURTHcbHEAVENcbEARTHcbMANaaBOPOMOFO LETTER BUcaZIcaJIcaGU",
    "caEEcaENNcaOOcaONNcaIRcaANNcaINNcaUNNcaIMcaNGGcaAINNcaAUNNcaAMcaOMcaONGcaINNNbaFINAL LETTER P",
    "daTdaKdaHbaLETTER GHcaLHcaZYbaFINAL LETTER GbaLETTER GWcaKWcaOEcaAHaaCJK STROKE TcaWGcaXG",
    "caBXGcaSWcaHZZcaHZGcaHPcaHZWGcaSZWGcaHZTcaHZZPcaHPWGcaHZWcaHZZZcaNcaHcaScaPcaSPcaDcaHZcaHG",
    "caSZcaSWZcaSTcaSGcaPDcaPZcaTNcaSZZcaSWGcaHXWGcaHZZZGcaPGcaQaaKATAKANA LETTER SMALL KUdaSIdaSU",
    "daTOdaNUdaHAdaHIdaHUdaHEdaHOdaMUdaRAdaRIdaRUdaREdaROaaPARENTHESIZED HANGUL KIYEOKcaNIEUN",
    "caTIKEUTcaRIEULcaMIEUMcaPIEUPcaSIOScaIEUNGcaCIEUCcaCHIEUCHcaKHIEUKHcaTHIEUTHcaPHIEUPHcaHIEUH",
    "caKIYEOK AcbNIEUNcbTIKEUTcbRIEULcbMIEUMcbPIEUPcbSIOScbIEUNGcbCIEUCcbCHIEUCHcbKHIEUKHcbTHIEUTH",
    "cbPHIEUPHcbHIEUHcaCIEUC UbaKOREAN CHARACTER OJEONdaO HUbaIDEOGRAPH ONEcaTWOcaTHREEcaFOUR",
    "caFIVEcaSIXcaSEVENcaEIGHTcaNINEcaTENcaMOONcaFIREcaWATERcaWOODcaMETALcaEARTHcaSUNcaSTOCKcaHAVE",
    "caSOCIETYcaNAMEcaSPECIALcaFINANCIALcaCONGRATULATIONcaLABORcaREPRESENTcaCALLcaSTUDYcaSUPERVISE",
    "caENTERPRISEcaRESOURCEcaALLIANCEcaFESTIVALcaRESTcaSELFcaREACHaaCIRCLED IDEOGRAPH QUESTION",
    "caKINDERGARTENcaSCHOOLcaKOTObaNUMBER TEN ON BLACK SQUAREcdTWENTYcdTHIRTYcdFORTYcdFIFTYcdSIXTY",
    "cdSEVENTYcdEIGHTYaaPARTNERSHIP SIGNaaCIRCLED NUMBER TWENTY ONEdaTWOdaTHREEdaFOURdaFIVEdaSIX",
    "daSEVENdaEIGHTdaNINEcaTHIRTYdaONEdaTWOdaTHREEdaFOURdaFIVEbaHANGUL KIYEOKcaNIEUNcaTIKEUT",
    "caRIEULcaMIEUMcaPIEUPcaSIOScaIEUNGcaCIEUCcaCHIEUCHcaKHIEUKHcaTHIEUTHcaPHIEUPHcaHIEUH",
    "caKIYEOK AcbNIEUNcbTIKEUTcbRIEULcbMIEUMcbPIEUPcbSIOScbIEUNGcbCIEUCcbCHIEUCHcbKHIEUKHcbTHIEUTH",
    "cbPHIEUPHcbHIEUHbaKOREAN CHARACTER CHAMKOdaJUEUIbaHANGUL IEUNG UaaKOREAN STANDARD SYMBOL",
    "aaCIRCLED IDEOGRAPH ONEcaTWOcaTHREEcaFOURcaFIVEcaSIXcaSEVENcaEIGHTcaNINEcaTENcaMOONcaFIRE",
    "caWATERcaWOODcaMETALcaEARTHcaSUNcaSTOCKcaHAVEcaSOCIETYcaNAMEcaSPECIALcaFINANCIAL",
    "caCONGRATULATIONcaLABORcaSECRETcaMALEcaFEMALEcaSUITABLEcaEXCELLENTcaPRINTcaATTENTIONcaITEM",
    "caRESTcaCOPYcaCORRECTcaHIGHcaCENTREcaLOWcaLEFTcaRIGHTcaMEDICINEcaRELIGIONcaSTUDYcaSUPERVISE",
    "caENTERPRISEcaRESOURCEcaALLIANCEcaNIGHTbaNUMBER THIRTY SIXdaSEVENdaEIGHTdaNINEcaFORTYdaONE",
    "daTWOdaTHREEdaFOURdaFIVEdaSIXdaSEVENdaEIGHTdaNINEcaFIFTY",
    "aaIDEOGRAPHIC TELEGRAPH SYMBOL FOR JANUARYeaFEBRUARYeaMARCHeaAPRILeaMAYeaJUNEeaJULYeaAUGUST",
    "eaSEPTEMBEReaOCTOBEReaNOVEMBEReaDECEMBERaaSQUARE HGbaERGbaEVaaLIMITED LIABILITY SIGN",
    "aaCIRCLED KATAKANA AcaIcaUcaEcaOcaKAcaKIcaKUcaKEcaKOcaSAcaSIcaSUcaSEcaSOcaTAcaTIcaTUcaTEcaTO",
    "caNAcaNIcaNUcaNEcaNOcaHAcaHIcaHUcaHEcaHOcaMAcaMIcaMUcaMEcaMOcaYAcaYUcaYOcaRAcaRIcaRUcaREcaRO",
    "caWAcaWIcaWEcaWOaaSQUARE ERA NAME REIWAbaAPAATObaARUHUAbaANPEAbaAARUbaININGUbaINTIbaUON",
    "baESUKUUDObaEEKAAbaONSUbaOOMUbaKAIRIbaKARATTObaKARORIIbaGARONbaGANMAbaGIGAbaGINIIbaKYURII",
    "baGIRUDAAbaKIRObaKIROGURAMUbaKIROMEETORUbaKIROWATTObaGURAMUbaGURAMUTONbaKURUZEIRObaKUROONE",
    "baKEESUbaKORUNAbaKOOPObaSAIKURUbaSANTIIMUbaSIRINGUbaSENTIbaSENTObaDAASUbaDESIbaDORUbaTON",
    "baNANObaNOTTObaHAITUbaPAASENTObaPAATUbaBAARERUbaPIASUTORUbaPIKURUbaPIKObaBIRUbaHUARADDO",
    "baHUIITObaBUSSYERUbaHURANbaHEKUTAARUbaPESObaPENIHIbaHERUTUbaPENSUbaPEEZIbaBEETAbaPOINTO",
    "baBORUTObaHONbaPONDObaHOORUbaHOONbaMAIKURObaMAIRUbaMAHHAbaMARUKUbaMANSYONbaMIKURONbaMIRI",
    "baMIRIBAARUbaMEGAbaMEGATONbaMEETORUbaYAADObaYAARUbaYUANbaRITTORUbaRIRAbaRUPIIbaRUUBURUbaREMU",
    "baRENTOGENbaWATTOaaIDEOGRAPHIC TELEGRAPH SYMBOL FOR HOUR ZEROfaONEfaTWOfaTHREEfaFOURfaFIVE",
    "faSIXfaSEVENfaEIGHTfaNINEfaTENfaELEVENfaTWELVEfaTHIRTEENfaFOURTEENfaFIFTEENfaSIXTEEN",
    "faSEVENTEENfaEIGHTEENfaNINETEENfaTWENTYfaTWENTY-ONEfaTWENTY-TWOfaTWENTY-THREEfaTWENTY-FOUR",
    "aaSQUARE HPAbaDAbaAUbaBARbaOVbaPCbaDMcaSQUAREDcaCUBEDbaIUbaERA NAME HEISEIdaSYOUWAdaTAISYOU",
    "daMEIZIbaCORPORATIONbaPA AMPSbaNAbaMU AbaMAbaKAbaKBbaMBbaGBbaCALbaKCALbaPFbaNFbaMU FcaGbaMG",
    "baKGbaHZbaKHZbaMHZbaGHZbaTHZbaMU LbaMLbaDLbaKLbaFMbaNMbaMU MbaMMbaCMbaKMbaMM SQUAREDbbCMbbM",
    "bbKMbaMM CUBEDbbCMbbMbbKMbaM OVER SeaSQUAREDbaPAbaKPAbaMPAbaGPAbaRADcaOVER SeaSQUAREDbaPSbaNS",
    "baMU SbaMSbaPVbaNVbaMU VbaMVbaKVbaMV MEGAbaPWbaNWbaMU WbaMWbaKWbaMW MEGAbaK OHMbbMbaAMbaBQ",
    "baCCbaCDbaC OVER KGbaCObaDBbaGYbaHAbaHPbaINbaKKbaKM CAPITALbaKTbaLMbaLNbaLOGbaLXbaMB SMALL",
    "baMILbaMOLbaPHbaPMbaPPMbaPRbaSRbaSVbaWBbaV OVER MbcA",
    "aaIDEOGRAPHIC TELEGRAPH SYMBOL FOR DAY ONEfaTWOfaTHREEfaFOURfaFIVEfaSIXfaSEVENfaEIGHTfaNINE",
    "faTENfaELEVENfaTWELVEfaTHIRTEENfaFOURTEENfaFIFTEENfaSIXTEENfaSEVENTEENfaEIGHTEENfaNINETEEN",
    "faTWENTYfaTWENTY-ONEfaTWENTY-TWOfaTWENTY-THREEfaTWENTY-FOURfaTWENTY-FIVEfaTWENTY-SIX",
    "faTWENTY-SEVENfaTWENTY-EIGHTfaTWENTY-NINEfaTHIRTYfaTHIRTY-ONEaaSQUARE GAL",
    "aaHEXAGRAM FOR THE CREATIVE HEAVENdaRECEPTIVE EARTHcaDIFFICULTY AT THE BEGINNING",
    "caYOUTHFUL FOLLYcaWAITINGcaCONFLICTcaTHE ARMYcaHOLDING TOGETHERcaSMALL TAMINGcaTREADING",
    "caPEACEcaSTANDSTILLcaFELLOWSHIPcaGREAT POSSESSIONcaMODESTYcaENTHUSIASMcaFOLLOWING",
    "caWORK ON THE DECAYEDcaAPPROACHcaCONTEMPLATIONcaBITING THROUGHcaGRACEcaSPLITTING APART",
    "caRETURNcaINNOCENCEcaGREAT TAMINGcaMOUTH CORNERScaGREAT PREPONDERANCEcaTHE ABYSMAL WATER",
    "daCLINGING FIREcaINFLUENCEcaDURATIONcaRETREATcaGREAT POWERcaPROGRESScaDARKENING OF THE LIGHT",
    "caTHE FAMILYcaOPPOSITIONcaOBSTRUCTIONcaDELIVERANCEcaDECREASEcaINCREASEcaBREAKTHROUGH",
    "caCOMING TO MEETcaGATHERING TOGETHERcaPUSHING UPWARDcaOPPRESSIONcaTHE WELLcaREVOLUTION",
    "caTHE CAULDRONdaAROUSING THUNDERdaKEEPING STILL MOUNTAINcaDEVELOPMENTcaTHE MARRYING MAIDEN",
    "caABUNDANCEcaTHE WANDERERdaGENTLE WINDdaJOYOUS LAKEcaDISPERSIONcaLIMITATIONcaINNER TRUTH",
    "caSMALL PREPONDERANCEcaAFTER COMPLETIONcbBEFOREaaYI SYLLABLE ITcaIXcaIcaIPcaIETcaIEXcaIEcaIEP",
    "caATcaAXcaAcaAPcaUOXcaUOcaUOPcaOTcaOXcaOcaOPcaEXcaEcaWUcaBITcaBIXcaBIcaBIPcaBIETcaBIEXcaBIE",
    "caBIEPcaBATcaBAXcaBAcaBAPcaBUOXcaBUOcaBUOPcaBOTcaBOXcaBOcaBOPcaBEXcaBEcaBEPcaBUTcaBUXcaBU",
    "caBUPcaBURXcaBURcaBYTcaBYXcaBYcaBYPcaBYRXcaBYRcaPITcaPIXcaPIcaPIPcaPIEXcaPIEcaPIEPcaPATcaPAX",
    "caPAcaPAPcaPUOXcaPUOcaPUOPcaPOTcaPOXcaPOcaPOPcaPUTcaPUXcaPUcaPUPcaPURXcaPURcaPYTcaPYXcaPY",
    "caPYPcaPYRXcaPYRcaBBITcaBBIXcaBBIcaBBIPcaBBIETcaBBIEXcaBBIEcaBBIEPcaBBATcaBBAXcaBBAcaBBAP",
    "caBBUOXcaBBUOcaBBUOPcaBBOTcaBBOXcaBBOcaBBOPcaBBEXcaBBEcaBBEPcaBBUTcaBBUXcaBBUcaBBUPcaBBURX",
    "caBBURcaBBYTcaBBYXcaBBYcaBBYPcaNBITcaNBIXcaNBIcaNBIPcaNBIEXcaNBIEcaNBIEPcaNBATcaNBAXcaNBA",
    "caNBAPcaNBOTcaNBOXcaNBOcaNBOPcaNBUTcaNBUXcaNBUcaNBUPcaNBURXcaNBURcaNBYTcaNBYXcaNBYcaNBYP",
    "caNBYRXcaNBYRcaHMITcaHMIXcaHMIcaHMIPcaHMIEXcaHMIEcaHMIEPcaHMATcaHMAXcaHMAcaHMAPcaHMUOXcaHMUO",
    "caHMUOPcaHMOTcaHMOXcaHMOcaHMOPcaHMUTcaHMUXcaHMUcaHMUPcaHMURXcaHMURcaHMYXcaHMYcaHMYPcaHMYRX",
    "caHMYRcaMITcaMIXcaMIcaMIPcaMIEXcaMIEcaMIEPcaMATcaMAXcaMAcaMAPcaMUOTcaMUOXcaMUOcaMUOPcaMOT",
    "caMOXcaMOcaMOPcaMEXcaMEcaMUTcaMUXcaMUcaMUPcaMURXcaMURcaMYTcaMYXcaMYcaMYPcaFITcaFIXcaFIcaFIP",
    "caFATcaFAXcaFAcaFAPcaFOXcaFOcaFOPcaFUTcaFUXcaFUcaFUPcaFURXcaFURcaFYTcaFYXcaFYcaFYPcaVITcaVIX",
    "caVIcaVIPcaVIETcaVIEXcaVIEcaVIEPcaVATcaVAXcaVAcaVAPcaVOTcaVOXcaVOcaVOPcaVEXcaVEPcaVUTcaVUX",
    "caVUcaVUPcaVURXcaVURcaVYTcaVYXcaVYcaVYPcaVYRXcaVYRcaDITcaDIXcaDIcaDIPcaDIEXcaDIEcaDIEPcaDAT",
    "caDAXcaDAcaDAPcaDUOXcaDUOcaDOTcaDOXcaDOcaDOPcaDEXcaDEcaDEPcaDUTcaDUXcaDUcaDUPcaDURXcaDURcaTIT",
    "caTIXcaTIcaTIPcaTIEXcaTIEcaTIEPcaTATcaTAXcaTAcaTAPcaTUOTcaTUOXcaTUOcaTUOPcaTOTcaTOXcaTOcaTOP",
    "caTEXcaTEcaTEPcaTUTcaTUXcaTUcaTUPcaTURXcaTURcaDDITcaDDIXcaDDIcaDDIPcaDDIEXcaDDIEcaDDIEPcaDDAT",
    "caDDAXcaDDAcaDDAPcaDDUOXcaDDUOcaDDUOPcaDDOTcaDDOXcaDDOcaDDOPcaDDEXcaDDEcaDDEPcaDDUTcaDDUX",
    "caDDUcaDDUPcaDDURXcaDDURcaNDITcaNDIXcaNDIcaNDIPcaNDIEXcaNDIEcaNDATcaNDAXcaNDAcaNDAPcaNDOT",
    "caNDOXcaNDOcaNDOPcaNDEXcaNDEcaNDEPcaNDUTcaNDUXcaNDUcaNDUPcaNDURXcaNDURcaHNITcaHNIXcaHNIcaHNIP",
    "caHNIETcaHNIEXcaHNIEcaHNIEPcaHNATcaHNAXcaHNAcaHNAPcaHNUOXcaHNUOcaHNOTcaHNOXcaHNOPcaHNEXcaHNE",
    "caHNEPcaHNUTcaNITcaNIXcaNIcaNIPcaNIEXcaNIEcaNIEPcaNAXcaNAcaNAPcaNUOXcaNUOcaNUOPcaNOTcaNOXcaNO",
    "caNOPcaNEXcaNEcaNEPcaNUTcaNUXcaNUcaNUPcaNURXcaNURcaHLITcaHLIXcaHLIcaHLIPcaHLIEXcaHLIEcaHLIEP",
    "caHLATcaHLAXcaHLAcaHLAPcaHLUOXcaHLUOcaHLUOPcaHLOXcaHLOcaHLOPcaHLEXcaHLEcaHLEPcaHLUTcaHLUX",
    "caHLUcaHLUPcaHLURXcaHLURcaHLYTcaHLYXcaHLYcaHLYPcaHLYRXcaHLYRcaLITcaLIXcaLIcaLIPcaLIETcaLIEX",
    "caLIEcaLIEPcaLATcaLAXcaLAcaLAPcaLUOTcaLUOXcaLUOcaLUOPcaLOTcaLOXcaLOcaLOPcaLEXcaLEcaLEPcaLUT",
    "caLUXcaLUcaLUPcaLURXcaLURcaLYTcaLYXcaLYcaLYPcaLYRXcaLYRcaGITcaGIXcaGIcaGIPcaGIETcaGIEXcaGIE",
    "caGIEPcaGATcaGAXcaGAcaGAPcaGUOTcaGUOXcaGUOcaGUOPcaGOTcaGOXcaGOcaGOPcaGETcaGEXcaGEcaGEPcaGUT",
    "caGUXcaGUcaGUPcaGURXcaGURcaKITcaKIXcaKIcaKIPcaKIEXcaKIEcaKIEPcaKATcaKAXcaKAcaKAPcaKUOXcaKUO",
    "caKUOPcaKOTcaKOXcaKOcaKOPcaKETcaKEXcaKEcaKEPcaKUTcaKUXcaKUcaKUPcaKURXcaKURcaGGITcaGGIXcaGGI",
    "caGGIEXcaGGIEcaGGIEPcaGGATcaGGAXcaGGAcaGGAPcaGGUOTcaGGUOXcaGGUOcaGGUOPcaGGOTcaGGOXcaGGOcaGGOP",
    "caGGETcaGGEXcaGGEcaGGEPcaGGUTcaGGUXcaGGUcaGGUPcaGGURXcaGGURcaMGIEXcaMGIEcaMGATcaMGAXcaMGA",
    "caMGAPcaMGUOXcaMGUOcaMGUOPcaMGOTcaMGOXcaMGOcaMGOPcaMGEXcaMGEcaMGEPcaMGUTcaMGUXcaMGUcaMGUP",
    "caMGURXcaMGURcaHXITcaHXIXcaHXIcaHXIPcaHXIETcaHXIEXcaHXIEcaHXIEPcaHXATcaHXAXcaHXAcaHXAPcaHXUOT",
    "caHXUOXcaHXUOcaHXUOPcaHXOTcaHXOXcaHXOcaHXOPcaHXEXcaHXEcaHXEPcaNGIEXcaNGIEcaNGIEPcaNGATcaNGAX",
    "caNGAcaNGAPcaNGUOTcaNGUOXcaNGUOcaNGOTcaNGOXcaNGOcaNGOPcaNGEXcaNGEcaNGEPcaHITcaHIEXcaHIEcaHAT",
    "caHAXcaHAcaHAPcaHUOTcaHUOXcaHUOcaHUOPcaHOTcaHOXcaHOcaHOPcaHEXcaHEcaHEPcaWATcaWAXcaWAcaWAP",
    "caWUOXcaWUOcaWUOPcaWOXcaWOcaWOPcaWEXcaWEcaWEPcaZITcaZIXcaZIcaZIPcaZIEXcaZIEcaZIEPcaZATcaZAX",
    "caZAcaZAPcaZUOXcaZUOcaZUOPcaZOTcaZOXcaZOcaZOPcaZEXcaZEcaZEPcaZUTcaZUXcaZUcaZUPcaZURXcaZUR",
    "caZYTcaZYXcaZYcaZYPcaZYRXcaZYRcaCITcaCIXcaCIcaCIPcaCIETcaCIEXcaCIEcaCIEPcaCATcaCAXcaCAcaCAP",
    "caCUOXcaCUOcaCUOPcaCOTcaCOXcaCOcaCOPcaCEXcaCEcaCEPcaCUTcaCUXcaCUcaCUPcaCURXcaCURcaCYTcaCYX",
    "caCYcaCYPcaCYRXcaCYRcaZZITcaZZIXcaZZIcaZZIPcaZZIETcaZZIEXcaZZIEcaZZIEPcaZZATcaZZAXcaZZAcaZZAP",
    "caZZOXcaZZOcaZZOPcaZZEXcaZZEcaZZEPcaZZUXcaZZUcaZZUPcaZZURXcaZZURcaZZYTcaZZYXcaZZYcaZZYP",
    "caZZYRXcaZZYRcaNZITcaNZIXcaNZIcaNZIPcaNZIEXcaNZIEcaNZIEPcaNZATcaNZAXcaNZAcaNZAPcaNZUOXcaNZUO",
    "caNZOXcaNZOPcaNZEXcaNZEcaNZUXcaNZUcaNZUPcaNZURXcaNZURcaNZYTcaNZYXcaNZYcaNZYPcaNZYRXcaNZYR",
    "caSITcaSIXcaSIcaSIPcaSIEXcaSIEcaSIEPcaSATcaSAXcaSAcaSAPcaSUOXcaSUOcaSUOPcaSOTcaSOXcaSOcaSOP",
    "caSEXcaSEcaSEPcaSUTcaSUXcaSUcaSUPcaSURXcaSURcaSYTcaSYXcaSYcaSYPcaSYRXcaSYRcaSSITcaSSIXcaSSI",
    "caSSIPcaSSIEXcaSSIEcaSSIEPcaSSATcaSSAXcaSSAcaSSAPcaSSOTcaSSOXcaSSOcaSSOPcaSSEXcaSSEcaSSEP",
    "caSSUTcaSSUXcaSSUcaSSUPcaSSYTcaSSYXcaSSYcaSSYPcaSSYRXcaSSYRcaZHATcaZHAXcaZHAcaZHAPcaZHUOX",
    "caZHUOcaZHUOPcaZHOTcaZHOXcaZHOcaZHOPcaZHETcaZHEXcaZHEcaZHEPcaZHUTcaZHUXcaZHUcaZHUPcaZHURX",
    "caZHURcaZHYTcaZHYXcaZHYcaZHYPcaZHYRXcaZHYRcaCHATcaCHAXcaCHAcaCHAPcaCHUOTcaCHUOXcaCHUOcaCHUOP",
    "caCHOTcaCHOXcaCHOcaCHOPcaCHETcaCHEXcaCHEcaCHEPcaCHUXcaCHUcaCHUPcaCHURXcaCHURcaCHYTcaCHYXcaCHY",
    "caCHYPcaCHYRXcaCHYRcaRRAXcaRRAcaRRUOXcaRRUOcaRROTcaRROXcaRROcaRROPcaRRETcaRREXcaRREcaRREP",
    "caRRUTcaRRUXcaRRUcaRRUPcaRRURXcaRRURcaRRYTcaRRYXcaRRYcaRRYPcaRRYRXcaRRYRcaNRATcaNRAXcaNRA",
    "caNRAPcaNROXcaNROcaNROPcaNRETcaNREXcaNREcaNREPcaNRUTcaNRUXcaNRUcaNRUPcaNRURXcaNRURcaNRYT",
    "caNRYXcaNRYcaNRYPcaNRYRXcaNRYRcaSHATcaSHAXcaSHAcaSHAPcaSHUOXcaSHUOcaSHUOPcaSHOTcaSHOXcaSHO",
    "caSHOPcaSHETcaSHEXcaSHEcaSHEPcaSHUTcaSHUXcaSHUcaSHUPcaSHURXcaSHURcaSHYTcaSHYXcaSHYcaSHYP",
    "caSHYRXcaSHYRcaRATcaRAXcaRAcaRAPcaRUOXcaRUOcaRUOPcaROTcaROXcaROcaROPcaREXcaREcaREPcaRUTcaRUX",
    "caRUcaRUPcaRURXcaRURcaRYTcaRYXcaRYcaRYPcaRYRXcaRYRcaJITcaJIXcaJIcaJIPcaJIETcaJIEXcaJIEcaJIEP",
    "caJUOTcaJUOXcaJUOcaJUOPcaJOTcaJOXcaJOcaJOPcaJUTcaJUXcaJUcaJUPcaJURXcaJURcaJYTcaJYXcaJYcaJYP",
    "caJYRXcaJYRcaQITcaQIXcaQIcaQIPcaQIETcaQIEXcaQIEcaQIEPcaQUOTcaQUOXcaQUOcaQUOPcaQOTcaQOXcaQO",
    "caQOPcaQUTcaQUXcaQUcaQUPcaQURXcaQURcaQYTcaQYXcaQYcaQYPcaQYRXcaQYRcaJJITcaJJIXcaJJIcaJJIP",
    "caJJIETcaJJIEXcaJJIEcaJJIEPcaJJUOXcaJJUOcaJJUOPcaJJOTcaJJOXcaJJOcaJJOPcaJJUTcaJJUXcaJJUcaJJUP",
    "caJJURXcaJJURcaJJYTcaJJYXcaJJYcaJJYPcaNJITcaNJIXcaNJIcaNJIPcaNJIETcaNJIEXcaNJIEcaNJIEPcaNJUOX",
    "caNJUOcaNJOTcaNJOXcaNJOcaNJOPcaNJUXcaNJUcaNJUPcaNJURXcaNJURcaNJYTcaNJYXcaNJYcaNJYPcaNJYRX",
    "caNJYRcaNYITcaNYIXcaNYIcaNYIPcaNYIETcaNYIEXcaNYIEcaNYIEPcaNYUOXcaNYUOcaNYUOPcaNYOTcaNYOXcaNYO",
    "caNYOPcaNYUTcaNYUXcaNYUcaNYUPcaXITcaXIXcaXIcaXIPcaXIETcaXIEXcaXIEcaXIEPcaXUOXcaXUOcaXOTcaXOX",
    "caXOcaXOPcaXYTcaXYXcaXYcaXYPcaXYRXcaXYRcaYITcaYIXcaYIcaYIPcaYIETcaYIEXcaYIEcaYIEPcaYUOTcaYUOX",
    "caYUOcaYUOPcaYOTcaYOXcaYOcaYOPcaYUTcaYUXcaYUcaYUPcaYURXcaYURcaYYTcaYYXcaYYcaYYPcaYYRXcaYYR",
    "baRADICAL QOTcaLIcaKITcaNYIPcaCYPcaSSIcaGGOPcaGEPcaMIcaHXITcaLYRcaBBUTcaMOPcaYOcaPUTcaHXUO",
    "caTATcaGAcaZUPcaCYTcaDDURcaBURcaGGUOcaNYOPcaTUcaOPcaJJUTcaZOTcaPYTcaHMOcaYITcaVURcaSHYcaVEP",
    "caZAcaJOcaNZUPcaJJYcaGOTcaJJIEcaWOcaDUcaSHURcaLIEcaCYcaCUOPcaCIPcaHXOPcaSHATcaZURcaSHOPcaCHE",
    "caZZIETcaNBIEcaKEaaLISU LETTER BAcaPAcaPHAcaDAcaTAcaTHAcaGAcaKAcaKHAcaJAcaCAcaCHAcaDZAcaTSA",
    "caTSHAcaMAcaNAcaLAcaSAcaZHAcaZAcaNGAcaHAcaXAcaHHAcaFAcaWAcaSHAcaYAcaGHAcaAcaAEcaEcaEUcaIcaO",
    "caUcaUEcaUHcaOEcaTONE MYA TIdaNA POdaMYA CYAeaBOeaNAeaJEUbaPUNCTUATION COMMAcaFULL STOP",
    "aaVAI SYLLABLE EEcaEENcaHEEcaWEEcaWEENcaPEEcaBHEEcaBEEcaMBEEcaKPEEcaMGBEEcaGBEEcaFEEcaVEE",
    "caTEEcaTHEEcaDHEEcaDHHEEcaLEEcaREEcaDEEcaNDEEcaSEEcaSHEEcaZEEcaZHEEcaCEEcaJEEcaNJEEcaYEEcaKEE",
    "caNGGEEcaGEEcaMEEcaNEEcaNYEEcaIcaINcaHIcaHINcaWIcaWINcaPIcaBHIcaBIcaMBIcaKPIcaMGBIcaGBIcaFI",
    "caVIcaTIcaTHIcaDHIcaDHHIcaLIcaRIcaDIcaNDIcaSIcaSHIcaZIcaZHIcaCIcaJIcaNJIcaYIcaKIcaNGGIcaGI",
    "caMIcaNIcaNYIcaAcaANcaNGANcaHAcaHANcaWAcaWANcaPAcaBHAcaBAcaMBAcaKPAcaKPANcaMGBAcaGBAcaFAcaVA",
    "caTAcaTHAcaDHAcaDHHAcaLAcaRAcaDAcaNDAcaSAcaSHAcaZAcaZHAcaCAcaJAcaNJAcaYAcaKAcaKANcaNGGAcaGA",
    "caMAcaNAcaNYAcaOOcaOONcaHOOcaWOOcaWOONcaPOOcaBHOOcaBOOcaMBOOcaKPOOcaMGBOOcaGBOOcaFOOcaVOO",
    "caTOOcaTHOOcaDHOOcaDHHOOcaLOOcaROOcaDOOcaNDOOcaSOOcaSHOOcaZOOcaZHOOcaCOOcaJOOcaNJOOcaYOOcaKOO",
    "caNGGOOcaGOOcaMOOcaNOOcaNYOOcaUcaUNcaHUcaHUNcaWUcaWUNcaPUcaBHUcaBUcaMBUcaKPUcaMGBUcaGBUcaFU",
    "caVUcaTUcaTHUcaDHUcaDHHUcaLUcaRUcaDUcaNDUcaSUcaSHUcaZUcaZHUcaCUcaJUcaNJUcaYUcaKUcaNGGUcaGU",
    "caMUcaNUcaNYUcaOcaONcaNGONcaHOcaHONcaWOcaWONcaPOcaBHOcaBOcaMBOcaKPOcaMGBOcaGBOcaGBONcaFOcaVO",
    "caTOcaTHOcaDHOcaDHHOcaLOcaROcaDOcaNDOcaSOcaSHOcaZOcaZHOcaCOcaJOcaNJOcaYOcaKOcaNGGOcaGOcaMO",
    "caNOcaNYOcaEcaENcaNGENcaHEcaHENcaWEcaWENcaPEcaBHEcaBEcaMBEcaKPEcaKPENcaMGBEcaGBEcaGBENcaFE",
    "caVEcaTEcaTHEcaDHEcaDHHEcaLEcaREcaDEcaNDEcaSEcaSHEcaZEcaZHEcaCEcaJEcaNJEcaYEcaKEcaNGGEcaNGGEN",
    "caGEcaGENcaMEcaNEcaNYEcaNGcaLENGTHENERbaCOMMAbaFULL STOPbaQUESTION MARKbaSYLLABLE NDOLE FA",
    "daKAdaSOObaSYMBOL FEENGcaKEENGcaTINGcaNIIcaBANGcaFAAcaTAAcaDANGcaDOONGcaKUNGcaTONGcaDO-O",
    "caJONGbaDIGIT ZEROcaONEcaTWOcaTHREEcaFOURcaFIVEcaSIXcaSEVENcaEIGHTcaNINEbaSYLLABLE NDOLE MA",
    "daDOaaCYRILLIC CAPITAL LETTER ZEMLYAbcSMALLbaCAPITAL LETTER DZELObcSMALL",
    "baCAPITAL LETTER REVERSED DZEbdSMALLbaCAPITAL LETTER IOTAbcSMALLbaCAPITAL LETTER DJERVbcSMALL",
    "baCAPITAL LETTER MONOGRAPH UKbdSMALLbaCAPITAL LETTER BROAD OMEGAbdSMALL",
    "baCAPITAL LETTER NEUTRAL YERbdSMALLbbCAPITAL LETTER YERU WITH BACKbfSMALL",
    "baCAPITAL LETTER IOTIFIED YATbdSMALLbaCAPITAL LETTER REVERSED YUbdSMALL",
    "baCAPITAL LETTER IOTIFIED AbdSMALLbaCAPITAL LETTER CLOSED LITTLE YUSbeSMALL",
    "bbCAPITAL LETTER BLENDEDbdSMALLbbCAPITAL LETTER IOTIFIED CLOSED LITTLEbfSMALL",
    "baCAPITAL LETTER YNbcSMALLbaCAPITAL LETTER REVERSED TSEbdSMALLbaCAPITAL LETTER SOFT DEbdSMALL",
    "baCAPITAL LETTER SOFT ELbdSMALLbaCAPITAL LETTER SOFT EMbdSMALLbaCAPITAL LETTER MONOCULAR O",
    "bdSMALLbbCAPITAL LETTER BINOCULARbdSMALLbbCAPITAL LETTER DOUBLE MONOCULARbeSMALL",
    "bbLETTER MULTIOCULARaaCOMBINING CYRILLIC VZMETcaTEN MILLIONS SIGNccHUNDREDccTHOUSAND",
    "aaSLAVONIC ASTERISKaaCOMBINING CYRILLIC LETTER UKRAINIAN IEdaIdaYIdaUdaHARD SIGNdaYERU",
    "daSOFT SIGNdaOMEGAcaKAVYKAcaPAYEROKaaCYRILLIC KAVYKAbaPAYEROKbaCAPITAL LETTER DWEbcSMALL",
    "baCAPITAL LETTER DZWEbcSMALLbaCAPITAL LETTER ZHWEbcSMALLbaCAPITAL LETTER CCHEbcSMALL",
    "baCAPITAL LETTER DZZEbcSMALLbaCAPITAL LETTER TE WITH MIDDLE HOOKbfSMALLbaCAPITAL LETTER TWE",
    "bcSMALLbaCAPITAL LETTER TSWEbcSMALLbaCAPITAL LETTER TSSEbcSMALLbaCAPITAL LETTER TCHEbcSMALL",
    "baCAPITAL LETTER HWEbcSMALLbaCAPITAL LETTER SHWEbcSMALLbaCAPITAL LETTER DOUBLE ObdSMALL",
    "bbCAPITAL LETTER CROSSEDbdSMALLaaMODIFIER LETTER CYRILLIC HARD SIGNdbSOFT",
    "aaCOMBINING CYRILLIC LETTER EFdaIOTIFIED EaaBAMUM LETTER AcaKAcaUcaKUcaEEcaREEcaTAEcaOcaNYI",
    "caIcaLAcaPAcaRIIcaRIEEcaLEEEEcaMEEEEcaTAAcaNDAAcaNJAEMcaMcaSUUcaMUcaSHIIcaSIcaSHEUXcaSEUX",
    "caKYEEcaKETcaNUAEcaNUcaNJUAEcaYOQcaSHUcaYUQcaYAcaNSHAcaKEUXcaPEUXcaNJEEcaNTEEcaPUEcaWUEcaPEE",
    "caFEEcaRUcaLUcaMIcaNIcaREUXcaRAEcaKENcaNGKWAENcaNGGAcaNGAcaSHOcaPUAEcaFUcaFOMcaWAcaNAcaLIcaPI",
    "caLOQcaKOcaMBENcaRENcaMENcaMAcaTIcaKIcaMOcaMBAAcaTETcaKPAcaTENcaNTUUcaSAMBAcaFAAMAEcaKOVUU",
    "caKOGHOMbaCOMBINING MARK KOQNDONdaTUKWENTISbaNJAEMLIbaFULL STOPbaCOLONbaCOMMAbaSEMICOLON",
    "baQUESTION MARKaaMODIFIER LETTER CHINESE TONE YIN PINGebYANGeaYIN SHANGebYANGeaYIN QUebYANG",
    "eaYIN RUebYANGcaEXTRA-HIGH DOTTED TONE BARcdHIGHcdMIDcdLOWcdEXTRA-LOW",
    "ccEXTRA-HIGH DOTTED LEFT-STEMceHIGHceMIDceLOWceEXTRA-LOWcdEXTRA-HIGHcdHIGHcdMIDcdLOW",
    "cdEXTRA-LOWcbDOT VERTICALdaSLASHdaHORIZONTAL BARcaLOWER RIGHT CORNER ANGLEcaRAISED UP ARROW",
    "dbDOWNdaEXCLAMATION MARKdcINVERTEDcdLOWcaSTRESS AND HIGH TONEebLOW",
    "aaLATIN CAPITAL LETTER EGYPTOLOGICAL ALEFbdSMALLbaCAPITAL LETTER EGYPTOLOGICAL AINbdSMALL",
    "baCAPITAL LETTER HENGbcSMALLbaCAPITAL LETTER TZbcSMALLbaCAPITAL LETTER TRESILLObcSMALL",
    "baCAPITAL LETTER CUATRILLObcSMALLbaCAPITAL LETTER CUATRILLO WITH COMMAbeSMALL",
    "baLETTER SMALL CAPITAL FeaSbaCAPITAL LETTER AAbcSMALLbaCAPITAL LETTER AObcSMALL",
    "baCAPITAL LETTER AUbcSMALLbaCAPITAL LETTER AVbcSMALLbaCAPITAL LETTER AV WITH HORIZONTAL BAR",
    "bfSMALLbaCAPITAL LETTER AYbcSMALLbaCAPITAL LETTER REVERSED C WITH DOTbfSMALL",
    "baCAPITAL LETTER K WITH STROKEbeSMALLbbCAPITAL LETTER K WITH DIAGONALbfSMALL",
    "bcCAPITAL LETTER K WITH STROKE ANDbhSMALLbaCAPITAL LETTER BROKEN LbdSMALL",
    "baCAPITAL LETTER L WITH HIGH STROKEbfSMALLbaCAPITAL LETTER O WITH LONG STROKE OVERLAYbgSMALL",
    "baCAPITAL LETTER O WITH LOOPbeSMALLbaCAPITAL LETTER OObcSMALL",
    "baCAPITAL LETTER P WITH STROKE THROUGH DESCENDERbgSMALLbaCAPITAL LETTER P WITH FLOURISH",
    "beSMALLbaCAPITAL LETTER P WITH SQUIRREL TAILbfSMALL",
    "baCAPITAL LETTER Q WITH STROKE THROUGH DESCENDERbgSMALL",
    "baCAPITAL LETTER Q WITH DIAGONAL STROKEbfSMALLbaCAPITAL LETTER R ROTUNDAbdSMALL",
    "bbCAPITAL LETTER RUMbdSMALLbaCAPITAL LETTER V WITH DIAGONAL STROKEbfSMALLbaCAPITAL LETTER VY",
    "bcSMALLbaCAPITAL LETTER VISIGOTHIC ZbdSMALLbaCAPITAL LETTER THORN WITH STROKEbeSMALL",
    "baCAPITAL LETTER THORN WITH STROKE THROUGH DESCENDERbgSMALLbaCAPITAL LETTER VENDbcSMALL",
    "baCAPITAL LETTER ETbcSMALLbaCAPITAL LETTER ISbcSMALLbaCAPITAL LETTER CONbcSMALL",
    "aaMODIFIER LETTER USaaLATIN SMALL LETTER DUMdaLUMdaMUMdaNUMdaRUMbbLETTER SMALL CAPITAL",
    "baSMALL LETTER TUMdaUMbaCAPITAL LETTER INSULAR DbdSMALLbaCAPITAL LETTER INSULAR FbdSMALL",
    "baCAPITAL LETTER INSULAR GdcTURNEDbeSMALLbaCAPITAL LETTER TURNED LbdSMALL",
    "baCAPITAL LETTER INSULAR RbdSMALLbaCAPITAL LETTER INSULAR SbdSMALLbaCAPITAL LETTER INSULAR T",
    "bdSMALLaaMODIFIER LETTER LOW CIRCUMFLEX ACCENTcaCOLONcaSHORT EQUALS SIGN",
    "aaLATIN CAPITAL LETTER SALTILLObcSMALLbaCAPITAL LETTER TURNED H",
    "baSMALL LETTER L WITH RETROFLEX HOOK AND BELTbaLETTER SINOLOGICAL DOT",
    "baCAPITAL LETTER N WITH DESCENDERbeSMALLbaCAPITAL LETTER C WITH BARbeSMALLfaPALATAL HOOKddH",
    "baCAPITAL LETTER B WITH FLOURISHbeSMALLbaCAPITAL LETTER F WITH STROKEbeSMALL",
    "baCAPITAL LETTER VOLAPUK AEbdSMALLbaCAPITAL LETTER VOLAPUK OEbdSMALL",
    "baCAPITAL LETTER VOLAPUK UEbdSMALLbaCAPITAL LETTER G WITH OBLIQUE STROKEbfSMALL",
    "bdCAPITAL LETTER KbfSMALLbdCAPITAL LETTER NbfSMALLbdCAPITAL LETTER RbfSMALLbdCAPITAL LETTER S",
    "bfSMALLbaCAPITAL LETTER H WITH HOOKdaREVERSED OPEN EdaSCRIPT GdaL WITH BELTdaSMALL CAPITAL I",
    "baLETTER SMALL CAPITAL QbaCAPITAL LETTER TURNED KeaTdaJ WITH CROSSED-TAILdaCHIdaBETAbcSMALL",
    "baCAPITAL LETTER OMEGAbcSMALLbaCAPITAL LETTER U WITH STROKEbeSMALLbaCAPITAL LETTER GLOTTAL A",
    "bdSMALLbaCAPITAL LETTER GLOTTAL IbdSMALLbaCAPITAL LETTER GLOTTAL UbdSMALL",
    "baCAPITAL LETTER OLD POLISH ObeSMALLbaCAPITAL LETTER ANGLICANA WbdSMALL",
    "baCAPITAL LETTER C WITH PALATAL HOOKdbS WITHdbZ WITH PALATALdaD WITH SHORT STROKE OVERLAY",
    "bgSMALLbeCAPITAL LETTER SbgSMALLbaCAPITAL LETTER CLOSED INSULAR GbeSMALLdaDOUBLE THORNeaWYNN",
    "baCAPITAL LETTER MIDDLE SCOTS SbeSMALLbbCAPITAL LETTER SIGMOIDbdSMALL",
    "aaMODIFIER LETTER CAPITAL CdaFdaQaaLATIN CAPITAL LETTER REVERSED HALF HbeSMALL",
    "baEPIGRAPHIC LETTER SIDEWAYS IaaMODIFIER LETTER CAPITAL H WITH STROKEcaSMALL LIGATURE OE",
    "aaLATIN LETTER SMALL CAPITAL TURNED MbaEPIGRAPHIC LETTER REVERSED FeaPdaINVERTED MdaI LONGA",
    "daARCHAIC MaaSYLOTI NAGRI LETTER AdaIcaSIGN DVISVARAcaLETTER UdaEdaOcaSIGN HASANTAcaLETTER KO",
    "daKHOdaGOdaGHOcaSIGN ANUSVARAcaLETTER COdaCHOdaJOdaJHOdaTTOdaTTHOdaDDOdaDDHOdaTOdaTHOdaDO",
    "daDHOdaNOdaPOdaPHOdaBOdaBHOdaMOdaROdaLOdaRROdaSOdaHOcaVOWEL SIGN AeaIeaUeaEeaOO",
    "caPOETRY MARK-1daMARK-2daMARK-3daMARK-4caSIGN ALTERNATE HASANTA",
    "aaNORTH INDIC FRACTION ONE QUARTEReaHALFdaTHREE QUARTERSdaONE SIXTEENTHeaEIGHTH",
    "daTHREE SIXTEENTHScaQUARTER MARKcbPLACEHOLDERcbRUPEEcbQUANTITYaaPHAGS-PA LETTER KAcaKHAcaGA",
    "caNGAcaCAcaCHAcaJAcaNYAcaTAcaTHAcaDAcaNAcaPAcaPHAcaBAcaMAcaTSAcaTSHAcaDZAcaWAcaZHAcaZA",
    "caSMALL AcaYAcaRAcaLAcaSHAcaSAcaHAcaAcaIcaUcaEcaOcaQAcaXAcaFAcaGGAcaEEbaSUBJOINED LETTER WA",
    "daYAbaLETTER TTAcaTTHAcaDDAcaNNAcaALTERNATE YAcaVOICELESS SHAcaVOICED HAcaASPIRATED FA",
    "baSUBJOINED LETTER RAbcSUPERFIXEDbaLETTER CANDRABINDUbaSINGLE HEAD MARKbcDOUBLEbaMARK SHAD",
    "cbDOUBLEaaSAURASHTRA SIGN ANUSVARAcaVISARGAbaLETTER AcaAAcaIcaIIcaUcaUUcaVOCALIC RdaRRdaLdaLL",
    "caEcaEEcaAIcaOcaOOcaAUcaKAcaKHAcaGAcaGHAcaNGAcaCAcaCHAcaJAcaJHAcaNYAcaTTAcaTTHAcaDDAcaDDHA",
    "caNNAcaTAcaTHAcaDAcaDHAcaNAcaPAcaPHAcaBAcaBHAcaMAcaYAcaRAcaLAcaVAcaSHAcaSSAcaSAcaHAcaLLA",
    "baCONSONANT SIGN HAARUbaVOWEL SIGN AAdaIdaIIdaUdaUUdaVOCALIC ReaRReaLeaLLdaEdaEEdaAIdaOdaOO",
    "daAUbaSIGN VIRAMAcaCANDRABINDUbaDANDAbbDOUBLEbaDIGIT ZEROcaONEcaTWOcaTHREEcaFOURcaFIVEcaSIX",
    "caSEVENcaEIGHTcaNINEaaCOMBINING DEVANAGARI DIGIT ZEROdaONEdaTWOdaTHREEdaFOURdaFIVEdaSIX",
    "daSEVENdaEIGHTdaNINEcaLETTER AdaUdaKAdaNAdaPAdaRAdaVIcaSIGN AVAGRAHA",
    "aaDEVANAGARI SIGN SPACING CANDRABINDUcaCANDRABINDU VIRAMAccDOUBLEcaCANDRABINDU TWOdaTHREE",
    "daAVAGRAHAcaPUSHPIKAbaGAP FILLERbaCARETbaHEADSTROKEbaSIGN SIDDHAMbaJAIN OMbaLETTER AY",
    "bbVOWEL SIGNaaKAYAH LI DIGIT ZEROdaONEdaTWOdaTHREEdaFOURdaFIVEdaSIXdaSEVENdaEIGHTdaNINE",
    "caLETTER KAdaKHAdaGAdaNGAdaSAdaSHAdaZAdaNYAdaTAdaHTAdaNAdaPAdaPHAdaMAdaDAdaBAdaRAdaYAdaLAdaWA",
    "daTHAdaHAdaVAdaCAdaAdaOEdaIdaOOcaVOWEL UEdaEdaUdaEEdaOcaTONE PLOPHUdaCALYAeaPLOPHUcaSIGN CWI",
    "daSHYAaaREJANG LETTER KAcaGAcaNGAcaTAcaDAcaNAcaPAcaBAcaMAcaCAcaJAcaNYAcaSAcaRAcaLAcaYAcaWA",
    "caHAcaMBAcaNGGAcaNDAcaNYJAcaAbaVOWEL SIGN IdaUdaEdaAIdaOdaAUdaEUdaEAbaCONSONANT SIGN NGdaNdaR",
    "daHbaVIRAMAbaSECTION MARKaaHANGUL CHOSEONG TIKEUT-MIEUMcaTIKEUT-PIEUPcaTIKEUT-SIOS",
    "caTIKEUT-CIEUCcaRIEUL-KIYEOKcaRIEUL-SSANGKIYEOKcaRIEUL-TIKEUTcaRIEUL-SSANGTIKEUTcaRIEUL-MIEUM",
    "caRIEUL-PIEUPcaRIEUL-SSANGPIEUPcaRIEUL-KAPYEOUNPIEUPcaRIEUL-SIOScaRIEUL-CIEUCcaRIEUL-KHIEUKH",
    "caMIEUM-KIYEOKcaMIEUM-TIKEUTcaMIEUM-SIOScaPIEUP-SIOS-THIEUTHcaPIEUP-KHIEUKHcaPIEUP-HIEUH",
    "caSSANGSIOS-PIEUPcaIEUNG-RIEULcaIEUNG-HIEUHcaSSANGCIEUC-HIEUHcaSSANGTHIEUTHcaPHIEUPH-HIEUH",
    "caHIEUH-SIOScaSSANGYEORINHIEUHaaJAVANESE SIGN PANYANGGAcaCECAKcaLAYARcaWIGNYANbaLETTER A",
    "caI KAWIdacaIIcaUcaPA CEREKcaNGA LELETeaRASWADIcaEcaAIcaOcaKAdaSASAKdaMURDAcaGAdaMURDAcaNGA",
    "caCAdaMURDAcaJAcaNYA MURDAcaJA MAHAPRANAcaNYAcaTTAdaMAHAPRANAcaDDAdaMAHAPRANAcaNA MURDAcaTA",
    "daMURDAcaDAdaMAHAPRANAcaNAcaPAdaMURDAcaBAdaMURDAcaMAcaYAcaRAdaAGUNGcaLAcaWAcaSA MURDA",
    "daMAHAPRANAdacaHAbaSIGN CECAK TELUbaVOWEL SIGN TARUNGdaTOLONGdaWULUeaMELIKdaSUKUeaMENDUT",
    "daTALINGdaDIRGA MUREdaPEPETbaCONSONANT SIGN KERETdaPENGKALdaCAKRAbaPANGKONbaLEFT RERENGGAN",
    "bbRIGHTbaPADA ANDAPcaMADYAcaLUHURcaWINDUcaPANGKATcaLINGSAcaLUNGSIcaADEGdaADEGcaPISELEH",
    "bcTURNEDbaPANGRANGKEPbaDIGIT ZEROcaONEcaTWOcaTHREEcaFOURcaFIVEcaSIXcaSEVENcaEIGHTcaNINE",
    "baPADA TIRTA TUMETEScaISEN-ISENaaMYANMAR LETTER SHAN GHAdaCHAdaJHAdaNNAdaBHAbaSIGN SHAN SAW",
    "baMODIFIER LETTER SHAN REDUPLICATIONbaLETTER TAI LAING NYAeaFAeaGAeaGHAeaJAeaJHAeaDDAeaDDHA",
    "eaNNAbaTAI LAING DIGIT ZEROeaONEeaTWOeaTHREEeaFOUReaFIVEeaSIXeaSEVENeaEIGHTeaNINE",
    "baLETTER TAI LAING LLAeaDAeaDHAeaBAeaBHAaaCHAM LETTER AcaIcaUcaEcaAIcaOcaKAcaKHAcaGAcaGHA",
    "caNGUEcaNGAcaCHAcaCHHAcaJAcaJHAcaNHUEcaNHAcaNHJAcaTAcaTHAcaDAcaDHAcaNUEcaNAcaDDAcaPAcaPPA",
    "caPHAcaBAcaBHAcaMUEcaMAcaBBAcaYAcaRAcaLAcaVAcaSSAcaSAcaHAbaVOWEL SIGN AAdaIdaIIdaEIdaUdaOEdaO",
    "daAIdaAUdaUEbaCONSONANT SIGN YAdaRAdaLAdaWAbaLETTER FINAL KdaGdaNGbcCONSONANT SIGN",
    "baLETTER FINAL CHdaTdaNdaPdaYdaRdaLdaSSbaCONSONANT SIGN FINAL MeaHbaDIGIT ZEROcaONEcaTWO",
    "caTHREEcaFOURcaFIVEcaSIXcaSEVENcaEIGHTcaNINEbaPUNCTUATION SPIRALcaDANDAcbDOUBLEcbTRIPLE",
    "aaMYANMAR LETTER KHAMTI GAdaCAdaCHAdaJAdaJHAdaNYAdaTTAdaTTHAdaDDAdaDDHAdaDHAdaNAdaSAdaHAdaHHA",
    "daFAbaMODIFIER LETTER KHAMTI REDUPLICATIONbaLETTER KHAMTI XAdaZAdaRAbaLOGOGRAM KHAMTI OAYdaQN",
    "daHMbaSYMBOL AITON EXCLAMATIONdaONEdaTWObaLETTER AITON RAbaSIGN PAO KAREN TONE",
    "caTAI LAING TONE-2eaTONE-5baLETTER SHWE PALAUNG CHAeaSHAaaTAI VIET LETTER LOW KOdbHIGH",
    "daLOW KHOdbHIGHdaLOW KHHOdbHIGHdaLOW GOdbHIGHdaLOW NGOdbHIGHdaLOW COdbHIGHdaLOW CHOdbHIGH",
    "daLOW SOdbHIGHdaLOW NYOdbHIGHdaLOW DOdbHIGHdaLOW TOdbHIGHdaLOW THOdbHIGHdaLOW NOdbHIGH",
    "daLOW BOdbHIGHdaLOW POdbHIGHdaLOW PHOdbHIGHdaLOW FOdbHIGHdaLOW MOdbHIGHdaLOW YOdbHIGHdaLOW RO",
    "dbHIGHdaLOW LOdbHIGHdaLOW VOdbHIGHdaLOW HOdbHIGHdaLOW OdbHIGHcaMAI KANGcaVOWEL AAdaIdaUEdaU",
    "daEdaOcaMAI KHITcaVOWEL IAdaUEAdaUAdaAUEdaAYdaANdaAMcaTONE MAI EKeaNUENGeaTHOeaSONG",
    "caSYMBOL KONdaNUENGdaSAMdaHO HOIdaKOI KOIaaMEETEI MAYEK LETTER EdaOdaCHAdaNYAdaTTAdaTTHAdaDDA",
    "daDDHAdaNNAdaSHAdaSSAcaVOWEL SIGN IIeaUUeaAAIeaAUeaAAUcaCHEIKHANcaAHANG KHUDAMcaANJI",
    "caSYLLABLE REPETITION MARKccWORDcaVOWEL SIGN VISARGAcaVIRAMAaaETHIOPIC SYLLABLE TTHUcaTTHI",
    "caTTHAAcaTTHEEcaTTHEcaTTHOcaDDHUcaDDHIcaDDHAAcaDDHEEcaDDHEcaDDHOcaDZUcaDZIcaDZAAcaDZEEcaDZE",
    "caDZOcaCCHHAcaCCHHUcaCCHHIcaCCHHAAcaCCHHEEcaCCHHEcaCCHHOcaBBAcaBBUcaBBIcaBBAAcaBBEEcaBBEcaBBO",
    "aaLATIN SMALL LETTER BARRED ALPHAdaA REVERSED-SCHWAdaBLACKLETTER EdbBARREDdaE WITH FLOURISH",
    "daLENIS FdaSCRIPT G WITH CROSSED-TAILdaL WITH INVERTED LAZY SfaDOUBLE MIDDLE TILDE",
    "faMIDDLE RINGdaM WITH CROSSED-TAILdcNdcENGdaBLACKLETTER OfaWITH STROKEddOPENdaINVERTED OE",
    "daTURNED OE WITH STROKEgbHORIZONTALeaO OPEN-OgaWITH STROKEdaSTIRRUP R",
    "baLETTER SMALL CAPITAL R WITH RIGHT LEGbaSMALL LETTER R WITHOUT HANDLEdaDOUBLE R",
    "daR WITH CROSSED-TAILddDOUBLEdaSCRIPT RfaWITH RINGdaBASELINE ESHdaU WITH SHORT RIGHT LEGeeBAR",
    "daUIdbTURNEDdaU WITH LEFT HOOKdaCHIeaWITH LOW RIGHT RINGgaLEFT SERIFdaX WITH LOW RIGHT RING",
    "faLONG LEFT LEGiaAND LOW RIGHT RINGiaWITH SERIFdaY WITH SHORT RIGHT LEG",
    "aaMODIFIER BREVE WITH INVERTED BREVEbaLETTER SMALL HENGdaL WITH INVERTED LAZY SfaMIDDLE TILDE",
    "daU WITH LEFT HOOKaaLATIN SMALL LETTER SAKHA YATdaIOTIFIED EdaOPEN OEdaUOdaINVERTED ALPHA",
    "aaGREEK LETTER SMALL CAPITAL OMEGAaaLATIN SMALL LETTER DZ DIGRAPH WITH RETROFLEX HOOKdeTS",
    "daTURNED R WITH MIDDLE TILDEaaMODIFIER LETTER SMALL TURNED WcaLEFT TACKcbRIGHT",
    "aaCHEROKEE SMALL LETTER AdaEdaIdaOdaUdaVdaGAdaKAdaGEdaGIdaGOdaGUdaGVdaHAdaHEdaHIdaHOdaHUdaHV",
    "daLAdaLEdaLIdaLOdaLUdaLVdaMAdaMEdaMIdaMOdaMUdaNAdaHNAdaNAHdaNEdaNIdaNOdaNUdaNVdaQUAdaQUEdaQUI",
    "daQUOdaQUUdaQUVdaSAdaSdaSEdaSIdaSOdaSUdaSVdaDAdaTAdaDEdaTEdaDIdaTIdaDOdaDUdaDVdaDLAdaTLAdaTLE",
    "daTLIdaTLOdaTLUdaTLVdaTSAdaTSEdaTSIdaTSOdaTSUdaTSVdaWAdaWEdaWIdaWOdaWUdaWVdaYA",
    "aaMEETEI MAYEK LETTER KOKdaSAMdaLAIdaMITdaPAdaNAdaCHILdaTILdaKHOUdaNGOUdaTHOUdaWAIdaYANGdaHUK",
    "daUNdaIdaPHAMdaATIYAdaGOKdaJHAMdaRAIdaBAdaJILdaDILdaGHOUdaDHOUdaBHAMdaKOK LONSUMdbLAIdbMIT",
    "dbPAdbNAdbTILdbNGOUdbIcaVOWEL SIGN ONAPeaINAPeaANAPeaYENAPeaSOUNAPeaUNAPeaCHEINAPeaNUNG",
    "caCHEIKHEIcaLUM IYEKcbAPUNcaDIGIT ZEROdaONEdaTWOdaTHREEdaFOURdaFIVEdaSIXdaSEVENdaEIGHTdaNINE",
    "aaHANGUL JUNGSEONG O-YEOcaO-O-IcaYO-AcaYO-AEcaYO-EOcaU-YEOcaU-I-IcaYU-AEcaYU-OcaEU-AcaEU-EO",
    "caEU-EcaEU-OcaI-YA-OcaI-YAEcaI-YEOcaI-YEcaI-O-IcaI-YOcaI-YUcaI-IcaARAEA-AcaARAEA-E",
    "baJONGSEONG NIEUN-RIEULcaNIEUN-CHIEUCHcaSSANGTIKEUTcaSSANGTIKEUT-PIEUPcaTIKEUT-PIEUP",
    "caTIKEUT-SIOScaTIKEUT-SIOS-KIYEOKcaTIKEUT-CIEUCcaTIKEUT-CHIEUCHcaTIKEUT-THIEUTH",
    "caRIEUL-SSANGKIYEOKcaRIEUL-KIYEOK-HIEUHcaSSANGRIEUL-KHIEUKHcaRIEUL-MIEUM-HIEUH",
    "caRIEUL-PIEUP-TIKEUTcaRIEUL-PIEUP-PHIEUPHcaRIEUL-YESIEUNGcaRIEUL-YEORINHIEUH-HIEUH",
    "caKAPYEOUNRIEULcaMIEUM-NIEUNcaMIEUM-SSANGNIEUNcaSSANGMIEUMcaMIEUM-PIEUP-SIOScaMIEUM-CIEUC",
    "caPIEUP-TIKEUTcaPIEUP-RIEUL-PHIEUPHcaPIEUP-MIEUMcaSSANGPIEUPcaPIEUP-SIOS-TIKEUTcaPIEUP-CIEUC",
    "caPIEUP-CHIEUCHcaSIOS-MIEUMcaSIOS-KAPYEOUNPIEUPcaSSANGSIOS-KIYEOKcaSSANGSIOS-TIKEUT",
    "caSIOS-PANSIOScaSIOS-CIEUCcaSIOS-CHIEUCHcaSIOS-THIEUTHcaSIOS-HIEUHcaPANSIOS-PIEUP",
    "caPANSIOS-KAPYEOUNPIEUPcaYESIEUNG-MIEUMcaYESIEUNG-HIEUHcaCIEUC-PIEUPcaCIEUC-SSANGPIEUP",
    "caSSANGCIEUCcaPHIEUPH-SIOScaPHIEUPH-THIEUTHaaLATIN SMALL LIGATURE FFdaFIdaFLdaFFIdaFFL",
    "daLONG S TdaSTaaARMENIAN SMALL LIGATURE MEN NOWeaECHeaINIdaVEW NOWdaMEN XEH",
    "aaHEBREW LETTER YOD WITH HIRIQbaPOINT JUDEO-SPANISH VARIKAbaLIGATURE YIDDISH YOD YOD PATAH",
    "baLETTER ALTERNATIVE AYINcaWIDE ALEFdaDALETdaHEdaKAFdaLAMEDdaFINAL MEMdaRESHdaTAV",
    "caALTERNATIVE PLUS SIGNcaSHIN WITH SHIN DOTebSINebDAGESH AND SHINgbSINcaALEF WITH PATAH",
    "eaQAMATSeaMAPIQcaBET WITH DAGESHccGIMELccDALETcaHE WITH MAPIQcaVAV WITH DAGESHccZAYINccTET",
    "ccYODccFINAL KAFcdccLAMEDccMEMccNUNccSAMEKHccFINAL PEcdccTSADIccQOFccRESHccSHINccTAV",
    "caVAV WITH HOLAMcaBET WITH RAFEccKAFccPEbaLIGATURE ALEF LAMED",
    "aaARABIC LETTER ALEF WASLA ISOLATED FORMebFINALcbBEEH ISOLATEDdbFINALdbINITIALdbMEDIAL",
    "cbPEH ISOLATEDdbFINALdbINITIALdbMEDIALcbBEHEH ISOLATEDdbFINALdbINITIALdbMEDIAL",
    "cbTTEHEH ISOLATEDdbFINALdbINITIALdbMEDIALcbTEHEH ISOLATEDdbFINALdbINITIALdbMEDIAL",
    "cbTTEH ISOLATEDdbFINALdbINITIALdbMEDIALcbVEH ISOLATEDdbFINALdbINITIALdbMEDIALcbPEHEH ISOLATED",
    "dbFINALdbINITIALdbMEDIALcbDYEH ISOLATEDdbFINALdbINITIALdbMEDIALcbNYEH ISOLATEDdbFINAL",
    "dbINITIALdbMEDIALcbTCHEH ISOLATEDdbFINALdbINITIALdbMEDIALcbTCHEHEH ISOLATEDdbFINALdbINITIAL",
    "dbMEDIALcbDDAHAL ISOLATEDdbFINALcbDAHAL ISOLATEDdbFINALcbDUL ISOLATEDdbFINALcbDDAL ISOLATED",
    "dbFINALcbJEH ISOLATEDdbFINALcbRREH ISOLATEDdbFINALcbKEHEH ISOLATEDdbFINALdbINITIALdbMEDIAL",
    "cbGAF ISOLATEDdbFINALdbINITIALdbMEDIALcbGUEH ISOLATEDdbFINALdbINITIALdbMEDIALcbNGOEH ISOLATED",
    "dbFINALdbINITIALdbMEDIALcbNOON GHUNNA ISOLATEDebFINALcbRNOON ISOLATEDdbFINALdbINITIALdbMEDIAL",
    "cbHEH WITH YEH ABOVE ISOLATEDgbFINALdbGOAL ISOLATEDebFINALebINITIALebMEDIAL",
    "dbDOACHASHMEE ISOLATEDebFINALebINITIALebMEDIALcbYEH BARREE ISOLATEDebFINAL",
    "ebWITH HAMZA ABOVE ISOLATEDhbFINALbaSYMBOL DOT ABOVEdaBELOWcaTWO DOTS ABOVEeaBELOW",
    "caTHREE DOTS ABOVEeaBELOWeaPOINTING DOWNWARDS ABOVEgaBELOWcaFOUR DOTS ABOVEeaBELOW",
    "cbDOUBLE VERTICAL BARcaTWO DOTS VERTICALLY ABOVEfaBELOWcaRINGcaSMALL TAH ABOVEeaBELOW",
    "caWASLA ABOVEbaLETTER NG ISOLATED FORMdbFINALdbINITIALdbMEDIALcbU ISOLATEDdbFINAL",
    "cbOE ISOLATEDdbFINALcbYU ISOLATEDdbFINALcbU WITH HAMZA ABOVE ISOLATEDccVEdbFINAL",
    "cbKIRGHIZ OE ISOLATEDebFINALdbYU ISOLATEDebFINALcbE ISOLATEDdbFINALdbINITIALdbMEDIAL",
    "cbUIGHUR KAZAKH KIRGHIZ ALEF MAKSURA INITIALhbMEDIAL",
    "bbLIGATURE YEH WITH HAMZA ABOVE WITH ALEF ISOLATEDibFINALhbAE ISOLATEDibFINALhbWAW ISOLATED",
    "ibFINALhbU ISOLATEDibFINALhbOE ISOLATEDibFINALhbYU ISOLATEDibFINALhbE ISOLATEDibFINAL",
    "ibINITIALcbUIGHUR KIRGHIZ YEH WITH HAMZA ABOVE WITH ALEF MAKSURA ISOLATEDlbFINALlbINITIAL",
    "bbLETTER FARSI YEH ISOLATEDebFINALebINITIALebMEDIAL",
    "bbLIGATURE YEH WITH HAMZA ABOVE WITH JEEM ISOLATEDhcHAHhcMEEMhcALEF MAKSURAhcYEH",
    "ccBEH WITH JEEMecHAHecKHAHecMEEMecALEF MAKSURAecYEHccTEH WITH JEEMecHAHecKHAHecMEEM",
    "ecALEF MAKSURAecYEHccTHEH WITH JEEMecMEEMecALEF MAKSURAecYEHccJEEM WITH HAHecMEEM",
    "ccHAH WITH JEEMecMEEMccKHAH WITH JEEMecHAHecMEEMccSEEN WITH JEEMecHAHecKHAHecMEEM",
    "ccSAD WITH HAHecMEEMccDAD WITH JEEMecHAHecKHAHecMEEMccTAH WITH HAHecMEEMceZAHccAIN WITH JEEM",
    "ecMEEMccGHAIN WITH JEEMecMEEMccFEH WITH JEEMecHAHecKHAHecMEEMecALEF MAKSURAecYEH",
    "ccQAF WITH HAHecMEEMecALEF MAKSURAecYEHccKAF WITH ALEFecJEEMecHAHecKHAHecLAMecMEEM",
    "ecALEF MAKSURAecYEHccLAM WITH JEEMecHAHecKHAHecMEEMecALEF MAKSURAecYEHccMEEM WITH JEEMecHAH",
    "ecKHAHecMEEMecALEF MAKSURAecYEHccNOON WITH JEEMecHAHecKHAHecMEEMecALEF MAKSURAecYEH",
    "ccHEH WITH JEEMecMEEMecALEF MAKSURAecYEHccYEH WITH JEEMecHAHecKHAHecMEEMecALEF MAKSURAecYEH",
    "ccTHAL WITH SUPERSCRIPT ALEFcfREHcfALEF MAKSURAccSHADDA WITH DAMMATANecKASRATANecFATHAecDAMMA",
    "ecKASRAecSUPERSCRIPT ALEFcbYEH WITH HAMZA ABOVE WITH REH FINALhcZAINhcMEEMhcNOON",
    "hcALEF MAKSURAhcYEHccBEH WITH REHecZAINecMEEMecNOONecALEF MAKSURAecYEHccTEH WITH REHecZAIN",
    "ecMEEMecNOONecALEF MAKSURAecYEHccTHEH WITH REHecZAINecMEEMecNOONecALEF MAKSURAecYEH",
    "ccFEH WITH ALEF MAKSURAecYEHccQAF WITH ALEF MAKSURAecYEHccKAF WITH ALEFecLAMecMEEM",
    "ecALEF MAKSURAecYEHccLAM WITH MEEMecALEF MAKSURAecYEHccMEEM WITH ALEFecMEEMccNOON WITH REH",
    "ecZAINecMEEMecNOONecALEF MAKSURAecYEHccALEF MAKSURA WITH SUPERSCRIPT ALEFccYEH WITH REHecZAIN",
    "ecMEEMecNOONecALEF MAKSURAecYEHebHAMZA ABOVE WITH JEEM INITIALhcHAHhcKHAHhcMEEMhcHEH",
    "ccBEH WITH JEEMecHAHecKHAHecMEEMecHEHccTEH WITH JEEMecHAHecKHAHecMEEMecHEHccTHEH WITH MEEM",
    "ccJEEM WITH HAHecMEEMccHAH WITH JEEMecMEEMccKHAH WITH JEEMecMEEMccSEEN WITH JEEMecHAHecKHAH",
    "ecMEEMccSAD WITH HAHecKHAHecMEEMccDAD WITH JEEMecHAHecKHAHecMEEMccTAH WITH HAHccZAH WITH MEEM",
    "ccAIN WITH JEEMecMEEMccGHAIN WITH JEEMecMEEMccFEH WITH JEEMecHAHecKHAHecMEEMccQAF WITH HAH",
    "ecMEEMccKAF WITH JEEMecHAHecKHAHecLAMecMEEMccLAM WITH JEEMecHAHecKHAHecMEEMecHEH",
    "ccMEEM WITH JEEMecHAHecKHAHecMEEMccNOON WITH JEEMecHAHecKHAHecMEEMecHEHccHEH WITH JEEMecMEEM",
    "ecSUPERSCRIPT ALEFccYEH WITH JEEMecHAHecKHAHecMEEMecHEHebHAMZA ABOVE WITH MEEM MEDIALhcHEH",
    "ccBEH WITH MEEMecHEHccTEH WITH MEEMecHEHccTHEH WITH MEEMecHEHccSEEN WITH MEEMecHEH",
    "ccSHEEN WITH MEEMecHEHccKAF WITH LAMecMEEMceLAMceNOONecHEHccYEH WITH MEEMecHEH",
    "ccSHADDA WITH FATHAecDAMMAecKASRAcbTAH WITH ALEF MAKSURA ISOLATEDecYEHccAIN WITH ALEF MAKSURA",
    "ecYEHccGHAIN WITH ALEF MAKSURAecYEHccSEEN WITH ALEF MAKSURAecYEHccSHEEN WITH ALEF MAKSURA",
    "ecYEHccHAH WITH ALEF MAKSURAecYEHccJEEM WITH ALEF MAKSURAecYEHccKHAH WITH ALEF MAKSURAecYEH",
    "ccSAD WITH ALEF MAKSURAecYEHccDAD WITH ALEF MAKSURAecYEHccSHEEN WITH JEEMecHAHecKHAHecMEEM",
    "ecREHceSEENceSADceDADcbTAH WITH ALEF MAKSURA FINALecYEHccAIN WITH ALEF MAKSURAecYEH",
    "ccGHAIN WITH ALEF MAKSURAecYEHccSEEN WITH ALEF MAKSURAecYEHccSHEEN WITH ALEF MAKSURAecYEH",
    "ccHAH WITH ALEF MAKSURAecYEHccJEEM WITH ALEF MAKSURAecYEHccKHAH WITH ALEF MAKSURAecYEH",
    "ccSAD WITH ALEF MAKSURAecYEHccDAD WITH ALEF MAKSURAecYEHccSHEEN WITH JEEMecHAHecKHAHecMEEM",
    "ecREHceSEENceSADceDADcbSHEEN WITH JEEM INITIALecHAHecKHAHecMEEMccSEEN WITH HEHceSHEEN",
    "ccTAH WITH MEEMcbSEEN WITH JEEM MEDIALecHAHecKHAHccSHEEN WITH JEEMecHAHecKHAHccTAH WITH MEEM",
    "ceZAHcbALEF WITH FATHATAN FINALfbISOLATEDaaORNATE LEFT PARENTHESISbbRIGHT",
    "aaARABIC LIGATURE RAHIMAHU ALLAAHcaRADI ALLAAHU ANHeaANHAAeaANHUMeaANHUMAAeaANHUNNA",
    "caSALLALLAAHU ALAYHI WA-AALIHcaALAYHI AS-SALAAMcbALAYHIMcbALAYHIMAA",
    "caALAYHI AS-SALAATU WAS-SALAAMcaQUDDISA SIRRAHcaSALLALLAHU ALAYHI WAAALIHEE WA-SALLAM",
    "caALAYHAA AS-SALAAMcaTABAARAKA WA-TAAALAAcaRAHIMAHUM ALLAAH",
    "caTEH WITH JEEM WITH MEEM INITIAL FORMebHAH WITH JEEM FINALhbINITIALgcMEEMeeKHAH",
    "ecMEEM WITH JEEMgcHAHgcKHAHcbJEEM WITH MEEM WITH HAH FINALhbINITIAL",
    "cbHAH WITH MEEM WITH YEH FINALgcALEF MAKSURAcbSEEN WITH HAH WITH JEEM INITIALecJEEM WITH HAH",
    "gbALEF MAKSURA FINALecMEEM WITH HAHhbINITIALgcJEEMgbMEEM FINALhbINITIAL",
    "cbSAD WITH HAH WITH HAH FINALhbINITIALebMEEM WITH MEEM FINALceSHEEN WITH HAHhbINITIAL",
    "ebJEEM WITH YEH FINALecMEEM WITH KHAHhbINITIALgbMEEM FINALhbINITIAL",
    "cbDAD WITH HAH WITH ALEF MAKSURA FINALecKHAH WITH MEEMhbINITIALcbTAH WITH MEEM WITH HAH FINAL",
    "hbINITIALgcMEEMgbYEH FINALccAIN WITH JEEM WITH MEEMeeMEEMhbINITIALgbALEF MAKSURA FINAL",
    "ccGHAIN WITH MEEM WITH MEEMgcYEHgcALEF MAKSURAccFEH WITH KHAH WITH MEEMhbINITIAL",
    "cbQAF WITH MEEM WITH HAH FINALgcMEEMceLAM WITH HAHgcYEHgcALEF MAKSURAebJEEM WITH JEEM INITIAL",
    "hbFINALecKHAH WITH MEEMhbINITIALebMEEM WITH HAH FINALhbINITIALccMEEM WITH HAH WITH JEEMgcMEEM",
    "gbYEH FINALebJEEM WITH HAH INITIALgcMEEMecKHAH WITH JEEMgcMEEMecJEEM WITH KHAH",
    "ccHEH WITH MEEM WITH JEEMgcMEEMceNOON WITH HAHgbALEF MAKSURA FINALecJEEM WITH MEEMhbINITIAL",
    "gbALEF MAKSURA FINALecMEEM WITH YEHgcALEF MAKSURAccYEH WITH MEEM WITH MEEMhbINITIAL",
    "cbBEH WITH KHAH WITH YEH FINALceTEH WITH JEEMgcALEF MAKSURAecKHAH WITH YEHgcALEF MAKSURA",
    "ecMEEM WITH YEHgcALEF MAKSURAccJEEM WITH MEEM WITH YEHecHAH WITH ALEF MAKSURAefMEEM",
    "cfSEEN WITH KHAHccSAD WITH HAH WITH YEHcgSHEENcgDADceLAM WITH JEEMeeMEEMceYEH WITH HAHeeJEEM",
    "eeMEEMcgMEEMcgQAFceNOON WITH HAHcbQAF WITH MEEM WITH HAH INITIALccLAM WITH HAH WITH MEEM",
    "cbAIN WITH MEEM WITH YEH FINALcgKAFcbNOON WITH JEEM WITH HAH INITIAL",
    "cbMEEM WITH KHAH WITH YEH FINALcbLAM WITH JEEM WITH MEEM INITIAL",
    "cbKAF WITH MEEM WITH MEEM FINALceLAM WITH JEEMccNOON WITH JEEM WITH HAH",
    "ccJEEM WITH HAH WITH YEHceHAH WITH JEEMcgMEEMceFEH WITH MEEMceBEH WITH HAH",
    "cbKAF WITH MEEM WITH MEEM INITIALceAIN WITH JEEMceSAD WITH MEEM",
    "cbSEEN WITH KHAH WITH YEH FINALceNOON WITH JEEMcaSALAAMUHU ALAYNAA",
    "caSALLA USED AS KORANIC STOP SIGN ISOLATED FORMchQALAccALLAHccAKBARccMOHAMMADccSALAMccRASOUL",
    "ccALAYHEccWASALLAMccSALLAcaSALLALLAHOU ALAYHE WASALLAMcaJALLAJALALOUHOUaaRIAL SIGN",
    "aaARABIC LIGATURE BISMILLAH AR-RAHMAN AR-RAHEEMcaSUBHAANAHU WA TAAALAAcaAZZA WA JALL",
    "aaVARIATION SELECTOR-1baSELECTOR-2baSELECTOR-3baSELECTOR-4baSELECTOR-5baSELECTOR-6",
    "baSELECTOR-7baSELECTOR-8baSELECTOR-9baSELECTOR-10baSELECTOR-11baSELECTOR-12baSELECTOR-13",
    "baSELECTOR-14baSELECTOR-15baSELECTOR-16aaPRESENTATION FORM FOR VERTICAL COMMAebIDEOGRAPHIC",
    "faFULL STOPeaCOLONeaSEMICOLONeaEXCLAMATION MARKebQUESTIONeaLEFT WHITE LENTICULAR BRACKET",
    "eaRIGHT WHITE LENTICULAR BRAKCETeaHORIZONTAL ELLIPSISaaCOMBINING LIGATURE LEFT HALFcbRIGHT",
    "bbDOUBLE TILDE LEFTdbRIGHTbbMACRON LEFTcbRIGHTbaCONJOINING MACRONbaLIGATURE LEFT HALF BELOW",
    "ccRIGHTbcTILDE LEFTccRIGHTbcMACRON LEFTccRIGHTbbCONJOINING MACRONbaCYRILLIC TITLO LEFT HALF",
    "dbRIGHTaaPRESENTATION FORM FOR VERTICAL TWO DOT LEADEReaEM DASHebENeaLOW LINEecWAVY",
    "eaLEFT PARENTHESISebRIGHTeaLEFT CURLY BRACKETecRIGHTebLEFT TORTOISE SHELLedRIGHT",
    "ebLEFT BLACK LENTICULARedRIGHTebLEFT DOUBLE ANGLEedRIGHTecLEFTecRIGHTebLEFT CORNERecRIGHT",
    "ecLEFT WHITEedRIGHTaaSESAME DOTacWHITEaaPRESENTATION FORM FOR VERTICAL LEFT SQUARE BRACKET",
    "ecRIGHTaaDASHED OVERLINEabCENTRELINEabWAVYacDOUBLEaaDASHED LOW LINEacCENTRELINEacWAVY",
    "aaSMALL COMMAbbIDEOGRAPHICbaFULL STOPbaSEMICOLONbaCOLONbaQUESTION MARKbbEXCLAMATIONbaEM DASH",
    "baLEFT PARENTHESISbbRIGHTbaLEFT CURLY BRACKETbcRIGHTbbLEFT TORTOISE SHELLbdRIGHTbaNUMBER SIGN",
    "baAMPERSANDbaASTERISKbaPLUS SIGNbaHYPHEN-MINUSbaLESS-THAN SIGNbbGREATER-THANbbEQUALS",
    "baREVERSE SOLIDUSbaDOLLAR SIGNbbPERCENTbaCOMMERCIAL ATaaARABIC FATHATAN ISOLATED FORM",
    "baTATWEEL WITH FATHATAN ABOVEbaDAMMATAN ISOLATED FORMbaTAIL FRAGMENTbaKASRATAN ISOLATED FORM",
    "bcFATHAcbMEDIALbbDAMMA ISOLATEDcbMEDIALbbKASRA ISOLATEDcbMEDIALbbSHADDA ISOLATEDcbMEDIAL",
    "bbSUKUN ISOLATEDcbMEDIALbbLETTER HAMZA ISOLATEDccALEF WITH MADDA ABOVEgbFINAL",
    "ebHAMZA ABOVE ISOLATEDgbFINALcbWAW WITH HAMZA ABOVE ISOLATEDgbFINAL",
    "cbALEF WITH HAMZA BELOW ISOLATEDgbFINALcbYEH WITH HAMZA ABOVE ISOLATEDgbFINALgbINITIAL",
    "gbMEDIALcbALEF ISOLATEDdbFINALcbBEH ISOLATEDdbFINALdbINITIALdbMEDIALcbTEH MARBUTA ISOLATED",
    "ebFINALdbISOLATEDdbFINALdbINITIALdbMEDIALcbTHEH ISOLATEDdbFINALdbINITIALdbMEDIAL",
    "cbJEEM ISOLATEDdbFINALdbINITIALdbMEDIALcbHAH ISOLATEDdbFINALdbINITIALdbMEDIALcbKHAH ISOLATED",
    "dbFINALdbINITIALdbMEDIALcbDAL ISOLATEDdbFINALcbTHAL ISOLATEDdbFINALcbREH ISOLATEDdbFINAL",
    "cbZAIN ISOLATEDdbFINALcbSEEN ISOLATEDdbFINALdbINITIALdbMEDIALcbSHEEN ISOLATEDdbFINALdbINITIAL",
    "dbMEDIALcbSAD ISOLATEDdbFINALdbINITIALdbMEDIALcbDAD ISOLATEDdbFINALdbINITIALdbMEDIAL",
    "cbTAH ISOLATEDdbFINALdbINITIALdbMEDIALcbZAH ISOLATEDdbFINALdbINITIALdbMEDIALcbAIN ISOLATED",
    "dbFINALdbINITIALdbMEDIALcbGHAIN ISOLATEDdbFINALdbINITIALdbMEDIALcbFEH ISOLATEDdbFINAL",
    "dbINITIALdbMEDIALcbQAF ISOLATEDdbFINALdbINITIALdbMEDIALcbKAF ISOLATEDdbFINALdbINITIALdbMEDIAL",
    "cbLAM ISOLATEDdbFINALdbINITIALdbMEDIALcbMEEM ISOLATEDdbFINALdbINITIALdbMEDIALcbNOON ISOLATED",
    "dbFINALdbINITIALdbMEDIALcbHEH ISOLATEDdbFINALdbINITIALdbMEDIALcbWAW ISOLATEDdbFINAL",
    "cbALEF MAKSURA ISOLATEDebFINALcbYEH ISOLATEDdbFINALdbINITIALdbMEDIAL",
    "bbLIGATURE LAM WITH ALEF WITH MADDA ABOVE ISOLATEDibFINALgbHAMZA ABOVE ISOLATEDibFINAL",
    "hbBELOW ISOLATEDibFINALfbISOLATEDfbFINALaaZERO WIDTH NO-BREAK SPACE",
    "aaFULLWIDTH EXCLAMATION MARKbbQUOTATIONbaNUMBER SIGNbbDOLLARbbPERCENTbaAMPERSANDbaAPOSTROPHE",
    "baLEFT PARENTHESISbbRIGHTbaASTERISKbaPLUS SIGNbaCOMMAbaHYPHEN-MINUSbaFULL STOPbaSOLIDUS",
    "baDIGIT ZEROcaONEcaTWOcaTHREEcaFOURcaFIVEcaSIXcaSEVENcaEIGHTcaNINEbaCOLONbaSEMICOLON",
    "baLESS-THAN SIGNbbEQUALSbbGREATER-THANbaQUESTION MARKbaCOMMERCIAL ATbaLATIN CAPITAL LETTER A",
    "eaBeaCeaDeaEeaFeaGeaHeaIeaJeaKeaLeaMeaNeaOeaPeaQeaReaSeaTeaUeaVeaWeaXeaYeaZ",
    "baLEFT SQUARE BRACKETbaREVERSE SOLIDUSbaRIGHT SQUARE BRACKETbaCIRCUMFLEX ACCENTbaLOW LINE",
    "baGRAVE ACCENTbaLATIN SMALL LETTER AeaBeaCeaDeaEeaFeaGeaHeaIeaJeaKeaLeaMeaNeaOeaPeaQeaReaSeaT",
    "eaUeaVeaWeaXeaYeaZbaLEFT CURLY BRACKETbaVERTICAL LINEbaRIGHT CURLY BRACKETbaTILDE",
    "baLEFT WHITE PARENTHESISbcRIGHTaaHALFWIDTH IDEOGRAPHIC FULL STOPbaLEFT CORNER BRACKETbcRIGHT",
    "baIDEOGRAPHIC COMMAbaKATAKANA MIDDLE DOTcaLETTER WOdaSMALL AeaIeaUeaEeaOeaYAeaYUeaYOeaTU",
    "baKATAKANA-HIRAGANA PROLONGED SOUND MARKbaKATAKANA LETTER AdaIdaUdaEdaOdaKAdaKIdaKUdaKEdaKO",
    "daSAdaSIdaSUdaSEdaSOdaTAdaTIdaTUdaTEdaTOdaNAdaNIdaNUdaNEdaNOdaHAdaHIdaHUdaHEdaHOdaMAdaMIdaMU",
    "daMEdaMOdaYAdaYUdaYOdaRAdaRIdaRUdaREdaROdaWAdaNcaVOICED SOUND MARKccSEMI-VOICED",
    "baHANGUL FILLERcaLETTER KIYEOKdaSSANGKIYEOKdaKIYEOK-SIOSdaNIEUNdaNIEUN-CIEUCdaNIEUN-HIEUH",
    "daTIKEUTdaSSANGTIKEUTdaRIEULdaRIEUL-KIYEOKdaRIEUL-MIEUMdaRIEUL-PIEUPdaRIEUL-SIOS",
    "daRIEUL-THIEUTHdaRIEUL-PHIEUPHdaRIEUL-HIEUHdaMIEUMdaPIEUPdaSSANGPIEUPdaPIEUP-SIOSdaSIOS",
    "daSSANGSIOSdaIEUNGdaCIEUCdaSSANGCIEUCdaCHIEUCHdaKHIEUKHdaTHIEUTHdaPHIEUPHdaHIEUHdaAdaAEdaYA",
    "daYAEdaEOdaEdaYEOdaYEdaOdaWAdaWAEdaOEdaYOdaUdaWEOdaWEdaWIdaYUdaEUdaYIdaIaaFULLWIDTH CENT SIGN",
    "bbPOUNDbbNOTbaMACRONbaBROKEN BARbaYEN SIGNbbWONaaHALFWIDTH FORMS LIGHT VERTICAL",
    "baLEFTWARDS ARROWbbUPWARDSbbRIGHTWARDSbbDOWNWARDSbaBLACK SQUAREbaWHITE CIRCLE",
    "aaINTERLINEAR ANNOTATION ANCHORcaSEPARATORcaTERMINATORaaOBJECT REPLACEMENT CHARACTERac"]

end ClusterBilling.Text.NameTable
