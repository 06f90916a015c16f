import ClusterBilling.Text.Name.Table

/-! Names of characters from U+10000 up to U+16FFF: scripts of the past, and some in use. -/
namespace ClusterBilling.Text.NameTable

def ancient : NameTable where
  rows := [
    (0x10000, 12), (0x1000d, 26), (0x10028, 19), (0x1003c, 2), (0x1003f, 15), (0x10050, 14),
    (0x10080, 123), (0x10100, 3), (0x10107, 45), (0x10137, 88), (0x10190, 13), (0x101a0, 1),
    (0x101d0, 46), (0x10280, 29), (0x102a0, 49), (0x102e0, 28), (0x10300, 36), (0x1032d, 30),
    (0x10350, 43), (0x10380, 30), (0x1039f, 37), (0x103c8, 14), (0x10400, 158), (0x104a0, 10),
    (0x104b0, 36), (0x104d8, 36), (0x10500, 40), (0x10530, 52), (0x1056f, 12), (0x1057c, 15),
    (0x1058c, 7), (0x10594, 2), (0x10597, 11), (0x105a3, 15), (0x105b3, 7), (0x105bb, 2),
    (0x10600, 311), (0x10740, 22), (0x10760, 8), (0x10780, 6), (0x10787, 42), (0x107b2, 9),
    (0x10800, 6), (0x10808, 1), (0x1080a, 44), (0x10837, 2), (0x1083c, 1), (0x1083f, 23),
    (0x10857, 72), (0x108a7, 9), (0x108e0, 19), (0x108f4, 2), (0x108fb, 33), (0x1091f, 27),
    (0x1093f, 1), (0x10980, 56), (0x109bc, 20), (0x109d2, 50), (0x10a05, 2), (0x10a0c, 8),
    (0x10a15, 3), (0x10a19, 29), (0x10a38, 3), (0x10a3f, 10), (0x10a50, 9), (0x10a60, 64),
    (0x10ac0, 39), (0x10aeb, 12), (0x10b00, 54), (0x10b39, 29), (0x10b58, 27), (0x10b78, 26),
    (0x10b99, 4), (0x10ba9, 7), (0x10c00, 73), (0x10c80, 51), (0x10cc0, 51), (0x10cfa, 46),
    (0x10d30, 10), (0x10e60, 31), (0x10e80, 42), (0x10eab, 3), (0x10eb0, 2), (0x10f00, 40),
    (0x10f30, 42), (0x10f70, 26), (0x10fb0, 28), (0x10fe0, 23), (0x11000, 78), (0x11052, 36),
    (0x1107f, 68), (0x110cd, 1), (0x110d0, 25), (0x110f0, 10), (0x11100, 53), (0x11136, 18),
    (0x11150, 39), (0x11180, 96), (0x111e1, 20), (0x11200, 18), (0x11213, 44), (0x11280, 7),
    (0x11288, 1), (0x1128a, 4), (0x1128f, 15), (0x1129f, 11), (0x112b0, 59), (0x112f0, 10),
    (0x11300, 4), (0x11305, 8), (0x1130f, 2), (0x11313, 22), (0x1132a, 7), (0x11332, 2),
    (0x11335, 5), (0x1133b, 10), (0x11347, 2), (0x1134b, 3), (0x11350, 1), (0x11357, 1),
    (0x1135d, 7), (0x11366, 7), (0x11370, 5), (0x11400, 92), (0x1145d, 5), (0x11480, 72),
    (0x114d0, 10), (0x11580, 54), (0x115b8, 38), (0x11600, 69), (0x11650, 10), (0x11660, 13),
    (0x11680, 58), (0x116c0, 10), (0x11700, 27), (0x1171d, 15), (0x11730, 23), (0x11800, 60),
    (0x118a0, 83), (0x118ff, 8), (0x11909, 1), (0x1190c, 8), (0x11915, 2), (0x11918, 30),
    (0x11937, 2), (0x1193b, 12), (0x11950, 10), (0x119a0, 8), (0x119aa, 46), (0x119da, 11),
    (0x11a00, 72), (0x11a50, 83), (0x11ab0, 73), (0x11c00, 9), (0x11c0a, 45), (0x11c38, 14),
    (0x11c50, 29), (0x11c70, 32), (0x11c92, 22), (0x11ca9, 14), (0x11d00, 7), (0x11d08, 2),
    (0x11d0b, 44), (0x11d3a, 1), (0x11d3c, 2), (0x11d3f, 9), (0x11d50, 10), (0x11d60, 6),
    (0x11d67, 2), (0x11d6a, 37), (0x11d90, 2), (0x11d93, 6), (0x11da0, 10), (0x11ee0, 25),
    (0x11fb0, 1), (0x11fc0, 50), (0x11fff, 923), (0x12400, 111), (0x12470, 5), (0x12480, 196),
    (0x12f90, 99), (0x13000, 1071), (0x13430, 9), (0x14400, 583), (0x16800, 569), (0x16a40, 31),
    (0x16a60, 10), (0x16a6e, 81), (0x16ac0, 10), (0x16ad0, 30), (0x16af0, 6), (0x16b00, 70),
    (0x16b50, 10), (0x16b5b, 7), (0x16b63, 21), (0x16b7d, 19), (0x16e40, 91), (0x16f00, 75),
    (0x16f4f, 57), (0x16f8f, 17), (0x16fe0, 5), (0x16ff0, 2)]
  entries := [
    "aaLINEAR B SYLLABLE B008 AdaB038 EdaB028 IdaB061 OdaB010 UdaB001 DAdaB045 DEdaB007 DI",
    "daB014 DOdaB051 DUdaB057 JAdaB046 JEdaB036 JOdaB065 JUdaB077 KAdaB044 KEdaB067 KIdaB070 KO",
    "daB081 KUdaB080 MAdaB013 MEdaB073 MIdaB015 MOdaB023 MUdaB006 NAdaB024 NEdaB030 NIdaB052 NO",
    "daB055 NUdaB003 PAdaB072 PEdaB039 PIdaB011 POdaB050 PUdaB016 QAdaB078 QEdaB021 QIdaB032 QO",
    "daB060 RAdaB027 REdaB053 RIdaB002 ROdaB026 RUdaB031 SAdaB009 SEdaB041 SIdaB012 SOdaB058 SU",
    "daB059 TAdaB004 TEdaB037 TIdaB005 TOdaB069 TUdaB054 WAdaB075 WEdaB040 WIdaB042 WOdaB017 ZA",
    "daB074 ZEdaB020 ZOdaB025 A2daB043 A3daB085 AUdaB071 DWEdaB090 DWOdaB048 NWAdaB029 PU2",
    "daB062 PTEdaB076 RA2daB033 RA3daB068 RO2daB066 TA2daB087 TWEdaB091 TWOcaSYMBOL B018daB019",
    "daB022daB034daB047daB049daB056daB063daB064daB079daB082daB083daB086daB089caIDEOGRAM B100 MAN",
    "daB102 WOMANdaB104 DEERdaB105 EQUIDdaB105F MAREdaB105M STALLIONdaB106F EWEdaB106M RAM",
    "daB107F SHE-GOATdaB107M HE-GOATdaB108F SOWdaB108M BOARdaB109F COWdaB109M BULLdaB120 WHEAT",
    "daB121 BARLEYdaB122 OLIVEdaB123 SPICEdaB125 CYPERUScaMONOGRAM B127 KAPOdaB128 KANAKO",
    "caIDEOGRAM B130 OILdaB131 WINEdaB132caMONOGRAM B133 AREPAdaB135 MERIcaIDEOGRAM B140 BRONZE",
    "daB141 GOLDdaB142daB145 WOOLdaB146daB150daB151 HORNdaB152daB153daB154caMONOGRAM B156 TURO2",
    "caIDEOGRAM B157daB158daB159 CLOTHdaB160daB161daB162 GARMENTdaB163 ARMOURdaB164daB165daB166",
    "daB167daB168daB169daB170daB171daB172daB173 MONTHdaB174daB176 TREEdaB177daB178daB179daB180",
    "daB181daB182daB183daB184daB185daB189daB190daB191 HELMETdaB220 FOOTSTOOLdaB225 BATHTUB",
    "daB230 SPEARdaB231 ARROWdaB232daB233 SWORDdaB234daB236daB240 WHEELED CHARIOTdbB241",
    "daB242 CHARIOT FRAMEdaB243 WHEELdaB245daB246caMONOGRAM B247 DIPTEcaIDEOGRAM B248daB249daB251",
    "daB252daB253daB254 DARTdaB255daB256daB257daB258daB259daVESSEL B155eaB200eaB201eaB202eaB203",
    "eaB204eaB205eaB206eaB207eaB208eaB209eaB210eaB211eaB212eaB213eaB214eaB215eaB216eaB217eaB218",
    "eaB219eaB221eaB222eaB226eaB227eaB228eaB229eaB250eaB305aaAEGEAN WORD SEPARATOR LINEdaDOT",
    "baCHECK MARKbaNUMBER ONEcaTWOcaTHREEcaFOURcaFIVEcaSIXcaSEVENcaEIGHTcaNINEcaTENcaTWENTY",
    "caTHIRTYcaFORTYcaFIFTYcaSIXTYcaSEVENTYcaEIGHTYcaNINETYcaONE HUNDREDcbTWOcbTHREEcbFOURcbFIVE",
    "cbSIXcbSEVENcbEIGHTcbNINEcaONE THOUSANDcbTWOcbTHREEcbFOURcbFIVEcbSIXcbSEVENcbEIGHTcbNINEcbTEN",
    "cbTWENTYcbTHIRTYcbFORTYcbFIFTYcbSIXTYcbSEVENTYcbEIGHTYcbNINETYbaWEIGHT BASE UNIT",
    "caFIRST SUBUNITcbSECONDcbTHIRDcbFOURTHbbDRY MEASURE FIRSTbdLIQUIDbbMEASURE SECONDcbTHIRD",
    "aaGREEK ACROPHONIC ATTIC ONE QUARTEReaHALFeaDRACHMAdaFIVEdaFIFTYdaFIVE HUNDREDeaTHOUSAND",
    "dbFIFTYdaFIVE TALENTSdbTENdbFIFTYdbONE HUNDREDdcFIVEdbONE THOUSANDdcFIVEeaSTATERSdbTENdbFIFTY",
    "dbONE HUNDREDdcFIVEdbONE THOUSANDdcTENdcFIFTYdaTEN MNAScaHERAEUM ONE PLETHRONcaTHESPIAN ONE",
    "cbHERMIONIANcaEPIDAUREAN TWOcbTHESPIANcaCYRENAIC TWO DRACHMASccEPIDAUREANcaTROEZENIAN FIVE",
    "daTENeaALTERNATE FORMcaHERMIONIAN TENcbMESSENIANcbTHESPIANdaTHIRTYcaTROEZENIAN FIFTY",
    "eaALTERNATE FORMcaHERMIONIAN FIFTYcbTHESPIANdaONE HUNDREDdbTHREEcbEPIDAUREAN FIVEccTROEZENIAN",
    "ccTHESPIANccCARYSTIANccNAXIANcaTHESPIAN ONE THOUSANDdbFIVEcaDELPHIC FIVE MNAScbSTRATIAN FIFTY",
    "baONE HALF SIGNeaALTERNATE FORMbaTWO THIRDS SIGNbbTHREE QUARTERSbbYEARbbTALENTbbDRACHMAbbOBOL",
    "bbTWO OBOLSbcTHREEbcFOURbcFIVEbbMETRETESbbKYATHOS BASEbbLITRAbbOUNKIAbbXESTESbbARTABEbbAROURA",
    "bbGRAMMAbbTRYBLION BASEbbZERObbONE QUARTERbbSINUSOIDbbINDICTIONabNOMISMAabROMAN SEXTANS",
    "bbUNCIAbbSEMUNCIAbbSEXTULAbcDIMIDIAbbSILIQUAbbDENARIUSbbQUINARIUSbbSESTERTIUSbbDUPONDIUSbbAS",
    "bbCENTURIALaaASCIA SYMBOLaaGREEK SYMBOL TAU RHOaaPHAISTOS DISC SIGN PEDESTRIANdaPLUMED HEAD",
    "dbTATTOOEDdaCAPTIVEdaCHILDdaWOMANdaHELMETdaGAUNTLETdaTIARAdaARROWdaBOWdaSHIELDdaCLUB",
    "daMANACLESdaMATTOCKdaSAWdaLIDdaBOOMERANGdaCARPENTRY PLANEdaDOLIUMdaCOMBdaSLINGdaCOLUMN",
    "daBEEHIVEdaSHIPdaHORNdaHIDEdaBULLS LEGdaCATdaRAMdaEAGLEdaDOVEdaTUNNYdaBEEdaPLANE TREEdaVINE",
    "daPAPYRUSdaROSETTEdaLILYdaOX BACKdaFLUTEdaGRATERdaSTRAINERdaSMALL AXEdaWAVY BAND",
    "daCOMBINING OBLIQUE STROKEaaLYCIAN LETTER AcaEcaBcaBHcaGcaDcaIcaWcaZcaTHcaJcaKcaQcaLcaMcaN",
    "caMMcaNNcaUcaPcaKKcaRcaScaTcaTTcaANcaENcaHcaXaaCARIAN LETTER AcaP2caDcaLcaUUUcaRcaLDcaA2caQ",
    "caBcaMcaOcaD2caTcaSHcaSH2caScaC-18caUcaNNcaXcaNcaTT2caPcaSScaIcaEcaUUUUcaKcaK2caNDcaUUcaGcaG2",
    "caSTcaST2caNGcaIIcaC-39caTTcaUUU2caRRcaMBcaMB2caMB3caMB4caLD2caE2caUUU3",
    "aaCOPTIC EPACT THOUSANDS MARKcaDIGIT ONEdaTWOdaTHREEdaFOURdaFIVEdaSIXdaSEVENdaEIGHTdaNINE",
    "caNUMBER TENdaTWENTYdaTHIRTYdaFORTYdaFIFTYdaSIXTYdaSEVENTYdaEIGHTYdaNINETYdaONE HUNDREDdbTWO",
    "dbTHREEdbFOURdbFIVEdbSIXdbSEVENdbEIGHTdbNINEaaOLD ITALIC LETTER AdaBEdaKEdaDEdaEdaVEdaZEdaHE",
    "daTHEdaIdaKAdaELdaEMdaENdaESHdaOdaPEdaSHEdaKUdaERdaESdaTEdaUdaEKSdaPHEdaKHEdaEFdaERSdaCHEdaII",
    "daUUdaESScaNUMERAL ONEdaFIVEdaTENdaFIFTYcaLETTER YEdaNORTHERN TSEdbSOUTHERN",
    "aaGOTHIC LETTER AHSAcaBAIRKANcaGIBAcaDAGScaAIHVUScaQAIRTHRAcaIUJAcaHAGLcaTHIUTHcaEIScaKUSMA",
    "caLAGUScaMANNAcaNAUTHScaJERcaURUScaPAIRTHRAcaNINETYcaRAIDAcaSAUILcaTEIWScaWINJAcaFAIHUcaIGGWS",
    "caHWAIRcaOTHALcaNINE HUNDREDaaOLD PERMIC LETTER ANdaBURdaGAIdaDOIdaEdaZHOIdaDZHOIdaZATA",
    "daDZITAdaIdaKOKEdaLEIdaMENOEdaNENOEdaVOOIdaPEEIdaREIdaSIIdaTAIdaUdaCHERYdaSHOOIdaSHCHOOIdaYRY",
    "daYERUdaOdaOOdaEFdaHAdaTSIUdaVERdaYERdaYERIdaYATdaIEdaYUdaYAdaIA",
    "aaCOMBINING OLD PERMIC LETTER ANeaDOIeaZATAeaNENOEeaSIIaaUGARITIC LETTER ALPAcaBETAcaGAMLA",
    "caKHAcaDELTAcaHOcaWOcaZETAcaHOTAcaTETcaYODcaKAFcaSHINcaLAMDAcaMEMcaDHALcaNUNcaZUcaSAMKAcaAIN",
    "caPUcaSADEcaQOPAcaRASHAcaTHANNAcaGHAINcaTOcaIcaUcaSSUbaWORD DIVIDERaaOLD PERSIAN SIGN AdaIdaU",
    "daKAdaKUdaGAdaGUdaXAdaCAdaJAdaJIdaTAdaTUdaDAdaDIdaDUdaTHAdaPAdaBAdaFAdaNAdaNUdaMAdaMIdaMUdaYA",
    "daVAdaVIdaRAdaRUdaLAdaSAdaZAdaSHAdaSSAdaHAdaAURAMAZDAAdaAURAMAZDAA-2daAURAMAZDAAHA",
    "daXSHAAYATHIYAdaDAHYAAUSHdaDAHYAAUSH-2daBAGAdaBUUMISHcaWORD DIVIDERcaNUMBER ONEdaTWOdaTEN",
    "daTWENTYdaHUNDREDaaDESERET CAPITAL LETTER LONG IeaEeaAeaAHeaOeaOOdaSHORT IeaEeaAeaAHeaOeaOO",
    "daAYdaOWdaWUdaYEEdaHdaPEEdaBEEdaTEEdaDEEdaCHEEdaJEEdaKAYdaGAYdaEFdaVEEdaETHdaTHEEdaESdaZEE",
    "daESHdaZHEEdaERdaELdaEMdaENdaENGdaOIdaEWbaSMALL LETTER LONG IeaEeaAeaAHeaOeaOOdaSHORT IeaEeaA",
    "eaAHeaOeaOOdaAYdaOWdaWUdaYEEdaHdaPEEdaBEEdaTEEdaDEEdaCHEEdaJEEdaKAYdaGAYdaEFdaVEEdaETHdaTHEE",
    "daESdaZEEdaESHdaZHEEdaERdaELdaEMdaENdaENGdaOIdaEWaaSHAVIAN LETTER PEEPcaTOTcaKICKcaFEEcaTHIGH",
    "caSOcaSUREcaCHURCHcaYEAcaHUNGcaBIBcaDEADcaGAGcaVOWcaTHEYcaZOOcaMEASUREcaJUDGEcaWOEcaHA-HA",
    "caLOLLcaMIMEcaIFcaEGGcaASHcaADOcaONcaWOOLcaOUTcaAHcaROARcaNUNcaEATcaAGEcaICEcaUPcaOAKcaOOZE",
    "caOILcaAWEcaAREcaORcaAIRcaERRcaARRAYcaEARcaIANcaYEWaaOSMANYA LETTER ALEFcaBAcaTAcaJAcaXAcaKHA",
    "caDEELcaRAcaSAcaSHIINcaDHAcaCAYNcaGAcaFAcaQAAFcaKAAFcaLAANcaMIINcaNUUNcaWAWcaHAcaYAcaAcaEcaI",
    "caOcaUcaAAcaEEcaOObaDIGIT ZEROcaONEcaTWOcaTHREEcaFOURcaFIVEcaSIXcaSEVENcaEIGHTcaNINE",
    "aaOSAGE CAPITAL LETTER AdaAIdaAINdaAHdaBRAdaCHAdaEHCHAdaEdaEINdaHAdaHYAdaIdaKAdaEHKAdaKYAdaLA",
    "daMAdaNAdaOdaOINdaPAdaEHPAdaSAdaSHAdaTAdaEHTAdaTSAdaEHTSAdaTSHAdaDHAdaUdaWAdaKHAdaGHAdaZA",
    "daZHAbaSMALL LETTER AdaAIdaAINdaAHdaBRAdaCHAdaEHCHAdaEdaEINdaHAdaHYAdaIdaKAdaEHKAdaKYAdaLA",
    "daMAdaNAdaOdaOINdaPAdaEHPAdaSAdaSHAdaTAdaEHTAdaTSAdaEHTSAdaTSHAdaDHAdaUdaWAdaKHAdaGHAdaZA",
    "daZHAaaELBASAN LETTER AcaBEcaCEcaCHEcaDEcaNDEcaDHEcaEIcaEcaFEcaGEcaGJEcaHEcaIcaJEcaKEcaLE",
    "caLLEcaMEcaNEcaNAcaNJEcaOcaPEcaQEcaREcaRREcaSEcaSHEcaTEcaTHEcaUcaVEcaXEcaYcaZEcaZHEcaGHE",
    "caGHAMMAcaKHEaaCAUCASIAN ALBANIAN LETTER ALTdaBETdaGIMdaDATdaEBdaZARLdaEYNdaZHILdaTASdaCHA",
    "daYOWDdaZHAdaIRBdaSHAdaLANdaINYAdaXEYNdaDYANdaCARdaJHOXdaKARdaLYITdaHEYTdaQAYdaAORdaCHOYdaCHI",
    "daCYAYdaMAQdaQARdaNOWCdaDZYAYdaSHAKdaJAYNdaONdaTYAYdaFAMdaDZAYdaCHATdaPENdaGHEYSdaRATdaSEYK",
    "daVEYZdaTIWRdaSHOYdaIWNdaCYAWdaCAYNdaYAYDdaPIWRdaKIWcaCITATION MARK",
    "aaVITHKUQI CAPITAL LETTER AdaBBEdaBEdaCEdaCHEdaDEdaDHEdaEIdaEdaFEdaGAdaHAdaHHAdaIdaIJEdaJE",
    "daKAdaLAdaLLAdaMEdaNEdaNJEdaOdaPEdaQAdaREdaSEdaSHEdaTEdaTHEdaUdaVEdaXEdaYdaZEbaSMALL LETTER A",
    "daBBEdaBEdaCEdaCHEdaDEdaDHEdaEIdaEdaFEdaGAdaHAdaHHAdaIdaIJEdaJEdaKAdaLAdaLLAdaMEdaNEdaNJEdaO",
    "daPEdaQAdaREdaSEdaSHEdaTEdaTHEdaUdaVEdaXEdaYdaZEaaLINEAR A SIGN AB001daAB002daAB003daAB004",
    "daAB005daAB006daAB007daAB008daAB009daAB010daAB011daAB013daAB016daAB017daAB020daAB021daAB021F",
    "daAB021MdaAB022daAB022FdaAB022MdaAB023daAB023MdaAB024daAB026daAB027daAB028daA028BdaAB029",
    "daAB030daAB031daAB034daAB037daAB038daAB039daAB040daAB041daAB044daAB045daAB046daAB047daAB048",
    "daAB049daAB050daAB051daAB053daAB054daAB055daAB056daAB057daAB058daAB059daAB060daAB061daAB065",
    "daAB066daAB067daAB069daAB070daAB073daAB074daAB076daAB077daAB078daAB079daAB080daAB081daAB082",
    "daAB085daAB086daAB087daA100-102daAB118daAB120daA120BdaAB122daAB123daAB131AdaAB131BdaA131C",
    "daAB164daAB171daAB180daAB188daAB191daA301daA302daA303daA304daA305daA306daA307daA308daA309A",
    "daA309BdaA309CdaA310daA311daA312daA313AdaA313BdaA313CdaA314daA315daA316daA317daA318daA319",
    "daA320daA321daA322daA323daA324daA325daA326daA327daA328daA329daA330daA331daA332daA333daA334",
    "daA335daA336daA337daA338daA339daA340daA341daA342daA343daA344daA345daA346daA347daA348daA349",
    "daA350daA351daA352daA353daA354daA355daA356daA357daA358daA359daA360daA361daA362daA363daA364",
    "daA365daA366daA367daA368daA369daA370daA371daA400-VASdaA401-VASdaA402-VASdaA403-VASdaA404-VAS",
    "daA405-VASdaA406-VASdaA407-VASdaA408-VASdaA409-VASdaA410-VASdaA411-VASdaA412-VASdaA413-VAS",
    "daA414-VASdaA415-VASdaA416-VASdaA417-VASdaA418-VASdaA501daA502daA503daA504daA505daA506daA508",
    "daA509daA510daA511daA512daA513daA515daA516daA520daA521daA523daA524daA525daA526daA527daA528",
    "daA529daA530daA531daA532daA534daA535daA536daA537daA538daA539daA540daA541daA542daA545daA547",
    "daA548daA549daA550daA551daA552daA553daA554daA555daA556daA557daA559daA563daA564daA565daA566",
    "daA568daA569daA570daA571daA572daA573daA574daA575daA576daA577daA578daA579daA580daA581daA582",
    "daA583daA584daA585daA586daA587daA588daA589daA591daA592daA594daA595daA596daA598daA600daA601",
    "daA602daA603daA604daA606daA608daA609daA610daA611daA612daA613daA614daA615daA616daA617daA618",
    "daA619daA620daA621daA622daA623daA624daA626daA627daA628daA629daA634daA637daA638daA640daA642",
    "daA643daA644daA645daA646daA648daA649daA651daA652daA653daA654daA655daA656daA657daA658daA659",
    "daA660daA661daA662daA663daA664daA701 AdaA702 BdaA703 DdaA704 EdaA705 FdaA706 HdaA707 J",
    "daA708 KdaA709 LdaA709-2 L2daA709-3 L3daA709-4 L4daA709-6 L6daA710 WdaA711 XdaA712 Y",
    "daA713 OMEGAdaA714 ABBdaA715 BBdaA717 DDdaA726 EYYYdaA732 JEdaA800daA801daA802daA803daA804",
    "daA805daA806daA807aaMODIFIER LETTER SMALL CAPITAL AAcaSUPERSCRIPT TRIANGULAR COLONdcHALF",
    "caSMALL AEdaCAPITAL BdaB WITH HOOKdaDZ DIGRAPHfaWITH RETROFLEX HOOKgaCURLdaDEZH DIGRAPH",
    "daD WITH TAILfaHOOKgaAND TAILdaREVERSED EdbCLOSED REVERSED OPENdaFENG DIGRAPHdaRAMS HORN",
    "daCAPITAL GdaG WITH HOOKddCAPITALdaH WITH STROKEdaCAPITAL HdaHENG WITH HOOK",
    "dbDOTLESS J WITH STROKE ANDdaLS DIGRAPHdbLZdaL WITH BELTddCAPITALdbL WITH RETROFLEX HOOK AND",
    "daLEZHeaWITH RETROFLEX HOOKdaTURNED YfaWITH BELTdaO WITH STROKEdaCAPITAL OEdaCLOSED OMEGAdaQ",
    "daTURNED R WITH LONG LEGiaAND RETROFLEX HOOKdaR WITH TAILfaFISHHOOKdaCAPITAL R",
    "daTC DIGRAPH WITH CURLdaTS DIGRAPHfaWITH RETROFLEX HOOKdaTESH DIGRAPHdaT WITH RETROFLEX HOOK",
    "dbV WITH RIGHTdaCAPITAL YcaGLOTTAL STOP WITH STROKEceREVERSEDcaBILABIAL CLICKcbDENTAL",
    "cbLATERALcbALVEOLARcaRETROFLEX CLICK WITH RETROFLEX HOOKcaSMALL S WITH CURL",
    "aaCYPRIOT SYLLABLE AcaEcaIcaOcaUcaJAcaJOcaKAcaKEcaKIcaKOcaKUcaLAcaLEcaLIcaLOcaLUcaMAcaMEcaMI",
    "caMOcaMUcaNAcaNEcaNIcaNOcaNUcaPAcaPEcaPIcaPOcaPUcaRAcaREcaRIcaROcaRUcaSAcaSEcaSIcaSOcaSUcaTA",
    "caTEcaTIcaTOcaTUcaWAcaWEcaWIcaWOcaXAcaXEcaZAcaZOaaIMPERIAL ARAMAIC LETTER ALEPHdaBETHdaGIMEL",
    "daDALETHdaHEdaWAWdaZAYINdaHETHdaTETHdaYODHdaKAPHdaLAMEDHdaMEMdaNUNdaSAMEKHdaAYINdaPEdaSADHE",
    "daQOPHdaRESHdaSHINdaTAWcaSECTION SIGNcaNUMBER ONEdaTWOdaTHREEdaTENdaTWENTYdaONE HUNDRED",
    "eaTHOUSANDdbTENaaPALMYRENE LETTER ALEPHcaBETHcaGIMELcaDALETHcaHEcaWAWcaZAYINcaHETHcaTETH",
    "caYODHcaKAPHcaLAMEDHcaMEMcaFINAL NUNcbcaSAMEKHcaAYINcaPEcaSADHEcaQOPHcaRESHcaSHINcaTAW",
    "baLEFT-POINTING FLEURONbbRIGHT-POINTINGbaNUMBER ONEcaTWOcaTHREEcaFOURcaFIVEcaTENcaTWENTY",
    "aaNABATAEAN LETTER FINAL ALEPHcbcaFINAL BETHcbcaGIMELcaDALETHcaFINAL HEcbcaWAWcaZAYINcaHETH",
    "caTETHcaFINAL YODHcbcaFINAL KAPHcbcaFINAL LAMEDHcbcaFINAL MEMcbcaFINAL NUNcbcaSAMEKHcaAYIN",
    "caPEcaSADHEcaQOPHcaRESHcaFINAL SHINcbcaTAWbaNUMBER ONEcaTWOcaTHREEcaFOURbcCRUCIFORM",
    "baNUMBER FIVEcaTENcaTWENTYcaONE HUNDREDaaHATRAN LETTER ALEPHcaBETHcaGIMELcaDALETH-RESHcaHE",
    "caWAWcaZAYNcaHETHcaTETHcaYODHcaKAPHcaLAMEDHcaMEMcaNUNcaSAMEKHcaAYNcaPEcaSADHEcaQOPHcaSHIN",
    "caTAWbaNUMBER ONEcaFIVEcaTENcaTWENTYcaONE HUNDREDaaPHOENICIAN LETTER ALFcaBETcaGAMLcaDELTcaHE",
    "caWAUcaZAIcaHETcaTETcaYODcaKAFcaLAMDcaMEMcaNUNcaSEMKcaAINcaPEcaSADEcaQOFcaROSHcaSHINcaTAU",
    "baNUMBER ONEcaTENcaTWENTYcaONE HUNDREDcaTWOcaTHREEbaWORD SEPARATORaaLYDIAN LETTER AcaBcaGcaD",
    "caEcaVcaIcaYcaKcaLcaMcaNcaOcaRcaSScaTcaUcaFcaQcaScaTTcaANcaENcaLYcaNNcaCbaTRIANGULAR MARK",
    "aaMEROITIC HIEROGLYPHIC LETTER AdaEdaIdaOdaYAdaWAdaBAdaBA-2daPAdaMAdaNAdaNA-2daNEdaNE-2daRA",
    "daRA-2daLAdaKHAdaHHAdaSAdaSA-2daSEdaKAdaQAdaTAdaTA-2daTEdaTE-2daTOdaDAcaSYMBOL VIDJdaVIDJ-2",
    "baCURSIVE LETTER AdaEdaIdaOdaYAdaWAdaBAdaPAdaMAdaNAdaNEdaRAdaLAdaKHAdaHHAdaSAdbARCHAICdaSE",
    "daKAdaQAdaTAdaTEdaTOdaDAcaFRACTION ELEVEN TWELFTHSdaONE HALFcaLOGOGRAM RMTdaIMNcaNUMBER ONE",
    "daTWOdaTHREEdaFOURdaFIVEdaSIXdaSEVENdaEIGHTdaNINEdaTENdaTWENTYdaTHIRTYdaFORTYdaFIFTYdaSIXTY",
    "daSEVENTYdaONE HUNDREDdbTWOdbTHREEdbFOURdbFIVEdbSIXdbSEVENdbEIGHTdbNINEdaONE THOUSANDdbTWO",
    "dbTHREEdbFOURdbFIVEdbSIXdbSEVENdbEIGHTdbNINEdbTENdbTWENTYdbTHIRTYdbFORTYdbFIFTYdbSIXTY",
    "dbSEVENTYdbEIGHTYdbNINETYdbONE HUNDREDdcTWOdcTHREEdcFOURdcFIVEdcSIXdcSEVENdcEIGHTdcNINE",
    "caFRACTION ONE TWELFTHdaTWO TWELFTHSdbTHREEdbFOURdbFIVEdbSIXdbSEVENdbEIGHTdbNINEdbTEN",
    "aaKHAROSHTHI LETTER AbaVOWEL SIGN IdaUdaVOCALIC RdaEdaOcaLENGTH MARKbaSIGN DOUBLE RING BELOW",
    "caANUSVARAcaVISARGAbaLETTER KAcaKHAcaGAcaGHAcaCAcaCHAcaJAcaNYAcaTTAcaTTHAcaDDAcaDDHAcaNNAcaTA",
    "caTHAcaDAcaDHAcaNAcaPAcaPHAcaBAcaBHAcaMAcaYAcaRAcaLAcaVAcaSHAcaSSAcaSAcaZAcaHAcaKKAcaTTTHA",
    "caTTTAcaVHAbaSIGN BAR ABOVEcaCAUDAcaDOT BELOWbaVIRAMAbaDIGIT ONEcaTWOcaTHREEcaFOUR",
    "baNUMBER TENcaTWENTYcaONE HUNDREDdaTHOUSANDbaFRACTION ONE HALFbaPUNCTUATION DOTcaSMALL CIRCLE",
    "cbcaCRESCENT BARcaMANGALAMcaLOTUScaDANDAcbDOUBLEcaLINESaaOLD SOUTH ARABIAN LETTER HEeaLAMEDH",
    "eaHETHeaMEMeaQOPHeaWAWeaSHINeaRESHeaBETHeaTAWeaSATeaKAPHeaNUNeaKHETHeaSADHEeaSAMEKHeaFEeaALEF",
    "eaAYNeaDHADHEeaGIMELeaDALETHeaGHAYNeaTETHeaZAYNeaDHALETHeaYODHeaTHAWeaTHETHdaNUMBER ONE",
    "eaFIFTYdaNUMERIC INDICATORbaNORTH ARABIAN LETTER HEHeaLAMeaHAHeaMEEMeaQAFeaWAWeaES-2eaREH",
    "eaBEHeaTEHeaES-1eaKAFeaNOONeaKHAHeaSADeaES-3eaFEHeaALEFeaAINeaDADeaGEEMeaDALeaGHAINeaTAH",
    "eaZAINeaTHALeaYEHeaTHEHeaZAHdaNUMBER ONEeaTENeaTWENTYaaMANICHAEAN LETTER ALEPHcaBETHcaBHETH",
    "caGIMELcaGHIMELcaDALETHcaHEcaWAWbaSIGN UDbaLETTER ZAYINcaZHAYINcaJAYINcaJHAYINcaHETHcaTETH",
    "caYODHcaKAPHcaXAPHcaKHAPHcaLAMEDHcaDHAMEDHcaTHAMEDHcaMEMcaNUNcaSAMEKHcaAYINcaAAYINcaPEcaFE",
    "caSADHEcaQOPHcaXOPHcaQHOPHcaRESHcaSHINcaSSHINcaTAWbaABBREVIATION MARK ABOVEdaBELOW",
    "baNUMBER ONEcaFIVEcaTENcaTWENTYcaONE HUNDREDbaPUNCTUATION STARcaFLEURON",
    "caDOUBLE DOT WITHIN DOTcddacaTWO DOTScaLINE FILLERaaAVESTAN LETTER AcaAAcaAOcaAAOcaANcaAAN",
    "caAEcaAEEcaEcaEEcaOcaOOcaIcaIIcaUcaUUcaKEcaXEcaXYEcaXVEcaGEcaGGEcaGHEcaCEcaJEcaTEcaTHEcaDE",
    "caDHEcaTTEcaPEcaFEcaBEcaBHEcaNGEcaNGYEcaNGVEcaNEcaNYEcaNNEcaMEcaHMEcaYYEcaYEcaVEcaREcaLEcaSE",
    "caZEcaSHEcaZHEcaSHYEcaSSHEcaHEbaABBREVIATION MARKaaTINY TWO DOTS OVER ONE DOT PUNCTUATION",
    "agSMALLagLARGEbbONE DOT OVER TWO DOTSbbTWO RINGS OVER ONE RINGbbONE RING OVER TWO RINGS",
    "aaINSCRIPTIONAL PARTHIAN LETTER ALEPHdaBETHdaGIMELdaDALETHdaHEdaWAWdaZAYINdaHETHdaTETHdaYODH",
    "daKAPHdaLAMEDHdaMEMdaNUNdaSAMEKHdaAYINdaPEdaSADHEdaQOPHdaRESHdaSHINdaTAWcaNUMBER ONEdaTWO",
    "daTHREEdaFOURdaTENdaTWENTYdaONE HUNDREDeaTHOUSANDbaPAHLAVI LETTER ALEPHdaBETHdaGIMELdaDALETH",
    "daHEdaWAW-AYIN-RESHdaZAYINdaHETHdaTETHdaYODHdaKAPHdaLAMEDHdaMEM-QOPHdaNUNdaSAMEKHdaPEdaSADHE",
    "daSHINdaTAWcaNUMBER ONEdaTWOdaTHREEdaFOURdaTENdaTWENTYdaONE HUNDREDeaTHOUSAND",
    "aaPSALTER PAHLAVI LETTER ALEPHdaBETHdaGIMELdaDALETHdaHEdaWAW-AYIN-RESHdaZAYINdaHETHdaYODH",
    "daKAPHdaLAMEDHdaMEM-QOPHdaNUNdaSAMEKHdaPEdaSADHEdaSHINdaTAWcaSECTION MARKccTURNED",
    "caFOUR DOTS WITH CROSSfaDOTcaNUMBER ONEdaTWOdaTHREEdaFOURdaTENdaTWENTYdaONE HUNDRED",
    "aaOLD TURKIC LETTER ORKHON AdbYENISEIeaAEdaORKHON IdbYENISEIeaEdaORKHON OeaOEdbYENISEI",
    "daORKHON ABdbYENISEIdaORKHON AEBdbYENISEIdaORKHON AGdbYENISEIdaORKHON AEGdbYENISEIdaORKHON AD",
    "dbYENISEIdaORKHON AEDeaEZdbYENISEIdaORKHON AYdbYENISEIdaORKHON AEYdbYENISEIdaORKHON AEK",
    "dbYENISEIdaORKHON OEKdbYENISEIdaORKHON ALdbYENISEIdaORKHON AELeaELTeaEMeaANeaAENdbYENISEI",
    "daORKHON ENTdbYENISEIdaORKHON ENCdbYENISEIdaORKHON ENYdbYENISEIeaANGdaORKHON ENG",
    "daYENISEI AENGdaORKHON EPeaOPeaICeaECdbYENISEIdaORKHON AQdbYENISEIdaORKHON IQdbYENISEI",
    "daORKHON OQdbYENISEIdaORKHON ARdbYENISEIdaORKHON AEReaASeaAESeaASHdbYENISEIdaORKHON ESH",
    "dbYENISEIdaORKHON ATdbYENISEIdaORKHON AETdbYENISEIdaORKHON OTeaBASH",
    "baHUNGARIAN CAPITAL LETTER AeaAAeaEBeaAMBeaECeaENCeaECSeaEDeaANDeaEebCLOSEeaEEeaEFeaEGeaEGY",
    "eaEHeaIeaIIeaEJeaEKeaAKeaUNKeaELeaELYeaEMeaENeaENYeaOeaOOeaNIKOLSBURG OEebRUDIMENTAeaOEEeaEP",
    "eaEMPeaERebSHORTeaESeaESZeaETeaENTeaETYeaECHeaUeaUUeaNIKOLSBURG UEebRUDIMENTAeaEVeaEZeaEZS",
    "eaENT-SHAPED SIGNeaUScaSMALL LETTER AeaAAeaEBeaAMBeaECeaENCeaECSeaEDeaANDeaEebCLOSEeaEEeaEF",
    "eaEGeaEGYeaEHeaIeaIIeaEJeaEKeaAKeaUNKeaELeaELYeaEMeaENeaENYeaOeaOOeaNIKOLSBURG OEebRUDIMENTA",
    "eaOEEeaEPeaEMPeaERebSHORTeaESeaESZeaETeaENTeaETYeaECHeaUeaUUeaNIKOLSBURG UEebRUDIMENTAeaEV",
    "eaEZeaEZSeaENT-SHAPED SIGNeaUScaNUMBER ONEdaFIVEdaTENdaFIFTYdaONE HUNDREDeaTHOUSAND",
    "aaHANIFI ROHINGYA LETTER AdaBAdaPAdaTAdaTTAdaJAdaCAdaHAdaKHAdaFAdaDAdaDDAdaRAdaRRAdaZAdaSA",
    "daSHAdaKAdaGAdaLAdaMAdaNAdaWAdbKINNAdaYAdbKINNAdaNGAdaNYAdaVAcaVOWEL AdaIdaUdaEdaO",
    "caMARK SAKINdaNA KHONNAcaSIGN HARBAHAYdaTAHALAdaTANAdaTASSIcaDIGIT ZEROdaONEdaTWOdaTHREE",
    "daFOURdaFIVEdaSIXdaSEVENdaEIGHTdaNINEaaRUMI DIGIT ONEcaTWOcaTHREEcaFOURcaFIVEcaSIXcaSEVEN",
    "caEIGHTcaNINEbaNUMBER TENcaTWENTYcaTHIRTYcaFORTYcaFIFTYcaSIXTYcaSEVENTYcaEIGHTYcaNINETY",
    "caONE HUNDREDcbTWOcbTHREEcbFOURcbFIVEcbSIXcbSEVENcbEIGHTcbNINEbaFRACTION ONE HALFdaQUARTER",
    "daTHIRDcaTWO THIRDSaaYEZIDI LETTER ELIFcaBEcaPEcaPHEcaTHEcaSEcaCIMcaCHIMcaCHHIMcaHHAcaXAcaDAL",
    "caZALcaRAcaRHAcaZAcaJAcaSINcaSHINcaSADcaDADcaTAcaZEcaEYNcaXHEYNcaFAcaVAdaALTERNATE FORMcaQAF",
    "caKAFcaKHAFcaGAFcaLAMcaMIMcaNUNcaUMcaWAWcaOWcaEWcaHAYcaYOTcaETbaCOMBINING HAMZA MARKcbMADDA",
    "bbHYPHENATIONbaLETTER LAM WITH DOT ABOVEcbYOT WITH CIRCUMFLEXaaOLD SOGDIAN LETTER ALEPH",
    "dbFINALdaBETHdbFINALdaGIMELdaHEdbFINALdaWAWdaZAYINdaHETHdaYODHdaKAPHdaLAMEDHdaMEMdaNUNdbFINAL",
    "faWITH VERTICAL TAILdaSAMEKHdaAYINdbALTERNATEdaPEdaSADHEdbFINALfaWITH VERTICAL TAIL",
    "daRESH-AYIN-DALETHdaSHINdaTAWdbFINALfaWITH VERTICAL TAILcaNUMBER ONEdaTWOdaTHREEdaFOURdaFIVE",
    "daTENdaTWENTYdaTHIRTYdaONE HUNDREDcaFRACTION ONE HALFcaLIGATURE AYIN-DALETH",
    "aaSOGDIAN LETTER ALEPHcaBETHcaGIMELcaHEcaWAWcaZAYINcaHETHcaYODHcaKAPHcaLAMEDHcaMEMcaNUN",
    "caSAMEKHcaAYINcaPEcaSADHEcaRESH-AYINcaSHINcaTAWcaFETHcaLESHbaINDEPENDENT SHIN",
    "baCOMBINING DOT BELOWcbTWO DOTScaDOT ABOVEcbTWO DOTScbCURVEdaBELOWcaHOOK ABOVEdaBELOWccLONG",
    "cbRESHcbSTROKEbaNUMBER ONEcaTENcaTWENTYcaONE HUNDREDbaPUNCTUATION TWO VERTICAL BARS",
    "faWITH DOTScaCIRCLE WITH DOTcaTWO CIRCLES WITH DOTScaHALF CIRCLE WITH DOT",
    "aaOLD UYGHUR LETTER ALEPHdaBETHdaGIMEL-HETHdaWAWdaZAYINdaFINAL HETHdaYODHdaKAPHdaLAMEDHdaMEM",
    "daNUNdaSAMEKHdaPEdaSADHEdaRESHdaSHINdaTAWdaLESHcaCOMBINING DOT ABOVEeaBELOWdaTWO DOTS ABOVE",
    "faBELOWcaPUNCTUATION BARdaTWO BARSeaDOTSdbFOURaaCHORASMIAN LETTER ALEPHcbSMALLcaBETHcaGIMEL",
    "caDALETHcaHEcaWAWcbCURLEDcaZAYINcaHETHcaYODHcaKAPHcaLAMEDHcaMEMcaNUNcaSAMEKHcaAYINcaPEcaRESH",
    "caSHINcaTAWbaNUMBER ONEcaTWOcaTHREEcaFOURcaTENcaTWENTYcaONE HUNDREDaaELYMAIC LETTER ALEPH",
    "caBETHcaGIMELcaDALETHcaHEcaWAWcaZAYINcaHETHcaTETHcaYODHcaKAPHcaLAMEDHcaMEMcaNUNcaSAMEKHcaAYIN",
    "caPEcaSADHEcaQOPHcaRESHcaSHINcaTAWbaLIGATURE ZAYIN-YODHaaBRAHMI SIGN CANDRABINDUcaANUSVARA",
    "caVISARGAcaJIHVAMULIYAcaUPADHMANIYAbaLETTER AcaAAcaIcaIIcaUcaUUcaVOCALIC RdaRRdaLdaLLcaEcaAI",
    "caOcaAUcaKAcaKHAcaGAcaGHAcaNGAcaCAcaCHAcaJAcaJHAcaNYAcaTTAcaTTHAcaDDAcaDDHAcaNNAcaTAcaTHAcaDA",
    "caDHAcaNAcaPAcaPHAcaBAcaBHAcaMAcaYAcaRAcaLAcaVAcaSHAcaSSAcaSAcaHAcaLLAcaOLD TAMIL LLLAeaRRA",
    "eaNNNAbaVOWEL SIGN AAdbBHATTIPROLUdaIdaIIdaUdaUUdaVOCALIC ReaRReaLeaLLdaEdaAIdaOdaAUbaVIRAMA",
    "baDANDAbbDOUBLEbaPUNCTUATION DOTcbDOUBLEcaLINEcaCRESCENT BARcaLOTUSbaNUMBER ONEcaTWOcaTHREE",
    "caFOURcaFIVEcaSIXcaSEVENcaEIGHTcaNINEcaTENcaTWENTYcaTHIRTYcaFORTYcaFIFTYcaSIXTYcaSEVENTY",
    "caEIGHTYcaNINETYcaONE HUNDREDdaTHOUSANDbaDIGIT ZEROcaONEcaTWOcaTHREEcaFOURcaFIVEcaSIXcaSEVEN",
    "caEIGHTcaNINEbaSIGN OLD TAMIL VIRAMAbaLETTER OLD TAMIL SHORT EfaO",
    "baVOWEL SIGN OLD TAMIL SHORT EgaObaLETTER OLD TAMIL LLAbaNUMBER JOINER",
    "aaKAITHI SIGN CANDRABINDUcaANUSVARAcaVISARGAbaLETTER AcaAAcaIcaIIcaUcaUUcaEcaAIcaOcaAUcaKA",
    "caKHAcaGAcaGHAcaNGAcaCAcaCHAcaJAcaJHAcaNYAcaTTAcaTTHAcaDDAcaDDDHAcaDDHAcaRHAcaNNAcaTAcaTHA",
    "caDAcaDHAcaNAcaPAcaPHAcaBAcaBHAcaMAcaYAcaRAcaLAcaVAcaSHAcaSSAcaSAcaHAbaVOWEL SIGN AAdaIdaII",
    "daUdaUUdaEdaAIdaOdaAUbaSIGN VIRAMAcaNUKTAbaABBREVIATION SIGNbbENUMERATIONbbNUMBER",
    "baSECTION MARKbcDOUBLEbaDANDAbbDOUBLEbaVOWEL SIGN VOCALIC RbaNUMBER SIGN ABOVE",
    "aaSORA SOMPENG LETTER SAHdaTAHdaBAHdaCAHdaDAHdaGAHdaMAHdaNGAHdaLAHdaNAHdaVAHdaPAHdaYAHdaRAH",
    "daHAHdaKAHdaJAHdaNYAHdaAHdaEEHdaIHdaUHdaOHdaEHdaMAEcaDIGIT ZEROdaONEdaTWOdaTHREEdaFOURdaFIVE",
    "daSIXdaSEVENdaEIGHTdaNINEaaCHAKMA SIGN CANDRABINDUcaANUSVARAcaVISARGAbaLETTER AAcaIcaUcaE",
    "caKAAcaKHAAcaGAAcaGHAAcaNGAAcaCAAcaCHAAcaJAAcaJHAAcaNYAAcaTTAAcaTTHAAcaDDAAcaDDHAAcaNNAAcaTAA",
    "caTHAAcaDAAcaDHAAcaNAAcaPAAcaPHAAcaBAAcaBHAAcaMAAcaYYAAcaYAAcaRAAcaLAAcaWAAcaSAAcaHAA",
    "baVOWEL SIGN AdaIdaIIdaUdaUUdaEdaAIdaOdaAUdaOIbaO MARKbbAUbaVIRAMAbaMAAYYAAbaDIGIT ZEROcaONE",
    "caTWOcaTHREEcaFOURcaFIVEcaSIXcaSEVENcaEIGHTcaNINEbaSECTION MARKbaDANDAbbDOUBLEbaQUESTION MARK",
    "baLETTER LHAAbaVOWEL SIGN AAdaEIbaLETTER VAAaaMAHAJANI LETTER AcaIcaUcaEcaOcaKAcaKHAcaGAcaGHA",
    "caCAcaCHAcaJAcaJHAcaNYAcaTTAcaTTHAcaDDAcaDDHAcaNNAcaTAcaTHAcaDAcaDHAcaNAcaPAcaPHAcaBAcaBHA",
    "caMAcaRAcaLAcaVAcaSAcaHAcaRRAbaSIGN NUKTAbaABBREVIATION SIGNbaSECTION MARKbaLIGATURE SHRI",
    "aaSHARADA SIGN CANDRABINDUcaANUSVARAcaVISARGAbaLETTER AcaAAcaIcaIIcaUcaUUcaVOCALIC RdaRRdaL",
    "daLLcaEcaAIcaOcaAUcaKAcaKHAcaGAcaGHAcaNGAcaCAcaCHAcaJAcaJHAcaNYAcaTTAcaTTHAcaDDAcaDDHAcaNNA",
    "caTAcaTHAcaDAcaDHAcaNAcaPAcaPHAcaBAcaBHAcaMAcaYAcaRAcaLAcaLLAcaVAcaSHAcaSSAcaSAcaHA",
    "baVOWEL SIGN AAdaIdaIIdaUdaUUdaVOCALIC ReaRReaLeaLLdaEdaAIdaOdaAUbaSIGN VIRAMAcaAVAGRAHA",
    "caJIHVAMULIYAcaUPADHMANIYAbaOMbaDANDAbbDOUBLEbaABBREVIATION SIGNbaSEPARATORbaSANDHI MARK",
    "baSIGN NUKTAbaVOWEL MODIFIER MARKbbEXTRA SHORT VOWELbbSUTRAbaVOWEL SIGN PRISHTHAMATRA E",
    "baSIGN INVERTED CANDRABINDUbaDIGIT ZEROcaONEcaTWOcaTHREEcaFOURcaFIVEcaSIXcaSEVENcaEIGHTcaNINE",
    "baEKAMbaSIGN SIDDHAMbaHEADSTROKEbaCONTINUATION SIGNbaSECTION MARK-1caMARK-2",
    "aaSINHALA ARCHAIC DIGIT ONEdaTWOdaTHREEdaFOURdaFIVEdaSIXdaSEVENdaEIGHTdaNINEcaNUMBER TEN",
    "daTWENTYdaTHIRTYdaFORTYdaFIFTYdaSIXTYdaSEVENTYdaEIGHTYdaNINETYdaONE HUNDREDeaTHOUSAND",
    "aaKHOJKI LETTER AcaAAcaIcaUcaEcaAIcaOcaAUcaKAcaKHAcaGAcaGGAcaGHAcaNGAcaCAcaCHAcaJAcaJJAcaNYA",
    "caTTAcaTTHAcaDDAcaDDHAcaNNAcaTAcaTHAcaDAcaDDDAcaDHAcaNAcaPAcaPHAcaBAcaBBAcaBHAcaMAcaYAcaRA",
    "caLAcaVAcaSAcaHAcaLLAbaVOWEL SIGN AAdaIdaIIdaUdaEdaAIdaOdaAUbaSIGN ANUSVARAcaVIRAMAcaNUKTA",
    "caSHADDAbaDANDAbbDOUBLEbaWORD SEPARATORbaSECTION MARKbcDOUBLEbaABBREVIATION SIGNbaSIGN SUKUN",
    "aaMULTANI LETTER AcaIcaUcaEcaKAcaKHAcaGAcaGHAcaCAcaCHAcaJAcaJJAcaNYAcaTTAcaTTHAcaDDAcaDDDA",
    "caDDHAcaNNAcaTAcaTHAcaDAcaDHAcaNAcaPAcaPHAcaBAcaBHAcaMAcaYAcaRAcaLAcaVAcaSAcaHAcaRRAcaRHA",
    "baSECTION MARKaaKHUDAWADI LETTER AcaAAcaIcaIIcaUcaUUcaEcaAIcaOcaAUcaKAcaKHAcaGAcaGGAcaGHA",
    "caNGAcaCAcaCHAcaJAcaJJAcaJHAcaNYAcaTTAcaTTHAcaDDAcaDDDAcaRRAcaDDHAcaNNAcaTAcaTHAcaDAcaDHAcaNA",
    "caPAcaPHAcaBAcaBBAcaBHAcaMAcaYAcaRAcaLAcaVAcaSHAcaSAcaHAbaSIGN ANUSVARAbaVOWEL SIGN AAdaIdaII",
    "daUdaUUdaEdaAIdaOdaAUbaSIGN NUKTAcaVIRAMAbaDIGIT ZEROcaONEcaTWOcaTHREEcaFOURcaFIVEcaSIX",
    "caSEVENcaEIGHTcaNINEaaGRANTHA SIGN COMBINING ANUSVARA ABOVEcaCANDRABINDUcaANUSVARAcaVISARGA",
    "baLETTER AcaAAcaIcaIIcaUcaUUcaVOCALIC RdaLcaEEcaAIcaOOcaAUcaKAcaKHAcaGAcaGHAcaNGAcaCAcaCHA",
    "caJAcaJHAcaNYAcaTTAcaTTHAcaDDAcaDDHAcaNNAcaTAcaTHAcaDAcaDHAcaNAcaPAcaPHAcaBAcaBHAcaMAcaYAcaRA",
    "caLAcaLLAcaVAcaSHAcaSSAcaSAcaHAaaCOMBINING BINDU BELOWaaGRANTHA SIGN NUKTAcaAVAGRAHA",
    "baVOWEL SIGN AAdaIdaIIdaUdaUUdaVOCALIC ReaRRdaEEdaAIdaOOdaAUbaSIGN VIRAMAbaOMbaAU LENGTH MARK",
    "baSIGN PLUTAbaLETTER VEDIC ANUSVARAdbDOUBLEcaVOCALIC RRdaLLbaVOWEL SIGN VOCALIC LeaLL",
    "aaCOMBINING GRANTHA DIGIT ZEROdaONEdaTWOdaTHREEdaFOURdaFIVEdaSIXcaLETTER AdaKAdaNAdaVIdaPA",
    "aaNEWA LETTER AcaAAcaIcaIIcaUcaUUcaVOCALIC RdaRRdaLdaLLcaEcaAIcaOcaAUcaKAcaKHAcaGAcaGHAcaNGA",
    "caNGHAcaCAcaCHAcaJAcaJHAcaNYAcaNYHAcaTTAcaTTHAcaDDAcaDDHAcaNNAcaTAcaTHAcaDAcaDHAcaNAcaNHAcaPA",
    "caPHAcaBAcaBHAcaMAcaMHAcaYAcaRAcaRHAcaLAcaLHAcaWAcaSHAcaSSAcaSAcaHAbaVOWEL SIGN AAdaIdaIIdaU",
    "daUUdaVOCALIC ReaRReaLeaLLdaEdaAIdaOdaAUbaSIGN VIRAMAcaCANDRABINDUcaANUSVARAcaVISARGAcaNUKTA",
    "caAVAGRAHAcaFINAL ANUSVARAbaOMbaSIDDHIbaDANDAbbDOUBLEbaCOMMAbaGAP FILLERbaABBREVIATION SIGN",
    "baDIGIT ZEROcaONEcaTWOcaTHREEcaFOURcaFIVEcaSIXcaSEVENcaEIGHTcaNINEbaDOUBLE COMMA",
    "baPLACEHOLDER MARKbaINSERTION SIGNbaSANDHI MARKbaLETTER VEDIC ANUSVARAbaSIGN JIHVAMULIYA",
    "caUPADHMANIYAaaTIRHUTA ANJIbaLETTER AcaAAcaIcaIIcaUcaUUcaVOCALIC RdaRRdaLdaLLcaEcaAIcaOcaAU",
    "caKAcaKHAcaGAcaGHAcaNGAcaCAcaCHAcaJAcaJHAcaNYAcaTTAcaTTHAcaDDAcaDDHAcaNNAcaTAcaTHAcaDAcaDHA",
    "caNAcaPAcaPHAcaBAcaBHAcaMAcaYAcaRAcaLAcaVAcaSHAcaSSAcaSAcaHAbaVOWEL SIGN AAdaIdaIIdaUdaUU",
    "daVOCALIC ReaRReaLeaLLdaEdbSHORTdaAIdaOdbSHORTdaAUbaSIGN CANDRABINDUcaANUSVARAcaVISARGA",
    "caVIRAMAcaNUKTAcaAVAGRAHAbaGVANGbaABBREVIATION SIGNbaOMbaDIGIT ZEROcaONEcaTWOcaTHREEcaFOUR",
    "caFIVEcaSIXcaSEVENcaEIGHTcaNINEaaSIDDHAM LETTER AcaAAcaIcaIIcaUcaUUcaVOCALIC RdaRRdaLdaLLcaE",
    "caAIcaOcaAUcaKAcaKHAcaGAcaGHAcaNGAcaCAcaCHAcaJAcaJHAcaNYAcaTTAcaTTHAcaDDAcaDDHAcaNNAcaTAcaTHA",
    "caDAcaDHAcaNAcaPAcaPHAcaBAcaBHAcaMAcaYAcaRAcaLAcaVAcaSHAcaSSAcaSAcaHAbaVOWEL SIGN AAdaIdaII",
    "daUdaUUdaVOCALIC ReaRRdaEdaAIdaOdaAUbaSIGN CANDRABINDUcaANUSVARAcaVISARGAcaVIRAMAcaNUKTA",
    "caSIDDHAMbaDANDAbbDOUBLEbaSEPARATOR DOTcaBARbaREPETITION MARK-1caMARK-2caMARK-3",
    "baEND OF TEXT MARKbaSECTION MARK WITH TRIDENT AND U-SHAPED ORNAMENTSgaDOTTED CRESCENTSedRAYS",
    "hbDOUBLEhbTRIPLEdaDOUBLE RINGfaWITH RAYSdaWITH DOUBLE CRESCENTSebTRIPLEebQUADRUPLEebSEPTUPLE",
    "eaCIRCLES AND RAYSgaTWO ENCLOSURESgbFOURbaLETTER THREE-CIRCLE ALTERNATE IccTWO-CIRCLEeaII",
    "caALTERNATE UbcVOWEL SIGNeaUUaaMODI LETTER AcaAAcaIcaIIcaUcaUUcaVOCALIC RdaRRdaLdaLLcaEcaAI",
    "caOcaAUcaKAcaKHAcaGAcaGHAcaNGAcaCAcaCHAcaJAcaJHAcaNYAcaTTAcaTTHAcaDDAcaDDHAcaNNAcaTAcaTHAcaDA",
    "caDHAcaNAcaPAcaPHAcaBAcaBHAcaMAcaYAcaRAcaLAcaVAcaSHAcaSSAcaSAcaHAcaLLAbaVOWEL SIGN AAdaIdaII",
    "daUdaUUdaVOCALIC ReaRReaLeaLLdaEdaAIdaOdaAUbaSIGN ANUSVARAcaVISARGAcaVIRAMAcaARDHACANDRA",
    "baDANDAbbDOUBLEbaABBREVIATION SIGNbaSIGN HUVAbaDIGIT ZEROcaONEcaTWOcaTHREEcaFOURcaFIVEcaSIX",
    "caSEVENcaEIGHTcaNINEaaMONGOLIAN BIRGA WITH ORNAMENTbaROTATED BIRGA",
    "baDOUBLE BIRGA WITH ORNAMENTbdTRIPLEbbBIRGA WITH DOUBLEbbROTATED BIRGA WITHebDOUBLE",
    "baINVERTED BIRGAdaWITH DOUBLE ORNAMENTbaSWIRL BIRGAdaWITH ORNAMENTebDOUBLEbfTURNED",
    "aaTAKRI LETTER AcaAAcaIcaIIcaUcaUUcaEcaAIcaOcaAUcaKAcaKHAcaGAcaGHAcaNGAcaCAcaCHAcaJAcaJHA",
    "caNYAcaTTAcaTTHAcaDDAcaDDHAcaNNAcaTAcaTHAcaDAcaDHAcaNAcaPAcaPHAcaBAcaBHAcaMAcaYAcaRAcaLAcaVA",
    "caSHAcaSAcaHAcaRRAbaSIGN ANUSVARAcaVISARGAbaVOWEL SIGN AAdaIdaIIdaUdaUUdaEdaAIdaOdaAU",
    "baSIGN VIRAMAcaNUKTAbaLETTER ARCHAIC KHAbaABBREVIATION SIGNbaDIGIT ZEROcaONEcaTWOcaTHREE",
    "caFOURcaFIVEcaSIXcaSEVENcaEIGHTcaNINEaaAHOM LETTER KAcaKHAcaNGAcaNAcaTAcbALTERNATEcaPAcaPHA",
    "caBAcaMAcaJAcaCHAcaTHAcaRAcaLAcaSAcaNYAcaHAcaAcaDAcaDHAcaGAcbALTERNATEcaGHAcaBHAcaJHA",
    "caALTERNATE BAbaCONSONANT SIGN MEDIAL LAeaRAebLIGATINGbaVOWEL SIGN AdaAAdaIdaIIdaUdaUUdaEdaAW",
    "daOdaAIdaAMbaSIGN KILLERbaDIGIT ZEROcaONEcaTWOcaTHREEcaFOURcaFIVEcaSIXcaSEVENcaEIGHTcaNINE",
    "baNUMBER TENcaTWENTYbaSIGN SMALL SECTIONcbcaRULAIbaSYMBOL VIbaLETTER CAcaTTAcaTTHAcaDDAcaDDHA",
    "caNNAcaLLAaaDOGRA LETTER AcaAAcaIcaIIcaUcaUUcaEcaAIcaOcaAUcaKAcaKHAcaGAcaGHAcaNGAcaCAcaCHA",
    "caJAcaJHAcaNYAcaTTAcaTTHAcaDDAcaDDHAcaNNAcaTAcaTHAcaDAcaDHAcaNAcaPAcaPHAcaBAcaBHAcaMAcaYAcaRA",
    "caLAcaVAcaSHAcaSSAcaSAcaHAcaRRAbaVOWEL SIGN AAdaIdaIIdaUdaUUdaVOCALIC ReaRRdaEdaAIdaOdaAU",
    "baSIGN ANUSVARAcaVISARGAcaVIRAMAcaNUKTAbaABBREVIATION SIGNaaWARANG CITI CAPITAL LETTER NGAA",
    "eaAeaWIeaYUeaYAeaYOeaIIeaUUeaEeaOeaANGeaGAeaKOeaENYeaYUJeaUCeaENNeaODDeaTTEeaNUNGeaDAeaATeaAM",
    "eaBUeaPUeaHIYOeaHOLOeaHORReaHAReaSSUUeaSIIeaVIYOcaSMALL LETTER NGAAeaAeaWIeaYUeaYAeaYOeaII",
    "eaUUeaEeaOeaANGeaGAeaKOeaENYeaYUJeaUCeaENNeaODDeaTTEeaNUNGeaDAeaATeaAMeaBUeaPUeaHIYOeaHOLO",
    "eaHORReaHAReaSSUUeaSIIeaVIYOcaDIGIT ZEROdaONEdaTWOdaTHREEdaFOURdaFIVEdaSIXdaSEVENdaEIGHT",
    "daNINEcaNUMBER TENdaTWENTYdaTHIRTYdaFORTYdaFIFTYdaSIXTYdaSEVENTYdaEIGHTYdaNINETYcaOM",
    "aaDIVES AKURU LETTER AdaAAdaIdaIIdaUdaUUdaEdaOdaKAdaKHAdaGAdaGHAdaNGAdaCAdaCHAdaJAdaNYAdaTTA",
    "daDDAdaDDHAdaNNAdaTAdaTHAdaDAdaDHAdaNAdaPAdaPHAdaBAdaBHAdaMAdaYAdaYYAdaRAdaLAdaVAdaSHAdaSSA",
    "daSAdaHAdaLLAdaZAcaVOWEL SIGN AAeaIeaIIeaUeaUUeaEeaAIeaOcaSIGN ANUSVARAdaCANDRABINDUdaHALANTA",
    "caVIRAMAcaPREFIXED NASAL SIGNcaMEDIAL YAcaINITIAL RAcbMEDIALcaSIGN NUKTAcaDOUBLE DANDA",
    "caGAP FILLERcaEND OF TEXT MARKcaDIGIT ZEROdaONEdaTWOdaTHREEdaFOURdaFIVEdaSIXdaSEVENdaEIGHT",
    "daNINEaaNANDINAGARI LETTER AcaAAcaIcaIIcaUcaUUcaVOCALIC RdaRRcaEcaAIcaOcaAUcaKAcaKHAcaGAcaGHA",
    "caNGAcaCAcaCHAcaJAcaJHAcaNYAcaTTAcaTTHAcaDDAcaDDHAcaNNAcaTAcaTHAcaDAcaDHAcaNAcaPAcaPHAcaBA",
    "caBHAcaMAcaYAcaRAcaLAcaVAcaSHAcaSSAcaSAcaHAcaLLAcaRRAbaVOWEL SIGN AAdaIdaIIdaUdaUUdaVOCALIC R",
    "eaRRdaEdaAIdaOdaAUbaSIGN ANUSVARAcaVISARGAcaVIRAMAcaAVAGRAHAcaSIDDHAMbaHEADSTROKE",
    "baVOWEL SIGN PRISHTHAMATRA EaaZANABAZAR SQUARE LETTER AcaVOWEL SIGN IeaUEeaUeaEeaOEeaOeaAI",
    "eaAUeaREVERSED IdaLENGTH MARKcaLETTER KAdaKHAdaGAdaGHAdaNGAdaCAdaCHAdaJAdaNYAdaTTAdaTTHAdaDDA",
    "daDDHAdaNNAdaTAdaTHAdaDAdaDHAdaNAdaPAdaPHAdaBAdaBHAdaMAdaTSAdaTSHAdaDZAdaDZHAdaZHAdaZAda-A",
    "daYAdaRAdaLAdaVAdaSHAdaSSAdaSAdaHAdaKSSAcaFINAL CONSONANT MARKcaSIGN VIRAMAdaCANDRABINDU",
    "eaWITH ORNAMENTdcCANDRAdaANUSVARAdaVISARGAcaCLUSTER-INITIAL LETTER RA",
    "caCLUSTER-FINAL LETTER YAeaRAeaLAeaVAcaINITIAL HEAD MARKccCLOSINGcaMARK TSHEGdaSHADdbDOUBLE",
    "daLONG TSHEGcaINITIAL DOUBLE-LINED HEAD MARKcdCLOSINGcaSUBJOINERaaSOYOMBO LETTER A",
    "baVOWEL SIGN IdaUEdaUdaEdaOdaOEdaAIdaAUdaVOCALIC ReaLcaLENGTH MARKbaLETTER KAcaKHAcaGAcaGHA",
    "caNGAcaCAcaCHAcaJAcaJHAcaNYAcaTTAcaTTHAcaDDAcaDDHAcaNNAcaTAcaTHAcaDAcaDHAcaNAcaPAcaPHAcaBA",
    "caBHAcaMAcaTSAcaTSHAcaDZAcaZHAcaZAca-AcaYAcaRAcaLAcaVAcaSHAcaSSAcaSAcaHAcaKSSA",
    "baSIGN JIHVAMULIYAcaUPADHMANIYAbaCLUSTER-INITIAL LETTER RAdaLAdaSHAdaSA",
    "baFINAL CONSONANT SIGN GeaKeaNGeaDeaNeaBeaMeaReaLeaSHeaSea-AbaSIGN ANUSVARAcaVISARGA",
    "baGEMINATION MARKbaSUBJOINERbaMARK TSHEGcaSHADcbDOUBLEcaPLUTA",
    "baHEAD MARK WITH MOON AND SUN AND TRIPLE FLAMEibhabaTERMINAL MARK-1caMARK-2",
    "aaCANADIAN SYLLABICS NATTILIK HIdaHIIdaHOdaHOOdaHAdaHAAdaSHRIdaSHRIIdaSHROdaSHROOdaSHRA",
    "daSHRAAcaSPEcaSPIcaSPOcaSPAaaPAU CIN HAU LETTER PAeaKAeaLAeaMAeaDAeaZAeaVAeaNGAeaHAeaGAeaKHA",
    "eaSAeaBAeaCAeaTAeaTHAeaNAeaPHAeaRAeaFAeaCHAeaAeaEeaIeaOeaUeaUAeaIAeaFINAL PfaKfaTfaMfaNfaLfaW",
    "faNGfaYdaRISING TONE LONGfadaSANDHI GLOTTAL STOPdaRISING TONE LONG FINALfb",
    "dbSANDHI GLOTTAL STOPeaTONE LONGfafaLONG FINALfbdaMID-LEVEL TONEdaGLOTTAL STOP VARIANT",
    "daMID-LEVEL TONE LONG FINALfbdaLOW-FALLING TONE LONGfadaGLOTTAL STOP",
    "daLOW-FALLING TONE LONG FINALfbdbGLOTTAL STOPaaBHAIKSUKI LETTER AcaAAcaIcaIIcaUcaUU",
    "caVOCALIC RdaRRdaLcaEcaAIcaOcaAUcaKAcaKHAcaGAcaGHAcaNGAcaCAcaCHAcaJAcaJHAcaNYAcaTTAcaTTHA",
    "caDDAcaDDHAcaNNAcaTAcaTHAcaDAcaDHAcaNAcaPAcaPHAcaBAcaBHAcaMAcaYAcaRAcaLAcaVAcaSHAcaSSAcaSA",
    "caHAbaVOWEL SIGN AAdaIdaIIdaUdaUUdaVOCALIC ReaRReaLdaEdaAIdaOdaAUbaSIGN CANDRABINDUcaANUSVARA",
    "caVISARGAcaVIRAMAcaAVAGRAHAbaDANDAbbDOUBLEbaWORD SEPARATORbaGAP FILLER-1caFILLER-2",
    "baDIGIT ZEROcaONEcaTWOcaTHREEcaFOURcaFIVEcaSIXcaSEVENcaEIGHTcaNINEbaNUMBER ONEcaTWOcaTHREE",
    "caFOURcaFIVEcaSIXcaSEVENcaEIGHTcaNINEcaTENcaTWENTYcaTHIRTYcaFORTYcaFIFTYcaSIXTYcaSEVENTY",
    "caEIGHTYcaNINETYbaHUNDREDS UNIT MARKabMARCHEN HEADbaMARK SHADbaLETTER KAcaKHAcaGAcaNGAcaCA",
    "caCHAcaJAcaNYAcaTAcaTHAcaDAcaNAcaPAcaPHAcaBAcaMAcaTSAcaTSHAcaDZAcaWAcaZHAcaZAca-AcaYAcaRAcaLA",
    "caSHAcaSAcaHAcaAbaSUBJOINED LETTER KAdaKHAdaGAdaNGAdaCAdaCHAdaJAdaNYAdaTAdaTHAdaDAdaNAdaPA",
    "daPHAdaBAdaMAdaTSAdaTSHAdaDZAdaWAdaZHAdaZAdaYAdaRAdaLAdaSHAdaSAdaHAdaAbaVOWEL SIGN AAdaIdaU",
    "daEdaObaSIGN ANUSVARAcaCANDRABINDUaaMASARAM GONDI LETTER AdaAAdaIdaIIdaUdaUUdaEdaAIdaOdaAU",
    "daKAdaKHAdaGAdaGHAdaNGAdaCAdaCHAdaJAdaJHAdaNYAdaTTAdaTTHAdaDDAdaDDHAdaNNAdaTAdaTHAdaDAdaDHA",
    "daNAdaPAdaPHAdaBAdaBHAdaMAdaYAdaRAdaLAdaVAdaSHAdaSSAdaSAdaHAdaLLAdaKSSAdaJNYAdaTRA",
    "caVOWEL SIGN AAeaIeaIIeaUeaUUeaVOCALIC ReaEeaAIeaOeaAUcaSIGN ANUSVARAdaVISARGAdaNUKTAdaCANDRA",
    "daHALANTAcaVIRAMAcaREPHAcaRA-KARAcaDIGIT ZEROdaONEdaTWOdaTHREEdaFOURdaFIVEdaSIXdaSEVENdaEIGHT",
    "daNINEaaGUNJALA GONDI LETTER AdaAAdaIdaIIdaUdaUUdaEEdaAIdaOOdaAUdaYAdaVAdaBAdaBHAdaMAdaKA",
    "daKHAdaTAdaTHAdaLAdaGAdaGHAdaDAdaDHAdaNAdaCAdaCHAdaTTAdaTTHAdaLLAdaJAdaJHAdaDDAdaDDHAdaNGA",
    "daPAdaPHAdaHAdaRAdaSAcaVOWEL SIGN AAeaIeaIIeaUeaUUeaEEeaAIeaOOeaAUcaSIGN ANUSVARAdaVISARGA",
    "caVIRAMAcaOMcaDIGIT ZEROdaONEdaTWOdaTHREEdaFOURdaFIVEdaSIXdaSEVENdaEIGHTdaNINE",
    "aaMAKASAR LETTER KAcaGAcaNGAcaPAcaBAcaMAcaTAcaDAcaNAcaCAcaJAcaNYAcaYAcaRAcaLAcaVAcaSAcaA",
    "baANGKAbaVOWEL SIGN IdaUdaEdaObaPASSIMBANGbaEND OF SECTIONaaLISU LETTER YHA",
    "aaTAMIL FRACTION ONE THREE-HUNDRED-AND-TWENTIETHdaONE-HUNDRED-AND-SIXTIETHdaEIGHTIETH",
    "daSIXTY-FOURTHdaFORTIETHdaTHIRTY-SECONDcaTHREE EIGHTIETHSdaSIXTY-FOURTHScaONE TWENTIETH",
    "daSIXTEENTH-1daSIXTEENTH-2daTENTHdaEIGHTHcaTHREE TWENTIETHSdaSIXTEENTHScaONE FIFTHdaQUARTER",
    "daHALF-1daHALF-2caTHREE QUARTERScaDOWNSCALING FACTOR KIIZHbaSIGN NELcaCEVITUcaAAZHAAKKU",
    "caUZHAKKUcaMUUVUZHAKKUcaKURUNIcaPATHAKKUcaMUKKURUNIcaKAACUcaPANAMcaPONcaVARAAKANcaPAARAM",
    "caKUZHIcaVELIbaWET CULTIVATION SIGNbcDRYbbLANDbbSALT PANbbTRADITIONAL CREDITcbNUMBERbbCURRENT",
    "bbAND ODDbbSPENTbbTOTALbbIN POSSESSIONbbSTARTING FROMbaSIGN MUTHALIYAcaVAKAIYARAA",
    "baPUNCTUATION END OF TEXTaaCUNEIFORM SIGN AdaTIMES AeaBADeaGAN2 TENUeaHAeaIGIeaLAGAR GUNU",
    "eaMUSHeaSAGcaA2caABdaTIMES ASH2eaDUN3 GUNUeaGALeaGAN2 TENUeaHAeaIGI GUNUeaIMINeaLAGABeaSHESH",
    "eaU PLUS U PLUS UdaGUNUcaAB2daTIMES BALAGeaGAN2 TENUeaME PLUS ENeaSHA3eaTAK4caADcaAK",
    "daTIMES ERIN2eaSHITA PLUS GISHcaALdaTIMES ALeaDIM2eaGISHeaHAeaKAD3eaKIeaSHEeaUSHcaALANcaALEPH",
    "caAMARdaTIMES SHEcaANdaOVER ANdaTHREE TIMESdaPLUS NAGA OPPOSING AN PLUS NAGAfaSQUAREDcaANSHE",
    "caAPINcaARADdaTIMES KURcaARKABcaASAL2caASHdaZIDA TENUdbKABA",
    "daOVER ASH TUG2 OVER TUG2 TUG2 OVER TUG2 PAPfaOVER ASHhaCROSSING ASH OVER ASH OVER ASHcaASH2",
    "caASHGABcaBAcaBADcaBAG3caBAHAR2caBALdaOVER BALcaBALAGcaBARcaBARA2caBIdaTIMES AeaGAReaIGI GUNU",
    "caBUdaOVER BU ABfaUNdaCROSSING BUcaBULUGdaOVER BULUGcaBURcaBUR2caDAcaDAG",
    "daKISIM5 TIMES A PLUS MASHfaAMARfaBALAGfaBIfaGAgaPLUS MASHfaGIfaGIR2faGUDfaHAfaIRgaPLUS LU",
    "faKAKfaLAfaLUgaPLUS MASH2faLUMfaNEfaPAP PLUS PAPfaSIfaTAK4faU2 PLUS GIR2faUSHcaDAMcaDAR",
    "caDARA3caDARA4caDIcaDIBcaDIMdaTIMES SHEcaDIM2caDINdaKASKAL U GUNU DISHcbcaDUdaOVER DUdaGUNU",
    "daSHESHIGcaDUBdaTIMES ESH2caDUB2caDUGcaDUGUDcaDUHcaDUNcaDUN3daGUNUeaGUNUcaDUN4caDUR2caE",
    "daTIMES PAPdaOVER E NUN OVER NUNcaE2daTIMES A PLUS HA PLUS DAeaGAReaMIeaSALeaSHEeaUcaEDIN",
    "caEGIRcaELcaENdaTIMES GAN2faTENUeaMEdaCROSSING ENdbOPPOSINGdaSQUAREDcaERENcaERIN2caESH2caEZEN",
    "daTIMES AfaPLUS LALhaTIMES LALeaANeaBADeaDUN3 GUNUgaGUNUeaHAfaGUNUebIGIeaKASKALfaSQUAREDeaKU3",
    "eaLAeaLAL TIMES LALeaLIeaLUeaU2eaUDcaGAdaGUNUcaGA2daTIMES A PLUS DA PLUS HAgbgaIGI",
    "eaAB2 TENU PLUS TABeaANeaASHeaASH2 PLUS GALeaBADeaBAR PLUS RAeaBURfaPLUS RAeaDAeaDI",
    "eaDIM TIMES SHEeaDUBeaELfaPLUS LAeaENfaTIMES GAN2 TENUeceaGAReaGIeaGI4faPLUS AeaGIR2 PLUS SU",
    "eaHA PLUS LU PLUS ESH2eaHALfaPLUS LAeaHI PLUS LIeaHUB2eaIGI GUNUeaISH PLUS HU PLUS ASHeaKAK",
    "eaKASKALeaKIDfaPLUS LALeaKU3 PLUS ANeaLAeaME PLUS ENeaMIeaNUNfaOVER NUNeaPAeaSALeaSAReaSHE",
    "faPLUS TUReaSHIDeaSUMeaTAK4eaUeaUDfaPLUS DUdaOVER GA2caGABAdaCROSSING GABAcaGAD",
    "daOVER GAD GAR OVER GARcaGALdaGAD OVER GAD GAR OVER GARcaGALAMcaGAMcaGANcaGAN2daTENU",
    "daOVER GAN2dbCROSSINGcaGARcaGAR3caGASHANcaGESHTINdaTIMES KURcaGIdaTIMES EeaUdaCROSSING GI",
    "caGI4daOVER GI4dbCROSSINGcaGIDIMcaGIR2daGUNUcaGIR3daTIMES A PLUS IGIeaGAN2 TENUeaIGIebLU PLUS",
    "eaPAcaGISALcaGISHdaCROSSING GISHdaTIMES BADeaTAK4daTENUcaGUdaCROSSING GUcaGU2daTIMES KAK",
    "faTIMES IGI GUNUeaNUNeaSAL PLUS TUG2daGUNUcaGUDdaTIMES A PLUS KURebdaOVER GUD LUGALcaGULcaGUM",
    "daTIMES SHEcaGURcaGUR7caGURUNcaGURUSHcaHAdaTENUdaGUNUcaHALcaHIdaTIMES ASHeaASH2eaBADeaDISH",
    "eaGADeaKINeaNUNeaSHEeaUcaHUcaHUB2daTIMES ANeaHALeaKASKALeaLISHeaUDcaHUL2caIdaAcaIBcaIDIM",
    "daOVER IDIM BURfaSQUAREDcaIGcaIGIdaDIBdaRIdaOVER IGI SHIR OVER SHIR UD OVER UDdaGUNUcaIL",
    "daTIMES GAN2 TENUcaIL2caIMdaTIMES TAK4daCROSSING IMdbOPPOSINGdaSQUAREDcaIMINcaINcaIRcaISHcaKA",
    "daTIMES AeaADfaPLUS KU3eaASH2eaBADeaBALAGeaBAReaBIeaERIN2eaESH2eaGAeaGALeaGAN2 TENUeaGAR",
    "faPLUS SHA3 PLUS AeaGIeaGIR2eaGISH PLUS SARfaCROSSING GISHeaGUeaGUR7eaIGIeaIMeaKAKeaKIeaKID",
    "eaLIeaLUeaMEfaPLUS DUgaGIgaTEeaMIfaPLUS NUNUZeaNEeaNUNeaPIeaRUeaSAeaSAReaSHAeaSHEeaSHIDeaSHU",
    "eaSIGeaSUHUReaTAReaUeaU2eaUDeaUMUM TIMES PAeaUSHeaZIcaKA2daCROSSING KA2caKABcaKAD2caKAD3",
    "caKAD4caKAD5daOVER KAD5caKAKdaTIMES IGI GUNUcaKALdaTIMES BADdaCROSSING KALcaKAM2caKAM4",
    "caKASKALdaLAGAB TIMES U OVER LAGAB TIMES UdhOVER KASKALcaKESH2caKIdaTIMES BADeaUeaUDcaKID",
    "caKINcaKISALcaKISHcaKISIM5daOVER KISIM5caKUdaOVER HI TIMES ASH2 KU OVER HI TIMES ASH2caKU3",
    "caKU4daVARIANT FORMcaKU7caKULdaGUNUcaKUNcaKURdaOPPOSING KURcaKUSHU2caKWU318caLAcaLAGAB",
    "daTIMES AfaPLUS DA PLUS HAgaGARgaLALeaALeaANeaASH ZIDA TENUeaBADeaBIeaDAReaENeaGAeaGAReaGUD",
    "faPLUS GUDeaHAeaHALeaHI TIMES NUNeaIGI GUNUeaIMfaPLUS HAgaLUeaKIeaKINeaKU3eaKUL",
    "faPLUS HI PLUS AeaLAGABeaLISHeaLUeaLULeaMEfaPLUS ENeaMUSHeaNEeaSHE PLUS SUM",
    "eaSHITA PLUS GISH PLUS ERIN2haTENUeaSHU2faPLUS SHU2eaSUMeaTAGeaTAK4",
    "eaTE PLUS A PLUS SU PLUS NAeaUfaPLUS AgaU PLUS UeaU2 PLUS ASHeaUDeaUSHdaSQUAREDcaLAGAR",
    "daTIMES SHEfaPLUS SUMdaGUNUeaOVER LAGAR GUNU SHEcaLAHSHUcaLALdaTIMES LALcaLAMdaTIMES KUR",
    "faPLUS RUcaLIcaLILcaLIMMU2caLISHcaLUdaTIMES BADcaLU2daTIMES ALeaBADeaESH2faTENUebGAN2",
    "eaHI TIMES BADeaIMeaKAD2eaKAD3faPLUS ASHeaKIeaLA PLUS ASHeaLAGABeaME PLUS ENeaNEeaNU",
    "eaSI PLUS ASHeaSIK2 PLUS BUeaTUG2daTENUdaCROSSING LU2dbOPPOSINGdaSQUAREDdaSHESHIGcaLU3caLUGAL",
    "daOVER LUGALdbOPPOSINGdaSHESHIGcaLUHcaLULcaLUMdaOVER LUMfaGAR OVER GARcaMAdaTIMES TAK4daGUNU",
    "caMA2caMAHcaMARcaMASHcaMASH2caMEcaMEScaMIcaMINcaMUdaOVER MUcaMUGdaGUNUcaMUNSUBcaMURGU2caMUSH",
    "daTIMES AeaKUReaZAdaOVER MUSHfaTIMES A PLUS NAdaCROSSING MUSHcaMUSH3daTIMES AfaPLUS DIeb",
    "daGUNUcaNAcaNA2caNAGAdaINVERTEDdaTIMES SHU TENUdaOPPOSING NAGAcaNAGARcaNAM NUTILLUdacaNAM2",
    "caNEdaTIMES AeaUDdaSHESHIGcaNIdaTIMES EcaNI2caNIMdaTIMES GAN2 TENUecGAR PLUScaNINDA2",
    "daTIMES ANeaASHfaPLUS ASHeaGUDeaME PLUS GAN2 TENUeaNEeaNUNeaSHEfaPLUS A ANgaASHhaPLUS ASHecU2",
    "eaUSHcaNISAGcaNUcaNU11caNUNdaLAGAR TIMES GARfaMASHfaSALgaOVER NUN LAGAR TIMES SALfaUSHdaTENU",
    "daOVER NUNdbCROSSINGfaLAGAR OVER LAGARcaNUNUZdaAB2 TIMES ASHGABfaBIfaDUGfaGUDfaIGI GUNUfaKAD3",
    "faLAfaNEfaSILA3faU2daKISIM5 TIMES BIgaUcaPAcaPADcaPANcaPAPcaPESH2caPIdaTIMES AeaABeaBIeaBUeaE",
    "eaIeaIBeaUeaU2daCROSSING PIcaPIRIGdaTIMES KALeaUDeaZAdaOPPOSING PIRIGcaRAcaRABcaRIcaRUcaSA",
    "caSAG NUTILLUdadaTIMES AeaDUeaDUBeaHAeaKAKeaKUReaLUMeaMIeaNUNeaSALeaSHIDeaTABeaU2eaUBeaUMeaUR",
    "eaUSHdaOVER SAGdaGUNUcaSALdaLAGAB TIMES ASH2caSANGA2caSARcaSHAcaSHA3daTIMES AeaBADeaGISHeaNE",
    "eaSHU2eaTUReaUfaPLUS AcaSHA6caSHAB6caSHAR2caSHEdaHUdaOVER SHE GAD OVER GAD GAR OVER GAR",
    "fdTAB OVER TABcaSHEG9caSHENcaSHESHcaSHESH2caSHESHLAMcaSHIDdaTIMES AeaIMcaSHIMdaTIMES AeaBAL",
    "eaBULUGeaDINeaGAReaIGIfaGUNUeaKUSHU2eaLULeaMUGeaSALcaSHINIGcaSHIRdaTENU",
    "daOVER SHIR BUR OVER BURcaSHITAcaSHUdaOVER INVERTED SHUcaSHU2caSHUBURcaSIdaGUNUcaSIGcaSIG4",
    "daOVER SIG4 SHU2caSIK2caSILA3caSUdaOVER SUcaSUDcaSUD2caSUHURcaSUMcaSUMASHcaSURcaSUR9caTA",
    "daASTERISKdaTIMES HIeaMIdaGUNUcaTABdaOVER TAB NI OVER NI DISH OVER DISHdaSQUAREDcaTAG",
    "daTIMES BIeaGUDeaSHEeaSHUeaTUG2eaUDcaTAK4caTARcaTEdaGUNUcaTIdaTENUcaTILcaTIRdaTIMES TAK4",
    "daOVER TIRfaGAD OVER GAD GAR OVER GARcaTUcaTUG2caTUKcaTUMcaTURdaOVER TUR ZA OVER ZAcaUdaGUD",
    "daU UdaOVER U PA OVER PA GAR OVER GARfaSUR OVER SURfaU REVERSED OVER U REVERSEDcaU2caUBcaUD",
    "daKUSHU2daTIMES BADeaMIeaU PLUS U PLUS UjaGUNUdbdaSHESHIGeaTIMES BADcaUDUGcaUMdaTIMES LAGAB",
    "eaME PLUS DAeaSHA3eaUcaUMBINcaUMUMdaTIMES KASKALeaPAcaUNdaGUNUcaURdaCROSSING URdaSHESHIGcaUR2",
    "daTIMES A PLUS HAgaNAeaALeaHAeaNUNeaU2faPLUS ASHgaBIcaUR4caURIcaURI3caURUdaTIMES AeaASHGAB",
    "eaBAReaDUNeaGAeaGALeaGAN2 TENUeaGAReaGUeaHAeaIGIeaIMeaISHeaKIeaLUMeaMINeaPAeaSHEeaSIG4eaTU",
    "eaU PLUS GUDeaUDeaURUDAcbdaTIMES UcaUSHdaTIMES AeaKUeaKUReaTAK4caUSHXcaUSH2caUSHUMXcaUTUKI",
    "caUZ3daTIMES KASKALcaUZUcaZAdaTENUdaSQUARED TIMES KURcaZAGcaZAMXcaZE2caZIdaOVER ZIcaZI3caZIB",
    "daKABA TENUcaZIGcaZIZ2caZUcaZU5daTIMES AcaZUBURcaZUMcaKAP ELAMITEcaAB TIMES NUNcaAB2 TIMES A",
    "caAMAR TIMES KUGcaDAG KISIM5 TIMES U2 PLUS MASHcaDAG3caDISH PLUS SHUcaDUB TIMES SHE",
    "caEZEN TIMES GUDeaSHEcaGA2 TIMES AN PLUS KAK PLUS AeaASH2caGE22caGIGcaHUSHcaKA TIMES ANSHE",
    "eaASH3eaGISHeaGUDeaHI TIMES ASH2eaLUMeaPAeaSHULeaTUeaUR2caLAGAB TIMES GI",
    "caLU2 SHESHIG TIMES BADdaTIMES ESH2 PLUS LALeaSHUcaMESHcaMUSH3 TIMES ZAcaNA4caNINcaNIN9",
    "caNINDA2 TIMES BALeaGIcaNU11 ROTATED NINETY DEGREEScaPESH2 ASTERISKcaPIR2caSAG TIMES IGI GUNU",
    "caTI2caUM TIMES MEcaU UbaNUMERIC SIGN TWO ASHdbTHREEdbFOURdbFIVEdbSIXdbSEVENdbEIGHTdbNINE",
    "daTHREE DISHdbFOURdbFIVEdbSIXdbSEVENdbEIGHTdbNINEdaFOUR UdbFIVEdbSIXdbSEVENdbEIGHTdbNINE",
    "daONE GESH2dbTWOdbTHREEdbFOURdbFIVEdbSIXdbSEVENdbEIGHTdbNINEdaONE GESHUdbTWOdbTHREEdbFOUR",
    "dbFIVEdaTWO SHAR2dbTHREEfaVARIANT FORMdaFOUR SHAR2dbFIVEdbSIXdbSEVENdbEIGHTdbNINEdaONE SHARU",
    "dbTWOdbTHREEfaVARIANT FORMdaFOUR SHARUdbFIVEdaSHAR2 TIMES GAL PLUS DISHhaMINdaONE BURUdbTWO",
    "dbTHREEfaVARIANT FORMdaFOUR BURUdbFIVEdaTHREE VARIANT FORM ESH16gaESH21",
    "daFOUR VARIANT FORM LIMMUgaLIMMU4gaLIMMU AhaBdaSIX VARIANT FORM ASH9",
    "daSEVEN VARIANT FORM IMIN3gaIMIN AhaBdaEIGHT VARIANT FORM USSUgaUSSU3",
    "daNINE VARIANT FORM ILIMMUgaILIMMU3gaILIMMU4gaILIMMU AdaTWO ASH TENUdcTHREEdcFOURdcFIVEdcSIX",
    "daONE BAN2dbTWOdbTHREEdbFOURfaVARIANT FORMdaFIVE BAN2faVARIANT FORMdaNIGIDAMINdaNIGIDAESH",
    "daONE ESHE3dbTWOdaONE THIRD DISHdbTWO THIRDSdbFIVE SIXTHSdaONE THIRD VARIANT FORM A",
    "ddTWO THIRDSdaONE EIGHTH ASHebQUARTERdaOLD ASSYRIAN ONE SIXTHgaQUARTERdaONE QUARTER GURebHALF",
    "daELAMITE ONE THIRDeaTWO THIRDSeaFORTYeaFIFTYdaFOUR U VARIANT FORMddFIVEddSIXddSEVENddEIGHT",
    "ddNINEbaPUNCTUATION SIGN OLD ASSYRIAN WORD DIVIDERdaVERTICAL COLONdbDIAGONALeaTRICOLON",
    "eaQUADCOLONbaSIGN AB TIMES NUN TENUeaSHU2caAD TIMES ESH2caBAD TIMES DISH TENU",
    "caBAHAR2 TIMES AB2eaNIeaZAcaBU OVER BU TIMES NA2caDA TIMES TAK4caDAG TIMES KURcaDIM TIMES IGI",
    "eaU U UcaDIM2 TIMES UDcaDUG TIMES ANSHEeaASHfaAT LEFTeaDINeaDUNeaERIN2eaGAeaGIeaGIR2 GUNU",
    "eaGISHeaHAeaHIeaIGI GUNUeaKASKALeaKUReaKUSHU2faPLUS KASKALeaLAK-020eaLAMfaTIMES KUR",
    "eaLUH PLUS GISHeaMASHeaMESeaMIeaNIeaPIeaSHEeaSI GUNUcaE2 TIMES KUReaPAPcaERIN2 X",
    "caESH2 CROSSING ESH2caEZEN SHESHIG TIMES ASHfaHIfaIGI GUNUfaLAfaLALfaMEfaMESfaSUdc",
    "caGA2 TIMES BAHAR2eaDIM GUNUebDUG TIMES IGIgaKASKALeaERENeaGAeaGAR PLUS DIgaNEeaHA PLUS A",
    "eaKUSHU2 PLUS KASKALeaLAMfaTIMES KUReaLUHeaMUSHeaNEfaPLUS E2gaGIeaSHIMeaZIZ2",
    "caGABA ROTATED NINETY DEGREEScaGESHTIN TIMES UcaGISH TIMES GISH CROSSING GISH",
    "caGU2 TIMES IGI GUNUcaGUD PLUS GISH TIMES TAK4caHA TENU GUNUcaHI TIMES ASH OVER HI TIMES ASH",
    "caKA TIMES BUeaKAeaU U UeaURcaLAGAB TIMES ZU OVER ZUcaLAK-003caLAK-021caLAK-025caLAK-030",
    "caLAK-050caLAK-051caLAK-062caLAK-079 OVER LAK-079 GUNUcaLAK-080caLAK-081 OVER LAK-081",
    "caLAK-092caLAK-130caLAK-142caLAK-210caLAK-219caLAK-220caLAK-225caLAK-228caLAK-238caLAK-265",
    "caLAK-266caLAK-343caLAK-347caLAK-348caLAK-383caLAK-384caLAK-390caLAK-441caLAK-449daTIMES GU",
    "eaIGIeaPAP PLUS LU3gbPAP PLUSeaU2 PLUS BAcaLAK-450caLAK-457caLAK-470caLAK-483caLAK-490",
    "caLAK-492caLAK-493caLAK-495caLAK-550caLAK-608caLAK-617daTIMES ASHeaBADeaDUN3 GUNU GUNUeaKU3",
    "eaLAeaTAReaTEeaU2eaUDeaURUDAcaLAK-636caLAK-648daTIMES DUBeaGAeaIGIfaGUNUeaNI",
    "eaPAP PLUS PAP PLUS LU3eaSHESH PLUS KIeaUDeaURUDAcaLAK-724caLAK-749caLU2 GUNU TIMES ASH",
    "daTIMES DISHeaHALeaPAPfaPLUS PAP PLUS LU3eaTAK4caMI PLUS ZA7caMUSH OVER MUSH TIMES GAgaKAK",
    "caNINDA2 TIMES DIM GUNUeaGISHeaGULeaHIeaKESH2eaLAK-050eaMASHeaPAP PLUS PAPeaUfaPLUS UeaURUDA",
    "caSAG GUNU TIMES HAdaTIMES ENeaSHE AT LEFTeaTAK4caSHA6 TENUcaSHE OVER SHEdaPLUS HUB2eaNAM2",
    "eaSARcaSHU2 PLUS DUG TIMES NIeaE2 TIMES ANcaSI TIMES TAK4caTAK4 PLUS SAGcaTUM TIMES GAN2 TENU",
    "eaTHREE DISHcaUR2 INVERTEDdaTIMES UDcaURU TIMES DARA3eaLAK-668eaLU3caZA7caZU OVER ZU PLUS SAR",
    "caZU5 TIMES THREE DISH TENUaaCYPRO-MINOAN SIGN CM001caCM002caCM004caCM005caCM006caCM007",
    "caCM008caCM009caCM010caCM011caCM012caCM012BcaCM013caCM015caCM017caCM019caCM021caCM023caCM024",
    "caCM025caCM026caCM027caCM028caCM029caCM030caCM033caCM034caCM035caCM036caCM037caCM038caCM039",
    "caCM040caCM041caCM044caCM046caCM047caCM049caCM050caCM051caCM052caCM053caCM054caCM055caCM056",
    "caCM058caCM059caCM060caCM061caCM062caCM063caCM064caCM066caCM067caCM068caCM069caCM070caCM071",
    "caCM072caCM073caCM074caCM075caCM075BcaCM076caCM078caCM079caCM080caCM081caCM082caCM083caCM084",
    "caCM085caCM086caCM087caCM088caCM089caCM090caCM091caCM092caCM094caCM095caCM096caCM097caCM098",
    "caCM099caCM100caCM101caCM102caCM103caCM104caCM105caCM107caCM108caCM109caCM110caCM112caCM114",
    "caCM301caCM302aaEGYPTIAN HIEROGLYPH A001caA002caA003caA004caA005caA005AcaA006caA006AcaA006B",
    "caA007caA008caA009caA010caA011caA012caA013caA014caA014AcaA015caA016caA017caA017AcaA018caA019",
    "caA020caA021caA022caA023caA024caA025caA026caA027caA028caA029caA030caA031caA032caA032AcaA033",
    "caA034caA035caA036caA037caA038caA039caA040caA040AcaA041caA042caA042AcaA043caA043AcaA044caA045",
    "caA045AcaA046caA047caA048caA049caA050caA051caA052caA053caA054caA055caA056caA057caA058caA059",
    "caA060caA061caA062caA063caA064caA065caA066caA067caA068caA069caA070caB001caB002caB003caB004",
    "caB005caB005AcaB006caB007caB008caB009caC001caC002caC002AcaC002BcaC002CcaC003caC004caC005",
    "caC006caC007caC008caC009caC010caC010AcaC011caC012caC013caC014caC015caC016caC017caC018caC019",
    "caC020caC021caC022caC023caC024caD001caD002caD003caD004caD005caD006caD007caD008caD008AcaD009",
    "caD010caD011caD012caD013caD014caD015caD016caD017caD018caD019caD020caD021caD022caD023caD024",
    "caD025caD026caD027caD027AcaD028caD029caD030caD031caD031AcaD032caD033caD034caD034AcaD035caD036",
    "caD037caD038caD039caD040caD041caD042caD043caD044caD045caD046caD046AcaD047caD048caD048AcaD049",
    "caD050caD050AcaD050BcaD050CcaD050DcaD050EcaD050FcaD050GcaD050HcaD050IcaD051caD052caD052A",
    "caD053caD054caD054AcaD055caD056caD057caD058caD059caD060caD061caD062caD063caD064caD065caD066",
    "caD067caD067AcaD067BcaD067CcaD067DcaD067EcaD067FcaD067GcaD067HcaE001caE002caE003caE004caE005",
    "caE006caE007caE008caE008AcaE009caE009AcaE010caE011caE012caE013caE014caE015caE016caE016AcaE017",
    "caE017AcaE018caE019caE020caE020AcaE021caE022caE023caE024caE025caE026caE027caE028caE028AcaE029",
    "caE030caE031caE032caE033caE034caE034AcaE036caE037caE038caF001caF001AcaF002caF003caF004caF005",
    "caF006caF007caF008caF009caF010caF011caF012caF013caF013AcaF014caF015caF016caF017caF018caF019",
    "caF020caF021caF021AcaF022caF023caF024caF025caF026caF027caF028caF029caF030caF031caF031AcaF032",
    "caF033caF034caF035caF036caF037caF037AcaF038caF038AcaF039caF040caF041caF042caF043caF044caF045",
    "caF045AcaF046caF046AcaF047caF047AcaF048caF049caF050caF051caF051AcaF051BcaF051CcaF052caF053",
    "caG001caG002caG003caG004caG005caG006caG006AcaG007caG007AcaG007BcaG008caG009caG010caG011",
    "caG011AcaG012caG013caG014caG015caG016caG017caG018caG019caG020caG020AcaG021caG022caG023caG024",
    "caG025caG026caG026AcaG027caG028caG029caG030caG031caG032caG033caG034caG035caG036caG036AcaG037",
    "caG037AcaG038caG039caG040caG041caG042caG043caG043AcaG044caG045caG045AcaG046caG047caG048caG049",
    "caG050caG051caG052caG053caG054caH001caH002caH003caH004caH005caH006caH006AcaH007caH008caI001",
    "caI002caI003caI004caI005caI005AcaI006caI007caI008caI009caI009AcaI010caI010AcaI011caI011A",
    "caI012caI013caI014caI015caK001caK002caK003caK004caK005caK006caK007caK008caL001caL002caL002A",
    "caL003caL004caL005caL006caL006AcaL007caL008caM001caM001AcaM001BcaM002caM003caM003AcaM004",
    "caM005caM006caM007caM008caM009caM010caM010AcaM011caM012caM012AcaM012BcaM012CcaM012DcaM012E",
    "caM012FcaM012GcaM012HcaM013caM014caM015caM015AcaM016caM016AcaM017caM017AcaM018caM019caM020",
    "caM021caM022caM022AcaM023caM024caM024AcaM025caM026caM027caM028caM028AcaM029caM030caM031",
    "caM031AcaM032caM033caM033AcaM033BcaM034caM035caM036caM037caM038caM039caM040caM040AcaM041",
    "caM042caM043caM044caN001caN002caN003caN004caN005caN006caN007caN008caN009caN010caN011caN012",
    "caN013caN014caN015caN016caN017caN018caN018AcaN018BcaN019caN020caN021caN022caN023caN024caN025",
    "caN025AcaN026caN027caN028caN029caN030caN031caN032caN033caN033AcaN034caN034AcaN035caN035A",
    "caN036caN037caN037AcaN038caN039caN040caN041caN042caNL001caNL002caNL003caNL004caNL005caNL005A",
    "caNL006caNL007caNL008caNL009caNL010caNL011caNL012caNL013caNL014caNL015caNL016caNL017caNL017A",
    "caNL018caNL019caNL020caNU001caNU002caNU003caNU004caNU005caNU006caNU007caNU008caNU009caNU010",
    "caNU010AcaNU011caNU011AcaNU012caNU013caNU014caNU015caNU016caNU017caNU018caNU018AcaNU019",
    "caNU020caNU021caNU022caNU022AcaO001caO001AcaO002caO003caO004caO005caO005AcaO006caO006AcaO006B",
    "caO006CcaO006DcaO006EcaO006FcaO007caO008caO009caO010caO010AcaO010BcaO010CcaO011caO012caO013",
    "caO014caO015caO016caO017caO018caO019caO019AcaO020caO020AcaO021caO022caO023caO024caO024AcaO025",
    "caO025AcaO026caO027caO028caO029caO029AcaO030caO030AcaO031caO032caO033caO033AcaO034caO035",
    "caO036caO036AcaO036BcaO036CcaO036DcaO037caO038caO039caO040caO041caO042caO043caO044caO045",
    "caO046caO047caO048caO049caO050caO050AcaO050BcaO051caP001caP001AcaP002caP003caP003AcaP004",
    "caP005caP006caP007caP008caP009caP010caP011caQ001caQ002caQ003caQ004caQ005caQ006caQ007caR001",
    "caR002caR002AcaR003caR003AcaR003BcaR004caR005caR006caR007caR008caR009caR010caR010AcaR011",
    "caR012caR013caR014caR015caR016caR016AcaR017caR018caR019caR020caR021caR022caR023caR024caR025",
    "caR026caR027caR028caR029caS001caS002caS002AcaS003caS004caS005caS006caS006AcaS007caS008caS009",
    "caS010caS011caS012caS013caS014caS014AcaS014BcaS015caS016caS017caS017AcaS018caS019caS020caS021",
    "caS022caS023caS024caS025caS026caS026AcaS026BcaS027caS028caS029caS030caS031caS032caS033caS034",
    "caS035caS035AcaS036caS037caS038caS039caS040caS041caS042caS043caS044caS045caS046caT001caT002",
    "caT003caT003AcaT004caT005caT006caT007caT007AcaT008caT008AcaT009caT009AcaT010caT011caT011A",
    "caT012caT013caT014caT015caT016caT016AcaT017caT018caT019caT020caT021caT022caT023caT024caT025",
    "caT026caT027caT028caT029caT030caT031caT032caT032AcaT033caT033AcaT034caT035caT036caU001caU002",
    "caU003caU004caU005caU006caU006AcaU006BcaU007caU008caU009caU010caU011caU012caU013caU014caU015",
    "caU016caU017caU018caU019caU020caU021caU022caU023caU023AcaU024caU025caU026caU027caU028caU029",
    "caU029AcaU030caU031caU032caU032AcaU033caU034caU035caU036caU037caU038caU039caU040caU041caU042",
    "caV001caV001AcaV001BcaV001CcaV001DcaV001EcaV001FcaV001GcaV001HcaV001IcaV002caV002AcaV003",
    "caV004caV005caV006caV007caV007AcaV007BcaV008caV009caV010caV011caV011AcaV011BcaV011CcaV012",
    "caV012AcaV012BcaV013caV014caV015caV016caV017caV018caV019caV020caV020AcaV020BcaV020CcaV020D",
    "caV020EcaV020FcaV020GcaV020HcaV020IcaV020JcaV020KcaV020LcaV021caV022caV023caV023AcaV024caV025",
    "caV026caV027caV028caV028AcaV029caV029AcaV030caV030AcaV031caV031AcaV032caV033caV033AcaV034",
    "caV035caV036caV037caV037AcaV038caV039caV040caV040AcaW001caW002caW003caW003AcaW004caW005caW006",
    "caW007caW008caW009caW009AcaW010caW010AcaW011caW012caW013caW014caW014AcaW015caW016caW017",
    "caW017AcaW018caW018AcaW019caW020caW021caW022caW023caW024caW024AcaW025caX001caX002caX003caX004",
    "caX004AcaX004BcaX005caX006caX006AcaX007caX008caX008AcaY001caY001AcaY002caY003caY004caY005",
    "caY006caY007caY008caZ001caZ002caZ002AcaZ002BcaZ002CcaZ002DcaZ003caZ003AcaZ003BcaZ004caZ004A",
    "caZ005caZ005AcaZ006caZ007caZ008caZ009caZ010caZ011caZ012caZ013caZ014caZ015caZ015AcaZ015B",
    "caZ015CcaZ015DcaZ015EcaZ015FcaZ015GcaZ015HcaZ015IcaZ016caZ016AcaZ016BcaZ016CcaZ016DcaZ016E",
    "caZ016FcaZ016GcaZ016HcaAA001caAA002caAA003caAA004caAA005caAA006caAA007caAA007AcaAA007BcaAA008",
    "caAA009caAA010caAA011caAA012caAA013caAA014caAA015caAA016caAA017caAA018caAA019caAA020caAA021",
    "caAA022caAA023caAA024caAA025caAA026caAA027caAA028caAA029caAA030caAA031caAA032",
    "caVERTICAL JOINERcbHORIZONTALcaINSERT AT TOP STARTebBOTTOMeaTOP ENDebBOTTOMcaOVERLAY MIDDLE",
    "caBEGIN SEGMENTcbENDaaANATOLIAN HIEROGLYPH A001caA002caA003caA004caA005caA006caA007caA008",
    "caA009caA010caA010AcaA011caA012caA013caA014caA015caA016caA017caA018caA019caA020caA021caA022",
    "caA023caA024caA025caA026caA026AcaA027caA028caA029caA030caA031caA032caA033caA034caA035caA036",
    "caA037caA038caA039caA039AcaA040caA041caA041AcaA042caA043caA044caA045caA045AcaA046caA046A",
    "caA046BcaA047caA048caA049caA050caA051caA052caA053caA054caA055caA056caA057caA058caA059caA060",
    "caA061caA062caA063caA064caA065caA066caA066AcaA066BcaA066CcaA067caA068caA069caA070caA071caA072",
    "caA073caA074caA075caA076caA077caA078caA079caA080caA081caA082caA083caA084caA085caA086caA087",
    "caA088caA089caA090caA091caA092caA093caA094caA095caA096caA097caA097AcaA098caA098AcaA099caA100",
    "caA100AcaA101caA101AcaA102caA102AcaA103caA104caA104AcaA104BcaA104CcaA105caA105AcaA105BcaA106",
    "caA107caA107AcaA107BcaA107CcaA108caA109caA110caA110AcaA110BcaA111caA112caA113caA114caA115",
    "caA115AcaA116caA117caA118caA119caA120caA121caA122caA123caA124caA125caA125AcaA126caA127caA128",
    "caA129caA130caA131caA132caA133caA134caA135caA135AcaA136caA137caA138caA139caA140caA141caA142",
    "caA143caA144caA145caA146caA147caA148caA149caA150caA151caA152caA153caA154caA155caA156caA157",
    "caA158caA159caA160caA161caA162caA163caA164caA165caA166caA167caA168caA169caA170caA171caA172",
    "caA173caA174caA175caA176caA177caA178caA179caA180caA181caA182caA183caA184caA185caA186caA187",
    "caA188caA189caA190caA191caA192caA193caA194caA195caA196caA197caA198caA199caA200caA201caA202",
    "caA202AcaA202BcaA203caA204caA205caA206caA207caA207AcaA208caA209caA209AcaA210caA211caA212",
    "caA213caA214caA215caA215AcaA216caA216AcaA217caA218caA219caA220caA221caA222caA223caA224caA225",
    "caA226caA227caA227AcaA228caA229caA230caA231caA232caA233caA234caA235caA236caA237caA238caA239",
    "caA240caA241caA242caA243caA244caA245caA246caA247caA248caA249caA250caA251caA252caA253caA254",
    "caA255caA256caA257caA258caA259caA260caA261caA262caA263caA264caA265caA266caA267caA267AcaA268",
    "caA269caA270caA271caA272caA273caA274caA275caA276caA277caA278caA279caA280caA281caA282caA283",
    "caA284caA285caA286caA287caA288caA289caA289AcaA290caA291caA292caA293caA294caA294AcaA295caA296",
    "caA297caA298caA299caA299AcaA300caA301caA302caA303caA304caA305caA306caA307caA308caA309caA309A",
    "caA310caA311caA312caA313caA314caA315caA316caA317caA318caA319caA320caA321caA322caA323caA324",
    "caA325caA326caA327caA328caA329caA329AcaA330caA331caA332AcaA332BcaA332CcaA333caA334caA335",
    "caA336caA336AcaA336BcaA336CcaA337caA338caA339caA340caA341caA342caA343caA344caA345caA346caA347",
    "caA348caA349caA350caA351caA352caA353caA354caA355caA356caA357caA358caA359caA359AcaA360caA361",
    "caA362caA363caA364caA364AcaA365caA366caA367caA368caA368AcaA369caA370caA371caA371AcaA372caA373",
    "caA374caA375caA376caA377caA378caA379caA380caA381caA381AcaA382caA383 RA OR RIcaA383AcaA384",
    "caA385caA386caA386AcaA387caA388caA389caA390caA391caA392caA393 EIGHTcaA394caA395caA396caA397",
    "caA398caA399caA400caA401caA402caA403caA404caA405caA406caA407caA408caA409",
    "caA410 BEGIN LOGOGRAM MARKccA410A ENDcaA411caA412caA413caA414caA415caA416caA417caA418caA419",
    "caA420caA421caA422caA423caA424caA425caA426caA427caA428caA429caA430caA431caA432caA433caA434",
    "caA435caA436caA437caA438caA439caA440caA441caA442caA443caA444caA445caA446caA447caA448caA449",
    "caA450caA450AcaA451caA452caA453caA454caA455caA456caA457caA457AcaA458caA459caA460caA461caA462",
    "caA463caA464caA465caA466caA467caA468caA469caA470caA471caA472caA473caA474caA475caA476caA477",
    "caA478caA479caA480caA481caA482caA483caA484caA485caA486caA487caA488caA489caA490caA491caA492",
    "caA493caA494caA495caA496caA497caA501caA502caA503caA504caA505caA506caA507caA508caA509caA510",
    "caA511caA512caA513caA514caA515caA516caA517caA518caA519caA520caA521caA522caA523caA524caA525",
    "caA526caA527caA528caA529caA530aaBAMUM LETTER PHASE-A NGKUE MFONdaGBIEE FON",
    "daPON MFON PIPAEMGBIEEfaPIPAEMBAdaNAA MFONdaSHUENSHUETdaTITA MFONdbNZAdaSHINDA PA NJI",
    "daPON PA NJI PIPAEMGBIEEgaPIPAEMBAdaMAEMBGBIEEdaTU MAEMBAdaNGANGUdaMAEMVEUXdaMANSUAE",
    "daMVEUAENGAMdaSEUNYAMdaNTOQPENdaKEUKEUTNDAdaNKINDIdaSUUdaNGKUENZEUMdaLAPAQdaLET KUT",
    "daNTAP MFAAdaMAEKEUPdaPASHAEdaGHEUAERAEdaPAMSHAEdaMON NGGEUAETdaNZUN MEUTdaU YUQ NAE",
    "daGHEUAEGHEUAEdaNTAP NTAAdaSISAdaMGBASAdaMEUNJOMNDEUQdaMOOMPUQdaKAFAdaPA LEERAEWAdbNDAdaPET",
    "daMAEMKPENdaNIKAdaPUPdaTUAEPdaLUAEPdaSONJAMdaTEUTEUWENdaMAENYIdaKETdaNDAANGGEUAETdaKUOQ",
    "daMOOMEUTdaSHUMdaLOMMAEdaFIRIdaROMdaKPOQdaSOQdaMAP PIEETdaSHIRAEdaNTAPdaSHOQ NSHUT YUM",
    "daNYIT MONGKEUAEQdaPAARAEdaNKAARAEdaUNKNOWNdaNGGENdaMAESIdaNJAMdaMBANYIdaNYETdaTEUAENdaSOT",
    "daPAAMdaNSHIEEdaMAEMdaNYIdaKAQdaNSHAdaVEEdaLUdaNENdaNAQdaMBAQcaPHASE-B NSHUETdaTU MAEMGBIEE",
    "daSIEEdaSET TUdaLOM NTEUMdaMBA MAELEEdaKIEEMdaYEURAEdaMBAARAEdaKAMdaPEESHIdaYAFU LEERAEWA",
    "daLAM NSHUT NYAMdaNTIEE SHEUOQdaNDU NJAAdaGHEUGHEUAEMdaPITdaTU NSIEEdaSHET NJAQdaSHEUAEQTU",
    "daMFON TEUAEQdaMBIT MBAAKETdaNYI NTEUMdaKEUPUQdaGHEUGHENdaKEUYEUXdaLAANAEdaPARUMdaVEUM",
    "daNGKINDI MVOPdaNGGEU MBUdaWUAETdaSAKEUAEdaTAAMdaMEUQdaNGGUOQeaLARGEdaMFIYAQdaSUEdaMBEURI",
    "daMONTIEENdaNYAEMAEdaPUNGAAMdaMEUT NGGEETdaFEUXdaMBUOQdaFEEdaKEUAEMdaMA NJEUAENAeaNJUQAdaLET",
    "daNGGAAMdaNSENdaMAdaKIQdaNGOMcaPHASE-C NGKUE MAEMBAdaNZAdaYUMdaWANGKUOQdaNGGENdaNDEUAEREE",
    "daNGKAQdaGHARAEdaMBEEKEETdaGBAYIdaNYIR MKPARAQ MEUNdaNTU MBITdaMBEUMdaPIRIEENdaNDOMBU",
    "daMBAA CABBAGE-TREEdaKEUSHEUAEPdaGHAPdaKEUKAQdaYU MUOMAEdaNZEUMdaMBUEdaNSEUAENdaMBITdaYEUQ",
    "daKPARAQdaKAAdaSEUXdaNDIDAdaTAASHAEdaNJUEQdaTITA YUEdaSUAETdaNGGUAEN NYAMdaVEUXdaNANSANAQ",
    "daMA KEUAERIdaNTAAdaNGGUONdaLAPdaMBIRIEENdaMGBASAQdaNTEUNGBAdaTEUTEUXdaNGGUMdaFUEdaNDEUTdaNSA",
    "daNSHAQdaBUNGdaVEUAEPENdaMBERAEdaRUdaNJAEMdaLAMdaTITUAEPdaNSUOT NGOMdaNJEEEEdaKETdaNGGU",
    "daMAESIdaMBUAEMdaLUdaKUTdaNJAMdaNGOMdaWUPdaNGGUEETdaNSOMdaNTENdaKUOP NKAARAEdaNSUNdaNDAM",
    "daMA NSIEEdaYAAdaNDAPdaSHUEQdaSETFONdaMBIdaMAEMBAdaMBANYIdaKEUSEUXdaMBEUXdaKEUMdaMBAA PICKET",
    "daYUWOQdaNJEUXdaMIEEdaMUAEdaSHIQdaKEN LAWeaFATIGUEdaNGAQdaNAQdaLIQdaPINdaPENdaTET",
    "caPHASE-D MBUOdaWAPdaNJIdaMFONdaNJIEEdaLIEEdaNJEUTdaNSHEEdaNGGAAMAEdaNYAMdaWUAENdaNGKUNdaSHEE",
    "daNGKAPdaKEUAETMEUNdaTEUTdaSHEUAEdaNJAPdaSUEdaKETdaYAEMMAEdaKUOMdaSAPdaMFEUTdaNDEUXdaMALEERI",
    "daMEUTdaSEUAEQdaYENdaNJEUAEMdaKEUOT MBUAEdaNGKEURIdaTUdaGHAAdaNGKYEEdaFEUFEUAETdaNDEE",
    "daMGBOFUMdaLEUAEPdaNDONdaMONIdaMGBEUNdaPUUTdaMGBIEEdaMFOdaLUMdaNSIEEPdaMBAAdaKWAETdaNYET",
    "daTEUAENdaSOTdaYUWOQdaKEUMdaRAEMdaTEEEEdaNGKEUAEQdaMFEUAEdaNSIEETdaKEUPdaPIPdaPEUTAEdaNYUE",
    "daLETdaNGGAAMdaMFIEEdaNGGWAENdaYUOMdaPAPdaYUOPdaNDAMdaNTEUMdaSUAEdaKUNdaNGGEUXdaNGKIEEdaTUOT",
    "daMEUNdaKUQdaNSUMdaTEUNdaMAENJETdaNGGAPdaLEUMdaNGGUOMdaNSHUTdaNJUEQdaGHEUAEdaKUdaREN OLDdaTAE",
    "daTOQdaNYIdaRIIdaLEEEEdaMEEEEdaMdaSUUdaMUdaSHIIdaSHEUXdaKYEEdaNUdaSHUdaNTEEdaPEEdaNIdaSHOQ",
    "daPUQdaMVOPdaLOQdaREN MUCHdaTIdaNTUUdaMBAA SEVENdaSAQdaFAAcaPHASE-E NDAPdaTOONdaMBEUMdaLAP",
    "daVOMdaLOONdaPAAdaSOMdaRAQdaNSHUOPdaNDUNdaPUAEdaTAMdaNGKAdaKPEUXdaWUOdaSEEdaNGGEUAETdaPAAM",
    "daTOOdaKUOPdaLOMdaNSHIEEdaNGOPdaMAEMdaNGKEUXdaNGOQdaNSHUEdaRIMGBAdaNJEUXdaPEEMdaSAAdaNGGURAE",
    "daMGBAdaGHEUXdaNGKEUAEMdaNJAEMLIdaMAPdaLOOTdaNGGEEEEdaNDIQdaTAEN NTEUMdaSETdaPUM",
    "daNDAA SOFTNESSdaNGGUAESHAE NYAMdaYIEEdaGHEUNdaTUAEdaYEUAEdaPOdaTUMAEdaKEUAEdaSUAENdaTEUAEQ",
    "daVEUAEdaWEUXdaLAAMdaPUdaTAAQdaGHAAMAEdaNGEUREUTdaSHEUAEQdaMGBENdaMBEEdaNZAQdaNKOMdaGBETdaTUM",
    "daKUETdaYAPdaNYI CLEAVERdaYITdaMFEUQdaNDIAQdaPIEEQdaYUEQdaLEUAEMdaFUEdaGBEUXdaNGKUPdaKETdaMAE",
    "daNGKAAMIdaGHETdaFAdaNTUMdaPEUTdaYEUMdaNGGEUAEdaNYI BETWEENdaNZUQdaPOONdaMIEEdaFUETdaNAE",
    "daMUAEdaGHEUAEdaFU IdaMVIdaPUAQdaNGKUMdaKUTdaPIETdaNTAPdaYEUAETdaNGGUPdaPA PEOPLEdaFU CALL",
    "daFOMdaNJEEdaAdaTOQdaOdaIdaLAQdaPA PLURALdaTAAdaTAQdaNDAA MY HOUSEdaSHIQdaYEUXdaNGUAEdaYUAEN",
    "daYOQ SWIMMINGeaCOVERdaYUQdaYUNdaKEUXdaPEUXdaNJEE EPOCHdaPUEdaWUEdaFEEdaVEEdaLUdaMIdaREUX",
    "daRAEdaNGUAETdaNGAdaSHOdaSHOQdaFU REMEDYdaNAdaPIdaLOQdaKOdaMENdaMAdaMAQdaTEUdaKIdaMONdaTEN",
    "daFAQdaGHOMcaPHASE-F KAdaUdaKUdaEEdaREEdaTAEdaNYIdaLAdaRIIdaRIEEdaMEEEEdaTAAdaNDAAdaNJAEMdaM",
    "daSUUdaSHIIdaSIdaSEUXdaKYEEdaKETdaNUAEdaNUdaNJUAEdaYOQdaSHUdaYAdaNSHAdaPEUXdaNTEEdaWUEdaPEE",
    "daRUdaNIdaREUXdaKENdaNGKWAENdaNGGAdaSHOdaPUAEdaFOMdaWAdaLIdaLOQdaKOdaMBENdaRENdaMAdaMOdaMBAA",
    "daTETdaKPAdaSAMBAdaVUEQaaMRO LETTER TAcaNGIcaYOcaMIMcaBAcaDAcaAcaPHIcaKHAIcaHAOcaDAIcaCHU",
    "caKEAAEcaOLcaMAEMcaNINcaPAcaOOcaOcaROcaSHIcaTHEAcaEAcaWAcaEcaKOcaLANcaLAcaHAIcaRIcaTEK",
    "baDIGIT ZEROcaONEcaTWOcaTHREEcaFOURcaFIVEcaSIXcaSEVENcaEIGHTcaNINEbaDANDAbbDOUBLE",
    "aaTANGSA LETTER OZcaOCcaOQcaOXcaAZcaACcaAQcaAXcaVZcaVCcaVQcaVXcaEZcaECcaEQcaEXcaIZcaICcaIQ",
    "caIXcaUZcaUCcaUQcaUXcaAWZcaAWCcaAWQcaAWXcaUIZcaUICcaUIQcaUIXcaFINAL NGcaLONG UEXcaSHORT UEZ",
    "daAWXcaUECcaUEZcaUEQcaUEXcaUIUZcaUIUCcaUIUQcaUIUXcaMZcaMCcaMQcaMXcaKAcaKHAcaGAcaNGAcaSAcaYA",
    "caWAcaPAcaNYAcaPHAcaBAcaMAcaNAcaHAcaLAcaHTAcaTAcaDAcaRAcaNHAcaSHAcaCAcaTSAcaGHAcaHTTAcaTHA",
    "caXAcaFAcaDHAcaCHAcaZAbaDIGIT ZEROcaONEcaTWOcaTHREEcaFOURcaFIVEcaSIXcaSEVENcaEIGHTcaNINE",
    "aaBASSA VAH LETTER ENNIdaKAdaSEdaFAdaMBEdaYIEdaGAHdaDHIIdaKPAHdaJOdaHWAHdaWAdaZOdaGBUdaDOdaCE",
    "daUWUdaTOdaBAdaVUdaYEINdaPAdaWADDAdaAdaOdaOOdaUdaEEdaEdaIcaCOMBINING HIGH TONEdbLOWdbMID",
    "dbLOW-MIDdbHIGH-LOWcaFULL STOPaaPAHAWH HMONG VOWEL KEEBdaKEEVdaKIBdaKIVdaKAUBdaKAUVdaKUBdaKUV",
    "daKEBdaKEVdaKAIBdaKAIVdaKOOBdaKOOVdaKAWBdaKAWVdaKUABdaKUAVdaKOBdaKOVdaKIABdaKIAVdaKABdaKAV",
    "daKWBdaKWVdaKAABdaKAAVcaCONSONANT VAUdaNTSAUdaLAUdaHAUdaNLAUdaRAUdaNKAUdaQHAUdaYAUdaHLAUdaMAU",
    "daCHAUdaNCHAUdaHNAUdaPLHAUdaNTHAUdaNAUdaAUdaXAUdaCAUcaMARK CIM TUBeaSOeaKESeaKHAVeaSUAMeaHOM",
    "eaTAUMcaSIGN VOS THOMeaTSHAB CEEBdaCIM CHEEMdaVOS THIABeaFEEMdaXYEEM NTXIVeaRHOeaTOVeaFAIB",
    "daVOS SEEVdaMEEJ SUABdaVOS NRUAdaIB YAMdaXAUSdaCIM TSOV ROGcaDIGIT ZEROdaONEdaTWOdaTHREE",
    "daFOURdaFIVEdaSIXdaSEVENdaEIGHTdaNINEcaNUMBER TENSdaHUNDREDSdaTEN THOUSANDSdaMILLIONS",
    "dbHUNDREDdaTEN BILLIONSdaTRILLIONScaSIGN VOS LUBdaXYOOdaHLIdbTHIRD-STAGEdaZWJ THAJdaHNUB",
    "daNQIGdaXIABdaNTUJdaAVdaTXHEEJ CEEVdaMEEJ TSEEBdaTAUdaLOSdaMUSdaCIM HAIS LUS NTOG NTOG",
    "eaCUAM TSHOOJeaTXWVfaCHWVeaPUB DAWBeaNRES TOScaCLAN SIGN TSHEEJeaYEEGeaLISeaLAUJeaXYOOJeaKOO",
    "eaHAWJeaMUASeaTHOJeaTSABeaPHABeaKHABeaHAMeaVAJeaFAJeaYAJeaTSWBeaKWMeaVWJ",
    "aaMEDEFAIDRIN CAPITAL LETTER MdaSdaVdaWdaATIUdaZdaKPdaPdaTdaGdaFdaIdaKdaAdaJdaEdaBdaCdaUdaYU",
    "daLdaQdaHPdaNYdaXdaDdaOEdaNdaRdaOdaAIdaYbaSMALL LETTER MdaSdaVdaWdaATIUdaZdaKPdaPdaTdaGdaFdaI",
    "daKdaAdaJdaEdaBdaCdaUdaYUdaLdaQdaHPdaNYdaXdaDdaOEdaNdaRdaOdaAIdaYbaDIGIT ZEROcaONEcaTWO",
    "caTHREEcaFOURcaFIVEcaSIXcaSEVENcaEIGHTcaNINEbaNUMBER TENcaELEVENcaTWELVEcaTHIRTEENcaFOURTEEN",
    "caFIFTEENcaSIXTEENcaSEVENTEENcaEIGHTEENcaNINETEENbaDIGIT ONE ALTERNATE FORMccTWOccTHREE",
    "baCOMMAbaFULL STOPbaSYMBOL AIVAbaEXCLAMATION OHaaMIAO LETTER PAcaBAcaYI PAcaPLAcaMAcaMHA",
    "caARCHAIC MAcaFAcaVAcaVFAcaTAcaDAcaYI TTAdaTAcaTTAcaDDAcaNAcaNHAcaYI NNAcaARCHAIC NAcaNNA",
    "caNNHAcaLAcaLYAcaLHAcaLHYAcaTLHAcaDLHAcaTLHYAcaDLHYAcaKAcaGAcaYI KAcaQAcaQGAcaNGAcaNGHA",
    "caARCHAIC NGAcaHAcaXAcaGHAcaGHHAcaTSSAcaDZZAcaNYAcaNYHAcaTSHAcaDZHAcaYI TSHAdaDZHA",
    "caREFORMED TSHAcaSHAcaSSAcaZHAcaZSHAcaTSAcaDZAcaYI TSAcaSAcaZAcaZSAcaZZAcaZZSAcaARCHAIC ZZA",
    "caZZYAcaZZSYAcaWAcaAHcaHHAcaBRIcaSYIcaDZYIcaTEcaTSEcaRTEbaSIGN CONSONANT MODIFIER BAR",
    "baLETTER NASALIZATIONbaSIGN ASPIRATIONcaREFORMED VOICINGdaASPIRATIONbaVOWEL SIGN AdaAAdaAHH",
    "daANdaANGdaOdaOOdaWOdaWdaEdaENdaENGdaOEYdaIdaIAdaIANdaIANGdaIOdaIEdaIIdaIUdaINGdaUdaUAdaUAN",
    "daUANGdaUUdaUEIdaUNGdaYdaYIdaAEdaAEEdaERRdbROUNDEDdaERdbROUNDEDdaAIdaEIdaAUdaOUdaNdaNGdaUOG",
    "daYUIdaOGdaOERdaVWdaIGdaEAdaIONGdaUIbaTONE RIGHTcbTOPcaABOVEcaBELOWbaLETTER TONE-2caTONE-3",
    "caTONE-4caTONE-5caTONE-6caTONE-7caTONE-8caREFORMED TONE-1daTONE-2daTONE-4daTONE-5daTONE-6",
    "daTONE-8aaTANGUT ITERATION MARKacNUSHUabOLD CHINESE HOOKcbITERATION",
    "aaKHITAN SMALL SCRIPT FILLERaaVIETNAMESE ALTERNATE READING MARK CAeaNHAY"]

end ClusterBilling.Text.NameTable
