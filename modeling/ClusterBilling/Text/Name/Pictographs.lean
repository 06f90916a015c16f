import ClusterBilling.Text.Name.Table

/-! Names of characters from U+1E000 on: pictographs, tags and further scripts. -/
namespace ClusterBilling.Text.NameTable

def pictographs : NameTable where
  rows := [
    (0x1e000, 7), (0x1e008, 17), (0x1e01b, 7), (0x1e023, 2), (0x1e026, 5), (0x1e100, 45),
    (0x1e130, 14), (0x1e140, 10), (0x1e14e, 2), (0x1e290, 31), (0x1e2c0, 58), (0x1e2ff, 1),
    (0x1e7e0, 7), (0x1e7e8, 4), (0x1e7ed, 2), (0x1e7f0, 15), (0x1e800, 197), (0x1e8c7, 16),
    (0x1e900, 76), (0x1e950, 10), (0x1e95e, 2), (0x1ec71, 68), (0x1ed01, 61), (0x1ee00, 4),
    (0x1ee05, 27), (0x1ee21, 2), (0x1ee24, 1), (0x1ee27, 1), (0x1ee29, 10), (0x1ee34, 4),
    (0x1ee39, 1), (0x1ee3b, 1), (0x1ee42, 1), (0x1ee47, 1), (0x1ee49, 1), (0x1ee4b, 1),
    (0x1ee4d, 3), (0x1ee51, 2), (0x1ee54, 1), (0x1ee57, 1), (0x1ee59, 1), (0x1ee5b, 1),
    (0x1ee5d, 1), (0x1ee5f, 1), (0x1ee61, 2), (0x1ee64, 1), (0x1ee67, 4), (0x1ee6c, 7),
    (0x1ee74, 4), (0x1ee79, 4), (0x1ee7e, 1), (0x1ee80, 10), (0x1ee8b, 17), (0x1eea1, 3),
    (0x1eea5, 5), (0x1eeab, 17), (0x1eef0, 2), (0x1f000, 44), (0x1f030, 100), (0x1f0a0, 15),
    (0x1f0b1, 15), (0x1f0c1, 15), (0x1f0d1, 37), (0x1f100, 174), (0x1f1e6, 29), (0x1f210, 44),
    (0x1f240, 9), (0x1f250, 2), (0x1f260, 6), (0x1f300, 984), (0x1f6dd, 16), (0x1f6f0, 13),
    (0x1f700, 116), (0x1f780, 89), (0x1f7e0, 12), (0x1f7f0, 1), (0x1f800, 12), (0x1f810, 56),
    (0x1f850, 10), (0x1f860, 40), (0x1f890, 30), (0x1f8b0, 2), (0x1f900, 340), (0x1fa60, 14),
    (0x1fa70, 5), (0x1fa78, 5), (0x1fa80, 7), (0x1fa90, 29), (0x1fab0, 11), (0x1fac0, 6),
    (0x1fad0, 10), (0x1fae0, 8), (0x1faf0, 7), (0x1fb00, 147), (0x1fb94, 55), (0x1fbf0, 10),
    (0xe0001, 1), (0xe0020, 96), (0xe0100, 240)]
  entries := [
    "aaCOMBINING GLAGOLITIC LETTER AZUdaBUKYdaVEDEdaGLAGOLIdaDOBROdaYESTUdaZHIVETEdaZEMLJAdaIZHE",
    "dbINITIALdaIdaDJERVIdaKAKOdaLJUDIJEdaMYSLITEdaNASHIdaONUdaPOKOJIdaRITSIdaSLOVOdaTVRIDOdaUKU",
    "daFRITUdaHERUdaSHTAdaTSIdaCHRIVIdaSHAdaYERUdaYERIdaYATIdaYUdaSMALL YUSdaYOdaIOTATED SMALL YUS",
    "dbBIGdcIOTATEDdaFITAaaNYIAKENG PUACHUE HMONG LETTER MAeaTSAeaNTAeaTAeaHAeaNAeaXAeaNKAeaCAeaLA",
    "eaSAeaZAeaNCAeaNTSAeaKAeaDAeaNYAeaNRAeaVAeaNTXAeaTXAeaFAeaRAeaQAeaYAeaNQAeaPAeaXYAeaNPAeaDLA",
    "eaNPLAeaHAHeaMLAeaPLAeaGAeaRRAeaAeaAAeaIeaUeaOeaOOeaEeaEEeaWdaTONE-BdaTONE-MdaTONE-JdaTONE-V",
    "daTONE-SdaTONE-GdaTONE-DdaSIGN FOR PERSONfaTHINGfaLOCATIONfaANIMALfaINVERTEBRATEeaXW XW",
    "daSYLLABLE LENGTHENERdaDIGIT ZEROeaONEeaTWOeaTHREEeaFOUReaFIVEeaSIXeaSEVENeaEIGHTeaNINE",
    "daLOGOGRAM NYAJdaCIRCLED CAaaTOTO LETTER PAcaBAcaTAcaDAcaKAcaGAcaMAcaNAcaNGAcaSAcaCHAcaYAcaWA",
    "caJAcaHAcaRAcaLAcaIcbBREATHYcaIUcbBREATHYcaUcaEcbBREATHYcaEOcbBREATHYcaOcaAEcbBREATHYcaA",
    "baSIGN RISING TONEaaWANCHO LETTER AAcaAcaBAcaCAcaDAcaGAcaYAcaPHAcaLAcaNAcaPAcaTAcaTHAcaFAcaSA",
    "caSHAcaJAcaZAcaWAcaVAcaKAcaOcaAUcaRAcaMAcaKHAcaHAcaEcaIcaNGAcaUcaLLHAcaTSAcaTRAcaONGcaAANG",
    "caANGcaINGcaONcaENcaAANcaNYAcaUENcaYIHbaTONE TUPcaTUPNIcaKOIcaKOINIbaDIGIT ZEROcaONEcaTWO",
    "caTHREEcaFOURcaFIVEcaSIXcaSEVENcaEIGHTcaNINEbaNGUN SIGNaaETHIOPIC SYLLABLE HHYAcaHHYUcaHHYI",
    "caHHYAAcaHHYEEcaHHYEcaHHYOcaGURAGE HHWAcaHHWIcaHHWEEcaHHWEcaGURAGE MWIdaMWEEdaQWIdaQWEEdaQWE",
    "daBWIdaBWEEdaKWIdaKWEEdaKWEdaGWIdaGWEEdaGWEdaFWIdaFWEEdaPWIdaPWEE",
    "aaMENDE KIKAKUI SYLLABLE M001 KIdaM002 KAdaM003 KUdaM065 KEEdaM095 KEdaM076 KOOdaM048 KO",
    "daM179 KUAdaM004 WIdaM005 WAdaM006 WUdaM126 WEEdaM118 WEdaM114 WOOdaM045 WOdaM194 WUI",
    "daM143 WEIdaM061 WVIdaM049 WVAdaM139 WVEdaM007 MINdaM008 MANdaM009 MUNdaM059 MENdaM094 MON",
    "daM154 MUANdaM189 MUENdaM010 BIdaM011 BAdaM012 BUdaM150 BEEdaM097 BEdaM103 BOOdaM138 BO",
    "daM013 IdaM014 AdaM015 UdaM163 EEdaM100 EdaM165 OOdaM147 OdaM137 EIdaM131 INdbM135daM195 AN",
    "daM178 ENdaM019 SIdaM020 SAdaM021 SUdaM162 SEEdaM116 SEdaM136 SOOdaM079 SOdaM196 SIAdaM025 LI",
    "daM026 LAdaM027 LUdaM084 LEEdaM073 LEdaM054 LOOdaM153 LOdaM110 LONG LEdaM016 DIdaM017 DA",
    "daM018 DUdaM089 DEEdaM180 DOOdaM181 DOdaM022 TIdaM023 TAdaM024 TUdaM091 TEEdaM055 TE",
    "daM104 TOOdaM069 TOdaM028 JIdaM029 JAdaM030 JUdaM157 JEEdaM113 JEdaM160 JOOdaM063 JO",
    "dbM175 LONGdaM031 YIdaM032 YAdaM033 YUdaM109 YEEdaM080 YEdaM141 YOOdaM121 YOdaM034 FI",
    "daM035 FAdaM036 FUdaM078 FEEdaM075 FEdaM133 FOOdaM088 FOdaM197 FUAdaM101 FANdaM037 NIN",
    "daM038 NANdaM039 NUNdaM117 NENdaM169 NONdaM176 HIdaM041 HAdaM186 HUdaM040 HEEdaM096 HE",
    "daM042 HOOdaM140 HOdaM083 HEEIdaM128 HOOUdaM053 HINdaM130 HANdaM087 HUNdaM052 HENdaM193 HON",
    "daM046 HUANdaM090 NGGIdaM043 NGGAdaM082 NGGUdaM115 NGGEEdaM146 NGGEdaM156 NGGOOdaM120 NGGO",
    "daM159 NGGAAdaM127 NGGUAdaM086 LONG NGGEdaM106 LONG NGGOOdaM183 LONG NGGOdaM155 GIdaM111 GA",
    "daM168 GUdaM190 GEEdaM166 GUEIdaM167 GUANdaM184 NGENdaM057 NGONdaM177 NGUANdaM068 PIdaM099 PA",
    "daM050 PUdaM081 PEEdaM051 PEdaM102 POOdaM066 POdaM145 MBIdaM062 MBAdaM122 MBUdaM047 MBEE",
    "dbM188daM072 MBEdaM172 MBOOdaM174 MBOdaM187 MBUUdaM161 LONG MBEdaM105 LONG MBOO",
    "daM142 LONG MBOdaM132 KPIdaM092 KPAdaM074 KPUdaM044 KPEEdaM108 KPEdaM112 KPOOdaM158 KPO",
    "daM124 GBIdaM056 GBAdaM148 GBUdaM093 GBEEdaM107 GBEdaM071 GBOOdaM070 GBOdaM171 RAdaM123 NDI",
    "daM129 NDAdaM125 NDUdaM191 NDEEdaM119 NDEdaM067 NDOOdaM064 NDOdaM152 NJAdaM192 NJUdaM149 NJEE",
    "daM134 NJOOdaM182 VIdaM185 VAdaM151 VUdaM173 VEEdaM085 VEdaM144 VOOdaM077 VOdaM164 NYIN",
    "daM058 NYANdaM170 NYUNdaM098 NYENdaM060 NYONcaDIGIT ONEdaTWOdaTHREEdaFOURdaFIVEdaSIXdaSEVEN",
    "daEIGHTdaNINEcaCOMBINING NUMBER TEENSeaTENSeaHUNDREDSeaTHOUSANDSebTENebHUNDREDeaMILLIONS",
    "aaADLAM CAPITAL LETTER ALIFdaDAALIdaLAAMdaMIIMdaBAdaSINNYIIYHEdaPEdaBHEdaRAdaEdaFAdaIdaOdaDHA",
    "daYHEdaWAWdaNUNdaKAFdaYAdaUdaJIIMdaCHIdaHAdaQAAFdaGAdaNYAdaTUdaNHAdaVAdaKHAdaGBEdaZALdaKPO",
    "daSHAbaSMALL LETTER ALIFdaDAALIdaLAAMdaMIIMdaBAdaSINNYIIYHEdaPEdaBHEdaRAdaEdaFAdaIdaOdaDHA",
    "daYHEdaWAWdaNUNdaKAFdaYAdaUdaJIIMdaCHIdaHAdaQAAFdaGAdaNYAdaTUdaNHAdaVAdaKHAdaGBEdaZALdaKPO",
    "daSHAbaALIF LENGTHENERbbVOWELbaGEMINATION MARKbaHAMZAbaCONSONANT MODIFIERbcGEMINATEbaNUKTA",
    "baNASALIZATION MARKbaDIGIT ZEROcaONEcaTWOcaTHREEcaFOURcaFIVEcaSIXcaSEVENcaEIGHTcaNINE",
    "baINITIAL EXCLAMATION MARKcbQUESTIONaaINDIC SIYAQ NUMBER ONEdaTWOdaTHREEdaFOURdaFIVEdaSIX",
    "daSEVENdaEIGHTdaNINEdaTENdaTWENTYdaTHIRTYdaFORTYdaFIFTYdaSIXTYdaSEVENTYdaEIGHTYdaNINETY",
    "daONE HUNDREDdbTWOdbTHREEdbFOURdbFIVEdbSIXdbSEVENdbEIGHTdbNINEdaONE THOUSANDdbTWOdbTHREE",
    "dbFOURdbFIVEdbSIXdbSEVENdbEIGHTdbNINEdbTENdbTWENTYdbTHIRTYdbFORTYdbFIFTYdbSIXTYdbSEVENTY",
    "dbEIGHTYdbNINETYdaLAKHdaLAKHANcaLAKH MARKcaNUMBER KARORdaKARORANdaPREFIXED ONEeaTWOeaTHREE",
    "eaFOUReaFIVEeaSIXeaSEVENeaEIGHTeaNINEcaPLACEHOLDERcaFRACTION ONE QUARTEReaHALF",
    "daTHREE QUARTERScaRUPEE MARKcaNUMBER ALTERNATE ONEeaTWOeaTEN THOUSANDcaALTERNATE LAKH MARK",
    "aaOTTOMAN SIYAQ NUMBER ONEdaTWOdaTHREEdaFOURdaFIVEdaSIXdaSEVENdaEIGHTdaNINEdaTENdaTWENTY",
    "daTHIRTYdaFORTYdaFIFTYdaSIXTYdaSEVENTYdaEIGHTYdaNINETYdaONE HUNDREDdbTWOdbTHREEdbFOURdbFIVE",
    "dbSIXdbSEVENdbEIGHTdbNINEdaONE THOUSANDdbTWOdbTHREEdbFOURdbFIVEdbSIXdbSEVENdbEIGHTdbNINEdbTEN",
    "dbTWENTYdbTHIRTYdbFORTYdbFIFTYdbSIXTYdbSEVENTYdbEIGHTYdbNINETYcaMARRATAN",
    "caALTERNATE NUMBER TWOeaTHREEeaFOUReaFIVEeaSIXeaSEVENeaEIGHTeaNINEeaTENeaFOUR HUNDREDebSIX",
    "eaTWO THOUSANDebTENcaFRACTION ONE HALFeaSIXTHaaARABIC MATHEMATICAL ALEFcaBEHcaJEEMcaDALcaWAW",
    "caZAINcaHAHcaTAHcaYEHcaKAFcaLAMcaMEEMcaNOONcaSEENcaAINcaFEHcaSADcaQAFcaREHcaSHEENcaTEHcaTHEH",
    "caKHAHcaTHALcaDADcaZAHcaGHAINcaDOTLESS BEHdaNOONdaFEHdaQAFcaINITIAL BEHdaJEEMdaHEHdaHAHdaYEH",
    "daKAFdaLAMdaMEEMdaNOONdaSEENdaAINdaFEHdaSADdaQAFdaSHEENdaTEHdaTHEHdaKHAHdaDADdaGHAIN",
    "caTAILED JEEMdaHAHdaYEHdaLAMdaNOONdaSEENdaAINdaSADdaQAFdaSHEENdaKHAHdaDADdaGHAIN",
    "daDOTLESS NOONeaQAFcaSTRETCHED BEHdaJEEMdaHEHdaHAHdaTAHdaYEHdaKAFdaMEEMdaNOONdaSEENdaAINdaFEH",
    "daSADdaQAFdaSHEENdaTEHdaTHEHdaKHAHdaDADdaZAHdaGHAINdaDOTLESS BEHeaFEHcaLOOPED ALEFdaBEHdaJEEM",
    "daDALdaHEHdaWAWdaZAINdaHAHdaTAHdaYEHdaLAMdaMEEMdaNOONdaSEENdaAINdaFEHdaSADdaQAFdaREHdaSHEEN",
    "daTEHdaTHEHdaKHAHdaTHALdaDADdaZAHdaGHAINcaDOUBLE-STRUCK BEHdaJEEMdaDALdaWAWdaZAINdaHAHdaTAH",
    "daYEHdaLAMdaMEEMdaNOONdaSEENdaAINdaFEHdaSADdaQAFdaREHdaSHEENdaTEHdaTHEHdaKHAHdaTHALdaDADdaZAH",
    "daGHAINcaOPERATOR MEEM WITH HAH WITH TATWEELdaHAH WITH DALaaMAHJONG TILE EAST WINDcbSOUTH",
    "cbWESTcbNORTHcaRED DRAGONcbGREENcbWHITEcaONE OF CHARACTERSccTWOccTHREEccFOURccFIVEccSIX",
    "ccSEVENccEIGHTccNINEcaONE OF BAMBOOSccTWOccTHREEccFOURccFIVEccSIXccSEVENccEIGHTccNINE",
    "caONE OF CIRCLESccTWOccTHREEccFOURccFIVEccSIXccSEVENccEIGHTccNINEcaPLUMcaORCHIDcaBAMBOO",
    "caCHRYSANTHEMUMcaSPRINGcaSUMMERcaAUTUMNcaWINTERcaJOKERcaBACKabDOMINO TILE HORIZONTAL",
    "caHORIZONTAL-00-00caHORIZONTAL-00-01caHORIZONTAL-00-02caHORIZONTAL-00-03caHORIZONTAL-00-04",
    "caHORIZONTAL-00-05caHORIZONTAL-00-06caHORIZONTAL-01-00caHORIZONTAL-01-01caHORIZONTAL-01-02",
    "caHORIZONTAL-01-03caHORIZONTAL-01-04caHORIZONTAL-01-05caHORIZONTAL-01-06caHORIZONTAL-02-00",
    "caHORIZONTAL-02-01caHORIZONTAL-02-02caHORIZONTAL-02-03caHORIZONTAL-02-04caHORIZONTAL-02-05",
    "caHORIZONTAL-02-06caHORIZONTAL-03-00caHORIZONTAL-03-01caHORIZONTAL-03-02caHORIZONTAL-03-03",
    "caHORIZONTAL-03-04caHORIZONTAL-03-05caHORIZONTAL-03-06caHORIZONTAL-04-00caHORIZONTAL-04-01",
    "caHORIZONTAL-04-02caHORIZONTAL-04-03caHORIZONTAL-04-04caHORIZONTAL-04-05caHORIZONTAL-04-06",
    "caHORIZONTAL-05-00caHORIZONTAL-05-01caHORIZONTAL-05-02caHORIZONTAL-05-03caHORIZONTAL-05-04",
    "caHORIZONTAL-05-05caHORIZONTAL-05-06caHORIZONTAL-06-00caHORIZONTAL-06-01caHORIZONTAL-06-02",
    "caHORIZONTAL-06-03caHORIZONTAL-06-04caHORIZONTAL-06-05caHORIZONTAL-06-06caVERTICAL BACK",
    "caVERTICAL-00-00caVERTICAL-00-01caVERTICAL-00-02caVERTICAL-00-03caVERTICAL-00-04",
    "caVERTICAL-00-05caVERTICAL-00-06caVERTICAL-01-00caVERTICAL-01-01caVERTICAL-01-02",
    "caVERTICAL-01-03caVERTICAL-01-04caVERTICAL-01-05caVERTICAL-01-06caVERTICAL-02-00",
    "caVERTICAL-02-01caVERTICAL-02-02caVERTICAL-02-03caVERTICAL-02-04caVERTICAL-02-05",
    "caVERTICAL-02-06caVERTICAL-03-00caVERTICAL-03-01caVERTICAL-03-02caVERTICAL-03-03",
    "caVERTICAL-03-04caVERTICAL-03-05caVERTICAL-03-06caVERTICAL-04-00caVERTICAL-04-01",
    "caVERTICAL-04-02caVERTICAL-04-03caVERTICAL-04-04caVERTICAL-04-05caVERTICAL-04-06",
    "caVERTICAL-05-00caVERTICAL-05-01caVERTICAL-05-02caVERTICAL-05-03caVERTICAL-05-04",
    "caVERTICAL-05-05caVERTICAL-05-06caVERTICAL-06-00caVERTICAL-06-01caVERTICAL-06-02",
    "caVERTICAL-06-03caVERTICAL-06-04caVERTICAL-06-05caVERTICAL-06-06aaPLAYING CARD BACK",
    "caACE OF SPADESccTWOccTHREEccFOURccFIVEccSIXccSEVENccEIGHTccNINEccTENccJACKccKNIGHTccQUEEN",
    "ccKINGcaACE OF HEARTSccTWOccTHREEccFOURccFIVEccSIXccSEVENccEIGHTccNINEccTENccJACKccKNIGHT",
    "ccQUEENccKINGcaRED JOKERcaACE OF DIAMONDSccTWOccTHREEccFOURccFIVEccSIXccSEVENccEIGHTccNINE",
    "ccTENccJACKccKNIGHTccQUEENccKINGcaBLACK JOKERcaACE OF CLUBSccTWOccTHREEccFOURccFIVEccSIX",
    "ccSEVENccEIGHTccNINEccTENccJACKccKNIGHTccQUEENccKINGcaWHITE JOKERcaFOOLcaTRUMP-1caTRUMP-2",
    "caTRUMP-3caTRUMP-4caTRUMP-5caTRUMP-6caTRUMP-7caTRUMP-8caTRUMP-9caTRUMP-10caTRUMP-11caTRUMP-12",
    "caTRUMP-13caTRUMP-14caTRUMP-15caTRUMP-16caTRUMP-17caTRUMP-18caTRUMP-19caTRUMP-20caTRUMP-21",
    "aaDIGIT ZERO FULL STOPcaCOMMAbbONEbbTWObbTHREEbbFOURbbFIVEbbSIXbbSEVENbbEIGHTbbNINE",
    "aaDINGBAT CIRCLED SANS-SERIF DIGIT ZERObeNEGATIVEaaCIRCLED ZERO WITH SLASH",
    "baANTICLOCKWISE ARROWbaDOLLAR SIGN WITH OVERLAID BACKSLASH",
    "aaPARENTHESIZED LATIN CAPITAL LETTER AeaBeaCeaDeaEeaFeaGeaHeaIeaJeaKeaLeaMeaNeaOeaPeaQeaReaS",
    "eaTeaUeaVeaWeaXeaYeaZaaTORTOISE SHELL BRACKETED LATIN CAPITAL LETTER S",
    "aaCIRCLED ITALIC LATIN CAPITAL LETTER CfaRbaCDbaWZaaCOPYLEFT SYMBOL",
    "aaSQUARED LATIN CAPITAL LETTER AeaBeaCeaDeaEeaFeaGeaHeaIeaJeaKeaLeaMeaNeaOeaPeaQeaReaSeaTeaU",
    "eaVeaWeaXeaYeaZbaHVbaMVbaSDbaSSbaPPVbaWCaaNEGATIVE CIRCLED LATIN CAPITAL LETTER AfaBfaCfaDfaE",
    "faFfaGfaHfaIfaJfaKfaLfaMfaNfaOfaPfaQfaRfaSfaTfaUfaVfaWfaXfaYfaZaaRAISED MC SIGNbbMDbbMR",
    "aaCIRCLED CCbaC WITH OVERLAID BACKSLASHbaHUMAN FIGURE",
    "aaNEGATIVE SQUARED LATIN CAPITAL LETTER AfaBfaCfaDfaEfaFfaGfaHfaIfaJfaKfaLfaMfaNfaOfaPfaQfaR",
    "faSfaTfaUfaVfaWfaXfaYfaZaaCROSSED NEGATIVE SQUARED LATIN CAPITAL LETTER P",
    "aaNEGATIVE SQUARED ICcaPAcaSAcaABcaWCaaSQUARE DJaaSQUARED CLbaCOOLbaFREEbaIDbaNEWbaNGbaOK",
    "baSOSbaUP WITH EXCLAMATION MARKbaVSbaTHREE DbaSECOND SCREENbaTWO KbbFOURbbEIGHT",
    "baFIVE POINT ONEbcSEVENbaTWENTY-TWO POINT TWObaSIXTY PbbONE HUNDRED TWENTY",
    "baLATIN SMALL LETTER DbaHCbaHDRbaHI-RESbaLOSSLESSbaSHVbaUHDbaVODaaMASK WORK SYMBOL",
    "aaREGIONAL INDICATOR SYMBOL LETTER AeaBeaCeaDeaEeaFeaGeaHeaIeaJeaKeaLeaMeaNeaOeaPeaQeaReaSeaT",
    "eaUeaVeaWeaXeaYeaZaaSQUARE HIRAGANA HOKAaaSQUARED KATAKANA KOKOcaSA",
    "baCJK UNIFIED IDEOGRAPH-624BdaIDEOGRAPH-5B57daIDEOGRAPH-53CCbaKATAKANA DE",
    "baCJK UNIFIED IDEOGRAPH-4E8CdaIDEOGRAPH-591AdaIDEOGRAPH-89E3daIDEOGRAPH-5929daIDEOGRAPH-4EA4",
    "daIDEOGRAPH-6620daIDEOGRAPH-7121daIDEOGRAPH-6599daIDEOGRAPH-524DdaIDEOGRAPH-5F8C",
    "daIDEOGRAPH-518DdaIDEOGRAPH-65B0daIDEOGRAPH-521DdaIDEOGRAPH-7D42daIDEOGRAPH-751F",
    "daIDEOGRAPH-8CA9daIDEOGRAPH-58F0daIDEOGRAPH-5439daIDEOGRAPH-6F14daIDEOGRAPH-6295",
    "daIDEOGRAPH-6355daIDEOGRAPH-4E00daIDEOGRAPH-4E09daIDEOGRAPH-904AdaIDEOGRAPH-5DE6",
    "daIDEOGRAPH-4E2DdaIDEOGRAPH-53F3daIDEOGRAPH-6307daIDEOGRAPH-8D70daIDEOGRAPH-6253",
    "daIDEOGRAPH-7981daIDEOGRAPH-7A7AdaIDEOGRAPH-5408daIDEOGRAPH-6E80daIDEOGRAPH-6709",
    "daIDEOGRAPH-6708daIDEOGRAPH-7533daIDEOGRAPH-5272daIDEOGRAPH-55B6daIDEOGRAPH-914D",
    "aaTORTOISE SHELL BRACKETED CJK UNIFIED IDEOGRAPH-672CfaIDEOGRAPH-4E09faIDEOGRAPH-4E8C",
    "faIDEOGRAPH-5B89faIDEOGRAPH-70B9faIDEOGRAPH-6253faIDEOGRAPH-76D7faIDEOGRAPH-52DD",
    "faIDEOGRAPH-6557aaCIRCLED IDEOGRAPH ADVANTAGEcaACCEPTaaROUNDED SYMBOL FOR FUdaLUdaSHOUdaXI",
    "daSHUANGXIdaCAIaaCYCLONEaaFOGGYaaCLOSED UMBRELLAaaNIGHT WITH STARSaaSUNRISE OVER MOUNTAINSba",
    "aaCITYSCAPE AT DUSKaaSUNSET OVER BUILDINGSaaRAINBOWaaBRIDGE AT NIGHTaaWATER WAVEaaVOLCANO",
    "aaMILKY WAYaaEARTH GLOBE EUROPE-AFRICAcaAMERICAScaASIA-AUSTRALIAaaGLOBE WITH MERIDIANS",
    "aaNEW MOON SYMBOLacWAXING CRESCENTacFIRST QUARTERacWAXING GIBBOUSacFULLacWANING GIBBOUS",
    "acLAST QUARTERacWANING CRESCENTaaCRESCENT MOONaaNEW MOON WITH FACEadFIRST QUARTERaeLASTadFULL",
    "acSUNaaGLOWING STARabSHOOTINGaaTHERMOMETERaaBLACK DROPLETaaWHITE SUNcaWITH SMALL CLOUD",
    "cbBEHINDeaWITH RAINadcaSNOWcaLIGHTNINGcaTORNADOaaFOGaaWIND BLOWING FACEaaHOT DOGaaTACO",
    "aaBURRITOaaCHESTNUTaaSEEDLINGaaEVERGREEN TREEabDECIDUOUSabPALMaaCACTUSaaHOT PEPPERaaTULIP",
    "aaCHERRY BLOSSOMaaROSEaaHIBISCUSaaSUNFLOWERaaBLOSSOMaaEAR OF MAIZEcaRICEaaHERB",
    "aaFOUR LEAF CLOVERaaMAPLE LEAFabFALLENaaLEAF FLUTTERING IN WINDaaMUSHROOMaaTOMATOaaAUBERGINE",
    "aaGRAPESaaMELONaaWATERMELONaaTANGERINEaaLEMONaaBANANAaaPINEAPPLEaaRED APPLEabGREENaaPEAR",
    "aaPEACHaaCHERRIESaaSTRAWBERRYaaHAMBURGERaaSLICE OF PIZZAaaMEAT ON BONEaaPOULTRY LEG",
    "aaRICE CRACKERbaBALLaaCOOKED RICEabCURRY ANDaaSTEAMING BOWLaaSPAGHETTIaaBREADaaFRENCH FRIES",
    "aaROASTED SWEET POTATOaaDANGOaaODENaaSUSHIaaFRIED SHRIMPaaFISH CAKE WITH SWIRL DESIGN",
    "aaSOFT ICE CREAMaaSHAVED ICEaaICE CREAMaaDOUGHNUTaaCOOKIEaaCHOCOLATE BARaaCANDYaaLOLLIPOP",
    "aaCUSTARDaaHONEY POTaaSHORTCAKEaaBENTO BOXaaPOT OF FOODaaCOOKINGaaFORK AND KNIFE",
    "aaTEACUP WITHOUT HANDLEaaSAKE BOTTLE AND CUPaaWINE GLASSabCOCKTAILaaTROPICAL DRINKaaBEER MUG",
    "aaCLINKING BEER MUGSaaBABY BOTTLEaaFORK AND KNIFE WITH PLATEaaBOTTLE WITH POPPING CORK",
    "aaPOPCORNaaRIBBONaaWRAPPED PRESENTaaBIRTHDAY CAKEaaJACK-O-LANTERNaaCHRISTMAS TREE",
    "aaFATHER CHRISTMASaaFIREWORKSaaFIREWORK SPARKLERaaBALLOONaaPARTY POPPERaaCONFETTI BALL",
    "aaTANABATA TREEaaCROSSED FLAGSaaPINE DECORATIONaaJAPANESE DOLLSaaCARP STREAMERaaWIND CHIME",
    "aaMOON VIEWING CEREMONYaaSCHOOL SATCHELaaGRADUATION CAPaaHEART WITH TIP ON THE LEFT",
    "aaBOUQUET OF FLOWERSaaMILITARY MEDALaaREMINDER RIBBONaaMUSICAL KEYBOARD WITH JACKS",
    "aaSTUDIO MICROPHONEaaLEVEL SLIDERaaCONTROL KNOBSaaBEAMED ASCENDING MUSICAL NOTESbcDESCENDING",
    "aaFILM FRAMESaaADMISSION TICKETSaaCAROUSEL HORSEaaFERRIS WHEELaaROLLER COASTER",
    "aaFISHING POLE AND FISHaaMICROPHONEaaMOVIE CAMERAaaCINEMAaaHEADPHONEaaARTIST PALETTEaaTOP HAT",
    "aaCIRCUS TENTaaTICKETaaCLAPPER BOARDaaPERFORMING ARTSaaVIDEO GAMEaaDIRECT HITaaSLOT MACHINE",
    "aaBILLIARDSaaGAME DIEaaBOWLINGaaFLOWER PLAYING CARDSaaMUSICAL NOTEaaMULTIPLE MUSICAL NOTES",
    "aaSAXOPHONEaaGUITARaaMUSICAL KEYBOARDaaTRUMPETaaVIOLINaaMUSICAL SCORE",
    "aaRUNNING SHIRT WITH SASHaaTENNIS RACQUET AND BALLaaSKI AND SKI BOOTaaBASKETBALL AND HOOP",
    "aaCHEQUERED FLAGaaSNOWBOARDERaaRUNNERaaSURFERaaSPORTS MEDALaaTROPHYaaHORSE RACING",
    "aaAMERICAN FOOTBALLabRUGBYaaSWIMMERaaWEIGHT LIFTERaaGOLFERaaRACING MOTORCYCLEbaCAR",
    "aaCRICKET BAT AND BALLaaVOLLEYBALLaaFIELD HOCKEY STICK AND BALLaaICE HOCKEY STICK AND PUCK",
    "aaTABLE TENNIS PADDLE AND BALLaaSNOW CAPPED MOUNTAINaaCAMPINGaaBEACH WITH UMBRELLA",
    "aaBUILDING CONSTRUCTIONaaHOUSE BUILDINGSaaCITYSCAPEaaDERELICT HOUSE BUILDINGabCLASSICAL",
    "aaDESERTbaISLANDaaNATIONAL PARKaaSTADIUMaaHOUSE BUILDINGbaWITH GARDENaaOFFICE BUILDING",
    "aaJAPANESE POST OFFICEacEUROPEANaaHOSPITALaaBANKaaAUTOMATED TELLER MACHINEaaHOTELabLOVE",
    "aaCONVENIENCE STOREaaSCHOOLaaDEPARTMENT STOREaaFACTORYaaIZAKAYA LANTERNaaJAPANESE CASTLE",
    "abEUROPEANaaWHITE PENNANTabBLACKaaWAVING WHITE FLAGbbBLACKaaROSETTEabBLACKaaLABEL",
    "aaBADMINTON RACQUET AND SHUTTLECOCKaaBOW AND ARROWaaAMPHORA",
    "aaEMOJI MODIFIER FITZPATRICK TYPE-1-2daTYPE-3daTYPE-4daTYPE-5daTYPE-6aaRATaaMOUSEaaOX",
    "aaWATER BUFFALOaaCOWaaTIGERaaLEOPARDaaRABBITaaCATaaDRAGONaaCROCODILEaaWHALEaaSNAILaaSNAKE",
    "aaHORSEaaRAMaaGOATaaSHEEPaaMONKEYaaROOSTERaaCHICKENaaDOGaaPIGaaBOARaaELEPHANTaaOCTOPUS",
    "aaSPIRAL SHELLaaBUGaaANTaaHONEYBEEaaLADY BEETLEaaFISHabTROPICALaaBLOWFISHaaTURTLE",
    "aaHATCHING CHICKabBABYacFRONT-FACINGaaBIRDaaPENGUINaaKOALAaaPOODLEaaDROMEDARY CAMELabBACTRIAN",
    "aaDOLPHINaaMOUSE FACEabCOWabTIGERabRABBITabCATabDRAGONaaSPOUTING WHALEaaHORSE FACEabMONKEY",
    "abDOGabPIGabFROGabHAMSTERabWOLFabBEARabPANDAaaPIG NOSEaaPAW PRINTSaaCHIPMUNKaaEYESaaEYEaaEAR",
    "aaNOSEaaMOUTHaaTONGUEaaWHITE UP POINTING BACKHAND INDEXbdDOWNbdLEFTbdRIGHTaaFISTED HAND SIGN",
    "acWAVINGacOKabTHUMBS UPbbDOWNabCLAPPING HANDSacOPENaaCROWNaaWOMANS HATaaEYEGLASSESaaNECKTIE",
    "aaT-SHIRTaaJEANSaaDRESSaaKIMONOaaBIKINIaaWOMANS CLOTHESaaPURSEaaHANDBAGaaPOUCHaaMANS SHOE",
    "abATHLETICabHIGH-HEELEDaaWOMANS SANDALbaBOOTSaaFOOTPRINTSaaBUST IN SILHOUETTEacBUSTSaaBOY",
    "aaGIRLaaMANaaWOMANaaFAMILYaaMAN AND WOMAN HOLDING HANDSacTWO MENbcWOMENaaPOLICE OFFICER",
    "aaWOMAN WITH BUNNY EARSaaBRIDE WITH VEILaaPERSON WITH BLOND HAIRaaMAN WITH GUA PI MAOcaTURBAN",
    "aaOLDER MANbaWOMANaaBABYaaCONSTRUCTION WORKERaaPRINCESSaaJAPANESE OGREbaGOBLINaaGHOST",
    "aaBABY ANGELaaEXTRATERRESTRIAL ALIENaaALIEN MONSTERaaIMPaaSKULLaaINFORMATION DESK PERSON",
    "aaGUARDSMANaaDANCERaaLIPSTICKaaNAIL POLISHaaFACE MASSAGEaaHAIRCUTaaBARBER POLEaaSYRINGEaaPILL",
    "aaKISS MARKaaLOVE LETTERaaRINGaaGEM STONEaaKISSaaBOUQUETaaCOUPLE WITH HEARTaaWEDDING",
    "aaBEATING HEARTabBROKENaaTWO HEARTSaaSPARKLING HEARTabGROWINGaaHEART WITH ARROWaaBLUE HEART",
    "abGREENabYELLOWabPURPLEaaHEART WITH RIBBONaaREVOLVING HEARTSaaHEART DECORATION",
    "aaDIAMOND SHAPE WITH A DOT INSIDEaaELECTRIC LIGHT BULBaaANGER SYMBOLaaBOMBaaSLEEPING SYMBOL",
    "abCOLLISIONabSPLASHING SWEATaaDROPLETaaDASH SYMBOLaaPILE OF POOaaFLEXED BICEPSaaDIZZY SYMBOL",
    "aaSPEECH BALLOONabTHOUGHTaaWHITE FLOWERaaHUNDRED POINTS SYMBOLaaMONEY BAGaaCURRENCY EXCHANGE",
    "aaHEAVY DOLLAR SIGNaaCREDIT CARDaaBANKNOTE WITH YEN SIGNcbDOLLARcbEUROcbPOUND",
    "aaMONEY WITH WINGSaaCHART WITH UPWARDS TREND AND YEN SIGNaaSEATaaPERSONAL COMPUTERaaBRIEFCASE",
    "aaMINIDISCaaFLOPPY DISKaaOPTICAL DISCaaDVDaaFILE FOLDERacOPENaaPAGE WITH CURLbaFACING UP",
    "aaCALENDARabTEAR-OFFaaCARD INDEXaaCHART WITH UPWARDS TRENDcbDOWNWARDSaaBAR CHARTaaCLIPBOARD",
    "aaPUSHPINabROUNDaaPAPERCLIPaaSTRAIGHT RULERabTRIANGULARaaBOOKMARK TABSaaLEDGERaaNOTEBOOK",
    "baWITH DECORATIVE COVERaaCLOSED BOOKabOPENabGREENabBLUEabORANGEaaBOOKSaaNAME BADGEaaSCROLL",
    "aaMEMOaaTELEPHONE RECEIVERaaPAGERaaFAX MACHINEaaSATELLITE ANTENNAaaPUBLIC ADDRESS LOUDSPEAKER",
    "aaCHEERING MEGAPHONEaaOUTBOX TRAYabINBOXaaPACKAGEaaE-MAIL SYMBOLaaINCOMING ENVELOPE",
    "aaENVELOPE WITH DOWNWARDS ARROW ABOVEaaCLOSED MAILBOX WITH LOWERED FLAGdbRAISEDaeOPEN",
    "dbLOWEREDaaPOSTBOXaaPOSTAL HORNaaNEWSPAPERaaMOBILE PHONEcaWITH RIGHTWARDS ARROW AT LEFT",
    "aaVIBRATION MODEaaMOBILE PHONE OFFaaNO MOBILE PHONESaaANTENNA WITH BARSaaCAMERAbaWITH FLASH",
    "aaVIDEO CAMERAaaTELEVISIONaaRADIOaaVIDEOCASSETTEaaFILM PROJECTORaaPORTABLE STEREO",
    "aaPRAYER BEADSaaTWISTED RIGHTWARDS ARROWSabCLOCKWISE RIGHTWARDS AND LEFTWARDS OPEN CIRCLE",
    "haWITH CIRCLED ONE OVERLAYbaDOWNWARDS AND UPWARDS OPEN CIRCLE ARROWSagANTICLOCKWISE",
    "aaLOW BRIGHTNESS SYMBOLacHIGHaaSPEAKER WITH CANCELLATION STROKEbabaWITH ONE SOUND WAVE",
    "caTHREE SOUND WAVESaaBATTERYaaELECTRIC PLUGaaLEFT-POINTING MAGNIFYING GLASSacRIGHT-POINTING",
    "aaLOCK WITH INK PENaaCLOSED LOCK WITH KEYabaaLOCKabOPENaaBELLbaWITH CANCELLATION STROKE",
    "aaBOOKMARKaaLINK SYMBOLaaRADIO BUTTONaaBACK WITH LEFTWARDS ARROW ABOVEaeEND",
    "acON WITH EXCLAMATION MARK WITH LEFT RIGHTacSOON WITH RIGHTWARDSacTOP WITH UPWARDS",
    "aaNO ONE UNDER EIGHTEEN SYMBOLaaKEYCAP TENaaINPUT SYMBOL FOR LATIN CAPITAL LETTERSebSMALL",
    "daNUMBERSdaSYMBOLSdaLATIN LETTERSaaFIREaaELECTRIC TORCHaaWRENCHaaHAMMERaaNUT AND BOLTaaHOCHO",
    "aaPISTOLaaMICROSCOPEaaTELESCOPEaaCRYSTAL BALLaaSIX POINTED STAR WITH MIDDLE DOT",
    "aaJAPANESE SYMBOL FOR BEGINNERaaTRIDENT EMBLEMaaBLACK SQUARE BUTTONacWHITEaaLARGE RED CIRCLE",
    "bbBLUEbaORANGE DIAMONDbbBLUEabSMALL ORANGEbbBLUEaaUP-POINTING RED TRIANGLEacDOWN-POINTING",
    "acUP-POINTING SMALLadDOWN-POINTINGaaLOWER RIGHT SHADOWED WHITE CIRCLEaeUPPER",
    "aaCIRCLED CROSS POMMEEaaCROSS POMMEE WITH HALF-CIRCLE BELOWca",
    "aaNOTCHED LEFT SEMICIRCLE WITH THREE DOTSbeRIGHTaaSYMBOL FOR MARKS CHAPTERaaWHITE LATIN CROSS",
    "acHEAVYabCELTICaaOM SYMBOLaaDOVE OF PEACEaaKAABAaaMOSQUEaaSYNAGOGUE",
    "aaMENORAH WITH NINE BRANCHESaaBOWL OF HYGIEIAaaCLOCK FACE ONE OCLOCKcbTWOcbTHREEcbFOURcbFIVE",
    "cbSIXcbSEVENcbEIGHTcbNINEcbTENcbELEVENcbTWELVEcaONE-THIRTYcaTWO-THIRTYcaTHREE-THIRTY",
    "caFOUR-THIRTYcaFIVE-THIRTYcaSIX-THIRTYcaSEVEN-THIRTYcaEIGHT-THIRTYcaNINE-THIRTYcaTEN-THIRTY",
    "caELEVEN-THIRTYcaTWELVE-THIRTYaaRIGHT SPEAKERcaWITH ONE SOUND WAVEdaTHREE SOUND WAVES",
    "aaBULLHORNbaWITH SOUND WAVESaaRINGING BELLaaBOOKaaCANDLEaaMANTELPIECE CLOCK",
    "aaBLACK SKULL AND CROSSBONESaaNO PIRACYaaHOLEaaMAN IN BUSINESS SUIT LEVITATINGaaSLEUTH OR SPY",
    "aaDARK SUNGLASSESaaSPIDERbaWEBaaJOYSTICKaaMAN DANCINGaaLEFT HAND TELEPHONE RECEIVER",
    "aaTELEPHONE RECEIVER WITH PAGEaaRIGHT HAND TELEPHONE RECEIVERaaWHITE TOUCHTONE TELEPHONE",
    "acBLACKaaTELEPHONE ON TOP OF MODEMaaCLAMSHELL MOBILE PHONEaaBACK OF ENVELOPEabSTAMPED",
    "aaENVELOPE WITH LIGHTNINGaaFLYING ENVELOPEabPEN OVER STAMPEDaaLINKED PAPERCLIPS",
    "aaBLACK PUSHPINaaLOWER LEFT PENCILcaBALLPOINT PENcbFOUNTAINcaPAINTBRUSHcaCRAYON",
    "aaLEFT WRITING HANDaaTURNED OK HAND SIGNaaRAISED HAND WITH FINGERS SPLAYEDafREVERSED",
    "baTHUMBS UP SIGNcbDOWNbaVICTORY HANDbaHAND WITH MIDDLE FINGER EXTENDED",
    "aaRAISED HAND WITH PART BETWEEN MIDDLE AND RING FINGERSaaWHITE DOWN POINTING LEFT HAND INDEX",
    "abSIDEWAYS WHITE LEFT POINTINGccRIGHTbcBLACK LEFTccRIGHTabBLACK LEFT POINTING BACKHANDbdRIGHT",
    "abSIDEWAYS WHITE UP POINTINGccDOWNbcBLACK UPccDOWNabBLACK UP POINTING BACKHANDbdDOWNbaHEART",
    "aaDESKTOP COMPUTERaaKEYBOARD AND MOUSEaaTHREE NETWORKED COMPUTERSaaPRINTERaaPOCKET CALCULATOR",
    "aaBLACK HARD SHELL FLOPPY DISKaeWHITEadSOFTaaTAPE CARTRIDGEaaWIRED KEYBOARDaaONE BUTTON MOUSE",
    "acTWOacTHREEaaTRACKBALLaaOLD PERSONAL COMPUTERaaHARD DISKaaSCREENaaPRINTER ICONabFAX",
    "abOPTICAL DISCaaDOCUMENT WITH TEXTdaAND PICTUREcbacFRAMEcaTILEScaAN XaaBLACK FOLDERababOPEN",
    "aaCARD INDEX DIVIDERSbaFILE BOXaaFILE CABINETaaEMPTY NOTEcaPAGEcaPADaaNOTEbaPAGEbaPAD",
    "aaEMPTY DOCUMENTbaPAGEbaPAGESaaDOCUMENTaaPAGEaaPAGESaaWASTEBASKETaaSPIRAL NOTE PADbbCALENDAR",
    "aaDESKTOP WINDOWaaMINIMIZEaaMAXIMIZEaaOVERLAPaaCLOCKWISE RIGHT AND LEFT SEMICIRCLE ARROWS",
    "aaCANCELLATION XaaINCREASE FONT SIZE SYMBOLadDECREASEaaCOMPRESSIONaaOLD KEY",
    "aaROLLED-UP NEWSPAPERaaPAGE WITH CIRCLED TEXTaaSTOCK CHARTaaDAGGER KNIFEaaLIPS",
    "aaSPEAKING HEAD IN SILHOUETTEaaTHREE RAYS ABOVEcaBELOWcaLEFTcaRIGHTaaLEFT SPEECH BUBBLE",
    "acRIGHTaaTWO SPEECH BUBBLESacTHREEaaLEFT THOUGHT BUBBLEacRIGHTabLEFT ANGERacRIGHTabMOOD",
    "acLIGHTNINGcaaaBALLOT BOX WITH BALLOTbaSCRIPT XbcBOX WITHbcBOLDbdBOX WITHaaLIGHT CHECK MARK",
    "aaBALLOT BOX WITH BOLD CHECKaaWORLD MAPaaMOUNT FUJIaaTOKYO TOWERaaSTATUE OF LIBERTY",
    "aaSILHOUETTE OF JAPANaaMOYAIaaGRINNING FACEcaWITH SMILING EYESaaFACE WITH TEARS OF JOY",
    "aaSMILING FACE WITH OPEN MOUTHfaAND SMILING EYESgaCOLD SWEATgaTIGHTLY-CLOSED EYESdaHALO",
    "daHORNSaaWINKING FACEaaSMILING FACE WITH SMILING EYESaaFACE SAVOURING DELICIOUS FOOD",
    "aaRELIEVED FACEaaSMILING FACE WITH HEART-SHAPED EYESdaSUNGLASSESaaSMIRKING FACEabNEUTRAL",
    "abEXPRESSIONLESSabUNAMUSEDaaFACE WITH COLD SWEATaaPENSIVE FACEabCONFUSEDabCONFOUNDEDabKISSING",
    "aaFACE THROWING A KISSaaKISSING FACE WITH SMILING EYESdbCLOSEDaaFACE WITH STUCK-OUT TONGUE",
    "eaAND WINKING EYEfaTIGHTLY-CLOSED EYESaaDISAPPOINTED FACEabWORRIEDabANGRYabPOUTINGabCRYING",
    "abPERSEVERINGaaFACE WITH LOOK OF TRIUMPHaaDISAPPOINTED BUT RELIEVED FACE",
    "aaFROWNING FACE WITH OPEN MOUTHaaANGUISHED FACEabFEARFULabWEARYabSLEEPYabTIREDabGRIMACING",
    "abLOUDLY CRYINGaaFACE WITH OPEN MOUTHaaHUSHED FACEaaFACE WITH OPEN MOUTH AND COLD SWEAT",
    "baSCREAMING IN FEARaaASTONISHED FACEabFLUSHEDabSLEEPINGabDIZZYaaFACE WITHOUT MOUTH",
    "baWITH MEDICAL MASKaaGRINNING CAT FACE WITH SMILING EYESaaCAT FACE WITH TEARS OF JOY",
    "aaSMILING CAT FACE WITH OPEN MOUTHeaHEART-SHAPED EYESaaCAT FACE WITH WRY SMILE",
    "aaKISSING CAT FACE WITH CLOSED EYESaaPOUTING CAT FACEacCRYINGacWEARYabSLIGHTLY FROWNING",
    "bbSMILINGabUPSIDE-DOWNaaFACE WITH ROLLING EYEScaNO GOOD GESTUREcbOKaaPERSON BOWING DEEPLY",
    "aaSEE-NO-EVIL MONKEYabHEAR-NO-EVILabSPEAK-NO-EVILaaHAPPY PERSON RAISING ONE HAND",
    "aaPERSON RAISING BOTH HANDS IN CELEBRATIONbaFROWNINGbaWITH POUTING FACEcaFOLDED HANDS",
    "aaNORTH WEST POINTING LEAFadSOUTHacNORTH EASTadSOUTHacTURNED NORTH WESTbdSOUTHbcNORTH EAST",
    "bdSOUTHabNORTH WEST POINTING VINEaeSOUTHadNORTH EASTaeSOUTHadHEAVY NORTH WESTbeSOUTH",
    "bdNORTH EASTbeSOUTHaaNORTH WEST POINTING BUDadSOUTHacNORTH EASTadSOUTHacHEAVY NORTH WEST",
    "bdSOUTHbcNORTH EASTbdSOUTHaaHOLLOW QUILT SQUARE ORNAMENTeaIN BLACK SQUARE",
    "aaSOLID QUILT SQUARE ORNAMENTeaIN BLACK SQUAREaaLEFTWARDS ROCKETabUPWARDSabRIGHTWARDS",
    "abDOWNWARDSaaSCRIPT LIGATURE ET ORNAMENTaeHEAVYacLIGATURE OPENaeHEAVYbbAMPERSANDacSWASH",
    "abSANS-SERIF HEAVY DOUBLE TURNED COMMA QUOTATION MARKdecfLOWabHEAVY INTERROBANGacSANS-SERIF",
    "adHEAVYaaVERY HEAVY SOLIDUScbREVERSEaaCHECKER BOARDacREVERSEaaROCKETaaHELICOPTER",
    "aaSTEAM LOCOMOTIVEaaRAILWAY CARaaHIGH-SPEED TRAINcaWITH BULLET NOSEaaTRAINaaMETROaaLIGHT RAIL",
    "aaSTATIONaaTRAMbaCARaaBUSabONCOMINGaaTROLLEYBUSaaBUS STOPaaMINIBUSaaAMBULANCEaaFIRE ENGINE",
    "aaPOLICE CARacONCOMINGaaTAXIabONCOMINGaaAUTOMOBILEabONCOMINGaaRECREATIONAL VEHICLE",
    "aaDELIVERY TRUCKaaARTICULATED LORRYaaTRACTORaaMONORAILaaMOUNTAIN RAILWAYabSUSPENSION",
    "aaMOUNTAIN CABLEWAYaaAERIAL TRAMWAYaaSHIPaaROWBOATaaSPEEDBOATaaHORIZONTAL TRAFFIC LIGHT",
    "acVERTICALaaCONSTRUCTION SIGNaaPOLICE CARS REVOLVING LIGHTaaTRIANGULAR FLAG ON POSTaaDOOR",
    "aaNO ENTRY SIGNaaSMOKING SYMBOLacNOabPUT LITTER IN ITS PLACEabDO NOT LITTERabPOTABLE WATER",
    "acNON-POTABLEaaBICYCLEaaNO BICYCLESaaBICYCLISTabMOUNTAINaaPEDESTRIANaaNO PEDESTRIANS",
    "aaCHILDREN CROSSINGaaMENS SYMBOLabWOMENSaaRESTROOMaaBABY SYMBOLaaTOILETaaWATER CLOSETaaSHOWER",
    "aaBATHaaBATHTUBaaPASSPORT CONTROLaaCUSTOMSaaBAGGAGE CLAIMaaLEFT LUGGAGE",
    "aaTRIANGLE WITH ROUNDED CORNERSaaPROHIBITED SIGNaaCIRCLED INFORMATION SOURCEaaBOYS SYMBOL",
    "abGIRLSaaCOUCH AND LAMPaaSLEEPING ACCOMMODATIONaaSHOPPING BAGSaaBELLHOP BELLaaBED",
    "aaPLACE OF WORSHIPaaOCTAGONAL SIGNaaSHOPPING TROLLEYaaSTUPAaaPAGODAaaHINDU TEMPLEaaHUT",
    "aaELEVATORaaPLAYGROUND SLIDEaaWHEELaaRING BUOYaaHAMMER AND WRENCHaaSHIELDaaOIL DRUMaaMOTORWAY",
    "aaRAILWAY TRACKaaMOTOR BOATaaUP-POINTING MILITARY AIRPLANEbbbbSMALLacabNORTHEAST-POINTING",
    "aaAIRPLANE DEPARTUREbaARRIVINGaaSATELLITEaaONCOMING FIRE ENGINEaaDIESEL LOCOMOTIVE",
    "aaPASSENGER SHIPaaSCOOTERabMOTORaaCANOEaaSLEDaaFLYING SAUCERaaSKATEBOARDaaAUTO RICKSHAW",
    "aaPICKUP TRUCKaaROLLER SKATEaaALCHEMICAL SYMBOL FOR QUINTESSENCEdaAIRdaFIREdaEARTHdaWATER",
    "daAQUAFORTISdaAQUA REGIAeaREGIA-2eaVITAEeaVITAE-2daVINEGARdaVINEGAR-2daVINEGAR-3daSULFUR",
    "dbPHILOSOPHERSdbBLACKdaMERCURY SUBLIMATEeaSUBLIMATE-2eaSUBLIMATE-3daCINNABARdaSALTdaNITRE",
    "daVITRIOLdaVITRIOL-2daROCK SALTeaSALT-2daGOLDdaSILVERdaIRON OREeaORE-2daCROCUS OF IRON",
    "dcREGULUSdaCOPPER OREdbIRON-COPPERdaSUBLIMATE OF COPPERdcCROCUSfaCOPPER-2daCOPPER ANTIMONIATE",
    "dcSALT OFdaSUBLIMATE OF SALT OF COPPERdaVERDIGRISdaTIN OREdbLEADdbANTIMONY",
    "daSUBLIMATE OF ANTIMONYdcSALTddSUBLIMATE OFdcVINEGARdcREGULUSfaANTIMONY-2eadaREGULUS-2",
    "daREGULUS-3daREGULUS-4daALKALIdaALKALI-2daMARCASITEdaSAL-AMMONIACdaARSENICdaREALGAR",
    "daREALGAR-2daAURIPIGMENTdaBISMUTH OREdaTARTARdaTARTAR-2daQUICK LIMEdaBORAXdaBORAX-2daBORAX-3",
    "daALUMdaOILdaSPIRITdaTINCTUREdaGUMdaWAXdaPOWDERdaCALXdaTUTTYdaCAPUT MORTUUMdaSCEPTER OF JOVE",
    "daCADUCEUSdaTRIDENTdbSTARREDdaLODESTONEdaSOAPdaURINEdaHORSE DUNGdaASHESdbPOTdaBRICKdbPOWDERED",
    "daAMALGAMdaSTRATUM SUPER STRATUMfaSTRATUM-2daSUBLIMATIONdaPRECIPITATEdaDISTILLdaDISSOLVE",
    "daDISSOLVE-2daPURIFYdaPUTREFACTIONdaCRUCIBLEdaCRUCIBLE-2daCRUCIBLE-3daCRUCIBLE-4daCRUCIBLE-5",
    "daALEMBICdaBATH OF MARYfaVAPOURSdaRETORTdaHOURdaNIGHTdaDAY-NIGHTdaMONTHdaHALF DRAMeaOUNCE",
    "aaBLACK LEFT-POINTING ISOSCELES RIGHT TRIANGLEbdUP-POINTINGbdRIGHT-POINTINGbdDOWN-POINTING",
    "baSLIGHTLY SMALL CIRCLEabMEDIUM BOLD WHITEadacHEAVYadVERYadEXTREMELY",
    "abWHITE CIRCLE CONTAINING BLACK SMALLaaROUND TARGETaaBLACK TINY SQUAREbbSLIGHTLY SMALL",
    "abLIGHT WHITEacMEDIUMacBOLDacHEAVYadVERYadEXTREMELYabWHITE SQUARE CONTAINING BLACK VERY SMALL",
    "ebMEDIUMaaSQUARE TARGETaaBLACK TINY DIAMONDbbVERY SMALLbcMEDIUM",
    "acWHITE DIAMOND CONTAINING BLACK VERYebMEDIUMaaDIAMOND TARGETaaBLACK TINY LOZENGEbbVERY SMALL",
    "bcMEDIUMacWHITE LOZENGE CONTAINING BLACKaaTHIN GREEK CROSSacLIGHTacMEDIUMacBOLDadVERYbcHEAVY",
    "adEXTREMELYaaTHIN SALTIREabLIGHTabMEDIUMabBOLDabHEAVYacVERYacEXTREMELY",
    "aaLIGHT FIVE SPOKED ASTERISKadMEDIUMadBOLDadHEAVYaeVERYaeEXTREMELYacLIGHT SIXadMEDIUMadBOLD",
    "adHEAVYaeVERYaeEXTREMELYacLIGHT EIGHTadMEDIUMadBOLDadHEAVYaeVERY",
    "aaLIGHT THREE POINTED BLACK STARaeMEDIUMaeabMEDIUM THREE POINTED PINWHEEL",
    "abLIGHT FOUR POINTED BLACKaeMEDIUMaeabMEDIUM FOUR POINTED PINWHEELaeREVERSE LIGHT",
    "abLIGHT FIVE POINTED BLACKaeHEAVYadMEDIUM SIXaeHEAVYabSIX POINTED PINWHEEL",
    "abMEDIUM EIGHT POINTED BLACKaeHEAVYafVERYabHEAVY EIGHT POINTED PINWHEEL",
    "abLIGHT TWELVE POINTED BLACKaeHEAVYdbPINWHEELaaCIRCLED TRIANGLEacNEGATIVEaaCIRCLED SQUARE",
    "acNEGATIVEaaLARGE ORANGE CIRCLEbbYELLOWbbGREENbbPURPLEbbBROWNbaRED SQUAREbbBLUEbbORANGE",
    "bbYELLOWbbGREENbbPURPLEbbBROWNaaHEAVY EQUALS SIGN",
    "aaLEFTWARDS ARROW WITH SMALL TRIANGLE ARROWHEADafUPWARDSafRIGHTWARDSafDOWNWARDS",
    "acLEFTWARDS ARROW WITH MEDIUMafUPWARDSafRIGHTWARDSafDOWNWARDSacLEFTWARDS ARROW WITH LARGE",
    "afUPWARDSafRIGHTWARDSafDOWNWARDSabLEFTWARDS ARROW WITH SMALL EQUILATERALafUPWARDSafRIGHTWARDS",
    "afDOWNWARDSacLEFTWARDS ARROW WITHaeUPWARDSaeRIGHTWARDSaeDOWNWARDSaeHEAVY LEFTWARDSbeUPWARDS",
    "beRIGHTWARDSbeDOWNWARDSbcLEFTWARDS ARROW WITH LARGEbfUPWARDSbfRIGHTWARDSbfDOWNWARDS",
    "aaLEFTWARDS TRIANGLE-HEADED ARROW WITH NARROW SHAFTafUPWARDSafRIGHTWARDSafDOWNWARDS",
    "abLEFTWARDS TRIANGLE-HEADED ARROW WITH MEDIUMafUPWARDSafRIGHTWARDSafDOWNWARDS",
    "abLEFTWARDS TRIANGLE-HEADED ARROW WITH BOLDafUPWARDSafRIGHTWARDSafDOWNWARDS",
    "abLEFTWARDS TRIANGLE-HEADED ARROW WITH HEAVYafUPWARDSafRIGHTWARDSafDOWNWARDS",
    "acLEFTWARDS TRIANGLE-HEADED ARROW WITH VERYagUPWARDSagRIGHTWARDSagDOWNWARDS",
    "aaLEFTWARDS FINGER-POST ARROWacUPWARDSacRIGHTWARDSacDOWNWARDSabLEFTWARDS SQUAREDacUPWARDS",
    "acRIGHTWARDSacDOWNWARDSabLEFTWARDS COMPRESSEDacUPWARDSacRIGHTWARDSacDOWNWARDS",
    "acLEFTWARDS HEAVYadUPWARDSadRIGHTWARDSadDOWNWARDSabLEFTWARDS HEAVYacUPWARDSacRIGHTWARDS",
    "acDOWNWARDSabLEFTWARDS SANS-SERIFacUPWARDSacRIGHTWARDSacDOWNWARDSacNORTH WESTbcEASTadSOUTH",
    "bcWESTacLEFT RIGHTacUP DOWNabWIDE-HEADED LEFTWARDS LIGHT BARBbdUPWARDSbdRIGHTWARDSbdDOWNWARDS",
    "bdNORTH WESTcdEASTbeSOUTHcdWESTbcLEFTWARDSbcUPWARDSbcRIGHTWARDSbcDOWNWARDSbcNORTH WESTccEAST",
    "bdSOUTHccWESTbcLEFTWARDS MEDIUMbdUPWARDSbdRIGHTWARDSbdDOWNWARDSbdNORTH WESTcdEASTbeSOUTH",
    "cdWESTbcLEFTWARDS HEAVYbdUPWARDSbdRIGHTWARDSbdDOWNWARDSbdNORTH WESTcdEASTbeSOUTHcdWEST",
    "bdLEFTWARDS VERYbeUPWARDSbeRIGHTWARDSbeDOWNWARDSbeNORTH WESTceEASTbfSOUTHceWEST",
    "aaLEFTWARDS TRIANGLE ARROWHEADacUPWARDSacRIGHTWARDSacDOWNWARDSacLEFTWARDS WHITE ARROW WITHIN",
    "afUPWARDSafRIGHTWARDSafDOWNWARDSaaLEFTWARDS ARROW WITH NOTCHED TAILaeUPWARDSaeRIGHTWARDS",
    "aeDOWNWARDSaaHEAVY ARROW SHAFT WIDTH ONEeaTWO THIRDSeaONE HALFfaTHIRD",
    "aaLEFTWARDS BOTTOM-SHADED WHITE ARROWacRIGHTWARDS BOTTOM SHADEDadLEFTWARDS TOPaeRIGHTWARDS",
    "acLEFTWARDS LEFT-SHADEDacRIGHTWARDS RIGHT-SHADEDadLEFTWARDSacRIGHTWARDS LEFT-SHADED",
    "acLEFTWARDS BACK-TILTED SHADOWEDaeRIGHTWARDSadLEFTWARDS FRONT-TILTEDaeRIGHTWARDS",
    "aaWHITE ARROW SHAFT WIDTH ONEeaTWO THIRDSaaARROW POINTING UPWARDS THEN NORTH WEST",
    "cbRIGHTWARDS THEN CURVING SOUTHaaCIRCLED CROSS FORMEE WITH FOUR DOTSebTWOda",
    "aaLEFT HALF CIRCLE WITH FOUR DOTSebTHREEebTWOeaDOTdaaaDOWNWARD FACING HOOKcbNOTCHED",
    "caHOOK WITH DOTcdNOTCHEDaaPINCHED FINGERSaaWHITE HEARTabBROWNaaPINCHING HAND",
    "aaZIPPER-MOUTH FACEabMONEY-MOUTHaaFACE WITH THERMOMETERaaNERD FACEabTHINKING",
    "aaFACE WITH HEAD-BANDAGEaaROBOT FACEabHUGGINGaaSIGN OF THE HORNSaaCALL ME HAND",
    "abRAISED BACK OFaaLEFT-FACING FISTabRIGHT-FACINGaaHANDSHAKE",
    "aaHAND WITH INDEX AND MIDDLE FINGERS CROSSEDaaI LOVE YOU HAND SIGNaaFACE WITH COWBOY HAT",
    "aaCLOWN FACEabNAUSEATEDaaROLLING ON THE FLOOR LAUGHINGaaDROOLING FACEabLYINGaaFACE PALM",
    "aaSNEEZING FACEaaFACE WITH ONE EYEBROW RAISEDaaGRINNING FACE WITH STAR EYES",
    "daONE LARGE AND ONE SMALL EYEaaFACE WITH FINGER COVERING CLOSED LIPS",
    "aaSERIOUS FACE WITH SYMBOLS COVERING MOUTHacSMILING FACE WITH SMILING EYES AND HAND",
    "aaFACE WITH OPEN MOUTH VOMITINGaaSHOCKED FACE WITH EXPLODING HEADaaPREGNANT WOMAN",
    "aaBREAST-FEEDINGaaPALMS UP TOGETHERaaSELFIEaaPRINCEaaMAN IN TUXEDOaaMOTHER CHRISTMASaaSHRUG",
    "aaPERSON DOING CARTWHEELaaJUGGLINGaaFENCERaaMODERN PENTATHLONaaWRESTLERSaaWATER POLO",
    "aaHANDBALLaaDIVING MASKaaWILTED FLOWERaaDRUM WITH DRUMSTICKSaaCLINKING GLASSESaaTUMBLER GLASS",
    "aaSPOONaaGOAL NETaaRIFLEaaFIRST PLACE MEDALacSECONDacTHIRDaaBOXING GLOVE",
    "aaMARTIAL ARTS UNIFORMaaCURLING STONEaaLACROSSE STICK AND BALLaaSOFTBALLaaFLYING DISC",
    "aaCROISSANTaaAVOCADOaaCUCUMBERaaBACONaaPOTATOaaCARROTaaBAGUETTE BREADaaGREEN SALAD",
    "aaSHALLOW PAN OF FOODaaSTUFFED FLATBREADaaEGGaaGLASS OF MILKaaPEANUTSaaKIWIFRUITaaPANCAKES",
    "aaDUMPLINGaaFORTUNE COOKIEaaTAKEOUT BOXaaCHOPSTICKSaaBOWL WITH SPOONaaCUP WITH STRAWaaCOCONUT",
    "aaBROCCOLIaaPIEaaPRETZELaaCUT OF MEATaaSANDWICHaaCANNED FOODaaLEAFY GREENaaMANGOaaMOON CAKE",
    "aaBAGELaaSMILING FACE WITH SMILING EYES AND THREE HEARTSaaYAWNING FACE",
    "aaSMILING FACE WITH TEARaaFACE WITH PARTY HORN AND PARTY HATcaUNEVEN EYES AND WAVY MOUTH",
    "aaOVERHEATED FACEabFREEZINGaaNINJAaaDISGUISED FACEaaFACE HOLDING BACK TEARS",
    "baWITH PLEADING EYESaaSARIaaLAB COATaaGOGGLESaaHIKING BOOTaaFLAT SHOEaaCRABaaLION FACE",
    "aaSCORPIONaaTURKEYaaUNICORN FACEaaEAGLEaaDUCKaaBATaaSHARKaaOWLaaFOX FACEaaBUTTERFLYaaDEER",
    "aaGORILLAaaLIZARDaaRHINOCEROSaaSHRIMPaaSQUIDaaGIRAFFE FACEabZEBRAaaHEDGEHOGaaSAUROPODaaT-REX",
    "aaCRICKETaaKANGAROOaaLLAMAaaPEACOCKaaHIPPOPOTAMUSaaPARROTaaRACCOONaaLOBSTERaaMOSQUITO",
    "aaMICROBEaaBADGERaaSWANaaMAMMOTHaaDODOaaSLOTHaaOTTERaaORANGUTANaaSKUNKaaFLAMINGOaaOYSTER",
    "aaBEAVERaaBISONaaSEALaaGUIDE DOGaaPROBING CANEaaEMOJI COMPONENT RED HAIRcbCURLYcaBALD",
    "caWHITE HAIRaaBONEaaLEGaaFOOTaaTOOTHaaSUPERHEROaaSUPERVILLAINaaSAFETY VEST",
    "aaEAR WITH HEARING AIDaaMOTORIZED WHEELCHAIRabMANUALaaMECHANICAL ARMbaLEGaaCHEESE WEDGE",
    "aaCUPCAKEaaSALT SHAKERaaBEVERAGE BOXaaGARLICaaONIONaaFALAFELaaWAFFLEaaBUTTERaaMATE DRINK",
    "aaICE CUBEaaBUBBLE TEAaaTROLLaaSTANDING PERSONabKNEELINGabDEAFaaFACE WITH MONOCLEaaADULT",
    "aaCHILDaaOLDER ADULTaaBEARDED PERSONaaPERSON WITH HEADSCARFbaIN STEAMY ROOMbaCLIMBING",
    "baIN LOTUS POSITIONaaMAGEaaFAIRYaaVAMPIREaaMERPERSONaaELFaaGENIEaaZOMBIEaaBRAINaaORANGE HEART",
    "aaBILLED CAPaaSCARFaaGLOVESaaCOATaaSOCKSaaRED GIFT ENVELOPEaaFIRECRACKERaaJIGSAW PUZZLE PIECE",
    "aaTEST TUBEaaPETRI DISHaaDNA DOUBLE HELIXaaCOMPASSaaABACUSaaFIRE EXTINGUISHERaaTOOLBOXaaBRICK",
    "aaMAGNETaaLUGGAGEaaLOTION BOTTLEaaSPOOL OF THREADaaBALL OF YARNaaSAFETY PINaaTEDDY BEAR",
    "aaBROOMaaBASKETaaROLL OF PAPERaaBAR OF SOAPaaSPONGEaaRECEIPTaaNAZAR AMULET",
    "aaNEUTRAL CHESS KINGcaQUEENcaROOKcaBISHOPcaKNIGHTcaPAWN",
    "aaWHITE CHESS KNIGHT ROTATED FORTY-FIVE DEGREESafBLACKafNEUTRAL",
    "abWHITE CHESS KING ROTATED NINETYcdQUEENcdROOKcdBISHOPcdKNIGHTcdPAWNadBLACK CHESS KINGcdQUEEN",
    "cdROOKcdBISHOPcdKNIGHTcdPAWNadNEUTRAL CHESS KINGcdQUEENcdROOKcdBISHOPcdKNIGHTcdPAWN",
    "abWHITE CHESS KNIGHT ROTATED ONE HUNDRED THIRTY-FIVEahBLACKahNEUTRALaaWHITE CHESS TURNED KING",
    "daQUEENdaROOKdaBISHOPdaKNIGHTdaPAWNaaBLACK CHESS TURNED KINGdaQUEENdaROOKdaBISHOPdaKNIGHT",
    "daPAWNaaNEUTRAL CHESS TURNED KINGdaQUEENdaROOKdaBISHOPdaKNIGHTdaPAWN",
    "aaWHITE CHESS KNIGHT ROTATED TWO HUNDRED TWENTY-FIVE DEGREESahBLACKahNEUTRAL",
    "abWHITE CHESS KING ROTATED TWO HUNDRED SEVENTYcfQUEENcfROOKcfBISHOPcfKNIGHTcfPAWN",
    "afBLACK CHESS KINGcfQUEENcfROOKcfBISHOPcfKNIGHTcfPAWNafNEUTRAL CHESS KINGcfQUEENcfROOK",
    "cfBISHOPcfKNIGHTcfPAWNabWHITE CHESS KNIGHT ROTATED THREE HUNDRED FIFTEENahBLACKahNEUTRAL",
    "aaWHITE CHESS EQUIHOPPERacBLACKacNEUTRALaaWHITE CHESS EQUIHOPPER ROTATED NINETY DEGREES",
    "afBLACKafNEUTRALaaWHITE CHESS KNIGHT-QUEENcaKNIGHT-ROOKcaKNIGHT-BISHOP",
    "aaBLACK CHESS KNIGHT-QUEENcaKNIGHT-ROOKcaKNIGHT-BISHOPaaXIANGQI RED GENERALcaMANDARIN",
    "caELEPHANTcaHORSEcaCHARIOTcaCANNONcaSOLDIERbaBLACK GENERALcaMANDARINcaELEPHANTcaHORSE",
    "caCHARIOTcaCANNONcaSOLDIERaaBALLET SHOESaaONE-PIECE SWIMSUITaaBRIEFSaaSHORTSaaTHONG SANDAL",
    "aaDROP OF BLOODaaADHESIVE BANDAGEaaSTETHOSCOPEaaX-RAYaaCRUTCHaaYO-YOaaKITEaaPARACHUTE",
    "aaBOOMERANGaaMAGIC WANDaaPINATAaaNESTING DOLLSaaRINGED PLANETaaCHAIRaaRAZORaaAXEaaDIYA LAMP",
    "aaBANJOaaMILITARY HELMETaaACCORDIONaaLONG DRUMaaCOINaaCARPENTRY SAWaaSCREWDRIVERaaLADDER",
    "aaHOOKaaMIRRORaaWINDOWaaPLUNGERaaSEWING NEEDLEaaKNOTaaBUCKETaaMOUSE TRAPaaTOOTHBRUSH",
    "aaHEADSTONEaaPLACARDaaROCKaaMIRROR BALLaaIDENTIFICATION CARDaaLOW BATTERYaaHAMSAaaFLYaaWORM",
    "aaBEETLEaaCOCKROACHaaPOTTED PLANTaaWOODaaFEATHERaaLOTUSaaCORALaaEMPTY NESTaaNEST WITH EGGS",
    "aaANATOMICAL HEARTaaLUNGSaaPEOPLE HUGGINGaaPREGNANT MANbaPERSONaaPERSON WITH CROWN",
    "aaBLUEBERRIESaaBELL PEPPERaaOLIVEaaFLATBREADaaTAMALEaaFONDUEaaTEAPOTaaPOURING LIQUIDaaBEANS",
    "aaJARaaMELTING FACEabSALUTINGaaFACE WITH OPEN EYES AND HAND OVER MOUTHcaPEEKING EYE",
    "caDIAGONAL MOUTHaaDOTTED LINE FACEaaBITING LIPaaBUBBLES",
    "aaHAND WITH INDEX FINGER AND THUMB CROSSEDaaRIGHTWARDS HANDabLEFTWARDSabPALM DOWNbbUP",
    "aaINDEX POINTING AT THE VIEWERaaHEART HANDSaaBLOCK SEXTANT-1baSEXTANT-2baSEXTANT-12",
    "baSEXTANT-3baSEXTANT-13baSEXTANT-23baSEXTANT-123baSEXTANT-4baSEXTANT-14baSEXTANT-24",
    "baSEXTANT-124baSEXTANT-34baSEXTANT-134baSEXTANT-234baSEXTANT-1234baSEXTANT-5baSEXTANT-15",
    "baSEXTANT-25baSEXTANT-125baSEXTANT-35baSEXTANT-235baSEXTANT-1235baSEXTANT-45baSEXTANT-145",
    "baSEXTANT-245baSEXTANT-1245baSEXTANT-345baSEXTANT-1345baSEXTANT-2345baSEXTANT-12345",
    "baSEXTANT-6baSEXTANT-16baSEXTANT-26baSEXTANT-126baSEXTANT-36baSEXTANT-136baSEXTANT-236",
    "baSEXTANT-1236baSEXTANT-46baSEXTANT-146baSEXTANT-1246baSEXTANT-346baSEXTANT-1346",
    "baSEXTANT-2346baSEXTANT-12346baSEXTANT-56baSEXTANT-156baSEXTANT-256baSEXTANT-1256",
    "baSEXTANT-356baSEXTANT-1356baSEXTANT-2356baSEXTANT-12356baSEXTANT-456baSEXTANT-1456",
    "baSEXTANT-2456baSEXTANT-12456baSEXTANT-3456baSEXTANT-13456baSEXTANT-23456",
    "aaLOWER LEFT BLOCK DIAGONAL LOWER MIDDLE LEFT TO LOWER CENTREjaRIGHT",
    "eaUPPER MIDDLE LEFT TO LOWER CENTREjaRIGHTfaLEFT TO LOWER CENTRE",
    "bbRIGHT BLOCK DIAGONAL UPPER MIDDLE LEFT TO UPPERjaRIGHTeaLOWER MIDDLE LEFT TO UPPER CENTRE",
    "jaRIGHTfaLEFT TO UPPER CENTREfaMIDDLE LEFT TO UPPER MIDDLE RIGHTfcCENTRE TO LOWERfeLEFT",
    "fcCENTRE TO UPPERfeLEFTfbCENTRE TO UPPERbbLEFT BLOCK DIAGONAL UPPER CENTRE TO UPPER MIDDLE",
    "feLEFTfcCENTRE TO LOWERfeLEFTfbCENTRE TO LOWERfbMIDDLE LEFT TO LOWER MIDDLE",
    "aaUPPER RIGHT BLOCK DIAGONAL LOWER MIDDLE LEFT TO LOWER CENTREjaRIGHT",
    "eaUPPER MIDDLE LEFT TO LOWER CENTREjaRIGHTfaLEFT TO LOWER CENTRE",
    "bbLEFT BLOCK DIAGONAL UPPER MIDDLE LEFT TO UPPERjaRIGHTeaLOWER MIDDLE LEFT TO UPPER CENTRE",
    "jaRIGHTfaLEFT TO UPPER CENTREfaMIDDLE LEFT TO UPPER MIDDLE RIGHTfcCENTRE TO LOWERfeLEFT",
    "fcCENTRE TO UPPERfeLEFTfbCENTRE TO UPPERbbRIGHT BLOCK DIAGONAL UPPER CENTRE TO UPPER MIDDLE",
    "feLEFTfcCENTRE TO LOWERfeLEFTfbCENTRE TO LOWERfbMIDDLE LEFT TO LOWER MIDDLE",
    "baAND RIGHT AND LOWER TRIANGULAR THREE QUARTERS BLOCKaeLEFT AND LOWER AND RIGHT",
    "aeUPPER AND LEFT AND LOWERaeLEFT AND UPPER AND RIGHTbbTRIANGULAR ONE QUARTERaeUPPERaeRIGHT",
    "aeLOWERaaVERTICAL ONE EIGHTH BLOCK-2daBLOCK-3daBLOCK-4daBLOCK-5daBLOCK-6daBLOCK-7",
    "aaHORIZONTAL ONE EIGHTH BLOCK-2daBLOCK-3daBLOCK-4daBLOCK-5daBLOCK-6daBLOCK-7",
    "aaLEFT AND LOWER ONE EIGHTH BLOCKcdUPPERafRIGHTcdLOWERafUPPER",
    "aaHORIZONTAL ONE EIGHTH BLOCK-1358aaUPPER ONE QUARTER BLOCKbbTHREE EIGHTHSbcFIVE",
    "bbTHREE QUARTERSbbSEVEN EIGHTHSabRIGHT ONE QUARTERbbTHREE EIGHTHSbcFIVEbbTHREE QUARTERS",
    "bbSEVEN EIGHTHSaaLEFT HALF MEDIUM SHADEadRIGHTadUPPERadLOWERacINVERSE",
    "adUPPER HALF BLOCK AND LOWER HALFcaINVERSE MEDIUM SHADE AND LOWER HALF BLOCK",
    "acLEFT HALF INVERSE MEDIUM SHADE AND RIGHTaaCHECKER BOARD FILLadINVERSEabHEAVY HORIZONTAL",
    "abUPPER LEFT TO LOWER RIGHTbbRIGHT TO LOWER LEFTbaAND LOWER TRIANGULAR HALF BLOCK",
    "adLEFT AND RIGHTaaUPPER LEFT TRIANGULAR MEDIUM SHADEbdRIGHTaeLOWERbdLEFT",
    "aaBOX DRAWINGS LIGHT DIAGONAL UPPER CENTRE TO MIDDLE LEFTiaRIGHTeaMIDDLE LEFT TO LOWER CENTRE",
    "fdRIGHTedUPPER CENTRE TO MIDDLE LEFTidRIGHTeaMIDDLE LEFT TO LOWER CENTRE TO MIDDLE RIGHT",
    "heUPPEReaUPPER CENTRE TO MIDDLE LEFT AND MIDDLE RIGHT TO LOWER CENTREidRIGHT AND MIDDLE LEFT",
    "jaTO LOWER CENTRE TO MIDDLE LEFTiaLEFT TO LOWER CENTRE TO MIDDLE RIGHT",
    "eaMIDDLE LEFT TO UPPER CENTRE TO MIDDLE RIGHT TO LOWER CENTRE",
    "fdRIGHT TO UPPER CENTRE TO MIDDLE LEFTeaDIAMONDdaHORIZONTAL WITH VERTICAL STROKE",
    "aaARROWHEAD-SHAPED POINTERaaINVERSE CHECK MARKaaLEFT HALF RUNNING MANadRIGHT",
    "aaINVERSE DOWNWARDS ARROW WITH TIP LEFTWARDS",
    "aaLEFTWARDS ARROW AND UPPER AND LOWER ONE EIGHTH BLOCKaiRIGHTWARDSadDOWNWARDS ARROW AND RIGHT",
    "agUPWARDSaaLEFT HALF FOLDERacRIGHTaaVOIDED GREEK CROSSaaRIGHT OPEN SQUARED DOT",
    "aaNEGATIVE DIAGONAL CROSScaMIDDLE RIGHT TO LOWER CENTREcaDIAMOND",
    "aaWHITE HEAVY SALTIRE WITH ROUNDED CORNERSaaLEFT THIRD WHITE RIGHT POINTING INDEXafMIDDLE",
    "afRIGHTaaNEGATIVE SQUARED QUESTION MARKaaSTICK FIGUREcaWITH ARMS RAISEDcaLEANING LEFTdaRIGHT",
    "caWITH DRESSaaWHITE UP-POINTING CHEVRONaaSEGMENTED DIGIT ZEROcaONEcaTWOcaTHREEcaFOURcaFIVE",
    "caSIXcaSEVENcaEIGHTcaNINEaaLANGUAGE TAGaaTAG SPACEbaEXCLAMATION MARKbbQUOTATIONbaNUMBER SIGN",
    "bbDOLLARbbPERCENTbaAMPERSANDbaAPOSTROPHEbaLEFT PARENTHESISbbRIGHTbaASTERISKbaPLUS SIGNbaCOMMA",
    "baHYPHEN-MINUSbaFULL STOPbaSOLIDUSbaDIGIT ZEROcaONEcaTWOcaTHREEcaFOURcaFIVEcaSIXcaSEVEN",
    "caEIGHTcaNINEbaCOLONbaSEMICOLONbaLESS-THAN SIGNbbEQUALSbbGREATER-THANbaQUESTION MARK",
    "baCOMMERCIAL ATbaLATIN CAPITAL LETTER AeaBeaCeaDeaEeaFeaGeaHeaIeaJeaKeaLeaMeaNeaOeaPeaQeaReaS",
    "eaTeaUeaVeaWeaXeaYeaZbaLEFT SQUARE BRACKETbaREVERSE SOLIDUSbaRIGHT SQUARE BRACKET",
    "baCIRCUMFLEX ACCENTbaLOW LINEbaGRAVE ACCENTbaLATIN SMALL LETTER AeaBeaCeaDeaEeaFeaGeaHeaIeaJ",
    "eaKeaLeaMeaNeaOeaPeaQeaReaSeaTeaUeaVeaWeaXeaYeaZbaLEFT CURLY BRACKETbaVERTICAL LINE",
    "baRIGHT CURLY BRACKETbaTILDEaaCANCEL TAGaaVARIATION SELECTOR-17baSELECTOR-18baSELECTOR-19",
    "baSELECTOR-20baSELECTOR-21baSELECTOR-22baSELECTOR-23baSELECTOR-24baSELECTOR-25baSELECTOR-26",
    "baSELECTOR-27baSELECTOR-28baSELECTOR-29baSELECTOR-30baSELECTOR-31baSELECTOR-32baSELECTOR-33",
    "baSELECTOR-34baSELECTOR-35baSELECTOR-36baSELECTOR-37baSELECTOR-38baSELECTOR-39baSELECTOR-40",
    "baSELECTOR-41baSELECTOR-42baSELECTOR-43baSELECTOR-44baSELECTOR-45baSELECTOR-46baSELECTOR-47",
    "baSELECTOR-48baSELECTOR-49baSELECTOR-50baSELECTOR-51baSELECTOR-52baSELECTOR-53baSELECTOR-54",
    "baSELECTOR-55baSELECTOR-56baSELECTOR-57baSELECTOR-58baSELECTOR-59baSELECTOR-60baSELECTOR-61",
    "baSELECTOR-62baSELECTOR-63baSELECTOR-64baSELECTOR-65baSELECTOR-66baSELECTOR-67baSELECTOR-68",
    "baSELECTOR-69baSELECTOR-70baSELECTOR-71baSELECTOR-72baSELECTOR-73baSELECTOR-74baSELECTOR-75",
    "baSELECTOR-76baSELECTOR-77baSELECTOR-78baSELECTOR-79baSELECTOR-80baSELECTOR-81baSELECTOR-82",
    "baSELECTOR-83baSELECTOR-84baSELECTOR-85baSELECTOR-86baSELECTOR-87baSELECTOR-88baSELECTOR-89",
    "baSELECTOR-90baSELECTOR-91baSELECTOR-92baSELECTOR-93baSELECTOR-94baSELECTOR-95baSELECTOR-96",
    "baSELECTOR-97baSELECTOR-98baSELECTOR-99baSELECTOR-100baSELECTOR-101baSELECTOR-102",
    "baSELECTOR-103baSELECTOR-104baSELECTOR-105baSELECTOR-106baSELECTOR-107baSELECTOR-108",
    "baSELECTOR-109baSELECTOR-110baSELECTOR-111baSELECTOR-112baSELECTOR-113baSELECTOR-114",
    "baSELECTOR-115baSELECTOR-116baSELECTOR-117baSELECTOR-118baSELECTOR-119baSELECTOR-120",
    "baSELECTOR-121baSELECTOR-122baSELECTOR-123baSELECTOR-124baSELECTOR-125baSELECTOR-126",
    "baSELECTOR-127baSELECTOR-128baSELECTOR-129baSELECTOR-130baSELECTOR-131baSELECTOR-132",
    "baSELECTOR-133baSELECTOR-134baSELECTOR-135baSELECTOR-136baSELECTOR-137baSELECTOR-138",
    "baSELECTOR-139baSELECTOR-140baSELECTOR-141baSELECTOR-142baSELECTOR-143baSELECTOR-144",
    "baSELECTOR-145baSELECTOR-146baSELECTOR-147baSELECTOR-148baSELECTOR-149baSELECTOR-150",
    "baSELECTOR-151baSELECTOR-152baSELECTOR-153baSELECTOR-154baSELECTOR-155baSELECTOR-156",
    "baSELECTOR-157baSELECTOR-158baSELECTOR-159baSELECTOR-160baSELECTOR-161baSELECTOR-162",
    "baSELECTOR-163baSELECTOR-164baSELECTOR-165baSELECTOR-166baSELECTOR-167baSELECTOR-168",
    "baSELECTOR-169baSELECTOR-170baSELECTOR-171baSELECTOR-172baSELECTOR-173baSELECTOR-174",
    "baSELECTOR-175baSELECTOR-176baSELECTOR-177baSELECTOR-178baSELECTOR-179baSELECTOR-180",
    "baSELECTOR-181baSELECTOR-182baSELECTOR-183baSELECTOR-184baSELECTOR-185baSELECTOR-186",
    "baSELECTOR-187baSELECTOR-188baSELECTOR-189baSELECTOR-190baSELECTOR-191baSELECTOR-192",
    "baSELECTOR-193baSELECTOR-194baSELECTOR-195baSELECTOR-196baSELECTOR-197baSELECTOR-198",
    "baSELECTOR-199baSELECTOR-200baSELECTOR-201baSELECTOR-202baSELECTOR-203baSELECTOR-204",
    "baSELECTOR-205baSELECTOR-206baSELECTOR-207baSELECTOR-208baSELECTOR-209baSELECTOR-210",
    "baSELECTOR-211baSELECTOR-212baSELECTOR-213baSELECTOR-214baSELECTOR-215baSELECTOR-216",
    "baSELECTOR-217baSELECTOR-218baSELECTOR-219baSELECTOR-220baSELECTOR-221baSELECTOR-222",
    "baSELECTOR-223baSELECTOR-224baSELECTOR-225baSELECTOR-226baSELECTOR-227baSELECTOR-228",
    "baSELECTOR-229baSELECTOR-230baSELECTOR-231baSELECTOR-232baSELECTOR-233baSELECTOR-234",
    "baSELECTOR-235baSELECTOR-236baSELECTOR-237baSELECTOR-238baSELECTOR-239baSELECTOR-240",
    "baSELECTOR-241baSELECTOR-242baSELECTOR-243baSELECTOR-244baSELECTOR-245baSELECTOR-246",
    "baSELECTOR-247baSELECTOR-248baSELECTOR-249baSELECTOR-250baSELECTOR-251baSELECTOR-252",
    "baSELECTOR-253baSELECTOR-254baSELECTOR-255baSELECTOR-256"]

end ClusterBilling.Text.NameTable
