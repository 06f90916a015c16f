import ClusterBilling.Encoding.Chart.Dos
import ClusterBilling.Encoding.Chart.Ebcdic
import ClusterBilling.Encoding.Chart.Iso8859
import ClusterBilling.Encoding.Chart.Mac
import ClusterBilling.Encoding.Chart.Regional
import ClusterBilling.Encoding.Chart.Windows
import ClusterBilling.Encoding.Escapes
import ClusterBilling.Encoding.Iso2022
import ClusterBilling.Encoding.Punycode
import ClusterBilling.Encoding.Utf7
import ClusterBilling.Text.Blank

/-! The names of encodings. -/
namespace ClusterBilling.Encoding

/-- Something with a name, and further names that it goes by. -/
structure Named (α : Type) where
  name : String
  aliases : List String
  value : α

/-- The encodings of all code points, and ASCII. -/
def unicodeNames : List (Named Charset) := [
  ⟨"utf_8", ["cp65001", "u8", "utf", "utf8", "utf8_ucs2", "utf8_ucs4"], .ofCodec utf8⟩,
  ⟨"utf_8_sig", [], .utf8WithMark⟩,
  ⟨"utf_7", ["u7", "unicode_1_1_utf_7", "utf7"], .utf7⟩,
  ⟨"utf_16", ["u16", "utf16"], .utf16WithMark⟩,
  ⟨"utf_16_le", ["unicodelittleunmarked", "utf_16le"], .ofCodec (utf16 .little)⟩,
  ⟨"utf_16_be", ["unicodebigunmarked", "utf_16be"], .ofCodec (utf16 .big)⟩,
  ⟨"utf_32", ["u32", "utf32"], .utf32WithMark⟩,
  ⟨"utf_32_le", ["utf_32le"], .ofCodec (utf32 .little)⟩,
  ⟨"utf_32_be", ["utf_32be"], .ofCodec (utf32 .big)⟩,
  ⟨"ascii", ["646", "ansi_x3.4_1968", "ansi_x3.4_1986", "ansi_x3_4_1968", "cp367", "csascii",
    "ibm367", "iso646_us", "iso_646.irv_1991", "iso_ir_6", "us", "us_ascii"],
    .ofCodec Chart.ascii.codec⟩,
  ⟨"latin_1", ["8859", "cp819", "csisolatin1", "ibm819", "iso8859", "iso8859_1", "iso_8859_1",
    "iso_8859_1_1987", "iso_ir_100", "l1", "latin", "latin1"], .ofCodec latin1⟩,
  ⟨"charmap", [], .ofCodec latin1⟩,
  ⟨"unicode_escape", [], .ofCodec escaped⟩,
  ⟨"raw_unicode_escape", [], .ofCodec rawEscaped⟩,
  ⟨"punycode", [], .punycode⟩]

/-- What bears the name of an encoding and reads no body. -/
def refusingNames : List (Named Charset) := [
  ⟨"idna", [], .asciiOnly⟩,
  ⟨"undefined", [], .refusing .undefined⟩,
  ⟨"rot_13", ["rot13"], .refusing .textToText⟩,
  ⟨"base64_codec", ["base64", "base_64"], .refusing .bytesToBytes⟩,
  ⟨"bz2_codec", ["bz2"], .refusing .bytesToBytes⟩,
  ⟨"hex_codec", ["hex"], .refusing .bytesToBytes⟩,
  ⟨"quopri_codec", ["quopri", "quoted_printable", "quotedprintable"], .refusing .bytesToBytes⟩,
  ⟨"uu_codec", ["uu"], .refusing .bytesToBytes⟩,
  ⟨"zlib_codec", ["zip", "zlib"], .refusing .bytesToBytes⟩]

/-- The encodings of Chinese. -/
def chineseNames : List (Named Charset) := [
  ⟨"gb2312", ["chinese", "csiso58gb231280", "euc_cn", "euccn", "eucgb2312_cn", "gb2312_1980",
    "gb2312_80", "iso_ir_58", "x_mac_simp_chinese"], .ofCodec Chinese.simplified⟩,
  ⟨"gbk", ["936", "cp936", "ms936"], .ofCodec Chinese.gbk⟩,
  ⟨"gb18030", ["gb18030_2000"], .ofCodec Chinese.gb18030⟩,
  ⟨"hz", ["hz_gb", "hz_gb_2312", "hzgb"], .ofScanner Chinese.hz false⟩,
  ⟨"big5", ["big5_tw", "csbig5", "x_mac_trad_chinese"], .ofCodec Chinese.traditional⟩,
  ⟨"cp950", ["950", "ms950"], .ofCodec Chinese.cp950⟩,
  ⟨"big5hkscs", ["big5_hkscs", "hkscs"], .ofCodec Chinese.hongKong⟩]

/-- The encodings of Korean. -/
def koreanNames : List (Named Charset) := [
  ⟨"euc_kr", ["euckr", "korean", "ks_c_5601", "ks_c_5601_1987", "ks_x_1001", "ksc5601",
    "ksx1001", "x_mac_korean"], .ofCodec Korean.extended⟩,
  ⟨"cp949", ["949", "ms949", "uhc"], .ofCodec Korean.unified⟩,
  ⟨"johab", ["cp1361", "ms1361"], .ofCodec Korean.johab⟩,
  ⟨"iso2022_kr", ["csiso2022kr", "iso2022kr", "iso_2022_kr"], Iso2022.charset Iso2022.korean⟩]

/-- The encodings of Japanese. -/
def japaneseNames : List (Named Charset) := [
  ⟨"euc_jp", ["eucjp", "u_jis", "ujis"], .ofCodec Japanese.extended⟩,
  ⟨"euc_jis_2004", ["euc_jis2004", "eucjis2004", "jisx0213"], .ofCodec (Japanese.extendedOf
    .of2004)⟩,
  ⟨"euc_jisx0213", ["eucjisx0213"], .ofCodec (Japanese.extendedOf .of2000)⟩,
  ⟨"shift_jis", ["csshiftjis", "s_jis", "shiftjis", "sjis", "x_mac_japanese"], .ofCodec
    Japanese.shifted⟩,
  ⟨"shift_jis_2004", ["s_jis_2004", "shiftjis2004", "sjis_2004"], .ofCodec (Japanese.shiftedOf
    .of2004)⟩,
  ⟨"shift_jisx0213", ["s_jisx0213", "shiftjisx0213", "sjisx0213"], .ofCodec (Japanese.shiftedOf
    .of2000)⟩,
  ⟨"cp932", ["932", "ms932", "ms_kanji", "mskanji"], .ofCodec Japanese.cp932⟩,
  ⟨"iso2022_jp", ["csiso2022jp", "iso2022jp", "iso_2022_jp"], Iso2022.charset Iso2022.japanese⟩,
  ⟨"iso2022_jp_1", ["iso2022jp_1", "iso_2022_jp_1"], Iso2022.charset Iso2022.japanese1⟩,
  ⟨"iso2022_jp_2", ["iso2022jp_2", "iso_2022_jp_2"], Iso2022.charset Iso2022.japanese2⟩,
  ⟨"iso2022_jp_2004", ["iso2022jp_2004", "iso_2022_jp_2004"], Iso2022.charset
    Iso2022.japaneseOf2004⟩,
  ⟨"iso2022_jp_3", ["iso2022jp_3", "iso_2022_jp_3"], Iso2022.charset Iso2022.japanese3⟩,
  ⟨"iso2022_jp_ext", ["iso2022jp_ext", "iso_2022_jp_ext"], Iso2022.charset
    Iso2022.japaneseExtended⟩]

/-- The charts of ISO 8859. -/
def isoNames : List (Named Chart) := [
  ⟨"iso8859_2", ["csisolatin2", "iso_8859_2", "iso_8859_2_1987", "iso_ir_101", "l2", "latin2"],
    Chart.iso8859Part2⟩,
  ⟨"iso8859_3", ["csisolatin3", "iso_8859_3", "iso_8859_3_1988", "iso_ir_109", "l3", "latin3"],
    Chart.iso8859Part3⟩,
  ⟨"iso8859_4", ["csisolatin4", "iso_8859_4", "iso_8859_4_1988", "iso_ir_110", "l4", "latin4"],
    Chart.iso8859Part4⟩,
  ⟨"iso8859_5", ["csisolatincyrillic", "cyrillic", "iso_8859_5", "iso_8859_5_1988",
    "iso_ir_144"], Chart.iso8859Part5⟩,
  ⟨"iso8859_6", ["arabic", "asmo_708", "csisolatinarabic", "ecma_114", "iso_8859_6",
    "iso_8859_6_1987", "iso_ir_127"], Chart.iso8859Part6⟩,
  ⟨"iso8859_7", ["csisolatingreek", "ecma_118", "elot_928", "greek", "greek8", "iso_8859_7",
    "iso_8859_7_1987", "iso_ir_126"], Chart.iso8859Part7⟩,
  ⟨"iso8859_8", ["csisolatinhebrew", "hebrew", "iso_8859_8", "iso_8859_8_1988", "iso_ir_138"],
    Chart.iso8859Part8⟩,
  ⟨"iso8859_9", ["csisolatin5", "iso_8859_9", "iso_8859_9_1989", "iso_ir_148", "l5", "latin5"],
    Chart.iso8859Part9⟩,
  ⟨"iso8859_10", ["csisolatin6", "iso_8859_10", "iso_8859_10_1992", "iso_ir_157", "l6",
    "latin6"], Chart.iso8859Part10⟩,
  ⟨"iso8859_11", ["iso_8859_11", "iso_8859_11_2001", "thai"], Chart.iso8859Part11⟩,
  ⟨"iso8859_13", ["iso_8859_13", "l7", "latin7"], Chart.iso8859Part13⟩,
  ⟨"iso8859_14", ["iso_8859_14", "iso_8859_14_1998", "iso_celtic", "iso_ir_199", "l8", "latin8"],
    Chart.iso8859Part14⟩,
  ⟨"iso8859_15", ["iso_8859_15", "l9", "latin9"], Chart.iso8859Part15⟩,
  ⟨"iso8859_16", ["iso_8859_16", "iso_8859_16_2001", "iso_ir_226", "l10", "latin10"],
    Chart.iso8859Part16⟩]

/-- The code pages of Windows and their kin. -/
def windowsNames : List (Named Chart) := [
  ⟨"cp874", [], Chart.cp874⟩,
  ⟨"cp1250", ["1250", "windows_1250"], Chart.cp1250⟩,
  ⟨"cp1251", ["1251", "windows_1251"], Chart.cp1251⟩,
  ⟨"cp1252", ["1252", "windows_1252"], Chart.cp1252⟩,
  ⟨"cp1253", ["1253", "windows_1253"], Chart.cp1253⟩,
  ⟨"cp1254", ["1254", "windows_1254"], Chart.cp1254⟩,
  ⟨"cp1255", ["1255", "windows_1255"], Chart.cp1255⟩,
  ⟨"cp1256", ["1256", "windows_1256"], Chart.cp1256⟩,
  ⟨"cp1257", ["1257", "windows_1257"], Chart.cp1257⟩,
  ⟨"cp1258", ["1258", "windows_1258"], Chart.cp1258⟩,
  ⟨"kz1048", ["kz_1048", "rk1048", "strk1048_2002"], Chart.kz1048⟩,
  ⟨"palmos", [], Chart.palmos⟩]

/-- The code pages of DOS. -/
def dosNames : List (Named Chart) := [
  ⟨"cp437", ["437", "cspc8codepage437", "ibm437"], Chart.cp437⟩,
  ⟨"cp720", [], Chart.cp720⟩,
  ⟨"cp737", [], Chart.cp737⟩,
  ⟨"cp775", ["775", "cspc775baltic", "ibm775"], Chart.cp775⟩,
  ⟨"cp850", ["850", "cspc850multilingual", "ibm850"], Chart.cp850⟩,
  ⟨"cp852", ["852", "cspcp852", "ibm852"], Chart.cp852⟩,
  ⟨"cp855", ["855", "csibm855", "ibm855"], Chart.cp855⟩,
  ⟨"cp856", [], Chart.cp856⟩,
  ⟨"cp857", ["857", "csibm857", "ibm857"], Chart.cp857⟩,
  ⟨"cp858", ["858", "csibm858", "ibm858"], Chart.cp858⟩,
  ⟨"cp860", ["860", "csibm860", "ibm860"], Chart.cp860⟩,
  ⟨"cp861", ["861", "cp_is", "csibm861", "ibm861"], Chart.cp861⟩,
  ⟨"cp862", ["862", "cspc862latinhebrew", "ibm862"], Chart.cp862⟩,
  ⟨"cp863", ["863", "csibm863", "ibm863"], Chart.cp863⟩,
  ⟨"cp864", ["864", "csibm864", "ibm864"], Chart.cp864⟩,
  ⟨"cp865", ["865", "csibm865", "ibm865"], Chart.cp865⟩,
  ⟨"cp866", ["866", "csibm866", "ibm866"], Chart.cp866⟩,
  ⟨"cp869", ["869", "cp_gr", "csibm869", "ibm869"], Chart.cp869⟩,
  ⟨"cp1125", ["1125", "cp866u", "ibm1125", "ruscii"], Chart.cp1125⟩]

/-- The charts of EBCDIC. -/
def ebcdicNames : List (Named Chart) := [
  ⟨"cp037", ["037", "csibm037", "ebcdic_cp_ca", "ebcdic_cp_nl", "ebcdic_cp_us", "ebcdic_cp_wt",
    "ibm037", "ibm039"], Chart.cp037⟩,
  ⟨"cp273", ["273", "csibm273", "ibm273"], Chart.cp273⟩,
  ⟨"cp424", ["424", "csibm424", "ebcdic_cp_he", "ibm424"], Chart.cp424⟩,
  ⟨"cp500", ["500", "csibm500", "ebcdic_cp_be", "ebcdic_cp_ch", "ibm500"], Chart.cp500⟩,
  ⟨"cp875", [], Chart.cp875⟩,
  ⟨"cp1026", ["1026", "csibm1026", "ibm1026"], Chart.cp1026⟩,
  ⟨"cp1140", ["1140", "ibm1140"], Chart.cp1140⟩]

/-- The code pages of the Macintosh. -/
def macNames : List (Named Chart) := [
  ⟨"mac_arabic", [], Chart.macArabic⟩,
  ⟨"mac_croatian", [], Chart.macCroatian⟩,
  ⟨"mac_cyrillic", ["maccyrillic"], Chart.macCyrillic⟩,
  ⟨"mac_farsi", [], Chart.macFarsi⟩,
  ⟨"mac_greek", ["macgreek"], Chart.macGreek⟩,
  ⟨"mac_iceland", ["maciceland"], Chart.macIceland⟩,
  ⟨"mac_latin2", ["mac_centeuro", "maccentraleurope", "maclatin2"], Chart.macCentralEurope⟩,
  ⟨"mac_roman", ["macintosh", "macroman"], Chart.macRoman⟩,
  ⟨"mac_romanian", [], Chart.macRomanian⟩,
  ⟨"mac_turkish", ["macturkish"], Chart.macTurkish⟩]

/-- The charts of single countries and devices. -/
def regionalNames : List (Named Chart) := [
  ⟨"cp1006", [], Chart.cp1006⟩,
  ⟨"hp_roman8", ["cp1051", "ibm1051", "r8", "roman8"], Chart.roman8⟩,
  ⟨"koi8_r", ["cskoi8r"], Chart.koi8R⟩,
  ⟨"koi8_t", [], Chart.koi8T⟩,
  ⟨"koi8_u", [], Chart.koi8U⟩,
  ⟨"ptcp154", ["cp154", "csptcp154", "cyrillic_asian", "pt154"], Chart.ptcp154⟩,
  ⟨"tis_620", ["iso_ir_166", "tis620", "tis_620_0", "tis_620_2529_0", "tis_620_2529_1"],
    Chart.tis620⟩]

def charts : List (Named Chart) :=
  isoNames ++ windowsNames ++ dosNames ++ ebcdicNames ++ macNames ++ regionalNames

/-- All encodings. -/
def charsets : List (Named Charset) :=
  unicodeNames ++ chineseNames ++ koreanNames ++ japaneseNames ++ refusingNames
    ++ charts.map fun c => ⟨c.name, c.aliases, .ofCodec c.value.codec⟩

/-- A name of an encoding in lower case, with each row of other characters than letters, digits
and points as one underscore. -/
def normalName (name : List Char) : List Char :=
  let go := fun (c : Char) (done : List Char) =>
    if c.isAlphanum || c = '.' then c.toLower :: done
    else match done with
      | '_' :: _ => done
      | _ => '_' :: done
  Text.dropEndWhile (· = '_') ((name.foldr go []).dropWhile (· = '_'))

/-- The encoding of a name in any spelling. In its further names a point may stand for an
underscore. -/
def Charset.ofName? (name : List Char) : Option Charset :=
  if name.contains '\x00' then some (.refusing .zeroInName)
  else
    let name := normalName name
    let plain := String.ofList name
    let pointless := String.ofList (name.map fun c => if c = '.' then '_' else c)
    let isNamed := fun (c : Named Charset) =>
      c.name = plain || c.aliases.contains plain || c.aliases.contains pointless
    (charsets.find? isNamed).map Named.value

end ClusterBilling.Encoding
