import ClusterBilling.Encoding.Chart

/-! The charts of ISO 8859, from part 2 on. -/
namespace ClusterBilling.Encoding.Chart

def iso8859Part2 : Chart := .ofUpperRows [
  "\u0080\u0081\u0082\u0083\u0084\u0085\u0086\u0087\u0088\u0089\u008a\u008b\u008c\u008d\u008e"
    ++ "\u008f",
  "\u0090\u0091\u0092\u0093\u0094\u0095\u0096\u0097\u0098\u0099\u009a\u009b\u009c\u009d\u009e"
    ++ "\u009f",
  "\u00a0Ą˘Ł¤ĽŚ§¨ŠŞŤŹ\u00adŽŻ",
  "°ą˛ł´ľśˇ¸šşťź˝žż",
  "ŔÁÂĂÄĹĆÇČÉĘËĚÍÎĎ",
  "ĐŃŇÓÔŐÖ×ŘŮÚŰÜÝŢß",
  "ŕáâăäĺćçčéęëěíîď",
  "đńňóôőö÷řůúűüýţ˙"]

def iso8859Part3 : Chart := .ofUpperRows [
  "\u0080\u0081\u0082\u0083\u0084\u0085\u0086\u0087\u0088\u0089\u008a\u008b\u008c\u008d\u008e"
    ++ "\u008f",
  "\u0090\u0091\u0092\u0093\u0094\u0095\u0096\u0097\u0098\u0099\u009a\u009b\u009c\u009d\u009e"
    ++ "\u009f",
  "\u00a0Ħ˘£¤\ufffdĤ§¨İŞĞĴ\u00ad\ufffdŻ",
  "°ħ²³´µĥ·¸ışğĵ½\ufffdż",
  "ÀÁÂ\ufffdÄĊĈÇÈÉÊËÌÍÎÏ",
  "\ufffdÑÒÓÔĠÖ×ĜÙÚÛÜŬŜß",
  "àáâ\ufffdäċĉçèéêëìíîï",
  "\ufffdñòóôġö÷ĝùúûüŭŝ˙"]

def iso8859Part4 : Chart := .ofUpperRows [
  "\u0080\u0081\u0082\u0083\u0084\u0085\u0086\u0087\u0088\u0089\u008a\u008b\u008c\u008d\u008e"
    ++ "\u008f",
  "\u0090\u0091\u0092\u0093\u0094\u0095\u0096\u0097\u0098\u0099\u009a\u009b\u009c\u009d\u009e"
    ++ "\u009f",
  "\u00a0ĄĸŖ¤ĨĻ§¨ŠĒĢŦ\u00adŽ¯",
  "°ą˛ŗ´ĩļˇ¸šēģŧŊžŋ",
  "ĀÁÂÃÄÅÆĮČÉĘËĖÍÎĪ",
  "ĐŅŌĶÔÕÖ×ØŲÚÛÜŨŪß",
  "āáâãäåæįčéęëėíîī",
  "đņōķôõö÷øųúûüũū˙"]

def iso8859Part5 : Chart := .ofUpperRows [
  "\u0080\u0081\u0082\u0083\u0084\u0085\u0086\u0087\u0088\u0089\u008a\u008b\u008c\u008d\u008e"
    ++ "\u008f",
  "\u0090\u0091\u0092\u0093\u0094\u0095\u0096\u0097\u0098\u0099\u009a\u009b\u009c\u009d\u009e"
    ++ "\u009f",
  "\u00a0ЁЂЃЄЅІЇЈЉЊЋЌ\u00adЎЏ",
  "АБВГДЕЖЗИЙКЛМНОП",
  "РСТУФХЦЧШЩЪЫЬЭЮЯ",
  "абвгдежзийклмноп",
  "рстуфхцчшщъыьэюя",
  "№ёђѓєѕіїјљњћќ§ўџ"]

def iso8859Part6 : Chart := .ofUpperRows [
  "\u0080\u0081\u0082\u0083\u0084\u0085\u0086\u0087\u0088\u0089\u008a\u008b\u008c\u008d\u008e"
    ++ "\u008f",
  "\u0090\u0091\u0092\u0093\u0094\u0095\u0096\u0097\u0098\u0099\u009a\u009b\u009c\u009d\u009e"
    ++ "\u009f",
  "\u00a0\ufffd\ufffd\ufffd¤\ufffd\ufffd\ufffd\ufffd\ufffd\ufffd\ufffd،\u00ad\ufffd\ufffd",
  "\ufffd\ufffd\ufffd\ufffd\ufffd\ufffd\ufffd\ufffd\ufffd\ufffd\ufffd\u061b\ufffd\ufffd\ufffd"
    ++ "\u061f",
  "\ufffd\u0621\u0622\u0623\u0624\u0625\u0626\u0627\u0628\u0629\u062a\u062b\u062c\u062d\u062e"
    ++ "\u062f",
  "\u0630\u0631\u0632\u0633\u0634\u0635\u0636\u0637\u0638\u0639\u063a\ufffd\ufffd\ufffd\ufffd"
    ++ "\ufffd",
  "\u0640\u0641\u0642\u0643\u0644\u0645\u0646\u0647\u0648\u0649\u064a\u064b\u064c\u064d\u064e"
    ++ "\u064f",
  "\u0650\u0651\u0652\ufffd\ufffd\ufffd\ufffd\ufffd\ufffd\ufffd\ufffd\ufffd\ufffd\ufffd\ufffd"
    ++ "\ufffd"]

def iso8859Part7 : Chart := .ofUpperRows [
  "\u0080\u0081\u0082\u0083\u0084\u0085\u0086\u0087\u0088\u0089\u008a\u008b\u008c\u008d\u008e"
    ++ "\u008f",
  "\u0090\u0091\u0092\u0093\u0094\u0095\u0096\u0097\u0098\u0099\u009a\u009b\u009c\u009d\u009e"
    ++ "\u009f",
  "\u00a0‘’£€₯¦§¨©ͺ«¬\u00ad\ufffd―",
  "°±²³΄΅Ά·ΈΉΊ»Ό½ΎΏ",
  "ΐΑΒΓΔΕΖΗΘΙΚΛΜΝΞΟ",
  "ΠΡ\ufffdΣΤΥΦΧΨΩΪΫάέήί",
  "ΰαβγδεζηθικλμνξο",
  "πρςστυφχψωϊϋόύώ\ufffd"]

def iso8859Part8 : Chart := .ofUpperRows [
  "\u0080\u0081\u0082\u0083\u0084\u0085\u0086\u0087\u0088\u0089\u008a\u008b\u008c\u008d\u008e"
    ++ "\u008f",
  "\u0090\u0091\u0092\u0093\u0094\u0095\u0096\u0097\u0098\u0099\u009a\u009b\u009c\u009d\u009e"
    ++ "\u009f",
  "\u00a0\ufffd¢£¤¥¦§¨©×«¬\u00ad®¯",
  "°±²³´µ¶·¸¹÷»¼½¾\ufffd",
  "\ufffd\ufffd\ufffd\ufffd\ufffd\ufffd\ufffd\ufffd\ufffd\ufffd\ufffd\ufffd\ufffd\ufffd\ufffd"
    ++ "\ufffd",
  "\ufffd\ufffd\ufffd\ufffd\ufffd\ufffd\ufffd\ufffd\ufffd\ufffd\ufffd\ufffd\ufffd\ufffd\ufffd"
    ++ "‗",
  "\u05d0\u05d1\u05d2\u05d3\u05d4\u05d5\u05d6\u05d7\u05d8\u05d9\u05da\u05db\u05dc\u05dd\u05de"
    ++ "\u05df",
  "\u05e0\u05e1\u05e2\u05e3\u05e4\u05e5\u05e6\u05e7\u05e8\u05e9\u05ea\ufffd\ufffd\u200e\u200f"
    ++ "\ufffd"]

def iso8859Part9 : Chart := .ofUpperRows [
  "\u0080\u0081\u0082\u0083\u0084\u0085\u0086\u0087\u0088\u0089\u008a\u008b\u008c\u008d\u008e"
    ++ "\u008f",
  "\u0090\u0091\u0092\u0093\u0094\u0095\u0096\u0097\u0098\u0099\u009a\u009b\u009c\u009d\u009e"
    ++ "\u009f",
  "\u00a0¡¢£¤¥¦§¨©ª«¬\u00ad®¯",
  "°±²³´µ¶·¸¹º»¼½¾¿",
  "ÀÁÂÃÄÅÆÇÈÉÊËÌÍÎÏ",
  "ĞÑÒÓÔÕÖ×ØÙÚÛÜİŞß",
  "àáâãäåæçèéêëìíîï",
  "ğñòóôõö÷øùúûüışÿ"]

def iso8859Part10 : Chart := .ofUpperRows [
  "\u0080\u0081\u0082\u0083\u0084\u0085\u0086\u0087\u0088\u0089\u008a\u008b\u008c\u008d\u008e"
    ++ "\u008f",
  "\u0090\u0091\u0092\u0093\u0094\u0095\u0096\u0097\u0098\u0099\u009a\u009b\u009c\u009d\u009e"
    ++ "\u009f",
  "\u00a0ĄĒĢĪĨĶ§ĻĐŠŦŽ\u00adŪŊ",
  "°ąēģīĩķ·ļđšŧž―ūŋ",
  "ĀÁÂÃÄÅÆĮČÉĘËĖÍÎÏ",
  "ÐŅŌÓÔÕÖŨØŲÚÛÜÝÞß",
  "āáâãäåæįčéęëėíîï",
  "ðņōóôõöũøųúûüýþĸ"]

def iso8859Part11 : Chart := .ofUpperRows [
  "\u0080\u0081\u0082\u0083\u0084\u0085\u0086\u0087\u0088\u0089\u008a\u008b\u008c\u008d\u008e"
    ++ "\u008f",
  "\u0090\u0091\u0092\u0093\u0094\u0095\u0096\u0097\u0098\u0099\u009a\u009b\u009c\u009d\u009e"
    ++ "\u009f",
  "\u00a0กขฃคฅฆงจฉชซฌญฎฏ",
  "ฐฑฒณดตถทธนบปผฝพฟ",
  "ภมยรฤลฦวศษสหฬอฮฯ",
  "ะ\u0e31าำ\u0e34\u0e35\u0e36\u0e37\u0e38\u0e39\u0e3a\ufffd\ufffd\ufffd\ufffd฿",
  "เแโใไๅๆ\u0e47\u0e48\u0e49\u0e4a\u0e4b\u0e4c\u0e4d\u0e4e๏",
  "๐๑๒๓๔๕๖๗๘๙๚๛\ufffd\ufffd\ufffd\ufffd"]

def iso8859Part13 : Chart := .ofUpperRows [
  "\u0080\u0081\u0082\u0083\u0084\u0085\u0086\u0087\u0088\u0089\u008a\u008b\u008c\u008d\u008e"
    ++ "\u008f",
  "\u0090\u0091\u0092\u0093\u0094\u0095\u0096\u0097\u0098\u0099\u009a\u009b\u009c\u009d\u009e"
    ++ "\u009f",
  "\u00a0”¢£¤„¦§Ø©Ŗ«¬\u00ad®Æ",
  "°±²³“µ¶·ø¹ŗ»¼½¾æ",
  "ĄĮĀĆÄÅĘĒČÉŹĖĢĶĪĻ",
  "ŠŃŅÓŌÕÖ×ŲŁŚŪÜŻŽß",
  "ąįāćäåęēčéźėģķīļ",
  "šńņóōõö÷ųłśūüżž’"]

def iso8859Part14 : Chart := .ofUpperRows [
  "\u0080\u0081\u0082\u0083\u0084\u0085\u0086\u0087\u0088\u0089\u008a\u008b\u008c\u008d\u008e"
    ++ "\u008f",
  "\u0090\u0091\u0092\u0093\u0094\u0095\u0096\u0097\u0098\u0099\u009a\u009b\u009c\u009d\u009e"
    ++ "\u009f",
  "\u00a0Ḃḃ£ĊċḊ§Ẁ©ẂḋỲ\u00ad®Ÿ",
  "ḞḟĠġṀṁ¶ṖẁṗẃṠỳẄẅṡ",
  "ÀÁÂÃÄÅÆÇÈÉÊËÌÍÎÏ",
  "ŴÑÒÓÔÕÖṪØÙÚÛÜÝŶß",
  "àáâãäåæçèéêëìíîï",
  "ŵñòóôõöṫøùúûüýŷÿ"]

def iso8859Part15 : Chart := .ofUpperRows [
  "\u0080\u0081\u0082\u0083\u0084\u0085\u0086\u0087\u0088\u0089\u008a\u008b\u008c\u008d\u008e"
    ++ "\u008f",
  "\u0090\u0091\u0092\u0093\u0094\u0095\u0096\u0097\u0098\u0099\u009a\u009b\u009c\u009d\u009e"
    ++ "\u009f",
  "\u00a0¡¢£€¥Š§š©ª«¬\u00ad®¯",
  "°±²³Žµ¶·ž¹º»ŒœŸ¿",
  "ÀÁÂÃÄÅÆÇÈÉÊËÌÍÎÏ",
  "ÐÑÒÓÔÕÖ×ØÙÚÛÜÝÞß",
  "àáâãäåæçèéêëìíîï",
  "ðñòóôõö÷øùúûüýþÿ"]

def iso8859Part16 : Chart := .ofUpperRows [
  "\u0080\u0081\u0082\u0083\u0084\u0085\u0086\u0087\u0088\u0089\u008a\u008b\u008c\u008d\u008e"
    ++ "\u008f",
  "\u0090\u0091\u0092\u0093\u0094\u0095\u0096\u0097\u0098\u0099\u009a\u009b\u009c\u009d\u009e"
    ++ "\u009f",
  "\u00a0ĄąŁ€„Š§š©Ș«Ź\u00adźŻ",
  "°±ČłŽ”¶·žčș»ŒœŸż",
  "ÀÁÂĂÄĆÆÇÈÉÊËÌÍÎÏ",
  "ĐŃÒÓÔŐÖŚŰÙÚÛÜĘȚß",
  "àáâăäćæçèéêëìíîï",
  "đńòóôőöśűùúûüęțÿ"]

end ClusterBilling.Encoding.Chart
