import ClusterBilling.Encoding.Chart

/-! Charts of single countries and devices. -/
namespace ClusterBilling.Encoding.Chart

def cp1006 : Chart := .ofUpperRows [
  "\u0080\u0081\u0082\u0083\u0084\u0085\u0086\u0087\u0088\u0089\u008a\u008b\u008c\u008d\u008e"
    ++ "\u008f",
  "\u0090\u0091\u0092\u0093\u0094\u0095\u0096\u0097\u0098\u0099\u009a\u009b\u009c\u009d\u009e"
    ++ "\u009f",
  "\u00a0۰۱۲۳۴۵۶۷۸۹،\u061b\u00ad\u061f\ufe81",
  "\ufe8d\ufe8e\ufe8e\ufe8f\ufe91\ufb56\ufb58\ufe93\ufe95\ufe97\ufb66\ufb68\ufe99\ufe9b\ufe9d"
    ++ "\ufe9f",
  "\ufb7a\ufb7c\ufea1\ufea3\ufea5\ufea7\ufea9\ufb84\ufeab\ufead\ufb8c\ufeaf\ufb8a\ufeb1\ufeb3"
    ++ "\ufeb5",
  "\ufeb7\ufeb9\ufebb\ufebd\ufebf\ufec1\ufec5\ufec9\ufeca\ufecb\ufecc\ufecd\ufece\ufecf\ufed0"
    ++ "\ufed1",
  "\ufed3\ufed5\ufed7\ufed9\ufedb\ufb92\ufb94\ufedd\ufedf\ufee0\ufee1\ufee3\ufb9e\ufee5\ufee7"
    ++ "\ufe85",
  "\ufeed\ufba6\ufba8\ufba9\ufbaa\ufe80\ufe89\ufe8a\ufe8b\ufef1\ufef2\ufef3\ufbb0\ufbae\ufe7c"
    ++ "\ufe7d"]

def roman8 : Chart := .ofUpperRows [
  "\u0080\u0081\u0082\u0083\u0084\u0085\u0086\u0087\u0088\u0089\u008a\u008b\u008c\u008d\u008e"
    ++ "\u008f",
  "\u0090\u0091\u0092\u0093\u0094\u0095\u0096\u0097\u0098\u0099\u009a\u009b\u009c\u009d\u009e"
    ++ "\u009f",
  "\u00a0ÀÂÈÊËÎÏ´ˋˆ¨˜ÙÛ₤",
  "¯Ýý°ÇçÑñ¡¿¤£¥§ƒ¢",
  "âêôûáéóúàèòùäëöü",
  "ÅîØÆåíøæÄìÖÜÉïßÔ",
  "ÁÃãÐðÍÌÓÒÕõŠšÚŸÿ",
  "Þþ·µ¶¾—¼½ªº«■»±\ufffd"]

def koi8R : Chart := .ofUpperRows [
  "─│┌┐└┘├┤┬┴┼▀▄█▌▐",
  "░▒▓⌠■∙√≈≤≥\u00a0⌡°²·÷",
  "═║╒ё╓╔╕╖╗╘╙╚╛╜╝╞",
  "╟╠╡Ё╢╣╤╥╦╧╨╩╪╫╬©",
  "юабцдефгхийклмно",
  "пярстужвьызшэщчъ",
  "ЮАБЦДЕФГХИЙКЛМНО",
  "ПЯРСТУЖВЬЫЗШЭЩЧЪ"]

def koi8T : Chart := .ofUpperRows [
  "қғ‚Ғ„…†‡\ufffd‰ҳ‹ҲҷҶ\ufffd",
  "Қ‘’“”•–—\ufffd™\ufffd›\ufffd\ufffd\ufffd\ufffd",
  "\ufffdӯӮё¤ӣ¦§\ufffd\ufffd\ufffd«¬\u00ad®\ufffd",
  "°±²Ё\ufffdӢ¶·\ufffd№\ufffd»\ufffd\ufffd\ufffd©",
  "юабцдефгхийклмно",
  "пярстужвьызшэщчъ",
  "ЮАБЦДЕФГХИЙКЛМНО",
  "ПЯРСТУЖВЬЫЗШЭЩЧЪ"]

def koi8U : Chart := .ofUpperRows [
  "─│┌┐└┘├┤┬┴┼▀▄█▌▐",
  "░▒▓⌠■∙√≈≤≥\u00a0⌡°²·÷",
  "═║╒ёє╔ії╗╘╙╚╛ґ╝╞",
  "╟╠╡ЁЄ╣ІЇ╦╧╨╩╪Ґ╬©",
  "юабцдефгхийклмно",
  "пярстужвьызшэщчъ",
  "ЮАБЦДЕФГХИЙКЛМНО",
  "ПЯРСТУЖВЬЫЗШЭЩЧЪ"]

def ptcp154 : Chart := .ofUpperRows [
  "ҖҒӮғ„…ҶҮҲүҠӢҢҚҺҸ",
  "җ‘’“”•–—ҳҷҡӣңқһҹ",
  "\u00a0ЎўЈӨҘҰ§Ё©Ә«¬ӯ®Ҝ",
  "°ұІіҙө¶·ё№ә»јҪҫҝ",
  "АБВГДЕЖЗИЙКЛМНОП",
  "РСТУФХЦЧШЩЪЫЬЭЮЯ",
  "абвгдежзийклмноп",
  "рстуфхцчшщъыьэюя"]

def tis620 : Chart := .ofUpperRows [
  "\u0080\u0081\u0082\u0083\u0084\u0085\u0086\u0087\u0088\u0089\u008a\u008b\u008c\u008d\u008e"
    ++ "\u008f",
  "\u0090\u0091\u0092\u0093\u0094\u0095\u0096\u0097\u0098\u0099\u009a\u009b\u009c\u009d\u009e"
    ++ "\u009f",
  "\ufffdกขฃคฅฆงจฉชซฌญฎฏ",
  "ฐฑฒณดตถทธนบปผฝพฟ",
  "ภมยรฤลฦวศษสหฬอฮฯ",
  "ะ\u0e31าำ\u0e34\u0e35\u0e36\u0e37\u0e38\u0e39\u0e3a\ufffd\ufffd\ufffd\ufffd฿",
  "เแโใไๅๆ\u0e47\u0e48\u0e49\u0e4a\u0e4b\u0e4c\u0e4d\u0e4e๏",
  "๐๑๒๓๔๕๖๗๘๙๚๛\ufffd\ufffd\ufffd\ufffd"]

end ClusterBilling.Encoding.Chart
