import ClusterBilling.Encoding.Chart

/-! Code pages of the Macintosh. -/
namespace ClusterBilling.Encoding.Chart

def macArabic : Chart := .ofUpperRows [
  "Ä\u00a0ÇÉÑÖÜáàâä\u06ba«çéè",
  "êëí…îïñó»ôö÷úùûü",
  " !\"#$٪&'()*+،-./",
  "\u0660\u0661\u0662\u0663\u0664\u0665\u0666\u0667\u0668\u0669:\u061b<=>\u061f",
  "❊\u0621\u0622\u0623\u0624\u0625\u0626\u0627\u0628\u0629\u062a\u062b\u062c\u062d\u062e"
    ++ "\u062f",
  "\u0630\u0631\u0632\u0633\u0634\u0635\u0636\u0637\u0638\u0639\u063a[\\]^_",
  "\u0640\u0641\u0642\u0643\u0644\u0645\u0646\u0647\u0648\u0649\u064a\u064b\u064c\u064d\u064e"
    ++ "\u064f",
  "\u0650\u0651\u0652\u067e\u0679\u0686\u06d5\u06a4\u06af\u0688\u0691\x7b|\x7d\u0698\u06d2"]

def macCroatian : Chart := .ofUpperRows [
  "ÄÅÇÉÑÖÜáàâäãåçéè",
  "êëíìîïñóòôöõúùûü",
  "†°¢£§•¶ß®Š™´¨≠ŽØ",
  "∞±≤≥∆µ∂∑∏š∫ªºΩžø",
  "¿¡¬√ƒ≈Ć«Č…\u00a0ÀÃÕŒœ",
  "Đ—“”‘’÷◊\uf8ff©⁄€‹›Æ»",
  "–·‚„‰ÂćÁčÈÍÎÏÌÓÔ",
  "đÒÚÛÙıˆ˜¯πË˚¸Êæˇ"]

def macCyrillic : Chart := .ofUpperRows [
  "АБВГДЕЖЗИЙКЛМНОП",
  "РСТУФХЦЧШЩЪЫЬЭЮЯ",
  "†°Ґ£§•¶І®©™Ђђ≠Ѓѓ",
  "∞±≤≥іµґЈЄєЇїЉљЊњ",
  "јЅ¬√ƒ≈∆«»…\u00a0ЋћЌќѕ",
  "–—“”‘’÷„ЎўЏџ№Ёёя",
  "абвгдежзийклмноп",
  "рстуфхцчшщъыьэю€"]

def macFarsi : Chart := .ofUpperRows [
  "Ä\u00a0ÇÉÑÖÜáàâä\u06ba«çéè",
  "êëí…îïñó»ôö÷úùûü",
  " !\"#$٪&'()*+،-./",
  "۰۱۲۳۴۵۶۷۸۹:\u061b<=>\u061f",
  "❊\u0621\u0622\u0623\u0624\u0625\u0626\u0627\u0628\u0629\u062a\u062b\u062c\u062d\u062e"
    ++ "\u062f",
  "\u0630\u0631\u0632\u0633\u0634\u0635\u0636\u0637\u0638\u0639\u063a[\\]^_",
  "\u0640\u0641\u0642\u0643\u0644\u0645\u0646\u0647\u0648\u0649\u064a\u064b\u064c\u064d\u064e"
    ++ "\u064f",
  "\u0650\u0651\u0652\u067e\u0679\u0686\u06d5\u06a4\u06af\u0688\u0691\x7b|\x7d\u0698\u06d2"]

def macGreek : Chart := .ofUpperRows [
  "Ä¹²É³ÖÜ΅àâä΄¨çéè",
  "êë£™îï•½‰ôö¦€ùûü",
  "†ΓΔΘΛΞΠß®©ΣΪ§≠°·",
  "Α±≤≥¥ΒΕΖΗΙΚΜΦΫΨΩ",
  "άΝ¬ΟΡ≈Τ«»…\u00a0ΥΧΆΈœ",
  "–―“”‘’÷ΉΊΌΎέήίόΏ",
  "ύαβψδεφγηιξκλμνο",
  "πώρστθωςχυζϊϋΐΰ\u00ad"]

def macIceland : Chart := .ofUpperRows [
  "ÄÅÇÉÑÖÜáàâäãåçéè",
  "êëíìîïñóòôöõúùûü",
  "Ý°¢£§•¶ß®©™´¨≠ÆØ",
  "∞±≤≥¥µ∂∑∏π∫ªºΩæø",
  "¿¡¬√ƒ≈∆«»…\u00a0ÀÃÕŒœ",
  "–—“”‘’÷◊ÿŸ⁄€ÐðÞþ",
  "ý·‚„‰ÂÊÁËÈÍÎÏÌÓÔ",
  "\uf8ffÒÚÛÙıˆ˜¯˘˙˚¸˝˛ˇ"]

def macCentralEurope : Chart := .ofUpperRows [
  "ÄĀāÉĄÖÜáąČäčĆćéŹ",
  "źĎíďĒēĖóėôöõúĚěü",
  "†°Ę£§•¶ß®©™ę¨≠ģĮ",
  "įĪ≤≥īĶ∂∑łĻļĽľĹĺŅ",
  "ņŃ¬√ńŇ∆«»…\u00a0ňŐÕőŌ",
  "–—“”‘’÷◊ōŔŕŘ‹›řŖ",
  "ŗŠ‚„šŚśÁŤťÍŽžŪÓÔ",
  "ūŮÚůŰűŲųÝýķŻŁżĢˇ"]

def macRoman : Chart := .ofUpperRows [
  "ÄÅÇÉÑÖÜáàâäãåçéè",
  "êëíìîïñóòôöõúùûü",
  "†°¢£§•¶ß®©™´¨≠ÆØ",
  "∞±≤≥¥µ∂∑∏π∫ªºΩæø",
  "¿¡¬√ƒ≈∆«»…\u00a0ÀÃÕŒœ",
  "–—“”‘’÷◊ÿŸ⁄€‹›ﬁﬂ",
  "‡·‚„‰ÂÊÁËÈÍÎÏÌÓÔ",
  "\uf8ffÒÚÛÙıˆ˜¯˘˙˚¸˝˛ˇ"]

def macRomanian : Chart := .ofUpperRows [
  "ÄÅÇÉÑÖÜáàâäãåçéè",
  "êëíìîïñóòôöõúùûü",
  "†°¢£§•¶ß®©™´¨≠ĂȘ",
  "∞±≤≥¥µ∂∑∏π∫ªºΩăș",
  "¿¡¬√ƒ≈∆«»…\u00a0ÀÃÕŒœ",
  "–—“”‘’÷◊ÿŸ⁄€‹›Țț",
  "‡·‚„‰ÂÊÁËÈÍÎÏÌÓÔ",
  "\uf8ffÒÚÛÙıˆ˜¯˘˙˚¸˝˛ˇ"]

def macTurkish : Chart := .ofUpperRows [
  "ÄÅÇÉÑÖÜáàâäãåçéè",
  "êëíìîïñóòôöõúùûü",
  "†°¢£§•¶ß®©™´¨≠ÆØ",
  "∞±≤≥¥µ∂∑∏π∫ªºΩæø",
  "¿¡¬√ƒ≈∆«»…\u00a0ÀÃÕŒœ",
  "–—“”‘’÷◊ÿŸĞğİıŞş",
  "‡·‚„‰ÂÊÁËÈÍÎÏÌÓÔ",
  "\uf8ffÒÚÛÙ\uf8a0ˆ˜¯˘˙˚¸˝˛ˇ"]

end ClusterBilling.Encoding.Chart
