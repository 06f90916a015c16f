import Mathlib
import ClusterBilling.Encoding.ContentType
import ClusterBilling.Encoding.Unencodable
import ClusterBilling.Json.Bytes
import ClusterBilling.Proofs.Json.Display

/-!
Why bytes are no text, or text cannot be written as bytes, is told on a single line, in whatever
encoding.
-/
namespace ClusterBilling.Encoding
open Text

/-- What is put into a string literal as it is. -/
@[simp] theorem toString_string (s : String) : toString s = s := rfl

section codecs

/-- The codec has a name and gives reasons that are single lines. -/
structure Codec.TellsInLine (c : Codec) : Prop where
  name : '\n' ∉ c.name.toList
  reason {bs : List UInt8} {length : ℕ} {reason : String} :
    c.piece bs = .bad length reason → '\n' ∉ reason.toList

theorem DecodeError.newline_not_mem_message {e : DecodeError} (hc : '\n' ∉ e.codec.toList)
    (hr : '\n' ∉ e.reason.toList) : '\n' ∉ e.message.toList := by
  unfold message
  dsimp only
  split <;> simp [hc, hr]

theorem Codec.decodeFrom_error {c : Codec} {fuel start : ℕ} {done : List CodePoint}
    {bs : List UInt8} {e : DecodeError} (h : c.decodeFrom fuel start done bs = .error e) :
    e.codec = c.name ∧ ∃ bs' length, c.piece bs' = .bad length e.reason := by
  induction fuel generalizing start done bs with
  | zero => cases h
  | succ fuel ih =>
    cases bs with
    | nil => cases h
    | cons b bs =>
      rw [decodeFrom] at h
      split at h
      · exact ih h
      · next length reason hp =>
        split at h
        · exact ih h
        · cases h
          exact ⟨rfl, b :: bs, length, hp⟩

theorem Codec.TellsInLine.decode {c : Codec} (hc : c.TellsInLine) {start : ℕ} {bs : List UInt8}
    {e : DecodeError} (h : c.decode start bs = .error e) : '\n' ∉ e.message.toList := by
  obtain ⟨hname, bs', length, hp⟩ := c.decodeFrom_error h
  exact e.newline_not_mem_message (hname ▸ hc.name) (hc.reason hp)

theorem utf8_tellsInLine : utf8.TellsInLine where
  name := by decide
  reason {bs length reason} h := by
    change utf8Piece bs = .bad length reason at h
    unfold utf8Piece Piece.ofNat at h
    repeat' split at h
    all_goals cases h
    all_goals decide

theorem utf16_tellsInLine (order : ByteOrder) : (utf16 order).TellsInLine where
  name := by cases order <;> decide
  reason {bs length reason} h := by
    change utf16Piece order bs = .bad length reason at h
    unfold utf16Piece Piece.ofNat at h
    dsimp only at h
    repeat' split at h
    all_goals cases h
    all_goals decide

theorem utf32_tellsInLine (order : ByteOrder) : (utf32 order).TellsInLine where
  name := by cases order <;> decide
  reason {bs length reason} h := by
    change utf32Piece order bs = .bad length reason at h
    unfold utf32Piece Piece.ofNat at h
    dsimp only at h
    repeat' split at h
    all_goals cases h
    all_goals decide

end codecs
end ClusterBilling.Encoding

namespace ClusterBilling.Json
open Encoding

theorem unmarked_tellsInLine (bs : List UInt8) : (unmarked bs).TellsInLine := by
  have h8 := utf8_tellsInLine
  have h16 := utf16_tellsInLine
  have h32 := utf32_tellsInLine
  unfold unmarked
  repeat' split
  all_goals apply_assumption

theorem detect_tellsInLine (bs : List UInt8) : (detect bs).1.TellsInLine := by
  unfold detect
  split
  · next mark codec hm =>
    have hmarks : ∀ m ∈ marks, m.2.TellsInLine := by
      simp [marks, utf8_tellsInLine, utf16_tellsInLine, utf32_tellsInLine]
    exact hmarks _ (List.mem_of_find?_eq_some hm)
  · exact unmarked_tellsInLine bs

/-- Why bytes are no JSON text is told on a single line. -/
theorem newline_not_mem_of_readBytes {bs : List UInt8} {maxDepth : ℕ} {e : BytesError}
    (h : readBytes bs maxDepth = .error e) : '\n' ∉ e.message.toList := by
  unfold readBytes at h
  dsimp only at h
  split at h
  · next e' he =>
    cases h
    split_ifs at he
    · exact (detect_tellsInLine bs).decode he
    · exact (detect_tellsInLine bs).decode he
  · next text _ =>
    split at h
    · next e' _ =>
      cases h
      exact (Text.oneLine_ofString _).mp e'.oneLine_message
    · cases h

end ClusterBilling.Json

namespace ClusterBilling.Encoding
open Text

section charsets

/-- A body that the encoding refuses to read is told of on a single line. -/
def Charset.TellsInLine (c : Charset) : Prop :=
  ∀ bs fault, c.lossy bs = .error fault → '\n' ∉ fault.message.toList

/-- Only a fault that passes on why bytes are no text may be told otherwise. -/
theorem CharsetFault.newline_not_mem_message {fault : CharsetFault}
    (h : ∀ e, fault ≠ .notAscii e) : '\n' ∉ fault.message.toList := by
  cases fault with
  | noMark bits => simp [message]
  | notAscii e => exact absurd rfl (h e)
  | mixedSections numberFirst => cases numberFirst <;> decide
  | _ => decide

namespace Charset

@[simp] theorem ofScanner_tellsInLine {σ : Type} (scan : Scanner σ) (start : σ) :
    (ofScanner scan start).TellsInLine := nofun

@[simp] theorem ofCodec_tellsInLine (c : Codec) : (ofCodec c).TellsInLine :=
  ofScanner_tellsInLine _ _

theorem refusing_tellsInLine {fault : CharsetFault} (h : ∀ e, fault ≠ .notAscii e) :
    (refusing fault).TellsInLine := by
  intro bs fault' hf
  cases hf
  exact fault.newline_not_mem_message h

theorem asciiOnly_tellsInLine : asciiOnly.TellsInLine := by
  intro bs fault hf
  cases hf
  decide

theorem utf8WithMark_tellsInLine : utf8WithMark.TellsInLine := by
  intro bs fault hf
  unfold utf8WithMark at hf
  dsimp only at hf
  split_ifs at hf
  exact ofCodec_tellsInLine _ _ _ hf

theorem marked_tellsInLine (bits : ℕ) (codec : ByteOrder → Codec)
    (mark : ByteOrder → List UInt8) : (marked bits codec mark).TellsInLine := by
  intro bs fault hf
  unfold marked at hf
  dsimp only at hf
  split at hf
  · exact ofCodec_tellsInLine _ _ _ hf
  · split_ifs at hf
    cases hf
    exact CharsetFault.newline_not_mem_message nofun

theorem utf7_tellsInLine : utf7.TellsInLine := nofun

theorem punycode_tellsInLine : punycode.TellsInLine := by
  intro bs fault hf
  unfold punycode at hf
  dsimp only at hf
  split at hf
  · cases hf
  · next e he =>
    cases hf
    unfold Punycode.decode at he
    dsimp only at he
    split at he
    · cases he
      apply DecodeError.newline_not_mem_message
      · change '\n' ∉ "ascii".toList
        decide
      · change '\n' ∉ "ordinal not in range(128)".toList
        decide
    · cases he

end Charset

theorem Iso2022.charset_tellsInLine (v : Version) : (charset v).TellsInLine := by
  intro bs fault hf
  unfold charset at hf
  dsimp only at hf
  split at hf
  · next fault' h =>
    cases hf
    obtain ⟨piece, -, hp⟩ := List.exists_of_findSome?_eq_some h
    unfold refusal? at hp
    split at hp
    · split_ifs at hp <;> cases hp <;> decide
    · cases hp
  · exact Charset.ofScanner_tellsInLine _ _ _ _ hf

/-- Every encoding that has a name. -/
theorem tellsInLine_of_mem_charsets {c : Named Charset} (h : c ∈ charsets) :
    c.value.TellsInLine := by
  have hunicode : ∀ c ∈ unicodeNames, c.value.TellsInLine := by
    simp [unicodeNames, Charset.utf8WithMark_tellsInLine, Charset.utf7_tellsInLine,
      Charset.utf16WithMark, Charset.utf32WithMark, Charset.marked_tellsInLine,
      Charset.punycode_tellsInLine]
  have hchinese : ∀ c ∈ chineseNames, c.value.TellsInLine := by
    simp [chineseNames]
  have hkorean : ∀ c ∈ koreanNames, c.value.TellsInLine := by
    simp [koreanNames, Iso2022.charset_tellsInLine]
  have hjapanese : ∀ c ∈ japaneseNames, c.value.TellsInLine := by
    simp [japaneseNames, Iso2022.charset_tellsInLine]
  have hrefusing : ∀ c ∈ refusingNames, c.value.TellsInLine := by
    simp [refusingNames, Charset.asciiOnly_tellsInLine, Charset.refusing_tellsInLine]
  have hcharts : ∀ c ∈ charts.map fun c => (⟨c.name, c.aliases, .ofCodec c.value.codec⟩ :
      Named Charset), c.value.TellsInLine := by
    simp
  unfold charsets at h
  simp only [List.mem_append] at h
  obtain ((((h | h) | h) | h) | h) | h := h
  · exact hunicode c h
  · exact hchinese c h
  · exact hkorean c h
  · exact hjapanese c h
  · exact hrefusing c h
  · exact hcharts c h

theorem Charset.ofName?_tellsInLine {name : List Char} {c : Charset} (h : ofName? name = some c) :
    c.TellsInLine := by
  unfold ofName? at h
  dsimp only at h
  split_ifs at h
  · cases h
    exact refusing_tellsInLine nofun
  · obtain ⟨named, hn, rfl⟩ := Option.map_eq_some_iff.mp h
    exact tellsInLine_of_mem_charsets (List.mem_of_find?_eq_some hn)

theorem Section.mixed?_ne_notAscii {sections : List Section} {fault : CharsetFault}
    (h : mixed? sections = some fault) (e : DecodeError) : fault ≠ .notAscii e := by
  fun_induction mixed? sections with
  | case1 a b ss hab ih => exact ih h
  | case2 a b ss hab =>
    cases h
    exact nofun
  | case3 => cases h

theorem decodedName_ne_notAscii {cs : List Char} {fault : CharsetFault}
    (h : decodedName cs = .error fault) (e : DecodeError) : fault ≠ .notAscii e := by
  have hzero : fault = .zeroInName := by
    unfold decodedName at h
    dsimp only at h
    repeat' split at h
    all_goals cases h
    all_goals rfl
  rw [hzero]
  exact nofun

theorem statedName_ne_notAscii {contentType : List Char} {fault : CharsetFault}
    (h : statedName contentType = .error fault) (e : DecodeError) : fault ≠ .notAscii e := by
  unfold statedName at h
  dsimp only at h
  split at h
  · next fault' hm =>
    cases h
    obtain ⟨sections, -, hs⟩ := List.exists_of_findSome?_eq_some hm
    exact Section.mixed?_ne_notAscii hs e
  · split at h
    · cases h
    · cases h
    · split_ifs at h
      generalize hd : decodedName _ = decoded at h
      cases decoded with
      | ok name => cases h
      | error fault' =>
        cases h
        exact decodedName_ne_notAscii hd e

/-- Why the text of a body cannot be read is told on a single line, whatever its content type. -/
theorem Charset.ofContentType_tellsInLine (contentType? : Option Text) :
    (ofContentType contentType?).TellsInLine := by
  unfold ofContentType
  split
  · next fault h => exact refusing_tellsInLine (statedName_ne_notAscii h)
  · next name? h =>
    dsimp only
    cases hk : (name?.filter (·.all (·.toNat < 128))).bind ofName? with
    | none => exact ofCodec_tellsInLine utf8
    | some c =>
      obtain ⟨name, -, hn⟩ := Option.bind_eq_some_iff.mp hk
      exact ofName?_tellsInLine hn

end charsets

/-- Why text cannot be written as bytes is told on a single line. -/
theorem EncodeError.newline_not_mem_message (e : EncodeError) : '\n' ∉ e.message.toList := by
  have hcodec : '\n' ∉ e.repertoire.codec.toList := by cases e.repertoire <;> decide
  have hreason : '\n' ∉ e.repertoire.reason.toList := by cases e.repertoire <;> decide
  unfold message
  dsimp only
  split <;> simp [hcodec, hreason, newline_not_mem_escapeCode]

end ClusterBilling.Encoding
