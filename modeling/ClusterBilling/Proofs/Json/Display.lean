import ClusterBilling.Json.Display
import ClusterBilling.Proofs.Json.Validity
import ClusterBilling.Proofs.Text.Lines

/-!
JSON values in messages are single lines. Only a text that stands for itself, without quotes, may
hold more.
-/
namespace ClusterBilling.Json
open Decimal Text

theorem displayItems_eq (items : List Json) : displayItems items = items.map display := by
  induction items with
  | nil => rfl
  | cons v vs ih => rw [displayItems, ih, List.map_cons]

theorem displayMembers_eq (members : List (Text × Json)) :
    displayMembers members = members.map fun m => quote m.1 ++ ": " ++ m.2.display := by
  induction members with
  | nil => rfl
  | cons m ms ih => rw [displayMembers, ih, List.map_cons]

theorem Numeral.newline_not_mem (n : Numeral) : '\n' ∉ n.chars := by
  intro h
  exact absurd (n.number_chars.isNumeric '\n' h) (by decide)

theorem oneLine_toString (i : ℤ) : (ofString (toString i)).OneLine := by
  obtain ⟨n, hn, -⟩ := exists_toString i
  rw [oneLine_ofString, hn]
  exact n.newline_not_mem

theorem oneLine_shortest (x : Float) : (ofString (shortest x)).OneLine := by
  rw [oneLine_ofString, shortest]
  cases h : Reading.ofFloat x with
  | nan => decide
  | infinite negative => cases negative <;> decide
  | finite b =>
    obtain ⟨n, hn, -⟩ := exists_render (shortest_zero h)
    change '\n' ∉ (plainLayout.render b.shortest).toList
    rw [hn]
    exact n.newline_not_mem

theorem oneLine_commaSeparated {parts : List Text} (h : ∀ t ∈ parts, t.OneLine) :
    (commaSeparated parts).OneLine :=
  .join (by decide) h

/-- A value inside a message is a single line. -/
theorem oneLine_display (v : Json) : v.display.OneLine := by
  induction v using induct with
  | null => decide
  | bool b => cases b <;> decide
  | integer i => exact oneLine_toString i
  | float x => exact oneLine_shortest x
  | string s => exact oneLine_quote s
  | array items ih =>
    have hitems : (commaSeparated (items.map display)).OneLine :=
      oneLine_commaSeparated (List.forall_mem_map.mpr ih)
    rw [display, displayItems_eq]
    simp [hitems]
  | object members ih =>
    have hmembers : ∀ m ∈ members, (quote m.1 ++ ": " ++ m.2.display).OneLine := fun m hm => by
      simp [oneLine_quote, ih m hm]
    have hall := oneLine_commaSeparated (List.forall_mem_map.mpr hmembers)
    rw [display, displayMembers_eq]
    simp [hall]

/-- A value that is the message is a single line unless it is a text that is not. -/
theorem oneLine_plainText_iff (v : Json) :
    v.plainText.OneLine ↔ ∀ s, v = .string s → s.OneLine := by
  cases v with
  | string s => simp [plainText]
  | _ => exact iff_of_true (oneLine_display _) nofun

theorem oneLine_kindName (v : Json) : (ofString v.kindName).OneLine := by
  cases v <;> simp [kindName]

theorem Flaw.newline_not_mem_message (f : Flaw) : '\n' ∉ f.message.toList := by
  cases f <;> simp [message]

/-- Why a text is not JSON is told on a single line. -/
theorem ReadError.oneLine_message (e : ReadError) : (ofString e.message).OneLine := by
  rw [oneLine_ofString]
  cases e with
  | flaw f line column index =>
    change '\n' ∉ (s!"{f.message}: line {line} column {column} (char {index})").toList
    have hf : '\n' ∉ (toString f.message).toList := f.newline_not_mem_message
    simp only [String.toList_append, List.mem_append, not_or, hf, newline_not_mem_toString,
      not_false_eq_true, true_and, and_true]
    decide
  | longInteger digits =>
    change '\n' ∉ (
      s!"Exceeds the limit ({maxIntegerDigits} digits) for integer string conversion: " ++
      s!"value has {digits} digits; use sys.set_int_max_str_digits() to increase the limit").toList
    simp only [String.toList_append, List.mem_append, not_or, newline_not_mem_toString,
      not_false_eq_true, and_true]
    decide
  | tooDeep container => cases container <;> decide +kernel

end ClusterBilling.Json
