import Mathlib
import ClusterBilling.Json.Bytes
import ClusterBilling.Proofs.Decimal.Denotation

/-!
What the values have in common that are read from JSON text: no object has two members of one name,
and every integer is short enough for its digits to be written.
-/
namespace ClusterBilling.Json
open Decimal

/-- No object in the value has two members of one name. -/
inductive Distinct : Json → Prop where
  | null : Distinct .null
  | bool (b : Bool) : Distinct (.bool b)
  | integer (n : ℤ) : Distinct (.integer n)
  | float (x : Float) : Distinct (.float x)
  | string (s : Text) : Distinct (.string s)
  | array {items : List Json} : (∀ v ∈ items, Distinct v) → Distinct (.array items)
  | object {members : List (Text × Json)} : (members.map Prod.fst).Nodup →
    (∀ m ∈ members, Distinct m.2) → Distinct (.object members)

namespace Distinct

theorem of_mem {items : List Json} (h : Distinct (.array items)) {v : Json} (hv : v ∈ items) :
    Distinct v := by
  cases h with
  | array h => exact h v hv

theorem single {v : Json} (hv : Distinct v) (name : Text) : Distinct (.object [(name, v)]) :=
  .object (List.nodup_singleton name) (by simpa using hv)

theorem pair {v w : Json} (hv : Distinct v) (hw : Distinct w) {name name' : Text}
    (hn : name ≠ name') : Distinct (.object [(name, v), (name', w)]) :=
  .object (by simpa using hn) (by simpa using ⟨hv, hw⟩)

theorem names_nodup {members : List (Text × Json)} (h : Distinct (.object members)) :
    (members.map Prod.fst).Nodup := by
  cases h with
  | object hn _ => exact hn

theorem of_member {v w : Json} (h : Distinct v) {name : Text} (hw : v.member? name = some w) :
    Distinct w := by
  cases h with
  | object _ hm =>
    obtain ⟨members₁, members₂, he, -⟩ := List.lookup_eq_some_iff.mp hw
    exact hm (name, w) (he ▸ List.mem_append_right _ List.mem_cons_self)
  | _ => cases hw

theorem of_members {members : List (Text × Json)} (h : Distinct (.object members))
    {m : Text × Json} (hm : m ∈ members) : Distinct m.2 := by
  cases h with
  | object _ h => exact h m hm

end Distinct

/-- No integer in the value has more digits than an integer may have. -/
inductive ShortIntegers : Json → Prop where
  | null : ShortIntegers .null
  | bool (b : Bool) : ShortIntegers (.bool b)
  | integer {n : ℤ} : (digitChars n.natAbs).length ≤ maxIntegerDigits → ShortIntegers (.integer n)
  | float (x : Float) : ShortIntegers (.float x)
  | string (s : Text) : ShortIntegers (.string s)
  | array {items : List Json} : (∀ v ∈ items, ShortIntegers v) → ShortIntegers (.array items)
  | object {members : List (Text × Json)} : (∀ m ∈ members, ShortIntegers m.2) →
    ShortIntegers (.object members)

/-- Numbers, words and texts that are read have a property, and it passes on to arrays and to
objects, in which names are apart. -/
structure Inherited (P : Json → Prop) : Prop where
  atom : ∀ ps v rest, Reader.atom ps = .ok (v, rest) → P v
  string : ∀ s, P (.string s)
  array : ∀ items, (∀ v ∈ items, P v) → P (.array items)
  object : ∀ members, (members.map Prod.fst).Nodup → (∀ m ∈ members, P m.2) → P (.object members)

section
variable {P : Json → Prop}

/-- A member that takes the place of one of its name has what all of them have. -/
theorem forall_alterEntries {members : List (Text × Json)} (h : ∀ m ∈ members, P m.2) {v : Json}
    (hv : P v) (name : Text) : ∀ m ∈ Table.alterEntries name (fun _ => v) members, P m.2 := by
  induction members with
  | nil =>
    intro m hm
    rw [List.mem_singleton.mp hm]
    exact hv
  | cons m members ih =>
    obtain ⟨hm, hmembers⟩ := List.forall_mem_cons.mp h
    unfold Table.alterEntries
    split_ifs
    · exact List.forall_mem_cons.mpr ⟨hv, hmembers⟩
    · exact List.forall_mem_cons.mpr ⟨hm, ih hmembers⟩

/-- It leaves the names apart. -/
theorem nodup_alterEntries {members : List (Text × Json)} (h : (members.map Prod.fst).Nodup)
    (v : Json) (name : Text) :
    ((Table.alterEntries name (fun _ => v) members).map Prod.fst).Nodup := by
  rw [Table.map_fst_alterEntries]
  split_ifs with hn
  · exact h
  · exact List.nodup_append.mpr ⟨h, by simp, by grind⟩

/-- Whatever fuel and room the readers have: a value that is read has what is inherited, and so do
the items and the members that are added to others that have it. -/
theorem Inherited.reader (hp : Inherited P) (fuel : ℕ) :
    (∀ room ps v rest, Reader.value room fuel ps = .ok (v, rest) → P v) ∧
    (∀ room done ps v rest, (∀ w ∈ done, P w) →
      Reader.items room fuel done ps = .ok (v, rest) → P v) ∧
    (∀ room (done : List (Text × Json)) ps v rest, (done.map Prod.fst).Nodup →
      (∀ m ∈ done, P m.2) → Reader.members room fuel done ps = .ok (v, rest) → P v) := by
  induction fuel with
  | zero => exact ⟨nofun, nofun, nofun⟩
  | succ fuel ih =>
    obtain ⟨hvalue, hitems, hmembers⟩ := ih
    refine ⟨?value, ?items, ?members⟩
    case value =>
      intro room ps v rest h
      unfold Reader.value at h
      split at h
      · split at h
        · cases h
        · cases h
          exact hp.string _
      · cases room with
        | zero => cases h
        | succ room =>
          dsimp only at h
          split at h
          · cases h
            exact hp.array _ (by simp)
          · exact hitems _ _ _ _ _ (by simp) h
      · cases room with
        | zero => cases h
        | succ room =>
          dsimp only at h
          split at h
          · cases h
            exact hp.object _ (by simp) (by simp)
          · exact hmembers _ _ _ _ _ (by simp) (by simp) h
      · exact hp.atom _ _ _ h
    case items =>
      intro room done ps v rest hd h
      unfold Reader.items at h
      split at h
      · cases h
      · next w rest' hw =>
        have hall := List.forall_mem_cons.mpr ⟨hvalue _ _ _ _ hw, hd⟩
        split at h
        · cases h
          exact hp.array _ fun u hu => hall u (List.mem_reverse.mp hu)
        · exact hitems _ _ _ _ _ hall h
        · cases h
    case members =>
      intro room done ps v rest hn hd h
      unfold Reader.members at h
      split at h
      · split at h
        · cases h
        · next name _ _ =>
          split at h
          · split at h
            · cases h
            · next w rest' hw =>
              have hn := nodup_alterEntries hn w name
              have hd := forall_alterEntries hd (hvalue _ _ _ _ hw) name
              dsimp only at h
              split at h
              · cases h
                exact hp.object _ hn hd
              · exact hmembers _ _ _ _ _ hn hd h
              · cases h
          · cases h
      · cases h

/-- The value of a JSON text has what is inherited. -/
theorem Inherited.of_readBytes (hp : Inherited P) {bs : List UInt8} {maxDepth : ℕ} {v : Json}
    (h : readBytes bs maxDepth = .ok v) : P v := by
  unfold readBytes read at h
  dsimp only at h
  split at h
  · cases h
  · split at h
    · cases h
    · next hr =>
      obtain rfl := Except.ok.inj h
      split at hr
      · cases hr
      · next hv =>
        split at hr
        · obtain rfl := Except.ok.inj hr
          exact (hp.reader _).1 _ _ _ _ hv
        · cases hr

end

/-- What a word or a number is read as. -/
inductive Atomic : Json → Prop where
  | null : Atomic .null
  | bool (b : Bool) : Atomic (.bool b)
  | integer {n : ℤ} : (digitChars n.natAbs).length ≤ maxIntegerDigits → Atomic (.integer n)
  | float (x : Float) : Atomic (.float x)

namespace Reader

theorem length_digitChars_le {ds : List Char} (hne : ds.isEmpty = false)
    (hle : ¬ maxIntegerDigits < ds.length) :
    (digitChars (Text.digitsValue ds)).length ≤ maxIntegerDigits := by
  have hpos : 0 < ds.length := List.length_pos_iff.mpr (List.isEmpty_eq_false_iff.mp hne)
  exact (Nat.toDigits_length 10 _ _ hpos (digitsValue_lt ds)).trans (not_lt.mp hle)

theorem number_atomic {ps rest : List CodePoint} {v : Json} (h : number ps = .ok (v, rest)) :
    v.Atomic := by
  unfold number at h
  dsimp only at h
  split_ifs at h with hempty _ hlong
  -- an integer with a sign and one without, and then the numbers with places or an exponent
  · obtain ⟨rfl, -⟩ := Prod.mk.inj (Except.ok.inj h)
    refine .integer ?_
    rw [Int.natAbs_neg, Int.natAbs_natCast]
    exact length_digitChars_le (Bool.eq_false_iff.mpr hempty) hlong
  · obtain ⟨rfl, -⟩ := Prod.mk.inj (Except.ok.inj h)
    refine .integer ?_
    rw [Int.natAbs_natCast]
    exact length_digitChars_le (Bool.eq_false_iff.mpr hempty) hlong
  · obtain ⟨rfl, -⟩ := Prod.mk.inj (Except.ok.inj h)
    exact .float _

theorem words_atomic : ∀ w ∈ words, w.2.Atomic := by
  simp only [words, List.forall_mem_cons]
  exact ⟨.null, .bool _, .bool _, .float _, .float _, .float _, by simp⟩

theorem atom_atomic {ps rest : List CodePoint} {v : Json} (h : atom ps = .ok (v, rest)) :
    v.Atomic := by
  unfold atom at h
  split at h
  · next w v' hw =>
    obtain ⟨rfl, -⟩ := Prod.mk.inj (Except.ok.inj h)
    exact words_atomic _ (List.mem_of_find?_eq_some hw)
  · exact number_atomic h

end Reader

theorem distinct_inherited : Inherited Distinct where
  atom ps v rest h := by
    cases Reader.atom_atomic h with
    | null => exact .null
    | bool b => exact .bool b
    | integer _ => exact .integer _
    | float x => exact .float x
  string := .string
  array _ := .array
  object _ := .object

/-- The value of a JSON text has no object with two members of one name. -/
theorem distinct_of_readBytes {bs : List UInt8} {maxDepth : ℕ} {v : Json}
    (h : readBytes bs maxDepth = .ok v) : v.Distinct :=
  distinct_inherited.of_readBytes h

theorem shortIntegers_inherited : Inherited ShortIntegers where
  atom ps v rest h := by
    cases Reader.atom_atomic h with
    | null => exact .null
    | bool b => exact .bool b
    | integer hn => exact .integer hn
    | float x => exact .float x
  string := .string
  array _ := .array
  object _ _ := .object

/-- The value of a JSON text has no integer with more digits than are read, or written. -/
theorem shortIntegers_of_readBytes {bs : List UInt8} {maxDepth : ℕ} {v : Json}
    (h : readBytes bs maxDepth = .ok v) : v.ShortIntegers :=
  shortIntegers_inherited.of_readBytes h

end ClusterBilling.Json
