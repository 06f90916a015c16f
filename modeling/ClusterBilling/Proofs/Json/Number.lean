import ClusterBilling.Json.Writer
import ClusterBilling.Proofs.Decimal.Shortest
import ClusterBilling.Proofs.Json.Grammar

/-!
Numbers inside of JSON text: what the parts of a number are read as, and the parts of those that are
written. A finite number is written with a point or an exponent, and is read as itself.
-/
namespace ClusterBilling.Json
open Decimal Text Grammar

/-- Characters as code points. -/
abbrev scalars (cs : List Char) : List CodePoint := cs.map .scalar

/-- What follows is no part of a number. -/
def Ended (rest : List CodePoint) : Prop := ∀ p ∈ rest.head?, p.satisfies Reader.isNumeric = false

/-- The parts of a number: its sign, its digits and its exponent. -/
structure Numeral where
  negative : Bool
  whole : List Char
  places : List Char
  exponent? : Option ℤ
  wholeness : Whole whole
  digits : ∀ c ∈ places, c.isDigit

namespace Numeral
variable (n : Numeral)

def tail : List Char := n.exponent?.elim [] exponentChars

/-- The text of the number. -/
def chars : List Char :=
  (if n.negative then ['-'] else []) ++ numeral n.whole n.places n.tail

/-- The number without its sign. -/
def magnitude : ℚ :=
  digitsValue (n.whole ++ n.places) * 10 ^ (n.exponent?.getD 0 - n.places.length)

/-- Without a point and an exponent, the number is an integer. -/
def IsWhole : Prop := n.places = [] ∧ n.exponent? = none

instance : Decidable n.IsWhole := inferInstanceAs (Decidable (_ ∧ _))

/-- The integer that the digits before the point make. -/
def integer : ℤ :=
  if n.negative then -(digitsValue n.whole : ℤ) else digitsValue n.whole

/-- The floating-point number that is nearest. -/
def float : Float :=
  nearestFloat n.negative (digitsValue (n.whole ++ n.places))
    (n.exponent?.getD 0 - n.places.length)

theorem exists_whole : ∃ c cs, n.whole = c :: cs ∧ c.isDigit := by
  obtain ⟨c, cs, hcs⟩ := List.exists_cons_of_ne_nil n.wholeness.1.1
  exact ⟨c, cs, hcs, n.wholeness.1.2 c (hcs ▸ List.mem_cons_self)⟩

/-- A number begins with a digit or a sign. -/
theorem exists_chars : ∃ c cs, n.chars = c :: cs ∧ (c = '-' ∨ c.isDigit) := by
  obtain ⟨c, cs, hcs, hc⟩ := n.exists_whole
  unfold chars numeral
  rw [hcs]
  split_ifs <;> exact ⟨_, _, rfl, by simp [hc]⟩

theorem isExponent_tail : IsExponent n.tail (n.exponent?.getD 0) := by
  unfold tail
  cases n.exponent? with
  | none => exact isExponent_nil
  | some e => exact isExponent_exponentChars e

/-- An exponent is written as a sign and digits. -/
theorem exists_exponentChars (e : ℤ) : ∃ ds, exponentChars e =
    'e' :: (if e < 0 then '-' else '+') :: ds ∧ Digits ds ∧ digitsValue ds = e.natAbs := by
  have hd : ∀ c ∈ digitChars e.natAbs, c.isDigit := fun c => isDigit_digitChars
  have hv := digitsValue_digitChars e.natAbs
  unfold exponentChars
  refine ⟨_, rfl, ?_⟩
  split
  · exact ⟨⟨List.cons_ne_nil _ _, List.forall_mem_cons.mpr ⟨by decide, hd⟩⟩, hv⟩
  · exact ⟨⟨Nat.toDigits_ne_nil, hd⟩, hv⟩

section grammar

theorem exponent_exponentChars (e : ℤ) : Exponent (exponentChars e) := by
  obtain ⟨ds, he, hds, -⟩ := exists_exponentChars e
  have hsign : [if e < 0 then '-' else '+'] = [] ∨ [if e < 0 then '-' else '+'] = ['-'] ∨
      [if e < 0 then '-' else '+'] = ['+'] := by
    split_ifs <;> simp
  rw [he]
  exact .some (.inl rfl) hsign hds

theorem number_chars : Number n.chars := by
  have hplaces : Places (if n.places.isEmpty then [] else '.' :: n.places) := by
    split_ifs with h
    · exact .none
    · exact .some ⟨by simpa using h, n.digits⟩
  have htail : Exponent n.tail := by
    unfold tail
    cases n.exponent? with
    | none => exact .none
    | some e => exact exponent_exponentChars e
  have hsign : (if n.negative then ['-'] else []) = [] ∨
      (if n.negative then ['-'] else []) = ['-'] := by
    cases n.negative <;> simp
  have hnumber := Number.mk hsign n.wholeness hplaces htail
  simpa only [chars, numeral, List.append_assoc] using hnumber

end grammar

section reading
variable {rest : List CodePoint}

theorem takeWhile_numeric {cs : List Char} (hcs : ∀ c ∈ cs, Reader.isNumeric c)
    (hr : Ended rest) :
    (scalars cs ++ rest).takeWhile (·.satisfies Reader.isNumeric) = scalars cs := by
  rw [List.takeWhile_append_of_pos (by simpa [CodePoint.satisfies] using hcs)]
  cases rest with
  | nil => simp
  | cons p ps => simp [hr p rfl]

theorem map_char_scalars (cs : List Char) : (scalars cs).map CodePoint.char = cs := by
  rw [List.map_map]
  exact List.map_id cs

theorem fractionPart_numeral {places tail : List Char} {e : ℤ} (hp : ∀ c ∈ places, c.isDigit)
    (ht : IsExponent tail e) :
    Reader.fractionPart ((if places.isEmpty then [] else '.' :: places) ++ tail) =
      (places, tail) := by
  have htail (c : Char) (cs : List Char) (h : tail = c :: cs) : c.isDigit = false :=
    (ht.head c cs h).1
  cases places with
  | nil =>
    simp only [List.isEmpty_nil, if_true, List.nil_append]
    unfold Reader.fractionPart
    split
    · next rest => exact absurd rfl (ht.head '.' rest rfl).2
    · rfl
  | cons p ps =>
    simp only [List.isEmpty_cons, Bool.false_eq_true, if_false, List.cons_append]
    unfold Reader.fractionPart
    simp only
    rw [← List.cons_append, takeDigits_append hp htail]
    rfl

theorem exponentPart_tail : Reader.exponentPart n.tail = (n.exponent?, []) := by
  unfold tail
  cases n.exponent? with
  | none => rfl
  | some e =>
    obtain ⟨ds, he, ⟨hne, hdigits⟩, hvalue⟩ := exists_exponentChars e
    have htake : takeDigits ds = (ds, []) := by
      have htake : takeDigits (ds ++ []) = (ds, []) := takeDigits_append hdigits (by simp)
      rwa [List.append_nil] at htake
    have hempty : ds.isEmpty = false := List.isEmpty_eq_false_iff.mpr hne
    rw [Option.elim_some, he]
    unfold Reader.exponentPart
    by_cases h0 : e < 0
    · simp [h0, takeSign, htake, hempty, hvalue, abs_of_neg h0]
    · simp [h0, takeSign, htake, hempty, hvalue, not_lt.mp h0]

theorem signPart_chars :
    Reader.signPart n.chars = (n.negative, numeral n.whole n.places n.tail) := by
  obtain ⟨c, cs, hw, hc⟩ := n.exists_whole
  unfold chars
  cases n.negative with
  | true => rfl
  | false =>
    simp only [Bool.false_eq_true, if_false, List.nil_append]
    unfold Reader.signPart
    split
    · next h =>
      rw [numeral, hw] at h
      exact absurd (List.cons.inj h).1 (by rintro rfl; cases hc)
    · rfl

theorem wholePart_numeral : Reader.wholePart (numeral n.whole n.places n.tail) =
    (n.whole, (if n.places.isEmpty then [] else '.' :: n.places) ++ n.tail) := by
  obtain ⟨c, cs, hw, hc⟩ := n.exists_whole
  have hnotdigit (d : Char) (ds : List Char)
      (h : (if n.places.isEmpty then [] else '.' :: n.places) ++ n.tail = d :: ds) :
      d.isDigit = false := by
    split_ifs at h
    · exact (n.isExponent_tail.head d ds h).1
    · rw [← (List.cons.inj h).1]
      rfl
  unfold numeral
  by_cases hzero : c = '0'
  · have hone : n.whole = ['0'] := n.wholeness.2 (by rw [hw, hzero]; rfl)
    rw [hone]
    rfl
  · unfold Reader.wholePart
    split
    · next h =>
      rw [hw] at h
      exact absurd (List.cons.inj h).1 hzero
    · exact takeDigits_append n.wholeness.1.2 hnotdigit

/-- Without a point and an exponent a number is an integer, if it is not too long. -/
theorem number_eq (hr : Ended rest) : Reader.number (scalars n.chars ++ rest) =
    if n.IsWhole then
      if maxIntegerDigits < n.whole.length then .error (.longInteger n.whole.length)
      else .ok (.integer n.integer, rest)
    else .ok (.float n.float, rest) := by
  obtain ⟨c, cs, hw, -⟩ := n.exists_whole
  have hempty : n.whole.isEmpty = false := by rw [hw]; rfl
  have hdrop : (scalars n.chars ++ rest).drop (n.chars.length - ([] : List Char).length) =
      rest := by
    simp
  unfold Reader.number
  simp only [takeWhile_numeric n.number_chars.isNumeric hr, map_char_scalars, n.signPart_chars,
    n.wholePart_numeral, fractionPart_numeral n.digits n.isExponent_tail, n.exponentPart_tail,
    hempty, hdrop]
  by_cases h : n.IsWhole
  · rw [if_pos h, h.1, h.2]
    simp [integer]
  · have hnot : (n.places.isEmpty && n.exponent?.isNone) = false := by
      rw [Bool.eq_false_iff]
      simpa [IsWhole] using h
    rw [if_neg h, hnot]
    rfl

end reading
end Numeral

section written

/-- Only zero is written with a leading zero. -/
theorem whole_digitChars (d : ℕ) : Whole (digitChars d) := by
  refine ⟨⟨Nat.toDigits_ne_nil, fun c => isDigit_digitChars⟩, ?_⟩
  unfold digitChars
  induction d using Nat.strong_induction_on with
  | _ d ih =>
    rw [Nat.toDigits_eq_if (by norm_num)]
    split_ifs with hlt
    · interval_cases d <;> decide
    · rw [List.head?_append_of_ne_nil _ Nat.toDigits_ne_nil]
      intro h
      have hzero := ih (d / 10) (by omega) h
      have hdiv : d / 10 = 0 := by
        rw [← digitsValue_digitChars (d / 10), digitChars, hzero]
        rfl
      omega

/-- Digits that begin like a number other than zero. -/
theorem whole_of_append {d : ℕ} (hd : d ≠ 0) {cs ds zeros : List Char} (hne : cs ≠ [])
    (h : digitChars d = cs ++ ds) (hzeros : ∀ c ∈ zeros, c.isDigit) : Whole (cs ++ zeros) := by
  obtain ⟨⟨-, hdigits⟩, hhead⟩ := whole_digitChars d
  refine ⟨⟨by simp [hne], List.forall_mem_append.mpr ⟨fun c hc => ?_, hzeros⟩⟩, fun h0 => ?_⟩
  · exact hdigits c (h ▸ List.mem_append_left ds hc)
  · rw [List.head?_append_of_ne_nil _ hne] at h0
    rw [h, List.head?_append_of_ne_nil _ hne] at hhead
    have hzero := digitsValue_digitChars d
    rw [h, hhead h0] at hzero
    exact absurd hzero.symm hd

/-- What follows the sign of a number that has a point or an exponent. -/
def IsBody (negative : Bool) (v : ℚ) (body : List Char) : Prop :=
  ∃ n : Numeral, numeral n.whole n.places n.tail = body ∧ ¬n.IsWhole ∧ n.negative = negative ∧
    n.magnitude = v

section layouts
variable {d : ℕ} {e lead : ℤ} (negative : Bool)

theorem isBody_small (hlead : e + (digitChars d).length - 1 = lead) (hneg : lead < 0) :
    IsBody negative (d * 10 ^ e)
      ('0' :: '.' :: List.replicate (-lead - 1).toNat '0' ++ digitChars d) := by
  have hne : digitChars d ≠ [] := Nat.toDigits_ne_nil
  have hplaces : ∀ c ∈ List.replicate (-lead - 1).toNat '0' ++ digitChars d, c.isDigit := by
    refine List.forall_mem_append.mpr ⟨fun c hc => ?_, fun c => isDigit_digitChars⟩
    rw [List.eq_of_mem_replicate hc]
    rfl
  refine ⟨⟨negative, ['0'], _, none, ⟨⟨by simp, by simp⟩, fun _ => rfl⟩, hplaces⟩, ?_, ?_, rfl,
    ?_⟩
  · simp [numeral, Numeral.tail, hne]
  · simp [Numeral.IsWhole, hne]
  · have hzero : digitsValue ['0'] = 0 := rfl
    unfold Numeral.magnitude
    rw [← List.append_assoc, digitsValue_append, digitsValue_append, digitsValue_replicate_zero,
      hzero, zero_mul, zero_add, zero_mul, zero_add, digitsValue_digitChars, List.length_append,
      List.length_replicate]
    congr 2
    simp only [Option.getD_none]
    omega

/-- Zero is written without further zeros before the point. -/
theorem isBody_whole (h0 : d = 0 → e = 0) (hlead : e + (digitChars d).length - 1 = lead)
    (hle : (digitChars d).length ≤ lead.toNat + 1) (hpos : 0 ≤ lead) :
    IsBody negative (d * 10 ^ e)
      (digitChars d ++ List.replicate (lead.toNat + 1 - (digitChars d).length) '0' ++
        ['.', '0']) := by
  have hzeros : ∀ c ∈ List.replicate (lead.toNat + 1 - (digitChars d).length) '0', c.isDigit := by
    intro c hc
    rw [List.eq_of_mem_replicate hc]
    rfl
  have hwhole :
      Whole (digitChars d ++ List.replicate (lead.toNat + 1 - (digitChars d).length) '0') := by
    by_cases hd : d = 0
    · have hlength : lead.toNat + 1 - (digitChars d).length = 0 := by
        have := h0 hd
        omega
      rw [hlength, List.replicate_zero, List.append_nil]
      exact whole_digitChars d
    · exact whole_of_append hd Nat.toDigits_ne_nil (List.append_nil _).symm hzeros
  refine ⟨⟨negative, _, ['0'], none, hwhole, by simp⟩, ?_, ?_, rfl, ?_⟩
  · simp [numeral, Numeral.tail]
  · simp [Numeral.IsWhole]
  · have hzero : digitsValue ['0'] = 0 := rfl
    obtain ⟨k, hk⟩ : ∃ k, k = lead.toNat + 1 - (digitChars d).length := ⟨_, rfl⟩
    have he : e = k := by omega
    unfold Numeral.magnitude
    simp only [← hk, he, digitsValue_append, digitsValue_replicate_zero, hzero,
      List.length_replicate, digitsValue_digitChars, List.length_singleton, Option.getD_none]
    push_cast
    rw [zpow_natCast, zpow_neg_one]
    ring

theorem isBody_point (hlead : e + (digitChars d).length - 1 = lead) (hpos : 0 ≤ lead)
    (hlt : lead.toNat + 1 < (digitChars d).length) :
    IsBody negative (d * 10 ^ e)
      ((digitChars d).take (lead.toNat + 1) ++ '.' :: (digitChars d).drop (lead.toNat + 1)) := by
  have hd : d ≠ 0 := by
    rintro rfl
    simp [digitChars] at hlt
  have htake : (digitChars d).take (lead.toNat + 1) ≠ [] := by
    simp [digitChars]
  have hwhole : Whole ((digitChars d).take (lead.toNat + 1) ++ []) :=
    whole_of_append hd htake (List.take_append_drop _ _).symm (by simp)
  rw [List.append_nil] at hwhole
  refine ⟨⟨negative, _, (digitChars d).drop (lead.toNat + 1), none, hwhole, fun c hc =>
    isDigit_digitChars (List.mem_of_mem_drop hc)⟩, ?_, ?_, rfl, ?_⟩
  · simp [numeral, Numeral.tail, hlt]
  · simp [Numeral.IsWhole, hlt]
  · unfold Numeral.magnitude
    rw [List.take_append_drop, List.length_drop, digitsValue_digitChars]
    congr 2
    simp only [Option.getD_none]
    omega

theorem isBody_exponent (hlead : e + (digitChars d).length - 1 = lead) :
    IsBody negative (d * 10 ^ e)
      ((digitChars d).take 1 ++ (if (digitChars d).length = 1 then [] else ['.']) ++
        (digitChars d).drop 1 ++ exponentChars lead) := by
  have hdigits : ∀ c ∈ digitChars d, c.isDigit := fun c => isDigit_digitChars
  have hvalue := digitsValue_digitChars d
  obtain ⟨c, cs, hcs⟩ := List.exists_cons_of_ne_nil (Nat.toDigits_ne_nil (n := d) (b := 10))
  change digitChars d = c :: cs at hcs
  rw [hcs] at hdigits hvalue hlead ⊢
  have hwhole : Whole [c] :=
    ⟨⟨by simp, fun x hx => hdigits x (by simp_all)⟩, fun h => by simpa using h⟩
  refine ⟨⟨negative, [c], cs, some lead, hwhole, fun x hx => hdigits x (.tail _ hx)⟩, ?_, ?_, rfl,
    ?_⟩
  · cases cs <;> simp [numeral, Numeral.tail]
  · simp [Numeral.IsWhole]
  · unfold Numeral.magnitude
    rw [List.singleton_append, hvalue]
    congr 2
    rw [List.length_cons] at hlead
    push_cast at hlead
    simp only [Option.getD_some]
    omega

end layouts

/-- A decimal is written with a point or an exponent. -/
theorem exists_render {s : Scaled} (h0 : s.digits = 0 → s.exponent = 0) :
    ∃ n : Numeral, (plainLayout.render s).toList = n.chars ∧ ¬n.IsWhole ∧
      n.negative = s.negative ∧ n.magnitude = s.digits * 10 ^ s.exponent := by
  obtain ⟨negative, d, e⟩ := s
  suffices hbody : ∀ body, IsBody negative (d * 10 ^ e) body → ∃ n : Numeral,
      (if negative then '-' :: body else body) = n.chars ∧ ¬n.IsWhole ∧ n.negative = negative ∧
        n.magnitude = d * 10 ^ e by
    unfold Layout.render
    rw [String.toList_ofList]
    apply hbody
    dsimp only
    generalize hlead : e + ((digitChars d).length : ℤ) - 1 = lead
    by_cases hrange : plainLayout.least ≤ lead ∧ lead ≤ plainLayout.greatest
    · rw [if_pos hrange]
      split_ifs with hneg hlong
      · exact isBody_small negative hlead hneg
      · exact isBody_whole negative h0 hlead hlong (not_lt.mp hneg)
      · exact isBody_point negative hlead (not_lt.mp hneg) (not_le.mp hlong)
    · rw [if_neg hrange]
      exact isBody_exponent negative hlead
  rintro body ⟨n, hb, hw, hn, hv⟩
  refine ⟨n, ?_, hw, hn, hv⟩
  rw [Numeral.chars, hb, hn]
  cases negative <;> rfl

theorem shortest_zero {x : Float} {b : Binary} (h : Reading.ofFloat x = .finite b)
    (h0 : b.shortest.digits = 0) : b.shortest.exponent = 0 := by
  have hx := nearestFloat_shortest h
  rw [h0] at hx
  have hm : b.mantissa = 0 := by
    rw [← hx, reading_zero] at h
    rw [← Reading.finite.inj h]
  rw [Binary.shortest, if_pos hm]

/-- A finite number is written with a point or an exponent, and is what is nearest to that. -/
theorem exists_writeFloat {x : Float} {b : Binary} (h : Reading.ofFloat x = .finite b) :
    ∃ n : Numeral, (writeFloat x).toList = n.chars ∧ ¬n.IsWhole ∧ n.float = x := by
  obtain ⟨n, hchars, hw, hn, hv⟩ := exists_render (shortest_zero h)
  have hwrite : writeFloat x = plainLayout.render b.shortest := by rw [writeFloat, h]
  refine ⟨n, by rw [hwrite, hchars], hw, ?_⟩
  rw [Numeral.float, nearestFloat_congr hv, hn]
  exact nearestFloat_shortest h

/-- An integer is written as its digits. -/
theorem exists_toString (i : ℤ) : ∃ n : Numeral, (toString i).toList = n.chars ∧ n.IsWhole ∧
    n.integer = i ∧ n.whole = digitChars i.natAbs := by
  refine ⟨⟨i < 0, digitChars i.natAbs, [], none, whole_digitChars _, nofun⟩, ?_, ⟨rfl, rfl⟩, ?_,
    rfl⟩
  · rw [Int.toString_eq_repr, Int.repr_eq_if]
    by_cases h : i < 0
    · have hneg : (-i).toNat = i.natAbs := by omega
      simp [h, not_le.mpr h, hneg, Numeral.chars, numeral, Numeral.tail, digitChars]
    · have hpos : i.toNat = i.natAbs := by omega
      simp [h, not_lt.mp h, hpos, Numeral.chars, numeral, Numeral.tail, digitChars]
  · unfold Numeral.integer
    rw [digitsValue_digitChars]
    by_cases h : i < 0
    · simp [h, abs_of_neg h]
    · simp [h, abs_of_nonneg (not_lt.mp h)]

end written
end ClusterBilling.Json
