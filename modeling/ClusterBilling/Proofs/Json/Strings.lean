import ClusterBilling.Json.Writer
import ClusterBilling.Proofs.Json.Number

/-!
Strings inside of JSON text. A string is read back as it was written, but for halves of characters:
a high surrogate and a low one after it become the character that they make.
-/
namespace ClusterBilling
open Text

namespace CodePoint

theorem toNat_scalar (c : Char) : c.toNat < 0xd800 ∨ 0xdfff < c.toNat := by
  have hc : c.toNat.isValidChar := c.valid
  unfold Nat.isValidChar at hc
  omega

theorem isHighSurrogate_iff (n : ℕ) : isHighSurrogate n ↔ 0xd800 ≤ n ∧ n < 0xdc00 := by
  rw [isHighSurrogate, Bool.and_eq_true, decide_eq_true_eq, decide_eq_true_eq]

theorem isLowSurrogate_iff (n : ℕ) : isLowSurrogate n ↔ 0xdc00 ≤ n ∧ n < 0xe000 := by
  rw [isLowSurrogate, Bool.and_eq_true, decide_eq_true_eq, decide_eq_true_eq]

/-- The first half of a character, and the second. -/
def Pairs (p q : CodePoint) : Prop := isHighSurrogate p.toNat ∧ isLowSurrogate q.toNat

instance : DecidableRel Pairs := fun _ _ => inferInstanceAs (Decidable (_ ∧ _))

theorem not_pairs_scalar (c : Char) (q : CodePoint) : ¬Pairs (.scalar c) q := by
  rintro ⟨hhigh, -⟩
  have hc := toNat_scalar c
  have := (isHighSurrogate_iff c.toNat).mp hhigh
  omega

theorem not_pairs_to_scalar (p : CodePoint) (c : Char) : ¬Pairs p (.scalar c) := by
  rintro ⟨-, hlow⟩
  have hc := toNat_scalar c
  have := (isLowSurrogate_iff c.toNat).mp hlow
  omega

/-- The character that two halves make. -/
def joined (p q : CodePoint) : Char := Char.ofNat (joinSurrogates p.toNat q.toNat)

/-- Halves of characters become characters. -/
def join : List CodePoint → List CodePoint
  | p :: q :: ps => if Pairs p q then .scalar (joined p q) :: join ps else p :: join (q :: ps)
  | ps => ps

/-- No two halves of a character stand next to each other. -/
def Unpaired (ps : List CodePoint) : Prop := ps.IsChain fun p q => ¬Pairs p q

theorem head?_join (ps : List CodePoint) :
    (join ps).head? = ps.head? ∨ ∃ c, (join ps).head? = some (.scalar c) := by
  fun_cases join ps with
  | case1 p q ps h => exact .inr ⟨_, rfl⟩
  | case2 p q ps h => exact .inl rfl
  | case3 ps => exact .inl rfl

theorem unpaired_join (ps : List CodePoint) : Unpaired (join ps) := by
  fun_induction join ps with
  | case1 p q ps h ih =>
    refine List.isChain_cons.mpr ⟨fun r _ => not_pairs_scalar _ r, ih⟩
  | case2 p q ps h ih =>
    refine List.isChain_cons.mpr ⟨fun r hr => ?_, ih⟩
    rcases head?_join (q :: ps) with hq | ⟨c, hc⟩
    · rw [hq] at hr
      rw [← Option.some.inj hr]
      exact h
    · rw [hc] at hr
      rw [← Option.some.inj hr]
      exact not_pairs_to_scalar p c
  | case3 ps h =>
    match ps, h with
    | [], _ => exact .nil
    | [p], _ => exact .singleton p
    | p :: q :: ps, h => exact absurd rfl (h p q ps)

/-- Only text without such neighbours stays as it is. -/
theorem join_eq_self_iff (ps : List CodePoint) : join ps = ps ↔ Unpaired ps := by
  refine ⟨fun h => h ▸ unpaired_join ps, fun h => ?_⟩
  fun_induction join ps with
  | case1 p q ps hpq ih => exact absurd hpq (List.isChain_cons_cons.mp h).1
  | case2 p q ps _ ih => rw [ih (List.isChain_cons_cons.mp h).2]
  | case3 => rfl

theorem unpaired_scalars (cs : List Char) : Unpaired (cs.map .scalar) := by
  induction cs with
  | nil => exact .nil
  | cons c cs ih => exact List.isChain_cons.mpr ⟨fun q _ => not_pairs_scalar c q, ih⟩

end CodePoint

namespace Text

/-- The text with the characters that its neighbouring surrogates make. -/
def joined (t : Text) : Text := ⟨CodePoint.join t.points⟩

/-- No two surrogates in the text make a character. -/
def Unpaired (t : Text) : Prop := CodePoint.Unpaired t.points

theorem joined_eq_self_iff (t : Text) : t.joined = t ↔ t.Unpaired := by
  obtain ⟨ps⟩ := t
  rw [joined, Text.mk.injEq, CodePoint.join_eq_self_iff]
  rfl

theorem unpaired_joined (t : Text) : t.joined.Unpaired := CodePoint.unpaired_join t.points

theorem unpaired_ofString (s : String) : (ofString s).Unpaired :=
  CodePoint.unpaired_scalars s.toList

end Text

namespace Json
open CodePoint (isHighSurrogate isLowSurrogate joinSurrogates)
open Grammar

section hexadecimal

theorem hex_one {n : ℕ} (h : n < 16) : hex 1 n = [Nat.digitChar n] := by
  rw [hex, Nat.toDigits_of_lt_base h]
  rfl

theorem hex_succ {w n : ℕ} (hw : 0 < w) :
    hex (w + 1) n = hex w (n / 16) ++ [Nat.digitChar (n % 16)] := by
  by_cases h : n < 16
  · obtain ⟨k, rfl⟩ := Nat.exists_eq_add_of_lt hw
    rw [hex, hex, Nat.div_eq_of_lt h, Nat.mod_eq_of_lt h, Nat.toDigits_of_lt_base h,
      Nat.toDigits_zero]
    simp [List.replicate_succ']
  · have hdigits : Nat.toDigits 16 n = Nat.toDigits 16 (n / 16) ++ [Nat.digitChar (n % 16)] :=
      Nat.toDigits_of_base_le (by norm_num) (not_lt.mp h)
    simp [hex, hdigits]

theorem hexValue?_digitChar {k : ℕ} (h : k < 16) : hexValue? (Nat.digitChar k) = some k := by
  decide +revert

theorem isHexDigit_digitChar {k : ℕ} (h : k < 16) : IsHexDigit (Nat.digitChar k) := by
  rw [IsHexDigit, hexValue?_digitChar h]
  rfl

/-- Four hexadecimal digits, from which the number can be read. -/
theorem exists_hex {n : ℕ} (h : n < 0x10000) : ∃ a b c d, hex 4 n = [a, b, c, d] ∧
    Reader.hex4? a b c d = some n ∧
      IsHexDigit a ∧ IsHexDigit b ∧ IsHexDigit c ∧ IsHexDigit d := by
  have ha : n / 16 / 16 / 16 < 16 := by omega
  have hb : n / 16 / 16 % 16 < 16 := by omega
  have hc : n / 16 % 16 < 16 := by omega
  have hd : n % 16 < 16 := by omega
  refine ⟨_, _, _, _, ?_, ?_, isHexDigit_digitChar ha, isHexDigit_digitChar hb,
    isHexDigit_digitChar hc, isHexDigit_digitChar hd⟩
  · rw [hex_succ (by norm_num), hex_succ (by norm_num), hex_succ (by norm_num), hex_one ha]
    rfl
  · unfold Reader.hex4?
    simp [CodePoint.char, hexValue?_digitChar, ha, hb, hc, hd]
    omega

end hexadecimal

section codePoints

theorem codePoint_toNat (p : CodePoint) : Reader.codePoint p.toNat = p := by
  unfold Reader.codePoint CodePoint.ofNat?
  cases p with
  | scalar c =>
    have hc : c.toNat.isValidChar := c.valid
    simp [CodePoint.toNat, hc]
  | surrogate n =>
    have hinvalid : ¬(0xd800 + n : ℕ).isValidChar := by
      unfold Nat.isValidChar
      omega
    have hn : 0xd800 + (n : ℕ) - 0xd800 < 2048 ∧ 0xd800 ≤ 0xd800 + (n : ℕ) := by omega
    have hsame : (⟨0xd800 + (n : ℕ) - 0xd800, hn.1⟩ : Fin 2048) = n :=
      Fin.ext (Nat.add_sub_cancel_left _ _)
    rw [CodePoint.toNat, if_neg hinvalid, dif_pos hn, hsame]
    rfl

theorem codePoint_join {p q : CodePoint} (h : CodePoint.Pairs p q) :
    Reader.codePoint (joinSurrogates p.toNat q.toNat) = .scalar (CodePoint.joined p q) := by
  obtain ⟨hp, hq⟩ := h
  have hvalid : (joinSurrogates p.toNat q.toNat).isValidChar := by
    have hhigh := (CodePoint.isHighSurrogate_iff _).mp hp
    have hlow := (CodePoint.isLowSurrogate_iff _).mp hq
    unfold joinSurrogates Nat.isValidChar
    omega
  rw [Reader.codePoint, CodePoint.ofNat?, if_pos hvalid]
  rfl

/-- The halves of a character beyond 16 bits. -/
theorem codePoint_halves {c : Char} (h : 0x10000 ≤ c.toNat) :
    let n := c.toNat - 0x10000
    isHighSurrogate (0xd800 + n / 0x400) ∧ isLowSurrogate (0xdc00 + n % 0x400) ∧
      Reader.codePoint (joinSurrogates (0xd800 + n / 0x400) (0xdc00 + n % 0x400)) = .scalar c := by
  intro n
  have hc : c.toNat.isValidChar := c.valid
  have hbound : n < 0x100000 := by
    unfold Nat.isValidChar at hc
    omega
  have hjoin : joinSurrogates (0xd800 + n / 0x400) (0xdc00 + n % 0x400) = c.toNat := by
    unfold joinSurrogates
    omega
  refine ⟨(CodePoint.isHighSurrogate_iff _).mpr (by omega),
    (CodePoint.isLowSurrogate_iff _).mpr (by omega), ?_⟩
  rw [hjoin]
  exact codePoint_toNat (.scalar c)

end codePoints

/-- The ways in which a code point stands in a string. -/
inductive Escape : CodePoint → List Char → Prop where
  | plain {c : Char} : 32 ≤ c.toNat → c ≠ '"' → c ≠ '\\' → Escape (.scalar c) [c]
  | letter {c l : Char} : Reader.letterEscape? l = some c → Escape (.scalar c) ['\\', l]
  | unit {p : CodePoint} : p.toNat < 0x10000 → Escape p (escapeUnit p.toNat)
  | pair {c : Char} {high low : ℕ} : isHighSurrogate high → isLowSurrogate low →
    Reader.codePoint (joinSurrogates high low) = .scalar c →
      Escape (.scalar c) (escapeUnit high ++ escapeUnit low)

theorem escape_escapePoint (p : CodePoint) : Escape p (escapePoint p) := by
  cases p with
  | surrogate n => exact .unit (by simp only [CodePoint.toNat]; omega)
  | scalar c =>
    have hchar {n : ℕ} (h : c.toNat = n) : c = Char.ofNat n := by rw [← h, Char.ofNat_toNat]
    unfold escapePoint escapeChar
    simp only
    split_ifs with hquote hn hr ht hf hb hplain hunit
    · refine .letter ?_
      rw [Reader.letterEscape?, if_pos (Bool.or_eq_true _ _ ▸ .inl hquote)]
    · exact .letter (by rw [hn]; decide)
    · exact .letter (by rw [hr]; decide)
    · exact .letter (by rw [ht]; decide)
    · exact .letter (by rw [hchar hf]; decide)
    · exact .letter (by rw [hchar hb]; decide)
    · simp only [Bool.and_eq_true, decide_eq_true_eq] at hplain
      exact .plain hplain.1 (fun h => hquote (by simp [h])) fun h => hquote (by simp [h])
    · exact .unit hunit
    · obtain ⟨hhigh, hlow, hjoin⟩ := codePoint_halves (not_lt.mp hunit)
      exact .pair hhigh hlow hjoin

/-- A surrogate is written as one unit. -/
theorem escapePoint_of_surrogate {p : CodePoint}
    (h : isHighSurrogate p.toNat ∨ isLowSurrogate p.toNat) :
    escapePoint p = escapeUnit p.toNat := by
  cases p with
  | surrogate n => rfl
  | scalar c =>
    have hc := CodePoint.toNat_scalar c
    rw [CodePoint.isHighSurrogate_iff, CodePoint.isLowSurrogate_iff] at h
    change (0xd800 ≤ c.toNat ∧ c.toNat < 0xdc00) ∨ (0xdc00 ≤ c.toNat ∧ c.toNat < 0xe000) at h
    omega

section grammar

theorem mem_letters {l c : Char} (h : Reader.letterEscape? l = some c) :
    l ∈ ['"', '\\', '/', 'b', 'f', 'n', 'r', 't'] := by
  by_contra hl
  simp only [List.mem_cons, not_or] at hl
  simp [Reader.letterEscape?, hl] at h

theorem ne_u_of_letterEscape? {l c : Char} (h : Reader.letterEscape? l = some c) : l ≠ 'u' := by
  rintro rfl
  cases h

theorem Grammar.Chars.escapeUnit {n : ℕ} (hn : n < 0x10000) {cs : List Char} (h : Chars cs) :
    Chars (escapeUnit n ++ cs) := by
  obtain ⟨a, b, c, d, hhex, -, ha, hb, hc, hd⟩ := exists_hex hn
  rw [Json.escapeUnit, hhex]
  exact .unicode ha hb hc hd h

theorem lt_of_isHighSurrogate {n : ℕ} (h : isHighSurrogate n) : n < 0x10000 := by
  have := (CodePoint.isHighSurrogate_iff n).mp h
  omega

theorem lt_of_isLowSurrogate {n : ℕ} (h : isLowSurrogate n) : n < 0x10000 := by
  have := (CodePoint.isLowSurrogate_iff n).mp h
  omega

theorem Escape.chars {p : CodePoint} {esc cs : List Char} (he : Escape p esc) (h : Chars cs) :
    Chars (esc ++ cs) := by
  cases he with
  | plain h32 hquote hback => exact .plain h32 hquote hback h
  | letter hl => exact .letter (mem_letters hl) h
  | unit hn => exact h.escapeUnit hn
  | pair hhigh hlow _ =>
    rw [List.append_assoc]
    exact (h.escapeUnit (lt_of_isLowSurrogate hlow)).escapeUnit (lt_of_isHighSurrogate hhigh)

theorem toList_writeString (s : Text) :
    (writeString s).toList = '"' :: (s.points.flatMap escapePoint ++ ['"']) := by
  rw [writeString, String.toList_ofList, List.cons_append]

/-- A string is written as one of the grammar. -/
theorem quoted_writeString (s : Text) : Quoted (writeString s).toList := by
  have hchars : Chars (s.points.flatMap escapePoint) := by
    induction s.points with
    | nil => exact .nil
    | cons p ps ih => exact (escape_escapePoint p).chars ih
  rw [toList_writeString]
  exact .mk hchars

end grammar

section reading
variable {opening : List CodePoint} {fuel : ℕ} {done more rest : List CodePoint}

/-- What may follow the escape of a high surrogate that is to stay alone. -/
def LeavesAlone (more : List CodePoint) : Prop :=
  ∀ tail, more = .scalar '\\' :: .scalar 'u' :: tail → ∃ m after, m < 0x10000 ∧
    isLowSurrogate m = false ∧ tail = scalars (hex 4 m) ++ after

theorem unicodeEscape_hex {n : ℕ} (hn : n < 0x10000) (hne : more ≠ [])
    (h : isHighSurrogate n → LeavesAlone more) :
    Reader.unicodeEscape (scalars (hex 4 n) ++ more) = .ok (Reader.codePoint n, more) := by
  obtain ⟨a, b, c, d, hhex, hvalue, -⟩ := exists_hex hn
  have hempty : more.isEmpty = false := List.isEmpty_eq_false_iff.mpr hne
  rw [hhex]
  unfold Reader.unicodeEscape
  simp only [scalars, List.map_cons, List.map_nil, List.cons_append, List.nil_append, hempty,
    hvalue]
  split_ifs with hhigh
  · split
    · next e f g x y tail =>
      obtain ⟨m, after, hm, hlow, htail⟩ := h hhigh _ rfl
      obtain ⟨e', f', g', x', hhex', hvalue', -⟩ := exists_hex hm
      rw [hhex'] at htail
      simp only [scalars, List.map_cons, List.map_nil, List.cons_append, List.nil_append,
        List.cons.injEq] at htail
      obtain ⟨rfl, rfl, rfl, rfl, -⟩ := htail
      rw [hvalue']
      simp [hlow]
    · rfl
  · rfl

theorem unicodeEscape_pair {m n : ℕ} (hm : isHighSurrogate m) (hn : isLowSurrogate n)
    (hne : more ≠ []) :
    Reader.unicodeEscape (scalars (hex 4 m) ++ (scalars (escapeUnit n) ++ more)) =
      .ok (Reader.codePoint (joinSurrogates m n), more) := by
  obtain ⟨a, b, c, d, hhex, hvalue, -⟩ := exists_hex (lt_of_isHighSurrogate hm)
  obtain ⟨e, f, g, h, hhex', hvalue', -⟩ := exists_hex (lt_of_isLowSurrogate hn)
  obtain ⟨x, after, rfl⟩ := List.exists_cons_of_ne_nil hne
  rw [escapeUnit, hhex, hhex']
  unfold Reader.unicodeEscape
  simp [scalars, hvalue, hvalue', hm, hn]

theorem stringBody_unit (opening done : List CodePoint) (fuel n : ℕ) (more : List CodePoint) :
    Reader.stringBody opening (fuel + 1) done (scalars (escapeUnit n) ++ more) =
      match Reader.unicodeEscape (scalars (hex 4 n) ++ more) with
      | .error e => .error e
      | .ok (p, rest) => Reader.stringBody opening fuel (p :: done) rest := by
  rfl

theorem stringBody_plain {c : Char} (h32 : 32 ≤ c.toNat) (hquote : c ≠ '"') (hback : c ≠ '\\') :
    Reader.stringBody opening (fuel + 1) done (.scalar c :: more) =
      Reader.stringBody opening fuel (.scalar c :: done) more := by
  conv_lhs => unfold Reader.stringBody
  split
  · next h => cases h
  · next h => exact absurd (CodePoint.scalar.inj (List.cons.inj h).1) hquote
  · next h => exact absurd (CodePoint.scalar.inj (List.cons.inj h).1) hback
  · next h => exact absurd (CodePoint.scalar.inj (List.cons.inj h).1) hback
  · next h => exact absurd (CodePoint.scalar.inj (List.cons.inj h).1) hback
  · next h =>
    obtain ⟨rfl, rfl⟩ := List.cons.inj h
    exact if_neg (not_lt.mpr h32)

theorem stringBody_letter {c l : Char} (hl : Reader.letterEscape? l = some c) :
    Reader.stringBody opening (fuel + 1) done (.scalar '\\' :: .scalar l :: more) =
      Reader.stringBody opening fuel (.scalar c :: done) more := by
  have hu := ne_u_of_letterEscape? hl
  conv_lhs => unfold Reader.stringBody
  split
  · next h => cases h
  · next h => exact absurd (CodePoint.scalar.inj (List.cons.inj h).1) (by decide)
  · next h => cases h
  · next h => exact absurd (CodePoint.scalar.inj (List.cons.inj (List.cons.inj h).2).1) hu
  · next h =>
    obtain ⟨rfl, rfl⟩ := List.cons.inj (List.cons.inj h).2
    rw [CodePoint.char, hl]
  · next hother h =>
    obtain ⟨hp, hr⟩ := List.cons.inj h
    exact (hother _ _ hp.symm hr.symm).elim

/-- One code point is read, unless it is joined with what follows it. -/
theorem stringBody_escape {p : CodePoint} {esc : List Char} (he : Escape p esc) (hne : more ≠ [])
    (h : isHighSurrogate p.toNat → LeavesAlone more) :
    Reader.stringBody opening (fuel + 1) done (scalars esc ++ more) =
      Reader.stringBody opening fuel (p :: done) more := by
  cases he with
  | plain h32 hquote hback => exact stringBody_plain h32 hquote hback
  | letter hl => exact stringBody_letter hl
  | unit hn => rw [stringBody_unit, unicodeEscape_hex hn hne h, codePoint_toNat]
  | pair hhigh hlow hjoin =>
    rw [scalars, List.map_append, List.append_assoc, stringBody_unit,
      unicodeEscape_pair hhigh hlow hne, hjoin]

/-- What follows a code point that is no second half. -/
theorem Escape.leavesAlone {p : CodePoint} {esc : List Char} (he : Escape p esc)
    (hp : isLowSurrogate p.toNat = false) (more : List CodePoint) :
    LeavesAlone (scalars esc ++ more) := by
  have hunit {n : ℕ} (hn : n < 0x10000) (hlow : isLowSurrogate n = false)
      (after : List CodePoint) : LeavesAlone (scalars (escapeUnit n) ++ after) := by
    intro tail ht
    exact ⟨n, after, hn, hlow, ((List.cons.inj (List.cons.inj ht).2).2).symm⟩
  cases he with
  | plain _ _ hback => exact fun tail ht => absurd (List.cons.inj ht).1 (by simpa using hback)
  | letter hl =>
    intro tail ht
    have hu := (List.cons.inj (List.cons.inj ht).2).1
    exact absurd (CodePoint.scalar.inj hu) (ne_u_of_letterEscape? hl)
  | unit hn => exact hunit hn hp more
  | @pair _ high low hhigh _ _ =>
    have hlow : isLowSurrogate high = false := by
      have := (CodePoint.isHighSurrogate_iff high).mp hhigh
      rw [← Bool.not_eq_true, CodePoint.isLowSurrogate_iff]
      omega
    rw [scalars, List.map_append, List.append_assoc]
    exact hunit (lt_of_isHighSurrogate hhigh) hlow _

/-- What follows in the string leaves a code point alone, unless it is the second half of it. -/
theorem leavesAlone_escaped {p : CodePoint} {ps : List CodePoint}
    (h : ∀ q ∈ ps.head?, ¬CodePoint.Pairs p q) (hp : isHighSurrogate p.toNat) :
    LeavesAlone (scalars (ps.flatMap escapePoint) ++ .scalar '"' :: rest) := by
  cases ps with
  | nil => exact fun tail ht => absurd (List.cons.inj ht).1 (by simp)
  | cons q qs =>
    have hq : isLowSurrogate q.toNat = false :=
      Bool.eq_false_iff.mpr fun hq => h q rfl ⟨hp, hq⟩
    rw [List.flatMap_cons, scalars, List.map_append, List.append_assoc]
    exact (escape_escapePoint q).leavesAlone hq _

theorem Escape.length_pos {p : CodePoint} {esc : List Char} (he : Escape p esc) :
    0 < esc.length := by
  cases he <;> simp [escapeUnit]

/-- A string is read up to its end, with its halves of characters joined. -/
theorem stringBody_escaped (ps : List CodePoint)
    (hf : (ps.flatMap escapePoint).length < fuel) :
    Reader.stringBody opening fuel done
        (scalars (ps.flatMap escapePoint) ++ .scalar '"' :: rest) =
      .ok (⟨done.reverse ++ CodePoint.join ps⟩, rest) := by
  have hend {done : List CodePoint} {fuel : ℕ} (hf : 0 < fuel) :
      Reader.stringBody opening fuel done (.scalar '"' :: rest) = .ok (⟨done.reverse⟩, rest) := by
    obtain ⟨fuel, rfl⟩ := Nat.exists_eq_add_one_of_ne_zero hf.ne'
    rfl
  have hstep {fuel : ℕ} (done : List CodePoint) (p : CodePoint) (ps : List CodePoint)
      (h : ∀ q ∈ ps.head?, ¬CodePoint.Pairs p q)
      (hf : ((p :: ps).flatMap escapePoint).length < fuel) :
      ∃ fuel', (ps.flatMap escapePoint).length < fuel' ∧
        Reader.stringBody opening fuel done
            (scalars ((p :: ps).flatMap escapePoint) ++ .scalar '"' :: rest) =
          Reader.stringBody opening fuel' (p :: done)
            (scalars (ps.flatMap escapePoint) ++ .scalar '"' :: rest) := by
    obtain ⟨fuel, rfl⟩ := Nat.exists_eq_add_one_of_ne_zero (Nat.ne_zero_of_lt hf)
    have hpos := (escape_escapePoint p).length_pos
    rw [List.flatMap_cons, List.length_append] at hf
    refine ⟨fuel, by omega, ?_⟩
    rw [List.flatMap_cons, scalars, List.map_append, List.append_assoc]
    exact stringBody_escape (escape_escapePoint p)
      (List.append_ne_nil_of_right_ne_nil _ (List.cons_ne_nil _ _)) (leavesAlone_escaped h)
  fun_induction CodePoint.join ps generalizing fuel done with
  | case1 p q ps hpq ih =>
    obtain ⟨fuel, rfl⟩ := Nat.exists_eq_add_one_of_ne_zero (Nat.ne_zero_of_lt hf)
    have hp := escapePoint_of_surrogate (.inl hpq.1)
    have hq := escapePoint_of_surrogate (.inr hpq.2)
    rw [List.flatMap_cons, List.flatMap_cons, hp, hq] at hf ⊢
    simp only [List.length_append, escapeUnit, List.length_cons] at hf
    rw [scalars, List.map_append, List.map_append, List.append_assoc, List.append_assoc,
      stringBody_unit, unicodeEscape_pair hpq.1 hpq.2
        (List.append_ne_nil_of_right_ne_nil _ (List.cons_ne_nil _ _)), codePoint_join hpq]
    simp only
    rw [ih (by omega), List.reverse_cons, List.append_assoc]
    rfl
  | case2 p q ps hpq ih =>
    obtain ⟨fuel', hf', heq⟩ := hstep done p (q :: ps) (fun r hr => by
      rwa [← Option.some.inj hr]) hf
    rw [heq, ih hf', List.reverse_cons, List.append_assoc]
    rfl
  | case3 ps h =>
    match ps, h, hf with
    | [], _, hf =>
      rw [List.append_nil]
      exact hend (Nat.zero_lt_of_lt hf)
    | [p], _, hf =>
      obtain ⟨fuel', hf', heq⟩ := hstep done p [] nofun hf
      rw [heq]
      exact (hend (Nat.zero_lt_of_lt hf')).trans (by rw [List.reverse_cons])
    | p :: q :: ps, h, _ => exact absurd rfl (h p q ps)

/-- After the first quotation mark a string is read up to the last one. -/
theorem stringBody_writeString (opening rest : List CodePoint) (s : Text) :
    ∃ body, scalars (writeString s).toList ++ rest = .scalar '"' :: body ∧
      Reader.stringBody opening (body.length + 1) [] body = .ok (s.joined, rest) := by
  refine ⟨scalars (s.points.flatMap escapePoint) ++ .scalar '"' :: rest, ?_, ?_⟩
  · rw [toList_writeString]
    simp [scalars]
  · rw [stringBody_escaped s.points (by simp [scalars])]
    rfl

end reading
end Json
end ClusterBilling
