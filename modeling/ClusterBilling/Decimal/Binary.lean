/-! Floating-point numbers as exact integers, and exact quotients rounded to integers. -/
namespace ClusterBilling.Decimal

/-- The finite number `± mantissa * 2 ^ exponent`. -/
structure Binary where
  negative : Bool
  mantissa : Nat
  exponent : Int
deriving DecidableEq, Repr

namespace Binary

/-- The magnitude as a quotient of naturals. -/
def fraction (b : Binary) : Nat × Nat :=
  (b.mantissa <<< b.exponent.toNat, 1 <<< (-b.exponent).toNat)

theorem fraction_snd_pos (b : Binary) : 0 < b.fraction.2 := by
  rw [fraction, Nat.one_shiftLeft]
  exact Nat.two_pow_pos _

end Binary

/-- What the bits of a floating-point number say. -/
inductive Reading where
  | nan
  | infinite (negative : Bool)
  | finite (value : Binary)
deriving DecidableEq, Repr

/-- The leading bit of a mantissa, which the format leaves out where it is set. -/
def hiddenBit : Nat := 1 <<< 52

/-- Sign, exponent and mantissa of the binary64 format; the subnormal numbers share the least
exponent. -/
def Reading.ofBits (bits : Nat) : Reading :=
  let negative := bits.testBit 63
  let exponent : Nat := bits / hiddenBit % 2048
  let field : Nat := bits % hiddenBit
  if exponent = 2047 then (if field = 0 then .infinite negative else .nan)
  else if exponent = 0 then .finite ⟨negative, field, -1074⟩
  else .finite ⟨negative, field + hiddenBit, (exponent : Int) - 1075⟩

def Reading.ofFloat (x : Float) : Reading :=
  .ofBits x.toBits.toNat

/-- The integer nearest to `num / den`; a tie goes to the even one. -/
def roundDiv (num den : Nat) : Nat :=
  let q := num / den
  let r := num % den
  if 2 * r < den then q
  else if den < 2 * r then q + 1
  else q + q % 2

theorem roundDiv_of_dvd {num den : Nat} (hden : 0 < den) (h : den ∣ num) :
    roundDiv num den = num / den := by
  obtain ⟨k, rfl⟩ := h
  simp [roundDiv, Nat.mul_mod_right, hden]

@[simp] theorem roundDiv_one (n : Nat) : roundDiv n 1 = n := by
  simp [roundDiv_of_dvd]

/-- The rounded quotient is within half a unit of the exact one. -/
theorem roundDiv_near {num den : Nat} (hden : 0 < den) :
    2 * num ≤ (2 * roundDiv num den + 1) * den ∧ 2 * roundDiv num den * den ≤ 2 * num + den := by
  have hdiv := Nat.div_add_mod num den
  have hmod := Nat.mod_lt num hden
  simp only [roundDiv]
  generalize num / den = q at *
  generalize num % den = r at *
  have hq2 : q % 2 = 0 ∨ q % 2 = 1 := by omega
  subst hdiv
  split
  · constructor <;> grind
  · split
    · constructor <;> grind
    · rcases hq2 with h | h <;> rw [h] <;> constructor <;> grind

/-- The decimal digits of `n`. -/
def digitChars (n : Nat) : List Char :=
  Nat.toDigits 10 n

/--
The exponent of the leading decimal digit of `num / den`: the quotient is at least ten to this
power and less than ten times as much. The difference of the two lengths is this power or one more.
-/
def leadingPower (num den : Nat) : Int :=
  let e : Int := (digitChars num).length - (digitChars den).length
  if den * Nat.pow 10 e.toNat ≤ num * Nat.pow 10 (-e).toNat then e else e - 1

end ClusterBilling.Decimal
