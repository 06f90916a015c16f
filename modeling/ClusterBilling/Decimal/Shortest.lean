import ClusterBilling.Decimal.Layout

/-! The shortest decimal that reads back as the same floating-point number. -/
namespace ClusterBilling.Decimal

/-- The distances to the ends of the reals that round to a number, in quarters of its last binary
place. -/
def Binary.halfGaps (b : Binary) : Nat × Nat :=
  (if b.mantissa = hiddenBit ∧ b.exponent ≠ -1074 then 1 else 2, 2)

/-- Whether `digits * 10 ^ power` rounds to the magnitude of `b`: an end of the interval does so
if the mantissa is even. -/
def Binary.readsBack (b : Binary) (digits : Nat) (power : Int) : Bool :=
  let (below, above) := b.halfGaps
  let binary := b.exponent - 2
  let scale := Nat.pow 10 (-power).toNat <<< binary.toNat
  let x := (digits * Nat.pow 10 power.toNat) <<< (-binary).toNat
  let lo := (4 * b.mantissa - below) * scale
  let hi := (4 * b.mantissa + above) * scale
  if b.mantissa % 2 = 0 then lo ≤ x && x ≤ hi else lo < x && x < hi

/--
The decimal with `places` digits that reads back, if there is one. Only the two neighbours of the
value on the grid can; of both the nearer is taken, and the even one of two equally near.
-/
def Binary.nearestOn (b : Binary) (lead : Int) (places : Nat) : Option Scaled :=
  let power := lead + 1 - places
  let (num, den) := b.fraction
  let num := num * Nat.pow 10 (-power).toNat
  let den := den * Nat.pow 10 power.toNat
  let low := num / den
  let near := roundDiv num den
  let far := if near = low then low + 1 else low
  if b.readsBack near power then some ⟨b.negative, near, power⟩
  else if b.readsBack far power then some ⟨b.negative, far, power⟩
  else none

/-- Seventeen digits always suffice. -/
def Binary.shortest (b : Binary) : Scaled :=
  if b.mantissa = 0 then ⟨b.negative, 0, 0⟩
  else
    let lead := leadingPower b.fraction.1 b.fraction.2
    match (List.range 17).findSome? fun i => b.nearestOn lead (i + 1) with
    | some s => s.trim 17
    | none => ⟨b.negative, b.fraction.1, 0⟩

/-- Positional from `1e-4` to below `1e16`, with at least one digit after the point. -/
def plainLayout : Layout := ⟨-4, 15, ".0"⟩

/-- The text of a number: the shortest that reads back. -/
def shortest (x : Float) : String :=
  (Reading.ofFloat x).render fun b => plainLayout.render b.shortest

end ClusterBilling.Decimal
