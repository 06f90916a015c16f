import ClusterBilling.Arithmetic
import ClusterBilling.Decimal.Numeral
import ClusterBilling.Log
import ClusterBilling.Text.Quoted

/-! Discounts, and which of them apply to which kind of cost. -/
namespace ClusterBilling
open Text

/-- What a cluster is billed for. -/
inductive Category where
  | gpu
  | cpu
  | ram
  | storage
deriving DecidableEq, Repr

namespace Category

/-- The order in which costs are gathered. -/
def all : List Category := [gpu, cpu, ram, storage]

def name : Category → String
  | gpu => "gpu"
  | cpu => "cpu"
  | ram => "ram"
  | storage => "storage"

def ofName? (name : Text) : Option Category :=
  all.find? (·.name = name)

/-- The query that gives the cumulative costs of the category. -/
def query : Category → String
  | gpu => "total_gpu"
  | cpu => "total_cpu"
  | ram => "total_ram"
  | storage => "total_storage"

end Category

/-- Which discounts apply. -/
inductive DiscountPolicy where
  | both
  | negotiatedOnly
  | none
deriving DecidableEq, Repr

/-- The standard discount leaves out graphics processors, and no discount applies to storage. -/
def Category.policy : Category → DiscountPolicy
  | cpu => .both
  | ram => .both
  | gpu => .negotiatedOnly
  | storage => .none

/-- The policy for a category by its name; both discounts apply to one that is not known. -/
def DiscountPolicy.ofName (name : Text) : DiscountPolicy :=
  ((Category.ofName? name).map Category.policy).getD .both

/-- Fractions taken off a price: the standard one and the negotiated one. -/
structure Discounts (α : Type) where
  standard : α
  negotiated : α
deriving DecidableEq, Repr

namespace Discounts

/-- The factor that remains of a price. -/
def remaining {α : Type} [Arithmetic α] (d : Discounts α) : DiscountPolicy → α
  | .both => (Arithmetic.ofNat 1 - d.standard) * (Arithmetic.ofNat 1 - d.negotiated)
  | .negotiatedOnly => Arithmetic.ofNat 1 - d.negotiated
  | .none => Arithmetic.ofNat 1

def multiplier {α : Type} [Arithmetic α] (d : Discounts α) (c : Category) : α :=
  d.remaining c.policy

end Discounts

/-- The text of a percentage without the signs and the blanks around it. -/
def percentDigits (text : Text) : Text :=
  strip ⟨dropEndWhile (· = '%') (strip text).points⟩

/-- A percentage as a fraction, or the text that is not a number. -/
def parsePercent (text : Text) : Except Text Float :=
  match Decimal.readNumber? (percentDigits text).chars with
  | some x => .ok (x / 100)
  | none => .error (percentDigits text)

/-- The message about a text that is not a number. -/
def notANumber (text : Text) : Text :=
  "could not convert string to float: " ++ quote text

/-- Where the two percentages come from. -/
inductive DiscountSource where
  | none
  /-- The source did not answer. -/
  | failing
  | texts (standard negotiated : Text)
deriving DecidableEq, Repr

def malformedEvent (field text : Text) : Event :=
  ⟨.warning, .discounts, "discount_malformed", [("field", .string field), ("value", .string text)]⟩

/-- The fraction of a percentage; a malformed one counts as zero and is logged unless it
is empty. -/
def fractionOrZero (field text : Text) : Float × List Event :=
  match parsePercent text with
  | .ok x => (x, [])
  | .error _ =>
    (0, if text.isEmpty then [] else [malformedEvent field text])

/-- The discounts of a source, none if there is no source or it does not answer. -/
def DiscountSource.resolve : DiscountSource → Discounts Float × List Event
  | none => (⟨0, 0⟩, [])
  | failing => (⟨0, 0⟩, [⟨.warning, .discounts, "discount_lookup_failed", []⟩])
  | texts standard negotiated =>
    let (s, standardEvents) := fractionOrZero "discount" standard
    let (n, negotiatedEvents) := fractionOrZero "negotiated_discount" negotiated
    (⟨s, n⟩, standardEvents ++ negotiatedEvents)

/-- Each discount comes from its own text. -/
theorem DiscountSource.resolve_texts (standard negotiated : Text) :
    (texts standard negotiated).resolve =
      (⟨(fractionOrZero "discount" standard).1,
          (fractionOrZero "negotiated_discount" negotiated).1⟩,
        (fractionOrZero "discount" standard).2 ++
          (fractionOrZero "negotiated_discount" negotiated).2) := by
  rw [resolve]

end ClusterBilling
