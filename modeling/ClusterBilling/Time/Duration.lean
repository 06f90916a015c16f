import ClusterBilling.Decimal.Nearest
import ClusterBilling.Text.Blank
import ClusterBilling.Text.Digit
import ClusterBilling.Time.RangeError

/-! Durations written as rows of numbers with units, such as `1h30m`. -/
namespace ClusterBilling.Time
open Decimal Text

inductive TimeUnit where
  | millisecond
  | second
  | minute
  | hour
  | day
  | week
  | year
deriving DecidableEq, Repr

namespace TimeUnit

def letters : TimeUnit → List Char
  | millisecond => ['m', 's']
  | second => ['s']
  | minute => ['m']
  | hour => ['h']
  | day => ['d']
  | week => ['w']
  | year => ['y']

/-- The length in seconds. That of a millisecond is the binary64 number nearest to 0.001. -/
def seconds : TimeUnit → Rat
  | millisecond => 1152921504606847 / 1152921504606846976
  | second => 1
  | minute => 60
  | hour => 3600
  | day => 86400
  | week => 7 * 86400
  | year => 365 * 86400

/-- The unit that the text begins with; the two letters of the millisecond come before the
minute's one. -/
def take? : List Char → Option (TimeUnit × List Char)
  | 'm' :: 's' :: cs => some (millisecond, cs)
  | 's' :: cs => some (second, cs)
  | 'm' :: cs => some (minute, cs)
  | 'h' :: cs => some (hour, cs)
  | 'd' :: cs => some (day, cs)
  | 'w' :: cs => some (week, cs)
  | 'y' :: cs => some (year, cs)
  | _ => none

end TimeUnit

/-- A number and its unit. -/
structure DurationTerm where
  /-- The digits before the point. -/
  whole : List Char
  /-- The digits after the point; without a point there are none. -/
  places : List Char
  unit : TimeUnit
deriving DecidableEq, Repr

namespace DurationTerm

/-- The term as it is written. -/
def text (t : DurationTerm) : List Char :=
  t.whole ++ (if t.places.isEmpty then [] else '.' :: t.places) ++ t.unit.letters

/-- The exact number before the unit. -/
def number (t : DurationTerm) : Rat :=
  mkRat (digitsValue (t.whole ++ t.places)) (Nat.pow 10 t.places.length)

/-- The term that the text begins with. -/
def take? (cs : List Char) : Option (DurationTerm × List Char) :=
  let whole := cs.takeWhile isDigit
  let rest := cs.dropWhile isDigit
  if whole.isEmpty then none
  else
    let (places, rest) := match rest with
      | '.' :: ds =>
        let places := ds.takeWhile isDigit
        (places, if places.isEmpty then rest else ds.dropWhile isDigit)
      | _ => ([], rest)
    (TimeUnit.take? rest).map fun (unit, rest) => (⟨whole, places, unit⟩, rest)

/-- The first term in the text, wherever it begins, with what stands before and after it. -/
def find? : List Char → Option (List Char × DurationTerm × List Char)
  | [] => none
  | c :: cs =>
    match take? (c :: cs) with
    | some (t, rest) => some ([], t, rest)
    | none => (find? cs).map fun (skipped, t, rest) => (c :: skipped, t, rest)

/-- The terms that make up the whole text: each is searched for after the one before it, and has to
begin where that ended. -/
def readAll? : (fuel : Nat) → List Char → Option (List DurationTerm)
  | _, [] => some []
  | 0, _ => none
  | fuel + 1, cs =>
    match find? cs with
    | some ([], t, rest) => (readAll? fuel rest).map (t :: ·)
    | _ => none

end DurationTerm

/-- Microseconds, fewer than those of a thousand million days. -/
structure Duration where
  micros : Nat
  micros_lt : micros < 1000000000 * Time.day
deriving DecidableEq

namespace Duration

/-- The sum so far and one term more, with each step rounded to a binary64 number. -/
def addTerm (total? : Option Rat) (t : DurationTerm) : Option Rat := do
  let total ← total?
  let number ← nearest t.number
  let seconds ← nearest (number * t.unit.seconds)
  nearest (total + seconds)

/-- The seconds that the terms make, added from left to right; none beyond the finite numbers. -/
def totalSeconds (ts : List DurationTerm) : Option Rat :=
  ts.foldl addTerm (some 0)

/-- Seconds as whole microseconds: those of the fraction are rounded to a binary64 number, then to
the nearest integer. -/
def microsOf (seconds : Rat) : Option Nat :=
  let whole := seconds.floor
  (nearest ((seconds - whole) * Time.second)).map fun micros =>
    (whole * Time.second + nearestInteger micros).toNat

/-- The duration of a number of seconds, unless it is too long. -/
def ofSeconds? (seconds : Rat) : Option Duration := do
  let micros ← microsOf seconds
  if h : micros < 1000000000 * Time.day then some ⟨micros, h⟩ else none

/-- A duration as text, with blanks around it. -/
def parse (text : Text) : Except RangeError Duration :=
  let text := strip text
  if text.isEmpty then .error .emptyDuration
  else
    match DurationTerm.readAll? text.length text.chars with
    | none => .error (.malformedDuration text)
    | some terms =>
      match (totalSeconds terms).bind ofSeconds? with
      | none => .error (.durationTooLong text)
      | some d => .ok d

/-- The length in seconds as a floating-point number. -/
def seconds (d : Duration) : Float :=
  secondsOfMicros d.micros

end Duration
end ClusterBilling.Time
