import ClusterBilling.Time.Moment

/-! Moments in the form of ISO 8601. -/
namespace ClusterBilling.Time
open Decimal

/-- `n` with zeros in front, up to `width` digits. -/
def padded (width n : Nat) : String :=
  let ds := digitChars n
  String.ofList (List.replicate (width - ds.length) '0' ++ ds)

/-- Six digits after a point, unless all are zero. -/
def fraction (micros : Nat) : String :=
  if micros = 0 then "" else "." ++ padded 6 micros

/-- Hours and minutes; seconds only where the offset has some. -/
def isoOffset (offset : Int) : String :=
  let n := offset.natAbs
  let seconds := n / second % 60
  let tail :=
    if seconds = 0 ∧ n % second = 0 then ""
    else ":" ++ padded 2 seconds ++ fraction (n % second)
  (if offset < 0 then "-" else "+") ++ padded 2 (n / second / 3600) ++ ":"
    ++ padded 2 (n / second / 60 % 60) ++ tail

def isoTime (sinceMidnight : Nat) : String :=
  let s := sinceMidnight / second
  padded 2 (s / 3600) ++ ":" ++ padded 2 (s / 60 % 60) ++ ":" ++ padded 2 (s % 60)
    ++ fraction (sinceMidnight % second)

def isoDate (d : Date) : String :=
  padded 4 d.year ++ "-" ++ padded 2 d.month ++ "-" ++ padded 2 d.day

namespace Moment

def date (m : Moment) : Date := .ofDays (m.clock / day)

def iso (m : Moment) : String :=
  isoDate m.date ++ "T" ++ isoTime (m.clock % day) ++
    (match m.offset? with
    | some offset => isoOffset offset
    | none => "")

end Moment

/-- A number of exactly `width` ASCII digits in front of the text. -/
def takeNumber? (width : Nat) (cs : List Char) : Option (Nat × List Char) :=
  let ds := cs.take width
  if ds.length = width && ds.all Char.isDigit then some (Text.digitsValue ds, cs.drop width)
  else none

/-- Digits after a point as microseconds; those past the sixth do not count. -/
def takeFraction (cs : List Char) : Nat × List Char :=
  match cs with
  | '.' :: rest =>
    let (ds, rest) := takeDigits rest
    let ds := ds.take 6
    (Text.digitsValue ds * Nat.pow 10 (6 - ds.length), rest)
  | _ => (0, cs)

/-- Hours, and minutes, seconds and a fraction if they follow, as microseconds. -/
def takeTime? (cs : List Char) : Option (Nat × List Char) := do
  let (hours, rest) ← takeNumber? 2 cs
  match rest with
  | ':' :: rest =>
    let (minutes, rest) ← takeNumber? 2 rest
    match rest with
    | ':' :: rest =>
      let (seconds, rest) ← takeNumber? 2 rest
      let (micros, rest) := takeFraction rest
      if minutes < 60 && seconds < 60 then
        return (((hours * 60 + minutes) * 60 + seconds) * second + micros, rest)
      else none
    | rest => if minutes < 60 then return ((hours * 60 + minutes) * 60 * second, rest) else none
  | rest => return (hours * 3600 * second, rest)

/-- What may follow the time: nothing, the letter of UTC, or a signed distance from it. -/
def readOffset? : List Char → Option (Option Int)
  | [] => some none
  | ['Z'] => some (some 0)
  | sign :: cs => do
    let (micros, rest) ← takeTime? cs
    if !rest.isEmpty || day ≤ micros then none
    else if sign = '+' then some (some micros)
    else if sign = '-' then some (some (-(micros : Int)))
    else none

/-- A date, any character, a time, and perhaps a distance from UTC. -/
def Moment.ofIso? (s : String) : Option Moment := do
  let (year, rest) ← takeNumber? 4 s.toList
  let (month, rest) ← takeNumber? 2 (rest.drop 1)
  let (day, rest) ← takeNumber? 2 (rest.drop 1)
  let (micros, rest) ← takeTime? (rest.drop 1)
  let offset? ← readOffset? rest
  Moment.ofFields? ⟨year, month, day⟩ micros offset?

end ClusterBilling.Time
