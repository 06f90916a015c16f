import ClusterBilling.Text.Digit
import ClusterBilling.Time.RangeError

/-! Timestamps in UTC with a point and a fraction of a second, such
as `2024-01-01T00:00:00.000Z`. -/
namespace ClusterBilling.Time
open Text

/-- The fields of a timestamp, each between its separators. -/
structure TimestampFields where
  year : List Char
  month : List Char
  day : List Char
  hour : List Char
  minute : List Char
  second : List Char
  fraction : List Char

/-- The text before the first character that `separates`, and the text after that character. -/
def splitAt? (separates : Char → Bool) (cs : List Char) : Option (List Char × List Char) :=
  match cs.dropWhile (!separates ·) with
  | [] => none
  | _ :: rest => some (cs.takeWhile (!separates ·), rest)

/-- The letters of the layout count in both cases. -/
def TimestampFields.split? (cs : List Char) : Option TimestampFields := do
  let (year, cs) ← splitAt? (· = '-') cs
  let (month, cs) ← splitAt? (· = '-') cs
  let (day, cs) ← splitAt? (fun c => c = 'T' || c = 't') cs
  let (hour, cs) ← splitAt? (· = ':') cs
  let (minute, cs) ← splitAt? (· = ':') cs
  let (second, cs) ← splitAt? (· = '.') cs
  let (fraction, cs) ← splitAt? (fun c => c = 'Z' || c = 'z') cs
  if cs.isEmpty then some ⟨year, month, day, hour, minute, second, fraction⟩ else none

/-- A digit of any script. -/
def oneDigit? : List Char → Option Nat
  | [c] => digitValue? c
  | _ => none

/-- Two digits: the first an ASCII one from `low` to `high`, the second of any script. -/
def twoDigits? (low high : Char) : List Char → Option Nat
  | [a, b] =>
    if low ≤ a ∧ a ≤ high then (digitValue? b).map fun d => (a.toNat - 48) * 10 + d else none
  | _ => none

/-- The first character is `lead` and the second an ASCII digit from `low` to `high`. -/
def ledBy? (lead low high : Char) : List Char → Option Nat
  | [a, b] =>
    if a = lead ∧ low ≤ b ∧ b ≤ high then some ((a.toNat - 48) * 10 + (b.toNat - 48)) else none
  | _ => none

/-- One ASCII digit other than zero. -/
def nonzeroDigit? : List Char → Option Nat
  | [c] => if '1' ≤ c ∧ c ≤ '9' then some (c.toNat - 48) else none
  | _ => none

/-- Four digits of any script. -/
def yearField? (cs : List Char) : Option Nat :=
  if cs.length = 4 && cs.all isDigit then some (digitsValue cs) else none

def monthField? (cs : List Char) : Option Nat :=
  ledBy? '1' '0' '2' cs <|> ledBy? '0' '1' '9' cs <|> nonzeroDigit? cs

/-- A day may have a blank in the place of its first digit. -/
def dayField? (cs : List Char) : Option Nat :=
  ledBy? '3' '0' '1' cs <|> twoDigits? '1' '2' cs <|> ledBy? '0' '1' '9' cs <|> nonzeroDigit? cs <|>
    (if cs.head? = some ' ' then nonzeroDigit? cs.tail else none)

def hourField? (cs : List Char) : Option Nat :=
  ledBy? '2' '0' '3' cs <|> twoDigits? '0' '1' cs <|> oneDigit? cs

def minuteField? (cs : List Char) : Option Nat :=
  twoDigits? '0' '5' cs <|> oneDigit? cs

/-- One to six ASCII digits, as microseconds. -/
def fractionField? (cs : List Char) : Option Nat :=
  if !cs.isEmpty && cs.length ≤ 6 && cs.all Char.isDigit then
    some (digitsValue cs * Nat.pow 10 (6 - cs.length))
  else none

/-- The moment that the fields name, if the calendar and the clock have it. -/
def TimestampFields.moment? (f : TimestampFields) : Option Moment := do
  let year ← yearField? f.year
  let month ← monthField? f.month
  let day ← dayField? f.day
  let hour ← hourField? f.hour
  let minute ← minuteField? f.minute
  let second ← minuteField? f.second
  let fraction ← fractionField? f.fraction
  let micros := ((hour * 60 + minute) * 60 + second) * Time.second + fraction
  Moment.ofFields? ⟨year, month, day⟩ micros (some 0)

/-- The moment in UTC that a timestamp names. -/
def Moment.ofTimestamp (text : Text) : Except RangeError Moment :=
  match (TimestampFields.split? text.chars).bind TimestampFields.moment? with
  | some m => .ok m
  | none => .error (.malformedTimestamp text)

end ClusterBilling.Time
