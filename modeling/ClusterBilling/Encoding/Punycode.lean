import ClusterBilling.Encoding.Charset

/-!
Punycode: the ASCII characters of a text, and after the last hyphen where the others go. They are
inserted in the order of their code points; each number says how far on the next insertion is.
-/
namespace ClusterBilling.Encoding.Punycode

/-- The digits from 0 to 35: the letters in any case, and then the digits. -/
def digit? (b : UInt8) : Option Nat :=
  if 0x41 ≤ b && b ≤ 0x5a then some (b.toNat - 0x41)
  else if 0x61 ≤ b && b ≤ 0x7a then some (b.toNat - 0x61)
  else if 0x30 ≤ b && b ≤ 0x39 then some (b.toNat - 0x30 + 26)
  else none

/-- The digits below which a number may end at its `j`-th digit. -/
def threshold (j bias : Nat) : Nat := min 26 (max 1 (36 * (j + 1) - bias))

/-- Read a number with its `j`-th digit on. -/
def readNumber? (bias : Nat) : (j weight value : Nat) → List UInt8 → Option (Nat × List UInt8)
  | _, _, _, [] => none
  | j, weight, value, b :: bs => do
    let digit ← digit? b
    let t := threshold j bias
    let value := value + digit * weight
    if digit < t then return (value, bs)
    else readNumber? bias (j + 1) (weight * (36 - t)) value bs

theorem readNumber?_length {bias j weight value n : Nat} {bs rest : List UInt8}
    (h : readNumber? bias j weight value bs = some (n, rest)) : rest.length < bs.length := by
  induction bs generalizing j weight value with
  | nil => simp [readNumber?] at h
  | cons b bs ih =>
    rw [readNumber?] at h
    cases hd : digit? b with
    | none => simp [hd] at h
    | some d =>
      simp only [hd, Option.bind_eq_bind, Option.bind_some] at h
      split at h
      · simp only [Option.pure_def, Option.some.injEq, Prod.mk.injEq] at h
        simp [← h.2]
      · exact Nat.lt_succ_of_lt (ih h)

/-- Divide until at most 455 is left, and count 36 for each division. -/
def shrink (delta : Nat) : Nat × Nat :=
  if 455 < delta then
    let (left, counted) := shrink (delta / 35)
    (left, counted + 36)
  else (delta, 0)
termination_by delta

/-- The bias for the next number, after one that led to so many characters. -/
def adapt (delta : Nat) (isFirst : Bool) (count : Nat) : Nat :=
  let delta := if isFirst then delta / 700 else delta / 2
  let (left, counted) := shrink (delta + delta / count)
  counted + 36 * left / (left + 38)

/-- The character of a digit. -/
def digitChar (digit : Nat) : Char := Char.ofNat (if digit < 26 then 0x61 + digit else 22 + digit)

theorem one_le_threshold (j bias : Nat) : 1 ≤ threshold j bias := by
  simp only [threshold]
  omega

/-- The digits of a number, of which the first is its `j`-th. -/
def writeNumber (bias j value : Nat) : List Char :=
  let t := threshold j bias
  if value < t then [digitChar value]
  else digitChar (t + (value - t) % (36 - t)) :: writeNumber bias (j + 1) ((value - t) / (36 - t))
termination_by value
decreasing_by
  have := one_le_threshold j bias
  exact Nat.lt_of_le_of_lt (Nat.div_le_self _ _) (by omega)

/-- What has been written of a text. -/
structure Written where
  /-- The least code point that may be inserted next. -/
  next : Nat := 0x80
  /-- How far it is from the last insertion to the next one. -/
  delta : Nat := 0
  /-- How many characters there are. -/
  count : Nat
  bias : Nat := 72
  digits : List Char := []
deriving DecidableEq, Repr

/-- Pass a character of the text, which is inserted if it is `point`. -/
def Written.pass (point : Nat) (w : Written) (c : Char) : Written :=
  if c.toNat < point then { w with delta := w.delta + 1 }
  else if c.toNat = point then
    { w with
      delta := 0
      count := w.count + 1
      bias := adapt w.delta w.digits.isEmpty (w.count + 1)
      digits := w.digits ++ writeNumber w.bias 0 w.delta }
  else w

/-- Insert all characters of one code point. -/
def Written.insertPoint (cs : List Char) (w : Written) (point : Nat) : Written :=
  let w := { w with delta := w.delta + (point - w.next) * (w.count + 1) }
  let w := cs.foldl (pass point) w
  { w with next := point + 1, delta := w.delta + 1 }

/-- A text in Punycode. -/
def encode (cs : List Char) : List Char :=
  let (basic, others) := cs.partition (·.toNat < 0x80)
  let points := (others.map Char.toNat).eraseDups.mergeSort
  let w := points.foldl (Written.insertPoint cs) { count := basic.length }
  (if basic.isEmpty then [] else basic ++ ['-']) ++ w.digits

/-- Insert characters as numbers say, and say whether there was no fault. A number that cannot be
read ends the text; a number past all code points counts as a question mark. -/
def insertAll (base : List CodePoint) (point next bias : Nat) (isFirst : Bool) (bs : List UInt8) :
    List CodePoint × Bool :=
  match bs with
  | [] => (base, true)
  | b :: bs =>
    match h : readNumber? bias 0 1 0 (b :: bs) with
    | none => (base, false)
    | some (delta, rest) =>
      have := readNumber?_length h
      let count := base.length + 1
      let place := next + delta
      let point? := CodePoint.ofNat? (point + place / count)
      let p := point?.getD '?'
      let spot := place % count
      let (text, isFine) := insertAll (base.take spot ++ p :: base.drop spot) p.toNat (spot + 1)
        (adapt delta isFirst count) false rest
      (text, isFine && point?.isSome)
termination_by bs.length
decreasing_by exact this

/-- The bytes in front of the last hyphen, and those after it. -/
def splitLast (bs : List UInt8) : List UInt8 × List UInt8 :=
  let more := (bs.reverse.takeWhile (· ≠ 0x2d)).reverse
  (bs.take (bs.length - more.length - 1), more)

def plainPoint (b : UInt8) : CodePoint :=
  if b < 0x80 then Char.ofNat b.toNat else replacement

/-- The text of Punycode with replacements for what is not ASCII in its first part, and whether
there was no fault. What is not ASCII in the second part is not read at all. -/
def decode (bs : List UInt8) : Except DecodeError (List CodePoint × Bool) :=
  let (base, more) := splitLast bs
  match more.dropWhile (· < 0x80) with
  | b :: _ =>
    let start := (more.takeWhile (· < 0x80)).length
    .error ⟨"ascii", start, [b], "ordinal not in range(128)"⟩
  | [] =>
    let (text, isFine) := insertAll (base.map plainPoint) 0x80 0 72 true more
    .ok (text, isFine && base.all (· < 0x80))

end Punycode

def Charset.punycode : Charset where
  lossy bs := match Punycode.decode bs with
    | .ok (text, _) => .ok text
    | .error e => .error (.notAscii e)
  strict? bs := match Punycode.decode bs with
    | .ok (text, true) => some text
    | _ => none

end ClusterBilling.Encoding
