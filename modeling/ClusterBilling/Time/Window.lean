import ClusterBilling.Time.Duration

/-! Windows of time that end some while before a moment. -/
namespace ClusterBilling.Time
open Text

structure Window where
  start : Moment
  finish : Moment
deriving DecidableEq

/-- How far a window ends before now: nothing when the text is blank. -/
def offsetMicros (offset : Text) : Except RangeError Nat :=
  if isAllBlank offset then .ok 0
  else (Duration.parse offset).map (·.micros)

/-- The window of a duration that is not zero, ending `offset` before `now`. -/
def Window.resolve (window offset : Text) (now : Moment) : Except RangeError Window :=
  match Duration.parse window with
  | .error e => .error e
  | .ok length =>
    if length.micros = 0 then .error (.emptyWindow window)
    else
      match offsetMicros offset with
      | .error e => .error e
      | .ok before =>
        match (now.back? before).bind fun finish =>
          (finish.back? length.micros).map fun start => (⟨start, finish⟩ : Window) with
        | some w => .ok w
        | none => .error (.beforeCalendar window offset)

end ClusterBilling.Time
