import ClusterBilling.Decimal.Shortest
import ClusterBilling.Text.Quoted
import ClusterBilling.Time.Iso

/-! Why a duration, a timestamp or a range of time is refused. -/
namespace ClusterBilling.Time
open Text

inductive RangeError where
  | emptyDuration
  | malformedDuration (text : Text)
  | durationTooLong (text : Text)
  | emptyWindow (window : Text)
  | beforeCalendar (window offset : Text)
  | malformedTimestamp (text : Text)
  | emptyRange (start finish step : Text)
  | noDataHours (start finish : Moment) (hours : Float)

def RangeError.message : RangeError → Text
  | emptyDuration => "empty duration"
  | malformedDuration text => "invalid duration " ++ quote text
  | durationTooLong text => "duration " ++ quote text ++ " out of range"
  | emptyWindow window => "illegal time range: window " ++ quote window
  | beforeCalendar window offset =>
    "time range out of bounds: window " ++ quote window ++ ", offset " ++ quote offset
  | malformedTimestamp text => "invalid timestamp " ++ quote text
  | emptyRange start finish step =>
    "illegal time range: " ++ start ++ " to " ++ finish ++ " every " ++ step
  | noDataHours start finish hours =>
    s!"illegal time range: {start.iso} to {finish.iso} ({Decimal.shortest hours} data hours)"

end ClusterBilling.Time
