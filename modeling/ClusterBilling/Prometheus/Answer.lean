import ClusterBilling.Decimal.Numeral
import ClusterBilling.Fault
import ClusterBilling.Json.Display
import ClusterBilling.Series

/-! The body of an answer read as series. -/
namespace ClusterBilling.Prometheus

/-- How a body departs from the form of an answer. -/
inductive Malformed where
  | notAnObject (kind : String)
  | failed (error : Text)
  | noData
  | unknownResultType (value : Json)
  | resultNotAList
  | seriesNotAnObject
  | metricNotAnObject
  | malformedSample (value : Json)
  | notNumeric (value : Json)

def Malformed.message : Malformed → Text
  | notAnObject kind => "unexpected response type " ++ kind
  | failed error => "query failed: " ++ error
  | noData => "response is missing the data field"
  | unknownResultType value => "unsupported result type " ++ value.display
  | resultNotAList => "result is not a list"
  | seriesNotAnObject => "series is not an object"
  | metricNotAnObject => "series metric is not an object"
  | malformedSample value => "malformed sample " ++ value.display
  | notNumeric value => "non-numeric sample " ++ value.display

/-- Why a body has no series. -/
inductive AnswerError where
  | malformed (cause : Malformed)
  | broken (failure : ReadingFailure)

/-- A malformed answer is a fault of the query; what else goes wrong is not. -/
def AnswerError.toFault (query : Text) : AnswerError → Fault
  | malformed cause => .query ⟨.parse, cause.message, query, ""⟩
  | broken failure => .reading failure

/-- What a value is as a number: one, none, or one that is too large. -/
inductive Numeric where
  | number (x : Float)
  | notANumber
  | tooLarge

/-- Numbers stand for themselves, the truth values for one and zero, and text for the number that
it reads as. -/
def numeric : Json → Numeric
  | .bool b => .number (if b then 1 else 0)
  | .integer n => match Decimal.nearestInt? n with
    | some x => .number x
    | none => .tooLarge
  | .float x => .number x
  | .string s => match Decimal.readNumber? s.chars with
    | some x => .number x
    | none => .notANumber
  | _ => .notANumber

/-- A list of a time and a value. The time is looked at first. -/
def readSample (raw : Json) : Except AnswerError (Sample Float) :=
  match raw with
  | .array [time, value] =>
    match numeric time with
    | .notANumber => .error (.malformed (.notNumeric raw))
    | .tooLarge => .error (.broken .integerTooLarge)
    | .number t =>
      match numeric value with
      | .notANumber => .error (.malformed (.notNumeric raw))
      | .tooLarge => .error (.broken .integerTooLarge)
      | .number v => .ok ⟨t, v⟩
  | _ => .error (.malformed (.malformedSample raw))

/-- Read each item; the first fault counts. -/
def readAll {α : Type} (read : Json → Except AnswerError α) :
    List Json → Except AnswerError (List α)
  | [] => .ok []
  | v :: vs =>
    match read v with
    | .error e => .error e
    | .ok x => (readAll read vs).map (x :: ·)

/-- The items of a value: those of a list, the characters of a text, the names of the members of
an object. -/
def itemsOf : Json → Except AnswerError (List Json)
  | .array items => .ok items
  | .string s => .ok (s.points.map fun p => .string ⟨[p]⟩)
  | .object members => .ok (members.map fun (k, _) => .string k)
  | v => .error (.broken (.noItems v.kindName))

/-- The forms in which a result lists series. -/
inductive ResultType where
  /-- One sample to a series. -/
  | vector
  /-- Any number of samples to a series. -/
  | matrix
deriving DecidableEq, Repr

/-- The raw samples of a series; a missing or empty member means that there are none. -/
def rawSamples (type : ResultType) (series : Json) : Except AnswerError (List Json) :=
  match type with
  | .vector => .ok (series.member? "value").toList
  | .matrix =>
    match series.member? "values" with
    | none => .ok []
    | some values => if values.isNothing then .ok [] else itemsOf values

/-- The labels of a series: each member of its metric, as text. No integer among them has more than
`Json.maxIntegerDigits` digits if the series was read from text. -/
def readLabels (series : Json) : Except AnswerError (Table Text) :=
  match series.member? "metric" with
  | none => .ok ∅
  | some metric =>
    if metric.isNothing then .ok ∅
    else match metric with
      | .object members => .ok (.ofList (members.map fun (k, v) => (k, v.plainText)))
      | _ => .error (.malformed .metricNotAnObject)

def readSeries (type : ResultType) (series : Json) : Except AnswerError (Series Float) :=
  match series with
  | .object _ =>
    match readLabels series with
    | .error e => .error e
    | .ok labels =>
      match rawSamples type series with
      | .error e => .error e
      | .ok raw => (readAll readSample raw).map fun samples => ⟨labels, samples⟩
  | _ => .error (.malformed .seriesNotAnObject)

/-- The series of a result; null counts as an empty list. -/
def readResult (type : ResultType) (result : Json) : Except AnswerError (List (Series Float)) :=
  match result with
  | .null => .ok []
  | .array series => readAll (readSeries type) series
  | _ => .error (.malformed .resultNotAList)

/-- The text of a member that says that the query failed. -/
def failureText (body : Json) : Text :=
  let error := (body.member? "error").getD .null
  if error.isNothing then "status " ++ ((body.member? "status").getD .null).display
  else error.plainText

/-- The series in the data of an answer. A scalar is one series without labels. -/
def readData (data : Json) : Except AnswerError (List (Series Float)) :=
  let result := (data.member? "result").getD .null
  let type := (data.member? "resultType").getD .null
  if type.isText "scalar" then (readSample result).map fun s => [⟨∅, [s]⟩]
  else if type.isText "vector" then readResult .vector result
  else if type.isText "matrix" then readResult .matrix result
  else .error (.malformed (.unknownResultType type))

/-- The series of an answer. -/
def readAnswer (body : Json) : Except AnswerError (List (Series Float)) :=
  match body with
  | .object _ =>
    if ((body.member? "status").getD .null).isText "success" then
      match body.member? "data" with
      | some data@(.object _) => readData data
      | _ => .error (.malformed .noData)
    else .error (.malformed (.failed (failureText body)))
  | _ => .error (.malformed (.notAnObject body.kindName))

end ClusterBilling.Prometheus
