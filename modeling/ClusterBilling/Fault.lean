import ClusterBilling.Encoding.Charset
import ClusterBilling.Encoding.Unencodable
import ClusterBilling.Json.Reader
import ClusterBilling.Text.Quoted
import ClusterBilling.Time.RangeError

/-! What can go wrong between a command and its report. -/
namespace ClusterBilling

/-- Where a query failed: at the backend or on the way to it, on reading the answer,
or elsewhere. -/
inductive FailureKind where
  | transport
  | parse
  | other
deriving DecidableEq, Repr

/-- The word under which failures of this kind are counted. -/
def FailureKind.word : FailureKind → String
  | transport => "transport"
  | parse => "parse"
  | other => "other"

/-- A query without results. Its text and its name in the batch are empty while they are not
known. -/
structure QueryFault where
  kind : FailureKind
  detail : Text
  query : Text
  name : Text
deriving DecidableEq, Repr

def QueryFault.message (f : QueryFault) : Text :=
  if f.name.isEmpty then f.detail else "query " ++ f.name ++ ": " ++ f.detail

/-- A report for which the answers hold too little. -/
inductive InsufficientData where
  | noTotal (clusterId : Text)
  | noSeries (query : Text)
deriving DecidableEq, Repr

def InsufficientData.message : InsufficientData → Text
  | noTotal clusterId =>
    "no total cost for cluster " ++ Text.quote clusterId ++ " in the selected time range"
  | noSeries query =>
    "query " ++ query ++ ": not enough data available in the selected time range"

/-- What breaks off the reading of an answer. -/
inductive ReadingFailure where
  /-- The samples are of a kind that has no items. -/
  | noItems (kind : String)
  /-- An integer is beyond the finite numbers. -/
  | integerTooLarge
  /-- Values are nested too deeply. -/
  | tooDeep (container : Json.Container)
  /-- The encoding of the text refuses to read it. -/
  | charset (fault : Encoding.CharsetFault)
deriving DecidableEq, Repr

def ReadingFailure.message : ReadingFailure → String
  | noItems kind => s!"'{kind}' object is not iterable"
  | integerTooLarge => "int too large to convert to float"
  | tooDeep container => (Json.ReadError.tooDeep container).message
  | charset fault => fault.message

inductive Fault where
  | query (fault : QueryFault)
  | range (error : Time.RangeError)
  | insufficient (error : InsufficientData)
  /-- The faults of a batch, in the order in which they were reported. -/
  | batch (faults : List Fault)
  | reading (failure : ReadingFailure)
  /-- A query cannot be sent. -/
  | unsendable (error : Encoding.EncodeError)
  /-- Only one end of a window knows its distance from UTC. -/
  | mixedClocks
  /-- A failure of another kind, by its label and its text. -/
  | foreign (label text : Text)

namespace Fault

/-- What stands for a fault that has no text: only a batch without faults, an encoding from bytes
to bytes and a foreign fault can lack one. -/
def label : Fault → Text
  | batch _ => "BatchError"
  | reading (.charset .bytesToBytes) => "AssertionError"
  | foreign label _ => label
  | _ => ""

mutual

/-- The text of a fault; a batch has a line for each of its faults. -/
def message : Fault → Text
  | query f => f.message
  | range e => e.message
  | insufficient e => e.message
  | batch faults => .join "\n" (messages faults)
  | reading failure => failure.message
  | unsendable e => e.message
  | mixedClocks => "can't subtract offset-naive and offset-aware datetimes"
  | foreign _ text => text

def messages : List Fault → List Text
  | [] => []
  | f :: fs => f.message :: messages fs

end

/-- A query fault that a value of another kind becomes when it ends the query `name`. -/
def toQueryFault (name : Text) : Fault → QueryFault
  | query f => { f with name := name }
  | f => ⟨.other, if f.message.isEmpty then f.label else f.message, "", name⟩

theorem toQueryFault_of_ne {f : Fault} (hq : ∀ q, f ≠ .query q) (name : Text) :
    f.toQueryFault name =
      ⟨.other, if f.message.isEmpty then f.label else f.message, "", name⟩ := by
  cases f with
  | query q => exact absurd rfl (hq q)
  | _ => rfl

end Fault

/-- Faults in the order in which they were reported. -/
structure Collector where
  faults : List Fault

namespace Collector

instance : EmptyCollection Collector := ⟨⟨[]⟩⟩

/-- Nothing to report leaves the collector as it is. -/
def report (c : Collector) : Option Fault → Collector
  | none => c
  | some f => ⟨c.faults ++ [f]⟩

def isEmpty (c : Collector) : Bool := c.faults.isEmpty

/-- All the faults as one, if there are any. -/
def combined? (c : Collector) : Option Fault :=
  if c.faults.isEmpty then none else some (.batch c.faults)

end Collector
end ClusterBilling
