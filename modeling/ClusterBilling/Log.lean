import ClusterBilling.Json.Basic

/-! What the program tells about its run. -/
namespace ClusterBilling

inductive Level where
  | debug
  | info
  | warning
  | error
  | critical
deriving DecidableEq, Repr

namespace Level

def name : Level → String
  | debug => "debug"
  | info => "info"
  | warning => "warning"
  | error => "error"
  | critical => "critical"

def rank : Level → Nat
  | debug => 10
  | info => 20
  | warning => 30
  | error => 40
  | critical => 50

end Level

/-- The part of the program that an event comes from. -/
inductive Origin where
  | program
  | reports
  | bills
  | discounts
  | batches
  | answers
  | backend
  /-- Any other source, by its name. -/
  | named (name : Text)
deriving DecidableEq, Repr

/-- The name of the logger. -/
def Origin.loggerName : Origin → Text
  | program => "clustercost.__main__"
  | reports => "clustercost.costs"
  | bills => "clustercost.aggregator"
  | discounts => "clustercost.discount"
  | batches => "clustercost.orchestrator"
  | answers => "clustercost.executor"
  | backend => "clustercost.transport.prometheus"
  | named name => name

structure Event where
  level : Level
  origin : Origin
  name : Text
  fields : List (Text × Json)

end ClusterBilling
