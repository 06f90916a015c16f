import ClusterBilling.Cost.Discount

/-! What the environment sets. -/
namespace ClusterBilling

/-- The values of the variables of an environment. -/
abbrev Environment := String → Option Text

/-- The variables that are read. -/
def environmentVariables : List String :=
  ["PROMETHEUS_URL", "PROMETHEUS_TIMEOUT", "PROMETHEUS_BEARER_TOKEN", "CLUSTER_ID", "DISCOUNT",
    "NEGOTIATED_DISCOUNT", "LOCAL_STORAGE_QUERY"]

structure Settings where
  url : Text := "http://localhost:9090"
  /-- How long a request may take, in seconds. -/
  timeout : Float := 30
  logLevel : Text := "info"
  logFormat : Text := "console"
  /-- Sent with every request unless it is empty. -/
  bearerToken : Text := ""
  clusterId : Text := ""
  discount : Text := ""
  negotiatedDiscount : Text := ""
  localStorage : Text := ""

namespace Settings

/-- The settings of an environment, or the timeout that is not a number. -/
def ofEnvironment (env : Environment) : Except Text Settings :=
  let defaults : Settings := {}
  let text := fun name => (env name).getD ""
  let settings : Settings := {
    url := (env "PROMETHEUS_URL").getD defaults.url
    bearerToken := text "PROMETHEUS_BEARER_TOKEN"
    clusterId := text "CLUSTER_ID"
    discount := text "DISCOUNT"
    negotiatedDiscount := text "NEGOTIATED_DISCOUNT"
    localStorage := text "LOCAL_STORAGE_QUERY" }
  match env "PROMETHEUS_TIMEOUT" with
  | none => .ok settings
  | some timeout =>
    match Decimal.readNumber? timeout.chars with
    | none => .error timeout
    | some seconds => .ok { settings with timeout := seconds }

/-- The headers of every request. -/
def headers (s : Settings) : List (Text × Text) :=
  if s.bearerToken.isEmpty then [] else [("Authorization", "Bearer " ++ s.bearerToken)]

def discountSource (s : Settings) : DiscountSource :=
  .texts s.discount s.negotiatedDiscount

end Settings
end ClusterBilling
