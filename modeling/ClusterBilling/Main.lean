import ClusterBilling.Program.Basic
import Std.Time.DateTime.Timestamp

/-!
The command line program. It leaves the transfer to others: each request is announced on standard
error, and its reply is a line of standard input that holds the status, a blank and the body.
-/
namespace ClusterBilling
open Prometheus

/-- A reply on a line: a status, a blank and a body. Any other text is why there is no reply. -/
def readReply (line : String) : Exchange :=
  let cs := line.toList
  let body := String.ofList ((cs.dropWhile (· != ' ')).drop 1)
  match (String.ofList (cs.takeWhile (· != ' '))).toNat? with
  | some status => .reply ⟨status, [], body.toUTF8.toList⟩
  | none => .lost line

/-- A request on a line: its address and its parameters. -/
def Prometheus.Request.line (r : Request) : String :=
  let parameters := r.parameters.map fun (k, v) => Json.array [.string k, .string v]
  (Json.array (.string r.url :: parameters)).compact

/-- Announce requests, and read a line for each. -/
def transfer (requests : List Request) : IO (List (Request × Delivery)) := do
  let stdin ← IO.getStdin
  requests.mapM fun r => do
    let before ← IO.monoNanosNow
    IO.eprintln r.line
    let line ← stdin.getLine
    let after ← IO.monoNanosNow
    let exchange := readReply (String.ofList (Text.dropEndWhile (· = '\n') line.toList))
    return (r, { exchange, elapsed := .ofNat (after - before) / 1e9 })

/-- The variables of the environment that the program reads. -/
def readEnvironment : IO Environment := do
  let values ← environmentVariables.mapM fun name =>
    return (name, (← IO.getEnv name).map Text.ofString)
  return fun name => (values.lookup name).join

def currentMoment : IO Time.Moment := do
  let now ← Std.Time.Timestamp.now
  let micros := (now.toNanosecondsSinceUnixEpoch.val / 1000).toNat
  return (Time.Moment.ofUnixMicros? micros).getD .epoch

/-- Put out what a run has to say, and return its exit status. -/
def Run.finish (r : Run) : IO UInt32 := do
  r.log.forM fun line => IO.eprintln line.compact
  if let some (file, metrics) := r.metricsFile? then
    IO.FS.writeFile file.toString (Text.join "\n" metrics.lines ++ "\n").toString
  let output := r.ending.output
  IO.print output.printed
  if let some text := output.told? then
    IO.eprintln text.toString
  return output.status

end ClusterBilling

open ClusterBilling in
/-- Find out what has to be requested, have it transferred, and run with the replies. -/
def main (arguments : List String) : IO UInt32 := do
  let env ← readEnvironment
  let now ← currentMoment
  let unknown : Prometheus.Delivery := { exchange := .lost "no reply" }
  let arguments := arguments.map Text.ofString
  let planned := run arguments env (fun _ => unknown) now
  let deliveries ← transfer planned.requests
  (run arguments env (fun r => (deliveries.lookup r).getD unknown) now).finish
