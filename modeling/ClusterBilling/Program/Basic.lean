import ClusterBilling.Json.Writer
import ClusterBilling.Program.LogSettings
import ClusterBilling.Report.Basic
import ClusterBilling.Report.Document

/-! The program: from a command line, an environment and a backend to all that it puts out. -/
namespace ClusterBilling
open Prometheus

/-- The report of a command as JSON. -/
def reportDocument (backend : Backend) (settings : Settings) (metrics : Metrics) (command : Command)
    (window offset : Text) (now : Time.Moment) : Course Json :=
  let request : ReportRequest := ⟨window, offset, settings.clusterId, settings.localStorage, now⟩
  match command with
  | .costs =>
    (reportBills backend settings.discountSource metrics request).map (·.toJson Bill.toJson)
  | .totals => (reportClusterRates backend metrics request).map (·.toJson Rates.toJson)
  | .average => (reportAverage backend metrics request).map Rates.toJson
  | .overTime start finish => (reportOverTime backend metrics start finish request).map Rates.toJson

/-- Why a run breaks off without telling its user what to mend. -/
inductive Crash where
  | fault (fault : Fault)
  /-- A timeout that is not a number. -/
  | timeout (text : Text)
  | log (error : LogError)
  | headers (error : Encoding.EncodeError)

def Crash.message : Crash → Text
  | fault f => f.message
  | timeout text => notANumber text
  | log e => e.message
  | headers e => e.message

/-- How a run ends. -/
inductive Ending where
  /-- With a report, to be printed. -/
  | report (text : String)
  | help
  /-- The command line is not understood. -/
  | misuse (error : UsageError)
  /-- There is no report, and the user is told why. -/
  | failure (text : Text)
  | crash (cause : Crash)

/-- The text that `--help` asks for. -/
def usage : String :=
  "usage: clustercost [options] command --window WINDOW [--offset OFFSET]"

/-- What the end of a run comes to: what is printed, what is told of an error, and a status. -/
structure Output where
  printed : String
  told? : Option Text
  status : UInt32

/-- Only reports and help are printed. -/
def Ending.output : Ending → Output
  | report text => ⟨text, none, 0⟩
  | help => ⟨usage ++ "\n", none, 0⟩
  | misuse e => ⟨"", some ("clustercost: error: " ++ e.message), 2⟩
  | failure text => ⟨"", some text, 1⟩
  | crash c => ⟨"", some c.message, 1⟩

/-- All that a run puts out. -/
structure Run where
  ending : Ending
  requests : List Request := []
  /-- The lines of the log. -/
  log : List Json := []
  /-- The file for metrics and what it has to hold, if there is one. -/
  metricsFile? : Option (Text × Metrics) := none

/-- What a user can do something about is told; all else crashes the run. -/
def Ending.ofFault (f : Fault) : Ending :=
  match f with
  | .query _ | .range _ | .insufficient _ | .batch _ => failure ("clustercost: " ++ f.message)
  | .reading _ | .unsendable _ | .mixedClocks | .foreign .. => crash (.fault f)

/-- A report is written over several lines. -/
def Ending.ofOutcome : Except Fault Json → Ending
  | .ok document => .report (document.indented 0 ++ "\n")
  | .error f => ofFault f

def readyEvent (c : Client) : Event :=
  ⟨.info, .program, "prometheus_transport_ready", [("url", .string c.url)]⟩

/-- What is written to the file for metrics, if one is named. -/
def Invocation.metricsFile? (i : Invocation) (metrics : Metrics) : Option (Text × Metrics) :=
  if i.metricsFile.isEmpty then none else some (i.metricsFile, metrics)

/-- Make the report of an accepted command line. Metrics are written however it ends. -/
def Invocation.run (i : Invocation) (settings : Settings) (log : LogSettings) (network : Network)
    (now : Time.Moment) (platform : Platform := .standard) : Run :=
  match Client.ofUrl settings.url settings.headers platform with
  | .error e => { ending := .crash (.headers e), metricsFile? := i.metricsFile? ∅ }
  | .ok client =>
    let course := reportDocument (client.backend network) settings ∅ i.command i.window i.offset now
    { ending := .ofOutcome course.outcome
      requests := course.queries.flatMap fun q => client.requests q.2
      log := log.lines (readyEvent client :: course.events)
      metricsFile? := i.metricsFile? course.metrics }

/-- The settings of a run: those of the environment, with what the command line says about them. -/
def Invocation.settings (i : Invocation) (env : Environment) : Except Crash Settings :=
  match Settings.ofEnvironment env with
  | .error text => .error (.timeout text)
  | .ok settings => .ok (settings.withInvocation i)

/-- Run a command line. The environment is read once the command line is understood. -/
def run (arguments : List Text) (env : Environment) (network : Network) (now : Time.Moment)
    (platform : Platform := .standard) : Run :=
  match readCommandLine arguments with
  | .error e => { ending := .misuse e }
  | .ok .help => { ending := .help }
  | .ok (.report i) =>
    match i.settings env with
    | .error c => { ending := .crash c }
    | .ok settings =>
      match LogSettings.ofNames settings.logLevel settings.logFormat with
      | .error e => { ending := .crash (.log e) }
      | .ok log => i.run settings log network now platform

end ClusterBilling
