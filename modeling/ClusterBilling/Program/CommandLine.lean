import ClusterBilling.Program.Options
import ClusterBilling.Program.Settings

/-! The command line: options, a command, and the options of the command. -/
namespace ClusterBilling

/-- The report that is wanted. -/
inductive Command where
  | costs
  | totals
  | average
  | overTime (start finish : Text)
deriving DecidableEq, Repr

def Command.name : Command → Text
  | costs => "costs"
  | totals => "totals"
  | average => "average"
  | overTime .. => "over-time"

def commandNames : List Text := ["costs", "totals", "average", "over-time"]

/-- The command of that name; only the last has a start and an end. -/
def Command.ofName? (name start finish : Text) : Option Command :=
  [costs, totals, average, overTime start finish].find? (·.name = name)

/-- An accepted command line. -/
structure Invocation where
  url? : Option Text
  logLevel : Text
  logFormat : Text
  /-- The file that metrics are written to; none when empty. -/
  metricsFile : Text
  command : Command
  window : Text
  offset : Text
deriving DecidableEq, Repr

/-- What a command line asks for. -/
inductive Wish where
  | report (invocation : Invocation)
  | help
deriving DecidableEq, Repr

def helpOption : OptionSpec := { names := ["-h", "--help"], takesValue := false }

/-- The formats of the log. -/
def logFormats : List Text := ["console", "json"]

/-- The options in front of the command. -/
def programOptions : List OptionSpec :=
  [helpOption,
    { names := ["--prometheus.url"] },
    { names := ["--log.level"], choices := ["debug", "info", "warning", "error"] },
    { names := ["--log.format"], choices := logFormats },
    { names := ["--metrics.textfile"] }]

/-- The options of a command. -/
def commandOptions (command : Text) : List OptionSpec :=
  let range : List OptionSpec :=
    if command = "over-time" then
      [{ names := ["--start"], isRequired := true }, { names := ["--end"], isRequired := true }]
    else []
  helpOption :: range ++ [{ names := ["--window"], isRequired := true }, { names := ["--offset"] }]

/-- What options say, with the defaults for those that are not given. -/
def Invocation.ofOptions (program options : Parsed) (command : Command) : Invocation where
  url? := program.value? "--prometheus.url"
  logLevel := (program.value? "--log.level").getD "info"
  logFormat := (program.value? "--log.format").getD "console"
  metricsFile := (program.value? "--metrics.textfile").getD ""
  command := command
  window := (options.value? "--window").getD ""
  offset := (options.value? "--offset").getD ""

/-- Read a command and its options. -/
def readCommand (program : Parsed) (name : Text) (arguments : List Text) :
    Except UsageError Wish :=
  match readOptions (commandOptions name) false arguments with
  | .error e => .error e
  | .ok options =>
    if (options.value? "--help").isSome then .ok .help
    else
      match checkRequired (commandOptions name) options with
      | .error e => .error e
      | .ok () =>
        let start := (options.value? "--start").getD ""
        let finish := (options.value? "--end").getD ""
        match Command.ofName? name start finish, program.extras ++ options.extras with
        | none, _ => .error (.invalidChoice "command" name commandNames)
        | some command, [] => .ok (.report (.ofOptions program options command))
        | some _, extras => .error (.unrecognized extras)

/-- Read a command line. -/
def readCommandLine (arguments : List Text) : Except UsageError Wish :=
  match readOptions programOptions true arguments with
  | .error e => .error e
  | .ok program =>
    if (program.value? "--help").isSome then .ok .help
    else
      match program.rest with
      | [] => .error (.missing ["command"])
      | name :: arguments =>
        if commandNames.contains name then readCommand program name arguments
        else .error (.invalidChoice "command" name commandNames)

/-- Settings with what the command line says about them. -/
def Settings.withInvocation (s : Settings) (i : Invocation) : Settings :=
  { s with
    url := match i.url? with
      | some url => if url.isEmpty then s.url else url
      | none => s.url
    logLevel := i.logLevel
    logFormat := i.logFormat }

end ClusterBilling
