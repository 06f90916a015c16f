import ClusterBilling.Log
import ClusterBilling.Program.CommandLine
import ClusterBilling.Table

/-! Which events are written, and how. -/
namespace ClusterBilling

/-- How events are written, and the least rank of those that are. -/
structure LogSettings where
  threshold : Nat
  isJson : Bool
deriving DecidableEq, Repr

/-- Why a log cannot be set up. -/
inductive LogError where
  | unknownFormat (format : Text)
  | unknownLevel (level : Text)
  /-- The name belongs to something else than a level. -/
  | notALevel
deriving DecidableEq, Repr

/-- What the name `_STYLES` belongs to. -/
def styles : String :=
  "\x7b'%': (<class 'logging.PercentStyle'>, '%(levelname)s:%(name)s:%(message)s'), "
    ++ "'\x7b': (<class 'logging.StrFormatStyle'>, "
    ++ "'\x7blevelname\x7d:\x7bname\x7d:\x7bmessage\x7d'), "
    ++ "'$': (<class 'logging.StringTemplateStyle'>, "
    ++ "'$\x7blevelname\x7d:$\x7bname\x7d:$\x7bmessage\x7d')\x7d"

def LogError.message : LogError → Text
  | unknownFormat format => "unknown log format " ++ Text.quote format
  | unknownLevel level => "Unknown level: " ++ Text.quote level
  | notALevel => "Level not an integer or a valid string: " ++ styles

/-- A letter in upper case, as far as level names need it: a few more letters than the ASCII ones
have ASCII capitals. -/
def capitals (c : Char) : List Char :=
  if c = 'ı' then ['I']
  else if c = 'ſ' then ['S']
  else if c = '\ufb05' || c = '\ufb06' then ['S', 'T']
  else [c.toUpper]

/-- The ranks by the names of levels. -/
def levelRanks : List (String × Nat) :=
  [("NOTSET", 0), ("DEBUG", 10), ("INFO", 20), ("WARNING", 30), ("WARN", 30), ("ERROR", 40),
    ("CRITICAL", 50), ("FATAL", 50)]

namespace LogSettings

/-- A level by its name in any case; a name that is not known stands for `info`. -/
def ofNames (level format : Text) : Except LogError LogSettings :=
  if !logFormats.contains format then .error (.unknownFormat format)
  else
    let name := String.ofList (level.chars.flatMap capitals)
    if name = "BASIC_FORMAT" then .error (.unknownLevel "%(levelname)s:%(name)s:%(message)s")
    else if name = "_STYLES" then .error .notALevel
    else .ok ⟨(levelRanks.lookup name).getD Level.info.rank, format = "json"⟩

/-- An event as a line of the log, without its time. -/
def line (e : Event) : Json :=
  .object ((Table.ofList (("event", .string e.name) :: e.fields)).insert "level"
    (.string e.level.name) |>.insert "logger" (.string e.origin.loggerName)).entries

/-- The lines that are written for events, if they are written as JSON. -/
def lines (s : LogSettings) (events : List Event) : List Json :=
  if s.isJson then (events.filter fun e => s.threshold ≤ e.level.rank).map line else []

end LogSettings
end ClusterBilling
