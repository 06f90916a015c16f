import ClusterBilling.Text.Digit
import ClusterBilling.Text.Quoted

/-! Options on a command line, with or without a value. -/
namespace ClusterBilling
open Text

/-- An option by all its names. -/
structure OptionSpec where
  names : List Text
  /-- Whether a value belongs to the option. -/
  takesValue : Bool := true
  isRequired : Bool := false
  /-- The values that it may have; any value where there are none. -/
  choices : List Text := []
deriving DecidableEq, Repr

/-- The names as messages give them. -/
def OptionSpec.display (o : OptionSpec) : Text := .join "/" o.names

/-- Why a command line is refused. -/
inductive UsageError where
  | ambiguous (option : Text) (candidates : List Text)
  | missingValue (option : OptionSpec)
  | unexpectedValue (option : OptionSpec) (value : Text)
  | invalidChoice (argument value : Text) (choices : List Text)
  | missing (arguments : List Text)
  | unrecognized (arguments : List Text)
deriving DecidableEq, Repr

def UsageError.message : UsageError → Text
  | ambiguous option candidates =>
    "ambiguous option: " ++ option ++ " could match " ++ .join ", " candidates
  | missingValue option => "argument " ++ option.display ++ ": expected one argument"
  | unexpectedValue option value =>
    "argument " ++ option.display ++ ": ignored explicit argument " ++ quote value
  | invalidChoice argument value choices =>
    "argument " ++ argument ++ ": invalid choice: " ++ quote value ++ " (choose from "
      ++ .join ", " (choices.map quote) ++ ")"
  | missing arguments => "the following arguments are required: " ++ .join ", " arguments
  | unrecognized arguments => "unrecognized arguments: " ++ .join " " arguments

/-- An argument by its role. -/
inductive Word where
  | operand (text : Text)
  /-- Two dashes; no option comes after them. -/
  | separator
  /-- An option, with the value that is written in one word with it. -/
  | option (spec : OptionSpec) (value? : Option Text)
  /-- The letter of an option without value, and more letters in one word with it. -/
  | letters (spec : OptionSpec) (rest : Text)
  /-- It looks like an option, but there is none of that name. -/
  | unknown (text : Text)
deriving DecidableEq, Repr

def Word.isOperand : Word → Bool
  | operand _ => true
  | _ => false

/-- A minus sign and digits with at most one point among or before them. -/
def isNegativeNumber (t : Text) : Bool :=
  match t.chars with
  | '-' :: cs =>
    let cs := if cs.getLast? = some '\n' then cs.dropLast else cs
    let whole := cs.takeWhile isDigit
    match cs.dropWhile isDigit with
    | [] => !whole.isEmpty
    | '.' :: places => !places.isEmpty && places.all isDigit
    | _ => false
  | _ => false

/-- The text before the first equals sign, and the text after it if there is one. -/
def splitValue (t : Text) : Text × Option Text :=
  (⟨t.points.takeWhile (· != .scalar '=')⟩,
    match t.points.dropWhile (· != .scalar '=') with
    | [] => none
    | _ :: value => some ⟨value⟩)

/-- Every name with its option. -/
def namedOptions (specs : List OptionSpec) : List (Text × OptionSpec) :=
  specs.flatMap fun o => o.names.map fun name => (name, o)

/-- The options that an argument may abbreviate, by the full name of each. -/
def candidates (specs : List OptionSpec) (argument : Text) : List (Text × Word) :=
  match argument.points with
  | .scalar '-' :: .scalar '-' :: _ =>
    let (start, value?) := splitValue argument
    (namedOptions specs).filterMap fun (name, o) =>
      if start.points.isPrefixOf name.points then some (name, .option o value?) else none
  | letter =>
    (namedOptions specs).filterMap fun (name, o) =>
      if name.points = letter.take 2 then some (name, .letters o ⟨letter.drop 2⟩)
      else if letter.isPrefixOf name.points then some (name, .option o none)
      else none

/-- The role of an argument in front of any separator. -/
def classify (specs : List OptionSpec) (argument : Text) : Except UsageError Word :=
  let named := namedOptions specs
  if argument.points.head? != some (.scalar '-') then .ok (.operand argument)
  else
    match named.lookup argument with
    | some o => .ok (.option o none)
    | none =>
      if argument.length = 1 then .ok (.operand argument)
      else
        let (name, value?) := splitValue argument
        match named.lookup name, value? with
        | some o, some value => .ok (.option o (some value))
        | _, _ =>
          match candidates specs argument with
          | [(_, word)] => .ok word
          | [] =>
            let isOperand :=
              isNegativeNumber argument || argument.points.contains (.scalar ' ')
            .ok (if isOperand then .operand argument else .unknown argument)
          | several => .error (.ambiguous argument (several.map Prod.fst))

/-- The roles of all arguments, each beside its text. -/
def classifyAll (specs : List OptionSpec) : List Text → Except UsageError (List (Text × Word))
  | [] => .ok []
  | a :: as =>
    if a = "--" then .ok ((a, .separator) :: as.map fun text => (text, .operand text))
    else
      match classify specs a with
      | .error e => .error e
      | .ok w => (classifyAll specs as).map ((a, w) :: ·)

/-- What a command line holds. -/
structure Parsed where
  /-- The options in order, each with its value; an option without one has the empty text. -/
  values : List (OptionSpec × Text) := []
  /-- What belongs to no option, up to the operand that ends the options. -/
  extras : List Text := []
  /-- The first operand and all arguments after it. -/
  rest : List Text := []
deriving DecidableEq, Repr

/-- The last value of an option. -/
def Parsed.value? (p : Parsed) (name : Text) : Option Text :=
  (p.values.reverse.find? fun (o, _) => o.names.contains name).map Prod.snd

/-- The value of an option, if it may have it. -/
def checkChoice (o : OptionSpec) (value : Text) : Except UsageError Unit :=
  if o.choices.isEmpty || o.choices.contains value then .ok ()
  else .error (.invalidChoice o.display value o.choices)

/-- Take up an option and its value, and go on. -/
def Parsed.withValue (o : OptionSpec) (value : Text) (rest : Except UsageError Parsed) :
    Except UsageError Parsed :=
  match checkChoice o value with
  | .error e => .error e
  | .ok () => rest.map fun p => { p with values := (o, value) :: p.values }

/--
Read arguments from left to right; the first fault counts, and nothing counts after an option that
takes no value. With `stops` the first operand ends the options, and otherwise operands are left
over.
-/
def readWords (stops : Bool) : List (Text × Word) → Except UsageError Parsed
  | [] => .ok {}
  | (text, .operand _) :: ws =>
    if stops then .ok { rest := text :: ws.map Prod.fst }
    else (readWords stops ws).map fun p => { p with extras := text :: p.extras }
  | (text, .separator) :: ws =>
    if stops && !ws.isEmpty then .ok { rest := text :: ws.map Prod.fst }
    else (readWords stops ws).map fun p => { p with extras := text :: p.extras }
  | (text, .unknown _) :: ws =>
    (readWords stops ws).map fun p => { p with extras := text :: p.extras }
  | (_, .letters o more) :: ws =>
    if o.takesValue then Parsed.withValue o more (readWords stops ws)
    else if more.points.head? = some (.scalar '-') then .error (.unexpectedValue o more)
    else .ok { values := [(o, "")] }
  | (_, .option o (some value)) :: ws =>
    if o.takesValue then Parsed.withValue o value (readWords stops ws)
    else .error (.unexpectedValue o value)
  | (_, .option o none) :: ws =>
    if o.takesValue then
      match ws with
      | (value, .operand _) :: ws => Parsed.withValue o value (readWords stops ws)
      | _ => .error (.missingValue o)
    else .ok { values := [(o, "")] }

/-- The required options that are missing, as an error. -/
def checkRequired (specs : List OptionSpec) (p : Parsed) : Except UsageError Unit :=
  match specs.filter fun o => o.isRequired && !p.values.any (·.1 = o) with
  | [] => .ok ()
  | absent => .error (.missing (absent.map OptionSpec.display))

/-- Read arguments against a list of options. -/
def readOptions (specs : List OptionSpec) (stops : Bool) (arguments : List Text) :
    Except UsageError Parsed :=
  match classifyAll specs arguments with
  | .error e => .error e
  | .ok words => readWords stops words

end ClusterBilling
