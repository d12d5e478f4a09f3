import SinkPipeline.Json.Reader
import SinkPipeline.Log.Level
import SinkPipeline.Number.Reading
import SinkPipeline.Orchestrator
import SinkPipeline.Output.Record
import SinkPipeline.Process.Machine
import SinkPipeline.Settings.DotEnv
import SinkPipeline.Text.Flaw

/-! # Settings

  A setting has its value from the first place that gives one: the caller, the
  environment, the environment file in the working directory, the default.  In
  an environment a setting is the variable of its name behind `CAPEXEC_`, in any
  case of letters.

  Values are checked together: a fault names every setting whose value cannot be
  used, and in what way.
-/

namespace SinkPipeline

/-- How log records are written. -/
inductive LogFormat where
  /-- For reading. -/
  | console
  /-- One JSON object per line. -/
  | json
  deriving DecidableEq, Repr, Inhabited

/-- The word for a format. -/
def LogFormat.word : LogFormat → String
  | .console => "console"
  | .json => "json"

/-- Every format. -/
def LogFormat.all : List LogFormat := [.console, .json]

/-- What can be set. -/
structure Settings where
  /-- The log level. -/
  logLevel : LogLevel := .info
  /-- How log records are written. -/
  logFormat : LogFormat := .console
  /-- Where stages are looked for besides the sinks' directories. -/
  searchDirs : List Path := []
  /-- What a fault does to a run. -/
  onError : Policy := .abort
  /-- Do processes inherit the environment? -/
  inheritEnv : Bool := true
  /-- How many seconds pass between two looks at the sinks. -/
  watchInterval : Float := 1.0
  deriving Inhabited

namespace Settings

/-! ### Names -/

/-- The names of the settings in alphabetical order. -/
def names : List String :=
  ["inherit_env", "log_format", "log_level", "on_error", "stage_search_dirs",
    "watch_interval_seconds"]

/-- What stands before a setting's name in an environment. -/
def variableStem : String := "capexec_"

/-- The setting whose value an environment holds as JSON. -/
def searchDirsName : String := "stage_search_dirs"

/-- The settings as named values. -/
def fields (s : Settings) : Fields :=
  [("inherit_env", .bool s.inheritEnv), ("log_format", .str s.logFormat.word),
    ("log_level", .str s.logLevel.word), ("on_error", .str s.onError.word),
    (searchDirsName, Json.strings (s.searchDirs.map (·.toString))),
    ("watch_interval_seconds", .float s.watchInterval)]

/-! ### Checking values -/

/-- A checked value, or what is wrong: where inside the value, and in what way. -/
abbrev Checked (α : Type) : Type := Except (List (List String × String)) α

/-- A value that is wrong in one way as a whole. -/
def wrong {α : Type} (way : String) : Checked α := .error [([], way)]

/-- One of some words, exactly. -/
def checkWord {α : Type} (all : List α) (word : α → String) (v : Json) : Checked α :=
  match all.find? fun a => v.str? == some (word a) with
  | some a => .ok a
  | none => wrong "literal_error"

/-- A level, in any case. -/
def checkLevel (v : Json) : Checked LogLevel :=
  match v with
  | .str s => (LogLevel.ofText? s).elim (wrong "value_error") .ok
  | _ => wrong "string_type"

/-- The words for true. -/
def trueWords : List String := ["1", "on", "t", "true", "y", "yes"]

/-- The words for false. -/
def falseWords : List String := ["0", "off", "f", "false", "n", "no"]

/-- Is the number a whole one of 64 bits? -/
def isWhole (x : Float) : Bool := x.abs < 9223372036854775808.0 && x.floor == x

/-- A truth value, also as a word in any case of ASCII letters, or as the number
    zero or one.  A number that is not whole, or too great, is of a wrong kind. -/
def checkFlag (v : Json) : Checked Bool :=
  match v with
  | .bool b => .ok b
  | .str s =>
    let w := String.ofList (s.toList.map Number.smallLetter)
    if w ∈ trueWords then .ok true
    else if w ∈ falseWords then .ok false
    else wrong "bool_parsing"
  | .int 0 => .ok false
  | .int 1 => .ok true
  | .int n => wrong (if n.natAbs < 9223372036854775808 then "bool_parsing" else "bool_type")
  | .float x =>
    if !isWhole x then wrong "bool_type"
    else if x == 0.0 then .ok false
    else if x == 1.0 then .ok true
    else wrong "bool_parsing"
  | _ => wrong "bool_type"

/-- A number above zero, also as text, or as the truth value that stands for it. -/
def checkInterval (v : Json) : Checked Float :=
  let positive (x : Float) : Checked Float := if x > 0.0 then .ok x else wrong "greater_than"
  match v with
  | .float x => positive x
  | .int n => positive (Number.ofInt n)
  | .bool b => positive (if b then 1.0 else 0.0)
  | .str s => (Number.readNumber s).elim (wrong "float_parsing") positive
  | _ => wrong "float_type"

/-- The items of a list that are no paths, in the order of their numbers' texts. -/
def badPaths (items : List Json) : List (List String × String) :=
  let numbers := (items.zipIdx.filter fun p => p.1.str?.isNone).map fun p => toString p.2
  (numbers.mergeSort (· ≤ ·)).map fun n => ([n], "path_type")

/-- A list of paths. -/
def checkPaths (v : Json) : Checked (List Path) :=
  match v with
  | .arr items =>
    match badPaths items with
    | [] => .ok (items.filterMap fun i => i.str?.map Path.ofString)
    | bad => .error bad
  | _ => wrong "list_type"

/-- What is wrong with a value, under its name. -/
def flaws {α : Type} (name : String) : Checked α → List (List String × String)
  | .ok _ => []
  | .error es => es.map fun e => (name :: e.1, e.2)

/-- Check the value of a name, the default standing for an absent one. -/
def checkField {α : Type} (given : Fields) (name : String) (default : α) (check : Json → Checked α) :
    Checked α :=
  match given.get? name with
  | none => .ok default
  | some v => check v

/-- The settings that named values spell. -/
def ofFields (given : Fields) : Except Fault Settings :=
  let d : Settings := {}
  let inherit := checkField given "inherit_env" d.inheritEnv checkFlag
  let format := checkField given "log_format" d.logFormat (checkWord LogFormat.all LogFormat.word)
  let level := checkField given "log_level" d.logLevel checkLevel
  let policy := checkField given "on_error" d.onError (checkWord Policy.all Policy.word)
  let dirs := checkField given searchDirsName d.searchDirs checkPaths
  let interval := checkField given "watch_interval_seconds" d.watchInterval checkInterval
  match inherit, format, level, policy, dirs, interval with
  | .ok inherit, .ok format, .ok level, .ok policy, .ok dirs, .ok interval =>
    .ok ⟨level, format, dirs, policy, inherit, interval⟩
  | _, _, _, _, _, _ =>
    .error (.invalid (flaws "inherit_env" inherit ++ flaws "log_format" format ++
      flaws "log_level" level ++ flaws "on_error" policy ++ flaws searchDirsName dirs ++
      flaws "watch_interval_seconds" interval))

/-! ### Where values come from -/

/-- The value of a setting among variables.  Of variables that differ only in the
    case of letters the last counts, even if it is bound to nothing. -/
def valueIn? (vars : DotEnv.Bound) (name : String) : Option String :=
  (vars.reverse.find? fun p => Text.lower p.1 == variableStem ++ name).bind (·.2)

/-- The value that the text of a variable spells. -/
def ofVariable (name text : String) : Except Fault Json :=
  if name = searchDirsName then
    match Json.read text with
    | .ok v => .ok v
    | .error (.tooDeep isArray) =>
      .error ((Record.readFault? (.tooDeep isArray)).getD (.plain .settings ""))
    | .error _ => .error (.plain .settings "the value of a setting is not JSON")
  else .ok (.str text)

/-- The values that variables give.  A variable whose text spells `null` gives
    none. -/
def ofVariables (vars : DotEnv.Bound) : Except Fault Fields := do
  let spelled := names.filterMap fun n => (valueIn? vars n).map fun text => (n, text)
  let values ← spelled.mapM fun p => do return (p.1, ← ofVariable p.1 p.2)
  return values.filterMap fun p => p.2.nonNull?.map fun v => (p.1, v)

/-- The name of the environment file. -/
def fileName : String := ".env"

/-- The variables of the environment file in the working directory, if there is
    one. -/
def fileVariables (m : Machine) : Except Fault DotEnv.Bound := do
  if !(← m.tree.isFile? m.home fileName) then return []
  let bytes ← m.tree.readFile m.home fileName
  match Text.Utf8.flaw? bytes with
  | some flaw => throw (.plain .decoding (flaw.message bytes))
  | none => return DotEnv.read m.env (String.ofList (Text.Utf8.decode bytes))

/-- The settings on a machine, with values that the caller gives.  The file is
    read before any value is looked at. -/
def load (m : Machine) (given : Fields := []) : Except Fault Settings := do
  let file ← fileVariables m
  let fromEnv ← ofVariables (m.env.map fun p => (p.1, some p.2))
  let fromFile ← ofVariables file
  ofFields ((fromFile.update fromEnv).update given)

end Settings

/-! ### Keeping settings -/

/-- Settings that have been loaded, to be used again. -/
structure SettingsCache where
  /-- The settings and their number. -/
  current : Option (Nat × Settings) := none
  /-- How many settings have been loaded. -/
  loaded : Nat := 0

namespace SettingsCache

/-- The settings with their number: those that are kept, unless there are none
    or others are wanted.  A fault in loading changes nothing. -/
def get (c : SettingsCache) (reload : Bool) (load : Except Fault Settings) :
    Except Fault (Nat × Settings) × SettingsCache :=
  match c.current, reload with
  | some s, false => (.ok s, c)
  | _, _ =>
    match load with
    | .ok s => (.ok (c.loaded, s), ⟨some (c.loaded, s), c.loaded + 1⟩)
    | .error f => (.error f, c)

/-- Forget the settings that are kept. -/
def clear (c : SettingsCache) : SettingsCache := { c with current := none }

end SettingsCache

end SinkPipeline
