import SinkPipeline.CommandLine.Request
import SinkPipeline.Log.Output
import SinkPipeline.Report.Summary
import SinkPipeline.Watch

/-! # The program

  What the program does with its arguments: it loads the settings, looks at the
  options, makes a pass or watches, and prints a report of every pass.  It ends
  with a status: zero if all went well, one if a pass ended in a fault, two if
  the arguments cannot be used.  A fault that is not part of a pass ends it too.
-/

namespace SinkPipeline

/-- What the program has written. -/
structure Terminal where
  /-- What has been printed. -/
  screen : Screen := {}
  /-- Where logs go. -/
  logs : LogOutput := {}

namespace Program

/-- Work of the program. -/
abbrev Work : Type → Type := Act (Site Terminal)

/-- The version that is printed. -/
def version : String := "capexec 0.1.0"

/-- Print some things. -/
def print (ps : List Print) : Work Unit := do
  let (screen, r) := (← Act.notes).screen.printAll ps
  Act.modifyNotes fun t => { t with screen := screen }
  Act.ofExcept r

/-- Print a line that is not marked up. -/
def say (line : String) : Work Unit :=
  Act.modifyNotes fun t => { t with screen := { t.screen with out := t.screen.out ++ [line] } }

/-- The line about an option with a value that it does not allow. -/
def badOption (option value expected : String) : Print :=
  .err (Report.styled "bold red" ("Invalid " ++ option ++ ":") ++ " " ++ value ++
    " (expected " ++ expected ++ ")")

/-- The log level that is asked for: an option that is not empty, or else the
    setting. -/
def levelOf (r : Request) (s : Settings) : Option LogLevel :=
  match LogOutput.nonEmpty? r.logLevel with
  | some text => LogLevel.ofText? text
  | none => some s.logLevel

/-- The policy that is asked for: an option that is not empty, or else the
    setting; a word that names none is the error. -/
def policyOf (r : Request) (s : Settings) : Except String Policy :=
  match LogOutput.nonEmpty? r.onError with
  | none => .ok s.onError
  | some text =>
    match Policy.all.find? fun p => p.word == text with
    | some p => .ok p
    | none => .error text

/-- The options of a pass that is asked for. -/
def runOptions (r : Request) (policy : Policy) : RunOptions where
  roots := if r.roots = [] then [.ofString "."] else r.roots.map Path.ofString
  includes := r.includes
  excludes := r.excludes
  searchDirs := r.searchDirs.map Path.ofString
  onError := policy.word
  mode := r.mode.word

/-- Choose where logs go. -/
def chooseLogs (r : Request) (s : Settings) (level : LogLevel) : Work Unit := do
  let format := if r.jsonLogs then LogFormat.json else s.logFormat
  let o : LogOptions := { level := some level.word, format := some format.word, force := true }
  let (result, logs) := LogOutput.configure (← Act.machine).env o (← Act.notes).logs
  Act.modifyNotes fun t => { t with logs := logs }
  Act.ofExcept result

/-- Look at the options: those of a pass, with the settings.  Nothing means that
    one of them has a value that it does not allow, which has been printed. -/
def accept (r : Request) : Work (Option (RunOptions × Settings)) := do
  let s ← Act.ofExcept (Settings.load (← Act.machine))
  match levelOf r s with
  | none =>
    print [badOption "--log-level" (r.logLevel.getD "")
      (" | ".intercalate (LogLevel.all.map LogLevel.word))]
    return none
  | some level =>
    chooseLogs r s level
    match policyOf r s with
    | .error text =>
      print [badOption "--on-error" text "abort or skip"]
      return none
    | .ok policy => return some (runOptions r policy, s)

/-- Print the report of a pass. -/
def report (r : Request) (s : RunSummary) : Work Unit := do
  print (Report.prints (← Act.machine).cwd r.verbose s)

/-- Make a pass: the status that the program ends with. -/
def passOnce (fuel : Nat) (r : Request) (o : RunOptions) (s : Settings) : Work Nat := do
  let summary ← Pass.run fuel o s
  report r summary
  return if summary.ok then 0 else 1

/-- The line at the beginning of watching. -/
def watchLine (o : RunOptions) (seconds : Float) : Print :=
  .out (Report.styled "dim" ("Watching " ++ ", ".intercalate (o.roots.map (·.toString)) ++
    " every " ++ Number.compactText seconds ++ "s"))

/-- Watch, until the user interrupts: the status that the program ends with. -/
def watch (fuel : Nat) (waits : List (Work Unit)) (r : Request) (o : RunOptions) (s : Settings) :
    Work Nat := do
  let seconds := r.interval.getD s.watchInterval
  if seconds ≤ 0.0 then
    print [.err (Report.styled "bold red" "--interval must be positive")]
    return 2
  print [watchLine o seconds]
  match ← Act.attempt (Watch.run fuel o s (report r) r.maxRebuilds waits) with
  | .ok _ => return 0
  | .error .interrupted =>
    print [.out (Report.styled "dim" "Stopped watching.")]
    return 0
  | .error f => Act.fail f

/-- Do what the arguments ask for: the status that the program ends with.  What
    happens while it watches is given as a list of waits. -/
def run (fuel : Nat) (waits : List (Work Unit)) (args : List String) : Work Nat :=
  match Request.read args with
  | .error .help => return 0
  | .error .version => do
    say version
    return 0
  | .error .misuse => return 2
  | .ok r => do
    match ← accept r with
    | none => return 2
    | some (o, s) =>
      match r.mode with
      | .watch => watch fuel waits r o s
      | .build | .dryRun => passOnce fuel r o s

end Program

end SinkPipeline
