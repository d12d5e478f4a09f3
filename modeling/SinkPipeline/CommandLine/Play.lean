import SinkPipeline.CommandLine.Program
import SinkPipeline.Exchange
import SinkPipeline.Workspace

/-! # Playing a run

  A run can be played on a machine that a document describes: a JSON object with
  the entries of its workspace under `tree`, its environment under `env`, and
  under `ticks` the edits that are made during each wait of a watching program.
  When there are no more ticks the user interrupts.

  What the program would have written comes out as lines: its output, and what
  it says about what is wrong, followed by the log.
-/

namespace SinkPipeline.Play

/-- How a played run ended. -/
structure Transcript where
  /-- The lines of output. -/
  out : List String
  /-- The lines about what is wrong, and of the log. -/
  err : List String
  /-- The status. -/
  status : Nat

/-- The directory that programs are played in. -/
def home : Path := .ofString "/work"

/-- The machine of a document. -/
def machineOf (v : Json) : Machine :=
  ((v.field "tree").items.map Workspace.entryOf).foldl Workspace.plant
    (Workspace.empty home (Env.ofJson (v.field "env")) id Workspace.defaultMtime)

/-- What happens during the waits of a document. -/
def waitsOf (v : Json) : List (Program.Work Unit) :=
  (v.field "ticks").items.map (fun tick =>
    let edits := tick.items.filterMap Workspace.editOf?
    Act.modifyMachine fun m => edits.foldl Workspace.edit m) ++ [Act.fail .interrupted]

/-- The lines of a table. -/
def tableLines (t : List String × List (List String)) : List String :=
  (t.1 :: t.2).map ("  ".intercalate ·)

/-- The line of a log record, as JSON or for reading. -/
def logLine (asJson : Bool) (record : Fields) : String :=
  if asJson then (Json.obj record).render Json.spaced
  else " ".intercalate (record.map fun p => p.1 ++ "=" ++ p.2.display)

/-- The lines of the log.  A record that cannot be compared with the least level
    has none. -/
def logLines (logs : LogOutput) (records : List LogRecord) : List String :=
  records.filterMap fun r =>
    (logs.written r.context .null ⟨r.logger, r.level, r.event, r.fields⟩).toOption.join.map
      (logLine logs.asJson)

/-- How the program is called. -/
def usage : List String :=
  ["usage: capexec [--version] [--help] build|dry-run|watch [options]",
    "  -r, --root DIR         a directory with sinks (repeatable)",
    "  -I, --include GLOB     look at these files only (repeatable)",
    "  -X, --exclude GLOB     leave these files out (repeatable)",
    "  -s, --search-dir DIR   look for stages here too (repeatable)",
    "      --on-error WORD    abort or skip",
    "      --log-level WORD   DEBUG, INFO, WARNING or ERROR",
    "      --json-logs        write the log as JSON",
    "  -v, --verbose          print a table of the sinks",
    "      --interval NUMBER  seconds between two looks at the sinks (watch)",
    "      --max-rebuilds N   end after so many repeated passes (watch)"]

/-- What is said about arguments that ask for nothing. -/
def usageFor (args : List String) : List String × List String :=
  match Request.read args with
  | .error .help => (usage, [])
  | .error .misuse => ([], usage)
  | _ => ([], [])

/-- Play a run with some arguments on the machine of a document. -/
def run (document : Json) (args : List String) : Transcript :=
  let site : Site Terminal := { machine := machineOf document, notes := {} }
  let (r, diary, site) := Act.runOn (Program.run Source.ample (waitsOf document) args) {} site
  let screen := site.notes.screen
  let (help, misuse) := usageFor args
  let (failure, status) := match r with
    | .ok status => ([], status)
    | .error f => ([f.word ++ ": " ++ f.message], 1)
  { out := help ++ screen.out ++ screen.tables.flatMap tableLines
    err := misuse ++ screen.err ++ failure ++ logLines site.notes.logs diary.records
    status := status }

end SinkPipeline.Play
