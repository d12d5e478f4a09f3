import SinkPipeline.Report.Summary

/-! # Values for other programs

  How the values of a run are given to other programs, and taken from them, as
  JSON: stages, names, faults, what became of outputs and of passes, and the
  options of a pass.
-/

namespace SinkPipeline

namespace Json

/-- A whole number. -/
def ofNat (n : Nat) : Json := .int n

/-- Null for nothing. -/
def ofOptionWith {α : Type} (f : α → Json) : Option α → Json
  | some a => f a
  | none => .null

/-- The member of a name; null if there is none. -/
def field (v : Json) (name : String) : Json := (v.member? name).getD .null

/-- Has the value a member of this name? -/
def has (v : Json) (name : String) : Bool := (v.member? name).isSome

/-- The text of a string, empty for anything else. -/
def text (v : Json) : String := v.str?.getD ""

/-- The items of an array, none for anything else. -/
def items : Json → List Json
  | .arr xs => xs
  | _ => []

/-- The strings of an array. -/
def texts (v : Json) : List String := v.items.map text

/-- The members of an object, none for anything else. -/
def fields (v : Json) : Fields := v.members?.getD []

/-- A truth value, or else what stands for it. -/
def flag (v : Json) (otherwise : Bool) : Bool :=
  match v with
  | .bool b => b
  | _ => otherwise

/-- A whole number from zero up. -/
def nat? : Json → Option Nat
  | .int n => some n.toNat
  | _ => none

/-- A number, zero for anything else. -/
def number : Json → Float
  | .int n => Number.ofInt n
  | .float x => x
  | _ => 0.0

end Json

/-- The time that a number gives; a whole one stays whole. -/
def Instant.ofJson? : Json → Option Instant
  | .int n => some (.whole n)
  | .float x => some (.read x)
  | _ => none

/-- A log record as its level, event and values. -/
def LogRecord.toJson (r : LogRecord) : Json := .arr [.str r.level, .str r.event, .obj r.fields]

/-- The variables of an object. -/
def Env.ofJson (v : Json) : Env := v.fields.map fun p => (p.1, p.2.text)

/-- An environment as an object. -/
def Env.toJson (env : Env) : Json := .obj (env.map fun p => (p.1, .str p.2))

/-- A stage as an object. -/
def Stage.toJson (s : Stage) : Json :=
  .obj [("argv", Json.strings s.argv), ("cwd", .ofOptionWith .str s.cwd),
    ("env", .ofOptionWith Env.toJson s.env)]

/-- The stage that an object spells. -/
def Stage.ofJson (v : Json) : Except Fault Stage := do
  let argv ← Stage.argvOfValue (v.field "argv")
  Stage.ofArgv argv (v.field "cwd").str? ((v.field "env").members?.map fun _ => Env.ofJson (v.field "env"))

/-- The parts of a name as an object. -/
def SinkName.toJson (n : SinkName) : Json :=
  .obj [("basename", .str n.basename), ("nature", .str n.nature), ("is_multi", .bool n.isMulti),
    ("domain", .str n.domain), ("pre_stages", Json.strings n.preStages),
    ("post_stages", Json.strings n.postStages), ("nature_token", .str n.natureToken),
    ("output_name", .str n.outputName)]

/-- A record as an object. -/
def Record.toJson (r : Record) : Json :=
  .obj [("path", .ofText r.path), ("content", .ofText r.content),
    ("encoding", .ofOptionWith .ofText r.encoding)]

/-- A fault as an object: its kind and message, and what else is known about an
    engine fault.  The message of a fault of settings is left out, and a value
    that does not satisfy its declaration is told by what is wrong with it. -/
def Fault.toJson (f : Fault) : Json :=
  match f with
  | .invalid errors =>
    .obj [("error", .str f.word),
      ("errors", .arr (errors.map fun e => .arr [Json.strings e.1, .str e.2]))]
  | .plain .settings _ => .obj [("error", .str f.word)]
  | .engine _ m _ _ cause =>
    let detail := match f.describe with
      | .ok fields => Json.obj fields
      | .error g => Json.str g.message
    .obj ([("error", .str f.word), ("message", .str m), ("detail", detail)] ++
      cause.toList.map fun c => ("cause_type", .str c.word))
  | f => .obj [("error", .str f.word), ("message", .str f.message)]

/-- The fault that an object spells. -/
def Fault.ofJson (v : Json) : Fault :=
  let word := (v.field "type").text
  let message := (v.field "msg").text
  match PlainKind.ofWord? word with
  | some .key => .plain .key (if v.has "msg" then Text.quote message else "")
  | some k => .plain k message
  | none =>
    match word, v.field "returncode" with
    | "CancelledError", _ => .cancelled message
    | "StageExitError", .int n => Fault.stageExit (v.field "argv").texts n
    | _, _ => Fault.ofKind ((EngineKind.ofWord? word).getD .general) message

/-- A result, or the fault in its place. -/
def Fault.resultJson {α : Type} (f : α → Json) : Except Fault α → Json
  | .ok a => f a
  | .error e => e.toJson

/-- The specs that were refused. -/
def InvalidSpec.listJson (rs : List InvalidSpec) : Json :=
  .arr (rs.map fun r => .arr [.str r.kind, .str r.reason])

/-- The root that an object asks for; what it is relative to unless it says so is
    given. -/
def RootSpec.ofJson (baseDir : Path) (v : Json) : RootSpec where
  root := .ofString (v.field "root").text
  baseDir := ((v.field "base_dir").str?.map Path.ofString).getD baseDir
  includes := (v.field "include").texts
  excludes := (v.field "exclude").texts

/-- The launchers of an object: for each suffix what stands before the file and
    behind it. -/
def Launchers.ofJson (v : Json) : Launchers :=
  v.fields.map fun (suffix, l) => (suffix, fun file =>
    if (l.field "empty").isTruthy then []
    else (l.field "prefix").texts ++ file :: (l.field "suffix").texts)

/-- A plan as an object. -/
def Plan.fields (p : Plan) : Fields :=
  [("name", .str p.source.name), ("key", .str p.source.key),
    ("rel", .ofOptionWith .str p.source.payload), ("mode", .str p.mode.word), ("context", p.context),
    ("sink", p.sink.toJson), ("pre", .arr (p.pre.map Stage.toJson)),
    ("post", .arr (p.post.map Stage.toJson)), ("pre_payload", p.prePayload),
    ("post_payload", p.postPayload)]

/-- What became of an output as an object. -/
def Materialized.toJson (r : Materialized) : Json :=
  .obj [("kind", .str (if r.isMulti then "multi" else "single")),
    ("written", Json.strings (r.written.map (·.toString))), ("bytes_written", .ofNat r.bytesWritten),
    ("dry_run", .bool r.dryRun), ("dropped_records", .ofNat r.dropped), ("ok", .bool true)]

/-- What a plan delivered. -/
def Delivered.toJson : Delivered → Json
  | .files m => m.toJson
  | .custom v => v

/-- An executed sink as an object. -/
def ExecutedSink.toJson (e : ExecutedSink) : Json :=
  .obj [("name", .str e.name), ("sink", .str e.sink),
    ("written", Json.strings (e.written.map (·.toString))), ("dry_run", .bool e.dryRun),
    ("dropped_records", .ofNat e.dropped), ("elapsed_ms", .float e.elapsed)]

/-- The summary of a pass as an object. -/
def RunSummary.toJson (s : RunSummary) : Json :=
  .obj [("executed", .arr (s.executed.map ExecutedSink.toJson)),
    ("invalid", InvalidSpec.listJson s.invalid), ("error", .ofOptionWith Fault.toJson s.error),
    ("ok", .bool s.ok), ("files_written", .ofNat s.filesWritten)]

/-- The options that an object spells. -/
def RunOptions.ofJson (v : Json) : RunOptions :=
  let d : RunOptions := {}
  let paths (name : String) : List Path := (v.field name).texts.map Path.ofString
  { roots := if v.has "roots" then paths "roots" else d.roots
    includes := (v.field "include").texts
    excludes := (v.field "exclude").texts
    searchDirs := paths "search_dirs"
    onError := ((v.field "on_error").str?).getD d.onError
    mode := ((v.field "mode").str?).getD d.mode }

/-- The tables of a screen, each as its heads and its rows. -/
def Screen.tablesJson (s : Screen) : Json :=
  .arr (s.tables.map fun t => .arr (t.1.map .str ++ [.arr (t.2.map Json.strings)]))

end SinkPipeline
