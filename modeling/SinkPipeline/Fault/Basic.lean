import SinkPipeline.Fault.Kind

/-! # Faults

  Everything that can go wrong in a run.  An **engine fault** is one of the
  kinds that this library declares itself: it has a category, a context of
  named values, and often a cause.  The other faults come from below: an error
  of the operating system, a value that cannot be used, a cancellation.

  Each fault has a word for its kind and a message; both are what logs and
  reports show.
-/

namespace SinkPipeline

/-! ### Context of an engine fault -/

/-- Named values that say where a fault arose: five typed ones, null when not
    given, and any others. -/
structure FaultContext where
  /-- The name of the sink. -/
  sink : Json := .null
  /-- The stage. -/
  stage : Json := .null
  /-- The mode of the run. -/
  mode : Json := .null
  /-- The path involved. -/
  path : Json := .null
  /-- The command line involved. -/
  argv : Json := .null
  /-- All other values. -/
  metadata : Fields := []
  /-- Values given under names that a context already uses for itself. -/
  reserved : Fields := []

/-! ### Faults -/

/-- Something that went wrong. -/
inductive Fault where
  /-- A fault told by its kind and message. -/
  | plain (kind : PlainKind) (message : String)
  /-- An error of the operating system about some paths. -/
  | os (code : Errno) (paths : List String)
  /-- A value that does not satisfy its declaration: where, and in what way. -/
  | invalid (errors : List (List String × String))
  /-- A fault of this library. -/
  | engine (kind : EngineKind) (message : String) (category : Category) (context : FaultContext)
      (cause : Option Fault)
  /-- The work was called off. -/
  | cancelled (message : String)
  /-- The user interrupted the program. -/
  | interrupted
  deriving Inhabited

namespace Fault

/-- The word for the kind of a fault. -/
def word : Fault → String
  | .plain k _ => k.word
  | .os e _ => e.word
  | .invalid _ => "ValidationError"
  | .engine k .. => k.word
  | .cancelled _ => "CancelledError"
  | .interrupted => "KeyboardInterrupt"

/-- The message of a fault. -/
def message : Fault → String
  | .plain _ m => m
  | .os e paths => e.message paths
  | .invalid errors => toString errors.length ++ " validation error(s)"
  | .engine _ m .. => m
  | .cancelled m => m
  | .interrupted => ""

/-- May the fault be handled like an error?  A cancellation or an interruption
    goes past everything that handles errors. -/
def isOrdinary : Fault → Bool
  | .cancelled _ | .interrupted => false
  | _ => true

/-- Is it an error of the operating system? -/
def isOs : Fault → Bool
  | .os .. => true
  | .plain k _ => k == .os || k == .permission || k == .timeout
  | _ => false

/-- Is it a value that cannot be used? -/
def isValue : Fault → Bool
  | .plain k _ => k == .value || k == .encoding || k == .decoding || k == .base64 || k == .settings
  | .invalid _ => true
  | _ => false

/-- Is it a fault of this library? -/
def isEngine : Fault → Bool
  | .engine .. => true
  | _ => false

/-- What a report gives as the reason: the message, or the kind where there is
    none. -/
def reason (f : Fault) : String :=
  if f.isEngine then f.message else if f.message = "" then f.word else f.message

/-- The cause of a fault. -/
def cause? : Fault → Option Fault
  | .engine _ _ _ _ cause => cause
  | _ => none

/-- The kinds that an engine fault is a case of, its own first. -/
def lineage : Fault → List EngineKind
  | .engine k .. => k.lineage
  | _ => []

/-- What an engine fault is about. -/
def category : Fault → Category
  | .engine _ _ c .. => c
  | _ => .internal

/-- Where an engine fault arose. -/
def context : Fault → FaultContext
  | .engine _ _ _ c _ => c
  | _ => {}

/-- An engine fault with another category or cause, if one is given. -/
def qualified (f : Fault) (category : Option Category) (cause : Option Fault) : Fault :=
  match f with
  | .engine k m c context old => .engine k m (category.getD c) context (cause.or old)
  | f => f

/-- The engine fault of a kind. -/
def ofKind (kind : EngineKind) (message : String) (context : FaultContext := {})
    (cause : Option Fault := none) : Fault :=
  .engine kind message kind.category context cause

/-- A NUL character where none may be. -/
def embeddedNul : Fault := .plain .value "embedded null byte"

/-- A surrogate that has no bytes, after `position` code points, as the first of
    a run of surrogates. -/
def noBytes (position run : Nat) (p : Text.CodePoint) : Fault :=
  let what :=
    if run = 1 then
      "character '\\u" ++ String.ofList (Text.hexDigits 4 p.toNat) ++ "' in position " ++
        toString position
    else "characters in position " ++ toString position ++ "-" ++ toString (position + run - 1)
  .plain .encoding ("'utf-8' codec can't encode " ++ what ++ ": surrogates not allowed")

/-- The fault of a text with a surrogate that has no bytes, `p` being true of
    those. -/
def ofSurrogates? (p : Text.CodePoint → Bool) (t : Text) : Option Fault :=
  (Text.findSurrogate? p t).map fun found =>
    noBytes found.1 (Text.surrogateRun (t.drop found.1)) found.2

/-- What is wrong with a string that is to be a path, an argument or a variable,
    as far as its surrogates go. -/
def ofSystemText? (s : String) : Option Fault := ofSurrogates? (!·.isPathByte) (Text.ofHeld s)

/-- A process that ended with a status other than zero. -/
def stageExit (argv : List String) (status : Int) : Fault :=
  ofKind (.stageExit (.int status))
    ("Process " ++ Text.quote (argv.headD "") ++ " exited with status " ++ toString status)
    { argv := Json.strings argv }

/-- The same for a command line and a status that are given as values.  The
    program's name is the first item of the command line, so an empty one is
    out of range. -/
def stageExitOf (argv status : Json) (context : FaultContext := {}) : Except Fault Fault := do
  let program ← match argv with
    | .arr (first :: _) => pure first.literal
    | .str s =>
      match s.toList with
      | c :: _ => pure (Text.quote (String.ofList [c]))
      | [] => throw (.plain .index "string index out of range")
    | .arr [] => throw (.plain .index "list index out of range")
    | v => throw (.plain .type ("'" ++ v.typeWord ++ "' object is not subscriptable"))
  return ofKind (.stageExit status)
    ("Process " ++ program ++ " exited with status " ++ status.display) { context with argv := argv }

/-- An option with a value that it does not allow. -/
def invalidOption (option : String) (value : Json) (allowed : List String) : Fault :=
  ofKind .invalidOption
    ("Invalid value for " ++ option ++ ": " ++ value.literal ++ " (expected one of " ++
      ", ".intercalate allowed ++ ")")

end Fault

end SinkPipeline
