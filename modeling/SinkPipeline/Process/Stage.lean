import SinkPipeline.Fault.Context
import SinkPipeline.Process.Env

/-! # Stages

  A **stage** is one process that can be run: a command with its arguments, the
  directory to run it from, and environment entries of its own.
-/

namespace SinkPipeline

/-- One process that can be run. -/
structure Stage where
  /-- The program. -/
  command : String
  /-- Its arguments. -/
  args : List String := []
  /-- The directory to run it from. -/
  cwd : Option String := none
  /-- Environment entries for this process alone. -/
  env : Option Env := none
  deriving DecidableEq, Inhabited

namespace Stage

/-- The command line: the program, then its arguments. -/
def argv (s : Stage) : List String := s.command :: s.args

/-- A command line needs a program. -/
def emptyCommandLine : Fault := Fault.ofKind .invalidStage "Stage argv must not be empty"

/-- The stage of a command line. -/
def ofArgv (argv : List String) (cwd : Option String := none) (env : Option Env := none) :
    Except Fault Stage :=
  match argv with
  | [] => .error emptyCommandLine
  | command :: args => .ok ⟨command, args, cwd, env⟩

/-- The command line that a value spells: the items of an array, the characters
    of a string or the names of an object, each shown as text. -/
def argvOfValue : Json → Except Fault (List String)
  | .arr items => .ok (items.map Json.display)
  | .str s => .ok (s.toList.map fun c => String.ofList [c])
  | .obj ms => .ok (ms.map (·.1))
  | v => .error (.plain .type ("'" ++ v.typeWord ++ "' object is not iterable"))

/-- Are two stages the same command, run from the same directory? -/
def sameCommand (a b : Stage) : Bool := a.argv == b.argv && a.cwd == b.cwd

theorem argv_ne_nil (s : Stage) : s.argv ≠ [] := by simp [argv]

end Stage

end SinkPipeline
