import SinkPipeline.Pass
import SinkPipeline.Report.Markup

/-! # Reports

  What a user sees of a pass: the roots that were refused, a line for each sink
  that was executed, with the files written for it, the totals, and the fault
  that ended the pass.  On request the sinks are also listed in a table.

  A report is a list of things to print.  They are printed in order, and what
  was printed before a fault stays printed.
-/

namespace SinkPipeline

/-- Something to print. -/
inductive Print where
  /-- A marked-up line of output. -/
  | out (markup : String)
  /-- A marked-up line about something wrong. -/
  | err (markup : String)
  /-- A table: its heads and its rows. -/
  | table (heads : List String) (rows : List (List String))
  deriving DecidableEq, Repr

/-- What has been printed. -/
structure Screen where
  /-- The lines of output. -/
  out : List String := []
  /-- The lines about what is wrong. -/
  err : List String := []
  /-- The tables, each with its heads and rows. -/
  tables : List (List String × List (List String)) := []
  deriving DecidableEq, Repr

namespace Screen

/-- Print one thing. -/
def print (s : Screen) : Print → Except Fault Screen
  | .out markup => do return { s with out := s.out ++ (← Markup.printed markup) }
  | .err markup => do return { s with err := s.err ++ (← Markup.printed markup) }
  | .table heads rows => .ok { s with tables := s.tables ++ [(heads, rows)] }

/-- Print some things, up to the first fault. -/
def printAll (s : Screen) : List Print → Screen × Except Fault Unit
  | [] => (s, .ok ())
  | p :: ps =>
    match s.print p with
    | .ok s => s.printAll ps
    | .error f => (s, .error f)

end Screen

namespace Report

/-- A text between the tags of a look. -/
def styled (look text : String) : String := "[" ++ look ++ "]" ++ text ++ "[/" ++ look ++ "]"

/-- What a sink's line says about its files. -/
def targetText (cwd : Path) (e : ExecutedSink) : String :=
  if e.dryRun then styled "dim" "(dry-run, nothing written)"
  else
    let files := ", ".intercalate (e.written.map fun p => Path.display cwd p.toString)
    if files = "" then styled "dim" "no files" else files

/-- The line of a sink. -/
def sinkLine (cwd : Path) (e : ExecutedSink) : String :=
  styled "green" "✓" ++ " " ++ e.name ++ " → " ++ targetText cwd e ++ " " ++
    styled "dim" (Number.fixedText 0 e.elapsed ++ " ms")

/-- What is printed for a sink: its line, and the number of lines dropped from
    its output if there are any. -/
def sinkPrints (cwd : Path) (e : ExecutedSink) : List Print :=
  .out (sinkLine cwd e) ::
    (if e.dropped = 0 then []
      else [.out ("  " ++ styled "yellow" (toString e.dropped ++ " malformed record(s) dropped"))])

/-- The heads of the table. -/
def tableHeads : List String := ["sink", "files", "ms"]

/-- The row of a sink in the table. -/
def tableRow (cwd : Path) (e : ExecutedSink) : List String :=
  [Path.display cwd e.sink, toString e.written.length, Number.fixedText 1 e.elapsed]

/-- The line of a root that was refused. -/
def refusedLine (r : InvalidSpec) : String :=
  styled "yellow" "Skipped root" ++ " (" ++ r.kind ++ "): " ++ r.reason

/-- The line of totals. -/
def totalsLine (s : RunSummary) : String :=
  styled "bold" (toString s.executed.length) ++ " CapExec(s) executed, " ++
    styled "bold" (toString s.filesWritten) ++ " file(s) written"

/-- The line of the fault that ended the pass. -/
def errorLine (f : Fault) : String :=
  styled "bold red" "Error" ++ " (" ++ f.word ++ "): " ++ f.message

/-- What is printed about a pass, seen from a working directory. -/
def prints (cwd : Path) (verbose : Bool) (s : RunSummary) : List Print :=
  s.invalid.map (fun r => .err (refusedLine r)) ++ s.executed.flatMap (sinkPrints cwd) ++
    (if verbose && !s.executed.isEmpty then [.table tableHeads (s.executed.map (tableRow cwd))]
      else []) ++
    .out (totalsLine s) :: s.error.toList.map fun f => .err (errorLine f)

end Report

end SinkPipeline
