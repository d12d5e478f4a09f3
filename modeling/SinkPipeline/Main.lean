import SinkPipeline.CommandLine.Play
import SinkPipeline.Json.Reader

/-! # The command line

  Plays a run of the program: the arguments are those of the program, and
  standard input holds the document of the machine that it runs on.  No input
  stands for an empty workspace.
-/

/-- Read a stream to its end. -/
partial def readToEnd (input : IO.FS.Stream) (text : String) : IO String := do
  let line ← input.getLine
  if line.isEmpty then return text else readToEnd input (text ++ line)

/-- Play the run and write what it wrote. -/
def main (args : List String) : IO UInt32 := do
  let text ← readToEnd (← IO.getStdin) ""
  match if text.isEmpty then some (.obj []) else SinkPipeline.Json.read? text with
  | none =>
    IO.eprintln "standard input holds no JSON"
    return 2
  | some document =>
    let played := SinkPipeline.Play.run document args
    played.out.forM fun line => IO.println line
    played.err.forM fun line => IO.eprintln line
    return played.status.toUInt32
