import SinkPipeline.Base64
import SinkPipeline.Json.Reader
import SinkPipeline.Json.Writer
import SinkPipeline.Process.Env

/-! # Programs

  What a program does is a function of how it was called and of what it reads:
  it gives the bytes that it writes and the status that it ends with.  Programs
  change no files.

  A **script** is a program given by steps.  It is kept in a file, behind a
  first line that says what the file is; a **launcher** is a program that runs
  the script in the file that its last argument names.
-/

namespace SinkPipeline

/-- How a program is called. -/
structure Call where
  /-- Its arguments. -/
  args : List String
  /-- Its environment. -/
  env : Env
  /-- The directory that it runs in, without links. -/
  cwd : String
  /-- The bytes of the file at a path. -/
  file : String → Option Bytes

/-- What a program does. -/
structure Reaction where
  /-- What it writes. -/
  output : Bytes
  /-- The status that it ends with: zero for success, below zero for a signal. -/
  status : Int := 0
  /-- Does it close its input before it has read all of it? -/
  closesInput : Bool := false

/-- A program: what it does when it is called and given its input. -/
abbrev Behaviour : Type := Call → Bytes → Reaction

/-! ### Scripts -/

/-- A step of a script. -/
inductive Script.Step where
  /-- Write bytes. -/
  | emit (bytes : Bytes)
  /-- Write what is left of the input. -/
  | cat
  /-- Write what is left of the input in ASCII capitals. -/
  | upper
  /-- Write the lines that are left of the input, last one first. -/
  | reverseLines
  /-- Write how many bytes are left of the input. -/
  | count
  /-- Write the variables of the pipeline and of stages as JSON. -/
  | env
  /-- Write the value of a variable. -/
  | getenv (name : String)
  /-- Write the directory. -/
  | cwd
  /-- Write the arguments as JSON. -/
  | args
  /-- Close the input. -/
  | closeInput
  /-- Do nothing for long. -/
  | hang
  /-- Read what is left of the input and end with a status. -/
  | exit (status : Int)

/-- A program given by steps, or one that runs another. -/
inductive Script where
  /-- Steps to do in order. -/
  | steps (steps : List Script.Step)
  /-- Run the script that the last argument names. -/
  | launcher

namespace Script

/-- A running script. -/
structure Running where
  /-- What is left of the input. -/
  input : Bytes
  /-- What has been written, last piece first. -/
  written : List Bytes := []
  /-- Was the input closed before all of it was read? -/
  closed : Bool := false

/-- One more piece of output, after which nothing is left of the input. -/
def Running.writeAll (r : Running) (bytes : Bytes) : Running :=
  { r with input := [], written := bytes :: r.written }

/-- One more piece of output. -/
def Running.write (r : Running) (bytes : Bytes) : Running :=
  { r with written := bytes :: r.written }

/-- A small letter of ASCII as a capital. -/
def capital (b : UInt8) : UInt8 := if 97 ≤ b ∧ b ≤ 122 then b - 32 else b

/-- Cut bytes after each line feed; the pieces come last one first, the
    characters of a piece in order. -/
def linesReversed (bytes : Bytes) : List Bytes :=
  let out := bytes.foldl
    (fun (acc : Bytes × List Bytes) b =>
      if b = 10 then ([], (b :: acc.1).reverse :: acc.2) else (b :: acc.1, acc.2)) ([], [])
  if out.1 = [] then out.2 else out.1.reverse :: out.2

/-- The text of a value that a script prints. -/
def jsonBytes (v : Json) : Bytes := Text.Utf8.encode (v.render Json.spaced)

/-- Is the variable one of the pipeline's, or of a stage? -/
def isOwnVariable (name : String) : Bool :=
  "CAPEXEC_".toList.isPrefixOf name.toList || "STAGE_".toList.isPrefixOf name.toList

/-- Do steps in order; the answer is the script's state and the status that it
    ends with.  `shown` is how paths are printed. -/
def runSteps (shown : String → String) (call : Call) : Running → List Step → Running × Int
  | r, [] => (r, 0)
  | r, step :: rest =>
    let text (s : String) : Running := r.write (Text.Utf8.encode s)
    match step with
    | .emit bytes => runSteps shown call (r.write bytes) rest
    | .cat => runSteps shown call (r.writeAll r.input) rest
    | .upper => runSteps shown call (r.writeAll (r.input.map capital)) rest
    | .reverseLines => runSteps shown call (r.writeAll (linesReversed r.input).flatten) rest
    | .count => runSteps shown call (r.writeAll (Text.Utf8.encode (toString r.input.length))) rest
    | .env =>
      let own := (call.env.filter fun p => isOwnVariable p.1).mergeSort (fun a b => a.1 ≤ b.1)
      let value := Json.obj (own.map fun p => (p.1, Json.str (shown p.2)))
      runSteps shown call (r.write (jsonBytes value)) rest
    | .getenv name => runSteps shown call (text ((call.env.get? name).elim "<unset>" shown)) rest
    | .cwd => runSteps shown call (text (shown call.cwd)) rest
    | .args =>
      runSteps shown call (r.write (jsonBytes (Json.strings (call.args.map shown)))) rest
    | .closeInput =>
      runSteps shown call { r with input := [], closed := r.closed || !r.input.isEmpty } rest
    | .hang => runSteps shown call r rest
    | .exit status => (r, status)

/-- What steps do. -/
def stepsBehaviour (shown : String → String) (program : List Step) : Behaviour :=
  fun call input =>
  let (r, status) := runSteps shown call { input := input } program
  ⟨r.written.reverse.flatten, status, r.closed⟩

/-! ### Script files -/

/-- The first line of a file that can be run by itself. -/
def ownLine : String := "#!pipeline-script"

/-- The first line of a file that only a launcher runs. -/
def plainLine : String := "# pipeline-script"

/-- The first line of a launcher. -/
def launcherLine : String := "#!pipeline-launcher"

/-- The first line of a launcher that cannot be run by itself. -/
def plainLauncherLine : String := "# pipeline-launcher"

/-- The step that a value spells. -/
def stepOf? : Json → Option Step
  | .arr [.str "emit", .str s] => some (.emit (Text.Utf8.encode s))
  | .arr [.str "emit_b64", .str s] =>
    (Base64.decode (Text.ofString s)).toOption.map .emit
  | .arr [.str "repeat", .str s, .int n] =>
    some (.emit (List.replicate n.toNat (Text.Utf8.encode s)).flatten)
  | .arr [.str "cat"] => some .cat
  | .arr [.str "upper"] => some .upper
  | .arr [.str "rev_lines"] => some .reverseLines
  | .arr [.str "count"] => some .count
  | .arr [.str "env"] => some .env
  | .arr [.str "getenv", .str name] => some (.getenv name)
  | .arr [.str "cwd"] => some .cwd
  | .arr [.str "args"] => some .args
  | .arr [.str "close_stdin"] => some .closeInput
  | .arr [.str "hang"] => some .hang
  | .arr [.str "exit", .int n] => some (.exit n)
  | .arr [.str "signal", .int n] => some (.exit (-n))
  | _ => none

/-- The bytes of a file that holds the steps that a value spells. -/
def fileBytes (canRun : Bool) (program : Json) : Bytes :=
  Text.Utf8.encode ((if canRun then ownLine else plainLine) ++ "\n" ++ program.render Json.compact)

/-- The bytes of a launcher's file. -/
def launcherBytes (canRun : Bool) : Bytes :=
  Text.Utf8.encode ((if canRun then launcherLine else plainLauncherLine) ++ "\n")

/-- The script in a file, if there is one. -/
def ofBytes? (bytes : Bytes) : Option Script := do
  let line := String.ofList (Text.Utf8.decode (bytes.takeWhile (· != 10)))
  if line = launcherLine ∨ line = plainLauncherLine then return .launcher
  guard (line = ownLine ∨ line = plainLine)
  let text := Text.Utf8.decode (bytes.dropWhile (· != 10))
  let .arr items ← Json.read? (String.ofList text) | none
  return .steps (← items.mapM stepOf?)

/-- What a script does.  A launcher that finds no script fails. -/
def behaviour (shown : String → String) : Script → Behaviour
  | .steps program => stepsBehaviour shown program
  | .launcher => fun call input =>
    match call.args.getLast?.bind fun path => (call.file path).bind ofBytes? with
    | some (.steps program) => stepsBehaviour shown program { call with args := call.args.dropLast } input
    | _ => ⟨[], 1, false⟩

end Script

end SinkPipeline
