import SinkPipeline.CommandLine.Arguments
import SinkPipeline.Number.Reading
import SinkPipeline.Orchestrator

/-! # Requests

  What a user asks for on the command line: one of three commands with its
  options, the version, or help.  Arguments that ask for nothing that there is
  are a misuse.

  The version and help are found before anything else about the arguments is
  looked at, except that every option must be known and have its value.
-/

namespace SinkPipeline

/-- What a command is asked to do. -/
structure Request where
  /-- The command. -/
  mode : Mode
  /-- The roots. -/
  roots : List String := []
  /-- The include globs. -/
  includes : List String := []
  /-- The exclude globs. -/
  excludes : List String := []
  /-- Where stages are looked for. -/
  searchDirs : List String := []
  /-- What a fault does to a pass. -/
  onError : Option String := none
  /-- The log level. -/
  logLevel : Option String := none
  /-- Are logs written as JSON? -/
  jsonLogs : Bool := false
  /-- Is a table of the sinks printed? -/
  verbose : Bool := false
  /-- The seconds between two looks at the sinks. -/
  interval : Option Float := none
  /-- After how many repeated passes watching ends. -/
  maxRebuilds : Option Int := none

/-- What arguments come to when they ask for no command. -/
inductive NoRequest where
  /-- Help is asked for. -/
  | help
  /-- The version is asked for. -/
  | version
  /-- The arguments cannot be used. -/
  | misuse
  deriving DecidableEq, Repr

namespace Request

/-- The options before a command. -/
def outerRules : List OptionRule :=
  [⟨"--version", some 'V', false⟩, ⟨"--help", none, false⟩]

/-- The options of every command. -/
def sharedRules : List OptionRule :=
  [⟨"--root", some 'r', true⟩, ⟨"--include", some 'I', true⟩, ⟨"--exclude", some 'X', true⟩,
    ⟨"--search-dir", some 's', true⟩, ⟨"--on-error", none, true⟩, ⟨"--log-level", none, true⟩,
    ⟨"--json-logs", none, false⟩, ⟨"--verbose", some 'v', false⟩, ⟨"--help", none, false⟩]

/-- The options of a command. -/
def rulesOf : Mode → List OptionRule
  | .watch => sharedRules ++ [⟨"--interval", none, true⟩, ⟨"--max-rebuilds", none, true⟩]
  | .build | .dryRun => sharedRules

/-- The value of an option that is read in some way, if it is given. -/
def readValue {α : Type} (read : String → Option α) : Option String → Except NoRequest (Option α)
  | none => .ok none
  | some text =>
    match read text with
    | some a => .ok (some a)
    | none => .error .misuse

/-- The request for a command with its arguments. -/
def ofCommand (mode : Mode) (args : List String) : Except NoRequest Request :=
  match Arguments.read (rulesOf mode) false args with
  | none => .error .misuse
  | some g =>
    if g.has "--help" then .error .help
    else do
      let interval ← readValue Number.readNumber (g.value? "--interval")
      let maxRebuilds ← readValue Number.readWhole (g.value? "--max-rebuilds")
      if g.words ≠ [] then throw .misuse
      return {
        mode := mode
        roots := g.values "--root"
        includes := g.values "--include"
        excludes := g.values "--exclude"
        searchDirs := g.values "--search-dir"
        onError := g.value? "--on-error"
        logLevel := g.value? "--log-level"
        jsonLogs := g.has "--json-logs"
        verbose := g.has "--verbose"
        interval := interval
        maxRebuilds := maxRebuilds }

/-- The first of the outer options decides. -/
def outerRequest (g : Arguments.Given) : Except NoRequest Unit :=
  match g.options with
  | [] => .ok ()
  | ("--version", _) :: _ => .error .version
  | _ => .error .help

/-- Does a word look like an option?  It does if it begins with no letter or
    digit. -/
def looksLikeOption (word : String) : Bool :=
  match word.toList with
  | [] => false
  | c :: _ => !c.isAlphanum

/-- What words come to that name no command: those that look like options are
    read once more as such. -/
def ofUnknown (words : List String) : NoRequest :=
  match words with
  | [] => .misuse
  | word :: _ =>
    if looksLikeOption word then
      match Arguments.read outerRules true words with
      | none => .misuse
      | some g =>
        match outerRequest g with
        | .error e => e
        | .ok () => .misuse
    else .misuse

/-- The request of a command line. -/
def read (args : List String) : Except NoRequest Request := do
  match Arguments.read outerRules true args with
  | none => throw .misuse
  | some g =>
    outerRequest g
    match g.words with
    | [] => throw .misuse
    | word :: rest =>
      match Mode.all.find? fun m => m.word == word with
      | some mode => ofCommand mode rest
      | none => throw (ofUnknown (word :: rest))

end Request

end SinkPipeline
