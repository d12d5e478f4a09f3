import SinkPipeline.Json.Literal

/-! # Kinds of faults

  The names of what can go wrong: errors of the **operating system** by their
  numbers, **plain** kinds of values that cannot be used, and the **engine**
  kinds that this library declares itself.  Engine kinds form a tree, and each
  has a category.
-/

namespace SinkPipeline

/-! ### Errors of the operating system -/

/-- An error number of the operating system. -/
inductive Errno where
  /-- Nothing is there. -/
  | noEntry
  /-- The file is no program. -/
  | execFormat
  /-- Not permitted. -/
  | denied
  /-- In use. -/
  | busy
  /-- Something is there already. -/
  | exists
  /-- Not a directory. -/
  | notDirectory
  /-- A directory. -/
  | isDirectory
  /-- A name is too long. -/
  | nameTooLong
  /-- Too many symbolic links on the way. -/
  | tooManyLinks
  deriving DecidableEq, Repr

namespace Errno

/-- The number. -/
def code : Errno → Nat
  | .noEntry => 2
  | .execFormat => 8
  | .denied => 13
  | .busy => 16
  | .exists => 17
  | .notDirectory => 20
  | .isDirectory => 21
  | .nameTooLong => 36
  | .tooManyLinks => 40

/-- The wording. -/
def text : Errno → String
  | .noEntry => "No such file or directory"
  | .execFormat => "Exec format error"
  | .denied => "Permission denied"
  | .busy => "Device or resource busy"
  | .exists => "File exists"
  | .notDirectory => "Not a directory"
  | .isDirectory => "Is a directory"
  | .nameTooLong => "File name too long"
  | .tooManyLinks => "Too many levels of symbolic links"

/-- The word for the kind of error. -/
def word : Errno → String
  | .noEntry => "FileNotFoundError"
  | .denied => "PermissionError"
  | .exists => "FileExistsError"
  | .notDirectory => "NotADirectoryError"
  | .isDirectory => "IsADirectoryError"
  | .execFormat | .busy | .nameTooLong | .tooManyLinks => "OSError"

/-- The message about one path, or about two. -/
def message (e : Errno) (paths : List String) : String :=
  "[Errno " ++ toString e.code ++ "] " ++ e.text ++ ": " ++
    " -> ".intercalate (paths.map Text.quote)

end Errno

/-! ### Kinds -/

/-- Kinds of faults that are told apart by name alone. -/
inductive PlainKind where
  /-- An error of the operating system without a number. -/
  | os
  /-- A lack of permission. -/
  | permission
  /-- Something took too long. -/
  | timeout
  /-- A value that cannot be used. -/
  | value
  /-- A key that is not there. -/
  | key
  /-- An index that is out of range. -/
  | index
  /-- An attribute that is not there. -/
  | attribute
  /-- A value of the wrong type. -/
  | type
  /-- A division by zero. -/
  | zeroDivision
  /-- An error while running. -/
  | runtime
  /-- Recursion that went too deep. -/
  | recursion
  /-- Text that has no bytes. -/
  | encoding
  /-- Bytes that are no text. -/
  | decoding
  /-- Base64 that stands for no bytes. -/
  | base64
  /-- A pattern that is none. -/
  | pattern
  /-- Markup whose tags do not fit together. -/
  | markup
  /-- A setting that cannot be read. -/
  | settings
  deriving DecidableEq, Repr

/-- The word for a plain kind. -/
def PlainKind.word : PlainKind → String
  | .os => "OSError"
  | .permission => "PermissionError"
  | .timeout => "TimeoutError"
  | .value => "ValueError"
  | .key => "KeyError"
  | .index => "IndexError"
  | .attribute => "AttributeError"
  | .type => "TypeError"
  | .zeroDivision => "ZeroDivisionError"
  | .runtime => "RuntimeError"
  | .recursion => "RecursionError"
  | .encoding => "UnicodeEncodeError"
  | .decoding => "UnicodeDecodeError"
  | .base64 => "Error"
  | .pattern => "error"
  | .markup => "MarkupError"
  | .settings => "SettingsError"

/-- Every plain kind. -/
def PlainKind.all : List PlainKind :=
  [.os, .permission, .timeout, .value, .key, .index, .attribute, .type, .zeroDivision, .runtime,
    .recursion, .encoding, .decoding, .base64, .pattern, .markup, .settings]

/-- The plain kind of a word. -/
def PlainKind.ofWord? (w : String) : Option PlainKind := PlainKind.all.find? (·.word == w)

/-- What an engine fault is about. -/
inductive Category where
  /-- Where sinks are looked for. -/
  | source
  /-- The form of data. -/
  | parse
  /-- Options. -/
  | config
  /-- Processes. -/
  | process
  /-- Files that are written. -/
  | storage
  /-- Preparing and executing plans. -/
  | pipeline
  /-- Anything else. -/
  | internal
  deriving DecidableEq, Repr

/-- The word for a category. -/
def Category.word : Category → String
  | .source => "SOURCE"
  | .parse => "PARSE"
  | .config => "CONFIG"
  | .process => "PROCESS"
  | .storage => "STORAGE"
  | .pipeline => "PIPELINE"
  | .internal => "INTERNAL"

/-- Every category. -/
def Category.all : List Category :=
  [.source, .parse, .config, .process, .storage, .pipeline, .internal]

/-- The category of a word. -/
def Category.ofWord? (w : String) : Option Category := Category.all.find? (·.word == w)

/-- Kinds of engine faults. -/
inductive EngineKind where
  /-- Any engine fault. -/
  | general
  /-- A place where sinks are looked for. -/
  | source
  /-- A root that cannot be walked. -/
  | invalidSpec
  /-- Options. -/
  | config
  /-- A stage that is no command. -/
  | invalidStage
  /-- An option with a value that it does not allow. -/
  | invalidOption
  /-- A process. -/
  | process
  /-- A process that could not be started. -/
  | spawn
  /-- A process that ended with the given status, which is not zero. -/
  | stageExit (status : Json)
  /-- A file that could not be written. -/
  | materialize

namespace EngineKind

/-- The word for a kind. -/
def word : EngineKind → String
  | .general => "CapExecError"
  | .source => "SourceError"
  | .invalidSpec => "InvalidSpecError"
  | .config => "ConfigError"
  | .invalidStage => "InvalidStageError"
  | .invalidOption => "InvalidOptionError"
  | .process => "ProcessError"
  | .spawn => "SpawnError"
  | .stageExit _ => "StageExitError"
  | .materialize => "MaterializeError"

/-- The kinds that are told by their word alone. -/
def plainKinds : List EngineKind :=
  [.general, .source, .invalidSpec, .config, .invalidStage, .invalidOption, .process, .spawn,
    .materialize]

/-- The kind of a word. -/
def ofWord? (w : String) : Option EngineKind := plainKinds.find? (·.word == w)

/-- The kind that a kind is a case of. -/
def parent? : EngineKind → Option EngineKind
  | .general => none
  | .source | .config | .process | .materialize => some .general
  | .invalidSpec => some .source
  | .invalidStage | .invalidOption => some .config
  | .spawn | .stageExit _ => some .process

/-- The kind and the kinds that it is a case of, most general last. -/
def lineage (k : EngineKind) : List EngineKind :=
  match k.parent? with
  | none => [k]
  | some p =>
    match p.parent? with
    | none => [k, p]
    | some q => [k, p, q]

/-- The category of a kind, unless a fault says otherwise. -/
def category : EngineKind → Category
  | .general => .internal
  | .source | .invalidSpec => .source
  | .config | .invalidStage | .invalidOption => .config
  | .process | .spawn | .stageExit _ => .process
  | .materialize => .storage

end EngineKind

end SinkPipeline
