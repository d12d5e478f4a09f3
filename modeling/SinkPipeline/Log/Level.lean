import SinkPipeline.Text.Case

/-! # Log levels

  A log level is a word with a number: an event is written if the number of its
  level is at least that of the chosen level.  Four levels can be chosen in
  settings and on the command line; events and filters know a few more words.
-/

namespace SinkPipeline

/-- A level that can be chosen. -/
inductive LogLevel where
  /-- Everything. -/
  | debug
  /-- The course of a run. -/
  | info
  /-- What may be wrong. -/
  | warning
  /-- What is wrong. -/
  | error
  deriving DecidableEq, Repr, Inhabited

namespace LogLevel

/-- The word for a level. -/
def word : LogLevel → String
  | .debug => "DEBUG"
  | .info => "INFO"
  | .warning => "WARNING"
  | .error => "ERROR"

/-- Every level that can be chosen, from the lowest up. -/
def all : List LogLevel := [.debug, .info, .warning, .error]

/-- The level of a word in any case. -/
def ofText? (s : String) : Option LogLevel := all.find? (·.word == Text.upper s)

/-! ### Numbers -/

/-- The number of the level for debugging. -/
def debugNumber : Nat := 10

/-- The number below which nothing is written unless something else is chosen. -/
def defaultNumber : Nat := 30

/-- The number of a level's word in capitals. -/
def numberOf? : String → Option Nat
  | "NOTSET" => some 0
  | "DEBUG" => some debugNumber
  | "INFO" => some 20
  | "WARN" | "WARNING" => some 30
  | "ERROR" => some 40
  | "CRITICAL" | "FATAL" => some 50
  | _ => none

/-- What a word means where a least level is asked for. -/
inductive Threshold where
  /-- A level, by its number. -/
  | number (n : Nat)
  /-- Something else, of some kind, that no level can be compared with. -/
  | other (kind : String)
  deriving DecidableEq, Repr

/-- Words that mean something else than a level. -/
def otherWords : List (String × String) :=
  ("BASIC_FORMAT", "str") ::
    ["critical", "debug", "error", "exception", "fatal", "info", "log", "warn", "warning"].map
      fun w => (w, "function")

/-- What a word means where a least level is asked for, if anything. -/
def threshold? (word : String) : Option Threshold :=
  ((numberOf? word).map .number).or ((otherWords.lookup word).map .other)

/-- The number of an event's level; an unknown word counts as debugging. -/
def eventNumber (word : String) : Nat := (numberOf? (Text.upper word)).getD debugNumber

end LogLevel

end SinkPipeline
