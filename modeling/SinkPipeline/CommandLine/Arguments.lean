/-! # Arguments

  The arguments of a command are **options** and words.  An option is known by a
  long name, and some also by a letter; it either takes a value or is a flag.
  The value of `--name` is what follows an equals sign, or else the next
  argument, whatever that is; the value of a letter is the rest of its
  argument, or else the next argument.  Letters of flags can be written
  together.  After `--` there are only words.
-/

namespace SinkPipeline

/-- An option that a command knows. -/
structure OptionRule where
  /-- The long name, with its dashes. -/
  name : String
  /-- The letter. -/
  letter : Option Char := none
  /-- Does it take a value? -/
  takesValue : Bool := true
  deriving DecidableEq, Repr

namespace Arguments

/-- Arguments that have been read. -/
structure Reading where
  /-- The options, last one first, flags with an empty value. -/
  options : List (String × String) := []
  /-- The words, last one first. -/
  words : List String := []
  /-- The option whose value comes next. -/
  awaiting : Option String := none
  /-- Are there only words from here on? -/
  wordsOnly : Bool := false
  deriving DecidableEq, Repr

/-- Note an option. -/
def Reading.give (r : Reading) (name value : String) : Reading :=
  { r with options := (name, value) :: r.options, awaiting := none }

/-- Note a word. -/
def Reading.word (r : Reading) (w : String) : Reading := { r with words := w :: r.words }

/-- Read letters.  Nothing means that one is unknown. -/
def readLetters (rules : List OptionRule) (r : Reading) : List Char → Option Reading
  | [] => some r
  | c :: cs =>
    match rules.find? fun rule => rule.letter == some c with
    | none => none
    | some rule =>
      if rule.takesValue then
        if cs = [] then some { r with awaiting := some rule.name }
        else some (r.give rule.name (String.ofList cs))
      else readLetters rules (r.give rule.name "") cs

/-- Read an option whose name has been found. -/
def readKnown (rule : OptionRule) (r : Reading) : Option String → Option Reading
  | none =>
    if rule.takesValue then some { r with awaiting := some rule.name }
    else some (r.give rule.name "")
  | some value => if rule.takesValue then some (r.give rule.name value) else none

/-- Cut an argument at its first equals sign. -/
def cutAtEquals (cs : List Char) : List Char × Option String :=
  match cs.span (· != '=') with
  | (name, _ :: value) => (name, some (String.ofList value))
  | (name, []) => (name, none)

/-- Read an argument that begins with a dash and is longer than that. -/
def readOption (rules : List OptionRule) (r : Reading) (cs : List Char) : Option Reading :=
  let (name, value) := cutAtEquals cs
  match rules.find? fun rule => rule.name.toList == name with
  | some rule => readKnown rule r value
  | none =>
    match cs with
    | '-' :: '-' :: _ => none
    | _ => readLetters rules r cs.tail

/-- Read one argument.  Where words end the options, there are only words after
    the first one. -/
def readArgument (rules : List OptionRule) (wordsEnd : Bool) (r : Reading) (arg : String) :
    Option Reading :=
  match r.awaiting with
  | some name => some (r.give name arg)
  | none =>
    if r.wordsOnly then some (r.word arg)
    else if arg = "--" then some { r with wordsOnly := true }
    else
      match arg.toList with
      | '-' :: _ :: _ => readOption rules r arg.toList
      | _ => some { r.word arg with wordsOnly := wordsEnd }

/-- Options and words, each in order. -/
structure Given where
  /-- The options with their values. -/
  options : List (String × String)
  /-- The words. -/
  words : List String
  deriving DecidableEq, Repr

/-- Read arguments.  Nothing means that an option is unknown, lacks its value or
    has one that it does not take. -/
def read (rules : List OptionRule) (wordsEnd : Bool) (args : List String) : Option Given := do
  let r ← args.foldlM (readArgument rules wordsEnd) {}
  match r.awaiting with
  | some _ => none
  | none => return ⟨r.options.reverse, r.words.reverse⟩

namespace Given

/-- Is an option given? -/
def has (g : Given) (name : String) : Bool := g.options.any (·.1 == name)

/-- The values of an option, in order. -/
def values (g : Given) (name : String) : List String :=
  (g.options.filter (·.1 == name)).map (·.2)

/-- The last value of an option. -/
def value? (g : Given) (name : String) : Option String := (g.values name).getLast?

end Given

end Arguments

end SinkPipeline
