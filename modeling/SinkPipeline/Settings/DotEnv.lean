import SinkPipeline.Process.Env
import SinkPipeline.Text.Blank

/-! # Environment files

  An environment file gives variables values, one **binding** after the other:

      export NAME = value     # comment

  A name stands bare or between single quotes; a value stands bare, between
  single quotes or between double quotes, and may be missing altogether.  A
  quoted value may go over several lines.  A line that is no binding is passed
  over.

  In a value, a name between `$\x7b` and `\x7d` is replaced by the value of that
  variable: that of an earlier binding, or else that of the environment, or else
  the default that follows the name after `:-`.
-/

namespace SinkPipeline.DotEnv

/-- Is the character blank, but not the end of a line? -/
def isInlineBlank (c : Char) : Bool := Text.isBlank c && c != '\n' && c != '\r'

/-- A text without the inline blanks in front. -/
def skipInline (cs : List Char) : List Char := cs.dropWhile isInlineBlank

/-- What follows the current line. -/
def nextLine (cs : List Char) : List Char :=
  (cs.dropWhile fun c => c != '\n' && c != '\r').drop 1

/-! ### Parts of a binding -/

/-- A text without the word `export` in front. -/
def skipExport (cs : List Char) : List Char :=
  match cs with
  | 'e' :: 'x' :: 'p' :: 'o' :: 'r' :: 't' :: c :: rest =>
    if isInlineBlank c then skipInline rest else cs
  | cs => cs

/-- A name and what follows it.  A comment has none; what begins like a name
    and is none is an error. -/
def readName (cs : List Char) : Option (Option String × List Char) :=
  match cs with
  | '#' :: _ => some (none, cs)
  | '\'' :: rest =>
    match rest.span (· != '\'') with
    | (c :: name, '\'' :: rest) => some (some (String.ofList (c :: name)), rest)
    | _ => none
  | cs =>
    match cs.span fun c => c != '=' && c != '#' && !Text.isBlank c with
    | ([], _) => none
    | (name, rest) => some (some (String.ofList name), rest)

/-- What stands between quotes, and what follows them.  A backslash takes the
    character behind it along, so that a quote there does not close.  `before`
    is what has been read, in reverse. -/
def readQuoted (quote : Char) (before : List Char) : List Char → Option (List Char × List Char)
  | [] => none
  | '\\' :: c :: rest => readQuoted quote (c :: '\\' :: before) rest
  | c :: rest =>
    if c = quote then some (before.reverse, rest) else readQuoted quote (c :: before) rest

/-- The character that an escape stands for between double quotes. -/
def escaped? : Char → Option Char
  | '\\' => some '\\'
  | '\'' => some '\''
  | '"' => some '"'
  | 'a' => some '\x07'
  | 'b' => some '\x08'
  | 'f' => some '\x0c'
  | 'n' => some '\n'
  | 'r' => some '\r'
  | 't' => some '\t'
  | 'v' => some '\x0b'
  | _ => none

/-- The character that an escape stands for between single quotes. -/
def plainEscaped? : Char → Option Char
  | '\\' => some '\\'
  | '\'' => some '\''
  | _ => none

/-- A text with its escapes replaced. -/
def unescape (escape : Char → Option Char) : List Char → List Char
  | '\\' :: c :: cs =>
    match escape c with
    | some d => d :: unescape escape cs
    | none => '\\' :: unescape escape (c :: cs)
  | c :: cs => c :: unescape escape cs
  | [] => []
termination_by cs => cs.length

/-- A bare value up to its comment: a number sign behind blanks. -/
def beforeComment : List Char → List Char
  | [] => []
  | c :: cs =>
    if Text.isBlank c ∧ (cs.dropWhile Text.isBlank).head? = some '#' then []
    else c :: beforeComment cs

/-- A text without the blanks at its end. -/
def trimEnd (cs : List Char) : List Char := (cs.reverse.dropWhile Text.isBlank).reverse

/-- The value that a bare text stands for: what comes before its comment,
    without the blanks around it. -/
def bareValue (cs : List Char) : List Char := skipInline (trimEnd (beforeComment cs))

/-- A value and what follows it.  The text begins right behind the equals sign:
    blanks there are no part of the value, but a comment may follow them. -/
def readValue (cs : List Char) : Option (List Char × List Char) :=
  match skipInline cs with
  | '\'' :: rest => (readQuoted '\'' [] rest).map fun p => (unescape plainEscaped? p.1, p.2)
  | '"' :: rest => (readQuoted '"' [] rest).map fun p => (unescape escaped? p.1, p.2)
  | _ =>
    let (part, rest) := cs.span fun c => c != '\n' && c != '\r'
    some (bareValue part, rest)

/-- What follows the end of a line; only a comment may stand before it. -/
def readEnd (cs : List Char) : Option (List Char) :=
  let rest := skipInline cs
  let rest := match rest with
    | '#' :: _ => rest.dropWhile fun c => c != '\n' && c != '\r'
    | rest => rest
  match rest with
  | [] => some []
  | '\r' :: '\n' :: rest => some rest
  | '\n' :: rest => some rest
  | '\r' :: rest => some rest
  | _ => none

/-! ### Bindings -/

/-- What one step of reading gives. -/
structure Step where
  /-- The name and value, if there are any. -/
  binding : Option (String × Option (List Char))
  /-- What follows. -/
  rest : List Char

/-- A binding.  Where it goes wrong, the rest of the line is passed over. -/
def readBinding (cs : List Char) : Step :=
  let start := skipExport cs
  match readName start with
  | none => ⟨none, nextLine start⟩
  | some (name, rest) =>
    let rest := skipInline rest
    let value := match rest with
      | '=' :: rest => (readValue rest).map fun p => (some p.1, p.2)
      | rest => some (none, rest)
    match value with
    | none =>
      -- the equals sign and the blanks behind it have been passed
      ⟨none, nextLine (skipInline (rest.drop 1))⟩
    | some (value, rest) =>
      match readEnd rest with
      | none =>
        let rest := skipInline rest
        let rest := match rest with
          | '#' :: _ => rest.dropWhile fun c => c != '\n' && c != '\r'
          | rest => rest
        ⟨none, nextLine rest⟩
      | some rest => ⟨name.map fun n => (n, value), rest⟩

/-- The bindings of a text, `fuel` being at least its length. -/
def readBindings : Nat → List Char → List (String × Option (List Char))
  | 0, _ => []
  | fuel + 1, cs =>
    match cs.dropWhile Text.isBlank with
    | [] => []
    | cs =>
      let step := readBinding cs
      step.binding.toList ++ readBindings fuel step.rest

/-! ### Replacing variables -/

/-- The name and default of a variable that is to be replaced, and what follows
    it.  The text begins behind the opening brace. -/
def readVariable (cs : List Char) : Option (String × Option (List Char) × List Char) :=
  let (name, rest) := cs.span fun c => c != '\x7d' && c != ':'
  match rest with
  | '\x7d' :: rest => some (String.ofList name, none, rest)
  | ':' :: '-' :: rest =>
    match rest.span (· != '\x7d') with
    | (default, '\x7d' :: rest) => some (String.ofList name, some default, rest)
    | _ => none
  | _ => none

/-- A text with its variables replaced, `fuel` being at least its length. -/
def substitute (value : String → Option String) : Nat → List Char → List Char
  | 0, cs => cs
  | _ + 1, [] => []
  | fuel + 1, '$' :: '\x7b' :: cs =>
    match readVariable cs with
    | some (name, default, rest) =>
      ((value name).map String.toList).getD (default.getD []) ++ substitute value fuel rest
    | none => '$' :: substitute value fuel ('\x7b' :: cs)
  | fuel + 1, c :: cs => c :: substitute value fuel cs

/-- Variables that are bound, some of them to nothing. -/
abbrev Bound : Type := List (String × Option String)

/-- The value of a variable while bindings are being read: a variable bound to
    nothing has an empty one. -/
def valueIn (env : Env) (bound : Bound) (name : String) : Option String :=
  match bound.lookup name with
  | some v => some (v.getD "")
  | none => env.get? name

/-- One more binding.  Of a repeated name the last value counts, in the first
    place. -/
def bind (bound : Bound) (name : String) (v : Option String) : Bound :=
  if bound.any (·.1 == name) then bound.map fun p => if p.1 == name then (name, v) else p
  else bound ++ [(name, v)]

/-- A text whose lines all end in a line feed alone. -/
def withLineFeeds : List Char → List Char
  | '\r' :: '\n' :: cs => '\n' :: withLineFeeds cs
  | '\r' :: cs => '\n' :: withLineFeeds cs
  | c :: cs => c :: withLineFeeds cs
  | [] => []

/-- A text without the byte order mark that may stand in front of it. -/
def withoutMark : List Char → List Char
  | '\uFEFF' :: cs => cs
  | cs => cs

/-- The variables of a text, in an environment. -/
def read (env : Env) (text : String) : Bound :=
  (readBindings text.length (withLineFeeds (withoutMark text.toList))).foldl
    (fun bound p =>
      let value := p.2.map fun cs =>
        String.ofList (substitute (valueIn env bound) cs.length cs)
      bind bound p.1 value) []

end SinkPipeline.DotEnv
