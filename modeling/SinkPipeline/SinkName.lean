import SinkPipeline.Text.Cut

/-! # Sink names

  A **sink** is an item whose name has the form

      <basename>.[<pre stages>].<nature>+.[<post stages>].<domain>

  where each bracketed part and the plus sign may be absent.  The basename is
  everything up to the first point; nature and domain are words of ASCII
  letters, digits, `_` and `-` that begin with a letter or digit; a bracket
  ends at its first `]` and must hold at least one stage token.  A plus sign
  marks a sink of many outputs.

  Because the basename holds no point and a word no bracket, each next part is
  known from its first two characters, so the parser never has to go back and a
  name has at most one reading.
-/

namespace SinkPipeline

/-- The parts of a sink's name. -/
structure SinkName where
  /-- What stands before the first point. -/
  basename : String
  /-- The kind of content that the sink produces. -/
  nature : String
  /-- Does the sink produce many outputs? -/
  isMulti : Bool
  /-- What kind of program the sink is. -/
  domain : String
  /-- Stages whose output the sink reads. -/
  preStages : List String := []
  /-- Stages that read the sink's output. -/
  postStages : List String := []
  deriving DecidableEq, Repr

namespace SinkName

/-! ### Stage lists -/

/-- Commas and blanks separate stage tokens. -/
def isSeparator (c : Char) : Bool := c == ',' || Text.isBlank c

/-- The maximal runs of characters that are no separators. -/
def stageTokens (cs : List Char) : List (List Char) := Text.runsBetween isSeparator cs

/-- The stage tokens of a bracket; no bracket holds none. -/
def splitStages (block : Option String) : List String :=
  match block with
  | none => []
  | some s => (stageTokens s.toList).map String.ofList

/-! ### Parsing -/

/-- Can the character begin a nature or domain? -/
def isWordStart (c : Char) : Bool := c.isAlphanum

/-- Can the character stand inside a nature or domain? -/
def isWordChar (c : Char) : Bool := c.isAlphanum || c == '_' || c == '-'

/-- A point and a word: the word and what follows it. -/
def takeWord : List Char → Option (List Char × List Char)
  | '.' :: c :: cs =>
    if isWordStart c then some (c :: cs.takeWhile isWordChar, cs.dropWhile isWordChar) else none
  | _ => none

/-- A stage bracket, if one starts here: its tokens and what follows it.  A
    bracket that is not closed, or holds no token, is none that a name may
    have. -/
def takeBracket : List Char → Option (List String × List Char)
  | '.' :: '[' :: cs =>
    match cs.dropWhile (· != ']') with
    | ']' :: rest =>
      match stageTokens (cs.takeWhile (· != ']')) with
      | [] => none
      | tokens => some (tokens.map String.ofList, rest)
    | _ => none
  | cs => some ([], cs)

/-- A plus sign, if one stands here. -/
def takePlus : List Char → Bool × List Char
  | '+' :: cs => (true, cs)
  | cs => (false, cs)

/-- The parts of a name, if it is a sink's. -/
def ofChars? (cs : List Char) : Option SinkName := do
  let basename := cs.takeWhile (· != '.')
  guard (basename ≠ [])
  -- Behind a point, an opening bracket begins a bracket and anything else a word.
  let (preStages, cs) ← takeBracket (cs.dropWhile (· != '.'))
  let (nature, cs) ← takeWord cs
  let (isMulti, cs) := takePlus cs
  let (postStages, cs) ← takeBracket cs
  let (domain, cs) ← takeWord cs
  guard (cs = [])
  return {
    basename := String.ofList basename
    nature := String.ofList nature
    isMulti := isMulti
    domain := String.ofList domain
    preStages := preStages
    postStages := postStages }

/-- The parts of a name, if it is a sink's. -/
def parse? (name : String) : Option SinkName := ofChars? name.toList

/-! ### What the parts give -/

/-- The nature, with the plus sign of a sink of many outputs. -/
def natureToken (n : SinkName) : String := if n.isMulti then n.nature ++ "+" else n.nature

/-- The name of the file that a sink of one output writes. -/
def outputName (n : SinkName) : String := n.basename ++ ".auto." ++ n.nature

/-- Is the name one that sinks of one output write: three parts, the middle one
    `auto`? -/
def isGenerated (name : String) : Bool :=
  match Text.cutAt '.' name.toList with
  | [_, middle, _] => middle == ['a', 'u', 't', 'o']
  | _ => false

end SinkName

end SinkPipeline
