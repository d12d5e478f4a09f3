import SinkPipeline.Report.Emoji
import SinkPipeline.Report.Look
import SinkPipeline.Text.Width

/-! # Markup

  Reports are printed as text with **tags** in brackets that say how it looks.
  A bracket is a tag if what follows it begins with a small ASCII letter, `#`,
  `/` or `@`, and if it is closed before another one opens; any other bracket
  stands for itself.  A backslash in front takes a tag's meaning away, and of
  every two backslashes in front of a tag one is left.

  A tag that begins with a slash closes the last open tag of its name, or with
  no name the last open tag; names that write the same look are the same.  Tags
  are not shown; a tag that closes nothing is a fault, one that is never closed
  is not.  In the text between tags, codes stand for emoji.
-/

namespace SinkPipeline.Markup

/-! ### Pieces -/

/-- A piece of marked-up text. -/
inductive Piece where
  /-- Text to show. -/
  | text (cs : List Char)
  /-- A tag at a position, with what stands between its brackets. -/
  | tag (position : Nat) (inner : List Char)
  deriving DecidableEq, Repr

/-- Can a tag begin with the character? -/
def startsTag (c : Char) : Bool := ('a' ≤ c && c ≤ 'z') || c == '#' || c == '/' || c == '@'

/-- Where the scanner stands. -/
inductive Scan where
  /-- In text, behind some backslashes. -/
  | between (slashes : Nat)
  /-- Behind an opening bracket with some backslashes in front of it. -/
  | opening (slashes : Nat)
  /-- Inside brackets that may be a tag, with what has been read of it in
      reverse. -/
  | inside (slashes : Nat) (inner : List Char)
  deriving DecidableEq, Repr

/-- A scanner that has read some characters. -/
structure Scanner where
  /-- Where it stands. -/
  scan : Scan := .between 0
  /-- How many characters have been read. -/
  position : Nat := 0
  /-- The text since the last tag, in reverse. -/
  pending : List Char := []
  /-- The pieces before that, in reverse. -/
  pieces : List Piece := []
  deriving DecidableEq, Repr

/-- Some backslashes. -/
def slashText (n : Nat) : List Char := List.replicate n '\\'

/-- A backslash in front of a bracket that is no tag vanishes. -/
def plain : List Char → List Char
  | '\\' :: '[' :: cs => '[' :: plain cs
  | c :: cs => c :: plain cs
  | [] => []

/-- The pieces with the pending text as one more. -/
def Scanner.flushed (s : Scanner) : List Piece :=
  if s.pending = [] then s.pieces else .text (plain s.pending.reverse) :: s.pieces

/-- A character of ordinary text, `pending` being the text before it. -/
def Scanner.plainStep (s : Scanner) (slashes : Nat) (pending : List Char) (c : Char) : Scanner :=
  if c = '\\' then { s with scan := .between (slashes + 1), pending := pending }
  else if c = '[' then { s with scan := .opening slashes, pending := pending }
  else { s with scan := .between 0, pending := c :: (slashText slashes ++ pending) }

/-- The closing bracket of a tag that ends at the current position. -/
def Scanner.closeTag (s : Scanner) (slashes : Nat) (inner : List Char) : Scanner :=
  let start := s.position - (slashes + 1 + inner.length)
  let kept := if slashes / 2 = 0 then [] else [Piece.text (slashText (slashes / 2))]
  -- An odd backslash takes the meaning away.
  let last :=
    if slashes % 2 = 1 then Piece.text ('[' :: inner.reverse ++ [']'])
    else .tag (start + slashes / 2 * 2) inner.reverse
  { s with scan := .between 0, pending := [], pieces := last :: (kept ++ s.flushed) }

/-- One character. -/
def Scanner.step (s : Scanner) (c : Char) : Scanner :=
  let next :=
    match s.scan with
    | .between slashes => s.plainStep slashes s.pending c
    | .opening slashes =>
      if startsTag c then { s with scan := .inside slashes [c] }
      else s.plainStep 0 ('[' :: (slashText slashes ++ s.pending)) c
    | .inside slashes inner =>
      if c = ']' then s.closeTag slashes inner
      else if c = '[' then
        -- no tag after all; the backslashes at its end belong to the new bracket
        let behind := (inner.takeWhile (· == '\\')).length
        { s with
          scan := .opening behind
          pending := inner.drop behind ++ '[' :: (slashText slashes ++ s.pending) }
      else { s with scan := .inside slashes (c :: inner) }
  { next with position := s.position + 1 }

/-- The pieces once the text has ended. -/
def Scanner.finish (s : Scanner) : List Piece :=
  let pending :=
    match s.scan with
    | .between slashes => slashText slashes ++ s.pending
    | .opening slashes => '[' :: (slashText slashes ++ s.pending)
    | .inside slashes inner => inner ++ '[' :: (slashText slashes ++ s.pending)
  (Scanner.flushed { s with pending := pending }).reverse

/-- The pieces of a marked-up text. -/
def pieces (cs : List Char) : List Piece := (cs.foldl Scanner.step {}).finish

/-! ### Tags -/

/-- The part of a tag before its equals sign. -/
def namePart (inner : List Char) : List Char := inner.takeWhile (· != '=')

/-! ### Showing -/

/-- Close the last open tag of a name. -/
def closeNamed (name : String) : List String → Option (List String)
  | [] => none
  | t :: ts => if t = name then some ts else (closeNamed name ts).map (t :: ·)

/-- A tag that does not match any open one. -/
def unmatched (position : Nat) (inner : List Char) : Fault :=
  .plain .markup ("closing tag '[" ++ String.ofList inner ++ "]' at position " ++
    toString position ++ " doesn't match any open tag")

/-- A tag without a name where none is open. -/
def nothingToClose (position : Nat) : Fault :=
  .plain .markup ("closing tag '[/]' at position " ++ toString position ++ " has nothing to close")

/-- The open tags after one more tag, the last one first. -/
def applyTag (stack : List String) (position : Nat) (inner : List Char) :
    Except Fault (List String) := do
  match namePart inner with
  | '/' :: name =>
    match Text.stripBlanks name, stack with
    | [], [] => .error (nothingToClose position)
    | [], _ :: rest => .ok rest
    | name, stack =>
      match closeNamed (← Look.normalForm name) stack with
      | some rest => .ok rest
      | none => .error (unmatched position inner)
  | name => return (← Look.normalForm name) :: stack

/-- The text that pieces show, `stack` holding the open tags. -/
def shownFrom (stack : List String) : List Piece → Except Fault (List Char)
  | [] => .ok []
  -- Codes are replaced in each piece by itself, so none reaches across a tag.
  | .text cs :: rest => do return Emoji.replace cs ++ (← shownFrom stack rest)
  | .tag position inner :: rest => do shownFrom (← applyTag stack position inner) rest

/-- The text that a marked-up text shows. -/
def shown (cs : List Char) : Except Fault (List Char) := shownFrom [] (pieces cs)

/-! ### Lines -/

/-- Does the character control the terminal in a way that is left out? -/
def isControl (c : Char) : Bool :=
  c.toNat = 7 || c.toNat = 8 || c.toNat = 11 || c.toNat = 12 || c.toNat = 13

/-- A line with its tabs as blanks up to the next multiple of eight; `column` is
    where the text begins. -/
def expandTabs (column : Nat) : List Char → List Char
  | [] => []
  | '\t' :: cs =>
    let width := 8 - column % 8
    List.replicate width ' ' ++ expandTabs (column + width) cs
  | c :: cs => c :: expandTabs (column + Text.width c) cs

/-- A line without the blanks at its end. -/
def trimEnd (cs : List Char) : List Char := (cs.reverse.dropWhile Text.isBlank).reverse

/-- The lines that a marked-up text is printed as. -/
def printed (markup : String) : Except Fault (List String) := do
  let text ← shown markup.toList
  return (Text.cutAt '\n' (text.filter fun c => !isControl c)).map fun line =>
    String.ofList (trimEnd (expandTabs 0 line))

end SinkPipeline.Markup
