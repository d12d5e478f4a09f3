import SinkPipeline.Pattern.Reader

/-! # Globs

  A glob is cut into pieces and each piece is spelled as pattern text: `**/`
  for any directories or none, other `**` for any text within a line, `*` and
  `?` for text and one character without a slash, a bracket for a set (with a
  leading `!`, for a set turned round that also leaves out the slash), braces
  and commas for alternatives.  A `[` without a later `]` is an ordinary
  character, and so are a comma and a closing brace outside braces.

  The inside of a bracket is not interpreted here: whatever it spells is read
  as part of the pattern text.
-/

namespace SinkPipeline.Pattern

/-- A piece of a glob. -/
inductive Piece where
  /-- An ordinary character. -/
  | char (c : Char)
  /-- `?` -/
  | question
  /-- `*` -/
  | star
  /-- `**/` -/
  | directories
  /-- `**` without a slash behind it. -/
  | doubleStar
  /-- A bracket and what it holds. -/
  | bracket (body : List Char)
  /-- An opening brace. -/
  | openBrace
  /-- A comma. -/
  | comma
  /-- A closing brace. -/
  | closeBrace
  deriving DecidableEq, Repr

/-- The pieces of a glob. -/
def pieces : List Char → List Piece
  | [] => []
  -- The longest form comes first.
  | '*' :: '*' :: '/' :: cs => .directories :: pieces cs
  | '*' :: '*' :: cs => .doubleStar :: pieces cs
  | '*' :: cs => .star :: pieces cs
  | '?' :: cs => .question :: pieces cs
  | '[' :: cs =>
    if ']' ∈ cs then .bracket (cs.takeWhile (· != ']')) :: pieces (cs.dropWhile (· != ']')).tail
    else .char '[' :: pieces cs
  | '\x7b' :: cs => .openBrace :: pieces cs
  | ',' :: cs => .comma :: pieces cs
  | '\x7d' :: cs => .closeBrace :: pieces cs
  | c :: cs => .char c :: pieces cs
termination_by cs => cs.length
decreasing_by
  all_goals simp_wf
  all_goals try omega
  have := (List.dropWhile_sublist (fun x : Char => x != ']') (l := cs)).length_le
  omega

/-- The characters that have a meaning in pattern text. -/
def isSpecial (c : Char) : Bool :=
  c ∈ ['(', ')', '[', ']', '\x7b', '\x7d', '?', '*', '+', '-', '|', '^', '$', '\\', '.', '&', '~',
    '#', ' ', '\t', '\n', '\r', '\x0b', '\x0c']

/-- A character that stands for itself, as pattern text. -/
def escape (c : Char) : List Char := if isSpecial c then ['\\', c] else [c]

/-- The inside of a bracket as pattern text. -/
def bracketBody : List Char → List Char
  | '!' :: cs => '^' :: '/' :: cs
  | cs => cs

/-- A piece as pattern text, inside `depth` open braces. -/
def spell (depth : Nat) : Piece → List Char
  | .char c => escape c
  | .question => ['[', '^', '/', ']']
  | .star => ['[', '^', '/', ']', '*']
  -- The dot stops at a line feed, which a set without a slash does not.
  | .directories => ['(', '?', ':', '.', '*', '/', ')', '?']
  | .doubleStar => ['.', '*']
  | .bracket body => '[' :: bracketBody body ++ [']']
  | .openBrace => ['(', '?', ':']
  | .comma => if depth = 0 then escape ',' else ['|']
  | .closeBrace => if depth = 0 then escape '\x7d' else [')']

/-- How many braces are open after a piece. -/
def depthAfter (depth : Nat) : Piece → Nat
  | .openBrace => depth + 1
  | .closeBrace => depth - 1
  | _ => depth

/-- The pieces as pattern text, inside `depth` open braces. -/
def spellAll (depth : Nat) : List Piece → List Char
  | [] => []
  | p :: ps => spell depth p ++ spellAll (depthAfter depth p) ps

/-- The pattern text of a glob behind a prefix that stands for itself. -/
def globText (stem glob : List Char) : List Char :=
  stem.flatMap escape ++ spellAll 0 (pieces glob) ++ ['\\', 'Z']

/-- The expression of a glob behind a prefix that stands for itself. -/
def ofGlob (stem glob : String) : Except Fault Expr := ofChars (globText stem.toList glob.toList)

/-- Does the path match? -/
def Expr.accepts (e : Expr) (path : String) : Bool := e.isMatch path.toList

end SinkPipeline.Pattern
