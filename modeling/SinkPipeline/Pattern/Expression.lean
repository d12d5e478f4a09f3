import SinkPipeline.Pattern.CharSet

/-! # Pattern expressions

  Regular expressions over character sets, matched by **derivatives**: the
  derivative by a character is the expression of what may follow it, and a text
  matches when the expression left after its last character allows the empty
  text.  The constructors `union` and `chain` simplify as they build, so the
  derivatives of a pattern stay few.
-/

namespace SinkPipeline.Pattern

/-- A regular expression. -/
inductive Expr where
  /-- Nothing matches. -/
  | never
  /-- The empty text. -/
  | empty
  /-- One character of a set. -/
  | one (s : CharSet)
  /-- The first, then the second. -/
  | seq (a b : Expr)
  /-- One of the two. -/
  | either (a b : Expr)
  /-- Any number of times. -/
  | many (a : Expr)
  deriving DecidableEq, Repr

namespace Expr

/-- Does the empty text match? -/
def nullable : Expr → Bool
  | .never => false
  | .empty => true
  | .one _ => false
  | .seq a b => a.nullable && b.nullable
  | .either a b => a.nullable || b.nullable
  | .many _ => true

/-- Is `a` one of the alternatives of an expression? -/
def isAlternative (a : Expr) : Expr → Bool
  | .either b c => a == b || isAlternative a c
  | b => a == b

/-- One of the two, without alternatives that are there already. -/
def union : Expr → Expr → Expr
  | .never, b => b
  -- Alternatives lean to the right, so that looking for one goes down a list.
  | .either a c, b => union a (union c b)
  | a, b => if b = .never then a else if isAlternative a b then b else .either a b

/-- The first, then the second. -/
def chain : Expr → Expr → Expr
  | .never, _ => .never
  | .empty, b => b
  | a, b => .seq a b

/-- What may follow a character. -/
def derive (c : Char) : Expr → Expr
  | .never => .never
  | .empty => .never
  | .one s => if s.contains c then .empty else .never
  | .seq a b =>
    if a.nullable then union (chain (a.derive c) b) (b.derive c) else chain (a.derive c) b
  | .either a b => union (a.derive c) (b.derive c)
  | .many a => chain (a.derive c) (.many a)

/-- Does the whole text match? -/
def isMatch (e : Expr) (cs : List Char) : Bool := (cs.foldl (fun e c => e.derive c) e).nullable

/-- Optional. -/
def optional (a : Expr) : Expr := .either a .empty

/-- Any text at all. -/
def anything : Expr := .many (.one .all)

/-! ### Meaning -/

/-- The texts that an expression matches. -/
inductive Matches : Expr → List Char → Prop where
  /-- The empty text. -/
  | empty : Matches .empty []
  /-- One character of a set. -/
  | one {s c} : s.contains c = true → Matches (.one s) [c]
  /-- One text after another. -/
  | seq {a b u v} : Matches a u → Matches b v → Matches (.seq a b) (u ++ v)
  /-- The first alternative. -/
  | left {a b u} : Matches a u → Matches (.either a b) u
  /-- The second alternative. -/
  | right {a b u} : Matches b u → Matches (.either a b) u
  /-- No repetition. -/
  | done {a} : Matches (.many a) []
  /-- One repetition more. -/
  | more {a u v} : Matches a u → Matches (.many a) v → Matches (.many a) (u ++ v)

end Expr

end SinkPipeline.Pattern
