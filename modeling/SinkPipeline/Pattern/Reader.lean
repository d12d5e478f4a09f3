import SinkPipeline.Pattern.Expression

/-! # Reading a pattern

  A pattern text is cut into tokens and the tokens are put together with the
  groups that are still open on a stack.  Of two faults in a text the one
  further left counts, so the tokens after a fault are not looked at.

  The text has the few forms that globs are spelled in: escaped and plain
  characters, the dot (any character but a line feed), bracketed sets, groups
  `(?:…)`, the bar, the repetitions `*` and `?`, and the end mark `\Z`.
-/

namespace SinkPipeline.Pattern

/-- A token of a pattern text. -/
inductive Token where
  /-- One character of a set. -/
  | one (s : CharSet)
  /-- The beginning of a group. -/
  | openGroup
  /-- The end of a group. -/
  | closeGroup
  /-- Another alternative. -/
  | bar
  /-- Any number of times. -/
  | star
  /-- At most once. -/
  | question
  /-- The end of the text to match. -/
  | endMark
  /-- Something that is wrong. -/
  | fault (e : Fault)
  deriving DecidableEq, Repr

/-- The first token of a text and what follows it. -/
def nextToken : List Char → Option (Token × List Char)
  | [] => none
  | '\\' :: 'Z' :: cs => some (.endMark, cs)
  | '\\' :: c :: cs => some (.one (.only c), cs)
  | '.' :: cs => some (.one (.allBut '\n'), cs)
  | '*' :: cs => some (.star, cs)
  | '?' :: cs => some (.question, cs)
  | '|' :: cs => some (.bar, cs)
  | ')' :: cs => some (.closeGroup, cs)
  | '(' :: '?' :: ':' :: cs => some (.openGroup, cs)
  | '[' :: cs =>
    match readSet cs with
    | .ok (s, rest) => some (.one s, rest)
    | .error e => some (.fault e, [])
  | c :: cs => some (.one (.only c), cs)

/-- The tokens of a text. -/
def tokens (cs : List Char) : List Token :=
  match nextToken cs with
  | none => []
  -- Every token takes at least one character; the test is there for the recursion.
  | some (t, rest) => if rest.length < cs.length then t :: tokens rest else [t]
termination_by cs.length

/-! ### Putting tokens together -/

/-- A group that is being read: the alternatives before the last bar, and the
    expressions since then in reverse. -/
structure Group where
  /-- The alternatives that are complete. -/
  before : Expr := .never
  /-- The alternative being read, last expression first. -/
  current : List Expr := []
  deriving DecidableEq, Repr

/-- The alternative that a group is in the middle of. -/
def Group.sequence (g : Group) : Expr := g.current.foldl (fun rest e => .seq e rest) .empty

/-- The expression of a group that ends here. -/
def Group.close (g : Group) : Expr :=
  if g.before = .never then g.sequence else .either g.before g.sequence

/-- One more expression at the end of a group. -/
def Group.push (g : Group) (e : Expr) : Group := { g with current := e :: g.current }

/-- A bar: one more alternative is complete.  Outside all groups it ends before
    the end mark, so what follows it in the text to match is free. -/
def Group.bar (g : Group) (outermost : Bool) : Group :=
  let done := if outermost then .seq g.sequence .anything else g.sequence
  ⟨if g.before = .never then done else .either g.before done, []⟩

/-- The groups that are open, innermost first: the outermost one is apart. -/
structure Assembly where
  /-- What stands outside all groups. -/
  outer : Group := {}
  /-- The groups that are open. -/
  inner : List Group := []

/-- Change the innermost group. -/
def Assembly.modify (a : Assembly) (f : Group → Bool → Group) : Assembly :=
  match a.inner with
  | [] => { a with outer := f a.outer true }
  | g :: gs => { a with inner := f g false :: gs }

/-- The innermost group. -/
def Assembly.innermost (a : Assembly) : Group := a.inner.headD a.outer

/-- Repeat the last expression of the innermost group. -/
def Assembly.repeat (a : Assembly) (f : Expr → Expr) : Except Fault Assembly :=
  match a.innermost.current with
  | [] => .error .nothingToRepeat
  | e :: es => .ok (a.modify fun g _ => { g with current := f e :: es })

/-- One token. -/
def assemble (a : Assembly) : Token → Except Fault Assembly
  | .one s => .ok (a.modify fun g _ => g.push (.one s))
  | .openGroup => .ok { a with inner := {} :: a.inner }
  | .closeGroup =>
    match a.inner with
    | [] => .error .unopenedGroup
    | g :: gs => .ok ({ a with inner := gs }.modify fun outer _ => outer.push g.close)
  | .bar => .ok (a.modify fun g outermost => g.bar outermost)
  | .star => a.repeat .many
  | .question => a.repeat .optional
  | .endMark => .ok a
  | .fault e => .error e

/-- The expression of a sequence of tokens. -/
def ofTokens (ts : List Token) : Except Fault Expr := do
  let a ← ts.foldlM assemble {}
  match a.inner with
  | [] => return a.outer.close
  | _ :: _ => throw .unclosedGroup

/-- The expression of a pattern text. -/
def ofChars (cs : List Char) : Except Fault Expr := ofTokens (tokens cs)

end SinkPipeline.Pattern
