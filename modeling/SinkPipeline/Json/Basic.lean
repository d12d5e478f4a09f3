import SinkPipeline.Text.CodePoint

/-! # JSON values

  The dynamic values of the library: what a record of a multi-output stream
  holds, what a caller attaches to a run as context, and what a log record
  carries.  Whole numbers and floating-point numbers are apart, the members of
  an object keep their order, and a string with a lone surrogate has a
  constructor of its own, so that an ordinary string is a `String`.
-/

namespace SinkPipeline

/-- A JSON value. -/
inductive Json where
  /-- The null value. -/
  | null
  /-- A truth value. -/
  | bool (b : Bool)
  /-- A number without fraction and exponent. -/
  | int (n : Int)
  /-- Any other number. -/
  | float (x : Float)
  /-- A string of Unicode scalar values. -/
  | str (s : String)
  /-- A string that holds a lone surrogate. -/
  | halves (t : Text)
  /-- An array. -/
  | arr (items : List Json)
  /-- An object, its members in order. -/
  | obj (members : List (String × Json))
  deriving Inhabited

/-- Named values in order, each name at most once. -/
abbrev Fields : Type := List (String × Json)

namespace Fields

/-- The value of a name. -/
def get? : Fields → String → Option Json
  | [], _ => none
  | (n, v) :: rest, name => if n = name then some v else get? rest name

/-- Is the name there? -/
def has (fs : Fields) (name : String) : Bool := fs.any (·.1 == name)

/-- Give a name a value: in its place if it is there, else at the end. -/
def set : Fields → String → Json → Fields
  | [], name, v => [(name, v)]
  | (n, w) :: rest, name, v => if n = name then (n, v) :: rest else (n, w) :: set rest name v

/-- Without a name. -/
def without (fs : Fields) (name : String) : Fields := fs.filter (·.1 != name)

/-- Set every name of the second, in order. -/
def update (fs more : Fields) : Fields := more.foldl (fun acc p => acc.set p.1 p.2) fs

/-- The members of an object as they were written: of a repeated name the last
    value counts, in the first place. -/
def ofPairs (ps : List (String × Json)) : Fields := update [] ps

end Fields

namespace Json

/-- The string of a text: an ordinary one where possible. -/
def ofText (t : Text) : Json :=
  match t.toString? with
  | some s => .str s
  | none => .halves t

/-- The value, if it is not null. -/
def nonNull? : Json → Option Json
  | .null => none
  | v => some v

/-- Null for nothing. -/
def ofOption : Option Json → Json
  | some v => v
  | none => .null

/-- The string, if the value is one, with stand-ins for lone surrogates. -/
def str? : Json → Option String
  | .str s => some s
  | .halves t => some (Text.hold t)
  | _ => none

/-- The text, if the value is a string. -/
def text? : Json → Option Text
  | .str s => some (Text.ofString s)
  | .halves t => some t
  | _ => none

/-- The members, if the value is an object. -/
def members? : Json → Option Fields
  | .obj ms => some ms
  | _ => none

/-- The member of a name, if the value is an object with one. -/
def member? (v : Json) (name : String) : Option Json :=
  match v with
  | .obj ms => Fields.get? ms name
  | _ => none

/-- Does the value count as true?  Null, false, zero, and whatever is empty do
    not. -/
def isTruthy : Json → Bool
  | .null => false
  | .bool b => b
  | .int n => n ≠ 0
  | .float x => x != 0.0
  | .str s => s ≠ ""
  | .halves _ => true
  | .arr items => !items.isEmpty
  | .obj ms => !ms.isEmpty

/-- An array of strings. -/
def strings (xs : List String) : Json := .arr (xs.map .str)

end Json

/-! ### Laws -/

namespace Fields

/-- A name that was just set has the value given; every other one keeps its
    own. -/
theorem get?_set (fs : Fields) (name other : String) (v : Json) :
    (fs.set name v).get? other = if other = name then some v else fs.get? other := by
  induction fs with
  | nil => simp [set, get?, eq_comm]
  | cons p fs ih =>
    obtain ⟨n, w⟩ := p
    by_cases hn : n = name
    · subst hn
      by_cases ho : n = other
      · simp [set, get?, ho]
      · simp [set, get?, ho, Ne.symm ho]
    · by_cases ho : n = other
      · subst ho
        simp [set, get?, hn]
      · simp [set, get?, hn, ho, ih]

end Fields

end SinkPipeline
