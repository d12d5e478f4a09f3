import SinkPipeline.Json.Token

/-! # Reading JSON

  The reader goes through the tokens once, with the arrays and objects that are
  still open on a stack.  Reading fails in one of three ways: the text is
  **malformed**, a whole number has more digits than are read, or arrays and
  objects are nested too deeply.  Of two faults the one further left counts.
-/

namespace SinkPipeline.Json

/-- Why a text could not be read. -/
inductive ReadError where
  /-- The text is not JSON. -/
  | malformed
  /-- A whole number of this many digits. -/
  | hugeInteger (digits : Nat)
  /-- An array or object inside too many others. -/
  | tooDeep (isArray : Bool)
  deriving DecidableEq, Repr

/-- At most this many arrays and objects may be open at once. -/
def maxDepth : Nat := 960

/-- An array or object that is still open, what it holds so far in reverse. -/
inductive Frame where
  /-- An array. -/
  | array (done : List Json)
  /-- An object whose member `key` is being read. -/
  | object (done : List (String × Json)) (key : String)

/-- What may come next. -/
inductive Expect where
  /-- A value. -/
  | value
  /-- A value or the end of the array just opened. -/
  | firstItem
  /-- A member name or the end of the object just opened. -/
  | firstName (members : List (String × Json))
  /-- A member name. -/
  | name (members : List (String × Json))
  /-- The colon after a member name. -/
  | colon (members : List (String × Json)) (key : String)
  /-- What follows a value: a comma or the end of what is open. -/
  | after (v : Json)

/-- The reader between two tokens. -/
structure Reading where
  /-- What is open, innermost first. -/
  stack : List Frame := []
  /-- How many are open. -/
  depth : Nat := 0
  /-- What may come next. -/
  expect : Expect := .value

/-- Begin a value with one token. -/
def beginValue (r : Reading) : Token → Except ReadError Reading
  | .value v => .ok { r with expect := .after v }
  | .string t => .ok { r with expect := .after (.ofText t) }
  | .hugeInteger n => .error (.hugeInteger n)
  | .openArray =>
    if maxDepth ≤ r.depth then .error (.tooDeep true)
    else .ok ⟨.array [] :: r.stack, r.depth + 1, .firstItem⟩
  | .openObject =>
    if maxDepth ≤ r.depth then .error (.tooDeep false)
    else .ok ⟨r.stack, r.depth + 1, .firstName []⟩
  | _ => .error .malformed

/-- One token. -/
def readStep (r : Reading) (t : Token) : Except ReadError Reading :=
  match r.expect with
  | .value => beginValue r t
  | .firstItem =>
    match t, r.stack with
    | .closeArray, .array done :: stack => .ok ⟨stack, r.depth - 1, .after (.arr done.reverse)⟩
    | t, _ => beginValue r t
  | .firstName members =>
    match t with
    | .closeObject => .ok ⟨r.stack, r.depth - 1, .after (.obj [])⟩
    | .string key => .ok { r with expect := .colon members (Text.hold key) }
    | _ => .error .malformed
  | .name members =>
    match t with
    | .string key => .ok { r with expect := .colon members (Text.hold key) }
    | _ => .error .malformed
  | .colon members key =>
    match t with
    | .colon => .ok { r with stack := .object members key :: r.stack, expect := .value }
    | _ => .error .malformed
  | .after v =>
    match t, r.stack with
    | .comma, .array done :: stack => .ok ⟨.array (v :: done) :: stack, r.depth, .value⟩
    | .closeArray, .array done :: stack =>
      .ok ⟨stack, r.depth - 1, .after (.arr (v :: done).reverse)⟩
    | .comma, .object members key :: stack => .ok ⟨stack, r.depth, .name ((key, v) :: members)⟩
    -- Of two members of one name the last counts.
    | .closeObject, .object members key :: stack =>
      .ok ⟨stack, r.depth - 1, .after (.obj (Fields.ofPairs ((key, v) :: members).reverse))⟩
    | _, _ => .error .malformed

/-- The value read when the text ends here. -/
def readEnd (r : Reading) : Except ReadError Json :=
  match r.expect, r.stack with
  | .after v, [] => .ok v
  | _, _ => .error .malformed

/-- The value of a sequence of tokens. -/
def readTokens (ts : List Token) : Except ReadError Json :=
  ts.foldlM readStep {} >>= readEnd

/-- The value of a JSON text. -/
def read (s : String) : Except ReadError Json := readTokens (tokens s.toList)

/-- The value of a JSON text, if it is one. -/
def read? (s : String) : Option Json := (read s).toOption

end SinkPipeline.Json
