import SinkPipeline.Number.Binary
import SinkPipeline.Text.Blank

/-! # Reading numbers

  Numbers that people write: a sign, digits with or without a point, an
  exponent, or `inf`, `infinity` and `nan` in any case.  The value is the
  nearest double.

  Around a number there may be blanks.  Inside one, single underscores may stand
  anywhere but at the ends.
-/

namespace SinkPipeline.Number

/-- The digits at the front of a text, and the rest. -/
def digitsAtFront (cs : List Char) : List Char × List Char := cs.span Char.isDigit

/-- The value of ASCII digits. -/
def valueOf (ds : List Char) : Nat := ds.foldl (fun n d => n * 10 + (d.toNat - 48)) 0

/-- The sign at the front of a text, true for minus, and the rest. -/
def signAtFront : List Char → Bool × List Char
  | '-' :: cs => (true, cs)
  | '+' :: cs => (false, cs)
  | cs => (false, cs)

/-- An exponent, or nothing at all, up to the end of the text. -/
def exponentToEnd : List Char → Option Int
  | [] => some 0
  | e :: cs =>
    if e = 'e' ∨ e = 'E' then
      let (negative, cs) := signAtFront cs
      match digitsAtFront cs with
      | (d :: ds, []) => some (if negative then -(valueOf (d :: ds) : Int) else valueOf (d :: ds))
      | _ => none
    else none

/-- The value of digits, with or without a point and an exponent. -/
def decimalToEnd (negative : Bool) (cs : List Char) : Option Float := do
  let (whole, rest) := digitsAtFront cs
  let (places, rest) := match rest with
    | '.' :: rest => digitsAtFront rest
    | rest => ([], rest)
  guard (whole ≠ [] ∨ places ≠ [])
  let e ← exponentToEnd rest
  return ofDecimal negative (valueOf (whole ++ places)) (e - places.length)

/-- A letter of ASCII as a small one. -/
def smallLetter (c : Char) : Char := if c.isUpper then Char.ofNat (c.toNat + 32) else c

/-- The value of a number's text. -/
def readPlain (cs : List Char) : Option Float :=
  let (negative, body) := signAtFront cs
  let sign : Float := if negative then -1.0 else 1.0
  match String.ofList (body.map smallLetter) with
  | "inf" | "infinity" => some (sign / 0.0)
  | "nan" => some (0.0 / 0.0)
  | _ => decimalToEnd negative body

/-- Is the character white space?  The information separators are not. -/
def isSpace (c : Char) : Bool := Text.isBlank c && !(28 ≤ c.toNat && c.toNat ≤ 31)

/-- A text without the white space at its two ends. -/
def withoutEnds (cs : List Char) : List Char :=
  ((cs.dropWhile isSpace).reverse.dropWhile isSpace).reverse

/-! ### Underscores -/

/-- Do two underscores stand side by side? -/
def hasDoubleUnderscore : List Char → Bool
  | '_' :: '_' :: _ => true
  | _ :: cs => hasDoubleUnderscore cs
  | [] => false

/-- The text without its underscores, if there are any and they stand where they
    may. -/
def withoutUnderscores (cs : List Char) : Option (List Char) :=
  if cs.head? = some '_' ∨ cs.getLast? = some '_' ∨ '_' ∉ cs ∨ hasDoubleUnderscore cs then none
  else some (cs.filter (· != '_'))

/-! ### Numbers -/

/-- The value of a number.  Blanks may stand around it, or underscores inside,
    but not both. -/
def readNumber (s : String) : Option Float :=
  match readPlain (withoutEnds s.toList) with
  | some x => some x
  | none => (withoutUnderscores s.toList).bind readPlain

/-! ### Whole numbers -/

/-- The most digits of a whole number. -/
def maxWholeDigits : Nat := 4300

/-- The value of a whole number as it is usually written: a minus sign or none,
    and digits that do not begin with a zero unless it is the only one. -/
def readUsual (cs : List Char) : Option Int :=
  let (negative, ds) := match cs with
    | '-' :: ds => (true, ds)
    | ds => (false, ds)
  if ds = [] ∨ !ds.all Char.isDigit ∨ (ds.head? = some '0' ∧ ds ≠ ['0']) ∨ maxWholeDigits < ds.length
  then none
  else some (if negative then -(valueOf ds : Int) else valueOf ds)

/-- The text without the plus sign in front of it; a minus sign may not follow. -/
def withoutPlus : List Char → Option (List Char)
  | '+' :: '-' :: _ => none
  | '+' :: cs => some cs
  | cs => some cs

/-- Is the character a digit other than zero? -/
def isHighDigit (c : Char) : Bool := '1' ≤ c && c ≤ '9'

/-- What is left behind leading zeros, of which `last` is the last.  Underscores
    may stand among them; before a point one character stays. -/
def behindZeros (last : Char) : List Char → Option (List Char)
  | [] => some [last]
  | c :: cs =>
    if c = '0' ∨ c = '_' then behindZeros c cs
    else if isHighDigit c then some (c :: cs)
    else if c = '.' then some (last :: c :: cs)
    else none

/-- A number without its leading zeros. -/
def withoutZeros : List Char → Option (List Char)
  | [] => none
  | c :: cs =>
    if c = '0' then behindZeros c cs
    else if isHighDigit c || c == '-' then some (c :: cs)
    else none

/-- A number without its places, if they are all zero. -/
def withoutPlaces (cs : List Char) : List Char :=
  match cs.span (· != '.') with
  | (whole, _ :: places) => if places.all (· == '0') then whole else cs
  | (whole, []) => whole

/-- A whole number as it is usually written, made from one with blanks around it,
    a plus sign, leading zeros, a point and zeros behind it, or underscores. -/
def usualForm (cs : List Char) : Option (List Char) := do
  let body := withoutPlaces (← withoutZeros (← withoutPlus (withoutEnds cs)))
  return (withoutUnderscores body).getD body

/-- The value of a whole number. -/
def readWhole (s : String) : Option Int :=
  match readUsual s.toList with
  | some n => some n
  | none => (usualForm s.toList).bind readUsual

end SinkPipeline.Number
