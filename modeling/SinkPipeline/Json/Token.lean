import SinkPipeline.Json.Basic
import SinkPipeline.Number.Binary
import SinkPipeline.Text.Hex

/-! # Tokens of JSON text

  The scanner takes one character at a time and keeps what it needs of the
  past in a state, so it accepts its input in pieces of any size.  It gives up
  at the first character that no token allows: `Token.bad` is then the last
  token.

  Only blank, tab, line feed and carriage return separate tokens; a string
  holds no control character; digits are those of ASCII.  `NaN`, `Infinity` and
  `-Infinity` are numbers.
-/

namespace SinkPipeline.Json

/-- A token. -/
inductive Token where
  /-- `[` -/
  | openArray
  /-- `]` -/
  | closeArray
  /-- An opening brace. -/
  | openObject
  /-- A closing brace. -/
  | closeObject
  /-- `,` -/
  | comma
  /-- `:` -/
  | colon
  /-- A word or a number. -/
  | value (v : Json)
  /-- A string. -/
  | string (t : Text)
  /-- A whole number of more digits than are read. -/
  | hugeInteger (digits : Nat)
  /-- Something that is no token. -/
  | bad

/-- Whole numbers of more digits than this are refused. -/
def maxIntegerDigits : Nat := 4300

/-! ### Words and numbers -/

/-- The value of a run of ASCII digits. -/
def digitsValue (ds : List Char) : Nat := ds.foldl (fun n d => n * 10 + (d.toNat - 48)) 0

/-- The digits at the front of a run, and the rest. -/
def spanDigits (cs : List Char) : List Char × List Char := cs.span Char.isDigit

/-- The integer part of a number: a single zero, or digits that do not start
    with one. -/
def integerPart (cs : List Char) : Option (List Char × List Char) :=
  match cs with
  | '0' :: rest => some (['0'], rest)
  | c :: _ => if c.isDigit then some (spanDigits cs) else none
  | [] => none

/-- The fraction of a number, if one starts here. -/
def fractionPart (cs : List Char) : Option (List Char × List Char) :=
  match cs with
  | '.' :: rest =>
    match spanDigits rest with
    | ([], _) => none
    | (ds, rest) => some (ds, rest)
  | _ => none

/-- The exponent of a number, if one starts here. -/
def exponentPart (cs : List Char) : Option (Int × List Char) :=
  match cs with
  | e :: rest =>
    if e = 'e' ∨ e = 'E' then
      let (negative, rest) :=
        match rest with
        | '-' :: rest => (true, rest)
        | '+' :: rest => (false, rest)
        | rest => (false, rest)
      match spanDigits rest with
      | ([], _) => none
      | (ds, rest) => some (if negative then -(digitsValue ds : Int) else digitsValue ds, rest)
    else none
  | [] => none

/-- What stands after the longest number at the front is no token. -/
def thenBad : List Char → List Token
  | [] => []
  | _ :: _ => [.bad]

/-- A run that starts like a number. -/
def numberTokens (negative : Bool) (cs : List Char) : List Token :=
  match integerPart cs with
  | none => [.bad]
  | some (whole, rest) =>
    let fraction := fractionPart rest
    let afterFraction := (fraction.map (·.2)).getD rest
    let exponent := exponentPart afterFraction
    let afterExponent := (exponent.map (·.2)).getD afterFraction
    match fraction, exponent with
    | none, none =>
      if maxIntegerDigits < whole.length then .hugeInteger whole.length :: thenBad rest
      else
        let n : Int := digitsValue whole
        .value (.int (if negative then -n else n)) :: thenBad rest
    | _, _ =>
      let places := (fraction.map (·.1)).getD []
      let e := (exponent.map (·.1)).getD 0
      .value (.float (Number.ofDecimal negative (digitsValue (whole ++ places)) (e - places.length)))
        :: thenBad afterExponent

/-- A run of letters, digits, signs and points. -/
def wordTokens (cs : List Char) : List Token :=
  match String.ofList cs with
  | "null" => [.value .null]
  | "true" => [.value (.bool true)]
  | "false" => [.value (.bool false)]
  | "NaN" => [.value (.float (0.0 / 0.0))]
  | "Infinity" => [.value (.float (1.0 / 0.0))]
  | "-Infinity" => [.value (.float (-1.0 / 0.0))]
  | _ =>
    match cs with
    | '-' :: rest => numberTokens true rest
    | _ => numberTokens false cs

/-! ### The scanner -/

/-- What the scanner has begun. -/
inductive Scan where
  /-- Between tokens. -/
  | between
  /-- In a word or number, its characters in reverse. -/
  | word (acc : List Char)
  /-- In a string, its code points in reverse. -/
  | string (acc : Text)
  /-- After a backslash in a string. -/
  | escape (acc : Text)
  /-- In a `\u` escape with `left + 1` digits to come. -/
  | hex (acc : Text) (left : Nat) (value : Nat)
  /-- After something that is no token. -/
  | stopped

/-- Can the character stand in a word or number? -/
def isWordChar (c : Char) : Bool := c.isAlphanum || c == '+' || c == '-' || c == '.'

/-- The character that a one-letter escape means. -/
def shortEscape? : Char → Option Char
  | '"' => some '"'
  | '\\' => some '\\'
  | '/' => some '/'
  | 'b' => some '\x08'
  | 'f' => some '\x0c'
  | 'n' => some '\n'
  | 'r' => some '\r'
  | 't' => some '\t'
  | _ => none

/-- A character between tokens. -/
def scanBetween (c : Char) : Scan × List Token :=
  match c with
  | ' ' | '\t' | '\n' | '\r' => (.between, [])
  | '[' => (.between, [.openArray])
  | ']' => (.between, [.closeArray])
  | '\x7b' => (.between, [.openObject])
  | '\x7d' => (.between, [.closeObject])
  | ',' => (.between, [.comma])
  | ':' => (.between, [.colon])
  | '"' => (.string [], [])
  | c => if isWordChar c then (.word [c], []) else (.stopped, [.bad])

/-- One character: the state after it and the tokens that it completes. -/
def scanStep (s : Scan) (c : Char) : Scan × List Token :=
  match s with
  | .between => scanBetween c
  | .word acc =>
    if isWordChar c then (.word (c :: acc), [])
    else
      -- The character ends the word, and begins what comes next.
      let next := scanBetween c
      (next.1, wordTokens acc.reverse ++ next.2)
  | .string acc =>
    if c = '"' then (.between, [.string acc.reverse])
    else if c = '\\' then (.escape acc, [])
    else if c.toNat < 0x20 then (.stopped, [.bad])
    else (.string (.scalar c :: acc), [])
  | .escape acc =>
    if c = 'u' then (.hex acc 3 0, [])
    else
      match shortEscape? c with
      | some d => (.string (.scalar d :: acc), [])
      | none => (.stopped, [.bad])
  | .hex acc left value =>
    match Text.hexValue? c with
    | none => (.stopped, [.bad])
    | some d =>
      let value := value * 16 + d
      match left with
      | 0 => (.string (Text.pushJoining (.ofNat value) acc), [])
      | left + 1 => (.hex acc left value, [])
  | .stopped => (.stopped, [])

/-- One character, the tokens so far in reverse. -/
def scanFeed (acc : Scan × List Token) (c : Char) : Scan × List Token :=
  let next := scanStep acc.1 c
  (next.1, next.2.reverse ++ acc.2)

/-- The token that the end of the text completes. -/
def scanEnd : Scan → List Token
  | .between => []
  | .word acc => wordTokens acc.reverse
  -- The token that is none has been given already.
  | .stopped => []
  | _ => [.bad]

/-- The tokens of a text. -/
def tokens (cs : List Char) : List Token :=
  let out := cs.foldl scanFeed (.between, [])
  out.2.reverse ++ scanEnd out.1

end SinkPipeline.Json
