import SinkPipeline.Text.Utf8

/-! # Base64

  Four characters of the alphabet stand for three bytes; at the end of the
  text, two or three characters and padding stand for one or two.

  The decoder is **lenient**: it skips whatever is not in the alphabet.  An
  equals sign counts as padding once two characters of a group have been read;
  the sign that fills the group ends the data, and what follows is not looked
  at.  A character of the alphabet takes back the padding before it.
-/

namespace SinkPipeline.Base64

/-- The value of a character of the alphabet. -/
def sextet? (c : Char) : Option Nat :=
  if c.isUpper then some (c.toNat - 65)
  else if c.isLower then some (c.toNat - 71)
  else if c.isDigit then some (c.toNat + 4)
  else if c = '+' then some 62
  else if c = '/' then some 63
  else none

/-- The character of a value below 64. -/
def sextetChar (n : Nat) : Char :=
  if n < 26 then Char.ofNat (65 + n)
  else if n < 52 then Char.ofNat (71 + n)
  else if n < 62 then Char.ofNat (n - 4)
  else if n = 62 then '+'
  else '/'

/-! ### Encoding -/

/-- The characters of a sequence of bytes, with padding. -/
def encode : Bytes → List Char
  | a :: b :: c :: rest =>
    let n := a.toNat * 65536 + b.toNat * 256 + c.toNat
    sextetChar (n / 262144) :: sextetChar (n / 4096 % 64) :: sextetChar (n / 64 % 64)
      :: sextetChar (n % 64) :: encode rest
  | [a, b] =>
    let n := a.toNat * 1024 + b.toNat * 4
    [sextetChar (n / 4096), sextetChar (n / 64 % 64), sextetChar (n % 64), '=']
  | [a] =>
    let n := a.toNat * 16
    [sextetChar (n / 64), sextetChar (n % 64), '=', '=']
  | [] => []

/-! ### Decoding -/

/-- Why a text cannot be decoded. -/
inductive Fault where
  /-- The last group is not filled. -/
  | incorrectPadding
  /-- One character is left over; this many characters of the alphabet were
      read. -/
  | leftoverCharacter (count : Nat)
  /-- The text holds a character outside ASCII. -/
  | notAscii
  deriving DecidableEq, Repr

/-- The wording of a fault. -/
def Fault.message : Fault → String
  | .incorrectPadding => "Incorrect padding"
  | .leftoverCharacter n =>
    "Invalid base64-encoded string: number of data characters (" ++ toString n ++
      ") cannot be 1 more than a multiple of 4"
  | .notAscii => "string argument should contain only ASCII characters"

/-- The decoder between two characters. -/
structure State where
  /-- How many characters of the current group have been read, at most three. -/
  position : Nat := 0
  /-- The bits that have not yet gone into a byte. -/
  pending : Nat := 0
  /-- How many equals signs have counted since the last character. -/
  padding : Nat := 0
  /-- Has padding ended the data? -/
  complete : Bool := false
  /-- The bytes so far, in reverse. -/
  output : Bytes := []
  deriving DecidableEq, Repr

/-- A character of the alphabet. -/
def State.take (s : State) (v : Nat) : State :=
  let s := { s with padding := 0 }
  match s.position with
  | 0 => { s with position := 1, pending := v }
  | 1 => { s with position := 2, pending := v % 16, output := (s.pending * 4 + v / 16).toUInt8 :: s.output }
  | 2 => { s with position := 3, pending := v % 4, output := (s.pending * 16 + v / 4).toUInt8 :: s.output }
  | _ => { s with position := 0, pending := 0, output := (s.pending * 64 + v).toUInt8 :: s.output }

/-- One character. -/
def State.step (s : State) (c : Char) : State :=
  if s.complete then s
  else if c = '=' then
    -- Where no padding can stand, the sign is skipped like any foreign character.
    if 2 ≤ s.position then
      if 4 ≤ s.position + s.padding + 1 then { s with complete := true }
      else { s with padding := s.padding + 1 }
    else s
  else
    match sextet? c with
    | some v => s.take v
    | none => s

/-- The bytes of a text that has been read to its end. -/
def State.finish (s : State) : Except Fault Bytes :=
  if s.complete ∨ s.position = 0 then .ok s.output.reverse
  -- Three bytes have come of four characters, and of the one left over none.
  else if s.position = 1 then .error (.leftoverCharacter (s.output.length / 3 * 4 + 1))
  else .error .incorrectPadding

/-- The bytes of a text. -/
def decode (t : Text) : Except Fault Bytes :=
  match t.toChars? with
  | none => .error .notAscii
  | some cs =>
    if cs.all (·.toNat < 128) then (cs.foldl State.step {}).finish else .error .notAscii

end SinkPipeline.Base64
