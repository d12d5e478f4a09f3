import SinkPipeline.Json.Basic
import SinkPipeline.Number.Format
import SinkPipeline.Text.Quoted

/-! # Writing JSON

  JSON text in printable ASCII: a character outside it, and the quote and the
  backslash, are written as the short escapes or as `\uXXXX`, with a surrogate
  pair for a character beyond the basic plane.  A style fixes the separators
  and whether members are sorted by name.
-/

namespace SinkPipeline.Json

/-- The choices that JSON text leaves open. -/
structure Style where
  /-- Between two items or members. -/
  comma : String
  /-- Between the name of a member and its value. -/
  colon : String
  /-- Are members written in the order of their names? -/
  sorted : Bool

/-- A blank after commas and colons, members as they come. -/
def spaced : Style := ⟨", ", ": ", false⟩

/-- A blank after commas and colons, members in the order of their names. -/
def spacedSorted : Style := ⟨", ", ": ", true⟩

/-- No blanks at all. -/
def compact : Style := ⟨",", ":", false⟩

/-- A `\uXXXX` escape. -/
def unicodeEscape (n : Nat) : List Char := '\\' :: 'u' :: Text.hexDigits 4 n

/-- One code point inside a string. -/
def escapePoint (n : Nat) : List Char :=
  if n = 0x22 then ['\\', '"']
  else if n = 0x5C then ['\\', '\\']
  else if n = 0x0A then ['\\', 'n']
  else if n = 0x0D then ['\\', 'r']
  else if n = 0x09 then ['\\', 't']
  else if n = 0x08 then ['\\', 'b']
  else if n = 0x0C then ['\\', 'f']
  else if 0x20 ≤ n ∧ n < 0x7F then [Char.ofNat n]
  else if n < 0x10000 then unicodeEscape n
  else
    unicodeEscape (0xD800 + (n - 0x10000) / 1024) ++ unicodeEscape (0xDC00 + (n - 0x10000) % 1024)

/-- A string between its quotes. -/
def writeText (t : Text) : List Char := '"' :: t.flatMap (fun p => escapePoint p.toNat) ++ ['"']

/-- A string between its quotes. -/
def writeString (s : String) : List Char := writeText (Text.ofHeld s)

/-- Texts with a separator between them. -/
def joinWith (sep : List Char) : List (List Char) → List Char
  | [] => []
  | x :: xs => x ++ xs.flatMap (sep ++ ·)

/-- Written members in the order that the style asks for. -/
def orderMembers (st : Style) (ms : List (String × List Char)) : List (String × List Char) :=
  if st.sorted then ms.mergeSort (fun a b => a.1 ≤ b.1) else ms

mutual

/-- A value. -/
def write (st : Style) : Json → List Char
  | .null => ['n', 'u', 'l', 'l']
  | .bool true => ['t', 'r', 'u', 'e']
  | .bool false => ['f', 'a', 'l', 's', 'e']
  | .int n => (toString n).toList
  | .float x => (Number.shortestText Number.jsonNames x).toList
  | .str s => writeString s
  | .halves t => writeText t
  | .arr items => '[' :: joinWith st.comma.toList (writeItems st items) ++ [']']
  | .obj ms =>
    let parts := (orderMembers st (writeMembers st ms)).map fun p =>
      writeString p.1 ++ st.colon.toList ++ p.2
    '\x7b' :: joinWith st.comma.toList parts ++ ['\x7d']

/-- Each item of an array. -/
def writeItems (st : Style) : List Json → List (List Char)
  | [] => []
  | v :: vs => write st v :: writeItems st vs

/-- The value of each member of an object, with its name. -/
def writeMembers (st : Style) : List (String × Json) → List (String × List Char)
  | [] => []
  | (name, v) :: ms => (name, write st v) :: writeMembers st ms

end

/-- The text of a value. -/
def render (st : Style) (v : Json) : String := String.ofList (write st v)

end SinkPipeline.Json
