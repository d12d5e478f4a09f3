import SinkPipeline.Text.CharacterTable
import SinkPipeline.Text.Cut
import SinkPipeline.Text.Hex
import SinkPipeline.Text.Ranges

/-! # Characters by name

  The code point of a character's name: one of a list, in any case of letters;
  or, in capitals, the name of a Hangul syllable or of an ideograph.  The name
  of a syllable puts the names of its three parts together; the name of an
  ideograph ends in its code point.
-/

namespace SinkPipeline.Text.CharacterName

/-! ### The list -/

/-- A search for a name, given as its words, through the list. -/
structure Search where
  /-- What has been read of the current entry, in reverse. -/
  entry : List Char := []
  /-- The code point of the entry before. -/
  point : Nat := 0
  /-- The words of the name before. -/
  words : List (List Char) := []
  /-- The code point, once it has been found. -/
  found : Option Nat := none

/-- The code point of an entry, `next` unless it gives another one, and the rest
    of the entry. -/
def pointOf (next : Nat) (entry : List Char) : Nat × List Char :=
  match entry.span (· != '=') with
  | (digits, '=' :: rest) => (hexNumber digits, rest)
  | _ => (next, entry)

/-- The words of a name, `before` being those of the name before. -/
def wordsOf (before : List (List Char)) : List Char → List (List Char)
  | [] => []
  | shared :: rest => before.take (shared.toNat - 'a'.toNat) ++ cutAt ' ' rest

/-- End the current entry. -/
def Search.close (wanted : List (List Char)) (s : Search) : Search :=
  let (point, rest) := pointOf (s.point + 1) s.entry.reverse
  let words := wordsOf s.words rest
  ⟨[], point, words, s.found.or (if words = wanted then some point else none)⟩

/-- Read one more character of the list. -/
def Search.step (wanted : List (List Char)) (s : Search) (c : Char) : Search :=
  if c = ';' then s.close wanted
  else if c = '\n' then s
  else { s with entry := c :: s.entry }

/-- The code point of a name in the list, given in capitals. -/
def listed? (name : List Char) : Option Nat :=
  (characterTable.toList.foldl (Search.step (cutAt ' ' name)) {}).found

/-! ### Syllables -/

/-- The names of what Hangul syllables begin with. -/
def initials : List String :=
  ["G", "GG", "N", "D", "DD", "R", "M", "B", "BB", "S", "SS", "", "J", "JJ", "C", "K", "T", "P", "H"]

/-- The names of their vowels. -/
def vowels : List String :=
  ["A", "AE", "YA", "YAE", "EO", "E", "YEO", "YE", "O", "WA", "WAE", "OE", "YO", "U", "WEO", "WE",
    "WI", "YU", "EU", "YI", "I"]

/-- The names of what they end in. -/
def finals : List String :=
  ["", "G", "GG", "GS", "N", "NJ", "NH", "D", "L", "LG", "LM", "LB", "LS", "LT", "LP", "LH", "M", "B",
    "BS", "S", "SS", "NG", "J", "C", "K", "T", "P", "H"]

/-- The longest of some parts that a text begins with: its number, and the text
    behind it. -/
def partAtFront? (parts : List String) (cs : List Char) : Option (Nat × List Char) :=
  let fitting := parts.zipIdx.filter fun p => p.1.toList.isPrefixOf cs
  let longest := fitting.foldl
    (fun (best : Option (String × Nat)) p =>
      match best with
      | some b => if b.1.length < p.1.length then some p else some b
      | none => some p) none
  longest.map fun p => (p.2, cs.drop p.1.length)

/-- The code point of a syllable with the names of its parts. -/
def syllable? (cs : List Char) : Option Nat := do
  let (initial, cs) ← partAtFront? initials cs
  let (vowel, cs) ← partAtFront? vowels cs
  let (final, cs) ← partAtFront? finals cs
  guard (cs = [])
  return 0xAC00 + (initial * vowels.length + vowel) * finals.length + final

/-! ### Ideographs -/

/-- The unified ideographs (Unicode 14.0). -/
def ideographRanges : Ranges :=
  #[(0x3400, 0x4DBF), (0x4E00, 0x9FFF), (0x20000, 0x2A6DF), (0x2A700, 0x2B738), (0x2B740, 0x2B81D),
   (0x2B820, 0x2CEA1), (0x2CEB0, 0x2EBE0), (0x30000, 0x3134A)]

/-- The code point of an ideograph that is given in four or five digits. -/
def ideograph? (ds : List Char) : Option Nat := do
  guard (ds.length = 4 ∨ ds.length = 5)
  guard (ds.all fun c => c.isDigit || ('A' ≤ c && c ≤ 'F'))
  guard (ideographRanges.contains (hexNumber ds))
  return hexNumber ds

/-! ### All names -/

/-- What stands behind a beginning. -/
def behind? (beginning : String) (cs : List Char) : Option (List Char) :=
  if beginning.toList.isPrefixOf cs then some (cs.drop beginning.length) else none

/-- A letter of ASCII in capitals. -/
def capital (c : Char) : Char :=
  if 'a' ≤ c ∧ c ≤ 'z' then Char.ofNat (c.toNat - 32) else c

/-- The code point of the character of a name. -/
def point? (name : List Char) : Option Nat :=
  match behind? "HANGUL SYLLABLE " name, behind? "CJK UNIFIED IDEOGRAPH-" name with
  | some parts, _ => syllable? parts
  | none, some digits => ideograph? digits
  | none, none => listed? (name.map capital)

end SinkPipeline.Text.CharacterName
