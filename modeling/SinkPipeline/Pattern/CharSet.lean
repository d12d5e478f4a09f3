import SinkPipeline.Text.Blank
import SinkPipeline.Text.CharacterName
import SinkPipeline.Text.Quoted
import SinkPipeline.Text.Word

/-! # Character sets

  The inside of a bracket in a path pattern: single characters, ranges, and the
  classes `\d`, `\s` and `\w` with their complements.  A leading `^` turns the
  whole set round.  The first character after the opening bracket is a member
  even if it is `]`.
-/

namespace SinkPipeline.Pattern

/-- A named class of characters. -/
inductive CharClass where
  /-- Decimal digits. -/
  | digit
  /-- Blank characters. -/
  | blank
  /-- Letters, numbers and the underscore. -/
  | word
  deriving DecidableEq, Repr

/-- Does the class hold a code point? -/
def CharClass.contains : CharClass → Nat → Bool
  | .digit, n => Text.isDigitPoint n
  | .blank, n => Text.isBlankPoint n
  | .word, n => Text.isWordPoint n

/-- A member of a set. -/
inductive Member where
  /-- One code point. -/
  | single (n : Nat)
  /-- The code points from `low` to `high`. -/
  | range (low high : Nat)
  /-- A class, or its complement. -/
  | named (cls : CharClass) (complement : Bool)
  deriving DecidableEq, Repr

/-- Does the member hold a code point? -/
def Member.contains : Member → Nat → Bool
  | .single m, n => n == m
  | .range low high, n => low ≤ n && n ≤ high
  | .named cls complement, n => cls.contains n != complement

/-- A set of characters. -/
structure CharSet where
  /-- Are the members the characters that the set leaves out? -/
  negated : Bool
  /-- The members. -/
  members : List Member
  deriving DecidableEq, Repr

namespace CharSet

/-- Does the set hold the character? -/
def contains (s : CharSet) (c : Char) : Bool := s.members.any (·.contains c.toNat) != s.negated

/-- One character alone. -/
def only (c : Char) : CharSet := ⟨false, [.single c.toNat]⟩

/-- Every character but one. -/
def allBut (c : Char) : CharSet := ⟨true, [.single c.toNat]⟩

/-- Every character. -/
def all : CharSet := ⟨true, []⟩

theorem toNat_beq (c d : Char) : (d.toNat == c.toNat) = (d == c) := by
  by_cases h : d = c
  · simp [h]
  · have hne : d.toNat ≠ c.toNat := fun e => h (Char.toNat_inj.mp e)
    rw [beq_eq_false_iff_ne.mpr hne, beq_eq_false_iff_ne.mpr h]

@[simp] theorem contains_only (c d : Char) : (only c).contains d = (d == c) := by
  simp [contains, only, Member.contains, toNat_beq]

@[simp] theorem contains_allBut (c d : Char) : (allBut c).contains d = !(d == c) := by
  simp [contains, allBut, Member.contains, toNat_beq]

@[simp] theorem contains_all (c : Char) : all.contains c = true := rfl

end CharSet

/-! ### Errors -/

/-- What can be wrong with a pattern. -/
inductive Fault where
  /-- A bracket is never closed. -/
  | unterminatedSet
  /-- The ends of a range are not characters in order. -/
  | badRange (low high : List Char)
  /-- A backslash before something that it gives no meaning to. -/
  | badEscape (text : List Char)
  /-- An escape with too few hexadecimal digits. -/
  | incompleteEscape (text : List Char)
  /-- An octal escape above 0o377. -/
  | octalTooLarge (text : List Char)
  /-- A named escape without its brace. -/
  | missingBrace
  /-- A named escape without a name. -/
  | missingName
  /-- A named escape whose brace is never closed. -/
  | unterminatedName
  /-- A named escape with a name that no character has. -/
  | unknownName (name : List Char)
  /-- A group is never closed. -/
  | unclosedGroup
  /-- A group is closed that was never opened. -/
  | unopenedGroup
  /-- A repetition of nothing. -/
  | nothingToRepeat
  deriving DecidableEq, Repr

/-- The wording of a fault. -/
def Fault.message : Fault → String
  | .unterminatedSet => "unterminated character set"
  | .badRange a b => "bad character range " ++ String.ofList a ++ "-" ++ String.ofList b
  | .badEscape t => "bad escape " ++ String.ofList t
  | .incompleteEscape t => "incomplete escape " ++ String.ofList t
  | .octalTooLarge t => "octal escape value " ++ String.ofList t ++ " outside of range 0-0o377"
  | .missingBrace => "missing \x7b"
  | .missingName => "missing character name"
  | .unterminatedName => "missing \x7d, unterminated name"
  | .unknownName n => "undefined character name " ++ Text.quote (String.ofList n)
  | .unclosedGroup => "missing ), unterminated subpattern"
  | .unopenedGroup => "unbalanced parenthesis"
  | .nothingToRepeat => "nothing to repeat"

/-! ### Reading a set -/

/-- A member as it was read: the member, the text that names it in errors, and
    the text behind it. -/
structure ReadMember where
  /-- The member. -/
  member : Member
  /-- Its first character, with the backslash if there is one. -/
  shown : List Char
  /-- What follows. -/
  rest : List Char

/-- Is the character a hexadecimal digit? -/
def isHexDigit (c : Char) : Bool := c.isDigit || ('a' ≤ c && c ≤ 'f') || ('A' ≤ c && c ≤ 'F')

/-- Is the character an octal digit? -/
def isOctalDigit (c : Char) : Bool := '0' ≤ c && c ≤ '7'

/-- The value of a digit of any base up to sixteen. -/
def digitValue (c : Char) : Nat :=
  if c.isDigit then c.toNat - 48 else if c < 'a' then c.toNat - 55 else c.toNat - 87

/-- The value of digits in a base. -/
def valueIn (base : Nat) (ds : List Char) : Nat := ds.foldl (fun n d => n * base + digitValue d) 0

/-- At most `n` characters of a kind from the front. -/
def takeUpTo (p : Char → Bool) : Nat → List Char → List Char × List Char
  | n + 1, c :: cs =>
    if p c then
      let (taken, rest) := takeUpTo p n cs
      (c :: taken, rest)
    else ([], c :: cs)
  | _, cs => ([], cs)

/-- An escape of exactly `n` hexadecimal digits, after its letter. -/
def readHex (letter : Char) (n : Nat) (cs : List Char) : Except Fault ReadMember :=
  let (ds, rest) := takeUpTo isHexDigit n cs
  if ds.length = n then
    let value := valueIn 16 ds
    if value < 0x110000 then .ok ⟨.single value, ['\\', letter], rest⟩
    else .error (.badEscape ('\\' :: letter :: ds))
  else .error (.incompleteEscape ('\\' :: letter :: ds))

/-- The text up to a closing brace, and what follows that; a backslash takes the
    character behind it along.  `before` is what has been read, in reverse. -/
def readToBrace (before : List Char) : List Char → Except Fault (List Char × List Char)
  | [] => .error (if before = [] then .missingName else .unterminatedName)
  | '\x7d' :: rest => if before = [] then .error .missingName else .ok (before.reverse, rest)
  | ['\\'] => .error (.badEscape "(end of pattern)".toList)
  | '\\' :: c :: rest => readToBrace (c :: '\\' :: before) rest
  | c :: rest => readToBrace (c :: before) rest

/-- An escape that names a character, after its letter. -/
def readName (cs : List Char) : Except Fault ReadMember :=
  match cs with
  | '\x7b' :: cs => do
    let (name, rest) ← readToBrace [] cs
    match Text.CharacterName.point? name with
    | some n => return ⟨.single n, ['\\', 'N'], rest⟩
    | none => throw (.unknownName name)
  | _ => .error .missingBrace

/-- An escape inside a bracket, after its backslash. -/
def readEscape (c : Char) (cs : List Char) : Except Fault ReadMember :=
  let shown := ['\\', c]
  let single (n : Nat) : Except Fault ReadMember := .ok ⟨.single n, shown, cs⟩
  match c with
  | 'a' => single 7
  | 'b' => single 8
  | 'f' => single 12
  | 'n' => single 10
  | 'r' => single 13
  | 't' => single 9
  | 'v' => single 11
  | 'd' => .ok ⟨.named .digit false, shown, cs⟩
  | 'D' => .ok ⟨.named .digit true, shown, cs⟩
  | 's' => .ok ⟨.named .blank false, shown, cs⟩
  | 'S' => .ok ⟨.named .blank true, shown, cs⟩
  | 'w' => .ok ⟨.named .word false, shown, cs⟩
  | 'W' => .ok ⟨.named .word true, shown, cs⟩
  | 'x' => readHex 'x' 2 cs
  | 'u' => readHex 'u' 4 cs
  | 'U' => readHex 'U' 8 cs
  | 'N' => readName cs
  | c =>
    if isOctalDigit c then
      let (ds, rest) := takeUpTo isOctalDigit 2 cs
      let value := valueIn 8 (c :: ds)
      if value ≤ 0o377 then .ok ⟨.single value, shown, rest⟩
      else .error (.octalTooLarge ('\\' :: c :: ds))
    else if c.isAlphanum then .error (.badEscape shown)
    else single c.toNat

/-- One member of a bracket. -/
def readMember : List Char → Except Fault ReadMember
  | [] => .error .unterminatedSet
  | ['\\'] => .error (.badEscape "(end of pattern)".toList)
  | '\\' :: c :: cs => readEscape c cs
  | c :: cs => .ok ⟨.single c.toNat, [c], cs⟩

/-- The range from one member to another. -/
def rangeOf (a b : ReadMember) : Except Fault Member :=
  match a.member, b.member with
  | .single low, .single high =>
    if low ≤ high then .ok (.range low high) else .error (.badRange a.shown b.shown)
  | _, _ => .error (.badRange a.shown b.shown)

/-- The members of a bracket up to its end, those before in reverse. -/
def readMembers (acc : List Member) (cs : List Char) : Except Fault (List Member × List Char) :=
  match cs, acc with
  -- A bracket that closes at once is the first member.
  | ']' :: rest, _ :: _ => .ok (acc.reverse, rest)
  | cs, acc => do
    let a ← readMember cs
    match a.rest with
    | ['-'] => .error .unterminatedSet
    -- A hyphen before the end is a member of its own.
    | '-' :: ']' :: rest => .ok ((.single '-'.toNat :: a.member :: acc).reverse, rest)
    | '-' :: rest =>
      let b ← readMember rest
      let range ← rangeOf a b
      if b.rest.length < cs.length then readMembers (range :: acc) b.rest
      else .error .unterminatedSet
    | rest =>
      if rest.length < cs.length then readMembers (a.member :: acc) rest
      else .error .unterminatedSet
termination_by cs.length

/-- A set, after its opening bracket. -/
def readSet (cs : List Char) : Except Fault (CharSet × List Char) :=
  match cs with
  | '^' :: cs => do
    let (members, rest) ← readMembers [] cs
    return (⟨true, members⟩, rest)
  | cs => do
    let (members, rest) ← readMembers [] cs
    return (⟨false, members⟩, rest)

end SinkPipeline.Pattern
