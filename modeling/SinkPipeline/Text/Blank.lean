/-! # Blank characters

  **Blank** characters are those of Unicode white space together with the four
  information separators U+001C to U+001F.  They separate stage tokens, and
  they are what is stripped from the ends of a line.
-/

namespace SinkPipeline.Text

/-- Is the code point blank? -/
def isBlankPoint (n : Nat) : Bool :=
  (9 ≤ n && n ≤ 13) || (28 ≤ n && n ≤ 32) || n == 0x85 || n == 0xA0 || n == 0x1680 ||
    (0x2000 ≤ n && n ≤ 0x200A) || n == 0x2028 || n == 0x2029 || n == 0x202F || n == 0x205F ||
    n == 0x3000

/-- Is the character blank? -/
def isBlank (c : Char) : Bool := isBlankPoint c.toNat

/-- The text without the blanks at its two ends. -/
def stripBlanks (cs : List Char) : List Char :=
  ((cs.dropWhile isBlank).reverse.dropWhile isBlank).reverse

/-- The text without the blanks at its two ends. -/
def strip (s : String) : String := String.ofList (stripBlanks s.toList)

/-- Every white space character of the core library is blank. -/
theorem isBlank_of_isWhitespace {c : Char} (h : c.isWhitespace = true) : isBlank c = true := by
  simp only [Char.isWhitespace, Bool.or_eq_true, decide_eq_true_eq] at h
  rcases h with ((h | h) | h) | h <;> subst h <;> decide

end SinkPipeline.Text
