import Mathlib.Algebra.Group.Nat.Defs
import SinkPipeline.Text.Hex

/-! # Hexadecimal numbers are read back

  What digits spell is what was written in them.  So numbers that the width can
  hold are written differently.
-/

namespace SinkPipeline.Text

theorem hexNumber_append (cs : List Char) (c : Char) :
    hexNumber (cs ++ [c]) = hexNumber cs * 16 + (hexValue? c).getD 0 := by
  simp [hexNumber]

/-- Zeros in front add nothing. -/
theorem hexNumber_replicate_append (k : Nat) (cs : List Char) :
    hexNumber (List.replicate k '0' ++ cs) = hexNumber cs := by
  induction k with
  | zero => rfl
  | succ k ih =>
    rw [← ih]
    simp only [hexNumber, List.replicate_succ, List.cons_append, List.foldl_cons]
    congr 1

/-! ### As many digits as there are -/

theorem hexValue?_digitChar {d : Nat} (h : d < 16) : hexValue? d.digitChar = some d := by
  have hall : ∀ d : Fin 16, hexValue? d.val.digitChar = some d.val := by decide
  exact hall ⟨d, h⟩

theorem hexNumber_toDigits (n : Nat) : hexNumber (Nat.toDigits 16 n) = n := by
  induction n using Nat.strongRecOn with
  | _ n ih =>
    by_cases hn : n < 16
    · rw [Nat.toDigits_of_lt_base hn]
      have := hexNumber_append [] n.digitChar
      rw [hexValue?_digitChar hn] at this
      simpa [hexNumber] using this
    · rw [Nat.toDigits_of_base_le (by decide) (by omega), hexNumber_append,
        ih (n / 16) (by omega), hexValue?_digitChar (Nat.mod_lt _ (by decide))]
      show n / 16 * 16 + n % 16 = n
      omega

/-! ### As many digits as the width -/

theorem hexValue?_hexDigit {d : Nat} (h : d < 16) : hexValue? (hexDigit d) = some d := by
  have hall : ∀ d : Fin 16, hexValue? (hexDigit d.val) = some d.val := by decide
  exact hall ⟨d, h⟩

theorem length_hexDigits (width n : Nat) : (hexDigits width n).length = width := by
  induction width generalizing n with
  | zero => rfl
  | succ width ih => simp [hexDigits, ih]

theorem isSome_hexValue? (width n : Nat) : ∀ d ∈ hexDigits width n, (hexValue? d).isSome := by
  induction width generalizing n with
  | zero => simp [hexDigits]
  | succ width ih =>
    intro d hd
    rw [hexDigits] at hd
    rcases List.mem_append.mp hd with hd | hd
    · exact ih (n / 16) d hd
    · rw [List.mem_singleton.mp hd, hexValue?_hexDigit (Nat.mod_lt _ (by decide))]
      rfl

/-- Only the higher digits are lost. -/
theorem hexNumber_hexDigits (width n : Nat) : hexNumber (hexDigits width n) = n % 16 ^ width := by
  induction width generalizing n with
  | zero =>
    rw [Nat.pow_zero, Nat.mod_one]
    rfl
  | succ width ih =>
    rw [hexDigits, hexNumber_append, ih, hexValue?_hexDigit (Nat.mod_lt _ (by decide)),
      Nat.pow_succ, Nat.mul_comm (16 ^ width) 16, Nat.mod_mul]
    show n / 16 % 16 ^ width * 16 + n % 16 = n % 16 + 16 * (n / 16 % 16 ^ width)
    omega

end SinkPipeline.Text
