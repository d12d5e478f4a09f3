import SinkPipeline.Text.Utf8

/-! # UTF-8 is read back

  The bytes of a sequence of characters are decoded to the same characters, with
  nothing owed at the end.

  A character of one byte is known by that byte.  A longer one has a **lead**
  byte, which tells how many bytes follow and narrows the first of them, and the
  bytes that follow hold six bits each.
-/

namespace SinkPipeline.Text.Utf8

/-! ### Steps -/

theorem run_cons (s : State) (b : UInt8) (bytes : Bytes) :
    run s (b :: bytes) =
      ((run (step s b).1 bytes).1, (step s b).2 ++ (run (step s b).1 bytes).2) := by
  have hone : run s [b] = step s b := by simp [run, feed]
  have happend := run_append s [b] bytes
  rw [hone] at happend
  exact happend

/-- The byte of a small number. -/
theorem toNat_toUInt8 {n : Nat} (h : n < 256) : n.toUInt8.toNat = n := by
  simp [Nat.mod_eq_of_lt h]

section

variable {value owed low high n : Nat}

/-- The last byte of a character. -/
theorem step_last (hbyte : n < 256) (hlow : low ≤ n) (hhigh : n ≤ high) :
    step (.inside value 0 low high) n.toUInt8 =
      (.start, [Char.ofNat (value * 64 + (n - 0x80))]) := by
  simp only [step, toNat_toUInt8 hbyte]
  rw [if_pos ⟨hlow, hhigh⟩]

/-- A byte of a character that is not the last one. -/
theorem step_next (hbyte : n < 256) (hlow : low ≤ n) (hhigh : n ≤ high) :
    step (.inside value (owed + 1) low high) n.toUInt8 =
      (.inside (value * 64 + (n - 0x80)) owed 0x80 0xBF, []) := by
  simp only [step, toNat_toUInt8 hbyte]
  rw [if_pos ⟨hlow, hhigh⟩]

theorem step_start (hbyte : n < 256) : step .start n.toUInt8 = lead n := by
  simp only [step, toNat_toUInt8 hbyte]

end

/-! ### Lead bytes -/

section

variable {n : Nat}

theorem lead_one (h : n < 0x80) : lead n = (.start, [Char.ofNat n]) := by
  rw [lead, if_pos h]

theorem lead_two (hlow : 0x80 ≤ n) (hhigh : n < 0x800) :
    lead (0xC0 + n / 64) = (.inside (n / 64) 0 0x80 0xBF, []) := by
  have hvalue : 0xC0 + n / 64 - 0xC0 = n / 64 := by omega
  rw [lead, if_neg (by omega), if_neg (by omega), if_pos (by omega), hvalue]

/-- The lead byte of three leaves out what would be too short, and surrogates. -/
theorem lead_three (hlow : 0x800 ≤ n) (hhigh : n < 0x10000)
    (hscalar : n < 0xD800 ∨ 0xDFFF < n) :
    ∃ low high, lead (0xE0 + n / 4096) = (.inside (n / 4096) 1 low high, []) ∧
      low ≤ 0x80 + n / 64 % 64 ∧ 0x80 + n / 64 % 64 ≤ high := by
  have hvalue : 0xE0 + n / 4096 - 0xE0 = n / 4096 := by omega
  rw [lead, if_neg (by omega), if_neg (by omega), if_neg (by omega)]
  by_cases hfirst : 0xE0 + n / 4096 = 0xE0
  · have hzero : n / 4096 = 0 := by omega
    rw [if_pos hfirst, hzero]
    exact ⟨_, _, rfl, by omega, by omega⟩
  by_cases hsurrogate : 0xE0 + n / 4096 = 0xED
  · have hthirteen : n / 4096 = 0xD := by omega
    rw [if_neg hfirst, if_pos hsurrogate, hthirteen]
    exact ⟨_, _, rfl, by omega, by omega⟩
  · rw [if_neg hfirst, if_neg hsurrogate, if_pos (by omega), hvalue]
    exact ⟨_, _, rfl, by omega, by omega⟩

/-- The lead byte of four leaves out what would be too short, and what is beyond
    the last code point. -/
theorem lead_four (hlow : 0x10000 ≤ n) (hhigh : n < 0x110000) :
    ∃ low high, lead (0xF0 + n / 262144) = (.inside (n / 262144) 2 low high, []) ∧
      low ≤ 0x80 + n / 4096 % 64 ∧ 0x80 + n / 4096 % 64 ≤ high := by
  have hvalue : 0xF0 + n / 262144 - 0xF0 = n / 262144 := by omega
  rw [lead, if_neg (by omega), if_neg (by omega), if_neg (by omega), if_neg (by omega),
    if_neg (by omega), if_neg (by omega)]
  by_cases hfirst : 0xF0 + n / 262144 = 0xF0
  · have hzero : n / 262144 = 0 := by omega
    rw [if_pos hfirst, hzero]
    exact ⟨_, _, rfl, by omega, by omega⟩
  by_cases hmiddle : 0xF0 + n / 262144 < 0xF4
  · rw [if_neg hfirst, if_pos hmiddle, hvalue]
    exact ⟨_, _, rfl, by omega, by omega⟩
  · have hfour : n / 262144 = 4 := by omega
    rw [if_neg hfirst, if_neg hmiddle, if_pos (by omega), hfour]
    exact ⟨_, _, rfl, by omega, by omega⟩

end

/-! ### Characters -/

/-- A character is no surrogate and not beyond the last code point. -/
theorem toNat_scalar (c : Char) : c.toNat < 0x110000 ∧ (c.toNat < 0xD800 ∨ 0xDFFF < c.toNat) := by
  have hvalid : c.toNat < 0xD800 ∨ 0xDFFF < c.toNat ∧ c.toNat < 0x110000 := c.valid
  omega

/-- **One character is read back.** -/
theorem run_encodeChar (c : Char) : run .start (encodeChar c) = (.start, [c]) := by
  obtain ⟨hmax, hscalar⟩ := toNat_scalar c
  have hback := Char.ofNat_toNat c
  unfold encodeChar
  -- What is left is arithmetic on the code point, one case for each length.
  generalize c.toNat = n at hmax hscalar hback
  dsimp only
  by_cases hone : n < 0x80
  · rw [if_pos hone, run_cons, step_start (by omega), lead_one hone, hback]
    rfl
  by_cases htwo : n < 0x800
  · rw [if_neg hone, if_pos htwo, run_cons, step_start (by omega), lead_two (by omega) htwo]
    dsimp only
    rw [run_cons, step_last (by omega) (by omega) (by omega)]
    have hvalue : n / 64 * 64 + (0x80 + n % 64 - 0x80) = n := by omega
    rw [hvalue, hback]
    rfl
  by_cases hthree : n < 0x10000
  · obtain ⟨low, high, hlead, hlow, hhigh⟩ := lead_three (by omega) hthree hscalar
    rw [if_neg hone, if_neg htwo, if_pos hthree, run_cons, step_start (by omega), hlead]
    dsimp only
    rw [run_cons, step_next (by omega) hlow hhigh]
    dsimp only
    rw [run_cons, step_last (by omega) (by omega) (by omega)]
    have hvalue : (n / 4096 * 64 + (0x80 + n / 64 % 64 - 0x80)) * 64 + (0x80 + n % 64 - 0x80) = n := by
      omega
    rw [hvalue, hback]
    rfl
  · obtain ⟨low, high, hlead, hlow, hhigh⟩ := lead_four (n := n) (by omega) hmax
    rw [if_neg hone, if_neg htwo, if_neg hthree, run_cons, step_start (by omega), hlead]
    dsimp only
    rw [run_cons, step_next (by omega) hlow hhigh]
    dsimp only
    rw [run_cons, step_next (by omega) (by omega) (by omega)]
    dsimp only
    rw [run_cons, step_last (by omega) (by omega) (by omega)]
    have hvalue : ((n / 262144 * 64 + (0x80 + n / 4096 % 64 - 0x80)) * 64 +
        (0x80 + n / 64 % 64 - 0x80)) * 64 + (0x80 + n % 64 - 0x80) = n := by omega
    rw [hvalue, hback]
    rfl

/-- **Characters are read back from their bytes**, with nothing owed. -/
theorem run_encodeChars (cs : List Char) : run .start (encodeChars cs) = (.start, cs) := by
  induction cs with
  | nil => rfl
  | cons c cs ih =>
    have hsplit : encodeChars (c :: cs) = encodeChar c ++ encodeChars cs := rfl
    rw [hsplit, run_append, run_encodeChar]
    dsimp only
    rw [ih]
    rfl

theorem decode_encodeChars (cs : List Char) : decode (encodeChars cs) = cs := by
  rw [decode, run_encodeChars]
  exact List.append_nil cs

end SinkPipeline.Text.Utf8
