import Mathlib.Algebra.Group.Nat.Defs
import SinkPipeline.Proofs.Text.Utf8

/-! # What decoding replaces

  Decoding never fails.  Where no character stands, the **maximal ill-formed
  part** of the input is read as one U+FFFD, and reading goes on after it.  This
  part is the longest piece with which a character could begin or, if there is
  none, a single byte.

  That is said here of byte sequences only, without the machine: `Reads` is the
  reading of a byte sequence by its characters and ill-formed parts.

  - Between two bytes the machine holds the **beginning** of a character: there
    is a character for every way in which the bytes can go on.
  - A byte with which they cannot go on ends an ill-formed part.
  - So the machine's output is the one and only reading of its input.
-/

namespace SinkPipeline.Text.Utf8

/-! ### Reading a byte sequence -/

/-- Could a character begin with these bytes? -/
def Begins (part : Bytes) : Prop := ∃ c, part <+: encodeChar c

/-- No character stands at the front of `part ++ rest`, and `part` is what is
    ill-formed there: the longest piece with which a character could begin, or a
    single byte. -/
structure IllFormed (part rest : Bytes) : Prop where
  /-- It holds something. -/
  ne_nil : part ≠ []
  /-- No character stands there. -/
  no_char : ∀ c, ¬encodeChar c <+: part ++ rest
  /-- It is a single byte, or a character could begin with it. -/
  begins : part.length = 1 ∨ Begins part
  /-- No character could begin with more of the input. -/
  longest : ∀ more, more <+: part ++ rest → part.length < more.length → ¬Begins more

/-- **The reading of a byte sequence**: characters stand for themselves, and each
    maximal ill-formed part for one U+FFFD. -/
inductive Reads : Bytes → List Char → Prop
  | done : Reads [] []
  | char (c : Char) {rest : Bytes} {cs : List Char} :
      Reads rest cs → Reads (encodeChar c ++ rest) (c :: cs)
  | replaced {part rest : Bytes} {cs : List Char} :
      IllFormed part rest → Reads rest cs → Reads (part ++ rest) ('\uFFFD' :: cs)

/-! ### Steps -/

theorem run_singleton (s : State) (b : UInt8) : run s [b] = step s b := by
  rw [run_cons, run_nil, List.append_nil]

section

variable {value owed low high : Nat} {b : UInt8}

/-- A byte that may follow, and is the last one. -/
theorem step_inside_last (h : low ≤ b.toNat ∧ b.toNat ≤ high) :
    step (.inside value 0 low high) b =
      (.start, [Char.ofNat (value * 64 + (b.toNat - 0x80))]) := by
  simp only [step, if_pos h]

/-- A byte that may follow, with others to come after it. -/
theorem step_inside_next (h : low ≤ b.toNat ∧ b.toNat ≤ high) :
    step (.inside value (owed + 1) low high) b =
      (.inside (value * 64 + (b.toNat - 0x80)) owed 0x80 0xBF, []) := by
  simp only [step, if_pos h]

/-- A byte that cannot follow ends what is held, and is looked at again. -/
theorem step_inside_not (h : ¬(low ≤ b.toNat ∧ b.toNat ≤ high)) :
    step (.inside value owed low high) b = ((step .start b).1, '\uFFFD' :: (step .start b).2) := by
  simp only [step, if_neg h]

end

/-! ### The beginning of a character -/

/-- The last `k` bytes of the character of a number: six bits in each. -/
def tailBytes (n : Nat) : Nat → Bytes
  | 0 => []
  | k + 1 => (0x80 + n / 64 ^ k % 64).toUInt8 :: tailBytes n k

/-- **What the machine holds inside a character**: the bytes `p` are the first ones
    of every character whose number goes on from `value` with a byte between `low`
    and `high`.  There is such a byte. -/
structure Holding (p : Bytes) (value owed low high : Nat) : Prop where
  /-- Bytes that follow are no first bytes. -/
  low_le : 0x80 ≤ low
  /-- Some byte may follow. -/
  le_high : low ≤ high
  /-- A byte that follows holds six bits. -/
  high_le : high ≤ 0xBF
  /-- The character of each number that goes on so is spelled by `p` and its last
      bytes. -/
  spelled : ∀ n, n / 64 ^ (owed + 1) = value → low ≤ 0x80 + n / 64 ^ owed % 64 →
    0x80 + n / 64 ^ owed % 64 ≤ high →
      encodeChar (Char.ofNat n) = p ++ tailBytes n (owed + 1)

/-- A number that is no surrogate and not beyond the last code point is that of
    its character. -/
theorem toNat_ofNat_scalar {n : Nat} (hmax : n < 0x110000) (hscalar : n < 0xD800 ∨ 0xDFFF < n) :
    (Char.ofNat n).toNat = n := by
  apply toNat_ofNat
  rcases hscalar with hsmall | hlarge
  · exact .inl hsmall
  · exact .inr ⟨hlarge, hmax⟩

section

variable {p : Bytes} {value owed low high : Nat} {b : UInt8}

/-- The byte that is six bits of a number. -/
theorem eq_of_bits {n : Nat} (hlow : 0x80 ≤ b.toNat) (hbits : n % 64 = b.toNat - 0x80)
    (hhigh : b.toNat ≤ 0xBF) : (0x80 + n % 64).toUInt8 = b := by
  have hsum : 0x80 + n % 64 = b.toNat := by omega
  rw [hsum]
  simp

/-- **A byte inside a character** that may follow, but is not the last one. -/
theorem Holding.next (h : Holding p value (owed + 1) low high) (hlow : low ≤ b.toNat)
    (hhigh : b.toNat ≤ high) :
    Holding (p ++ [b]) (value * 64 + (b.toNat - 0x80)) owed 0x80 0xBF := by
  have hbyte : 0x80 ≤ b.toNat ∧ b.toNat ≤ 0xBF := ⟨Nat.le_trans h.low_le hlow, Nat.le_trans hhigh h.high_le⟩
  refine ⟨Nat.le_refl _, by decide, Nat.le_refl _, ?_⟩
  intro n hn _ _
  -- The byte is the next six bits of the number.
  have hpow : n / 64 ^ (owed + 1 + 1) = n / 64 ^ (owed + 1) / 64 := by
    rw [Nat.pow_succ, Nat.div_div_eq_div_mul]
  have hvalue : n / 64 ^ (owed + 1 + 1) = value := by
    rw [hpow, hn]
    omega
  have hbits : n / 64 ^ (owed + 1) % 64 = b.toNat - 0x80 := by
    rw [hn]
    omega
  have hspelled := h.spelled n hvalue (by rw [hbits]; omega) (by rw [hbits]; omega)
  rw [hspelled, List.append_assoc]
  rw [tailBytes, eq_of_bits hbyte.1 hbits hbyte.2]
  rfl

/-- **The last byte of a character.** -/
theorem Holding.last (h : Holding p value 0 low high) (hlow : low ≤ b.toNat)
    (hhigh : b.toNat ≤ high) :
    encodeChar (Char.ofNat (value * 64 + (b.toNat - 0x80))) = p ++ [b] := by
  have hbyte : 0x80 ≤ b.toNat ∧ b.toNat ≤ 0xBF := ⟨Nat.le_trans h.low_le hlow, Nat.le_trans hhigh h.high_le⟩
  have hvalue : (value * 64 + (b.toNat - 0x80)) / 64 ^ (0 + 1) = value := by
    rw [Nat.zero_add, Nat.pow_one]
    omega
  have hbits : (value * 64 + (b.toNat - 0x80)) / 64 ^ 0 % 64 = b.toNat - 0x80 := by
    rw [Nat.pow_zero, Nat.div_one]
    omega
  have hspelled := h.spelled _ hvalue (by rw [hbits]; omega) (by rw [hbits]; omega)
  rw [hspelled, tailBytes, eq_of_bits hbyte.1 hbits hbyte.2]
  rfl

/-- **A character could begin** with what the machine holds. -/
theorem Holding.begins (h : Holding p value owed low high) : Begins p := by
  have hpow : 0 < 64 ^ owed := Nat.pow_pos (by decide)
  -- The number with the lowest byte that may follow, and zeros after that.
  have hlow : low - 0x80 < 64 := by
    have := h.low_le
    have := h.le_high
    have := h.high_le
    omega
  have hfirst : (value * 64 + (low - 0x80)) * 64 ^ owed / 64 ^ owed = value * 64 + (low - 0x80) :=
    Nat.mul_div_cancel _ hpow
  have hvalue : (value * 64 + (low - 0x80)) * 64 ^ owed / 64 ^ (owed + 1) = value := by
    rw [Nat.pow_succ, ← Nat.div_div_eq_div_mul, hfirst]
    omega
  have hbyte : 0x80 + (value * 64 + (low - 0x80)) * 64 ^ owed / 64 ^ owed % 64 = low := by
    have := h.low_le
    rw [hfirst]
    omega
  have hspelled := h.spelled _ hvalue (by omega) (by have := h.le_high; omega)
  exact ⟨_, _, hspelled.symm⟩

end

/-! ### First bytes -/

/-- The last bytes of a character of two, three or four bytes. -/
theorem tailBytes_one (n : Nat) : tailBytes n 1 = [(0x80 + n % 64).toUInt8] := by
  simp [tailBytes]

theorem tailBytes_two (n : Nat) :
    tailBytes n 2 = [(0x80 + n / 64 % 64).toUInt8, (0x80 + n % 64).toUInt8] := by
  simp [tailBytes]

theorem tailBytes_three (n : Nat) :
    tailBytes n 3 = [(0x80 + n / 4096 % 64).toUInt8, (0x80 + n / 64 % 64).toUInt8,
      (0x80 + n % 64).toUInt8] := by
  simp [tailBytes]

section

variable {n : Nat}

theorem encodeChar_two (hlow : 0x80 ≤ n) (hhigh : n < 0x800) :
    encodeChar (Char.ofNat n) = (0xC0 + n / 64).toUInt8 :: tailBytes n 1 := by
  have hn := toNat_ofNat_scalar (n := n) (by omega) (by omega)
  rw [tailBytes_one]
  unfold encodeChar
  simp only [hn]
  rw [if_neg (by omega), if_pos hhigh]

theorem encodeChar_three (hlow : 0x800 ≤ n) (hhigh : n < 0x10000)
    (hscalar : n < 0xD800 ∨ 0xDFFF < n) :
    encodeChar (Char.ofNat n) = (0xE0 + n / 4096).toUInt8 :: tailBytes n 2 := by
  have hn := toNat_ofNat_scalar (n := n) (by omega) hscalar
  rw [tailBytes_two]
  unfold encodeChar
  simp only [hn]
  rw [if_neg (by omega), if_neg (by omega), if_pos hhigh]

theorem encodeChar_four (hlow : 0x10000 ≤ n) (hhigh : n < 0x110000) :
    encodeChar (Char.ofNat n) = (0xF0 + n / 262144).toUInt8 :: tailBytes n 3 := by
  have hn := toNat_ofNat_scalar (n := n) (by omega) (by omega)
  rw [tailBytes_three]
  unfold encodeChar
  simp only [hn]
  rw [if_neg (by omega), if_neg (by omega), if_neg (by omega)]

end

/-- What a first byte does: it is a character, or a character begins with it, or
    no character does. -/
inductive Leads (b : UInt8) : State × List Char → Prop
  | char (c : Char) : encodeChar c = [b] → Leads b (.start, [c])
  | opening {value owed low high : Nat} :
      Holding [b] value owed low high → Leads b (.inside value owed low high, [])
  | bad : Leads b (.start, ['\uFFFD'])

/-- A first byte of one. -/
theorem leads_one {b : UInt8} (h : b.toNat < 0x80) : Leads b (.start, [Char.ofNat b.toNat]) := by
  have hn := toNat_ofNat_scalar (n := b.toNat) (by omega) (by omega)
  refine .char _ ?_
  unfold encodeChar
  simp only [hn]
  rw [if_pos h]
  simp

/-- A first byte of two. -/
theorem holding_two {b : UInt8} (hlow : 0xC2 ≤ b.toNat) (hhigh : b.toNat < 0xE0) :
    Holding [b] (b.toNat - 0xC0) 0 0x80 0xBF := by
  refine ⟨by decide, by decide, by decide, ?_⟩
  intro n hn _ _
  rw [Nat.zero_add, Nat.pow_one] at hn
  have hbyte : 0xC0 + n / 64 = b.toNat := by omega
  rw [encodeChar_two (by omega) (by omega), hbyte]
  simp

section

variable {b : UInt8} {value low high : Nat}

/-- A first byte of three: the bounds leave out what would be too short, and
    surrogates. -/
theorem holding_three (hlead : b.toNat = 0xE0 + value) (hvalue : value < 0x10)
    (hlow : 0x80 ≤ low) (hle : low ≤ high) (hhigh : high ≤ 0xBF)
    (hshort : value = 0 → 0xA0 ≤ low) (hscalar : value = 0xD → high ≤ 0x9F) :
    Holding [b] value 1 low high := by
  refine ⟨hlow, hle, hhigh, ?_⟩
  intro n hn hfrom hto
  have hn : n / 4096 = value := hn
  rw [Nat.pow_one] at hfrom hto
  have hbyte : 0xE0 + n / 4096 = b.toNat := by omega
  rw [encodeChar_three (by omega) (by omega) (by omega), hbyte]
  simp

/-- A first byte of four: the bounds leave out what would be too short, and what
    is beyond the last code point. -/
theorem holding_four (hlead : b.toNat = 0xF0 + value) (hvalue : value ≤ 4)
    (hlow : 0x80 ≤ low) (hle : low ≤ high) (hhigh : high ≤ 0xBF)
    (hshort : value = 0 → 0x90 ≤ low) (hmax : value = 4 → high ≤ 0x8F) :
    Holding [b] value 2 low high := by
  refine ⟨hlow, hle, hhigh, ?_⟩
  intro n hn hfrom hto
  have hn : n / 262144 = value := hn
  have hfrom : low ≤ 0x80 + n / 4096 % 64 := hfrom
  have hto : 0x80 + n / 4096 % 64 ≤ high := hto
  have hbyte : 0xF0 + n / 262144 = b.toNat := by omega
  rw [encodeChar_four (by omega) (by omega), hbyte]
  simp

end

/-- **Every first byte** does one of the three. -/
theorem leads_lead (b : UInt8) : Leads b (lead b.toNat) := by
  have hmax := b.toNat_lt
  -- In the order of the table: after 0xE0, 0xED, 0xF0 and 0xF4 fewer bytes may follow.
  unfold lead
  by_cases hone : b.toNat < 0x80
  · rw [if_pos hone]
    exact leads_one hone
  rw [if_neg hone]
  by_cases hstray : b.toNat < 0xC2
  · rw [if_pos hstray]
    exact .bad
  rw [if_neg hstray]
  by_cases htwo : b.toNat < 0xE0
  · rw [if_pos htwo]
    exact .opening (holding_two (by omega) htwo)
  rw [if_neg htwo]
  by_cases hshort : b.toNat = 0xE0
  · rw [if_pos hshort]
    exact .opening (holding_three hshort (by omega) (by omega) (by omega) (by omega) (by omega)
      (by omega))
  rw [if_neg hshort]
  by_cases hsurrogate : b.toNat = 0xED
  · rw [if_pos hsurrogate]
    exact .opening (holding_three hsurrogate (by omega) (by omega) (by omega) (by omega) (by omega)
      (by omega))
  rw [if_neg hsurrogate]
  by_cases hthree : b.toNat < 0xF0
  · rw [if_pos hthree]
    exact .opening (holding_three (by omega) (by omega) (by omega) (by omega) (by omega) (by omega)
      (by omega))
  rw [if_neg hthree]
  by_cases hshort' : b.toNat = 0xF0
  · rw [if_pos hshort']
    exact .opening (holding_four hshort' (by omega) (by omega) (by omega) (by omega) (by omega)
      (by omega))
  rw [if_neg hshort']
  by_cases hfour : b.toNat < 0xF4
  · rw [if_pos hfour]
    exact .opening (holding_four (by omega) (by omega) (by omega) (by omega) (by omega) (by omega)
      (by omega))
  rw [if_neg hfour]
  by_cases hlast : b.toNat = 0xF4
  · rw [if_pos hlast]
    exact .opening (holding_four hlast (by omega) (by omega) (by omega) (by omega) (by omega)
      (by omega))
  · rw [if_neg hlast]
    exact .bad

/-! ### What the machine holds -/

/-- A machine that comes to rest has just given a character. -/
theorem ne_nil_of_step_start {s : State} {b : UInt8} (h : (step s b).1 = .start) :
    (step s b).2 ≠ [] := by
  cases s with
  | start =>
    -- A first byte that gives nothing opens a longer character.
    have hleads := leads_lead b
    change (lead b.toNat).1 = .start at h
    show (lead b.toNat).2 ≠ []
    generalize lead b.toNat = out at h hleads
    cases hleads with
    | char c _ => simp
    | opening _ => simp at h
    | bad => simp
  | inside value owed low high =>
    by_cases hrange : low ≤ b.toNat ∧ b.toNat ≤ high
    · cases owed with
      | zero => simp [step_inside_last hrange]
      | succ owed => simp [step_inside_next hrange] at h
    · simp [step_inside_not hrange]

/-- The machine comes to rest again only with a character. -/
theorem ne_nil_of_run_start {bytes : Bytes} {s : State} (hne : bytes ≠ [])
    (h : (run s bytes).1 = .start) : (run s bytes).2 ≠ [] := by
  induction bytes generalizing s with
  | nil => exact absurd rfl hne
  | cons b bytes ih =>
    -- The state at the end is that after the last byte.
    by_cases hlast : bytes = []
    · subst hlast
      rw [run_singleton] at h ⊢
      exact ne_nil_of_step_start h
    · rw [run_cons] at h ⊢
      have hrest := ih hlast h
      simp [hrest]

/-- **More bytes that give nothing** go on with what is held. -/
theorem Holding.run {p q : Bytes} {value owed low high : Nat}
    (h : Holding p value owed low high) (hrun : (run (.inside value owed low high) q).2 = []) :
    ∃ value' owed' low' high', (Utf8.run (.inside value owed low high) q).1 =
      .inside value' owed' low' high' ∧ Holding (p ++ q) value' owed' low' high' := by
  -- Over the bytes: each of them may follow, and is not the last one.
  induction q generalizing p value owed low high with
  | nil => exact ⟨_, _, _, _, rfl, by rwa [List.append_nil]⟩
  | cons b q ih =>
    rw [run_cons] at hrun ⊢
    obtain ⟨hstep, hrest⟩ := List.append_eq_nil_iff.1 hrun
    by_cases hrange : low ≤ b.toNat ∧ b.toNat ≤ high
    · cases owed with
      | zero => simp [step_inside_last hrange] at hstep
      | succ owed =>
        rw [step_inside_next hrange] at hrest ⊢
        have hmore := ih (h.next hrange.1 hrange.2) hrest
        rwa [List.append_assoc] at hmore
    · simp [step_inside_not hrange] at hstep

/-- **Bytes that gave nothing yet** are held as the beginning of a character. -/
theorem holding_of_run {p : Bytes} (hne : p ≠ []) (hrun : (run .start p).2 = []) :
    ∃ value owed low high, (run .start p).1 = .inside value owed low high ∧
      Holding p value owed low high := by
  cases p with
  | nil => exact absurd rfl hne
  | cons b q =>
    rw [run_cons] at hrun ⊢
    obtain ⟨hstep, hrest⟩ := List.append_eq_nil_iff.1 hrun
    have hleads := leads_lead b
    change (lead b.toNat).2 = [] at hstep
    change (run (lead b.toNat).1 q).2 = [] at hrest
    show ∃ value owed low high, (run (lead b.toNat).1 q).1 = .inside value owed low high ∧ _
    generalize lead b.toNat = out at hstep hrest hleads
    cases hleads with
    | char c _ => simp at hstep
    | opening h => exact h.run hrest
    | bad => simp at hstep

/-- A character has a byte. -/
theorem encodeChar_ne_nil (c : Char) : encodeChar c ≠ [] := by
  intro hnil
  have hrun := run_encodeChar c
  rw [hnil] at hrun
  simp at hrun

/-- A part of a character that is not the whole of it gives nothing. -/
theorem run_eq_nil_of_part {p : Bytes} {c : Char} (h : p <+: encodeChar c)
    (hne : p ≠ encodeChar c) :
    (run .start p).2 = [] := by
  obtain ⟨more, hmore⟩ := h
  have hrest : more ≠ [] := by
    intro hnil
    apply hne
    rw [← hmore, hnil, List.append_nil]
  have hwhole := run_encodeChar c
  rw [← hmore, run_append] at hwhole
  have hstate := congrArg Prod.fst hwhole
  have hgiven := congrArg Prod.snd hwhole
  -- The bytes after the part bring the machine to rest, so they give the character.
  have hlast := ne_nil_of_run_start hrest hstate
  simp only [List.append_eq_singleton_iff] at hgiven
  rcases hgiven with ⟨hp, _⟩ | ⟨_, hnil⟩
  · exact hp
  · exact absurd hnil hlast

/-- **What a character can begin with**: bytes that give nothing yet, or the
    character itself. -/
theorem Begins.run_cases {p : Bytes} (h : Begins p) :
    (run .start p).2 = [] ∨ ∃ c, p = encodeChar c ∧ run .start p = (.start, [c]) := by
  obtain ⟨c, hc⟩ := h
  by_cases hwhole : p = encodeChar c
  · exact .inr ⟨c, hwhole, by rw [hwhole]; exact run_encodeChar c⟩
  · exact .inl (run_eq_nil_of_part hc hwhole)

theorem begins_of_run {p : Bytes} (hne : p ≠ []) (h : (run .start p).2 = []) : Begins p := by
  obtain ⟨_, _, _, _, _, hholding⟩ := holding_of_run hne h
  exact hholding.begins

/-- What a character can begin with begins so itself. -/
theorem Begins.of_longer {p q : Bytes} (h : Begins q) (hpq : p <+: q) : Begins p := by
  obtain ⟨c, hc⟩ := h
  exact ⟨c, hpq.trans hc⟩

/-- No whole character is held. -/
theorem no_whole_character {p : Bytes} (h : (run .start p).2 = []) (c : Char) :
    ¬encodeChar c <+: p := by
  rintro ⟨more, rfl⟩
  rw [run_append, run_encodeChar] at h
  simp at h

/-! ### Ill-formed parts -/

/-- **How an ill-formed part is known**: with one more byte no character could
    begin. -/
theorem IllFormed.of_next {part rest : Bytes} (hne : part ≠ [])
    (hbegins : part.length = 1 ∨ Begins part) (hchar : ∀ c, ¬encodeChar c <+: part)
    (hnext : ∀ b, [b] <+: rest → ¬Begins (part ++ [b])) : IllFormed part rest := by
  -- A longer piece of the input has the next byte.
  have hlonger : ∀ more, more <+: part ++ rest → part.length < more.length → ¬Begins more := by
    intro more hmore hlength hbegin
    have hpart : part <+: more := List.prefix_of_prefix_length_le (List.prefix_append part rest)
      hmore (Nat.le_of_lt hlength)
    obtain ⟨tail, rfl⟩ := hpart
    have htail : tail <+: rest := (List.prefix_append_right_inj part).1 hmore
    cases tail with
    | nil => simp at hlength
    | cons b tail =>
      have hb : [b] <+: b :: tail := ⟨tail, rfl⟩
      have hfirst : part ++ [b] <+: part ++ b :: tail := (List.prefix_append_right_inj part).2 hb
      exact hnext b (hb.trans htail) (hbegin.of_longer hfirst)
  refine ⟨hne, ?_, hbegins, hlonger⟩
  intro c hc
  by_cases hlength : part.length < (encodeChar c).length
  · exact hlonger _ hc hlength ⟨c, List.prefix_rfl⟩
  · exact hchar c (List.prefix_of_prefix_length_le hc (List.prefix_append part rest) (by omega))

/-- **There is only one**: of two ill-formed parts at the front of the same input,
    neither is longer. -/
theorem IllFormed.part_unique {part part' rest rest' : Bytes} (h : IllFormed part rest)
    (h' : IllFormed part' rest') (heq : part ++ rest = part' ++ rest') :
    part = part' ∧ rest = rest' := by
  have hle : ∀ {p q r t : Bytes}, IllFormed p r → IllFormed q t → p ++ r = q ++ t →
      q.length ≤ p.length := by
    intro p q r t hp hq heq
    have hone : 0 < p.length := List.length_pos_iff.2 hp.ne_nil
    apply Nat.le_of_not_lt
    intro hlt
    -- The longer one is no single byte, so a character could begin with it.
    rcases hq.begins with hsingle | hbegins
    · omega
    · exact hp.longest q (heq ▸ List.prefix_append q t) (by omega) hbegins
  have hlength : part.length = part'.length :=
    Nat.le_antisymm (hle h' h heq.symm) (hle h h' heq)
  exact List.append_inj heq hlength

/-! ### The reading of the machine -/

/-- A character in front of any input. -/
theorem decode_encodeChar_append (c : Char) (rest : Bytes) :
    decode (encodeChar c ++ rest) = c :: decode rest := by
  unfold decode
  rw [run_append, run_encodeChar]
  rfl

/-- Bytes that are held give nothing but what comes after them. -/
theorem decode_append_of_run {p : Bytes} (h : (run .start p).2 = []) (rest : Bytes) :
    decode (p ++ rest) =
      (run (run .start p).1 rest).2 ++ finish (run (run .start p).1 rest).1 := by
  unfold decode
  rw [run_append, h]
  rfl

/-- What a byte sequence has in front. -/
inductive Front : Bytes → Prop
  | char (c : Char) (rest : Bytes) : Front (encodeChar c ++ rest)
  | illFormed {part rest : Bytes} : IllFormed part rest →
      decode (part ++ rest) = '\uFFFD' :: decode rest → Front (part ++ rest)

/-- A byte with which no character begins. -/
theorem front_of_bad {b : UInt8} (hlead : lead b.toNat = (.start, ['\uFFFD'])) (rest : Bytes) :
    Front (b :: rest) := by
  have hrun : run .start [b] = (.start, ['\uFFFD']) := by
    rw [run_singleton]
    exact hlead
  have hnot : ¬Begins [b] := by
    intro hbegins
    rcases hbegins.run_cases with hnil | ⟨c, hc, hgiven⟩
    · rw [hrun] at hnil
      simp at hnil
    · -- It would be the replacement character, which has three bytes.
      rw [hrun] at hgiven
      have hreplaced : c = '\uFFFD' := by simpa using hgiven.symm
      subst hreplaced
      have hlength := congrArg List.length hc
      have hthree : (encodeChar '\uFFFD').length = 3 := by decide
      rw [hthree] at hlength
      simp at hlength
  have hill : IllFormed [b] rest := by
    apply IllFormed.of_next (by simp) (.inl rfl)
    · intro c hc
      have hsame : encodeChar c = [b] :=
        hc.eq_of_length_le (List.length_pos_iff.2 (encodeChar_ne_nil c))
      exact hnot ⟨c, hsame ▸ List.prefix_rfl⟩
    · intro next _ hbegins
      exact hnot (hbegins.of_longer (List.prefix_append [b] [next]))
  refine Front.illFormed hill ?_
  unfold decode
  rw [run_append, hrun]
  rfl

/-- A byte that cannot go on with what is held. -/
theorem front_of_not_next {p : Bytes} {value owed low high : Nat} {b : UInt8} (hne : p ≠ [])
    (hrun : run .start p = (.inside value owed low high, []))
    (hrange : ¬(low ≤ b.toNat ∧ b.toNat ≤ high)) (rest : Bytes) : Front (p ++ b :: rest) := by
  have hgiven : (run .start p).2 = [] := by rw [hrun]
  have hbyte : run .start (p ++ [b]) = ((step .start b).1, '\uFFFD' :: (step .start b).2) := by
    rw [run_append, hrun, run_singleton, step_inside_not hrange]
    rfl
  have hnot : ¬Begins (p ++ [b]) := by
    intro hbegins
    rcases hbegins.run_cases with hnil | ⟨c, _, hchar⟩
    · rw [hbyte] at hnil
      simp at hnil
    · -- The byte itself would have given nothing, and yet the machine is at rest.
      rw [hbyte] at hchar
      simp only [Prod.mk.injEq, List.cons.injEq] at hchar
      exact ne_nil_of_step_start hchar.1 hchar.2.2
  have hill : IllFormed p (b :: rest) := by
    apply IllFormed.of_next hne (.inr (begins_of_run hne hgiven))
    · exact no_whole_character hgiven
    · intro next hnext
      have hnext : next = b := by simpa using hnext
      rw [hnext]
      exact hnot
  refine Front.illFormed hill ?_
  rw [decode_append_of_run hgiven, hrun, run_cons, step_inside_not hrange]
  unfold decode
  rw [run_cons]
  rfl

/-- Input that ends inside a character. -/
theorem front_of_held {p : Bytes} (hne : p ≠ []) (hrun : (run .start p).2 = []) : Front p := by
  have hill : IllFormed p [] := by
    apply IllFormed.of_next hne (.inr (begins_of_run hne hrun))
    · exact no_whole_character hrun
    · intro next hnext
      simp at hnext
  obtain ⟨value, owed, low, high, hstate, _⟩ := holding_of_run hne hrun
  have hdecode : decode (p ++ []) = '\uFFFD' :: decode [] := by
    rw [decode_append_of_run hrun, run_nil, hstate]
    rfl
  have hfront := Front.illFormed hill hdecode
  rwa [List.append_nil] at hfront

/-- From what is held, with the rest of the input before it. -/
theorem front_append {p : Bytes} (hrun : (run .start p).2 = []) (rest : Bytes)
    (hne : p ++ rest ≠ []) : Front (p ++ rest) := by
  -- Over the rest: its first byte is held too, completes a character, or ends an
  -- ill-formed part.
  induction rest generalizing p with
  | nil =>
    rw [List.append_nil] at hne ⊢
    exact front_of_held hne hrun
  | cons b rest ih =>
    by_cases hheld : (run .start (p ++ [b])).2 = []
    · have hmore := ih hheld (by simp)
      rwa [List.append_assoc] at hmore
    by_cases hp : p = []
    · subst hp
      have hgiven : run .start [b] = lead b.toNat := run_singleton .start b
      rw [List.nil_append, hgiven] at hheld
      generalize hlead : lead b.toNat = out at hheld
      have hleads := leads_lead b
      rw [hlead] at hleads
      cases hleads with
      | char c hc =>
        rw [List.nil_append, ← List.singleton_append, ← hc]
        exact .char c rest
      | opening _ => simp at hheld
      | bad => exact front_of_bad hlead rest
    · obtain ⟨value, owed, low, high, hstate, h⟩ := holding_of_run hp hrun
      have hwhole : run .start p = (.inside value owed low high, []) := by rw [← hstate, ← hrun]
      by_cases hrange : low ≤ b.toNat ∧ b.toNat ≤ high
      · cases owed with
        | zero =>
          have hchar := h.last hrange.1 hrange.2
          have hsplit : p ++ b :: rest = p ++ [b] ++ rest := by simp
          rw [hsplit, ← hchar]
          exact .char _ rest
        | succ owed =>
          refine absurd ?_ hheld
          rw [run_append, hwhole, run_singleton, step_inside_next hrange]
          rfl
      · exact front_of_not_next hp hwhole hrange rest

/-- **Every input** but the empty one has a character or an ill-formed part in
    front. -/
theorem front {bytes : Bytes} (hne : bytes ≠ []) : Front bytes :=
  front_append (p := []) rfl bytes hne

/-- An ill-formed part in front of any input is one U+FFFD. -/
theorem IllFormed.decode_append {part rest : Bytes} (h : IllFormed part rest) :
    decode (part ++ rest) = '\uFFFD' :: decode rest := by
  have hne : part ++ rest ≠ [] := by simp [h.ne_nil]
  -- The machine finds a part in front, and there is no other than this one.
  generalize hbytes : part ++ rest = bytes at hne
  cases front hne with
  | char c rest' => exact absurd (hbytes ▸ List.prefix_append _ _) (h.no_char c)
  | illFormed h' hdecode =>
    obtain ⟨_, rfl⟩ := h.part_unique h' hbytes
    exact hdecode

/-- The machine reads its input. -/
theorem reads_decode (bytes : Bytes) : Reads bytes (decode bytes) := by
  -- Over the length: what is in front holds at least one byte.
  generalize hlength : bytes.length = n
  induction n using Nat.strongRecOn generalizing bytes with
  | _ n ih =>
    by_cases hne : bytes = []
    · subst hne
      exact .done
    cases front hne with
    | char c rest =>
      have hshort : rest.length < n := by
        have hpos := List.length_pos_iff.2 (encodeChar_ne_nil c)
        rw [← hlength, List.length_append]
        omega
      rw [decode_encodeChar_append]
      exact .char c (ih _ hshort rest rfl)
    | @illFormed part rest h hdecode =>
      have hshort : rest.length < n := by
        have hpos := List.length_pos_iff.2 h.ne_nil
        rw [← hlength, List.length_append]
        omega
      rw [hdecode]
      exact .replaced h (ih _ hshort rest rfl)

/-- **The machine's output is the one and only reading** of its input. -/
theorem reads_iff (bytes : Bytes) (cs : List Char) : Reads bytes cs ↔ cs = decode bytes := by
  constructor
  · intro h
    induction h with
    | done => rfl
    | char c _ ih => rw [decode_encodeChar_append, ih]
    | replaced hill _ ih => rw [hill.decode_append, ih]
  · intro h
    rw [h]
    exact reads_decode bytes

end SinkPipeline.Text.Utf8
