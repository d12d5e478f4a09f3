import SinkPipeline.Base64

/-! # Base64 is read back

  The characters that a sequence of bytes is written in are decoded to the same
  bytes.

  Between groups the decoder holds nothing but the bytes so far.  Four
  characters of the alphabet give it three more; what stands for the last one
  or two bytes is ended by padding, and then nothing is left over.
-/

namespace SinkPipeline.Base64

/-! ### The alphabet -/

/-- Every value has a character of its own, which is in ASCII and is no padding. -/
theorem sextetChar_spec {v : Nat} (h : v < 64) :
    sextet? (sextetChar v) = some v ∧ sextetChar v ≠ '=' ∧ (sextetChar v).toNat < 128 := by
  have hall : ∀ v : Fin 64, sextet? (sextetChar v.val) = some v.val ∧ sextetChar v.val ≠ '=' ∧
      (sextetChar v.val).toNat < 128 := by decide
  exact hall ⟨v, h⟩

/-- A character of the alphabet is taken. -/
theorem step_sextetChar {s : State} (hs : s.complete = false) {v : Nat} (h : v < 64) :
    s.step (sextetChar v) = s.take v := by
  obtain ⟨hvalue, hpadding, -⟩ := sextetChar_spec h
  rw [State.step, hs, if_neg Bool.false_ne_true, if_neg hpadding, hvalue]

/-! ### Groups -/

/-- The decoder between two groups. -/
def between (output : Bytes) : State := { output := output }

theorem toUInt8_of_eq {n : Nat} {b : UInt8} (h : n = b.toNat) : n.toUInt8 = b := by
  rw [h]
  exact UInt8.ofNat_toNat

/-- **Four characters give three bytes.** -/
theorem foldl_step_three (a b c : UInt8) (output : Bytes) (rest : List Char) :
    (encode [a, b, c] ++ rest).foldl State.step (between output) =
      rest.foldl State.step (between (c :: b :: a :: output)) := by
  have ha := a.toNat_lt
  have hb := b.toNat_lt
  have hc := c.toNat_lt
  unfold encode
  generalize hn : a.toNat * 65536 + b.toNat * 256 + c.toNat = n
  have hfirst : (n / 262144 * 4 + n / 4096 % 64 / 16).toUInt8 = a := toUInt8_of_eq (by omega)
  have hsecond : (n / 4096 % 64 % 16 * 16 + n / 64 % 64 / 4).toUInt8 = b :=
    toUInt8_of_eq (by omega)
  have hthird : (n / 64 % 64 % 4 * 64 + n % 64).toUInt8 = c := toUInt8_of_eq (by omega)
  simp only [encode, List.cons_append, List.nil_append, List.foldl_cons]
  rw [step_sextetChar (s := between output) rfl (by omega),
    step_sextetChar (s := (between output).take _) rfl (by omega),
    step_sextetChar (s := ((between output).take _).take _) rfl (by omega),
    step_sextetChar (s := (((between output).take _).take _).take _) rfl (by omega)]
  simp only [between, State.take, hfirst, hsecond, hthird]

/-- Three characters and padding give two bytes and end the data. -/
theorem finish_two (a b : UInt8) (output : Bytes) :
    ((encode [a, b]).foldl State.step (between output)).finish =
      .ok (output.reverse ++ [a, b]) := by
  have ha := a.toNat_lt
  have hb := b.toNat_lt
  unfold encode
  generalize hn : a.toNat * 1024 + b.toNat * 4 = n
  have hfirst : (n / 4096 * 4 + n / 64 % 64 / 16).toUInt8 = a := toUInt8_of_eq (by omega)
  have hsecond : (n / 64 % 64 % 16 * 16 + n % 64 / 4).toUInt8 = b := toUInt8_of_eq (by omega)
  simp only [List.foldl_cons, List.foldl_nil]
  rw [step_sextetChar (s := between output) rfl (by omega),
    step_sextetChar (s := (between output).take _) rfl (by omega),
    step_sextetChar (s := ((between output).take _).take _) rfl (by omega)]
  simp only [between, State.take, hfirst, hsecond]
  simp [State.step, State.finish]

/-- Two characters and padding give one byte and end the data. -/
theorem finish_one (a : UInt8) (output : Bytes) :
    ((encode [a]).foldl State.step (between output)).finish = .ok (output.reverse ++ [a]) := by
  have ha := a.toNat_lt
  unfold encode
  generalize hn : a.toNat * 16 = n
  have hfirst : (n / 64 * 4 + n % 64 / 16).toUInt8 = a := toUInt8_of_eq (by omega)
  simp only [List.foldl_cons, List.foldl_nil]
  rw [step_sextetChar (s := between output) rfl (by omega),
    step_sextetChar (s := (between output).take _) rfl (by omega)]
  simp only [between, State.take, hfirst]
  simp [State.step, State.finish]

/-! ### Whole texts -/

/-- The decoder goes on after the bytes so far. -/
theorem finish_encode (bytes : Bytes) (output : Bytes) :
    ((encode bytes).foldl State.step (between output)).finish = .ok (output.reverse ++ bytes) := by
  fun_induction encode bytes generalizing output with
  | case1 a b c rest n ih =>
    have hgroup := foldl_step_three a b c output (encode rest)
    have hnext := ih (c :: b :: a :: output)
    rw [← hgroup] at hnext
    simpa [encode] using hnext
  | case2 a b n => exact finish_two a b output
  | case3 a n => exact finish_one a output
  | case4 => simp [between, State.finish]

/-- Only ASCII is written. -/
theorem encode_ascii (bytes : Bytes) : ∀ c ∈ encode bytes, c.toNat < 128 := by
  have hsextet : ∀ {v : Nat}, v < 64 → (sextetChar v).toNat < 128 := fun h =>
    (sextetChar_spec h).2.2
  fun_induction encode bytes with
  | case1 a b c rest n ih =>
    have ha := a.toNat_lt
    have hb := b.toNat_lt
    have hc := c.toNat_lt
    have hn : n / 262144 < 64 := by omega
    simp only [List.mem_cons, forall_eq_or_imp]
    exact ⟨hsextet hn, hsextet (Nat.mod_lt _ (by decide)), hsextet (Nat.mod_lt _ (by decide)),
      hsextet (Nat.mod_lt _ (by decide)), ih⟩
  | case2 a b n =>
    have ha := a.toNat_lt
    have hb := b.toNat_lt
    have hn : n / 4096 < 64 := by omega
    simp only [List.mem_cons, List.not_mem_nil, forall_eq_or_imp]
    exact ⟨hsextet hn, hsextet (Nat.mod_lt _ (by decide)), hsextet (Nat.mod_lt _ (by decide)),
      by decide, by simp⟩
  | case3 a n =>
    have ha := a.toNat_lt
    have hn : n / 64 < 64 := by omega
    simp only [List.mem_cons, List.not_mem_nil, forall_eq_or_imp]
    exact ⟨hsextet hn, hsextet (Nat.mod_lt _ (by decide)), by decide, by decide, by simp⟩
  | case4 => simp

/-- **Bytes are read back from their base64.** -/
theorem decode_encode (bytes : Bytes) :
    decode ((encode bytes).map Text.CodePoint.scalar) = .ok bytes := by
  have hascii : (encode bytes).all (·.toNat < 128) = true := by
    simpa using encode_ascii bytes
  unfold decode
  rw [Text.toChars?_map_scalar]
  dsimp only
  rw [if_pos hascii]
  exact finish_encode bytes []

end SinkPipeline.Base64
