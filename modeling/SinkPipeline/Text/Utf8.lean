import SinkPipeline.Text.CodePoint

/-! # UTF-8

  Encoding, and decoding that never fails: a byte that cannot continue the
  character begun before it ends that character as U+FFFD and is looked at
  again, so each **maximal ill-formed part** of the input becomes one U+FFFD.

  Decoding is a machine that takes one byte at a time.  Running it over two
  pieces one after the other is therefore the same as running it over their
  concatenation, wherever the cut falls.
-/

namespace SinkPipeline

/-- A sequence of bytes. -/
abbrev Bytes : Type := List UInt8

end SinkPipeline

namespace SinkPipeline.Text.Utf8

/-! ### Encoding -/

/-- The bytes of one character. -/
def encodeChar (c : Char) : Bytes :=
  let n := c.toNat
  if n < 0x80 then [n.toUInt8]
  else if n < 0x800 then [(0xC0 + n / 64).toUInt8, (0x80 + n % 64).toUInt8]
  else if n < 0x10000 then
    [(0xE0 + n / 4096).toUInt8, (0x80 + n / 64 % 64).toUInt8, (0x80 + n % 64).toUInt8]
  else
    [(0xF0 + n / 262144).toUInt8, (0x80 + n / 4096 % 64).toUInt8, (0x80 + n / 64 % 64).toUInt8,
      (0x80 + n % 64).toUInt8]

/-- The bytes of a sequence of characters. -/
def encodeChars (cs : List Char) : Bytes := cs.flatMap encodeChar

/-- The bytes of a string. -/
def encode (s : String) : Bytes := encodeChars s.toList

/-! ### Decoding -/

/-- What the machine holds between two bytes. -/
inductive State where
  /-- Between characters. -/
  | start
  /-- Inside a character: `value` is what its bytes have given so far, `owed`
      counts the bytes still to come after the next one, and the next byte must
      lie between `low` and `high`. -/
  | inside (value : Nat) (owed : Nat) (low high : Nat)
  deriving DecidableEq, Repr

/-- What one byte means as the first byte of a character: a character of its
    own, the beginning of a longer one, or a byte that no character starts
    with. -/
def lead (b : Nat) : State × List Char :=
  if b < 0x80 then (.start, [Char.ofNat b])
  else if b < 0xC2 then (.start, ['\uFFFD'])
  else if b < 0xE0 then (.inside (b - 0xC0) 0 0x80 0xBF, [])
  -- Some first bytes narrow the next one: no overlong form, no surrogate, no number too large.
  else if b = 0xE0 then (.inside 0 1 0xA0 0xBF, [])
  else if b = 0xED then (.inside 0xD 1 0x80 0x9F, [])
  else if b < 0xF0 then (.inside (b - 0xE0) 1 0x80 0xBF, [])
  else if b = 0xF0 then (.inside 0 2 0x90 0xBF, [])
  else if b < 0xF4 then (.inside (b - 0xF0) 2 0x80 0xBF, [])
  else if b = 0xF4 then (.inside 4 2 0x80 0x8F, [])
  else (.start, ['\uFFFD'])

/-- One byte: the state after it and the characters that it completes. -/
def step (s : State) (b : UInt8) : State × List Char :=
  match s with
  | .start => lead b.toNat
  | .inside value owed low high =>
    if low ≤ b.toNat ∧ b.toNat ≤ high then
      let value := value * 64 + (b.toNat - 0x80)
      match owed with
      | 0 => (.start, [Char.ofNat value])
      | owed + 1 => (.inside value owed 0x80 0xBF, [])
    else
      -- The byte ends the part before it, and is looked at again.
      let next := lead b.toNat
      (next.1, '\uFFFD' :: next.2)

/-- One byte, with the characters so far held in reverse. -/
def feed (acc : State × List Char) (b : UInt8) : State × List Char :=
  let next := step acc.1 b
  (next.1, next.2.reverse ++ acc.2)

/-- The state after a piece of input and the characters that it completes. -/
def run (s : State) (bytes : Bytes) : State × List Char :=
  let out := bytes.foldl feed (s, [])
  (out.1, out.2.reverse)

/-- What is owed at the end of the input: a character cut short is one U+FFFD. -/
def finish : State → List Char
  | .start => []
  | .inside .. => ['\uFFFD']

/-- All of the input at once. -/
def decode (bytes : Bytes) : List Char :=
  let out := run .start bytes
  out.2 ++ finish out.1

/-- The string of the input, if it is well-formed: decoding and encoding again
    gives the same bytes. -/
def decode? (bytes : Bytes) : Option String :=
  let cs := decode bytes
  if encodeChars cs = bytes then some (String.ofList cs) else none

/-! ### Laws -/

theorem foldl_feed (s : State) (acc : List Char) (bytes : Bytes) :
    bytes.foldl feed (s, acc) =
      ((bytes.foldl feed (s, [])).1, (bytes.foldl feed (s, [])).2 ++ acc) := by
  induction bytes generalizing s acc with
  | nil => rfl
  | cons b bytes ih =>
    simp only [List.foldl_cons, feed]
    rw [ih, ih _ ((step s b).2.reverse ++ [])]
    simp

/-- Two pieces one after the other are decoded like their concatenation. -/
theorem run_append (s : State) (a b : Bytes) :
    run s (a ++ b) = ((run (run s a).1 b).1, (run s a).2 ++ (run (run s a).1 b).2) := by
  simp only [run, List.foldl_append]
  rw [foldl_feed (a.foldl feed (s, [])).1 (a.foldl feed (s, [])).2 b]
  simp

@[simp] theorem run_nil (s : State) : run s [] = (s, []) := rfl

end SinkPipeline.Text.Utf8
