/-! # Text with surrogates

  The escapes of a JSON string can name half of a surrogate pair, which no
  `Char` can hold.  `Text` is a sequence of code points in which such a lone
  half may stand; a text without one is an ordinary `String`.

  Paths and messages are ordinary strings.  There a lone half is held by its
  **stand-in**, one of 2048 code points that no character has.
-/

namespace SinkPipeline.Text

/-- One code point: a character, or a surrogate `0xD800 + index`. -/
inductive CodePoint where
  /-- A Unicode scalar value. -/
  | scalar (c : Char)
  /-- Half of a surrogate pair, counted from U+D800. -/
  | surrogate (index : Fin 2048)
  deriving DecidableEq, Inhabited, Repr

/-- The number of a code point. -/
def CodePoint.toNat : CodePoint → Nat
  | .scalar c => c.toNat
  | .surrogate i => 0xD800 + i.val

/-- The code point of a number below 0x110000; any other number is taken as
    U+FFFD. -/
def CodePoint.ofNat (n : Nat) : CodePoint :=
  if h : 0xD800 ≤ n ∧ n < 0xE000 then .surrogate ⟨n - 0xD800, by omega⟩
  else if n < 0x110000 then .scalar (Char.ofNat n)
  else .scalar '\uFFFD'

end SinkPipeline.Text

namespace SinkPipeline

/-- A sequence of code points. -/
abbrev Text : Type := List Text.CodePoint

end SinkPipeline

namespace SinkPipeline.Text

/-- The text of a string. -/
def ofString (s : String) : Text := s.toList.map .scalar

/-- The character that a code point is, if it is one. -/
def CodePoint.scalar? : CodePoint → Option Char
  | .scalar c => some c
  | .surrogate _ => none

/-- The characters of a text, if it holds no surrogate. -/
def toChars? (t : Text) : Option (List Char) := t.mapM CodePoint.scalar?

/-- The string of a text, if it holds no surrogate. -/
def toString? (t : Text) : Option String := (toChars? t).map String.ofList

/-- Is the code point a surrogate? -/
def CodePoint.isSurrogate : CodePoint → Bool
  | .scalar _ => false
  | .surrogate _ => true

/-- How many surrogates stand at the front of a text. -/
def surrogateRun (t : Text) : Nat := (t.takeWhile CodePoint.isSurrogate).length

/-- The first surrogate of a text for which `p` holds, and how many code points
    stand before it. -/
def findSurrogate? (p : CodePoint → Bool) (t : Text) : Option (Nat × CodePoint) :=
  (t.zipIdx.find? fun q => q.1.isSurrogate && p q.1).map fun q => (q.2, q.1)

/-- A code point put at the end of a text that is held in reverse.  A high half
    U+D800–U+DBFF directly before a low half U+DC00–U+DFFF is one character
    beyond the basic plane. -/
def pushJoining (p : CodePoint) : Text → Text
  | .surrogate hi :: rest =>
    match p with
    | .surrogate lo =>
      if hi.val < 1024 ∧ 1024 ≤ lo.val then
        .scalar (Char.ofNat (0x10000 + hi.val * 1024 + (lo.val - 1024))) :: rest
      else p :: .surrogate hi :: rest
    | .scalar _ => p :: .surrogate hi :: rest
  | rest => p :: rest

/-! ### Stand-ins -/

/-- The first stand-in. -/
def firstStandIn : Nat := 0xE0800

/-- The character that holds a code point in an ordinary string. -/
def CodePoint.held : CodePoint → Char
  | .scalar c => c
  | .surrogate i => Char.ofNat (firstStandIn + i.val)

/-- The code point that a character holds. -/
def CodePoint.ofHeld (c : Char) : CodePoint :=
  if h : firstStandIn ≤ c.toNat ∧ c.toNat < firstStandIn + 2048 then
    .surrogate ⟨c.toNat - firstStandIn, by omega⟩
  else .scalar c

/-- A text as an ordinary string. -/
def hold (t : Text) : String := String.ofList (t.map CodePoint.held)

/-- The text that an ordinary string holds. -/
def ofHeld (s : String) : Text := s.toList.map CodePoint.ofHeld

/-- The numbers of the code points that an ordinary string holds. -/
def codes (s : String) : List Nat := (ofHeld s).map CodePoint.toNat

/-- Does an ordinary string come before another one, or is it the same, in the order
    of the code points that they hold? -/
def precedes (s t : String) : Bool := !(codes t).lex (codes s)

/-- Has the code point a byte of its own in a path?  The surrogates U+DC80 to
    U+DCFF have: they are the bytes that are no UTF-8. -/
def CodePoint.isPathByte (p : CodePoint) : Bool := 0xDC80 ≤ p.toNat && p.toNat ≤ 0xDCFF

/-! ### Laws -/

/-- The number of the character of a number. -/
theorem toNat_ofNat {n : Nat} (h : n.isValidChar) : (Char.ofNat n).toNat = n := by
  rw [Char.ofNat, dif_pos h]
  rfl

@[simp] theorem toChars?_map_scalar (cs : List Char) :
    toChars? (cs.map CodePoint.scalar) = some cs := by
  induction cs with
  | nil => rfl
  | cons c cs ih =>
    simp only [toChars?] at ih
    simp [toChars?, CodePoint.scalar?, ih]

/-- A text of characters is that of its characters. -/
theorem eq_of_toChars? {t : Text} {cs : List Char} (h : t.toChars? = some cs) :
    t = cs.map CodePoint.scalar := by
  induction t generalizing cs with
  | nil =>
    cases h
    rfl
  | cons p t ih =>
    cases p with
    | surrogate i => cases h
    | scalar c =>
      unfold toChars? at h ih
      simp only [List.mapM_cons, CodePoint.scalar?, Option.bind_eq_bind, Option.bind_some] at h
      obtain ⟨ds, hds, hcs⟩ := Option.bind_eq_some_iff.mp h
      cases hcs
      rw [ih hds, List.map_cons]

/-- A string is read back from its text. -/
@[simp] theorem toString?_ofString (s : String) : toString? (ofString s) = some s := by
  simp [toString?, ofString]

theorem CodePoint.eq_of_toNat {p q : CodePoint} (h : p.toNat = q.toNat) : p = q := by
  cases p with
  | scalar c =>
    cases q with
    | scalar d => rw [Char.toNat_inj.mp h]
    | surrogate j =>
      -- A character has no number of a surrogate.
      have hc : c.toNat.isValidChar := c.valid
      simp only [toNat] at h
      have hj := j.isLt
      unfold Nat.isValidChar at hc
      omega
  | surrogate i =>
    cases q with
    | scalar d =>
      have hd : d.toNat.isValidChar := d.valid
      simp only [toNat] at h
      have hi := i.isLt
      unfold Nat.isValidChar at hd
      omega
    | surrogate j =>
      simp only [toNat] at h
      rw [show i = j from Fin.ext (by omega)]

theorem CodePoint.eq_of_ofHeld {c d : Char} (h : ofHeld c = ofHeld d) : c = d := by
  unfold ofHeld at h
  split at h
  · split at h
    · simp only [CodePoint.surrogate.injEq, Fin.mk.injEq] at h
      exact Char.toNat_inj.mp (by omega)
    · cases h
  · split at h
    · cases h
    · cases h
      rfl

/-- A string is known by the code points that it holds. -/
theorem eq_of_codes {s t : String} (h : codes s = codes t) : s = t := by
  have hpoints : ofHeld s = ofHeld t := List.map_inj_right (fun _ _ => CodePoint.eq_of_toNat) |>.mp h
  have hchars : s.toList = t.toList :=
    List.map_inj_right (fun _ _ => CodePoint.eq_of_ofHeld) |>.mp hpoints
  exact String.toList_inj.mp hchars

/-- That it does is the order of lists of numbers. -/
theorem precedes_iff {s t : String} :
    precedes s t = true ↔ @LE.le (List Nat) List.instLE (codes s) (codes t) := by
  rw [precedes, Bool.not_eq_true', List.lex_eq_false_iff_ge]

theorem precedes_trans {s t u : String} (h : precedes s t = true) (h' : precedes t u = true) :
    precedes s u = true := by
  rw [precedes_iff] at h h' ⊢
  exact List.le_trans h h'

theorem precedes_total (s t : String) : (precedes s t || precedes t s) = true := by
  rw [Bool.or_eq_true, precedes_iff, precedes_iff]
  exact List.le_total _ _

theorem precedes_antisymm {s t : String} (h : precedes s t = true) (h' : precedes t s = true) :
    s = t := by
  rw [precedes_iff] at h h'
  exact eq_of_codes (List.le_antisymm h h')

end SinkPipeline.Text
