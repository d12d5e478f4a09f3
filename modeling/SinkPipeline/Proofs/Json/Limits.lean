import Mathlib.Data.List.TakeDrop
import Mathlib.Data.List.TakeWhile
import SinkPipeline.Json.Reader

/-! # What is refused although it may be JSON

  Reading refuses two kinds of text that may be JSON: a whole number of too many
  digits, and too many arrays and objects inside each other.  Both are seen in
  the text itself.

  - A number that is refused has all of its **digits** in the text, one after
    the other.
  - An array or object that is open has its **opening bracket** in the text, so
    a text that is too deep has more of these than may be open at once.

  Both are kept along the scanner, one character at a time, and then along the
  reader, one token at a time.
-/

namespace SinkPipeline.Json

/-! ### Digits and brackets -/

/-- Some text holds `n` digits, one after the other. -/
def HoldsDigits (n : Nat) (cs : List Char) : Prop :=
  ∃ ds, ds <:+: cs ∧ ds.length = n ∧ ∀ d ∈ ds, d.isDigit = true

/-- Does an array or object begin with the character? -/
def isOpening (c : Char) : Bool := c == '[' || c == '\x7b'

/-- Does an array or object begin with the token? -/
def Token.isOpening : Token → Bool
  | .openArray | .openObject => true
  | _ => false

theorem HoldsDigits.mono {n : Nat} {cs cs' : List Char} (h : HoldsDigits n cs) (hcs : cs <:+: cs') :
    HoldsDigits n cs' := by
  obtain ⟨ds, hds, hlength, hdigits⟩ := h
  exact ⟨ds, hds.trans hcs, hlength, hdigits⟩

/-- What a token tells of the text that it was read from: it opens nothing, and a
    number that is refused has its digits there. -/
def Token.Tells (cs : List Char) (t : Token) : Prop :=
  t.isOpening = false ∧ ∀ n, t = .hugeInteger n → maxIntegerDigits < n ∧ HoldsDigits n cs

theorem integerPart_spec {cs whole rest : List Char} (h : integerPart cs = some (whole, rest)) :
    whole <+: cs ∧ ∀ d ∈ whole, d.isDigit = true := by
  unfold integerPart at h
  split at h
  · cases h
    exact ⟨⟨rest, rfl⟩, by simp⟩
  · split at h
    · rw [spanDigits, List.span_eq_takeWhile_dropWhile] at h
      cases h
      exact ⟨List.takeWhile_prefix _, fun d hd => List.mem_takeWhile_imp hd⟩
    · cases h
  · cases h

/-- What stands after a number tells nothing. -/
theorem tells_of_mem_thenBad {cs rest : List Char} {t : Token} (h : t ∈ thenBad rest) :
    t.Tells cs := by
  cases rest with
  | nil => cases h
  | cons _ _ =>
    obtain rfl := List.mem_singleton.mp h
    exact ⟨rfl, by simp⟩

theorem tells_of_mem_numberTokens {negative : Bool} {cs : List Char} {t : Token}
    (h : t ∈ numberTokens negative cs) : t.Tells cs := by
  unfold numberTokens at h
  split at h
  · obtain rfl := List.mem_singleton.mp h
    exact ⟨rfl, by simp⟩
  · next whole rest hwhole =>
    obtain ⟨hfront, hdigits⟩ := integerPart_spec hwhole
    dsimp only at h
    split at h
    · split at h
      · next hhuge =>
        rcases List.mem_cons.mp h with rfl | h
        · refine ⟨rfl, fun n hn => ?_⟩
          cases hn
          exact ⟨hhuge, whole, hfront.isInfix, rfl, hdigits⟩
        · exact tells_of_mem_thenBad h
      · rcases List.mem_cons.mp h with rfl | h
        · exact ⟨rfl, by simp⟩
        · exact tells_of_mem_thenBad h
    · rcases List.mem_cons.mp h with rfl | h
      · exact ⟨rfl, by simp⟩
      · exact tells_of_mem_thenBad h

/-- **What a word or number tells.** -/
theorem tells_of_mem_wordTokens {cs : List Char} {t : Token} (h : t ∈ wordTokens cs) :
    t.Tells cs := by
  unfold wordTokens at h
  split at h
  case h_7 =>
    split at h
    · obtain ⟨hopen, hhuge⟩ := tells_of_mem_numberTokens h
      refine ⟨hopen, fun n hn => ?_⟩
      obtain ⟨hlimit, hdigits⟩ := hhuge n hn
      exact ⟨hlimit, hdigits.mono (List.suffix_cons _ _).isInfix⟩
    · exact tells_of_mem_numberTokens h
  all_goals
    obtain rfl := List.mem_singleton.mp h
    exact ⟨rfl, by simp⟩

/-! ### Along the scanner -/

/-- **What one character does**: it begins a word or goes on with one, its tokens
    open no more than it does itself, and a number that is refused is a word
    that it ends. -/
structure Feeds (s : Scan) (c : Char) (out : Scan × List Token) : Prop where
  /-- The word that is begun. -/
  word : ∀ w, out.1 = .word w → w = [c] ∨ ∃ w', s = .word w' ∧ w = c :: w'
  /-- Numbers that are refused. -/
  huge : ∀ n, .hugeInteger n ∈ out.2 → ∃ w, s = .word w ∧ .hugeInteger n ∈ wordTokens w.reverse
  /-- What is opened. -/
  opens : out.2.countP Token.isOpening ≤ [c].countP isOpening

/-- A character that ends in a state without a word, and completes at most a token
    that is neither a bracket nor a number. -/
theorem feeds_of_quiet {s : Scan} {c : Char} {out : Scan × List Token}
    (hword : ∀ w, out.1 ≠ .word w) (htokens : ∀ t ∈ out.2, t.isOpening = false ∧ ∀ n, t ≠ .hugeInteger n) :
    Feeds s c out where
  word w h := absurd h (hword w)
  huge n h := absurd rfl ((htokens _ h).2 n)
  opens := by
    rw [List.countP_eq_zero.mpr fun t ht => by simp [(htokens t ht).1]]
    exact Nat.zero_le _

theorem feeds_scanBetween (s : Scan) (c : Char) : Feeds s c (scanBetween c) := by
  unfold scanBetween
  split
  case h_5 | h_7 =>
    exact ⟨by simp, by simp, Nat.le_refl 1⟩
  case h_12 =>
    split
    · exact ⟨fun w h => .inl (Scan.word.inj h).symm, by simp, Nat.zero_le _⟩
    · exact feeds_of_quiet (by simp) (by simp [Token.isOpening])
  all_goals exact feeds_of_quiet (by simp) (by simp [Token.isOpening])

theorem feeds_scanStep (s : Scan) (c : Char) : Feeds s c (scanStep s c) := by
  cases s with
  | between => exact feeds_scanBetween _ c
  | word acc =>
    rw [scanStep]
    split
    · exact ⟨fun w h => .inr ⟨acc, rfl, (Scan.word.inj h).symm⟩, by simp, Nat.zero_le _⟩
    · obtain ⟨hword, hhuge, hopens⟩ := feeds_scanBetween (.word acc) c
      refine ⟨hword, fun n h => ?_, ?_⟩
      · rcases List.mem_append.mp h with h | h
        · exact ⟨acc, rfl, h⟩
        · exact hhuge n h
      · have hclosed : (wordTokens acc.reverse).countP Token.isOpening = 0 :=
          List.countP_eq_zero.mpr fun t ht => by simp [(tells_of_mem_wordTokens ht).1]
        rw [List.countP_append, hclosed, Nat.zero_add]
        exact hopens
  | string acc =>
    rw [scanStep]
    (repeat' split) <;> exact feeds_of_quiet (by simp) (by simp [Token.isOpening])
  | escape acc =>
    rw [scanStep]
    (repeat' split) <;> exact feeds_of_quiet (by simp) (by simp [Token.isOpening])
  | hex acc left value =>
    rw [scanStep]
    (repeat' split) <;> exact feeds_of_quiet (by simp) (by simp [Token.isOpening])
  | stopped => exact feeds_of_quiet (by simp [scanStep]) (by simp [scanStep])

/-- **What the scanner has seen** of a text: the word that it has begun stands at
    the end, and its tokens tell of the text. -/
structure Scanned (done : List Char) (acc : Scan × List Token) : Prop where
  /-- The word that is begun. -/
  word : ∀ w, acc.1 = .word w → w.reverse <:+ done
  /-- Numbers that are refused. -/
  huge : ∀ n, .hugeInteger n ∈ acc.2 → maxIntegerDigits < n ∧ HoldsDigits n done
  /-- What was opened. -/
  opens : acc.2.countP Token.isOpening ≤ done.countP isOpening

/-- One more character. -/
theorem Scanned.feed {done : List Char} {acc : Scan × List Token} (h : Scanned done acc) (c : Char) :
    Scanned (done ++ [c]) (scanFeed acc c) := by
  obtain ⟨hword, hhuge, hopens⟩ := feeds_scanStep acc.1 c
  have hlonger : done <:+: done ++ [c] := (List.prefix_append _ _).isInfix
  refine ⟨fun w hw => ?_, fun n hn => ?_, ?_⟩
  -- The word is begun by this character, or stood at the end before it.
  · rcases hword w hw with rfl | ⟨w', hw', rfl⟩
    · exact List.suffix_append _ _
    · obtain ⟨front, hfront⟩ := h.word w' hw'
      exact ⟨front, by rw [← hfront]; simp⟩
  · rcases List.mem_append.mp hn with hn | hn
    -- A number that this character completes is the word that stood at the end.
    · obtain ⟨w, hw, hmem⟩ := hhuge n (List.mem_reverse.mp hn)
      obtain ⟨hlimit, hdigits⟩ := (tells_of_mem_wordTokens hmem).2 n rfl
      exact ⟨hlimit, hdigits.mono ((h.word w hw).isInfix.trans hlonger)⟩
    · obtain ⟨hlimit, hdigits⟩ := h.huge n hn
      exact ⟨hlimit, hdigits.mono hlonger⟩
  · have hbefore := h.opens
    show (_ ++ acc.2).countP _ ≤ _
    rw [List.countP_append, List.countP_append, List.countP_reverse]
    omega

/-- All characters, one after the other. -/
theorem Scanned.feedAll {done : List Char} {acc : Scan × List Token} (h : Scanned done acc)
    (cs : List Char) : Scanned (done ++ cs) (cs.foldl scanFeed acc) := by
  induction cs generalizing done acc with
  | nil => simpa using h
  | cons c cs ih =>
    have hrest := ih (h.feed c)
    rwa [List.append_assoc, List.singleton_append] at hrest

/-- **What the tokens of a text tell**: the digits of a number that is refused are
    in it, and so are the brackets of all that is opened. -/
theorem tokens_spec (cs : List Char) :
    (∀ n, .hugeInteger n ∈ tokens cs → maxIntegerDigits < n ∧ HoldsDigits n cs) ∧
      (tokens cs).countP Token.isOpening ≤ cs.countP isOpening := by
  have hstart : Scanned [] (.between, []) := ⟨by simp, by simp, Nat.le_refl 0⟩
  have hall := hstart.feedAll cs
  rw [List.nil_append] at hall
  -- The end of the text may still give tokens, but none that opens anything.
  have hend : ∀ t ∈ scanEnd (cs.foldl scanFeed (.between, [])).1, t.Tells cs := by
    intro t ht
    unfold scanEnd at ht
    split at ht
    · cases ht
    · next w hw =>
      obtain ⟨hopen, hhuge⟩ := tells_of_mem_wordTokens ht
      refine ⟨hopen, fun n hn => ?_⟩
      obtain ⟨hlimit, hdigits⟩ := hhuge n hn
      exact ⟨hlimit, hdigits.mono (hall.word w hw).isInfix⟩
    · cases ht
    · obtain rfl := List.mem_singleton.mp ht
      exact ⟨rfl, by simp⟩
  unfold tokens
  constructor
  · intro n hn
    rcases List.mem_append.mp hn with hn | hn
    · exact hall.huge n (List.mem_reverse.mp hn)
    · exact (hend _ hn).2 n rfl
  · have hclosed : (scanEnd (cs.foldl scanFeed (.between, [])).1).countP Token.isOpening = 0 :=
      List.countP_eq_zero.mpr fun t ht => by simp [(hend t ht).1]
    rw [List.countP_append, List.countP_reverse, hclosed, Nat.add_zero]
    exact hall.opens

/-! ### Along the reader -/

/-- **Why a token cannot be read.** -/
inductive Refuses (depth : Nat) (t : Token) : ReadError → Prop where
  /-- It does not fit. -/
  | malformed : Refuses depth t .malformed
  /-- It is a number of too many digits. -/
  | hugeInteger {n : Nat} (h : t = .hugeInteger n) : Refuses depth t (.hugeInteger n)
  /-- It opens one more than may be open. -/
  | tooDeep {isArray : Bool} (hdepth : maxDepth ≤ depth) (h : t.isOpening = true) :
      Refuses depth t (.tooDeep isArray)

/-- A value is begun, no deeper than its token says, or refused. -/
theorem beginValue_spec (r : Reading) (t : Token) :
    (∀ r', beginValue r t = .ok r' → r'.depth ≤ r.depth + [t].countP Token.isOpening) ∧
      ∀ e, beginValue r t = .error e → Refuses r.depth t e := by
  unfold beginValue
  constructor
  · intro r' h
    (repeat' split at h) <;> cases h <;> simp [Token.isOpening]
  · intro e h
    (repeat' split at h) <;> cases h
    · exact .hugeInteger rfl
    · exact .tooDeep (by assumption) rfl
    · exact .tooDeep (by assumption) rfl
    · exact .malformed

/-- **One token** is read, no deeper than it says, or refused. -/
theorem readStep_spec (r : Reading) (t : Token) :
    (∀ r', readStep r t = .ok r' → r'.depth ≤ r.depth + [t].countP Token.isOpening) ∧
      ∀ e, readStep r t = .error e → Refuses r.depth t e := by
  obtain ⟨hdeeper, hrefused⟩ := beginValue_spec r t
  unfold readStep
  constructor
  · intro r' h
    split at h
    · exact hdeeper r' h
    · split at h
      · cases h
        simp
        omega
      · exact hdeeper r' h
    -- What is closed or goes on is no deeper than before.
    all_goals
      split at h <;> cases h <;> simp <;> omega
  · intro e h
    split at h
    · exact hrefused e h
    · split at h
      · cases h
      · exact hrefused e h
    all_goals
      split at h <;> cases h
      exact .malformed

/-- **Why a sequence of tokens cannot be read.** -/
theorem foldlM_readStep_error {ts : List Token} {r : Reading} {e : ReadError}
    (h : ts.foldlM readStep r = .error e) :
    e = .malformed ∨ (∃ n, e = .hugeInteger n ∧ .hugeInteger n ∈ ts) ∨
      ∃ isArray, e = .tooDeep isArray ∧ maxDepth < r.depth + ts.countP Token.isOpening := by
  -- Along the tokens, with the depth that is reached: only an opening token raises it.
  induction ts generalizing r with
  | nil => cases h
  | cons t ts ih =>
    rw [List.foldlM_cons] at h
    obtain ⟨hdeeper, hrefused⟩ := readStep_spec r t
    have hcount : (t :: ts).countP Token.isOpening =
        [t].countP Token.isOpening + ts.countP Token.isOpening := by
      rw [← List.countP_append, List.singleton_append]
    cases hstep : readStep r t with
    | error e' =>
      rw [hstep] at h
      cases h
      cases hrefused e hstep with
      | malformed => exact .inl rfl
      | hugeInteger ht => exact .inr (.inl ⟨_, rfl, by simp [ht]⟩)
      | tooDeep hdepth ht =>
        have hone : [t].countP Token.isOpening = 1 := by simp [ht]
        exact .inr (.inr ⟨_, rfl, by omega⟩)
    | ok r' =>
      rw [hstep] at h
      have hdepth := hdeeper r' hstep
      rcases ih h with rfl | ⟨n, rfl, hn⟩ | ⟨isArray, rfl, hdeep⟩
      · exact .inl rfl
      · exact .inr (.inl ⟨n, rfl, by simp [hn]⟩)
      · exact .inr (.inr ⟨isArray, rfl, by omega⟩)

/-- **Why a text cannot be read**: it is not JSON, or holds more digits one after
    the other than are read, or more opening brackets than may be open at once. -/
theorem read_error {s : String} {e : ReadError} (h : read s = .error e) :
    e = .malformed ∨
      (∃ n, e = .hugeInteger n ∧ maxIntegerDigits < n ∧ HoldsDigits n s.toList) ∨
      ∃ isArray, e = .tooDeep isArray ∧ maxDepth < s.toList.countP isOpening := by
  obtain ⟨hhuge, hopens⟩ := tokens_spec s.toList
  unfold read readTokens at h
  cases htokens : (tokens s.toList).foldlM readStep {} with
  | ok r =>
    rw [htokens] at h
    left
    change readEnd r = .error e at h
    unfold readEnd at h
    split at h <;> cases h
    rfl
  | error e' =>
    rw [htokens] at h
    cases h
    rcases foldlM_readStep_error htokens with rfl | ⟨n, rfl, hn⟩ | ⟨isArray, rfl, hdeep⟩
    · exact .inl rfl
    · exact .inr (.inl ⟨n, rfl, hhuge n hn⟩)
    · have hstart : ({} : Reading).depth = 0 := rfl
      exact .inr (.inr ⟨isArray, rfl, by omega⟩)

/-! ### A number of too many digits -/

theorem isWordChar_of_isDigit {c : Char} (h : c.isDigit = true) : isWordChar c = true := by
  simp [isWordChar, Char.isAlphanum, h]

/-- Digits go on with a word. -/
theorem foldl_scanFeed_digits {ds : List Char} (h : ∀ d ∈ ds, d.isDigit = true) (acc : List Char)
    (out : List Token) : ds.foldl scanFeed (.word acc, out) = (.word (ds.reverse ++ acc), out) := by
  induction ds generalizing acc with
  | nil => rfl
  | cons d ds ih =>
    have hd := isWordChar_of_isDigit (h d (by simp))
    have hstep : scanFeed (.word acc, out) d = (.word (d :: acc), out) := by
      simp [scanFeed, scanStep, hd]
    rw [List.foldl_cons, hstep, ih fun x hx => h x (by simp [hx])]
    simp

/-- Digits alone are one word. -/
theorem tokens_digits {d : Char} {ds : List Char} (h : ∀ x ∈ d :: ds, x.isDigit = true) :
    tokens (d :: ds) = wordTokens (d :: ds) := by
  have hd := h d (by simp)
  have hbegin : scanBetween d = (.word [d], []) := by
    have hne : ∀ x : Char, x.isDigit = false → d ≠ x := by
      rintro x hx rfl
      rw [hd] at hx
      cases hx
    unfold scanBetween
    split
    case h_12 => rw [if_pos (isWordChar_of_isDigit hd)]
    all_goals exact absurd rfl (hne _ (by decide))
  have hstep : scanFeed (.between, []) d = (.word [d], []) := by
    simp [scanFeed, scanStep, hbegin]
  unfold tokens
  rw [List.foldl_cons, hstep, foldl_scanFeed_digits fun x hx => h x (by simp [hx])]
  simp [scanEnd]

/-- Digits alone are a number. -/
theorem wordTokens_digits {d : Char} {ds : List Char} (h : ∀ x ∈ d :: ds, x.isDigit = true) :
    wordTokens (d :: ds) = numberTokens false (d :: ds) := by
  -- No word with a meaning of its own is made of digits.
  have hne : ∀ s : String, s.toList.all Char.isDigit = false → String.ofList (d :: ds) ≠ s := by
    rintro s hs rfl
    rw [String.toList_ofList, List.all_eq_true.mpr h] at hs
    cases hs
  unfold wordTokens
  split
  case h_7 =>
    split
    · next rest hminus =>
      obtain rfl := (List.cons.inj hminus).1
      exact absurd (h '-' (by simp)) (by decide)
    · rfl
  all_goals
    next hword => exact absurd hword (hne _ (by decide))

/-- **A whole number of too many digits is refused.** -/
theorem read_huge {d : Char} {ds : List Char} (h : ∀ x ∈ d :: ds, x.isDigit = true) (hd : d ≠ '0')
    (hlong : maxIntegerDigits < (d :: ds).length) :
    read (String.ofList (d :: ds)) = .error (.hugeInteger (d :: ds).length) := by
  have hspan : spanDigits (d :: ds) = (d :: ds, []) := by
    rw [spanDigits, List.span_eq_takeWhile_dropWhile, List.takeWhile_eq_self_iff.mpr h,
      List.dropWhile_eq_nil_iff.mpr h]
  have hinteger : integerPart (d :: ds) = some (d :: ds, []) := by
    unfold integerPart
    split
    · next hzero => exact absurd (List.cons.inj hzero).1 hd
    · next hcons =>
      rw [← (List.cons.inj hcons).1, if_pos (h d (by simp)), hspan]
    · next hnil => cases hnil
  have hnumber : numberTokens false (d :: ds) = [.hugeInteger (d :: ds).length] := by
    unfold numberTokens
    rw [hinteger]
    dsimp only [fractionPart, exponentPart, Option.map_none, Option.getD_none]
    rw [if_pos hlong]
    rfl
  unfold read
  rw [String.toList_ofList, tokens_digits h, wordTokens_digits h, hnumber]
  rfl

end SinkPipeline.Json
