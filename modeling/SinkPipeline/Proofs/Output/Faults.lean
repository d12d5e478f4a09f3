import Mathlib.Data.List.DropRight
import SinkPipeline.Proofs.Json.Limits
import SinkPipeline.Proofs.Output.Failing
import SinkPipeline.Proofs.Output.ManyFiles
import SinkPipeline.Proofs.Text.Utf8

/-! # Which faults a stream of records ends in

  A run over a stream of records ends in one of few ways: with a result, with
  the fault of the stream itself, or with a failure to write a file.  A line
  that is no record does not end it.

  But some lines are **stray**: reading them, or turning the content of their
  record into bytes, fails in a way of its own, and the run passes that on as it
  is.  These lines have a number of too many digits, or too many arrays and
  objects inside each other, or content with half of a surrogate pair.  A stray
  line that is reached always ends the run.
-/

namespace SinkPipeline

namespace Text

/-- What is left of a text without the blanks at its ends stands in it. -/
theorem stripBlanks_infix (cs : List Char) : stripBlanks cs <:+: cs :=
  (List.rdropWhile_prefix isBlank (cs.dropWhile isBlank)).isInfix.trans
    (List.dropWhile_suffix isBlank).isInfix

/-- A text without blanks is left as it is. -/
theorem stripBlanks_of_no_blank {cs : List Char} (h : ∀ c ∈ cs, isBlank c = false) :
    stripBlanks cs = cs := by
  have hkept : ∀ cs : List Char, (∀ c ∈ cs, isBlank c = false) → cs.dropWhile isBlank = cs := by
    intro cs h
    cases cs with
    | nil => rfl
    | cons c cs => exact List.dropWhile_cons_of_neg (by simp [h c])
  unfold stripBlanks
  rw [hkept cs h, hkept cs.reverse fun c hc => h c (List.mem_reverse.mp hc), List.reverse_reverse]

end Text

namespace Record

/-- The fault of a text that cannot be encoded. -/
theorem encodeText_error {t : Text} {f : Fault} (h : encodeText t = .error f) :
    f.isEngine = false ∧ ∃ p ∈ t, p.isSurrogate = true := by
  unfold encodeText Fault.ofSurrogates? Text.findSurrogate? at h
  split at h
  · next g hsome =>
    cases h
    obtain ⟨found, hfound, rfl⟩ := Option.map_eq_some_iff.mp hsome
    obtain ⟨q, hq, -⟩ := Option.map_eq_some_iff.mp hfound
    have hsurrogate := List.find?_some hq
    exact ⟨rfl, q.1, List.fst_mem_of_mem_zipIdx (List.mem_of_find?_eq_some hq), by simpa using hsurrogate⟩
  · cases h

/-- The fault of content that cannot be decoded: a failure to write, for base64. -/
theorem decode_error {r : Record} {f : Fault} (h : r.decode = .error f) :
    f.IsMaterialize ∨ r.encoding ≠ some base64Word ∧ encodeText r.content = .error f := by
  unfold decode at h
  split at h
  · split at h
    · cases h
    · cases h
      exact .inl ⟨_, _, _, rfl⟩
  · next hencoding => exact .inr ⟨hencoding, h⟩

end Record

namespace Materialize

variable {ν : Type}

/-! ### Lines that are no records -/

/-- **A line that is no record**: its text is not JSON, or not the JSON of a
    record. -/
inductive NoRecord (line : List Char) : Prop where
  /-- It is not JSON. -/
  | malformed (hread : Json.read (String.ofList (Text.stripBlanks line)) = .error .malformed)
  /-- It is no object, or a member is missing or no string. -/
  | invalid {v : Json} (hread : Json.read (String.ofList (Text.stripBlanks line)) = .ok v)
      (herrors : Record.errorsOf v ≠ [])

/-- **It is dropped**, unless it is blank. -/
theorem asked_of_noRecord {line : List Char} (h : NoRecord line)
    (hline : Text.stripBlanks line ≠ []) (base : Path) : asked base line = .dropping := by
  have hnone : Record.ofLine (String.ofList (Text.stripBlanks line)) = .ok none := by
    unfold Record.ofLine
    cases h with
    | malformed hread =>
      rw [hread]
      rfl
    | @invalid v hread herrors =>
      rw [hread]
      dsimp only
      unfold Record.ofJson
      split
      · next hnil => exact absurd hnil herrors
      · rfl
  unfold asked
  split
  · next hnil => exact absurd hnil hline
  · rw [hnone]

/-! ### Stray lines -/

/-- **A stray line**, and the fault that it ends the run in. -/
inductive Stray (line : List Char) : Fault → Prop where
  /-- It cannot be read, although it may be JSON. -/
  | unread {e : Json.ReadError} {f : Fault}
      (hread : Json.read (String.ofList (Text.stripBlanks line)) = .error e)
      (hfault : Record.readFault? e = some f) : Stray line f
  /-- It is a record whose content, which is text, has no bytes. -/
  | unencoded {r : Record} {f : Fault} (hrecord : recordOn line = some r)
      (hencoding : r.encoding ≠ some Record.base64Word)
      (hcontent : Record.encodeText r.content = .error f) : Stray line f

/-- **What is seen in a stray line**: too many digits one after the other, too many
    opening brackets, or a record of text with half of a surrogate pair. -/
def Excessive (line : List Char) : Prop :=
  (∃ n, Json.maxIntegerDigits < n ∧ Json.HoldsDigits n line) ∨
    Json.maxDepth < line.countP Json.isOpening ∨
    ∃ r, recordOn line = some r ∧ r.encoding ≠ some Record.base64Word ∧
      ∃ p ∈ r.content, p.isSurrogate = true

theorem Stray.excessive {line : List Char} {f : Fault} (h : Stray line f) : Excessive line := by
  cases h with
  | unencoded hrecord hencoding hcontent =>
    exact .inr (.inr ⟨_, hrecord, hencoding, (Record.encodeText_error hcontent).2⟩)
  | unread hread hfault =>
    have hstripped := Text.stripBlanks_infix line
    rcases Json.read_error hread with rfl | ⟨n, rfl, hlimit, hdigits⟩ | ⟨isArray, rfl, hdeep⟩
    · cases hfault
    · rw [String.toList_ofList] at hdigits
      exact .inl ⟨n, hlimit, hdigits.mono hstripped⟩
    · rw [String.toList_ofList] at hdeep
      exact .inr (.inl (Nat.lt_of_lt_of_le hdeep hstripped.sublist.countP_le))

/-- Its fault is none of this library. -/
theorem Stray.isEngine {line : List Char} {f : Fault} (h : Stray line f) : f.isEngine = false := by
  cases h with
  | unencoded _ _ hcontent => exact (Record.encodeText_error hcontent).1
  | @unread e f _ hfault =>
    cases e with
    | malformed => cases hfault
    | hugeInteger n =>
      cases hfault
      rfl
    | tooDeep isArray =>
      cases hfault
      rfl

/-- **What a stray line asks for** is its fault. -/
theorem Stray.asked {line : List Char} {f : Fault} (h : Stray line f) (base : Path) :
    asked base line = .fault f := by
  -- A blank line is malformed, so it is not stray.
  have hblank : Json.read (String.ofList []) = .error .malformed := rfl
  unfold Materialize.asked
  cases h with
  | unread hread hfault =>
    split
    · next hnil =>
      rw [hnil, hblank] at hread
      cases hread
      cases hfault
    · unfold Record.ofLine
      rw [hread]
      dsimp only
      rw [hfault]
  | @unencoded r f hrecord hencoding hcontent =>
    unfold recordOn at hrecord
    split
    · next hnil =>
      rw [hnil, Record.ofLine, hblank] at hrecord
      cases hrecord
    · split at hrecord
      · next hread =>
        rw [hread, hrecord]
        dsimp only
        rw [Record.decode, if_neg hencoding, hcontent]
      · cases hrecord

/-- **A line that asks for a fault** is stray, or its base64 stands for no bytes. -/
theorem stray_of_asked {base : Path} {line : List Char} {f : Fault} (h : asked base line = .fault f) :
    Stray line f ∨ f.IsMaterialize := by
  unfold asked at h
  split at h
  · cases h
  · split at h
    · next g hread =>
      cases h
      unfold Record.ofLine at hread
      split at hread
      · cases hread
      · next e hjson =>
        split at hread
        · cases hread
        · next hfault =>
          cases hread
          exact .inl (.unread hjson hfault)
    · cases h
    · next r hread =>
      split at h
      · next g hdecode =>
        cases h
        rcases Record.decode_error hdecode with hmaterialize | ⟨hencoding, hcontent⟩
        · exact .inr hmaterialize
        · refine .inl (.unencoded (r := r) ?_ hencoding hcontent)
          unfold recordOn
          rw [hread]
      · cases h

/-! ### How a run ends -/

/-- **What stops a run** is a failure to write, or a stray line. -/
theorem Stops.isMaterialize_or_stray {base : Path} {line : List Char} {f : Fault}
    {w w' : Diary × Site ν} (h : Stops base line f w w') : f.IsMaterialize ∨ Stray line f := by
  cases h with
  | faulty _ hasked => exact (stray_of_asked hasked).symm
  | unwritten _ _ _ hresult =>
    exact .inl (AtomicWrite.isMaterialize_of_write (Stream.fault?_ofBytes _) hresult)

/-- A line of one digit more than are read. -/
def digitsLine : List Char := '1' :: List.replicate Json.maxIntegerDigits '1'

theorem eq_of_mem_digitsLine {c : Char} (h : c ∈ digitsLine) : c = '1' := by
  rcases List.mem_cons.mp h with h | h
  · exact h
  · exact List.eq_of_mem_replicate h

/-- That line alone. -/
def digitsStream : Stream := .ofBytes (Text.Utf8.encodeChars digitsLine)

theorem linesRead_digitsStream : linesRead digitsStream = [digitsLine] := by
  have hnewline : '\n' ∉ digitsLine := fun h => absurd (eq_of_mem_digitsLine h) (by decide)
  have hne : digitsLine ≠ [] := List.cons_ne_nil _ _
  unfold digitsStream linesRead
  rw [Stream.fault?_ofBytes, Stream.bytes_ofBytes, Text.Utf8.decode_encodeChars, Option.isNone_none,
    if_pos rfl, Text.linesOf_of_not_mem hnewline hne]

/-- The line is stray. -/
theorem stray_digitsLine : ∃ message, Stray digitsLine (.plain .value message) := by
  have hdigits : ∀ x ∈ digitsLine, x.isDigit = true := by
    intro x hx
    rw [eq_of_mem_digitsLine hx]
    decide
  have hstrip : Text.stripBlanks digitsLine = digitsLine := by
    refine Text.stripBlanks_of_no_blank fun c hc => ?_
    rw [eq_of_mem_digitsLine hc]
    decide
  have hlong : Json.maxIntegerDigits < digitsLine.length := by
    rw [digitsLine, List.length_cons, List.length_replicate]
    exact Nat.lt_succ_self _
  have hread := Json.read_huge hdigits (by decide) hlong
  exact ⟨_, .unread (by rw [hstrip]; exact hread) rfl⟩

end Materialize

end SinkPipeline
