import Mathlib.Data.List.TakeDrop
import SinkPipeline.Report.Emoji

/-! # Texts without emoji

  A text is read from left to right: a colon opens a code if another colon
  follows with no blank between them, and the code is taken as a whole.  A text
  is **codeless** if none of the codes that are read in this way names an emoji.

  A codeless text is printed as it is, and no other is.  This is told by counting
  **marks**, the characters that codes, tags and escapes begin with: a code that
  becomes an emoji loses its two colons, and no mark comes in for them.
-/

namespace SinkPipeline.Emoji

/-! ### Marks -/

/-- How many marks a text holds. -/
def marks (cs : List Char) : Nat := cs.countP isMark

@[simp] theorem marks_nil : marks [] = 0 := rfl

@[simp] theorem marks_append (cs ds : List Char) : marks (cs ++ ds) = marks cs + marks ds :=
  List.countP_append

theorem marks_cons (c : Char) (cs : List Char) : marks (c :: cs) = marks [c] + marks cs :=
  marks_append [c] cs

theorem marks_eq_zero {cs : List Char} (h : ∀ c ∈ cs, isMark c = false) : marks cs = 0 := by
  refine List.countP_eq_zero.mpr fun c hc => ?_
  simp [h c hc]

theorem marks_reverse (cs : List Char) : marks cs.reverse = marks cs := List.countP_reverse

/-- An emoji has no mark. -/
theorem marks_of_named {name : String} {cs : List Char} (h : named? name = some cs) :
    marks cs = 0 := by
  obtain ⟨-, hplain⟩ := Option.filter_eq_some_iff.mp h
  refine marks_eq_zero fun c hc => ?_
  have hnone : ¬ ∃ c ∈ cs, isMark c = true := by simpa using hplain
  simpa using fun hmark => hnone ⟨c, hc, hmark⟩

/-! ### Reading codes -/

/-- Can the character stand in a code? -/
def inCode (c : Char) : Bool := c != ':' && !Text.isBlank c

/-- A code at the front is what stands up to the first colon with no blank in it. -/
theorem codeAtFront?_eq_some_iff {cs code rest : List Char} :
    codeAtFront? cs = some (code, rest) ↔
      cs = code ++ ':' :: rest ∧ ∀ c ∈ code, inCode c = true := by
  have hspan : cs.span inCode = (cs.takeWhile inCode, cs.dropWhile inCode) :=
    List.span_eq_takeWhile_dropWhile inCode cs
  have hwhole := List.takeWhile_append_dropWhile (p := inCode) (l := cs)
  unfold codeAtFront?
  change cs.span inCode = _ at hspan
  constructor
  · intro h
    split at h
    · next code' rest' hfound =>
      cases h
      obtain ⟨rfl, hrest⟩ := Prod.mk.inj (hspan.symm.trans hfound)
      exact ⟨by rw [← hrest, hwhole], List.all_eq_true.mp List.all_takeWhile⟩
    · cases h
  · rintro ⟨rfl, hcode⟩
    have hcolon : inCode ':' = false := by decide
    rw [List.takeWhile_append_of_pos hcode, List.dropWhile_append_of_pos hcode] at hspan
    simp only [List.takeWhile_cons, List.dropWhile_cons, hcolon] at hspan
    change (code ++ ':' :: rest).span inCode = (code ++ [], ':' :: rest) at hspan
    rw [List.append_nil] at hspan
    split
    · next code' rest' hfound =>
      cases hspan.symm.trans hfound
      rfl
    · next hnone => exact absurd hspan (hnone code rest)

theorem eq_of_codeAtFront? {cs code rest : List Char} (h : codeAtFront? cs = some (code, rest)) :
    cs = code ++ ':' :: rest := (codeAtFront?_eq_some_iff.mp h).1

theorem length_lt_of_codeAtFront? {cs code rest : List Char}
    (h : codeAtFront? cs = some (code, rest)) : rest.length < cs.length := by
  rw [eq_of_codeAtFront? h]
  simp
  omega

/-- A code is closed by a colon, so what has none can only stand behind it. -/
theorem codeAtFront?_append (cs : List Char) {ds : List Char} (h : ':' ∉ ds) :
    codeAtFront? (cs ++ ds) = (codeAtFront? cs).map fun found => (found.1, found.2 ++ ds) := by
  cases hfront : codeAtFront? cs with
  | some found =>
    obtain ⟨rfl, hcode⟩ := codeAtFront?_eq_some_iff.mp hfront
    exact codeAtFront?_eq_some_iff.mpr ⟨by simp, hcode⟩
  | none =>
    cases hmore : codeAtFront? (cs ++ ds) with
    | none => rfl
    | some found =>
      -- The colon that closes the code would be one of the text.
      obtain ⟨hsplit, hcode⟩ := codeAtFront?_eq_some_iff.mp hmore
      rcases List.append_eq_append_iff.mp hsplit with ⟨more, -, rfl⟩ | ⟨more, rfl, hrest⟩
      · exact absurd (by simp) h
      · cases more with
        | nil => exact absurd (by rw [List.nil_append] at hrest; simp [← hrest]) h
        | cons d more =>
          obtain ⟨rfl, -⟩ := List.cons.inj hrest
          rw [codeAtFront?_eq_some_iff.mpr ⟨rfl, hcode⟩] at hfront
          cases hfront

/-- What is read of a text: characters, colons that open no code, and codes. -/
@[elab_as_elim]
theorem induction_codes {motive : List Char → Prop} (nil : motive [])
    (char : ∀ c cs, c ≠ ':' → motive cs → motive (c :: cs))
    (colon : ∀ cs, codeAtFront? cs = none → motive cs → motive (':' :: cs))
    (code : ∀ cs code rest, codeAtFront? cs = some (code, rest) → motive rest → motive (':' :: cs))
    (cs : List Char) : motive cs := by
  induction hlength : cs.length using Nat.strongRecOn generalizing cs with
  | ind n ih =>
    cases cs with
    | nil => exact nil
    | cons c cs =>
      have hsmaller : cs.length < n := by simp [← hlength]
      by_cases hc : c = ':'
      · subst hc
        cases hcode : codeAtFront? cs with
        | none => exact colon cs hcode (ih _ hsmaller cs rfl)
        | some found =>
          have hrest := length_lt_of_codeAtFront? hcode
          exact code cs found.1 found.2 hcode (ih _ (by omega) found.2 rfl)
      · exact char c cs hc (ih _ hsmaller cs rfl)

/-! ### Replacing codes -/

/-- Fuel beyond the length of the text changes nothing. -/
theorem replaceWith_eq (named : String → Option (List Char)) {fuel fuel' : Nat} {cs : List Char}
    (h : cs.length ≤ fuel) (h' : cs.length ≤ fuel') :
    replaceWith named fuel cs = replaceWith named fuel' cs := by
  induction fuel generalizing fuel' cs with
  | zero =>
    obtain rfl : cs = [] := List.length_eq_zero_iff.mp (by omega)
    cases fuel' <;> rfl
  | succ fuel ih =>
    cases cs with
    | nil => cases fuel' <;> rfl
    | cons c cs =>
      obtain ⟨fuel', rfl⟩ : ∃ n, fuel' = n + 1 := ⟨fuel' - 1, by simp at h'; omega⟩
      simp only [List.length_cons, Nat.add_le_add_iff_right] at h h'
      unfold replaceWith
      split
      · next code rest hcode =>
        have hfound : codeAtFront? cs = some (code, rest) := by
          by_cases hc : c = ':'
          · rwa [if_pos hc] at hcode
          · rw [if_neg hc] at hcode
            cases hcode
        have hrest := length_lt_of_codeAtFront? hfound
        have hless : rest.length ≤ fuel ∧ rest.length ≤ fuel' := by omega
        rw [ih hless.1 hless.2]
      · rw [ih h h']

theorem replace_char {c : Char} (hc : c ≠ ':') (cs : List Char) :
    replace (c :: cs) = c :: replace cs := by
  show replaceWith named? (cs.length + 1) (c :: cs) = _
  simp only [replaceWith, if_neg hc]
  rfl

theorem replace_colon {cs : List Char} (h : codeAtFront? cs = none) :
    replace (':' :: cs) = ':' :: replace cs := by
  show replaceWith named? (cs.length + 1) (':' :: cs) = _
  simp only [replaceWith, if_true, h]
  rfl

theorem replace_code {cs code rest : List Char} (h : codeAtFront? cs = some (code, rest)) :
    replace (':' :: cs) = ofCode named? code ++ replace rest := by
  show replaceWith named? (cs.length + 1) (':' :: cs) = _
  simp only [replaceWith, if_true, h]
  rw [replaceWith_eq named? (Nat.le_of_lt (length_lt_of_codeAtFront? h)) (Nat.le_refl rest.length)]
  rfl

/-! ### Codeless texts -/

/-- The name in a code, without what chooses how the emoji is drawn. -/
def nameOf (code : List Char) : String := Text.lower (String.ofList (splitVariant code).1)

/-- None of the codes that are read from left to right names an emoji. -/
inductive Codeless : List Char → Prop
  /-- The text is at its end. -/
  | nil : Codeless []
  /-- A character of its own. -/
  | char {c : Char} {cs : List Char} : c ≠ ':' → Codeless cs → Codeless (c :: cs)
  /-- A colon that opens no code. -/
  | colon {cs : List Char} : codeAtFront? cs = none → Codeless cs → Codeless (':' :: cs)
  /-- A code that names nothing. -/
  | code {cs code rest : List Char} : codeAtFront? cs = some (code, rest) →
      named? (nameOf code) = none → Codeless rest → Codeless (':' :: cs)

theorem ofCode_eq (named : String → Option (List Char)) (code : List Char) :
    ofCode named code =
      match named (nameOf code) with
      | some emoji => emoji ++ (splitVariant code).2
      | none => ':' :: code ++ [':'] := rfl

/-- A code that names nothing stays. -/
theorem ofCode_of_unnamed {code : List Char} (h : named? (nameOf code) = none) :
    ofCode named? code = ':' :: code ++ [':'] := by
  rw [ofCode_eq, h]

/-- What a name is drawn with is no mark. -/
theorem marks_splitVariant (code : List Char) : marks (splitVariant code).2 = 0 := by
  unfold splitVariant
  cases hfound : variants.findSome? fun v => (withoutEnding? v.1 code).map fun name => (name, [v.2])
    with
  | none => rfl
  | some found =>
    obtain ⟨v, hv, hname⟩ := List.exists_of_findSome?_eq_some hfound
    obtain ⟨name, -, rfl⟩ := Option.map_eq_some_iff.mp hname
    show marks [v.2] = 0
    have hboth : ∀ v ∈ variants, marks [v.2] = 0 := by decide
    exact hboth v hv

/-- A code that names an emoji loses its colons. -/
theorem marks_ofCode_of_named {code emoji : List Char} (h : named? (nameOf code) = some emoji) :
    marks (ofCode named? code) = 0 := by
  rw [ofCode_eq, h]
  show marks (emoji ++ (splitVariant code).2) = 0
  rw [marks_append, marks_of_named h, marks_splitVariant]

theorem marks_colon (cs : List Char) : marks (':' :: cs) = 1 + marks cs := marks_cons ':' cs

/-- Replacing codes brings in no mark, and takes none out of a codeless text
    only. -/
theorem marks_replace (cs : List Char) :
    marks (replace cs) ≤ marks cs ∧ (marks (replace cs) = marks cs → Codeless cs) := by
  induction cs using induction_codes with
  | nil => exact ⟨Nat.le_refl _, fun _ => .nil⟩
  | char c cs hc ih =>
    rw [replace_char hc, marks_cons c (replace cs), marks_cons c cs]
    exact ⟨by omega, fun heq => .char hc (ih.2 (by omega))⟩
  | colon cs hcode ih =>
    rw [replace_colon hcode, marks_colon, marks_colon]
    exact ⟨by omega, fun heq => .colon hcode (ih.2 (by omega))⟩
  | code cs code rest hcode ih =>
    have htext := eq_of_codeAtFront? hcode
    have hbefore : marks (':' :: cs) = marks code + marks rest + 2 := by
      rw [htext, marks_colon, marks_append, marks_colon]
      omega
    rw [replace_code hcode, marks_append, hbefore]
    -- A named code loses both its colons, and an unnamed one keeps them.
    cases hnamed : named? (nameOf code) with
    | some emoji =>
      have hnone := marks_ofCode_of_named hnamed
      exact ⟨by omega, fun heq => absurd heq (by omega)⟩
    | none =>
      have hstays : marks (ofCode named? code) = marks code + 2 := by
        rw [ofCode_of_unnamed hnamed, List.cons_append, marks_colon, marks_append]
        show 1 + (marks code + 1) = _
        omega
      exact ⟨by omega, fun heq => .code hcode hnamed (ih.2 (by omega))⟩

/-- **A codeless text is printed as it is.** -/
theorem Codeless.replace_eq {cs : List Char} (h : Codeless cs) : replace cs = cs := by
  induction h with
  | nil => rfl
  | char hc _ ih => rw [replace_char hc, ih]
  | colon hcode _ ih => rw [replace_colon hcode, ih]
  | code hcode hnamed _ ih =>
    rw [replace_code hcode, ofCode_of_unnamed hnamed, ih, eq_of_codeAtFront? hcode]
    simp

/-- A text without colons is codeless. -/
theorem codeless_of_not_mem {cs : List Char} (h : ':' ∉ cs) : Codeless cs := by
  induction cs with
  | nil => exact .nil
  | cons c cs ih =>
    have hc : c ≠ ':' := fun hcolon => h (by simp [hcolon])
    exact .char hc (ih fun hmem => h (List.mem_cons_of_mem c hmem))

/-- What has no colons stays as it is behind any text. -/
theorem replace_append (cs : List Char) {ds : List Char} (h : ':' ∉ ds) :
    replace (cs ++ ds) = replace cs ++ ds := by
  induction cs using induction_codes with
  | nil => exact (codeless_of_not_mem h).replace_eq
  | char c cs hc ih => rw [List.cons_append, replace_char hc, replace_char hc, ih, List.cons_append]
  | colon cs hcode ih =>
    have hnone : codeAtFront? (cs ++ ds) = none := by
      rw [codeAtFront?_append cs h, hcode]
      rfl
    rw [List.cons_append, replace_colon hnone, replace_colon hcode, ih, List.cons_append]
  | code cs code rest hcode ih =>
    have hsome : codeAtFront? (cs ++ ds) = some (code, rest ++ ds) := by
      rw [codeAtFront?_append cs h, hcode]
      rfl
    rw [List.cons_append, replace_code hsome, replace_code hcode, ih, List.append_assoc]

/-- What has no colons stays as it is in front of any text. -/
theorem append_replace {cs : List Char} (h : ':' ∉ cs) (ds : List Char) :
    replace (cs ++ ds) = cs ++ replace ds := by
  induction cs with
  | nil => rfl
  | cons c cs ih =>
    simp only [List.mem_cons, not_or] at h
    rw [List.cons_append, replace_char (Ne.symm h.1), ih h.2, List.cons_append]

end SinkPipeline.Emoji
