import Mathlib.Data.List.TakeWhile
import SinkPipeline.Proofs.Report.Scanning

/-! # Open tags

  The tags of a text are read with the list of those that are open.  A tag
  **turns** that list into another one: it opens a look, closes the last one, or
  closes the last one of its name.  A text is **balanced** if each of its tags
  turns what the tags before it have left open.

  A balanced text is shown, and no other is; what is shown has no more marks than
  the pieces of text have.
-/

namespace SinkPipeline

namespace Look

/-! ### Looks -/

/-- Only in a mix of colours a number can lack its digits. -/
theorem checkColour_ne_emptyNumber {word : String} (h : argument? "rgb" word.toList = none) :
    checkColour word ≠ .error .emptyNumber := by
  have hknown : ∀ b : Bool, (if b then .ok () else .error .unknownWord : Except Flaw Unit) ≠
      .error .emptyNumber := by
    intro b
    cases b <;> simp
  unfold checkColour
  simp only [h]
  split
  · simp
  · split
    · exact hknown _
    · cases argument? "color" word.toList with
      | some digits => exact hknown _
      | none => simp

theorem checkColour_bind_ne {word : String} (h : argument? "rgb" word.toList = none)
    {next : Unit → Except Flaw Look} (hnext : next () ≠ .error .emptyNumber) :
    (checkColour word >>= next) ≠ .error .emptyNumber := by
  cases hcheck : checkColour word with
  | ok _ => exact hnext
  | error flaw =>
    intro heq
    cases heq
    exact checkColour_ne_emptyNumber h hcheck

theorem readWords_ne_emptyNumber {ws : List String}
    (h : ∀ w ∈ ws, argument? "rgb" (Text.lower w).toList = none) (l : Look) :
    readWords l ws ≠ .error .emptyNumber := by
  fun_induction readWords l ws with
  | case1 l => simp
  | case2 => simp
  | case3 l w word hon c ws ih =>
    exact checkColour_bind_ne (h c (by simp)) (ih fun w hw => h w (by simp [hw]))
  | case4 => simp
  | case5 l w word hon hnot a ws name hname ih => exact ih fun w hw => h w (by simp [hw])
  | case6 => simp
  | case7 => simp
  | case8 l w word hon hnot hlink address ws ih => exact ih fun w hw => h w (by simp [hw])
  | case9 l w ws word hon hnot hlink name hname ih => exact ih fun w hw => h w (by simp [hw])
  | case10 l w ws word hon hnot hlink hname ih =>
    exact checkColour_bind_ne (h w (by simp)) (ih fun w hw => h w (by simp [hw]))

/-- A text without a mix of colours has a normal form. -/
theorem exists_normalForm {cs : List Char}
    (h : ∀ w ∈ (Text.words cs).map String.ofList, argument? "rgb" (Text.lower w).toList = none) :
    ∃ form, normalForm cs = .ok form := by
  have hread : read cs ≠ .error .emptyNumber := by
    simp only [read]
    split
    · simp
    · exact readWords_ne_emptyNumber h {}
  unfold normalForm
  cases hlook : read cs with
  | ok l => exact ⟨_, rfl⟩
  | error flaw =>
    cases flaw with
    | unknownWord => exact ⟨_, rfl⟩
    | emptyNumber => exact absurd hlook hread

end Look

namespace Markup

open Emoji (marks marks_append)

/-! ### What a tag does -/

/-- What a tag does with the open looks, the last one first. -/
inductive Turns (inner : List Char) : List String → List String → Prop
  /-- It opens a look. -/
  | opened {form : String} {stack : List String} : (∀ name, namePart inner ≠ '/' :: name) →
      Look.normalForm (namePart inner) = .ok form → Turns inner stack (form :: stack)
  /-- It closes the last one. -/
  | closedLast {name : List Char} {form : String} {stack : List String} :
      namePart inner = '/' :: name → Text.stripBlanks name = [] → Turns inner (form :: stack) stack
  /-- It closes the last one of its name. -/
  | closedNamed {name : List Char} {form : String} {front back : List String} :
      namePart inner = '/' :: name → Text.stripBlanks name ≠ [] →
      Look.normalForm (Text.stripBlanks name) = .ok form → form ∉ front →
      Turns inner (front ++ form :: back) (front ++ back)

theorem closeNamed_eq_some_iff {name : String} {stack rest : List String} :
    closeNamed name stack = some rest ↔
      ∃ front back, stack = front ++ name :: back ∧ name ∉ front ∧ rest = front ++ back := by
  induction stack generalizing rest with
  | nil => simp [closeNamed]
  | cons t ts ih =>
    by_cases ht : t = name
    · subst ht
      simp only [closeNamed, if_true, Option.some.injEq]
      constructor
      · rintro rfl
        exact ⟨[], ts, rfl, List.not_mem_nil, rfl⟩
      · rintro ⟨front, back, hstack, hfront, rfl⟩
        cases front with
        | nil => exact (List.cons.inj hstack).2
        | cons d front => exact absurd (List.cons.inj hstack).1 fun heq => hfront (by simp [heq])
    · simp only [closeNamed, if_neg ht, Option.map_eq_some_iff]
      constructor
      · rintro ⟨rest, hrest, rfl⟩
        obtain ⟨front, back, rfl, hfront, rfl⟩ := ih.mp hrest
        exact ⟨t :: front, back, rfl, by simp [hfront, Ne.symm ht], rfl⟩
      · rintro ⟨front, back, hstack, hfront, rfl⟩
        -- The look on top is another one, so the name is further down.
        cases front with
        | nil => exact absurd (List.cons.inj hstack).1 ht
        | cons d front =>
          obtain ⟨rfl, rfl⟩ := List.cons.inj hstack
          exact ⟨front ++ back, ih.mpr ⟨front, back, rfl, fun hmem => hfront (by simp [hmem]), rfl⟩,
            rfl⟩

theorem applyTag_opening_iff {stack stack' : List String} {position : Nat} {inner : List Char}
    (h : ∀ name, namePart inner ≠ '/' :: name) :
    applyTag stack position inner = .ok stack' ↔
      ∃ form, Look.normalForm (namePart inner) = .ok form ∧ stack' = form :: stack := by
  unfold applyTag
  split
  · next name hname => exact absurd hname (h name)
  · cases Look.normalForm (namePart inner) with
    | error f =>
      constructor
      · rintro ⟨⟩
      · rintro ⟨form, ⟨⟩, -⟩
    | ok form =>
      constructor
      · rintro ⟨⟩
        exact ⟨form, rfl, rfl⟩
      · rintro ⟨form, ⟨⟩, rfl⟩
        rfl

theorem applyTag_closingLast_iff {stack stack' : List String} {position : Nat}
    {inner name : List Char} (hname : namePart inner = '/' :: name)
    (h : Text.stripBlanks name = []) :
    applyTag stack position inner = .ok stack' ↔ ∃ form, stack = form :: stack' := by
  unfold applyTag
  simp only [hname, h]
  cases stack with
  | nil =>
    constructor
    · rintro ⟨⟩
    · rintro ⟨form, ⟨⟩⟩
  | cons form rest =>
    constructor
    · rintro ⟨⟩
      exact ⟨form, rfl⟩
    · rintro ⟨form, ⟨⟩⟩
      rfl

theorem applyTag_closingNamed_iff {stack stack' : List String} {position : Nat}
    {inner name : List Char} (hname : namePart inner = '/' :: name)
    (h : Text.stripBlanks name ≠ []) :
    applyTag stack position inner = .ok stack' ↔
      ∃ form, Look.normalForm (Text.stripBlanks name) = .ok form ∧
        closeNamed form stack = some stack' := by
  unfold applyTag
  simp only [hname]
  cases hstrip : Text.stripBlanks name with
  | nil => exact absurd hstrip h
  | cons d ds =>
    cases hform : Look.normalForm (d :: ds) with
    | error f =>
      simp only [hform]
      constructor
      · rintro ⟨⟩
      · rintro ⟨form, ⟨⟩, -⟩
    | ok form =>
      cases hclosed : closeNamed form stack with
      | none => simp [hform, hclosed, bind, Except.bind]
      | some rest => simp [hform, hclosed, bind, Except.bind]

/-- **One tag**: the open looks after it, if it turns them at all. -/
theorem applyTag_eq_ok_iff {stack stack' : List String} {position : Nat} {inner : List Char} :
    applyTag stack position inner = .ok stack' ↔ Turns inner stack stack' := by
  constructor
  · intro h
    by_cases hopens : ∀ name, namePart inner ≠ '/' :: name
    · obtain ⟨form, hform, rfl⟩ := (applyTag_opening_iff hopens).mp h
      exact .opened hopens hform
    · simp only [not_forall, not_not] at hopens
      obtain ⟨name, hname⟩ := hopens
      by_cases hblank : Text.stripBlanks name = []
      · obtain ⟨form, rfl⟩ := (applyTag_closingLast_iff hname hblank).mp h
        exact .closedLast hname hblank
      · obtain ⟨form, hform, hclosed⟩ := (applyTag_closingNamed_iff hname hblank).mp h
        obtain ⟨front, back, rfl, hfront, rfl⟩ := closeNamed_eq_some_iff.mp hclosed
        exact .closedNamed hname hblank hform hfront
  · intro h
    cases h with
    | opened hopens hform => exact (applyTag_opening_iff hopens).mpr ⟨_, hform, rfl⟩
    | closedLast hname hblank => exact (applyTag_closingLast_iff hname hblank).mpr ⟨_, rfl⟩
    | closedNamed hname hblank hform hfront =>
      exact (applyTag_closingNamed_iff hname hblank).mpr
        ⟨_, hform, closeNamed_eq_some_iff.mpr ⟨_, _, rfl, hfront, rfl⟩⟩

/-! ### Balanced texts -/

/-- Each tag turns what the tags before it have left open. -/
inductive Balanced : List String → List Piece → Prop
  /-- The text is at its end; open looks may be left. -/
  | nil (stack : List String) : Balanced stack []
  /-- Text turns nothing. -/
  | text {stack : List String} {cs : List Char} {ps : List Piece} :
      Balanced stack ps → Balanced stack (.text cs :: ps)
  /-- A tag. -/
  | tag {stack stack' : List String} {position : Nat} {inner : List Char} {ps : List Piece} :
      Turns inner stack stack' → Balanced stack' ps → Balanced stack (.tag position inner :: ps)

theorem shownFrom_text (stack : List String) (cs : List Char) (ps : List Piece) :
    shownFrom stack (.text cs :: ps) = (shownFrom stack ps).map (Emoji.replace cs ++ ·) := by
  rw [shownFrom]
  cases shownFrom stack ps <;> rfl

theorem shownFrom_tag {stack stack' : List String} {position : Nat} {inner : List Char}
    (h : applyTag stack position inner = .ok stack') (ps : List Piece) :
    shownFrom stack (.tag position inner :: ps) = shownFrom stack' ps := by
  rw [shownFrom, h]
  rfl

/-- What is shown is shown through each tag. -/
theorem exists_of_shownFrom_tag {stack : List String} {position : Nat} {inner out : List Char}
    {ps : List Piece} (h : shownFrom stack (.tag position inner :: ps) = .ok out) :
    ∃ stack', applyTag stack position inner = .ok stack' ∧ shownFrom stack' ps = .ok out := by
  rw [shownFrom] at h
  cases htag : applyTag stack position inner with
  | error f => rw [htag] at h; cases h
  | ok stack' =>
    rw [htag] at h
    exact ⟨stack', rfl, h⟩

theorem exists_of_shownFrom_text {stack : List String} {cs out : List Char} {ps : List Piece}
    (h : shownFrom stack (.text cs :: ps) = .ok out) :
    ∃ rest, shownFrom stack ps = .ok rest ∧ out = Emoji.replace cs ++ rest := by
  rw [shownFrom_text] at h
  cases hrest : shownFrom stack ps with
  | error f => rw [hrest] at h; cases h
  | ok rest =>
    rw [hrest] at h
    cases h
    exact ⟨rest, rfl, rfl⟩

/-- **The balanced texts are the ones that are shown.** -/
theorem exists_shownFrom_iff {stack : List String} {ps : List Piece} :
    (∃ out, shownFrom stack ps = .ok out) ↔ Balanced stack ps := by
  constructor
  · -- Each tag hands the looks that it leaves open on to the pieces behind it.
    rintro ⟨out, h⟩
    induction ps generalizing stack out with
    | nil => exact .nil stack
    | cons p ps ih =>
      cases p with
      | text cs =>
        obtain ⟨rest, hrest, -⟩ := exists_of_shownFrom_text h
        exact .text (ih rest hrest)
      | tag position inner =>
        obtain ⟨stack', htag, hrest⟩ := exists_of_shownFrom_tag h
        exact .tag (applyTag_eq_ok_iff.mp htag) (ih out hrest)
  · intro h
    induction h with
    | nil stack => exact ⟨[], rfl⟩
    | text _ ih =>
      obtain ⟨out, hout⟩ := ih
      exact ⟨_, by rw [shownFrom_text, hout]; rfl⟩
    | tag hturns _ ih =>
      obtain ⟨out, hout⟩ := ih
      exact ⟨out, by rw [shownFrom_tag (applyTag_eq_ok_iff.mpr hturns), hout]⟩

/-- The tags of a marked-up text close only what is open. -/
def Sound (markup : String) : Prop := Balanced [] (pieces markup.toList)

theorem exists_shown_iff {markup : String} :
    (∃ out, shown markup.toList = .ok out) ↔ Sound markup := exists_shownFrom_iff

/-- What is shown has no more marks than the pieces of text. -/
theorem marks_shownFrom_le {stack : List String} {ps : List Piece} {out : List Char}
    (h : shownFrom stack ps = .ok out) : marks out ≤ textMarks ps := by
  induction ps generalizing stack out with
  | nil =>
    cases h
    exact Nat.le_refl _
  | cons p ps ih =>
    rw [textMarks_cons]
    cases p with
    | text cs =>
      obtain ⟨rest, hrest, rfl⟩ := exists_of_shownFrom_text h
      have hmore := ih hrest
      have hreplaced := (Emoji.marks_replace cs).1
      rw [marks_append]
      show _ ≤ marks cs + textMarks ps
      omega
    | tag position inner =>
      obtain ⟨stack', -, hrest⟩ := exists_of_shownFrom_tag h
      exact Nat.le_trans (ih hrest) (Nat.le_add_left _ _)

/-- What is shown of a text has no more marks than its scanner has read. -/
theorem marks_shown_le {cs out : List Char} (h : shown cs = .ok out) :
    marks out ≤ (Scanner.read {} cs).total := by
  refine Nat.le_trans (marks_shownFrom_le h) ?_
  show textMarks (Scanner.read {} cs).finish ≤ _
  rw [Scanner.finish_eq, textMarks_reverse]
  unfold Scanner.total Scanner.settled
  have hplain := (marks_plain (Scanner.read {} cs).unread).1
  split
  · omega
  · rw [textMarks_cons]
    show marks (plain _) + _ ≤ _
    omega

/-! ### Looks of one's own -/

/-- A look that tags can open and close by its own text. -/
structure IsLook (look : List Char) : Prop where
  /-- A tag begins with it. -/
  starts : ∃ c ∈ look.head?, startsTag c = true ∧ c ≠ '/'
  /-- Neither marks nor a closing bracket nor an equals sign are in it. -/
  plain : ∀ c ∈ look, Emoji.isMark c = false ∧ c ≠ ']' ∧ c ≠ '='
  /-- No blanks are around it. -/
  trimmed : Text.stripBlanks look = look
  /-- It has a normal form. -/
  formed : ∃ form, Look.normalForm look = .ok form

namespace IsLook

variable {look : List Char}

theorem ne_nil (h : IsLook look) : look ≠ [] := by
  rintro rfl
  obtain ⟨c, hc, -⟩ := h.starts
  cases hc

theorem not_mem_brackets (h : IsLook look) : '[' ∉ look ∧ ']' ∉ look :=
  ⟨fun hopen => absurd (h.plain _ hopen).1 (by decide), fun hclose => (h.plain _ hclose).2.1 rfl⟩

theorem namePart_eq (h : IsLook look) : namePart look = look := by
  refine List.takeWhile_eq_self_iff.mpr fun c hc => ?_
  simpa using (h.plain c hc).2.2

/-- It is opened, and its closing tag takes it away again. -/
theorem turns (h : IsLook look) : ∃ form, ∀ stack,
    Turns look stack (form :: stack) ∧ Turns ('/' :: look) (form :: stack) stack := by
  obtain ⟨form, hform⟩ := h.formed
  have hopen : ∀ name, namePart look ≠ '/' :: name := by
    rintro name hname
    obtain ⟨c, hc, -, hslash⟩ := h.starts
    rw [h.namePart_eq] at hname
    rw [hname] at hc
    exact hslash (Option.mem_some.mp hc).symm
  have hclose : namePart ('/' :: look) = '/' :: look := by
    show '/' :: namePart look = _
    rw [h.namePart_eq]
  have hstrip := h.trimmed
  refine ⟨form, fun stack => ⟨.opened hopen (h.namePart_eq.symm ▸ hform), ?_⟩⟩
  show Turns ('/' :: look) ([] ++ form :: stack) ([] ++ stack)
  exact .closedNamed hclose (hstrip.symm ▸ h.ne_nil) (hstrip.symm ▸ hform) List.not_mem_nil

end IsLook

end Markup

end SinkPipeline
