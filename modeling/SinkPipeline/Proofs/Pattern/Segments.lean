import SinkPipeline.Proofs.Pattern.Meaning

/-! # Globs for any number of names

  Two stars stand for any names of a path, with the slashes between them, as long as
  no name holds a line feed: in a pattern, a point stands for any other character.

  - `mem_language_anything_iff`: what `**` stands for.
  - `mem_language_under_iff`: what `**/d/**` stands for, told by the pieces between the
    slashes.
-/

namespace SinkPipeline.Pattern

/-! ### Ordinary names -/

/-- Does the character stand for itself wherever it stands in a glob? -/
def isOrdinary (c : Char) : Bool := c ∉ ['*', '?', '[', '\x7b']

/-- A glob that begins with some ordinary characters. -/
def literal (cs : List Char) (rest : Glob) : Glob := cs.foldr (fun c g => .leaf (.char c) g) rest

section

variable {cs : List Char} {rest : Glob}

theorem text_literal (cs : List Char) (rest : Glob) : (literal cs rest).text = cs ++ rest.text := by
  induction cs with
  | nil => rfl
  | cons c cs ih =>
    show c :: (literal cs rest).text = c :: (cs ++ rest.text)
    rw [ih]

/-- Ordinary characters mean themselves. -/
theorem standsBefore_literal {following : List Char} (hcs : ∀ c ∈ cs, isOrdinary c = true)
    (hrest : rest.StandsBefore false following) :
    (literal cs rest).StandsBefore false following := by
  induction cs with
  | nil => exact hrest
  | cons c cs ih =>
    rw [List.forall_mem_cons] at hcs
    obtain ⟨hstar, hquestion, hbracket, hbrace⟩ : c ≠ '*' ∧ c ≠ '?' ∧ c ≠ '[' ∧ c ≠ '\x7b' := by
      simpa [isOrdinary] using hcs.1
    exact ⟨⟨hstar, hquestion, hbrace, fun h => absurd h hbracket, nofun⟩, ih hcs.2⟩

theorem mem_language_literal_iff {w : List Char} :
    w ∈ (literal cs rest).language ↔ ∃ v, w = cs ++ v ∧ v ∈ rest.language := by
  induction cs generalizing w with
  | nil => simp [literal]
  | cons c cs ih =>
    show w ∈ ({[c]} : Language Char) * (literal cs rest).language ↔ _
    rw [Language.mem_mul]
    constructor
    · rintro ⟨_, rfl, x, hx, rfl⟩
      obtain ⟨v, rfl, hv⟩ := ih.mp hx
      exact ⟨v, rfl, hv⟩
    · rintro ⟨v, rfl, hv⟩
      exact ⟨[c], rfl, cs ++ v, ih.mpr ⟨v, rfl, hv⟩, rfl⟩

end

/-! ### Any names -/

/-- The glob `**`. -/
def anything : Glob := .leaf .doubleStar .nothing

theorem spells_anything : anything.Spells "**".toList := by
  refine ⟨by decide, ?_⟩
  simp [anything, Glob.StandsBefore, Leaf.StandsBefore, Glob.text]

/-- **Two stars** stand for all that is on one line. -/
theorem mem_language_anything_iff {w : List Char} : w ∈ anything.language ↔ '\n' ∉ w := by
  show w ∈ Leaf.doubleStar.language * (1 : Language Char) ↔ _
  rw [mul_one]
  rfl

/-- The glob `**/d/**`. -/
def under (d : List Char) : Glob := .leaf .directories (literal (d ++ ['/']) anything)

/-- The text of the glob `**/d/**`. -/
def underText (d : String) : String := "**/" ++ d ++ "/**"

theorem spells_under {d : String} (hd : ∀ c ∈ d.toList, isOrdinary c = true) :
    (under d.toList).Spells (underText d).toList := by
  refine ⟨?_, trivial, ?_⟩
  · show ['*', '*', '/'] ++ (literal (d.toList ++ ['/']) anything).text = _
    rw [text_literal]
    simp [underText, anything, Glob.text, Leaf.text]
  · refine standsBefore_literal ?_ spells_anything.2
    intro c hc
    rcases List.mem_append.mp hc with hc | hc
    · exact hd c hc
    · rw [List.mem_singleton.mp hc]
      rfl

/-- Directories on one line, or none. -/
def Leading (u : List Char) : Prop := u = [] ∨ '\n' ∉ u ∧ u.getLast? = some '/'

theorem mem_language_under_iff_exists {d w : List Char} :
    w ∈ (under d).language ↔ ∃ u v, w = u ++ (d ++ '/' :: v) ∧ Leading u ∧ '\n' ∉ v := by
  show w ∈ Leaf.directories.language * (literal (d ++ ['/']) anything).language ↔ _
  rw [Language.mem_mul]
  simp only [mem_language_literal_iff, mem_language_anything_iff]
  constructor
  · rintro ⟨u, hu, _, ⟨v, rfl, hv⟩, rfl⟩
    exact ⟨u, v, by simp, hu, hv⟩
  · rintro ⟨u, v, rfl, hu, hv⟩
    exact ⟨u, hu, _, ⟨v, rfl, hv⟩, by simp⟩

/-- **The glob `**/d/**`** stands for the texts with the piece `d` and another one
    somewhere behind it, the pieces around `d` each on one line. -/
theorem mem_language_under_iff {d w : List Char} (hd : '/' ∉ d) :
    w ∈ (under d).language ↔ ∃ above below, Text.cutAt '/' w = above ++ d :: below ∧ below ≠ [] ∧
      ∀ piece ∈ above ++ below, '\n' ∉ piece := by
  have hline : '\n' ≠ '/' := by decide
  rw [mem_language_under_iff_exists]
  constructor
  · rintro ⟨u, v, rfl, hu, hv⟩
    rw [Text.not_mem_iff_cutAt hline] at hv
    have hrest : Text.cutAt '/' (d ++ '/' :: v) = d :: Text.cutAt '/' v := Text.cutAt_append hd v
    -- The name is the first piece, or it comes after the pieces of the directories.
    rcases hu with rfl | ⟨hu, hlast⟩
    · exact ⟨[], _, hrest, Text.cutAt_ne_nil _ _, hv⟩
    · obtain ⟨u, rfl⟩ := List.getLast?_eq_some_iff.mp hlast
      have hu' : '\n' ∉ u := fun h => hu (List.mem_append_left _ h)
      rw [Text.not_mem_iff_cutAt hline] at hu'
      refine ⟨Text.cutAt '/' u, _, ?_, Text.cutAt_ne_nil _ _, List.forall_mem_append.mpr ⟨hu', hv⟩⟩
      rw [List.append_assoc, List.singleton_append, Text.cutAt_append_sep, hrest]
  · rintro ⟨above, below, hcut, hbelow, hpieces⟩
    rw [List.forall_mem_append] at hpieces
    -- What is behind the name.
    have hrest : ∀ cs, Text.cutAt '/' cs = d :: below → ∃ v, cs = d ++ '/' :: v ∧ '\n' ∉ v := by
      intro cs hcs
      have hsplit : Text.cutAt '/' cs = [d] ++ below := hcs
      obtain ⟨front, v, rfl, hfront, hv⟩ := Text.exists_of_cutAt_append hsplit (by simp) hbelow
      rw [Text.eq_of_cutAt_eq_singleton hfront]
      refine ⟨v, rfl, (Text.not_mem_iff_cutAt hline).mpr ?_⟩
      rw [hv]
      exact hpieces.2
    by_cases habove : above = []
    · subst habove
      obtain ⟨v, rfl, hv⟩ := hrest w hcut
      exact ⟨[], v, rfl, .inl rfl, hv⟩
    · obtain ⟨u, cs, rfl, hu, hcs⟩ := Text.exists_of_cutAt_append hcut habove (by simp)
      obtain ⟨v, rfl, hv⟩ := hrest cs hcs
      refine ⟨u ++ ['/'], v, by simp, .inr ⟨?_, by simp⟩, hv⟩
      have hline' : '\n' ∉ u := by
        rw [Text.not_mem_iff_cutAt hline, hu]
        exact hpieces.1
      simpa using hline'

end SinkPipeline.Pattern
