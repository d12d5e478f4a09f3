import SinkPipeline.Text.Cut

/-! # Runs between separators

  A text is **spaced** into tokens if it is made of them in order, with runs of
  separators around them: any run in front and at the end, and at least one
  separator between two tokens.  The tokens are not empty and hold no separator.

  Cutting a text into runs finds exactly the tokens that it is spaced into, so
  there is one such list for every text, however the separators are chosen.
-/

namespace SinkPipeline.Text

/-- The text is made of the tokens, with runs of separators around them. -/
inductive Spaced (isSep : Char → Bool) : List Char → List (List Char) → Prop
  /-- Separators alone hold no token. -/
  | nil {gap : List Char} : (∀ c ∈ gap, isSep c = true) → Spaced isSep gap []
  /-- Separators, a token, and a rest that begins with a separator or is
      empty. -/
  | cons {gap token rest : List Char} {tokens : List (List Char)} :
      (∀ c ∈ gap, isSep c = true) → token ≠ [] → (∀ c ∈ token, isSep c = false) →
      (∀ c ∈ rest.head?, isSep c = true) → Spaced isSep rest tokens →
      Spaced isSep (gap ++ (token ++ rest)) (token :: tokens)

variable {isSep : Char → Bool}

/-! ### What the cutting does -/

theorem runsBetween_cons_of_sep {c : Char} (hc : isSep c = true) (cs : List Char) :
    runsBetween isSep (c :: cs) = runsBetween isSep cs := by
  simp [runsBetween, prependToRun, hc]

theorem runsBetween_gap_append {gap : List Char} (hgap : ∀ c ∈ gap, isSep c = true)
    (cs : List Char) : runsBetween isSep (gap ++ cs) = runsBetween isSep cs := by
  induction gap with
  | nil => rfl
  | cons c gap ih =>
    have hc : isSep c = true := hgap c (by simp)
    have hrest : ∀ d ∈ gap, isSep d = true := fun d hd => hgap d (by simp [hd])
    rw [List.cons_append, runsBetween_cons_of_sep hc, ih hrest]

/-- A run begins right here only if a separator does not. -/
theorem begins_eq_false {cs : List Char} (h : ∀ c ∈ cs.head?, isSep c = true) :
    (cs.foldr (prependToRun isSep) (false, [])).1 = false := by
  cases cs with
  | nil => rfl
  | cons c cs =>
    have hc : isSep c = true := h c (by simp)
    simp [prependToRun, hc]

/-- A token in front of a separator is the first run. -/
theorem foldr_token_append {token rest : List Char} (hne : token ≠ [])
    (htoken : ∀ c ∈ token, isSep c = false) (hrest : ∀ c ∈ rest.head?, isSep c = true) :
    (token ++ rest).foldr (prependToRun isSep) (false, []) =
      (true, token :: runsBetween isSep rest) := by
  induction token with
  | nil => exact absurd rfl hne
  | cons c token ih =>
    have hc : isSep c = false := htoken c (by simp)
    rw [List.cons_append, List.foldr_cons]
    by_cases hlast : token = []
    · -- The last character of the token opens the run.
      subst hlast
      have hbegins := begins_eq_false hrest
      have hpair : rest.foldr (prependToRun isSep) (false, []) = (false, runsBetween isSep rest) :=
        Prod.ext hbegins rfl
      rw [List.nil_append, hpair]
      simp [prependToRun, hc]
    · have hmore := ih hlast fun d hd => htoken d (by simp [hd])
      rw [hmore]
      simp [prependToRun, hc]

theorem runsBetween_token_append {token rest : List Char} (hne : token ≠ [])
    (htoken : ∀ c ∈ token, isSep c = false) (hrest : ∀ c ∈ rest.head?, isSep c = true) :
    runsBetween isSep (token ++ rest) = token :: runsBetween isSep rest :=
  congrArg Prod.snd (foldr_token_append hne htoken hrest)

/-- The tokens of a spaced text are its runs. -/
theorem Spaced.runsBetween_eq {cs : List Char} {tokens : List (List Char)}
    (h : Spaced isSep cs tokens) : runsBetween isSep cs = tokens := by
  induction h with
  | nil hgap =>
    have hnone := runsBetween_gap_append hgap []
    rwa [List.append_nil] at hnone
  | cons hgap hne htoken hrest _ ih =>
    rw [runsBetween_gap_append hgap, runsBetween_token_append hne htoken hrest, ih]

/-- A token is made of characters of the text. -/
theorem Spaced.subset {cs : List Char} {tokens : List (List Char)} (h : Spaced isSep cs tokens) :
    ∀ token ∈ tokens, token ⊆ cs := by
  induction h with
  | nil _ => simp
  | @cons gap first rest tokens _ _ _ _ _ ih =>
    intro token htoken
    rcases List.mem_cons.mp htoken with rfl | hlater
    · intro c hc
      simp [hc]
    · intro c hc
      simp [ih token hlater hc]

/-! ### Every text is spaced -/

theorem Spaced.cons_sep {c : Char} (hc : isSep c = true) {cs : List Char}
    {tokens : List (List Char)} (h : Spaced isSep cs tokens) : Spaced isSep (c :: cs) tokens := by
  have hlonger : ∀ {gap : List Char}, (∀ d ∈ gap, isSep d = true) →
      ∀ d ∈ c :: gap, isSep d = true := by
    intro gap hgap d hd
    rcases List.mem_cons.mp hd with rfl | hd
    · exact hc
    · exact hgap d hd
  cases h with
  | nil hgap => exact .nil (hlonger hgap)
  | cons hgap hne htoken hend hrest =>
    have hcons := Spaced.cons (hlonger hgap) hne htoken hend hrest
    exact hcons

/-- A text may begin with a token. -/
theorem Spaced.token_append {token rest : List Char} {tokens : List (List Char)} (hne : token ≠ [])
    (htoken : ∀ c ∈ token, isSep c = false) (hend : ∀ c ∈ rest.head?, isSep c = true)
    (hrest : Spaced isSep rest tokens) : Spaced isSep (token ++ rest) (token :: tokens) := by
  have hnoGap : ∀ d ∈ ([] : List Char), isSep d = true := by simp
  have hcons := Spaced.cons hnoGap hne htoken hend hrest
  exact hcons

/-- A character that is no separator joins the token that begins right behind
    it, or is a token of its own. -/
theorem Spaced.exists_cons_char {c : Char} (hc : isSep c = false) {cs : List Char}
    {tokens : List (List Char)} (h : Spaced isSep cs tokens) :
    ∃ tokens', Spaced isSep (c :: cs) tokens' := by
  by_cases hhead : ∀ d ∈ cs.head?, isSep d = true
  · have hsingle : ∀ d ∈ [c], isSep d = false := by simp [hc]
    exact ⟨[c] :: tokens, Spaced.token_append (by simp) hsingle hhead h⟩
  · cases h with
    | nil hgap =>
      -- Separators alone begin with a separator.
      exact absurd (fun d hd => hgap d (List.mem_of_mem_head? hd)) hhead
    | @cons gap token rest tokens hgap hne htoken hend hrest =>
      cases gap with
      | cons d gap => exact absurd (by simpa using hgap d (by simp)) hhead
      | nil =>
        have hjoined : ∀ d ∈ c :: token, isSep d = false := by
          intro d hd
          rcases List.mem_cons.mp hd with rfl | hd
          · exact hc
          · exact htoken d hd
        exact ⟨(c :: token) :: tokens, Spaced.token_append (by simp) hjoined hend hrest⟩

/-- **Every text is spaced into its runs.** -/
theorem spaced_runsBetween (isSep : Char → Bool) (cs : List Char) :
    Spaced isSep cs (runsBetween isSep cs) := by
  have hsome : ∃ tokens, Spaced isSep cs tokens := by
    induction cs with
    | nil => exact ⟨[], .nil (by simp)⟩
    | cons c cs ih =>
      obtain ⟨tokens, htokens⟩ := ih
      by_cases hc : isSep c = true
      · exact ⟨tokens, htokens.cons_sep hc⟩
      · exact htokens.exists_cons_char (by simpa using hc)
  obtain ⟨tokens, htokens⟩ := hsome
  rwa [htokens.runsBetween_eq]

/-- **The runs of a text are the tokens that it is spaced into**, and no
    others. -/
theorem runsBetween_eq_iff {cs : List Char} {tokens : List (List Char)} :
    runsBetween isSep cs = tokens ↔ Spaced isSep cs tokens := by
  constructor
  · rintro rfl
    exact spaced_runsBetween isSep cs
  · exact Spaced.runsBetween_eq

/-- A text has a run if one of its characters is no separator, and only then. -/
theorem runsBetween_ne_nil_iff {cs : List Char} :
    runsBetween isSep cs ≠ [] ↔ ∃ c ∈ cs, isSep c = false := by
  constructor
  · intro hne
    have hspaced := spaced_runsBetween isSep cs
    generalize runsBetween isSep cs = tokens at hne hspaced
    cases hspaced with
    | nil => exact absurd rfl hne
    | @cons gap token rest tokens _ htoken hchars _ _ =>
      obtain ⟨c, token', rfl⟩ := List.exists_cons_of_ne_nil htoken
      exact ⟨c, by simp, hchars c (by simp)⟩
  · rintro ⟨c, hc, hsep⟩ hnil
    cases runsBetween_eq_iff.mp hnil with
    | nil hgap =>
      have hboth := hgap c hc
      rw [hsep] at hboth
      cases hboth

end SinkPipeline.Text
