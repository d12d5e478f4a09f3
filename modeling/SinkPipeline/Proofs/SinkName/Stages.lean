import SinkPipeline.Proofs.SinkName.Grammar

/-! # Stage tokens

  A **run** of a text is a piece without separators that no such piece
  surrounds: it is not empty, and what stands next to it on either side is a
  separator or nothing.  A run is told by where it begins.

  - The stage tokens of a bracket are its runs, each once and in order, so they
    make up what is left of the bracket when its separators are taken out.
  - Tokens that are written with separators between them are read back,
    whatever separators these are and whatever stands around them.
-/

namespace SinkPipeline

namespace Text

variable {isSep : Char → Bool}

/-! ### Runs by where they begin -/

/-- The piece is a run of the text that begins behind `start` characters. -/
structure IsRunAt (isSep : Char → Bool) (cs : List Char) (start : Nat) (run : List Char) :
    Prop where
  /-- There is something in it. -/
  ne_nil : run ≠ []
  /-- It holds no separator. -/
  free : ∀ c ∈ run, isSep c = false
  /-- It stands in the text between separators. -/
  stands : ∃ before after, cs = before ++ (run ++ after) ∧ before.length = start ∧
    (∀ c ∈ before.getLast?, isSep c = true) ∧ ∀ c ∈ after.head?, isSep c = true

/-- The list tells all runs of the text, from left to right. -/
structure ListsRuns (isSep : Char → Bool) (cs : List Char) (placed : List (Nat × List Char)) :
    Prop where
  /-- Later ones begin further on. -/
  rising : placed.Pairwise fun a b => a.1 < b.1
  /-- They are the runs of the text. -/
  mem_iff : ∀ start run, (start, run) ∈ placed ↔ IsRunAt isSep cs start run

/-- Separators alone have no run. -/
theorem not_isRunAt_gap {gap : List Char} (hgap : ∀ c ∈ gap, isSep c = true) (start : Nat)
    (run : List Char) : ¬ IsRunAt isSep gap start run := by
  rintro ⟨hne, hfree, before, after, rfl, -, -, -⟩
  obtain ⟨c, run, rfl⟩ := List.exists_cons_of_ne_nil hne
  have hsep : isSep c = true := hgap c (by simp)
  rw [hfree c (by simp)] at hsep
  cases hsep

/-- A separator in front moves all runs by one. -/
theorem isRunAt_cons_sep {c : Char} (hc : isSep c = true) {cs : List Char} {start : Nat}
    {run : List Char} :
    IsRunAt isSep (c :: cs) start run ↔ ∃ at', start = at' + 1 ∧ IsRunAt isSep cs at' run := by
  constructor
  · rintro ⟨hne, hfree, before, after, htext, rfl, hleft, hright⟩
    cases before with
    | nil =>
      -- The run would begin with the separator.
      obtain ⟨d, run, rfl⟩ := List.exists_cons_of_ne_nil hne
      rw [List.nil_append, List.cons_append, List.cons.injEq] at htext
      have hfalse := hfree d (by simp)
      rw [← htext.1, hc] at hfalse
      cases hfalse
    | cons d before =>
      rw [List.cons_append, List.cons.injEq] at htext
      obtain ⟨rfl, rfl⟩ := htext
      refine ⟨before.length, rfl, hne, hfree, before, after, rfl, rfl, ?_, hright⟩
      intro e he
      refine hleft e ?_
      rw [List.getLast?_cons, he]
      rfl
  · rintro ⟨at', rfl, hne, hfree, before, after, rfl, rfl, hleft, hright⟩
    refine ⟨hne, hfree, c :: before, after, rfl, rfl, ?_, hright⟩
    intro e he
    rw [List.getLast?_cons] at he
    cases hlast : before.getLast? with
    | none =>
      rw [hlast] at he
      cases he
      exact hc
    | some d =>
      rw [hlast] at he
      cases he
      exact hleft d hlast

theorem isRunAt_gap_append {gap : List Char} (hgap : ∀ c ∈ gap, isSep c = true) {cs : List Char}
    {start : Nat} {run : List Char} :
    IsRunAt isSep (gap ++ cs) start run ↔
      ∃ at', start = at' + gap.length ∧ IsRunAt isSep cs at' run := by
  induction gap generalizing start with
  | nil => simp
  | cons c gap ih =>
    have hmore : ∀ d ∈ gap, isSep d = true := fun d hd => hgap d (by simp [hd])
    rw [List.cons_append, isRunAt_cons_sep (hgap c (by simp))]
    constructor
    · rintro ⟨at', rfl, hrun⟩
      obtain ⟨at'', rfl, hinner⟩ := (ih hmore).mp hrun
      exact ⟨at'', by simp [Nat.add_assoc], hinner⟩
    · rintro ⟨at', rfl, hrun⟩
      exact ⟨at' + gap.length, by simp [Nat.add_assoc], (ih hmore).mpr ⟨at', rfl, hrun⟩⟩

section

variable {token rest run : List Char} {start : Nat}

/-- A run that begins behind a token is a run of what is there. -/
theorem IsRunAt.behind {before after : List Char} (hne : run ≠ [])
    (hfree : ∀ c ∈ run, isSep c = false)
    (hleft : ∀ c ∈ (token ++ before).getLast?, isSep c = true)
    (hright : ∀ c ∈ after.head?, isSep c = true) :
    IsRunAt isSep (before ++ (run ++ after)) before.length run := by
  refine ⟨hne, hfree, before, after, rfl, rfl, ?_, hright⟩
  intro c hc
  refine hleft c ?_
  rw [List.getLast?_append, hc]
  rfl

/-- A run that begins in a token is the token, if a separator comes after it. -/
theorem eq_token_of_isRunAt {before after more : List Char} (htoken : ∀ c ∈ token, isSep c = false)
    (hrest : ∀ c ∈ rest.head?, isSep c = true) (hfree : ∀ c ∈ run, isSep c = false)
    (htext : token ++ rest = before ++ (run ++ after)) (hmore : token = before ++ more)
    (hleft : ∀ c ∈ before.getLast?, isSep c = true)
    (hright : ∀ c ∈ after.head?, isSep c = true) : before = [] ∧ run = token := by
  -- What stands before it is in the token, so it is no separator.
  cases hlast : before.getLast? with
  | none =>
    obtain rfl := List.getLast?_eq_none_iff.mp hlast
    have hstop : ∀ {cs : List Char}, (∀ c ∈ cs.head?, isSep c = true) →
        ∀ c ∈ cs.head?, (!isSep c) = false := fun h c hc => by simp [h c hc]
    obtain ⟨rfl, -⟩ := SinkName.Layout.append_left_inj_of_stop (p := fun c => !isSep c)
      (fun c hc => by simp [htoken c hc]) (fun c hc => by simp [hfree c hc]) (hstop hrest)
      (hstop hright) htext
    exact ⟨rfl, rfl⟩
  | some c =>
    have hsep := hleft c hlast
    have hmem : c ∈ token := by
      rw [hmore]
      exact List.mem_append_left _ (List.mem_of_getLast? hlast)
    rw [htoken c hmem] at hsep
    cases hsep

/-- Behind a token there is a separator, with which no run begins. -/
theorem IsRunAt.token_append (h : IsRunAt isSep rest start run)
    (hrest : ∀ c ∈ rest.head?, isSep c = true) :
    IsRunAt isSep (token ++ rest) (start + token.length) run := by
  obtain ⟨hne, hfree, before, after, rfl, rfl, hleft, hright⟩ := h
  refine ⟨hne, hfree, token ++ before, after, by simp, by simp [Nat.add_comm], ?_, hright⟩
  intro c hc
  rw [List.getLast?_append] at hc
  cases hlast : before.getLast? with
  | some d =>
    rw [hlast] at hc
    cases hc
    exact hleft c hlast
  | none =>
    obtain rfl := List.getLast?_eq_none_iff.mp hlast
    obtain ⟨d, more, rfl⟩ := List.exists_cons_of_ne_nil hne
    have hsep := hrest d rfl
    rw [hfree d (by simp)] at hsep
    cases hsep

/-- A token in front of a separator is a run, and moves the others by its
    length. -/
theorem isRunAt_token_append (hne : token ≠ []) (htoken : ∀ c ∈ token, isSep c = false)
    (hrest : ∀ c ∈ rest.head?, isSep c = true) :
    IsRunAt isSep (token ++ rest) start run ↔
      (start = 0 ∧ run = token) ∨
        ∃ at', start = at' + token.length ∧ IsRunAt isSep rest at' run := by
  constructor
  · rintro ⟨hrunNe, hfree, before, after, htext, rfl, hleft, hright⟩
    rcases List.append_eq_append_iff.mp htext with ⟨more, rfl, rfl⟩ | ⟨more, hmore, -⟩
    · exact .inr ⟨more.length, by simp [Nat.add_comm], .behind hrunNe hfree hleft hright⟩
    · obtain ⟨rfl, rfl⟩ := eq_token_of_isRunAt htoken hrest hfree htext hmore hleft hright
      exact .inl ⟨rfl, rfl⟩
  · rintro (⟨rfl, rfl⟩ | ⟨at', rfl, hrun⟩)
    · exact ⟨hne, htoken, [], rest, rfl, rfl, by simp, hrest⟩
    · exact hrun.token_append hrest

end

/-- **The tokens that a text is spaced into are its runs**, each once and in
    order. -/
theorem Spaced.exists_listsRuns {cs : List Char} {tokens : List (List Char)}
    (h : Spaced isSep cs tokens) :
    ∃ placed, ListsRuns isSep cs placed ∧ placed.map Prod.snd = tokens := by
  induction h with
  | nil hgap =>
    refine ⟨[], ⟨.nil, fun start run => ?_⟩, rfl⟩
    simp [not_isRunAt_gap hgap start run]
  | @cons gap token rest tokens hgap hne htoken hrest _ ih =>
    obtain ⟨placed, hlists, rfl⟩ := ih
    have hlong : 0 < token.length := List.length_pos_iff.mpr hne
    -- The runs of the rest stand behind the gap and the token.
    refine ⟨(gap.length, token) ::
      placed.map fun p => (p.1 + token.length + gap.length, p.2), ⟨?_, ?_⟩, ?_⟩
    · rw [List.pairwise_cons, List.pairwise_map]
      constructor
      · intro p hp
        obtain ⟨q, -, rfl⟩ := List.mem_map.mp hp
        show gap.length < q.1 + token.length + gap.length
        omega
      · exact hlists.rising.imp fun hlt => by omega
    · intro start run
      rw [isRunAt_gap_append hgap, List.mem_cons, List.mem_map, Prod.mk.injEq]
      constructor
      · rintro (⟨rfl, rfl⟩ | ⟨⟨at', run'⟩, hmem, hsame⟩)
        · exact ⟨0, by simp, (isRunAt_token_append hne htoken hrest).mpr (.inl ⟨rfl, rfl⟩)⟩
        · cases hsame
          have hrun := (hlists.mem_iff at' run').mp hmem
          exact ⟨_, rfl, (isRunAt_token_append hne htoken hrest).mpr (.inr ⟨at', rfl, hrun⟩)⟩
      · rintro ⟨at', rfl, hrun⟩
        rcases (isRunAt_token_append hne htoken hrest).mp hrun with
          ⟨rfl, rfl⟩ | ⟨later, rfl, hlater⟩
        · exact .inl ⟨by simp, rfl⟩
        · exact .inr ⟨(later, run), (hlists.mem_iff later run).mpr hlater, rfl⟩
    · simp [Function.comp_def]

/-! ### What the tokens are made of -/

/-- Each token has something in it and holds no separator. -/
theorem Spaced.tokens {cs : List Char} {tokens : List (List Char)} (h : Spaced isSep cs tokens) :
    ∀ token ∈ tokens, token ≠ [] ∧ ∀ c ∈ token, isSep c = false := by
  induction h with
  | nil _ => simp
  | cons _ hne htoken _ _ ih =>
    intro t ht
    rcases List.mem_cons.mp ht with rfl | ht
    · exact ⟨hne, htoken⟩
    · exact ih t ht

/-- One behind the other they are the text without its separators. -/
theorem Spaced.flatten_eq {cs : List Char} {tokens : List (List Char)}
    (h : Spaced isSep cs tokens) :
    tokens.flatten = cs.filter fun c => !isSep c := by
  have hnone : ∀ {gap : List Char}, (∀ c ∈ gap, isSep c = true) →
      gap.filter (fun c => !isSep c) = [] := by
    intro gap hgap
    rw [List.filter_eq_nil_iff]
    intro c hc
    simp [hgap c hc]
  induction h with
  | nil hgap => rw [hnone hgap, List.flatten_nil]
  | @cons gap token rest tokens hgap _ htoken _ _ ih =>
    have hall : token.filter (fun c => !isSep c) = token := by
      rw [List.filter_eq_self]
      intro c hc
      simp [htoken c hc]
    rw [List.filter_append, List.filter_append, hnone hgap, hall, List.nil_append,
      List.flatten_cons, ih]

/-! ### Tokens with separators between them -/

/-- Tokens, each with what stands behind it, one behind the other, and `front`
    in front of them. -/
def joinedBy (front : List Char) : List (List Char × List Char) → List Char
  | [] => front
  | (token, gap) :: more => front ++ (token ++ joinedBy gap more)

/-- Separators stand between the tokens, and only separators around them. -/
structure IsJoined (isSep : Char → Bool) (front : List Char)
    (parts : List (List Char × List Char)) : Prop where
  /-- Separators, or nothing, stand in front. -/
  front : ∀ c ∈ front, isSep c = true
  /-- Each token has something in it and holds no separator. -/
  tokens : ∀ p ∈ parts, p.1 ≠ [] ∧ ∀ c ∈ p.1, isSep c = false
  /-- Separators stand behind each token. -/
  gaps : ∀ p ∈ parts, ∀ c ∈ p.2, isSep c = true
  /-- Behind each but the last there is one. -/
  parted : ∀ p ∈ parts.dropLast, p.2 ≠ []

/-- A text that is joined of tokens is spaced into them. -/
theorem IsJoined.spaced {front : List Char} {parts : List (List Char × List Char)}
    (h : IsJoined isSep front parts) :
    Spaced isSep (joinedBy front parts) (parts.map Prod.fst) := by
  induction parts generalizing front with
  | nil => exact .nil h.front
  | cons p more ih =>
    obtain ⟨token, gap⟩ := p
    obtain ⟨hne, htoken⟩ := h.tokens (token, gap) (by simp)
    have hgap : ∀ c ∈ gap, isSep c = true := h.gaps (token, gap) (by simp)
    have hmore : IsJoined isSep gap more := by
      refine ⟨hgap, fun p hp => h.tokens p (by simp [hp]), fun p hp => h.gaps p (by simp [hp]), ?_⟩
      intro p hp
      refine h.parted p ?_
      cases more with
      | nil => cases hp
      | cons q more => exact List.mem_cons_of_mem _ hp
    have hhead : ∀ c ∈ (joinedBy gap more).head?, isSep c = true := by
      cases more with
      | nil => exact fun c hc => hgap c (List.mem_of_mem_head? hc)
      | cons q more =>
        -- Another token follows, so there is a separator before it.
        obtain ⟨d, gap, rfl⟩ := List.exists_cons_of_ne_nil (h.parted (token, gap) (by simp))
        rintro c ⟨⟩
        exact hgap d (by simp)
    exact .cons h.front hne htoken hhead (ih hmore)

end Text

namespace SinkName

/-! ### Stage tokens -/

/-- **Stage tokens are the runs of a bracket.**  They are listed once and in
    order, each has something in it and holds no separator, and together they
    are the bracket without its separators.  And tokens are read back from every
    text that joins them with separators. -/
theorem splitStages_lists_runs :
    (∀ block : String,
      (∃ placed, Text.ListsRuns isSeparator block.toList placed ∧
        splitStages (some block) = placed.map fun p => String.ofList p.2) ∧
      (∀ token ∈ splitStages (some block),
        token ≠ "" ∧ ∀ c ∈ token.toList, isSeparator c = false) ∧
      (String.join (splitStages (some block))).toList =
        block.toList.filter fun c => !isSeparator c) ∧
    ∀ front parts, Text.IsJoined isSeparator front parts →
      splitStages (some (String.ofList (Text.joinedBy front parts))) =
        parts.map fun p => String.ofList p.1 := by
  constructor
  · intro block
    -- Both directions go through `Spaced`, which says nothing of how the text is cut.
    have hspaced : Text.Spaced isSeparator block.toList (stageTokens block.toList) :=
      Text.spaced_runsBetween isSeparator block.toList
    refine ⟨?_, ?_, ?_⟩
    · obtain ⟨placed, hlists, htokens⟩ := hspaced.exists_listsRuns
      refine ⟨placed, hlists, ?_⟩
      show (stageTokens block.toList).map String.ofList = _
      rw [← htokens, List.map_map]
      rfl
    · intro token htoken
      obtain ⟨run, hrun, rfl⟩ := List.mem_map.mp htoken
      obtain ⟨hne, hfree⟩ := hspaced.tokens run hrun
      rw [String.toList_ofList]
      refine ⟨fun hempty => hne ?_, hfree⟩
      simpa using congrArg String.toList hempty
    · rw [← hspaced.flatten_eq, String.toList_join]
      show ((stageTokens block.toList).map String.ofList).flatMap String.toList = _
      rw [List.flatMap_map]
      simp [List.flatMap_id']
  · intro front parts hjoined
    have hruns : stageTokens (Text.joinedBy front parts) = parts.map Prod.fst :=
      hjoined.spaced.runsBetween_eq
    show (stageTokens (String.ofList _).toList).map String.ofList = _
    rw [String.toList_ofList, hruns, List.map_map]
    rfl

/-- Three letters with commas and blanks between and around them. -/
def spacedLetters : List (List Char × List Char) :=
  [(['a'], [',', ',']), (['b'], [' ', '\n', '\u2003']), (['c'], [' '])]

theorem spacedLetters_splitStages_lists_runs :
    Text.IsJoined isSeparator [' '] spacedLetters ∧
      splitStages (some " a,,b \n\u2003c ") = ["a", "b", "c"] := by
  have hletters : ∀ p ∈ spacedLetters, p.1 ≠ [] ∧ (p.1.all fun c => !isSeparator c) = true ∧
      p.2.all isSeparator = true := by decide
  have hjoined : Text.IsJoined isSeparator [' '] spacedLetters := by
    refine ⟨List.all_eq_true.mp (by decide), fun p hp => ?_, fun p hp => ?_, by decide⟩
    · obtain ⟨hne, hfree, -⟩ := hletters p hp
      exact ⟨hne, by simpa using hfree⟩
    · exact List.all_eq_true.mp (hletters p hp).2.2
  have hsplit := splitStages_lists_runs.2 [' '] spacedLetters hjoined
  have htext : String.ofList (Text.joinedBy [' '] spacedLetters) = " a,,b \n\u2003c " := by decide
  rw [htext] at hsplit
  exact ⟨hjoined, hsplit⟩

end SinkName

end SinkPipeline
