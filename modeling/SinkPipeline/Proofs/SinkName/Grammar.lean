import SinkPipeline.Proofs.Text.Runs
import SinkPipeline.SinkName

/-! # The grammar of sink names

  A **layout** is a way to write a name: its basename, two brackets that may be
  absent, its nature with or without a plus sign, and its domain.  It is valid
  if each part is what the grammar allows there.

  - A name is read if some valid layout spells it, and what is read are the
    parts of the layout.
  - No name has two valid layouts.
  - So parts that a sink may have are read back from every way to write them,
    whatever separators stand between and around their stage tokens.
-/

namespace SinkPipeline.SinkName

/-! ### Layouts -/

/-- A word: a letter or digit, then letters, digits, `_` and `-`. -/
def IsWord (w : List Char) : Prop :=
  ∃ c cs, w = c :: cs ∧ isWordStart c = true ∧ ∀ d ∈ cs, isWordChar d = true

/-- What a bracket may hold: no closing bracket, and something that is no
    separator. -/
def IsBlock (b : List Char) : Prop := ']' ∉ b ∧ ∃ c ∈ b, isSeparator c = false

/-- A way to write a sink's name. -/
structure Layout where
  /-- What stands before the first point. -/
  basename : List Char
  /-- What stands in the bracket before the nature, if there is one. -/
  pre : Option (List Char)
  /-- The nature. -/
  nature : List Char
  /-- Is there a plus sign? -/
  plus : Bool
  /-- What stands in the bracket before the domain, if there is one. -/
  post : Option (List Char)
  /-- The domain. -/
  domain : List Char

/-- A bracket with its point, or nothing. -/
def bracketText : Option (List Char) → List Char
  | none => []
  | some b => '.' :: '[' :: (b ++ [']'])

/-- A plus sign, or nothing. -/
def plusText (plus : Bool) : List Char := if plus then ['+'] else []

namespace Layout

/-- What the layout spells after the plus sign. -/
def tail (r : Layout) : List Char := bracketText r.post ++ '.' :: r.domain

/-- What the layout spells after the basename. -/
def afterBasename (r : Layout) : List Char :=
  bracketText r.pre ++ '.' :: (r.nature ++ (plusText r.plus ++ r.tail))

/-- What the layout spells. -/
def text (r : Layout) : List Char := r.basename ++ r.afterBasename

/-- Every part is one that the grammar allows. -/
structure Valid (r : Layout) : Prop where
  /-- There is a basename. -/
  basename_ne : r.basename ≠ []
  /-- It holds no point. -/
  basename : '.' ∉ r.basename
  /-- The first bracket holds a stage token. -/
  pre : ∀ b ∈ r.pre, IsBlock b
  /-- The nature is a word. -/
  nature : IsWord r.nature
  /-- The second bracket holds a stage token. -/
  post : ∀ b ∈ r.post, IsBlock b
  /-- The domain is a word. -/
  domain : IsWord r.domain

end Layout

/-- The tokens are those of a bracket: none if there is none, else those that
    its text is spaced into. -/
def TokensOf (tokens : List String) : Option (List Char) → Prop
  | none => tokens = []
  | some b => Text.Spaced isSeparator b (tokens.map String.toList)

/-- The parts of the name are those of the layout. -/
structure Layout.Means (r : Layout) (n : SinkName) : Prop where
  /-- The basename. -/
  basename : n.basename.toList = r.basename
  /-- The nature. -/
  nature : n.nature.toList = r.nature
  /-- The plus sign. -/
  isMulti : n.isMulti = r.plus
  /-- The domain. -/
  domain : n.domain.toList = r.domain
  /-- The tokens of the first bracket. -/
  preStages : TokensOf n.preStages r.pre
  /-- The tokens of the second bracket. -/
  postStages : TokensOf n.postStages r.post

/-! ### Words -/

theorem isWordChar_of_isWordStart {c : Char} (h : isWordStart c = true) : isWordChar c = true := by
  unfold isWordStart at h
  simp [isWordChar, h]

theorem IsWord.all {w : List Char} (h : IsWord w) : ∀ c ∈ w, isWordChar c = true := by
  obtain ⟨c, cs, rfl, hstart, hmore⟩ := h
  intro d hd
  rcases List.mem_cons.mp hd with rfl | hd
  · exact isWordChar_of_isWordStart hstart
  · exact hmore d hd

/-- The word behind a point is read up to the first character that no word
    has. -/
theorem takeWord_append {w rest : List Char} (hw : IsWord w)
    (hrest : ∀ c ∈ rest.head?, isWordChar c = false) :
    takeWord ('.' :: (w ++ rest)) = some (w, rest) := by
  obtain ⟨c, cs, rfl, hstart, hmore⟩ := hw
  have hstop : rest.takeWhile isWordChar = [] ∧ rest.dropWhile isWordChar = rest := by
    cases rest with
    | nil => exact ⟨rfl, rfl⟩
    | cons d rest =>
      have hd : isWordChar d = false := hrest d (by simp)
      simp [hd]
  show (if isWordStart c = true then
      some (c :: (cs ++ rest).takeWhile isWordChar, (cs ++ rest).dropWhile isWordChar)
    else none) = _
  rw [if_pos hstart, List.takeWhile_append_of_pos hmore, List.dropWhile_append_of_pos hmore,
    hstop.1, hstop.2, List.append_nil]

/-- What is read as a word is one, behind a point. -/
theorem eq_of_takeWord {cs w rest : List Char} (h : takeWord cs = some (w, rest)) :
    IsWord w ∧ cs = '.' :: (w ++ rest) := by
  unfold takeWord at h
  split at h
  · next c cs =>
    split at h
    · next hstart =>
      cases h
      have hmore : ∀ d ∈ cs.takeWhile isWordChar, isWordChar d = true :=
        fun d hd => List.all_eq_true.mp List.all_takeWhile d hd
      refine ⟨⟨c, _, rfl, hstart, hmore⟩, ?_⟩
      rw [List.cons_append, List.takeWhile_append_dropWhile]
    · cases h
  · cases h

/-! ### Brackets -/

/-- A block has stage tokens. -/
theorem stageTokens_ne_nil {b : List Char} (h : IsBlock b) : stageTokens b ≠ [] :=
  Text.runsBetween_ne_nil_iff.mpr h.2

/-- The stage tokens of a bracket are those that its text is spaced into. -/
theorem tokensOf_stageTokens (b : List Char) :
    TokensOf ((stageTokens b).map String.ofList) (some b) := by
  have hback : ((stageTokens b).map String.ofList).map String.toList = stageTokens b := by
    rw [List.map_map]
    exact List.map_id'' (fun t => by simp) _
  show Text.Spaced isSeparator b (((stageTokens b).map String.ofList).map String.toList)
  rw [hback]
  exact Text.spaced_runsBetween isSeparator b

/-- There is only one list of tokens of a bracket. -/
theorem TokensOf.unique {tokens tokens' : List String} {b : Option (List Char)}
    (h : TokensOf tokens b) (h' : TokensOf tokens' b) : tokens = tokens' := by
  cases b with
  | none => exact h.trans h'.symm
  | some b =>
    have hsame : tokens.map String.toList = tokens'.map String.toList :=
      (Text.Spaced.runsBetween_eq h).symm.trans (Text.Spaced.runsBetween_eq h')
    exact (List.map_inj_right fun _ _ => String.toList_inj.mp).mp hsame

/-- A bracket is read up to its first closing bracket. -/
theorem takeBracket_some {b : List Char} (hb : IsBlock b) (rest : List Char) :
    takeBracket ('.' :: '[' :: (b ++ ']' :: rest)) =
      some ((stageTokens b).map String.ofList, rest) := by
  have hopen : ∀ c ∈ b, (c != ']') = true := by
    intro c hc
    have hne : c ≠ ']' := fun h => hb.1 (h ▸ hc)
    simpa using hne
  have htake : (b ++ ']' :: rest).takeWhile (· != ']') = b := by
    rw [List.takeWhile_append_of_pos hopen]
    simp
  have hdrop : (b ++ ']' :: rest).dropWhile (· != ']') = ']' :: rest := by
    rw [List.dropWhile_append_of_pos hopen]
    simp
  rw [takeBracket, hdrop, htake]
  have hne := stageTokens_ne_nil hb
  generalize stageTokens b = tokens at hne
  cases tokens with
  | nil => exact absurd rfl hne
  | cons t ts => rfl

/-- A point in front of a word begins no bracket. -/
theorem takeBracket_word {w : List Char} (hw : IsWord w) (rest : List Char) :
    takeBracket ('.' :: (w ++ rest)) = some ([], '.' :: (w ++ rest)) := by
  obtain ⟨c, cs, rfl, hstart, -⟩ := hw
  have hc : c ≠ '[' := by
    rintro rfl
    revert hstart
    decide
  unfold takeBracket
  split
  · next hsame =>
    cases hsame
    exact absurd rfl hc
  · rfl

/-- A bracket that may be absent, in front of a point and a word. -/
theorem takeBracket_append {b : Option (List Char)} (hb : ∀ block ∈ b, IsBlock block)
    {w : List Char} (hw : IsWord w) (rest : List Char) :
    ∃ tokens, takeBracket (bracketText b ++ '.' :: (w ++ rest)) =
      some (tokens, '.' :: (w ++ rest)) ∧ TokensOf tokens b := by
  cases b with
  | none => exact ⟨[], takeBracket_word hw rest, rfl⟩
  | some block =>
    refine ⟨_, ?_, tokensOf_stageTokens block⟩
    have htaken := takeBracket_some (hb block rfl) ('.' :: (w ++ rest))
    simpa [bracketText] using htaken

/-- What is read as a bracket is one, or there is none. -/
theorem eq_of_takeBracket {cs rest : List Char} {tokens : List String}
    (h : takeBracket cs = some (tokens, rest)) :
    ∃ b, (∀ block ∈ b, IsBlock block) ∧ cs = bracketText b ++ rest ∧ TokensOf tokens b := by
  unfold takeBracket at h
  split at h
  · next cs =>
    split at h
    · next rest' hclosed =>
      have hcut : cs = cs.takeWhile (· != ']') ++ ']' :: rest' := by
        rw [← hclosed, List.takeWhile_append_dropWhile]
      split at h
      · cases h
      · next hsome =>
        cases h
        refine ⟨some (cs.takeWhile (· != ']')), ?_, ?_, tokensOf_stageTokens _⟩
        · rintro block ⟨⟩
          constructor
          · intro hmem
            have hopen := List.all_eq_true.mp List.all_takeWhile _ hmem
            simp at hopen
          · exact Text.runsBetween_ne_nil_iff.mp hsome
        · rw [bracketText, List.cons_append, List.cons_append, List.append_assoc,
            List.singleton_append, ← hcut]
    · cases h
  · cases h
    exact ⟨none, by simp, rfl, rfl⟩

/-! ### The plus sign -/

theorem takePlus_append {plus : Bool} {rest : List Char} (hrest : rest.head? = some '.') :
    takePlus (plusText plus ++ rest) = (plus, rest) := by
  cases plus with
  | true => rfl
  | false =>
    obtain ⟨rest, rfl⟩ : ∃ more, rest = '.' :: more := by
      cases rest with
      | nil => cases hrest
      | cons c rest =>
        cases hrest
        exact ⟨rest, rfl⟩
    rfl

theorem eq_of_takePlus (cs : List Char) : cs = plusText (takePlus cs).1 ++ (takePlus cs).2 := by
  unfold takePlus
  split <;> rfl

/-! ### Reading a layout -/

namespace Layout

variable {r r' : Layout} {n n' : SinkName} {cs : List Char}

/-- A bracket begins with a point, and so does what comes after it. -/
theorem head?_bracketText_append (b : Option (List Char)) (rest : List Char) :
    (bracketText b ++ '.' :: rest).head? = some '.' := by
  cases b <;> rfl

/-- What comes after the nature begins with a plus sign or a point. -/
theorem head?_plusText_append (r : Layout) :
    ∀ c ∈ (plusText r.plus ++ r.tail).head?, isWordChar c = false := by
  intro c hc
  cases hplus : r.plus with
  | true =>
    rw [hplus] at hc
    cases hc
    decide
  | false =>
    rw [hplus] at hc
    have hpoint : (plusText false ++ r.tail).head? = some '.' :=
      head?_bracketText_append r.post r.domain
    rw [hpoint] at hc
    cases hc
    decide

/-- What is demanded holds. -/
theorem of_guard {P : Prop} [Decidable P] {u : Unit} (h : (guard P : Option Unit) = some u) : P := by
  have hif : (if P then some () else none) = some u := h
  split at hif
  · assumption
  · cases hif

theorem guard_of {P : Prop} [Decidable P] (h : P) : (guard P : Option Unit) = some () := by
  show (if P then some () else none) = some ()
  rw [if_pos h]

/-- The basename goes up to the first point. -/
theorem takeWhile_dropWhile_text (hpoint : '.' ∉ r.basename) :
    r.text.takeWhile (· != '.') = r.basename ∧
      r.text.dropWhile (· != '.') = r.afterBasename := by
  have hbefore : ∀ c ∈ r.basename, (c != '.') = true := by
    intro c hc
    have hne : c ≠ '.' := fun h => hpoint (h ▸ hc)
    simpa using hne
  have hfirst : r.afterBasename.head? = some '.' := head?_bracketText_append _ _
  obtain ⟨more, hafter⟩ := List.head?_eq_some_iff.mp hfirst
  constructor
  · rw [text, List.takeWhile_append_of_pos hbefore, hafter]
    simp
  · rw [text, List.dropWhile_append_of_pos hbefore, hafter]
    simp

/-- **A valid layout is read**, and its parts are what is read. -/
theorem Valid.exists_ofChars? (h : r.Valid) : ∃ n, ofChars? r.text = some n ∧ r.Means n := by
  obtain ⟨hbasename, hrest⟩ := takeWhile_dropWhile_text h.basename
  -- The parts are read one after the other.
  obtain ⟨pre, hpre, hpreTokens⟩ :=
    takeBracket_append h.pre h.nature (plusText r.plus ++ r.tail)
  have hnature := takeWord_append h.nature r.head?_plusText_append
  have hplus : takePlus (plusText r.plus ++ r.tail) = (r.plus, r.tail) :=
    takePlus_append (head?_bracketText_append _ _)
  obtain ⟨post, hpost, hpostTokens⟩ := takeBracket_append h.post h.domain []
  have hdomain : takeWord ('.' :: (r.domain ++ [])) = some (r.domain, []) :=
    takeWord_append h.domain (by simp)
  rw [List.append_nil] at hpost hdomain
  refine ⟨⟨String.ofList r.basename, String.ofList r.nature, r.plus, String.ofList r.domain, pre,
    post⟩, ?_, ?_⟩
  · unfold ofChars?
    rw [hbasename, hrest]
    have hafter : takeBracket r.afterBasename =
        some (pre, '.' :: (r.nature ++ (plusText r.plus ++ r.tail))) := hpre
    have htail : takeBracket r.tail = some (post, '.' :: r.domain) := hpost
    refine Option.bind_eq_some_iff.mpr ⟨(), guard_of h.basename_ne, ?_⟩
    refine Option.bind_eq_some_iff.mpr ⟨_, hafter, ?_⟩
    refine Option.bind_eq_some_iff.mpr ⟨_, hnature, ?_⟩
    dsimp only
    rw [hplus]
    refine Option.bind_eq_some_iff.mpr ⟨_, htail, ?_⟩
    exact Option.bind_eq_some_iff.mpr ⟨_, hdomain, rfl⟩
  · exact {
      basename := by simp
      nature := by simp
      isMulti := rfl
      domain := by simp
      preStages := hpreTokens
      postStages := hpostTokens }

/-- **What is read has a valid layout.** -/
theorem exists_of_ofChars? (h : ofChars? cs = some n) :
    ∃ r : Layout, r.Valid ∧ r.text = cs ∧ r.Means n := by
  unfold ofChars? at h
  obtain ⟨⟨⟩, hbasename, h⟩ := Option.bind_eq_some_iff.mp h
  obtain ⟨⟨pre, cs₁⟩, hpre, h⟩ := Option.bind_eq_some_iff.mp h
  obtain ⟨⟨nature, cs₂⟩, hnature, h⟩ := Option.bind_eq_some_iff.mp h
  have hplus := eq_of_takePlus cs₂
  dsimp only at h
  generalize takePlus cs₂ = p at h hplus
  obtain ⟨plus, cs₃⟩ := p
  obtain ⟨⟨post, cs₄⟩, hpost, h⟩ := Option.bind_eq_some_iff.mp h
  obtain ⟨⟨domain, cs₅⟩, hdomain, h⟩ := Option.bind_eq_some_iff.mp h
  obtain ⟨⟨⟩, hend, h⟩ := Option.bind_eq_some_iff.mp h
  cases h
  obtain ⟨preBlock, hpreValid, hcs, hpreTokens⟩ := eq_of_takeBracket hpre
  obtain ⟨hnatureWord, rfl⟩ := eq_of_takeWord hnature
  obtain ⟨postBlock, hpostValid, rfl, hpostTokens⟩ := eq_of_takeBracket hpost
  obtain ⟨hdomainWord, rfl⟩ := eq_of_takeWord hdomain
  have hcs₅ : cs₅ = [] := of_guard hend
  have hne : cs.takeWhile (· != '.') ≠ [] := of_guard hbasename
  subst hcs₅
  refine ⟨⟨cs.takeWhile (· != '.'), preBlock, nature, plus, postBlock, domain⟩, ?_, ?_, ?_⟩
  · refine ⟨hne, ?_, hpreValid, hnatureWord, hpostValid, hdomainWord⟩
    intro hmem
    have hopen := List.all_eq_true.mp List.all_takeWhile _ hmem
    simp at hopen
  · -- The pieces that were taken off make up the whole name.
    rw [List.append_nil] at hplus
    show cs.takeWhile (· != '.') ++ (bracketText preBlock ++ '.' :: (nature ++
      (plusText plus ++ (bracketText postBlock ++ '.' :: domain)))) = cs
    rw [← hplus, ← hcs, List.takeWhile_append_dropWhile]
  · exact {
      basename := by simp
      nature := by simp
      isMulti := rfl
      domain := by simp
      preStages := hpreTokens
      postStages := hpostTokens }

/-! ### One layout for a name -/

/-- Two pieces in front of characters that neither of them has are the same. -/
theorem append_left_inj_of_stop {p : Char → Bool} {a b x y : List Char} (ha : ∀ c ∈ a, p c = true)
    (hb : ∀ c ∈ b, p c = true) (hx : ∀ c ∈ x.head?, p c = false) (hy : ∀ c ∈ y.head?, p c = false)
    (h : a ++ x = b ++ y) : a = b ∧ x = y := by
  have hstop : ∀ {z : List Char}, (∀ c ∈ z.head?, p c = false) → z.takeWhile p = [] := by
    intro z hz
    cases z with
    | nil => rfl
    | cons c z =>
      have hc : p c = false := hz c (by simp)
      simp [hc]
  have htake := congrArg (List.takeWhile p) h
  rw [List.takeWhile_append_of_pos ha, List.takeWhile_append_of_pos hb, hstop hx, hstop hy,
    List.append_nil, List.append_nil] at htake
  subst htake
  exact ⟨rfl, List.append_cancel_left h⟩

/-- Brackets in front of a point and a word are the same if the texts are. -/
theorem bracketText_inj {b b' : Option (List Char)} {w w' x y : List Char}
    (hb : ∀ block ∈ b, IsBlock block) (hb' : ∀ block ∈ b', IsBlock block) (hw : IsWord w)
    (hw' : IsWord w') (h : bracketText b ++ '.' :: (w ++ x) = bracketText b' ++ '.' :: (w' ++ y)) :
    b = b' ∧ w ++ x = w' ++ y := by
  -- A word does not begin with a bracket, so a bracket is there in both or in none.
  have hopening : ∀ {w x z : List Char}, IsWord w → '.' :: (w ++ x) ≠ '.' :: '[' :: z := by
    rintro _ x z ⟨c, cs, rfl, hstart, -⟩ hsame
    have hc : c = '[' := by simpa using (List.cons.inj (List.cons.inj hsame).2).1
    subst hc
    revert hstart
    decide
  cases b with
  | none =>
    cases b' with
    | none => exact ⟨rfl, (List.cons.inj h).2⟩
    | some block' => exact absurd h (hopening hw)
  | some block =>
    cases b' with
    | none => exact absurd h.symm (hopening hw')
    | some block' =>
      have hopen : ∀ {block : List Char}, IsBlock block → ∀ c ∈ block, (c != ']') = true := by
        intro block hblock c hc
        have hne : c ≠ ']' := fun hclose => hblock.1 (hclose ▸ hc)
        simpa using hne
      have hinner : block ++ ']' :: '.' :: (w ++ x) = block' ++ ']' :: '.' :: (w' ++ y) := by
        simpa [bracketText] using h
      obtain ⟨rfl, hrest⟩ := append_left_inj_of_stop (hopen (hb block rfl)) (hopen (hb' block' rfl))
        (by simp) (by simp) hinner
      exact ⟨rfl, by simpa using hrest⟩

theorem plusText_inj {plus plus' : Bool} {x y : List Char} (hx : x.head? = some '.')
    (hy : y.head? = some '.') (h : plusText plus ++ x = plusText plus' ++ y) :
    plus = plus' ∧ x = y := by
  have hleft : takePlus (plusText plus ++ x) = (plus, x) := takePlus_append hx
  have hright : takePlus (plusText plus' ++ y) = (plus', y) := takePlus_append hy
  rw [h, hright] at hleft
  exact ⟨congrArg Prod.fst hleft.symm, congrArg Prod.snd hleft.symm⟩

/-- **A name has at most one valid layout.** -/
theorem Valid.unique (h : r.Valid) (h' : r'.Valid) (hsame : r.text = r'.text) : r = r' := by
  have hdotless : ∀ {r : Layout}, r.Valid → ∀ c ∈ r.basename, (c != '.') = true := by
    intro r h c hc
    have hne : c ≠ '.' := fun hpoint => h.basename (hpoint ▸ hc)
    simpa using hne
  have hpoint : ∀ r : Layout, ∀ c ∈ r.afterBasename.head?, (c != '.') = false := by
    intro r c hc
    have hhead : r.afterBasename.head? = some '.' := head?_bracketText_append _ _
    rw [hhead] at hc
    cases hc
    rfl
  -- The text is read off from the left, each part up to what cannot be in it.
  obtain ⟨hbasename, hafter⟩ :=
    append_left_inj_of_stop (hdotless h) (hdotless h') (hpoint r) (hpoint r') hsame
  obtain ⟨hpre, hnatured⟩ := bracketText_inj h.pre h'.pre h.nature h'.nature hafter
  obtain ⟨hnature, hplussed⟩ := append_left_inj_of_stop h.nature.all h'.nature.all
    r.head?_plusText_append r'.head?_plusText_append hnatured
  obtain ⟨hplus, htail⟩ := plusText_inj (head?_bracketText_append _ _)
    (head?_bracketText_append _ _) hplussed
  have htail' : bracketText r.post ++ '.' :: (r.domain ++ []) =
      bracketText r'.post ++ '.' :: (r'.domain ++ []) := by
    simpa [tail] using htail
  obtain ⟨hpost, hdomain⟩ := bracketText_inj h.post h'.post h.domain h'.domain htail'
  rw [List.append_nil, List.append_nil] at hdomain
  cases r
  cases r'
  simp_all

/-- The parts of a layout are the only ones. -/
theorem Means.unique (h : r.Means n) (h' : r.Means n') : n = n' := by
  have hbasename := String.toList_inj.mp (h.basename.trans h'.basename.symm)
  have hnature := String.toList_inj.mp (h.nature.trans h'.nature.symm)
  have hmulti := h.isMulti.trans h'.isMulti.symm
  have hdomain := String.toList_inj.mp (h.domain.trans h'.domain.symm)
  have hpre := h.preStages.unique h'.preStages
  have hpost := h.postStages.unique h'.postStages
  cases n
  cases n'
  simp_all

end Layout

/-! ### Writing the parts of a sink -/

/-- The parts are such that a name can spell them. -/
structure Spellable (n : SinkName) : Prop where
  /-- There is a basename. -/
  basename_ne : n.basename.toList ≠ []
  /-- It holds no point. -/
  basename : '.' ∉ n.basename.toList
  /-- The nature is a word. -/
  nature : IsWord n.nature.toList
  /-- The domain is a word. -/
  domain : IsWord n.domain.toList
  /-- No stage token holds a closing bracket. -/
  tokens : ∀ token ∈ n.preStages ++ n.postStages, ']' ∉ token.toList

/-- The bracket holds the tokens, with any separators between and around them;
    no bracket stands for no tokens. -/
def Brackets (tokens : List String) : Option (List Char) → Prop
  | none => tokens = []
  | some b => tokens ≠ [] ∧ Text.Spaced isSeparator b (tokens.map String.toList)

/-- A layout of the parts, with the given brackets. -/
def layout (n : SinkName) (pre post : Option (List Char)) : Layout :=
  ⟨n.basename.toList, pre, n.nature.toList, n.isMulti, post, n.domain.toList⟩

/-- A text that is spaced into tokens holds what they hold and separators. -/
theorem not_mem_of_spaced {cs : List Char} {tokens : List (List Char)} {c : Char}
    (h : Text.Spaced isSeparator cs tokens) (hc : isSeparator c = false)
    (htokens : ∀ token ∈ tokens, c ∉ token) : c ∉ cs := by
  have hgapless : ∀ {gap : List Char}, (∀ d ∈ gap, isSeparator d = true) → c ∉ gap := by
    intro gap hgap hmem
    have hsep := hgap c hmem
    rw [hc] at hsep
    cases hsep
  induction h with
  | nil hgap => exact hgapless hgap
  | @cons gap token rest tokens hgap _ _ _ _ ih =>
    have htoken : c ∉ token := htokens token (by simp)
    have hrest : c ∉ rest := ih fun t ht => htokens t (by simp [ht])
    simp [hgapless hgap, htoken, hrest]

/-- A bracket around tokens is one that a name may have. -/
theorem Brackets.isBlock {tokens : List String} {b : Option (List Char)} (h : Brackets tokens b)
    (hclose : ∀ token ∈ tokens, ']' ∉ token.toList) : ∀ block ∈ b, IsBlock block := by
  rintro block ⟨⟩
  obtain ⟨hne, hspaced⟩ := h
  have hclosing : isSeparator ']' = false := by decide
  constructor
  · refine not_mem_of_spaced hspaced hclosing ?_
    intro token htoken
    obtain ⟨t, ht, rfl⟩ := List.mem_map.mp htoken
    exact hclose t ht
  · have hruns : stageTokens block ≠ [] := by
      have heq : stageTokens block = tokens.map String.toList := hspaced.runsBetween_eq
      rw [heq]
      simpa using hne
    exact Text.runsBetween_ne_nil_iff.mp hruns

theorem Brackets.tokensOf {tokens : List String} {b : Option (List Char)} (h : Brackets tokens b) :
    TokensOf tokens b := by
  cases b with
  | none => exact h
  | some b => exact h.2

/-- The parts of a sink have a valid layout for every choice of brackets. -/
theorem Spellable.layout {n : SinkName} (h : n.Spellable) {pre post : Option (List Char)}
    (hpre : Brackets n.preStages pre) (hpost : Brackets n.postStages post) :
    (n.layout pre post).Valid ∧ (n.layout pre post).Means n := by
  constructor
  · exact {
      basename_ne := h.basename_ne
      basename := h.basename
      pre := hpre.isBlock fun token ht => h.tokens token (List.mem_append_left _ ht)
      nature := h.nature
      post := hpost.isBlock fun token ht => h.tokens token (List.mem_append_right _ ht)
      domain := h.domain }
  · exact {
      basename := rfl
      nature := rfl
      isMulti := rfl
      domain := rfl
      preStages := hpre.tokensOf
      postStages := hpost.tokensOf }

/-- **Names are read exactly by the grammar.**  A name is read if and only if it
    has a valid layout.  It has at most one, and what is read are the parts of
    that.  And parts that a name can spell are read back from every name that
    spells them, however their stage tokens are separated. -/
theorem parse?_reads_layouts :
    (∀ name, (∃ n, parse? name = some n) ↔ ∃ r : Layout, r.Valid ∧ r.text = name.toList) ∧
      (∀ r r' : Layout, r.Valid → r'.Valid → r.text = r'.text → r = r') ∧
      (∀ name n, ∀ r : Layout, parse? name = some n → r.Valid → r.text = name.toList →
        r.Means n) ∧
      ∀ n : SinkName, n.Spellable → ∀ pre post, Brackets n.preStages pre →
        Brackets n.postStages post → parse? (String.ofList (n.layout pre post).text) = some n := by
  refine ⟨fun name => ⟨?_, ?_⟩, fun r r' => Layout.Valid.unique, ?_, ?_⟩
  · rintro ⟨n, hn⟩
    obtain ⟨r, hvalid, htext, -⟩ := Layout.exists_of_ofChars? hn
    exact ⟨r, hvalid, htext⟩
  · rintro ⟨r, hvalid, htext⟩
    obtain ⟨n, hn, -⟩ := hvalid.exists_ofChars?
    exact ⟨n, by rw [parse?, ← htext, hn]⟩
  · intro name n r hn hvalid htext
    obtain ⟨r', hvalid', htext', hmeans⟩ := Layout.exists_of_ofChars? hn
    rwa [hvalid.unique hvalid' (htext.trans htext'.symm)]
  · intro n hn pre post hpre hpost
    obtain ⟨hvalid, hmeans⟩ := hn.layout hpre hpost
    obtain ⟨n', hread, hmeans'⟩ := hvalid.exists_ofChars?
    rw [parse?, String.toList_ofList, hread, hmeans.unique hmeans']

/-- A sink with two stages in front and one behind. -/
def pagesName : SinkName where
  basename := "pages"
  nature := "sql"
  isMulti := true
  domain := "py"
  preStages := ["seed", "min-2"]
  postStages := ["gzip"]

theorem pages_parse?_reads_layouts :
    pagesName.Spellable ∧
      Brackets pagesName.preStages (some [' ', 's', 'e', 'e', 'd', ',', '\u2003', 'm', 'i', 'n', '-', '2']) ∧
      Brackets pagesName.postStages (some ['g', 'z', 'i', 'p']) ∧
      parse? "pages.[ seed,\u2003min-2].sql+.[gzip].py" = some pagesName := by
  have hspellable : pagesName.Spellable := by
    refine ⟨by decide, by decide, ⟨'s', ['q', 'l'], by decide, rfl, List.all_eq_true.mp rfl⟩,
      ⟨'p', ['y'], by decide, rfl, List.all_eq_true.mp rfl⟩, ?_⟩
    decide
  have hpre : Brackets pagesName.preStages
      (some [' ', 's', 'e', 'e', 'd', ',', '\u2003', 'm', 'i', 'n', '-', '2']) :=
    ⟨by decide, Text.runsBetween_eq_iff.mp (by decide)⟩
  have hpost : Brackets pagesName.postStages (some ['g', 'z', 'i', 'p']) :=
    ⟨by decide, Text.runsBetween_eq_iff.mp (by decide)⟩
  have hname : "pages.[ seed,\u2003min-2].sql+.[gzip].py".toList = (pagesName.layout
      (some [' ', 's', 'e', 'e', 'd', ',', '\u2003', 'm', 'i', 'n', '-', '2'])
      (some ['g', 'z', 'i', 'p'])).text := by decide
  have hread := parse?_reads_layouts.2.2.2 pagesName hspellable _ _ hpre hpost
  rw [parse?, String.toList_ofList] at hread
  exact ⟨hspellable, hpre, hpost, by rw [parse?, hname, hread]⟩

end SinkPipeline.SinkName
