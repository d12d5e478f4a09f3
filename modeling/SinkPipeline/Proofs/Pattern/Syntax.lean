import Mathlib.Computability.Language
import SinkPipeline.Pattern.Glob

/-! # The syntax of globs

  A glob is a sequence of **leaves** and of alternatives in braces, which may be
  nested.  The language of a glob is defined by recursion on this syntax.

  A tree is spelled by its text, but not every tree is: what a leaf means may
  depend on what **follows** it in the text, up to the end of the whole glob.
  For instance `*` is a leaf of its own only if no other `*` follows.

  - `Closed` is about texts: each opening brace has its closing brace, and what
    stands in brackets is plain.
  - Each closed text is the text of a tree.
-/

namespace SinkPipeline.Pattern

/-! ### Trees -/

/-- A part of a glob that holds no other part. -/
inductive Leaf where
  /-- An ordinary character. -/
  | char (c : Char)
  /-- `?` -/
  | question
  /-- `*` -/
  | star
  /-- `**/` -/
  | directories
  /-- `**` without a slash behind it. -/
  | doubleStar
  /-- A bracket with some characters. -/
  | oneOf (cs : List Char)
  /-- A bracket with a `!` and some characters. -/
  | noneOf (cs : List Char)

mutual

/-- A glob. -/
inductive Glob where
  /-- The empty glob. -/
  | nothing
  /-- A leaf, and what follows it. -/
  | leaf (l : Leaf) (rest : Glob)
  /-- Alternatives in braces, and what follows the closing brace. -/
  | braces (alternatives : Branches) (rest : Glob)

/-- Alternatives, at least one. -/
inductive Branches where
  /-- The last one. -/
  | last (g : Glob)
  /-- One, and more after a comma. -/
  | more (g : Glob) (others : Branches)

end

/-! ### Languages -/

/-- What a leaf stands for. -/
def Leaf.language : Leaf → Language Char
  | .char c => {[c]}
  | .question => {cs | ∃ c, cs = [c] ∧ c ≠ '/'}
  | .star => {cs | '/' ∉ cs}
  | .directories => {cs | cs = [] ∨ '\n' ∉ cs ∧ cs.getLast? = some '/'}
  | .doubleStar => {cs | '\n' ∉ cs}
  | .oneOf listed => {cs | ∃ c, cs = [c] ∧ c ∈ listed}
  | .noneOf listed => {cs | ∃ c, cs = [c] ∧ c ∉ listed ∧ c ≠ '/'}

mutual

/-- **What a glob stands for**: what its parts stand for, one after the other. -/
def Glob.language : Glob → Language Char
  | .nothing => 1
  | .leaf l rest => l.language * rest.language
  | .braces alternatives rest => alternatives.language * rest.language

/-- What alternatives stand for: whatever one of them does. -/
def Branches.language : Branches → Language Char
  | .last g => g.language
  | .more g others => g.language + others.language

end

/-! ### Texts -/

/-- The text of a leaf. -/
def Leaf.text : Leaf → List Char
  | .char c => [c]
  | .question => ['?']
  | .star => ['*']
  | .directories => ['*', '*', '/']
  | .doubleStar => ['*', '*']
  | .oneOf cs => '[' :: (cs ++ [']'])
  | .noneOf cs => '[' :: '!' :: (cs ++ [']'])

mutual

/-- The text of a glob. -/
def Glob.text : Glob → List Char
  | .nothing => []
  | .leaf l rest => l.text ++ rest.text
  | .braces alternatives rest => '\x7b' :: (alternatives.text ++ '\x7d' :: rest.text)

/-- The text of alternatives, with commas between them. -/
def Branches.text : Branches → List Char
  | .last g => g.text
  | .more g others => g.text ++ ',' :: others.text

end

/-- A character that has no meaning in brackets. -/
def isPlain (c : Char) : Bool := c ∉ ['\\', '^', '-', '[', ']', '&', '~', '|']

/-- Does the text of a leaf mean this leaf, inside braces or not, when something
    follows? -/
def Leaf.StandsBefore (inside : Bool) (following : List Char) : Leaf → Prop
  | .char c =>
    c ≠ '*' ∧ c ≠ '?' ∧ c ≠ '\x7b' ∧ (c = '[' → ']' ∉ following) ∧
      (inside = true → c ≠ ',' ∧ c ≠ '\x7d')
  | .question => True
  | .star => following.head? ≠ some '*'
  | .directories => True
  | .doubleStar => following.head? ≠ some '/'
  | .oneOf cs => cs ≠ [] ∧ cs.head? ≠ some '!' ∧ ∀ c ∈ cs, isPlain c = true
  | .noneOf cs => cs ≠ [] ∧ ∀ c ∈ cs, isPlain c = true

mutual

/-- Does the text of a glob mean this glob when something follows? -/
def Glob.StandsBefore (inside : Bool) (following : List Char) : Glob → Prop
  | .nothing => True
  | .leaf l rest =>
    l.StandsBefore inside (rest.text ++ following) ∧ rest.StandsBefore inside following
  | .braces alternatives rest =>
    alternatives.StandsBefore ('\x7d' :: (rest.text ++ following)) ∧
      rest.StandsBefore inside following

/-- Does the text of alternatives mean these when something follows? -/
def Branches.StandsBefore (following : List Char) : Branches → Prop
  | .last g => g.StandsBefore true following
  | .more g others =>
    g.StandsBefore true (',' :: (others.text ++ following)) ∧ others.StandsBefore following

end

/-- **A text spells a glob** if it is the glob's text and means it. -/
def Glob.Spells (g : Glob) (cs : List Char) : Prop := g.text = cs ∧ g.StandsBefore false []

/-! ### Closed texts -/

/-- What is listed in a bracket: a leading `!` is no part of it. -/
def listedIn : List Char → List Char
  | '!' :: cs => cs
  | cs => cs

/-- **A closed text**, inside `depth` open braces: each opening brace has its
    closing brace, and what stands in brackets is plain.  A `[` without a later
    `]` opens no bracket, and a closing brace outside braces closes nothing. -/
inductive Closed : Nat → List Char → Prop where
  /-- The end, outside braces. -/
  | done : Closed 0 []
  /-- An opening brace. -/
  | opening {depth : Nat} {cs : List Char} (rest : Closed (depth + 1) cs) :
      Closed depth ('\x7b' :: cs)
  /-- A closing brace. -/
  | closing {depth : Nat} {cs : List Char} (rest : Closed depth cs) :
      Closed (depth + 1) ('\x7d' :: cs)
  /-- A closing brace outside braces. -/
  | surplus {cs : List Char} (rest : Closed 0 cs) : Closed 0 ('\x7d' :: cs)
  /-- A bracket. -/
  | bracket {depth : Nat} {body cs : List Char} (hlisted : listedIn body ≠ [])
      (hplain : ∀ c ∈ body, isPlain c = true) (rest : Closed depth cs) :
      Closed depth ('[' :: (body ++ ']' :: cs))
  /-- A `[` that opens no bracket. -/
  | lone {depth : Nat} {cs : List Char} (hlone : ']' ∉ cs) (rest : Closed depth cs) :
      Closed depth ('[' :: cs)
  /-- Any other character. -/
  | other {depth : Nat} {c : Char} {cs : List Char} (hc : c ∉ ['\x7b', '\x7d', '['])
      (rest : Closed depth cs) : Closed depth (c :: cs)

section

variable {depth : Nat} {c : Char} {cs : List Char}

theorem Closed.of_other (h : Closed depth (c :: cs)) (hc : c ∉ ['\x7b', '\x7d', '[']) :
    Closed depth cs := by
  generalize ht : c :: cs = t at h
  cases h with
  | done => cases ht
  | other _ rest =>
    cases ht
    exact rest
  | _ =>
    obtain ⟨rfl, -⟩ := List.cons.inj ht
    exact absurd hc (by decide)

theorem Closed.of_opening (h : Closed depth ('\x7b' :: cs)) : Closed (depth + 1) cs := by
  generalize ht : '\x7b' :: cs = t at h
  cases h with
  | done => cases ht
  | opening rest =>
    cases ht
    exact rest
  | other hc _ =>
    obtain ⟨rfl, -⟩ := List.cons.inj ht
    exact absurd hc (by decide)
  | _ => exact absurd (List.cons.inj ht).1 (by decide)

/-- A closing brace closes a brace, or there is none. -/
theorem Closed.of_closing (h : Closed depth ('\x7d' :: cs)) : Closed (depth - 1) cs := by
  generalize ht : '\x7d' :: cs = t at h
  cases h with
  | done => cases ht
  | closing rest =>
    cases ht
    exact rest
  | surplus rest =>
    cases ht
    exact rest
  | other hc _ =>
    obtain ⟨rfl, -⟩ := List.cons.inj ht
    exact absurd hc (by decide)
  | _ => exact absurd (List.cons.inj ht).1 (by decide)

/-- The first `]` ends the bracket, if there is one. -/
theorem Closed.of_bracket (h : Closed depth ('[' :: cs)) :
    (∃ body rest, cs = body ++ ']' :: rest ∧ listedIn body ≠ [] ∧ (∀ c ∈ body, isPlain c = true) ∧
      Closed depth rest) ∨ ']' ∉ cs ∧ Closed depth cs := by
  generalize ht : '[' :: cs = t at h
  cases h with
  | done => cases ht
  | @bracket _ body rest hlisted hplain hrest =>
    obtain ⟨-, rfl⟩ := List.cons.inj ht
    exact .inl ⟨body, rest, rfl, hlisted, hplain, hrest⟩
  | lone hlone hrest =>
    obtain ⟨-, rfl⟩ := List.cons.inj ht
    exact .inr ⟨hlone, hrest⟩
  | other hc _ =>
    obtain ⟨rfl, -⟩ := List.cons.inj ht
    exact absurd hc (by decide)
  | _ => exact absurd (List.cons.inj ht).1 (by decide)

end

/-! ### Trees of closed texts -/

/-- Change the first alternative. -/
def Branches.onFirst (f : Glob → Glob) : Branches → Branches
  | .last g => .last (f g)
  | .more g others => .more (f g) others

/-- **A readable text**, inside `depth` open braces: for each of them what is left
    of its alternatives and a closing brace, and then a glob. -/
def Readable : Nat → List Char → Prop
  | 0, cs => ∃ g : Glob, g.Spells cs
  | depth + 1, cs => ∃ (alternatives : Branches) (rest : List Char),
      cs = alternatives.text ++ '\x7d' :: rest ∧ alternatives.StandsBefore ('\x7d' :: rest) ∧
        Readable depth rest

namespace Readable

variable {depth : Nat} {cs : List Char}

/-- **A part in front of a readable text** is a part of its glob, or of the first
    of its alternatives. -/
theorem part {f : Glob → Glob} {front : List Char} (htext : ∀ g, (f g).text = front ++ g.text)
    (hstands : ∀ (g : Glob) (following : List Char), g.text ++ following = cs →
      g.StandsBefore (depth != 0) following → (f g).StandsBefore (depth != 0) following)
    (h : Readable depth cs) : Readable depth (front ++ cs) := by
  cases depth with
  | zero =>
    obtain ⟨g, rfl, hg⟩ := h
    exact ⟨f g, htext g, hstands g [] (List.append_nil _) hg⟩
  | succ depth =>
    obtain ⟨alternatives, rest, rfl, halternatives, hrest⟩ := h
    refine ⟨alternatives.onFirst f, rest, ?_, ?_, hrest⟩
    · cases alternatives <;> simp [Branches.onFirst, Branches.text, htext]
    · cases alternatives with
      | last g => exact hstands g _ rfl halternatives
      | more g others =>
        obtain ⟨hg, hothers⟩ := halternatives
        exact ⟨hstands g _ (by simp [Branches.text]) hg, hothers⟩

/-- A leaf in front of a readable text. -/
theorem leaf {l : Leaf} (hl : l.StandsBefore (depth != 0) cs) (h : Readable depth cs) :
    Readable depth (l.text ++ cs) := by
  refine h.part (f := .leaf l) (fun _ => rfl) ?_
  rintro g following rfl hg
  exact ⟨hl, hg⟩

/-- Outside braces, a comma or a closing brace stands for itself. -/
theorem outside {c : Char} (hc : c = ',' ∨ c = '\x7d') (h : Readable 0 cs) :
    Readable 0 (c :: cs) := by
  have hstands : (Leaf.char c).StandsBefore false cs := by
    rcases hc with rfl | rfl
    · exact ⟨by decide, by decide, by decide, fun h => absurd h (by decide), by simp⟩
    · exact ⟨by decide, by decide, by decide, fun h => absurd h (by decide), by simp⟩
  exact h.leaf (l := .char c) hstands

/-- An opening brace: what is left of its alternatives is all of them. -/
theorem opening (h : Readable (depth + 1) cs) : Readable depth ('\x7b' :: cs) := by
  obtain ⟨inner, rest, rfl, hinner, hrest⟩ := h
  have htext : ∀ g : Glob, (Glob.braces inner g).text =
      '\x7b' :: (inner.text ++ ['\x7d']) ++ g.text := by
    intro g
    simp [Glob.text]
  have hread := hrest.part htext (by
    rintro g following rfl hg
    exact ⟨by simpa using hinner, hg⟩)
  simpa using hread

/-- A closing brace: nothing is left of its alternatives. -/
theorem closing (h : Readable depth cs) : Readable (depth + 1) ('\x7d' :: cs) :=
  ⟨.last .nothing, cs, rfl, trivial, h⟩

/-- A comma inside braces. -/
theorem comma (h : Readable (depth + 1) cs) : Readable (depth + 1) (',' :: cs) := by
  obtain ⟨alternatives, rest, rfl, hstands, hrest⟩ := h
  exact ⟨.more .nothing alternatives, rest, rfl, ⟨trivial, hstands⟩, hrest⟩

end Readable

/-- A bracket is a leaf. -/
theorem exists_leaf_of_body {body : List Char} (hlisted : listedIn body ≠ [])
    (hplain : ∀ c ∈ body, isPlain c = true) (inside : Bool) (following : List Char) :
    ∃ l : Leaf, l.text = '[' :: (body ++ [']']) ∧ l.StandsBefore inside following := by
  by_cases hbang : body.head? = some '!'
  · obtain ⟨cs, rfl⟩ := List.head?_eq_some_iff.mp hbang
    exact ⟨.noneOf cs, rfl, hlisted, fun c hc => hplain c (List.mem_cons_of_mem _ hc)⟩
  · refine ⟨.oneOf body, rfl, ?_, hbang, hplain⟩
    rintro rfl
    exact hlisted rfl

/-- A bracket in front of a readable text. -/
theorem Readable.bracket {depth : Nat} {body rest : List Char} (h : Readable depth rest)
    (hlisted : listedIn body ≠ []) (hplain : ∀ c ∈ body, isPlain c = true) :
    Readable depth ('[' :: (body ++ ']' :: rest)) := by
  obtain ⟨l, htext, hstands⟩ := exists_leaf_of_body hlisted hplain (depth != 0) rest
  have hread := h.leaf hstands
  rwa [htext, List.cons_append, List.append_assoc] at hread

/-- What comes after a bracket. -/
theorem drop_bracket {body rest : List Char} (hplain : ∀ c ∈ body, isPlain c = true) :
    ((body ++ ']' :: rest).dropWhile (· != ']')).tail = rest := by
  have hbody : ∀ c ∈ body, (c != ']') = true := by
    intro c hc
    have hne : c ≠ ']' := by
      rintro rfl
      exact absurd (hplain _ hc) (by decide)
    simpa using hne
  rw [List.dropWhile_append_of_pos hbody]
  rfl

/-- **A closed text is readable.** -/
theorem Closed.readable {depth : Nat} {cs : List Char} (h : Closed depth cs) :
    Readable depth cs := by
  -- From left to right, piece by piece: a piece may be more than one character.
  fun_induction pieces cs generalizing depth with
  | case1 =>
    cases h
    exact ⟨.nothing, rfl, trivial⟩
  | case2 cs ih =>
    have hrest := ((h.of_other (by decide)).of_other (by decide)).of_other (by decide)
    exact (ih hrest).leaf (l := .directories) trivial
  | case3 cs hslash ih =>
    have hrest := (h.of_other (by decide)).of_other (by decide)
    refine (ih hrest).leaf (l := .doubleStar) ?_
    intro hhead
    obtain ⟨tail, rfl⟩ := List.head?_eq_some_iff.mp hhead
    exact hslash tail rfl
  | case4 cs _ hstar ih =>
    refine (ih (h.of_other (by decide))).leaf (l := .star) ?_
    intro hhead
    obtain ⟨tail, rfl⟩ := List.head?_eq_some_iff.mp hhead
    exact hstar tail rfl
  | case5 cs ih => exact (ih (h.of_other (by decide))).leaf (l := .question) trivial
  | case6 cs hmem ih =>
    rcases h.of_bracket with ⟨body, rest, rfl, hlisted, hplain, hrest⟩ | ⟨hlone, -⟩
    · rw [drop_bracket hplain] at ih
      exact (ih hrest).bracket hlisted hplain
    · exact absurd hmem hlone
  | case7 cs hmem ih =>
    rcases h.of_bracket with ⟨body, rest, rfl, -⟩ | ⟨hlone, hrest⟩
    · exact absurd (by simp) hmem
    · refine (ih hrest).leaf (l := .char '[') ⟨by decide, by decide, by decide, fun _ => hlone, ?_⟩
      exact fun _ => ⟨by decide, by decide⟩
  | case8 cs ih => exact (ih h.of_opening).opening
  | case9 cs ih =>
    have hrest := ih (h.of_other (by decide))
    cases depth with
    | zero => exact hrest.outside (.inl rfl)
    | succ depth => exact hrest.comma
  | case10 cs ih =>
    have hrest := ih h.of_closing
    cases depth with
    | zero => exact hrest.outside (.inr rfl)
    | succ depth => exact hrest.closing
  | case11 c cs _ _ hstar hquestion hbracket hopen hcomma hclose ih =>
    have hother : c ∉ ['\x7b', '\x7d', '['] := by simp_all
    refine (ih (h.of_other hother)).leaf (l := .char c) ⟨hstar, hquestion, hopen, ?_, ?_⟩
    · exact fun h => absurd h hbracket
    · exact fun _ => ⟨hcomma, hclose⟩

/-- **Each closed text spells a glob.** -/
theorem exists_spells {cs : List Char} (h : Closed 0 cs) : ∃ g : Glob, g.Spells cs := h.readable

end SinkPipeline.Pattern
