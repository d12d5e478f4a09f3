import SinkPipeline.Proofs.Pattern.Syntax

/-! # From globs to tokens

  The text of a glob is cut into pieces, each piece is spelled as pattern text,
  and that text is cut into tokens.  Here the way from the syntax of a glob to
  these tokens is followed:

  - the pieces of a text that spells a glob are those of its parts;
  - reading the pattern text of a piece gives the tokens of the piece, whatever
    text comes after it.
-/

namespace SinkPipeline.Pattern

/-! ### Pieces of parts -/

/-- The piece that a leaf is cut out as. -/
def Leaf.piece : Leaf → Piece
  | .char ',' => .comma
  | .char '\x7d' => .closeBrace
  | .char c => .char c
  | .question => .question
  | .star => .star
  | .directories => .directories
  | .doubleStar => .doubleStar
  | .oneOf cs => .bracket cs
  | .noneOf cs => .bracket ('!' :: cs)

mutual

/-- The pieces of a glob. -/
def Glob.pieces : Glob → List Piece
  | .nothing => []
  | .leaf l rest => l.piece :: rest.pieces
  | .braces alternatives rest =>
    .openBrace :: (alternatives.pieces ++ .closeBrace :: rest.pieces)

/-- The pieces of alternatives. -/
def Branches.pieces : Branches → List Piece
  | .last g => g.pieces
  | .more g others => g.pieces ++ .comma :: others.pieces

end

/-- The first `]` ends a bracket. -/
theorem pieces_bracket {body : List Char} (hbody : ']' ∉ body) (following : List Char) :
    pieces ('[' :: (body ++ ']' :: following)) = .bracket body :: pieces following := by
  have hkept : ∀ c ∈ body, (c != ']') = true := by
    intro c hc
    have hne : c ≠ ']' := by
      rintro rfl
      exact hbody hc
    simpa using hne
  rw [pieces.eq_6, if_pos (by simp), List.takeWhile_append_of_pos hkept,
    List.dropWhile_append_of_pos hkept]
  simp

theorem not_mem_of_isPlain {body : List Char} (h : ∀ c ∈ body, isPlain c = true) : ']' ∉ body :=
  fun hmem => absurd (h _ hmem) (by decide)

/-- **The text of a leaf is cut out as one piece.** -/
theorem Leaf.pieces_text {l : Leaf} {inside : Bool} {following : List Char}
    (h : l.StandsBefore inside following) :
    pieces (l.text ++ following) = l.piece :: pieces following := by
  cases l with
  | char c =>
    obtain ⟨hstar, hquestion, hopen, hbracket, -⟩ := h
    rw [Leaf.text, List.singleton_append, pieces.eq_def]
    split <;> simp_all [Leaf.piece]
  | question => simp [Leaf.text, Leaf.piece, pieces]
  | star =>
    refine pieces.eq_4 following ?_ ?_
    · rintro cs rfl
      exact h rfl
    · rintro cs rfl
      exact h rfl
  | directories => simp [Leaf.text, Leaf.piece, pieces]
  | doubleStar =>
    refine pieces.eq_3 following ?_
    rintro cs rfl
    exact h rfl
  | oneOf cs =>
    obtain ⟨-, -, hplain⟩ := h
    have hcut := pieces_bracket (not_mem_of_isPlain hplain) following
    rwa [Leaf.text, List.cons_append, List.append_assoc]
  | noneOf cs =>
    -- For the cutting the bang is a character like any other.
    have hplain : ∀ c ∈ '!' :: cs, isPlain c = true := List.forall_mem_cons.mpr ⟨by decide, h.2⟩
    have hcut := pieces_bracket (not_mem_of_isPlain hplain) following
    rwa [Leaf.text, List.cons_append, List.cons_append, List.append_assoc]

mutual

/-- **The pieces of a glob's text** are those of its parts, whatever follows. -/
theorem Glob.pieces_text {inside : Bool} {following : List Char} :
    ∀ {g : Glob}, g.StandsBefore inside following →
      Pattern.pieces (g.text ++ following) = g.pieces ++ Pattern.pieces following
  | .nothing, _ => rfl
  | .leaf l rest, h => by
    rw [Glob.text, List.append_assoc, l.pieces_text h.1, rest.pieces_text h.2]
    rfl
  | .braces alternatives rest, h => by
    have hinner := alternatives.pieces_text h.1
    have hrest := rest.pieces_text h.2
    simp only [Glob.text, Glob.pieces, List.cons_append, List.append_assoc, pieces.eq_7, hinner,
      pieces.eq_9, hrest]

/-- The pieces of the text of alternatives, whatever follows. -/
theorem Branches.pieces_text {following : List Char} :
    ∀ {bs : Branches}, bs.StandsBefore following →
      Pattern.pieces (bs.text ++ following) = bs.pieces ++ Pattern.pieces following
  | .last g, h => g.pieces_text h
  | .more g others, h => by
    have hfirst := g.pieces_text h.1
    have hothers := others.pieces_text h.2
    simp only [Branches.text, Branches.pieces, List.cons_append, List.append_assoc, hfirst,
      pieces.eq_8, hothers]

end

/-! ### Tokens of pieces -/

/-- The set of a bracket of plain characters. -/
def setOf : List Char → CharSet
  | '!' :: cs => ⟨true, .single '/'.toNat :: cs.map (.single ·.toNat)⟩
  | cs => ⟨false, cs.map (.single ·.toNat)⟩

/-- The tokens of a piece, inside `depth` open braces. -/
def Piece.tokens (depth : Nat) : Piece → List Token
  | .char c => [.one (.only c)]
  | .question => [.one (.allBut '/')]
  | .star => [.one (.allBut '/'), .star]
  | .directories =>
    [.openGroup, .one (.allBut '\n'), .star, .one (.only '/'), .closeGroup, .question]
  | .doubleStar => [.one (.allBut '\n'), .star]
  | .bracket body => [.one (setOf body)]
  | .openBrace => [.openGroup]
  | .comma => if depth = 0 then [.one (.only ',')] else [.bar]
  | .closeBrace => if depth = 0 then [.one (.only '\x7d')] else [.closeGroup]

/-- The tokens of pieces, inside `depth` open braces. -/
def tokensAll (depth : Nat) : List Piece → List Token
  | [] => []
  | p :: ps => p.tokens depth ++ tokensAll (depthAfter depth p) ps

/-- Is a bracket one that is read as it stands? -/
def Piece.IsPlain : Piece → Prop
  | .bracket body => body ≠ [] ∧ ∀ c ∈ body, isPlain c = true
  | _ => True

/-! ### Reading the text of a piece -/

theorem tokens_of_nextToken {cs rest : List Char} {t : Token}
    (h : nextToken cs = some (t, rest)) (hshorter : rest.length < cs.length) :
    tokens cs = t :: tokens rest := by
  rw [tokens, h]
  exact if_pos hshorter

/-- A character that stands for itself is read as this character. -/
theorem tokens_escape (c : Char) (tail : List Char) :
    tokens (escape c ++ tail) = .one (.only c) :: tokens tail := by
  by_cases hspecial : isSpecial c = true
  · have hne : c ≠ 'Z' := by
      rintro rfl
      exact absurd hspecial (by decide)
    have hnext : nextToken ('\\' :: c :: tail) = some (.one (.only c), tail) := by
      rw [nextToken.eq_3]
      rintro rfl
      exact hne rfl
    rw [escape, if_pos hspecial]
    exact tokens_of_nextToken hnext (by simp only [List.length_cons, List.length_append]; omega)
  · have hnext : nextToken (c :: tail) = some (.one (.only c), tail) := by
      unfold nextToken
      split <;> simp_all [isSpecial]
    rw [escape, if_neg hspecial]
    exact tokens_of_nextToken hnext (by simp)

/-- One plain character in a bracket. -/
theorem readMembers_plain {c : Char} {rest : List Char} (hc : isPlain c = true)
    (hrest : rest.head? ≠ some '-') (acc : List Member) :
    readMembers acc (c :: rest) = readMembers (.single c.toNat :: acc) rest := by
  -- No dash follows, so the character begins no range.
  have hread : readMember (c :: rest) = .ok ⟨.single c.toNat, [c], rest⟩ := by
    unfold readMember
    split <;> simp_all [isPlain]
  have hne : c ≠ ']' := by
    rintro rfl
    exact absurd hc (by decide)
  rw [readMembers.eq_def]
  split
  · simp_all
  · simp only [hread, bind, Except.bind]
    split <;> simp_all

/-- **Plain characters up to the end of a bracket** are its members. -/
theorem readMembers_body (acc : List Member) {body : List Char}
    (hplain : ∀ c ∈ body, isPlain c = true) (tail : List Char) (hsome : acc ≠ [] ∨ body ≠ []) :
    readMembers acc (body ++ ']' :: tail) =
      .ok (acc.reverse ++ body.map (.single ·.toNat), tail) := by
  induction body generalizing acc with
  | nil =>
    cases acc with
    | nil => simp at hsome
    | cons a as => rw [List.nil_append, readMembers.eq_1, List.map_nil, List.append_nil]
  | cons c body ih =>
    have hbody : ∀ d ∈ body, isPlain d = true := fun d hd => hplain d (List.mem_cons_of_mem _ hd)
    have hhead : (body ++ ']' :: tail).head? ≠ some '-' := by
      cases body with
      | nil => simp
      | cons d body =>
        intro hd
        obtain rfl : d = '-' := by simpa using hd
        exact absurd (hbody _ List.mem_cons_self) (by decide)
    rw [List.cons_append, readMembers_plain (hplain c List.mem_cons_self) hhead,
      ih _ hbody (.inl (List.cons_ne_nil _ _))]
    simp

/-- **A bracket of plain characters** is read as its set. -/
theorem readSet_body {body : List Char} (hbody : body ≠ [])
    (hplain : ∀ c ∈ body, isPlain c = true) (tail : List Char) :
    readSet (bracketBody body ++ ']' :: tail) = .ok (setOf body, tail) := by
  by_cases hbang : body.head? = some '!'
  · obtain ⟨cs, rfl⟩ := List.head?_eq_some_iff.mp hbang
    -- The slash is left out with the rest, as if it were listed.
    have hmembers : ∀ c ∈ '/' :: cs, isPlain c = true :=
      List.forall_mem_cons.mpr ⟨by decide, (List.forall_mem_cons.mp hplain).2⟩
    have hread := readMembers_body [] hmembers tail (.inr (List.cons_ne_nil _ _))
    rw [bracketBody, List.cons_append, readSet.eq_1, hread]
    rfl
  · obtain ⟨c, cs, rfl⟩ : ∃ c cs, body = c :: cs := by
      cases body with
      | nil => exact absurd rfl hbody
      | cons c cs => exact ⟨c, cs, rfl⟩
    have hc := hplain c List.mem_cons_self
    have hcaret : c ≠ '^' := by
      rintro rfl
      exact absurd hc (by decide)
    have hne : c ≠ '!' := by simpa using hbang
    have hread := readMembers_body [] hplain tail (.inr (List.cons_ne_nil _ _))
    have htext : bracketBody (c :: cs) = c :: cs := by
      unfold bracketBody
      split <;> simp_all
    have hset : setOf (c :: cs) = ⟨false, (c :: cs).map (.single ·.toNat)⟩ := by
      unfold setOf
      split <;> simp_all
    rw [htext, hset, readSet.eq_2 _ (by simp_all), hread]
    rfl

theorem tokens_bracket {body : List Char} (hbody : body ≠ [])
    (hplain : ∀ c ∈ body, isPlain c = true) (tail : List Char) :
    tokens ('[' :: (bracketBody body ++ ']' :: tail)) = .one (setOf body) :: tokens tail := by
  have hnext : nextToken ('[' :: (bracketBody body ++ ']' :: tail)) =
      some (.one (setOf body), tail) := by
    rw [nextToken.eq_10, readSet_body hbody hplain]
  refine tokens_of_nextToken hnext ?_
  simp only [List.length_cons, List.length_append]
  omega

/-- A bracket with a `!` alone leaves out the slash. -/
theorem tokens_allBut_slash (tail : List Char) :
    tokens ('[' :: '^' :: '/' :: ']' :: tail) = .one (.allBut '/') :: tokens tail :=
  tokens_bracket (List.cons_ne_nil '!' []) (List.all_eq_true.mp (by decide)) tail

theorem tokens_openGroup (tail : List Char) :
    tokens ('(' :: '?' :: ':' :: tail) = .openGroup :: tokens tail :=
  tokens_of_nextToken rfl (by simp only [List.length_cons]; omega)

theorem tokens_closeGroup (tail : List Char) :
    tokens (')' :: tail) = .closeGroup :: tokens tail :=
  tokens_of_nextToken rfl (Nat.lt_succ_self _)

theorem tokens_bar (tail : List Char) : tokens ('|' :: tail) = .bar :: tokens tail :=
  tokens_of_nextToken rfl (Nat.lt_succ_self _)

theorem tokens_star (tail : List Char) : tokens ('*' :: tail) = .star :: tokens tail :=
  tokens_of_nextToken rfl (Nat.lt_succ_self _)

theorem tokens_question (tail : List Char) : tokens ('?' :: tail) = .question :: tokens tail :=
  tokens_of_nextToken rfl (Nat.lt_succ_self _)

theorem tokens_dot (tail : List Char) :
    tokens ('.' :: tail) = .one (.allBut '\n') :: tokens tail :=
  tokens_of_nextToken rfl (Nat.lt_succ_self _)

theorem tokens_slash (tail : List Char) :
    tokens ('/' :: tail) = .one (.only '/') :: tokens tail :=
  tokens_escape '/' tail

/-- **The pattern text of a piece is read as the tokens of the piece**, whatever
    follows. -/
theorem Piece.tokens_spell {p : Piece} (hp : p.IsPlain) (depth : Nat) (tail : List Char) :
    Pattern.tokens (spell depth p ++ tail) = p.tokens depth ++ Pattern.tokens tail := by
  cases p with
  | char c => exact tokens_escape c tail
  | question => exact tokens_allBut_slash tail
  | star => simp [spell, Piece.tokens, tokens_allBut_slash, tokens_star]
  | directories =>
    simp [spell, Piece.tokens, tokens_openGroup, tokens_dot, tokens_star, tokens_slash,
      tokens_closeGroup, tokens_question]
  | doubleStar => simp [spell, Piece.tokens, tokens_dot, tokens_star]
  | bracket body =>
    obtain ⟨hbody, hplain⟩ := hp
    simp [spell, Piece.tokens, tokens_bracket hbody hplain]
  | openBrace => exact tokens_openGroup tail
  | comma =>
    by_cases hdepth : depth = 0
    · simp only [spell, Piece.tokens, if_pos hdepth]
      exact tokens_escape ',' tail
    · simp only [spell, Piece.tokens, if_neg hdepth]
      exact tokens_bar tail
  | closeBrace =>
    by_cases hdepth : depth = 0
    · simp only [spell, Piece.tokens, if_pos hdepth]
      exact tokens_escape '\x7d' tail
    · simp only [spell, Piece.tokens, if_neg hdepth]
      exact tokens_closeGroup tail

/-- **The pattern text of pieces** is read piece by piece. -/
theorem tokens_spellAll {ps : List Piece} (hps : ∀ p ∈ ps, p.IsPlain) (depth : Nat)
    (tail : List Char) :
    tokens (spellAll depth ps ++ tail) = tokensAll depth ps ++ tokens tail := by
  induction ps generalizing depth with
  | nil => rfl
  | cons p ps ih =>
    have hrest := ih (fun q hq => hps q (List.mem_cons_of_mem _ hq)) (depthAfter depth p)
    rw [spellAll, tokensAll, List.append_assoc, List.append_assoc,
      Piece.tokens_spell (hps p List.mem_cons_self), hrest]

/-- A text that stands for itself is read character by character. -/
theorem tokens_flatMap_escape (stem tail : List Char) :
    tokens (stem.flatMap escape ++ tail) = stem.map (fun c => .one (.only c)) ++ tokens tail := by
  induction stem with
  | nil => rfl
  | cons c stem ih =>
    rw [List.flatMap_cons, List.append_assoc, tokens_escape, ih, List.map_cons, List.cons_append]

/-! ### The brackets of a glob -/

theorem Leaf.isPlain_piece {l : Leaf} {inside : Bool} {following : List Char}
    (h : l.StandsBefore inside following) : l.piece.IsPlain := by
  cases l with
  | char c =>
    unfold Leaf.piece
    split <;> trivial
  | oneOf cs => exact ⟨h.1, h.2.2⟩
  | noneOf cs => exact ⟨List.cons_ne_nil _ _, List.forall_mem_cons.mpr ⟨by decide, h.2⟩⟩
  | _ => trivial

mutual

theorem Glob.isPlain_of_mem_pieces {inside : Bool} {following : List Char} {p : Piece} :
    ∀ {g : Glob}, g.StandsBefore inside following → p ∈ g.pieces → p.IsPlain
  | .nothing, _, hp => absurd hp List.not_mem_nil
  | .leaf l rest, h, hp => by
    rcases List.mem_cons.mp hp with rfl | hrest
    · exact l.isPlain_piece h.1
    · exact rest.isPlain_of_mem_pieces h.2 hrest
  | .braces alternatives rest, h, hp => by
    rcases List.mem_cons.mp hp with rfl | hp
    · trivial
    rcases List.mem_append.mp hp with hinner | hp
    · exact alternatives.isPlain_of_mem_pieces h.1 hinner
    rcases List.mem_cons.mp hp with rfl | hrest
    · trivial
    · exact rest.isPlain_of_mem_pieces h.2 hrest

theorem Branches.isPlain_of_mem_pieces {following : List Char} {p : Piece} :
    ∀ {bs : Branches}, bs.StandsBefore following → p ∈ bs.pieces → p.IsPlain
  | .last g, h, hp => g.isPlain_of_mem_pieces h hp
  | .more g others, h, hp => by
    rcases List.mem_append.mp hp with hfirst | hp
    · exact g.isPlain_of_mem_pieces h.1 hfirst
    rcases List.mem_cons.mp hp with rfl | hothers
    · trivial
    · exact others.isPlain_of_mem_pieces h.2 hothers

end

/-- The tokens of pieces with nothing behind them but the end mark. -/
theorem tokens_spelled {ps : List Piece} (hps : ∀ p ∈ ps, p.IsPlain) :
    tokens (spellAll 0 ps ++ ['\\', 'Z']) = tokensAll 0 ps ++ [.endMark] := by
  have hend : tokens ['\\', 'Z'] = [.endMark] := by
    have hnext : nextToken ['\\', 'Z'] = some (.endMark, []) := rfl
    rw [tokens_of_nextToken hnext (by decide), tokens]
    rfl
  rw [tokens_spellAll hps, hend]

/-- **The tokens of a glob's pattern text**: those of the prefix, those of its
    pieces, and the end mark. -/
theorem tokens_globText {g : Glob} {glob : List Char} (h : g.Spells glob) (stem : List Char) :
    tokens (globText stem glob) =
      stem.map (fun c => .one (.only c)) ++ (tokensAll 0 g.pieces ++ [.endMark]) := by
  obtain ⟨rfl, hstands⟩ := h
  have hpieces := g.pieces_text hstands
  rw [List.append_nil] at hpieces
  have hnil : pieces [] = [] := by rw [pieces]
  rw [globText, List.append_assoc, tokens_flatMap_escape, hpieces, hnil, List.append_nil,
    tokens_spelled fun p hp => g.isPlain_of_mem_pieces hstands hp]

end SinkPipeline.Pattern
