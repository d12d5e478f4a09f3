import SinkPipeline.DirectoryWalk
import SinkPipeline.Proofs.Path
import SinkPipeline.Proofs.Pattern.Derivation
import SinkPipeline.Proofs.Pattern.Spelling

/-! # The meaning of globs

  What the pattern of a glob matches is what the glob stands for: after the
  prefix, exactly the texts of its language.

  - **Putting together**: the tokens of a part, read inside any groups that are
    open, add the expressions of the part to the innermost group and leave the
    groups around it alone.
  - **Matching**: what the expressions of a part match, one after the other, is
    the part's language.
-/

namespace SinkPipeline.Pattern

/-! ### The expressions of parts -/

/-- The expression of a leaf. -/
def Leaf.expr : Leaf → Expr
  | .char c => .one (.only c)
  | .question => .one (.allBut '/')
  | .star => .many (.one (.allBut '/'))
  | .directories =>
    .optional (.seq (.many (.one (.allBut '\n'))) (.seq (.one (.only '/')) .empty))
  | .doubleStar => .many (.one (.allBut '\n'))
  | .oneOf cs => .one (setOf cs)
  | .noneOf cs => .one (setOf ('!' :: cs))

mutual

/-- The expressions of a glob's parts, in order. -/
def Glob.exprs : Glob → List Expr
  | .nothing => []
  | .leaf l rest => l.expr :: rest.exprs
  | .braces alternatives rest => alternatives.expr .never :: rest.exprs

/-- The expression of a group that ends with these alternatives, `before` being
    those it had already. -/
def Branches.expr (before : Expr) : Branches → Expr
  | .last g => (Group.mk before g.exprs.reverse).close
  | .more g others => others.expr (Group.mk before g.exprs.reverse).close

end

/-- One expression after the other. -/
def sequenceOf (es : List Expr) : Expr := es.foldr .seq .empty

/-! ### Putting together -/

/-- More expressions at the end of the innermost group. -/
def Assembly.extend (a : Assembly) (es : List Expr) : Assembly :=
  a.modify fun g _ => { g with current := es.reverse ++ g.current }

/-- One more group is open. -/
def Assembly.opened (a : Assembly) (g : Group) : Assembly := { a with inner := g :: a.inner }

namespace Assembly

variable {a : Assembly} {g : Group}

@[simp] theorem extend_nil (a : Assembly) : a.extend [] = a := by
  obtain ⟨outer, inner⟩ := a
  cases inner <;> rfl

@[simp] theorem extend_extend (a : Assembly) (es fs : List Expr) :
    (a.extend es).extend fs = a.extend (es ++ fs) := by
  obtain ⟨outer, inner⟩ := a
  cases inner <;> simp [extend, modify]

@[simp] theorem extend_opened (a : Assembly) (g : Group) (es : List Expr) :
    (a.opened g).extend es = a.opened { g with current := es.reverse ++ g.current } := rfl

/-- Read tokens in order. -/
def read (a : Assembly) (ts : List Token) : Except Fault Assembly := ts.foldlM assemble a

theorem read_one (a : Assembly) (s : CharSet) (ts : List Token) :
    a.read (.one s :: ts) = (a.extend [.one s]).read ts := rfl

theorem read_openGroup (a : Assembly) (ts : List Token) :
    a.read (.openGroup :: ts) = (a.opened {}).read ts := rfl

theorem read_bar (a : Assembly) (g : Group) (ts : List Token) :
    (a.opened g).read (.bar :: ts) = (a.opened ⟨g.close, []⟩).read ts := rfl

theorem read_closeGroup (a : Assembly) (g : Group) (ts : List Token) :
    (a.opened g).read (.closeGroup :: ts) = (a.extend [g.close]).read ts := rfl

/-- A repetition changes the last expression. -/
theorem repeat_extend (a : Assembly) (e : Expr) (f : Expr → Expr) :
    (a.extend [e]).repeat f = .ok (a.extend [f e]) := by
  obtain ⟨outer, inner⟩ := a
  cases inner <;> rfl

theorem read_star (a : Assembly) (e : Expr) (ts : List Token) :
    (a.extend [e]).read (.star :: ts) = (a.extend [.many e]).read ts := by
  rw [read, List.foldlM_cons, assemble, repeat_extend]
  rfl

theorem read_question (a : Assembly) (e : Expr) (ts : List Token) :
    (a.extend [e]).read (.question :: ts) = (a.extend [.optional e]).read ts := by
  rw [read, List.foldlM_cons, assemble, repeat_extend]
  rfl

/-- The tokens of a text that stands for itself. -/
theorem read_map_one (a : Assembly) (cs : List Char) (ts : List Token) :
    a.read (cs.map (fun c => .one (.only c)) ++ ts) =
      (a.extend (cs.map fun c => .one (.only c))).read ts := by
  induction cs generalizing a with
  | nil => rw [List.map_nil, List.nil_append, List.map_nil, extend_nil]
  | cons c cs ih =>
    rw [List.map_cons, List.cons_append, read_one, ih, extend_extend]
    rfl

/-- **The tokens of a leaf add its expression.** -/
theorem read_leaf {l : Leaf} {depth : Nat} {following : List Char}
    (h : l.StandsBefore (depth != 0) following) (a : Assembly) (ts : List Token) :
    a.read (l.piece.tokens depth ++ ts) = (a.extend [l.expr]).read ts := by
  cases l with
  | char c =>
    -- A comma or a closing brace is a leaf only outside braces.
    have houter : c = ',' ∨ c = '\x7d' → depth = 0 := by
      intro hc
      by_contra hdepth
      obtain ⟨hcomma, hclose⟩ := h.2.2.2.2 (by simpa using hdepth)
      exact hc.elim hcomma hclose
    by_cases hcomma : c = ','
    · subst hcomma
      rw [houter (.inl rfl)]
      rfl
    by_cases hclose : c = '\x7d'
    · subst hclose
      rw [houter (.inr rfl)]
      rfl
    have hpiece : (Leaf.char c).piece = .char c := by
      unfold Leaf.piece
      split <;> simp_all
    rw [hpiece]
    rfl
  | question => rfl
  | star =>
    simp only [Leaf.piece, Piece.tokens, List.cons_append, List.nil_append]
    rw [read_one, read_star]
    rfl
  | directories =>
    -- The group holds a repetition and a slash, and is optional as a whole.
    simp only [Leaf.piece, Piece.tokens, List.cons_append, List.nil_append]
    rw [read_openGroup, read_one, read_star, read_one, extend_extend, extend_opened,
      read_closeGroup, read_question]
    rfl
  | doubleStar =>
    simp only [Leaf.piece, Piece.tokens, List.cons_append, List.nil_append]
    rw [read_one, read_star]
    rfl
  | oneOf cs => rfl
  | noneOf cs => rfl

theorem depthAfter_leaf {l : Leaf} {depth : Nat} {following : List Char}
    (h : l.StandsBefore (depth != 0) following) : depthAfter depth l.piece = depth := by
  cases l with
  | char c =>
    by_cases hclose : c = '\x7d'
    · subst hclose
      have hdepth : depth = 0 := by
        by_contra hdepth
        exact (h.2.2.2.2 (by simpa using hdepth)).2 rfl
      rw [hdepth]
      rfl
    · unfold Leaf.piece
      split <;> simp_all [depthAfter]
  | _ => rfl

end Assembly

mutual

/-- **The tokens of a glob add its expressions** to the innermost group. -/
theorem Glob.read_pieces (depth : Nat) {following : List Char} :
    ∀ {g : Glob}, g.StandsBefore (depth != 0) following → ∀ (ps : List Piece) (a : Assembly)
      (ts : List Token),
      a.read (tokensAll depth (g.pieces ++ ps) ++ ts) =
        (a.extend g.exprs).read (tokensAll depth ps ++ ts)
  | .nothing, _, ps, a, ts => by
    rw [Glob.exprs, a.extend_nil]
    rfl
  | .leaf l rest, h, ps, a, ts => by
    have hrest := rest.read_pieces depth h.2 ps (a.extend [l.expr]) ts
    rw [Glob.pieces, List.cons_append, tokensAll, Assembly.depthAfter_leaf h.1, List.append_assoc,
      Assembly.read_leaf h.1, hrest, Assembly.extend_extend]
    rfl
  | .braces alternatives rest, h, ps, a, ts => by
    -- The new group ends with the closing brace, before the rest is read.
    have hinner := alternatives.read_pieces depth h.1 (rest.pieces ++ ps) a .never ts
    have hrest := rest.read_pieces depth h.2 ps (a.extend [alternatives.expr .never]) ts
    rw [Glob.pieces, List.cons_append, tokensAll, List.append_assoc, List.append_assoc,
      List.cons_append, Piece.tokens, List.singleton_append, Assembly.read_openGroup]
    rw [depthAfter, hinner, hrest, Assembly.extend_extend]
    rfl

/-- The tokens of alternatives, up to their closing brace, add one expression to
    the group outside. -/
theorem Branches.read_pieces (depth : Nat) {following : List Char} :
    ∀ {bs : Branches}, bs.StandsBefore following → ∀ (ps : List Piece) (a : Assembly)
      (before : Expr) (ts : List Token),
      (a.opened ⟨before, []⟩).read (tokensAll (depth + 1) (bs.pieces ++ .closeBrace :: ps) ++ ts) =
        (a.extend [bs.expr before]).read (tokensAll depth ps ++ ts)
  | .last g, h, ps, a, before, ts => by
    have hg := g.read_pieces (depth + 1) h (.closeBrace :: ps) (a.opened ⟨before, []⟩) ts
    rw [Branches.pieces, hg, Assembly.extend_opened, List.append_nil, tokensAll, Piece.tokens,
      if_neg (Nat.succ_ne_zero depth), List.append_assoc, List.singleton_append,
      Assembly.read_closeGroup]
    rfl
  | .more g others, h, ps, a, before, ts => by
    have hg := g.read_pieces (depth + 1) h.1 (.comma :: (others.pieces ++ .closeBrace :: ps))
      (a.opened ⟨before, []⟩) ts
    have hothers := others.read_pieces depth h.2 ps a
      (Group.mk before g.exprs.reverse).close ts
    rw [Branches.pieces, List.append_assoc, List.cons_append, hg, Assembly.extend_opened,
      List.append_nil, tokensAll, Piece.tokens, if_neg (Nat.succ_ne_zero depth), List.append_assoc,
      List.singleton_append, Assembly.read_bar]
    exact hothers

end

theorem sequence_reverse (before : Expr) (es : List Expr) :
    (Group.mk before es.reverse).sequence = sequenceOf es :=
  List.foldl_reverse

/-- **The pattern of a glob** is the prefix and then the glob's expressions. -/
theorem ofChars_globText {g : Glob} {glob : List Char} (h : g.Spells glob) (stem : List Char) :
    ofChars (globText stem glob) =
      .ok (sequenceOf (stem.map (fun c => .one (.only c)) ++ g.exprs)) := by
  have hread := g.read_pieces 0 h.2 []
    (Assembly.extend {} (stem.map fun c => .one (.only c))) [.endMark]
  rw [List.append_nil, Assembly.extend_extend] at hread
  have hall : Assembly.read {} (tokens (globText stem glob)) =
      .ok (Assembly.extend {} (stem.map (fun c => .one (.only c)) ++ g.exprs)) := by
    rw [tokens_globText h, Assembly.read_map_one, hread]
    rfl
  have hsequence : ∀ es : List Expr, (Group.mk .never (es.reverse ++ [])).close = sequenceOf es := by
    intro es
    rw [List.append_nil]
    exact sequence_reverse .never es
  rw [ofChars, ofTokens, ← hsequence]
  show (Assembly.read {} (tokens (globText stem glob))).bind _ = _
  rw [hall]
  rfl

/-! ### Matching -/

/-- **A repetition of one character** matches the texts of such characters. -/
theorem matches_many_one_iff {s : CharSet} {cs : List Char} :
    Expr.Matches (.many (.one s)) cs ↔ ∀ c ∈ cs, s.contains c = true := by
  induction cs with
  | nil => exact iff_of_true .done (by simp)
  | cons c cs ih =>
    rw [Expr.matches_many_cons_iff, List.forall_mem_cons, ← ih]
    constructor
    · rintro ⟨u, v, rfl, hone, hmany⟩
      obtain ⟨d, hd, hcontains⟩ := Expr.matches_one_iff.mp hone
      obtain ⟨rfl, rfl⟩ := List.cons.inj hd
      exact ⟨hcontains, hmany⟩
    · rintro ⟨hcontains, hmany⟩
      exact ⟨[], cs, rfl, .one hcontains, hmany⟩

/-- A repetition of any character but one matches the texts without it. -/
theorem matches_many_allBut_iff {c : Char} {cs : List Char} :
    Expr.Matches (.many (.one (.allBut c))) cs ↔ c ∉ cs := by
  rw [matches_many_one_iff]
  constructor
  · intro h hmem
    simpa using h c hmem
  · intro h d hd
    have hne : d ≠ c := by
      rintro rfl
      exact h hd
    simpa using hne

/-- The set of a list of characters. -/
theorem contains_singles {cs : List Char} {negated : Bool} {d : Char} :
    (CharSet.mk negated (cs.map (.single ·.toNat))).contains d = (decide (d ∈ cs) != negated) := by
  have hany : ((cs.map fun c => Member.single c.toNat).any (·.contains d.toNat)) = decide (d ∈ cs) := by
    rw [List.any_map]
    simp only [Function.comp_def, Member.contains, CharSet.toNat_beq]
    rw [List.any_beq, List.contains_eq_mem]
  rw [CharSet.contains, hany]

/-- A single character with a property. -/
theorem matches_one_iff_of {s : CharSet} {cs : List Char} {p : Char → Prop}
    (h : ∀ c, s.contains c = true ↔ p c) : Expr.Matches (.one s) cs ↔ ∃ c, cs = [c] ∧ p c := by
  simp only [Expr.matches_one_iff, h]

/-- Directories end in a slash. -/
theorem matches_directories_iff {cs : List Char} :
    Expr.Matches Leaf.directories.expr cs ↔ cs ∈ Leaf.directories.language := by
  have hslash : ∀ v : List Char,
      Expr.Matches (.seq (.one (.only '/')) .empty) v ↔ v = ['/'] := by
    intro v
    simp [Expr.matches_seq_iff, Expr.matches_one_iff]
  show Expr.Matches (.either (.seq _ _) .empty) cs ↔
    (cs = [] ∨ '\n' ∉ cs ∧ cs.getLast? = some '/')
  rw [Expr.matches_either_iff, Expr.matches_empty_iff, Expr.matches_seq_iff, or_comm]
  refine or_congr_right ?_
  simp only [matches_many_allBut_iff, hslash]
  constructor
  · rintro ⟨u, v, rfl, hu, rfl⟩
    simpa using hu
  · rintro ⟨hcs, hlast⟩
    obtain ⟨u, rfl⟩ := List.getLast?_eq_some_iff.mp hlast
    exact ⟨u, ['/'], rfl, fun h => hcs (List.mem_append_left _ h), rfl⟩

/-- **What the expression of a leaf matches** is what the leaf stands for. -/
theorem Leaf.matches_expr_iff {l : Leaf} {inside : Bool} {following : List Char}
    (h : l.StandsBefore inside following) {cs : List Char} :
    Expr.Matches l.expr cs ↔ cs ∈ l.language := by
  cases l with
  | char c =>
    rw [Leaf.expr, Expr.matches_one_iff]
    constructor
    · rintro ⟨d, rfl, hd⟩
      obtain rfl : d = c := by simpa using hd
      rfl
    · rintro rfl
      exact ⟨c, rfl, by simp⟩
  | question => exact matches_one_iff_of (by simp)
  | star => exact matches_many_allBut_iff
  | directories => exact matches_directories_iff
  | doubleStar => exact matches_many_allBut_iff
  | oneOf listed =>
    obtain ⟨-, hbang, -⟩ := h
    -- A listing that does not begin with a bang is taken as it stands.
    have hset : setOf listed = ⟨false, listed.map (.single ·.toNat)⟩ := by
      unfold setOf
      split
      · exact absurd rfl hbang
      · rfl
    rw [Leaf.expr, hset]
    refine matches_one_iff_of ?_
    intro c
    rw [contains_singles]
    simp
  | noneOf listed =>
    have hset : setOf ('!' :: listed) = ⟨true, ('/' :: listed).map (.single ·.toNat)⟩ := rfl
    rw [Leaf.expr, hset]
    refine matches_one_iff_of ?_
    intro c
    rw [contains_singles]
    simp [and_comm]

/-- A group that ends matches what its alternatives do. -/
theorem matches_close_iff {before : Expr} {es : List Expr} {cs : List Char} :
    Expr.Matches (Group.mk before es.reverse).close cs ↔
      Expr.Matches before cs ∨ Expr.Matches (sequenceOf es) cs := by
  unfold Group.close
  rw [sequence_reverse]
  by_cases hbefore : before = .never
  · rw [if_pos hbefore, hbefore]
    simp
  · rw [if_neg hbefore, Expr.matches_either_iff]

/-- One expression more in front. -/
theorem matches_sequenceOf_cons_iff {e : Expr} {es : List Expr} {l m : Language Char}
    (hl : ∀ u, Expr.Matches e u ↔ u ∈ l) (hm : ∀ v, Expr.Matches (sequenceOf es) v ↔ v ∈ m)
    {cs : List Char} : Expr.Matches (sequenceOf (e :: es)) cs ↔ cs ∈ l * m := by
  show Expr.Matches (.seq e (sequenceOf es)) cs ↔ _
  rw [Expr.matches_seq_iff, Language.mem_mul]
  simp only [hl, hm]
  constructor
  · rintro ⟨u, v, rfl, hu, hv⟩
    exact ⟨u, hu, v, hv, rfl⟩
  · rintro ⟨u, hu, v, hv, rfl⟩
    exact ⟨u, v, rfl, hu, hv⟩

mutual

/-- **What the expressions of a glob match** is what the glob stands for. -/
theorem Glob.matches_exprs_iff {inside : Bool} {following : List Char} :
    ∀ {g : Glob}, g.StandsBefore inside following → ∀ cs : List Char,
      Expr.Matches (sequenceOf g.exprs) cs ↔ cs ∈ g.language
  | .nothing, _, cs => Expr.matches_empty_iff
  | .leaf l rest, h, cs =>
    matches_sequenceOf_cons_iff (fun _ => l.matches_expr_iff h.1) (rest.matches_exprs_iff h.2)
  | .braces alternatives rest, h, cs =>
    matches_sequenceOf_cons_iff
      (fun u => (alternatives.matches_expr_iff h.1 .never u).trans (by simp))
      (rest.matches_exprs_iff h.2)

/-- What the expression of alternatives matches, after those there were already. -/
theorem Branches.matches_expr_iff {following : List Char} :
    ∀ {bs : Branches}, bs.StandsBefore following → ∀ (before : Expr) (cs : List Char),
      Expr.Matches (bs.expr before) cs ↔ Expr.Matches before cs ∨ cs ∈ bs.language
  | .last g, h, before, cs => by
    rw [Branches.expr, matches_close_iff, g.matches_exprs_iff h]
    rfl
  | .more g others, h, before, cs => by
    rw [Branches.expr, others.matches_expr_iff h.2, matches_close_iff, g.matches_exprs_iff h.1,
      or_assoc]
    rfl

end

/-- A text that stands for itself, in front. -/
theorem matches_sequenceOf_append_iff {stem : List Char} {es : List Expr} {cs : List Char} :
    Expr.Matches (sequenceOf (stem.map (fun c => .one (.only c)) ++ es)) cs ↔
      ∃ rest, cs = stem ++ rest ∧ Expr.Matches (sequenceOf es) rest := by
  induction stem generalizing cs with
  | nil => simp
  | cons c stem ih =>
    have hcons : sequenceOf ((c :: stem).map (fun c => .one (.only c)) ++ es) =
        .seq (.one (.only c)) (sequenceOf (stem.map (fun c => .one (.only c)) ++ es)) := rfl
    rw [hcons]
    simp only [Expr.matches_seq_iff, Expr.matches_one_iff, CharSet.contains_only, beq_iff_eq, ih]
    constructor
    · rintro ⟨u, v, rfl, ⟨d, rfl, rfl⟩, rest, rfl, hrest⟩
      exact ⟨rest, rfl, hrest⟩
    · rintro ⟨rest, rfl, hrest⟩
      exact ⟨[c], stem ++ rest, rfl, ⟨c, rfl, rfl⟩, rest, rfl, hrest⟩

/-! ### Globs below a root -/

/-- A path with a name at its end: the text in front of what is below it is its
    own text and a slash. -/
theorem stem_child (p : Path) {name : String} (hname : Path.IsPart name) :
    Root.stem (p.child name) = (p.child name).toString ++ "/" := by
  -- The text ends in the name, so there is no slash to take off.
  have hlast := Path.getLast?_toString_child p hname
  have hkept : (p.child name).toString.toList.reverse.dropWhile (· == '/') =
      (p.child name).toString.toList.reverse := by
    rw [← List.head?_reverse] at hlast
    generalize (p.child name).toString.toList.reverse = cs at hlast
    cases cs with
    | nil => rfl
    | cons c cs => exact List.dropWhile_cons_of_neg (by simpa using hlast)
  apply String.toList_inj.mp
  rw [Root.stem, hkept, List.reverse_reverse]
  simp

/-- The text of an absolute path is that of its anchor and its names. -/
theorem toString_of_isAbsolute {root : Path} (habsolute : root.isAbsolute = true)
    (parts : List String) :
    Path.toString ⟨root.anchor, parts⟩ =
      Path.anchorText root.anchor ++ "/".intercalate parts := by
  obtain ⟨anchor, own⟩ := root
  cases anchor with
  | here => cases habsolute
  | root => rfl
  | doubleRoot => rfl

/-- **The text of a path below a root** is the text in front and the names,
    unless the root is two slashes. -/
theorem toString_below {root : Path} (habsolute : root.isAbsolute = true)
    (hwell : root.WellFormed) (hroot : root ≠ ⟨.doubleRoot, []⟩) {names : List String}
    (hnames : names ≠ []) :
    Path.toString ⟨root.anchor, root.parts ++ names⟩ =
      Root.stem root ++ "/".intercalate names := by
  rw [toString_of_isAbsolute habsolute]
  -- The text of a top directory ends in a slash already.
  rcases root.parts_eq_nil_or_child with hnil | ⟨name, hchild⟩
  · obtain ⟨anchor, parts⟩ := root
    obtain rfl : parts = [] := hnil
    cases anchor with
    | here => exact absurd habsolute (by decide)
    | root => rfl
    | doubleRoot => exact absurd rfl hroot
  · have hparts : root.parts ≠ [] := by
      rw [hchild]
      simp [Path.child]
    have hname : Path.IsPart name := by
      rw [hchild] at hwell
      exact hwell.isPart
    have hstem : Root.stem root = root.toString ++ "/" := by
      rw [hchild]
      exact stem_child _ hname
    have hown : root.toString = Path.anchorText root.anchor ++ "/".intercalate root.parts :=
      toString_of_isAbsolute habsolute root.parts
    rw [hstem, hown, String.intercalate_append_of_ne_nil hparts hnames]
    simp only [String.append_assoc]

/-- What the pattern of a glob accepts. -/
theorem exists_ofGlob {g : Glob} {glob : String} (h : g.Spells glob.toList) (stem : String) :
    ∃ e, ofGlob stem glob = .ok e ∧ ∀ path : String, e.accepts path = true ↔
      ∃ rest : String, path = stem ++ rest ∧ rest.toList ∈ g.language := by
  refine ⟨_, ofChars_globText h stem.toList, ?_⟩
  intro path
  rw [Expr.accepts, Expr.isMatch_iff, matches_sequenceOf_append_iff]
  simp only [g.matches_exprs_iff h.2]
  constructor
  · rintro ⟨rest, hpath, hrest⟩
    refine ⟨String.ofList rest, String.toList_inj.mp ?_, by rwa [String.toList_ofList]⟩
    rw [hpath, String.toList_append, String.toList_ofList]
  · rintro ⟨rest, rfl, hrest⟩
    exact ⟨rest.toList, String.toList_append, hrest⟩

/-- A relative glob is read behind the text in front of what is below its root. -/
theorem readGlob_of_relative {glob : String} (hrelative : glob.toList.head? ≠ some '/') (root : Path)
    {e : Expr} (h : ofGlob (Root.stem root) glob = .ok e) : Root.readGlob root glob = .ok e := by
  unfold Root.readGlob
  split
  · next hslash => exact absurd (by rw [hslash]; rfl) hrelative
  · rw [h]
    rfl

end SinkPipeline.Pattern
