import SinkPipeline.Proofs.Pattern.Meaning

/-! # Braces that stay open

  A glob without brackets can be read just if each of its opening braces is
  closed.  Going through the text from left to right, a closing brace closes the
  innermost brace that is open; if none is open it is an ordinary character, and
  so is a comma outside braces.

  - The pieces of such a glob leave as many groups open as its text leaves braces.
  - Each piece can be read, whatever has been read before it.

  So the only thing that can be wrong is found at the end: a group that is still
  open.

  A glob of any kind that cannot be read below one root cannot be read below any
  other one, and for the same fault: of the root's text it matters only that there
  is some.
-/

namespace SinkPipeline

namespace Pattern

/-! ### Braces in a text -/

/-- **The opening braces that stay open**, innermost first, by their positions:
    those in `opened` are open before the text, which begins at `start`. -/
def stillOpen (opened : List Nat) (start : Nat) : List Char → List Nat
  | [] => opened
  | c :: cs =>
    if c = '\x7b' then stillOpen (start :: opened) (start + 1) cs
    else if c = '\x7d' then stillOpen opened.tail (start + 1) cs
    else stillOpen opened (start + 1) cs

/-- A character that is no brace opens and closes nothing. -/
theorem stillOpen_other {c : Char} (h : c ≠ '\x7b' ∧ c ≠ '\x7d') (opened : List Nat) (start : Nat)
    (cs : List Char) : stillOpen opened start (c :: cs) = stillOpen opened (start + 1) cs := by
  rw [stillOpen, if_neg h.1, if_neg h.2]

/-- How many braces are open after some pieces. -/
def depthAfterAll (depth : Nat) (ps : List Piece) : Nat := ps.foldl depthAfter depth

/-- **The pieces leave as many braces open as the text.** -/
theorem depthAfterAll_pieces {cs : List Char} (hbracket : '[' ∉ cs) (opened : List Nat)
    (start : Nat) :
    depthAfterAll opened.length (pieces cs) = (stillOpen opened start cs).length := by
  have hstar : '*' ≠ '\x7b' ∧ '*' ≠ '\x7d' := by decide
  -- One case for each kind of piece: all but the braces leave the depth as it is.
  fun_induction pieces cs generalizing opened start with
  | case1 => rfl
  | case2 cs ih =>
    rw [stillOpen_other hstar, stillOpen_other hstar, stillOpen_other (by decide)]
    exact ih (by simp_all) opened (start + 1 + 1 + 1)
  | case3 cs _ ih =>
    rw [stillOpen_other hstar, stillOpen_other hstar]
    exact ih (by simp_all) opened (start + 1 + 1)
  | case4 cs _ _ ih =>
    rw [stillOpen_other hstar]
    exact ih (by simp_all) opened (start + 1)
  | case5 cs ih =>
    rw [stillOpen_other (by decide)]
    exact ih (by simp_all) opened (start + 1)
  | case6 cs _ ih => exact absurd List.mem_cons_self hbracket
  | case7 cs _ ih => exact absurd List.mem_cons_self hbracket
  | case8 cs ih => exact ih (by simp_all) (start :: opened) (start + 1)
  | case9 cs ih =>
    rw [stillOpen_other (by decide)]
    exact ih (by simp_all) opened (start + 1)
  | case10 cs ih =>
    have hrest := ih (by simp_all) opened.tail (start + 1)
    rw [List.length_tail] at hrest
    exact hrest
  | case11 c cs _ _ _ _ _ hopen _ hclose ih =>
    rw [stillOpen_other ⟨hopen, hclose⟩]
    exact ih (by simp_all) opened (start + 1)

/-- Without brackets each piece is plain. -/
theorem isPlain_of_mem_pieces {cs : List Char} (hbracket : '[' ∉ cs) :
    ∀ p ∈ pieces cs, p.IsPlain := by
  fun_induction pieces cs with
  | case1 => simp
  | case6 cs _ ih => exact absurd List.mem_cons_self hbracket
  | case7 cs _ ih => exact absurd List.mem_cons_self hbracket
  | _ => simp_all [Piece.IsPlain]

/-! ### Reading the pieces -/

namespace Assembly

@[simp] theorem length_inner_extend (a : Assembly) (es : List Expr) :
    (a.extend es).inner.length = a.inner.length := by
  obtain ⟨outer, inner⟩ := a
  cases inner <;> rfl

/-- Inside some group, that group is the innermost one. -/
theorem exists_opened {a : Assembly} (h : a.inner.length ≠ 0) :
    ∃ (b : Assembly) (g : Group), a = b.opened g := by
  obtain ⟨outer, inner⟩ := a
  cases inner with
  | nil => exact absurd rfl h
  | cons g gs => exact ⟨⟨outer, gs⟩, g, rfl⟩

/-- **A piece can be read**, whatever has been read before, and leaves as many
    groups open as it leaves braces. -/
theorem exists_read_piece {p : Piece} (hp : p.IsPlain) (a : Assembly) (ts : List Token) :
    ∃ b : Assembly, b.inner.length = depthAfter a.inner.length p ∧
      a.read (p.tokens a.inner.length ++ ts) = b.read ts := by
  cases p with
  | char c => exact ⟨a.extend [.one (.only c)], length_inner_extend .., rfl⟩
  | question => exact ⟨a.extend [.one (.allBut '/')], length_inner_extend .., rfl⟩
  | bracket body => exact ⟨a.extend [.one (setOf body)], length_inner_extend .., rfl⟩
  | openBrace => exact ⟨a.opened {}, rfl, rfl⟩
  | star =>
    refine ⟨a.extend [.many (.one (.allBut '/'))], length_inner_extend .., ?_⟩
    simp only [Piece.tokens, List.cons_append, List.nil_append]
    rw [read_one, read_star]
  | doubleStar =>
    refine ⟨a.extend [.many (.one (.allBut '\n'))], length_inner_extend .., ?_⟩
    simp only [Piece.tokens, List.cons_append, List.nil_append]
    rw [read_one, read_star]
  | directories =>
    refine ⟨_, ?_, by
      simp only [Piece.tokens, List.cons_append, List.nil_append]
      rw [read_openGroup, read_one, read_star, read_one, extend_extend, extend_opened,
        read_closeGroup, read_question]⟩
    exact length_inner_extend ..
  | comma =>
    by_cases hdepth : a.inner.length = 0
    · refine ⟨a.extend [.one (.only ',')], length_inner_extend .., ?_⟩
      rw [Piece.tokens, if_pos hdepth]
      rfl
    · -- Between braces a comma ends the alternative, and the group stays open.
      obtain ⟨b, g, rfl⟩ := exists_opened hdepth
      refine ⟨b.opened ⟨g.close, []⟩, rfl, ?_⟩
      rw [Piece.tokens, if_neg hdepth]
      exact read_bar b g ts
  | closeBrace =>
    by_cases hdepth : a.inner.length = 0
    · refine ⟨a.extend [.one (.only '\x7d')], ?_, ?_⟩
      · rw [length_inner_extend, hdepth]
        rfl
      · rw [Piece.tokens, if_pos hdepth]
        rfl
    · obtain ⟨b, g, rfl⟩ := exists_opened hdepth
      refine ⟨b.extend [g.close], length_inner_extend .., ?_⟩
      rw [Piece.tokens, if_neg hdepth]
      exact read_closeGroup b g ts

/-- **Pieces can be read**, one after the other. -/
theorem exists_read_pieces {ps : List Piece} (hps : ∀ p ∈ ps, p.IsPlain) (ts : List Token) :
    ∀ a : Assembly, ∃ b : Assembly, b.inner.length = depthAfterAll a.inner.length ps ∧
      a.read (tokensAll a.inner.length ps ++ ts) = b.read ts := by
  induction ps with
  | nil =>
    intro a
    exact ⟨a, rfl, rfl⟩
  | cons p ps ih =>
    intro a
    obtain ⟨b, hb, hread⟩ := exists_read_piece (hps p List.mem_cons_self) a
      (tokensAll (depthAfter a.inner.length p) ps ++ ts)
    obtain ⟨c, hc, hrest⟩ := ih (fun q hq => hps q (List.mem_cons_of_mem _ hq)) b
    rw [hb] at hc hrest
    refine ⟨c, hc, ?_⟩
    rw [tokensAll, List.append_assoc, hread, hrest]

end Assembly

/-- The expression of what has been read, if no group is open. -/
def Assembly.finish (a : Assembly) : Except Fault Expr :=
  if a.inner.isEmpty then .ok a.outer.close else .error .unclosedGroup

/-- **A glob is read piece by piece** behind the text in front. -/
theorem ofGlob_eq (stem glob : String) :
    ofGlob stem glob =
      (Assembly.read (Assembly.extend {} (stem.toList.map fun c => .one (.only c)))
        (tokens (spellAll 0 (pieces glob.toList) ++ ['\\', 'Z']))).bind Assembly.finish := by
  rw [← Assembly.read_map_one, ← tokens_flatMap_escape, ← List.append_assoc]
  show (Assembly.read {} (tokens (globText stem.toList glob.toList))).bind _ = _
  show _ = (Assembly.read {} (tokens (globText stem.toList glob.toList))).bind _
  cases Assembly.read {} (tokens (globText stem.toList glob.toList)) with
  | error f => rfl
  | ok a =>
    obtain ⟨outer, inner⟩ := a
    cases inner <;> rfl

/-- **A glob without brackets is refused just if a brace stays open**, and then for
    the group that is not closed. -/
theorem ofGlob_of_no_bracket {glob : String} (hbracket : '[' ∉ glob.toList) (stem : String) :
    (stillOpen [] 0 glob.toList = [] → ∃ e, ofGlob stem glob = .ok e) ∧
    (stillOpen [] 0 glob.toList ≠ [] → ofGlob stem glob = .error .unclosedGroup) := by
  have hplain := isPlain_of_mem_pieces hbracket
  obtain ⟨b, hlength, hread⟩ := Assembly.exists_read_pieces hplain [.endMark]
    (Assembly.extend {} (stem.toList.map fun c => .one (.only c)))
  rw [Assembly.length_inner_extend] at hlength hread
  -- What is still open in the text is what the reader has still open.
  have hdepth : b.inner.length = (stillOpen [] 0 glob.toList).length :=
    hlength.trans (depthAfterAll_pieces hbracket [] 0)
  have hofGlob : ofGlob stem glob = b.finish := by
    rw [ofGlob_eq, tokens_spelled hplain]
    exact congrArg (Except.bind · Assembly.finish) hread
  rw [hofGlob]
  unfold Assembly.finish
  constructor
  · intro hnil
    rw [hnil] at hdepth
    rw [List.length_eq_zero_iff.mp hdepth]
    exact ⟨_, rfl⟩
  · intro hne
    have hopen : b.inner ≠ [] := by
      intro hnil
      rw [hnil] at hdepth
      exact hne (List.length_eq_zero_iff.mp hdepth.symm)
    rw [if_neg (by simpa using hopen)]

theorem exists_ofGlob_error_iff {glob : String} (hbracket : '[' ∉ glob.toList) (stem : String) :
    (∃ f, ofGlob stem glob = .error f) ↔ stillOpen [] 0 glob.toList ≠ [] := by
  obtain ⟨hclosed, hopen⟩ := ofGlob_of_no_bracket hbracket stem
  constructor
  · rintro ⟨f, hf⟩ hnil
    obtain ⟨e, he⟩ := hclosed hnil
    rw [he] at hf
    cases hf
  · intro hne
    exact ⟨_, hopen hne⟩

/-! ### The text in front -/

/-- Two groups in which a repetition finds something to repeat, or in neither. -/
def Group.Alike (g h : Group) : Prop := g.current = [] ↔ h.current = []

theorem Group.Alike.push {g h : Group} (d e : Expr) : (g.push d).Alike (h.push e) := by
  simp [Group.Alike, Group.push]

namespace Assembly

/-- **Two assemblies are alike**: as many groups are open, and they are alike. -/
structure Alike (a b : Assembly) : Prop where
  /-- Outside all groups. -/
  outer : a.outer.Alike b.outer
  /-- The groups that are open. -/
  inner : List.Forall₂ Group.Alike a.inner b.inner

variable {a b : Assembly}

theorem Alike.modify {f f' : Group → Bool → Group} (h : a.Alike b)
    (hf : ∀ g g' outermost, (f g outermost).Alike (f' g' outermost)) :
    (a.modify f).Alike (b.modify f') := by
  obtain ⟨outer, inner⟩ := a
  obtain ⟨outer', inner'⟩ := b
  cases h.inner with
  | nil => exact ⟨hf outer outer' true, .nil⟩
  | cons _ hrest => exact ⟨h.outer, .cons (hf _ _ false) hrest⟩

theorem Alike.innermost (h : a.Alike b) : a.innermost.Alike b.innermost := by
  obtain ⟨outer, inner⟩ := a
  obtain ⟨outer', inner'⟩ := b
  cases h.inner with
  | nil => exact h.outer
  | cons hgroup _ => exact hgroup

/-- The two come to the same fault, or to assemblies that are alike. -/
def SameFault (r r' : Except Fault Assembly) : Prop :=
  (∃ f, r = .error f ∧ r' = .error f) ∨ ∃ a b : Assembly, r = .ok a ∧ r' = .ok b ∧ a.Alike b

theorem Alike.repeat (h : a.Alike b) (f : Expr → Expr) : SameFault (a.repeat f) (b.repeat f) := by
  have hcurrent : a.innermost.current = [] ↔ b.innermost.current = [] := h.innermost
  unfold Assembly.repeat
  cases ha : a.innermost.current with
  | nil =>
    rw [hcurrent.mp ha]
    exact .inl ⟨_, rfl, rfl⟩
  | cons d ds =>
    cases hb : b.innermost.current with
    | nil => exact absurd (hcurrent.mpr hb) (by simp [ha])
    | cons e es =>
      refine .inr ⟨_, _, rfl, rfl, h.modify ?_⟩
      intro g g' _
      simp [Group.Alike]

/-- **One token** keeps assemblies alike, or is wrong for both. -/
theorem Alike.assemble (h : a.Alike b) (t : Token) :
    SameFault (Pattern.assemble a t) (Pattern.assemble b t) := by
  cases t with
  | one s => exact .inr ⟨_, _, rfl, rfl, h.modify fun _ _ _ => .push _ _⟩
  | openGroup => exact .inr ⟨_, _, rfl, rfl, h.outer, .cons Iff.rfl h.inner⟩
  | closeGroup =>
    obtain ⟨outer, inner⟩ := a
    obtain ⟨outer', inner'⟩ := b
    cases h.inner with
    | nil => exact .inl ⟨_, rfl, rfl⟩
    | @cons g g' gs gs' _ hrest =>
      have hclosed : Alike ⟨outer, gs⟩ ⟨outer', gs'⟩ := ⟨h.outer, hrest⟩
      exact .inr ⟨_, _, rfl, rfl, hclosed.modify fun _ _ _ => .push _ _⟩
  | bar => exact .inr ⟨_, _, rfl, rfl, h.modify fun _ _ _ => Iff.rfl⟩
  | star => exact h.repeat .many
  | question => exact h.repeat .optional
  | endMark => exact .inr ⟨_, _, rfl, rfl, h⟩
  | fault e => exact .inl ⟨e, rfl, rfl⟩

/-- **Tokens** keep assemblies alike, up to the first that is wrong. -/
theorem Alike.read (ts : List Token) : ∀ {a b : Assembly}, a.Alike b →
    SameFault (a.read ts) (b.read ts) := by
  induction ts with
  | nil => exact fun h => .inr ⟨_, _, rfl, rfl, h⟩
  | cons t ts ih =>
    intro a b h
    unfold Assembly.read
    rw [List.foldlM_cons, List.foldlM_cons]
    obtain ⟨f, ha, hb⟩ | ⟨a', b', ha, hb, h'⟩ := h.assemble t
    · rw [ha, hb]
      exact .inl ⟨f, rfl, rfl⟩
    · rw [ha, hb]
      exact ih h'

end Assembly

/-- Behind any text at all, a glob cannot be read for the same faults. -/
theorem ofGlob_error_of_ne {stem stem' glob : String} {f : Fault} (hstem : stem ≠ "")
    (hstem' : stem' ≠ "") (h : ofGlob stem glob = .error f) : ofGlob stem' glob = .error f := by
  have halike : (Assembly.extend {} (stem.toList.map fun c => .one (.only c))).Alike
      (Assembly.extend {} (stem'.toList.map fun c => .one (.only c))) := by
    refine ⟨?_, .nil⟩
    simp [Group.Alike, Assembly.extend, Assembly.modify, hstem, hstem']
  rw [ofGlob_eq] at h ⊢
  obtain ⟨e, hread, hread'⟩ | ⟨a, b, hread, hread', hab⟩ := halike.read _
  · rw [hread] at h
    rw [hread']
    exact h
  · rw [hread] at h
    rw [hread']
    -- Both have come to their ends, and as many groups are open.
    obtain ⟨outer, inner⟩ := a
    obtain ⟨outer', inner'⟩ := b
    cases hab.inner with
    | nil => cases h
    | cons => exact h

end Pattern

namespace Root

theorem stem_ne_empty (root : Path) : stem root ≠ "" := by
  intro h
  have hlist := congrArg String.toList h
  simp [stem] at hlist

/-- Below a root a glob is read behind some text. -/
theorem exists_readGlob_eq (root : Path) (glob : String) :
    ∃ front, (front = "" ∧ glob.toList.head? = some '/' ∨
        front = stem root ∧ glob.toList.head? ≠ some '/') ∧
      readGlob root glob =
        (Pattern.ofGlob front glob).mapError fun f => .plain .pattern f.message := by
  unfold readGlob
  dsimp only
  split
  · next hslash => exact ⟨"", .inl ⟨rfl, by rw [hslash]; rfl⟩, rfl⟩
  · next hslash =>
    refine ⟨stem root, .inr ⟨rfl, ?_⟩, rfl⟩
    intro hhead
    obtain ⟨rest, hrest⟩ := List.head?_eq_some_iff.mp hhead
    exact hslash rest hrest

/-- A fault that is told in other words. -/
theorem exists_mapError_iff {ε ε' α : Type} {r : Except ε α} {g : ε → ε'} :
    (∃ f, r.mapError g = .error f) ↔ ∃ e, r = .error e := by
  cases r with
  | ok a => simp [Except.mapError]
  | error e => simp [Except.mapError]

/-- **A glob without brackets cannot be read below a root** just if a brace stays open. -/
theorem exists_readGlob_error_iff {glob : String} (hbracket : '[' ∉ glob.toList) (root : Path) :
    (∃ f, readGlob root glob = .error f) ↔ Pattern.stillOpen [] 0 glob.toList ≠ [] := by
  obtain ⟨front, -, hread⟩ := exists_readGlob_eq root glob
  rw [hread, exists_mapError_iff, Pattern.exists_ofGlob_error_iff hbracket front]

/-- **A glob that cannot be read below one root** cannot be read below any other, for
    the same fault. -/
theorem readGlob_error {root : Path} {glob : String} {f : Fault}
    (h : readGlob root glob = .error f) (root' : Path) : readGlob root' glob = .error f := by
  obtain ⟨front, hfront, hread⟩ := exists_readGlob_eq root glob
  obtain ⟨front', hfront', hread'⟩ := exists_readGlob_eq root' glob
  rw [hread] at h
  rw [hread']
  rcases hfront with ⟨rfl, hslash⟩ | ⟨rfl, hslash⟩
  · -- An absolute glob stands for itself below both roots.
    rcases hfront' with ⟨rfl, -⟩ | ⟨-, hnone⟩
    · exact h
    · exact absurd hslash hnone
  rcases hfront' with ⟨-, hsome⟩ | ⟨rfl, -⟩
  · exact absurd hsome hslash
  cases hglob : Pattern.ofGlob (stem root) glob with
  | ok e =>
    rw [hglob] at h
    cases h
  | error e =>
    rw [hglob] at h
    rw [Pattern.ofGlob_error_of_ne (stem_ne_empty root) (stem_ne_empty root') hglob]
    exact h

end Root

end SinkPipeline
