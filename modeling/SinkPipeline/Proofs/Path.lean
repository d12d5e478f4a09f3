import SinkPipeline.Path

/-! # The text of a path

  A path that is read from a text has only **legal** parts: none is empty or a
  single point, and none holds a slash.  A path with legal parts is given back
  by its text, so paths and their texts can stand for each other.
-/

namespace SinkPipeline

namespace Text

/-! ### Pieces between separators -/

/-- A text without separators is one piece. -/
theorem cutAt_of_not_mem {sep : Char} {cs : List Char} (h : sep ∉ cs) : cutAt sep cs = [cs] := by
  induction cs with
  | nil => rfl
  | cons c cs ih =>
    have hc : c ≠ sep := fun hc => h (by simp [hc])
    have hcs : sep ∉ cs := fun hcs => h (by simp [hcs])
    rw [cutAt, if_neg hc, ih hcs]

/-- A separator parts the pieces before it from those after it. -/
theorem cutAt_append_sep (sep : Char) (cs rest : List Char) :
    cutAt sep (cs ++ sep :: rest) = cutAt sep cs ++ cutAt sep rest := by
  induction cs with
  | nil => simp [cutAt]
  | cons c cs ih =>
    rw [List.cons_append, cutAt, cutAt, ih]
    split
    · rfl
    · cases hcut : cutAt sep cs with
      | nil => exact absurd hcut (cutAt_ne_nil sep cs)
      | cons p ps => rfl

/-- The first separator ends the first piece. -/
theorem cutAt_append {sep : Char} {cs : List Char} (h : sep ∉ cs) (rest : List Char) :
    cutAt sep (cs ++ sep :: rest) = cs :: cutAt sep rest := by
  rw [cutAt_append_sep, cutAt_of_not_mem h]
  rfl

/-- Between two pieces there is a separator. -/
theorem exists_of_cutAt_append {sep : Char} {cs : List Char} {before after : List (List Char)}
    (h : cutAt sep cs = before ++ after) (hbefore : before ≠ []) (hafter : after ≠ []) :
    ∃ front rest, cs = front ++ sep :: rest ∧ cutAt sep front = before ∧ cutAt sep rest = after := by
  induction cs generalizing before with
  | nil =>
    -- There is only one piece.
    obtain ⟨p, before, rfl⟩ := List.exists_cons_of_ne_nil hbefore
    obtain ⟨q, after, rfl⟩ := List.exists_cons_of_ne_nil hafter
    simp [cutAt] at h
  | cons c cs ih =>
    obtain ⟨p, before, rfl⟩ := List.exists_cons_of_ne_nil hbefore
    rw [cutAt] at h
    by_cases hc : c = sep
    · rw [if_pos hc, List.cons_append, List.cons.injEq] at h
      obtain ⟨rfl, h⟩ := h
      by_cases hnil : before = []
      · exact ⟨[], cs, by rw [hc]; rfl, by rw [hnil]; rfl, by rw [h, hnil]; rfl⟩
      · obtain ⟨front, rest, rfl, hfront, hrest⟩ := ih h hnil
        refine ⟨c :: front, rest, rfl, ?_, hrest⟩
        rw [cutAt, if_pos hc, hfront]
    · rw [if_neg hc] at h
      cases hcut : cutAt sep cs with
      | nil => exact absurd hcut (cutAt_ne_nil sep cs)
      | cons q qs =>
        rw [hcut, List.cons_append, List.cons.injEq] at h
        obtain ⟨rfl, rfl⟩ := h
        have hsplit : cutAt sep cs = (q :: before) ++ after := hcut
        obtain ⟨front, rest, rfl, hfront, hrest⟩ := ih hsplit (by simp)
        refine ⟨c :: front, rest, rfl, ?_, hrest⟩
        rw [cutAt, if_neg hc, hfront]

/-- What is one piece is the piece. -/
theorem eq_of_cutAt_eq_singleton {sep : Char} {cs piece : List Char} (h : cutAt sep cs = [piece]) :
    cs = piece := by
  by_cases hsep : sep ∈ cs
  · obtain ⟨front, rest, rfl⟩ := List.append_of_mem hsep
    have hlength := congrArg List.length h
    have hfront := List.length_pos_iff.mpr (cutAt_ne_nil sep front)
    have hrest := List.length_pos_iff.mpr (cutAt_ne_nil sep rest)
    rw [cutAt_append_sep, List.length_append, List.length_singleton] at hlength
    omega
  · rw [cutAt_of_not_mem hsep] at h
    exact (List.cons.inj h).1

/-- Another character is in a text just if it is in one of the pieces. -/
theorem not_mem_iff_cutAt {sep c : Char} (hc : c ≠ sep) {cs : List Char} :
    c ∉ cs ↔ ∀ piece ∈ cutAt sep cs, c ∉ piece := by
  induction cs with
  | nil => simp [cutAt]
  | cons d cs ih =>
    rw [cutAt]
    split
    · next hd =>
      rw [List.forall_mem_cons, ← ih]
      simp [hd, hc]
    · cases hcut : cutAt sep cs with
      | nil => exact absurd hcut (cutAt_ne_nil sep cs)
      | cons p ps =>
        rw [hcut] at ih
        rw [List.forall_mem_cons, List.mem_cons, not_or, ih, List.forall_mem_cons, List.mem_cons, not_or,
          and_assoc]

/-- Pieces that were put together are found again. -/
theorem cutAt_intercalate {sep : Char} {pieces : List (List Char)} (hne : pieces ≠ [])
    (h : ∀ p ∈ pieces, sep ∉ p) : cutAt sep ([sep].intercalate pieces) = pieces := by
  match pieces with
  | [] => exact absurd rfl hne
  | [p] =>
    rw [List.intercalate_singleton]
    exact cutAt_of_not_mem (h p (by simp))
  | p :: q :: rest =>
    rw [List.intercalate_cons_cons, List.append_assoc, List.singleton_append,
      cutAt_append (h p (by simp)), cutAt_intercalate (by simp) fun r hr => h r (by simp [hr])]

/-- No piece holds a separator. -/
theorem not_mem_of_mem_cutAt {sep : Char} {cs piece : List Char} (h : piece ∈ cutAt sep cs) :
    sep ∉ piece := by
  induction cs generalizing piece with
  | nil => simp_all [cutAt]
  | cons c cs ih =>
    unfold cutAt at h
    split at h
    · rcases List.mem_cons.mp h with rfl | h
      · simp
      · exact ih h
    · next hc =>
      split at h
      · next hcut => exact absurd hcut (cutAt_ne_nil sep cs)
      · next p ps hcut =>
        rcases List.mem_cons.mp h with rfl | h
        · have hp : sep ∉ p := ih (by simp [hcut])
          simp [hp, Ne.symm hc]
        · exact ih (by simp [hcut, h])

/-- A piece is a part of the text. -/
theorem sublist_of_mem_cutAt {sep : Char} {cs piece : List Char}
    (h : piece ∈ cutAt sep cs) : piece.Sublist cs := by
  induction cs generalizing piece with
  | nil =>
    obtain rfl := List.mem_singleton.mp h
    exact .slnil
  | cons c cs ih =>
    rw [cutAt] at h
    split at h
    · rcases List.mem_cons.mp h with rfl | hlater
      · exact List.nil_sublist _
      · exact (ih hlater).cons c
    · cases hcut : cutAt sep cs with
      | nil => exact absurd hcut (cutAt_ne_nil sep cs)
      | cons p ps =>
        rw [hcut] at h
        rcases List.mem_cons.mp h with rfl | hlater
        · exact (ih (by simp [hcut])).cons_cons c
        · exact (ih (by simp [hcut, hlater])).cons c

end Text

namespace Path

/-! ### Legal parts -/

/-- Can the name be a part of a path? -/
def IsPart (name : String) : Prop := name ≠ "" ∧ name ≠ "." ∧ '/' ∉ name.toList

instance (name : String) : Decidable (IsPart name) :=
  inferInstanceAs (Decidable (name ≠ "" ∧ name ≠ "." ∧ '/' ∉ name.toList))

/-- All parts of the path are legal. -/
def WellFormed (p : Path) : Prop := ∀ part ∈ p.parts, IsPart part

theorem wellFormed_ofString (s : String) : (ofString s).WellFormed := by
  intro part hpart
  simp only [ofString, partsOf, List.mem_map, List.mem_filter] at hpart
  obtain ⟨cs, ⟨hcut, hcs⟩, rfl⟩ := hpart
  obtain ⟨hnil, hpoint⟩ : cs ≠ [] ∧ cs ≠ ['.'] := by simpa using hcs
  refine ⟨?_, ?_, ?_⟩
  · intro h
    exact hnil (by simpa using congrArg String.toList h)
  · intro h
    exact hpoint (by simpa using congrArg String.toList h)
  · simpa using Text.not_mem_of_mem_cutAt hcut

theorem WellFormed.child {p : Path} (h : p.WellFormed) {name : String} (hname : IsPart name) :
    (p.child name).WellFormed := by
  intro part hpart
  rcases List.mem_append.mp hpart with hpart | hpart
  · exact h part hpart
  · rw [List.mem_singleton.mp hpart]
    exact hname

theorem WellFormed.parent {p : Path} (h : p.WellFormed) : p.parent.WellFormed :=
  fun part hpart => h part (List.dropLast_subset _ hpart)

/-- A path without parts, or a name below its parent. -/
theorem parts_eq_nil_or_child (p : Path) : p.parts = [] ∨ ∃ name, p = p.parent.child name := by
  obtain ⟨anchor, parts⟩ := p
  rcases List.eq_nil_or_concat parts with rfl | ⟨front, name, rfl⟩
  · exact .inl rfl
  · exact .inr ⟨name, by simp [parent, child]⟩

@[simp] theorem parent_child (p : Path) (name : String) : (p.child name).parent = p := by
  simp [parent, child]

theorem WellFormed.isPart {p : Path} {name : String} (h : (p.child name).WellFormed) :
    IsPart name := h name (by simp [Path.child])

theorem WellFormed.join {p q : Path} (hp : p.WellFormed) (hq : q.WellFormed) :
    (p / q).WellFormed := by
  show (p.join q).WellFormed
  unfold Path.join
  split
  · exact hq
  · intro part hpart
    rcases List.mem_append.mp hpart with hpart | hpart
    · exact hp part hpart
    · exact hq part hpart

/-! ### Text and path -/

theorem toList_toString (p : Path) :
    p.toString.toList =
      if p.anchor = .here ∧ p.parts = [] then ['.']
      else (anchorText p.anchor).toList ++ ['/'].intercalate (p.parts.map String.toList) := by
  unfold Path.toString
  split
  · next hanchor hparts =>
    rw [if_pos ⟨hanchor, hparts⟩]
    rfl
  · next hne =>
    rw [if_neg fun hc => hne hc.1 hc.2, String.toList_append, String.toList_intercalate]
    rfl

/-- The parts of a text that is made of legal parts. -/
theorem partsOf_intercalate {parts : List String} (h : ∀ part ∈ parts, IsPart part) :
    partsOf (['/'].intercalate (parts.map String.toList)) = parts := by
  by_cases hne : parts = []
  · subst hne
    rfl
  · unfold partsOf
    rw [Text.cutAt_intercalate (by simpa using hne)
      (by simpa [IsPart] using fun part hpart => (h part hpart).2.2)]
    rw [List.filter_eq_self.mpr, List.map_map]
    · simp
    · simp only [List.mem_map, decide_eq_true_eq]
      rintro _ ⟨part, hpart, rfl⟩
      obtain ⟨hempty, hpoint, -⟩ := h part hpart
      refine ⟨fun hnil => hempty (String.toList_inj.mp hnil), fun hdot => hpoint ?_⟩
      exact String.toList_inj.mp hdot

/-- Slashes in front add no part. -/
theorem partsOf_slash (cs : List Char) : partsOf ('/' :: cs) = partsOf cs := by
  simp [partsOf, Text.cutAt]

/-- What legal parts begin with is no slash. -/
theorem head_intercalate {parts : List String} (h : ∀ part ∈ parts, IsPart part) (cs : List Char) :
    ['/'].intercalate (parts.map String.toList) ≠ '/' :: cs := by
  intro hcs
  match parts with
  | [] => simp at hcs
  | part :: rest =>
    obtain ⟨hempty, -, hslash⟩ := h part (by simp)
    match hpart : part.toList with
    | [] => exact hempty (String.toList_inj.mp hpart)
    | c :: more =>
      have hc : c = '/' := by
        cases rest <;> simp [hpart] at hcs <;> exact hcs.1
      exact hslash (by simp [hpart, hc])

theorem anchorOf_toString {parts : List String} (h : ∀ part ∈ parts, IsPart part)
    (anchor : Anchor) :
    anchorOf ((anchorText anchor).toList ++ ['/'].intercalate (parts.map String.toList)) =
      anchor := by
  -- No name begins with a slash, so the slashes in front are those of the anchor.
  have hhead := head_intercalate h
  generalize ['/'].intercalate (parts.map String.toList) = cs at hhead
  cases anchor with
  | here =>
    show anchorOf cs = .here
    unfold anchorOf
    split <;> simp_all
  | root =>
    match cs with
    | [] => rfl
    | c :: cs =>
      have hc : c ≠ '/' := by
        rintro rfl
        exact hhead cs rfl
      show anchorOf ('/' :: c :: cs) = .root
      simp [anchorOf, hc]
  | doubleRoot =>
    match cs with
    | [] => rfl
    | c :: cs =>
      have hc : c ≠ '/' := by
        rintro rfl
        exact hhead cs rfl
      show anchorOf ('/' :: '/' :: c :: cs) = .doubleRoot
      rw [anchorOf]
      rintro rest hrest
      exact hc (List.cons.inj hrest).1

/-- **A path with legal parts is read back from its text.** -/
theorem ofString_toString {p : Path} (h : p.WellFormed) : ofString p.toString = p := by
  obtain ⟨anchor, parts⟩ := p
  unfold ofString
  rw [toList_toString]
  split
  · next hhere =>
    obtain ⟨rfl, rfl⟩ : anchor = .here ∧ parts = [] := hhere
    decide
  · rw [anchorOf_toString h]
    have hparts : ∀ anchor : Anchor,
        partsOf ((anchorText anchor).toList ++ ['/'].intercalate (parts.map String.toList)) =
          parts := by
      intro anchor
      cases anchor with
      | here => exact partsOf_intercalate h
      | root => exact (partsOf_slash _).trans (partsOf_intercalate h)
      | doubleRoot =>
        exact (partsOf_slash _).trans ((partsOf_slash _).trans (partsOf_intercalate h))
    rw [hparts]

/-- The text of a name below a path. -/
theorem toString_child (p : Path) (name : String) :
    (p.child name).toString =
      (if p.parts = [] then anchorText p.anchor else p.toString ++ "/") ++ name := by
  obtain ⟨anchor, parts⟩ := p
  have hchild : (Path.child ⟨anchor, parts⟩ name).toString =
      anchorText anchor ++ "/".intercalate (parts ++ [name]) := by
    unfold Path.toString
    split
    · next hparts => exact absurd hparts (by simp [child])
    · rfl
  rw [hchild]
  by_cases hparts : parts = []
  · simp [hparts]
  · have htext : (Path.mk anchor parts).toString = anchorText anchor ++ "/".intercalate parts := by
      unfold Path.toString
      split
      · next hnil => exact absurd hnil hparts
      · rfl
    rw [if_neg hparts, htext, String.intercalate_append_of_ne_nil hparts (by simp),
      String.intercalate_singleton]
    simp only [String.append_assoc]

/-- A name has more bytes below a path than the path itself. -/
theorem utf8ByteSize_toString_le_child (p : Path) {name : String} (hname : name ≠ "") :
    p.toString.utf8ByteSize ≤ (p.child name).toString.utf8ByteSize := by
  have hpos : name.utf8ByteSize ≠ 0 := fun h => hname (String.utf8ByteSize_eq_zero_iff.mp h)
  rw [toString_child, String.utf8ByteSize_append]
  split
  · next hparts =>
    obtain ⟨anchor, parts⟩ := p
    obtain rfl : parts = [] := hparts
    cases anchor
    · have hpoint : (Path.mk .here []).toString.utf8ByteSize = 1 := by decide
      omega
    · have hroot : (Path.mk .root []).toString = "/" := by decide
      rw [hroot]
      exact Nat.le_add_right _ _
    · have hroot : (Path.mk .doubleRoot []).toString = "//" := by decide
      rw [hroot]
      exact Nat.le_add_right _ _
  · rw [String.utf8ByteSize_append]
    omega

theorem toString_inj {p q : Path} (hp : p.WellFormed) (hq : q.WellFormed)
    (h : p.toString = q.toString) : p = q := by
  rw [← ofString_toString hp, h, ofString_toString hq]

/-- The text of a path with legal parts is not empty. -/
theorem toString_ne_empty {p : Path} (h : p.WellFormed) : p.toString ≠ "" := by
  intro hempty
  have hp : p = ⟨.here, []⟩ := by
    rw [← ofString_toString h, hempty]
    rfl
  rw [hp] at hempty
  exact absurd hempty (by decide)

/-- The text of a path that ends in a name does not end in a slash. -/
theorem getLast?_toString_child (p : Path) {name : String} (hname : IsPart name) :
    (p.child name).toString.toList.getLast? ≠ some '/' := by
  obtain ⟨hempty, -, hslash⟩ := hname
  have hne : name.toList ≠ [] := fun h => hempty (String.toList_inj.mp h)
  rw [toString_child, String.toList_append, List.getLast?_append]
  intro h
  rw [List.getLast?_eq_some_getLast hne, Option.some_or, Option.some_inj] at h
  exact hslash (h ▸ List.getLast_mem hne)

/-! ### Double points resolved by text -/

/-- Names without double points are all kept. -/
theorem collapse_of_plain {acc parts : List String} (h : ".." ∉ parts) :
    collapse acc parts = acc.reverse ++ parts := by
  induction parts generalizing acc with
  | nil => simp [collapse]
  | cons part parts ih =>
    have hpart : part ≠ ".." := fun hup => h (by simp [hup])
    rw [collapse]
    · rw [ih (List.not_mem_of_not_mem_cons h), List.reverse_cons, List.append_assoc,
        List.singleton_append]
    · exact hpart

/-! ### Absolute paths -/

/-- A path followed from an absolute one is absolute. -/
theorem isAbsolute_join {p : Path} (hp : p.isAbsolute = true) (q : Path) :
    (p / q).isAbsolute = true := by
  show (p.join q).isAbsolute = true
  unfold join
  split
  · assumption
  · exact hp

theorem isAbsolute_absolute {cwd : Path} (hcwd : cwd.isAbsolute = true) (p : Path) :
    (absolute cwd p).isAbsolute = true := isAbsolute_join hcwd p

/-- The text of an absolute path begins with a slash. -/
theorem head?_toString {p : Path} (hp : p.isAbsolute = true) :
    p.toString.toList.head? = some '/' := by
  obtain ⟨anchor, parts⟩ := p
  cases anchor with
  | here => cases hp
  | root => simp [Path.toString, anchorText]
  | doubleRoot => simp [Path.toString, anchorText]

end Path

end SinkPipeline
