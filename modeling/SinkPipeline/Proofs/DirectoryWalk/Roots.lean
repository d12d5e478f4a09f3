import SinkPipeline.Proofs.DirectoryWalk.Reaching

/-! # Roots and the files below them

  A root that is given is a directory that is there, and a direct path leads to it.
  Its globs are those of the spec, each of them read.

  - `accepts_iff_of_normalize`: what a root accepts is told by the globs of its spec.
  - `stands_of_normalize`: a root that is given is there.
  - `relativePath_eq`: a file's path relative to its root has the names below the root.
-/

namespace SinkPipeline

namespace Root

/-! ### Globs -/

/-- The glob can be read below the root, and accepts the text of an absolute path. -/
def Matches (root : Path) (glob text : String) : Prop :=
  ∃ e, readGlob root glob = .ok e ∧ e.accepts text = true

/-- Globs that can be read are read one by one. -/
theorem readGlobs_ok_iff {root : Path} {globs : List String} {es : List Pattern.Expr} :
    globs.mapM (readGlob root) = .ok es ↔
      List.Forall₂ (fun g e => readGlob root g = .ok e) globs es := by
  induction globs generalizing es with
  | nil =>
    rw [List.forall₂_nil_left_iff]
    exact ⟨fun h => (Except.ok.inj h).symm, fun h => congrArg Except.ok h.symm⟩
  | cons glob globs ih =>
    rw [List.mapM_cons, List.forall₂_cons_left_iff]
    constructor
    · intro h
      obtain ⟨e, he, h⟩ := Fault.of_bind_ok h
      obtain ⟨es', hes, h⟩ := Fault.of_bind_ok h
      cases h
      exact ⟨e, es', he, ih.mp hes, rfl⟩
    · rintro ⟨e, es', he, hes, rfl⟩
      rw [he, ih.mpr hes]
      rfl

/-- Some of the globs matches just if some of the expressions accepts. -/
theorem any_accepts_iff {root : Path} {globs : List String} {es : List Pattern.Expr}
    (h : List.Forall₂ (fun g e => readGlob root g = .ok e) globs es) (text : String) :
    es.any (·.accepts text) = true ↔ ∃ glob ∈ globs, Matches root glob text := by
  induction h with
  | nil => simp
  | @cons glob e globs es he _ ih =>
    have hhead : Matches root glob text ↔ e.accepts text = true := by
      unfold Matches
      rw [he]
      simp
    rw [List.any_cons, Bool.or_eq_true, ih, List.exists_mem_cons_iff, hhead]

end Root

/-- The globs of the spec accept the text of an absolute path: some include glob
    matches it, or there is none, and no exclude glob does. -/
def RootSpec.Accepts (s : RootSpec) (root : Path) (text : String) : Prop :=
  (s.includes = [] ∨ ∃ glob ∈ s.includes, Root.Matches root glob text) ∧
    ∀ glob ∈ s.excludes, ¬Root.Matches root glob text

/-- **What a root accepts** is told by the globs of its spec. -/
theorem accepts_iff_of_normalize {m : Machine} {s : RootSpec} {root : Root}
    (h : s.normalize m = .ok root) (text : String) :
    root.accepts text = true ↔ s.Accepts root.path text := by
  obtain ⟨-, -, hincludes, hexcludes⟩ := RootSpec.normalize_eq_ok_iff.mp h
  rw [Root.readGlobs_ok_iff] at hincludes hexcludes
  have hempty : root.includes = [] ↔ s.includes = [] := by
    rw [← List.length_eq_zero_iff, ← List.length_eq_zero_iff, hincludes.length_eq]
  have hany := Root.any_accepts_iff hincludes text
  have hnone := Root.any_accepts_iff hexcludes text
  unfold Root.accepts RootSpec.Accepts
  rw [Bool.and_eq_true, Bool.or_eq_true, List.isEmpty_iff, hempty, hany, Bool.not_eq_true',
    ← Bool.not_eq_true, hnone]
  simp only [not_exists, not_and]

namespace DirectoryWalk

/-! ### The directory of a root -/

section

variable {m : Machine} {s : RootSpec} {root : Root}

/-- A root that is given is a direct path. -/
theorem direct_of_normalize (hm : m.Orderly) (h : s.normalize m = .ok root)
    (hs : (s.baseDir / s.root).WellFormed) : root.path.Direct := by
  rw [Pipeline.path_of_normalize h]
  exact Path.direct_absolute hm.cwd hm.absolute hs

/-- A path that leads to a directory stands there. -/
theorem stands_of_entryAt {path : Path} {p : Place} (hdirect : path.Direct)
    (hgiven : Tree.refusal? path.toString = none)
    (h : m.tree.entryAt m.home true path.toString = .ok (p, .dir)) : Stands m path p := by
  have hwalk := Tree.walk_of_resolve (Tree.resolve_of_entryAt h)
  rw [Path.ofString_toString hdirect.wellFormed, Bool.true_or] at hwalk
  exact ⟨hdirect, ⟨hdirect.wellFormed, hgiven, Tree.short_of_entryAt h⟩, Tree.leads_of_walk hwalk⟩

/-- **A root that is given** is a directory that is there. -/
theorem stands_of_normalize (hm : m.Orderly) (h : s.normalize m = .ok root)
    (hs : (s.baseDir / s.root).WellFormed) :
    ∃ p, m.tree.entryAt m.home true root.path.toString = .ok (p, .dir) ∧ Stands m root.path p := by
  obtain ⟨-, hstat, -⟩ := RootSpec.normalize_eq_ok_iff.mp h
  obtain ⟨hgiven, p, hentry⟩ := Tree.entryAt_of_stat hstat
  exact ⟨p, hentry, stands_of_entryAt (direct_of_normalize hm h hs) hgiven hentry⟩

/-- A walk below a root begins with its directory. -/
theorem sits_top (m : Machine) (path : Path) (p : Place) :
    ∀ v ∈ [Visit.directory path true], Sits m path p v := by
  intro v hv
  rw [List.mem_singleton.mp hv]
  exact ⟨[], (Path.below_nil path).symm, .inl ⟨rfl, rfl⟩⟩

/-- **What a walk below a root gathers** is what is listed below it. -/
theorem mem_iff_listedAt (hm : m.Orderly) {path : Path} {p : Place} (hstands : Stands m path p)
    {fs : List FoundFile} (h : Gathers m [.directory path true] fs) (f : FoundFile) :
    f ∈ fs ↔ ∃ dirs name, ListedAt m path p dirs name f := by
  rw [mem_iff_of_gathers hm hstands h (sits_top m path p) f]
  -- The walk begins with the top alone, in which everything is met.
  have hall : ∀ dirs name, Covers path (.directory path true) (dirs ++ [name]) := by
    intro dirs name
    exact ⟨dirs ++ [name], by simp, rfl⟩
  constructor
  · rintro ⟨v, -, dirs, name, hlisted, -⟩
    exact ⟨dirs, name, hlisted⟩
  · rintro ⟨dirs, name, hlisted⟩
    exact ⟨_, List.mem_singleton.mpr rfl, dirs, name, hlisted, hall dirs name⟩

end

/-! ### Names below a root -/

theorem dropCommon_append (names more : List String) :
    Path.dropCommon names (names ++ more) = ([], more) := by
  induction names with
  | nil => cases more <;> rfl
  | cons name names ih => rw [List.cons_append, Path.dropCommon, if_pos rfl, ih]

section

variable {m : Machine} {base : Path} {p : Place} {dirs : List String} {name : String}
  {f : FoundFile}

/-- The names of what is listed are legal. -/
theorem ListedAt.legal (hm : m.Orderly) (h : ListedAt m base p dirs name f) :
    ∀ x ∈ dirs ++ [name], Tree.LegalName x := by
  intro x hx
  rcases List.mem_append.mp hx with hx | hx
  · exact (hm.of_dirs h.reached hx).1
  · obtain ⟨e, hget, -⟩ := h.there
    rw [← List.append_assoc] at hget
    rw [List.mem_singleton.mp hx]
    exact hm.legal _ _ (Tree.mem_names_of_get? hget)

/-- **The path of a file relative to its root** has the names below the root. -/
theorem relativePath_eq (hm : m.Orderly) {root : Root} (hdirect : root.path.Direct)
    (h : ListedAt m root.path p dirs name f) :
    relativePath m root f = (Path.mk .here (dirs ++ [name])).toString := by
  have hlegal := h.legal hm
  have hbelow : (root.path.below (dirs ++ [name])).Direct := by
    refine ⟨hdirect.wellFormed.below fun x hx => (hlegal x hx).isPart, hdirect.absolute, ?_⟩
    intro hup
    rcases List.mem_append.mp hup with hup | hup
    · exact hdirect.plain hup
    · exact (hlegal _ hup).ne_up rfl
  -- The names of the root are common to both paths, and no way leads up from it.
  unfold relativePath Path.relative
  rw [h.file, hdirect.absolute_eq, hbelow.absolute_eq]
  unfold Path.below
  rw [dropCommon_append]
  rfl

end

end DirectoryWalk

end SinkPipeline
