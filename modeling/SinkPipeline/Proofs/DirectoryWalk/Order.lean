import SinkPipeline.Proofs.DirectoryWalk.Reaching
import SinkPipeline.Proofs.FileTree.Reordering

/-! # The order of a walk

  A directory's own files come first, in rising order of their names.  After them comes
  what is in its directories, one directory after the other, again in rising order of
  the names.

  The order of two files is known from their names below the root.

  - `Before`: which of two files comes first.
  - `pairwise_of_gathers`: the files are gathered in this order.
  - `Gathers.seenAs`: whatever order the system keeps the entries in, the same is gathered.
-/

namespace SinkPipeline

namespace DirectoryWalk

/-! ### Which file comes first -/

/-- A file with some names below a directory comes before another one. -/
inductive Before : List String → List String → Prop
  /-- Of two files of the directory, the smaller name. -/
  | names {a b : String} (hne : a ≠ b) (hle : Text.precedes a b = true) : Before [a] [b]
  /-- A file of the directory, before what is further down. -/
  | shallower {a b c : String} {names : List String} : Before [a] (b :: c :: names)
  /-- Of what is in two directories, what is in the one with the smaller name. -/
  | directories {a b c d : String} {names more : List String} (hne : a ≠ b)
      (hle : Text.precedes a b = true) : Before (a :: c :: names) (b :: d :: more)
  /-- Of what is in one directory, what comes first there. -/
  | within {a : String} {names more : List String} (h : Before names more) :
      Before (a :: names) (a :: more)

theorem not_before_nil {names : List String} : ¬Before names [] := nofun

/-- Of two files one comes first, and not the other one as well. -/
theorem Before.asymm {names more : List String} (h : Before names more) : ¬Before more names := by
  induction h with
  | names hne hle =>
    intro hback
    cases hback with
    | names _ hle' => exact hne (Text.precedes_antisymm hle hle')
    | within _ => exact hne rfl
  | shallower =>
    intro hback
    cases hback with
    | within h => exact not_before_nil h
  | directories hne hle =>
    intro hback
    cases hback with
    | directories _ hle' => exact hne (Text.precedes_antisymm hle hle')
    | within _ => exact hne rfl
  | within h ih =>
    intro hback
    cases hback with
    | names hne _ => exact hne rfl
    | shallower => exact not_before_nil h
    | directories hne _ => exact hne rfl
    | within hback => exact ih hback

/-- No file comes before itself. -/
theorem Before.irrefl (names : List String) : ¬Before names names := fun h => h.asymm h

theorem Before.append {names more : List String} (dirs : List String) (h : Before names more) :
    Before (dirs ++ names) (dirs ++ more) := by
  induction dirs with
  | nil => exact h
  | cons dir dirs ih => exact .within ih

/-- The first file comes before the second one, both below the directory. -/
def FileBefore (base : Path) (f g : FoundFile) : Prop :=
  ∃ names more, f.path = base.below names ∧ g.path = base.below more ∧ Before names more

/-! ### The order of what is to be visited -/

/-- All that is met in the first visit comes before what is met in the second one. -/
def Ahead (base : Path) (v w : Visit) : Prop :=
  ∀ names more, Covers base v names → Covers base w more → Before names more

section

variable {m : Machine} {base : Path} {p : Place} {dirs : List String} {isTop : Bool}
  {entries : List (String × Bool)} {v w : Visit}

/-- **The entries of a directory** are visited in order. -/
theorem pairwise_visitsOf
    (h : entries.Pairwise fun x y => x.1 ≠ y.1 ∧ Text.precedes x.1 y.1 = true) :
    (visitsOf (base.below dirs) entries).Pairwise (Ahead base) := by
  unfold visitsOf
  rw [List.pairwise_append, List.pairwise_map, List.pairwise_map]
  refine ⟨(h.filter _).imp ?_, (h.filter _).imp ?_, ?_⟩
  -- Two files, two directories, and a file before a directory.
  · rintro x y ⟨hne, hle⟩ names more hnames hmore
    rw [covers_file_iff.mp hnames, covers_file_iff.mp hmore]
    exact (Before.names hne hle).append dirs
  · rintro x y ⟨hne, hle⟩ names more hnames hmore
    rw [Path.child_below] at hnames hmore
    obtain ⟨_ | ⟨c, cs⟩, hcs, rfl⟩ := covers_directory_iff.mp hnames
    · exact absurd rfl hcs
    obtain ⟨_ | ⟨d, ds⟩, hds, rfl⟩ := covers_directory_iff.mp hmore
    · exact absurd rfl hds
    rw [List.append_assoc, List.append_assoc]
    exact (Before.directories hne hle).append dirs
  · intro v hv w hw names more hnames hmore
    obtain ⟨x, -, rfl⟩ := List.mem_map.mp hv
    obtain ⟨y, -, rfl⟩ := List.mem_map.mp hw
    rw [covers_file_iff.mp hnames]
    rw [Path.child_below] at hmore
    obtain ⟨_ | ⟨d, ds⟩, hds, rfl⟩ := covers_directory_iff.mp hmore
    · exact absurd rfl hds
    rw [List.append_assoc]
    exact Before.shallower.append dirs

/-- The entries of a directory are listed in rising order. -/
theorem Stands.pairwise_entries (hm : m.Orderly) {path : Path} (h : Stands m path p)
    (hscan : m.tree.scan m.home path = .ok entries) :
    entries.Pairwise fun x y => x.1 ≠ y.1 ∧ Text.precedes x.1 y.1 = true := by
  have hentries := h.scan
  rw [hscan] at hentries
  cases hentries
  rw [List.pairwise_map]
  exact Tree.pairwise_sortedNames hm.distinct p

/-- **The files are gathered in order**, if what is to be visited is in order. -/
theorem pairwise_of_gathers (hm : m.Orderly) (hbase : Stands m base p) {vs : List Visit}
    {fs : List FoundFile} (h : Gathers m vs fs) (hsits : ∀ v ∈ vs, Sits m base p v)
    (hvs : vs.Pairwise (Ahead base)) : fs.Pairwise (FileBefore base) := by
  induction h with
  | done => exact .nil
  | @file dir name vs fs _ hrest ih =>
    rw [List.forall_mem_cons] at hsits
    rw [List.pairwise_cons] at hvs
    refine List.pairwise_cons.mpr ⟨?_, ih hsits.2 hvs.2⟩
    -- What is gathered later is met in a later visit.
    intro g hg
    obtain ⟨w, hw, above, x, hlisted, hcovers⟩ :=
      (mem_iff_of_gathers hm hbase hrest hsits.2 g).mp hg
    obtain ⟨dirs, rfl, -⟩ := hsits.1
    refine ⟨dirs ++ [name], above ++ [x], Path.child_below _ _ _, ?_, ?_⟩
    · rw [hlisted.file]
    · exact hvs.1 w hw _ _ (covers_file_iff.mpr rfl) hcovers
  | leaves _ _ ih | passes _ _ ih =>
    rw [List.forall_mem_cons] at hsits
    rw [List.pairwise_cons] at hvs
    exact ih hsits.2 hvs.2
  | lists henters hscan _ ih =>
    rw [List.forall_mem_cons] at hsits
    rw [List.pairwise_cons] at hvs
    obtain ⟨dirs, rfl, hdirs, hstands⟩ := stands_of_enters hm hbase hsits.1 henters hscan
    apply ih
    · exact List.forall_mem_append.mpr ⟨sits_visitsOf hm hdirs hstands hscan, hsits.2⟩
    · have hentries := hstands.pairwise_entries hm hscan
      refine List.pairwise_append.mpr ⟨pairwise_visitsOf hentries, hvs.2, ?_⟩
      -- The entries take the place of the directory, ahead of the rest.
      intro v hv w hw names more hnames hmore
      exact hvs.1 w hw names more (covers_of_mem_visitsOf hv hnames) hmore

end

/-! ### The order of the system -/

/-- **Trees that are seen as the same** are walked the same. -/
theorem Gathers.seenAs {m : Machine} {t : Tree} (h : m.tree.SeenAs t) {vs : List Visit}
    {fs : List FoundFile} (hgathers : Gathers m vs fs) : Gathers { m with tree := t } vs fs := by
  have hlink : ∀ path, t.looksLink m.home path = m.tree.looksLink m.home path := h.looksLink m.home
  induction hgathers with
  | done => exact .done
  | file hfile _ ih =>
    rw [← hlink]
    exact .file ((h.looksDir _ _).trans hfile) ih
  | leaves hdir _ ih => exact .leaves ((h.looksDir _ _).trans hdir) ih
  | @passes path isTop _ _ hpassed _ ih =>
    refine .passes ?_ ih
    intro entries hscan
    have hout := hpassed entries ((h.scan _ _).symm.trans hscan)
    unfold enters at hout ⊢
    rwa [← hlink] at hout
  | @lists path isTop _ _ _ henters hscan _ ih =>
    refine .lists ?_ ((h.scan _ _).trans hscan) ih
    unfold enters at henters ⊢
    rwa [← hlink] at henters

end DirectoryWalk

end SinkPipeline
