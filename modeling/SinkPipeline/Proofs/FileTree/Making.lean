import SinkPipeline.Proofs.FileTree.Advancing
import SinkPipeline.Proofs.Process.Handing

/-! # Making directories below a directory

  Below a directory that is there, a path is made of plain names: none is too
  long or goes up.  If each of them is free or a directory already, making the
  directories of the path succeeds.  Then all of them are there, and nothing else
  has changed.
-/

namespace SinkPipeline

namespace Path

/-! ### Paths below a path -/

/-- Some names below a path. -/
def below (p : Path) (names : List String) : Path := ⟨p.anchor, p.parts ++ names⟩

theorem below_nil (p : Path) : p.below [] = p := by simp [below]

theorem child_below (p : Path) (names : List String) (name : String) :
    (p.below names).child name = p.below (names ++ [name]) := by simp [below, child]

theorem below_below (p : Path) (names more : List String) :
    (p.below names).below more = p.below (names ++ more) := by simp [below]

theorem below_inj {p : Path} {names more : List String} : p.below names = p.below more ↔ names = more := by
  simp [below]

theorem below_cons (p : Path) (name : String) (names : List String) :
    p.below (name :: names) = (p.child name).below names := by simp [below, child]

theorem WellFormed.below {p : Path} (hp : p.WellFormed) {names : List String}
    (hnames : ∀ name ∈ names, IsPart name) : (p.below names).WellFormed := by
  intro part hpart
  rcases List.mem_append.mp hpart with h | h
  · exact hp part h
  · exact hnames part h

theorem refusal?_below {p : Path} {names : List String} (hp : Tree.refusal? p.toString = none)
    (hnames : ∀ name ∈ names, Tree.refusal? name = none) :
    Tree.refusal? (p.below names).toString = none := by
  induction names generalizing p with
  | nil => rwa [below_nil]
  | cons name names ih =>
    rw [below_cons]
    exact ih (Tree.refusal?_child hp (hnames name (by simp))) fun x hx => hnames x (by simp [hx])

/-- A path does not get shorter by names below it. -/
theorem utf8ByteSize_le_below (p : Path) {names : List String} (hnames : ∀ name ∈ names, name ≠ "") :
    p.toString.utf8ByteSize ≤ (p.below names).toString.utf8ByteSize := by
  induction names generalizing p with
  | nil => simp [below_nil]
  | cons name names ih =>
    have hchild := utf8ByteSize_toString_le_child p (hnames name (by simp))
    have hrest := ih (p.child name) fun x hx => hnames x (by simp [hx])
    rw [below_cons]
    omega

/-- A name below a path adds its bytes and that of a slash. -/
theorem utf8ByteSize_child (p : Path) (hne : p.parts ≠ []) (name : String) :
    (p.child name).toString.utf8ByteSize = p.toString.utf8ByteSize + (name.utf8ByteSize + 1) := by
  have hslash : ("/" : String).utf8ByteSize = 1 := by decide
  rw [toString_child, if_neg hne, String.utf8ByteSize_append, String.utf8ByteSize_append, hslash]
  omega

/-- Each name below a path adds to its bytes. -/
theorem utf8ByteSize_below (p : Path) (hne : p.parts ≠ []) (names : List String) :
    (p.below names).toString.utf8ByteSize =
      names.foldl (fun n name => n + (name.utf8ByteSize + 1)) p.toString.utf8ByteSize := by
  induction names generalizing p with
  | nil => rw [below_nil, List.foldl_nil]
  | cons name names ih =>
    rw [below_cons, ih (p.child name) (by simp [child]), utf8ByteSize_child p hne, List.foldl_cons]

/-- A path has at least the bytes of its names. -/
theorem mul_le_utf8ByteSize_below (p : Path) (hne : p.parts ≠ []) {k : Nat} {names : List String}
    (hnames : ∀ name ∈ names, k ≤ name.utf8ByteSize) :
    names.length * k ≤ (p.below names).toString.utf8ByteSize := by
  have hmore : p.toString.utf8ByteSize + names.length * k ≤
      (p.below names).toString.utf8ByteSize := by
    induction names generalizing p with
    | nil => simp [below_nil]
    | cons name names ih =>
      have hname := hnames name (by simp)
      have hrest := ih (p.child name) (by simp [child]) fun x hx => hnames x (by simp [hx])
      rw [utf8ByteSize_child p hne] at hrest
      rw [below_cons, List.length_cons, Nat.succ_mul]
      omega
  omega

end Path

namespace Tree

/-! ### Paths that can be used -/

/-- A path whose text can be handed over and is not too long. -/
structure Usable (p : Path) : Prop where
  /-- Its parts are legal. -/
  wellFormed : p.WellFormed
  /-- It can be handed over. -/
  given : refusal? p.toString = none
  /-- It is not too long. -/
  short : ¬maxPathBytes < p.toString.utf8ByteSize

/-- The path above one that can be used. -/
theorem Usable.of_child {p : Path} {name : String} (h : Usable (p.child name)) : Usable p := by
  have hwellFormed := h.wellFormed.parent
  rw [Path.parent_child] at hwellFormed
  refine ⟨hwellFormed, ?_, ?_⟩
  · by_cases hparts : p.parts = []
    · obtain ⟨anchor, parts⟩ := p
      obtain rfl : parts = [] := hparts
      cases anchor <;> rfl
    · refine refusal?_of_subset (fun c hc => ?_) h.given
      rw [Path.toString_child, if_neg hparts]
      simp [hc]
  · have hlonger := Path.utf8ByteSize_toString_le_child p h.wellFormed.isPart.1
    have := h.short
    omega

/-- A name that can be followed: it does not go up and is not too long. -/
structure Plain (name : String) : Prop where
  /-- It does not go up. -/
  not_up : name ≠ ".."
  /-- It is not too long. -/
  short : ¬maxNameBytes < name.utf8ByteSize

theorem Usable.nameable {p : Path} {name : String} (h : Usable (p.child name))
    (hname : Plain name) : Nameable (p.child name) name :=
  ⟨by rw [Path.parent_child], hname.not_up, h.given, h.short, hname.short⟩

/-! ### Ways below a directory -/

section

variable {t : Tree} {links left left' : Nat} {start mid dir : Place} {names rest : List String}

theorem Leads.append (h : t.Leads links start names left mid) (h' : t.Leads left mid rest left' dir) :
    t.Leads links start (names ++ rest) left' dir := by
  induction h with
  | here => exact h'
  | up _ ih => exact .up (ih h')
  | down hname hsize hget _ ih => exact .down hname hsize hget (ih h')
  | across hname hsize hget _ ih =>
    have hrest := ih h'
    rw [List.append_assoc] at hrest
    exact .across hname hsize hget hrest

/-- What names lead to is something that is there, also if a link at their end is
    not followed. -/
theorem Leads.walk_occupied (h : t.Leads links start names left dir) :
    ∃ p e, t.walk false links start names = .ok (.occupied p e) := by
  induction h with
  | here => exact ⟨_, _, by rw [walk]⟩
  | up _ ih =>
    obtain ⟨p, e, hwalk⟩ := ih
    exact ⟨p, e, by rw [walk, hwalk]⟩
  | down hname hsize hget _ ih =>
    obtain ⟨p, e, hwalk⟩ := ih
    refine ⟨p, e, ?_⟩
    rw [walk, if_neg hsize, hget]
    · exact hwalk
    · exact hname
  | @across _ _ start _ name target rest hname hsize hget _ ih =>
    obtain ⟨p, e, hwalk⟩ := ih
    cases rest with
    | nil =>
      -- A link at the end is itself what is found.
      refine ⟨start ++ [name], .link target, ?_⟩
      rw [walk, if_neg hsize, hget]
      · rfl
      · exact hname
    | cons _ _ =>
      refine ⟨p, e, ?_⟩
      rw [walk, if_neg hsize, hget]
      · simpa using hwalk
      · exact hname

/-- Where directories are added, the same names lead to the same directories. -/
theorem AddsDirs.leads {t' : Tree} (hadds : t.AddsDirs t')
    (h : t.Leads links start names left dir) : t'.Leads links start names left dir := by
  refine h.congr fun p hpass => ?_
  rcases hpass with hdir | ⟨l, hlink⟩
  · rw [hdir, hadds.get? hdir]
  · rw [hlink, hadds.get? hlink]

/-- Directories, each below the one before, are led to. -/
theorem leads_of_dirs (t : Tree) (links : Nat) (names : List String) (dir : Place)
    (hplain : ∀ name ∈ names, Plain name)
    (hdirs : ∀ q, q <+: names → q ≠ [] → t.get? (dir ++ q) = some .dir) :
    t.Leads links dir names links (dir ++ names) := by
  induction names generalizing dir with
  | nil =>
    rw [List.append_nil]
    exact .here
  | cons x names ih =>
    have hx := hplain x (by simp)
    have hassoc : ∀ q : List String, dir ++ [x] ++ q = dir ++ x :: q := fun q => by simp
    have hrest := ih (dir ++ [x]) (fun name hname => hplain name (by simp [hname])) fun q hq hne => by
      rw [hassoc]
      exact hdirs (x :: q) (List.cons_prefix_cons.2 ⟨rfl, hq⟩) (by simp)
    rw [hassoc] at hrest
    exact .down hx.not_up hx.short (hdirs [x] ⟨names, rfl⟩ (by simp)) hrest

/-- **All directories are there, or one is missing**, and then nothing can be
    found below them. -/
theorem dirs_or_missing (t : Tree) (links : Nat) (names : List String) (dir : Place)
    (hplain : ∀ name ∈ names, Plain name)
    (hopen : ∀ q, q <+: names → q ≠ [] → t.get? (dir ++ q) = none ∨ t.get? (dir ++ q) = some .dir) :
    (∀ q, q <+: names → q ≠ [] → t.get? (dir ++ q) = some .dir) ∨
      ∀ name, t.walk false links dir (names ++ [name]) = .error .noEntry := by
  -- From the first name down: the first that is free ends the way.
  induction names generalizing dir with
  | nil =>
    left
    intro q hq hne
    exact absurd (List.prefix_nil.1 hq) hne
  | cons x names ih =>
    have hx := hplain x (by simp)
    have hassoc : ∀ q : List String, dir ++ [x] ++ q = dir ++ x :: q := fun q => by simp
    rcases hopen [x] ⟨names, rfl⟩ (by simp) with hnone | hdir
    · right
      intro name
      rw [List.cons_append, walk, if_neg hx.short, hnone]
      · simp
      · exact hx.not_up
    · have hrest := ih (dir ++ [x]) (fun name hname => hplain name (by simp [hname])) fun q hq hne => by
        rw [hassoc]
        exact hopen (x :: q) (List.cons_prefix_cons.2 ⟨rfl, hq⟩) (by simp)
      rcases hrest with hdirs | hmissing
      · left
        intro q hq hne
        obtain ⟨y, q, rfl⟩ := List.exists_cons_of_ne_nil hne
        obtain ⟨rfl, hrest⟩ := List.cons_prefix_cons.1 hq
        by_cases hlast : q = []
        · rwa [hlast]
        · rw [← hassoc]
          exact hdirs q hrest hlast
      · right
        intro name
        rw [List.cons_append, walk, if_neg hx.short, hdir]
        · exact hmissing name
        · exact hx.not_up

end

/-! ### One directory -/

section

variable {t : Tree} {start dir : Place} {left : Nat} {p : Path} {name : String}

/-- **A directory that is there** need not be made. -/
theorem ensureDir_of_leads (hp : Usable p) (h : t.Leads maxLinks (origin start p) p.parts left dir) :
    t.makeDir start p.toString = .error (.os .exists [p.toString]) ∧
      t.ensureDir start p.toString = .ok t := by
  have hfound : ∃ q e, t.resolve start false p.toString = .ok (.occupied q e) := by
    rw [resolve_eq, if_neg (Path.toString_ne_empty hp.wellFormed), if_neg hp.short,
      Path.ofString_toString hp.wellFormed, Bool.false_or]
    cases endsInSlash p.toString with
    | true =>
      rw [h.walk_eq]
      exact ⟨dir, .dir, rfl⟩
    | false =>
      obtain ⟨q, e, hwalk⟩ := h.walk_occupied
      rw [hwalk]
      exact ⟨q, e, checkSlash_false _⟩
  obtain ⟨q, e, hresolve⟩ := hfound
  have hmake : t.makeDir start p.toString = .error (.os .exists [p.toString]) := by
    unfold makeDir aboutPath
    rw [hp.given, hresolve]
    rfl
  have hdir : t.isDir? start p.toString = .ok true := by
    unfold isDir? holds stat aboutPath
    rw [hp.given, h.entryAt hp.wellFormed hp.short]
    rfl
  refine ⟨hmake, ?_⟩
  unfold ensureDir
  simp only [hmake, Fault.isOs, if_true, hdir]
  rfl

/-- **A directory that is not there** is made in one that is. -/
theorem makeDir_of_vacant (hp : Usable (p.child name)) (hname : Plain name)
    (h : t.Leads maxLinks (origin start p) p.parts left dir)
    (hget : t.get? (dir ++ [name]) = none) :
    t.makeDir start (p.child name).toString = .ok (t.put (dir ++ [name]) .dir) := by
  have hleads : t.Leads maxLinks (origin start (p.child name)) (p.child name).parent.parts left dir := by
    rw [Path.parent_child]
    exact h
  have hfound := resolve_nameable hp.wellFormed (hp.nameable hname) hleads false
  rw [walk_single_vacant hname.not_up hname.short false hget] at hfound
  unfold makeDir aboutPath
  rw [hp.given, hfound]
  rfl

/-- Where a directory above is missing, none is made. -/
theorem makeDir_of_missing {b : Path} {names : List String} (hp : Usable (b.below (names ++ [name])))
    (h : t.Leads maxLinks (origin start b) b.parts left dir)
    (hmissing : t.walk false left dir (names ++ [name]) = .error .noEntry) :
    t.makeDir start (b.below (names ++ [name])).toString =
      .error (.os .noEntry [(b.below (names ++ [name])).toString]) := by
  rw [← Path.child_below] at hp ⊢
  have hfound : t.resolve start false ((b.below names).child name).toString = .error .noEntry := by
    rw [resolve_child t start false hp.of_child.wellFormed hp.wellFormed.isPart, if_neg hp.short]
    show t.walk false maxLinks (origin start b) (b.parts ++ names ++ [name]) = _
    rw [List.append_assoc, h.walk_append false (by simp)]
    exact hmissing
  unfold makeDir aboutPath
  rw [hp.given, hfound]
  rfl

end

/-! ### All directories of a path -/

/-- The second tree is the first with the directories of a path below a place. -/
structure Opens (t : Tree) (dir : Place) (names : List String) (t' : Tree) : Prop where
  /-- The directories are there. -/
  made : ∀ q, q <+: names → q ≠ [] → t'.get? (dir ++ q) = some .dir
  /-- Elsewhere nothing has changed. -/
  kept : ∀ p, (∀ q, q <+: names → q ≠ [] → p ≠ dir ++ q) → t'.get? p = t.get? p

section Opens

variable {t t' t'' : Tree} {dir : Place} {names : List String} {name : String}

/-- Where the directories of the names are, one more is made. -/
theorem opens_put (hdirs : ∀ q, q <+: names → q ≠ [] → t.get? (dir ++ q) = some .dir) :
    t.Opens dir (names ++ [name]) (t.put (dir ++ (names ++ [name])) .dir) where
  made q hq hne := by
    by_cases hlast : q = names ++ [name]
    · rw [hlast]
      exact get?_put_self t _ (by simp)
    · rw [get?_put_of_ne t _ (by simpa using hlast)]
      exact hdirs q ((List.prefix_concat_iff.1 hq).resolve_left hlast) hne
  kept p hp := get?_put_of_ne t _ (hp _ (List.prefix_refl _) (by simp))

/-- Where one more is there as well, nothing is made. -/
theorem opens_self (hdirs : ∀ q, q <+: names → q ≠ [] → t.get? (dir ++ q) = some .dir)
    (hdir : t.get? (dir ++ (names ++ [name])) = some .dir) : t.Opens dir (names ++ [name]) t where
  made q hq hne := by
    by_cases hlast : q = names ++ [name]
    · rwa [hlast]
    · exact hdirs q ((List.prefix_concat_iff.1 hq).resolve_left hlast) hne
  kept _ _ := rfl

/-- What is below the directories is what was there before they were made. -/
theorem Opens.get?_concat (h : t.Opens dir names t') (name : String) :
    t'.get? (dir ++ (names ++ [name])) = t.get? (dir ++ (names ++ [name])) := by
  apply h.kept
  intro q hq _ hsame
  obtain rfl := List.append_cancel_left hsame
  have hle := hq.length_le
  simp only [List.length_append, List.length_singleton] at hle
  omega

/-- One more directory after the others. -/
theorem Opens.concat (h : t.Opens dir names t') (hmore : t'.Opens dir (names ++ [name]) t'') :
    t.Opens dir (names ++ [name]) t'' where
  made := hmore.made
  kept p hp := by
    rw [hmore.kept p hp]
    exact h.kept p fun q hq => hp q (hq.trans (List.prefix_append _ _))

end Opens

/-- One more directory, in one that is there, is made or is there already. -/
theorem ensureDir_below {t : Tree} {start dir : Place} {left : Nat} {b : Path} {names : List String}
    {name : String} (hp : Usable (b.below (names ++ [name]))) (hplain : ∀ x ∈ names ++ [name], Plain x)
    (hleads : t.Leads maxLinks (origin start b) b.parts left dir)
    (hdirs : ∀ q, q <+: names → q ≠ [] → t.get? (dir ++ q) = some .dir)
    (hopen : t.get? (dir ++ (names ++ [name])) = none ∨
      t.get? (dir ++ (names ++ [name])) = some .dir) :
    ∃ t', t.ensureDir start (b.below (names ++ [name])).toString = .ok t' ∧
      t.Opens dir (names ++ [name]) t' ∧
      ∀ args, t.makeDir start (b.below (names ++ [name])).toString ≠ .error (.os .noEntry args) := by
  rcases hopen with hnone | hdir
  · have habove := hleads.append (leads_of_dirs t left names dir
      (fun x hx => hplain x (by simp [hx])) hdirs)
    have hmake : t.makeDir start (b.below (names ++ [name])).toString =
        .ok (t.put (dir ++ (names ++ [name])) .dir) := by
      rw [← Path.child_below] at hp ⊢
      rw [← List.append_assoc] at hnone ⊢
      exact makeDir_of_vacant hp (hplain name (by simp)) habove hnone
    refine ⟨_, by simp only [ensureDir, hmake], opens_put hdirs, ?_⟩
    intro args h
    rw [hmake] at h
    cases h
  · -- The directory is there, so the tree stays as it is.
    have hopens := opens_self hdirs hdir
    obtain ⟨hmake, hensure⟩ := ensureDir_of_leads hp
      (hleads.append (leads_of_dirs t left (names ++ [name]) dir hplain hopens.made))
    refine ⟨t, hensure, hopens, ?_⟩
    intro args h
    rw [hmake] at h
    cases h

/-- Where nothing is missing above, one directory is made or is there already. -/
theorem ensureDirs_of_found {t t' : Tree} {start : Place} {anchor : Anchor} {reversed : List String}
    {path : String} (hpath : (Path.mk anchor reversed.reverse).toString = path)
    (hfound : ∀ args, t.makeDir start path ≠ .error (.os .noEntry args))
    (hensure : t.ensureDir start path = .ok t') :
    t.ensureDirs start anchor reversed = (t', .ok ()) := by
  unfold ensureDirs
  simp only [hpath]
  split
  · next args _ _ hmake => exact absurd hmake (hfound args)
  · rw [hensure]

/-- Where a directory above is missing, those above are made first. -/
theorem ensureDirs_of_missing {t t₁ t' : Tree} {start : Place} {anchor : Anchor}
    {above : List String} {name path : String} {args : List String}
    (hpath : (Path.mk anchor (name :: above).reverse).toString = path)
    (hmake : t.makeDir start path = .error (.os .noEntry args))
    (habove : t.ensureDirs start anchor above = (t₁, .ok ()))
    (hensure : t₁.ensureDir start path = .ok t') :
    t.ensureDirs start anchor (name :: above) = (t', .ok ()) := by
  unfold ensureDirs
  simp only [hpath, hmake, habove, hensure]

/-- **Making the directories of a path** below a directory succeeds if each of
    its names is free or a directory.  The names are in reverse order. -/
theorem ensureDirs_below {t : Tree} {start dir : Place} {left : Nat} {b : Path}
    (hleads : t.Leads maxLinks (origin start b) b.parts left dir) (above : List String)
    (hp : Usable (b.below above.reverse)) (hplain : ∀ x ∈ above, Plain x)
    (hopen : ∀ q, q <+: above.reverse → q ≠ [] →
      t.get? (dir ++ q) = none ∨ t.get? (dir ++ q) = some .dir) :
    ∃ t', t.ensureDirs start b.anchor (above ++ b.parts.reverse) = (t', .ok ()) ∧
      t.Opens dir above.reverse t' := by
  -- From the last name up, as the directories are tried.
  induction above with
  | nil =>
    rw [List.reverse_nil, Path.below_nil] at hp
    obtain ⟨hmake, hensure⟩ := ensureDir_of_leads hp hleads
    have hfound : ∀ args, t.makeDir start b.toString ≠ .error (.os .noEntry args) := by
      intro args h
      rw [hmake] at h
      cases h
    refine ⟨t, ?_, fun q hq hne => absurd (List.prefix_nil.1 hq) hne, fun _ _ => rfl⟩
    exact ensureDirs_of_found (by simp) hfound hensure
  | cons name above ih =>
    have hpath : (Path.mk b.anchor (name :: above ++ b.parts.reverse).reverse).toString =
        (b.below (above.reverse ++ [name])).toString := by
      simp [Path.below]
    rw [List.reverse_cons] at hp hopen ⊢
    have hplain' : ∀ x ∈ above.reverse ++ [name], Plain x := by
      intro x hx
      exact hplain x (by simpa [or_comm] using hx)
    have hopen' : ∀ q, q <+: above.reverse → q ≠ [] →
        t.get? (dir ++ q) = none ∨ t.get? (dir ++ q) = some .dir := fun q hq =>
      hopen q (hq.trans (List.prefix_append _ _))
    have hlast := hopen _ (List.prefix_refl _) (by simp)
    rcases dirs_or_missing t left above.reverse dir (fun x hx => hplain' x (by simp [hx])) hopen' with
      hdirs | hmissing
    · obtain ⟨t', hensure, hopens, hfound⟩ := ensureDir_below hp hplain' hleads hdirs hlast
      exact ⟨t', ensureDirs_of_found hpath hfound hensure, hopens⟩
    · -- Those above are made first.
      have hmake := makeDir_of_missing hp hleads (hmissing name)
      have hp' : Usable (b.below above.reverse) := by
        rw [← Path.child_below] at hp
        exact hp.of_child
      obtain ⟨t₁, hfirst, hopens₁⟩ := ih hp' (fun x hx => hplain x (by simp [hx])) hopen'
      have hadds : t.AddsDirs t₁ := by
        have hmade := t.ensureDirs_addsDirs start b.anchor (above ++ b.parts.reverse)
        rwa [hfirst] at hmade
      rw [← hopens₁.get?_concat name] at hlast
      obtain ⟨t', hensure, hopens, -⟩ :=
        ensureDir_below hp hplain' (hadds.leads hleads) hopens₁.made hlast
      exact ⟨t', ensureDirs_of_missing hpath hmake hfirst hensure, hopens₁.concat hopens⟩

/-- **Making the directories of a path** below a directory. -/
theorem makeDirs_below {t : Tree} {start dir : Place} {left : Nat} {b : Path} {names : List String}
    (hleads : t.Leads maxLinks (origin start b) b.parts left dir) (hp : Usable (b.below names))
    (hplain : ∀ x ∈ names, Plain x)
    (hopen : ∀ q, q <+: names → q ≠ [] → t.get? (dir ++ q) = none ∨ t.get? (dir ++ q) = some .dir) :
    ∃ t', t.makeDirs start (b.below names) = (t', .ok ()) ∧ t.Opens dir names t' ∧
      t'.Leads maxLinks (origin start b) (b.below names).parts left (dir ++ names) := by
  have hreverse : names.reverse.reverse = names := List.reverse_reverse names
  obtain ⟨t', hmade, hopens⟩ := ensureDirs_below hleads names.reverse (by rwa [hreverse])
    (by simpa using hplain) (by rwa [hreverse])
  rw [hreverse] at hopens
  have hmakeDirs : t.makeDirs start (b.below names) = (t', .ok ()) := by
    unfold makeDirs
    simp only [Path.below, List.reverse_append]
    exact hmade
  have hadds : t.AddsDirs t' := by
    have := t.makeDirs_addsDirs start (b.below names)
    rwa [hmakeDirs] at this
  exact ⟨t', hmakeDirs, hopens,
    (hadds.leads hleads).append (leads_of_dirs t' left names dir hplain hopens.made)⟩

end Tree

end SinkPipeline
