import Mathlib.Data.List.Sort
import SinkPipeline.FileTree.Access
import SinkPipeline.Proofs.FileTree.Following
import SinkPipeline.SinkName

/-! # Trees that differ in generated files

  Sinks of one output write files of **generated** names, and nothing else.  Two
  trees are **alike** if they differ in such files at most: one may have them
  where the other has not, or with other bytes.  Directories are the same in
  both, also those of generated names.

  So a path that ends in another name leads to the same entry in both trees, or
  to nothing in either; a path that leads to a directory in one of them leads
  to it in the other; and a directory lists the same names once the generated
  files are left out.
-/

namespace SinkPipeline

/-- Is the last name of a place that of a generated file? -/
def Place.isGenerated (p : Place) : Bool := SinkName.isGenerated (p.getLast?.getD "")

/-- Is the last name of a path that of a generated file? -/
def Path.isGenerated (p : Path) : Bool := Place.isGenerated p.parts

@[simp] theorem Place.isGenerated_append (dir : Place) (name : String) :
    Place.isGenerated (dir ++ [name]) = SinkName.isGenerated name := by
  simp [Place.isGenerated]

@[simp] theorem Path.isGenerated_child (p : Path) (name : String) :
    (p.child name).isGenerated = SinkName.isGenerated name := by
  simp [Path.isGenerated, Path.child]

theorem Place.isGenerated_nil : Place.isGenerated [] = false := by decide

namespace Tree

/-! ### Trees without links -/

/-- No entry of the tree is a link. -/
def Linkless (t : Tree) : Prop := ∀ p target, t.get? p ≠ some (.link target)

/-- What is at a place other than the root is an entry of the tree. -/
theorem mem_of_findEntry {p : Place} {e : Entry} {es : List (Place × Entry)}
    (h : findEntry p es = some e) : (p, e) ∈ es := by
  induction es with
  | nil => cases h
  | cons head es ih =>
    unfold findEntry at h
    split at h
    · next hplace =>
      cases h
      rw [← hplace]
      exact List.mem_cons_self
    · exact List.mem_cons_of_mem _ (ih h)

/-- A tree of files has no links. -/
theorem linkless_of_files {t : Tree} (h : ∀ e ∈ t.entries, ∃ f, e.2 = .file f) : t.Linkless := by
  intro p target hget
  unfold Tree.get? at hget
  split at hget
  · cases hget
  · obtain ⟨f, hf⟩ := h _ (mem_of_findEntry hget)
    cases hf

/-- A tree of one file has no links. -/
theorem linkless_of_file (p : Place) (f : File) : Linkless ⟨[(p, .file f)]⟩ :=
  linkless_of_files (by simp)

/-- Nothing is there, or a file. -/
def FileOrNone (e : Option Entry) : Prop := e = none ∨ ∃ f, e = some (.file f)

/-- Without links, and without double points, names lead to the place that they
    spell. -/
theorem Leads.place_eq {t : Tree} (ht : t.Linkless) {links left : Nat} {start dir : Place}
    {names : List String} (h : t.Leads links start names left dir) (hup : ".." ∉ names) :
    dir = start ++ names ∧ left = links := by
  induction h with
  | here => simp
  | up => simp at hup
  | down _ _ _ _ ih =>
    obtain ⟨rfl, rfl⟩ := ih (List.not_mem_of_not_mem_cons hup)
    simp
  | across _ _ hget => exact absurd hget (ht _ _)

/-- Without links, what is followed to a directory is led to it. -/
theorem Linkless.leads_of_walk {t : Tree} (ht : t.Linkless) {followLast : Bool} {links : Nat}
    {start dir : Place} {names : List String}
    (h : t.walk followLast links start names = .ok (.occupied dir .dir)) :
    t.Leads links start names links dir := by
  induction names generalizing start with
  | nil =>
    rw [walk] at h
    cases h
    exact .here
  | cons name rest ih =>
    by_cases hname : name = ".."
    · subst hname
      rw [walk] at h
      exact .up (ih h)
    rw [walk] at h
    · split at h
      · cases h
      next hsize =>
      cases hget : t.get? (start ++ [name]) with
      | none =>
        rw [hget] at h
        dsimp only at h
        split at h <;> cases h
      | some e =>
        rw [hget] at h
        cases e with
        | dir => exact .down hname hsize hget (ih h)
        | file f =>
          dsimp only at h
          split at h <;> cases h
        | link target => exact absurd hget (ht _ _)
    · exact hname

/-- Without links it makes no difference whether a last one would be followed. -/
theorem Linkless.walk_of_leads {t : Tree} (ht : t.Linkless) {links left : Nat} {start dir : Place}
    {names : List String} (h : t.Leads links start names left dir) (followLast : Bool) :
    t.walk followLast links start names = .ok (.occupied dir .dir) := by
  induction h with
  | here => rw [walk]
  | up _ ih => rw [walk, ih]
  | down hname hsize hget _ ih =>
    rw [walk, if_neg hsize, hget]
    · exact ih
    · exact hname
  | across _ _ hget => exact absurd hget (ht _ _)

/-- Without links a name is followed to what the directory has of that name. -/
theorem Linkless.walk_single {t : Tree} (ht : t.Linkless) {dir : Place} {name : String}
    (hname : name ≠ "..") (links : Nat) :
    t.walk true links dir [name] =
      if maxNameBytes < name.utf8ByteSize then .error .nameTooLong
      else
        .ok ((t.get? (dir ++ [name])).elim (.vacant (dir ++ [name])) (.occupied (dir ++ [name]))) := by
  rw [walk]
  · by_cases hsize : maxNameBytes < name.utf8ByteSize
    · rw [if_pos hsize, if_pos hsize]
    rw [if_neg hsize, if_neg hsize]
    cases hfound : t.get? (dir ++ [name]) with
    | none => rfl
    | some e =>
      cases e with
      | dir =>
        dsimp only [Option.elim]
        rw [walk]
      | file f => rfl
      | link target => exact absurd hfound (ht _ target)
  · exact hname

/-- An entry that a path leads to is what the path is followed to. -/
theorem resolve_of_entryAt {t : Tree} {start p : Place} {followLast : Bool} {path : String}
    {e : Entry} (h : t.entryAt start followLast path = .ok (p, e)) :
    t.resolve start followLast path = .ok (.occupied p e) := by
  unfold Tree.entryAt at h
  cases hfound : t.resolve start followLast path with
  | error e =>
    rw [hfound] at h
    cases h
  | ok target =>
    rw [hfound] at h
    cases target with
    | vacant p => cases h
    | occupied p e =>
      cases h
      rfl

/-- Without links, the names of a path that leads to a directory lead to it. -/
theorem Linkless.leads_of_entryAt {t : Tree} (ht : t.Linkless) {start dir : Place}
    {followLast : Bool} {path : String} (h : t.entryAt start followLast path = .ok (dir, .dir)) :
    t.Leads maxLinks (origin start (Path.ofString path)) (Path.ofString path).parts maxLinks dir :=
  ht.leads_of_walk (walk_of_resolve (resolve_of_entryAt h))

/-! ### Alike trees -/

/-- Does the name below a directory stand when generated files are left out? -/
def stands (t : Tree) (dir : Place) (name : String) : Bool :=
  !SinkName.isGenerated name || t.get? (dir ++ [name]) == some .dir

/-- The trees differ in generated files at most. -/
structure Alike (t t' : Tree) : Prop where
  /-- Places that differ have generated names, and only files are there. -/
  get? : ∀ p, t'.get? p = t.get? p ∨
    Place.isGenerated p = true ∧ FileOrNone (t.get? p) ∧ FileOrNone (t'.get? p)
  /-- Directories list the same names otherwise. -/
  names : ∀ dir, (t'.names dir).filter (t'.stands dir) = (t.names dir).filter (t.stands dir)

namespace Alike

variable {t t' t'' : Tree}

theorem refl (t : Tree) : t.Alike t := ⟨fun _ => .inl rfl, fun _ => rfl⟩

theorem symm (h : t.Alike t') : t'.Alike t := by
  refine ⟨fun p => ?_, fun dir => (h.names dir).symm⟩
  rcases h.get? p with hsame | ⟨hgen, hfile, hfile'⟩
  · exact .inl hsame.symm
  · exact .inr ⟨hgen, hfile', hfile⟩

theorem trans (h : t.Alike t') (h' : t'.Alike t'') : t.Alike t'' := by
  refine ⟨fun p => ?_, fun dir => (h'.names dir).trans (h.names dir)⟩
  rcases h.get? p with hsame | ⟨hgen, hfile, hfile'⟩
  · rw [← hsame]
    exact h'.get? p
  · rcases h'.get? p with hsame' | ⟨-, -, hfile''⟩
    · exact .inr ⟨hgen, hfile, hsame' ▸ hfile'⟩
    · exact .inr ⟨hgen, hfile, hfile''⟩

/-- Alike trees have the same directories. -/
theorem get?_eq_dir (h : t.Alike t') {p : Place} (hdir : t.get? p = some .dir) :
    t'.get? p = some .dir := by
  rcases h.get? p with hsame | ⟨-, hfile, -⟩
  · exact hsame.trans hdir
  · rcases hfile with hnone | ⟨f, hfile⟩
    · rw [hdir] at hnone
      cases hnone
    · rw [hdir] at hfile
      cases hfile

/-- A place of another name holds the same in both. -/
theorem get?_of_not_generated (h : t.Alike t') {p : Place} (hp : Place.isGenerated p = false) :
    t'.get? p = t.get? p := by
  rcases h.get? p with hsame | ⟨hgen, -⟩
  · exact hsame
  · rw [hp] at hgen
    cases hgen

theorem linkless (h : t.Alike t') (ht : t.Linkless) : t'.Linkless := by
  intro p target hlink
  rcases h.get? p with hsame | ⟨-, -, hfile⟩
  · exact ht p target (hsame ▸ hlink)
  · rcases hfile with hnone | ⟨f, hfile⟩ <;> simp_all

/-- The same names lead to the same directories. -/
theorem leads (h : t.Alike t') (ht : t.Linkless) {links left : Nat} {start dir : Place}
    {names : List String} (hleads : t.Leads links start names left dir) :
    t'.Leads links start names left dir := by
  refine hleads.congr fun p hp => ?_
  rcases hp with hdir | ⟨target, hlink⟩
  · rw [hdir, h.get?_eq_dir hdir]
  · exact absurd hlink (ht p target)

end Alike

/-! ### What changes between alike trees -/

/-- Names at a place that does not stand are left out, whether they are listed or
    not. -/
theorem filter_names_filter {p dir : Place} {K : String → Bool}
    (hK : ∀ name, dir ++ [name] = p → K name = false) (es : List (Place × Entry)) :
    let name? := fun e : Place × Entry => if e.1.dropLast = dir then e.1.getLast? else none
    ((es.filter (·.1 ≠ p)).filterMap name?).filter K = (es.filterMap name?).filter K := by
  intro name?
  induction es with
  | nil => rfl
  | cons e es ih =>
    by_cases he : e.1 = p
    · rw [List.filter_cons_of_neg (by simpa using he), ih]
      cases hname : name? e with
      | none => rw [List.filterMap_cons_none hname]
      | some name =>
        have hplace : dir ++ [name] = p := (place_of_listed hname).trans he
        rw [List.filterMap_cons_some hname, List.filter_cons_of_neg (by simp [hK name hplace])]
    · rw [List.filter_cons_of_pos (by simpa using he)]
      cases hname : name? e with
      | none => rw [List.filterMap_cons_none hname, List.filterMap_cons_none hname, ih]
      | some name =>
        rw [List.filterMap_cons_some hname, List.filterMap_cons_some hname, List.filter_cons,
          List.filter_cons, ih]

/-- A generated name does not stand where there is a file or nothing. -/
theorem stands_eq_false {t : Tree} {dir : Place} {name : String}
    (hgen : SinkName.isGenerated name = true) (hget : FileOrNone (t.get? (dir ++ [name]))) :
    t.stands dir name = false := by
  rcases hget with hnone | ⟨f, hfile⟩
  · simp [stands, hgen, hnone]
  · simp [stands, hgen, hfile]

/-- **Putting a generated file** where no directory is makes no difference
    between alike trees. -/
theorem alike_put {t : Tree} {p : Place} (f : File) (hgen : Place.isGenerated p = true)
    (hget : FileOrNone (t.get? p)) : t.Alike (t.put p (.file f)) := by
  have hroot : p ≠ [] := by
    rintro rfl
    rw [Place.isGenerated_nil] at hgen
    cases hgen
  have hself := get?_put_self t (.file f) hroot
  refine ⟨fun q => ?_, fun dir => ?_⟩
  · by_cases hq : q = p
    · subst hq
      exact .inr ⟨hgen, hget, .inr ⟨f, hself⟩⟩
    · exact .inl (get?_put_of_ne t _ hq)
  · -- Of the names in its directory, that of the new file stands neither before nor after.
    have hhidden : ∀ name, dir ++ [name] = p → t.stands dir name = false := by
      rintro name rfl
      exact stands_eq_false (by simpa using hgen) hget
    have hstands : (t.put p (.file f)).stands dir = t.stands dir := by
      funext name
      by_cases hname : dir ++ [name] = p
      · rw [hhidden name hname]
        subst hname
        exact stands_eq_false (by simpa using hgen) (.inr ⟨f, hself⟩)
      · simp [stands, get?_put_of_ne t _ hname]
    rw [hstands]
    have hrest := filter_names_filter hhidden t.entries
    unfold names put
    rw [← hrest]
    dsimp only
    rw [List.filterMap_cons]
    split
    · rfl
    · next name hname =>
      have hplace : dir ++ [name] = p := place_of_listed hname
      rw [List.filter_cons_of_neg (by simp [hhidden name hplace])]

/-! ### Following a path in alike trees -/

/-- Does the error mean that nothing is there? -/
def Absence (e : Errno) : Prop := e = .noEntry ∨ e = .notDirectory

/-- The answers are the same, or both that nothing is there. -/
inductive Agree {α : Type} : Except Errno α → Except Errno α → Prop
  | same (r : Except Errno α) : Agree r r
  | absent {e e' : Errno} : Absence e → Absence e' → Agree (.error e) (.error e')

theorem Agree.bind {α β : Type} {r r' : Except Errno α} (h : Agree r r')
    (f : α → Except Errno β) : Agree (r >>= f) (r' >>= f) := by
  cases h with
  | same r => exact .same _
  | absent he he' => exact .absent he he'

theorem Agree.error {α : Type} {r r' : Except Errno α} (h : Agree r r') {e : Errno}
    (hr : r = .error e) : ∃ e', r' = .error e' := by
  cases h with
  | same r => exact ⟨e, hr⟩
  | absent => exact ⟨_, rfl⟩

theorem Agree.ok {α : Type} {r r' : Except Errno α} (h : Agree r r') {a : α} (hr : r = .ok a) :
    r' = .ok a := by
  cases h with
  | same r => exact hr
  | absent => cases hr

/-- Nothing is found below a name that is no directory's. -/
theorem walk_below_file {t : Tree} {followLast : Bool} {links : Nat} {start : Place}
    {name : String} {rest : List String} (hname : name ≠ "..")
    (hsize : ¬maxNameBytes < name.utf8ByteSize) (hrest : rest ≠ [])
    (hget : FileOrNone (t.get? (start ++ [name]))) :
    ∃ e, Absence e ∧ t.walk followLast links start (name :: rest) = .error e := by
  rcases hget with hnone | ⟨f, hfile⟩
  · refine ⟨.noEntry, .inl rfl, ?_⟩
    rw [walk, if_neg hsize, hnone]
    · exact if_neg hrest
    · exact hname
  · refine ⟨.notDirectory, .inr rfl, ?_⟩
    rw [walk, if_neg hsize, hfile]
    · exact if_neg hrest
    · exact hname

namespace Alike

variable {t t' : Tree}

/-- **Names are followed alike** if the last one is not that of a generated
    file. -/
theorem walk (h : t.Alike t') (ht : t.Linkless) {followLast : Bool} {links : Nat} {start : Place}
    {names : List String} (hlast : Place.isGenerated names = false) :
    Agree (t.walk followLast links start names) (t'.walk followLast links start names) := by
  -- Any name but the last may be that of a generated file: then nothing is below it in either tree.
  induction names generalizing start with
  | nil =>
    rw [Tree.walk, Tree.walk]
    exact .same _
  | cons name rest ih =>
    have hrest : Place.isGenerated rest = false := by
      cases rest with
      | nil => exact Place.isGenerated_nil
      | cons => simpa [Place.isGenerated] using hlast
    by_cases hname : name = ".."
    · subst hname
      rw [Tree.walk, Tree.walk]
      exact ih hrest
    by_cases hsize : maxNameBytes < name.utf8ByteSize
    · rw [Tree.walk, Tree.walk, if_pos hsize, if_pos hsize]
      · exact .same _
      · exact hname
      · exact hname
    rcases h.get? (start ++ [name]) with hsame | ⟨hgen, hfile, hfile'⟩
    · rw [Tree.walk, Tree.walk, if_neg hsize, if_neg hsize, hsame]
      · cases hget : t.get? (start ++ [name]) with
        | none => exact .same _
        | some e =>
          cases e with
          | dir => exact ih hrest
          | file f => exact .same _
          | link target => exact absurd hget (ht _ _)
      · exact hname
      · exact hname
    · -- A generated file on the way: nothing is below it.
      have hmore : rest ≠ [] := by
        rintro rfl
        rw [Place.isGenerated_append] at hgen
        simp [Place.isGenerated, hgen] at hlast
      obtain ⟨e, he, hwalk⟩ := walk_below_file hname hsize hmore hfile
      obtain ⟨e', he', hwalk'⟩ := walk_below_file hname hsize hmore hfile'
      rw [hwalk, hwalk']
      exact .absent he he'

theorem resolve (h : t.Alike t') (ht : t.Linkless) {start : Place} {followLast : Bool}
    {path : String} (hlast : (Path.ofString path).isGenerated = false) :
    Agree (t.resolve start followLast path) (t'.resolve start followLast path) := by
  rw [resolve_eq, resolve_eq]
  split
  · exact .same _
  split
  · exact .same _
  · exact (h.walk ht hlast).bind _

/-- **A directory is found in both** trees or in neither. -/
theorem entryAt_dir (h : t.Alike t') (ht : t.Linkless) {start dir : Place} {path : String}
    (hentry : t.entryAt start true path = .ok (dir, .dir)) :
    t'.entryAt start true path = .ok (dir, .dir) := by
  have hresolve := resolve_of_entryAt hentry
  have hwalk' := (h.leads ht (ht.leads_of_entryAt hentry)).walk_eq
  have hresolve' : t'.resolve start true path = .ok (.occupied dir .dir) := by
    rw [resolve_eq] at hresolve ⊢
    split
    · next hempty => simp [hempty] at hresolve
    split
    · next hempty hsize => simp [hempty, hsize] at hresolve
    · rw [Bool.true_or, hwalk']
      rfl
  unfold Tree.entryAt
  rw [hresolve']
  rfl

end Alike

/-- The path may mean a generated file: it has such a name, and is no
    directory's. -/
def NamesGenerated (t : Tree) (start : Place) (path : String) : Prop :=
  (Path.ofString path).isGenerated = true ∧ ∀ dir, t.entryAt start true path ≠ .ok (dir, .dir)

namespace Alike

variable {t t' : Tree}

/-- **Paths that name no generated file** lead to the same entries. -/
theorem entryAt (h : t.Alike t') (ht : t.Linkless) {start : Place} {path : String}
    (hpath : ¬t.NamesGenerated start path) :
    Agree (t.entryAt start true path) (t'.entryAt start true path) := by
  by_cases hlast : (Path.ofString path).isGenerated = true
  · by_cases hdir : ∃ dir, t.entryAt start true path = .ok (dir, .dir)
    · obtain ⟨dir, hdir⟩ := hdir
      rw [hdir, h.entryAt_dir ht hdir]
      exact .same _
    · exact absurd ⟨hlast, fun dir hentry => hdir ⟨dir, hentry⟩⟩ hpath
  · exact (h.resolve ht (by simpa using hlast)).bind _

end Alike

/-! ### Looking at alike trees -/

/-- What is found is there, or is a directory that the path goes through. -/
theorem walk_occupied {t : Tree} {followLast : Bool} {links : Nat} {start p : Place}
    {names : List String} {e : Entry}
    (h : t.walk followLast links start names = .ok (.occupied p e)) :
    e = .dir ∨ t.get? p = some e := by
  fun_induction Tree.walk t followLast links start names with
  | case1 =>
    cases h
    exact .inl rfl
  | case2 _ _ _ ih => exact ih h
  | case6 _ _ _ _ _ _ _ ih => exact ih h
  | case7 _ _ _ _ _ _ hget =>
    cases h
    exact .inr hget
  | case9 _ _ _ _ _ _ _ hget =>
    cases h
    exact .inr hget
  | case11 _ _ _ _ _ _ _ _ _ _ ih => exact ih h
  | _ => cases h

/-- An entry that a path leads to is there, or is a directory that the path goes
    through. -/
theorem of_entryAt_ok {t : Tree} {start p : Place} {followLast : Bool} {path : String} {e : Entry}
    (h : t.entryAt start followLast path = .ok (p, e)) : e = .dir ∨ t.get? p = some e :=
  walk_occupied (walk_of_resolve (resolve_of_entryAt h))

/-- Without links no path leads to one. -/
theorem Linkless.lstat {t : Tree} (ht : t.Linkless) (start : Place) (path target : String) :
    t.lstat start path ≠ .ok (.link target) := by
  intro h
  unfold Tree.lstat aboutPath at h
  split at h
  · cases h
  cases hentry : t.entryAt start false path with
  | error e =>
    rw [hentry] at h
    cases h
  | ok found =>
    obtain ⟨p, e⟩ := found
    rw [hentry] at h
    cases h
    rcases of_entryAt_ok hentry with hdir | hlink
    · cases hdir
    · exact ht p target hlink

/-- Without links nothing looks like one. -/
theorem Linkless.looksLink {t : Tree} (ht : t.Linkless) (start : Place) (path : String) :
    t.looksLink start path = false := by
  unfold Tree.looksLink
  split
  · next target h => exact absurd h (ht.lstat start path target)
  · rfl

/-- The names of a directory are in rising order. -/
theorem pairwise_mergeSort_names (names : List String) :
    (names.mergeSort Text.precedes).Pairwise fun a b => Text.precedes a b = true := by
  have htrans : ∀ a b c : String, Text.precedes a b = true → Text.precedes b c = true →
      Text.precedes a c = true := by
    intro a b c hab hbc
    exact Text.precedes_trans hab hbc
  exact List.pairwise_mergeSort htrans Text.precedes_total names

/-- The same names are sorted into the same list. -/
theorem eq_mergeSort_names {l names : List String}
    (hsorted : l.Pairwise fun a b => Text.precedes a b = true) (hperm : l.Perm names) :
    l = names.mergeSort Text.precedes := by
  refine List.Perm.eq_of_pairwise ?_ hsorted (pairwise_mergeSort_names names)
    (hperm.trans (List.mergeSort_perm _ _).symm)
  intro a b _ _ hab hba
  exact Text.precedes_antisymm hab hba

/-- Left out of a sorted list, or sorted after it was left out. -/
theorem filter_mergeSort (P : String → Bool) (names : List String) :
    (names.mergeSort Text.precedes).filter P = (names.filter P).mergeSort Text.precedes :=
  eq_mergeSort_names ((pairwise_mergeSort_names names).filter P)
    ((List.mergeSort_perm names _).filter P)

namespace Alike

variable {t t' : Tree} {start : Place} {path : String}

/-- What a program is told about a path, in alike trees: the same, or that
    nothing is there. -/
theorem stat (h : t.Alike t') (ht : t.Linkless) (hpath : ¬t.NamesGenerated start path) :
    t'.stat start path = t.stat start path ∨
      ∃ e e', Absence e ∧ Absence e' ∧ t.stat start path = .error (.os e [path]) ∧
        t'.stat start path = .error (.os e' [path]) := by
  unfold Tree.stat aboutPath
  cases refusal? path with
  | some f => exact .inl rfl
  | none =>
    have hagree := h.entryAt ht hpath
    generalize t.entryAt start true path = r, t'.entryAt start true path = r' at hagree
    cases hagree with
    | same r => exact .inl rfl
    | absent he he' => exact .inr ⟨_, _, he, he', rfl, rfl⟩

theorem holds (h : t.Alike t') (ht : t.Linkless) (hpath : ¬t.NamesGenerated start path)
    (p : Entry → Bool) : t'.holds start path p = t.holds start path p := by
  unfold Tree.holds
  rcases h.stat ht hpath with hsame | ⟨e, e', he, he', hstat, hstat'⟩
  · rw [hsame]
  · rw [hstat, hstat']
    rcases he with rfl | rfl <;> rcases he' with rfl | rfl <;> rfl

theorem looksDir (h : t.Alike t') (ht : t.Linkless) (hpath : ¬t.NamesGenerated start path) :
    t'.looksDir start path = t.looksDir start path := by
  unfold Tree.looksDir
  rcases h.stat ht hpath with hsame | ⟨e, e', -, -, hstat, hstat'⟩
  · rw [hsame]
  · rw [hstat, hstat']

/-- A file is read alike, or not at all. -/
theorem readFile (h : t.Alike t') (ht : t.Linkless) (hpath : ¬t.NamesGenerated start path) :
    t'.readFile start path = t.readFile start path ∨
      ∃ e e', Absence e ∧ Absence e' ∧ t.readFile start path = .error (.os e [path]) ∧
        t'.readFile start path = .error (.os e' [path]) := by
  unfold Tree.readFile
  rcases h.stat ht hpath with hsame | ⟨e, e', he, he', hstat, hstat'⟩
  · rw [hsame]
    exact .inl rfl
  · rw [hstat, hstat']
    exact .inr ⟨e, e', he, he', rfl, rfl⟩

theorem sortedNames (h : t.Alike t') (dir : Place) :
    (t'.sortedNames dir).filter (t'.stands dir) = (t.sortedNames dir).filter (t.stands dir) := by
  unfold Tree.sortedNames
  rw [filter_mergeSort, filter_mergeSort, h.names]

end Alike

/-- What a walk of the tree keeps of a directory's entries: directories, and
    files that are not generated. -/
def keeps (e : String × Bool) : Bool := e.2 || !SinkName.isGenerated e.1

/-- The entries of a directory: a link to a directory counts as one. -/
theorem scan_of_entryAt {t : Tree} {start p : Place} {dir : Path}
    (hgiven : refusal? dir.toString = none)
    (hentry : t.entryAt start true dir.toString = .ok (p, .dir)) :
    t.scan start dir = .ok ((t.sortedNames p).map fun name =>
      (name,
        match t.get? (p ++ [name]) with
        | some .dir => true
        | some (.link _) => t.looksDir start (dir.child name).toString
        | _ => false)) := by
  unfold scan aboutPath
  rw [hgiven, hentry]
  rfl

/-- The entries of a directory, without links. -/
theorem Linkless.scan_eq {t : Tree} (ht : t.Linkless) {start p : Place} {dir : Path}
    (hgiven : refusal? dir.toString = none)
    (hentry : t.entryAt start true dir.toString = .ok (p, .dir)) :
    t.scan start dir =
      .ok ((t.sortedNames p).map fun name => (name, t.get? (p ++ [name]) == some .dir)) := by
  rw [scan_of_entryAt hgiven hentry]
  congr 1
  refine List.map_congr_left fun name _ => ?_
  cases hget : t.get? (p ++ [name]) with
  | none => rfl
  | some e =>
    cases e with
    | dir => rfl
    | file f => rfl
    | link target => exact absurd hget (ht _ _)

/-- A directory whose entries are listed is there. -/
theorem of_scan_ok {t : Tree} {start : Place} {dir : Path} {entries : List (String × Bool)}
    (h : t.scan start dir = .ok entries) :
    refusal? dir.toString = none ∧ ∃ p, t.entryAt start true dir.toString = .ok (p, .dir) := by
  unfold scan aboutPath at h
  cases hgiven : refusal? dir.toString with
  | some f =>
    rw [hgiven] at h
    cases h
  | none =>
    refine ⟨rfl, ?_⟩
    rw [hgiven] at h
    cases hentry : t.entryAt start true dir.toString with
    | error e =>
      rw [hentry] at h
      cases h
    | ok found =>
      obtain ⟨p, e⟩ := found
      rw [hentry] at h
      cases e with
      | dir => exact ⟨p, rfl⟩
      | file f => cases h
      | link target => cases h

/-- **A directory lists the same entries** in alike trees, generated files left
    out. -/
theorem Alike.scan {t t' : Tree} (h : t.Alike t') (ht : t.Linkless) {start : Place} {dir : Path}
    {entries : List (String × Bool)} (hscan : t.scan start dir = .ok entries) :
    ∃ entries', t'.scan start dir = .ok entries' ∧ entries'.filter keeps = entries.filter keeps := by
  obtain ⟨hgiven, p, hentry⟩ := of_scan_ok hscan
  have hlisted := ht.scan_eq hgiven hentry
  rw [hscan] at hlisted
  cases hlisted
  refine ⟨_, (h.linkless ht).scan_eq hgiven (h.entryAt_dir ht hentry), ?_⟩
  -- What is kept of a listing is what stands in the directory.
  have hkept : ∀ s : Tree,
      ((s.sortedNames p).map fun name => (name, s.get? (p ++ [name]) == some .dir)).filter keeps =
        ((s.sortedNames p).filter (s.stands p)).map
          fun name => (name, s.get? (p ++ [name]) == some .dir) := by
    intro s
    rw [List.filter_map]
    congr 2
    funext name
    simp [keeps, stands, Bool.or_comm]
  rw [hkept, hkept, h.sortedNames]
  refine List.map_congr_left fun name _ => ?_
  congr 1
  have hiff : t'.get? (p ++ [name]) = some .dir ↔ t.get? (p ++ [name]) = some .dir :=
    ⟨h.symm.get?_eq_dir, h.get?_eq_dir⟩
  rw [Bool.eq_iff_iff]
  simpa using hiff

end Tree

end SinkPipeline
