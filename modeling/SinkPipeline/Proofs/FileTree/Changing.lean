import SinkPipeline.FileTree.Access
import SinkPipeline.Proofs.FileTree.Following

/-! # What changes a tree

  Three operations change a tree while a file is written.  Each is known by
  what it does to the tree as a whole:

  - **making directories** adds directories where nothing was, also when it
    fails;
  - **beginning a file** under a name that its directory does not have puts an
    empty file there;
  - **renaming** moves it onto the last name of a path, in the directory that
    the names before it lead to.
-/

namespace SinkPipeline.Tree

/-! ### Putting and erasing -/

theorem put_put (t : Tree) (p : Place) (e e' : Entry) : (t.put p e).put p e' = t.put p e' := by
  simp [put]

theorem ne_of_findEntry_eq_none {p : Place} {es : List (Place × Entry)}
    (h : findEntry p es = none) : ∀ e ∈ es, e.1 ≠ p := by
  induction es with
  | nil => simp
  | cons e es ih =>
    rw [findEntry] at h
    by_cases he : e.1 = p
    · simp [he] at h
    · rw [if_neg he] at h
      intro q hq
      rcases List.mem_cons.mp hq with rfl | hq
      · exact he
      · exact ih h q hq

/-- What was put at a vacant place is taken away without a trace. -/
theorem erase_put_of_vacant {t : Tree} {p : Place} (e : Entry) (h : t.get? p = none) :
    (t.put p e).erase p = t := by
  have hp : p ≠ [] := by
    rintro rfl
    simp at h
  have hfind : findEntry p t.entries = none := by simpa [get?, hp] using h
  have hkept : t.entries.filter (·.1 ≠ p) = t.entries :=
    List.filter_eq_self.mpr fun e he => by simpa using ne_of_findEntry_eq_none hfind e he
  unfold put erase
  simp only [ne_eq, decide_not] at hkept
  simp [hkept]

/-! ### Names -/

/-- A directory has the names of its entries. -/
theorem mem_names_of_get? {t : Tree} {dir : Place} {name : String} {e : Entry}
    (h : t.get? (dir ++ [name]) = some e) : name ∈ t.names dir := by
  have hfind : findEntry (dir ++ [name]) t.entries = some e := by simpa [get?] using h
  have hmem : ∀ es : List (Place × Entry), findEntry (dir ++ [name]) es = some e →
      (dir ++ [name], e) ∈ es := by
    intro es
    induction es with
    | nil => simp [findEntry]
    | cons q es ih =>
      rw [findEntry]
      split
      · next hq => rintro ⟨rfl⟩; simp [← hq]
      · intro hrest
        exact List.mem_cons_of_mem _ (ih hrest)
  exact List.mem_filterMap.mpr ⟨_, hmem _ hfind, by simp⟩

/-- Something has each name of a directory. -/
theorem get?_ne_none_of_mem_names {t : Tree} {dir : Place} {name : String}
    (h : name ∈ t.names dir) : t.get? (dir ++ [name]) ≠ none := by
  intro hnone
  have hfind : findEntry (dir ++ [name]) t.entries = none := by simpa [get?] using hnone
  obtain ⟨q, hq, hlast⟩ := List.mem_filterMap.mp h
  split at hlast
  · next hfront =>
    obtain ⟨front, hfront'⟩ := List.getLast?_eq_some_iff.mp hlast
    refine ne_of_findEntry_eq_none hfind q hq ?_
    rw [← hfront, hfront', List.dropLast_concat]
  · cases hlast

/-- A name that a directory does not have is vacant. -/
theorem get?_eq_none_of_not_mem_names {t : Tree} {dir : Place} {name : String}
    (h : name ∉ t.names dir) : t.get? (dir ++ [name]) = none := by
  match hget : t.get? (dir ++ [name]) with
  | none => rfl
  | some e => exact absurd (mem_names_of_get? hget) h

/-! ### Making directories -/

/-- The second tree is the first with directories where nothing was. -/
def AddsDirs (t t' : Tree) : Prop :=
  ∀ p, t'.get? p = t.get? p ∨ t.get? p = none ∧ t'.get? p = some .dir

theorem AddsDirs.refl (t : Tree) : t.AddsDirs t := fun _ => .inl rfl

theorem AddsDirs.trans {t t' t'' : Tree} (h : t.AddsDirs t') (h' : t'.AddsDirs t'') :
    t.AddsDirs t'' := by
  intro p
  rcases h' p with hsame | ⟨hnone, hdir⟩
  · rw [hsame]
    exact h p
  · rcases h p with hsame | ⟨-, hdir'⟩
    · exact .inr ⟨hsame ▸ hnone, hdir⟩
    · rw [hdir'] at hnone
      cases hnone

/-- A path that is followed to a vacant place: nothing is there. -/
theorem walk_vacant {t : Tree} {followLast : Bool} {links : Nat} {start p : Place}
    {names : List String} (h : t.walk followLast links start names = .ok (.vacant p)) :
    t.get? p = none := by
  fun_induction walk t followLast links start names with
  | case2 _ _ _ ih => exact ih h
  | case4 _ _ _ _ _ hget =>
    cases h
    exact hget
  | case6 _ _ _ _ _ _ _ ih => exact ih h
  | case11 _ _ _ _ _ _ _ _ _ _ ih => exact ih h
  | _ => cases h

theorem resolve_vacant {t : Tree} {followLast : Bool} {start p : Place} {path : String}
    (h : t.resolve start followLast path = .ok (.vacant p)) : t.get? p = none :=
  walk_vacant (walk_of_resolve h)

/-- What the operating system answers is passed on. -/
theorem of_aboutPath_ok {α : Type} {path : String} {r : Except Errno α} {v : α}
    (h : aboutPath path r = .ok v) : refusal? path = none ∧ r = .ok v := by
  unfold aboutPath at h
  split at h
  · cases h
  · next hgiven =>
    match r with
    | .error e => cases h
    | .ok w =>
      cases h
      exact ⟨hgiven, rfl⟩

/-- What a path is seen to be is the entry that it leads to. -/
theorem entryAt_of_stat {t : Tree} {start : Place} {path : String} {e : Entry}
    (h : t.stat start path = .ok e) :
    refusal? path = none ∧ ∃ p, t.entryAt start true path = .ok (p, e) := by
  obtain ⟨hgiven, hentry⟩ := of_aboutPath_ok h
  refine ⟨hgiven, ?_⟩
  cases hfound : t.entryAt start true path with
  | error e' =>
    rw [hfound] at hentry
    cases hentry
  | ok found =>
    rw [hfound] at hentry
    cases hentry
    exact ⟨found.1, rfl⟩

/-- A string that cannot be handed over is a value that cannot be used. -/
theorem of_refusal? {s : String} {f : Fault} (h : refusal? s = some f) :
    ∃ kind message, f = .plain kind message ∧ (kind = .value ∨ kind = .encoding) := by
  unfold refusal? Fault.ofSystemText? Fault.ofSurrogates? at h
  rcases Option.or_eq_some_iff.mp h with htext | ⟨-, hnul⟩
  · obtain ⟨found, -, rfl⟩ := Option.map_eq_some_iff.mp htext
    exact ⟨.encoding, _, rfl, .inr rfl⟩
  · split at hnul
    · cases hnul
      exact ⟨.value, _, rfl, .inl rfl⟩
    · cases hnul

/-- A fault about a path is that of the operating system, or the path cannot be
    handed over. -/
theorem of_aboutPath_error {α : Type} {path : String} {r : Except Errno α} {f : Fault}
    (h : aboutPath path r = .error f) :
    (∃ e, r = .error e ∧ f = .os e [path]) ∨ refusal? path = some f := by
  unfold aboutPath at h
  split at h
  · next g hgiven =>
    cases h
    exact .inr hgiven
  · cases r with
    | ok v => cases h
    | error e =>
      cases h
      exact .inl ⟨e, rfl, rfl⟩

/-- A directory is made where nothing was. -/
theorem makeDir_ok {t t' : Tree} {start : Place} {path : String}
    (h : t.makeDir start path = .ok t') : ∃ p, t.get? p = none ∧ t' = t.put p .dir := by
  obtain ⟨-, hmade⟩ := of_aboutPath_ok h
  match hresolve : t.resolve start false path with
  | .error e =>
    rw [hresolve] at hmade
    cases hmade
  | .ok (.occupied p e) =>
    rw [hresolve] at hmade
    cases hmade
  | .ok (.vacant p) =>
    rw [hresolve] at hmade
    cases hmade
    exact ⟨p, resolve_vacant hresolve, rfl⟩

theorem addsDirs_put {t : Tree} {p : Place} (h : t.get? p = none) : t.AddsDirs (t.put p .dir) := by
  intro q
  by_cases hq : q = p
  · subst hq
    have hroot : q ≠ [] := by
      rintro rfl
      simp at h
    exact .inr ⟨h, get?_put_self t _ hroot⟩
  · exact .inl (get?_put_of_ne t _ hq)

theorem ensureDir_addsDirs {t t' : Tree} {start : Place} {path : String}
    (h : t.ensureDir start path = .ok t') : t.AddsDirs t' := by
  unfold ensureDir at h
  match hmake : t.makeDir start path with
  | .ok made =>
    rw [hmake] at h
    cases h
    obtain ⟨p, hvacant, rfl⟩ := makeDir_ok hmake
    exact addsDirs_put hvacant
  | .error f =>
    rw [hmake] at h
    simp only at h
    split at h
    · match hdir : t.isDir? start path with
      | .error g =>
        rw [hdir] at h
        cases h
      | .ok true =>
        rw [hdir] at h
        cases h
        exact .refl t
      | .ok false =>
        rw [hdir] at h
        cases h
    · cases h

/-- One directory, made or not. -/
theorem addsDirs_once (t : Tree) (start : Place) (path : String) :
    t.AddsDirs
      (match t.ensureDir start path with
        | .ok t' => (t', (.ok () : Except Fault Unit))
        | .error f => (t, .error f)).1 := by
  match h : t.ensureDir start path with
  | .ok t' => exact ensureDir_addsDirs h
  | .error f => exact .refl t

theorem ensureDirs_addsDirs (t : Tree) (start : Place) (anchor : Anchor) (reversed : List String) :
    t.AddsDirs (t.ensureDirs start anchor reversed).1 := by
  induction reversed with
  | nil =>
    rw [ensureDirs]
    · exact addsDirs_once t start _
    · simp
  | cons name above ih =>
    unfold ensureDirs
    dsimp only
    split
    · next hmake hnames =>
      cases hnames
      split
      · next _ made habove =>
        rw [habove] at ih
        exact ih.trans (addsDirs_once made start _)
      · next _ made f habove =>
        rw [habove] at ih
        exact ih
    · exact addsDirs_once t start _

/-- **Making directories only adds directories**, whether it succeeds or not. -/
theorem makeDirs_addsDirs (t : Tree) (start : Place) (p : Path) :
    t.AddsDirs (t.makeDirs start p).1 :=
  ensureDirs_addsDirs t start _ _

/-- The path can be handed over, and ends in a name that is not too long. -/
def Nameable (target : Path) (name : String) : Prop :=
  target = target.parent.child name ∧ name ≠ ".." ∧ refusal? target.toString = none ∧
    ¬maxPathBytes < target.toString.utf8ByteSize ∧ ¬maxNameBytes < name.utf8ByteSize

/-! ### Beginning a file -/

/-- **A file begun under a fresh name** in the directory that a path leads to:
    an empty file where nothing was. -/
theorem createFile_ok {t t' : Tree} {start place : Place} {p : Path} {name : String} {now : Nat}
    (hp : p.WellFormed) (hname : Path.IsPart name) (hup : name ≠ "..")
    (hfresh : ∀ dir, t.entryAt start true p.toString = .ok (dir, .dir) → name ∉ t.names dir)
    (h : t.createFile start (p.child name).toString now = .ok (place, t')) :
    ∃ left dir, t.Leads maxLinks (origin start p) p.parts left dir ∧
      t.entryAt start true p.toString = .ok (dir, .dir) ∧ place = dir ++ [name] ∧
      t.get? place = none ∧ t' = t.put place (.file ⟨[], 0o644, now⟩) := by
  obtain ⟨-, hmade⟩ := of_aboutPath_ok h
  rw [resolve_child t start true hp hname] at hmade
  split at hmade
  · cases hmade
  next hsize =>
  match hwalk : t.walk true maxLinks (origin start p) (p.parts ++ [name]) with
  | .error e =>
    rw [hwalk] at hmade
    cases hmade
  | .ok target =>
    obtain ⟨left, dir, hleads, hlast⟩ := leads_of_walk_append (by simp) hwalk
    have hsize' : ¬maxPathBytes < p.toString.utf8ByteSize := by
      have := Path.utf8ByteSize_toString_le_child p hname.1
      omega
    have hentry := hleads.entryAt hp hsize'
    have hvacant := get?_eq_none_of_not_mem_names (hfresh dir hentry)
    have htarget : target = .vacant (dir ++ [name]) := by
      rw [walk] at hlast
      · split at hlast
        · cases hlast
        · rw [hvacant] at hlast
          simpa using hlast.symm
      · exact hup
    rw [hwalk, htarget] at hmade
    cases hmade
    exact ⟨left, dir, hleads, hentry, rfl, hvacant, rfl⟩

/-! ### Renaming -/

/-- A file is moved onto a vacant place, or onto what is no directory. -/
theorem moveOnto_ok {t t' : Tree} {start src : Place} {path : String}
    (h : t.moveOnto start src path = .ok t') :
    ∃ p, t' = (t.erase src).put p ((t.get? src).getD .dir) ∧
      (t.resolve start false path = .ok (.vacant p) ∨
        ∃ e, t.resolve start false path = .ok (.occupied p e) ∧ e ≠ .dir) := by
  unfold moveOnto at h
  match hresolve : t.resolve start false path with
  | .error e =>
    rw [hresolve] at h
    cases h
  | .ok (.vacant p) =>
    rw [hresolve] at h
    cases h
    exact ⟨p, rfl, .inl rfl⟩
  | .ok (.occupied p e) =>
    rw [hresolve] at h
    match hends : endsInName path with
    | false =>
      simp only [bind, Except.bind, hends] at h
      cases h
    | true =>
      simp only [bind, Except.bind, hends] at h
      cases e with
      | dir => cases h
      | file f =>
        cases h
        exact ⟨p, rfl, .inr ⟨_, rfl, by simp⟩⟩
      | link l =>
        cases h
        exact ⟨p, rfl, .inr ⟨_, rfl, by simp⟩⟩

/-- Following a path that can be handed over, to its last name. -/
theorem resolve_nameable {t : Tree} {start dir : Place} {left : Nat} {target : Path} {name : String}
    (htarget : target.WellFormed) (hname : Nameable target name)
    (hleads : t.Leads maxLinks (origin start target) target.parent.parts left dir)
    (followLast : Bool) :
    t.resolve start followLast target.toString = t.walk followLast left dir [name] := by
  obtain ⟨hchild, -, -, hpath, -⟩ := hname
  have hpart : Path.IsPart name := (hchild ▸ htarget).isPart
  rw [hchild] at hpath ⊢
  rw [resolve_child t start followLast htarget.parent hpart, if_neg hpath]
  exact hleads.walk_append followLast (by simp)

/-- A path that is found, but not as a directory, ends in a name that is followed
    in the directory that the names before it lead to. -/
theorem resolve_not_dir {t : Tree} {start : Place} {p : Path} {found : Target} (hp : p.WellFormed)
    (h : t.resolve start false p.toString = .ok found) (hdir : ∀ q, found ≠ .occupied q .dir) :
    ∃ left dir name, p = p.parent.child name ∧ name ≠ ".." ∧
      ¬maxPathBytes < p.toString.utf8ByteSize ∧
      t.Leads maxLinks (origin start p) p.parent.parts left dir ∧
      t.walk false left dir [name] = .ok found := by
  -- A path without names leads to a directory, and so does one that ends in `..`.
  rcases p.parts_eq_nil_or_child with hnil | ⟨name, hchild⟩
  · have hwalk := walk_of_resolve h
    rw [Path.ofString_toString hp, hnil, walk] at hwalk
    cases hwalk
    exact absurd rfl (hdir _)
  · have hname : Path.IsPart name := (hchild ▸ hp).isPart
    rw [hchild, resolve_child t start false hp.parent hname] at h
    split at h
    · cases h
    next hsize =>
    obtain ⟨left, dir, hleads, hlast⟩ := leads_of_walk_append (by simp) h
    refine ⟨left, dir, name, hchild, ?_, ?_, ?_, hlast⟩
    · rintro rfl
      rw [walk, walk] at hlast
      cases hlast
      exact absurd rfl (hdir _)
    · rwa [← hchild] at hsize
    · rw [hchild] at hleads ⊢
      exact hleads

/-- **A file renamed onto a path** is found under the path's last name, in the
    directory that the names before it lead to.  No directory was there. -/
theorem rename_ok {t t' : Tree} {start src : Place} {known : String} {target : Path}
    (htarget : target.WellFormed) (h : t.rename start src known target.toString = .ok t') :
    ∃ left dir name, Nameable target name ∧
      t.Leads maxLinks (origin start target) target.parent.parts left dir ∧
      t.get? (dir ++ [name]) ≠ some .dir ∧
      t' = (t.erase src).put (dir ++ [name]) ((t.get? src).getD .dir) := by
  unfold rename at h
  split at h
  · cases h
  next hgiven =>
  match hmove : t.moveOnto start src target.toString with
  | .error e =>
    rw [hmove] at h
    cases h
  | .ok moved =>
    rw [hmove] at h
    cases h
    -- Nothing stands at the target, or something that is no directory.
    obtain ⟨p, rfl, hvacant | ⟨e, hoccupied, hnotDir⟩⟩ := moveOnto_ok hmove
    · obtain ⟨left, dir, name, hchild, hup, hpath, hleads, hlast⟩ :=
        resolve_not_dir htarget hvacant (by simp)
      obtain ⟨hsize, ⟨hp, hget⟩ | ⟨e, hp, -⟩⟩ := walk_single hup hlast
      · cases hp
        exact ⟨left, dir, name, ⟨hchild, hup, hgiven, hpath, hsize⟩, hleads, by simp [hget], rfl⟩
      · cases hp
    · obtain ⟨left, dir, name, hchild, hup, hpath, hleads, hlast⟩ :=
        resolve_not_dir htarget hoccupied (by simpa using hnotDir)
      obtain ⟨hsize, ⟨hp, -⟩ | ⟨e', hp, hget⟩⟩ := walk_single hup hlast
      · cases hp
      · cases hp
        exact ⟨left, dir, name, ⟨hchild, hup, hgiven, hpath, hsize⟩, hleads,
          by simpa [hget] using hnotDir, rfl⟩

/-! ### When nothing stands in the way -/

/-- A file is begun under a new name. -/
theorem createFile_of_vacant {t : Tree} {start dir : Place} {left : Nat} {target : Path}
    {name : String} (htarget : target.WellFormed) (hname : Nameable target name)
    (hleads : t.Leads maxLinks (origin start target) target.parent.parts left dir)
    (hget : t.get? (dir ++ [name]) = none) (now : Nat) :
    t.createFile start target.toString now =
      .ok (dir ++ [name], t.put (dir ++ [name]) (.file ⟨[], 0o644, now⟩)) := by
  have hfound := resolve_nameable htarget hname hleads true
  obtain ⟨-, hup, hgiven, -, hsize⟩ := hname
  rw [walk_single_vacant hup hsize true hget] at hfound
  unfold createFile aboutPath
  rw [hgiven, hfound]
  rfl

/-- A file is renamed onto a name that is no directory's. -/
theorem rename_of_not_dir {t : Tree} {start dir : Place} {left : Nat} {target : Path}
    {name : String} (src : Place) (known : String) (htarget : target.WellFormed)
    (hname : Nameable target name)
    (hleads : t.Leads maxLinks (origin start target) target.parent.parts left dir)
    (hget : t.get? (dir ++ [name]) ≠ some .dir) :
    ∃ t', t.rename start src known target.toString = .ok t' := by
  have hfound := resolve_nameable htarget hname hleads false
  obtain ⟨hchild, hup, hgiven, -, hsize⟩ := hname
  have hends : endsInName target.toString = true := by
    unfold endsInName
    rw [Path.ofString_toString htarget, hchild]
    simpa [Path.child] using hup
  unfold rename moveOnto
  rw [hgiven]
  cases hentry : t.get? (dir ++ [name]) with
  | none =>
    rw [walk_single_vacant hup hsize false hentry] at hfound
    rw [hfound]
    exact ⟨_, rfl⟩
  | some e =>
    have hdir : e ≠ .dir := by
      rintro rfl
      exact hget hentry
    rw [walk_single_occupied hup hsize hentry hdir] at hfound
    rw [hfound]
    simp only [bind, Except.bind, hends]
    cases e with
    | dir => exact absurd rfl hdir
    | file f => exact ⟨_, rfl⟩
    | link l => exact ⟨_, rfl⟩

/-! ### Reading a file back -/

section

variable {t : Tree} {start dir : Place} {left : Nat} {target : Path} {name : String} {f : File}

/-- The file under the last name of a path is found by the path. -/
theorem entryAt_of_leads (htarget : target.WellFormed) (hname : Nameable target name)
    (hleads : t.Leads maxLinks (origin start target) target.parent.parts left dir)
    (hget : t.get? (dir ++ [name]) = some (.file f)) :
    t.entryAt start true target.toString = .ok (dir ++ [name], .file f) := by
  have hfound := resolve_nameable htarget hname hleads true
  obtain ⟨-, hup, -, -, hsize⟩ := hname
  rw [walk_single_file hup hsize true hget] at hfound
  unfold entryAt
  rw [hfound]
  rfl

/-- It is seen by the path. -/
theorem stat_of_leads (htarget : target.WellFormed) (hname : Nameable target name)
    (hleads : t.Leads maxLinks (origin start target) target.parent.parts left dir)
    (hget : t.get? (dir ++ [name]) = some (.file f)) :
    t.stat start target.toString = .ok (.file f) := by
  have hentry := entryAt_of_leads htarget hname hleads hget
  obtain ⟨-, -, hgiven, -, -⟩ := hname
  unfold stat aboutPath
  rw [hgiven, hentry]
  rfl

/-- A file in the root directory is seen by its path. -/
theorem stat_in_root {path : String} (hname : Nameable ((Path.mk .root []).child name) name)
    (hpart : Path.IsPart name) (hpath : ((Path.mk .root []).child name).toString = path)
    (hget : t.get? [name] = some (.file f)) : t.stat start path = .ok (.file f) := by
  have hroot : (Path.mk .root []).WellFormed := by
    intro part hpart
    cases hpart
  have hleads : t.Leads maxLinks [] [] maxLinks [] := .here
  rw [← hpath]
  exact stat_of_leads (hroot.child hpart) hname hleads hget

/-- It is read by the path. -/
theorem readFile_of_leads (htarget : target.WellFormed) (hname : Nameable target name)
    (hleads : t.Leads maxLinks (origin start target) target.parent.parts left dir)
    (hget : t.get? (dir ++ [name]) = some (.file f)) :
    t.readFile start target.toString = .ok f.bytes := by
  unfold readFile
  rw [stat_of_leads htarget hname hleads hget]
  rfl

end

end SinkPipeline.Tree
