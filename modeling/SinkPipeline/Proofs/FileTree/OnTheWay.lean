import SinkPipeline.Proofs.FileTree.Making

/-! # The directories that are made

  Making the directories of a path asks for one directory after the other, each
  by a beginning of the path.  So whatever comes to be in the tree lies **on the
  way**: a beginning of the path leads to it.  This holds however far the making
  gets, and whatever the path goes through: links, and names that go up.

  - `makesOnWay_makeDir`: one directory is made at the end of its own path.
  - `MakesOnWay.trans`: what has been made stays on the way.
  - `makesOnWay_makeDirs`: all directories of a path, by induction over its names.
-/

namespace SinkPipeline.Tree

/-- Some beginning of a path leads to the directory. -/
def OnWay (t : Tree) (start : Place) (p : Path) (q : Place) : Prop :=
  ∃ front left, front <+: p.parts ∧ t.Leads maxLinks (origin start p) front left q

/-- The second tree is the first with directories where nothing was, and all of
    them are on the way of a path. -/
def MakesOnWay (t t' : Tree) (start : Place) (p : Path) : Prop :=
  ∀ q, t'.get? q = t.get? q ∨
    t.get? q = none ∧ t'.get? q = some .dir ∧ t'.OnWay start p q

section

variable {t t' t'' : Tree} {start : Place} {p : Path}

theorem MakesOnWay.refl (t : Tree) (start : Place) (p : Path) : t.MakesOnWay t start p :=
  fun _ => .inl rfl

/-- They are directories where nothing was. -/
theorem MakesOnWay.addsDirs (h : t.MakesOnWay t' start p) : t.AddsDirs t' := by
  intro q
  rcases h q with hsame | ⟨hnone, hdir, _⟩
  · exact .inl hsame
  · exact .inr ⟨hnone, hdir⟩

/-- **More directories** on the same way. -/
theorem MakesOnWay.trans (h : t.MakesOnWay t' start p) (h' : t'.MakesOnWay t'' start p) :
    t.MakesOnWay t'' start p := by
  intro q
  rcases h' q with hsame | ⟨hnone, hdir, hway⟩
  · rcases h q with hbefore | ⟨hnone, hdir, front, left, hfront, hleads⟩
    · exact .inl (hsame.trans hbefore)
    · -- The way there is the same one, with more directories beside it.
      exact .inr ⟨hnone, hsame.trans hdir, front, left, hfront, h'.addsDirs.leads hleads⟩
  · rcases h q with hbefore | ⟨_, hthere, _⟩
    · exact .inr ⟨hbefore ▸ hnone, hdir, hway⟩
    · rw [hthere] at hnone
      cases hnone

/-- A path without parts is where it starts, and a directory is there. -/
theorem makeDir_ne_ok_of_parts {front : Path} (hfront : front.WellFormed) (hnil : front.parts = []) :
    t.makeDir start front.toString ≠ .ok t' := by
  intro h
  obtain ⟨-, hmade⟩ := of_aboutPath_ok h
  cases hresolve : t.resolve start false front.toString with
  | error e =>
    rw [hresolve] at hmade
    cases hmade
  | ok found =>
    cases found with
    | occupied q e =>
      rw [hresolve] at hmade
      cases hmade
    | vacant q =>
      have hwalk := walk_of_resolve hresolve
      rw [Path.ofString_toString hfront, hnil, walk] at hwalk
      cases hwalk

/-- **Where a directory is made**: in the one that the names above lead to, under a
    name that is free. -/
theorem exists_of_makeDir_ok {above : Path} {name : String} (hpath : (above.child name).WellFormed)
    (h : t.makeDir start (above.child name).toString = .ok t') :
    ∃ left dir, t.Leads maxLinks (origin start above) above.parts left dir ∧
      name ≠ ".." ∧ ¬maxNameBytes < name.utf8ByteSize ∧ t.get? (dir ++ [name]) = none ∧
      t' = t.put (dir ++ [name]) .dir := by
  obtain ⟨-, hmade⟩ := of_aboutPath_ok h
  have habove := hpath.parent
  rw [Path.parent_child] at habove
  rw [resolve_child t start false habove hpath.isPart] at hmade
  split at hmade
  · cases hmade
  cases hwalk : t.walk false maxLinks (origin start above) (above.parts ++ [name]) with
  | error e =>
    rw [hwalk] at hmade
    cases hmade
  | ok found =>
    rw [hwalk] at hmade
    obtain ⟨left, dir, hleads, hlast⟩ := leads_of_walk_append (by simp) hwalk
    -- A last name that goes up leads to a directory that is there already.
    have hup : name ≠ ".." := by
      rintro rfl
      rw [walk, walk] at hlast
      cases hlast
      cases hmade
    obtain ⟨hshort, hfound⟩ := walk_single hup hlast
    rcases hfound with ⟨rfl, hvacant⟩ | ⟨e, rfl, _⟩
    · cases hmade
      exact ⟨left, dir, hleads, hup, hshort, hvacant, rfl⟩
    · cases hmade

/-- **One directory** is made at the end of its own path. -/
theorem makesOnWay_makeDir {front : Path} (hfront : front.WellFormed)
    (hanchor : front.anchor = p.anchor) (hparts : front.parts <+: p.parts)
    (h : t.makeDir start front.toString = .ok t') : t.MakesOnWay t' start p := by
  have horigin : origin start front = origin start p := by simp [origin, Path.isAbsolute, hanchor]
  rcases Path.parts_eq_nil_or_child front with hnil | ⟨name, hchild⟩
  · exact absurd h (makeDir_ne_ok_of_parts hfront hnil)
  rw [hchild] at hfront h
  obtain ⟨left, dir, hleads, hup, hshort, hvacant, rfl⟩ := exists_of_makeDir_ok hfront h
  -- The way to the directory above is the same one, and goes on to the new one.
  have hsame := (addsDirs_put hvacant).leads hleads
  have hself := get?_put_self t .dir (show dir ++ [name] ≠ [] by simp)
  have hway := hsame.append (.down hup hshort hself .here)
  intro q
  by_cases hq : q = dir ++ [name]
  · subst hq
    refine .inr ⟨hvacant, hself, front.parts, left, hparts, ?_⟩
    rw [← horigin, hchild]
    exact hway
  · exact .inl (get?_put_of_ne t _ hq)

theorem makesOnWay_ensureDir {front : Path} (hfront : front.WellFormed)
    (hanchor : front.anchor = p.anchor) (hparts : front.parts <+: p.parts)
    (h : t.ensureDir start front.toString = .ok t') : t.MakesOnWay t' start p := by
  unfold ensureDir at h
  cases hmake : t.makeDir start front.toString with
  | ok made =>
    rw [hmake] at h
    cases h
    exact makesOnWay_makeDir hfront hanchor hparts hmake
  | error f =>
    -- Nothing was made: if there is a directory, it was there before.
    have hsame : t' = t := by
      rw [hmake] at h
      dsimp only at h
      split at h
      · cases hdir : t.isDir? start front.toString with
        | error g =>
          rw [hdir] at h
          cases h
        | ok there =>
          rw [hdir] at h
          cases there <;> cases h
          rfl
      · cases h
    rw [hsame]
    exact .refl t start p

/-- One directory, made or not. -/
theorem makesOnWay_once {front : Path} (hfront : front.WellFormed)
    (hanchor : front.anchor = p.anchor) (hparts : front.parts <+: p.parts) :
    t.MakesOnWay
      (match t.ensureDir start front.toString with
        | .ok t' => (t', (.ok () : Except Fault Unit))
        | .error f => (t, .error f)).1 start p := by
  cases h : t.ensureDir start front.toString with
  | ok t' => exact makesOnWay_ensureDir hfront hanchor hparts h
  | error f => exact .refl t start p

/-- The directories of a beginning of a path, whose names are in reverse order. -/
theorem makesOnWay_ensureDirs (hp : p.WellFormed) (reversed : List String)
    (hparts : reversed.reverse <+: p.parts) :
    t.MakesOnWay (t.ensureDirs start p.anchor reversed).1 start p := by
  have hfront : ∀ names, names <+: p.parts → (Path.mk p.anchor names).WellFormed :=
    fun names hnames part hpart => hp part (hnames.subset hpart)
  have honce : ∀ (t : Tree) (names : List String), names <+: p.parts →
      t.MakesOnWay
        (match t.ensureDir start (Path.mk p.anchor names).toString with
          | .ok t' => (t', (.ok () : Except Fault Unit))
          | .error f => (t, .error f)).1 start p :=
    fun t names hnames => makesOnWay_once (hfront names hnames) rfl hnames
  induction reversed with
  | nil =>
    rw [ensureDirs]
    · exact honce t _ hparts
    · simp
  | cons name above ih =>
    have habove : above.reverse <+: p.parts := by
      rw [List.reverse_cons] at hparts
      exact (List.prefix_append above.reverse [name]).trans hparts
    have hrest := ih habove
    unfold ensureDirs
    dsimp only
    split
    · next hmake hnames =>
      -- Those above are made first.
      cases hnames
      split
      · next _ made hmade =>
        rw [hmade] at hrest
        exact hrest.trans (honce made _ hparts)
      · next _ made f hmade =>
        rw [hmade] at hrest
        exact hrest
    · exact honce t _ hparts

/-- **Making the directories of a path** makes directories on its way, whether it
    succeeds or not. -/
theorem makesOnWay_makeDirs (t : Tree) (start : Place) (hp : p.WellFormed) :
    t.MakesOnWay (t.makeDirs start p).1 start p := by
  unfold makeDirs
  have hall : p.parts.reverse.reverse <+: p.parts := by simp
  exact makesOnWay_ensureDirs hp _ hall

end

end SinkPipeline.Tree
