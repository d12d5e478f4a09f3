import SinkPipeline.Proofs.Discovery.Gathering
import SinkPipeline.Proofs.Passing.Whole
import SinkPipeline.Proofs.Watching.Snapshots

/-! # What a snapshot sees

  A snapshot sees the sinks that a pass would find, on every machine, whatever
  links its tree holds.  It notes of each when the file was last modified that
  the sink's path leads to, and leaves out a sink whose path leads nowhere.

  Other ways of failing are not foreseen: a link that leads back to itself, or
  on through a file, is **trouble**, and the first trouble ends the snapshot.

  - `once_of_find`: a sink is given once, and is no directory.
  - `stamps_of_finds`: the snapshot of the sinks that are found, by induction on the
    discovery.
  - `stampsOf_eq_ok`, `stampsOf_eq_error`: what that snapshot is.
-/

namespace SinkPipeline

namespace Tree

variable {t : Tree} {start p : Place} {path : String} {e : Entry}

/-- A path that is followed to its end leads to no link. -/
theorem walk_followed {links : Nat} {names : List String}
    (h : t.walk true links start names = .ok (.occupied p e)) (target : String) :
    e ≠ .link target := by
  generalize hfollow : true = follow at h
  -- A walk that does not go on ends at a directory or a file, or fails.
  fun_induction Tree.walk t follow links start names with
  | case1 =>
    cases h
    simp
  | case2 _ _ _ ih => exact ih h
  | case6 _ _ _ _ _ _ _ ih => exact ih h
  | case7 =>
    cases h
    simp
  | case9 _ _ _ _ _ _ _ _ hlast =>
    have hnot := hlast.2
    rw [← hfollow] at hnot
    cases hnot
  | case11 _ _ _ _ _ _ _ _ _ _ ih => exact ih h
  | _ => cases h

/-- What can be looked at, and is no directory, is a file. -/
theorem file_of_stat (h : t.stat start path = .ok e) (hdir : t.looksDir start path = false) :
    ∃ f, e = .file f := by
  cases e with
  | file f => exact ⟨f, rfl⟩
  | dir =>
    unfold looksDir at hdir
    rw [h] at hdir
    cases hdir
  | link target =>
    obtain ⟨-, hentry⟩ := of_aboutPath_ok h
    cases hfound : t.entryAt start true path with
    | error e =>
      rw [hfound] at hentry
      cases hentry
    | ok found =>
      obtain ⟨p, e⟩ := found
      rw [hfound] at hentry
      cases hentry
      exact absurd rfl (walk_followed (walk_of_resolve (resolve_of_entryAt hfound)) target)

end Tree

namespace Pipeline

open DirectoryWalk (Visit visit visitsOf)

/-! ### Each sink once -/

section

variable {m : Machine} {c c' : SinkCursor} {s : FileSink}

/-- A file that the walk gives has not been given before, and is no directory. -/
theorem once_of_walked {e : Encountered Root FoundFile String} (h : walked m c = .item e c') :
    e.key ∉ c.seen ∧ c'.seen = e.key :: c.seen ∧ m.tree.looksDir m.home e.key = false := by
  obtain ⟨specs, current, seen⟩ := c
  match current with
  | none =>
    match specs with
    | [] => cases h
    | spec :: specs =>
      cases hroot : spec.normalize m with
      | ok root => cases (walked_root hroot).symm.trans h
      | error f => cases (walked_refused hroot).symm.trans h
  | some (root, ⟨top, []⟩) => cases h
  | some (root, ⟨top, v :: pending⟩) =>
    cases hvisit : visit m false top v pending with
    | mk f rest =>
      cases f with
      | none => cases (walked_none hvisit).symm.trans h
      | some f =>
        cases hseen : seen.contains f.path.toString with
        | true => cases (walked_seen hvisit hseen).symm.trans h
        | false =>
          cases (walked_new hvisit hseen).symm.trans h
          refine ⟨by simpa using hseen, rfl, ?_⟩
          -- The file was visited as one, and not as a directory.
          cases v with
          | directory path isTop =>
            simp only [visit] at hvisit
            split at hvisit
            · cases hvisit
            · split at hvisit <;> cases hvisit
          | file dir name =>
            simp only [visit] at hvisit
            split at hvisit
            · next hfile =>
              cases hvisit
              simp only [Bool.and_eq_true, Bool.not_eq_true'] at hfile
              exact hfile.1
            · cases hvisit

/-- A step of the walk that gives nothing has given nothing. -/
theorem seen_of_walked (h : walked m c = .skip c') : c'.seen = c.seen := by
  unfold walked at h
  split at h
  · split at h
    · cases h
    · split at h <;> cases h <;> rfl
  · cases h
    rfl
  · split at h
    · cases h
      rfl
    · dsimp only at h
      split at h <;> cases h
      rfl

/-- **A sink that is found** has not been found before, and is no directory. -/
theorem once_of_find (h : find m c = .item s c') :
    s.key ∉ c.seen ∧ c'.seen = s.key :: c.seen ∧ m.tree.looksDir m.home s.key = false := by
  unfold find at h
  split at h
  · cases h
  · cases h
  · next e rest hwalked =>
    split at h
    · cases h
    · next found hsink =>
      cases h
      obtain ⟨hnew, hseen, hfile⟩ := once_of_walked hwalked
      have hkey : s.key = e.key := by
        unfold sinkIn? at hsink
        split at hsink
        · cases hsink
        · obtain ⟨parsed, -, rfl⟩ := Option.map_eq_some_iff.mp hsink
          rfl
      rw [hkey]
      exact ⟨hnew, hseen, hfile⟩

/-- What has been seen stays seen. -/
theorem seen_of_find (h : find m c = .skip c') : c.seen ⊆ c'.seen := by
  unfold find at h
  split at h
  · cases h
  · next rest hwalked =>
    cases h
    rw [seen_of_walked hwalked]
    exact List.Subset.refl _
  · next e rest hwalked =>
    split at h
    · cases h
      rw [(once_of_walked hwalked).2.1]
      exact List.subset_cons_self _ _
    · cases h

end

/-- **The sinks that are found** are found once each, and are no directories.  The
    induction is on the discovery; what was seen before it is not found again. -/
theorem Finds.once {m : Machine} {c : SinkCursor} {ss : List FileSink} (h : Finds m c ss) :
    (ss.map (·.key)).Nodup ∧ ∀ s ∈ ss, s.key ∉ c.seen ∧ m.tree.looksDir m.home s.key = false := by
  induction h with
  | done => simp
  | skip hfind _ ih =>
    refine ⟨ih.1, ?_⟩
    intro s hs
    obtain ⟨hnew, hfile⟩ := ih.2 s hs
    exact ⟨fun hseen => hnew (seen_of_find hfind hseen), hfile⟩
  | @item c c' s ss hfind _ ih =>
    obtain ⟨hnew, hseen, hfile⟩ := once_of_find hfind
    -- The sinks that are found later have not been seen when this one is found.
    have hothers : ∀ t ∈ ss, t.key ≠ s.key ∧ t.key ∉ c.seen := by
      intro t ht
      have hnot := (ih.2 t ht).1
      rw [hseen] at hnot
      simpa using hnot
    constructor
    · rw [List.map_cons, List.nodup_cons]
      refine ⟨?_, ih.1⟩
      intro hmem
      obtain ⟨t, ht, hkey⟩ := List.mem_map.mp hmem
      exact (hothers t ht).1 hkey
    · intro t ht
      rcases List.mem_cons.mp ht with rfl | ht
      · exact ⟨hnew, hfile⟩
      · exact ⟨(hothers t ht).2, (ih.2 t ht).2⟩

end Pipeline

namespace Watch

open Pipeline

variable {ν : Type} {m : Machine}

/-! ### The snapshot of the sinks that are found -/

/-- A snapshot goes through the sinks that are found. -/
theorem stamps_of_finds {c : SinkCursor} {ss : List FileSink} (h : Finds m c ss) :
    Stamps ν m c (stampsOf m ss) := by
  induction h with
  | done hfind => exact stamps_done hfind
  | skip hfind _ ih => exact stamps_skip hfind ih
  | item hfind _ ih => exact stamps_item hfind ih

/-- The path of a sink, and when the file was last modified that it leads to. -/
def noted? (m : Machine) (s : FileSink) : Option (String × Nat) :=
  match m.tree.stat m.home s.key with
  | .ok (.file f) => some (s.key, f.mtime)
  | _ => none

/-- Why a sink cannot be looked at, if it is for another reason than that nothing
    is there. -/
def trouble? (m : Machine) (s : FileSink) : Option Fault :=
  match m.tree.stat m.home s.key with
  | .ok _ | .error (.os .noEntry _) => none
  | .error f => some f

/-- What is noted of a sink that gives no trouble. -/
theorem stampOf_eq_ok {s : FileSink} (hfile : m.tree.looksDir m.home s.key = false)
    (h : trouble? m s = none) : stampOf m s = .ok (noted? m s) := by
  unfold trouble? at h
  unfold stampOf noted?
  cases hstat : m.tree.stat m.home s.key with
  | ok e =>
    obtain ⟨f, rfl⟩ := Tree.file_of_stat hstat hfile
    rfl
  | error f =>
    rw [hstat] at h
    dsimp only at h ⊢
    split at h
    · next hok => cases hok
    · next habsent =>
      cases habsent
      rfl
    · cases h

/-- Trouble is an error other than that nothing is there. -/
theorem of_trouble? {s : FileSink} {f : Fault} (h : trouble? m s = some f) :
    m.tree.stat m.home s.key = .error f ∧ ∀ paths, f ≠ .os .noEntry paths := by
  unfold trouble? at h
  split at h
  · cases h
  · cases h
  · next g hother hstat =>
    cases h
    exact ⟨hstat, hother⟩

/-- The trouble that a sink gives ends the snapshot. -/
theorem stampOf_eq_error {s : FileSink} {f : Fault} (h : trouble? m s = some f) :
    stampOf m s = .error f := by
  obtain ⟨hstat, hother⟩ := of_trouble? h
  unfold stampOf
  rw [hstat]
  split
  · next hok => cases hok
  · next paths habsent =>
    cases habsent
    exact absurd rfl (hother paths)
  · next habsent =>
    cases habsent
    rfl

/-- Without trouble a snapshot holds what is noted of the sinks. -/
theorem stampsOf_eq_ok {ss : List FileSink}
    (hfiles : ∀ s ∈ ss, m.tree.looksDir m.home s.key = false) (h : ∀ s ∈ ss, trouble? m s = none) :
    stampsOf m ss = .ok (ss.filterMap (noted? m)) := by
  induction ss with
  | nil => rfl
  | cons s ss ih =>
    have hfirst := stampOf_eq_ok (hfiles s (by simp)) (h s (by simp))
    have hrest := ih (fun t ht => hfiles t (by simp [ht])) (fun t ht => h t (by simp [ht]))
    unfold stampsOf
    rw [hfirst, hrest, List.filterMap_cons]
    cases noted? m s <;> rfl

/-- The first trouble ends a snapshot. -/
theorem stampsOf_eq_error {ss : List FileSink}
    (hfiles : ∀ s ∈ ss, m.tree.looksDir m.home s.key = false) {f : Fault}
    (h : ss.findSome? (trouble? m) = some f) : stampsOf m ss = .error f := by
  induction ss with
  | nil => cases h
  | cons s ss ih =>
    rw [List.findSome?_cons] at h
    cases hfirst : trouble? m s with
    | some g =>
      rw [hfirst] at h
      cases h
      unfold stampsOf
      rw [stampOf_eq_error hfirst]
      rfl
    | none =>
      rw [hfirst] at h
      have hrest := ih (fun t ht => hfiles t (by simp [ht])) h
      unfold stampsOf
      rw [stampOf_eq_ok (hfiles s (by simp)) hfirst, hrest]
      rfl

/-- **A watch sees what a pass finds**, on every machine.  A discovery of its own
    gives sinks, each once.

    - If none of them gives trouble, the snapshot holds those whose paths lead to
      files, each with the time at which that file was last modified.  The others are
      left out.
    - If one does, the snapshot ends with the first trouble.

    Taking the snapshot changes nothing. -/
theorem snapshot_sees_found (ν : Type) (o : RunOptions) (m : Machine) :
    ∃ ss, Discovers ν m (o.specs m.cwd) ss ∧ (ss.map (·.key)).Nodup ∧
      ∃ n, ∀ fuel, n ≤ fuel →
        ((∀ s ∈ ss, trouble? m s = none) → Sees fuel o ν m (.ok (ss.filterMap (noted? m)))) ∧
        ∀ f, ss.findSome? (trouble? m) = some f → Sees fuel o ν m (.error f) := by
  obtain ⟨ss, hfinds⟩ := exists_finds m { specs := o.specs m.cwd }
  obtain ⟨hnodup, hfound⟩ := hfinds.once
  have hfiles : ∀ s ∈ ss, m.tree.looksDir m.home s.key = false := by
    intro s hs
    exact (hfound s hs).2
  -- The discovery and the snapshot go through the same sinks.
  obtain ⟨n, hn⟩ := stamps_of_finds (ν := ν) hfinds
  have hsees : ∀ fuel, n ≤ fuel → Sees fuel o ν m (stampsOf m ss) := by
    intro fuel hfuel
    exact sees_of_stamps (hn fuel hfuel)
  refine ⟨ss, discovers_of_finds hfinds, hnodup, n, ?_⟩
  intro fuel hfuel
  constructor
  · intro hcalm
    rw [← stampsOf_eq_ok hfiles hcalm]
    exact hsees fuel hfuel
  · intro f hf
    rw [← stampsOf_eq_error hfiles hf]
    exact hsees fuel hfuel

/-! ### A link that leads to itself -/

/-- A machine with a link that leads to itself and has the name of a sink. -/
def loopMachine : Machine where
  tree := ⟨[(["x.txt.sh"], .link "x.txt.sh")]⟩
  cwd := ⟨.root, []⟩

/-- A watch over that machine. -/
def loopOptions : RunOptions := { roots := [⟨.root, []⟩], onError := "skip" }

/-- The root of that watch. -/
def loopRoot : Root := ⟨⟨.root, []⟩, [], []⟩

/-- The sink of that machine. -/
def loopSink : FileSink where
  key := "/x.txt.sh"
  spec := loopRoot
  item := ⟨⟨.root, ["x.txt.sh"]⟩, "x.txt.sh", true⟩
  name := "x.txt.sh"
  parsed := { basename := "x", nature := "txt", isMulti := false, domain := "sh" }
  payload := some "x.txt.sh"

/-- The link is followed until no more links may be. -/
theorem walk_loop (links : Nat) :
    loopMachine.tree.walk true links [] ["x.txt.sh"] = .error .tooManyLinks := by
  have hsize : ¬Tree.maxNameBytes < "x.txt.sh".utf8ByteSize := by decide
  have hget : loopMachine.tree.get? ([] ++ ["x.txt.sh"]) = some (.link "x.txt.sh") := rfl
  have htarget : Path.ofString "x.txt.sh" = ⟨.here, ["x.txt.sh"]⟩ := by decide
  have hname : "x.txt.sh" ≠ ".." := by decide
  induction links with
  | zero =>
    rw [Tree.walk, if_neg hsize, hget]
    · rfl
    · exact hname
  | succ links ih =>
    rw [Tree.walk, if_neg hsize, hget]
    · simp only [htarget]
      exact ih
    · exact hname

theorem stat_loop : loopMachine.tree.stat loopMachine.home "/x.txt.sh" =
    .error (.os .tooManyLinks ["/x.txt.sh"]) := by
  have hgiven : Tree.refusal? "/x.txt.sh" = none := by decide
  have hpath : Path.ofString "/x.txt.sh" = ⟨.root, ["x.txt.sh"]⟩ := by decide
  have hentry : loopMachine.tree.entryAt loopMachine.home true "/x.txt.sh" =
      .error .tooManyLinks := by
    unfold Tree.entryAt
    rw [Tree.resolve_eq, if_neg (by decide), if_neg (by decide), hpath, Bool.true_or]
    show (loopMachine.tree.walk true Tree.maxLinks [] ["x.txt.sh"] >>= _) >>= _ = _
    rw [walk_loop]
    rfl
  unfold Tree.stat Tree.aboutPath
  rw [hgiven, hentry]
  rfl

theorem looksDir_loop : loopMachine.tree.looksDir loopMachine.home "/x.txt.sh" = false := by
  unfold Tree.looksDir
  rw [stat_loop]

theorem looksLink_loop : loopMachine.tree.looksLink loopMachine.home "/x.txt.sh" = true := by
  have hgiven : Tree.refusal? "/x.txt.sh" = none := by decide
  have hpath : Path.ofString "/x.txt.sh" = ⟨.root, ["x.txt.sh"]⟩ := by decide
  have hslash : Tree.endsInSlash "/x.txt.sh" = false := by decide
  have hwalk : loopMachine.tree.walk false Tree.maxLinks [] ["x.txt.sh"] =
      .ok (.occupied ["x.txt.sh"] (.link "x.txt.sh")) :=
    Tree.walk_single_occupied (by decide) (by decide) rfl (by simp)
  have hentry : loopMachine.tree.entryAt loopMachine.home false "/x.txt.sh" =
      .ok (["x.txt.sh"], .link "x.txt.sh") := by
    unfold Tree.entryAt
    rw [Tree.resolve_eq, if_neg (by decide), if_neg (by decide), hpath, hslash, Bool.false_or]
    show (loopMachine.tree.walk false Tree.maxLinks [] ["x.txt.sh"] >>= _) >>= _ = _
    rw [hwalk]
    rfl
  unfold Tree.looksLink Tree.lstat Tree.aboutPath
  rw [hgiven, hentry]
  rfl

theorem scan_loop :
    loopMachine.tree.scan loopMachine.home ⟨.root, []⟩ = .ok [("x.txt.sh", false)] := by
  have hroot := loopMachine.standing_root
  have hnames : loopMachine.tree.names [] = ["x.txt.sh"] := by decide
  have hpath : ((Path.mk .root []).child "x.txt.sh").toString = "/x.txt.sh" := by decide
  have hget : loopMachine.tree.get? ([] ++ ["x.txt.sh"]) = some (.link "x.txt.sh") := rfl
  rw [Tree.scan_of_entryAt hroot.given hroot.there]
  unfold Tree.sortedNames
  rw [hnames, List.mergeSort_singleton, List.map_singleton, hget, hpath, looksDir_loop]

open DirectoryWalk (Visit visit)

/-- The cursor in that root with something left to visit. -/
def loopCursor (vs : List Visit) (seen : List String) : SinkCursor :=
  ⟨[], some (loopRoot, ⟨loopRoot, vs⟩), seen⟩

theorem finds_loop :
    Finds loopMachine { specs := loopOptions.specs loopMachine.cwd } [loopSink] := by
  have hpath : ((Path.mk .root []).child "x.txt.sh").toString = "/x.txt.sh" := by decide
  have hroot : find loopMachine { specs := loopOptions.specs loopMachine.cwd } =
      .skip (loopCursor [.directory ⟨.root, []⟩ true] []) :=
    find_of_walked_skip (walked_root (Pass.normalize_root loopMachine))
  have hdir : find loopMachine (loopCursor [.directory ⟨.root, []⟩ true] []) =
      .skip (loopCursor [.file ⟨.root, []⟩ "x.txt.sh"] []) := by
    have hvisit : visit loopMachine false loopRoot (.directory ⟨.root, []⟩ true) [] =
        (none, [.file ⟨.root, []⟩ "x.txt.sh"]) := by
      simp only [visit, scan_loop]
      rfl
    exact find_of_walked_skip (walked_none hvisit)
  have hfile : find loopMachine (loopCursor [.file ⟨.root, []⟩ "x.txt.sh"] []) =
      .item loopSink (loopCursor [] ["/x.txt.sh"]) := by
    have hvisit : visit loopMachine false loopRoot (.file ⟨.root, []⟩ "x.txt.sh") [] =
        (some loopSink.item, []) := by
      simp only [visit, hpath, looksDir_loop, looksLink_loop]
      rfl
    unfold find loopCursor
    rw [walked_new hvisit rfl]
    rfl
  have hleft : find loopMachine (loopCursor [] ["/x.txt.sh"]) =
      .skip ⟨[], none, ["/x.txt.sh"]⟩ := rfl
  have hend : find loopMachine ⟨[], none, ["/x.txt.sh"]⟩ = .done := rfl
  exact .skip hroot (.skip hdir (.item hfile (.skip hleft (.done hend))))

/-- **A link that leads back to itself** is found as a sink, and ends the snapshot. -/
theorem loop_snapshot_fails :
    Discovers Unit loopMachine (loopOptions.specs loopMachine.cwd) [loopSink] ∧
      ∃ n, ∀ fuel, n ≤ fuel →
        Sees fuel loopOptions Unit loopMachine (.error (.os .tooManyLinks ["/x.txt.sh"])) ∧
        ∀ shot, ¬Sees fuel loopOptions Unit loopMachine (.ok shot) := by
  refine ⟨discovers_of_finds finds_loop, ?_⟩
  have hfiles : ∀ s ∈ [loopSink], loopMachine.tree.looksDir loopMachine.home s.key = false :=
    List.forall_mem_singleton.mpr looksDir_loop
  have htrouble : [loopSink].findSome? (trouble? loopMachine) =
      some (.os .tooManyLinks ["/x.txt.sh"]) := by
    have hstat : loopMachine.tree.stat loopMachine.home loopSink.key = _ := stat_loop
    unfold trouble?
    rw [List.findSome?_singleton, hstat]
  obtain ⟨n, hn⟩ := stamps_of_finds (ν := Unit) finds_loop
  refine ⟨n, ?_⟩
  intro fuel hfuel
  have hsees : Sees fuel loopOptions Unit loopMachine (stampsOf loopMachine [loopSink]) :=
    sees_of_stamps (hn fuel hfuel)
  rw [stampsOf_eq_error hfiles htrouble] at hsees
  refine ⟨hsees, ?_⟩
  intro shot hshot
  -- One and the same run cannot end in both ways.
  obtain ⟨d, hfault, -⟩ := hsees ⟨loopMachine, [], ()⟩ (.refl _) {}
  obtain ⟨d', hok, -⟩ := hshot ⟨loopMachine, [], ()⟩ (.refl _) {}
  cases hfault.symm.trans hok

end Watch

end SinkPipeline
