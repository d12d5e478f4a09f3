import SinkPipeline.Pipeline
import SinkPipeline.Proofs.Ending
import SinkPipeline.Proofs.FileTree.Changing

/-! # One step of a discovery

  Discovery is lazy: each step looks at the machine as it is then, and other
  work changes the machine between steps.  One step is a function of the cursor
  and of the machine.

  It gives the next sink, or it moves on, and changes nothing but the list of
  roots that were refused, if there is one to keep.
-/

namespace SinkPipeline

namespace Pipeline

open DirectoryWalk (Visit visit visitsOf)

/-! ### A step as a function of the machine -/

/-- One step of the walk below some roots. -/
def walked (m : Machine) (c : SinkCursor) : Poll SinkCursor (Encountered Root FoundFile String) :=
  match c.current with
  | none =>
    match c.specs with
    | [] => .done
    | spec :: specs =>
      match spec.normalize m with
      | .ok root =>
        .skip { c with specs := specs, current := some (root, ⟨root, [.directory root.path true]⟩) }
      | .error _ => .skip { c with specs := specs }
  | some (_, ⟨_, []⟩) => .skip { c with current := none }
  | some (root, ⟨top, v :: pending⟩) =>
    match visit m false top v pending with
    | (none, pending) => .skip { c with current := some (root, ⟨top, pending⟩) }
    | (some f, pending) =>
      let c := { c with current := some (root, ⟨top, pending⟩) }
      if c.seen.contains f.path.toString then .skip c
      else
        .item ⟨f.path.toString, root, f, some (DirectoryWalk.relativePath m root f)⟩
          { c with seen := f.path.toString :: c.seen }

section

variable {m : Machine} {specs : List RootSpec} {spec : RootSpec} {seen : List String}
  {root top : Root} {v : Visit} {pending rest : List Visit} {f : FoundFile}

theorem walked_root (h : spec.normalize m = .ok root) :
    walked m ⟨spec :: specs, none, seen⟩ =
      .skip ⟨specs, some (root, ⟨root, [.directory root.path true]⟩), seen⟩ := by
  simp only [walked, h]

theorem walked_refused {e : Fault} (h : spec.normalize m = .error e) :
    walked m ⟨spec :: specs, none, seen⟩ = .skip ⟨specs, none, seen⟩ := by
  simp only [walked, h]

theorem walked_none (h : visit m false top v pending = (none, rest)) :
    walked m ⟨specs, some (root, ⟨top, v :: pending⟩), seen⟩ =
      .skip ⟨specs, some (root, ⟨top, rest⟩), seen⟩ := by
  simp only [walked, h]

theorem walked_seen (h : visit m false top v pending = (some f, rest))
    (hseen : seen.contains f.path.toString = true) :
    walked m ⟨specs, some (root, ⟨top, v :: pending⟩), seen⟩ =
      .skip ⟨specs, some (root, ⟨top, rest⟩), seen⟩ := by
  simp only [walked, h, hseen, if_true]

theorem walked_new (h : visit m false top v pending = (some f, rest))
    (hseen : seen.contains f.path.toString = false) :
    walked m ⟨specs, some (root, ⟨top, v :: pending⟩), seen⟩ =
      .item ⟨f.path.toString, root, f, some (DirectoryWalk.relativePath m root f)⟩
        ⟨specs, some (root, ⟨top, rest⟩), f.path.toString :: seen⟩ := by
  simp only [walked, h, hseen]
  rfl

end

/-- The sink that a found file is, if it is one and no generated file. -/
def sinkIn? (e : Encountered Root FoundFile String) : Option FileSink :=
  if SinkName.isGenerated e.item.name then none
  else
    (SinkName.parse? e.item.name).map fun parsed =>
      ⟨e.key, e.spec, e.item, e.item.name, parsed, e.payload⟩

/-- One step of the discovery below some roots. -/
def find (m : Machine) (c : SinkCursor) : Poll SinkCursor FileSink :=
  match walked m c with
  | .done => .done
  | .skip c => .skip c
  | .item e c =>
    match sinkIn? e with
    | none => .skip c
    | some s => .item s c

end Pipeline

/-- A fault that refuses a root is an ordinary one. -/
theorem Tree.isOrdinary_of_holds {t : Tree} {start : Place} {path : String} {p : Entry → Bool}
    {f : Fault} (h : t.holds start path p = .error f) : f.isOrdinary = true := by
  unfold Tree.holds at h
  split at h
  · cases h
  · next g hstat =>
    split at h
    · cases h
    · cases h
      rcases Tree.of_aboutPath_error hstat with ⟨e, -, rfl⟩ | hrefused
      · rfl
      · obtain ⟨kind, message, rfl, -⟩ := Tree.of_refusal? hrefused
        rfl

theorem Root.isOrdinary_of_readGlob {root : Path} {glob : String} {f : Fault}
    (h : Root.readGlob root glob = .error f) : f.isOrdinary = true := by
  unfold Root.readGlob at h
  dsimp only at h
  split at h
  all_goals
    cases hread : Pattern.ofGlob _ glob with
    | error e => rw [hread] at h; cases h; rfl
    | ok e => rw [hread] at h; cases h

theorem Root.isOrdinary_of_readGlobs {root : Path} {globs : List String} {f : Fault}
    (h : globs.mapM (Root.readGlob root) = .error f) : f.isOrdinary = true := by
  induction globs with
  | nil => cases h
  | cons glob globs ih =>
    rw [List.mapM_cons] at h
    rcases Fault.of_bind_error h with hglob | ⟨e, -, h⟩
    · exact Root.isOrdinary_of_readGlob hglob
    rcases Fault.of_bind_error h with hglobs | ⟨es, -, h⟩
    · exact ih hglobs
    · cases h

theorem RootSpec.isOrdinary_of_normalize {s : RootSpec} {m : Machine} {f : Fault}
    (h : s.normalize m = .error f) : f.isOrdinary = true := by
  unfold RootSpec.normalize at h
  rcases Fault.of_bind_error h with hexists | ⟨there, -, h⟩
  · exact Tree.isOrdinary_of_holds hexists
  split at h
  · cases h
    rfl
  rcases Fault.of_bind_error h with hdir | ⟨isDir, -, h⟩
  · exact Tree.isOrdinary_of_holds hdir
  split at h
  · cases h
    rfl
  rcases Fault.of_bind_error h with hincludes | ⟨includes, -, h⟩
  · exact Root.isOrdinary_of_readGlobs hincludes
  rcases Fault.of_bind_error h with hexcludes | ⟨excludes, -, h⟩
  · exact Root.isOrdinary_of_readGlobs hexcludes
  · cases h

/-! ### Roots that are given -/

/-- A directory is there just if the path leads to one. -/
theorem Tree.isDir?_eq_true_iff {t : Tree} {start : Place} {path : String} :
    t.isDir? start path = .ok true ↔ t.stat start path = .ok .dir := by
  unfold Tree.isDir? Tree.holds
  constructor
  · intro h
    split at h
    · next e hstat =>
      rw [hstat]
      cases e <;> first | rfl | cases h
    · split at h <;> cases h
  · intro h
    rw [h]
    rfl

/-- **The root that a spec asks for** is given just if a directory is there and the globs
    can be read. -/
theorem RootSpec.normalize_eq_ok_iff {m : Machine} {s : RootSpec} {root : Root} :
    s.normalize m = .ok root ↔
      root.path = m.absolute (s.baseDir / s.root) ∧
      m.tree.stat m.home root.path.toString = .ok .dir ∧
      s.includes.mapM (Root.readGlob root.path) = .ok root.includes ∧
      s.excludes.mapM (Root.readGlob root.path) = .ok root.excludes := by
  unfold RootSpec.normalize
  constructor
  · intro h
    obtain ⟨there, -, h⟩ := Fault.of_bind_ok h
    split at h
    · cases h
    obtain ⟨isDir, hisDir, h⟩ := Fault.of_bind_ok h
    split at h
    · cases h
    next htrue =>
    obtain rfl : isDir = true := by simpa using htrue
    obtain ⟨includes, hincludes, h⟩ := Fault.of_bind_ok h
    obtain ⟨excludes, hexcludes, h⟩ := Fault.of_bind_ok h
    cases h
    exact ⟨rfl, Tree.isDir?_eq_true_iff.mp hisDir, hincludes, hexcludes⟩
  · rintro ⟨hpath, hstat, hincludes, hexcludes⟩
    obtain ⟨path, includes, excludes⟩ := root
    obtain rfl : path = _ := hpath
    have hexists : m.tree.exists? m.home (m.absolute (s.baseDir / s.root)).toString = .ok true := by
      unfold Tree.exists? Tree.holds
      rw [hstat]
    simp only [hexists, Tree.isDir?_eq_true_iff.mpr hstat, hincludes, hexcludes]
    rfl

namespace Pipeline

open DirectoryWalk (Visit visit visitsOf)

variable {ν : Type}

theorem walkLogger_ne : Walk.logger ≠ Orchestrator.logger := by decide

theorem discoveryLogger_ne : Discovery.logger ≠ Orchestrator.logger := by decide

theorem ends_normalize (spec : RootSpec) (s : Site ν) :
    (Act.attempt ((DirectoryWalk.plain false).normalize spec)).Ends s
      (.ok (spec.normalize s.machine)) s := by
  have hstep : (Act.machine >>= fun m => Act.ofExcept (spec.normalize m) : Act (Site ν) Root).Ends s
      (spec.normalize s.machine) s := by
    generalize hroot : spec.normalize s.machine = r
    refine (Act.ends_machine s).bind_silent ?_
    rw [hroot]
    exact Act.ends_ofExcept r s
  exact hstep.attempt

theorem ends_visit (root : Root) (v : Visit) (pending : List Visit) (s : Site ν) :
    ((DirectoryWalk.files false).step ⟨root, v :: pending⟩).Ends s
      (.ok ((visit s.machine false root v pending).1.elim
        (.skip ⟨root, (visit s.machine false root v pending).2⟩)
        fun f => .item f ⟨root, (visit s.machine false root v pending).2⟩)) s := by
  refine (Act.ends_machine s).bind_silent ?_
  cases visit s.machine false root v pending with
  | mk f rest => cases f <;> exact Act.ends_pure _ s

section

variable {hook : Option (InvalidSpec → Act (Site ν) Unit)} {mark : Fault → Site ν → Site ν}

/-- **The next root** is walked, or reported if it is refused. -/
theorem ends_walked_root
    (hreport : ∀ f s, (Walk.report "filesystem" hook f).Ends s (.ok ()) (mark f s))
    (spec : RootSpec) (specs : List RootSpec) (seen : List String) (s : Site ν) :
    ∃ s', (s' = s ∨ ∃ f, s' = mark f s) ∧
      (Walk.step (DirectoryWalk.plain false) (Source.ofList (Site ν) RootSpec) hook
        ⟨spec :: specs, none, seen⟩).Ends s
        (.ok (walked s.machine ⟨spec :: specs, none, seen⟩)) s' := by
  have hstep := ends_normalize spec s
  cases hroot : spec.normalize s.machine with
  | ok root =>
    rw [hroot] at hstep
    rw [walked_root hroot]
    refine ⟨s, .inl rfl, ?_⟩
    exact (Act.ends_pure _ s).bind_silent (hstep.bind_silent (Act.ends_pure _ s))
  | error f =>
    rw [hroot] at hstep
    rw [walked_refused hroot]
    have hordinary := RootSpec.isOrdinary_of_normalize hroot
    refine ⟨mark f s, .inr ⟨f, rfl⟩, ?_⟩
    refine (Act.ends_pure _ s).bind_silent (hstep.bind_silent ?_)
    dsimp only
    rw [if_pos hordinary]
    exact (hreport f s).bind_silent (Act.ends_pure _ _)

/-- **The next visit** gives no file, or one that was seen before, or a new one. -/
theorem ends_walked_visit (specs : List RootSpec) (root top : Root) (v : Visit) (pending : List Visit)
    (seen : List String) (s : Site ν) :
    (Walk.step (DirectoryWalk.plain false) (Source.ofList (Site ν) RootSpec) hook
      ⟨specs, some (root, ⟨top, v :: pending⟩), seen⟩).Ends s
      (.ok (walked s.machine ⟨specs, some (root, ⟨top, v :: pending⟩), seen⟩)) s := by
  have hstep := ends_visit top v pending s
  cases hvisit : visit s.machine false top v pending with
  | mk f rest =>
    rw [hvisit] at hstep
    cases f with
    | none =>
      rw [walked_none hvisit]
      exact hstep.bind_silent (Act.ends_pure _ s)
    | some f =>
      have hkey : (DirectoryWalk.plain (ν := ν) false).keyOf root f = f.path.toString := rfl
      cases hseen : seen.contains f.path.toString with
      | true =>
        rw [walked_seen hvisit hseen]
        refine hstep.bind_silent ?_
        dsimp only [Option.elim]
        rw [hkey, if_pos hseen]
        exact Act.ends_pure _ s
      | false =>
        rw [walked_new hvisit hseen]
        refine hstep.bind_silent ?_
        dsimp only [Option.elim]
        rw [hkey, if_neg (by rw [hseen]; simp)]
        -- The payload only looks at the machine.
        have hpayload : (Act.machine >>= fun m => pure (DirectoryWalk.relativePath m root f) :
            Act (Site ν) String).Ends s (.ok (DirectoryWalk.relativePath s.machine root f)) s :=
          (Act.ends_machine s).bind_silent (Act.ends_pure _ s)
        exact hpayload.map.bind_silent (Act.ends_pure _ s)

/-- **A step of the walk** is that function of the machine.  It changes nothing,
    or what a report about a refused root changes. -/
theorem ends_walked
    (hreport : ∀ f s, (Walk.report "filesystem" hook f).Ends s (.ok ()) (mark f s))
    (c : SinkCursor) (s : Site ν) :
    ∃ s', (s' = s ∨ ∃ f, s' = mark f s) ∧
      (Walk.step (DirectoryWalk.plain false) (Source.ofList (Site ν) RootSpec) hook c).Ends s
        (.ok (walked s.machine c)) s' := by
  obtain ⟨specs, current, seen⟩ := c
  match specs, current with
  | [], none => exact ⟨s, .inl rfl, (Act.ends_pure _ s).bind_silent (Act.ends_pure _ s)⟩
  | spec :: specs, none => exact ends_walked_root hreport spec specs seen s
  | _, some (root, ⟨top, []⟩) =>
    exact ⟨s, .inl rfl, (Act.ends_pure _ s).bind_silent (Act.ends_pure _ s)⟩
  | specs, some (root, ⟨top, v :: pending⟩) =>
    exact ⟨s, .inl rfl, ends_walked_visit specs root top v pending seen s⟩

/-- What the rules of a pass make of a file that was encountered. -/
theorem ends_sinkOf (e : Encountered Root FoundFile String) (s : Site ν) :
    (Discovery.sinkOf? ⟨some skipGenerated, fun e => return nameOf e⟩ e).Ends s
      (.ok (sinkIn? e)) s := by
  unfold Discovery.sinkOf? sinkIn? skipGenerated
  refine (Act.ends_pure _ s).bind_silent ?_
  unfold nameOf isNotGenerated
  dsimp only
  cases hgen : SinkName.isGenerated e.item.name with
  | true => exact Act.ends_pure _ s
  | false =>
    refine (Act.ends_pure _ s).bind_silent ?_
    cases hparse : SinkName.parse? e.item.name with
    | none =>
      dsimp only
      rw [hparse]
      exact Act.ends_pure _ s
    | some parsed =>
      dsimp only
      rw [hparse]
      exact (Act.notes_log discoveryLogger_ne _ _ _).bind fun _ => Act.ends_pure _ s

/-- **A step of the discovery** is that function of the machine.  It changes
    nothing, or what a report about a refused root changes. -/
theorem ends_find_marking
    (hreport : ∀ f s, (Walk.report "filesystem" hook f).Ends s (.ok ()) (mark f s))
    (c : SinkCursor) (s : Site ν) :
    ∃ s', (s' = s ∨ ∃ f, s' = mark f s) ∧
      ((sinks (some skipGenerated) hook).step c).Ends s (.ok (find s.machine c)) s' := by
  obtain ⟨s', hmark, hstep⟩ := ends_walked hreport c s
  refine ⟨s', hmark, hstep.bind_silent ?_⟩
  unfold find
  cases walked s.machine c with
  | done => exact Act.ends_pure _ _
  | skip rest => exact Act.ends_pure _ _
  | item e rest =>
    refine (ends_sinkOf e _).bind_silent ?_
    dsimp only
    cases sinkIn? e with
    | none => exact Act.ends_pure _ _
    | some sink => exact Act.ends_pure _ _

end

/-- A discovery that keeps reports changes nothing but the list of refused
    roots. -/
theorem ends_find (c : SinkCursor) (s : Site ν) :
    ∃ refused, ((sinks (some skipGenerated) (some keepRefused)).step c).Ends s
      (.ok (find s.machine c)) { s with refused := refused } := by
  have hreport : ∀ f (s : Site ν), (Walk.report "filesystem" (some keepRefused) f).Ends s (.ok ())
      { s with refused := s.refused ++ [⟨"filesystem", f.reason⟩] } := by
    intro f s
    unfold Walk.report
    exact (Act.notes_log walkLogger_ne _ _ _).bind fun _ => Act.ends_modifyState _ s
  obtain ⟨s', rfl | ⟨f, rfl⟩, hstep⟩ := ends_find_marking hreport c s
  · exact ⟨s'.refused, hstep⟩
  · exact ⟨_, hstep⟩

/-- A discovery that keeps no reports changes nothing. -/
theorem ends_find_silent (c : SinkCursor) (s : Site ν) :
    ((sinks (some skipGenerated) none).step c).Ends s (.ok (find s.machine c)) s := by
  have hreport : ∀ f (s : Site ν), (Walk.report "filesystem" none f : Act (Site ν) Unit).Ends s
      (.ok ()) s := by
    intro f s
    unfold Walk.report
    exact (Act.notes_log walkLogger_ne _ _ _).bind fun _ => Act.ends_pure _ s
  obtain ⟨s', rfl | ⟨f, rfl⟩, hstep⟩ := ends_find_marking hreport c s
  · exact hstep
  · exact hstep

end Pipeline

end SinkPipeline
