import SinkPipeline.Proofs.FileTree.Descending
import SinkPipeline.Proofs.Planning
import SinkPipeline.Proofs.Resolution.Choice

/-! # A sink and its own name resolve alike

  A sink is resolved by its path, made absolute as a whole.  Its name, taken as a
  token, is looked for in the sink's directory, which is made absolute by itself.
  Both ways lead to the same file as long as the last name does not go up, and
  the stage runs from the same directory.  So the two agree on every stage that
  a strategy gives; they differ in what is left when none does.

  The launcher of a file is looked up by its suffix.  The suffix of a sink's name
  is its domain: the basename stands in front of the last point, and no point is
  in the domain, whatever the brackets hold.
-/

namespace SinkPipeline

/-! ### The suffix of a sink's name -/

namespace Text

/-- Small letters of a text without a capital sigma, character by character. -/
theorem lowerFrom_eq_flatMap {before cs : List Char} (h : 'Σ' ∉ cs) :
    lowerFrom before cs = cs.flatMap (mapCase lowerRuns lowerSpecial) := by
  induction cs generalizing before with
  | nil => rfl
  | cons c cs ih =>
    have hc : c ≠ 'Σ' := fun hsigma => h (by simp [hsigma])
    rw [lowerFrom, if_neg hc, ih (List.not_mem_of_not_mem_cons h), List.flatMap_cons]

end Text

namespace SinkName

theorem toNat_lt_of_isWordStart {c : Char} (h : isWordStart c = true) : c.toNat < 128 := by
  change ((decide (c.val ≥ 65 ∧ c.val ≤ 90) || decide (c.val ≥ 97) && decide (c.val ≤ 122)) ||
    decide (c.val ≥ 48) && decide (c.val ≤ 57)) = true at h
  simp only [Bool.or_eq_true, Bool.and_eq_true, decide_eq_true_eq] at h
  have hcode : c.val ≤ 127 := by grind
  exact Nat.lt_succ_of_le (UInt32.le_iff_toNat_le.mp hcode)

/-- The small letter of a character that begins a word is no point. -/
theorem mapCase_of_isWordStart {c : Char} (h : isWordStart c = true) :
    ∃ d ds, Text.mapCase Text.lowerRuns Text.lowerSpecial c = d :: ds ∧ d ≠ '.' := by
  have hall : ∀ i : Fin 128, isWordStart (Char.ofNat i) = true →
      ((Text.mapCase Text.lowerRuns Text.lowerSpecial (Char.ofNat i)).head?.any (· != '.')) = true := by
    decide +kernel
  have hc := hall ⟨c.toNat, toNat_lt_of_isWordStart h⟩
  rw [Char.ofNat_toNat] at hc
  have hhead := hc h
  cases himage : Text.mapCase Text.lowerRuns Text.lowerSpecial c with
  | nil => simp [himage] at hhead
  | cons d ds => exact ⟨d, ds, rfl, by simpa [himage] using hhead⟩

theorem not_mem_of_isWord {w : List Char} (h : IsWord w) {c : Char} (hc : isWordChar c = false) :
    c ∉ w := by
  intro hmem
  rw [h.all c hmem] at hc
  cases hc

/-- **The suffix of a sink's name** is its domain. -/
theorem suffixOf_of_parse? {name : String} {n : SinkName} (h : parse? name = some n) :
    Path.suffixOf name.toList = '.' :: n.domain.toList ∧ IsWord n.domain.toList := by
  obtain ⟨r, hvalid, htext, hmeans⟩ := Layout.exists_of_ofChars? h
  have hword : IsWord n.domain.toList := hmeans.domain ▸ hvalid.domain
  -- Everything but the domain and its point is the front, and that is not empty.
  obtain ⟨front, hfront, hsplit⟩ : ∃ front, front ≠ [] ∧ name.toList = front ++ '.' :: n.domain.toList := by
    refine ⟨r.basename ++ (bracketText r.pre ++ '.' :: (r.nature ++ (plusText r.plus ++
      bracketText r.post))), by simp [hvalid.basename_ne], ?_⟩
    rw [← htext, hmeans.domain]
    simp [Layout.text, Layout.afterBasename, Layout.tail]
  have hpoint : '.' ∉ n.domain.toList := not_mem_of_isWord hword rfl
  have hne : n.domain.toList ≠ [] := by
    obtain ⟨c, cs, hcs, -⟩ := hword
    simp [hcs]
  refine ⟨?_, hword⟩
  have hafter : name.toList.reverse.takeWhile (· != '.') = n.domain.toList.reverse := by
    rw [hsplit, List.reverse_append, List.reverse_cons, List.append_assoc,
      List.takeWhile_append_of_pos]
    · simp
    · intro c hc
      have hother : c ≠ '.' := fun hsame => hpoint (hsame ▸ List.mem_reverse.mp hc)
      simpa using hother
  unfold Path.suffixOf
  simp only [hafter, List.length_reverse, List.reverse_reverse]
  have hlong : 0 < front.length := List.length_pos_iff.mpr hfront
  rw [if_neg]
  simp only [hsplit, List.reverse_eq_nil_iff, hne, List.length_append, List.length_cons, false_or]
  omega

end SinkName

namespace Resolution

/-- **The launcher of a sink** is looked up by its domain in small letters. -/
theorem launcherKey_of_parse? {file : Path} {n : SinkName} (h : SinkName.parse? file.name = some n) :
    launcherKey file = Text.lower n.domain := by
  obtain ⟨hsuffix, hword⟩ := SinkName.suffixOf_of_parse? h
  have hsigma : 'Σ' ∉ n.domain.toList := SinkName.not_mem_of_isWord hword (by decide)
  have hlower : Text.lower file.suffix =
      String.ofList ('.' :: n.domain.toList.flatMap (Text.mapCase Text.lowerRuns Text.lowerSpecial)) := by
    have hpoint : Text.mapCase Text.lowerRuns Text.lowerSpecial '.' = ['.'] := by decide +kernel
    unfold Text.lower Path.suffix
    rw [String.toList_ofList, hsuffix, Text.lowerFrom_eq_flatMap (by simp [hsigma]),
      List.flatMap_cons, hpoint]
    rfl
  unfold launcherKey Text.lower at *
  rw [hlower, String.toList_ofList, Text.lowerFrom_eq_flatMap hsigma]
  obtain ⟨c, cs, hcs, hstart, -⟩ := hword
  obtain ⟨d, ds, himage, hd⟩ := SinkName.mapCase_of_isWordStart hstart
  rw [hcs, List.flatMap_cons, himage]
  simp [hd]

end Resolution

/-! ### The same file, from the same directory -/

namespace Path

/-- The path ends in an ordinary name: there is one, and it does not go up. -/
structure Named (p : Path) : Prop where
  /-- Every part of it is a name. -/
  wellFormed : p.WellFormed
  /-- There is a last one. -/
  name_ne : p.name ≠ ""
  /-- It does not go up. -/
  not_up : p.name ≠ ".."

theorem Named.eq_child {p : Path} (h : p.Named) : p = p.parent.child p.name := by
  rcases p.parts_eq_nil_or_child with hnil | ⟨name, hchild⟩
  · refine absurd ?_ h.name_ne
    simp [name, hnil]
  · have hname : p.name = name := by
      rw [hchild]
      simp [Path.name, child]
    rwa [hname]

theorem Named.isPart {p : Path} (h : p.Named) : IsPart p.name :=
  (h.eq_child ▸ h.wellFormed : (p.parent.child p.name).WellFormed).isPart

/-- A path that ends in an ordinary name is made absolute by its parent. -/
theorem absolute_child (cwd p : Path) {name : String} (hname : name ≠ "..") :
    absolute cwd (p.child name) = (absolute cwd p).child name := by
  have hjoin : cwd / p.child name = (cwd / p).child name := by
    show cwd.join (p.child name) = (cwd.join p).child name
    by_cases h : p.isAbsolute = true
    · have hchild : (p.child name).isAbsolute = true := h
      rw [join, join, if_pos h, if_pos hchild]
    · have hchild : ¬(p.child name).isAbsolute = true := h
      rw [join, join, if_neg h, if_neg hchild]
      simp [child]
  unfold absolute
  simp only [hjoin]
  exact congrArg (Path.mk (cwd / p).anchor) (collapse_concat [] (cwd / p).parts hname)

theorem Named.absolute_eq {p : Path} (h : p.Named) (cwd : Path) :
    absolute cwd p = (absolute cwd p.parent).child p.name := by
  conv_lhs => rw [h.eq_child]
  exact absolute_child cwd p.parent h.not_up

end Path

namespace Resolution

variable {m : Machine} {launchers : Launchers} {strategies : List Strategy} {sink : Path}

/-- **The sink resolves to** a stage: it is run as one, from its own directory. -/
def SinkResolves (m : Machine) (launchers : Launchers) (strategies : List Strategy) (sink : Path)
    (stage : Stage) : Prop :=
  RunsAs m ⟨(m.absolute sink).parent, launchers⟩ strategies (m.absolute sink) stage

theorem absolute_parent (m : Machine) (h : sink.Named) :
    (m.absolute sink).parent = m.absolute sink.parent := by
  unfold Machine.absolute
  rw [h.absolute_eq, Path.parent_child]

/-- The first file that the name of a sink may mean is the sink. -/
theorem candidates_name (h : sink.Named) (searchDirs : List String) :
    candidates m (m.absolute sink.parent) sink.name searchDirs =
      m.absolute sink :: (searchDirs.map fun d => m.absolute (.ofString d)).map
        (· / Path.ofString sink.name) := by
  unfold candidates
  rw [List.map_cons, Path.join_ofString _ h.isPart]
  unfold Machine.absolute
  rw [h.absolute_eq]

/-- **A sink that resolves is found by its name**, whatever is searched after its
    own directory. -/
theorem SinkResolves.resolves (h : sink.Named) {stage : Stage}
    (hruns : SinkResolves m launchers strategies sink stage) (searchDirs : List String) :
    Resolves m launchers strategies sink.name sink searchDirs stage := by
  unfold SinkResolves at hruns
  rw [absolute_parent m h] at hruns
  unfold Resolves
  rw [candidates_name h, firstRun_cons_iff]
  exact .inl hruns

/-- Where nothing else is searched, the name resolves just as the sink does. -/
theorem resolves_name_iff (h : sink.Named) {stage : Stage} :
    Resolves m launchers strategies sink.name sink [] stage ↔
      SinkResolves m launchers strategies sink stage := by
  refine ⟨fun hresolves => ?_, fun hruns => hruns.resolves h []⟩
  unfold Resolves at hresolves
  rw [candidates_name h, firstRun_cons_iff] at hresolves
  unfold SinkResolves
  rw [absolute_parent m h]
  rcases hresolves with hruns | ⟨-, hlater⟩
  · exact hruns
  · exact absurd hlater not_firstOf_nil

section

variable {ν : Type} {site : Site ν}

theorem SinkResolves.ends {stage : Stage}
    (hfail : FailAsOs site.machine ⟨(site.machine.absolute sink).parent, launchers⟩ strategies)
    (h : SinkResolves site.machine launchers strategies sink stage) :
    (resolveSink sink launchers strategies).Ends site (.ok stage) site := by
  obtain ⟨found, hends, hfound⟩ := exists_ends_resolveFile hfail (site.machine.absolute sink)
  obtain rfl := (hfound stage).mpr h
  unfold resolveSink
  exact (Act.ends_machine site).bind_silent (hends.bind_silent (Act.ends_pure _ site))

/-- A sink that resolves to no stage is its own command. -/
theorem ends_resolveSink_of_not_resolves
    (hfail : FailAsOs site.machine ⟨(site.machine.absolute sink).parent, launchers⟩ strategies)
    (h : ∀ stage, ¬SinkResolves site.machine launchers strategies sink stage) :
    (resolveSink sink launchers strategies).Ends site
      (.ok (fallbackForSink (site.machine.absolute sink))) site := by
  obtain ⟨found, hends, hfound⟩ := exists_ends_resolveFile hfail (site.machine.absolute sink)
  cases found with
  | some stage => exact absurd ((hfound stage).mp rfl) (h stage)
  | none =>
    unfold resolveSink
    exact (Act.ends_machine site).bind_silent (hends.bind_silent (Act.ends_pure _ site))

end

/-! ### A sink that is a plain file -/

/-- **A plain file is run by the launcher of its domain**, if there is one. -/
theorem sinkResolves_plain_iff (hgive : launchers.GiveCommands) (h : sink.Named) {n : SinkName}
    (hparse : SinkName.parse? sink.name = some n) {f : File}
    (hstat : m.tree.stat m.home (m.absolute sink).toString = .ok (.file f))
    (hmode : f.mode &&& 0o111 = 0) (hscript : Machine.startsScript f.bytes = false) (stage : Stage) :
    SinkResolves m launchers standard sink stage ↔
      ∃ launch, launchers.lookup (Text.lower n.domain) = some launch ∧
        stage.argv = launch (m.absolute sink).toString ∧
        stage.cwd = some (m.absolute sink.parent).toString ∧ stage.env = none := by
  -- The suffix of the file name is the domain of the sink, in small letters.
  have hkey : launcherKey (m.absolute sink) = Text.lower n.domain := by
    refine launcherKey_of_parse? ?_
    unfold Machine.absolute
    rw [h.absolute_eq]
    simpa [Path.name, Path.child] using hparse
  unfold SinkResolves
  rw [runsAs_standard_iff hgive, absolute_parent m h]
  unfold stageAt stageOfFile
  simp only [hstat, hmode, hscript, hkey, bne_self_eq_false, Bool.or_self, Bool.false_eq_true,
    if_false, Option.bind_eq_some_iff]
  refine exists_congr fun launch => and_congr_right fun hlookup => ?_
  cases hargv : launch (m.absolute sink).toString with
  | nil => exact absurd hargv (hgive.of_lookup hlookup _)
  | cons command args =>
    obtain ⟨command', args', dir, env⟩ := stage
    simp only [Stage.ofArgv, Except.toOption, Option.some.injEq, Stage.mk.injEq, Stage.argv,
      List.cons.injEq]
    constructor
    · rintro ⟨rfl, rfl, rfl, rfl⟩
      exact ⟨⟨rfl, rfl⟩, rfl, rfl⟩
    · rintro ⟨⟨rfl, rfl⟩, rfl, rfl⟩
      exact ⟨rfl, rfl, rfl, rfl⟩

/-! ### Agreement -/

/-- **Sink and name agree.**  The stage that a strategy gives for a sink is that
    of its name as a token, whatever is searched besides.  Where nothing else is
    searched, a strategy gives a stage for both or for none, and then the sink is
    its own command and the name stays one.  A sink that is a plain file, its path
    made absolute by its text, is run by the launcher of its domain in small
    letters, and by none just if there is no such launcher. -/
theorem resolveSink_agrees {ν : Type} (launchers : Launchers) (sink : Path) (site : Site ν)
    (hgive : launchers.GiveCommands) (hsink : sink.Named) :
    (∀ stage, SinkResolves site.machine launchers standard sink stage →
      (resolveSink sink launchers standard).Ends site (.ok stage) site ∧
      ∀ searchDirs, (resolveToken sink.name sink searchDirs launchers standard).Ends site
        (.ok stage) site) ∧
    (∀ stage, Resolves site.machine launchers standard sink.name sink [] stage ↔
      SinkResolves site.machine launchers standard sink stage) ∧
    ((∀ stage, ¬SinkResolves site.machine launchers standard sink stage) →
      (resolveSink sink launchers standard).Ends site
        (.ok ⟨(site.machine.absolute sink).toString, [],
          some (site.machine.absolute sink.parent).toString, none⟩) site ∧
      (resolveToken sink.name sink [] launchers standard).Ends site
        (.ok ⟨sink.name, [], some (site.machine.absolute sink.parent).toString, none⟩) site) ∧
    ∀ n f, SinkName.parse? sink.name = some n →
      site.machine.tree.stat site.machine.home (site.machine.absolute sink).toString =
        .ok (.file f) → f.mode &&& 0o111 = 0 → Machine.startsScript f.bytes = false →
      (∀ stage, SinkResolves site.machine launchers standard sink stage ↔
        ∃ launch, launchers.lookup (Text.lower n.domain) = some launch ∧
          stage.argv = launch (site.machine.absolute sink).toString ∧
          stage.cwd = some (site.machine.absolute sink.parent).toString ∧ stage.env = none) ∧
      ((∀ stage, ¬SinkResolves site.machine launchers standard sink stage) ↔
        launchers.lookup (Text.lower n.domain) = none) := by
  have hfail : ∀ dir, FailAsOs site.machine ⟨dir, launchers⟩ standard := fun dir =>
    failAsOs_standard hgive
  refine ⟨fun stage hstage => ?_, fun stage => resolves_name_iff hsink, fun hnone => ⟨?_, ?_⟩, ?_⟩
  · exact ⟨hstage.ends (hfail _), fun searchDirs => (hstage.resolves hsink searchDirs).ends (hfail _)⟩
  · have hends := ends_resolveSink_of_not_resolves (hfail _) hnone
    unfold fallbackForSink at hends
    rwa [absolute_parent site.machine hsink] at hends
  · exact ends_resolveToken_of_not_resolves (hfail _) fun stage hresolves =>
      hnone stage ((resolves_name_iff hsink).mp hresolves)
  · intro n f hparse hstat hmode hscript
    have hplain := fun stage => sinkResolves_plain_iff hgive hsink hparse hstat hmode hscript stage
    refine ⟨hplain, ?_⟩
    simp only [hplain]
    constructor
    · intro hnone
      cases hlookup : launchers.lookup (Text.lower n.domain) with
      | none => rfl
      | some launch =>
        -- A launcher that is there gives a stage, since it always gives a command.
        cases hargv : launch (site.machine.absolute sink).toString with
        | nil => exact absurd hargv (hgive.of_lookup hlookup _)
        | cons command args =>
          exact absurd ⟨launch, hlookup, hargv.symm, rfl, rfl⟩
            (hnone ⟨command, args, some (site.machine.absolute sink.parent).toString, none⟩)
    · rintro hnone stage ⟨launch, hlookup, -⟩
      cases hnone.symm.trans hlookup

/-- A site with a sink in a directory, and a link into a directory beside it. -/
def linkSite : Site Unit where
  machine :=
    { tree := ⟨[(["d"], .dir), (["e"], .dir), (["e", "f"], .dir), (["d", "l"], .link "../e/f"),
        (["e", "x.sql.py"], .file ⟨[112], 0o644, 0⟩)]⟩
      cwd := ⟨.root, []⟩ }
  notes := ()

theorem wellFormed_link {parts : List String}
    (h : ∀ part ∈ parts, part ∈ ["d", "e", "l", "..", "x.sql.py"]) (anchor : Anchor) :
    (Path.mk anchor parts).WellFormed := by
  have hall : ∀ part ∈ ["d", "e", "l", "..", "x.sql.py"], Path.IsPart part := by
    simp only [List.forall_mem_cons]
    exact ⟨⟨by decide, by decide, by decide⟩, ⟨by decide, by decide, by decide⟩,
      ⟨by decide, by decide, by decide⟩, ⟨by decide, by decide, by decide⟩,
      ⟨by decide, by decide, by decide⟩, by simp⟩
  exact fun part hpart => hall part (h part hpart)

theorem stat_link : linkSite.machine.tree.stat linkSite.machine.home "/e/x.sql.py" =
    .ok (.file ⟨[112], 0o644, 0⟩) := by
  have hname : Tree.Nameable ⟨.root, ["e", "x.sql.py"]⟩ "x.sql.py" :=
    ⟨rfl, by decide, rfl, by decide, by decide⟩
  have hleads : linkSite.machine.tree.Leads Tree.maxLinks [] ["e"] Tree.maxLinks ["e"] :=
    .down (by decide) (by decide) rfl .here
  exact Tree.stat_of_leads (wellFormed_link (by simp) .root) hname hleads rfl

/-- The link leads into the other directory, and up from there to its file. -/
theorem stat_across_link : linkSite.machine.tree.stat linkSite.machine.home "d/l/../x.sql.py" =
    .ok (.file ⟨[112], 0o644, 0⟩) := by
  have hname : Tree.Nameable ⟨.here, ["d", "l", "..", "x.sql.py"]⟩ "x.sql.py" :=
    ⟨rfl, by decide, rfl, by decide, by decide⟩
  have hlink : linkSite.machine.tree.Leads 39 ["d"] ["..", "e", "f", ".."] 39 ["e"] :=
    .up (.down (by decide) (by decide) rfl (.down (by decide) (by decide) rfl (.up .here)))
  have hleads : linkSite.machine.tree.Leads Tree.maxLinks [] ["d", "l", ".."] 39 ["e"] :=
    .down (by decide) (by decide) rfl (.across (by decide) (by decide) rfl hlink)
  exact Tree.stat_of_leads (wellFormed_link (by simp) .here) hname hleads rfl

theorem stat_beside_link (f : File) :
    linkSite.machine.tree.stat linkSite.machine.home "/d/x.sql.py" ≠ .ok (.file f) := by
  have hname : Tree.Nameable ⟨.root, ["d", "x.sql.py"]⟩ "x.sql.py" :=
    ⟨rfl, by decide, rfl, by decide, by decide⟩
  have hleads : linkSite.machine.tree.Leads Tree.maxLinks [] ["d"] Tree.maxLinks ["d"] :=
    .down (by decide) (by decide) rfl .here
  have hfollowed : linkSite.machine.tree.resolve [] true "/d/x.sql.py" =
      linkSite.machine.tree.walk true Tree.maxLinks ["d"] ["x.sql.py"] :=
    Tree.resolve_nameable (wellFormed_link (by simp) .root) hname hleads true
  have hvacant : linkSite.machine.tree.resolve [] true "/d/x.sql.py" =
      .ok (.vacant ["d", "x.sql.py"]) :=
    hfollowed.trans (Tree.walk_single_vacant (by decide) (by decide) true rfl)
  intro hfile
  obtain ⟨-, hstat⟩ := Tree.of_aboutPath_ok hfile
  have hentry : linkSite.machine.tree.entryAt [] true "/d/x.sql.py" = .error .noEntry := by
    unfold Tree.entryAt
    rw [hvacant]
    rfl
  have hhome : linkSite.machine.home = [] := rfl
  rw [hhome, hentry] at hstat
  cases hstat

theorem giveCommands_pythonOnly : pythonOnly.GiveCommands := by
  simp [Launchers.GiveCommands, pythonOnly, launcherOf]

theorem lower_py : Text.lower "py" = "py" := by decide +kernel

theorem named_link : (Path.mk .here ["e", "x.sql.py"]).Named :=
  ⟨wellFormed_link (by simp) .here, by decide, by decide⟩

theorem link_resolveSink_agrees :
    pythonOnly.GiveCommands ∧ (Path.mk .here ["e", "x.sql.py"]).Named ∧
    ∃ stage, (resolveSink ⟨.here, ["e", "x.sql.py"]⟩ pythonOnly standard).Ends linkSite (.ok stage)
        linkSite ∧
      stage.argv = ["python", "-u", "/e/x.sql.py"] ∧
      (resolveToken "x.sql.py" ⟨.here, ["e", "x.sql.py"]⟩ ["d"] pythonOnly standard).Ends linkSite
        (.ok stage) linkSite := by
  have hgive := giveCommands_pythonOnly
  have hnamed := named_link
  obtain ⟨hfound, -, -, hplain⟩ :=
    resolveSink_agrees pythonOnly ⟨.here, ["e", "x.sql.py"]⟩ linkSite hgive hnamed
  obtain ⟨hruns, -⟩ := hplain ⟨"x", "sql", false, "py", [], []⟩ ⟨[112], 0o644, 0⟩ (by decide)
    stat_link rfl rfl
  have hstage := (hruns ⟨"python", ["-u", "/e/x.sql.py"], some "/e", none⟩).mpr
    ⟨launcherOf ["python", "-u"], by rw [lower_py]; rfl, by decide, by decide, rfl⟩
  obtain ⟨hsink, htoken⟩ := hfound _ hstage
  exact ⟨hgive, hnamed, _, hsink, rfl, htoken ["d"]⟩

/-- Through a link and up again, the operating system finds a file that the path
    made absolute by its text does not mean: the sink is its own command, although
    there is a launcher for it. -/
theorem link_resolveSink_misses :
    (∃ f n launch, linkSite.machine.tree.stat linkSite.machine.home
        (Path.mk .here ["d", "l", "..", "x.sql.py"]).toString = .ok (.file f) ∧
      f.mode &&& 0o111 = 0 ∧ Machine.startsScript f.bytes = false ∧
      SinkName.parse? (Path.mk .here ["d", "l", "..", "x.sql.py"]).name = some n ∧
      pythonOnly.lookup (Text.lower n.domain) = some launch) ∧
    (resolveSink ⟨.here, ["d", "l", "..", "x.sql.py"]⟩ pythonOnly standard).Ends linkSite
      (.ok ⟨"/d/x.sql.py", [], some "/d", none⟩) linkSite := by
  have habsolute : linkSite.machine.absolute ⟨.here, ["d", "l", "..", "x.sql.py"]⟩ =
      ⟨.root, ["d", "x.sql.py"]⟩ := by decide
  have htext : (Path.mk .root ["d", "x.sql.py"]).toString = "/d/x.sql.py" := by decide
  refine ⟨⟨⟨[112], 0o644, 0⟩, ⟨"x", "sql", false, "py", [], []⟩, launcherOf ["python", "-u"],
    stat_across_link, rfl, rfl, by decide, by rw [lower_py]; rfl⟩, ?_⟩
  have hnone : ∀ stage, ¬SinkResolves linkSite.machine pythonOnly standard
      ⟨.here, ["d", "l", "..", "x.sql.py"]⟩ stage := by
    intro stage hstage
    unfold SinkResolves at hstage
    rw [habsolute, runsAs_standard_iff giveCommands_pythonOnly] at hstage
    obtain ⟨⟨f, hstat⟩, -⟩ := stageAt_cases hstage
    rw [htext] at hstat
    exact stat_beside_link f hstat
  have hends := ends_resolveSink_of_not_resolves (failAsOs_standard giveCommands_pythonOnly) hnone
  rw [habsolute] at hends
  exact hends

end Resolution

end SinkPipeline
