import SinkPipeline.Proofs.FileTree.Making
import SinkPipeline.Proofs.Output.Replacing
import SinkPipeline.Proofs.Output.Successive

/-! # Filling an empty directory

  Files are written one after the other below a directory that is empty at first.
  No file is above another one.  What carries the writing is what the directory
  **holds** after some of them: these files, the directories above them, and
  nothing else.

  - The next file can be written: what is above it is free or a directory, its
    own name is free, and so is a name for its temporary file.
  - The directory then holds the next file too.

  Only names of files that have been written can be taken, so the number of the
  temporary file is at most how many there are.
-/

namespace SinkPipeline

open SinkPipeline.Tree (Plain Usable Nameable maxPathBytes maxNameBytes)

/-- A file below a directory: the names down to it, and its bytes. -/
structure Leaf where
  /-- The names. -/
  parts : List String
  /-- What it holds. -/
  bytes : Bytes
  /-- There is a name. -/
  named : parts ≠ []
  /-- The names are legal parts of a path. -/
  isPart : ∀ part ∈ parts, Path.IsPart part
  /-- They do not go up, and none is too long. -/
  plain : ∀ part ∈ parts, Plain part
  /-- They are made of characters, none of which is NUL. -/
  scalar : ∀ part ∈ parts, ∀ c ∈ part.toList,
    c ≠ '\x00' ∧ (Text.CodePoint.ofHeld c).isSurrogate = false

namespace Leaf

/-- The path of the file below a directory. -/
def target (x : Leaf) (base : Path) : Path := base.below x.parts

/-- Neither of two files is the other one or above it. -/
def Apart (x y : Leaf) : Prop := ¬x.parts <+: y.parts ∧ ¬y.parts <+: x.parts

/-- **A file fits** below a directory as one of some number of files: its path is
    not too long, nor are the temporary files that may be used for it. -/
structure Fits (x : Leaf) (base : Path) (count : Nat) : Prop where
  /-- The path of the file. -/
  file : (x.target base).toString.utf8ByteSize ≤ maxPathBytes
  /-- The names and the paths of temporary files beside it. -/
  temp : ∀ n < count, (AtomicWrite.tempName n).utf8ByteSize ≤ maxNameBytes ∧
    ((x.target base).parent.child (AtomicWrite.tempName n)).toString.utf8ByteSize ≤ maxPathBytes

/-- The last name of a file, and those above. -/
theorem exists_snoc (x : Leaf) : ∃ names name, x.parts = names ++ [name] := by
  rcases List.eq_nil_or_concat x.parts with h | ⟨names, name, h⟩
  · exact absurd h x.named
  · exact ⟨names, name, h.trans List.concat_eq_append⟩

theorem target_eq (x : Leaf) (base : Path) {names : List String} {name : String}
    (h : x.parts = names ++ [name]) : x.target base = (base.below names).child name := by
  rw [Path.child_below, ← h, target]

/-- The names can be handed over. -/
theorem given (x : Leaf) : ∀ part ∈ x.parts, Tree.refusal? part = none := by
  intro part hpart
  rw [Tree.refusal?_eq_none_iff]
  intro c hc
  obtain ⟨hnul, hscalar⟩ := x.scalar part hpart c hc
  exact ⟨hnul, by simp [Tree.lacksByte, hscalar]⟩

end Leaf

/-- The last name of a file can be followed, unless its path is too long. -/
theorem Leaf.nameable (x : Leaf) {base : Path} (hgiven : Tree.refusal? base.toString = none)
    (hshort : (x.target base).toString.utf8ByteSize ≤ maxPathBytes) {names : List String}
    {name : String} (hparts : x.parts = names ++ [name]) : Nameable (x.target base) name := by
  have hplain : Plain name := x.plain name (by simp [hparts])
  refine ⟨?_, hplain.not_up, Path.refusal?_below hgiven x.given, Nat.not_lt.mpr hshort, hplain.short⟩
  rw [x.target_eq base hparts, Path.parent_child]

namespace AtomicWrite

/-! ### Names of temporary files -/

/-- The name of a temporary file can be handed over. -/
theorem refusal?_tempName (n : Nat) : Tree.refusal? (tempName n) = none := by
  have hdigit : ∀ d : Fin 16, d.val.digitChar ≠ '\x00' ∧ Tree.lacksByte d.val.digitChar = false := by
    decide
  refine Tree.refusal?_append rfl ?_
  rw [Tree.refusal?_eq_none_iff]
  intro c hc
  rw [String.toList_ofList] at hc
  by_contra hbad
  refine not_mem_hexName (fun d hd => hbad ?_) n hc
  rw [hd]
  exact hdigit d

/-- The number of the fresh name is at most how many such names can be taken. -/
theorem exists_freshName_le {names taken : List String}
    (h : ∀ k, tempName k ∈ names → tempName k ∈ taken) :
    ∃ n ≤ taken.length, freshName names = tempName n := by
  obtain ⟨n, hn, -, hbefore⟩ := freshName_eq names
  refine ⟨n, ?_, hn⟩
  have hnodup : ((List.range n).map tempName).Nodup := List.nodup_range.map tempName_injective
  have hsub : (List.range n).map tempName ⊆ taken := by
    intro name hname
    obtain ⟨k, hk, rfl⟩ := List.mem_map.mp hname
    exact h k (hbefore k (List.mem_range.mp hk))
  simpa using (hnodup.subperm hsub).length_le

end AtomicWrite

namespace Tree

/-! ### What a directory holds -/

/-- A path to an empty directory. -/
structure Bare (t : Tree) (start : Place) (base : Path) (dir : Place) : Prop where
  /-- Its parts are legal. -/
  wellFormed : base.WellFormed
  /-- It can be handed over. -/
  given : refusal? base.toString = none
  /-- It leads to the directory. -/
  leads : ∃ left, t.Leads maxLinks (origin start base) base.parts left dir
  /-- Nothing is below the directory. -/
  empty : ∀ q, q ≠ [] → t.get? (dir ++ q) = none

/-- **What a directory holds** that was empty: some files, the directories above
    them, and nothing else.  Elsewhere nothing has changed. -/
structure Holds (t₀ : Tree) (dir : Place) (xs : List Leaf) (t : Tree) : Prop where
  /-- The files. -/
  file : ∀ x ∈ xs, ∃ mtime, t.get? (dir ++ x.parts) = some (.file ⟨x.bytes, 0o644, mtime⟩)
  /-- The directories above them. -/
  above : ∀ x ∈ xs, ∀ q, q <+: x.parts → q ≠ [] → q ≠ x.parts → t.get? (dir ++ q) = some .dir
  /-- All the rest is as it was. -/
  elsewhere : ∀ p, (∀ x ∈ xs, ∀ q, q <+: x.parts → q ≠ [] → p ≠ dir ++ q) → t.get? p = t₀.get? p

theorem holds_nil (t : Tree) (dir : Place) : t.Holds dir [] t :=
  ⟨by simp, by simp, fun _ _ => rfl⟩

section

variable {t₀ t : Tree} {start dir : Place} {base : Path} {xs : List Leaf} {y : Leaf}
  {names : List String} {name : String}

/-- Below the directory there is nothing but what is above some file, or is one. -/
theorem Holds.get?_below (h : t₀.Holds dir xs t) (hb : t₀.Bare start base dir) {q : List String}
    (hq : q ≠ []) : (∃ x ∈ xs, q <+: x.parts) ∨ t.get? (dir ++ q) = none := by
  by_cases hx : ∃ x ∈ xs, q <+: x.parts
  · exact .inl hx
  · right
    rw [h.elsewhere, hb.empty q hq]
    intro x hmem q' hq' _ hsame
    rw [List.append_cancel_left hsame] at hx
    exact hx ⟨x, hmem, hq'⟩

/-- **There are no other files** below the directory. -/
theorem Holds.exists_leaf (h : t₀.Holds dir xs t) (hb : t₀.Bare start base dir) {q : List String}
    (hq : q ≠ []) {f : File} (hget : t.get? (dir ++ q) = some (.file f)) :
    ∃ x ∈ xs, x.parts = q ∧ x.bytes = f.bytes := by
  rcases h.get?_below hb hq with ⟨x, hx, hbelow⟩ | hnone
  · by_cases hsame : q = x.parts
    · obtain ⟨mtime, hfile⟩ := h.file x hx
      rw [hsame, hfile] at hget
      cases hget
      exact ⟨x, hx, hsame.symm, rfl⟩
    · rw [h.above x hx q hbelow hq hsame] at hget
      cases hget
  · rw [hnone] at hget
    cases hget

/-- The path of the directory leads to it as before. -/
theorem Holds.leads (h : t₀.Holds dir xs t) (hb : t₀.Bare start base dir) :
    ∃ left, t.Leads maxLinks (origin start base) base.parts left dir := by
  obtain ⟨left, hleads⟩ := hb.leads
  refine ⟨left, hleads.congr fun p hp => h.elsewhere p fun x _ q _ hq hsame => ?_⟩
  rcases hp with hdir | ⟨l, hlink⟩
  · rw [hsame, hb.empty q hq] at hdir
    cases hdir
  · rw [hsame, hb.empty q hq] at hlink
    cases hlink

/-- What is above the next file is free or a directory. -/
theorem Holds.open_above (h : t₀.Holds dir xs t) (hb : t₀.Bare start base dir)
    (hapart : ∀ x ∈ xs, x.Apart y) {q : List String} (hq : q <+: y.parts) (hne : q ≠ []) :
    t.get? (dir ++ q) = none ∨ t.get? (dir ++ q) = some .dir := by
  rcases h.get?_below hb hne with ⟨x, hx, hbelow⟩ | hnone
  · right
    refine h.above x hx q hbelow hne ?_
    rintro rfl
    exact (hapart x hx).1 hq
  · exact .inl hnone

/-- **The directories of the next file** can be made. -/
theorem Holds.makeDirs (h : t₀.Holds dir xs t) (hb : t₀.Bare start base dir)
    (hapart : ∀ x ∈ xs, x.Apart y) (hshort : (y.target base).toString.utf8ByteSize ≤ maxPathBytes)
    (hparts : y.parts = names ++ [name]) :
    ∃ t' left, t.makeDirs start (base.below names) = (t', .ok ()) ∧ t.Opens dir names t' ∧
      t'.Leads maxLinks (origin start base) (base.below names).parts left (dir ++ names) := by
  have hfile : Usable (base.below (names ++ [name])) := by
    rw [← hparts]
    exact ⟨hb.wellFormed.below y.isPart, Path.refusal?_below hb.given y.given,
      Nat.not_lt.mpr hshort⟩
  rw [← Path.child_below] at hfile
  obtain ⟨left, hleads⟩ := h.leads hb
  have hbelow : names <+: y.parts := ⟨[name], hparts.symm⟩
  obtain ⟨t', hmade, hopens, hleads'⟩ := makeDirs_below hleads hfile.of_child
    (fun x hx => y.plain x (hbelow.subset hx))
    (fun q hq hne => h.open_above hb hapart (hq.trans hbelow) hne)
  exact ⟨t', left, hmade, hopens, hleads'⟩

/-- Making its directories, nothing gets in the way of the next file. -/
theorem Opens.get?_next {t' : Tree} (hopens : t.Opens dir names t') {rest : List String}
    (hrest : rest ≠ []) : t'.get? (dir ++ (names ++ rest)) = t.get? (dir ++ (names ++ rest)) := by
  refine hopens.kept _ fun q hq _ hsame => hrest ?_
  have hlength := hq.length_le
  rw [← List.append_cancel_left hsame, List.length_append] at hlength
  exact List.length_eq_zero_iff.mp (by omega)

/-- **One more file**, once its directories have been made. -/
theorem Holds.put {t' : Tree} (h : t₀.Holds dir xs t) (hopens : t.Opens dir names t')
    (hparts : y.parts = names ++ [name]) (hapart : ∀ x ∈ xs, x.Apart y) (now : Nat) :
    t₀.Holds dir (xs ++ [y]) (t'.put (dir ++ y.parts) (.file ⟨y.bytes, 0o644, now⟩)) := by
  have hnames : names <+: y.parts := ⟨[name], hparts.symm⟩
  have hput : ∀ q, q ≠ y.parts →
      (t'.put (dir ++ y.parts) (.file ⟨y.bytes, 0o644, now⟩)).get? (dir ++ q) = t'.get? (dir ++ q) :=
    fun q hq => get?_put_of_ne _ _ (by simpa using hq)
  refine ⟨fun x hx => ?_, fun x hx q hq hne hproper => ?_, fun p hp => ?_⟩
  · rcases List.mem_append.mp hx with hx | hx
    · obtain ⟨mtime, hget⟩ := h.file x hx
      refine ⟨mtime, ?_⟩
      rw [hput _ fun hsame => (hapart x hx).1 (hsame ▸ List.prefix_refl _), ← hget]
      -- Were its place one of the new directories, it would be above the new file.
      refine hopens.kept _ fun q hq _ hsame => (hapart x hx).1 ?_
      rw [List.append_cancel_left hsame]
      exact hq.trans hnames
    · obtain rfl := List.mem_singleton.mp hx
      exact ⟨now, get?_put_self _ _ (by simp [x.named])⟩
  · by_cases hmade : q <+: names
    · -- A directory above the new file.
      have hlast : q ≠ y.parts := by
        rintro rfl
        have hlength := hmade.length_le
        simp only [hparts, List.length_append, List.length_singleton] at hlength
        omega
      rw [hput q hlast, hopens.made q hmade hne]
    · rcases List.mem_append.mp hx with hx | hx
      · have hold : t'.get? (dir ++ q) = t.get? (dir ++ q) := by
          refine hopens.kept _ fun r hr _ hsame => hmade ?_
          rwa [List.append_cancel_left hsame]
        rw [hput q fun hsame => (hapart x hx).2 (hsame ▸ hq), hold]
        exact h.above x hx q hq hne hproper
      · obtain rfl := List.mem_singleton.mp hx
        rw [hparts] at hq hproper
        exact absurd ((List.prefix_concat_iff.mp hq).resolve_left hproper) hmade
  · have hy : ∀ q, q <+: y.parts → q ≠ [] → p ≠ dir ++ q := hp y (by simp)
    rw [get?_put_of_ne _ _ (hy _ (List.prefix_refl _) y.named)]
    rw [hopens.kept p fun q hq => hy q (hq.trans hnames)]
    exact h.elsewhere p fun x hx => hp x (by simp [hx])

end

end Tree

namespace AtomicWrite

open SinkPipeline.Tree (Holds Bare Opens)

section

variable {m : Machine} {t₀ : Tree} {dir : Place} {base : Path} {xs : List Leaf} {y : Leaf}

/-- The number of a temporary file beside the next file is at most how many files
    there are: below the directory, only names of these are taken. -/
theorem exists_freshName (h : t₀.Holds dir xs m.tree) (hb : t₀.Bare m.home base dir)
    {names : List String} {tree : Tree} (hopens : m.tree.Opens dir names tree) :
    ∃ n ≤ xs.length, freshName (tree.names (dir ++ names)) = tempName n := by
  -- A name that is taken is the next name of a file further down.
  have htaken : ∀ k, tempName k ∈ tree.names (dir ++ names) →
      tempName k ∈ xs.filterMap (·.parts[names.length]?) := by
    intro k hk
    have hget := Tree.get?_ne_none_of_mem_names hk
    rw [List.append_assoc, hopens.get?_next (by simp)] at hget
    rcases h.get?_below hb (q := names ++ [tempName k]) (by simp) with ⟨x, hx, hbelow⟩ | hnone
    · obtain ⟨rest, hrest⟩ := hbelow
      refine List.mem_filterMap.mpr ⟨x, hx, ?_⟩
      rw [← hrest]
      simp
    · exact absurd hnone hget
  obtain ⟨n, hn, hfresh⟩ := exists_freshName_le htaken
  exact ⟨n, hn.trans (List.length_filterMap_le _ _), hfresh⟩

/-- **The next file can be written.** -/
theorem write_next_succeeds (h : t₀.Holds dir xs m.tree) (hb : t₀.Bare m.home base dir)
    (hapart : ∀ x ∈ xs, x.Apart y) {count : Nat} (hfits : y.Fits base count)
    (hcount : xs.length < count) {s : Stream} (hs : s.fault? = none) :
    (write m (y.target base) s).result = .ok s.bytes.length := by
  obtain ⟨names, name, hparts⟩ := y.exists_snoc
  obtain ⟨tree, left, hmade, hopens, hleads⟩ := h.makeDirs hb hapart hfits.file hparts
  have hparent : (y.target base).parent = base.below names := by
    rw [y.target_eq base hparts, Path.parent_child]
  have hgiven : Tree.refusal? (base.below names).toString = none :=
    Path.refusal?_below hb.given fun x hx => y.given x (by simp [hparts, hx])
  -- Nothing has the name of the file, and the temporary file has a number that fits.
  have hfree : tree.get? (dir ++ names ++ [name]) ≠ some .dir := by
    rw [List.append_assoc, hopens.get?_next (by simp), ← hparts]
    rcases h.get?_below hb y.named with ⟨x, hx, hbelow⟩ | hnone
    · exact absurd hbelow (hapart x hx).2
    · rw [hnone]
      simp
  obtain ⟨n, hn, hfresh⟩ := exists_freshName h hb hopens
  obtain ⟨hname, hpath⟩ := hfits.temp n (Nat.lt_of_le_of_lt hn hcount)
  rw [hparent] at hpath
  have htemp : Nameable ((base.below names).child (tempName n)) (tempName n) :=
    ⟨by rw [Path.parent_child], (isPart_tempName n).2,
      Tree.refusal?_child hgiven (refusal?_tempName n), Nat.not_lt.mpr hpath, Nat.not_lt.mpr hname⟩
  rw [← hfresh, ← hparent] at htemp
  rw [← hparent] at hmade hleads
  exact write_succeeds (hb.wellFormed.below y.isPart) (y.nameable hb.given hfits.file hparts) hmade
    hleads hfree htemp hs

/-- A file can only be written if its path is not too long. -/
theorem Written.short {target : Path} {bytes : Bytes} {place : Place} {out : Outcome}
    (h : Written m target bytes place out) : target.toString.utf8ByteSize ≤ Tree.maxPathBytes := by
  obtain ⟨left, dir, name, hnameable, -, -⟩ := h.named
  exact Nat.not_lt.mp hnameable.2.2.2.1

/-- A file that was written is where its names lead to from the directory. -/
theorem Written.tree_eq (h : t₀.Holds dir xs m.tree) (hb : t₀.Bare m.home base dir)
    (hapart : ∀ x ∈ xs, x.Apart y) {place : Place} {out : Outcome}
    (hwritten : Written m (y.target base) y.bytes place out)
    {names : List String} {name : String} (hparts : y.parts = names ++ [name]) :
    ∃ tree, m.tree.Opens dir names tree ∧
      out.machine.tree = tree.put (dir ++ y.parts) (.file ⟨y.bytes, 0o644, m.now⟩) := by
  obtain ⟨tree, left, hmade, hopens, hleads⟩ := h.makeDirs hb hapart hwritten.short hparts
  have hchild : y.target base = (base.below names).child name := y.target_eq base hparts
  have hdirs : (withDirs m (y.target base)).tree = tree := by
    rw [withDirs, hchild, Path.parent_child, hmade]
  refine ⟨tree, hopens, ?_⟩
  obtain ⟨left', dir', name', hnameable, hplace, hleads'⟩ := hwritten.named
  rw [hdirs, hchild, Path.parent_child] at hleads'
  have hname : name' = name := by
    have hsame := congrArg (fun p : Path => p.parts.getLast?) hnameable.1
    rw [hchild, Path.parent_child] at hsame
    simpa [Path.child] using hsame.symm
  rw [hwritten.machine, hdirs, hplace, ← hleads.unique hleads', hname, hparts, List.append_assoc]

/-- **The directory then holds the next file too.** -/
theorem Written.holds (h : t₀.Holds dir xs m.tree) (hb : t₀.Bare m.home base dir)
    (hapart : ∀ x ∈ xs, x.Apart y) {place : Place} {out : Outcome}
    (hwritten : Written m (y.target base) y.bytes place out) :
    t₀.Holds dir (xs ++ [y]) out.machine.tree := by
  obtain ⟨names, name, hparts⟩ := y.exists_snoc
  obtain ⟨tree, hopens, htree⟩ := hwritten.tree_eq h hb hapart hparts
  rw [htree]
  exact h.put hopens hparts hapart m.now

end

end AtomicWrite

end SinkPipeline
