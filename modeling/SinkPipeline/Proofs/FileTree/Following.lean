import SinkPipeline.FileTree.Resolve
import SinkPipeline.Proofs.Path

/-! # What following a path looks at

  Following a path goes through directories and links only.  The relation
  `Leads` says so: names **lead** from a place to a directory, and some of the
  links that may be followed are left.  What a path leads to is settled by the
  directory that its parts but the last lead to, and by the last part in it.

  So a tree may change anywhere but at directories and links, and the same
  names lead to the same directories.
-/

namespace SinkPipeline.Tree

/-! ### Names that lead to a directory -/

/-- From `start`, with `links` links to follow, some names lead to the directory
    `dir`, and `left` links are left. -/
inductive Leads (t : Tree) : Nat → Place → List String → Nat → Place → Prop
  | here {links : Nat} {start : Place} : Leads t links start [] links start
  | up {links left : Nat} {start dir : Place} {rest : List String} :
      Leads t links start.dropLast rest left dir → Leads t links start (".." :: rest) left dir
  | down {links left : Nat} {start dir : Place} {name : String} {rest : List String} :
      name ≠ ".." → ¬maxNameBytes < name.utf8ByteSize → t.get? (start ++ [name]) = some .dir →
      Leads t links (start ++ [name]) rest left dir → Leads t links start (name :: rest) left dir
  | across {links left : Nat} {start dir : Place} {name target : String} {rest : List String} :
      name ≠ ".." → ¬maxNameBytes < name.utf8ByteSize →
      t.get? (start ++ [name]) = some (.link target) →
      Leads t links (if (Path.ofString target).isAbsolute then [] else start)
        ((Path.ofString target).parts ++ rest) left dir →
      Leads t (links + 1) start (name :: rest) left dir

/-- Is the place a directory or a link? -/
def Passable (t : Tree) (p : Place) : Prop :=
  t.get? p = some .dir ∨ ∃ target, t.get? p = some (.link target)

/-- **Following looks at directories and links only.** -/
theorem Leads.congr {t t' : Tree} {links left : Nat} {start dir : Place} {names : List String}
    (h : t.Leads links start names left dir) (hsame : ∀ p, t.Passable p → t'.get? p = t.get? p) :
    t'.Leads links start names left dir := by
  induction h with
  | here => exact .here
  | up _ ih => exact .up ih
  | down hname hsize hget _ ih => exact .down hname hsize ((hsame _ (.inl hget)).trans hget) ih
  | across hname hsize hget _ ih =>
    exact .across hname hsize ((hsame _ (.inr ⟨_, hget⟩)).trans hget) ih

/-- Names after names that lead to a directory are followed from there. -/
theorem Leads.walk_append {t : Tree} {links left : Nat} {start dir : Place} {names : List String}
    (h : t.Leads links start names left dir) (followLast : Bool) {rest : List String}
    (hrest : rest ≠ []) :
    t.walk followLast links start (names ++ rest) = t.walk followLast left dir rest := by
  induction h with
  | here => rfl
  | up _ ih => rw [← ih, List.cons_append, walk]
  | @down _ _ _ _ name more hname hsize hget _ ih =>
    rw [List.cons_append, walk, if_neg hsize, hget]
    · exact ih
    · exact hname
  | @across _ _ _ _ name target more hname hsize hget _ ih =>
    have hmore : ¬(more ++ rest = [] ∧ followLast = false) := by simp [hrest]
    rw [List.cons_append, walk, if_neg hsize, hget]
    · simp only [if_neg hmore]
      rw [← List.append_assoc]
      exact ih
    · exact hname

/-- Names that lead to a directory are followed to it. -/
theorem Leads.walk_eq {t : Tree} {links left : Nat} {start dir : Place} {names : List String}
    (h : t.Leads links start names left dir) :
    t.walk true links start names = .ok (.occupied dir .dir) := by
  induction h with
  | here => rw [walk]
  | up _ ih => rw [walk, ih]
  | down hname hsize hget _ ih =>
    rw [walk, if_neg hsize, hget]
    · exact ih
    · exact hname
  | across hname hsize hget _ ih =>
    rw [walk, if_neg hsize, hget]
    · simpa using ih
    · exact hname

/-- The directory that names lead to is the only one. -/
theorem Leads.unique {t : Tree} {links left left' : Nat} {start dir dir' : Place}
    {names : List String} (h : t.Leads links start names left dir)
    (h' : t.Leads links start names left' dir') : dir = dir' := by
  have hsame := h.walk_eq.symm.trans h'.walk_eq
  simpa using hsame

/-- Nothing that comes after these names is found. -/
def Fails (t : Tree) (links : Nat) (start : Place) (names : List String) : Prop :=
  ∀ followLast, ∀ rest ≠ [], ∃ e, t.walk followLast links start (names ++ rest) = .error e

section Fails

variable {t : Tree} {links : Nat} {start : Place} {name : String} {names : List String}

theorem Fails.up (h : t.Fails links start.dropLast names) : t.Fails links start (".." :: names) := by
  intro followLast rest hrest
  rw [List.cons_append, walk]
  exact h followLast rest hrest

theorem Fails.down (h : t.Fails links (start ++ [name]) names) (hname : name ≠ "..")
    (hsize : ¬maxNameBytes < name.utf8ByteSize) (hget : t.get? (start ++ [name]) = some .dir) :
    t.Fails links start (name :: names) := by
  intro followLast rest hrest
  rw [List.cons_append, walk, if_neg hsize, hget]
  · exact h followLast rest hrest
  · exact hname

theorem Fails.across {target : String}
    (h : t.Fails links (if (Path.ofString target).isAbsolute then [] else start)
      ((Path.ofString target).parts ++ names))
    (hname : name ≠ "..") (hsize : ¬maxNameBytes < name.utf8ByteSize)
    (hget : t.get? (start ++ [name]) = some (.link target)) :
    t.Fails (links + 1) start (name :: names) := by
  intro followLast rest hrest
  obtain ⟨e, he⟩ := h followLast rest hrest
  rw [List.cons_append, walk, if_neg hsize, hget]
  · exact ⟨e, by simpa [hrest] using he⟩
  · exact hname

theorem fails_of_long (hname : name ≠ "..") (hsize : maxNameBytes < name.utf8ByteSize) :
    t.Fails links start (name :: names) := by
  intro followLast rest _
  rw [List.cons_append, walk, if_pos hsize]
  · exact ⟨_, rfl⟩
  · exact hname

theorem fails_of_absent (hname : name ≠ "..") (hsize : ¬maxNameBytes < name.utf8ByteSize)
    (hget : t.get? (start ++ [name]) = none) : t.Fails links start (name :: names) := by
  intro followLast rest hrest
  rw [List.cons_append, walk, if_neg hsize, hget]
  · exact ⟨.noEntry, by simp [hrest]⟩
  · exact hname

theorem fails_of_file {f : File} (hname : name ≠ "..")
    (hsize : ¬maxNameBytes < name.utf8ByteSize) (hget : t.get? (start ++ [name]) = some (.file f)) :
    t.Fails links start (name :: names) := by
  intro followLast rest hrest
  rw [List.cons_append, walk, if_neg hsize, hget]
  · exact ⟨.notDirectory, by simp [hrest]⟩
  · exact hname

/-- No link may be followed any more. -/
theorem fails_of_link {target : String} (hname : name ≠ "..")
    (hsize : ¬maxNameBytes < name.utf8ByteSize)
    (hget : t.get? (start ++ [name]) = some (.link target)) : t.Fails 0 start (name :: names) := by
  intro followLast rest hrest
  rw [List.cons_append, walk, if_neg hsize, hget]
  · exact ⟨.tooManyLinks, by simp [hrest]⟩
  · exact hname

end Fails

/-- Names lead to a directory, or nothing that comes after them is found. -/
theorem leads_or_fails (t : Tree) (links : Nat) (start : Place) (names : List String) :
    (∃ left dir, t.Leads links start names left dir) ∨ t.Fails links start names := by
  generalize hlast : true = followLast
  -- The induction is on the way itself, with a link at its end followed.
  fun_induction walk t followLast links start names with
  | case1 links start => exact .inl ⟨_, _, .here⟩
  | case2 links start rest ih =>
    rcases ih with ⟨left, dir, h⟩ | h
    · exact .inl ⟨left, dir, .up h⟩
    · exact .inr h.up
  | case3 links start name rest hname hsize => exact .inr (fails_of_long hname hsize)
  | case4 links start name hname hsize hget => exact .inr (fails_of_absent hname hsize hget)
  | case5 links start name rest hname hsize hget =>
    exact .inr (fails_of_absent hname hsize hget)
  | case6 links start name rest hname hsize hget ih =>
    rcases ih with ⟨left, dir, h⟩ | h
    · exact .inl ⟨left, dir, .down hname hsize hget h⟩
    · exact .inr (h.down hname hsize hget)
  | case7 links start name hname hsize f hget => exact .inr (fails_of_file hname hsize hget)
  | case8 links start name rest hname hsize f hget => exact .inr (fails_of_file hname hsize hget)
  | case9 links start name rest hname hsize target hget hend => simp [← hlast] at hend
  | case10 start name rest hname hsize target hget =>
    exact .inr (fails_of_link hname hsize hget)
  | case11 start name rest hname hsize target hget hend links p ih =>
    rcases ih with ⟨left, dir, h⟩ | h
    · exact .inl ⟨left, dir, .across hname hsize hget h⟩
    · exact .inr (h.across hname hsize hget)

/-- **Following splits before the last name**: the names before it lead to a
    directory, and it is followed there. -/
theorem leads_of_walk_append {t : Tree} {followLast : Bool} {links : Nat} {start : Place}
    {names rest : List String} {target : Target} (hrest : rest ≠ [])
    (h : t.walk followLast links start (names ++ rest) = .ok target) :
    ∃ left dir, t.Leads links start names left dir ∧
      t.walk followLast left dir rest = .ok target := by
  rcases t.leads_or_fails links start names with ⟨left, dir, hleads⟩ | hfails
  · exact ⟨left, dir, hleads, (hleads.walk_append followLast hrest).symm.trans h⟩
  · obtain ⟨e, he⟩ := hfails followLast rest hrest
    rw [he] at h
    cases h

/-! ### The last name -/

/-- What following a single name gives, a link at its end not being followed. -/
theorem walk_single {t : Tree} {links : Nat} {dir : Place} {name : String} (hname : name ≠ "..")
    {target : Target} (h : t.walk false links dir [name] = .ok target) :
    ¬maxNameBytes < name.utf8ByteSize ∧
      (target = .vacant (dir ++ [name]) ∧ t.get? (dir ++ [name]) = none ∨
        ∃ e, target = .occupied (dir ++ [name]) e ∧ t.get? (dir ++ [name]) = some e) := by
  rw [walk] at h
  · split at h
    · cases h
    · next hsize =>
      refine ⟨hsize, ?_⟩
      cases hget : t.get? (dir ++ [name]) with
      | none => simp_all
      | some e =>
        cases e with
        | dir =>
          rw [hget, walk] at h
          simp_all
        | file f => simp_all
        | link l => simp_all
  · exact hname

/-- A name that a directory does not have is followed to its vacant place. -/
theorem walk_single_vacant {t : Tree} {links : Nat} {dir : Place} {name : String}
    (hname : name ≠ "..") (hsize : ¬maxNameBytes < name.utf8ByteSize) (followLast : Bool)
    (h : t.get? (dir ++ [name]) = none) :
    t.walk followLast links dir [name] = .ok (.vacant (dir ++ [name])) := by
  rw [walk, if_neg hsize, h]
  · rfl
  · exact hname

/-- A name of a file is followed to the file. -/
theorem walk_single_file {t : Tree} {links : Nat} {dir : Place} {name : String} {f : File}
    (hname : name ≠ "..") (hsize : ¬maxNameBytes < name.utf8ByteSize) (followLast : Bool)
    (h : t.get? (dir ++ [name]) = some (.file f)) :
    t.walk followLast links dir [name] = .ok (.occupied (dir ++ [name]) (.file f)) := by
  rw [walk, if_neg hsize, h]
  · rfl
  · exact hname

/-- What a name leads to that a directory has, if it is no directory and not
    followed any further. -/
theorem walk_single_occupied {t : Tree} {links : Nat} {dir : Place} {name : String} {e : Entry}
    (hname : name ≠ "..") (hsize : ¬maxNameBytes < name.utf8ByteSize)
    (h : t.get? (dir ++ [name]) = some e) (hdir : e ≠ .dir) :
    t.walk false links dir [name] = .ok (.occupied (dir ++ [name]) e) := by
  rw [walk, if_neg hsize, h]
  · cases e with
    | dir => exact absurd rfl hdir
    | file f => rfl
    | link l => rfl
  · exact hname

/-! ### Paths by their text -/

/-- Where the following of a path begins. -/
def origin (start : Place) (p : Path) : Place := if p.isAbsolute then [] else start

/-- Does the text of a path end in a slash? -/
def endsInSlash (path : String) : Bool := path.toList.getLast? == some '/'

/-- What a slash at the end of a path makes of what was found. -/
def checkSlash (slash : Bool) (found : Target) : Except Errno Target :=
  match found with
  | .occupied _ .dir => .ok found
  | .occupied _ _ => if slash then .error .notDirectory else .ok found
  | .vacant _ => if slash then .error .noEntry else .ok found

theorem checkSlash_false (found : Target) : checkSlash false found = .ok found := by
  unfold checkSlash
  split <;> rfl

theorem eq_of_checkSlash {slash : Bool} {found target : Target}
    (h : checkSlash slash found = .ok target) : found = target := by
  unfold checkSlash at h
  (repeat' split at h) <;> cases h <;> rfl

/-- Following the text of a path. -/
theorem resolve_eq (t : Tree) (start : Place) (followLast : Bool) (path : String) :
    t.resolve start followLast path =
      if path = "" then .error .noEntry
      else if maxPathBytes < path.utf8ByteSize then .error .nameTooLong
      else
        t.walk (followLast || endsInSlash path) maxLinks (origin start (Path.ofString path))
          (Path.ofString path).parts >>= checkSlash (endsInSlash path) := by
  unfold resolve
  by_cases hempty : path = ""
  · rw [if_pos hempty, if_pos hempty]
    rfl
  by_cases hsize : maxPathBytes < path.utf8ByteSize
  · rw [if_neg hempty, if_neg hempty, if_pos hsize, if_pos hsize]
    rfl
  · rw [if_neg hempty, if_neg hempty, if_neg hsize, if_neg hsize]
    rfl

/-- A path that is found is found by following its parts. -/
theorem walk_of_resolve {t : Tree} {followLast : Bool} {start : Place} {path : String}
    {target : Target} (h : t.resolve start followLast path = .ok target) :
    t.walk (followLast || endsInSlash path) maxLinks (origin start (Path.ofString path))
      (Path.ofString path).parts = .ok target := by
  rw [resolve_eq] at h
  split at h
  · cases h
  split at h
  · cases h
  match hwalk : t.walk (followLast || endsInSlash path) maxLinks
      (origin start (Path.ofString path)) (Path.ofString path).parts with
  | .error e =>
    rw [hwalk] at h
    cases h
  | .ok found =>
    rw [hwalk] at h
    rw [eq_of_checkSlash (show checkSlash (endsInSlash path) found = .ok target from h)]

/-- Following the text of a path that ends in a name. -/
theorem resolve_child (t : Tree) (start : Place) (followLast : Bool) {p : Path} {name : String}
    (hp : p.WellFormed) (hname : Path.IsPart name) :
    t.resolve start followLast (p.child name).toString =
      if maxPathBytes < (p.child name).toString.utf8ByteSize then .error .nameTooLong
      else t.walk followLast maxLinks (origin start p) (p.parts ++ [name]) := by
  have hchild := hp.child hname
  have hslash : endsInSlash (p.child name).toString = false := by
    simpa [endsInSlash] using Path.getLast?_toString_child p hname
  rw [resolve_eq, if_neg (Path.toString_ne_empty hchild), Path.ofString_toString hchild, hslash,
    Bool.or_false]
  split
  · rfl
  · show (t.walk followLast maxLinks (origin start p) (p.parts ++ [name]) >>= _) = _
    match t.walk followLast maxLinks (origin start p) (p.parts ++ [name]) with
    | .error e => rfl
    | .ok found => exact checkSlash_false found

/-- Following the text of a path whose parts lead to a directory. -/
theorem Leads.entryAt {t : Tree} {start dir : Place} {p : Path} {left : Nat} (hp : p.WellFormed)
    (hsize : ¬maxPathBytes < p.toString.utf8ByteSize)
    (h : t.Leads maxLinks (origin start p) p.parts left dir) :
    t.entryAt start true p.toString = .ok (dir, .dir) := by
  unfold Tree.entryAt
  rw [resolve_eq, if_neg (Path.toString_ne_empty hp), if_neg hsize, Path.ofString_toString hp,
    Bool.true_or, h.walk_eq]
  rfl

end SinkPipeline.Tree
