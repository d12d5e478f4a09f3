import SinkPipeline.Fault.Context
import SinkPipeline.Path
import SinkPipeline.Text.Utf8

/-! # The file tree

  A file tree maps **places** to entries.  A place is the list of names from
  the root down to an entry, with no links on the way; the root itself is
  always a directory.  An entry is a file with its bytes, mode and modification
  time, a directory, or a symbolic link with the text that it points to.

  The view of a tree is `get?`: each operation is known by what it does to it.
-/

namespace SinkPipeline

/-- The names from the root down to an entry. -/
abbrev Place : Type := List String

/-- A regular file. -/
structure File where
  /-- What it holds. -/
  bytes : Bytes
  /-- Its permission bits. -/
  mode : Nat := 0o644
  /-- When it was last modified, in nanoseconds. -/
  mtime : Nat := 0
  deriving DecidableEq, Inhabited

/-- An entry of a tree. -/
inductive Entry where
  /-- A regular file. -/
  | file (f : File)
  /-- A directory. -/
  | dir
  /-- A symbolic link. -/
  | link (target : String)
  deriving DecidableEq, Inhabited

/-- A file tree. -/
structure Tree where
  /-- The entries below the root, each place at most once. -/
  entries : List (Place × Entry) := []
  deriving DecidableEq, Inhabited

namespace Tree

/-- The first entry of a list for a place. -/
def findEntry (p : Place) : List (Place × Entry) → Option Entry
  | [] => none
  | (q, e) :: es => if q = p then some e else findEntry p es

/-- What is at a place. -/
def get? (t : Tree) (p : Place) : Option Entry :=
  if p = [] then some .dir else findEntry p t.entries

/-- Put an entry at a place, over what is there. -/
def put (t : Tree) (p : Place) (e : Entry) : Tree :=
  ⟨(p, e) :: t.entries.filter (·.1 ≠ p)⟩

/-- Take away what is at a place. -/
def erase (t : Tree) (p : Place) : Tree := ⟨t.entries.filter (·.1 ≠ p)⟩

/-- Take away a place and everything below it. -/
def eraseAll (t : Tree) (p : Place) : Tree := ⟨t.entries.filter fun e => !p.isPrefixOf e.1⟩

/-- The names of the entries directly below a place, in the order in which the
    tree keeps them. -/
def names (t : Tree) (p : Place) : List String :=
  t.entries.filterMap fun e => if e.1.dropLast = p then e.1.getLast? else none

/-- The names of the entries directly below a place, in rising order of their
    code points. -/
def sortedNames (t : Tree) (p : Place) : List String := (t.names p).mergeSort Text.precedes

/-! ### Laws -/

@[simp] theorem get?_root (t : Tree) : t.get? [] = some .dir := rfl

theorem findEntry_filter_of_ne {p q : Place} (h : q ≠ p) (es : List (Place × Entry)) :
    findEntry q (es.filter (·.1 ≠ p)) = findEntry q es := by
  induction es with
  | nil => rfl
  | cons e es ih =>
    simp only [ne_eq, decide_not] at ih
    by_cases he : e.1 = p
    · have hne : ¬p = q := fun hq => h hq.symm
      simp [he, findEntry, hne, ih]
    · simp [he, findEntry, ih]

theorem findEntry_filter_self (p : Place) (es : List (Place × Entry)) :
    findEntry p (es.filter (·.1 ≠ p)) = none := by
  induction es with
  | nil => rfl
  | cons e es ih =>
    simp only [ne_eq, decide_not] at ih
    by_cases he : e.1 = p
    · simpa [he] using ih
    · simpa [he, findEntry] using ih

theorem get?_put_self (t : Tree) {p : Place} (e : Entry) (h : p ≠ []) :
    (t.put p e).get? p = some e := by
  simp [get?, put, h, findEntry]

theorem get?_put_of_ne (t : Tree) {p q : Place} (e : Entry) (h : q ≠ p) :
    (t.put p e).get? q = t.get? q := by
  simp only [get?, put, findEntry, if_neg (Ne.symm h), findEntry_filter_of_ne h]

theorem get?_erase_self (t : Tree) {p : Place} (h : p ≠ []) : (t.erase p).get? p = none := by
  simp only [get?, erase, h, if_false, findEntry_filter_self]

theorem get?_erase_of_ne (t : Tree) {p q : Place} (h : q ≠ p) :
    (t.erase p).get? q = t.get? q := by
  simp only [get?, erase, findEntry_filter_of_ne h]

/-- The directory and the name that an entry is listed under make up its place. -/
theorem place_of_listed {q dir : Place} {name : String}
    (h : (if q.dropLast = dir then q.getLast? else none) = some name) : dir ++ [name] = q := by
  obtain ⟨rfl, hlast⟩ := Option.ite_none_right_eq_some.mp h
  obtain ⟨above, rfl⟩ := List.getLast?_eq_some_iff.mp hlast
  rw [List.dropLast_concat]

end Tree

end SinkPipeline
