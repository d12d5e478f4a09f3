import SinkPipeline.Text.Cut

/-! # Paths

  A path is a sequence of names after an **anchor**: nothing for a relative
  path, one slash, or exactly two.  Empty parts and single points vanish when a
  path is read; double points stay until the path is made absolute, which
  resolves them by their text alone.
-/

namespace SinkPipeline

/-- What a path starts from. -/
inductive Anchor where
  /-- The directory that the path is looked up in. -/
  | here
  /-- The root. -/
  | root
  /-- The root, written with two slashes. -/
  | doubleRoot
  deriving DecidableEq, Repr, Inhabited

/-- A path. -/
structure Path where
  /-- What it starts from. -/
  anchor : Anchor
  /-- The names to follow, none of them empty or a single point. -/
  parts : List String
  deriving DecidableEq, Repr, Inhabited

namespace Path

/-- The parts of a path's text that count. -/
def partsOf (cs : List Char) : List String :=
  ((Text.cutAt '/' cs).filter fun part => part ≠ [] ∧ part ≠ ['.']).map String.ofList

/-- The anchor of a path's text. -/
def anchorOf : List Char → Anchor
  -- Exactly two slashes are kept apart, three are one.
  | '/' :: '/' :: '/' :: _ => .root
  | '/' :: '/' :: _ => .doubleRoot
  | '/' :: _ => .root
  | _ => .here

/-- The path that a text stands for. -/
def ofString (s : String) : Path := ⟨anchorOf s.toList, partsOf s.toList⟩

/-- The text of an anchor. -/
def anchorText : Anchor → String
  | .here => ""
  | .root => "/"
  | .doubleRoot => "//"

/-- The text of a path. -/
protected def toString (p : Path) : String :=
  match p.anchor, p.parts with
  | .here, [] => "."
  | anchor, parts => anchorText anchor ++ "/".intercalate parts

instance : ToString Path := ⟨Path.toString⟩

/-- Does the path start from the root? -/
def isAbsolute (p : Path) : Bool := p.anchor != .here

/-- The second path followed from the first. -/
def join (p q : Path) : Path := if q.isAbsolute then q else ⟨p.anchor, p.parts ++ q.parts⟩

instance : HDiv Path Path Path := ⟨join⟩

/-- One more name below a path. -/
def child (p : Path) (name : String) : Path := ⟨p.anchor, p.parts ++ [name]⟩

/-- The last name of a path, empty if it has none. -/
def name (p : Path) : String := p.parts.getLast?.getD ""

/-- The path without its last name. -/
def parent (p : Path) : Path := ⟨p.anchor, p.parts.dropLast⟩

/-- The suffix of a name: from its last point on, unless the name starts or
    ends there. -/
def suffixOf (cs : List Char) : List Char :=
  let after := cs.reverse.takeWhile (· != '.')
  let before := cs.length - after.length
  if after = [] ∨ before ≤ 1 then [] else '.' :: after.reverse

/-- The suffix of the last name, with its point. -/
def suffix (p : Path) : String := String.ofList (suffixOf p.name.toList)

/-- Double points resolved by the text alone, `acc` being what is left so far
    in reverse.  Above the root there is only the root. -/
def collapse (acc : List String) : List String → List String
  | [] => acc.reverse
  | ".." :: parts => collapse acc.tail parts
  | part :: parts => collapse (part :: acc) parts

/-- The absolute path without double points that a path means, seen from the
    directory `cwd`. -/
def absolute (cwd p : Path) : Path :=
  let q := cwd / p
  ⟨q.anchor, collapse [] q.parts⟩

/-- Two sequences without the names that both begin with. -/
def dropCommon : List String → List String → List String × List String
  | a :: as, b :: bs => if a = b then dropCommon as bs else (a :: as, b :: bs)
  | as, bs => (as, bs)

/-- The way from the directory `start` to a path, both seen from `cwd`: up to
    the last directory that they share, then down. -/
def relative (cwd start p : Path) : Path :=
  let (up, down) := dropCommon (absolute cwd start).parts (absolute cwd p).parts
  ⟨.here, up.map (fun _ => "..") ++ down⟩

/-- A path's text as reports show it: relative to the working directory,
    unless the relative text begins with two points. -/
def display (cwd : Path) (text : String) : String :=
  if text = "" then ""
  else
    let rel := (relative cwd cwd (ofString text)).toString
    -- The test is on the text: a name that begins with two points counts as well.
    if ['.', '.'].isPrefixOf rel.toList then text else rel

end Path

end SinkPipeline
