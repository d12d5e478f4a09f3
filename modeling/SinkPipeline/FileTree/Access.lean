import SinkPipeline.FileTree.Resolve

/-! # Operations on a file tree

  What a program can ask of a tree, and the faults that it gets.  A path with a
  NUL character, or with a surrogate that has no byte, is refused before the
  tree is looked at.  Every operation that
  changes the tree either does its change or leaves the tree as it is.
-/

namespace SinkPipeline.Tree

/-- Does the path hold a NUL character? -/
def hasNul (path : String) : Bool := path.toList.contains '\x00'

/-- Why a string cannot be handed to the operating system. -/
def refusal? (s : String) : Option Fault :=
  (Fault.ofSystemText? s).or (if hasNul s then some Fault.embeddedNul else none)

/-- A result of the operating system about a path, or a fault. -/
def aboutPath {α : Type} (path : String) (r : Except Errno α) : Except Fault α :=
  match refusal? path with
  | some f => .error f
  | none => r.mapError fun e => .os e [path]

/-! ### Looking -/

/-- The entry that a path leads to, links followed. -/
def stat (t : Tree) (start : Place) (path : String) : Except Fault Entry :=
  aboutPath path ((t.entryAt start true path).map (·.2))

/-- The entry that a path leads to, a link at its end not followed. -/
def lstat (t : Tree) (start : Place) (path : String) : Except Fault Entry :=
  aboutPath path ((t.entryAt start false path).map (·.2))

/-- Does an error mean no more than that nothing is there? -/
def meansAbsent : Fault → Bool
  | .os .noEntry _ | .os .notDirectory _ | .os .tooManyLinks _ => true
  | .os .. => false
  | f => f.isValue

/-- Does the entry at a path satisfy `p`?  Where nothing is there, it does not;
    any other error is a fault. -/
def holds (t : Tree) (start : Place) (path : String) (p : Entry → Bool) : Except Fault Bool :=
  match t.stat start path with
  | .ok e => .ok (p e)
  | .error f => if meansAbsent f then .ok false else .error f

/-- Is the entry a directory? -/
def isDirEntry : Entry → Bool
  | .dir => true
  | _ => false

/-- Is the entry a regular file? -/
def isFileEntry : Entry → Bool
  | .file _ => true
  | _ => false

/-- Is something there? -/
def exists? (t : Tree) (start : Place) (path : String) : Except Fault Bool :=
  t.holds start path fun _ => true

/-- Is a directory there? -/
def isDir? (t : Tree) (start : Place) (path : String) : Except Fault Bool :=
  t.holds start path isDirEntry

/-- Is a regular file there? -/
def isFile? (t : Tree) (start : Place) (path : String) : Except Fault Bool :=
  t.holds start path isFileEntry

/-- Is a directory there, as far as can be seen? -/
def looksDir (t : Tree) (start : Place) (path : String) : Bool :=
  match t.stat start path with
  | .ok e => isDirEntry e
  | .error _ => false

/-- Is a symbolic link there, as far as can be seen? -/
def looksLink (t : Tree) (start : Place) (path : String) : Bool :=
  match t.lstat start path with
  | .ok (.link _) => true
  | _ => false

/-- The bytes of the file at a path. -/
def readFile (t : Tree) (start : Place) (path : String) : Except Fault Bytes := do
  match ← t.stat start path with
  | .file f => return f.bytes
  | .dir => throw (.os .isDirectory [path])
  | .link _ => throw (.os .tooManyLinks [path])

/-- The permission bits of an entry. -/
def modeOf : Entry → Nat
  | .file f => f.mode
  | .dir => 0o755
  | .link _ => 0o777

/-- The names in the directory at a path, in rising order, each with whether
    it leads to a directory, as far as can be seen. -/
def scan (t : Tree) (start : Place) (dir : Path) : Except Fault (List (String × Bool)) := do
  match ← aboutPath dir.toString (t.entryAt start true dir.toString) with
  | (p, .dir) =>
    return (t.sortedNames p).map fun name =>
      (name,
        match t.get? (p ++ [name]) with
        | some .dir => true
        -- A link counts as a directory if it leads to one.
        | some (.link _) => t.looksDir start (dir.child name).toString
        | _ => false)
  | _ => throw (.os .notDirectory [dir.toString])

/-! ### Changing -/

/-- Make one directory. -/
def makeDir (t : Tree) (start : Place) (path : String) : Except Fault Tree :=
  aboutPath path do
    match ← t.resolve start false path with
    | .vacant p => return t.put p .dir
    | .occupied .. => throw .exists

/-- Make one directory; if that fails because of something that is there, a
    directory there will do. -/
def ensureDir (t : Tree) (start : Place) (path : String) : Except Fault Tree :=
  match t.makeDir start path with
  | .ok t => .ok t
  | .error f =>
    if f.isOs then do
      if ← t.isDir? start path then return t else throw f
    else .error f

/-- Make a directory and, if one above it is missing, those above it first.
    The directories above are given in reverse order of their names. -/
def ensureDirs (t : Tree) (start : Place) (anchor : Anchor) (reversed : List String) :
    Tree × Except Fault Unit :=
  let path := (Path.mk anchor reversed.reverse).toString
  let once (t : Tree) : Tree × Except Fault Unit :=
    match t.ensureDir start path with
    | .ok t => (t, .ok ())
    | .error f => (t, .error f)
  match t.makeDir start path, reversed with
  -- Something above is missing; where no name is left there is nothing more to make.
  | .error (.os .noEntry _), _ :: above =>
    match ensureDirs t start anchor above with
    | (t, .ok ()) => once t
    | (t, .error f) => (t, .error f)
  | _, _ => once t

/-- Make the directory of a path and whatever is missing above it.  What was
    made before a fault stays. -/
def makeDirs (t : Tree) (start : Place) (p : Path) : Tree × Except Fault Unit :=
  ensureDirs t start p.anchor p.parts.reverse

/-- Begin a new file: an empty one, at a path where no directory is. -/
def createFile (t : Tree) (start : Place) (path : String) (now : Nat) : Except Fault (Place × Tree) :=
  aboutPath path do
    match ← t.resolve start true path with
    | .vacant p => return (p, t.put p (.file ⟨[], 0o644, now⟩))
    | .occupied _ .dir => throw .isDirectory
    -- A file that is there is emptied and keeps its mode.
    | .occupied p (.file f) => return (p, t.put p (.file { f with bytes := [], mtime := now }))
    | .occupied _ (.link _) => throw .tooManyLinks

/-- Does the path end in a name, and not at a directory that it goes through? -/
def endsInName (path : String) : Bool :=
  match (Path.ofString path).parts.getLast? with
  | none => false
  | some name => name != ".."

/-- Move the file at a place onto a path: over a file or a link that is there,
    but not over a directory. -/
def moveOnto (t : Tree) (start : Place) (src : Place) (path : String) : Except Errno Tree := do
  match ← t.resolve start false path with
  | .occupied p e =>
    -- The root, and what a path with points at its end leads to, is in use.
    if !endsInName path then throw .busy
    match e with
    | .dir => throw .isDirectory
    | _ => return ((t.erase src).put p ((t.get? src).getD .dir))
  | .vacant p => return ((t.erase src).put p ((t.get? src).getD .dir))

/-- Rename the file at a place, known by the path `known`, to a path. -/
def rename (t : Tree) (start : Place) (src : Place) (known path : String) : Except Fault Tree :=
  match refusal? path with
  | some f => .error f
  | none => (t.moveOnto start src path).mapError fun e => .os e [known, path]

end SinkPipeline.Tree
