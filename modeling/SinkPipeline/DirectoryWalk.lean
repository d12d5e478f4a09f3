import SinkPipeline.Discovery
import SinkPipeline.Pattern.Glob
import SinkPipeline.Site

/-! # Walking directories

  The walk of a file tree below some roots.  A root is a directory with include
  and exclude globs; a glob that does not begin with a slash is meant relative
  to the root.  A file is **accepted** if an include glob matches its absolute
  path, or there is none, and no exclude glob does.

  In each directory the accepted files come first and then, one after the
  other, the directories, both in rising order of their names.  Whatever is no
  directory counts as a file, also a link that leads nowhere.  A link to a
  directory is never a file, and is entered only if links are followed.
-/

namespace SinkPipeline

/-- A root as it is asked for. -/
structure RootSpec where
  /-- The directory. -/
  root : Path
  /-- What a relative directory is relative to. -/
  baseDir : Path := .ofString "."
  /-- The include globs. -/
  includes : List String := []
  /-- The exclude globs. -/
  excludes : List String := []

/-- A root that can be walked. -/
structure Root where
  /-- Its absolute path. -/
  path : Path
  /-- The include globs, read. -/
  includes : List Pattern.Expr := []
  /-- The exclude globs, read. -/
  excludes : List Pattern.Expr := []

/-- A file that a walk found. -/
structure FoundFile where
  /-- Its path. -/
  path : Path
  /-- Its name. -/
  name : String
  /-- Is it a link? -/
  isLink : Bool := false
  deriving DecidableEq

namespace Root

/-- Is the file at an absolute path accepted? -/
def accepts (r : Root) (path : String) : Bool :=
  (r.includes.isEmpty || r.includes.any (·.accepts path)) && !r.excludes.any (·.accepts path)

/-- What stands for itself in front of a relative glob: the root's path, ending
    in exactly one slash. -/
def stem (root : Path) : String :=
  String.ofList (((root.toString.toList.reverse.dropWhile (· == '/')).reverse) ++ ['/'])

/-- The expression of a glob below a root. -/
def readGlob (root : Path) (glob : String) : Except Fault Pattern.Expr :=
  let r := match glob.toList with
    | '/' :: _ => Pattern.ofGlob "" glob
    | _ => Pattern.ofGlob (stem root) glob
  r.mapError fun f => .plain .pattern f.message

end Root

/-- The root that a spec asks for.  A directory must be there, and the globs
    must be readable, the include globs first. -/
def RootSpec.normalize (s : RootSpec) (m : Machine) : Except Fault Root := do
  let path := m.absolute (s.baseDir / s.root)
  let text := path.toString
  let refuse (reason : String) : Fault :=
    Fault.ofKind .invalidSpec (reason ++ ": " ++ text) { path := .str text }
  if !(← m.tree.exists? m.home text) then throw (refuse "FS root does not exist")
  if !(← m.tree.isDir? m.home text) then throw (refuse "FS root is not a directory")
  -- The globs are read last, and a relative one below the root that was found.
  let includes ← s.includes.mapM (Root.readGlob path)
  let excludes ← s.excludes.mapM (Root.readGlob path)
  return ⟨path, includes, excludes⟩

namespace DirectoryWalk

/-- Something that is still to be visited. -/
inductive Visit where
  /-- A directory; the top one is entered even through a link. -/
  | directory (path : Path) (top : Bool)
  /-- A file in a directory. -/
  | file (dir : Path) (name : String)
  deriving DecidableEq

/-- Where a walk below a root stands. -/
structure Cursor where
  /-- The root. -/
  root : Root
  /-- What is still to be visited, in order. -/
  pending : List Visit

/-- What a directory's entries add to what is to be visited: the files, then
    the directories. -/
def visitsOf (dir : Path) (entries : List (String × Bool)) : List Visit :=
  (entries.filter fun e => !e.2).map (fun e => .file dir e.1) ++
    (entries.filter (·.2)).map fun e => .directory (dir.child e.1) false

/-- One visit: the file that it gives, if it gives one, and what is to be
    visited after it.  What cannot be read is passed over. -/
def visit (m : Machine) (follow : Bool) (root : Root) (v : Visit) (rest : List Visit) :
    Option FoundFile × List Visit :=
  match v with
  | .directory path top =>
    if !top && !follow && m.tree.looksLink m.home path.toString then (none, rest)
    else
      match m.tree.scan m.home path with
      | .ok entries => (none, visitsOf path entries ++ rest)
      | .error _ => (none, rest)
  | .file dir name =>
    let path := dir.child name
    let text := path.toString
    -- Looked at again: the tree may have changed since the directory was listed.
    if !m.tree.looksDir m.home text && root.accepts text then
      (some ⟨path, name, m.tree.looksLink m.home text⟩, rest)
    else (none, rest)

variable {ν π : Type}

/-- The files below a root. -/
def files (follow : Bool) : Source (Site ν) Cursor FoundFile where
  step c :=
    match c.pending with
    | [] => return .done
    | v :: rest => do
      match visit (← Act.machine) follow c.root v rest with
      | (some f, rest) => return .item f { c with pending := rest }
      | (none, rest) => return .skip { c with pending := rest }

/-- The path of a file relative to its root. -/
def relativePath (m : Machine) (root : Root) (f : FoundFile) : String :=
  (Path.relative m.cwd root.path f.path).toString

/-- The walk adapter of directories.  What is attached to a file is up to
    `payload`, which is also given its path relative to the root. -/
def adapter (follow : Bool) (payload : Root → FoundFile → String → Act (Site ν) π) :
    WalkAdapter (Site ν) RootSpec Root FoundFile π Cursor where
  kind := "filesystem"
  normalize s := do Act.ofExcept (s.normalize (← Act.machine))
  beginAt root := ⟨root, [.directory root.path true]⟩
  items := files follow
  keyOf _ f := f.path.toString
  payload? := some fun root f => do payload root f (relativePath (← Act.machine) root f)

/-- The walk adapter that attaches to each file its path relative to the root. -/
def plain (follow : Bool) : WalkAdapter (Site ν) RootSpec Root FoundFile String Cursor :=
  adapter follow fun _ _ relative => return relative

end DirectoryWalk

/-- A sink in a file tree, with its path relative to the root. -/
abbrev FileSink : Type := Found Root FoundFile String

end SinkPipeline
