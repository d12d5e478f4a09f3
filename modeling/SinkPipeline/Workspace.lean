import SinkPipeline.Json.Reader
import SinkPipeline.Process.Machine

/-! # Workspaces as data

  A **workspace** is the directory that a machine works in.  What is in it can
  be described as data: a list of entries, each a file, a directory, a link, a
  script or a launcher.  Entries are made in order; directories above them are
  made as they are needed, and what stands in the way is overwritten.

  The **contents** of a workspace are its entries again, by their paths.
-/

namespace SinkPipeline

/-- What an entry holds. -/
inductive PlantedContent where
  /-- A file with bytes. -/
  | file (bytes : Bytes)
  /-- A directory. -/
  | dir
  /-- A link. -/
  | link (target : String)

/-- An entry to make. -/
structure Planted where
  /-- Its path. -/
  path : String
  /-- What it holds. -/
  content : PlantedContent
  /-- Its permission bits, if it is a file. -/
  mode : Nat := 0o644
  /-- When it was last modified, in nanoseconds, if it is a file. -/
  mtime : Nat := 0

/-- A change to a workspace. -/
inductive Edit where
  /-- Take an entry away, with everything below it. -/
  | remove (path : String)
  /-- Set the time of the last modification of a file. -/
  | touch (path : String) (mtime : Nat)
  /-- Make an entry. -/
  | write (entry : Planted)

namespace Workspace

/-! ### Reading entries -/

/-- Nanoseconds in a second. -/
def secondsToNanos (seconds : Nat) : Nat := seconds * 1000000000

/-- When planted files were last modified, unless something else is given. -/
def defaultMtime : Nat := secondsToNanos 1000000000

/-- The number that octal digits spell. -/
def octal (s : String) : Nat := s.toList.foldl (fun n c => n * 8 + (c.toNat - 48)) 0

/-- A time given in seconds. -/
def timeOf? : Json → Option Nat
  | .int n => some (secondsToNanos n.toNat)
  | _ => none

/-- The bytes of a file given by its text or in base64. -/
def bytesOf (v : Json) : Bytes :=
  match (v.member? "b64").bind Json.str? with
  | some b => (Base64.decode (Text.ofString b)).toOption.getD []
  | none => Text.Utf8.encode (((v.member? "text").bind Json.str?).getD "")

/-- What a value says that an entry holds, and its usual permission bits. -/
def contentOf (v : Json) : PlantedContent × Nat :=
  let canRun := ((v.member? "shebang").map Json.isTruthy).getD true
  match v.member? "dir", (v.member? "link").bind Json.str?, v.member? "prog", v.member? "launcher" with
  | some _, _, _, _ => (.dir, 0o755)
  | _, some target, _, _ => (.link target, 0o777)
  | _, _, some program, _ => (.file (Script.fileBytes canRun program), 0o755)
  | _, _, _, some _ => (.file (Script.launcherBytes canRun), 0o755)
  | _, _, _, _ => (.file (bytesOf v), 0o644)

/-- The entry that a value describes. -/
def entryOf (v : Json) : Planted :=
  let (content, usual) := contentOf v
  { path := ((v.member? "path").bind Json.str?).getD ""
    content := content
    mode := (((v.member? "mode").bind Json.str?).map octal).getD usual
    mtime := ((v.member? "mtime").bind timeOf?).getD defaultMtime }

/-- The edit that a value describes. -/
def editOf? (v : Json) : Option Edit :=
  match (v.member? "remove").bind Json.str?, (v.member? "touch").bind Json.str?, v.member? "write" with
  | some path, _, _ => some (.remove path)
  | _, some path, _ => some (.touch path (((v.member? "mtime").bind timeOf?).getD defaultMtime))
  | _, _, some entry => some (.write (entryOf entry))
  | _, _, _ => none

/-! ### Changing a workspace -/

/-- The place that a path means, links followed on the way, and at its end too
    if the entry is a file that will be written through them. -/
def placeOf (m : Machine) (throughLink : Bool) (path : String) : Option Place :=
  match m.tree.resolve m.home throughLink path with
  | .ok (.occupied p _) | .ok (.vacant p) => some p
  | .error _ => none

/-- Make an entry. -/
def plant (m : Machine) (e : Planted) : Machine :=
  let parents (p : Path) : Machine := { m with tree := (m.tree.makeDirs m.home p).1 }
  let path := m.absolute (.ofString e.path)
  match e.content with
  | .dir => parents path
  | .link target =>
    let m := parents path.parent
    match placeOf m false e.path with
    | some p => { m with tree := m.tree.put p (.link target) }
    | none => m
  | .file bytes =>
    let m := parents path.parent
    match placeOf m true e.path with
    | some p => { m with tree := m.tree.put p (.file ⟨bytes, e.mode, e.mtime⟩) }
    | none => m

/-- Make a change. -/
def edit (m : Machine) : Edit → Machine
  | .remove path =>
    match placeOf m false path with
    | some p => { m with tree := m.tree.eraseAll p }
    | none => m
  | .touch path mtime =>
    match m.tree.entryAt m.home true path with
    | .ok (p, .file f) => { m with tree := m.tree.put p (.file { f with mtime := mtime }) }
    | _ => m
  | .write e => plant m e

/-! ### Looking at a workspace -/

/-- The entries below the working directory, by their paths relative to it. -/
def contents (m : Machine) : List (String × Entry) :=
  m.tree.entries.filterMap fun (p, e) =>
    if m.home.isPrefixOf p && p != m.home then
      some ("/".intercalate (p.drop m.home.length), e)
    else none

/-- A machine in an empty workspace. -/
def empty (cwd : Path) (env : Env) (shown : String → String) (now : Nat) : Machine where
  tree := (({} : Tree).makeDirs [] cwd).1
  cwd := cwd
  env := env
  programs bytes := (Script.ofBytes? bytes).map (Script.behaviour shown)
  now := now

end Workspace

end SinkPipeline
