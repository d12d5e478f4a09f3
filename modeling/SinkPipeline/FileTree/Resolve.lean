import SinkPipeline.FileTree.Basic

/-! # Following a path

  A path is followed name by name from the directory that it starts in.  A
  symbolic link on the way is replaced by what it points to; a link at the end
  is followed only if the operation follows links.  At most forty links are
  followed for one path.

  Following a path ends at an entry, at a **vacant** place in a directory, or
  in an error of the operating system.
-/

namespace SinkPipeline.Tree

/-- Where following a path ends. -/
inductive Target where
  /-- At an entry. -/
  | occupied (p : Place) (e : Entry)
  /-- At a name that a directory does not have. -/
  | vacant (p : Place)
  deriving DecidableEq

/-- At most this many links are followed. -/
def maxLinks : Nat := 40

/-- The most bytes of a name. -/
def maxNameBytes : Nat := 255

/-- The most bytes of a path. -/
def maxPathBytes : Nat := 4095

/-- Follow names from a directory.  `links` is how many links may still be
    followed. -/
def walk (t : Tree) (followLast : Bool) (links : Nat) (start : Place) (names : List String) :
    Except Errno Target :=
  match names with
  | [] => .ok (.occupied start .dir)
  | ".." :: rest => walk t followLast links start.dropLast rest
  | name :: rest =>
    if maxNameBytes < name.utf8ByteSize then .error .nameTooLong
    else
      match t.get? (start ++ [name]) with
      | none => if rest = [] then .ok (.vacant (start ++ [name])) else .error .noEntry
      | some .dir => walk t followLast links (start ++ [name]) rest
      | some (.file f) =>
        if rest = [] then .ok (.occupied (start ++ [name]) (.file f)) else .error .notDirectory
      | some (.link target) =>
        if rest = [] ∧ followLast = false then .ok (.occupied (start ++ [name]) (.link target))
        else
          match links with
          | 0 => .error .tooManyLinks
          | links + 1 =>
            -- A link is seen from the directory that it is in.
            let p := Path.ofString target
            walk t followLast links (if p.isAbsolute then [] else start) (p.parts ++ rest)
termination_by (links, names.length)

/-- Follow the text of a path from the directory at `start`.  A slash at the
    end asks for a directory. -/
def resolve (t : Tree) (start : Place) (followLast : Bool) (path : String) :
    Except Errno Target := do
  if path = "" then throw .noEntry
  if maxPathBytes < path.utf8ByteSize then throw .nameTooLong
  let p := Path.ofString path
  let asksDirectory := path.toList.getLast? == some '/'
  -- A slash at the end has a link followed that would be left alone without it.
  let target ← walk t (followLast || asksDirectory) maxLinks
    (if p.isAbsolute then [] else start) p.parts
  match target with
  | .occupied _ .dir => return target
  | .occupied _ _ => if asksDirectory then throw .notDirectory else return target
  | .vacant _ => if asksDirectory then throw .noEntry else return target

/-- The entry that a path leads to. -/
def entryAt (t : Tree) (start : Place) (followLast : Bool) (path : String) :
    Except Errno (Place × Entry) := do
  match ← t.resolve start followLast path with
  | .occupied p e => return (p, e)
  | .vacant _ => throw .noEntry

end SinkPipeline.Tree
