import SinkPipeline.Pass

/-! # Watching

  Watching makes a pass, and then another one whenever the sinks have changed.
  What is compared is a **snapshot**: the sinks and when each was last modified.
  Files that the passes write are no sinks, so no pass brings about the next.

  The loop waits between two looks at the sinks.  What happens during a wait is
  an action, and the loop goes on for as long as there are waits; a wait that
  ends in a fault ends it too.
-/

namespace SinkPipeline.Watch

variable {ν : Type}

/-- The sinks by their paths, each with the time of its last modification. -/
abbrev Snapshot : Type := List (String × Nat)

/-- When an entry was last modified; links and directories do not tell. -/
def mtimeOf : Entry → Nat
  | .file f => f.mtime
  | .dir | .link _ => 0

/-- A sink for the snapshot.  One that is not there any more is left out. -/
def stamp (s : FileSink) : Act (Site ν) (Option (String × Nat)) := do
  let m ← Act.machine
  match m.tree.stat m.home s.key with
  | .ok e => return some (s.key, mtimeOf e)
  | .error (.os .noEntry _) => return none
  | .error f => Act.fail f

/-- The sinks that a pass would find, in order. -/
def sinks : Source (Site ν) Pipeline.SinkCursor FileSink :=
  Pipeline.sinks (some Pipeline.skipGenerated) none

/-- Go through the sinks and note when each was last modified. -/
def stampAll : Nat → Pipeline.SinkCursor → Snapshot → Act (Site ν) Snapshot
  | 0, _, _ => Act.fail (.plain .runtime "the source did not end in time")
  | fuel + 1, c, acc => do
    match ← sinks.step c with
    | .done => return acc.reverse
    | .skip rest => stampAll fuel rest acc
    | .item s rest => do
      match ← stamp s with
      | some entry => stampAll fuel rest (entry :: acc)
      | none => stampAll fuel rest acc

/-- The snapshot of the sinks that a pass would find. -/
def snapshot (fuel : Nat) (o : RunOptions) : Act (Site ν) Snapshot := do
  stampAll fuel { specs := o.specs (← Act.machine).cwd } []

/-- The paths on which two snapshots differ, in rising order. -/
def changes (old new : Snapshot) : List String :=
  let differing := (new ++ old).map (·.1) |>.filter fun path =>
    old.lookup path != new.lookup path
  -- A path may differ in both snapshots, and is told once.
  differing.eraseDups.mergeSort (· ≤ ·)

/-- The logger of the watch loop. -/
def logger : String := "capexec.watch"

/-- Have as many passes been repeated as are wanted? -/
def isEnough (limit : Option Int) (rebuilds : Nat) : Bool :=
  match limit with
  | none => false
  | some n => n ≤ rebuilds

end SinkPipeline.Watch

namespace SinkPipeline

open Watch (Snapshot)

/-- What a watch is made of: how it looks at the sinks, what it does about them,
    and whom it tells about that. -/
structure Watcher (τ : Type) where
  /-- Take a snapshot. -/
  look : Act τ Snapshot
  /-- Make a pass. -/
  build : Act τ RunSummary
  /-- Tell what a pass came to. -/
  tell : RunSummary → Act τ Unit
  /-- How many passes may be repeated. -/
  limit : Option Int

namespace Watcher

variable {τ : Type}

/-- The loop after a pass: `previous` is the snapshot that it answered. -/
def loop (w : Watcher τ) : List (Act τ Unit) → Snapshot → Nat → Act τ Nat
  | [], _, rebuilds => return rebuilds
  | wait :: waits, previous, rebuilds => do
    if Watch.isEnough w.limit rebuilds then return rebuilds
    wait
    let current ← w.look
    match Watch.changes previous current with
    | [] => loop w waits previous rebuilds
    | changed =>
      Act.log Watch.logger "info" "watch.changed" [("paths", Json.strings changed)]
      -- `current` is from before the pass: a change during the pass counts for the next.
      w.tell (← w.build)
      loop w waits current (rebuilds + 1)

/-- Make a pass and watch: how many passes were repeated. -/
def run (w : Watcher τ) (waits : List (Act τ Unit)) : Act τ Nat := do
  let first ← w.look
  w.tell (← w.build)
  w.loop waits first 0

end Watcher

namespace Watch

variable {ν : Type}

/-- The watcher of a pass. -/
def watcher (fuel : Nat) (o : RunOptions) (s : Settings) (onSummary : RunSummary → Act (Site ν) Unit)
    (limit : Option Int) : Watcher (Site ν) :=
  ⟨snapshot fuel o, Pass.run fuel o s, onSummary, limit⟩

/-- Make a pass and watch: how many passes were repeated. -/
def run (fuel : Nat) (o : RunOptions) (s : Settings) (onSummary : RunSummary → Act (Site ν) Unit)
    (limit : Option Int) (waits : List (Act (Site ν) Unit)) : Act (Site ν) Nat :=
  (watcher fuel o s onSummary limit).run waits

end Watch

end SinkPipeline
