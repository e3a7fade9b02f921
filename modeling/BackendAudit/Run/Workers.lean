import BackendAudit.Files.Path
import BackendAudit.Run.Event

/-!
# Workers

The source files of a run are scanned by several workers.  A worker that is idle takes up a file
that waits, and when it is done it puts what came of the file into the slot of that file.  In the
end the slots are read in the order of the files.
-/

namespace BackendAudit

open Files (Path)

/-- Files while workers are at them: the numbers of those that nobody has taken up and of those
that are being scanned, and the slots of all. -/
structure Bench where
  waiting : List Nat
  busy : List Nat
  slots : List (Option Outcome)

namespace Bench

/-- Nobody has taken up a file. -/
def start (paths : List Path) : Bench :=
  ⟨List.range paths.length, [], List.replicate paths.length none⟩

/-- A worker takes up a file. -/
def take (b : Bench) (i : Nat) : Bench := ⟨b.waiting.erase i, i :: b.busy, b.slots⟩

/-- A worker is done with a file. -/
def finish (b : Bench) (i : Nat) (outcome : Outcome) : Bench :=
  ⟨b.waiting, b.busy.erase i, b.slots.set i (some outcome)⟩

/-- The file that is taken up next, if a worker is idle and a file waits. -/
def toTake? (workers : Nat) (b : Bench) : Option Nat :=
  if b.busy.length < workers then b.waiting.head? else none

/-- What happens next among so many workers: one of them takes up a file, or else the one that
was the last to take up a file is done with it. -/
def next (workers : Nat) (scan : Path → Outcome) (paths : List Path) (b : Bench) : Bench :=
  match b.toTake? workers with
  | some i => b.take i
  | none =>
    match b.busy.head? with
    | none => b
    | some i =>
      match paths[i]? with
      | none => b
      | some path => b.finish i (scan path)

/-- What so many steps of the workers come to. -/
def after (workers : Nat) (scan : Path → Outcome) (paths : List Path) : Nat → Bench
  | 0 => start paths
  | n + 1 => (after workers scan paths n).next workers scan paths

end Bench

/-- What comes of files that are scanned by so many workers: each file is taken up and then it is
done. -/
def scanAll (workers : Nat) (scan : Path → Outcome) (paths : List Path) : List Outcome :=
  (Bench.after workers scan paths (2 * paths.length)).slots.filterMap id

end BackendAudit
