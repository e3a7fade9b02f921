import BackendAudit.Command.Perform
import Std.Time.Zoned

/-!
# The program

Reads what is in the current directory, performs the command that the arguments ask
for, and writes the files that are changed by it.  The program has no network, so a
probe finds that nothing answers.
-/

namespace BackendAudit

open Files (Node Place Tree Path Name)

/-- The path from a directory to what a link in it leads to.  The first argument ends
with a slash; nothing outside of it is known, and the empty path leads nowhere. -/
def linkTarget (home directory target : String) : Path :=
  let depth (s : String) : Nat := s.toList.count '/'
  if home.toList.isPrefixOf target.toList then
    let up := List.replicate (depth (directory ++ "/") - depth home) "../"
    .ofString (String.join up ++ "./" ++ target.drop home.length)
  else .ofString ""

mutual

/-- Reads an entry of a directory; absent if it can be neither read nor listed. -/
partial def readEntry (home : String) (entry : IO.FS.DirEntry) : IO (Option Node) := do
  try
    match (← entry.path.symlinkMetadata).type with
    | .dir => return some (.directory (← readEntries home (← entry.path.readDir).toList))
    | .file => return some (.file (← IO.FS.readBinFile entry.path).toList)
    | .symlink =>
      let target ← try pure (← IO.FS.realPath entry.path).toString catch _ => pure ""
      return some (.link (linkTarget home entry.root.toString target))
    | .other => return none
  catch _ => return none

/-- Reads the entries of a directory. -/
partial def readEntries (home : String) (entries : List IO.FS.DirEntry) :
    IO (List (Name × Node)) :=
  entries.filterMapM fun entry => do
    return (← readEntry home entry).map fun node => (.ofString entry.fileName, node)

end

/-- Reads the current directory, as the top of a tree. -/
def readTree : IO Tree := do
  let home ← IO.FS.realPath "."
  return .directory (← readEntries (home.toString ++ "/") (← home.readDir).toList)

/-- Writes a file, and creates the directories above it. -/
def saveFile (place : Place) (content : List UInt8) : IO Unit := do
  let above := (Path.descend ⟨[]⟩ place.dropLast).text
  if !above.isEmpty then IO.FS.createDirAll above
  IO.FS.writeBinFile (Path.descend ⟨[]⟩ place).text ⟨content.toArray⟩

/-- Writes the files of a tree that are not in another. -/
def saveChanges (before after : Tree) : IO Unit :=
  after.top.listing.forM fun place => do
    match after.top.at? place, before.top.at? place with
    | some (.file content _), some (.file old _) => if content != old then saveFile place content
    | some (.file content _), _ => saveFile place content
    | _, _ => return

/-- The time at which the program is run. -/
def currentTime : IO Timestamp := do
  let now ← Std.Time.PlainDateTime.now
  return {
    year := now.date.year.toInt, month := now.date.month.toNat, day := now.date.day.toNat
    hour := now.time.hour.toNat, minute := now.time.minute.toNat
    second := now.time.second.toNat }

/-- The status of a program that panics. -/
def panicStatus : UInt32 := 101

end BackendAudit

open BackendAudit in
/-- Performs the command that the arguments ask for. -/
def main (args : List String) : IO UInt32 := do
  let before ← readTree
  let surroundings : Surroundings :=
    { network := .unreachable, made := ← currentTime, wording := .silent, journal := [] }
  let ending := Command.performArguments surroundings before args
  saveChanges before ending.tree
  for notice in ending.notices do IO.eprintln notice
  IO.print ending.output
  match ending.status with
  | .returned status => return status.toUInt32
  | .panicked => return panicStatus
