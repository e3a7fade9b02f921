import BackendAudit.Proofs.Run.Targets

/-!
# Files that a walk finds

The files that a walk picks below a root that leads to a directory, with all that a phase can
come to know of them: their bytes, whether they may be read, and why their paths do not lead to
them, if it is so (`FoundFile`).  `foundFiles` lists them in the order of the walk.

* `FoundFile.size_eq`, `FoundFile.read_eq`: what is known of a file by its path.
* `mem_foundFiles`, `foundFiles_pairwise`, `walked_eq_foundFiles`: which files there are.
-/

namespace BackendAudit

open Files (Tree Node Place Path Name Attributes)

/-! ## Files below a directory -/

/-- A regular file at a place below a directory. -/
structure FoundFile where
  place : Place
  content : List UInt8
  /-- Whether the file itself may be read. -/
  readable : Bool
  /-- Why its path does not lead to it, if it is so. -/
  unreached? : Option Files.Fault

namespace FoundFile

/-- The path that a file is read by. -/
def path (root : Path) (f : FoundFile) : Path := root.join (.relative f.place)

/-- The text of what is shown for a file. -/
def target (root : Path) (f : FoundFile) : String := (f.path root).text

/-- Why a file cannot be read by its path, if it is so. -/
def fault? (f : FoundFile) : Option Files.Fault :=
  match f.unreached? with
  | some fault => some fault
  | none => if f.readable then none else some .denied

theorem fault?_eq_none_iff {f : FoundFile} :
    f.fault? = none ↔ f.unreached? = none ∧ f.readable = true := by
  rw [fault?]
  cases f.unreached? <;> simp

end FoundFile

/-- A walk finds a file below a directory, with a name of some kind: the directories on the way are
entered. -/
structure ScanConfig.Finds (c : ScanConfig) (root : Path) (dir : Node) (kind : Name → Prop)
    (f : FoundFile) : Prop where
  file : ∃ a, dir.at? f.place = some (.file f.content a) ∧ a.readable = f.readable
  access : f.unreached? = root.faultAt? dir f.place
  reached : c.Enters root dir f.place.dropLast
  named : ∃ name, f.place.getLast? = some name ∧ kind name

namespace FoundFile

variable {t : Tree} {c : ScanConfig} {root : Path} {entries : List (Name × Node)} {a : Attributes}
  {kind : Name → Prop} {f : FoundFile}

theorem ne_nil (hfound : c.Finds root (.directory entries a) kind f) : f.place ≠ [] := by
  intro heq
  obtain ⟨b, hat, -⟩ := hfound.file
  rw [heq] at hat
  cases hat

/-- How large a file is by its path. -/
theorem size_eq (ht : t.WellFormed) (hroot : t.find true root = .ok (.directory entries a))
    (hfound : c.Finds root (.directory entries a) kind f) :
    t.size (f.path root) =
      match f.unreached? with
      | some fault => .error fault
      | none => .ok f.content.length := by
  obtain ⟨b, hat, -⟩ := hfound.file
  rw [path, Files.Tree.size_join ht hroot (ne_nil hfound) hat (by simp), hfound.access]
  rfl

/-- How a file is read by its path. -/
theorem read_eq (ht : t.WellFormed) (hroot : t.find true root = .ok (.directory entries a))
    (hfound : c.Finds root (.directory entries a) kind f) :
    t.read (f.path root) =
      match f.fault? with
      | some fault => .error fault
      | none => .ok f.content := by
  obtain ⟨b, hat, hreadable⟩ := hfound.file
  rw [path, Files.Tree.read_join ht hroot (ne_nil hfound) hat (by simp), fault?, hfound.access,
    ← hreadable]
  cases root.faultAt? (.directory entries a) f.place with
  | some fault => rfl
  | none =>
    rw [Node.read_file]
    cases b.readable <;> rfl

end FoundFile

/-! ## All files that are picked -/

/-- The file at a place below a root, if a regular file is there. -/
def foundFileAt? (root : Path) (dir : Node) (place : Place) : Option FoundFile :=
  match dir.at? place with
  | some (.file content a) => some ⟨place, content, a.readable, root.faultAt? dir place⟩
  | _ => none

/-- The files that a phase picks below a root. -/
def foundFiles (c : ScanConfig) (root : Path) (pick : Path → Bool) (dir : Node) : List FoundFile :=
  (pickedPlaces c root pick dir).filterMap (foundFileAt? root dir)

theorem foundFileAt?_eq_some_iff {root : Path} {dir : Node} {place : Place} {f : FoundFile} :
    foundFileAt? root dir place = some f ↔
      f.place = place ∧
        (∃ a, dir.at? f.place = some (.file f.content a) ∧ a.readable = f.readable) ∧
        f.unreached? = root.faultAt? dir f.place := by
  obtain ⟨place', content', readable', unreached'⟩ := f
  rw [foundFileAt?]
  split
  · rename_i content a hat
    simp only [Option.some.injEq, FoundFile.mk.injEq]
    constructor
    · rintro ⟨rfl, rfl, rfl, rfl⟩
      exact ⟨rfl, ⟨a, hat, rfl⟩, rfl⟩
    · rintro ⟨rfl, ⟨b, hat', rfl⟩, rfl⟩
      cases hat.symm.trans hat'
      exact ⟨rfl, rfl, rfl, rfl⟩
  · rename_i hnone
    simp only [reduceCtorEq, false_iff]
    rintro ⟨rfl, ⟨a, hat, -⟩, -⟩
    exact hnone _ a hat

section Picked

variable {t : Tree} {c : ScanConfig} {root : Path} {pick : Path → Bool}
  {entries : List (Name × Node)} {a : Attributes}

theorem mem_foundFiles (hpick : PhasePick c pick) (ht : t.WellFormed)
    (hroot : t.find true root = .ok (.directory entries a)) {f : FoundFile} :
    f ∈ foundFiles c root pick (.directory entries a) ↔
      c.Finds root (.directory entries a) (fun name => pick ⟨name⟩ = true) f := by
  have hdir : (Node.directory entries a).WellFormed := Files.Tree.wellFormed_of_find ht hroot
  simp only [foundFiles, List.mem_filterMap, foundFileAt?_eq_some_iff,
    mem_pickedPlaces hpick ht hroot]
  constructor
  · rintro ⟨_, ⟨⟨content, htarget⟩, hnamed⟩, rfl, hfile, haccess⟩
    exact ⟨hfile, haccess, htarget.reached, hnamed⟩
  · rintro ⟨⟨b, hat, hreadable⟩, haccess, hreached, name, hname, hpicked⟩
    have hvalid : name.Valid := hdir.getLast?_valid hat hname
    exact ⟨f.place, ⟨⟨f.content, ⟨b, hat⟩, hreached, name, hname,
      hpick.looksAt name hvalid hpicked⟩, name, hname, hpicked⟩, rfl, ⟨b, hat, hreadable⟩, haccess⟩

theorem foundFiles_pairwise (ht : t.WellFormed)
    (hroot : t.find true root = .ok (.directory entries a)) (pick : Path → Bool) :
    (foundFiles c root pick (.directory entries a)).Pairwise fun f f' => f.place < f'.place := by
  have hplaces := (foundPlaces_pairwise ht hroot c).filter fun place =>
    pick (root.join (.relative place))
  refine List.pairwise_filterMap.mpr (hplaces.imp fun {place place'} hlt f hf f' hf' => ?_)
  obtain ⟨rfl, -⟩ := foundFileAt?_eq_some_iff.mp hf
  obtain ⟨rfl, -⟩ := foundFileAt?_eq_some_iff.mp hf'
  exact hlt

/-- The files of a walk are those that are found. -/
theorem walked_eq_foundFiles (hpick : PhasePick c pick) (ht : t.WellFormed)
    (hroot : t.find true root = .ok (.directory entries a)) :
    walked (filesMatching t c root pick) =
      (foundFiles c root pick (.directory entries a)).map (FoundFile.path root) := by
  rw [walked_filesMatching ht hroot, foundFiles, List.map_filterMap, ← List.filterMap_eq_map]
  refine List.filterMap_congr fun place hplace => ?_
  obtain ⟨⟨content, ⟨b, hat⟩, -⟩, -⟩ := (mem_pickedPlaces hpick ht hroot).mp hplace
  rw [foundFileAt?, hat]
  rfl

end Picked
end BackendAudit
