import BackendAudit.Proofs.Run.Walks

/-!
# Which files a run looks at

Every phase picks its files by a condition on paths, from the same walk.  A file is
picked when every directory on the way from the root to it is entered: its name is not
excluded, its path is not too long to be followed, and it may be listed
(`filesMatching_eq_selected`).
-/

namespace BackendAudit

open Files (Tree Node Place Path Name Attributes)

namespace ScanConfig

theorem isSource_iff {c : ScanConfig} {path : Path} :
    c.isSource path = true ↔
      ∃ extension, path.extension? = some extension ∧ ∃ e ∈ c.extensions,
        Text.lowercase e.toList = Text.lowercase (Text.Utf8.lossy extension) := by
  rw [isSource]
  cases path.extension? with
  | none => simp
  | some extension => simp

/-- A place below a root is selected: a regular file is there, the condition holds of its
path, and the directories between the root and the file are entered. -/
def Selects (c : ScanConfig) (root : Path) (dir : Node) (pick : Path → Bool) (place : Place) :
    Prop :=
  (∃ content a, dir.at? place = some (.file content a)) ∧ c.Enters root dir place.dropLast ∧
    pick (root.join (.relative place)) = true

end ScanConfig

/-- No file comes twice: the places ascend, and different places have different paths. -/
theorem nodup_paths {t : Tree} {root : Path} {entries : List (Name × Node)} {a : Attributes}
    (ht : t.WellFormed) (hroot : t.find true root = .ok (.directory entries a))
    (c : ScanConfig) (pick : Path → Bool) :
    ((pickedPlaces c root pick (.directory entries a)).map fun place =>
      root.join (.relative place)).Nodup := by
  have hdir : (Node.directory entries a).WellFormed := Files.Tree.wellFormed_of_find ht hroot
  have hplace : ∀ place ∈ pickedPlaces c root pick (.directory entries a),
      place ≠ [] ∧ ∀ name ∈ place, name.Valid := by
    intro place hplace
    obtain ⟨⟨content, b, hat⟩, -⟩ := (mem_foundPlaces ht hroot).mp (List.mem_filter.mp hplace).1
    refine ⟨?_, (hdir.at? hat).2⟩
    rintro rfl
    cases hat
  refine List.pairwise_map.mpr ?_
  refine ((foundPlaces_pairwise ht hroot c).filter _).imp_of_mem fun {x y} hx hy hlt heq => ?_
  obtain ⟨hxne, hxnames⟩ := hplace x hx
  obtain ⟨hyne, hynames⟩ := hplace y hy
  rw [Path.join_relative_injective hxne hyne hxnames hynames heq] at hlt
  exact List.lt_irrefl y hlt

/-- The files that are picked below a directory: the selected ones, each once, as the root
joined with the relative path, in ascending order of the names along the place.  Source
files are picked by their extension, in any case. -/
theorem filesMatching_eq_selected {t : Tree} {root : Path} {entries : List (Name × Node)}
    {a : Attributes} (ht : t.WellFormed) (hroot : t.find true root = .ok (.directory entries a))
    (c : ScanConfig) (pick : Path → Bool) :
    (∃ places : List Place,
      walked (filesMatching t c root pick) = (places.map fun place => root.join (.relative place)) ∧
        places.Pairwise (· < ·) ∧
        (places.map fun place => root.join (.relative place)).Nodup ∧
        ∀ place, place ∈ places ↔ c.Selects root (.directory entries a) pick place) ∧
      sourceFiles t c root = filesMatching t c root c.isSource ∧
      ∀ path, c.isSource path = true ↔
        ∃ extension, path.extension? = some extension ∧ ∃ e ∈ c.extensions,
          Text.lowercase e.toList = Text.lowercase (Text.Utf8.lossy extension) := by
  refine ⟨⟨pickedPlaces c root pick (.directory entries a), ?_, ?_, ?_, fun place => ?_⟩,
    rfl, fun path => ScanConfig.isSource_iff⟩
  · exact walked_filesMatching ht hroot c pick
  · exact (foundPlaces_pairwise ht hroot c).filter _
  · exact nodup_paths ht hroot c pick
  · rw [pickedPlaces, List.mem_filter, mem_foundPlaces ht hroot, ScanConfig.Selects, and_assoc]

/-- The entries `a-b`, `a` and `x` of a directory, in no order.  There is a link in `a`,
and an `x` that is a file in `a-b`. -/
def linkedEntries : List (Name × Node) :=
  [([0x61, 0x2d, 0x62], .directory [([0x78], .file [])]),
    ([0x61], .directory [([0x6c], .link ⟨[0x62]⟩), ([0x62], .file [])]),
    ([0x78], .directory [([0x62], .file [])])]

/-- The directory is the one for temporary files. -/
def linkedTree : Tree := .directory [(Name.ofString "tmp", .directory linkedEntries)]

/-- Without directories named `x`, below an absolute path. -/
theorem filesMatching_linkedTree :
    let root : Path := ⟨Name.ofString "/tmp"⟩
    linkedTree.WellFormed ∧
      linkedTree.find true root = .ok (.directory linkedEntries) ∧
      ∃ places : List Place,
        walked (filesMatching linkedTree { excludeDirs := ["x"] } root fun _ => true) =
            (places.map fun place => Path.join root (.relative place)) ∧
          places.Pairwise (· < ·) ∧
          (places.map fun place => Path.join root (.relative place)).Nodup ∧
          ∀ place, place ∈ places ↔ ScanConfig.Selects { excludeDirs := ["x"] } root
            (.directory linkedEntries) (fun _ => true) place := by
  intro root
  have hentries : (Node.directory linkedEntries).WellFormed := by
    simp [linkedEntries, Node.wellFormed_directory, Node.WellFormed, Name.Valid, Name.here, Name.up,
      Name.point, Name.slash]
  have hwell : linkedTree.WellFormed :=
    Files.Tree.wellFormed_directory (Node.wellFormed_single (by decide) hentries)
  have hroot : linkedTree.find true root = .ok (.directory linkedEntries) := by rfl
  exact ⟨hwell, hroot,
    (filesMatching_eq_selected hwell hroot { excludeDirs := ["x"] } fun _ => true).1⟩

/-- `/tmp/a/b` comes before `/tmp/a-b/x`, and neither `/tmp/a/l` nor `/tmp/x/b` is found. -/
example : walked (filesMatching linkedTree { excludeDirs := ["x"] } ⟨Name.ofString "/tmp"⟩
      fun _ => true) =
    [⟨Name.ofString "/tmp/a/b"⟩, ⟨Name.ofString "/tmp/a-b/x"⟩] := by
  cbv

/-- A directory with the script `a.js`. -/
def bareScript : List (Name × Node) := [(Name.ofString "a.js", .file [])]

/-- A file in a directory that is not excluded is not found, if the path of the directory is too
long for it to be listed, or if it may not be listed. -/
theorem filesMatching_misses_script :
    (∀ excluded ∈ ({} : ScanConfig).excludeDirs, Name.ofString excluded ≠ [0x73]) ∧
      ((nestedTree bareScript).WellFormed ∧
        (nestedTree bareScript).find true (slashedRoot 4093) =
          .ok (.directory (nestedEntries bareScript)) ∧
        (Node.directory (nestedEntries bareScript)).at? [[0x73], Name.ofString "a.js"] =
          some (.file []) ∧
        walked (filesMatching (nestedTree bareScript) {} (slashedRoot 4093) fun _ => true) = []) ∧
      (Tree.directory (lockedEntries bareScript)).WellFormed ∧
        (Tree.directory (lockedEntries bareScript)).find true ⟨Name.here⟩ =
          .ok (.directory (lockedEntries bareScript)) ∧
        (Node.directory (lockedEntries bareScript)).at? [[0x73], Name.ofString "a.js"] =
          some (.file []) ∧
        walked (filesMatching (Tree.directory (lockedEntries bareScript)) {} ⟨Name.here⟩
          fun _ => true) = [] := by
  have hfile : (Node.file []).WellFormed := by simp [Node.WellFormed]
  have hinner (b : Attributes) : (Node.directory bareScript b).WellFormed :=
    Node.wellFormed_single (by decide) hfile b
  have hnested := nestedTree_wellFormed (hinner {})
  have hlocked := lockedEntries_wellFormed (hinner { readable := false })
  refine ⟨by decide, ⟨hnested, find_nestedTree _, by rfl, ?_⟩, hlocked, find_lockedEntries _,
    by rfl, ?_⟩
  · rw [walked_filesMatching hnested (find_nestedTree _), pickedPlaces, foundPlaces]
    simp [Node.listFault?, Node.filePlaces, sights_nestedEntries, Files.Sight.file?]
  · rw [walked_filesMatching hlocked (find_lockedEntries _), pickedPlaces, foundPlaces]
    simp [Node.listFault?, Node.filePlaces, sights_lockedEntries, Files.Sight.file?]

end BackendAudit
