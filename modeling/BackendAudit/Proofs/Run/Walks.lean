import BackendAudit.Proofs.Files.Descent
import BackendAudit.Proofs.Files.Walk
import BackendAudit.Run.Source
import Mathlib.Data.List.Sort

/-!
# Walks below a root

All walks of a run go the same way, whatever files they pick, and tell the same of it
(`walkEvents_filesMatching`).  A directory below the root is entered if no directory on the way
to it, and neither itself, has an excluded name, has a path that cannot be followed, or may not be
listed.  The files in those directories are found (`mem_foundPlaces`), and of the directories in
them those are told that cannot be listed (`walkEvents_survey`, `mem_shutsBelow`).  The root is
such a directory itself.
-/

namespace BackendAudit

open Files (Tree Node Place Path Name Sight Shut Entered Attributes)

namespace ScanConfig

theorem excludes_eq_false {c : ScanConfig} {name : Name} :
    c.excludes name = false ↔ ∀ excluded ∈ c.excludeDirs, Name.ofString excluded ≠ name := by
  simp [excludes]

/-- The directories with these names, one in the other below a root that leads to a directory, are
entered: none has an excluded name, the path of each can be followed, and each can be listed, as
can the root. -/
structure Enters (c : ScanConfig) (root : Path) (dir : Node) (names : Place) : Prop where
  named : ∀ name ∈ names, ∀ excluded ∈ c.excludeDirs, Name.ofString excluded ≠ name
  followed : ∀ place, place <+: names → (place ≠ [] → root.Admits place) ∧ dir.Permits place
  listed : ∀ place inner a, place <+: names → dir.at? place = some (.directory inner a) →
    a.readable = true

/-- A root that can be listed is entered. -/
theorem Enters.nil {c : ScanConfig} {root : Path} {entries : List (Name × Node)} {a : Attributes}
    (h : a.readable = true) : c.Enters root (.directory entries a) [] where
  named := by simp
  followed place hplace := by
    obtain rfl := List.prefix_nil.mp hplace
    exact ⟨fun hne => absurd rfl hne, Node.permits_nil _⟩
  listed place inner b hplace hat := by
    obtain rfl := List.prefix_nil.mp hplace
    cases hat
    exact h

/-- A directory at a place below a root is met, or it is the root, and it cannot be listed. -/
structure Shuts (c : ScanConfig) (root : Path) (dir : Node) (s : Shut) : Prop where
  directory : ∃ inner a, dir.at? s.place = some (.directory inner a)
  named : ∀ name, s.place.getLast? = some name →
    ∀ excluded ∈ c.excludeDirs, Name.ofString excluded ≠ name
  reached : s.place ≠ [] → c.Enters root dir s.place.dropLast
  refused : root.listFaultAt? dir s.place = some s.fault

end ScanConfig

/-! ## Walks below a directory -/

/-- The places of the files that are found below a root that leads to a directory. -/
def foundPlaces (c : ScanConfig) (root : Path) (dir : Node) : List Place :=
  if dir.listFault?.isNone then dir.filePlaces c.excludes (root.listFaultAt? dir) else []

/-- The places of the files that are picked below a root that leads to a directory. -/
def pickedPlaces (c : ScanConfig) (root : Path) (pick : Path → Bool) (dir : Node) : List Place :=
  (foundPlaces c root dir).filter fun place => pick (root.join (.relative place))

/-- The directories below a root, and the root, that are met and cannot be listed. -/
def shutsBelow (c : ScanConfig) (root : Path) (dir : Node) : List Shut :=
  match dir.listFault? with
  | some fault => [⟨[], fault⟩]
  | none => dir.shuts c.excludes (root.listFaultAt? dir)

/-- What is told of a directory that cannot be listed. -/
def shutEvent (root : Path) (s : Shut) : Event :=
  .targetSkipped (root.descend s.place).text (walkFaultText (root.descend s.place) s.fault)

section Walks

variable {t : Tree} {root : Path} {entries : List (Name × Node)} {a : Attributes}

/-- A walk with the excluded names enters these directories, if it begins. -/
theorem ScanConfig.entered_iff_enters (ht : t.WellFormed)
    (hroot : t.find true root = .ok (.directory entries a)) {c : ScanConfig} {names : Place}
    {inner : List (Name × Node)} {b : Attributes}
    (hat : (Node.directory entries a).at? names = some (.directory inner b)) :
    (a.readable = true ∧
        Entered c.excludes (root.listFaultAt? (.directory entries a)) names) ↔
      c.Enters root (.directory entries a) names := by
  have hdir : (Node.directory entries a).WellFormed := Files.Tree.wellFormed_of_find ht hroot
  have hlists {place : Place} {above : List (Name × Node)} {b : Attributes}
      (habove : (Node.directory entries a).at? place = some (.directory above b)) :
      root.listFaultAt? (.directory entries a) place = none ↔
        (place ≠ [] → root.Admits place) ∧ (Node.directory entries a).Permits place ∧
          b.readable = true :=
    Path.listFaultAt?_eq_none_iff hroot (hdir.at? habove).2 habove
  constructor
  · rintro ⟨hreadable, hnamed, hlisted⟩
    have hopen {place : Place} {above : List (Name × Node)} {b : Attributes}
        (hleading : place <+: names)
        (habove : (Node.directory entries a).at? place = some (.directory above b)) :
        root.listFaultAt? (.directory entries a) place = none := by
      by_cases hne : place = []
      · subst hne
        exact (hlists habove).mpr ⟨fun h => absurd rfl h, Node.permits_nil _, by
          cases habove
          exact hreadable⟩
      · exact hlisted place hne hleading
    refine ⟨fun name hname => excludes_eq_false.mp (hnamed name hname), ?_, ?_⟩
    · intro place hleading
      obtain ⟨above, b, habove⟩ := Node.exists_directory_of_leading hat hleading
      obtain ⟨hadmits, hpermits, -⟩ := (hlists habove).mp (hopen hleading habove)
      exact ⟨hadmits, hpermits⟩
    · exact fun place above b hleading habove => ((hlists habove).mp (hopen hleading habove)).2.2
  · rintro ⟨hnamed, hfollowed, hlisted⟩
    refine ⟨hlisted [] entries a List.nil_prefix rfl,
      fun name hname => excludes_eq_false.mpr (hnamed name hname), fun place hne hleading => ?_⟩
    obtain ⟨above, b, habove⟩ := Node.exists_directory_of_leading hat hleading
    obtain ⟨hadmits, hpermits⟩ := hfollowed place hleading
    exact (hlists habove).mpr ⟨hadmits, hpermits, hlisted place above b hleading habove⟩

theorem survey_eq_join (ht : t.WellFormed)
    (hroot : t.find true root = .ok (.directory entries a)) (excluded : Name → Bool) :
    t.survey excluded root =
      match (Node.directory entries a).listFault? with
      | some fault => .error fault
      | none =>
        .ok (((Node.directory entries a).sights excluded
          (root.listFaultAt? (.directory entries a))).map (Sight.map root.descend)) := by
  have hdir : (Node.directory entries a).WellFormed := Files.Tree.wellFormed_of_find ht hroot
  have hsights : (Node.directory entries a).sights excluded
      (fun place => t.listFault? (root.descend place)) =
        (Node.directory entries a).sights excluded (root.listFaultAt? (.directory entries a)) := by
    refine Node.sights_congr hdir fun place inner b hne hat => ?_
    rw [Path.descend_eq_join root hne (hdir.at? hat).2,
      Files.Tree.listFault?_join ht hroot hne hat]
  rw [Files.Tree.survey, Files.Tree.walkRoot_of_find hroot, Node.listFault?]
  cases a.readable with
  | false => rfl
  | true =>
    simp only [if_true, Except.map]
    rw [hsights]

theorem survey_eq_ok (ht : t.WellFormed)
    (hroot : t.find true root = .ok (.directory entries a)) (hlist : a.readable = true)
    (excluded : Name → Bool) :
    t.survey excluded root =
      .ok (((Node.directory entries a).sights excluded
        (root.listFaultAt? (.directory entries a))).map (Sight.map root.descend)) := by
  rw [survey_eq_join ht hroot, Node.listFault?, if_pos hlist]

theorem survey_eq_error (ht : t.WellFormed)
    (hroot : t.find true root = .ok (.directory entries a)) (hlist : ¬ a.readable = true)
    (excluded : Name → Bool) : t.survey excluded root = .error .denied := by
  rw [survey_eq_join ht hroot, Node.listFault?, if_neg hlist]

/-- The files of a walk are at the places that are picked. -/
theorem walked_filesMatching (ht : t.WellFormed)
    (hroot : t.find true root = .ok (.directory entries a)) (c : ScanConfig)
    (pick : Path → Bool) :
    walked (filesMatching t c root pick) =
      (pickedPlaces c root pick (.directory entries a)).map fun place =>
        root.join (.relative place) := by
  have hdir : (Node.directory entries a).WellFormed := Files.Tree.wellFormed_of_find ht hroot
  rw [filesMatching, pickedPlaces, foundPlaces, Node.listFault?]
  by_cases hlist : a.readable = true
  · have hjoin : ∀ place ∈ (Node.directory entries a).filePlaces c.excludes
        (root.listFaultAt? (.directory entries a)),
        root.descend place = root.join (.relative place) := by
      intro place hplace
      obtain ⟨⟨content, b, hat⟩, -⟩ := (Node.mem_filePlaces hdir).mp hplace
      refine Path.descend_eq_join root ?_ (hdir.at? hat).2
      rintro rfl
      cases hat
    rw [survey_eq_ok ht hroot hlist, Except.map, walked, Files.filterMap_file?_filter,
      Files.filterMap_file?_map, ← Node.filePlaces, List.map_congr_left hjoin, List.filter_map,
      if_pos hlist]
    rfl
  · rw [survey_eq_error ht hroot hlist, if_neg hlist]
    rfl

/-- All walks below a root tell the same, whatever files they pick. -/
theorem walkEvents_filesMatching (t : Tree) (c : ScanConfig) (root : Path) (pick : Path → Bool) :
    walkEvents root (filesMatching t c root pick) = walkEvents root (t.survey c.excludes root) := by
  rw [filesMatching]
  cases t.survey c.excludes root with
  | error fault => rfl
  | ok sights => exact Files.filterMap_filter_keptBy (fun _ => rfl) pick sights

theorem mem_foundPlaces (ht : t.WellFormed)
    (hroot : t.find true root = .ok (.directory entries a)) {c : ScanConfig} {place : Place} :
    place ∈ foundPlaces c root (.directory entries a) ↔
      (∃ content b, (Node.directory entries a).at? place = some (.file content b)) ∧
        c.Enters root (.directory entries a) place.dropLast := by
  have hdir : (Node.directory entries a).WellFormed := Files.Tree.wellFormed_of_find ht hroot
  have henters
      (hfile : ∃ content b, (Node.directory entries a).at? place = some (.file content b)) :
      (a.readable = true ∧
          Entered c.excludes (root.listFaultAt? (.directory entries a)) place.dropLast) ↔
        c.Enters root (.directory entries a) place.dropLast := by
    obtain ⟨content, b, hat⟩ := hfile
    have hne : place ≠ [] := by
      rintro rfl
      cases hat
    obtain ⟨inner, d, habove⟩ := Node.exists_directory_above hat hne
    exact ScanConfig.entered_iff_enters ht hroot habove
  rw [foundPlaces, Node.listFault?]
  by_cases hlist : a.readable = true
  · rw [if_pos hlist, Option.isNone_none, if_pos rfl, Node.mem_filePlaces hdir]
    refine and_congr_right fun hfile => ?_
    rw [← henters hfile, and_iff_right hlist]
  · rw [if_neg hlist]
    refine iff_of_false (by simp) ?_
    rintro ⟨hfile, henter⟩
    exact hlist ((henters hfile).mpr henter).1

theorem foundPlaces_pairwise (ht : t.WellFormed)
    (hroot : t.find true root = .ok (.directory entries a)) (c : ScanConfig) :
    (foundPlaces c root (.directory entries a)).Pairwise (· < ·) := by
  rw [foundPlaces]
  split
  · exact Node.filePlaces_pairwise (Files.Tree.wellFormed_of_find ht hroot)
  · exact List.Pairwise.nil

theorem mem_shutsBelow (ht : t.WellFormed)
    (hroot : t.find true root = .ok (.directory entries a)) {c : ScanConfig} {s : Shut} :
    s ∈ shutsBelow c root (.directory entries a) ↔ c.Shuts root (.directory entries a) s := by
  have hdir : (Node.directory entries a).WellFormed := Files.Tree.wellFormed_of_find ht hroot
  obtain ⟨place, fault⟩ := s
  rw [shutsBelow]
  by_cases hlist : a.readable = true
  · have hopen : (Node.directory entries a).listFault? = none := by
      rw [Node.listFault?, if_pos hlist]
    have henters {inner : List (Name × Node)} {b : Attributes} (hne : place ≠ [])
        (hat : (Node.directory entries a).at? place = some (.directory inner b)) :
        Entered c.excludes (root.listFaultAt? (.directory entries a)) place.dropLast ↔
          c.Enters root (.directory entries a) place.dropLast := by
      obtain ⟨above, d, habove⟩ := Node.exists_directory_above hat hne
      rw [← ScanConfig.entered_iff_enters ht hroot habove, and_iff_right hlist]
    rw [hopen]
    dsimp only
    rw [Node.mem_shuts hdir]
    simp only [ScanConfig.excludes_eq_false]
    constructor
    · rintro ⟨⟨inner, b, hat⟩, ⟨name, hname, hnamed⟩, hentered, hfault⟩
      refine ⟨⟨inner, b, hat⟩, fun other hother => ?_, fun hne => (henters hne hat).mp hentered,
        hfault⟩
      obtain rfl : name = other := Option.some.inj (hname.symm.trans hother)
      exact hnamed
    · rintro ⟨⟨inner, b, hat⟩, hnamed, hreached, hrefused⟩
      have hne : place ≠ [] := by
        rintro rfl
        rw [Path.listFaultAt?, hopen] at hrefused
        cases hrefused
      have hlast := List.getLast?_eq_some_getLast hne
      exact ⟨⟨inner, b, hat⟩, ⟨_, hlast, hnamed _ hlast⟩, (henters hne hat).mpr (hreached hne),
        hrefused⟩
  · -- only the root is met
    have hclosed : (Node.directory entries a).listFault? = some .denied := by
      rw [Node.listFault?, if_neg hlist]
    rw [hclosed, List.mem_singleton]
    constructor
    · intro heq
      cases heq
      exact ⟨⟨entries, a, rfl⟩, by simp, fun hne => absurd rfl hne, hclosed⟩
    · rintro ⟨⟨inner, b, hat⟩, -, hreached, hrefused⟩
      obtain rfl : place = [] := by
        by_contra hne
        exact hlist ((hreached hne).listed [] entries a List.nil_prefix rfl)
      rw [Path.listFaultAt?, hclosed, Option.some.injEq] at hrefused
      rw [hrefused]

theorem shutsBelow_pairwise (ht : t.WellFormed)
    (hroot : t.find true root = .ok (.directory entries a)) (c : ScanConfig) :
    (shutsBelow c root (.directory entries a)).Pairwise Shut.Before := by
  rw [shutsBelow]
  split
  · exact List.pairwise_singleton _ _
  · exact Node.shuts_pairwise (Files.Tree.wellFormed_of_find ht hroot)

/-- Below a directory a walk tells of the directories that cannot be listed. -/
theorem walkEvents_survey (ht : t.WellFormed)
    (hroot : t.find true root = .ok (.directory entries a)) (c : ScanConfig) :
    walkEvents root (t.survey c.excludes root) =
      (shutsBelow c root (.directory entries a)).map (shutEvent root) := by
  rw [shutsBelow, Node.listFault?]
  by_cases hlist : a.readable = true
  · rw [survey_eq_ok ht hroot hlist, if_pos hlist, walkEvents, Node.shuts,
      List.filterMap_map, List.map_filterMap]
    refine List.filterMap_congr fun s _ => ?_
    cases s <;> rfl
  · rw [survey_eq_error ht hroot hlist, if_neg hlist]
    rfl

/-- Where the same directories cannot be listed, walks tell the same. -/
theorem walkEvents_congr {t' : Tree} {entries' : List (Name × Node)} {a' : Attributes}
    (ht : t.WellFormed) (ht' : t'.WellFormed)
    (hroot : t.find true root = .ok (.directory entries a))
    (hroot' : t'.find true root = .ok (.directory entries' a')) {c : ScanConfig}
    (hsame : ∀ s, c.Shuts root (.directory entries a) s ↔
      c.Shuts root (.directory entries' a') s) :
    walkEvents root (t.survey c.excludes root) = walkEvents root (t'.survey c.excludes root) := by
  rw [walkEvents_survey ht hroot, walkEvents_survey ht' hroot']
  refine congrArg (List.map (shutEvent root)) ?_
  refine (shutsBelow_pairwise ht hroot c).eq_of_mem_iff (shutsBelow_pairwise ht' hroot' c) ?_
  intro s
  rw [mem_shutsBelow ht hroot, mem_shutsBelow ht' hroot', hsame]

end Walks

/-! ## Roots with slashes at the end -/

/-- A path to a directory that has a name of one letter, with slashes at the end. -/
def slashedRoot (n : Nat) : Path := ⟨[0x64] ++ List.replicate (n + 1) Name.slash⟩

/-- It leads to the directory under the name, if it is not too long itself. -/
theorem find_slashedRoot (entries : List (Name × Node)) {n : Nat}
    (hn : n + 2 ≤ Files.maxPathLength) :
    (Tree.directory [([0x64], .directory entries)]).find true (slashedRoot n) =
      .ok (.directory entries) := by
  have hname : Name.Valid [0x64] := by decide
  have hfault : (slashedRoot n).fault? = none := by
    rw [Path.fault?_eq_none_iff]
    refine ⟨?_, ?_, ?_⟩
    · simp [slashedRoot, Name.slash]
    · simp only [slashedRoot, List.length_append, List.length_replicate, List.length_singleton]
      omega
    · simp [slashedRoot]
  rw [Files.Tree.find, Files.Tree.spot, hfault, slashedRoot,
    Path.steps_append_slashes hname]
  rfl

/-- The path of an entry is longer than that of the directory. -/
theorem faultAt?_slashedRoot {n : Nat} {name : Name} (hname : name.Valid) (hnul : 0 ∉ name)
    (hn : Files.maxPathLength < n + 2 + name.length) :
    ∀ dir, (slashedRoot n).faultAt? dir [name] = some .nameTooLong := by
  intro dir
  have hclosed : (slashedRoot n).endsWithSlash = true := Path.endsWithSlash_append_slashes _ n
  have hpath : ((slashedRoot n).join (.relative [name])).bytes =
      (slashedRoot n).bytes ++ name := by
    have hrelative : ∀ other ∈ [name], other.Valid := by simpa using hname
    rw [Path.join_of_not_isAbsolute _ (Path.not_isAbsolute_relative hrelative), hclosed,
      Bool.or_true, if_pos rfl, List.append_nil, Path.relative, List.flatMap_nil, List.append_nil]
  have hzero : 0 ∉ ((slashedRoot n).join (.relative [name])).bytes := by
    rw [hpath]
    simp [slashedRoot, hnul, Name.slash]
  have hlength : Files.maxPathLength < ((slashedRoot n).join (.relative [name])).bytes.length := by
    rw [hpath, slashedRoot]
    simp only [List.length_append, List.length_replicate, List.length_singleton]
    omega
  have hfault : ((slashedRoot n).join (.relative [name])).fault? = some .nameTooLong := by
    rw [Path.fault?, if_neg (by simpa using hzero), if_pos hlength]
  rw [Path.faultAt?, hfault]

/-- The entry of a directory in the directory. -/
def nestedEntries (inner : List (Name × Node)) : List (Name × Node) := [([0x73], .directory inner)]

/-- The tree of the two directories. -/
def nestedTree (inner : List (Name × Node)) : Tree :=
  .directory [([0x64], .directory (nestedEntries inner))]

theorem nestedTree_wellFormed {inner : List (Name × Node)}
    (h : (Node.directory inner).WellFormed) : (nestedTree inner).WellFormed := by
  have hentries : (Node.directory (nestedEntries inner)).WellFormed :=
    Node.wellFormed_single (by decide) h
  exact Files.Tree.wellFormed_directory (Node.wellFormed_single (by decide) hentries)

/-- The longest path that leads to the outer directory. -/
theorem find_nestedTree (inner : List (Name × Node)) :
    (nestedTree inner).find true (slashedRoot 4093) = .ok (.directory (nestedEntries inner)) :=
  find_slashedRoot (nestedEntries inner) (by decide)

/-- From there the inner directory cannot be listed. -/
theorem sights_nestedEntries (inner : List (Name × Node)) :
    (Node.directory (nestedEntries inner)).sights (({} : ScanConfig).excludes)
      ((slashedRoot 4093).listFaultAt? (.directory (nestedEntries inner))) =
        [.closed [[0x73]] .nameTooLong] := by
  have hfault : (slashedRoot 4093).listFaultAt? (.directory (nestedEntries inner)) [[0x73]] =
      some .nameTooLong := by
    rw [Path.listFaultAt?, faultAt?_slashedRoot (by decide) (by decide) (by decide)]
  have hopen : ({} : ScanConfig).excludes [0x73] = false := by decide
  rw [Node.sights, Files.entrySights_eq_map]
  simp [nestedEntries, Files.sightsIn, Files.Sight.inEntry, Files.inNameOrder, Node.isDirectory,
    hopen] at hfault ⊢
  simp [hfault]

/-- So a walk finds nothing and tells of that directory. -/
theorem walkEvents_nestedTree {inner : List (Name × Node)}
    (h : (Node.directory inner).WellFormed) :
    walkEvents (slashedRoot 4093)
        ((nestedTree inner).survey (({} : ScanConfig).excludes) (slashedRoot 4093)) =
      [shutEvent (slashedRoot 4093) ⟨[[0x73]], .nameTooLong⟩] := by
  rw [walkEvents_survey (nestedTree_wellFormed h) (find_nestedTree inner), shutsBelow]
  simp only [Node.listFault?, if_true, Node.shuts, sights_nestedEntries]
  rfl

/-! ## A directory that may not be listed -/

/-- The entry of a directory that may not be listed. -/
def lockedEntries (inner : List (Name × Node)) : List (Name × Node) :=
  [([0x73], .directory inner { readable := false })]

theorem lockedEntries_wellFormed {inner : List (Name × Node)}
    (h : (Node.directory inner { readable := false }).WellFormed) :
    (Tree.directory (lockedEntries inner)).WellFormed :=
  Files.Tree.wellFormed_directory (Node.wellFormed_single (by decide) h)

theorem find_lockedEntries (inner : List (Name × Node)) :
    (Tree.directory (lockedEntries inner)).find true ⟨Name.here⟩ =
      .ok (.directory (lockedEntries inner)) := by rfl

theorem sights_lockedEntries (inner : List (Name × Node)) :
    (Node.directory (lockedEntries inner)).sights (({} : ScanConfig).excludes)
      ((⟨Name.here⟩ : Path).listFaultAt? (.directory (lockedEntries inner))) =
        [.closed [[0x73]] .denied] := by
  have hfault : (⟨Name.here⟩ : Path).listFaultAt? (.directory (lockedEntries inner)) [[0x73]] =
      some .denied := by rfl
  have hopen : ({} : ScanConfig).excludes [0x73] = false := by decide
  rw [Node.sights, Files.entrySights_eq_map]
  simp [lockedEntries, Files.sightsIn, Files.Sight.inEntry, Files.inNameOrder, Node.isDirectory,
    hopen] at hfault ⊢
  simp [hfault]

/-- A walk tells of that directory. -/
theorem walkEvents_lockedEntries {inner : List (Name × Node)}
    (h : (Node.directory inner { readable := false }).WellFormed) :
    walkEvents ⟨Name.here⟩ ((Tree.directory (lockedEntries inner)).survey
        (({} : ScanConfig).excludes) ⟨Name.here⟩) =
      [shutEvent ⟨Name.here⟩ ⟨[[0x73]], .denied⟩] := by
  rw [walkEvents_survey (lockedEntries_wellFormed h) (find_lockedEntries inner), shutsBelow]
  simp only [Node.listFault?, if_true, Node.shuts, sights_lockedEntries]
  rfl

end BackendAudit
