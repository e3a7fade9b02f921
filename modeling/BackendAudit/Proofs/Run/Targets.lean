import BackendAudit.Proofs.Files.Descent
import BackendAudit.Proofs.Run.Selection
import BackendAudit.Proofs.Run.Visits
import Mathlib.Data.List.Sort

/-!
# What a run depends on

Each phase of a run looks at the files with names of some kind, in the directories that it
enters.  Two trees with the same such files below a root, of the same contents and as open to be
read, and with the same directories that cannot be listed, have the same run
(`run_eq_of_targets`): what is in an excluded directory, behind a link or in a file of another name
makes no difference, and neither does the rest of the tree.
-/

namespace BackendAudit

open Files (Tree Node Place Path Name Attributes Shut)

/-! ## Names that count -/

/-- Whether a condition on paths is one on their file names. -/
def ByFileName (pick : Path → Bool) : Prop :=
  ∀ p q : Path, p.fileName? = q.fileName? → pick p = pick q

theorem isSource_byFileName (c : ScanConfig) : ByFileName c.isSource := by
  intro p q h
  rw [ScanConfig.isSource, ScanConfig.isSource, Path.extension?, Path.extension?, h]

theorem isManifest_byFileName : ByFileName Manifest.isManifest := by
  intro p q h
  rw [Manifest.isManifest, Manifest.isManifest, h]

theorem isEnvFile_byFileName : ByFileName Env.isEnvFile := by
  intro p q h
  rw [Env.isEnvFile, Env.isEnvFile, h]

theorem fileName?_of_valid {name : Name} (h : name.Valid) : Path.fileName? ⟨name⟩ = some name := by
  obtain ⟨hne, hhere, hup, hslash⟩ := h
  rw [Path.fileName?, Path.names, Path.pieces_of_not_mem hslash]
  simp [hne, hhere, hup]

namespace ScanConfig

/-- Some phase of a run looks at files with a name: it has an extension that is scanned, is
that of a manifest, or begins as that of an environment file. -/
def LooksAt (c : ScanConfig) (name : Name) : Prop :=
  (∃ extension, Path.extension? ⟨name⟩ = some extension ∧ ∃ e ∈ c.extensions,
      Text.lowercase e.toList = Text.lowercase (Text.Utf8.lossy extension)) ∨
    name = Name.ofString "package.json" ∨ ".env".toList <+: Text.Utf8.lossy name

/-- A run looks at a regular file at a place below its root: the directories on the way are
entered, and its own name is one that counts. -/
structure Target (c : ScanConfig) (root : Path) (dir : Node) (place : Place)
    (content : List UInt8) : Prop where
  file : ∃ a, dir.at? place = some (.file content a)
  reached : c.Enters root dir place.dropLast
  named : ∃ name, place.getLast? = some name ∧ c.LooksAt name

end ScanConfig

/-- The targets are among the files that a walk finds. -/
theorem ScanConfig.target_iff {t : Tree} {root : Path} {entries : List (Name × Node)}
    {a : Attributes} (ht : t.WellFormed) (hroot : t.find true root = .ok (.directory entries a))
    {c : ScanConfig} {place : Place} {content : List UInt8} :
    c.Target root (.directory entries a) place content ↔
      place ∈ foundPlaces c root (.directory entries a) ∧
        (∃ b, (Node.directory entries a).at? place = some (.file content b)) ∧
        ∃ name, place.getLast? = some name ∧ c.LooksAt name := by
  rw [mem_foundPlaces ht hroot]
  constructor
  · rintro ⟨⟨b, hfile⟩, hreached, hnamed⟩
    exact ⟨⟨⟨content, b, hfile⟩, hreached⟩, ⟨b, hfile⟩, hnamed⟩
  · rintro ⟨⟨_, hreached⟩, hfile, hnamed⟩
    exact ⟨hfile, hreached, hnamed⟩

/-- A file at a place below a root is as open to be read in both of two directories: the same keeps
its path from leading to it, if anything does, and it may be read itself in both or in neither. -/
structure SameAccess (root : Path) (dir dir' : Node) (place : Place) : Prop where
  fault_eq : root.faultAt? dir place = root.faultAt? dir' place
  readable_iff : dir.Readable place ↔ dir'.Readable place

/-! ## Files of a phase -/

/-- The condition of one phase: it is on file names, and these names count. -/
structure PhasePick (c : ScanConfig) (pick : Path → Bool) : Prop where
  byFileName : ByFileName pick
  looksAt : ∀ name : Name, name.Valid → pick ⟨name⟩ = true → c.LooksAt name

theorem isSource_phasePick (c : ScanConfig) : PhasePick c c.isSource where
  byFileName := isSource_byFileName c
  looksAt _ _ h := .inl (ScanConfig.isSource_iff.mp h)

theorem isManifest_phasePick (c : ScanConfig) : PhasePick c Manifest.isManifest where
  byFileName := isManifest_byFileName
  looksAt name hname h := by
    rw [Manifest.isManifest, fileName?_of_valid hname] at h
    exact .inr (.inl (Option.some.inj (eq_of_beq h)))

theorem isEnvFile_phasePick (c : ScanConfig) : PhasePick c Env.isEnvFile where
  byFileName := isEnvFile_byFileName
  looksAt name hname h := by
    rw [Env.isEnvFile, fileName?_of_valid hname] at h
    exact .inr (.inr (List.isPrefixOf_iff_prefix.mp h))

section Picked

variable {t t' : Tree} {c : ScanConfig} {root : Path} {pick : Path → Bool}
  {entries entries' : List (Name × Node)} {a a' : Attributes}

/-- A picked place is one of a target, with a last name that is picked. -/
theorem mem_pickedPlaces (hpick : PhasePick c pick) (ht : t.WellFormed)
    (hroot : t.find true root = .ok (.directory entries a)) {place : Place} :
    place ∈ pickedPlaces c root pick (.directory entries a) ↔
      (∃ content, c.Target root (.directory entries a) place content) ∧
        ∃ name, place.getLast? = some name ∧ pick ⟨name⟩ = true := by
  have hdir : (Node.directory entries a).WellFormed := Files.Tree.wellFormed_of_find ht hroot
  have hlast (content b) (hat : (Node.directory entries a).at? place = some (.file content b)) :
      ∃ name, place.getLast? = some name ∧ name.Valid ∧
        pick (root.join (.relative place)) = pick ⟨name⟩ := by
    have hne : place ≠ [] := by
      rintro rfl
      cases hat
    have hnames : ∀ name ∈ place, name.Valid := (hdir.at? hat).2
    have hvalid : (place.getLast hne).Valid := hnames _ (List.getLast_mem hne)
    refine ⟨place.getLast hne, List.getLast?_eq_some_getLast hne, hvalid, ?_⟩
    refine hpick.byFileName _ _ ?_
    rw [Path.fileName?_join root hne hnames, fileName?_of_valid hvalid,
      List.getLast?_eq_some_getLast hne]
  rw [pickedPlaces, List.mem_filter, mem_foundPlaces ht hroot]
  constructor
  · rintro ⟨⟨⟨content, b, hat⟩, hreached⟩, hpicked⟩
    obtain ⟨name, hname, hvalid, heq⟩ := hlast content b hat
    rw [heq] at hpicked
    exact ⟨⟨content, ⟨b, hat⟩, hreached, name, hname, hpick.looksAt name hvalid hpicked⟩, name,
      hname, hpicked⟩
  · rintro ⟨⟨content, ⟨⟨b, hat⟩, hreached, -⟩⟩, name, hname, hpicked⟩
    obtain ⟨name', hname', _, heq⟩ := hlast content b hat
    obtain rfl : name = name' := Option.some.inj (hname.symm.trans hname')
    exact ⟨⟨⟨content, b, hat⟩, hreached⟩, heq.trans hpicked⟩

/-- The same targets make the same places to be picked. -/
theorem pickedPlaces_congr (hpick : PhasePick c pick) (ht : t.WellFormed)
    (ht' : t'.WellFormed) (hroot : t.find true root = .ok (.directory entries a))
    (hroot' : t'.find true root = .ok (.directory entries' a'))
    (hsame : ∀ place content, c.Target root (.directory entries a) place content ↔
      c.Target root (.directory entries' a') place content) :
    pickedPlaces c root pick (.directory entries a) =
      pickedPlaces c root pick (.directory entries' a') := by
  have hpairwise : (pickedPlaces c root pick (.directory entries a)).Pairwise (· < ·) :=
    (foundPlaces_pairwise ht hroot c).filter _
  have hpairwise' : (pickedPlaces c root pick (.directory entries' a')).Pairwise (· < ·) :=
    (foundPlaces_pairwise ht' hroot' c).filter _
  refine hpairwise.eq_of_mem_iff hpairwise' fun place => ?_
  rw [mem_pickedPlaces hpick ht hroot, mem_pickedPlaces hpick ht' hroot']
  simp only [hsame]

end Picked

/-! ## Runs -/

section Runs

variable {w : Wording} {t t' : Tree} {root : Path} {c : ScanConfig}
  {entries entries' : List (Name × Node)} {a a' : Attributes}

/-- Two directories are the same to a run: the same files are targets and they are as open to be
read, and the same directories cannot be listed. -/
structure ScanConfig.SameBelow (c : ScanConfig) (root : Path) (dir dir' : Node) : Prop where
  targets : ∀ place content, c.Target root dir place content ↔ c.Target root dir' place content
  access : ∀ place content, c.Target root dir place content → SameAccess root dir dir' place
  shut : ∀ s, c.Shuts root dir s ↔ c.Shuts root dir' s

/-- A target that is as open to be read in both trees is found to be the same. -/
theorem size_and_read_congr (ht : t.WellFormed) (ht' : t'.WellFormed)
    (hroot : t.find true root = .ok (.directory entries a))
    (hroot' : t'.find true root = .ok (.directory entries' a')) {place : Place}
    {content : List UInt8} (h : c.Target root (.directory entries a) place content)
    (h' : c.Target root (.directory entries' a') place content)
    (hsame : SameAccess root (.directory entries a) (.directory entries' a') place) :
    t.size (root.join (.relative place)) = t'.size (root.join (.relative place)) ∧
      t.read (root.join (.relative place)) = t'.read (root.join (.relative place)) := by
  obtain ⟨⟨b, hat⟩, -⟩ := h
  obtain ⟨⟨b', hat'⟩, -⟩ := h'
  have hne : place ≠ [] := by
    rintro rfl
    cases hat
  have hreadable : b.readable = b'.readable := by
    have hiff := hsame.readable_iff
    rw [Node.readable_iff hat, Node.readable_iff hat'] at hiff
    exact Bool.eq_iff_iff.mpr hiff
  rw [Files.Tree.size_join ht hroot hne hat (by simp),
    Files.Tree.size_join ht' hroot' hne hat' (by simp),
    Files.Tree.read_join ht hroot hne hat (by simp),
    Files.Tree.read_join ht' hroot' hne hat' (by simp), hsame.fault_eq, Node.read_file,
    Node.read_file, hreadable]
  exact ⟨rfl, rfl⟩

/-- What comes of the files of a phase, if it follows from what is found. -/
theorem map_walked_congr (ht : t.WellFormed) (ht' : t'.WellFormed)
    (hroot : t.find true root = .ok (.directory entries a))
    (hroot' : t'.find true root = .ok (.directory entries' a'))
    (hsame : c.SameBelow root (.directory entries a) (.directory entries' a'))
    {pick : Path → Bool} (hpick : PhasePick c pick) {visit visit' : Path → Visit}
    (hvisit : ∀ path, t.size path = t'.size path → t.read path = t'.read path →
      visit path = visit' path) :
    (walked (filesMatching t c root pick)).map visit =
      (walked (filesMatching t' c root pick)).map visit' := by
  rw [walked_filesMatching ht hroot, walked_filesMatching ht' hroot',
    ← pickedPlaces_congr hpick ht ht' hroot hroot' hsame.targets, List.map_map, List.map_map]
  refine List.map_congr_left fun place hplace => ?_
  obtain ⟨⟨content, htarget⟩, _⟩ := (mem_pickedPlaces hpick ht hroot).mp hplace
  obtain ⟨hsize, hread⟩ := size_and_read_congr ht ht' hroot hroot' htarget
    ((hsame.targets place content).mp htarget) (hsame.access place content htarget)
  exact hvisit _ hsize hread

/-- The same targets are visited in the same way. -/
theorem visits_congr (ht : t.WellFormed) (ht' : t'.WellFormed)
    (hroot : t.find true root = .ok (.directory entries a))
    (hroot' : t'.find true root = .ok (.directory entries' a'))
    (hsame : c.SameBelow root (.directory entries a) (.directory entries' a'))
    (registry : Registry) :
    sourceVisits t c registry root = sourceVisits t' c registry root ∧
      settingsVisits w t c root = settingsVisits w t' c root := by
  constructor
  · refine map_walked_congr ht ht' hroot hroot' hsame (isSource_phasePick c) ?_
    intro path hsize hread
    rw [scanFile_congr hsize hread]
  · refine congrArg₂ (· ++ ·) ?manifests ?envFiles
    case manifests =>
      refine map_walked_congr ht ht' hroot hroot' hsame (isManifest_phasePick c) ?_
      intro path _ hread
      rw [auditManifest_congr hread]
    case envFiles =>
      refine map_walked_congr ht ht' hroot hroot' hsame (isEnvFile_phasePick c) ?_
      intro path _ hread
      rw [auditEnvFile_congr hread]

/-- The root is listed in both trees or in neither. -/
theorem checkRoot_congr (hroot : t.find true root = .ok (.directory entries a))
    (hroot' : t'.find true root = .ok (.directory entries' a'))
    (hsame : c.SameBelow root (.directory entries a) (.directory entries' a')) :
    checkRoot t root = checkRoot t' root := by
  have hshut (inner : List (Name × Node)) (b : Attributes) :
      c.Shuts root (.directory inner b) ⟨[], .denied⟩ ↔ ¬ b.readable = true := by
    constructor
    · intro h hreadable
      have hrefused := h.refused
      rw [Path.listFaultAt?, Node.listFault?, if_pos hreadable] at hrefused
      cases hrefused
    · intro hreadable
      refine ⟨⟨inner, b, rfl⟩, by simp, fun hne => absurd rfl hne, ?_⟩
      rw [Path.listFaultAt?, Node.listFault?, if_neg hreadable]
  have hreadable : a.readable = a'.readable := by
    rw [Bool.eq_iff_iff, ← not_iff_not, ← hshut entries a, ← hshut entries' a', hsame.shut]
  rw [checkRoot, checkRoot, Files.Tree.listFault?, Files.Tree.listFault?, hroot, hroot']
  simp only [Node.isDirectory, Node.listFault?, hreadable]
  rfl

/-- Below a root that is a directory in two trees, and the same to a run, the phases over files are
the same. -/
theorem filePhases_congr (ht : t.WellFormed) (ht' : t'.WellFormed)
    (hroot : t.find true root = .ok (.directory entries a))
    (hroot' : t'.find true root = .ok (.directory entries' a')) {c : Config}
    (hsame : c.scan.SameBelow root (.directory entries a) (.directory entries' a'))
    (registry : Registry) : filePhases w t root c registry = filePhases w t' root c registry := by
  obtain ⟨hsources, hsettings⟩ := visits_congr ht ht' hroot hroot' hsame registry
  rw [filePhases_eq_ofVisits, filePhases_eq_ofVisits, hsources, hsettings,
    walkEvents_congr ht ht' hroot hroot' hsame.shut]

/-- So are the runs then, whatever the probe does. -/
theorem run_congr (ht : t.WellFormed) (ht' : t'.WellFormed)
    (hroot : t.find true root = .ok (.directory entries a))
    (hroot' : t'.find true root = .ok (.directory entries' a')) {c : Config}
    (hsame : c.scan.SameBelow root (.directory entries a) (.directory entries' a'))
    (probe : Option Probe) : run w t root c probe = run w t' root c probe := by
  rw [run, run, prepare_congr (checkRoot_congr hroot hroot' hsame)]
  simp only [phases, filePhases_congr ht ht' hroot hroot' hsame]

end Runs

/-- Below a root that is a directory in two trees, with the same targets, as open to be read in
both, and the same directories that cannot be listed, the runs without a probe are the same: their
events, and their reports or why there is none. -/
theorem run_eq_of_targets {w : Wording} {t t' : Tree} {root : Path}
    {entries entries' : List (Name × Node)} {a a' : Attributes} (ht : t.WellFormed)
    (ht' : t'.WellFormed)
    (hroot : t.find true root = .ok (.directory entries a))
    (hroot' : t'.find true root = .ok (.directory entries' a')) (c : Config)
    (hsame : ∀ place content, c.scan.Target root (.directory entries a) place content ↔
      c.scan.Target root (.directory entries' a') place content)
    (haccess : ∀ place content, c.scan.Target root (.directory entries a) place content →
      SameAccess root (.directory entries a) (.directory entries' a') place)
    (hshut : ∀ s, c.scan.Shuts root (.directory entries a) s ↔
      c.scan.Shuts root (.directory entries' a') s) :
    run w t root c none = run w t' root c none :=
  run_congr ht ht' hroot hroot' ⟨hsame, haccess, hshut⟩ none

/-- A directory with a script that may not be read, a file `n` and an excluded directory `x`. -/
def plainDirectory : List (Name × Node) :=
  [([0x61, 0x2e, 0x6a, 0x73], .file [0x61] { readable := false }),
    ([0x6e], .file [0x62]),
    ([0x78], .directory [([0x61, 0x2e, 0x6a, 0x73], .file [0x62])])]

/-- The same script, with a link to it. -/
def linkDirectory : List (Name × Node) :=
  [([0x61, 0x2e, 0x6a, 0x73], .file [0x61] { readable := false }),
    ([0x62, 0x2e, 0x6a, 0x73], .link ⟨[0x61, 0x2e, 0x6a, 0x73]⟩)]

/-- Only the script and the file `n` are found in the one. -/
theorem sights_plainDirectory :
    (Node.directory plainDirectory).sights (ScanConfig.excludes { excludeDirs := ["x"] })
      ((⟨[0x2f, 0x72]⟩ : Path).listFaultAt? (.directory plainDirectory)) =
        [.file [[0x61, 0x2e, 0x6a, 0x73]], .file [[0x6e]]] := by
  have hentries : Files.entrySights (ScanConfig.excludes { excludeDirs := ["x"] })
      ((⟨[0x2f, 0x72]⟩ : Path).listFaultAt? (.directory plainDirectory)) plainDirectory =
        [([0x61, 0x2e, 0x6a, 0x73], [.file [[0x61, 0x2e, 0x6a, 0x73]]]),
          ([0x6e], [.file [[0x6e]]]), ([0x78], [])] := by rfl
  rw [Node.sights, Files.inNameOrder, hentries, List.mergeSort_of_pairwise (by decide)]
  rfl

/-- Only the script is found in the other. -/
theorem sights_linkDirectory :
    (Node.directory linkDirectory).sights (ScanConfig.excludes { excludeDirs := ["x"] })
      ((⟨[0x2f, 0x72]⟩ : Path).listFaultAt? (.directory linkDirectory)) =
        [.file [[0x61, 0x2e, 0x6a, 0x73]]] := by
  have hentries : Files.entrySights (ScanConfig.excludes { excludeDirs := ["x"] })
      ((⟨[0x2f, 0x72]⟩ : Path).listFaultAt? (.directory linkDirectory)) linkDirectory =
        [([0x61, 0x2e, 0x6a, 0x73], [.file [[0x61, 0x2e, 0x6a, 0x73]]]),
          ([0x62, 0x2e, 0x6a, 0x73], [])] := by rfl
  rw [Node.sights, Files.inNameOrder, hentries, List.mergeSort_of_pairwise (by decide)]
  rfl

theorem foundPlaces_plainDirectory :
    foundPlaces { excludeDirs := ["x"] } ⟨[0x2f, 0x72]⟩ (.directory plainDirectory) =
      [[[0x61, 0x2e, 0x6a, 0x73]], [[0x6e]]] := by
  simp [foundPlaces, Node.listFault?, Node.filePlaces, sights_plainDirectory, Files.Sight.file?]

theorem foundPlaces_linkDirectory :
    foundPlaces { excludeDirs := ["x"] } ⟨[0x2f, 0x72]⟩ (.directory linkDirectory) =
      [[[0x61, 0x2e, 0x6a, 0x73]]] := by
  simp [foundPlaces, Node.listFault?, Node.filePlaces, sights_linkDirectory, Files.Sight.file?]

/-- All directories can be listed in the one. -/
theorem shutsBelow_plainDirectory :
    shutsBelow { excludeDirs := ["x"] } ⟨[0x2f, 0x72]⟩ (.directory plainDirectory) = [] := by
  simp [shutsBelow, Node.listFault?, Node.shuts, sights_plainDirectory, Files.Sight.shut?]

/-- So they can in the other. -/
theorem shutsBelow_linkDirectory :
    shutsBelow { excludeDirs := ["x"] } ⟨[0x2f, 0x72]⟩ (.directory linkDirectory) = [] := by
  simp [shutsBelow, Node.listFault?, Node.shuts, sights_linkDirectory, Files.Sight.shut?]

/-- The file `n` is not looked at. -/
theorem not_looksAt_n : ¬ ({ excludeDirs := ["x"] } : ScanConfig).LooksAt [0x6e] := by
  rintro (⟨extension, hextension, _⟩ | hmanifest | henv)
  · have hnone : Path.extension? ⟨[0x6e]⟩ = none := by rfl
    rw [hnone] at hextension
    cases hextension
  · exact absurd hmanifest (by decide)
  · exact absurd henv (by decide)

/-- The directory `/r` itself, and a link `/r` to the directory `/s`. -/
theorem run_eq_of_targets_detour :
    let plain : Tree := .directory [([0x72], .directory plainDirectory)]
    let detour : Tree :=
      .directory [([0x72], .link ⟨[0x2f, 0x73]⟩), ([0x73], .directory linkDirectory)]
    let root : Path := ⟨[0x2f, 0x72]⟩
    let c : Config := { scan := { excludeDirs := ["x"] } }
    plain.WellFormed ∧ detour.WellFormed ∧
      plain.find true root = .ok (.directory plainDirectory) ∧
      detour.find true root = .ok (.directory linkDirectory) ∧
      (∀ place content, c.scan.Target root (.directory plainDirectory) place content ↔
        c.scan.Target root (.directory linkDirectory) place content) ∧
      (∀ place content, c.scan.Target root (.directory plainDirectory) place content →
        SameAccess root (.directory plainDirectory) (.directory linkDirectory) place) ∧
      (∀ s, c.scan.Shuts root (.directory plainDirectory) s ↔
        c.scan.Shuts root (.directory linkDirectory) s) ∧
      run .silent plain root c none = run .silent detour root c none := by
  intro plain detour root c
  have hwell : plain.WellFormed := by
    refine Files.Tree.wellFormed_directory ?_
    simp [plainDirectory, Node.wellFormed_directory, Node.WellFormed, Name.Valid, Name.here,
      Name.up, Name.point, Name.slash]
  have hwell' : detour.WellFormed := by
    refine Files.Tree.wellFormed_directory ?_
    simp [linkDirectory, Node.wellFormed_directory, Node.WellFormed, Name.Valid, Name.here,
      Name.up, Name.point, Name.slash]
  have hroot : plain.find true root = .ok (.directory plainDirectory) := by rfl
  have hroot' : detour.find true root = .ok (.directory linkDirectory) := by rfl
  have honly {place : Place} {content : List UInt8}
      (h : c.scan.Target root (.directory plainDirectory) place content) :
      place = [[0x61, 0x2e, 0x6a, 0x73]] := by
    obtain ⟨hmem, -, name, hname, hlooks⟩ := (ScanConfig.target_iff hwell hroot).mp h
    rw [foundPlaces_plainDirectory] at hmem
    rcases List.mem_cons.mp hmem with rfl | hmem
    · rfl
    · obtain rfl := List.mem_singleton.mp hmem
      obtain rfl : [0x6e] = name := Option.some.inj hname
      exact absurd hlooks not_looksAt_n
  have hsame : ∀ place content, c.scan.Target root (.directory plainDirectory) place content ↔
      c.scan.Target root (.directory linkDirectory) place content := by
    intro place content
    constructor
    · intro h
      obtain rfl := honly h
      obtain ⟨-, hfile, hnamed⟩ := (ScanConfig.target_iff hwell hroot).mp h
      refine (ScanConfig.target_iff hwell' hroot').mpr ⟨?_, hfile, hnamed⟩
      rw [foundPlaces_linkDirectory]
      exact List.mem_cons_self
    · intro h
      obtain ⟨hmem, hfile, hnamed⟩ := (ScanConfig.target_iff hwell' hroot').mp h
      rw [foundPlaces_linkDirectory] at hmem
      obtain rfl := List.mem_singleton.mp hmem
      refine (ScanConfig.target_iff hwell hroot).mpr ⟨?_, hfile, hnamed⟩
      rw [foundPlaces_plainDirectory]
      exact List.mem_cons_self
  have haccess : ∀ place content, c.scan.Target root (.directory plainDirectory) place content →
      SameAccess root (.directory plainDirectory) (.directory linkDirectory) place := by
    intro place content h
    obtain rfl := honly h
    exact ⟨by rfl, Iff.rfl⟩
  have hshut : ∀ s, c.scan.Shuts root (.directory plainDirectory) s ↔
      c.scan.Shuts root (.directory linkDirectory) s := by
    intro s
    have hnone : shutsBelow c.scan root (.directory plainDirectory) = [] :=
      shutsBelow_plainDirectory
    have hnone' : shutsBelow c.scan root (.directory linkDirectory) = [] := shutsBelow_linkDirectory
    rw [← mem_shutsBelow hwell hroot, ← mem_shutsBelow hwell' hroot', hnone, hnone']
  exact ⟨hwell, hwell', hroot, hroot', hsame, haccess, hshut,
    run_eq_of_targets hwell hwell' hroot hroot' c hsame haccess hshut⟩

/-- Where no files are found there are no visits. -/
theorem visits_eq_nil {w : Wording} {t : Tree} {root : Path} {entries : List (Name × Node)}
    {a : Attributes} {c : ScanConfig} (ht : t.WellFormed)
    (hroot : t.find true root = .ok (.directory entries a))
    (hnone : foundPlaces c root (.directory entries a) = [])
    (registry : Registry) :
    sourceVisits t c registry root = [] ∧ settingsVisits w t c root = [] := by
  have hwalked (pick : Path → Bool) : walked (filesMatching t c root pick) = [] := by
    rw [walked_filesMatching ht hroot, pickedPlaces, hnone]
    rfl
  rw [sourceVisits, sourceFiles, settingsVisits, hwalked, hwalked, hwalked]
  exact ⟨rfl, rfl⟩

/-- Where no files are found a run without a probe tells of the directories that cannot be listed
three times, and of its three phases. -/
theorem length_events_of_no_files {w : Wording} {t : Tree} {root : Path}
    {entries : List (Name × Node)} {a : Attributes} (ht : t.WellFormed)
    (hroot : t.find true root = .ok (.directory entries a))
    (hlist : a.readable = true)
    (hnone : foundPlaces {} root (.directory entries a) = []) :
    (run w t root {} none).events.length =
      3 * (walkEvents root (t.survey (({} : ScanConfig).excludes) root)).length + 7 := by
  have hready : prepare t root {} = .ok .builtin := by
    rw [prepare, checkRoot_eq_ok.mpr ⟨_, _, hroot, hlist⟩]
    rfl
  obtain ⟨hsources, hsettings⟩ := visits_eq_nil ht hroot hnone .builtin
  rw [run_eq_ofVisits hready, hsources, hsettings]
  simp [runOfVisits, phasesOfVisits, filePhasesOfVisits, PhaseRun.allEvents, PhaseRun.ofOutcomes,
    PhaseRun.ofProbe, Visit.announce]
  omega

/-- So two such runs differ if their walks do not tell of equally many. -/
theorem run_ne_of_no_files {w : Wording} {t t' : Tree} {root : Path}
    {entries entries' : List (Name × Node)} {a a' : Attributes} (ht : t.WellFormed)
    (ht' : t'.WellFormed) (hroot : t.find true root = .ok (.directory entries a))
    (hroot' : t'.find true root = .ok (.directory entries' a')) (hlist : a.readable = true)
    (hlist' : a'.readable = true) (hnone : foundPlaces {} root (.directory entries a) = [])
    (hnone' : foundPlaces {} root (.directory entries' a') = [])
    (htold : (walkEvents root (t.survey (({} : ScanConfig).excludes) root)).length ≠
      (walkEvents root (t'.survey (({} : ScanConfig).excludes) root)).length) :
    run w t root {} none ≠ run w t' root {} none := by
  intro heq
  have hlength := congrArg (fun r => r.events.length) heq
  simp only [length_events_of_no_files ht hroot hlist hnone,
    length_events_of_no_files ht' hroot' hlist' hnone'] at hlength
  omega

/-! ## Directories without files -/

theorem at?_emptyDirectory_ne_file {a : Attributes} (place : Place) (content : List UInt8)
    (b : Attributes) : (Node.directory [] a).at? place ≠ some (.file content b) := by
  cases place <;> simp [Node.at?, Node.child?]

theorem at?_nestedDirectory_ne_file {name : Name} {a : Attributes} (place : Place)
    (content : List UInt8) (b : Attributes) :
    (Node.directory [(name, .directory [] a)]).at? place ≠ some (.file content b) := by
  intro hat
  cases place with
  | nil => cases hat
  | cons other rest =>
    obtain ⟨entries, _, child, hentries, hlookup, hchild⟩ := Node.at?_cons_eq_some.mp hat
    cases hentries
    obtain rfl : Node.directory [] a = child := by
      rw [List.lookup_cons] at hlookup
      split at hlookup
      · exact Option.some.inj hlookup
      · cases hlookup
    exact at?_emptyDirectory_ne_file rest content b hchild

theorem sights_emptyDirectory (root : Path) :
    (Node.directory []).sights (({} : ScanConfig).excludes)
      (root.listFaultAt? (.directory [])) = [] := by
  rw [Node.sights, Files.entrySights, Files.inNameOrder, List.mergeSort_nil]
  rfl

theorem foundPlaces_emptyDirectory (root : Path) : foundPlaces {} root (.directory []) = [] := by
  simp [foundPlaces, Node.listFault?, Node.filePlaces, sights_emptyDirectory]

/-- A walk tells of nothing in an empty directory. -/
theorem walkEvents_emptyDirectory {t : Tree} {root : Path} (ht : t.WellFormed)
    (hroot : t.find true root = .ok (.directory [])) :
    walkEvents root (t.survey (({} : ScanConfig).excludes) root) = [] := by
  rw [walkEvents_survey ht hroot, shutsBelow]
  simp [Node.listFault?, Node.shuts, sights_emptyDirectory]

/-- A directory without anything in it makes a difference if its path is too long for it to be
listed, or if it may not be listed, since each walk tells of it. -/
theorem run_tells_of_directory :
    let bare : Tree := .directory [([0x64], .directory [])]
    (∀ place content a, (Node.directory []).at? place ≠ some (.file content a)) ∧
      (bare.WellFormed ∧ (nestedTree []).WellFormed ∧
        bare.find true (slashedRoot 4093) = .ok (.directory []) ∧
        (nestedTree []).find true (slashedRoot 4093) = .ok (.directory (nestedEntries [])) ∧
        (∀ place content a,
          (Node.directory (nestedEntries [])).at? place ≠ some (.file content a)) ∧
        run .silent bare (slashedRoot 4093) {} none ≠
          run .silent (nestedTree []) (slashedRoot 4093) {} none) ∧
      Tree.empty.WellFormed ∧ (Tree.directory (lockedEntries [])).WellFormed ∧
        Tree.empty.find true ⟨Name.here⟩ = .ok (.directory []) ∧
        (Tree.directory (lockedEntries [])).find true ⟨Name.here⟩ =
          .ok (.directory (lockedEntries [])) ∧
        (∀ place content a,
          (Node.directory (lockedEntries [])).at? place ≠ some (.file content a)) ∧
        run .silent Tree.empty ⟨Name.here⟩ {} none ≠
          run .silent (Tree.directory (lockedEntries [])) ⟨Name.here⟩ {} none := by
  intro bare
  have hempty (b : Attributes) : (Node.directory [] b).WellFormed := by simp [Node.WellFormed]
  have hbare : bare.WellFormed :=
    Files.Tree.wellFormed_directory (Node.wellFormed_single (by decide) (hempty _))
  have hbareRoot : bare.find true (slashedRoot 4093) = .ok (.directory []) :=
    find_slashedRoot [] (by decide)
  have hnested : (nestedTree []).WellFormed := nestedTree_wellFormed (hempty _)
  have htop : Tree.empty.WellFormed := Files.Tree.wellFormed_directory (hempty _)
  have htopRoot : Tree.empty.find true ⟨Name.here⟩ = .ok (.directory []) := by rfl
  have hlocked : (Tree.directory (lockedEntries [])).WellFormed :=
    lockedEntries_wellFormed (hempty _)
  refine ⟨at?_emptyDirectory_ne_file, ⟨hbare, hnested, hbareRoot, find_nestedTree [],
    at?_nestedDirectory_ne_file, ?long⟩, htop, hlocked, htopRoot, find_lockedEntries [],
    at?_nestedDirectory_ne_file, ?locked⟩
  case long =>
    refine run_ne_of_no_files hbare hnested hbareRoot (find_nestedTree []) rfl rfl
      (foundPlaces_emptyDirectory _) ?_ ?_
    · simp [foundPlaces, Node.listFault?, Node.filePlaces, sights_nestedEntries, Files.Sight.file?]
    · rw [walkEvents_emptyDirectory hbare hbareRoot, walkEvents_nestedTree (hempty _)]
      decide
  case locked =>
    refine run_ne_of_no_files htop hlocked htopRoot (find_lockedEntries []) rfl rfl
      (foundPlaces_emptyDirectory _) ?_ ?_
    · simp [foundPlaces, Node.listFault?, Node.filePlaces, sights_lockedEntries, Files.Sight.file?]
    · rw [walkEvents_emptyDirectory htop htopRoot, walkEvents_lockedEntries (hempty _)]
      decide

end BackendAudit
