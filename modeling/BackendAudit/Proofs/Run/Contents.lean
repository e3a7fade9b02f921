import BackendAudit.Proofs.Run.Course
import BackendAudit.Proofs.Run.SizeLimit
import BackendAudit.Proofs.Text.Utf8

/-!
# Files and their contents

What comes of a file by its path is what comes of its content under the same name: it is skipped
just when it is too large, which is looked at first, may not be read or is no text (`ScannedAs`),
and otherwise scanned with the findings in its text.  A path that leads to no file is skipped
(`scanFile_of_no_file`).  So the scan of all source files below a root comes to what the contents of
the files come to one by one, in the order of their places, however many workers there are and in
whatever order they are done (`scans_contents`).

A file may be found and yet not be scanned, however small its text is: it may be closed to be read,
and the root with its place behind it can be too long for a path (`sourceSteps_skips_script`).
-/

namespace BackendAudit

open Files (Tree Node Place Path Name Attributes)

/-! ## Contents -/

/-- What comes of a content under a name, if there is a limit on its size, and if it may be read or
not. -/
structure ScannedAs (registry : Registry) (limit : Nat) (target : String) (bytes : List UInt8)
    (readable : Bool) (o : Outcome) : Prop where
  skipped_iff : (∃ reason, o = .skipped target reason) ↔
    limit < bytes.length ∨ readable = false ∨ ¬ Text.Utf8.IsText bytes
  /-- The size is looked at first. -/
  large : limit < bytes.length → o = .skipped target (ScanFault.tooLarge bytes.length limit).message
  unreadable : bytes.length ≤ limit → readable = false →
    o = .skipped target (ScanFault.unreadable .denied).message
  broken : bytes.length ≤ limit → readable = true → ∀ fault, Text.Utf8.decode bytes = .error fault →
    o = .skipped target (ScanFault.notText fault).message
  scanned : bytes.length ≤ limit → readable = true → ∀ cs, Text.Utf8.encode cs = bytes →
    o = .scanned target (registry.scan target (String.ofList cs))

section Contents

variable {t : Tree} {path : Path} {bytes : List UInt8} {size limit : Nat} {registry : Registry}

theorem scanFile_of_unread {fault : Files.Fault} (hsize : t.size path = .ok size)
    (hsmall : size ≤ limit) (hread : t.read path = .error fault) :
    scanFile t registry limit path = .skipped path.text (ScanFault.unreadable fault).message := by
  rw [scanFile, sourceContent, hsize, hread]
  simp only [if_neg (Nat.not_lt.mpr hsmall)]

theorem scanFile_of_broken {fault : Text.Utf8.Fault} (hsize : t.size path = .ok size)
    (hsmall : size ≤ limit) (hread : t.read path = .ok bytes)
    (hdecode : Text.Utf8.decode bytes = .error fault) :
    scanFile t registry limit path = .skipped path.text (ScanFault.notText fault).message := by
  rw [scanFile, sourceContent, hsize, hread]
  simp only [if_neg (Nat.not_lt.mpr hsmall), hdecode]

theorem scanFile_of_text {cs : List Char} (hsize : t.size path = .ok size) (hsmall : size ≤ limit)
    (hread : t.read path = .ok bytes) (htext : Text.Utf8.encode cs = bytes) :
    scanFile t registry limit path =
      .scanned path.text (registry.scan path.text (String.ofList cs)) := by
  rw [scanFile, sourceContent, hsize, hread]
  simp only [if_neg (Nat.not_lt.mpr hsmall), Text.Utf8.decode_eq_ok_iff.mpr htext]

/-- What comes of a file is what comes of its content. -/
theorem scannedAs_of_read {readable : Bool} (hsize : t.size path = .ok bytes.length)
    (hread : t.read path = if readable then .ok bytes else .error .denied) (registry : Registry)
    (limit : Nat) :
    ScannedAs registry limit path.text bytes readable (scanFile t registry limit path) := by
  constructor
  case skipped_iff =>
    by_cases hlarge : limit < bytes.length
    · exact iff_of_true ⟨_, scanFile_of_large hsize hlarge⟩ (.inl hlarge)
    have hsmall : bytes.length ≤ limit := Nat.not_lt.mp hlarge
    cases readable with
    | false => exact iff_of_true ⟨_, scanFile_of_unread hsize hsmall hread⟩ (.inr (.inl rfl))
    | true =>
      cases hdecode : Text.Utf8.decode bytes with
      | error fault =>
        have hbroken : ¬ Text.Utf8.IsText bytes := by
          rintro ⟨cs, rfl⟩
          rw [Text.Utf8.decode_encode] at hdecode
          cases hdecode
        exact iff_of_true ⟨_, scanFile_of_broken hsize hsmall hread hdecode⟩ (.inr (.inr hbroken))
      | ok cs =>
        have htext : Text.Utf8.encode cs = bytes := Text.Utf8.decode_eq_ok_iff.mp hdecode
        refine iff_of_false ?_ ?_
        · rintro ⟨reason, hskipped⟩
          rw [scanFile_of_text hsize hsmall hread htext] at hskipped
          cases hskipped
        · rintro (hlarge' | hclosed | hbroken)
          · exact hlarge hlarge'
          · cases hclosed
          · exact hbroken ⟨cs, htext⟩
  case large => exact scanFile_of_large hsize
  case unreadable =>
    rintro hsmall rfl
    exact scanFile_of_unread hsize hsmall hread
  case broken =>
    rintro hsmall rfl fault hdecode
    exact scanFile_of_broken hsize hsmall hread hdecode
  case scanned =>
    rintro hsmall rfl cs htext
    exact scanFile_of_text hsize hsmall hread htext

/-- So it is for a path that leads to a regular file. -/
theorem scannedAs_scanFile {a : Attributes} (h : t.find true path = .ok (.file bytes a))
    (registry : Registry) (limit : Nat) :
    ScannedAs registry limit path.text bytes a.readable (scanFile t registry limit path) := by
  refine scannedAs_of_read ?_ ?_ registry limit
  · rw [Files.Tree.size, h]
    rfl
  · rw [Files.Tree.read, h]
    exact Node.read_file bytes a

/-- A path that leads nowhere, or to a directory, is skipped. -/
theorem scanFile_of_no_file (h : ∀ n, t.find true path = .ok n → n.isDirectory = true)
    (registry : Registry) (limit : Nat) :
    ∃ reason, scanFile t registry limit path = .skipped path.text reason := by
  cases hfind : t.find true path with
  | error fault =>
    have hsize : t.size path = .error fault := by
      rw [Files.Tree.size, hfind]
      rfl
    exact ⟨_, scanFile_of_no_size hsize⟩
  | ok n =>
    obtain ⟨entries, a, rfl⟩ := Node.isDirectory_iff.mp (h n hfind)
    have hsize : t.size path = .ok a.directorySize := by
      rw [Files.Tree.size, hfind]
      rfl
    have hread : t.read path = .error (if a.readable then .isDirectory else .denied) := by
      rw [Files.Tree.read, hfind]
      exact Node.read_directory entries a
    by_cases hlarge : limit < a.directorySize
    · exact ⟨_, scanFile_of_large hsize hlarge⟩
    · exact ⟨_, scanFile_of_unread hsize (Nat.not_lt.mp hlarge) hread⟩

end Contents

/-! ## Files below a directory -/

/-- What comes of a file below a root: of its content, if the path leads to it. -/
structure FoundFile.ScansTo (root : Path) (registry : Registry) (limit : Nat) (f : FoundFile)
    (o : Outcome) : Prop where
  unreached : ∀ fault, f.unreached? = some fault →
    o = .skipped (f.target root) (ScanFault.unreadable fault).message
  content : f.unreached? = none →
    ScannedAs registry limit (f.target root) f.content f.readable o

theorem FoundFile.scansTo_scanFile {t : Tree} {c : ScanConfig} {root : Path}
    {entries : List (Name × Node)} {a : Attributes} (ht : t.WellFormed)
    (hroot : t.find true root = .ok (.directory entries a)) {f : FoundFile}
    (hf : c.Scans root (.directory entries a) f) (registry : Registry) (limit : Nat) :
    f.ScansTo root registry limit (scanFile t registry limit (f.path root)) := by
  have hsize := size_eq ht hroot hf
  have hread := read_eq ht hroot hf
  constructor
  case unreached =>
    intro fault hfault
    rw [hfault] at hsize
    exact scanFile_of_no_size hsize
  case content =>
    intro hreached
    rw [hreached] at hsize
    refine scannedAs_of_read hsize ?_ registry limit
    rw [hread, fault?, hreached]
    cases f.readable <;> rfl

/-! ## The scan of all source files -/

/-- The scan of all source files below a directory: what comes of each of the files, in the order
of their places, for every number of workers.  Workers come to the same in whatever order they are
done, and come to an end. -/
structure TreeScan (t : Tree) (c : ScanConfig) (registry : Registry) (root : Path) (dir : Node)
    (files : List FoundFile) (outcomes : List Outcome) : Prop where
  mem_iff : ∀ f, f ∈ files ↔ c.Scans root dir f
  ordered : files.Pairwise fun f f' => f.place < f'.place
  result_eq : ∀ workers, (sourceSteps t { c with workers } registry root).result = .ok outcomes
  scansTo : List.Forall₂ (FoundFile.ScansTo root registry c.maxFileBytes) files outcomes
  idle : ∀ workers n bench, Bench.Reaches workers (scanFile t registry c.maxFileBytes)
    (files.map (FoundFile.path root)) n bench → bench.Idle → bench.slots = outcomes.map some
  not_idle : ∀ workers n bench, 1 ≤ workers → Bench.Reaches workers
    (scanFile t registry c.maxFileBytes) (files.map (FoundFile.path root)) n bench →
    ¬ bench.Idle → n < 2 * files.length ∧ ∃ next, Bench.Step workers
      (scanFile t registry c.maxFileBytes) (files.map (FoundFile.path root)) bench next

theorem treeScan_foundFiles {t : Tree} {root : Path} {entries : List (Name × Node)}
    {a : Attributes} (ht : t.WellFormed) (hroot : t.find true root = .ok (.directory entries a))
    (hlist : a.readable = true) (c : ScanConfig) (registry : Registry) :
    TreeScan t c registry root (.directory entries a)
      (foundFiles c root c.isSource (.directory entries a))
      ((foundFiles c root c.isSource (.directory entries a)).map fun f =>
        scanFile t registry c.maxFileBytes (f.path root)) := by
  have hmem {f : FoundFile} := mem_foundFiles (isSource_phasePick c) ht hroot (f := f)
  constructor
  case mem_iff => exact fun f => hmem
  case ordered => exact foundFiles_pairwise ht hroot c.isSource
  case result_eq =>
    intro workers
    have hwalked : walked (sourceFiles t { c with workers } root) =
        (foundFiles c root c.isSource (.directory entries a)).map (FoundFile.path root) :=
      walked_eq_foundFiles (isSource_phasePick { c with workers }) ht hroot
    rw [sourceSteps, checkRoot_eq_ok.mpr ⟨_, _, hroot, hlist⟩, Course.check_ok_bind,
      scanSources_eq_map, hwalked]
    exact congrArg Except.ok List.map_map
  case scansTo =>
    rw [List.forall₂_map_right_iff, List.forall₂_same]
    exact fun f hf => FoundFile.scansTo_scanFile ht hroot (hmem.mp hf) registry _
  case idle =>
    intro workers n bench hreaches hidle
    rw [hreaches.slots_eq hidle, List.map_map, List.map_map]
    rfl
  case not_idle =>
    intro workers n bench hworkers hreaches hidle
    refine ⟨?_, hreaches.exists_step hworkers hidle⟩
    have hsteps := hreaches.steps_eq
    rw [List.length_map] at hsteps
    by_contra hover
    have hwaiting : bench.waiting.length = 0 := by omega
    have hbusy : bench.busy.length = 0 := by omega
    exact hidle ⟨List.eq_nil_of_length_eq_zero hwaiting, List.eq_nil_of_length_eq_zero hbusy⟩

/-- Every path that leads to a regular file is scanned as the content of the file, and one that
leads nowhere or to a directory is skipped.  The scan of all source files fails if its root does;
below a directory that can be listed it comes to what the contents of the source files come to, with
those skipped whose paths cannot be followed. -/
theorem scans_contents {t : Tree} (ht : t.WellFormed) (registry : Registry) :
    (∀ limit path bytes a, t.find true path = .ok (.file bytes a) →
        ScannedAs registry limit path.text bytes a.readable (scanFile t registry limit path)) ∧
      (∀ limit path, (∀ n, t.find true path = .ok n → n.isDirectory = true) →
        ∃ reason, scanFile t registry limit path = .skipped path.text reason) ∧
      (∀ c root e, checkRoot t root = .error e →
        (sourceSteps t c registry root).result = .error e) ∧
      ∀ c root entries a, t.find true root = .ok (.directory entries a) → a.readable = true →
        ∃ files outcomes, TreeScan t c registry root (.directory entries a) files outcomes ∧
          ∀ f ∈ files, f.unreached? = none ↔
            root.Admits f.place ∧ (Node.directory entries a).Permits f.place := by
  refine ⟨fun limit path bytes a h => scannedAs_scanFile h registry limit,
    fun limit path h => scanFile_of_no_file h registry limit, ?failing, ?scanning⟩
  case failing =>
    intro c root e hroot
    rw [sourceSteps, hroot]
    rfl
  case scanning =>
    intro c root entries a hroot hlist
    have hscan := treeScan_foundFiles ht hroot hlist c registry
    have hdir : (Node.directory entries a).WellFormed := Files.Tree.wellFormed_of_find ht hroot
    refine ⟨_, _, hscan, fun f hf => ?_⟩
    have hfinds := (hscan.mem_iff f).mp hf
    obtain ⟨b, hat, -⟩ := hfinds.file
    rw [hfinds.access]
    exact Path.faultAt?_eq_none_iff hroot (hdir.at? hat).2 hat

/-- A directory with the script `a.js`, which is the letter `a`. -/
def scriptEntries : List (Name × Node) := [(Name.ofString "a.js", .file [0x61])]

/-- The script, by a path that leads to it or fails. -/
def scriptFile (unreached? : Option Files.Fault) : FoundFile :=
  ⟨[Name.ofString "a.js"], [0x61], true, unreached?⟩

theorem scans_scriptFile {root : Path} {unreached? : Option Files.Fault}
    (h : root.faultAt? (.directory scriptEntries) [Name.ofString "a.js"] = unreached?) :
    ScanConfig.Scans {} root (.directory scriptEntries) (scriptFile unreached?) :=
  ⟨⟨{}, by rfl, rfl⟩, h.symm, .nil rfl, Name.ofString "a.js", rfl, by decide⟩

theorem scriptEntries_wellFormed : (Node.directory scriptEntries).WellFormed := by
  have hfile : (Node.file [0x61]).WellFormed := by simp [Node.WellFormed]
  exact Node.wellFormed_single (by decide) hfile

/-- In the directory `/tmp` itself the script is scanned. -/
theorem scans_contents_script :
    let t : Tree := .directory [(Name.ofString "tmp", .directory scriptEntries)]
    let root : Path := .ofString "/tmp"
    t.WellFormed ∧ t.find true root = .ok (.directory scriptEntries) ∧
      ∀ registry, ∃ files outcomes,
        TreeScan t {} registry root (.directory scriptEntries) files outcomes ∧
          scriptFile none ∈ files := by
  intro t root
  have hwell : t.WellFormed := Files.Tree.wellFormed_directory
    (Node.wellFormed_single (by decide) scriptEntries_wellFormed)
  have hroot : t.find true root = .ok (.directory scriptEntries) := by rfl
  refine ⟨hwell, hroot, fun registry => ?_⟩
  obtain ⟨-, -, -, hscan⟩ := scans_contents hwell registry
  obtain ⟨files, outcomes, hfiles, -⟩ := hscan {} root scriptEntries {} hroot rfl
  exact ⟨files, outcomes, hfiles, (hfiles.mem_iff _).mpr (scans_scriptFile (by decide))⟩

/-- A small script that is a text is found and skipped if the path to it is too long, and if it may
not be read. -/
theorem sourceSteps_skips_script :
    (let t : Tree := .directory [([0x64], .directory scriptEntries)]
     t.WellFormed ∧
       t.find true (slashedRoot 4091) = .ok (.directory scriptEntries) ∧
       ScanConfig.Scans {} (slashedRoot 4091) (.directory scriptEntries)
         (scriptFile (some .nameTooLong)) ∧
       ∃ outcomes, (sourceSteps t {} .builtin (slashedRoot 4091)).result = .ok outcomes ∧
         .skipped ((scriptFile (some .nameTooLong)).target (slashedRoot 4091))
           "File name too long (os error 36)" ∈ outcomes) ∧
      (let t : Tree := .directory [([0x61], .file [0x61] { readable := false })]
       t.WellFormed ∧ t.find true ⟨[0x61]⟩ = .ok (.file [0x61] { readable := false }) ∧
         scanFile t .builtin ({} : ScanConfig).maxFileBytes ⟨[0x61]⟩ =
           .skipped "a" "Permission denied (os error 13)") ∧
      [(0x61 : UInt8)].length ≤ ({} : ScanConfig).maxFileBytes ∧
      Text.Utf8.IsText [0x61] := by
  refine ⟨?long, ?closed, by decide, ['a'], by rfl⟩
  case long =>
    intro t
    have hwell : t.WellFormed := Files.Tree.wellFormed_directory
      (Node.wellFormed_single (by decide) scriptEntries_wellFormed)
    have hroot : t.find true (slashedRoot 4091) = .ok (.directory scriptEntries) :=
      find_slashedRoot scriptEntries (by decide)
    have hscan := treeScan_foundFiles hwell hroot rfl {} .builtin
    have hscript : ScanConfig.Scans {} (slashedRoot 4091) (.directory scriptEntries)
        (scriptFile (some .nameTooLong)) :=
      scans_scriptFile (faultAt?_slashedRoot (by decide) (by decide) (by decide) _)
    refine ⟨hwell, hroot, hscript, _, hscan.result_eq none, ?_⟩
    refine List.mem_map.mpr ⟨_, (hscan.mem_iff _).mpr hscript, ?_⟩
    exact (FoundFile.scansTo_scanFile hwell hroot hscript .builtin _).unreached _ rfl
  case closed =>
    intro t
    have hfile : (Node.file [0x61] { readable := false }).WellFormed := by simp [Node.WellFormed]
    have hfind : t.find true ⟨[0x61]⟩ = .ok (.file [0x61] { readable := false }) := by rfl
    refine ⟨Files.Tree.wellFormed_directory (Node.wellFormed_single (by decide) hfile), hfind, ?_⟩
    have houtcome := (scannedAs_scanFile hfind .builtin ({} : ScanConfig).maxFileBytes).unreadable
      (by decide) rfl
    have htext : (⟨[0x61]⟩ : Path).text = "a" := by decide
    rw [htext] at houtcome
    exact houtcome

end BackendAudit
