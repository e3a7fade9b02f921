import BackendAudit.Proofs.Run.Walks
import BackendAudit.Proofs.Run.Workers
import BackendAudit.Run.Basic

/-!
# What a run visits

All walks of a run tell the same, the directories that cannot be listed.  But for that, all
that a run tells and reports follows from the files that it visits: their paths and what came
of each (`run_eq_ofVisits`).  Two runs can then be compared visit by visit.

What comes of a file depends on the size and the bytes that are found by its path, and on nothing
else of the tree (`scanFile_congr`, `auditManifest_congr`, `auditEnvFile_congr`).
-/

namespace BackendAudit

open Files (Tree Path Node Name Attributes)

/-! ## What comes of a file -/

section Files

variable {w : Wording} {t t' : Tree} {path : Path}

theorem scanFile_congr (hsize : t.size path = t'.size path) (hread : t.read path = t'.read path)
    (registry : Registry) (maxFileBytes : Nat) :
    scanFile t registry maxFileBytes path = scanFile t' registry maxFileBytes path := by
  rw [scanFile, scanFile, sourceContent, sourceContent, hsize, hread]

theorem auditManifest_congr (h : t.read path = t'.read path) :
    auditManifest w t path = auditManifest w t' path := by
  rw [auditManifest, auditManifest, Files.Tree.readText, Files.Tree.readText, h]

theorem auditEnvFile_congr (h : t.read path = t'.read path) :
    auditEnvFile t path = auditEnvFile t' path := by
  rw [auditEnvFile, auditEnvFile, Files.Tree.readText, Files.Tree.readText, h]

@[simp]
theorem target_scanFile (t : Tree) (registry : Registry) (maxFileBytes : Nat) (path : Path) :
    (scanFile t registry maxFileBytes path).target = path.text := by
  rw [scanFile]
  split <;> rfl

@[simp]
theorem target_auditManifest (t : Tree) (path : Path) :
    (auditManifest w t path).target = path.text := by
  rw [auditManifest]
  split
  · rfl
  · split <;> rfl

@[simp]
theorem target_auditEnvFile (t : Tree) (path : Path) :
    (auditEnvFile t path).target = path.text := by
  rw [auditEnvFile]
  split <;> rfl

end Files

/-! ## Visits -/

/-- A file that was visited, by its path, and what came of it. -/
structure Visit where
  path : Path
  outcome : Outcome

namespace Visit

/-- Visits as a phase tells of them behind what its walks tell: their number, and then each of
them. -/
def announce (phase : Phase) (told : List Event) (visits : List Visit) : Traced (List Outcome) :=
  { events := told ++ .targetsDiscovered phase visits.length ::
      visits.map fun v => v.outcome.event
    result := visits.map Visit.outcome }

end Visit

/-- The visits of source files below a root. -/
def sourceVisits (t : Tree) (c : ScanConfig) (registry : Registry) (root : Path) : List Visit :=
  (walked (sourceFiles t c root)).map fun path =>
    ⟨path, scanFile t registry c.maxFileBytes path⟩

/-- The visits of manifests, and then of environment files, below a root. -/
def settingsVisits (w : Wording) (t : Tree) (c : ScanConfig) (root : Path) : List Visit :=
  (walked (filesMatching t c root Manifest.isManifest)).map
      (fun path => ⟨path, auditManifest w t path⟩) ++
    (walked (filesMatching t c root Env.isEnvFile)).map fun path => ⟨path, auditEnvFile t path⟩

/-- The phases over files with these visits, if each of the three walks tells so much. -/
def filePhasesOfVisits (told : List Event) (sources settings : List Visit) : List PhaseRun :=
  [.ofOutcomes .staticAnalysis (Visit.announce .staticAnalysis told sources),
    .ofOutcomes .configValidation (Visit.announce .configValidation (told ++ told) settings)]

/-- The phases of a run with these visits. -/
def phasesOfVisits (told : List Event) (sources settings : List Visit) (probe : Option Probe) :
    List PhaseRun :=
  filePhasesOfVisits told sources settings ++ [.ofProbe probe]

/-- A run with these visits. -/
def runOfVisits (root : Path) (title : String) (told : List Event) (sources settings : List Visit)
    (probe : Option Probe) : Traced (Except AuditError RunReport) :=
  let phases := phasesOfVisits told sources settings probe
  ⟨phases.flatMap PhaseRun.allEvents, .ok (reportOf root title phases)⟩

/-! ## Runs -/

section Runs

variable {w : Wording} {t : Tree} {root : Path}

/-- A run can begin where its root leads to a directory that can be listed. -/
theorem checkRoot_eq_ok :
    checkRoot t root = .ok () ↔
      ∃ entries a, t.find true root = .ok (.directory entries a) ∧ a.readable = true := by
  rw [checkRoot, Files.Tree.listFault?]
  cases hfind : t.find true root with
  | error fault => simp
  | ok n =>
    cases n with
    | directory entries a =>
      cases hreadable : a.readable <;> simp [Node.isDirectory, Node.listFault?, hreadable]
    | file content a => simp [Node.isDirectory]
    | link target => simp [Node.isDirectory]
    | special content a => simp [Node.isDirectory]

/-- What is checked before a run depends on the tree by its root only. -/
theorem prepare_congr {t' : Tree} (h : checkRoot t root = checkRoot t' root) (c : Config) :
    prepare t root c = prepare t' root c := by
  rw [prepare, prepare, h]

/-- A run that may begin got past the checks of its settings and of its root. -/
theorem checks_of_prepare {c : Config} {registry : Registry}
    (h : prepare t root c = .ok registry) :
    (∃ c', c.check = .ok c') ∧ checkRoot t root = .ok () := by
  rw [prepare] at h
  cases hcheck : c.check with
  | error e =>
    rw [hcheck] at h
    cases h
  | ok c' =>
    rw [hcheck] at h
    cases hroot : checkRoot t root with
    | error e =>
      rw [hroot] at h
      cases h
    | ok u => exact ⟨⟨c', rfl⟩, rfl⟩

/-- A run that gets past its checks has a directory for its root, and can list it. -/
theorem exists_directory_of_prepare {c : Config} {registry : Registry}
    (h : prepare t root c = .ok registry) :
    ∃ entries a, t.find true root = .ok (.directory entries a) ∧ a.readable = true :=
  checkRoot_eq_ok.mp (checks_of_prepare h).2

/-- A run that does not get past its checks tells nothing. -/
theorem run_eq_error {c : Config} {e : AuditError} (h : prepare t root c = .error e)
    (probe : Option Probe) : run w t root c probe = ⟨[], .error e⟩ := by
  rw [run, h]

/-- The phases over files are given by what the walks tell and by the visits. -/
theorem filePhases_eq_ofVisits (c : Config) (registry : Registry) :
    filePhases w t root c registry =
      filePhasesOfVisits (walkEvents root (t.survey c.scan.excludes root))
        (sourceVisits t c.scan registry root) (settingsVisits w t c.scan root) := by
  have hsources : scanSources t c.scan registry root =
      Visit.announce .staticAnalysis (walkEvents root (t.survey c.scan.excludes root))
        (sourceVisits t c.scan registry root) := by
    simp [scanSources_eq_map, Visit.announce, sourceVisits, sourceFiles, walkEvents_filesMatching,
      Function.comp_def]
  have hsettings : auditSettings w t c.scan root =
      Visit.announce .configValidation
        (walkEvents root (t.survey c.scan.excludes root) ++
          walkEvents root (t.survey c.scan.excludes root))
        (settingsVisits w t c.scan root) := by
    simp [auditSettings, Visit.announce, settingsVisits, walkEvents_filesMatching,
      Function.comp_def]
  rw [filePhases, filePhasesOfVisits, hsources, hsettings]

/-- A run that gets past its checks is given by what its walks tell, its visits and its probe. -/
theorem run_eq_ofVisits {c : Config} {registry : Registry}
    (h : prepare t root c = .ok registry) (probe : Option Probe) :
    run w t root c probe = runOfVisits root c.output.title
      (walkEvents root (t.survey c.scan.excludes root))
      (sourceVisits t c.scan registry root) (settingsVisits w t c.scan root) probe := by
  simp only [run, h, runOfVisits, phases, phasesOfVisits, filePhases_eq_ofVisits]

end Runs
end BackendAudit
