import BackendAudit.Proofs.Run.Found
import BackendAudit.Proofs.Run.Skips

/-!
# The size limit of a run

A source file above the limit is skipped and adds nothing to the report, and one up to the limit
is scanned as if there were none.  No other file is looked at for its size: the settings files are
checked under every limit alike, so that a larger one can have findings (`run_limits_sources`,
`run_scans_large_envFile`).
-/

namespace BackendAudit

open Files (Tree Node Place Path Name Attributes)

/-! ## Limits -/

/-- A configuration with another limit. -/
def ScanConfig.withLimit (c : ScanConfig) (limit : Nat) : ScanConfig :=
  { c with maxFileBytes := limit }

def Config.withLimit (c : Config) (limit : Nat) : Config :=
  { c with scan := c.scan.withLimit limit }

section Limits

variable {w : Wording} {t : Tree} {root : Path}

/-- The settings files are checked under every limit alike. -/
theorem settingsVisits_withLimit (c : ScanConfig) (limit : Nat) :
    settingsVisits w t (c.withLimit limit) root = settingsVisits w t c root := rfl

theorem excludes_withLimit (c : ScanConfig) (limit : Nat) :
    (c.withLimit limit).excludes = c.excludes := rfl

/-- A limit keeps no run from its start. -/
theorem prepare_withLimit (c : Config) (limit : Nat) :
    prepare t root (c.withLimit limit) = prepare t root c := by
  have hfault : (c.withLimit limit).fault? = c.fault? := rfl
  rw [prepare, prepare, Config.check, Config.check, hfault]
  cases c.fault? <;> rfl

end Limits

/-! ## Source files -/

section Files

variable {t : Tree} {registry : Registry} {path : Path} {size limit : Nat}

theorem scanFile_of_large (hsize : t.size path = .ok size) (hlarge : limit < size) :
    scanFile t registry limit path =
      .skipped path.text (ScanFault.tooLarge size limit).message := by
  rw [scanFile, sourceContent, hsize]
  simp only [if_pos hlarge]

theorem scanFile_of_no_size {fault : Files.Fault} (hsize : t.size path = .error fault) :
    scanFile t registry limit path = .skipped path.text (ScanFault.unreadable fault).message := by
  rw [scanFile, sourceContent, hsize]

/-- Up to the limit it makes no difference what the limit is. -/
theorem scanFile_of_small {limit' : Nat} (hsize : t.size path = .ok size)
    (hsmall : size ≤ limit) (hsmall' : size ≤ limit') :
    scanFile t registry limit path = scanFile t registry limit' path := by
  rw [scanFile, scanFile, sourceContent, sourceContent, hsize]
  simp only [if_neg (Nat.not_lt.mpr hsmall), if_neg (Nat.not_lt.mpr hsmall')]

end Files

/-- Why a file is skipped that is larger than a limit: it may be that not even its size can be
told. -/
def FoundFile.limitFault (limit : Nat) (f : FoundFile) : ScanFault :=
  match f.unreached? with
  | some fault => .unreadable fault
  | none => .tooLarge f.content.length limit

/-- A source file is found below a directory. -/
def ScanConfig.Scans (c : ScanConfig) (root : Path) (dir : Node) (f : FoundFile) : Prop :=
  c.Finds root dir (fun name => c.isSource ⟨name⟩ = true) f

section Sources

variable {t : Tree} {root : Path} {entries : List (Name × Node)} {a : Attributes} {c : ScanConfig}

/-- The visits of a run are those of its source files. -/
theorem mem_sourceVisits (ht : t.WellFormed)
    (hroot : t.find true root = .ok (.directory entries a)) (registry : Registry) {v : Visit} :
    v ∈ sourceVisits t c registry root ↔
      ∃ f, c.Scans root (.directory entries a) f ∧
        v = ⟨f.path root, scanFile t registry c.maxFileBytes (f.path root)⟩ := by
  rw [sourceVisits, sourceFiles, walked_eq_foundFiles (isSource_phasePick c) ht hroot,
    List.map_map, List.mem_map]
  simp only [mem_foundFiles (isSource_phasePick c) ht hroot]
  exact exists_congr fun f => and_congr_right fun _ => eq_comm

theorem scanFile_of_limit_lt (ht : t.WellFormed)
    (hroot : t.find true root = .ok (.directory entries a)) (registry : Registry) {f : FoundFile}
    (hf : c.Scans root (.directory entries a) f) {limit : Nat}
    (hlarge : limit < f.content.length) :
    scanFile t registry limit (f.path root) =
      .skipped (f.path root).text (f.limitFault limit).message := by
  have hsize := FoundFile.size_eq ht hroot hf
  rw [FoundFile.limitFault]
  cases hunreached : f.unreached? with
  | some fault =>
    rw [hunreached] at hsize
    exact scanFile_of_no_size hsize
  | none =>
    rw [hunreached] at hsize
    exact scanFile_of_large hsize hlarge

theorem scanFile_of_le_limit (ht : t.WellFormed)
    (hroot : t.find true root = .ok (.directory entries a)) (registry : Registry) {f : FoundFile}
    (hf : c.Scans root (.directory entries a) f) {limit limit' : Nat}
    (hsmall : f.content.length ≤ limit) (hsmall' : f.content.length ≤ limit') :
    scanFile t registry limit (f.path root) = scanFile t registry limit' (f.path root) := by
  have hsize := FoundFile.size_eq ht hroot hf
  cases hunreached : f.unreached? with
  | some fault =>
    rw [hunreached] at hsize
    rw [scanFile_of_no_size hsize, scanFile_of_no_size hsize]
  | none =>
    rw [hunreached] at hsize
    exact scanFile_of_small hsize hsmall hsmall'

end Sources

/-! ## Runs -/

/-- The report of a run lists the source files that are skipped. -/
theorem mem_skipped_of_source {root : Path} {title : String} {told : List Event}
    {sources settings : List Visit} {probe : Option Probe} {v : Visit} {target reason : String}
    (hv : v ∈ sources) (hskipped : v.outcome = .skipped target reason) :
    ⟨target, reason⟩ ∈
      (reportOf root title (phasesOfVisits told sources settings probe)).skipped := by
  refine List.mem_flatMap.mpr ⟨_, List.mem_cons_self, ?_⟩
  refine List.mem_filterMap.mpr ⟨v.outcome, List.mem_map_of_mem hv, ?_⟩
  rw [hskipped]
  rfl

/-- A run that keeps to its limit among the source files, and has none for the settings files. -/
structure LimitsSources (w : Wording) (t : Tree) (root : Path) (c : Config) (probe : Option Probe)
    (report : RunReport) (dir : Node) (registry : Registry) : Prop where
  report_eq : report = reportOf root c.output.title
    (phasesOfVisits (walkEvents root (t.survey c.scan.excludes root))
      (sourceVisits t c.scan registry root) (settingsVisits w t c.scan root) probe)
  visits : ∀ v, v ∈ sourceVisits t c.scan registry root ↔
    ∃ f, c.scan.Scans root dir f ∧
      v = ⟨f.path root, scanFile t registry c.scan.maxFileBytes (f.path root)⟩
  large : ∀ f, c.scan.Scans root dir f → c.scan.maxFileBytes < f.content.length →
    scanFile t registry c.scan.maxFileBytes (f.path root) =
        .skipped (f.path root).text (f.limitFault c.scan.maxFileBytes).message ∧
      ⟨(f.path root).text, (f.limitFault c.scan.maxFileBytes).message⟩ ∈ report.skipped
  group : report.results.group? Phase.staticAnalysis.name =
    some (findingsOf ((sourceVisits t c.scan registry root).map Visit.outcome))
  found : ∀ x ∈ findingsOf ((sourceVisits t c.scan registry root).map Visit.outcome),
    ∃ f, c.scan.Scans root dir f ∧ f.content.length ≤ c.scan.maxFileBytes ∧
      x ∈ (scanFile t registry c.scan.maxFileBytes (f.path root)).findings
  small : ∀ f, c.scan.Scans root dir f → f.content.length ≤ c.scan.maxFileBytes →
    ∀ limit, f.content.length ≤ limit →
      scanFile t registry c.scan.maxFileBytes (f.path root) =
        scanFile t registry limit (f.path root)
  settings : ∀ limit, (run w t root (c.withLimit limit) probe).result =
    .ok (reportOf root c.output.title
      (phasesOfVisits (walkEvents root (t.survey c.scan.excludes root))
        (sourceVisits t (c.scan.withLimit limit) registry root)
        (settingsVisits w t c.scan root) probe))

/-- In a run that succeeds, every source file above the limit is skipped and has no findings, and
one up to the limit comes to the same as under any other limit that it keeps to.  What comes of the
settings files does not depend on the limit. -/
theorem run_limits_sources {w : Wording} {t : Tree} {root : Path} {c : Config}
    {probe : Option Probe} {report : RunReport} (ht : t.WellFormed)
    (hrun : (run w t root c probe).result = .ok report) :
    ∃ entries a registry, t.find true root = .ok (.directory entries a) ∧
      prepare t root c = .ok registry ∧
        LimitsSources w t root c probe report (.directory entries a) registry := by
  cases hready : prepare t root c with
  | error e =>
    rw [run_eq_error hready] at hrun
    cases hrun
  | ok registry =>
    obtain ⟨entries, a, hroot, -⟩ := exists_directory_of_prepare hready
    rw [run_eq_ofVisits hready] at hrun
    cases hrun
    refine ⟨entries, a, registry, hroot, rfl, ?_⟩
    constructor
    case report_eq => rfl
    case visits => exact fun v => mem_sourceVisits ht hroot registry
    case large =>
      intro f hf hlarge
      have hskipped := scanFile_of_limit_lt ht hroot registry hf hlarge
      have hvisit := (mem_sourceVisits ht hroot registry).mpr ⟨f, hf, rfl⟩
      exact ⟨hskipped, mem_skipped_of_source hvisit hskipped⟩
    case group => rfl
    case found =>
      intro x hx
      obtain ⟨outcome, houtcome, hx⟩ := List.mem_flatMap.mp hx
      obtain ⟨v, hv, rfl⟩ := List.mem_map.mp houtcome
      obtain ⟨f, hf, rfl⟩ := (mem_sourceVisits ht hroot registry).mp hv
      refine ⟨f, hf, ?_, hx⟩
      by_contra hlarge
      rw [scanFile_of_limit_lt ht hroot registry hf (Nat.lt_of_not_le hlarge)] at hx
      cases hx
    case small =>
      exact fun f hf hsmall limit => scanFile_of_le_limit ht hroot registry hf hsmall
    case settings =>
      intro limit
      rw [run_eq_ofVisits ((prepare_withLimit c limit).trans hready)]
      simp only [Config.withLimit, settingsVisits_withLimit, excludes_withLimit, runOfVisits]

/-- A directory with the source file `a.js` of two bytes and an environment file of ten. -/
def crampedEntries : List (Name × Node) :=
  [([0x61, 0x2e, 0x6a, 0x73], .file [0x61, 0x61]),
    (Name.ofString ".env", .file (Name.ofString "PASSWORD=a"))]

/-- The source file is above a limit of one byte. -/
theorem run_limits_sources_cramped :
    let t : Tree := .directory crampedEntries
    let root : Path := ⟨Name.here⟩
    let c : Config := { scan := { maxFileBytes := 1 } }
    t.WellFormed ∧ ∃ report, (run .silent t root c none).result = .ok report ∧
      (∃ entries a registry, t.find true root = .ok (.directory entries a) ∧
        prepare t root c = .ok registry ∧
          LimitsSources .silent t root c none report (.directory entries a) registry) := by
  intro t root c
  have hwell : t.WellFormed := by
    have hsource : Name.Valid [0x61, 0x2e, 0x6a, 0x73] := by decide
    have henv : (Name.ofString ".env").Valid := by decide
    have hne : [0x61, 0x2e, 0x6a, 0x73] ≠ Name.ofString ".env" := by decide
    refine Files.Tree.wellFormed_directory ?_
    simp [crampedEntries, Node.wellFormed_directory, Node.WellFormed, hsource, henv, hne]
  have hrun : (run .silent t root c none).result =
      .ok (reportOf root "BACKEND BUG DETECTION REPORT" (phases .silent t root c .builtin none)) :=
    rfl
  exact ⟨hwell, _, hrun, run_limits_sources hwell hrun⟩

/-- A directory with the environment file only. -/
def envTree : Tree := .directory [(Name.ofString ".env", .file (Name.ofString "PASSWORD=a"))]

/-- The path of the file. -/
def envPath : Path := ⟨[0x2e, 0x2f, 0x2e, 0x65, 0x6e, 0x76]⟩

theorem auditEnvFile_envTree :
    auditEnvFile envTree envPath =
      .scanned "./.env" [Env.finding "./.env" 1 ⟨"PASSWORD", "password", 21⟩] := by
  have hread : envTree.readText envPath = .ok "PASSWORD=a".toList := by rfl
  have htext : envPath.text = "./.env" := by decide
  have hcheck : Env.check "./.env" "PASSWORD=a" =
      [Env.finding "./.env" 1 ⟨"PASSWORD", "password", 21⟩] := by decide +kernel
  rw [auditEnvFile, hread, htext]
  simp only [String.ofList_toList, hcheck]

/-- The environment file is above the limit of one byte, and has a finding. -/
theorem run_scans_large_envFile :
    let root : Path := ⟨Name.here⟩
    let c : Config := { scan := { maxFileBytes := 1 } }
    envTree.read envPath = .ok (Name.ofString "PASSWORD=a") ∧
      c.scan.maxFileBytes < (Name.ofString "PASSWORD=a").length ∧
      ∃ report, (run .silent envTree root c none).result = .ok report ∧ report.skipped = [] ∧
        report.results.group? Phase.configValidation.name =
          some [Env.finding "./.env" 1 ⟨"PASSWORD", "password", 21⟩] := by
  intro root c
  have hready : prepare envTree root c = .ok .builtin := rfl
  have hsources : sourceVisits envTree c.scan .builtin root = [] := by
    have hfiles : walked (sourceFiles envTree c.scan root) = [] := by decide +kernel
    rw [sourceVisits, hfiles, List.map_nil]
  have hsettings : settingsVisits .silent envTree c.scan root = [⟨envPath, .scanned "./.env"
      [Env.finding "./.env" 1 ⟨"PASSWORD", "password", 21⟩]⟩] := by
    have hmanifests : walked (filesMatching envTree c.scan root Manifest.isManifest) = [] := by
      decide +kernel
    have henvFiles : walked (filesMatching envTree c.scan root Env.isEnvFile) = [envPath] := by
      decide +kernel
    rw [settingsVisits, hmanifests, henvFiles, List.map_nil, List.nil_append, List.map_singleton,
      auditEnvFile_envTree]
  refine ⟨by rfl, by decide, ?_⟩
  rw [run_eq_ofVisits hready, hsources, hsettings]
  exact ⟨_, rfl, rfl, rfl⟩

end BackendAudit
