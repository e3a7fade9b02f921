import BackendAudit.Proofs.Rule.Registry
import BackendAudit.Proofs.Run.Course
import BackendAudit.Proofs.Run.Isolation

/-!
# What keeps a run from beginning

A run fails if its settings are not accepted, if its root is no directory that can be listed, or
if one of its custom rules is refused, and of several obstacles the first in this order is reported
(`RunObstacle`).  A scan looks at the root first, then at its configuration and at the
addresses of a probe (`ScanObstacle`).  Nothing else makes either fail, and nothing has been
told by then.

* `prepare_eq_error_iff`, `scan_eq_error_iff`: a run or a scan fails at its first obstacle.
* `run_fails_at_obstacle`: all of it together, with the deeds of the run.
-/

namespace BackendAudit

open Files (Tree Path Node Name SameKinds)

/-! ## Obstacles -/

/-- A root below which nothing can be scanned. -/
inductive BadRoot (t : Tree) (root : Path) : RootFault → Prop
  | inaccessible {fault : Files.Fault} (h : t.find true root = .error fault) :
    BadRoot t root (.inaccessible fault)
  | notDirectory {n : Node} (h : t.find true root = .ok n) (hn : n.isDirectory = false) :
    BadRoot t root .notDirectory
  | unlisted {n : Node} {fault : Files.Fault} (h : t.find true root = .ok n)
    (hn : n.isDirectory = true) (hfault : n.listFault? = some fault) :
    BadRoot t root (.inaccessible fault)

/-- A root below which files can be looked for: a directory that can be listed. -/
def GoodRoot (t : Tree) (root : Path) : Prop :=
  ∃ entries a, t.find true root = .ok (.directory entries a) ∧ a.readable = true

/-- What keeps a run from beginning, if nothing in front of it does. -/
inductive RunObstacle (t : Tree) (root : Path) (c : Config) : AuditError → Prop
  | config {fault : ConfigFault} (h : c.fault? = some fault) : RunObstacle t root c (.config fault)
  | root {fault : RootFault} (hconfig : c.fault? = none) (h : BadRoot t root fault) :
    RunObstacle t root c (.root root fault)
  | rule {e : RuleError} (hconfig : c.fault? = none) (hroot : GoodRoot t root)
    (h : FirstRejected c.rules e) : RunObstacle t root c (.rule e)

/-- What keeps a scan from beginning, if nothing in front of it does. -/
inductive ScanObstacle (t : Tree) (root : Path) (options : Options) : AuditError → Prop
  | root {fault : RootFault} (h : BadRoot t root fault) :
    ScanObstacle t root options (.root root fault)
  | config {e : AuditError} (hroot : GoodRoot t root)
    (h : Config.load t root options = .error e) : ScanObstacle t root options e
  | address {c : Config} {fault : AddressFault} (hroot : GoodRoot t root)
    (hload : Config.load t root options = .ok c) (henabled : c.probe.enabled = true)
    (h : c.probe.addresses = .error fault) : ScanObstacle t root options (.address fault)
  | rule {c : Config} {e : RuleError} (hroot : GoodRoot t root)
    (hload : Config.load t root options = .ok c)
    (hprobe : c.probe.enabled = true → ∃ addresses, c.probe.addresses = .ok addresses)
    (h : FirstRejected c.rules e) : ScanObstacle t root options (.rule e)

/-! ## The checks, one by one -/

section Checks

variable {w : Wording} {t : Tree} {root : Path}

theorem checkRoot_eq_error_iff {e : AuditError} :
    checkRoot t root = .error e ↔ ∃ fault, BadRoot t root fault ∧ e = .root root fault := by
  rw [checkRoot, Files.Tree.listFault?]
  constructor
  · intro h
    cases hfind : t.find true root with
    | error fault =>
      simp only [hfind] at h
      cases h
      exact ⟨_, .inaccessible hfind, rfl⟩
    | ok n =>
      simp only [hfind] at h
      cases hdirectory : n.isDirectory with
      | false =>
        rw [hdirectory] at h
        cases h
        exact ⟨_, .notDirectory hfind hdirectory, rfl⟩
      | true =>
        cases hlist : n.listFault? with
        | none => simp [hdirectory, hlist] at h
        | some fault =>
          simp only [hdirectory, hlist] at h
          cases h
          exact ⟨_, .unlisted hfind hdirectory hlist, rfl⟩
  · rintro ⟨fault, hbad, rfl⟩
    cases hbad with
    | inaccessible hfind => simp only [hfind]
    | notDirectory hfind hn => simp [hfind, hn]
    | unlisted hfind hn hfault => simp [hfind, hn, hfault]

theorem Config.check_eq_ok_iff {c : Config} : c.check = .ok c ↔ c.fault? = none := by
  rw [Config.check]
  cases c.fault? <;> simp

theorem Config.check_eq_error_iff {c : Config} {e : AuditError} :
    c.check = .error e ↔ ∃ fault, c.fault? = some fault ∧ e = .config fault := by
  rw [Config.check]
  cases c.fault? with
  | none => simp
  | some fault => simp [eq_comm]

theorem registryFor_eq (rules : List CustomRule) :
    registryFor rules = Registry.withCustom rules := by
  cases rules with
  | nil => exact (Registry.extend_nil Registry.builtin).symm
  | cons d rules => rfl

/-- The configuration that a root has is accepted. -/
theorem Config.fault?_of_load {options : Options} {c : Config}
    (h : Config.load t root options = .ok c) : c.fault? = none := by
  have hread : ∀ path read, Config.read t path = .ok read → read.fault? = none := by
    intro path read hread
    rw [Config.read] at hread
    split at hread
    · cases hread
      rfl
    · split at hread
      · cases hread
      · split at hread
        · cases hread
        · obtain rfl := Config.eq_of_check hread
          exact Config.check_eq_ok_iff.mp hread
  rw [Config.load] at h
  cases hfound : Config.read t (Config.pathFor root options) with
  | error e =>
    rw [hfound] at h
    cases h
  | ok read =>
    rw [hfound] at h
    cases h
    -- whether a probe is wanted is none of the settings that are checked
    split
    · exact hread _ read hfound
    · exact hread _ read hfound

/-- A probe is refused if it is wanted and one of its addresses is none. -/
theorem ProbeConfig.probe?_eq_error_iff {network : Network} {c : ProbeConfig} {e : AuditError} :
    c.probe? network = .error e ↔
      c.enabled = true ∧ ∃ fault, c.addresses = .error fault ∧ e = .address fault := by
  rw [ProbeConfig.probe?, ProbeConfig.jobs]
  cases c.enabled with
  | false => simp
  | true => cases c.addresses <;> simp [Except.map, eq_comm]

/-- Otherwise there is one, or none is wanted. -/
theorem ProbeConfig.exists_probe?_eq_ok_iff {network : Network} {c : ProbeConfig} :
    (∃ probe, c.probe? network = .ok probe) ↔
      (c.enabled = true → ∃ addresses, c.addresses = .ok addresses) := by
  rw [ProbeConfig.probe?, ProbeConfig.jobs]
  cases c.enabled with
  | false => simp
  | true => cases c.addresses <;> simp [Except.map]

end Checks

/-! ## Runs and scans -/

section Runs

variable {w : Wording} {t : Tree} {root : Path}

/-- A run fails at its first obstacle. -/
theorem prepare_eq_error_iff {c : Config} {e : AuditError} :
    prepare t root c = .error e ↔ RunObstacle t root c e := by
  constructor
  · intro h
    cases hconfig : c.fault? with
    | some fault =>
      rw [prepare, Config.check_eq_error_iff.mpr ⟨fault, hconfig, rfl⟩] at h
      cases h
      exact .config hconfig
    | none =>
      have hcheck : c.check = .ok c := Config.check_eq_ok_iff.mpr hconfig
      cases hroot : checkRoot t root with
      | error e' =>
        rw [prepare, hcheck, hroot] at h
        cases h
        obtain ⟨fault, hbad, rfl⟩ := checkRoot_eq_error_iff.mp hroot
        exact .root hconfig hbad
      | ok u =>
        rw [prepare_of_checks hcheck hroot, registryFor_eq] at h
        cases hrules : Registry.withCustom c.rules with
        | error e' =>
          rw [hrules] at h
          cases h
          exact .rule hconfig (checkRoot_eq_ok.mp hroot) (Registry.extend_eq_error_iff.mp hrules)
        | ok registry =>
          rw [hrules] at h
          cases h
  · intro h
    cases h with
    | config h =>
      rw [prepare, Config.check_eq_error_iff.mpr ⟨_, h, rfl⟩]
      rfl
    | root hconfig h =>
      rw [prepare, Config.check_eq_ok_iff.mpr hconfig, checkRoot_eq_error_iff.mpr ⟨_, h, rfl⟩]
      rfl
    | rule hconfig hroot h =>
      rw [prepare_of_checks (Config.check_eq_ok_iff.mpr hconfig) (checkRoot_eq_ok.mpr hroot),
        registryFor_eq, Registry.withCustom, Registry.extend_eq_error_iff.mpr h]
      rfl

/-- What comes of a run is an error just when its checks are not passed. -/
theorem run_eq_error_iff {c : Config} {probe : Option Probe} {e : AuditError} :
    (run w t root c probe).result = .error e ↔ RunObstacle t root c e := by
  rw [← prepare_eq_error_iff]
  cases hready : prepare t root c with
  | error e' => simp [run_eq_error hready]
  | ok registry => simp [run_eq_ofVisits hready, runOfVisits]

/-- Behind a good root and accepted settings, only a custom rule makes a run fail. -/
theorem prepare_eq_error_iff_rejected {c : Config} (hconfig : c.fault? = none)
    (hroot : GoodRoot t root) {e : AuditError} :
    prepare t root c = .error e ↔ ∃ e', FirstRejected c.rules e' ∧ e = .rule e' := by
  rw [prepare_eq_error_iff]
  constructor
  · intro h
    cases h with
    | config h =>
      rw [hconfig] at h
      cases h
    | root _ h =>
      have hbad := checkRoot_eq_error_iff.mpr ⟨_, h, rfl⟩
      rw [checkRoot_eq_ok.mpr hroot] at hbad
      cases hbad
    | rule _ _ h => exact ⟨_, h, rfl⟩
  · rintro ⟨e', h, rfl⟩
    exact .rule hconfig hroot h

/-- Behind a configuration that is found, a scan is the run of it, whatever the root is. -/
theorem scan_eq_scanWith {network : Network} {options : Options} {c : Config}
    (hload : Config.load t root options = .ok c) :
    scan w network t root options = scanWith w network t root c := by
  rw [scan, hload]
  cases hcheck : checkRoot t root with
  | ok u => rfl
  | error e => rw [scanWith, hcheck]

/-- Behind a good root, a scan fails where it has no jobs for its probe. -/
theorem scan_of_probe_error {network : Network} {options : Options} {c : Config} {e : AuditError}
    (hroot : GoodRoot t root) (hload : Config.load t root options = .ok c)
    (hprobe : c.probe.probe? network = .error e) :
    scan w network t root options = ⟨[], .error e⟩ := by
  simp only [scan_eq_scanWith hload, scanWith, checkRoot_eq_ok.mpr hroot, hprobe]

/-- Whatever probe is called in a scan, or none, it fails where the checks before the run do. -/
theorem scan_eq_error_iff_prepare {network : Network} {options : Options} {c : Config}
    {probe : Option (Ended Probe)} {e : AuditError} (hroot : GoodRoot t root)
    (hload : Config.load t root options = .ok c) (hprobe : c.probe.probe? network = .ok probe) :
    (scan w network t root options).result = .error e ↔ prepare t root c = .error e := by
  have hreturned (probe : Option Probe) :
      (runReturned w t root c probe).result = .error e ↔ prepare t root c = .error e := by
    have hrun : (run w t root c probe).result = .error e ↔ RunObstacle t root c e :=
      run_eq_error_iff
    rw [prepare_eq_error_iff, ← hrun, runReturned]
    cases (run w t root c probe).result <;> simp [Except.map]
  rcases probe with _ | probe | _
  · simp only [scan_eq_scanWith hload, scanWith, checkRoot_eq_ok.mpr hroot, hprobe]
    exact hreturned none
  · simp only [scan_eq_scanWith hload, scanWith, checkRoot_eq_ok.mpr hroot, hprobe]
    exact hreturned (some probe)
  · simp only [scan_eq_scanWith hload, scanWith, checkRoot_eq_ok.mpr hroot, hprobe, runPanicked]
    cases prepare t root c <;> simp

/-- A scan fails at its first obstacle. -/
theorem scan_eq_error_iff {network : Network} {options : Options} {e : AuditError} :
    (scan w network t root options).result = .error e ↔ ScanObstacle t root options e := by
  constructor
  · intro h
    cases hcheck : checkRoot t root with
    | error e' =>
      rw [scan, hcheck] at h
      cases h
      obtain ⟨fault, hbad, rfl⟩ := checkRoot_eq_error_iff.mp hcheck
      exact .root hbad
    | ok u =>
      have hroot : GoodRoot t root := checkRoot_eq_ok.mp hcheck
      cases hload : Config.load t root options with
      | error e' =>
        rw [scan, hcheck, hload] at h
        cases h
        exact .config hroot hload
      | ok c =>
        cases hprobe : c.probe.probe? network with
        | error e' =>
          rw [scan_of_probe_error hroot hload hprobe] at h
          cases h
          obtain ⟨henabled, fault, haddresses, rfl⟩ := ProbeConfig.probe?_eq_error_iff.mp hprobe
          exact .address hroot hload henabled haddresses
        | ok probe =>
          rw [scan_eq_error_iff_prepare hroot hload hprobe] at h
          obtain ⟨e', hrule, rfl⟩ :=
            (prepare_eq_error_iff_rejected (Config.fault?_of_load hload) hroot).mp h
          exact .rule hroot hload (ProbeConfig.exists_probe?_eq_ok_iff.mp ⟨probe, hprobe⟩) hrule
  · intro h
    cases h with
    | root h => rw [scan, checkRoot_eq_error_iff.mpr ⟨_, h, rfl⟩]
    | config hroot h => rw [scan, checkRoot_eq_ok.mpr hroot, h]
    | address hroot hload henabled h =>
      rw [scan_of_probe_error hroot hload
        (ProbeConfig.probe?_eq_error_iff.mpr ⟨henabled, _, h, rfl⟩)]
    | @rule c e hroot hload hprobe h =>
      obtain ⟨probe, hwanted⟩ : ∃ probe, c.probe.probe? network = .ok probe :=
        ProbeConfig.exists_probe?_eq_ok_iff.mpr hprobe
      rw [scan_eq_error_iff_prepare hroot hload hwanted]
      exact (prepare_eq_error_iff_rejected (Config.fault?_of_load hload) hroot).mpr ⟨e, h, rfl⟩

end Runs

/-! ## Nothing is done before -/

/-- A run fails at its first obstacle and at nothing else, before it has told anything or
called its probe; so neither the bytes of any file nor the probe has a part in it.  A scan
does the same with its own obstacles. -/
theorem run_fails_at_obstacle (w : Wording) (t : Tree) (root : Path) :
    (∀ (c : Config) (probe : Option Probe),
      (runSteps w t root c probe).traced = run w t root c probe ∧
        (runSteps w t root c probe).FailsFirst ∧
        (∀ e, (run w t root c probe).result = .error e ↔ RunObstacle t root c e) ∧
        ∀ t', SameKinds t.top t'.top → t.work = t'.work → ∀ probe' e,
          (run w t' root c probe').result = .error e ↔ (run w t root c probe).result = .error e) ∧
    ∀ (network : Network) (options : Options),
      (scanSteps w network t root options).traced = scan w network t root options ∧
        (scanSteps w network t root options).FailsFirst ∧
        ∀ e, (scan w network t root options).result = .error e ↔ ScanObstacle t root options e := by
  constructor
  · intro c probe
    refine ⟨runSteps_traced t root c probe, runSteps_failsFirst w t root c probe,
      fun e => run_eq_error_iff, ?_⟩
    intro t' hkinds hwork probe' e
    rw [run_eq_error_iff, run_eq_error_iff, ← prepare_eq_error_iff, ← prepare_eq_error_iff,
      prepare_congr (checkRoot_eq_of_sameKinds hkinds hwork root)]
  · intro network options
    exact ⟨scanSteps_traced network t root options, scanSteps_failsFirst w t root network options,
      fun e => scan_eq_error_iff⟩

/-- A configuration with a rule that would match everywhere. -/
def everywhereConfig : Config :=
  { rules := [⟨.logicErrors, .medium, "Anything", "", ["a*"]⟩] }

/-- The error of that rule. -/
def everywhereError : RuleError := ⟨.logicErrors, .matcher (.matchesEmpty "a*")⟩

/-- A probe that tells nothing and fails. -/
def silentProbe : Probe := ⟨[], .error "no runtime"⟩

/-- The rule is refused with a file that is no text and a probe that fails, and without
them. -/
theorem run_fails_at_everywhereRule :
    SameKinds (envScriptTree [0xff]).top (envScriptTree []).top ∧
      (envScriptTree [0xff]).work = (envScriptTree []).work ∧
      (run .silent (envScriptTree [0xff]) ⟨[0x2e]⟩ everywhereConfig (some silentProbe)).result =
        .error (.rule everywhereError) ∧
      (runSteps .silent (envScriptTree [0xff]) ⟨[0x2e]⟩ everywhereConfig
        (some silentProbe)).deeds = [] ∧
      (run .silent (envScriptTree []) ⟨[0x2e]⟩ everywhereConfig none).result =
        .error (.rule everywhereError) := by
  have hkinds : SameKinds (envScriptTree [0xff]).top (envScriptTree []).top := by
    have hput : (envScriptTree [0xff]).top.put [[0x2e, 0x65, 0x6e, 0x76, 0x2e, 0x6a, 0x73]]
        (.file []) = (envScriptTree []).top := by rfl
    rw [← hput]
    exact (Files.differAt_put rfl []).sameKinds
  have hrejected : FirstRejected everywhereConfig.rules everywhereError := by
    have hcompile : CustomRule.compile ⟨.logicErrors, .medium, "Anything", "", ["a*"]⟩ =
        .error everywhereError := by rfl
    exact ⟨[], _, [], rfl, by simp, hcompile⟩
  have hobstacle : RunObstacle (envScriptTree [0xff]) ⟨[0x2e]⟩ everywhereConfig
      (.rule everywhereError) := .rule rfl ⟨_, _, rfl, rfl⟩ hrejected
  obtain ⟨htraced, hfirst, hfails, hothers⟩ :=
    (run_fails_at_obstacle .silent (envScriptTree [0xff]) ⟨[0x2e]⟩).1 everywhereConfig
      (some silentProbe)
  have hrun := (hfails _).mpr hobstacle
  have hsteps : (runSteps .silent (envScriptTree [0xff]) ⟨[0x2e]⟩ everywhereConfig
      (some silentProbe)).result = .error (.rule everywhereError) := by
    rw [← htraced] at hrun
    exact hrun
  exact ⟨hkinds, rfl, hrun, hfirst _ hsteps, (hothers _ hkinds rfl none _).mpr hrun⟩

end BackendAudit
