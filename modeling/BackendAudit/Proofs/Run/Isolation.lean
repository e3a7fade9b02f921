import BackendAudit.Proofs.Files.Kinds
import BackendAudit.Proofs.Run.Visits

/-!
# One file does not touch the others

If two trees differ in the bytes of one regular file, then the runs on them visit the same
files in the same order, and the same comes of all but that one (`run_isolates_file`).  It
may be a source file and an environment file at once, and be skipped in one phase only; the
other visits stay where they are.
-/

namespace BackendAudit

open Files (Tree Node Place Path Name Attributes SameKinds DifferAt)

/-! ## Visits that differ in the outcomes of some paths -/

namespace Visit

/-- Two visits of the same target.  What came of it is the same, unless the path is one of
those that are left out. -/
structure SameBut (own : Path → Bool) (v v' : Visit) : Prop where
  path_eq : v.path = v'.path
  target_eq : v.outcome.target = v'.outcome.target
  outcome_eq : own v.path = false → v.outcome = v'.outcome

/-- Visits of the same targets, one by one, with the same outcomes but for some paths. -/
abbrev Aligned (own : Path → Bool) : List Visit → List Visit → Prop :=
  List.Forall₂ (SameBut own)

/-- The visits of all other paths. -/
def others (own : Path → Bool) (visits : List Visit) : List Visit :=
  visits.filter fun v => !own v.path

/-- Aligned visits are the same without those of the paths that are left out. -/
theorem Aligned.others_eq {own : Path → Bool} {visits visits' : List Visit}
    (h : Aligned own visits visits') : others own visits = others own visits' := by
  induction h with
  | nil => rfl
  | @cons v v' rest rest' hv _ ih =>
    rw [others, others, List.filter_cons, List.filter_cons, ← hv.path_eq]
    cases hown : own v.path with
    | true => simpa [others] using ih
    | false =>
      have hvisit : v = v' := by
        obtain ⟨path, outcome⟩ := v
        obtain ⟨path', outcome'⟩ := v'
        exact congrArg₂ Visit.mk hv.path_eq (hv.outcome_eq hown)
      simpa [others, hvisit] using ih

theorem aligned_map {own : Path → Bool} {visit visit' : Path → Outcome} {paths : List Path}
    (htarget : ∀ path, (visit path).target = (visit' path).target)
    (h : ∀ path ∈ paths, own path = false → visit path = visit' path) :
    Aligned own (paths.map fun path => ⟨path, visit path⟩)
      (paths.map fun path => ⟨path, visit' path⟩) := by
  rw [Aligned, List.forall₂_map_left_iff, List.forall₂_map_right_iff, List.forall₂_same]
  exact fun path hpath => ⟨rfl, htarget path, h path hpath⟩

end Visit

/-! ## The same root and the same paths -/

section Root

variable {t t' : Tree} {root : Path}

/-- A run can begin at a root in both of two trees with the same kinds of nodes, or in
neither, for the same reason. -/
theorem checkRoot_eq_of_sameKinds (h : SameKinds t.top t'.top) (hwork : t.work = t'.work)
    (root : Path) : checkRoot t root = checkRoot t' root := by
  rw [checkRoot, checkRoot, Files.Tree.listFault?, Files.Tree.listFault?,
    Files.Tree.find_eq_placeOf, Files.Tree.find_eq_placeOf, h.placeOf_eq hwork]
  cases t'.placeOf root with
  | error fault => rfl
  | ok place =>
    cases hat : t.top.at? place with
    | none => simp [hat, h.at?_eq_none hat]
    | some n =>
      obtain ⟨n', hat', hkind⟩ := h.exists_at? hat
      simp only [hat, hat']
      -- nodes of different constructors are not of one kind
      cases n <;> cases n' <;> cases hkind <;> rfl

/-- A walk comes upon the same. -/
theorem survey_eq_of_sameKinds (h : SameKinds t.top t'.top) (hwork : t.work = t'.work)
    (ht : t.WellFormed) (ht' : t'.WellFormed) {entries : List (Name × Node)} {a : Attributes}
    (hroot : t.find true root = .ok (.directory entries a)) (excluded : Name → Bool) :
    t.survey excluded root = t'.survey excluded root := by
  obtain ⟨entries', hroot', hbelow⟩ := h.exists_directory hwork hroot
  have hlist : root.listFaultAt? (.directory entries a) =
      root.listFaultAt? (.directory entries' a) :=
    funext fun place => hbelow.listFaultAt?_eq root place
  rw [survey_eq_join ht hroot, survey_eq_join ht' hroot', hlist,
    hbelow.sights_eq (Files.Tree.wellFormed_of_find ht hroot)
      (Files.Tree.wellFormed_of_find ht' hroot')]
  rfl

end Root

/-! ## Runs -/

/-- Two runs that succeed agree but for the visits of some paths.  Each is given by what its
walks tell and by its visits; those of a phase are of the same targets in the same order, with
the same outcomes for all other paths; and without the visits left out there is one run, with
the same groups and skipped targets. -/
structure AgreeBut (own : Path → Bool) (root : Path) (title : String) (closed : List Event)
    (sources sources' settings settings' : List Visit)
    (told told' : Traced (Except AuditError RunReport)) : Prop where
  told_eq : told = runOfVisits root title closed sources settings none
  told_eq' : told' = runOfVisits root title closed sources' settings' none
  sources_aligned : Visit.Aligned own sources sources'
  settings_aligned : Visit.Aligned own settings settings'
  others_eq :
    runOfVisits root title closed (Visit.others own sources) (Visit.others own settings) none =
      runOfVisits root title closed (Visit.others own sources') (Visit.others own settings') none

/-- The runs on two trees that differ in the bytes of one file fail alike, before they have
visited anything, or agree but for the visits of paths that lead to the file. -/
theorem run_isolates_file {w : Wording} {t t' : Tree} {place : Place} (ht : t.WellFormed)
    (ht' : t'.WellFormed) (h : DifferAt place t.top t'.top) (hwork : t.work = t'.work)
    (root : Path) (c : Config) :
    (∃ e, run w t root c none = ⟨[], .error e⟩ ∧ run w t' root c none = ⟨[], .error e⟩) ∨
      ∃ registry, prepare t root c = .ok registry ∧ prepare t' root c = .ok registry ∧
        AgreeBut (t.leadsTo place) root c.output.title
          (walkEvents root (t.survey c.scan.excludes root))
          (sourceVisits t c.scan registry root) (sourceVisits t' c.scan registry root)
          (settingsVisits w t c.scan root) (settingsVisits w t' c.scan root)
          (run w t root c none) (run w t' root c none) := by
  have hprepare : prepare t root c = prepare t' root c :=
    prepare_congr (checkRoot_eq_of_sameKinds h.sameKinds hwork root) c
  cases hready : prepare t root c with
  | error e => exact .inl ⟨e, run_eq_error hready none, run_eq_error (hprepare ▸ hready) none⟩
  | ok registry =>
    have hready' : prepare t' root c = .ok registry := hprepare ▸ hready
    obtain ⟨entries, a, hroot, -⟩ := exists_directory_of_prepare hready
    have hsurvey := survey_eq_of_sameKinds h.sameKinds hwork ht ht' hroot c.scan.excludes
    have hfiles (pick : Path → Bool) :
        filesMatching t c.scan root pick = filesMatching t' c.scan root pick := by
      rw [filesMatching, filesMatching, hsurvey]
    have hsources : Visit.Aligned (t.leadsTo place) (sourceVisits t c.scan registry root)
        (sourceVisits t' c.scan registry root) := by
      rw [sourceVisits, sourceVisits, sourceFiles, sourceFiles, ← hfiles]
      exact Visit.aligned_map (fun path => by simp) fun path _ hother =>
        scanFile_congr (h.size_eq hwork hother) (h.read_eq hwork hother) registry
          c.scan.maxFileBytes
    have hsettings : Visit.Aligned (t.leadsTo place) (settingsVisits w t c.scan root)
        (settingsVisits w t' c.scan root) := by
      rw [settingsVisits, settingsVisits, ← hfiles, ← hfiles]
      refine List.rel_append ?manifests ?envFiles
      case manifests =>
        exact Visit.aligned_map (fun path => by simp) fun path _ hother =>
          auditManifest_congr (h.read_eq hwork hother)
      case envFiles =>
        exact Visit.aligned_map (fun path => by simp) fun path _ hother =>
          auditEnvFile_congr (h.read_eq hwork hother)
    refine .inr ⟨registry, rfl, hready', ?_⟩
    constructor
    case told_eq => exact run_eq_ofVisits hready none
    case told_eq' =>
      rw [hsurvey]
      exact run_eq_ofVisits hready' none
    case sources_aligned => exact hsources
    case settings_aligned => exact hsettings
    case others_eq => rw [hsources.others_eq, hsettings.others_eq]

/-- A directory with `.env.js`, which is a source file and an environment file at once, and
`a.js`. -/
def envScriptTree (content : List UInt8) : Tree :=
  .directory [([0x2e, 0x65, 0x6e, 0x76, 0x2e, 0x6a, 0x73], .file content),
    ([0x61, 0x2e, 0x6a, 0x73], .file [])]

/-- The file `.env.js` is skipped in both phases if it is no text, and in none if it is
empty. -/
theorem run_isolates_envScript :
    (envScriptTree [0xff]).WellFormed ∧ (envScriptTree []).WellFormed ∧
      DifferAt [[0x2e, 0x65, 0x6e, 0x76, 0x2e, 0x6a, 0x73]] (envScriptTree [0xff]).top
        (envScriptTree []).top ∧
      (envScriptTree [0xff]).work = (envScriptTree []).work ∧
      ((∃ e, run .silent (envScriptTree [0xff]) ⟨[0x2e]⟩ {} none = ⟨[], .error e⟩ ∧
          run .silent (envScriptTree []) ⟨[0x2e]⟩ {} none = ⟨[], .error e⟩) ∨
        ∃ registry, prepare (envScriptTree [0xff]) ⟨[0x2e]⟩ {} = .ok registry ∧
          prepare (envScriptTree []) ⟨[0x2e]⟩ {} = .ok registry ∧
          AgreeBut ((envScriptTree [0xff]).leadsTo [[0x2e, 0x65, 0x6e, 0x76, 0x2e, 0x6a, 0x73]])
            ⟨[0x2e]⟩ "BACKEND BUG DETECTION REPORT"
            (walkEvents ⟨[0x2e]⟩ ((envScriptTree [0xff]).survey
              (({} : ScanConfig).excludes) ⟨[0x2e]⟩))
            (sourceVisits (envScriptTree [0xff]) {} registry ⟨[0x2e]⟩)
            (sourceVisits (envScriptTree []) {} registry ⟨[0x2e]⟩)
            (settingsVisits .silent (envScriptTree [0xff]) {} ⟨[0x2e]⟩)
            (settingsVisits .silent (envScriptTree []) {} ⟨[0x2e]⟩)
            (run .silent (envScriptTree [0xff]) ⟨[0x2e]⟩ {} none)
            (run .silent (envScriptTree []) ⟨[0x2e]⟩ {} none)) := by
  have hwell (content : List UInt8) : (envScriptTree content).WellFormed := by
    refine Files.Tree.wellFormed_directory ?_
    simp [Node.wellFormed_directory, Node.WellFormed, Name.Valid, Name.here, Name.up, Name.point,
      Name.slash]
  have hput : (envScriptTree [0xff]).top.put [[0x2e, 0x65, 0x6e, 0x76, 0x2e, 0x6a, 0x73]]
      (.file []) = (envScriptTree []).top := by rfl
  have hdiffer : DifferAt [[0x2e, 0x65, 0x6e, 0x76, 0x2e, 0x6a, 0x73]] (envScriptTree [0xff]).top
      (envScriptTree []).top := hput ▸ Files.differAt_put rfl []
  exact ⟨hwell _, hwell _, hdiffer, rfl,
    run_isolates_file (hwell _) (hwell _) hdiffer rfl ⟨[0x2e]⟩ {}⟩

end BackendAudit
