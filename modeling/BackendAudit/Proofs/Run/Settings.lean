import BackendAudit.Proofs.Audit.Manifest
import BackendAudit.Proofs.Run.Found
import BackendAudit.Proofs.Text.Utf8

/-!
# What comes of settings files

Below a root that leads to a directory the settings files are its manifests, and then its
environment files, each kind in the order of a walk.  What comes of one follows from its own
content and from the path that it is read by (`SettingsFile.outcome`), and from nothing else,
so that no file, be it skipped or not, has a part in what comes of another
(`auditSettings_settles`).

* `settingsFiles`: the files, given by the targets of the run below the root.
* `SettingsFile.outcome_eq_scanned_iff`, `SettingsFile.exists_outcome_eq_skipped_iff`: which files
  are scanned, and which are skipped.
* `auditSettings_eq`: what is told, and what it comes to, in terms of the files.
-/

namespace BackendAudit

open Files (Tree Node Place Path Name Attributes Shut)

/-! ## Settings files -/

/-- The two kinds of settings files. -/
inductive SettingsKind where
  | manifest
  | envFile
  deriving DecidableEq

namespace SettingsKind

/-- A name tells that a file is of a kind. -/
def Names : SettingsKind → Name → Prop
  | manifest, name => name = Name.ofString "package.json"
  | envFile, name => ".env".toList <+: Text.Utf8.lossy name

/-- What is found in a text of a kind, or why it is not of that kind. -/
def check (w : Wording) : SettingsKind → String → String → Except String (List Finding)
  | manifest, target, content =>
    (Manifest.check target content).mapError fun fault => fault.message w content
  | envFile, target, content => .ok (Env.check target content)

/-- The condition on the paths of a kind. -/
def picks : SettingsKind → Path → Bool
  | manifest => Manifest.isManifest
  | envFile => Env.isEnvFile

/-- The check of a file of a kind. -/
def audit (w : Wording) : SettingsKind → Tree → Path → Outcome
  | manifest => auditManifest w
  | envFile => auditEnvFile

theorem phasePick (kind : SettingsKind) (c : ScanConfig) : PhasePick c kind.picks :=
  match kind with
  | manifest => isManifest_phasePick c
  | envFile => isEnvFile_phasePick c

theorem picks_iff_names {kind : SettingsKind} {name : Name} (hname : name.Valid) :
    kind.picks ⟨name⟩ = true ↔ kind.Names name := by
  cases kind with
  | manifest =>
    rw [picks, Manifest.isManifest, fileName?_of_valid hname, beq_iff_eq, Option.some.injEq]
    rfl
  | envFile =>
    rw [picks, Env.isEnvFile, fileName?_of_valid hname]
    exact List.isPrefixOf_iff_prefix

/-- No name tells both kinds. -/
theorem eq_of_names {kind kind' : SettingsKind} {name : Name} (h : kind.Names name)
    (h' : kind'.Names name) : kind = kind' := by
  have hmanifest : ¬ envFile.Names (Name.ofString "package.json") := by
    rw [Names]
    decide
  cases kind <;> cases kind'
  · rfl
  · exact absurd ((show _ = _ from h) ▸ h') hmanifest
  · exact absurd ((show _ = _ from h') ▸ h) hmanifest
  · rfl

/-- Every text is that of an environment file; a manifest is a document with an object in it. -/
theorem exists_check_eq_ok_iff {w : Wording} {kind : SettingsKind} {target content : String} :
    (∃ findings, kind.check w target content = .ok findings) ↔
      (kind = .manifest → ∃ ms, Json.Document content.toList (.object ms)) := by
  cases kind with
  | manifest =>
    simp only [forall_const, check]
    constructor
    · rintro ⟨findings, h⟩
      cases hcheck : Manifest.check target content with
      | ok findings => exact Manifest.exists_document_of_check hcheck
      | error fault =>
        rw [hcheck] at h
        cases h
    · rintro ⟨ms, h⟩
      exact ⟨_, by rw [Manifest.check_of_document target h]; rfl⟩
  | envFile => simp [check]

end SettingsKind

/-- A settings file below a directory. -/
structure SettingsFile extends FoundFile where
  kind : SettingsKind

namespace SettingsFile

/-- What comes of a file. -/
def outcome (w : Wording) (root : Path) (f : SettingsFile) : Outcome :=
  match f.fault? with
  | some fault => .skipped (f.target root) fault.message
  | none =>
    match Text.Utf8.decode f.content with
    | .error _ => .skipped (f.target root) Files.Fault.notText.message
    | .ok cs =>
      match f.kind.check w (f.target root) (String.ofList cs) with
      | .error reason => .skipped (f.target root) reason
      | .ok findings => .scanned (f.target root) findings

/-- The order of settings files: manifests come first, and each kind ascends. -/
def Before (f g : SettingsFile) : Prop :=
  f.kind = .manifest ∧ g.kind = .envFile ∨ f.kind = g.kind ∧ f.place < g.place

end SettingsFile

theorem SettingsFile.not_before_self (f : SettingsFile) : ¬ f.Before f := by
  rintro (⟨hmanifest, henvFile⟩ | ⟨-, hlt⟩)
  · rw [hmanifest] at henvFile
    cases henvFile
  · exact List.lt_irrefl _ hlt

theorem SettingsFile.Before.asymm {f g : SettingsFile} (h : f.Before g) : ¬ g.Before f := by
  rintro (⟨hmanifest, henvFile⟩ | ⟨hkind, hlt⟩)
  · obtain ⟨hmanifest', -⟩ | ⟨hkind, -⟩ := h
    · rw [henvFile] at hmanifest'
      cases hmanifest'
    · rw [hmanifest, henvFile] at hkind
      cases hkind
  · obtain ⟨hmanifest, henvFile⟩ | ⟨-, hlt'⟩ := h
    · rw [hmanifest, henvFile] at hkind
      cases hkind
    · exact List.lt_asymm hlt hlt'

instance : Std.Irrefl SettingsFile.Before := ⟨SettingsFile.not_before_self⟩

instance : Std.Antisymm SettingsFile.Before := ⟨fun _ _ h h' => absurd h' h.asymm⟩

/-- A settings file is found below a directory, with a name of its kind. -/
def ScanConfig.Settles (c : ScanConfig) (root : Path) (dir : Node) (f : SettingsFile) : Prop :=
  c.Finds root dir f.kind.Names f.toFoundFile

/-! ## What comes of a file -/

namespace SettingsFile

variable {w : Wording} {root : Path} {f : SettingsFile} {findings : List Finding}

theorem outcome_eq_scanned_iff :
    f.outcome w root = .scanned (f.target root) findings ↔
      f.fault? = none ∧ ∃ cs, Text.Utf8.encode cs = f.content ∧
        f.kind.check w (f.target root) (String.ofList cs) = .ok findings := by
  simp only [← Text.Utf8.decode_eq_ok_iff]
  rw [outcome]
  cases f.fault? with
  | some fault => simp
  | none =>
    cases Text.Utf8.decode f.content with
    | error fault => simp
    | ok cs =>
      cases hcheck : f.kind.check w (f.target root) (String.ofList cs) with
      | error reason => simp [hcheck]
      | ok gs => simp [hcheck]

/-- A file is scanned or skipped, under its own path. -/
theorem outcome_cases (w : Wording) (root : Path) (f : SettingsFile) :
    (∃ findings, f.outcome w root = .scanned (f.target root) findings) ∨
      ∃ reason, f.outcome w root = .skipped (f.target root) reason := by
  rw [outcome]
  cases f.fault? with
  | some fault => exact .inr ⟨_, rfl⟩
  | none =>
    cases Text.Utf8.decode f.content with
    | error fault => exact .inr ⟨_, rfl⟩
    | ok cs =>
      cases hcheck : f.kind.check w (f.target root) (String.ofList cs) with
      | error reason => exact .inr ⟨reason, by simp only [hcheck]⟩
      | ok findings => exact .inl ⟨findings, by simp only [hcheck]⟩

/-- The files that are skipped: what cannot be read, what is no text, and what is no object although
it should be a manifest. -/
theorem exists_outcome_eq_skipped_iff :
    (∃ reason, f.outcome w root = .skipped (f.target root) reason) ↔
      ¬ (f.unreached? = none ∧ f.readable = true) ∨ ¬ Text.Utf8.IsText f.content ∨
        f.kind = .manifest ∧ ∀ cs ms, Text.Utf8.encode cs = f.content →
          ¬ Json.Document cs (.object ms) := by
  have hscanned : (∃ reason, f.outcome w root = .skipped (f.target root) reason) ↔
      ¬ ∃ findings, f.outcome w root = .scanned (f.target root) findings := by
    constructor
    · rintro ⟨reason, h⟩ ⟨findings, h'⟩
      rw [h] at h'
      cases h'
    · exact (outcome_cases w root f).resolve_left
  rw [hscanned, ← FoundFile.fault?_eq_none_iff]
  simp only [outcome_eq_scanned_iff, exists_and_left]
  constructor
  · intro h
    by_contra hsound
    simp only [not_or, not_not, not_and, not_forall] at hsound
    obtain ⟨hreached, ⟨cs, hcs⟩, hmanifest⟩ := hsound
    obtain ⟨findings, hfindings⟩ : ∃ findings,
        f.kind.check w (f.target root) (String.ofList cs) = .ok findings := by
      rw [SettingsKind.exists_check_eq_ok_iff]
      intro hkind
      obtain ⟨cs', ms, hcs', hdocument⟩ := hmanifest hkind
      obtain rfl : cs' = cs := Text.Utf8.encode_injective (hcs'.trans hcs.symm)
      exact ⟨ms, by simpa using hdocument⟩
    exact h ⟨hreached, findings, cs, hcs, hfindings⟩
  · rintro h ⟨hreached, findings, cs, hcs, hfindings⟩
    obtain hfault | htext | ⟨hkind, hnone⟩ := h
    · exact hfault hreached
    · exact htext ⟨cs, hcs⟩
    · obtain ⟨ms, hdocument⟩ := SettingsKind.exists_check_eq_ok_iff.mp ⟨findings, hfindings⟩ hkind
      exact hnone cs ms hcs (by simpa using hdocument)

/-- What comes of a file that is read by its path. -/
theorem audit_eq_outcome {t : Tree} {c : ScanConfig} {entries : List (Name × Node)}
    {a : Attributes} {kind : Name → Prop} (ht : t.WellFormed)
    (hroot : t.find true root = .ok (.directory entries a))
    (hfound : c.Finds root (.directory entries a) kind f.toFoundFile) :
    f.kind.audit w t (f.path root) = f.outcome w root := by
  have hread := FoundFile.read_eq ht hroot hfound
  rw [outcome, FoundFile.target]
  cases hfault : f.fault? with
  | some fault =>
    rw [hfault] at hread
    cases f.kind <;>
      simp only [SettingsKind.audit, auditManifest, auditEnvFile, Files.Tree.readText, hread]
  | none =>
    rw [hfault] at hread
    cases hdecode : Text.Utf8.decode f.content with
    | error fault =>
      cases f.kind <;> simp only [SettingsKind.audit, auditManifest, auditEnvFile,
        Files.Tree.readText, hread, hdecode]
    | ok cs =>
      cases f.kind with
      | manifest =>
        simp only [SettingsKind.audit, auditManifest, SettingsKind.check, Files.Tree.readText,
          hread, hdecode]
        cases Manifest.check (f.path root).text (String.ofList cs) <;> rfl
      | envFile =>
        simp only [SettingsKind.audit, auditEnvFile, SettingsKind.check, Files.Tree.readText,
          hread, hdecode]

end SettingsFile

/-! ## The files below a directory -/

/-- The files of a kind below a directory. -/
def settingsFilesOf (c : ScanConfig) (root : Path) (dir : Node) (kind : SettingsKind) :
    List SettingsFile :=
  (foundFiles c root kind.picks dir).map fun f => ⟨f, kind⟩

/-- All settings files below a directory. -/
def settingsFiles (c : ScanConfig) (root : Path) (dir : Node) : List SettingsFile :=
  settingsFilesOf c root dir .manifest ++ settingsFilesOf c root dir .envFile

section Files

variable {t : Tree} {c : ScanConfig} {root : Path} {entries : List (Name × Node)} {a : Attributes}

theorem mem_settingsFilesOf (ht : t.WellFormed)
    (hroot : t.find true root = .ok (.directory entries a)) {kind : SettingsKind}
    {f : SettingsFile} :
    f ∈ settingsFilesOf c root (.directory entries a) kind ↔
      f.kind = kind ∧ c.Settles root (.directory entries a) f := by
  have hdir : (Node.directory entries a).WellFormed := Files.Tree.wellFormed_of_find ht hroot
  rw [settingsFilesOf, List.mem_map]
  simp only [mem_foundFiles (kind.phasePick c) ht hroot]
  constructor
  · rintro ⟨g, ⟨hfile, haccess, hreached, name, hname, hpicked⟩, rfl⟩
    have hvalid : name.Valid := hdir.getLast?_valid hfile.choose_spec.1 hname
    exact ⟨rfl, hfile, haccess, hreached, name, hname,
      (SettingsKind.picks_iff_names hvalid).mp hpicked⟩
  · rintro ⟨rfl, hfile, haccess, hreached, name, hname, hnames⟩
    have hvalid : name.Valid := hdir.getLast?_valid hfile.choose_spec.1 hname
    exact ⟨f.toFoundFile, ⟨hfile, haccess, hreached, name, hname,
      (SettingsKind.picks_iff_names hvalid).mpr hnames⟩, rfl⟩

theorem mem_settingsFiles (ht : t.WellFormed)
    (hroot : t.find true root = .ok (.directory entries a)) {f : SettingsFile} :
    f ∈ settingsFiles c root (.directory entries a) ↔
      c.Settles root (.directory entries a) f := by
  rw [settingsFiles, List.mem_append, mem_settingsFilesOf ht hroot, mem_settingsFilesOf ht hroot,
    ← or_and_right, and_iff_right_iff_imp]
  intro _
  cases f.kind with
  | manifest => exact .inl rfl
  | envFile => exact .inr rfl

theorem settingsFiles_pairwise (ht : t.WellFormed)
    (hroot : t.find true root = .ok (.directory entries a)) :
    (settingsFiles c root (.directory entries a)).Pairwise SettingsFile.Before := by
  have hkind (kind : SettingsKind) :
      (settingsFilesOf c root (.directory entries a) kind).Pairwise SettingsFile.Before := by
    exact List.pairwise_map.mpr ((foundFiles_pairwise ht hroot _).imp fun hlt => .inr ⟨rfl, hlt⟩)
  refine List.pairwise_append.mpr ⟨hkind .manifest, hkind .envFile, fun f hf f' hf' => ?_⟩
  exact .inl ⟨((mem_settingsFilesOf ht hroot).mp hf).1, ((mem_settingsFilesOf ht hroot).mp hf').1⟩

/-- Different settings files have different paths. -/
theorem ScanConfig.Settles.eq_of_path_eq (hdir : (Node.directory entries a).WellFormed)
    {f f' : SettingsFile} (h : c.Settles root (.directory entries a) f)
    (h' : c.Settles root (.directory entries a) f') (heq : f.path root = f'.path root) :
    f = f' := by
  obtain ⟨⟨b, hat, hreadable⟩, haccess, -, name, hname, hnames⟩ := h
  obtain ⟨⟨b', hat', hreadable'⟩, haccess', -, name', hname', hnames'⟩ := h'
  have hne {place : Place} {name : Name} (hlast : place.getLast? = some name) : place ≠ [] := by
    rintro rfl
    cases hlast
  obtain ⟨⟨place, content, readable, unreached⟩, kind⟩ := f
  obtain ⟨⟨place', content', readable', unreached'⟩, kind'⟩ := f'
  obtain rfl : place = place' :=
    Path.join_relative_injective (hne hname) (hne hname') (hdir.at? hat).2 (hdir.at? hat').2 heq
  cases hat.symm.trans hat'
  cases hname.symm.trans hname'
  obtain rfl : kind = kind' := SettingsKind.eq_of_names hnames hnames'
  cases hreadable.symm.trans hreadable'
  cases haccess.trans haccess'.symm
  rfl

theorem nodup_settingsFiles_paths (ht : t.WellFormed)
    (hroot : t.find true root = .ok (.directory entries a)) :
    ((settingsFiles c root (.directory entries a)).map fun f => f.path root).Nodup := by
  have hdir : (Node.directory entries a).WellFormed := Files.Tree.wellFormed_of_find ht hroot
  refine List.pairwise_map.mpr ?_
  refine (settingsFiles_pairwise ht hroot).imp_of_mem fun {f f'} hf hf' hbefore heq => ?_
  have hsettles := (mem_settingsFiles ht hroot).mp hf
  obtain rfl := hsettles.eq_of_path_eq hdir ((mem_settingsFiles ht hroot).mp hf') heq
  exact SettingsFile.not_before_self f hbefore

end Files

/-! ## The phase -/

section Phase

variable {w : Wording} {t : Tree} {c : ScanConfig} {root : Path} {entries : List (Name × Node)}
  {a : Attributes}

/-- The checks of a kind are those of its files. -/
theorem map_audit_walked (ht : t.WellFormed)
    (hroot : t.find true root = .ok (.directory entries a)) (kind : SettingsKind) :
    (walked (filesMatching t c root kind.picks)).map (kind.audit w t) =
      (settingsFilesOf c root (.directory entries a) kind).map (SettingsFile.outcome w root) := by
  rw [walked_eq_foundFiles (kind.phasePick c) ht hroot, settingsFilesOf, List.map_map, List.map_map]
  refine List.map_congr_left fun f hf => ?_
  exact SettingsFile.audit_eq_outcome (f := ⟨f, kind⟩) ht hroot
    ((mem_foundFiles (kind.phasePick c) ht hroot).mp hf)

/-- The check of the settings tells of the directories that its two walks cannot list, how many
files there are, and then what comes of each. -/
theorem auditSettings_eq (ht : t.WellFormed)
    (hroot : t.find true root = .ok (.directory entries a)) :
    auditSettings w t c root =
      let files := settingsFiles c root (.directory entries a)
      let told := (shutsBelow c root (.directory entries a)).map (shutEvent root)
      { events := told ++ told ++ .targetsDiscovered .configValidation files.length ::
          files.map fun f => (f.outcome w root).event
        result := files.map (SettingsFile.outcome w root) } := by
  let dir := Node.directory entries a
  have hmanifests : (walked (filesMatching t c root Manifest.isManifest)).map (auditManifest w t) =
      (settingsFilesOf c root dir .manifest).map (SettingsFile.outcome w root) :=
    map_audit_walked ht hroot .manifest
  have henvFiles : (walked (filesMatching t c root Env.isEnvFile)).map (auditEnvFile t) =
      (settingsFilesOf c root dir .envFile).map (SettingsFile.outcome w root) :=
    map_audit_walked ht hroot .envFile
  have hcount : (walked (filesMatching t c root Manifest.isManifest)).length +
      (walked (filesMatching t c root Env.isEnvFile)).length =
      (settingsFiles c root dir).length := by
    have hmanifestCount := congrArg List.length hmanifests
    have henvFileCount := congrArg List.length henvFiles
    rw [List.length_map, List.length_map] at hmanifestCount henvFileCount
    rw [hmanifestCount, henvFileCount, settingsFiles, List.length_append]
  rw [auditSettings, walkEvents_filesMatching, walkEvents_filesMatching,
    walkEvents_survey ht hroot]
  simp only [hmanifests, henvFiles, hcount, settingsFiles, dir, List.map_append, List.map_map,
    Function.comp_def]

end Phase

/-- What is told when the settings below a directory are checked, and what it comes to: something
for each file, manifests before environment files and each kind in the order of a walk, and no
file twice.  Before that, each of the two walks tells of the directories that cannot be listed, be
it the one that it begins in. -/
structure SettingsAudit (w : Wording) (c : ScanConfig) (root : Path) (dir : Node)
    (told : Traced (List Outcome)) (files : List SettingsFile) : Prop where
  mem_iff : ∀ f, f ∈ files ↔ c.Settles root dir f
  ordered : files.Pairwise SettingsFile.Before
  once : (files.map fun f => f.path root).Nodup
  result_eq : told.result = files.map (SettingsFile.outcome w root)
  events_eq : ∃ shut : List Shut, shut.Pairwise Shut.Before ∧
    (∀ s, s ∈ shut ↔ c.Shuts root dir s) ∧
      told.events = shut.map (shutEvent root) ++ shut.map (shutEvent root) ++
        .targetsDiscovered .configValidation files.length :: told.result.map Outcome.event

theorem settingsAudit_settingsFiles (w : Wording) {t : Tree} {root : Path}
    {entries : List (Name × Node)} {a : Attributes} (ht : t.WellFormed)
    (hroot : t.find true root = .ok (.directory entries a)) (c : ScanConfig) :
    SettingsAudit w c root (.directory entries a) (auditSettings w t c root)
      (settingsFiles c root (.directory entries a)) := by
  rw [auditSettings_eq ht hroot]
  constructor
  case mem_iff => exact fun f => mem_settingsFiles ht hroot
  case ordered => exact settingsFiles_pairwise ht hroot
  case once => exact nodup_settingsFiles_paths ht hroot
  case result_eq => rfl
  case events_eq =>
    refine ⟨_, shutsBelow_pairwise ht hroot c, fun s => mem_shutsBelow ht hroot, ?_⟩
    simp only [List.map_map, Function.comp_def]

/-- The files at other places are the same, if they are so below the two directories. -/
theorem SettingsAudit.filter_eq {w : Wording} {c : ScanConfig} {root : Path} {dir dir' : Node}
    {told told' : Traced (List Outcome)} {files files' : List SettingsFile}
    (h : SettingsAudit w c root dir told files) (h' : SettingsAudit w c root dir' told' files')
    {place : Place}
    (hsame : ∀ f, f.place ≠ place → (c.Settles root dir f ↔ c.Settles root dir' f)) :
    files.filter (·.place ≠ place) = files'.filter (·.place ≠ place) := by
  refine (h.ordered.filter _).eq_of_mem_iff (h'.ordered.filter _) fun f => ?_
  simp only [List.mem_filter, decide_eq_true_eq, h.mem_iff, h'.mem_iff]
  exact and_congr_left fun hplace => hsame f hplace

/-- Below a root that leads to a directory, every settings file is checked once, in order, and what
comes of it follows from the file alone: a file that cannot be read by its path, that is no text, or
that is no object although it should be a manifest is skipped, and any other is scanned with what is
found in its text.  Where one file is another one or is not there, the same comes of all others. -/
theorem auditSettings_settles (w : Wording) {t : Tree} {root : Path}
    {entries : List (Name × Node)} {a : Attributes} (ht : t.WellFormed)
    (hroot : t.find true root = .ok (.directory entries a)) (c : ScanConfig) :
    ∃ files, SettingsAudit w c root (.directory entries a) (auditSettings w t c root) files ∧
      (∀ f ∈ files, ∀ findings, f.outcome w root = .scanned (f.target root) findings ↔
        f.fault? = none ∧ ∃ cs, Text.Utf8.encode cs = f.content ∧
          f.kind.check w (f.target root) (String.ofList cs) = .ok findings) ∧
      (∀ f ∈ files, (∃ reason, f.outcome w root = .skipped (f.target root) reason) ↔
        (0 ∈ (f.path root).bytes ∨ Files.maxPathLength < (f.path root).bytes.length ∨
            (∃ name ∈ f.place, Files.maxNameLength < name.length) ∨
            ¬ (Node.directory entries a).Permits f.place ∨ f.readable = false) ∨
          ¬ Text.Utf8.IsText f.content ∨
          f.kind = .manifest ∧ ∀ cs ms, Text.Utf8.encode cs = f.content →
            ¬ Json.Document cs (.object ms)) ∧
      ∀ (t' : Tree) (entries' : List (Name × Node)) (a' : Attributes) (place : Place),
        t'.WellFormed → t'.find true root = .ok (.directory entries' a') →
        (∀ f, f.place ≠ place →
          (c.Settles root (.directory entries a) f ↔
            c.Settles root (.directory entries' a') f)) →
        ∃ files', SettingsAudit w c root (.directory entries' a') (auditSettings w t' c root)
            files' ∧
          files.filter (·.place ≠ place) = files'.filter (·.place ≠ place) := by
  have hdir : (Node.directory entries a).WellFormed := Files.Tree.wellFormed_of_find ht hroot
  have haudit := settingsAudit_settingsFiles w ht hroot c
  refine ⟨_, haudit, fun f _ findings => SettingsFile.outcome_eq_scanned_iff, fun f hf => ?_, ?_⟩
  · obtain ⟨⟨b, hat, -⟩, haccess, -, -⟩ := (haudit.mem_iff f).mp hf
    have hreached := Path.faultAt?_eq_none_iff hroot (hdir.at? hat).2 hat
    rw [SettingsFile.exists_outcome_eq_skipped_iff, haccess, hreached, Path.Admits,
      FoundFile.path]
    simp only [not_and_or, not_not, not_forall, not_le, exists_prop, Bool.not_eq_true, or_assoc]
  · intro t' entries' a' place ht' hroot' hsame
    have haudit' := settingsAudit_settingsFiles w ht' hroot' c
    exact ⟨_, haudit', haudit.filter_eq haudit' hsame⟩

/-- A directory with an environment file that is no text and a manifest without members. -/
def brokenEnvEntries : List (Name × Node) :=
  [(Name.ofString ".env", .file [0xff]), (Manifest.fileName, .file [0x7b, 0x7d])]

theorem auditSettings_settles_brokenEnv :
    let t : Tree := .directory brokenEnvEntries
    let root : Path := ⟨Name.here⟩
    t.WellFormed ∧ t.find true root = .ok (.directory brokenEnvEntries) ∧
      ∃ files, SettingsAudit .silent {} root (.directory brokenEnvEntries)
          (auditSettings .silent t {} root) files ∧
        (∃ f ∈ files, f.kind = .envFile ∧
          ∃ reason, f.outcome .silent root = .skipped (f.target root) reason) ∧
        ∃ f ∈ files, f.kind = .manifest ∧
          f.outcome .silent root = .scanned (f.target root)
            (Manifest.requiredScripts.map (Manifest.scriptFinding (f.target root))) := by
  intro t root
  have hwell : t.WellFormed := by
    have henv : (Name.ofString ".env").Valid := by decide
    have hmanifest : Manifest.fileName.Valid := by decide
    have hne : Name.ofString ".env" ≠ Manifest.fileName := by decide
    refine Files.Tree.wellFormed_directory ?_
    simp [brokenEnvEntries, Node.wellFormed_directory, Node.WellFormed, henv, hmanifest, hne]
  have hroot : t.find true root = .ok (.directory brokenEnvEntries) := by rfl
  refine ⟨hwell, hroot, ?_⟩
  obtain ⟨files, haudit, hscanned, hskipped, -⟩ := auditSettings_settles .silent hwell hroot {}
  have hreached : ScanConfig.Enters {} root (.directory brokenEnvEntries) [] :=
    .nil rfl
  have henv : (⟨⟨[Name.ofString ".env"], [0xff], true, none⟩, .envFile⟩ : SettingsFile) ∈ files :=
    (haudit.mem_iff _).mpr ⟨⟨{}, by rfl, rfl⟩, by rfl, hreached, _, rfl,
      by rw [SettingsKind.Names]; decide⟩
  have hmanifest : (⟨⟨[Manifest.fileName], [0x7b, 0x7d], true, none⟩, .manifest⟩ : SettingsFile) ∈
      files :=
    (haudit.mem_iff _).mpr ⟨⟨{}, by rfl, rfl⟩, by rfl, hreached, _, rfl, rfl⟩
  refine ⟨files, haudit, ⟨_, henv, rfl, (hskipped _ henv).mpr (.inr (.inl ?_))⟩,
    _, hmanifest, rfl, (hscanned _ hmanifest _).mpr ⟨by rfl, ['\x7b', '\x7d'], by rfl, by rfl⟩⟩
  rintro ⟨cs, hcs⟩
  have hdecode := Text.Utf8.decode_eq_ok_iff.mpr hcs
  cases hdecode

/-- A directory with a manifest, which is an empty object. -/
def plainEntries : List (Name × Node) := [(Manifest.fileName, .file [0x7b, 0x7d])]

/-- The manifest, by a path that is too long. -/
def plainFile : SettingsFile :=
  ⟨⟨[Manifest.fileName], [0x7b, 0x7d], true, some .nameTooLong⟩, .manifest⟩

/-- The directory, which has a name of one letter. -/
def plainTree : Tree := .directory [([0x64], .directory plainEntries)]

theorem plainTree_wellFormed : plainTree.WellFormed := by
  have hname : Name.Valid [0x64] := by decide
  have hmanifest : Manifest.fileName.Valid := by decide
  refine Files.Tree.wellFormed_directory ?_
  simp [plainEntries, Node.wellFormed_directory, Node.WellFormed, hname, hmanifest]

/-- A manifest that is an object is skipped all the same if the path to it is too long. -/
theorem auditSettings_skips_plainFile :
    plainTree.WellFormed ∧
      plainTree.find true (slashedRoot 4089) = .ok (.directory plainEntries) ∧
      ScanConfig.Settles {} (slashedRoot 4089) (.directory plainEntries) plainFile ∧
      Text.Utf8.encode ['{', '}'] = plainFile.content ∧
      Json.Document ['{', '}'] (.object []) ∧
      .skipped (plainFile.target (slashedRoot 4089)) "File name too long (os error 36)" ∈
        (auditSettings .silent plainTree {} (slashedRoot 4089)).result := by
  have hroot := find_slashedRoot plainEntries (n := 4089) (by rw [Files.maxPathLength]; omega)
  have hfault : (slashedRoot 4089).faultAt? (.directory plainEntries) [Manifest.fileName] =
      some .nameTooLong := faultAt?_slashedRoot (by decide) (by decide) (by decide) _
  have hreached : ScanConfig.Enters {} (slashedRoot 4089) (.directory plainEntries) [] :=
    .nil rfl
  have hfile : ScanConfig.Settles {} (slashedRoot 4089) (.directory plainEntries) plainFile :=
    ⟨⟨{}, by rfl, rfl⟩, hfault.symm, hreached, _, rfl, rfl⟩
  refine ⟨plainTree_wellFormed, hroot, hfile, by rfl, ?_, ?_⟩
  · rw [Json.Document, Json.nestingLimit]
    exact .element .nil (.emptyObject .nil) .nil
  · rw [(settingsAudit_settingsFiles .silent plainTree_wellFormed hroot {}).result_eq]
    refine List.mem_map.mpr
      ⟨plainFile, (mem_settingsFiles plainTree_wellFormed hroot).mpr hfile, ?_⟩
    rfl

end BackendAudit
