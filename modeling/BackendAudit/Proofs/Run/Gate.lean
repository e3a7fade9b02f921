import BackendAudit.Proofs.Files.Growth
import BackendAudit.Proofs.Run.Visits

/-!
# The check of a root and the walks below it

A root leads to a directory, to a file, or nowhere.  It is accepted just if it leads to a directory
that can be listed (`checkRoot_gates`): then a walk tells of the directories below that cannot be
listed, and of nothing else.  From a root that leads nowhere, or to a directory that cannot be
listed, each walk comes back with no file and with the fault that the root is refused for; from a
file, with nothing to tell.

An accepted root can be so long that a directory right below it cannot be listed
(`checkRoot_accepts_longRoot`).
-/

namespace BackendAudit

open Files (Tree Node Place Path Name Attributes Shut)

section Roots

variable {t : Tree} {root : Path}

/-- Below a root that leads nowhere there is nothing to come upon. -/
theorem survey_of_error {fault : Files.Fault} (h : t.find true root = .error fault)
    (excluded : Name → Bool) : t.survey excluded root = .error fault := by
  rw [Files.Tree.survey, Files.Tree.walkRoot_of_error h]
  rfl

/-- From a root that cannot be walked there is the fault alone. -/
theorem walk_of_error {c : ScanConfig} {fault : Files.Fault}
    (h : t.survey c.excludes root = .error fault) (pick : Path → Bool) :
    walked (filesMatching t c root pick) = [] ∧
      walkEvents root (filesMatching t c root pick) =
        [.targetSkipped root.text (walkFaultText root fault)] := by
  rw [filesMatching, h]
  exact ⟨rfl, rfl⟩

/-- A walk from what is no directory comes upon none. -/
theorem walkEvents_of_file {n : Node} (h : t.find true root = .ok n) (hn : n.isDirectory = false)
    (c : ScanConfig) : walkEvents root (t.survey c.excludes root) = [] := by
  have hlink (target : Path) : walkEvents root
      ((Except.ok (Node.link target) : Except Files.Fault Node).map fun n =>
        (n.sights c.excludes fun place => t.listFault? (root.descend place)).map
          (Files.Sight.map root.descend)) = [] := rfl
  rw [Files.Tree.survey, Files.Tree.walkRoot]
  rcases Files.Tree.find_false t root with heq | ⟨target, hfalse⟩
  · rw [heq, h]
    cases n with
    | directory entries a => cases hn
    | file content a => rfl
    | link target => exact hlink target
    | special content a => rfl
  · rw [hfalse, h]
    simp only [hn, Bool.false_eq_true, if_false]
    exact hlink target

/-- A root is accepted just if it leads to a directory that can be listed, and then a walk below it
tells of the directories that cannot be listed, in order, and of nothing else.  If it leads nowhere
it is refused with the fault that each walk tells of, once, and no file is found; so it is if it
leads to a directory that cannot be listed.  If it leads to a regular or a special file it is
refused and a walk has nothing to tell.  It leads nowhere else. -/
theorem checkRoot_gates (ht : t.WellFormed) (root : Path) (c : ScanConfig)
    (pick : Path → Bool) :
    (checkRoot t root = .ok () ↔
      ∃ entries a, t.find true root = .ok (.directory entries a) ∧ a.readable = true) ∧
    (∀ entries a, t.find true root = .ok (.directory entries a) → a.readable = true →
      ∃ shut : List Shut, shut.Pairwise Shut.Before ∧
        (∀ s, s ∈ shut ↔ c.Shuts root (.directory entries a) s) ∧
        walkEvents root (filesMatching t c root pick) = shut.map (shutEvent root)) ∧
    (∀ fault, t.find true root = .error fault →
      checkRoot t root = .error (.root root (.inaccessible fault)) ∧
        walked (filesMatching t c root pick) = [] ∧
        walkEvents root (filesMatching t c root pick) =
          [.targetSkipped root.text (walkFaultText root fault)]) ∧
    (∀ entries a, t.find true root = .ok (.directory entries a) → a.readable = false →
      checkRoot t root = .error (.root root (.inaccessible .denied)) ∧
        walked (filesMatching t c root pick) = [] ∧
        walkEvents root (filesMatching t c root pick) =
          [.targetSkipped root.text (walkFaultText root .denied)]) ∧
    (∀ n, t.find true root = .ok n → n.isDirectory = false →
      checkRoot t root = .error (.root root .notDirectory) ∧
        walkEvents root (filesMatching t c root pick) = []) ∧
    ((∃ entries a, t.find true root = .ok (.directory entries a)) ∨
      (∃ fault, t.find true root = .error fault) ∨
      (∃ bytes a, t.find true root = .ok (.file bytes a)) ∨
      ∃ bytes a, t.find true root = .ok (.special bytes a)) := by
  refine ⟨checkRoot_eq_ok, fun entries a hroot _ => ?directory, fun fault hroot => ?nowhere,
    fun entries a hroot hlist => ?unlisted, fun n hroot hn => ?file, ?exhaustive⟩
  case directory =>
    refine ⟨shutsBelow c root (.directory entries a), shutsBelow_pairwise ht hroot c,
      fun s => mem_shutsBelow ht hroot, ?_⟩
    rw [walkEvents_filesMatching, walkEvents_survey ht hroot]
  case nowhere =>
    refine ⟨by rw [checkRoot, hroot], ?_⟩
    exact walk_of_error (survey_of_error hroot c.excludes) pick
  case unlisted =>
    refine ⟨by simp [checkRoot, Files.Tree.listFault?, hroot, Node.isDirectory, Node.listFault?,
      hlist], ?_⟩
    exact walk_of_error (survey_eq_error ht hroot (by simp [hlist]) c.excludes) pick
  case file =>
    refine ⟨by simp [checkRoot, hroot, hn], ?_⟩
    rw [walkEvents_filesMatching, walkEvents_of_file hroot hn]
  case exhaustive =>
    cases hroot : t.find true root with
    | error fault => exact .inr (.inl ⟨fault, rfl⟩)
    | ok n =>
      cases n with
      | directory entries a => exact .inl ⟨entries, a, rfl⟩
      | file bytes a => exact .inr (.inr (.inl ⟨bytes, a, rfl⟩))
      | special bytes a => exact .inr (.inr (.inr ⟨bytes, a, rfl⟩))
      | link target => exact absurd hroot (Files.Tree.find_ne_link ht root target)

/-- A link `l` to itself leads nowhere, and a link `k` leads to the file `/f` next to it. -/
theorem checkRoot_gates_loop :
    let t : Tree := .directory
      [([0x6c], .link ⟨[0x6c]⟩), ([0x6b], .link ⟨[0x2f, 0x66]⟩), ([0x66], .file [])]
    let root : Path := ⟨[0x6c]⟩
    let other : Path := ⟨[0x2f, 0x6b]⟩
    t.WellFormed ∧ t.find true root = .error .tooManyLinks ∧
      checkRoot t root = .error (.root root (.inaccessible .tooManyLinks)) ∧
      walked (sourceFiles t {} root) = [] ∧
      walkEvents root (sourceFiles t {} root) =
        [.targetSkipped root.text (walkFaultText root .tooManyLinks)] ∧
      t.find true other = .ok (.file []) ∧
      checkRoot t other = .error (.root other .notDirectory) ∧
      walkEvents other (sourceFiles t {} other) = [] := by
  intro t root other
  have hwell : t.WellFormed := by
    refine Files.Tree.wellFormed_directory ?_
    simp [Node.wellFormed_directory, Node.WellFormed, Name.Valid, Name.here, Name.up, Name.point,
      Name.slash]
  have hloop : t.find true root = .error .tooManyLinks := by rfl
  have hfile : t.find true other = .ok (.file []) := by rfl
  obtain ⟨-, -, hnowhere, -, -, -⟩ := checkRoot_gates hwell root {} ({} : ScanConfig).isSource
  obtain ⟨-, -, -, -, hregular, -⟩ := checkRoot_gates hwell other {} ({} : ScanConfig).isSource
  obtain ⟨hcheck, hfiles, hevents⟩ := hnowhere .tooManyLinks hloop
  obtain ⟨hcheck', hevents'⟩ := hregular _ hfile rfl
  exact ⟨hwell, hloop, hcheck, hfiles, hevents, hfile, hcheck', hevents'⟩

/-- A root that is as long as a path can be is accepted, yet a walk tells of the directory in it. -/
theorem checkRoot_accepts_longRoot :
    let t : Tree := nestedTree []
    let root : Path := slashedRoot 4093
    t.WellFormed ∧ checkRoot t root = .ok () ∧
      walkEvents root (sourceFiles t {} root) = [shutEvent root ⟨[[0x73]], .nameTooLong⟩] ∧
      walkEvents root (sourceFiles t {} root) ≠ [] := by
  intro t root
  have hempty : (Node.directory []).WellFormed := by simp [Node.WellFormed]
  have hevents : walkEvents root (sourceFiles t {} root) =
      [shutEvent root ⟨[[0x73]], .nameTooLong⟩] := by
    rw [sourceFiles, walkEvents_filesMatching]
    exact walkEvents_nestedTree hempty
  refine ⟨nestedTree_wellFormed hempty, checkRoot_eq_ok.mpr ⟨_, _, find_nestedTree [], rfl⟩,
    hevents, ?_⟩
  rw [hevents]
  exact List.cons_ne_nil _ _

end Roots

end BackendAudit
