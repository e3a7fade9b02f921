import BackendAudit.Proofs.Files.Growth
import BackendAudit.Proofs.Run.Targets
import BackendAudit.Run.Scan

/-!
# Runs next to a file that was added

A file that no phase looks at may be added to a tree before a run: the run is the same
(`GrowsAt.scanWith_eq`).  What a run says of its root may be different, if the root leads
through the place of the file (`GrowsAt.checkRoot_cases`).
-/

namespace BackendAudit

open Files (Tree Node Place Path Name Attributes Shut SameWay GrowsAt)

/-- A name with an extension that is not scanned is none that counts, unless it is that of a
manifest or of an environment file. -/
theorem ScanConfig.not_looksAt {c : ScanConfig} {name extension : Name}
    (hextension : Path.extension? ⟨name⟩ = some extension)
    (hsource : ∀ e ∈ c.extensions,
      Text.lowercase e.toList ≠ Text.lowercase (Text.Utf8.lossy extension))
    (hmanifest : name ≠ Name.ofString "package.json")
    (henv : ¬ ".env".toList <+: Text.Utf8.lossy name) : ¬ c.LooksAt name := by
  rintro (⟨other, hother, e, he, hlower⟩ | h | h)
  · obtain rfl := Option.some.inj (hother.symm.trans hextension)
    exact hsource e he hlower
  · exact hmanifest h
  · exact henv h

section Way

variable {c : ScanConfig} {root : Path} {n n' : Node}

/-- The directories on a way with nodes of the same kinds are entered alike. -/
theorem ScanConfig.Enters.of_sameWay {names : Place} (henters : c.Enters root n names)
    (h : SameWay n n' names) : c.Enters root n' names where
  named := henters.named
  followed place hplace :=
    ⟨(henters.followed place hplace).1,
      (h.front hplace).permits (henters.followed place hplace).2⟩
  listed place _ _ hplace hat := by
    obtain ⟨m, hm, hkind⟩ := (h.symm.front hplace).exists_at? hat
    cases m <;> cases hkind
    exact henters.listed place _ _ hplace hm

/-- At the end of a way with nodes of the same kinds, the same directory cannot be listed. -/
theorem ScanConfig.Shuts.of_sameWay {s : Shut} (hshut : c.Shuts root n s)
    (h : SameWay n n' s.place) : c.Shuts root n' s where
  directory := by
    obtain ⟨inner, a, hat⟩ := hshut.directory
    obtain ⟨m, hm, hkind⟩ := h.exists_at? hat
    cases m <;> cases hkind
    exact ⟨_, _, hm⟩
  named := hshut.named
  reached hne := (hshut.reached hne).of_sameWay (h.front (List.dropLast_prefix _))
  refused := (h.listFaultAt?_eq root).symm.trans hshut.refused

end Way

/-- Below a root that is the same to a run in two trees, a configuration has the same run with its
own probe. -/
theorem scanWith_congr {w : Wording} {t t' : Tree} {root : Path}
    {entries entries' : List (Name × Node)} {a a' : Attributes} (ht : t.WellFormed)
    (ht' : t'.WellFormed) (hroot : t.find true root = .ok (.directory entries a))
    (hroot' : t'.find true root = .ok (.directory entries' a')) {c : Config}
    (hsame : c.scan.SameBelow root (.directory entries a) (.directory entries' a'))
    (network : Network) : scanWith w network t root c = scanWith w network t' root c := by
  have hcheck := checkRoot_congr hroot hroot' hsame
  have hrun (probe : Option Probe) : run w t root c probe = run w t' root c probe :=
    run_congr ht ht' hroot hroot' hsame probe
  have hpanicked : runPanicked w t root c = runPanicked w t' root c := by
    rw [runPanicked, runPanicked, prepare_congr hcheck]
    simp only [filePhases_congr ht ht' hroot hroot' hsame]
  simp only [scanWith, hcheck, runReturned, hrun, hpanicked]

/-- What is said of a root goes by what is at its place. -/
theorem checkRoot_eq_placeOf (t : Tree) (root : Path) :
    checkRoot t root =
      match t.placeOf root with
      | .error fault => .error (.root root (.inaccessible fault))
      | .ok place =>
        match t.top.at? place with
        | none => .error (.root root (.inaccessible .notFound))
        | some n =>
          if !n.isDirectory then .error (.root root .notDirectory)
          else
            match n.listFault? with
            | some fault => .error (.root root (.inaccessible fault))
            | none => .ok () := by
  rw [checkRoot, Tree.listFault?, Tree.find_eq_placeOf]
  cases t.placeOf root with
  | error fault => rfl
  | ok place =>
    dsimp only
    cases t.top.at? place <;> rfl

/-! ## A file that was added -/

namespace Files.GrowsAt

variable {w : Wording} {place dest : Place} {content : List UInt8} {t t' : Tree} {root : Path}
  {entries entries' : List (Name × Node)} {a : Attributes}

/-- What was in a directory is not at the place of the file. -/
theorem ne_place_below (h : GrowsAt place content t.top t'.top)
    (hdir : t.top.at? dest = some (.directory entries a)) {below : Place} {n : Node}
    (hat : (Node.directory entries a).at? below = some n) : dest ++ below ≠ place :=
  h.ne_place ((Node.at?_below hdir below).symm.trans hat)

/-- The way to what was there is as before. -/
theorem sameWay (h : GrowsAt place content t.top t'.top)
    (hdir : t.top.at? dest = some (.directory entries a))
    (hdir' : t'.top.at? dest = some (.directory entries' a)) {below : Place} {n : Node}
    (hat : (Node.directory entries a).at? below = some n) :
    SameWay (.directory entries a) (.directory entries' a) below := by
  rintro above ⟨rest, rfl⟩
  obtain ⟨m, hm, -⟩ := Option.bind_eq_some_iff.mp ((Node.at?_append _ above rest).symm.trans hat)
  have hkind := h.kinds _ (h.ne_place_below hdir hm)
  rw [Node.at?_below hdir, Node.at?_below hdir']
  exact hkind.symm

/-- Files at other places than that of the file were there, and are still there. -/
theorem file_below_iff (h : GrowsAt place content t.top t'.top)
    (hdir : t.top.at? dest = some (.directory entries a))
    (hdir' : t'.top.at? dest = some (.directory entries' a)) {below : Place}
    (hne : dest ++ below ≠ place) {bytes : List UInt8} {b : Attributes} :
    (Node.directory entries' a).at? below = some (.file bytes b) ↔
      (Node.directory entries a).at? below = some (.file bytes b) := by
  rw [Node.at?_below hdir, Node.at?_below hdir']
  exact h.files _ hne bytes b

/-- There are the same targets if the file is none. -/
theorem target_iff (h : GrowsAt place content t.top t'.top) {c : ScanConfig}
    (hdir : t.top.at? dest = some (.directory entries a))
    (hdir' : t'.top.at? dest = some (.directory entries' a))
    (hno : ∀ below, dest ++ below = place →
      ¬ c.Target root (.directory entries' a) below content) (below : Place)
    (bytes : List UInt8) :
    c.Target root (.directory entries a) below bytes ↔
      c.Target root (.directory entries' a) below bytes := by
  constructor
  · rintro ⟨⟨b, hat⟩, hreached, hnamed⟩
    have hway := h.sameWay hdir hdir' hat
    exact ⟨⟨b, (h.file_below_iff hdir hdir' (h.ne_place_below hdir hat)).mpr hat⟩,
      hreached.of_sameWay (hway.front (List.dropLast_prefix below)), hnamed⟩
  · rintro ⟨⟨b, hat⟩, hreached, hnamed⟩
    by_cases hplace : dest ++ below = place
    · have hcontent : (Node.directory entries' a).at? below = some (.file content) := by
        rw [Node.at?_below hdir', hplace, h.file]
      cases hcontent.symm.trans hat
      exact absurd ⟨⟨_, hat⟩, hreached, hnamed⟩ (hno below hplace)
    · have hat' := (h.file_below_iff hdir hdir' hplace).mp hat
      have hway := (h.sameWay hdir hdir' hat').symm
      exact ⟨⟨b, hat'⟩, hreached.of_sameWay (hway.front (List.dropLast_prefix below)), hnamed⟩

/-- The same directories cannot be listed. -/
theorem shuts_iff (h : GrowsAt place content t.top t'.top) {c : ScanConfig}
    (hdir : t.top.at? dest = some (.directory entries a))
    (hdir' : t'.top.at? dest = some (.directory entries' a)) (s : Shut) :
    c.Shuts root (.directory entries a) s ↔ c.Shuts root (.directory entries' a) s := by
  constructor
  · intro hshut
    obtain ⟨inner, b, hat⟩ := hshut.directory
    exact hshut.of_sameWay (h.sameWay hdir hdir' hat)
  · intro hshut
    obtain ⟨inner, b, hat⟩ := hshut.directory
    rw [Node.at?_below hdir'] at hat
    have hne : dest ++ s.place ≠ place := by
      intro hplace
      rw [hplace, h.file] at hat
      cases hat
    obtain ⟨inner', hat'⟩ := (h.directory_iff hne).mp ⟨inner, hat⟩
    rw [← Node.at?_below hdir] at hat'
    exact hshut.of_sameWay (h.sameWay hdir hdir' hat').symm

/-- To a run the directories are the same if the file that was added is no target. -/
theorem sameBelow (h : GrowsAt place content t.top t'.top) {c : ScanConfig}
    (hdir : t.top.at? dest = some (.directory entries a))
    (hdir' : t'.top.at? dest = some (.directory entries' a))
    (hno : ∀ below, dest ++ below = place →
      ¬ c.Target root (.directory entries' a) below content) :
    c.SameBelow root (.directory entries a) (.directory entries' a) where
  targets := h.target_iff hdir hdir' hno
  access := by
    rintro below bytes ⟨⟨b, hat⟩, -, -⟩
    refine ⟨(h.sameWay hdir hdir' hat).faultAt?_eq root, ?_⟩
    have hat' := (h.file_below_iff hdir hdir' (h.ne_place_below hdir hat)).mpr hat
    rw [Node.readable_iff hat, Node.readable_iff hat']
  shut := h.shuts_iff hdir hdir'

/-- Where a root leads to a directory, it does so with the file. -/
theorem exists_root (h : GrowsAt place content t.top t'.top) (hwork : t'.work = t.work)
    (hroot : t.find true root = .ok (.directory entries a)) :
    ∃ dest entries', t.placeOf root = .ok dest ∧
      t.top.at? dest = some (.directory entries a) ∧
      t'.top.at? dest = some (.directory entries' a) ∧
      t'.find true root = .ok (.directory entries' a) := by
  obtain ⟨dest, hdest, hdir⟩ := Tree.find_eq_ok_iff.mp hroot
  obtain ⟨entries', hdir'⟩ := h.exists_directory hdir
  exact ⟨dest, entries', hdest, hdir, hdir',
    Tree.find_eq_ok_iff.mpr ⟨dest, h.placeOf_eq_ok hwork hdest, hdir'⟩⟩

/-- A run is the same next to a file that no phase looks at. -/
theorem scanWith_eq (h : GrowsAt place content t.top t'.top) (hwork : t'.work = t.work)
    (ht : t.WellFormed) (ht' : t'.WellFormed)
    (hroot : t.find true root = .ok (.directory entries a)) {c : Config}
    (hno : ∀ dest entries' a' below, t'.placeOf root = .ok dest →
      t'.top.at? dest = some (.directory entries' a') → dest ++ below = place →
      ¬ c.scan.Target root (.directory entries' a') below content) (network : Network) :
    scanWith w network t root c = scanWith w network t' root c := by
  obtain ⟨dest, entries', hdest, hdir, hdir', hroot'⟩ := h.exists_root hwork hroot
  refine scanWith_congr ht ht' hroot hroot' (h.sameBelow hdir hdir' fun below hbelow => ?_) network
  exact hno dest entries' a below (h.placeOf_eq_ok hwork hdest) hdir' hbelow

/-- A root is accepted or refused as before, unless it is missing and leads to the file or on
from there: then it is there now, and no directory, or it goes on from what is none. -/
theorem checkRoot_cases (h : GrowsAt place content t.top t'.top) (hwork : t'.work = t.work)
    (root : Path) :
    checkRoot t' root = checkRoot t root ∨
      (checkRoot t root = .error (.root root (.inaccessible .notFound)) ∧
        ∃ fault, (fault = .notDirectory ∨ fault = .inaccessible .notDirectory) ∧
          checkRoot t' root = .error (.root root fault)) := by
  rw [checkRoot_eq_placeOf, checkRoot_eq_placeOf]
  rcases h.placeOf_cases hwork root with heq | ⟨hmissing, hstopped⟩
  · rw [heq]
    cases t.placeOf root with
    | error fault => exact .inl rfl
    | ok dest =>
      by_cases hdest : dest = place
      · subst hdest
        dsimp only
        rw [h.file, h.free.at?_eq_none]
        exact .inr ⟨rfl, _, .inl rfl, rfl⟩
      · left
        have hkind := h.kinds dest hdest
        dsimp only
        cases hat : t.top.at? dest with
        | none =>
          rw [hat] at hkind
          rw [Option.map_eq_none_iff.mp hkind]
        | some n =>
          rw [hat] at hkind
          obtain ⟨n', hn', hkind⟩ := Option.map_eq_some_iff.mp hkind
          rw [hn']
          cases n <;> cases n' <;> cases hkind <;> rfl
  · rw [hmissing, hstopped]
    exact .inr ⟨rfl, _, .inr rfl, rfl⟩

end Files.GrowsAt
end BackendAudit
