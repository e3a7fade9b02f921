import BackendAudit.Command.Perform
import BackendAudit.Proofs.Config.Loading
import BackendAudit.Proofs.Run.Growth
import BackendAudit.Proofs.Text.Utf8

/-!
# The first configuration of a project

The document that a project begins with says nothing new (`Config.ofText_starter`), and its file
is no target of a run with the defaults (`not_looksAt_fileName`).  So a scan tells and reports
the same before the file is created and after it (`scan_eq_of_starter`).
-/

namespace BackendAudit

open Files (Tree Node Place Path Name Attributes FreeAt GrowsAt)

namespace Config

/-! ## The document -/

theorem toList_starter :
    starter.toList = starterLines.flatMap fun line => line.toList ++ ['\n'] := by
  have hjoin (lines : List String) :
      (String.join lines).toList = lines.flatMap String.toList := by simp
  rw [starter, hjoin, List.flatMap_map]
  simp

/-- The document states the defaults. -/
theorem ofText_starter : ofText starter.toList = .ok {} := by
  have hlines : (ofText (starterLines.flatMap fun line => line.toList ++ ['\n'])).toOption =
      some {} := by decide +kernel
  rw [toList_starter]
  exact toOption_eq_some_iff.mp hlines

/-- The name of the file. -/
def fileNameBytes : Name := Name.ofString fileName

theorem fileNameBytes_valid : fileNameBytes.Valid := by decide

/-- The name of the file is none that a run with the defaults looks at. -/
theorem not_looksAt_fileName : ¬ ({} : ScanConfig).LooksAt fileNameBytes := by
  have htoml : Path.extension? ⟨fileNameBytes⟩ = some (Name.ofString "toml") := by decide
  exact ScanConfig.not_looksAt htoml (by decide) (by decide) (by decide)

/-! ## The file -/

/-- Without a file, and with one that states the defaults, a scan has the defaults. -/
theorem load_of_defaults {t : Tree} {root : Path} {dest : Place} {entries : List (Name × Node)}
    {a : Attributes} {cs : List Char} (hcs : ofText cs = .ok {}) (hroot : t.placeOf root = .ok dest)
    (hdir : t.top.at? dest = some (.directory entries a))
    (hentry : entries.lookup fileNameBytes = none ∨
      entries.lookup fileNameBytes = some (.file (Text.Utf8.encode cs))) :
    load t root {} = .ok {} := by
  have hpath : pathFor root {} = root.join (.relative [fileNameBytes]) := by
    rw [Path.relative, List.flatMap_nil, List.append_nil]
    rfl
  have hlink : ∀ target, entries.lookup fileNameBytes ≠ some (.link target) := by
    intro target heq
    rcases hentry with h | h <;> rw [h] at heq <;> cases heq
  have hplace := Tree.placeOf_join_name hroot hdir fileNameBytes_valid (by decide) hlink
  rw [load_eq_map, hpath]
  suffices hread : read t (root.join (.relative [fileNameBytes])) = .ok {} by
    rw [hread]
    rfl
  cases hdest : t.placeOf (root.join (.relative [fileNameBytes])) with
  | error fault =>
    refine read_of_not_has ?_
    rw [Tree.has, Tree.find_eq_placeOf, hdest]
    rfl
  | ok dest' =>
    -- a path that leads somewhere leads to the name in the directory
    obtain rfl : dest' = dest ++ [fileNameBytes] := by
      rw [hdest] at hplace
      split at hplace
      · cases hplace
      · split at hplace
        · exact Except.ok.inj hplace
        · cases hplace
    have hat : t.top.at? (dest ++ [fileNameBytes]) = entries.lookup fileNameBytes :=
      Node.at?_concat hdir fileNameBytes
    rcases hentry with hnone | hfile
    · refine read_of_not_has ?_
      rw [Tree.has, Tree.find_eq_placeOf, hdest]
      dsimp only
      rw [hat, hnone]
      rfl
    · have htext : t.readText (root.join (.relative [fileNameBytes])) = .ok cs := by
        rw [Tree.readText, Tree.read_eq_ok_iff.mpr ⟨_, _, hdest, hat.trans hfile, rfl⟩]
        dsimp only
        rw [Text.Utf8.decode_encode]
      rw [read_of_readText htext, hcs]
      rfl

end Config

/-! ## Scans -/

/-- A file that states the defaults, where there was none, changes no scan with them. -/
theorem scan_eq_of_defaults {t t' : Tree} (ht : t.WellFormed) {root : Path} {dest : Place}
    {entries : List (Name × Node)} {a : Attributes} (hroot : t.placeOf root = .ok dest)
    (hdir : t.top.at? dest = some (.directory entries a)) {cs : List Char}
    (hcs : Config.ofText cs = .ok {})
    (hgrows : GrowsAt (dest ++ [Config.fileNameBytes]) (Text.Utf8.encode cs) t.top t'.top)
    (hwork : t'.work = t.work) (ht' : t'.WellFormed) (w : Wording) (network : Network) :
    scan w network t' root {} = scan w network t root {} := by
  have hfound : t.find true root = .ok (.directory entries a) :=
    Tree.find_eq_ok_iff.mpr ⟨dest, hroot, hdir⟩
  obtain ⟨entries', hdir'⟩ := hgrows.exists_directory hdir
  have hroot' : t'.placeOf root = .ok dest := hgrows.placeOf_eq_ok hwork hroot
  have hcheck : checkRoot t' root = checkRoot t root := by
    rw [checkRoot_eq_placeOf, checkRoot_eq_placeOf, hroot, hroot']
    simp only [hdir, hdir']
    rfl
  have hload : Config.load t root {} = .ok {} := by
    refine Config.load_of_defaults hcs hroot hdir (.inl ?_)
    rw [← Node.at?_concat hdir, hgrows.free.at?_eq_none]
  have hload' : Config.load t' root {} = .ok {} := by
    refine Config.load_of_defaults hcs hroot' hdir' (.inr ?_)
    rw [← Node.at?_concat hdir', hgrows.file]
  have hsame : scanWith w network t root {} = scanWith w network t' root {} := by
    refine hgrows.scanWith_eq hwork ht ht' hfound ?_ network
    intro dest' _ _ below hdest' _ hbelow htarget
    obtain rfl : dest' = dest := Except.ok.inj (hdest'.symm.trans hroot')
    obtain rfl : below = [Config.fileNameBytes] := List.append_cancel_left hbelow
    obtain ⟨name, hname, hlooks⟩ := htarget.named
    obtain rfl : Config.fileNameBytes = name := Option.some.inj hname
    exact Config.not_looksAt_fileName hlooks
  simp only [scan, hcheck, hload, hload', hsame]

/-- Creating the first configuration of a project, where there is none, changes no scan with the
defaults.  A path to the free name in the directory of the root can be written if the directory is
writable, and once the file is written, what a scan of the root tells and reports is the same.  So
it is with the command that creates the file in the current directory, if this is the root. -/
theorem scan_eq_of_starter {t : Tree} (ht : t.WellFormed) {root : Path} {dest : Place}
    {entries : List (Name × Node)} {a : Attributes} (hroot : t.placeOf root = .ok dest)
    (hdir : t.top.at? dest = some (.directory entries a))
    (hfree : entries.lookup Config.fileNameBytes = none) {p : Path}
    (hp : t.placeOf p = .ok (dest ++ [Config.fileNameBytes])) :
    (a.writable = true →
      ∃ t', t.write p (Text.Utf8.encode Config.starter.toList) = .ok t') ∧
    ∀ t', t.write p (Text.Utf8.encode Config.starter.toList) = .ok t' →
      (p = .ofString Config.fileName → ∀ w force,
        (createConfig w t force).status = .returned 0 ∧ (createConfig w t force).tree = t') ∧
      ∀ w network, scan w network t' root {} = scan w network t root {} := by
  have hat : FreeAt t.top (dest ++ [Config.fileNameBytes]) :=
    .intro hdir hfree Config.fileNameBytes_valid
  have hmay : t.mayCreate (dest ++ [Config.fileNameBytes]) = a.writable :=
    Files.Tree.mayCreate_concat hdir Config.fileNameBytes
  have hput := hat.write_eq hp (Text.Utf8.encode Config.starter.toList)
  rw [hmay] at hput
  constructor
  · intro hwritable
    exact ⟨_, hput.trans (if_pos hwritable)⟩
  intro t' hwrite
  constructor
  · rintro rfl w force
    have hhas : t.has (.ofString Config.fileName) = false := by
      rw [Tree.has, Tree.find_eq_placeOf, hp]
      dsimp only
      rw [hat.at?_eq_none]
      rfl
    rw [createConfig, hhas, Bool.false_and, if_neg Bool.false_ne_true, hwrite]
    exact ⟨rfl, rfl⟩
  · rw [hwrite] at hput
    split at hput
    · cases hput
      exact scan_eq_of_defaults ht hroot hdir Config.ofText_starter (Files.growsAt_put hat _) rfl
        (hat.tree_wellFormed_put ht _)
    · cases hput

/-- A project with one script. -/
def scriptTree : Tree :=
  .directory [([0x61, 0x2e, 0x6a, 0x73], .file [0x65, 0x76, 0x61, 0x6c, 0x28])]

/-- Its first configuration, created from the project itself. -/
theorem scan_eq_of_starter_scriptTree :
    scriptTree.WellFormed ∧ scriptTree.placeOf ⟨[0x2e]⟩ = .ok [] ∧
      scriptTree.placeOf (.ofString Config.fileName) = .ok [Config.fileNameBytes] ∧
      ∃ t', (createConfig .silent scriptTree false).tree = t' ∧
        ∀ w network, scan w network t' ⟨[0x2e]⟩ {} = scan w network scriptTree ⟨[0x2e]⟩ {} := by
  have hwell : scriptTree.WellFormed := by
    refine Files.Tree.wellFormed_directory ?_
    simp [Node.wellFormed_directory, Node.WellFormed, Name.Valid, Name.here, Name.up, Name.point,
      Name.slash]
  have hroot : scriptTree.placeOf ⟨[0x2e]⟩ = .ok [] := by rfl
  have hpath : scriptTree.placeOf (.ofString Config.fileName) = .ok [Config.fileNameBytes] := by
    rfl
  obtain ⟨hwritten, hsame⟩ := scan_eq_of_starter hwell hroot rfl (by decide) hpath
  obtain ⟨t', hwrite⟩ := hwritten rfl
  obtain ⟨hcreated, hscan⟩ := hsame t' hwrite
  exact ⟨hwell, hroot, hpath, t', (hcreated rfl .silent false).2, hscan⟩

end BackendAudit
