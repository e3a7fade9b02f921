import BackendAudit.Config.Load
import BackendAudit.Proofs.Config.Document
import BackendAudit.Proofs.Run.Setup

/-!
# Loading a configuration

The settings of a run are the defaults, or those that its file states, if they are accepted
(`Config.load_states`).  The wish for a probe comes after that and changes one setting.
-/

namespace BackendAudit

open Files (Tree Path)
open Toml (Value Entries)

/-- What an accepted configuration has. -/
structure Config.Accepted (c : Config) : Prop where
  extensions : c.scan.extensions ≠ []
  workers : ∀ n, c.scan.workers = some n → 1 ≤ n
  concurrency : 1 ≤ c.probe.concurrency
  requestTimeout : 1 ≤ c.probe.requestTimeout
  runTimeout : 1 ≤ c.probe.runTimeout

namespace Config

/-- The configuration with its probe enabled, if that is wanted. -/
def withProbe (wanted : Bool) (c : Config) : Config :=
  if wanted then { c with probe := { c.probe with enabled := true } } else c

theorem accepted_iff {c : Config} : c.Accepted ↔ c.check = .ok c := by
  rw [check_eq_ok_iff, fault?]
  constructor
  · rintro ⟨hextensions, hworkers, hconcurrency, hrequest, hrun⟩
    have hzero : c.scan.workers ≠ some 0 := fun h => absurd (hworkers 0 h) (by omega)
    rw [if_neg hextensions, if_neg hzero, if_neg (by omega), if_neg (by omega)]
  · intro h
    split at h
    · cases h
    · rename_i hextensions
      split at h
      · cases h
      · rename_i hworkers
        split at h
        · cases h
        · split at h
          · cases h
          · refine ⟨hextensions, fun n hn => ?_, by omega, by omega, by omega⟩
            exact Nat.one_le_iff_ne_zero.mpr fun hzero => hworkers (hzero ▸ hn)

section Load

variable {t : Tree} {root : Path} {options : Options}

theorem has_of_readText {path : Path} {cs : List Char} (h : t.readText path = .ok cs) :
    t.has path = true := by
  rw [Tree.has]
  cases hfind : t.find true path with
  | ok n => rfl
  | error fault =>
    rw [Tree.readText, Tree.read, hfind] at h
    cases h

theorem read_of_not_has {path : Path} (h : t.has path = false) : read t path = .ok {} := by
  rw [read, h]
  rfl

theorem read_of_readText {path : Path} {cs : List Char} (h : t.readText path = .ok cs) :
    read t path = (ofText cs).bind check := by
  simp only [read, has_of_readText h, h, Bool.not_true, Bool.false_eq_true, if_false]
  cases ofText cs <;> rfl

theorem load_eq_map :
    load t root options = (read t (pathFor root options)).map (withProbe options.probe) := rfl

theorem load_eq_of_readText {cs : List Char} (h : t.readText (pathFor root options) = .ok cs) :
    load t root options = ((ofText cs).bind check).map (withProbe options.probe) := by
  rw [load_eq_map, read_of_readText h]

theorem ofText_of_parse {cs : List Char} {document : Entries} {c : Config}
    (h : Toml.parse? cs = some document) : ofText cs = .ok c ↔ ofDocument document = .ok c := by
  simp only [ofText, h]
  cases ofDocument document <;> simp

/-- A text states the configuration of its document. -/
theorem ofText_eq_ok_iff {cs : List Char} {c : Config} :
    ofText cs = .ok c ↔
      ∃ document, Toml.parse? cs = some document ∧ c.StatedBy document := by
  cases hparse : Toml.parse? cs with
  | none => simp [ofText, hparse]
  | some document =>
    rw [ofText_of_parse hparse, ofDocument_eq_ok_iff (Toml.parse?_distinct hparse)]
    simp

theorem map_withProbe_eq_ok_iff {x : Except AuditError Config} {wanted : Bool} {c : Config} :
    x.map (withProbe wanted) = .ok c ↔ ∃ stated, x = .ok stated ∧ c = withProbe wanted stated := by
  cases x <;> simp [Except.map, eq_comm]

theorem bind_check_eq_ok_iff {x : Except AuditError Config} {c : Config} :
    x.bind check = .ok c ↔ x = .ok c ∧ c.Accepted := by
  cases x with
  | error e => simp [Except.bind]
  | ok stated =>
    change stated.check = .ok c ↔ _
    rw [accepted_iff]
    constructor
    · intro h
      obtain rfl := eq_of_check h
      exact ⟨rfl, h⟩
    · rintro ⟨heq, h⟩
      cases heq
      exact h

end Load

/-! ## All about loading -/

/-- What the settings of a run are. -/
structure LoadsWhatIsStated (t : Tree) (root : Path) (options : Options) : Prop where
  /-- Without a file they are the defaults. -/
  missing : t.has (pathFor root options) = false →
    load t root options = .ok (withProbe options.probe {})
  /-- A file that is no text gives none. -/
  unreadable : ∀ fault, t.has (pathFor root options) = true →
    t.readText (pathFor root options) = .error fault → load t root options = .error (.file fault)
  /-- A text gives what its document states, if it has one and that is accepted. -/
  stated : ∀ cs, t.readText (pathFor root options) = .ok cs → ∀ c,
    (load t root options = .ok c ↔ ∃ document stated, Toml.parse? cs = some document ∧
      stated.StatedBy document ∧ stated.Accepted ∧ c = withProbe options.probe stated)
  /-- A document with other keys that are no settings, in another place, gives the same. -/
  known : ∀ cs document, t.readText (pathFor root options) = .ok cs →
    Toml.parse? cs = some document →
    ∀ (t' : Tree) (root' : Path) (options' : Options) (cs' : List Char) (document' : Entries),
      t'.readText (pathFor root' options') = .ok cs' → Toml.parse? cs' = some document' →
      options'.probe = options.probe → knownPart document' = knownPart document →
      load t' root' options' = load t root options
  /-- So does one with its keys in another order, if the first gives anything. -/
  ordered : ∀ cs document, t.readText (pathFor root options) = .ok cs →
    Toml.parse? cs = some document →
    ∀ (t' : Tree) (root' : Path) (options' : Options) (cs' : List Char) (document' : Entries),
      t'.readText (pathFor root' options') = .ok cs' → Toml.parse? cs' = some document' →
      options'.probe = options.probe →
      Value.SameButOrder (.table .named document) (.table .named document') →
      ∀ c, load t root options = .ok c → load t' root' options' = .ok c
  /-- The wish for a probe changes whether it is enabled, and nothing else. -/
  probe : load t root { options with probe := true } =
    (load t root { options with probe := false }).map fun c =>
      { c with probe := { c.probe with enabled := true } }

/-- The settings of a run are stated by its file, each by itself, and nothing else in the file
matters. -/
theorem load_states (t : Tree) (root : Path) (options : Options) :
    LoadsWhatIsStated t root options := by
  constructor
  case missing =>
    intro h
    rw [load_eq_map, read_of_not_has h]
    rfl
  case unreadable =>
    intro fault hhas h
    rw [load_eq_map, read, hhas, h]
    rfl
  case stated =>
    intro cs h c
    rw [load_eq_of_readText h, map_withProbe_eq_ok_iff]
    simp only [bind_check_eq_ok_iff, ofText_eq_ok_iff]
    constructor
    · rintro ⟨stated, ⟨⟨document, hparse, hstated⟩, haccepted⟩, hc⟩
      exact ⟨document, stated, hparse, hstated, haccepted, hc⟩
    · rintro ⟨document, stated, hparse, hstated, haccepted, hc⟩
      exact ⟨stated, ⟨⟨document, hparse, hstated⟩, haccepted⟩, hc⟩
  case known =>
    intro cs document h hparse t' root' options' cs' document' h' hparse' hprobe hknown
    have hread : ofDocument document' = ofDocument document := by
      rw [← ofDocument_knownPart document', hknown, ofDocument_knownPart]
    have htext : ofText cs' = ofText cs := by
      simp only [ofText, hparse, hparse', hread]
    rw [load_eq_of_readText h, load_eq_of_readText h', hprobe, htext]
  case ordered =>
    intro cs document h hparse t' root' options' cs' document' h' hparse' hprobe horder c hc
    rw [load_eq_of_readText h, map_withProbe_eq_ok_iff] at hc
    obtain ⟨stated, hstated, rfl⟩ := hc
    rw [bind_check_eq_ok_iff, ofText_of_parse hparse] at hstated
    rw [load_eq_of_readText h', map_withProbe_eq_ok_iff, hprobe]
    refine ⟨stated, bind_check_eq_ok_iff.mpr ⟨(ofText_of_parse hparse').mpr ?_, hstated.2⟩, rfl⟩
    exact ofDocument_of_sameButOrder (Toml.parse?_distinct hparse) horder hstated.1
  case probe =>
    rw [load_eq_map, load_eq_map]
    change (read t (pathFor root options)).map _ = ((read t (pathFor root options)).map _).map _
    cases read t (pathFor root options) <;> rfl

end Config
end BackendAudit
