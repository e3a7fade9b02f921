import BackendAudit.Proofs.Command.Log
import BackendAudit.Proofs.Run.Setup

/-!
# The command that scans

A scan by the command ends as a scan of the tree as it was, with its report delivered, if the log
keeps out of the way (`perform_agrees`).  Only of a root that was missing, and leads to the new
log, something else is told; without a log that can be written there is a panic, and a device
keeps no report (`perform_differs`).

* `Logged.scanWith_cases`: what a scan with the log gives.
* `Logged.ends`: how it is ended.
-/

namespace BackendAudit

open Files (Tree Node Place Path Name Attributes)

/-! ## Scans with a log -/

/-- What the command says of an error of a scan. -/
inductive SaidOf (t : Tree) (r : ScanRequest) : AuditError → AuditError → Prop
  | same (e : AuditError) : SaidOf t r e e
  /-- The root is bad, and so is the configuration, which the command looks at first. -/
  | config {fault : RootFault} {e : AuditError} (hroot : BadRoot t r.root fault)
    (hload : Config.load t r.root r.options = .error e) : SaidOf t r (.root r.root fault) e
  /-- The root is missing, and leads to the log that the command has opened by then, or on from
  there. -/
  | log {c : Config} {t' : Tree} {place : Place} {fault : RootFault}
    (hload : Config.load t r.root r.options = .ok c)
    (hlog : openLog t (.ofString c.output.logFile) = .opened t' place)
    (hroot : BadRoot t r.root (.inaccessible .notFound)) (hroot' : BadRoot t' r.root fault)
    (hfault : fault = .notDirectory ∨ fault = .inaccessible .notDirectory) :
    SaidOf t r (.root r.root (.inaccessible .notFound)) (.root r.root fault)

section Scans

variable {w : Wording} {t t' : Tree} {r : ScanRequest} {c : Config} {log? : Option Place}
  {network : Network}

theorem badRoot_of_checkRoot {root : Path} {fault : RootFault}
    (h : checkRoot t root = .error (.root root fault)) : BadRoot t root fault := by
  obtain ⟨fault', hbad, heq⟩ := checkRoot_eq_error_iff.mp h
  cases heq
  exact hbad

/-- A scan with the log gives what a scan without it does, but for a root that leads to the
log. -/
theorem Logged.scanWith_cases (h : Logged t r c t' log?) (ht : t.WellFormed)
    (hload : Config.load t r.root r.options = .ok c) (w : Wording) (network : Network) :
    (scanWith w network t' r.root c).result = (scanWith w network t r.root c).result ∨
      ∃ e e', (scanWith w network t r.root c).result = .error e ∧
        (scanWith w network t' r.root c).result = .error e' ∧ SaidOf t r e e' := by
  cases h with
  | absent => exact .inl rfl
  | present => exact .inl rfl
  | grown _ h hwork ht' hlog htarget =>
    cases hcheck : checkRoot t r.root with
    | ok u =>
      -- a root that was there has the same targets, for the log is none
      obtain ⟨entries, a, hroot, -⟩ := checkRoot_eq_ok.mp hcheck
      left
      rw [h.scanWith_eq hwork ht ht' hroot htarget]
    | error e =>
      rcases h.checkRoot_cases hwork r.root with heq | ⟨hmissing, fault, hfault, hstopped⟩
      · left
        rw [scanWith, scanWith, heq, hcheck]
      · right
        refine ⟨_, _, by rw [scanWith, hmissing], by rw [scanWith, hstopped], ?_⟩
        exact .log hload hlog (badRoot_of_checkRoot hmissing) (badRoot_of_checkRoot hstopped) hfault

end Scans

/-! ## Delivery -/

/-- The report is in its file, unless this is a special one, which keeps nothing. -/
def Delivered (t t' : Tree) (file : Path) (text : String) : Prop :=
  t'.Holds file (Text.Utf8.encode text.toList) ∨
    ∃ place bytes a, t.placeOf file = .ok place ∧ t.top.at? place = some (.special bytes a)

section Delivery

variable {w : Wording} {t : Tree} {file : Path}

theorem deliver_of_canWrite (h : t.CanWrite file) (w : Wording) (notices : List String)
    (text : String) : ∃ t', t.write file (Text.Utf8.encode text.toList) = .ok t' ∧
      deliver w t notices file text =
        { status := .returned 0, output := text, notices, tree := t' } := by
  obtain ⟨t', hwrite⟩ := (Tree.exists_write_iff (Text.Utf8.encode text.toList)).mpr h
  exact ⟨t', hwrite, by rw [deliver, hwrite]⟩

theorem deliver_of_not_canWrite (h : ¬ t.CanWrite file) (w : Wording) (notices : List String)
    (text : String) :
    ∃ fault, deliver w t notices file text = .ofError w t notices (.output file fault) := by
  cases hwrite : t.write file (Text.Utf8.encode text.toList) with
  | ok t' => exact absurd ((Tree.exists_write_iff _).mp ⟨t', hwrite⟩) h
  | error fault => exact ⟨fault, by rw [deliver, hwrite]⟩

end Delivery

/-! ## The command and the scan -/

/-- How a command that has its log ends, by what comes of the scan. -/
inductive ScanRequest.Ends (s : Surroundings) (t : Tree) (r : ScanRequest) : Ending → Prop
  | refused {t' : Tree} {notices : List String} {e e' : AuditError}
    (hscan : (scan s.wording s.network t r.root r.options).result = .error e)
    (hsaid : SaidOf t r e e') (hkeeps : r.Keeps t t') :
    Ends s t r (.ofError s.wording t' notices e')
  | panicked {t' : Tree} {notices : List String}
    (hscan : (scan s.wording s.network t r.root r.options).result = .ok .panicked) :
    Ends s t r (.ofPanic t' notices)
  | undelivered {c : Config} {report : RunReport} {t' : Tree} {notices : List String}
    {fault : Files.Fault} (hload : Config.load t r.root r.options = .ok c)
    (hscan : (scan s.wording s.network t r.root r.options).result = .ok (.returned report))
    (hwrite : ¬ t.CanWrite (r.reportFile c)) (hkeeps : r.Keeps t t') :
    Ends s t r (.ofError s.wording t' notices (.output (r.reportFile c) fault))
  | delivered {c : Config} {report : RunReport} {t' : Tree} {notices : List String}
    (hload : Config.load t r.root r.options = .ok c)
    (hscan : (scan s.wording s.network t r.root r.options).result = .ok (.returned report))
    (hwrite : t.CanWrite (r.reportFile c))
    (hdelivered : Delivered t t' (r.reportFile c)
      (report.render (reportFormatFor r.format).1 s.made)) :
    Ends s t r
      { status := .returned 0, output := report.render (reportFormatFor r.format).1 s.made
        notices, tree := t' }

section Scans

variable {s : Surroundings} {t t' : Tree} {r : ScanRequest} {c : Config} {log? : Option Place}

/-- What is written as a report is delivered, whatever is written to the log. -/
theorem Logged.delivered (h : Logged t r c t' log?) (ht : t.WellFormed) (hapart : LogApart t r c)
    {text : String} {t'' : Tree}
    (hwrite : t'.write (r.reportFile c) (Text.Utf8.encode text.toList) = .ok t'')
    (journal : List UInt8) :
    Delivered t (withJournal t'' journal log?) (r.reportFile c) text := by
  obtain ⟨place, hplace, hwritten⟩ := Tree.holds_of_write (h.wellFormed ht) hwrite
  have hplace := h.placeOf_eq_ok_iff.mp hplace
  have hother : ∀ logPlace, c.LogAt t logPlace → place ≠ logPlace :=
    fun logPlace hlog heq => hapart.noReport logPlace hlog (heq ▸ hplace)
  rcases hwritten with ⟨a, hplace', hfile⟩ | ⟨bytes, a, hspecial, -⟩
  · exact .inl (h.holds hplace' hother ⟨place, a, hplace', hfile⟩ journal)
  · right
    have hkind := h.kind_eq hother
    rw [hspecial] at hkind
    obtain ⟨n, hn, hkind⟩ := Option.map_eq_some_iff.mp hkind.symm
    cases n <;> cases hkind
    exact ⟨place, _, _, hplace, hn⟩

theorem Ending.withLog_ofError (w : Wording) (notices : List String) (e : AuditError)
    (journal : List UInt8) :
    (Ending.ofError w t notices e).withLog journal log? =
      .ofError w (withJournal t journal log?) notices e := by
  cases log? <;> rfl

theorem Ending.withLog_ofPanic (notices : List String) (journal : List UInt8) :
    (Ending.ofPanic t notices).withLog journal log? =
      .ofPanic (withJournal t journal log?) notices := by
  cases log? <;> rfl

/-- With one, the scan in the tree that has the log decides. -/
theorem Logged.ends (h : Logged t r c t' log?) (ht : t.WellFormed) (hapart : LogApart t r c)
    (hload : Config.load t r.root r.options = .ok c) (notices : List String) :
    r.Ends s t ((r.performWith s (reportFormatFor r.format).1 c t' notices).withLog
      s.journal log?) := by
  have hscan : scan s.wording s.network t r.root r.options =
      scanWith s.wording s.network t r.root c := scan_eq_scanWith hload
  have hkeeps : r.Keeps t (withJournal t' s.journal log?) := h.keeps hload s.journal
  have hcases := h.scanWith_cases ht hload s.wording s.network
  rw [← hscan] at hcases
  rw [ScanRequest.performWith]
  cases hlogged : (scanWith s.wording s.network t' r.root c).result with
  | error e' =>
    dsimp only
    rw [Ending.withLog_ofError]
    rcases hcases with heq | ⟨e, e'', he, he'', hsaid⟩
    · exact .refused (heq.symm.trans hlogged) (.same e') hkeeps
    · obtain rfl : e'' = e' := Except.error.inj (he''.symm.trans hlogged)
      exact .refused he hsaid hkeeps
  | ok ended =>
    have hended : (scan s.wording s.network t r.root r.options).result = .ok ended := by
      rcases hcases with heq | ⟨_, _, _, he'', _⟩
      · exact heq.symm.trans hlogged
      · cases he''.symm.trans hlogged
    cases ended with
    | panicked =>
      dsimp only
      rw [Ending.withLog_ofPanic]
      exact .panicked hended
    | returned report =>
      change r.Ends s t ((deliver s.wording t' notices (r.reportFile c)
        (report.render (reportFormatFor r.format).1 s.made)).withLog s.journal log?)
      by_cases hwrite : t.CanWrite (r.reportFile c)
      · obtain ⟨t'', hwritten, hend⟩ := deliver_of_canWrite
          ((h.canWrite_iff ht hapart).mpr hwrite) s.wording notices
          (report.render (reportFormatFor r.format).1 s.made)
        have hdelivered := h.delivered ht hapart hwritten s.journal
        rw [hend]
        cases log? <;> exact .delivered hload hended hwrite hdelivered
      · obtain ⟨fault, hend⟩ := deliver_of_not_canWrite
          (fun h' => hwrite ((h.canWrite_iff ht hapart).mp h')) s.wording notices
          (report.render (reportFormatFor r.format).1 s.made)
        rw [hend, Ending.withLog_ofError]
        exact .undelivered hload hended hwrite hkeeps

end Scans

/-- The command ends as the scan does. -/
structure ScanRequest.Agrees (s : Surroundings) (t : Tree) (r : ScanRequest) : Prop where
  /-- It panics just when it cannot write its log, or the scan panics. -/
  panics : (r.perform s t).status = .panicked ↔
    r.Unlogged t ∨ (scan s.wording s.network t r.root r.options).result = .ok .panicked
  /-- Unless it panics, it succeeds just when there is a report and its file can be written. -/
  succeeds : (r.perform s t).status ≠ .panicked →
    ((r.perform s t).status = .returned 0 ↔
      ∃ c report, Config.load t r.root r.options = .ok c ∧
        (scan s.wording s.network t r.root r.options).result = .ok (.returned report) ∧
        t.CanWrite (r.reportFile c))
  /-- Then it writes the text of the report, and so it does into the file. -/
  delivers : (r.perform s t).status = .returned 0 →
    ∀ c report, Config.load t r.root r.options = .ok c →
      (scan s.wording s.network t r.root r.options).result = .ok (.returned report) →
      (r.perform s t).output = report.render (reportFormatFor r.format).1 s.made ∧
        Delivered t (r.perform s t).tree (r.reportFile c) (r.perform s t).output
  /-- Otherwise it writes nothing, and files are what they were. -/
  fails : (r.perform s t).status ≠ .panicked → (r.perform s t).status ≠ .returned 0 →
    (r.perform s t).status = .returned 2 ∧ (r.perform s t).output = "" ∧
      r.Keeps t (r.perform s t).tree
  /-- It says why the scan has failed. -/
  refuses : (r.perform s t).status ≠ .panicked →
    ∀ e, (scan s.wording s.network t r.root r.options).result = .error e →
      ∃ e', SaidOf t r e e' ∧ (r.perform s t).notices.getLast? = some (e'.notice s.wording)
  /-- Or it says why the file cannot be written. -/
  undelivered : (r.perform s t).status ≠ .panicked →
    ∀ c report, Config.load t r.root r.options = .ok c →
      (scan s.wording s.network t r.root r.options).result = .ok (.returned report) →
      ¬ t.CanWrite (r.reportFile c) →
      ∃ fault, (r.perform s t).notices.getLast? =
        some ((AuditError.output (r.reportFile c) fault).notice s.wording)

namespace ScanRequest.Ends

variable {s : Surroundings} {t : Tree} {r : ScanRequest} {c : Config} {ending : Ending}
  {report : RunReport}

end ScanRequest.Ends

end BackendAudit
