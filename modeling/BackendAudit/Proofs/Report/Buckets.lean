import BackendAudit.Report.Results
import BackendAudit.Proofs.StableSort
import Mathlib.Algebra.GroupWithZero.Nat
import Mathlib.Data.List.Forall2
import Mathlib.Data.List.Perm.Basic

/-!
# Reports keep all findings

A report is made by three passes over the results: one counts, one picks the groups with
findings, and one goes through a group once for each severity.  The buckets of a group,
one behind the other, are its findings in a stable sort (`flatMap_bucketsOf`), and the
counts are the sizes of the buckets (`Report.ofResults_accounts`).
-/

namespace BackendAudit

/-! ## Findings in the order of a report -/

/-- Whether a finding is at least as severe as another. -/
def Finding.atLeast (a b : Finding) : Bool :=
  decide (b.severity.rank ≤ a.severity.rank)

/-- The findings of one severity. -/
def ofSeverity (s : Severity) (fs : List Finding) : List Finding :=
  fs.filter fun f => f.severity = s

theorem ofSeverity_cons (s : Severity) (f : Finding) (fs : List Finding) :
    ofSeverity s (f :: fs) = if f.severity = s then f :: ofSeverity s fs else ofSeverity s fs := by
  simp [ofSeverity, List.filter_cons]

/-- The findings from the most severe to the least; those of one severity keep their
order. -/
def bySeverity (fs : List Finding) : List Finding :=
  fs.mergeSort Finding.atLeast

theorem Finding.atLeast_trans (a b c : Finding) (hab : a.atLeast b = true)
    (hbc : b.atLeast c = true) : a.atLeast c = true := by
  simp only [Finding.atLeast, decide_eq_true_eq] at *
  omega

theorem Finding.atLeast_total (a b : Finding) : (a.atLeast b || b.atLeast a) = true := by
  simp only [Finding.atLeast, Bool.or_eq_true, decide_eq_true_eq]
  omega

theorem bySeverity_pairwise (fs : List Finding) :
    (bySeverity fs).Pairwise fun a b => a.atLeast b = true :=
  List.pairwise_mergeSort Finding.atLeast_trans Finding.atLeast_total fs

/-- Sorting keeps the order of the findings of one severity. -/
theorem ofSeverity_bySeverity (s : Severity) (fs : List Finding) :
    ofSeverity s (bySeverity fs) = ofSeverity s fs := by
  refine filter_mergeSort Finding.atLeast_trans Finding.atLeast_total (fun a b ha hb => ?_) fs
  simp only [decide_eq_true_eq] at ha hb
  simp [Finding.atLeast, ha, hb]

/-- A finding that is as severe as all others is the first that the severities give, one
after the other, if the most severe come first. -/
theorem flatMap_ofSeverity_cons {f : Finding} {rest : List Finding} {order : List Severity}
    (horder : order.Pairwise fun a b => b.rank < a.rank) (hmem : f.severity ∈ order)
    (hf : ∀ g ∈ rest, f.atLeast g = true) :
    (order.flatMap fun s => ofSeverity s (f :: rest)) =
      f :: order.flatMap fun s => ofSeverity s rest := by
  induction order with
  | nil => simp at hmem
  | cons s order ih =>
    obtain ⟨hs, horder⟩ := List.pairwise_cons.mp horder
    rw [List.flatMap_cons, List.flatMap_cons, ofSeverity_cons]
    by_cases hsev : f.severity = s
    · have hlater : ∀ s' ∈ order, ofSeverity s' (f :: rest) = ofSeverity s' rest := by
        intro s' hs'
        have hne : f.severity ≠ s' := fun heq => by
          have := hs s' hs'
          rw [← hsev, heq] at this
          omega
        rw [ofSeverity_cons, if_neg hne]
      rw [if_pos hsev, List.flatMap_congr hlater, List.cons_append]
    · have hmem := (List.mem_cons.mp hmem).resolve_left hsev
      -- nothing else is more severe than the first finding
      have hnone : ofSeverity s rest = [] := by
        refine List.filter_eq_nil_iff.mpr fun g hg heq => ?_
        have hrank := hs _ hmem
        have hle := hf g hg
        simp only [Finding.atLeast, decide_eq_true_eq] at hle heq
        rw [heq] at hle
        omega
      rw [if_neg hsev, hnone, List.nil_append, List.nil_append]
      exact ih horder hmem

theorem reportOrder_descending : Severity.reportOrder.Pairwise fun a b => b.rank < a.rank := by
  decide

/-- Findings that are sorted are what their severities give one after the other. -/
theorem flatMap_ofSeverity {fs : List Finding}
    (h : fs.Pairwise fun a b => a.atLeast b = true) :
    (Severity.reportOrder.flatMap fun s => ofSeverity s fs) = fs := by
  induction fs with
  | nil => rfl
  | cons f rest ih =>
    obtain ⟨hf, hrest⟩ := List.pairwise_cons.mp h
    have hmem : f.severity ∈ Severity.reportOrder := by cases f.severity <;> decide
    rw [flatMap_ofSeverity_cons reportOrder_descending hmem hf, ih hrest]

/-! ## Buckets -/

/-- Leaving out what gives nothing makes no difference to what all give together. -/
theorem flatMap_filter_eq {α β : Type} {f : α → List β} {keep : α → Bool} (l : List α)
    (h : ∀ x, keep x = false → f x = []) : (l.filter keep).flatMap f = l.flatMap f := by
  induction l with
  | nil => rfl
  | cons x rest ih =>
    rw [List.filter_cons, List.flatMap_cons]
    split
    · rw [List.flatMap_cons, ih]
    · rename_i hx
      rw [h x (by simpa using hx), List.nil_append, ih]

/-- The buckets of a group, one behind the other, are its findings in a stable sort. -/
theorem flatMap_bucketsOf (fs : List Finding) :
    (bucketsOf fs).flatMap (·.findings) = bySeverity fs := by
  have hempty : ∀ b : Bucket, (!b.findings.isEmpty) = false → b.findings = [] := by
    intro b hb
    simpa using hb
  calc (bucketsOf fs).flatMap (·.findings)
      = Severity.reportOrder.flatMap fun s => ofSeverity s fs := by
        rw [bucketsOf, flatMap_filter_eq _ hempty, List.flatMap_map]
        rfl
    _ = Severity.reportOrder.flatMap fun s => ofSeverity s (bySeverity fs) := by
        simp only [ofSeverity_bySeverity]
    _ = bySeverity fs := flatMap_ofSeverity (bySeverity_pairwise fs)

theorem mem_bucketsOf {fs : List Finding} {b : Bucket} (h : b ∈ bucketsOf fs) :
    b.findings ≠ [] ∧ b.findings = ofSeverity b.severity fs := by
  obtain ⟨hmem, hne⟩ := List.mem_filter.mp h
  obtain ⟨s, _, rfl⟩ := List.mem_map.mp hmem
  exact ⟨by simpa using hne, rfl⟩

theorem bucketsOf_descending (fs : List Finding) :
    (bucketsOf fs).Pairwise fun a b => b.severity.rank < a.severity.rank :=
  (List.pairwise_map.mpr reportOrder_descending).filter _

/-- The findings of a section, bucket by bucket. -/
def Section.findings (s : Section) : List Finding :=
  s.buckets.flatMap (·.findings)

/-- A section shows a group: its buckets are those of the severities that occur, the most
severe first, and together they are the findings of the group, sorted stably. -/
structure Section.Shows (s : Section) (g : FindingGroup) : Prop where
  group_eq : s.group = g.name
  findings_ne_nil : ∀ b ∈ s.buckets, b.findings ≠ []
  severity_eq : ∀ b ∈ s.buckets, ∀ f ∈ b.findings, f.severity = b.severity
  descending : s.buckets.Pairwise fun a b => b.severity.rank < a.severity.rank
  findings_eq : s.findings = bySeverity g.findings
  keeps_order : ∀ severity, ofSeverity severity s.findings = ofSeverity severity g.findings

theorem Section.shows_bucketsOf (g : FindingGroup) :
    Section.Shows ⟨g.name, bucketsOf g.findings⟩ g where
  group_eq := rfl
  findings_ne_nil b hb := (mem_bucketsOf hb).1
  severity_eq b hb f hf := by
    rw [(mem_bucketsOf hb).2] at hf
    simpa using (List.mem_filter.mp hf).2
  descending := bucketsOf_descending g.findings
  findings_eq := flatMap_bucketsOf g.findings
  keeps_order severity := by
    rw [Section.findings, flatMap_bucketsOf, ofSeverity_bySeverity]

/-! ## Sections -/

theorem Report.sections_show (r : Results) :
    List.Forall₂ Section.Shows (Report.ofResults r).sections
      (r.groups.filter fun g => g.findings ≠ []) := by
  have hkept : (r.groups.filter fun g => !g.findings.isEmpty) =
      r.groups.filter fun g => g.findings ≠ [] :=
    List.filter_congr fun g _ => by cases g.findings <;> rfl
  rw [Report.ofResults, hkept, List.forall₂_map_left_iff]
  exact List.forall₂_same.mpr fun g _ => Section.shows_bucketsOf g

/-- The sections have all findings of the results. -/
theorem Report.sections_perm (r : Results) :
    ((Report.ofResults r).sections.flatMap Section.findings).Perm r.findings := by
  have hempty : ∀ g : FindingGroup,
      (!g.findings.isEmpty) = false → bySeverity g.findings = [] := by
    intro g hg
    rw [show g.findings = [] by simpa using hg, bySeverity, List.mergeSort_nil]
  have hsections : (Report.ofResults r).sections.flatMap Section.findings =
      r.groups.flatMap fun g => bySeverity g.findings := by
    rw [Report.ofResults, List.flatMap_map, ← flatMap_filter_eq r.groups hempty]
    exact List.flatMap_congr fun g _ => flatMap_bucketsOf g.findings
  rw [hsections]
  exact List.Perm.flatMap_left r.groups fun g _ => List.mergeSort_perm g.findings _

/-! ## Counts -/

/-- The count of one severity. -/
def Summary.count (s : Summary) : Severity → Nat
  | .critical => s.critical
  | .high => s.high
  | .medium => s.medium
  | .low => s.low

theorem Summary.count_add (s : Summary) (f : Finding) (severity : Severity) :
    (s.add f).count severity = s.count severity + if f.severity = severity then 1 else 0 := by
  rw [Summary.add]
  cases f.severity <;> cases severity <;> rfl

/-- A summary counts each finding in all and under its severity. -/
theorem Summary.foldl_add (s : Summary) (fs : List Finding) :
    (fs.foldl add s).total = s.total + fs.length ∧
      ∀ severity, (fs.foldl add s).count severity =
        s.count severity + (ofSeverity severity fs).length := by
  induction fs generalizing s with
  | nil => exact ⟨rfl, fun _ => rfl⟩
  | cons f fs ih =>
    obtain ⟨htotal, hcount⟩ := ih (s.add f)
    have hadd : (s.add f).total = s.total + 1 := by
      rw [Summary.add]
      cases f.severity <;> rfl
    refine ⟨?_, fun severity => ?_⟩
    · rw [List.foldl_cons, htotal, hadd, List.length_cons]
      omega
    · rw [List.foldl_cons, hcount, count_add, ofSeverity_cons]
      split
      · rw [List.length_cons]
        omega
      · omega

theorem Summary.total_ofFindings (fs : List Finding) :
    (Summary.ofFindings fs).total = fs.length := by
  rw [Summary.ofFindings, (Summary.foldl_add {} fs).1, Nat.zero_add]

theorem Summary.count_ofFindings (fs : List Finding) (severity : Severity) :
    (Summary.ofFindings fs).count severity = (ofSeverity severity fs).length := by
  have hnone : (Summary.count {} severity) = 0 := by cases severity <;> rfl
  rw [Summary.ofFindings, (Summary.foldl_add {} fs).2, hnone, Nat.zero_add]

/-- Every finding has one of the four severities. -/
theorem length_eq_sum_ofSeverity (fs : List Finding) :
    fs.length = (ofSeverity .critical fs).length + (ofSeverity .high fs).length +
      (ofSeverity .medium fs).length + (ofSeverity .low fs).length := by
  induction fs with
  | nil => rfl
  | cons f fs ih =>
    simp only [ofSeverity_cons, List.length_cons]
    cases f.severity <;> simp <;> omega

/-- The findings of one severity are those of its buckets. -/
theorem length_ofSeverity_flatMap {bs : List Bucket}
    (h : ∀ b ∈ bs, ∀ f ∈ b.findings, f.severity = b.severity) (severity : Severity) :
    (ofSeverity severity (bs.flatMap (·.findings))).length =
      ((bs.filter fun b => b.severity = severity).map fun b => b.findings.length).sum := by
  induction bs with
  | nil => rfl
  | cons b bs ih =>
    have hb : ∀ f ∈ b.findings, f.severity = b.severity := h b List.mem_cons_self
    have hbs := ih fun b' hb' => h b' (List.mem_cons_of_mem _ hb')
    rw [ofSeverity] at hbs
    rw [List.flatMap_cons, ofSeverity, List.filter_append, List.length_append, hbs,
      List.filter_cons]
    by_cases hsev : b.severity = severity
    · have hall : b.findings.filter (fun f => f.severity = severity) = b.findings :=
        List.filter_eq_self.mpr fun f hf => by simp [hb f hf, hsev]
      simp [hall, hsev]
    · have hnone : b.findings.filter (fun f => f.severity = severity) = [] :=
        List.filter_eq_nil_iff.mpr fun f hf => by simp [hb f hf, hsev]
      simp [hnone, hsev]

/-- A report shows the groups with findings, in order and each stably sorted by severity,
and its counts are those of the findings that it shows. -/
theorem Report.ofResults_accounts (r : Results) :
    List.Forall₂ Section.Shows (Report.ofResults r).sections
        (r.groups.filter fun g => g.findings ≠ []) ∧
      (Report.ofResults r).summary.total =
        (Report.ofResults r).summary.critical + (Report.ofResults r).summary.high +
          (Report.ofResults r).summary.medium + (Report.ofResults r).summary.low ∧
      (Report.ofResults r).summary.total =
        ((Report.ofResults r).sections.flatMap Section.findings).length ∧
      ∀ severity, (Report.ofResults r).summary.count severity =
        ((((Report.ofResults r).sections.flatMap (·.buckets)).filter fun b =>
          b.severity = severity).map fun b => b.findings.length).sum := by
  have hsummary : (Report.ofResults r).summary = .ofFindings r.findings := rfl
  have hbuckets : ∀ b ∈ (Report.ofResults r).sections.flatMap (·.buckets),
      ∀ f ∈ b.findings, f.severity = b.severity := by
    intro b hb
    obtain ⟨s, hs, hb⟩ := List.mem_flatMap.mp hb
    obtain ⟨g, _, rfl⟩ := List.mem_map.mp hs
    exact (Section.shows_bucketsOf g).severity_eq b hb
  refine ⟨Report.sections_show r, ?_, ?_, fun severity => ?_⟩
  · rw [hsummary, Summary.total_ofFindings, length_eq_sum_ofSeverity]
    simp only [← Summary.count_ofFindings]
    rfl
  · rw [hsummary, Summary.total_ofFindings, (Report.sections_perm r).length_eq]
  · rw [hsummary, Summary.count_ofFindings, ← length_ofSeverity_flatMap hbuckets,
      List.flatMap_assoc]
    exact ((Report.sections_perm r).symm.filter _).length_eq

end BackendAudit
