import BackendAudit.Proofs.Report.Buckets
import BackendAudit.Proofs.Unambiguous
import BackendAudit.Report.Format
import BackendAudit.Run.Event

/-!
# Plain text loses nothing of a report

The lines of a report are put together with line feeds, and some of them begin with one.
Cut at the line feeds again, the text is a list of rows (`rows_plainText`).  When no title
and no text of a finding has a line feed, every row is known: a finding, a bucket and a
section each are a code for a list of rows.

Free text cannot be taken for anything else, since it always stands behind a number, a
blank or the name of a field:

* a finding may be followed by an empty row or by nothing, which tells it from one that
  goes on with its code (`findingRows_unambiguous`);
* behind an empty row, a digit begins another finding, the name of a severity another
  bucket, and anything else ends the section (`bucketRows_unambiguous`,
  `sectionRows_unambiguous`).
-/

namespace BackendAudit

/-! ## Rows -/

/-- A text without line feeds. -/
def OneLine (s : String) : Prop := '\n' ∉ s.toList

instance (s : String) : Decidable (OneLine s) :=
  inferInstanceAs (Decidable ('\n' ∉ s.toList))

/-- The rows of a text. -/
def rows (s : String) : List String :=
  (s.toList.splitOn '\n').map String.ofList

theorem rows_of_oneLine {s : String} (h : OneLine s) : rows s = [s] := by
  rw [rows, List.splitOn_eq_singleton h, List.map_singleton, String.ofList_toList]

/-- A line feed between two texts keeps their rows apart. -/
theorem rows_append_lineFeed (s t : String) : rows (s ++ ("\n" ++ t)) = rows s ++ rows t := by
  have hfeed : "\n".toList = ['\n'] := rfl
  rw [rows, String.toList_append, String.toList_append, hfeed, List.singleton_append,
    List.splitOn_append_cons_self, List.map_append]
  rfl

theorem rows_lineFeed {s : String} (h : OneLine s) : rows ("\n" ++ s) = ["", s] := by
  have hrows := rows_append_lineFeed "" s
  rwa [String.empty_append, rows_of_oneLine h] at hrows

/-- The rows of lines that are put together are those of the lines. -/
theorem rows_intercalate {ls : List String} (h : ls ≠ []) :
    rows (String.intercalate "\n" ls) = ls.flatMap rows := by
  induction ls with
  | nil => exact absurd rfl h
  | cons l ls ih =>
    cases ls with
    | nil => simp
    | cons m ls =>
      rw [String.intercalate_cons_cons, String.append_assoc, rows_append_lineFeed,
        ih (List.cons_ne_nil m ls)]
      rfl

theorem flatMap_rows {ls : List String} (h : ∀ l ∈ ls, OneLine l) : ls.flatMap rows = ls := by
  rw [List.flatMap_congr fun l hl => rows_of_oneLine (h l hl), List.flatMap_singleton']

theorem OneLine.append {s t : String} (hs : OneLine s) (ht : OneLine t) : OneLine (s ++ t) := by
  rw [OneLine, String.toList_append, List.mem_append]
  exact fun h => h.elim hs ht

theorem isDigit_of_mem_toString {n : Nat} {c : Char} (h : c ∈ (toString n).toList) :
    c.isDigit = true := by
  rw [Nat.toString_eq_ofList_toDigits, String.toList_ofList] at h
  exact Nat.isDigit_of_mem_toDigits (by decide) (by decide) h

theorem oneLine_toString (n : Nat) : OneLine (toString n) := fun h =>
  absurd (isDigit_of_mem_toString h) (by decide)

theorem toString_inj {m n : Nat} (h : toString m = toString n) : m = n := by
  rw [Nat.toString_eq_ofList_toDigits, Nat.toString_eq_ofList_toDigits, String.ofList_inj] at h
  rw [← Nat.ofDigitChars_ten_toDigits (n := m), h, Nat.ofDigitChars_ten_toDigits]

/-! ## Findings -/

/-- No text of a finding has a line feed. -/
structure Finding.OneLiner (f : Finding) : Prop where
  target : OneLine f.location.target
  description : OneLine f.description
  recommendation : OneLine f.recommendation
  snippet : OneLine f.snippet

/-- All findings of a bucket have its severity. -/
def Bucket.Uniform (b : Bucket) : Prop :=
  ∀ f ∈ b.findings, f.severity = b.severity

namespace Report

theorem oneLine_categoryName (c : Category) : OneLine c.name := by
  cases c <;> decide

theorem categoryName_inj {c d : Category} (h : c.name = d.name) : c = d := by
  cases c <;> cases d <;> first | rfl | exact absurd h (by decide)

/-- The row for the line of a finding, if it has one. -/
def lineRows (f : Finding) : List String :=
  if 0 < f.location.line then ["   Line: " ++ toString f.location.line] else []

/-- The row for the code of a finding, if there is any. -/
def codeRows (f : Finding) : List String :=
  if f.snippet.isEmpty then [] else ["   Code: " ++ f.snippet]

/-- The rows of a finding behind its description. -/
def fieldRows (f : Finding) : List String :=
  ("   File: " ++ f.location.target) :: (lineRows f ++
    ("   Category: " ++ f.category.name) :: ("   Recommendation: " ++ f.recommendation) ::
      codeRows f)

/-- The rows of a finding with its number. -/
def findingRows (number : Nat) (f : Finding) : List String :=
  "" :: (toString number ++ ". " ++ f.description) :: fieldRows f

theorem oneLine_of_mem_fieldRows {f : Finding} (h : f.OneLiner) :
    ∀ l ∈ fieldRows f, OneLine l := by
  have hline : ∀ l ∈ lineRows f, OneLine l := by
    rw [lineRows]
    split
    · exact List.forall_mem_singleton.mpr (.append (by decide) (oneLine_toString _))
    · exact List.forall_mem_nil _
  have hcode : ∀ l ∈ codeRows f, OneLine l := by
    rw [codeRows]
    split
    · exact List.forall_mem_nil _
    · exact List.forall_mem_singleton.mpr (.append (by decide) h.snippet)
  simp only [fieldRows, List.forall_mem_cons, List.forall_mem_append]
  exact ⟨.append (by decide) h.target, hline, .append (by decide) (oneLine_categoryName _),
    .append (by decide) h.recommendation, hcode⟩

theorem flatMap_rows_findingLines (number : Nat) {f : Finding} (h : f.OneLiner) :
    (findingLines number f).flatMap rows = findingRows number f := by
  have hlines : findingLines number f =
      ("\n" ++ (toString number ++ ". " ++ f.description)) :: fieldRows f := by
    simp [findingLines, fieldRows, lineRows, codeRows, String.append_assoc]
  have hnumber : OneLine (toString number ++ ". " ++ f.description) :=
    ((oneLine_toString number).append (by decide)).append h.description
  rw [hlines, List.flatMap_cons, rows_lineFeed hnumber,
    flatMap_rows (oneLine_of_mem_fieldRows h)]
  rfl

theorem lineRow_ne_categoryRow (a b : String) : "   Line: " ++ a ≠ "   Category: " ++ b := by
  intro h
  have hchar := congrArg (fun l => l.toList[3]?) h
  simp at hchar

/-- A row for the line is told from the row for the category by its name. -/
theorem lineRows_unambiguous {f g : Finding} {a b : String} {s t : List String}
    (h : lineRows f ++ ("   Category: " ++ a) :: s = lineRows g ++ ("   Category: " ++ b) :: t) :
    f.location.line = g.location.line ∧ a = b ∧ s = t := by
  rw [lineRows, lineRows] at h
  split at h
  case isTrue hf =>
    split at h
    case isTrue hg =>
      simp only [List.singleton_append, List.cons.injEq, String.append_right_inj] at h
      exact ⟨toString_inj h.1, h.2⟩
    case isFalse hg => exact absurd (List.cons.inj h).1 (lineRow_ne_categoryRow _ _)
  case isFalse hf =>
    split at h
    case isTrue hg => exact absurd (List.cons.inj h).1.symm (lineRow_ne_categoryRow _ _)
    case isFalse hg =>
      simp only [List.nil_append, List.cons.injEq, String.append_right_inj] at h
      exact ⟨by omega, h⟩

/-- What stands behind a finding: an empty row, or nothing. -/
def BlankNext (t : List String) : Prop := ∀ l ∈ t.head?, l = ""

theorem not_blankNext_codeRow (snippet : String) (t : List String) :
    ¬ BlankNext (("   Code: " ++ snippet) :: t) := by
  intro h
  have hempty := h _ rfl
  simp at hempty

theorem codeRows_unambiguous {f g : Finding} {s t : List String} (hs : BlankNext s)
    (ht : BlankNext t) (h : codeRows f ++ s = codeRows g ++ t) :
    f.snippet = g.snippet ∧ s = t := by
  rw [codeRows, codeRows] at h
  split at h
  case isTrue hf =>
    split at h
    case isTrue hg =>
      rw [String.isEmpty_iff] at hf hg
      exact ⟨hf.trans hg.symm, h⟩
    case isFalse hg =>
      rw [List.nil_append, List.singleton_append] at h
      exact absurd (h ▸ hs) (not_blankNext_codeRow _ _)
  case isFalse hf =>
    split at h
    case isTrue hg =>
      rw [List.nil_append, List.singleton_append] at h
      exact absurd (h ▸ ht) (not_blankNext_codeRow _ _)
    case isFalse hg =>
      simpa only [List.singleton_append, List.cons.injEq, String.append_right_inj] using h

/-- The rows of a finding give all its fields but the severity, which is that of its
bucket. -/
theorem findingRows_unambiguous (severity : Severity) (number : Nat) :
    Unambiguous (fun f : Finding => f.severity = severity) (findingRows number) BlankNext := by
  intro f g s t hf hg hs ht h
  simp only [findingRows, fieldRows, List.cons_append, List.append_assoc, List.cons.injEq,
    String.append_right_inj, true_and] at h
  obtain ⟨hdescription, htarget, h⟩ := h
  obtain ⟨hline, hcategory, h⟩ := lineRows_unambiguous h
  obtain ⟨hrecommendation, h⟩ := List.cons.inj h
  obtain ⟨hsnippet, h⟩ := codeRows_unambiguous hs ht h
  rw [String.append_right_inj] at hrecommendation
  have hcategory := categoryName_inj hcategory
  obtain ⟨_, _, ⟨_, _⟩, _, _, _⟩ := f
  obtain ⟨_, _, ⟨_, _⟩, _, _, _⟩ := g
  simp_all

/-! ## Buckets -/

/-- The row of a severity. -/
def severityRow : Severity → String
  | .critical => "CRITICAL SEVERITY:"
  | .high => "HIGH SEVERITY:"
  | .medium => "MEDIUM SEVERITY:"
  | .low => "LOW SEVERITY:"

theorem rows_severityHeading (s : Severity) : rows (severityHeading s) = ["", severityRow s] := by
  cases s <;> decide

theorem severityRow_inj {s t : Severity} (h : severityRow s = severityRow t) : s = t := by
  cases s <;> cases t <;> first | rfl | exact absurd h (by decide)

/-- The rows of a bucket. -/
def bucketRows (b : Bucket) : List String :=
  "" :: severityRow b.severity :: b.findings.zipIdx.flatMap fun (f, i) => findingRows (i + 1) f

theorem flatMap_rows_bucketLines {b : Bucket} (h : ∀ f ∈ b.findings, f.OneLiner) :
    (bucketLines b).flatMap rows = bucketRows b := by
  have hfindings : ∀ p ∈ b.findings.zipIdx,
      (findingLines (p.2 + 1) p.1).flatMap rows = findingRows (p.2 + 1) p.1 := fun p hp =>
    flatMap_rows_findingLines (p.2 + 1) (h p.1 (List.fst_mem_of_mem_zipIdx hp))
  rw [bucketLines, List.flatMap_cons, rows_severityHeading, List.flatMap_assoc,
    List.flatMap_congr hfindings]
  rfl

/-- Whether a row begins with a digit. -/
def beginsWithDigit (l : String) : Bool :=
  l.toList.head?.any Char.isDigit

/-- What stands behind a bucket: an empty row, and then no number. -/
def NoNumberNext (t : List String) : Prop :=
  ∃ rest, t = "" :: rest ∧ ∀ l ∈ rest.head?, beginsWithDigit l = false

theorem NoNumberNext.blankNext {t : List String} (h : NoNumberNext t) : BlankNext t := by
  obtain ⟨rest, rfl, _⟩ := h
  rintro l ⟨⟩
  rfl

theorem beginsWithDigit_number (number : Nat) (text : String) :
    beginsWithDigit (toString number ++ ". " ++ text) = true := by
  rw [beginsWithDigit, String.toList_append, String.toList_append, List.append_assoc]
  cases hdigits : (toString number).toList with
  | nil =>
    rw [Nat.toString_eq_ofList_toDigits, String.toList_ofList] at hdigits
    exact absurd hdigits Nat.toDigits_ne_nil
  | cons c cs => exact isDigit_of_mem_toString (hdigits ▸ List.mem_cons_self)

theorem not_noNumberNext_findingRows (number : Nat) (f : Finding) (t : List String) :
    ¬ NoNumberNext (findingRows number f ++ t) := by
  rintro ⟨rest, heq, h⟩
  obtain ⟨_, rfl⟩ := List.cons.inj heq
  have hdigit := h _ rfl
  rw [beginsWithDigit_number] at hdigit
  contradiction

theorem blankNext_findingRows (number : Nat) (f : Finding) (t : List String) :
    BlankNext (findingRows number f ++ t) := by
  rintro l ⟨⟩
  rfl

theorem bucketRows_unambiguous : Unambiguous Bucket.Uniform bucketRows NoNumberNext := by
  rintro ⟨severity, fs⟩ ⟨severity', gs⟩ s t hb hc hs ht h
  simp only [bucketRows, List.cons_append, List.cons.injEq, true_and] at h
  obtain ⟨hseverity, h⟩ := h
  obtain rfl := severityRow_inj hseverity
  obtain ⟨rfl, hrest⟩ := Unambiguous.zipIdx_flatMap
    (fun i => findingRows_unambiguous severity (i + 1))
    (fun i f t _ => blankNext_findingRows (i + 1) f t) (fun t ht => ht.blankNext)
    (fun i f t _ => not_noNumberNext_findingRows (i + 1) f t) 0 hb hc hs ht h
  exact ⟨rfl, hrest⟩

/-! ## Sections -/

/-- The heading of the group of a phase. -/
def phaseRow : Phase → String
  | .staticAnalysis => "STATIC ANALYSIS"
  | .configValidation => "CONFIG VALIDATION"
  | .apiTesting => "API TESTING"

theorem heading_phaseName (phase : Phase) : heading phase.name = phaseRow phase := by
  cases phase <;> decide +kernel

theorem phaseRow_inj {p q : Phase} (h : phaseRow p = phaseRow q) : p = q := by
  cases p <;> cases q <;> first | rfl | exact absurd h (by decide)

theorem phaseRow_ne_severityRow (phase : Phase) (severity : Severity) :
    severityRow severity ≠ phaseRow phase := by
  cases phase <;> cases severity <;> decide

/-- The rows of a section. -/
def sectionRows (s : Section) : List String :=
  heading s.group :: underline :: s.buckets.flatMap bucketRows ++ [""]

end Report

/-- A section can be told from its rows: its group is that of a phase. -/
structure Section.OfPhase (s : Section) : Prop where
  group : ∃ phase : Phase, s.group = phase.name
  buckets : ∀ b ∈ s.buckets, b.Uniform

namespace Report

theorem flatMap_rows_sectionLines {s : Section} (hgroup : ∃ phase : Phase, s.group = phase.name)
    (h : ∀ b ∈ s.buckets, ∀ f ∈ b.findings, f.OneLiner) :
    (sectionLines s).flatMap rows = sectionRows s := by
  obtain ⟨phase, hphase⟩ := hgroup
  have hheading : rows (heading s.group) = [heading s.group] := by
    rw [hphase, heading_phaseName]
    cases phase <;> decide
  have hunderline : rows underline = [underline] := by decide
  have hblank : rows "" = [""] := by decide
  rw [sectionLines, sectionRows]
  simp only [List.cons_append, List.flatMap_cons, List.flatMap_append, List.flatMap_nil, hheading,
    hunderline, hblank, List.flatMap_assoc, List.flatMap_congr fun b hb =>
    flatMap_rows_bucketLines (h b hb)]
  rfl

/-- What stands behind the buckets of a section: an empty row, and then the heading of
another section or nothing. -/
def NoBucketNext (t : List String) : Prop :=
  ∃ rest, t = "" :: rest ∧ ∀ l ∈ rest.head?, ∃ phase, l = phaseRow phase

/-- What stands behind a section: the heading of another, or nothing. -/
def HeadingNext (t : List String) : Prop :=
  ∀ l ∈ t.head?, ∃ phase, l = phaseRow phase

theorem NoBucketNext.noNumberNext {t : List String} (h : NoBucketNext t) : NoNumberNext t := by
  obtain ⟨rest, rfl, h⟩ := h
  refine ⟨rest, rfl, fun l hl => ?_⟩
  obtain ⟨phase, rfl⟩ := h l hl
  cases phase <;> decide

theorem noNumberNext_bucketRows (b : Bucket) (t : List String) :
    NoNumberNext (bucketRows b ++ t) := by
  refine ⟨_, rfl, ?_⟩
  rintro l ⟨⟩
  cases b.severity <;> decide

theorem not_noBucketNext_bucketRows (b : Bucket) (t : List String) :
    ¬ NoBucketNext (bucketRows b ++ t) := by
  rintro ⟨rest, heq, h⟩
  obtain ⟨_, rfl⟩ := List.cons.inj heq
  obtain ⟨phase, hphase⟩ := h _ rfl
  exact phaseRow_ne_severityRow phase b.severity hphase

theorem sectionRows_unambiguous : Unambiguous Section.OfPhase sectionRows HeadingNext := by
  rintro ⟨group, bs⟩ ⟨group', cs⟩ s t ⟨⟨p, hp⟩, hb⟩ ⟨⟨q, hq⟩, hc⟩ hs ht h
  simp only [sectionRows, List.cons_append, List.append_assoc, List.nil_append, List.cons.injEq,
    true_and] at h
  obtain ⟨hheading, h⟩ := h
  have hgroup : group = group' := by
    rw [show group = p.name from hp, show group' = q.name from hq] at hheading ⊢
    rw [heading_phaseName, heading_phaseName] at hheading
    rw [phaseRow_inj hheading]
  obtain ⟨rfl, hrest⟩ := bucketRows_unambiguous.flatMap
    (fun b t _ => noNumberNext_bucketRows b t) (fun t ht => ht.noNumberNext)
    (fun b t _ => not_noBucketNext_bucketRows b t) hb hc ⟨s, rfl, hs⟩ ⟨t, rfl, ht⟩ h
  exact ⟨by rw [hgroup], (List.cons.inj hrest).2⟩

theorem headingNext_sectionRows {s : Section} (h : s.OfPhase) (t : List String) :
    HeadingNext (sectionRows s ++ t) := by
  obtain ⟨phase, hphase⟩ := h.group
  rintro l ⟨⟩
  exact ⟨phase, by rw [hphase, heading_phaseName]⟩

/-! ## Reports -/

theorem oneLine_padded (width n : Nat) : OneLine (Timestamp.padded width n) := by
  rw [OneLine, Timestamp.padded, String.toList_ofList, List.mem_append, not_or]
  refine ⟨fun h => absurd (List.eq_of_mem_replicate h) (by decide), fun h => ?_⟩
  exact absurd (Nat.isDigit_of_mem_toDigits (by decide) (by decide) h) (by decide)

theorem oneLine_text {separator : String} (h : OneLine separator) (made : Timestamp) :
    OneLine (made.text separator) := by
  have hyear : OneLine (Timestamp.yearText made.year) := by
    rw [Timestamp.yearText]
    refine .append ?_ (oneLine_padded _ _)
    split
    · decide
    · split <;> decide
  have hhyphen : OneLine "-" := by decide
  have hcolon : OneLine ":" := by decide
  exact hyear.append hhyphen |>.append (oneLine_padded 2 made.month) |>.append hhyphen
    |>.append (oneLine_padded 2 made.day) |>.append h |>.append (oneLine_padded 2 made.hour)
    |>.append hcolon |>.append (oneLine_padded 2 made.minute) |>.append hcolon
    |>.append (oneLine_padded 2 made.second)

/-- The rows behind the sections. -/
def closingRows : List String :=
  ["RECOMMENDED ACTIONS", underline] ++ numbered recommendedActions ++ [""]

theorem oneLine_of_mem_summaryLines (s : Summary) : ∀ l ∈ summaryLines s, OneLine l := by
  have hcount (name : String) (h : OneLine name) (n : Nat) : OneLine (name ++ toString n) :=
    .append h (oneLine_toString n)
  simp only [summaryLines, List.forall_mem_cons]
  exact ⟨by decide, by decide, hcount _ (by decide) _, hcount _ (by decide) _,
    hcount _ (by decide) _, hcount _ (by decide) _, hcount _ (by decide) _, by decide,
    List.forall_mem_nil _⟩

theorem summaryLines_inj {s t : Summary} (h : summaryLines s = summaryLines t) : s = t := by
  simp only [summaryLines, List.cons.injEq, String.append_right_inj, true_and, and_true] at h
  obtain ⟨htotal, hcritical, hhigh, hmedium, hlow⟩ := h
  obtain ⟨_, _, _, _, _⟩ := s
  obtain ⟨_, _, _, _, _⟩ := t
  simp only [Summary.mk.injEq]
  exact ⟨toString_inj htotal, toString_inj hcritical, toString_inj hhigh, toString_inj hmedium,
    toString_inj hlow⟩

/-- The rows of a report. -/
def reportRows (r : Report) (title : String) (made : Timestamp) : List String :=
  banner :: title :: banner :: ("Generated: " ++ made.text " ") :: "" ::
    (summaryLines r.summary ++ (r.sections.flatMap sectionRows ++ closingRows))

end Report

/-- All that is needed to tell a report from its plain text: the groups are those of phases,
every finding is in the bucket of its severity, and no text has a line feed. -/
structure Report.Legible (r : Report) : Prop where
  ofPhase : ∀ s ∈ r.sections, s.OfPhase
  oneLiner : ∀ s ∈ r.sections, ∀ b ∈ s.buckets, ∀ f ∈ b.findings, f.OneLiner

namespace Report

/-- The text of a report, cut at its line feeds. -/
theorem rows_plainText {r : Report} {title : String} (hr : r.Legible) (htitle : OneLine title)
    (made : Timestamp) : rows (r.plainText title made) = reportRows r title made := by
  have hmade : OneLine ("Generated: " ++ made.text " ") :=
    .append (by decide) (oneLine_text (by decide) made)
  have hhead : ∀ l ∈ [banner, title, banner, "Generated: " ++ made.text " ", ""], OneLine l := by
    simp only [List.forall_mem_cons]
    exact ⟨by decide, htitle, by decide, hmade, by decide, List.forall_mem_nil _⟩
  have hsections : (r.sections.flatMap sectionLines).flatMap rows =
      r.sections.flatMap sectionRows := by
    rw [List.flatMap_assoc]
    exact List.flatMap_congr fun s hs =>
      flatMap_rows_sectionLines (hr.ofPhase s hs).group (hr.oneLiner s hs)
  have hclosing : ∀ l ∈ closingRows, OneLine l := by decide
  have hlines : r.lines title made =
      [banner, title, banner, "Generated: " ++ made.text " ", ""] ++
        (summaryLines r.summary ++ (r.sections.flatMap sectionLines ++ closingRows)) := by
    simp only [lines, closingRows, List.append_assoc]
  have hne : r.lines title made ≠ [] := List.cons_ne_nil _ _
  rw [plainText, rows_intercalate hne, hlines, List.flatMap_append, List.flatMap_append,
    List.flatMap_append, flatMap_rows hhead, flatMap_rows (oneLine_of_mem_summaryLines _),
    hsections, flatMap_rows hclosing]
  rfl

/-- Two reports with the same rows are equal, and so are their titles and times. -/
theorem reportRows_inj {r q : Report} {title title' : String} {made made' : Timestamp}
    (hr : r.Legible) (hq : q.Legible)
    (h : reportRows r title made = reportRows q title' made') :
    r = q ∧ title = title' ∧ made.text " " = made'.text " " := by
  simp only [reportRows, List.cons.injEq, String.append_right_inj, true_and] at h
  obtain ⟨htitle, hmade, h⟩ := h
  obtain ⟨hsummary, h⟩ := List.append_inj h (by simp [summaryLines])
  have hsections : r.sections.flatMap sectionRows ++ [] = q.sections.flatMap sectionRows ++ [] := by
    rw [List.append_cancel_right h]
  have hunambiguous : Unambiguous (fun l : List Section => ∀ s ∈ l, s.OfPhase)
      (fun l => l.flatMap sectionRows) (· = []) :=
    sectionRows_unambiguous.flatMap (fun s t hs => headingNext_sectionRows hs t)
      (by rintro _ rfl l ⟨⟩) (fun s t _ => by simp [sectionRows])
  obtain ⟨hsections, _⟩ := hunambiguous hr.ofPhase hq.ofPhase rfl rfl hsections
  obtain ⟨_, _⟩ := r
  obtain ⟨_, _⟩ := q
  rw [Report.mk.injEq]
  exact ⟨⟨summaryLines_inj hsummary, hsections⟩, htitle, hmade⟩

end Report

/-! ## Results -/

/-- The groups of some results are those of phases, and no text in them has a line feed. -/
structure Results.Legible (r : Results) : Prop where
  ofPhase : ∀ g ∈ r.groups, ∃ phase : Phase, g.name = phase.name
  oneLiner : ∀ f ∈ r.findings, f.OneLiner

theorem Report.legible_ofResults {r : Results} (h : r.Legible) :
    (Report.ofResults r).Legible where
  ofPhase s hs := by
    obtain ⟨g, hg, rfl⟩ := List.mem_map.mp hs
    exact ⟨h.ofPhase g (List.mem_of_mem_filter hg), (Section.shows_bucketsOf g).severity_eq⟩
  oneLiner s hs b hb f hf := by
    have hmem : f ∈ (Report.ofResults r).sections.flatMap Section.findings :=
      List.mem_flatMap.mpr ⟨s, hs, List.mem_flatMap.mpr ⟨b, hb, hf⟩⟩
    exact h.oneLiner f ((Report.sections_perm r).mem_iff.mp hmem)

/-- Two runs with the same plain text have the same report. -/
theorem Results.render_text_inj {r q : Results} {title title' : String} {made made' : Timestamp}
    (hr : r.Legible) (hq : q.Legible) (htitle : OneLine title) (htitle' : OneLine title')
    (h : r.render .text title made = q.render .text title' made') :
    Report.ofResults r = Report.ofResults q ∧ title = title' ∧
      made.text " " = made'.text " " := by
  have hrows := congrArg rows h
  rw [Results.render, Results.render, Report.rows_plainText (Report.legible_ofResults hr) htitle,
    Report.rows_plainText (Report.legible_ofResults hq) htitle'] at hrows
  exact Report.reportRows_inj (Report.legible_ofResults hr) (Report.legible_ofResults hq) hrows

/-- A finding whose texts look like other rows of a report. -/
def lookalikeFinding : Finding where
  severity := .low
  category := .config
  location := ⟨"   Category: config", 0⟩
  description := "HIGH SEVERITY:"
  recommendation := ""
  snippet := "2. HIGH SEVERITY:"

/-- The results of a run with a finding, and those with another group that has none. -/
def lookalikeResults (others : List FindingGroup) : Results :=
  ⟨others ++ [⟨"config_validation", [lookalikeFinding]⟩]⟩

/-- A group without findings is left out of the text, and of the report. -/
theorem Results.render_text_inj_lookalike :
    (lookalikeResults []).render .text "SUMMARY" ⟨2024, 1, 2, 3, 4, 5⟩ =
        (lookalikeResults [⟨"static_analysis", []⟩]).render .text "SUMMARY"
          ⟨2024, 1, 2, 3, 4, 5⟩ ∧
      Report.ofResults (lookalikeResults []) =
        Report.ofResults (lookalikeResults [⟨"static_analysis", []⟩]) := by
  have honeLiner : lookalikeFinding.OneLiner := ⟨by decide, by decide, by decide, by decide⟩
  have htext : (lookalikeResults []).render .text "SUMMARY" ⟨2024, 1, 2, 3, 4, 5⟩ =
      (lookalikeResults [⟨"static_analysis", []⟩]).render .text "SUMMARY"
        ⟨2024, 1, 2, 3, 4, 5⟩ := rfl
  refine ⟨htext, (Results.render_text_inj ⟨?_, ?_⟩ ⟨?_, ?_⟩ (by decide) (by decide) htext).1⟩
  · simpa [lookalikeResults] using ⟨Phase.configValidation, rfl⟩
  · simpa [lookalikeResults, Results.findings] using honeLiner
  · simpa [lookalikeResults] using
      ⟨⟨Phase.staticAnalysis, rfl⟩, ⟨Phase.configValidation, rfl⟩⟩
  · simpa [lookalikeResults, Results.findings] using honeLiner

end BackendAudit
