import BackendAudit.Proofs.Json.Members
import BackendAudit.Proofs.Json.RoundTrip
import BackendAudit.Proofs.Report.Buckets
import BackendAudit.Report.Format

/-!
# Reports are read back from their documents

A reader of reports takes each field from the member with its name.  What it gets from a
document that was written and parsed is the report that was written, field for field
(`Results.render_json_decodes`).  The parser sorts the members of each object, so the reader
does not depend on their order; buckets and findings are items of lists, which keep theirs.

Lines and counts are numbers of 64 bits.  The counts of a report are so when its results
have fewer than `2 ^ 64` findings.
-/

namespace BackendAudit

/-! ## The reader -/

namespace Json

/-- The natural number that a value is. -/
def natural? : Json → Option Nat
  | number (.integer (.ofNat n)) => some n
  | _ => none

/-- The items of a list. -/
def items? : Json → Option (List Json)
  | array items => some items
  | _ => none

end Json

def Location.ofJson? (v : Json) : Option Location := do
  let target ← (← v.field? "target").text?
  let line ← (← v.field? "line").natural?
  some ⟨target, line⟩

def Finding.ofJson? (v : Json) : Option Finding := do
  let severity ← Severity.ofName? (← (← v.field? "severity").text?)
  let category ← Category.ofName? (← (← v.field? "category").text?)
  let location ← Location.ofJson? (← v.field? "location")
  let description ← (← v.field? "description").text?
  let recommendation ← (← v.field? "recommendation").text?
  let snippet ← (← v.field? "snippet").text?
  some ⟨severity, category, location, description, recommendation, snippet⟩

def Summary.ofJson? (v : Json) : Option Summary := do
  let total ← (← v.field? "total").natural?
  let critical ← (← v.field? "critical").natural?
  let high ← (← v.field? "high").natural?
  let medium ← (← v.field? "medium").natural?
  let low ← (← v.field? "low").natural?
  some ⟨total, critical, high, medium, low⟩

def Bucket.ofJson? (v : Json) : Option Bucket := do
  let severity ← Severity.ofName? (← (← v.field? "severity").text?)
  let findings ← (← (← v.field? "findings").items?).mapM Finding.ofJson?
  some ⟨severity, findings⟩

def Section.ofJson? (v : Json) : Option Section := do
  let group ← (← v.field? "group").text?
  let buckets ← (← (← v.field? "buckets").items?).mapM Bucket.ofJson?
  some ⟨group, buckets⟩

/-- A report with its title and the text of the time at which it was made. -/
structure Report.Titled where
  title : String
  made : String
  report : Report
  deriving Repr, DecidableEq, Inhabited

def Report.Titled.ofJson? (v : Json) : Option Report.Titled := do
  let title ← (← v.field? "title").text?
  let made ← (← v.field? "generated_at").text?
  let summary ← Summary.ofJson? (← v.field? "summary")
  let sections ← (← (← v.field? "sections").items?).mapM Section.ofJson?
  some ⟨title, made, ⟨summary, sections⟩⟩

/-! ## Fields of what was written -/

namespace Json

theorem text?_settled_string (s : String) : (settled (.string s)).text? = some s := by
  rw [settled.eq_def]
  rfl

theorem natural?_settled_ofNat (n : Nat) : (settled (ofNat n)).natural? = some n := by
  rw [ofNat, settled.eq_def]
  rfl

theorem items?_settled_array (items : List Json) :
    (settled (.array items)).items? = some (items.map settled) := by
  rw [settled, items?]

/-- Items that are read back one by one are read back together. -/
theorem mapM_settled {α : Type} {write : α → Json} {read? : Json → Option α}
    (h : ∀ x, read? (write x).settled = some x) (xs : List α) :
    xs.mapM (read? ∘ settled ∘ write) = some xs := by
  induction xs with
  | nil => rfl
  | cons x xs ih =>
    rw [List.mapM_cons, ih, Function.comp_apply, Function.comp_apply, h]
    rfl

end Json

theorem Severity.ofName?_name (s : Severity) : ofName? s.name = some s := by
  cases s <;> decide

theorem Category.ofName?_name (c : Category) : ofName? c.name = some c := by
  cases c <;> decide

open Json

/-! ## Reports -/

theorem Location.ofJson?_settled (l : Location) :
    Location.ofJson? (settled (.object
      [("target", .string l.target), ("line", .ofNat l.line)])) = some l := by
  simp [Location.ofJson?, field?_settled, member?_cons, text?_settled_string,
    natural?_settled_ofNat]

theorem Finding.ofJson?_settled (f : Finding) : Finding.ofJson? f.json.settled = some f := by
  simp [Finding.ofJson?, Finding.json, field?_settled, member?_cons, text?_settled_string,
    Severity.ofName?_name, Category.ofName?_name, Location.ofJson?_settled]

theorem Summary.ofJson?_settled (s : Summary) : Summary.ofJson? s.json.settled = some s := by
  simp [Summary.ofJson?, Summary.json, field?_settled, member?_cons, natural?_settled_ofNat]

theorem Bucket.ofJson?_settled (b : Bucket) : Bucket.ofJson? b.json.settled = some b := by
  simp [Bucket.ofJson?, Bucket.json, field?_settled, member?_cons, text?_settled_string,
    Severity.ofName?_name, items?_settled_array, mapM_settled Finding.ofJson?_settled]

theorem Section.ofJson?_settled (s : Section) : Section.ofJson? s.json.settled = some s := by
  simp [Section.ofJson?, Section.json, field?_settled, member?_cons, text?_settled_string,
    items?_settled_array, mapM_settled Bucket.ofJson?_settled]

theorem Report.Titled.ofJson?_settled (r : Report) (title : String) (made : Timestamp) :
    Titled.ofJson? (r.json title made).settled = some ⟨title, made.text "T", r⟩ := by
  simp [Titled.ofJson?, Report.json, field?_settled, member?_cons, text?_settled_string,
    Summary.ofJson?_settled, items?_settled_array, mapM_settled Section.ofJson?_settled]

/-! ## Bounds of the parser -/

namespace Json

theorem fits_ofNat {depth n : Nat} (h : n < 2 ^ 64) : Fits depth (ofNat n) :=
  .integer (by omega) (by omega)

theorem fits_map {α : Type} {depth : Nat} {write : α → Json} {xs : List α}
    (h : ∀ x ∈ xs, Fits depth (write x)) : Fits (depth + 1) (.array (xs.map write)) := by
  refine .array fun v hv => ?_
  obtain ⟨x, hx, rfl⟩ := List.mem_map.mp hv
  exact h x hx

end Json

theorem Finding.fits_json (depth : Nat) {f : Finding} (h : f.location.line < 2 ^ 64) :
    Fits (depth + 2) f.json := by
  refine .object ?_
  simp only [List.forall_mem_cons, Fits.string, true_and]
  refine ⟨.object ?_, by simp⟩
  simp [Fits.string, fits_ofNat h]

theorem Summary.fits_json (depth : Nat) {s : Summary} (htotal : s.total < 2 ^ 64)
    (hcount : ∀ severity, s.count severity ≤ s.total) : Fits (depth + 1) s.json := by
  have hfits (severity : Severity) : Fits depth (ofNat (s.count severity)) :=
    fits_ofNat (Nat.lt_of_le_of_lt (hcount severity) htotal)
  refine .object ?_
  simp only [List.forall_mem_cons]
  exact ⟨fits_ofNat htotal, hfits .critical, hfits .high, hfits .medium, hfits .low, by simp⟩

theorem Bucket.fits_json (depth : Nat) {b : Bucket}
    (h : ∀ f ∈ b.findings, f.location.line < 2 ^ 64) : Fits (depth + 4) b.json := by
  refine .object ?_
  simp only [List.forall_mem_cons, Fits.string, true_and]
  exact ⟨fits_map fun f hf => Finding.fits_json depth (h f hf), by simp⟩

theorem Section.fits_json (depth : Nat) {s : Section}
    (h : ∀ f ∈ s.findings, f.location.line < 2 ^ 64) : Fits (depth + 6) s.json := by
  refine .object ?_
  simp only [List.forall_mem_cons, Fits.string, true_and]
  refine ⟨fits_map fun b hb => Bucket.fits_json depth fun f hf => h f ?_, by simp⟩
  exact List.mem_flatMap.mpr ⟨b, hb, hf⟩

/-- The document of a report is nested eight deep. -/
theorem Report.fits_json (depth : Nat) (r : Results) (title : String) (made : Timestamp)
    (hcount : r.findings.length < 2 ^ 64)
    (hline : ∀ f ∈ r.findings, f.location.line < 2 ^ 64) :
    Fits (depth + 8) ((Report.ofResults r).json title made) := by
  have htotal : (Report.ofResults r).summary.total = r.findings.length :=
    Summary.total_ofFindings r.findings
  have hsummary : Fits (depth + 7) (Report.ofResults r).summary.json := by
    refine Summary.fits_json (depth + 6) (by omega) fun severity => ?_
    rw [htotal]
    exact (Summary.count_ofFindings r.findings severity).trans_le (List.length_filter_le ..)
  have hsections : Fits (depth + 7)
      (.array ((Report.ofResults r).sections.map Section.json)) := by
    refine fits_map fun s hs => Section.fits_json depth fun f hf => hline f ?_
    exact (Report.sections_perm r).mem_iff.mp (List.mem_flatMap.mpr ⟨s, hs, hf⟩)
  refine .object ?_
  simp only [List.forall_mem_cons, Fits.string, true_and]
  exact ⟨hsummary, hsections, by simp⟩

/-! ## The round trip -/

/-- The document of a report is accepted by the parser, and what is read from it is the
report with its title and time. -/
theorem Results.render_json_decodes (r : Results) (title : String) (made : Timestamp)
    (hcount : r.findings.length < 2 ^ 64)
    (hline : ∀ f ∈ r.findings, f.location.line < 2 ^ 64) :
    (Json.parse? (r.render .json title made)).bind Report.Titled.ofJson? =
      some ⟨title, made.text "T", Report.ofResults r⟩ := by
  have hfits : Fits nestingLimit ((Report.ofResults r).json title made) :=
    Report.fits_json 119 r title made hcount hline
  rw [Results.render, parse?_prettyText hfits, Option.bind_some,
    Report.Titled.ofJson?_settled]

/-- A finding with quotes, backslashes, control characters and the greatest line. -/
def trickyFinding : Finding where
  severity := .high
  category := .sqlInjection
  location := ⟨"a\"b\\c.js", 18446744073709551615⟩
  description := "tab\t, line\n, \x01 and é"
  recommendation := ""
  snippet := "𝄞\r/"

theorem Results.render_json_decodes_tricky :
    trickyFinding.location.line = 2 ^ 64 - 1 ∧
      (Json.parse? (Results.render ⟨[⟨"static_analysis", [trickyFinding]⟩, ⟨"config", []⟩]⟩ .json
          "T\x1f" ⟨2024, 1, 2, 3, 4, 5⟩)).bind Report.Titled.ofJson? =
        some ⟨"T\x1f", "2024-01-02T03:04:05",
          ⟨⟨1, 0, 1, 0, 0⟩, [⟨"static_analysis", [⟨.high, [trickyFinding]⟩]⟩]⟩⟩ :=
  ⟨by decide,
    (Results.render_json_decodes _ _ _ (by decide) (by decide)).trans (by decide +kernel)⟩

end BackendAudit
