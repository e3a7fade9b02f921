import BackendAudit.Proofs.Rule.BlankLine
import BackendAudit.Proofs.Scan.Extension
import BackendAudit.Proofs.Scan.Places

/-!
# Findings below blank lines

Blank lines on top of a content move the findings of rules and about routes down by their
number.  The finding about missing validation, which is about the whole file, stays on the
first line.

* `Rule.findingsOf_lineFeed`, `routeErrorHandling_lineFeed`, `inputValidation_lineFeed`: one
  blank line more.
* `Registry.builtin_scan_blankLines`: any number of them, on top of any content.
-/

namespace BackendAudit

open Text

/-! ## One blank line -/

/-- Behind the match of a matcher stands the text of the same line. -/
theorem Rule.findingsOf_lineFeed (r : Rule) (name : String) {content : List Char} {m : Matcher}
    (hskips : m.skipsBlankLine = true) (hlines : content.count '\n' + 2 < UInt64.size) :
    r.findingsOf (Source.ofContent name ('\n' :: content)) m =
      (r.findingsOf (Source.ofContent name content) m).map (Finding.downBy 1) := by
  rw [findingsOf, findingsOf]
  dsimp only [Source.ofContent]
  rw [Matcher.findAll_lineFeed hskips hlines, List.map_map, List.map_map]
  apply List.map_congr_left
  intro span _
  have hline : ∃ line, (LineIndex.ofContent content).lineOf span.1 = line + 1 := by
    rw [LineIndex.lineOf_ofContent]
    exact ⟨_, rfl⟩
  obtain ⟨line, hline⟩ := hline
  simp only [Function.comp_apply, oneOn, LineIndex.lineOf_lineFeed, hline,
    LineIndex.lineText?_lineFeed]
  rfl

set_option maxRecDepth 4000 in
theorem routePattern_skipsBlankLine : routePattern.automaton.skipsBlankLine = true := by rfl

theorem routeErrorHandling_lineFeed (name : String) (content : List Char) :
    routeErrorHandling.check (Source.ofContent name ('\n' :: content)) =
      (routeErrorHandling.check (Source.ofContent name content)).map (Finding.downBy 1) := by
  have hexpress : contains "express".toList ('\n' :: content) =
      contains "express".toList content :=
    contains_lineFeed (by decide) content
  have hroutes : routePattern.findAll ('\n' :: content) =
      (routePattern.findAll content).map oneOn :=
    Pattern.Automaton.findAll_lineFeed routePattern_skipsBlankLine content
  simp only [routeErrorHandling, Source.ofContent, hexpress, hroutes]
  split
  · rw [List.filterMap_map, List.map_filterMap]
    apply List.filterMap_congr
    intro span hspan
    have hroute : slice (span.1 + 1) (span.2 + 1) ('\n' :: content) =
        slice span.1 span.2 content :=
      slice_lineFeed ((Pattern.Automaton.findAll_ordered content).1 span hspan)
    simp only [Function.comp_apply, oneOn, hroute, LineIndex.lineOf_lineFeed]
    split <;> rfl
  · rfl

theorem inputValidation_lineFeed (name : String) (content : List Char) :
    inputValidation.check (Source.ofContent name ('\n' :: content)) =
      inputValidation.check (Source.ofContent name content) := by
  have hinputs : (requestInputs.any fun part => contains part.toList ('\n' :: content)) =
      requestInputs.any fun part => contains part.toList content := by
    have hvisible : ∀ part ∈ requestInputs, part.toList.head?.any fun c => c != '\n' := by decide
    rw [Bool.eq_iff_iff, List.any_eq_true, List.any_eq_true]
    apply exists_congr
    intro part
    apply and_congr_right
    intro hpart
    rw [contains_lineFeed (hvisible part hpart)]
  have hmarkers :
      (validationMarkers.any fun part => contains part.toList (lowercase ('\n' :: content))) =
        validationMarkers.any fun part => contains part.toList (lowercase content) := by
    have hvisible : ∀ part ∈ validationMarkers, part.toList.head?.any fun c => c != '\n' := by
      decide
    have hsigma : ∀ part ∈ validationMarkers,
        part.toList.all fun c => c != 'σ' && c != 'ς' := by decide
    rw [Bool.eq_iff_iff, List.any_eq_true, List.any_eq_true]
    apply exists_congr
    intro part
    apply and_congr_right
    intro hpart
    rw [contains_lowercase_lineFeed (hvisible part hpart) (hsigma part hpart)]
  simp only [inputValidation, Source.ofContent, hinputs, hmarkers]

/-! ## Many blank lines -/

/-- The findings of a content that go with its lines: those of rules and those about
routes. -/
def Registry.lineFindings (registry : Registry) (source : Source) : List Finding :=
  registry.findings source ++ routeErrorHandling.check source

/-- The findings of a content: those that go with its lines, and that about the file. -/
theorem Registry.scan_eq_lineFindings (registry : Registry) (name content : String) :
    registry.scan name content =
      registry.lineFindings (Source.ofContent name content.toList) ++
        inputValidation.check (Source.ofContent name content.toList) :=
  registry.scan_eq_append name content

variable {registry : Registry}

theorem Registry.lineFindings_lineFeed
    (hskips : ∀ r ∈ registry.rules, ∀ m ∈ r.matchers, m.skipsBlankLine = true)
    (name : String) {content : List Char} (hlines : content.count '\n' + 2 < UInt64.size) :
    registry.lineFindings (Source.ofContent name ('\n' :: content)) =
      (registry.lineFindings (Source.ofContent name content)).map (Finding.downBy 1) := by
  have hrules : registry.findings (Source.ofContent name ('\n' :: content)) =
      (registry.findings (Source.ofContent name content)).map (Finding.downBy 1) := by
    rw [findings, findings, List.map_flatMap]
    apply List.flatMap_congr
    intro r hr
    rw [Rule.findings, Rule.findings, List.map_flatMap]
    apply List.flatMap_congr
    intro m hm
    exact r.findingsOf_lineFeed name (hskips r hr m hm) hlines
  rw [lineFindings, lineFindings, hrules, routeErrorHandling_lineFeed, List.map_append]

/-- Blank lines on top of a content, one for each line feed. -/
def blankLines (k : Nat) : List Char := List.replicate k '\n'

theorem Registry.lineFindings_blankLines
    (hskips : ∀ r ∈ registry.rules, ∀ m ∈ r.matchers, m.skipsBlankLine = true)
    (name : String) {content : List Char} {k : Nat}
    (hlines : content.count '\n' + k + 1 < UInt64.size) :
    registry.lineFindings (Source.ofContent name (blankLines k ++ content)) =
      (registry.lineFindings (Source.ofContent name content)).map (Finding.downBy k) := by
  induction k with
  | zero => exact (List.map_id _).symm
  | succ k ih =>
    have hcount : (blankLines k ++ content).count '\n' = content.count '\n' + k := by
      rw [blankLines, List.count_append, List.count_replicate_self, Nat.add_comm]
    have hcons : blankLines (k + 1) ++ content = '\n' :: (blankLines k ++ content) := rfl
    rw [hcons, lineFindings_lineFeed hskips name (by omega), ih (by omega), List.map_map]
    apply List.map_congr_left
    intro f _
    exact f.downBy_add k 1

theorem inputValidation_blankLines (name : String) (content : List Char) (k : Nat) :
    inputValidation.check (Source.ofContent name (blankLines k ++ content)) =
      inputValidation.check (Source.ofContent name content) := by
  induction k with
  | zero => rfl
  | succ k ih => exact (inputValidation_lineFeed name _).trans ih

/-- With blank lines on top of a content, the built-in rules and the structural checks find
what they find without them, in the same order and with the same texts.  All findings are so
many lines further down, but for that about missing validation, which is on the first line.

The number of a line is a machine word, and so is that of the line behind it, which a guard
may look at. -/
theorem Registry.builtin_scan_blankLines (name content : String) (k : Nat)
    (hlines : content.toList.count '\n' + k + 1 < UInt64.size) :
    Registry.builtin.scan name content =
        Registry.builtin.lineFindings (Source.ofContent name content.toList) ++
          inputValidation.check (Source.ofContent name content.toList) ∧
      Registry.builtin.scan name (String.ofList (blankLines k) ++ content) =
        (Registry.builtin.lineFindings (Source.ofContent name content.toList)).map
            (Finding.downBy k) ++
          inputValidation.check (Source.ofContent name content.toList) ∧
      ∀ f ∈ inputValidation.check (Source.ofContent name content.toList),
        f.location.line = 1 := by
  refine ⟨Registry.builtin.scan_eq_lineFindings name content, ?_, fun f => inputValidation_line⟩
  rw [scan_eq_lineFindings, String.toList_append, String.toList_ofList,
    lineFindings_blankLines Registry.builtin_skipsBlankLine name hlines,
    inputValidation_blankLines]

/-- A route without error handling, on the second line, that uses data of a request. -/
def bodyRoute : String := "express\napp.put(a,()=>\x7breq.body\x7d)"

set_option maxRecDepth 4000 in
/-- With two blank lines on top, the route is found on the fourth line, and the missing
validation on the first. -/
theorem Registry.builtin_scan_bodyRoute :
    bodyRoute.toList.count '\n' + 2 + 1 < UInt64.size ∧
      (∃ f ∈ Registry.builtin.scan "a.js" bodyRoute,
        f.category = .errorHandling ∧ f.location.line = 2) ∧
      (∃ f ∈ Registry.builtin.scan "a.js" (String.ofList (blankLines 2) ++ bodyRoute),
        f.category = .errorHandling ∧ f.location.line = 4) ∧
      ∃ f ∈ Registry.builtin.scan "a.js" (String.ofList (blankLines 2) ++ bodyRoute),
        f.category = .security ∧ f.location.line = 1 := by
  have hlines : bodyRoute.toList.count '\n' + 2 + 1 < UInt64.size := by decide
  obtain ⟨hscan, hblank, _⟩ := Registry.builtin_scan_blankLines "a.js" bodyRoute 2 hlines
  have hroute : (routeErrorHandling.check (Source.ofContent "a.js" bodyRoute.toList)).map
      (fun f => (f.category, f.location.line)) = [(.errorHandling, 2)] := by rfl
  have hinput : (inputValidation.check (Source.ofContent "a.js" bodyRoute.toList)).map
      (fun f => (f.category, f.location.line)) = [(.security, 1)] := by rfl
  obtain ⟨f, hf, hplace⟩ := List.mem_map.mp (hroute ▸ List.mem_singleton_self _)
  obtain ⟨g, hg, hfirst⟩ := List.mem_map.mp (hinput ▸ List.mem_singleton_self _)
  obtain ⟨hcategory, hline⟩ := Prod.mk.inj hplace
  have hmoving : f ∈ Registry.builtin.lineFindings (Source.ofContent "a.js" bodyRoute.toList) :=
    List.mem_append_right _ hf
  rw [hscan, hblank]
  refine ⟨hlines, ⟨f, List.mem_append_left _ hmoving, hcategory, hline⟩,
    ⟨f.downBy 2, List.mem_append_left _ (List.mem_map_of_mem hmoving), hcategory, ?_⟩,
    g, List.mem_append_right _ hg, Prod.mk.inj hfirst⟩
  show f.location.line + 2 = 4
  rw [hline]

end BackendAudit
