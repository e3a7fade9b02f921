import BackendAudit.Proofs.Pattern.Starts
import BackendAudit.Proofs.Rule.Guard
import BackendAudit.Proofs.Text.LineText
import BackendAudit.Scan.Content
import Mathlib.Data.List.Forall2

/-!
# What findings point at

Every finding of a content is on one of its lines.  A finding of a rule has the line on
which its match begins, and the text of that line; a finding about a route shows the first
characters of the route, from the line on which it begins.

* `Rule.findingsOf_show`: the findings of a matcher show its matches, one by one.
* `Rule.findingsOf_eq_map`: they follow from the places at which matches begin.
* `Rule.findingsOf_ascending`: they come in the order of their lines.
* `Registry.filter_scan`: the findings of one category are those of its rules.
* `Registry.scan_points`: all findings of a content.
-/

namespace BackendAudit

open Text

/-! ## Findings of rules -/

/-- A finding shows a match of a rule: it says what the rule says, its line is that on
which the match begins, and its snippet is the text of that line without the blanks at
its ends. -/
structure Rule.Shows (r : Rule) (name : String) (content : List Char) (span : Nat × Nat)
    (f : Finding) : Prop where
  severity_eq : f.severity = r.severity
  category_eq : f.category = r.category
  description_eq : f.description = r.description
  recommendation_eq : f.recommendation = r.remediation
  target_eq : f.location.target = name
  line_eq : ∃ before part after, content = before ++ part ++ after ∧
    byteLength before = span.1 ∧ byteLength (before ++ part) = span.2 ∧
    f.location.line = before.count '\n' + 1
  snippet_eq : ∃ text, (LineIndex.ofContent content).Reads content f.location.line text ∧
    f.snippet = String.ofList (trim text)

theorem Rule.Shows.line_bounds {r : Rule} {name : String} {content : List Char}
    {span : Nat × Nat} {f : Finding} (h : r.Shows name content span f) :
    1 ≤ f.location.line ∧ f.location.line ≤ content.count '\n' + 1 := by
  obtain ⟨_, hreads, _⟩ := h.snippet_eq
  exact hreads.isLine.bounds

theorem lineOf_append (before rest : List Char) :
    (LineIndex.ofContent (before ++ rest)).lineOf (byteLength before) =
      before.count '\n' + 1 := by
  rw [LineIndex.lineOf_ofContent, lineFeedsBefore_append]

theorem Rule.findingsOf_show (r : Rule) (name : String) (content : List Char) (m : Matcher) :
    List.Forall₂ (r.Shows name content) (m.findAll content)
      (r.findingsOf (Source.ofContent name content) m) := by
  rw [Rule.findingsOf, List.forall₂_map_right_iff]
  refine List.forall₂_same.mpr fun span hspan => ?_
  obtain ⟨before, part, after, rfl, hfirst, hlast⟩ := (Pattern.Automaton.findAll_ordered content).1
    span ((m.findAll_sublist content).subset hspan)
  obtain ⟨text, htext⟩ := exists_isLine before (part ++ after)
  have hline := lineOf_append before (part ++ after)
  rw [← List.append_assoc] at htext hline
  have hreads := LineIndex.reads_line htext
  simp only [Source.ofContent, ← hfirst, hline, hreads.lineText_eq, Option.getD_some]
  exact ⟨rfl, rfl, rfl, rfl, rfl, ⟨before, part, after, rfl, hfirst, hlast, rfl⟩, text, hreads, rfl⟩

/-- The finding of a rule about what begins between two parts of a content. -/
def Rule.findingAt (r : Rule) (name : String) (before rest : List Char) : Finding :=
  r.finding name (before.count '\n' + 1) (String.ofList (trim (lineAround before rest)))

/-- The findings of a matcher follow from the places at which its matches begin. -/
theorem Rule.findingsOf_eq_map {r : Rule} {name : String} {content : List Char} {m : Matcher}
    {cuts : List (List Char × List Char)} (hcuts : ∀ cut ∈ cuts, content = cut.1 ++ cut.2)
    (hstarts : (m.findAll content).map Prod.fst = cuts.map fun cut => byteLength cut.1) :
    r.findingsOf (Source.ofContent name content) m =
      cuts.map fun cut => r.findingAt name cut.1 cut.2 := by
  have hfindings : r.findingsOf (Source.ofContent name content) m =
      ((m.findAll content).map Prod.fst).map fun start =>
        r.finding name ((LineIndex.ofContent content).lineOf start) (String.ofList (trim
          (((LineIndex.ofContent content).lineText? content
            ((LineIndex.ofContent content).lineOf start)).getD []))) := by
    rw [List.map_map]
    rfl
  rw [hfindings, hstarts, List.map_map]
  refine List.map_congr_left fun cut hcut => ?_
  obtain rfl := hcuts cut hcut
  have hreads := LineIndex.reads_line (isLine_lineAround cut.1 cut.2)
  simp only [Function.comp_apply, lineOf_append, hreads.lineText_eq, Option.getD_some, findingAt]

/-- A matcher without guard whose expression reads one part of a content has one finding. -/
theorem Rule.findingsOf_eq_singleton {r : Rule} {name : String} {m : Matcher}
    {before part after : List Char} (hguard : m.guard = none) (hsolid : m.pattern.expr.Solid)
    (hfits : m.pattern.expr.Fits before part after)
    (hunique : ∀ front whole back, before ++ part ++ after = front ++ whole ++ back →
      m.pattern.expr.Fits front whole back → front = before ∧ whole = part) :
    r.findingsOf (Source.ofContent name (before ++ part ++ after)) m =
      [r.findingAt name before (part ++ after)] := by
  have hfound := Pattern.Automaton.findAll_eq_singleton hsolid hfits hunique
  refine @findingsOf_eq_map r name _ m [(before, part ++ after)] (by simp) ?_
  rw [Matcher.findAll_eq_of_guard hguard, Pattern.findAll_eq_ofExpr, hfound]
  rfl

/-- One whose expression reads no part has none. -/
theorem Rule.findingsOf_eq_nil {r : Rule} {name : String} {m : Matcher} {content : List Char}
    (hguard : m.guard = none) (hnone : ∀ before part after, content = before ++ part ++ after →
      ¬ m.pattern.expr.Fits before part after) :
    r.findingsOf (Source.ofContent name content) m = [] := by
  refine @findingsOf_eq_map r name _ m [] (by simp) ?_
  rw [Matcher.findAll_eq_of_guard hguard, Pattern.findAll_eq_ofExpr,
    Pattern.Automaton.findAll_eq_nil hnone]
  rfl

theorem Rule.exists_shows_of_mem {r : Rule} {name : String} {content : List Char} {m : Matcher}
    {f : Finding} (h : f ∈ r.findingsOf (Source.ofContent name content) m) :
    ∃ span, r.Shows name content span f := by
  have hshow := r.findingsOf_show name content m
  obtain ⟨span, hspan, rfl⟩ := List.mem_map.mp h
  rw [Rule.findingsOf, List.forall₂_map_right_iff] at hshow
  exact ⟨span, List.forall₂_same.mp hshow span hspan⟩

theorem Rule.findingsOf_ascending (r : Rule) (name : String) (content : List Char)
    (m : Matcher) :
    (r.findingsOf (Source.ofContent name content) m).Pairwise fun f g =>
      f.location.line ≤ g.location.line := by
  have hordered : Pattern.Automaton.Ordered 0 (m.pattern.findAll content) :=
    (Pattern.Automaton.findAll_ordered content).2
  rw [Rule.findingsOf, List.pairwise_map]
  refine (hordered.2.sublist (m.findAll_sublist content)).imp_of_mem fun {x y} hx _ hxy => ?_
  have hle : x.1 ≤ x.2 := (hordered.1 x ((m.findAll_sublist content).subset hx)).2
  exact LineIndex.lineOf_mono (Nat.le_trans hle hxy)

/-! ## Findings about routes -/

/-- A finding about a route shows the first characters of a part of the content, and its
line is that on which they begin. -/
def ShowsRoute (content : List Char) (f : Finding) : Prop :=
  ∃ before shown after, content = before ++ shown ++ after ∧ shown.length ≤ routeSnippetLength ∧
    f.snippet = String.ofList shown ++ "..." ∧ f.location.line = before.count '\n' + 1

theorem ShowsRoute.line_bounds {content : List Char} {f : Finding} (h : ShowsRoute content f) :
    1 ≤ f.location.line ∧ f.location.line ≤ content.count '\n' + 1 := by
  obtain ⟨before, shown, after, rfl, _, _, hline⟩ := h
  rw [hline, List.count_append, List.count_append]
  omega

theorem routeErrorHandling_showsRoute {name : String} {content : List Char} {f : Finding}
    (h : f ∈ routeErrorHandling.check (Source.ofContent name content)) :
    ShowsRoute content f := by
  simp only [routeErrorHandling, Source.ofContent] at h
  split at h
  · obtain ⟨⟨first, last⟩, hspan, hfinding⟩ := List.mem_filterMap.mp h
    obtain ⟨before, part, after, rfl, hfirst, hlast⟩ :=
      (Pattern.Automaton.findAll_ordered content).1 _ hspan
    dsimp only at hfirst hlast hfinding
    rw [← hfirst, ← hlast, slice_eq, List.append_assoc, lineOf_append] at hfinding
    split at hfinding
    · cases hfinding
    · cases hfinding
      refine ⟨before, part.take routeSnippetLength, part.drop routeSnippetLength ++ after, ?_,
        List.length_take_le _ _, rfl, rfl⟩
      rw [List.append_assoc before (part.take _), ← List.append_assoc (part.take _),
        List.take_append_drop, List.append_assoc]
  · cases h

/-! ## All findings of a content -/

/-- The finding about missing validation is on the first line. -/
theorem inputValidation_line {source : Source} {f : Finding}
    (h : f ∈ inputValidation.check source) : f.location.line = 1 := by
  simp only [inputValidation] at h
  split at h
  · split at h
    · cases h
    · rw [List.mem_singleton.mp h]
  · cases h

theorem Registry.scan_eq_append (registry : Registry) (name content : String) :
    registry.scan name content =
      (registry.rules.flatMap fun r => r.matchers.flatMap
        (r.findingsOf (Source.ofContent name content.toList))) ++
      routeErrorHandling.check (Source.ofContent name content.toList) ++
      inputValidation.check (Source.ofContent name content.toList) := by
  rw [Registry.scan, structuralFindings, heuristics, List.flatMap_cons, List.flatMap_singleton,
    List.append_assoc]
  rfl

theorem routeErrorHandling_category {source : Source} {f : Finding}
    (h : f ∈ routeErrorHandling.check source) : f.category = .errorHandling := by
  simp only [routeErrorHandling] at h
  split at h
  · obtain ⟨span, _, hfinding⟩ := List.mem_filterMap.mp h
    split at hfinding
    · cases hfinding
    · cases hfinding
      rfl
  · cases h

theorem inputValidation_category {source : Source} {f : Finding}
    (h : f ∈ inputValidation.check source) : f.category = .security := by
  simp only [inputValidation] at h
  split at h
  · split at h
    · cases h
    · rw [List.mem_singleton.mp h]
  · cases h

/-- Where what each element gives has the key of the element, those with one key give what all
give with that key. -/
theorem filter_flatMap_of_key {α β κ : Type} [DecidableEq κ] {f : α → List β} (key : α → κ)
    (key' : β → κ) (h : ∀ x, ∀ y ∈ f x, key' y = key x) (l : List α) (k : κ) :
    (l.flatMap f).filter (fun y => key' y = k) =
      (l.filter fun x => key x = k).flatMap f := by
  induction l with
  | nil => rfl
  | cons x l ih =>
    rw [List.flatMap_cons, List.filter_append, ih, List.filter_cons]
    by_cases hx : key x = k
    · have hall : (f x).filter (fun y => key' y = k) = f x :=
        List.filter_eq_self.mpr fun y hy => decide_eq_true ((h x y hy).trans hx)
      rw [hall, if_pos (decide_eq_true hx), List.flatMap_cons]
    · have hnone : (f x).filter (fun y => key' y = k) = [] := by
        refine List.filter_eq_nil_iff.mpr fun y hy => ?_
        rwa [decide_eq_true_eq, h x y hy]
      rw [hnone, if_neg (by simpa using hx), List.nil_append]

/-- The findings of a category that no structural check has are those of the rules of that
category. -/
theorem Registry.filter_scan (registry : Registry) {c : Category} (hroute : c ≠ .errorHandling)
    (hinput : c ≠ .security) (name content : String) :
    (registry.scan name content).filter (fun f => f.category = c) =
      (registry.rulesFor c).flatMap fun r => r.matchers.flatMap
        (r.findingsOf (Source.ofContent name content.toList)) := by
  have hcategory : ∀ r : Rule, ∀ f ∈ r.matchers.flatMap
      (r.findingsOf (Source.ofContent name content.toList)), f.category = r.category := by
    intro r f hf
    obtain ⟨m, _, hf⟩ := List.mem_flatMap.mp hf
    obtain ⟨span, _, rfl⟩ := List.mem_map.mp hf
    rfl
  have hroutes : (routeErrorHandling.check (Source.ofContent name content.toList)).filter
      (fun f => f.category = c) = [] := by
    refine List.filter_eq_nil_iff.mpr fun f hf => ?_
    rw [decide_eq_true_eq, routeErrorHandling_category hf]
    exact hroute.symm
  have hinputs : (inputValidation.check (Source.ofContent name content.toList)).filter
      (fun f => f.category = c) = [] := by
    refine List.filter_eq_nil_iff.mpr fun f hf => ?_
    rw [decide_eq_true_eq, inputValidation_category hf]
    exact hinput.symm
  rw [registry.scan_eq_append, List.filter_append, List.filter_append, hroutes, hinputs,
    List.append_nil, List.append_nil,
    filter_flatMap_of_key Rule.category Finding.category hcategory, rulesFor]

/-- What the findings of a content point at: those of each matcher show its matches, in the
order of their lines; those about routes show the beginning of a route; and the line of
every finding is one of the content. -/
theorem Registry.scan_points (registry : Registry) (name content : String) :
    registry.scan name content =
        (registry.rules.flatMap fun r => r.matchers.flatMap
          (r.findingsOf (Source.ofContent name content.toList))) ++
        routeErrorHandling.check (Source.ofContent name content.toList) ++
        inputValidation.check (Source.ofContent name content.toList) ∧
      (∀ r ∈ registry.rules, ∀ m ∈ r.matchers,
        List.Forall₂ (r.Shows name content.toList) (m.findAll content.toList)
            (r.findingsOf (Source.ofContent name content.toList) m) ∧
          (r.findingsOf (Source.ofContent name content.toList) m).Pairwise fun f g =>
            f.location.line ≤ g.location.line) ∧
      (∀ f ∈ routeErrorHandling.check (Source.ofContent name content.toList),
        ShowsRoute content.toList f) ∧
      ∀ f ∈ registry.scan name content,
        1 ≤ f.location.line ∧ f.location.line ≤ content.toList.count '\n' + 1 := by
  refine ⟨registry.scan_eq_append name content, fun r _ m _ =>
    ⟨r.findingsOf_show name _ m, r.findingsOf_ascending name _ m⟩,
    fun f => routeErrorHandling_showsRoute, fun f hf => ?_⟩
  rw [registry.scan_eq_append, List.mem_append, List.mem_append] at hf
  rcases hf with (hrule | hroute) | hinput
  · obtain ⟨r, _, hrule⟩ := List.mem_flatMap.mp hrule
    obtain ⟨m, _, hfinding⟩ := List.mem_flatMap.mp hrule
    obtain ⟨span, hshows⟩ := Rule.exists_shows_of_mem hfinding
    exact hshows.line_bounds
  · exact (routeErrorHandling_showsRoute hroute).line_bounds
  · rw [inputValidation_line hinput]
    omega

end BackendAudit
