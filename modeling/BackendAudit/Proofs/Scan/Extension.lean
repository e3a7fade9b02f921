import BackendAudit.Proofs.Rule.Registry
import BackendAudit.Scan.Content

/-!
# Custom rules only add findings

The findings of custom rules stand between those of the built-in rules and those of the
structural checks, which are the same as without them.  What a custom pattern adds is told
from its own definition and the content alone (`CustomRule.patternFindings`), so none of
them touches another.

* `CustomRule.findings_of_compile`: what an accepted definition finds, pattern by pattern.
* `Registry.adds_of_withCustom`: what a registry with custom rules finds.
* `Registry.withCustom_conservative`: with and without custom rules, and with two lists.
-/

namespace BackendAudit

/-- What the rules of a registry find in a content. -/
def Registry.findings (r : Registry) (source : Source) : List Finding :=
  r.rules.flatMap fun rule => rule.findings source

theorem Registry.scan_eq (r : Registry) (name content : String) :
    r.scan name content = r.findings (Source.ofContent name content.toList) ++
      structuralFindings (Source.ofContent name content.toList) := rfl

/-! ## What a definition adds -/

/-- What one pattern of a custom definition finds: the findings of a rule with the texts of
the definition, and with this pattern alone.  A text that is no pattern finds nothing. -/
def CustomRule.patternFindings (d : CustomRule) (source : Source) (pattern : String) :
    List Finding :=
  match Matcher.compile pattern with
  | .ok m => (d.withMatchers [m]).findings source
  | .error _ => []

/-- What the patterns of a custom definition find, in order. -/
def CustomRule.findings (d : CustomRule) (source : Source) : List Finding :=
  d.patterns.flatMap (d.patternFindings source)

/-- What the definitions of a list find, in order. -/
def customFindings (custom : List CustomRule) (source : Source) : List Finding :=
  custom.flatMap fun d => d.findings source

theorem CustomRule.patternFindings_of_compile (d : CustomRule) (source : Source)
    {pattern : String} {m : Matcher} (h : Matcher.compile pattern = .ok m)
    (matchers : List Matcher) :
    d.patternFindings source pattern = (d.withMatchers matchers).findingsOf source m := by
  rw [CustomRule.patternFindings, h]
  -- a finding has the texts of its rule, and nothing of the other matchers
  show [m].flatMap ((d.withMatchers [m]).findingsOf source) = _
  rw [List.flatMap_singleton]
  rfl

/-- The rule of an accepted definition finds what its patterns find. -/
theorem CustomRule.findings_of_compile {d : CustomRule} {rule : Rule}
    (h : d.compile = .ok rule) (source : Source) : rule.findings source = d.findings source := by
  obtain ⟨_, matchers, hmatchers, rfl⟩ := CustomRule.compile_eq_ok_iff.mp h
  have hpairs := mapM_eq_ok_iff.mp hmatchers
  clear hmatchers h
  rw [CustomRule.findings]
  show matchers.flatMap ((d.withMatchers matchers).findingsOf source) = _
  generalize hrule : d.withMatchers matchers = rule
  -- the induction is on the matchers that are still to come, so the rule is fixed
  have hfindings : ∀ pattern m, Matcher.compile pattern = .ok m →
      d.patternFindings source pattern = rule.findingsOf source m := by
    intro pattern m hm
    rw [← hrule]
    exact d.patternFindings_of_compile source hm matchers
  clear hrule
  generalize d.patterns = patterns at hpairs
  induction hpairs with
  | nil => rfl
  | cons hm _ ih => rw [List.flatMap_cons, List.flatMap_cons, ih, hfindings _ _ hm]

/-- The rules of accepted definitions find what the definitions find. -/
theorem customFindings_of_mapM {custom : List CustomRule} {rules : List Rule}
    (h : custom.mapM CustomRule.compile = .ok rules) (source : Source) :
    (rules.flatMap fun rule => rule.findings source) = customFindings custom source := by
  have hpairs := mapM_eq_ok_iff.mp h
  clear h
  rw [customFindings]
  induction hpairs with
  | nil => rfl
  | cons hd _ ih =>
    rw [List.flatMap_cons, List.flatMap_cons, ih, CustomRule.findings_of_compile hd]

/-! ## Scans -/

/-- On every content, a registry finds what the built-in rules find, then `added`, and then
what the structural checks find. -/
def Registry.Adds (r : Registry) (added : Source → List Finding) : Prop :=
  ∀ name content, r.scan name content =
    Registry.builtin.findings (Source.ofContent name content.toList) ++
      added (Source.ofContent name content.toList) ++
      structuralFindings (Source.ofContent name content.toList)

/-- The built-in registry adds nothing to its own findings. -/
theorem Registry.builtin_adds : Registry.builtin.Adds fun _ => [] := by
  intro name content
  rw [Registry.scan_eq, List.append_nil]

/-- A registry with custom rules adds what these find. -/
theorem Registry.adds_of_withCustom {custom : List CustomRule} {r : Registry}
    (h : Registry.withCustom custom = .ok r) : r.Adds (customFindings custom) := by
  obtain ⟨rules, hrules, rfl⟩ := Registry.extend_eq_ok_iff.mp h
  intro name content
  rw [Registry.scan_eq, Registry.findings, List.flatMap_append, customFindings_of_mapM hrules,
    Registry.findings]

/-- Custom rules only add their findings between those of the built-in rules and those of
the structural checks, which stay as they are.  Each of their patterns is accepted and adds
its own findings, and two lists that are accepted are accepted as one, which adds the
findings of the first and then those of the second. -/
theorem Registry.withCustom_conservative {custom more : List CustomRule} {r r' : Registry}
    (h : Registry.withCustom custom = .ok r) (h' : Registry.withCustom more = .ok r') :
    (∀ d ∈ custom, ∀ pattern ∈ d.patterns, ∃ m, Matcher.compile pattern = .ok m) ∧
      (Registry.builtin.Adds fun _ => []) ∧ r.Adds (customFindings custom) ∧
      ∃ both, Registry.withCustom (custom ++ more) = .ok both ∧
        both.Adds fun source => customFindings custom source ++ customFindings more source := by
  obtain ⟨rules, hrules, _⟩ := Registry.extend_eq_ok_iff.mp h
  refine ⟨?accepted, Registry.builtin_adds, Registry.adds_of_withCustom h, ?together⟩
  case accepted =>
    intro d hd pattern hpattern
    obtain ⟨rule, _, hcompile⟩ := exists_ok_of_mapM hrules d hd
    obtain ⟨_, matchers, hmatchers, _⟩ := CustomRule.compile_eq_ok_iff.mp hcompile
    obtain ⟨m, _, hm⟩ := exists_ok_of_mapM hmatchers pattern hpattern
    exact ⟨m, hm⟩
  case together =>
    obtain ⟨rules', hrules', _⟩ := Registry.extend_eq_ok_iff.mp h'
    have hboth : Registry.withCustom (custom ++ more) =
        .ok ⟨Registry.builtin.rules ++ (rules ++ rules')⟩ :=
      Registry.extend_eq_ok_iff.mpr ⟨_, mapM_append_eq_ok hrules hrules', rfl⟩
    have hadds := Registry.adds_of_withCustom hboth
    refine ⟨_, hboth, ?_⟩
    intro name content
    rw [hadds name content, customFindings, List.flatMap_append]
    rfl

/-- Two patterns for leftovers of debugging. -/
def debuggingRule : CustomRule :=
  ⟨.logicErrors, .medium, "Debugging statement left in code", "", ["\\bdebugger\\b", "alert\\("]⟩

/-- A pattern that matches where the others do. -/
def anyWordRule : CustomRule := ⟨.config, .low, "Word", "", ["\\w+"]⟩

/-- Both lists are accepted, though their patterns match the same words. -/
theorem Registry.withCustom_debuggingRule :
    ∃ r r', Registry.withCustom [debuggingRule] = .ok r ∧
      Registry.withCustom [anyWordRule] = .ok r' ∧
      (∀ d ∈ [debuggingRule], ∀ pattern ∈ d.patterns, ∃ m, Matcher.compile pattern = .ok m) ∧
      (Registry.builtin.Adds fun _ => []) ∧ r.Adds (customFindings [debuggingRule]) ∧
      ∃ both, Registry.withCustom ([debuggingRule] ++ [anyWordRule]) = .ok both ∧
        both.Adds fun source =>
          customFindings [debuggingRule] source ++ customFindings [anyWordRule] source := by
  have hdebugging : (Registry.withCustom [debuggingRule]).isOk = true := by rfl
  have hword : (Registry.withCustom [anyWordRule]).isOk = true := by rfl
  cases h : Registry.withCustom [debuggingRule] with
  | error e => rw [h] at hdebugging; cases hdebugging
  | ok r =>
    cases h' : Registry.withCustom [anyWordRule] with
    | error e => rw [h'] at hword; cases hword
    | ok r' => exact ⟨r, r', rfl, rfl, Registry.withCustom_conservative h h'⟩

end BackendAudit
