import BackendAudit.Proofs.Rule.Registry

/-!
# The built-in rules one by one

The whole table of built-in definitions is accepted, so that the rules of a category are those
of its definitions, and their matchers have the patterns that are written there.

* `Registry.builtin_rulesFor`: the rule of a category with one definition.
* `MatcherDef.of_compile_plain`, `MatcherDef.of_compile_guarded`: what a matcher is made of.
-/

namespace BackendAudit

/-- The rules of a table that is accepted are those of its definitions. -/
theorem Registry.ofTable_eq_ok_iff {table : List RuleDef} {registry : Registry} :
    ofTable table = .ok registry ↔
      List.Forall₂ (fun d r => RuleDef.compile d = .ok r) table registry.rules := by
  rw [← mapM_eq_ok_iff, ofTable]
  cases table.mapM RuleDef.compile with
  | error e => simp [Except.map]
  | ok rules =>
    simp only [Except.map, Except.ok.injEq]
    constructor
    · rintro rfl
      rfl
    · rintro rfl
      rfl

set_option maxRecDepth 10000 in
theorem Registry.ofTable_builtinRules_isOk : (ofTable builtinRules).isOk = true := by
  decide +kernel

theorem exists_ok_of_isOk {ε α : Type} {x : Except ε α} (h : x.isOk = true) : ∃ y, x = .ok y := by
  cases x with
  | error e => cases h
  | ok y => exact ⟨y, rfl⟩

/-- All built-in definitions are accepted. -/
theorem Registry.builtin_rules :
    List.Forall₂ (fun d r => RuleDef.compile d = .ok r) builtinRules Registry.builtin.rules := by
  obtain ⟨registry, hregistry⟩ := exists_ok_of_isOk Registry.ofTable_builtinRules_isOk
  have hbuiltin : Registry.builtin = registry := by
    unfold builtin
    rw [hregistry]
  rw [hbuiltin]
  exact Registry.ofTable_eq_ok_iff.mp hregistry

/-- The rule of a definition has its texts, and a matcher for each of its patterns. -/
theorem RuleDef.compile_eq_ok_iff {d : RuleDef} {r : Rule} :
    d.compile = .ok r ↔ ∃ matchers,
      List.Forall₂ (fun md m => MatcherDef.compile md = .ok m) d.matchers matchers ∧
        r = ⟨d.category, d.severity, d.description, d.remediation, matchers⟩ := by
  simp only [← mapM_eq_ok_iff, compile]
  cases d.matchers.mapM MatcherDef.compile with
  | error e => simp
  | ok matchers => simp [eq_comm]

theorem RuleDef.category_of_compile {d : RuleDef} {r : Rule} (h : d.compile = .ok r) :
    r.category = d.category := by
  obtain ⟨_, _, rfl⟩ := RuleDef.compile_eq_ok_iff.mp h
  rfl

/-- The rules of a category are those of its definitions. -/
theorem Registry.builtin_rulesFor (c : Category) :
    List.Forall₂ (fun d r => RuleDef.compile d = .ok r)
      (builtinRules.filter fun d => d.category = c) (Registry.builtin.rulesFor c) := by
  have hrules := Registry.builtin_rules
  rw [rulesFor]
  generalize builtinRules = table, Registry.builtin.rules = rules at hrules
  induction hrules with
  | nil => exact .nil
  | cons hr _ ih =>
    rw [List.filter_cons, List.filter_cons, RuleDef.category_of_compile hr]
    split
    · exact .cons hr ih
    · exact ih

/-- The rule of a category with one definition. -/
theorem Registry.exists_builtin_rule {c : Category} {d : RuleDef}
    (h : builtinRules.filter (fun d => d.category = c) = [d]) :
    ∃ matchers, List.Forall₂ (fun md m => MatcherDef.compile md = .ok m) d.matchers matchers ∧
      Registry.builtin.rulesFor c =
        [⟨d.category, d.severity, d.description, d.remediation, matchers⟩] := by
  have hrules := Registry.builtin_rulesFor c
  rw [h, List.forall₂_cons_left_iff] at hrules
  obtain ⟨r, rules, hr, hnil, hrules⟩ := hrules
  obtain ⟨matchers, hmatchers, rfl⟩ := RuleDef.compile_eq_ok_iff.mp hr
  rw [List.forall₂_nil_left_iff.mp hnil] at hrules
  exact ⟨matchers, hmatchers, hrules⟩

/-! ## Matchers -/

theorem Matcher.of_compile {source : String} {m : Matcher} (h : Matcher.compile source = .ok m) :
    Pattern.compile source = .ok m.pattern ∧ m.guard = none := by
  rw [Matcher.compile] at h
  cases hp : Pattern.compile source with
  | error e =>
    rw [hp] at h
    cases h
  | ok p =>
    rw [hp] at h
    dsimp only at h
    split at h
    · cases h
      exact ⟨rfl, rfl⟩
    · cases h

theorem MatcherDef.of_compile_plain {source : String} {m : Matcher}
    (h : (plain source).compile = .ok m) :
    Pattern.compile source = .ok m.pattern ∧ m.guard = none := by
  rw [compile] at h
  cases hm : Matcher.compile (plain source).pattern with
  | error e =>
    rw [hm] at h
    cases h
  | ok m' =>
    rw [hm] at h
    cases h
    exact Matcher.of_compile hm

theorem MatcherDef.of_compile_guarded {source guard : String} {w : Window} {m : Matcher}
    (h : (guarded source guard w).compile = .ok m) :
    Pattern.compile source = .ok m.pattern ∧
      ∃ p, Pattern.compile guard = .ok p ∧ m.guard = some ⟨p, w⟩ := by
  rw [compile] at h
  cases hm : Matcher.compile (guarded source guard w).pattern with
  | error e =>
    rw [hm] at h
    cases h
  | ok m' =>
    rw [hm] at h
    dsimp only [guarded, Matcher.withGuard] at h
    cases hp : Pattern.compile guard with
    | error e =>
      rw [hp] at h
      cases h
    | ok p =>
      rw [hp] at h
      cases h
      exact ⟨(Matcher.of_compile hm).1, p, rfl, rfl⟩

end BackendAudit
