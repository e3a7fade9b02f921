import BackendAudit.Error
import BackendAudit.Proofs.Rule.Builtin

/-!
# Loading definitions

A registry is made from custom definitions, behind the built-in rules, or from a table.  Both go
through their definitions in order, and through the patterns of each in order; both accept a list
of definitions just when each is good by itself, and otherwise tell the first fault of the first
that is not (`Loads`).  They differ in what a good definition is: a custom one needs a pattern,
and one of a table may put guards on its patterns (`Registry.loads`).

* `CustomRule.compile_eq_error_iff`, `RuleDef.compile_eq_error_iff`: the first fault of a
  definition.
* `loads_of_compile`: a loader that compiles its definitions one by one.
-/

namespace BackendAudit

/-! ## Patterns as they are written -/

theorem Pattern.source_of_compile {source : String} {p : Pattern}
    (h : Pattern.compile source = .ok p) : p.source = source := by
  rw [compile, compileWith] at h
  split at h
  · cases h
  · split at h
    · cases h
    · rw [← Except.ok.inj h]
      rfl

/-- A text that is not accepted is told as it is written, or is too large. -/
theorem Pattern.error_of_compile {source : String} {e : PatternError}
    (h : Pattern.compile source = .error e) : e = .malformed source ∨ e = .tooLarge := by
  rw [compile, compileWith] at h
  split at h
  · exact .inl (Except.error.inj h).symm
  · split at h
    · exact .inr (Except.error.inj h).symm
    · cases h

/-- The fault of a pattern tells that pattern, unless it is too large. -/
theorem Matcher.error_of_compile {source : String} {e : MatcherError}
    (h : Matcher.compile source = .error e) :
    e = .pattern (.malformed source) ∨ e = .pattern .tooLarge ∨ e = .matchesEmpty source := by
  rw [compile] at h
  split at h
  next e' he' =>
    rw [← Except.error.inj h]
    exact (Pattern.error_of_compile he').imp (congrArg _) fun hlarge => .inl (congrArg _ hlarge)
  next =>
    split at h
    · cases h
    · exact .inr (.inr (Except.error.inj h).symm)

/-! ## Custom definitions -/

namespace CustomRule

variable {d : CustomRule}

/-- A custom definition is good if it has patterns and each is accepted. -/
def Good (d : CustomRule) : Prop :=
  d.patterns ≠ [] ∧ ∀ source ∈ d.patterns, ∃ m, Matcher.compile source = .ok m

/-- The first fault of a custom definition. -/
def Faulty (d : CustomRule) (fault : RuleFault) : Prop :=
  d.patterns = [] ∧ fault = .noPatterns ∨
    ∃ e, FirstError Matcher.compile d.patterns e ∧ fault = .matcher e

/-- The rule of a custom definition has its texts, and an unguarded matcher for each pattern. -/
def Makes (d : CustomRule) (rule : Rule) : Prop :=
  ∃ matchers, rule = ⟨d.category, d.severity, d.description, d.remediation, matchers⟩ ∧
    List.Forall₂ (fun source m => Matcher.compile source = .ok m) d.patterns matchers

/-- What a custom definition says about itself, as it is written. -/
def info (d : CustomRule) : RuleInfo :=
  ⟨d.category, d.severity, d.description, d.remediation, d.patterns⟩

theorem exists_compile_eq_ok_iff : (∃ rule, d.compile = .ok rule) ↔ d.Good := by
  simp only [compile_eq_ok_iff, Good, ← exists_mapM_eq_ok_iff]
  constructor
  · rintro ⟨_, hne, matchers, hmatchers, -⟩
    exact ⟨hne, matchers, hmatchers⟩
  · rintro ⟨hne, matchers, hmatchers⟩
    exact ⟨_, hne, matchers, hmatchers, rfl⟩

theorem makes_of_compile {rule : Rule} (h : d.compile = .ok rule) : d.Makes rule := by
  obtain ⟨-, matchers, hmatchers, rfl⟩ := compile_eq_ok_iff.mp h
  exact ⟨matchers, rfl, mapM_eq_ok_iff.mp hmatchers⟩

theorem info_of_makes {rule : Rule} (h : d.Makes rule) : rule.info = d.info := by
  obtain ⟨matchers, rfl, hmatchers⟩ := h
  have hsources : (matchers.map fun m => m.pattern.source) = d.patterns.map id :=
    map_eq_map_of_forall₂ (hmatchers.imp fun _ _ hm =>
      Pattern.source_of_compile (Matcher.of_compile hm).1)
  rw [Rule.info, info, hsources, List.map_id]

theorem compile_eq_error_iff {e : RuleError} :
    d.compile = .error e ↔ e.category = d.category ∧ d.Faulty e.fault := by
  obtain ⟨category, fault⟩ := e
  simp only [compile, Faulty, ← mapM_eq_error_iff_firstError]
  by_cases hempty : d.patterns = []
  · simp [hempty, pure, Except.pure, eq_comm]
  · rw [if_neg (by simpa using hempty)]
    cases d.patterns.mapM Matcher.compile with
    | ok matchers => simp [hempty]
    | error e => simp [hempty, eq_comm]

end CustomRule

/-! ## Definitions of a table -/

namespace MatcherDef

variable {d : MatcherDef}

/-- A matcher is good if its pattern is accepted, and the pattern of its guard can be read. -/
def Good (d : MatcherDef) : Prop :=
  (∃ m, Matcher.compile d.pattern = .ok m) ∧ ∀ g ∈ d.guard, ∃ p, Pattern.compile g.1 = .ok p

/-- The first fault of a matcher: that of its pattern, or else that of its guard. -/
def Faulty (d : MatcherDef) (e : MatcherError) : Prop :=
  Matcher.compile d.pattern = .error e ∨
    (∃ m, Matcher.compile d.pattern = .ok m) ∧
      ∃ g ∈ d.guard, ∃ e', Pattern.compile g.1 = .error e' ∧ e = .pattern e'

/-- A matcher has its pattern, and a guard just if one is written. -/
def Makes (d : MatcherDef) (m : Matcher) : Prop :=
  Pattern.compile d.pattern = .ok m.pattern ∧
    Option.Rel (fun g guard => Pattern.compile g.1 = .ok guard.pattern ∧ guard.window = g.2)
      d.guard m.guard

theorem exists_compile_eq_ok_iff : (∃ m, d.compile = .ok m) ↔ d.Good := by
  obtain ⟨source, guard⟩ := d
  simp only [compile, Good]
  cases hm : Matcher.compile source with
  | error e => simp
  | ok m =>
    cases guard with
    | none => simp
    | some g =>
      obtain ⟨guardSource, window⟩ := g
      cases hp : Pattern.compile guardSource with
      | error e => simp [Matcher.withGuard, hp]
      | ok p => simp [Matcher.withGuard, hp]

theorem makes_of_compile {m : Matcher} (h : d.compile = .ok m) : d.Makes m := by
  obtain ⟨source, guard⟩ := d
  cases guard with
  | none =>
    obtain ⟨hpattern, hguard⟩ := of_compile_plain h
    exact ⟨hpattern, hguard ▸ .none⟩
  | some g =>
    obtain ⟨guardSource, window⟩ := g
    obtain ⟨hpattern, p, hp, hguard⟩ := of_compile_guarded h
    exact ⟨hpattern, hguard ▸ .some ⟨hp, rfl⟩⟩

theorem compile_eq_error_iff {e : MatcherError} : d.compile = .error e ↔ d.Faulty e := by
  obtain ⟨source, guard⟩ := d
  simp only [compile, Faulty]
  cases hm : Matcher.compile source with
  | error e' => simp
  | ok m =>
    cases guard with
    | none => simp
    | some g =>
      obtain ⟨guardSource, window⟩ := g
      cases hp : Pattern.compile guardSource with
      | error e' => simp [Matcher.withGuard, hp, eq_comm]
      | ok p => simp [Matcher.withGuard, hp]

end MatcherDef

namespace RuleDef

variable {d : RuleDef}

/-- A rule of a table is good if all its matchers are; it may have none. -/
def Good (d : RuleDef) : Prop := ∀ md ∈ d.matchers, md.Good

/-- The first fault of a rule of a table. -/
def Faulty (d : RuleDef) (fault : RuleFault) : Prop :=
  ∃ e, (∃ before md after, d.matchers = before ++ md :: after ∧ (∀ other ∈ before, other.Good) ∧
    md.Faulty e) ∧ fault = .matcher e

/-- The rule of a definition has its texts, and a matcher for each that is written. -/
def Makes (d : RuleDef) (rule : Rule) : Prop :=
  ∃ matchers, rule = ⟨d.category, d.severity, d.description, d.remediation, matchers⟩ ∧
    List.Forall₂ MatcherDef.Makes d.matchers matchers

/-- What a definition says about itself, as it is written. -/
def info (d : RuleDef) : RuleInfo :=
  ⟨d.category, d.severity, d.description, d.remediation, d.matchers.map (·.pattern)⟩

theorem exists_compile_eq_ok_iff : (∃ rule, d.compile = .ok rule) ↔ d.Good := by
  simp only [compile_eq_ok_iff, ← mapM_eq_ok_iff, Good, ← MatcherDef.exists_compile_eq_ok_iff]
  rw [← exists_mapM_eq_ok_iff]
  constructor
  · rintro ⟨_, matchers, hmatchers, -⟩
    exact ⟨matchers, hmatchers⟩
  · rintro ⟨matchers, hmatchers⟩
    exact ⟨_, matchers, hmatchers, rfl⟩

theorem makes_of_compile {rule : Rule} (h : d.compile = .ok rule) : d.Makes rule := by
  obtain ⟨matchers, hmatchers, rfl⟩ := compile_eq_ok_iff.mp h
  exact ⟨matchers, rfl, hmatchers.imp fun _ _ => MatcherDef.makes_of_compile⟩

theorem info_of_makes {rule : Rule} (h : d.Makes rule) : rule.info = d.info := by
  obtain ⟨matchers, rfl, hmatchers⟩ := h
  have hsources : (matchers.map fun m => m.pattern.source) = d.matchers.map (·.pattern) :=
    map_eq_map_of_forall₂ (hmatchers.imp fun _ _ hm => Pattern.source_of_compile hm.1)
  rw [Rule.info, info, hsources]

theorem compile_eq_error_iff {e : RuleError} :
    d.compile = .error e ↔ e.category = d.category ∧ d.Faulty e.fault := by
  obtain ⟨category, fault⟩ := e
  simp only [compile, Faulty, ← MatcherDef.exists_compile_eq_ok_iff,
    ← MatcherDef.compile_eq_error_iff, ← mapM_eq_error_iff]
  cases d.matchers.mapM MatcherDef.compile with
  | ok matchers => simp
  | error e => simp [eq_comm]

end RuleDef

/-! ## Loaders -/

/-- What is to be known of one kind of definitions. -/
structure DefinitionKind (δ : Type) where
  category : δ → Category
  /-- What a definition says about itself. -/
  info : δ → RuleInfo
  /-- A definition is accepted. -/
  Good : δ → Prop
  /-- The first fault of one that is not. -/
  Faulty : δ → RuleFault → Prop
  /-- The rule that comes of one that is. -/
  Makes : δ → Rule → Prop

/-- Custom definitions. -/
def CustomRule.definitions : DefinitionKind CustomRule :=
  ⟨category, info, Good, Faulty, Makes⟩

/-- Definitions of a table. -/
def RuleDef.definitions : DefinitionKind RuleDef :=
  ⟨category, info, Good, Faulty, Makes⟩

/-- A loader accepts just the lists of good definitions.  Their rules then stand in order behind
the ones that it has, and show what is written; otherwise the first definition that is not good
is told, with its first fault. -/
structure Loads {δ : Type} (k : DefinitionKind δ) (own : List Rule)
    (load : List δ → Except RuleError Registry) : Prop where
  accepts : ∀ defs, (∃ registry, load defs = .ok registry) ↔ ∀ d ∈ defs, k.Good d
  gives : ∀ defs registry, load defs = .ok registry →
    (∃ rules, registry.rules = own ++ rules ∧ List.Forall₂ k.Makes defs rules) ∧
      registry.infos = own.map Rule.info ++ defs.map k.info
  refuses : ∀ defs e, load defs = .error e ↔
    ∃ before d after, defs = before ++ d :: after ∧ (∀ other ∈ before, k.Good other) ∧
      e.category = k.category d ∧ k.Faulty d e.fault

/-- A loader compiles its definitions one by one. -/
theorem loads_of_compile {δ : Type} {k : DefinitionKind δ} {own : List Rule}
    {load : List δ → Except RuleError Registry} {compile : δ → Except RuleError Rule}
    (hload : ∀ defs, load defs = (defs.mapM compile).map fun rules => ⟨own ++ rules⟩)
    (hgood : ∀ d, (∃ rule, compile d = .ok rule) ↔ k.Good d)
    (hmakes : ∀ d rule, compile d = .ok rule → k.Makes d rule)
    (hinfo : ∀ d rule, k.Makes d rule → rule.info = k.info d)
    (hfaulty : ∀ d e, compile d = .error e ↔ e.category = k.category d ∧ k.Faulty d e.fault) :
    Loads k own load := by
  constructor
  case accepts =>
    intro defs
    simp only [← hgood, ← exists_mapM_eq_ok_iff, hload]
    cases defs.mapM compile <;> simp [Except.map]
  case gives =>
    intro defs registry h
    rw [hload] at h
    cases hrules : defs.mapM compile with
    | error e =>
      rw [hrules] at h
      cases h
    | ok rules =>
      rw [hrules] at h
      cases h
      have hmade : List.Forall₂ k.Makes defs rules :=
        (mapM_eq_ok_iff.mp hrules).imp fun _ _ => hmakes _ _
      refine ⟨⟨rules, rfl, hmade⟩, ?_⟩
      rw [Registry.infos, List.map_append,
        map_eq_map_of_forall₂ (hmade.imp fun _ _ => hinfo _ _)]
  case refuses =>
    intro defs e
    have herror : load defs = .error e ↔ FirstError compile defs e := by
      rw [← mapM_eq_error_iff_firstError, hload]
      cases defs.mapM compile <;> simp [Except.map]
    rw [herror]
    simp only [FirstError, hgood, hfaulty]

/-- Custom definitions are loaded behind the built-in rules, and a table by itself.  A custom
definition without patterns is faulty, and a definition of a table without matchers is good.  An
error tells the category and the fault, and this the pattern that is at fault: what is wrong with
it as it is written, or that it matches the empty text. -/
theorem Registry.loads :
    Loads CustomRule.definitions builtin.rules withCustom ∧
      Loads RuleDef.definitions [] ofTable ∧
      (∀ d : CustomRule, d.patterns = [] → ∀ fault, d.Faulty fault ↔ fault = .noPatterns) ∧
      (∀ d : RuleDef, d.matchers = [] → d.Good) ∧
      (∀ source e, Matcher.compile source = .error e →
        e = .pattern (.malformed source) ∨ e = .pattern .tooLarge ∨ e = .matchesEmpty source) ∧
      (∀ source e, Pattern.compile source = .error e → e = .malformed source ∨ e = .tooLarge) ∧
      ∀ w : Wording,
        RuleFault.noPatterns.message w = "custom rule has no patterns" ∧
        (∀ source, (RuleFault.matcher (.pattern (.malformed source))).message w =
          w.pattern source) ∧
        (∀ source, (RuleFault.matcher (.matchesEmpty source)).message w =
          "pattern '" ++ source ++ "' matches the empty string") ∧
        ∀ e : RuleError, (AuditError.rule e).kind = .rule ∧
          (AuditError.rule e).message w =
            "Rule error (" ++ e.category.name ++ "): " ++ e.fault.message w := by
  refine ⟨?custom, ?table, ?noPatterns, ?noMatchers, fun _ _ => Matcher.error_of_compile,
    fun _ _ => Pattern.error_of_compile,
    fun w => ⟨rfl, fun _ => rfl, fun _ => rfl, fun e => ⟨rfl, ?message⟩⟩⟩
  case custom =>
    exact loads_of_compile (fun _ => rfl) (fun _ => CustomRule.exists_compile_eq_ok_iff)
      (fun _ _ => CustomRule.makes_of_compile) (fun _ _ => CustomRule.info_of_makes)
      fun _ _ => CustomRule.compile_eq_error_iff
  case table =>
    exact loads_of_compile (fun _ => rfl) (fun _ => RuleDef.exists_compile_eq_ok_iff)
      (fun _ _ => RuleDef.makes_of_compile) (fun _ _ => RuleDef.info_of_makes)
      fun _ _ => RuleDef.compile_eq_error_iff
  case noPatterns =>
    intro d hempty fault
    simp only [CustomRule.Faulty, hempty, FirstError, List.nil_eq, List.append_eq_nil_iff,
      reduceCtorEq, and_false, false_and, exists_false, true_and, or_false]
  case noMatchers =>
    intro d hempty md hmd
    rw [hempty] at hmd
    cases hmd
  case message =>
    have hopen : "Rule error (" = "Rule error " ++ "(" := by decide
    have hmessage : (AuditError.rule e).message w =
        "Rule error " ++ ("(" ++ e.category.name ++ "): " ++ e.fault.message w) := rfl
    rw [hmessage]
    simp only [hopen, String.append_assoc]

end BackendAudit
