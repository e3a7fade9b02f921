import BackendAudit.Rule.Builtin
import Mathlib.Data.List.Forall2

/-!
# Registries with custom rules

A list of custom definitions is accepted if each of them is, and a definition is accepted if
it has patterns and each of these is.  The rules that come of it stand behind those of the
registry, one for each definition, with one matcher for each pattern.

* `mapM_eq_ok_iff`, `mapM_eq_error_iff`: a list is read if each of its members is.
* `FirstError`: the first member that is not.
* `CustomRule.compile_eq_ok_iff`, `Registry.extend_eq_ok_iff`: what is accepted, and as what.
* `Registry.extend_eq_error_iff`: what is refused, and with which error.
-/

namespace BackendAudit

/-! ## Lists that are read member by member -/

section MapM

variable {ε α β : Type} {f : α → Except ε β}

/-- A list is read if each of its members is, and what comes of it are their results. -/
theorem mapM_eq_ok_iff {xs : List α} {ys : List β} :
    xs.mapM f = .ok ys ↔ List.Forall₂ (fun x y => f x = .ok y) xs ys := by
  induction xs generalizing ys with
  | nil => cases ys <;> simp [pure, Except.pure]
  | cons x xs ih =>
    rw [List.mapM_cons]
    cases hx : f x with
    | error e => cases ys <;> simp [bind, Except.bind, hx]
    | ok y =>
      cases hxs : xs.mapM f with
      | error e => cases ys <;> simp [bind, Except.bind, hx, hxs, ← ih]
      | ok ys' => cases ys <;> simp [bind, Except.bind, pure, Except.pure, hx, hxs, ← ih]

/-- A list is not read if one of its members is not, and the first of these tells why. -/
theorem mapM_eq_error_iff {xs : List α} {e : ε} :
    xs.mapM f = .error e ↔ ∃ before x after, xs = before ++ x :: after ∧
      (∀ y ∈ before, ∃ z, f y = .ok z) ∧ f x = .error e := by
  induction xs with
  | nil => simp [pure, Except.pure]
  | cons x xs ih =>
    rw [List.mapM_cons]
    cases hx : f x with
    | error e' =>
      constructor
      · intro h
        cases h
        exact ⟨[], x, xs, rfl, by simp, hx⟩
      · rintro ⟨before, y, after, hxs, hbefore, hy⟩
        cases before with
        | nil =>
          cases hxs
          rw [hx] at hy
          cases hy
          rfl
        | cons z before =>
          cases hxs
          obtain ⟨_, hok⟩ := hbefore x List.mem_cons_self
          rw [hx] at hok
          cases hok
    | ok y =>
      have hrest : (Except.ok y >>= fun y => xs.mapM f >>= fun ys => pure (y :: ys)) =
          Except.error e ↔ xs.mapM f = .error e := by
        cases xs.mapM f <;> simp [bind, Except.bind, pure, Except.pure]
      rw [hrest, ih]
      constructor
      · rintro ⟨before, z, after, rfl, hbefore, hz⟩
        refine ⟨x :: before, z, after, rfl, ?_, hz⟩
        intro w hw
        rcases List.mem_cons.mp hw with rfl | hw
        · exact ⟨y, hx⟩
        · exact hbefore w hw
      · rintro ⟨before, z, after, hxs, hbefore, hz⟩
        cases before with
        | nil =>
          cases hxs
          rw [hx] at hz
          cases hz
        | cons w before =>
          cases hxs
          exact ⟨before, z, after, rfl, fun w hw => hbefore w (List.mem_cons_of_mem _ hw), hz⟩

/-- Each member of a list that is read has a result. -/
theorem exists_ok_of_mapM {xs : List α} {ys : List β} (h : xs.mapM f = .ok ys) :
    ∀ x ∈ xs, ∃ y ∈ ys, f x = .ok y := by
  have hpairs := mapM_eq_ok_iff.mp h
  clear h
  induction hpairs with
  | nil => simp
  | cons hx _ ih =>
    intro x hmem
    rcases List.mem_cons.mp hmem with rfl | hmem
    · exact ⟨_, List.mem_cons_self, hx⟩
    · obtain ⟨y, hy, hok⟩ := ih x hmem
      exact ⟨y, List.mem_cons_of_mem _ hy, hok⟩

/-- A list can be read if each of its members can. -/
theorem exists_mapM_eq_ok_iff {xs : List α} :
    (∃ ys, xs.mapM f = .ok ys) ↔ ∀ x ∈ xs, ∃ y, f x = .ok y := by
  constructor
  · rintro ⟨ys, h⟩ x hx
    obtain ⟨y, _, hy⟩ := exists_ok_of_mapM h x hx
    exact ⟨y, hy⟩
  · intro h
    cases hxs : xs.mapM f with
    | ok ys => exact ⟨ys, rfl⟩
    | error e =>
      obtain ⟨before, x, after, rfl, -, hx⟩ := mapM_eq_error_iff.mp hxs
      obtain ⟨y, hy⟩ := h x (by simp)
      rw [hx] at hy
      cases hy

/-- Two lists that are read, one behind the other, are read as one. -/
theorem mapM_append_eq_ok {xs xs' : List α} {ys ys' : List β} (h : xs.mapM f = .ok ys)
    (h' : xs'.mapM f = .ok ys') : (xs ++ xs').mapM f = .ok (ys ++ ys') := by
  rw [mapM_eq_ok_iff] at h h' ⊢
  exact List.rel_append h h'

/-- The first member of a list that is not read, and why. -/
def FirstError (f : α → Except ε β) (xs : List α) (e : ε) : Prop :=
  ∃ before x after, xs = before ++ x :: after ∧ (∀ y ∈ before, ∃ z, f y = .ok z) ∧
    f x = .error e

theorem mapM_eq_error_iff_firstError {xs : List α} {e : ε} :
    xs.mapM f = .error e ↔ FirstError f xs e :=
  mapM_eq_error_iff

/-- What is shown of the results, if it is what is written in the members. -/
theorem map_eq_map_of_forall₂ {γ : Type} {xs : List α} {ys : List β} {shown : β → γ}
    {written : α → γ} (h : List.Forall₂ (fun x y => shown y = written x) xs ys) :
    ys.map shown = xs.map written := by
  induction h with
  | nil => rfl
  | cons hm _ ih => rw [List.map_cons, List.map_cons, hm, ih]

end MapM

/-! ## What is accepted -/

/-- The rule of a custom definition with some matchers. -/
def CustomRule.withMatchers (d : CustomRule) (matchers : List Matcher) : Rule :=
  ⟨d.category, d.severity, d.description, d.remediation, matchers⟩

/-- A definition is accepted if it has patterns and each of them is.  Its rule has a matcher
for each pattern. -/
theorem CustomRule.compile_eq_ok_iff {d : CustomRule} {rule : Rule} :
    d.compile = .ok rule ↔ d.patterns ≠ [] ∧
      ∃ matchers, d.patterns.mapM Matcher.compile = .ok matchers ∧
        rule = d.withMatchers matchers := by
  rw [CustomRule.compile]
  split
  · rename_i hempty
    rw [List.isEmpty_iff] at hempty
    simp [hempty]
  · rename_i hempty
    rw [List.isEmpty_iff] at hempty
    cases d.patterns.mapM Matcher.compile with
    | error e => simp
    | ok matchers =>
      simp only [Except.ok.injEq, ne_eq, hempty, not_false_eq_true, true_and]
      constructor
      · rintro rfl
        exact ⟨matchers, rfl, rfl⟩
      · rintro ⟨_, rfl, rfl⟩
        rfl

/-- A list of definitions is accepted if each of them is.  Their rules stand behind those of
the registry. -/
theorem Registry.extend_eq_ok_iff {r extended : Registry} {custom : List CustomRule} :
    r.extend custom = .ok extended ↔
      ∃ rules, custom.mapM CustomRule.compile = .ok rules ∧ extended = ⟨r.rules ++ rules⟩ := by
  rw [Registry.extend]
  cases custom.mapM CustomRule.compile with
  | error e => simp [Except.map]
  | ok rules =>
    simp only [Except.map, Except.ok.injEq]
    constructor
    · rintro rfl
      exact ⟨rules, rfl, rfl⟩
    · rintro ⟨_, rfl, rfl⟩
      rfl

/-- The first custom definition that is not accepted has this error. -/
def FirstRejected (custom : List CustomRule) (e : RuleError) : Prop :=
  ∃ before d after, custom = before ++ d :: after ∧
    (∀ d' ∈ before, ∃ rule, d'.compile = .ok rule) ∧ d.compile = .error e

/-- A list of definitions is refused with the error of the first that is not accepted. -/
theorem Registry.extend_eq_error_iff {r : Registry} {custom : List CustomRule} {e : RuleError} :
    r.extend custom = .error e ↔ FirstRejected custom e := by
  have hextend : r.extend custom = .error e ↔ custom.mapM CustomRule.compile = .error e := by
    rw [Registry.extend]
    cases custom.mapM CustomRule.compile <;> simp [Except.map]
  rw [hextend, mapM_eq_error_iff]
  rfl

/-- Without custom definitions a registry stays as it is. -/
theorem Registry.extend_nil (r : Registry) : r.extend [] = .ok r := by
  rw [Registry.extend_eq_ok_iff]
  refine ⟨[], rfl, ?_⟩
  rw [List.append_nil]

end BackendAudit
