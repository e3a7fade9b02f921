import BackendAudit.Proofs.Pattern.Spelling
import BackendAudit.Proofs.Pattern.Starts
import BackendAudit.Proofs.Rule.Builtin
import BackendAudit.Proofs.Scan.Places
import Mathlib.Data.List.Sort

/-!
# Leaks

A call that sets something up counts as a leak when what takes it down again is not named
anywhere behind it.

* `leaks`: the leaks in a content, from the front on.
* `Teardown.Finds.findingsOf_eq`: a matcher for calls, with a guard for the rest of the content,
  has one finding for each of them.
* `Registry.builtin_leaks`: the findings of the built-in rule.
-/

namespace BackendAudit

open Text
open Pattern (Expr Foldable)
open Pattern.Expr

/-! ## Leaks in a text -/

/-- A text begins with a call: with the name of a function in any case, blanks and an opening
bracket. -/
def BeginsCall (callee text : List Char) : Prop :=
  ∃ called blanks after, text = called ++ blanks ++ '(' :: after ∧ Spells callee called ∧
    Blank blanks

/-- A text begins with a call that sets something up, and what takes it down again is not named
in it. -/
def BeginsLeak (setUp takeDown text : List Char) : Prop :=
  BeginsCall setUp text ∧ ¬ Mentions takeDown text

theorem beginsCall_iff {callee text : List Char} : BeginsCall callee text ↔
    Spells callee (text.take callee.length) ∧
      ((text.drop callee.length).dropWhile isBlank).head? = some '(' := by
  constructor
  · rintro ⟨called, blanks, after, rfl, hcalled, hblanks⟩
    rw [List.append_assoc, ← List.Forall₂.length_eq hcalled, List.take_left, List.drop_left,
      List.dropWhile_append_of_pos hblanks, List.dropWhile_cons_of_neg (by decide)]
    exact ⟨hcalled, rfl⟩
  · rintro ⟨hcalled, hbracket⟩
    obtain ⟨after, hafter⟩ := List.head?_eq_some_iff.mp hbracket
    refine ⟨_, (text.drop callee.length).takeWhile isBlank, after, ?_, hcalled,
      fun c => List.mem_takeWhile_imp⟩
    rw [List.append_assoc, ← hafter, List.takeWhile_append_dropWhile, List.take_append_drop]

instance (callee text : List Char) : Decidable (BeginsCall callee text) :=
  decidable_of_iff _ beginsCall_iff.symm

instance (setUp takeDown : List Char) : DecidablePred (BeginsLeak setUp takeDown) := fun _ =>
  inferInstanceAs (Decidable (_ ∧ _))

/-- The ways of dividing a content in two, from the front on. -/
def cuts (content : List Char) : List (List Char × List Char) :=
  (List.range (content.length + 1)).map fun n => (content.take n, content.drop n)

theorem mem_cuts_iff {content : List Char} {cut : List Char × List Char} :
    cut ∈ cuts content ↔ content = cut.1 ++ cut.2 := by
  rw [cuts, List.mem_map]
  constructor
  · rintro ⟨n, _, rfl⟩
    exact (List.take_append_drop n content).symm
  · rintro rfl
    refine ⟨cut.1.length, ?_, by rw [List.take_left, List.drop_left]⟩
    rw [List.mem_range, List.length_append]
    omega

theorem byteLength_take_lt {content : List Char} {n m : Nat} (hlt : n < m)
    (hle : m ≤ content.length) : byteLength (content.take n) < byteLength (content.take m) := by
  obtain ⟨k, rfl⟩ := Nat.exists_eq_add_of_lt hlt
  rw [Nat.add_assoc, List.take_add, byteLength_append]
  have hne : (content.drop n).take (k + 1) ≠ [] := by
    rw [← List.length_pos_iff, List.length_take, List.length_drop]
    omega
  have := mt eq_nil_of_byteLength hne
  omega

theorem cuts_ascending (content : List Char) :
    (cuts content).Pairwise fun x y => byteLength x.1 < byteLength y.1 := by
  rw [cuts, List.pairwise_map]
  refine List.pairwise_lt_range.imp_of_mem fun _ hm hlt => ?_
  rw [List.mem_range] at hm
  exact byteLength_take_lt hlt (by omega)

/-- The leaks in a content: where it is divided so that what is behind begins with one. -/
def leaks (setUp takeDown content : List Char) : List (List Char × List Char) :=
  (cuts content).filter fun cut => BeginsLeak setUp takeDown cut.2

/-! ## Leaks found -/

/-- The name of a function that sets something up, and of what takes it down again.  The first
letter of the one is only once in it, and not in the other. -/
structure Teardown where
  first : Char
  others : List Char
  takeDown : List Char
  isAlpha_first : first.isAlpha = true
  foldable : ∀ c ∈ first :: others ++ takeDown, Foldable c
  first_not_mem : ∀ c ∈ others ++ takeDown, c.toLower ≠ first.toLower
  takeDown_ne_nil : takeDown ≠ []

namespace Teardown

variable (t : Teardown) {before part after : List Char}

/-- The name of the function that sets something up. -/
def setUp : List Char := t.first :: t.others

/-- Reads a call of the function that sets something up. -/
def callExpr : Expr Pattern.CharSet := spelledThen (cat blanks (spelled ['('])) t.setUp

/-- Reads the name of what takes it down. -/
def guardExpr : Expr Pattern.CharSet := spelled t.takeDown

theorem foldable_first : Foldable t.first :=
  t.foldable t.first (by simp)

theorem not_sameFold_first {c : Char} (hc : c ∈ t.others ++ t.takeDown) :
    ¬ SameFold c t.first := by
  intro h
  have hfoldable := t.foldable c (List.mem_cons_of_mem _ hc)
  exact t.first_not_mem c hc (h.toLower_eq hfoldable.1 t.foldable_first.1)

/-- The first letter of the call is not in the name of what takes down what it sets up. -/
theorem not_sameFold_of_mem {word text : List Char} (hword : word ⊆ t.others ++ t.takeDown)
    (htext : Spells word text) {c : Char} (hc : c ∈ text) : ¬ SameFold c t.first := by
  obtain ⟨letter, hletter, hsame⟩ := htext.exists_of_mem hc
  exact fun h => t.not_sameFold_first (hword hletter) (hsame.symm.trans h)

theorem fits_bracket : (spelled ['(']).Fits before part after ↔ part = ['('] := by
  rw [fits_spelled (by decide), spells_iff_eq (by decide)]

theorem fits_callExpr : t.callExpr.Fits before part after ↔
    ∃ called blanks, part = called ++ blanks ++ ['('] ∧ Spells t.setUp called ∧
      Blank blanks := by
  have hfoldable : ∀ c ∈ t.setUp, Foldable c := fun c hc =>
    t.foldable c (List.mem_append_left _ hc)
  simp only [callExpr, fits_spelledThen hfoldable, fits_cat, fits_blanks, fits_bracket]
  constructor
  · rintro ⟨called, _, rfl, hcalled, blanks, _, rfl, hblanks, rfl⟩
    exact ⟨called, blanks, by rw [List.append_assoc], hcalled, hblanks⟩
  · rintro ⟨called, blanks, rfl, hcalled, hblanks⟩
    exact ⟨called, blanks ++ ['('], by rw [List.append_assoc], hcalled, blanks, ['('], rfl,
      hblanks, rfl⟩

/-- The first letter of a call is in it once only. -/
theorem callExpr_headedBy : t.callExpr.HeadedBy fun c => SameFold c t.first := by
  intro before part after hfits
  obtain ⟨_, blanks, rfl, hcalled, hblanks⟩ := t.fits_callExpr.mp hfits
  cases hcalled with
  | @cons c _ others _ hc hothers =>
    refine ⟨c, others ++ blanks ++ ['('], rfl, hc, fun d hd => ?_⟩
    rw [List.mem_append, List.mem_append, List.mem_singleton] at hd
    rcases hd with (hd | hd) | rfl
    · exact t.not_sameFold_of_mem (List.subset_append_left _ _) hothers hd
    · intro hsame
      have hfirst : isBlank t.first = false := by
        refine Bool.eq_false_iff.mpr fun hblank => ?_
        have := Unicode.isAlpha_of_isWhiteSpace hblank
        rw [t.isAlpha_first] at this
        cases this
      have := hsame.isBlank_eq_false t.foldable_first.1 hfirst
      rw [hblanks d hd] at this
      cases this
    · intro hsame
      have halpha := t.isAlpha_first
      rw [SameFold.eq_of_not_isAlpha hsame.symm (by decide) (by decide)] at halpha
      exact absurd halpha (by decide)

theorem fits_guardExpr : t.guardExpr.Fits before part after ↔ Spells t.takeDown part :=
  fits_spelled fun c hc => t.foldable c (List.mem_append_right _ hc)

theorem guardExpr_solid : t.guardExpr.Solid := by
  intro before after hfits
  exact t.takeDown_ne_nil (List.forall₂_nil_left_iff.mp (t.fits_guardExpr.mp hfits))

/-- A match of the guard begins behind the beginning of a call just when the guard is named in
what begins with the call. -/
theorem exists_guard_match_iff {c : Char} {rest : List Char} (hc : SameFold c t.first) :
    (∃ span ∈ (Pattern.Automaton.ofExpr t.guardExpr).findAll (before ++ c :: rest),
        byteLength before ≤ span.1) ↔ Mentions t.takeDown (c :: rest) := by
  have hover : ∀ {front part back : List Char}, t.guardExpr.Fits front part back → c ∉ part :=
    fun hfits hmem => t.not_sameFold_of_mem (List.subset_append_right _ _)
      (t.fits_guardExpr.mp hfits) hmem hc
  rw [Pattern.Automaton.exists_match_behind_iff t.guardExpr_solid hover]
  simp only [fits_guardExpr, Mentions]

/-- A matcher that looks for calls, and for the guard in all that is behind them. -/
structure Finds (m : Matcher) : Prop where
  expr_eq : m.pattern.expr = t.callExpr
  guard_eq : ∃ p : Pattern, m.guard = some ⟨p, .rest⟩ ∧ p.expr = t.guardExpr

end Teardown

/-- With a guard for the rest of the content, the matches are kept behind which no match of the
guard begins. -/
theorem Matcher.mem_findAll_of_rest {m : Matcher} {p : Pattern}
    (hguard : m.guard = some ⟨p, .rest⟩) {content : List Char} {span : Nat × Nat} :
    span ∈ m.findAll content ↔ span ∈ m.pattern.findAll content ∧
      ¬ ∃ hit ∈ p.findAll content, span.1 ≤ hit.1 := by
  have hcovers : (GuardHits.locate ⟨p, .rest⟩ content).covers span.1 = true ↔
      ∃ hit ∈ p.findAll content, span.1 ≤ hit.1 := by
    rw [GuardHits.covers_iff]
    refine exists_congr fun hit => and_congr_right fun hhit => and_iff_left ?_
    exact ((Pattern.Automaton.findAll_ordered content).1 hit hhit).isPlace_end.le
  rw [Matcher.findAll, hguard, List.mem_filter, Bool.not_eq_true', ← Bool.not_eq_true, hcovers]

namespace Teardown

variable {t : Teardown} {m : Matcher}

/-- A match begins where the content is divided so that what is behind begins with a leak. -/
theorem Finds.mem_starts_iff (h : t.Finds m) {content : List Char} {start : Nat} :
    start ∈ (m.findAll content).map Prod.fst ↔
      ∃ before rest, content = before ++ rest ∧ byteLength before = start ∧
        BeginsLeak t.setUp t.takeDown rest := by
  obtain ⟨p, hguard, hp⟩ := h.guard_eq
  have hcalls : m.pattern.findAll content =
      (Pattern.Automaton.ofExpr t.callExpr).findAll content := by
    rw [Pattern.findAll_eq_ofExpr, h.expr_eq]
  have hkept : start ∈ (m.findAll content).map Prod.fst ↔
      start ∈ (m.pattern.findAll content).map Prod.fst ∧
        ¬ ∃ hit ∈ (Pattern.Automaton.ofExpr t.guardExpr).findAll content, start ≤ hit.1 := by
    rw [← hp, ← Pattern.findAll_eq_ofExpr]
    simp only [List.mem_map, Matcher.mem_findAll_of_rest hguard]
    constructor
    · rintro ⟨span, ⟨hspan, hnone⟩, rfl⟩
      exact ⟨⟨span, hspan, rfl⟩, hnone⟩
    · rintro ⟨⟨span, hspan, rfl⟩, hnone⟩
      exact ⟨span, ⟨hspan, hnone⟩, rfl⟩
  rw [hkept, hcalls, Pattern.Automaton.mem_starts_iff t.callExpr_headedBy]
  constructor
  · rintro ⟨⟨before, part, after, rfl, rfl, hfits⟩, hnone⟩
    rw [List.append_assoc] at hnone
    refine ⟨before, part ++ after, List.append_assoc .., rfl, ?_, ?_⟩
    · obtain ⟨called, gap, rfl, hcalled, hgap⟩ := t.fits_callExpr.mp hfits
      exact ⟨called, gap, after, by simp, hcalled, hgap⟩
    · obtain ⟨c, tail, rfl, hc, _⟩ := t.callExpr_headedBy hfits
      exact mt (t.exists_guard_match_iff hc).mpr hnone
  · rintro ⟨before, rest, rfl, rfl, ⟨called, gap, after, rfl, hcalled, hgap⟩, hnone⟩
    have hfits : t.callExpr.Fits before (called ++ gap ++ ['(']) after :=
      t.fits_callExpr.mpr ⟨called, gap, rfl, hcalled, hgap⟩
    refine ⟨⟨before, _, after, by simp, rfl, hfits⟩, ?_⟩
    obtain ⟨c, tail, hpart, hc, _⟩ := t.callExpr_headedBy hfits
    have hrest : called ++ gap ++ '(' :: after = c :: (tail ++ after) := by
      rw [← List.cons_append, ← hpart]
      simp
    rw [hrest] at hnone ⊢
    exact mt (t.exists_guard_match_iff hc).mp hnone

/-- The findings of a matcher that looks for leaks. -/
theorem Finds.findingsOf_eq (h : t.Finds m) (r : Rule) (name : String) (content : List Char) :
    r.findingsOf (Source.ofContent name content) m =
      (leaks t.setUp t.takeDown content).map fun cut => r.findingAt name cut.1 cut.2 := by
  have hcuts : ∀ cut ∈ leaks t.setUp t.takeDown content, content = cut.1 ++ cut.2 := fun cut hcut =>
    mem_cuts_iff.mp (List.mem_filter.mp hcut).1
  refine Rule.findingsOf_eq_map hcuts ?_
  have hstarts : ((m.findAll content).map Prod.fst).Pairwise (· < ·) := by
    rw [List.pairwise_map]
    exact (Pattern.Automaton.findAll_ascending content).sublist (m.findAll_sublist content)
  have hleaks : ((leaks t.setUp t.takeDown content).map fun cut => byteLength cut.1).Pairwise
      (· < ·) := by
    rw [List.pairwise_map]
    exact (cuts_ascending content).sublist List.filter_sublist
  refine hstarts.eq_of_mem_iff hleaks fun start => ?_
  rw [h.mem_starts_iff, List.mem_map]
  constructor
  · rintro ⟨before, rest, hcontent, hplace, hleak⟩
    refine ⟨(before, rest), List.mem_filter.mpr ⟨mem_cuts_iff.mpr hcontent, ?_⟩, hplace⟩
    exact decide_eq_true hleak
  · rintro ⟨cut, hcut, hplace⟩
    exact ⟨cut.1, cut.2, hcuts cut hcut, hplace,
      of_decide_eq_true (List.mem_filter.mp hcut).2⟩

/-- A matcher finds leaks if its patterns are those of the call and of the guard. -/
theorem finds_of_compile {source guard : String}
    (hsource : Pattern.compile source = .ok (.ofExpr source t.callExpr))
    (hguard : Pattern.compile guard = .ok (.ofExpr guard t.guardExpr))
    (h : (guarded source guard .rest).compile = .ok m) :
    t.Finds m ∧ m.pattern.source = source := by
  obtain ⟨hpattern, p, hp, hm⟩ := MatcherDef.of_compile_guarded h
  rw [hsource, Except.ok.injEq] at hpattern
  rw [hguard, Except.ok.injEq] at hp
  rw [← hpattern]
  exact ⟨⟨by rw [← hpattern]; rfl, p, hm, by rw [← hp]; rfl⟩, rfl⟩

end Teardown

/-! ## The built-in rule -/

/-- Timers that go off again and again. -/
def timers : Teardown where
  first := 's'
  others := "etInterval".toList
  takeDown := "clearInterval".toList
  isAlpha_first := by decide
  foldable := by decide
  first_not_mem := by decide
  takeDown_ne_nil := by decide

/-- Listeners to events. -/
def listeners : Teardown where
  first := 'a'
  others := "ddEventListener".toList
  takeDown := "removeEventListener".toList
  isAlpha_first := by decide
  foldable := by decide
  first_not_mem := by decide
  takeDown_ne_nil := by decide

set_option maxRecDepth 4000 in
theorem finds_timers {m : Matcher}
    (h : (guarded "setInterval\\s*\\(" "clearInterval" .rest).compile = .ok m) :
    timers.Finds m ∧ m.pattern.source = "setInterval\\s*\\(" :=
  Teardown.finds_of_compile (by rfl) (by rfl) h

set_option maxRecDepth 4000 in
theorem finds_listeners {m : Matcher}
    (h : (guarded "addEventListener\\s*\\(" "removeEventListener" .rest).compile = .ok m) :
    listeners.Finds m ∧ m.pattern.source = "addEventListener\\s*\\(" :=
  Teardown.finds_of_compile (by rfl) (by rfl) h

/-- The findings about leaks are those of three matchers.  The first two have one for each call that
sets up a timer or a listener and behind which nothing is named that takes it down, in their
order, and no others. -/
theorem Registry.builtin_leaks :
    ∃ r m₁ m₂ m₃, Registry.builtin.rulesFor .memoryLeaks = [r] ∧ r.matchers = [m₁, m₂, m₃] ∧
      m₁.pattern.source = "setInterval\\s*\\(" ∧
      m₂.pattern.source = "addEventListener\\s*\\(" ∧
      ∀ name content : String,
        (Registry.builtin.scan name content).filter (fun f => f.category = .memoryLeaks) =
            r.findingsOf (Source.ofContent name content.toList) m₁ ++
            r.findingsOf (Source.ofContent name content.toList) m₂ ++
            r.findingsOf (Source.ofContent name content.toList) m₃ ∧
          r.findingsOf (Source.ofContent name content.toList) m₁ =
            ((leaks "setInterval".toList "clearInterval".toList content.toList).map fun cut =>
              r.findingAt name cut.1 cut.2) ∧
          r.findingsOf (Source.ofContent name content.toList) m₂ =
            (leaks "addEventListener".toList "removeEventListener".toList content.toList).map
              fun cut => r.findingAt name cut.1 cut.2 := by
  obtain ⟨matchers, hmatchers, hrule⟩ := @Registry.exists_builtin_rule .memoryLeaks _ rfl
  simp only [List.forall₂_cons_left_iff, List.forall₂_nil_left_iff] at hmatchers
  obtain ⟨m₁, _, h₁, ⟨m₂, _, h₂, ⟨m₃, _, h₃, rfl, rfl⟩, rfl⟩, rfl⟩ := hmatchers
  obtain ⟨htimers, hsource₁⟩ := finds_timers h₁
  obtain ⟨hlisteners, hsource₂⟩ := finds_listeners h₂
  refine ⟨_, m₁, m₂, m₃, hrule, rfl, hsource₁, hsource₂, fun name content => ⟨?_, ?_, ?_⟩⟩
  · rw [Registry.filter_scan _ (by decide) (by decide), hrule]
    simp
  · exact htimers.findingsOf_eq _ name content.toList
  · exact hlisteners.findingsOf_eq _ name content.toList

end BackendAudit
