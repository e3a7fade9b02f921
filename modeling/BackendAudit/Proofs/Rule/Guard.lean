import BackendAudit.Proofs.Pattern.Spans
import BackendAudit.Proofs.Text.Lines

/-!
# Guards

A guard looks at the first of its hits that does not begin before the match, and counts
lines by its own list of line feeds.  Here both are replaced by what they stand for: a
match is dropped when any hit of the guard lies in the window, and the window is told by
the number that the line of the match has in the index of the content.

* `GuardHits.windowEnd_locate`: the end of the window.
* `GuardHits.covers_locate`: one hit is enough, since those behind it end later.
* `Matcher.findAll_eq_filter`: what a guarded matcher finds.
-/

namespace BackendAudit

open Text

/-! ## The end of a window -/

/-- Where the window of a match ends that begins at `start`: behind the line feed that
ends its last line, or at the end of the content if there is none. -/
def Window.limit (w : Window) (content : List Char) (start : Nat) : Nat :=
  match w with
  | .rest => byteLength content
  | .lines extra => lengthOfLines ((LineIndex.ofContent content).lineOf start + extra.toNat) content

/-- The number of the last line of a window, counted from zero as the guard does, is a
machine word. -/
def Window.Fits (w : Window) (content : List Char) (start : Nat) : Prop :=
  match w with
  | .rest => True
  | .lines extra => (LineIndex.ofContent content).lineOf start - 1 + extra.toNat < UInt64.size

/-- The last line of a window by lines has a line feed at its end, which is the one under the
number that the guard computes, or goes up to the end of the content. -/
theorem GuardHits.windowEnd_lines (p : Pattern) (extra : UInt64) (content : List Char)
    (start : Nat) :
    (GuardHits.locate ⟨p, .lines extra⟩ content).windowEnd start =
      match (lineFeedsFrom 0 content)[
        (UInt64.ofNat (lineFeedsBefore content start) + extra).toNat]? with
      | some place => place + 1
      | none => byteLength content := by
  have hline :
      countLeading (lineFeedsFrom 0 content).toArray (fun feed => decide (feed < start)) =
        lineFeedsBefore content start :=
    countLeading_toArray (leadingFirst_lineFeedsFrom 0 content start)
  cases hplace : (lineFeedsFrom 0 content)[
      (UInt64.ofNat (lineFeedsBefore content start) + extra).toNat]? <;>
    simp only [GuardHits.windowEnd, GuardHits.locate, GuardHits.lineFeedsOf_eq, hline,
      List.getElem?_toArray, hplace]

/-- The number that the guard computes for the last line of a window, if it is a machine word. -/
theorem Window.Fits.toNat_add {extra : UInt64} {content : List Char} {start : Nat}
    (hfits : (Window.lines extra).Fits content start) :
    (UInt64.ofNat (lineFeedsBefore content start) + extra).toNat =
      lineFeedsBefore content start + extra.toNat := by
  simp only [Window.Fits, LineIndex.lineOf_ofContent, Nat.add_sub_cancel] at hfits
  rw [UInt64.toNat_add, UInt64.toNat_ofNat', Nat.mod_add_mod]
  exact Nat.mod_eq_of_lt hfits

theorem GuardHits.windowEnd_locate {g : Guard} {content : List Char} {start : Nat}
    (hfits : g.window.Fits content start) :
    (GuardHits.locate g content).windowEnd start = g.window.limit content start := by
  obtain ⟨pattern, window⟩ := g
  cases window with
  | rest => rfl
  | lines extra =>
    have hlines := lengthOfLines_succ 0 (lineFeedsBefore content start + extra.toNat) content
    rw [GuardHits.windowEnd_lines, hfits.toNat_add]
    simp only [Window.limit, LineIndex.lineOf_ofContent]
    rw [show lineFeedsBefore content start + 1 + extra.toNat =
      lineFeedsBefore content start + extra.toNat + 1 by omega]
    rw [Nat.zero_add, Nat.zero_add] at hlines
    exact hlines.symm

/-! ## Hits in a window -/

/-- Of hits in order and without overlap, the first that does not begin before `start`
ends within the limit if any does. -/
theorem Pattern.Automaton.Ordered.find?_ends {lo start limit : Nat} {hits : List (Nat × Nat)}
    (h : Ordered lo hits) :
    (∃ hit ∈ hits.find? (fun hit => !decide (hit.1 < start)), hit.2 ≤ limit) ↔
      ∃ hit ∈ hits, start ≤ hit.1 ∧ hit.2 ≤ limit := by
  constructor
  · rintro ⟨hit, hfind, hle⟩
    have hstart := List.find?_some hfind
    simp only [Bool.not_eq_true', decide_eq_false_iff_not, Nat.not_lt] at hstart
    exact ⟨hit, List.mem_of_find?_eq_some hfind, hstart, hle⟩
  · rintro ⟨hit, hhit, hstart, hle⟩
    cases hfind : hits.find? (fun hit => !decide (hit.1 < start)) with
    | none =>
      have := List.find?_eq_none.mp hfind hit hhit
      simp only [Bool.not_eq_true', decide_eq_false_iff_not, Nat.not_lt] at this
      exact absurd hstart this
    | some first =>
      refine ⟨first, rfl, ?_⟩
      obtain ⟨_, before, behind, hsplit, hbefore⟩ := List.find?_eq_some_iff_append.mp hfind
      have hpair := h.2
      rw [hsplit] at hhit hpair
      rcases List.mem_append.mp hhit with hmem | hmem
      · have := hbefore hit hmem
        simp only [Bool.not_not, decide_eq_true_eq] at this
        omega
      · rcases List.mem_cons.mp hmem with rfl | hmem
        · exact hle
        · -- the hit stands behind the first one, so it does not end before it
          have hfirst : first.2 ≤ hit.1 :=
            List.rel_of_pairwise_cons (List.pairwise_append.mp hpair).2.1 hmem
          have hhit' : hit.1 ≤ hit.2 := (h.1 hit (by simp [hsplit, hmem])).2
          omega

/-- Starts of spans in order do not decrease. -/
theorem Pattern.Automaton.Ordered.leadingFirst {lo : Nat} {hits : List (Nat × Nat)}
    (h : Ordered lo hits) (start : Nat) :
    LeadingFirst (fun hit => decide (hit.1 < start)) hits := by
  refine h.2.imp_of_mem fun {x y} hx _ hxy hy => ?_
  have hle : x.1 ≤ x.2 := (h.1 x hx).2
  simp only [decide_eq_true_eq] at hy ⊢
  omega

/-- A match is covered when some hit of the guard begins behind its start and ends before
its window does. -/
theorem GuardHits.covers_iff {g : Guard} {content : List Char} {start : Nat} :
    (GuardHits.locate g content).covers start = true ↔
      ∃ hit ∈ g.pattern.findAll content,
        start ≤ hit.1 ∧ hit.2 ≤ (GuardHits.locate g content).windowEnd start := by
  have hordered : Pattern.Automaton.Ordered 0 (g.pattern.findAll content) :=
    (Pattern.Automaton.findAll_ordered content).2
  have hhits : (GuardHits.locate g content).hits = (g.pattern.findAll content).toArray := rfl
  rw [← hordered.find?_ends, GuardHits.covers, hhits,
    getElem?_countLeading (hordered.leadingFirst start)]
  split
  · rename_i hit hfind
    simp [hfind]
  · rename_i hfind
    simp [hfind]

/-- A match is covered when some hit of the guard lies in its window. -/
theorem GuardHits.covers_locate {g : Guard} {content : List Char} {start : Nat}
    (hfits : g.window.Fits content start) :
    (GuardHits.locate g content).covers start = true ↔
      ∃ hit ∈ g.pattern.findAll content,
        start ≤ hit.1 ∧ hit.2 ≤ g.window.limit content start := by
  rw [covers_iff, windowEnd_locate hfits]

instance (w : Window) (content : List Char) (start : Nat) : Decidable (w.Fits content start) :=
  match w with
  | .rest => inferInstanceAs (Decidable True)
  | .lines _ => inferInstanceAs (Decidable (_ < _))

/-! ## Guarded matchers -/

/-- Without a guard all matches are kept. -/
theorem Matcher.findAll_eq_of_guard {m : Matcher} (hguard : m.guard = none)
    (content : List Char) : m.findAll content = m.pattern.findAll content := by
  simp only [Matcher.findAll, hguard]

/-- A guard only drops matches. -/
theorem Matcher.findAll_sublist (m : Matcher) (content : List Char) :
    (m.findAll content).Sublist (m.pattern.findAll content) := by
  rw [Matcher.findAll]
  cases m.guard with
  | none => exact List.Sublist.refl _
  | some g => exact List.filter_sublist

/-- A guarded matcher finds, in order, the matches of its pattern in whose window there
is no hit of the guard. -/
theorem Matcher.findAll_eq_filter {m : Matcher} {g : Guard} {content : List Char}
    (hguard : m.guard = some g)
    (hfits : ∀ span ∈ m.pattern.findAll content, g.window.Fits content span.1) :
    m.findAll content = (m.pattern.findAll content).filter fun span =>
      ¬∃ hit ∈ g.pattern.findAll content,
        span.1 ≤ hit.1 ∧ hit.2 ≤ g.window.limit content span.1 := by
  rw [Matcher.findAll, hguard]
  refine List.filter_congr fun span hspan => ?_
  rw [Bool.eq_iff_iff, Bool.not_eq_true', Bool.eq_false_iff, decide_eq_true_iff, ne_eq,
    GuardHits.covers_locate (hfits span hspan)]

/-- The guard of `matcherOfA`: a run of `b` on the line of the match or the next one. -/
def guardByB : Guard :=
  ⟨.ofExpr "b+" (.plus true (.one (.ofChar 'b'))), .lines 1⟩

/-- A matcher of `a` that no `b` may follow too soon. -/
def matcherOfA : Matcher :=
  ⟨.ofExpr "a" (.one (.ofChar 'a')), some guardByB, by rfl⟩

/-- The first `a` has a `b` on the next line, in front of its line feed; the second comes
behind that `b`, on a line that no line feed ends. -/
theorem Matcher.findAll_matcherOfA :
    (matcherOfA.guard = some guardByB ∧
        ∀ span ∈ matcherOfA.pattern.findAll ['a', '\n', 'x', 'b', '\n', 'a'],
          guardByB.window.Fits ['a', '\n', 'x', 'b', '\n', 'a'] span.1) ∧
      matcherOfA.findAll ['a', '\n', 'x', 'b', '\n', 'a'] = [(5, 6)] := by
  have hfits : ∀ span ∈ matcherOfA.pattern.findAll ['a', '\n', 'x', 'b', '\n', 'a'],
      guardByB.window.Fits ['a', '\n', 'x', 'b', '\n', 'a'] span.1 := by decide +kernel
  refine ⟨⟨rfl, hfits⟩, ?_⟩
  rw [Matcher.findAll_eq_filter rfl hfits]
  decide +kernel

end BackendAudit
