import BackendAudit.Proofs.Rule.Guard
import BackendAudit.Proofs.Text.LineText
import BackendAudit.Rule.Basic

/-!
# Wider windows

A wider window ends later, so a guard drops at least the matches that it drops with a narrower
one.  This holds as long as the number of the last line of the window is a machine word.  Where
it is not, the number wraps around to that of a line in front of the match, and nothing behind
the match lies in the window.

* `GuardHits.windowEnd_mono`, `GuardHits.windowEnd_le_of_not_fits`: where windows end.
* `Matcher.findAll_widen`: what is found with windows of two widths, and with that up to the end.
* `Matcher.widest_window_keeps_match` is a match that the widest window by lines brings back.
-/

namespace BackendAudit

open Text

variable {p : Pattern} {content : List Char} {start : Nat}

/-! ## Where windows end -/

/-- No window goes further than the content. -/
theorem GuardHits.windowEnd_le_byteLength (w : Window) :
    (GuardHits.locate ⟨p, w⟩ content).windowEnd start ≤ byteLength content := by
  cases w with
  | rest => exact Nat.le_refl _
  | lines extra =>
    rw [windowEnd_lines]
    split
    · rename_i hfeed
      exact lineFeedsFrom_lt_byteLength hfeed
    · exact Nat.le_refl _

/-- A window does not end before the match begins, if the number of its last line is a machine
word. -/
theorem GuardHits.le_windowEnd {w : Window} (hfits : w.Fits content start)
    (hle : start ≤ byteLength content) :
    start ≤ (GuardHits.locate ⟨p, w⟩ content).windowEnd start := by
  cases w with
  | rest => exact hle
  | lines extra =>
    rw [windowEnd_lines, hfits.toNat_add]
    split
    · rename_i hfeed
      have hbehind := mt (@lt_iff_of_getElem?_lineFeedsFrom content start _ _ hfeed).mp (by omega)
      exact Nat.le_succ_of_le (Nat.le_of_not_lt hbehind)
    · exact hle

/-- A window does not go on behind the beginning of the match, if the number of its last line is
no machine word. -/
theorem GuardHits.windowEnd_le_of_not_fits {w : Window} (hfits : ¬w.Fits content start)
    (hlines : content.count '\n' < UInt64.size) :
    (GuardHits.locate ⟨p, w⟩ content).windowEnd start ≤ start := by
  cases w with
  | rest => exact absurd trivial hfits
  | lines extra =>
    have hcount : lineFeedsBefore content start ≤ content.count '\n' := by
      rw [lineFeedsBefore, ← length_lineFeedsFrom 0 content]
      exact List.countP_le_length
    have hwraps : (UInt64.ofNat (lineFeedsBefore content start) + extra).toNat <
        lineFeedsBefore content start := by
      have hextra := extra.toNat_lt_size
      simp only [Window.Fits, LineIndex.lineOf_ofContent, Nat.add_sub_cancel] at hfits
      rw [UInt64.toNat_add, UInt64.toNat_ofNat', Nat.mod_add_mod]
      rw [UInt64.size] at hlines hfits hextra
      omega
    have hline : (UInt64.ofNat (lineFeedsBefore content start) + extra).toNat <
        (lineFeedsFrom 0 content).length := by
      rw [length_lineFeedsFrom]
      omega
    rw [windowEnd_lines, List.getElem?_eq_getElem hline]
    exact (lt_iff_of_getElem?_lineFeedsFrom (List.getElem?_eq_getElem hline)).mpr hwraps

/-- A window of more lines does not end earlier. -/
theorem GuardHits.windowEnd_mono {extra extra' : UInt64} (h : extra ≤ extra')
    (hfits : (Window.lines extra').Fits content start) :
    (GuardHits.locate ⟨p, .lines extra⟩ content).windowEnd start ≤
      (GuardHits.locate ⟨p, .lines extra'⟩ content).windowEnd start := by
  have hle : extra.toNat ≤ extra'.toNat := UInt64.le_iff_toNat_le.mp h
  have hnarrow : (Window.lines extra).Fits content start :=
    Nat.lt_of_le_of_lt (Nat.add_le_add_left hle _) hfits
  have hend := @windowEnd_le_byteLength p content start (.lines extra)
  rw [windowEnd_lines, hnarrow.toNat_add] at hend ⊢
  rw [windowEnd_lines, hfits.toNat_add]
  cases hwide : (lineFeedsFrom 0 content)[lineFeedsBefore content start + extra'.toNat]? with
  | none => exact hend
  | some feed' =>
    -- the line feeds in front of this one are found as well, and come earlier
    obtain ⟨hline, rfl⟩ := List.getElem?_eq_some_iff.mp hwide
    have hline' : lineFeedsBefore content start + extra.toNat <
        (lineFeedsFrom 0 content).length := by omega
    rw [List.getElem?_eq_getElem hline']
    rcases Nat.eq_or_lt_of_le hle with heq | hlt
    · simp only [heq, Nat.le_refl]
    · have hascending := List.pairwise_iff_getElem.mp (lineFeedsFrom_ascending 0 content)
        _ _ hline' hline (by omega)
      exact Nat.succ_le_succ (Nat.le_of_lt hascending)

/-! ## Guards with wider windows -/

/-- A guard covers what it covers with a window that ends earlier. -/
theorem GuardHits.covers_of_windowEnd_le {w w' : Window}
    (h : (GuardHits.locate ⟨p, w⟩ content).windowEnd start ≤
      (GuardHits.locate ⟨p, w'⟩ content).windowEnd start)
    (hcovers : (GuardHits.locate ⟨p, w⟩ content).covers start = true) :
    (GuardHits.locate ⟨p, w'⟩ content).covers start = true := by
  rw [covers_iff] at hcovers ⊢
  obtain ⟨hit, hhit, hstart, hend⟩ := hcovers
  exact ⟨hit, hhit, hstart, Nat.le_trans hend h⟩

/-- The matcher with another guard. -/
def Matcher.guardedBy (m : Matcher) (p : Pattern) (w : Window) : Matcher :=
  { m with guard := some ⟨p, w⟩ }

/-- Of the matches that are kept with a window, those for which `q` holds are kept with another
that does not end later for them. -/
theorem Matcher.filter_findAll_sublist {m : Matcher} {w w' : Window} {q : Nat × Nat → Prop}
    [DecidablePred q] (h : ∀ span, q span →
      (GuardHits.locate ⟨p, w'⟩ content).windowEnd span.1 ≤
        (GuardHits.locate ⟨p, w⟩ content).windowEnd span.1) :
    (((m.guardedBy p w).findAll content).filter q).Sublist
      ((m.guardedBy p w').findAll content) := by
  have hkept : ((m.guardedBy p w).findAll content).filter q =
      ((m.guardedBy p w').findAll content).filter fun span =>
        q span && !(GuardHits.locate ⟨p, w⟩ content).covers span.1 := by
    simp only [Matcher.findAll, guardedBy, List.filter_filter]
    apply List.filter_congr
    intro span _
    by_cases hq : q span
    · cases hcovers : (GuardHits.locate ⟨p, w'⟩ content).covers span.1 with
      | false => simp [hq]
      | true => simp [GuardHits.covers_of_windowEnd_le (h span hq) hcovers]
    · simp [hq]
  rw [hkept]
  exact List.filter_sublist

/-- With a window up to the end of the content, only such matches are kept as with any window by
lines.  With a window of more lines only such are kept as with one of fewer lines, among those
for which the number of the last line is a machine word.  For these the window does not end
before the match begins, and for the others it does not go on behind that place. -/
theorem Matcher.findAll_widen (m : Matcher) (p : Pattern) (content : List Char)
    {extra extra' : UInt64} (h : extra ≤ extra') (hlines : content.count '\n' < UInt64.size) :
    ((m.guardedBy p .rest).findAll content).Sublist
        ((m.guardedBy p (.lines extra')).findAll content) ∧
      (((m.guardedBy p (.lines extra')).findAll content).filter fun span =>
          (Window.lines extra').Fits content span.1).Sublist
        ((m.guardedBy p (.lines extra)).findAll content) ∧
      ∀ w : Window, ∀ start ≤ byteLength content,
        (w.Fits content start →
          start ≤ (GuardHits.locate ⟨p, w⟩ content).windowEnd start) ∧
        (¬w.Fits content start →
          (GuardHits.locate ⟨p, w⟩ content).windowEnd start ≤ start) := by
  refine ⟨?_, ?_, fun w start hle =>
    ⟨fun hfits => GuardHits.le_windowEnd hfits hle,
      fun hfits => GuardHits.windowEnd_le_of_not_fits hfits hlines⟩⟩
  · have hrest := @filter_findAll_sublist p content m .rest (.lines extra') (fun _ => True) _
      fun span _ => GuardHits.windowEnd_le_byteLength (.lines extra')
    rwa [List.filter_eq_self.mpr (by simp)] at hrest
  · exact filter_findAll_sublist fun span hfits => GuardHits.windowEnd_mono h hfits

/-- With the next line in the window, the first `a` is dropped.  With its own line only, it is
kept. -/
theorem Matcher.findAll_widen_matcherOfA :
    (0 : UInt64) ≤ 1 ∧ ['a', '\n', 'x', 'b', '\n', 'a'].count '\n' < UInt64.size ∧
      (matcherOfA.guardedBy guardByB.pattern .rest).findAll
        ['a', '\n', 'x', 'b', '\n', 'a'] = [(5, 6)] ∧
      [(5, 6)].Sublist ((matcherOfA.guardedBy guardByB.pattern (.lines 1)).findAll
        ['a', '\n', 'x', 'b', '\n', 'a']) ∧
      (((matcherOfA.guardedBy guardByB.pattern (.lines 1)).findAll
        ['a', '\n', 'x', 'b', '\n', 'a']).filter fun span =>
          (Window.lines 1).Fits ['a', '\n', 'x', 'b', '\n', 'a'] span.1).Sublist
        [(0, 1), (5, 6)] := by
  have h : (0 : UInt64) ≤ 1 := by decide
  have hlines : ['a', '\n', 'x', 'b', '\n', 'a'].count '\n' < UInt64.size := by decide
  have hrest : (matcherOfA.guardedBy guardByB.pattern .rest).findAll
      ['a', '\n', 'x', 'b', '\n', 'a'] = [(5, 6)] := by decide +kernel
  have hnone : (matcherOfA.guardedBy guardByB.pattern (.lines 0)).findAll
      ['a', '\n', 'x', 'b', '\n', 'a'] = [(0, 1), (5, 6)] := by decide +kernel
  have hwiden := Matcher.findAll_widen matcherOfA guardByB.pattern
    ['a', '\n', 'x', 'b', '\n', 'a'] h hlines
  rw [hrest, hnone] at hwiden
  exact ⟨h, hlines, hrest, hwiden.1, hwiden.2.1⟩

/-- The `b` on the line of the `a` drops it.  With as many lines more as a machine word can
count, the number of the last line is that of the first line, and the `a` is kept. -/
theorem Matcher.widest_window_keeps_match :
    ∃ narrow wide, (MatcherDef.mk "a" (some ("b", .lines 0))).compile = .ok narrow ∧
      (MatcherDef.mk "a" (some ("b", .lines 18446744073709551615))).compile = .ok wide ∧
      narrow.findAll ['\n', 'a', ' ', 'b'] = [] ∧
      wide.findAll ['\n', 'a', ' ', 'b'] = [(1, 2)] :=
  ⟨_, _, rfl, rfl, by decide +kernel, by decide +kernel⟩

end BackendAudit
