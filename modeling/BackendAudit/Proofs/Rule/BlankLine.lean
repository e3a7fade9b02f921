import BackendAudit.Proofs.Pattern.BlankLine
import BackendAudit.Proofs.Rule.Guard
import BackendAudit.Rule.Builtin

/-!
# Matchers behind a blank line

A matcher whose pattern and guard both skip a blank line finds in a text with one more in
front what it finds without it, one byte further on: the match, the hits of the guard and
the end of the window all move together.

* `Window.limit_lineFeed`: the end of a window.
* `Matcher.findAll_lineFeed`: what a matcher finds.
* `Registry.builtin_skipsBlankLine`: the built-in patterns and guards are all of this kind.
-/

namespace BackendAudit

open Text

/-! ## Windows -/

/-- How many lines a window has behind the line of the match. -/
def Window.extraLines : Window → Nat
  | .lines extra => extra.toNat
  | .rest => 0

/-- The last line of every window is a machine word if there are not too many lines. -/
theorem Window.fits_of_count {w : Window} {content : List Char}
    (h : content.count '\n' + w.extraLines < UInt64.size) (start : Nat) :
    w.Fits content start := by
  cases w with
  | rest => exact trivial
  | lines extra =>
    have hbefore : lineFeedsBefore content start ≤ content.count '\n' :=
      lineFeedsBefore_le_count content start
    show (LineIndex.ofContent content).lineOf start - 1 + extra.toNat < UInt64.size
    rw [LineIndex.lineOf_ofContent, Nat.add_sub_cancel]
    exact Nat.lt_of_le_of_lt (Nat.add_le_add_right hbefore _) h

/-- The window of a match one byte further on ends one byte further on. -/
theorem Window.limit_lineFeed (w : Window) (content : List Char) (start : Nat) :
    w.limit ('\n' :: content) (start + 1) = w.limit content start + 1 := by
  cases w with
  | rest => exact byteLength_lineFeed content
  | lines extra =>
    show lengthOfLines ((LineIndex.ofContent ('\n' :: content)).lineOf (start + 1) + extra.toNat)
      ('\n' :: content) = _
    rw [LineIndex.lineOf_lineFeed, Nat.add_right_comm, lengthOfLines_lineFeed]
    rfl

/-! ## Guarded matchers -/

/-- Whether the pattern and the guard of a matcher find the same behind a blank line.  The
guard looks no further than the line behind that of the match. -/
def Matcher.skipsBlankLine (m : Matcher) : Bool :=
  m.pattern.automaton.skipsBlankLine &&
    m.guard.all fun g => g.pattern.automaton.skipsBlankLine && g.window.extraLines ≤ 1

/-- A guard covers a match one byte further on if it covers the match. -/
theorem GuardHits.covers_lineFeed {g : Guard} (h : g.pattern.automaton.skipsBlankLine = true)
    {content : List Char} (hlines : content.count '\n' + 1 + g.window.extraLines < UInt64.size)
    (start : Nat) :
    (GuardHits.locate g ('\n' :: content)).covers (start + 1) =
      (GuardHits.locate g content).covers start := by
  have hfits : g.window.Fits content start := Window.fits_of_count (by omega) start
  have hfits' : g.window.Fits ('\n' :: content) (start + 1) := by
    apply Window.fits_of_count
    rwa [List.count_cons_self]
  have hhits : g.pattern.findAll ('\n' :: content) = (g.pattern.findAll content).map oneOn :=
    Pattern.Automaton.findAll_lineFeed h content
  rw [Bool.eq_iff_iff, covers_locate hfits', covers_locate hfits, hhits,
    Window.limit_lineFeed]
  simp only [List.mem_map, exists_exists_and_eq_and, oneOn, Nat.add_le_add_iff_right]

/-- With a line feed in front of the content, all matches are found one byte further on. -/
theorem Matcher.findAll_lineFeed {m : Matcher} (h : m.skipsBlankLine = true)
    {content : List Char} (hlines : content.count '\n' + 2 < UInt64.size) :
    m.findAll ('\n' :: content) = (m.findAll content).map oneOn := by
  rw [skipsBlankLine, Bool.and_eq_true] at h
  obtain ⟨hpattern, hguard⟩ := h
  have hfound : m.pattern.findAll ('\n' :: content) = (m.pattern.findAll content).map oneOn :=
    Pattern.Automaton.findAll_lineFeed hpattern content
  rw [findAll, findAll, hfound]
  cases hg : m.guard with
  | none => rfl
  | some g =>
    rw [hg, Option.all_some, Bool.and_eq_true, decide_eq_true_iff] at hguard
    obtain ⟨hskips, hextra⟩ := hguard
    dsimp only
    rw [List.filter_map]
    congr 2
    funext span
    show (!(GuardHits.locate g ('\n' :: content)).covers (span.1 + 1)) = _
    rw [GuardHits.covers_lineFeed hskips (by omega)]

/-! ## The built-in matchers -/

set_option maxRecDepth 10000 in
theorem Registry.builtin_skipsBlankLine :
    ∀ r ∈ Registry.builtin.rules, ∀ m ∈ r.matchers, m.skipsBlankLine = true := by
  have hall :
      (Registry.builtin.rules.all fun r => r.matchers.all Matcher.skipsBlankLine) = true := by
    decide +kernel
  intro r hr m hm
  exact List.all_eq_true.mp (List.all_eq_true.mp hall r hr) m hm

end BackendAudit
