import BackendAudit.Proofs.Halving
import BackendAudit.Proofs.Text.Places
import BackendAudit.Rule.Matcher
import BackendAudit.Text.LineIndex

/-!
# Line feeds and lines

Guards and line indices both go through a content once and note places: a guard
those of the line feeds, an index those behind them.  Both lists come from
`Text.lineFeedsFrom`, and all that is said of lines is said of it.

* `GuardHits.lineFeedsOf_eq` and `LineIndex.startsOf_eq` give the two lists.
* `Text.lengthOfLines_succ` says which line each of the line feeds ends.
* `LineIndex.lineOf_ofContent` says what the number of a line counts.
-/

namespace BackendAudit

namespace Text

/-! ## The places of line feeds -/

/-- The places of the line feeds in a text that begins at the place `start`. -/
def lineFeedsFrom (start : Nat) : List Char → List Nat
  | [] => []
  | c :: rest =>
    if c = '\n' then start :: lineFeedsFrom (start + c.utf8Size) rest
    else lineFeedsFrom (start + c.utf8Size) rest

theorem lineFeedsFrom_bounds {start place : Nat} {cs : List Char}
    (h : place ∈ lineFeedsFrom start cs) :
    start ≤ place ∧ place < start + byteLength cs := by
  induction cs generalizing start with
  | nil => simp [lineFeedsFrom] at h
  | cons c rest ih =>
    have hc : 0 < c.utf8Size := c.utf8Size_pos
    rw [byteLength_cons]
    rw [lineFeedsFrom] at h
    split at h
    · rcases List.mem_cons.mp h with rfl | h
      · omega
      · have := ih h
        omega
    · have := ih h
      omega

/-- The places are in ascending order. -/
theorem lineFeedsFrom_ascending (start : Nat) (cs : List Char) :
    (lineFeedsFrom start cs).Pairwise (· < ·) := by
  induction cs generalizing start with
  | nil => exact List.Pairwise.nil
  | cons c rest ih =>
    have hc : 0 < c.utf8Size := c.utf8Size_pos
    rw [lineFeedsFrom]
    split
    · refine List.pairwise_cons.mpr ⟨fun place hplace => ?_, ih _⟩
      have := (lineFeedsFrom_bounds hplace).1
      omega
    · exact ih _

/-- The length of the first lines of a text, so many of them, each with the line feed
that ends it; the length of the text when not so many line feeds are in it. -/
def lengthOfLines : Nat → List Char → Nat
  | 0, _ => 0
  | _ + 1, [] => 0
  | line + 1, c :: rest =>
    c.utf8Size + lengthOfLines (if c = '\n' then line else line + 1) rest

/-- The lines up to a line feed end just behind it. -/
theorem lengthOfLines_succ (start line : Nat) (cs : List Char) :
    start + lengthOfLines (line + 1) cs =
      match (lineFeedsFrom start cs)[line]? with
      | some place => place + 1
      | none => start + byteLength cs := by
  induction cs generalizing start line with
  | nil => simp [lineFeedsFrom, lengthOfLines]
  | cons c rest ih =>
    rw [lengthOfLines, lineFeedsFrom, byteLength_cons, ← Nat.add_assoc, ← Nat.add_assoc]
    split
    · rename_i hc
      cases line with
      | zero =>
        have hsize : c.utf8Size = 1 := by rw [hc]; rfl
        simp [lengthOfLines, hsize]
      | succ line => rw [ih, List.getElem?_cons_succ]
    · rw [ih]

end Text

/-! ## The two lists of places -/

open Text

theorem GuardHits.foldl_step (start : Nat) (found : Array Nat) (cs : List Char) :
    cs.foldl GuardHits.lineFeedsOf.step (start, found) =
      (start + byteLength cs, found ++ (lineFeedsFrom start cs).toArray) := by
  induction cs generalizing start found with
  | nil => simp [lineFeedsFrom]
  | cons c rest ih =>
    rw [List.foldl_cons, GuardHits.lineFeedsOf.step, ih, byteLength_cons, lineFeedsFrom]
    split <;> simp [Nat.add_assoc]

theorem GuardHits.lineFeedsOf_eq (content : List Char) :
    GuardHits.lineFeedsOf content = (lineFeedsFrom 0 content).toArray := by
  rw [GuardHits.lineFeedsOf, GuardHits.foldl_step]
  simp

theorem LineIndex.foldl_step (start : Nat) (found : Array Nat) (cs : List Char) :
    cs.foldl LineIndex.startsOf.step (start, found) =
      (start + byteLength cs,
        found ++ ((lineFeedsFrom start cs).map fun place => place + 1).toArray) := by
  induction cs generalizing start found with
  | nil => simp [lineFeedsFrom]
  | cons c rest ih =>
    rw [List.foldl_cons, LineIndex.startsOf.step, ih, byteLength_cons, lineFeedsFrom]
    split
    · rename_i hc
      have hsize : c.utf8Size = 1 := by rw [hc]; rfl
      simp [hsize, Nat.add_assoc]
    · simp [Nat.add_assoc]

/-- A line starts at the first place and behind every line feed. -/
theorem LineIndex.startsOf_eq (content : List Char) :
    LineIndex.startsOf content =
      (0 :: (lineFeedsFrom 0 content).map fun place => place + 1).toArray := by
  rw [LineIndex.startsOf, LineIndex.foldl_step]
  simp

/-! ## The number of a line -/

/-- How many line feeds of a content lie before a place. -/
def Text.lineFeedsBefore (content : List Char) (place : Nat) : Nat :=
  (lineFeedsFrom 0 content).countP fun feed => feed < place

theorem Text.leadingFirst_lineFeedsFrom (start : Nat) (cs : List Char) (place : Nat) :
    LeadingFirst (fun feed => decide (feed < place)) (lineFeedsFrom start cs) := by
  refine (lineFeedsFrom_ascending start cs).imp fun hlt hy => ?_
  simp only [decide_eq_true_eq] at hy ⊢
  omega

/-- The line feeds before a place are the first of all. -/
theorem Text.lt_iff_of_getElem?_lineFeedsFrom {content : List Char} {start line feed : Nat}
    (h : (lineFeedsFrom 0 content)[line]? = some feed) :
    feed < start ↔ line < lineFeedsBefore content start := by
  obtain ⟨hline, rfl⟩ := List.getElem?_eq_some_iff.mp h
  have hiff := (leadingFirst_lineFeedsFrom 0 content start).getElem_iff hline
  rwa [decide_eq_true_eq] at hiff

theorem Text.lineFeedsFrom_lt_byteLength {content : List Char} {line feed : Nat}
    (h : (lineFeedsFrom 0 content)[line]? = some feed) : feed < byteLength content := by
  have := (lineFeedsFrom_bounds (List.mem_of_getElem? h)).2
  omega

/-- The number of a line is one more than the line feeds before the place. -/
theorem LineIndex.lineOf_ofContent (content : List Char) (place : Nat) :
    (LineIndex.ofContent content).lineOf place = lineFeedsBefore content place + 1 := by
  have hstarts : LeadingFirst (fun start => decide (start ≤ place))
      (0 :: (lineFeedsFrom 0 content).map fun feed => feed + 1) := by
    refine List.pairwise_cons.mpr ⟨fun _ _ _ => by simp, List.pairwise_map.mpr ?_⟩
    refine (lineFeedsFrom_ascending 0 content).imp fun hlt hy => ?_
    simp only [decide_eq_true_eq] at hy ⊢
    omega
  rw [LineIndex.lineOf, LineIndex.ofContent, LineIndex.startsOf_eq,
    countLeading_toArray hstarts, List.countP_cons_of_pos (by simp), List.countP_map]
  rfl

/-- A later place is not on an earlier line. -/
theorem LineIndex.lineOf_mono {content : List Char} {place place' : Nat} (h : place ≤ place') :
    (LineIndex.ofContent content).lineOf place ≤ (LineIndex.ofContent content).lineOf place' := by
  rw [lineOf_ofContent, lineOf_ofContent, lineFeedsBefore, lineFeedsBefore]
  refine Nat.succ_le_succ (List.countP_mono_left fun feed _ hfeed => ?_)
  simp only [decide_eq_true_eq] at hfeed ⊢
  omega

end BackendAudit
