import BackendAudit.Proofs.Text.Lines
import Mathlib.Data.List.DropRight

/-!
# The texts of lines

A line is what stands between two line feeds, or between one and an end of the content.
An index has the places at which lines start, and beside them their texts; both are said
here of the same division of the content, in front of the line, the line, and behind it.

* `Text.slice_eq`: the part of a content between two of its places.
* `Text.isLine_lineAround`: every place lies on a line, whose number counts line feeds.
* `LineIndex.bounds?_of_isLine`: where a line begins and ends follows from the starts.
* `LineIndex.lineText?_of_isLine`: the text is the piece at its place.
-/

namespace BackendAudit

namespace Text

/-! ## Parts of a text -/

theorem dropTo_append (start : Nat) (before rest : List Char) :
    dropTo (start + byteLength before) start (before ++ rest) = rest := by
  induction before generalizing start with
  | nil =>
    cases rest with
    | nil => rfl
    | cons c rest => simp [dropTo]
  | cons c before ih =>
    have hc : 0 < c.utf8Size := c.utf8Size_pos
    rw [List.cons_append, dropTo, if_pos (by rw [byteLength_cons]; omega), byteLength_cons,
      ← Nat.add_assoc, ih]

theorem takeTo_go_append (start : Nat) (taken part after : List Char) :
    takeTo.go (start + byteLength part) start taken (part ++ after) = taken.reverse ++ part := by
  induction part generalizing start taken with
  | nil =>
    cases after with
    | nil => simp [takeTo.go]
    | cons c after => simp [takeTo.go]
  | cons c part ih =>
    have hc : 0 < c.utf8Size := c.utf8Size_pos
    rw [List.cons_append, takeTo.go, if_pos (by rw [byteLength_cons]; omega), byteLength_cons,
      ← Nat.add_assoc, ih]
    simp

/-- The part of a text between two of its places. -/
theorem slice_eq (before part after : List Char) :
    slice (byteLength before) (byteLength (before ++ part)) (before ++ part ++ after) = part := by
  have hdrop := dropTo_append 0 before (part ++ after)
  rw [Nat.zero_add] at hdrop
  rw [slice, List.append_assoc, hdrop, byteLength_append, takeTo, takeTo_go_append]
  rfl

/-! ## Line feeds of two texts, one behind the other -/

theorem lineFeedsFrom_append (start : Nat) (cs ds : List Char) :
    lineFeedsFrom start (cs ++ ds) =
      lineFeedsFrom start cs ++ lineFeedsFrom (start + byteLength cs) ds := by
  induction cs generalizing start with
  | nil => rfl
  | cons c cs ih =>
    rw [List.cons_append, lineFeedsFrom, lineFeedsFrom, ih, byteLength_cons, ← Nat.add_assoc]
    split <;> rfl

theorem length_lineFeedsFrom (start : Nat) (cs : List Char) :
    (lineFeedsFrom start cs).length = cs.count '\n' := by
  induction cs generalizing start with
  | nil => rfl
  | cons c cs ih =>
    rw [lineFeedsFrom]
    split
    · rename_i hc
      rw [List.length_cons, ih, hc, List.count_cons_self]
    · rename_i hc
      rw [ih, List.count_cons_of_ne hc]

/-- The place of a line feed is found under the number of those in front of it. -/
theorem getElem?_lineFeedsFrom (front rest : List Char) :
    (lineFeedsFrom 0 (front ++ '\n' :: rest))[front.count '\n']? = some (byteLength front) := by
  rw [lineFeedsFrom_append, List.getElem?_append_right (by rw [length_lineFeedsFrom]),
    length_lineFeedsFrom, Nat.sub_self, Nat.zero_add, lineFeedsFrom, if_pos rfl]
  rfl

/-- The line feeds before a place are those of the text in front of it. -/
theorem lineFeedsBefore_append (before rest : List Char) :
    lineFeedsBefore (before ++ rest) (byteLength before) = before.count '\n' := by
  have hbefore : ∀ feed ∈ lineFeedsFrom 0 before, decide (feed < byteLength before) = true := by
    intro feed hfeed
    have := (lineFeedsFrom_bounds hfeed).2
    simpa using this
  have hrest : ∀ feed ∈ lineFeedsFrom (0 + byteLength before) rest,
      ¬decide (feed < byteLength before) = true := by
    intro feed hfeed
    have := (lineFeedsFrom_bounds hfeed).1
    simpa using this
  rw [lineFeedsBefore, lineFeedsFrom_append, List.countP_append, List.countP_eq_length.mpr hbefore,
    List.countP_eq_zero.mpr hrest, length_lineFeedsFrom, Nat.add_zero]

/-! ## Lines -/

theorem splitAt_eq_splitOn (separator : Char) (cs : List Char) :
    splitAt separator cs = cs.splitOn separator := by
  induction cs with
  | nil => rfl
  | cons c cs ih =>
    have hstep : splitAt separator (c :: cs) = splitAt.step separator c (splitAt separator cs) :=
      rfl
    rw [hstep, ih, List.splitOn_cons_eq_if_modifyHead]
    cases hpieces : cs.splitOn separator with
    | nil => exact absurd hpieces (List.splitOn_ne_nil _ _)
    | cons piece pieces => simp [splitAt.step]

theorem length_splitOn (separator : Char) (cs : List Char) :
    (cs.splitOn separator).length = cs.count separator + 1 := by
  induction cs with
  | nil => rfl
  | cons c cs ih =>
    rw [List.splitOn_cons_eq_if_modifyHead, List.count_cons]
    split
    · rw [List.length_cons, ih]
    · rw [List.length_modifyHead, ih]

/-- The piece in front is all up to the first separator. -/
theorem getElem?_splitOn_zero {separator : Char} {piece after : List Char}
    (hpiece : separator ∉ piece) (hafter : after = [] ∨ ∃ rest, after = separator :: rest) :
    ((piece ++ after).splitOn separator)[0]? = some piece := by
  rcases hafter with rfl | ⟨rest, rfl⟩
  · rw [List.append_nil, List.splitOn_eq_singleton hpiece]
    rfl
  · rw [List.splitOn_append_cons_self_of_not_mem hpiece]
    rfl

/-- What stands between line feeds, or between one and an end of the content, is the line
whose number is one more than the line feeds in front of it. -/
def IsLine (content : List Char) (line : Nat) (text : List Char) : Prop :=
  ∃ before after, content = before ++ text ++ after ∧ '\n' ∉ text ∧
    (before = [] ∨ ∃ front, before = front ++ ['\n']) ∧
    (after = [] ∨ ∃ rest, after = '\n' :: rest) ∧ line = before.count '\n' + 1

/-- The text of the line on which a place lies, between what stands in front of it and what
stands behind. -/
def lineAround (before rest : List Char) : List Char :=
  before.rtakeWhile (· != '\n') ++ rest.takeWhile (· != '\n')

/-- A place lies on a line. -/
theorem isLine_lineAround (before rest : List Char) :
    IsLine (before ++ rest) (before.count '\n' + 1) (lineAround before rest) := by
  have hbefore : before.rdropWhile (· != '\n') ++ before.rtakeWhile (· != '\n') = before :=
    List.rdropWhile_append_rtakeWhile
  have hrest : rest.takeWhile (· != '\n') ++ rest.dropWhile (· != '\n') = rest :=
    List.takeWhile_append_dropWhile
  refine ⟨before.rdropWhile (· != '\n'), rest.dropWhile (· != '\n'), ?_, ?_, ?_, ?_, ?_⟩
  · rw [lineAround, ← List.append_assoc, hbefore, List.append_assoc, hrest]
  · intro hmem
    rcases List.mem_append.mp hmem with hmem | hmem
    · have := List.mem_rtakeWhile_imp hmem
      simp at this
    · have := List.mem_takeWhile_imp hmem
      simp at this
  · rcases List.eq_nil_or_concat (before.rdropWhile (· != '\n')) with hnil | ⟨front, c, hfront⟩
    · exact .inl hnil
    · have hc := List.rdropWhile_last_not (· != '\n') before (by simp [hfront])
      simp only [hfront, List.concat_eq_append, List.getLast_concat, bne_iff_ne, ne_eq,
        Decidable.not_not] at hc
      exact .inr ⟨front, by rw [hfront, List.concat_eq_append, hc]⟩
  · cases hdrop : rest.dropWhile (· != '\n') with
    | nil => exact .inl rfl
    | cons c later =>
      have hc := List.head?_dropWhile_not (· != '\n') rest
      rw [hdrop] at hc
      have hc : c = '\n' := by simpa using hc
      exact .inr ⟨later, by rw [hc]⟩
  · have hnone : (before.rtakeWhile (· != '\n')).count '\n' = 0 :=
      List.count_eq_zero.mpr fun hmem => by simpa using List.mem_rtakeWhile_imp hmem
    have hcount := congrArg (List.count '\n') hbefore
    rw [List.count_append, hnone, Nat.add_zero] at hcount
    rw [hcount]

theorem exists_isLine (before rest : List Char) :
    ∃ text, IsLine (before ++ rest) (before.count '\n' + 1) text :=
  ⟨_, isLine_lineAround before rest⟩

/-- The first line of a content is all up to the first line feed, and the others are the lines
of what stands behind it. -/
theorem IsLine.below {rest text : List Char} {n : Nat} (h : IsLine rest n text)
    (line : List Char) :
    IsLine (line ++ '\n' :: rest) (n + (line.count '\n' + 1)) text := by
  obtain ⟨before, after, rfl, htext, hbefore, hafter, rfl⟩ := h
  refine ⟨line ++ '\n' :: before, after, by simp, htext, .inr ?_, hafter, ?_⟩
  · rcases hbefore with rfl | ⟨front, rfl⟩
    · exact ⟨line, rfl⟩
    · exact ⟨line ++ '\n' :: front, by simp⟩
  · rw [List.count_append, List.count_cons_self]
    omega

/-- A statement about contents follows from contents of one line and from one line more on
top of a content. -/
@[elab_as_elim]
theorem induction_lines {P : List Char → Prop} (one : ∀ line, '\n' ∉ line → P line)
    (more : ∀ line rest, '\n' ∉ line → P rest → P (line ++ '\n' :: rest)) (cs : List Char) :
    P cs := by
  by_cases h : '\n' ∈ cs
  · obtain ⟨line, rest, hcs, hline⟩ := List.eq_append_cons_of_mem h
    exact hcs ▸ more line rest hline (induction_lines one more rest)
  · exact one cs h
termination_by cs.length
decreasing_by
  rw [hcs, List.length_append, List.length_cons]
  omega

/-- There is a line of every number up to one more than the line feeds. -/
theorem exists_isLine_of_le {content : List Char} {k : Nat} (h : k ≤ content.count '\n') :
    ∃ text, IsLine content (k + 1) text := by
  induction content using induction_lines generalizing k with
  | one line hline =>
    rw [List.count_eq_zero.mpr hline, Nat.le_zero] at h
    exact h ▸ exists_isLine [] line
  | more line rest hline ih =>
    have hnone : line.count '\n' = 0 := List.count_eq_zero.mpr hline
    cases k with
    | zero => exact exists_isLine [] _
    | succ k =>
      rw [List.count_append, List.count_cons_self, hnone] at h
      obtain ⟨text, htext⟩ := ih (k := k) (by omega)
      have hbelow := htext.below line
      rw [hnone] at hbelow
      exact ⟨text, hbelow⟩

/-- A line is the piece of its number. -/
theorem IsLine.getElem?_splitOn {content text : List Char} {k : Nat}
    (h : IsLine content (k + 1) text) : (content.splitOn '\n')[k]? = some text := by
  obtain ⟨before, after, rfl, hnone, hbefore, hafter, hk⟩ := h
  obtain rfl : k = before.count '\n' := Nat.succ.inj hk
  have hpiece := getElem?_splitOn_zero hnone hafter
  rcases hbefore with rfl | ⟨front, rfl⟩
  · exact hpiece
  · have htext : front ++ ['\n'] ++ text ++ after = front ++ '\n' :: (text ++ after) := by
      simp
    rw [htext, List.splitOn_append_cons_self, List.count_append, List.count_singleton_self,
      List.getElem?_append_right (by rw [length_splitOn]), length_splitOn, Nat.sub_self]
    exact hpiece

/-- The lines of a content have the numbers from one on, one more than its line feeds. -/
theorem IsLine.bounds {content text : List Char} {line : Nat} (h : IsLine content line text) :
    1 ≤ line ∧ line ≤ content.count '\n' + 1 := by
  obtain ⟨before, after, rfl, _, _, _, rfl⟩ := h
  rw [List.count_append, List.count_append]
  omega

end Text

/-! ## Lines in an index -/

open Text

theorem LineIndex.starts_zero (content : List Char) :
    (LineIndex.ofContent content).starts[0]? = some 0 := by
  rw [ofContent, startsOf_eq]
  rfl

/-- The start behind a line feed. -/
theorem LineIndex.starts_succ (content : List Char) (n : Nat) :
    (LineIndex.ofContent content).starts[n + 1]? =
      (lineFeedsFrom 0 content)[n]?.map fun feed => feed + 1 := by
  rw [ofContent, startsOf_eq]
  simp

/-- An index reads the text of a line: its bounds are in range and places of the content,
and what stands between them is the text. -/
structure LineIndex.Reads (index : LineIndex) (content : List Char) (line : Nat)
    (text : List Char) : Prop where
  isLine : IsLine content line text
  bounds : ∃ bounds, index.bounds? content line = some bounds ∧ IsSpan content bounds ∧
    slice bounds.1 bounds.2 content = text
  lineText_eq : index.lineText? content line = some text

theorem LineIndex.bounds?_of_isLine {before text after : List Char} (hnone : '\n' ∉ text)
    (hbefore : before = [] ∨ ∃ front, before = front ++ ['\n'])
    (hafter : after = [] ∨ ∃ rest, after = '\n' :: rest) :
    (LineIndex.ofContent (before ++ text ++ after)).bounds? (before ++ text ++ after)
        (before.count '\n' + 1) =
      some (byteLength before, byteLength (before ++ text)) := by
  have hfirst : (LineIndex.ofContent (before ++ text ++ after)).starts[before.count '\n']? =
      some (byteLength before) := by
    rcases hbefore with rfl | ⟨front, rfl⟩
    · exact starts_zero _
    · have htext : front ++ ['\n'] ++ text ++ after = front ++ '\n' :: (text ++ after) := by
        simp
      rw [htext, List.count_append, List.count_singleton_self, starts_succ,
        getElem?_lineFeedsFrom, byteLength_append]
      rfl
  have hcount : (before ++ text).count '\n' = before.count '\n' := by
    rw [List.count_append, List.count_eq_zero.mpr hnone, Nat.add_zero]
  have hnext : ((LineIndex.ofContent (before ++ text ++ after)).starts[
      before.count '\n' + 1]?.map fun next => next - 1).getD
        (byteLength (before ++ text ++ after)) = byteLength (before ++ text) := by
    rw [starts_succ, ← hcount]
    rcases hafter with rfl | ⟨rest, rfl⟩
    · rw [List.append_nil, List.getElem?_eq_none (by rw [length_lineFeedsFrom])]
      rfl
    · rw [getElem?_lineFeedsFrom]
      rfl
  rw [bounds?, hfirst, Option.map_some, hnext]

/-- The text of a line is what stands between its bounds. -/
theorem LineIndex.lineText?_of_isLine {before text after : List Char} (hnone : '\n' ∉ text)
    (hbefore : before = [] ∨ ∃ front, before = front ++ ['\n'])
    (hafter : after = [] ∨ ∃ rest, after = '\n' :: rest) :
    (LineIndex.ofContent (before ++ text ++ after)).lineText? (before ++ text ++ after)
        (before.count '\n' + 1) = some text := by
  rw [lineText?, bounds?_of_isLine hnone hbefore hafter, Option.map_some]
  exact congrArg some (slice_eq before text after)

theorem LineIndex.reads_line {content text : List Char} {line : Nat}
    (h : IsLine content line text) : (LineIndex.ofContent content).Reads content line text := by
  have hline := h
  obtain ⟨before, after, rfl, hnone, hbefore, hafter, rfl⟩ := h
  exact ⟨hline, ⟨_, bounds?_of_isLine hnone hbefore hafter, ⟨before, text, after, rfl, rfl, rfl⟩,
    slice_eq before text after⟩, lineText?_of_isLine hnone hbefore hafter⟩

/-- There are bounds for every line of the content, and for no other number. -/
theorem LineIndex.bounds?_isSome (content : List Char) (line : Nat) :
    ((LineIndex.ofContent content).bounds? content line).isSome ↔
      1 ≤ line ∧ line ≤ content.count '\n' + 1 := by
  cases line with
  | zero => simp [bounds?]
  | succ n =>
    rw [bounds?, Option.isSome_map]
    cases n with
    | zero => simp [starts_zero]
    | succ n =>
      rw [starts_succ, Option.isSome_map, ← length_lineFeedsFrom 0 content, isSome_getElem?]
      omega

/-- The texts of the lines are the pieces between the line feeds. -/
theorem LineIndex.lineText?_succ (content : List Char) (k : Nat) :
    (LineIndex.ofContent content).lineText? content (k + 1) = (content.splitOn '\n')[k]? := by
  by_cases hk : k ≤ content.count '\n'
  · obtain ⟨text, hline⟩ := exists_isLine_of_le hk
    rw [(reads_line hline).lineText_eq, hline.getElem?_splitOn]
  · have hnone : ¬ ((LineIndex.ofContent content).bounds? content (k + 1)).isSome := by
      rw [bounds?_isSome]
      omega
    rw [lineText?, Option.not_isSome_iff_eq_none.mp hnone, List.getElem?_eq_none]
    · rfl
    · rw [length_splitOn]
      omega

/-- A line has one text. -/
theorem Text.IsLine.unique {content text text' : List Char} {line : Nat}
    (h : IsLine content line text) (h' : IsLine content line text') : text = text' := by
  have hreads := (LineIndex.reads_line h).lineText_eq
  rw [(LineIndex.reads_line h').lineText_eq] at hreads
  exact (Option.some.inj hreads).symm

end BackendAudit
