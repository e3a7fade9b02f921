import BackendAudit.Proofs.Audit.Assignment
import BackendAudit.Proofs.Text.LineText

/-!
# Environment files line by line

The findings of an environment file are those of its lines, one behind the other
(`Env.findingsFrom_append`), and a line gives at most one.  How a line ends does not matter:
the carriage return in front of a line feed is a blank at the end of the line, and behind a
last line feed there is an empty line, which assigns nothing (`Env.check_eq_lines`).

What stands around a line is judged without regard to it (`Env.exists_check_around`).
-/

namespace BackendAudit

namespace Text

/-- A line without a carriage return at its end. -/
def dropReturn (line : List Char) : List Char :=
  if line.getLast? = some '\r' then line.dropLast else line

/-- The lines that pieces between line feeds make: the last piece was not ended by a line
feed, and is a line unless it is empty. -/
def linesOf : List (List Char) → List (List Char)
  | [] => []
  | [last] => if last.isEmpty then [] else [last]
  | piece :: next :: pieces => dropReturn piece :: linesOf (next :: pieces)

/-- The lines of a text, without the line feed that ends each of them, and without the
carriage return in front of it. -/
def lines (cs : List Char) : List (List Char) :=
  linesOf (splitAt '\n' cs)

theorem exists_eq_dropReturn (line : List Char) :
    ∃ blanks, Blank blanks ∧ line = dropReturn line ++ blanks := by
  rw [dropReturn]
  split
  · rename_i hlast
    obtain ⟨front, rfl⟩ := List.getLast?_eq_some_iff.mp hlast
    refine ⟨['\r'], List.forall_mem_singleton.mpr (by decide), ?_⟩
    rw [List.dropLast_concat]
  · exact ⟨[], List.forall_mem_nil _, (List.append_nil _).symm⟩

/-- What stands in front of a line and behind it: a line feed on each side, the second one
perhaps with a carriage return in front of it, or an end of the content. -/
structure AroundLine (before after : List Char) : Prop where
  starts : before = [] ∨ ∃ front, before = front ++ ['\n']
  ends : after = [] ∨ (∃ rest, after = '\n' :: rest) ∨ ∃ rest, after = '\r' :: '\n' :: rest

end Text

namespace Env

open Text

variable (target : String)

/-! ## Findings of lines -/

/-- The findings of a line. -/
def lineFindings (number : Nat) (line : List Char) : List Finding :=
  ((weakSecret? line).map (finding target number)).toList

/-- The findings of lines, the first of which has the number `first`. -/
def linesFindings (first : Nat) (lines : List (List Char)) : List Finding :=
  (lines.zipIdx first).filterMap fun (line, number) =>
    (weakSecret? line).map (finding target number)

theorem linesFindings_cons (first : Nat) (line : List Char) (lines : List (List Char)) :
    linesFindings target first (line :: lines) =
      lineFindings target first line ++ linesFindings target (first + 1) lines := by
  rw [linesFindings, lineFindings, List.zipIdx_cons, List.filterMap_cons]
  dsimp only
  cases weakSecret? line <;> rfl

theorem linesFindings_append (first : Nat) (lines more : List (List Char)) :
    linesFindings target first (lines ++ more) =
      linesFindings target first lines ++ linesFindings target (first + lines.length) more := by
  rw [linesFindings, List.zipIdx_append, List.filterMap_append, linesFindings, linesFindings]

variable {target}

/-- A line gives no finding if it assigns no weak secret. -/
theorem lineFindings_eq_nil_iff {number : Nat} {line : List Char} :
    lineFindings target number line = [] ↔ weakSecret? line = none := by
  rw [lineFindings, Option.toList_eq_nil_iff, Option.map_eq_none_iff]

/-- Lines with the same weak secrets have the same findings. -/
theorem linesFindings_congr {lines lines' : List (List Char)}
    (h : List.Forall₂ (fun line line' => weakSecret? line = weakSecret? line') lines lines')
    (first : Nat) : linesFindings target first lines = linesFindings target first lines' := by
  induction h generalizing first with
  | nil => rfl
  | cons hline _ ih => rw [linesFindings_cons, linesFindings_cons, ih, lineFindings, lineFindings,
      hline]

theorem linesFindings_linesOf (first : Nat) (pieces : List (List Char)) :
    linesFindings target first (linesOf pieces) = linesFindings target first pieces := by
  induction pieces generalizing first with
  | nil => rfl
  | cons piece pieces ih =>
    cases pieces with
    | nil =>
      rw [linesOf]
      split
      · rename_i hempty
        rw [List.isEmpty_iff.mp hempty, linesFindings_cons,
          lineFindings_eq_nil_iff.mpr (weakSecret?_of_not_mem List.not_mem_nil)]
        rfl
      · rfl
    | cons next pieces =>
      obtain ⟨blanks, hblanks, hpiece⟩ := exists_eq_dropReturn piece
      have hsame : weakSecret? piece = weakSecret? (dropReturn piece) := by
        rw [hpiece, weakSecret?_append_of_blank hblanks, ← hpiece]
      rw [linesOf, linesFindings_cons, linesFindings_cons, ih, lineFindings, lineFindings, hsame]

variable (target)

/-- The findings of an environment file are those of its lines. -/
theorem check_eq_lines (content : String) :
    check target content = linesFindings target 1 (lines content.toList) := by
  rw [lines, linesFindings_linesOf, check, linesFindings, List.zipIdx_succ, List.filterMap_map]
  rfl

/-! ## Findings of texts -/

/-- The findings of a text whose first line has the number `first`. -/
def findingsFrom (first : Nat) (cs : List Char) : List Finding :=
  linesFindings target first (splitAt '\n' cs)

theorem check_ofList (cs : List Char) :
    check target (String.ofList cs) = findingsFrom target 1 cs := by
  rw [check_eq_lines, lines, linesFindings_linesOf, String.toList_ofList]
  rfl

/-- A line feed ends a line: what stands behind it begins with the next one. -/
theorem findingsFrom_append (first : Nat) (cs ds : List Char) :
    findingsFrom target first (cs ++ '\n' :: ds) =
      findingsFrom target first cs ++ findingsFrom target (first + (cs.count '\n' + 1)) ds := by
  rw [findingsFrom, findingsFrom, findingsFrom, splitAt_eq_splitOn, splitAt_eq_splitOn,
    splitAt_eq_splitOn, List.splitOn_append_cons_self, linesFindings_append, length_splitOn]

variable {target}

/-- A text without line feeds is a line. -/
theorem findingsFrom_of_not_mem {line : List Char} (h : '\n' ∉ line) (first : Nat) :
    findingsFrom target first line = lineFindings target first line := by
  rw [findingsFrom, splitAt_eq_splitOn, List.splitOn_eq_singleton h, linesFindings_cons]
  exact List.append_nil _

theorem lineFindings_append_return (number : Nat) (line : List Char) :
    lineFindings target number (line ++ ['\r']) = lineFindings target number line := by
  rw [lineFindings, weakSecret?_append_of_blank (List.forall_mem_singleton.mpr (by decide)),
    lineFindings]

variable (target)

/-- The findings in front of a line and behind it do not depend on what stands on it. -/
theorem exists_check_around {before after : List Char} (h : AroundLine before after) :
    ∃ fs gs, ∀ line, '\n' ∉ line →
      check target (String.ofList (before ++ line ++ after)) =
        fs ++ lineFindings target (before.count '\n' + 1) line ++ gs := by
  have hbehind : ∀ number, ∃ gs, ∀ line, '\n' ∉ line →
      findingsFrom target number (line ++ after) = lineFindings target number line ++ gs := by
    intro number
    rcases h.ends with rfl | ⟨rest, rfl⟩ | ⟨rest, rfl⟩
    · refine ⟨[], fun line hline => ?_⟩
      rw [List.append_nil, findingsFrom_of_not_mem hline, List.append_nil]
    · refine ⟨findingsFrom target (number + 1) rest, fun line hline => ?_⟩
      rw [findingsFrom_append, findingsFrom_of_not_mem hline, List.count_eq_zero.mpr hline]
    · refine ⟨findingsFrom target (number + 1) rest, fun line hline => ?_⟩
      have hreturn : '\n' ∉ line ++ ['\r'] := by simpa using hline
      have htext : line ++ '\r' :: '\n' :: rest = line ++ ['\r'] ++ '\n' :: rest := by simp
      rw [htext, findingsFrom_append, findingsFrom_of_not_mem hreturn, lineFindings_append_return,
        List.count_eq_zero.mpr hreturn]
  obtain ⟨gs, hgs⟩ := hbehind (before.count '\n' + 1)
  rcases h.starts with rfl | ⟨front, rfl⟩
  · refine ⟨[], gs, fun line hline => ?_⟩
    rw [check_ofList]
    exact hgs line hline
  · refine ⟨findingsFrom target 1 front, gs, fun line hline => ?_⟩
    have htext : front ++ ['\n'] ++ line ++ after = front ++ '\n' :: (line ++ after) := by simp
    have hcount : 1 + (front.count '\n' + 1) = (front ++ ['\n']).count '\n' + 1 := by
      rw [List.count_append, List.count_singleton_self]
      omega
    rw [check_ofList, htext, findingsFrom_append, hcount, hgs line hline, List.append_assoc]

end Env
end BackendAudit
