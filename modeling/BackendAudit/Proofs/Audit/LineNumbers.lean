import BackendAudit.Proofs.Audit.LineByLine

/-!
# Numbers of the lines of an environment file

Each line of an environment file is judged by itself.  What is found in a text behind a line
feed is what is found in it alone, further down (`Env.findingsFrom_add`), so the findings are
told by the lines and their numbers (`Env.mem_findingsFrom_iff`) and stand in the order of
these (`Env.findingsFrom_ascending`).  `Env.check_by_lines` puts this together.
-/

namespace BackendAudit

namespace Env

open Text

variable {target : String}

/-! ## Numbers -/

theorem lineFindings_add (first more : Nat) (line : List Char) :
    lineFindings target (first + more) line =
      (lineFindings target first line).map (Finding.downBy more) := by
  rw [lineFindings, lineFindings]
  cases weakSecret? line <;> rfl

theorem linesFindings_add (first more : Nat) (lines : List (List Char)) :
    linesFindings target (first + more) lines =
      (linesFindings target first lines).map (Finding.downBy more) := by
  induction lines generalizing first with
  | nil => rfl
  | cons line lines ih =>
    rw [linesFindings_cons, linesFindings_cons, List.map_append, lineFindings_add, ← ih,
      Nat.add_right_comm]

/-- The same text further down has the same findings further down. -/
theorem findingsFrom_add (first more : Nat) (cs : List Char) :
    findingsFrom target (first + more) cs =
      (findingsFrom target first cs).map (Finding.downBy more) :=
  linesFindings_add first more _

/-! ## Lines of findings -/

/-- A finding tells of the secret on a line of a text: its number is that of the line, and the
rest of it is what the line gives by itself. -/
def TellsLine (target : String) (cs : List Char) (f : Finding) : Prop :=
  ∃ line kind, IsLine cs f.location.line line ∧ weakSecret? line = some kind ∧
    f = finding target f.location.line kind

theorem TellsLine.below {rest : List Char} {f : Finding} (h : TellsLine target rest f)
    (line : List Char) :
    TellsLine target (line ++ '\n' :: rest) (f.downBy (line.count '\n' + 1)) := by
  obtain ⟨text, kind, htext, hkind, hf⟩ := h
  exact ⟨text, kind, htext.below line, hkind, congrArg (Finding.downBy _) hf⟩

theorem tellsLine_of_mem_lineFindings {line cs : List Char} {number : Nat} {f : Finding}
    (hline : IsLine cs number line) (h : f ∈ lineFindings target number line) :
    TellsLine target cs f := by
  obtain ⟨kind, hkind, rfl⟩ := Option.map_eq_some_iff.mp (Option.mem_toList.mp h)
  exact ⟨line, kind, hline, hkind, rfl⟩

theorem tellsLine_of_mem {cs : List Char} {f : Finding} (h : f ∈ findingsFrom target 1 cs) :
    TellsLine target cs f := by
  induction cs using induction_lines generalizing f with
  | one line hline =>
    rw [findingsFrom_of_not_mem hline] at h
    exact tellsLine_of_mem_lineFindings ⟨[], [], by simp, hline, .inl rfl, .inl rfl, rfl⟩ h
  | more line rest hline ih =>
    rw [findingsFrom_append, findingsFrom_of_not_mem hline, findingsFrom_add] at h
    rcases List.mem_append.mp h with h | h
    · exact tellsLine_of_mem_lineFindings
        ⟨[], '\n' :: rest, rfl, hline, .inl rfl, .inr ⟨rest, rfl⟩, rfl⟩ h
    · obtain ⟨g, hg, rfl⟩ := List.mem_map.mp h
      exact (ih hg).below line

theorem mem_findingsFrom_iff {cs : List Char} {f : Finding} :
    f ∈ findingsFrom target 1 cs ↔ TellsLine target cs f := by
  refine ⟨tellsLine_of_mem, ?_⟩
  rintro ⟨line, kind, ⟨before, after, rfl, hline, hbefore, hafter, hnumber⟩, hkind, hf⟩
  obtain ⟨fs, gs, hcheck⟩ := exists_check_around target ⟨hbefore, hafter.imp_right .inl⟩
  rw [← check_ofList, hcheck line hline, lineFindings, hkind, ← hnumber]
  simp [← hf]

theorem lineFindings_pairwise (R : Finding → Finding → Prop) (number : Nat) (line : List Char) :
    (lineFindings target number line).Pairwise R := by
  rw [lineFindings]
  cases weakSecret? line with
  | none => exact .nil
  | some kind => exact List.pairwise_singleton _ _

theorem line_of_mem_lineFindings {number : Nat} {line : List Char} {f : Finding}
    (h : f ∈ lineFindings target number line) : f.location.line = number := by
  obtain ⟨kind, _, rfl⟩ := Option.map_eq_some_iff.mp (Option.mem_toList.mp h)
  rfl

/-- The findings are in the order of their lines, and no two of them are on one line. -/
theorem findingsFrom_ascending (cs : List Char) :
    (findingsFrom target 1 cs).Pairwise fun f g => f.location.line < g.location.line := by
  induction cs using induction_lines with
  | one line hline =>
    rw [findingsFrom_of_not_mem hline]
    exact lineFindings_pairwise _ 1 line
  | more line rest hline ih =>
    rw [findingsFrom_append, findingsFrom_of_not_mem hline, findingsFrom_add,
      List.pairwise_append, List.pairwise_map]
    refine ⟨lineFindings_pairwise _ 1 line, ih.imp fun hfg => Nat.add_lt_add_right hfg _, ?_⟩
    intro f hf g hg
    obtain ⟨g, hmem, rfl⟩ := List.mem_map.mp hg
    obtain ⟨_, _, htext, _⟩ := tellsLine_of_mem hmem
    have hfirst := htext.bounds.1
    rw [line_of_mem_lineFindings hf]
    show 1 < g.location.line + (line.count '\n' + 1)
    omega

/-! ## Contents -/

/-- The findings of two contents with a line feed between them are those of the first and those
of the second, with as many lines more as the first has.  A finding is on the line that gives
it, and no other finding is; what stands on a line does not matter to the findings on others. -/
theorem check_by_lines (target a b : String) :
    check target (a ++ "\n" ++ b) =
        check target a ++
          (check target b).map (Finding.downBy (1 + a.toList.count '\n')) ∧
      (∀ f, f ∈ check target a ↔ TellsLine target a.toList f) ∧
      ((check target a).Pairwise fun f g => f.location.line < g.location.line) ∧
      ∀ before after, AroundLine before after → ∀ line line', '\n' ∉ line → '\n' ∉ line' →
        (check target (String.ofList (before ++ line ++ after))).filter
            (fun f => f.location.line ≠ before.count '\n' + 1) =
          (check target (String.ofList (before ++ line' ++ after))).filter
            (fun f => f.location.line ≠ before.count '\n' + 1) := by
  have hcheck : ∀ s : String, check target s = findingsFrom target 1 s.toList := fun s => by
    rw [← check_ofList, String.ofList_toList]
  refine ⟨?_, fun f => ?_, ?_, fun before after haround line line' hline hline' => ?_⟩
  · have htext : (a ++ "\n" ++ b).toList = a.toList ++ '\n' :: b.toList := by simp
    rw [hcheck, hcheck, hcheck, htext, findingsFrom_append, findingsFrom_add, Nat.add_comm 1]
  · rw [hcheck]
    exact mem_findingsFrom_iff
  · rw [hcheck]
    exact findingsFrom_ascending a.toList
  · obtain ⟨fs, gs, hsame⟩ := exists_check_around target haround
    have hnone : ∀ text, (lineFindings target (before.count '\n' + 1) text).filter
        (fun f => f.location.line ≠ before.count '\n' + 1) = [] := by
      intro text
      rw [List.filter_eq_nil_iff]
      intro f hf
      simp [line_of_mem_lineFindings hf]
    rw [hsame line hline, hsame line' hline', List.filter_append, List.filter_append,
      List.filter_append, List.filter_append, hnone line, hnone line']

/-- A quote that is not closed ends with its line, and the line below it is the third. -/
theorem check_by_lines_openQuote :
    let before := "A=1\n".toList
    let after := "\r\nPASSWORD=b".toList
    AroundLine before after ∧ '\n' ∉ "API_KEY='open".toList ∧ '\n' ∉ "# none".toList ∧
      (check ".env" (String.ofList (before ++ "API_KEY='open".toList ++ after))).filter
          (fun f => f.location.line ≠ before.count '\n' + 1) =
        (check ".env" (String.ofList (before ++ "# none".toList ++ after))).filter
          (fun f => f.location.line ≠ before.count '\n' + 1) ∧
      check ".env" "A=1\nAPI_KEY='open\r\nPASSWORD=b" =
        [finding ".env" 2 ⟨"API_KEY", "api key", 33⟩,
          finding ".env" 3 ⟨"PASSWORD", "password", 21⟩] := by
  intro before after
  have haround : AroundLine before after :=
    ⟨.inr ⟨"A=1".toList, by decide⟩, .inr (.inr ⟨"PASSWORD=b".toList, by decide⟩)⟩
  have hline : '\n' ∉ "API_KEY='open".toList := by decide
  have hline' : '\n' ∉ "# none".toList := by decide
  exact ⟨haround, hline, hline', (check_by_lines ".env" "" "").2.2.2 before after haround _ _ hline
    hline', by decide⟩

end Env
end BackendAudit
