import BackendAudit.Proofs.Audit.TrailingComment
import BackendAudit.Proofs.Text.UpperCase

/-!
# Ways of writing an assignment

The same assignment can be written with blanks around it, with `export` in front of it, with
its key in any case and with its value in quotes.  The markers that tell the kind of a secret
have no blanks, so the kind can be told from all that stands in front of the equals sign:
neither the blanks around the key nor the word in front of it make a difference
(`Env.keyOf?_bind_weakKind?`).

`Env.check_rewritten`: another way of writing a line changes no finding, and neither do
carriage returns in front of the line feeds.
-/

namespace BackendAudit

namespace Env

open Text

/-! ## Kinds of secrets -/

theorem secretKind?_congr {key key' : List Char}
    (h : ∀ k ∈ secretKinds, contains k.marker.toList (uppercase key) =
      contains k.marker.toList (uppercase key')) :
    secretKind? key = secretKind? key' := by
  rw [secretKind?, secretKind?, ← List.head?_filter, ← List.head?_filter, List.filter_congr h]

/-- A marker has characters, and none of them is a blank. -/
theorem marker_solid : ∀ k ∈ secretKinds,
    k.marker.toList ≠ [] ∧ ∀ c ∈ k.marker.toList, isBlank c = false := by
  decide

theorem not_mem_marker_of_blank {k : SecretKind} (hk : k ∈ secretKinds) {blanks : List Char}
    (h : Blank blanks) : ∀ c ∈ blanks, c ∉ k.marker.toList := by
  intro c hc hmem
  have hblank := h c hc
  rw [(marker_solid k hk).2 c hmem] at hblank
  cases hblank

/-- Blanks around a key do not matter to the kind of its secret. -/
theorem secretKind?_of_blank {before after : List Char} (hbefore : Blank before)
    (hafter : Blank after) (key : List Char) :
    secretKind? (before ++ key ++ after) = secretKind? key := by
  apply secretKind?_congr
  intro k hk
  obtain ⟨p, hp⟩ := List.exists_mem_of_ne_nil _ (marker_solid k hk).1
  rw [uppercase_append, uppercase_append, uppercase_of_blank hbefore, uppercase_of_blank hafter,
    contains_append_right hp _ (not_mem_marker_of_blank hk hafter),
    contains_append_left hp (not_mem_marker_of_blank hk hbefore)]

/-- Nor does the word `export` in front of it. -/
theorem secretKind?_export (key : List Char) :
    secretKind? ("export ".toList ++ key) = secretKind? key := by
  have hword : ∀ k ∈ secretKinds, ' ' ∉ k.marker.toList ∧
      contains k.marker.toList "EXPORT".toList = false := by decide
  have hupper : uppercase "export ".toList = "EXPORT".toList ++ [' '] := by decide
  apply secretKind?_congr
  intro k hk
  obtain ⟨hblank, hnone⟩ := hword k hk
  rw [uppercase_append, hupper, List.append_assoc, List.singleton_append,
    contains_append_cons hblank, hnone, Bool.false_or]

theorem secretKind?_dropLeading (key : List Char) :
    secretKind? (dropLeading "export ".toList key) = secretKind? key := by
  rw [dropLeading]
  split
  · rename_i hprefix
    obtain ⟨rest, rfl⟩ := List.isPrefixOf_iff_prefix.mp hprefix
    rw [List.drop_left, secretKind?_export]
  · rfl

theorem secretKind?_trim (key : List Char) : secretKind? (trim key) = secretKind? key := by
  obtain ⟨before, after, hbefore, hafter, hkey⟩ := exists_eq_trim key
  rw [← secretKind?_of_blank hbefore hafter, ← hkey]

theorem secretKind?_of_trim_eq_nil {key : List Char} (h : trim key = []) :
    secretKind? key = none := by
  rw [← secretKind?_trim, h]
  decide

/-- The weak secret of a line can be told from all that stands in front of its equals sign. -/
theorem keyOf?_bind_weakKind? (front : List Char) (length : Nat) :
    (keyOf? front).bind (weakKind? length) =
      if (trimStart front).head? = some '#' then none else weakKind? length front := by
  have hstart : secretKind? (trimStart front) = secretKind? front := by
    rw [← secretKind?_trim, trim_trimStart, secretKind?_trim]
  rw [keyOf?]
  split
  · rfl
  · rw [trimmedKey?]
    have hkey : secretKind? (dropLeading "export ".toList (trimStart front)) =
        secretKind? front := by
      rw [secretKind?_dropLeading, hstart]
    split
    · rename_i hempty
      rw [weakKind?, ← hkey, secretKind?_of_trim_eq_nil (List.isEmpty_iff.mp hempty)]
      rfl
    · rw [Option.bind_some, weakKind?, weakKind?, secretKind?_trim, hkey]

/-! ## Quoted values -/

/-- A value that means itself without quotes: it has no blanks at its ends, begins with no quote
and has no comment behind it. -/
structure Plain (value : List Char) : Prop where
  ne_nil : value ≠ []
  trim_eq : trim value = value
  unquoted : Unquoted value
  no_comment : contains " #".toList value = false

theorem Plain.valueOf_eq {value : List Char} (h : Plain value) : valueOf value = value := by
  have hnone : splitOnce " #".toList value = none :=
    (splitOnce_eq_none_iff (by decide)).mpr h.no_comment
  cases value with
  | nil => exact absurd rfl h.ne_nil
  | cons c rest =>
    rw [valueOf_of_cons h.trim_eq (h.unquoted.of_cons h.trim_eq), hnone]
    rfl

/-- What stands between quotes is the value. -/
theorem valueOf_quoted {quote : Char} (hquote : quote = '"' ∨ quote = '\'') {value : List Char}
    (h : quote ∉ value) : valueOf (quote :: (value ++ [quote])) = value := by
  have hsolid : isBlank quote = false := by
    rcases hquote with rfl | rfl <;> decide
  have htrim : trim (quote :: (value ++ [quote])) = quote :: (value ++ [quote]) := by
    have hwhole := trim_append_cons hsolid [] (value ++ [quote])
    rw [trimEnd_append_cons hsolid] at hwhole
    exact hwhole
  rw [valueOf, htrim]
  dsimp only
  rw [if_pos hquote, List.takeWhile_append_of_pos]
  · simp
  · intro c hc
    exact decide_eq_true fun heq => h (heq ▸ hc)

/-! ## Lines -/

/-- Other ways of writing a line. -/
inductive Rewritten : List Char → List Char → Prop
  | blanks {before line after : List Char} (hbefore : Blank before) (hafter : Blank after)
    (hline : '\n' ∉ before ++ after) : Rewritten line (before ++ line ++ after)
  | exported {line : List Char} (htrim : trim line = line) (hempty : line ≠ [])
    (hcomment : line.head? ≠ some '#') : Rewritten line ("export ".toList ++ line)
  /-- The letters of ASCII in front of the first equals sign, if there is one, in any case. -/
  | letterCase {front front' rest : List Char} (hfront : '=' ∉ front)
    (hrest : rest = [] ∨ ∃ raw, rest = '=' :: raw) (hsame : List.Forall₂ SameLetter front front') :
    Rewritten (front ++ rest) (front' ++ rest)
  | quoted {key value : List Char} {quote : Char} (hkey : '=' ∉ key)
    (hquote : quote = '"' ∨ quote = '\'') (hvalue : Plain value) (hnone : quote ∉ value) :
    Rewritten (key ++ '=' :: value) (key ++ '=' :: quote :: (value ++ [quote]))

theorem Rewritten.not_mem {line line' : List Char} (h : Rewritten line line')
    (hline : '\n' ∉ line) : '\n' ∉ line' := by
  cases h with
  | blanks _ _ hblanks => simp_all
  | exported => simpa using hline
  | letterCase _ _ hsame =>
    rw [List.mem_append, mem_iff_of_sameLetter (by decide) hsame] at hline
    rwa [List.mem_append]
  | quoted _ hquote => rcases hquote with rfl | rfl <;> simp_all

theorem weakSecret?_of_blank_append {blanks : List Char} (h : Blank blanks) (line : List Char) :
    weakSecret? (blanks ++ line) = weakSecret? line := by
  have htrim : trim (blanks ++ line) = trim line := by
    rw [trim, trim, trimStart_append_of_blank h]
  rw [weakSecret?_eq, weakSecret?_eq, assignment?, assignment?, htrim]

theorem weakSecret?_exported {line : List Char} (htrim : trim line = line) (hempty : line ≠ [])
    (hcomment : line.head? ≠ some '#') :
    weakSecret? ("export ".toList ++ line) = weakSecret? line := by
  by_cases hsign : '=' ∈ line
  · obtain ⟨front, raw, rfl, hfront⟩ := List.eq_append_cons_of_mem hsign
    have hword : '=' ∉ "export ".toList ++ front := by simpa using hfront
    have hstart : trimStart front = front := by
      cases front with
      | nil => rfl
      | cons c front =>
        rw [trimStart, List.dropWhile_cons_of_neg]
        simp [isBlank_of_trim_eq_cons htrim]
    have hcomment' : (trimStart front).head? ≠ some '#' := by
      rw [hstart]
      cases front with
      | nil => simp
      | cons c front => exact hcomment
    have hword' : (trimStart ("export ".toList ++ front)).head? ≠ some '#' := by
      have hfirst : isBlank 'e' = false := by decide
      simp [trimStart, hfirst]
    rw [← List.append_assoc, weakSecret?_append hword, weakSecret?_append hfront,
      keyOf?_bind_weakKind?, keyOf?_bind_weakKind?, if_neg hcomment', if_neg hword', weakKind?,
      weakKind?, secretKind?_export]
  · have hword : '=' ∉ "export ".toList ++ line := by simpa using hsign
    rw [weakSecret?_of_not_mem hword, weakSecret?_of_not_mem hsign]

theorem weakSecret?_letterCase {front front' : List Char} (hfront : '=' ∉ front)
    (hsame : List.Forall₂ SameLetter front front') (raw : List Char) :
    weakSecret? (front' ++ '=' :: raw) = weakSecret? (front ++ '=' :: raw) := by
  have hfront' : '=' ∉ front' := by rwa [← mem_iff_of_sameLetter (by decide) hsame]
  have hstart : List.Forall₂ SameLetter (trimStart front) (trimStart front') :=
    dropWhile_congr (fun _ _ => SameLetter.isBlank_eq) hsame
  have hcomment : (trimStart front').head? = some '#' ↔ (trimStart front).head? = some '#' := by
    generalize trimStart front = start, trimStart front' = start' at hstart
    cases hstart with
    | nil => exact Iff.rfl
    | cons hcd _ =>
      have hsign := hcd.eq_iff (m := '#') (by decide)
      rw [List.head?_cons, List.head?_cons, Option.some_inj, Option.some_inj, eq_comm, ← hsign,
        eq_comm]
  rw [weakSecret?_append hfront', weakSecret?_append hfront, keyOf?_bind_weakKind?,
    keyOf?_bind_weakKind?, weakKind?, weakKind?, secretKind?, secretKind?, uppercase_congr hsame]
  simp only [hcomment]

/-- However a line is written, it assigns the same weak secret. -/
theorem weakSecret?_rewritten {line line' : List Char} (h : Rewritten line line') :
    weakSecret? line' = weakSecret? line := by
  cases h with
  | blanks hbefore hafter =>
    rw [weakSecret?_append_of_blank hafter, weakSecret?_of_blank_append hbefore]
  | exported htrim hempty hcomment => exact weakSecret?_exported htrim hempty hcomment
  | letterCase hfront hrest hsame =>
    rcases hrest with rfl | ⟨raw, rfl⟩
    · have hfront' := (mem_iff_of_sameLetter (by decide) hsame).not.mp hfront
      rw [List.append_nil, List.append_nil, weakSecret?_of_not_mem hfront,
        weakSecret?_of_not_mem hfront']
    · exact weakSecret?_letterCase hfront hsame raw
  | quoted hkey hquote hvalue hnone =>
    rw [weakSecret?_append hkey, weakSecret?_append hkey, valueOf_quoted hquote hnone,
      hvalue.valueOf_eq]

/-! ## Contents -/

/-- A text with a carriage return in front of each line feed. -/
def withReturns (cs : List Char) : List Char :=
  cs.flatMap fun c => if c = '\n' then ['\r', '\n'] else [c]

theorem withReturns_append (cs ds : List Char) :
    withReturns (cs ++ ds) = withReturns cs ++ withReturns ds :=
  List.flatMap_append

theorem withReturns_of_not_mem {line : List Char} (h : '\n' ∉ line) : withReturns line = line := by
  induction line with
  | nil => rfl
  | cons c line ih =>
    obtain ⟨hc, hline⟩ := not_or.mp (List.mem_cons.not.mp h)
    rw [withReturns, List.flatMap_cons, if_neg (Ne.symm hc), ← withReturns, ih hline]
    rfl

theorem findingsFrom_withReturns (target : String) (first : Nat) (cs : List Char) :
    findingsFrom target first (withReturns cs) = findingsFrom target first cs := by
  induction cs using induction_lines generalizing first with
  | one line hline => rw [withReturns_of_not_mem hline]
  | more line rest hline ih =>
    have hreturn : '\n' ∉ line ++ ['\r'] := by simpa using hline
    have htext : withReturns (line ++ '\n' :: rest) =
        line ++ ['\r'] ++ '\n' :: withReturns rest := by
      rw [withReturns_append, withReturns_of_not_mem hline]
      simp [withReturns]
    rw [htext, findingsFrom_append, findingsFrom_append, findingsFrom_of_not_mem hreturn,
      findingsFrom_of_not_mem hline, lineFindings_append_return, ih, List.count_eq_zero.mpr hreturn,
      List.count_eq_zero.mpr hline]

/-- Another way of writing a line changes no finding of a content, and neither do carriage
returns at the ends of its lines. -/
theorem check_rewritten (target : String) :
    (∀ before after, AroundLine before after → ∀ line line', '\n' ∉ line → Rewritten line line' →
        check target (String.ofList (before ++ line' ++ after)) =
          check target (String.ofList (before ++ line ++ after))) ∧
      ∀ content : String,
        check target (String.ofList (withReturns content.toList)) = check target content := by
  refine ⟨fun before after haround line line' hline hsame => ?_, fun content => ?_⟩
  · obtain ⟨fs, gs, hcheck⟩ := exists_check_around target haround
    rw [hcheck line hline, hcheck line' (hsame.not_mem hline), lineFindings, lineFindings,
      weakSecret?_rewritten hsame]
  · rw [check_ofList, findingsFrom_withReturns, ← check_ofList, String.ofList_toList]

/-- A short password is found in whichever way its line is written. -/
theorem check_rewritten_password :
    let before := "PORT=80\n".toList
    let after := "\r\nA=b".toList
    let line := "Db_Password=hunter \"2".toList
    AroundLine before after ∧ '\n' ∉ line ∧
      check ".env" (String.ofList (before ++ line ++ after)) =
        [finding ".env" 2 ⟨"PASSWORD", "password", 21⟩] ∧
      ∀ line' ∈ ["\t Db_Password=hunter \"2\r".toList, "export Db_Password=hunter \"2".toList,
          "dB_pASSWORD=hunter \"2".toList, "Db_Password='hunter \"2'".toList],
        Rewritten line line' ∧
          check ".env" (String.ofList (before ++ line' ++ after)) =
            check ".env" (String.ofList (before ++ line ++ after)) := by
  intro before after line
  have haround : AroundLine before after :=
    ⟨.inr ⟨"PORT=80".toList, by decide⟩, .inr (.inr ⟨"A=b".toList, by decide⟩)⟩
  have hline : '\n' ∉ line := by decide
  have hblanks : Rewritten line ("\t ".toList ++ line ++ "\r".toList) :=
    .blanks (by decide) (by decide) (by decide)
  have hexport : Rewritten line ("export ".toList ++ line) :=
    .exported (by decide) (by decide) (by decide)
  have hletters : Rewritten ("Db_Password".toList ++ '=' :: "hunter \"2".toList)
      ("dB_pASSWORD".toList ++ '=' :: "hunter \"2".toList) :=
    .letterCase (by decide) (.inr ⟨_, rfl⟩) (by decide)
  have hquotes : Rewritten ("Db_Password".toList ++ '=' :: "hunter \"2".toList)
      ("Db_Password".toList ++ '=' :: '\'' :: ("hunter \"2".toList ++ ['\''])) :=
    .quoted (by decide) (.inr rfl) ⟨by decide, by decide, by decide, by decide⟩ (by decide)
  refine ⟨haround, hline, by decide, fun line' hline' => ?_⟩
  have hsame : Rewritten line line' := by
    simp only [List.mem_cons, List.not_mem_nil, or_false] at hline'
    rcases hline' with rfl | rfl | rfl | rfl
    · exact hblanks
    · exact hexport
    · exact hletters
    · exact hquotes
  exact ⟨hsame, (check_rewritten ".env").1 before after haround line line' hline hsame⟩

end Env
end BackendAudit
