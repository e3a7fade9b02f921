import BackendAudit.Proofs.Audit.LineByLine

/-!
# Comments behind values

Behind a value that is not in quotes, a blank and a number sign begin a comment.  The value is
trimmed before the comment is looked for, so that the blank in front of the number sign is still
there only if the value is not empty (`valueOf_append_comment`).  Behind an empty value, the
comment itself is taken for the value (`valueOf_blank_append_comment`).

`Env.check_append_comment_iff` says when a comment behind a value changes the findings: if the
value is empty and the comment is shorter than a secret of the key should be.
-/

namespace BackendAudit

namespace Env

open Text

/-! ## Values -/

/-- A value that does not begin with a quote. -/
def Unquoted (raw : List Char) : Prop :=
  (trim raw).head? ≠ some '"' ∧ (trim raw).head? ≠ some '\''

instance (raw : List Char) : Decidable (Unquoted raw) :=
  inferInstanceAs (Decidable (_ ∧ _))

theorem Unquoted.of_cons {raw rest : List Char} {c : Char} (h : Unquoted raw)
    (htrim : trim raw = c :: rest) : c ≠ '"' ∧ c ≠ '\'' := by
  rw [Unquoted, htrim] at h
  simpa using h

/-- A value without quotes is what is written up to a comment. -/
theorem valueOf_of_cons {raw rest : List Char} {c : Char} (htrim : trim raw = c :: rest)
    (hquote : c ≠ '"' ∧ c ≠ '\'') :
    valueOf raw = ((splitOnce " #".toList (c :: rest)).map fun sides => trimEnd sides.1).getD
      (c :: rest) := by
  rw [valueOf, htrim]
  dsimp only
  rw [if_neg (not_or.mpr hquote)]
  cases splitOnce " #".toList (c :: rest) <;> rfl

section Comment

variable {raw : List Char}

/-- Without a number sign there is no comment. -/
theorem valueOf_of_not_mem (hunquoted : Unquoted raw) (hsign : '#' ∉ raw) :
    valueOf raw = trim raw := by
  cases htrim : trim raw with
  | nil => rw [valueOf, htrim]
  | cons c rest =>
    have hnone : '#' ∉ c :: rest := fun hmem => hsign ((trim_sublist raw).subset (htrim ▸ hmem))
    rw [valueOf_of_cons htrim (hunquoted.of_cons htrim), splitOnce_eq_none (by decide) hnone]
    rfl

/-- A comment behind a value is cut off. -/
theorem valueOf_append_comment (hunquoted : Unquoted raw) (hsign : '#' ∉ raw)
    (hraw : trim raw ≠ []) (comment : List Char) :
    valueOf (raw ++ ' ' :: '#' :: comment) = trim raw := by
  rcases blank_or_exists raw with hblank | ⟨blanks, c, rest, rfl, hblanks, hc⟩
  · exact absurd (trim_eq_nil_iff.mpr hblank) hraw
  · have hstart : trimStart blanks = [] := trimStart_of_blank hblanks
    have hvalue : trim (blanks ++ c :: rest) = c :: trimEnd rest := by
      rw [trim_append_cons hc, hstart, List.nil_append]
    have hwhole : trim (blanks ++ c :: rest ++ ' ' :: '#' :: comment) =
        c :: (rest ++ ' ' :: '#' :: trimEnd comment) := by
      have htext : blanks ++ c :: rest ++ ' ' :: '#' :: comment =
          blanks ++ c :: ((rest ++ [' ']) ++ '#' :: comment) := by simp
      rw [htext, trim_append_cons hc, hstart, trimEnd_append_cons (by decide)]
      simp
    have hsplit : splitOnce " #".toList (c :: (rest ++ ' ' :: '#' :: trimEnd comment)) =
        some (c :: rest, trimEnd comment) := by
      have hnone : '#' ∉ c :: rest := fun hmem => hsign (List.mem_append_right _ hmem)
      have hfound := @splitOnce_append [' '] '#' (by decide) _ hnone (trimEnd comment)
      simpa using hfound
    rw [valueOf_of_cons hwhole (hunquoted.of_cons hvalue), hsplit, hvalue]
    exact trimEnd_append_cons hc [] rest

/-- Behind blanks only, the comment is the value. -/
theorem valueOf_blank_append_comment (hraw : trim raw = []) (comment : List Char) :
    valueOf (raw ++ ' ' :: '#' :: comment) = valueOf ('#' :: comment) := by
  have hblank : Blank (raw ++ [' ']) :=
    List.forall_mem_append.mpr ⟨trim_eq_nil_iff.mp hraw, List.forall_mem_singleton.mpr (by decide)⟩
  have htext : raw ++ ' ' :: '#' :: comment = (raw ++ [' ']) ++ '#' :: comment := by simp
  have htrim : trim (raw ++ ' ' :: '#' :: comment) = trim ('#' :: comment) := by
    rw [htext, trim, trim, trimStart_append_of_blank hblank]
  rw [valueOf, valueOf, htrim]

/-- A comment that is taken for a value is not empty. -/
theorem valueOf_comment_ne_nil (comment : List Char) : valueOf ('#' :: comment) ≠ [] := by
  have htrim : trim ('#' :: comment) = '#' :: trimEnd comment :=
    trim_append_cons (by decide) [] comment
  rw [valueOf_of_cons htrim (by decide), splitOnce_cons, if_neg (by simp)]
  cases splitOnce " #".toList (trimEnd comment) with
  | none => exact List.cons_ne_nil _ _
  | some sides =>
    have hkept : trimEnd ('#' :: sides.1) = '#' :: trimEnd sides.1 :=
      trimEnd_append_cons (by decide) [] sides.1
    exact hkept.trans_ne (List.cons_ne_nil _ _)

end Comment

/-! ## Contents -/

/-- A comment behind an unquoted value without number signs leaves the findings as they are,
unless the value is empty and the key is one of a secret.  The number sign and what follows it are
then the value, up to another blank and number sign, and give a finding if they are too short. -/
theorem check_append_comment_iff (target : String) {before after : List Char}
    (haround : AroundLine before after) {front raw key value : List Char} (hfront : '=' ∉ front)
    (hassigns : assignment? (front ++ '=' :: raw) = some (key, value)) (hunquoted : Unquoted raw)
    (hsign : '#' ∉ front ++ '=' :: raw) (hline : '\n' ∉ front ++ '=' :: raw)
    {comment : List Char} (hcomment : '\n' ∉ comment) :
    check target
        (String.ofList (before ++ (front ++ '=' :: raw ++ ' ' :: '#' :: comment) ++ after)) =
      check target (String.ofList (before ++ (front ++ '=' :: raw) ++ after)) ↔
    (value = [] → ∀ kind, secretKind? key = some kind →
      kind.minLength ≤ (valueOf ('#' :: comment)).length) := by
  have hlonger : '\n' ∉ front ++ '=' :: raw ++ ' ' :: '#' :: comment := by
    simp only [List.mem_append, List.mem_cons, not_or] at hline ⊢
    exact ⟨hline, by decide, by decide, hcomment⟩
  have hraw : '#' ∉ raw := fun hmem => hsign (by simp [hmem])
  rw [assignment?_append hfront, Option.map_eq_some_iff] at hassigns
  obtain ⟨k, hkey, hpair⟩ := hassigns
  obtain ⟨rfl, rfl⟩ := Prod.mk.inj hpair
  have hweak : ∀ v, weakSecret? (front ++ '=' :: v) = weakKind? (valueOf v).length k := by
    intro v
    rw [weakSecret?_append hfront, hkey, Option.bind_some]
  have hvalue : valueOf raw = trim raw := valueOf_of_not_mem hunquoted hraw
  obtain ⟨fs, gs, hcheck⟩ := exists_check_around target haround
  rw [hcheck _ hlonger, hcheck _ hline, List.append_left_inj, List.append_right_inj,
    List.append_assoc, List.cons_append]
  by_cases hempty : trim raw = []
  · -- the shorter line gives no finding
    have hnone : weakSecret? (front ++ '=' :: raw) = none := by
      rw [hweak, hvalue, hempty]
      exact weakKind?_eq_none_iff.mpr fun _ _ => .inl rfl
    have hlength : (valueOf ('#' :: comment)).length ≠ 0 :=
      fun hlength => valueOf_comment_ne_nil comment (List.eq_nil_of_length_eq_zero hlength)
    rw [lineFindings_eq_nil_iff.mpr hnone, lineFindings_eq_nil_iff, hweak,
      valueOf_blank_append_comment hempty, weakKind?_eq_none_iff, hvalue]
    simp only [hempty, hlength, false_or, true_imp_iff]
  · rw [lineFindings, lineFindings, hweak, hweak, valueOf_append_comment hunquoted hraw hempty,
      hvalue]
    simp only [hempty, false_imp_iff]

/-- A comment behind a short password changes nothing. -/
theorem check_append_comment_password :
    '#' ∉ "DB_PASSWORD= hunter2 ".toList ∧
      check ".env" "PORT=80\nDB_PASSWORD= hunter2  # rotate # me\r\nA=b" =
        check ".env" "PORT=80\nDB_PASSWORD= hunter2 \r\nA=b" := by
  have haround : AroundLine "PORT=80\n".toList "\r\nA=b".toList :=
    ⟨.inr ⟨"PORT=80".toList, by decide⟩, .inr (.inr ⟨"A=b".toList, by decide⟩)⟩
  have hassigns : assignment? ("DB_PASSWORD".toList ++ '=' :: " hunter2 ".toList) =
      some ("DB_PASSWORD".toList, "hunter2".toList) := by decide
  have hcomment : '\n' ∉ " rotate # me".toList := by decide
  exact ⟨by decide, (check_append_comment_iff ".env" haround (by decide) hassigns (by decide)
    (by decide) (by decide) hcomment).mpr (by decide)⟩

/-- A comment behind no password is taken for a short one. -/
theorem comment_taken_for_password :
    assignment? "PASSWORD=".toList = some ("PASSWORD".toList, []) ∧
      check ".env" "PASSWORD=" = [] ∧
      check ".env" "PASSWORD= # unset" = [finding ".env" 1 ⟨"PASSWORD", "password", 21⟩] := by
  decide

end Env
end BackendAudit
