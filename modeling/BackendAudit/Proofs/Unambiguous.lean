import Mathlib.Data.List.Basic

/-!
# Unambiguous codes

A code writes a value as a list, and other lists stand behind it.  It is unambiguous when
the whole list determines the value and what stands behind it.  Where a value may end can
depend on what comes next, so this is asked only of what may follow the value (`follows`).

A list is written as the codes of its items, one after the other, and the code of an item
may depend on its number.  If each item may follow another, and nothing that ends the list
looks like one more item, the list is written unambiguously as well
(`Unambiguous.zipIdx_flatMap`).
-/

namespace BackendAudit

variable {α β : Type}

/-- From the code of a valid value and anything behind it that may follow, both can be told. -/
def Unambiguous (valid : α → Prop) (code : α → List β) (follows : List β → Prop) : Prop :=
  ∀ ⦃a b : α⦄ ⦃s t : List β⦄, valid a → valid b → follows s → follows t →
    code a ++ s = code b ++ t → a = b ∧ s = t

namespace Unambiguous

variable {valid : α → Prop} {follows ends : List β → Prop}

/-- A list of numbered items. -/
theorem zipIdx_flatMap {code : Nat → α → List β}
    (hcode : ∀ i, Unambiguous valid (code i) follows)
    (hnext : ∀ i a t, valid a → follows (code i a ++ t))
    (hends : ∀ t, ends t → follows t)
    (hstop : ∀ i a t, valid a → ¬ ends (code i a ++ t)) (start : Nat) :
    Unambiguous (fun l : List α => ∀ a ∈ l, valid a)
      (fun l : List α => (l.zipIdx start).flatMap fun p => code p.2 p.1) ends := by
  have hfollows (l : List α) (hl : ∀ a ∈ l, valid a) (start : Nat) (t : List β) (ht : ends t) :
      follows ((l.zipIdx start).flatMap (fun p => code p.2 p.1) ++ t) := by
    cases l with
    | nil => exact hends t ht
    | cons a l =>
      rw [List.zipIdx_cons, List.flatMap_cons, List.append_assoc]
      exact hnext start a _ (hl a List.mem_cons_self)
  intro l m
  induction l generalizing m start with
  | nil =>
    intro s t _ hm hs ht heq
    cases m with
    | nil => exact ⟨rfl, heq⟩
    | cons b m =>
      beta_reduce at heq
      rw [List.zipIdx_nil, List.flatMap_nil, List.nil_append, List.zipIdx_cons, List.flatMap_cons,
        List.append_assoc] at heq
      exact absurd (heq ▸ hs) (hstop start b _ (hm b List.mem_cons_self))
  | cons a l ih =>
    intro s t hl hm hs ht heq
    obtain ⟨ha, hl⟩ := List.forall_mem_cons.mp hl
    cases m with
    | nil =>
      beta_reduce at heq
      rw [List.zipIdx_nil, List.flatMap_nil, List.nil_append, List.zipIdx_cons, List.flatMap_cons,
        List.append_assoc] at heq
      exact absurd (heq ▸ ht) (hstop start a _ ha)
    | cons b m =>
      obtain ⟨hb, hrest⟩ := List.forall_mem_cons.mp hm
      simp only [List.zipIdx_cons, List.flatMap_cons, List.append_assoc] at heq
      obtain ⟨rfl, htail⟩ := hcode start ha hb (hfollows l hl (start + 1) s hs)
        (hfollows m hrest (start + 1) t ht) heq
      obtain ⟨rfl, rfl⟩ := ih (start + 1) (m := m) hl hrest hs ht htail
      exact ⟨rfl, rfl⟩

/-- A list of items that are written without their numbers. -/
theorem flatMap {code : α → List β} (hcode : Unambiguous valid code follows)
    (hnext : ∀ a t, valid a → follows (code a ++ t)) (hends : ∀ t, ends t → follows t)
    (hstop : ∀ a t, valid a → ¬ ends (code a ++ t)) :
    Unambiguous (fun l : List α => ∀ a ∈ l, valid a) (fun l : List α => l.flatMap code) ends := by
  have hplain (l : List α) : ((l.zipIdx 0).flatMap fun p => code p.1) = l.flatMap code := by
    rw [← List.flatMap_map (f := Prod.fst), List.zipIdx_map_fst]
  have h : Unambiguous (fun l : List α => ∀ a ∈ l, valid a)
      (fun l : List α => (l.zipIdx 0).flatMap fun p => code p.1) ends :=
    zipIdx_flatMap (fun _ => hcode) (fun _ => hnext) hends (fun _ => hstop) 0
  simpa only [hplain] using h

end Unambiguous
end BackendAudit
