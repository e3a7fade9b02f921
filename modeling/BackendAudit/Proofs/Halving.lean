import BackendAudit.Unicode.Table

/-!
# Search by halving

`countLeading` looks at a logarithmic number of elements.  When those that satisfy
the test come first, its answer is the number of all that satisfy it
(`countLeading_toArray`), and the element at that place is the first that fails the
test (`getElem?_countLeading`).
-/

namespace BackendAudit

variable {α : Type} {p : α → Bool}

/-- No element that fails a test comes before one that satisfies it. -/
def LeadingFirst (p : α → Bool) (l : List α) : Prop :=
  l.Pairwise fun x y => p y = true → p x = true

/-- The invariant of the search: everything before `lo` satisfies the test, and
nothing from `hi` on does.  Each step keeps the boundary `n` between the two, and the
fuel bounds what is left. -/
theorem countLeading_go_eq {a : Array α} {n : Nat}
    (hbound : ∀ i (hi : i < a.size), p a[i] = true ↔ i < n) :
    ∀ (fuel lo hi : Nat), lo ≤ n → n ≤ hi → hi ≤ a.size → hi - lo ≤ fuel →
      countLeading.go a p fuel lo hi = n := by
  intro fuel
  induction fuel with
  | zero =>
    intro lo hi hlo hhi _ hfuel
    rw [countLeading.go]
    omega
  | succ fuel ih =>
    intro lo hi hlo hhi hsize hfuel
    rw [countLeading.go]
    by_cases hlt : lo < hi
    · have hmid : (lo + hi) / 2 < a.size := by omega
      rw [if_pos hlt]
      simp only [Array.getElem?_eq_getElem hmid]
      split
      · rename_i hp
        have hn : (lo + hi) / 2 < n := (hbound _ hmid).mp hp
        exact ih _ _ (by omega) hhi hsize (by omega)
      · rename_i hp
        have hn : ¬(lo + hi) / 2 < n := fun h => hp ((hbound _ hmid).mpr h)
        exact ih _ _ hlo (by omega) (by omega) (by omega)
    · rw [if_neg hlt]
      omega

/-- Behind an element that fails the test nothing satisfies it. -/
theorem LeadingFirst.countP_eq_zero {x : α} {xs : List α} (h : LeadingFirst p (x :: xs))
    (hx : ¬p x = true) : xs.countP p = 0 :=
  List.countP_eq_zero.mpr fun _ hy hpy => hx (List.rel_of_pairwise_cons h hy hpy)

/-- In a list with the satisfying elements first, an element satisfies the test
exactly when its place is below the number of those that do. -/
theorem LeadingFirst.getElem_iff {l : List α} (h : LeadingFirst p l) {i : Nat}
    (hi : i < l.length) : p l[i] = true ↔ i < l.countP p := by
  induction l generalizing i with
  | nil => simp at hi
  | cons x xs ih =>
    have hxs : LeadingFirst p xs := List.Pairwise.of_cons h
    by_cases hpx : p x = true
    · cases i with
      | zero => simp [hpx]
      | succ i =>
        rw [List.countP_cons_of_pos hpx, List.getElem_cons_succ, ih hxs]
        omega
    · have hnone : xs.countP p = 0 := h.countP_eq_zero hpx
      cases i with
      | zero => simp [hpx, hnone]
      | succ i =>
        rw [List.countP_cons_of_neg hpx, List.getElem_cons_succ, ih hxs, hnone]
        omega

/-- The answer of the search is the number of the elements that satisfy the test. -/
theorem countLeading_toArray {l : List α} (h : LeadingFirst p l) :
    countLeading l.toArray p = l.countP p := by
  have hle : l.countP p ≤ l.length := List.countP_le_length
  refine countLeading_go_eq (fun i hi => ?_) _ 0 _ (Nat.zero_le _) ?_ (Nat.le_refl _) (by omega)
  · simpa using h.getElem_iff (by simpa using hi)
  · simpa using hle

/-- The first element that fails the test stands behind those that satisfy it. -/
theorem LeadingFirst.getElem?_countP {l : List α} (h : LeadingFirst p l) :
    l[l.countP p]? = l.find? fun x => !p x := by
  induction l with
  | nil => rfl
  | cons x xs ih =>
    have hxs : LeadingFirst p xs := List.Pairwise.of_cons h
    by_cases hpx : p x = true
    · rw [List.countP_cons_of_pos hpx, List.getElem?_cons_succ, ih hxs]
      simp [hpx]
    · rw [List.countP_cons_of_neg hpx, h.countP_eq_zero hpx]
      simp [hpx]

/-- What the search leads to is the first element that fails the test. -/
theorem getElem?_countLeading {l : List α} (h : LeadingFirst p l) :
    l.toArray[countLeading l.toArray p]? = l.find? fun x => !p x := by
  rw [countLeading_toArray h, List.getElem?_toArray, h.getElem?_countP]

end BackendAudit
