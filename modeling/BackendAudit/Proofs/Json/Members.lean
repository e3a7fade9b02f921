import BackendAudit.Proofs.Json.RoundTrip
import BackendAudit.Proofs.StableSort
import Mathlib.Data.String.Basic

/-!
# Members by their names

Members that are read are sorted by name, and of those with one name only the last is kept.
For a look-up this means that the last member with the name counts, in the order of writing
(`field?_ofMembers`).
-/

namespace BackendAudit.Json

theorem member?_cons (m : String × Json) (members : List (String × Json)) (name : String) :
    member? (m :: members) name = if m.1 = name then some m.2 else member? members name := by
  rw [member?, member?, List.find?_cons]
  by_cases h : m.1 = name
  · simp [h]
  · simp [h, beq_false_of_ne h]

/-- In the order of writing backwards, a member at the front counts only for a name that no
other has. -/
theorem member?_reverse_cons (m : String × Json) (members : List (String × Json))
    (name : String) :
    member? (m :: members).reverse name =
      (member? members.reverse name).or (member? [m] name) := by
  rw [List.reverse_cons, member?, List.find?_append, member?, member?, Option.map_or]

theorem member?_eq_none {members : List (String × Json)} {name : String}
    (h : ∀ m ∈ members, m.1 ≠ name) : member? members name = none := by
  rw [member?, Option.map_eq_none_iff, List.find?_eq_none]
  simpa using h

/-- Among sorted members, the one that is kept for a name is the last. -/
theorem member?_dropOverridden {members : List (String × Json)}
    (hsorted : members.Pairwise fun a b => a.1 ≤ b.1) (name : String) :
    member? (dropOverridden members) name = member? members.reverse name := by
  fun_induction dropOverridden members with
  | case1 => rfl
  | case2 m => rfl
  | case3 m n members heq ih =>
    have heq : m.1 = n.1 := by simpa using heq
    rw [ih hsorted.of_cons, member?_reverse_cons m, member?_reverse_cons n, member?_cons m,
      member?_cons n, heq, Option.or_assoc]
    by_cases hname : n.1 = name
    · simp [hname]
    · simp [hname]
  | case4 m n members hne ih =>
    have hne : m.1 ≠ n.1 := by simpa using hne
    rw [member?_cons, ih hsorted.of_cons, member?_reverse_cons m, member?_cons m]
    by_cases hname : m.1 = name
    · -- all others have greater names
      have hnone : member? (n :: members).reverse name = none := by
        refine member?_eq_none fun k hk hkname => hne ?_
        have hle : n.1 ≤ k.1 := by
          rcases List.mem_cons.mp (List.mem_reverse.mp hk) with rfl | hk
          · exact le_refl _
          · exact (List.pairwise_cons.mp hsorted.of_cons).1 k hk
        have hmn : m.1 ≤ n.1 := (List.pairwise_cons.mp hsorted).1 n List.mem_cons_self
        exact le_antisymm hmn (by rwa [hname, ← hkname])
      rw [hnone, if_pos hname, if_pos hname]
      rfl
    · rw [if_neg hname, if_neg hname]
      exact (Option.or_none ..).symm

/-- The member of an object with a name. -/
def field? (v : Json) (name : String) : Option Json :=
  v.members?.bind (member? · name)

/-- Of the members with a name, the last one that was written is the one that is found. -/
theorem field?_ofMembers (members : List (String × Json)) (name : String) :
    (ofMembers members).field? name = member? members.reverse name := by
  let le (a b : String × Json) : Bool := a.1 ≤ b.1
  have htrans (a b c) (hab : le a b = true) (hbc : le b c = true) : le a c = true := by
    simp only [le, decide_eq_true_eq] at *
    exact le_trans hab hbc
  have htotal (a b) : (le a b || le b a) = true := by
    simp only [le, Bool.or_eq_true, decide_eq_true_eq]
    exact le_total a.1 b.1
  have hfilter := filter_mergeSort (p := fun m => m.1 == name) htrans htotal
    (fun a b ha hb => by simp_all [le]) members
  have hsorted := List.pairwise_mergeSort htrans htotal members
  simp only [le, decide_eq_true_eq] at hsorted
  rw [field?, ofMembers, members?, Option.bind_some, member?_dropOverridden hsorted, member?,
    member?, ← List.head?_filter, ← List.head?_filter, List.filter_reverse, List.filter_reverse,
    hfilter]

/-! ## Members that were written -/

theorem member?_map_settled (members : List (String × Json)) (name : String) :
    member? (members.map fun m => (m.1, m.2.settled)) name =
      (member? members name).map settled := by
  induction members with
  | nil => rfl
  | cons m members ih =>
    rw [List.map_cons, member?_cons, member?_cons, ih]
    split <;> rfl

/-- A field of an object that was written and read is what was written there last. -/
theorem field?_settled (members : List (String × Json)) (name : String) :
    (settled (.object members)).field? name = (member? members.reverse name).map settled := by
  rw [settled, field?_ofMembers, ← List.map_reverse, member?_map_settled]

end BackendAudit.Json
