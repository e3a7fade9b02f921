import Mathlib.Data.List.Basic
import Mathlib.Data.List.Perm.Basic

/-!
# Looking up

Entries that have different keys: looking a key up gives the only value that is there for it.

* `lookup_eq_none_iff_not_mem`: nothing is found for a key that no entry has.
* `lookup_eq_some_iff_mem`: what is found is what is there.
* `lookup_perm`: the order of the entries does not matter.
-/

namespace BackendAudit

variable {α β : Type} [BEq α] [LawfulBEq α] {entries entries' : List (α × β)} {key : α}

theorem lookup_eq_none_iff_not_mem :
    entries.lookup key = none ↔ key ∉ entries.map Prod.fst := by
  rw [List.lookup_eq_none_iff, List.mem_map]
  simp only [bne_iff_ne, ne_eq, not_exists, not_and]
  exact forall₂_congr fun _ _ => not_congr eq_comm

variable [DecidableEq α]

theorem lookup_cons (key other : α) (value : β) (entries : List (α × β)) :
    List.lookup other ((key, value) :: entries) =
      if other = key then some value else entries.lookup other := by
  rw [List.lookup_cons]
  split
  · rename_i h
    rw [if_pos (beq_iff_eq.mp h)]
  · rename_i h
    rw [if_neg (beq_eq_false_iff_ne.mp h)]

theorem lookup_eq_some_iff_mem {value : β} (h : (entries.map Prod.fst).Nodup) :
    entries.lookup key = some value ↔ (key, value) ∈ entries := by
  induction entries with
  | nil => simp
  | cons e rest ih =>
    obtain ⟨other, found⟩ := e
    obtain ⟨hother, hrest⟩ := List.nodup_cons.mp h
    by_cases hkey : key = other
    · subst hkey
      have habsent : (key, value) ∉ rest := fun hmem =>
        hother (List.mem_map.mpr ⟨_, hmem, rfl⟩)
      simp [habsent, eq_comm]
    · rw [lookup_cons, if_neg hkey]
      simp [ih hrest, hkey]

theorem lookup_perm (h : entries.Perm entries') (hkeys : (entries.map Prod.fst).Nodup)
    (key : α) : entries'.lookup key = entries.lookup key := by
  have hkeys' : (entries'.map Prod.fst).Nodup := (h.map Prod.fst).nodup_iff.mp hkeys
  refine Option.ext fun value => ?_
  rw [lookup_eq_some_iff_mem hkeys, lookup_eq_some_iff_mem hkeys', h.mem_iff]

end BackendAudit
