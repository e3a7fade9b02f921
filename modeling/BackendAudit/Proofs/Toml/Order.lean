import BackendAudit.Proofs.Toml.Keys
import Mathlib.Logic.Relation

/-!
# The order of keys

Two values that differ only in the order of the keys of their tables (`Value.SameButOrder`).

* `Value.Reordered.distinct`: no table has a key twice then, if none had.
* `Value.Reordered.lookup`: what a key has in the reordered table.
-/

namespace BackendAudit.Toml

open List (Perm)

/-- One table in a value has its keys in another order. -/
inductive Value.Reordered : Value → Value → Prop
  | here {style : TableStyle} {entries entries' : List (String × Value)}
    (h : entries.Perm entries') : Reordered (.table style entries) (.table style entries')
  | entry {style : TableStyle} {key : String} {v v' : Value} (h : Reordered v v')
    (before after : List (String × Value)) :
    Reordered (.table style (before ++ (key, v) :: after))
      (.table style (before ++ (key, v') :: after))
  | item {v v' : Value} (h : Reordered v v') (before after : List Value) :
    Reordered (.array (before ++ v :: after)) (.array (before ++ v' :: after))
  | headed {t t' : List (String × Value)} (h : Reordered (.table .named t) (.table .named t'))
    (before after : List (List (String × Value))) :
    Reordered (.tables (before ++ t :: after)) (.tables (before ++ t' :: after))

/-- Any number of tables in a value have their keys in another order. -/
def Value.SameButOrder : Value → Value → Prop := Relation.ReflTransGen Value.Reordered

/-- Values under one key: the same, or one with a table in another order. -/
inductive Value.Follows : Option Value → Option Value → Prop
  | same (x : Option Value) : Follows x x
  | reordered {v v' : Value} (hv : v.Distinct) (h : v.Reordered v') : Follows (some v) (some v')

/-! ## Reordered values are distinct -/

namespace Entries

theorem lookup_middle (before after : Entries) (key other : String) (value : Value) :
    List.lookup other (before ++ (key, value) :: after) =
      (before.lookup other).or (if other = key then some value else after.lookup other) := by
  rw [List.lookup_append, lookup_cons]

end Entries

/-- What holds of all items of a list holds of them after one has changed. -/
theorem forall_mem_middle {α : Type} {P : α → Prop} {before after : List α} {a b : α}
    (hb : P a → P b) (h : ∀ x ∈ before ++ a :: after, P x) :
    ∀ x ∈ before ++ b :: after, P x := by
  intro x hx
  rcases List.mem_append.mp hx with hx | hx
  · exact h x (List.mem_append_left _ hx)
  · rcases List.mem_cons.mp hx with rfl | hx
    · exact hb (h a (by simp))
    · exact h x (List.mem_append_right _ (List.mem_cons_of_mem _ hx))

namespace Value

variable {v v' : Value}

theorem Reordered.distinct (h : v.Reordered v') (hv : v.Distinct) : v'.Distinct := by
  induction h with
  | here h =>
    cases hv with
    | table keys values =>
      exact .table ((h.map Prod.fst).nodup_iff.mp keys) fun e he => values e (h.mem_iff.mpr he)
  | entry _ before after ih =>
    cases hv with
    | table keys values =>
      refine .table (by simpa using keys) ?_
      exact forall_mem_middle (P := fun e : String × Value => e.2.Distinct) ih values
  | item _ before after ih =>
    cases hv with
    | array hitems => exact .array (forall_mem_middle ih hitems)
  | headed _ before after ih =>
    cases hv with
    | tables hitems => exact .tables (forall_mem_middle ih hitems)

theorem SameButOrder.distinct (h : v.SameButOrder v') (hv : v.Distinct) : v'.Distinct := by
  induction h with
  | refl => exact hv
  | tail _ hstep ih => exact hstep.distinct ih

/-- What a key has in a table, and in the table reordered. -/
theorem Reordered.lookup {style style' : TableStyle} {entries entries' : Entries}
    (h : Reordered (.table style entries) (.table style' entries')) (hd : entries.Distinct)
    (key : String) : Follows (entries.lookup key) (entries'.lookup key) := by
  cases h with
  | here h =>
    rw [lookup_perm h hd.keys]
    exact .same _
  | @entry _ other v v' h before after =>
    rw [Entries.lookup_middle, Entries.lookup_middle]
    cases before.lookup key with
    | some w => exact .same _
    | none =>
      simp only [Option.none_or]
      split
      · exact .reordered (hd.values (other, v) (by simp)) h
      · exact .same _

end Value
end BackendAudit.Toml
