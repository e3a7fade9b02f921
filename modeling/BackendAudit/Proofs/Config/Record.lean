import BackendAudit.Config.Shape
import BackendAudit.Proofs.Rule.Registry
import BackendAudit.Proofs.Toml.Order

/-!
# Records by their keys

A record is read entry by entry, in the order of the document.  As its fields do not disturb
each other (`Independent`), each can be looked up by itself.

* `takeAll`: a record put together in the order of its fields.
* `readRecord_eq_ok_iff`: that is what reading gives, for a table, a list and a date.
* `takeAll_of_cons`: the first field by itself, which has the value given, or its default.
* `readRecord_knownKeys`: keys that are none of the fields are passed over.
-/

namespace BackendAudit.Config

open BackendAudit.Toml (Value Entries TableStyle)

variable {α β : Type}

theorem toOption_eq_some_iff {ε : Type} {x : Except ε α} {a : α} :
    x.toOption = some a ↔ x = .ok a := by
  cases x <;> simp [Except.toOption]

theorem toOption_bind {ε : Type} (x : Except ε α) (f : α → Except ε β) :
    (x >>= f).toOption = x.toOption.bind fun a => (f a).toOption := by
  cases x <;> rfl

/-! ## Fields -/

/-- The record with the value of a field in it, if it has one and that can be read. -/
def Field.take (f : Field α) : Option Value → α → Option α
  | none, r => some r
  | some value, r => (f.set value r).toOption

/-- Two fields whose values may be taken in one order or the other. -/
def Field.Commutes (f g : Field α) : Prop :=
  ∀ v w r, (f.take v r).bind (g.take w) = (g.take w r).bind (f.take v)

theorem Field.take_none (f : Field α) : f.take none = some := by
  funext r
  rfl

theorem Field.take_of (key : String) (read : Value → Except ShapeFault β) (put : α → β → α)
    (value : Value) (r : α) :
    (Field.of key read put).take (some value) r = (read value).toOption.map (put r) := by
  simp only [Field.take, Field.of]
  cases read value <;> rfl

/-- Fields commute if what they put into a record does. -/
theorem Field.commutes_of {γ : Type} {key₁ key₂ : String} {read₁ : Value → Except ShapeFault β}
    {read₂ : Value → Except ShapeFault γ} {put₁ : α → β → α} {put₂ : α → γ → α}
    (h : ∀ r x y, put₂ (put₁ r x) y = put₁ (put₂ r y) x) :
    (Field.of key₁ read₁ put₁).Commutes (Field.of key₂ read₂ put₂) := by
  intro v w r
  cases v with
  | none => simp [Field.take_none]
  | some v =>
    cases w with
    | none => simp [Field.take_none]
    | some w =>
      simp only [Field.take_of, Option.bind_map, Function.comp_def]
      cases (read₁ v).toOption <;> cases (read₂ w).toOption <;> simp [h]

/-- Fields that do not disturb each other. -/
structure Independent (fields : List (Field α)) : Prop where
  keys : (fields.map Field.key).Nodup
  commute : fields.Pairwise Field.Commutes

theorem Independent.tail {f : Field α} {fields : List (Field α)}
    (h : Independent (f :: fields)) : Independent fields :=
  ⟨(List.nodup_cons.mp h.keys).2, (List.pairwise_cons.mp h.commute).2⟩

theorem Independent.ne_head {f g : Field α} {fields : List (Field α)}
    (h : Independent (f :: fields)) (hg : g ∈ fields) : g.key ≠ f.key := by
  intro hkey
  exact (List.nodup_cons.mp h.keys).1 (hkey ▸ List.mem_map_of_mem hg)

/-! ## Field by field -/

/-- The record with the values of all fields in it, in the order of the fields. -/
def takeAll (given : String → Option Value) : List (Field α) → α → Option α
  | [], r => some r
  | f :: fields, r => (f.take (given f.key) r).bind (takeAll given fields)

section TakeAll

variable {given given' : String → Option Value} {fields : List (Field α)}

theorem takeAll_congr (h : ∀ f ∈ fields, given f.key = given' f.key) :
    takeAll given fields = takeAll given' fields := by
  induction fields with
  | nil => rfl
  | cons f fields ih =>
    obtain ⟨hf, hfields⟩ := List.forall_mem_cons.mp h
    funext r
    rw [takeAll, takeAll, hf, ih hfields]

theorem takeAll_of_none (h : ∀ f ∈ fields, given f.key = none) (r : α) :
    takeAll given fields r = some r := by
  induction fields with
  | nil => rfl
  | cons f fields ih =>
    obtain ⟨hf, hfields⟩ := List.forall_mem_cons.mp h
    rw [takeAll, hf]
    exact ih hfields

/-- One value more can be taken in before the others. -/
theorem takeAll_of_more {f : Field α} {value : Value} (hfields : Independent fields)
    (hf : f ∈ fields) (hfree : given f.key = none) (hvalue : given' f.key = some value)
    (hothers : ∀ key, key ≠ f.key → given' key = given key) (r : α) :
    takeAll given' fields r = (f.take (some value) r).bind (takeAll given fields) := by
  induction fields generalizing r with
  | nil => cases hf
  | cons g fields ih =>
    rcases List.mem_cons.mp hf with rfl | hmem
    · have hrest : takeAll given' fields = takeAll given (f :: fields) := by
        funext r
        rw [takeAll, hfree]
        exact congrFun (takeAll_congr fun g hg => hothers g.key (hfields.ne_head hg)) r
      rw [takeAll, hvalue, hrest]
    · -- the value of `f` is taken in behind that of `g`, and may as well be in front of it
      have hne : g.key ≠ f.key := (hfields.ne_head hmem).symm
      have hcommutes : g.Commutes f := (List.pairwise_cons.mp hfields.commute).1 f hmem
      rw [takeAll, hothers g.key hne]
      calc (g.take (given g.key) r).bind (takeAll given' fields)
          = (g.take (given g.key) r).bind fun r =>
              (f.take (some value) r).bind (takeAll given fields) := by
            exact Option.bind_congr fun r _ => ih hfields.tail hmem r
        _ = ((f.take (some value) r).bind (g.take (given g.key))).bind (takeAll given fields) := by
            rw [← hcommutes, Option.bind_assoc]
        _ = (f.take (some value) r).bind (takeAll given (g :: fields)) := by
            rw [Option.bind_assoc]
            rfl

end TakeAll

/-- The entries of a table may be read in the order of the fields. -/
theorem readEntries_toOption {fields : List (Field α)} {entries : Entries}
    (hfields : Independent fields) (hkeys : (entries.map Prod.fst).Nodup) (r : α) :
    (readEntries fields r entries).toOption = takeAll (fun key => entries.lookup key) fields r := by
  induction entries generalizing r with
  | nil => exact (takeAll_of_none (fun _ _ => rfl) r).symm
  | cons e rest ih =>
    obtain ⟨key, value⟩ := e
    obtain ⟨hfree, hrest⟩ := List.nodup_cons.mp hkeys
    have hothers : ∀ other, other ≠ key →
        List.lookup other ((key, value) :: rest) = rest.lookup other := fun other hne => by
      rw [lookup_cons, if_neg hne]
    have hread : (readEntries fields r ((key, value) :: rest)).toOption =
        (setKey fields r (key, value)).toOption.bind
          (takeAll (fun key => rest.lookup key) fields) := by
      rw [readEntries, List.foldlM_cons, toOption_bind]
      exact Option.bind_congr fun r _ => ih hrest r
    rw [hread, setKey]
    split
    · rename_i f hfind
      obtain rfl : f.key = key := by simpa using List.find?_some hfind
      refine (takeAll_of_more hfields (List.mem_of_find?_eq_some hfind) ?_ ?_ hothers r).symm
      · exact lookup_eq_none_iff_not_mem.mpr hfree
      · exact List.lookup_cons_self
    · rename_i hfind
      refine congrFun (takeAll_congr fun f hf => (hothers f.key ?_).symm) r
      simpa using List.find?_eq_none.mp hfind f hf

/-- The values of a list are those of the fields in the same places. -/
theorem readFields_toOption {fields : List (Field α)} (hkeys : (fields.map Field.key).Nodup)
    (items : List Value) (r : α) :
    (readFields fields r items).toOption =
      takeAll (fun key => items[(fields.map Field.key).idxOf key]?) fields r := by
  induction fields generalizing items r with
  | nil => rfl
  | cons f fields ih =>
    obtain ⟨hnot, hrest⟩ := List.nodup_cons.mp hkeys
    cases items with
    | nil => exact (takeAll_of_none (fun _ _ => rfl) r).symm
    | cons value items =>
      rw [readFields, List.zip_cons_cons, List.foldlM_cons, toOption_bind, takeAll]
      have hplaces : takeAll (fun key => items[(fields.map Field.key).idxOf key]?) fields =
          takeAll (fun key => (value :: items)[((f :: fields).map Field.key).idxOf key]?)
            fields := by
        refine takeAll_congr fun g hg => ?_
        have hne : f.key ≠ g.key := fun h => hnot (h ▸ List.mem_map_of_mem hg)
        rw [List.map_cons, List.idxOf_cons_ne _ hne, List.getElem?_cons_succ]
      rw [List.map_cons, List.idxOf_cons_self, List.getElem?_cons_zero, ← List.map_cons,
        ← hplaces]
      exact Option.bind_congr fun r _ => ih hrest items r

/-! ## Values that hold a record -/

/-- What a value holds for the keys of a record: a table has it behind the key, a list in the
place that the key has in the record, and a date has nothing. -/
inductive Holds (keys : List String) : Value → (String → Option Value) → Prop
  | table (style : TableStyle) (entries : Entries) :
    Holds keys (.table style entries) fun key => entries.lookup key
  | moment : Holds keys .moment fun _ => none
  | list {value : Value} {items : List Value} (h : items? value = some items) :
    Holds keys value fun key => items[keys.idxOf key]?

section ReadRecord

variable {name : String} {fields : List (Field α)} {value : Value} {r r' : α}

theorem exists_holds_of_readRecord (h : readRecord name fields r value = .ok r') :
    ∃ given, Holds (fields.map Field.key) value given := by
  unfold readRecord at h
  split at h
  · exact ⟨_, .table _ _⟩
  · exact ⟨_, .moment⟩
  · split at h
    · rename_i items hitems
      exact ⟨_, .list hitems⟩
    · cases h

theorem Holds.readRecord_toOption {given : String → Option Value}
    (h : Holds (fields.map Field.key) value given) (hfields : Independent fields)
    (hvalue : value.Distinct) :
    (readRecord name fields r value).toOption = takeAll given fields r := by
  cases h with
  | table style entries =>
    exact readEntries_toOption hfields (Toml.Entries.distinct_table_iff.mp hvalue).keys r
  | moment => exact (takeAll_of_none (fun _ _ => rfl) r).symm
  | @list _ items hitems =>
    cases value with
    | array _ =>
      cases hitems
      exact readFields_toOption hfields.keys items r
    | tables _ =>
      cases hitems
      exact readFields_toOption hfields.keys _ r
    | _ => cases hitems

/-- A record is read field by field. -/
theorem readRecord_eq_ok_iff (hfields : Independent fields) (hvalue : value.Distinct) :
    readRecord name fields r value = .ok r' ↔
      ∃ given, Holds (fields.map Field.key) value given ∧ takeAll given fields r = some r' := by
  constructor
  · intro h
    obtain ⟨given, hholds⟩ := exists_holds_of_readRecord h
    exact ⟨given, hholds,
      hholds.readRecord_toOption hfields hvalue ▸ toOption_eq_some_iff.mpr h⟩
  · rintro ⟨given, hholds, h⟩
    rw [← toOption_eq_some_iff, hholds.readRecord_toOption hfields hvalue, h]

end ReadRecord

/-! ## Keys without a field -/

section Known

variable {fields : List (Field α)}

/-- A table without the keys that are none of these. -/
def knownKeys (keys : List String) : Value → Value
  | .table style entries => .table style (entries.filter fun e => e.1 ∈ keys)
  | value => value

theorem readEntries_filter (entries : Entries) (r : α) :
    readEntries fields r (entries.filter fun e => e.1 ∈ fields.map Field.key) =
      readEntries fields r entries := by
  induction entries generalizing r with
  | nil => rfl
  | cons e rest ih =>
    have hcons : readEntries fields r (e :: rest) =
        (setKey fields r e) >>= fun r => readEntries fields r rest := by
      rw [readEntries, List.foldlM_cons]
      rfl
    rw [hcons, List.filter_cons]
    split
    · rw [readEntries, List.foldlM_cons]
      exact bind_congr fun r => ih r
    · rename_i hkey
      have hnone : fields.find? (fun f => f.key == e.1) = none := by
        refine List.find?_eq_none.mpr fun f hf hfound => hkey ?_
        rw [decide_eq_true_eq, ← beq_iff_eq.mp hfound]
        exact List.mem_map_of_mem hf
      rw [ih, setKey, hnone]
      rfl

/-- Keys that are none of the fields are passed over. -/
theorem readRecord_knownKeys (name : String) (value : Value) (r : α) :
    readRecord name fields r (knownKeys (fields.map Field.key) value) =
      readRecord name fields r value := by
  cases value with
  | table style entries => exact readEntries_filter entries r
  | _ => rfl

/-- Values that the fields take for the same may stand for each other. -/
theorem readEntries_map {change : String → Value → Value}
    (h : ∀ f ∈ fields, ∀ value r, f.set (change f.key value) r = f.set value r)
    (entries : Entries) (r : α) :
    readEntries fields r (entries.map fun e => (e.1, change e.1 e.2)) =
      readEntries fields r entries := by
  rw [readEntries, List.foldlM_map]
  congr 1
  funext r e
  simp only [setKey]
  split
  · rename_i f hfind
    have hkey : f.key = e.1 := by simpa using List.find?_some hfind
    rw [← hkey]
    exact h f (List.mem_of_find?_eq_some hfind) e.2 r
  · rfl

end Known

/-! ## Settings -/

/-- What a setting is: its value, if one is given, and else its default. -/
def Settles (read : Value → Except ShapeFault β) (standard : β) (given : Option Value) (x : β) :
    Prop :=
  match given with
  | none => x = standard
  | some value => read value = .ok x

/-- The first field is settled by itself, and the record put together of the others. -/
theorem takeAll_of_cons {key : String} {read : Value → Except ShapeFault β} {put : α → β → α}
    {given : String → Option Value} {fields : List (Field α)} {r r' : α} {standard : β}
    (hput : put r standard = r) :
    takeAll given (Field.of key read put :: fields) r = some r' ↔
      ∃ x, Settles read standard (given key) x ∧ takeAll given fields (put r x) = some r' := by
  rw [takeAll]
  change ((Field.of key read put).take (given key) r).bind (takeAll given fields) = some r' ↔ _
  cases given key with
  | none => simp [Field.take_none, Settles, hput]
  | some value => cases hread : read value <;> simp [Field.take_of, Settles, hread, Except.toOption]

end BackendAudit.Config
