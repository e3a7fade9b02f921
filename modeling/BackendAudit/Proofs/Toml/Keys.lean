import BackendAudit.Proofs.Lookup
import BackendAudit.Toml.Parser

/-!
# Keys of a document

No table of a document has a key twice (`parse?_distinct`), so looking a key up gives the only
value that the document has for it.

* `Entries.Distinct.update`: changing the table at the end of a path.  What is known of that
  table is what `Entries.get?` finds behind the path.
* `Draft.Distinct.step`: one statement more.  While a table is open, its place in the document
  is vacant.
* `readValue_distinct`: values, by the number of calls.
-/

namespace BackendAudit.Toml

/-- What each step keeps is kept by all steps, if they succeed. -/
theorem foldlM_keeps {α β : Type} {f : β → α → Option β} {P : β → Prop} {items : List α}
    (hstep : ∀ b item b', item ∈ items → P b → f b item = some b' → P b') {b b' : β} (hb : P b)
    (h : items.foldlM f b = some b') : P b' := by
  induction items generalizing b with
  | nil =>
    cases h
    exact hb
  | cons item rest ih =>
    obtain ⟨next, hnext, hrest⟩ := Option.bind_eq_some_iff.mp h
    exact ih (fun b item b' hitem => hstep b item b' (List.mem_cons_of_mem _ hitem))
      (hstep b item next List.mem_cons_self hb hnext) hrest

/-! ## Values and tables -/

/-- No table in a value has a key twice. -/
inductive Value.Distinct : Value → Prop
  | string (s : String) : Distinct (.string s)
  | integer (n : Int) : Distinct (.integer n)
  | float (x : Real) : Distinct (.float x)
  | boolean (b : Bool) : Distinct (.boolean b)
  | moment : Distinct .moment
  | array {items : List Value} (h : ∀ item ∈ items, Distinct item) : Distinct (.array items)
  | tables {items : List (List (String × Value))}
    (h : ∀ entries ∈ items, Distinct (.table .named entries)) : Distinct (.tables items)
  | table {style : TableStyle} {entries : List (String × Value)}
    (keys : (entries.map Prod.fst).Nodup) (values : ∀ e ∈ entries, Distinct e.2) :
    Distinct (.table style entries)

namespace Entries

/-- Neither do these entries have a key twice, nor has a table in them. -/
structure Distinct (entries : Entries) : Prop where
  keys : (entries.map Prod.fst).Nodup
  values : ∀ e ∈ entries, e.2.Distinct

theorem distinct_table_iff {style : TableStyle} {entries : Entries} :
    (Value.table style entries).Distinct ↔ Distinct entries := by
  constructor
  · intro h
    cases h with
    | table keys values => exact ⟨keys, values⟩
  · exact fun h => .table h.keys h.values

theorem distinct_nil : Distinct [] := ⟨List.nodup_nil, by simp⟩

section Keys

variable {entries : Entries} {key : String} {value : Value}

theorem Distinct.of_lookup (h : entries.Distinct) (hvalue : entries.lookup key = some value) :
    value.Distinct := by
  obtain ⟨before, after, rfl, _⟩ := List.lookup_eq_some_iff.mp hvalue
  exact h.values (key, value) (by simp)

/-- A key that is not there yet is added. -/
theorem Distinct.concat (h : entries.Distinct) (hkey : entries.lookup key = none)
    (hvalue : value.Distinct) : Distinct (entries ++ [(key, value)]) := by
  have hnot : key ∉ entries.map Prod.fst := lookup_eq_none_iff_not_mem.mp hkey
  refine ⟨?_, fun e he => ?_⟩
  · rw [List.map_append, List.nodup_append]
    refine ⟨h.keys, by simp, fun a ha b hb => ?_⟩
    obtain rfl : b = key := by simpa using hb
    exact fun heq => hnot (heq ▸ ha)
  · rcases List.mem_append.mp he with he | he
    · exact h.values e he
    · rw [List.mem_singleton.mp he]
      exact hvalue

theorem map_fst_set : (entries.set key value).map Prod.fst = entries.map Prod.fst := by
  rw [set, List.map_map]
  refine List.map_congr_left fun e _ => ?_
  simp only [Function.comp_apply]
  split
  · rename_i he
    exact he.symm
  · rfl

/-- A value takes the place of another. -/
theorem Distinct.replace (h : entries.Distinct) (hvalue : value.Distinct) :
    (entries.set key value).Distinct := by
  refine ⟨map_fst_set.symm ▸ h.keys, fun e he => ?_⟩
  obtain ⟨old, hold, rfl⟩ := List.mem_map.mp he
  split
  · exact hvalue
  · exact h.values old hold

theorem Distinct.remove (h : entries.Distinct) : (entries.erase key).Distinct :=
  ⟨(List.filter_sublist.map Prod.fst).nodup h.keys,
    fun e he => h.values e (List.mem_of_mem_filter he)⟩

theorem lookup_erase_self : (entries.erase key).lookup key = none := by
  refine lookup_eq_none_iff_not_mem.mpr fun hmem => ?_
  obtain ⟨e, he, hkey⟩ := List.mem_map.mp hmem
  have hne := List.of_mem_filter he
  simp [hkey] at hne

theorem lookup_concat_self (h : entries.lookup key = none) :
    (entries ++ [(key, value)]).lookup key = some value := by
  rw [List.lookup_append, h]
  simp

theorem lookup_set_self {old : Value} (h : entries.lookup key = some old) :
    (entries.set key value).lookup key = some value := by
  induction entries with
  | nil => cases h
  | cons e rest ih =>
    obtain ⟨other, v⟩ := e
    rw [set, List.map_cons]
    by_cases hkey : other = key
    · rw [if_pos hkey, List.lookup_cons_self]
    · rw [lookup_cons, if_neg (Ne.symm hkey)] at h
      rw [if_neg hkey, lookup_cons, if_neg (Ne.symm hkey)]
      exact ih h

end Keys

/-! ## The table at the end of a path -/

theorem get?_nil (key : String) (path : List String) : get? key path [] = none := by
  cases path <;> rfl

theorem distinct_of_getLast? {items : List Entries} {t : Entries}
    (h : (Value.tables items).Distinct) (hlast : items.getLast? = some t) : t.Distinct := by
  cases h with
  | tables h => exact distinct_table_iff.mp (h t (List.mem_of_getLast? hlast))

theorem Distinct.of_get? {entries : Entries} {key : String} {path : List String} {value : Value}
    (h : entries.Distinct) (hvalue : entries.get? key path = some value) : value.Distinct := by
  induction path generalizing entries with
  | nil => exact h.of_lookup hvalue
  | cons first path ih =>
    rw [get?] at hvalue
    split at hvalue
    · rename_i hfirst
      exact ih (distinct_table_iff.mp (h.of_lookup hfirst)) hvalue
    · rename_i items hfirst
      split at hvalue
      · rename_i t hlast
        exact ih (distinct_of_getLast? (h.of_lookup hfirst) hlast) hvalue
      · cases hvalue
    · cases hvalue

section Update

variable {dotted : Bool} {change : TableStyle → Entries → Option Entries} {style : TableStyle}
  {path : List String} {entries entries' : Entries}

/-- A change that keeps the table at the end of a path from having a key twice keeps all
tables from it.  The keys of that table are those that are found behind the path. -/
theorem Distinct.update (h : entries.Distinct)
    (hchange : ∀ style t t', Distinct t → (∀ key, t.lookup key = entries.get? key path) →
      change style t = some t' → Distinct t')
    (heq : Entries.update dotted change style path entries = some entries') :
    entries'.Distinct := by
  induction path generalizing style entries entries' with
  | nil => exact hchange style entries entries' h (fun _ => rfl) heq
  | cons first path ih =>
    rw [Entries.update] at heq
    split at heq
    · rename_i hfirst
      obtain ⟨t', ht', rfl⟩ := Option.map_eq_some_iff.mp heq
      refine h.concat hfirst (distinct_table_iff.mpr (ih distinct_nil ?_ ht'))
      refine fun style t t' ht hkeys => hchange style t t' ht fun key => ?_
      rw [hkeys, get?_nil, get?, hfirst]
    · rename_i style t hfirst
      split at heq
      · cases heq
      · -- the path goes on in the table, where the keys behind the rest of it are the same
        obtain ⟨t', ht', rfl⟩ := Option.map_eq_some_iff.mp heq
        refine h.replace (distinct_table_iff.mpr
          (ih (distinct_table_iff.mp (h.of_lookup hfirst)) ?_ ht'))
        refine fun style t t' ht hkeys => hchange style t t' ht fun key => ?_
        rw [hkeys, get?, hfirst]
    · rename_i items hfirst
      split at heq
      · cases heq
      · rename_i t hlast
        obtain ⟨t', ht', rfl⟩ := Option.map_eq_some_iff.mp heq
        have hitems := h.of_lookup hfirst
        have hnew : t'.Distinct := by
          refine ih (distinct_of_getLast? hitems hlast) ?_ ht'
          refine fun style t t' ht hkeys => hchange style t t' ht fun key => ?_
          rw [hkeys, get?, hfirst]
          dsimp only
          rw [hlast]
        refine h.replace (.tables fun entries hentries => ?_)
        cases hitems with
        | tables hitems =>
          rcases List.mem_append.mp hentries with hold | hlast
          · exact hitems entries ((List.dropLast_sublist items).subset hold)
          · rw [List.mem_singleton.mp hlast]
            exact distinct_table_iff.mpr hnew
    · cases heq

/-- What is found behind the path is found in the changed table. -/
theorem get?_of_update {key : String} {found : Option Value}
    (hchange : ∀ style t t', change style t = some t' → t'.lookup key = found)
    (heq : Entries.update dotted change style path entries = some entries') :
    entries'.get? key path = found := by
  induction path generalizing style entries entries' with
  | nil => exact hchange style entries entries' heq
  | cons first path ih =>
    rw [Entries.update] at heq
    split at heq
    · rename_i hfirst
      obtain ⟨t', ht', rfl⟩ := Option.map_eq_some_iff.mp heq
      rw [get?, lookup_concat_self hfirst]
      exact ih ht'
    · rename_i style t hfirst
      split at heq
      · cases heq
      · obtain ⟨t', ht', rfl⟩ := Option.map_eq_some_iff.mp heq
        rw [get?, lookup_set_self hfirst]
        exact ih ht'
    · rename_i items hfirst
      split at heq
      · cases heq
      · obtain ⟨t', ht', rfl⟩ := Option.map_eq_some_iff.mp heq
        rw [get?, lookup_set_self hfirst]
        simp only [List.getLast?_concat]
        exact ih ht'
    · cases heq

end Update

/-- A key with its value is added where the key is not there yet. -/
theorem Distinct.add {style : TableStyle} {path : List String} {key : String} {value : Value}
    {entries entries' : Entries} (h : entries.Distinct) (hvalue : value.Distinct)
    (heq : Entries.add style path key value entries = some entries') : entries'.Distinct := by
  refine h.update (fun style t t' ht _ hnew => ?_) heq
  split at hnew
  · cases hnew
  · rename_i hfree
    cases hnew
    refine ht.concat ?_ hvalue
    exact Option.not_isSome_iff_eq_none.mp fun hsome => hfree (.inr hsome)

theorem distinct_of_ofInline {items : List (List String × String × Value)} {value : Value}
    (hitems : ∀ item ∈ items, item.2.2.Distinct) (h : ofInline items = some value) :
    value.Distinct := by
  obtain ⟨t, ht, rfl⟩ := Option.map_eq_some_iff.mp h
  refine distinct_table_iff.mpr (foldlM_keeps (fun t item t' hitem hdistinct hadd => ?_)
    distinct_nil ht)
  exact hdistinct.add (hitems item hitem) hadd

end Entries

/-! ## Statements -/

/-- No table in the value of a statement has a key twice. -/
def Statement.Distinct : Statement → Prop
  | .entry _ _ value => value.Distinct
  | _ => True

namespace Draft

/-- Neither the document so far nor the open table has a key twice, and the open table has its
place to itself. -/
structure Distinct (d : Draft) : Prop where
  root : d.root.Distinct
  current : d.current.Distinct
  vacant : d.repeated = false → ∀ path key, d.header = some (path, key) →
    d.root.get? key path = none

variable {d d' : Draft} {root : Entries} {path : List String} {key : String}

theorem Distinct.of_close (h : d.Distinct) (heq : d.close = some root) : root.Distinct := by
  rw [close] at heq
  split at heq
  · cases heq
    exact h.current
  · rename_i path key hheader
    refine h.root.update (fun style t t' ht hkeys hnew => ?_) heq
    split at hnew
    · split at hnew
      · rename_i items hitems
        cases hnew
        refine ht.replace (.tables fun entries hentries => ?_)
        cases ht.of_lookup hitems with
        | tables hold =>
          rcases List.mem_append.mp hentries with hmem | hmem
          · exact hold entries hmem
          · rw [List.mem_singleton.mp hmem]
            exact Entries.distinct_table_iff.mpr h.current
      · cases hnew
    · rename_i hrepeated
      cases hnew
      refine ht.concat ?_ (Entries.distinct_table_iff.mpr h.current)
      rw [hkeys, h.vacant (by simpa using hrepeated) path key hheader]

/-- The table that is opened is taken out of its place. -/
theorem Distinct.of_taken {current : Entries} (h : root.Distinct) (hcurrent : current.Distinct)
    (heq : (Entries.update false (fun _ t => some (Entries.erase t key)) .named path root).map
      (fun root =>
        ({ root, header := some (path, key), repeated := false, current } : Draft)) = some d) :
    d.Distinct := by
  obtain ⟨root', hroot', rfl⟩ := Option.map_eq_some_iff.mp heq
  constructor
  case root => exact h.update (fun style t t' ht _ hnew => by cases hnew; exact ht.remove) hroot'
  case current => exact hcurrent
  case vacant =>
    rintro - _ _ ⟨⟩
    exact Entries.get?_of_update
      (fun style t t' hnew => by cases hnew; exact Entries.lookup_erase_self) hroot'

theorem Distinct.openTable (h : root.Distinct) (heq : Draft.openTable path key root = some d) :
    d.Distinct := by
  cases hget : root.get? key path with
  | none =>
    simp only [Draft.openTable, hget] at heq
    exact .of_taken h Entries.distinct_nil heq
  | some value =>
    have hvalue := h.of_get? hget
    cases value with
    | table style t =>
      cases style with
      | above =>
        simp only [Draft.openTable, hget] at heq
        exact .of_taken h (Entries.distinct_table_iff.mp hvalue) heq
      | _ => simp [Draft.openTable, hget] at heq
    | _ => simp [Draft.openTable, hget] at heq

theorem Distinct.openRepeated (h : root.Distinct)
    (heq : Draft.openRepeated path key root = some d) : d.Distinct := by
  obtain ⟨root', hroot', rfl⟩ := Option.map_eq_some_iff.mp heq
  constructor
  case root =>
    refine h.update (fun style t t' ht _ hnew => ?_) hroot'
    split at hnew
    · rename_i hfree
      cases hnew
      exact ht.concat hfree (.tables (by simp))
    · cases hnew
      exact ht
    · cases hnew
  case current => exact Entries.distinct_nil
  case vacant =>
    intro hrepeated
    cases hrepeated

/-- One statement more. -/
theorem Distinct.step {s : Statement} (h : d.Distinct) (hs : s.Distinct)
    (heq : d.step s = some d') : d'.Distinct := by
  cases s with
  | header path key =>
    obtain ⟨root, hroot, hopen⟩ := Option.bind_eq_some_iff.mp heq
    exact .openTable (h.of_close hroot) hopen
  | repeatedHeader path key =>
    obtain ⟨root, hroot, hopen⟩ := Option.bind_eq_some_iff.mp heq
    exact .openRepeated (h.of_close hroot) hopen
  | entry path key value =>
    obtain ⟨current, hcurrent, rfl⟩ := Option.map_eq_some_iff.mp heq
    exact ⟨h.root, h.current.add hs hcurrent, h.vacant⟩

end Draft

theorem distinct_of_document? {statements : List Statement} {document : Entries}
    (hs : ∀ s ∈ statements, s.Distinct) (h : document? statements = some document) :
    document.Distinct := by
  obtain ⟨d, hd, hclose⟩ := Option.bind_eq_some_iff.mp h
  have hstart : ({} : Draft).Distinct :=
    ⟨Entries.distinct_nil, Entries.distinct_nil, fun _ _ _ hheader => by cases hheader⟩
  have hend : d.Distinct :=
    foldlM_keeps (fun d s d' hmem hdistinct hstep => hdistinct.step (hs s hmem) hstep) hstart hd
  exact hend.of_close hclose

/-! ## Reading -/

theorem integer?_distinct {n : Int} {value : Value} (h : integer? n = some value) :
    value.Distinct := by
  rw [integer?] at h
  split at h
  · cases h
    exact .integer n
  · cases h

theorem readInteger_distinct {cs rest : List Char} {value : Value}
    (h : readInteger cs = some (value, rest)) : value.Distinct := by
  unfold readInteger at h
  -- in each base the digits come first, and then the bounds of the number
  split at h
  all_goals
    obtain ⟨⟨digits, _⟩, _, h⟩ := Option.bind_eq_some_iff.mp h
    obtain ⟨v, hv, h⟩ := Option.bind_eq_some_iff.mp h
    cases h
    exact integer?_distinct hv

theorem readFloat_distinct {cs rest : List Char} {value : Value}
    (h : readFloat cs = some (value, rest)) : value.Distinct := by
  unfold readFloat at h
  generalize takeSign cs = sign at h
  obtain ⟨negative, tail⟩ := sign
  dsimp only at h
  split at h
  · cases h
    exact .float _
  · cases h
    exact .float _
  · obtain ⟨⟨whole, _⟩, _, h⟩ := Option.bind_eq_some_iff.mp h
    obtain ⟨⟨⟨fraction, e⟩, _⟩, _, h⟩ := Option.bind_eq_some_iff.mp h
    dsimp only at h
    split at h
    · cases h
      exact .float _
    · split at h
      · cases h
        exact .float _
      · cases h

theorem readNumeral_distinct {cs rest : List Char} {value : Value}
    (h : readNumeral cs = some (value, rest)) : value.Distinct := by
  rw [readNumeral] at h
  split at h
  · cases h
    exact .moment
  · split at h
    · rename_i hfloat
      cases h
      exact readFloat_distinct hfloat
    · exact readInteger_distinct h

/-- What the readers give for a number of calls. -/
structure ReadsDistinct (fuel : Nat) : Prop where
  value : ∀ depth cs value rest, readValue fuel depth cs = some (value, rest) → value.Distinct
  items : ∀ depth items cs value rest, (∀ item ∈ items, Value.Distinct item) →
    readItems fuel depth items cs = some (value, rest) → value.Distinct
  pairs : ∀ depth pairs cs value rest,
    (∀ pair ∈ pairs, Value.Distinct (Prod.snd (Prod.snd pair))) →
    readPairs fuel depth pairs cs = some (value, rest) → value.Distinct

theorem readsDistinct (fuel : Nat) : ReadsDistinct fuel := by
  induction fuel with
  | zero =>
    constructor
    case value =>
      intro depth cs value rest h
      unfold readValue at h
      cases h
    case items =>
      intro depth items cs value rest _ h
      unfold readItems at h
      cases h
    case pairs =>
      intro depth pairs cs value rest _ h
      unfold readPairs at h
      cases h
  | succ fuel ih =>
    constructor
    case value =>
      intro depth cs value rest h
      unfold readValue at h
      split at h
      · obtain ⟨⟨s, _⟩, _, h⟩ := Option.map_eq_some_iff.mp h
        cases h
        exact .string s
      · obtain ⟨⟨s, _⟩, _, h⟩ := Option.map_eq_some_iff.mp h
        cases h
        exact .string s
      · split at h
        · cases h
        · exact ih.items _ [] _ _ _ (by simp) h
      · split at h
        · cases h
        · split at h
          · cases h
            exact Entries.distinct_table_iff.mpr Entries.distinct_nil
          · exact ih.pairs _ [] _ _ _ (by simp) h
      · cases h
        exact .boolean true
      · cases h
        exact .boolean false
      · exact readNumeral_distinct h
    case items =>
      intro depth items cs value rest hitems h
      unfold readItems at h
      split at h
      · cases h
        exact .array (by simpa using hitems)
      · split at h
        · cases h
        · rename_i item _ hitem
          have hmore : ∀ other ∈ item :: items, other.Distinct :=
            List.forall_mem_cons.mpr ⟨ih.value _ _ _ _ hitem, hitems⟩
          split at h
          · exact ih.items _ _ _ _ _ hmore h
          · cases h
            exact .array (by simpa only [List.mem_reverse] using hmore)
          · cases h
    case pairs =>
      intro depth pairs cs value rest hpairs h
      unfold readPairs at h
      split at h
      · split at h
        · cases h
        · rename_i path key _ _ _ v _ hvalue
          have hmore : ∀ other ∈ (path, key, v) :: pairs, other.2.2.Distinct :=
            List.forall_mem_cons.mpr ⟨ih.value _ _ _ _ hvalue, hpairs⟩
          split at h
          · exact ih.pairs _ _ _ _ _ hmore h
          · obtain ⟨table, htable, h⟩ := Option.map_eq_some_iff.mp h
            cases h
            exact Entries.distinct_of_ofInline (by simpa only [List.mem_reverse] using hmore) htable
          · cases h
      · cases h

theorem readValue_distinct {fuel depth : Nat} {cs rest : List Char} {value : Value}
    (h : readValue fuel depth cs = some (value, rest)) : value.Distinct :=
  (readsDistinct fuel).value depth cs value rest h

theorem readStatement_distinct {cs rest : List Char} {s : Statement}
    (h : readStatement cs = some (s, rest)) : s.Distinct := by
  have hheader : ∀ (repeated : Bool) (cs : List Char), readHeader repeated cs = some (s, rest) →
      s.Distinct := by
    intro repeated cs h
    unfold readHeader at h
    split at h
    · split at h
      · split at h
        · cases h
          trivial
        · cases h
      · cases h
        trivial
    · cases h
  unfold readStatement at h
  split at h
  · exact hheader true _ h
  · exact hheader false _ h
  · unfold readEntry at h
    split at h
    · obtain ⟨⟨v, _⟩, hvalue, h⟩ := Option.map_eq_some_iff.mp h
      cases h
      exact readValue_distinct hvalue
    · cases h

theorem readStatements_distinct {fuel : Nat} {before statements : List Statement}
    {cs : List Char} (hbefore : ∀ s ∈ before, s.Distinct)
    (h : readStatements fuel before cs = some statements) : ∀ s ∈ statements, s.Distinct := by
  induction fuel generalizing before cs with
  | zero =>
    unfold readStatements at h
    cases h
  | succ fuel ih =>
    unfold readStatements at h
    split at h
    · cases h
      simpa using hbefore
    · split at h
      · cases h
      · rename_i s _ hs
        split at h
        · cases h
        · exact ih (List.forall_mem_cons.mpr ⟨readStatement_distinct hs, hbefore⟩) h

/-- No table of a document has a key twice. -/
theorem parse?_distinct {cs : List Char} {document : Entries} (h : parse? cs = some document) :
    document.Distinct := by
  obtain ⟨statements, hstatements, hdocument⟩ := Option.bind_eq_some_iff.mp h
  exact distinct_of_document? (readStatements_distinct (by simp) hstatements) hdocument

end BackendAudit.Toml
