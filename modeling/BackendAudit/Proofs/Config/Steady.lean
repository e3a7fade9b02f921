import BackendAudit.Config.Document
import BackendAudit.Proofs.Config.Record

/-!
# The order of keys in a configuration

A configuration is read from a document with its keys in any other order as well.  What is told
of a document that is none may depend on the order, as the first fault is told; so `Steady` is
about what is read only.

* `Steady.readList`, `steady_readRecord`: lists and records, if their parts are read so.
* `ofDocument_of_sameButOrder`: whole documents.
-/

namespace BackendAudit.Config

open BackendAudit.Toml (Value Entries TableStyle)

variable {α β : Type}

/-- What is read from a value is read from it with the keys of its tables in another order. -/
def Steady (read : Value → Except ShapeFault β) : Prop :=
  ∀ v v' x, v.Distinct → v.Reordered v' → read v = .ok x → read v' = .ok x

/-- What a field takes in does not depend on the order of keys. -/
def Field.Steady (f : Field α) : Prop :=
  ∀ r, Config.Steady fun value => f.set value r

theorem Steady.of_sameButOrder {read : Value → Except ShapeFault β} (hread : Steady read)
    {v v' : Value} (hv : v.Distinct) (h : v.SameButOrder v') {x : β} (hx : read v = .ok x) :
    read v' = .ok x := by
  induction h with
  | refl => exact hx
  | tail hbefore hstep ih =>
    exact hread _ _ _ (Value.SameButOrder.distinct hbefore hv) hstep ih

theorem Steady.follows {read : Value → Except ShapeFault β} (hread : Steady read) {v v' : Value}
    (h : Value.Follows (some v) (some v')) {x : β} (hx : read v = .ok x) : read v' = .ok x := by
  cases h with
  | same => exact hx
  | reordered hv h => exact hread v v' x hv h hx

theorem Field.steady_of {key : String} {read : Value → Except ShapeFault β} {put : α → β → α}
    (hread : Config.Steady read) : (Field.of key read put).Steady := by
  intro r v v' r' hv h hset
  change (read v).map (put r) = .ok r' at hset
  change (read v').map (put r) = .ok r'
  cases hx : read v with
  | error fault =>
    rw [hx] at hset
    cases hset
  | ok x =>
    rw [hx] at hset
    rw [hread v v' x hv h hx]
    exact hset

/-! ## Simple values and names -/

theorem steady_readText : Steady readText := by
  intro v v' s _ h hs
  cases h <;> cases hs

theorem steady_readTruth : Steady readTruth := by
  intro v v' b _ h hb
  cases h <;> cases hb

theorem steady_readNat (wanted : Wanted) : Steady (readNat wanted) := by
  intro v v' n _ h hn
  cases h <;> cases hn

theorem readName_eq_ok_iff {known : List (String × α)} {v : Value} {a : α} :
    readName known v = .ok a ↔ ∃ name, readName.find known name = .ok a ∧
      (v = .string name ∨ ∃ style style', v = .table style [(name, .table style' [])]) := by
  constructor
  · intro h
    unfold readName at h
    split at h
    · exact ⟨_, h, .inl rfl⟩
    · cases h
    · rename_i style name value
      cases hfind : readName.find known name with
      | error fault =>
        rw [hfind] at h
        cases h
      | ok b =>
        rw [hfind] at h
        simp only [bind, Except.bind] at h
        split at h
        · cases h
          exact ⟨name, hfind, .inr ⟨_, _, rfl⟩⟩
        · cases h
        · cases h
    · cases h
    · cases h
  · rintro ⟨name, hfind, rfl | ⟨style, style', rfl⟩⟩
    · exact hfind
    · rw [readName, hfind]
      rfl

/-- The only key of a table has no other order, nor has a table without keys. -/
theorem eq_of_reordered_name {style style' : TableStyle} {name : String} {v : Value}
    (h : Value.Reordered (.table style [(name, .table style' [])]) v) :
    v = .table style [(name, .table style' [])] := by
  generalize hentries : [(name, Value.table style' [])] = entries at h
  cases h with
  | here hperm =>
    subst hentries
    rw [List.perm_singleton.mp hperm.symm]
  | @entry _ key w w' hw before after =>
    cases before with
    | cons e before => simp at hentries
    | nil =>
      cases hentries
      generalize hnone : ([] : Entries) = entries at hw
      cases hw with
      | here hperm =>
        subst hnone
        rw [List.nil_perm.mp hperm]
      | entry hw before after => simp at hnone

theorem steady_readName (known : List (String × α)) : Steady (readName known) := by
  intro v v' a _ h ha
  obtain ⟨name, hfind, rfl | ⟨style, style', rfl⟩⟩ := readName_eq_ok_iff.mp ha
  · cases h
  · rw [eq_of_reordered_name h]
    exact ha

/-! ## Lists -/

/-- The items of a list, one of which may have its keys in another order. -/
abbrev FollowedBy : List Value → List Value → Prop :=
  List.Forall₂ fun w w' => Value.Follows (some w) (some w')

theorem followedBy_refl (items : List Value) : FollowedBy items items :=
  List.forall₂_same.mpr fun w _ => .same (some w)

theorem followedBy_middle {w w' : Value} (hw : w.Distinct) (h : w.Reordered w')
    (before after : List Value) : FollowedBy (before ++ w :: after) (before ++ w' :: after) :=
  List.rel_append (followedBy_refl before) (.cons (.reordered hw h) (followedBy_refl after))

theorem exists_items?_of_reordered {v v' : Value} {items : List Value} (hv : v.Distinct)
    (h : v.Reordered v') (hitems : items? v = some items) :
    ∃ items', items? v' = some items' ∧ FollowedBy items items' := by
  cases h with
  | here => cases hitems
  | entry => cases hitems
  | item h before after =>
    cases hitems
    cases hv with
    | array hv => exact ⟨_, rfl, followedBy_middle (hv _ (by simp)) h before after⟩
  | headed h before after =>
    cases hitems
    cases hv with
    | tables hv =>
      refine ⟨_, rfl, ?_⟩
      rw [List.map_append, List.map_cons, List.map_append, List.map_cons]
      exact followedBy_middle (hv _ (by simp)) h _ _

theorem FollowedBy.getElem? {items items' : List Value} (h : FollowedBy items items') (n : Nat) :
    Value.Follows items[n]? items'[n]? := by
  induction h generalizing n with
  | nil => exact .same none
  | cons hw _ ih =>
    cases n with
    | zero => exact hw
    | succ n => exact ih n

theorem Steady.readList {read : Value → Except ShapeFault β} (hread : Steady read) :
    Steady (readList read) := by
  intro v v' xs hv h hxs
  rw [Config.readList] at hxs ⊢
  cases hitems : items? v with
  | none =>
    rw [hitems] at hxs
    cases hxs
  | some items =>
    obtain ⟨items', hitems', hfollowed⟩ := exists_items?_of_reordered hv h hitems
    rw [hitems] at hxs
    rw [hitems']
    rw [mapM_eq_ok_iff] at hxs ⊢
    clear hitems hitems'
    induction hfollowed generalizing xs with
    | nil => exact hxs
    | cons hw _ ih =>
      cases hxs with
      | cons hx hxs => exact .cons (hread.follows hw hx) (ih _ hxs)

/-! ## Records -/

theorem take_of_follows {f : Field α} (hf : f.Steady) {x x' : Option Value}
    (h : Value.Follows x x') {r r' : α} (htake : f.take x r = some r') :
    f.take x' r = some r' := by
  cases h with
  | same => exact htake
  | reordered hv h =>
    exact toOption_eq_some_iff.mpr (hf r _ _ r' hv h (toOption_eq_some_iff.mp htake))

theorem takeAll_of_follows {fields : List (Field α)} (hfields : ∀ f ∈ fields, f.Steady)
    {given given' : String → Option Value} (h : ∀ key, Value.Follows (given key) (given' key))
    {r r' : α} (htake : takeAll given fields r = some r') : takeAll given' fields r = some r' := by
  induction fields generalizing r with
  | nil => exact htake
  | cons f fields ih =>
    obtain ⟨hf, hrest⟩ := List.forall_mem_cons.mp hfields
    obtain ⟨next, hnext, htake⟩ := Option.bind_eq_some_iff.mp htake
    exact Option.bind_eq_some_iff.mpr
      ⟨next, take_of_follows hf (h f.key) hnext, ih hrest htake⟩

theorem Holds.exists_of_reordered {keys : List String} {v v' : Value}
    {given : String → Option Value} (hholds : Holds keys v given) (hv : v.Distinct)
    (h : v.Reordered v') :
    ∃ given', Holds keys v' given' ∧ ∀ key, Value.Follows (given key) (given' key) := by
  cases hholds with
  | table style entries =>
    have hentries := Toml.Entries.distinct_table_iff.mp hv
    obtain ⟨entries', rfl⟩ : ∃ entries', v' = .table style entries' := by
      cases h <;> exact ⟨_, rfl⟩
    exact ⟨_, .table style entries', fun key => h.lookup hentries key⟩
  | moment => cases h
  | list hitems =>
    obtain ⟨items', hitems', hfollowed⟩ := exists_items?_of_reordered hv h hitems
    exact ⟨_, .list hitems', fun key => FollowedBy.getElem? hfollowed _⟩

theorem steady_readRecord {name : String} {fields : List (Field α)} {r : α}
    (hfields : Independent fields) (hsteady : ∀ f ∈ fields, f.Steady) :
    Steady (readRecord name fields r) := by
  intro v v' r' hv h hread
  obtain ⟨given, hholds, htake⟩ := (readRecord_eq_ok_iff hfields hv).mp hread
  obtain ⟨given', hholds', hfollows⟩ := hholds.exists_of_reordered hv h
  exact (readRecord_eq_ok_iff hfields (h.distinct hv)).mpr
    ⟨given', hholds', takeAll_of_follows hsteady hfollows htake⟩

/-! ## Configurations -/

theorem steady_readTexts : Steady readTexts := steady_readText.readList

theorem independent_scanFields : Independent scanFields :=
  ⟨by decide, by simp [scanFields, Field.commutes_of]⟩

theorem independent_outputFields : Independent outputFields :=
  ⟨by decide, by simp [outputFields, Field.commutes_of]⟩

theorem independent_probeFields : Independent probeFields :=
  ⟨by decide, by simp [probeFields, Field.commutes_of]⟩

theorem independent_ruleFields : Independent ruleFields :=
  ⟨by decide, by simp [ruleFields, Field.commutes_of]⟩

theorem independent_fields : Independent fields :=
  ⟨by decide, by simp [fields, Field.commutes_of]⟩

/-- A draft is finished if only its remediation is missing. -/
theorem RuleDraft.finish_eq_ok_iff {d : RuleDraft} {missing : Nat → String → ShapeFault}
    {rule : CustomRule} :
    d.finish missing = .ok rule ↔ d.category = some rule.category ∧
      d.severity = some rule.severity ∧ d.description = some rule.description ∧
      d.patterns = some rule.patterns ∧ d.remediation.getD "" = rule.remediation := by
  obtain ⟨category, severity, description, remediation, patterns⟩ := d
  obtain ⟨category', severity', description', remediation', patterns'⟩ := rule
  cases category <;> cases severity <;> cases description <;> cases patterns <;>
    simp [RuleDraft.finish, and_comm, and_left_comm]

theorem readRule_eq_ok_iff {v : Value} {rule : CustomRule} :
    readRule v = .ok rule ↔ ∃ draft : RuleDraft,
      readRecord "CustomRule" ruleFields {} v = .ok draft ∧ draft.category = some rule.category ∧
      draft.severity = some rule.severity ∧ draft.description = some rule.description ∧
      draft.patterns = some rule.patterns ∧ draft.remediation.getD "" = rule.remediation := by
  rw [readRule]
  cases readRecord "CustomRule" ruleFields {} v with
  | error fault => simp [bind, Except.bind]
  | ok draft => simp [bind, Except.bind, RuleDraft.finish_eq_ok_iff]

theorem steady_readRule : Steady readRule := by
  have hsteady : ∀ f ∈ ruleFields, f.Steady := by
    simp [ruleFields, Field.steady_of, steady_readName, steady_readText, steady_readTexts]
  intro v v' rule hv h hrule
  obtain ⟨draft, hdraft, hmakes⟩ := readRule_eq_ok_iff.mp hrule
  exact readRule_eq_ok_iff.mpr
    ⟨draft, steady_readRecord independent_ruleFields hsteady v v' draft hv h hdraft, hmakes⟩

/-- The configuration of a document is that of the document with its keys in another order. -/
theorem ofDocument_of_sameButOrder {document document' : Entries} (hdistinct : document.Distinct)
    (h : Value.SameButOrder (.table .named document) (.table .named document')) {c : Config}
    (hc : ofDocument document = .ok c) : ofDocument document' = .ok c := by
  have hsteady : ∀ f ∈ fields, f.Steady := by
    have hscan : Steady (readRecord "ScanConfig" scanFields {}) := by
      refine steady_readRecord independent_scanFields ?_
      simp [scanFields, Field.steady_of, steady_readTexts, steady_readNat]
    have houtput : Steady (readRecord "OutputConfig" outputFields {}) := by
      refine steady_readRecord independent_outputFields ?_
      simp [outputFields, Field.steady_of, steady_readText]
    have hprobe : Steady (readRecord "ProbeConfig" probeFields {}) := by
      refine steady_readRecord independent_probeFields ?_
      simp [probeFields, Field.steady_of, steady_readTruth, steady_readTexts, steady_readNat]
    simp [fields, Field.steady_of, hscan, houtput, hprobe, steady_readRule.readList]
  have hread : Steady (readRecord "Config" fields {}) :=
    steady_readRecord independent_fields hsteady
  exact hread.of_sameButOrder (Toml.Entries.distinct_table_iff.mpr hdistinct) h hc

end BackendAudit.Config
