import BackendAudit.Proofs.Config.Steady

/-!
# What a document states

A configuration is what its document states, setting by setting (`Config.StatedBy`): each is
the value that the document has for its key, and its default if the document has none,
whatever else is in the section.

* `ofDocument_eq_ok_iff`: so a configuration is read from a document.
* `ofDocument_knownPart`: keys that are no settings say nothing, not even in a fault.
-/

namespace BackendAudit

open Toml (Value Entries)
open Config

/-! ## Sections -/

/-- The settings of a scan, from what there is for their keys. -/
structure ScanConfig.StatedBy (given : String → Option Value) (c : ScanConfig) : Prop where
  extensions : Settles readTexts ["js"] (given "extensions") c.extensions
  excludeDirs : Settles readTexts ["node_modules"] (given "exclude_dirs") c.excludeDirs
  workers : Settles (fun v => (readNat .count v).map some) none (given "workers") c.workers
  maxFileBytes : Settles (readNat .measure) 1048576 (given "max_file_bytes") c.maxFileBytes

/-- The settings of the output, from what there is for their keys. -/
structure OutputConfig.StatedBy (given : String → Option Value) (c : OutputConfig) : Prop where
  title : Settles readText "BACKEND BUG DETECTION REPORT" (given "title") c.title
  reportFile : Settles readText "bug_detection_report.txt" (given "report_file") c.reportFile
  logFile : Settles readText "bug_detection.log" (given "log_file") c.logFile

/-- The settings of a probe, from what there is for their keys. -/
structure ProbeConfig.StatedBy (given : String → Option Value) (c : ProbeConfig) : Prop where
  enabled : Settles readTruth false (given "enabled") c.enabled
  baseUrls : Settles readTexts ["http://localhost:4021", "http://localhost:4000"]
    (given "base_urls") c.baseUrls
  endpoints : Settles readTexts
    ["/api/auth/login", "/api/users", "/api/disputes", "/health", "/"]
    (given "endpoints") c.endpoints
  sqlPayloads : Settles readTexts ["'; DROP TABLE users; --", "1' OR '1'='1", "admin'--"]
    (given "sql_payloads") c.sqlPayloads
  xssPayloads : Settles readTexts
    ["<script>alert('xss')</script>", "javascript:alert('xss')",
      "<img src=x onerror=alert('xss')>"]
    (given "xss_payloads") c.xssPayloads
  requestTimeout : Settles (readNat .measure) 10 (given "request_timeout_secs") c.requestTimeout
  runTimeout : Settles (readNat .measure) 120 (given "run_timeout_secs") c.runTimeout
  concurrency : Settles (readNat .count) 16 (given "concurrency") c.concurrency

/-- What there is for the keys of a section, which may be missing as a whole. -/
inductive Config.Gives (keys : List String) : Option Value → (String → Option Value) → Prop
  | missing : Gives keys none fun _ => none
  | given {value : Value} {given : String → Option Value} (h : Holds keys value given) :
    Gives keys (some value) given

/-! ## Rules -/

/-- What a setting without a default is. -/
def Config.Requires {β : Type} (read : Value → Except ShapeFault β) (given : Option Value)
    (x : β) : Prop :=
  ∃ value, given = some value ∧ read value = .ok x

/-- A rule, from what there is for its keys. -/
structure CustomRule.StatedBy (given : String → Option Value) (rule : CustomRule) : Prop where
  category : Requires (readName (Category.all.map fun c => (c.name, c))) (given "category")
    rule.category
  severity : Requires (readName (Severity.all.map fun s => (s.name, s))) (given "severity")
    rule.severity
  description : Requires readText (given "description") rule.description
  remediation : Settles readText "" (given "remediation") rule.remediation
  patterns : Requires readTexts (given "patterns") rule.patterns

/-- What is there of a rule, from what there is for its keys. -/
structure Config.RuleDraft.StatedBy (given : String → Option Value) (d : RuleDraft) : Prop where
  category : Settles (fun v => (readName (Category.all.map fun c => (c.name, c)) v).map some) none
    (given "category") d.category
  severity : Settles (fun v => (readName (Severity.all.map fun s => (s.name, s)) v).map some) none
    (given "severity") d.severity
  description : Settles (fun v => (readText v).map some) none (given "description") d.description
  remediation : Settles (fun v => (readText v).map some) none (given "remediation") d.remediation
  patterns : Settles (fun v => (readTexts v).map some) none (given "patterns") d.patterns

/-- A rule of a document, from its table. -/
def CustomRule.StatedIn (value : Value) (rule : CustomRule) : Prop :=
  ∃ given, Holds (ruleFields.map Field.key) value given ∧ rule.StatedBy given

/-- The rules of a document: those of its tables, one after the other. -/
def Config.StatesRules : Option Value → List CustomRule → Prop
  | none, rules => rules = []
  | some value, rules => ∃ items, items? value = some items ∧
    List.Forall₂ CustomRule.StatedIn items rules

/-- A configuration, from a document. -/
structure Config.StatedBy (document : Entries) (c : Config) : Prop where
  scan : ∃ given, Gives (scanFields.map Field.key) (document.lookup "scan") given ∧
    c.scan.StatedBy given
  output : ∃ given, Gives (outputFields.map Field.key) (document.lookup "output") given ∧
    c.output.StatedBy given
  probe : ∃ given, Gives (probeFields.map Field.key) (document.lookup "probe") given ∧
    c.probe.StatedBy given
  rules : StatesRules (document.lookup "rules") c.rules

namespace Config

/-! ## Reading what is stated -/

section Sections

variable {α β : Type} {given : String → Option Value}

/-- A field whose default is to be absent. -/
theorem takeAll_of_absent {key : String} {read : Value → Except ShapeFault β}
    (put : α → Option β → α) {fields : List (Field α)} {r r' : α} (hput : put r none = r) :
    takeAll given (Field.of key read (fun r x => put r (some x)) :: fields) r = some r' ↔
      ∃ x, Settles (fun v => (read v).map some) none (given key) x ∧
        takeAll given fields (put r x) = some r' := by
  have hfield : Field.of key read (fun r x => put r (some x)) =
      Field.of key (fun v => (read v).map some) put := by
    simp only [Field.of, Field.mk.injEq, true_and]
    funext value r
    cases read value <;> rfl
  rw [hfield, takeAll_of_cons hput]

theorem takeAll_scanFields {c : ScanConfig} :
    takeAll given scanFields {} = some c ↔ c.StatedBy given := by
  unfold scanFields
  constructor
  · intro h
    obtain ⟨extensions, hextensions, h⟩ := (takeAll_of_cons (by rfl)).mp h
    obtain ⟨dirs, hdirs, h⟩ := (takeAll_of_cons (by rfl)).mp h
    obtain ⟨workers, hworkers, h⟩ :=
      (takeAll_of_absent (fun (c : ScanConfig) x => { c with workers := x }) (by rfl)).mp h
    obtain ⟨limit, hlimit, h⟩ := (takeAll_of_cons (by rfl)).mp h
    cases h
    exact ⟨hextensions, hdirs, hworkers, hlimit⟩
  · rintro ⟨hextensions, hdirs, hworkers, hlimit⟩
    refine (takeAll_of_cons (by rfl)).mpr ⟨_, hextensions, ?_⟩
    refine (takeAll_of_cons (by rfl)).mpr ⟨_, hdirs, ?_⟩
    refine (takeAll_of_absent (fun (c : ScanConfig) x => { c with workers := x }) (by rfl)).mpr
      ⟨_, hworkers, ?_⟩
    exact (takeAll_of_cons (by rfl)).mpr ⟨_, hlimit, rfl⟩

theorem takeAll_outputFields {c : OutputConfig} :
    takeAll given outputFields {} = some c ↔ c.StatedBy given := by
  unfold outputFields
  constructor
  · intro h
    obtain ⟨title, htitle, h⟩ := (takeAll_of_cons (by rfl)).mp h
    obtain ⟨report, hreport, h⟩ := (takeAll_of_cons (by rfl)).mp h
    obtain ⟨log, hlog, h⟩ := (takeAll_of_cons (by rfl)).mp h
    cases h
    exact ⟨htitle, hreport, hlog⟩
  · rintro ⟨htitle, hreport, hlog⟩
    refine (takeAll_of_cons (by rfl)).mpr ⟨_, htitle, ?_⟩
    refine (takeAll_of_cons (by rfl)).mpr ⟨_, hreport, ?_⟩
    exact (takeAll_of_cons (by rfl)).mpr ⟨_, hlog, rfl⟩

theorem takeAll_probeFields {c : ProbeConfig} :
    takeAll given probeFields {} = some c ↔ c.StatedBy given := by
  unfold probeFields
  constructor
  · intro h
    obtain ⟨enabled, henabled, h⟩ := (takeAll_of_cons (by rfl)).mp h
    obtain ⟨bases, hbases, h⟩ := (takeAll_of_cons (by rfl)).mp h
    obtain ⟨endpoints, hendpoints, h⟩ := (takeAll_of_cons (by rfl)).mp h
    obtain ⟨sql, hsql, h⟩ := (takeAll_of_cons (by rfl)).mp h
    obtain ⟨xss, hxss, h⟩ := (takeAll_of_cons (by rfl)).mp h
    obtain ⟨request, hrequest, h⟩ := (takeAll_of_cons (by rfl)).mp h
    obtain ⟨run, hrun, h⟩ := (takeAll_of_cons (by rfl)).mp h
    obtain ⟨concurrency, hconcurrency, h⟩ := (takeAll_of_cons (by rfl)).mp h
    cases h
    exact ⟨henabled, hbases, hendpoints, hsql, hxss, hrequest, hrun, hconcurrency⟩
  · rintro ⟨henabled, hbases, hendpoints, hsql, hxss, hrequest, hrun, hconcurrency⟩
    refine (takeAll_of_cons (by rfl)).mpr ⟨_, henabled, ?_⟩
    refine (takeAll_of_cons (by rfl)).mpr ⟨_, hbases, ?_⟩
    refine (takeAll_of_cons (by rfl)).mpr ⟨_, hendpoints, ?_⟩
    refine (takeAll_of_cons (by rfl)).mpr ⟨_, hsql, ?_⟩
    refine (takeAll_of_cons (by rfl)).mpr ⟨_, hxss, ?_⟩
    refine (takeAll_of_cons (by rfl)).mpr ⟨_, hrequest, ?_⟩
    refine (takeAll_of_cons (by rfl)).mpr ⟨_, hrun, ?_⟩
    exact (takeAll_of_cons (by rfl)).mpr ⟨_, hconcurrency, rfl⟩

theorem takeAll_ruleFields {d : RuleDraft} :
    takeAll given ruleFields {} = some d ↔ d.StatedBy given := by
  unfold ruleFields
  constructor
  · intro h
    obtain ⟨category, hcategory, h⟩ :=
      (takeAll_of_absent (fun (d : RuleDraft) x => { d with category := x }) (by rfl)).mp h
    obtain ⟨severity, hseverity, h⟩ :=
      (takeAll_of_absent (fun (d : RuleDraft) x => { d with severity := x }) (by rfl)).mp h
    obtain ⟨description, hdescription, h⟩ :=
      (takeAll_of_absent (fun (d : RuleDraft) x => { d with description := x }) (by rfl)).mp h
    obtain ⟨remediation, hremediation, h⟩ :=
      (takeAll_of_absent (fun (d : RuleDraft) x => { d with remediation := x }) (by rfl)).mp h
    obtain ⟨patterns, hpatterns, h⟩ :=
      (takeAll_of_absent (fun (d : RuleDraft) x => { d with patterns := x }) (by rfl)).mp h
    cases h
    exact ⟨hcategory, hseverity, hdescription, hremediation, hpatterns⟩
  · rintro ⟨hcategory, hseverity, hdescription, hremediation, hpatterns⟩
    refine (takeAll_of_absent (fun (d : RuleDraft) x => { d with category := x })
      (by rfl)).mpr ⟨_, hcategory, ?_⟩
    refine (takeAll_of_absent (fun (d : RuleDraft) x => { d with severity := x })
      (by rfl)).mpr ⟨_, hseverity, ?_⟩
    refine (takeAll_of_absent (fun (d : RuleDraft) x => { d with description := x })
      (by rfl)).mpr ⟨_, hdescription, ?_⟩
    refine (takeAll_of_absent (fun (d : RuleDraft) x => { d with remediation := x })
      (by rfl)).mpr ⟨_, hremediation, ?_⟩
    exact (takeAll_of_absent (fun (d : RuleDraft) x => { d with patterns := x })
      (by rfl)).mpr ⟨_, hpatterns, rfl⟩

/-- A section is read as its fields are settled, from nothing if it is missing. -/
theorem settles_section {name : String} {fields : List (Field α)} {start : α}
    {P : (String → Option Value) → α → Prop} (hfields : Independent fields)
    (hP : ∀ given r, takeAll given fields start = some r ↔ P given r) {section? : Option Value}
    (hsection : ∀ value, section? = some value → value.Distinct) {r : α} :
    Settles (readRecord name fields start) start section? r ↔
      ∃ given, Gives (fields.map Field.key) section? given ∧ P given r := by
  simp only [← hP]
  cases section? with
  | none =>
    change r = start ↔ _
    constructor
    · rintro rfl
      exact ⟨_, .missing, takeAll_of_none (fun _ _ => rfl) r⟩
    · rintro ⟨given, ⟨⟩, h⟩
      rw [takeAll_of_none (fun _ _ => rfl)] at h
      exact (Option.some.inj h).symm
  | some value =>
    refine (readRecord_eq_ok_iff hfields (hsection value rfl)).trans ?_
    constructor
    · rintro ⟨given, hholds, h⟩
      exact ⟨given, .given hholds, h⟩
    · rintro ⟨given, hgives, h⟩
      cases hgives with
      | given hholds => exact ⟨given, hholds, h⟩

theorem settles_some_iff {read : Value → Except ShapeFault β} {value? : Option Value} {x : β} :
    Settles (fun v => (read v).map some) none value? (some x) ↔ Requires read value? x := by
  cases value? with
  | none => simp [Settles, Requires]
  | some value =>
    change (read value).map some = .ok (some x) ↔ _
    cases hread : read value <;> simp [Requires, hread, Except.map]

theorem exists_settles_getD {read : Value → Except ShapeFault β} {value? : Option Value}
    {standard x : β} :
    (∃ o, Settles (fun v => (read v).map some) none value? o ∧ o.getD standard = x) ↔
      Settles read standard value? x := by
  cases value? with
  | none => simp [Settles, eq_comm]
  | some value =>
    change (∃ o, (read value).map some = .ok o ∧ o.getD standard = x) ↔ read value = .ok x
    cases hread : read value <;> simp [Except.map, eq_comm]

end Sections

/-- A rule is read from its table. -/
theorem readRule_eq_ok_iff_statedIn {value : Value} (hvalue : value.Distinct)
    {rule : CustomRule} : readRule value = .ok rule ↔ rule.StatedIn value := by
  rw [readRule_eq_ok_iff]
  simp only [readRecord_eq_ok_iff independent_ruleFields hvalue, takeAll_ruleFields]
  constructor
  · rintro ⟨⟨_, _, _, remediation, _⟩, ⟨given, hholds, hstated⟩, rfl, rfl, rfl, rfl,
      hremediation⟩
    exact ⟨given, hholds, settles_some_iff.mp hstated.category,
      settles_some_iff.mp hstated.severity, settles_some_iff.mp hstated.description,
      exists_settles_getD.mp ⟨remediation, hstated.remediation, hremediation⟩,
      settles_some_iff.mp hstated.patterns⟩
  · rintro ⟨given, hholds, hstated⟩
    obtain ⟨remediation, hsettles, hremediation⟩ := exists_settles_getD.mpr hstated.remediation
    refine ⟨⟨some rule.category, some rule.severity, some rule.description, remediation,
      some rule.patterns⟩, ⟨given, hholds, ?_⟩, rfl, rfl, rfl, rfl, hremediation⟩
    exact ⟨settles_some_iff.mpr hstated.category, settles_some_iff.mpr hstated.severity,
      settles_some_iff.mpr hstated.description, hsettles, settles_some_iff.mpr hstated.patterns⟩

theorem forall₂_congr_of_mem {α β : Type} {P Q : α → β → Prop} {xs : List α} {ys : List β}
    (h : ∀ x ∈ xs, ∀ y, P x y ↔ Q x y) : List.Forall₂ P xs ys ↔ List.Forall₂ Q xs ys := by
  induction xs generalizing ys with
  | nil => simp
  | cons x xs ih =>
    obtain ⟨hx, hxs⟩ := List.forall_mem_cons.mp h
    cases ys with
    | nil => simp
    | cons y ys => rw [List.forall₂_cons, List.forall₂_cons, hx, ih hxs]

theorem distinct_of_items? {value : Value} {items : List Value} (hvalue : value.Distinct)
    (h : items? value = some items) : ∀ item ∈ items, item.Distinct := by
  cases hvalue with
  | array hitems =>
    cases h
    exact hitems
  | tables hitems =>
    cases h
    exact List.forall_mem_map.mpr hitems
  | _ => cases h

theorem settles_rules {value? : Option Value}
    (hdistinct : ∀ value, value? = some value → value.Distinct) {rules : List CustomRule} :
    Settles (readList readRule) [] value? rules ↔ StatesRules value? rules := by
  cases value? with
  | none => rfl
  | some value =>
    change readList readRule value = .ok rules ↔ _
    rw [readList, StatesRules]
    cases hitems : items? value with
    | none => simp
    | some items =>
      have hread : ∀ item ∈ items, ∀ rule : CustomRule,
          readRule item = .ok rule ↔ rule.StatedIn item := fun item hitem rule =>
        readRule_eq_ok_iff_statedIn (distinct_of_items? (hdistinct value rfl) hitems item hitem)
      simp only [Option.some.injEq, exists_eq_left']
      rw [mapM_eq_ok_iff]
      exact forall₂_congr_of_mem hread

/-- The configuration of a document is the one that it states. -/
theorem ofDocument_eq_ok_iff {document : Entries} (h : document.Distinct) {c : Config} :
    ofDocument document = .ok c ↔ c.StatedBy document := by
  have hdistinct : ∀ key value, document.lookup key = some value → value.Distinct :=
    fun _ _ hvalue => h.of_lookup hvalue
  rw [ofDocument, ← toOption_eq_some_iff, readEntries_toOption independent_fields h.keys]
  unfold fields
  constructor
  · intro h
    obtain ⟨scan, hscan, h⟩ := (takeAll_of_cons (by rfl)).mp h
    obtain ⟨output, houtput, h⟩ := (takeAll_of_cons (by rfl)).mp h
    obtain ⟨probe, hprobe, h⟩ := (takeAll_of_cons (by rfl)).mp h
    obtain ⟨rules, hrules, h⟩ := (takeAll_of_cons (by rfl)).mp h
    cases h
    exact ⟨(settles_section independent_scanFields (fun _ _ => takeAll_scanFields)
        (hdistinct _)).mp hscan,
      (settles_section independent_outputFields (fun _ _ => takeAll_outputFields)
        (hdistinct _)).mp houtput,
      (settles_section independent_probeFields (fun _ _ => takeAll_probeFields)
        (hdistinct _)).mp hprobe,
      (settles_rules (hdistinct _)).mp hrules⟩
  · rintro ⟨hscan, houtput, hprobe, hrules⟩
    refine (takeAll_of_cons (by rfl)).mpr ⟨_, (settles_section independent_scanFields
      (fun _ _ => takeAll_scanFields) (hdistinct _)).mpr hscan, ?_⟩
    refine (takeAll_of_cons (by rfl)).mpr ⟨_, (settles_section independent_outputFields
      (fun _ _ => takeAll_outputFields) (hdistinct _)).mpr houtput, ?_⟩
    refine (takeAll_of_cons (by rfl)).mpr ⟨_, (settles_section independent_probeFields
      (fun _ _ => takeAll_probeFields) (hdistinct _)).mpr hprobe, ?_⟩
    exact (takeAll_of_cons (by rfl)).mpr ⟨_, (settles_rules (hdistinct _)).mpr hrules, rfl⟩

/-! ## Keys that are no settings -/

/-- The rules of a list without the keys that are none of a rule's. -/
def knownRules : Value → Value
  | .array items => .array (items.map (knownKeys (ruleFields.map Field.key)))
  | .tables items =>
    .tables (items.map fun entries =>
      entries.filter fun e => e.1 ∈ ruleFields.map Field.key)
  | value => value

/-- The value of a key of a configuration without the keys that are no settings. -/
def knownSection (key : String) (value : Value) : Value :=
  if key = "scan" then knownKeys (scanFields.map Field.key) value
  else if key = "output" then knownKeys (outputFields.map Field.key) value
  else if key = "probe" then knownKeys (probeFields.map Field.key) value
  else if key = "rules" then knownRules value
  else value

/-- A document without the keys that are no settings. -/
def knownPart (document : Entries) : Entries :=
  (document.filter fun e => e.1 ∈ fields.map Field.key).map fun e => (e.1, knownSection e.1 e.2)

theorem items?_knownRules (value : Value) :
    items? (knownRules value) =
      (items? value).map (List.map (knownKeys (ruleFields.map Field.key))) := by
  cases value with
  | tables items =>
    simp only [knownRules, items?, List.map_map, Option.map_some]
    rfl
  | _ => rfl

theorem items?_knownKeys (keys : List String) (value : Value) :
    items? (knownKeys keys value) = items? value := by
  cases value <;> rfl

theorem readRule_knownKeys (value : Value) :
    readRule (knownKeys (ruleFields.map Field.key) value) = readRule value := by
  rw [readRule, readRule, readRecord_knownKeys, items?_knownKeys]

theorem readRules_knownRules (value : Value) :
    readList readRule (knownRules value) = readList readRule value := by
  rw [readList, readList, items?_knownRules]
  cases hitems : items? value with
  | none =>
    cases value with
    | array => cases hitems
    | tables => cases hitems
    | _ => rfl
  | some items =>
    simp only [Option.map_some, List.mapM_map, Function.comp_def, readRule_knownKeys]

/-- A document is read as if it had settings only. -/
theorem ofDocument_knownPart (document : Entries) :
    ofDocument (knownPart document) = ofDocument document := by
  rw [ofDocument, ofDocument, knownPart, readEntries_map, readEntries_filter]
  intro f hf value r
  simp only [fields, List.mem_cons, List.not_mem_nil, or_false] at hf
  rcases hf with rfl | rfl | rfl | rfl
  · simp [Field.of, knownSection, readRecord_knownKeys]
  · simp [Field.of, knownSection, readRecord_knownKeys]
  · simp [Field.of, knownSection, readRecord_knownKeys]
  · simp [Field.of, knownSection, readRules_knownRules]

end Config
end BackendAudit
