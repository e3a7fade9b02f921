import BackendAudit.Proofs.Rule.Registry
import BackendAudit.Run.Scan
import Mathlib.Data.List.ProdSigma

/-!
# The jobs of a probe

A probe has a job for each base, each endpoint and each payload, in the order of the product of
these lists, and none if one of the addresses cannot be made (`ProbeConfig.jobs_laidOut`).

* `ProbeConfig.addressesOn_eq_error_iff`: the first endpoint that cannot be asked on a base.
* `getElem?_product_eq_some_iff`: the digits of a place in a product.
* `ProbeConfig.forall₂_jobsFor`: the jobs in the order of the product.
-/

namespace BackendAudit

open Url (Address)

/-! ## Addresses that cannot be made -/

namespace ProbeConfig

variable {c : ProbeConfig} {text : String} {fault : AddressFault}

/-- A base can be asked for all endpoints. -/
def Usable (c : ProbeConfig) (text : String) : Prop :=
  ∃ base, Address.ofText text = .ok base ∧
    ∀ endpoint ∈ c.endpoints, ∃ address, base.resolve endpoint = .ok address

/-- A base is none, or the first of the endpoints that cannot be taken relative to it. -/
def FaultOn (c : ProbeConfig) (text : String) (fault : AddressFault) : Prop :=
  (∃ e, Address.ofText text = .error e ∧ fault = .base text e) ∨
    ∃ base, Address.ofText text = .ok base ∧ ∃ before endpoint after,
      c.endpoints = before ++ endpoint :: after ∧
        (∀ other ∈ before, ∃ address, base.resolve other = .ok address) ∧
          ∃ e, base.resolve endpoint = .error e ∧ fault = .endpoint endpoint base.text e

theorem endpointAddress_eq_ok_iff {base address : Address} {endpoint : String} :
    endpointAddress base endpoint = .ok address ↔ base.resolve endpoint = .ok address := by
  rw [endpointAddress]
  cases base.resolve endpoint <;> simp

theorem endpointAddress_eq_error_iff {base : Address} {endpoint : String} :
    endpointAddress base endpoint = .error fault ↔
      ∃ e, base.resolve endpoint = .error e ∧ fault = .endpoint endpoint base.text e := by
  rw [endpointAddress]
  cases base.resolve endpoint <;> simp [eq_comm]

/-- The addresses on a base are those of its endpoints. -/
theorem addressesOn_eq_ok_iff {addresses : List Address} :
    c.addressesOn text = .ok addresses ↔ ∃ base, Address.ofText text = .ok base ∧
      List.Forall₂ (fun endpoint address => base.resolve endpoint = .ok address)
        c.endpoints addresses := by
  rw [addressesOn, baseAddress]
  cases Address.ofText text with
  | error e => simp [bind, Except.bind]
  | ok base =>
    have hrow : c.endpoints.mapM (endpointAddress base) = .ok addresses ↔ _ := mapM_eq_ok_iff
    simp only [endpointAddress_eq_ok_iff] at hrow
    simpa [bind, Except.bind] using hrow

theorem exists_addressesOn_eq_ok_iff :
    (∃ addresses, c.addressesOn text = .ok addresses) ↔ c.Usable text := by
  rw [addressesOn, baseAddress, Usable]
  cases Address.ofText text with
  | error e => simp [bind, Except.bind]
  | ok base =>
    have hrow : (∃ addresses, c.endpoints.mapM (endpointAddress base) = .ok addresses) ↔ _ :=
      exists_mapM_eq_ok_iff
    simp only [endpointAddress_eq_ok_iff] at hrow
    simpa [bind, Except.bind] using hrow

theorem addressesOn_eq_error_iff : c.addressesOn text = .error fault ↔ c.FaultOn text fault := by
  rw [addressesOn, baseAddress, FaultOn]
  cases Address.ofText text with
  | error e => simp [bind, Except.bind, eq_comm]
  | ok base =>
    have hrow : c.endpoints.mapM (endpointAddress base) = .error fault ↔ _ := mapM_eq_error_iff
    simp only [endpointAddress_eq_ok_iff, endpointAddress_eq_error_iff] at hrow
    simpa [bind, Except.bind] using hrow

theorem not_usable_iff :
    ¬ c.Usable text ↔ (∃ e, Address.ofText text = .error e) ∨
      ∃ base, Address.ofText text = .ok base ∧
        ∃ endpoint ∈ c.endpoints, ∃ e, base.resolve endpoint = .error e := by
  have hresolve (base : Address) (endpoint : String) :
      (¬ ∃ address, base.resolve endpoint = .ok address) ↔
        ∃ e, base.resolve endpoint = .error e := by
    cases base.resolve endpoint <;> simp
  rw [Usable]
  cases Address.ofText text with
  | error e => simp
  | ok base => simp [← hresolve]

theorem exists_jobs_eq_ok_iff :
    (∃ jobs, c.jobs = .ok jobs) ↔ ∀ text ∈ c.baseUrls, c.Usable text := by
  simp only [← exists_addressesOn_eq_ok_iff, ← exists_mapM_eq_ok_iff, jobs, addresses]
  cases c.baseUrls.mapM c.addressesOn <;> simp [Except.map]

/-- The first fault on the bases. -/
theorem jobs_eq_error_iff :
    c.jobs = .error fault ↔ ∃ before text after, c.baseUrls = before ++ text :: after ∧
      (∀ other ∈ before, c.Usable other) ∧ c.FaultOn text fault := by
  have hjobs : c.jobs = .error fault ↔ c.baseUrls.mapM c.addressesOn = .error fault := by
    rw [jobs, addresses]
    cases c.baseUrls.mapM c.addressesOn <;> simp [Except.map]
  rw [hjobs, mapM_eq_error_iff]
  simp only [exists_addressesOn_eq_ok_iff, addressesOn_eq_error_iff]

end ProbeConfig

/-! ## Products -/

/-- A place in a product has a digit for each of the two lists. -/
theorem getElem?_product_eq_some_iff {α β : Type} {xs : List α} {ys : List β} {i : Nat}
    {z : α × β} :
    (xs ×ˢ ys)[i]? = some z ↔
      xs[i / ys.length]? = some z.1 ∧ ys[i % ys.length]? = some z.2 := by
  rcases Nat.eq_zero_or_pos ys.length with hzero | hpos
  · obtain rfl := List.eq_nil_of_length_eq_zero hzero
    simp
  obtain ⟨z₁, z₂⟩ := z
  induction xs generalizing i with
  | nil => simp
  | cons x xs ih =>
    rw [List.product_cons]
    by_cases hi : i < ys.length
    · rw [List.getElem?_append_left (by simpa using hi), List.getElem?_map,
        Nat.div_eq_of_lt hi, Nat.mod_eq_of_lt hi, List.getElem?_cons_zero]
      simp [and_comm]
    · obtain ⟨j, rfl⟩ := Nat.exists_eq_add_of_le' (Nat.le_of_not_lt hi)
      rw [List.getElem?_append_right (by simp), List.length_map, Nat.add_sub_cancel, ih,
        Nat.add_div_right j hpos, Nat.add_mod_right, List.getElem?_cons_succ]

/-- Members stay related when they are numbered, if the relation does not look at the numbers. -/
theorem forall₂_mapIdx {α β γ : Type} {R : α → β → Prop} {S : α → γ → Prop} {xs : List α}
    {ys : List β} (h : List.Forall₂ R xs ys) {f : Nat → β → γ}
    (hf : ∀ i x y, R x y → S x (f i y)) : List.Forall₂ S xs (ys.mapIdx f) := by
  induction h generalizing f with
  | nil => exact .nil
  | cons hxy _ ih =>
    rw [List.mapIdx_cons]
    exact .cons (hf 0 _ _ hxy) (ih fun i => hf (i + 1))

/-- Lists are related by way of the members in between. -/
theorem exists_forall₂_between {α β γ : Type} {R : α → β → Prop} {S : β → γ → Prop}
    {xs : List α} {zs : List γ} (h : List.Forall₂ (fun x z => ∃ y, R x y ∧ S y z) xs zs) :
    ∃ ys, List.Forall₂ R xs ys ∧ List.Forall₂ S ys zs := by
  induction h with
  | nil => exact ⟨[], .nil, .nil⟩
  | cons hxz _ ih =>
    obtain ⟨y, hxy, hyz⟩ := hxz
    obtain ⟨ys, hxs, hzs⟩ := ih
    exact ⟨y :: ys, .cons hxy hxs, .cons hyz hzs⟩

namespace ProbeConfig

/-! ## Jobs in the order of the product -/

/-- A job is that of a base, an endpoint and a payload. -/
def Asks (x : Address × String × Attack × String) (job : Job) : Prop :=
  x.1.resolve x.2.1 = .ok job.address ∧ (job.attack, job.payload) = x.2.2

variable {c : ProbeConfig} {bases : List Address} {addresses : List Address}

/-- The addresses of one base, with all payloads. -/
theorem forall₂_row {base : Address} {endpoints : List String} {row : List Address}
    (h : List.Forall₂ (fun endpoint address => base.resolve endpoint = .ok address) endpoints row)
    (attacks : List (Attack × String)) :
    List.Forall₂ (fun x y => x.1.resolve x.2.1 = .ok y.1 ∧ y.2 = x.2.2)
      ((endpoints ×ˢ attacks).map (Prod.mk base))
      (row.flatMap fun address => attacks.map fun attack => (address, attack)) := by
  induction h with
  | nil => simp
  | cons hresolve _ ih =>
    rw [List.product_cons, List.map_append, List.flatMap_cons]
    refine List.rel_append ?_ ih
    rw [List.map_map, List.forall₂_map_left_iff, List.forall₂_map_right_iff, List.forall₂_same]
    exact fun attack _ => ⟨hresolve, rfl⟩

/-- The jobs are those of the product of bases, endpoints and payloads, in order. -/
theorem forall₂_jobsFor {rows : List (List Address)}
    (h : List.Forall₂ (fun base row =>
      List.Forall₂ (fun endpoint address => base.resolve endpoint = .ok address)
        c.endpoints row) bases rows) :
    List.Forall₂ Asks (bases ×ˢ (c.endpoints ×ˢ c.attacks)) (c.jobsFor rows.flatten) := by
  have hpairs : List.Forall₂ (fun x y => x.1.resolve x.2.1 = .ok y.1 ∧ y.2 = x.2.2)
      (bases ×ˢ (c.endpoints ×ˢ c.attacks))
      (rows.flatten.flatMap fun address => c.attacks.map fun attack => (address, attack)) := by
    induction h with
    | nil => simp
    | cons hrow _ ih =>
      rw [List.product_cons, List.flatten_cons, List.flatMap_append]
      exact List.rel_append (forall₂_row hrow c.attacks) ih
  rw [jobsFor]
  exact forall₂_mapIdx hpairs fun _ _ _ hxy => hxy

theorem attacks_getElem?_eq_some_iff {i : Nat} {attack : Attack} {payload : String} :
    c.attacks[i]? = some (attack, payload) ↔
      (i < c.sqlPayloads.length ∧ attack = .sqlInjection ∧ c.sqlPayloads[i]? = some payload) ∨
        c.sqlPayloads.length ≤ i ∧ attack = .crossSiteScripting ∧
          c.xssPayloads[i - c.sqlPayloads.length]? = some payload := by
  rw [attacks]
  by_cases hi : i < c.sqlPayloads.length
  · rw [List.getElem?_append_left (by simpa using hi), List.getElem?_map, Option.map_eq_some_iff]
    constructor
    · rintro ⟨_, hpayload, heq⟩
      cases heq
      exact .inl ⟨hi, rfl, hpayload⟩
    · rintro (⟨-, rfl, hpayload⟩ | ⟨hle, -⟩)
      · exact ⟨payload, hpayload, rfl⟩
      · exact absurd hi (Nat.not_lt.mpr hle)
  · rw [List.getElem?_append_right (by simpa using hi), List.getElem?_map, List.length_map,
      Option.map_eq_some_iff]
    constructor
    · rintro ⟨_, hpayload, heq⟩
      cases heq
      exact .inr ⟨Nat.le_of_not_lt hi, rfl, hpayload⟩
    · rintro (⟨hlt, -⟩ | ⟨-, rfl, hpayload⟩)
      · exact absurd hlt hi
      · exact ⟨payload, hpayload, rfl⟩

/-- How many payloads there are for each endpoint. -/
def payloadCount (c : ProbeConfig) : Nat := c.sqlPayloads.length + c.xssPayloads.length

/-- The job with a number: its digits tell the base, the endpoint and the payload. -/
structure Numbered (c : ProbeConfig) (bases : List Address) (i : Nat) (job : Job) : Prop where
  index : job.index = i
  address : ∃ base endpoint,
    bases[i / (c.endpoints.length * c.payloadCount)]? = some base ∧
      c.endpoints[i / c.payloadCount % c.endpoints.length]? = some endpoint ∧
        base.resolve endpoint = .ok job.address
  payload :
    (i % c.payloadCount < c.sqlPayloads.length ∧ job.attack = .sqlInjection ∧
        c.sqlPayloads[i % c.payloadCount]? = some job.payload) ∨
      c.sqlPayloads.length ≤ i % c.payloadCount ∧ job.attack = .crossSiteScripting ∧
        c.xssPayloads[i % c.payloadCount - c.sqlPayloads.length]? = some job.payload

theorem numbered_of_asks {i : Nat} {x : Address × String × Attack × String} {job : Job}
    (hx : (bases ×ˢ (c.endpoints ×ˢ c.attacks))[i]? = some x) (hasks : Asks x job)
    (hindex : job.index = i) : c.Numbered bases i job := by
  have hcount : c.attacks.length = c.payloadCount := by simp [attacks, payloadCount]
  obtain ⟨hbase, hrest⟩ := getElem?_product_eq_some_iff.mp hx
  obtain ⟨hendpoint, hattack⟩ := getElem?_product_eq_some_iff.mp hrest
  rw [List.length_product, hcount] at hbase hendpoint hattack
  rw [Nat.mod_mul_left_div_self] at hendpoint
  rw [Nat.mod_mul_left_mod, ← hasks.2] at hattack
  exact ⟨hindex, ⟨_, _, hbase, hendpoint, hasks.1⟩, attacks_getElem?_eq_some_iff.mp hattack⟩

/-- The jobs on some bases: the product of bases, endpoints and payloads in order, each numbered by
its place. -/
structure LaidOut (c : ProbeConfig) (bases : List Address) (jobs : List Job) : Prop where
  product : List.Forall₂ Asks (bases ×ˢ (c.endpoints ×ˢ c.attacks)) jobs
  count : jobs.length = c.baseUrls.length * c.endpoints.length * c.payloadCount
  numbered : ∀ i < jobs.length, ∃ job, jobs[i]? = some job ∧ c.Numbered bases i job

theorem index_of_jobsFor {i : Nat} {job : Job} (h : (c.jobsFor addresses)[i]? = some job) :
    job.index = i := by
  rw [jobsFor, List.getElem?_mapIdx, Option.map_eq_some_iff] at h
  obtain ⟨_, -, rfl⟩ := h
  rfl

theorem exists_laidOut {jobs : List Job} (h : c.jobs = .ok jobs) :
    ∃ bases, List.Forall₂ (fun text base => Address.ofText text = .ok base) c.baseUrls bases ∧
      c.LaidOut bases jobs := by
  rw [ProbeConfig.jobs, ProbeConfig.addresses] at h
  cases hrows : c.baseUrls.mapM c.addressesOn with
  | error e =>
    rw [hrows] at h
    cases h
  | ok rows =>
    rw [hrows] at h
    cases h
    have hread := mapM_eq_ok_iff.mp hrows
    simp only [addressesOn_eq_ok_iff] at hread
    obtain ⟨bases, hbases, hbelow⟩ := exists_forall₂_between hread
    have hproduct := forall₂_jobsFor hbelow
    refine ⟨bases, hbases, hproduct, ?_, fun i hi => ?_⟩
    · rw [← hproduct.length_eq, List.length_product, List.length_product, ← hbases.length_eq,
        Nat.mul_assoc]
      simp [attacks, payloadCount]
    · have hi' := hi
      rw [← hproduct.length_eq] at hi'
      have hjob := List.getElem?_eq_getElem hi
      have hasks := (List.forall₂_iff_get.mp hproduct).2 i hi' hi
      exact ⟨_, hjob, numbered_of_asks (List.getElem?_eq_getElem hi') hasks (index_of_jobsFor hjob)⟩

/-- A probe is refused just when one of its bases is no address or an endpoint cannot be taken
relative to one, and the first of these is told, as a fault of the configuration.  Otherwise its
jobs are laid out. -/
theorem jobs_laidOut (c : ProbeConfig) :
    ((∃ fault, c.jobs = .error fault) ↔
        (∃ text ∈ c.baseUrls, ∃ e, Address.ofText text = .error e) ∨
          ∃ text ∈ c.baseUrls, ∃ base, Address.ofText text = .ok base ∧
            ∃ endpoint ∈ c.endpoints, ∃ e, base.resolve endpoint = .error e) ∧
      (∀ fault, c.jobs = .error fault ↔ ∃ before text after, c.baseUrls = before ++ text :: after ∧
        (∀ other ∈ before, c.Usable other) ∧ c.FaultOn text fault) ∧
      (∀ network fault, c.enabled = true → c.jobs = .error fault →
        c.probe? network = .error (.address fault) ∧
          (AuditError.address fault).kind = .config ∧
          ∀ w, (AuditError.address fault).message w = "Configuration error: " ++ fault.message) ∧
      ∀ jobs, c.jobs = .ok jobs → ∃ bases,
        List.Forall₂ (fun text base => Address.ofText text = .ok base) c.baseUrls bases ∧
          c.LaidOut bases jobs := by
  refine ⟨?refused, fun fault => jobs_eq_error_iff, ?told, fun jobs => exists_laidOut⟩
  case refused =>
    have herror : (∃ fault, c.jobs = .error fault) ↔ ¬ ∃ jobs, c.jobs = .ok jobs := by
      cases c.jobs <;> simp
    rw [herror, exists_jobs_eq_ok_iff]
    simp only [not_forall, exists_prop, not_usable_iff, and_or_left, exists_or]
  case told =>
    intro network fault henabled hjobs
    rw [probe?, henabled, hjobs]
    exact ⟨rfl, rfl, fun _ => rfl⟩

end ProbeConfig

end BackendAudit
