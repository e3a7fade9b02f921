import BackendAudit.Config.Load
import BackendAudit.Proofs.Probe.Pool
import Mathlib.Data.List.Nodup

/-!
# What a probe tells and reports

What is reported depends on which jobs have ended, and not on the order in which they did:
it is what the job list has for them, in its order (`Completion.findings_eq_filter`).  Of
each job that fails one event tells, and of the deadline the last one, if it ends the run
(`runProbe_answers`).  There is no answer at all where the clock cannot tell the deadline
(`runProbe_panics`).
-/

namespace BackendAudit

/-! ## What comes of a job -/

namespace Network

/-- Whether a job brings something to light: its request can be sent and is answered, and
the response shows it. -/
def hits (network : Network) (job : Job) : Bool :=
  job.request.isSendable && (network.response job).any job.isHit

/-- Why a job fails, if it does: its request cannot be sent, or is not answered. -/
def fault? (network : Network) (job : Job) : Option ExchangeFault :=
  if job.request.isSendable then
    if (network.response job).isNone then some .unanswered else none
  else some .unsendable

/-- What is told of a job that fails: its address, and why. -/
def skipEvent? (network : Network) (job : Job) : Option Event :=
  (network.fault? job).map fun fault => .targetSkipped job.address.text (job.faultText fault)

theorem outcome_eq (network : Network) (job : Job) :
    job.outcome (network.response job) =
      match network.fault? job with
      | some fault => .error fault
      | none => .ok (if network.hits job then some job.finding else none) := by
  cases hsendable : job.request.isSendable with
  | false => simp [Job.outcome, fault?, hsendable]
  | true =>
    cases hresponse : network.response job with
    | none => simp [Job.outcome, fault?, hsendable, hresponse]
    | some r => simp [Job.outcome, fault?, hits, hsendable, hresponse]

theorem hits_eq_false (network : Network) {job : Job} {fault : ExchangeFault}
    (h : network.fault? job = some fault) : network.hits job = false := by
  rw [fault?] at h
  cases hsendable : job.request.isSendable with
  | false => simp [hits, hsendable]
  | true =>
    cases hresponse : network.response job with
    | none => simp [hits, hresponse]
    | some r => simp [hsendable, hresponse] at h

end Network

/-- No failing job is told of as the deadline is. -/
theorem skipEvent_ne_deadlineEvent (job : Job) (fault : ExchangeFault) :
    Event.targetSkipped job.address.text (job.faultText fault) ≠ deadlineEvent := by
  intro h
  rw [deadlineEvent, Event.targetSkipped.injEq] at h
  have hfirst := congrArg (fun s : String => s.toList.head?) h.2
  cases fault <;> simp [Job.faultText, ExchangeFault.message] at hfirst

/-! ## The order of jobs -/

/-- The jobs of a configuration are numbered in their order. -/
theorem ProbeConfig.jobs_ascending {c : ProbeConfig} {jobs : List Job} (h : c.jobs = .ok jobs) :
    jobs.Pairwise fun a b => a.index < b.index := by
  rw [ProbeConfig.jobs] at h
  cases haddresses : c.addresses with
  | error fault =>
    rw [haddresses] at h
    cases h
  | ok addresses =>
    rw [haddresses] at h
    cases h
    rw [jobsFor, List.pairwise_iff_getElem]
    intro i j hi hj hij
    simpa using hij

section Ascending

variable {jobs : List Job} (h : jobs.Pairwise fun a b => a.index < b.index)

include h

/-- Numbered jobs are different ones, with different numbers. -/
theorem nodup_indices : (jobs.map Job.index).Nodup :=
  List.pairwise_map.mpr (h.imp Nat.ne_of_lt)

theorem nodup_of_ascending : jobs.Nodup := (nodup_indices h).of_map

theorem eq_of_index_eq {a b : Job} (ha : a ∈ jobs) (hb : b ∈ jobs) (hab : a.index = b.index) :
    a = b :=
  List.inj_on_of_nodup_map (nodup_indices h) ha hb hab

end Ascending

/-- What is kept of a job that has brought something to light. -/
def Job.found (job : Job) : Job × Finding := (job, job.finding)

/-- Sorting by number puts what was found in any order into that of the jobs. -/
theorem mergeSort_found {found reported : List Job}
    (h : reported.Pairwise fun a b => a.index < b.index) (hperm : found.Perm reported) :
    (found.map Job.found).mergeSort (fun a b => a.1.index ≤ b.1.index) =
      reported.map Job.found := by
  have hsorted : ((found.map Job.found).mergeSort fun a b => a.1.index ≤ b.1.index).Pairwise
      fun a b => a.1.index ≤ b.1.index := by
    refine List.Pairwise.imp of_decide_eq_true (List.pairwise_mergeSort ?_ ?_ _)
    · intro a b c hab hbc
      exact decide_eq_true (Nat.le_trans (of_decide_eq_true hab) (of_decide_eq_true hbc))
    · intro a b
      simpa using Nat.le_total a.1.index b.1.index
  have hreported : (reported.map Job.found).Pairwise fun a b => a.1.index ≤ b.1.index :=
    List.pairwise_map.mpr (h.imp Nat.le_of_lt)
  refine List.Perm.eq_of_pairwise ?_ hsorted hreported
    ((List.mergeSort_perm _ _).trans (hperm.map _))
  intro a b ha hb hab hba
  obtain ⟨job, hjob, rfl⟩ := List.mem_map.mp (List.mem_mergeSort.mp ha)
  obtain ⟨job', hjob', rfl⟩ := List.mem_map.mp hb
  rw [eq_of_index_eq h (hperm.mem_iff.mp hjob) hjob' (Nat.le_antisymm hab hba)]

/-! ## Findings and events of jobs that have ended -/

namespace Completion

variable (network : Network) (completion : Completion)

theorem hits_eq_map :
    completion.hits network = (completion.jobs.filter network.hits).map Job.found := by
  rw [hits]
  induction completion.jobs with
  | nil => rfl
  | cons job rest ih =>
    rw [List.filterMap_cons, List.filter_cons, ih, network.outcome_eq]
    cases hfault : network.fault? job with
    | some fault => simp [network.hits_eq_false hfault]
    | none => cases hhits : network.hits job <;> simp [Job.found]

/-- Every failing job is told of once, as it ends. -/
theorem skipEvents_eq_filterMap :
    completion.skipEvents network = completion.jobs.filterMap network.skipEvent? := by
  refine congrArg (fun f => completion.jobs.filterMap f) (funext fun job => ?_)
  rw [network.outcome_eq, Network.skipEvent?]
  cases network.fault? job <;> rfl

/-- What is reported is what the job list has for the jobs that have ended, in its order. -/
theorem findings_eq_filter {jobs : List Job}
    (hjobs : jobs.Pairwise fun a b => a.index < b.index) (hnodup : completion.jobs.Nodup)
    (hsubset : completion.jobs ⊆ jobs) :
    completion.findings network =
      (jobs.filter fun job => completion.jobs.contains job && network.hits job).map
        Job.finding := by
  have hperm : (completion.jobs.filter network.hits).Perm
      (jobs.filter fun job => completion.jobs.contains job && network.hits job) := by
    refine (List.perm_ext_iff_of_nodup (hnodup.filter _)
      ((nodup_of_ascending hjobs).filter _)).mpr fun job => ?_
    simp only [List.mem_filter, Bool.and_eq_true, List.contains_iff_mem]
    constructor
    · rintro ⟨hended, hhit⟩
      exact ⟨hsubset hended, hended, hhit⟩
    · rintro ⟨_, hended, hhit⟩
      exact ⟨hended, hhit⟩
  rw [findings, hits_eq_map, mergeSort_found (hjobs.filter _) hperm, List.map_map]
  rfl

end Completion

/-! ## Probes -/

/-- What a probe tells and reports when these jobs have ended, in this order, and the others
are left in a pool. -/
structure Answers (network : Network) (limit : Nat) (jobs ended : List Job) (left : Pool)
    (told : Traced (List Finding)) : Prop where
  /-- The jobs that were begun are the first ones, and there is room for those under way. -/
  accounts : Pool.Accounts limit jobs ended left
  /-- No job ends twice, or is under way again. -/
  once : (ended ++ left.underWay).Nodup
  /-- The findings are those of the jobs that have ended, in the order of the job list. -/
  findings : told.result =
    (jobs.filter fun job => ended.contains job && network.hits job).map Job.finding
  /-- Each failing job is told of as it ends, and the deadline at last, if jobs are left. -/
  events : told.events =
    ended.filterMap network.skipEvent? ++ if left.underWay.isEmpty then [] else [deadlineEvent]
  deadline_once : told.events.count deadlineEvent ≤ 1
  /-- The deadline is told of just when it comes before all jobs have ended. -/
  deadline_told : deadlineEvent ∈ told.events ↔ ∃ n < jobs.length, network.turn n = .deadline
  /-- Before the deadline all jobs end, and all that they bring to light is reported. -/
  in_time : (∀ n < jobs.length, network.turn n ≠ .deadline) →
    ended.Perm jobs ∧ told.result = (jobs.filter network.hits).map Job.finding

/-- No job that fails is told of as the deadline is. -/
theorem deadlineEvent_not_mem (network : Network) (ended : List Job) :
    deadlineEvent ∉ ended.filterMap network.skipEvent? := by
  intro hmem
  obtain ⟨job, _, hskip⟩ := List.mem_filterMap.mp hmem
  obtain ⟨fault, _, hevent⟩ := Option.map_eq_some_iff.mp hskip
  exact skipEvent_ne_deadlineEvent job fault hevent

/-- A network whose turns lead to a pool that can be reached has its answers. -/
theorem answers_of_leads {network : Network} {limit : Nat} {jobs ended : List Job} {left : Pool}
    (hjobs : jobs.Pairwise fun a b => a.index < b.index) (hlimit : 1 ≤ limit)
    (hreaches : Pool.Reaches limit ⟨jobs, []⟩ ended left)
    (hleads : Pool.Leads limit network.turn 0 ⟨jobs, []⟩ ended left) :
    Answers network limit jobs ended left (probeJobs network limit jobs) := by
  obtain ⟨hcompletion, hbefore, hafter⟩ := hleads
  simp only [Nat.zero_add] at hbefore hafter
  have haccounts : Pool.Accounts limit jobs ended left :=
    hreaches.accounts (Pool.Accounts.start limit jobs)
  have honce := haccounts.nodup (nodup_of_ascending hjobs)
  have hall (hempty : left.underWay = []) : ended.Perm jobs :=
    haccounts.perm hempty (hreaches.waiting_eq_nil (by rw [hempty]; exact hlimit))
  have hfindings : (probeJobs network limit jobs).result =
      (jobs.filter fun job => ended.contains job && network.hits job).map Job.finding := by
    rw [probeJobs, hcompletion]
    exact Completion.findings_eq_filter network _ hjobs (List.nodup_append.mp honce).1
      haccounts.subset
  have hevents : (probeJobs network limit jobs).events = ended.filterMap network.skipEvent? ++
      if left.underWay.isEmpty then [] else [deadlineEvent] := by
    rw [probeJobs, hcompletion]
    simp only [Completion.events, Completion.skipEvents_eq_filterMap]
    cases left.underWay.isEmpty <;> rfl
  have hnot := deadlineEvent_not_mem network ended
  constructor
  case accounts => exact haccounts
  case once => exact honce
  case findings => exact hfindings
  case events => exact hevents
  case deadline_once =>
    rw [hevents, List.count_append, List.count_eq_zero.mpr hnot]
    cases left.underWay.isEmpty <;> simp
  case deadline_told =>
    have htold : deadlineEvent ∈ (probeJobs network limit jobs).events ↔ left.underWay ≠ [] := by
      rw [hevents, List.mem_append, or_iff_right hnot]
      simp
    rw [htold]
    constructor
    · intro hleft
      exact ⟨_, haccounts.length_lt hleft, hafter hleft⟩
    · rintro ⟨n, hn, hturn⟩ hempty
      rw [← (hall hempty).length_eq] at hn
      exact hbefore n hn hturn
  case in_time =>
    intro hturns
    have hempty : left.underWay = [] := by
      by_contra hleft
      exact hturns _ (haccounts.length_lt hleft) (hafter hleft)
    refine ⟨hall hempty, hfindings.trans (congrArg (List.map Job.finding) ?_)⟩
    refine List.filter_congr fun job hjob => ?_
    have hended : ended.contains job = true :=
      List.contains_iff_mem.mpr ((hall hempty).mem_iff.mpr hjob)
    rw [hended, Bool.true_and]

/-- What a probe tells and reports, if the clock can tell when its time is over.  Whatever
the network does, jobs end in an order that is possible, and the answers are for these; and
whatever is possible comes of some turns, for any responses.  If the clock cannot tell it,
there are no answers. -/
theorem runProbe_answers {c : ProbeConfig} {jobs : List Job} (hjobs : c.jobs = .ok jobs)
    (hlimit : 1 ≤ c.concurrency) :
    (∀ network : Network, network.clock + c.runTimeout ≤ lastSecond → ∃ ended left told,
      Pool.Reaches c.concurrency ⟨jobs, []⟩ ended left ∧
        runProbe network c jobs = .returned told ∧
        Answers network c.concurrency jobs ended left told) ∧
      (∀ response clock ended left, clock + c.runTimeout ≤ lastSecond →
        Pool.Reaches c.concurrency ⟨jobs, []⟩ ended left → ∃ turn told,
          runProbe ⟨response, turn, clock⟩ c jobs = .returned told ∧
          Answers ⟨response, turn, clock⟩ c.concurrency jobs ended left told) ∧
      ∀ network : Network, lastSecond < network.clock + c.runTimeout →
        runProbe network c jobs = .panicked := by
  have hascending := ProbeConfig.jobs_ascending hjobs
  have hreturned (network : Network) (hclock : network.clock + c.runTimeout ≤ lastSecond) :
      runProbe network c jobs = .returned (probeJobs network c.concurrency jobs) :=
    if_neg (Nat.not_lt.mpr hclock)
  refine ⟨?possible, ?every, fun network hlate => if_pos hlate⟩
  case possible =>
    intro network hclock
    obtain ⟨ended, left, hreaches, hleads⟩ :=
      Pool.exists_leads hlimit network.turn 0 ⟨jobs, []⟩
    exact ⟨ended, left, _, hreaches, hreturned network hclock,
      answers_of_leads hascending hlimit hreaches hleads⟩
  case every =>
    intro response clock ended left hclock hreaches
    obtain ⟨turn, hleads⟩ := Pool.exists_turn_of_reaches hlimit hreaches 0
    exact ⟨turn, _, hreturned ⟨response, turn, clock⟩ hclock,
      answers_of_leads hascending hlimit hreaches hleads⟩

/-- One endpoint and a payload of each kind, both of which may be under way at a time. -/
def loopbackProbe : ProbeConfig where
  baseUrls := ["http://[::1]"]
  endpoints := ["/a"]
  sqlPayloads := ["x"]
  xssPayloads := ["y"]
  concurrency := 2

theorem runProbe_answers_loopback :
    ∃ jobs, loopbackProbe.jobs = .ok jobs ∧ jobs.length = 2 ∧ 1 ≤ loopbackProbe.concurrency ∧
      ∀ network : Network, network.clock + loopbackProbe.runTimeout ≤ lastSecond →
        ∃ ended left told, Pool.Reaches 2 ⟨jobs, []⟩ ended left ∧
          runProbe network loopbackProbe jobs = .returned told ∧
          Answers network 2 jobs ended left told := by
  let address : Url.Address :=
    { scheme := "http".toList, host := some "[::1]".toList, path := .segments [['a']] }
  have hjobs : loopbackProbe.jobs =
      .ok [⟨0, address, .sqlInjection, "x"⟩, ⟨1, address, .crossSiteScripting, "y"⟩] := by rfl
  have hlimit : 1 ≤ loopbackProbe.concurrency := by decide
  exact ⟨_, hjobs, rfl, hlimit, (runProbe_answers hjobs hlimit).1⟩

/-- No endpoints, and the longest time that a document can state. -/
def endlessProbe : ProbeConfig where
  baseUrls := []
  endpoints := []
  sqlPayloads := []
  xssPayloads := []
  concurrency := 1
  requestTimeout := 5
  runTimeout := 9223372036854775807

/-- The configuration is accepted, and has no jobs, so that there is nothing to be told or
found; but once the clock has told a second, there are no answers. -/
theorem runProbe_panics :
    ({ probe := endlessProbe } : Config).check = .ok { probe := endlessProbe } ∧
      endlessProbe.jobs = .ok [] ∧ 1 ≤ endlessProbe.concurrency ∧
      ∀ network : Network, 0 < network.clock →
        probeJobs network endlessProbe.concurrency [] = ⟨[], []⟩ ∧
          runProbe network endlessProbe [] = .panicked := by
  refine ⟨by rfl, by rfl, by decide, fun network hclock => ⟨?_, ?_⟩⟩
  · have hnone : Pool.complete endlessProbe.concurrency network.turn 0 ⟨[], []⟩ = ⟨[], false⟩ := by
      rw [Pool.complete]
      exact dif_pos rfl
    simp [probeJobs, hnone, Completion.events, Completion.findings, Completion.hits,
      Completion.skipEvents]
  · rw [runProbe, if_pos]
    simp only [endlessProbe, lastSecond]
    omega

end BackendAudit
