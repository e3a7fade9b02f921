import BackendAudit.Probe.Pool
import Mathlib.Data.List.Perm.Basic

/-!
# The jobs of a pool

`Pool.Reaches` is what can happen while jobs are under way, in any order: whenever there is
room the next job is begun, and any job under way may come to its end.

* Every pool that is reached accounts for its jobs (`Pool.Reaches.accounts`).  Those begun
  are the first ones of the list, and each of them has ended once or is under way.
* The turns of a network lead to just these pools, where no job is left or the deadline
  ends the run (`Pool.exists_leads`, `Pool.exists_turn_of_reaches`).
-/

namespace BackendAudit.Pool

variable {limit : Nat}

/-- A pool that is reached when these jobs have come to their end, in this order. -/
inductive Reaches (limit : Nat) : Pool → List Job → Pool → Prop where
  /-- No job has ended, and there is no room left for another one. -/
  | here (p : Pool) : Reaches limit p [] (p.fill limit)
  /-- A job under way comes to its end. -/
  | ends {p left : Pool} {ended : List Job} (place : Nat)
      (h : place < (p.fill limit).underWay.length) :
      Reaches limit ⟨(p.fill limit).waiting, (p.fill limit).underWay.eraseIdx place⟩ ended left →
        Reaches limit p ((p.fill limit).underWay[place] :: ended) left

/-! ## What a pool accounts for -/

/-- A pool accounts for the jobs of a list, when these have ended: jobs are begun in the
order of the list, each that was begun has ended or is under way, and no more are under way
than there is room for. -/
structure Accounts (limit : Nat) (jobs ended : List Job) (p : Pool) : Prop where
  begun : ∃ begun, jobs = begun ++ p.waiting ∧ begun.Perm (ended ++ p.underWay)
  limited : p.underWay.length ≤ limit

namespace Accounts

variable {jobs ended : List Job} {p : Pool}

/-- Before anything happens all jobs are waiting. -/
theorem start (limit : Nat) (jobs : List Job) : Accounts limit jobs [] ⟨jobs, []⟩ where
  begun := ⟨[], rfl, .nil⟩
  limited := Nat.zero_le limit

/-- Jobs that are begun go from the front of those waiting to those under way. -/
theorem fill (h : Accounts limit jobs ended p) : Accounts limit jobs ended (p.fill limit) := by
  obtain ⟨⟨begun, hjobs, hperm⟩, hlimited⟩ := h
  constructor
  · refine ⟨begun ++ p.waiting.take (limit - p.underWay.length), ?_, ?_⟩
    · rw [Pool.fill, List.append_assoc, List.take_append_drop, hjobs]
    · rw [Pool.fill, ← List.append_assoc]
      exact hperm.append_right _
  · simp only [Pool.fill, List.length_append, List.length_take]
    omega

/-- A job that comes to its end is no longer under way. -/
theorem ends (h : Accounts limit jobs ended p) {place : Nat} (hplace : place < p.underWay.length) :
    Accounts limit jobs (ended ++ [p.underWay[place]])
      ⟨p.waiting, p.underWay.eraseIdx place⟩ := by
  obtain ⟨⟨begun, hjobs, hperm⟩, hlimited⟩ := h
  constructor
  · refine ⟨begun, hjobs, hperm.trans ?_⟩
    rw [List.append_assoc, List.singleton_append]
    exact (List.getElem_cons_eraseIdx_perm hplace).symm.append_left ended
  · have hlength := List.length_eraseIdx_le p.underWay place
    exact Nat.le_trans hlength hlimited

/-- No job is begun twice. -/
theorem nodup (h : Accounts limit jobs ended p) (hjobs : jobs.Nodup) :
    (ended ++ p.underWay).Nodup := by
  obtain ⟨begun, rfl, hperm⟩ := h.begun
  exact hperm.nodup_iff.mp (List.nodup_append.mp hjobs).1

theorem subset (h : Accounts limit jobs ended p) : ended ⊆ jobs := by
  obtain ⟨begun, rfl, hperm⟩ := h.begun
  intro job hjob
  exact List.mem_append_left _ (hperm.mem_iff.mpr (List.mem_append_left _ hjob))

/-- All jobs have ended when none is under way or waiting. -/
theorem perm (h : Accounts limit jobs ended p) (hunderWay : p.underWay = [])
    (hwaiting : p.waiting = []) : ended.Perm jobs := by
  obtain ⟨begun, rfl, hperm⟩ := h.begun
  rw [hunderWay, List.append_nil] at hperm
  rw [hwaiting, List.append_nil]
  exact hperm.symm

/-- Fewer jobs have ended while some are under way. -/
theorem length_lt (h : Accounts limit jobs ended p) (hunderWay : p.underWay ≠ []) :
    ended.length < jobs.length := by
  obtain ⟨begun, rfl, hperm⟩ := h.begun
  have hlength : begun.length = ended.length + p.underWay.length := by
    rw [hperm.length_eq, List.length_append]
  have hpos : 0 < p.underWay.length := List.length_pos_iff.mpr hunderWay
  rw [List.length_append]
  omega

end Accounts

/-- Every pool that is reached accounts for the jobs. -/
theorem Reaches.accounts {jobs before ended : List Job} {p left : Pool}
    (h : Reaches limit p ended left) (hp : Accounts limit jobs before p) :
    Accounts limit jobs (before ++ ended) left := by
  induction h generalizing before with
  | here p =>
    rw [List.append_nil]
    exact hp.fill
  | ends place hplace _ ih =>
    have hnext := ih (hp.fill.ends hplace)
    rwa [List.append_assoc, List.singleton_append] at hnext

/-- While there is room, no job is waiting. -/
theorem waiting_fill {p : Pool} (h : (p.fill limit).underWay.length < limit) :
    (p.fill limit).waiting = [] := by
  simp only [fill, List.length_append, List.length_take] at h ⊢
  rw [List.drop_eq_nil_iff]
  omega

/-- A pool that is reached is full, or no job is waiting. -/
theorem Reaches.waiting_eq_nil {p left : Pool} {ended : List Job} (h : Reaches limit p ended left)
    (hroom : left.underWay.length < limit) : left.waiting = [] := by
  induction h with
  | here p => exact waiting_fill hroom
  | ends place hplace _ ih => exact ih hroom

/-! ## The turns of a network -/

section Turns

variable {turn turn' : Nat → Turn} {n : Nat} {p left : Pool} {ended : List Job}

/-- Without any job there is nothing to wait for. -/
theorem complete_of_empty (hlimit : 1 ≤ limit) (h : (p.fill limit).underWay = []) :
    complete limit turn n p = ⟨[], false⟩ := by
  have hne : (limit == 0) = false := by
    simp
    omega
  rw [complete, dif_pos (by simp [h]), hne]

theorem complete_of_deadline (h : (p.fill limit).underWay ≠ []) (hturn : turn n = .deadline) :
    complete limit turn n p = ⟨[], true⟩ := by
  have hlength : (p.fill limit).underWay.length ≠ 0 := by simpa using h
  rw [complete, dif_neg hlength, hturn]

/-- The turn of a job: places go around among those under way. -/
theorem complete_of_completes {place i : Nat} (hi : i < (p.fill limit).underWay.length)
    (hplace : i = place % (p.fill limit).underWay.length) (hturn : turn n = .completes place) :
    complete limit turn n p =
      let after := complete limit turn (n + 1)
        ⟨(p.fill limit).waiting, (p.fill limit).underWay.eraseIdx i⟩
      ⟨(p.fill limit).underWay[i] :: after.jobs, after.timedOut⟩ := by
  subst hplace
  rw [complete, dif_neg (Nat.ne_of_gt (Nat.zero_lt_of_lt hi)), hturn]

/-- The turns before a pool do not count for what comes of it. -/
theorem complete_congr (h : ∀ i, n ≤ i → turn i = turn' i) :
    complete limit turn n p = complete limit turn' n p := by
  induction n, p using complete.induct limit turn with
  | case1 n p hempty => rw [complete, complete, dif_pos hempty, dif_pos hempty]
  | case2 n p hbusy hturn =>
    have hturn' : turn' n = .deadline := (h n (Nat.le_refl n)).symm.trans hturn
    rw [complete, complete, dif_neg hbusy, dif_neg hbusy, hturn, hturn']
  | case3 n p hbusy place hturn jobs inside ih =>
    have hturn' : turn' n = .completes place := (h n (Nat.le_refl n)).symm.trans hturn
    have ih := ih fun i hi => h i (by omega)
    rw [complete, complete, dif_neg hbusy, dif_neg hbusy, hturn, hturn']
    simp only [jobs] at ih
    simp only [ih]

/-- From a pool the turns of a network end these jobs and leave another pool.  They go on
until no job is left, or until the first turn at which the deadline comes. -/
structure Leads (limit : Nat) (turn : Nat → Turn) (n : Nat) (p : Pool) (ended : List Job)
    (left : Pool) : Prop where
  completion : complete limit turn n p = ⟨ended, !left.underWay.isEmpty⟩
  before : ∀ i < ended.length, turn (n + i) ≠ .deadline
  after : left.underWay ≠ [] → turn (n + ended.length) = .deadline

namespace Leads

theorem of_empty (hlimit : 1 ≤ limit) (h : (p.fill limit).underWay = []) :
    Leads limit turn n p [] (p.fill limit) where
  completion := by
    rw [complete_of_empty hlimit h, h]
    rfl
  before i hi := absurd hi (Nat.not_lt_zero i)
  after hleft := absurd h hleft

theorem of_deadline (h : (p.fill limit).underWay ≠ []) (hturn : turn n = .deadline) :
    Leads limit turn n p [] (p.fill limit) where
  completion := by
    rw [complete_of_deadline h hturn, List.isEmpty_eq_false_iff.mpr h]
    rfl
  before i hi := absurd hi (Nat.not_lt_zero i)
  after _ := hturn

/-- A job comes to its end first. -/
theorem ends {place i : Nat} (hi : i < (p.fill limit).underWay.length)
    (hplace : i = place % (p.fill limit).underWay.length) (hturn : turn n = .completes place)
    (h : Leads limit turn (n + 1)
      ⟨(p.fill limit).waiting, (p.fill limit).underWay.eraseIdx i⟩ ended left) :
    Leads limit turn n p ((p.fill limit).underWay[i] :: ended) left where
  completion := by rw [complete_of_completes hi hplace hturn, h.completion]
  before j hj := by
    cases j with
    | zero =>
      rw [Nat.add_zero, hturn]
      exact Turn.noConfusion
    | succ j =>
      have hbefore := h.before j (Nat.lt_of_succ_lt_succ hj)
      rwa [Nat.add_assoc, Nat.add_comm 1] at hbefore
  after hleft := by
    have hafter := h.after hleft
    rwa [Nat.add_assoc, Nat.add_comm 1] at hafter

theorem congr (hturns : ∀ i, n ≤ i → turn i = turn' i) (h : Leads limit turn n p ended left) :
    Leads limit turn' n p ended left where
  completion := (complete_congr hturns).symm.trans h.completion
  before i hi := by
    rw [← hturns _ (Nat.le_add_right n i)]
    exact h.before i hi
  after hleft := by
    rw [← hturns _ (Nat.le_add_right n _)]
    exact h.after hleft

end Leads

/-- The turns of a network lead to a pool that can be reached. -/
theorem exists_leads (hlimit : 1 ≤ limit) (turn : Nat → Turn) (n : Nat) (p : Pool) :
    ∃ ended left, Reaches limit p ended left ∧ Leads limit turn n p ended left := by
  induction n, p using complete.induct limit turn with
  | case1 n p hempty =>
    exact ⟨[], p.fill limit, .here p, .of_empty hlimit (List.length_eq_zero_iff.mp hempty)⟩
  | case2 n p hbusy hturn =>
    exact ⟨[], p.fill limit, .here p, .of_deadline (by simpa using hbusy) hturn⟩
  | case3 n p hbusy place hturn jobs inside ih =>
    obtain ⟨ended, left, hreaches, hleads⟩ := ih
    exact ⟨_, left, .ends _ inside hreaches, .ends inside rfl hturn hleads⟩

/-- Some turns lead to each pool that can be reached. -/
theorem exists_turn_of_reaches (hlimit : 1 ≤ limit) (h : Reaches limit p ended left) (n : Nat) :
    ∃ turn, Leads limit turn n p ended left := by
  induction h generalizing n with
  | here p =>
    by_cases hempty : (p.fill limit).underWay = []
    · exact ⟨fun _ => .deadline, .of_empty hlimit hempty⟩
    · exact ⟨fun _ => .deadline, .of_deadline hempty rfl⟩
  | @ends p left ended place hplace _ ih =>
    obtain ⟨turn, hleads⟩ := ih (n + 1)
    -- the turns that follow, with the one of this job before them
    refine ⟨fun i => if i = n then .completes place else turn i, ?_⟩
    have hfollowing : ∀ i, n + 1 ≤ i → turn i = if i = n then .completes place else turn i :=
      fun i hi => (if_neg (by omega)).symm
    exact .ends hplace (Nat.mod_eq_of_lt hplace).symm (if_pos rfl) (hleads.congr hfollowing)

end Turns
end BackendAudit.Pool
