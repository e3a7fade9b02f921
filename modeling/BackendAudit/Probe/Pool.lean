import BackendAudit.Probe.Exchange
import BackendAudit.Run.Event

/-!
# Probing

The jobs of a probe are begun in order, with a limit on how many are under way at a
time, and come to their end in any order.  A job that fails is skipped and not tried
again.  All that is left when the time of the run is over is given up.  What is found
is reported in the order of the jobs, whatever the order in which they ended.

The second at which the time is over is reckoned before the first job is begun, and it may be
one that the clock cannot tell.
-/

namespace BackendAudit

/-! ## The order of events -/

/-- What happens next while jobs are under way. -/
inductive Turn where
  /-- The job at a place among those under way comes to its end; places go around. -/
  | completes (place : Nat)
  /-- The time of the run is over. -/
  | deadline
  deriving Repr, DecidableEq, Inhabited

/-- The world that a probe deals with. -/
structure Network where
  /-- The response to the request of a job, if there is one. -/
  response : Job → Option Response
  /-- What happens after so many jobs have ended. -/
  turn : Nat → Turn
  /-- The second at which the probe starts, by a clock that started with the system. -/
  clock : Nat

/-- A network on which no request is answered. -/
def Network.unreachable : Network := ⟨fun _ => none, fun _ => .completes 0, 1⟩

/-- The jobs that are not at their end. -/
structure Pool where
  waiting : List Job
  underWay : List Job
  deriving Repr, DecidableEq, Inhabited

/-- The jobs that have ended, in that order, and whether the time of the run ended
before all of them had. -/
structure Completion where
  jobs : List Job
  timedOut : Bool
  deriving Repr, DecidableEq, Inhabited

namespace Pool

/-- Begins jobs as long as there is room. -/
def fill (limit : Nat) (p : Pool) : Pool :=
  let room := limit - p.underWay.length
  ⟨p.waiting.drop room, p.underWay ++ p.waiting.take room⟩

/-- How many jobs are not at their end. -/
def size (p : Pool) : Nat := p.waiting.length + p.underWay.length

@[simp] theorem size_fill (limit : Nat) (p : Pool) : (p.fill limit).size = p.size := by
  simp only [size, fill, List.length_drop, List.length_append, List.length_take]
  omega

/-- Goes on until all jobs have ended or the time is over, when so many have ended
before.  Without any room nothing is ever begun, and the time goes by. -/
def complete (limit : Nat) (turn : Nat → Turn) (ended : Nat) (p : Pool) : Completion :=
  if h : (p.fill limit).underWay.length = 0 then ⟨[], limit == 0⟩
  else
    match turn ended with
    | .deadline => ⟨[], true⟩
    | .completes place =>
      let jobs := (p.fill limit).underWay
      have inside : place % jobs.length < jobs.length :=
        Nat.mod_lt _ (Nat.pos_of_ne_zero h)
      let after := complete limit turn (ended + 1)
        ⟨(p.fill limit).waiting, jobs.eraseIdx (place % jobs.length)⟩
      ⟨jobs[place % jobs.length] :: after.jobs, after.timedOut⟩
termination_by p.size
decreasing_by
  have same := size_fill limit p
  simp only [size, List.length_eraseIdx] at same ⊢
  rw [if_pos inside]
  omega

end Pool

/-! ## Findings and events -/

/-- What is told when the time of a run is over. -/
def deadlineEvent : Event :=
  .targetSkipped "endpoint probe" "run timeout reached, remaining requests cancelled"

namespace Completion

/-- The jobs that have brought something to light, with what is reported. -/
def hits (network : Network) (c : Completion) : List (Job × Finding) :=
  c.jobs.filterMap fun job =>
    match job.outcome (network.response job) with
    | .ok (some finding) => some (job, finding)
    | _ => none

/-- What is reported, in the order of the jobs. -/
def findings (network : Network) (c : Completion) : List Finding :=
  ((c.hits network).mergeSort fun a b => a.1.index ≤ b.1.index).map Prod.snd

/-- What is told about the jobs that fail, as they end. -/
def skipEvents (network : Network) (c : Completion) : List Event :=
  c.jobs.filterMap fun job =>
    match job.outcome (network.response job) with
    | .error fault => some (.targetSkipped job.address.text (job.faultText fault))
    | .ok _ => none

/-- All that is told. -/
def events (network : Network) (c : Completion) : List Event :=
  c.skipEvents network ++ if c.timedOut then [deadlineEvent] else []

end Completion

/-- Does the jobs of a probe, with a limit on how many are under way. -/
def probeJobs (network : Network) (limit : Nat) (jobs : List Job) : Traced (List Finding) :=
  let completion := Pool.complete limit network.turn 0 ⟨jobs, []⟩
  ⟨completion.events network, completion.findings network⟩

/-- The last second that the clock can tell. -/
def lastSecond : Nat := 9223372036854775807

/-- Probes with some jobs.  The program panics if the clock cannot tell when the time of the run
is over. -/
def runProbe (network : Network) (c : ProbeConfig) (jobs : List Job) :
    Ended (Traced (List Finding)) :=
  if lastSecond < network.clock + c.runTimeout then .panicked
  else .returned (probeJobs network c.concurrency jobs)

end BackendAudit
