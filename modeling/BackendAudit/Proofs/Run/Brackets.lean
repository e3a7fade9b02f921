import BackendAudit.Proofs.Run.Trace

/-!
# Brackets of phases

The start and the finish of a phase are like an opening and a closing bracket
(`WellBracketed`): they come in pairs, nothing else is opened in between, and all that is
told of targets stands inside.  Phases that are started and not the same keep to this
(`wellBracketed_flatMap`), so a run with a probe does.  A run without one finishes the last
phase and has not started it, and this is all that is wrong (`run_wellBracketed_iff`).
-/

namespace BackendAudit

open Files (Tree Path)

namespace Event

/-- A phase is started or finished. -/
def isBoundary : Event → Bool
  | phaseStarted _ => true
  | phaseFinished _ _ => true
  | _ => false

/-- The phase that is started. -/
def started? : Event → Option Phase
  | phaseStarted phase => some phase
  | _ => none

theorem Inside.isBoundary_eq {phase : Phase} {e : Event} (h : e.Inside phase) :
    e.isBoundary = false := by
  cases e with
  | phaseStarted other => exact absurd h id
  | phaseFinished other findings => exact absurd h id
  | _ => rfl

theorem Inside.started?_eq {phase : Phase} {e : Event} (h : e.Inside phase) :
    e.started? = none := by
  cases e with
  | phaseStarted other => exact absurd h id
  | _ => rfl

end Event

/-- Events in which phases are brackets.  A finish has its start in front, only once and with
no other start or finish in between; a start has its finish behind; no phase starts or
finishes twice; and every other event is enclosed by the start and the finish of a phase. -/
structure WellBracketed (events : List Event) : Prop where
  opened : ∀ {before phase findings after},
    events = before ++ .phaseFinished phase findings :: after →
      ∃ earlier inside, before = earlier ++ .phaseStarted phase :: inside ∧
        (∀ e ∈ inside, e.isBoundary = false) ∧ .phaseStarted phase ∉ earlier
  closed : ∀ {before phase after}, events = before ++ .phaseStarted phase :: after →
    ∃ inside findings later, after = inside ++ .phaseFinished phase findings :: later ∧
      ∀ e ∈ inside, e.isBoundary = false
  started_once : (events.filterMap Event.started?).Nodup
  finished_once : ((events.filterMap Event.finished?).map Prod.fst).Nodup
  enclosed : ∀ {before e after}, events = before ++ e :: after → e.isBoundary = false →
    ∃ phase earlier inside inside' findings later,
      before = earlier ++ .phaseStarted phase :: inside ∧
        after = inside' ++ .phaseFinished phase findings :: later ∧
        (∀ e' ∈ inside ++ inside', e'.isBoundary = false) ∧ e.Inside phase

/-! ## Where an element of a list stands -/

section Lists

variable {α β : Type}

/-- An element of two lists one behind the other is in the first or in the second. -/
theorem append_eq_append_cons {xs ys before after : List α} {e : α}
    (h : xs ++ ys = before ++ e :: after) :
    (∃ rest, xs = before ++ e :: rest ∧ after = rest ++ ys) ∨
      ∃ front, before = xs ++ front ∧ ys = front ++ e :: after := by
  rcases List.append_eq_append_iff.mp h with ⟨front, hbefore, hys⟩ | ⟨rest, hxs, hrest⟩
  · exact .inr ⟨front, hbefore, hys⟩
  · cases rest with
    | nil => exact .inr ⟨[], by simp [hxs], by simpa using hrest.symm⟩
    | cons e' rest =>
      obtain ⟨rfl, rfl⟩ := List.cons.inj hrest
      exact .inl ⟨rest, hxs, rfl⟩

/-- An element of a concatenation is in one of its parts. -/
theorem flatMap_eq_append_cons {f : α → List β} {xs : List α} {before after : List β} {e : β}
    (h : xs.flatMap f = before ++ e :: after) :
    ∃ front x back inner outer, xs = front ++ x :: back ∧ f x = inner ++ e :: outer ∧
      before = front.flatMap f ++ inner ∧ after = outer ++ back.flatMap f := by
  induction xs generalizing before with
  | nil => simp at h
  | cons x xs ih =>
    rw [List.flatMap_cons] at h
    rcases append_eq_append_cons h with ⟨rest, hx, rfl⟩ | ⟨front, rfl, hrest⟩
    · exact ⟨[], x, xs, before, rest, rfl, hx, rfl, rfl⟩
    · obtain ⟨first, y, back, inner, outer, rfl, hy, rfl, rfl⟩ := ih hrest
      exact ⟨x :: first, y, back, inner, outer, rfl, hy, by simp, rfl⟩

end Lists

/-! ## Phases as brackets -/

namespace PhaseRun

/-- How an event stands to a phase, with `earlier` in front of the phase and `later` behind
it: it is the start, the finish, or told in between. -/
inductive Stands (p : PhaseRun) (earlier later : List Event) :
    List Event → Event → List Event → Prop
  | start : Stands p earlier later earlier (.phaseStarted p.phase)
      (p.events ++ .phaseFinished p.phase p.findings.length :: later)
  | between {inside inside' : List Event} {e : Event} (h : p.events = inside ++ e :: inside') :
    Stands p earlier later (earlier ++ .phaseStarted p.phase :: inside) e
      (inside' ++ .phaseFinished p.phase p.findings.length :: later)
  | finish : Stands p earlier later (earlier ++ .phaseStarted p.phase :: p.events)
      (.phaseFinished p.phase p.findings.length) later

theorem stands_of_allEvents {p : PhaseRun} (hstarted : p.started = true)
    {inner outer : List Event} {e : Event} (h : p.allEvents = inner ++ e :: outer)
    (earlier later : List Event) :
    p.Stands earlier later (earlier ++ inner) e (outer ++ later) := by
  rw [allEvents, if_pos hstarted, List.append_assoc, List.singleton_append] at h
  cases inner with
  | nil =>
    obtain ⟨rfl, rfl⟩ := List.cons.inj h
    simpa using Stands.start
  | cons first inner =>
    rw [List.cons_append] at h
    obtain ⟨rfl, htail⟩ := List.cons.inj h
    rcases append_eq_append_cons htail with ⟨rest, hevents, rfl⟩ | ⟨front, rfl, hfinish⟩
    · simpa using Stands.between hevents
    · cases front with
      | nil =>
        obtain ⟨rfl, rfl⟩ := List.cons.inj hfinish
        simpa using Stands.finish
      | cons e' front => simp at hfinish

/-- An event of started phases stands to one of them. -/
theorem exists_stands {ps : List PhaseRun} (hstarted : ∀ p ∈ ps, p.started = true)
    {before after : List Event} {e : Event} (h : ps.flatMap allEvents = before ++ e :: after) :
    ∃ front p back, ps = front ++ p :: back ∧
      p.Stands (front.flatMap allEvents) (back.flatMap allEvents) before e after := by
  obtain ⟨front, p, back, inner, outer, rfl, hp, rfl, rfl⟩ := flatMap_eq_append_cons h
  exact ⟨front, p, back, rfl, stands_of_allEvents (hstarted p (by simp)) hp _ _⟩

/-- A phase tells of its start once, if it is started. -/
theorem Closed.filterMap_started? {p : PhaseRun} (h : p.Closed) :
    p.allEvents.filterMap Event.started? = if p.started then [p.phase] else [] := by
  have hinside : p.events.filterMap Event.started? = [] :=
    List.filterMap_eq_nil_iff.mpr fun e he => (h e he).started?_eq
  rw [allEvents, List.filterMap_append, List.filterMap_append, hinside]
  split <;> rfl

/-- Phases start once each, in their order, but for those that are not started. -/
theorem filterMap_started?_flatMap {ps : List PhaseRun} (h : ∀ p ∈ ps, p.Closed) :
    (ps.flatMap allEvents).filterMap Event.started? =
      (ps.filter (·.started)).map (·.phase) := by
  induction ps with
  | nil => rfl
  | cons p ps ih =>
    rw [List.flatMap_cons, List.filterMap_append,
      (h p List.mem_cons_self).filterMap_started?, List.filter_cons,
      ih fun q hq => h q (List.mem_cons_of_mem _ hq)]
    split <;> rfl

/-- What is told between the start and the finish may be told there, and so may all around. -/
theorem Closed.between {p : PhaseRun} (h : p.Closed) {inside inside' : List Event} {e : Event}
    (hevents : p.events = inside ++ e :: inside') :
    e.Inside p.phase ∧ ∀ e' ∈ inside ++ inside', e'.Inside p.phase := by
  rw [Closed, hevents] at h
  refine ⟨h e (by simp), fun e' he' => h e' ?_⟩
  exact List.perm_middle.mem_iff.mpr (List.mem_cons_of_mem _ he')

variable {ps : List PhaseRun}

/-- Phases that are all started, and not the same, are brackets one behind the other. -/
theorem wellBracketed_flatMap (hclosed : ∀ p ∈ ps, p.Closed)
    (hstarted : ∀ p ∈ ps, p.started = true) (hdistinct : (ps.map (·.phase)).Nodup) :
    WellBracketed (ps.flatMap allEvents) := by
  constructor
  case opened =>
    intro before phase findings after h
    obtain ⟨front, p, back, rfl, hstands⟩ := exists_stands hstarted h
    cases hstands with
    | between hevents => exact absurd ((hclosed p (by simp)).between hevents).1 id
    | finish =>
      refine ⟨front.flatMap allEvents, p.events, rfl,
        fun e he => (hclosed p (by simp) e he).isBoundary_eq, fun hstart => ?_⟩
      obtain ⟨q, hq, hstart⟩ := List.mem_flatMap.mp hstart
      exact phase?_ne_of_nodup hdistinct (List.mem_append_left _ hq)
        (hclosed q (List.mem_append_left _ hq)) hstart rfl
  case closed =>
    intro before phase after h
    obtain ⟨front, p, back, rfl, hstands⟩ := exists_stands hstarted h
    cases hstands with
    | start =>
      exact ⟨p.events, _, _, rfl, fun e he => (hclosed p (by simp) e he).isBoundary_eq⟩
    | between hevents => exact absurd ((hclosed p (by simp)).between hevents).1 id
  case started_once =>
    have hall : ps.filter (·.started) = ps := List.filter_eq_self.mpr hstarted
    rwa [filterMap_started?_flatMap hclosed, hall]
  case finished_once =>
    rwa [filterMap_finished?_flatMap hclosed, List.map_map]
  case enclosed =>
    intro before e after h he
    obtain ⟨front, p, back, rfl, hstands⟩ := exists_stands hstarted h
    cases hstands with
    | start => cases he
    | between hevents =>
      obtain ⟨hinside, haround⟩ := (hclosed p (by simp)).between hevents
      exact ⟨p.phase, _, _, _, _, _, rfl, rfl, fun e' he' => (haround e' he').isBoundary_eq,
        hinside⟩
    | finish => cases he

/-- The phase of a probe is started if there is a probe. -/
theorem started_ofProbe (probe : Option Probe) : (ofProbe probe).started = probe.isSome := by
  cases probe with
  | none => rfl
  | some probe =>
    rw [ofProbe]
    split <;> rfl

end PhaseRun

/-- A finish without a start is no bracket. -/
theorem not_wellBracketed_of_not_mem {told : List Event} {phase : Phase} {findings : Nat}
    (h : .phaseStarted phase ∉ told) :
    ¬ WellBracketed (told ++ [.phaseFinished phase findings]) := by
  intro hbrackets
  obtain ⟨earlier, inside, rfl, _⟩ := hbrackets.opened rfl
  exact h (by simp)

/-! ## Runs -/

section Runs

variable {w : Wording} {t : Tree} {root : Path} {c : Config} {registry : Registry}
  {probe : Option Probe}

/-- The phases over files are brackets, and none of them is that of a probe. -/
theorem filePhases_wellBracketed :
    WellBracketed ((filePhases w t root c registry).flatMap PhaseRun.allEvents) ∧
      .phaseStarted .apiTesting ∉ (filePhases w t root c registry).flatMap PhaseRun.allEvents := by
  have hclosed : ∀ p ∈ filePhases w t root c registry, p.Closed := by
    intro p hp
    have hall : ∀ p ∈ phases w t root c registry none, p.Closed := phases_closed (by simp)
    exact hall p (List.mem_append_left [PhaseRun.ofProbe none] hp)
  refine ⟨PhaseRun.wellBracketed_flatMap hclosed ?_ ?_, ?_⟩
  · simp [filePhases, PhaseRun.ofOutcomes]
  · simp [filePhases, PhaseRun.ofOutcomes]
  · intro hstart
    have hmem : Phase.apiTesting ∈
        ((filePhases w t root c registry).flatMap PhaseRun.allEvents).filterMap Event.started? :=
      List.mem_filterMap.mpr ⟨_, hstart, rfl⟩
    rw [PhaseRun.filterMap_started?_flatMap hclosed] at hmem
    simp [filePhases, PhaseRun.ofOutcomes] at hmem

/-- Without a probe, the last phase is finished all the same. -/
theorem events_of_no_probe (h : prepare t root c = .ok registry) :
    (run w t root c none).events =
      (filePhases w t root c registry).flatMap PhaseRun.allEvents ++
        [.phaseFinished .apiTesting 0] := by
  simp [run, h, phases, filePhases, PhaseRun.ofProbe, PhaseRun.allEvents]

/-- In a run that succeeds, with a probe that tells of nothing but skipped requests or with
none, phases are brackets just when there is a probe.  Without one, the finish of the last
phase is one bracket too many, and behind all others. -/
theorem run_wellBracketed_iff {report : RunReport}
    (hrun : (run w t root c probe).result = .ok report)
    (hprobe : ∀ p ∈ probe, ∀ e ∈ p.events, e.isSkip = true) :
    (WellBracketed (run w t root c probe).events ↔ probe.isSome) ∧
      (run w t root c probe).events.filterMap Event.started? =
        .staticAnalysis :: .configValidation :: probe.toList.map (fun _ => .apiTesting) ∧
      (probe = none → ∃ told, WellBracketed told ∧
        (run w t root c probe).events = told ++ [.phaseFinished .apiTesting 0]) := by
  obtain ⟨registry, hready, hevents, _⟩ := run_eq_ok hrun
  have hclosed := @phases_closed w t root c registry probe hprobe
  obtain ⟨hfiles, habsent⟩ := @filePhases_wellBracketed w t root c registry
  refine ⟨?_, ?_, ?_⟩
  · cases probe with
    | none =>
      rw [events_of_no_probe hready]
      simpa using not_wellBracketed_of_not_mem habsent
    | some probe =>
      rw [hevents]
      simp only [Option.isSome_some, iff_true]
      refine PhaseRun.wellBracketed_flatMap hclosed ?_ (by rw [map_phase_phases]; decide)
      simp [phases, filePhases, PhaseRun.ofOutcomes, PhaseRun.started_ofProbe]
  · rw [hevents, PhaseRun.filterMap_started?_flatMap hclosed]
    cases probe <;>
      simp [phases, filePhases, PhaseRun.ofOutcomes, PhaseRun.started_ofProbe,
        PhaseRun.ofProbe_phase]
  · rintro rfl
    exact ⟨_, hfiles, events_of_no_probe hready⟩

end Runs

/-- A run over a file that is no text, with a probe that fails. -/
theorem run_wellBracketed_brokenTree :
    ∃ report, (run .silent brokenTree ⟨[0x2e]⟩ {} (some failingProbe)).result = .ok report ∧
      (∀ p ∈ some failingProbe, ∀ e ∈ p.events, e.isSkip = true) ∧
      (WellBracketed (run .silent brokenTree ⟨[0x2e]⟩ {} (some failingProbe)).events ↔
        (some failingProbe).isSome) ∧
      (run .silent brokenTree ⟨[0x2e]⟩ {} (some failingProbe)).events.filterMap Event.started? =
        .staticAnalysis :: .configValidation ::
          (some failingProbe).toList.map (fun _ => .apiTesting) ∧
      (some failingProbe = none → ∃ told, WellBracketed told ∧
        (run .silent brokenTree ⟨[0x2e]⟩ {} (some failingProbe)).events =
          told ++ [.phaseFinished .apiTesting 0]) := by
  have hprobe : ∀ p ∈ some failingProbe, ∀ e ∈ p.events, e.isSkip = true := by
    simp [failingProbe, Event.isSkip]
  have hrun : (run .silent brokenTree ⟨[0x2e]⟩ {} (some failingProbe)).result =
      .ok (reportOf ⟨[0x2e]⟩ "BACKEND BUG DETECTION REPORT"
        (phases .silent brokenTree ⟨[0x2e]⟩ {} .builtin (some failingProbe))) := rfl
  exact ⟨_, hrun, hprobe, run_wellBracketed_iff hrun hprobe⟩

/-- Without any files and without a probe, the last event is a finish that has no start. -/
theorem finish_without_start :
    ∃ report, (run .silent .empty ⟨[0x2e]⟩ {} none).result = .ok report ∧
      (run .silent .empty ⟨[0x2e]⟩ {} none).events.getLast? = some (.phaseFinished .apiTesting 0) ∧
      .phaseStarted .apiTesting ∉ (run .silent .empty ⟨[0x2e]⟩ {} none).events ∧
      ¬ WellBracketed (run .silent .empty ⟨[0x2e]⟩ {} none).events := by
  have hready : prepare .empty ⟨[0x2e]⟩ {} = .ok .builtin := rfl
  have habsent := (@filePhases_wellBracketed .silent .empty ⟨[0x2e]⟩ {} .builtin).2
  rw [events_of_no_probe hready]
  refine ⟨_, rfl, by rw [List.getLast?_concat], ?_, not_wellBracketed_of_not_mem habsent⟩
  simpa using habsent

end BackendAudit
