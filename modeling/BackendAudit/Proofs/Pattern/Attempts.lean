import BackendAudit.Proofs.Pattern.Spans

/-!
# Attempts at single places

The search follows all open ways of matching at once and drops the doubles.  What it
finds is said here without threads: an attempt at one place tries the edges in their
order and goes back where a way leads to nothing, and a search finds the first place at
which the attempt leads to the end of a match.

* `Automaton.attempt` is the attempt at a place, and `Automaton.MatchesAt` says where
  the match ends that it finds.
* `Frontier.outcome_follow` and `Frontier.outcome_followAll`: dropping a thread whose
  next step has been tried changes nothing, since an earlier thread stands for it.
* `Automaton.find?_eq_leftmost`: a search finds what the attempts find.
-/

namespace BackendAudit.Pattern

open Text

/-! ## Attempts -/

namespace Automaton

/-- The edges that lead on from a step when it reads the character that follows. -/
def readOn? (A : Automaton) (after : Option Char) (n : Nat) : Option (List Edge) :=
  match A.states[n]?, after with
  | some state, some c => if state.test.accepts c then some state.next else none
  | _, _ => none

/-- Where the match ends that an edge leads to, at the place `here`; `go` tells it for
the edges that lead on behind the next character. -/
def alongEdge (A : Automaton) (before after : Option Char) (here : Nat)
    (go : List Edge → Option Nat) (e : Edge) : Option Nat :=
  if e.looks.all fun l => l.holds before after then
    match e.target with
    | none => some here
    | some n => (A.readOn? after n).bind go
  else none

/-- Where the match ends that edges lead to from the place `pos`: that of the first
edge which leads to any. -/
def attempt (A : Automaton) (before : Option Char) (pos : Nat) (edges : List Edge) :
    List Char → Option Nat
  | [] => edges.findSome? (A.alongEdge before none pos fun _ => none)
  | c :: rest => edges.findSome? (A.alongEdge before (some c) pos fun next =>
      attempt A (some c) (pos + c.utf8Size) next rest)

/-- An attempt at the place `start` of a text finds a match that ends at `stop`. -/
def MatchesAt (A : Automaton) (text : List Char) (start stop : Nat) : Prop :=
  ∃ before rest, text = before ++ rest ∧ byteLength before = start ∧
    A.attempt before.getLast? start A.start rest = some stop

/-- The first place in `rest` at which an attempt finds a match, and the end of it. -/
def leftmost (A : Automaton) (before : Option Char) (pos : Nat) :
    List Char → Option (Nat × Nat)
  | [] => (A.attempt before pos A.start []).map fun stop => (pos, stop)
  | c :: rest =>
    ((A.attempt before pos A.start (c :: rest)).map fun stop => (pos, stop)).or
      (leftmost A (some c) (pos + c.utf8Size) rest)

end Automaton

/-! ## Threads stand for attempts -/

/-- The match that a thread leads to. -/
def Thread.outcome (go : List Edge → Option Nat) (t : Thread) : Option (Nat × Nat) :=
  (go t.edges).map fun stop => (t.start, stop)

/-- The match that the threads of a frontier lead to or, behind them all, the one that
ends at `here`. -/
def Frontier.outcome (go : List Edge → Option Nat) (here : Nat) (f : Frontier) :
    Option (Nat × Nat) :=
  (f.threads.reverse.findSome? (Thread.outcome go)).or (f.hit.map fun start => (start, here))

/-- For each step that has been tried and reads on there is a thread which goes on from it. -/
def Frontier.Covered (A : Automaton) (after : Option Char) (f : Frontier) : Prop :=
  ∀ n next, f.tried.testBit n = true → A.readOn? after n = some next →
    ∃ t ∈ f.threads, t.edges = next

variable {A : Automaton} {before after : Option Char} {go : List Edge → Option Nat} {here : Nat}

/-- The frontier when one more step has been tried: with a thread if the step reads on. -/
def Frontier.tryStep (A : Automaton) (after : Option Char) (start n : Nat) (f : Frontier) :
    Frontier :=
  { f with
    tried := f.tried ||| 1 <<< n
    threads := ((A.readOn? after n).map fun next => ⟨start, next⟩).toList ++ f.threads }

/-- Following an edge to a step either passes it over or tries the step. -/
theorem Frontier.follow_cons {start n : Nat} {e : Edge} {rest : List Edge} {f : Frontier}
    (hlooks : (e.looks.all fun l => l.holds before after) = true) (htarget : e.target = some n) :
    f.follow A before after start (e :: rest) =
      (if f.tried.testBit n then f else f.tryStep A after start n).follow A before after start
        rest := by
  rw [Frontier.follow.eq_def]
  simp only [hlooks, htarget, if_true]
  by_cases htried : f.tried.testBit n = true
  · rw [if_pos htried, if_pos htried]
  · rw [if_neg htried, if_neg htried, tryStep]
    cases hstate : A.states[n]? with
    | none => simp [Automaton.readOn?, hstate]
    | some state =>
      cases after with
      | none => simp [Automaton.readOn?]
      | some c =>
        by_cases haccepts : state.test.accepts c = true <;>
          simp [Automaton.readOn?, hstate, haccepts]

theorem testBit_or_shift (tried n m : Nat) :
    (tried ||| 1 <<< n).testBit m = true ↔ tried.testBit m = true ∨ n = m := by
  rw [Nat.testBit_or, Bool.or_eq_true, Nat.one_shiftLeft, Nat.testBit_two_pow, decide_eq_true_iff]

theorem Frontier.Covered.tryStep {f : Frontier} (hf : f.Covered A after) (start n : Nat) :
    (f.tryStep A after start n).Covered A after := by
  intro m next hm hnext
  rcases (testBit_or_shift _ _ _).mp hm with hm | rfl
  · obtain ⟨t, ht, hedges⟩ := hf m next hm hnext
    exact ⟨t, List.mem_append_right _ ht, hedges⟩
  · exact ⟨⟨start, next⟩, List.mem_append_left _ (by simp [hnext]), rfl⟩

theorem Frontier.outcome_tryStep {f : Frontier} (hhit : f.hit = none) (start n : Nat) :
    (f.tryStep A after start n).outcome go here =
      (f.outcome go here).or (((A.readOn? after n).bind go).map fun stop => (start, stop)) := by
  cases hnext : A.readOn? after n with
  | none => simp [outcome, tryStep, hnext, hhit]
  | some next =>
    simp [outcome, tryStep, hnext, hhit, List.findSome?_append, Thread.outcome]

/-- Where the threads lead to nothing, a step that has been tried leads to nothing. -/
theorem Frontier.Covered.bind_eq_none {f : Frontier} (hf : f.Covered A after) {n : Nat}
    (hn : f.tried.testBit n = true) (hnone : f.outcome go here = none) :
    (A.readOn? after n).bind go = none := by
  cases hnext : A.readOn? after n with
  | none => rfl
  | some next =>
    obtain ⟨t, ht, rfl⟩ := hf n next hn hnext
    have hthreads := (Option.or_eq_none_iff.mp hnone).1
    have := List.findSome?_eq_none_iff.mp hthreads t (List.mem_reverse.mpr ht)
    simpa [Thread.outcome] using this

theorem findSome?_cons_or {α β : Type} (f : α → Option β) (x : α) (xs : List α) :
    (x :: xs).findSome? f = (f x).or (xs.findSome? f) := by
  rw [List.findSome?_cons]
  cases f x <;> rfl

/-- Following the edges of a thread adds, behind what the frontier leads to, what an
attempt along these edges leads to. -/
theorem Frontier.outcome_follow (before : Option Char) (go : List Edge → Option Nat)
    (here start : Nat) (edges : List Edge) {f : Frontier}
    (hhit : f.hit = none) (hf : f.Covered A after) :
    (f.follow A before after start edges).Covered A after ∧
      (f.follow A before after start edges).outcome go here =
        (f.outcome go here).or ((edges.findSome? (A.alongEdge before after here go)).map
          fun stop => (start, stop)) := by
  induction edges generalizing f with
  | nil => simp [follow, hf]
  | cons e rest ih =>
    by_cases hlooks : (e.looks.all fun l => l.holds before after) = true
    · cases htarget : e.target with
      | none =>
        have hfollow :
            f.follow A before after start (e :: rest) = { f with hit := some start } := by
          rw [follow, if_pos hlooks, htarget]
        rw [hfollow, findSome?_cons_or, Automaton.alongEdge, if_pos hlooks, htarget]
        exact ⟨hf, by simp [outcome, hhit]⟩
      | some n =>
        have hedge : A.alongEdge before after here go e = (A.readOn? after n).bind go := by
          rw [Automaton.alongEdge, if_pos hlooks, htarget]
        rw [follow_cons hlooks htarget, findSome?_cons_or, hedge]
        by_cases htried : f.tried.testBit n = true
        · rw [if_pos htried]
          refine ⟨(ih hhit hf).1, (ih hhit hf).2.trans ?_⟩
          -- a thread of the frontier goes on from this step, so it adds nothing
          cases hout : f.outcome go here with
          | some found => rfl
          | none => rw [hf.bind_eq_none htried hout, Option.none_or, Option.none_or, Option.none_or]
        · rw [if_neg htried]
          have htry := ih (f := f.tryStep A after start n) hhit (hf.tryStep start n)
          refine ⟨htry.1, htry.2.trans ?_⟩
          rw [outcome_tryStep hhit, Option.or_assoc, Option.map_or]
    · have hedge : A.alongEdge before after here go e = none := by
        rw [Automaton.alongEdge, if_neg hlooks]
      rw [follow, if_neg hlooks, findSome?_cons_or, hedge]
      exact ih hhit hf

/-- Following all threads leads to what the attempts along their edges lead to, in the
order of the threads. -/
theorem Frontier.outcome_followAll (before : Option Char) (go : List Edge → Option Nat)
    (here : Nat) (threads : List Thread) {f : Frontier}
    (hhit : f.hit = none) (hf : f.Covered A after) :
    (f.followAll A before after threads).outcome go here =
      (f.outcome go here).or (threads.findSome? fun t =>
        (t.edges.findSome? (A.alongEdge before after here go)).map fun stop =>
          (t.start, stop)) := by
  induction threads generalizing f with
  | nil => simp [followAll]
  | cons t rest ih =>
    obtain ⟨hcovered, hout⟩ := outcome_follow before go here t.start t.edges hhit hf
    rw [followAll, findSome?_cons_or, ← Option.or_assoc, ← hout]
    cases hnext : (f.follow A before after t.start t.edges).hit with
    | none =>
      exact ih hnext hcovered
    | some start =>
      simp [outcome, hnext]

/-! ## Searches -/

namespace Automaton

theorem attempt_cons (A : Automaton) (before : Option Char) (pos : Nat) (edges : List Edge)
    (c : Char) (rest : List Char) :
    A.attempt before pos edges (c :: rest) =
      edges.findSome? (A.alongEdge before (some c) pos fun next =>
        A.attempt (some c) (pos + c.utf8Size) next rest) := rfl

/-- One step of the search: what its threads lead to, and behind them the match that it has
found so far, is what attempts along the edges of the threads lead to. -/
theorem outcome_step (A : Automaton) (before after : Option Char) (pos : Nat)
    (threads : List Thread) (best : Option (Nat × Nat)) (go : List Edge → Option Nat) :
    ((search.step A before pos threads best after).1.findSome? (Thread.outcome go)).or
        (search.step A before pos threads best after).2 =
      (threads.findSome? fun t =>
          (t.edges.findSome? (A.alongEdge before after pos go)).map fun stop =>
            (t.start, stop)).or
        (if best.isNone then
          (A.start.findSome? (A.alongEdge before after pos go)).map fun stop => (pos, stop)
        else best) := by
  have hnew : Frontier.Covered A after ⟨0, [], none⟩ := by
    intro n next hn
    simp at hn
  have hall := Frontier.outcome_followAll before go pos
    (if best.isNone then threads ++ [⟨pos, A.start⟩] else threads) rfl hnew
  simp only [search.step]
  generalize Frontier.followAll A before after
    (if best.isNone then threads ++ [⟨pos, A.start⟩] else threads) ⟨0, [], none⟩ = f at hall ⊢
  have hnone : Frontier.outcome go pos ⟨0, [], none⟩ = none := rfl
  calc _ = (f.outcome go pos).or best := by
        rw [Frontier.outcome]
        cases f.hit <;> cases f.threads.reverse.findSome? (Thread.outcome go) <;> rfl
    _ = _ := by
        rw [hall, hnone, Option.none_or]
        cases best with
        | none => simp [List.findSome?_append]
        | some found => rfl

/-- A match that has been found is kept or replaced, never lost. -/
theorem isSome_step (A : Automaton) (before after : Option Char) (pos : Nat)
    (threads : List Thread) {best : Option (Nat × Nat)} (hbest : best.isSome = true) :
    (search.step A before pos threads best after).2.isSome = true := by
  unfold search.step
  dsimp only
  split
  · rfl
  · exact hbest

/-- A search finds what its threads lead to or, behind them, the best match so far; while
there is none, it goes on to the first place at which an attempt finds a match. -/
theorem search_eq (A : Automaton) (before : Option Char) (pos : Nat) (threads : List Thread)
    (best : Option (Nat × Nat)) (rest : List Char) :
    A.search before pos threads best rest =
      (threads.findSome? fun t => (A.attempt before pos t.edges rest).map fun stop =>
          (t.start, stop)).or
        (if best.isNone then A.leftmost before pos rest else best) := by
  induction rest generalizing before pos threads best with
  | nil =>
    have hstep := outcome_step A before none pos threads best fun _ => none
    have hthreads : ∀ ts : List Thread, ts.findSome? (Thread.outcome fun _ => none) = none :=
      fun ts => List.findSome?_eq_none_iff.mpr fun t _ => rfl
    rw [hthreads, Option.none_or] at hstep
    rw [search, hstep]
    rfl
  | cons c rest ih =>
    have hstep := outcome_step A before (some c) pos threads best fun next =>
      A.attempt (some c) (pos + c.utf8Size) next rest
    have hkept : best.isSome = true → _ := isSome_step A before (some c) pos threads
    have hsearch : A.search before pos threads best (c :: rest) =
        A.search (some c) (pos + c.utf8Size) (search.step A before pos threads best (some c)).1
          (search.step A before pos threads best (some c)).2 rest := by
      rw [search]
      split
      · rename_i found heq
        rw [heq, ih]
        rfl
      · rename_i heq
        rw [heq]
    rw [hsearch, ih]
    simp only [attempt_cons, leftmost]
    generalize search.step A before pos threads best (some c) = next at hstep hkept ⊢
    unfold Thread.outcome at hstep
    cases hbest : best with
    | some found =>
      obtain ⟨later, hlater⟩ := Option.isSome_iff_exists.mp (hkept (by rw [hbest]; rfl))
      rw [hbest, hlater] at hstep
      rw [hlater]
      exact hstep
    | none =>
      rw [hbest] at hstep
      simp only [Option.isNone_none, if_true] at hstep ⊢
      rw [← Option.or_assoc, ← hstep]
      cases next.2 with
      | none => simp
      | some later => simp

theorem find?_eq_leftmost (A : Automaton) (before : Option Char) (pos : Nat)
    (rest : List Char) : A.find? before pos rest = A.leftmost before pos rest := by
  rw [find?, search_eq]
  rfl

/-! ## Where attempts end -/

/-- What an attempt has found: an edge whose assertions hold leads to the end of the match
right here, or to a step which reads the next character and goes on behind it. -/
theorem exists_edge_of_attempt {before : Option Char} {pos stop : Nat} {rest : List Char}
    {edges : List Edge} (h : A.attempt before pos edges rest = some stop) :
    ∃ e ∈ edges, (e.looks.all fun l => l.holds before rest.head?) = true ∧
      (e.target = none ∧ stop = pos ∨
        ∃ n c later next, e.target = some n ∧ rest = c :: later ∧
          A.readOn? (some c) n = some next ∧
          A.attempt (some c) (pos + c.utf8Size) next later = some stop) := by
  have halong : ∃ e ∈ edges, ∃ go, A.alongEdge before rest.head? pos go e = some stop ∧
      ∀ next, go next = some stop → ∃ c later, rest = c :: later ∧
        A.attempt (some c) (pos + c.utf8Size) next later = some stop := by
    cases rest with
    | nil =>
      obtain ⟨e, he, hedge⟩ := List.exists_of_findSome?_eq_some h
      exact ⟨e, he, _, hedge, fun next hnext => by cases hnext⟩
    | cons c later =>
      obtain ⟨e, he, hedge⟩ := List.exists_of_findSome?_eq_some h
      exact ⟨e, he, _, hedge, fun next hnext => ⟨c, later, rfl, hnext⟩⟩
  obtain ⟨e, he, go, hedge, hgo⟩ := halong
  rw [alongEdge] at hedge
  split at hedge
  · rename_i hlooks
    refine ⟨e, he, hlooks, ?_⟩
    cases htarget : e.target with
    | none =>
      rw [htarget] at hedge
      exact .inl ⟨rfl, (Option.some.inj hedge).symm⟩
    | some n =>
      rw [htarget] at hedge
      obtain ⟨next, hnext, hstop⟩ := Option.bind_eq_some_iff.mp hedge
      obtain ⟨c, later, rfl, hlater⟩ := hgo next hstop
      exact .inr ⟨n, c, later, next, rfl, rfl, hnext, hlater⟩
  · cases hedge

/-- The match of an attempt ends at a place of the text that is not before its start. -/
theorem attempt_ends {before : Option Char} {seen rest : List Char} {stop : Nat}
    {edges : List Edge} (h : A.attempt before (byteLength seen) edges rest = some stop) :
    IsPlace (seen ++ rest) stop ∧ byteLength seen ≤ stop := by
  induction rest generalizing before seen edges with
  | nil =>
    obtain ⟨_, _, _, ⟨_, rfl⟩ | ⟨_, _, _, _, _, hnil, _⟩⟩ := exists_edge_of_attempt h
    · exact ⟨⟨seen, [], rfl, rfl⟩, Nat.le_refl _⟩
    · cases hnil
  | cons c rest ih =>
    obtain ⟨_, _, _, ⟨_, rfl⟩ | ⟨_, _, _, next, _, hcons, _, hlater⟩⟩ := exists_edge_of_attempt h
    · exact ⟨⟨seen, c :: rest, rfl, rfl⟩, Nat.le_refl _⟩
    · cases hcons
      have hseen : byteLength seen + c.utf8Size = byteLength (seen ++ [c]) := by simp
      rw [hseen] at hlater
      have hrest := ih hlater
      rw [List.append_assoc, List.singleton_append] at hrest
      exact ⟨hrest.1, by omega⟩

end Automaton

end BackendAudit.Pattern
