import BackendAudit.Run.Source
import Mathlib.Data.List.Basic

/-!
# Files among workers

Any worker that is idle can take up any file that waits, and any file that is being scanned can be
the next that is done.  `Reaches` is what can happen so, for any number of workers and in any order.

* It is over after two steps for each file, and cannot get stuck before (`Reaches.steps_eq`,
  `Reaches.exists_step`).
* When it is over the slots hold what comes of the files one by one, in the order of the files
  (`Reaches.slots_eq`).

The steps of a run are among those that can happen (`Reaches.step_next`), so that it comes to the
same for every number of workers (`scanAll_eq_map`).
-/

namespace BackendAudit

open Files (Tree Path)

namespace Bench

/-- No file waits, and none is being scanned. -/
def Idle (b : Bench) : Prop := b.waiting = [] ∧ b.busy = []

/-- What can happen next among so many workers. -/
inductive Step (workers : Nat) (scan : Path → Outcome) (paths : List Path) :
    Bench → Bench → Prop where
  /-- A worker that is idle takes up a file. -/
  | takes {b : Bench} {i : Nat} (hwaiting : i ∈ b.waiting) (hidle : b.busy.length < workers) :
      Step workers scan paths b (b.take i)
  /-- A worker is done with a file. -/
  | ends {b : Bench} {i : Nat} {path : Path} (hbusy : i ∈ b.busy) (hpath : paths[i]? = some path) :
      Step workers scan paths b (b.finish i (scan path))

/-- What is reached in so many steps. -/
inductive Reaches (workers : Nat) (scan : Path → Outcome) (paths : List Path) :
    Nat → Bench → Prop where
  | here : Reaches workers scan paths 0 (start paths)
  | next {n : Nat} {b b' : Bench} : Reaches workers scan paths n b →
      Step workers scan paths b b' → Reaches workers scan paths (n + 1) b'

/-- What holds while workers are at the files: each file waits, is being scanned or has in its slot
what comes of it. -/
structure Sound (scan : Path → Outcome) (paths : List Path) (b : Bench) : Prop where
  inside : ∀ i, i ∈ b.waiting ∨ i ∈ b.busy → i < paths.length
  length_eq : b.slots.length = paths.length
  filled : ∀ i path, paths[i]? = some path →
    i ∈ b.waiting ∨ i ∈ b.busy ∨ b.slots[i]? = some (some (scan path))

section Workers

variable {workers n : Nat} {scan : Path → Outcome} {paths : List Path} {b b' : Bench}

theorem sound_start (scan : Path → Outcome) (paths : List Path) :
    Sound scan paths (start paths) where
  inside _ hi := List.mem_range.mp (hi.resolve_right List.not_mem_nil)
  length_eq := List.length_replicate
  filled _ _ hpath := .inl (List.mem_range.mpr (List.getElem?_eq_some_iff.mp hpath).1)

theorem Sound.step (h : Sound scan paths b) (hstep : Step workers scan paths b b') :
    Sound scan paths b' := by
  obtain ⟨hinside, hlength, hfilled⟩ := h
  cases hstep with
  | @takes i hwaiting hidle =>
    refine ⟨fun j hj => ?_, hlength, fun j path hpath => ?_⟩
    · rcases hj with hj | hj
      · exact hinside j (.inl (List.mem_of_mem_erase hj))
      · rcases List.mem_cons.mp hj with rfl | hj
        · exact hinside j (.inl hwaiting)
        · exact hinside j (.inr hj)
    · by_cases hij : j = i
      · exact .inr (.inl (hij ▸ List.mem_cons_self))
      · rcases hfilled j path hpath with hj | hj | hj
        · exact .inl ((List.mem_erase_of_ne hij).mpr hj)
        · exact .inr (.inl (List.mem_cons_of_mem _ hj))
        · exact .inr (.inr hj)
  | @ends i done hbusy hdone =>
    refine ⟨fun j hj => ?_, ?_, fun j path hpath => ?_⟩
    · exact hinside j (hj.imp_right List.mem_of_mem_erase)
    · rw [finish, List.length_set, hlength]
    · by_cases hij : i = j
      · subst hij
        obtain rfl : done = path := Option.some.inj (hdone.symm.trans hpath)
        exact .inr (.inr (List.getElem?_set_self (hlength ▸ hinside i (.inr hbusy))))
      · rw [finish, List.getElem?_set_ne hij]
        rcases hfilled j path hpath with hj | hj | hj
        · exact .inl hj
        · exact .inr (.inl ((List.mem_erase_of_ne (Ne.symm hij)).mpr hj))
        · exact .inr (.inr hj)

theorem Reaches.sound (h : Reaches workers scan paths n b) : Sound scan paths b := by
  induction h with
  | here => exact sound_start scan paths
  | next _ hstep ih => exact ih.step hstep

/-- Each file takes two steps, one to take it up and one to end it. -/
theorem Reaches.steps_eq (h : Reaches workers scan paths n b) :
    n + 2 * b.waiting.length + b.busy.length = 2 * paths.length := by
  induction h with
  | here => simp [start]
  | @next n b b' _ hstep ih =>
    cases hstep with
    | takes hwaiting hidle =>
      have hpos := List.length_pos_of_mem hwaiting
      simp only [take, List.length_erase_of_mem hwaiting, List.length_cons]
      omega
    | ends hbusy hpath =>
      have hpos := List.length_pos_of_mem hbusy
      simp only [finish, List.length_erase_of_mem hbusy]
      omega

/-- Workers are idle after two steps for each file, and not before. -/
theorem Reaches.idle_iff (h : Reaches workers scan paths n b) :
    b.Idle ↔ n = 2 * paths.length := by
  have hsteps := h.steps_eq
  constructor
  · rintro ⟨hwaiting, hbusy⟩
    simpa [hwaiting, hbusy] using hsteps
  · intro hn
    have hwaiting : b.waiting.length = 0 := by omega
    have hbusy : b.busy.length = 0 := by omega
    exact ⟨List.eq_nil_of_length_eq_zero hwaiting, List.eq_nil_of_length_eq_zero hbusy⟩

/-- As long as there is something to do, what happens next is something that can happen. -/
theorem Reaches.step_next (hworkers : 1 ≤ workers) (h : Reaches workers scan paths n b)
    (hidle : ¬ b.Idle) : Step workers scan paths b (b.next workers scan paths) := by
  rw [Bench.next]
  cases htake : b.toTake? workers with
  | some i =>
    rw [toTake?] at htake
    split at htake
    · rename_i hroom
      exact .takes (List.mem_of_mem_head? htake) hroom
    · cases htake
  | none =>
    rw [toTake?] at htake
    cases hbusy : b.busy with
    | cons i rest =>
      have hi : i ∈ b.busy := hbusy ▸ List.mem_cons_self
      have hlt : i < paths.length := h.sound.inside i (.inr hi)
      simp only [List.head?_cons, List.getElem?_eq_getElem hlt]
      exact .ends hi (List.getElem?_eq_getElem hlt)
    | nil =>
      -- all workers are idle, so no file waits either
      have hroom : b.busy.length < workers := by
        rw [hbusy]
        exact hworkers
      rw [if_pos hroom, List.head?_eq_none_iff] at htake
      exact absurd ⟨htake, hbusy⟩ hidle

/-- As long as there is something to do, somebody can do it. -/
theorem Reaches.exists_step (hworkers : 1 ≤ workers) (h : Reaches workers scan paths n b)
    (hidle : ¬ b.Idle) : ∃ b', Step workers scan paths b b' :=
  ⟨_, h.step_next hworkers hidle⟩

/-- In the end every slot holds what comes of its file. -/
theorem Reaches.slots_eq (h : Reaches workers scan paths n b) (hidle : b.Idle) :
    b.slots = paths.map fun path => some (scan path) := by
  obtain ⟨hwaiting, hbusy⟩ := hidle
  have hsound := h.sound
  refine List.ext_getElem? fun i => ?_
  rw [List.getElem?_map]
  cases hpath : paths[i]? with
  | none =>
    rw [List.getElem?_eq_none_iff] at hpath
    exact List.getElem?_eq_none (hsound.length_eq ▸ hpath)
  | some path =>
    have hfilled := hsound.filled i path hpath
    rw [hwaiting, hbusy] at hfilled
    simpa using hfilled

/-- What so many steps come to is something that can be reached, up to the end. -/
theorem reaches_after (hworkers : 1 ≤ workers) (hn : n ≤ 2 * paths.length) :
    Reaches workers scan paths n (after workers scan paths n) := by
  induction n with
  | zero => exact .here
  | succ n ih =>
    have hbefore := ih (Nat.le_of_succ_le hn)
    have hidle : ¬ (after workers scan paths n).Idle := by
      rw [hbefore.idle_iff]
      omega
    exact .next hbefore (hbefore.step_next hworkers hidle)

end Workers
end Bench

/-- However many workers there are, each file is scanned once and what comes of the files is in
their order. -/
theorem scanAll_eq_map {workers : Nat} (hworkers : 1 ≤ workers) (scan : Path → Outcome)
    (paths : List Path) : scanAll workers scan paths = paths.map scan := by
  have hreaches : Bench.Reaches workers scan paths (2 * paths.length)
      (Bench.after workers scan paths (2 * paths.length)) :=
    Bench.reaches_after hworkers (Nat.le_refl _)
  rw [scanAll, hreaches.slots_eq (hreaches.idle_iff.mpr rfl), List.filterMap_map]
  exact congrFun List.filterMap_eq_map paths

/-- Workers come to what comes of the files one by one. -/
theorem scanSources_eq_map (t : Tree) (c : ScanConfig) (registry : Registry) (root : Path) :
    scanSources t c registry root =
      let paths := walked (sourceFiles t c root)
      let outcomes := paths.map (scanFile t registry c.maxFileBytes)
      { events := walkEvents root (sourceFiles t c root) ++
          .targetsDiscovered .staticAnalysis paths.length :: outcomes.map Outcome.event
        result := outcomes } := by
  rw [scanSources, ScanConfig.workerCount, scanAll_eq_map (Nat.le_max_left 1 _)]

end BackendAudit
