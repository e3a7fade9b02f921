import BackendAudit.Pattern.Basic
import BackendAudit.Proofs.Text.Places

/-!
# Where matches lie

The matches of a pattern are parts of the text, they come in order, and none begins
before the one in front of it has ended.  Nothing here depends on what the pattern
accepts: it follows from the places at which the search begins threads.

* `Frontier.follow_startsAt` and `Frontier.followAll_startsAt`: a step keeps any
  property of the starts of its threads.
* `Automaton.search_foundIn`: what a search finds is a part of the text that it has
  read, and does not begin before the place where the search began.
* `Automaton.findAll_ordered`: successive searches give matches without overlap.
-/

namespace BackendAudit.Pattern

open Text

/-! ## Starts of threads -/

/-- A property holds of the start of every thread of a frontier, and of the start of the
match that ends there. -/
def Frontier.StartsAt (P : Nat → Prop) (f : Frontier) : Prop :=
  (∀ t ∈ f.threads, P t.start) ∧ ∀ start ∈ f.hit, P start

variable {P : Nat → Prop} {A : Automaton} {before after : Option Char}

theorem Frontier.follow_startsAt {start : Nat} (hstart : P start) (edges : List Edge)
    {f : Frontier} (hf : f.StartsAt P) :
    (f.follow A before after start edges).StartsAt P := by
  induction edges generalizing f with
  | nil => exact hf
  | cons e rest ih =>
    rw [Frontier.follow]
    split
    · cases e.target with
      | none => exact ⟨hf.1, fun s hs => by cases hs; exact hstart⟩
      | some n =>
        dsimp only
        split
        · exact ih hf
        · split
          · split
            · refine ih ⟨fun t ht => ?_, hf.2⟩
              rcases List.mem_cons.mp ht with rfl | ht
              · exact hstart
              · exact hf.1 t ht
            · exact ih ⟨hf.1, hf.2⟩
          · exact ih ⟨hf.1, hf.2⟩
    · exact ih hf

theorem Frontier.followAll_startsAt {threads : List Thread} (hthreads : ∀ t ∈ threads, P t.start)
    {f : Frontier} (hf : f.StartsAt P) :
    (f.followAll A before after threads).StartsAt P := by
  induction threads generalizing f with
  | nil => exact hf
  | cons t rest ih =>
    have hfollow : (f.follow A before after t.start t.edges).StartsAt P :=
      follow_startsAt (hthreads t List.mem_cons_self) t.edges hf
    rw [Frontier.followAll]
    split
    · exact hfollow
    · exact ih (fun u hu => hthreads u (List.mem_cons_of_mem _ hu)) hfollow

/-! ## What a search finds -/

namespace Automaton

/-- Where a thread may have started that has read `seen`, in a search from `lo` on. -/
def StartIn (lo : Nat) (seen : List Char) (start : Nat) : Prop :=
  IsPlace seen start ∧ lo ≤ start

/-- What a search from `lo` on may have found when it has read `seen`. -/
def FoundIn (lo : Nat) (seen : List Char) (best : Option (Nat × Nat)) : Prop :=
  ∀ span ∈ best, IsSpan seen span ∧ lo ≤ span.1

theorem StartIn.append {lo start : Nat} {seen : List Char} (h : StartIn lo seen start)
    (more : List Char) : StartIn lo (seen ++ more) start :=
  ⟨h.1.append more, h.2⟩

theorem FoundIn.append {lo : Nat} {seen : List Char} {best : Option (Nat × Nat)}
    (h : FoundIn lo seen best) (more : List Char) : FoundIn lo (seen ++ more) best :=
  fun span hspan => ⟨(h span hspan).1.append more, (h span hspan).2⟩

/-- One step of the search, at the place where `seen` ends. -/
theorem search_step (A : Automaton) (before after : Option Char) {lo : Nat}
    {seen : List Char} {threads : List Thread} {best : Option (Nat × Nat)}
    (hlo : lo ≤ byteLength seen)
    (hthreads : ∀ t ∈ threads, StartIn lo seen t.start) (hbest : FoundIn lo seen best) :
    (∀ t ∈ (search.step A before (byteLength seen) threads best after).1,
        StartIn lo seen t.start) ∧
      FoundIn lo seen (search.step A before (byteLength seen) threads best after).2 := by
  have hbegun : ∀ t ∈ (if best.isNone then threads ++ [⟨byteLength seen, A.start⟩] else threads),
      StartIn lo seen t.start := by
    intro t ht
    split at ht
    · rcases List.mem_append.mp ht with ht | ht
      · exact hthreads t ht
      · rw [List.mem_singleton.mp ht]
        exact ⟨isPlace_end seen, hlo⟩
    · exact hthreads t ht
  unfold search.step
  generalize (if best.isNone then threads ++ [⟨byteLength seen, A.start⟩] else threads) = begun
    at hbegun
  have hnew : Frontier.StartsAt (StartIn lo seen) ⟨0, [], none⟩ := ⟨by simp, by simp⟩
  obtain ⟨hnext, hhit⟩ : (Frontier.followAll A before after begun ⟨0, [], none⟩).StartsAt
      (StartIn lo seen) := Frontier.followAll_startsAt hbegun hnew
  refine ⟨fun t ht => hnext t (List.mem_reverse.mp ht), fun span hspan => ?_⟩
  dsimp only at hspan
  split at hspan
  · rename_i start hstart
    cases hspan
    obtain ⟨hplace, hle⟩ := hhit start hstart
    exact ⟨hplace.span_end, hle⟩
  · exact hbest span hspan

/-- What a search finds is a part of the text, not before the place where it began. -/
theorem search_foundIn {lo : Nat} {seen rest : List Char} {threads : List Thread}
    {best : Option (Nat × Nat)} (hlo : lo ≤ byteLength seen)
    (hthreads : ∀ t ∈ threads, StartIn lo seen t.start) (hbest : FoundIn lo seen best) :
    FoundIn lo (seen ++ rest) (A.search before (byteLength seen) threads best rest) := by
  induction rest generalizing before seen threads best with
  | nil =>
    rw [List.append_nil, search]
    exact (search_step A before none hlo hthreads hbest).2
  | cons c rest ih =>
    have hstep := search_step A before (some c) hlo hthreads hbest
    have hseen : byteLength (seen ++ [c]) = byteLength seen + c.utf8Size := by simp
    rw [search]
    split
    · rename_i found hfound
      rw [hfound] at hstep
      exact hstep.2.append (c :: rest)
    · rename_i threads' best' _ hnext
      rw [hnext] at hstep
      have hrest := @ih (some c) (seen ++ [c]) threads' best' (by omega)
        (fun t ht => (hstep.1 t ht).append [c]) (hstep.2.append [c])
      rw [hseen, List.append_assoc] at hrest
      exact hrest

theorem isSpan_of_find? {seen rest : List Char} {span : Nat × Nat}
    (h : A.find? before (byteLength seen) rest = some span) :
    IsSpan (seen ++ rest) span ∧ byteLength seen ≤ span.1 :=
  search_foundIn (Nat.le_refl _) (by simp) (by simp [FoundIn]) span h

/-! ## Successive matches -/

/-- The matches found before only stand in front. -/
theorem findAllFrom_eq_append (pos resume : Nat) (last : Option Nat) (done : List (Nat × Nat))
    (rest : List Char) :
    A.findAllFrom before pos resume last done rest =
      done.reverse ++ A.findAllFrom before pos resume last [] rest := by
  induction rest generalizing before pos resume last done with
  | nil =>
    rw [findAllFrom, findAllFrom]
    split
    · simp
    · split
      · simp
      · split <;> simp
  | cons c rest ih =>
    rw [findAllFrom, findAllFrom]
    split
    · exact ih _ _ _ _
    · split
      · simp
      · split
        · exact ih _ _ _ _
        · rw [ih, ih _ _ _ [_]]
          simp

/-- Spans one behind the other, the first not before `lo`. -/
def Ordered (lo : Nat) (spans : List (Nat × Nat)) : Prop :=
  (∀ span ∈ spans, lo ≤ span.1 ∧ span.1 ≤ span.2) ∧ spans.Pairwise fun x y => x.2 ≤ y.1

theorem Ordered.nil (lo : Nat) : Ordered lo [] :=
  ⟨by simp, List.Pairwise.nil⟩

theorem Ordered.weaken {lo lo' : Nat} {spans : List (Nat × Nat)} (h : Ordered lo spans)
    (hle : lo' ≤ lo) : Ordered lo' spans :=
  ⟨fun span hspan => ⟨Nat.le_trans hle (h.1 span hspan).1, (h.1 span hspan).2⟩, h.2⟩

/-- A span in front of those that begin where it ends. -/
theorem Ordered.cons {lo : Nat} {span : Nat × Nat} {spans : List (Nat × Nat)}
    (hlo : lo ≤ span.1) (hspan : span.1 ≤ span.2) (h : Ordered span.2 spans) :
    Ordered lo (span :: spans) := by
  refine ⟨fun other hother => ?_, List.pairwise_cons.mpr ⟨fun y hy => (h.1 y hy).1, h.2⟩⟩
  rcases List.mem_cons.mp hother with rfl | hother
  · exact ⟨hlo, hspan⟩
  · have := h.1 other hother
    exact ⟨by omega, this.2⟩

/-- Successive searches give parts of the text, one behind the other, from the place
where they are taken up. -/
theorem findAllFrom_ordered {seen rest : List Char} {resume : Nat} {last : Option Nat} :
    (∀ span ∈ A.findAllFrom before (byteLength seen) resume last [] rest,
        IsSpan (seen ++ rest) span) ∧
      Ordered resume (A.findAllFrom before (byteLength seen) resume last [] rest) := by
  induction rest generalizing before seen resume last with
  | nil =>
    rw [findAllFrom]
    split
    · exact ⟨by simp, .nil _⟩
    · split
      · exact ⟨by simp, .nil _⟩
      · rename_i hpos _ s e hfind
        obtain ⟨hspan, hlo⟩ := isSpan_of_find? hfind
        split
        · exact ⟨by simp, .nil _⟩
        · refine ⟨fun span h => ?_, .cons (Nat.le_trans (by omega) hlo) hspan.le (.nil _)⟩
          rw [List.mem_singleton.mp h]
          exact hspan
  | cons c rest ih =>
    have htext : seen ++ c :: rest = seen ++ [c] ++ rest := by simp
    have hseen : byteLength seen + c.utf8Size = byteLength (seen ++ [c]) := by simp
    rw [findAllFrom, htext, hseen]
    split
    · exact ih
    · split
      · exact ⟨by simp, .nil _⟩
      · rename_i hpos _ s e hfind
        obtain ⟨hspan, hlo⟩ := isSpan_of_find? hfind
        rw [htext] at hspan
        split
        · exact ⟨ih.1, ih.2.weaken (by omega)⟩
        · rw [findAllFrom_eq_append]
          refine ⟨fun span h => ?_, .cons (Nat.le_trans (by omega) hlo) hspan.le ih.2⟩
          rcases List.mem_cons.mp h with rfl | h
          · exact hspan
          · exact ih.1 span h

/-- All matches in a text are parts of it, in order and without overlap. -/
theorem findAll_ordered (text : List Char) :
    (∀ span ∈ A.findAll text, IsSpan text span) ∧ Ordered 0 (A.findAll text) :=
  @findAllFrom_ordered A none [] text 0 none

end Automaton

end BackendAudit.Pattern
