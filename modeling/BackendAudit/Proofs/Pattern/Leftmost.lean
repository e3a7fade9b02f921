import BackendAudit.Proofs.Pattern.Attempts

/-!
# The leftmost match, and the next one

Which of the attempts at all places of a text are among its matches.  Successive searches
pass over an attempt only for two reasons: it begins within a match in front of it, or it
is empty and begins where such a match ends.

* `Automaton.leftmost_spec`: no attempt in front of the leftmost match finds any.
* `Automaton.findAll_successive`: every match is what an attempt finds.
* `Automaton.mem_findAll_iff_counts`: a match is what an attempt finds that is not passed over.
* `Automaton.exists_span_of_matchesAt`: where an attempt reads anything, it begins within a match.
-/

namespace BackendAudit.Pattern.Automaton

open Text

variable {A : Automaton}

/-! ## Attempts in a text -/

theorem MatchesAt.isPlace {text : List Char} {start stop : Nat}
    (h : A.MatchesAt text start stop) : IsPlace text start := by
  obtain ⟨before, rest, htext, hstart, _⟩ := h
  exact ⟨before, rest, htext, hstart⟩

theorem matchesAt_iff {seen rest : List Char} {stop : Nat} :
    A.MatchesAt (seen ++ rest) (byteLength seen) stop ↔
      A.attempt seen.getLast? (byteLength seen) A.start rest = some stop := by
  constructor
  · rintro ⟨before, rest', htext, hstart, hstop⟩
    obtain ⟨rfl, rfl⟩ := eq_of_byteLength_eq htext hstart.symm
    exact hstop
  · exact fun hstop => ⟨seen, rest, rfl, rfl, hstop⟩

/-- An attempt finds one match at most. -/
theorem MatchesAt.unique {text : List Char} {start stop stop' : Nat}
    (h : A.MatchesAt text start stop) (h' : A.MatchesAt text start stop') : stop = stop' := by
  obtain ⟨before, rest, rfl, rfl, hstop⟩ := h
  rw [matchesAt_iff.mp h'] at hstop
  exact (Option.some.inj hstop).symm

theorem MatchesAt.le {text : List Char} {start stop : Nat}
    (h : A.MatchesAt text start stop) : start ≤ stop := by
  obtain ⟨before, rest, rfl, rfl, hstop⟩ := h
  exact (attempt_ends hstop).2

/-- From the end of `seen` on, an attempt finds a match there or behind the next
character. -/
theorem MatchesAt.eq_or_le {seen rest : List Char} {c : Char} {start stop : Nat}
    (h : A.MatchesAt (seen ++ c :: rest) start stop) (hle : byteLength seen ≤ start) :
    A.attempt seen.getLast? (byteLength seen) A.start (c :: rest) = some stop ∨
      byteLength (seen ++ [c]) ≤ start := by
  rcases h.isPlace.eq_or_le hle with rfl | hlater
  · exact .inl (matchesAt_iff.mp h)
  · exact .inr hlater

/-! ## The leftmost match -/

/-- What is found is the first match that the attempts from the place `lo` on find, or
nothing if they find none. -/
def IsLeftmost (A : Automaton) (text : List Char) (lo : Nat) (found : Option (Nat × Nat)) :
    Prop :=
  (∀ span ∈ found, A.MatchesAt text span.1 span.2 ∧ lo ≤ span.1) ∧
    ∀ start stop, lo ≤ start → A.MatchesAt text start stop → ∃ span ∈ found, span.1 ≤ start

theorem IsLeftmost.matchesAt {text : List Char} {lo start stop : Nat}
    (h : A.IsLeftmost text lo (some (start, stop))) : A.MatchesAt text start stop :=
  (h.1 _ rfl).1

theorem IsLeftmost.lo_le {text : List Char} {lo start stop : Nat}
    (h : A.IsLeftmost text lo (some (start, stop))) : lo ≤ start :=
  (h.1 _ rfl).2

/-- No attempt in front of the leftmost match finds any. -/
theorem IsLeftmost.le {text : List Char} {lo start stop start' stop' : Nat}
    (h : A.IsLeftmost text lo (some (start, stop))) (hmatch : A.MatchesAt text start' stop')
    (hlo : lo ≤ start') : start ≤ start' := by
  obtain ⟨_, hspan, hle⟩ := h.2 start' stop' hlo hmatch
  cases hspan
  exact hle

theorem IsLeftmost.of_attempt {seen rest : List Char} {stop : Nat}
    (h : A.attempt seen.getLast? (byteLength seen) A.start rest = some stop) :
    A.IsLeftmost (seen ++ rest) (byteLength seen) (some (byteLength seen, stop)) := by
  refine ⟨fun span hspan => ?_, fun start _ hle _ => ⟨_, rfl, hle⟩⟩
  cases hspan
  exact ⟨matchesAt_iff.mpr h, Nat.le_refl _⟩

theorem leftmost_spec (seen rest : List Char) :
    A.IsLeftmost (seen ++ rest) (byteLength seen)
      (A.leftmost seen.getLast? (byteLength seen) rest) := by
  induction rest generalizing seen with
  | nil =>
    rw [leftmost]
    cases hattempt : A.attempt seen.getLast? (byteLength seen) A.start [] with
    | some stop => exact .of_attempt hattempt
    | none =>
      refine ⟨by simp, fun start stop hle hmatch => ?_⟩
      have hend : start = byteLength seen := by
        have := hmatch.isPlace.le
        rw [List.append_nil] at this
        omega
      subst hend
      rw [matchesAt_iff, hattempt] at hmatch
      cases hmatch
  | cons c rest ih =>
    rw [leftmost]
    cases hattempt : A.attempt seen.getLast? (byteLength seen) A.start (c :: rest) with
    | some stop => exact .of_attempt hattempt
    | none =>
      have hlater := ih (seen ++ [c])
      rw [List.getLast?_concat, List.append_assoc, List.singleton_append] at hlater
      have hseen : byteLength (seen ++ [c]) = byteLength seen + c.utf8Size := by simp
      rw [Option.map_none, Option.none_or, ← hseen]
      refine ⟨fun span hspan => ?_, fun start stop hle hmatch => ?_⟩
      · have := hlater.1 span hspan
        exact ⟨this.1, by omega⟩
      · rcases hmatch.eq_or_le hle with hhere | hle'
        · rw [hattempt] at hhere
          cases hhere
        · exact hlater.2 start stop hle' hmatch

/-- A search finds the leftmost match. -/
theorem find?_isLeftmost (seen rest : List Char) :
    A.IsLeftmost (seen ++ rest) (byteLength seen)
      (A.find? seen.getLast? (byteLength seen) rest) := by
  rw [find?_eq_leftmost]
  exact leftmost_spec seen rest

/-! ## Successive matches -/

/-- The matches that successive searches find from the place `lo` on, when the match in
front of them ends at `last`. -/
inductive Successive (A : Automaton) (text : List Char) :
    Nat → Option Nat → List (Nat × Nat) → Prop
  | done {lo : Nat} {last : Option Nat} (hnone : A.IsLeftmost text lo none) :
    Successive A text lo last []
  /-- An empty match at the end of the one in front does not count, and the search is
  taken up again at the next place. -/
  | pass {lo stop next : Nat} {spans : List (Nat × Nat)}
    (hfound : A.IsLeftmost text lo (some (stop, stop))) (hlt : stop < next)
    (hnext : ∀ place, IsPlace text place → stop < place → next ≤ place)
    (hrest : Successive A text next (some stop) spans) :
    Successive A text lo (some stop) spans
  | take {lo start stop : Nat} {last : Option Nat} {spans : List (Nat × Nat)}
    (hfound : A.IsLeftmost text lo (some (start, stop)))
    (hcounts : ¬(start = stop ∧ last = some stop))
    (hrest : Successive A text stop (some stop) spans) :
    Successive A text lo last ((start, stop) :: spans)

/-- Behind an empty match at the end of the text there is none. -/
theorem Successive.of_end {text : List Char} {lo : Nat}
    (hfound : A.IsLeftmost text lo (some (byteLength text, byteLength text))) :
    A.Successive text lo (some (byteLength text)) [] := by
  refine .pass hfound (Nat.lt_succ_self _) (fun place hplace hlt => hlt) (.done ?_)
  refine ⟨by simp, fun start stop hle hmatch => ?_⟩
  have := hmatch.isPlace.le
  omega

theorem findAllFrom_successive (seen rest : List Char) {resume : Nat} {last : Option Nat}
    (hresume : resume ≤ byteLength seen ∨ IsPlace (seen ++ rest) resume)
    (hlast : ∀ stop ∈ last, stop ≤ resume) :
    A.Successive (seen ++ rest) (max (byteLength seen) resume) last
      (A.findAllFrom seen.getLast? (byteLength seen) resume last [] rest) := by
  induction rest generalizing seen resume last with
  | nil =>
    have hle : resume ≤ byteLength seen :=
      hresume.elim id fun hplace => by simpa using hplace.le
    have hfound := find?_isLeftmost (A := A) seen []
    rw [findAllFrom, if_neg (by omega), Nat.max_eq_left hle]
    cases hfind : A.find? seen.getLast? (byteLength seen) [] with
    | none =>
      rw [hfind] at hfound
      exact .done hfound
    | some span =>
      rw [hfind] at hfound
      -- nothing is left to be read, so the match is empty
      obtain ⟨hspan, hlo⟩ := isSpan_of_find? hfind
      have hspan_le := hspan.le
      have hend := hspan.isPlace_end.le
      rw [List.append_nil] at hend
      obtain rfl : span = (byteLength (seen ++ []), byteLength (seen ++ [])) := by
        rw [List.append_nil]
        exact Prod.ext (by omega) (by omega)
      dsimp only
      split
      · rename_i hlast
        rw [hlast.2]
        exact .of_end hfound
      · rename_i hcounts
        exact .take hfound (by simpa using hcounts) (.of_end (by simpa using hfound))
  | cons c rest ih =>
    have htext : seen ++ c :: rest = seen ++ [c] ++ rest := by simp
    have hbefore : some c = (seen ++ [c]).getLast? := List.getLast?_concat.symm
    have hnext : byteLength seen + c.utf8Size = byteLength (seen ++ [c]) := by simp
    have hsize : 0 < c.utf8Size := c.utf8Size_pos
    have hbehind : ∀ place, IsPlace (seen ++ c :: rest) place → byteLength seen < place →
        byteLength (seen ++ [c]) ≤ place := fun place hplace hlt =>
      (hplace.eq_or_le (Nat.le_of_lt hlt)).resolve_left (by omega)
    rw [findAllFrom]
    split
    · rename_i hlt
      have hplace : IsPlace (seen ++ c :: rest) resume := hresume.resolve_left (by omega)
      have hle := hbehind resume hplace hlt
      have hrest := @ih (seen ++ [c]) resume last (.inr (htext ▸ hplace)) hlast
      rw [← htext, ← hbefore, ← hnext, Nat.max_eq_right (by omega)] at hrest
      rw [Nat.max_eq_right (by omega)]
      exact hrest
    · rename_i hle
      have hfound := find?_isLeftmost (A := A) seen (c :: rest)
      rw [Nat.max_eq_left (by omega)]
      cases hfind : A.find? seen.getLast? (byteLength seen) (c :: rest) with
      | none =>
        rw [hfind] at hfound
        exact .done hfound
      | some span =>
        rw [hfind] at hfound
        obtain ⟨hspan, hlo⟩ := isSpan_of_find? hfind
        obtain ⟨start, stop⟩ := span
        have hspan_le : start ≤ stop := hspan.le
        dsimp only at hlo ⊢
        split
        · rename_i hpass
          obtain ⟨rfl, rfl⟩ := hpass
          have hstart : start = byteLength seen := by
            have := hlast start rfl
            omega
          have hrest := @ih (seen ++ [c]) (byteLength (seen ++ [c])) (some start)
            (.inl (Nat.le_refl _)) (fun stop hstop => by cases hstop; omega)
          rw [← htext, ← hbefore, ← hnext, Nat.max_self] at hrest
          refine .pass hfound (by omega) (fun place hplace hlt => ?_) hrest
          have := hbehind place hplace (by omega)
          omega
        · rename_i hcounts
          have hplace : IsPlace (seen ++ c :: rest) stop := hspan.isPlace_end
          have hrest := @ih (seen ++ [c]) stop (some stop) (.inr (htext ▸ hplace))
            (fun _ h => by cases h; exact Nat.le_refl _)
          rw [← htext, ← hbefore, ← hnext] at hrest
          rw [findAllFrom_eq_append]
          refine .take hfound hcounts ?_
          by_cases hlt : byteLength seen < stop
          · have := hbehind stop hplace hlt
            rwa [Nat.max_eq_right (by omega)] at hrest
          · -- an empty match right here: the search is taken up behind the next character
            obtain rfl : start = byteLength seen := by omega
            obtain rfl : stop = byteLength seen := by omega
            rw [Nat.max_eq_left (by omega)] at hrest
            exact .pass hfound (by omega) hbehind (hnext ▸ hrest)

/-- The matches of a text are those of successive searches from its start. -/
theorem findAll_successive (text : List Char) : A.Successive text 0 none (A.findAll text) :=
  findAllFrom_successive [] text (.inl (Nat.le_refl _)) (by simp)

/-- An attempt that finds `span` is passed over behind the match `earlier` when it begins
within that match, or is empty and begins where that match ends. -/
def PassedOver (earlier span : Nat × Nat) : Prop :=
  earlier.1 < span.1 ∧ (span.1 < earlier.2 ∨ span.1 = earlier.2 ∧ span.1 = span.2)

/-- The matches are what attempts find. -/
theorem Successive.matchesAt {text : List Char} {lo : Nat} {last : Option Nat}
    {spans : List (Nat × Nat)} (h : A.Successive text lo last spans) :
    ∀ span ∈ spans, A.MatchesAt text span.1 span.2 ∧ lo ≤ span.1 := by
  induction h with
  | done _ => simp
  | pass hfound hlt _ _ ih =>
    intro span hspan
    have hle := hfound.lo_le
    obtain ⟨hmatch, hnext⟩ := ih span hspan
    exact ⟨hmatch, by omega⟩
  | take hfound _ _ ih =>
    intro span hspan
    rcases List.mem_cons.mp hspan with rfl | hspan
    · exact ⟨hfound.matchesAt, hfound.lo_le⟩
    · have hle := hfound.lo_le
      have hle' := hfound.matchesAt.le
      obtain ⟨hmatch, hstop⟩ := ih span hspan
      exact ⟨hmatch, by omega⟩

/-- No match is empty at the end of the one in front of all. -/
theorem Successive.counts {text : List Char} {lo : Nat} {last : Option Nat}
    {spans : List (Nat × Nat)} (h : A.Successive text lo last spans)
    (hlast : ∀ stop ∈ last, stop ≤ lo) :
    ∀ span ∈ spans, ¬(span.1 = span.2 ∧ last = some span.2) := by
  induction h with
  | done _ => simp
  | pass _ hlt _ _ ih => exact ih fun _ h => by cases h; omega
  | @take lo start stop last spans hfound hcounts hrest ih =>
    intro span hspan
    rcases List.mem_cons.mp hspan with rfl | hspan
    · exact hcounts
    · rintro ⟨hempty, rfl⟩
      -- all places from the end of the one in front up to this match are the same
      have hfront := hlast _ rfl
      have hlo := hfound.lo_le
      have hle := hfound.matchesAt.le
      have hbehind := (hrest.matchesAt span hspan).2
      exact ih (fun _ h => by cases h; exact Nat.le_refl _) span hspan
        ⟨hempty, by rw [show stop = span.2 by omega]⟩

/-- The matches begin one behind the other. -/
theorem Successive.ascending {text : List Char} {lo : Nat} {last : Option Nat}
    {spans : List (Nat × Nat)} (h : A.Successive text lo last spans) :
    spans.Pairwise fun x y => x.1 < y.1 := by
  induction h with
  | done _ => exact List.Pairwise.nil
  | pass _ _ _ _ ih => exact ih
  | @take lo start stop last spans hfound _ hrest ih =>
    refine List.pairwise_cons.mpr ⟨fun span hspan => ?_, ih⟩
    obtain ⟨hmatch, hbehind⟩ := hrest.matchesAt span hspan
    have hle := hfound.matchesAt.le
    refine Nat.lt_of_le_of_ne (Nat.le_trans hle hbehind) fun hsame => ?_
    -- the same place would have the same match, and that would not count behind itself
    dsimp only at hsame
    have hend : stop = span.2 := hfound.matchesAt.unique (hsame ▸ hmatch)
    have hempty : span.1 = span.2 := by omega
    exact hrest.counts (fun _ h => by cases h; exact Nat.le_refl _) span hspan
      ⟨hempty, by rw [hend]⟩

/-- No match is passed over behind another. -/
theorem Successive.not_passedOver {text : List Char} {lo : Nat} {last : Option Nat}
    {spans : List (Nat × Nat)} (h : A.Successive text lo last spans) :
    ∀ earlier ∈ spans, ∀ span ∈ spans, ¬PassedOver earlier span := by
  induction h with
  | done _ => simp
  | pass _ _ _ _ ih => exact ih
  | @take lo start stop last spans hfound _ hrest ih =>
    intro earlier hearlier span hspan hpassed
    have hle := hfound.matchesAt.le
    rcases List.mem_cons.mp hspan with rfl | hspan
    · rcases List.mem_cons.mp hearlier with rfl | hearlier
      · exact Nat.lt_irrefl _ hpassed.1
      · have := (hrest.matchesAt earlier hearlier).2
        have := hpassed.1
        omega
    · rcases List.mem_cons.mp hearlier with rfl | hearlier
      · have hbehind := (hrest.matchesAt span hspan).2
        rcases hpassed.2 with hwithin | ⟨hend, hempty⟩
        · exact absurd hwithin (by omega)
        · refine hrest.counts (fun _ h => by cases h; exact Nat.le_refl _) span hspan ⟨hempty, ?_⟩
          rw [← hempty, hend]
      · exact ih earlier hearlier span hspan hpassed

/-- What an attempt finds is among the matches unless it is passed over. -/
theorem Successive.mem_or {text : List Char} {lo : Nat} {last : Option Nat}
    {spans : List (Nat × Nat)} (h : A.Successive text lo last spans) {start stop : Nat}
    (hmatch : A.MatchesAt text start stop) (hlo : lo ≤ start) :
    (start, stop) ∈ spans ∨ (∃ earlier ∈ spans, PassedOver earlier (start, stop)) ∨
      (start = stop ∧ last = some start) := by
  induction h with
  | done hnone =>
    obtain ⟨_, hfound, _⟩ := hnone.2 start stop hlo hmatch
    cases hfound
  | pass hfound _ hnext _ ih =>
    rcases Nat.lt_or_eq_of_le (hfound.le hmatch hlo) with hlt | rfl
    · exact ih (hnext start hmatch.isPlace hlt)
    · exact .inr (.inr ⟨hfound.matchesAt.unique hmatch, rfl⟩)
  | @take lo first end' last spans hfound _ _ ih =>
    rcases Nat.lt_or_eq_of_le (hfound.le hmatch hlo) with hlt | rfl
    · by_cases hwithin : start < end'
      · exact .inr (.inl ⟨_, List.mem_cons_self, hlt, .inl hwithin⟩)
      · rcases ih (by omega) with hmem | ⟨earlier, hearlier, hpassed⟩ | ⟨hempty, hend⟩
        · exact .inl (List.mem_cons_of_mem _ hmem)
        · exact .inr (.inl ⟨earlier, List.mem_cons_of_mem _ hearlier, hpassed⟩)
        · exact .inr (.inl ⟨_, List.mem_cons_self, hlt, .inr ⟨(Option.some.inj hend).symm, hempty⟩⟩)
    · obtain rfl := hfound.matchesAt.unique hmatch
      exact .inl List.mem_cons_self

/-- A match is what an attempt finds that is not passed over behind another match. -/
theorem mem_findAll_iff_counts {text : List Char} {start stop : Nat} :
    (start, stop) ∈ A.findAll text ↔
      A.MatchesAt text start stop ∧
        ∀ earlier ∈ A.findAll text, ¬PassedOver earlier (start, stop) := by
  have h := findAll_successive (A := A) text
  constructor
  · exact fun hmem => ⟨(h.matchesAt _ hmem).1, fun earlier hearlier =>
      h.not_passedOver earlier hearlier _ hmem⟩
  · rintro ⟨hmatch, hnone⟩
    rcases h.mem_or hmatch (Nat.zero_le _) with hmem | ⟨earlier, hearlier, hpassed⟩ | ⟨_, hlast⟩
    · exact hmem
    · exact absurd hpassed (hnone earlier hearlier)
    · cases hlast

theorem findAll_ascending (text : List Char) :
    (A.findAll text).Pairwise fun x y => x.1 < y.1 :=
  (findAll_successive text).ascending

/-- Where an attempt reads anything, it begins within a match. -/
theorem exists_span_of_matchesAt {text : List Char} {start stop : Nat}
    (h : A.MatchesAt text start stop) (hlt : start < stop) :
    ∃ span ∈ A.findAll text, span.1 ≤ start ∧ start < span.2 := by
  rcases (findAll_successive text).mem_or h (Nat.zero_le _) with
    hmem | ⟨earlier, hearlier, hbehind, hwithin | ⟨_, hempty⟩⟩ | ⟨hempty, _⟩
  · exact ⟨_, hmem, Nat.le_refl _, hlt⟩
  · exact ⟨earlier, hearlier, Nat.le_of_lt hbehind, hwithin⟩
  · exact absurd hempty (Nat.ne_of_lt hlt)
  · exact absurd hempty (Nat.ne_of_lt hlt)

end BackendAudit.Pattern.Automaton
