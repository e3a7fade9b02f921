import BackendAudit.Proofs.Pattern.Language
import Mathlib.Tactic.Tauto

/-!
# The automaton finds what the expression reads

The automaton of an expression finds a match at a place just when the expression reads
something from there, and what it finds is something that the expression reads.

The proof compares the edges of the automaton with the expression at one place of the text,
from the last place to the first.

* `Automaton.leads_first`: edges from the front of an expression lead on behind what it
  reads.
* `Expr.Agrees.of_placed`: the edges behind each step do the same for the rest of the expression.
  Edges that the automaton leaves out, since they stand elsewhere in the same list, are
  accounted for by `Expr.Continues`.
* `Automaton.leads_ofExpr_iff`, and from it `Automaton.fits_of_matchesAt` and
  `Automaton.isMatch_ofExpr_iff`.
-/

namespace BackendAudit.Pattern

open Text Relation

/-- Writing down the answers for ASCII does not change them. -/
theorem CharTest.accepts_ofSet (s : CharSet) (c : Char) :
    (CharTest.ofSet s).accepts c = s.accepts c := by
  rw [CharTest.accepts, CharTest.ofSet, CharSet.accepts]
  by_cases hc : c.toNat < 128
  · simp [hc]
  · simp [hc]

/-! ## Ways along edges -/

/-- Whether all assertions of an edge hold at a place. -/
def Edge.isOpenAt (e : Edge) (x : Cut) : Bool :=
  e.looks.all fun l => l.holds x.before x.rest.head?

/-- A way along edges leads from a place to the end `y` of a match. -/
inductive Edge.LeadsTo (A : Automaton) (y : Cut) : Edge → Cut → Prop
  | stop {e : Edge} (hopen : e.isOpenAt y = true) (htarget : e.target = none) : LeadsTo A y e y
  | step {e e' : Edge} {n : Nat} {before : Option Char} {c : Char} {rest : List Char}
    {next : List Edge} (hopen : e.isOpenAt ⟨before, c :: rest⟩ = true)
    (htarget : e.target = some n) (hread : A.readOn? (some c) n = some next) (he' : e' ∈ next)
    (hlater : LeadsTo A y e' ⟨some c, rest⟩) : LeadsTo A y e ⟨before, c :: rest⟩

namespace Automaton

variable {A : Automaton} {x y : Cut}

/-- One of the edges leads from a place to the end `y` of a match. -/
def Leads (A : Automaton) (y : Cut) (edges : List Edge) (x : Cut) : Prop :=
  ∃ e ∈ edges, e.LeadsTo A y x

/-- Reading with a step leads on to the end `y` of a match. -/
def StepLeads (A : Automaton) (y : Cut) (n : Nat) (x : Cut) : Prop :=
  ∃ c rest next, x.rest = c :: rest ∧ A.readOn? (some c) n = some next ∧
    A.Leads y next ⟨some c, rest⟩

theorem leadsTo_iff {e : Edge} : e.LeadsTo A y x ↔ e.isOpenAt x = true ∧
    (e.target = none ∧ x = y ∨ ∃ n, e.target = some n ∧ A.StepLeads y n x) := by
  constructor
  · intro h
    cases h with
    | stop hopen htarget => exact ⟨hopen, .inl ⟨htarget, rfl⟩⟩
    | step hopen htarget hread he' hlater =>
      exact ⟨hopen, .inr ⟨_, htarget, _, _, _, rfl, hread, _, he', hlater⟩⟩
  · rintro ⟨hopen, ⟨htarget, rfl⟩ | ⟨n, htarget, c, rest, next, hrest, hread, e', he', hlater⟩⟩
    · exact .stop hopen htarget
    · obtain ⟨before, _⟩ := x
      cases hrest
      exact .step hopen htarget hread he' hlater

@[simp] theorem leads_nil : A.Leads y [] x ↔ False := by
  simp [Leads]

/-- The edge without assertions to a step. -/
theorem leads_step {n : Nat} : A.Leads y [⟨[], some n⟩] x ↔ A.StepLeads y n x := by
  simp [Leads, leadsTo_iff, Edge.isOpenAt]

/-- The edge without assertions to the end. -/
theorem leads_stop : A.Leads y [⟨[], none⟩] x ↔ x = y := by
  simp [Leads, leadsTo_iff, Edge.isOpenAt]

theorem isOpenAt_guarded (l : Look) (e : Edge) :
    (e.guarded l).isOpenAt x = (l.holdsAt x && e.isOpenAt x) := by
  rw [Edge.guarded]
  split
  · rename_i hmem
    -- the assertion is among those of the edge already
    rw [Bool.eq_iff_iff, Bool.and_eq_true]
    refine ⟨fun hopen => ⟨?_, hopen⟩, fun h => h.2⟩
    exact List.all_eq_true.mp hopen l (List.contains_iff_mem.mp hmem)
  · rfl

theorem target_guarded (l : Look) (e : Edge) : (e.guarded l).target = e.target := by
  rw [Edge.guarded]
  split <;> rfl

theorem leads_map_guarded (l : Look) (k : List Edge) :
    A.Leads y (k.map (Edge.guarded l)) x ↔ l.holdsAt x = true ∧ A.Leads y k x := by
  simp only [Leads, List.mem_map, exists_exists_and_eq_and, leadsTo_iff, isOpenAt_guarded,
    target_guarded, Bool.and_eq_true]
  constructor
  · rintro ⟨e, he, ⟨hl, hopen⟩, hend⟩
    exact ⟨hl, e, he, hopen, hend⟩
  · rintro ⟨hl, e, he, hopen, hend⟩
    exact ⟨e, he, ⟨hl, hopen⟩, hend⟩

theorem leads_joinEdges (xs ys : List Edge) :
    A.Leads y (joinEdges xs ys) x ↔ A.Leads y xs x ∨ A.Leads y ys x := by
  simp only [Leads, joinEdges, List.mem_append, List.mem_filter]
  constructor
  · rintro ⟨e, he | ⟨he, _⟩, hleads⟩
    · exact .inl ⟨e, he, hleads⟩
    · exact .inr ⟨e, he, hleads⟩
  · rintro (⟨e, he, hleads⟩ | ⟨e, he, hleads⟩)
    · exact ⟨e, .inl he, hleads⟩
    · by_cases hmem : e ∈ xs
      · exact ⟨e, .inl hmem, hleads⟩
      · exact ⟨e, .inr ⟨he, by simpa using hmem⟩, hleads⟩

theorem leads_loop (greedy : Bool) (again stop : List Edge) :
    A.Leads y (Expr.loop greedy again stop) x ↔ A.Leads y again x ∨ A.Leads y stop x := by
  cases greedy
  · exact (leads_joinEdges stop again).trans or_comm
  · exact leads_joinEdges again stop

/-- Edges from the front of an expression lead through it without reading, or to one of its
steps. -/
theorem leads_first (e : Expr (Nat × CharSet)) (k : List Edge) :
    A.Leads y (e.first k) x ↔
      e.passes x.before x.rest.head? = true ∧ A.Leads y k x ∨ A.Leads y (e.first []) x := by
  induction e generalizing k with
  | empty => simp [Expr.first, Expr.passes]
  | one p => simp [Expr.first, Expr.passes]
  | look l => simp [Expr.first, Expr.passes, leads_map_guarded, Look.holdsAt]
  | cat a b iha ihb =>
    simp only [Expr.first, Expr.passes, Bool.and_eq_true]
    rw [iha (b.first k), iha (b.first []), ihb k]
    tauto
  | alt a b iha ihb =>
    simp only [Expr.first, Expr.passes, Bool.or_eq_true, leads_joinEdges]
    rw [iha k, ihb k]
    tauto
  | star greedy a ih =>
    simp only [Expr.first, Expr.passes, leads_loop, leads_nil]
    tauto
  | plus greedy a ih => exact ih k

end Automaton

/-! ## Ways and what is read -/

namespace Expr

variable {A : Automaton} {x y z : Cut} {K : Cut → Prop} {e : Expr (Nat × CharSet)}

/-- A numbered expression reads on to a place where `K` holds. -/
def ReadsThen (e : Expr (Nat × CharSet)) (K : Cut → Prop) (x : Cut) : Prop :=
  ∃ z, e.Reads (fun p => p.2.accepts) x z ∧ K z

/-- At a place, the steps of an expression lead to the end `y` of a match just when they read
the next character and the rest of the expression leads to a place where `K` holds. -/
def Agrees (A : Automaton) (y : Cut) : Expr (Nat × CharSet) → (Cut → Prop) → Cut → Prop
  | empty, _, _ => True
  | one (n, s), K, x => A.StepLeads y n x ↔
      ∃ c rest, x.rest = c :: rest ∧ s.accepts c = true ∧ K ⟨some c, rest⟩
  | look _, _, _ => True
  | cat a b, K, x => a.Agrees A y (b.ReadsThen K) x ∧ b.Agrees A y K x
  | alt a b, K, x => a.Agrees A y K x ∧ b.Agrees A y K x
  | star greedy a, K, x => a.Agrees A y ((star greedy a).ReadsThen K) x
  | plus greedy a, K, x => a.Agrees A y ((star greedy a).ReadsThen K) x

/-- Ways from the front of an expression to its steps are ways behind what it reads. -/
theorem Agrees.leads_iff (h : e.Agrees A y K x) :
    A.Leads y (e.first []) x ↔
      ∃ z, e.Reads (fun p => p.2.accepts) x z ∧ z.Behind x ∧ K z := by
  induction e generalizing K with
  | empty =>
    simp only [first, Reads, Automaton.leads_nil, false_iff]
    rintro ⟨z, rfl, hbehind, _⟩
    exact hbehind.irrefl
  | one p =>
    rw [Agrees] at h
    rw [first, Automaton.leads_step, h]
    constructor
    · rintro ⟨c, rest, hrest, haccepts, hK⟩
      have hread : (one p).Reads (fun p => p.2.accepts) x ⟨some c, rest⟩ :=
        ⟨c, hrest, haccepts, rfl⟩
      exact ⟨_, hread, .of_rest_eq hrest, hK⟩
    · rintro ⟨⟨before, rest⟩, ⟨c, hrest, haccepts, rfl⟩, _, hK⟩
      exact ⟨c, rest, hrest, haccepts, hK⟩
  | look l =>
    simp only [first, Reads, List.map_nil, Automaton.leads_nil, false_iff]
    rintro ⟨z, ⟨_, rfl⟩, hbehind, _⟩
    exact hbehind.irrefl
  | cat a b iha ihb =>
    rw [first, Automaton.leads_first, iha h.1, ihb h.2, ← reads_self_iff]
    constructor
    · rintro (⟨ha, z, hb, hbehind, hK⟩ | ⟨w, ha, hbehind, z, hb, hK⟩)
      · exact ⟨z, ⟨x, ha, hb⟩, hbehind, hK⟩
      · exact ⟨z, ⟨w, ha, hb⟩, hbehind.of_upTo hb.upTo, hK⟩
    · rintro ⟨z, ⟨w, ha, hb⟩, hbehind, hK⟩
      rcases ha.upTo.eq_or_behind with rfl | hw
      · exact .inl ⟨ha, z, hb, hbehind, hK⟩
      · exact .inr ⟨w, ha, hw, z, hb, hK⟩
  | alt a b iha ihb =>
    rw [first, Automaton.leads_joinEdges, iha h.1, ihb h.2]
    constructor
    · rintro (⟨z, ha, hz⟩ | ⟨z, hb, hz⟩)
      · exact ⟨z, .inl ha, hz⟩
      · exact ⟨z, .inr hb, hz⟩
    · rintro ⟨z, ha | hb, hz⟩
      · exact .inl ⟨z, ha, hz⟩
      · exact .inr ⟨z, hb, hz⟩
  | star greedy a ih =>
    rw [first, Automaton.leads_loop, Automaton.leads_nil, or_false, ih h]
    constructor
    · rintro ⟨w, ha, hbehind, z, hstar, hK⟩
      exact ⟨z, .head ha hstar, hbehind.of_upTo (upTo_of_reflTransGen hstar), hK⟩
    · rintro ⟨z, hstar, hbehind, hK⟩
      obtain ⟨w, ha, hw, hstar⟩ :=
        Cut.exists_head_of_behind (fun _ _ => Reads.upTo) hstar hbehind
      exact ⟨w, ha, hw, z, hstar, hK⟩
  | plus greedy a ih =>
    rw [first, ih h]
    constructor
    · rintro ⟨w, ha, hbehind, z, hstar, hK⟩
      exact ⟨z, ⟨w, ha, hstar⟩, hbehind.of_upTo (upTo_of_reflTransGen hstar), hK⟩
    · rintro ⟨z, ⟨w, ha, hstar⟩, hbehind, hK⟩
      rcases ha.upTo.eq_or_behind with rfl | hw
      · -- the first repetition has read nothing
        obtain ⟨w, ha, hw, hstar⟩ :=
          Cut.exists_head_of_behind (fun _ _ => Reads.upTo) hstar hbehind
        exact ⟨w, ha, hw, z, hstar, hK⟩
      · exact ⟨w, ha, hw, z, hstar, hK⟩

/-- Reading on from a place is passing the expression, or a way to one of its steps. -/
theorem Agrees.readsThen_iff (h : e.Agrees A y K x) :
    e.ReadsThen K x ↔
      e.passes x.before x.rest.head? = true ∧ K x ∨ A.Leads y (e.first []) x := by
  rw [h.leads_iff, ← reads_self_iff]
  constructor
  · rintro ⟨z, hread, hK⟩
    rcases hread.upTo.eq_or_behind with rfl | hbehind
    · exact .inl ⟨hread, hK⟩
    · exact .inr ⟨z, hread, hbehind, hK⟩
  · rintro (⟨hread, hK⟩ | ⟨z, hread, _, hK⟩)
    · exact ⟨x, hread, hK⟩
    · exact ⟨z, hread, hK⟩

/-! ## The steps of the automaton -/

/-- The steps of an expression are those of the automaton, each with its edges. -/
def Placed (A : Automaton) : Expr (Nat × CharSet) → (List Edge → List Edge) → Prop
  | empty, _ => True
  | one (n, s), kf => A.states[n]? = some ⟨CharTest.ofSet s, kf [⟨[], some n⟩]⟩
  | look _, _ => True
  | cat a b, kf => a.Placed A (fun F => b.first (kf F)) ∧ b.Placed A (fun F => kf (a.first F))
  | alt a b, kf => a.Placed A (fun F => kf (joinEdges F (b.first []))) ∧
      b.Placed A (fun F => kf (joinEdges (a.first []) F))
  | star greedy a, kf => a.Placed A fun _ => loop greedy (a.first []) (kf [])
  | plus greedy a, kf => a.Placed A fun F => loop greedy F (kf F)

/-- At a place, the edges that `kf` gives lead on where `K` holds.  They are given for edges `F`
that stand for those from the front of the expression.  What `F` leaves out, `M`, may be missing
in `kf F` as well. -/
def Continues (A : Automaton) (y : Cut) (e : Expr (Nat × CharSet))
    (kf : List Edge → List Edge) (K : Cut → Prop) (z : Cut) : Prop :=
  ∀ (F : List Edge) (M : Prop), (A.Leads y F z → A.Leads y (e.first []) z) →
    (A.Leads y (e.first []) z → A.Leads y F z ∨ M) →
    (A.Leads y (kf F) z → K z) ∧ (K z → A.Leads y (kf F) z ∨ M)

/-- The edges of an expression that is passed and has nothing else in front lead on where `K`
holds. -/
theorem Continues.leads_iff {kf : List Edge → List Edge} {p : Nat × CharSet}
    (h : (one p).Continues A y kf K z) : A.Leads y (kf [⟨[], some p.1⟩]) z ↔ K z := by
  obtain ⟨hsound, hcomplete⟩ := h [⟨[], some p.1⟩] False id .inl
  exact ⟨hsound, fun hK => (hcomplete hK).resolve_right id⟩

section

variable {a b : Expr (Nat × CharSet)} {kf : List Edge → List Edge} {greedy : Bool}

theorem Continues.cat_left (h : (cat a b).Continues A y kf K z) (hb : b.Agrees A y K z) :
    a.Continues A y (fun F => b.first (kf F)) (b.ReadsThen K) z := by
  intro F M hF hM
  have hfront : A.Leads y (a.first (b.first [])) z ↔ _ := Automaton.leads_first a (b.first [])
  obtain ⟨hsound, hcomplete⟩ := h F (M ∨ A.Leads y (b.first []) z)
    (fun hlead => hfront.mpr (.inr (hF hlead)))
    (fun hlead => by
      rcases hfront.mp hlead with ⟨_, hlead⟩ | hlead
      · exact .inr (.inr hlead)
      · exact (hM hlead).imp_right .inl)
  rw [Automaton.leads_first, hb.readsThen_iff]
  constructor
  · rintro (⟨hpasses, hlead⟩ | hlead)
    · exact .inl ⟨hpasses, hsound hlead⟩
    · exact .inr hlead
  · rintro (⟨hpasses, hK⟩ | hlead)
    · rcases hcomplete hK with hlead | hmissing | hlead
      · exact .inl (.inl ⟨hpasses, hlead⟩)
      · exact .inr hmissing
      · exact .inl (.inr hlead)
    · exact .inl (.inr hlead)

theorem Continues.cat_right (h : (cat a b).Continues A y kf K z) :
    b.Continues A y (fun F => kf (a.first F)) K z := by
  intro F M hF hM
  have hfront : ∀ k, A.Leads y (a.first k) z ↔ _ := Automaton.leads_first a
  refine h (a.first F) M ?_ ?_ <;> rw [first, hfront F, hfront (b.first [])] <;> tauto

theorem Continues.alt_left (h : (alt a b).Continues A y kf K z) :
    a.Continues A y (fun F => kf (joinEdges F (b.first []))) K z := by
  intro F M hF hM
  refine h (joinEdges F (b.first [])) M ?_ ?_ <;>
    rw [first, Automaton.leads_joinEdges, Automaton.leads_joinEdges] <;> tauto

theorem Continues.alt_right (h : (alt a b).Continues A y kf K z) :
    b.Continues A y (fun F => kf (joinEdges (a.first []) F)) K z := by
  intro F M hF hM
  refine h (joinEdges (a.first []) F) M ?_ ?_ <;>
    rw [first, Automaton.leads_joinEdges, Automaton.leads_joinEdges] <;> tauto

/-- Behind the body of a repetition, the repetition is read once more from the start. -/
theorem Agrees.star_readsThen_iff (h : a.Agrees A y ((star greedy a).ReadsThen K) z) :
    (star greedy a).ReadsThen K z ↔ K z ∨ A.Leads y (a.first []) z := by
  have hstar : (star greedy a).Agrees A y K z := h
  rw [hstar.readsThen_iff, first, Automaton.leads_loop, Automaton.leads_nil]
  simp [passes]

theorem Continues.body_star (h : (star greedy a).Continues A y kf K z)
    (ha : a.Agrees A y ((star greedy a).ReadsThen K) z) :
    a.Continues A y (fun _ => loop greedy (a.first []) (kf []))
      ((star greedy a).ReadsThen K) z := by
  intro F M _ _
  obtain ⟨hsound, hcomplete⟩ := h [] (A.Leads y (a.first []) z)
    (fun hlead => (Automaton.leads_nil.mp hlead).elim)
    (fun hlead => by
      rw [first, Automaton.leads_loop, Automaton.leads_nil, or_false] at hlead
      exact .inr hlead)
  rw [Automaton.leads_loop, ha.star_readsThen_iff]
  tauto

theorem Continues.body_plus (h : (plus greedy a).Continues A y kf K z)
    (ha : a.Agrees A y ((star greedy a).ReadsThen K) z) :
    a.Continues A y (fun F => loop greedy F (kf F)) ((star greedy a).ReadsThen K) z := by
  intro F M hF hM
  obtain ⟨hsound, hcomplete⟩ := h F M hF hM
  rw [Automaton.leads_loop, ha.star_readsThen_iff]
  tauto

end

/-- The steps of the automaton agree with an expression at a place if they do so, and lead on as
they should, at all places behind it. -/
theorem Agrees.of_placed {kf : List Edge → List Edge} (hplaced : e.Placed A kf)
    (hbehind : ∀ z : Cut, z.Behind x → e.Agrees A y K z ∧ e.Continues A y kf K z) :
    e.Agrees A y K x := by
  induction e generalizing kf K with
  | empty => trivial
  | one p =>
    have hstep : ∀ c next, A.readOn? (some c) p.1 = some next ↔
        p.2.accepts c = true ∧ kf [⟨[], some p.1⟩] = next := by
      intro c next
      rw [Placed] at hplaced
      simp only [Automaton.readOn?, hplaced, CharTest.accepts_ofSet]
      split <;> simp_all
    constructor
    · rintro ⟨c, rest, next, hrest, hread, hlater⟩
      obtain ⟨haccepts, rfl⟩ := (hstep c next).mp hread
      exact ⟨c, rest, hrest, haccepts, (hbehind _ (.of_rest_eq hrest)).2.leads_iff.mp hlater⟩
    · rintro ⟨c, rest, hrest, haccepts, hK⟩
      exact ⟨c, rest, _, hrest, (hstep c _).mpr ⟨haccepts, rfl⟩,
        (hbehind _ (.of_rest_eq hrest)).2.leads_iff.mpr hK⟩
  | look l => trivial
  | cat a b iha ihb =>
    refine ⟨iha hplaced.1 fun z hz => ?_, ihb hplaced.2 fun z hz => ?_⟩
    · exact ⟨(hbehind z hz).1.1, (hbehind z hz).2.cat_left (hbehind z hz).1.2⟩
    · exact ⟨(hbehind z hz).1.2, (hbehind z hz).2.cat_right⟩
  | alt a b iha ihb =>
    refine ⟨iha hplaced.1 fun z hz => ?_, ihb hplaced.2 fun z hz => ?_⟩
    · exact ⟨(hbehind z hz).1.1, (hbehind z hz).2.alt_left⟩
    · exact ⟨(hbehind z hz).1.2, (hbehind z hz).2.alt_right⟩
  | star greedy a ih =>
    exact ih hplaced fun z hz => ⟨(hbehind z hz).1, (hbehind z hz).2.body_star (hbehind z hz).1⟩
  | plus greedy a ih =>
    exact ih hplaced fun z hz => ⟨(hbehind z hz).1, (hbehind z hz).2.body_plus (hbehind z hz).1⟩

/-- The number behind the last step. -/
theorem number_snd (e : Expr CharSet) (n : Nat) (kf : List Edge → List Edge) :
    (e.number n).2 = n + ((e.number n).1.steps kf).length := by
  induction e generalizing n kf with
  | empty => rfl
  | one s => rfl
  | look l => rfl
  | cat a b iha ihb =>
    simp only [number, steps, List.length_append]
    rw [← Nat.add_assoc, ← iha n, ← ihb]
  | alt a b iha ihb =>
    simp only [number, steps, List.length_append]
    rw [← Nat.add_assoc, ← iha n, ← ihb]
  | star greedy a ih => exact ih n _
  | plus greedy a ih => exact ih n _

/-- The states of the automaton list some steps, from the one with number `n` on. -/
def StepsFrom (A : Automaton) (n : Nat) (steps : List (CharSet × List Edge)) : Prop :=
  ∀ i step, steps[i]? = some step → A.states[n + i]? = some ⟨CharTest.ofSet step.1, step.2⟩

theorem StepsFrom.left {n : Nat} {front back : List (CharSet × List Edge)}
    (h : StepsFrom A n (front ++ back)) : StepsFrom A n front := by
  intro i step hstep
  refine h i step ?_
  rw [List.getElem?_append_left (List.getElem?_eq_some_iff.mp hstep).1]
  exact hstep

theorem StepsFrom.right {n : Nat} {front back : List (CharSet × List Edge)}
    (h : StepsFrom A n (front ++ back)) : StepsFrom A (n + front.length) back := by
  intro i step hstep
  rw [Nat.add_assoc]
  refine h _ step ?_
  rw [List.getElem?_append_right (Nat.le_add_right _ _), Nat.add_sub_cancel_left]
  exact hstep

/-- The steps of a numbered expression are placed where the states of the automaton list them. -/
theorem placed_number {e : Expr CharSet} {n : Nat} {kf : List Edge → List Edge}
    (h : StepsFrom A n ((e.number n).1.steps kf)) : (e.number n).1.Placed A kf := by
  induction e generalizing n kf with
  | empty => trivial
  | one s => exact h 0 _ rfl
  | look l => trivial
  | cat a b iha ihb =>
    have hb := h.right
    rw [← number_snd] at hb
    exact ⟨iha h.left, ihb hb⟩
  | alt a b iha ihb =>
    have hb := h.right
    rw [← number_snd] at hb
    exact ⟨iha h.left, ihb hb⟩
  | star greedy a ih => exact ih h
  | plus greedy a ih => exact ih h

end Expr

/-! ## The automaton of an expression -/

namespace Automaton

variable {A : Automaton} {x y : Cut}

theorem states_ofExpr (e : Expr CharSet) :
    (ofExpr e).states = (((e.number 0).1.steps fun _ => [⟨[], none⟩]).map fun s =>
      ⟨CharTest.ofSet s.1, s.2⟩).toArray := by
  simp only [ofExpr, Expr.build_eq, List.append_nil]

/-- The steps of the automaton agree with the expression at all places. -/
theorem agrees_ofExpr (e : Expr CharSet) (x y : Cut) :
    (e.number 0).1.Agrees (ofExpr e) y (fun z => z = y) x := by
  have hplaced : (e.number 0).1.Placed (ofExpr e) fun _ => [⟨[], none⟩] := by
    refine Expr.placed_number fun i step hstep => ?_
    rw [states_ofExpr, Nat.zero_add]
    simp [hstep]
  -- behind the last step there is the edge that ends the match
  have hend : ∀ z : Cut, (e.number 0).1.Continues (ofExpr e) y (fun _ => [⟨[], none⟩])
      (fun z => z = y) z := by
    intro z F M _ _
    rw [leads_stop]
    exact ⟨id, .inl⟩
  induction hn : x.rest.length using Nat.strongRecOn generalizing x with
  | ind n ih =>
    subst hn
    exact .of_placed hplaced fun z hz => ⟨ih _ hz z rfl, hend z⟩

/-- From the start of the automaton ways lead where the expression reads to. -/
theorem leads_ofExpr_iff {e : Expr CharSet} :
    (ofExpr e).Leads y (ofExpr e).start x ↔ e.Reads CharSet.accepts x y := by
  have hagrees := agrees_ofExpr e x y
  have hnumber : (e.number 0).1.Reads (fun p => p.2.accepts) x y ↔
      e.Reads CharSet.accepts x y := by
    rw [Expr.reads_number e 0]
  rw [start_ofExpr, leads_first, leads_stop, ← hagrees.readsThen_iff, ← hnumber]
  constructor
  · rintro ⟨z, hread, rfl⟩
    exact hread
  · exact fun hread => ⟨y, hread, rfl⟩

/-! ## Attempts -/

/-- An attempt along edges finds the end of a match that one of them leads to. -/
theorem exists_leads_of_attempt {seen rest : List Char} {edges : List Edge} {stop : Nat}
    (h : A.attempt seen.getLast? (byteLength seen) edges rest = some stop) :
    ∃ part after, rest = part ++ after ∧ byteLength (seen ++ part) = stop ∧
      A.Leads (.between (seen ++ part) after) edges (.between seen rest) := by
  induction rest generalizing seen edges with
  | nil =>
    obtain ⟨e, he, hopen, ⟨htarget, rfl⟩ | ⟨_, _, _, _, _, hnil, _⟩⟩ := exists_edge_of_attempt h
    · refine ⟨[], [], rfl, by rw [List.append_nil], e, he, ?_⟩
      rw [List.append_nil]
      exact .stop hopen htarget
    · cases hnil
  | cons c rest ih =>
    obtain ⟨e, he, hopen, ⟨htarget, rfl⟩ | ⟨n, _, _, next, htarget, hcons, hread, hlater⟩⟩ :=
      exists_edge_of_attempt h
    · refine ⟨[], c :: rest, rfl, by rw [List.append_nil], e, he, ?_⟩
      rw [List.append_nil]
      exact .stop hopen htarget
    · cases hcons
      have hseen : byteLength seen + c.utf8Size = byteLength (seen ++ [c]) := by simp
      rw [hseen, ← @List.getLast?_concat _ seen c] at hlater
      obtain ⟨part, after, rfl, hstop, e', he', hleads⟩ := ih hlater
      rw [Cut.between_concat, List.append_assoc, List.singleton_append] at hleads
      rw [List.append_assoc, List.singleton_append] at hstop
      exact ⟨c :: part, after, rfl, hstop, e, he, .step hopen htarget hread he' hleads⟩

/-- An attempt along edges finds a match if one of them leads to any. -/
theorem isSome_attempt_of_leads {edges : List Edge} (h : A.Leads y edges x) (pos : Nat) :
    (A.attempt x.before pos edges x.rest).isSome = true := by
  obtain ⟨e, he, hleads⟩ := h
  induction hleads generalizing edges pos with
  | @stop e hopen htarget =>
    rw [Edge.isOpenAt] at hopen
    have hedge : ∀ go, A.alongEdge y.before y.rest.head? pos go e = some pos := fun go => by
      rw [alongEdge, if_pos hopen, htarget]
    cases hrest : y.rest with
    | nil =>
      rw [hrest] at hedge
      rw [attempt, List.findSome?_isSome_iff]
      exact ⟨e, he, Option.isSome_iff_exists.mpr ⟨pos, hedge _⟩⟩
    | cons c rest =>
      rw [hrest] at hedge
      rw [attempt, List.findSome?_isSome_iff]
      exact ⟨e, he, Option.isSome_iff_exists.mpr ⟨pos, hedge _⟩⟩
  | @step e e' n before c rest next hopen htarget hread he' hlater ih =>
    have hlooks : (e.looks.all fun l => l.holds before (some c)) = true := hopen
    rw [attempt, List.findSome?_isSome_iff]
    refine ⟨e, he, ?_⟩
    rw [alongEdge, if_pos hlooks, htarget]
    simp only [hread, Option.bind_some]
    exact ih _ he'

/-- What an attempt finds at a place is a part of the text that the expression reads there. -/
theorem fits_of_matchesAt {e : Expr CharSet} {text : List Char} {start stop : Nat}
    (h : (ofExpr e).MatchesAt text start stop) :
    ∃ before part after, text = before ++ part ++ after ∧ byteLength before = start ∧
      byteLength (before ++ part) = stop ∧ e.Fits before part after := by
  obtain ⟨before, rest, rfl, rfl, hattempt⟩ := h
  obtain ⟨part, after, rfl, hstop, hleads⟩ := exists_leads_of_attempt hattempt
  exact ⟨before, part, after, (List.append_assoc ..).symm, rfl, hstop, leads_ofExpr_iff.mp hleads⟩

/-- At a place from which the expression reads something, an attempt finds a match. -/
theorem exists_matchesAt_of_fits {e : Expr CharSet} {before part after : List Char}
    (h : e.Fits before part after) :
    ∃ stop, (ofExpr e).MatchesAt (before ++ part ++ after) (byteLength before) stop := by
  have hattempt := isSome_attempt_of_leads (leads_ofExpr_iff.mpr h) (byteLength before)
  obtain ⟨stop, hstop⟩ := Option.isSome_iff_exists.mp hattempt
  exact ⟨stop, before, part ++ after, List.append_assoc .., rfl, hstop⟩

/-- A text has a match if the expression reads a part of it. -/
theorem isMatch_ofExpr_iff {e : Expr CharSet} {text : List Char} :
    (ofExpr e).isMatch text = true ↔
      ∃ before part after, text = before ++ part ++ after ∧ e.Fits before part after := by
  have hfirst : (ofExpr e).IsLeftmost text 0 ((ofExpr e).find? none 0 text) :=
    find?_isLeftmost [] text
  rw [isMatch, Option.isSome_iff_exists]
  constructor
  · rintro ⟨span, hspan⟩
    obtain ⟨before, part, after, htext, _, _, hfits⟩ :=
      fits_of_matchesAt (hfirst.1 span hspan).1
    exact ⟨before, part, after, htext, hfits⟩
  · rintro ⟨before, part, after, rfl, hfits⟩
    obtain ⟨stop, hmatch⟩ := exists_matchesAt_of_fits hfits
    obtain ⟨span, hspan, _⟩ := hfirst.2 _ _ (Nat.zero_le _) hmatch
    exact ⟨span, hspan⟩

end Automaton

end BackendAudit.Pattern
