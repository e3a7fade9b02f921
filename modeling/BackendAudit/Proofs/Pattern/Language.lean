import BackendAudit.Proofs.Pattern.Passing
import BackendAudit.Proofs.Text.Parts
import Mathlib.Logic.Relation

/-!
# What an expression reads

An expression reads a part of a text if the part is made as the expression says: this is told
by recursion on the expression (`Expr.Reads`), without automata, threads or preferences.

* `Expr.Reads.upTo`: what is read is a part of the text.
* `Expr.reads_self_iff`: an expression reads nothing where it can be passed.
* `Expr.Fits` says of the parts of a text what is read, and has an equation for each way of
  building an expression.
-/

namespace BackendAudit.Pattern

open Text Relation

variable {α : Type}

/-! ## Places -/

/-- A place of a text: the character in front of it, and the text behind it. -/
structure Cut where
  before : Option Char
  rest : List Char

namespace Cut

variable {x y z : Cut}

/-- The place between two parts of a text. -/
def between (before after : List Char) : Cut := ⟨before.getLast?, after⟩

theorem between_concat (before after : List Char) (c : Char) :
    between (before ++ [c]) after = ⟨some c, after⟩ := by
  rw [between, List.getLast?_concat]

/-- A part of a text lies between two places. -/
def UpTo (x y : Cut) : Prop :=
  ∀ before : List Char, x.before = before.getLast? →
    ∃ part after, x.rest = part ++ after ∧ y = between (before ++ part) after

/-- A place is behind another: less is left there. -/
def Behind (y x : Cut) : Prop := y.rest.length < x.rest.length

theorem Behind.irrefl (h : x.Behind x) : False :=
  Nat.lt_irrefl _ h

theorem Behind.of_rest_eq {before : Option Char} {c : Char} {rest : List Char}
    (h : x.rest = c :: rest) : Behind ⟨before, rest⟩ x := by
  rw [Behind, h]
  exact Nat.lt_succ_self _

theorem UpTo.refl (x : Cut) : x.UpTo x := by
  intro before hbefore
  refine ⟨[], x.rest, rfl, ?_⟩
  rw [List.append_nil, between, ← hbefore]

theorem UpTo.trans (hxy : x.UpTo y) (hyz : y.UpTo z) : x.UpTo z := by
  intro before hbefore
  obtain ⟨part, after, hrest, rfl⟩ := hxy before hbefore
  obtain ⟨part', after', hafter, rfl⟩ := hyz (before ++ part) rfl
  refine ⟨part ++ part', after', ?_, by rw [List.append_assoc]⟩
  rw [hrest, List.append_assoc]
  exact congrArg (part ++ ·) hafter

theorem UpTo.eq_or_behind (h : x.UpTo y) : x = y ∨ y.Behind x := by
  obtain ⟨part, after, hrest, rfl⟩ := h x.before.toList (by cases x.before <;> rfl)
  cases part with
  | nil =>
    left
    obtain ⟨before, rest⟩ := x
    cases before <;> cases hrest <;> rfl
  | cons c part =>
    right
    simp only [Behind, hrest, between, List.length_append, List.length_cons]
    omega

theorem UpTo.antisymm (hxy : x.UpTo y) (hyx : y.UpTo x) : x = y := by
  rcases hxy.eq_or_behind with heq | hlt
  · exact heq
  · rcases hyx.eq_or_behind with heq | hlt'
    · exact heq.symm
    · exact absurd hlt (Nat.lt_asymm hlt')

theorem Behind.of_upTo (h : y.Behind x) (hyz : y.UpTo z) : z.Behind x := by
  rcases hyz.eq_or_behind with rfl | hz
  · exact h
  · exact Nat.lt_trans hz h

theorem UpTo.of_reflTransGen {R : Cut → Cut → Prop} (h : ∀ x y, R x y → x.UpTo y)
    (hxy : ReflTransGen R x y) : x.UpTo y := by
  induction hxy with
  | refl => exact .refl x
  | tail _ hstep ih => exact ih.trans (h _ _ hstep)

/-- A repetition that leads on has a first part that does. -/
theorem exists_head_of_behind {R : Cut → Cut → Prop} (h : ∀ x y, R x y → x.UpTo y)
    (hxy : ReflTransGen R x y) (hbehind : y.Behind x) :
    ∃ z, R x z ∧ z.Behind x ∧ ReflTransGen R z y := by
  induction hxy using ReflTransGen.head_induction_on with
  | refl => exact hbehind.irrefl.elim
  | head hstep hrest ih =>
    rcases (h _ _ hstep).eq_or_behind with rfl | hz
    · exact ih hbehind
    · exact ⟨_, hstep, hz, hrest⟩

end Cut

/-! ## Expressions -/

/-- Whether an assertion holds at a place. -/
def Look.holdsAt (l : Look) (x : Cut) : Bool := l.holds x.before x.rest.head?

/-- Whether an expression, whose single steps read the characters that `accepts` tells, can read
all from a place up to another. -/
def Expr.Reads (accepts : α → Char → Bool) : Expr α → Cut → Cut → Prop
  | empty, x, y => x = y
  | one a, x, y => ∃ c, x.rest = c :: y.rest ∧ accepts a c = true ∧ y.before = some c
  | look l, x, y => l.holdsAt x = true ∧ x = y
  | cat a b, x, z => ∃ y, a.Reads accepts x y ∧ b.Reads accepts y z
  | alt a b, x, y => a.Reads accepts x y ∨ b.Reads accepts x y
  | star _ a, x, y => ReflTransGen (a.Reads accepts) x y
  | plus _ a, x, z => ∃ y, a.Reads accepts x y ∧ ReflTransGen (a.Reads accepts) y z

-- the equations are made once, here, for all proofs about expressions
attribute [grind =] Expr.Reads

namespace Expr

variable {accepts : α → Char → Bool} {x y : Cut}

/-- What an expression reads is a part of the text. -/
theorem Reads.upTo {e : Expr α} (h : e.Reads accepts x y) : x.UpTo y := by
  induction e generalizing x y with
  | empty => exact h ▸ .refl x
  | one a =>
    obtain ⟨c, hrest, _, hbefore⟩ := h
    intro before _
    refine ⟨[c], y.rest, hrest, ?_⟩
    rw [Cut.between_concat, ← hbefore]
  | look l => exact h.2 ▸ .refl x
  | cat a b iha ihb =>
    obtain ⟨z, ha, hb⟩ := h
    exact (iha ha).trans (ihb hb)
  | alt a b iha ihb => exact h.elim iha ihb
  | star greedy a ih => exact .of_reflTransGen (fun _ _ => ih) h
  | plus greedy a ih =>
    obtain ⟨z, ha, hstar⟩ := h
    exact (ih ha).trans (.of_reflTransGen (fun _ _ => ih) hstar)

theorem upTo_of_reflTransGen {e : Expr α} (h : ReflTransGen (e.Reads accepts) x y) : x.UpTo y :=
  .of_reflTransGen (fun _ _ => Reads.upTo) h

/-- An expression reads nothing where it can be passed. -/
theorem reads_self_iff {e : Expr α} :
    e.Reads accepts x x ↔ e.passes x.before x.rest.head? = true := by
  induction e with
  | empty => simp [Reads, passes]
  | one a =>
    simp only [Reads, passes, Bool.false_eq_true, iff_false]
    rintro ⟨c, hrest, _⟩
    exact absurd (congrArg List.length hrest) (by simp)
  | look l => simp [Reads, passes, Look.holdsAt]
  | cat a b iha ihb =>
    rw [Reads, passes, Bool.and_eq_true, ← iha, ← ihb]
    constructor
    · rintro ⟨y, ha, hb⟩
      obtain rfl := ha.upTo.antisymm hb.upTo
      exact ⟨ha, hb⟩
    · rintro ⟨ha, hb⟩
      exact ⟨x, ha, hb⟩
  | alt a b iha ihb => rw [Reads, passes, Bool.or_eq_true, ← iha, ← ihb]
  | star greedy a _ => simp [Reads, passes, ReflTransGen.refl]
  | plus greedy a ih =>
    rw [Reads, passes, ← ih]
    constructor
    · rintro ⟨y, ha, hstar⟩
      obtain rfl := ha.upTo.antisymm (upTo_of_reflTransGen hstar)
      exact ha
    · intro ha
      exact ⟨x, ha, .refl⟩

/-- Numbering the steps does not change what an expression reads. -/
theorem reads_number (e : Expr α) (n : Nat) :
    (e.number n).1.Reads (fun p => accepts p.2) = e.Reads accepts := by
  induction e generalizing n with
  | empty => rfl
  | one a => rfl
  | look l => rfl
  | cat a b iha ihb =>
    funext x y
    simp only [number, Reads, iha, ihb]
  | alt a b iha ihb =>
    funext x y
    simp only [number, Reads, iha, ihb]
  | star greedy a ih =>
    funext x y
    simp only [number, Reads, ih]
  | plus greedy a ih =>
    funext x y
    simp only [number, Reads, ih]

end Expr

/-! ## Parts of a text -/

/-- Whether a set has a character. -/
def CharSet.accepts (s : CharSet) (c : Char) : Bool := s.contains c.toNat

/-- All characters but one. -/
def CharSet.allBut (c : Char) : CharSet := .compl (.ofChar c)

/-- An expression over sets of characters reads a part of a text that stands between two
others. -/
def Expr.Fits (e : Expr CharSet) (before part after : List Char) : Prop :=
  e.Reads CharSet.accepts (.between before (part ++ after)) (.between (before ++ part) after)

namespace Expr

variable {a b : Expr CharSet} {before part after : List Char}

theorem fits_empty : empty.Fits before part after ↔ part = [] := by
  rw [Fits, Reads]
  constructor
  · intro h
    have hrest : part ++ after = after := congrArg Cut.rest h
    exact List.append_left_eq_self.mp hrest
  · rintro rfl
    rw [List.append_nil, List.nil_append]

theorem fits_one {s : CharSet} :
    (one s).Fits before part after ↔ ∃ c, part = [c] ∧ s.accepts c = true := by
  rw [Fits, Reads]
  constructor
  · rintro ⟨c, hrest, haccepts, _⟩
    have hpart : part ++ after = [c] ++ after := hrest
    exact ⟨c, List.append_cancel_right hpart, haccepts⟩
  · rintro ⟨c, rfl, haccepts⟩
    exact ⟨c, rfl, haccepts, List.getLast?_concat⟩

theorem fits_look {l : Look} : (look l).Fits before part after ↔
    l.holds before.getLast? after.head? = true ∧ part = [] := by
  have hempty : Cut.between before (part ++ after) = .between (before ++ part) after ↔ part = [] :=
    fits_empty
  rw [Fits, Reads, hempty]
  constructor
  · rintro ⟨hl, rfl⟩
    exact ⟨hl, rfl⟩
  · rintro ⟨hl, rfl⟩
    exact ⟨hl, rfl⟩

/-- What is read from between two parts on is the beginning of the second. -/
theorem exists_part_of_reads {e : Expr CharSet} {rest : List Char} {y : Cut}
    (h : e.Reads CharSet.accepts (.between before rest) y) :
    ∃ part after, rest = part ++ after ∧ y = .between (before ++ part) after :=
  h.upTo before rfl

theorem fits_cat : (cat a b).Fits before part after ↔
    ∃ p q, part = p ++ q ∧ a.Fits before p (q ++ after) ∧ b.Fits (before ++ p) q after := by
  rw [Fits, Reads]
  constructor
  · rintro ⟨y, ha, hb⟩
    obtain ⟨p, rest, hpart, rfl⟩ := exists_part_of_reads ha
    obtain ⟨q, after', rfl, hend⟩ := exists_part_of_reads hb
    obtain rfl : after = after' := congrArg Cut.rest hend
    rw [← List.append_assoc] at hpart
    obtain rfl := List.append_cancel_right hpart
    rw [List.append_assoc] at ha
    rw [← List.append_assoc] at hb
    exact ⟨p, q, rfl, ha, hb⟩
  · rintro ⟨p, q, rfl, ha, hb⟩
    rw [Fits] at ha hb
    rw [List.append_assoc p q after, ← List.append_assoc before p q]
    exact ⟨_, ha, hb⟩

theorem fits_alt : (alt a b).Fits before part after ↔
    a.Fits before part after ∨ b.Fits before part after :=
  Iff.rfl

theorem fits_star_one {greedy : Bool} {s : CharSet} :
    (star greedy (one s)).Fits before part after ↔ ∀ c ∈ part, s.accepts c = true := by
  rw [Fits, Reads]
  induction part generalizing before with
  | nil =>
    rw [List.append_nil, List.nil_append]
    exact iff_of_true .refl (by simp)
  | cons c part ih =>
    rw [List.append_cons before c part, List.forall_mem_cons, ← @ih (before ++ [c]),
      Cut.between_concat]
    constructor
    · intro hstar
      rcases ReflTransGen.cases_head hstar with heq | ⟨z, ⟨d, hrest, haccepts, hbefore⟩, hstar⟩
      · have hlength := congrArg (fun x : Cut => x.rest.length) heq
        simp only [Cut.between, List.cons_append, List.length_cons, List.length_append] at hlength
        omega
      · obtain ⟨_, _⟩ := z
        cases hrest
        cases hbefore
        exact ⟨haccepts, hstar⟩
    · rintro ⟨haccepts, hstar⟩
      exact .head ⟨c, rfl, haccepts, rfl⟩ hstar

theorem fits_plus_one {greedy : Bool} {s : CharSet} :
    (plus greedy (one s)).Fits before part after ↔
      part ≠ [] ∧ ∀ c ∈ part, s.accepts c = true := by
  have hcat : (plus greedy (one s)).Fits before part after ↔
      (cat (one s) (star greedy (one s))).Fits before part after := Iff.rfl
  rw [hcat, fits_cat]
  constructor
  · rintro ⟨_, q, rfl, hone, hstar⟩
    obtain ⟨c, rfl, hc⟩ := fits_one.mp hone
    exact ⟨by simp, List.forall_mem_cons.mpr ⟨hc, fits_star_one.mp hstar⟩⟩
  · rintro ⟨hne, hpart⟩
    obtain ⟨c, q, rfl⟩ := List.exists_cons_of_ne_nil hne
    obtain ⟨hc, hq⟩ := List.forall_mem_cons.mp hpart
    exact ⟨[c], q, rfl, fits_one.mpr ⟨c, rfl, hc⟩, fits_star_one.mpr hq⟩

/-! ## Sets of characters -/

/-- Reads white space. -/
def blanks : Expr CharSet := star true (one (.property (.binary .whiteSpace)))

theorem fits_blanks : blanks.Fits before part after ↔ Blank part :=
  fits_star_one

theorem accepts_ofChar (c d : Char) : (CharSet.ofChar c).accepts d = true ↔ d = c := by
  rw [CharSet.accepts, CharSet.contains_ofChar, beq_iff_eq]
  exact ⟨fun h => Char.toNat_inj.mp h, fun h => congrArg Char.toNat h⟩

theorem accepts_allBut (c d : Char) : (CharSet.allBut c).accepts d = true ↔ d ≠ c := by
  have hofChar := accepts_ofChar c d
  rw [CharSet.accepts] at hofChar ⊢
  rw [CharSet.allBut, CharSet.contains_compl, Bool.not_eq_true', ne_eq, ← hofChar,
    Bool.not_eq_true]

theorem forall_accepts_allBut {c : Char} :
    (∀ d ∈ part, (CharSet.allBut c).accepts d = true) ↔ c ∉ part := by
  simp only [accepts_allBut]
  exact ⟨fun h hmem => h c hmem rfl, fun h d hd heq => h (heq ▸ hd)⟩

/-! ## Words -/

/-- Reads one word. -/
def chars : List Char → Expr CharSet
  | [] => empty
  | [c] => one (.ofChar c)
  | c :: cs => cat (one (.ofChar c)) (chars cs)

/-- Reads a word, and then on as `e`. -/
def charsThen (e : Expr CharSet) : List Char → Expr CharSet
  | [] => e
  | c :: cs => cat (one (.ofChar c)) (charsThen e cs)

/-- Reads one of several words. -/
def oneOf : List (List Char) → Expr CharSet
  | [] => one .none
  | [word] => chars word
  | word :: words => alt (chars word) (oneOf words)

theorem fits_one_ofChar {c : Char} :
    (one (.ofChar c)).Fits before part after ↔ part = [c] := by
  rw [fits_one]
  constructor
  · rintro ⟨d, rfl, hd⟩
    rw [(accepts_ofChar c d).mp hd]
  · rintro rfl
    exact ⟨c, rfl, (accepts_ofChar c c).mpr rfl⟩

theorem fits_chars {word : List Char} : (chars word).Fits before part after ↔ part = word := by
  induction word using chars.induct generalizing before part with
  | case1 => exact fits_empty
  | case2 c => exact fits_one_ofChar
  | case3 c cs hne ih =>
    rw [chars.eq_3 c cs hne, fits_cat]
    constructor
    · rintro ⟨p, q, rfl, hp, hq⟩
      rw [fits_one_ofChar.mp hp, ih.mp hq]
      rfl
    · rintro rfl
      exact ⟨[c], cs, rfl, fits_one_ofChar.mpr rfl, ih.mpr rfl⟩

theorem fits_charsThen {e : Expr CharSet} {word : List Char} :
    (charsThen e word).Fits before part after ↔
      ∃ q, part = word ++ q ∧ e.Fits (before ++ word) q after := by
  induction word generalizing before part with
  | nil => simp [charsThen]
  | cons c cs ih =>
    rw [charsThen, fits_cat]
    constructor
    · rintro ⟨p, rest, rfl, hp, hrest⟩
      obtain ⟨q, rfl, hq⟩ := ih.mp hrest
      rw [fits_one_ofChar.mp hp, ← List.append_cons] at hq
      exact ⟨q, by rw [fits_one_ofChar.mp hp]; rfl, hq⟩
    · rintro ⟨q, rfl, hq⟩
      rw [List.append_cons] at hq
      exact ⟨[c], cs ++ q, rfl, fits_one_ofChar.mpr rfl, ih.mpr ⟨q, rfl, hq⟩⟩

theorem fits_oneOf {words : List (List Char)} :
    (oneOf words).Fits before part after ↔ part ∈ words := by
  induction words using oneOf.induct with
  | case1 => simp [oneOf, fits_one, CharSet.accepts]
  | case2 word => rw [oneOf, fits_chars, List.mem_singleton]
  | case3 word words hne ih =>
    rw [oneOf.eq_3 word words hne, fits_alt, fits_chars, ih, List.mem_cons]

end Expr

end BackendAudit.Pattern
