import BackendAudit.Files.Walk
import BackendAudit.Proofs.Files.Stride

/-!
# Where paths lead

Following the last link of a path or not makes no difference but at that link
(`Tree.find_false`), so a walk starts from every root that resolves to a directory, if this
can be listed (`Tree.walkRoot_of_find`), and what a path leads to is as well formed as the tree
(`Tree.wellFormed_of_find`).
-/

namespace BackendAudit.Files

namespace Tree

variable {t : Tree}

/-! ## With and without the last link -/

/-- A walk that does not follow the last link comes out where the other does, or at a
link. -/
def SameOrLink (followed unfollowed : Except Fault Spot) : Prop :=
  unfollowed = followed ∨ ∃ place target, unfollowed = .ok ⟨place, some (.link target)⟩

theorem walk_sameOrLink {onLink onLink' : Place → Path → List Name → Except Fault Spot}
    (h : ∀ place target rest, SameOrLink (onLink place target rest) (onLink' place target rest))
    (place : Place) (steps : List Name) :
    SameOrLink (t.walk true onLink place steps) (t.walk false onLink' place steps) := by
  induction steps generalizing place with
  | nil => exact .inl rfl
  | cons step rest ih =>
    rw [walk_cons, walk_cons]
    cases t.stride place step with
    | moved next => exact ih next
    | missing next => exact .inl rfl
    | failed fault => exact .inl rfl
    | linked next target =>
      by_cases hlast : rest.isEmpty = true
      · simp only [hlast, Bool.not_false, Bool.and_self, if_pos]
        exact .inr ⟨_, target, rfl⟩
      · simp only [hlast, Bool.false_and, Bool.false_eq_true, if_false]
        exact h place target rest

theorem walkThrough_sameOrLink (links : Nat) (place : Place) (steps : List Name) :
    SameOrLink (t.walkThrough true links place steps)
      (t.walkThrough false links place steps) := by
  induction links generalizing place steps with
  | zero => exact walk_sameOrLink (fun _ _ _ => .inl rfl) place steps
  | succ links ih => exact walk_sameOrLink (fun _ _ _ => ih _ _) place steps

/-- Without following its last link a path leads to what it leads to with it, or to a
link. -/
theorem find_false (t : Tree) (p : Path) :
    t.find false p = t.find true p ∨ ∃ target, t.find false p = .ok (.link target) := by
  have hspot : SameOrLink (t.spot true p) (t.spot false p) := by
    rw [spot, spot]
    cases p.fault? with
    | some fault => exact .inl rfl
    | none => exact walkThrough_sameOrLink maxLinks _ p.steps
  rcases hspot with heq | ⟨place, target, hlink⟩
  · exact .inl (by rw [find, find, heq])
  · exact .inr ⟨target, by rw [find, hlink]⟩

/-- A walk starts from the directory that its root resolves to, if this can be listed. -/
theorem walkRoot_of_find {root : Path} {entries : List (Name × Node)} {a : Attributes}
    (h : t.find true root = .ok (.directory entries a)) :
    t.walkRoot root = if a.readable then .ok (.directory entries a) else .error .denied := by
  have hopened : walkRoot.opened (.directory entries a) =
      if a.readable then .ok (.directory entries a) else .error .denied := by
    rw [walkRoot.opened, Node.isDirectory, if_pos rfl, Node.listFault?]
    cases a.readable <;> rfl
  rw [walkRoot]
  rcases find_false t root with heq | ⟨target, hlink⟩
  · rw [heq, h]
    exact hopened
  · rw [hlink, h]
    exact hopened

/-- From a root that leads nowhere no walk starts. -/
theorem walkRoot_of_error {root : Path} {fault : Fault} (h : t.find true root = .error fault) :
    t.walkRoot root = .error fault := by
  rw [walkRoot]
  rcases find_false t root with heq | ⟨target, hlink⟩
  · rw [heq, h]
  · rw [hlink, h]

/-! ## Spots -/

/-- A walk comes out at a spot of the tree. -/
def SpotOf (t : Tree) (result : Except Fault Spot) : Prop :=
  ∀ s, result = .ok s → s.node = t.top.at? s.place

theorem spotOf_error (e : Fault) : t.SpotOf (.error e) := by
  intro s hs
  cases hs

theorem spotOf_ok {s : Spot} (h : s.node = t.top.at? s.place) : t.SpotOf (.ok s) := by
  intro s' hs'
  cases hs'
  exact h

theorem walk_spotOf {follow : Bool} {onLink : Place → Path → List Name → Except Fault Spot}
    (h : ∀ place target rest, t.SpotOf (onLink place target rest)) (place : Place)
    (steps : List Name) : t.SpotOf (t.walk follow onLink place steps) := by
  induction steps generalizing place with
  | nil => exact spotOf_ok rfl
  | cons step rest ih =>
    have hstands := t.stride_stands place step
    rw [walk_cons]
    cases hstride : t.stride place step with
    | moved next => exact ih next
    | failed fault => exact spotOf_error fault
    | missing next =>
      rw [hstride] at hstands
      dsimp only
      split
      · exact spotOf_ok hstands.symm
      · exact spotOf_error _
    | linked next target =>
      rw [hstride] at hstands
      dsimp only
      split
      · exact spotOf_ok hstands.symm
      · exact h place target rest

theorem walkThrough_spotOf (follow : Bool) (links : Nat) (place : Place) (steps : List Name) :
    t.SpotOf (t.walkThrough follow links place steps) := by
  induction links generalizing place steps with
  | zero => exact walk_spotOf (fun _ _ _ => spotOf_error _) place steps
  | succ links ih => exact walk_spotOf (fun _ _ _ => ih _ _) place steps

theorem spot_spotOf (follow : Bool) (p : Path) : t.SpotOf (t.spot follow p) := by
  rw [spot]
  cases p.fault? with
  | some fault => exact spotOf_error fault
  | none => exact walkThrough_spotOf follow maxLinks _ p.steps

/-- What a path leads to stands at the place where the path comes out. -/
theorem spot_of_find {follow : Bool} {p : Path} {n : Node} (h : t.find follow p = .ok n) :
    ∃ place, t.spot follow p = .ok ⟨place, some n⟩ ∧ t.top.at? place = some n := by
  rw [find] at h
  cases hspot : t.spot follow p with
  | error fault =>
    rw [hspot] at h
    cases h
  | ok s =>
    obtain ⟨place, node⟩ := s
    have hnode : node = t.top.at? place := spot_spotOf follow p _ hspot
    cases node with
    | none =>
      rw [hspot] at h
      cases h
    | some m =>
      rw [hspot] at h
      cases h
      exact ⟨place, rfl, hnode.symm⟩

theorem wellFormed_of_find {follow : Bool} {p : Path} {n : Node} (ht : t.WellFormed)
    (h : t.find follow p = .ok n) : n.WellFormed := by
  obtain ⟨place, _, hplace⟩ := spot_of_find h
  exact (ht.top.at? hplace).1

end Tree
end BackendAudit.Files
