import BackendAudit.Proofs.Files.Node

/-!
# One step of a walk

What a step comes to depends on the place and the name alone, and not on the steps behind
it or on what is done about links (`Tree.walk_cons`).  A walk that comes to a directory
goes on from there (`Tree.walkThrough_append`), and goes down to a node that is no link
without meeting one, unless a directory on the way cannot be searched or a name is too long
(`Node.descentFault?`, `Tree.walkThrough_of_at?`).
-/

namespace BackendAudit.Files

/-- What one step of a walk comes to. -/
inductive Stride where
  /-- The walk is at a place. -/
  | moved (place : Place)
  /-- There is a link at a place. -/
  | linked (place : Place) (target : Path)
  /-- There is nothing at a place. -/
  | missing (place : Place)
  | failed (fault : Fault)

/-- What a step says of the place that it comes to. -/
def Stride.Stands (t : Tree) : Stride → Prop
  | .linked place target => t.top.at? place = some (.link target)
  | .missing place => t.top.at? place = none
  | _ => True

namespace Tree

/-- Takes one step from a place. -/
def stride (t : Tree) (place : Place) (step : Name) : Stride :=
  match t.top.at? place with
  | some (.directory entries a) =>
    if step = [] then .moved place
    else if !a.searchable then .failed .denied
    else if step = Name.here then .moved place
    else if step = Name.up then .moved place.dropLast
    else if maxNameLength < step.length then .failed .nameTooLong
    else
      match entries.lookup step with
      | none => .missing (place ++ [step])
      | some (.link target) => .linked (place ++ [step]) target
      | some _ => .moved (place ++ [step])
  | _ => .failed .notDirectory

variable {t : Tree} {follow : Bool} {onLink : Place → Path → List Name → Except Fault Spot}

/-- A walk takes its first step and goes on from where that comes to. -/
theorem walk_cons (place : Place) (step : Name) (rest : List Name) :
    t.walk follow onLink place (step :: rest) =
      match t.stride place step with
      | .moved next => t.walk follow onLink next rest
      | .linked next target =>
        if rest.isEmpty && !follow then .ok ⟨next, some (.link target)⟩
        else onLink place target rest
      | .missing next => if rest.isEmpty then .ok ⟨next, none⟩ else .error .notFound
      | .failed fault => .error fault := by
  rw [walk, stride]
  cases t.top.at? place with
  | none => rfl
  | some n =>
    cases n with
    | file content a => rfl
    | link target => rfl
    | special content a => rfl
    | directory entries a =>
      dsimp only
      by_cases hempty : step = []
      · simp only [if_pos hempty]
      by_cases hclosed : (!a.searchable) = true
      · simp only [if_neg hempty, if_pos hclosed]
      simp only [if_neg hempty, if_neg hclosed]
      by_cases hhere : step = Name.here
      · simp only [if_pos hhere]
      by_cases hup : step = Name.up
      · simp only [if_neg hhere, if_pos hup]
      by_cases hlong : maxNameLength < step.length
      · simp only [if_neg hhere, if_neg hup, if_pos hlong]
      simp only [if_neg hhere, if_neg hup, if_neg hlong]
      cases entries.lookup step with
      | none => rfl
      | some child => cases child <;> rfl

/-- A link that a step meets is there, and what it misses is not. -/
theorem stride_stands (t : Tree) (place : Place) (step : Name) :
    (t.stride place step).Stands t := by
  rw [stride]
  split
  · rename_i entries a hentries
    have hchild : t.top.at? (place ++ [step]) = entries.lookup step :=
      Node.at?_concat hentries step
    split
    · trivial
    split
    · trivial
    split
    · trivial
    split
    · trivial
    split
    · trivial
    split
    · rename_i hnone
      exact hchild.trans hnone
    · rename_i target hlink
      exact hchild.trans hlink
    · trivial
  · trivial

/-- Steps that stay lead nowhere else. -/
theorem walk_stay {place dest : Place} {node : Option Node} {tail : List Name}
    (htail : ∀ step ∈ tail, step = [])
    (h : t.walk follow onLink place tail = .ok ⟨dest, node⟩) : dest = place := by
  induction tail with
  | nil =>
    cases h
    rfl
  | cons step rest ih =>
    have hstep : step = [] := htail step List.mem_cons_self
    have hrest : ∀ other ∈ rest, other = [] := fun other hother =>
      htail other (List.mem_cons_of_mem _ hother)
    rw [walk] at h
    split at h
    · rw [if_pos hstep] at h
      exact ih hrest h
    · cases h

/-! ## Going on from a directory -/

section Append

variable {dest : Place} {entries : List (Name × Node)} {a : Attributes} {tail : List Name}

/-- The steps behind those that lead to a directory are taken from there, if this holds of
the walks behind links. -/
theorem walk_append (htail : ∀ step ∈ tail, step = []) (more : List Name)
    (hlink : ∀ place target lead,
      onLink place target (lead ++ tail) = .ok ⟨dest, some (.directory entries a)⟩ →
        ∃ links, onLink place target (lead ++ more) = t.walkThrough true links dest more)
    {place : Place} {lead : List Name}
    (h : t.walk true onLink place (lead ++ tail) = .ok ⟨dest, some (.directory entries a)⟩) :
    t.walk true onLink place (lead ++ more) = t.walk true onLink dest more ∨
      ∃ links, t.walk true onLink place (lead ++ more) = t.walkThrough true links dest more := by
  induction lead generalizing place with
  | nil =>
    obtain rfl : dest = place := walk_stay htail h
    exact .inl rfl
  | cons step rest ih =>
    rw [List.cons_append, walk_cons] at h ⊢
    cases hstride : t.stride place step with
    | moved next =>
      simp only [hstride] at h ⊢
      exact ih h
    | linked next target =>
      simp only [hstride, Bool.not_true, Bool.and_false, Bool.false_eq_true, if_false] at h ⊢
      exact .inr (hlink place target rest h)
    | missing next =>
      -- nothing is there, so this is not the way to a directory
      simp only [hstride] at h
      split at h <;> cases h
    | failed fault =>
      simp only [hstride] at h
      cases h

/-- A walk that comes to a directory, its last steps being some that stay, goes on from
there with any other steps in their place. -/
theorem walkThrough_append (htail : ∀ step ∈ tail, step = []) {links : Nat}
    {place : Place} {lead : List Name}
    (h : t.walkThrough true links place (lead ++ tail) = .ok ⟨dest, some (.directory entries a)⟩)
    (more : List Name) :
    ∃ left, t.walkThrough true links place (lead ++ more) =
      t.walkThrough true left dest more := by
  induction links generalizing place lead with
  | zero =>
    rcases walk_append htail more (by simp) h with heq | hlinks
    · exact ⟨0, heq⟩
    · exact hlinks
  | succ links ih =>
    rw [walkThrough] at h
    refine (walk_append htail more ?_ h).elim (fun heq => ⟨links + 1, heq⟩) id
    intro place target lead h
    rw [← List.append_assoc] at h ⊢
    exact ih h

end Append

/-! ## Going down to a node -/

end Tree

/-- Why a path cannot go down from a directory to a place below it, if it is so: a directory
on the way cannot be searched, or a name is too long. -/
def Node.descentFault? : Node → Place → Option Fault
  | _, [] => none
  | n, name :: rest =>
    if !n.attributes.searchable then some .denied
    else if maxNameLength < name.length then some .nameTooLong
    else
      match n.child? name with
      | none => none
      | some child => child.descentFault? rest

namespace Tree

section Down

variable {t : Tree} {follow : Bool} {onLink : Place → Path → List Name → Except Fault Spot}
  {dest place rest : Place} {name : Name} {n dir : Node}

/-- On the way down to what is no link, a step comes to the next place, unless the directory
cannot be searched or the name is too long. -/
theorem stride_of_at? (hdir : t.top.at? dest = some dir) (h : dir.at? (name :: rest) = some n)
    (hlink : ∀ target, n ≠ .link target) (hname : name.Valid) :
    t.stride dest name =
      if !dir.attributes.searchable then .failed .denied
      else if maxNameLength < name.length then .failed .nameTooLong
      else .moved (dest ++ [name]) := by
  obtain ⟨entries, a, child, rfl, hchild, hnode⟩ := Node.at?_cons_eq_some.mp h
  rw [stride, hdir]
  simp only [if_neg hname.1, if_neg hname.2.1, if_neg hname.2.2.1, hchild, Node.attributes]
  cases child with
  | link target =>
    cases rest with
    | nil => exact absurd (Option.some.inj hnode).symm (hlink target)
    | cons next rest => cases hnode
  | file content b => rfl
  | directory entries b => rfl
  | special content b => rfl

/-- Down to what is no link there is none on the way; the walk succeeds unless it cannot go
down. -/
theorem walk_of_at? (hdir : t.top.at? dest = some dir) (h : dir.at? place = some n)
    (hlink : ∀ target, n ≠ .link target) (hnames : ∀ name ∈ place, name.Valid) :
    t.walk follow onLink dest place =
      match dir.descentFault? place with
      | some fault => .error fault
      | none => .ok ⟨dest ++ place, some n⟩ := by
  induction place generalizing dest dir with
  | nil =>
    rw [walk, hdir, List.append_nil, ← h]
    rfl
  | cons name rest ih =>
    obtain ⟨hname, hrest⟩ := List.forall_mem_cons.mp hnames
    rw [walk_cons, stride_of_at? hdir h hlink hname, Node.descentFault?]
    obtain ⟨entries, a, child, rfl, hchild, hnode⟩ := Node.at?_cons_eq_some.mp h
    by_cases hclosed : (!(Node.directory entries a).attributes.searchable) = true
    · simp only [if_pos hclosed]
    by_cases hlong : maxNameLength < name.length
    · simp only [if_neg hclosed, if_pos hlong]
    have hnext : t.top.at? (dest ++ [name]) = some child := (Node.at?_concat hdir name).trans hchild
    have hplace : dest ++ [name] ++ rest = dest ++ name :: rest := by simp
    simp only [if_neg hclosed, if_neg hlong, ih hnext hnode hrest, Node.child?, hchild, hplace]

/-- The walk down is the same through any number of links. -/
theorem walkThrough_of_at? (links : Nat) (hdir : t.top.at? dest = some dir)
    (h : dir.at? place = some n) (hlink : ∀ target, n ≠ .link target)
    (hnames : ∀ name ∈ place, name.Valid) :
    t.walkThrough follow links dest place =
      match dir.descentFault? place with
      | some fault => .error fault
      | none => .ok ⟨dest ++ place, some n⟩ := by
  cases links with
  | zero => exact walk_of_at? hdir h hlink hnames
  | succ links => exact walk_of_at? hdir h hlink hnames

end Down

end Tree
end BackendAudit.Files
