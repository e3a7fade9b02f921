import BackendAudit.Files.Walk
import BackendAudit.Proofs.Files.Node

/-!
# What a walk finds

A walk goes through the entries of a directory in the order of their names, and so the
places that it comes upon are in the order of lists of names, which differs from that of
their texts: `a/b` comes before `a-b`, since `a` comes before `a-b`.

* `Node.mem_sights_file`, `Node.mem_sights_closed`: which files are found, and which
  directories are met that cannot be listed.
* `Node.sights_pairwise`: in which order.
-/

namespace BackendAudit.Files

/-! ## Entries in the order of their names -/

theorem Name.le_trans (a b c : Name) (hab : a.le b = true) (hbc : b.le c = true) :
    a.le c = true := by
  simp only [Name.le, decide_eq_true_eq] at *
  exact List.le_trans hab hbc

theorem Name.le_total (a b : Name) : (a.le b || b.le a) = true := by
  simp only [Name.le, Bool.or_eq_true, decide_eq_true_eq]
  exact List.le_total a b

/-- Results with different names come in strictly ascending order. -/
theorem inNameOrder_pairwise {α : Type} {results : List (Name × α)}
    (h : (results.map Prod.fst).Nodup) :
    (inNameOrder results).Pairwise fun a b => a.1 < b.1 := by
  have hsorted : (inNameOrder results).Pairwise fun a b => a.1.le b.1 = true :=
    List.pairwise_mergeSort (fun a b c => Name.le_trans a.1 b.1 c.1)
      (fun a b => Name.le_total a.1 b.1) results
  have hnodup : ((inNameOrder results).map Prod.fst).Nodup :=
    ((List.mergeSort_perm results _).map _).nodup_iff.mpr h
  refine (hsorted.and (List.pairwise_map.mp hnodup)).imp fun {a b} hab => ?_
  obtain ⟨hle, hne⟩ := hab
  simp only [Name.le, decide_eq_true_eq] at hle
  exact (List.le_iff_lt_or_eq.mp hle).resolve_right hne

theorem mem_inNameOrder {α : Type} {results : List (Name × α)} {result : Name × α} :
    result ∈ inNameOrder results ↔ result ∈ results :=
  List.mem_mergeSort

/-! ## Sights -/

@[simp]
theorem Sight.position_map {α β : Type} (f : α → β) (s : Sight α) :
    (s.map f).position = f s.position := by
  cases s <;> rfl

/-- One is at a place before that of the other. -/
def Sight.Before (s s' : Sight Place) : Prop := s.position < s'.position

instance : Std.Irrefl Sight.Before := ⟨fun s => List.lt_irrefl s.position⟩

instance : Std.Antisymm Sight.Before := ⟨fun _ _ h h' => absurd h' (List.lt_asymm h)⟩

variable {excluded : Name → Bool} {listFault? : Place → Option Fault}

/-- What a walk comes upon in one entry of a directory. -/
def sightsIn (excluded : Name → Bool) (listFault? : Place → Option Fault) (e : Name × Node) :
    List (Sight Place) :=
  if e.2.isDirectory && excluded e.1 then []
  else
    Sight.inEntry e.1 (if e.2.isDirectory then listFault? [e.1] else none)
      (e.2.sights excluded fun place => listFault? (e.1 :: place))

theorem entrySights_eq_map (entries : List (Name × Node)) :
    entrySights excluded listFault? entries =
      entries.map fun e => (e.1, sightsIn excluded listFault? e) := by
  induction entries with
  | nil => rfl
  | cons e rest ih => rw [entrySights, ih, List.map_cons, sightsIn]

/-- A directory in another one is entered if its name is not excluded and it can be listed. -/
theorem mem_sightsIn {e : Name × Node} {s : Sight Place} :
    s ∈ sightsIn excluded listFault? e ↔
      (e.2.isDirectory = true ∧ excluded e.1 = false ∧
          ∃ fault, listFault? [e.1] = some fault ∧ s = .closed [e.1] fault) ∨
        ((e.2.isDirectory = true → excluded e.1 = false ∧ listFault? [e.1] = none) ∧
          ∃ below ∈ e.2.sights excluded fun place => listFault? (e.1 :: place),
            below.map (e.1 :: ·) = s) := by
  rw [sightsIn]
  cases hdirectory : e.2.isDirectory with
  | false => simp [Sight.inEntry]
  | true =>
    cases hexcluded : excluded e.1 with
    | true => simp
    | false => cases hfault : listFault? [e.1] <;> simp [Sight.inEntry]

theorem Node.mem_sights_directory {entries : List (Name × Node)} {a : Attributes}
    {s : Sight Place} :
    s ∈ (Node.directory entries a).sights excluded listFault? ↔
      ∃ e ∈ entries, s ∈ sightsIn excluded listFault? e := by
  rw [Node.sights, List.mem_flatMap, entrySights_eq_map]
  constructor
  · rintro ⟨result, hresult, hsight⟩
    obtain ⟨e, he, rfl⟩ := List.mem_map.mp (mem_inNameOrder.mp hresult)
    exact ⟨e, he, hsight⟩
  · rintro ⟨e, he, hsight⟩
    exact ⟨_, mem_inNameOrder.mpr (List.mem_map.mpr ⟨e, he, rfl⟩), hsight⟩

theorem sightsIn_position {e : Name × Node} {s : Sight Place}
    (h : s ∈ sightsIn excluded listFault? e) : ∃ rest, s.position = e.1 :: rest := by
  obtain ⟨-, -, fault, -, rfl⟩ | ⟨-, below, -, rfl⟩ := mem_sightsIn.mp h
  · exact ⟨[], rfl⟩
  · exact ⟨below.position, Sight.position_map _ below⟩

theorem Node.position_ne_nil_of_mem_sights {entries : List (Name × Node)} {a : Attributes}
    {s : Sight Place} (hs : s ∈ (Node.directory entries a).sights excluded listFault?) :
    s.position ≠ [] := by
  obtain ⟨e, -, hsight⟩ := Node.mem_sights_directory.mp hs
  obtain ⟨rest, hposition⟩ := sightsIn_position hsight
  rw [hposition]
  exact List.cons_ne_nil _ _

/-- What is in a directory under a name is in the entry of this name. -/
theorem Node.mem_sights_cons {entries : List (Name × Node)} {a : Attributes}
    (hnames : (entries.map Prod.fst).Nodup) {s : Sight Place} {name : Name} {rest : Place}
    (hs : s.position = name :: rest) :
    s ∈ (Node.directory entries a).sights excluded listFault? ↔
      ∃ child, entries.lookup name = some child ∧
        s ∈ sightsIn excluded listFault? (name, child) := by
  rw [Node.mem_sights_directory]
  constructor
  · rintro ⟨⟨name', child⟩, he, hsight⟩
    obtain ⟨rest', hs'⟩ := sightsIn_position hsight
    obtain rfl : name = name' := (List.cons.inj (hs.symm.trans hs')).1
    exact ⟨child, (lookup_eq_some_iff_mem hnames).mpr he, hsight⟩
  · rintro ⟨child, hlookup, hsight⟩
    exact ⟨(name, child), (lookup_eq_some_iff_mem hnames).mp hlookup, hsight⟩

theorem file_mem_sightsIn {e : Name × Node} {rest : Place} :
    .file (e.1 :: rest) ∈ sightsIn excluded listFault? e ↔
      (e.2.isDirectory = true → excluded e.1 = false ∧ listFault? [e.1] = none) ∧
        .file rest ∈ e.2.sights excluded fun place => listFault? (e.1 :: place) := by
  rw [mem_sightsIn]
  constructor
  · rintro (⟨-, -, fault, -, hclosed⟩ | ⟨hopen, below, hbelow, heq⟩)
    · cases hclosed
    · cases below with
      | closed place fault => cases heq
      | file place =>
        cases heq
        exact ⟨hopen, hbelow⟩
  · rintro ⟨hopen, hbelow⟩
    exact .inr ⟨hopen, _, hbelow, rfl⟩

theorem closed_mem_sightsIn {e : Name × Node} {rest : Place} {fault : Fault} :
    .closed (e.1 :: rest) fault ∈ sightsIn excluded listFault? e ↔
      (rest = [] ∧ e.2.isDirectory = true ∧ excluded e.1 = false ∧ listFault? [e.1] = some fault) ∨
        (e.2.isDirectory = true → excluded e.1 = false ∧ listFault? [e.1] = none) ∧
          .closed rest fault ∈ e.2.sights excluded fun place => listFault? (e.1 :: place) := by
  rw [mem_sightsIn]
  constructor
  · rintro (⟨hdirectory, hname, fault', hfault, hclosed⟩ | ⟨hopen, below, hbelow, heq⟩)
    · cases hclosed
      exact .inl ⟨rfl, hdirectory, hname, hfault⟩
    · cases below with
      | file place => cases heq
      | closed place fault' =>
        cases heq
        exact .inr ⟨hopen, hbelow⟩
  · rintro (⟨rfl, hdirectory, hname, hfault⟩ | ⟨hopen, hbelow⟩)
    · exact .inl ⟨hdirectory, hname, fault, hfault, rfl⟩
    · exact .inr ⟨hopen, _, hbelow, rfl⟩

/-! ## Which files and directories -/

/-- A walk enters the directories with these names, one in the other. -/
structure Entered (excluded : Name → Bool) (listFault? : Place → Option Fault) (names : Place) :
    Prop where
  named : ∀ name ∈ names, excluded name = false
  listed : ∀ place, place ≠ [] → place <+: names → listFault? place = none

theorem entered_nil : Entered excluded listFault? [] where
  named := by simp
  listed place hne hleading := absurd (List.prefix_nil.mp hleading) hne

theorem entered_cons_iff {name : Name} {rest : Place} :
    Entered excluded listFault? (name :: rest) ↔
      (excluded name = false ∧ listFault? [name] = none) ∧
        Entered excluded (fun place => listFault? (name :: place)) rest := by
  constructor
  · rintro ⟨hnamed, hlisted⟩
    refine ⟨⟨hnamed name List.mem_cons_self, hlisted [name] (by simp) (by simp)⟩, ?_, ?_⟩
    · exact fun other hother => hnamed other (List.mem_cons_of_mem _ hother)
    · exact fun place _ hleading => hlisted _ (by simp) (by simpa using hleading)
  · rintro ⟨⟨hname, hfault⟩, hnamed, hlisted⟩
    refine ⟨List.forall_mem_cons.mpr ⟨hname, hnamed⟩, fun place hne hleading => ?_⟩
    obtain rfl | ⟨below, rfl, hbelow⟩ := List.prefix_cons_iff.mp hleading
    · exact absurd rfl hne
    · by_cases hnil : below = []
      · rw [hnil]
        exact hfault
      · exact hlisted below hnil hbelow

/-- Whether the directories above a place are entered, from the first name of the place on. -/
theorem entered_dropLast_cons {name : Name} {rest : Place} :
    Entered excluded listFault? (name :: rest).dropLast ↔
      (rest ≠ [] → excluded name = false ∧ listFault? [name] = none) ∧
        Entered excluded (fun place => listFault? (name :: place)) rest.dropLast := by
  cases rest with
  | nil => simp [entered_nil]
  | cons next rest => simp [entered_cons_iff]

/-- A walk finds the regular files in the directories that it enters.  The last name of a place
is that of the file, which nothing excludes. -/
theorem Node.mem_sights_file {n : Node} (h : n.WellFormed) {place : Place} :
    .file place ∈ n.sights excluded listFault? ↔
      (∃ content a, n.at? place = some (.file content a)) ∧
        Entered excluded listFault? place.dropLast := by
  induction n using Node.inductionOn generalizing place listFault? with
  | file content a =>
    rw [Node.sights, List.mem_singleton]
    simp only [Node.at?_of_not_directory (n := .file content a) rfl]
    constructor
    · rintro ⟨⟩
      exact ⟨⟨content, a, rfl, rfl⟩, entered_nil⟩
    · rintro ⟨⟨_, _, rfl, -⟩, -⟩
      rfl
  | link target => simp [Node.sights, Node.at?_of_not_directory (n := .link target) rfl]
  | special content a =>
    simp [Node.sights, Node.at?_of_not_directory (n := .special content a) rfl]
  | directory entries a ih =>
    obtain ⟨hnames, hentries⟩ := Node.wellFormed_directory.mp h
    cases place with
    | nil => exact iff_of_false (fun hs => Node.position_ne_nil_of_mem_sights hs rfl) (by simp)
    | cons name rest =>
      rw [Node.mem_sights_cons hnames rfl, entered_dropLast_cons]
      constructor
      · rintro ⟨child, hlookup, hsight⟩
        have he := (lookup_eq_some_iff_mem hnames).mp hlookup
        obtain ⟨hopen, hbelow⟩ := file_mem_sightsIn.mp hsight
        obtain ⟨⟨content, b, hat⟩, hdirs⟩ := (ih _ he (hentries _ he).2).mp hbelow
        refine ⟨⟨content, b, Node.at?_cons_eq_some.mpr ⟨_, _, child, rfl, hlookup, hat⟩⟩, ?_, hdirs⟩
        -- an entry that has a file below it is a directory that was entered
        intro hrest
        obtain ⟨next, more, rfl⟩ := List.exists_cons_of_ne_nil hrest
        exact hopen (Node.isDirectory_of_at? hat)
      · rintro ⟨⟨content, b, hat⟩, hopen, hdirs⟩
        obtain ⟨_, _, child, hentries', hlookup, hat⟩ := Node.at?_cons_eq_some.mp hat
        cases hentries'
        have he := (lookup_eq_some_iff_mem hnames).mp hlookup
        refine ⟨child, hlookup, file_mem_sightsIn.mpr
          ⟨fun hdirectory => hopen ?_, (ih _ he (hentries _ he).2).mpr ⟨⟨content, b, hat⟩, hdirs⟩⟩⟩
        rintro rfl
        obtain rfl : child = .file content b := by simpa using hat
        cases hdirectory

/-- A walk meets the directories in those that it enters; one that cannot be listed is told, unless
its name is excluded. -/
theorem Node.mem_sights_closed {n : Node} (h : n.WellFormed) {place : Place} {fault : Fault} :
    .closed place fault ∈ n.sights excluded listFault? ↔
      (∃ entries a, n.at? place = some (.directory entries a)) ∧
        (∃ name, place.getLast? = some name ∧ excluded name = false) ∧
          Entered excluded listFault? place.dropLast ∧ listFault? place = some fault := by
  induction n using Node.inductionOn generalizing place listFault? with
  | file content a =>
    simp [Node.sights, Node.at?_of_not_directory (n := .file content a) rfl]
  | link target => simp [Node.sights, Node.at?_of_not_directory (n := .link target) rfl]
  | special content a =>
    simp [Node.sights, Node.at?_of_not_directory (n := .special content a) rfl]
  | directory entries a ih =>
    obtain ⟨hnames, hentries⟩ := Node.wellFormed_directory.mp h
    cases place with
    | nil => exact iff_of_false (fun hs => Node.position_ne_nil_of_mem_sights hs rfl) (by simp)
    | cons name rest =>
      rw [Node.mem_sights_cons hnames rfl, entered_dropLast_cons]
      constructor
      · rintro ⟨child, hlookup, hsight⟩
        have he := (lookup_eq_some_iff_mem hnames).mp hlookup
        have hat {m : Node} (hm : child.at? rest = some m) :
            (Node.directory entries a).at? (name :: rest) = some m :=
          Node.at?_cons_eq_some.mpr ⟨_, _, child, rfl, hlookup, hm⟩
        obtain ⟨rfl, hdirectory, hname, hfault⟩ | ⟨hopen, hbelow⟩ := closed_mem_sightsIn.mp hsight
        · obtain ⟨inner, b, rfl⟩ := Node.isDirectory_iff.mp hdirectory
          exact ⟨⟨inner, b, hat rfl⟩, ⟨name, rfl, hname⟩, ⟨fun hne => absurd rfl hne, entered_nil⟩,
            hfault⟩
        · obtain ⟨⟨inner, b, hinner⟩, ⟨last, hlast, hnamed⟩, hdirs, hfault⟩ :=
            (ih _ he (hentries _ he).2).mp hbelow
          cases rest with
          | nil => cases hlast
          | cons next rest =>
            exact ⟨⟨inner, b, hat hinner⟩, ⟨last, hlast, hnamed⟩,
              ⟨fun _ => hopen (Node.isDirectory_of_at? hinner), hdirs⟩, hfault⟩
      · rintro ⟨⟨inner, b, hat⟩, ⟨last, hlast, hnamed⟩, ⟨hopen, hdirs⟩, hfault⟩
        obtain ⟨_, _, child, hentries', hlookup, hat⟩ := Node.at?_cons_eq_some.mp hat
        cases hentries'
        have he := (lookup_eq_some_iff_mem hnames).mp hlookup
        refine ⟨child, hlookup, closed_mem_sightsIn.mpr ?_⟩
        cases rest with
        | nil =>
          obtain rfl : child = .directory inner b := by simpa using hat
          obtain rfl : name = last := by simpa using hlast
          exact .inl ⟨rfl, rfl, hnamed, hfault⟩
        | cons next rest =>
          exact .inr ⟨fun _ => hopen (by simp), (ih _ he (hentries _ he).2).mpr
            ⟨⟨inner, b, hat⟩, ⟨last, hlast, hnamed⟩, hdirs, hfault⟩⟩
/-- A walk depends on which directories can be listed, and on no other places. -/
theorem Node.sights_congr {n : Node} (h : n.WellFormed) {listFault?' : Place → Option Fault}
    (hsame : ∀ place entries a, place ≠ [] → n.at? place = some (.directory entries a) →
      listFault? place = listFault?' place) :
    n.sights excluded listFault? = n.sights excluded listFault?' := by
  induction n using Node.inductionOn generalizing listFault? listFault?' with
  | file content a => rfl
  | link target => rfl
  | special content a => rfl
  | directory entries a ih =>
    obtain ⟨hnames, hentries⟩ := Node.wellFormed_directory.mp h
    rw [Node.sights, Node.sights, entrySights_eq_map, entrySights_eq_map]
    congr 2
    refine List.map_congr_left fun e he => ?_
    have hlookup := (lookup_eq_some_iff_mem hnames).mpr he
    have hat {rest : Place} {m : Node} (hm : e.2.at? rest = some m) :
        (Node.directory entries a).at? (e.1 :: rest) = some m :=
      Node.at?_cons_eq_some.mpr ⟨_, _, e.2, rfl, hlookup, hm⟩
    have hbelow : e.2.sights excluded (fun place => listFault? (e.1 :: place)) =
        e.2.sights excluded (fun place => listFault?' (e.1 :: place)) :=
      ih e he (hentries e he).2 fun place inner b _ hinner => hsame _ inner b (by simp) (hat hinner)
    have hfault : (if e.2.isDirectory then listFault? [e.1] else none) =
        if e.2.isDirectory then listFault?' [e.1] else none := by
      cases hchild : e.2 with
      | file content b => rfl
      | link target => rfl
      | special content b => rfl
      | directory inner b => exact hsame [e.1] inner b (by simp) (hat (congrArg some hchild))
    rw [sightsIn, sightsIn, hbelow, hfault]

/-! ## In which order -/

/-- The places come in strictly ascending order, name by name. -/
theorem Node.sights_pairwise {n : Node} (h : n.WellFormed) :
    (n.sights excluded listFault?).Pairwise Sight.Before := by
  induction n using Node.inductionOn generalizing listFault? with
  | file content a => exact List.pairwise_singleton _ _
  | link target => exact List.Pairwise.nil
  | special content a => exact List.Pairwise.nil
  | directory entries a ih =>
    obtain ⟨hnames, hentries⟩ := Node.wellFormed_directory.mp h
    have hnames' : ((entrySights excluded listFault? entries).map Prod.fst).Nodup := by
      rw [entrySights_eq_map, List.map_map]
      exact hnames
    have hstart : ∀ result ∈ inNameOrder (entrySights excluded listFault? entries),
        ∃ e ∈ entries, result = (e.1, sightsIn excluded listFault? e) := by
      intro result hresult
      rw [mem_inNameOrder, entrySights_eq_map] at hresult
      obtain ⟨e, he, rfl⟩ := List.mem_map.mp hresult
      exact ⟨e, he, rfl⟩
    rw [Node.sights, List.pairwise_flatMap]
    constructor
    · intro result hresult
      obtain ⟨e, he, rfl⟩ := hstart result hresult
      dsimp only
      rw [sightsIn]
      split
      · exact List.Pairwise.nil
      cases if e.2.isDirectory then listFault? [e.1] else none with
      | some fault => exact List.pairwise_singleton _ _
      | none =>
        refine List.pairwise_map.mpr ((ih e he (hentries e he).2).imp fun {s s'} hlt => ?_)
        rw [Sight.Before, Sight.position_map, Sight.position_map]
        exact List.cons_lt_cons_iff.mpr (.inr ⟨rfl, hlt⟩)
    · refine (inNameOrder_pairwise hnames').imp_of_mem fun {a b} ha hb hlt s hs s' hs' => ?_
      obtain ⟨e, _, rfl⟩ := hstart a ha
      obtain ⟨e', _, rfl⟩ := hstart b hb
      obtain ⟨rest, hrest⟩ := sightsIn_position hs
      obtain ⟨rest', hrest'⟩ := sightsIn_position hs'
      rw [Sight.Before, hrest, hrest']
      exact List.cons_lt_cons_iff.mpr (.inl hlt)

/-! ## Files and directories apart -/

section Files

variable {α β : Type}

theorem filterMap_file?_map (f : α → β) (sights : List (Sight α)) :
    (sights.map (Sight.map f)).filterMap Sight.file? = (sights.filterMap Sight.file?).map f := by
  induction sights with
  | nil => rfl
  | cons s rest ih => cases s <;> simp [Sight.map, Sight.file?, List.filterMap_cons, ih]

theorem filterMap_file?_filter (pick : α → Bool) (sights : List (Sight α)) :
    (sights.filter (Sight.keptBy pick)).filterMap Sight.file? =
      (sights.filterMap Sight.file?).filter pick := by
  induction sights with
  | nil => rfl
  | cons s rest ih =>
    cases s with
    | closed position fault =>
      simp [List.filter_cons, List.filterMap_cons, Sight.keptBy, Sight.file?, ih]
    | file position =>
      cases hpick : pick position <;> simp [Sight.keptBy, Sight.file?, hpick, ih]

/-- What is made of directories alone is the same however files are picked. -/
theorem filterMap_filter_keptBy {g : Sight α → Option β}
    (hg : ∀ position, g (.file position) = none) (pick : α → Bool) (sights : List (Sight α)) :
    (sights.filter (Sight.keptBy pick)).filterMap g = sights.filterMap g := by
  induction sights with
  | nil => rfl
  | cons s rest ih =>
    cases s with
    | closed position fault => simp [List.filter_cons, List.filterMap_cons, Sight.keptBy, ih]
    | file position => cases hpick : pick position <;> simp [Sight.keptBy, hg, hpick, ih]

end Files

/-- The places of the files that a walk finds. -/
def Node.filePlaces (excluded : Name → Bool) (listFault? : Place → Option Fault) (n : Node) :
    List Place :=
  (n.sights excluded listFault?).filterMap Sight.file?

theorem Node.mem_filePlaces {n : Node} (h : n.WellFormed) {place : Place} :
    place ∈ n.filePlaces excluded listFault? ↔
      (∃ content a, n.at? place = some (.file content a)) ∧
        Entered excluded listFault? place.dropLast := by
  rw [← Node.mem_sights_file h, Node.filePlaces, List.mem_filterMap]
  constructor
  · rintro ⟨s, hs, hfile⟩
    cases s with
    | file place' =>
      obtain rfl : place' = place := Option.some.inj hfile
      exact hs
    | closed place' fault => cases hfile
  · exact fun hs => ⟨_, hs, rfl⟩

theorem Node.filePlaces_pairwise {n : Node} (h : n.WellFormed) :
    (n.filePlaces excluded listFault?).Pairwise (· < ·) := by
  refine List.Pairwise.filterMap _ (fun s s' hlt place hplace place' hplace' => ?_)
    (Node.sights_pairwise h)
  cases s with
  | closed position fault => cases hplace
  | file position =>
    cases s' with
    | closed position' fault => cases hplace'
    | file position' =>
      cases hplace
      cases hplace'
      exact hlt

/-- A directory that a walk cannot list: its place, and why it cannot. -/
structure Shut where
  place : Place
  fault : Fault
  deriving Repr, DecidableEq

/-- One is at a place before that of the other. -/
def Shut.Before (s s' : Shut) : Prop := s.place < s'.place

instance : Std.Irrefl Shut.Before := ⟨fun s => List.lt_irrefl s.place⟩

instance : Std.Antisymm Shut.Before := ⟨fun _ _ h h' => absurd h' (List.lt_asymm h)⟩

/-- The directory that cannot be listed, if it is one. -/
def Sight.shut? : Sight Place → Option Shut
  | file _ => none
  | closed position fault => some ⟨position, fault⟩

/-- The directories that a walk cannot list. -/
def Node.shuts (excluded : Name → Bool) (listFault? : Place → Option Fault) (n : Node) :
    List Shut :=
  (n.sights excluded listFault?).filterMap Sight.shut?

theorem Node.mem_shuts {n : Node} (h : n.WellFormed) {s : Shut} :
    s ∈ n.shuts excluded listFault? ↔
      (∃ entries a, n.at? s.place = some (.directory entries a)) ∧
        (∃ name, s.place.getLast? = some name ∧ excluded name = false) ∧
          Entered excluded listFault? s.place.dropLast ∧ listFault? s.place = some s.fault := by
  rw [← Node.mem_sights_closed h, Node.shuts, List.mem_filterMap]
  constructor
  · rintro ⟨sight, hsight, hshut⟩
    cases sight with
    | file position => cases hshut
    | closed position fault =>
      cases hshut
      exact hsight
  · exact fun hsight => ⟨_, hsight, rfl⟩

theorem Node.shuts_pairwise {n : Node} (h : n.WellFormed) :
    (n.shuts excluded listFault?).Pairwise Shut.Before := by
  refine List.Pairwise.filterMap _ (fun s s' hlt shut hshut shut' hshut' => ?_)
    (Node.sights_pairwise h)
  cases s with
  | file position => cases hshut
  | closed position fault =>
    cases s' with
    | file position' => cases hshut'
    | closed position' fault' =>
      cases hshut
      cases hshut'
      exact hlt

end BackendAudit.Files
