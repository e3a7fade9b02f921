import BackendAudit.Proofs.Json.Grammar
import BackendAudit.Proofs.Json.RoundTrip

/-!
# What is read is a document

The reader accepts exactly the documents, and what it gives is what is written there, with the
members of each object in the order of their names and none that is overridden.

* `Derives.read`: what the grammar derives is read.  The induction is on the derivation, and
  `Phrase.IsRead` says for each part of a document by which function and with how many calls.
* `derives_of_read`: what is read can be derived, by induction on the number of calls.
* `parse?_eq_some_iff` puts both together.
-/

namespace BackendAudit.Json

/-! ## What the grammar derives is read -/

/-- A part of a document is shorter than the text with it. -/
theorem Derives.length_lt {depth : Nat} {p : Phrase} {cs rest : List Char}
    (h : Derives depth p cs rest) : rest.length < cs.length := by
  induction h with
  | null | true | false => simp only [List.length_cons]; omega
  | string h => exact Nat.lt_succ_of_lt h.length_lt
  | number h _ => exact h.length_lt
  | emptyArray h | emptyObject h =>
    have := h.length_le
    simp only [List.length_cons] at this ⊢
    omega
  | array _ ih | object _ ih =>
    simp only [List.length_cons] at ih ⊢
    omega
  | element hfront _ hback ih =>
    have := hfront.length_le
    have := hback.length_le
    omega
  | lastElement _ ih | lastMember _ ih => exact ih
  | nextElement _ _ ih ihrest | nextMember _ _ ih ihrest =>
    simp only [List.length_cons] at ih
    omega
  | member hfront hname hgap _ ih =>
    have := hfront.length_le
    have := hname.length_lt
    have := hgap.length_le
    simp only [List.length_cons] at *
    omega

/-- How a part of a document is read.  Calls are counted twice for each character, since an
opening bracket is followed by a list and its first item. -/
def Phrase.IsRead (depth : Nat) : Phrase → List Char → List Char → Prop
  | .value v, cs, rest => ∀ fuel, 2 * cs.length ≤ fuel → Stops rest →
      readValue fuel depth cs = some (v.settled, rest)
  | .element v, cs, rest => ∀ fuel, 2 * cs.length ≤ fuel → Stops rest →
      ∃ rest', skipSpace rest' = skipSpace rest ∧
        readValue fuel depth cs = some (v.settled, rest')
  | .elements vs, cs, rest => ∀ fuel before rest', 2 * cs.length + 1 ≤ fuel →
      rest = ']' :: rest' →
        readItems fuel depth before cs = some (.array (before.reverse ++ vs.map settled), rest')
  | .member name v, cs, rest => ∃ cs₁, Named cs name cs₁ ∧ cs₁.length ≤ cs.length ∧
      ∀ fuel, 2 * cs.length ≤ fuel → Stops rest →
        ∃ rest', skipSpace rest' = skipSpace rest ∧
          readValue fuel depth cs₁ = some (v.settled, rest')
  | .members ms, cs, rest => ∀ fuel before rest', 2 * cs.length + 1 ≤ fuel →
      rest = '\x7d' :: rest' →
        readMembers fuel depth before cs =
          some (ofMembers (before.reverse ++ ms.map fun m => (m.1, m.2.settled)), rest')

/-- A list that is read item by item is not empty. -/
theorem ne_close_of_readItems {fuel depth : Nat} {before : List Json} {cs : List Char}
    {found : Json × List Char} (h : readItems fuel depth before cs = some found)
    (rest : List Char) : skipSpace cs ≠ ']' :: rest := by
  intro hclose
  cases fuel with
  | zero => cases h
  | succ fuel =>
    rw [readItems, readValue_close hclose] at h
    cases h

/-- Members begin with a name. -/
theorem exists_quote_of_readMembers {fuel depth : Nat} {before : List (String × Json)}
    {cs : List Char} {found : Json × List Char}
    (h : readMembers fuel depth before cs = some found) : ∃ rest, skipSpace cs = '"' :: rest := by
  cases fuel with
  | zero => cases h
  | succ fuel =>
    rw [readMembers] at h
    split at h
    · rename_i rest hquote
      exact ⟨rest, hquote⟩
    · cases h

/-- What the grammar derives is read. -/
theorem Derives.read {depth : Nat} {p : Phrase} {cs rest : List Char}
    (h : Derives depth p cs rest) : p.IsRead depth cs rest := by
  induction h with
  | null | true | false =>
    intro fuel hfuel _
    obtain ⟨fuel, rfl⟩ := Nat.exists_eq_add_one.mpr (Nat.lt_of_lt_of_le (by simp) hfuel)
    rw [settled.eq_def]
    rfl
  | string h =>
    intro fuel hfuel _
    obtain ⟨fuel, rfl⟩ := Nat.exists_eq_add_one.mpr (Nat.lt_of_lt_of_le (by simp) hfuel)
    rw [readValue, skipSpace_mark '"' (by decide)]
    simp only [h.readText, Option.map_some, settled]
    rfl
  | @number depth cs rest n x h hx =>
    intro fuel hfuel hrest
    obtain ⟨c, tail, rfl, hc⟩ := h.exists_cons
    obtain ⟨fuel, rfl⟩ := Nat.exists_eq_add_one.mpr (Nat.lt_of_lt_of_le (by simp) hfuel)
    rw [readValue_number hc, h.readNumber hx hrest, Option.map_some, settled.eq_def]
  | emptyArray h =>
    intro fuel hfuel _
    obtain ⟨fuel, rfl⟩ := Nat.exists_eq_add_one.mpr (Nat.lt_of_lt_of_le (by simp) hfuel)
    rw [readValue, skipSpace_mark '[' (by decide)]
    simp only [h.skipSpace_eq, skipSpace_mark ']' (by decide), settled, List.map_nil]
  | array h ih =>
    intro fuel hfuel _
    obtain ⟨fuel, rfl⟩ := Nat.exists_eq_add_one.mpr (Nat.lt_of_lt_of_le (by simp) hfuel)
    have hitems := ih fuel [] _ (by simp only [List.length_cons] at hfuel; omega) rfl
    rw [readValue_bracket (ne_close_of_readItems hitems), hitems, settled]
    rfl
  | emptyObject h =>
    intro fuel hfuel _
    obtain ⟨fuel, rfl⟩ := Nat.exists_eq_add_one.mpr (Nat.lt_of_lt_of_le (by simp) hfuel)
    rw [readValue, skipSpace_mark '\x7b' (by decide)]
    simp only [h.skipSpace_eq, skipSpace_mark '\x7d' (by decide), settled, List.map_nil,
      ofMembers_nil]
  | object h ih =>
    intro fuel hfuel _
    obtain ⟨fuel, rfl⟩ := Nat.exists_eq_add_one.mpr (Nat.lt_of_lt_of_le (by simp) hfuel)
    have hmembers := ih fuel [] _ (by simp only [List.length_cons] at hfuel; omega) rfl
    obtain ⟨rest', hquote⟩ := exists_quote_of_readMembers hmembers
    rw [readValue_brace hquote, hmembers, settled]
    rfl
  | element hfront h hback ih =>
    intro fuel hfuel hrest
    have hlength := hfront.length_le
    refine ⟨_, hback.skipSpace_eq, ?_⟩
    rw [readValue_congr hfront.skipSpace_eq]
    exact ih fuel (by omega) (hback.stops hrest)
  | lastElement h ih =>
    rintro fuel before rest' hfuel rfl
    obtain ⟨fuel, rfl⟩ := Nat.exists_eq_add_one.mpr (Nat.lt_of_lt_of_le (by simp) hfuel)
    obtain ⟨rest, hclose, hitem⟩ := ih fuel (by omega) (stops_cons _ (by decide))
    rw [readItems_close hitem hclose, List.reverse_cons, List.map_cons, List.map_nil]
  | nextElement h hrest ih ihrest =>
    rintro fuel before rest' hfuel rfl
    have hlength := h.length_lt
    obtain ⟨fuel, rfl⟩ := Nat.exists_eq_add_one.mpr (Nat.lt_of_lt_of_le (by simp) hfuel)
    obtain ⟨rest, hcomma, hitem⟩ := ih fuel (by omega) (stops_cons _ (by decide))
    simp only [List.length_cons] at hlength
    rw [readItems_comma hitem hcomma, ihrest fuel _ _ (by omega) rfl, List.reverse_cons,
      List.append_assoc]
    rfl
  | @member depth cs cs₁ cs₂ cs₃ rest name v hfront hname hgap h ih =>
    have hlength := hfront.length_le
    have hlength' := hname.length_lt
    have hlength'' := hgap.length_le
    simp only [List.length_cons] at hlength hlength''
    refine ⟨cs₃, ⟨cs₁, cs₂, hfront.skipSpace_eq, hname.readText [], hgap.skipSpace_eq⟩, by omega,
      fun fuel hfuel hrest => ih fuel (by omega) hrest⟩
  | lastMember h ih =>
    rintro fuel before rest' hfuel rfl
    obtain ⟨cs₁, hname, hlength, ih⟩ := ih
    obtain ⟨fuel, rfl⟩ := Nat.exists_eq_add_one.mpr (Nat.lt_of_lt_of_le (by simp) hfuel)
    obtain ⟨rest, hclose, hvalue⟩ := ih fuel (by omega) (stops_cons _ (by decide))
    rw [readMembers_close hname hvalue hclose, List.reverse_cons, List.map_cons, List.map_nil]
  | nextMember h hrest ih ihrest =>
    rintro fuel before rest' hfuel rfl
    have hlength := h.length_lt
    obtain ⟨cs₁, hname, hlength', ih⟩ := ih
    obtain ⟨fuel, rfl⟩ := Nat.exists_eq_add_one.mpr (Nat.lt_of_lt_of_le (by simp) hfuel)
    obtain ⟨rest, hcomma, hvalue⟩ := ih fuel (by omega) (stops_cons _ (by decide))
    simp only [List.length_cons] at hlength
    rw [readMembers_comma hname hvalue hcomma, ihrest fuel _ _ (by omega) rfl, List.reverse_cons,
      List.append_assoc]
    rfl

/-! ## What is read can be derived -/

/-- What is read for a value, for items and for members. -/
structure ReadsDerived (fuel : Nat) : Prop where
  value : ∀ {depth : Nat} {cs rest : List Char} {v : Json},
    readValue fuel depth cs = some (v, rest) →
      ∃ w cs₁, Space cs cs₁ ∧ Derives depth (.value w) cs₁ rest ∧ v = w.settled
  items : ∀ {depth : Nat} {before : List Json} {cs rest : List Char} {v : Json},
    readItems fuel depth before cs = some (v, rest) →
      ∃ ws, Derives depth (.elements ws) cs (']' :: rest) ∧
        v = .array (before.reverse ++ ws.map settled)
  members : ∀ {depth : Nat} {before : List (String × Json)} {cs rest : List Char} {v : Json},
    readMembers fuel depth before cs = some (v, rest) →
      ∃ ms, Derives depth (.members ms) cs ('\x7d' :: rest) ∧
        v = ofMembers (before.reverse ++ ms.map fun m => (m.1, m.2.settled))

theorem ReadsDerived.element {fuel depth : Nat} (h : ReadsDerived fuel) {cs rest rest' : List Char}
    {v : Json} (hread : readValue fuel depth cs = some (v, rest))
    (hrest : skipSpace rest = rest') :
    ∃ w, Derives depth (.element w) cs rest' ∧ v = w.settled := by
  obtain ⟨w, cs₁, hfront, hw, rfl⟩ := h.value hread
  exact ⟨w, .element hfront hw (hrest ▸ space_skipSpace rest), rfl⟩

theorem readsDerived_items {fuel : Nat} (h : ReadsDerived fuel) {depth : Nat} {before : List Json}
    {cs rest : List Char} {v : Json}
    (hread : readItems (fuel + 1) depth before cs = some (v, rest)) :
    ∃ ws, Derives depth (.elements ws) cs (']' :: rest) ∧
      v = .array (before.reverse ++ ws.map settled) := by
  rw [readItems] at hread
  split at hread
  · cases hread
  · rename_i item rest₁ hitem
    split at hread
    · rename_i rest₂ hcomma
      obtain ⟨w, hw, rfl⟩ := h.element hitem hcomma
      obtain ⟨ws, hws, rfl⟩ := h.items hread
      exact ⟨w :: ws, .nextElement hw hws, by simp⟩
    · rename_i rest₂ hclose
      obtain ⟨w, hw, rfl⟩ := h.element hitem hclose
      cases hread
      exact ⟨[w], .lastElement hw, by simp⟩
    · cases hread

theorem readsDerived_members {fuel : Nat} (h : ReadsDerived fuel) {depth : Nat}
    {before : List (String × Json)} {cs rest : List Char} {v : Json}
    (hread : readMembers (fuel + 1) depth before cs = some (v, rest)) :
    ∃ ms, Derives depth (.members ms) cs ('\x7d' :: rest) ∧
      v = ofMembers (before.reverse ++ ms.map fun m => (m.1, m.2.settled)) := by
  rw [readMembers] at hread
  split at hread
  · rename_i cs₁ hquote
    split at hread
    · cases hread
    · rename_i name cs₂ hname
      obtain ⟨ds, hds, rfl⟩ := readText_eq_some_iff.mp hname
      split at hread
      · rename_i cs₃ hcolon
        split at hread
        · cases hread
        · rename_i value rest₁ hvalue
          have hmember : ∀ {w rest'}, Derives depth (.element w) cs₃ rest' →
              Derives depth (.member (String.ofList ds) w) cs rest' := fun hw =>
            .member (hquote ▸ space_skipSpace cs) hds (hcolon ▸ space_skipSpace cs₂) hw
          split at hread
          · rename_i rest₂ hcomma
            obtain ⟨w, hw, rfl⟩ := h.element hvalue hcomma
            obtain ⟨ms, hms, rfl⟩ := h.members hread
            exact ⟨(String.ofList ds, w) :: ms, .nextMember (hmember hw) hms, by simp⟩
          · rename_i rest₂ hclose
            obtain ⟨w, hw, rfl⟩ := h.element hvalue hclose
            cases hread
            exact ⟨[(String.ofList ds, w)], .lastMember (hmember hw), by simp⟩
          · cases hread
      · cases hread
  · cases hread

theorem readsDerived_value {fuel : Nat} (h : ReadsDerived fuel) {depth : Nat}
    {cs rest : List Char} {v : Json} (hread : readValue (fuel + 1) depth cs = some (v, rest)) :
    ∃ w cs₁, Space cs cs₁ ∧ Derives depth (.value w) cs₁ rest ∧ v = w.settled := by
  have hspace := space_skipSpace cs
  rw [readValue] at hread
  split at hread
  · rename_i heq
    cases hread
    exact ⟨.null, _, heq ▸ hspace, .null, by rw [settled.eq_def]⟩
  · rename_i heq
    cases hread
    exact ⟨.bool true, _, heq ▸ hspace, .true, by rw [settled.eq_def]⟩
  · rename_i heq
    cases hread
    exact ⟨.bool false, _, heq ▸ hspace, .false, by rw [settled.eq_def]⟩
  · rename_i cs₁ heq
    obtain ⟨⟨s, rest'⟩, htext, hpair⟩ := Option.map_eq_some_iff.mp hread
    cases hpair
    obtain ⟨ds, hds, rfl⟩ := readText_eq_some_iff.mp htext
    exact ⟨.string _, _, heq ▸ hspace, .string hds, by rw [settled.eq_def]⟩
  · rename_i cs₁ heq
    split at hread
    · cases hread
    · split at hread
      · rename_i hclose
        cases hread
        exact ⟨.array [], _, heq ▸ hspace, .emptyArray (hclose ▸ space_skipSpace cs₁),
          by rw [settled, List.map_nil]⟩
      · rw [readItems_congr (skipSpace_skipSpace cs₁)] at hread
        obtain ⟨ws, hws, rfl⟩ := h.items hread
        exact ⟨.array ws, _, heq ▸ hspace, .array hws, by rw [settled]; rfl⟩
  · rename_i cs₁ heq
    split at hread
    · cases hread
    · split at hread
      · rename_i hclose
        cases hread
        exact ⟨.object [], _, heq ▸ hspace, .emptyObject (hclose ▸ space_skipSpace cs₁),
          by rw [settled, List.map_nil, ofMembers_nil]⟩
      · rw [readMembers_congr (skipSpace_skipSpace cs₁)] at hread
        obtain ⟨ms, hms, rfl⟩ := h.members hread
        exact ⟨.object ms, _, heq ▸ hspace, .object hms, by rw [settled]; rfl⟩
  · obtain ⟨⟨x, rest'⟩, hnumber, hpair⟩ := Option.map_eq_some_iff.mp hread
    cases hpair
    obtain ⟨n, hn, hx⟩ := exists_spelled_of_readNumber hnumber
    exact ⟨.number x, _, hspace, .number hn hx, by rw [settled.eq_def]⟩

/-- What is read can be derived. -/
theorem derives_of_read (fuel : Nat) : ReadsDerived fuel := by
  induction fuel with
  | zero =>
    refine ⟨fun hread => ?_, fun hread => ?_, fun hread => ?_⟩ <;> cases hread
  | succ fuel ih =>
    exact ⟨readsDerived_value ih, readsDerived_items ih, readsDerived_members ih⟩

/-! ## Documents -/

/-- A text is read if it is a document, and gives what is written there. -/
theorem parse?_eq_some_iff {text : String} {v : Json} :
    parse? text = some v ↔ ∃ w, Document text.toList w ∧ v = w.settled := by
  rw [parse?]
  constructor
  · intro h
    split at h
    · rename_i v' rest hread
      split at h
      · rename_i hrest
        cases h
        exact (derives_of_read _).element hread (List.isEmpty_iff.mp hrest)
      · cases h
    · cases h
  · rintro ⟨w, hw, rfl⟩
    obtain ⟨rest, hrest, hread⟩ := hw.read (2 * text.toList.length + 2) (by omega) (by rintro _ ⟨⟩)
    have hend : skipSpace rest = [] := hrest
    simp only [hread, hend, List.isEmpty_nil, if_true]

end BackendAudit.Json
