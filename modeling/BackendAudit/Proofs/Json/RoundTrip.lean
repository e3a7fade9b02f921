import BackendAudit.Proofs.Json.Written
import Mathlib.Data.List.DropRight

/-!
# Written documents are read back

The reader has two bounds: a number of calls, which the length of the text gives, and how
deeply lists and objects may be nested.  A value that keeps to the second and whose numbers
are integers of 64 bits (`Fits`) is read back, but for the members of its objects: those are
put in the order of their names (`settled`).

The proof goes by the derivation of `Fits`.  `ReadsBack` is what it gives for each value, at
any level of the layout and with anything behind the value that does not go on with a number.
-/

namespace BackendAudit.Json

/-- What is read when the value was written: every object has its members in the order of
their names. -/
def settled : Json → Json
  | .array items => .array (items.map settled)
  | .object members => ofMembers (members.map fun m => (m.1, settled m.2))
  | v => v
decreasing_by
  · decreasing_tactic
  · have := List.sizeOf_lt_of_mem ‹m ∈ members›
    cases m
    simp only [Prod.mk.sizeOf_spec, Json.object.sizeOf_spec] at *
    omega

/-- A value can be read back when `depth` lists and objects may be opened. -/
inductive Fits : Nat → Json → Prop where
  | null {depth : Nat} : Fits depth .null
  | bool {depth : Nat} (b : Bool) : Fits depth (.bool b)
  | integer {depth : Nat} {n : Int} (hlow : -2 ^ 63 ≤ n) (hhigh : n < 2 ^ 64) :
    Fits depth (.number (.integer n))
  | string {depth : Nat} (s : String) : Fits depth (.string s)
  | array {depth : Nat} {items : List Json} (h : ∀ v ∈ items, Fits depth v) :
    Fits (depth + 1) (.array items)
  | object {depth : Nat} {members : List (String × Json)} (h : ∀ m ∈ members, Fits depth m.2) :
    Fits (depth + 1) (.object members)

theorem ofMembers_nil : ofMembers [] = .object [] := by
  rw [ofMembers, List.mergeSort_nil, dropOverridden]

/-! ## White space -/

/-- White space in front of a text is dropped. -/
theorem skipSpace_newLine (level : Nat) (cs : List Char) :
    skipSpace (newLine level ++ cs) = skipSpace cs := by
  have hblank : ∀ c ∈ newLine level, (c == ' ' || c == '\n' || c == '\t' || c == '\r') = true := by
    intro c hc
    rcases List.mem_cons.mp hc with rfl | hc
    · rfl
    · rw [List.eq_of_mem_replicate hc]
      rfl
  rw [skipSpace, List.dropWhile_append_of_pos hblank]
  rfl

theorem skipSpace_quoted (s : String) (cs : List Char) :
    skipSpace (quoted s ++ cs) = '"' :: (s.toList.flatMap escape ++ '"' :: cs) := by
  simp [quoted, skipSpace]

theorem skipSpace_blank (cs : List Char) : skipSpace (' ' :: cs) = skipSpace cs := rfl

theorem skipSpace_mark (c : Char) (h : c ∉ [' ', '\n', '\t', '\r']) (cs : List Char) :
    skipSpace (c :: cs) = c :: cs := by
  rw [skipSpace, List.dropWhile_cons_of_neg]
  simpa [and_assoc] using h

theorem skipSpace_skipSpace (cs : List Char) : skipSpace (skipSpace cs) = skipSpace cs :=
  List.dropWhile_idempotent _ cs

theorem readValue_congr {cs cs' : List Char} (h : skipSpace cs = skipSpace cs')
    (fuel depth : Nat) : readValue fuel depth cs = readValue fuel depth cs' := by
  cases fuel with
  | zero => rfl
  | succ fuel => rw [readValue, readValue, h]

theorem readItems_congr {cs cs' : List Char} (h : skipSpace cs = skipSpace cs')
    (fuel depth : Nat) (items : List Json) :
    readItems fuel depth items cs = readItems fuel depth items cs' := by
  cases fuel with
  | zero => rfl
  | succ fuel => rw [readItems, readItems, readValue_congr h]

theorem readMembers_congr {cs cs' : List Char} (h : skipSpace cs = skipSpace cs')
    (fuel depth : Nat) (members : List (String × Json)) :
    readMembers fuel depth members cs = readMembers fuel depth members cs' := by
  cases fuel with
  | zero => rfl
  | succ fuel => rw [readMembers, readMembers, h]

/-! ## Values -/

/-- What a value gives when it is read from its own text. -/
def ReadsBack (depth : Nat) (v : Json) : Prop :=
  ∀ (level fuel : Nat) (rest : List Char), Stops rest → (pretty level v).length ≤ fuel →
    readValue fuel depth (pretty level v ++ rest) = some (v.settled, rest)

theorem readsBack_null (depth : Nat) : ReadsBack depth .null := by
  intro level fuel rest _ hfuel
  obtain ⟨fuel, rfl⟩ := Nat.exists_eq_add_one.mpr (Nat.lt_of_lt_of_le (by simp [pretty]) hfuel)
  rw [settled.eq_def]
  rfl

theorem readsBack_bool (depth : Nat) (b : Bool) : ReadsBack depth (.bool b) := by
  intro level fuel rest _ hfuel
  cases b
  all_goals
    obtain ⟨fuel, rfl⟩ := Nat.exists_eq_add_one.mpr (Nat.lt_of_lt_of_le (by simp [pretty]) hfuel)
    rw [settled.eq_def]
    rfl

/-- A minus sign and a digit begin a number and nothing else. -/
theorem readValue_number {c : Char} (h : c = '-' ∨ c.isDigit = true) (cs : List Char)
    (fuel depth : Nat) :
    readValue (fuel + 1) depth (c :: cs) =
      (readNumber (c :: cs)).map fun (n, rest) => (.number n, rest) := by
  have hother : ∀ d : Char, d ≠ '-' → d.isDigit = false → c ≠ d := by
    rintro d hminus hdigit rfl
    rcases h with h | h
    · exact hminus h
    · rw [hdigit] at h
      contradiction
  rw [readValue, skipSpace_mark c (by simp [hother])]
  split
  case h_7 => rfl
  all_goals
    rename_i heq
    exact absurd (List.cons.inj heq).1 (hother _ (by decide) (by decide))

theorem numeral_integer_eq_cons (n : Int) :
    ∃ c cs, numeral (.integer n) = c :: cs ∧ (c = '-' ∨ c.isDigit = true) := by
  rw [numeral]
  split
  · exact ⟨'-', _, rfl, .inl rfl⟩
  · cases hdigits : Number.decimalDigits n.natAbs with
    | nil => exact absurd hdigits Nat.toDigits_ne_nil
    | cons c cs =>
      exact ⟨c, cs, rfl, .inr (isDigit_of_mem_decimalDigits (hdigits ▸ List.mem_cons_self))⟩

theorem readsBack_integer {depth : Nat} {n : Int} (hlow : -2 ^ 63 ≤ n) (hhigh : n < 2 ^ 64) :
    ReadsBack depth (.number (.integer n)) := by
  intro level fuel rest hrest hfuel
  obtain ⟨c, cs, hcons, hfirst⟩ := numeral_integer_eq_cons n
  have hread := readNumber_numeral hlow hhigh hrest
  rw [pretty, hcons] at hfuel
  rw [hcons, List.cons_append] at hread
  obtain ⟨fuel, rfl⟩ := Nat.exists_eq_add_one.mpr (Nat.lt_of_lt_of_le (by simp) hfuel)
  rw [pretty, hcons, List.cons_append, readValue_number hfirst, hread, Option.map_some, settled]
  all_goals simp

theorem readsBack_string (depth : Nat) (s : String) : ReadsBack depth (.string s) := by
  intro level fuel rest _ hfuel
  obtain ⟨fuel, rfl⟩ := Nat.exists_eq_add_one.mpr
    (Nat.lt_of_lt_of_le (by simp [pretty, quoted]) hfuel)
  rw [pretty, readValue, skipSpace_quoted]
  simp only [readText_quoted, Option.map_some, settled]

/-! ## Lists -/

/-- No value begins with a closing bracket. -/
theorem readValue_close {cs rest : List Char} (h : skipSpace cs = ']' :: rest)
    (fuel depth : Nat) : readValue fuel depth cs = none := by
  cases fuel with
  | zero => rfl
  | succ fuel =>
    rw [readValue, h]
    rfl

/-- A list that is not empty is read item by item. -/
theorem readValue_bracket {cs : List Char} (h : ∀ rest, skipSpace cs ≠ ']' :: rest)
    (fuel depth : Nat) :
    readValue (fuel + 1) (depth + 1) ('[' :: cs) = readItems fuel depth [] cs := by
  rw [readValue, skipSpace_mark '[' (by decide)]
  -- the list could only be empty with a bracket next
  simp only
  exact readItems_congr (skipSpace_skipSpace cs) fuel depth []

/-- An item that a comma follows is not the last. -/
theorem readItems_comma {fuel depth : Nat} {cs rest rest' : List Char} {item : Json}
    (hitem : readValue fuel depth cs = some (item, rest)) (hrest : skipSpace rest = ',' :: rest')
    (before : List Json) :
    readItems (fuel + 1) depth before cs = readItems fuel depth (item :: before) rest' := by
  rw [readItems, hitem]
  simp only [hrest]

/-- An item that a bracket follows is the last. -/
theorem readItems_close {fuel depth : Nat} {cs rest rest' : List Char} {item : Json}
    (hitem : readValue fuel depth cs = some (item, rest)) (hrest : skipSpace rest = ']' :: rest')
    (before : List Json) :
    readItems (fuel + 1) depth before cs = some (.array (item :: before).reverse, rest') := by
  rw [readItems, hitem]
  simp only [hrest]

theorem stops_prettyItems (level : Nat) (items : List Json) (rest : List Char) :
    Stops (prettyItems level items ++ rest) := by
  cases items with
  | nil => exact stops_cons _ (by decide)
  | cons => exact stops_cons _ (by decide)

theorem length_prettyItems_pos (level : Nat) (items : List Json) :
    0 < (prettyItems level items).length := by
  cases items with
  | nil => simp [prettyItems]
  | cons => simp [prettyItems]

theorem length_prettyItems_cons (level : Nat) (item : Json) (items : List Json) :
    (pretty (level + 1) item).length + (prettyItems level items).length <
      (prettyItems level (item :: items)).length := by
  simp only [prettyItems, List.length_append, List.length_cons]
  omega

/-- Items are read one after the other, each with its own text, up to the bracket. -/
theorem readItems_pretty {depth : Nat} {item : Json} {items : List Json}
    (h : ∀ v ∈ item :: items, ReadsBack depth v) (level fuel : Nat) (before : List Json)
    (rest : List Char)
    (hfuel : (pretty (level + 1) item).length + (prettyItems level items).length ≤ fuel) :
    readItems fuel depth before (pretty (level + 1) item ++ (prettyItems level items ++ rest)) =
      some (.array (before.reverse ++ (item :: items).map settled), rest) := by
  induction items generalizing item before fuel with
  | nil =>
    have hpos := length_prettyItems_pos level []
    obtain ⟨fuel, rfl⟩ := Nat.exists_eq_add_one.mpr (show 0 < fuel by omega)
    have hitem := h item List.mem_cons_self (level + 1) fuel (prettyItems level [] ++ rest)
      (stops_prettyItems level [] rest) (by omega)
    have hclose : skipSpace (prettyItems level [] ++ rest) = ']' :: rest := by
      rw [prettyItems, List.append_assoc, skipSpace_newLine]
      rfl
    rw [readItems_close hitem hclose, List.reverse_cons, List.map_cons, List.map_nil]
  | cons next items ih =>
    have hlength := length_prettyItems_cons level next items
    obtain ⟨fuel, rfl⟩ := Nat.exists_eq_add_one.mpr (show 0 < fuel by omega)
    have hitem := h item List.mem_cons_self (level + 1) fuel
      (prettyItems level (next :: items) ++ rest)
      (stops_prettyItems level (next :: items) rest) (by omega)
    have hcomma : skipSpace (prettyItems level (next :: items) ++ rest) =
        ',' :: (newLine (level + 1) ++ (pretty (level + 1) next ++
          (prettyItems level items ++ rest))) := by
      simp [prettyItems, skipSpace]
    have hnext := ih (fun v hv => h v (List.mem_cons_of_mem _ hv)) fuel (item.settled :: before)
      (by omega)
    rw [readItems_comma hitem hcomma, readItems_congr (skipSpace_newLine (level + 1) _), hnext,
      List.reverse_cons, List.append_assoc, List.singleton_append, List.map_cons]
    rfl

theorem readsBack_array {depth : Nat} {items : List Json}
    (h : ∀ v ∈ items, ReadsBack depth v) : ReadsBack (depth + 1) (.array items) := by
  intro level fuel rest _ hfuel
  cases items with
  | nil =>
    obtain ⟨fuel, rfl⟩ := Nat.exists_eq_add_one.mpr (Nat.lt_of_lt_of_le (by simp [pretty]) hfuel)
    rw [settled]
    rfl
  | cons item items =>
    have htext : pretty level (.array (item :: items)) ++ rest =
        '[' :: (newLine (level + 1) ++ (pretty (level + 1) item ++
          (prettyItems level items ++ rest))) := by
      simp [pretty]
    have hlength : (pretty (level + 1) item).length + (prettyItems level items).length <
        (pretty level (.array (item :: items))).length := by
      simp only [pretty, List.length_append, List.length_cons]
      omega
    obtain ⟨fuel, rfl⟩ := Nat.exists_eq_add_one.mpr (show 0 < fuel by omega)
    have hitem := h item List.mem_cons_self (level + 1) fuel (prettyItems level items ++ rest)
      (stops_prettyItems level items rest) (by omega)
    have hitems := readItems_pretty h level fuel [] rest (by omega)
    have hvalue : ∀ rest', skipSpace (newLine (level + 1) ++ (pretty (level + 1) item ++
        (prettyItems level items ++ rest))) ≠ ']' :: rest' := by
      intro rest' hclose
      rw [skipSpace_newLine] at hclose
      rw [readValue_close hclose] at hitem
      contradiction
    rw [htext, readValue_bracket hvalue, readItems_congr (skipSpace_newLine (level + 1) _), hitems,
      settled]
    rfl

/-! ## Objects -/

/-- A name stands at the front of a text, and `rest` is behind its colon. -/
def Named (cs : List Char) (name : String) (rest : List Char) : Prop :=
  ∃ cs₁ cs₂, skipSpace cs = '"' :: cs₁ ∧ readText [] cs₁ = some (name, cs₂) ∧
    skipSpace cs₂ = ':' :: rest

theorem named_quoted (name : String) (rest : List Char) :
    Named (quoted name ++ ':' :: rest) name rest :=
  ⟨_, _, skipSpace_quoted name _, readText_quoted name _, rfl⟩

/-- A member that a comma follows is not the last. -/
theorem readMembers_comma {fuel depth : Nat} {cs cs₁ rest rest' : List Char} {name : String}
    {value : Json} (hname : Named cs name cs₁)
    (hvalue : readValue fuel depth cs₁ = some (value, rest))
    (hrest : skipSpace rest = ',' :: rest') (before : List (String × Json)) :
    readMembers (fuel + 1) depth before cs =
      readMembers fuel depth ((name, value) :: before) rest' := by
  obtain ⟨_, _, hquote, htext, hcolon⟩ := hname
  rw [readMembers, hquote]
  simp only [htext, hcolon, hvalue, hrest]

/-- A member that a brace follows is the last. -/
theorem readMembers_close {fuel depth : Nat} {cs cs₁ rest rest' : List Char} {name : String}
    {value : Json} (hname : Named cs name cs₁)
    (hvalue : readValue fuel depth cs₁ = some (value, rest))
    (hrest : skipSpace rest = '\x7d' :: rest') (before : List (String × Json)) :
    readMembers (fuel + 1) depth before cs =
      some (ofMembers ((name, value) :: before).reverse, rest') := by
  obtain ⟨_, _, hquote, htext, hcolon⟩ := hname
  rw [readMembers, hquote]
  simp only [htext, hcolon, hvalue, hrest]

/-- An object that is not empty is read member by member. -/
theorem readValue_brace {cs rest : List Char} (h : skipSpace cs = '"' :: rest)
    (fuel depth : Nat) :
    readValue (fuel + 1) (depth + 1) ('\x7b' :: cs) = readMembers fuel depth [] cs := by
  rw [← readMembers_congr (skipSpace_skipSpace cs) fuel depth [], readValue,
    skipSpace_mark '\x7b' (by decide)]
  simp only [h]
  rfl

theorem stops_prettyMembers (level : Nat) (members : List (String × Json)) (rest : List Char) :
    Stops (prettyMembers level members ++ rest) := by
  cases members with
  | nil => exact stops_cons _ (by decide)
  | cons => exact stops_cons _ (by decide)

theorem length_prettyMembers_pos (level : Nat) (members : List (String × Json)) :
    0 < (prettyMembers level members).length := by
  cases members with
  | nil => simp [prettyMembers]
  | cons => simp [prettyMembers]

theorem length_prettyMembers_cons (level : Nat) (m : String × Json)
    (members : List (String × Json)) :
    (pretty (level + 1) m.2).length + (prettyMembers level members).length <
      (prettyMembers level (m :: members)).length := by
  simp only [prettyMembers, List.length_append, List.length_cons]
  omega

/-- Members are read one after the other, up to the brace. -/
theorem readMembers_pretty {depth : Nat} {m : String × Json}
    {members : List (String × Json)} (h : ∀ n ∈ m :: members, ReadsBack depth n.2)
    (level fuel : Nat) (before : List (String × Json)) (rest : List Char)
    (hfuel : (pretty (level + 1) m.2).length + (prettyMembers level members).length ≤ fuel) :
    readMembers fuel depth before
        (quoted m.1 ++ ':' :: ' ' :: (pretty (level + 1) m.2 ++
          (prettyMembers level members ++ rest))) =
      some (ofMembers (before.reverse ++ (m :: members).map fun n => (n.1, n.2.settled)),
        rest) := by
  induction members generalizing m before fuel with
  | nil =>
    have hpos := length_prettyMembers_pos level []
    obtain ⟨fuel, rfl⟩ := Nat.exists_eq_add_one.mpr (show 0 < fuel by omega)
    have hvalue := h m List.mem_cons_self (level + 1) fuel (prettyMembers level [] ++ rest)
      (stops_prettyMembers level [] rest) (by omega)
    have hclose : skipSpace (prettyMembers level [] ++ rest) = '\x7d' :: rest := by
      rw [prettyMembers, List.append_assoc, skipSpace_newLine]
      rfl
    rw [← readValue_congr (skipSpace_blank _)] at hvalue
    rw [readMembers_close (named_quoted _ _) hvalue hclose, List.reverse_cons, List.map_cons,
      List.map_nil]
  | cons next members ih =>
    have hlength := length_prettyMembers_cons level next members
    obtain ⟨fuel, rfl⟩ := Nat.exists_eq_add_one.mpr (show 0 < fuel by omega)
    have hvalue := h m List.mem_cons_self (level + 1) fuel
      (prettyMembers level (next :: members) ++ rest)
      (stops_prettyMembers level (next :: members) rest) (by omega)
    have hcomma : skipSpace (prettyMembers level (next :: members) ++ rest) =
        ',' :: (newLine (level + 1) ++ (quoted next.1 ++ ':' :: ' ' ::
          (pretty (level + 1) next.2 ++ (prettyMembers level members ++ rest)))) := by
      simp [prettyMembers, skipSpace]
    have hnext := ih (fun n hn => h n (List.mem_cons_of_mem _ hn)) fuel
      ((m.1, m.2.settled) :: before) (by omega)
    rw [← readValue_congr (skipSpace_blank _)] at hvalue
    rw [readMembers_comma (named_quoted _ _) hvalue hcomma,
      readMembers_congr (skipSpace_newLine (level + 1) _), hnext,
      List.reverse_cons, List.append_assoc, List.singleton_append, List.map_cons]
    rfl

theorem readsBack_object {depth : Nat} {members : List (String × Json)}
    (h : ∀ m ∈ members, ReadsBack depth m.2) : ReadsBack (depth + 1) (.object members) := by
  intro level fuel rest _ hfuel
  cases members with
  | nil =>
    obtain ⟨fuel, rfl⟩ := Nat.exists_eq_add_one.mpr (Nat.lt_of_lt_of_le (by simp [pretty]) hfuel)
    rw [settled, List.map_nil, ofMembers_nil]
    rfl
  | cons m members =>
    have htext : pretty level (.object (m :: members)) ++ rest =
        '\x7b' :: (newLine (level + 1) ++ (quoted m.1 ++ ':' :: ' ' ::
          (pretty (level + 1) m.2 ++ (prettyMembers level members ++ rest)))) := by
      simp [pretty]
    have hlength : (pretty (level + 1) m.2).length + (prettyMembers level members).length <
        (pretty level (.object (m :: members))).length := by
      simp only [pretty, List.length_append, List.length_cons]
      omega
    obtain ⟨fuel, rfl⟩ := Nat.exists_eq_add_one.mpr (show 0 < fuel by omega)
    have hmembers := readMembers_pretty h level fuel [] rest (by omega)
    have hname := (skipSpace_newLine (level + 1) (quoted m.1 ++ ':' :: ' ' ::
      (pretty (level + 1) m.2 ++ (prettyMembers level members ++ rest)))).trans
      (skipSpace_quoted _ _)
    rw [htext, readValue_brace hname, readMembers_congr (skipSpace_newLine (level + 1) _),
      hmembers, settled]
    rfl

/-! ## Documents -/

theorem Fits.readsBack {depth : Nat} {v : Json} (h : Fits depth v) : ReadsBack depth v := by
  induction h with
  | null => exact readsBack_null _
  | bool b => exact readsBack_bool _ b
  | integer hlow hhigh => exact readsBack_integer hlow hhigh
  | string s => exact readsBack_string _ s
  | array _ ih => exact readsBack_array ih
  | object _ ih => exact readsBack_object ih

/-- A document with nothing but integers of 64 bits, and not nested too deeply, is read
back from its indented text. -/
theorem parse?_prettyText {v : Json} (h : Fits nestingLimit v) :
    parse? v.prettyText = some v.settled := by
  have hread := h.readsBack 0 (2 * (pretty 0 v).length + 2) [] (by rintro _ ⟨⟩) (by omega)
  rw [List.append_nil] at hread
  rw [parse?, prettyText, String.toList_ofList, hread]
  rfl

end BackendAudit.Json
