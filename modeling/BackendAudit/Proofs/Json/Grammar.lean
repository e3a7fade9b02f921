import BackendAudit.Proofs.Json.Written

/-!
# The grammar of documents

What a strict document is, told without a reader: white space, texts with their escapes,
numerals, and the values, elements and members that are made of them.  Each relation says of
a text which part of it stands at its front, and what is behind that part.

The grammar is that of the notation itself, with the limits of the library that reads it:
lists and objects are nested at most `nestingLimit` deep, a unit of a surrogate pair is only
written together with the other, and a numeral has a value that is not too large.

* `Derives` has one rule for each production.  It gives the values as they are written, so the
  members of an object are in the order of writing, also those that have the same name.
* `readText_eq_some_iff` and `readNumber_eq_some_iff`: what the reader takes for a text and for
  a number.
-/

namespace BackendAudit.Json

/-! ## White space and texts -/

/-- White space, and what is behind it. -/
inductive Space : List Char → List Char → Prop
  | nil {rest : List Char} : Space rest rest
  | cons {c : Char} {cs rest : List Char} (hc : c = ' ' ∨ c = '\n' ∨ c = '\t' ∨ c = '\r')
    (h : Space cs rest) : Space (c :: cs) rest

/-- The spelling of a text from behind its opening quote, the text, and what is behind the
closing quote. -/
inductive Spelled : List Char → List Char → List Char → Prop
  | close {rest : List Char} : Spelled ('"' :: rest) [] rest
  | plain {c : Char} {cs ds rest : List Char} (hquote : c ≠ '"') (hslash : c ≠ '\\')
    (hvisible : 0x20 ≤ c.toNat) (h : Spelled cs ds rest) : Spelled (c :: cs) (c :: ds) rest
  | letter {l c : Char} {cs ds rest : List Char} (hc : escaped? l = some c)
    (h : Spelled cs ds rest) : Spelled ('\\' :: l :: cs) (c :: ds) rest
  /-- Four hexadecimal digits that are no unit of a pair. -/
  | unit {a b c d : Char} {u : Nat} {cs ds rest : List Char} (hu : unit? a b c d = some u)
    (hsingle : ¬ (0xd800 ≤ u ∧ u < 0xe000)) (h : Spelled cs ds rest) :
    Spelled ('\\' :: 'u' :: a :: b :: c :: d :: cs) (Char.ofNat u :: ds) rest
  | pair {a b c d e f g h : Char} {u v : Nat} {cs ds rest : List Char}
    (hu : unit? a b c d = some u) (hfirst : 0xd800 ≤ u ∧ u < 0xdc00)
    (hv : unit? e f g h = some v) (hsecond : 0xdc00 ≤ v ∧ v < 0xe000)
    (hrest : Spelled cs ds rest) :
    Spelled ('\\' :: 'u' :: a :: b :: c :: d :: '\\' :: 'u' :: e :: f :: g :: h :: cs)
      (Char.ofNat (0x10000 + 1024 * (u - 0xd800) + (v - 0xdc00)) :: ds) rest

theorem space_skipSpace (cs : List Char) : Space cs (skipSpace cs) := by
  induction cs with
  | nil => exact .nil
  | cons c cs ih =>
    rw [skipSpace, List.dropWhile_cons]
    split
    · rename_i hc
      exact .cons (by simpa [or_assoc] using hc) ih
    · exact .nil

theorem Space.skipSpace_eq {cs rest : List Char} (h : Space cs rest) :
    skipSpace cs = skipSpace rest := by
  induction h with
  | nil => rfl
  | cons hc _ ih =>
    rw [skipSpace, List.dropWhile_cons_of_pos (by simpa [or_assoc] using hc)]
    exact ih

theorem Space.length_le {cs rest : List Char} (h : Space cs rest) : rest.length ≤ cs.length := by
  induction h with
  | nil => exact Nat.le_refl _
  | cons _ _ ih => exact Nat.le_succ_of_le ih

theorem Spelled.length_lt {cs ds rest : List Char} (h : Spelled cs ds rest) :
    rest.length < cs.length := by
  induction h with
  | close => exact Nat.lt_succ_self _
  | _ => simp only [List.length_cons]; omega

/-- White space does not go on with a number. -/
theorem Space.stops {cs rest : List Char} (h : Space cs rest) (hrest : Stops rest) :
    Stops cs := by
  cases h with
  | nil => exact hrest
  | cons hc _ =>
    refine stops_cons _ ?_
    rcases hc with rfl | rfl | rfl | rfl <;> decide

/-- Two escaped units that are a pair are one character. -/
theorem readText_pair {a b c d e f g h : Char} {u v : Nat} (before rest : List Char)
    (hu : unit? a b c d = some u) (hfirst : 0xd800 ≤ u ∧ u < 0xdc00)
    (hv : unit? e f g h = some v) (hsecond : 0xdc00 ≤ v ∧ v < 0xe000) :
    readText before
        ('\\' :: 'u' :: a :: b :: c :: d :: '\\' :: 'u' :: e :: f :: g :: h :: rest) =
      readText (Char.ofNat (0x10000 + 1024 * (u - 0xd800) + (v - 0xdc00)) :: before) rest := by
  rw [readText]
  simp only [hu, if_pos hfirst, hv, if_pos hsecond]

theorem Spelled.readText {cs ds rest : List Char} (h : Spelled cs ds rest) (before : List Char) :
    readText before cs = some (String.ofList (before.reverse ++ ds), rest) := by
  induction h generalizing before with
  | close => rw [Json.readText, List.append_nil]
  | plain hquote hslash hvisible _ ih =>
    rw [readText_plain _ _ hquote hslash (by omega), ih, List.reverse_cons, List.append_assoc]
    rfl
  | letter hc _ ih =>
    rw [readText_letter _ _ hc, ih, List.reverse_cons, List.append_assoc]
    rfl
  | unit hu hsingle _ ih =>
    rw [readText_unit _ _ hu hsingle, ih, List.reverse_cons, List.append_assoc]
    rfl
  | pair hu hfirst hv hsecond _ ih =>
    rw [readText_pair _ _ hu hfirst hv hsecond, ih, List.reverse_cons, List.append_assoc]
    rfl

theorem exists_spelled_of_readText {before cs rest : List Char} {s : String}
    (h : readText before cs = some (s, rest)) :
    ∃ ds, Spelled cs ds rest ∧ s = String.ofList (before.reverse ++ ds) := by
  -- behind its first character, a text is spelled as one with this character read
  have hpush : ∀ {c : Char} {before cs cs' : List Char},
      (∀ ds, Spelled cs ds rest → Spelled cs' (c :: ds) rest) →
      (∃ ds, Spelled cs ds rest ∧ s = String.ofList ((c :: before).reverse ++ ds)) →
      ∃ ds, Spelled cs' ds rest ∧ s = String.ofList (before.reverse ++ ds) := by
    rintro c before cs cs' hrule ⟨ds, hds, rfl⟩
    exact ⟨c :: ds, hrule ds hds, by simp⟩
  fun_induction Json.readText before cs with
  | case2 before rest =>
    cases h
    exact ⟨[], .close, by rw [List.append_nil]⟩
  | case5 before _ _ _ _ _ _ _ _ _ u hu hfirst v hv hsecond ih =>
    exact hpush (fun _ => .pair hu hfirst hv hsecond) (ih h)
  | case8 before _ _ _ _ _ _ _ _ _ u hu hfirst hsecond ih =>
    exact hpush (fun _ => .unit hu (by omega)) (ih h)
  | case11 before _ _ _ _ _ _ u hu hsingle ih =>
    exact hpush (fun _ => .unit hu hsingle) (ih h)
  | case12 before l _ _ _ c hc ih => exact hpush (fun _ => .letter hc) (ih h)
  | case15 before c cs hquote _ _ hslash hvisible ih =>
    by_cases hc : c = '\\'
    · -- a backslash at the end of all
      cases cs with
      | nil => cases h
      | cons d cs => exact (hslash d cs hc rfl).elim
    · exact hpush (fun _ => .plain hquote hc (by omega)) (ih h)
  | _ => cases h

/-- What is read for a text is one that is spelled. -/
theorem readText_eq_some_iff {cs rest : List Char} {s : String} :
    readText [] cs = some (s, rest) ↔ ∃ ds, Spelled cs ds rest ∧ s = String.ofList ds :=
  ⟨exists_spelled_of_readText, fun ⟨_, hds, hs⟩ => hs ▸ hds.readText []⟩

theorem spelled_of_readText {cs ds rest : List Char}
    (h : readText [] cs = some (String.ofList ds, rest)) : Spelled cs ds rest := by
  obtain ⟨ds', hds, hs⟩ := readText_eq_some_iff.mp h
  rwa [String.ofList_injective hs]

/-! ## Numbers -/

/-- The value of a digit. -/
def digitValue (c : Char) : Nat := c.toNat - '0'.toNat

/-- Digits, one at least, their values, and what is behind them. -/
inductive Digits : List Char → List Nat → List Char → Prop
  | one {c : Char} {rest : List Char} (hc : c.isDigit = true) :
    Digits (c :: rest) [digitValue c] rest
  | cons {c : Char} {cs rest : List Char} {ds : List Nat} (hc : c.isDigit = true)
    (h : Digits cs ds rest) : Digits (c :: cs) (digitValue c :: ds) rest

/-- The point and the digits behind it, or nothing. -/
inductive Fraction : List Char → List Nat → List Char → Prop
  | none {rest : List Char} : Fraction rest [] rest
  | digits {cs rest : List Char} {ds : List Nat} (h : Digits cs ds rest) :
    Fraction ('.' :: cs) ds rest

/-- An exponent, its sign and its digits, or nothing. -/
inductive Exponent : List Char → Option (Bool × List Nat) → List Char → Prop
  | none {rest : List Char} : Exponent rest none rest
  | plain {e : Char} {cs rest : List Char} {ds : List Nat} (he : e = 'e' ∨ e = 'E')
    (h : Digits cs ds rest) : Exponent (e :: cs) (some (false, ds)) rest
  | plus {e : Char} {cs rest : List Char} {ds : List Nat} (he : e = 'e' ∨ e = 'E')
    (h : Digits cs ds rest) : Exponent (e :: '+' :: cs) (some (false, ds)) rest
  | minus {e : Char} {cs rest : List Char} {ds : List Nat} (he : e = 'e' ∨ e = 'E')
    (h : Digits cs ds rest) : Exponent (e :: '-' :: cs) (some (true, ds)) rest

/-- The sign of a number. -/
def signText (negative : Bool) : List Char := if negative then ['-'] else []

/-- A numeral, and what is behind it.  Its first digit is a zero only if it is the only one in
front of the point. -/
inductive Numeral.Spelled : List Char → Numeral → List Char → Prop
  | parts {negative : Bool} {cs cs₁ cs₂ rest : List Char} {whole fraction : List Nat}
    {exponent : Option (Bool × List Nat)} (hwhole : Digits cs whole cs₁)
    (hzero : whole.head? = some 0 → whole = [0]) (hfraction : Fraction cs₁ fraction cs₂)
    (hexponent : Exponent cs₂ exponent rest) :
    Spelled (signText negative ++ cs) ⟨negative, whole, fraction, exponent⟩ rest

theorem readDigits_cons_of_isDigit {c : Char} (hc : c.isDigit = true) (cs : List Char) :
    readDigits (c :: cs) = (digitValue c :: (readDigits cs).1, (readDigits cs).2) := by
  simp [readDigits, hc, digitValue]

theorem readDigits_of_head? {cs : List Char} (h : ∀ c ∈ cs.head?, c.isDigit = false) :
    readDigits cs = ([], cs) := by
  cases cs with
  | nil => rfl
  | cons c cs => simp [readDigits, h c rfl]

theorem Digits.readDigits {cs rest : List Char} {ds : List Nat} (h : Digits cs ds rest)
    (hrest : ∀ c ∈ rest.head?, c.isDigit = false) : readDigits cs = (ds, rest) := by
  induction h with
  | one hc => rw [readDigits_cons_of_isDigit hc, readDigits_of_head? hrest]
  | cons hc _ ih => rw [readDigits_cons_of_isDigit hc, ih hrest]

theorem digits_or_of_readDigits {cs rest : List Char} {ds : List Nat}
    (h : readDigits cs = (ds, rest)) : ds = [] ∧ rest = cs ∨ Digits cs ds rest := by
  induction cs generalizing ds with
  | nil =>
    cases h
    exact .inl ⟨rfl, rfl⟩
  | cons c cs ih =>
    by_cases hc : c.isDigit = true
    · rw [readDigits_cons_of_isDigit hc] at h
      cases h
      rcases @ih (readDigits cs).1 rfl with ⟨hnil, hrest⟩ | hmore
      · rw [hnil, hrest]
        exact .inr (.one hc)
      · exact .inr (.cons hc hmore)
    · rw [readDigits_of_head? (by simpa using hc)] at h
      cases h
      exact .inl ⟨rfl, rfl⟩

theorem Digits.exists_cons {cs rest : List Char} {ds : List Nat} (h : Digits cs ds rest) :
    ∃ c tail, cs = c :: tail ∧ c.isDigit = true := by
  cases h with
  | one hc => exact ⟨_, _, rfl, hc⟩
  | cons hc _ => exact ⟨_, _, rfl, hc⟩

theorem Digits.length_lt {cs rest : List Char} {ds : List Nat} (h : Digits cs ds rest) :
    rest.length < cs.length := by
  induction h with
  | one _ => exact Nat.lt_succ_self _
  | cons _ _ ih => exact Nat.lt_succ_of_lt ih

theorem Digits.ne_nil {cs rest : List Char} {ds : List Nat} (h : Digits cs ds rest) : ds ≠ [] := by
  cases h <;> exact List.cons_ne_nil _ _

theorem digits_of_readWhole {cs rest : List Char} {ds : List Nat}
    (h : readWhole cs = some (ds, rest)) :
    Digits cs ds rest ∧ (ds.head? = some 0 → ds = [0]) := by
  rw [readWhole] at h
  split at h
  · cases h
  · cases h
  · rename_i hnil hzero hread
    cases h
    rcases digits_or_of_readDigits hread with ⟨rfl, rfl⟩ | hdigits
    · exact (hnil rfl).elim
    · refine ⟨hdigits, fun hhead => ?_⟩
      obtain ⟨tail, rfl⟩ := List.head?_eq_some_iff.mp hhead
      cases tail with
      | nil => rfl
      | cons d tail => exact (hzero _ _ rfl).elim

theorem Digits.readWhole {cs rest : List Char} {ds : List Nat} (h : Digits cs ds rest)
    (hzero : ds.head? = some 0 → ds = [0]) (hrest : ∀ c ∈ rest.head?, c.isDigit = false) :
    readWhole cs = some (ds, rest) := by
  have hread := h.readDigits hrest
  rw [Json.readWhole]
  split
  · rename_i hnil
    cases hread.symm.trans hnil
    exact (h.ne_nil rfl).elim
  · rename_i hmore
    cases hread.symm.trans hmore
    cases hzero rfl
  · rename_i hdigits
    rw [← hdigits, hread]

theorem fraction_of_readFraction {cs rest : List Char} {ds : List Nat}
    (h : readFraction cs = some (ds, rest)) : Fraction cs ds rest := by
  rw [readFraction.eq_def] at h
  split at h
  · split at h
    · cases h
    · rename_i hnil hread
      cases h
      rcases digits_or_of_readDigits hread with ⟨rfl, rfl⟩ | hdigits
      · exact (hnil rfl).elim
      · exact .digits hdigits
  · cases h
    exact .none

theorem Fraction.readFraction {cs rest : List Char} {ds : List Nat} (h : Fraction cs ds rest)
    (hrest : ∀ c ∈ rest.head?, c.isDigit = false ∧ c ≠ '.') :
    readFraction cs = some (ds, rest) := by
  cases h with
  | none =>
    rw [Json.readFraction]
    rintro tail rfl
    exact (hrest '.' rfl).2 rfl
  | digits h =>
    obtain ⟨d, ds, rfl⟩ := List.exists_cons_of_ne_nil h.ne_nil
    rw [Json.readFraction, h.readDigits fun c hc => (hrest c hc).1]

theorem exponent_of_readExponent {cs rest : List Char} {e : Option (Bool × List Nat)}
    (h : readExponent cs = some (e, rest)) : Exponent cs e rest := by
  rw [readExponent.eq_def] at h
  split at h
  · split at h
    · rename_i he
      dsimp only at h
      split at h
      · cases h
      · rename_i hnil hread
        cases h
        rcases digits_or_of_readDigits hread with ⟨rfl, rfl⟩ | hdigits
        · exact (hnil rfl).elim
        · split at hdigits
          · exact .plus he hdigits
          · exact .minus he hdigits
          · exact .plain he hdigits
    · cases h
      exact .none
  · cases h
    exact .none

theorem Exponent.readExponent {cs rest : List Char} {e : Option (Bool × List Nat)}
    (h : Exponent cs e rest) (hrest : Stops rest) : readExponent cs = some (e, rest) := by
  cases h with
  | none => exact readExponent_of_stops hrest
  | plain he h =>
    have hread := h.readDigits fun c hc => (hrest c hc).1
    obtain ⟨d, ds, rfl⟩ := List.exists_cons_of_ne_nil h.ne_nil
    obtain ⟨c, tail, rfl, hc⟩ := h.exists_cons
    -- the first digit is no sign
    have hplus : c ≠ '+' := by
      rintro rfl
      cases hc
    have hminus : c ≠ '-' := by
      rintro rfl
      cases hc
    simp only [Json.readExponent, he, if_true, List.cons.injEq, hplus, hminus, false_and,
      imp_self, implies_true, hread]
  | plus he h | minus he h =>
    have hread := h.readDigits fun c hc => (hrest c hc).1
    obtain ⟨d, ds, rfl⟩ := List.exists_cons_of_ne_nil h.ne_nil
    simp only [Json.readExponent, he, if_true, hread]

theorem Fraction.length_le {cs rest : List Char} {ds : List Nat} (h : Fraction cs ds rest) :
    rest.length ≤ cs.length := by
  cases h with
  | none => exact Nat.le_refl _
  | digits h => exact Nat.le_of_lt (Nat.lt_succ_of_lt h.length_lt)

theorem Exponent.length_le {cs rest : List Char} {e : Option (Bool × List Nat)}
    (h : Exponent cs e rest) : rest.length ≤ cs.length := by
  cases h with
  | none => exact Nat.le_refl _
  | plain _ h | plus _ h | minus _ h =>
    have := h.length_lt
    simp only [List.length_cons]
    omega

theorem Exponent.head {cs rest : List Char} {e : Option (Bool × List Nat)}
    (h : Exponent cs e rest) (hrest : Stops rest) :
    ∀ c ∈ cs.head?, c.isDigit = false ∧ c ≠ '.' := by
  cases h with
  | none => exact fun c hc => ⟨(hrest c hc).1, (hrest c hc).2.1⟩
  | plain he _ | plus he _ | minus he _ =>
    rintro _ ⟨⟩
    rcases he with rfl | rfl <;> decide

theorem Fraction.head {cs rest : List Char} {ds : List Nat} (h : Fraction cs ds rest)
    (hrest : ∀ c ∈ rest.head?, c.isDigit = false) : ∀ c ∈ cs.head?, c.isDigit = false := by
  cases h with
  | none => exact hrest
  | digits _ =>
    rintro _ ⟨⟩
    decide

/-- The sign in front of a number. -/
theorem readNumber_sign {negative : Bool} {cs : List Char} {c : Char} {tail : List Char}
    (hcs : cs = c :: tail) (hc : c.isDigit = true) :
    readNumber (signText negative ++ cs) = (do
      let (whole, cs) ← readWhole cs
      let (fraction, cs) ← readFraction cs
      let (exponent, cs) ← readExponent cs
      let n ← Numeral.value? ⟨negative, whole, fraction, exponent⟩
      some (n, cs)) := by
  cases negative with
  | true => rfl
  | false =>
    subst hcs
    rw [signText, if_neg (by decide), List.nil_append, readNumber]
    rintro rest ⟨⟩
    cases hc

theorem Numeral.Spelled.readNumber {cs rest : List Char} {n : Numeral} {x : Number}
    (h : Numeral.Spelled cs n rest) (hx : n.value? = some x) (hrest : Stops rest) :
    readNumber cs = some (x, rest) := by
  cases h with
  | parts hwhole hzero hfraction hexponent =>
    obtain ⟨c, tail, hcs, hc⟩ := hwhole.exists_cons
    have hexponentHead := hexponent.head hrest
    have hfractionHead := hfraction.head fun c hc => (hexponentHead c hc).1
    rw [readNumber_sign hcs hc, hwhole.readWhole hzero hfractionHead]
    simp only [Option.bind_eq_bind, Option.bind_some, hfraction.readFraction hexponentHead,
      hexponent.readExponent hrest, hx]

theorem Numeral.Spelled.length_lt {cs rest : List Char} {n : Numeral}
    (h : Numeral.Spelled cs n rest) : rest.length < cs.length := by
  cases h with
  | parts hwhole _ hfraction hexponent =>
    have := hwhole.length_lt
    have := hfraction.length_le
    have := hexponent.length_le
    rw [List.length_append]
    omega

/-- A numeral begins with its sign or with a digit. -/
theorem Numeral.Spelled.exists_cons {cs rest : List Char} {n : Numeral}
    (h : Numeral.Spelled cs n rest) : ∃ c tail, cs = c :: tail ∧ (c = '-' ∨ c.isDigit = true) := by
  cases h with
  | @parts negative _ _ _ _ _ _ _ hwhole _ _ _ =>
    obtain ⟨c, tail, rfl, hc⟩ := hwhole.exists_cons
    cases negative with
    | true => exact ⟨'-', _, rfl, .inl rfl⟩
    | false => exact ⟨c, tail, rfl, .inr hc⟩

theorem exists_spelled_of_readNumber {cs rest : List Char} {x : Number}
    (h : readNumber cs = some (x, rest)) :
    ∃ n, Numeral.Spelled cs n rest ∧ n.value? = some x := by
  obtain ⟨negative, cs, rfl, hparts⟩ : ∃ negative cs', cs = signText negative ++ cs' ∧ (do
      let (whole, cs) ← readWhole cs'
      let (fraction, cs) ← readFraction cs
      let (exponent, cs) ← readExponent cs
      let n ← Numeral.value? ⟨negative, whole, fraction, exponent⟩
      some (n, cs)) = some (x, rest) := by
    rw [readNumber.eq_def] at h
    split at h
    rename_i heq
    split at heq
    · cases heq
      exact ⟨true, _, rfl, h⟩
    · cases heq
      exact ⟨false, _, rfl, h⟩
  simp only [Option.bind_eq_bind, Option.bind_eq_some_iff] at hparts
  obtain ⟨⟨whole, cs₁⟩, hwhole, ⟨fraction, cs₂⟩, hfraction, ⟨exponent, cs₃⟩, hexponent, y, hy,
    heq⟩ := hparts
  cases heq
  obtain ⟨hwhole, hzero⟩ := digits_of_readWhole hwhole
  exact ⟨_, .parts hwhole hzero (fraction_of_readFraction hfraction)
    (exponent_of_readExponent hexponent), hy⟩

/-- What is read for a number is a numeral with a value. -/
theorem readNumber_eq_some_iff {cs rest : List Char} {x : Number} (hrest : Stops rest) :
    readNumber cs = some (x, rest) ↔ ∃ n, Numeral.Spelled cs n rest ∧ n.value? = some x :=
  ⟨exists_spelled_of_readNumber, fun ⟨_, h, hx⟩ => h.readNumber hx hrest⟩

/-! ## Values -/

/-- What a part of a document is. -/
inductive Phrase where
  | value (v : Json)
  /-- A value with white space around it. -/
  | element (v : Json)
  /-- The items of a list, one at least. -/
  | elements (vs : List Json)
  | member (name : String) (v : Json)
  /-- The members of an object, one at least, in the order of writing. -/
  | members (ms : List (String × Json))

/-- The part at the front of a text, when `depth` lists and objects may be opened in it, and what
is behind it. -/
inductive Derives : Nat → Phrase → List Char → List Char → Prop
  | null {depth : Nat} {rest : List Char} :
    Derives depth (.value .null) ('n' :: 'u' :: 'l' :: 'l' :: rest) rest
  | true {depth : Nat} {rest : List Char} :
    Derives depth (.value (.bool true)) ('t' :: 'r' :: 'u' :: 'e' :: rest) rest
  | false {depth : Nat} {rest : List Char} :
    Derives depth (.value (.bool false)) ('f' :: 'a' :: 'l' :: 's' :: 'e' :: rest) rest
  | string {depth : Nat} {cs ds rest : List Char} (h : Spelled cs ds rest) :
    Derives depth (.value (.string (String.ofList ds))) ('"' :: cs) rest
  | number {depth : Nat} {cs rest : List Char} {n : Numeral} {x : Number}
    (h : Numeral.Spelled cs n rest) (hx : n.value? = some x) :
    Derives depth (.value (.number x)) cs rest
  | emptyArray {depth : Nat} {cs rest : List Char} (h : Space cs (']' :: rest)) :
    Derives (depth + 1) (.value (.array [])) ('[' :: cs) rest
  | array {depth : Nat} {cs rest : List Char} {vs : List Json}
    (h : Derives depth (.elements vs) cs (']' :: rest)) :
    Derives (depth + 1) (.value (.array vs)) ('[' :: cs) rest
  | emptyObject {depth : Nat} {cs rest : List Char} (h : Space cs ('\x7d' :: rest)) :
    Derives (depth + 1) (.value (.object [])) ('\x7b' :: cs) rest
  | object {depth : Nat} {cs rest : List Char} {ms : List (String × Json)}
    (h : Derives depth (.members ms) cs ('\x7d' :: rest)) :
    Derives (depth + 1) (.value (.object ms)) ('\x7b' :: cs) rest
  | element {depth : Nat} {cs cs₁ cs₂ rest : List Char} {v : Json} (hfront : Space cs cs₁)
    (h : Derives depth (.value v) cs₁ cs₂) (hback : Space cs₂ rest) :
    Derives depth (.element v) cs rest
  | lastElement {depth : Nat} {cs rest : List Char} {v : Json}
    (h : Derives depth (.element v) cs rest) : Derives depth (.elements [v]) cs rest
  | nextElement {depth : Nat} {cs cs₁ rest : List Char} {v : Json} {vs : List Json}
    (h : Derives depth (.element v) cs (',' :: cs₁))
    (hrest : Derives depth (.elements vs) cs₁ rest) : Derives depth (.elements (v :: vs)) cs rest
  | member {depth : Nat} {cs cs₁ cs₂ cs₃ rest name : List Char} {v : Json}
    (hfront : Space cs ('"' :: cs₁)) (hname : Spelled cs₁ name cs₂)
    (hgap : Space cs₂ (':' :: cs₃)) (h : Derives depth (.element v) cs₃ rest) :
    Derives depth (.member (String.ofList name) v) cs rest
  | lastMember {depth : Nat} {cs rest : List Char} {name : String} {v : Json}
    (h : Derives depth (.member name v) cs rest) : Derives depth (.members [(name, v)]) cs rest
  | nextMember {depth : Nat} {cs cs₁ rest : List Char} {name : String} {v : Json}
    {ms : List (String × Json)} (h : Derives depth (.member name v) cs (',' :: cs₁))
    (hrest : Derives depth (.members ms) cs₁ rest) :
    Derives depth (.members ((name, v) :: ms)) cs rest

/-- A text is a document: one value with white space around it. -/
def Document (text : List Char) (v : Json) : Prop :=
  Derives nestingLimit (.element v) text []

end BackendAudit.Json
