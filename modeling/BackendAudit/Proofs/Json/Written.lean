import BackendAudit.Json.Parser
import BackendAudit.Json.Printer
import Mathlib.Algebra.GroupWithZero.Nat
import Mathlib.Algebra.Ring.Int.Defs

/-!
# Written texts and integers are read back

The reader takes from the front of what is left, so each lemma has some characters `rest`
behind what was written:

* `readText_quoted`: a text ends at the first quote that is not escaped, and this is the one
  that the writer put at its end;
* `readNumber_numeral`: an integer of 64 bits ends where its digits do, if no digit, point
  or exponent follows.
-/

namespace BackendAudit.Json

/-! ## Texts -/

theorem hexDigit?_hexDigit : ∀ n < 16, hexDigit? (hexDigit n) = some n := by
  decide

theorem unit?_hexDigit {n : Nat} (h : n < 256) :
    unit? '0' '0' (hexDigit (n / 16)) (hexDigit (n % 16)) = some n := by
  have hzero : hexDigit? '0' = some 0 := by decide
  have hhigh : hexDigit? (hexDigit (n / 16)) = some (n / 16) :=
    hexDigit?_hexDigit _ (by omega)
  have hlow : hexDigit? (hexDigit (n % 16)) = some (n % 16) :=
    hexDigit?_hexDigit _ (by omega)
  have hvalue : 4096 * 0 + 256 * 0 + 16 * (n / 16) + n % 16 = n := by omega
  simp only [unit?, hzero, hhigh, hlow, Option.bind_eq_bind, Option.bind_some, hvalue]

/-- An escaped unit that is no surrogate is one character, also when another unit follows
that could be the second of a pair. -/
theorem readText_unit {a b c d : Char} {u : Nat} (before rest : List Char)
    (hu : unit? a b c d = some u) (hany : ¬ (0xd800 ≤ u ∧ u < 0xe000)) :
    readText before ('\\' :: 'u' :: a :: b :: c :: d :: rest) =
      readText (Char.ofNat u :: before) rest := by
  have hfirst : ¬ (0xd800 ≤ u ∧ u < 0xdc00) := by omega
  have hsecond : ¬ (0xdc00 ≤ u ∧ u < 0xe000) := by omega
  by_cases hnext : ∃ e f g h tail, rest = '\\' :: 'u' :: e :: f :: g :: h :: tail
  · obtain ⟨e, f, g, h, tail, rfl⟩ := hnext
    rw [readText]
    simp only [hu, if_neg hfirst, if_neg hsecond]
  · rw [readText]
    · simp only [hu, if_neg hany]
    · exact fun e f g h tail heq => hnext ⟨e, f, g, h, tail, heq⟩

theorem readText_letter {letter c : Char} (before rest : List Char)
    (h : escaped? letter = some c) :
    readText before ('\\' :: letter :: rest) = readText (c :: before) rest := by
  have hletter : letter ≠ 'u' := by
    rintro rfl
    simp [escaped?] at h
  rw [readText]
  · simp only [h]
  all_goals simp [hletter]

theorem readText_plain {c : Char} (before rest : List Char) (hquote : c ≠ '"')
    (hslash : c ≠ '\\') (hvisible : ¬ c.toNat < 0x20) :
    readText before (c :: rest) = readText (c :: before) rest := by
  rw [readText]
  · rw [if_neg hvisible]
  all_goals simp [hquote, hslash]

/-- The escape of a character is read as this character. -/
theorem readText_escape (before rest : List Char) (c : Char) :
    readText before (escape c ++ rest) = readText (c :: before) rest := by
  rw [escape.eq_def]
  split
  case h_8 hquote hslash _ _ _ _ _ =>
    split
    case isTrue hcontrol =>
      have hunit := unit?_hexDigit (n := c.toNat) (by omega)
      have hread := readText_unit before rest hunit (by omega)
      rwa [Char.ofNat_toNat] at hread
    case isFalse hvisible => exact readText_plain before rest hquote hslash hvisible
  all_goals exact readText_letter before rest rfl

theorem readText_flatMap_escape (before cs rest : List Char) :
    readText before (cs.flatMap escape ++ '"' :: rest) =
      some (String.ofList (before.reverse ++ cs), rest) := by
  induction cs generalizing before with
  | nil => rw [List.flatMap_nil, List.nil_append, readText, List.append_nil]
  | cons c cs ih =>
    rw [List.flatMap_cons, List.append_assoc, readText_escape, ih, List.reverse_cons,
      List.append_assoc, List.singleton_append]

/-- A text that was written in quotes is read back, and no more than it. -/
theorem readText_quoted (s : String) (rest : List Char) :
    readText [] (s.toList.flatMap escape ++ '"' :: rest) = some (s, rest) := by
  rw [readText_flatMap_escape, List.reverse_nil, List.nil_append, String.ofList_toList]

/-! ## Integers -/

/-- The characters behind a number do not go on with it. -/
def Stops (rest : List Char) : Prop :=
  ∀ c ∈ rest.head?, c.isDigit = false ∧ c ≠ '.' ∧ c ≠ 'e' ∧ c ≠ 'E'

theorem stops_cons {c : Char} (rest : List Char)
    (h : c.isDigit = false ∧ c ≠ '.' ∧ c ≠ 'e' ∧ c ≠ 'E') : Stops (c :: rest) := by
  rintro _ ⟨⟩
  exact h

theorem isDigit_of_mem_decimalDigits {n : Nat} {c : Char}
    (h : c ∈ Number.decimalDigits n) : c.isDigit = true :=
  Nat.isDigit_of_mem_toDigits (by decide) (by decide) h

theorem isDigit_of_decimalDigits_append {n : Nat} {rest tail : List Char} {c : Char}
    (h : Number.decimalDigits n ++ rest = c :: tail) : c.isDigit = true := by
  rcases List.append_eq_cons_iff.mp h with ⟨hnil, _⟩ | ⟨ds, hcons, _⟩
  · exact absurd hnil Nat.toDigits_ne_nil
  · exact isDigit_of_mem_decimalDigits (hcons ▸ List.mem_cons_self)

/-- The values of the digits of a number. -/
def digitValues (n : Nat) : List Nat :=
  (Number.decimalDigits n).map fun c => c.toNat - '0'.toNat

theorem digitValues_of_lt {n : Nat} (h : n < 10) : digitValues n = [n] := by
  rw [digitValues, Number.decimalDigits, Nat.toDigits_of_lt_base h]
  decide +revert

theorem digitValues_of_le {n : Nat} (h : 10 ≤ n) :
    digitValues n = digitValues (n / 10) ++ [n % 10] := by
  have hlast : digitValues (n % 10) = [n % 10] := digitValues_of_lt (by omega)
  rw [digitValues, Number.decimalDigits, Nat.toDigits_of_lt_base (by omega)] at hlast
  rw [digitValues, Number.decimalDigits, Nat.toDigits_of_base_le (by decide) h, List.map_append,
    hlast]
  rfl

/-- Only zero itself begins with a zero. -/
theorem head?_digitValues {n : Nat} (h : 0 < n) : ∃ d ∈ (digitValues n).head?, 0 < d := by
  induction n using Nat.strongRecOn with
  | ind n ih =>
    by_cases hlt : n < 10
    · exact ⟨n, by simp [digitValues_of_lt hlt], h⟩
    · obtain ⟨d, hd, hpos⟩ := ih (n / 10) (by omega) (by omega)
      refine ⟨d, ?_, hpos⟩
      rw [digitValues_of_le (by omega), List.head?_append, hd]
      rfl

theorem foldl_digitValues (n : Nat) :
    (digitValues n).foldl (fun m d => 10 * m + d) 0 = n := by
  have hvalue := Nat.ofDigitChars_toDigits (b := 10) (n := n) (by decide) (by decide)
  rwa [Nat.ofDigitChars, ← Number.decimalDigits, ← List.foldl_map] at hvalue

theorem readDigits_decimalDigits (n : Nat) {rest : List Char} (hrest : Stops rest) :
    readDigits (Number.decimalDigits n ++ rest) = (digitValues n, rest) := by
  have htake : (Number.decimalDigits n ++ rest).takeWhile Char.isDigit =
      Number.decimalDigits n := by
    rw [List.takeWhile_append_of_pos fun _ => isDigit_of_mem_decimalDigits]
    cases rest with
    | nil => rw [List.takeWhile_nil, List.append_nil]
    | cons c rest =>
      rw [List.takeWhile_cons_of_neg (by simp [(hrest c rfl).1]), List.append_nil]
  rw [readDigits, htake, List.drop_left]
  rfl

theorem readWhole_decimalDigits (n : Nat) {rest : List Char} (hrest : Stops rest) :
    readWhole (Number.decimalDigits n ++ rest) = some (digitValues n, rest) := by
  rw [readWhole, readDigits_decimalDigits n hrest]
  rcases Nat.eq_zero_or_pos n with rfl | hpos
  · rfl
  · obtain ⟨d, hd, hpos⟩ := head?_digitValues hpos
    cases hdigits : digitValues n with
    | nil => simp [hdigits] at hd
    | cons e ds =>
      obtain rfl : e = d := by simpa [hdigits] using hd
      obtain ⟨e, rfl⟩ := Nat.exists_eq_add_of_lt hpos
      rfl

theorem readFraction_of_stops {rest : List Char} (hrest : Stops rest) :
    readFraction rest = some ([], rest) := by
  rw [readFraction]
  rintro tail rfl
  exact (hrest '.' rfl).2.1 rfl

theorem readExponent_of_stops {rest : List Char} (hrest : Stops rest) :
    readExponent rest = some (none, rest) := by
  cases rest with
  | nil => rfl
  | cons c rest =>
    obtain ⟨_, _, hlower, hupper⟩ := hrest c rfl
    simp only [readExponent, hlower, hupper, or_self, if_false]

namespace Numeral

theorem le_foldl (ds : List Nat) (s : Nat) : s ≤ ds.foldl (fun m d => 10 * m + d) s := by
  induction ds generalizing s with
  | nil => exact Nat.le_refl s
  | cons d ds ih =>
    have := ih (10 * s + d)
    rw [List.foldl_cons]
    omega

/-- No digit is dropped from a number of 64 bits. -/
theorem pushAll_eq {ds : List Nat} {s : Nat}
    (h : ds.foldl (fun m d => 10 * m + d) s < 2 ^ 64) :
    pushAll s ds = (ds.foldl (fun m d => 10 * m + d) s, []) := by
  induction ds generalizing s with
  | nil => rfl
  | cons d ds ih =>
    rw [List.foldl_cons] at h ⊢
    have hroom : 10 * s + d < Nat.pow 2 64 :=
      Nat.lt_of_le_of_lt (le_foldl ds (10 * s + d)) h
    simp only [pushAll, push?, if_pos hroom, ih h]

theorem value?_digitValues {n : Nat} (h : n < 2 ^ 64) :
    value? ⟨false, digitValues n, [], none⟩ = some (.integer n) := by
  rw [value?, pushAll_eq (by rwa [foldl_digitValues]), foldl_digitValues]
  rfl

theorem value?_digitValues_negative {n : Nat} (hpos : n ≠ 0) (h : n ≤ 2 ^ 63) :
    value? ⟨true, digitValues n, [], none⟩ = some (.integer (-(n : Int))) := by
  have hfits : n < 2 ^ 64 := Nat.lt_of_le_of_lt h (by decide)
  rw [value?, pushAll_eq (by rwa [foldl_digitValues]), foldl_digitValues]
  have hsigned : n ≠ 0 ∧ n ≤ Nat.pow 2 63 := ⟨hpos, h⟩
  simp [hsigned]

end Numeral

/-- A written integer of 64 bits is read back, with or without sign. -/
theorem readNumber_numeral {n : Int} {rest : List Char} (hlow : -2 ^ 63 ≤ n)
    (hhigh : n < 2 ^ 64) (hrest : Stops rest) :
    readNumber (numeral (.integer n) ++ rest) = some (.integer n, rest) := by
  rw [numeral]
  split
  case isTrue hneg =>
    obtain ⟨m, rfl⟩ : ∃ m : Nat, n = -(m : Int) := ⟨n.natAbs, by omega⟩
    simp only [readNumber, Int.natAbs_neg, Int.natAbs_natCast, List.cons_append, List.nil_append,
      readWhole_decimalDigits m hrest, readFraction_of_stops hrest, readExponent_of_stops hrest,
      Numeral.value?_digitValues_negative (n := m) (by omega) (by omega), Option.bind_eq_bind,
      Option.bind_some]
  case isFalse hneg =>
    obtain ⟨m, rfl⟩ : ∃ m : Nat, n = (m : Int) := ⟨n.natAbs, by omega⟩
    rw [List.nil_append, Int.natAbs_natCast, readNumber]
    · simp only [readWhole_decimalDigits m hrest, readFraction_of_stops hrest,
        readExponent_of_stops hrest, Numeral.value?_digitValues (n := m) (by omega),
        Option.bind_eq_bind, Option.bind_some]
    · rintro tail htail
      exact absurd (isDigit_of_decimalDigits_append htail) (by decide)

end BackendAudit.Json
