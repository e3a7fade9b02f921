import BackendAudit.Text.Utf8
import Mathlib.Data.List.Basic

/-!
# Bytes that are a text

The strict reader accepts just the bytes of texts, and gives the text that they are the bytes
of (`decode_eq_ok_iff`), so whether some bytes are a text can be told without it (`IsText`).

The proof follows the reader byte by byte.  What may still come is told by the state: so many
bytes more, with bounds for the next of them, and their bits are put behind those read so far
(`Underway.Completes`, `Underway.number`).

* `encodeChar_eq_cons_iff`: the first byte of a character, and what may come behind it.
* `encode_eq_cons_iff`, `Underway.spells_cons_iff`: one byte more, outside a character and
  within one.
* `decode_go_eq_ok_iff`: all bytes, by induction.
-/

namespace BackendAudit.Text.Utf8

/-- Some bytes are those of a text. -/
def IsText (bytes : List UInt8) : Prop := ∃ cs, encode cs = bytes

@[simp]
theorem encode_nil : encode [] = [] := rfl

@[simp]
theorem encode_cons (c : Char) (cs : List Char) :
    encode (c :: cs) = String.utf8EncodeChar c ++ encode cs := rfl

theorem encode_eq_nil_iff {cs : List Char} : encode cs = [] ↔ cs = [] := by
  cases cs with
  | nil => simp
  | cons c cs => simp [String.utf8EncodeChar_ne_nil]

/-! ## The bytes of one character -/

/-- A number that is one of a character is the number of it. -/
theorem toNat_ofNat_of_isValidChar {n : Nat} (hvalid : n.isValidChar) :
    (Char.ofNat n).toNat = n := by
  rw [Char.ofNat, dif_pos hvalid]
  rfl

theorem encodeChar_eq_one_iff {c : Char} {a : UInt8} :
    String.utf8EncodeChar c = [a] ↔ a.toNat < 0x80 ∧ c.toNat = a.toNat := by
  have hc : c.val.toNat = c.toNat := rfl
  have ha := a.toNat_lt
  simp only [String.utf8EncodeChar, hc]
  split
  · simp only [List.cons.injEq, and_true, ← UInt8.toNat_inj, UInt8.toNat_ofNat']
    omega
  split
  · simp; omega
  split
  · simp; omega
  · simp; omega

theorem encodeChar_eq_two_iff {c : Char} {a b : UInt8} :
    String.utf8EncodeChar c = [a, b] ↔ 0xc2 ≤ a.toNat ∧ a.toNat < 0xe0 ∧
      (0x80 ≤ b.toNat ∧ b.toNat ≤ 0xbf) ∧ c.toNat = (a.toNat - 0xc0) * 64 + (b.toNat - 0x80) := by
  have hc : c.val.toNat = c.toNat := rfl
  have ha := a.toNat_lt
  simp only [String.utf8EncodeChar, hc]
  split
  · simp; omega
  split
  · simp only [List.cons.injEq, and_true, ← UInt8.toNat_inj, UInt8.toNat_ofNat']
    omega
  split
  · simp; omega
  · simp; omega

theorem encodeChar_eq_three_iff {c : Char} {a b d : UInt8} :
    String.utf8EncodeChar c = [a, b, d] ↔ 0xe0 ≤ a.toNat ∧ a.toNat < 0xf0 ∧
      (0x80 ≤ b.toNat ∧ b.toNat ≤ 0xbf) ∧ (0x80 ≤ d.toNat ∧ d.toNat ≤ 0xbf) ∧
      (a.toNat = 0xe0 → 0xa0 ≤ b.toNat) ∧ (a.toNat = 0xed → b.toNat ≤ 0x9f) ∧
      c.toNat = ((a.toNat - 0xe0) * 64 + (b.toNat - 0x80)) * 64 + (d.toNat - 0x80) := by
  have hc : c.val.toNat = c.toNat := rfl
  have ha := a.toNat_lt
  have hvalid : c.toNat < 0xd800 ∨ 0xdfff < c.toNat ∧ c.toNat < 0x110000 := c.valid
  simp only [String.utf8EncodeChar, hc]
  split
  · simp; omega
  split
  · simp; omega
  split
  · simp only [List.cons.injEq, and_true, ← UInt8.toNat_inj, UInt8.toNat_ofNat']
    omega
  · simp; omega

theorem encodeChar_eq_four_iff {c : Char} {a b d e : UInt8} :
    String.utf8EncodeChar c = [a, b, d, e] ↔ 0xf0 ≤ a.toNat ∧ a.toNat < 0xf5 ∧
      (0x80 ≤ b.toNat ∧ b.toNat ≤ 0xbf) ∧ (0x80 ≤ d.toNat ∧ d.toNat ≤ 0xbf) ∧
      (0x80 ≤ e.toNat ∧ e.toNat ≤ 0xbf) ∧
      (a.toNat = 0xf0 → 0x90 ≤ b.toNat) ∧ (a.toNat = 0xf4 → b.toNat ≤ 0x8f) ∧
      c.toNat = (((a.toNat - 0xf0) * 64 + (b.toNat - 0x80)) * 64 + (d.toNat - 0x80)) * 64 +
        (e.toNat - 0x80) := by
  have hc : c.val.toNat = c.toNat := rfl
  have ha := a.toNat_lt
  have hvalid : c.toNat < 0xd800 ∨ 0xdfff < c.toNat ∧ c.toNat < 0x110000 := c.valid
  simp only [String.utf8EncodeChar, hc]
  split
  · simp; omega
  split
  · simp; omega
  split
  · simp; omega
  · simp only [List.cons.injEq, and_true, ← UInt8.toNat_inj, UInt8.toNat_ofNat']
    omega

namespace Underway

/-- The number of a character: the bits that were read, and behind them those of the bytes that
complete it. -/
def number (u : Underway) (tail : List UInt8) : Nat :=
  tail.foldl (fun n b => n * 64 + (b.toNat - 0x80)) u.bits

/-- Some bytes complete a character: as many as are missing, the first of them within the
bounds for it. -/
structure Completes (u : Underway) (tail : List UInt8) : Prop where
  length_eq : tail.length = u.missing
  continues : ∀ b ∈ tail, 0x80 ≤ b.toNat ∧ b.toNat ≤ 0xbf
  accepted : ∀ b ∈ tail.head?, u.accepts b.toNat = true

/-- All bytes that complete a character make the number of one. -/
structure Sound (u : Underway) : Prop where
  low : 0x80 ≤ u.low
  high : u.high ≤ 0xbf
  missing : 0 < u.missing
  valid : ∀ tail, u.Completes tail → (u.number tail).isValidChar

end Underway

theorem lead_eq_char_iff {b : Nat} {c : Char} :
    lead b = .char c ↔ b < 0x80 ∧ c = Char.ofNat b := by
  rw [lead]
  repeat' split
  all_goals simp [eq_comm]
  all_goals omega

/-- The three kinds of first bytes that more bytes are to follow. -/
theorem lead_eq_underway_iff {b : Nat} {u : Underway} :
    lead b = .underway u ↔
      (0xc2 ≤ b ∧ b < 0xe0 ∧ u = ⟨1, 1, 0x80, 0xbf, b - 0xc0⟩) ∨
      (0xe0 ≤ b ∧ b < 0xf0 ∧ u = ⟨1, 2, if b = 0xe0 then 0xa0 else 0x80,
        if b = 0xed then 0x9f else 0xbf, b - 0xe0⟩) ∨
      (0xf0 ≤ b ∧ b < 0xf5 ∧ u = ⟨1, 3, if b = 0xf0 then 0x90 else 0x80,
        if b = 0xf4 then 0x8f else 0xbf, b - 0xf0⟩) := by
  constructor
  · intro h
    rw [lead] at h
    split at h
    · cases h
    split at h
    · cases h
    split at h
    · cases h
      exact .inl ⟨by omega, by omega, rfl⟩
    split at h
    · cases h
      exact .inr (.inl ⟨by omega, by omega, rfl⟩)
    split at h
    · cases h
      exact .inr (.inr ⟨by omega, by omega, rfl⟩)
    · cases h
  · rintro (⟨hlo, hhi, rfl⟩ | ⟨hlo, hhi, rfl⟩ | ⟨hlo, hhi, rfl⟩)
    · rw [lead, if_neg (by omega), if_neg (by omega), if_pos (by omega)]
    · rw [lead, if_neg (by omega), if_neg (by omega), if_neg (by omega), if_pos (by omega)]
    · rw [lead, if_neg (by omega), if_neg (by omega), if_neg (by omega), if_neg (by omega),
        if_pos (by omega)]

namespace Underway
variable {u : Underway}

/-- The first of the bytes that complete a character is within the bounds for it, and all of them
continue one. -/
theorem completes_cons_iff {b : UInt8} {tail : List UInt8} :
    u.Completes (b :: tail) ↔ u.missing = tail.length + 1 ∧
      (u.low ≤ b.toNat ∧ b.toNat ≤ u.high) ∧
      ∀ d ∈ b :: tail, 0x80 ≤ d.toNat ∧ d.toNat ≤ 0xbf := by
  constructor
  · intro h
    have haccepts := h.accepted b rfl
    simp only [accepts, Bool.and_eq_true, decide_eq_true_eq] at haccepts
    exact ⟨h.length_eq.symm, haccepts, h.continues⟩
  · rintro ⟨hlength, haccepts, hcontinues⟩
    refine ⟨hlength.symm, hcontinues, ?_⟩
    rintro _ ⟨⟩
    simpa [accepts] using haccepts

end Underway

theorem encodeChar_length_le (c : Char) : (String.utf8EncodeChar c).length ≤ 4 := by
  rw [String.length_utf8EncodeChar]
  exact c.utf8Size_le_four

/-- The first byte of a character tells how many follow it, and all of them its number. -/
theorem encodeChar_eq_cons_iff {c : Char} {b : UInt8} {tail : List UInt8} :
    String.utf8EncodeChar c = b :: tail ↔
      (lead b.toNat = .char c ∧ tail = []) ∨
        ∃ u, lead b.toNat = .underway u ∧ u.Completes tail ∧ c.toNat = u.number tail := by
  constructor
  · intro h
    rcases tail with _ | ⟨d, _ | ⟨e, _ | ⟨f, _ | ⟨g, more⟩⟩⟩⟩
    · obtain ⟨hb, hnumber⟩ := encodeChar_eq_one_iff.mp h
      exact .inl ⟨lead_eq_char_iff.mpr ⟨hb, by rw [← hnumber, Char.ofNat_toNat]⟩, rfl⟩
    · obtain ⟨hlo, hhi, hd, hnumber⟩ := encodeChar_eq_two_iff.mp h
      exact .inr ⟨_, lead_eq_underway_iff.mpr (.inl ⟨hlo, hhi, rfl⟩),
        Underway.completes_cons_iff.mpr ⟨rfl, hd, by simpa using hd⟩, hnumber⟩
    · obtain ⟨hlo, hhi, hd, he, hover, hsurrogate, hnumber⟩ := encodeChar_eq_three_iff.mp h
      refine .inr ⟨_, lead_eq_underway_iff.mpr (.inr (.inl ⟨hlo, hhi, rfl⟩)),
        Underway.completes_cons_iff.mpr ⟨rfl, ⟨?_, ?_⟩, by simpa using ⟨hd, he⟩⟩, hnumber⟩
      · dsimp only
        split <;> omega
      · dsimp only
        split <;> omega
    · obtain ⟨hlo, hhi, hd, he, hf, hover, habove, hnumber⟩ := encodeChar_eq_four_iff.mp h
      refine .inr ⟨_, lead_eq_underway_iff.mpr (.inr (.inr ⟨hlo, hhi, rfl⟩)),
        Underway.completes_cons_iff.mpr ⟨rfl, ⟨?_, ?_⟩, by simpa using ⟨hd, he, hf⟩⟩, hnumber⟩
      · dsimp only
        split <;> omega
      · dsimp only
        split <;> omega
    · have hlength := encodeChar_length_le c
      simp only [h, List.length_cons] at hlength
      omega
  · rintro (⟨hlead, rfl⟩ | ⟨u, hlead, hcompletes, hnumber⟩)
    · obtain ⟨hb, rfl⟩ := lead_eq_char_iff.mp hlead
      have hvalid : b.toNat.isValidChar := .inl (by omega)
      exact encodeChar_eq_one_iff.mpr ⟨hb, toNat_ofNat_of_isValidChar hvalid⟩
    obtain ⟨hlo, hhi, rfl⟩ | ⟨hlo, hhi, rfl⟩ | ⟨hlo, hhi, rfl⟩ := lead_eq_underway_iff.mp hlead
    · obtain ⟨d, rfl⟩ := List.length_eq_one_iff.mp hcompletes.length_eq
      obtain ⟨_, hd, _⟩ := Underway.completes_cons_iff.mp hcompletes
      exact encodeChar_eq_two_iff.mpr ⟨hlo, hhi, hd, hnumber⟩
    · obtain ⟨d, e, rfl⟩ := List.length_eq_two.mp hcompletes.length_eq
      obtain ⟨_, ⟨hover, hsurrogate⟩, hall⟩ := Underway.completes_cons_iff.mp hcompletes
      refine encodeChar_eq_three_iff.mpr ⟨hlo, hhi, hall d (by simp), hall e (by simp), ?_, ?_,
        hnumber⟩
      · intro hb
        simpa [hb] using hover
      · intro hb
        simpa [hb] using hsurrogate
    · obtain ⟨d, e, f, rfl⟩ := List.length_eq_three.mp hcompletes.length_eq
      obtain ⟨_, ⟨hover, habove⟩, hall⟩ := Underway.completes_cons_iff.mp hcompletes
      refine encodeChar_eq_four_iff.mpr ⟨hlo, hhi, hall d (by simp), hall e (by simp),
        hall f (by simp), ?_, ?_, hnumber⟩
      · intro hb
        simpa [hb] using hover
      · intro hb
        simpa [hb] using habove

/-! ## The rest of a text -/

/-- Some bytes complete a character, and the texts that they go on with begin with it. -/
def Underway.Spells (u : Underway) (cs : List Char) (bytes : List UInt8) : Prop :=
  ∃ c more tail, u.Completes tail ∧ c.toNat = u.number tail ∧ cs = c :: more ∧
    bytes = tail ++ encode more

/-- What may follow a byte. -/
def Lead.Spells : Lead → List Char → List UInt8 → Prop
  | .char c, cs, bytes => ∃ more, cs = c :: more ∧ encode more = bytes
  | .underway u, cs, bytes => u.Spells cs bytes
  | .invalid, _, _ => False

/-- What is under way after a byte is sound. -/
def Lead.Sound (l : Lead) : Prop := ∀ u, l = .underway u → u.Sound

/-- A text's first byte tells what may follow it. -/
theorem encode_eq_cons_iff {cs : List Char} {b : UInt8} {rest : List UInt8} :
    encode cs = b :: rest ↔ (lead b.toNat).Spells cs rest := by
  constructor
  · intro h
    rcases cs with _ | ⟨c, more⟩
    · cases h
    obtain ⟨tail, hc, hrest⟩ : ∃ tail, String.utf8EncodeChar c = b :: tail ∧
        rest = tail ++ encode more := by
      rw [encode_cons, List.append_eq_cons_iff] at h
      obtain ⟨hc, -⟩ | h := h
      · exact absurd hc (String.utf8EncodeChar_ne_nil)
      · exact h
    obtain ⟨hlead, rfl⟩ | ⟨u, hlead, hcompletes, hnumber⟩ := encodeChar_eq_cons_iff.mp hc
    · rw [hlead]
      exact ⟨more, rfl, hrest.symm⟩
    · rw [hlead]
      exact ⟨c, more, tail, hcompletes, hnumber, rfl, hrest⟩
  · intro h
    cases hlead : lead b.toNat with
    | char c =>
      rw [hlead] at h
      obtain ⟨more, rfl, rfl⟩ := h
      rw [encode_cons, encodeChar_eq_cons_iff.mpr (.inl ⟨hlead, rfl⟩), List.singleton_append]
    | underway u =>
      rw [hlead] at h
      obtain ⟨c, more, tail, hcompletes, hnumber, rfl, rfl⟩ := h
      rw [encode_cons, encodeChar_eq_cons_iff.mpr (.inr ⟨u, hlead, hcompletes, hnumber⟩),
        List.cons_append]
    | invalid =>
      rw [hlead] at h
      exact h.elim

/-- What is under way after a first byte is sound: overlong forms, surrogates and what is above
the last character are out of its bounds. -/
theorem lead_sound (b : Nat) : (lead b).Sound := by
  intro u hlead
  obtain ⟨hlo, hhi, rfl⟩ | ⟨hlo, hhi, rfl⟩ | ⟨hlo, hhi, rfl⟩ := lead_eq_underway_iff.mp hlead
  · refine ⟨by simp, by simp, by simp, fun tail hcompletes => ?_⟩
    obtain ⟨d, rfl⟩ := List.length_eq_one_iff.mp hcompletes.length_eq
    have hd := hcompletes.continues d (by simp)
    simp only [Underway.number, List.foldl_cons, List.foldl_nil, Nat.isValidChar]
    omega
  · refine ⟨by dsimp only; split <;> simp, by dsimp only; split <;> simp, by simp,
      fun tail hcompletes => ?_⟩
    obtain ⟨d, e, rfl⟩ := List.length_eq_two.mp hcompletes.length_eq
    obtain ⟨_, ⟨hover, hsurrogate⟩, hall⟩ := Underway.completes_cons_iff.mp hcompletes
    have hd := hall d (by simp)
    have he := hall e (by simp)
    simp only [Underway.number, List.foldl_cons, List.foldl_nil, Nat.isValidChar]
    have hlower : b = 0xe0 → 0xa0 ≤ d.toNat := by
      intro hb
      simpa [hb] using hover
    have hupper : b = 0xed → d.toNat ≤ 0x9f := by
      intro hb
      simpa [hb] using hsurrogate
    omega
  · refine ⟨by dsimp only; split <;> simp, by dsimp only; split <;> simp, by simp,
      fun tail hcompletes => ?_⟩
    obtain ⟨d, e, f, rfl⟩ := List.length_eq_three.mp hcompletes.length_eq
    obtain ⟨_, ⟨hover, habove⟩, hall⟩ := Underway.completes_cons_iff.mp hcompletes
    have hd := hall d (by simp)
    have he := hall e (by simp)
    have hf := hall f (by simp)
    simp only [Underway.number, List.foldl_cons, List.foldl_nil, Nat.isValidChar]
    have hlower : b = 0xf0 → 0x90 ≤ d.toNat := by
      intro hb
      simpa [hb] using hover
    have hupper : b = 0xf4 → d.toNat ≤ 0x8f := by
      intro hb
      simpa [hb] using habove
    omega

namespace Underway
variable {u : Underway} {b : UInt8} {tail : List UInt8}

/-- The bytes behind one that continues a character complete what is then under way. -/
theorem completes_next_iff (hsound : u.Sound) (haccepts : u.accepts b.toNat = true) {u' : Underway}
    (hnext : u.next b.toNat = .underway u') :
    u'.Completes tail ↔ u.Completes (b :: tail) := by
  simp only [accepts, Bool.and_eq_true, decide_eq_true_eq] at haccepts
  have hlow := hsound.low
  have hhigh := hsound.high
  rw [next] at hnext
  split at hnext
  · cases hnext
  · cases hnext
    rw [completes_cons_iff]
    constructor
    · intro h
      have hlength := h.length_eq
      exact ⟨by simp only at hlength; omega, haccepts,
        List.forall_mem_cons.mpr ⟨by omega, h.continues⟩⟩
    · rintro ⟨hlength, -, hall⟩
      refine ⟨by simp only; omega, fun d hd => hall d (.tail _ hd), fun d hd => ?_⟩
      have hrange := hall d (.tail _ (List.mem_of_mem_head? hd))
      simpa [accepts] using hrange

theorem number_singleton : u.number [b] = u.extend b.toNat := rfl

theorem number_next {u' : Underway} (hnext : u.next b.toNat = .underway u') :
    u'.number tail = u.number (b :: tail) := by
  have hbits : u'.bits = u.number [b] := by
    rw [next] at hnext
    split at hnext
    · cases hnext
    · cases hnext
      exact number_singleton.symm
  rw [number, hbits, number, number, List.foldl_cons, List.foldl_cons, List.foldl_nil]

/-- What is under way after a byte that continues a sound one is sound. -/
theorem next_sound (hsound : u.Sound) (haccepts : u.accepts b.toNat = true) :
    (u.next b.toNat).Sound := by
  intro u' hnext
  have hvalid : ∀ tail, u'.Completes tail → (u'.number tail).isValidChar := by
    intro tail hcompletes
    rw [number_next hnext]
    exact hsound.valid _ ((completes_next_iff hsound haccepts hnext).mp hcompletes)
  rw [next] at hnext
  split at hnext
  · cases hnext
  · cases hnext
    exact ⟨Nat.le_refl _, Nat.le_refl _, by simp only; omega, hvalid⟩

theorem next_ne_invalid (u : Underway) (b : Nat) : u.next b ≠ .invalid := by
  rw [next]
  split <;> nofun

/-- The character that the last of its bytes completes. -/
theorem next_eq_char_iff (hsound : u.Sound) (haccepts : u.accepts b.toNat = true) {c : Char} :
    u.next b.toNat = .char c ↔ u.Completes [b] ∧ c.toNat = u.number [b] := by
  have hmissing := hsound.missing
  simp only [accepts, Bool.and_eq_true, decide_eq_true_eq] at haccepts
  have hlow := hsound.low
  have hhigh := hsound.high
  rw [next]
  constructor
  · intro h
    split at h
    · rw [Lead.char.injEq] at h
      subst h
      have hcompletes : u.Completes [b] :=
        completes_cons_iff.mpr ⟨by simp; omega, haccepts, by simp; omega⟩
      have hvalid := hsound.valid _ hcompletes
      rw [number_singleton] at hvalid ⊢
      exact ⟨hcompletes, toNat_ofNat_of_isValidChar hvalid⟩
    · cases h
  · rintro ⟨hcompletes, hnumber⟩
    have hlength := hcompletes.length_eq
    rw [if_pos (by simp at hlength; omega), Lead.char.injEq, ← Char.ofNat_toNat c, hnumber,
      number_singleton]

/-- One byte more of a character. -/
theorem spells_cons_iff (hsound : u.Sound) {cs : List Char} {rest : List UInt8} :
    u.Spells cs (b :: rest) ↔ u.accepts b.toNat = true ∧ (u.next b.toNat).Spells cs rest := by
  constructor
  · rintro ⟨c, more, tail, hcompletes, hnumber, rfl, hbytes⟩
    obtain ⟨tail, rfl, rfl⟩ : ∃ tail', tail = b :: tail' ∧ rest = tail' ++ encode more := by
      obtain ⟨rfl, -⟩ | h := List.cons_eq_append_iff.mp hbytes
      · exact absurd hcompletes.length_eq (Nat.ne_of_lt hsound.missing)
      · exact h
    have haccepts := hcompletes.accepted b rfl
    refine ⟨haccepts, ?_⟩
    cases hnext : u.next b.toNat with
    | char d =>
      obtain ⟨hd, hdnumber⟩ := (next_eq_char_iff hsound haccepts).mp hnext
      have hlength := hcompletes.length_eq.trans hd.length_eq.symm
      obtain rfl : tail = [] := by simpa using hlength
      obtain rfl : c = d := Char.toNat_inj.mp (hnumber.trans hdnumber.symm)
      exact ⟨more, rfl, rfl⟩
    | underway u' =>
      exact ⟨c, more, tail, (completes_next_iff hsound haccepts hnext).mpr hcompletes,
        hnumber.trans (number_next hnext).symm, rfl, rfl⟩
    | invalid => exact absurd hnext (next_ne_invalid u b.toNat)
  · rintro ⟨haccepts, h⟩
    cases hnext : u.next b.toNat with
    | char c =>
      rw [hnext] at h
      obtain ⟨more, rfl, rfl⟩ := h
      obtain ⟨hcompletes, hnumber⟩ := (next_eq_char_iff hsound haccepts).mp hnext
      exact ⟨c, more, [b], hcompletes, hnumber, rfl, rfl⟩
    | underway u' =>
      rw [hnext] at h
      obtain ⟨c, more, tail, hcompletes, hnumber, rfl, rfl⟩ := h
      exact ⟨c, more, b :: tail, (completes_next_iff hsound haccepts hnext).mp hcompletes,
        hnumber.trans (number_next hnext), rfl, rfl⟩
    | invalid => exact absurd hnext (next_ne_invalid u b.toNat)

theorem not_spells_nil (hsound : u.Sound) (cs : List Char) : ¬ u.Spells cs [] := by
  rintro ⟨c, more, tail, hcompletes, -, -, hbytes⟩
  obtain ⟨rfl, -⟩ := List.append_eq_nil_iff.mp hbytes.symm
  exact Nat.ne_of_lt hsound.missing hcompletes.length_eq

end Underway

/-! ## The strict reader -/

/-- A character that was read is the first of those that follow. -/
theorem exists_spells_char_iff {before cs : List Char} {c : Char} {rest : List UInt8} :
    (∃ more, cs = before.reverse ++ more ∧ (Lead.char c).Spells more rest) ↔
      ∃ more, cs = (c :: before).reverse ++ more ∧ encode more = rest := by
  constructor
  · rintro ⟨_, rfl, more, rfl, hmore⟩
    exact ⟨more, by simp, hmore⟩
  · rintro ⟨more, rfl, hmore⟩
    exact ⟨c :: more, by simp, more, rfl, hmore⟩

/-- What the strict reader still reads, outside a character and within one. -/
theorem decode_go_eq_ok_iff {cs : List Char} (bytes : List UInt8) (index : Nat)
    (before : List Char) :
    (decode.go index none before bytes = .ok cs ↔
      ∃ more, cs = before.reverse ++ more ∧ encode more = bytes) ∧
    ∀ u : Underway, u.Sound → (decode.go index (some u) before bytes = .ok cs ↔
      ∃ more, cs = before.reverse ++ more ∧ u.Spells more bytes) := by
  induction bytes generalizing index before with
  | nil =>
    refine ⟨?_, fun u hsound => ?_⟩
    · rw [decode.go]
      simp only [encode_eq_nil_iff, Except.ok.injEq, exists_eq_right, List.append_nil]
      exact eq_comm
    · rw [decode.go]
      simp only [reduceCtorEq, Underway.not_spells_nil hsound, and_false, exists_false]
  | cons b rest ih =>
    refine ⟨?_, fun u hsound => ?_⟩
    · rw [decode.go]
      simp only [encode_eq_cons_iff]
      cases hlead : lead b.toNat with
      | char c => exact (ih _ _).1.trans exists_spells_char_iff.symm
      | underway u => exact (ih _ _).2 u (lead_sound _ u hlead)
      | invalid => simp [Lead.Spells]
    · rw [decode.go]
      simp only [Underway.spells_cons_iff hsound]
      cases haccepts : u.accepts b.toNat with
      | false => simp
      | true =>
        simp only [if_true, true_and]
        cases hnext : u.next b.toNat with
        | char c => exact (ih _ _).1.trans exists_spells_char_iff.symm
        | underway u' => exact (ih _ _).2 u' (Underway.next_sound hsound haccepts u' hnext)
        | invalid => simp [Lead.Spells]

/-- The strict reader accepts just the bytes of texts. -/
theorem decode_eq_ok_iff {bytes : List UInt8} {cs : List Char} :
    decode bytes = .ok cs ↔ encode cs = bytes := by
  rw [decode, (decode_go_eq_ok_iff bytes 0 []).1]
  simp

@[simp]
theorem decode_encode (cs : List Char) : decode (encode cs) = .ok cs :=
  decode_eq_ok_iff.mpr rfl

/-- Different texts have different bytes. -/
theorem encode_injective : Function.Injective encode := by
  intro cs cs' h
  have hdecode := decode_encode cs
  rw [h, decode_encode] at hdecode
  exact (Except.ok.inj hdecode).symm

end BackendAudit.Text.Utf8
