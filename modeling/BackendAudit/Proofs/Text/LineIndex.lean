import BackendAudit.Proofs.Text.LineText
import BackendAudit.Proofs.Text.Utf8

/-!
# An index undoes the splitting into lines

The places of an index count bytes, and so everything here is said of the bytes of a content
too: a line feed is one byte, and no other character has that byte in it
(`Text.Utf8.lineFeed_mem_encodeChar`).

* `Text.lineFeedsBefore_eq_count`: the number of a line counts the bytes of line feeds.
* `LineIndex.exists_bounds_around`: every place lies between the bounds of its line.
* `LineIndex.exists_bounds_of_lineText?`: the text of a line is what its bounds are around.
* `LineIndex.inverts_splitOn`: numbers, texts and bounds of all lines together.
-/

namespace BackendAudit

namespace Text

/-! ## Line feeds among the bytes -/

namespace Utf8

/-- The byte of a line feed. -/
def lineFeed : UInt8 := 0x0a

theorem encode_append (cs ds : List Char) : encode (cs ++ ds) = encode cs ++ encode ds :=
  List.flatMap_append

theorem length_encode (cs : List Char) : (encode cs).length = byteLength cs := by
  induction cs with
  | nil => rfl
  | cons c cs ih =>
    rw [encode_cons, List.length_append, String.length_utf8EncodeChar, ih, byteLength_cons]

/-- The byte of a line feed is in no other character. -/
theorem lineFeed_mem_encodeChar {c : Char} (h : lineFeed ∈ String.utf8EncodeChar c) : c = '\n' := by
  have hfeed : lead lineFeed.toNat = .char '\n' := rfl
  obtain ⟨b, tail, hbytes⟩ := List.exists_cons_of_ne_nil (String.utf8EncodeChar_ne_nil (c := c))
  rw [hbytes] at h
  rcases encodeChar_eq_cons_iff.mp hbytes with ⟨hlead, rfl⟩ | ⟨u, hlead, hcompletes, _⟩
  · obtain rfl := List.mem_singleton.mp h
    rw [hfeed] at hlead
    injection hlead with hc
    exact hc.symm
  · rcases List.mem_cons.mp h with rfl | htail
    · rw [hfeed] at hlead
      cases hlead
    · exact absurd (hcompletes.continues _ htail).1 (by decide)

end Utf8

open Utf8 (encode lineFeed)

/-- Of the bytes of one character only those of a line feed count. -/
theorem count_take_encodeChar (count : Nat) (c : Char) :
    ((String.utf8EncodeChar c).take count).count lineFeed =
      if c = '\n' ∧ 0 < count then 1 else 0 := by
  by_cases hc : c = '\n'
  · have hbytes : String.utf8EncodeChar c = [lineFeed] := by
      rw [hc]
      decide
    rw [hbytes]
    cases count <;> simp [hc]
  · have hnone : lineFeed ∉ String.utf8EncodeChar c := mt Utf8.lineFeed_mem_encodeChar hc
    rw [if_neg fun h => hc h.1]
    exact List.count_eq_zero.mpr fun h => hnone (List.mem_of_mem_take h)

/-- Among the first bytes of a text there are as many line feeds as places before the end of
these bytes. -/
theorem countP_lineFeedsFrom (start count : Nat) (cs : List Char) :
    (lineFeedsFrom start cs).countP (fun feed => feed < start + count) =
      ((encode cs).take count).count lineFeed := by
  induction cs generalizing start count with
  | nil => simp [lineFeedsFrom]
  | cons c cs ih =>
    have hrest : (lineFeedsFrom (start + c.utf8Size) cs).countP (fun feed => feed < start + count) =
        ((encode cs).take (count - c.utf8Size)).count lineFeed := by
      by_cases hle : c.utf8Size ≤ count
      · rw [← ih, Nat.add_assoc, Nat.add_sub_cancel' hle]
      · -- the bytes end within the character
        rw [Nat.sub_eq_zero_of_le (by omega), List.take_zero, List.count_nil]
        refine List.countP_eq_zero.mpr fun feed hfeed => ?_
        have := (lineFeedsFrom_bounds hfeed).1
        simp only [decide_eq_true_eq]
        omega
    rw [Utf8.encode_cons, List.take_append, List.count_append, String.length_utf8EncodeChar,
      count_take_encodeChar, ← hrest, lineFeedsFrom]
    by_cases hc : c = '\n'
    · rw [if_pos hc, List.countP_cons]
      simp [hc, Nat.add_comm]
    · simp [hc]

/-- The line feeds before a place, counted by their bytes. -/
theorem lineFeedsBefore_eq_count (content : List Char) (place : Nat) :
    lineFeedsBefore content place = ((encode content).take place).count lineFeed := by
  have h := countP_lineFeedsFrom 0 place content
  rwa [Nat.zero_add] at h

/-- There is the byte of a line feed at the place of one. -/
theorem getElem?_encode_of_mem {start feed : Nat} {cs : List Char}
    (h : feed ∈ lineFeedsFrom start cs) : (encode cs)[feed - start]? = some lineFeed := by
  induction cs generalizing start with
  | nil => simp [lineFeedsFrom] at h
  | cons c cs ih =>
    have hrest (hfeed : feed ∈ lineFeedsFrom (start + c.utf8Size) cs) :
        (encode (c :: cs))[feed - start]? = some lineFeed := by
      have hle := (lineFeedsFrom_bounds hfeed).1
      rw [Utf8.encode_cons, List.getElem?_append_right, String.length_utf8EncodeChar,
        Nat.sub_sub, ih hfeed]
      rw [String.length_utf8EncodeChar]
      omega
    rw [lineFeedsFrom] at h
    split at h
    · rename_i hc
      rcases List.mem_cons.mp h with rfl | hfeed
      · rw [Nat.sub_self, hc]
        rfl
      · exact hrest hfeed
    · exact hrest h

end Text

/-! ## Bounds of lines -/

open Text Text.Utf8

namespace LineIndex

/-- A place lies between the bounds of its line, or is that of the line feed that ends it. -/
theorem exists_bounds_around {content : List Char} {place : Nat}
    (h : place ≤ byteLength content) :
    ∃ first last,
      (ofContent content).bounds? content ((ofContent content).lineOf place) =
          some (first, last) ∧
        first ≤ place ∧ place ≤ last ∧
        (last = byteLength content ∨ (encode content)[last]? = some lineFeed) := by
  have hcount : lineFeedsBefore content place ≤ (lineFeedsFrom 0 content).length :=
    List.countP_le_length
  obtain ⟨first, hfirst, hle⟩ : ∃ first,
      (ofContent content).starts[lineFeedsBefore content place]? = some first ∧ first ≤ place := by
    cases hline : lineFeedsBefore content place with
    | zero => exact ⟨0, starts_zero content, Nat.zero_le _⟩
    | succ line =>
      have hfeed : (lineFeedsFrom 0 content)[line]? = some (lineFeedsFrom 0 content)[line] :=
        List.getElem?_eq_getElem (by omega)
      refine ⟨_, by rw [starts_succ, hfeed]; rfl, ?_⟩
      exact (lt_iff_of_getElem?_lineFeedsFrom hfeed).mpr (by omega)
  rw [lineOf_ofContent, bounds?, hfirst, Option.map_some, starts_succ]
  cases hfeed : (lineFeedsFrom 0 content)[lineFeedsBefore content place]? with
  | none => exact ⟨first, _, rfl, hle, h, .inl rfl⟩
  | some feed =>
    have hbehind : ¬ feed < place := fun hlt =>
      Nat.lt_irrefl _ ((lt_iff_of_getElem?_lineFeedsFrom hfeed).mp hlt)
    have hbyte : (encode content)[feed]? = some lineFeed :=
      getElem?_encode_of_mem (List.mem_of_getElem? hfeed)
    exact ⟨first, feed, rfl, hle, Nat.not_lt.mp hbehind, .inr hbyte⟩

/-- What stands between the bounds of a line is its text, byte by byte. -/
theorem exists_bounds_of_lineText? {content text : List Char} {line : Nat}
    (h : (ofContent content).lineText? content line = some text) :
    ∃ first last, (ofContent content).bounds? content line = some (first, last) ∧
      first ≤ last ∧ last ≤ byteLength content ∧
      ((encode content).take last).drop first = encode text := by
  cases line with
  | zero => cases h
  | succ k =>
    rw [lineText?_succ] at h
    obtain ⟨hk, _⟩ := List.getElem?_eq_some_iff.mp h
    rw [length_splitOn] at hk
    obtain ⟨text', hline⟩ := exists_isLine_of_le (Nat.lt_succ_iff.mp hk)
    obtain ⟨_, ⟨⟨first, last⟩, hbounds, hspan, hslice⟩, htext⟩ := reads_line hline
    rw [lineText?_succ, h] at htext
    obtain rfl := Option.some.inj htext
    refine ⟨first, last, hbounds, hspan.le, hspan.isPlace_end.le, ?_⟩
    obtain ⟨before, part, after, rfl, rfl, rfl⟩ := hspan
    obtain rfl : part = text := (slice_eq before part after).symm.trans hslice
    rw [← length_encode (before ++ part), ← length_encode before, encode_append (before ++ part),
      List.take_left, encode_append, List.drop_left]

/-! ## Numbers, texts and bounds together -/

/-- An index undoes the splitting of a content into lines. -/
structure Inverts (index : LineIndex) (content : List Char) : Prop where
  /-- The number of a line counts the line feeds among the bytes before a place. -/
  lineOf_eq : ∀ place, index.lineOf place = 1 + ((encode content).take place).count lineFeed
  /-- From the end of the content on, all line feeds count. -/
  lineOf_end : ∀ place, byteLength content ≤ place →
    index.lineOf place = content.count '\n' + 1
  /-- There are bounds for every line that a place can lie on, and for no other number. -/
  bounds?_isSome : ∀ line,
    (index.bounds? content line).isSome ↔ 1 ≤ line ∧ line ≤ content.count '\n' + 1
  /-- So there is a text. -/
  lineText?_isSome : ∀ line,
    (index.lineText? content line).isSome ↔ 1 ≤ line ∧ line ≤ content.count '\n' + 1
  /-- The text is the piece of that number. -/
  lineText?_succ : ∀ k, index.lineText? content (k + 1) = (content.splitOn '\n')[k]?
  /-- The bytes of the text are those from the start of the line up to the byte in front of the
  next start, or up to the end. -/
  bytes : ∀ line text, index.lineText? content line = some text →
    ∃ first last, index.bounds? content line = some (first, last) ∧ first ≤ last ∧
      last ≤ byteLength content ∧ ((encode content).take last).drop first = encode text
  /-- A place up to the end is within the bytes of its line, or behind the last of them: at the
  line feed that ends the line, or at the end of the content. -/
  around : ∀ place, place ≤ byteLength content →
    ∃ first last, index.bounds? content (index.lineOf place) = some (first, last) ∧
      first ≤ place ∧ place ≤ last ∧
      (last = byteLength content ∨ (encode content)[last]? = some lineFeed)
  /-- The texts of all lines, with a line feed between one and the next, are the content. -/
  joined : ∃ texts : List (List Char), texts.length = content.count '\n' + 1 ∧
    (∀ k, index.lineText? content (k + 1) = texts[k]?) ∧ ['\n'].intercalate texts = content

/-- The index of a content gives the numbers of lines, and the texts under these numbers, that
the content has when it is split at its line feeds. -/
theorem inverts_splitOn (content : List Char) : (ofContent content).Inverts content where
  lineOf_eq place := by
    rw [lineOf_ofContent, lineFeedsBefore_eq_count, Nat.add_comm]
  lineOf_end place hplace := by
    have hall : ∀ feed ∈ lineFeedsFrom 0 content, decide (feed < place) = true := by
      intro feed hfeed
      have := (lineFeedsFrom_bounds hfeed).2
      simp only [decide_eq_true_eq]
      omega
    rw [lineOf_ofContent, lineFeedsBefore, List.countP_eq_length.mpr hall, length_lineFeedsFrom]
  bounds?_isSome := bounds?_isSome content
  lineText?_isSome line := by rw [lineText?, Option.isSome_map, bounds?_isSome]
  lineText?_succ := lineText?_succ content
  bytes _ _ := exists_bounds_of_lineText?
  around _ := exists_bounds_around
  joined := ⟨content.splitOn '\n', length_splitOn '\n' content, lineText?_succ content,
    List.intercalate_splitOn '\n'⟩

end LineIndex
end BackendAudit
