import BackendAudit.Proofs.Pattern.Spelling
import BackendAudit.Proofs.Pattern.Starts
import BackendAudit.Proofs.Rule.Builtin
import BackendAudit.Proofs.Scan.Places

/-!
# Queries with template literals

The rule about injection looks for calls of `query` with a text in quotation marks: with an
interpolation, with a plus sign, and once more with an interpolation where the query is one of
`sequelize`.  In a content with one query (`TemplateQuery`) each of the three finds it at most
once.

* `fits_quotedCall`: what is read for a call.
* `TemplateQuery.call_unique`: the content has one call with a text in quotation marks.
* `TemplateQuery.findingsOf_eq`: what a matcher finds that looks for calls.
* `Registry.builtin_templateQuery`: how many findings there are, all about the line of the query.
-/

namespace BackendAudit

open Text
open Pattern (CharSet Expr Foldable)
open Pattern.Expr

/-! ## Calls with a text in quotation marks -/

/-- The quotation marks of the language, that of template literals among them. -/
def quoteMarks : List Char := ['\x22', '\x60', '\x27']

/-- What is read for a call: a name in any case, an opening bracket and a text in quotation marks
on one line, with blanks around the bracket.  `P` tells which texts count. -/
def IsQuotedCall (name : List Char) (P : List Char → Prop) (part : List Char) : Prop :=
  ∃ called gap gap' m text m', part = called ++ gap ++ '(' :: gap' ++ m :: text ++ [m'] ∧
    Spells name called ∧ Blank gap ∧ Blank gap' ∧ m ∈ quoteMarks ∧ m' ∈ quoteMarks ∧
    '\n' ∉ text ∧ P text

/-- Texts with an interpolation. -/
def Interpolated (text : List Char) : Prop :=
  ∃ front value back, text = front ++ "$\x7b".toList ++ value ++ '\x7d' :: back

section

variable {before part after : List Char}

/-- A call by a name with something in front of it. -/
theorem isQuotedCall_append {owner name : List Char} {P : List Char → Prop} :
    IsQuotedCall (owner ++ name) P part ↔
      ∃ owned call, part = owned ++ call ∧ Spells owner owned ∧ IsQuotedCall name P call := by
  constructor
  · rintro ⟨_, gap, gap', m, text, m', rfl, hcalled, hrest⟩
    obtain ⟨owned, called, rfl, howned, hcalled⟩ := hcalled.exists_append
    exact ⟨owned, _, by simp, howned, called, gap, gap', m, text, m', rfl, hcalled, hrest⟩
  · rintro ⟨owned, _, rfl, howned, called, gap, gap', m, text, m', rfl, hcalled, hrest⟩
    exact ⟨owned ++ called, gap, gap', m, text, m', by simp,
      List.rel_append howned hcalled, hrest⟩

/-- Reads a quotation mark. -/
def quoteMark : Expr CharSet :=
  one (.folded (.union (.union (.ofChar '\x22') (.ofChar '\x60')) (.ofChar '\x27')))

/-- Reads on on the same line. -/
def onLine : Expr CharSet := star true (one (.allBut '\n'))

/-- Reads a text with an interpolation, up to a quotation mark. -/
def interpolated : Expr CharSet :=
  cat onLine (spelledThen (cat onLine (spelledThen (cat onLine quoteMark) ['\x7d']))
    "$\x7b".toList)

/-- Reads a text with a plus sign, up to a quotation mark. -/
def concatenated : Expr CharSet := cat onLine (spelledThen (cat onLine quoteMark) ['+'])

/-- Reads a call with a text in quotation marks, which `literal` reads together with the second
mark. -/
def quotedCall (literal : Expr CharSet) (name : List Char) : Expr CharSet :=
  spelledThen (cat blanks (spelledThen (cat blanks (cat quoteMark literal)) ['('])) name

theorem fits_quoteMark : quoteMark.Fits before part after ↔ ∃ m ∈ quoteMarks, part = [m] := by
  have hmark : ∀ c : Char, (CharSet.folded
      (.union (.union (.ofChar '\x22') (.ofChar '\x60')) (.ofChar '\x27'))).accepts c = true ↔
        c ∈ quoteMarks := by
    intro c
    have hmarks : ∀ m ∈ quoteMarks, m.toNat < 128 ∧ m.isAlpha = false := by decide
    have hof : ∀ m ∈ quoteMarks, ((CharSet.folded (.ofChar m)).accepts c = true ↔ c = m) :=
      fun m hm => CharSet.accepts_folded_mark (hmarks m hm).1 (hmarks m hm).2
    rw [CharSet.accepts_folded_union, CharSet.accepts_folded_union, hof _ (by decide),
      hof _ (by decide), hof _ (by decide)]
    simp [quoteMarks, or_assoc]
  rw [quoteMark, fits_one]
  constructor
  · rintro ⟨c, rfl, hc⟩
    exact ⟨c, (hmark c).mp hc, rfl⟩
  · rintro ⟨m, hm, rfl⟩
    exact ⟨m, rfl, (hmark m).mpr hm⟩

theorem fits_onLine : onLine.Fits before part after ↔ '\n' ∉ part := by
  rw [onLine, fits_star_one, forall_accepts_allBut]

/-- An expression reads the texts on one line for which `P` holds, and a quotation mark. -/
def ReadsQuoted (literal : Expr CharSet) (P : List Char → Prop) : Prop :=
  ∀ {before part after : List Char}, literal.Fits before part after ↔
    ∃ text m, part = text ++ [m] ∧ m ∈ quoteMarks ∧ '\n' ∉ text ∧ P text

theorem readsQuoted_interpolated : ReadsQuoted interpolated Interpolated := by
  intro before part after
  simp only [interpolated, fits_cat, fits_onLine,
    @fits_spelledThen_marks _ _ _ _ "$\x7b".toList (by decide),
    @fits_spelledThen_marks _ _ _ _ ['\x7d'] (by decide), fits_quoteMark]
  constructor
  · rintro ⟨front, _, rfl, hfront, _, rfl, value, _, rfl, hvalue, _, rfl, back, _, rfl, hback,
      m, hm, rfl⟩
    refine ⟨front ++ "$\x7b".toList ++ value ++ '\x7d' :: back, m, by simp, hm, ?_, front, value,
      back, rfl⟩
    simp [hfront, hvalue, hback]
  · rintro ⟨_, m, rfl, hm, hline, front, value, back, rfl⟩
    simp only [List.mem_append, List.mem_cons, not_or] at hline
    exact ⟨front, "$\x7b".toList ++ (value ++ '\x7d' :: (back ++ [m])), by simp, hline.1.1.1, _,
      rfl, value, '\x7d' :: (back ++ [m]), rfl, hline.1.2, _, rfl, back, [m], rfl, hline.2.2, m,
      hm, rfl⟩

theorem readsQuoted_concatenated : ReadsQuoted concatenated fun text => '+' ∈ text := by
  intro before part after
  simp only [concatenated, fits_cat, fits_onLine,
    @fits_spelledThen_marks _ _ _ _ ['+'] (by decide), fits_quoteMark]
  constructor
  · rintro ⟨front, _, rfl, hfront, _, rfl, back, _, rfl, hback, m, hm, rfl⟩
    exact ⟨front ++ '+' :: back, m, by simp, hm, by simp [hfront, hback], by simp⟩
  · rintro ⟨text, m, rfl, hm, hline, hmem⟩
    obtain ⟨front, back, rfl⟩ := List.append_of_mem hmem
    simp only [List.mem_append, List.mem_cons, not_or] at hline
    exact ⟨front, _, by simp, hline.1, _, rfl, back, [m], rfl, hline.2.2, m, hm, rfl⟩

theorem fits_quotedCall {literal : Expr CharSet} {P : List Char → Prop} {name : List Char}
    (hliteral : ReadsQuoted literal P) (hname : ∀ c ∈ name, Foldable c) :
    (quotedCall literal name).Fits before part after ↔ IsQuotedCall name P part := by
  simp only [quotedCall, fits_spelledThen hname, fits_cat, fits_blanks,
    @fits_spelledThen_marks _ _ _ _ ['('] (by decide), fits_quoteMark]
  constructor
  · rintro ⟨called, _, rfl, hcalled, gap, _, rfl, hgap, _, rfl, gap', _, rfl, hgap', _, _, rfl,
      ⟨m, hm, rfl⟩, hfits⟩
    obtain ⟨text, m', rfl, hm', hline, hP⟩ := hliteral.mp hfits
    exact ⟨called, gap, gap', m, text, m', by simp, hcalled, hgap, hgap', hm, hm', hline, hP⟩
  · rintro ⟨called, gap, gap', m, text, m', rfl, hcalled, hgap, hgap', hm, hm', hline, hP⟩
    exact ⟨called, gap ++ '(' :: (gap' ++ m :: (text ++ [m'])), by simp, hcalled, gap, _, rfl, hgap,
      _, rfl, gap', _, rfl, hgap', [m], _, rfl, ⟨m, hm, rfl⟩,
      hliteral.mpr ⟨text, m', rfl, hm', hline, hP⟩⟩

end

/-! ## Contents with one query -/

/-- A content with one query: its text is a template literal with an interpolation, and on the
other lines, above and below, no query is named. -/
structure TemplateQuery where
  above : List Char
  /-- What stands in front of `.query`. -/
  receiver : List Char
  /-- The literal up to the interpolation. -/
  front : List Char
  /-- What is interpolated. -/
  value : List Char
  /-- The literal from the interpolation on. -/
  back : List Char
  /-- What stands behind the call. -/
  trail : List Char
  below : List Char
  line_plain : ∀ c ∈ receiver ++ front ++ value ++ back ++ trail, c ≠ '\n' ∧ c ∉ quoteMarks
  above_ends : above = [] ∨ ∃ lines, above = lines ++ ['\n']
  below_begins : below = [] ∨ ∃ lines, below = '\n' :: lines
  above_silent : ¬ Mentions "query".toList above
  trail_silent : ¬ Mentions "query".toList trail
  below_silent : ¬ Mentions "query".toList below

namespace TemplateQuery

variable (q : TemplateQuery)

/-- The text between the quotation marks. -/
def literal : List Char := q.front ++ "$\x7b".toList ++ q.value ++ '\x7d' :: q.back

/-- The call up to its second quotation mark. -/
def call : List Char := "query(".toList ++ '\x60' :: q.literal ++ ['\x60']

/-- The line of the query. -/
def line : List Char := q.receiver ++ '.' :: q.call ++ ')' :: q.trail

def content : List Char := q.above ++ q.line ++ q.below

theorem call_eq : q.call = "query(".toList ++ '\x60' :: q.literal ++ ['\x60'] := rfl

theorem plain_of_mem {c : Char} (h : c ∈ q.receiver ++ '.' :: "query(".toList ∨ c ∈ q.literal ∨
    c ∈ ')' :: q.trail) : c ≠ '\n' ∧ c ∉ quoteMarks := by
  have hmarks : ∀ c ∈ '.' :: "query(".toList ++ "$\x7b".toList ++ ['\x7d', ')'],
      c ≠ '\n' ∧ c ∉ quoteMarks := by decide
  have hline := q.line_plain c
  have hmark := hmarks c
  simp only [literal, List.mem_append, List.mem_cons, List.not_mem_nil, or_false] at h hline hmark
  tauto

/-- A quotation mark behind the call stands below its line. -/
theorem below_of_mark {front back : List Char} {m : Char} (hm : m ∈ quoteMarks)
    (h : ')' :: q.trail ++ q.below = front ++ m :: back) :
    ∃ lines, front = ')' :: q.trail ++ '\n' :: lines ∧ q.below = '\n' :: lines ++ m :: back := by
  obtain ⟨front', hfront, hbelow⟩ := exists_behind_of_not_mem h fun hmem =>
    (q.plain_of_mem (.inr (.inr hmem))).2 hm
  rcases q.below_begins with hnil | ⟨lines, hlines⟩
  · rw [hnil] at hbelow
    simp at hbelow
  · cases front' with
    | nil =>
      rw [hlines] at hbelow
      obtain ⟨rfl, _⟩ := List.cons_eq_cons.mp hbelow
      exact absurd hm (by decide)
    | cons c lines' =>
      rw [hlines] at hbelow
      obtain ⟨rfl, hrest⟩ := List.cons_eq_cons.mp hbelow
      exact ⟨lines', hfront, by rw [hlines, hrest]; rfl⟩

/-- Behind the call no query is named. -/
theorem not_named_behind {called front back lines later : List Char}
    (hcalled : Spells "query".toList called) (hbelow : q.below = '\n' :: lines ++ later)
    (h : ')' :: q.trail ++ '\n' :: lines = front ++ (called ++ back)) : False := by
  have hfeed : '\n' ∉ called := hcalled.not_mem (by decide) (by decide) (by decide)
  have hbracket : ')' ∉ called := hcalled.not_mem (by decide) (by decide) (by decide)
  rcases List.append_eq_append_iff.mp h with ⟨inside, _, hlines⟩ | ⟨rest, htrail, hrest⟩
  · refine q.below_silent ⟨inside, called, back ++ later, ?_, hcalled⟩
    rw [hbelow, hlines]
    simp
  · obtain ⟨rest', rfl, _⟩ := exists_behind_of_not_mem hrest hfeed
    cases front with
    | nil =>
      cases hcalled with
      | cons _ _ =>
        obtain ⟨rfl, _⟩ := List.cons_eq_cons.mp htrail
        exact hbracket List.mem_cons_self
    | cons c front =>
      refine q.trail_silent ⟨front, called, rest', ?_, hcalled⟩
      rw [List.append_assoc]
      exact (List.cons_eq_cons.mp htrail).2

/-- From its first quotation mark on, the literal reaches up to the next one. -/
theorem literal_ends {text after : List Char} {m : Char} (hm : m ∈ quoteMarks)
    (htext : '\n' ∉ text)
    (h : q.literal ++ '\x60' :: (')' :: q.trail ++ q.below) = text ++ m :: after) :
    text = q.literal ∧ m = '\x60' := by
  obtain ⟨rest, rfl, hrest⟩ := exists_behind_of_not_mem h fun hmem =>
    (q.plain_of_mem (.inr (.inl hmem))).2 hm
  cases rest with
  | nil => exact ⟨List.append_nil _, (List.cons_eq_cons.mp hrest).1.symm⟩
  | cons c rest =>
    obtain ⟨lines, rfl, _⟩ := q.below_of_mark hm (List.cons_eq_cons.mp hrest).2
    simp at htext

/-- In front of the literal there is one way of reading a call. -/
theorem call_begins {before called gap gap' : List Char} (hcalled : Spells "query".toList called)
    (hgap : Blank gap) (hgap' : Blank gap')
    (h : before ++ (called ++ (gap ++ '(' :: gap')) =
      q.above ++ (q.receiver ++ '.' :: "query(".toList)) :
    before = q.above ++ q.receiver ++ ['.'] ∧ called = "query".toList ∧ gap = [] ∧ gap' = [] := by
  have hbracket : (before ++ called ++ gap ++ ['(']) ++ gap' =
      (q.above ++ q.receiver ++ '.' :: "query".toList) ++ ['('] := by simpa using h
  obtain rfl := hgap'.eq_nil_of_append hbracket (by decide)
  rw [List.append_nil] at hbracket
  have hname := List.append_cancel_right hbracket
  have hlast : (before ++ called) ++ gap =
      (q.above ++ q.receiver ++ '.' :: "quer".toList) ++ ['y'] := by simpa using hname
  obtain rfl := hgap.eq_nil_of_append hlast (by decide)
  have hwhole : before ++ called = (q.above ++ q.receiver ++ ['.']) ++ "query".toList := by
    simpa using hname
  obtain ⟨hbefore, hcall⟩ := List.append_inj' hwhole (List.Forall₂.length_eq hcalled)
  exact ⟨hbefore, hcall, rfl, rfl⟩

/-- The only call of `query` with a text in quotation marks is the one on the line. -/
theorem call_unique {P : List Char → Prop} {before part after : List Char}
    (hcontent : q.content = before ++ part ++ after)
    (hpart : IsQuotedCall "query".toList P part) :
    before = q.above ++ q.receiver ++ ['.'] ∧ part = q.call ∧ P q.literal := by
  obtain ⟨called, gap, gap', m, text, m', rfl, hcalled, hgap, hgap', hm, hm', htext, hP⟩ := hpart
  have hlanded : q.above ++ (q.receiver ++ '.' :: "query(".toList ++
      '\x60' :: (q.literal ++ '\x60' :: (')' :: q.trail ++ q.below))) =
        before ++ (called ++ (gap ++ '(' :: gap')) ++ m :: (text ++ m' :: after) := by
    simp only [content, line, call_eq, List.append_assoc, List.cons_append, List.nil_append]
      at hcontent ⊢
    exact hcontent
  -- the first quotation mark of the part is looked for along the content
  rcases List.append_eq_append_iff.mp hlanded with ⟨front, hfront, hline⟩ | ⟨later, habove, _⟩
  · obtain ⟨inCall, rfl, hcall⟩ := exists_behind_of_not_mem hline fun hmem =>
      (q.plain_of_mem (.inl hmem)).2 hm
    cases inCall with
    | nil =>
      obtain ⟨rfl, hopen⟩ := List.cons_eq_cons.mp hcall
      obtain ⟨rfl, rfl⟩ := q.literal_ends hm' htext hopen
      rw [List.append_nil] at hfront
      obtain ⟨rfl, rfl, rfl, rfl⟩ := q.call_begins hcalled hgap hgap' hfront
      exact ⟨rfl, rfl, hP⟩
    | cons c inCall =>
      obtain ⟨rfl, hopen⟩ := List.cons_eq_cons.mp hcall
      obtain ⟨behind, rfl, hclose⟩ := exists_behind_of_not_mem hopen fun hmem =>
        (q.plain_of_mem (.inr (.inl hmem))).2 hm
      cases behind with
      | nil =>
        obtain ⟨lines, rfl, _⟩ := q.below_of_mark hm' (List.cons_eq_cons.mp hclose).2
        simp at htext
      | cons c behind =>
        obtain ⟨rfl, htrail⟩ := List.cons_eq_cons.mp hclose
        obtain ⟨lines, rfl, hbelow⟩ := q.below_of_mark hm htrail
        have hnone : '\x60' ∉ called ++ (gap ++ '(' :: gap') := by
          have hcalled' : '\x60' ∉ called := hcalled.not_mem (by decide) (by decide) (by decide)
          have hblanks : '\x60' ∉ gap ∧ '\x60' ∉ gap' :=
            ⟨hgap.not_mem (by decide), hgap'.not_mem (by decide)⟩
          simp [hcalled', hblanks]
        have hbehind : before ++ (called ++ (gap ++ '(' :: gap')) =
            (q.above ++ (q.receiver ++ '.' :: "query(".toList ++ '\x60' :: q.literal)) ++
              '\x60' :: (')' :: q.trail ++ '\n' :: lines) := by
          rw [hfront]
          simp only [List.append_assoc, List.cons_append]
        obtain ⟨front, _, hnamed⟩ := exists_before_of_not_mem hbehind hnone
        exact (q.not_named_behind hcalled hbelow hnamed).elim
  · refine absurd ⟨before, called, gap ++ '(' :: gap' ++ later, ?_, hcalled⟩ q.above_silent
    rw [habove]
    simp only [List.append_assoc]

/-! ## Findings about the query -/

theorem lineFeed_not_mem_line : '\n' ∉ q.line := by
  have hplain : ∀ cs : List Char, (∀ c ∈ cs, c ≠ '\n' ∧ c ∉ quoteMarks) → '\n' ∉ cs :=
    fun cs h hmem => (h _ hmem).1 rfl
  have hreceiver := hplain _ fun c hc => q.plain_of_mem (.inl hc)
  have hliteral := hplain _ fun c hc => q.plain_of_mem (.inr (.inl hc))
  have htrail := hplain _ fun c hc => q.plain_of_mem (.inr (.inr hc))
  simp only [line, call_eq, List.mem_append, List.mem_cons, List.not_mem_nil, not_or] at *
  tauto

/-- The line of the query is what a finding shows that begins on it. -/
theorem findingAt_eq {r : Rule} {name : String} {front back : List Char}
    (h : front ++ back = q.line) :
    r.findingAt name (q.above ++ front) (back ++ q.below) =
      r.finding name (q.above.count '\n' + 1) (String.ofList (trim q.line)) := by
  have hfeed := q.lineFeed_not_mem_line
  have hcount : (q.above ++ front).count '\n' = q.above.count '\n' := by
    have hfront : front.count '\n' = 0 :=
      List.count_eq_zero.mpr fun hmem => hfeed (h ▸ List.mem_append_left _ hmem)
    rw [List.count_append, hfront, Nat.add_zero]
  have haround := isLine_lineAround (q.above ++ front) (back ++ q.below)
  have hcontent : q.above ++ front ++ (back ++ q.below) = q.above ++ q.line ++ q.below := by
    rw [← h]
    simp only [List.append_assoc]
  have hline : IsLine (q.above ++ q.line ++ q.below) (q.above.count '\n' + 1) q.line :=
    ⟨q.above, q.below, rfl, hfeed, q.above_ends, q.below_begins, rfl⟩
  rw [hcount, hcontent] at haround
  rw [Rule.findingAt, hcount, haround.unique hline]

theorem interpolated_literal : Interpolated q.literal := ⟨_, _, _, rfl⟩

theorem isQuotedCall_call {P : List Char → Prop} (hP : P q.literal) :
    IsQuotedCall "query".toList P q.call := by
  have hline : '\n' ∉ q.literal := fun hmem => (q.plain_of_mem (.inr (.inl hmem))).1 rfl
  exact ⟨_, [], [], '\x60', q.literal, '\x60', rfl, spells_self _, by simp [Blank], by simp [Blank],
    by decide, by decide, hline, hP⟩

/-- A matcher without guard that looks for calls. -/
structure Seeks (m : Matcher) (literal : Expr CharSet) (name : List Char) : Prop where
  guard_eq : m.guard = none
  expr_eq : m.pattern.expr = quotedCall literal name

variable {r : Rule} {name : String} {m : Matcher} {literal : Expr CharSet}
  {callee : List Char} {P : List Char → Prop}

/-- The finding of a rule about the query. -/
def finding (r : Rule) (name : String) : Finding :=
  r.finding name (q.above.count '\n' + 1) (String.ofList (trim q.line))

theorem isQuotedCall_ne_nil {part : List Char} (h : IsQuotedCall callee P part) :
    part ≠ [] := by
  obtain ⟨_, _, _, _, _, _, rfl, _⟩ := h
  simp

theorem quotedCall_solid (hliteral : ReadsQuoted literal P)
    (hcallee : ∀ c ∈ callee, Foldable c) : (quotedCall literal callee).Solid :=
  fun _ _ hfits => isQuotedCall_ne_nil ((fits_quotedCall hliteral hcallee).mp hfits) rfl

/-- What stands in front of the call, up to the beginning of its line. -/
theorem receiver_ends {before owner : List Char} (hfeed : '\n' ∉ owner)
    (h : before ++ owner = q.above ++ (q.receiver ++ ['.'])) :
    ∃ front, before = q.above ++ front ∧ q.receiver ++ ['.'] = front ++ owner := by
  rcases q.above_ends with hnil | ⟨lines, hlines⟩
  · rw [hnil, List.nil_append] at h
    exact ⟨before, by rw [hnil, List.nil_append], h.symm⟩
  · rw [hlines, List.append_assoc] at h
    obtain ⟨front, rfl, hfront⟩ := exists_before_of_not_mem h hfeed
    exact ⟨front, by rw [hlines, List.append_assoc]; rfl, hfront⟩

/-- The only call of the query by a name with an owner: what names the owner stands at the end of
the receiver. -/
theorem owned_call_unique {owner before part after : List Char} (hfeed : '\n' ∉ owner)
    (hcontent : q.content = before ++ part ++ after)
    (hpart : IsQuotedCall (owner ++ "query".toList) P part) :
    P q.literal ∧ ∃ front owned, before = q.above ++ front ∧ part = owned ++ q.call ∧
      q.receiver ++ ['.'] = front ++ owned ∧ Spells owner owned := by
  obtain ⟨owned, call, rfl, howned, hcall⟩ := isQuotedCall_append.mp hpart
  have hsplit : q.content = before ++ owned ++ call ++ after := by simpa using hcontent
  obtain ⟨hbefore, rfl, hP⟩ := q.call_unique hsplit hcall
  obtain ⟨front, rfl, hreceiver⟩ := q.receiver_ends
    (howned.not_mem (by decide) (by decide) hfeed) (by simpa using hbefore)
  exact ⟨hP, front, owned, rfl, rfl, hreceiver, howned⟩

theorem line_of_receiver {front owned : List Char}
    (hreceiver : q.receiver ++ ['.'] = front ++ owned) :
    front ++ (owned ++ q.call ++ ')' :: q.trail) = q.line := by
  have hline : q.line = (q.receiver ++ ['.']) ++ (q.call ++ ')' :: q.trail) := by simp [line]
  rw [hline, hreceiver]
  simp

variable {q}

/-- A matcher that looks for calls of a query by a name that may say whose it is finds the one on
the line, if its text counts and the name in front of it is that one. -/
theorem findingsOf_eq {owner : List Char} [Decidable (P q.literal)]
    (hm : Seeks m literal (owner ++ "query".toList)) (hliteral : ReadsQuoted literal P)
    (howner : ∀ c ∈ owner, Foldable c) (hfeed : '\n' ∉ owner) :
    r.findingsOf (Source.ofContent name q.content) m =
      if P q.literal ∧ EndsWith owner (q.receiver ++ ['.']) then [q.finding r name] else [] := by
  have hfoldable : ∀ c ∈ owner ++ "query".toList, Foldable c := by
    have hquery : ∀ c ∈ "query".toList, Foldable c := by decide
    exact fun c hc => (List.mem_append.mp hc).elim (howner c) (hquery c)
  have hfits : ∀ {before part after : List Char}, m.pattern.expr.Fits before part after ↔
      IsQuotedCall (owner ++ "query".toList) P part := by
    intro before part after
    rw [hm.expr_eq, fits_quotedCall hliteral hfoldable]
  have hsolid : m.pattern.expr.Solid := hm.expr_eq ▸ quotedCall_solid hliteral hfoldable
  split
  · rename_i hfound
    obtain ⟨hP, front, owned, hreceiver, howned⟩ := hfound
    have hline := q.line_of_receiver hreceiver
    have hcontent : q.content = q.above ++ front ++ (owned ++ q.call) ++
        (')' :: q.trail ++ q.below) := by
      rw [content, ← hline]
      simp
    have hpart : m.pattern.expr.Fits (q.above ++ front) (owned ++ q.call)
        (')' :: q.trail ++ q.below) :=
      hfits.mpr (isQuotedCall_append.mpr ⟨owned, _, rfl, howned, q.isQuotedCall_call hP⟩)
    have hfinding := @findingAt_eq q r name _ _ hline
    rw [hcontent, Rule.findingsOf_eq_singleton hm.guard_eq hsolid hpart, finding, ← hfinding]
    · simp
    · intro before part after htext hpart
      rw [← hcontent] at htext
      obtain ⟨_, front', owned', rfl, rfl, hreceiver', howned'⟩ :=
        q.owned_call_unique hfeed htext (hfits.mp hpart)
      -- both name the owner at the end of the receiver
      have hlength : owned'.length = owned.length :=
        howned'.length_eq.trans howned.length_eq.symm
      obtain ⟨rfl, rfl⟩ := List.append_inj' (hreceiver'.symm.trans hreceiver) hlength
      exact ⟨rfl, rfl⟩
  · rename_i hmissed
    refine Rule.findingsOf_eq_nil hm.guard_eq fun before part after htext hpart => hmissed ?_
    obtain ⟨hP, front, owned, _, _, hreceiver, howned⟩ :=
      q.owned_call_unique hfeed htext (hfits.mp hpart)
    exact ⟨hP, front, owned, hreceiver, howned⟩

/-- One that says nothing about whose the query is. -/
theorem findingsOf_eq_of_anyone [Decidable (P q.literal)] (hm : Seeks m literal "query".toList)
    (hliteral : ReadsQuoted literal P) :
    r.findingsOf (Source.ofContent name q.content) m =
      if P q.literal then [q.finding r name] else [] := by
  have howned : EndsWith [] (q.receiver ++ ['.']) := ⟨_, [], (List.append_nil _).symm, .nil⟩
  have hfindings := @findingsOf_eq q r name m literal P [] _ hm hliteral (by simp) (by simp)
  simpa [howned] using hfindings

theorem seeks_of_compile {source : String}
    (hsource : Pattern.compile source = .ok (.ofExpr source (quotedCall literal callee)))
    (h : (plain source).compile = .ok m) : Seeks m literal callee := by
  obtain ⟨hpattern, hguard⟩ := MatcherDef.of_compile_plain h
  rw [hsource, Except.ok.injEq] at hpattern
  exact ⟨hguard, by rw [← hpattern]; rfl⟩

end TemplateQuery

/-! ## The built-in rule -/

set_option maxRecDepth 4000 in
theorem seeks_interpolated {m : Matcher}
    (h : (plain "query\\s*\\(\\s*[\"\x60'].*\\$\\\x7b.*\\\x7d.*[\"\x60']").compile = .ok m) :
    TemplateQuery.Seeks m interpolated "query".toList :=
  TemplateQuery.seeks_of_compile (by rfl) h

set_option maxRecDepth 4000 in
theorem seeks_concatenated {m : Matcher}
    (h : (plain "query\\s*\\(\\s*[\"\x60'].*\\+.*[\"\x60']").compile = .ok m) :
    TemplateQuery.Seeks m concatenated "query".toList :=
  TemplateQuery.seeks_of_compile (by rfl) h

set_option maxRecDepth 4000 in
theorem seeks_owned {m : Matcher}
    (h : (plain "sequelize\\.query\\s*\\(\\s*[\"\x60'].*\\$\\\x7b.*\\\x7d.*[\"\x60']").compile =
      .ok m) : TemplateQuery.Seeks m interpolated ("sequelize.".toList ++ "query".toList) :=
  TemplateQuery.seeks_of_compile (by rfl) h

/-- A content that is nothing but a query. -/
def TemplateQuery.single (receiver front value back : List Char)
    (h : ∀ c ∈ receiver ++ front ++ value ++ back, c ≠ '\n' ∧ c ∉ quoteMarks) : TemplateQuery where
  above := []
  receiver := receiver
  front := front
  value := value
  back := back
  trail := []
  below := []
  line_plain := by simpa using h
  above_ends := .inl rfl
  below_begins := .inl rfl
  above_silent := not_mentions_nil (by simp)
  trail_silent := not_mentions_nil (by simp)
  below_silent := not_mentions_nil (by simp)

/-- What is found about the query: it is critical, on the line of the query, and shows that line. -/
def TemplateQuery.injection (q : TemplateQuery) (name : String) : Finding where
  severity := .critical
  category := .sqlInjection
  location := ⟨name, q.above.count '\n' + 1⟩
  description := "Potential SQL injection vulnerability detected"
  recommendation := "Use parameterized queries or prepared statements"
  snippet := String.ofList (trim q.line)

/-- What each of the three matchers of the rule finds. -/
theorem Registry.filter_scan_query (q : TemplateQuery) (name : String) :
    (Registry.builtin.scan name (String.ofList q.content)).filter
        (fun f => f.category = .sqlInjection) =
      [q.injection name] ++ (if '+' ∈ q.literal then [q.injection name] else []) ++
        (if EndsWith "sequelize".toList q.receiver then [q.injection name] else []) := by
  obtain ⟨matchers, hmatchers, hrule⟩ := @Registry.exists_builtin_rule .sqlInjection _ rfl
  simp only [List.forall₂_cons_left_iff, List.forall₂_nil_left_iff] at hmatchers
  obtain ⟨m₁, _, h₁, ⟨m₂, _, h₂, ⟨m₃, _, h₃, rfl, rfl⟩, rfl⟩, rfl⟩ := hmatchers
  have howner : EndsWith "sequelize.".toList (q.receiver ++ ['.']) ↔
      EndsWith "sequelize".toList q.receiver :=
    @endsWith_append_mark "sequelize".toList q.receiver '.' (by decide) (by decide)
  have hinterpolated : Decidable (Interpolated q.literal) := .isTrue q.interpolated_literal
  rw [Registry.filter_scan _ (by decide) (by decide), hrule, String.toList_ofList]
  simp only [List.flatMap_cons, List.flatMap_nil, List.append_nil]
  rw [TemplateQuery.findingsOf_eq_of_anyone (seeks_interpolated h₁) readsQuoted_interpolated,
    TemplateQuery.findingsOf_eq_of_anyone (seeks_concatenated h₂) readsQuoted_concatenated,
    TemplateQuery.findingsOf_eq (seeks_owned h₃) readsQuoted_interpolated (by decide) (by decide),
    List.append_assoc]
  simp only [q.interpolated_literal, true_and, howner, if_true]
  rfl

/-- For a content with one query there is a finding about the query, another one when there is a
plus sign in its text, and another one when it is one of `sequelize`.  They are all the same. -/
theorem Registry.builtin_templateQuery (q : TemplateQuery) (name : String) :
    (Registry.builtin.scan name (String.ofList q.content)).filter
        (fun f => f.category = .sqlInjection) =
      List.replicate (1 + (if '+' ∈ q.literal then 1 else 0) +
        (if EndsWith "sequelize".toList q.receiver then 1 else 0)) (q.injection name) := by
  rw [Registry.filter_scan_query]
  split_ifs <;> rfl

/-- A query of `db`. -/
def dbQuery : TemplateQuery := .single "db".toList "SELECT ".toList "id".toList [] (by decide)

theorem Registry.builtin_templateQuery_db :
    (Registry.builtin.scan "db.js" "db.query(\x60SELECT $\x7bid\x7d\x60)").filter
        (fun f => f.category = .sqlInjection) =
      [⟨.critical, .sqlInjection, ⟨"db.js", 1⟩, "Potential SQL injection vulnerability detected",
        "Use parameterized queries or prepared statements",
        "db.query(\x60SELECT $\x7bid\x7d\x60)"⟩] := by
  have howner : ¬ EndsWith "sequelize".toList dbQuery.receiver := by
    rintro ⟨front, part, hreceiver, hpart⟩
    have hlength := congrArg List.length hreceiver
    rw [List.length_append, hpart.length_eq] at hlength
    exact absurd hlength (by simp [dbQuery, TemplateQuery.single])
  have hcontent : String.ofList dbQuery.content = "db.query(\x60SELECT $\x7bid\x7d\x60)" := by
    decide
  have h := Registry.builtin_templateQuery dbQuery "db.js"
  rw [hcontent, if_neg (by decide), if_neg howner] at h
  exact h

/-- A query of `sequelize`. -/
def sequelizeQuery : TemplateQuery := .single "sequelize".toList [] "id".toList [] (by decide)

/-- Two findings for one query. -/
theorem Registry.builtin_templateQuery_sequelize :
    ((Registry.builtin.scan "db.js" "sequelize.query(\x60$\x7bid\x7d\x60)").filter
      fun f => f.category = .sqlInjection).length = 2 := by
  have howner : EndsWith "sequelize".toList sequelizeQuery.receiver := ⟨[], _, rfl, spells_self _⟩
  have hcontent : String.ofList sequelizeQuery.content =
      "sequelize.query(\x60$\x7bid\x7d\x60)" := by decide
  have h := Registry.filter_scan_query sequelizeQuery "db.js"
  rw [hcontent, if_neg (by decide), if_pos howner] at h
  rw [h]
  rfl

end BackendAudit
