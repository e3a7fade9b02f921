import BackendAudit.Proofs.Pattern.Recognition
import BackendAudit.Proofs.Text.LineText
import BackendAudit.Proofs.Text.Parts
import BackendAudit.Scan.Heuristic
import Mathlib.Data.Set.List

/-!
# Routes and their error handling

The text of a route has one way of being taken apart into path, parameters and body: each
part ends at the first of its closing marks.  A route counts as one with error handling when
`try` or `catch` stands in one of these parts as a whole word.

* `hasWord_append_cons`: a mark that is no word character separates the words around it.
* `Route.exists_of_fits`, `Route.text_injective`: the text of every match is that of one route.
* `Route.isMatch_text_iff`: where the words of error handling are looked for.
* `routeErrorHandling_check`: the findings about the routes of a content.
* `route_on_try_not_reported`: a word in the path counts as well.
-/

namespace BackendAudit

open Text
open Pattern (isWordAt CharSet)
open Pattern.Expr

/-! ## Whole words -/

/-- A word stands in a text as a whole: it does not go on to the left or to the right. -/
def HasWord (word text : List Char) : Prop :=
  ∃ before after, text = before ++ word ++ after ∧
    isWordAt before.getLast? = false ∧ isWordAt after.head? = false

section

variable {word : List Char} {cs ds : List Char} {c : Char}

/-- A word is to be looked for at the places of the text. -/
theorem hasWord_iff_exists_le : HasWord word cs ↔ ∃ n ≤ cs.length,
    cs = cs.take n ++ word ++ cs.drop (n + word.length) ∧ isWordAt (cs.take n).getLast? = false ∧
      isWordAt (cs.drop (n + word.length)).head? = false := by
  constructor
  · rintro ⟨before, after, rfl, hbefore, hafter⟩
    have hdrop : (before ++ word ++ after).drop (before.length + word.length) = after := by
      rw [← List.length_append, List.drop_left]
    have htake : (before ++ word ++ after).take before.length = before := by
      rw [List.append_assoc, List.take_left]
    exact ⟨before.length, by simp, by rw [hdrop, htake], by rwa [htake], by rwa [hdrop]⟩
  · rintro ⟨n, _, htext, hbefore, hafter⟩
    exact ⟨_, _, htext, hbefore, hafter⟩

instance (word text : List Char) : Decidable (HasWord word text) :=
  decidable_of_iff _ hasWord_iff_exists_le.symm

theorem HasWord.isInfix (h : HasWord word cs) : word <:+: cs := by
  obtain ⟨before, after, rfl, _, _⟩ := h
  exact ⟨before, after, rfl⟩

theorem HasWord.append_cons (hc : isWordAt (some c) = false) (h : HasWord word cs) :
    HasWord word (cs ++ c :: ds) := by
  obtain ⟨before, after, rfl, hbefore, hafter⟩ := h
  refine ⟨before, after ++ c :: ds, by simp, hbefore, ?_⟩
  cases after with
  | nil => exact hc
  | cons d after => exact hafter

theorem HasWord.cons (hc : isWordAt (some c) = false) (h : HasWord word ds) :
    HasWord word (cs ++ c :: ds) := by
  obtain ⟨before, after, rfl, hbefore, hafter⟩ := h
  refine ⟨cs ++ c :: before, after, by simp, ?_, hafter⟩
  rw [List.getLast?_append_cons, List.getLast?_cons]
  cases hlast : before.getLast? with
  | none => exact hc
  | some d => rwa [hlast] at hbefore

/-- A mark that is no word character separates the words on its sides. -/
theorem hasWord_append_cons (hmem : c ∉ word) (hc : isWordAt (some c) = false) :
    HasWord word (cs ++ c :: ds) ↔ HasWord word cs ∨ HasWord word ds := by
  have hleft : ∀ {before front after : List Char}, word ++ after = front ++ c :: ds →
      isWordAt before.getLast? = false → isWordAt after.head? = false →
      HasWord word (before ++ front) := by
    intro before front after htext hbefore hafter
    have hword : word <+: front := (prefix_append_cons_iff hmem).mp ⟨after, htext⟩
    obtain ⟨rest, rfl⟩ := hword
    rw [List.append_assoc, List.append_cancel_left_eq] at htext
    refine ⟨before, rest, (List.append_assoc ..).symm, hbefore, ?_⟩
    cases rest with
    | nil => rfl
    | cons d rest => rwa [htext] at hafter
  constructor
  · rintro ⟨before, after, htext, hbefore, hafter⟩
    rw [List.append_assoc] at htext
    rcases List.append_eq_append_iff.mp htext with ⟨back, rfl, hback⟩ | ⟨front, rfl, hfront⟩
    · cases back with
      | nil =>
        have h := @hleft cs [] after hback.symm (by simpa using hbefore) hafter
        exact .inl (by simpa using h)
      | cons d back =>
        obtain ⟨rfl, rfl⟩ := List.cons_eq_cons.mp hback
        refine .inr ⟨back, after, (List.append_assoc ..).symm, ?_, hafter⟩
        cases hlast : back.getLast? with
        | none => rfl
        | some d => simpa [List.getLast?_cons, hlast] using hbefore
    · exact .inl (hleft hfront hbefore hafter)
  · rintro (h | h)
    · exact h.append_cons hc
    · exact h.cons hc

end

/-! ## The words of error handling -/

/-- The words of error handling. -/
def errorHandlingWords : List (List Char) := ["try".toList, "catch".toList]

set_option maxRecDepth 4000 in
theorem tryCatchPattern_expr : tryCatchPattern.expr =
    cat (look .wordBoundary) (cat (oneOf errorHandlingWords) (look .wordBoundary)) := by rfl

/-- The pattern finds whole words. -/
theorem tryCatchPattern_isMatch_iff (text : List Char) :
    tryCatchPattern.isMatch text = true ↔ ∃ word ∈ errorHandlingWords, HasWord word text := by
  have hends : ∀ word ∈ errorHandlingWords,
      word ≠ [] ∧ isWordAt word.head? = true ∧ isWordAt word.getLast? = true := by decide
  rw [Pattern.isMatch, tryCatchPattern.automaton_eq, Pattern.Automaton.isMatch_ofExpr_iff,
    tryCatchPattern_expr]
  constructor
  · rintro ⟨before, _, after, rfl, hfits⟩
    obtain ⟨_, _, rfl, hstart, hrest⟩ := fits_cat.mp hfits
    obtain ⟨word, _, rfl, hword, hend⟩ := fits_cat.mp hrest
    obtain ⟨hbefore, rfl⟩ := fits_look.mp hstart
    obtain ⟨hafter, rfl⟩ := fits_look.mp hend
    rw [fits_oneOf] at hword
    obtain ⟨hne, hfirst, hlast⟩ := hends word hword
    refine ⟨word, hword, before, after, by simp, ?_, ?_⟩
    · simpa [Pattern.Look.holds, List.head?_append_of_ne_nil _ hne, hfirst] using hbefore
    · simpa [Pattern.Look.holds, List.getLast?_append_of_ne_nil _ hne, hlast] using hafter
  · rintro ⟨word, hword, before, after, rfl, hbefore, hafter⟩
    obtain ⟨hne, hfirst, hlast⟩ := hends word hword
    refine ⟨before, word, after, rfl, fits_cat.mpr ⟨[], word, rfl, fits_look.mpr ⟨?_, rfl⟩,
      fits_cat.mpr ⟨word, [], by simp, fits_oneOf.mpr hword, fits_look.mpr ⟨?_, rfl⟩⟩⟩⟩
    · simp [Pattern.Look.holds, List.head?_append_of_ne_nil _ hne, hfirst, hbefore]
    · simp [Pattern.Look.holds, List.getLast?_append_of_ne_nil _ hne, hlast, hafter]

/-! ## Routes -/

/-- What a route is registered with. -/
def routeReceivers : List (List Char) := ["app".toList, "router".toList]

/-- The methods of the routes that are looked at. -/
def routeMethods : List (List Char) :=
  ["get".toList, "post".toList, "put".toList, "delete".toList, "patch".toList]

/-- A route, taken apart at its brackets and at the comma behind its path. -/
@[ext]
structure Route where
  /-- The receiver and the method. -/
  head : List Char
  path : List Char
  /-- What stands in front of the parameters. -/
  marker : List Char
  params : List Char
  arrow : List Char
  body : List Char
  head_eq : ∃ receiver ∈ routeReceivers, ∃ method ∈ routeMethods, ∃ blanks, Blank blanks ∧
    head = receiver ++ '.' :: method ++ blanks
  path_ne_nil : path ≠ []
  comma_notMem : ',' ∉ path
  marker_eq : Blank marker ∨ ∃ front back, Blank front ∧ Blank back ∧ back ≠ [] ∧
    marker = front ++ "async".toList ++ back
  bracket_notMem : ')' ∉ params
  arrow_eq : ∃ front back, Blank front ∧ Blank back ∧ arrow = front ++ "=>".toList ++ back
  brace_notMem : '\x7d' ∉ body

namespace Route

/-- The text of a route. -/
def text (r : Route) : List Char :=
  r.head ++ '(' :: (r.path ++ ',' :: (r.marker ++ '(' :: (r.params ++ ')' :: (r.arrow ++
    '\x7b' :: (r.body ++ ['\x7d'])))))

/-- A word of error handling stands in the path, in the parameters or in the body of a route. -/
def NamesErrorHandling (r : Route) : Prop :=
  ∃ word ∈ errorHandlingWords, HasWord word r.path ∨ HasWord word r.params ∨ HasWord word r.body

instance : DecidablePred NamesErrorHandling := fun _ =>
  inferInstanceAs (Decidable (∃ word ∈ errorHandlingWords, _))

theorem not_mem_head (r : Route) : '(' ∉ r.head := by
  have hreceivers : ∀ receiver ∈ routeReceivers, '(' ∉ receiver := by decide
  have hmethods : ∀ method ∈ routeMethods, '(' ∉ method := by decide
  obtain ⟨receiver, hreceiver, method, hmethod, blanks, hblanks, heq⟩ := r.head_eq
  have hblank : '(' ∉ blanks := hblanks.not_mem (by decide)
  simp [heq, hreceivers receiver hreceiver, hmethods method hmethod, hblank]

theorem not_mem_marker (r : Route) {c : Char} (hblank : isBlank c = false)
    (hc : c ∉ "async".toList) : c ∉ r.marker := by
  rcases r.marker_eq with hmarker | ⟨front, back, hfront, hback, _, heq⟩
  · exact hmarker.not_mem hblank
  · rw [heq, List.mem_append, List.mem_append, not_or, not_or]
    exact ⟨⟨hfront.not_mem hblank, hc⟩, hback.not_mem hblank⟩

theorem not_mem_arrow (r : Route) {c : Char} (hblank : isBlank c = false)
    (hc : c ∉ "=>".toList) : c ∉ r.arrow := by
  obtain ⟨front, back, hfront, hback, heq⟩ := r.arrow_eq
  rw [heq, List.mem_append, List.mem_append, not_or, not_or]
  exact ⟨⟨hfront.not_mem hblank, hc⟩, hback.not_mem hblank⟩

/-- The text of a route tells its parts. -/
theorem text_injective {r r' : Route} (h : r.text = r'.text) : r = r' := by
  have hmarker : ∀ r : Route, '(' ∉ r.marker := fun r => r.not_mem_marker (by decide) (by decide)
  have harrow : ∀ r : Route, '\x7b' ∉ r.arrow := fun r => r.not_mem_arrow (by decide) (by decide)
  rw [text, text] at h
  obtain ⟨hhead, h⟩ := (append_cons_inj r.not_mem_head r'.not_mem_head).mp h
  obtain ⟨hpath, h⟩ := (append_cons_inj r.comma_notMem r'.comma_notMem).mp h
  obtain ⟨hmarker, h⟩ := (append_cons_inj (hmarker r) (hmarker r')).mp h
  obtain ⟨hparams, h⟩ := (append_cons_inj r.bracket_notMem r'.bracket_notMem).mp h
  obtain ⟨harrow, h⟩ := (append_cons_inj (harrow r) (harrow r')).mp h
  obtain ⟨hbody, _⟩ := (append_cons_inj r.brace_notMem r'.brace_notMem).mp h
  exact Route.ext hhead hpath hmarker hparams harrow hbody

/-! ## The pattern of routes -/

set_option maxRecDepth 4000 in
theorem routePattern_expr : routePattern.expr =
    cat empty (cat (look .wordBoundary) (cat (oneOf routeReceivers) (charsThen (cat
      (oneOf routeMethods) (cat blanks (charsThen (cat
      (plus true (one (CharSet.allBut ','))) (charsThen (cat
      blanks (cat (alt (charsThen (plus true (one (.property (.binary .whiteSpace))))
        "async".toList) empty) (charsThen (cat
      (star true (one (CharSet.allBut ')'))) (charsThen (cat
      blanks (charsThen (cat blanks (charsThen (cat
      (star true (one (CharSet.allBut '\x7d')))
      (chars ['\x7d'])) ['\x7b'])) "=>".toList)) [')'])) ['('])) ) [','])) ['('])))
      ['.']))) := by rfl

/-- What the pattern of routes reads is the text of one. -/
theorem exists_of_fits {before part after : List Char}
    (h : routePattern.expr.Fits before part after) : ∃ r : Route, r.text = part := by
  simp only [routePattern_expr, fits_cat, fits_empty, fits_look, fits_oneOf, fits_charsThen,
    fits_blanks, fits_plus_one, fits_star_one, fits_alt, fits_chars, forall_accepts_allBut] at h
  obtain ⟨_, _, rfl, rfl, _, _, rfl, ⟨_, rfl⟩, receiver, _, rfl, hreceiver, _, rfl,
    method, _, rfl, hmethod, gap, _, rfl, hgap, _, rfl,
    path, _, rfl, ⟨hpath, hcomma⟩, _, rfl,
    lead, _, rfl, hlead, async, _, rfl, hasync, _, rfl,
    params, _, rfl, hbracket, _, rfl,
    front, _, rfl, hfront, _, rfl, back, _, rfl, hback, _, rfl,
    body, _, rfl, hbrace, rfl⟩ := h
  have hmarker : Blank (lead ++ async) ∨ ∃ front back, Blank front ∧ Blank back ∧ back ≠ [] ∧
      lead ++ async = front ++ "async".toList ++ back := by
    rcases hasync with ⟨gap, rfl, hne, hgap⟩ | rfl
    · exact .inr ⟨lead, gap, hlead, hgap, hne, (List.append_assoc ..).symm⟩
    · exact .inl (by rwa [List.append_nil])
  refine ⟨⟨receiver ++ '.' :: method ++ gap, path, lead ++ async, params,
    front ++ "=>".toList ++ back, body, ⟨receiver, hreceiver, method, hmethod, gap, hgap, rfl⟩,
    hpath, hcomma, hmarker, hbracket, ⟨front, back, hfront, hback, rfl⟩, hbrace⟩, ?_⟩
  simp [text]

/-- No word of error handling stands in what the pattern says word by word. -/
theorem not_hasWord_head (r : Route) {word : List Char} (hword : word ∈ errorHandlingWords) :
    ¬ HasWord word r.head := by
  have hletters : ∀ word ∈ errorHandlingWords, 't' ∈ word ∧ ∀ c ∈ word, isBlank c = false := by
    decide
  have hfront : ∀ word ∈ errorHandlingWords, ∀ receiver ∈ routeReceivers,
      ∀ method ∈ routeMethods, contains word (receiver ++ '.' :: method) = false := by decide
  obtain ⟨receiver, hreceiver, method, hmethod, blanks, hblanks, heq⟩ := r.head_eq
  obtain ⟨ht, hvisible⟩ := hletters word hword
  have hdisjoint : ∀ c ∈ blanks, c ∉ word := fun c hc hmem =>
    hblanks.not_mem (hvisible c hmem) hc
  intro h
  have hcontains := contains_iff.mpr h.isInfix
  rw [heq, contains_append_right ht _ hdisjoint, hfront word hword receiver hreceiver method
    hmethod] at hcontains
  cases hcontains

theorem not_hasWord_of_not_mem {word cs : List Char} (hword : word ∈ errorHandlingWords)
    (ht : 't' ∉ cs) : ¬ HasWord word cs := by
  have hletter : ∀ word ∈ errorHandlingWords, 't' ∈ word := by decide
  exact fun h => ht (h.isInfix.subset (hletter word hword))

/-- The words of error handling are found in the text of a route where they stand in its path, in
its parameters or in its body. -/
theorem isMatch_text_iff (r : Route) :
    tryCatchPattern.isMatch r.text = true ↔ r.NamesErrorHandling := by
  have hmarks : ∀ c ∈ "(,)\x7b\x7d".toList, isWordAt (some c) = false ∧
      ∀ word ∈ errorHandlingWords, c ∉ word := by decide
  rw [tryCatchPattern_isMatch_iff, NamesErrorHandling]
  apply exists_congr
  intro word
  apply and_congr_right
  intro hword
  have hsplit : ∀ c ∈ "(,)\x7b\x7d".toList, ∀ cs ds : List Char,
      HasWord word (cs ++ c :: ds) ↔ HasWord word cs ∨ HasWord word ds := fun c hc cs ds =>
    hasWord_append_cons ((hmarks c hc).2 word hword) (hmarks c hc).1
  have hhead := r.not_hasWord_head hword
  have hmarker := not_hasWord_of_not_mem hword (r.not_mem_marker (by decide) (by decide))
  have harrow := not_hasWord_of_not_mem hword (r.not_mem_arrow (by decide) (by decide))
  have hend := not_hasWord_of_not_mem hword List.not_mem_nil
  rw [text, hsplit '(' (by decide), hsplit ',' (by decide), hsplit '(' (by decide),
    hsplit ')' (by decide), hsplit '\x7b' (by decide), hsplit '\x7d' (by decide)]
  simp only [hhead, hmarker, harrow, hend, false_or, or_false]

/-- The finding about a route that begins on a line. -/
def finding (name : String) (line : Nat) (r : Route) : Finding where
  severity := .medium
  category := .errorHandling
  location := ⟨name, line⟩
  description := "Express route missing error handling"
  recommendation := "Add try-catch blocks to handle errors properly"
  snippet := String.ofList (r.text.take 100) ++ "..."

end Route

/-! ## The findings about routes -/

/-- The routes of a content: those whose texts are the matches of the pattern, one by one. -/
def RoutesOf (content : List Char) (routes : List Route) : Prop :=
  routes.map Route.text =
    (routePattern.findAll content).map fun span => slice span.1 span.2 content

/-- The findings about the routes of a content, if none is about a route for which `handled`
holds. -/
def routeFindings (name : String) (content : List Char) (routes : List Route)
    (handled : Route → Prop) [DecidablePred handled] : List Finding :=
  (((routePattern.findAll content).zip routes).filter fun x => ¬ handled x.2).map fun x =>
    x.2.finding name ((LineIndex.ofContent content).lineOf x.1.1)

/-- A content has one list of routes. -/
theorem RoutesOf.unique {content : List Char} {routes routes' : List Route}
    (h : RoutesOf content routes) (h' : RoutesOf content routes') : routes = routes' :=
  List.map_injective_iff.mpr (fun _ _ => Route.text_injective) (h.trans h'.symm)

/-- What the pattern matches are routes. -/
theorem exists_routesOf (content : List Char) : ∃ routes, RoutesOf content routes := by
  have hroute : ∀ span ∈ routePattern.findAll content,
      ∃ r : Route, r.text = slice span.1 span.2 content := by
    intro span hspan
    have hmatch := (Pattern.Automaton.mem_findAll_iff_counts.mp hspan).1
    rw [routePattern.automaton_eq] at hmatch
    obtain ⟨before, part, after, rfl, hstart, hstop, hfits⟩ :=
      Pattern.Automaton.fits_of_matchesAt hmatch
    obtain ⟨r, hr⟩ := Route.exists_of_fits hfits
    rw [← hstart, ← hstop, slice_eq]
    exact ⟨r, hr⟩
  change _ ∈ Set.range (List.map Route.text)
  rw [Set.range_list_map]
  rintro _ htext
  obtain ⟨span, hspan, rfl⟩ := List.mem_map.mp htext
  exact hroute span hspan

/-- In a content that mentions express, exactly the routes are reported in whose path, parameters
and body no word of error handling stands.  Receiver and method do not matter, and neither does
how the text of a match is taken apart: there is one way only. -/
theorem routeErrorHandling_check (name : String) {content : List Char}
    (h : contains "express".toList content = true) :
    ∃! routes, RoutesOf content routes ∧
      routeErrorHandling.check (Source.ofContent name content) =
        routeFindings name content routes Route.NamesErrorHandling := by
  obtain ⟨routes, hroutes⟩ := exists_routesOf content
  refine ⟨routes, ⟨hroutes, ?_⟩, fun routes' h' => h'.1.unique hroutes⟩
  simp only [routeErrorHandling, Source.ofContent, if_pos h, routeFindings]
  rw [RoutesOf] at hroutes
  generalize routePattern.findAll content = spans at hroutes ⊢
  induction spans generalizing routes with
  | nil => rfl
  | cons span spans ih =>
    cases routes with
    | nil => cases hroutes
    | cons r routes =>
      obtain ⟨htext, hrest⟩ := List.cons_eq_cons.mp hroutes
      have hslice : slice span.1 span.2 content = r.text := htext.symm
      rw [List.filterMap_cons, List.zip_cons_cons, hslice, ih routes hrest]
      by_cases hnames : r.NamesErrorHandling
      · have hmatch := r.isMatch_text_iff.mpr hnames
        simp [hmatch, hnames]
      · have hmatch := mt r.isMatch_text_iff.mp hnames
        simp [hmatch, hnames, Route.finding, routeSnippetLength]

/-- Of these two routes, one is on a path `/try` and the other handles nothing either. -/
def twoRoutes : List Char :=
  "// express\n".toList ++ "app.get('/try', (req, res) => \x7b go() \x7d)\n".toList ++
    "router.put('/r', () => \x7b\x7d)".toList

theorem routeErrorHandling_check_twoRoutes :
    contains "express".toList twoRoutes = true ∧
      ∃! routes, RoutesOf twoRoutes routes ∧
        routeErrorHandling.check (Source.ofContent "routes.js" twoRoutes) =
          routeFindings "routes.js" twoRoutes routes Route.NamesErrorHandling := by
  have h : contains "express".toList twoRoutes = true := by decide
  exact ⟨h, routeErrorHandling_check "routes.js" h⟩

/-- A route on the path `/try`. -/
def routeOnTry : Route where
  head := "app.get".toList
  path := "'/try'".toList
  marker := " ".toList
  params := "req, res".toList
  arrow := " => ".toList
  body := " res.send(1) ".toList
  head_eq := ⟨"app".toList, by decide, "get".toList, by decide, [], by decide, rfl⟩
  path_ne_nil := by decide
  comma_notMem := by decide
  marker_eq := .inl (by decide)
  bracket_notMem := by decide
  arrow_eq := ⟨" ".toList, " ".toList, by decide, by decide, rfl⟩
  brace_notMem := by decide

/-- A content with this route only. -/
def contentOnTry : List Char :=
  "// express\n".toList ++ routeOnTry.text ++ ");\n".toList

set_option maxRecDepth 8000 in
/-- The route is not reported, though no word of error handling stands in its body. -/
theorem route_on_try_not_reported :
    contains "express".toList contentOnTry = true ∧ RoutesOf contentOnTry [routeOnTry] ∧
      routeErrorHandling.check (Source.ofContent "routes.js" contentOnTry) ≠
        routeFindings "routes.js" contentOnTry [routeOnTry] fun r =>
          ∃ word ∈ errorHandlingWords, HasWord word r.body := by
  have hspans : routePattern.findAll contentOnTry = [(11, 56)] := by rfl
  have hslice : slice 11 56 contentOnTry = routeOnTry.text := by rfl
  have hpath : routeOnTry.NamesErrorHandling := by decide
  have hbody : ¬ ∃ word ∈ errorHandlingWords, HasWord word routeOnTry.body := by decide
  have hmatch := routeOnTry.isMatch_text_iff.mpr hpath
  have hexpress : contains "express".toList contentOnTry = true := by decide
  have hcheck : routeErrorHandling.check (Source.ofContent "routes.js" contentOnTry) = [] := by
    simp only [routeErrorHandling, Source.ofContent, if_pos hexpress, hspans, List.filterMap_cons,
      List.filterMap_nil, hslice, if_pos hmatch]
  refine ⟨hexpress, ?_, ?_⟩
  · rw [RoutesOf, hspans, List.map_singleton, List.map_singleton, hslice]
  · rw [hcheck, routeFindings, hspans, List.zip_cons_cons, List.filter_cons,
      if_pos (decide_eq_true hbody)]
    exact List.cons_ne_nil _ _ ∘ Eq.symm

end BackendAudit
