import SocketInventory.Proofs.Query.Comparison
import SocketInventory.Proofs.Query.Printing
import SocketInventory.Proofs.Selection

/-!
# Patterns made from a text

Stars are put in the place of runs of a text. The text fits the pattern so made when no run holds a
line feed and every capital sigma that is kept has one form in the text and in the pattern: the two
are put in lower case apart, and a sigma is final or not by its neighbours, which a star may be. The
texts that fit all their patterns are those of one line without a capital sigma behind a letter.
-/

namespace SocketInventory.Query

open Text (capitalSigma isFinal lowerBetween meetsCaseLetter)

/-! ## Parts of a text -/

/-- A character that is kept, or a run that a star stands for. -/
inductive Part where
  | kept (c : Char)
  | starred (run : List Char)

def Part.text : Part → List Char
  | .kept c => [c]
  | .starred run => run

def Part.sign : Part → Char
  | .kept c => c
  | .starred _ => '*'

def Part.hidden : Part → List Char
  | .kept _ => []
  | .starred run => run

/-- The text of the parts. -/
def source (parts : List Part) : List Char := parts.flatMap Part.text

/-- The text with a star in the place of every run. -/
def pattern (parts : List Part) : List Char := parts.map Part.sign

/-- What the stars stand for. -/
def hidden (parts : List Part) : List Char := parts.flatMap Part.hidden

/-- Behind two texts, every capital sigma that is kept is final in the text of the parts and in the
pattern, or in neither. -/
def SettledAfter (before before' : List Char) (parts : List Part) : Prop :=
  ∀ u v, parts = u ++ .kept capitalSigma :: v →
    isFinal ((source u).reverse ++ before) (source v) =
      isFinal ((pattern u).reverse ++ before') (pattern v)

def Settled (parts : List Part) : Prop := SettledAfter [] [] parts

/-- A text satisfies the comparison with the pattern made from it. -/
def Matched (parts : List Part) : Prop :=
  compareContent (.text (String.ofList (source parts))) .eq
    (.text (String.ofList (pattern parts))) = true

variable {before before' : List Char} {parts : List Part}

@[simp] theorem source_kept (c : Char) : source (.kept c :: parts) = c :: source parts := rfl

@[simp] theorem source_starred (run : List Char) :
    source (.starred run :: parts) = run ++ source parts := rfl

@[simp] theorem pattern_kept (c : Char) : pattern (.kept c :: parts) = c :: pattern parts := rfl

@[simp] theorem pattern_starred (run : List Char) :
    pattern (.starred run :: parts) = '*' :: pattern parts := rfl

@[simp] theorem hidden_kept (c : Char) : hidden (.kept c :: parts) = hidden parts := rfl

@[simp] theorem hidden_starred (run : List Char) :
    hidden (.starred run :: parts) = run ++ hidden parts := rfl

/-! ## Sigmas along the parts -/

theorem settledAfter_kept {c : Char} : SettledAfter before before' (.kept c :: parts) ↔
    (c = capitalSigma → isFinal before (source parts) = isFinal before' (pattern parts)) ∧
      SettledAfter (c :: before) (c :: before') parts := by
  constructor
  · intro h
    refine ⟨?_, fun u v huv => ?_⟩
    · rintro rfl
      exact h [] parts rfl
    · have hstep := h (.kept c :: u) v (by rw [huv]; rfl)
      simpa using hstep
  · rintro ⟨hc, h⟩ u v huv
    rcases List.cons_eq_append_iff.1 huv with ⟨rfl, hv⟩ | ⟨u, rfl, hv⟩
    · cases hv
      exact hc rfl
    · simpa using h u v hv

theorem settledAfter_starred {run : List Char} :
    SettledAfter before before' (.starred run :: parts) ↔
      SettledAfter (run.reverse ++ before) ('*' :: before') parts := by
  constructor
  · intro h u v huv
    have hstep := h (.starred run :: u) v (by rw [huv]; rfl)
    simpa using hstep
  · intro h u v huv
    rcases List.cons_eq_append_iff.1 huv with ⟨rfl, hv⟩ | ⟨u, rfl, hv⟩
    · cases hv
    · simpa using h u v hv

/-! ## Fitting -/

/-- Along the parts, the text and the pattern are put in lower case each behind what it has before:
a kept character is its own form twice, and a star takes the lower case of its run. -/
theorem fits_of_settled (h : SettledAfter before before' parts) (hl : '\n' ∉ hidden parts) :
    Text.fits (lowerBetween before' (pattern parts) [])
      (lowerBetween before (source parts) []) := by
  induction parts generalizing before before' with
  | nil => simp [source, pattern, lowerBetween, Text.fits]
  | cons part parts ih =>
      cases part with
      | kept c =>
          obtain ⟨hc, h⟩ := settledAfter_kept.1 h
          rw [source_kept, pattern_kept, lowerBetween, lowerBetween, List.append_nil,
            List.append_nil, Text.form_eq_iff.2 hc]
          exact Text.fits_append _ (ih h hl)
      | starred run =>
          rw [hidden_starred, List.mem_append, not_or] at hl
          obtain ⟨hrun, hl⟩ := hl
          have hlower : '\n' ∉ lowerBetween before run (source parts ++ []) := by
            rwa [Text.mem_lowerBetween (by decide) (by decide)]
          rw [source_starred, pattern_starred, Text.lowerBetween_append, lowerBetween,
            Text.form_star]
          exact Text.fits_star hlower (ih (settledAfter_starred.1 h) hl)

theorem count_source {c : Char} (hc : c ≠ '*') (parts : List Part) :
    (source parts).count c = (pattern parts).count c + (hidden parts).count c := by
  induction parts with
  | nil => rfl
  | cons part parts ih =>
      cases part with
      | kept d => simp only [source_kept, pattern_kept, hidden_kept, List.count_cons]; omega
      | starred run =>
          rw [source_starred, pattern_starred, hidden_starred, List.count_append,
            List.count_cons_of_ne hc.symm, List.count_append]
          omega

theorem notMem_hidden_of_fits (h : Text.fits (lowerBetween before' (pattern parts) [])
    (lowerBetween before (source parts) [])) : '\n' ∉ hidden parts := by
  have hfits := Text.count_of_fits h
  have hcount := count_source (by decide : '\n' ≠ '*') parts
  rw [Text.count_lowerBetween (by decide) (by decide),
    Text.count_lowerBetween (by decide) (by decide)] at hfits
  rw [← List.count_eq_zero]
  omega

/-! ## The comparison -/

/-- Without a star in the pattern nothing is replaced. -/
theorem source_eq_pattern (h : '*' ∉ pattern parts) : source parts = pattern parts := by
  induction parts with
  | nil => rfl
  | cons part parts ih =>
      cases part with
      | kept c =>
          rw [pattern_kept, List.mem_cons, not_or] at h
          rw [source_kept, pattern_kept, ih h.2]
      | starred run => simp at h

theorem matched_iff_fits : Matched parts ↔
    Text.fits (lowerBetween [] (pattern parts) []) (lowerBetween [] (source parts) []) := by
  simp only [Matched, compareContent, Content.chars, String.toList_ofList]
  by_cases hstar : '*' ∈ pattern parts
  · rw [compareText_pattern hstar, Text.lower_eq, Text.lower_eq]
  · rw [compareText_plain fun _ => hstar, source_eq_pattern hstar]
    exact iff_of_true (by simp [Op.test]) (Text.fits_self _)

theorem notMem_hidden_of_matched (h : Matched parts) : '\n' ∉ hidden parts :=
  notMem_hidden_of_fits (matched_iff_fits.1 h)

theorem matched_of_settled (h : Settled parts) (hl : '\n' ∉ hidden parts) : Matched parts :=
  matched_iff_fits.2 (fits_of_settled h hl)

/-! ## Empty runs -/

theorem filter_source (h : hidden parts = []) :
    (source parts).filter (· != '*') = (pattern parts).filter (· != '*') := by
  induction parts with
  | nil => rfl
  | cons part parts ih =>
      cases part with
      | kept c => rw [source_kept, pattern_kept, List.filter_cons, List.filter_cons, ih h]
      | starred run =>
          obtain ⟨rfl, h⟩ := List.append_eq_nil_iff.1 h
          exact ih h

theorem settled_of_filter (h : hidden parts = [])
    (hf : (lowerBetween before' (pattern parts) []).filter (· != '*') =
      (lowerBetween before (source parts) []).filter (· != '*')) :
    SettledAfter before before' parts := by
  induction parts generalizing before before' with
  | nil => exact fun u v huv => by simp at huv
  | cons part parts ih =>
      cases part with
      | kept c =>
          rw [source_kept, pattern_kept, lowerBetween, lowerBetween, List.filter_append,
            List.filter_append, List.append_nil, List.append_nil] at hf
          by_cases hc : c = '*'
          · subst hc
            rw [Text.form_star, Text.form_star] at hf
            exact settledAfter_kept.2 ⟨fun hs => absurd hs (by decide), ih h hf⟩
          · rw [Text.filter_form hc, Text.filter_form hc] at hf
            obtain ⟨hform, hf⟩ := List.append_inj hf (by rw [Text.length_form, Text.length_form])
            exact settledAfter_kept.2 ⟨Text.form_eq_iff.1 hform.symm, ih h hf⟩
      | starred run =>
          obtain ⟨rfl, h⟩ := List.append_eq_nil_iff.1 h
          rw [pattern_starred, lowerBetween, Text.form_star] at hf
          exact settledAfter_starred.2 (ih h hf)

/-- A star in the place of nothing leaves as many characters in the text as in the pattern, and
each stands for itself. -/
theorem settled_of_matched (h : Matched parts) (hh : hidden parts = []) : Settled parts := by
  have hsub := (Text.sublist_of_fits (matched_iff_fits.1 h)).filter (· != '*')
  rw [List.filter_filter] at hsub
  refine settled_of_filter hh (List.Sublist.eq_of_length ?_ ?_)
  · simpa using hsub
  · rw [Text.length_filter_lowerBetween, Text.length_filter_lowerBetween, filter_source hh]

/-! ## One star -/

def once (u run v : List Char) : List Part := u.map .kept ++ .starred run :: v.map .kept

theorem source_append (p q : List Part) : source (p ++ q) = source p ++ source q :=
  List.flatMap_append

theorem pattern_append (p q : List Part) : pattern (p ++ q) = pattern p ++ pattern q :=
  List.map_append

theorem source_map_kept (u : List Char) : source (u.map .kept) = u := by
  induction u with
  | nil => rfl
  | cons c u ih => rw [List.map_cons, source_kept, ih]

theorem pattern_map_kept (u : List Char) : pattern (u.map .kept) = u := by
  induction u with
  | nil => rfl
  | cons c u ih => rw [List.map_cons, pattern_kept, ih]

theorem source_once (u run v : List Char) : source (once u run v) = u ++ (run ++ v) := by
  rw [once, source_append, source_starred, source_map_kept, source_map_kept]

theorem pattern_once (u run v : List Char) : pattern (once u run v) = u ++ '*' :: v := by
  rw [once, pattern_append, pattern_starred, pattern_map_kept, pattern_map_kept]

/-- Kept characters in a row have one lower case in the text and in the pattern. -/
theorem settledAfter_append (u : List Char) : SettledAfter before before' (u.map .kept ++ parts) ↔
    lowerBetween before u (source parts) = lowerBetween before' u (pattern parts) ∧
      SettledAfter (u.reverse ++ before) (u.reverse ++ before') parts := by
  induction u generalizing before before' with
  | nil => simp [lowerBetween]
  | cons c u ih =>
      rw [List.map_cons, List.cons_append, settledAfter_kept, ih, source_append, pattern_append,
        source_map_kept, pattern_map_kept, Text.lowerBetween_cons_eq_iff, and_assoc,
        List.reverse_cons, List.append_assoc, List.append_assoc, List.singleton_append,
        List.singleton_append]

theorem settled_once {u run v : List Char} : Settled (once u run v) ↔
    lowerBetween [] u (run ++ v) = lowerBetween [] u ('*' :: v) ∧
      lowerBetween (run.reverse ++ u.reverse) v [] = lowerBetween ('*' :: u.reverse) v [] := by
  have htail := @settledAfter_append (run.reverse ++ u.reverse) ('*' :: u.reverse) [] v
  have hnone : ∀ b b', SettledAfter b b' [] := fun b b' x y h => by simp at h
  simp only [List.append_nil, hnone, and_true] at htail
  rw [Settled, once, settledAfter_append, settledAfter_starred, source_starred, pattern_starred,
    source_map_kept, pattern_map_kept, List.append_nil, htail]
  rfl

theorem hidden_once (u run v : List Char) : hidden (once u run v) = run := by
  have hkept : ∀ w : List Char, hidden (w.map .kept) = [] := fun w => by
    induction w with
    | nil => rfl
    | cons c w ih => rw [List.map_cons, hidden_kept, ih]
  have happend : hidden (once u run v) = hidden (u.map .kept) ++ (run ++ hidden (v.map .kept)) :=
    List.flatMap_append
  rw [happend, hkept, hkept, List.nil_append, List.append_nil]

/-- With one star, the text satisfies the comparison only when both pieces are settled: the pattern
leaves no other place for them than the ends of the text. -/
theorem matched_once {u run v : List Char} (hu : '*' ∉ u) (hv : '*' ∉ v) :
    Matched (once u run v) ↔ Settled (once u run v) ∧ '\n' ∉ run := by
  constructor
  · intro h
    have hrun := notMem_hidden_of_matched h
    rw [hidden_once] at hrun
    refine ⟨?_, hrun⟩
    have hpieces : '*' ∉ lowerBetween [] u ('*' :: v) ∧
        '*' ∉ lowerBetween ('*' :: u.reverse) v [] := by
      rw [Text.mem_lowerBetween (by decide) (by decide),
        Text.mem_lowerBetween (by decide) (by decide)]
      exact ⟨hu, hv⟩
    rw [matched_iff_fits, source_once, pattern_once, Text.lower_star,
      Text.fits_once hpieces.1 hpieces.2] at h
    obtain ⟨taken, htext, -⟩ := h
    rw [Text.lowerBetween_append, Text.lowerBetween_append, List.append_nil, List.append_nil,
      List.append_nil] at htext
    obtain ⟨hfirst, htext⟩ := List.append_inj htext (by
      rw [Text.length_lowerBetween, Text.length_lowerBetween])
    obtain ⟨-, hlast⟩ := List.append_inj' htext (by
      rw [Text.length_lowerBetween, Text.length_lowerBetween])
    exact settled_once.2 ⟨hfirst, hlast⟩
  · rintro ⟨hs, hrun⟩
    exact matched_of_settled hs (by rwa [hidden_once])

/-! ## Filters -/

/-- A text that writes the comparison with the pattern keeps a record with the text in that field
exactly when the text satisfies the comparison. -/
theorem apply_comparison {field : String} {operand : Operand} {s : String} {r : Record}
    (hv : operand.value = .text (String.ofList (pattern parts)))
    (hs : Written false [.word field, .op .eq, operand.token] s.toList)
    (hr : Reads r (fieldName field) (.text (String.ofList (source parts)))) :
    Filter.apply [r] s = .ok [r] ↔ Matched parts := by
  let d : Disjunction := .last (.last (.comparison field .eq operand))
  have hnumber : ∀ t ∈ d.tokens, t.kind ≠ .number := by
    have hoperand : operand.token.kind ≠ .number := by
      cases operand <;> simp_all [Operand.token, Operand.value, Token.kind]
    simpa [d, Disjunction.tokens, Conjunction.tokens, Factor.tokens, Token.kind] using hoperand
  have hfit := numbersFit_iff.2 (fits_of_standsFor (hs.standsFor d.isChain_tokens) hnumber)
  have hq : Query.parse s = .ok d.query := d.parse_of_written (Nat.zero_le _) hs hfit
  have hanswers : d.query.Answers r := answers_comparison hr.content?_eq trivial .eq
  have hanswer : d.query.holds r = true ↔ Matched parts := by
    rw [d.holds_query r]
    constructor
    · rintro ⟨c, hc, h⟩
      rwa [hc.unique hr, hv] at h
    · exact fun h => ⟨_, hr, by rwa [hv]⟩
  rw [Filter.apply_eq_ok_iff hq, ← hanswer]
  simp [hanswers, eq_comm (a := [r])]

/-! ## Whole texts -/

theorem source_reverse (u : List Part) (part : Part) :
    (source (u ++ [part])).reverse = part.text.reverse ++ (source u).reverse := by
  simp [source]

theorem pattern_reverse (u : List Part) (part : Part) :
    (pattern (u ++ [part])).reverse = part.sign :: (pattern u).reverse := by
  simp [pattern]

/-- A letter in front of a place in the pattern is a kept one. -/
theorem meetsCaseLetter_pattern {u : List Part} (h : meetsCaseLetter (pattern u).reverse) :
    meetsCaseLetter (source u).reverse := by
  induction u using List.reverseRecOn with
  | nil => exact h
  | append_singleton u part ih =>
      rw [pattern_reverse] at h
      rw [source_reverse]
      cases part with
      | starred run => simp [Part.sign, Text.meetsCaseLetter_star] at h
      | kept c =>
          rw [Part.sign, Text.meetsCaseLetter_cons] at h
          rw [Part.text, List.reverse_singleton, List.singleton_append, Text.meetsCaseLetter_cons]
          split at h
          · rename_i hc
            rw [if_pos hc]
            exact ih h
          · rename_i hc
            rwa [if_neg hc]

/-- No capital sigma stands behind a letter, so none can be final. -/
def Unfinished (s : List Char) : Prop :=
  ∀ x y, s = x ++ capitalSigma :: y → meetsCaseLetter x.reverse = false

theorem settled_of_unfinished (h : Unfinished (source parts)) : Settled parts := by
  rintro u v rfl
  have hsource := h (source u) (source v) (by rw [source_append, source_kept])
  have hpattern : meetsCaseLetter (pattern u).reverse = false := by
    by_contra hp
    simp [meetsCaseLetter_pattern (by simpa using hp)] at hsource
  simp [isFinal, hsource, hpattern]

/-- A sigma behind a letter takes another form once there is a star beside it: one that was final
behind the star, any other in front of it. -/
theorem unfinished_of_matched {s : List Char} (h : ∀ parts, source parts = s → Matched parts) :
    Unfinished s := by
  rintro x y rfl
  by_contra hx
  have hx' : meetsCaseLetter x.reverse = true := by simpa using hx
  cases hy : meetsCaseLetter y with
  | false =>
      have hs := settled_of_matched (h (once x [] (capitalSigma :: y)) (source_once _ _ _))
        (hidden_once _ _ _)
      have hsigma := hs (x.map .kept ++ [.starred []]) (y.map .kept) (by simp [once])
      rw [source_reverse, pattern_reverse] at hsigma
      simp [source_map_kept, pattern_map_kept, Part.text, Part.sign, isFinal, hx', hy,
        Text.meetsCaseLetter_star] at hsigma
  | true =>
      have hsource : source (once (x ++ [capitalSigma]) [] y) = x ++ capitalSigma :: y := by
        simp [source_once]
      have hs := settled_of_matched (h _ hsource) (hidden_once _ _ _)
      have hsigma := hs (x.map .kept) (.starred [] :: y.map .kept) (by simp [once])
      simp [source_map_kept, pattern_map_kept, isFinal, hx', hy,
        Text.meetsCaseLetter_star] at hsigma

/-- A text satisfies the comparison with each pattern made from it exactly when it is one line
and none of its capital sigmas stands behind a letter. -/
theorem matched_all_iff (s : List Char) :
    (∀ parts, source parts = s → Matched parts) ↔ '\n' ∉ s ∧ Unfinished s := by
  constructor
  · refine fun h => ⟨fun hl => ?_, unfinished_of_matched h⟩
    obtain ⟨x, y, rfl⟩ := List.append_of_mem hl
    have hrun := notMem_hidden_of_matched (h (once x ['\n'] y) (source_once _ _ _))
    simp [hidden_once] at hrun
  · rintro ⟨hl, hs⟩ parts rfl
    refine matched_of_settled (settled_of_unfinished hs) fun hh => hl ?_
    have hcount := count_source (by decide : '\n' ≠ '*') parts
    rw [← List.count_pos_iff] at hh ⊢
    omega

/-- A text satisfies the comparison with each pattern made from it exactly when it is one line and
none of its capital sigmas stands behind a letter. Of any text, with a pattern made from it: no
starred run holds a line feed if it satisfies the comparison; it does where moreover the kept sigmas
are settled, and with one star only then; and a filter that writes the comparison keeps the records
of just such texts. -/
theorem matched_rules (s : List Char) :
    ((∀ parts, source parts = s → Matched parts) ↔ '\n' ∉ s ∧ Unfinished s) ∧
    ∀ parts, source parts = s →
      (Matched parts → '\n' ∉ hidden parts) ∧
      (Settled parts → '\n' ∉ hidden parts → Matched parts) ∧
      (∀ u run v, '*' ∉ u → '*' ∉ v → parts = once u run v →
        (Matched parts ↔ Settled parts ∧ '\n' ∉ run)) ∧
      ∀ (field : String) (operand : Operand) (text : String) (r : Record),
        operand.value = .text (String.ofList (pattern parts)) →
        Written false [.word field, .op .eq, operand.token] text.toList →
        Reads r (fieldName field) (.text (String.ofList s)) →
        (Filter.apply [r] text = .ok [r] ↔ Matched parts) := by
  refine ⟨matched_all_iff s, ?_⟩
  rintro parts rfl
  refine ⟨notMem_hidden_of_matched, matched_of_settled, ?_, fun field operand text r => ?_⟩
  · rintro u run v hu hv rfl
    exact matched_once hu hv
  · exact apply_comparison

/-- The socket of a process with a name that holds a final sigma and others. -/
def odysseus : Record := ⟨"tcp", ⟨none, some 80⟩, ⟨none, some 0⟩, "LISTEN", 7, some "ΟΔΥΣΣΕΥΣ"⟩

theorem matched_rules_odysseus :
    Settled (once [] ['Ο', 'Δ', 'Υ'] ['Σ', 'Σ', 'Ε', 'Υ', 'Σ']) ∧
      Filter.apply [odysseus] "process='*ΣΣΕΥΣ'" = .ok [odysseus] := by
  have hs : Settled (once [] ['Ο', 'Δ', 'Υ'] ['Σ', 'Σ', 'Ε', 'Υ', 'Σ']) :=
    settled_once.2 (by decide +kernel)
  obtain ⟨-, hrules⟩ := matched_rules ['Ο', 'Δ', 'Υ', 'Σ', 'Σ', 'Ε', 'Υ', 'Σ']
  obtain ⟨-, hmatched, -, hfilter⟩ := hrules (once [] ['Ο', 'Δ', 'Υ'] ['Σ', 'Σ', 'Ε', 'Υ', 'Σ']) rfl
  refine ⟨hs, (hfilter "process" (.string "*ΣΣΕΥΣ") _ _ rfl ?_ ?_).2 (hmatched hs ?_)⟩
  · refine @Written.cons _ [] ['p', 'r', 'o', 'c', 'e', 's', 's'] _ _ _ (by simp)
      (.word (.intro (by decide) (by decide)) (by decide) (by decide) (by decide)) (by simp) ?_
    refine @Written.cons _ [] ['='] _ _ _ (by simp) .equals (by decide) ?_
    refine @Written.cons _ [] ('\'' :: (['*', 'Σ', 'Σ', 'Ε', 'Υ', 'Σ'] ++ ['\''])) [] _ _ (by simp)
      (.quoted (by decide) (by decide)) (by decide) ?_
    exact .nil (by simp)
  · exact .processName (by decide +kernel) rfl
  · decide

/-- A star does not take a line feed, and the sigma in front of a star is another than the one
inside a word. -/
theorem not_matched :
    ¬ Matched (once ['a'] ['\n'] ['b']) ∧ ¬ Matched (once ['A', 'Σ'] ['B'] []) := by
  refine ⟨fun h => ?_, fun h => ?_⟩
  · exact absurd (notMem_hidden_of_matched h) (by decide)
  · obtain ⟨hs, -⟩ := (matched_once (by decide) (by decide)).1 h
    exact absurd (settled_once.1 hs) (by decide +kernel)

end SocketInventory.Query
