import SocketInventory.Proofs.Query.Printing

/-!
# Bare words behind an operator

A value may be a bare word. Full stops and hyphens continue a word but do not start one, so the
scanner passes over those in front of a value, and what is compared is the rest of it.
-/

namespace SocketInventory.Query

/-! ## Words and their values -/

/-- A word that can be a value: of the characters of words, no connective, and no number of too
many digits. -/
structure Bare (w : List Char) : Prop where
  ne_nil : w ≠ []
  chars : ∀ c ∈ w, isWordChar c
  ne_and : w.map Char.toUpper ≠ ['A', 'N', 'D']
  ne_or : w.map Char.toUpper ≠ ['O', 'R']
  digits : w.all Char.isDigit → w.length ≤ Text.digitLimit

/-- What a word means: a number when all of it is digits. -/
def wordValue (w : List Char) : Value :=
  if w.all Char.isDigit then .number (Nat.ofDigitChars 10 w 0) else .text (String.ofList w)

/-- The word from its first character on that starts one. -/
def core (w : List Char) : List Char := w.dropWhile fun c => !isWordStart c

variable {field sign w : List Char} {v : String} {op : Op}

theorem core_start {c : Char} (hc : isWordStart c) : core (c :: w) = c :: w := by
  simp [core, hc]

theorem core_skip {c : Char} (hc : isWordStart c = false) : core (c :: w) = core w := by
  simp [core, hc]

theorem core_suffix (w : List Char) : core w <:+ w := List.dropWhile_suffix _

theorem isWord_core (hw : ∀ c ∈ w, isWordChar c) (hne : core w ≠ []) : IsWord (core w) := by
  induction w with
  | nil => exact absurd rfl hne
  | cons c w ih =>
      have hrest : ∀ d ∈ w, isWordChar d := fun d hd => hw d (by simp [hd])
      by_cases hc : isWordStart c
      · rw [core_start hc]
        exact .intro hc hrest
      · have hc' : isWordStart c = false := by simpa using hc
        rw [core_skip hc'] at hne ⊢
        exact ih hrest hne

/-- The core is the whole word exactly when its first character starts one. -/
theorem core_eq_self_iff (hne : w ≠ []) : core w = w ↔ isBare w := by
  obtain ⟨c, w, rfl⟩ := List.exists_cons_of_ne_nil hne
  by_cases hc : isWordStart c
  · simp [core_start hc, isBare, hc]
  · have hc' : isWordStart c = false := by simpa using hc
    have hle := (core_suffix w).length_le
    rw [core_skip hc']
    simp only [isBare, List.head?_cons, Option.any_some, hc', Bool.false_eq_true, iff_false]
    intro h
    rw [h] at hle
    simp at hle

/-- A word that is cut short means something else: its first character is no digit. -/
theorem wordValue_core_ne (hne : w ≠ []) (hb : isBare w = false) :
    wordValue (core w) ≠ wordValue w := by
  have hself : core w ≠ w := fun h => by simp [(core_eq_self_iff hne).1 h] at hb
  obtain ⟨c, w, rfl⟩ := List.exists_cons_of_ne_nil hne
  have hdigit : c.isDigit = false := by
    by_contra h
    simp [isBare, isWordStart, Char.isAlphanum, h] at hb
  have hall : (c :: w).all Char.isDigit = false := by simp [hdigit]
  have htext : String.ofList (core (c :: w)) ≠ String.ofList (c :: w) := by
    rwa [ne_eq, String.ofList_inj]
  rw [wordValue, wordValue, hall]
  split
  · simp
  · exact fun h => htext (Value.text.inj h)

/-! ## Scanning -/

theorem readLexeme?_skip {c : Char} (hc : isWordChar c) (hs : isWordStart c = false)
    (rest : List Char) : readLexeme? c rest = none := by
  have hskip : c = '.' ∨ c = '-' := by simpa [isWordChar, hs] using hc
  have hsign : readSign? (c :: rest) = none := by
    rcases hskip with rfl | rfl <;> simp [readSign?]
  simp [readLexeme?, hsign, isQuote_of_isWordChar hc, hs]

/-- Only the core of a word is scanned. -/
theorem lexemes_core (hw : ∀ c ∈ w, isWordChar c) : lexemes w = lexemes (core w) := by
  induction w with
  | nil => rfl
  | cons c w ih =>
      have hrest : ∀ d ∈ w, isWordChar d := fun d hd => hw d (by simp [hd])
      by_cases hc : isWordStart c
      · rw [core_start hc]
      · have hc' : isWordStart c = false := by simpa using hc
        rw [core_skip hc', lexemes_none (readLexeme?_skip (hw c (by simp)) hc' w), ih hrest]

theorem Spells.operator_head (hs : Spells sign (.op op)) :
    ∃ c rest, sign = c :: rest ∧ isWordChar c = false := by
  cases hs <;> exact ⟨_, _, rfl, by decide⟩

/-- The field and the sign are read in front of any word. -/
theorem lexemes_comparison (hf : Spells field (.word v)) (hs : Spells sign (.op op))
    (hw : ∀ c ∈ w, isWordChar c) : ∃ l m, lexemes (field ++ (sign ++ w)) = l :: m :: lexemes w ∧
      l.token = .ok (.word v) ∧ m.token = .ok (.op op) := by
  obtain ⟨d, rest, rfl, hd⟩ := hs.operator_head
  have hbare : isBare (d :: rest) = false := by
    by_contra h
    have hstart : isWordStart d := by simpa [isBare] using h
    simp [isWordChar_of_isWordStart hstart] at hd
  have hequals : w.head? ≠ some '=' := by
    intro h
    exact absurd (hw _ (List.mem_of_mem_head? h)) (by decide)
  obtain ⟨l, hl, hlt⟩ := @hf.lexemes _ (d :: rest ++ w) _ (by simp [hd]) (by simp [Token.kind])
  obtain ⟨m, hm, hmt⟩ := hs.lexemes (by simp [hbare]) (fun _ => hequals)
  exact ⟨l, m, by rw [hl, hm], hlt.token (hlt.fits (by simp [Token.kind])),
    hmt.token (hmt.fits (by simp [Token.kind]))⟩

/-! ## Parsing -/

theorem ofTokens_value {t : Token} {x : Value} (h : t.value? = some x) :
    ofTokens [.word v, .op op, t, .eof] = .ok (.comparison (fieldName v) op x) := by
  obtain ⟨operand, rfl, rfl⟩ := t.operand h
  exact @Disjunction.ofTokens_tokens (.last (.last (.comparison v op operand))) (Nat.zero_le _)

theorem ofTokens_noValue {t : Token} {rest : List Token} (h : t.value? = none) :
    ofTokens (.word v :: .op op :: t :: rest) = .error (.noValue (fieldName v) op t.kind) := by
  have hrun : ∀ total, runComparison total (.word v :: .op op :: t :: rest) =
      .error (.noValue (fieldName v) op t.kind) := fun total => by
    simp only [runComparison, parseComparison, h]
    rfl
  rw [ofTokens_eq, runOr_error (runAnd_error (by
    rw [runFactor_comparison (by simp) (by simp), hrun]))]
  rfl

theorem wordToken_value (hw : Bare w) (hword : IsWord w) :
    ∃ t, wordToken w = .ok t ∧ t.value? = some (wordValue w) := by
  by_cases hd : w.all Char.isDigit
  · have hs := Spells.number (by simpa using hd) hw.ne_nil
    exact ⟨_, hs.wordToken hword hw.digits, by rw [wordValue, if_pos hd]; rfl⟩
  · have hs := Spells.word hword hw.ne_and hw.ne_or (by simpa using hd)
    exact ⟨_, hs.wordToken hword hw.digits, by rw [wordValue, if_neg hd]; rfl⟩

/-- A word that can be no value is a connective, or a number of too many digits. -/
theorem wordToken_refused (hword : IsWord w) (hw : ¬ Bare w) :
    (∃ t, wordToken w = .ok t ∧ t.value? = none) ∨ ∃ fault, wordToken w = .error fault := by
  have hne : w ≠ [] := by
    rintro rfl
    cases hword
  have hchars : ∀ c ∈ w, isWordChar c := by
    obtain ⟨hc, hrest⟩ := hword
    simpa [isWordChar_of_isWordStart hc] using hrest
  unfold wordToken
  split
  · exact .inl ⟨.and, rfl, rfl⟩
  · rename_i ha
    split
    · exact .inl ⟨.or, rfl, rfl⟩
    · rename_i ho
      by_cases hl : w.all Char.isDigit → w.length ≤ Text.digitLimit
      · exact absurd ⟨hne, hchars, ha, ho, hl⟩ hw
      · obtain ⟨hd, hlong⟩ := Classical.not_imp.1 hl
        rw [if_pos hd, Text.parseMagnitude_digits_eq (by simpa using hd) hne, if_pos (by omega)]
        exact .inr ⟨_, rfl⟩

theorem lexemes_core_eq (hw : ∀ c ∈ w, isWordChar c) (hne : core w ≠ []) :
    lexemes w = [.bare (core w)] := by
  have h := @lexemes_word (core w) [] (isWord_core hw hne) (by simp)
  rwa [List.append_nil, lexemes, ← lexemes_core hw] at h

section Comparison

variable (hf : Spells field (.word v)) (hs : Spells sign (.op op)) (hw : ∀ c ∈ w, isWordChar c)
include hf hs hw

theorem tokenize_comparison : tokenize (String.ofList (field ++ (sign ++ w))) =
    ((lexemes w).mapM Lexeme.token).map fun tokens => .word v :: .op op :: (tokens ++ [.eof]) := by
  obtain ⟨l, m, hlexemes, hl, hm⟩ := lexemes_comparison hf hs hw
  rw [tokenize, String.toList_ofList, hlexemes, List.mapM_cons, List.mapM_cons, hl, hm]
  cases (lexemes w).mapM Lexeme.token <;> rfl

theorem tokenize_core (hne : core w ≠ []) : tokenize (String.ofList (field ++ (sign ++ w))) =
    (wordToken (core w)).map fun t => [.word v, .op op, t, .eof] := by
  rw [tokenize_comparison hf hs hw, lexemes_core_eq hw hne, List.mapM_cons, Lexeme.token]
  cases wordToken (core w) <;> rfl

/-- The text is a comparison with the value of the core, where the core has one. -/
theorem parse_core (hc : Bare (core w)) : Query.parse (String.ofList (field ++ (sign ++ w))) =
    .ok (.comparison (fieldName v) op (wordValue (core w))) := by
  obtain ⟨t, ht, hx⟩ := wordToken_value hc (isWord_core hw hc.ne_nil)
  have htokens := tokenize_core hf hs hw hc.ne_nil
  rw [ht] at htokens
  exact parse_ok htokens (ofTokens_value hx)

theorem parse_core_refused (hc : ¬ Bare (core w)) :
    ∃ e, Query.parse (String.ofList (field ++ (sign ++ w))) = .error e := by
  by_cases hne : core w = []
  · have htokens := tokenize_comparison hf hs hw
    rw [lexemes_core hw, hne, lexemes] at htokens
    exact ⟨_, parse_malformed htokens (ofTokens_noValue rfl)⟩
  · have htokens := tokenize_core hf hs hw hne
    rcases wordToken_refused (isWord_core hw hne) hc with ⟨t, ht, hx⟩ | ⟨fault, hfault⟩
    · rw [ht] at htokens
      exact ⟨_, parse_malformed htokens (ofTokens_noValue hx)⟩
    · rw [hfault] at htokens
      exact ⟨.badNumeral _ fault, by rw [Query.parse, htokens]; rfl⟩

end Comparison

/-- A word behind an operator is what the field is compared with exactly when its first character
starts a word. Any other word is cut down to its core, a proper part of it with another meaning, and
the text is a comparison with that or, where the core can be no value, refused. -/
theorem parse_bareWord (hf : Spells field (.word v)) (hs : Spells sign (.op op)) (hw : Bare w) :
    (Query.parse (String.ofList (field ++ (sign ++ w))) =
      .ok (.comparison (fieldName v) op (wordValue w)) ↔ isBare w) ∧
    (isBare w = false → core w <:+ w ∧ core w ≠ w ∧ wordValue (core w) ≠ wordValue w ∧
      (Bare (core w) → Query.parse (String.ofList (field ++ (sign ++ w))) =
        .ok (.comparison (fieldName v) op (wordValue (core w)))) ∧
      (¬ Bare (core w) →
        ∃ e, Query.parse (String.ofList (field ++ (sign ++ w))) = .error e)) ∧
    ∀ (r : Record) (x : Value), holds r (.comparison (fieldName v) op x) = true ↔
      ∃ c, Reads r (fieldName v) c ∧ compare c op x = true := by
  refine ⟨?_, fun hb => ?_, fun r x => holds_comparison r (fieldName v) op x⟩
  · constructor
    · intro h
      by_contra hb
      have hne := wordValue_core_ne hw.ne_nil (by simpa using hb)
      by_cases hc : Bare (core w)
      · rw [parse_core hf hs hw.chars hc] at h
        exact hne (Query.comparison.inj (Except.ok.inj h)).2.2
      · obtain ⟨e, he⟩ := parse_core_refused hf hs hw.chars hc
        rw [he] at h
        cases h
    · intro hb
      have hcore := (core_eq_self_iff hw.ne_nil).2 hb
      have hparse := parse_core hf hs hw.chars (by rwa [hcore])
      rwa [hcore] at hparse
  · refine ⟨core_suffix w, ?_, wordValue_core_ne hw.ne_nil hb, parse_core hf hs hw.chars,
      parse_core_refused hf hs hw.chars⟩
    rw [ne_eq, core_eq_self_iff hw.ne_nil, hb]
    simp

theorem parse_bareWord_pattern :
    Bare ['1', '0', '.', '*'] ∧ Query.parse "RADDR:10.*" =
      .ok (.comparison "raddr" .eq (.text "10.*")) := by
  have hf : Spells ['R', 'A', 'D', 'D', 'R'] (.word "RADDR") :=
    .word (.intro (by decide) (by decide)) (by decide) (by decide) (by decide)
  have hw : Bare ['1', '0', '.', '*'] := ⟨by simp, by decide, by decide, by decide, by decide⟩
  obtain ⟨hparse, -, -⟩ := parse_bareWord hf .colon hw
  exact ⟨hw, (hparse.2 (by decide)).trans (congrArg Except.ok (by decide +kernel))⟩

/-- The socket of a login shell. -/
def loginShell : Record := ⟨"tcp", ⟨none, some 80⟩, ⟨none, some 0⟩, "LISTEN", 7, some "-bash"⟩

/-- A hyphen in front of a name is dropped, and the name with it is not found. -/
theorem parse_hyphen_dropped :
    Bare ['-', 'b', 'a', 's', 'h'] ∧ Reads loginShell "process" (.text "-bash") ∧
      compare (.text "-bash") .eq (wordValue ['-', 'b', 'a', 's', 'h']) = true ∧
      ∃ q, Query.parse "process=-bash" = .ok q ∧ q.holds loginShell = false := by
  have hw : Bare ['-', 'b', 'a', 's', 'h'] := ⟨by simp, by decide, by decide, by decide, by decide⟩
  have hq : Query.parse "process=-bash" = .ok (.comparison "process" .eq (.text "bash")) :=
    ok_of_toOption (by decide +kernel)
  exact ⟨hw, .processName (by decide) rfl, by decide +kernel, _, hq, by decide +kernel⟩

end SocketInventory.Query
