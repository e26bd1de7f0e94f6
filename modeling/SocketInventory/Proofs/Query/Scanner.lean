import SocketInventory.Proofs.Outcome
import SocketInventory.Proofs.Query.Lexeme
import SocketInventory.Proofs.Text.Numeral

/-!
# The scanner

What the scanner makes of a text: the tokens that it can find, and the scan of two texts put
together, which is the two scans put together where nothing at the seam joins and no quote left
open in the first text finds its partner in the second.
-/

namespace SocketInventory.Query

/-! ## Tokens -/

theorem readSign?_ne_eof {c : Char} {rest rest' : List Char} {t : Token}
    (h : readSign? (c :: rest) = some (t, rest')) : t ≠ .eof := by
  unfold readSign? at h
  split at h <;> cases h <;> simp

/-- The sorts of lexemes that a text can hold. -/
theorem readLexeme?_sort {c : Char} {rest rest' : List Char} {l : Lexeme}
    (h : readLexeme? c rest = some (l, rest')) :
    (∃ t, l = .sign t ∧ t ≠ .eof) ∨ (∃ body, l = .quoted body) ∨ ∃ w, l = .bare w ∧ w ≠ [] := by
  unfold readLexeme? at h
  split at h
  · rename_i t r hs
    cases h
    exact .inl ⟨t, rfl, readSign?_ne_eof hs⟩
  · split at h
    · obtain ⟨⟨body, r⟩, -, he⟩ := Option.map_eq_some_iff.1 h
      cases he
      exact .inr (.inl ⟨body, rfl⟩)
    · split at h
      · cases h
        exact .inr (.inr ⟨_, rfl, by simp⟩)
      · cases h

/-- No number of the text has more digits than can be read. -/
def NumbersFit (s : List Char) : Prop :=
  ∀ w, .bare w ∈ lexemes s → w.all Char.isDigit → w.length ≤ Text.digitLimit

theorem readLexeme?_bare_length {c : Char} {rest rest' w : List Char}
    (h : readLexeme? c rest = some (.bare w, rest')) : w.length ≤ rest.length + 1 := by
  unfold readLexeme? at h
  split at h
  · cases h
  · split at h
    · obtain ⟨⟨body, r⟩, -, he⟩ := Option.map_eq_some_iff.1 h
      cases he
    · split at h
      · cases h
        have hle := (List.takeWhile_sublist isWordChar (l := rest)).length_le
        simpa using hle
      · cases h

/-- Numbers fit in every text that is no longer than the limit. -/
theorem numbersFit_of_length {s : List Char} (hs : s.length ≤ Text.digitLimit) : NumbersFit s := by
  suffices h : ∀ w, .bare w ∈ lexemes s → w.length ≤ s.length from
    fun w hw _ => (h w hw).trans hs
  clear hs
  intro w hw
  induction s using lexemes.induct with
  | case1 => simp [lexemes] at hw
  | case2 c rest hc ih =>
      have := ih (by rwa [lexemes_blank hc] at hw)
      simp only [List.length_cons]; omega
  | case3 c rest hc l' rest' hr hle ih =>
      rw [lexemes_some (by simpa using hc) hr, List.mem_cons] at hw
      rcases hw with rfl | hw
      · exact readLexeme?_bare_length hr
      · have := ih hw
        simp only [List.length_cons]; omega
  | case4 c rest _ hr ih =>
      have := ih (by rwa [lexemes_none hr] at hw)
      simp only [List.length_cons]; omega

/-- A word is a connective, a number or a word. -/
theorem wordToken_kind {w : List Char} {t : Token} (h : wordToken w = .ok t) :
    t.kind ∈ [Kind.and, .or, .number, .word] := by
  unfold wordToken at h
  split at h
  · cases h; simp [Token.kind]
  · split at h
    · cases h; simp [Token.kind]
    · split at h
      · cases hm : Text.parseMagnitude w <;> rw [hm] at h <;> cases h
        simp [Token.kind]
      · cases h; simp [Token.kind]

theorem wordToken_ne_eof {w : List Char} {t : Token} (h : wordToken w = .ok t) : t ≠ .eof := by
  rintro rfl
  exact absurd (wordToken_kind h) (by decide)

theorem Lexeme.token_ne_eof {s : List Char} {l : Lexeme} {t : Token} (hl : l ∈ lexemes s)
    (ht : l.token = .ok t) : t ≠ .eof := by
  obtain ⟨c, rest, rest', hr⟩ := mem_lexemes hl
  rcases readLexeme?_sort hr with ⟨u, rfl, hu⟩ | ⟨body, rfl⟩ | ⟨w, rfl, -⟩
  · cases ht; exact hu
  · cases ht; simp
  · exact wordToken_ne_eof ht

theorem wordToken_ok {w : List Char} (hne : w ≠ [])
    (hfit : w.all Char.isDigit → w.length ≤ Text.digitLimit) : ∃ t, wordToken w = .ok t := by
  unfold wordToken
  split
  · exact ⟨_, rfl⟩
  · split
    · exact ⟨_, rfl⟩
    · split
      · rename_i hd
        rw [Text.parseMagnitude_digits (by simpa using hd) hne (hfit hd)]
        exact ⟨_, rfl⟩
      · exact ⟨_, rfl⟩

theorem Lexeme.token_ok {s : List Char} (hfit : NumbersFit s) {l : Lexeme} (hl : l ∈ lexemes s) :
    ∃ t, l.token = .ok t := by
  obtain ⟨c, rest, rest', hr⟩ := mem_lexemes hl
  rcases readLexeme?_sort hr with ⟨t, rfl, -⟩ | ⟨body, rfl⟩ | ⟨w, rfl, hne⟩
  · exact ⟨t, rfl⟩
  · exact ⟨_, rfl⟩
  · exact wordToken_ok hne (hfit w hl)

/-- No lexeme of a text stands for the end token. -/
theorem eof_notMem_tokens {s : List Char} {tokens : List Token}
    (h : (lexemes s).mapM Lexeme.token = .ok tokens) : .eof ∉ tokens := by
  have hne : ∀ l ∈ lexemes s, ∀ t, l.token = .ok t → t ≠ .eof :=
    fun l hl t ht => Lexeme.token_ne_eof hl ht
  revert h hne
  generalize lexemes s = ls
  intro h hne
  induction ls generalizing tokens with
  | nil => cases h; simp
  | cons l ls ih =>
      obtain ⟨t, rest, ht, hrest, rfl⟩ := mapM_cons_ok.1 h
      have htail := ih hrest fun l' hl' => hne l' (by simp [hl'])
      simp [(hne l (by simp) t ht).symm, htail]

theorem tokenize_of_ok {s : String} {tokens : List Token}
    (h : (lexemes s.toList).mapM Lexeme.token = .ok tokens) :
    tokenize s = .ok (tokens ++ [.eof]) := by
  rw [tokenize, h]
  rfl

theorem tokenize_of_error {s : String} {e : Text.NumeralFault}
    (h : (lexemes s.toList).mapM Lexeme.token = .error e) : tokenize s = .error e := by
  rw [tokenize, h]
  rfl

/-- A text whose numbers fit has tokens, and the end token is the last one only. -/
theorem tokenize_ok {s : String} (hfit : NumbersFit s.toList) :
    ∃ tokens, tokenize s = .ok (tokens ++ [.eof]) ∧ .eof ∉ tokens := by
  obtain ⟨tokens, hts⟩ := exists_mapM_ok fun l hl => Lexeme.token_ok hfit hl
  exact ⟨tokens, tokenize_of_ok hts, eof_notMem_tokens hts⟩

/-! ## Two texts put together -/

/-- The quotes that the scan of a text meets outside a string and that have no partner. -/
def openQuotes (s : List Char) : List Char :=
  match s with
  | [] => []
  | c :: rest =>
    if isQuote c then
      match h : Text.cutFirst? c rest with
      | some (_, rest') =>
        have := cutFirst?_rest h
        openQuotes rest'
      | none => c :: openQuotes rest
    else openQuotes rest
termination_by s.length
decreasing_by all_goals simp <;> omega

/-- No lexeme reaches into a text: its first character continues neither a word nor a sign. -/
def Breaks (b : List Char) : Prop :=
  ∀ c, b.head? = some c → isWordChar c = false ∧ c ≠ '=' ∧ c ≠ '&' ∧ c ≠ '|'

theorem readSign?_append {b : List Char} (hb : Breaks b) (c : Char) (rest : List Char) :
    readSign? (c :: rest ++ b) = (readSign? (c :: rest)).map fun (t, r) => (t, r ++ b) := by
  rcases rest with _ | ⟨d, rest⟩
  · rcases b with _ | ⟨d, b⟩
    · simp
    · obtain ⟨-, h1, h2, h3⟩ := hb d rfl
      simp only [List.cons_append, List.nil_append]
      unfold readSign?
      split <;> simp_all
  · simp only [List.cons_append]
    unfold readSign?
    split
    -- A sign that is the start of a longer one: the next character is not what makes it longer.
    case h_9 | h_10 | h_11 | h_13 =>
      rename_i rest' hne heq
      obtain ⟨rfl, rfl⟩ := List.cons.inj heq
      have hd : d ≠ '=' := by rintro rfl; exact hne _ rfl
      simp [hd]
    all_goals simp_all

theorem Breaks.isWordChar {b : List Char} (hb : Breaks b) :
    ∀ c, b.head? = some c → isWordChar c = false :=
  fun c hc => (hb c hc).1

/-- What is read at a place is read there also with more text behind, unless it is a quote that
finds its partner in that text. -/
theorem readLexeme?_append {b : List Char} (hb : Breaks b) {c : Char} {rest : List Char}
    (ho : isQuote c → c ∉ rest → c ∉ b) :
    readLexeme? c (rest ++ b) = (readLexeme? c rest).map fun (l, r) => (l, r ++ b) := by
  have hs := readSign?_append hb c rest
  rw [List.cons_append] at hs
  unfold readLexeme?
  rw [hs]
  cases readSign? (c :: rest) with
  | some x => rfl
  | none =>
      simp only [Option.map_none]
      by_cases hq : isQuote c
      · simp only [hq, ↓reduceIte]
        cases hcut : Text.cutFirst? c rest with
        | some x =>
            obtain ⟨body, rest'⟩ := x
            rw [Text.cutFirst?_append hcut]
            rfl
        | none =>
            have hc := Text.cutFirst?_eq_none_iff.1 hcut
            rw [Text.cutFirst?_eq_none_iff.2 (by simp [hc, ho hq hc])]
            rfl
      · simp only [hq, Bool.false_eq_true, ↓reduceIte]
        split
        · rw [Text.takeWhile_append_stop hb.isWordChar, Text.dropWhile_append_stop hb.isWordChar]
          rfl
        · rfl

/-! ## Open quotes -/

theorem openQuotes_some {c : Char} {rest body rest' : List Char} (hq : isQuote c)
    (h : Text.cutFirst? c rest = some (body, rest')) :
    openQuotes (c :: rest) = openQuotes rest' := by
  rw [openQuotes, if_pos hq]
  split
  · rename_i h'
    rw [h] at h'
    cases h'
    rfl
  · rename_i h'
    rw [h] at h'
    cases h'

theorem openQuotes_none {c : Char} {rest : List Char} (hq : isQuote c) (hc : c ∉ rest) :
    openQuotes (c :: rest) = c :: openQuotes rest := by
  have h := Text.cutFirst?_eq_none_iff.2 hc
  rw [openQuotes, if_pos hq]
  split
  · rename_i h'
    rw [h] at h'
    cases h'
  · rfl

theorem openQuotes_other {c : Char} {rest : List Char} (hq : isQuote c = false) :
    openQuotes (c :: rest) = openQuotes rest := by
  rw [openQuotes, if_neg (by simp [hq])]

/-- A run without quotes leaves none open. -/
theorem openQuotes_append {a : List Char} (ha : ∀ c ∈ a, isQuote c = false) (b : List Char) :
    openQuotes (a ++ b) = openQuotes b := by
  induction a with
  | nil => rfl
  | cons c a ih =>
      rw [List.cons_append, openQuotes_other (ha c (by simp))]
      exact ih fun d hd => ha d (by simp [hd])

theorem isQuote_of_mem_openQuotes {s : List Char} {c : Char} (hc : c ∈ openQuotes s) :
    isQuote c := by
  induction s using openQuotes.induct with
  | case1 => simp [openQuotes] at hc
  | case2 d rest hd body rest' hcut _ ih => exact ih (by rwa [openQuotes_some hd hcut] at hc)
  | case3 d rest hd hcut ih =>
      rw [openQuotes_none hd (Text.cutFirst?_eq_none_iff.1 hcut), List.mem_cons] at hc
      rcases hc with rfl | hc
      · exact hd
      · exact ih hc
  | case4 d rest hd ih => exact ih (by rwa [openQuotes_other (by simpa using hd)] at hc)

theorem readSign?_consumes {c : Char} {rest rest' : List Char} {t : Token}
    (h : readSign? (c :: rest) = some (t, rest')) :
    ∃ sign, c :: rest = sign ++ rest' ∧ ∀ d ∈ sign, isQuote d = false := by
  unfold readSign? at h
  split at h <;> cases h
  case h_3 | h_4 | h_5 | h_6 | h_7 | h_8 =>
    rename_i hs
    exact ⟨[_, _], hs, by decide⟩
  all_goals
    rename_i hs
    exact ⟨[_], hs, by decide⟩

/-- Reading a lexeme leaves the open quotes as they were. -/
theorem openQuotes_readLexeme? {c : Char} {rest rest' : List Char} {l : Lexeme}
    (h : readLexeme? c rest = some (l, rest')) : openQuotes (c :: rest) = openQuotes rest' := by
  unfold readLexeme? at h
  split at h
  · rename_i t r hs
    cases h
    obtain ⟨sign, hsign, hq⟩ := readSign?_consumes hs
    rw [hsign, openQuotes_append hq]
  · split at h
    · rename_i hq
      obtain ⟨⟨body, r⟩, hcut, he⟩ := Option.map_eq_some_iff.1 h
      cases he
      exact openQuotes_some hq hcut
    · rename_i hq
      split at h
      · cases h
        rw [openQuotes_other (by simpa using hq)]
        have hword : ∀ d ∈ rest.takeWhile isWordChar, isQuote d = false :=
          fun d hd => isQuote_of_isWordChar (List.mem_takeWhile_imp hd)
        have happend := openQuotes_append hword (rest.dropWhile isWordChar)
        rwa [List.takeWhile_append_dropWhile] at happend
      · cases h

/-- The scan of two texts put together is the two scans put together, where no lexeme reaches over
the seam and no quote left open in the first text is met in the second. -/
theorem lexemes_append {b : List Char} (hb : Breaks b) {a : List Char}
    (ho : ∀ c ∈ openQuotes a, c ∉ b) : lexemes (a ++ b) = lexemes a ++ lexemes b := by
  have hopen : ∀ {c : Char} {rest : List Char}, (∀ d ∈ openQuotes (c :: rest), d ∉ b) →
      isQuote c → c ∉ rest → c ∉ b := by
    intro c rest ho hq hc
    exact ho c (by simp [openQuotes_none hq hc])
  induction a using lexemes.induct with
  | case1 => simp [lexemes]
  | case2 c rest hc ih =>
      rw [openQuotes_other (isQuote_of_isBlank hc)] at ho
      rw [List.cons_append, lexemes_blank hc, lexemes_blank hc, ih ho]
  | case3 c rest hc l rest' hr _ ih =>
      have hc' : Text.isBlank c = false := by simpa using hc
      have hr' : readLexeme? c (rest ++ b) = some (l, rest' ++ b) := by
        rw [readLexeme?_append hb (hopen ho), hr]
        rfl
      rw [openQuotes_readLexeme? hr] at ho
      rw [List.cons_append, lexemes_some hc' hr', lexemes_some hc' hr, ih ho, List.cons_append]
  | case4 c rest hc hr ih =>
      have hr' : readLexeme? c (rest ++ b) = none := by
        rw [readLexeme?_append hb (hopen ho), hr]
        rfl
      have ho' : ∀ d ∈ openQuotes rest, d ∉ b := by
        intro d hd
        apply ho d
        by_cases hq : isQuote c
        · rw [readLexeme?_quote hq, Option.map_eq_none_iff, Text.cutFirst?_eq_none_iff] at hr
          simp [openQuotes_none hq hr, hd]
        · rwa [openQuotes_other (by simpa using hq)]
      rw [List.cons_append, lexemes_none hr', lexemes_none hr, ih ho']

end SocketInventory.Query
