import SocketInventory.Proofs.Text.Lines
import SocketInventory.Query.Token

/-!
# Single lexemes

One step of the scanner, and what it reads where a text goes on with a sign, with a quoted text or
with a word.
-/

namespace SocketInventory.Query

/-! ## One step -/

theorem lexemes_blank {c : Char} {rest : List Char} (hc : Text.isBlank c) :
    lexemes (c :: rest) = lexemes rest := by
  rw [lexemes, if_pos hc]

theorem lexemes_some {c : Char} {rest rest' : List Char} {l : Lexeme}
    (hc : Text.isBlank c = false) (hr : readLexeme? c rest = some (l, rest')) :
    lexemes (c :: rest) = l :: lexemes rest' := by
  rw [lexemes, if_neg (by simp [hc])]
  split
  · rename_i h
    rw [hr] at h
    cases h
    rfl
  · rename_i h
    rw [hr] at h
    cases h

theorem lexemes_none {c : Char} {rest : List Char} (hr : readLexeme? c rest = none) :
    lexemes (c :: rest) = lexemes rest := by
  rw [lexemes]
  split
  · rfl
  · split
    · rename_i h
      rw [hr] at h
      cases h
    · rfl

theorem lexemes_blanks {gap : List Char} (hg : ∀ c ∈ gap, Text.isBlank c) (rest : List Char) :
    lexemes (gap ++ rest) = lexemes rest := by
  induction gap with
  | nil => rfl
  | cons c gap ih =>
      rw [List.cons_append, lexemes_blank (hg c (by simp))]
      exact ih fun d hd => hg d (by simp [hd])

/-- Every lexeme of a text was read somewhere in it. -/
theorem mem_lexemes {s : List Char} {l : Lexeme} (hl : l ∈ lexemes s) :
    ∃ c rest rest', readLexeme? c rest = some (l, rest') := by
  induction s using lexemes.induct with
  | case1 => simp [lexemes] at hl
  | case2 c rest hc ih => exact ih (by rwa [lexemes_blank hc] at hl)
  | case3 c rest hc l' rest' hr _ ih =>
      rw [lexemes_some (by simpa using hc) hr, List.mem_cons] at hl
      rcases hl with rfl | hl
      · exact ⟨c, rest, rest', hr⟩
      · exact ih hl
  | case4 c rest _ hr ih => exact ih (by rwa [lexemes_none hr] at hl)

/-! ## Quotes and words -/

theorem isQuote_of_isBlank {c : Char} (hc : Text.isBlank c) : isQuote c = false := by
  by_contra h
  simp only [isQuote, Bool.not_eq_false, Bool.or_eq_true, beq_iff_eq] at h
  rcases h with rfl | rfl <;> exact absurd hc (by decide)

theorem isQuote_of_isWordChar {c : Char} (hc : isWordChar c) : isQuote c = false := by
  by_contra h
  simp only [isQuote, Bool.not_eq_false, Bool.or_eq_true, beq_iff_eq] at h
  rcases h with rfl | rfl <;> exact absurd hc (by decide)

/-- A word that the scanner takes for one lexeme. -/
inductive IsWord : List Char → Prop
  | intro {c : Char} {w : List Char} (hc : isWordStart c) (hw : ∀ d ∈ w, isWordChar d) :
      IsWord (c :: w)

theorem isWord_of_isAlphanum {w : List Char} (hw : ∀ c ∈ w, c.isAlphanum) (hne : w ≠ []) :
    IsWord w := by
  have hstart : ∀ c ∈ w, isWordStart c := fun c hc => by simp [isWordStart, hw c hc]
  obtain ⟨c, w, rfl⟩ := List.exists_cons_of_ne_nil hne
  refine .intro (hstart c (by simp)) fun d hd => ?_
  simp [isWordChar, hstart d (by simp [hd])]

theorem isAlphanum_of_toUpper {c : Char} (h : c.toUpper.isAlphanum) : c.isAlphanum := by
  by_cases hl : c.isLower
  · simp [Char.isAlphanum, Char.isAlpha, hl]
  · rwa [Char.toUpper_eq_of_not_isLower hl] at h

/-- A keyword in any case is a word. -/
theorem isWord_of_toUpper {w keyword : List Char} (hw : w.map Char.toUpper = keyword)
    (hk : ∀ c ∈ keyword, c.isAlphanum) (hne : keyword ≠ []) : IsWord w := by
  subst hw
  refine isWord_of_isAlphanum (fun c hc => ?_) (by simpa using hne)
  exact isAlphanum_of_toUpper (hk _ (List.mem_map_of_mem hc))

theorem isWord_of_digits {w : List Char} (hw : ∀ c ∈ w, c.isDigit) (hne : w ≠ []) : IsWord w :=
  isWord_of_isAlphanum (fun c hc => by simp [Char.isAlphanum, hw c hc]) hne

theorem isWordChar_of_isWordStart {c : Char} (hc : isWordStart c) : isWordChar c := by
  simp [isWordChar, hc]

theorem isWordStart_of_isQuote {c : Char} (hc : isQuote c) : isWordStart c = false := by
  by_contra h
  have hword := isWordChar_of_isWordStart (c := c) (by simpa using h)
  simp [isQuote_of_isWordChar hword] at hc

theorem isWordChar_range {c : Char} (hc : isWordChar c) : 0x2A ≤ c.toNat ∧ c.toNat < 0x80 := by
  simp only [isWordChar, isWordStart, Char.isAlphanum, Char.isAlpha, Char.isUpper, Char.isLower,
    Char.isDigit, Bool.or_eq_true, Bool.and_eq_true, decide_eq_true_eq, beq_iff_eq,
    UInt32.le_iff_toNat_le, ge_iff_le] at hc
  have hn : c.toNat = c.val.toNat := rfl
  rcases hc with (((hc | rfl) | rfl) | rfl) | rfl
  · change (((65 ≤ c.val.toNat ∧ c.val.toNat ≤ 90) ∨ (97 ≤ c.val.toNat ∧ c.val.toNat ≤ 122)) ∨
      (48 ≤ c.val.toNat ∧ c.val.toNat ≤ 57)) at hc
    omega
  all_goals decide

theorem isBlank_of_isWordChar {c : Char} (hc : isWordChar c) : Text.isBlank c = false := by
  obtain ⟨hlo, hhi⟩ := isWordChar_range hc
  simp only [Text.isBlank, Text.CodePoints.has, Text.blanks]
  simp
  omega

theorem isWordChar_of_isBlank {c : Char} (hc : Text.isBlank c) : isWordChar c = false := by
  by_contra hword
  simp [isBlank_of_isWordChar (by simpa using hword)] at hc

/-- The characters that signs start with. -/
def signStarts : List Char := ['(', ')', '&', '|', '!', '>', '<', '=', ':']

theorem readSign?_eq_none {c : Char} (hc : c ∉ signStarts) (rest : List Char) :
    readSign? (c :: rest) = none := by
  unfold readSign?
  split
  case h_14 => rfl
  all_goals
    rename_i h
    cases h
    exact absurd (by decide) hc

theorem readSign?_of_isWordStart {c : Char} (hc : isWordStart c) (rest : List Char) :
    readSign? (c :: rest) = none := by
  have hsigns : ∀ d ∈ signStarts, isWordStart d = false := by decide
  refine readSign?_eq_none (fun h => ?_) rest
  rw [hsigns c h] at hc
  cases hc

/-! ## Reading a lexeme -/

theorem readLexeme?_quote {c : Char} (hq : isQuote c) (rest : List Char) :
    readLexeme? c rest = (Text.cutFirst? c rest).map fun (body, r) => (.quoted body, r) := by
  have hs : readSign? (c :: rest) = none := by
    simp only [isQuote, Bool.or_eq_true, beq_iff_eq] at hq
    rcases hq with rfl | rfl <;> simp [readSign?]
  simp only [readLexeme?, hs, hq, ↓reduceIte]

theorem lexemes_sign {c : Char} {rest rest' : List Char} {t : Token} (hc : Text.isBlank c = false)
    (h : readSign? (c :: rest) = some (t, rest')) :
    lexemes (c :: rest) = .sign t :: lexemes rest' :=
  lexemes_some hc (by simp only [readLexeme?, h])

theorem lexemes_quoted {q : Char} {body : List Char} (hq : isQuote q) (hb : q ∉ body)
    (rest : List Char) :
    lexemes (q :: (body ++ q :: rest)) = .quoted body :: lexemes rest := by
  refine lexemes_some ?_ ?_
  · cases hblank : Text.isBlank q with
    | false => rfl
    | true => rw [isQuote_of_isBlank hblank] at hq; cases hq
  · rw [readLexeme?_quote hq, Text.cutFirst?_mid hb]
    rfl

theorem lexemes_word {w rest : List Char} (hw : IsWord w)
    (hrest : ∀ c, rest.head? = some c → isWordChar c = false) :
    lexemes (w ++ rest) = .bare w :: lexemes rest := by
  obtain @⟨c, w, hc, hw⟩ := hw
  have hword : isWordChar c := isWordChar_of_isWordStart hc
  refine lexemes_some (isBlank_of_isWordChar hword) ?_
  have htake : (w ++ rest).takeWhile isWordChar = w := by
    rw [Text.takeWhile_append_stop hrest, List.takeWhile_eq_self_iff]
    exact hw
  have hdrop : (w ++ rest).dropWhile isWordChar = rest := by
    rw [Text.dropWhile_append_stop hrest, List.dropWhile_eq_nil_iff.2 hw, List.nil_append]
  simp [readLexeme?, readSign?_of_isWordStart hc, isQuote_of_isWordChar hword, hc, htake, hdrop]

end SocketInventory.Query
