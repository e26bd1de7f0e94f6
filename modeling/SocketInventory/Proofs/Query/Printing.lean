import SocketInventory.Proofs.Query.Acceptance
import SocketInventory.Proofs.Query.Answers
import SocketInventory.Proofs.Query.Meaning

/-!
# Printed queries

The ways of writing a sequence of tokens as a text: any spelling of each, behind any gap of blanks,
bare words kept apart by a gap that is not empty. Unless a numeral has too many digits, the scanner
reads the sequence back wherever no operator stands right behind an operator or a negation, which is
so for the tokens of every derivation.
-/

namespace SocketInventory.Query

/-! ## Spellings -/

/-- The spellings of a token. A numeral may have any number of leading zeros. -/
inductive Spells : List Char → Token → Prop
  | lparen : Spells ['('] .lparen
  | rparen : Spells [')'] .rparen
  | andSign : Spells ['&', '&'] .and
  | andWord {w : List Char} (hw : w.map Char.toUpper = ['A', 'N', 'D']) : Spells w .and
  | orSign : Spells ['|', '|'] .or
  | orWord {w : List Char} (hw : w.map Char.toUpper = ['O', 'R']) : Spells w .or
  | not : Spells ['!'] .not
  | equals : Spells ['='] (.op .eq)
  | equalsTwice : Spells ['=', '='] (.op .eq)
  | colon : Spells [':'] (.op .eq)
  | ne : Spells ['!', '='] (.op .ne)
  | lt : Spells ['<'] (.op .lt)
  | gt : Spells ['>'] (.op .gt)
  | le : Spells ['<', '='] (.op .le)
  | ge : Spells ['>', '='] (.op .ge)
  | quoted {q : Char} {body : List Char} (hq : isQuote q) (hb : q ∉ body) :
      Spells (q :: (body ++ [q])) (.string (String.ofList body))
  | number {w : List Char} (hw : ∀ c ∈ w, c.isDigit) (hne : w ≠ []) :
      Spells w (.number (Nat.ofDigitChars 10 w 0))
  | word {w : List Char} (hw : IsWord w) (ha : w.map Char.toUpper ≠ ['A', 'N', 'D'])
      (ho : w.map Char.toUpper ≠ ['O', 'R']) (hd : w.all Char.isDigit = false) :
      Spells w (.word (String.ofList w))

/-- The spelling is a bare word. -/
def isBare (w : List Char) : Bool := w.head?.any isWordStart

/-- A text that writes a sequence of tokens; `bare` tells whether a bare word comes before it. -/
inductive Written : Bool → List Token → List Char → Prop
  | nil {bare : Bool} {gap : List Char} (hg : ∀ c ∈ gap, Text.isBlank c) : Written bare [] gap
  | cons {bare : Bool} {gap w s : List Char} {t : Token} {tokens : List Token}
      (hg : ∀ c ∈ gap, Text.isBlank c) (hw : Spells w t)
      (hsep : bare → isBare w → gap ≠ []) (hs : Written (isBare w) tokens s) :
      Written bare (t :: tokens) (gap ++ (w ++ s))

/-! ## Reading a text -/

/-- The token may stand behind the other: an operator stands neither behind an operator nor behind
a negation. -/
def Follows (t u : Token) : Prop := t.kind = .op ∨ t.kind = .not → u.kind ≠ .op

theorem Spells.head {w : List Char} {t : Token} (h : Spells w t) :
    ∃ c rest, w = c :: rest ∧ (isWordChar c → isWordStart c) ∧ (c = '=' → t.kind = .op) := by
  have hword : ∀ w : List Char, IsWord w →
      ∃ c rest, w = c :: rest ∧ (isWordChar c → isWordStart c) ∧ (c = '=' → t.kind = .op) := by
    rintro - @⟨c, w, hc, hw⟩
    refine ⟨c, w, rfl, fun _ => hc, ?_⟩
    rintro rfl
    exact absurd hc (by decide)
  cases h with
  | andWord hw => exact hword _ (isWord_of_toUpper hw (by decide) (by simp))
  | orWord hw => exact hword _ (isWord_of_toUpper hw (by decide) (by simp))
  | number hw hne => exact hword _ (isWord_of_digits hw hne)
  | word hw _ _ _ => exact hword _ hw
  | quoted hq hb =>
      refine ⟨_, _, rfl, fun hc => ?_, ?_⟩
      · simp [isQuote_of_isWordChar hc] at hq
      · rintro rfl
        exact absurd hq (by decide)
  | _ => exact ⟨_, _, rfl, by decide, by decide⟩

theorem isBare_of_isWord {w : List Char} (hw : IsWord w) : isBare w := by
  obtain ⟨hc, -⟩ := hw
  simp [isBare, hc]

theorem toUpper_of_isDigit {c : Char} (hc : c.isDigit) : c.toUpper = c := by
  apply Char.toUpper_eq_of_not_isLower
  intro hl
  simp only [Char.isDigit, Char.isLower, Bool.and_eq_true, decide_eq_true_eq] at hc hl
  exact absurd (UInt32.le_trans hl.1 hc.2) (by decide)

theorem map_toUpper_digits {w : List Char} (hw : ∀ c ∈ w, c.isDigit) : w.map Char.toUpper = w :=
  (List.map_congr_left fun c hc => toUpper_of_isDigit (hw c hc)).trans (List.map_id w)

theorem wordToken_digits {w : List Char} (hw : ∀ c ∈ w, c.isDigit) :
    Query.wordToken w = (Text.parseMagnitude w).map .number := by
  have hletter : ∀ c ∈ ['A', 'O'], ∀ rest, w.map Char.toUpper ≠ c :: rest := by
    intro c hc rest hmap
    rw [map_toUpper_digits hw] at hmap
    subst hmap
    have hd := hw c (by simp)
    simp only [List.mem_cons, List.not_mem_nil, or_false] at hc
    rcases hc with rfl | rfl <;> exact absurd hd (by decide)
  have hall : w.all Char.isDigit := by simpa using hw
  rw [Query.wordToken, if_neg (hletter 'A' (by simp) _), if_neg (hletter 'O' (by simp) _),
    if_pos hall]

/-- The lexeme is no number of more digits than can be read. -/
def Lexeme.Fits (l : Lexeme) : Prop :=
  ∀ w, l = .bare w → w.all Char.isDigit → w.length ≤ Text.digitLimit

theorem numbersFit_iff {s : List Char} : NumbersFit s ↔ ∀ l ∈ lexemes s, l.Fits :=
  ⟨fun h _ hl w hw => h w (hw ▸ hl), fun h w hw => h _ hw w rfl⟩

/-- The lexeme stands for the token if it fits, and it does unless the token is a number. -/
structure Lexeme.StandsFor (l : Lexeme) (t : Token) : Prop where
  token : l.Fits → l.token = .ok t
  fits : t.kind ≠ .number → l.Fits

theorem standsFor_of_token {l : Lexeme} {t : Token} (h : l.token = .ok t) (hl : ∀ w, l ≠ .bare w) :
    l.StandsFor t :=
  ⟨fun _ => h, fun _ w hw => absurd hw (hl w)⟩

/-- Every spelling of a word stands for its token. -/
theorem Spells.wordToken {w : List Char} {t : Token} (h : Spells w t) (hw : IsWord w)
    (hfit : w.all Char.isDigit → w.length ≤ Text.digitLimit) : Query.wordToken w = .ok t := by
  cases h with
  | andWord ha => simp [Query.wordToken, ha]
  | orWord ho => simp [Query.wordToken, ho]
  | number hd hne =>
      rw [wordToken_digits hd, Text.parseMagnitude_digits hd hne (hfit (by simpa using hd))]
      rfl
  | word _ ha ho hd => simp [Query.wordToken, ha, ho, hd]
  | quoted hq _ =>
      obtain ⟨hc, -⟩ := hw
      simp [isWordStart_of_isQuote hq] at hc
  | _ =>
      obtain ⟨hc, -⟩ := hw
      exact absurd hc (by decide)

theorem Spells.standsFor {w : List Char} {t : Token} (h : Spells w t) (hw : IsWord w) :
    Lexeme.StandsFor (.bare w) t where
  token hfit := h.wordToken hw (hfit w rfl)
  fits ht := by
    rintro _ ⟨⟩ hdigits
    have hupper := map_toUpper_digits (w := w) (by simpa using hdigits)
    cases h with
    | andWord ha =>
        rw [← hupper, ha] at hdigits
        exact absurd hdigits (by decide)
    | orWord ho =>
        rw [← hupper, ho] at hdigits
        exact absurd hdigits (by decide)
    | number => exact absurd rfl ht
    | word _ _ _ hd => simp [hd] at hdigits
    | quoted hq _ =>
        obtain ⟨hc, -⟩ := hw
        simp [isWordStart_of_isQuote hq] at hc
    | _ =>
        obtain ⟨hc, -⟩ := hw
        exact absurd hc (by decide)

theorem Spells.isWord {w : List Char} {t : Token} (h : Spells w t) (hw : isBare w) : IsWord w := by
  cases h with
  | andWord ha => exact isWord_of_toUpper ha (by decide) (by simp)
  | orWord ho => exact isWord_of_toUpper ho (by decide) (by simp)
  | number hd hne => exact isWord_of_digits hd hne
  | word hw _ _ _ => exact hw
  | quoted hq _ => simp [isBare, isWordStart_of_isQuote hq] at hw
  | _ => exact absurd hw (by decide)

/-- A spelling is read as a lexeme that stands for its token. -/
theorem Spells.lexemes {w rest : List Char} {t : Token} (h : Spells w t)
    (hbare : isBare w → ∀ c, rest.head? = some c → isWordChar c = false)
    (hsign : t.kind = .op ∨ t.kind = .not → rest.head? ≠ some '=') :
    ∃ l, Query.lexemes (w ++ rest) = l :: Query.lexemes rest ∧ l.StandsFor t := by
  cases hw : isBare w with
  | true =>
      have hword := h.isWord hw
      exact ⟨.bare w, lexemes_word hword (hbare hw), h.standsFor hword⟩
  | false =>
      have hnot : ¬ IsWord w := fun hword => by simp [isBare_of_isWord hword] at hw
      cases h with
      | andWord ha => exact absurd (isWord_of_toUpper ha (by decide) (by simp)) hnot
      | orWord ho => exact absurd (isWord_of_toUpper ho (by decide) (by simp)) hnot
      | number hd hne => exact absurd (isWord_of_digits hd hne) hnot
      | word hword _ _ _ => exact absurd hword hnot
      | @quoted q body hq hb =>
          refine ⟨.quoted body, ?_, standsFor_of_token rfl (by rintro w ⟨⟩)⟩
          rw [List.cons_append, List.append_assoc]
          exact lexemes_quoted hq hb rest
      | not | equals | lt | gt =>
          have he := hsign (by simp [Token.kind])
          refine ⟨.sign _, lexemes_sign (by decide) ?_, standsFor_of_token rfl (by rintro w ⟨⟩)⟩
          rcases rest with _ | ⟨d, rest⟩
          · rfl
          · have hd : d ≠ '=' := by simpa using he
            simp [readSign?, hd]
      | _ =>
          exact ⟨.sign _, lexemes_sign (by decide) rfl, standsFor_of_token rfl (by rintro w ⟨⟩)⟩

theorem Written.head_notWordChar {tokens : List Token} {s : List Char}
    (h : Written true tokens s) : ∀ c, s.head? = some c → isWordChar c = false := by
  intro c hc
  cases h with
  | nil hg => exact isWordChar_of_isBlank (hg c (List.mem_of_mem_head? hc))
  | @cons _ gap w s t tokens hg hw hsep hs =>
      rcases gap with _ | ⟨d, gap⟩
      · have hw' : ¬ isBare w := fun hbare => hsep rfl hbare rfl
        obtain ⟨d, w, rfl, hstart, -⟩ := hw.head
        cases hc
        by_contra hword
        exact hw' (by simpa [isBare] using hstart (by simpa using hword))
      · cases hc
        exact isWordChar_of_isBlank (hg _ (by simp))

theorem Written.head_ne_equals {bare : Bool} {tokens : List Token} {s : List Char}
    (h : Written bare tokens s) (ht : ∀ u, tokens.head? = some u → u.kind ≠ .op) :
    s.head? ≠ some '=' := by
  intro hc
  have hblank : Text.isBlank '=' = false := by decide
  cases h with
  | nil hg => simp [hg _ (List.mem_of_mem_head? hc)] at hblank
  | @cons _ gap w s t tokens hg hw hsep hs =>
      rcases gap with _ | ⟨d, gap⟩
      · obtain ⟨d, w, rfl, -, hop⟩ := hw.head
        cases hc
        exact ht t rfl (hop rfl)
      · cases hc
        simp [hg '=' (by simp)] at hblank

/-- The lexemes of a written sequence stand for its tokens, by induction on the writing: what is
behind a spelling neither continues a word nor makes a sign longer. -/
theorem Written.standsFor {bare : Bool} {tokens : List Token} {s : List Char}
    (h : Written bare tokens s) (hc : tokens.IsChain Follows) :
    List.Forall₂ Lexeme.StandsFor (lexemes s) tokens := by
  induction h with
  | nil hg =>
      have hnil := lexemes_blanks hg []
      rw [List.append_nil] at hnil
      rw [hnil, lexemes]
      exact .nil
  | @cons bare gap w s t tokens hg hw hsep hs ih =>
      obtain ⟨hfollows, hc⟩ := List.isChain_cons.1 hc
      have hbare : isBare w → ∀ c, s.head? = some c → isWordChar c = false :=
        fun hb => (hb ▸ hs).head_notWordChar
      have hsign : t.kind = .op ∨ t.kind = .not → s.head? ≠ some '=' :=
        fun ht => hs.head_ne_equals fun u hu => hfollows u hu ht
      obtain ⟨l, hl, ht⟩ := hw.lexemes hbare hsign
      rw [lexemes_blanks hg, hl]
      exact .cons ht (ih hc)

theorem mapM_token_of_standsFor {ls : List Lexeme} {tokens : List Token}
    (h : List.Forall₂ Lexeme.StandsFor ls tokens) (hfit : ∀ l ∈ ls, l.Fits) :
    ls.mapM Lexeme.token = .ok tokens := by
  induction h with
  | nil => rfl
  | cons ht _ ih =>
      obtain ⟨hl, hls⟩ := List.forall_mem_cons.1 hfit
      rw [List.mapM_cons, ht.token hl, ih hls]
      rfl

/-- Without numbers, everything fits. -/
theorem fits_of_standsFor {ls : List Lexeme} {tokens : List Token}
    (h : List.Forall₂ Lexeme.StandsFor ls tokens) (hn : ∀ t ∈ tokens, t.kind ≠ .number) :
    ∀ l ∈ ls, l.Fits := by
  induction h with
  | nil => simp
  | cons ht _ ih =>
      obtain ⟨hnt, hnts⟩ := List.forall_mem_cons.1 hn
      exact List.forall_mem_cons.2 ⟨ht.fits hnt, ih hnts⟩

/-! ## The tokens of a derivation -/

theorem Factor.head_tokens (f : Factor) {u : Token} (hu : f.tokens.head? = some u) :
    u.kind ≠ .op := by
  cases f <;> cases hu <;> simp [Token.kind]

theorem follows_of_kind {t : Token} (ho : t.kind ≠ .op) (hn : t.kind ≠ .not) (u : Token) :
    Follows t u := by
  rintro (h | h)
  · exact absurd h ho
  · exact absurd h hn

theorem isChain_join {a b : List Token} {t : Token} (ha : a.IsChain Follows)
    (hb : b.IsChain Follows) (ho : t.kind ≠ .op) (hn : t.kind ≠ .not) :
    (a ++ t :: b).IsChain Follows := by
  refine List.isChain_append.2 ⟨ha, List.isChain_cons.2 ⟨?_, hb⟩, ?_⟩
  · intro u _
    exact follows_of_kind ho hn u
  · intro x _ u hu _
    cases hu
    exact ho

mutual
theorem Disjunction.isChain_tokens : (d : Disjunction) → d.tokens.IsChain Follows
  | .last c => by simpa only [Disjunction.tokens] using c.isChain_tokens
  | .or c d => isChain_join c.isChain_tokens d.isChain_tokens (by decide) (by decide)

theorem Conjunction.isChain_tokens : (c : Conjunction) → c.tokens.IsChain Follows
  | .last f => by simpa only [Conjunction.tokens] using f.isChain_tokens
  | .and f c => isChain_join f.isChain_tokens c.isChain_tokens (by decide) (by decide)

theorem Factor.isChain_tokens : (f : Factor) → f.tokens.IsChain Follows
  | .group d => by
      refine List.isChain_cons.2 ⟨fun u _ => follows_of_kind (by decide) (by decide) u, ?_⟩
      exact isChain_join d.isChain_tokens (by simp) (by decide) (by decide)
  | .not f => List.isChain_cons.2 ⟨fun u hu _ => f.head_tokens hu, f.isChain_tokens⟩
  | .comparison field op operand => by
      cases operand <;> simp [Factor.tokens, Follows, Operand.token, Token.kind]
end

/-! ## Numerals that are too long -/

/-- A comparison with a numeral of more digits than the limit is refused, whatever the value. -/
theorem parse_overlong {field w : List Char} {v : String} (hf : Spells field (.word v))
    (hfield : IsWord field) (hw : ∀ c ∈ w, c.isDigit) (hl : Text.digitLimit < w.length) :
    Query.parse (String.ofList (field ++ '=' :: w)) =
      .error (.badNumeral (String.ofList (field ++ '=' :: w)) (.tooLong w.length)) := by
  have hne : w ≠ [] := by
    rintro rfl
    simp at hl
  have hword := isWord_of_digits hw hne
  have hsign : readSign? ('=' :: w) = some (.op .eq, w) := by
    obtain @⟨c, w, hc, -⟩ := hword
    have he : c ≠ '=' := by
      rintro rfl
      exact absurd hc (by decide)
    simp [readSign?, he]
  have hlexemes : lexemes (field ++ '=' :: w) = [.bare field, .sign (.op .eq), .bare w] := by
    have hvalue := @lexemes_word w [] hword (by simp)
    rw [List.append_nil] at hvalue
    rw [lexemes_word hfield (by simp; decide), lexemes_sign (by decide) hsign, hvalue, lexemes]
  have htoken : wordToken w = .error (.tooLong w.length) := by
    rw [wordToken_digits hw, Text.parseMagnitude_digits_eq hw hne, if_pos hl]
    rfl
  have hname : Query.wordToken field = .ok (.word v) :=
    (hf.standsFor hfield).token ((hf.standsFor hfield).fits (by simp [Token.kind]))
  have htokens : Query.tokenize (String.ofList (field ++ '=' :: w)) =
      .error (.tooLong w.length) := by
    rw [Query.tokenize, String.toList_ofList, hlexemes]
    simp only [List.mapM_cons, Lexeme.token, hname, htoken]
    rfl
  rw [Query.parse, htokens]

theorem wordToken_error {w : List Char} {fault : Text.NumeralFault} (hne : w ≠ [])
    (h : wordToken w = .error fault) :
    Text.digitLimit < w.length ∧ fault = .tooLong w.length := by
  have hbad : ¬ (w.all Char.isDigit → w.length ≤ Text.digitLimit) := by
    intro hfit
    obtain ⟨t, ht⟩ := wordToken_ok hne hfit
    cases ht.symm.trans h
  simp only [Classical.not_imp, not_le] at hbad
  obtain ⟨hdigits, hlong⟩ := hbad
  have hw : ∀ c ∈ w, c.isDigit := by simpa using hdigits
  rw [wordToken_digits hw, Text.parseMagnitude_digits_eq hw hne, if_pos hlong] at h
  cases h
  exact ⟨hlong, rfl⟩

theorem length_of_wordToken_ok {w : List Char} {t : Token} (hne : w ≠ [])
    (hdigits : w.all Char.isDigit) (h : wordToken w = .ok t) : w.length ≤ Text.digitLimit := by
  have hw : ∀ c ∈ w, c.isDigit := by simpa using hdigits
  rw [wordToken_digits hw, Text.parseMagnitude_digits_eq hw hne] at h
  split at h
  · cases h
  · omega

theorem numbersFit_of_tokenize {s : String} {tokens : List Token} (h : tokenize s = .ok tokens) :
    NumbersFit s.toList := by
  obtain ⟨found, hmap, -⟩ := exists_of_bind_ok h
  intro w hw hdigits
  obtain ⟨t, -, ht⟩ := mem_of_mapM_ok hmap hw
  obtain ⟨c, rest, rest', hread⟩ := mem_lexemes hw
  rcases readLexeme?_sort hread with ⟨u, hu, -⟩ | ⟨body, hbody⟩ | ⟨v, hv, hne⟩
  · cases hu
  · cases hbody
  · cases hv
    exact length_of_wordToken_ok hne hdigits ht

/-- Where there are no tokens, a number has too many digits. -/
theorem exists_of_tokenize_error {s : String} {fault : Text.NumeralFault}
    (h : tokenize s = .error fault) : ∃ n, Text.digitLimit < n ∧ fault = .tooLong n := by
  have hmap : (lexemes s.toList).mapM Lexeme.token = .error fault := by
    rw [tokenize] at h
    cases hm : (lexemes s.toList).mapM Lexeme.token with
    | ok tokens => rw [hm] at h; cases h
    | error e =>
        rw [hm] at h
        cases h
        rfl
  obtain ⟨before, l, after, hs, -, hl⟩ := mapM_error_iff.1 hmap
  have hmem : l ∈ lexemes s.toList := by rw [hs]; simp
  obtain ⟨c, rest, rest', hread⟩ := mem_lexemes hmem
  rcases readLexeme?_sort hread with ⟨t, rfl, -⟩ | ⟨body, rfl⟩ | ⟨w, rfl, hne⟩
  · cases hl
  · cases hl
  · exact ⟨w.length, wordToken_error hne hl⟩

theorem parse_of_not_fit {s : String} (h : ¬ NumbersFit s.toList) :
    ∃ n, Text.digitLimit < n ∧ Query.parse s = .error (.badNumeral s (.tooLong n)) := by
  cases ht : tokenize s with
  | ok tokens => exact absurd (numbersFit_of_tokenize ht) h
  | error fault =>
      obtain ⟨n, hn, rfl⟩ := exists_of_tokenize_error ht
      exact ⟨n, hn, by rw [Query.parse, ht]⟩

/-- Leading zeros leave the value of a numeral as it is, yet enough of them make it too long. -/
theorem parse_leadingZeros {n : Nat} (hn : Text.digitLimit ≤ n) :
    let text := ['p', 'i', 'd'] ++ '=' :: (List.replicate n '0' ++ ['1'])
    Written false [.word "pid", .op .eq, .number 1] text ∧
      Query.parse (String.ofList text) =
        .error (.badNumeral (String.ofList text) (.tooLong (n + 1))) := by
  intro text
  have hlength : (List.replicate n '0' ++ ['1']).length = n + 1 := by simp
  have hdigits : ∀ c ∈ List.replicate n '0' ++ ['1'], c.isDigit := by
    intro c hc
    rcases List.mem_append.1 hc with hc | hc
    · rw [List.eq_of_mem_replicate hc]
      decide
    · rw [List.mem_singleton.1 hc]
      decide
  have hvalue : Nat.ofDigitChars 10 (List.replicate n '0' ++ ['1']) 0 = 1 := by
    rw [Nat.ofDigitChars_append, Nat.ofDigitChars_replicate_zero, Nat.mul_zero]
    rfl
  have hpid : IsWord ['p', 'i', 'd'] := .intro (by decide) (by decide)
  have hspells : Spells ['p', 'i', 'd'] (.word "pid") :=
    .word hpid (by decide) (by decide) (by decide)
  constructor
  · have hone := Spells.number hdigits (by simp)
    rw [hvalue] at hone
    have hend : Written (isBare (List.replicate n '0' ++ ['1'])) [] [] := .nil (by simp)
    have hnumeral := @Written.cons (isBare ['=']) [] _ _ _ _ (by simp) hone
      (fun h => absurd h (by decide)) hend
    rw [List.append_nil, List.nil_append] at hnumeral
    have hsign := @Written.cons true [] ['='] _ _ _ (by simp) .equals (by decide) hnumeral
    exact @Written.cons false [] ['p', 'i', 'd'] _ _ _ (by simp) hspells (by simp) hsign
  · rw [← hlength]
    exact parse_overlong hspells hpid hdigits (by rw [hlength]; omega)

/-! ## Reading a query back -/

theorem Disjunction.parse_of_written {d : Disjunction} (hd : d.depth ≤ maxDepth) {s : String}
    (hs : Written false d.tokens s.toList) (hfit : NumbersFit s.toList) :
    Query.parse s = .ok d.query :=
  parse_ok (tokenize_of_ok (mapM_token_of_standsFor (hs.standsFor d.isChain_tokens)
    (numbersFit_iff.1 hfit))) (d.ofTokens_tokens hd)

/-- A text that writes a derivation within the limit of depth is accepted exactly when its numerals,
leading zeros included, have no more digits than can be read. The query read from it answers whether
the derivation holds of a record. It answers for every record whose integers can be shown; the one
other outcome is that it meets an integer that is too long for this. -/
theorem parse_written (d : Disjunction) (hd : d.depth ≤ maxDepth) (s : String)
    (hs : Written false d.tokens s.toList) :
    (NumbersFit s.toList → ∃ q, Query.parse s = .ok q ∧
      (∀ r : Record, r.Shown → ∃ answer, q.evaluate r = .ok answer) ∧
      (∀ (r : Record) answer, q.evaluate r = .ok answer → (answer = true ↔ d.Holds r)) ∧
      ∀ (r : Record) e, q.evaluate r = .error e → e = .data .integerLength ∧ ¬ r.Shown) ∧
    (¬ NumbersFit s.toList → ∃ n, Text.digitLimit < n ∧
      Query.parse s = .error (.badNumeral s (.tooLong n))) := by
  refine ⟨fun hfit => ⟨d.query, d.parse_of_written hd hs hfit,
    fun r hr => ⟨_, answers_of_shown hr d.query⟩, fun r answer h => ?_, fun r e h => ?_⟩,
    parse_of_not_fit⟩
  · obtain rfl := Except.ok.inj (h.symm.trans (answers_iff.2 ⟨answer, h⟩))
    exact d.holds_query r
  · rcases answers_or d.query r with hok | ⟨herror, hshown⟩
    · cases h.symm.trans hok
    · exact ⟨Except.error.inj (h.symm.trans herror), hshown⟩

/-- A comparison that is not to hold, and one with the name of a process. -/
def twoComparisons : Disjunction :=
  .last (.and (.not (.comparison "lport" .eq (.number 7)))
    (.last (.comparison "name" .eq (.string "ssh*"))))

/-- The numeral has leading zeros, and the connective letters of either case. -/
theorem written_twoComparisons :
    Written false twoComparisons.tokens "!lport==007 aNd name:'ssh*'".toList := by
  refine @Written.cons _ [] ['!'] _ _ _ (by simp) .not (by decide) ?_
  refine @Written.cons _ [] ['l', 'p', 'o', 'r', 't'] _ _ _ (by simp)
    (.word (.intro (by decide) (by decide)) (by decide) (by decide) (by decide)) (by decide) ?_
  refine @Written.cons _ [] ['=', '='] _ _ _ (by simp) .equalsTwice (by decide) ?_
  refine @Written.cons _ [] ['0', '0', '7'] _ _ _ (by simp)
    (.number (by decide) (by simp)) (by decide) ?_
  refine @Written.cons _ [' '] ['a', 'N', 'd'] _ _ _ (by decide)
    (.andWord (by decide)) (by simp) ?_
  refine @Written.cons _ [' '] ['n', 'a', 'm', 'e'] _ _ _ (by decide)
    (.word (.intro (by decide) (by decide)) (by decide) (by decide) (by decide)) (by simp) ?_
  refine @Written.cons _ [] [':'] _ _ _ (by simp) .colon (by decide) ?_
  refine @Written.cons _ [] ('\'' :: (['s', 's', 'h', '*'] ++ ['\''])) [] _ _ (by simp)
    (.quoted (by decide) (by decide)) (by decide) ?_
  exact .nil (by simp)

theorem parse_written_twoComparisons :
    NumbersFit "!lport==007 aNd name:'ssh*'".toList ∧
      ∃ q, Query.parse "!lport==007 aNd name:'ssh*'" = .ok q ∧ Record.namedListener.Shown ∧
        q.evaluate Record.namedListener = .ok true ∧
          twoComparisons.Holds Record.namedListener := by
  have hfit : NumbersFit "!lport==007 aNd name:'ssh*'".toList := numbersFit_of_length (by decide)
  obtain ⟨q, hq, hanswer, hmeaning, -⟩ :=
    (parse_written twoComparisons (by decide) _ written_twoComparisons).1 hfit
  have hread : Query.parse "!lport==007 aNd name:'ssh*'" = .ok
      (.and (.not (.comparison "lport" .eq (.number 7)))
        (.comparison "name" .eq (.text "ssh*"))) := ok_of_toOption (by decide +kernel)
  have htrue : q.evaluate Record.namedListener = .ok true := by
    cases hread.symm.trans hq
    exact ok_of_toOption (by decide +kernel)
  exact ⟨hfit, q, hq, Record.shown_namedListener, htrue, (hmeaning _ _ htrue).1 rfl⟩

/-- A text that writes the comparison with the number one and is not accepted. -/
theorem parse_leadingZeros_overlong :
    let text := ['p', 'i', 'd'] ++ '=' :: (List.replicate 4300 '0' ++ ['1'])
    Written false (Disjunction.last (.last (.comparison "pid" .eq (.number 1)))).tokens text ∧
      Query.parse (String.ofList text) =
        .error (.badNumeral (String.ofList text) (.tooLong 4301)) := by
  have hn : Text.digitLimit ≤ 4300 := by decide
  exact parse_leadingZeros hn

end SocketInventory.Query
