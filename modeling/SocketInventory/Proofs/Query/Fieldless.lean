import SocketInventory.Proofs.Query.Narrowing

/-!
# Texts that start with no field

A query starts with a field and the operator behind it, in parentheses and negated or not. A text
whose lexemes start otherwise is no query, whatever follows.
-/

namespace SocketInventory.Query

/-- Neither an operator nor a negation stands at the head, and no field with an operator behind it,
in parentheses or not. -/
def Fieldless : List Lexeme → Prop
  | [] => True
  | .quoted _ :: _ => True
  | .bare _ :: ls => ∀ o, ls.head? ≠ some (.sign (.op o))
  | .sign .lparen :: ls => Fieldless ls
  | .sign t :: _ => t = .rparen

theorem Fieldless.head?_ne_op {ls : List Lexeme} (h : Fieldless ls) (o : Op) :
    ls.head? ≠ some (.sign (.op o)) := by
  intro hhead
  rcases ls with _ | ⟨l, ls⟩
  · cases hhead
  · cases hhead
    cases h

/-! ## No query -/

/-- What is neither a text nor a word was a sign. -/
theorem Lexeme.eq_sign_of_token {l : Lexeme} {t : Token} (h : l.token = .ok t)
    (ht : t.kind ∉ [Kind.string, .and, .or, .number, .word]) : l = .sign t := by
  cases l with
  | sign u =>
      cases h
      rfl
  | quoted s =>
      cases h
      simp [Token.kind] at ht
  | bare w => exact absurd (List.mem_cons_of_mem _ (wordToken_kind h)) ht

mutual
theorem Disjunction.not_fieldless : (d : Disjunction) → (ls : List Lexeme) → (more : List Token) →
    Fieldless ls → ls.mapM Lexeme.token ≠ .ok (d.tokens ++ more)
  | .last c, ls, more, h => c.not_fieldless ls more h
  | .or c d, ls, more, h => by
      rw [Disjunction.tokens, List.append_assoc]
      exact c.not_fieldless ls _ h

theorem Conjunction.not_fieldless : (c : Conjunction) → (ls : List Lexeme) →
    (more : List Token) → Fieldless ls → ls.mapM Lexeme.token ≠ .ok (c.tokens ++ more)
  | .last f, ls, more, h => f.not_fieldless ls more h
  | .and f c, ls, more, h => by
      rw [Conjunction.tokens, List.append_assoc]
      exact f.not_fieldless ls _ h

theorem Factor.not_fieldless : (f : Factor) → (ls : List Lexeme) → (more : List Token) →
    Fieldless ls → ls.mapM Lexeme.token ≠ .ok (f.tokens ++ more)
  | .group d, ls, more, h => by
      intro hm
      obtain ⟨l, rest, rfl, hl, hrest⟩ := exists_cons_of_mapM_ok hm
      obtain rfl := Lexeme.eq_sign_of_token hl (by simp [Token.kind])
      refine d.not_fieldless rest (.rparen :: more) h ?_
      rw [List.append_cons]
      exact hrest
  | .not f, ls, more, h => by
      intro hm
      obtain ⟨l, rest, rfl, hl, -⟩ := exists_cons_of_mapM_ok hm
      obtain rfl := Lexeme.eq_sign_of_token hl (by simp [Token.kind])
      cases h
  | .comparison field op operand, ls, more, h => by
      intro hm
      obtain ⟨l, rest, rfl, hl, hrest⟩ := exists_cons_of_mapM_ok hm
      obtain ⟨l', rest', rfl, hl', -⟩ := exists_cons_of_mapM_ok hrest
      obtain rfl := Lexeme.eq_sign_of_token hl' (by simp [Token.kind])
      cases l with
      | sign t =>
          cases hl
          cases h
      | quoted s => cases hl
      | bare w => exact h op rfl
end

theorem parse_ne_ok_of_fieldless {s : String} (h : Fieldless (lexemes s.toList)) (q : Query) :
    Query.parse s ≠ .ok q := by
  intro hq
  obtain ⟨d, hm, -⟩ := parse_eq_ok_iff.1 hq
  rw [← List.append_nil d.tokens] at hm
  exact d.not_fieldless _ _ h hm

/-! ## What texts start with -/

/-- Brackets, braces and commas, which start no lexeme and end a word. -/
def marks : List Char := ['[', ']', '\x7b', '\x7d', ',']

theorem lexemes_mark {c : Char} (hc : c ∈ marks) (rest : List Char) :
    lexemes (c :: rest) = lexemes rest := by
  apply lexemes_none
  simp only [marks, List.mem_cons, List.not_mem_nil, or_false] at hc
  rcases hc with rfl | rfl | rfl | rfl | rfl <;> rfl

theorem lexemes_points (rest : List Char) : lexemes ('.' :: '.' :: '.' :: rest) = lexemes rest := by
  rw [lexemes_none rfl, lexemes_none rfl, lexemes_none rfl]

theorem breaks_mark {c : Char} (hc : c ∈ marks) (rest : List Char) : Breaks (c :: rest) := by
  rintro d ⟨⟩
  simp only [marks, List.mem_cons, List.not_mem_nil, or_false] at hc
  rcases hc with rfl | rfl | rfl | rfl | rfl <;> decide

theorem Fieldless.mark {c : Char} (hc : c ∈ marks) {rest : List Char}
    (h : Fieldless (lexemes rest)) : Fieldless (lexemes (c :: rest)) := by
  rwa [lexemes_mark hc]

/-- Characters of words, and the sign that is passed over between them. -/
def isAtomChar (c : Char) : Bool := isWordChar c || c == '+'

theorem isQuote_of_isAtomChar {c : Char} (hc : isAtomChar c) : isQuote c = false := by
  rcases Bool.or_eq_true_iff.1 hc with hc | hc
  · exact isQuote_of_isWordChar hc
  · rw [beq_iff_eq.1 hc]
    rfl

theorem readSign?_of_isAtomChar {c : Char} (hc : isAtomChar c) (rest : List Char) :
    readSign? (c :: rest) = none := by
  have hsigns : ∀ d ∈ signStarts, isAtomChar d = false := by decide
  refine readSign?_eq_none (fun h => ?_) rest
  rw [hsigns c h] at hc
  cases hc

/-- A run of characters that holds words alone. -/
def Atom (s : List Char) : Prop := ∀ c ∈ s, isAtomChar c

instance (s : List Char) : Decidable (Atom s) :=
  Text.decidableForallMem _ s

namespace Atom

variable {s t : List Char}

theorem cons {c : Char} (hc : isAtomChar c) (hs : Atom s) : Atom (c :: s) :=
  List.forall_mem_cons.2 ⟨hc, hs⟩

theorem append (hs : Atom s) (ht : Atom t) : Atom (s ++ t) := List.forall_mem_append.2 ⟨hs, ht⟩

theorem take (hs : Atom s) (n : Nat) : Atom (s.take n) :=
  fun c hc => hs c (List.mem_of_mem_take hc)

theorem drop (hs : Atom s) (n : Nat) : Atom (s.drop n) :=
  fun c hc => hs c (List.mem_of_mem_drop hc)

theorem digits (hs : ∀ c ∈ s, c.isDigit) : Atom s := by
  intro c hc
  simp [isAtomChar, isWordChar, isWordStart, Char.isAlphanum, hs c hc]

theorem integer (n : Int) : Atom (Text.integerChars n) := by
  intro c hc
  rcases Text.mem_integerChars hc with rfl | hc
  · decide
  · exact digits (s := [c]) (by simpa using hc) c (by simp)

theorem openQuotes (hs : Atom s) : openQuotes s = [] := by
  have happend := openQuotes_append (fun c hc => isQuote_of_isAtomChar (hs c hc)) []
  rwa [List.append_nil, Query.openQuotes] at happend

theorem lexemes (hs : Atom s) : ∀ l ∈ lexemes s, ∃ w, l = .bare w := by
  induction s using lexemes.induct with
  | case1 => simp [Query.lexemes]
  | case2 c rest hc ih =>
      rw [lexemes_blank hc]
      exact ih (hs.drop 1)
  | case3 c rest hc l rest' hr _ ih =>
      have hc' := hs c List.mem_cons_self
      rw [lexemes_some (by simpa using hc) hr, List.forall_mem_cons]
      rw [readLexeme?, readSign?_of_isAtomChar hc', isQuote_of_isAtomChar hc'] at hr
      simp only [Bool.false_eq_true, ↓reduceIte, Option.ite_none_right_eq_some, Option.some.injEq,
        Prod.mk.injEq] at hr
      obtain ⟨-, rfl, rfl⟩ := hr
      refine ⟨⟨_, rfl⟩, ih fun d hd => hs d (List.mem_cons_of_mem _ ?_)⟩
      exact (List.dropWhile_sublist _).mem hd
  | case4 c rest _ hr ih =>
      rw [lexemes_none hr]
      exact ih (hs.drop 1)

end Atom

theorem Fieldless.append_words {words ls : List Lexeme} (hw : ∀ l ∈ words, ∃ w, l = .bare w)
    (h : Fieldless ls) : Fieldless (words ++ ls) := by
  induction words with
  | nil => exact h
  | cons l words ih =>
      obtain ⟨⟨w, rfl⟩, hrest⟩ := List.forall_mem_cons.1 hw
      exact fun o => (ih hrest).head?_ne_op o

theorem Fieldless.atom {s rest : List Char} (hs : Atom s) (hb : Breaks rest)
    (h : Fieldless (lexemes rest)) : Fieldless (lexemes (s ++ rest)) := by
  rw [lexemes_append hb (by simp [hs.openQuotes])]
  exact h.append_words hs.lexemes

/-- A quote that has a partner starts a text. -/
theorem fieldless_quote {q : Char} {rest : List Char} (hq : isQuote q) (hmem : q ∈ rest) :
    Fieldless (lexemes (q :: rest)) := by
  obtain ⟨body, rest, rfl, hbody⟩ := List.eq_append_cons_of_mem hmem
  rw [lexemes_quoted hq hbody]
  trivial

theorem isWord_of_head {w : List Char} (hstart : w.head?.any isWordStart)
    (hw : ∀ c ∈ w, isWordChar c) : IsWord w := by
  cases w with
  | nil => cases hstart
  | cons c w => exact .intro hstart fun d hd => hw d (List.mem_cons_of_mem _ hd)

/-- A word with no operator behind it. -/
theorem fieldless_word {w rest : List Char} (hw : IsWord w)
    (hstop : ∀ c, rest.head? = some c → isWordChar c = false)
    (hrest : ∀ o, (lexemes rest).head? ≠ some (.sign (.op o))) :
    Fieldless (lexemes (w ++ rest)) := by
  rw [lexemes_word hw hstop]
  exact hrest

theorem fieldless_call {w : List Char} (hw : IsWord w) (rest : List Char) :
    Fieldless (lexemes (w ++ '(' :: rest)) := by
  refine fieldless_word hw (by rintro c ⟨⟩; rfl) fun o => ?_
  rw [lexemes_lparen]
  simp

end SocketInventory.Query
