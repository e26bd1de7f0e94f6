import SocketInventory.Filter
import SocketInventory.Proofs.Query.Parser
import SocketInventory.Proofs.Query.Scanner

/-!
# Accepted texts

A text whose numbers fit denotes a query exactly when its tokens are derived from the grammar
within the limit of depth. Every other such text is refused as malformed.
-/

namespace SocketInventory.Query

/-! ## From texts to tokens -/

theorem parse_ok {s : String} {tokens : List Token} {q : Query} (ht : tokenize s = .ok tokens)
    (hq : ofTokens tokens = .ok q) : Query.parse s = .ok q := by
  simp only [Query.parse, ht, hq]
  rfl

theorem parse_malformed {s : String} {tokens : List Token} {f : SyntaxFault}
    (ht : tokenize s = .ok tokens) (hf : ofTokens tokens = .error f) :
    Query.parse s = .error (.query (.malformed f)) := by
  simp only [Query.parse, ht, hf]
  rfl

/-- A text denotes a query when its tokens are the yield of a derivation within the limit. -/
theorem parse_eq_ok_iff {s : String} {q : Query} :
    Query.parse s = .ok q ↔
      ∃ d : Disjunction, (lexemes s.toList).mapM Lexeme.token = .ok d.tokens ∧
        d.depth ≤ maxDepth ∧ d.query = q := by
  constructor
  · intro h
    cases hm : (lexemes s.toList).mapM Lexeme.token with
    | error e =>
        rw [Query.parse, tokenize_of_error hm] at h
        cases h
    | ok tokens =>
        have ht := tokenize_of_ok hm
        cases ho : ofTokens (tokens ++ [.eof]) with
        | error f => rw [parse_malformed ht ho] at h; cases h
        | ok q' =>
            rw [parse_ok ht ho] at h
            cases h
            obtain ⟨d, rfl, hd, hq⟩ := ofTokens_sound (eof_notMem_tokens hm) ho
            exact ⟨d, rfl, hd, hq⟩
  · rintro ⟨d, hm, hd, rfl⟩
    exact parse_ok (tokenize_of_ok hm) (d.ofTokens_tokens hd)

/-! ## Factors side by side -/

/-- Rows of factors: the factors of a row joined by `and`, the rows by `or`. -/
def rowsTokens (rows : List (List Factor)) : List Token :=
  [Token.or].intercalate (rows.map fun row => [Token.and].intercalate (row.map Factor.tokens))

theorem exists_conjunction {n : Nat} {row : List Factor} (hne : row ≠ [])
    (hrow : ∀ f ∈ row, f.depth ≤ n) :
    ∃ c : Conjunction,
      c.tokens = [Token.and].intercalate (row.map Factor.tokens) ∧ c.depth ≤ n := by
  induction row with
  | nil => exact absurd rfl hne
  | cons f row ih =>
      have hf := hrow f (by simp)
      rcases row with _ | ⟨g, row⟩
      · exact ⟨.last f, by simp [Conjunction.tokens], hf⟩
      · obtain ⟨c, hct, hcd⟩ := ih (by simp) fun g hg => hrow g (by simp [hg])
        refine ⟨.and f c, ?_, ?_⟩
        · simp [Conjunction.tokens, hct]
        · simp only [Conjunction.depth]; omega

theorem exists_disjunction {n : Nat} {rows : List (List Factor)} (hne : rows ≠ [])
    (hrows : ∀ row ∈ rows, row ≠ [] ∧ ∀ f ∈ row, f.depth ≤ n) :
    ∃ d : Disjunction, d.tokens = rowsTokens rows ∧ d.depth ≤ n := by
  unfold rowsTokens
  induction rows with
  | nil => exact absurd rfl hne
  | cons row rows ih =>
      obtain ⟨hrow, hfs⟩ := hrows row (by simp)
      obtain ⟨c, hct, hcd⟩ := exists_conjunction hrow hfs
      rcases rows with _ | ⟨row', rows⟩
      · exact ⟨.last c, by simp [Disjunction.tokens, hct], hcd⟩
      · obtain ⟨d, hdt, hdd⟩ := ih (by simp) fun row hrow => hrows row (by simp [hrow])
        refine ⟨.or c d, ?_, ?_⟩
        · simp [Disjunction.tokens, hct, hdt]
        · simp only [Disjunction.depth]; omega

/-! ## Acceptance -/

/-- A text whose numbers fit is accepted exactly when its tokens are derived within the limit, and
refused as malformed otherwise. Nothing behind the end token counts, and factors side by side, in
any number, are as deep as the deepest of them. -/
theorem parse_isOk_iff_derivable (s : String) (hfit : NumbersFit s.toList) :
    ∃ tokens, tokenize s = .ok (tokens ++ [.eof]) ∧ .eof ∉ tokens ∧
      ((∃ q, Query.parse s = .ok q) ↔ Derivable tokens) ∧
      (¬ Derivable tokens → ∃ f, Query.parse s = .error (.query (.malformed f))) ∧
      (∀ more, ofTokens (tokens ++ .eof :: more) = ofTokens (tokens ++ [.eof])) ∧
      ∀ rows, rows ≠ [] → (∀ row ∈ rows, row ≠ [] ∧ ∀ f ∈ row, f.depth ≤ maxDepth) →
        ∃ q, ofTokens (rowsTokens rows ++ [.eof]) = .ok q := by
  obtain ⟨tokens, ht, he⟩ := tokenize_ok hfit
  have hsound : ∀ q, ofTokens (tokens ++ [.eof]) = .ok q → Derivable tokens := by
    intro q hq
    obtain ⟨d, hdt, hdd, -⟩ := ofTokens_sound he hq
    exact ⟨d, hdt, hdd⟩
  refine ⟨tokens, ht, he, ⟨?_, ?_⟩, ?_, ?_, ?_⟩
  · rintro ⟨q, hq⟩
    cases ho : ofTokens (tokens ++ [.eof]) with
    | error f => rw [parse_malformed ht ho] at hq; cases hq
    | ok q' => exact hsound q' ho
  · rintro ⟨d, rfl, hdd⟩
    exact ⟨d.query, parse_ok ht (d.ofTokens_tokens hdd)⟩
  · intro hnd
    cases ho : ofTokens (tokens ++ [.eof]) with
    | error f => exact ⟨f, parse_malformed ht ho⟩
    | ok q => exact absurd (hsound q ho) hnd
  · intro more
    have he' : Token.eof ∈ tokens ++ [.eof] := by simp
    rw [← ofTokens_append he' more, List.append_assoc]
    rfl
  · intro rows hne hrows
    obtain ⟨d, hdt, hdd⟩ := exists_disjunction hne hrows
    exact ⟨d.query, hdt ▸ d.ofTokens_tokens hdd⟩

theorem parse_isOk_iff_derivable_negatedGroup :
    NumbersFit "!(pid=007 or x)".toList ∧
      ∃ tokens, tokenize "!(pid=007 or x)" = .ok (tokens ++ [.eof]) ∧ .eof ∉ tokens ∧
        ((∃ q, Query.parse "!(pid=007 or x)" = .ok q) ↔ Derivable tokens) := by
  have hfit : NumbersFit "!(pid=007 or x)".toList := numbersFit_of_length (by decide)
  obtain ⟨tokens, ht, he, hiff, -⟩ := parse_isOk_iff_derivable "!(pid=007 or x)" hfit
  exact ⟨hfit, tokens, ht, he, hiff⟩

end SocketInventory.Query
