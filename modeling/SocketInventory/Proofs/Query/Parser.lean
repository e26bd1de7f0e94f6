import SocketInventory.Proofs.Query.Derivation
import SocketInventory.Query.Parser

/-!
# The parser and the grammar

A token sequence denotes a query exactly when it is the yield of a derivation that is at most
`maxDepth` deep, and then the query is the derivation's. What follows the end token never counts.
-/

namespace SocketInventory.Query

/-! ## The rest as a list -/

/-- A result without the proof that the rest is shorter. -/
def plain {tokens : List Token} (x : Except SyntaxFault (Query × Rest tokens)) :
    Except SyntaxFault (Query × List Token) :=
  x.map fun (q, r) => (q, r.val)

def runOr (total depth : Nat) (tokens : List Token) : Except SyntaxFault (Query × List Token) :=
  plain (parseOr total depth tokens)

def runAnd (total depth : Nat) (tokens : List Token) : Except SyntaxFault (Query × List Token) :=
  plain (parseAnd total depth tokens)

def runFactor (total depth : Nat) (tokens : List Token) : Except SyntaxFault (Query × List Token) :=
  plain (parseFactor total depth tokens)

def runComparison (total : Nat) (tokens : List Token) : Except SyntaxFault (Query × List Token) :=
  plain (parseComparison total tokens)

variable {total depth : Nat} {tokens rest : List Token} {p q : Query} {f : SyntaxFault}

theorem runOr_error (h : runAnd total depth tokens = .error f) :
    runOr total depth tokens = .error f := by
  unfold runAnd at h
  unfold runOr
  rw [parseOr]
  rcases hx : parseAnd total depth tokens with e | x <;> rw [hx] at h
  · cases h; rfl
  · cases h

theorem runOr_or (h : runAnd total depth tokens = .ok (p, .or :: rest)) :
    runOr total depth tokens = (runOr total depth rest).map fun (q, r) => (.or p q, r) := by
  unfold runAnd at h
  unfold runOr
  rw [parseOr]
  rcases hx : parseAnd total depth tokens with e | ⟨p', ⟨r, hlt⟩⟩ <;> rw [hx] at h
  · cases h
  · cases h
    cases hq : parseOr total depth rest <;>
      simp [plain, hq, bind, Except.bind, Except.map, pure, Except.pure]

theorem runOr_last (h : runAnd total depth tokens = .ok (p, rest)) (hr : rest.head? ≠ some .or) :
    runOr total depth tokens = .ok (p, rest) := by
  unfold runAnd at h
  unfold runOr
  rw [parseOr]
  rcases hx : parseAnd total depth tokens with e | ⟨p', ⟨r, hlt⟩⟩ <;> rw [hx] at h
  · cases h
  · cases h
    rcases r with _ | ⟨t, r⟩
    · rfl
    · cases t with
      | or => exact absurd rfl hr
      | _ => rfl

theorem runAnd_error (h : runFactor total depth tokens = .error f) :
    runAnd total depth tokens = .error f := by
  unfold runFactor at h
  unfold runAnd
  rw [parseAnd]
  rcases hx : parseFactor total depth tokens with e | x <;> rw [hx] at h
  · cases h; rfl
  · cases h

theorem runAnd_and (h : runFactor total depth tokens = .ok (p, .and :: rest)) :
    runAnd total depth tokens = (runAnd total depth rest).map fun (q, r) => (.and p q, r) := by
  unfold runFactor at h
  unfold runAnd
  rw [parseAnd]
  rcases hx : parseFactor total depth tokens with e | ⟨p', ⟨r, hlt⟩⟩ <;> rw [hx] at h
  · cases h
  · cases h
    cases hq : parseAnd total depth rest <;>
      simp [plain, hq, bind, Except.bind, Except.map, pure, Except.pure]

theorem runAnd_last (h : runFactor total depth tokens = .ok (p, rest))
    (hr : rest.head? ≠ some .and) : runAnd total depth tokens = .ok (p, rest) := by
  unfold runFactor at h
  unfold runAnd
  rw [parseAnd]
  rcases hx : parseFactor total depth tokens with e | ⟨p', ⟨r, hlt⟩⟩ <;> rw [hx] at h
  · cases h
  · cases h
    rcases r with _ | ⟨t, r⟩
    · rfl
    · cases t with
      | and => exact absurd rfl hr
      | _ => rfl

/-- What follows a disjunction in parentheses: the closing parenthesis, or a fault. -/
def closeGroup (total : Nat) : Query × List Token → Except SyntaxFault (Query × List Token)
  | (q, .rparen :: rest) => .ok (.group q, rest)
  | (_, rest) => .error (unexpected total rest .rparen)

theorem runFactor_lparen : runFactor total depth (.lparen :: tokens) =
    if maxDepth ≤ depth then .error .tooDeep
    else runOr total (depth + 1) tokens >>= closeGroup total := by
  unfold runFactor runOr
  rw [parseFactor]
  split
  · rfl
  · rcases parseOr total (depth + 1) tokens with e | ⟨p, ⟨r, hlt⟩⟩
    · rfl
    · rcases r with _ | ⟨t, r⟩
      · rfl
      · cases t <;> rfl

theorem runFactor_not : runFactor total depth (.not :: tokens) =
    if maxDepth ≤ depth then .error .tooDeep
    else (runFactor total (depth + 1) tokens).map fun (q, r) => (.not q, r) := by
  unfold runFactor
  rw [parseFactor]
  split
  · rfl
  · cases parseFactor total (depth + 1) tokens <;> rfl

theorem runFactor_comparison (hl : tokens.head? ≠ some .lparen) (hn : tokens.head? ≠ some .not) :
    runFactor total depth tokens = runComparison total tokens := by
  unfold runFactor runComparison
  rcases tokens with _ | ⟨t, tokens⟩
  · rw [parseFactor]
    all_goals simp
  · cases t with
    | lparen => exact absurd rfl hl
    | not => exact absurd rfl hn
    | _ =>
      rw [parseFactor]
      all_goals simp

theorem runComparison_tokens (field : String) (op : Op) (v : Operand) (rest : List Token) :
    runComparison total (.word field :: .op op :: v.token :: rest) =
      .ok (.comparison (fieldName field) op v.value, rest) := by
  unfold runComparison
  simp only [parseComparison, v.value?_token]
  rfl

theorem runComparison_sound (h : runComparison total tokens = .ok (q, rest)) :
    ∃ field op, ∃ v : Operand, tokens = .word field :: .op op :: v.token :: rest ∧
      q = .comparison (fieldName field) op v.value := by
  unfold runComparison parseComparison at h
  split at h
  · split at h
    · split at h
      · cases h
      · split at h
        · rename_i hv
          obtain ⟨v, rfl, rfl⟩ := Token.operand hv
          cases h
          exact ⟨_, _, v, rfl, rfl⟩
        · cases h
    · cases h
  · cases h

/-! ## Completeness -/

mutual
/-- A derivation within the limit is read as its query, whatever stands behind it except a
connective, which would continue it. -/
theorem Disjunction.run_tokens (total : Nat) :
    (d : Disjunction) → (depth : Nat) → d.depth + depth ≤ maxDepth → (rest : List Token) →
      rest.head? ≠ some .or → rest.head? ≠ some .and →
      runOr total depth (d.tokens ++ rest) = .ok (d.query, rest)
  | .last c, depth, hd, rest, hor, hand =>
      runOr_last (Conjunction.run_tokens total c depth hd rest hand) hor
  | .or c d, depth, hd, rest, hor, hand => by
      simp only [Disjunction.depth] at hd
      have hc :=
        Conjunction.run_tokens total c depth (by omega) (.or :: (d.tokens ++ rest)) (by simp)
      have hrun := Disjunction.run_tokens total d depth (by omega) rest hor hand
      simp only [Disjunction.tokens, List.append_assoc, List.cons_append]
      rw [runOr_or hc, hrun]
      rfl

theorem Conjunction.run_tokens (total : Nat) :
    (c : Conjunction) → (depth : Nat) → c.depth + depth ≤ maxDepth → (rest : List Token) →
      rest.head? ≠ some .and → runAnd total depth (c.tokens ++ rest) = .ok (c.query, rest)
  | .last f, depth, hd, rest, hand => runAnd_last (Factor.run_tokens total f depth hd rest) hand
  | .and f c, depth, hd, rest, hand => by
      simp only [Conjunction.depth] at hd
      have hf := Factor.run_tokens total f depth (by omega) (.and :: (c.tokens ++ rest))
      have hrun := Conjunction.run_tokens total c depth (by omega) rest hand
      simp only [Conjunction.tokens, List.append_assoc, List.cons_append]
      rw [runAnd_and hf, hrun]
      rfl

theorem Factor.run_tokens (total : Nat) :
    (f : Factor) → (depth : Nat) → f.depth + depth ≤ maxDepth → (rest : List Token) →
      runFactor total depth (f.tokens ++ rest) = .ok (f.query, rest)
  | .group d, depth, hd, rest => by
      simp only [Factor.depth] at hd
      have hrun := Disjunction.run_tokens total d (depth + 1) (by omega) (.rparen :: rest)
        (by simp) (by simp)
      simp only [Factor.tokens, List.cons_append, List.append_assoc, List.nil_append]
      rw [runFactor_lparen, if_neg (by omega), hrun]
      rfl
  | .not f, depth, hd, rest => by
      simp only [Factor.depth] at hd
      have hrun := Factor.run_tokens total f (depth + 1) (by omega) rest
      simp only [Factor.tokens, List.cons_append]
      rw [runFactor_not, if_neg (by omega), hrun]
      rfl
  | .comparison field op v, depth, _, rest => by
      simp only [Factor.tokens, List.cons_append, List.nil_append]
      rw [runFactor_comparison (by simp) (by simp)]
      exact runComparison_tokens field op v rest
end

/-! ## Soundness -/

mutual
/-- What is read is the yield of a derivation within the limit. -/
theorem runOr_sound (total depth : Nat) (tokens : List Token) (hd : depth ≤ maxDepth) {q : Query}
    {rest : List Token} (h : runOr total depth tokens = .ok (q, rest)) :
    ∃ d : Disjunction, tokens = d.tokens ++ rest ∧ q = d.query ∧ d.depth + depth ≤ maxDepth := by
  cases hc : runAnd total depth tokens with
  | error f => rw [runOr_error hc] at h; cases h
  | ok x =>
      obtain ⟨p, more⟩ := x
      obtain ⟨c, hct, hp, hcd⟩ := runAnd_sound total depth tokens hd hc
      by_cases ho : more.head? = some .or
      · obtain ⟨more, rfl⟩ := List.head?_eq_some_iff.1 ho
        rw [runOr_or hc] at h
        cases hm : runOr total depth more with
        | error f => rw [hm] at h; cases h
        | ok y =>
            rw [hm] at h
            cases h
            obtain ⟨d, hdt, hq, hdd⟩ := runOr_sound total depth more hd hm
            refine ⟨.or c d, ?_, ?_, ?_⟩
            · simp [hct, hdt, Disjunction.tokens]
            · simp [hp, hq, Disjunction.query]
            · simp only [Disjunction.depth]; omega
      · rw [runOr_last hc ho] at h
        cases h
        exact ⟨.last c, hct, hp, hcd⟩
termination_by (tokens.length, 2)
decreasing_by
  · exact Prod.Lex.right _ (by omega)
  · exact Prod.Lex.left _ _ (by simp [hct]; omega)

theorem runAnd_sound (total depth : Nat) (tokens : List Token) (hd : depth ≤ maxDepth) {q : Query}
    {rest : List Token} (h : runAnd total depth tokens = .ok (q, rest)) :
    ∃ c : Conjunction, tokens = c.tokens ++ rest ∧ q = c.query ∧ c.depth + depth ≤ maxDepth := by
  cases hf : runFactor total depth tokens with
  | error f => rw [runAnd_error hf] at h; cases h
  | ok x =>
      obtain ⟨p, more⟩ := x
      obtain ⟨f, hft, hp, hfd⟩ := runFactor_sound total depth tokens hd hf
      by_cases ho : more.head? = some .and
      · obtain ⟨more, rfl⟩ := List.head?_eq_some_iff.1 ho
        rw [runAnd_and hf] at h
        cases hm : runAnd total depth more with
        | error f => rw [hm] at h; cases h
        | ok y =>
            rw [hm] at h
            cases h
            obtain ⟨c, hct, hq, hcd⟩ := runAnd_sound total depth more hd hm
            refine ⟨.and f c, ?_, ?_, ?_⟩
            · simp [hft, hct, Conjunction.tokens]
            · simp [hp, hq, Conjunction.query]
            · simp only [Conjunction.depth]; omega
      · rw [runAnd_last hf ho] at h
        cases h
        exact ⟨.last f, hft, hp, hfd⟩
termination_by (tokens.length, 1)
decreasing_by
  · exact Prod.Lex.right _ (by omega)
  · exact Prod.Lex.left _ _ (by simp [hft]; omega)

theorem runFactor_sound (total depth : Nat) (tokens : List Token) (hd : depth ≤ maxDepth)
    {q : Query} {rest : List Token} (h : runFactor total depth tokens = .ok (q, rest)) :
    ∃ f : Factor, tokens = f.tokens ++ rest ∧ q = f.query ∧ f.depth + depth ≤ maxDepth := by
  by_cases hl : tokens.head? = some .lparen
  · obtain ⟨inner, ht⟩ := List.head?_eq_some_iff.1 hl
    rw [ht, runFactor_lparen] at h
    split at h
    · cases h
    · rename_i hlt
      cases hi : runOr total (depth + 1) inner with
      | error f => rw [hi] at h; cases h
      | ok x =>
          obtain ⟨p, more⟩ := x
          rw [hi] at h
          obtain ⟨d, hdt, hp, hdd⟩ := runOr_sound total (depth + 1) inner (by omega) hi
          rcases more with _ | ⟨t, more⟩
          · cases h
          · cases t with
            | rparen =>
                cases h
                refine ⟨.group d, ?_, ?_, ?_⟩
                · simp [ht, hdt, Factor.tokens]
                · simp [hp, Factor.query]
                · simp only [Factor.depth]; omega
            | _ => cases h
  · by_cases hn : tokens.head? = some .not
    · obtain ⟨inner, ht⟩ := List.head?_eq_some_iff.1 hn
      rw [ht, runFactor_not] at h
      split at h
      · cases h
      · rename_i hlt
        cases hi : runFactor total (depth + 1) inner with
        | error f => rw [hi] at h; cases h
        | ok x =>
            rw [hi] at h
            cases h
            obtain ⟨f, hft, hq, hfd⟩ := runFactor_sound total (depth + 1) inner (by omega) hi
            refine ⟨.not f, ?_, ?_, ?_⟩
            · simp [ht, hft, Factor.tokens]
            · simp [hq, Factor.query]
            · simp only [Factor.depth]; omega
    · rw [runFactor_comparison hl hn] at h
      obtain ⟨field, op, v, rfl, rfl⟩ := runComparison_sound h
      exact ⟨.comparison field op v, rfl, rfl, by simpa only [Factor.depth, Nat.zero_add]⟩
termination_by (tokens.length, 0)
decreasing_by
  · exact Prod.Lex.left _ _ (by simp [ht])
  · exact Prod.Lex.left _ _ (by simp [ht])
end

/-! ## Behind the end token -/

/-- A result with more tokens behind its rest. -/
def followedBy (more : List Token) (x : Except SyntaxFault (Query × List Token)) :
    Except SyntaxFault (Query × List Token) :=
  x.map fun (q, r) => (q, r ++ more)

theorem unexpected_append {rest : List Token} (hr : rest ≠ []) (total : Nat) (more : List Token)
    (k : Kind) : unexpected (total + more.length) (rest ++ more) k = unexpected total rest k := by
  obtain ⟨t, rest, rfl⟩ := List.exists_cons_of_ne_nil hr
  simp only [unexpected, current, List.cons_append, List.headD_cons, List.length_cons,
    List.length_append]
  congr 1
  omega

theorem head?_append_ne {rest : List Token} (he : .eof ∈ rest) {t : Token}
    (hh : rest.head? ≠ some t) (more : List Token) : (rest ++ more).head? ≠ some t := by
  obtain ⟨u, rest, rfl⟩ := List.exists_cons_of_ne_nil (List.ne_nil_of_mem he)
  exact hh

theorem closeGroup_append {rest : List Token} (he : .eof ∈ rest) (total : Nat) (more : List Token)
    (q : Query) : closeGroup (total + more.length) (q, rest ++ more) =
      followedBy more (closeGroup total (q, rest)) := by
  by_cases hr : rest.head? = some .rparen
  · obtain ⟨rest, rfl⟩ := List.head?_eq_some_iff.1 hr
    rfl
  · have hfault : ∀ (total : Nat) (rest : List Token), rest.head? ≠ some .rparen →
        closeGroup total (q, rest) = .error (unexpected total rest .rparen) := by
      intro total rest hr
      rcases rest with _ | ⟨t, rest⟩
      · rfl
      · cases t with
        | rparen => exact absurd rfl hr
        | _ => rfl
    rw [hfault _ _ hr, hfault _ _ (head?_append_ne he hr more),
      unexpected_append (List.ne_nil_of_mem he)]
    rfl

theorem runComparison_append (he : .eof ∈ tokens) (more : List Token) :
    runComparison (total + more.length) (tokens ++ more) =
      followedBy more (runComparison total tokens) := by
  have hfault : ∀ {x y : SyntaxFault}, x = y → ∀ {a b : List Token},
      @plain a (.error x) = followedBy more (@plain b (.error y)) := by
    rintro x _ rfl a b
    rfl
  obtain ⟨t, tokens, rfl⟩ := List.exists_cons_of_ne_nil (List.ne_nil_of_mem he)
  cases t with
  | word w =>
      have he' : .eof ∈ tokens := by simpa using he
      obtain ⟨t, tokens, rfl⟩ := List.exists_cons_of_ne_nil (List.ne_nil_of_mem he')
      cases t with
      | op o =>
          have he'' : .eof ∈ tokens := by simpa using he'
          obtain ⟨t, tokens, rfl⟩ := List.exists_cons_of_ne_nil (List.ne_nil_of_mem he'')
          unfold runComparison
          simp only [List.cons_append, parseComparison]
          cases t <;> rfl
      | _ => exact hfault (unexpected_append (List.cons_ne_nil _ _) _ _ _)
  | _ => exact hfault (unexpected_append (List.cons_ne_nil _ _) _ _ _)

mutual
/-- More tokens behind a sequence that holds the end token change neither what is read nor which
fault is met. -/
theorem runOr_append (total depth : Nat) (tokens more : List Token) (hd : depth ≤ maxDepth)
    (he : .eof ∈ tokens) : runOr (total + more.length) depth (tokens ++ more) =
      followedBy more (runOr total depth tokens) := by
  have hand := runAnd_append total depth tokens more hd he
  cases hc : runAnd total depth tokens with
  | error f =>
      rw [hc] at hand
      rw [runOr_error hand, runOr_error hc]
      rfl
  | ok x =>
      obtain ⟨p, rest⟩ := x
      rw [hc] at hand
      obtain ⟨c, hct, -, -⟩ := runAnd_sound total depth tokens hd hc
      have her : .eof ∈ rest := by simpa [hct, c.eof_notMem] using he
      by_cases ho : rest.head? = some .or
      · obtain ⟨rest, hrest⟩ := List.head?_eq_some_iff.1 ho
        rw [hrest] at hand hc her
        replace hand : runAnd (total + more.length) depth (tokens ++ more) =
            .ok (p, .or :: (rest ++ more)) := hand
        rw [runOr_or hand, runOr_or hc, runOr_append total depth rest more hd (by simpa using her)]
        cases runOr total depth rest <;> rfl
      · rw [runOr_last hand (head?_append_ne her ho more), runOr_last hc ho]
        rfl
termination_by (tokens.length, 2)
decreasing_by
  · exact Prod.Lex.right _ (by omega)
  · exact Prod.Lex.left _ _ (by simp [hct, hrest]; omega)

theorem runAnd_append (total depth : Nat) (tokens more : List Token) (hd : depth ≤ maxDepth)
    (he : .eof ∈ tokens) : runAnd (total + more.length) depth (tokens ++ more) =
      followedBy more (runAnd total depth tokens) := by
  have hfactor := runFactor_append total depth tokens more he
  cases hf : runFactor total depth tokens with
  | error f =>
      rw [hf] at hfactor
      rw [runAnd_error hfactor, runAnd_error hf]
      rfl
  | ok x =>
      obtain ⟨p, rest⟩ := x
      rw [hf] at hfactor
      obtain ⟨f, hft, -, -⟩ := runFactor_sound total depth tokens hd hf
      have her : .eof ∈ rest := by simpa [hft, f.eof_notMem] using he
      by_cases ho : rest.head? = some .and
      · obtain ⟨rest, hrest⟩ := List.head?_eq_some_iff.1 ho
        rw [hrest] at hfactor hf her
        replace hfactor : runFactor (total + more.length) depth (tokens ++ more) =
            .ok (p, .and :: (rest ++ more)) := hfactor
        rw [runAnd_and hfactor, runAnd_and hf,
          runAnd_append total depth rest more hd (by simpa using her)]
        cases runAnd total depth rest <;> rfl
      · rw [runAnd_last hfactor (head?_append_ne her ho more), runAnd_last hf ho]
        rfl
termination_by (tokens.length, 1)
decreasing_by
  · exact Prod.Lex.right _ (by omega)
  · exact Prod.Lex.left _ _ (by simp [hft, hrest]; omega)

theorem runFactor_append (total depth : Nat) (tokens more : List Token) (he : .eof ∈ tokens) :
    runFactor (total + more.length) depth (tokens ++ more) =
      followedBy more (runFactor total depth tokens) := by
  by_cases hl : tokens.head? = some .lparen
  · obtain ⟨inner, ht⟩ := List.head?_eq_some_iff.1 hl
    rw [ht] at he
    have hei : .eof ∈ inner := by simpa using he
    rw [ht, List.cons_append, runFactor_lparen, runFactor_lparen]
    split
    · rfl
    · rename_i hlt
      rw [runOr_append total (depth + 1) inner more (by omega) hei]
      cases hi : runOr total (depth + 1) inner with
      | error f => rfl
      | ok x =>
          obtain ⟨q, rest⟩ := x
          obtain ⟨d, hdt, -, -⟩ := runOr_sound total (depth + 1) inner (by omega) hi
          exact closeGroup_append (by simpa [hdt, d.eof_notMem] using hei) total more q
  · by_cases hn : tokens.head? = some .not
    · obtain ⟨inner, ht⟩ := List.head?_eq_some_iff.1 hn
      rw [ht] at he
      rw [ht, List.cons_append, runFactor_not, runFactor_not]
      split
      · rfl
      · rename_i hlt
        rw [runFactor_append total (depth + 1) inner more (by simpa using he)]
        cases runFactor total (depth + 1) inner <;> rfl
    · rw [runFactor_comparison hl hn, runFactor_comparison (head?_append_ne he hl more)
        (head?_append_ne he hn more), runComparison_append he]
termination_by (tokens.length, 0)
decreasing_by
  · exact Prod.Lex.left _ _ (by simp [ht])
  · exact Prod.Lex.left _ _ (by simp [ht])
end

/-! ## Whole queries -/

/-- The yield of a derivation within the limit. -/
def Derivable (tokens : List Token) : Prop :=
  ∃ d : Disjunction, d.tokens = tokens ∧ d.depth ≤ maxDepth

/-- What follows a whole query: the end token, or a fault. -/
def closeQuery (total : Nat) : Query × List Token → Except SyntaxFault Query
  | (q, .eof :: _) => .ok q
  | (_, rest) => .error (unexpected total rest .eof)

theorem ofTokens_eq (tokens : List Token) :
    ofTokens tokens = runOr tokens.length 0 tokens >>= closeQuery tokens.length := by
  unfold ofTokens runOr
  rcases parseOr tokens.length 0 tokens with f | ⟨q, ⟨r, hlt⟩⟩
  · rfl
  · rcases r with _ | ⟨t, r⟩
    · rfl
    · cases t <;> rfl

theorem closeQuery_sound {x : Query × List Token} (h : closeQuery total x = .ok q) :
    ∃ rest, x = (q, .eof :: rest) := by
  obtain ⟨p, rest⟩ := x
  rcases rest with _ | ⟨t, rest⟩
  · cases h
  · cases t with
    | eof => cases h; exact ⟨rest, rfl⟩
    | _ => cases h

theorem closeQuery_append {rest : List Token} (he : .eof ∈ rest) (total : Nat) (more : List Token)
    (p : Query) :
    closeQuery (total + more.length) (p, rest ++ more) = closeQuery total (p, rest) := by
  obtain ⟨t, rest, rfl⟩ := List.exists_cons_of_ne_nil (List.ne_nil_of_mem he)
  cases t with
  | eof => rfl
  | _ => exact congrArg Except.error (unexpected_append (List.cons_ne_nil _ _) _ _ _)

/-- A derivation within the limit is read as its query. -/
theorem Disjunction.ofTokens_tokens {d : Disjunction} (hd : d.depth ≤ maxDepth) :
    ofTokens (d.tokens ++ [.eof]) = .ok d.query := by
  rw [ofTokens_eq, d.run_tokens _ 0 (by omega) [.eof] (by simp) (by simp)]
  rfl

/-- A sequence that denotes a query is the yield of a derivation within the limit. -/
theorem ofTokens_sound (he : Token.eof ∉ tokens) (h : ofTokens (tokens ++ [.eof]) = .ok q) :
    ∃ d : Disjunction, d.tokens = tokens ∧ d.depth ≤ maxDepth ∧ d.query = q := by
  rw [ofTokens_eq] at h
  cases hr : runOr (tokens ++ [Token.eof]).length 0 (tokens ++ [Token.eof]) with
  | error f => rw [hr] at h; cases h
  | ok x =>
      rw [hr] at h
      obtain ⟨rest, rfl⟩ := closeQuery_sound h
      obtain ⟨d, hdt, rfl, hdd⟩ := runOr_sound _ 0 _ (by omega) hr
      -- The only end token of the sequence is its last token, so nothing is left behind it.
      obtain rfl | ⟨rest, t, rfl⟩ := rest.eq_nil_or_concat
      · exact ⟨d, (List.append_cancel_right hdt).symm, hdd, rfl⟩
      · have hsplit : tokens ++ [Token.eof] = (d.tokens ++ .eof :: rest) ++ [t] := by
          simpa using hdt
        obtain ⟨rfl, -⟩ := List.append_inj' hsplit rfl
        exact absurd (by simp) he

/-- What stands behind the end token is never read. -/
theorem ofTokens_append (he : .eof ∈ tokens) (more : List Token) :
    ofTokens (tokens ++ more) = ofTokens tokens := by
  rw [ofTokens_eq, ofTokens_eq, List.length_append,
    runOr_append _ 0 tokens more (by omega) he]
  cases hr : runOr tokens.length 0 tokens with
  | error f => rfl
  | ok x =>
      obtain ⟨p, rest⟩ := x
      obtain ⟨d, hdt, -, -⟩ := runOr_sound _ 0 _ (by omega) hr
      exact closeQuery_append (by simpa [hdt, d.eof_notMem] using he) _ more p

end SocketInventory.Query
