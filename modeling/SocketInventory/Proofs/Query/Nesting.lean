import SocketInventory.Proofs.Query.Parser

/-!
# Parentheses in derivations

The part of a derivation that stands in the first parentheses is found by its tokens alone, and a
derivation that is broken off behind a string is made whole by closing the parentheses that are
open there.
-/

namespace SocketInventory.Query

/-! ## Readings of one sequence -/

/-- Two derivations that start one sequence, neither continued by a connective, are read alike. -/
theorem Disjunction.prefix_unique {d e : Disjunction} {rest rest' : List Token}
    (hd : d.depth ≤ maxDepth) (he : e.depth ≤ maxDepth) (h : d.tokens ++ rest = e.tokens ++ rest')
    (hor : rest.head? ≠ some .or) (hand : rest.head? ≠ some .and)
    (hor' : rest'.head? ≠ some .or) (hand' : rest'.head? ≠ some .and) :
    d.query = e.query ∧ d.tokens = e.tokens ∧ rest = rest' := by
  have hrun := d.run_tokens 0 0 (by omega) rest hor hand
  rw [h, e.run_tokens 0 0 (by omega) rest' hor' hand'] at hrun
  obtain ⟨hq, rfl⟩ := Prod.mk.inj (Except.ok.inj hrun)
  exact ⟨hq.symm, List.append_cancel_right h, rfl⟩

theorem Disjunction.query_unique {d e : Disjunction} (hd : d.depth ≤ maxDepth)
    (he : e.depth ≤ maxDepth) (h : d.tokens = e.tokens) : d.query = e.query :=
  (@prefix_unique d e [] [] hd he (by rw [h]) (by simp) (by simp) (by simp) (by simp)).1

/-! ## The first parentheses -/

theorem Factor.tokens_lparen {f : Factor} {rest more : List Token}
    (h : f.tokens ++ more = .lparen :: rest) :
    ∃ g : Disjunction, rest = g.tokens ++ .rparen :: more ∧ g.depth < f.depth := by
  cases f with
  | group d =>
      refine ⟨d, ?_, Nat.lt_succ_self _⟩
      simpa [Factor.tokens] using h.symm
  | not f => simp [Factor.tokens] at h
  | comparison field op operand => simp [Factor.tokens] at h

theorem Conjunction.tokens_lparen {c : Conjunction} {rest more : List Token}
    (h : c.tokens ++ more = .lparen :: rest) :
    ∃ (g : Disjunction) (behind : List Token), rest = g.tokens ++ .rparen :: (behind ++ more) ∧
      g.depth < c.depth ∧
      (behind = [] ∨ ∃ e : Conjunction, behind = .and :: e.tokens ∧ e.depth ≤ c.depth) := by
  cases c with
  | last f =>
      obtain ⟨g, hrest, hg⟩ := Factor.tokens_lparen h
      exact ⟨g, [], hrest, hg, .inl rfl⟩
  | and f c =>
      rw [Conjunction.tokens, List.append_assoc] at h
      obtain ⟨g, hrest, hg⟩ := Factor.tokens_lparen h
      refine ⟨g, .and :: c.tokens, hrest, ?_, .inr ⟨c, rfl, ?_⟩⟩
      · simp only [Conjunction.depth]; omega
      · simp only [Conjunction.depth]; omega

/-- A derivation that starts with a parenthesis starts with a derivation in parentheses, behind
which there is nothing, or a connective and a further derivation. -/
theorem Disjunction.tokens_lparen {d : Disjunction} {rest : List Token}
    (h : d.tokens = .lparen :: rest) :
    ∃ (g : Disjunction) (behind : List Token), rest = g.tokens ++ .rparen :: behind ∧
      g.depth < d.depth ∧
      (behind = [] ∨ ∃ e : Disjunction, e.depth ≤ d.depth ∧
        (behind = .and :: e.tokens ∨ behind = .or :: e.tokens)) := by
  cases d with
  | last c =>
      obtain ⟨g, behind, hrest, hg, hbehind⟩ :=
        @Conjunction.tokens_lparen c rest [] (by simpa [Disjunction.tokens] using h)
      rw [List.append_nil] at hrest
      refine ⟨g, behind, hrest, hg, ?_⟩
      rcases hbehind with rfl | ⟨e, rfl, he⟩
      · exact .inl rfl
      · exact .inr ⟨.last e, he, .inl rfl⟩
  | or c d =>
      obtain ⟨g, behind, hrest, hg, hbehind⟩ := Conjunction.tokens_lparen h
      refine ⟨g, _, hrest, ?_, .inr ?_⟩
      · simp only [Disjunction.depth]; omega
      · rcases hbehind with rfl | ⟨e, rfl, he⟩
        · exact ⟨d, by simp only [Disjunction.depth]; omega, .inr rfl⟩
        · exact ⟨.or e d, by simp only [Disjunction.depth]; omega, .inl rfl⟩

/-! ## Broken off derivations -/

theorem append_eq_mid {α : Type} {a rest before behind : List α} {x : α}
    (h : a ++ rest = before ++ x :: behind) :
    (∃ m, a = before ++ x :: m ∧ behind = m ++ rest) ∨
      ∃ m, before = a ++ m ∧ rest = m ++ x :: behind := by
  rcases List.append_eq_append_iff.1 h with ⟨m, rfl, hrest⟩ | ⟨m, rfl, hx⟩
  · exact .inr ⟨m, rfl, hrest⟩
  · rcases m with _ | ⟨y, m⟩
    · exact .inr ⟨[], by simp, by simpa using hx.symm⟩
    · cases hx
      exact .inl ⟨m, rfl, rfl⟩

/-- What stands before a string, the string and the closing parentheses that are missing behind it
make a tree, for any string. -/
def Closes {α : Type} (tokens : α → List Token) (depth : α → Nat) (n : Nat)
    (before : List Token) : Prop :=
  ∃ k ≤ n, ∀ s : String, ∃ x : α,
    tokens x = before ++ .string s :: List.replicate k .rparen ∧ depth x ≤ n

theorem Closes.map {α β : Type} {tokens : α → List Token} {depth : α → Nat}
    {tokens' : β → List Token} {depth' : β → Nat} {n n' : Nat} {before : List Token}
    (h : Closes tokens depth n before) (first : List Token) (g : α → β) (hn : n ≤ n')
    (ht : ∀ x, tokens' (g x) = first ++ tokens x) (hd : ∀ x, depth x ≤ n → depth' (g x) ≤ n') :
    Closes tokens' depth' n' (first ++ before) := by
  obtain ⟨k, hk, hclose⟩ := h
  refine ⟨k, by omega, fun s => ?_⟩
  obtain ⟨x, hx, hxd⟩ := hclose s
  exact ⟨g x, by rw [ht, hx, List.append_assoc], hd x hxd⟩

mutual
/-- A tree that is broken off behind a string is closed. -/
theorem Disjunction.closes {s : String} : (d : Disjunction) → (before behind : List Token) →
    d.tokens = before ++ .string s :: behind →
    Closes Disjunction.tokens Disjunction.depth d.depth before
  | .last c, before, behind, h =>
      (c.closes before behind h).map [] .last (Nat.le_refl _) (fun _ => rfl) fun _ hx => hx
  | .or c d, before, behind, h => by
      rcases append_eq_mid h with ⟨m, hc, -⟩ | ⟨m, rfl, hm⟩
      · refine (c.closes before m hc).map [] .last ?_ (fun _ => rfl) fun _ hx => ?_
        · simp only [Disjunction.depth]; omega
        · simp only [Disjunction.depth]; omega
      · rcases List.append_eq_cons_iff.1 hm.symm with ⟨-, ho⟩ | ⟨m, rfl, hd⟩
        · cases ho
        · rw [List.append_cons]
          refine (d.closes m behind hd).map _ (.or c) ?_ (fun _ => ?_) fun _ hx => ?_
          · simp only [Disjunction.depth]; omega
          · simp [Disjunction.tokens]
          · simp only [Disjunction.depth]; omega

theorem Conjunction.closes {s : String} : (c : Conjunction) → (before behind : List Token) →
    c.tokens = before ++ .string s :: behind →
    Closes Conjunction.tokens Conjunction.depth c.depth before
  | .last f, before, behind, h =>
      (f.closes before behind h).map [] .last (Nat.le_refl _) (fun _ => rfl) fun _ hx => hx
  | .and f c, before, behind, h => by
      rcases append_eq_mid h with ⟨m, hf, -⟩ | ⟨m, rfl, hm⟩
      · refine (f.closes before m hf).map [] .last ?_ (fun _ => rfl) fun _ hx => ?_
        · simp only [Conjunction.depth]; omega
        · simp only [Conjunction.depth]; omega
      · rcases List.append_eq_cons_iff.1 hm.symm with ⟨-, ha⟩ | ⟨m, rfl, hc⟩
        · cases ha
        · rw [List.append_cons]
          refine (c.closes m behind hc).map _ (.and f) ?_ (fun _ => ?_) fun _ hx => ?_
          · simp only [Conjunction.depth]; omega
          · simp [Conjunction.tokens]
          · simp only [Conjunction.depth]; omega

theorem Factor.closes {s : String} : (f : Factor) → (before behind : List Token) →
    f.tokens = before ++ .string s :: behind → Closes Factor.tokens Factor.depth f.depth before
  | .group d, before, behind, h => by
      rcases List.append_eq_cons_iff.1 h.symm with ⟨-, hl⟩ | ⟨before, rfl, hd⟩
      · cases hl
      · rcases append_eq_mid hd with ⟨m, hd, -⟩ | ⟨m, rfl, hm⟩
        · obtain ⟨k, hk, hclose⟩ := d.closes before m hd
          refine ⟨k + 1, Nat.succ_le_succ hk, fun s' => ?_⟩
          obtain ⟨e, he, hed⟩ := hclose s'
          refine ⟨.group e, ?_, Nat.succ_le_succ hed⟩
          simp [Factor.tokens, he, List.replicate_succ']
        · rcases m with _ | ⟨t, m⟩ <;> simp at hm
  | .not f, before, behind, h => by
      rcases List.append_eq_cons_iff.1 h.symm with ⟨-, hn⟩ | ⟨before, rfl, hf⟩
      · cases hn
      · exact (f.closes before behind hf).map [.not] .not (Nat.le_succ _) (fun _ => rfl)
          fun _ hx => Nat.succ_le_succ hx
  | .comparison field op operand, before, behind, h => by
      -- The string is the operand: nothing is open before it.
      obtain ⟨rfl, -⟩ : before = [.word field, .op op] ∧ behind = [] := by
        rcases before with _ | ⟨t, _ | ⟨u, _ | ⟨v, before⟩⟩⟩ <;> simp_all [Factor.tokens]
      exact ⟨0, Nat.le_refl _, fun s' => ⟨.comparison field op (.string s'), rfl, Nat.le_refl _⟩⟩
end

/-! ## Trees put together -/

/-- One disjunction behind another. -/
def Disjunction.join : Disjunction → Disjunction → Disjunction
  | .last c, e => .or c e
  | .or c d, e => .or c (d.join e)

theorem Disjunction.tokens_join (d e : Disjunction) :
    (d.join e).tokens = d.tokens ++ .or :: e.tokens := by
  fun_induction Disjunction.join d e with
  | case1 c e => rfl
  | case2 c d e ih => simp [Disjunction.tokens, ih]

theorem Disjunction.depth_join (d e : Disjunction) :
    (d.join e).depth = max d.depth e.depth := by
  fun_induction Disjunction.join d e with
  | case1 c e => rfl
  | case2 c d e ih => simp only [Disjunction.depth, ih, Nat.max_assoc]

/-- A factor in parentheses, a number of times. -/
def Factor.nest (f : Factor) : Nat → Factor
  | 0 => f
  | k + 1 => .group (.last (.last (f.nest k)))

theorem Factor.tokens_nest (f : Factor) (k : Nat) : (f.nest k).tokens =
    List.replicate k .lparen ++ (f.tokens ++ List.replicate k .rparen) := by
  induction k with
  | zero => simp [Factor.nest]
  | succ k ih =>
      simp only [Factor.nest, Factor.tokens, Disjunction.tokens, Conjunction.tokens, ih]
      simp [List.replicate_succ, ← List.replicate_succ']

theorem Factor.depth_nest (f : Factor) (k : Nat) : (f.nest k).depth = f.depth + k := by
  induction k with
  | zero => rfl
  | succ k ih =>
      simp only [Factor.nest, Factor.depth, Disjunction.depth, Conjunction.depth, ih]
      rfl

end SocketInventory.Query
