import SocketInventory.Query.Basic
import SocketInventory.Text.Case

/-!
# Derivations of queries

The grammar of queries as trees: a disjunction of conjunctions of factors, where a factor is a
disjunction in parentheses, a negated factor or a comparison. A tree yields its tokens, denotes a
query, and has a depth: the greatest number of parentheses and negations around one of its parts.
-/

namespace SocketInventory.Query

/-- What may stand on the right of an operator. -/
inductive Operand where
  | number (n : Nat)
  | string (s : String)
  | word (w : String)
  deriving DecidableEq, Repr

def Operand.token : Operand → Token
  | .number n => .number n
  | .string s => .string s
  | .word w => .word w

def Operand.value : Operand → Value
  | .number n => .number n
  | .string s => .text s
  | .word w => .text w

mutual
/-- One conjunction or more, joined by `or`. -/
inductive Disjunction where
  | last (c : Conjunction)
  | or (c : Conjunction) (d : Disjunction)

/-- One factor or more, joined by `and`. -/
inductive Conjunction where
  | last (f : Factor)
  | and (f : Factor) (c : Conjunction)

inductive Factor where
  | group (d : Disjunction)
  | not (f : Factor)
  | comparison (field : String) (op : Op) (operand : Operand)
end

/-! ## Tokens -/

mutual
def Disjunction.tokens : Disjunction → List Token
  | .last c => c.tokens
  | .or c d => c.tokens ++ .or :: d.tokens

def Conjunction.tokens : Conjunction → List Token
  | .last f => f.tokens
  | .and f c => f.tokens ++ .and :: c.tokens

def Factor.tokens : Factor → List Token
  | .group d => .lparen :: (d.tokens ++ [.rparen])
  | .not f => .not :: f.tokens
  | .comparison field op operand => [.word field, .op op, operand.token]
end

/-! ## Depth -/

mutual
/-- Parts side by side count once: the depth is that of the deepest. -/
def Disjunction.depth : Disjunction → Nat
  | .last c => c.depth
  | .or c d => max c.depth d.depth

def Conjunction.depth : Conjunction → Nat
  | .last f => f.depth
  | .and f c => max f.depth c.depth

def Factor.depth : Factor → Nat
  | .group d => d.depth + 1
  | .not f => f.depth + 1
  | .comparison _ _ _ => 0
end

/-! ## Queries -/

/-- The name of a field as a query holds it. -/
def fieldName (w : String) : String := String.ofList (Text.lower w.toList)

mutual
def Disjunction.query : Disjunction → Query
  | .last c => c.query
  | .or c d => .or c.query d.query

def Conjunction.query : Conjunction → Query
  | .last f => f.query
  | .and f c => .and f.query c.query

def Factor.query : Factor → Query
  | .group d => .group d.query
  | .not f => .not f.query
  | .comparison field op operand => .comparison (fieldName field) op operand.value
end

/-- The greatest number of parentheses and negations around a comparison of a query. -/
def depth : Query → Nat
  | .comparison _ _ _ => 0
  | .group q => q.depth + 1
  | .not q => q.depth + 1
  | .and p q => max p.depth q.depth
  | .or p q => max p.depth q.depth

mutual
/-- A query is as deep as its derivation. -/
theorem Disjunction.depth_query : (d : Disjunction) → d.query.depth = d.depth
  | .last c => c.depth_query
  | .or c d => by simp only [Disjunction.query, Query.depth, c.depth_query, d.depth_query,
      Disjunction.depth]

theorem Conjunction.depth_query : (c : Conjunction) → c.query.depth = c.depth
  | .last f => f.depth_query
  | .and f c => by simp only [Conjunction.query, Query.depth, f.depth_query, c.depth_query,
      Conjunction.depth]

theorem Factor.depth_query : (f : Factor) → f.query.depth = f.depth
  | .group d => congrArg (· + 1) d.depth_query
  | .not f => congrArg (· + 1) f.depth_query
  | .comparison _ _ _ => rfl
end

/-! ## The end token -/

theorem Operand.token_ne_eof (v : Operand) : v.token ≠ .eof := by
  cases v <;> simp [Operand.token]

theorem Operand.value?_token (v : Operand) : v.token.value? = some v.value := by
  cases v <;> rfl

/-- A token with a value is that of an operand. -/
theorem Token.operand {t : Token} {x : Value} (h : t.value? = some x) :
    ∃ v : Operand, v.token = t ∧ v.value = x := by
  cases t with
  | string s => cases h; exact ⟨.string s, rfl, rfl⟩
  | number n => cases h; exact ⟨.number n, rfl, rfl⟩
  | word w => cases h; exact ⟨.word w, rfl, rfl⟩
  | _ => cases h

mutual
theorem Disjunction.eof_notMem : (d : Disjunction) → .eof ∉ d.tokens
  | .last c => by simpa only [Disjunction.tokens] using c.eof_notMem
  | .or c d => by
      have hc := c.eof_notMem
      have hd := d.eof_notMem
      simp [Disjunction.tokens, hc, hd]

theorem Conjunction.eof_notMem : (c : Conjunction) → .eof ∉ c.tokens
  | .last f => by simpa only [Conjunction.tokens] using f.eof_notMem
  | .and f c => by
      have hf := f.eof_notMem
      have hc := c.eof_notMem
      simp [Conjunction.tokens, hf, hc]

theorem Factor.eof_notMem : (f : Factor) → .eof ∉ f.tokens
  | .group d => by
      have hd := d.eof_notMem
      simp [Factor.tokens, hd]
  | .not f => by
      have hf := f.eof_notMem
      simp [Factor.tokens, hf]
  | .comparison field op operand => by
      have hv := operand.token_ne_eof
      simp [Factor.tokens, hv.symm]
end

/-! ## No empty yield -/

theorem Factor.tokens_ne_nil (f : Factor) : f.tokens ≠ [] := by
  cases f <;> simp [Factor.tokens]

theorem Conjunction.tokens_ne_nil (c : Conjunction) : c.tokens ≠ [] := by
  cases c with
  | last f => exact f.tokens_ne_nil
  | and f c => simp [Conjunction.tokens]

theorem Disjunction.tokens_ne_nil (d : Disjunction) : d.tokens ≠ [] := by
  cases d with
  | last c => exact c.tokens_ne_nil
  | or c d => simp [Disjunction.tokens]

end SocketInventory.Query
