import SocketInventory.Query.Basic
import SocketInventory.Text.Case

/-!
# From tokens to queries

A query is one or more conjunctions joined by `or`; a conjunction is one or more factors joined by
`and`; a factor is a query in parentheses, a negated factor, or a comparison. Parentheses and
negations may be nested up to `maxDepth` deep on any path.
-/

namespace SocketInventory.Query

/-- What is left of a token sequence after a part of it was read. -/
abbrev Rest (tokens : List Token) := { rest : List Token // rest.length < tokens.length }

/-- The token at the head; at the end it is the end token. -/
def current (tokens : List Token) : Token := tokens.headD .eof

/-- The fault of meeting the head of `tokens` in a sequence of `total` tokens. -/
def unexpected (total : Nat) (tokens : List Token) (expected : Kind) : SyntaxFault :=
  .unexpected (current tokens).kind (total - tokens.length) expected

def parseComparison (total : Nat) (tokens : List Token) :
    Except SyntaxFault (Query × Rest tokens) :=
  match tokens with
  | .word w :: rest =>
    let field := String.ofList (Text.lower w.toList)
    match rest with
    | .op o :: rest' =>
      match rest' with
      | [] => .error (.noValue field o .eof)
      | t :: rest'' =>
        match t.value? with
        | some v => .ok (.comparison field o v, ⟨rest'', by simp only [List.length_cons]; omega⟩)
        | none => .error (.noValue field o t.kind)
    | _ => .error (unexpected total rest .op)
  | _ => .error (unexpected total tokens .word)

/-- The length of what follows the head of a rest. -/
theorem Rest.tail_lt {tokens rest : List Token} {t : Token} (r : Rest tokens)
    (h : r.val = t :: rest) : rest.length + 1 < tokens.length := by
  have := r.property
  rw [h] at this
  exact this

mutual
def parseOr (total depth : Nat) (tokens : List Token) :
    Except SyntaxFault (Query × Rest tokens) := do
  let (p, r) ← parseAnd total depth tokens
  match h : r.val with
  | .or :: rest =>
    have := r.tail_lt h
    let (q, r') ← parseOr total depth rest
    return (.or p q, ⟨r'.val, by have := r'.property; omega⟩)
  | _ => return (p, r)
termination_by 3 * tokens.length + 2

def parseAnd (total depth : Nat) (tokens : List Token) :
    Except SyntaxFault (Query × Rest tokens) := do
  let (p, r) ← parseFactor total depth tokens
  match h : r.val with
  | .and :: rest =>
    have := r.tail_lt h
    let (q, r') ← parseAnd total depth rest
    return (.and p q, ⟨r'.val, by have := r'.property; omega⟩)
  | _ => return (p, r)
termination_by 3 * tokens.length + 1

def parseFactor (total depth : Nat) (tokens : List Token) :
    Except SyntaxFault (Query × Rest tokens) :=
  match tokens with
  | .lparen :: inner =>
    if maxDepth ≤ depth then .error .tooDeep
    else do
      let (q, r) ← parseOr total (depth + 1) inner
      match h : r.val with
      | .rparen :: rest =>
        return (.group q, ⟨rest, by have := r.tail_lt h; simp only [List.length_cons]; omega⟩)
      | rest => throw (unexpected total rest .rparen)
  | .not :: inner =>
    if maxDepth ≤ depth then .error .tooDeep
    else do
      let (q, r) ← parseFactor total (depth + 1) inner
      return (.not q, ⟨r.val, by have := r.property; simp only [List.length_cons]; omega⟩)
  | tokens => parseComparison total tokens
termination_by 3 * tokens.length
end

/-- The query that a token sequence denotes. -/
def ofTokens (tokens : List Token) : Except SyntaxFault Query := do
  let (q, r) ← parseOr tokens.length 0 tokens
  match r.val with
  | .eof :: _ => return q
  | rest => throw (unexpected tokens.length rest .eof)

end SocketInventory.Query
