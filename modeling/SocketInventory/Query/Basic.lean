/-!
# Queries

A query is a filter over inventory records: comparisons of a field with a value, joined by
conjunction, disjunction and negation. This module holds its tokens and its tree.
-/

namespace SocketInventory

namespace Query

inductive Op where
  | eq
  | ne
  | lt
  | gt
  | le
  | ge
  deriving DecidableEq, Repr

def Op.text : Op → String
  | .eq => "="
  | .ne => "!="
  | .lt => "<"
  | .gt => ">"
  | .le => "<="
  | .ge => ">="

inductive Value where
  | number (n : Nat)
  | text (s : String)
  deriving DecidableEq, Repr

inductive Token where
  | lparen
  | rparen
  | and
  | or
  | op (o : Op)
  | not
  /-- The inside of a quoted text. -/
  | string (s : String)
  | number (n : Nat)
  | word (w : String)
  | eof
  deriving DecidableEq, Repr

/-- The sort of a token, without what it carries. -/
inductive Kind where
  | lparen
  | rparen
  | and
  | or
  | op
  | not
  | string
  | number
  | word
  | eof
  deriving DecidableEq, Repr

def Kind.name : Kind → String
  | .lparen => "lparen"
  | .rparen => "rparen"
  | .and => "and"
  | .or => "or"
  | .op => "op"
  | .not => "not"
  | .string => "string"
  | .number => "number"
  | .word => "word"
  | .eof => "eof"

def Token.kind : Token → Kind
  | .lparen => .lparen
  | .rparen => .rparen
  | .and => .and
  | .or => .or
  | .op _ => .op
  | .not => .not
  | .string _ => .string
  | .number _ => .number
  | .word _ => .word
  | .eof => .eof

/-- The value that a token denotes on the right of an operator. -/
def Token.value? : Token → Option Value
  | .string s => some (.text s)
  | .number n => some (.number n)
  | .word w => some (.text w)
  | _ => none

/-- Why a token sequence is no query. Positions count tokens from zero. -/
inductive SyntaxFault where
  | unexpected (found : Kind) (position : Nat) (expected : Kind)
  | noValue (field : String) (op : Op) (found : Kind)
  | tooDeep
  deriving DecidableEq, Repr

/-- The greatest number of parentheses and negations around a comparison. -/
def maxDepth : Nat := 64

def SyntaxFault.message : SyntaxFault → String
  | .unexpected found position expected =>
    "unexpected " ++ found.name ++ " at token " ++ toString position ++ ", expected " ++
      expected.name
  | .noValue field op found =>
    "expected value after " ++ field ++ op.text ++ ", got " ++ found.name
  | .tooDeep => "expression nested deeper than " ++ toString maxDepth ++ " levels"

end Query

/-- The tree of a query. Field names are in lower case. -/
inductive Query where
  | comparison (field : String) (op : Query.Op) (value : Query.Value)
  | group (q : Query)
  | not (q : Query)
  | and (p q : Query)
  | or (p q : Query)
  deriving DecidableEq, Repr

end SocketInventory
