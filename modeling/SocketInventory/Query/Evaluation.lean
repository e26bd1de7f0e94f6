import SocketInventory.Error
import SocketInventory.Query.Eval

/-!
# Evaluation with its failures

A comparison names its operator by a text. It first makes its two values alike, then answers
whether they are equal, and asks for their order last, by the operator's entry in a table. An
integer may have too many digits to become a text, the table may lack the operator, and two values
of different sorts would stand in no order.
-/

namespace SocketInventory.Query

/-- A value that is ready to be compared: an integer, or the code points of a text in lower case. -/
inductive Key where
  | number (n : Int)
  | text (codes : List Nat)
  deriving DecidableEq, Repr

def Key.sort : Key → String
  | .number _ => "int"
  | .text _ => "str"

/-- How far a comparison comes before it asks for an order. -/
inductive Stage where
  | settled (answer : Bool)
  | ordering (op : String) (actual expected : Key)
  deriving DecidableEq, Repr

def Stage.between (op : String) (actual expected : Key) : Stage :=
  if op = "=" then .settled (actual == expected)
  else if op = "!=" then .settled (actual != expected)
  else .ordering op actual expected

def Content.shown : Content → Except Error (List Char)
  | .number n => shownInteger n
  | .text s => .ok s.toList

def stageText (op : String) (actual expected : List Char) : Stage :=
  if op = "=" && Text.hasStar expected then .settled (Text.fits expected actual)
  else .between op (.text (Text.codes actual)) (.text (Text.codes expected))

def stage (actual : Content) (op : String) : Content → Except Error Stage
  | .text s => do
    let chars ← actual.shown
    return stageText op (Text.lower chars) (Text.lower s.toList)
  | .number n =>
    match actual.integer? with
    | some a => .ok (.between op (.number a) (.number n))
    | none => .ok (.settled (op == "!="))

def orderings : List (String × Op) := [(">", .gt), ("<", .lt), (">=", .ge), ("<=", .le)]

def Key.order (op : Op) : Key → Key → Except Error Bool
  | .number a, .number b => .ok (op.test a b)
  | .text a, .text b => .ok (op.test a b)
  | a, b => .error (.incomparable op a.sort b.sort)

def Stage.answer : Stage → Except Error Bool
  | .settled b => .ok b
  | .ordering name a b =>
    match orderings.lookup name with
    | some op => Key.order op a b
    | none => .error (.unknownKey name)

/-- The answer of a query. What stands behind the first answer that decides is not evaluated. -/
def evaluate (r : Record) : Query → Except Error Bool
  | .comparison field op value =>
    match Field.ofName? field >>= Field.content? r with
    | some actual => stage actual op.text value.content >>= Stage.answer
    | none => .ok false
  | .group q => q.evaluate r
  | .not q => do return !(← q.evaluate r)
  | .and p q => do if ← p.evaluate r then q.evaluate r else return false
  | .or p q => do if ← p.evaluate r then return true else q.evaluate r

end SocketInventory.Query
