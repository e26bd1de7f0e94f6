import SocketInventory.Error
import SocketInventory.Query.Evaluation
import SocketInventory.Query.Parser
import SocketInventory.Query.Token

/-!
# Filters

Query texts as filters over records. A blank text is no query and keeps every record.
-/

namespace SocketInventory

/-- The query that a text denotes. A number of too many digits is an error of its own kind. -/
def Query.parse (s : String) : Except Error Query :=
  match Query.tokenize s with
  | .error fault => .error (.badNumeral s fault)
  | .ok tokens => (Query.ofTokens tokens).mapError fun fault => .query (.malformed fault)

namespace Filter

def isBlank (s : String) : Bool := Text.isBlankText s.toList

/-- A text is a valid filter when it is not blank and denotes a query. -/
def isValid (s : String) : Except Error Bool :=
  if isBlank s then .ok false
  else
    match Query.parse s with
    | .ok _ => .ok true
    | .error (.query _) => .ok false
    | .error e => .error e

/-- Why a query is refused, unless it is blank or well formed. -/
def refusal? (query : String) : Except Error (Option QueryError) :=
  if isBlank query then .ok none
  else
    match Query.parse query with
    | .ok _ => .ok none
    | .error (.query e) => .ok (some e)
    | .error e => .error e

/-- The records that satisfy a filter, in order. The first record on which the query has no answer
ends this. -/
def apply (records : List Record) (s : String) : Except Error (List Record) :=
  if isBlank s then .ok records
  else do
    let q ← Query.parse s
    records.filterM fun r => q.evaluate r

def narrow (preset extra : String) : String := "(" ++ preset ++ ") && (" ++ extra ++ ")"

/-- Compares as the operator of a given name does. -/
def compareNamed (actual : Query.Content) (op : String) (expected : Query.Content) :
    Except Error Bool :=
  Query.stage actual op expected >>= Query.Stage.answer

end Filter

end SocketInventory
