import SocketInventory.Number.Binary64
import SocketInventory.Text.Letter

/-!
# JSON values

Values of the interchange format. The members of an object keep their order, and a name may stand
twice; integers are exact.
-/

namespace SocketInventory

open Text (Letters letters)

inductive Json where
  | null
  | bool (b : Bool)
  | int (n : Int)
  | real (x : Number.Binary64)
  | text (s : Letters)
  | list (items : List Json)
  | object (members : List (Letters × Json))

namespace Json

/-- The member of an object with a name, the last one if there are several. -/
def member? (name : String) : Json → Option Json
  | .object members => members.reverse.lookup (letters name)
  | _ => none

/-- A text of whole characters. -/
def text? : Json → Option String
  | .text s => Text.whole? s
  | _ => none

def int? : Json → Option Int
  | .int n => some n
  | _ => none

def list? : Json → Option (List Json)
  | .list items => some items
  | _ => none

end Json

end SocketInventory
