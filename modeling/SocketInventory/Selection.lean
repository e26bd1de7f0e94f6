import SocketInventory.Filter
import SocketInventory.Inventory

/-!
# Selections

The query that a preset and a filter make together, and the records of an inventory that satisfy a
query.
-/

namespace SocketInventory.Selection

/-- The query of a preset and a filter, either of which may be missing or empty. An error is the
name of a preset that is unknown. -/
def query (presets : Presets) (preset : Option String) (filter : String) : Except String String :=
  match preset.filter (· ≠ "") with
  | none => .ok filter
  | some name =>
    match presets.lookup name with
    | none => .error name
    | some query => .ok (if filter = "" then query else Filter.narrow query filter)

/-- The records that satisfy a query, or the message of a failure of the host. -/
def records (inventory : Session (List Record)) (query : String) :
    Session (Except String (List Record)) :=
  tryCatch
    (do
      let records ← inventory
      return Except.ok (← liftM (Filter.apply records query)))
    fun
      | .enumeration e => return Except.error e.message
      | .processTable e => return Except.error e.message
      | e => throw e

end SocketInventory.Selection
