import SocketInventory.Data.Fault

/-!
# Faults of YAML texts
-/

namespace SocketInventory.Yaml

inductive Fault where
  | malformed
  /-- The word of a truth value is none; in lower case. -/
  | noTruthValue (word : String)
  | data (f : DataFault)
  deriving DecidableEq, Repr

def orMalformed {α : Type} : Option α → Except Fault α
  | some a => .ok a
  | none => .error .malformed

end SocketInventory.Yaml
