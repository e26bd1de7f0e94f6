import SocketInventory.Presets

/-!
# Configuration from a request

What a user asks for by name, turned into a configuration. What is missing or empty stands for
everything, or for the default.
-/

namespace SocketInventory

/-- The wishes that make a configuration. -/
structure Request where
  backend : Option String
  family : Option String
  kind : Option String
  expandOwners : Bool
  strictProcesses : Bool
  limit : Option Seconds
  presets : Option String

namespace Config

def familyChoices : List (String × List Family) :=
  [("all", [.inet4, .inet6]), ("inet4", [.inet4]), ("inet6", [.inet6])]

def transportChoices : List (String × List Transport) :=
  [("all", [.tcp, .udp]), ("tcp", [.tcp]), ("udp", [.udp])]

/-- A wish that is neither missing nor empty, or a default. -/
def wish (default : String) (w : Option String) : String := (w.filter (· ≠ "")).getD default

def choose {α : Type} (choices : List (String × α)) (name : String) : Except Error α :=
  match choices.lookup name with
  | some a => .ok a
  | none => .error (.unknownKey name)

/-- A limit that is not positive is no limit; a missing one is the default. -/
def limitOf : Option Seconds → Option Seconds
  | none => some defaultLimit
  | some s => if s.isPositive then some s else none

def ofRequest (r : Request) : Session Config := do
  let families ← liftM (choose familyChoices (wish "all" r.family))
  let transports ← liftM (choose transportChoices (wish "all" r.kind))
  let presets ← Presets.load r.presets
  if r.strictProcesses then Session.printError "[*] process table failures are fatal"
  return {
    backend := wish "auto" r.backend
    families := families
    transports := transports
    expandOwners := r.expandOwners
    strictProcesses := r.strictProcesses
    queryLimit := limitOf r.limit
    presets := presets }

end Config

end SocketInventory
