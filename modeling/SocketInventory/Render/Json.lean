import SocketInventory.Error
import SocketInventory.Json.Writer
import SocketInventory.Record

/-!
# Records as JSON

A record is an object of its fields, each end an object of address and port. Integers beyond 64
bits cannot be written.
-/

namespace SocketInventory.Render

/-- An integer within the range of signed and unsigned words of 64 bits. -/
def jsonInteger (n : Int) : Except Error Json :=
  if -0x8000000000000000 ≤ n && n < 0x10000000000000000 then .ok (.int n) else .error .integerRange

def jsonPort : Option Int → Except Error Json
  | none => .ok .null
  | some port => jsonInteger port

/-- A text, or nothing where there is none. -/
def jsonText (s : Option String) : Json := s.elim .null fun s => .text s

def jsonEnd (e : Endpoint) : Except Error Json := do
  return .object [("address", jsonText e.address), ("port", ← jsonPort e.port)]

def jsonRecord (r : Record) : Except Error Json := do
  return .object
    [("protocol", .text r.protocol),
      ("local", ← jsonEnd r.localEnd),
      ("remote", ← jsonEnd r.remoteEnd),
      ("state", .text r.state),
      ("pid", ← jsonInteger r.pid),
      ("processName", jsonText r.processName)]

def jsonRecords (records : List Record) : Except Error Json := do
  return .list (← records.mapM jsonRecord)

def json (style : Json.Style) (records : List Record) : Except Error String := do
  return (← jsonRecords records).render style

end SocketInventory.Render
