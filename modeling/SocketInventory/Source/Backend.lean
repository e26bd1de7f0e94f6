import SocketInventory.Source.Connections
import SocketInventory.Source.Listing
import SocketInventory.Source.OwnerTable

/-!
# Backends

The source of sockets is chosen by name, or by the platform: the owner tables on Windows, the
listing on Linux where the command is installed, and the connection interface elsewhere.
-/

namespace SocketInventory

inductive Backend where
  | connections
  | listing
  | ownerTable
  deriving DecidableEq, Repr

namespace Backend

def name : Backend → String
  | .connections => "psutil"
  | .listing => "ss"
  | .ownerTable => "iphlpapi"

def automatic (host : Host) : Backend :=
  if host.platform = "Windows" then .ownerTable
  else if host.platform = "Linux" && (host.which "ss").any (· ≠ "") then .listing
  else .connections

def resolve (host : Host) (name : String) : Except Error Backend :=
  if name = "auto" then .ok (automatic host)
  else
    match [connections, listing, ownerTable].find? (·.name == name) with
    | some b => .ok b
    | none => .error (.unknownBackend name)

/-- The sockets of a selection; only the listing has a time limit. -/
def collect (limit : Option Seconds) (families : List Family) (transports : List Transport) :
    Backend → Session (List Socket)
  | .connections => Connections.collect families transports
  | .listing => Listing.collect limit families transports
  | .ownerTable => OwnerTable.collect families transports

end Backend

end SocketInventory
