/-!
# Inventory records

One row of the inventory: a socket with the process that owns it.
-/

namespace SocketInventory

/-- One end of a socket. An address is present when it is not the unspecified one; only the remote
end of a UDP socket has no port. -/
structure Endpoint where
  address : Option String
  port : Option Int
  deriving DecidableEq, Repr

structure Record where
  /-- One of `tcp`, `tcp6`, `udp` and `udp6` in an inventory. -/
  protocol : String
  localEnd : Endpoint
  remoteEnd : Endpoint
  /-- Empty for UDP. -/
  state : String
  /-- Zero when no owner is known. -/
  pid : Int
  /-- Empty when the process table does not list the owner, absent when it lists it nameless. -/
  processName : Option String
  deriving DecidableEq, Repr

end SocketInventory
