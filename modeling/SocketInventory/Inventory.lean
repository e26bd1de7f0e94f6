import SocketInventory.Processes
import SocketInventory.Record
import SocketInventory.Source.Backend

/-!
# The inventory

The sockets joined with the process table. The sockets are read first, and nothing is asked of the
process table when they cannot be read. A process table that cannot be read leaves the names empty
and a warning, or fails the inventory where that is asked for.
-/

namespace SocketInventory

/-! ## Configuration -/

/-- Presets in the order in which they were given: a name and a query each. -/
abbrev Presets := List (String × String)

structure Config where
  backend : String
  families : List Family
  transports : List Transport
  /-- One record for each owner of a socket instead of the first one only. -/
  expandOwners : Bool
  /-- An unreadable process table fails the inventory. -/
  strictProcesses : Bool
  queryLimit : Option Seconds
  presets : Presets
  deriving DecidableEq, Repr

/-- Ten seconds, as a binary fraction. -/
def defaultLimit : Seconds := .real (.ofInt 10)

def Config.standard : Config :=
  ⟨"auto", [.inet4, .inet6], [.tcp, .udp], false, false, some defaultLimit, []⟩

namespace Inventory

/-! ## Records of a socket -/

/-- The text of an address; the unspecified address is absent. -/
def addressText (a : Option Address) : Option String :=
  match a with
  | none => none
  | some a => if a.isUnspecified then none else some a.text

abbrev NameIndex := List (Int × Option String)

/-- The name given last for a number, and empty for a number without entry. -/
def nameOf (index : NameIndex) (pid : Int) : Option String :=
  match index.reverse.lookup pid with
  | some name => name
  | none => some ""

/-- The owners that get a record; a socket without owner gets one for process zero. -/
def owners (expand : Bool) : List Int → List Int
  | [] => [0]
  | pid :: rest => if expand then pid :: rest else [pid]

/-- The protocol is named by the transport and the family of the local address. -/
def protocolName (transport : Transport) (v6 : Bool) : String :=
  transport.text ++ if v6 then "6" else ""

/-- The remote end of a TCP socket has a port; a UDP socket has no remote end. -/
def remoteEnd (s : Socket) : Endpoint :=
  match s.transport with
  | .tcp => ⟨addressText s.remoteAddress, some (s.remotePort.getD 0)⟩
  | .udp => ⟨none, none⟩

def record (s : Socket) (index : NameIndex) (pid : Int) : Record where
  protocol := protocolName s.transport s.localAddress.isV6
  localEnd := ⟨addressText (some s.localAddress), s.localPort⟩
  remoteEnd := remoteEnd s
  state :=
    match s.transport with
    | .tcp => stateText s.state
    | .udp => ""
  pid := pid
  processName := if pid = 0 then some "" else nameOf index pid

def records (expand : Bool) (index : NameIndex) (s : Socket) : List Record :=
  (owners expand s.pids).map (record s index)

/-! ## Building -/

/-- The names of a process table. One that fails counts as empty, with a warning, unless `strict`;
every other error passes through. -/
def nameIndex (strict : Bool) (processes : Session (Feed ProcessEntry)) : Session NameIndex := do
  let feed ← processes
  match feed.mapM id with
  | .ok index => return index
  | .error (.processTable e) =>
    if strict then throw (.processTable e)
    Session.log .warning (e.message ++ "; process names will be empty")
    return []
  | .error e => throw e

/-- Takes one snapshot: sockets first, then the names of their owners. -/
def build (sockets : Session (Feed Socket)) (processes : Session (Feed ProcessEntry))
    (expand strict : Bool) : Session (List Record) := do
  let sockets ← Session.drain (← sockets)
  let index ← nameIndex strict processes
  return sockets.flatMap (records expand index)

def sources (backend : Backend) (limit : Option Seconds) (families : List Family)
    (transports : List Transport) : Session (Feed Socket) := do
  return (← backend.collect limit families transports).map .ok

/-- A snapshot as a configuration asks for it. The backend is chosen before anything is asked. -/
def ofConfig (cfg : Config) : Session (List Record) := do
  let backend ← liftM (Backend.resolve (← Session.host) cfg.backend)
  build (sources backend cfg.queryLimit cfg.families cfg.transports) Processes.entries
    cfg.expandOwners cfg.strictProcesses

end Inventory

end SocketInventory
