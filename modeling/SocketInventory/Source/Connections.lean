import SocketInventory.Host.Basic
import SocketInventory.Source.Listing

/-!
# Sockets from the connection interface

The host lists its connections kind by kind, as records of addresses, ports, a status word and an
owner.
-/

namespace SocketInventory.Connections

def statusWords : List (String × TcpState) :=
  [("CLOSE", .closed), ("LISTEN", .listen), ("SYN_SENT", .synSent), ("SYN_RECV", .synReceived),
    ("ESTABLISHED", .established), ("FIN_WAIT1", .finWait1), ("FIN_WAIT2", .finWait2),
    ("CLOSE_WAIT", .closeWait), ("CLOSING", .closing), ("LAST_ACK", .lastAck),
    ("TIME_WAIT", .timeWait), ("DELETE_TCB", .deleteTcb)]

def parseStatus (word : String) : TcpState := (statusWords.lookup word).getD .unknown

def PortValue.integer : PortValue → Except Error Int
  | .number n => .ok n
  | .text s => (Text.parseInteger s.toList).mapError (.badNumeral s)

/-- The address and port of an end; an absent one is unspecified with port zero. -/
def parseEnd (family : Family) : Option (String × PortValue) → Except Error (Address × Int)
  | none => .ok (.unspecified family, 0)
  | some (host, port) => do
    let address ← Listing.parseHost host.toList
    return (address, ← PortValue.integer port)

/-- An owner counts unless it is zero. -/
def owners : Option Int → List Int
  | none => []
  | some pid => if pid = 0 then [] else [pid]

/-- The socket of a connection; a UDP connection's remote end and status are ignored. -/
def toSocket (transport : Transport) (c : Connection) : Except Error Socket := do
  let (address, port) ← parseEnd c.family c.localEnd
  match transport with
  | .udp => return ⟨.udp, address, some port, none, none, none, owners c.pid⟩
  | .tcp =>
    let (peer, peerPort) ← parseEnd c.family c.remoteEnd
    return ⟨.tcp, address, some port, some peer, some peerPort, some (.known (parseStatus c.status)),
      owners c.pid⟩

def listFailure (kind : Kind) : Error → Error
  | .host .accessDenied _ => .enumeration (.accessDenied kind.text)
  | .host c text =>
    if c.isProcessFault || c.isSystemFault then .enumeration (.hostFault text) else .host c text
  | e => e

def collectKind (kind : Kind) : Session (List Socket) := do
  Session.call (.connections kind)
  match (← Session.host).connections kind with
  | .ok connections => liftM (connections.mapM (toSocket kind.transport))
  | .error e => throw (listFailure kind e)

def collect (families : List Family) (transports : List Transport) : Session (List Socket) := do
  return (← (Kind.select transports families).mapM collectKind).flatten

end SocketInventory.Connections
