import SocketInventory.Address.Basic

/-!
# Sockets

One socket as a source of sockets reports it, before it is joined with the process table.
-/

namespace SocketInventory

inductive Transport where
  | tcp
  | udp
  deriving DecidableEq, Repr

def Transport.text : Transport → String
  | .tcp => "tcp"
  | .udp => "udp"

inductive TcpState where
  | closed
  | listen
  | synSent
  | synReceived
  | established
  | finWait1
  | finWait2
  | closeWait
  | closing
  | lastAck
  | timeWait
  | deleteTcb
  | unknown
  deriving DecidableEq, Repr

def TcpState.all : List TcpState :=
  [.closed, .listen, .synSent, .synReceived, .established, .finWait1, .finWait2, .closeWait,
    .closing, .lastAck, .timeWait, .deleteTcb, .unknown]

def TcpState.text : TcpState → String
  | .closed => "CLOSED"
  | .listen => "LISTEN"
  | .synSent => "SYN_SENT"
  | .synReceived => "SYN_RECEIVED"
  | .established => "ESTABLISHED"
  | .finWait1 => "FIN_WAIT_1"
  | .finWait2 => "FIN_WAIT_2"
  | .closeWait => "CLOSE_WAIT"
  | .closing => "CLOSING"
  | .lastAck => "LAST_ACK"
  | .timeWait => "TIME_WAIT"
  | .deleteTcb => "DELETE_TCB"
  | .unknown => "UNKNOWN"

def TcpState.ofText? (s : String) : Option TcpState := TcpState.all.find? (·.text == s)

/-- The state that a source reports: one of the known states, or a word or number of its own. -/
inductive SocketState where
  | known (s : TcpState)
  | word (s : String)
  | number (n : Int)
  deriving DecidableEq, Repr

/-- The state as a record shows it; what is no known state is shown as unknown. -/
def SocketState.text : SocketState → String
  | .known s => s.text
  | .word _ => TcpState.unknown.text
  | .number _ => TcpState.unknown.text

def stateText (s : Option SocketState) : String :=
  (s.map SocketState.text).getD TcpState.unknown.text

structure Socket where
  transport : Transport
  localAddress : Address
  localPort : Option Int
  remoteAddress : Option Address
  remotePort : Option Int
  state : Option SocketState
  /-- The owners, in the order of the source. -/
  pids : List Int
  deriving DecidableEq, Repr

/-- A table of sockets: one transport in one address family. -/
structure Kind where
  transport : Transport
  family : Family
  deriving DecidableEq, Repr

def Kind.text (k : Kind) : String :=
  k.transport.text ++
    match k.family with
    | .inet4 => "4"
    | .inet6 => "6"

/-- The kinds of a selection, transport by transport. -/
def Kind.select (transports : List Transport) (families : List Family) : List Kind :=
  transports.flatMap fun t => families.map fun f => ⟨t, f⟩

end SocketInventory
