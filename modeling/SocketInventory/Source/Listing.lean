import SocketInventory.Host.Basic
import SocketInventory.Text.Case

/-!
# Sockets from a command's listing

The command `ss -tuanp` prints one socket a line: its protocol, state, two queue lengths, local and
peer address with port, and the processes that hold it. Lines of any other form are passed over.
-/

namespace SocketInventory.Listing

/-! ## Addresses and ports -/

/-- The address part of a column without its zone and brackets. -/
def bareHost (s : List Char) : List Char :=
  let host := (Text.trim s).takeWhile (· != '%')
  if host.head? = some '[' && host.getLast? = some ']' then (host.drop 1).dropLast else host

/-- Reads an address as tools print it; a star stands for the unspecified IPv6 address. -/
def parseHost (s : List Char) : Except Error Address :=
  let host := bareHost s
  if host = ['*'] then .ok (.unspecified .inet6)
  else
    match Address.parse? host with
    | some a => .ok a
    | none => .error (.badAddress (String.ofList host))

/-- The integer that a text is, or a substitute. -/
def integerOr (substitute : Int) (s : List Char) : Int :=
  match Text.parseInteger s with
  | .ok n => n
  | .error _ => substitute

/-- Reads an address and, behind the last colon, a port; a star stands for port zero. -/
def parseEnd (s : List Char) : Except Error (Address × Int) :=
  match Text.cutLast? ':' s with
  | none => .error (.noPort (String.ofList s))
  | some (host, port) => do
    let address ← parseHost host
    return (address, if port = ['*'] then 0 else integerOr 0 port)

/-! ## Owners -/

/-- The digits behind each `pid=` of a text. -/
def pidNumerals (s : List Char) : List (List Char) :=
  match s with
  | [] => []
  | 'p' :: 'i' :: 'd' :: '=' :: rest =>
    let digits := rest.takeWhile Text.isDecimalDigit
    if digits.isEmpty then pidNumerals rest
    else digits :: pidNumerals (rest.drop digits.length)
  | _ :: rest => pidNumerals rest
termination_by s.length
decreasing_by all_goals simp <;> omega

/-- A list without its later repetitions. -/
def distinct (xs : List Int) : List Int :=
  xs.foldl (fun kept x => if kept.contains x then kept else kept ++ [x]) []

/-- The owners that a process column names, each once. -/
def parsePids (users : List Char) : Except Error (List Int) := do
  let pids ← (pidNumerals users).mapM fun digits =>
    (Text.parseMagnitude digits).mapError (.badNumeral (String.ofList digits))
  return distinct (pids.map Int.ofNat)

/-! ## Lines -/

/-- A column and what follows it, the blanks between them dropped. -/
def column (s : List Char) : List Char × List Char :=
  (s.takeWhile (!Text.isBlank ·), (s.dropWhile (!Text.isBlank ·)).dropWhile Text.isBlank)

structure Columns where
  protocol : List Char
  state : List Char
  localEnd : List Char
  peerEnd : List Char
  /-- Empty when the line has no such column. -/
  users : List Char
  deriving DecidableEq, Repr

/-- Cuts a line into columns. The process column reaches to the end and may hold blanks, but no
line feed. -/
def columns? (line : List Char) : Option Columns :=
  let (protocol, rest) := column (Text.trim line)
  let (state, rest) := column rest
  let (received, rest) := column rest
  let (sent, rest) := column rest
  let (localEnd, rest) := column rest
  let (peerEnd, users) := column rest
  if [protocol, state, received, sent, localEnd, peerEnd].any List.isEmpty then none
  else if users.contains '\n' then none
  else some ⟨protocol, state, localEnd, peerEnd, users⟩

def transport? (protocol : List Char) : Option Transport :=
  let name := Text.lower protocol
  if name = ['t', 'c', 'p'] then some .tcp
  else if name = ['u', 'd', 'p'] then some .udp
  else none

/-- The words of the listing for the states of a connection. -/
def stateWords : List (String × TcpState) :=
  [("CLOSED", .closed), ("LISTEN", .listen), ("SYN-SENT", .synSent), ("SYN-RECV", .synReceived),
    ("ESTAB", .established), ("FIN-WAIT-1", .finWait1), ("FIN-WAIT-2", .finWait2),
    ("CLOSE-WAIT", .closeWait), ("CLOSING", .closing), ("LAST-ACK", .lastAck),
    ("TIME-WAIT", .timeWait)]

/-- The state of a word in any case; an unlisted word is kept in upper case. -/
def parseState (word : List Char) : SocketState :=
  let name := String.ofList (Text.upper word)
  match stateWords.lookup name with
  | some s => .known s
  | none => .word name

/-- The socket of a line, if the line describes one. Only an owner's number of too many digits is
an error. -/
def parseLine (line : List Char) : Except Error (Option Socket) :=
  match columns? line with
  | none => .ok none
  | some c =>
    match transport? c.protocol, parseEnd c.localEnd, parseEnd c.peerEnd with
    | some .udp, .ok (address, port), .ok _ => do
      let pids ← parsePids c.users
      return some ⟨.udp, address, some port, none, none, none, pids⟩
    | some .tcp, .ok (address, port), .ok (peer, peerPort) => do
      let pids ← parsePids c.users
      return some
        ⟨.tcp, address, some port, some peer, some peerPort, some (parseState c.state), pids⟩
    | _, _, _ => .ok none

/-- Blank lines and the header are no socket lines. -/
def isSkipped (line : List Char) : Bool :=
  Text.isBlankText line || ['N', 'e', 't', 'i', 'd'].isPrefixOf line

def parseOutput (output : List Char) : Except Error (List Socket) := do
  let found ← ((Text.splitLines output).filter (!isSkipped ·)).mapM parseLine
  return found.filterMap id

/-! ## Collecting -/

def command : List String := ["ss", "-tuanp"]

def runFailure (limit : Option Seconds) : Error → Error
  | .host .fileNotFound _ => .enumeration .commandMissing
  | .host .commandTimeout _ => .enumeration (.commandTimedOut limit)
  | .host c text => if c.isSystemFault then .enumeration (.hostFault text) else .host c text
  | e => e

/-- The sockets of a finished run that belong to a selection. -/
def select (families : List Family) (transports : List Transport) (result : CommandResult) :
    Except Error (List Socket) :=
  if result.status ≠ 0 then
    .error (.enumeration
      (.commandFailed result.status (String.ofList (Text.trim result.errors.toList))))
  else do
    let sockets ← parseOutput result.output.toList
    return sockets.filter fun s =>
      transports.contains s.transport && families.contains s.localAddress.family

def collect (limit : Option Seconds) (families : List Family) (transports : List Transport) :
    Session (List Socket) := do
  Session.call (.run command limit)
  match (← Session.host).listing with
  | .ok result => liftM (select families transports result)
  | .error e => throw (runFailure limit e)

end SocketInventory.Listing
