import SocketInventory.Host.Basic

/-!
# Sockets from owner tables

Windows hands out one binary table for each transport and address family: a count in four octets,
lowest first, and rows of fixed size. A first call asks for the size; the table may grow before it
is read, so the read is repeated while the buffer is too small.
-/

namespace SocketInventory.OwnerTable

/-! ## Reading a table into a buffer -/

def insufficientBuffer : Int := 122

/-- A buffer of zeros with some octets copied to its start. -/
structure Buffer where
  size : Nat
  start : List UInt8
  deriving DecidableEq, Repr

def Buffer.octets (b : Buffer) : List UInt8 :=
  (b.start ++ List.replicate (b.size - b.start.length) 0).take b.size

inductive Outcome where
  | filled (b : Buffer)
  | failed (code : Int)
  /-- The last answer asks for a larger buffer whatever the size. -/
  | endless
  deriving DecidableEq, Repr

/-- A read: the size passed and the code returned at each call, its end, and the answers left. -/
structure Reading where
  calls : List (Nat × Int)
  outcome : Outcome
  left : List TableAnswer
  deriving DecidableEq, Repr

/-- A reading with one more call before it. -/
def Reading.after (size : Nat) (code : Int) (r : Reading) : Reading :=
  { r with calls := (size, code) :: r.calls }

/-- The size that a bare code leaves in a word of 32 bits. -/
def newSize (size : Nat) : Option Int → Nat
  | none => size
  | some n => (n % 0x100000000).toNat

/-- Reads with a buffer of `size` octets, answer by answer; the last answer stays. -/
def readAgain (size : Nat) (answer : TableAnswer) : List TableAnswer → Reading
  | [] =>
    match answer with
    | .table octets =>
      if octets.length ≤ size then ⟨[(size, 0)], .filled ⟨size, octets⟩, [answer]⟩
      else
        ⟨[(size, insufficientBuffer), (octets.length, 0)], .filled ⟨octets.length, octets⟩, [answer]⟩
    | .code code _ =>
      ⟨[(size, code)],
        if code = 0 then .filled ⟨size, []⟩
        else if code = insufficientBuffer then .endless
        else .failed code,
        [answer]⟩
  | next :: later =>
    match answer with
    | .table octets =>
      if octets.length ≤ size then ⟨[(size, 0)], .filled ⟨size, octets⟩, next :: later⟩
      else (readAgain octets.length next later).after size insufficientBuffer
    | .code code size' =>
      if code = 0 then ⟨[(size, code)], .filled ⟨size, []⟩, next :: later⟩
      else if code = insufficientBuffer then
        (readAgain (newSize size size') next later).after size code
      else ⟨[(size, code)], .failed code, next :: later⟩

/-- The code and the size that the sizing call, which passes no buffer, leaves. -/
def sizing : TableAnswer → Int × Nat
  | .table octets => (insufficientBuffer, octets.length)
  | .code code size => (code, newSize 0 size)

/-- The answer of a function for which none is given: an empty table. -/
def emptyTable : TableAnswer := .table [0, 0, 0, 0]

/-- The sizing call, whose code is ignored, and the read. -/
def read : List TableAnswer → Reading
  | [] => (readAgain 4 emptyTable []).after 0 insufficientBuffer
  | [answer] => (readAgain (sizing answer).2 answer []).after 0 (sizing answer).1
  | answer :: next :: later => (readAgain (sizing answer).2 next later).after 0 (sizing answer).1

/-! ## Rows -/

/-- A word of 32 bits, lowest octet first. -/
def word (octets : List UInt8) : UInt32 :=
  octets.foldr (fun b w => b.toUInt32 ||| (w <<< 8)) 0

def wordAt (octets : List UInt8) (offset : Nat) : UInt32 := word ((octets.drop offset).take 4)

/-- Exchanges the two octets of a number of sixteen bits. -/
def swapOctets (n : UInt16) : UInt16 := (n <<< 8) ||| (n >>> 8)

/-- The port in the low half of a word, in network order. -/
def portOf (w : UInt32) : Int := ((swapOctets w.toUInt16).toNat : Int)

/-- The states by their numbers in the table, from one on. -/
def numberedStates : List TcpState :=
  [.closed, .listen, .synSent, .synReceived, .established, .finWait1, .finWait2, .closeWait,
    .closing, .lastAck, .timeWait, .deleteTcb]

def stateOf (w : UInt32) : SocketState :=
  if w = 0 then .number 0
  else
    match numberedStates[w.toNat - 1]? with
    | some s => .known s
    | none => .number w.toNat

/-- No owner is given as zero. -/
def ownersOf (w : UInt32) : List Int := if w = 0 then [] else [(w.toNat : Int)]

/-- The octets of one row. -/
def rowSize : Kind → Nat
  | ⟨.tcp, .inet4⟩ => 24
  | ⟨.tcp, .inet6⟩ => 56
  | ⟨.udp, .inet4⟩ => 12
  | ⟨.udp, .inet6⟩ => 28

/-- The IPv6 address at an offset; what follows it in a row, its scope, is not part of it. -/
def groupsAt (octets : List UInt8) (offset : Nat) : Address :=
  (Address.ofOctets? ((octets.drop offset).take 16)).getD (.unspecified .inet6)

def rowSocket (kind : Kind) (row : List UInt8) : Socket :=
  match kind with
  | ⟨.tcp, .inet4⟩ =>
    ⟨.tcp, .ofWord (wordAt row 4), some (portOf (wordAt row 8)), some (.ofWord (wordAt row 12)),
      some (portOf (wordAt row 16)), some (stateOf (wordAt row 0)), ownersOf (wordAt row 20)⟩
  | ⟨.tcp, .inet6⟩ =>
    ⟨.tcp, groupsAt row 0, some (portOf (wordAt row 20)), some (groupsAt row 24),
      some (portOf (wordAt row 44)), some (stateOf (wordAt row 48)), ownersOf (wordAt row 52)⟩
  | ⟨.udp, .inet4⟩ =>
    ⟨.udp, .ofWord (wordAt row 0), some (portOf (wordAt row 4)), none, none, none,
      ownersOf (wordAt row 8)⟩
  | ⟨.udp, .inet6⟩ =>
    ⟨.udp, groupsAt row 0, some (portOf (wordAt row 20)), none, none, none,
      ownersOf (wordAt row 24)⟩

/-- As many pieces of `size` octets as `count` tells. -/
def pieces (size : Nat) : Nat → List UInt8 → List (List UInt8)
  | 0, _ => []
  | count + 1, octets => octets.take size :: pieces size count (octets.drop size)

/-- The octets of the count before the rows. -/
def countSize : Nat := 4

/-- The rows of a table; the buffer must hold the count and as many rows as it tells. -/
def rows (size : Nat) (b : Buffer) : Except Error (List (List UInt8)) :=
  if b.size < countSize then .error (.shortBuffer b.size countSize)
  else
    let count := (wordAt b.octets 0).toNat
    let needed := countSize + count * size
    if b.size < needed then .error (.shortBuffer b.size needed)
    else .ok (pieces size count (b.octets.drop countSize))

/-! ## Collecting -/

def libraryName : String := "Iphlpapi.dll"

def functionName : Transport → String
  | .tcp => "GetExtendedTcpTable"
  | .udp => "GetExtendedUdpTable"

/-- The number of an address family on Windows. -/
def familyNumber : Family → Nat
  | .inet4 => 2
  | .inet6 => 23

/-- The number of the table with the owners of all sockets. -/
def tableClass : Transport → Nat
  | .tcp => 5
  | .udp => 1

def decode (kind : Kind) : Outcome → Except Error (List Socket)
  | .filled b => do return (← rows (rowSize kind) b).map (rowSocket kind)
  | .failed code => .error (.enumeration (.tableCallFailed (functionName kind.transport) code))
  | .endless => .error .neverEnds

/-- A host whose table function of a kind has some answers left. -/
def Host.leave (h : Host) (kind : Kind) (left : List TableAnswer) : Host :=
  { h with tables := fun k => if k = kind then left else h.tables k }

def collectKind (kind : Kind) : Session (List Socket) := do
  let reading := read ((← Session.host).tables kind)
  modify fun m => { m with host := Host.leave m.host kind reading.left }
  reading.calls.forM fun (size, code) =>
    Session.call (.table (functionName kind.transport) (familyNumber kind.family)
      (tableClass kind.transport) size code)
  liftM (decode kind reading.outcome)

def loadFailure : Error → Error
  | .host c text => if c.isSystemFault then .enumeration (.hostFault text) else .host c text
  | e => e

def collect (families : List Family) (transports : List Transport) : Session (List Socket) := do
  let host ← Session.host
  if host.platform ≠ "Windows" then throw (.enumeration .wrongPlatform)
  Session.call (.load libraryName)
  match host.library with
  | .ok () => return (← (Kind.select transports families).mapM collectKind).flatten
  | .error e => throw (loadFailure e)

end SocketInventory.OwnerTable
