import SocketInventory.Query.Basic
import SocketInventory.Record
import SocketInventory.Text.Case
import SocketInventory.Text.Numeral
import SocketInventory.Text.Pattern

/-!
# Meaning of a query

A comparison looks up its field in a record. Texts are compared in lower case, by code point; an
equals sign with a star in its value asks for a pattern instead. A number is compared with an
integer, or with a text that is an integer numeral. An unknown or absent field makes the
comparison false.
-/

namespace SocketInventory.Query

/-! ## Fields -/

inductive Field where
  | pid
  | protocol
  | state
  | processName
  | localPort
  | remotePort
  | localAddress
  | remoteAddress
  deriving DecidableEq, Repr

/-- All names of fields, in lower case. -/
def fieldNames : List (String × Field) :=
  [("pid", .pid), ("proto", .protocol), ("protocol", .protocol), ("state", .state),
    ("process", .processName), ("name", .processName), ("processname", .processName),
    ("lport", .localPort), ("localport", .localPort), ("rport", .remotePort),
    ("remoteport", .remotePort), ("laddr", .localAddress), ("localaddress", .localAddress),
    ("local", .localAddress), ("raddr", .remoteAddress), ("remoteaddress", .remoteAddress),
    ("remote", .remoteAddress)]

def Field.ofName? (name : String) : Option Field := fieldNames.lookup name

inductive Content where
  | number (n : Int)
  | text (s : String)
  deriving DecidableEq, Repr

/-- The address that stands for an absent one: IPv6's for a protocol with a six in its name. -/
def wildcardAddress (r : Record) : String :=
  if r.protocol.toList.contains '6' then "[::]" else "0.0.0.0"

/-- The address of an end, an absent or empty one replaced by the wildcard. -/
def addressContent (r : Record) (e : Endpoint) : String :=
  match e.address with
  | some a => if a.isEmpty then wildcardAddress r else a
  | none => wildcardAddress r

def Field.content? (r : Record) : Field → Option Content
  | .pid => some (.number r.pid)
  | .protocol => some (.text r.protocol)
  | .state => some (.text r.state)
  | .processName => r.processName.map .text
  | .localPort => r.localEnd.port.map .number
  | .remotePort => r.remoteEnd.port.map .number
  | .localAddress => some (.text (addressContent r r.localEnd))
  | .remoteAddress => some (.text (addressContent r r.remoteEnd))

/-! ## Comparisons -/

/-- An operator on two values of an ordered type. -/
def Op.test {α : Type} [DecidableEq α] [LT α] [DecidableLT α] (op : Op) (a b : α) : Bool :=
  match op with
  | .eq => a == b
  | .ne => a != b
  | .lt => decide (a < b)
  | .gt => decide (b < a)
  | .le => !decide (b < a)
  | .ge => !decide (a < b)

def Content.chars : Content → List Char
  | .number n => Text.integerChars n
  | .text s => s.toList

/-- The integer of a number, or of a text that is a numeral. -/
def Content.integer? : Content → Option Int
  | .number n => some n
  | .text s => (Text.parseInteger s.toList).toOption

def compareText (actual : List Char) (op : Op) (expected : List Char) : Bool :=
  let have_ := Text.lower actual
  let want := Text.lower expected
  if op = .eq && Text.hasStar want then Text.fits want have_
  else op.test (Text.codes have_) (Text.codes want)

/-- Compares two contents. Beside a text all are texts; a text that is no integer differs from every
number and stands in no order to it. -/
def compareContent (actual : Content) (op : Op) : Content → Bool
  | .text s => compareText actual.chars op s.toList
  | .number n =>
    match actual.integer? with
    | some a => op.test a n
    | none => op == .ne

def Value.content : Value → Content
  | .number n => .number n
  | .text s => .text s

def compare (actual : Content) (op : Op) (expected : Value) : Bool :=
  compareContent actual op expected.content

/-! ## Queries -/

def holds (r : Record) : Query → Bool
  | .comparison field op value =>
    match Field.ofName? field >>= Field.content? r with
    | some actual => compare actual op value
    | none => false
  | .group q => q.holds r
  | .not q => !q.holds r
  | .and p q => p.holds r && q.holds r
  | .or p q => p.holds r || q.holds r

end SocketInventory.Query
