import SocketInventory.Text.Lines
import SocketInventory.Text.Numeral

/-!
# Addresses

An address is four octets, or eight groups of sixteen bits with an optional zone. Texts are read
and written in canonical form: decimal octets without leading zeros, lower-case groups, and the
first longest run of two or more zero groups written as a double colon.
-/

namespace SocketInventory

inductive Family where
  | inet4
  | inet6
  deriving DecidableEq, Repr

/-- The eight groups of an IPv6 address, the most significant first. -/
structure Groups where
  list : List UInt16
  length_list : list.length = 8
  deriving DecidableEq, Repr

inductive Address where
  | v4 (a b c d : UInt8)
  | v6 (groups : Groups) (zone : Option String)
  deriving DecidableEq, Repr

namespace Groups

def ofList? (list : List UInt16) : Option Groups :=
  if h : list.length = 8 then some ⟨list, h⟩ else none

def zeros : Groups := ⟨List.replicate 8 0, rfl⟩

end Groups

namespace Address

def family : Address → Family
  | .v4 .. => .inet4
  | .v6 .. => .inet6

def isV6 (a : Address) : Bool := a.family == .inet6

/-- The address that stands for any address of its family. -/
def unspecified : Family → Address
  | .inet4 => .v4 0 0 0 0
  | .inet6 => .v6 .zeros none

/-- Zero but for its zone. -/
def isUnspecified : Address → Bool
  | .v4 a b c d => a == 0 && b == 0 && c == 0 && d == 0
  | .v6 groups _ => groups.list.all (· == 0)

/-! ## Machine forms -/

/-- The address whose octets, lowest first, make up a word of 32 bits. -/
def ofWord (w : UInt32) : Address :=
  .v4 w.toUInt8 (w >>> 8).toUInt8 (w >>> 16).toUInt8 (w >>> 24).toUInt8

/-- Groups from pairs of octets in network order. -/
def pairGroups : List UInt8 → List UInt16
  | high :: low :: rest => (high.toUInt16 <<< 8 ||| low.toUInt16) :: pairGroups rest
  | _ => []

/-- An IPv6 address from its sixteen octets in network order. -/
def ofOctets? (octets : List UInt8) : Option Address :=
  if octets.length = 16 then (Groups.ofList? (pairGroups octets)).map (.v6 · none) else none

/-! ## Writing -/

/-- The first longest run of zero groups: its start and its length. -/
def zeroRun : List UInt16 → Nat × Nat
  | [] => (0, 0)
  | g :: gs =>
    let here := ((g :: gs).takeWhile (· == 0)).length
    let (start, length) := zeroRun gs
    if length ≤ here then (0, here) else (start + 1, length)

def groupChars (gs : List UInt16) : List Char :=
  List.intercalate [':'] (gs.map fun g => Text.hexChars g.toNat)

/-- The text of eight groups, one run of zeros shortened. -/
def groupsChars (gs : List UInt16) : List Char :=
  let (start, length) := zeroRun gs
  if length < 2 then groupChars gs
  else groupChars (gs.take start) ++ [':', ':'] ++ groupChars (gs.drop (start + length))

def chars : Address → List Char
  | .v4 a b c d =>
    List.intercalate ['.'] ([a, b, c, d].map fun octet => Text.decimalChars octet.toNat)
  | .v6 groups zone =>
    groupsChars groups.list ++
      match zone with
      | none => []
      | some z => '%' :: z.toList

def text (a : Address) : String := String.ofList a.chars

/-! ## Reading -/

/-- A decimal octet: one to three ASCII digits, no leading zero. -/
def parseOctet? (s : List Char) : Option UInt8 :=
  if s.isEmpty || 3 < s.length || !s.all Char.isDigit then none
  else if s.head? = some '0' && s ≠ ['0'] then none
  else
    let n := Text.ofDigits (s.filterMap Text.digitValue?)
    if n ≤ 255 then some (UInt8.ofNat n) else none

def parseV4? (s : List Char) : Option (UInt8 × UInt8 × UInt8 × UInt8) :=
  match (Text.splitAt '.' s).map parseOctet? with
  | [some a, some b, some c, some d] => some (a, b, c, d)
  | _ => none

/-- One to four hexadecimal digits. -/
def parseGroup? (s : List Char) : Option UInt16 :=
  if s.isEmpty || 4 < s.length || !s.all (fun c => (Text.hexValue? c).isSome) then none
  else some (UInt16.ofNat (Text.ofHexDigits s))

/-- The groups between colons; the last part may be a dotted quad, which makes two groups, where
`quad` allows it. -/
def parseParts? (quad : Bool) : List (List Char) → Option (List UInt16)
  | [] => some []
  | [part] =>
    if quad && part.contains '.' then
      (parseV4? part).map fun (a, b, c, d) => pairGroups [a, b, c, d]
    else (parseGroup? part).map ([·])
  | part :: rest => do return (← parseGroup? part) :: (← parseParts? quad rest)

/-- Groups with colons between, or no text for no groups. -/
def parseGroups? (quad : Bool) (s : List Char) : Option (List UInt16) :=
  if s.isEmpty then some [] else parseParts? quad (Text.splitAt ':' s)

/-- Cuts at the first double colon. -/
def cutGap? : List Char → Option (List Char × List Char)
  | [] => none
  | ':' :: ':' :: rest => some ([], rest)
  | c :: rest => (cutGap? rest).map fun (left, right) => (c :: left, right)

def parseV6? (s : List Char) : Option Groups :=
  match cutGap? s with
  | none => parseGroups? true s >>= Groups.ofList?
  | some (left, right) => do
    let high ← parseGroups? false left
    let low ← parseGroups? true right
    if high.length + low.length < 8 then
      Groups.ofList? (high ++ List.replicate (8 - (high.length + low.length)) 0 ++ low)
    else none

/-- A zone is not empty and holds neither percent sign nor slash. -/
def isZone (z : List Char) : Bool := !z.isEmpty && !z.contains '%' && !z.contains '/'

/-- Reads the text of an address; only IPv6 may have a zone, behind a percent sign. -/
def parse? (s : List Char) : Option Address :=
  match parseV4? s with
  | some (a, b, c, d) => some (.v4 a b c d)
  | none =>
    match Text.cutFirst? '%' s with
    | none => (parseV6? s).map (.v6 · none)
    | some (host, zone) =>
      if isZone zone then (parseV6? host).map (.v6 · (some (String.ofList zone))) else none

end Address

end SocketInventory
