import SocketInventory.Error
import SocketInventory.Record
import SocketInventory.Text.Blank

/-!
# Records as a table

One line for each record below a line of headings. Columns are as wide as their widest cell and two
spaces apart, and no line ends with blanks. An integer of too many digits cannot be shown, and a
process without a name has no cell.
-/

namespace SocketInventory.Render

/-! ## Cells -/

/-- The host part of an end: the unspecified address where the address is missing, and brackets
around what holds a colon. -/
def hostText (address : Option String) (v6 : Bool) : String :=
  let host :=
    match address.filter (· ≠ "") with
    | some a => a
    | none => if v6 then "::" else "0.0.0.0"
  if host.toList.contains ':' then "[" ++ host ++ "]" else host

def portText : Option Int → Except Error String
  | none => .ok "*"
  | some port => (shownInteger port).map String.ofList

/-- An end as host and port; one without both is all stars. -/
def endText (e : Endpoint) (v6 : Bool) : Except Error String :=
  if e.address.isNone && e.port.isNone then .ok "*:*"
  else do return hostText e.address v6 ++ ":" ++ (← portText e.port)

def headings : List String :=
  ["Proto", "Local Address", "Remote Address", "State", "PID", "Process"]

/-- The cells of a record but the last one, the name of its process; a protocol that ends in six is
one of IPv6. -/
def cells (r : Record) : Except Error (List String) := do
  let v6 := r.protocol.toList.getLast? = some '6'
  return [r.protocol, ← endText r.localEnd v6, ← endText r.remoteEnd v6, r.state,
    String.ofList (← shownInteger r.pid)]

def nameCell (r : Record) : Except Error String :=
  match r.processName with
  | some name => .ok name
  | none => .error .nameless

/-- The rows of all records. Names are looked at when all other cells are there. -/
def rows (records : List Record) : Except Error (List (List String)) := do
  let shown ← records.mapM cells
  let names ← records.mapM nameCell
  return shown.zipWith (fun row name => row ++ [name]) names

/-! ## Layout -/

def padded (width : Nat) (cell : String) : List Char :=
  cell.toList ++ List.replicate (width - cell.length) ' '

def widths (rows : List (List String)) : List Nat :=
  rows.foldl (fun ws row => List.zipWith max ws (row.map String.length)) (headings.map fun _ => 0)

def line (ws : List Nat) (row : List String) : String :=
  String.ofList (Text.trimEnd ([' ', ' '].intercalate (List.zipWith padded ws row)))

def lines (rows : List (List String)) : List String :=
  (headings :: rows).map (line (widths (headings :: rows)))

/-- Records as lines with a line feed between. -/
def table (records : List Record) : Except Error String := do
  return "\n".intercalate (lines (← rows records))

end SocketInventory.Render
