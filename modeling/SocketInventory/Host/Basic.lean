import SocketInventory.Data.Basic
import SocketInventory.Host.Files
import SocketInventory.Socket

/-!
# The host

The operating system as the answers that it gives, and the sessions that ask it. A session keeps
an ordered account of what it asked and what it told: calls on the host, log records, and text
written to the two output channels.
-/

namespace SocketInventory

/-! ## Answers -/

structure CommandResult where
  status : Int
  output : String
  errors : String
  deriving DecidableEq, Repr

/-- A port as the connection interface gives it. -/
inductive PortValue where
  | number (n : Int)
  | text (s : String)
  deriving DecidableEq, Repr

/-- One connection of the connection interface; an end without an address is absent. -/
structure Connection where
  family : Family
  localEnd : Option (String × PortValue)
  remoteEnd : Option (String × PortValue)
  status : String
  pid : Option Int
  deriving DecidableEq, Repr

/-- One answer of a table function: a table to be copied, or a bare return code that may change
the size. -/
inductive TableAnswer where
  | table (octets : List UInt8)
  | code (code : Int) (size : Option Int)
  deriving DecidableEq, Repr

/-- A process that could be opened: its executable, and what ending it gives. -/
structure ProcessHandle where
  executable : Except Error (Option String)
  kill : Except Error Unit

/-- An entry of the process table: a number and, usually, a name. -/
abbrev ProcessEntry := Int × Option String

/-- A sequence that is read item by item, where reading an item may fail. -/
abbrev Feed (α : Type) := List (Except Error α)

structure Host where
  platform : String
  /-- The path of a command. -/
  which : String → Option String
  /-- The outcome of listing sockets by command. -/
  listing : Except Error CommandResult
  connections : Kind → Except Error (List Connection)
  processes : Except Error (Feed ProcessEntry)
  /-- Opening a process. -/
  process : Int → Except Error ProcessHandle
  /-- Loading the library of the table functions. -/
  library : Except Error Unit
  /-- The answers of each table function to come; the last one stays. -/
  tables : Kind → List TableAnswer
  files : FileSystem
  workingDirectory : Except PathFault Path
  packageDirectory : Path
  /-- The home of a user, of whom the one without a name is the own one. -/
  home : List Char → Except PathFault (Option Path)
  limits : Limits
  /-- The order in which the members of a set are shown. -/
  arrange : List Data → List Data

/-! ## Account of a session -/

inductive Level where
  | info
  | warning
  | error
  deriving DecidableEq, Repr

def Level.name : Level → String
  | .info => "INFO"
  | .warning => "WARNING"
  | .error => "ERROR"

inductive Call where
  | run (command : List String) (limit : Option Seconds)
  | connections (kind : Kind)
  | processes
  | kill (pid : Int)
  | executable (pid : Int)
  | load (library : String)
  | table (function : String) (family tableClass size : Nat) (code : Int)
  | serve (address : String) (port : Int)
  deriving DecidableEq, Repr

/-- Enumerators that a caller may hand in. -/
inductive Supplier where
  | sockets
  | processes
  deriving DecidableEq, Repr

inductive Event where
  | call (c : Call)
  | supplied (s : Supplier)
  | log (level : Level) (message : String)
  | output (text : String)
  | errors (text : String)
  deriving DecidableEq, Repr

/-- A host with the account of what has happened so far, oldest first. -/
structure Machine where
  host : Host
  events : List Event

/-- A computation that asks the host, writes the account and may fail. -/
abbrev Session := ExceptT Error (StateM Machine)

namespace Session

def host : Session Host := do return (← get).host

def note (e : Event) : Session Unit := modify fun m => { m with events := m.events ++ [e] }

def call (c : Call) : Session Unit := note (.call c)

def log (level : Level) (message : String) : Session Unit := note (.log level message)

def printLine (text : String) : Session Unit := note (.output (text ++ "\n"))

def printError (text : String) : Session Unit := note (.errors (text ++ "\n"))

/-- Reads a sequence up to its end or its first failure. -/
def drain {α : Type} (feed : Feed α) : Session (List α) :=
  liftM (feed.mapM id : Except Error (List α))

end Session

/-! ## Views of an account -/

def Event.call? : Event → Option Call
  | .call c => some c
  | _ => none

def Event.supplied? : Event → Option Supplier
  | .supplied s => some s
  | _ => none

def Event.log? : Event → Option (Level × String)
  | .log level message => some (level, message)
  | _ => none

def Event.outputText : Event → String
  | .output text => text
  | _ => ""

/-- Log records appear on the error output as lines, their level in brackets. -/
def Event.errorText : Event → String
  | .errors text => text
  | .log level message => "[" ++ level.name ++ "] " ++ message ++ "\n"
  | _ => ""

def outputOf (events : List Event) : String := String.join (events.map Event.outputText)

def errorsOf (events : List Event) : String := String.join (events.map Event.errorText)

end SocketInventory
