import SocketInventory.Data.Fault
import SocketInventory.Number.Binary64
import SocketInventory.Query.Basic
import SocketInventory.Text.Quoted
import SocketInventory.Text.Utf8

/-!
# Errors

Everything that can go wrong, as causes, and the message of each.
-/

namespace SocketInventory

/-- A time span in seconds, as a whole number or as a binary fraction. -/
inductive Seconds where
  | whole (n : Int)
  | real (x : Number.Binary64)
  deriving DecidableEq, Repr

def Seconds.text : Seconds → String
  | .whole n => Text.integerText n
  | .real x => x.text

def Seconds.isPositive : Seconds → Bool
  | .whole n => 0 < n
  | .real x => x.isPositive

def limitText : Option Seconds → String
  | none => "None"
  | some s => s.text

/-! ## Faults of the host -/

inductive FaultClass where
  | noSuchProcess
  | zombieProcess
  | accessDenied
  | processFault
  | processTimeout
  | commandTimeout
  | systemFault
  | fileNotFound
  | permissionDenied
  | badValue
  | runtimeFault
  deriving DecidableEq, Repr

namespace FaultClass

/-- Faults of the interface to processes and their connections. -/
def isProcessFault : FaultClass → Bool
  | .noSuchProcess | .zombieProcess | .accessDenied | .processFault | .processTimeout => true
  | _ => false

def isSystemFault : FaultClass → Bool
  | .systemFault | .fileNotFound | .permissionDenied => true
  | _ => false

/-- The process is gone; a zombie counts as gone. -/
def isGone : FaultClass → Bool
  | .noSuchProcess | .zombieProcess => true
  | _ => false

/-- The name that stands in a message for a fault without text. -/
def name : FaultClass → String
  | .noSuchProcess => "NoSuchProcess"
  | .zombieProcess => "ZombieProcess"
  | .accessDenied => "AccessDenied"
  | .processFault => "Error"
  | .processTimeout => "TimeoutExpired"
  | .commandTimeout => "TimeoutExpired"
  | .systemFault => "OSError"
  | .fileNotFound => "FileNotFoundError"
  | .permissionDenied => "PermissionError"
  | .badValue => "BadValue"
  | .runtimeFault => "RuntimeFault"

end FaultClass

/-! ## Faults of the file system -/

/-- Why a file system gives no answer at a path. -/
inductive PathFault where
  /-- The path cannot be named to the system, for a reason. -/
  | unnameable (reason : String)
  /-- A refusal by its number and its words, with the path where it was met, if it is told. -/
  | refused (number : Nat) (words : String) (path : Option String)
  deriving DecidableEq, Repr

namespace PathFault

def nul : PathFault := .unnameable "embedded null byte"

def notFound (path : String) : PathFault := .refused 2 "No such file or directory" (some path)

def isDirectory (path : String) : PathFault := .refused 21 "Is a directory" (some path)

def nameTooLong (path : String) : PathFault := .refused 36 "File name too long" (some path)

/-- The refusals that say that nothing stands at a path: no entry, a bad descriptor, no directory
on the way, and links in a circle. -/
def nothingNumbers : List Nat := [2, 9, 20, 40]

def saysNothing : PathFault → Bool
  | .unnameable _ => true
  | .refused number _ _ => nothingNumbers.contains number

def isUnnameable : PathFault → Bool
  | .unnameable _ => true
  | .refused _ _ _ => false

def isLoop : PathFault → Bool
  | .unnameable _ => false
  | .refused number _ _ => number == 40

def path : PathFault → Option String
  | .unnameable _ => none
  | .refused _ _ path => path

def message : PathFault → String
  | .unnameable reason => reason
  | .refused number words path =>
    "[Errno " ++ toString number ++ "] " ++ words ++
      path.elim "" fun path => ": " ++ Text.quote path

end PathFault

/-! ## Errors by what failed -/

inductive EnumerationError where
  | commandMissing
  | commandTimedOut (limit : Option Seconds)
  /-- The command ended with a status other than zero, and said something or nothing. -/
  | commandFailed (status : Int) (said : String)
  | accessDenied (kind : String)
  | hostFault (text : String)
  | wrongPlatform
  | tableCallFailed (function : String) (code : Int)
  /-- Reported by an enumerator from outside, in its own words. -/
  | reported (text : String)
  deriving DecidableEq, Repr

def EnumerationError.message : EnumerationError → String
  | .commandMissing => "Failed to get sockets: 'ss' not found"
  | .commandTimedOut limit =>
    "Failed to get sockets: 'ss' timed out after " ++ limitText limit ++ "s"
  | .commandFailed status said =>
    "Failed to get sockets: " ++
      if said.isEmpty then "exit status " ++ Text.integerText status else said
  | .accessDenied kind => "Failed to get sockets: access denied (" ++ kind ++ ")"
  | .hostFault text => "Failed to get sockets: " ++ text
  | .wrongPlatform => "Failed to get sockets: iphlpapi backend requires Windows"
  | .tableCallFailed function code =>
    "Failed to get sockets: " ++ function ++ " returned " ++ Text.integerText code
  | .reported text => text

inductive ProcessTableError where
  | hostFault (text : String)
  | reported (text : String)
  deriving DecidableEq, Repr

def ProcessTableError.message : ProcessTableError → String
  | .hostFault text => "Failed to read process table: " ++ text
  | .reported text => text

/-- Why a query or a set of presets is refused. -/
inductive QueryError where
  | malformed (fault : Query.SyntaxFault)
  | notMapping
  /-- Name and query of the preset are given in quoted form. -/
  | invalidPreset (name : String) (query : String)
  | unreadable (path : String)
  | reported (text : String)
  deriving DecidableEq, Repr

def QueryError.message : QueryError → String
  | .malformed fault => fault.message
  | .notMapping => "presets file must contain a mapping of name -> query"
  | .invalidPreset name query =>
    "preset " ++ name ++ " has an invalid query: " ++ query
  | .unreadable path => "cannot parse presets " ++ path
  | .reported text => text

inductive Error where
  | enumeration (e : EnumerationError)
  | processTable (e : ProcessTableError)
  | processNotFound (pid : Int)
  | terminationFailed (pid : Int) (reason : String)
  | query (e : QueryError)
  /-- A text that is no address. -/
  | badAddress (text : String)
  /-- A text without a colon before the port. -/
  | noPort (text : String)
  | badNumeral (text : String) (fault : Text.NumeralFault)
  /-- Octets that are not sixteen. -/
  | addressLength (octets : List UInt8)
  | unknownBackend (name : String)
  | unknownKey (key : String)
  /-- Values of two sorts, of which neither is less. -/
  | incomparable (op : Query.Op) (left right : String)
  /-- An integer that does not fit 64 bits. -/
  | integerRange
  /-- A process without a name, where a name is needed. -/
  | nameless
  | data (f : DataFault)
  | shortBuffer (size needed : Nat)
  | undecodable (e : Text.Utf8Error)
  | path (f : PathFault)
  /-- Links that lead in a circle, with the path where they were met, if it is told. -/
  | linkLoop (path : Option String)
  | noHome
  /-- The host answers for ever that a buffer is too small. -/
  | neverEnds
  /-- A fault of the host that nothing handles. -/
  | host (c : FaultClass) (text : String)
  deriving DecidableEq, Repr

/-- The choices of a backend, in the order in which they are listed. -/
def backendNames : List String := ["auto", "psutil", "ss", "iphlpapi"]

/-- A quoted text is cut after this many characters when it is shown as a bad numeral. -/
def numeralShown : Nat := 200

def numeralMessage (text : String) : Text.NumeralFault → String
  | .malformed =>
    "invalid literal for int() with base 10: " ++
      String.ofList ((Text.quoteChars text.toList).take numeralShown)
  | .tooLong digits =>
    "Exceeds the limit (" ++ toString Text.digitLimit ++
      " digits) for integer string conversion: value has " ++ toString digits ++
      " digits; use sys.set_int_max_str_digits() to increase the limit"

def Error.message : Error → String
  | .enumeration e => e.message
  | .processTable e => e.message
  | .processNotFound pid => "process " ++ Text.integerText pid ++ " not found"
  | .terminationFailed pid reason =>
    "failed to terminate process " ++ Text.integerText pid ++ ": " ++ reason
  | .query e => e.message
  | .badAddress text => Text.quote text ++ " does not appear to be an IPv4 or IPv6 address"
  | .noPort text => "no port in " ++ Text.quote text
  | .badNumeral text fault => numeralMessage text fault
  | .addressLength octets =>
    String.ofList (Text.quoteOctets octets) ++ " (len " ++ toString octets.length ++
      " != 16) is not permitted as an IPv6 address"
  | .unknownBackend name =>
    "unknown backend " ++ Text.quote name ++ " (choose from " ++
      ", ".intercalate backendNames ++ ")"
  | .unknownKey key => Text.quote key
  | .incomparable op left right =>
    Text.quote op.text ++ " not supported between instances of " ++ Text.quote left ++ " and " ++
      Text.quote right
  | .integerRange => "Integer exceeds 64-bit range"
  | .nameless => "object of type 'NoneType' has no len()"
  | .data f => f.message
  | .shortBuffer size needed =>
    "Buffer size too small (" ++ toString size ++ " instead of at least " ++ toString needed ++
      " bytes)"
  | .undecodable e => e.message
  | .path f => f.message
  | .linkLoop origin => "Symlink loop from " ++ origin.elim "None" Text.quote
  | .noHome => "Could not determine home directory."
  | .neverEnds => "the table never fits its buffer"
  | .host _ text => text

/-- The characters of an integer that is shown. It must not have too many digits. -/
def shownInteger (n : Int) : Except Error (List Char) :=
  if Text.digitLimit < (Text.decimalChars n.natAbs).length then .error (.data .integerLength)
  else .ok (Text.integerChars n)

end SocketInventory
