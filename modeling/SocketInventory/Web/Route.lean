import SocketInventory.Text.Digit
import SocketInventory.Text.Lines

/-!
# Routes

The paths that the service knows, and the methods that each allows. A path with several slashes in
a row leads to the path with single ones.
-/

namespace SocketInventory.Web

/-- What a path stands for. A process is given by its digits. -/
inductive Route where
  | connections
  | presets
  | processPath (pid : List Char)
  | processKill (pid : List Char)
  /-- A file of the service, of which there are none. -/
  | asset
  deriving DecidableEq, Repr

namespace Route

/-- Methods that read, and the one that asks for the methods. -/
def reading : List String := ["GET", "HEAD", "OPTIONS"]

def methods : Route → List String
  | .processKill _ => ["POST", "OPTIONS"]
  | _ => reading

def isNumber (s : List Char) : Bool := !s.isEmpty && s.all Text.isDecimalDigit

/-- The name of a file, directories before it. Only its first character may be a line feed. -/
def isAssetName : List Char → Bool
  | [] => false
  | c :: rest => c ≠ '/' && !rest.contains '\n'

def ofParts? (parts : List (List Char)) : Option Route :=
  match parts.map String.ofList with
  | ["api", "connections"] => some .connections
  | ["api", "presets"] => some .presets
  | ["api", "processes", pid, verb] =>
    if !isNumber pid.toList then none
    else if verb = "path" then some (.processPath pid.toList)
    else if verb = "kill" then some (.processKill pid.toList)
    else none
  | "static" :: _ => if isAssetName (['/'].intercalate (parts.drop 1)) then some .asset else none
  | _ => none

/-- The route of a path with one slash before it. -/
def ofPath? (path : List Char) : Option Route := ofParts? ((Text.splitAt '/' path).drop 1)

end Route

def mergeSlashes : List Char → List Char
  | [] => []
  | c :: rest =>
    if c = '/' && rest.head? = some '/' then mergeSlashes rest else c :: mergeSlashes rest

inductive Routing where
  | to (r : Route)
  | redirect
  | wrongMethod
  | notFound
  deriving DecidableEq, Repr

/-- A route, or `elsewhere` where there is one, with respect to a method. -/
def route (method : String) (path : List Char) : Routing :=
  match Route.ofPath? path, Route.ofPath? (mergeSlashes path) with
  | some r, _ => if r.methods.contains method then .to r else .wrongMethod
  | none, some r => if r.methods.contains method then .redirect else .wrongMethod
  | none, none => .notFound

end SocketInventory.Web
