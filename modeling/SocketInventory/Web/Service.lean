import SocketInventory.Render.Json
import SocketInventory.Selection
import SocketInventory.Text.Case
import SocketInventory.Web.Route
import SocketInventory.Web.Target

/-!
# The web service

Answers to requests for the inventory, for the presets, for the path of a process and for its end.
A failure that no answer is meant for becomes a bare page and an entry in the log.
-/

namespace SocketInventory.Web

structure Request where
  method : String
  target : String

inductive Body where
  /-- JSON text. -/
  | json (text : String)
  /-- A page of the server itself. -/
  | page
  deriving DecidableEq, Repr

structure Response where
  status : Nat
  body : Body
  deriving DecidableEq, Repr

/-! ## Answers -/

def Response.page (status : Nat) : Response := ⟨status, .page⟩

/-- An object in ASCII on a line of its own, its members in the order of their names. -/
def Response.object (status : Nat) (members : List (String × Json)) : Response :=
  let sorted := members.mergeSort fun a b => !(Text.codes b.1.toList).lex (Text.codes a.1.toList)
  let named := Json.object (sorted.map fun (name, value) => (Text.letters name, value))
  ⟨status, .json (named.render .ascii ++ "\n")⟩

def Response.error (status : Nat) (message : String) : Response :=
  .object status [("error", .text message)]

/-! ## Connections -/

def serveRecords (inventory : Session (List Record)) (query : String) : Session Response := do
  match ← Selection.records inventory query with
  | .error message =>
    Session.log .error ("inventory failed: " ++ message)
    return .error 500 message
  | .ok records =>
    Session.log .info ("inventory served: " ++ toString records.length ++ " records")
    return ⟨200, .json (← liftM (Render.json .compact records))⟩

def connections (presets : Presets) (inventory : Session (List Record)) (t : Target) :
    Session Response := do
  match Selection.query presets (t.value? "preset") ((t.value? "q").getD "") with
  | .error name =>
    Session.log .warning ("unknown preset requested: " ++ name)
    return .error 400 ("unknown preset: " ++ name)
  | .ok query =>
    match ← liftM (Filter.refusal? query) with
    | some e =>
      Session.log .warning ("rejected query " ++ Text.quote query ++ ": " ++ e.message)
      return .error 400 ("invalid query: " ++ e.message)
    | none => serveRecords inventory query

/-! ## Processes -/

def processNumber (digits : List Char) : Except Error Int :=
  (Text.parseInteger digits).mapError (.badNumeral (String.ofList digits))

def processPath (pid : Int) : Session Response := do
  return .object 200 [("pid", .int pid), ("path", .text (← Processes.executablePath pid))]

def killProcess (pid : Int) : Session Response :=
  tryCatch
    (do
      Processes.terminate pid
      Session.log .info ("terminated process " ++ Text.integerText pid)
      return .object 200 [("ok", .bool true), ("pid", .int pid)])
    fun
      | .processNotFound pid => do
        let message := (Error.processNotFound pid).message
        Session.log .warning message
        return .error 404 message
      | .terminationFailed pid reason => do
        let message := (Error.terminationFailed pid reason).message
        Session.log .error message
        return .error 500 message
      | e => throw e

/-! ## Requests -/

/-- What a route answers to a method that it allows. -/
def serve (presets : Presets) (inventory : Session (List Record)) (method : String) (t : Target) :
    Route → Session Response
  | .connections =>
    if method = "OPTIONS" then return .page 200 else connections presets inventory t
  | .presets => do
    if method = "OPTIONS" then return .page 200
    else return .object 200 (presets.map fun (name, query) => (name, .text query))
  | .processPath digits => do
    let pid ← liftM (processNumber digits)
    if method = "OPTIONS" then return .page 200 else processPath pid
  | .processKill digits => do
    let pid ← liftM (processNumber digits)
    if method = "OPTIONS" then return .page 200 else killProcess pid
  | .asset => return .page (if method = "OPTIONS" then 200 else 404)

/-- The answer to a head request has no text. -/
def withoutText (method : String) (r : Response) : Response :=
  match r.body with
  | .json _ => if method = "HEAD" then { r with body := .json "" } else r
  | .page => r

/-- A method in capitals, by which requests are routed and logged. -/
def capitals (method : String) : String := String.ofList (Text.upper method.toList)

/-- Answers a request from the presets and an inventory that is taken when it is asked for. -/
def answer (presets : Presets) (inventory : Session (List Record)) (r : Request) :
    Session Response := do
  let t := Target.parse r.target
  let method := capitals r.method
  match route method t.path with
  | .notFound => return .page 404
  | .wrongMethod => return .page 405
  | .redirect => return .page 308
  | .to place =>
    let response ← tryCatch (serve presets inventory method t place) fun _ => do
      Session.log .error ("Exception on " ++ String.ofList t.path ++ " [" ++ method ++ "]")
      return .page 500
    return withoutText r.method response

end SocketInventory.Web
