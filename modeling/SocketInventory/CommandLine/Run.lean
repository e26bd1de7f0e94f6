import SocketInventory.CommandLine.Arguments
import SocketInventory.Render.Json
import SocketInventory.Render.Table
import SocketInventory.Selection

/-!
# The program

What the program does with its arguments: it ends a process, tells the path of one, serves the
inventory, or prints it. The exit status is zero, one where the host fails, and two where the user
is at fault.
-/

namespace SocketInventory.CommandLine

def fail (status : Int) (message : String) : Session Int := do
  Session.printError ("[error] " ++ message)
  return status

def Arguments.request (a : Arguments) : Request where
  backend := some a.backend
  family := some a.family
  kind := some a.kind
  expandOwners := a.expandOwners
  strictProcesses := a.strictProcesses
  limit := a.timeout.map .real
  presets := a.presets

/-! ## Processes -/

def killProcess (pid : Int) : Session Int :=
  tryCatch
    (do
      Processes.terminate pid
      Session.printLine ("[*] terminated " ++ Text.integerText pid)
      return 0)
    fun
      | .processNotFound pid => fail 1 (Error.processNotFound pid).message
      | .terminationFailed pid reason => fail 1 (Error.terminationFailed pid reason).message
      | e => throw e

def printPath (pid : Int) : Session Int := do
  Session.printLine (← Processes.executablePath pid)
  return 0

/-! ## The inventory -/

def serve (address : String) (port : Int) : Session Int := do
  Session.printLine
    ("[*] Serving on http://" ++ address ++ ":" ++ Text.integerText port ++ "/api/connections")
  Session.call (.serve address port)
  return 0

def render (format : String) (records : List Record) : Except Error String :=
  if format = "json" then Render.json .pretty records else Render.table records

def printInventory (cfg : Config) (format query : String) : Session Int := do
  match ← Selection.records (Inventory.ofConfig cfg) query with
  | .error message => fail 1 message
  | .ok records =>
    Session.printLine (← liftM (render format records))
    return 0

/-- Serves or prints with a configuration. -/
def withConfig (a : Arguments) (cfg : Config) : Session Int := do
  if a.serve then serve a.address a.port
  else
    match Selection.query cfg.presets a.preset a.filter with
    | .error name => fail 2 ("unknown preset: " ++ name)
    | .ok query =>
      match ← liftM (Filter.refusal? query) with
      | some e => fail 2 ("invalid filter: " ++ e.message)
      | none => printInventory cfg a.format query

/-- The configuration that arguments ask for, or why it cannot be made. -/
def configOf (a : Arguments) : Session (Except QueryError Config) :=
  tryCatch (do return Except.ok (← Config.ofRequest a.request)) fun
    | .query e => return Except.error e
    | e => throw e

/-- Runs the program with arguments that were read, and gives its exit status. -/
def run (a : Arguments) : Session Int :=
  match a.kill, a.path with
  | some pid, _ => killProcess pid
  | none, some pid => printPath pid
  | none, none => do
    match ← configOf a with
    | .error e => fail 2 e.message
    | .ok cfg => withConfig a cfg

def usage : String := "usage: sockmap " ++ " ".intercalate (rules.map fun r => "[" ++ r.name ++ "]")

/-- The whole program, from the arguments as they are given. -/
def program (arguments : List String) : Session Int :=
  match read arguments with
  | .error fault => do
    Session.printError ("sockmap: error: " ++ fault.message)
    return 2
  | .ok .help => do
    Session.printLine usage
    return 0
  | .ok (.run a) => run a

end SocketInventory.CommandLine
