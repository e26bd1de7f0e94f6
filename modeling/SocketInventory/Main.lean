import SocketInventory.CommandLine.Run
import SocketInventory.Host.Tree

/-!
# The command

Runs the program on this machine. The listing of sockets is taken from the standard input; names and
executables of processes come from the process directory, and presets from the file system.
-/

namespace SocketInventory.Command

/-! ## Files -/

def octets? (place : String) : IO (Option (List UInt8)) := do
  match ← (IO.FS.readBinFile place).toBaseIO with
  | .ok octets => return some octets.toList
  | .error _ => return none

def entryAt? (p : Path) : IO (Option FileEntry) := do
  if ← ((← IO.currentDir) / p.text).isDir then return some .directory
  else return (← octets? p.text).map .file

/-- What stands at a path and at the directories that lead to it. -/
def treeAlong (p : Path) : IO FileTree := do
  let places := (List.range (p.names.length + 1)).map fun n => FileTree.collapse (p.names.take n)
  let found ← places.mapM fun names => do
    return (← entryAt? ⟨true, names⟩).map fun e => (names, e)
  return found.filterMap id

/-- Everywhere that a file of presets is looked for. -/
def presetPlaces (here package home p : Path) : List Path :=
  if p.absolute then [p] else [here.under p, package.under p, home.under ⟨false, p.names.drop 1⟩]

/-! ## Processes -/

def processPlace (pid : Int) (name : String) : String :=
  "/proc/" ++ Text.integerText pid ++ "/" ++ name

def nameOf? (pid : Int) : IO (Option ProcessEntry) := do
  return (← octets? (processPlace pid "comm")).map fun octets =>
    (pid, some (String.ofList (Text.trim (Text.decodeReplacing (fun _ => []) octets))))

def handleOf (pid : Int) : IO (Except Error ProcessHandle) := do
  if (← nameOf? pid).isNone then return .error (.host .noSuchProcess "")
  let executable ← (IO.FS.realPath (processPlace pid "exe")).toBaseIO
  let path := match executable with
    | .ok place => some place.toString
    | .error _ => none
  return .ok ⟨.ok path, .error (.host .systemFault "no signal can be sent from here")⟩

/-! ## The host -/

/-- The owners that a listing names, each once. -/
def ownersIn (listing : String) : List Int :=
  match Listing.parseOutput listing.toList with
  | .ok sockets => (sockets.flatMap Socket.pids).eraseDups
  | .error _ => []

/-- The listing, which is read only where records are wanted. -/
def listingFor (a : CommandLine.Arguments) : IO String := do
  if a.kill.isSome || a.path.isSome then return "" else (← IO.getStdin).readToEnd

/-- This machine, as far as the program can ask for it with some arguments and a listing. -/
def hostFor (a : CommandLine.Arguments) (listing : String) : IO Host := do
  let names ← (ownersIn listing).mapM nameOf?
  let asked := (a.kill <|> a.path).getD 0
  let handle ← handleOf asked
  let here := Path.parse (← IO.currentDir).toString
  let package := Path.parse (← IO.appDir).toString
  let home := Path.parse ((← IO.getEnv "HOME").getD "/")
  let trees ← (presetPlaces here package home (Path.parse (a.presets.getD ""))).mapM treeAlong
  return {
    platform := "Linux"
    which := fun name => if Listing.command.head? = some name then some name else none
    listing := .ok ⟨0, listing, ""⟩
    connections := fun _ => .error (.host .systemFault "no interface to connections")
    processes := .ok (names.filterMap fun name => name.map .ok)
    process := fun pid => if pid = asked then handle else .error (.host .noSuchProcess "")
    library := .error (.host .systemFault "no owner tables")
    tables := fun _ => []
    files := FileTree.system trees.flatten
    workingDirectory := .ok here
    packageDirectory := package
    home := homeIn (some home) fun _ => none
    limits := .standard
    arrange := Data.inPlace }

/-! ## The command -/

/-- Runs the program, writes what it wrote, and gives its status. -/
def run (arguments : List String) (host : Host) : IO UInt32 := do
  let (result, machine) := (CommandLine.program arguments).run.run ⟨host, []⟩
  IO.print (outputOf machine.events)
  IO.eprint (errorsOf machine.events)
  match result with
  | .ok status => return UInt32.ofNat status.toNat
  | .error e => do
    IO.eprintln e.message
    return 1

end SocketInventory.Command

open SocketInventory in
/-- Runs the program, which cannot serve from here. -/
def main (arguments : List String) : IO UInt32 := do
  match CommandLine.read arguments with
  | .ok (.run a) =>
    if a.serve && a.kill.isNone && a.path.isNone then
      IO.eprintln "[error] no server runs here"
      return 1
    else Command.run arguments (← Command.hostFor a (← Command.listingFor a))
  | _ => Command.run arguments (← Command.hostFor .none "")
