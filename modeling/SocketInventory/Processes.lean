import SocketInventory.Host.Basic

/-!
# Processes

The process table, the end of a process, and the path of its executable.
-/

namespace SocketInventory.Processes

/-- A fault of the process interface or of the system fails the process table as a whole. -/
def tableFailure : Error → Error
  | .host c text =>
    if c.isProcessFault || c.isSystemFault then .processTable (.hostFault text) else .host c text
  | e => e

/-- The entries of the process table, with the place where reading fails; a missing name is
empty. -/
def entries : Session (Feed ProcessEntry) := do
  Session.call .processes
  match (← Session.host).processes with
  | .ok feed =>
    return feed.map fun
      | .ok (pid, name) => .ok (pid, some (name.getD ""))
      | .error e => .error (tableFailure e)
  | .error e => return [.error (tableFailure e)]

def killFailure (pid : Int) : Error → Error
  | .host c text =>
    if c.isGone then .processNotFound pid
    else if c = .accessDenied then .terminationFailed pid "access denied"
    else if c.isProcessFault || c.isSystemFault then
      .terminationFailed pid (if text.isEmpty then c.name else text)
    else .host c text
  | e => e

def terminate (pid : Int) : Session Unit := do
  match (← Session.host).process pid with
  | .error e => throw (killFailure pid e)
  | .ok handle =>
    Session.call (.kill pid)
    match handle.kill with
    | .ok () => return
    | .error e => throw (killFailure pid e)

/-- The empty path stands for one that cannot be learned. -/
def pathOr : Except Error (Option String) → Except Error String
  | .ok path => .ok (path.getD "")
  | .error (.host c text) =>
    if c.isProcessFault || c.isSystemFault then .ok "" else .error (.host c text)
  | .error e => .error e

def executablePath (pid : Int) : Session String := do
  match (← Session.host).process pid with
  | .error e => liftM (pathOr (.error e))
  | .ok handle =>
    Session.call (.executable pid)
    liftM (pathOr handle.executable)

end SocketInventory.Processes
