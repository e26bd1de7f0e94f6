import SocketInventory.Inventory
import SocketInventory.Proofs.Outcome
import SocketInventory.Proofs.Session

/-!
# Building of inventories

An inventory in terms of the sockets that a backend collects and of the process table that it finds
afterwards: which records it has, and with which error it fails.
-/

namespace SocketInventory.Inventory

variable {m : Machine}

/-! ## Names of processes -/

/-- The entries of a process table as far as it can be read. -/
def tableFeed : Except Error (Feed ProcessEntry) → Feed (Int × Option String)
  | .ok feed => feed.map fun
    | .ok (pid, name) => .ok (pid, some (name.getD ""))
    | .error e => .error (Processes.tableFailure e)
  | .error e => [.error (Processes.tableFailure e)]

def namesOf (strict : Bool) (processes : Except Error (Feed ProcessEntry)) :
    Except Error NameIndex :=
  match (tableFeed processes).mapM id with
  | .ok index => .ok index
  | .error (.processTable e) => if strict then .error (.processTable e) else .ok []
  | .error e => .error e

/-- The names of a process table that can be read to its end. -/
def entryNames (entries : List ProcessEntry) : NameIndex :=
  entries.map fun e => (e.1, some (e.2.getD ""))

theorem namesOf_entries (strict : Bool) (entries : List ProcessEntry) :
    namesOf strict (.ok (entries.map .ok)) = .ok (entryNames entries) := by
  have hfeed : tableFeed (.ok (entries.map .ok)) = (entryNames entries).map .ok := by
    rw [tableFeed, entryNames, List.map_map, List.map_map]
    rfl
  rw [namesOf, hfeed, mapM_id_ok]

theorem run_entries : Processes.entries.run.run m =
    (.ok (tableFeed m.host.processes), { m with events := m.events ++ [.call .processes] }) := by
  rw [Processes.entries, Session.run_bind_ok (Session.run_call _),
    Session.run_bind_ok Session.run_host]
  cases m.host.processes <;> rfl

theorem run_nameIndex (strict : Bool) :
    ((nameIndex strict Processes.entries).run.run m).1 = namesOf strict m.host.processes := by
  rw [nameIndex, Session.run_bind_ok run_entries, namesOf]
  cases (tableFeed m.host.processes).mapM id with
  | ok index => rfl
  | error e =>
      cases e with
      | processTable e => cases strict <;> rfl
      | _ => rfl

/-! ## Records -/

/-- The records of some sockets with the names of a process table. -/
def recordsOf (cfg : Config) (processes : Except Error (Feed ProcessEntry))
    (sockets : List Socket) : Except Error (List Record) :=
  (namesOf cfg.strictProcesses processes).map fun index =>
    sockets.flatMap (records cfg.expandOwners index)

theorem run_build {sockets : List Socket} {source : Session (Feed Socket)} {m' : Machine}
    (cfg : Config) (h : source.run.run m = (.ok (sockets.map .ok), m')) :
    ((build source Processes.entries cfg.expandOwners cfg.strictProcesses).run.run m).1 =
      recordsOf cfg m'.host.processes sockets := by
  rw [build, Session.run_bind_ok h, Session.drain, mapM_id_ok,
    Session.run_bind_ok (Session.run_lift _), Session.run_bind, recordsOf,
    ← run_nameIndex cfg.strictProcesses]
  rcases (nameIndex cfg.strictProcesses Processes.entries).run.run m' with ⟨e | index, m''⟩ <;> rfl

/-- What a configuration asks for, given what its backend collects. -/
theorem run_ofConfig (cfg : Config) : ((ofConfig cfg).run.run m).1 =
    (Backend.resolve m.host cfg.backend).bind fun b =>
      match (b.collect cfg.queryLimit cfg.families cfg.transports).run.run m with
      | (.ok sockets, m') => recordsOf cfg m'.host.processes sockets
      | (.error e, _) => .error e := by
  rw [ofConfig, Session.run_bind_ok Session.run_host, Session.run_bind, Session.run_lift]
  cases Backend.resolve m.host cfg.backend with
  | error e => rfl
  | ok b =>
      rcases hcollect : (b.collect cfg.queryLimit cfg.families cfg.transports).run.run m with
        ⟨e | sockets, m'⟩
      · have hsources : (sources b cfg.queryLimit cfg.families cfg.transports).run.run m =
            (.error e, m') := by
          rw [sources, Session.run_bind_error hcollect]
        simp only [Except.bind, hcollect, build, Session.run_bind_error hsources]
      · have hsources : (sources b cfg.queryLimit cfg.families cfg.transports).run.run m =
            (.ok (sockets.map .ok), m') := by
          rw [sources, Session.run_bind_ok hcollect, Session.run_pure]
        simp only [Except.bind, hcollect, run_build cfg hsources]

end SocketInventory.Inventory
