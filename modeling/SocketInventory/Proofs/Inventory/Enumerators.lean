import SocketInventory.Proofs.Inventory.Building

/-!
# Enumerators that fail

An inventory is taken from two enumerators that are read item by item, and either may fail at any
item. A failure of the sockets is the failure of the inventory, and nothing is asked of the process
table. A failure of the process table is that of the inventory as well, or it leaves every name
empty, the names that were read before it included.
-/

namespace SocketInventory

/-! ## Feeds -/

section Feeds

variable {α : Type} {feed : Feed α}

/-- The feed ends behind some items. -/
def Feed.Completes (feed : Feed α) (items : List α) : Prop := feed = items.map .ok

/-- The feed fails behind some items, and nothing counts of what follows. -/
def Feed.Fails (feed : Feed α) (e : Error) : Prop :=
  ∃ (read : List α) (rest : Feed α), feed = read.map .ok ++ .error e :: rest

theorem Feed.Completes.mapM {items : List α} (h : feed.Completes items) :
    feed.mapM id = .ok items := by
  rw [h, mapM_id_ok]

theorem Feed.Fails.mapM {e : Error} (h : feed.Fails e) : feed.mapM id = .error e := by
  obtain ⟨read, rest, rfl⟩ := h
  refine mapM_error_iff.2 ⟨read.map .ok, .error e, rest, rfl, fun x hx => ?_, rfl⟩
  obtain ⟨a, -, rfl⟩ := List.mem_map.1 hx
  exact ⟨a, rfl⟩

theorem Feed.completes_or_fails (feed : Feed α) :
    (∃ items, feed.Completes items) ∨ ∃ e, feed.Fails e := by
  induction feed with
  | nil => exact .inl ⟨[], rfl⟩
  | cons item feed ih =>
      cases item with
      | error e => exact .inr ⟨e, [], feed, rfl⟩
      | ok a =>
          rcases ih with ⟨items, rfl⟩ | ⟨e, read, rest, rfl⟩
          · exact .inl ⟨a :: items, rfl⟩
          · exact .inr ⟨e, a :: read, rest, rfl⟩

end Feeds

namespace Inventory

/-! ## Names -/

/-- The name of the last entry for a process, and empty where there is none. -/
def lastName (entries : List ProcessEntry) (pid : Int) : Option String :=
  ((entries.filter (·.1 = pid)).getLast?.map (·.2)).getD (some "")

/-- Two tables with the same entries in the same order for each process. -/
def Reordered (entries entries' : List ProcessEntry) : Prop :=
  ∀ pid, entries.filter (·.1 = pid) = entries'.filter (·.1 = pid)

theorem Reordered.swap {a b : ProcessEntry} (h : a.1 ≠ b.1) (before after : List ProcessEntry) :
    Reordered (before ++ a :: b :: after) (before ++ b :: a :: after) := by
  intro pid
  simp only [List.filter_append, List.filter_cons]
  by_cases ha : a.1 = pid
  · have hb : b.1 ≠ pid := fun hb => h (ha.trans hb.symm)
    simp [ha, hb]
  · simp [ha]

theorem lookup_eq_head? (index : NameIndex) (pid : Int) :
    index.lookup pid = (index.filter (·.1 = pid)).head?.map (·.2) := by
  induction index with
  | nil => rfl
  | cons entry index ih =>
      obtain ⟨p, name⟩ := entry
      by_cases hp : p = pid
      · subst hp
        simp
      · have hp' : (pid == p) = false := by simpa using Ne.symm hp
        rw [List.lookup_cons, hp', ih, List.filter_cons_of_neg (by simpa using hp)]

theorem nameOf_eq_lastName (index : NameIndex) (pid : Int) :
    nameOf index pid = lastName index pid := by
  rw [nameOf, lookup_eq_head?, List.filter_reverse, List.head?_reverse, lastName]
  cases (index.filter (·.1 = pid)).getLast? <;> rfl

theorem Reordered.records_eq {entries entries' : List ProcessEntry} (h : Reordered entries entries')
    (expand : Bool) : records expand entries = records expand entries' := by
  have hname : nameOf entries = nameOf entries' := by
    funext pid
    rw [nameOf_eq_lastName, nameOf_eq_lastName, lastName, h pid, lastName]
  have hrecord : ∀ s, record s entries = record s entries' := by
    intro s
    funext pid
    simp only [record, hname]
  funext s
  rw [records, records, hrecord]

theorem processName_of_mem {expand : Bool} {index : NameIndex} {sockets : List Socket} {r : Record}
    (hr : r ∈ sockets.flatMap (records expand index)) (hpid : r.pid ≠ 0) :
    r.processName = lastName index r.pid := by
  obtain ⟨s, -, hr⟩ := List.mem_flatMap.1 hr
  obtain ⟨pid, -, rfl⟩ := List.mem_map.1 hr
  rw [← nameOf_eq_lastName]
  exact if_neg hpid

section Runs

variable {m m' : Machine} {table : Session (Feed ProcessEntry)} {feed : Feed ProcessEntry}

theorem run_nameIndex_completes (strict : Bool) (ht : table.run.run m = (.ok feed, m'))
    {entries : List ProcessEntry} (h : feed.Completes entries) :
    (nameIndex strict table).run.run m = (.ok entries, m') := by
  rw [nameIndex, Session.run_bind_ok ht, h.mapM, Session.run_pure]

/-- The message of a process table that counts as empty. -/
def emptyTableMessage (e : ProcessTableError) : String :=
  e.message ++ "; process names will be empty"

theorem run_nameIndex_degrades (ht : table.run.run m = (.ok feed, m')) {e : ProcessTableError}
    (h : feed.Fails (.processTable e)) :
    (nameIndex false table).run.run m =
      (.ok [], m'.noting [.log .warning (emptyTableMessage e)]) := by
  rw [nameIndex, Session.run_bind_ok ht, h.mapM]
  rfl

theorem run_nameIndex_fails {strict : Bool} (ht : table.run.run m = (.ok feed, m')) {e : Error}
    (h : feed.Fails e) (he : strict = true ∨ ∀ t, e ≠ .processTable t) :
    (nameIndex strict table).run.run m = (.error e, m') := by
  rw [nameIndex, Session.run_bind_ok ht, h.mapM]
  cases e with
  | processTable t =>
      rcases he with rfl | he
      · rfl
      · exact absurd rfl (he t)
  | _ => rfl

end Runs

/-! ## Enumerators that are handed in -/

/-- An enumerator that gives the items of a feed. Its call is kept in the account. -/
def handed {α : Type} (s : Supplier) (feed : Feed α) : Session (Feed α) := do
  Session.note (.supplied s)
  return feed

/-- The inventory of two enumerators that are handed in. -/
def ofFeeds (sockets : Feed Socket) (processes : Feed ProcessEntry) (expand strict : Bool) :
    Session (List Record) :=
  build (handed .sockets sockets) (handed .processes processes) expand strict

section Handed

variable {sockets : Feed Socket} {processes : Feed ProcessEntry} {m : Machine}

theorem run_handed {α : Type} (s : Supplier) (feed : Feed α) :
    (handed s feed).run.run m = (.ok feed, m.noting [.supplied s]) := by
  rw [handed, Session.run_bind_ok (Session.run_note _), Session.run_pure]

/-- The process table is not called where the sockets fail. -/
theorem run_ofFeeds_error {e : Error} (h : sockets.Fails e) (expand strict : Bool) :
    (ofFeeds sockets processes expand strict).run.run m =
      (.error e, m.noting [.supplied .sockets]) := by
  rw [ofFeeds, build, Session.run_bind_ok (run_handed _ _), Session.drain, h.mapM,
    Session.run_bind_error (Session.run_lift _)]

/-- Where the sockets end, the process table is called and its names are joined with them. -/
theorem run_ofFeeds {found : List Socket} (h : sockets.Completes found) (expand strict : Bool) :
    (ofFeeds sockets processes expand strict).run.run m =
      (nameIndex strict (handed .processes processes) >>= fun index =>
        pure (found.flatMap (records expand index))).run.run (m.noting [.supplied .sockets]) := by
  rw [ofFeeds, build, Session.run_bind_ok (run_handed _ _), Session.drain, h.mapM,
    Session.run_bind_ok (Session.run_lift _)]

theorem run_handed_processes : (handed .processes processes).run.run
    (m.noting [.supplied .sockets]) =
      (.ok processes, m.noting [.supplied .sockets, .supplied .processes]) := by
  rw [run_handed, Machine.noting_noting]
  rfl

theorem run_ofFeeds_completes {found : List Socket} {entries : List ProcessEntry}
    (hs : sockets.Completes found) (hp : processes.Completes entries) (expand strict : Bool) :
    (ofFeeds sockets processes expand strict).run.run m =
      (.ok (found.flatMap (records expand entries)),
        m.noting [.supplied .sockets, .supplied .processes]) := by
  rw [run_ofFeeds hs, Session.run_bind_ok (run_nameIndex_completes strict run_handed_processes hp),
    Session.run_pure]

theorem run_ofFeeds_degrades {found : List Socket} {e : ProcessTableError}
    (hs : sockets.Completes found) (hp : processes.Fails (.processTable e)) (expand : Bool) :
    (ofFeeds sockets processes expand false).run.run m =
      (.ok (found.flatMap (records expand [])),
        m.noting [.supplied .sockets, .supplied .processes,
          .log .warning (emptyTableMessage e)]) := by
  rw [run_ofFeeds hs, Session.run_bind_ok (run_nameIndex_degrades run_handed_processes hp),
    Session.run_pure, Machine.noting_noting]
  rfl

theorem run_ofFeeds_fails {found : List Socket} {e : Error} {strict : Bool}
    (hs : sockets.Completes found) (hp : processes.Fails e)
    (he : strict = true ∨ ∀ t, e ≠ .processTable t) (expand : Bool) :
    (ofFeeds sockets processes expand strict).run.run m =
      (.error e, m.noting [.supplied .sockets, .supplied .processes]) := by
  rw [run_ofFeeds hs, Session.run_bind_error (run_nameIndex_fails run_handed_processes hp he)]

/-- What a failure at any item of either enumerator does to the inventory, and what the process
table does where nothing fails. There is no third way for an enumerator to be read. -/
theorem ofFeeds_outcome (sockets : Feed Socket) (processes : Feed ProcessEntry)
    (expand strict : Bool) (m : Machine) :
    ((∃ found, sockets.Completes found) ∨ ∃ e, sockets.Fails e) ∧
    ((∃ entries, processes.Completes entries) ∨ ∃ e, processes.Fails e) ∧
    (∀ e, sockets.Fails e →
      (ofFeeds sockets processes expand strict).run.run m =
        (.error e, m.noting [.supplied .sockets])) ∧
    ∀ found, sockets.Completes found →
      (∀ entries, processes.Completes entries →
        (ofFeeds sockets processes expand strict).run.run m =
            (.ok (found.flatMap (records expand entries)),
              m.noting [.supplied .sockets, .supplied .processes]) ∧
          (∀ r ∈ found.flatMap (records expand entries),
            r.pid ≠ 0 → r.processName = lastName entries r.pid) ∧
          ∀ entries', Reordered entries entries' →
            (ofFeeds sockets (entries'.map .ok) expand strict).run.run m =
              (ofFeeds sockets processes expand strict).run.run m) ∧
      (∀ e, processes.Fails (.processTable e) → strict = false →
        (ofFeeds sockets processes expand strict).run.run m =
            (.ok (found.flatMap (records expand [])),
              m.noting [.supplied .sockets, .supplied .processes,
                .log .warning (emptyTableMessage e)]) ∧
          ((ofFeeds sockets [] expand strict).run.run m).1 =
            .ok (found.flatMap (records expand []))) ∧
      ∀ e, processes.Fails e → (strict = true ∨ ∀ t, e ≠ .processTable t) →
        (ofFeeds sockets processes expand strict).run.run m =
          (.error e, m.noting [.supplied .sockets, .supplied .processes]) := by
  refine ⟨sockets.completes_or_fails, processes.completes_or_fails,
    fun e he => run_ofFeeds_error he expand strict, fun found hs => ⟨?_, ?_, ?_⟩⟩
  · intro entries hp
    have hrun := run_ofFeeds_completes hs hp expand strict (m := m)
    refine ⟨hrun, fun r hr => processName_of_mem hr, fun entries' h => ?_⟩
    rw [hrun, run_ofFeeds_completes hs rfl, h.records_eq]
  · rintro e hp rfl
    have hempty : Feed.Completes ([] : Feed ProcessEntry) [] := rfl
    refine ⟨run_ofFeeds_degrades hs hp expand, ?_⟩
    rw [run_ofFeeds_completes hs hempty]
  · intro e hp he
    exact run_ofFeeds_fails hs hp he expand

end Handed

def idleMachine : Machine := ⟨Host.idle "Linux", []⟩

/-- A socket that process 42 holds. -/
def heldSocket : Socket := ⟨.udp, .v4 127 0 0 1, some 53, none, none, none, [42]⟩

/-- A process table that names process 42 twice, with another process between. -/
def renamingEntries : List ProcessEntry :=
  [(42, some "old"), (7, some "shell"), (42, some "server")]

def swappedEntries : List ProcessEntry := [(42, some "old"), (42, some "server"), (7, some "shell")]

def deniedTable : ProcessTableError := .reported "denied"

def heldRecord (name : String) : Record :=
  ⟨"udp", ⟨some "127.0.0.1", some 53⟩, ⟨none, none⟩, "", 42, some name⟩

/-- A fault of the system behind a socket. -/
def socketFault : Error := .host .systemFault "lost"

/-- One case of each kind: sockets that fail behind a socket, a table that ends, one that fails
behind a name and is forgiven, and the same one where it is not. -/
theorem ofFeeds_outcome_renaming :
    (ofFeeds [.ok heldSocket, .error socketFault] [] false false).run.run idleMachine =
        (.error socketFault, idleMachine.noting [.supplied .sockets]) ∧
    ((ofFeeds [.ok heldSocket] (renamingEntries.map .ok) false true).run.run idleMachine).1 =
      .ok [heldRecord "server"] ∧
    (ofFeeds [.ok heldSocket] (swappedEntries.map .ok) false true).run.run idleMachine =
      (ofFeeds [.ok heldSocket] (renamingEntries.map .ok) false true).run.run idleMachine ∧
    ((ofFeeds [.ok heldSocket] [.ok (42, some "server"), .error (.processTable deniedTable)]
        false false).run.run idleMachine).1 = .ok [heldRecord ""] ∧
    ((ofFeeds [.ok heldSocket] [] false false).run.run idleMachine).1 = .ok [heldRecord ""] ∧
    ((ofFeeds [.ok heldSocket] [.ok (42, some "server"), .error (.processTable deniedTable)]
        false true).run.run idleMachine).1 = .error (.processTable deniedTable) := by
  have hheld : Feed.Completes [.ok heldSocket] [heldSocket] := rfl
  have hbroken : Feed.Fails [.ok heldSocket, .error socketFault] socketFault :=
    ⟨[heldSocket], [], rfl⟩
  have hdenied : Feed.Fails [.ok ((42, some "server") : ProcessEntry),
      .error (.processTable deniedTable)] (.processTable deniedTable) :=
    ⟨[(42, some "server")], [], rfl⟩
  have hswapped : Reordered renamingEntries swappedEntries :=
    Reordered.swap (by decide) [(42, some "old")] []
  have hserver : [heldSocket].flatMap (records false renamingEntries) = [heldRecord "server"] := by
    decide +kernel
  have hnameless : [heldSocket].flatMap (records false []) = [heldRecord ""] := by
    decide +kernel
  obtain ⟨hcomplete, -, -⟩ := (ofFeeds_outcome [.ok heldSocket] (renamingEntries.map .ok) false true
    idleMachine).2.2.2 [heldSocket] hheld
  obtain ⟨hrun, -, hreorder⟩ := hcomplete renamingEntries rfl
  obtain ⟨-, hdegrade, -⟩ := (ofFeeds_outcome [.ok heldSocket] _ false false
    idleMachine).2.2.2 [heldSocket] hheld
  obtain ⟨hforgiven, hempty⟩ := hdegrade deniedTable hdenied rfl
  obtain ⟨-, -, hfail⟩ := (ofFeeds_outcome [.ok heldSocket] _ false true
    idleMachine).2.2.2 [heldSocket] hheld
  refine ⟨?_, by rw [hrun, hserver], hreorder _ hswapped, by rw [hforgiven, hnameless],
    by rw [hempty, hnameless], by rw [hfail _ hdenied (.inl rfl)]⟩
  exact (ofFeeds_outcome _ [] false false idleMachine).2.2.1 _ hbroken

end Inventory

end SocketInventory
