import SocketInventory.Proofs.Inventory.Enumerators

/-!
# Records for every owner

An expanded inventory has a group of records for each socket, one for each of its owners, and the
groups stand in the order of the sockets. The inventory that is taken by default has the first
record of each group.
-/

namespace SocketInventory.Inventory

/-! ## Groups -/

/-- The records of one socket: an owner each, and all else in common. -/
structure OwnerGroup (index : NameIndex) (s : Socket) (group : List Record) : Prop where
  nonempty : group ≠ []
  pids : group.map Record.pid = if s.pids = [] then [0] else s.pids
  names : ∀ r ∈ group, r.processName = if r.pid = 0 then some "" else lastName index r.pid
  alike : ∀ r ∈ group, ∀ r' ∈ group, r = { r' with pid := r.pid, processName := r.processName }

theorem owners_expanded (pids : List Int) : owners true pids = if pids = [] then [0] else pids := by
  cases pids with
  | nil => rfl
  | cons pid rest => simp [owners]

theorem owners_ne_nil (expand : Bool) (pids : List Int) : owners expand pids ≠ [] := by
  cases pids with
  | nil => simp [owners]
  | cons pid rest => cases expand <;> simp [owners]

theorem owners_default (pids : List Int) :
    (owners false pids).map some = [(owners true pids).head?] := by
  cases pids with
  | nil => rfl
  | cons pid rest => simp [owners]

theorem processName_record (s : Socket) (index : NameIndex) (pid : Int) :
    (record s index pid).processName = if pid = 0 then some "" else lastName index pid := by
  rw [← nameOf_eq_lastName]
  rfl

/-- The owner decides about its number and its name only. -/
theorem record_alike (s : Socket) (index : NameIndex) (pid pid' : Int) :
    record s index pid = { record s index pid' with
      pid := pid, processName := (record s index pid).processName } := rfl

theorem ownerGroup_records (index : NameIndex) (s : Socket) :
    OwnerGroup index s (records true index s) where
  nonempty := by
    rw [records, Ne, List.map_eq_nil_iff]
    exact owners_ne_nil true s.pids
  pids := by
    have hpid : Record.pid ∘ record s index = id := rfl
    rw [records, List.map_map, hpid, List.map_id, owners_expanded]
  names r hr := by
    obtain ⟨pid, -, rfl⟩ := List.mem_map.1 hr
    exact processName_record s index pid
  alike r hr r' hr' := by
    obtain ⟨pid, -, rfl⟩ := List.mem_map.1 hr
    obtain ⟨pid', -, rfl⟩ := List.mem_map.1 hr'
    exact record_alike s index pid pid'

theorem records_default (index : NameIndex) (s : Socket) :
    (records false index s).map some = [(records true index s).head?] := by
  have hsome : some ∘ record s index = Option.map (record s index) ∘ some := rfl
  rw [records, records, List.map_map, hsome, ← List.map_map, owners_default, List.head?_map]
  rfl

theorem firsts_of_groups (index : NameIndex) (sockets : List Socket) :
    (sockets.flatMap (records false index)).map some =
      (sockets.map (records true index)).map List.head? := by
  induction sockets with
  | nil => rfl
  | cons s sockets ih =>
      rw [List.flatMap_cons, List.map_append, records_default, ih]
      rfl

/-! ## Inventories -/

/-- The names that a process table is joined with, if it is: those of all its entries, or none where
its failure is forgiven. -/
inductive Joined (strict : Bool) (feed : Feed ProcessEntry) : NameIndex → Prop
  | complete {entries : List ProcessEntry} (h : feed.Completes entries) : Joined strict feed entries
  | forgiven {e : ProcessTableError} (h : feed.Fails (.processTable e)) (hs : strict = false) :
      Joined strict feed []

section Runs

variable {source : Session (Feed Socket)} {table : Session (Feed ProcessEntry)}
  {feed : Feed ProcessEntry} {index : NameIndex} {found : List Socket} {m m₁ m₂ m₃ : Machine}
  {strict : Bool}

theorem Joined.run_nameIndex (h : Joined strict feed index)
    (ht : table.run.run m₁ = (.ok feed, m₂)) :
    ∃ m₃, (nameIndex strict table).run.run m₁ = (.ok index, m₃) := by
  cases h with
  | complete h => exact ⟨m₂, run_nameIndex_completes strict ht h⟩
  | forgiven h hs =>
      subst hs
      exact ⟨_, run_nameIndex_degrades ht h⟩

theorem run_nameIndex_unjoined (h : ∀ index, ¬ Joined strict feed index)
    (ht : table.run.run m₁ = (.ok feed, m₂)) :
    ∃ e, (nameIndex strict table).run.run m₁ = (.error e, m₂) := by
  rcases feed.completes_or_fails with ⟨entries, hentries⟩ | ⟨e, he⟩
  · exact absurd (.complete hentries) (h entries)
  · refine ⟨e, run_nameIndex_fails ht he ?_⟩
    by_contra hcases
    obtain ⟨hstrict, hclass⟩ := not_or.1 hcases
    obtain ⟨t, ht⟩ := not_forall_not.1 hclass
    exact h [] (.forgiven (ht ▸ he) (eq_false_of_ne_true hstrict))

theorem run_build_eq (hs : source.run.run m = (.ok (found.map .ok), m₁)) (expand : Bool) :
    (build source table expand strict).run.run m =
      (nameIndex strict table >>= fun index =>
        pure (found.flatMap (records expand index))).run.run m₁ := by
  rw [build, Session.run_bind_ok hs, Session.drain, mapM_id_ok,
    Session.run_bind_ok (Session.run_lift _)]

theorem run_build_joined (hs : source.run.run m = (.ok (found.map .ok), m₁))
    (hi : (nameIndex strict table).run.run m₁ = (.ok index, m₃)) (expand : Bool) :
    (build source table expand strict).run.run m =
      (.ok (found.flatMap (records expand index)), m₃) := by
  rw [run_build_eq hs, Session.run_bind_ok hi, Session.run_pure]

/-- An inventory is taken whenever the names of its process table are joined, in both modes from the
same names. Expanded it is the groups of its sockets one after the other, and by default the first
records of these groups. Sockets in another order have the same groups in that order. Where no names
are joined both modes fail alike. -/
theorem build_groups (hs : source.run.run m = (.ok (found.map .ok), m₁))
    (ht : table.run.run m₁ = (.ok feed, m₂)) (strict : Bool) :
    (∀ index, Joined strict feed index →
      ∃ (group : Socket → List Record) (firsts : List Record) (m₃ : Machine),
        (∀ s, OwnerGroup index s (group s)) ∧
        (build source table true strict).run.run m = (.ok (found.map group).flatten, m₃) ∧
        (build source table false strict).run.run m = (.ok firsts, m₃) ∧
        firsts.map some = (found.map group).map List.head? ∧
        ∀ (source' : Session (Feed Socket)) (found' : List Socket),
          source'.run.run m = (.ok (found'.map .ok), m₁) → found'.Perm found →
          ∃ firsts',
            (build source' table true strict).run.run m = (.ok (found'.map group).flatten, m₃) ∧
            (build source' table false strict).run.run m = (.ok firsts', m₃) ∧
            firsts'.map some = (found'.map group).map List.head? ∧
            (found'.map group).Perm (found.map group)) ∧
    ((∀ index, ¬ Joined strict feed index) →
      ∃ e m₃, ∀ expand, (build source table expand strict).run.run m = (.error e, m₃)) := by
  refine ⟨fun index hindex => ?_, fun hnone => ?_⟩
  · -- The table is read once in each mode, from the same machine, and gives the same names.
    obtain ⟨m₃, hi⟩ := hindex.run_nameIndex ht
    have hexpanded : ∀ sockets : List Socket,
        sockets.flatMap (records true index) = (sockets.map (records true index)).flatten :=
      fun _ => List.flatMap_def
    refine ⟨records true index, found.flatMap (records false index), m₃,
      ownerGroup_records index, ?_, ?_, firsts_of_groups index found, ?_⟩
    · rw [run_build_joined hs hi, hexpanded]
    · exact run_build_joined hs hi false
    · intro source' found' hs' hperm
      refine ⟨found'.flatMap (records false index), ?_, ?_, firsts_of_groups index found', ?_⟩
      · rw [run_build_joined hs' hi, hexpanded]
      · exact run_build_joined hs' hi false
      · exact hperm.map _
  · obtain ⟨e, hi⟩ := run_nameIndex_unjoined hnone ht
    refine ⟨e, m₂, fun expand => ?_⟩
    rw [run_build_eq hs, Session.run_bind_error hi]

end Runs

/-- A socket of three owners: one with two names, none, and one without a name. -/
def sharedSocket : Socket := ⟨.udp, .v4 127 0 0 1, some 53, none, none, none, [42, 0, 9]⟩

def orphanSocket : Socket := ⟨.udp, .v4 127 0 0 1, some 68, none, none, none, []⟩

theorem build_groups_shared :
    ∃ (group : Socket → List Record) (firsts : List Record) (m : Machine),
      (group sharedSocket).map Record.pid = [42, 0, 9] ∧
      (group orphanSocket).map Record.pid = [0] ∧
      (∀ r ∈ group sharedSocket, r.pid = 42 → r.processName = some "server") ∧
      (build (handed .sockets [.ok sharedSocket, .ok orphanSocket])
        (handed .processes (renamingEntries.map .ok)) true false).run.run idleMachine =
          (.ok (group sharedSocket ++ group orphanSocket), m) ∧
      (build (handed .sockets [.ok sharedSocket, .ok orphanSocket])
        (handed .processes (renamingEntries.map .ok)) false false).run.run idleMachine =
          (.ok firsts, m) ∧
      firsts.map some = [(group sharedSocket).head?, (group orphanSocket).head?] ∧
      (build (handed .sockets [.ok orphanSocket, .ok sharedSocket])
        (handed .processes (renamingEntries.map .ok)) true false).run.run idleMachine =
          (.ok (group orphanSocket ++ group sharedSocket), m) := by
  have hs := @run_handed idleMachine _ .sockets ([sharedSocket, orphanSocket].map .ok)
  have hs' := @run_handed idleMachine _ .sockets ([orphanSocket, sharedSocket].map .ok)
  have ht := @run_handed (idleMachine.noting [.supplied .sockets]) _ .processes
    (renamingEntries.map .ok)
  obtain ⟨hjoined, -⟩ := build_groups hs ht false
  obtain ⟨group, firsts, m, hgroup, hexpanded, hdefault, hfirsts, hperm⟩ :=
    hjoined renamingEntries (.complete rfl)
  obtain ⟨-, hswapped, -⟩ := hperm _ _ hs' (.swap _ _ [])
  have hflatten : ∀ a b : Socket, ([a, b].map group).flatten = group a ++ group b := by simp
  refine ⟨group, firsts, m, (hgroup _).pids, (hgroup _).pids, fun r hr hpid => ?_, ?_, hdefault,
    hfirsts, ?_⟩
  · rw [(hgroup _).names r hr, hpid]
    rfl
  · rw [← hflatten]
    exact hexpanded
  · rw [← hflatten]
    exact hswapped

end SocketInventory.Inventory
