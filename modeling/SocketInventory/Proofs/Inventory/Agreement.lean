import SocketInventory.Proofs.Inventory.Building
import SocketInventory.Proofs.Inventory.Rendering

/-!
# Agreement of the backends

Whichever backend is told a table of sockets, and in whatever rendering, the inventory has the same
records. Only their order depends on the backend, for a listing keeps the order of the table and the
others go kind by kind.
-/

namespace SocketInventory.Inventory

/-! ## Inventories that agree -/

/-- Both have the same records up to their order, or both fail in the same way. -/
def Agree : Except Error (List Record) → Except Error (List Record) → Prop
  | .ok rs, .ok rs' => rs.Perm rs'
  | .error e, .error e' => e = e'
  | _, _ => False

theorem Agree.symm {x y : Except Error (List Record)} (h : Agree x y) : Agree y x := by
  cases x <;> cases y
  · exact Eq.symm h
  · exact h
  · exact h
  · exact List.Perm.symm h

theorem Agree.trans {x y z : Except Error (List Record)} (h : Agree x y) (h' : Agree y z) :
    Agree x z := by
  cases x <;> cases y <;> cases z <;> try contradiction
  · exact Eq.trans h h'
  · exact List.Perm.trans h h'

variable {sockets : List Socket} {families : List Family} {transports : List Transport}
  {cfg : Config} {m : Machine}

theorem agree_recordsOf (processes : Except Error (Feed ProcessEntry)) {found : List Socket}
    (h : found.Perm sockets) : Agree (recordsOf cfg processes found)
      (recordsOf cfg processes sockets) := by
  rw [recordsOf, recordsOf]
  cases namesOf cfg.strictProcesses processes with
  | error e => exact rfl
  | ok index => exact h.flatMap_right (records cfg.expandOwners index)

/-! ## Backends -/

/-- A backend collects the selected sockets of the table that it is told, and asks nothing of the
process table. -/
theorem run_collect_tells {b : Backend} (h : Tells sockets b m.host) (limit : Option Seconds)
    (hf : families.Nodup) (ht : transports.Nodup) :
    ∃ found m', (b.collect limit families transports).run.run m = (.ok found, m') ∧
      m'.host.processes = m.host.processes ∧
      found.Perm (sockets.filter (Listing.Selected families transports ·)) := by
  have hperm : ((Kind.select transports families).flatMap (·.among sockets)).Perm
      (sockets.filter (Listing.Selected families transports ·)) := by
    refine (Kind.flatMap_among_perm (Kind.nodup_select ht hf) sockets).trans (.of_eq ?_)
    exact List.filter_congr fun s _ => decide_eq_decide.2 Kind.mem_select
  cases b with
  | connections => exact ⟨_, _, Connections.run_collect h families transports, rfl, hperm⟩
  | listing =>
      obtain ⟨lines, errors, hlists, hlisting⟩ := h
      exact ⟨_, _, Listing.run_collect hlists hlisting limit families transports, rfl, .refl _⟩
  | ownerTable =>
      obtain ⟨hplatform, hlibrary, hist, htables, hkeeps⟩ := h
      obtain ⟨found, calls, m', hreads, hrun, hprocesses, -⟩ :=
        OwnerTable.run_collect hplatform hlibrary fun k _ => htables k
      refine ⟨found, m', hrun, hprocesses, ?_⟩
      rw [hreads.sockets_eq hkeeps]
      exact hperm

/-- A snapshot as a configuration asks for it, taken from a backend of some name. -/
def snapshot (cfg : Config) (name : String) (m : Machine) : Except Error (List Record) :=
  ((ofConfig { cfg with backend := name }).run.run m).1

theorem agree_snapshot {b : Backend} {name : String} (h : Tells sockets b m.host)
    (hb : Backend.resolve m.host name = .ok b) (hf : cfg.families.Nodup)
    (ht : cfg.transports.Nodup) :
    Agree (snapshot cfg name m) (recordsOf cfg m.host.processes
      (sockets.filter (Listing.Selected cfg.families cfg.transports ·))) := by
  obtain ⟨found, m', hrun, hprocesses, hperm⟩ := run_collect_tells h cfg.queryLimit hf ht
  simp only [snapshot, run_ofConfig, hb, Except.bind, hrun]
  rw [hprocesses]
  exact agree_recordsOf _ hperm

/-- The backends agree. A table of common sockets can be told to each of them, and however it is
told, beside the same process table, their inventories are the same up to the order of the records.
As long as the process table can be read, these are the records of the selected sockets. -/
theorem snapshots_agree (hs : ∀ s ∈ sockets, Common s)
    (processes : Except Error (Feed ProcessEntry)) (hf : cfg.families.Nodup)
    (ht : cfg.transports.Nodup) :
    (OwnerTable.Fits sockets →
      ∃ host : Host, (∀ b, Tells sockets b host) ∧ host.processes = processes) ∧
    ∀ (m : Backend → Machine) (name : Backend → String),
      (∀ b, Tells sockets b (m b).host) → (∀ b, (m b).host.processes = processes) →
      (∀ b, Backend.resolve (m b).host (name b) = .ok b) →
        (∀ b b', Agree (snapshot cfg (name b) (m b)) (snapshot cfg (name b') (m b'))) ∧
        ∀ entries : List ProcessEntry, processes = .ok (entries.map .ok) →
          ∀ b, ∃ rs, snapshot cfg (name b) (m b) = .ok rs ∧
            rs.Perm ((sockets.filter (Listing.Selected cfg.families cfg.transports ·)).flatMap
              (records cfg.expandOwners (entryNames entries))) := by
  refine ⟨fun hfits => exists_tells hs hfits processes, ?_⟩
  intro m name htells hprocesses hresolve
  have hagree : ∀ b, Agree (snapshot cfg (name b) (m b)) (recordsOf cfg processes
      (sockets.filter (Listing.Selected cfg.families cfg.transports ·))) := fun b =>
    hprocesses b ▸ agree_snapshot (htells b) (hresolve b) hf ht
  refine ⟨fun b b' => (hagree b).trans (hagree b').symm, ?_⟩
  rintro entries rfl b
  have hok := hagree b
  rw [recordsOf, namesOf_entries] at hok
  cases hsnapshot : snapshot cfg (name b) (m b) with
  | error e =>
      rw [hsnapshot] at hok
      exact hok.elim
  | ok rs =>
      rw [hsnapshot] at hok
      exact ⟨rs, rfl, hok⟩

/-! ## A table told in three ways -/

def webSocket : Socket :=
  ⟨.tcp, .v4 127 0 0 1, some 80, some (.v4 0 0 0 0), some 0, some (.known .listen), [4]⟩

def mixedTable : List Socket := [Listing.scopedSocket, webSocket]

def webFront : Listing.Front := { Listing.Front.bound with
  state := .single "LISTEN".toList (by decide) (by decide)
  localEnd := .single ((Address.v4 127 0 0 1).chars ++ [] ++ ':' :: Text.decimalChars 80) (by decide)
    (by decide +kernel) }

def webEntry : Listing.Entry := { Listing.Entry.quoted with
  name := "web".toList
  pid := ⟨['4'], by decide, by decide⟩
  pid_fits := by decide }

def mixedListing : List (List Char) :=
  [Listing.Front.scoped.line (Listing.columnText [.quoted]),
    webFront.line (Listing.columnText [webEntry])]

theorem lists_mixedTable : Listing.Lists mixedTable mixedListing := by
  have hstate : Listing.PrintsState (.known .listen) webFront.state.word := .listed (by decide)
  have hlocal : Listing.PrintsEnd (.v4 127 0 0 1) ((80 : Nat) : Int) webFront.localEnd.word :=
    .intro (.v4 127 0 0 1) .nil (.numeral (by decide))
  have hpeer : Listing.PrintsEnd (.v4 0 0 0 0) 0 webFront.peerEnd.word :=
    .intro (.v4 0 0 0 0) .nil .star
  have hname : ∀ e ∈ [webEntry], Listing.Unmarked e.name ∧ Text.InLine e.name := by
    rintro e he
    rw [List.mem_singleton.1 he]
    exact ⟨Listing.unmarked_of_notMem (by decide), by decide⟩
  have hweb : Listing.Prints webSocket (webFront.line (Listing.columnText [webEntry])) :=
    .held (.tcp rfl hstate hlocal hpeer) (fun e he => (hname e he).1) fun e he => (hname e he).2
  exact .socket Listing.prints_scoped (.socket hweb .nil)

/-- The peer that is not there has no address. -/
def webConnection : Connection := ⟨.inet4, some ("127.0.0.1", .number 80), none, "LISTEN", some 4⟩

def scopedConnection : Connection :=
  ⟨.inet6, some ("fe80::1%eth0", .number 546), none, "NONE", some 7⟩

def mixedConnections : Kind → List Connection
  | ⟨.tcp, .inet4⟩ => [webConnection]
  | ⟨.udp, .inet6⟩ => [scopedConnection]
  | _ => []

theorem forall₂_mixedConnections : (k : Kind) →
    List.Forall₂ Connections.Shows (k.among mixedTable) (mixedConnections k)
  | ⟨.tcp, .inet4⟩ => by
    have htext : "127.0.0.1" = String.ofList ((Address.v4 127 0 0 1).chars ++ []) := by
      decide +kernel
    have hlocal : Connections.ShowsEnd (.v4 127 0 0 1) 80 .inet4
        (some ("127.0.0.1", .number 80)) := htext ▸ .present rfl .nil
    exact .cons (.tcp hlocal (.absent .inet4) (by decide) (.one (by decide))) .nil
  | ⟨.udp, .inet6⟩ => by
    have htext : "fe80::1%eth0" =
        String.ofList ((Address.v6 Listing.linkLocal none).chars ++ "%eth0".toList) := by
      decide +kernel
    have hzone : Listing.IsZone "%eth0".toList := ⟨by decide, by rintro c ⟨⟩; rfl⟩
    have hlocal : Connections.ShowsEnd (.v6 Listing.linkLocal none) 546 .inet6
        (some ("fe80::1%eth0", .number 546)) := htext ▸ .present rfl hzone
    exact .cons (.udp hlocal (.one (by decide))) .nil
  | ⟨.tcp, .inet6⟩ => .nil
  | ⟨.udp, .inet4⟩ => .nil

def mixedRows : (k : Kind) → List (OwnerTable.Row k)
  | ⟨.tcp, .inet4⟩ => [.listening]
  | ⟨.udp, .inet6⟩ => [.udp ⟨.v6 Listing.linkLocal 3, 546, 0, 0⟩ 7]
  | _ => []

theorem sockets_mixedRows : (k : Kind) →
    (mixedRows k).map OwnerTable.Row.socket = k.among mixedTable
  | ⟨.tcp, .inet4⟩ => by decide
  | ⟨.udp, .inet6⟩ => by decide
  | ⟨.tcp, .inet6⟩ => rfl
  | ⟨.udp, .inet4⟩ => rfl

def mixedHistory (k : Kind) : OwnerTable.History k where
  changing := []
  final := ⟨mixedRows k, [], by rcases k with ⟨_ | _, _ | _⟩ <;> decide⟩

/-- A host that tells the table in all three renderings. -/
def mixedHost : Host := { Host.idle "Windows" with
  listing := .ok ⟨0, Listing.outputText mixedListing, ""⟩
  connections := fun k => .ok (mixedConnections k)
  processes := .ok ([(4, some "web"), (7, none)].map .ok)
  tables := fun k => (mixedHistory k).answers }

theorem tells_mixedHost : ∀ b, Tells mixedTable b mixedHost
  | .connections => fun k => ⟨_, rfl, forall₂_mixedConnections k⟩
  | .listing => ⟨_, "", lists_mixedTable, rfl⟩
  | .ownerTable => ⟨rfl, rfl, mixedHistory, fun _ => rfl, fun k _ => sockets_mixedRows k⟩

theorem common_mixedTable : ∀ s ∈ mixedTable, Common s := by
  have hscoped : Common Listing.scopedSocket := .udp rfl (by decide : 546 ≤ 65535) (.one (by decide))
  have hweb : Common webSocket := .tcp rfl rfl rfl (by decide : 80 ≤ 65535)
    (by decide : 0 ≤ 65535) (by decide) (.one (by decide))
  exact List.forall_mem_cons.2 ⟨hscoped, List.forall_mem_singleton.2 hweb⟩

theorem snapshots_agree_mixed :
    (∀ b b' : Backend, Agree (snapshot .standard b.name ⟨mixedHost, []⟩)
      (snapshot .standard b'.name ⟨mixedHost, []⟩)) ∧
    ∀ b : Backend, ∃ rs, snapshot .standard b.name ⟨mixedHost, []⟩ = .ok rs ∧ rs.length = 2 := by
  have hagree := (@snapshots_agree mixedTable .standard common_mixedTable mixedHost.processes
    (by decide) (by decide)).2 (fun _ => ⟨mixedHost, []⟩) Backend.name tells_mixedHost
      (fun _ => rfl) (by rintro (_ | _ | _) <;> rfl)
  refine ⟨hagree.1, fun b => ?_⟩
  obtain ⟨rs, hrs, hperm⟩ := hagree.2 _ rfl b
  exact ⟨rs, hrs, hperm.length_eq.trans (by decide +kernel)⟩

end SocketInventory.Inventory
