import SocketInventory.Proofs.Address.Text
import SocketInventory.Proofs.Kinds
import SocketInventory.Proofs.Outcome
import SocketInventory.Proofs.Session
import SocketInventory.Source.Backend

/-!
# Soundness of what is collected

Whatever the host answers, a socket that a backend returns is of a selected kind, its local end has
a port, and its addresses have no zone. Only the connection interface may return connections of
another kind than the one asked for, and has to be trusted not to.
-/

namespace SocketInventory

structure Socket.Sound (s : Socket) : Prop where
  localZone : s.localAddress.zone? = none
  localPort : s.localPort.isSome
  remoteZone : ∀ a, s.remoteAddress = some a → a.zone? = none

variable {m m' : Machine} {sockets : List Socket} {families : List Family}
  {transports : List Transport}

/-- Sockets that were collected kind by kind are sound if those of each kind are. -/
theorem sound_of_parts {kinds : List Kind} {parts : List (List Socket)}
    (h : ∀ part ∈ parts, ∃ k ∈ kinds, ∀ s ∈ part, s.Sound ∧ s.kind = k) :
    ∀ s ∈ parts.flatten, s.Sound ∧ s.kind ∈ kinds := by
  intro s hs
  obtain ⟨part, hpart, hs⟩ := List.mem_flatten.1 hs
  obtain ⟨k, hk, hpart⟩ := h part hpart
  obtain ⟨hsound, hkind⟩ := hpart s hs
  exact ⟨hsound, hkind ▸ hk⟩

/-! ## Listings -/

namespace Listing

theorem percent_notMem_bareHost (s : List Char) : '%' ∉ bareHost s := by
  have hhost : '%' ∉ (Text.trim s).takeWhile (· != '%') := fun h => by
    simpa using List.mem_takeWhile_imp h
  rw [bareHost]
  split
  · exact fun h => hhost (List.mem_of_mem_drop (List.mem_of_mem_dropLast h))
  · exact hhost

/-- A zone is dropped before the address is read. -/
theorem zone?_of_parseHost {s : List Char} {a : Address} (h : parseHost s = .ok a) :
    a.zone? = none := by
  rw [parseHost] at h
  split at h
  · cases h
    rfl
  · split at h
    · rename_i hparse
      cases h
      exact Address.zone?_of_parse? (percent_notMem_bareHost s) hparse
    · cases h

theorem zone?_of_parseEnd {s : List Char} {a : Address} {n : Int} (h : parseEnd s = .ok (a, n)) :
    a.zone? = none := by
  rw [parseEnd] at h
  split at h
  · cases h
  · obtain ⟨b, hhost, h⟩ := exists_of_bind_ok h
    cases h
    exact zone?_of_parseHost hhost

theorem sound_of_parseLine {line : List Char} {s : Socket} (h : parseLine line = .ok (some s)) :
    s.Sound := by
  rw [parseLine] at h
  split at h
  · cases h
  · split at h
    · rename_i hl _
      obtain ⟨pids, -, h⟩ := exists_of_bind_ok h
      cases h
      exact ⟨zone?_of_parseEnd hl, rfl, by rintro a ⟨⟩⟩
    · rename_i hl hr
      obtain ⟨pids, -, h⟩ := exists_of_bind_ok h
      cases h
      refine ⟨zone?_of_parseEnd hl, rfl, ?_⟩
      rintro a ⟨⟩
      exact zone?_of_parseEnd hr
    · cases h

theorem sound_of_select {result : CommandResult}
    (h : select families transports result = .ok sockets) :
    ∀ s ∈ sockets, s.Sound ∧ s.kind ∈ Kind.select transports families := by
  rw [select] at h
  split at h
  · cases h
  · obtain ⟨listed, hlisted, h⟩ := exists_of_bind_ok h
    obtain ⟨found, hfound, hlisted⟩ := exists_of_bind_ok hlisted
    cases h
    cases hlisted
    intro s hs
    obtain ⟨hmem, hselected⟩ := List.mem_filter.1 hs
    obtain ⟨x, hx, rfl⟩ := List.mem_filterMap.1 hmem
    obtain ⟨line, -, hline⟩ := exists_of_mem_mapM_ok hfound hx
    exact ⟨sound_of_parseLine hline, Kind.mem_select.2 (by simpa [Socket.kind] using hselected)⟩

theorem sound_of_collect {limit : Option Seconds}
    (h : (collect limit families transports).run.run m = (.ok sockets, m')) :
    ∀ s ∈ sockets, s.Sound ∧ s.kind ∈ Kind.select transports families := by
  rw [collect, Session.run_bind_ok (Session.run_call _), Session.run_bind_ok Session.run_host] at h
  split at h
  · rw [Session.run_lift] at h
    exact sound_of_select (Prod.mk.inj h).1
  · cases h

end Listing

/-! ## Connections -/

namespace Connections

/-- A connection belongs to a kind with its family and the family of its local address. -/
structure OfKind (k : Kind) (c : Connection) : Prop where
  family : c.family = k.family
  localAddress : ∀ host port, c.localEnd = some (host, port) →
    ∀ a, Listing.parseHost host.toList = .ok a → a.family = k.family

theorem zone?_of_parseEnd {f : Family} {e : Option (String × PortValue)} {a : Address} {n : Int}
    (h : parseEnd f e = .ok (a, n)) : a.zone? = none := by
  rcases e with _ | ⟨host, port⟩
  · cases h
    cases f <;> rfl
  · obtain ⟨b, hhost, h⟩ := exists_of_bind_ok h
    obtain ⟨k, -, h⟩ := exists_of_bind_ok h
    cases h
    exact Listing.zone?_of_parseHost hhost

theorem OfKind.family_of_parseEnd {k : Kind} {c : Connection} (hc : OfKind k c) {a : Address}
    {n : Int} (h : parseEnd c.family c.localEnd = .ok (a, n)) : a.family = k.family := by
  cases hl : c.localEnd with
  | none =>
      rw [hl] at h
      cases h
      rw [← hc.family]
      cases c.family <;> rfl
  | some e =>
      obtain ⟨host, port⟩ := e
      rw [hl] at h
      obtain ⟨b, hhost, h⟩ := exists_of_bind_ok h
      obtain ⟨k, -, h⟩ := exists_of_bind_ok h
      cases h
      exact hc.localAddress host port hl _ hhost

theorem sound_of_toSocket {k : Kind} {c : Connection} {s : Socket} (hc : OfKind k c)
    (h : toSocket k.transport c = .ok s) : s.Sound ∧ s.kind = k := by
  obtain ⟨transport, family⟩ := k
  obtain ⟨⟨a, n⟩, hl, h⟩ := exists_of_bind_ok h
  have hfamily := hc.family_of_parseEnd hl
  cases transport with
  | udp =>
      cases h
      exact ⟨⟨zone?_of_parseEnd hl, rfl, by rintro b ⟨⟩⟩, by rw [Socket.kind, hfamily]⟩
  | tcp =>
      obtain ⟨⟨b, i⟩, hr, h⟩ := exists_of_bind_ok h
      cases h
      refine ⟨⟨zone?_of_parseEnd hl, rfl, ?_⟩, by rw [Socket.kind, hfamily]⟩
      rintro c ⟨⟩
      exact zone?_of_parseEnd hr

/-- The connection interface lists under a kind what is of that kind. -/
def ListsOfKind (kinds : List Kind) (host : Host) : Prop :=
  ∀ k ∈ kinds, ∀ connections, host.connections k = .ok connections →
    ∀ c ∈ connections, OfKind k c

theorem sound_of_collectKind {kinds : List Kind} {k : Kind} (hk : k ∈ kinds)
    (hl : ListsOfKind kinds m.host) (h : (collectKind k).run.run m = (.ok sockets, m')) :
    (∀ s ∈ sockets, s.Sound ∧ s.kind = k) ∧ ListsOfKind kinds m'.host := by
  rw [collectKind, Session.run_bind_ok (Session.run_call _),
    Session.run_bind_ok Session.run_host] at h
  split at h
  · rename_i connections hconnections
    rw [Session.run_lift] at h
    obtain ⟨hsockets, rfl⟩ := Prod.mk.inj h
    refine ⟨fun s hs => ?_, hl⟩
    obtain ⟨c, hc, hsocket⟩ := exists_of_mem_mapM_ok hsockets hs
    exact sound_of_toSocket (hl k hk connections hconnections c hc) hsocket
  · cases h

theorem sound_of_collect (hl : ListsOfKind (Kind.select transports families) m.host)
    (h : (collect families transports).run.run m = (.ok sockets, m')) :
    ∀ s ∈ sockets, s.Sound ∧ s.kind ∈ Kind.select transports families := by
  obtain ⟨parts, m₁, hparts, h⟩ := Session.exists_of_run_bind h
  cases h
  exact sound_of_parts (Session.forall_of_run_mapM
    (fun k hk _ _ _ hm hrun => sound_of_collectKind hk hm hrun) hl hparts)

end Connections

/-! ## Owner tables -/

namespace OwnerTable

theorem groupsAt_eq (octets : List UInt8) (offset : Nat) :
    ∃ groups, groupsAt octets offset = .v6 groups none := by
  rw [groupsAt, Address.ofOctets?]
  split
  · cases Groups.ofList? (Address.pairGroups ((octets.drop offset).take 16)) with
    | none => exact ⟨_, rfl⟩
    | some groups => exact ⟨groups, rfl⟩
  · exact ⟨_, rfl⟩

theorem sound_rowSocket (k : Kind) (row : List UInt8) :
    (rowSocket k row).Sound ∧ (rowSocket k row).kind = k := by
  obtain ⟨transport, family⟩ := k
  cases transport <;> cases family
  · refine ⟨⟨rfl, rfl, ?_⟩, rfl⟩
    rintro a ⟨⟩
    rfl
  · obtain ⟨l, hl⟩ := groupsAt_eq row 0
    obtain ⟨r, hr⟩ := groupsAt_eq row 24
    simp only [rowSocket, hl, hr]
    refine ⟨⟨rfl, rfl, ?_⟩, rfl⟩
    rintro a ⟨⟩
    rfl
  · exact ⟨⟨rfl, rfl, by rintro a ⟨⟩⟩, rfl⟩
  · obtain ⟨l, hl⟩ := groupsAt_eq row 0
    simp only [rowSocket, hl]
    exact ⟨⟨rfl, rfl, by rintro a ⟨⟩⟩, rfl⟩

theorem sound_of_decode {k : Kind} {outcome : Outcome} (h : decode k outcome = .ok sockets) :
    ∀ s ∈ sockets, s.Sound ∧ s.kind = k := by
  cases outcome with
  | failed code => cases h
  | endless => cases h
  | filled b =>
      obtain ⟨found, -, h⟩ := exists_of_bind_ok h
      cases h
      intro s hs
      obtain ⟨row, -, rfl⟩ := List.mem_map.1 hs
      exact sound_rowSocket k row

theorem sound_of_collectKind {k : Kind}
    (h : (collectKind k).run.run m = (.ok sockets, m')) : ∀ s ∈ sockets, s.Sound ∧ s.kind = k := by
  obtain ⟨host, m₁, -, h⟩ := Session.exists_of_run_bind h
  obtain ⟨-, m₂, -, h⟩ := Session.exists_of_run_bind h
  obtain ⟨-, m₃, -, h⟩ := Session.exists_of_run_bind h
  rw [Session.run_lift] at h
  exact sound_of_decode (Prod.mk.inj h).1

theorem sound_of_collect (h : (collect families transports).run.run m = (.ok sockets, m')) :
    ∀ s ∈ sockets, s.Sound ∧ s.kind ∈ Kind.select transports families := by
  rw [collect, Session.run_bind_ok Session.run_host] at h
  -- Another platform and a library that is not loaded give no sockets at all.
  by_cases hp : m.host.platform ≠ "Windows"
  · rw [if_pos hp] at h
    cases h
  · rw [if_neg hp] at h
    beta_reduce at h
    rw [Session.run_bind_ok (Session.run_call _)] at h
    split at h
    · obtain ⟨parts, m₁, hparts, h⟩ := Session.exists_of_run_bind h
      cases h
      have hstep : ∀ k ∈ Kind.select transports families, ∀ m part m', True →
          (collectKind k).run.run m = (.ok part, m') →
          (∀ s ∈ part, s.Sound ∧ s.kind = k) ∧ True :=
        fun k _ m part m' _ hrun => ⟨sound_of_collectKind hrun, trivial⟩
      exact sound_of_parts (Session.forall_of_run_mapM hstep trivial hparts)
    · cases h

end OwnerTable

theorem Backend.sound_of_collect {b : Backend} {limit : Option Seconds}
    (hl : b = .connections → Connections.ListsOfKind (Kind.select transports families) m.host)
    (h : (b.collect limit families transports).run.run m = (.ok sockets, m')) :
    ∀ s ∈ sockets, s.Sound ∧ s.kind ∈ Kind.select transports families := by
  cases b with
  | connections => exact Connections.sound_of_collect (hl rfl) h
  | listing => exact Listing.sound_of_collect h
  | ownerTable => exact OwnerTable.sound_of_collect h

end SocketInventory
