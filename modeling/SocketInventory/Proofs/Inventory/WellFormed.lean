import SocketInventory.Proofs.Inventory.Building
import SocketInventory.Proofs.Source.Soundness

/-!
# Well-formed records

What every record of an inventory satisfies, whatever the configuration asks for and whatever the
host answers: the protocol is a selected one, addresses that are shown are canonical, a UDP socket
has neither a remote end nor a state, and process zero has no name.
-/

namespace SocketInventory

/-! ## Records -/

/-- The protocols with the kinds that they name. -/
def protocols : List (String × Kind) :=
  [("tcp", ⟨.tcp, .inet4⟩), ("tcp6", ⟨.tcp, .inet6⟩), ("udp", ⟨.udp, .inet4⟩),
    ("udp6", ⟨.udp, .inet6⟩)]

/-- The text is the canonical one of an address that has no zone and is not the unspecified one. -/
structure ShowsAddress (text : String) (a : Address) : Prop where
  parse : Address.parse? text.toList = some a
  canonical : text = a.text
  zone : a.zone? = none
  specified : a.isUnspecified = false

structure Record.WellFormed (cfg : Config) (r : Record) : Prop where
  protocol : ∃ k, (r.protocol, k) ∈ protocols ∧ k.transport ∈ cfg.transports ∧
    k.family ∈ cfg.families
  localPort : r.localEnd.port.isSome
  localAddress : ∀ text, r.localEnd.address = some text →
    ∃ a, ShowsAddress text a ∧ (a.family = .inet6 ↔ r.protocol.toList.getLast? = some '6')
  remoteAddress : ∀ text, r.remoteEnd.address = some text → ∃ a, ShowsAddress text a
  udp : r.protocol ∈ ["udp", "udp6"] → r.remoteEnd = ⟨none, none⟩ ∧ r.state = ""
  tcp : r.protocol ∈ ["tcp", "tcp6"] →
    r.remoteEnd.port.isSome ∧ r.state ∈ TcpState.all.map TcpState.text
  unowned : r.pid = 0 → r.processName = some ""

namespace Inventory

theorem showsAddress_addressText {a : Address} {text : String} (ha : a.zone? = none)
    (h : addressText (some a) = some text) : ShowsAddress text a := by
  rw [addressText] at h
  split at h
  · cases h
  · rename_i hspecified
    cases h
    refine ⟨?_, rfl, ha, by simpa using hspecified⟩
    rw [Address.text, String.toList_ofList, Address.parse?_chars ha]

theorem stateText_mem (s : Option SocketState) :
    stateText s ∈ TcpState.all.map TcpState.text := by
  have hunknown : TcpState.unknown.text ∈ TcpState.all.map TcpState.text := by decide
  rcases s with _ | s | w | n
  · exact hunknown
  · exact List.mem_map_of_mem (by cases s <;> decide)
  · exact hunknown
  · exact hunknown

section Protocols

variable {t : Transport} {v6 : Bool}

theorem protocolName_v6 : (protocolName t v6).toList.getLast? = some '6' ↔ v6 := by
  cases t <;> cases v6 <;> decide

theorem protocolName_udp : protocolName t v6 ∈ ["udp", "udp6"] ↔ t = .udp := by
  cases t <;> cases v6 <;> decide

theorem protocolName_tcp : protocolName t v6 ∈ ["tcp", "tcp6"] ↔ t = .tcp := by
  cases t <;> cases v6 <;> decide

theorem mem_protocols (t : Transport) (a : Address) :
    (protocolName t a.isV6, ⟨t, a.family⟩) ∈ protocols := by
  rw [Address.isV6]
  cases t <;> cases a.family <;> decide

end Protocols

/-- The records of a sound socket of a selected kind. -/
theorem wellFormed_record {cfg : Config} {s : Socket} (hs : s.Sound)
    (hk : s.kind ∈ Kind.select cfg.transports cfg.families) (index : NameIndex) (pid : Int) :
    (record s index pid).WellFormed cfg where
  protocol := ⟨s.kind, mem_protocols s.transport s.localAddress, Kind.mem_select.1 hk⟩
  localPort := hs.localPort
  localAddress := by
    intro text htext
    refine ⟨s.localAddress, showsAddress_addressText hs.localZone htext, ?_⟩
    exact beq_iff_eq.symm.trans protocolName_v6.symm
  remoteAddress := by
    intro text htext
    rw [record, remoteEnd] at htext
    split at htext
    · cases hr : s.remoteAddress with
      | none =>
          rw [hr] at htext
          cases htext
      | some a =>
          rw [hr] at htext
          exact ⟨a, showsAddress_addressText (hs.remoteZone a hr) htext⟩
    · cases htext
  udp := by
    intro hudp
    have ht : s.transport = .udp := protocolName_udp.1 hudp
    simp only [record, remoteEnd, ht, and_self]
  tcp := by
    intro htcp
    have ht : s.transport = .tcp := protocolName_tcp.1 htcp
    simp only [record, remoteEnd, ht]
    exact ⟨rfl, stateText_mem s.state⟩
  unowned := fun hpid => if_pos hpid

theorem wellFormed_recordsOf {cfg : Config} {processes : Except Error (Feed ProcessEntry)}
    {sockets : List Socket} {found : List Record}
    (hs : ∀ s ∈ sockets, s.Sound ∧ s.kind ∈ Kind.select cfg.transports cfg.families)
    (h : recordsOf cfg processes sockets = .ok found) : ∀ r ∈ found, r.WellFormed cfg := by
  rw [recordsOf] at h
  cases hindex : namesOf cfg.strictProcesses processes with
  | error e =>
      rw [hindex] at h
      cases h
  | ok index =>
      rw [hindex] at h
      cases h
      intro r hr
      obtain ⟨s, hmem, hr⟩ := List.mem_flatMap.1 hr
      obtain ⟨pid, -, rfl⟩ := List.mem_map.1 hr
      exact wellFormed_record (hs s hmem).1 (hs s hmem).2 index pid

/-- Every record of an inventory is well formed. Only the connection interface is trusted, to list
under each kind what is of that kind. -/
theorem wellFormed_ofConfig {cfg : Config} {m : Machine} {found : List Record}
    (hl : Backend.resolve m.host cfg.backend = .ok .connections →
      Connections.ListsOfKind (Kind.select cfg.transports cfg.families) m.host)
    (h : ((ofConfig cfg).run.run m).1 = .ok found) : ∀ r ∈ found, r.WellFormed cfg := by
  rw [run_ofConfig] at h
  obtain ⟨b, hb, h⟩ := exists_of_bind_ok h
  split at h
  · rename_i sockets m' hrun
    have hsound := Backend.sound_of_collect (fun hc => hl (hc ▸ hb)) hrun
    exact wellFormed_recordsOf hsound h
  · cases h

/-- A listener of every address, held by process zero. -/
def anyConnection : Connection := ⟨.inet4, some ("0.0.0.0", .number 22), none, "LISTEN", some 0⟩

def anyHost : Host := { Host.idle "Darwin" with
  connections := fun _ => .ok [anyConnection]
  processes := .ok [.ok (0, some "kernel_task")] }

def anyConfig : Config := { Config.standard with families := [.inet4], transports := [.tcp] }

theorem wellFormed_ofConfig_any : ∃ r, ((ofConfig anyConfig).run.run ⟨anyHost, []⟩).1 = .ok [r] ∧
    r.WellFormed anyConfig ∧ r.processName = some "" := by
  have hlocal : Listing.parseHost "0.0.0.0".toList = .ok (.v4 0 0 0 0) :=
    ok_of_toOption (by decide +kernel)
  have hkind : Connections.OfKind ⟨.tcp, .inet4⟩ anyConnection := by
    refine ⟨rfl, ?_⟩
    rintro host port ⟨⟩ a ha
    cases hlocal.symm.trans ha
    rfl
  have hlists : Connections.ListsOfKind (Kind.select [.tcp] [.inet4]) anyHost := by
    rintro k hk connections ⟨⟩ c hc
    cases List.mem_singleton.1 hc
    cases List.mem_singleton.1 hk
    exact hkind
  have hrun : ((ofConfig anyConfig).run.run ⟨anyHost, []⟩).1 =
      .ok [⟨"tcp", ⟨none, some 22⟩, ⟨none, some 0⟩, "LISTEN", 0, some ""⟩] :=
    ok_of_toOption (by decide +kernel)
  exact ⟨_, hrun, wellFormed_ofConfig (fun _ => hlists) hrun _ (by simp), rfl⟩

end Inventory

end SocketInventory
