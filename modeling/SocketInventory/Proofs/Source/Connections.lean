import SocketInventory.Proofs.Kinds
import SocketInventory.Proofs.Outcome
import SocketInventory.Proofs.Source.Printing
import SocketInventory.Source.Connections

/-!
# Listed connections

The ways in which the connection interface shows a socket: an end with its address as text, or none
for the unspecified one with port zero, a status word for TCP, and an owner or none. The sockets
that are collected are those that are shown, kind by kind.
-/

namespace SocketInventory.Connections

/-! ## Sockets -/

/-- The forms of an end of a family. A zone may stand behind an address. -/
inductive ShowsEnd : Address → Int → Family → Option (String × PortValue) → Prop
  | absent (f : Family) : ShowsEnd (.unspecified f) 0 f none
  | present {a : Address} {n : Int} {f : Family} {zone : List Char} (ha : a.zone? = none)
      (hz : Listing.IsZone zone) :
      ShowsEnd a n f (some (String.ofList (a.chars ++ zone), .number n))

/-- The forms of the owners of a socket; process zero is none. -/
inductive ShowsOwners : List Int → Option Int → Prop
  | absent : ShowsOwners [] none
  | zero : ShowsOwners [] (some 0)
  | one {pid : Int} (h : pid ≠ 0) : ShowsOwners [pid] (some pid)

/-- The connections that show a socket. -/
inductive Shows : Socket → Connection → Prop
  | tcp {f : Family} {a b : Address} {n k : Int} {w : String} {st : TcpState} {pids : List Int}
      {l r : Option (String × PortValue)} {pid : Option Int} (hl : ShowsEnd a n f l)
      (hr : ShowsEnd b k f r) (hs : (w, st) ∈ statusWords) (ho : ShowsOwners pids pid) :
      Shows ⟨.tcp, a, some n, some b, some k, some (.known st), pids⟩ ⟨f, l, r, w, pid⟩
  | udp {f : Family} {a : Address} {n : Int} {w : String} {pids : List Int}
      {l r : Option (String × PortValue)} {pid : Option Int} (hl : ShowsEnd a n f l)
      (ho : ShowsOwners pids pid) :
      Shows ⟨.udp, a, some n, none, none, none, pids⟩ ⟨f, l, r, w, pid⟩

theorem ShowsEnd.parseEnd {a : Address} {n : Int} {f : Family} {e : Option (String × PortValue)}
    (h : ShowsEnd a n f e) : parseEnd f e = .ok (a, n) := by
  cases h with
  | absent => rfl
  | present ha hz =>
      simp only [Connections.parseEnd, String.toList_ofList, Listing.parseHost_chars ha hz]
      rfl

theorem ShowsOwners.owners {pids : List Int} {pid : Option Int} (h : ShowsOwners pids pid) :
    owners pid = pids := by
  cases h with
  | absent => rfl
  | zero => rfl
  | one h => exact if_neg h

theorem parseStatus_statusWords : ∀ e ∈ statusWords, parseStatus e.1 = e.2 := by
  decide +kernel

theorem Shows.toSocket {s : Socket} {c : Connection} (h : Shows s c) :
    toSocket s.transport c = .ok s := by
  cases h with
  | tcp hl hr hs ho =>
      simp only [Connections.toSocket, hl.parseEnd, hr.parseEnd, ho.owners,
        parseStatus_statusWords _ hs]
      rfl
  | udp hl ho =>
      simp only [Connections.toSocket, hl.parseEnd, ho.owners]
      rfl

theorem mapM_toSocket {t : Transport} {sockets : List Socket} {connections : List Connection}
    (h : List.Forall₂ Shows sockets connections) (ht : ∀ s ∈ sockets, s.transport = t) :
    connections.mapM (toSocket t) = .ok sockets := by
  induction h with
  | nil => rfl
  | @cons s c sockets connections hs _ ih =>
      have hsocket : Connections.toSocket t c = .ok s := ht s (by simp) ▸ hs.toSocket
      exact mapM_cons_ok.2 ⟨s, sockets, hsocket, ih fun x hx => ht x (by simp [hx]), rfl⟩

/-! ## Collecting -/

variable {m : Machine} {sockets : List Socket}

/-- A host lists some sockets, each among the connections of its kind. -/
def Listed (sockets : List Socket) (host : Host) : Prop :=
  ∀ k : Kind, ∃ connections, host.connections k = .ok connections ∧
    List.Forall₂ Shows (k.among sockets) connections

theorem run_collectKind (h : Listed sockets m.host) (k : Kind) :
    (collectKind k).run.run m =
      (.ok (k.among sockets), { m with events := m.events ++ [.call (.connections k)] }) := by
  obtain ⟨connections, hlist, hshows⟩ := h k
  have htransport : ∀ s ∈ k.among sockets, s.transport = k.transport := by
    intro s hs
    have hkind := List.of_mem_filter hs
    rw [← of_decide_eq_true hkind]
    rfl
  rw [collectKind, Session.run_bind_ok (Session.run_call _),
    Session.run_bind_ok Session.run_host]
  simp only [hlist, Session.run_lift, mapM_toSocket hshows htransport]

theorem run_mapM_collectKind (h : Listed sockets m.host) (kinds : List Kind) :
    (kinds.mapM collectKind).run.run m =
      (.ok (kinds.map (·.among sockets)),
        { m with events := m.events ++ kinds.map fun k => .call (.connections k) }) := by
  induction kinds generalizing m with
  | nil =>
      simp only [List.map_nil, List.append_nil]
      rfl
  | cons k kinds ih =>
      have hrest : Listed sockets
          ({ m with events := m.events ++ [.call (.connections k)] } : Machine).host := h
      rw [List.mapM_cons, Session.run_bind_ok (run_collectKind h k),
        Session.run_bind_ok (ih hrest), Session.run_pure, List.map_cons, List.map_cons,
        List.append_assoc]
      rfl

theorem run_collect (h : Listed sockets m.host) (families : List Family)
    (transports : List Transport) :
    (collect families transports).run.run m =
      (.ok ((Kind.select transports families).flatMap (·.among sockets)),
        { m with events := m.events ++
            (Kind.select transports families).map fun k => .call (.connections k) }) := by
  rw [collect, Session.run_bind_ok (run_mapM_collectKind h _), Session.run_pure,
    List.flatMap_def]

end SocketInventory.Connections
