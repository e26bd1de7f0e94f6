import SocketInventory.Proofs.Kinds
import SocketInventory.Proofs.Outcome
import SocketInventory.Proofs.Session
import SocketInventory.Proofs.Source.Owners
import SocketInventory.Proofs.Source.Reading
import SocketInventory.Source.Backend

/-!
# Answers that settle an enumeration

Collecting is meant to end in sockets or in an enumeration error, whatever the host answers. It does
as long as every answer that it comes to can be read: a listing without numbers of too many digits,
connections with addresses and ports, tables that hold as many rows as they count.
-/

namespace SocketInventory

/-! ## Settled outcomes -/

/-- The outcome is a value or an enumeration error. -/
def Settled {α : Type} (x : Except Error α) : Prop :=
  (∃ a, x = .ok a) ∨ ∃ e, x = .error (.enumeration e)

section Outcomes

variable {α β : Type}

theorem settled_ok (a : α) : Settled (.ok a) := .inl ⟨a, rfl⟩

theorem settled_enumeration (e : EnumerationError) :
    Settled (.error (.enumeration e) : Except Error α) :=
  .inr ⟨e, rfl⟩

theorem settled_error_iff {e : Error} :
    Settled (.error e : Except Error α) ↔ ∃ f, e = .enumeration f := by
  constructor
  · rintro (⟨a, ⟨⟩⟩ | ⟨f, h⟩)
    exact ⟨f, Except.error.inj h⟩
  · rintro ⟨f, rfl⟩
    exact settled_enumeration f

/-- The outcome is no enumeration error: nothing has turned what went wrong into one. -/
def Unconverted (x : Except Error α) : Prop := ∀ e, x ≠ .error (.enumeration e)

namespace Unconverted

theorem ok (a : α) : Unconverted (.ok a) := by
  rintro e ⟨⟩

theorem error {e : Error} (he : ∀ f, e ≠ .enumeration f) :
    Unconverted (.error e : Except Error α) := by
  rintro f ⟨⟩
  exact he f rfl

theorem bind {x : Except Error α} {f : α → Except Error β} (hx : Unconverted x)
    (hf : ∀ a, Unconverted (f a)) : Unconverted (x >>= f) := by
  cases x with
  | ok a => exact hf a
  | error e => exact error fun f he => hx f (congrArg _ he)

theorem map {x : Except Error α} (hx : Unconverted x) (g : α → β) : Unconverted (x.map g) :=
  hx.bind fun a => ok (g a)

theorem mapError {ε : Type} {g : ε → Error} (hg : ∀ e f, g e ≠ .enumeration f) (x : Except ε α) :
    Unconverted (x.mapError g) := by
  cases x with
  | ok a => exact ok a
  | error e => exact error (hg e)

theorem mapM {f : α → Except Error β} (hf : ∀ a, Unconverted (f a)) (xs : List α) :
    Unconverted (xs.mapM f) := by
  intro e h
  obtain ⟨-, x, -, -, -, hx⟩ := mapM_error_iff.1 h
  exact hf x e hx

end Unconverted

/-- Where nothing is converted, a value is the only settled outcome. -/
theorem settled_iff_isOk {x : Except Error α} (hx : Unconverted x) :
    Settled x ↔ ∃ a, x = .ok a := by
  constructor
  · rintro (h | ⟨e, he⟩)
    · exact h
    · exact absurd he (hx e)
  · exact .inl

theorem settled_map (g : α → β) {x : Except Error α} : Settled (x.map g) ↔ Settled x := by
  cases x with
  | ok a => exact iff_of_true (settled_ok _) (settled_ok a)
  | error e => rw [Except.map, settled_error_iff, settled_error_iff]

theorem settled_mapM_iff {f : α → Except Error β} {xs : List α}
    (hf : ∀ x, Unconverted (f x)) :
    Settled (xs.mapM f) ↔ ∀ x ∈ xs, ∃ b, f x = .ok b := by
  rw [settled_iff_isOk (.mapM hf xs)]
  constructor
  · rintro ⟨ys, hys⟩ x hx
    obtain ⟨y, -, hy⟩ := mem_of_mapM_ok hys hx
    exact ⟨y, hy⟩
  · exact exists_mapM_ok

end Outcomes

/-! ## Runs along a list -/

section Runs

variable {α β : Type} {f : α → Session β} {x y : α} {xs : List α} {m m' : Machine}

/-- A run along a list comes to an element, in some machine, when all before it ends well. -/
def Reaches (f : α → Session β) (xs : List α) (m : Machine) (x : α) (m' : Machine) : Prop :=
  ∃ before after ys, xs = before ++ x :: after ∧ (before.mapM f).run.run m = (.ok ys, m')

theorem reaches_cons : Reaches f (x :: xs) m y m' ↔
    (y = x ∧ m' = m) ∨ ∃ b m₁, (f x).run.run m = (.ok b, m₁) ∧ Reaches f xs m₁ y m' := by
  constructor
  · rintro ⟨before, after, ys, hxs, hrun⟩
    rcases before with _ | ⟨z, before⟩
    · cases hxs
      cases hrun
      exact .inl ⟨rfl, rfl⟩
    · cases hxs
      rw [List.mapM_cons] at hrun
      obtain ⟨b, m₁, hx, hrun⟩ := Session.exists_of_run_bind hrun
      obtain ⟨rest, m₂, hrest, hrun⟩ := Session.exists_of_run_bind hrun
      cases hrun
      exact .inr ⟨b, m₁, hx, before, after, rest, rfl, hrest⟩
  · rintro (⟨rfl, rfl⟩ | ⟨b, m₁, hx, before, after, ys, rfl, hrun⟩)
    · exact ⟨[], xs, [], rfl, rfl⟩
    · refine ⟨x :: before, after, b :: ys, rfl, ?_⟩
      rw [List.mapM_cons, Session.run_bind_ok hx, Session.run_bind_ok hrun, Session.run_pure]

/-- A run along a list is settled exactly when each step that it comes to is. -/
theorem settled_run_mapM : Settled ((xs.mapM f).run.run m).1 ↔
    ∀ x m', Reaches f xs m x m' → Settled ((f x).run.run m').1 := by
  induction xs generalizing m with
  | nil =>
      refine iff_of_true (settled_ok []) ?_
      rintro x m' ⟨before, after, ys, hnil, -⟩
      cases before <;> cases hnil
  | cons x xs ih =>
      rw [List.mapM_cons, Session.run_bind]
      rcases hx : (f x).run.run m with ⟨e | b, m₁⟩
      · constructor
        · intro h y m' hy
          rcases reaches_cons.1 hy with ⟨rfl, rfl⟩ | ⟨b, m₁, hb, -⟩
          · rw [hx]
            exact settled_error_iff.2 (settled_error_iff.1 h)
          · cases hx.symm.trans hb
        · intro h
          have hhead := h x m (reaches_cons.2 (.inl ⟨rfl, rfl⟩))
          rw [hx] at hhead
          exact settled_error_iff.2 (settled_error_iff.1 hhead)
      · have hrest : ((xs.mapM f >>= fun ys => pure (b :: ys)).run.run m₁).1 =
            ((xs.mapM f).run.run m₁).1.map (b :: ·) := by
          rw [Session.run_bind]
          rcases (xs.mapM f).run.run m₁ with ⟨e | ys, m₂⟩ <;> rfl
        simp only
        rw [hrest, settled_map, ih]
        constructor
        · intro h y m' hy
          rcases reaches_cons.1 hy with ⟨rfl, rfl⟩ | ⟨b', m₁', hb, hy⟩
          · rw [hx]
            exact settled_ok b
          · cases hx.symm.trans hb
            exact h y m' hy
        · exact fun h y m' hy => h y m' (reaches_cons.2 (.inr ⟨b, m₁, hx, hy⟩))

theorem settled_run_bind_pure (s : Session α) (g : α → β) :
    Settled ((s >>= fun a => pure (g a)).run.run m).1 ↔ Settled (s.run.run m).1 := by
  rw [← settled_map g, Session.run_bind]
  rcases s.run.run m with ⟨e | a, m'⟩ <;> rfl

end Runs

/-- A fault of the host of one of some classes. -/
def Error.IsFault (p : FaultClass → Bool) (e : Error) : Prop := ∃ c text, e = .host c text ∧ p c

variable {m : Machine} (families : List Family) (transports : List Transport)

/-! ## Listings -/

namespace Listing

/-- The columns name a socket: a transport, and two ends that can be read. -/
def Columns.NamesSocket (c : Columns) : Prop :=
  (∃ t, transport? c.protocol = some t) ∧ (∃ a, parseEnd c.localEnd = .ok a) ∧
    ∃ a, parseEnd c.peerEnd = .ok a

/-- No number of the process column has too many digits. -/
def Columns.NumbersFit (c : Columns) : Prop :=
  ∀ digits ∈ pidNumerals c.users, digits.length ≤ Text.digitLimit

theorem mem_pidNumerals {s digits : List Char} (h : digits ∈ pidNumerals s) :
    digits ≠ [] ∧ ∀ c ∈ digits, Text.isDecimalDigit c := by
  induction s using mark_induction with
  | nil => simp [pidNumerals] at h
  | mark run rest hrun hstop ih =>
      rw [pidNumerals_mark hrun hstop] at h
      split at h
      · exact ih h
      · rename_i hne
        rcases List.mem_cons.1 h with rfl | h
        · exact ⟨hne, hrun⟩
        · exact ih h
  | other c rest hnot ih =>
      rw [pidNumerals_other hnot] at h
      exact ih h

/-- Numbers are read exactly when they have no more digits than are converted. -/
theorem parsePids_isOk_iff {users : List Char} : (∃ pids, parsePids users = .ok pids) ↔
    ∀ digits ∈ pidNumerals users, digits.length ≤ Text.digitLimit := by
  have hread : ∀ digits ∈ pidNumerals users,
      (∃ n, (Text.parseMagnitude digits).mapError (Error.badNumeral (String.ofList digits)) =
        .ok n) ↔ digits.length ≤ Text.digitLimit := by
    intro digits hd
    obtain ⟨hne, hdigits⟩ := mem_pidNumerals hd
    rw [Text.parseMagnitude_decimal hdigits hne]
    split
    · exact iff_of_false (by rintro ⟨n, ⟨⟩⟩) (by omega)
    · exact iff_of_true ⟨_, rfl⟩ (by omega)
  constructor
  · rintro ⟨pids, h⟩ digits hd
    obtain ⟨ns, hns, -⟩ := exists_of_bind_ok h
    obtain ⟨n, -, hn⟩ := mem_of_mapM_ok hns hd
    exact (hread digits hd).1 ⟨n, hn⟩
  · intro h
    obtain ⟨ns, hns⟩ := exists_mapM_ok fun digits hd => (hread digits hd).2 (h digits hd)
    exact ⟨_, by rw [parsePids, hns]; rfl⟩

theorem unconverted_parsePids (users : List Char) : Unconverted (parsePids users) :=
  (Unconverted.mapM (fun digits => .mapError (by rintro e f ⟨⟩) _) _).bind fun _ => .ok _

/-- What a line gives, by what its columns name. -/
theorem parseLine_cases (line : List Char) :
    (parseLine line = .ok none ∧ ∀ c, columns? line = some c → ¬ c.NamesSocket) ∨
    ∃ c, ∃ make : List Int → Socket, columns? line = some c ∧ c.NamesSocket ∧
      parseLine line = (parsePids c.users).map fun pids => some (make pids) := by
  rw [parseLine]
  cases hc : columns? line with
  | none => exact .inl ⟨rfl, by rintro c ⟨⟩⟩
  | some c =>
      simp only
      cases ht : transport? c.protocol with
      | none => exact .inl ⟨rfl, by rintro _ ⟨⟩ ⟨⟨t, h⟩, -⟩; cases ht.symm.trans h⟩
      | some t =>
          cases hl : parseEnd c.localEnd with
          | error e =>
              refine .inl ⟨by cases t <;> rfl, ?_⟩
              rintro _ ⟨⟩ ⟨-, ⟨a, h⟩, -⟩
              cases hl.symm.trans h
          | ok a =>
              cases hr : parseEnd c.peerEnd with
              | error e =>
                  refine .inl ⟨by cases t <;> rfl, ?_⟩
                  rintro _ ⟨⟩ ⟨-, -, b, h⟩
                  cases hr.symm.trans h
              | ok b =>
                  have hnames : c.NamesSocket := ⟨⟨t, ht⟩, ⟨a, hl⟩, b, hr⟩
                  cases t with
                  | udp =>
                      refine .inr ⟨c, fun pids => ⟨.udp, a.1, some a.2, none, none, none, pids⟩,
                        rfl, hnames, ?_⟩
                      cases parsePids c.users <;> rfl
                  | tcp =>
                      refine .inr ⟨c, fun pids => ⟨.tcp, a.1, some a.2, some b.1, some b.2,
                        some (parseState c.state), pids⟩, rfl, hnames, ?_⟩
                      cases parsePids c.users <;> rfl

/-- A line is read unless it names a socket with a number of too many digits. -/
theorem parseLine_isOk_iff {line : List Char} : (∃ s, parseLine line = .ok s) ↔
    ∀ c, columns? line = some c → c.NamesSocket → c.NumbersFit := by
  rcases parseLine_cases line with ⟨hnone, hnot⟩ | ⟨c, make, hc, hnames, hline⟩
  · exact iff_of_true ⟨none, hnone⟩ fun c hc hn => absurd hn (hnot c hc)
  · have hpids := @parsePids_isOk_iff c.users
    rw [hline]
    constructor
    · rintro ⟨s, hs⟩ c' hc' -
      cases hc.symm.trans hc'
      cases hp : parsePids c.users with
      | error e =>
          rw [hp] at hs
          cases hs
      | ok pids => exact hpids.1 ⟨pids, hp⟩
    · intro h
      obtain ⟨pids, hp⟩ := hpids.2 (h c hc hnames)
      exact ⟨_, by rw [hp]; rfl⟩

theorem unconverted_parseLine (line : List Char) : Unconverted (parseLine line) := by
  rcases parseLine_cases line with ⟨hnone, -⟩ | ⟨c, make, -, -, hline⟩
  · rw [hnone]
    exact .ok none
  · rw [hline]
    exact (unconverted_parsePids c.users).map _

/-- The faults that running a command may end in. -/
def Answers (host : Host) : Prop :=
  ∀ e, host.listing = .error e → e.IsFault fun c => c.isSystemFault || c == .commandTimeout

/-- A listing that ended well names no socket with a number of too many digits. -/
def Legible (host : Host) : Prop :=
  ∀ result, host.listing = .ok result → result.status = 0 →
    ∀ line ∈ Text.splitLines result.output.toList, isSkipped line = false →
      ∀ c, columns? line = some c → c.NamesSocket → c.NumbersFit

theorem settled_runFailure (limit : Option Seconds) {e : Error}
    (he : e.IsFault fun c => c.isSystemFault || c == .commandTimeout) :
    ∃ f, runFailure limit e = .enumeration f := by
  obtain ⟨c, text, rfl, hc⟩ := he
  cases c <;> first | exact ⟨_, rfl⟩ | cases hc

theorem settled_select_iff (result : CommandResult) :
    Settled (select families transports result) ↔
      (result.status = 0 → ∀ line ∈ Text.splitLines result.output.toList, isSkipped line = false →
        ∀ c, columns? line = some c → c.NamesSocket → c.NumbersFit) := by
  rw [select]
  split
  · rename_i hstatus
    exact iff_of_true (settled_enumeration _) fun h => absurd h hstatus
  · rename_i hstatus
    have hparse : Settled (parseOutput result.output.toList) ↔
        ∀ line ∈ (Text.splitLines result.output.toList).filter (!isSkipped ·),
          ∃ s, parseLine line = .ok s := by
      rw [← settled_mapM_iff unconverted_parseLine, parseOutput]
      exact settled_map _
    have hmap : Settled (do
        let sockets ← parseOutput result.output.toList
        return sockets.filter fun s =>
          transports.contains s.transport && families.contains s.localAddress.family) ↔
        Settled (parseOutput result.output.toList) := settled_map _
    rw [hmap, hparse]
    simp only [List.mem_filter, Bool.not_eq_true', and_imp, parseLine_isOk_iff]
    exact ⟨fun h _ => h, fun h => h (by simpa using hstatus)⟩

theorem settled_collect_iff (limit : Option Seconds) (ha : Answers m.host) :
    Settled ((collect limit families transports).run.run m).1 ↔ Legible m.host := by
  rw [collect, Session.run_bind_ok (Session.run_call _), Session.run_bind_ok Session.run_host]
  simp only [Legible]
  cases hl : m.host.listing with
  | ok result =>
      simp only [Session.run_lift]
      rw [settled_select_iff]
      constructor
      · rintro h _ ⟨⟩
        exact h
      · exact fun h => h result rfl
  | error e =>
      obtain ⟨f, hf⟩ := settled_runFailure limit (ha e hl)
      refine iff_of_true ?_ (by rintro result ⟨⟩)
      simp only [hf]
      exact settled_enumeration f

end Listing

/-! ## Connections -/

namespace Connections

/-- The end is absent, or has an address and a port that can be read. -/
def EndLegible : Option (String × PortValue) → Prop
  | none => True
  | some (host, port) =>
    (∃ a, Listing.parseHost host.toList = .ok a) ∧ ∃ n, PortValue.integer port = .ok n

/-- The ends that count for a transport can be read. -/
def ConnectionLegible (t : Transport) (c : Connection) : Prop :=
  EndLegible c.localEnd ∧ (t = .tcp → EndLegible c.remoteEnd)

theorem unconverted_parseHost (s : List Char) : Unconverted (Listing.parseHost s) := by
  rw [Listing.parseHost]
  split
  · exact .ok _
  · split
    · exact .ok _
    · exact .error (by rintro f ⟨⟩)

theorem unconverted_integer (p : PortValue) : Unconverted (PortValue.integer p) := by
  cases p with
  | number n => exact .ok n
  | text s => exact .mapError (by rintro e f ⟨⟩) _

theorem parseEnd_isOk_iff {f : Family} {e : Option (String × PortValue)} :
    (∃ x, parseEnd f e = .ok x) ↔ EndLegible e := by
  rcases e with _ | ⟨host, port⟩
  · exact iff_of_true ⟨_, rfl⟩ trivial
  · constructor
    · rintro ⟨x, h⟩
      obtain ⟨a, ha, h⟩ := exists_of_bind_ok h
      obtain ⟨n, hn, -⟩ := exists_of_bind_ok h
      exact ⟨⟨a, ha⟩, n, hn⟩
    · rintro ⟨⟨a, ha⟩, n, hn⟩
      exact ⟨(a, n), by rw [parseEnd, ha]; simp only [bind, Except.bind, hn]; rfl⟩

theorem unconverted_parseEnd (f : Family) (x : Option (String × PortValue)) :
    Unconverted (parseEnd f x) := by
  rcases x with _ | ⟨host, port⟩
  · exact .ok _
  · exact (unconverted_parseHost _).bind fun a => (unconverted_integer port).bind fun n => .ok _

theorem toSocket_isOk_iff {t : Transport} {c : Connection} :
    (∃ s, toSocket t c = .ok s) ↔ ConnectionLegible t c := by
  rw [ConnectionLegible, ← @parseEnd_isOk_iff c.family c.localEnd,
    ← @parseEnd_isOk_iff c.family c.remoteEnd]
  constructor
  · rintro ⟨s, h⟩
    obtain ⟨l, hl, h⟩ := exists_of_bind_ok h
    refine ⟨⟨l, hl⟩, ?_⟩
    rintro rfl
    obtain ⟨r, hr, -⟩ := exists_of_bind_ok h
    exact ⟨r, hr⟩
  · rintro ⟨⟨l, hl⟩, hr⟩
    cases t with
    | udp => exact ⟨_, by rw [toSocket, hl]; rfl⟩
    | tcp =>
        obtain ⟨r, hr⟩ := hr rfl
        exact ⟨_, by rw [toSocket, hl]; simp only [bind, Except.bind, hr]; rfl⟩

theorem unconverted_toSocket (t : Transport) (c : Connection) : Unconverted (toSocket t c) := by
  refine (unconverted_parseEnd _ _).bind fun l => ?_
  cases t with
  | udp => exact .ok _
  | tcp => exact (unconverted_parseEnd _ _).bind fun r => .ok _

/-- The faults that listing connections may end in. -/
def Answers (host : Host) : Prop :=
  ∀ k ∈ Kind.select transports families, ∀ e, host.connections k = .error e →
    e.IsFault fun c => c.isProcessFault || c.isSystemFault

/-- Of the kinds that are come to, every connection can be read. -/
def Legible (m : Machine) : Prop :=
  ∀ k m', Reaches collectKind (Kind.select transports families) m k m' →
    ∀ connections, m.host.connections k = .ok connections →
      ∀ c ∈ connections, ConnectionLegible k.transport c

theorem settled_listFailure (k : Kind) {e : Error}
    (he : e.IsFault fun c => c.isProcessFault || c.isSystemFault) :
    ∃ f, listFailure k e = .enumeration f := by
  obtain ⟨c, text, rfl, hc⟩ := he
  cases c <;> first | exact ⟨_, rfl⟩ | cases hc

theorem host_run_collectKind (k : Kind) : ((collectKind k).run.run m).2.host = m.host := by
  rw [collectKind, Session.run_bind_ok (Session.run_call _),
    Session.run_bind_ok Session.run_host]
  cases m.host.connections k with
  | ok connections =>
      simp only
      rw [Session.run_lift]
  | error e => rfl

theorem host_of_reaches {kinds : List Kind} {k : Kind} {m' : Machine}
    (h : Reaches collectKind kinds m k m') : m'.host = m.host := by
  induction kinds generalizing m with
  | nil =>
      obtain ⟨before, after, -, hnil, -⟩ := h
      cases before <;> cases hnil
  | cons k' kinds ih =>
      rcases reaches_cons.1 h with ⟨rfl, rfl⟩ | ⟨b, m₁, hrun, h⟩
      · rfl
      · have hhost := @host_run_collectKind m k'
        rw [hrun] at hhost
        exact (ih h).trans hhost

theorem settled_collectKind_iff {k : Kind} (ha : ∀ e, m.host.connections k = .error e →
    e.IsFault fun c => c.isProcessFault || c.isSystemFault) :
    Settled ((collectKind k).run.run m).1 ↔ ∀ connections, m.host.connections k = .ok connections →
      ∀ c ∈ connections, ConnectionLegible k.transport c := by
  rw [collectKind, Session.run_bind_ok (Session.run_call _),
    Session.run_bind_ok Session.run_host]
  simp only
  cases hk : m.host.connections k with
  | ok connections =>
      simp only [Session.run_lift]
      rw [settled_mapM_iff (unconverted_toSocket k.transport)]
      simp only [toSocket_isOk_iff]
      constructor
      · rintro h _ ⟨⟩
        exact h
      · exact fun h => h connections rfl
  | error e =>
      obtain ⟨f, hf⟩ := settled_listFailure k (ha e hk)
      refine iff_of_true ?_ (by rintro connections ⟨⟩)
      simp only [hf]
      exact settled_enumeration f

theorem settled_collect_iff (ha : Answers families transports m.host) :
    Settled ((collect families transports).run.run m).1 ↔ Legible families transports m := by
  rw [collect, settled_run_bind_pure, settled_run_mapM]
  refine forall_congr' fun k => forall_congr' fun m' => forall_congr' fun hk => ?_
  have hhost := host_of_reaches hk
  have hmem : k ∈ Kind.select transports families := by
    obtain ⟨before, after, -, hkinds, -⟩ := hk
    rw [hkinds]
    simp
  rw [settled_collectKind_iff (hhost ▸ ha k hmem), hhost]

end Connections

/-! ## Owner tables -/

namespace OwnerTable

/-- The buffer holds its count and as many rows as it counts. -/
def Buffer.Holds (b : Buffer) (k : Kind) : Prop :=
  countSize ≤ b.size ∧ countSize + (wordAt b.octets 0).toNat * rowSize k ≤ b.size

theorem rows_isOk_iff {k : Kind} {b : Buffer} :
    (∃ found, rows (rowSize k) b = .ok found) ↔ b.Holds k := by
  rw [rows, Buffer.Holds]
  split
  · exact iff_of_false (by rintro ⟨found, ⟨⟩⟩) (by omega)
  · simp only
    split
    · exact iff_of_false (by rintro ⟨found, ⟨⟩⟩) (by omega)
    · exact iff_of_true ⟨_, rfl⟩ (by omega)

theorem unconverted_rows (size : Nat) (b : Buffer) : Unconverted (rows size b) := by
  rw [rows]
  split
  · exact .error (by rintro f ⟨⟩)
  · simp only
    split
    · exact .error (by rintro f ⟨⟩)
    · exact .ok _

theorem settled_decode_iff {k : Kind} {outcome : Outcome} (ho : outcome ≠ .endless) :
    Settled (decode k outcome) ↔ ∀ b, outcome = .filled b → b.Holds k := by
  cases outcome with
  | endless => exact absurd rfl ho
  | failed code => exact iff_of_true (settled_enumeration _) (by rintro b ⟨⟩)
  | filled b =>
      have hdecode : Settled (decode k (.filled b)) ↔ Settled (rows (rowSize k) b) :=
        settled_map _
      rw [hdecode, settled_iff_isOk (unconverted_rows _ b), rows_isOk_iff]
      constructor
      · rintro h _ ⟨⟩
        exact h
      · exact fun h => h b rfl

/-- The machine in which the tables are read, the library being loaded. -/
def loaded (m : Machine) : Machine := m.noting [.call (.load libraryName)]

/-- Loading may end in a fault of the system, and the reads that are come to end. -/
def Answers (m : Machine) : Prop :=
  (∀ e, m.host.library = .error e → e.IsFault FaultClass.isSystemFault) ∧
    ∀ k m', Reaches collectKind (Kind.select transports families) (loaded m) k m' →
      (read (m'.host.tables k)).outcome ≠ .endless

/-- Of the tables that are come to, every one that is read holds its rows. -/
def Legible (m : Machine) : Prop :=
  m.host.platform = "Windows" → m.host.library = .ok () →
    ∀ k m', Reaches collectKind (Kind.select transports families) (loaded m) k m' →
      ∀ b, (read (m'.host.tables k)).outcome = .filled b → b.Holds k

theorem settled_loadFailure {e : Error} (he : e.IsFault FaultClass.isSystemFault) :
    ∃ f, loadFailure e = .enumeration f := by
  obtain ⟨c, text, rfl, hc⟩ := he
  exact ⟨_, by rw [loadFailure, if_pos hc]⟩

theorem settled_collect_iff (ha : Answers families transports m) :
    Settled ((collect families transports).run.run m).1 ↔ Legible families transports m := by
  rw [collect, Session.run_bind_ok Session.run_host, Legible]
  by_cases hp : m.host.platform = "Windows"
  · rw [if_neg (not_not.2 hp)]
    beta_reduce
    rw [Session.run_bind_ok (Session.run_call _)]
    cases hl : m.host.library with
    | error e =>
        obtain ⟨f, hf⟩ := settled_loadFailure (ha.1 e hl)
        refine iff_of_true ?_ (by rintro - ⟨⟩)
        simp only [hf]
        exact settled_enumeration f
    | ok u =>
        simp only
        rw [settled_run_bind_pure, settled_run_mapM]
        simp only [hp, forall_const]
        refine forall_congr' fun k => forall_congr' fun m' => forall_congr' fun hk => ?_
        rw [run_collectKind_eq, settled_decode_iff (ha.2 k m' hk)]
  · rw [if_pos hp]
    exact iff_of_true (settled_enumeration _) fun h => absurd h hp

end OwnerTable

/-! ## Backends -/

namespace Backend

/-- The answers that the interface of a backend is documented to give. -/
def Answers (m : Machine) : Backend → Prop
  | .listing => Listing.Answers m.host
  | .connections => Connections.Answers families transports m.host
  | .ownerTable => OwnerTable.Answers families transports m

/-- What the backend comes to can be read. -/
def Legible (m : Machine) : Backend → Prop
  | .listing => Listing.Legible m.host
  | .connections => Connections.Legible families transports m
  | .ownerTable => OwnerTable.Legible families transports m

theorem settled_collect_iff (b : Backend) (limit : Option Seconds)
    (ha : b.Answers families transports m) :
    Settled ((b.collect limit families transports).run.run m).1 ↔
      b.Legible families transports m := by
  cases b with
  | listing => exact Listing.settled_collect_iff families transports limit ha
  | connections => exact Connections.settled_collect_iff families transports ha
  | ownerTable => exact OwnerTable.settled_collect_iff families transports ha

end Backend

end SocketInventory
