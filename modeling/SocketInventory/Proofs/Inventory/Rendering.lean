import SocketInventory.Proofs.Source.Connections
import SocketInventory.Proofs.Source.Reading

/-!
# Renderings of a table of sockets

A table of sockets that every backend can tell: ends with ports, one of the states that all of them
have a name for, and one owner or none. Each backend has a rendering of such a table, a listing,
lists of connections or owner tables.
-/

namespace SocketInventory

/-! ## Common sockets -/

/-- The states that every backend has a name for. -/
def commonStates : List TcpState :=
  [.closed, .listen, .synSent, .synReceived, .established, .finWait1, .finWait2, .closeWait,
    .closing, .lastAck, .timeWait]

inductive Owned : List Int → Prop
  | none : Owned []
  | one {pid : Nat} (h : 1 ≤ pid) : Owned [(pid : Int)]

/-- The sockets that every backend can tell. -/
inductive Common : Socket → Prop
  | tcp {a b : Address} {n k : Nat} {st : TcpState} {pids : List Int} (ha : a.zone? = none)
      (hb : b.zone? = none) (hf : a.family = b.family) (hn : n ≤ 65535) (hk : k ≤ 65535)
      (hs : st ∈ commonStates) (ho : Owned pids) :
      Common ⟨.tcp, a, some n, some b, some k, some (.known st), pids⟩
  | udp {a : Address} {n : Nat} {pids : List Int} (ha : a.zone? = none) (hn : n ≤ 65535)
      (ho : Owned pids) : Common ⟨.udp, a, some n, none, none, none, pids⟩

/-- What a backend is told of a table of sockets. -/
def Tells (sockets : List Socket) : Backend → Host → Prop
  | .connections, host => Connections.Listed sockets host
  | .listing, host => ∃ lines errors, Listing.Lists sockets lines ∧
      host.listing = .ok ⟨0, Listing.outputText lines, errors⟩
  | .ownerTable, host => host.platform = "Windows" ∧ host.library = .ok () ∧
      ∃ hist : (k : Kind) → OwnerTable.History k,
        (∀ k, host.tables k = (hist k).answers) ∧ OwnerTable.Keeps sockets hist

variable {s : Socket} {sockets : List Socket}

/-! ## Listings -/

namespace Listing

/-- A text that makes a column. -/
def IsWord (w : List Char) : Prop := w ≠ [] ∧ ∀ c ∈ w, Text.isBlank c = false

theorem exists_front {p st l r : List Char} (hp : IsWord p) (hs : IsWord st) (hl : IsWord l)
    (hr : IsWord r) : ∃ f : Front, f.protocol.word = p ∧ f.state.word = st ∧
      f.localEnd.word = l ∧ f.peerEnd.word = r := by
  let queue : Cell := .single ['0'] (by decide) (by decide)
  exact ⟨⟨[], by decide, by decide, .single p hp.1 hp.2, .single st hs.1 hs.2, queue, queue,
    .single l hl.1 hl.2, .single r hr.1 hr.2⟩, rfl, rfl, rfl, rfl⟩

theorem exists_printsHost {a : Address} (ha : a.zone? = none) :
    ∃ host, PrintsHost a host ∧ ∀ c ∈ host, Text.isBlank c = false := by
  have hchars := (Address.addressText_chars ha).nonblank
  cases a with
  | v4 a b c d => exact ⟨_, .v4 a b c d, hchars⟩
  | v6 groups zone =>
      cases ha
      exact ⟨_, .v6 groups, Listing.nonblank_brackets hchars⟩

theorem exists_printsEnd {a : Address} {n : Nat} (ha : a.zone? = none) (hn : n ≤ 65535) :
    ∃ word, PrintsEnd a n word ∧ IsWord word := by
  obtain ⟨host, hhost, hblank⟩ := exists_printsHost ha
  refine ⟨_, .intro hhost .nil (.numeral hn), by simp, ?_⟩
  simp only [List.append_nil, List.mem_append, List.mem_cons]
  rintro c (hc | rfl | hc)
  · exact hblank c hc
  · decide
  · exact Text.not_isBlank_isDigit (Text.isDigit_decimalChars c hc)

theorem exists_stateWord : ∀ st ∈ commonStates, ∃ e ∈ stateWords, e.2 = st := by
  decide

theorem isWord_stateWords : ∀ e ∈ stateWords, IsWord e.1.toList := by
  unfold IsWord
  decide +kernel

/-- A common socket without its owners has its columns. -/
theorem exists_printsFront (h : Common s) :
    ∃ make f, PrintsFront make f ∧ make s.pids = s ∧ Owned s.pids := by
  cases h with
  | tcp ha hb _ hn hk hs ho =>
      obtain ⟨l, hl, hlword⟩ := exists_printsEnd ha hn
      obtain ⟨r, hr, hrword⟩ := exists_printsEnd hb hk
      obtain ⟨⟨w, st⟩, hw, rfl⟩ := exists_stateWord _ hs
      have hprotocol : IsWord ['t', 'c', 'p'] := ⟨by decide, by decide⟩
      obtain ⟨f, hfp, hfs, hfl, hfr⟩ :=
        exists_front hprotocol (isWord_stateWords _ hw) hlword hrword
      exact ⟨_, f, .tcp hfp (hfs ▸ .listed hw) (hfl ▸ hl) (hfr ▸ hr), rfl, ho⟩
  | udp ha hn ho =>
      obtain ⟨l, hl, hlword⟩ := exists_printsEnd ha hn
      have hprotocol : IsWord ['u', 'd', 'p'] := ⟨by decide, by decide⟩
      have hstate : IsWord "UNCONN".toList := ⟨by decide, by decide⟩
      obtain ⟨f, hfp, -, hfl, hfr⟩ := exists_front hprotocol hstate hlword hlword
      exact ⟨_, f, .udp hfp (hfl ▸ hl) (hfr ▸ hl), rfl, ho⟩

/-- An owner of a bounded number has an entry in the process column. -/
theorem exists_entry {pid : Nat} (h : pid < 2 ^ 32) :
    ∃ e : Entry, e.name = [] ∧ e.pid.value = pid := by
  have hfits : (Text.decimalChars pid).length ≤ Text.digitLimit :=
    (Nat.length_toDigits_le_iff (by decide) (by decide)).2
      (Nat.lt_of_lt_of_le h ((by decide : 2 ^ 32 ≤ 10 ^ 10).trans
        (Nat.pow_le_pow_right (by decide) (by decide))))
  have hvalue : (Nat.ofDigitChars 10 (Text.decimalChars pid) 0 : Int) = pid := by
    rw [Text.decimalChars, Nat.ofDigitChars_ten_toDigits]
  exact ⟨⟨[], ⟨Text.decimalChars pid, Text.isDigit_decimalChars, Text.decimalChars_ne_nil⟩, hfits,
    ⟨['3'], by decide, by decide⟩⟩, rfl, hvalue⟩

theorem exists_prints (h : Common s) (hp : ∀ pid ∈ s.pids, pid < 2 ^ 32) :
    ∃ line, Prints s line := by
  obtain ⟨make, f, hf, hmake, ho⟩ := exists_printsFront h
  generalize s.pids = pids at hp hmake ho
  subst hmake
  cases ho with
  | none => exact ⟨f.bare [], .bare hf (by simp) (by decide)⟩
  | @one pid hpid =>
      have hlt : pid < 2 ^ 32 := Int.ofNat_lt.1 (hp pid (by simp))
      obtain ⟨e, hname, hvalue⟩ := exists_entry hlt
      have hentry : ∀ x ∈ [e], Unmarked x.name ∧ Text.InLine x.name := by
        rintro x hx
        rw [List.mem_singleton.1 hx, hname]
        exact ⟨unmarked_of_notMem (by decide), by decide⟩
      have hpids : ([e].map fun x => x.pid.value).eraseDups = [(pid : Int)] := by
        rw [List.map_singleton, hvalue]
        rfl
      have hprints := Prints.held hf (fun x hx => (hentry x hx).1) fun x hx => (hentry x hx).2
      exact ⟨_, hpids ▸ hprints⟩

theorem exists_lists (h : ∀ s ∈ sockets, ∃ line, Prints s line) :
    ∃ lines, Lists sockets lines := by
  induction sockets with
  | nil => exact ⟨[], .nil⟩
  | cons s sockets ih =>
      obtain ⟨line, hline⟩ := h s (by simp)
      obtain ⟨lines, hlines⟩ := ih fun x hx => h x (by simp [hx])
      exact ⟨_, .socket hline hlines⟩

end Listing

/-! ## Connections -/

namespace Connections

theorem exists_statusWord : ∀ st ∈ commonStates, ∃ e ∈ statusWords, e.2 = st := by
  decide

theorem exists_showsOwners {pids : List Int} (h : Owned pids) : ∃ pid, ShowsOwners pids pid := by
  cases h with
  | none => exact ⟨none, .absent⟩
  | one h => exact ⟨_, .one (by omega)⟩

theorem exists_shows (h : Common s) : ∃ c, Shows s c := by
  cases h with
  | tcp ha hb _ _ _ hs ho =>
      obtain ⟨⟨w, st⟩, hw, rfl⟩ := exists_statusWord _ hs
      obtain ⟨pid, hpid⟩ := exists_showsOwners ho
      exact ⟨⟨.inet4, _, _, w, pid⟩, .tcp (.present ha .nil) (.present hb .nil) hw hpid⟩
  | udp ha _ ho =>
      obtain ⟨pid, hpid⟩ := exists_showsOwners ho
      exact ⟨⟨.inet4, _, none, "NONE", pid⟩, .udp (.present ha .nil) hpid⟩

theorem exists_forall₂ (h : ∀ s ∈ sockets, ∃ c, Shows s c) :
    ∃ connections, List.Forall₂ Shows sockets connections := by
  induction sockets with
  | nil => exact ⟨[], .nil⟩
  | cons s sockets ih =>
      obtain ⟨c, hc⟩ := h s (by simp)
      obtain ⟨connections, hrest⟩ := ih fun x hx => h x (by simp [hx])
      exact ⟨_, .cons hc hrest⟩

end Connections

/-! ## Owner tables -/

namespace OwnerTable

theorem exists_place {a : Address} {f : Family} (ha : a.zone? = none) (hf : a.family = f) :
    ∃ p : Place f, p.address = a := by
  subst hf
  cases a with
  | v4 a b c d => exact ⟨.v4 a b c d, rfl⟩
  | v6 groups zone =>
      cases ha
      exact ⟨.v6 groups 0, rfl⟩

theorem exists_rowEnd {a : Address} {f : Family} {n : Nat} (ha : a.zone? = none)
    (hf : a.family = f) (hn : n ≤ 65535) :
    ∃ e : RowEnd f, e.place.address = a ∧ e.port.toNat = n := by
  obtain ⟨p, hp⟩ := exists_place ha hf
  refine ⟨⟨p, .ofNat n, 0, 0⟩, hp, ?_⟩
  rw [UInt16.toNat_ofNat', Nat.mod_eq_of_lt (by omega)]

theorem exists_stateNumber : ∀ st ∈ commonStates,
    ∃ e ∈ stateNumbers, rowState (.ofNat e.1) = .known st := by
  decide

theorem exists_owner {pids : List Int} (h : Owned pids) (hp : ∀ pid ∈ pids, pid < 2 ^ 32) :
    ∃ w : UInt32, (if w = 0 then [] else [(w.toNat : Int)]) = pids := by
  cases h with
  | none => exact ⟨0, rfl⟩
  | @one pid hpid =>
      have hlt : pid < 2 ^ 32 := Int.ofNat_lt.1 (hp pid (by simp))
      have hvalue : (UInt32.ofNat pid).toNat = pid := by
        rw [UInt32.toNat_ofNat', Nat.mod_eq_of_lt hlt]
      refine ⟨.ofNat pid, ?_⟩
      rw [if_neg, hvalue]
      intro hzero
      rw [hzero] at hvalue
      change 0 = pid at hvalue
      omega

theorem exists_row (h : Common s) (hp : ∀ pid ∈ s.pids, pid < 2 ^ 32) :
    ∃ r : Row s.kind, r.socket = s := by
  cases h with
  | tcp ha hb hf hn hk hs ho =>
      obtain ⟨l, hl, hport⟩ := exists_rowEnd ha rfl hn
      obtain ⟨r, hr, hpeer⟩ := exists_rowEnd hb hf.symm hk
      obtain ⟨e, -, he⟩ := exists_stateNumber _ hs
      obtain ⟨w, hw⟩ := exists_owner ho hp
      refine ⟨.tcp l r (.ofNat e.1) w, ?_⟩
      simp only [Row.socket, hl, hport, hr, hpeer, he, hw]
  | udp ha hn ho =>
      obtain ⟨l, hl, hport⟩ := exists_rowEnd ha rfl hn
      obtain ⟨w, hw⟩ := exists_owner ho hp
      refine ⟨.udp l w, ?_⟩
      simp only [Row.socket, hl, hport, hw]

/-- The tables of some sockets have room, and their owners have numbers of 32 bits. -/
structure Fits (sockets : List Socket) : Prop where
  size : countSize + sockets.length * rowSize ⟨.tcp, .inet6⟩ < 2 ^ 32
  pids : ∀ s ∈ sockets, ∀ pid ∈ s.pids, pid < 2 ^ 32

theorem exists_table (h : ∀ s ∈ sockets, Common s) (hfits : Fits sockets) (k : Kind) :
    ∃ t : Table k, t.sockets = k.among sockets := by
  have hrows : k.among sockets ∈ Set.range (List.map (Row.socket : Row k → Socket)) := by
    rw [Set.range_list_map]
    intro s hs
    obtain ⟨hmem, hkind⟩ := List.mem_filter.1 hs
    obtain rfl : s.kind = k := of_decide_eq_true hkind
    exact exists_row (h s hmem) (hfits.pids s hmem)
  obtain ⟨rows, hrows⟩ := hrows
  have hlength : rows.length ≤ sockets.length := by
    rw [← List.length_map Row.socket, hrows]
    exact List.length_filter_le _ _
  have hrow : rowSize k ≤ rowSize ⟨.tcp, .inet6⟩ := by
    obtain ⟨transport, family⟩ := k
    cases transport <;> cases family <;> decide
  refine ⟨⟨rows, [], ?_⟩, hrows⟩
  rw [List.length_nil, Nat.add_zero]
  exact Nat.lt_of_le_of_lt (Nat.add_le_add_left (Nat.mul_le_mul hlength hrow) _) hfits.size

end OwnerTable

/-- Every table of common sockets can be told to all backends, beside any process table. -/
theorem exists_tells (h : ∀ s ∈ sockets, Common s) (hfits : OwnerTable.Fits sockets)
    (processes : Except Error (Feed ProcessEntry)) :
    ∃ host : Host, (∀ b, Tells sockets b host) ∧ host.processes = processes := by
  obtain ⟨lines, hlines⟩ := Listing.exists_lists fun s hs =>
    Listing.exists_prints (h s hs) (hfits.pids s hs)
  have hconnections : ∀ k : Kind, ∃ connections,
      List.Forall₂ Connections.Shows (k.among sockets) connections := fun k =>
    Connections.exists_forall₂ fun s hs => Connections.exists_shows (h s (List.mem_of_mem_filter hs))
  choose connections hshows using hconnections
  choose table htable using OwnerTable.exists_table h hfits
  let hist : (k : Kind) → OwnerTable.History k := fun k => ⟨[], table k⟩
  let host : Host := { Host.idle "Windows" with
    listing := .ok ⟨0, Listing.outputText lines, ""⟩
    connections := fun k => .ok (connections k)
    processes := processes
    tables := fun k => (hist k).answers }
  refine ⟨host, ?_, rfl⟩
  intro b
  cases b with
  | connections => exact fun k => ⟨_, rfl, hshows k⟩
  | listing => exact ⟨lines, "", hlines, rfl⟩
  | ownerTable => exact ⟨rfl, rfl, hist, fun _ => rfl, fun k _ => htable k⟩

end SocketInventory
