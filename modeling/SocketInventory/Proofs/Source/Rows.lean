import SocketInventory.Proofs.Source.Octets

/-!
# Rows of owner tables

What an owner table holds, apart from its octets: rows with two ends or one, words for the state and
the owner, and octets that nothing uses. The octets of a table, in any buffer that is large enough,
are read back as the sockets of its rows.
-/

namespace SocketInventory.OwnerTable

/-! ## Rows -/

/-- An address in a row; an IPv6 address has a scope behind it. -/
inductive Place : Family → Type
  | v4 (a b c d : UInt8) : Place .inet4
  | v6 (groups : Groups) (scope : UInt32) : Place .inet6

def Place.address {f : Family} : Place f → Address
  | .v4 a b c d => .v4 a b c d
  | .v6 groups _ => .v6 groups none

def Place.octets {f : Family} : Place f → List UInt8
  | .v4 a b c d => [a, b, c, d]
  | .v6 groups scope => groupOctets groups ++ wordOctets scope

/-- An end of a socket in a row: two octets behind the port are not used. -/
structure RowEnd (f : Family) where
  place : Place f
  port : UInt16
  unused : UInt8 × UInt8

def RowEnd.portOctets {f : Family} (e : RowEnd f) : List UInt8 :=
  networkOctets e.port ++ [e.unused.1, e.unused.2]

@[simp] theorem RowEnd.length_portOctets {f : Family} (e : RowEnd f) : e.portOctets.length = 4 := by
  simp [RowEnd.portOctets]

def RowEnd.octets {f : Family} (e : RowEnd f) : List UInt8 := e.place.octets ++ e.portOctets

inductive Row : Kind → Type
  | tcp {f : Family} (localEnd remoteEnd : RowEnd f) (state pid : UInt32) : Row ⟨.tcp, f⟩
  | udp {f : Family} (localEnd : RowEnd f) (pid : UInt32) : Row ⟨.udp, f⟩

/-- The state stands first in a row of TCP over IPv4, and behind both ends over IPv6. -/
def Row.octets : {k : Kind} → Row k → List UInt8
  | ⟨.tcp, .inet4⟩, .tcp l r state pid =>
    wordOctets state ++ (l.octets ++ (r.octets ++ wordOctets pid))
  | ⟨.tcp, .inet6⟩, .tcp l r state pid =>
    l.octets ++ (r.octets ++ (wordOctets state ++ wordOctets pid))
  | ⟨.udp, _⟩, .udp l pid => l.octets ++ wordOctets pid

def stateNumbers : List (Nat × TcpState) :=
  [(1, .closed), (2, .listen), (3, .synSent), (4, .synReceived), (5, .established),
    (6, .finWait1), (7, .finWait2), (8, .closeWait), (9, .closing), (10, .lastAck),
    (11, .timeWait), (12, .deleteTcb)]

/-- A number that stands for no state is kept. -/
def rowState (state : UInt32) : SocketState :=
  match stateNumbers.lookup state.toNat with
  | some s => .known s
  | none => .number state.toNat

/-- The socket of a row: only TCP has a remote end and a state, and owner zero is no owner. -/
def Row.socket {k : Kind} : Row k → Socket
  | .tcp l r state pid =>
    ⟨.tcp, l.place.address, some l.port.toNat, some r.place.address, some r.port.toNat,
      some (rowState state), if pid = 0 then [] else [(pid.toNat : Int)]⟩
  | .udp l pid =>
    ⟨.udp, l.place.address, some l.port.toNat, none, none, none,
      if pid = 0 then [] else [(pid.toNat : Int)]⟩

theorem stateOf_eq_rowState (state : UInt32) : stateOf state = rowState state := by
  have hzero : state = 0 ↔ state.toNat = 0 := by
    rw [← UInt32.toNat_inj]
    rfl
  simp only [stateOf, rowState, hzero]
  generalize state.toNat = n
  by_cases hn : n ≤ 12
  · interval_cases n <;> rfl
  · have hindex : numberedStates[n - 1]? = none := by
      rw [List.getElem?_eq_none_iff]
      simp only [numberedStates, List.length_cons, List.length_nil]
      omega
    have hlookup : stateNumbers.lookup n = none := by
      rw [List.lookup_eq_none_iff]
      intro e he
      rw [bne_iff_ne]
      rintro rfl
      revert he hn e
      decide
    rw [if_neg (by omega), hindex, hlookup]

section Fields

variable {octets rest : List UInt8} {n : Nat}

/-- A field that stands behind other octets. -/
theorem wordAt_skip (h : octets.length ≤ n) :
    wordAt (octets ++ rest) n = wordAt rest (n - octets.length) := by
  rw [wordAt, List.drop_append, List.drop_eq_nil_of_le h, List.nil_append, wordAt]

theorem groupsAt_skip (h : octets.length ≤ n) :
    groupsAt (octets ++ rest) n = groupsAt rest (n - octets.length) := by
  rw [groupsAt, List.drop_append, List.drop_eq_nil_of_le h, List.nil_append, groupsAt]

theorem wordAt_zero (h : octets.length = 4) : wordAt (octets ++ rest) 0 = word octets := by
  rw [wordAt, List.drop_zero, ← h, List.take_left]

end Fields

@[simp] theorem wordAt_wordOctets (w : UInt32) (rest : List UInt8) :
    wordAt (wordOctets w ++ rest) 0 = w := by
  rw [wordAt_zero (length_wordOctets w), word_wordOctets]

@[simp] theorem wordAt_last (w : UInt32) : wordAt (wordOctets w) 0 = w := word_wordOctets w

@[simp] theorem Place.length_v4 (p : Place .inet4) : p.octets.length = 4 := by
  cases p
  rfl

@[simp] theorem Place.length_v6 (p : Place .inet6) : p.octets.length = 20 := by
  cases p
  simp [Place.octets]

@[simp] theorem Place.ofWord_wordAt (p : Place .inet4) (rest : List UInt8) :
    Address.ofWord (wordAt (p.octets ++ rest) 0) = p.address := by
  cases p with
  | v4 a b c d => exact ofWord_word a b c d

/-- The scope behind an address is not part of it. -/
@[simp] theorem Place.groupsAt_octets (p : Place .inet6) (rest : List UInt8) :
    groupsAt (p.octets ++ rest) 0 = p.address := by
  cases p with
  | v6 groups scope =>
      rw [groupsAt, List.drop_zero, Place.octets, List.append_assoc, ← length_groupOctets groups,
        List.take_left, ofOctets?_groupOctets]
      rfl

@[simp] theorem RowEnd.portOf_wordAt {f : Family} (e : RowEnd f) (rest : List UInt8) :
    portOf (wordAt (e.portOctets ++ rest) 0) = e.port.toNat := by
  rw [wordAt_zero e.length_portOctets, RowEnd.portOctets, portOf_word]

theorem length_octets {k : Kind} (r : Row k) : r.octets.length = rowSize k := by
  cases r with
  | @tcp f l r state pid => cases f <;> simp [Row.octets, RowEnd.octets, rowSize]
  | @udp f l pid => cases f <;> simp [Row.octets, RowEnd.octets, rowSize]

/-- Each field of a row stands where it is looked for. -/
theorem rowSocket_octets {k : Kind} (r : Row k) : rowSocket k r.octets = r.socket := by
  -- Every offset is counted down over the fields in front of it.
  cases r with
  | @tcp f l r state pid =>
      cases f <;>
        simp [rowSocket, Row.octets, RowEnd.octets, Row.socket, wordAt_skip, groupsAt_skip,
          stateOf_eq_rowState, ownersOf]
  | @udp f l pid =>
      cases f <;>
        simp [rowSocket, Row.octets, RowEnd.octets, Row.socket, wordAt_skip, ownersOf]

/-! ## Tables -/

/-- The rows of a table, and octets behind them that the count leaves out. -/
structure Table (k : Kind) where
  rows : List (Row k)
  trailing : List UInt8
  size_lt : countSize + rows.length * rowSize k + trailing.length < 2 ^ 32

namespace Table

variable {k : Kind}

def octets (t : Table k) : List UInt8 :=
  wordOctets (.ofNat t.rows.length) ++ (t.rows.flatMap Row.octets ++ t.trailing)

def size (t : Table k) : Nat := t.octets.length

def sockets (t : Table k) : List Socket := t.rows.map Row.socket

theorem size_eq (t : Table k) :
    t.size = countSize + t.rows.length * rowSize k + t.trailing.length := by
  simp [size, octets, List.length_flatMap, length_octets, countSize, Nat.add_assoc]

theorem size_pos (t : Table k) : 0 < t.size := by
  rw [size_eq]
  simp only [countSize]
  omega

theorem pieces_flatMap (rows : List (Row k)) (rest : List UInt8) :
    pieces (rowSize k) rows.length (rows.flatMap Row.octets ++ rest) = rows.map Row.octets := by
  induction rows with
  | nil => rfl
  | cons r rows ih =>
      rw [List.length_cons, pieces, List.flatMap_cons, List.append_assoc, ← length_octets r,
        List.take_left, List.drop_left, length_octets, ih, List.map_cons]

theorem toNat_count (t : Table k) : (UInt32.ofNat t.rows.length).toNat = t.rows.length := by
  have hsize := t.size_lt
  have hrow : 0 < rowSize k := by
    obtain ⟨transport, family⟩ := k
    cases transport <;> cases family <;> decide
  have hle := Nat.le_mul_of_pos_right t.rows.length hrow
  rw [UInt32.toNat_ofNat', Nat.mod_eq_of_lt (by omega)]

/-- The octets of a buffer that a table was copied into: those of the table, and zeros. -/
theorem octets_buffer {t : Table k} {size : Nat} (h : t.size ≤ size) :
    (Buffer.mk size t.octets).octets = t.octets ++ List.replicate (size - t.size) 0 := by
  rw [Buffer.octets, List.take_of_length_le]
  · rfl
  · rw [Table.size] at h
    simp only [List.length_append, List.length_replicate]
    omega

theorem rows_buffer {t : Table k} {size : Nat} (h : t.size ≤ size) :
    OwnerTable.rows (rowSize k) ⟨size, t.octets⟩ = .ok (t.rows.map Row.octets) := by
  have hsize := t.size_eq
  have hcount : (wordAt (Buffer.mk size t.octets).octets 0).toNat = t.rows.length := by
    rw [octets_buffer h, octets, List.append_assoc, wordAt_wordOctets, toNat_count]
  have hdrop : (Buffer.mk size t.octets).octets.drop countSize =
      t.rows.flatMap Row.octets ++ (t.trailing ++ List.replicate (size - t.size) 0) := by
    rw [octets_buffer h, octets, List.append_assoc, List.append_assoc]
    exact List.drop_left' (length_wordOctets _)
  simp only [OwnerTable.rows, hcount, hdrop, pieces_flatMap]
  rw [if_neg (by omega), if_neg (by omega)]

/-- A table that was copied into a buffer is read as its sockets, whatever stands behind its rows. -/
theorem decode_filled {t : Table k} {size : Nat} (h : t.size ≤ size) :
    decode k (.filled ⟨size, t.octets⟩) = .ok t.sockets := by
  simp only [decode, rows_buffer h, bind, Except.bind, pure, Except.pure, List.map_map, sockets]
  congr 1
  exact List.map_congr_left fun r _ => rowSocket_octets r

end Table

end SocketInventory.OwnerTable
