import SocketInventory.Proofs.Kinds
import SocketInventory.Proofs.Outcome
import SocketInventory.Proofs.Session
import SocketInventory.Proofs.Source.Rows

/-!
# Reading of owner tables

A table may be another one at every call, so what is read is the table held at the call that
answers, which is the first one whose buffer is large enough. The sockets that are collected are
those of the rows held at these calls, kind by kind.
-/

namespace SocketInventory.OwnerTable

/-! ## Histories -/

/-- The tables that a table function holds, call after call; from some call on it is the last. -/
structure History (k : Kind) where
  changing : List (Table k)
  final : Table k

namespace History

variable {k : Kind}

def held (h : History k) (n : Nat) : Table k := h.changing.getD n h.final

/-- What is left after some calls. -/
def drop (h : History k) (n : Nat) : History k := ⟨h.changing.drop n, h.final⟩

def answers (h : History k) : List TableAnswer :=
  (h.changing ++ [h.final]).map fun t => .table t.octets

/-- The size of the buffer at a call: at first some size, then the one asked for just before. -/
def bufferSize (h : History k) (first : Nat) : Nat → Nat
  | 0 => first
  | n + 1 => (h.held n).size

/-- A call is the first one whose buffer is large enough. -/
def Answered (h : History k) (first n : Nat) : Prop :=
  (h.held n).size ≤ h.bufferSize first n ∧ ∀ i < n, h.bufferSize first i < (h.held i).size

/-- The calls up to the one that answers: the size of the buffer and the code of each. -/
def calls (h : History k) (first n : Nat) : List (Nat × Int) :=
  (List.range n).map (fun i => (h.bufferSize first i, insufficientBuffer)) ++
    [(h.bufferSize first n, 0)]

/-- The reading that ends at a call. -/
def reading (h : History k) (first n : Nat) : Reading :=
  ⟨h.calls first n, .filled ⟨h.bufferSize first n, (h.held n).octets⟩, (h.drop (n + 1)).answers⟩

variable {h : History k} {first n : Nat}

theorem answers_eq_cons (h : History k) :
    h.answers = .table (h.held 0).octets :: h.answers.tail := by
  obtain ⟨_ | ⟨t, changing⟩, final⟩ := h <;> rfl

theorem held_drop (h : History k) (n i : Nat) : (h.drop i).held n = h.held (n + i) := by
  simp only [held, drop, List.getD_eq_getElem?_getD, List.getElem?_drop, Nat.add_comm]

theorem drop_drop (h : History k) (n : Nat) : (h.drop 1).drop n = h.drop (n + 1) := by
  simp only [drop, List.drop_drop, Nat.add_comm]

theorem bufferSize_drop (h : History k) (first n : Nat) :
    (h.drop 1).bufferSize (h.held 0).size n = h.bufferSize first (n + 1) := by
  cases n with
  | zero => rfl
  | succ n => simp only [bufferSize, held_drop]

theorem answered_zero : h.Answered first 0 ↔ (h.held 0).size ≤ first := by
  simp [Answered, bufferSize]

/-- A call whose buffer is too small comes before the calls of the rest. -/
theorem answered_succ (hsize : first < (h.held 0).size) :
    h.Answered first (n + 1) ↔ (h.drop 1).Answered (h.held 0).size n := by
  simp only [Answered, Nat.forall_lt_succ_left, held_drop, bufferSize_drop h first]
  simp [bufferSize, hsize]

theorem reading_succ (h : History k) (first n : Nat) :
    h.reading first (n + 1) =
      ((h.drop 1).reading (h.held 0).size n).after first insufficientBuffer := by
  simp only [reading, Reading.after, calls, List.range_succ_eq_map, List.map_cons, List.map_map,
    List.cons_append, held_drop, drop_drop, bufferSize_drop h first]
  congr 4

theorem readAgain_answers (h : History k) (first : Nat) :
    ∃ n, h.Answered first n ∧
      readAgain first (.table (h.held 0).octets) h.answers.tail = h.reading first n := by
  -- By induction on the tables still to change. Once none is left the last table is read at this
  -- call or at the next one, whose buffer has its size.
  obtain ⟨changing, final⟩ := h
  induction changing generalizing first with
  | nil =>
      have htail : (History.mk [] final).answers.tail = [] := rfl
      have hhead : (History.mk [] final).held 0 = final := rfl
      have hnext : ((History.mk [] final).drop 1).held 0 = final := rfl
      by_cases hsize : final.size ≤ first
      · refine ⟨0, answered_zero.2 (hhead ▸ hsize), ?_⟩
        have hfits : final.octets.length ≤ first := hsize
        simp only [htail, hhead, readAgain, hfits, if_true]
        rfl
      · have hfits : ¬ final.octets.length ≤ first := hsize
        have hlarge : first < ((History.mk [] final).held 0).size :=
          hhead ▸ Nat.lt_of_not_le hsize
        refine ⟨1, (answered_succ hlarge).2 (answered_zero.2 ?_), ?_⟩
        · rw [hnext, hhead]
        · simp only [htail, hhead, readAgain, hfits, if_false]
          rfl
  | cons t changing ih =>
      have htail : (History.mk (t :: changing) final).answers.tail =
          (History.mk changing final).answers := rfl
      have hhead : (History.mk (t :: changing) final).held 0 = t := rfl
      rw [htail, hhead, answers_eq_cons]
      by_cases hsize : t.size ≤ first
      · refine ⟨0, answered_zero.2 (hhead ▸ hsize), ?_⟩
        have hfits : t.octets.length ≤ first := hsize
        simp only [readAgain, hfits, if_true]
        rw [← answers_eq_cons]
        rfl
      · obtain ⟨n, hn, hread⟩ := ih t.size
        have hfits : ¬ t.octets.length ≤ first := hsize
        have hlarge : first < ((History.mk (t :: changing) final).held 0).size :=
          hhead ▸ Nat.lt_of_not_le hsize
        refine ⟨n + 1, (answered_succ hlarge).2 hn, ?_⟩
        rw [Table.size] at hread
        simp only [readAgain, hfits, if_false, hread, reading_succ]
        rfl

/-- A first call without a buffer is one whose buffer is too small, for no table is empty. -/
theorem read_answers (h : History k) : ∃ n, h.Answered 0 n ∧ read h.answers = h.reading 0 n := by
  obtain ⟨n, hn, hread⟩ := h.readAgain_answers 0
  refine ⟨n, hn, ?_⟩
  rw [← hread, answers_eq_cons]
  have hsize : ¬ (h.held 0).octets.length ≤ 0 := Nat.not_le_of_lt (h.held 0).size_pos
  cases h.answers.tail with
  | nil => simp [read, sizing, readAgain, hsize, Reading.after]
  | cons next later => simp [read, sizing, readAgain, hsize]

theorem decode_reading (hn : h.Answered first n) :
    decode k (h.reading first n).outcome = .ok (h.held n).sockets :=
  Table.decode_filled hn.1

end History

/-! ## Collecting -/

def tableCall (k : Kind) (c : Nat × Int) : Call :=
  .table (functionName k.transport) (familyNumber k.family) (tableClass k.transport) c.1 c.2

/-- The sockets that are read from the tables of some kinds one after the other, and the calls that
this takes. Each kind is read at its first call whose buffer is large enough, and a later reading of
it goes on with the calls that are left. -/
inductive Reads : ((k : Kind) → History k) → List Kind → List Socket → List Call → Prop
  | nil {hist : (k : Kind) → History k} : Reads hist [] [] []
  | cons {hist : (k : Kind) → History k} {k : Kind} {n : Nat} {kinds : List Kind}
      {sockets : List Socket} {calls : List Call} (hn : (hist k).Answered 0 n)
      (h : Reads (Function.update hist k ((hist k).drop (n + 1))) kinds sockets calls) :
      Reads hist (k :: kinds) (((hist k).held n).sockets ++ sockets)
        (((hist k).calls 0 n).map (tableCall k) ++ calls)

variable {m : Machine} {hist : (k : Kind) → History k} {sockets : List Socket}

/-- Every table ever held is one of some sockets, with those of its kind in their order. -/
def Keeps (sockets : List Socket) (hist : (k : Kind) → History k) : Prop :=
  ∀ k n, ((hist k).held n).sockets = k.among sockets

theorem Keeps.update (h : Keeps sockets hist) (k : Kind) (i : Nat) :
    Keeps sockets (Function.update hist k ((hist k).drop i)) := by
  intro k' n
  by_cases hk : k' = k
  · subst hk
    rw [Function.update_self, History.held_drop, h]
  · rw [Function.update_of_ne hk, h]

/-- Tables that only change in what they do not show are read as if they stayed. -/
theorem Reads.sockets_eq {kinds : List Kind} {found : List Socket} {calls : List Call}
    (h : Reads hist kinds found calls) (hk : Keeps sockets hist) :
    found = kinds.flatMap (·.among sockets) := by
  induction h with
  | nil => rfl
  | @cons hist k n kinds found calls hn _ ih => rw [hk, ih (hk.update k _), List.flatMap_cons]

/-- The run of a collection, by the reading that it makes. -/
theorem run_collectKind_eq (k : Kind) (m : Machine) : (collectKind k).run.run m =
    (decode k (read (m.host.tables k)).outcome,
      ⟨Host.leave m.host k (read (m.host.tables k)).left,
        m.events ++ (read (m.host.tables k)).calls.map fun c => .call (tableCall k c)⟩) := by
  rw [collectKind, Session.run_bind_ok Session.run_host,
    Session.run_bind_ok (Session.run_modify _)]
  refine (Session.run_bind_ok (Session.run_forM_call _ (tableCall k))).trans ?_
  rw [Session.run_lift]

/-- One kind is read, and nothing but its own answers is used up. -/
theorem run_collectKind {k : Kind} (ht : m.host.tables k = (hist k).answers) :
    ∃ n, (hist k).Answered 0 n ∧
      (collectKind k).run.run m = (.ok ((hist k).held n).sockets,
        ⟨Host.leave m.host k ((hist k).drop (n + 1)).answers,
          m.events ++ (((hist k).calls 0 n).map (tableCall k)).map .call⟩) := by
  obtain ⟨n, hn, hread⟩ := (hist k).read_answers
  refine ⟨n, hn, ?_⟩
  rw [run_collectKind_eq, ht, hread, History.decode_reading hn, List.map_map]
  rfl

theorem run_mapM_collectKind {kinds : List Kind}
    (ht : ∀ k ∈ kinds, m.host.tables k = (hist k).answers) :
    ∃ parts calls m', Reads hist kinds parts.flatten calls ∧
      (kinds.mapM collectKind).run.run m = (.ok parts, m') ∧
      m'.host.processes = m.host.processes ∧ m'.events = m.events ++ calls.map .call := by
  induction kinds generalizing m hist with
  | nil => exact ⟨[], [], m, .nil, rfl, rfl, (List.append_nil _).symm⟩
  | cons k kinds ih =>
      obtain ⟨n, hn, hrun⟩ := run_collectKind (ht k (by simp))
      have hleft : ∀ k' ∈ kinds, (Host.leave m.host k ((hist k).drop (n + 1)).answers).tables k' =
          (Function.update hist k ((hist k).drop (n + 1)) k').answers := by
        intro k' hk'
        by_cases heq : k' = k
        · subst heq
          simp [Host.leave]
        · simp [Host.leave, heq, ht k' (by simp [hk'])]
      obtain ⟨parts, calls, m', hreads, hrest, hprocesses, hevents⟩ :=
        @ih ⟨_, m.events ++ (((hist k).calls 0 n).map (tableCall k)).map .call⟩ _ hleft
      refine ⟨((hist k).held n).sockets :: parts, _, m', .cons hn hreads, ?_, hprocesses, ?_⟩
      · rw [List.mapM_cons, Session.run_bind_ok hrun]
        exact Session.run_bind_ok hrest
      · rw [hevents, List.map_append, List.append_assoc]

theorem run_collect {families : List Family} {transports : List Transport}
    (hp : m.host.platform = "Windows") (hl : m.host.library = .ok ())
    (ht : ∀ k ∈ Kind.select transports families, m.host.tables k = (hist k).answers) :
    ∃ sockets calls m', Reads hist (Kind.select transports families) sockets calls ∧
      (collect families transports).run.run m = (.ok sockets, m') ∧
      m'.host.processes = m.host.processes ∧
      m'.events = m.events ++ (.load libraryName :: calls).map .call := by
  let loaded : Machine := { m with events := m.events ++ [.call (.load libraryName)] }
  obtain ⟨parts, calls, m', hreads, hrun, hprocesses, hevents⟩ :=
    run_mapM_collectKind (m := loaded) ht
  refine ⟨parts.flatten, calls, m', hreads, ?_, hprocesses, ?_⟩
  · rw [collect, Session.run_bind_ok Session.run_host, if_neg (by simp [hp])]
    beta_reduce
    rw [Session.run_bind_ok (Session.run_call _), hl]
    exact (Session.run_bind_ok hrun).trans rfl
  · rw [hevents, List.map_cons, List.append_assoc]
    rfl

/-- Collecting from owner tables undoes encoding them: the sockets are those of the rows held at
the answering calls, kind by kind and row by row, and no other call is made. -/
theorem collect_encoded {families : List Family} {transports : List Transport}
    (hp : m.host.platform = "Windows") (hl : m.host.library = .ok ())
    (ht : ∀ k ∈ Kind.select transports families, m.host.tables k = (hist k).answers) :
    ∃ sockets calls, Reads hist (Kind.select transports families) sockets calls ∧
      ((collect families transports).run.run m).1 = .ok sockets ∧
      ((collect families transports).run.run m).2.events =
        m.events ++ (.load libraryName :: calls).map .call := by
  obtain ⟨sockets, calls, m', hreads, hrun, -, hevents⟩ := run_collect hp hl ht
  exact ⟨sockets, calls, hreads, by rw [hrun], by rw [hrun, hevents]⟩

def Table.empty (k : Kind) : Table k := ⟨[], [], by simp [countSize]⟩

def Row.listening : Row ⟨.tcp, .inet4⟩ :=
  .tcp ⟨.v4 127 0 0 1, 80, 0xAB, 0xCD⟩ ⟨.v4 0 0 0 0, 0, 0, 0⟩ 2 4

/-- A row whose state has no name and whose owner is not known. -/
def Row.orphaned : Row ⟨.tcp, .inet4⟩ :=
  .tcp ⟨.v4 10 0 0 1, 443, 0, 0⟩ ⟨.v4 10 0 0 2, 50000, 1, 2⟩ 100 0

/-- A table that grows between the calls, twice. -/
def History.growing : History ⟨.tcp, .inet4⟩ where
  changing := [.empty _, ⟨[.listening], [], by decide⟩]
  final := ⟨[.listening, .orphaned], [1, 2, 3], by decide⟩

def growingTables : (k : Kind) → History k :=
  Function.update (fun k => ⟨[], .empty k⟩) ⟨.tcp, .inet4⟩ .growing

def growingMachine : Machine :=
  ⟨{ Host.idle "Windows" with tables := fun k => (growingTables k).answers }, []⟩

/-- The read is repeated until both rows fit. -/
theorem collect_encoded_growing :
    ∃ calls, Reads growingTables (Kind.select [.tcp] [.inet4])
        [Row.listening.socket, Row.orphaned.socket] calls ∧
      calls.length = 4 ∧
      ((collect [.inet4] [.tcp]).run.run growingMachine).1 =
        .ok [Row.listening.socket, Row.orphaned.socket] := by
  obtain ⟨sockets, calls, hreads, hrun, hevents⟩ :=
    @collect_encoded growingMachine growingTables [.inet4] [.tcp] rfl rfl fun _ _ => rfl
  have hsockets : ((collect [.inet4] [.tcp]).run.run growingMachine).1 =
      .ok [Row.listening.socket, Row.orphaned.socket] := ok_of_toOption (by decide +kernel)
  have hlength : ((collect [.inet4] [.tcp]).run.run growingMachine).2.events.length = 5 := by
    decide +kernel
  obtain rfl : sockets = _ := Except.ok.inj (hrun.symm.trans hsockets)
  have hcalls : calls.length = 4 := by
    rw [hevents] at hlength
    simpa [growingMachine] using hlength
  exact ⟨calls, hreads, hcalls, hrun⟩

end SocketInventory.OwnerTable
