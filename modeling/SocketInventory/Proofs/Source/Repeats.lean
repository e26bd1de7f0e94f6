import SocketInventory.Proofs.Source.Reading

/-!
# Repeated reads of owner tables

A table function answers call by call, each time with a table or with a bare code. The read is
repeated as long as the code asks for a larger buffer, which it does at most as often as there are
answers. What is read are the octets that the last call left in its own buffer of zeros.
-/

namespace SocketInventory.OwnerTable

/-! ## Calls -/

/-- The answer at a call; the last one stays. -/
def answerAt (answers : List TableAnswer) (n : Nat) : TableAnswer :=
  answers.getD n (answers.getLastD emptyTable)

/-- What a call gives: its code, the size that it leaves behind, and the octets that it copies to
the start of the buffer. -/
structure Reply where
  code : Int
  size : Nat
  copied : List UInt8

/-- The reply to a call that passes a buffer of some size, or none. -/
def reply (buffer : Option Nat) : TableAnswer → Reply
  | .table octets =>
    match buffer with
    | none => ⟨insufficientBuffer, octets.length, []⟩
    | some size =>
      if octets.length ≤ size then ⟨0, size, octets⟩
      else ⟨insufficientBuffer, octets.length, []⟩
  | .code code size => ⟨code, newSize (buffer.getD 0) size, []⟩

/-- The buffer of each call, whose size the call before has left. -/
def bufferAt (first : Option Nat) (answers : List TableAnswer) : Nat → Option Nat
  | 0 => first
  | n + 1 => some (reply (bufferAt first answers n) (answerAt answers n)).size

def replyAt (first : Option Nat) (answers : List TableAnswer) (n : Nat) : Reply :=
  reply (bufferAt first answers n) (answerAt answers n)

/-- The size passed at a call and the code returned. -/
def callAt (first : Option Nat) (answers : List TableAnswer) (n : Nat) : Nat × Int :=
  ((bufferAt first answers n).getD 0, (replyAt first answers n).code)

/-- The answers to the calls behind the first one. -/
def following : List TableAnswer → List TableAnswer
  | [] => []
  | [answer] => [answer]
  | _ :: next :: later => next :: later

section Shift

variable (first : Option Nat) (answers : List TableAnswer) (n : Nat)

theorem answerAt_succ : answerAt answers (n + 1) = answerAt (following answers) n := by
  rcases answers with _ | ⟨answer, _ | ⟨next, later⟩⟩
  · rfl
  · cases n <;> rfl
  · simp [answerAt, following]

theorem bufferAt_succ : bufferAt first answers (n + 1) =
    bufferAt (some (replyAt first answers 0).size) (following answers) n := by
  induction n with
  | zero => rfl
  | succ n ih => rw [bufferAt, ih, answerAt_succ, bufferAt]

theorem replyAt_succ : replyAt first answers (n + 1) =
    replyAt (some (replyAt first answers 0).size) (following answers) n := by
  rw [replyAt, bufferAt_succ, answerAt_succ]
  rfl

theorem callAt_succ : callAt first answers (n + 1) =
    callAt (some (replyAt first answers 0).size) (following answers) n := by
  rw [callAt, bufferAt_succ, replyAt_succ]
  rfl

end Shift

/-! ## Readings -/

/-- What a reading ends in at a call. -/
def outcomeAt (first : Option Nat) (answers : List TableAnswer) (n : Nat) : Outcome :=
  let r := replyAt first answers n
  if r.code = 0 then .filled ⟨(bufferAt first answers n).getD 0, r.copied⟩ else .failed r.code

/-- The reading makes the calls up to some call and ends there. -/
structure EndsAt (first : Option Nat) (answers : List TableAnswer) (n : Nat) (r : Reading) :
    Prop where
  calls : r.calls = (List.range (n + 1)).map (callAt first answers)
  outcome : r.outcome = outcomeAt first answers n

/-- The reading ends at the first call that does not ask for a larger buffer. -/
structure Repeats (first : Option Nat) (answers : List TableAnswer) (n : Nat) (r : Reading) : Prop
    extends EndsAt first answers n r where
  asked : ∀ i < n, (replyAt first answers i).code = insufficientBuffer
  answered : (replyAt first answers n).code ≠ insufficientBuffer

section Steps

variable {first : Option Nat} {answers : List TableAnswer} {n size : Nat} {r : Reading}

theorem EndsAt.succ
    (h : EndsAt (some (replyAt first answers 0).size) (following answers) n r) :
    EndsAt first answers (n + 1) (r.after (first.getD 0) (replyAt first answers 0).code) where
  calls := by
    have hcalls : callAt first answers ∘ Nat.succ =
        callAt (some (replyAt first answers 0).size) (following answers) :=
      funext (callAt_succ first answers)
    rw [List.range_succ_eq_map, List.map_cons, List.map_map, hcalls, Reading.after, h.calls]
    rfl
  outcome := by
    rw [outcomeAt, replyAt_succ, bufferAt_succ]
    exact h.outcome

/-- A call that asks for a larger buffer comes before the calls with the size that it leaves. -/
theorem Repeats.succ (hcode : (replyAt first answers 0).code = insufficientBuffer)
    (hsize : (replyAt first answers 0).size = size)
    (h : Repeats (some size) (following answers) n r) :
    Repeats first answers (n + 1) (r.after (first.getD 0) insufficientBuffer) where
  toEndsAt := by
    subst hsize
    rw [← hcode]
    exact h.toEndsAt.succ
  asked i hi := by
    cases i with
    | zero => exact hcode
    | succ i =>
        rw [replyAt_succ, hsize]
        exact h.asked i (Nat.lt_of_succ_lt_succ hi)
  answered := by
    rw [replyAt_succ, hsize]
    exact h.answered

theorem Repeats.zero (hcode : (replyAt first answers 0).code ≠ insufficientBuffer)
    (hcalls : r.calls = [callAt first answers 0])
    (houtcome : r.outcome = outcomeAt first answers 0) :
    Repeats first answers 0 r where
  calls := hcalls
  outcome := houtcome
  asked i hi := absurd hi (Nat.not_lt_zero i)
  answered := hcode

end Steps

section Answers

variable {octets : List UInt8} {later : List TableAnswer} {size n : Nat} {r : Reading}

theorem reply_fits (h : octets.length ≤ size) :
    reply (some size) (.table octets) = ⟨0, size, octets⟩ := if_pos h

theorem reply_small (h : ¬ octets.length ≤ size) :
    reply (some size) (.table octets) = ⟨insufficientBuffer, octets.length, []⟩ := if_neg h

theorem zero_ne_insufficientBuffer : (0 : Int) ≠ insufficientBuffer := by decide

theorem repeats_fits (h : octets.length ≤ size) (hcalls : r.calls = [(size, 0)])
    (houtcome : r.outcome = .filled ⟨size, octets⟩) :
    Repeats (some size) (.table octets :: later) 0 r := by
  have hreply : replyAt (some size) (.table octets :: later) 0 = ⟨0, size, octets⟩ := reply_fits h
  apply Repeats.zero
  · rw [hreply]
    exact zero_ne_insufficientBuffer
  · rw [hcalls, callAt, hreply]
    rfl
  · rw [houtcome, outcomeAt, hreply]
    rfl

theorem repeats_small (h : ¬ octets.length ≤ size)
    (hr : Repeats (some octets.length) (following (.table octets :: later)) n r) :
    Repeats (some size) (.table octets :: later) (n + 1) (r.after size insufficientBuffer) := by
  have hreply : replyAt (some size) (.table octets :: later) 0 =
      ⟨insufficientBuffer, octets.length, []⟩ := reply_small h
  apply Repeats.succ (congrArg Reply.code hreply) (congrArg Reply.size hreply) hr

variable {code : Int} {size' : Option Int}

theorem repeats_code (hcode : code ≠ insufficientBuffer) (hcalls : r.calls = [(size, code)])
    (houtcome : r.outcome = if code = 0 then .filled ⟨size, []⟩ else .failed code) :
    Repeats (some size) (.code code size' :: later) 0 r :=
  .zero hcode hcalls houtcome

theorem repeats_asking
    (hr : Repeats (some (newSize size size')) (following (.code insufficientBuffer size' :: later))
      n r) :
    Repeats (some size) (.code insufficientBuffer size' :: later) (n + 1)
      (r.after size insufficientBuffer) :=
  .succ rfl rfl hr

end Answers

/-- The answer is a code that asks for a larger buffer, whatever is passed. -/
def Insatiable (answer : TableAnswer) : Prop := ∃ size, answer = .code insufficientBuffer size

theorem readAgain_repeats (size : Nat) (answer : TableAnswer) (later : List TableAnswer)
    (hlast : ¬ Insatiable ((answer :: later).getLast (List.cons_ne_nil _ _))) :
    ∃ n ≤ later.length + 1,
      Repeats (some size) (answer :: later) n (readAgain size answer later) := by
  -- By induction on the answers to come. Where none is left the last one is a table, which is read
  -- now or at the next call, or a code that ends the reading.
  induction later generalizing size answer with
  | nil =>
      cases answer with
      | table octets =>
          by_cases hfits : octets.length ≤ size
          · refine ⟨0, Nat.zero_le _, repeats_fits hfits ?_ ?_⟩ <;> simp [readAgain, hfits]
          · have hread : readAgain size (.table octets) [] =
                (readAgain octets.length (.table octets) []).after size insufficientBuffer := by
              simp [readAgain, hfits, Reading.after]
            refine ⟨1, Nat.le_refl _, ?_⟩
            rw [hread]
            apply repeats_small hfits
            apply repeats_fits (Nat.le_refl _) <;> simp [readAgain]
      | code code size' =>
          have hcode : code ≠ insufficientBuffer := by
            intro h
            exact hlast ⟨size', by rw [← h]; rfl⟩
          refine ⟨0, Nat.zero_le _, repeats_code hcode ?_ ?_⟩ <;> simp [readAgain, hcode]
  | cons next later ih =>
      have hlater : ¬ Insatiable ((next :: later).getLast (List.cons_ne_nil _ _)) := by
        rwa [List.getLast_cons (List.cons_ne_nil _ _)] at hlast
      cases answer with
      | table octets =>
          by_cases hfits : octets.length ≤ size
          · refine ⟨0, Nat.zero_le _, repeats_fits hfits ?_ ?_⟩ <;> simp [readAgain, hfits]
          · obtain ⟨n, hn, h⟩ := ih octets.length next hlater
            refine ⟨n + 1, Nat.succ_le_succ hn, ?_⟩
            rw [readAgain, if_neg hfits]
            exact repeats_small hfits h
      | code code size' =>
          by_cases hcode : code = insufficientBuffer
          · obtain ⟨n, hn, h⟩ := ih (newSize size size') next hlater
            refine ⟨n + 1, Nat.succ_le_succ hn, ?_⟩
            subst hcode
            rw [readAgain, if_neg zero_ne_insufficientBuffer.symm, if_pos rfl]
            exact repeats_asking h
          · refine ⟨0, Nat.zero_le _, repeats_code hcode ?_ ?_⟩ <;>
              by_cases hzero : code = 0 <;> simp [readAgain, hzero, hcode]

/-- The sizing call passes no buffer, and its code decides nothing. -/
theorem read_eq (answer : TableAnswer) (later : List TableAnswer) :
    read (answer :: later) =
      (readAgain (reply none answer).size ((following (answer :: later)).headD emptyTable)
        (following (answer :: later)).tail).after 0 (reply none answer).code := by
  have hsizing : sizing answer = ((reply none answer).code, (reply none answer).size) := by
    cases answer <;> rfl
  cases later with
  | nil => simp [read, hsizing, following]
  | cons next later => simp [read, hsizing, following]

theorem readAgain_single {answer : TableAnswer} (h : ¬ Insatiable answer) :
    Repeats (some (reply none answer).size) [answer] 0
      (readAgain (reply none answer).size answer []) := by
  cases answer with
  | table octets => apply repeats_fits (Nat.le_refl _) <;> simp [readAgain, reply]
  | code code size =>
      have hcode : code ≠ insufficientBuffer := fun hcode => h ⟨size, by rw [hcode]⟩
      apply repeats_code hcode <;> simp [readAgain, hcode]

theorem read_repeats {answers : List TableAnswer} (hne : answers ≠ [])
    (hlast : ¬ Insatiable (answers.getLast hne)) :
    ∃ n < answers.length, ∃ r,
      Repeats (some (replyAt none answers 0).size) (following answers) n r ∧
        read answers = r.after 0 (replyAt none answers 0).code := by
  rcases answers with _ | ⟨answer, _ | ⟨next, later⟩⟩
  · exact absurd rfl hne
  · exact ⟨0, Nat.one_pos, _, readAgain_single hlast, read_eq answer []⟩
  · rw [List.getLast_cons (List.cons_ne_nil _ _)] at hlast
    obtain ⟨n, hn, h⟩ := readAgain_repeats (reply none answer).size next later hlast
    exact ⟨n, Nat.lt_succ_of_le hn, _, h, read_eq answer (next :: later)⟩

/-! ## Buffers -/

/-- A buffer of zeros with some octets at its start. -/
def zeroPadded (size : Nat) (copied : List UInt8) : List UInt8 :=
  copied ++ List.replicate (size - copied.length) 0

/-- The number of rows that the first octets tell. -/
def countIn (octets : List UInt8) : Nat := octetsValue (octets.take countSize)

def rowAt (k : Kind) (octets : List UInt8) (i : Nat) : List UInt8 :=
  (octets.drop (countSize + i * rowSize k)).take (rowSize k)

/-- The sockets of the rows that octets hold, which have to be as many as they tell. -/
def socketsIn (k : Kind) (octets : List UInt8) : Except Error (List Socket) :=
  let needed := countSize + countIn octets * rowSize k
  if octets.length < countSize then .error (.shortBuffer octets.length countSize)
  else if octets.length < needed then .error (.shortBuffer octets.length needed)
  else .ok ((List.range (countIn octets)).map fun i => rowSocket k (rowAt k octets i))

theorem length_copied_le (answers : List TableAnswer) (first : Option Nat) (n : Nat) :
    (replyAt first answers n).copied.length ≤ (bufferAt first answers n).getD 0 := by
  rw [replyAt]
  cases answerAt answers n with
  | code code size => exact Nat.zero_le _
  | table octets =>
      cases bufferAt first answers n with
      | none => exact Nat.zero_le _
      | some size =>
          by_cases hfits : octets.length ≤ size
          · rw [reply_fits hfits]
            exact hfits
          · rw [reply_small hfits]
            exact Nat.zero_le _

theorem pieces_eq_map (size count : Nat) (octets : List UInt8) :
    pieces size count octets =
      (List.range count).map fun i => (octets.drop (i * size)).take size := by
  induction count generalizing octets with
  | zero => rfl
  | succ count ih =>
      rw [pieces, ih, List.range_succ_eq_map, List.map_cons, List.map_map, Nat.zero_mul,
        List.drop_zero]
      congr 1
      apply List.map_congr_left
      intro i _
      rw [List.drop_drop, Function.comp_apply, Nat.succ_mul, Nat.add_comm size]

theorem octets_eq_zeroPadded {b : Buffer} (h : b.start.length ≤ b.size) :
    b.octets = zeroPadded b.size b.start := by
  rw [Buffer.octets, zeroPadded, List.take_of_length_le]
  rw [List.length_append, List.length_replicate]
  omega

theorem length_octets_buffer {b : Buffer} (h : b.start.length ≤ b.size) :
    b.octets.length = b.size := by
  rw [octets_eq_zeroPadded h, zeroPadded, List.length_append, List.length_replicate]
  omega

theorem decode_eq_socketsIn (k : Kind) {b : Buffer} (h : b.start.length ≤ b.size) :
    decode k (.filled b) = socketsIn k b.octets := by
  have hcount : (wordAt b.octets 0).toNat = countIn b.octets :=
    toNat_word (List.length_take_le _ _)
  simp only [decode, rows, socketsIn, hcount, length_octets_buffer h]
  split
  · rfl
  · split
    · rfl
    · simp only [pieces_eq_map, bind, Except.bind, pure, Except.pure, List.map_map, rowAt,
        List.drop_drop]
      rfl

theorem socketsIn_short_iff {k : Kind} {octets : List UInt8} :
    (∃ size needed, socketsIn k octets = .error (.shortBuffer size needed)) ↔
      octets.length < countSize ∨ octets.length < countSize + countIn octets * rowSize k := by
  rw [socketsIn]
  split
  · exact iff_of_true ⟨_, _, rfl⟩ (.inl ‹_›)
  · split
    · exact iff_of_true ⟨_, _, rfl⟩ (.inr ‹_›)
    · exact iff_of_false (by simp) (by omega)

/-! ## Collecting -/

variable {m : Machine} {k : Kind}

/-- The octets that a call leaves in its buffer. -/
def leftAt (answers : List TableAnswer) (n : Nat) : List UInt8 :=
  zeroPadded ((bufferAt none answers n).getD 0) (replyAt none answers n).copied

theorem decode_outcomeAt (k : Kind) (answers : List TableAnswer) (n : Nat) :
    decode k (outcomeAt none answers n) =
      if (replyAt none answers n).code = 0 then socketsIn k (leftAt answers n)
      else .error (.enumeration
        (.tableCallFailed (functionName k.transport) (replyAt none answers n).code)) := by
  have hfits := length_copied_le answers none n
  rw [outcomeAt]
  split
  · rw [decode_eq_socketsIn k hfits, octets_eq_zeroPadded hfits]
    rfl
  · rfl

theorem socketsIn_ne_enumeration (k : Kind) (octets : List UInt8) (e : EnumerationError) :
    socketsIn k octets ≠ .error (.enumeration e) := by
  rw [socketsIn]
  split
  · simp
  · split <;> simp

/-- The sizing answer counts by the size that it leaves. -/
theorem outcome_read_congr {first first' : TableAnswer} {rest : List TableAnswer}
    (hrest : rest ≠ []) (h : (reply none first').size = (reply none first).size) :
    (read (first' :: rest)).outcome = (read (first :: rest)).outcome := by
  obtain ⟨next, later, rfl⟩ := List.exists_cons_of_ne_nil hrest
  rw [read_eq, read_eq, h]
  rfl

/-- The first call behind the sizing call whose code does not ask for a larger buffer. -/
structure LastCall (answers : List TableAnswer) (n : Nat) : Prop where
  pos : 1 ≤ n
  asked : ∀ i, 1 ≤ i → i < n → (replyAt none answers i).code = insufficientBuffer
  answered : (replyAt none answers n).code ≠ insufficientBuffer

theorem read_lastCall {answers : List TableAnswer} (hne : answers ≠ [])
    (hlast : ¬ Insatiable (answers.getLast hne)) :
    ∃ n ≤ answers.length, LastCall answers n ∧ EndsAt none answers n (read answers) := by
  -- The calls of the repeated reading stand one behind their number there, after the sizing call.
  obtain ⟨n, hn, r, hr, hread⟩ := read_repeats hne hlast
  refine ⟨n + 1, hn, ⟨Nat.le_add_left 1 n, fun i hi hin => ?_, ?_⟩, ?_⟩
  · obtain ⟨i, rfl⟩ := Nat.exists_eq_add_of_le' hi
    rw [replyAt_succ]
    exact hr.asked i (Nat.lt_of_succ_lt_succ hin)
  · rw [replyAt_succ]
    exact hr.answered
  · rw [hread]
    exact hr.toEndsAt.succ

/-- The reading of a table ends at the first call behind the sizing call whose code does not ask for
a larger buffer, and makes no more calls than there are answers besides the sizing call. A code
other than zero is the enumeration error that names it. Otherwise the sockets are those in the
octets that this call left in its buffer of zeros, and of the other answers nothing counts. Of the
sizing answer it is the size that counts, never the code. -/
theorem collectKind_repeats {k : Kind} {m : Machine} {answers : List TableAnswer}
    (ht : m.host.tables k = answers) (hne : answers ≠ [])
    (hlast : ¬ Insatiable (answers.getLast hne)) :
    (∃ n ≤ answers.length, LastCall answers n ∧
      ((collectKind k).run.run m).2.events = m.events ++
        (List.range (n + 1)).map (fun i => .call (tableCall k (callAt none answers i))) ∧
      ((∃ e, ((collectKind k).run.run m).1 = .error (.enumeration e)) ↔
        (replyAt none answers n).code ≠ 0) ∧
      ((replyAt none answers n).code ≠ 0 →
        ∃ e : EnumerationError, ((collectKind k).run.run m).1 = .error (.enumeration e) ∧
          e.message = "Failed to get sockets: " ++ functionName k.transport ++ " returned " ++
            Text.integerText (replyAt none answers n).code) ∧
      ((replyAt none answers n).code = 0 →
        ((collectKind k).run.run m).1 = socketsIn k (leftAt answers n) ∧
        ((∃ size needed, ((collectKind k).run.run m).1 = .error (.shortBuffer size needed)) ↔
          (leftAt answers n).length < countSize ∨
          (leftAt answers n).length < countSize + countIn (leftAt answers n) * rowSize k))) ∧
    ∀ first first' rest, answers = first :: rest → rest ≠ [] →
      (reply none first').size = (reply none first).size →
      ((collectKind k).run.run { m with host := Host.leave m.host k (first' :: rest) }).1 =
        ((collectKind k).run.run m).1 := by
  refine ⟨?_, fun first first' rest hanswers hrest hsize => ?_⟩
  · obtain ⟨n, hn, hcall, hends⟩ := read_lastCall hne hlast
    have hrun := run_collectKind_eq k m
    rw [ht, hends.outcome, hends.calls, decode_outcomeAt, List.map_map] at hrun
    refine ⟨n, hn, hcall, by rw [hrun]; rfl, ?_, fun hcode => ?_, fun hcode => ?_⟩
    · rw [hrun]
      split
      · rename_i hcode
        refine iff_of_false ?_ (not_not.2 hcode)
        rintro ⟨e, he⟩
        exact socketsIn_ne_enumeration _ _ e he
      · rename_i hcode
        exact iff_of_true ⟨_, rfl⟩ hcode
    · rw [hrun, if_neg hcode]
      exact ⟨_, rfl, rfl⟩
    · rw [hrun, if_pos hcode]
      exact ⟨rfl, socketsIn_short_iff⟩
  · have hleft : (Host.leave m.host k (first' :: rest)).tables k = first' :: rest := if_pos rfl
    rw [run_collectKind_eq, run_collectKind_eq]
    simp only [hleft, ht, hanswers]
    rw [outcome_read_congr hrest hsize]

theorem size_listening :
    countSize + [Row.listening].length * rowSize ⟨.tcp, .inet4⟩ + 0 < 2 ^ 32 := by decide

def Table.listening : Table ⟨.tcp, .inet4⟩ := ⟨[Row.listening], [], size_listening⟩

/-- A sizing call that fails with a size of zero, a code that asks for four octets, and a table,
which needs more. -/
def growingAnswers : List TableAnswer :=
  [.code 5 none, .code insufficientBuffer (some 4), .table Table.listening.octets]

def askingMachine : Machine :=
  ⟨{ Host.idle "Windows" with tables := fun _ => growingAnswers }, []⟩

theorem collectKind_repeats_growing :
    LastCall growingAnswers 3 ∧
      ((collectKind ⟨.tcp, .inet4⟩).run.run askingMachine).2.events.length = 4 ∧
      ((collectKind ⟨.tcp, .inet4⟩).run.run askingMachine).1 =
        socketsIn ⟨.tcp, .inet4⟩ (leftAt growingAnswers 3) ∧
      socketsIn ⟨.tcp, .inet4⟩ (leftAt growingAnswers 3) = .ok [Row.listening.socket] := by
  have hlast : ¬ Insatiable (growingAnswers.getLast (List.cons_ne_nil _ _)) := by
    rintro ⟨size, ⟨⟩⟩
  obtain ⟨⟨n, hn, hcall, hevents, -, -, hread⟩, -⟩ :=
    collectKind_repeats (k := ⟨.tcp, .inet4⟩) (m := askingMachine) rfl (List.cons_ne_nil _ _) hlast
  have hfirst : (replyAt none growingAnswers 1).code = insufficientBuffer := by decide +kernel
  have hsecond : (replyAt none growingAnswers 2).code = insufficientBuffer := by decide +kernel
  have hthird : (replyAt none growingAnswers 3).code = 0 := by decide +kernel
  have hlength : n ≤ 3 := hn
  obtain rfl : n = 3 := by
    have hpos := hcall.pos
    have hanswered := hcall.answered
    interval_cases n
    · exact absurd hfirst hanswered
    · exact absurd hsecond hanswered
    · rfl
  refine ⟨hcall, ?_, (hread hthird).1, ok_of_toOption (by decide +kernel)⟩
  rw [hevents]
  rfl

end SocketInventory.OwnerTable
