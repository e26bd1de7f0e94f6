import SocketInventory.Proofs.Text.Lines
import SocketInventory.Source.Listing

/-!
# Socket lines

A socket line as its six columns in front of the processes and the text behind them, and what the
listing makes of it: the socket of the columns, with the owners that the rest of the line names.
-/

namespace SocketInventory.Listing

/-! ## Columns -/

/-- A word and the blanks behind it. -/
structure Cell where
  word : List Char
  gap : List Char
  word_ne_nil : word ≠ []
  word_nonblank : ∀ c ∈ word, Text.isBlank c = false
  gap_ne_nil : gap ≠ []
  gap_blank : ∀ c ∈ gap, Text.isBlank c
  gap_inLine : Text.InLine gap

/-- A word with one blank behind it. -/
def Cell.single (word : List Char) (hne : word ≠ []) (hb : ∀ c ∈ word, Text.isBlank c = false) :
    Cell :=
  ⟨word, [' '], hne, hb, by decide, by decide, by decide⟩

def Cell.before (x : Cell) (rest : List Char) : List Char := x.word ++ (x.gap ++ rest)

/-- The columns in front of the processes. -/
structure Front where
  indent : List Char
  indent_blank : ∀ c ∈ indent, Text.isBlank c
  indent_inLine : Text.InLine indent
  protocol : Cell
  state : Cell
  received : Cell
  sent : Cell
  localEnd : Cell
  peerEnd : Cell

/-- The columns with the text behind them. -/
def Front.cells (f : Front) (users : List Char) : List Char :=
  f.protocol.before (f.state.before (f.received.before (f.sent.before (f.localEnd.before
    (f.peerEnd.before users)))))

def Front.line (f : Front) (users : List Char) : List Char := f.indent ++ f.cells users

theorem Front.line_append (f : Front) (a b : List Char) : f.line (a ++ b) = f.line a ++ b := by
  simp [Front.line, Front.cells, Cell.before]

/-- The text starts with a character that is no blank. -/
def Starts (s : List Char) : Prop := ∃ c rest, s = c :: rest ∧ Text.isBlank c = false

theorem Starts.head {s : List Char} (h : Starts s) :
    ∀ c, s.head? = some c → Text.isBlank c = false := by
  obtain ⟨d, rest, rfl, hd⟩ := h
  rintro c hc
  cases hc
  exact hd

theorem Starts.exists_nonblank {s : List Char} (h : Starts s) :
    ∃ c ∈ s, Text.isBlank c = false := by
  obtain ⟨c, rest, rfl, hc⟩ := h
  exact ⟨c, by simp, hc⟩

theorem Starts.trimEnd {s : List Char} (h : Starts s) : Starts (Text.trimEnd s) := by
  obtain ⟨c, rest, rfl, hc⟩ := h
  by_cases hrest : ∃ d ∈ rest, Text.isBlank d = false
  · exact ⟨c, _, Text.trimEnd_append hrest [c], hc⟩
  · have hall : ∀ d ∈ rest.reverse, Text.isBlank d := by simpa using hrest
    refine ⟨c, [], ?_, hc⟩
    rw [Text.trimEnd, List.reverse_cons, List.dropWhile_append_of_pos hall,
      Text.dropWhile_eq_self (by simp [hc])]
    rfl

theorem Cell.starts (x : Cell) (rest : List Char) : Starts (x.before rest) := by
  obtain ⟨c, word, hword⟩ := List.exists_cons_of_ne_nil x.word_ne_nil
  have hc := x.word_nonblank c (by simp [hword])
  exact ⟨c, word ++ (x.gap ++ rest), by rw [Cell.before, hword]; rfl, hc⟩

theorem Front.line_ne_nil (f : Front) (users : List Char) : f.line users ≠ [] := by
  obtain ⟨c, rest, hcells, -⟩ : Starts (f.cells users) := f.protocol.starts _
  simp [Front.line, hcells]

theorem Cell.trimEnd_before (x : Cell) {rest : List Char} (h : Starts rest) :
    Text.trimEnd (x.before rest) = x.before (Text.trimEnd rest) := by
  have hrest := h.exists_nonblank
  have hgap : ∃ c ∈ x.gap ++ rest, Text.isBlank c = false := by
    obtain ⟨c, hc, hblank⟩ := hrest
    exact ⟨c, by simp [hc], hblank⟩
  rw [Cell.before, Text.trimEnd_append hgap, Text.trimEnd_append hrest]
  rfl

theorem Cell.column_before (x : Cell) {rest : List Char} (h : Starts rest) :
    column (x.before rest) = (x.word, rest) := by
  have hgap : ∀ c, (x.gap ++ rest).head? = some c → (!Text.isBlank c) = false := by
    obtain ⟨d, gap, hd⟩ := List.exists_cons_of_ne_nil x.gap_ne_nil
    intro c hc
    rw [hd] at hc
    cases hc
    simp [x.gap_blank d (by simp [hd])]
  have hword : ∀ c ∈ x.word, (!Text.isBlank c) = true := by
    intro c hc
    simp [x.word_nonblank c hc]
  rw [column, Cell.before, Text.takeWhile_append_stop hgap, Text.dropWhile_append_stop hgap,
    List.takeWhile_eq_self_iff.2 hword, List.dropWhile_eq_nil_iff.2 hword, List.nil_append,
    List.dropWhile_append_of_pos x.gap_blank, Text.dropWhile_eq_self h.head]

theorem Cell.inLine_before (x : Cell) {rest : List Char} (h : Text.InLine rest) :
    Text.InLine (x.before rest) :=
  Text.inLine_append_iff.2
    ⟨.of_nonblank x.word_nonblank, Text.inLine_append_iff.2 ⟨x.gap_inLine, h⟩⟩

theorem Front.inLine_line (f : Front) {users : List Char} (h : Text.InLine users) :
    Text.InLine (f.line users) := by
  refine Text.inLine_append_iff.2 ⟨f.indent_inLine, ?_⟩
  rw [Front.cells]
  repeat apply Cell.inLine_before
  exact h

theorem Front.trim_line (f : Front) {users : List Char} (h : Starts users) :
    Text.trim (f.line users) = f.cells (Text.trimEnd users) := by
  have hcells : Starts (f.cells users) := f.protocol.starts _
  rw [Front.line, Text.trim_append f.indent_blank hcells.head]
  simp only [Front.cells, Cell.trimEnd_before, Cell.starts, h]

theorem Front.columns?_line (f : Front) {users : List Char} (h : Starts users)
    (hlf : '\n' ∉ Text.trimEnd users) :
    columns? (f.line users) = some ⟨f.protocol.word, f.state.word, f.localEnd.word,
      f.peerEnd.word, Text.trimEnd users⟩ := by
  have hne : ∀ x : Cell, x.word.isEmpty = false := fun x => by simp [x.word_ne_nil]
  have hend := h.trimEnd
  simp [columns?, f.trim_line h, Front.cells, Cell.column_before, Cell.starts, hend, hne, hlf]

/-! ## The socket of a line -/

/-- The socket of the columns, given its owners. -/
def Front.socket? (f : Front) : Option (List Int → Socket) :=
  match transport? f.protocol.word, parseEnd f.localEnd.word, parseEnd f.peerEnd.word with
  | some .udp, .ok (address, port), .ok _ =>
    some fun pids => ⟨.udp, address, some port, none, none, none, pids⟩
  | some .tcp, .ok (address, port), .ok (peer, peerPort) =>
    some fun pids => ⟨.tcp, address, some port, some peer, some peerPort,
      some (parseState f.state.word), pids⟩
  | _, _, _ => none

variable {f : Front} {make : List Int → Socket} {users output : List Char}

theorem Front.pids_socket (h : f.socket? = some make) (pids : List Int) :
    (make pids).pids = pids := by
  unfold Front.socket? at h
  split at h <;> cases h <;> rfl

theorem parseLine_line (h : f.socket? = some make) (hu : Starts users)
    (hlf : '\n' ∉ Text.trimEnd users) :
    parseLine (f.line users) =
      (parsePids (Text.trimEnd users)).map fun pids => some (make pids) := by
  simp only [Front.socket?] at h
  simp only [parseLine, f.columns?_line hu hlf]
  generalize transport? f.protocol.word = transport at h ⊢
  generalize parseEnd f.localEnd.word = localEnd at h ⊢
  generalize parseEnd f.peerEnd.word = peerEnd at h ⊢
  split at h <;> cases h <;> cases parsePids (Text.trimEnd users) <;> rfl

theorem transport?_header (w : List Char) : transport? ('N' :: w) = none := by
  have hlower : Text.lower ('N' :: w) = 'n' :: Text.lowerAfter ['N'] w := rfl
  simp [transport?, hlower]

/-- A line whose first column names a protocol is neither blank nor the header. -/
theorem isSkipped_before (f : Front) (h : (transport? f.protocol.word).isSome)
    (rest : List Char) : isSkipped (f.indent ++ f.protocol.before rest) = false := by
  obtain ⟨c, tail, hbefore, hc⟩ := f.protocol.starts rest
  have hblank : Text.isBlankText (f.indent ++ f.protocol.before rest) = false := by
    simp [Text.isBlankText, hbefore, hc]
  have hheader : ['N', 'e', 't', 'i', 'd'].isPrefixOf (f.indent ++ f.protocol.before rest) =
      false := by
    by_contra hprefix
    have hhead : (f.indent ++ f.protocol.before rest).head? = some 'N' := by
      obtain ⟨more, hmore⟩ := List.isPrefixOf_iff_prefix.1 (Bool.not_eq_false _ ▸ hprefix)
      rw [← hmore]
      rfl
    rcases hi : f.indent with _ | ⟨d, indent⟩
    · obtain ⟨d, word, hword⟩ := List.exists_cons_of_ne_nil f.protocol.word_ne_nil
      rw [hi, Cell.before, hword] at hhead
      cases hhead
      simp [hword, transport?_header] at h
    · rw [hi] at hhead
      cases hhead
      exact absurd (f.indent_blank 'N' (by simp [hi])) (by decide)
  rw [isSkipped, hblank, hheader]
  rfl

theorem Front.transport?_isSome (h : f.socket? = some make) :
    (transport? f.protocol.word).isSome := by
  unfold Front.socket? at h
  split at h
  · simp_all
  · simp_all
  · cases h

theorem isSkipped_line (h : f.socket? = some make) (users : List Char) :
    isSkipped (f.line users) = false :=
  isSkipped_before f (Front.transport?_isSome h) _

/-! ## Lines without processes -/

/-- The columns up to the peer. -/
def Front.words (f : Front) : List Char :=
  f.protocol.before (f.state.before (f.received.before (f.sent.before
    (f.localEnd.before f.peerEnd.word))))

/-- A line that ends behind the peer, perhaps with blanks. -/
def Front.bare (f : Front) (ending : List Char) : List Char := f.indent ++ (f.words ++ ending)

theorem Cell.starts_word (x : Cell) : Starts x.word := by
  obtain ⟨c, word, hword⟩ := List.exists_cons_of_ne_nil x.word_ne_nil
  exact ⟨c, word, hword, x.word_nonblank c (by simp [hword])⟩

theorem Cell.column_word (x : Cell) : column x.word = (x.word, []) := by
  have hword : ∀ c ∈ x.word, (!Text.isBlank c) = true := by
    intro c hc
    simp [x.word_nonblank c hc]
  rw [column, List.takeWhile_eq_self_iff.2 hword, List.dropWhile_eq_nil_iff.2 hword]
  rfl

theorem Front.trimEnd_words (f : Front) : Text.trimEnd f.words = f.words := by
  have hword : Text.trimEnd f.peerEnd.word = f.peerEnd.word :=
    Text.trimEnd_eq_self fun c hc => f.peerEnd.word_nonblank c (List.mem_of_mem_getLast? hc)
  simp only [Front.words, Cell.trimEnd_before, Cell.starts, Cell.starts_word, hword]

variable {ending : List Char}

theorem Front.trim_bare (f : Front) (he : ∀ c ∈ ending, Text.isBlank c) :
    Text.trim (f.bare ending) = f.words := by
  have hwords : Starts f.words := f.protocol.starts _
  have hhead : ∀ c, (f.words ++ ending).head? = some c → Text.isBlank c = false := by
    obtain ⟨c, rest, hcells, hc⟩ := hwords
    intro d hd
    rw [hcells] at hd
    cases hd
    exact hc
  rw [Front.bare, Text.trim_append f.indent_blank hhead, Text.trimEnd_append_blanks he,
    f.trimEnd_words]

theorem Front.inLine_bare (f : Front) (he : Text.InLine ending) : Text.InLine (f.bare ending) := by
  refine Text.inLine_append_iff.2 ⟨f.indent_inLine, Text.inLine_append_iff.2 ⟨?_, he⟩⟩
  rw [Front.words]
  repeat apply Cell.inLine_before
  exact .of_nonblank f.peerEnd.word_nonblank

theorem Front.columns?_bare (f : Front) (he : ∀ c ∈ ending, Text.isBlank c) :
    columns? (f.bare ending) = some ⟨f.protocol.word, f.state.word, f.localEnd.word,
      f.peerEnd.word, []⟩ := by
  have hne : ∀ x : Cell, x.word.isEmpty = false := fun x => by simp [x.word_ne_nil]
  simp [columns?, f.trim_bare he, Front.words, Cell.column_before, Cell.column_word, Cell.starts,
    Cell.starts_word, hne]

theorem parseLine_bare (h : f.socket? = some make) (he : ∀ c ∈ ending, Text.isBlank c) :
    parseLine (f.bare ending) = .ok (some (make [])) := by
  have hnone : parsePids [] = .ok [] := by
    simp only [parsePids, pidNumerals]
    rfl
  simp only [Front.socket?] at h
  simp only [parseLine, f.columns?_bare he, hnone]
  generalize transport? f.protocol.word = transport at h ⊢
  generalize parseEnd f.localEnd.word = localEnd at h ⊢
  generalize parseEnd f.peerEnd.word = peerEnd at h ⊢
  split at h <;> cases h <;> rfl

theorem isSkipped_bare (h : f.socket? = some make) (ending : List Char) :
    isSkipped (f.bare ending) = false := by
  have hsplit : f.bare ending = f.indent ++ f.protocol.before (f.state.before (f.received.before
      (f.sent.before (f.localEnd.before (f.peerEnd.word ++ ending))))) := by
    simp [Front.bare, Front.words, Cell.before]
  rw [hsplit]
  exact isSkipped_before f (Front.transport?_isSome h) _

/-! ## Listings that start with a socket -/

theorem parseOutput_single (h : f.socket? = some make) (hu : Starts users)
    (hlf : '\n' ∉ Text.trimEnd users) (hs : Text.splitLines output = [f.line users])
    {pids : List Int} (hp : parsePids (Text.trimEnd users) = .ok pids) :
    parseOutput output = .ok [make pids] := by
  have hline : parseLine (f.line users) = .ok (some (make pids)) := by
    rw [parseLine_line h hu hlf, hp]
    rfl
  simp only [parseOutput, hs, List.filter_cons, isSkipped_line h, Bool.not_false, ↓reduceIte,
    List.filter_nil, List.mapM_cons, hline]
  rfl

/-- If a listing that starts with a socket is read, then the owners of the first socket are those
that the rest of its line names, whatever lines follow. -/
theorem parseOutput_first (h : f.socket? = some make) (hu : Starts users)
    (hlf : '\n' ∉ Text.trimEnd users) {rest : List (List Char)}
    (hs : Text.splitLines output = f.line users :: rest) {sockets : List Socket}
    (ho : parseOutput output = .ok sockets) :
    ∃ pids more, parsePids (Text.trimEnd users) = .ok pids ∧ sockets = make pids :: more := by
  simp only [parseOutput, hs, List.filter_cons, isSkipped_line h, Bool.not_false, ↓reduceIte,
    List.mapM_cons, parseLine_line h hu hlf] at ho
  cases hp : parsePids (Text.trimEnd users) with
  | error e => rw [hp] at ho; cases ho
  | ok pids =>
      rw [hp] at ho
      cases hm : (rest.filter (!isSkipped ·)).mapM parseLine with
      | error e => rw [hm] at ho; cases ho
      | ok found =>
          rw [hm] at ho
          cases ho
          exact ⟨pids, found.filterMap id, rfl, rfl⟩

end SocketInventory.Listing
