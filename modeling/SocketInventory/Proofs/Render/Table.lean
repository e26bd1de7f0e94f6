import SocketInventory.Proofs.Inventory.WellFormed
import SocketInventory.Proofs.Render.Ends

/-!
# Tables are read back

Cut at its line feeds and at the columns of its headings, a table gives back the cells of its
records. Where all of its cells are there, nothing but a line feed in a cell that is shown keeps it
from doing so, and of the records of an inventory only the name of a process can hold one.
-/

namespace SocketInventory

/-- No cell of the record that is shown holds a line feed. -/
structure Record.OneLine (r : Record) : Prop where
  protocol : '\n' ∉ r.protocol.toList
  localAddress : ∀ text ∈ r.localEnd.address, '\n' ∉ text.toList
  remoteAddress : ∀ text ∈ r.remoteEnd.address, '\n' ∉ text.toList
  state : '\n' ∉ r.state.toList
  processName : '\n' ∉ Text.trimEnd (r.processName.getD "").toList

/-- In an inventory the name of a process alone can break the line of its record. -/
theorem Record.WellFormed.oneLine_iff {cfg : Config} {r : Record} (h : r.WellFormed cfg) :
    r.OneLine ↔ '\n' ∉ Text.trimEnd (r.processName.getD "").toList := by
  have haddress : ∀ {text : String} {a : Address}, ShowsAddress text a → '\n' ∉ text.toList := by
    intro text a ha
    rw [ha.canonical, Address.text, String.toList_ofList]
    exact Address.notMem_chars ha.zone (by decide) (by decide) (by decide)
  obtain ⟨k, hk, -⟩ := h.protocol
  refine ⟨Record.OneLine.processName, fun hname => ⟨?_, ?_, ?_, ?_, hname⟩⟩
  · have hnames : ∀ p ∈ protocols, '\n' ∉ p.1.toList := by decide
    exact hnames _ hk
  · intro text htext
    obtain ⟨a, ha, -⟩ := h.localAddress text htext
    exact haddress ha
  · intro text htext
    obtain ⟨a, ha⟩ := h.remoteAddress text htext
    exact haddress ha
  · have hkinds : ∀ p ∈ protocols, p.1 ∈ ["udp", "udp6"] ∨ p.1 ∈ ["tcp", "tcp6"] := by decide
    rcases hkinds _ hk with hudp | htcp
    · rw [(h.udp hudp).2]
      decide
    · have hstates : ∀ text ∈ TcpState.all.map TcpState.text, '\n' ∉ text.toList := by
        decide +kernel
      exact hstates _ (h.tcp htcp).2

namespace Render

open Text (trimEnd isBlank)

/-! ## Columns -/

/-- The columns where cells of these widths start, two blanks apart. -/
def startsFrom (start : Nat) : List Nat → List Nat
  | [] => []
  | w :: ws => start :: startsFrom (start + w + 2) ws

/-- The pieces of a line that start at columns, each of them up to the next. -/
def cut (line : List Char) : List Nat → List (List Char)
  | [] => []
  | [start] => [line.drop start]
  | start :: stop :: columns => (line.take stop).drop start :: cut line (stop :: columns)

theorem cut_append (before first after : List Char) (columns : List Nat) :
    cut (before ++ first ++ after) (before.length :: (before ++ first).length :: columns) =
      first :: cut (before ++ first ++ after) ((before ++ first).length :: columns) := by
  rw [cut, List.take_left, List.drop_left]

theorem length_startsFrom (start : Nat) (ws : List Nat) :
    (startsFrom start ws).length = ws.length := by
  induction ws generalizing start with
  | nil => rfl
  | cons w ws ih => rw [startsFrom, List.length_cons, ih, List.length_cons]

theorem pairwise_startsFrom (start : Nat) (ws : List Nat) :
    (startsFrom start ws).Pairwise (· < ·) := by
  have hfrom : ∀ ws start, ∀ c ∈ startsFrom start ws, start ≤ c := by
    intro ws
    induction ws with
    | nil => simp [startsFrom]
    | cons w ws ih =>
        intro start c hc
        rcases List.mem_cons.1 hc with rfl | hc
        · exact le_rfl
        · have := ih _ c hc
          omega
  induction ws generalizing start with
  | nil => exact .nil
  | cons w ws ih =>
      refine .cons (fun c hc => ?_) (ih _)
      have := hfrom ws _ c hc
      omega

/-- Blanks at the end of a line make no difference to its trimmed pieces. -/
theorem map_trimEnd_cut_append {after : List Char} (ha : ∀ c ∈ after, isBlank c)
    (line : List Char) (columns : List Nat) :
    (cut (line ++ after) columns).map trimEnd = (cut line columns).map trimEnd := by
  induction columns using cut.induct with
  | case1 => rfl
  | case2 start =>
      have hdrop : ∀ c ∈ after.drop (start - line.length), isBlank c :=
        fun c hc => ha c (List.mem_of_mem_drop hc)
      simp only [cut, List.drop_append, List.map_cons, List.map_nil,
        Text.trimEnd_append_blanks hdrop]
  | case3 start stop columns ih =>
      have hdrop : ∀ c ∈ (after.take (stop - line.length)).drop (start - (line.take stop).length),
          isBlank c :=
        fun c hc => ha c (List.mem_of_mem_take (List.mem_of_mem_drop hc))
      simp only [cut, List.map_cons, List.take_append, List.drop_append,
        Text.trimEnd_append_blanks hdrop]
      rw [ih]

theorem map_trimEnd_cut_trimEnd (line : List Char) (columns : List Nat) :
    (cut (trimEnd line) columns).map trimEnd = (cut line columns).map trimEnd := by
  obtain ⟨after, hline, ha⟩ := Text.exists_trimEnd line
  conv_rhs => rw [hline]
  exact (map_trimEnd_cut_append ha _ columns).symm

/-! ## Cells -/

theorem isBlank_of_mem_replicate {n : Nat} : ∀ c ∈ List.replicate n ' ', isBlank c := by
  intro c hc
  rw [(List.mem_replicate.1 hc).2]
  decide

theorem trimEnd_padded (w : Nat) (cell : String) : trimEnd (padded w cell) = trimEnd cell.toList :=
  Text.trimEnd_append_blanks isBlank_of_mem_replicate _

/-- The widths hold the cells of a row. -/
def Covers (ws : List Nat) (row : List String) : Prop :=
  List.Forall₂ (fun w cell => cell.length ≤ w) ws row

theorem length_padded {w : Nat} {cell : String} (h : cell.length ≤ w) :
    (padded w cell).length = w := by
  rw [padded, List.length_append, List.length_replicate, String.length_toList]
  omega

/-- Padded cells are found behind any text at the columns that their widths give. -/
theorem map_trimEnd_cut_join {ws : List Nat} {row : List String} (h : Covers ws row)
    (before : List Char) :
    (cut (before ++ [' ', ' '].intercalate (List.zipWith padded ws row))
      (startsFrom before.length ws)).map trimEnd = row.map fun cell => trimEnd cell.toList := by
  induction h generalizing before with
  | nil => rfl
  | @cons w cell ws row hcell hrow ih =>
      cases hrow with
      | nil => simp [startsFrom, cut, trimEnd_padded]
      | @cons w' cell' ws row _ _ =>
          have hjoin : before ++ [' ', ' '].intercalate
              (List.zipWith padded (w :: w' :: ws) (cell :: cell' :: row)) =
              before ++ (padded w cell ++ [' ', ' ']) ++
                [' ', ' '].intercalate (List.zipWith padded (w' :: ws) (cell' :: row)) := by
            simp only [List.zipWith_cons_cons, Text.intercalate_cons_cons, List.append_assoc]
          have hstop : before.length + w + 2 =
              (before ++ (padded w cell ++ [' ', ' '])).length := by
            simp only [List.length_append, length_padded hcell, List.length_cons, List.length_nil,
              Nat.add_assoc]
          have hfirst : trimEnd (padded w cell ++ [' ', ' ']) = trimEnd cell.toList := by
            rw [Text.trimEnd_append_blanks (by decide), trimEnd_padded]
          rw [hjoin, startsFrom, hstop, startsFrom, cut_append, ← startsFrom, List.map_cons, ih,
            hfirst]
          rfl

theorem map_trimEnd_cut_line {ws : List Nat} {row : List String} (h : Covers ws row) :
    (cut (line ws row).toList (startsFrom 0 ws)).map trimEnd =
      row.map fun cell => trimEnd cell.toList := by
  rw [line, String.toList_ofList, map_trimEnd_cut_trimEnd]
  exact map_trimEnd_cut_join h []

/-! ## Widths -/

/-- The row of the widest cells covers what a row of widths or a row of cells covers. -/
theorem Covers.zipWith_max {ws : List Nat} {row : List String} (h : Covers ws row)
    {other : List Nat} (hlength : other.length = ws.length) :
    Covers (List.zipWith max ws other) row := by
  induction h generalizing other with
  | nil => exact .nil
  | cons hcell _ ih =>
      obtain ⟨n, other, rfl⟩ := List.exists_cons_of_length_eq_add_one hlength
      exact .cons (hcell.trans (le_max_left _ _)) (ih (by simpa using hlength))

theorem covers_zipWith_max {ws : List Nat} {row : List String} (hlength : ws.length = row.length) :
    Covers (List.zipWith max ws (row.map String.length)) row := by
  induction row generalizing ws with
  | nil =>
      rw [List.map_nil, List.zipWith_nil_right]
      exact .nil
  | cons cell row ih =>
      obtain ⟨w, ws, rfl⟩ := List.exists_cons_of_length_eq_add_one hlength
      exact .cons (le_max_right _ _) (ih (by simpa using hlength))

theorem covers_foldl {n : Nat} {rows : List (List String)} (hrows : ∀ row ∈ rows, row.length = n)
    {ws : List Nat} (hws : ws.length = n) {row : List String} (h : Covers ws row ∨ row ∈ rows) :
    Covers (rows.foldl (fun ws row => List.zipWith max ws (row.map String.length)) ws) row := by
  induction rows generalizing ws with
  | nil => simpa using h
  | cons first rows ih =>
      obtain ⟨hfirst, hrows⟩ := List.forall_mem_cons.1 hrows
      refine ih hrows (by simp [hws, hfirst]) ?_
      rcases h with h | h
      · exact .inl (h.zipWith_max (by simp [hws, hfirst]))
      · rcases List.mem_cons.1 h with rfl | h
        · exact .inl (covers_zipWith_max (hws.trans hfirst.symm))
        · exact .inr h

theorem covers_widths {rows : List (List String)}
    (hrows : ∀ row ∈ rows, row.length = headings.length) {row : List String} (h : row ∈ rows) :
    Covers (widths rows) row :=
  covers_foldl hrows (List.length_map _) (.inr h)

/-! ## Line feeds -/

theorem lineFeed_mem_padded_iff {w : Nat} {cell : String} :
    '\n' ∈ padded w cell ↔ '\n' ∈ cell.toList := by
  rw [padded, List.mem_append, or_iff_left]
  intro h
  exact absurd (List.eq_of_mem_replicate h) (by decide)

/-- Behind a text without line feeds, one is left by trimming if it is left without that text. -/
theorem lineFeed_mem_trimEnd_append_iff {before : List Char} (hb : '\n' ∉ before) (s : List Char) :
    '\n' ∈ trimEnd (before ++ s) ↔ '\n' ∈ trimEnd s := by
  by_cases hs : ∃ c ∈ s, isBlank c = false
  · rw [Text.trimEnd_append hs, List.mem_append, or_iff_right hb]
  · have hblank : ∀ c ∈ s, isBlank c := by simpa using hs
    have hnil : trimEnd s = [] := Text.trimEnd_append_blanks hblank []
    rw [Text.trimEnd_append_blanks hblank, hnil]
    exact iff_of_false (fun h => hb (Text.mem_of_mem_trimEnd h)) List.not_mem_nil

/-- A row is shown with a line feed if one of the cells in front of the process number holds one,
or the last cell where it is not trimmed. -/
theorem lineFeed_mem_line_iff {ws : List Nat} (hws : ws.length = headings.length)
    (protocol localText remoteText state name : String) {pid : String}
    (hpid : ∃ c ∈ pid.toList, isBlank c = false) (hlf : '\n' ∉ pid.toList) :
    '\n' ∈ (line ws [protocol, localText, remoteText, state, pid, name]).toList ↔
      (∃ cell ∈ [protocol, localText, remoteText, state], '\n' ∈ cell.toList) ∨
        '\n' ∈ trimEnd name.toList := by
  match ws, hws with
  | [w₁, w₂, w₃, w₄, w₅, w₆], _ =>
      let front := padded w₁ protocol ++ [' ', ' '] ++ (padded w₂ localText ++ [' ', ' ']) ++
        (padded w₃ remoteText ++ [' ', ' ']) ++ (padded w₄ state ++ [' ', ' '])
      let number := padded w₅ pid ++ [' ', ' ']
      have hjoin : [' ', ' '].intercalate (List.zipWith padded [w₁, w₂, w₃, w₄, w₅, w₆]
          [protocol, localText, remoteText, state, pid, name]) =
          front ++ (number ++ name.toList) ++ List.replicate (w₆ - name.length) ' ' := by
        simp [front, number, padded]
      have hfront : '\n' ∈ front ↔
          ∃ cell ∈ [protocol, localText, remoteText, state], '\n' ∈ cell.toList := by
        simp [front, lineFeed_mem_padded_iff]
      have hnumber : '\n' ∉ number := by
        simpa [number, lineFeed_mem_padded_iff] using hlf
      have hnonblank : ∃ c ∈ number ++ name.toList, isBlank c = false := by
        obtain ⟨c, hc, hblank⟩ := hpid
        exact ⟨c, by simp [number, padded, hc], hblank⟩
      rw [line, String.toList_ofList, hjoin, Text.trimEnd_append_blanks isBlank_of_mem_replicate,
        Text.trimEnd_append hnonblank, List.mem_append, hfront,
        lineFeed_mem_trimEnd_append_iff hnumber]

/-! ## Records -/

theorem lineFeed_mem_hostText_iff (address : Option String) (v6 : Bool) :
    '\n' ∈ (hostText address v6).toList ↔ ∃ text ∈ address, '\n' ∈ text.toList := by
  have hbrackets : ∀ host : String,
      '\n' ∈ (if host.toList.contains ':' then "[" ++ host ++ "]" else host).toList ↔
        '\n' ∈ host.toList := by
    intro host
    split <;> simp
  have hunspecified : '\n' ∉ (if v6 then "::" else "0.0.0.0").toList := by
    revert v6
    decide
  rw [hostText, hbrackets]
  rcases address with _ | text
  · exact iff_of_false hunspecified (by simp)
  · by_cases hempty : text = ""
    · subst hempty
      exact iff_of_false hunspecified (by simp)
    · simp [Option.filter, hempty]

theorem lineFeed_notMem_integerChars (n : Int) : '\n' ∉ Text.integerChars n := by
  intro h
  rcases Text.mem_integerChars h with h | h <;> exact absurd h (by decide)

theorem lineFeed_mem_endChars_iff (e : Endpoint) (v6 : Bool) :
    '\n' ∈ (endChars e v6).toList ↔ ∃ text ∈ e.address, '\n' ∈ text.toList := by
  have hport : '\n' ∉ (portChars e.port).toList := by
    cases e.port with
    | none => decide
    | some n =>
        rw [portChars, Text.integerText, String.toList_ofList]
        exact lineFeed_notMem_integerChars n
  rw [endChars]
  split
  · rename_i h
    rw [Bool.and_eq_true, Option.isNone_iff_eq_none] at h
    exact iff_of_false (by decide) (by simp [h.1])
  · simp only [String.toList_append, List.mem_append, lineFeed_mem_hostText_iff, hport, or_false]
    exact or_iff_left (by decide)

/-- A row holds the cells of a record, its name behind the others. -/
def IsRow (r : Record) (row : List String) : Prop :=
  ∃ front name, cells r = .ok front ∧ nameCell r = .ok name ∧ row = front ++ [name]

def frontCells (r : Record) : List String :=
  let v6 := r.protocol.toList.getLast? = some '6'
  [r.protocol, endChars r.localEnd v6, endChars r.remoteEnd v6, r.state, Text.integerText r.pid]

variable {r : Record}

theorem cells_eq_ok_iff {front : List String} :
    cells r = .ok front ↔ r.Shown ∧ front = frontCells r := by
  constructor
  · intro h
    obtain ⟨_, hlocal, h⟩ := exists_of_bind_ok h
    obtain ⟨_, hremote, h⟩ := exists_of_bind_ok h
    obtain ⟨_, hpid, h⟩ := exists_of_bind_ok h
    cases h
    obtain ⟨hlocalPort, rfl⟩ := endText_eq_ok_iff.1 hlocal
    obtain ⟨hremotePort, rfl⟩ := endText_eq_ok_iff.1 hremote
    obtain ⟨hnumber, rfl⟩ := shownInteger_eq_ok_iff.1 hpid
    exact ⟨⟨hnumber, hlocalPort, hremotePort⟩, rfl⟩
  · rintro ⟨hr, rfl⟩
    rw [cells, endText_eq_ok_iff.2 ⟨hr.localPort, rfl⟩, endText_eq_ok_iff.2 ⟨hr.remotePort, rfl⟩,
      shownInteger_eq_ok_iff.2 ⟨hr.pid, rfl⟩]
    rfl

theorem nameCell_eq_ok_iff {name : String} : nameCell r = .ok name ↔ r.processName = some name := by
  rw [nameCell]
  cases r.processName <;> simp

theorem isRow_iff {row : List String} : IsRow r row ↔
    r.Shown ∧ ∃ name, r.processName = some name ∧ row = frontCells r ++ [name] := by
  simp only [IsRow, cells_eq_ok_iff, nameCell_eq_ok_iff]
  constructor
  · rintro ⟨_, name, ⟨hr, rfl⟩, hname, rfl⟩
    exact ⟨hr, name, hname, rfl⟩
  · rintro ⟨hr, name, hname, rfl⟩
    exact ⟨_, name, ⟨hr, rfl⟩, hname, rfl⟩

theorem IsRow.length_eq {row : List String} (h : IsRow r row) : row.length = headings.length := by
  obtain ⟨-, name, -, rfl⟩ := isRow_iff.1 h
  rfl

theorem IsRow.lineFeed_notMem_line_iff {row : List String} (h : IsRow r row) {ws : List Nat}
    (hws : ws.length = headings.length) : '\n' ∉ (line ws row).toList ↔ r.OneLine := by
  obtain ⟨-, name, hname, rfl⟩ := isRow_iff.1 h
  have hpid : ∃ c ∈ (Text.integerText r.pid).toList, isBlank c = false := by
    rw [Text.integerText, String.toList_ofList]
    obtain ⟨c, hc, hdigit⟩ := Text.exists_digit_integerChars r.pid
    exact ⟨c, hc, Text.not_isBlank_isDigit hdigit⟩
  have hlf : '\n' ∉ (Text.integerText r.pid).toList := by
    rw [Text.integerText, String.toList_ofList]
    exact lineFeed_notMem_integerChars r.pid
  have hline := lineFeed_mem_line_iff hws r.protocol
    (endChars r.localEnd (r.protocol.toList.getLast? = some '6'))
    (endChars r.remoteEnd (r.protocol.toList.getLast? = some '6')) r.state name hpid hlf
  rw [frontCells, List.cons_append, List.cons_append, List.cons_append, List.cons_append,
    List.cons_append, List.nil_append, hline]
  simp only [List.exists_mem_cons_iff, lineFeed_mem_endChars_iff, List.not_mem_nil, false_and,
    exists_false, or_false, not_or, not_exists, not_and]
  constructor
  · rintro ⟨⟨hprotocol, hlocal, hremote, hstate⟩, hlast⟩
    exact ⟨hprotocol, hlocal, hremote, hstate, by rwa [hname]⟩
  · intro hr
    refine ⟨⟨hr.protocol, hr.localAddress, hr.remoteAddress, hr.state⟩, ?_⟩
    simpa [hname] using hr.processName

theorem lineFeed_notMem_line_headings {ws : List Nat} (hws : ws.length = headings.length) :
    '\n' ∉ (line ws headings).toList := by
  have hpid : ∃ c ∈ "PID".toList, isBlank c = false := ⟨'P', by decide, by decide⟩
  rw [headings, lineFeed_mem_line_iff hws _ _ _ _ _ hpid (by decide)]
  decide +kernel

/-! ## Rows -/

variable {records : List Record} {shown : List (List String)}

theorem isRow_zipWith {fronts : List (List String)} {names : List String}
    (hfronts : records.mapM cells = .ok fronts) (hnames : records.mapM nameCell = .ok names) :
    List.Forall₂ IsRow records (fronts.zipWith (fun row name => row ++ [name]) names) := by
  induction records generalizing fronts names with
  | nil =>
      cases hfronts
      exact .nil
  | cons r records ih =>
      obtain ⟨front, _, hfront, hrest, rfl⟩ := mapM_cons_ok.1 hfronts
      obtain ⟨name, _, hname, hlast, rfl⟩ := mapM_cons_ok.1 hnames
      exact .cons ⟨front, name, hfront, hname, rfl⟩ (ih hrest hlast)

theorem exists_zipWith_of_isRow (h : List.Forall₂ IsRow records shown) :
    ∃ fronts names, records.mapM cells = .ok fronts ∧ records.mapM nameCell = .ok names ∧
      shown = fronts.zipWith (fun row name => row ++ [name]) names := by
  induction h with
  | nil => exact ⟨[], [], rfl, rfl, rfl⟩
  | cons hrow _ ih =>
      obtain ⟨front, name, hfront, hname, rfl⟩ := hrow
      obtain ⟨fronts, names, hfronts, hnames, rfl⟩ := ih
      exact ⟨front :: fronts, name :: names, mapM_cons_ok.2 ⟨_, _, hfront, hfronts, rfl⟩,
        mapM_cons_ok.2 ⟨_, _, hname, hnames, rfl⟩, rfl⟩

/-- The rows of records are the cells of each of them, in their order. -/
theorem rows_eq_ok_iff : rows records = .ok shown ↔ List.Forall₂ IsRow records shown := by
  constructor
  · intro h
    obtain ⟨fronts, hfronts, h⟩ := exists_of_bind_ok h
    obtain ⟨names, hnames, h⟩ := exists_of_bind_ok h
    obtain rfl := Except.ok.inj h
    exact isRow_zipWith hfronts hnames
  · intro h
    obtain ⟨fronts, names, hfronts, hnames, rfl⟩ := exists_zipWith_of_isRow h
    rw [rows, hfronts]
    simp only [bind, Except.bind, hnames]
    rfl

theorem length_of_mem_rows (h : List.Forall₂ IsRow records shown) :
    ∀ row ∈ headings :: shown, row.length = headings.length := by
  have hrows : ∀ row ∈ shown, row.length = headings.length := by
    induction h with
    | nil => simp
    | cons hr _ ih => exact List.forall_mem_cons.2 ⟨hr.length_eq, ih⟩
  exact List.forall_mem_cons.2 ⟨rfl, hrows⟩

theorem exists_rows (h : ∀ r ∈ records, r.Shown ∧ r.processName.isSome) :
    ∃ shown, List.Forall₂ IsRow records shown := by
  induction records with
  | nil => exact ⟨[], .nil⟩
  | cons r records ih =>
      obtain ⟨⟨hr, hname⟩, hrs⟩ := List.forall_mem_cons.1 h
      obtain ⟨name, hname⟩ := Option.isSome_iff_exists.1 hname
      obtain ⟨shown, hshown⟩ := ih hrs
      exact ⟨_ :: shown, .cons (isRow_iff.2 ⟨hr, name, hname, rfl⟩) hshown⟩

/-! ## Cells that are not there -/

theorem cells_error (h : ¬ r.Shown) : cells r = .error (.data .integerLength) := by
  by_cases hlocal : ∀ n, r.localEnd.port = some n → (Query.Content.number n).Shown
  · by_cases hremote : ∀ n, r.remoteEnd.port = some n → (Query.Content.number n).Shown
    · have hpid : shownInteger r.pid = .error (.data .integerLength) :=
        @Query.Content.shown_error (.number r.pid) fun hpid => h ⟨hpid, hlocal, hremote⟩
      rw [cells, endText_eq_ok_iff.2 ⟨hlocal, rfl⟩, endText_eq_ok_iff.2 ⟨hremote, rfl⟩, hpid]
      rfl
    · rw [cells, endText_eq_ok_iff.2 ⟨hlocal, rfl⟩, endText_error hremote]
      rfl
  · rw [cells, endText_error hlocal]
    rfl

theorem mapM_cells_error (h : ∃ r ∈ records, ¬ r.Shown) :
    records.mapM cells = .error (.data .integerLength) := by
  obtain ⟨r, hr, hshown⟩ := h
  refine mapM_error_of_mem (fun r' e he => ?_) hr (cells_error hshown)
  by_cases hr' : r'.Shown
  · cases (cells_eq_ok_iff.2 ⟨hr', rfl⟩).symm.trans he
  · exact Except.error.inj (he.symm.trans (cells_error hr'))

theorem mapM_nameCell_error (h : ∃ r ∈ records, r.processName = none) :
    records.mapM nameCell = .error .nameless := by
  obtain ⟨r, hr, hname⟩ := h
  refine mapM_error_of_mem (fun r' e he => ?_) hr (by rw [nameCell, hname])
  rw [nameCell] at he
  split at he
  · cases he
  · exact (Except.error.inj he).symm

/-! ## Tables -/

/-- Cut at line feeds, a text is the headings and one line for each record in the order of the
records. In all lines the cells start at the same columns; cut there and trimmed, they are the
cells of the record. -/
def Tabular (records : List Record) (text : String) : Prop :=
  ∃ (columns : List Nat) (shown : List (List String)),
    columns.length = headings.length ∧ columns.head? = some 0 ∧ columns.Pairwise (· < ·) ∧
    List.Forall₂ IsRow records shown ∧
    List.Forall₂
      (fun line row => (cut line columns).map trimEnd = row.map fun cell => trimEnd cell.toList)
      (Text.splitAt '\n' text.toList) (headings :: shown)

/-- The lines of a table as they are joined. -/
def lineTexts (shown : List (List String)) : List (List Char) :=
  (headings :: shown).map fun row => (line (widths (headings :: shown)) row).toList

theorem lineTexts_ne_nil : lineTexts shown ≠ [] := List.cons_ne_nil _ _

theorem length_widths_rows (h : List.Forall₂ IsRow records shown) :
    (widths (headings :: shown)).length = headings.length :=
  (covers_widths (length_of_mem_rows h) List.mem_cons_self).length_eq

theorem exists_table (h : List.Forall₂ IsRow records shown) :
    ∃ text, table records = .ok text ∧ text.toList = ['\n'].intercalate (lineTexts shown) := by
  refine ⟨"\n".intercalate (lines shown), ?_, ?_⟩
  · rw [table, rows_eq_ok_iff.2 h]
    rfl
  · rw [String.toList_intercalate, lines, List.map_map]
    rfl

theorem lineFeed_notMem_lineTexts_iff (h : List.Forall₂ IsRow records shown) :
    (∀ text ∈ lineTexts shown, '\n' ∉ text) ↔ ∀ r ∈ records, r.OneLine := by
  have hrows : ∀ {ws : List Nat}, ws.length = headings.length →
      ((∀ row ∈ shown, '\n' ∉ (line ws row).toList) ↔ ∀ r ∈ records, r.OneLine) := by
    intro ws hws
    induction h with
    | nil => simp
    | cons hrow _ ih => simp only [List.forall_mem_cons, hrow.lineFeed_notMem_line_iff hws, ih]
  have hws := length_widths_rows h
  simp only [lineTexts, List.map_cons, List.forall_mem_cons, List.forall_mem_map,
    lineFeed_notMem_line_headings hws, hrows hws, not_false_eq_true, true_and]

/-- A line feed that is shown makes one line too many. -/
theorem Tabular.oneLine {text : String} (ht : table records = .ok text)
    (h : Tabular records text) : ∀ r ∈ records, r.OneLine := by
  obtain ⟨_, shown, -, -, -, hrows, hlines⟩ := h
  obtain ⟨text', ht', htext⟩ := exists_table hrows
  cases ht.symm.trans ht'
  have hlength : (Text.splitAt '\n' (['\n'].intercalate (lineTexts shown))).length =
      (lineTexts shown).length := by
    rw [← htext, hlines.length_eq, lineTexts, List.length_map]
  rw [← lineFeed_notMem_lineTexts_iff hrows]
  exact Text.notMem_of_length_splitAt lineTexts_ne_nil hlength

theorem tabular_of_oneLine (hrows : List.Forall₂ IsRow records shown)
    (h : ∀ r ∈ records, r.OneLine) {text : String}
    (htext : text.toList = ['\n'].intercalate (lineTexts shown)) : Tabular records text := by
  have hlines : Text.splitAt '\n' text.toList = lineTexts shown := by
    rw [htext]
    exact Text.splitAt_intercalate lineTexts_ne_nil ((lineFeed_notMem_lineTexts_iff hrows).2 h)
  have hwidths := length_widths_rows hrows
  refine ⟨startsFrom 0 (widths (headings :: shown)), shown,
    (length_startsFrom 0 _).trans hwidths, ?_, pairwise_startsFrom _ _, hrows, ?_⟩
  · obtain ⟨w, ws, hws⟩ := List.exists_cons_of_length_eq_add_one hwidths
    rw [hws]
    rfl
  · rw [hlines, lineTexts, List.forall₂_map_left_iff, List.forall₂_same]
    intro row hrow
    exact map_trimEnd_cut_line (covers_widths (length_of_mem_rows hrows) hrow)

/-- Records are shown in a table that gives back its headings and their cells, one line for each,
just if no integer of theirs is too long, all their processes have names, and none of them shows a
line feed. An integer that is too long is met before a name that is missing. -/
theorem tabular_table_iff (records : List Record) :
    ((∃ text, table records = .ok text ∧ Tabular records text) ↔
      ∀ r ∈ records, r.Shown ∧ r.processName.isSome ∧ r.OneLine) ∧
    ((∃ text, table records = .ok text) ↔ ∀ r ∈ records, r.Shown ∧ r.processName.isSome) ∧
    ((∃ r ∈ records, ¬ r.Shown) → table records = .error (.data .integerLength)) ∧
    ((∀ r ∈ records, r.Shown) → (∃ r ∈ records, r.processName = none) →
      table records = .error .nameless) := by
  have hlong : (∃ r ∈ records, ¬ r.Shown) → table records = .error (.data .integerLength) := by
    intro h
    rw [table, rows, mapM_cells_error h]
    rfl
  have hnameless : (∀ r ∈ records, r.Shown) → (∃ r ∈ records, r.processName = none) →
      table records = .error .nameless := by
    intro h hname
    obtain ⟨fronts, hfronts⟩ := exists_mapM_ok fun r hr => ⟨_, cells_eq_ok_iff.2 ⟨h r hr, rfl⟩⟩
    rw [table, rows, hfronts]
    simp only [bind, Except.bind, mapM_nameCell_error hname]
  have hok : ∀ {text}, table records = .ok text →
      ∀ r ∈ records, r.Shown ∧ r.processName.isSome := by
    intro text ht
    have hshown : ∀ r ∈ records, r.Shown := by
      by_contra h
      cases ht.symm.trans (hlong (by simpa using h))
    refine fun r hr => ⟨hshown r hr, ?_⟩
    by_contra hname
    cases ht.symm.trans (hnameless hshown ⟨r, hr, by simpa using hname⟩)
  refine ⟨⟨?_, fun h => ?_⟩, ⟨fun ⟨_, ht⟩ => hok ht, fun h => ?_⟩, hlong, hnameless⟩
  · rintro ⟨text, ht, htabular⟩ r hr
    exact ⟨(hok ht r hr).1, (hok ht r hr).2, htabular.oneLine ht r hr⟩
  · obtain ⟨shown, hrows⟩ := exists_rows fun r hr => ⟨(h r hr).1, (h r hr).2.1⟩
    obtain ⟨text, ht, htext⟩ := exists_table hrows
    exact ⟨text, ht, tabular_of_oneLine hrows (fun r hr => (h r hr).2.2) htext⟩
  · obtain ⟨shown, hrows⟩ := exists_rows h
    obtain ⟨text, ht, -⟩ := exists_table hrows
    exact ⟨text, ht⟩

def listener (port pid : Int) (name : String) : Record :=
  ⟨"tcp", ⟨none, some port⟩, ⟨none, some 0⟩, "LISTEN", pid, some name⟩

/-- A process forges the row of another one in its own name. -/
theorem table_forged :
    let name := "x\ntcp    0.0.0.0:443    0.0.0.0:0       LISTEN  1    init"
    (∃ text, table [listener 22 7 name] = .ok text ∧ ¬ Tabular [listener 22 7 name] text) ∧
      table [listener 22 7 name] = table [listener 22 7 "x", listener 443 1 "init"] := by
  intro name
  have hshown : (listener 22 7 name).Shown :=
    ⟨by decide, by rintro _ ⟨⟩; decide, by rintro _ ⟨⟩; decide⟩
  have hall : ∀ r ∈ [listener 22 7 name], r.Shown ∧ r.processName.isSome := by
    simpa using ⟨hshown, rfl⟩
  obtain ⟨shown, hrows⟩ := exists_rows hall
  obtain ⟨text, ht, -⟩ := exists_table hrows
  refine ⟨⟨text, ht, fun h => ?_⟩, ?_⟩
  swap
  · decide +kernel
  have hname := (h.oneLine ht _ (List.mem_singleton_self _)).processName
  exact absurd hname (by decide +kernel)

end Render

end SocketInventory
