import SocketInventory.Proofs.Source.Owners

/-!
# Attribution

A socket line that names the holders of its socket is read as that socket, held by them, exactly
as long as no name of a holder cuts the line or carries a number of its own.
-/

namespace SocketInventory.Listing

/-! ## The owners of a column -/

/-- Every number of a column is one of its owners. -/
theorem mem_parsePids {users w : List Char} {pids : List Int} (h : parsePids users = .ok pids)
    (hw : w ∈ pidNumerals users) : ∃ m, Text.parseMagnitude w = .ok m ∧ Int.ofNat m ∈ pids := by
  unfold parsePids at h
  cases hm : (pidNumerals users).mapM fun digits =>
      (Text.parseMagnitude digits).mapError (Error.badNumeral (String.ofList digits)) with
  | error e =>
      rw [hm] at h
      cases h
  | ok ns =>
      rw [hm] at h
      cases h
      obtain ⟨m, hmem, hread⟩ := mem_of_mapM_ok hm hw
      refine ⟨m, ?_, ?_⟩
      · cases hp : Text.parseMagnitude w with
        | error e => rw [hp] at hread; cases hread
        | ok k => rw [hp] at hread; cases hread; rfl
      · rw [distinct_eq_eraseDups, List.mem_eraseDups]
        exact List.mem_map_of_mem hmem

/-- A name that no reader of the column takes for more than a name. -/
structure Name.Harmless (n : Name) : Prop where
  inLine : Text.InLine n.chars
  unmarked : Unmarked n.chars

theorem parsePids_usersText {holders : List Holder} (h : ∀ x ∈ holders, Unmarked x.name.chars) :
    parsePids (usersText holders) = .ok (holders.map fun x => x.pid.value).eraseDups := by
  have hentries : ∀ e ∈ holders.map Holder.entry, Unmarked e.name := by
    intro e he
    obtain ⟨x, hx, rfl⟩ := List.mem_map.1 he
    exact h x hx
  rw [usersText_eq, parsePids_columnText hentries, List.map_map]
  rfl

/-! ## The line of a column -/

theorem starts_usersText (holders : List Holder) : Starts (usersText holders) :=
  usersText_eq holders ▸ starts_columnText _

theorem trimEnd_usersText (holders : List Holder) :
    Text.trimEnd (usersText holders) = usersText holders := by
  rw [usersText_eq, trimEnd_columnText]

theorem Holder.inLine_text {h : Holder} (hn : Text.InLine h.name.chars) : Text.InLine h.text :=
  Entry.inLine_text (e := h.entry) hn

theorem inLine_usersText {holders : List Holder} (h : ∀ x ∈ holders, Text.InLine x.name.chars) :
    Text.InLine (usersText holders) := by
  rw [usersText_eq]
  apply inLine_columnText
  intro e he
  obtain ⟨x, hx, rfl⟩ := List.mem_map.1 he
  exact h x hx

/-- The column up to a place in the name of a holder behind others. -/
def opening (holders : List Holder) (s : List Char) : List Char :=
  ['u', 's', 'e', 'r', 's', ':', '('] ++
    ((holders.flatMap fun h => h.text ++ [',']) ++ ['(', '"'] ++ s)

theorem inLine_opening {holders : List Holder} {s : List Char}
    (h : ∀ x ∈ holders, Text.InLine x.name.chars) (hs : Text.InLine s) :
    Text.InLine (opening holders s) := by
  have hbody : Text.InLine (holders.flatMap fun h => h.text ++ [',']) := by
    induction holders with
    | nil => decide
    | cons x holders ih =>
        rw [List.flatMap_cons, Text.inLine_append_iff, Text.inLine_append_iff]
        exact ⟨⟨Holder.inLine_text (h x (by simp)), by decide⟩, ih fun z hz => h z (by simp [hz])⟩
  simp only [opening, Text.inLine_append_iff]
  exact ⟨by decide, ⟨hbody, by decide⟩, hs⟩

theorem intercalate_first (h : Holder) (more : List Holder) :
    ∃ tail, [','].intercalate ((h :: more).map Holder.text) = h.text ++ tail := by
  rcases more with _ | ⟨g, more⟩
  · exact ⟨[], by simp⟩
  · exact ⟨_, Text.intercalate_cons_cons [','] h.text g.text (more.map Holder.text)⟩

theorem intercalate_behind (holders : List Holder) (h : Holder) (more : List Holder) :
    [','].intercalate ((holders ++ h :: more).map Holder.text) =
      (holders.flatMap fun h => h.text ++ [',']) ++
        [','].intercalate ((h :: more).map Holder.text) := by
  induction holders with
  | nil => rfl
  | cons x holders ih =>
      have hne : ∃ y ys, holders ++ h :: more = y :: ys := by
        rcases holders with _ | ⟨y, ys⟩
        · exact ⟨h, more, rfl⟩
        · exact ⟨y, ys ++ h :: more, rfl⟩
      obtain ⟨y, ys, hy⟩ := hne
      rw [List.cons_append, hy, List.map_cons, List.map_cons, Text.intercalate_cons_cons,
        ← List.map_cons, ← hy, ih]
      simp

theorem usersText_opening (holders : List Holder) (h : Holder) (more : List Holder)
    {s rest : List Char} (hn : h.name.chars = s ++ rest) :
    ∃ tail, usersText (holders ++ h :: more) = opening holders s ++ (rest ++ tail) := by
  obtain ⟨tail, hfirst⟩ := intercalate_first h more
  refine ⟨'"' :: h.numbers ++ tail ++ [')'], ?_⟩
  rw [usersText, intercalate_behind, hfirst, Holder.text, hn, opening]
  simp

/-! ## Attribution -/

/-- The listing is read as one socket with these holders, and the first of them is its owner. -/
def Attributed (output : List Char) (pids : List Int) : Prop :=
  ∃ s, parseOutput output = .ok [s] ∧ s.pids = pids.eraseDups ∧
    ∀ index, (Inventory.records false index s).map Record.pid = [pids.headD 0]

theorem map_pid_records {s : Socket} {pids : List Int} (h : s.pids = pids.eraseDups)
    (index : Inventory.NameIndex) :
    (Inventory.records false index s).map Record.pid = [pids.headD 0] := by
  rw [Inventory.records, h]
  cases pids with
  | nil => rfl
  | cons pid pids => rw [List.eraseDups_cons]; rfl

variable {f : Front} {make : List Int → Socket}

theorem attributed_of_harmless (hf : f.socket? = some make) {holders : List Holder}
    (h : ∀ x ∈ holders, x.name.Harmless) {ending : List Char}
    (he : ending = [] ∨ ending = ['\n']) :
    Attributed (f.line (usersText holders) ++ ending) (holders.map fun x => x.pid.value) := by
  have hu := starts_usersText holders
  have hinLine := inLine_usersText fun x hx => (h x hx).inLine
  have hline := f.inLine_line hinLine
  have hsplit : Text.splitLines (f.line (usersText holders) ++ ending) =
      [f.line (usersText holders)] := by
    rcases he with rfl | rfl
    · rw [List.append_nil, Text.splitLines_single hline (f.line_ne_nil _)]
    · exact Text.splitLines_ended hline
  have hpids := parsePids_usersText fun x hx => (h x hx).unmarked
  rw [← trimEnd_usersText] at hpids
  have hsocket := f.pids_socket hf (holders.map fun x => x.pid.value).eraseDups
  exact ⟨_, parseOutput_single hf hu hinLine.trimEnd.lineFeed_notMem hsplit hpids, hsocket,
    map_pid_records hsocket⟩

/-- Right attribution leaves no choice for the first line. -/
theorem Attributed.parsePids_first (hf : f.socket? = some make) {users output : List Char}
    {pids : List Int} (h : Attributed output pids) (hu : Starts users) (hl : Text.InLine users)
    {rest : List (List Char)} (hs : Text.splitLines output = f.line users :: rest) :
    parsePids (Text.trimEnd users) = .ok pids.eraseDups := by
  obtain ⟨s, ho, hpids, -⟩ := h
  obtain ⟨found, more, hfound, hsockets⟩ :=
    parseOutput_first hf hu hl.trimEnd.lineFeed_notMem hs ho
  cases hsockets
  rw [hfound, ← hpids, f.pids_socket hf]

/-! ## Names that do harm -/

/-- A process of a name, with one of two numbers. -/
def Name.holder (one : Bool) (n : Name) : Holder where
  name := n
  pid := ⟨[if one then '1' else '0'], by cases one <;> decide, by simp⟩
  pid_fits := by cases one <;> decide
  fd := ⟨['3'], by decide, by decide⟩

@[simp] theorem Name.name_holder (one : Bool) (n : Name) : (n.holder one).name = n := rfl

@[simp] theorem Name.value_holder (one : Bool) (n : Name) :
    (n.holder one).pid.value = if one then 1 else 0 := by
  cases one <;> rfl

theorem exists_first {α : Type} {p : α → Prop} [DecidablePred p] {xs : List α}
    (h : ¬ ∀ x ∈ xs, p x) : ∃ a x b, xs = a ++ x :: b ∧ (∀ y ∈ a, p y) ∧ ¬ p x := by
  have hsome : (xs.find? fun x => !decide (p x)).isSome := by simpa using h
  obtain ⟨x, hx⟩ := Option.isSome_iff_exists.1 hsome
  obtain ⟨hp, a, b, rfl, ha⟩ := List.find?_eq_some_iff_append.1 hx
  exact ⟨a, x, b, rfl, fun y hy => by simpa using ha y hy, by simpa using hp⟩

variable {names : List Name}

/-- A name that cuts the line leaves of the column what stands before the cut. -/
theorem Attributed.parsePids_opening (hf : f.socket? = some make) {before more : List Holder}
    {x : Holder} {pids : List Int}
    (h : Attributed (f.line (usersText (before ++ x :: more))) pids)
    (hbefore : ∀ y ∈ before, Text.InLine y.name.chars) {s rest : List Char} {c : Char}
    (hx : x.name.chars = s ++ c :: rest) (hs : Text.InLine s) (hc : Text.isLineEnd c) :
    parsePids (Text.trimEnd (opening before s)) = .ok pids.eraseDups := by
  have hl := inLine_opening hbefore hs
  obtain ⟨tail, htail⟩ := usersText_opening before x more hx
  obtain ⟨lines, hlines⟩ := Text.splitLines_cut (f.inLine_line hl) hc (rest ++ tail)
  have hline : Text.splitLines (f.line (usersText (before ++ x :: more))) =
      f.line (opening before s) :: lines := by
    rw [htail, Front.line_append]
    exact hlines
  exact h.parsePids_first hf ⟨'u', _, rfl, by decide⟩ hl hline

/-- A name that cuts the line hides the number of its process. -/
theorem inLine_of_attributed (hf : f.socket? = some make)
    (h : ∀ holders : List Holder, holders.map Holder.name = names →
      Attributed (f.line (usersText holders)) (holders.map fun x => x.pid.value)) :
    ∀ n ∈ names, Text.InLine n.chars := by
  by_contra hcut
  obtain ⟨before, n, after, rfl, hbefore, hn⟩ := exists_first hcut
  obtain ⟨s, c, rest, hchars, hs, hc⟩ := exists_first hn
  rw [Bool.not_eq_false] at hc
  have hinLine : ∀ y ∈ before.map (Name.holder false), Text.InLine y.name.chars := by
    intro y hy
    obtain ⟨m, hm, rfl⟩ := List.mem_map.1 hy
    exact hbefore m hm
  -- Whatever the number of the process, the first line is the same.
  have hfirst : ∀ one : Bool, parsePids (Text.trimEnd (opening (before.map (Name.holder false)) s)) =
      .ok ((before.map (Name.holder false) ++
        n.holder one :: after.map (Name.holder false)).map fun x => x.pid.value).eraseDups := by
    intro one
    have hatt := h (before.map (Name.holder false) ++ n.holder one :: after.map (Name.holder false))
      (by simp [Function.comp_def])
    exact hatt.parsePids_opening hf hinLine hchars hs hc
  have hmem : (1 : Int) ∈ ((before.map (Name.holder false) ++
      n.holder true :: after.map (Name.holder false)).map fun x => x.pid.value).eraseDups := by
    rw [List.mem_eraseDups]
    simp
  rw [← Except.ok.inj ((hfirst false).symm.trans (hfirst true)), List.mem_eraseDups] at hmem
  simp at hmem

/-- A name with a number of its own puts it among the numbers of the processes. -/
theorem unmarked_of_attributed (hf : f.socket? = some make)
    (h : ∀ holders : List Holder, holders.map Holder.name = names →
      Attributed (f.line (usersText holders)) (holders.map fun x => x.pid.value))
    (hl : ∀ n ∈ names, Text.InLine n.chars) : ∀ n ∈ names, Unmarked n.chars := by
  intro n hn
  rw [← pidNumerals_eq_nil_iff]
  by_contra hmarked
  obtain ⟨w, hw⟩ := List.exists_mem_of_ne_nil _ hmarked
  have hfound : ∀ holders : List Holder, holders.map Holder.name = names →
      ∃ m, Text.parseMagnitude w = .ok m ∧ Int.ofNat m ∈ holders.map fun x => x.pid.value := by
    rintro holders rfl
    obtain ⟨x, hx, rfl⟩ := List.mem_map.1 hn
    have hcolumn := inLine_usersText fun y hy => hl _ (List.mem_map_of_mem hy)
    have hs := Text.splitLines_single (f.inLine_line hcolumn) (f.line_ne_nil _)
    have hpids := (h holders rfl).parsePids_first hf (starts_usersText holders) hcolumn hs
    rw [trimEnd_usersText] at hpids
    have hmem : w ∈ pidNumerals (usersText holders) := by
      rw [pidNumerals_usersText, List.mem_flatMap]
      exact ⟨x, hx, List.mem_append_left _ hw⟩
    obtain ⟨m, hm, hmem⟩ := mem_parsePids hpids hmem
    exact ⟨m, hm, List.mem_eraseDups.1 hmem⟩
  obtain ⟨m, hm, hzero⟩ := hfound (names.map (Name.holder false)) (by simp [Function.comp_def])
  obtain ⟨m', hm', hone⟩ := hfound (names.map (Name.holder true)) (by simp [Function.comp_def])
  cases hm.symm.trans hm'
  simp only [List.map_map, List.mem_map, Function.comp_def, Name.value_holder, Bool.false_eq_true,
    ↓reduceIte] at hzero hone
  obtain ⟨-, -, hzero⟩ := hzero
  obtain ⟨-, -, hone⟩ := hone
  omega

/-- The processes of a socket line are attributed right, whatever their numbers, exactly when their
names are harmless. -/
theorem attributed_iff_harmless (f : Front) (hf : f.socket?.isSome) (names : List Name) :
    (∀ n ∈ names, n.Harmless) ↔
      ∀ holders : List Holder, holders.map Holder.name = names →
        ∀ ending, ending = [] ∨ ending = ['\n'] →
          Attributed (f.line (usersText holders) ++ ending) (holders.map fun x => x.pid.value) := by
  obtain ⟨make, hmake⟩ := Option.isSome_iff_exists.1 hf
  constructor
  · rintro h holders rfl ending he
    exact attributed_of_harmless hmake (fun x hx => h x.name (List.mem_map_of_mem hx)) he
  · intro h n hn
    have hatt : ∀ holders : List Holder, holders.map Holder.name = names →
        Attributed (f.line (usersText holders)) (holders.map fun x => x.pid.value) := by
      intro holders hnames
      have hatt := h holders hnames [] (.inl rfl)
      rwa [List.append_nil] at hatt
    have hl := inLine_of_attributed hmake hatt
    exact ⟨hl n hn, unmarked_of_attributed hmake hatt hl n hn⟩

/-- The columns of an established connection. -/
def Front.established : Front where
  indent := []
  indent_blank := by decide
  indent_inLine := by decide
  protocol := .single ['t', 'c', 'p'] (by decide) (by decide)
  state := .single ['E', 'S', 'T', 'A', 'B'] (by decide) (by decide)
  received := .single ['0'] (by decide) (by decide)
  sent := .single ['0'] (by decide) (by decide)
  localEnd := .single "1.2.3.4:5".toList (by decide) (by decide)
  peerEnd := .single "6.7.8.9:10".toList (by decide) (by decide)

/-- A name with a blank and punctuation, as a process may choose it. -/
def Name.daemon : Name := ⟨"web (pid=x) d".toList, by decide, by decide⟩

def Name.forging : Name := ⟨"a pid=999".toList, by decide, by decide⟩

def Name.hiding : Name := ⟨"a\u2028b".toList, by decide, by decide⟩

theorem attributed_iff_harmless_established : Front.established.socket?.isSome ∧
    ((∀ n ∈ [Name.daemon, Name.forging], n.Harmless) ↔
      ∀ holders : List Holder, holders.map Holder.name = [Name.daemon, Name.forging] →
        ∀ ending, ending = [] ∨ ending = ['\n'] →
          Attributed (Front.established.line (usersText holders) ++ ending)
            (holders.map fun x => x.pid.value)) := by
  have hf : Front.established.socket?.isSome := by decide +kernel
  exact ⟨hf, attributed_iff_harmless _ hf _⟩

theorem Attributed.map_pids {output : List Char} {pids : List Int} (h : Attributed output pids) :
    (parseOutput output).map (List.map Socket.pids) = .ok [pids.eraseDups] := by
  obtain ⟨s, ho, hpids, -⟩ := h
  rw [ho, ← hpids]
  rfl

/-- Of two connections of process 1, one shows process 999 as its owner and the other none. -/
theorem attributed_forged_hidden :
    (parseOutput (Front.established.line (usersText [Name.forging.holder true]))).map
        (List.map Socket.pids) = .ok [[999, 1]] ∧
      ¬ Attributed (Front.established.line (usersText [Name.forging.holder true])) [1] ∧
    (parseOutput (Front.established.line (usersText [Name.hiding.holder true]))).map
        (List.map Socket.pids) = .ok [[]] ∧
      ¬ Attributed (Front.established.line (usersText [Name.hiding.holder true])) [1] := by
  have hforged : (parseOutput (Front.established.line
      (usersText [Name.forging.holder true]))).map (List.map Socket.pids) = .ok [[999, 1]] :=
    ok_of_toOption (by decide +kernel)
  have hhidden : (parseOutput (Front.established.line
      (usersText [Name.hiding.holder true]))).map (List.map Socket.pids) = .ok [[]] :=
    ok_of_toOption (by decide +kernel)
  refine ⟨hforged, fun h => ?_, hhidden, fun h => ?_⟩
  · rw [h.map_pids] at hforged
    cases hforged
  · rw [h.map_pids] at hhidden
    cases hhidden

end SocketInventory.Listing
