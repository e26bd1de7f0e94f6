import SocketInventory.Inventory
import SocketInventory.Proofs.Outcome
import SocketInventory.Proofs.Source.Line
import SocketInventory.Proofs.Text.Numeral

/-!
# Owners in a listing

The process column names the processes that hold a socket, each with its number. The numbers are
looked for in the whole column, the names of the processes included, and lines are cut at every
boundary of a line, inside a name too.
-/

namespace SocketInventory.Listing

/-! ## Numbers in a text -/

theorem pidNumerals_other {c : Char} {rest : List Char}
    (h : ∀ r, c :: rest ≠ 'p' :: 'i' :: 'd' :: '=' :: r) :
    pidNumerals (c :: rest) = pidNumerals rest := by
  rw [pidNumerals]
  rintro r rfl rfl
  exact h r rfl

/-- Behind a mark stand digits, perhaps none. -/
theorem pidNumerals_mark {digits rest : List Char} (hd : ∀ c ∈ digits, Text.isDecimalDigit c)
    (h : ∀ c, rest.head? = some c → Text.isDecimalDigit c = false) :
    pidNumerals ('p' :: 'i' :: 'd' :: '=' :: (digits ++ rest)) =
      if digits = [] then pidNumerals rest else digits :: pidNumerals rest := by
  have htake : (digits ++ rest).takeWhile Text.isDecimalDigit = digits := by
    rw [Text.takeWhile_append_stop h, List.takeWhile_eq_self_iff]
    exact hd
  rw [pidNumerals]
  simp only [htake, List.isEmpty_iff, List.drop_left]
  split
  · rename_i hnil
    rw [hnil, List.nil_append]
  · rfl

/-- The digits behind a place, and what follows them. -/
theorem exists_digits (s : List Char) : ∃ digits rest, s = digits ++ rest ∧
    (∀ c ∈ digits, Text.isDecimalDigit c) ∧
      ∀ c, rest.head? = some c → Text.isDecimalDigit c = false := by
  refine ⟨s.takeWhile Text.isDecimalDigit, s.dropWhile Text.isDecimalDigit,
    List.takeWhile_append_dropWhile.symm, fun c hc => List.mem_takeWhile_imp hc, ?_⟩
  intro c hc
  have hstop := List.head?_dropWhile_not Text.isDecimalDigit s
  rw [hc] at hstop
  simpa using hstop

/-- Induction along the marks of a text. -/
theorem mark_induction {motive : List Char → Prop} (nil : motive [])
    (mark : ∀ digits rest, (∀ c ∈ digits, Text.isDecimalDigit c) →
      (∀ c, rest.head? = some c → Text.isDecimalDigit c = false) → motive rest →
        motive ('p' :: 'i' :: 'd' :: '=' :: (digits ++ rest)))
    (other : ∀ c rest, (∀ r, c :: rest ≠ 'p' :: 'i' :: 'd' :: '=' :: r) → motive rest →
      motive (c :: rest)) : ∀ s, motive s
  | [] => nil
  | c :: rest => by
      by_cases h : ∃ r, c :: rest = 'p' :: 'i' :: 'd' :: '=' :: r
      · obtain ⟨r, hr⟩ := h
        obtain ⟨digits, rest', rfl, hd, hstop⟩ := exists_digits r
        have ih := mark_induction nil mark other rest'
        rw [hr]
        exact mark digits rest' hd hstop ih
      · have ih := mark_induction nil mark other rest
        exact other c rest (fun r hr => h ⟨r, hr⟩) ih
termination_by s => s.length
decreasing_by
  · have hlength := congrArg List.length hr
    simp only [List.length_cons, List.length_append] at hlength ⊢
    omega
  · simp

/-- A character that neither belongs to a mark nor is a digit parts the numbers. -/
theorem pidNumerals_append {c : Char} (hc : c ∉ ['p', 'i', 'd', '='])
    (hd : Text.isDecimalDigit c = false) (a b : List Char) :
    pidNumerals (a ++ c :: b) = pidNumerals a ++ pidNumerals b := by
  simp only [List.mem_cons, List.not_mem_nil, or_false, not_or] at hc
  obtain ⟨hp, hi, hd', he⟩ := hc
  induction a using mark_induction with
  | nil =>
      rw [List.nil_append, pidNumerals_other (fun r hr => hp (List.cons.inj hr).1), pidNumerals]
      rfl
  | mark digits rest hdigits hstop ih =>
      have hstop' : ∀ d, (rest ++ c :: b).head? = some d → Text.isDecimalDigit d = false := by
        intro d hhead
        rcases rest with _ | ⟨e, rest⟩
        · cases hhead
          exact hd
        · exact hstop d hhead
      simp only [List.cons_append, List.append_assoc]
      rw [pidNumerals_mark hdigits hstop, pidNumerals_mark hdigits hstop', ih]
      split <;> rfl
  | other d rest hnot ih =>
      have hnot' : ∀ r, d :: (rest ++ c :: b) ≠ 'p' :: 'i' :: 'd' :: '=' :: r := by
        intro r hr
        -- The parting character would have to stand inside the mark.
        rcases rest with _ | ⟨x, _ | ⟨y, _ | ⟨z, rest⟩⟩⟩ <;> simp_all
      rw [List.cons_append, pidNumerals_other hnot', pidNumerals_other hnot, ih]

/-- The text has no mark with a digit behind it. -/
def Unmarked (s : List Char) : Prop :=
  ∀ a c b, s = a ++ 'p' :: 'i' :: 'd' :: '=' :: c :: b → Text.isDecimalDigit c = false

theorem Unmarked.of_append {a s : List Char} (h : Unmarked (a ++ s)) : Unmarked s := by
  intro before c b hs
  exact h (a ++ before) c b (by rw [hs, List.append_assoc])

theorem pidNumerals_eq_nil_iff {s : List Char} : pidNumerals s = [] ↔ Unmarked s := by
  induction s using mark_induction with
  | nil => simp [pidNumerals, Unmarked]
  | mark digits rest hdigits hstop ih =>
      rw [pidNumerals_mark hdigits hstop]
      rcases digits with _ | ⟨d, digits⟩
      · rw [if_pos rfl, ih]
        constructor
        · -- A further mark does not overlap the one at the head.
          rintro h a c b hs
          rcases a with _ | ⟨w, _ | ⟨x, _ | ⟨y, _ | ⟨z, a⟩⟩⟩⟩
          · simp only [List.nil_append, List.cons.injEq, true_and] at hs
            exact hstop c (by rw [hs]; rfl)
          · simp at hs
          · simp at hs
          · simp at hs
          · simp only [List.nil_append, List.cons_append, List.cons.injEq] at hs
            exact h a c b hs.2.2.2.2
        · exact fun h => h.of_append (a := ['p', 'i', 'd', '='])
      · rw [if_neg (by simp)]
        constructor
        · intro h
          cases h
        · intro h
          have hnone := h [] d (digits ++ rest) rfl
          simp [hdigits d (by simp)] at hnone
  | other d rest hnot ih =>
      rw [pidNumerals_other hnot, ih]
      constructor
      · intro h a c b hs
        rcases a with _ | ⟨x, a⟩
        · exact absurd hs (hnot _)
        · exact h a c b (List.cons.inj hs).2
      · exact fun h => h.of_append (a := [d])

/-! ## The process column -/

/-- A decimal number. -/
structure Digits where
  chars : List Char
  isDigit : ∀ c ∈ chars, c.isDigit
  ne_nil : chars ≠ []

def Digits.value (d : Digits) : Int := Nat.ofDigitChars 10 d.chars 0

/-- The name of a process as the column can show it. -/
structure Name where
  chars : List Char
  quote_notMem : '"' ∉ chars
  lineFeed_notMem : '\n' ∉ chars

/-- A process that holds a socket, with its number and the number of its descriptor. -/
structure Holder where
  name : Name
  pid : Digits
  pid_fits : pid.chars.length ≤ Text.digitLimit
  fd : Digits

/-- What stands behind the name of a holder. -/
def Holder.numbers (h : Holder) : List Char :=
  ',' :: 'p' :: 'i' :: 'd' :: '=' :: (h.pid.chars ++
    ',' :: 'f' :: 'd' :: '=' :: (h.fd.chars ++ [')']))

def Holder.text (h : Holder) : List Char := '(' :: '"' :: (h.name.chars ++ '"' :: h.numbers)

/-- The process column of some holders. -/
def usersText (holders : List Holder) : List Char :=
  ['u', 's', 'e', 'r', 's', ':', '('] ++ [','].intercalate (holders.map Holder.text) ++ [')']

/-- The digits of the numbers that are found in the text of a holder: those in its name first. -/
def Holder.numerals (h : Holder) : List (List Char) := pidNumerals h.name.chars ++ [h.pid.chars]

/-- An entry of the process column, with a name of any characters. -/
structure Entry where
  name : List Char
  pid : Digits
  pid_fits : pid.chars.length ≤ Text.digitLimit
  fd : Digits

def Entry.numbers (e : Entry) : List Char :=
  ',' :: 'p' :: 'i' :: 'd' :: '=' :: (e.pid.chars ++
    ',' :: 'f' :: 'd' :: '=' :: (e.fd.chars ++ [')']))

def Entry.text (e : Entry) : List Char := '(' :: '"' :: (e.name ++ '"' :: e.numbers)

/-- The process column of some entries. -/
def columnText (entries : List Entry) : List Char :=
  ['u', 's', 'e', 'r', 's', ':', '('] ++ [','].intercalate (entries.map Entry.text) ++ [')']

def Holder.entry (h : Holder) : Entry := ⟨h.name.chars, h.pid, h.pid_fits, h.fd⟩

theorem usersText_eq (holders : List Holder) :
    usersText holders = columnText (holders.map Holder.entry) := by
  rw [columnText, List.map_map]
  rfl

/-! ## The numbers of a column -/

theorem Digits.isDecimalDigit (d : Digits) : ∀ c ∈ d.chars, Text.isDecimalDigit c :=
  fun c hc => Text.isDecimalDigit_isDigit (d.isDigit c hc)

theorem unmarked_of_notMem {s : List Char} (h : 'p' ∉ s) : Unmarked s := by
  rintro a c b rfl
  exact absurd (by simp) h

theorem pidNumerals_skip {c : Char} (hc : c ≠ 'p') (rest : List Char) :
    pidNumerals (c :: rest) = pidNumerals rest :=
  pidNumerals_other fun _ hr => hc (List.cons.inj hr).1

theorem pidNumerals_numbers (e : Entry) (rest : List Char) :
    pidNumerals (e.numbers ++ rest) = e.pid.chars :: pidNumerals rest := by
  have hfd : pidNumerals (',' :: 'f' :: 'd' :: '=' :: e.fd.chars) = [] := by
    rw [pidNumerals_eq_nil_iff]
    apply unmarked_of_notMem
    intro hmem
    simp only [List.mem_cons, Char.reduceEq, false_or] at hmem
    exact absurd (e.fd.isDigit 'p' hmem) (by decide)
  have hsplit : e.numbers ++ rest = ',' :: 'p' :: 'i' :: 'd' :: '=' :: (e.pid.chars ++
      ((',' :: 'f' :: 'd' :: '=' :: e.fd.chars) ++ ')' :: rest)) := by
    simp [Entry.numbers]
  have hstop : ∀ c, ((',' :: 'f' :: 'd' :: '=' :: e.fd.chars) ++ ')' :: rest).head? = some c →
      Text.isDecimalDigit c = false := by
    rintro c hc
    cases hc
    decide
  rw [hsplit, pidNumerals_skip (by decide), pidNumerals_mark e.pid.isDecimalDigit hstop,
    if_neg e.pid.ne_nil, pidNumerals_append (by decide) (by decide), hfd, List.nil_append]

/-- The numbers that are found in the text of an entry: those in its name first. -/
theorem pidNumerals_text (e : Entry) (rest : List Char) :
    pidNumerals (e.text ++ rest) = pidNumerals e.name ++ e.pid.chars :: pidNumerals rest := by
  have hsplit : e.text ++ rest = '(' :: '"' :: (e.name ++ '"' :: (e.numbers ++ rest)) := by
    simp [Entry.text]
  rw [hsplit, pidNumerals_skip (by decide), pidNumerals_skip (by decide),
    pidNumerals_append (by decide) (by decide), pidNumerals_numbers]

theorem pidNumerals_intercalate (entries : List Entry) (rest : List Char) :
    pidNumerals ([','].intercalate (entries.map Entry.text) ++ rest) =
      (entries.flatMap fun e => pidNumerals e.name ++ [e.pid.chars]) ++ pidNumerals rest := by
  induction entries with
  | nil => rfl
  | cons e entries ih =>
      rcases entries with _ | ⟨next, entries⟩
      · simp [pidNumerals_text]
      · rw [List.map_cons, List.map_cons, Text.intercalate_cons_cons, List.append_assoc,
          List.append_assoc, List.singleton_append, pidNumerals_text, pidNumerals_skip (by decide),
          ← List.map_cons, ih]
        simp

/-- The numbers of a process column are those of its entries, one after the other. -/
theorem pidNumerals_columnText (entries : List Entry) :
    pidNumerals (columnText entries) =
      entries.flatMap fun e => pidNumerals e.name ++ [e.pid.chars] := by
  have hsplit : columnText entries = ['u', 's', 'e', 'r', 's', ':'] ++
      '(' :: ([','].intercalate (entries.map Entry.text) ++ [')']) := by
    simp [columnText]
  have hnone : pidNumerals ['u', 's', 'e', 'r', 's', ':'] = [] :=
    pidNumerals_eq_nil_iff.2 (unmarked_of_notMem (by decide))
  have hend : pidNumerals [')'] = [] := pidNumerals_eq_nil_iff.2 (unmarked_of_notMem (by decide))
  rw [hsplit, pidNumerals_append (by decide) (by decide), hnone, pidNumerals_intercalate, hend,
    List.append_nil, List.nil_append]

theorem pidNumerals_usersText (holders : List Holder) :
    pidNumerals (usersText holders) = holders.flatMap Holder.numerals := by
  rw [usersText_eq, pidNumerals_columnText, List.flatMap_map]
  rfl

/-! ## The owners of a column -/

theorem distinct_append_singleton (xs : List Int) (x : Int) :
    distinct (xs ++ [x]) = if x ∈ distinct xs then distinct xs else distinct xs ++ [x] := by
  simp [distinct, List.foldl_append]

theorem distinct_eq_eraseDups (xs : List Int) : distinct xs = xs.eraseDups := by
  induction xs using List.reverseRecOn with
  | nil => rfl
  | append_singleton xs x ih =>
      rw [distinct_append_singleton, ih, List.eraseDups_append]
      by_cases hx : x ∈ xs <;> simp [hx, List.removeAll, List.eraseDups_cons]

theorem parsePids_columnText {entries : List Entry} (h : ∀ e ∈ entries, Unmarked e.name) :
    parsePids (columnText entries) = .ok (entries.map fun e => e.pid.value).eraseDups := by
  have hnumerals : (entries.flatMap fun e => pidNumerals e.name ++ [e.pid.chars]) =
      entries.map fun e => e.pid.chars := by
    induction entries with
    | nil => rfl
    | cons e entries ih =>
        have he := pidNumerals_eq_nil_iff.2 (h e (by simp))
        have hrest := ih fun e' he' => h e' (by simp [he'])
        rw [List.flatMap_cons, List.map_cons, hrest, he]
        rfl
  have hread : ((entries.map fun e => e.pid.chars).mapM fun digits =>
      (Text.parseMagnitude digits).mapError (Error.badNumeral (String.ofList digits))) =
        .ok (entries.map fun e => Nat.ofDigitChars 10 e.pid.chars 0) := by
    apply mapM_ok_map
    intro e _
    rw [Text.parseMagnitude_digits e.pid.isDigit e.pid.ne_nil e.pid_fits]
    rfl
  rw [parsePids, pidNumerals_columnText, hnumerals, hread, ← distinct_eq_eraseDups]
  simp only [bind, Except.bind, pure, Except.pure, List.map_map]
  rfl

/-! ## The text of a column -/

theorem starts_columnText (entries : List Entry) : Starts (columnText entries) :=
  ⟨'u', _, rfl, by decide⟩

theorem trimEnd_columnText (entries : List Entry) :
    Text.trimEnd (columnText entries) = columnText entries := by
  apply Text.trimEnd_eq_self
  intro c hc
  rw [columnText, List.getLast?_concat] at hc
  cases hc
  decide

theorem Entry.inLine_text {e : Entry} (hn : Text.InLine e.name) : Text.InLine e.text := by
  have hp := Text.InLine.of_digits e.pid.isDigit
  have hf := Text.InLine.of_digits e.fd.isDigit
  have hpid : Text.InLine ['"', ',', 'p', 'i', 'd', '='] := by decide
  have hfd : Text.InLine [',', 'f', 'd', '='] := by decide
  have hsplit : e.text = ['(', '"'] ++ (e.name ++ (['"', ',', 'p', 'i', 'd', '='] ++
      (e.pid.chars ++ ([',', 'f', 'd', '='] ++ (e.fd.chars ++ [')']))))) := rfl
  simp only [hsplit, Text.inLine_append_iff]
  exact ⟨by decide, hn, hpid, hp, hfd, hf, by decide⟩

theorem inLine_columnText {entries : List Entry} (h : ∀ e ∈ entries, Text.InLine e.name) :
    Text.InLine (columnText entries) := by
  suffices hbody : Text.InLine ([','].intercalate (entries.map Entry.text)) by
    simp only [columnText, Text.inLine_append_iff]
    exact ⟨⟨by decide, hbody⟩, by decide⟩
  intro c hc
  rcases Text.mem_intercalate hc with rfl | ⟨piece, hp, hmem⟩
  · decide
  · obtain ⟨e, he, rfl⟩ := List.mem_map.1 hp
    exact Entry.inLine_text (h e he) c hmem

end SocketInventory.Listing
