import SocketInventory.Json.Reader
import SocketInventory.Json.Writer
import SocketInventory.Proofs.Text.Lines
import SocketInventory.Proofs.Text.Numeral

/-!
# The lexemes of a written value

A value is written as a sequence of lexemes with line breaks between, and the scanner finds this
sequence again whatever the layout, as long as characters beyond ASCII are written as themselves.
-/

namespace SocketInventory.Json

open Text (Letter Letters letters)

mutual
/-- The lexemes of a value. -/
def yield : Json → List Lexeme
  | .null => [.atom .null]
  | .bool b => [.atom (.bool b)]
  | .int n => [.atom (.int n)]
  | .real x => [.atom (.real x)]
  | .text s => [.text s]
  | .list [] => [.listStart, .listEnd]
  | .list (item :: items) => .listStart :: (yield item ++ (yieldItems items ++ [.listEnd]))
  | .object [] => [.objectStart, .objectEnd]
  | .object ((name, value) :: members) =>
    .objectStart :: .text name :: .colon :: (yield value ++ (yieldMembers members ++ [.objectEnd]))

def yieldItems : List Json → List Lexeme
  | [] => []
  | item :: items => .comma :: (yield item ++ yieldItems items)

def yieldMembers : List (Letters × Json) → List Lexeme
  | [] => []
  | (name, value) :: members =>
    .comma :: .text name :: .colon :: (yield value ++ yieldMembers members)
end

/-- The letters are those of a string. -/
def IsWhole (ls : Letters) : Prop := ∃ s : String, letters s = ls

theorem isWhole_letters (s : String) : IsWhole (letters s) := ⟨s, rfl⟩

mutual
/-- The value has no fractions, no halves of surrogate pairs, and integers of a length that can be
read. -/
def Fits : Json → Prop
  | .null => True
  | .bool _ => True
  | .int n => n.natAbs < 10 ^ Text.digitLimit
  | .real _ => False
  | .text s => IsWhole s
  | .list items => FitItems items
  | .object members => FitMembers members

def FitItems : List Json → Prop
  | [] => True
  | item :: items => Fits item ∧ FitItems items

def FitMembers : List (Letters × Json) → Prop
  | [] => True
  | (name, value) :: members => IsWhole name ∧ Fits value ∧ FitMembers members
end

/-! ## Single lexemes -/

theorem lexemes_space {c : Char} (hc : isSpace c) (s : List Char) :
    lexemes (c :: s) = lexemes s := by
  rw [lexemes, if_pos hc]

theorem lexemes_read {c : Char} {s rest : List Char} {l : Lexeme} (hc : isSpace c = false)
    (h : readLexeme? (c :: s) = some (l, rest)) : lexemes (c :: s) = l :: lexemes rest := by
  rw [lexemes, if_neg (by simp [hc])]
  split
  · rename_i l' r h'
    cases h.symm.trans h'
    rfl
  · rename_i h'
    rw [h] at h'
    cases h'

theorem lexemes_lineBreak (style : Style) (level : Nat) (s : List Char) :
    lexemes (lineBreak style level ++ s) = lexemes s := by
  have hblanks : ∀ n, lexemes (List.replicate n ' ' ++ s) = lexemes s := by
    intro n
    induction n with
    | zero => rfl
    | succ n ih => rw [List.replicate_succ, List.cons_append, lexemes_space (by decide), ih]
  rw [lineBreak]
  cases style.indent with
  | none => rfl
  | some columns => rw [List.cons_append, lexemes_space (by decide), hblanks]

theorem lexemes_colon (style : Style) (s : List Char) :
    lexemes (colon style ++ s) = .colon :: lexemes s := by
  have hcolon : ∀ rest, lexemes (':' :: rest) = .colon :: lexemes rest :=
    fun rest => lexemes_read (by decide) rfl
  rw [colon]
  cases style.indent with
  | none => exact hcolon s
  | some columns => exact (hcolon _).trans (congrArg _ (lexemes_space (by decide) s))

theorem lexemes_comma (s : List Char) : lexemes (',' :: s) = .comma :: lexemes s :=
  lexemes_read (by decide) rfl

theorem lexemes_listStart (s : List Char) : lexemes ('[' :: s) = .listStart :: lexemes s :=
  lexemes_read (by decide) rfl

theorem lexemes_listEnd (s : List Char) : lexemes (']' :: s) = .listEnd :: lexemes s :=
  lexemes_read (by decide) rfl

theorem lexemes_objectStart (s : List Char) :
    lexemes ('\x7b' :: s) = .objectStart :: lexemes s :=
  lexemes_read (by decide) rfl

theorem lexemes_objectEnd (s : List Char) : lexemes ('\x7d' :: s) = .objectEnd :: lexemes s :=
  lexemes_read (by decide) rfl

/-! ## Texts -/

/-- An escape that is no first half of a pair stands for its character, whatever follows. -/
theorem readText?_unit {a b c d : Char} {n : Nat} (h : unit? a b c d = some n)
    (hn : Text.isHighSurrogate n = false) (rest : List Char) :
    readText? ('\\' :: 'u' :: a :: b :: c :: d :: rest) =
      (readText? rest).map fun p => (Letter.ofCode n :: p.1, p.2) := by
  rw [readText?.eq_def]
  split
  · rename_i heq
    cases heq
  · rename_i heq
    cases heq
  · rename_i e f g h' _ heq
    cases heq
    cases hlow : unit? e f g h' <;> simp [h, hn]
  · rename_i heq
    cases heq
    simp [h]
  · rename_i hshort heq
    cases heq
    exact absurd rfl (hshort a b c d rest rfl)
  · rename_i hpair heq
    cases heq
    exact absurd rfl (hpair 'u' _ rfl)

theorem readText?_simple {c x : Char} (h : simpleEscape? c = some x) (rest : List Char) :
    readText? ('\\' :: c :: rest) = (readText? rest).map fun p => (.char x :: p.1, p.2) := by
  have hu : c ≠ 'u' := by
    rintro rfl
    cases h
  rw [readText?.eq_def]
  split
  · rename_i heq
    cases heq
  · rename_i heq
    cases heq
  · rename_i heq
    cases heq
    exact absurd rfl hu
  · rename_i heq
    cases heq
    exact absurd rfl hu
  · rename_i heq
    cases heq
    simp [h]
  · rename_i hpair heq
    cases heq
    exact absurd rfl (hpair c rest rfl)

theorem readText?_plain {c : Char} (hq : c ≠ '"') (hb : c ≠ '\\') (hc : 0x20 ≤ c.toNat)
    (rest : List Char) :
    readText? (c :: rest) = (readText? rest).map fun p => (.char c :: p.1, p.2) := by
  rw [readText?.eq_def]
  split <;> simp_all

theorem unitEscape_control : ∀ n < 0x20,
    unitEscape n = ['\\', 'u', '0', '0', (n / 16).digitChar, (n % 16).digitChar] ∧
      unit? '0' '0' (n / 16).digitChar (n % 16).digitChar = some n := by
  decide +kernel

/-- A written character is read as itself. -/
theorem readText?_writeChar (c : Char) (rest : List Char) :
    readText? (writeChar false c ++ rest) =
      (readText? rest).map fun p => (.char c :: p.1, p.2) := by
  rw [writeChar]
  -- First the characters with an escape of their own.
  iterate 7
    split
    · rename_i hc
      rw [hc]
      exact readText?_simple rfl rest
  rename_i hq hb _ _ _ _ _
  split
  · rename_i hc
    have hlt : c.toNat < 0x20 := by simpa using hc
    obtain ⟨hescape, hunit⟩ := unitEscape_control c.toNat hlt
    rw [codeEscape, if_pos (by omega), hescape]
    have hread := readText?_unit hunit (by simp [Text.isHighSurrogate]; omega) rest
    rw [Letter.ofCode_toNat] at hread
    exact hread
  · rename_i hc
    exact readText?_plain hq hb (by simpa using hc) rest

theorem readText?_writeLetters (s : List Char) (rest : List Char) :
    readText? ((s.map Letter.char).flatMap (writeLetter false) ++ '"' :: rest) =
      some (s.map Letter.char, rest) := by
  induction s with
  | nil => rfl
  | cons c s ih =>
      rw [List.map_cons, List.flatMap_cons, List.append_assoc, writeLetter, readText?_writeChar, ih]
      rfl

theorem lexemes_writeText {s : Letters} (hs : IsWhole s) (rest : List Char) :
    lexemes (writeText false s ++ rest) = .text s :: lexemes rest := by
  obtain ⟨s, rfl⟩ := hs
  have hread : readLexeme? ('"' :: ((letters s).flatMap (writeLetter false) ++ ['"'] ++ rest)) =
      some (.text (letters s), rest) := by
    rw [readLexeme?, List.append_assoc, List.singleton_append, letters, readText?_writeLetters]
    rfl
  exact lexemes_read (by decide) hread

/-! ## Integers -/

/-- A number ends where such a text begins. -/
def Ends (s : List Char) : Prop := ∀ c, s.head? = some c → c ∈ [',', ']', '\x7d', '\n']

theorem ends_cons {c : Char} (hc : c ∈ [',', ']', '\x7d', '\n']) (s : List Char) :
    Ends (c :: s) := by
  rintro d hd
  cases hd
  exact hc

theorem Ends.isDigit {s : List Char} (h : Ends s) : ∀ c, s.head? = some c → c.isDigit = false := by
  have hall : ∀ c ∈ [',', ']', '\x7d', '\n'], c.isDigit = false := by decide
  exact fun c hc => hall c (h c hc)

theorem Ends.readFraction {s : List Char} (h : Ends s) : readFraction s = ([], s) := by
  rw [Json.readFraction.eq_def]
  split
  · exact absurd (h '.' rfl) (by decide)
  · rfl

theorem Ends.readExponent? {s : List Char} (h : Ends s) : readExponent? s = none := by
  have hall : ∀ c ∈ [',', ']', '\x7d', '\n'], c ≠ 'e' ∧ c ≠ 'E' := by decide
  rcases s with _ | ⟨c, s⟩
  · rfl
  · obtain ⟨he, hE⟩ := hall c (h c rfl)
    rw [Json.readExponent?, if_neg (by simp [he, hE])]

theorem head?_decimalChars {n : Nat} (hn : 0 < n) : (Text.decimalChars n).head? ≠ some '0' := by
  induction n using Nat.strongRecOn with
  | ind n ih =>
      rw [Text.decimalChars, Nat.toDigits_eq_if (by decide)]
      split
      · rename_i hlt
        have hall : ∀ d < 10, 0 < d → [d.digitChar].head? ≠ some '0' := by decide
        exact hall n hlt hn
      · have hdigits : Nat.toDigits 10 (n / 10) ≠ [] := Nat.toDigits_ne_nil
        rw [List.head?_append_of_ne_nil _ hdigits]
        exact ih (n / 10) (by omega) (by omega)

theorem readWhole?_decimalChars (n : Nat) {rest : List Char} (h : Ends rest) :
    readWhole? (Text.decimalChars n ++ rest) = some (Text.decimalChars n, rest) := by
  rcases n.eq_zero_or_pos with rfl | hn
  · rfl
  · have htake : (Text.decimalChars n ++ rest).takeWhile Char.isDigit = Text.decimalChars n := by
      rw [Text.takeWhile_append_stop h.isDigit,
        List.takeWhile_eq_self_iff.2 Text.isDigit_decimalChars]
    have hdrop : (Text.decimalChars n ++ rest).dropWhile Char.isDigit = rest := by
      rw [Text.dropWhile_append_stop h.isDigit,
        List.dropWhile_eq_nil_iff.2 Text.isDigit_decimalChars, List.nil_append]
    rw [readWhole?.eq_def]
    split
    · rename_i hzero
      obtain ⟨c, w, hw⟩ := List.exists_cons_of_ne_nil (@Text.decimalChars_ne_nil n)
      have hhead := head?_decimalChars hn
      rw [hw] at hzero hhead
      cases hzero
      exact absurd rfl hhead
    · rw [htake, hdrop, if_neg (by simp [Text.decimalChars_ne_nil])]

theorem readNumber?_decimalChars (negative : Bool) {n : Nat} (hn : n < 10 ^ Text.digitLimit)
    {rest : List Char} (h : Ends rest) :
    readNumber? negative (Text.decimalChars n ++ rest) =
      some (.int (if negative then -(n : Int) else n), rest) := by
  have hlength : (Text.decimalChars n).length ≤ Text.digitLimit :=
    (Nat.length_toDigits_le_iff (by decide) (by decide)).2 hn
  have hvalue : Text.ofDigits ((Text.decimalChars n).filterMap Text.digitValue?) = n := by
    rw [Text.filterMap_digits Text.isDigit_decimalChars, Text.ofDigits_digits, Text.decimalChars,
      Nat.ofDigitChars_ten_toDigits]
  simp only [readNumber?, readWhole?_decimalChars n h, Option.bind_eq_bind, Option.bind_some,
    h.readFraction, h.readExponent?, hvalue]
  simp [Nat.not_lt.2 hlength]

theorem ne_of_isDigit {c d : Char} (hc : c.isDigit) (hd : d.isDigit = false) : c ≠ d := by
  rintro rfl
  rw [hc] at hd
  cases hd

theorem readWord?_isDigit {c : Char} (hc : c.isDigit) (s : List Char) :
    readWord? (c :: s) = none ∧ readWord? ('-' :: c :: s) = none := by
  have hne : ∀ d : Char, d.isDigit = false → (d == c) = false := by
    intro d hd
    simpa using (ne_of_isDigit hc hd).symm
  have hn := hne 'n' (by decide)
  have ht := hne 't' (by decide)
  have hf := hne 'f' (by decide)
  have hN := hne 'N' (by decide)
  have hI := hne 'I' (by decide)
  have hminus := hne '-' (by decide)
  constructor
  · simp [readWord?, words, List.isPrefixOf, hn, ht, hf, hN, hI, hminus]
  · simp [readWord?, words, List.isPrefixOf, hI]

theorem readLexeme?_isDigit {c : Char} (hc : c.isDigit) (s : List Char) :
    readLexeme? (c :: s) = (readNumber? false (c :: s)).map fun (v, r) => (.atom v, r) := by
  have hne : ∀ d : Char, d.isDigit = false → c ≠ d := fun d hd => ne_of_isDigit hc hd
  have h := (readWord?_isDigit hc s).1
  rw [readLexeme?.eq_def]
  split
  · rename_i heq
    cases heq
  iterate 7
    · rename_i heq
      cases heq
      exact absurd hc (by decide)
  · rename_i heq
    cases heq
    rw [h, if_neg (hne '-' (by decide))]

theorem readLexeme?_minus {c : Char} (hc : c.isDigit) (s : List Char) :
    readLexeme? ('-' :: c :: s) = (readNumber? true (c :: s)).map fun (v, r) => (.atom v, r) := by
  rw [readLexeme?]
  · rw [(readWord?_isDigit hc s).2]
    rfl
  all_goals simp

theorem isSpace_isDigit {c : Char} (hc : c.isDigit) : isSpace c = false := by
  have hne : ∀ d : Char, d.isDigit = false → c ≠ d := fun d hd => ne_of_isDigit hc hd
  simp [isSpace, hne ' ' (by decide), hne '\t' (by decide), hne '\n' (by decide),
    hne '\r' (by decide)]

theorem lexemes_integerChars {n : Int} (hn : n.natAbs < 10 ^ Text.digitLimit) {rest : List Char}
    (h : Ends rest) : lexemes (Text.integerChars n ++ rest) = .atom (.int n) :: lexemes rest := by
  have hdigits : ∀ k, ∃ c w, Text.decimalChars k = c :: w ∧ c.isDigit := by
    intro k
    obtain ⟨c, w, hw⟩ := List.exists_cons_of_ne_nil (@Text.decimalChars_ne_nil k)
    exact ⟨c, w, hw, @Text.isDigit_decimalChars k c (by simp [hw])⟩
  cases n with
  | ofNat k =>
      obtain ⟨c, w, hw, hc⟩ := hdigits k
      have hnumber := readNumber?_decimalChars false hn h
      rw [Int.natAbs_ofNat', hw, List.cons_append] at hnumber
      rw [Text.integerChars, hw, List.cons_append]
      refine lexemes_read (isSpace_isDigit hc) ?_
      rw [readLexeme?_isDigit hc, hnumber]
      rfl
  | negSucc k =>
      obtain ⟨c, w, hw, hc⟩ := hdigits (k + 1)
      have hnumber := readNumber?_decimalChars true hn h
      rw [Int.natAbs_negSucc, Nat.succ_eq_add_one, hw, List.cons_append] at hnumber
      rw [Text.integerChars, hw, List.cons_append, List.cons_append]
      refine lexemes_read (by decide) ?_
      rw [readLexeme?_minus hc, hnumber]
      rfl

/-! ## Values -/

theorem lexemes_null (s : List Char) :
    lexemes ('n' :: 'u' :: 'l' :: 'l' :: s) = .atom .null :: lexemes s :=
  lexemes_read (by decide) (by simp [readLexeme?, readWord?, words])

theorem lexemes_true (s : List Char) :
    lexemes ('t' :: 'r' :: 'u' :: 'e' :: s) = .atom (.bool true) :: lexemes s :=
  lexemes_read (by decide) (by simp [readLexeme?, readWord?, words])

theorem lexemes_false (s : List Char) :
    lexemes ('f' :: 'a' :: 'l' :: 's' :: 'e' :: s) = .atom (.bool false) :: lexemes s :=
  lexemes_read (by decide) (by simp [readLexeme?, readWord?, words])

theorem ends_lineBreak (style : Style) (level : Nat) {s : List Char} (h : Ends s) :
    Ends (lineBreak style level ++ s) := by
  rw [lineBreak]
  cases style.indent with
  | none => exact h
  | some columns => exact ends_cons (by decide) _

section Values

variable {style : Style}

/-- What stands behind an item, the further items of its list. -/
theorem ends_writeItems (level : Nat) (items : List Json) {rest : List Char} (h : Ends rest) :
    Ends (writeItems style level items ++ rest) := by
  cases items with
  | nil => exact h
  | cons item items => exact ends_cons (by decide) _

theorem ends_writeMembers (level : Nat) (members : List (Letters × Json)) {rest : List Char}
    (h : Ends rest) :
    Ends (writeMembers style level members ++ rest) := by
  cases members with
  | nil => exact h
  | cons member members => exact ends_cons (by decide) _

mutual
/-- The scanner finds the lexemes of a written value, and goes on behind it. -/
theorem lexemes_write (hs : style.asciiOnly = false) : (level : Nat) → (v : Json) →
    (rest : List Char) → Fits v → Ends rest →
      lexemes (write style level v ++ rest) = yield v ++ lexemes rest
  | _, .null, rest, _, _ => lexemes_null rest
  | _, .bool true, rest, _, _ => lexemes_true rest
  | _, .bool false, rest, _, _ => lexemes_false rest
  | _, .int n, _, hn, h => lexemes_integerChars hn h
  | _, .text s, rest, hv, _ => by
      rw [write, hs]
      exact lexemes_writeText hv rest
  | _, .list [], rest, _, _ => by
      rw [write]
      exact (lexemes_listStart _).trans (congrArg _ (lexemes_listEnd rest))
  | level, .list (item :: items), rest, hv, _ => by
      obtain ⟨hitem, hitems⟩ := hv
      have hend : Ends (lineBreak style level ++ (']' :: rest)) :=
        ends_lineBreak style level (ends_cons (by decide) rest)
      have hfirst := lexemes_write hs (level + 1) item _ hitem
        (@ends_writeItems style (level + 1) items _ hend)
      have hmore := lexemes_writeItems hs (level + 1) items _ hitems hend
      simp only [write, List.cons_append, List.append_assoc, List.nil_append, lexemes_listStart,
        lexemes_lineBreak, hfirst, hmore, lexemes_listEnd, yield]
  | _, .object [], rest, _, _ => by
      rw [write]
      exact (lexemes_objectStart _).trans (congrArg _ (lexemes_objectEnd rest))
  | level, .object ((name, v) :: members), rest, hv, _ => by
      obtain ⟨hname, hvalue, hmembers⟩ := hv
      have hend : Ends (lineBreak style level ++ ('\x7d' :: rest)) :=
        ends_lineBreak style level (ends_cons (by decide) rest)
      have hfirst := lexemes_write hs (level + 1) v _ hvalue
        (@ends_writeMembers style (level + 1) members _ hend)
      have hmore := lexemes_writeMembers hs (level + 1) members _ hmembers hend
      simp only [write, hs, List.cons_append, List.append_assoc, List.nil_append,
        lexemes_objectStart, lexemes_lineBreak, lexemes_writeText hname, lexemes_colon, hfirst,
        hmore, lexemes_objectEnd, yield]

theorem lexemes_writeItems (hs : style.asciiOnly = false) : (level : Nat) →
    (items : List Json) → (rest : List Char) → FitItems items → Ends rest →
    lexemes (writeItems style level items ++ rest) = yieldItems items ++ lexemes rest
  | _, [], _, _, _ => rfl
  | level, item :: items, rest, hv, h => by
      obtain ⟨hitem, hitems⟩ := hv
      have hfirst := lexemes_write hs level item _ hitem
        (@ends_writeItems style level items _ h)
      have hmore := lexemes_writeItems hs level items _ hitems h
      simp only [writeItems, List.cons_append, List.append_assoc, lexemes_comma, lexemes_lineBreak,
        hfirst, hmore, yieldItems]

theorem lexemes_writeMembers (hs : style.asciiOnly = false) : (level : Nat) →
    (members : List (Letters × Json)) → (rest : List Char) → FitMembers members → Ends rest →
    lexemes (writeMembers style level members ++ rest) = yieldMembers members ++ lexemes rest
  | _, [], _, _, _ => rfl
  | level, (name, v) :: members, rest, hv, h => by
      obtain ⟨hname, hvalue, hmembers⟩ := hv
      have hfirst := lexemes_write hs level v _ hvalue
        (@ends_writeMembers style level members _ h)
      have hmore := lexemes_writeMembers hs level members _ hmembers h
      simp only [writeMembers, hs, List.cons_append, List.append_assoc, lexemes_comma,
        lexemes_lineBreak, lexemes_writeText hname, lexemes_colon, hfirst, hmore, yieldMembers]
end

end Values

end SocketInventory.Json
