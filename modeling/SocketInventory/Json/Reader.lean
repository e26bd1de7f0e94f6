import SocketInventory.Data.Fault
import SocketInventory.Json.Basic
import SocketInventory.Number.Decimal

/-!
# Reading JSON

A text is cut into lexemes, and the lexemes are read as one value. Besides the values of the
format the words for an infinite number and for none at all are numbers. An integer is limited in
its digits, and lists and objects may be limited in how deep they stand in each other.
-/

namespace SocketInventory.Json

open Text (Letter Letters)

/-! ## Lexemes -/

inductive Lexeme where
  | listStart
  | listEnd
  | objectStart
  | objectEnd
  | colon
  | comma
  | text (s : Letters)
  /-- A value without parts. -/
  | atom (v : Json)
  /-- A place where nothing of the format starts. -/
  | bad

def isSpace (c : Char) : Bool := c == ' ' || c == '\t' || c == '\n' || c == '\r'

/-- The number of four hexadecimal digits. -/
def unit? (a b c d : Char) : Option Nat :=
  if [a, b, c, d].all fun x => (Text.hexValue? x).isSome then some (Text.ofHexDigits [a, b, c, d])
  else none

def simpleEscape? : Char → Option Char
  | '"' => some '"'
  | '\\' => some '\\'
  | '/' => some '/'
  | 'b' => some (Char.ofNat 8)
  | 'f' => some (Char.ofNat 12)
  | 'n' => some '\n'
  | 'r' => some '\r'
  | 't' => some '\t'
  | _ => none

/-- The rest of a text behind its opening quote, and what follows its closing one. -/
def readText? : List Char → Option (Letters × List Char)
  | [] => none
  | '"' :: rest => some ([], rest)
  | '\\' :: 'u' :: a :: b :: c :: d :: '\\' :: 'u' :: e :: f :: g :: h :: rest =>
    match unit? a b c d, unit? e f g h with
    | some high, some low =>
      if Text.isHighSurrogate high && Text.isLowSurrogate low then
        let n := 0x10000 + (high - 0xD800) * 0x400 + (low - 0xDC00)
        (readText? rest).map fun (s, r) => (.char (Char.ofNat n) :: s, r)
      else
        (readText? ('\\' :: 'u' :: e :: f :: g :: h :: rest)).map fun (s, r) =>
          (Letter.ofCode high :: s, r)
    | some n, none =>
      (readText? ('\\' :: 'u' :: e :: f :: g :: h :: rest)).map fun (s, r) =>
        (Letter.ofCode n :: s, r)
    | none, _ => none
  | '\\' :: 'u' :: a :: b :: c :: d :: rest =>
    match unit? a b c d with
    | some n => (readText? rest).map fun (s, r) => (Letter.ofCode n :: s, r)
    | none => none
  | '\\' :: c :: rest =>
    match simpleEscape? c with
    | some x => (readText? rest).map fun (s, r) => (.char x :: s, r)
    | none => none
  | c :: rest =>
    if c.toNat < 0x20 || c = '\\' then none
    else (readText? rest).map fun (s, r) => (.char c :: s, r)

theorem readText?_rest {s rest : List Char} {t : Letters} (h : readText? s = some (t, rest)) :
    rest.length ≤ s.length := by
  fun_induction readText? s generalizing t rest
  all_goals simp_all <;> grind

/-- The integer part of a number, without sign: a zero, or digits that start with none. -/
def readWhole? (s : List Char) : Option (List Char × List Char) :=
  match s with
  | '0' :: rest => some (['0'], rest)
  | _ =>
    if (s.takeWhile Char.isDigit).isEmpty then none
    else some (s.takeWhile Char.isDigit, s.dropWhile Char.isDigit)

/-- Digits behind a point, at least one. -/
def readFraction (s : List Char) : List Char × List Char :=
  match s with
  | '.' :: rest =>
    if (rest.takeWhile Char.isDigit).isEmpty then ([], s)
    else (rest.takeWhile Char.isDigit, rest.dropWhile Char.isDigit)
  | _ => ([], s)

/-- A signed exponent, at least one digit. -/
def readExponent? (s : List Char) : Option (Int × List Char) :=
  match s with
  | e :: rest =>
    if e = 'e' || e = 'E' then
      let (negative, digits) := Number.cutSign rest
      let run := digits.takeWhile Char.isDigit
      if run.isEmpty then none
      else
        let n : Int := Text.ofDigits (run.filterMap Text.digitValue?)
        some (if negative then -n else n, digits.dropWhile Char.isDigit)
    else none
  | [] => none

/-- A number without its sign. One with a fraction or an exponent is no integer. -/
def readNumber? (negative : Bool) (s : List Char) : Option (Json × List Char) := do
  let (whole, rest) ← readWhole? s
  let (fraction, rest) := readFraction rest
  let exponent := readExponent? rest
  if fraction.isEmpty && exponent.isNone then
    if Text.digitLimit < whole.length then none
    else
      let n : Int := Text.ofDigits (whole.filterMap Text.digitValue?)
      some (.int (if negative then -n else n), rest)
  else
    let digits := Text.ofDigits ((whole ++ fraction).filterMap Text.digitValue?)
    let (e, rest) := exponent.getD (0, rest)
    some (.real (.ofDecimal negative digits (e - fraction.length)), rest)

theorem length_dropWhile_le {α : Type} (p : α → Bool) (s : List α) :
    (s.dropWhile p).length ≤ s.length := (List.dropWhile_suffix p).length_le

theorem readWhole?_rest {s t rest : List Char} (h : readWhole? s = some (t, rest)) :
    rest.length < s.length := by
  unfold readWhole? at h
  split at h
  · simp at h; simp [← h.2]
  · split at h
    · simp at h
    · rename_i hrun
      have hs : s = s.takeWhile Char.isDigit ++ s.dropWhile Char.isDigit :=
        List.takeWhile_append_dropWhile.symm
      have := congrArg List.length hs
      have hpos : 0 < (s.takeWhile Char.isDigit).length :=
        List.length_pos_iff.2 (by simpa using hrun)
      simp at h
      rw [← h.2]
      simp only [List.length_append] at this
      omega

theorem readFraction_rest (s : List Char) : (readFraction s).2.length ≤ s.length := by
  unfold readFraction
  split
  · rename_i rest
    split
    · simp
    · exact Nat.le_succ_of_le (length_dropWhile_le _ _)
  · simp

theorem length_cutSign_le (s : List Char) : (Number.cutSign s).2.length ≤ s.length := by
  unfold Number.cutSign
  split <;> simp

theorem readExponent?_rest {s rest : List Char} {e : Int} (h : readExponent? s = some (e, rest)) :
    rest.length ≤ s.length := by
  unfold readExponent? at h
  split at h
  · rename_i c tail
    split at h
    · simp only at h
      split at h
      · simp at h
      · simp at h
        rw [← h.2]
        have := length_dropWhile_le Char.isDigit (Number.cutSign tail).2
        have := length_cutSign_le tail
        simp
        omega
    · simp at h
  · simp at h

theorem readNumber?_rest {negative : Bool} {s rest : List Char} {v : Json}
    (h : readNumber? negative s = some (v, rest)) : rest.length < s.length := by
  unfold readNumber? at h
  simp only [Option.bind_eq_bind, Option.bind_eq_some_iff] at h
  obtain ⟨⟨whole, r⟩, hw, h⟩ := h
  have hlt := readWhole?_rest hw
  have hle := readFraction_rest r
  simp only at h
  split at h
  · split at h
    · simp at h
    · simp at h
      rw [← h.2]
      omega
  · simp at h
    rw [← h.2]
    cases he : readExponent? (readFraction r).2 with
    | none => simp; omega
    | some p =>
      obtain ⟨e, last⟩ := p
      have := readExponent?_rest he
      simp
      omega

/-- The words that are values. -/
def words : List (List Char × Json) :=
  [("null".toList, .null), ("true".toList, .bool true), ("false".toList, .bool false),
    ("NaN".toList, .real .nan), ("Infinity".toList, .real (.infinite false)),
    ("-Infinity".toList, .real (.infinite true))]

def readWord? (s : List Char) : Option (Json × List Char) :=
  (words.find? fun (w, _) => w.isPrefixOf s).map fun (w, v) => (v, s.drop w.length)

theorem readWord?_rest {s rest : List Char} {v : Json} (h : readWord? s = some (v, rest)) :
    rest.length < s.length := by
  unfold readWord? at h
  simp only [Option.map_eq_some_iff] at h
  obtain ⟨⟨w, v'⟩, hw, h⟩ := h
  have hmem := List.mem_of_find?_eq_some hw
  have hstart := List.find?_some hw
  have hpre : w <+: s := List.isPrefixOf_iff_prefix.1 hstart
  have hpos : 0 < w.length := by
    simp only [words, List.mem_cons, Prod.mk.injEq, List.not_mem_nil, or_false] at hmem
    rcases hmem with h | h | h | h | h | h <;> rw [h.1] <;> decide
  have := hpre.length_le
  simp at h
  rw [← h.2, List.length_drop]
  omega

/-- The lexeme at the head of a text that starts with no space. -/
def readLexeme? (s : List Char) : Option (Lexeme × List Char) :=
  match s with
  | [] => none
  | '[' :: rest => some (.listStart, rest)
  | ']' :: rest => some (.listEnd, rest)
  | '\x7b' :: rest => some (.objectStart, rest)
  | '\x7d' :: rest => some (.objectEnd, rest)
  | ':' :: rest => some (.colon, rest)
  | ',' :: rest => some (.comma, rest)
  | '"' :: rest => (readText? rest).map fun (t, r) => (.text t, r)
  | c :: rest =>
    match readWord? (c :: rest) with
    | some (v, r) => some (.atom v, r)
    | none =>
      (if c = '-' then readNumber? true rest else readNumber? false (c :: rest)).map
        fun (v, r) => (.atom v, r)

theorem readLexeme?_rest {s rest : List Char} {l : Lexeme} (h : readLexeme? s = some (l, rest)) :
    rest.length < s.length := by
  unfold readLexeme? at h
  split at h
  · simp at h
  iterate 6
    · simp at h
      simp [← h.2]
  · simp at h
    obtain ⟨t, ht⟩ := h
    have := readText?_rest ht.1
    simp
    omega
  · split at h
    · rename_i hw
      simp at h
      rw [← h.2]
      exact readWord?_rest hw
    · simp only [Option.map_eq_some_iff] at h
      obtain ⟨⟨v, r⟩, hv, h⟩ := h
      simp at h
      rw [← h.2]
      split at hv
      · exact Nat.lt_succ_of_lt (readNumber?_rest hv)
      · exact readNumber?_rest hv

/-- The lexemes of a text, up to the first place where none starts. -/
def lexemes (s : List Char) : List Lexeme :=
  match s with
  | [] => []
  | c :: rest =>
    if isSpace c then lexemes rest
    else
      match h : readLexeme? (c :: rest) with
      | some (l, r) =>
        have := readLexeme?_rest h
        l :: lexemes r
      | none => [.bad]
termination_by s.length
decreasing_by
  · simp only [List.length_cons]; omega
  · exact this

/-! ## Values -/

inductive Fault where
  | malformed
  | nesting (n : Nesting)
  deriving DecidableEq, Repr

abbrev Rest (ls : List Lexeme) := { rest : List Lexeme // rest.length < ls.length }

/-- Goes one level deeper, if there is a limit and that is not too deep. -/
def deeper (limit : Option Nat) (n : Nesting) (level : Nat) : Except Fault Unit :=
  if limit.any (· ≤ level) then .error (.nesting n) else .ok ()

mutual
/-- A value that stands in `level` lists and objects. -/
def readValue (limit : Option Nat) (level : Nat) (ls : List Lexeme) :
    Except Fault (Json × Rest ls) :=
  match ls with
  | .atom v :: rest => .ok (v, ⟨rest, by simp⟩)
  | .text s :: rest => .ok (.text s, ⟨rest, by simp⟩)
  | .listStart :: .listEnd :: rest => do
    deeper limit .jsonList level
    return (.list [], ⟨rest, by simp only [List.length_cons]; omega⟩)
  | .listStart :: rest => do
    deeper limit .jsonList level
    let (items, r) ← readItems limit (level + 1) rest
    return (.list items, ⟨r.val, by have := r.property; simp only [List.length_cons]; omega⟩)
  | .objectStart :: .objectEnd :: rest => do
    deeper limit .jsonObject level
    return (.object [], ⟨rest, by simp only [List.length_cons]; omega⟩)
  | .objectStart :: rest => do
    deeper limit .jsonObject level
    let (members, r) ← readMembers limit (level + 1) rest
    return (.object members, ⟨r.val, by have := r.property; simp only [List.length_cons]; omega⟩)
  | _ => .error .malformed
termination_by 2 * ls.length

def readItems (limit : Option Nat) (level : Nat) (ls : List Lexeme) :
    Except Fault (List Json × Rest ls) := do
  let (item, r) ← readValue limit level ls
  match h : r.val with
  | .listEnd :: rest =>
    return ([item], ⟨rest, by
      have := r.property; rw [h] at this; simp only [List.length_cons] at this; omega⟩)
  | .comma :: rest =>
    have : rest.length + 1 < ls.length := by
      have := r.property; rw [h] at this; simpa using this
    let (items, r') ← readItems limit level rest
    return (item :: items, ⟨r'.val, by have := r'.property; omega⟩)
  | _ => throw .malformed
termination_by 2 * ls.length + 1

def readMembers (limit : Option Nat) (level : Nat) (ls : List Lexeme) :
    Except Fault (List (Letters × Json) × Rest ls) :=
  match ls with
  | .text name :: .colon :: rest => do
    let (value, r) ← readValue limit level rest
    match h : r.val with
    | .objectEnd :: rest' =>
      return ([(name, value)],
        ⟨rest', by
          have := r.property; rw [h] at this; simp only [List.length_cons] at this ⊢; omega⟩)
    | .comma :: rest' =>
      have : rest'.length + 1 < rest.length := by
        have := r.property; rw [h] at this; simpa using this
      let (members, r') ← readMembers limit level rest'
      return ((name, value) :: members,
        ⟨r'.val, by have := r'.property; simp only [List.length_cons]; omega⟩)
    | _ => throw .malformed
  | _ => .error .malformed
termination_by 2 * ls.length + 1
end

/-- The value that a text holds, blanks around it allowed. The lists and objects in each other are
at most as many as a limit says. -/
def parseWithin (limit : Option Nat) (s : String) : Except Fault Json := do
  let (v, r) ← readValue limit 0 (lexemes s.toList)
  if r.val.isEmpty then return v else throw .malformed

def parse (s : String) : Except Fault Json := parseWithin none s

def parse? (s : String) : Option Json := (parse s).toOption

end SocketInventory.Json
