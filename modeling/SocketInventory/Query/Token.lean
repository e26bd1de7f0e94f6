import SocketInventory.Query.Basic
import SocketInventory.Text.Case
import SocketInventory.Text.Lines
import SocketInventory.Text.Numeral

/-!
# Tokens of a query text

The text is scanned for the longest lexeme at each place. Blanks separate lexemes, and a character
that starts none, such as a quote without its partner, is passed over. The words `and` and `or` in
any case are connectives, and a word of digits is a number.
-/

namespace SocketInventory.Query

/-- A piece of query text before words are told apart. -/
inductive Lexeme where
  | sign (t : Token)
  | quoted (s : List Char)
  | bare (w : List Char)
  deriving DecidableEq, Repr

def isWordStart (c : Char) : Bool := c.isAlphanum || c == '_' || c == '*'

def isWordChar (c : Char) : Bool := isWordStart c || c == '.' || c == '-'

def isQuote (c : Char) : Bool := c == '"' || c == '\''

/-- The sign at the head of a text, the longer of two that start alike. -/
def readSign? : List Char → Option (Token × List Char)
  | '(' :: rest => some (.lparen, rest)
  | ')' :: rest => some (.rparen, rest)
  | '&' :: '&' :: rest => some (.and, rest)
  | '|' :: '|' :: rest => some (.or, rest)
  | '!' :: '=' :: rest => some (.op .ne, rest)
  | '>' :: '=' :: rest => some (.op .ge, rest)
  | '<' :: '=' :: rest => some (.op .le, rest)
  | '=' :: '=' :: rest => some (.op .eq, rest)
  | '=' :: rest => some (.op .eq, rest)
  | '>' :: rest => some (.op .gt, rest)
  | '<' :: rest => some (.op .lt, rest)
  | ':' :: rest => some (.op .eq, rest)
  | '!' :: rest => some (.not, rest)
  | _ => none

/-- The lexeme that starts with `c`, and the text behind it. -/
def readLexeme? (c : Char) (rest : List Char) : Option (Lexeme × List Char) :=
  match readSign? (c :: rest) with
  | some (t, rest') => some (.sign t, rest')
  | none =>
    if isQuote c then (Text.cutFirst? c rest).map fun (body, rest') => (.quoted body, rest')
    else if isWordStart c then
      some (.bare (c :: rest.takeWhile isWordChar), rest.dropWhile isWordChar)
    else none

theorem readSign?_rest {c : Char} {rest rest' : List Char} {t : Token}
    (h : readSign? (c :: rest) = some (t, rest')) : rest'.length ≤ rest.length := by
  unfold readSign? at h
  split at h <;> simp_all

theorem cutFirst?_rest {c : Char} {s body rest : List Char}
    (h : Text.cutFirst? c s = some (body, rest)) : rest.length < s.length := by
  unfold Text.cutFirst? at h
  have hle := (List.dropWhile_sublist (fun x => x != c) (l := s)).length_le
  split at h
  · cases h
  · rename_i hd
    rw [hd] at hle
    cases h
    exact hle

theorem readLexeme?_rest {c : Char} {rest rest' : List Char} {l : Lexeme}
    (h : readLexeme? c rest = some (l, rest')) : rest'.length ≤ rest.length := by
  unfold readLexeme? at h
  split at h
  · rename_i hs
    cases h
    exact readSign?_rest hs
  · split at h
    · obtain ⟨⟨body, r⟩, hc, he⟩ := Option.map_eq_some_iff.1 h
      cases he
      exact Nat.le_of_lt (cutFirst?_rest hc)
    · split at h
      · cases h
        exact (List.dropWhile_sublist _).length_le
      · cases h

def lexemes (s : List Char) : List Lexeme :=
  match s with
  | [] => []
  | c :: rest =>
    if Text.isBlank c then lexemes rest
    else
      match h : readLexeme? c rest with
      | some (l, rest') =>
        have := readLexeme?_rest h
        l :: lexemes rest'
      | none => lexemes rest
termination_by s.length
decreasing_by all_goals simp <;> omega

def wordToken (w : List Char) : Except Text.NumeralFault Token :=
  if w.map Char.toUpper = ['A', 'N', 'D'] then .ok .and
  else if w.map Char.toUpper = ['O', 'R'] then .ok .or
  else if w.all Char.isDigit then (Text.parseMagnitude w).map .number
  else .ok (.word (String.ofList w))

def Lexeme.token : Lexeme → Except Text.NumeralFault Token
  | .sign t => .ok t
  | .quoted s => .ok (.string (String.ofList s))
  | .bare w => wordToken w

/-- The tokens of a query text, an end token last. Only a number with too many digits is refused. -/
def tokenize (s : String) : Except Text.NumeralFault (List Token) := do
  let tokens ← (lexemes s.toList).mapM Lexeme.token
  return tokens ++ [.eof]

end SocketInventory.Query
