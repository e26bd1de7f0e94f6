import SocketInventory.Text.CaseTable

/-!
# Lower and upper case

The full case mappings, one character to one or more. A capital sigma becomes the final form when
a letter with case stands before it and none after it; characters of `caseIgnorable` are passed
over on both sides.
-/

namespace SocketInventory.Text

/-! ## One character -/

def mapCase (runs : List CaseRun) (expansions : List (Nat × List Nat)) (c : Char) : List Char :=
  match expansions.find? (·.1 == c.toNat) with
  | some (_, form) => form.map Char.ofNat
  | none =>
    match runs.find? (·.covers c.toNat) with
    | some run => [Char.ofNat (c.toNat + run.shift).toNat]
    | none => [c]

/-- The lower-case form of a character out of context. -/
def lowerChar (c : Char) : List Char :=
  if c.toNat < 0x80 then [c.toLower] else mapCase lowerRuns lowerExpansions c

def upperChar (c : Char) : List Char :=
  if c.toNat < 0x80 then [c.toUpper] else mapCase upperRuns upperExpansions c

/-! ## Texts -/

def capitalSigma : Char := 'Σ'

/-- The first character that is not passed over is a letter with case. -/
def meetsCaseLetter (s : List Char) : Bool :=
  match s.dropWhile caseIgnorable.has with
  | [] => false
  | c :: _ => caseLetters.has c

/-- Lower case of a text whose part before it, nearest character first, is `before`. -/
def lowerAfter (before : List Char) : List Char → List Char
  | [] => []
  | c :: rest =>
    let form :=
      if c = capitalSigma then
        if meetsCaseLetter before && !meetsCaseLetter rest then ['ς'] else ['σ']
      else lowerChar c
    form ++ lowerAfter (c :: before) rest

def lower (s : List Char) : List Char := lowerAfter [] s

def upper (s : List Char) : List Char := s.flatMap upperChar

end SocketInventory.Text
