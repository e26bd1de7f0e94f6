import SocketInventory.Number.Binary64

/-!
# Reading decimals

A decimal has an optional sign, digits with an optional point, and an optional exponent; single
underscores may stand between digits, and blanks at both ends. The words for infinity and for no
number are read in any case.
-/

namespace SocketInventory.Number

def asciiDigits (s : List Char) : List Char :=
  s.map fun c => ((Text.digitValue? c).map Nat.digitChar).getD c

/-- Drops the underscores of a text in which each stands between two digits. -/
def dropUnderscores? (afterDigit : Bool) : List Char → Option (List Char)
  | [] => some []
  | c :: rest =>
    if Text.isUnderscore c then
      if afterDigit && (rest.head?.any Char.isDigit) then dropUnderscores? false rest else none
    else (dropUnderscores? c.isDigit rest).map (c :: ·)

/-- Whether a text starts with a minus sign, and the text without its sign. -/
def cutSign : List Char → Bool × List Char
  | '-' :: rest => (true, rest)
  | '+' :: rest => (false, rest)
  | s => (false, s)

/-- The exponent of ten behind a decimal; no text is the exponent zero. -/
def exponent? : List Char → Option Int
  | [] => some 0
  | e :: rest =>
    let (negative, digits) := cutSign rest
    if (e = 'e' || e = 'E') && !digits.isEmpty && digits.all Char.isDigit then
      let n : Int := Text.ofDigits (digits.filterMap Text.digitValue?)
      some (if negative then -n else n)
    else none

/-- A decimal without its sign, in ASCII. -/
def magnitude? (negative : Bool) (s : List Char) : Option Binary64 :=
  let whole := s.takeWhile Char.isDigit
  let rest := s.dropWhile Char.isDigit
  let (fraction, rest) :=
    match rest with
    | '.' :: rest => (rest.takeWhile Char.isDigit, rest.dropWhile Char.isDigit)
    | _ => ([], rest)
  let digits := (whole ++ fraction).filterMap Text.digitValue?
  if digits.isEmpty then none
  else
    (exponent? rest).map fun e => .ofDecimal negative (Text.ofDigits digits) (e - fraction.length)

/-- A number or a word without its sign. -/
def word? (negative : Bool) (s : List Char) : Option Binary64 :=
  let name := s.map Char.toLower
  if name = ['i', 'n', 'f'] || name = ['i', 'n', 'f', 'i', 'n', 'i', 't', 'y'] then
    some (.infinite negative)
  else if name = ['n', 'a', 'n'] then some .nan
  else magnitude? negative s

def Binary64.parse? (s : List Char) : Option Binary64 := do
  let plain ← dropUnderscores? false (asciiDigits (Text.trimBy Text.isNumeralBlank s))
  let (negative, rest) := cutSign plain
  word? negative rest

end SocketInventory.Number
