import SocketInventory.Text.Blank
import SocketInventory.Text.Digit

/-!
# Integer numerals

An integer is written as an optional sign and decimal digits of any script, single underscores
allowed between digits, blanks allowed at both ends. A numeral of more than `digitLimit` digits is
refused whatever follows it.
-/

namespace SocketInventory.Text

/-- Why a text is not read as an integer. -/
inductive NumeralFault where
  | malformed
  | tooLong (digits : Nat)
  deriving DecidableEq, Repr

/-- The greatest number of digits that is converted. -/
def digitLimit : Nat := 4300

/-- The blanks that may surround a numeral: all but the information separators. -/
def isNumeralBlank (c : Char) : Bool := isBlank c && !(0x1C ≤ c.toNat && c.toNat ≤ 0x1F)

def isUnderscore (c : Char) : Bool := c == '_'

/-- The number with the given decimal digits, the highest first. -/
def ofDigits (digits : List Nat) : Nat := digits.foldl (fun n d => 10 * n + d) 0

/-- Every underscore stands between two digits; `afterDigit` tells what came before. -/
def underscoresBetween (afterDigit : Bool) : List Char → Bool
  | [] => afterDigit
  | c :: rest =>
    if isUnderscore c then afterDigit && underscoresBetween false rest
    else underscoresBetween true rest

/-- Reads a numeral without its sign and leading blanks. -/
def parseMagnitude (s : List Char) : Except NumeralFault Nat :=
  let run := s.takeWhile fun c => isDecimalDigit c || isUnderscore c
  let digits := run.filterMap digitValue?
  if !underscoresBetween false run then .error .malformed
  else if digitLimit < digits.length then .error (.tooLong digits.length)
  else if (s.drop run.length).all isNumeralBlank then .ok (ofDigits digits)
  else .error .malformed

def parseInteger (s : List Char) : Except NumeralFault Int :=
  match s.dropWhile isNumeralBlank with
  | '-' :: rest => (parseMagnitude rest).map fun n => -(n : Int)
  | '+' :: rest => (parseMagnitude rest).map fun n => (n : Int)
  | rest => (parseMagnitude rest).map fun n => (n : Int)

/-! ## Writing -/

def decimalChars (n : Nat) : List Char := Nat.toDigits 10 n

/-- The canonical numeral of an integer. -/
def integerChars : Int → List Char
  | .ofNat n => decimalChars n
  | .negSucc n => '-' :: decimalChars (n + 1)

def integerText (n : Int) : String := String.ofList (integerChars n)

/-- The lower-case hexadecimal digits of a number, without leading zeros. -/
def hexChars (n : Nat) : List Char := Nat.toDigits 16 n

/-- Hexadecimal digits, filled with zeros on the left up to a width. -/
def paddedHexChars (width n : Nat) : List Char :=
  List.replicate (width - (hexChars n).length) '0' ++ hexChars n

def hexValue? (c : Char) : Option Nat :=
  if '0' ≤ c && c ≤ '9' then some (c.toNat - '0'.toNat)
  else if 'a' ≤ c && c ≤ 'f' then some (c.toNat - 'a'.toNat + 10)
  else if 'A' ≤ c && c ≤ 'F' then some (c.toNat - 'A'.toNat + 10)
  else none

/-- The number with the given hexadecimal digits; other characters count nothing. -/
def ofHexDigits (digits : List Char) : Nat :=
  digits.foldl (fun n c => 16 * n + (hexValue? c).getD 0) 0

end SocketInventory.Text
