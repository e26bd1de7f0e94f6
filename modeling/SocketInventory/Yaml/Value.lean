import SocketInventory.Data.Basic
import SocketInventory.Number.Decimal
import SocketInventory.Text.Base64
import SocketInventory.Text.Case
import SocketInventory.Text.Lines
import SocketInventory.Yaml.Fault

/-!
# Types and values of scalars

A plain scalar is of the type whose form its text has, and a text where it has none. The forms are
those of nothing, truth values, integers, decimals and dates. Other types are given by tags.
-/

namespace SocketInventory.Yaml

inductive Kind where
  | null
  | bool
  | int
  | real
  | date
  | octets
  | text
  /-- The key that puts in the entries of another map. -/
  | merge
  /-- The key of a default value. -/
  | default
  | list
  | pairs
  | map
  | set
  /-- A type of an unknown tag. -/
  | unknown
  deriving DecidableEq, Repr

/-- The types of the known tags, behind what these all start with. -/
def tagKinds : List (String × Kind) :=
  [("null", .null), ("bool", .bool), ("int", .int), ("float", .real), ("timestamp", .date),
    ("binary", .octets), ("str", .text), ("merge", .merge), ("value", .default), ("seq", .list),
    ("omap", .pairs), ("pairs", .pairs), ("map", .map), ("set", .set)].map fun (name, kind) =>
      ("tag:yaml.org,2002:" ++ name, kind)

def Kind.ofTag (tag : String) : Kind := (tagKinds.lookup tag).getD .unknown

/-! ## Forms -/

def isDigitOrBar (c : Char) : Bool := c.isDigit || c == '_'

/-- A text that starts with a digit of a class and goes on with digits and underscores. -/
def startsRun (first : Char → Bool) (s : List Char) : Bool :=
  s.head?.any first && s.all isDigitOrBar

/-- A number below sixty, of one or two digits. -/
def isSixtieth : List Char → Bool
  | [a] => a.isDigit
  | [a, b] => '0' ≤ a && a ≤ '5' && b.isDigit
  | _ => false

/-- Numbers to the base of sixty with colons between, at least two. -/
def isSixties (first : Char → Bool) (s : List Char) : Bool :=
  match Text.splitAt ':' s with
  | head :: part :: parts => startsRun first head && (part :: parts).all isSixtieth
  | _ => false

def isNonzeroDigit (c : Char) : Bool := c.isDigit && c != '0'

/-- Binary, octal, decimal, hexadecimal or to the base of sixty. -/
def isInteger (s : List Char) : Bool :=
  match (Number.cutSign s).2 with
  | ['0'] => true
  | '0' :: 'b' :: rest => !rest.isEmpty && rest.all fun c => c == '0' || c == '1' || c == '_'
  | '0' :: 'x' :: rest => !rest.isEmpty && rest.all fun c => (Text.hexValue? c).isSome || c == '_'
  | '0' :: rest => rest.all fun c => ('0' ≤ c && c ≤ '7') || c == '_'
  | rest => startsRun isNonzeroDigit rest || isSixties isNonzeroDigit rest

def isExponent : List Char → Bool
  | [] => true
  | e :: sign :: digits =>
    (e == 'e' || e == 'E') && (sign == '-' || sign == '+') && !digits.isEmpty &&
      digits.all Char.isDigit
  | _ => false

def isFraction (s : List Char) : Bool := isExponent (s.dropWhile isDigitOrBar)

def infinityWords : List String := [".inf", ".Inf", ".INF"]

def notNumberWords : List String := [".nan", ".NaN", ".NAN"]

/-- A decimal has a point; one that starts with it has no sign. -/
def isReal (s : List Char) : Bool :=
  let unsigned := (Number.cutSign s).2
  infinityWords.contains (String.ofList unsigned) || notNumberWords.contains (String.ofList s) ||
    (match Text.cutFirst? '.' unsigned with
      | some (whole, rest) =>
        (startsRun Char.isDigit whole && isFraction rest) ||
          (isSixties Char.isDigit whole && rest.all isDigitOrBar)
      | none => false) ||
    (match s with
      | '.' :: rest => rest.head?.any Char.isDigit && isFraction rest
      | _ => false)

def truthWords : List (String × Bool) :=
  [("yes", true), ("no", false), ("true", true), ("false", false), ("on", true), ("off", false)]

/-- A word in lower case, with a capital or in capitals. -/
def isTruthWord (s : List Char) : Bool :=
  truthWords.any fun (word, _) =>
    let w := word.toList
    s = w || s = w.map Char.toUpper || s = (w.take 1).map Char.toUpper ++ w.drop 1

def nullWords : List String := ["", "~", "null", "Null", "NULL"]

/-! ## Dates -/

/-- A number of `least` to `most` digits at the head of a text. -/
def number? (least most : Nat) (s : List Char) : Option (Nat × List Char) :=
  let digits := (s.take most).takeWhile Char.isDigit
  if digits.length < least then none
  else some (Text.ofDigits (digits.filterMap Text.digitValue?), s.drop digits.length)

def sign? (c : Char) : List Char → Option (List Char)
  | x :: rest => if x = c then some rest else none
  | [] => none

/-- The microseconds behind the seconds; digits beyond the sixth are dropped. -/
def microseconds (s : List Char) : Nat × List Char :=
  match s with
  | '.' :: rest =>
    let digits := rest.takeWhile Char.isDigit
    let six := (digits ++ List.replicate 6 '0').take 6
    (Text.ofDigits (six.filterMap Text.digitValue?), rest.drop digits.length)
  | _ => (0, s)

/-- The offset at the end of a time, in minutes. -/
def offset? (s : List Char) : Option (Option Int) :=
  match s.dropWhile fun c => c == ' ' || c == '\t' with
  | [] => if s.isEmpty then some none else none
  | ['Z'] => some (some 0)
  | sign :: rest =>
    if sign = '-' || sign = '+' then do
      let (hours, rest) ← number? 1 2 rest
      let minutes ←
        match rest with
        | [] => some 0
        | _ => do
          let (minutes, rest) ← number? 2 2 (← sign? ':' rest)
          if rest.isEmpty then some minutes else none
      let n : Int := (hours * 60 + minutes : Nat)
      return some (if sign = '-' then -n else n)
    else none

structure Clock where
  hour : Nat
  minute : Nat
  second : Nat
  microsecond : Nat
  offset : Option Int

/-- A time behind a date, the letter T or blanks between. -/
def clock? (s : List Char) : Option Clock := do
  let rest ←
    match s with
    | 'T' :: rest => some rest
    | 't' :: rest => some rest
    | ' ' :: rest => some (rest.dropWhile fun c => c == ' ' || c == '\t')
    | '\t' :: rest => some (rest.dropWhile fun c => c == ' ' || c == '\t')
    | _ => none
  let (hour, rest) ← number? 1 2 rest
  let (minute, rest) ← number? 2 2 (← sign? ':' rest)
  let (second, rest) ← number? 2 2 (← sign? ':' rest)
  let (micro, rest) := microseconds rest
  return ⟨hour, minute, second, micro, ← offset? rest⟩

/-- Year, month and day, and a time if there is one. -/
def stamp? (s : List Char) : Option (Nat × Nat × Nat × Option Clock) := do
  let (year, rest) ← number? 4 4 s
  let (month, rest) ← number? 1 2 (← sign? '-' rest)
  let (day, rest) ← number? 1 2 (← sign? '-' rest)
  if rest.isEmpty then return (year, month, day, none)
  else return (year, month, day, some (← clock? rest))

/-- A date by itself has two digits for its month and day. -/
def isDate (s : List Char) : Bool :=
  match stamp? s with
  | some (_, _, _, none) => s.length = 10
  | some (_, _, _, some _) => true
  | none => false

/-! ## Types by form -/

/-- A text without the line feed at its end, which does not count for its form. -/
def formOf (s : List Char) : List Char := if s.getLast? = some '\n' then s.dropLast else s

/-- The type whose form a text has. -/
def Kind.ofPlain (s : List Char) : Kind :=
  let form := formOf s
  if form.isEmpty then if s.isEmpty then .null else .text
  else if isTruthWord form then .bool
  else if isReal form then .real
  else if isInteger form then .int
  else if form = ['<', '<'] then .merge
  else if nullWords.contains (String.ofList form) then .null
  else if isDate form then .date
  else if form = ['='] then .default
  else .text

/-! ## Values -/

/-- Over the letter that names a base, behind a zero. -/
def dropBaseName (base : Nat) : List Char → List Char
  | '0' :: c :: rest =>
    if (base, c.toLower) = (2, 'b') || (base, c.toLower) = (8, 'o') || (base, c.toLower) = (16, 'x')
    then rest else '0' :: c :: rest
  | s => s

/-- The value of a digit of any script, or of a letter. -/
def digitOf? (c : Char) : Option Nat := (Text.digitValue? c).or (Text.hexValue? c)

/-- The number that a text is to a base, with an optional sign and name of the base. -/
def inBase? (base : Nat) (s : List Char) : Option Int := do
  let (negative, rest) := Number.cutSign (Text.trimBy Text.isNumeralBlank s)
  let values ← (dropBaseName base rest).mapM digitOf?
  if values.isEmpty || values.any (base ≤ ·) then none
  let n : Int := (values.foldl (fun n d => base * n + d) 0 : Nat)
  return if negative then -n else n

def decimal? (s : List Char) : Option Int := (Text.parseInteger s).toOption

/-- The integer of a text without a first sign. -/
def readMagnitude : List Char → Except Fault Int
  | [] => .error (.data .emptyNumeral)
  | ['0'] => .ok 0
  | '0' :: 'b' :: digits => orMalformed (inBase? 2 digits)
  | '0' :: 'x' :: digits => orMalformed (inBase? 16 digits)
  | '0' :: digits => orMalformed (inBase? 8 ('0' :: digits))
  | s => do
    let parts ← orMalformed ((Text.splitAt ':' s).mapM decimal?)
    return parts.foldl (fun n d => 60 * n + d) 0

/-- The integer of a text; underscores count nothing. -/
def readInteger (s : List Char) : Except Fault Int := do
  let (negative, rest) := Number.cutSign (s.filter (!Text.isUnderscore ·))
  let n ← readMagnitude rest
  return if negative then -n else n

/-- The sum of the parts of a decimal to the base of sixty, the last part first. The weight of a
part may be beyond all decimals. -/
def sumSixties (weight : Int) (sum : Number.Binary64) :
    List Number.Binary64 → Except Fault Number.Binary64
  | [] => .ok sum
  | part :: parts =>
    match Number.Binary64.ofInt weight with
    | .infinite _ => .error (.data .placeRange)
    | factor => sumSixties (weight * 60) (sum.add (part.mul factor)) parts

/-- The decimal of a text without a first sign, in lower case. -/
def readAmount (s : List Char) : Except Fault Number.Binary64 :=
  if infinityWords.contains (String.ofList s) then .ok (.infinite false)
  else if s.contains ':' then do
    let parts ← orMalformed ((Text.splitAt ':' s).mapM Number.Binary64.parse?)
    sumSixties 1 (.ofInt 0) parts.reverse
  else orMalformed (Number.Binary64.parse? s)

/-- The decimal of a text; underscores count nothing. -/
def readReal (s : List Char) : Except Fault Number.Binary64 := do
  let plain := (s.filter (!Text.isUnderscore ·)).map Char.toLower
  if plain.isEmpty then throw (.data .emptyNumeral)
  let (negative, rest) := Number.cutSign plain
  if notNumberWords.contains (String.ofList rest) then return .nan
  let x ← readAmount rest
  return if negative then x.negate else x

/-- The date or moment of a text that has the form of one; its parts may be out of range. -/
def readDate (s : List Char) : Except Fault Data := do
  match stamp? (formOf s) with
  | none => throw (.data .noDate)
  | some (year, month, day, clock) =>
    let date ← orMalformed (Date.ofParts? year month day)
    match clock with
    | none => return .date date
    | some c =>
      return .moment
        (← orMalformed (Moment.ofParts? date c.hour c.minute c.second c.microsecond c.offset))

def readOctets (s : List Char) : Except Fault Data :=
  if s.all (·.toNat < 0x80) then (orMalformed (Text.decodeBase64? s)).map .octets
  else .error .malformed

/-- The value of a text of a type; the types of lists, maps and special keys have none. -/
def Kind.read (s : Text.Letters) (kind : Kind) : Except Fault Data :=
  let chars := s.map Text.Letter.kept
  match kind with
  | .null => .ok .null
  | .bool =>
    let word := String.ofList (Text.lower chars)
    match truthWords.lookup word with
    | some b => .ok (.bool b)
    | none => .error (.noTruthValue word)
  | .int => (readInteger chars).map .int
  | .real => (readReal chars).map .real
  | .date => readDate chars
  | .octets => readOctets chars
  | .text => .ok (.text s)
  | _ => .error .malformed

end SocketInventory.Yaml
