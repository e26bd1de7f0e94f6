import SocketInventory.Text.Numeral

/-!
# Binary floating-point numbers

The numbers of 53 binary digits and eleven bits of exponent, as exact values. A decimal or a
quotient is rounded to the nearest of them, ties to the even one.
-/

namespace SocketInventory.Number

/-- A finite number is `significand * 2 ^ exponent` with a sign; zero has a sign too. -/
inductive Binary64 where
  | nan
  | infinite (negative : Bool)
  | finite (negative : Bool) (significand : Nat) (exponent : Int)
  deriving DecidableEq, Repr

/-- The integer nearest to a quotient, a tie going to the even one. -/
def roundDiv (num den : Nat) : Nat :=
  let q := num / den
  let r := num % den
  if 2 * r < den then q
  else if den < 2 * r then q + 1
  else if q % 2 = 0 then q
  else q + 1

/-- Scales a quotient by a power of two: numerator and denominator. -/
def scaleTwo (num den : Nat) (e : Int) : Nat × Nat :=
  if 0 ≤ e then (num * Nat.pow 2 e.toNat, den) else (num, den * Nat.pow 2 (-e).toNat)

/-- Scales a quotient by a power of ten: numerator and denominator. -/
def scaleTen (num den : Nat) (e : Int) : Nat × Nat :=
  if 0 ≤ e then (num * Nat.pow 10 e.toNat, den) else (num, den * Nat.pow 10 (-e).toNat)

namespace Binary64

/-- The exponent of the binary digit that a positive quotient starts with. -/
def leadingExponent (num den : Nat) : Int :=
  let guess : Int := (Nat.log2 num : Int) - (Nat.log2 den : Int)
  let (n, d) := scaleTwo num den (-guess)
  if n < d then guess - 1 else guess

/-- The number nearest to a quotient. -/
def ofQuotient (negative : Bool) (num den : Nat) : Binary64 :=
  if num = 0 then .finite negative 0 0
  else
    let exponent := max (leadingExponent num den - 52) (-1074)
    let (n, d) := scaleTwo num den (-exponent)
    let significand := roundDiv n d
    let (significand, exponent) :=
      if significand = 0x20000000000000 then (0x10000000000000, exponent + 1)
      else (significand, exponent)
    if significand = 0 then .finite negative 0 0
    else if 971 < exponent then .infinite negative
    else .finite negative significand exponent

/-- The number nearest to `digits * 10 ^ exponent`. Exponents far out of range are decided by the
number of digits alone. -/
def ofDecimal (negative : Bool) (digits : Nat) (exponent : Int) : Binary64 :=
  let size : Int := (Text.decimalChars digits).length + exponent
  if digits = 0 || size < -330 then .finite negative 0 0
  else if 400 < size then .infinite negative
  else
    let (n, d) := scaleTen digits 1 exponent
    ofQuotient negative n d

def ofInt (n : Int) : Binary64 := ofQuotient (n < 0) n.natAbs 1

/-- The absolute value of a finite number as a quotient. -/
def quotient? : Binary64 → Option (Nat × Nat)
  | .finite _ significand exponent => some (scaleTwo significand 1 exponent)
  | _ => none

def isNegative : Binary64 → Bool
  | .nan => false
  | .infinite negative => negative
  | .finite negative significand _ => negative && significand != 0

def isPositive : Binary64 → Bool
  | .nan => false
  | .infinite negative => !negative
  | .finite negative significand _ => !negative && significand != 0

def negate : Binary64 → Binary64
  | .nan => .nan
  | .infinite negative => .infinite (!negative)
  | .finite negative significand exponent => .finite (!negative) significand exponent

def equalsInt (x : Binary64) (n : Int) : Bool :=
  match x.quotient? with
  | some (num, den) =>
    num == n.natAbs * den && (num == 0 || x.isNegative == decide (n < 0))
  | none => false

/-- Equal as numbers: zeros of both signs are one, and nothing equals what is no number. -/
def sameValue (x y : Binary64) : Bool :=
  match x, y with
  | .nan, _ => false
  | _, .nan => false
  | .finite _ 0 _, .finite _ 0 _ => true
  | x, y => x == y

/-- The rounded sum. A sum of zero is negative when both parts are. -/
def add : Binary64 → Binary64 → Binary64
  | .nan, _ => .nan
  | _, .nan => .nan
  | .infinite a, .infinite b => if a = b then .infinite a else .nan
  | .infinite a, _ => .infinite a
  | _, .infinite b => .infinite b
  | .finite a m e, .finite b n f =>
    let (p, q) := scaleTwo m 1 e
    let (r, s) := scaleTwo n 1 f
    let signed (negative : Bool) (k : Nat) : Int := if negative then -k else k
    let sum := signed a (p * s) + signed b (r * q)
    ofQuotient (if sum = 0 then a && b else decide (sum < 0)) sum.natAbs (q * s)

def mul : Binary64 → Binary64 → Binary64
  | .nan, _ => .nan
  | _, .nan => .nan
  | .infinite a, .infinite b => .infinite (a != b)
  | .infinite a, .finite b n _ => if n = 0 then .nan else .infinite (a != b)
  | .finite a m _, .infinite b => if m = 0 then .nan else .infinite (a != b)
  | .finite a m e, .finite b n f =>
    let (p, q) := scaleTwo m 1 e
    let (r, s) := scaleTwo n 1 f
    ofQuotient (a != b) (p * r) (q * s)

/-! ## Shortest decimal -/

/-- The exponent of ten with `10 ^ (e - 1) ≤ num / den < 10 ^ e`, for a positive quotient. -/
def decimalPoint (num den : Nat) : Int :=
  if den ≤ num then ((Text.decimalChars (num / den)).length : Int)
  else
    -- the first power of ten that lifts the quotient to one or more
    let lift := (List.range 400).find? fun k => den ≤ num * Nat.pow 10 k
    1 - (lift.getD 0 : Int)

/-- The decimal of `count` digits nearest to a quotient that rounds back to `x`. -/
def decimalOfSize? (x : Binary64) (num den : Nat) (point : Int) (count : Nat) : Option Nat :=
  let (n, d) := scaleTen num den ((count : Int) - point)
  let low := n / d
  let readsBack (k : Nat) : Bool := ofDecimal false k (point - count) == x
  let nearest := roundDiv n d
  if readsBack nearest then some nearest
  else if readsBack low then some low
  else if readsBack (low + 1) then some (low + 1)
  else none

/-- The fewest digits that read back as a positive number, and the place of its point. -/
def shortest (x : Binary64) (num den : Nat) : List Char × Int :=
  let point := decimalPoint num den
  let digits := ((List.range 18).drop 1).findSome? fun count =>
    (decimalOfSize? x num den point count).map fun k => (k, count)
  match digits with
  | some (k, count) =>
    let text := Text.decimalChars k
    let kept := (text.reverse.dropWhile (· == '0')).reverse
    (kept, point + (text.length : Int) - (count : Int))
  | none => (['0'], 1)

/-- Positional notation is used for points from `-3` to `16`; a whole number keeps one zero behind
the point. Elsewhere one digit stands before the point, and the exponent has a sign and at least
two digits. -/
def layout (digits : List Char) (point : Int) : List Char :=
  if -4 < point && point ≤ 16 then
    if point ≤ 0 then '0' :: '.' :: (List.replicate (-point).toNat '0' ++ digits)
    else if (digits.length : Int) ≤ point then
      digits ++ List.replicate (point.toNat - digits.length) '0' ++ ['.', '0']
    else digits.take point.toNat ++ '.' :: digits.drop point.toNat
  else
    let fraction := if 1 < digits.length then '.' :: digits.drop 1 else []
    let exponent := point - 1
    let size := Text.decimalChars exponent.natAbs
    digits.take 1 ++ fraction ++ 'e' :: (if exponent < 0 then '-' else '+') ::
      (if size.length < 2 then '0' :: size else size)

def chars : Binary64 → List Char
  | .nan => ['n', 'a', 'n']
  | .infinite negative => (if negative then ['-'] else []) ++ ['i', 'n', 'f']
  | .finite negative significand exponent =>
    let sign := if negative then ['-'] else []
    if significand = 0 then sign ++ ['0', '.', '0']
    else
      let (num, den) := scaleTwo significand 1 exponent
      let (digits, point) := shortest (.finite false significand exponent) num den
      sign ++ layout digits point

/-- The shortest decimal text that reads back as the number. -/
def text (x : Binary64) : String := String.ofList x.chars

end Binary64

end SocketInventory.Number
