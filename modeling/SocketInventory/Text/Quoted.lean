import SocketInventory.Text.Letter
import SocketInventory.Text.Numeral
import SocketInventory.Text.Printable

/-!
# Quoted texts

A text in a message stands between single quotes, or between double quotes when it holds a single
quote and no double one. The quote in use, the backslash, and characters that do not print are
written as escapes.
-/

namespace SocketInventory.Text

def quoteFor (s : List Char) : Char :=
  if s.contains '\'' && !s.contains '"' then '"' else '\''

/-- The escape of a code point. -/
def codeEscape (n : Nat) : List Char :=
  if n < 0x100 then '\\' :: 'x' :: paddedHexChars 2 n
  else if n < 0x10000 then '\\' :: 'u' :: paddedHexChars 4 n
  else '\\' :: 'U' :: paddedHexChars 8 n

/-- The written form of one character between the given quotes. -/
def quoteChar (quote c : Char) : List Char :=
  if c = quote || c = '\\' then ['\\', c]
  else if c = '\n' then ['\\', 'n']
  else if c = '\r' then ['\\', 'r']
  else if c = '\t' then ['\\', 't']
  else if isPrintable c then [c]
  else codeEscape c.toNat

def quoteChars (s : List Char) : List Char :=
  quoteFor s :: (s.flatMap (quoteChar (quoteFor s)) ++ [quoteFor s])

def quote (s : String) : String := String.ofList (quoteChars s.toList)

/-! ## Letters -/

/-- Half of a surrogate pair does not print. -/
def quoteLetter (quote : Char) : Letter → List Char
  | .char c => quoteChar quote c
  | .half place => codeEscape (Letter.half place).code

def quoteLetters (ls : Letters) : List Char :=
  let quote := quoteFor (ls.map Letter.kept)
  quote :: (ls.flatMap (quoteLetter quote) ++ [quote])

/-! ## Octets -/

/-- The written form of one octet: a character of ASCII as in a text, any other in hexadecimal. -/
def quoteOctet (quote : Char) (b : UInt8) : List Char :=
  if b.toNat < 0x80 then quoteChar quote (Char.ofNat b.toNat)
  else '\\' :: 'x' :: paddedHexChars 2 b.toNat

/-- Octets are quoted like a text and marked with the letter b. -/
def quoteOctets (bytes : List UInt8) : List Char :=
  let quote := quoteFor (bytes.map fun b => Char.ofNat b.toNat)
  'b' :: quote :: (bytes.flatMap (quoteOctet quote) ++ [quote])

end SocketInventory.Text
