import SocketInventory.Json.Basic
import SocketInventory.Text.Numeral

/-!
# Writing JSON

A style says whether characters beyond ASCII are escaped and how far levels are indented. Without
indentation nothing stands between the parts of a value.
-/

namespace SocketInventory.Json

open Text (Letter Letters)

structure Style where
  /-- Only ASCII characters that print are written as themselves. -/
  asciiOnly : Bool
  /-- The columns of one level, or none for a single line. -/
  indent : Option Nat
  deriving DecidableEq, Repr

/-! ## Texts -/

def unitEscape (n : Nat) : List Char := '\\' :: 'u' :: Text.paddedHexChars 4 n

/-- A code point beyond the first plane is escaped as two units. -/
def codeEscape (n : Nat) : List Char :=
  if n < 0x10000 then unitEscape n
  else unitEscape (0xD800 + (n - 0x10000) / 0x400) ++ unitEscape (0xDC00 + (n - 0x10000) % 0x400)

def writeChar (asciiOnly : Bool) (c : Char) : List Char :=
  if c = '"' then ['\\', '"']
  else if c = '\\' then ['\\', '\\']
  else if c = '\n' then ['\\', 'n']
  else if c = '\r' then ['\\', 'r']
  else if c = '\t' then ['\\', 't']
  else if c = Char.ofNat 8 then ['\\', 'b']
  else if c = Char.ofNat 12 then ['\\', 'f']
  else if c.toNat < 0x20 || (asciiOnly && 0x7F ≤ c.toNat) then codeEscape c.toNat
  else [c]

/-- Half of a surrogate pair can be written as its escape only. -/
def writeLetter (asciiOnly : Bool) : Letter → List Char
  | .char c => writeChar asciiOnly c
  | .half place => unitEscape (Letter.half place).code

def writeText (asciiOnly : Bool) (s : Letters) : List Char :=
  '"' :: (s.flatMap (writeLetter asciiOnly) ++ ['"'])

/-! ## Values -/

/-- A new line, indented for a level. -/
def lineBreak (style : Style) (level : Nat) : List Char :=
  match style.indent with
  | none => []
  | some columns => '\n' :: List.replicate (columns * level) ' '

def colon (style : Style) : List Char :=
  match style.indent with
  | none => [':']
  | some _ => [':', ' ']

mutual
/-- A value whose own line is indented for `level`. -/
def write (style : Style) (level : Nat) : Json → List Char
  | .null => ['n', 'u', 'l', 'l']
  | .bool true => ['t', 'r', 'u', 'e']
  | .bool false => ['f', 'a', 'l', 's', 'e']
  | .int n => Text.integerChars n
  | .real x => x.chars
  | .text s => writeText style.asciiOnly s
  | .list [] => ['[', ']']
  | .list (item :: items) =>
    '[' :: (lineBreak style (level + 1) ++ write style (level + 1) item ++
      writeItems style (level + 1) items ++ lineBreak style level ++ [']'])
  | .object [] => ['\x7b', '\x7d']
  | .object ((name, value) :: members) =>
    '\x7b' :: (lineBreak style (level + 1) ++ writeText style.asciiOnly name ++ colon style ++
      write style (level + 1) value ++ writeMembers style (level + 1) members ++
      lineBreak style level ++ ['\x7d'])

def writeItems (style : Style) (level : Nat) : List Json → List Char
  | [] => []
  | item :: items =>
    ',' :: (lineBreak style level ++ write style level item ++ writeItems style level items)

def writeMembers (style : Style) (level : Nat) : List (Letters × Json) → List Char
  | [] => []
  | (name, value) :: members =>
    ',' :: (lineBreak style level ++ writeText style.asciiOnly name ++ colon style ++
      write style level value ++ writeMembers style level members)
end

def render (style : Style) (v : Json) : String := String.ofList (write style 0 v)

/-- One line, every character as itself. -/
def Style.compact : Style := ⟨false, none⟩

/-- Two columns a level, every character as itself. -/
def Style.pretty : Style := ⟨false, some 2⟩

def Style.ascii : Style := ⟨true, none⟩

end SocketInventory.Json
