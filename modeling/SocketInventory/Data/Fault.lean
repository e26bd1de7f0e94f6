import SocketInventory.Text.Numeral

/-!
# Faults of loaded data

What a value of a presets file may ask beyond the limits of reading and showing it, though its
text is well formed.
-/

namespace SocketInventory

/-- Where values stand too deep within each other. -/
inductive Nesting where
  | jsonList
  | jsonObject
  | document
  | display
  deriving DecidableEq, Repr

/-- How many values may stand in each other, by where they do. -/
structure Limits where
  /-- Lists and objects of the interchange format. -/
  json : Nat
  /-- Lists and maps of a document. -/
  document : Nat
  /-- Maps that are followed for a text or merged into each other. -/
  chain : Nat
  /-- Values that are shown. -/
  display : Nat

def Limits.standard : Limits := ⟨989, 489, 980, 992⟩

inductive DataFault where
  /-- An integer or decimal of no characters. -/
  | emptyNumeral
  /-- A text marked as a date that has not the form of one. -/
  | noDate
  /-- A map marked as a date. -/
  | dateOfMap
  /-- The code of a character beyond 31 bits. -/
  | codeRange
  /-- A place to the base of sixty beyond all decimals. -/
  | placeRange
  /-- An integer of more digits than are shown. -/
  | integerLength
  | nesting (n : Nesting)
  deriving DecidableEq, Repr

def Nesting.activity : Nesting → String
  | .jsonList => " while decoding a JSON array from a unicode string"
  | .jsonObject => " while decoding a JSON object from a unicode string"
  | .document => ""
  | .display => " while getting the repr of an object"

def DataFault.message : DataFault → String
  | .emptyNumeral => "string index out of range"
  | .noDate => "'NoneType' object has no attribute 'groupdict'"
  | .dateOfMap => "expected string or bytes-like object, got 'list'"
  | .codeRange => "Python int too large to convert to C int"
  | .placeRange => "int too large to convert to float"
  | .integerLength =>
    "Exceeds the limit (" ++ toString Text.digitLimit ++
      " digits) for integer string conversion; use sys.set_int_max_str_digits() to increase the limit"
  | .nesting n => "maximum recursion depth exceeded" ++ n.activity

end SocketInventory
