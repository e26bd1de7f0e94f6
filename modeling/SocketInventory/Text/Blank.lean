import SocketInventory.Text.CodePoint

/-!
# Blank characters

The white space of Unicode together with the four information separators U+001C to U+001F. Texts
are trimmed, tested for blankness and cut into words by this set.
-/

namespace SocketInventory.Text

def blanks : CodePoints :=
  [(0x9, 0xD), (0x1C, 0x20), (0x85, 0x85), (0xA0, 0xA0), (0x1680, 0x1680), (0x2000, 0x200A),
    (0x2028, 0x2029), (0x202F, 0x202F), (0x205F, 0x205F), (0x3000, 0x3000)]

def isBlank (c : Char) : Bool := blanks.has c

/-- Drops the characters of a class from both ends. -/
def trimBy (class_ : Char → Bool) (s : List Char) : List Char :=
  ((s.dropWhile class_).reverse.dropWhile class_).reverse

def trim (s : List Char) : List Char := trimBy isBlank s

def trimEnd (s : List Char) : List Char := (s.reverse.dropWhile isBlank).reverse

/-- Nothing but blanks, the empty text included. -/
def isBlankText (s : List Char) : Bool := s.all isBlank

end SocketInventory.Text
