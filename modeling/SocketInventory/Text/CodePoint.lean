/-!
# Sets of code points

A set of characters is a list of closed ranges of code points. The larger tables of this library
are values of this type, one module for each property. Texts are ordered by their code points.
-/

namespace SocketInventory.Text

/-- Closed ranges of code points, lowest first. -/
abbrev CodePoints := List (Nat × Nat)

/-- A character belongs to a set when some range of the set covers it. -/
def CodePoints.has (set : CodePoints) (c : Char) : Bool :=
  set.any fun range => range.1 ≤ c.toNat && c.toNat ≤ range.2

/-- The code points of a text, by which texts are ordered. -/
def codes (s : List Char) : List Nat := s.map Char.toNat

end SocketInventory.Text
