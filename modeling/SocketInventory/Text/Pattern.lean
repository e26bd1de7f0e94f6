/-!
# Star patterns

In a pattern a star stands for any run of characters within a line; every other character stands
for itself.
-/

namespace SocketInventory.Text

/-- The whole text fits the pattern. -/
def fits (pattern text : List Char) : Bool :=
  match pattern, text with
  | [], [] => true
  | [], _ :: _ => false
  | '*' :: p, [] => fits p []
  | '*' :: p, c :: t => fits p (c :: t) || (c != '\n' && fits ('*' :: p) t)
  | _ :: _, [] => false
  | d :: p, c :: t => d == c && fits p t
termination_by pattern.length + text.length

def hasStar (pattern : List Char) : Bool := pattern.contains '*'

end SocketInventory.Text
