import SocketInventory.Text.CodePoint

/-!
# Places in a YAML text

A cursor is what is left of a text, with its length and the line and column where it starts. Lines
end at a line feed, a next line, a line separator or a paragraph separator; carriage returns are
gone before a text is read.
-/

namespace SocketInventory.Yaml

/-! ## Characters -/

/-- The characters that a text may hold. -/
def contents : Text.CodePoints :=
  [(0x9, 0xA), (0xD, 0xD), (0x20, 0x7E), (0x85, 0x85), (0xA0, 0xD7FF), (0xE000, 0xFFFD),
    (0x10000, 0x10FFFF)]

def byteOrderMark : Char := Char.ofNat 0xFEFF

def isBreak (c : Char) : Bool :=
  c == '\n' || c.toNat == 0x85 || c.toNat == 0x2028 || c.toNat == 0x2029

def isSpace (c : Char) : Bool := c == ' '

def isSpaceOrTab (c : Char) : Bool := c == ' ' || c == '\t'

def isSpaceOrBreak (c : Char) : Bool := c == ' ' || isBreak c

/-- Blanks, breaks and the end of the text come after a word. -/
def endsWord : Option Char → Bool
  | none => true
  | some c => isSpaceOrTab c || isBreak c

def endsPart : Option Char → Bool
  | none => true
  | some c => isSpaceOrBreak c

/-- The characters of anchors, directive names and tag handles. -/
def isNameChar (c : Char) : Bool := c.isAlphanum || c == '-' || c == '_'

/-! ## Cursors -/

structure Cursor where
  rest : List Char
  /-- The number of characters in the rest. -/
  left : Nat
  line : Nat
  column : Nat
  deriving DecidableEq, Repr

namespace Cursor

def start (s : List Char) : Cursor := ⟨s, s.length, 0, 0⟩

def peek (c : Cursor) : Option Char := c.rest.head?

def ahead (c : Cursor) (k : Nat) : Option Char := c.rest[k]?

/-- Moves over one character. A byte order mark takes no column. -/
def step (c : Cursor) : Cursor :=
  match c.rest with
  | [] => c
  | x :: rest =>
    if isBreak x then ⟨rest, c.left - 1, c.line + 1, 0⟩
    else ⟨rest, c.left - 1, c.line, if x = byteOrderMark then c.column else c.column + 1⟩

theorem step_rest {c : Cursor} {x : Char} {rest : List Char} (h : c.rest = x :: rest) :
    c.step.rest = rest := by
  unfold step
  rw [h]
  dsimp only
  split <;> rfl

def advance : Nat → Cursor → Cursor
  | 0, c => c
  | n + 1, c => advance n c.step

/-- The longest run of a class of characters, and the place behind it. -/
def run (class_ : Char → Bool) (c : Cursor) : List Char × Cursor :=
  let text := c.rest.takeWhile class_
  (text, c.advance text.length)

/-- The place behind a run of a class of characters. -/
def skip (class_ : Char → Bool) (c : Cursor) : Cursor := (c.run class_).2

/-- A break at the cursor as it is kept: a next line becomes a line feed. -/
def break? (c : Cursor) : Option (Char × Cursor) :=
  match c.peek with
  | some x =>
    if isBreak x then some (if x.toNat = 0x85 then '\n' else x, c.step) else none
  | none => none

/-- A document marker of a given sign stands at the cursor. -/
def atMarker (sign : Char) (c : Cursor) : Bool :=
  [sign, sign, sign].isPrefixOf c.rest && endsWord (c.ahead 3)

def atAnyMarker (c : Cursor) : Bool := c.atMarker '-' || c.atMarker '.'

/-- Over the spaces and the comment that may end a line. -/
def skipTrailer (c : Cursor) : Cursor :=
  let c := c.skip isSpace
  if c.peek = some '#' then c.skip (!isBreak ·) else c

/-- To the next line, where only spaces and a comment are left on this one. -/
def finishLine? (c : Cursor) : Option Cursor :=
  let c := c.skipTrailer
  match c.break? with
  | some (_, next) => some next
  | none => if c.rest.isEmpty then some c else none

end Cursor

end SocketInventory.Yaml
