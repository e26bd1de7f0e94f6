import SocketInventory.Text.Letter
import SocketInventory.Text.Numeral
import SocketInventory.Yaml.Cursor
import SocketInventory.Yaml.Fault

/-!
# Scalar texts

A scalar is written plain, between quotes, or as a block of indented lines. A single line break
inside a plain or quoted scalar is folded to a space, and further breaks are kept.
-/

namespace SocketInventory.Yaml

open Text (Letter Letters)

/-- What a break followed by further breaks leaves of a folded text. -/
def fold (first : Char) (more : List Char) : List Char :=
  (if first ≠ '\n' then [first] else if more.isEmpty then [' '] else []) ++ more

/-! ## Plain scalars -/

/-- A colon ends a plain scalar where a word ends behind it, inside brackets also before one. -/
def endsKey (flow : Bool) (next : Option Char) : Bool :=
  endsWord next || (flow && next.any fun c => [',', '[', ']', '\x7b', '\x7d'].contains c)

/-- The signs that end a plain scalar inside brackets. -/
def isFlowSign (c : Char) : Bool := [',', '?', '[', ']', '\x7b', '\x7d'].contains c

/-- The characters of a plain scalar up to a blank, a break or a sign. -/
def plainRun (flow : Bool) : List Char → List Char
  | [] => []
  | c :: rest =>
    if endsWord (some c) || (c == ':' && endsKey flow rest.head?) || (flow && isFlowSign c) then []
    else c :: plainRun flow rest

/-- Breaks with the spaces of their lines, up to a document marker, which is reported by `none`. -/
def plainBreaks (c : Cursor) : Option (List Char) × Cursor :=
  if c.atAnyMarker && c.column = 0 then (none, c)
  else
    match h : c.rest with
    | [] => (some [], c)
    | x :: rest =>
      have := Cursor.step_rest h
      if isSpaceOrBreak x then
        let (breaks, next) := plainBreaks c.step
        (breaks.map fun more => (c.break?.map (·.1)).toList ++ more, next)
      else (some [], c)
termination_by c.rest.length
decreasing_by simp_all

/-- What stands between two runs of a plain scalar. -/
structure Gap where
  /-- Nothing when the scalar ends before. -/
  text : List Char
  /-- The gap reaches to another line. -/
  broken : Bool
  next : Cursor

def readGap (c : Cursor) : Gap :=
  let (spaces, c) := c.run isSpace
  match c.break? with
  | none => ⟨spaces, false, c⟩
  | some (first, c) =>
    match plainBreaks c with
    | (some more, next) => ⟨fold first more, true, next⟩
    | (none, next) => ⟨[], true, next⟩

/-- A plain scalar whose further lines are indented by `indent` columns or more, its place of end,
and whether that is on a later line. -/
def readPlain (flow : Bool) (indent : Nat) (c : Cursor) : List Char × Bool × Cursor :=
  let text := plainRun flow c.rest
  let gap := readGap (c.advance text.length)
  if gap.text.isEmpty || gap.next.peek = some '#' || (!flow && gap.next.column < indent) ||
      (plainRun flow gap.next.rest).isEmpty then
    (text, gap.broken, gap.next)
  else if gap.next.left < c.left then
    let (more, broken, next) := readPlain flow indent gap.next
    (text ++ gap.text ++ more, broken, next)
  else (text, gap.broken, gap.next)
termination_by c.left

/-! ## Quoted scalars -/

/-- Breaks inside quotes with the blanks of their lines; no document marker may stand there. -/
def quotedBreaks (c : Cursor) : Option (List Char × Cursor) :=
  if c.column = 0 && c.atAnyMarker then none
  else
    match h : c.rest with
    | [] => some ([], c)
    | x :: rest =>
      have := Cursor.step_rest h
      if isSpaceOrTab x || isBreak x then
        (quotedBreaks c.step).map fun (more, next) => ((c.break?.map (·.1)).toList ++ more, next)
      else some ([], c)
termination_by c.rest.length
decreasing_by simp_all

/-- Escapes of one character, by the code points that they stand for. -/
def escapeCodes : List (Char × Nat) :=
  [('0', 0x0), ('a', 0x7), ('b', 0x8), ('t', 0x9), ('\t', 0x9), ('n', 0xA), ('v', 0xB),
    ('f', 0xC), ('r', 0xD), ('e', 0x1B), (' ', 0x20), ('"', 0x22), ('\\', 0x5C), ('/', 0x2F),
    ('N', 0x85), ('_', 0xA0), ('L', 0x2028), ('P', 0x2029)]

/-- The number of hexadecimal digits behind a letter. -/
def escapeSizes : List (Char × Nat) := [('x', 2), ('u', 4), ('U', 8)]

/-- The letter of a code, which may be half of a surrogate pair. -/
def letterOf (code : Nat) : Except Fault Letter :=
  if 0x80000000 ≤ code then .error (.data .codeRange)
  else if 0x110000 ≤ code then .error .malformed
  else .ok (Letter.ofCode code)

/-- What an escape stands for; the cursor is behind the backslash. -/
def readEscape (c : Cursor) : Except Fault (Letters × Cursor) := do
  let x ← orMalformed c.peek
  match escapeCodes.lookup x, escapeSizes.lookup x with
  | some code, _ => return ([.char (Char.ofNat code)], c.step)
  | none, some size =>
    let digits := c.step.rest.take size
    if digits.length = size && digits.all fun d => (Text.hexValue? d).isSome then
      return ([← letterOf (Text.ofHexDigits digits)], c.step.advance size)
    else throw .malformed
  | none, none =>
    let (_, next) ← orMalformed c.break?
    let (breaks, next) ← orMalformed (quotedBreaks next)
    return (breaks.map .char, next)

def quotedGap? (c : Cursor) : Option (List Char × Cursor) := do
  let (blanks, c) := c.run isSpaceOrTab
  match c.break? with
  | none => return (blanks, c)
  | some (first, c) =>
    let (more, next) ← quotedBreaks c
    return (fold first more, next)

/-- A piece of a quoted scalar, or `none` for its closing quote. -/
def quotedPiece (quote : Char) (c : Cursor) : Except Fault (Option Letters × Cursor) := do
  let x ← orMalformed c.peek
  if isSpaceOrTab x || isBreak x then
    let (text, next) ← orMalformed (quotedGap? c)
    return (some (text.map .char), next)
  else if x = quote then
    if quote = '\'' && c.ahead 1 = some '\'' then return (some [.char '\''], c.advance 2)
    else return (none, c.step)
  else if quote = '"' && x = '\\' then
    let (text, next) ← readEscape c.step
    return (some text, next)
  else return (some [.char x], c.step)

/-- The rest of a quoted scalar up to its closing quote. -/
def readQuoted (quote : Char) (c : Cursor) : Except Fault (Letters × Cursor) :=
  match quotedPiece quote c with
  | .error f => .error f
  | .ok (none, next) => .ok ([], next)
  | .ok (some text, next) =>
    if next.left < c.left then
      (readQuoted quote next).map fun (more, last) => (text ++ more, last)
    else .error .malformed
termination_by c.left

/-! ## Block scalars -/

/-- What becomes of the breaks at the end of a block. -/
inductive Chomping where
  | strip
  | clip
  | keep
  deriving DecidableEq, Repr

def chomping? : Option Char → Option Chomping
  | some '+' => some .keep
  | some '-' => some .strip
  | _ => none

/-- An indentation of one to nine columns. -/
def increment? : Option Char → Option Nat
  | some c => if c.isDigit then some (c.toNat - '0'.toNat) else none
  | none => none

def readIndicators? (c : Cursor) : Option (Chomping × Option Nat × Cursor) :=
  let (chomping, increment, c) :=
    match chomping? c.peek with
    | some chomping =>
      match increment? c.step.peek with
      | some n => (chomping, some n, c.step.step)
      | none => (chomping, none, c.step)
    | none =>
      match increment? c.peek with
      | some n =>
        match chomping? c.step.peek with
        | some chomping => (chomping, some n, c.step.step)
        | none => (.clip, some n, c.step)
      | none => (.clip, none, c)
  if increment = some 0 || !endsPart c.peek then none else some (chomping, increment, c)

/-- The breaks before the first line of a block, and the greatest column of the lines' indents. -/
def blockIndent (c : Cursor) : List Char × Nat × Cursor :=
  match h : c.rest with
  | [] => ([], 0, c)
  | x :: rest =>
    have := Cursor.step_rest h
    if isSpaceOrBreak x then
      let (breaks, column, next) := blockIndent c.step
      ((c.break?.map (·.1)).toList ++ breaks, max column c.step.column, next)
    else ([], 0, c)
termination_by c.rest.length
decreasing_by simp_all

/-- The breaks before a line of a block; spaces count up to the indent. -/
def blockBreaks (indent : Nat) (c : Cursor) : List Char × Cursor :=
  match h : c.rest with
  | [] => ([], c)
  | x :: rest =>
    have := Cursor.step_rest h
    if isBreak x || (isSpace x && c.column < indent) then
      let (breaks, next) := blockBreaks indent c.step
      ((c.break?.map (·.1)).toList ++ breaks, next)
    else ([], c)
termination_by c.rest.length
decreasing_by simp_all

/-- A block up to its last line: the text, the break that ends it, and the breaks behind. -/
structure Block where
  text : List Char
  last : List Char
  breaks : List Char
  next : Cursor

/-- Lines are folded to one where both start with no blank. -/
def blockLines (folded : Bool) (indent : Nat) (breaks : List Char) (c : Cursor) : Block :=
  if c.column = indent && !c.rest.isEmpty then
    let (line, c') := c.run (!isBreak ·)
    let (last, c') :=
      match c'.break? with
      | some (first, next) => ([first], next)
      | none => ([], c')
    let (breaks', next) := blockBreaks indent c'
    if next.column = indent && !next.rest.isEmpty then
      let joined := folded && last = ['\n'] && !line.head?.any isSpaceOrTab &&
        !next.peek.any isSpaceOrTab
      let between := if joined then if breaks'.isEmpty then [' '] else [] else last
      if next.left < c.left then
        let block := blockLines folded indent breaks' next
        { block with text := breaks ++ line ++ between ++ block.text }
      else ⟨breaks ++ line, last, breaks', next⟩
    else ⟨breaks ++ line, last, breaks', next⟩
  else ⟨[], [], breaks, c⟩
termination_by c.left

/-- A block scalar behind its sign. Its lines are indented by at least `depth` columns and one: as
the increment says, or as the first line is. -/
def readBlock? (folded : Bool) (depth : Nat) (c : Cursor) : Option (List Char × Cursor) := do
  let (chomping, increment, c) ← readIndicators? c
  let c ← c.finishLine?
  let least := max 1 depth
  let block :=
    match increment with
    | some n =>
      let indent := least + n - 1
      let (breaks, c) := blockBreaks indent c
      blockLines folded indent breaks c
    | none =>
      let (breaks, column, c) := blockIndent c
      blockLines folded (max least column) breaks c
  let ending :=
    match chomping with
    | .strip => []
    | .clip => block.last
    | .keep => block.last ++ block.breaks
  return (block.text ++ ending, block.next)

end SocketInventory.Yaml
