import SocketInventory.Text.Utf8
import SocketInventory.Yaml.Scalar

/-!
# Tokens of a YAML text

The indentation of a block is told by tokens for its start and end. A key is known as one only by
the colon behind it, so the places where a key may start are remembered, and the tokens that mark a
key are put in at such a place afterwards.
-/

namespace SocketInventory.Yaml

/-! ## Tokens -/

/-- A tag as written: a handle, unless it is written in full, and what follows. -/
structure Tag where
  handle : Option String
  suffix : String
  deriving DecidableEq, Repr

inductive Directive where
  /-- The major number of the version. -/
  | version (major : Nat)
  | handle (name target : String)
  | other
  deriving DecidableEq, Repr

inductive Token where
  | directive (d : Directive)
  | documentStart
  | documentEnd
  | blockListStart
  | blockMapStart
  | blockEnd
  | listStart
  | listEnd
  | mapStart
  | mapEnd
  | entry
  | comma
  | key
  | value
  | alias (name : String)
  | anchor (name : String)
  | tag (t : Tag)
  | scalar (plain : Bool) (text : Text.Letters)
  /-- A place behind which no token can be read. -/
  | fault (f : Fault)
  deriving DecidableEq, Repr

/-! ## Names, tags and directives -/

/-- The name of an anchor or alias, behind its sign. -/
def readAnchor? (c : Cursor) : Option (String × Cursor) :=
  let (name, next) := c.run isNameChar
  let ends :=
    endsWord next.peek || next.peek.any ['?', ':', ',', ']', '\x7d', '%', '@', '\x60'].contains
  if name.isEmpty || !ends then none else some (String.ofList name, next)

/-- Characters of a tag other than the percent sign. -/
def isTagChar (c : Char) : Bool :=
  c.isAlphanum || ['-', ';', '/', '?', ':', '@', '&', '=', '+', '$', ',', '_', '.', '!', '~', '*',
    '\'', '(', ')', '[', ']'].contains c

/-- Octets in percent form, and what follows them. -/
def percentRun? : List Char → Option (List UInt8 × List Char)
  | '%' :: a :: b :: rest => do
    let octet := UInt8.ofNat (16 * (← Text.hexValue? a) + (← Text.hexValue? b))
    let (octets, rest) ← percentRun? rest
    return (octet :: octets, rest)
  | '%' :: _ => none
  | rest => some ([], rest)

/-- The text of a tag as written, its octets in percent form decoded run by run. -/
def tagText? (s : List Char) : Option (List Char) :=
  match s with
  | [] => some []
  | '%' :: rest =>
    match percentRun? ('%' :: rest) with
    | some (octets, rest') =>
      match Text.decodeUtf8 octets with
      | .ok text =>
        if _ : rest'.length < ('%' :: rest).length then (tagText? rest').map (text ++ ·) else none
      | .error _ => none
    | none => none
  | c :: rest => (tagText? rest).map (c :: ·)
termination_by s.length
decreasing_by
  · assumption
  · simp only [List.length_cons]; omega

def readTagText? (c : Cursor) : Option (String × Cursor) := do
  let (written, next) := c.run fun x => isTagChar x || x == '%'
  let text ← tagText? written
  if text.isEmpty then none else return (String.ofList text, next)

/-- A handle: an exclamation mark, or a name between two. -/
def readHandle? (c : Cursor) : Option (String × Cursor) :=
  if c.peek ≠ some '!' then none
  else if c.ahead 1 = some ' ' then some ("!", c.step)
  else
    let (name, next) := c.step.run isNameChar
    if next.peek = some '!' then some (String.ofList ('!' :: (name ++ ['!'])), next.step) else none

/-- A second exclamation mark before the next space or break. -/
def hasHandle (s : List Char) : Bool := (s.takeWhile (!isSpaceOrBreak ·)).contains '!'

/-- A tag; the cursor is on its exclamation mark. -/
def readTag? (c : Cursor) : Option (Tag × Cursor) := do
  let (tag, next) ←
    if c.ahead 1 = some '<' then do
      let (text, next) ← readTagText? (c.advance 2)
      if next.peek = some '>' then some (⟨none, text⟩, next.step) else none
    else if endsWord (c.ahead 1) then some (⟨none, "!"⟩, c.step)
    else if hasHandle (c.rest.drop 1) then do
      let (handle, next) ← readHandle? c
      let (text, next) ← readTagText? next
      some (⟨some handle, text⟩, next)
    else do
      let (text, next) ← readTagText? c.step
      some (⟨some "!", text⟩, next)
  if endsPart next.peek then return (tag, next) else none

def readNumber? (c : Cursor) : Option (Nat × Cursor) :=
  let (digits, next) := c.run Char.isDigit
  if digits.isEmpty || Text.digitLimit < digits.length then none
  else some (Text.ofDigits (digits.filterMap Text.digitValue?), next)

/-- A directive; the cursor is on its percent sign. -/
def readDirective? (c : Cursor) : Option (Directive × Cursor) := do
  let (name, next) := c.step.run isNameChar
  if name.isEmpty || !endsPart next.peek then none
  else
    let (directive, next) ←
      if name = ['Y', 'A', 'M', 'L'] then do
        let (major, next) ← readNumber? (next.skip isSpace)
        if next.peek ≠ some '.' then none
        let (_, next) ← readNumber? next.step
        if endsPart next.peek then some (.version major, next) else none
      else if name = ['T', 'A', 'G'] then do
        let (handle, next) ← readHandle? (next.skip isSpace)
        if next.peek ≠ some ' ' then none
        let (target, next) ← readTagText? (next.skip isSpace)
        if endsPart next.peek then some (.handle handle target, next) else none
      else some (.other, next.skip (!isBreak ·))
    return (directive, ← next.finishLine?)

/-! ## Scanning -/

structure KeyPlace where
  /-- The number of tokens before it. -/
  position : Nat
  /-- A block mapping goes on here, so that a colon has to follow. -/
  required : Bool
  /-- The number of characters from it to the end. -/
  left : Nat
  line : Nat
  column : Nat

structure Scan where
  cursor : Cursor
  /-- The tokens so far, the last one first. -/
  tokens : List Token
  /-- The number of the tokens so far. -/
  count : Nat
  /-- Tokens to be put in before those of a given number. -/
  inserted : List (Nat × List Token)
  /-- Open brackets. -/
  flow : Nat
  /-- The columns of the open blocks, the innermost first. -/
  columns : List Nat
  /-- A key may start at the next token. -/
  keyAllowed : Bool
  /-- At most one place for each number of open brackets. -/
  places : List (Nat × KeyPlace)

namespace Scan

def start (s : List Char) : Scan :=
  let first := Cursor.start s
  ⟨if first.peek = some byteOrderMark then first.step else first, [], 0, [], 0, [], true, []⟩

/-- One more than the column of the innermost block. -/
def depth (s : Scan) : Nat :=
  match s.columns with
  | [] => 0
  | column :: _ => column + 1

def emit (s : Scan) (t : Token) : Scan := { s with tokens := t :: s.tokens, count := s.count + 1 }

def moveTo (s : Scan) (c : Cursor) : Scan := { s with cursor := c }

def allowKey (s : Scan) (allowed : Bool) : Scan := { s with keyAllowed := allowed }

/-- Over spaces, comments and line ends; outside brackets a key may start on a new line. -/
def skipToToken (s : Scan) : Scan :=
  let c := s.cursor.skipTrailer
  match c.break? with
  | some (_, next) =>
    if next.left < s.cursor.left then
      skipToToken { s with cursor := next, keyAllowed := s.keyAllowed || s.flow = 0 }
    else s
  | none => s.moveTo c
termination_by s.cursor.left

/-- A key lies on one line and has at most this many characters. -/
def keyLimit : Nat := 1024

/-- Forgets the places that are too far back; a required one may not be. -/
def forgetStale (s : Scan) : Option Scan :=
  let stale (place : KeyPlace) : Bool :=
    place.line ≠ s.cursor.line || s.cursor.left + keyLimit < place.left
  if s.places.any fun (_, place) => stale place && place.required then none
  else some { s with places := s.places.filter fun (_, place) => !stale place }

/-- Ends the blocks that are further right than a column. -/
def closeBlocks (s : Scan) (ends : Nat → Bool) : Scan :=
  if s.flow ≠ 0 then s
  else
    let closed := s.columns.takeWhile ends
    { s with
      tokens := List.replicate closed.length .blockEnd ++ s.tokens
      count := s.count + closed.length
      columns := s.columns.drop closed.length }

/-- Opens a block at a column, unless one is open there; tells whether it did. -/
def openBlock (s : Scan) (column : Nat) : Bool × Scan :=
  if s.depth ≤ column then (true, { s with columns := column :: s.columns }) else (false, s)

/-- Forgets the place of the present brackets; a required one may not be. -/
def forgetPlace (s : Scan) : Option Scan :=
  match s.places.lookup s.flow with
  | some place =>
    if place.required then none
    else some { s with places := s.places.filter (·.1 != s.flow) }
  | none => some s

def rememberPlace (s : Scan) : Option Scan :=
  if !s.keyAllowed then some s
  else do
    let c := s.cursor
    let required := s.flow = 0 && s.depth = c.column + 1
    let s ← s.forgetPlace
    return { s with
      places := (s.flow, ⟨s.count, required, c.left, c.line, c.column⟩) :: s.places }

/-! ### Tokens by their signs -/

def fetchDirective (s : Scan) : Option Scan := do
  let s ← (s.closeBlocks fun _ => true).forgetPlace
  let (directive, next) ← readDirective? s.cursor
  return ((s.allowKey false).moveTo next).emit (.directive directive)

def fetchMarker (s : Scan) (t : Token) : Option Scan := do
  let s ← (s.closeBlocks fun _ => true).forgetPlace
  return ((s.allowKey false).moveTo (s.cursor.advance 3)).emit t

def fetchOpening (s : Scan) (t : Token) : Option Scan := do
  let s ← s.rememberPlace
  return { (s.moveTo s.cursor.step).emit t with flow := s.flow + 1, keyAllowed := true }

def fetchClosing (s : Scan) (t : Token) : Option Scan := do
  let s ← s.forgetPlace
  if s.flow = 0 then none
  else return { (s.moveTo s.cursor.step).emit t with flow := s.flow - 1, keyAllowed := false }

def fetchComma (s : Scan) : Option Scan := do
  let s ← s.forgetPlace
  return ((s.allowKey true).moveTo s.cursor.step).emit .comma

/-- Outside brackets a sign opens its block, where a key might start. -/
def openFor (s : Scan) (opening : Token) : Option Scan :=
  if s.flow ≠ 0 then some s
  else if !s.keyAllowed then none
  else
    match s.openBlock s.cursor.column with
    | (true, s) => some (s.emit opening)
    | (false, s) => some s

def fetchEntry (s : Scan) : Option Scan := do
  let s ← (← s.openFor .blockListStart).forgetPlace
  return ((s.allowKey true).moveTo s.cursor.step).emit .entry

def fetchKey (s : Scan) : Option Scan := do
  let s ← (← s.openFor .blockMapStart).forgetPlace
  return ((s.allowKey (s.flow = 0)).moveTo s.cursor.step).emit .key

/-- A colon: what started at the remembered place was a key. -/
def fetchValue (s : Scan) : Option Scan :=
  match s.places.lookup s.flow with
  | some place =>
    let s := { s with places := s.places.filter (·.1 != s.flow) }
    let (opened, s) := if s.flow = 0 then s.openBlock place.column else (false, s)
    let marks := if opened then [.blockMapStart, .key] else [.key]
    let s := { s with inserted := (place.position, marks) :: s.inserted }
    some (((s.allowKey false).moveTo s.cursor.step).emit .value)
  | none => do
    let s ← (← s.openFor .blockMapStart).forgetPlace
    return ((s.allowKey (s.flow = 0)).moveTo s.cursor.step).emit .value

def fetchNode (s : Scan) (read : Cursor → Except Fault (Token × Cursor)) : Except Fault Scan := do
  let s ← orMalformed s.rememberPlace
  let (t, next) ← read s.cursor
  return ((s.allowKey false).moveTo next).emit t

def fetchPlain (s : Scan) : Option Scan := do
  let s ← s.rememberPlace
  let (text, broken, next) := readPlain (s.flow ≠ 0) s.depth s.cursor
  return ((s.allowKey broken).moveTo next).emit (.scalar true (text.map .char))

def fetchBlock (s : Scan) (folded : Bool) : Option Scan := do
  let s ← s.forgetPlace
  let (text, next) ← readBlock? folded s.depth s.cursor.step
  return ((s.allowKey true).moveTo next).emit (.scalar false (text.map .char))

def readAnchorToken (token : String → Token) (c : Cursor) : Except Fault (Token × Cursor) :=
  (orMalformed (readAnchor? c.step)).map fun (name, next) => (token name, next)

def readTagToken (c : Cursor) : Except Fault (Token × Cursor) :=
  (orMalformed (readTag? c)).map fun (t, next) => (.tag t, next)

def readQuotedToken (quote : Char) (c : Cursor) : Except Fault (Token × Cursor) :=
  (readQuoted quote c.step).map fun (text, next) => (.scalar false text, next)

/-- The signs that start no plain scalar by themselves. -/
def isIndicator (c : Char) : Bool :=
  ['-', '?', ':', ',', '[', ']', '\x7b', '\x7d', '#', '&', '*', '!', '|', '>', '\'', '"', '%', '@',
    '\x60'].contains c

/-- A plain scalar starts with no indicator, or with a dash, and outside brackets also with a
question mark or a colon, that no blank follows. -/
def startsPlain (s : Scan) (c : Char) : Bool :=
  (!endsWord (some c) && !isIndicator c) ||
    (!endsWord (s.cursor.ahead 1) && (c == '-' || (s.flow = 0 && (c == '?' || c == ':'))))

/-- The token at the cursor, which starts with `x`. -/
def fetch (s : Scan) (x : Char) : Except Fault Scan :=
  let atStart := s.cursor.column = 0
  let wordEnds := endsWord (s.cursor.ahead 1)
  if x = '%' && atStart then orMalformed s.fetchDirective
  else if atStart && s.cursor.atMarker '-' then orMalformed (s.fetchMarker .documentStart)
  else if atStart && s.cursor.atMarker '.' then orMalformed (s.fetchMarker .documentEnd)
  else if x = '[' then orMalformed (s.fetchOpening .listStart)
  else if x = '\x7b' then orMalformed (s.fetchOpening .mapStart)
  else if x = ']' then orMalformed (s.fetchClosing .listEnd)
  else if x = '\x7d' then orMalformed (s.fetchClosing .mapEnd)
  else if x = ',' then orMalformed s.fetchComma
  else if x = '-' && wordEnds then orMalformed s.fetchEntry
  else if x = '?' && (s.flow ≠ 0 || wordEnds) then orMalformed s.fetchKey
  else if x = ':' && (s.flow ≠ 0 || wordEnds) then orMalformed s.fetchValue
  else if x = '*' then s.fetchNode (readAnchorToken .alias)
  else if x = '&' then s.fetchNode (readAnchorToken .anchor)
  else if x = '!' then s.fetchNode readTagToken
  else if x = '|' && s.flow = 0 then orMalformed (s.fetchBlock false)
  else if x = '>' && s.flow = 0 then orMalformed (s.fetchBlock true)
  else if x = '\'' || x = '"' then s.fetchNode (readQuotedToken x)
  else if s.startsPlain x then orMalformed s.fetchPlain
  else .error .malformed

/-- Puts tokens in before those of given numbers, which rise; the next token is number `n`. -/
def putIn (n : Nat) : List (Nat × List Token) → List Token → List Token
  | _, [] => []
  | [], ts => ts
  | (place, marks) :: more, t :: ts =>
    if place = n then marks ++ t :: putIn (n + 1) more ts
    else t :: putIn (n + 1) ((place, marks) :: more) ts

/-- The tokens in order, those put in afterwards included. -/
def result (s : Scan) : List Token :=
  putIn 0 (s.inserted.mergeSort fun a b => decide (a.1 ≤ b.1)) s.tokens.reverse

def stopped (s : Scan) (f : Fault) : List Token := s.result ++ [.fault f]

/-- The tokens of the rest of a text, or those before the first fault. -/
def finish (s : Scan) : List Token :=
  match s.skipToToken.forgetStale with
  | none => s.stopped .malformed
  | some here =>
    match here.cursor.peek with
    | none =>
      match (here.closeBlocks fun _ => true).forgetPlace with
      | none => here.stopped .malformed
      | some last => last.result
    | some x =>
      match (here.closeBlocks fun column => here.cursor.column < column).fetch x with
      | .error f => here.stopped f
      | .ok next =>
        if next.cursor.left < s.cursor.left then next.finish else here.stopped .malformed
termination_by s.cursor.left

end Scan

/-- Tokens up to the first reference or anchor that is refused: a reference to no anchor before it,
or an anchor that is there already. -/
def checkAnchors (names : List String) : List Token → List Token
  | [] => []
  | .alias name :: rest =>
    if names.contains name then .alias name :: checkAnchors names rest else [.fault .malformed]
  | .anchor name :: rest =>
    if names.contains name then [.fault .malformed]
    else .anchor name :: checkAnchors (name :: names) rest
  | t :: rest => t :: checkAnchors names rest

def Token.ofText (s : List Char) : List Token :=
  if s.all contents.has then checkAnchors [] (Scan.start s).finish else [.fault .malformed]

end SocketInventory.Yaml
