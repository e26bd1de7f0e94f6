import SocketInventory.Text.Numeral

/-!
# UTF-8

Octets are decoded one character at a time. A fault covers the longest start of a character that
is present, or the single octet that starts none; decoding can stop at the first fault, or put a
substitute in its place and go on behind it.
-/

namespace SocketInventory.Text

inductive Utf8Fault where
  | invalidStart
  | invalidContinuation
  | unexpectedEnd
  deriving DecidableEq, Repr

/-- The character at the head of some octets with the octets after it, or a fault with the number
of further octets that it covers. -/
inductive Utf8Step where
  | char (c : Char) (rest : List UInt8)
  | fault (f : Utf8Fault) (further : Nat)

def isTail (b : UInt8) : Bool := 0x80 ≤ b.toNat && b.toNat ≤ 0xBF

/-- The octets that may come second in a character, by its first octet. -/
def secondAllowed (first second : UInt8) : Bool :=
  isTail second &&
    (if first = 0xE0 then 0xA0 ≤ second.toNat
     else if first = 0xED then second.toNat ≤ 0x9F
     else if first = 0xF0 then 0x90 ≤ second.toNat
     else if first = 0xF4 then second.toNat ≤ 0x8F
     else true)

/-- The six low bits of a continuation. -/
def tailBits (b : UInt8) : Nat := b.toNat % 64

/-- Decodes the character that starts with `first`. -/
def decodeHead (first : UInt8) (rest : List UInt8) : Utf8Step :=
  let n := first.toNat
  if n < 0x80 then .char (Char.ofNat n) rest
  else if n < 0xC2 || 0xF4 < n then .fault .invalidStart 0
  else
    match rest with
    | [] => .fault .unexpectedEnd 0
    | b :: rest₂ =>
      if !secondAllowed first b then .fault .invalidContinuation 0
      else if n < 0xE0 then .char (Char.ofNat (n % 32 * 64 + tailBits b)) rest₂
      else
        match rest₂ with
        | [] => .fault .unexpectedEnd 1
        | c :: rest₃ =>
          if !isTail c then .fault .invalidContinuation 1
          else if n < 0xF0 then
            .char (Char.ofNat (n % 16 * 4096 + tailBits b * 64 + tailBits c)) rest₃
          else
            match rest₃ with
            | [] => .fault .unexpectedEnd 2
            | d :: rest₄ =>
              if !isTail d then .fault .invalidContinuation 2
              else
                .char (Char.ofNat (n % 8 * 262144 + tailBits b * 4096 + tailBits c * 64 + tailBits d))
                  rest₄

theorem decodeHead_rest {first : UInt8} {rest rest' : List UInt8} {c : Char}
    (h : decodeHead first rest = .char c rest') : rest'.length ≤ rest.length := by
  unfold decodeHead at h
  dsimp only at h
  repeat' split at h
  all_goals cases h
  all_goals grind

/-- A fault with the place where it was met. -/
structure Utf8Error where
  fault : Utf8Fault
  /-- The offset of the first octet covered. -/
  start : Nat
  /-- The octets covered. -/
  covered : List UInt8
  deriving DecidableEq, Repr

/-- Decodes up to the end or the first fault; `offset` octets came before. -/
def decodeFrom (offset : Nat) (bytes : List UInt8) : Except Utf8Error (List Char) :=
  match bytes with
  | [] => .ok []
  | first :: rest =>
    match h : decodeHead first rest with
    | .char c rest' =>
      have := decodeHead_rest h
      (decodeFrom (offset + c.utf8Size) rest').map (c :: ·)
    | .fault f further => .error ⟨f, offset, first :: rest.take further⟩
termination_by bytes.length
decreasing_by simp; omega

def decodeUtf8 (bytes : List UInt8) : Except Utf8Error (List Char) := decodeFrom 0 bytes

/-- Decodes all octets, each fault replaced by what `substitute` makes of the octets covered. -/
def decodeReplacing (substitute : List UInt8 → List Char) (bytes : List UInt8) : List Char :=
  match bytes with
  | [] => []
  | first :: rest =>
    match h : decodeHead first rest with
    | .char c rest' =>
      have := decodeHead_rest h
      c :: decodeReplacing substitute rest'
    | .fault _ further =>
      substitute (first :: rest.take further) ++ decodeReplacing substitute (rest.drop further)
termination_by bytes.length
decreasing_by all_goals simp <;> omega

def encodeUtf8 (s : String) : List UInt8 := s.toUTF8.toList

/-! ## Message -/

def Utf8Fault.reason : Utf8Fault → String
  | .invalidStart => "invalid start byte"
  | .invalidContinuation => "invalid continuation byte"
  | .unexpectedEnd => "unexpected end of data"

/-- One octet is named, several are given by their offsets. -/
def Utf8Error.message (e : Utf8Error) : String :=
  let place :=
    match e.covered with
    | [b] =>
      "byte 0x" ++ String.ofList (paddedHexChars 2 b.toNat) ++ " in position " ++ toString e.start
    | _ =>
      "bytes in position " ++ toString e.start ++ "-" ++
        toString (e.start + e.covered.length - 1)
  "'utf-8' codec can't decode " ++ place ++ ": " ++ e.fault.reason

end SocketInventory.Text
