/-!
# Letters

An escape can name half of a surrogate pair, which is no character. A text that is read from
escapes is therefore a list of letters, each of them a character or a half that stands alone. A
`String` has no place for a half: where such a text is kept, a private character stands for it.
-/

namespace SocketInventory.Text

def isHighSurrogate (n : Nat) : Bool := 0xD800 ≤ n && n < 0xDC00

def isLowSurrogate (n : Nat) : Bool := 0xDC00 ≤ n && n < 0xE000

/-- The number of halves of surrogate pairs, whose code points start at `0xD800`. -/
def halfCount : Nat := 0x800

inductive Letter where
  | char (c : Char)
  /-- A half, by its place among the halves. -/
  | half (place : Fin halfCount)
  deriving DecidableEq, Repr

namespace Letter

/-- The letter of a code point. -/
def ofCode (n : Nat) : Letter :=
  if h : n - 0xD800 < halfCount ∧ 0xD800 ≤ n then .half ⟨n - 0xD800, h.1⟩ else .char (Char.ofNat n)

def code : Letter → Nat
  | .char c => c.toNat
  | .half place => 0xD800 + place

def char? : Letter → Option Char
  | .char c => some c
  | .half _ => none

/-- The character that stands for a letter in a text that is kept. -/
def kept : Letter → Char
  | .char c => c
  | .half place => Char.ofNat (0xFD800 + place)

/-- No character has the code point of a half. -/
theorem ofCode_toNat (c : Char) : ofCode c.toNat = .char c := by
  have hrange : ¬ (c.toNat - 0xD800 < halfCount ∧ 0xD800 ≤ c.toNat) := by
    have hvalid := c.valid
    simp only [UInt32.isValidChar, Nat.isValidChar, Char.toNat, halfCount] at hvalid ⊢
    omega
  rw [ofCode, dif_neg hrange, Char.ofNat_toNat]

end Letter

/-! ## Texts -/

abbrev Letters := List Letter

def letters (s : String) : Letters := s.toList.map .char

instance : Coe String Letters := ⟨letters⟩

/-- The text of letters that are all characters. -/
def whole? (ls : Letters) : Option String := (ls.mapM Letter.char?).map String.ofList

def keptText (ls : Letters) : String := String.ofList (ls.map Letter.kept)

@[simp] theorem whole?_letters (s : String) : whole? (letters s) = some s := by
  have hchars : ∀ cs : List Char, (cs.map Letter.char).mapM Letter.char? = some cs := by
    intro cs
    induction cs with
    | nil => rfl
    | cons c cs ih => simp [ih, Letter.char?]
  simp [whole?, letters, hchars]

@[simp] theorem keptText_letters (s : String) : keptText (letters s) = s := by
  simp [keptText, letters, Function.comp_def, Letter.kept]

end SocketInventory.Text
