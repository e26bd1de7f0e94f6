import SocketInventory.Data.Calendar
import SocketInventory.Data.Fault
import SocketInventory.Json.Basic
import SocketInventory.Text.Quoted

/-!
# Loaded data

A value as a presets file holds it. It has two texts: one for display, in which a text stands for
itself, and a quoted one, which is also that of the parts of a list or map.
-/

namespace SocketInventory

inductive Data where
  | null
  | bool (b : Bool)
  | int (n : Int)
  | real (x : Number.Binary64)
  | text (s : Text.Letters)
  | octets (bytes : List UInt8)
  | date (d : Date)
  | moment (m : Moment)
  | list (items : List Data)
  /-- A list of pairs. -/
  | pairs (items : List (Data × Data))
  | map (entries : List (Data × Data))
  | set (members : List Data)
  /-- A list within itself. -/
  | sameList
  /-- A map within itself. -/
  | sameMap

/-! ## Entries -/

/-- Sets the value of a key: in its place if the key is there, else at the end. -/
def setEntry {κ α : Type} (same : κ → κ → Bool) (entries : List (κ × α)) (entry : κ × α) :
    List (κ × α) :=
  if entries.any fun (key, _) => same key entry.1 then
    entries.map fun (key, value) => if same key entry.1 then (key, entry.2) else (key, value)
  else entries ++ [entry]

/-- The entries of a sequence of settings. -/
def entriesOf {κ α : Type} (same : κ → κ → Bool) (settings : List (κ × α)) : List (κ × α) :=
  settings.foldl (setEntry same) []

namespace Data

/-- Truth values count as the numbers zero and one. -/
def integer? : Data → Option Int
  | .bool b => some (if b then 1 else 0)
  | .int n => some n
  | _ => none

/-- Keys of a map are the same when they are equal as numbers or alike. -/
def sameKey (a b : Data) : Bool :=
  match a.integer?, b.integer? with
  | some m, some n => m == n
  | some m, none =>
    match b with
    | .real y => y.equalsInt m
    | _ => false
  | none, some n =>
    match a with
    | .real x => x.equalsInt n
    | _ => false
  | none, none =>
    match a, b with
    | .null, .null => true
    | .real x, .real y => x == y || x.sameValue y
    | .text s, .text t => s == t
    | .octets s, .octets t => s == t
    | .date d, .date e => d == e
    | .moment m, .moment n => m.same n
    | _, _ => false

/-! ## Sets -/

/-- The prime that numbers are reduced by when they are put in place. -/
def placePrime : Nat := 0x1FFFFFFFFFFFFFFF

/-- What places a number among others: its residue, with its sign. -/
def residue? : Data → Option Int
  | .bool b => some (if b then 1 else 0)
  | .int n => some (signed (decide (n < 0)) (n.natAbs % placePrime))
  | .real (.finite negative significand exponent) =>
    some (signed negative (significand * Nat.pow 2 (exponent % 61).toNat % placePrime))
  | .real (.infinite negative) => some (signed negative 314159)
  | _ => none
where
  signed (negative : Bool) (n : Nat) : Int :=
    if !negative then n else if n = 1 then -2 else -n

/-- The number of places for members of a set: more than twice as many, unless they are few. -/
def placeCount (members : Nat) : Nat :=
  if members < 5 then 8 else Nat.pow 2 ((2 * members).log2 + 1)

/-- The places that are tried beside each other before the search moves on. -/
def placesBeside (count place : Nat) : List Nat :=
  if place + 9 < count then List.range' place 10 else [place]

/-- The first place that is not taken, in so many moves. A move depends on what is left of the word;
when nothing is left of it, the moves come to every place. -/
def freePlace (taken : List Nat) (count : Nat) : (moves : Nat) → (word place : Nat) → Nat
  | 0, _, place => place
  | moves + 1, word, place =>
    match (placesBeside count place).find? (!taken.contains ·) with
    | some free => free
    | none => freePlace taken count moves (word / 32) ((place * 5 + 1 + word / 32) % count)

/-- The moves after which nothing is left of a word of 64 bits. -/
def wordMoves : Nat := 13

/-- The places of residues that are put in place one after the other. -/
def places (count : Nat) (residues : List Int) : List Nat :=
  residues.foldl (fun taken n =>
    let word := (n % 0x10000000000000000).toNat
    taken ++ [freePlace taken count (wordMoves + count) word (word % count)]) []

/-- The members of a set as they are shown: numbers by their places, and other values as they
came. -/
def inPlace (members : List Data) : List Data :=
  match members.mapM residue? with
  | some residues =>
    let placed := members.zip (places (placeCount members.length) residues)
    (placed.mergeSort fun a b => a.2 ≤ b.2).map (·.1)
  | none => members

/-! ## Texts -/

def listed (texts : List String) : String := ", ".intercalate texts

def braced (s : String) : String := "\x7b" ++ s ++ "\x7d"

mutual
/-- The quoted text of a value. The members of a set are in place already. -/
def quoted : Data → String
  | .null => "None"
  | .bool true => "True"
  | .bool false => "False"
  | .int n => Text.integerText n
  | .real x => x.text
  | .text s => String.ofList (Text.quoteLetters s)
  | .octets bytes => String.ofList (Text.quoteOctets bytes)
  | .date d => d.quoted
  | .moment m => m.quoted
  | .list items => "[" ++ listed (quotedItems items) ++ "]"
  | .pairs items => "[" ++ listed (quotedPairs items) ++ "]"
  | .map entries => braced (listed (quotedEntries entries))
  | .set [] => "set()"
  | .set (member :: members) => braced (listed (quoted member :: quotedItems members))
  | .sameList => "[...]"
  | .sameMap => braced "..."

def quotedItems : List Data → List String
  | [] => []
  | item :: items => quoted item :: quotedItems items

def quotedPairs : List (Data × Data) → List String
  | [] => []
  | (first, second) :: rest =>
    ("(" ++ quoted first ++ ", " ++ quoted second ++ ")") :: quotedPairs rest

def quotedEntries : List (Data × Data) → List String
  | [] => []
  | (key, value) :: entries => (quoted key ++ ": " ++ quoted value) :: quotedEntries entries
end

def display : Data → String
  | .text s => Text.keptText s
  | .date d => d.text
  | .moment m => m.text
  | v => v.quoted

/-- The text on display in quotes. -/
def displayQuoted : Data → String
  | .text s => String.ofList (Text.quoteLetters s)
  | v => Text.quote v.display

/-! ## Limits of display -/

mutual
/-- Why a value at a depth cannot be shown: the first value in order that stands too deep, or is an
integer with too many digits. -/
def fault? (limit depth : Nat) (v : Data) : Option DataFault :=
  if limit ≤ depth then some (.nesting .display)
  else
    match v with
    | .int n => if 10 ^ Text.digitLimit ≤ n.natAbs then some .integerLength else none
    | .list items => itemsFault? limit (depth + 1) items
    | .pairs items => if limit ≤ depth + 1 && !items.isEmpty then some (.nesting .display)
        else pairsFault? limit (depth + 2) items
    | .map entries => pairsFault? limit (depth + 1) entries
    | .set members => itemsFault? limit (depth + 2) members
    | _ => none

def itemsFault? (limit depth : Nat) : List Data → Option DataFault
  | [] => none
  | item :: items => (fault? limit depth item).or (itemsFault? limit depth items)

def pairsFault? (limit depth : Nat) : List (Data × Data) → Option DataFault
  | [] => none
  | (first, second) :: rest =>
    ((fault? limit depth first).or (fault? limit depth second)).or (pairsFault? limit depth rest)
end

/-- Why a value cannot be shown by itself. A text always can. -/
def displayFault? (limit : Nat) : Data → Option DataFault
  | .text _ => none
  | v => v.fault? limit 0

/-! ## Interchange values -/

mutual
/-- A value of the interchange format; of two members of one name the later one counts. -/
def ofJson : Json → Data
  | .null => .null
  | .bool b => .bool b
  | .int n => .int n
  | .real x => .real x
  | .text s => .text s
  | .list items => .list (ofItems items)
  | .object members => .map (entriesOf sameKey (ofMembers members))

def ofItems : List Json → List Data
  | [] => []
  | item :: items => ofJson item :: ofItems items

def ofMembers : List (Text.Letters × Json) → List (Data × Data)
  | [] => []
  | (name, value) :: members => (.text name, ofJson value) :: ofMembers members
end

end Data

end SocketInventory
