import SocketInventory.Error
import SocketInventory.Text.Lines

/-!
# Paths and files

A path is a sequence of names; empty names and single dots count nothing. A file system is known by
its answers to what is asked at a path, of which some say that nothing stands there and all others
are errors.
-/

namespace SocketInventory

structure Path where
  absolute : Bool
  names : List String
  deriving DecidableEq, Repr

namespace Path

def parse (s : String) : Path :=
  let pieces := (Text.splitAt '/' s.toList).map String.ofList
  ⟨s.toList.head? = some '/', pieces.filter fun name => name ≠ "" && name ≠ "."⟩

def text (p : Path) : String :=
  if p.absolute then "/" ++ "/".intercalate p.names
  else if p.names.isEmpty then "."
  else "/".intercalate p.names

/-- A relative path continued from a directory; an absolute one stands alone. -/
def under (directory p : Path) : Path :=
  if p.absolute then p else { directory with names := directory.names ++ p.names }

/-- The part of the last name from its last dot on, unless that dot is its first or last
character. -/
def suffix (p : Path) : String :=
  match Text.cutLast? '.' (p.names.getLastD "").toList with
  | some (stem, rest) => if stem.isEmpty || rest.isEmpty then "" else String.ofList ('.' :: rest)
  | none => ""

end Path

/-! ## File systems -/

/-- The answers of a file system, links of which it follows. -/
structure FileSystem where
  /-- Looking up what stands at a path. -/
  look : Path → Except PathFault Unit
  /-- The place that a path leads to, as far as its links can be followed. -/
  place : Path → Except PathFault Path
  /-- The octets of the file at a path. -/
  read : Path → Except PathFault (List UInt8)

namespace FileSystem

/-- Something stands at a path. Nothing does where a path cannot be named, or where the answer says
that there is nothing. -/
def holds (files : FileSystem) (p : Path) : Except Error Bool :=
  match files.look p with
  | .ok () => .ok true
  | .error f => if f.saysNothing then .ok false else .error (.path f)

/-- An error at a path, of which links in a circle are one of their own. -/
def linkError (f : PathFault) : Error := if f.isLoop then .linkLoop f.path else .path f

/-- The place of a path. It is looked up, so that links in a circle are met; whatever else is met
there does not count, but that the place can be named. -/
def resolve (files : FileSystem) (p : Path) : Except Error Path := do
  let place ← (files.place p).mapError linkError
  match files.look place with
  | .error f => if f.isLoop || f.isUnnameable then .error (linkError f) else .ok place
  | .ok () => .ok place

end FileSystem

end SocketInventory
