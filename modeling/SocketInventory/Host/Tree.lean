import SocketInventory.Host.Files

/-!
# Trees of files

A tree lists files and directories and has no links. It answers as a file system does, walking from
name to name: two dots lead to the parent of a directory that exists.
-/

namespace SocketInventory

inductive FileEntry where
  | file (octets : List UInt8)
  | directory
  deriving DecidableEq, Repr

/-- Files and directories by their names from the root, which are texts in UTF-8; the directories
above an entry need not be listed. -/
abbrev FileTree := List (List String × FileEntry)

namespace FileTree

/-- What stands at a place that is named without double dots. -/
def entry? (tree : FileTree) (names : List String) : Option FileEntry :=
  match tree.find? (·.1 == names) with
  | some (_, e) => some e
  | none =>
    if names.isEmpty || tree.any fun (place, _) => names.isPrefixOf place then some .directory
    else none

/-- The greatest size of one name, in octets. -/
def nameLimit : Nat := 255

/-- The greatest size of a whole path, in octets. -/
def pathLimit : Nat := 4095

/-- Walks from a place along names; nothing is found below what is no directory. An error is a
name that is too long to look up. -/
def walk (tree : FileTree) (place : List String) : List String → Except Unit (Option FileEntry)
  | [] => .ok (tree.entry? place)
  | name :: rest =>
    match tree.entry? place with
    | some .directory =>
      if name = ".." then walk tree place.dropLast rest
      else if nameLimit < name.utf8ByteSize then .error ()
      else walk tree (place ++ [name]) rest
    | _ => .ok none

def holdsNul (p : Path) : Bool := p.names.any fun name => name.toList.contains (Char.ofNat 0)

def entryAt (tree : FileTree) (p : Path) : Except PathFault FileEntry :=
  if holdsNul p then .error .nul
  else if pathLimit < p.text.utf8ByteSize then .error (.nameTooLong p.text)
  else
    match tree.walk [] p.names with
    | .ok (some e) => .ok e
    | .ok none => .error (.notFound p.text)
    | .error () => .error (.nameTooLong p.text)

/-- Names with every pair of a name and two dots removed; the root is its own parent. -/
def collapse (names : List String) : List String :=
  names.foldl (fun kept name => if name = ".." then kept.dropLast else kept ++ [name]) []

def placeOf (p : Path) : Except PathFault Path :=
  if holdsNul p then .error .nul else .ok { p with names := collapse p.names }

def octetsAt (tree : FileTree) (p : Path) : Except PathFault (List UInt8) := do
  match ← tree.entryAt p with
  | .file octets => return octets
  | .directory => throw (.isDirectory p.text)

/-- The tree as a file system. -/
def system (tree : FileTree) : FileSystem where
  look p := (tree.entryAt p).map fun _ => ()
  place := placeOf
  read := tree.octetsAt

end FileTree

/-- The homes of users, of whom the one without a name is the own one. -/
def homeIn (own : Option Path) (others : String → Option Path) (user : List Char) :
    Except PathFault (Option Path) :=
  if user.isEmpty then .ok own
  else if user.contains (Char.ofNat 0) then .error .nul
  else .ok (others (String.ofList user))

end SocketInventory
