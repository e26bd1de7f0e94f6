import SocketInventory.Yaml.Node
import SocketInventory.Yaml.Value

/-!
# The graph of a YAML document

The nodes of a document by number. A reference has the number of the node that it stands for, so a
node may belong to several collections, and also to itself. A merge key puts in the entries of
other maps, which count less than those beside it.
-/

namespace SocketInventory.Yaml

/-- What a vertex is made of: a text, or the numbers of other vertices. -/
inductive Content where
  | scalar (text : Text.Letters)
  | list (items : List Nat)
  | map (entries : List (Nat × Nat))
  deriving DecidableEq, Repr

structure Vertex where
  kind : Kind
  content : Content
  deriving DecidableEq, Repr

abbrev Graph := Array Vertex

namespace Graph

/-- A vertex by its number; a number beyond the last stands for a vertex of unknown type. -/
def vertex (g : Graph) (n : Nat) : Vertex := g.getD n ⟨.unknown, .scalar []⟩

def kind (g : Graph) (n : Nat) : Kind := (g.vertex n).kind

def entries (g : Graph) (n : Nat) : List (Nat × Nat) :=
  match (g.vertex n).content with
  | .map entries => entries
  | _ => []

def setKind (g : Graph) (n : Nat) (kind : Kind) : Graph :=
  g.modify n fun v => { v with kind := kind }

def setContent (g : Graph) (n : Nat) (content : Content) : Graph :=
  g.modify n fun v => { v with content := content }

end Graph

/-! ## From nodes -/

/-- The type of a scalar: by its tag; without one by its form if it is plain. -/
def scalarKind (p : Properties) (plain : Bool) (text : Text.Letters) : Kind :=
  match p.tag with
  | none => if plain then .ofPlain (text.map Text.Letter.kept) else .text
  | some tag => if tag = "!" then .ofPlain (text.map Text.Letter.kept) else .ofTag tag

/-- The type of a list or map: by its tag, or its own. -/
def collectionKind (own : Kind) (p : Properties) : Kind :=
  match p.tag with
  | none => own
  | some tag => if tag = "!" then own else .ofTag tag

/-- A graph of the nodes so far, with the numbers of their anchors. -/
structure Composition where
  graph : Graph
  anchors : List (String × Nat)

namespace Composition

def push (c : Composition) (p : Properties) (v : Vertex) : Nat × Composition :=
  let n := c.graph.size
  (n, ⟨c.graph.push v, (p.anchor.map (·, n)).toList ++ c.anchors⟩)

def setContent (c : Composition) (n : Nat) (content : Content) : Composition :=
  { c with graph := c.graph.setContent n content }

mutual
/-- Adds a node; a list or map has its number before its parts have theirs. -/
def add (c : Composition) : Node → Except Fault (Nat × Composition)
  | .alias name => (orMalformed (c.anchors.lookup name)).map (·, c)
  | .scalar p plain text => .ok (c.push p ⟨scalarKind p plain text, .scalar text⟩)
  | .list p items => do
    let (n, c) := c.push p ⟨collectionKind .list p, .list []⟩
    let (numbers, c) ← c.addItems items
    return (n, c.setContent n (.list numbers))
  | .map p entries => do
    let (n, c) := c.push p ⟨collectionKind .map p, .map []⟩
    let (numbers, c) ← c.addEntries entries
    return (n, c.setContent n (.map numbers))

def addItems (c : Composition) : List Node → Except Fault (List Nat × Composition)
  | [] => .ok ([], c)
  | item :: items => do
    let (n, c) ← c.add item
    let (numbers, c) ← c.addItems items
    return (n :: numbers, c)

def addEntries (c : Composition) :
    List (Node × Node) → Except Fault (List (Nat × Nat) × Composition)
  | [] => .ok ([], c)
  | (key, value) :: entries => do
    let (k, c) ← c.add key
    let (v, c) ← c.add value
    let (numbers, c) ← c.addEntries entries
    return ((k, v) :: numbers, c)
end

end Composition

namespace Graph

/-- The graph of a document, whose node has the first number. -/
def ofNode (node : Node) : Except Fault Graph := do
  let (_, c) ← (Composition.mk #[] []).add node
  return c.graph

/-! ## Scalars -/

/-- The text of a vertex; that of a map is the one of its default value. -/
def textOf (g : Graph) : Nat → Nat → Except Fault Text.Letters
  | 0, _ => .error (.data (.nesting .document))
  | fuel + 1, n =>
    match (g.vertex n).content with
    | .scalar text => .ok text
    | .list _ => .error .malformed
    | .map entries =>
      match entries.find? fun (key, _) => g.kind key = .default with
      | some (_, value) => textOf g fuel value
      | none => .error .malformed

/-- The value of a scalar. Of maps at most `limit` are followed for its text. -/
def readScalar (limit : Nat) (g : Graph) (n : Nat) : Except Fault Data :=
  match g.vertex n with
  | ⟨.unknown, _⟩ | ⟨.merge, _⟩ | ⟨.default, _⟩ => .error .malformed
  | ⟨kind, .scalar text⟩ => kind.read text
  | ⟨kind, _⟩ => do
    let text ← g.textOf limit n
    if kind = .date then throw (.data .dateOfMap) else kind.read text

/-! ## Merging -/

/-- The entries that a merge key puts in: those of a map, or of the maps of a list, of which the
first counts most. The maps are completed before. -/
def mergedEntries (complete : Graph → Nat → Except Fault Graph) (g : Graph) (n : Nat) :
    Except Fault (List (Nat × Nat) × Graph) :=
  match (g.vertex n).content with
  | .scalar _ => .error .malformed
  | .map _ => (complete g n).map fun g => (g.entries n, g)
  | .list items =>
    items.foldlM
      (fun (found, g) item =>
        match (g.vertex item).content with
        | .map _ => (complete g item).map fun g => (g.entries item ++ found, g)
        | _ => .error .malformed)
      ([], g)

/-- Goes on with the entries of a map, of which `own` stay, the last one first, and `merged` were
put in before. A map that was completed meanwhile, being merged into itself, is not gone through
further. The key of a default value is a text like any other. -/
def completeEntries (complete : Graph → Nat → Except Fault Graph) (n : Nat)
    (merged own : List (Nat × Nat)) : List (Nat × Nat) → Graph → Except Fault Graph
  | [], g => .ok (if merged.isEmpty then g else g.setContent n (.map (merged ++ own.reverse)))
  | (key, value) :: rest, g =>
    match g.kind key with
    | .merge => do
      let left := own.reverse ++ rest
      let (found, g) ← mergedEntries complete (g.setContent n (.map left)) value
      let merged := merged ++ found
      if g.entries n = left then completeEntries complete n merged own rest g
      else return g.setContent n (.map (merged ++ g.entries n))
    | .default => completeEntries complete n merged ((key, value) :: own) rest (g.setKind key .text)
    | _ => completeEntries complete n merged ((key, value) :: own) rest g

/-- Puts in what the merge keys of a map ask for. -/
def complete : Nat → Graph → Nat → Except Fault Graph
  | 0, _, _ => .error (.data (.nesting .document))
  | fuel + 1, g, n => completeEntries (complete fuel) n [] [] (g.entries n) g

end Graph

end SocketInventory.Yaml
