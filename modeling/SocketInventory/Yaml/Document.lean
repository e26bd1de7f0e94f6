import SocketInventory.Yaml.Graph

/-!
# Reading YAML

The data that the only document of a text holds. Collections are filled in the order in which they
are met, level by level, so of several faults the one that counts is that of the outermost level.
-/

namespace SocketInventory.Yaml

/-- A part of a collection: a value, or a collection by its place in the order of filling. -/
inductive Part where
  | value (d : Data)
  | collection (place : Nat)

inductive Filling where
  | list (items : List Part)
  | pairs (items : List (Part × Part))
  | map (entries : List (Data × Part))
  | set (members : List Data)

/-! ## Filling -/

/-- What is known while collections are filled. -/
structure Progress where
  graph : Graph
  /-- The vertices that were met, by number. -/
  parts : Array (Option Part)
  /-- The collections that were met, by place. -/
  collections : Array Nat

abbrev Building := StateT Progress (Except Fault)

namespace Building

section

variable (limits : Limits) (arrange : List Data → List Data)

def isCollection (kind : Kind) : Bool :=
  match kind with
  | .list | .pairs | .map | .set => true
  | _ => false

def meet (n : Nat) (p : Part) : Building Part := do
  modify fun s => { s with parts := s.parts.setIfInBounds n (some p) }
  return p

def enqueue (n : Nat) : Building Part := do
  let place := (← get).collections.size
  modify fun s => { s with collections := s.collections.push n }
  meet n (.collection place)

/-- The part that a vertex is. A scalar is read when it is met. -/
def part (n : Nat) : Building Part := do
  match (← get).parts.getD n none with
  | some p => return p
  | none =>
    if isCollection ((← get).graph.kind n) then enqueue n
    else meet n (.value (← (← get).graph.readScalar limits.chain n))

def key (n : Nat) : Building Data := do
  match ← part limits n with
  | .value d => return d
  | .collection _ => throw .malformed

/-- The entries of a map, merged ones included; of one key the last value counts. -/
def entries (n : Nat) : Building (List (Data × Part)) := do
  let g ← (← get).graph.complete limits.chain n
  modify fun s => { s with graph := g }
  let settings ← (g.entries n).mapM fun (k, v) => do return (← key limits k, ← part limits v)
  return entriesOf Data.sameKey settings

def pair (n : Nat) : Building (Part × Part) := do
  match (← get).graph.entries n with
  | [(first, second)] => return (← part limits first, ← part limits second)
  | _ => throw .malformed

/-- The parts of a collection, whose content has to be of its type. -/
def filling (n : Nat) : Building Filling := do
  match (← get).graph.vertex n with
  | ⟨.list, .list items⟩ => return .list (← items.mapM (part limits))
  | ⟨.pairs, .list items⟩ => return .pairs (← items.mapM (pair limits))
  | ⟨.map, .map _⟩ => return .map (← entries limits n)
  | ⟨.set, .map _⟩ => return .set (arrange ((← entries limits n).map (·.1)))
  | _ => throw .malformed

/-- Fills the collections from the next place on, as long as there are any. -/
def fill : Nat → Array Filling → Building (Array Filling)
  | 0, filled => return filled
  | fuel + 1, filled => do
    match (← get).collections[filled.size]? with
    | none => return filled
    | some n => fill fuel (filled.push (← filling limits arrange n))

/-- The first vertex as a part, and all collections by their places. -/
def whole (g : Graph) : Except Fault (Part × Array Filling) := do
  let building : Building (Part × Array Filling) := do
    let root ← part limits 0
    return (root, ← fill limits arrange g.size #[])
  building.run' ⟨g, Array.replicate g.size none, #[]⟩

end

end Building

/-! ## Data -/

/-- The data of a collection, given that of its parts. -/
def Filling.toData (f : Part → Data) : Filling → Data
  | .list items => .list (items.map f)
  | .pairs items => .pairs (items.map fun (first, second) => (f first, f second))
  | .map entries => .map (entries.map fun (key, value) => (key, f value))
  | .set members => .set members

/-- What stands for a collection within itself. -/
def Filling.within : Filling → Data
  | .map _ => .sameMap
  | _ => .sameList

/-- The data of a part that stands in the collections of some places. The fuel is more than the
number of collections that may still be entered. -/
def Part.toData (filled : Array Filling) : Nat → List Nat → Part → Data
  | _, _, .value d => d
  | 0, _, .collection _ => .sameList
  | fuel + 1, places, .collection place =>
    match filled[place]? with
    | none => .sameList
    | some f =>
      if places.contains place then f.within
      else f.toData (Part.toData filled fuel (place :: places))

/-- The data of a document. The parts of its outermost collection count each by itself, so this
collection may occur in them once more. -/
def Graph.toData (limits : Limits) (arrange : List Data → List Data) (g : Graph) :
    Except Fault Data := do
  let (root, filled) ← Building.whole limits arrange g
  let inner := Part.toData filled (filled.size + 1) []
  match root with
  | .value d => return d
  | .collection place => return (filled[place]?.map (·.toData inner)).getD .null

/-- The data of the only document of a text; a text without one is null. -/
def read (limits : Limits) (arrange : List Data → List Data) (s : List Char) :
    Except Fault Data := do
  match ← Node.ofTokens limits.document (Token.ofText (Text.unifyLineEnds s)) with
  | none => return .null
  | some node => (← Graph.ofNode node).toData limits arrange

end SocketInventory.Yaml
