import SocketInventory.Yaml.Token

/-!
# Nodes of a YAML document

A document is a tree of scalars, lists and maps, each with an optional tag and anchor, and of
references to anchors. A part that is left out is an empty scalar. Lists and maps are limited in
how deep they stand in each other.
-/

namespace SocketInventory.Yaml

/-- What stands before the content of a node. -/
structure Properties where
  anchor : Option String
  /-- The full tag. -/
  tag : Option String
  deriving DecidableEq, Repr

inductive Node where
  | alias (name : String)
  | scalar (properties : Properties) (plain : Bool) (text : Text.Letters)
  | list (properties : Properties) (items : List Node)
  | map (properties : Properties) (entries : List (Node × Node))

namespace Node

def noProperties : Properties := ⟨none, none⟩

def empty : Node := .scalar noProperties true []

/-- What is left of a sequence of tokens after one part, which may be empty. -/
abbrev Rest (ts : List Token) := { rest : List Token // rest.length ≤ ts.length }

/-- What is left after a part of at least one token. -/
abbrev Shorter (ts : List Token) := { rest : List Token // rest.length < ts.length }

def Shorter.within {ts us : List Token} (r : Shorter us) (h : us.length ≤ ts.length) : Shorter ts :=
  ⟨r.val, Nat.lt_of_lt_of_le r.property h⟩

def Rest.within {ts us : List Token} (r : Rest us) (h : us.length < ts.length) : Shorter ts :=
  ⟨r.val, Nat.lt_of_le_of_lt r.property h⟩

/-! ## Properties -/

/-- The texts that handles stand for. -/
abbrev Handles := List (String × String)

def defaultHandles : Handles := [("!", "!"), ("!!", "tag:yaml.org,2002:")]

/-- The full text of a tag; its handle has to be known. -/
def fullTag (handles : Handles) (t : Tag) : Except Fault String :=
  match t.handle with
  | none => .ok t.suffix
  | some handle => orMalformed ((handles.lookup handle).map (· ++ t.suffix))

/-- Properties, and what is left after them, which is all if there are none. -/
structure Prefixed (ts : List Token) where
  properties : Properties
  rest : List Token
  length_le : rest.length ≤ ts.length
  length_lt : properties ≠ noProperties → rest.length < ts.length

/-- An anchor and a tag in either order. -/
def readProperties (handles : Handles) (ts : List Token) : Except Fault (Prefixed ts) :=
  match ts with
  | .anchor name :: .tag t :: rest =>
    (fullTag handles t).map fun tag =>
      ⟨⟨some name, some tag⟩, rest, Nat.le_add_right _ 2,
        fun _ => Nat.lt_add_of_pos_right Nat.two_pos⟩
  | .tag t :: .anchor name :: rest =>
    (fullTag handles t).map fun tag =>
      ⟨⟨some name, some tag⟩, rest, Nat.le_add_right _ 2,
        fun _ => Nat.lt_add_of_pos_right Nat.two_pos⟩
  | .anchor name :: rest =>
    .ok ⟨⟨some name, none⟩, rest, Nat.le_succ _, fun _ => Nat.lt_succ_self _⟩
  | .tag t :: rest =>
    (fullTag handles t).map fun tag =>
      ⟨⟨none, some tag⟩, rest, Nat.le_succ _, fun _ => Nat.lt_succ_self _⟩
  | ts => .ok ⟨noProperties, ts, Nat.le_refl _, fun h => absurd rfl h⟩

/-! ## Where a part is left out -/

def endsBlockItem (t : Token) : Bool := t == .entry || t == .blockEnd

def endsBlockPart (t : Token) : Bool := t == .key || t == .value || t == .blockEnd

/-- Ends an item of a list that stands at the indentation of its key. -/
def endsFlatItem (t : Token) : Bool := t == .entry || endsBlockPart t

def endsFlowValue (closing t : Token) : Bool := t == .comma || t == closing

def endsFlowKey (closing t : Token) : Bool := t == .value || endsFlowValue closing t

/-! ## Reading -/

/-- Where a node stands: in a block, in a block where a list may stay at the indentation of its
key, or between brackets. -/
inductive Place where
  | block
  | blockPart
  | flow
  deriving DecidableEq, Repr

def faultAt : List Token → Fault
  | .fault f :: _ => f
  | _ => .malformed

def emptyWith {ts : List Token} (p : Prefixed ts) : Except Fault (Node × Shorter ts) :=
  if h : p.properties = noProperties then .error (faultAt p.rest)
  else
    match p.rest.head? with
    | some (.fault f) => .error f
    | _ => .ok (.scalar p.properties true [], ⟨p.rest, p.length_lt h⟩)

/-- Over the comma before an item other than the first. -/
def dropComma (first : Bool) (ts : List Token) : Except Fault (Rest ts) :=
  if first then .ok ⟨ts, Nat.le_refl _⟩
  else
    match ts with
    | .comma :: rest => .ok ⟨rest, Nat.le_succ _⟩
    | _ => .error (faultAt ts)

/-- Goes one level deeper, if that is not too deep. -/
def deeper (limit level : Nat) : Except Fault Unit :=
  if limit ≤ level then .error (.data (.nesting .document)) else .ok ()

mutual
/-- A node with at least one token, which stands in `level` lists and maps. -/
def read (limit : Nat) (handles : Handles) (level : Nat) (place : Place) (ts : List Token) :
    Except Fault (Node × Shorter ts) :=
  match ts with
  | .alias name :: rest => .ok (.alias name, ⟨rest, Nat.lt_succ_self _⟩)
  | ts => do
    let p ← readProperties handles ts
    have hle := p.length_le
    match h : p.rest with
    | .scalar plain text :: rest =>
      return (.scalar p.properties plain text, ⟨rest, by rw [h] at hle; exact hle⟩)
    | .listStart :: rest =>
      have hlt : rest.length < ts.length := by rw [h] at hle; exact hle
      deeper limit level
      let (items, r) ← readFlowItems limit handles (level + 1) true rest
      return (.list p.properties items, r.within (Nat.le_of_lt hlt))
    | .mapStart :: rest =>
      have hlt : rest.length < ts.length := by rw [h] at hle; exact hle
      deeper limit level
      let (entries, r) ← readFlowEntries limit handles (level + 1) true rest
      return (.map p.properties entries, r.within (Nat.le_of_lt hlt))
    | .blockListStart :: rest =>
      have hlt : rest.length < ts.length := by rw [h] at hle; exact hle
      if place = .flow then emptyWith p
      else
        deeper limit level
        let (items, r) ← readBlockItems limit handles (level + 1) rest
        return (.list p.properties items, r.within (Nat.le_of_lt hlt))
    | .blockMapStart :: rest =>
      have hlt : rest.length < ts.length := by rw [h] at hle; exact hle
      if place = .flow then emptyWith p
      else
        deeper limit level
        let (entries, r) ← readBlockEntries limit handles (level + 1) rest
        return (.map p.properties entries, r.within (Nat.le_of_lt hlt))
    | .entry :: rest =>
      have hlt : rest.length < ts.length := by rw [h] at hle; exact hle
      if place = .blockPart then
        deeper limit level
        let (items, r) ← readFlatItems limit handles (level + 1) rest
        return (.list p.properties items, r.within hlt)
      else emptyWith p
    | _ => emptyWith p
termination_by 4 * ts.length
decreasing_by all_goals omega

/-- A node, or an empty one where a token ends its place. -/
def readUnless (limit : Nat) (handles : Handles) (level : Nat) (place : Place) (ends : Token → Bool)
    (ts : List Token) : Except Fault (Node × Rest ts) := do
  if ts.head?.any ends then return (empty, ⟨ts, Nat.le_refl _⟩)
  else
    let (node, r) ← read limit handles level place ts
    return (node, ⟨r.val, Nat.le_of_lt r.property⟩)
termination_by 4 * ts.length + 1
decreasing_by all_goals omega

/-- The value of a key, if a sign for it stands there. -/
def readValue (limit : Nat) (handles : Handles) (level : Nat) (place : Place) (ends : Token → Bool)
    (ts : List Token) : Except Fault (Node × Rest ts) :=
  match ts with
  | .value :: rest => do
    let (node, r) ← readUnless limit handles level place ends rest
    return (node, ⟨r.val, by have := r.property; simp only [List.length_cons]; omega⟩)
  | ts => .ok (empty, ⟨ts, Nat.le_refl _⟩)
termination_by 4 * ts.length + 1
decreasing_by
  all_goals
    simp only [List.length_cons]
    omega

def readEntry (limit : Nat) (handles : Handles) (level : Nat) (place : Place)
    (endsKey endsValue : Token → Bool) (ts : List Token) :
    Except Fault ((Node × Node) × Rest ts) := do
  let (key, r) ← readUnless limit handles level place endsKey ts
  have := r.property
  let (value, r') ← readValue limit handles level place endsValue r.val
  return ((key, value), ⟨r'.val, Nat.le_trans r'.property r.property⟩)
termination_by 4 * ts.length + 2
decreasing_by all_goals omega

def readBlockItems (limit : Nat) (handles : Handles) (level : Nat) (ts : List Token) :
    Except Fault (List Node × Shorter ts) :=
  match ts with
  | .blockEnd :: rest => .ok ([], ⟨rest, Nat.lt_succ_self _⟩)
  | .entry :: rest => do
    let (item, r) ← readUnless limit handles level .block endsBlockItem rest
    have := r.property
    let (items, r') ← readBlockItems limit handles level r.val
    return (item :: items, r'.within (by simp only [List.length_cons]; omega))
  | _ => .error (faultAt ts)
termination_by 4 * ts.length
decreasing_by
  all_goals
    simp only [List.length_cons]
    omega

/-- The items of a list without an end of its own, behind the sign of the first. -/
def readFlatItems (limit : Nat) (handles : Handles) (level : Nat) (ts : List Token) :
    Except Fault (List Node × Rest ts) := do
  let (item, r) ← readUnless limit handles level .block endsFlatItem ts
  have := r.property
  match h : r.val with
  | .entry :: rest =>
    have hlt : rest.length < ts.length := by rw [h] at this; exact this
    let (items, r') ← readFlatItems limit handles level rest
    return (item :: items, ⟨r'.val, by have := r'.property; omega⟩)
  | _ => return ([item], r)
termination_by 4 * ts.length + 2
decreasing_by all_goals omega

def readBlockEntries (limit : Nat) (handles : Handles) (level : Nat) (ts : List Token) :
    Except Fault (List (Node × Node) × Shorter ts) :=
  match ts with
  | .blockEnd :: rest => .ok ([], ⟨rest, Nat.lt_succ_self _⟩)
  | .key :: rest => do
    let (entry, r) ← readEntry limit handles level .blockPart endsBlockPart endsBlockPart rest
    have := r.property
    let (entries, r') ← readBlockEntries limit handles level r.val
    return (entry :: entries, r'.within (by simp only [List.length_cons]; omega))
  | _ => .error (faultAt ts)
termination_by 4 * ts.length
decreasing_by
  all_goals
    simp only [List.length_cons]
    omega

/-- The items up to the closing bracket. A key among them makes a map of one entry. -/
def readFlowItems (limit : Nat) (handles : Handles) (level : Nat) (first : Bool) (ts : List Token) :
    Except Fault (List Node × Shorter ts) :=
  match ts with
  | .listEnd :: rest => .ok ([], ⟨rest, Nat.lt_succ_self _⟩)
  | ts => do
    let r ← dropComma first ts
    have := r.property
    match h : r.val with
    | .listEnd :: rest => return ([], ⟨rest, by rw [h] at this; exact this⟩)
    | .key :: rest =>
      have hlt : rest.length < ts.length := by rw [h] at this; exact this
      let (entry, r') ←
        readEntry limit handles level .flow (endsFlowKey .listEnd) (endsFlowValue .listEnd) rest
      have := r'.property
      let (items, r'') ← readFlowItems limit handles level false r'.val
      return (.map noProperties [entry] :: items, r''.within (by omega))
    | _ =>
      let (item, r') ← read limit handles level .flow r.val
      have := r'.property
      let (items, r'') ← readFlowItems limit handles level false r'.val
      return (item :: items, r''.within (by omega))
termination_by 4 * ts.length + 1
decreasing_by all_goals omega

/-- The entries up to the closing brace. A node without sign is a key without value. -/
def readFlowEntries (limit : Nat) (handles : Handles) (level : Nat) (first : Bool)
    (ts : List Token) : Except Fault (List (Node × Node) × Shorter ts) :=
  match ts with
  | .mapEnd :: rest => .ok ([], ⟨rest, Nat.lt_succ_self _⟩)
  | ts => do
    let r ← dropComma first ts
    have := r.property
    match h : r.val with
    | .mapEnd :: rest => return ([], ⟨rest, by rw [h] at this; exact this⟩)
    | .key :: rest =>
      have hlt : rest.length < ts.length := by rw [h] at this; exact this
      let (entry, r') ←
        readEntry limit handles level .flow (endsFlowKey .mapEnd) (endsFlowValue .mapEnd) rest
      have := r'.property
      let (entries, r'') ← readFlowEntries limit handles level false r'.val
      return (entry :: entries, r''.within (by omega))
    | _ =>
      let (key, r') ← read limit handles level .flow r.val
      have := r'.property
      let (entries, r'') ← readFlowEntries limit handles level false r'.val
      return ((key, empty) :: entries, r''.within (by omega))
termination_by 4 * ts.length + 1
decreasing_by all_goals omega
end

/-! ## Documents -/

/-- The handles that directives set, beside the default ones; and what follows the directives. No
handle and no version may be given twice, and the major version is one. -/
def readDirectives (versioned : Bool) (handles : Handles) :
    List Token → Except Fault (Handles × List Token)
  | .directive (.version major) :: rest =>
    if versioned || major ≠ 1 then .error .malformed else readDirectives true handles rest
  | .directive (.handle name target) :: rest =>
    if (handles.lookup name).isSome then .error .malformed
    else readDirectives versioned ((name, target) :: handles) rest
  | .directive .other :: rest => readDirectives versioned handles rest
  | rest => .ok (handles ++ defaultHandles, rest)

/-- Tokens that a document without content is followed by. -/
def endsDocument : Token → Bool
  | .directive _ | .documentStart | .documentEnd => true
  | _ => false

def isDocumentEnd : Token → Bool
  | .documentEnd => true
  | _ => false

def readDocument (limit : Nat) (ts : List Token) : Except Fault (Node × List Token) := do
  if !ts.head?.any endsDocument || ts.head?.any isDocumentEnd then
    let (node, r) ← read limit defaultHandles 0 .block ts
    return (node, r.val)
  else
    let (handles, rest) ← readDirectives false [] ts
    match rest with
    | [.documentStart] => return (empty, [])
    | .documentStart :: rest =>
      let (node, r) ← readUnless limit handles 0 .block endsDocument rest
      return (node, r.val)
    | _ => throw (faultAt rest)

def ofTokens (limit : Nat) (ts : List Token) : Except Fault (Option Node) := do
  if ts.isEmpty then return none
  let (node, rest) ← readDocument limit ts
  match rest.dropWhile isDocumentEnd with
  | [] => return some node
  | further => throw (faultAt further)

end Node

end SocketInventory.Yaml
