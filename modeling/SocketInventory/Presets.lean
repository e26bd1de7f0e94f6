import SocketInventory.Filter
import SocketInventory.Inventory
import SocketInventory.Json.Reader
import SocketInventory.Yaml.Document

/-!
# Presets

Named queries, shipped or loaded from a file of YAML or JSON. Every query of a file is checked
before any of them counts.
-/

namespace SocketInventory.Presets

/-- The presets that are there without a file. -/
def shipped : Presets :=
  [("listening", "state=LISTEN"), ("established", "state=ESTABLISHED"),
    ("udp", "proto=udp || proto=udp6"), ("orphans", "pid=0")]

/-! ## From data -/

/-- The text of a value on display, if it is within the limits. -/
def shown (limit : Nat) (d : Data) : Except Error String :=
  match d.displayFault? limit with
  | some f => .error (.data f)
  | none => .ok d.display

/-- Adds an entry of a file; its query is the text of its value. -/
def add (limit : Nat) (presets : Presets) (entry : Data × Data) : Except Error Presets := do
  let query ← shown limit entry.2
  if ← Filter.isValid query then
    return setEntry (· == ·) presets (← shown limit entry.1, query)
  else
    let _ ← shown limit entry.1
    throw (.query (.invalidPreset entry.1.quoted entry.2.displayQuoted))

/-- The presets of loaded data, which is a map or nothing. -/
def ofData (limit : Nat) : Data → Except Error Presets
  | .null => .ok []
  | .map entries => entries.foldlM (add limit) []
  | _ => .error (.query .notMapping)

/-! ## The file -/

/-- A relative path that starts with a tilde starts at a home. -/
def expandHome (host : Host) (p : Path) : Except Error Path :=
  match p.absolute, p.names with
  | false, name :: rest =>
    match name.toList with
    | '~' :: user =>
      match host.home user with
      | .ok (some home) => .ok (home.under ⟨false, rest⟩)
      | .ok none => .error .noHome
      | .error f => .error (.path f)
    | _ => .ok p
  | _, _ => .ok p

/-- Where a file is looked for: an absolute path stands for itself, a relative one is taken from
the working directory if something is there, and else from the package's. -/
def locate (host : Host) (path : String) : Except Error Path := do
  let p ← expandHome host (Path.parse path)
  if p.absolute then host.files.resolve p
  else
    let here := (← host.workingDirectory.mapError .path).under p
    if ← host.files.holds here then host.files.resolve here
    else host.files.resolve (host.packageDirectory.under p)

/-- Files with these endings hold YAML, all others JSON. -/
def yamlSuffixes : List String := [".yaml", ".yml"]

def readData (host : Host) (file : Path) (octets : List UInt8) : Except Error Data := do
  let text ← (Text.decodeUtf8 octets).mapError .undecodable
  if yamlSuffixes.contains file.suffix then
    (Yaml.read host.limits host.arrange text).mapError fun
      | .malformed => .query (.unreadable file.text)
      | .noTruthValue word => .unknownKey word
      | .data f => .data f
  else
    match Json.parseWithin (some host.limits.json) (String.ofList text) with
    | .ok v => return Data.ofJson v
    | .error .malformed => throw (.query (.unreadable file.text))
    | .error (.nesting n) => throw (.data (.nesting n))

/-- The presets of the file at a path; without a path the shipped ones. A file that is not there
counts as empty. -/
def load (path : Option String) : Session Presets := do
  match path.filter (· ≠ "") with
  | none => return shipped
  | some path =>
    let host ← Session.host
    let file ← liftM (locate host path)
    if ← liftM (host.files.holds file) then
      let octets ← liftM ((host.files.read file).mapError Error.path)
      let presets ← liftM (readData host file octets >>= ofData host.limits.display)
      Session.printError
        ("[*] presets: " ++ toString presets.length ++ " loaded from " ++ file.text)
      return presets
    else
      Session.printError ("[warn] presets not found: " ++ file.text)
      return []

end SocketInventory.Presets
