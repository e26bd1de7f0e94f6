import SocketInventory.Text.Blank
import SocketInventory.Text.Lines
import SocketInventory.Text.Percent

/-!
# Request targets

A target is cut into the path and the query parameters. Scheme, host and fragment count nothing,
nor does a second scheme or host behind them, and the path starts with one slash.
-/

namespace SocketInventory.Web

structure Target where
  /-- Decoded, and with one slash before it. -/
  path : List Char
  /-- Names and values in order, decoded. -/
  parameters : List (String × String)
  deriving DecidableEq, Repr

def isSchemeChar (c : Char) : Bool := c.isAlphanum || c == '+' || c == '-' || c == '.'

/-- Characters that a target may not hold inside, and controls before it. -/
def clean (s : List Char) : List Char :=
  (s.dropWhile (·.toNat ≤ 0x20)).filter fun c => c != '\t' && c != '\r' && c != '\n'

/-- Drops a scheme, and a host behind two slashes. -/
def dropOrigin (s : List Char) : List Char :=
  let rest :=
    match Text.cutFirst? ':' s with
    | some (scheme, rest) =>
      if scheme.head?.any Char.isAlpha && scheme.all isSchemeChar then rest else s
    | none => s
  match rest with
  | '/' :: '/' :: host => host.dropWhile fun c => c != '/' && c != '?' && c != '#'
  | _ => rest

/-- What stands before and behind the first occurrence of a character. -/
def cutAt (c : Char) (s : List Char) : List Char × List Char := (Text.cutFirst? c s).getD (s, [])

/-- A parameter of a query string; one without an equals sign has an empty value. -/
def parameter (s : List Char) : String × String :=
  let (name, value) := cutAt '=' s
  (String.ofList (Text.queryDecode name), String.ofList (Text.queryDecode value))

def readParameters (query : List Char) : List (String × String) :=
  ((Text.splitAt '&' query).filter (!·.isEmpty)).map parameter

/-- A path with exactly one slash before it. -/
def rooted (path : List Char) : List Char := '/' :: path.dropWhile (· == '/')

def Target.parse (s : String) : Target :=
  let whole := (cutAt '#' (dropOrigin (clean s.toList))).1
  let (path, query) := cutAt '?' (dropOrigin whole)
  ⟨rooted (Text.percentDecode path), readParameters query⟩

/-- The value of a parameter, the first one if there are several. -/
def Target.value? (t : Target) (name : String) : Option String := t.parameters.lookup name

end SocketInventory.Web
