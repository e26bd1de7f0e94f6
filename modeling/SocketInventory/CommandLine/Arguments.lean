import SocketInventory.Configuration

/-!
# Arguments of the command line

A long option may be shortened as long as one option only starts so, and takes its value behind an
equals sign or from the next argument. Arguments that look like negative numbers or hold a space
are values, and behind a double dash all are.
-/

namespace SocketInventory.CommandLine

structure Arguments where
  backend : String
  family : String
  kind : String
  format : String
  filter : String
  preset : Option String
  presets : Option String
  expandOwners : Bool
  strictProcesses : Bool
  timeout : Option Number.Binary64
  kill : Option Int
  path : Option Int
  serve : Bool
  address : String
  port : Int

def Arguments.none : Arguments where
  backend := "auto"
  family := "all"
  kind := "all"
  format := "table"
  filter := ""
  preset := .none
  presets := .none
  expandOwners := false
  strictProcesses := false
  timeout := .none
  kill := .none
  path := .none
  serve := false
  address := "127.0.0.1"
  port := 8765

/-! ## Options -/

/-- What an option takes and does. -/
inductive Effect where
  | help
  | flag (set : Arguments → Arguments)
  | text (set : String → Arguments → Arguments)
  | choice (names : List String) (set : String → Arguments → Arguments)
  | integer (set : Int → Arguments → Arguments)
  | decimal (set : Number.Binary64 → Arguments → Arguments)

structure OptionRule where
  name : String
  effect : Effect

def helpLetter : Char := 'h'

def helpShort : String := String.ofList ['-', helpLetter]

/-- The long options in order. -/
def rules : List OptionRule :=
  [⟨"--help", .help⟩,
    ⟨"--backend", .choice backendNames fun s a => { a with backend := s }⟩,
    ⟨"--family", .choice (Config.familyChoices.map (·.1)) fun s a => { a with family := s }⟩,
    ⟨"--kind", .choice (Config.transportChoices.map (·.1)) fun s a => { a with kind := s }⟩,
    ⟨"--format", .choice ["table", "json"] fun s a => { a with format := s }⟩,
    ⟨"--filter", .text fun s a => { a with filter := s }⟩,
    ⟨"--preset", .text fun s a => { a with preset := some s }⟩,
    ⟨"--presets", .text fun s a => { a with presets := some s }⟩,
    ⟨"--expand-owners", .flag fun a => { a with expandOwners := true }⟩,
    ⟨"--strict-procs", .flag fun a => { a with strictProcesses := true }⟩,
    ⟨"--timeout", .decimal fun x a => { a with timeout := some x }⟩,
    ⟨"--kill", .integer fun n a => { a with kill := some n }⟩,
    ⟨"--path", .integer fun n a => { a with path := some n }⟩,
    ⟨"--serve", .flag fun a => { a with serve := true }⟩,
    ⟨"--host", .text fun s a => { a with address := s }⟩,
    ⟨"--port", .integer fun n a => { a with port := n }⟩]

/-- The name of an option in messages, with its short form if it has one. -/
def OptionRule.title (r : OptionRule) : String :=
  match r.effect with
  | .help => helpShort ++ "/" ++ r.name
  | _ => r.name

/-! ## Faults -/

inductive UsageFault where
  | ambiguous (given : String) (names : List String)
  | missingValue (title : String)
  | unwantedValue (title value : String)
  | badInteger (title value : String)
  | badDecimal (title value : String)
  | badChoice (title value : String) (names : List String)
  | unrecognized (arguments : List String)
  deriving DecidableEq, Repr

def aboutOption (title said : String) : String := "argument " ++ title ++ ": " ++ said

def UsageFault.message : UsageFault → String
  | .ambiguous given names =>
    "ambiguous option: " ++ given ++ " could match " ++ ", ".intercalate names
  | .missingValue title => aboutOption title "expected one argument"
  | .unwantedValue title value =>
    aboutOption title ("ignored explicit argument " ++ Text.quote value)
  | .badInteger title value => aboutOption title ("invalid int value: " ++ Text.quote value)
  | .badDecimal title value => aboutOption title ("invalid float value: " ++ Text.quote value)
  | .badChoice title value names =>
    aboutOption title ("invalid choice: " ++ Text.quote value ++ " (choose from " ++
      ", ".intercalate (names.map Text.quote) ++ ")")
  | .unrecognized arguments => "unrecognized arguments: " ++ " ".intercalate arguments

/-! ## Telling options from values -/

inductive Item where
  | value (s : String)
  | option (r : OptionRule) (joined : Option String)
  /-- The short form of the help option with further letters behind it. -/
  | letters (rest : List Char)
  | unknown (s : String)

/-- A minus sign with digits, a point among them if it is not the last. -/
def isNegativeNumber (s : List Char) : Bool :=
  match (if s.getLast? = some '\n' then s.dropLast else s) with
  | '-' :: rest =>
    match Text.cutFirst? '.' rest with
    | none => !rest.isEmpty && rest.all Text.isDecimalDigit
    | some (whole, fraction) =>
      whole.all Text.isDecimalDigit && !fraction.isEmpty && fraction.all Text.isDecimalDigit
  | _ => false

/-- The name of an option and the value behind its equals sign. -/
def cutValue (s : List Char) : List Char × Option String :=
  match Text.cutFirst? '=' s with
  | some (name, value) => (name, some (String.ofList value))
  | none => (s, none)

/-- An argument that starts with a dash and names no option exactly. -/
def classifyOther (s : List Char) : Except UsageFault Item :=
  let (name, joined) := cutValue s
  let candidates :=
    if ['-', '-'].isPrefixOf s then rules.filter fun r => name.isPrefixOf r.name.toList else []
  match candidates with
  | [r] => .ok (.option r joined)
  | _ :: _ => .error (.ambiguous (String.ofList s) (candidates.map (·.name)))
  | [] =>
    if s.drop 1 |>.head? |>.any (· = helpLetter) then .ok (.letters (s.drop 2))
    else if isNegativeNumber s || s.contains ' ' then .ok (.value (String.ofList s))
    else .ok (.unknown (String.ofList s))

/-- An option with the value behind its equals sign. Behind the short form of the help option stand
letters all the same. -/
def joinedItem (r : OptionRule) (name : List Char) (joined : Option String) : Item :=
  match joined with
  | some value =>
    if name = helpShort.toList && value ≠ "" then .letters value.toList else .option r joined
  | none => .option r none

def classify (argument : String) : Except UsageFault Item :=
  let s := argument.toList
  if s.head? ≠ some '-' || s.length = 1 then .ok (.value argument)
  else
    let (name, joined) := cutValue s
    let exact (name : List Char) : Option OptionRule :=
      rules.find? fun r => r.name.toList = name || (r.name = "--help" && helpShort.toList = name)
    match exact s, exact name with
    | some r, _ => .ok (.option r none)
    | none, some r => .ok (joinedItem r name joined)
    | none, none => classifyOther s

/-- The arguments before the double dash by their form, and those from it on. -/
def classifyAll (arguments : List String) : Except UsageFault (List Item × List String) := do
  let items ← (arguments.takeWhile (· ≠ "--")).mapM classify
  return (items, arguments.dropWhile (· ≠ "--"))

/-! ## Reading -/

/-- What the arguments come to: settings, or a wish for help. -/
inductive Outcome where
  | help
  | run (a : Arguments)

def applyValue (r : OptionRule) (value : String) (a : Arguments) : Except UsageFault Arguments :=
  match r.effect with
  | .text set => .ok (set value a)
  | .choice names set =>
    if names.contains value then .ok (set value a) else .error (.badChoice r.title value names)
  | .integer set =>
    match Text.parseInteger value.toList with
    | .ok n => .ok (set n a)
    | .error _ => .error (.badInteger r.title value)
  | .decimal set =>
    match Number.Binary64.parse? value.toList with
    | some x => .ok (set x a)
    | none => .error (.badDecimal r.title value)
  | .help => .error (.unwantedValue r.title value)
  | .flag _ => .error (.unwantedValue r.title value)

/-- What stands behind the short form of the help option and is not the same letter again. -/
def unwantedIn : List Char → Option String
  | [] => none
  | c :: rest => if c = helpLetter then unwantedIn rest else some (String.ofList (c :: rest))

def readLetters (rest : List Char) : Except UsageFault Outcome :=
  match unwantedIn rest with
  | some value => .error (.unwantedValue (helpShort ++ "/--help") value)
  | none => .ok .help

/-- Reads the items in order; `extra` are those that nothing took, and `tail` what comes behind the
double dash. -/
def readItems (a : Arguments) (extra : List String) (tail : List String) :
    List Item → Except UsageFault Outcome
  | [] =>
    if (extra ++ tail).isEmpty then .ok (.run a) else .error (.unrecognized (extra ++ tail))
  | .value s :: items => readItems a (extra ++ [s]) tail items
  | .unknown s :: items => readItems a (extra ++ [s]) tail items
  | .letters rest :: _ => readLetters rest
  | .option r (some value) :: items => do readItems (← applyValue r value a) extra tail items
  | .option r none :: items =>
    match r.effect with
    | .help => .ok .help
    | .flag set => readItems (set a) extra tail items
    | _ =>
      match items with
      | .value s :: rest => do readItems (← applyValue r s a) extra tail rest
      | _ => .error (.missingValue r.title)

def read (arguments : List String) : Except UsageFault Outcome := do
  let (items, tail) ← classifyAll arguments
  readItems .none [] tail items

end SocketInventory.CommandLine
