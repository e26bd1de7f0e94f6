import SocketInventory.Proofs.Source.Attribution
import SocketInventory.Proofs.Source.Settled
import SocketInventory.Proofs.Surfaces

/-!
# Failures of an enumeration

What a user meets of an enumeration that fails. A line of the listing that names no socket is passed
over, and an enumeration error becomes the exit status of the program and the answer of the service.
Every other error escapes both, so it matters which answers of the host end in one.
-/

namespace SocketInventory

/-! ## Lines that name no socket -/

namespace Listing

/-- The line is skipped, or its columns name no socket. -/
def Malformed (line : List Char) : Prop :=
  isSkipped line = true ∨ ∀ c, columns? line = some c → ¬ c.NamesSocket

/-- The text is empty, or its last line is ended. -/
def Ended (s : List Char) : Prop := s = [] ∨ ∃ t, s = t ++ ['\n']

theorem Ended.splitLines_append {s : List Char} (h : Ended s) (rest : List Char) :
    Text.splitLines (s ++ rest) = Text.splitLines s ++ Text.splitLines rest := by
  rcases h with rfl | ⟨t, rfl⟩
  · rfl
  · rw [List.append_assoc, List.singleton_append, Text.splitLines_append_lineFeed]

theorem parseLine_of_malformed {line : List Char} (h : Malformed line)
    (hs : isSkipped line = false) : parseLine line = .ok none := by
  rcases h with hskipped | hnot
  · rw [hs] at hskipped
    cases hskipped
  · rcases parseLine_cases line with ⟨hnone, -⟩ | ⟨c, make, hc, hnames, -⟩
    · exact hnone
    · exact absurd hnames (hnot c hc)

/-- What is read as nothing leaves the others as they are, a failure among them included. -/
theorem filterMap_mapM_none {α β : Type} {f : α → Except Error (Option β)} {x : α}
    (hx : f x = .ok none) (before after : List α) :
    ((before ++ x :: after).mapM f).map (·.filterMap id) =
      ((before ++ after).mapM f).map (·.filterMap id) := by
  simp only [List.mapM_append, List.mapM_cons, hx]
  cases before.mapM f with
  | error e => rfl
  | ok first =>
      cases after.mapM f with
      | error e => rfl
      | ok last => simp [bind, Except.bind, pure, Except.pure, Except.map]

theorem parseOutput_eq (output : List Char) : parseOutput output =
    (((Text.splitLines output).filter (!isSkipped ·)).mapM parseLine).map (·.filterMap id) := by
  rw [parseOutput]
  cases ((Text.splitLines output).filter (!isSkipped ·)).mapM parseLine <;> rfl

/-- A malformed line is passed over, and the lines around it are read as without it. -/
theorem parseOutput_malformed {first line : List Char} (hf : Ended first) (hl : Text.InLine line)
    (hm : Malformed line) (last : List Char) :
    parseOutput (first ++ (line ++ '\n' :: last)) = parseOutput (first ++ last) := by
  simp only [parseOutput_eq, hf.splitLines_append, Text.splitLines_lineFeed hl, List.filter_append,
    List.filter_cons]
  cases hs : isSkipped line with
  | true => rfl
  | false => exact filterMap_mapM_none (parseLine_of_malformed hm hs) _ _

end Listing

/-! ## Enumeration errors -/

section Surfaces

variable {cfg : Config} {b : Backend} {m m' : Machine} {e : EnumerationError}

theorem Inventory.run_ofConfig_error {e : Error} (hb : Backend.resolve m.host cfg.backend = .ok b)
    (h : (b.collect cfg.queryLimit cfg.families cfg.transports).run.run m = (.error e, m')) :
    (Inventory.ofConfig cfg).run.run m = (.error e, m') := by
  have hsources : (sources b cfg.queryLimit cfg.families cfg.transports).run.run m =
      (.error e, m') := by
    rw [sources, Session.run_bind_error h]
  rw [ofConfig, Session.run_bind_ok Session.run_host, Session.run_bind, Session.run_lift, hb]
  exact Session.run_bind_error hsources

/-- An enumeration error is a failure with its message, where the query is accepted. -/
theorem Selection.verdict_failed (hb : Backend.resolve m.host cfg.backend = .ok b)
    (h : (b.collect cfg.queryLimit cfg.families cfg.transports).run.run m =
      (.error (.enumeration e), m')) {name : Option String} {filter text : String}
    (hq : query cfg.presets name filter = .ok text) (hr : Filter.refusal? text = .ok none) :
    verdict cfg.presets (Inventory.ofConfig cfg) name filter m = (.failed e.message, m') := by
  rw [verdict_accepted hq hr, Inventory.run_ofConfig_error hb h]
  rfl

end Surfaces

/-! ## What an enumeration ends in -/

/-- With the answers that its interface is documented to give, a backend ends in sockets or in an
enumeration error exactly when everything that it comes to can be read. Malformed lines of a listing
are passed over, and every enumeration error ends the program with exit status one and is answered
by the service with its message, where the query is accepted. -/
theorem settled_iff_legible (b : Backend) (limit : Option Seconds) (families : List Family)
    (transports : List Transport) (m : Machine) (ha : b.Answers families transports m) :
    (Settled ((b.collect limit families transports).run.run m).1 ↔
      b.Legible families transports m) ∧
    (∀ first line last, Listing.Ended first → Text.InLine line → Listing.Malformed line →
      Listing.parseOutput (first ++ (line ++ '\n' :: last)) =
        Listing.parseOutput (first ++ last)) ∧
    ∀ e m', (b.collect limit families transports).run.run m = (.error (.enumeration e), m') →
      ∀ (cfg : Config) (a : CommandLine.Arguments) (text : String),
        cfg.queryLimit = limit → cfg.families = families → cfg.transports = transports →
        Backend.resolve m.host cfg.backend = .ok b → a.serve = false →
        Selection.query cfg.presets a.preset a.filter = .ok text →
        Filter.refusal? text = .ok none →
          (CommandLine.withConfig a cfg).run.run m =
            (.ok 1, m'.noting [CommandLine.errorLine e.message]) ∧
          ∀ target, (Web.Target.parse target).Asks a.preset a.filter →
            (Web.answer cfg.presets (Inventory.ofConfig cfg) ⟨"GET", target⟩).run.run m =
              (.ok (.error 500 e.message),
                m'.noting [.log .error ("inventory failed: " ++ e.message)]) := by
  refine ⟨b.settled_collect_iff families transports limit ha,
    fun first line last hf hl hm => Listing.parseOutput_malformed hf hl hm last, ?_⟩
  rintro e m' h cfg a text rfl rfl rfl hb hs hq hr
  have hverdict := Selection.verdict_failed hb h hq hr
  refine ⟨?_, fun target ht => ?_⟩
  · rw [CommandLine.run_withConfig hs, hverdict]
    rfl
  · rw [Web.run_answer ht, hverdict]
    rfl

/-- A line whose local end has no address. -/
def Listing.strayLine : List Char := "tcp LISTEN 0 128 nowhere:22 0.0.0.0:*".toList

theorem Listing.malformed_strayLine : Malformed strayLine := by
  have hcolumns : columns? strayLine =
      some ⟨"tcp".toList, "LISTEN".toList, "nowhere:22".toList, "0.0.0.0:*".toList, []⟩ := by
    decide +kernel
  refine .inr fun c hc ⟨_, ⟨a, ha⟩, _⟩ => ?_
  cases hcolumns.symm.trans hc
  have hstray : (parseEnd "nowhere:22".toList).toOption = none := by decide +kernel
  rw [ha] at hstray
  cases hstray

/-- A host that lists no connections without more rights. -/
def Host.guarded : Host :=
  { Host.idle "Darwin" with connections := fun _ => .error (.host .accessDenied "") }

theorem settled_iff_legible_guarded :
    Backend.connections.Answers [.inet4] [.tcp] ⟨Host.guarded, []⟩ ∧
    Settled ((Backend.connections.collect none [.inet4] [.tcp]).run.run ⟨Host.guarded, []⟩).1 ∧
    Listing.parseOutput (Listing.strayLine ++ ['\n']) = .ok [] ∧
    (∃ m, (CommandLine.withConfig .none { Config.standard with
        queryLimit := none, families := [.inet4], transports := [.tcp] }).run.run
          ⟨Host.guarded, []⟩ = (.ok 1, m)) ∧
    ∃ m, (Web.answer [] (Inventory.ofConfig { Config.standard with
        queryLimit := none, families := [.inet4], transports := [.tcp] })
          ⟨"GET", "/api/connections"⟩).run.run ⟨Host.guarded, []⟩ =
            (.ok (.error 500 (EnumerationError.accessDenied "tcp4").message), m) := by
  let cfg : Config := { Config.standard with
    queryLimit := none, families := [.inet4], transports := [.tcp] }
  have ha : Backend.connections.Answers [.inet4] [.tcp] ⟨Host.guarded, []⟩ := by
    rintro k - e ⟨⟩
    exact ⟨.accessDenied, "", rfl, rfl⟩
  obtain ⟨hsettled, hskips, hends⟩ := settled_iff_legible .connections none [.inet4] [.tcp] _ ha
  have hlegible : Backend.connections.Legible [.inet4] [.tcp] ⟨Host.guarded, []⟩ := by
    intro k m' h connections hk
    cases hk
  have hrun : (Backend.connections.collect none [.inet4] [.tcp]).run.run ⟨Host.guarded, []⟩ =
      (.error (.enumeration (.accessDenied "tcp4")),
        Machine.noting ⟨Host.guarded, []⟩ [.call (.connections ⟨.tcp, .inet4⟩)]) := rfl
  obtain ⟨hprogram, hservice⟩ := hends _ _ hrun cfg .none "" rfl rfl rfl rfl rfl rfl rfl
  have htarget : (Web.Target.parse "/api/connections").Asks none "" := by
    constructor <;> decide +kernel
  have hstray := hskips [] Listing.strayLine [] (.inl rfl) (by decide) Listing.malformed_strayLine
  exact ⟨ha, hsettled.2 hlegible, hstray, ⟨_, hprogram⟩, _, hservice _ htarget⟩

/-! ## Answers that do not settle -/

namespace Listing

theorem Front.namesSocket {f : Front} (h : f.socket?.isSome) (users : List Char) :
    Columns.NamesSocket
      ⟨f.protocol.word, f.state.word, f.localEnd.word, f.peerEnd.word, users⟩ := by
  rw [Front.socket?] at h
  split at h
  · rename_i ht hl hr
    exact ⟨⟨_, ht⟩, ⟨_, hl⟩, _, hr⟩
  · rename_i ht hl hr
    exact ⟨⟨_, ht⟩, ⟨_, hl⟩, _, hr⟩
  · cases h

/-- A process column with one number. -/
def numberText (digits : List Char) : List Char :=
  ['u', 's', 'e', 'r', 's', ':', '(', '(', '"', 'a', '"'] ++
    ',' :: 'p' :: 'i' :: 'd' :: '=' :: (digits ++ [',', 'f', 'd', '=', '3', ')']) ++ [')']

section NumberText

variable {digits : List Char} (hd : ∀ c ∈ digits, c.isDigit)
include hd

theorem mem_pidNumerals_numberText (hne : digits ≠ []) :
    digits ∈ pidNumerals (numberText digits) := by
  have hdecimal : ∀ c ∈ digits, Text.isDecimalDigit c :=
    fun c hc => Text.isDecimalDigit_isDigit (hd c hc)
  have hstop : ∀ c, [',', 'f', 'd', '=', '3', ')'].head? = some c →
      Text.isDecimalDigit c = false := by
    rintro c ⟨⟩
    decide
  rw [numberText, pidNumerals_append (by decide) (by decide),
    pidNumerals_append (by decide) (by decide), pidNumerals_mark hdecimal hstop, if_neg hne]
  simp only [List.mem_append, List.mem_cons, true_or, or_true]

theorem inLine_numberText : Text.InLine (numberText digits) := by
  have hdigits := Text.InLine.of_digits hd
  have hmark : Text.InLine [',', 'p', 'i', 'd', '='] := by decide
  have hsplit : numberText digits = ['u', 's', 'e', 'r', 's', ':', '(', '(', '"', 'a', '"'] ++
      ([',', 'p', 'i', 'd', '='] ++ (digits ++ [',', 'f', 'd', '=', '3', ')'])) ++ [')'] := rfl
  simp only [hsplit, Text.inLine_append_iff]
  exact ⟨⟨by decide, hmark, hdigits, by decide⟩, by decide⟩

omit hd in
theorem trimEnd_numberText : Text.trimEnd (numberText digits) = numberText digits := by
  apply Text.trimEnd_eq_self
  intro c hc
  rw [numberText, List.getLast?_concat] at hc
  cases hc
  decide

/-- A listing with a number of too many digits cannot be read. -/
theorem not_legible_of_oversized {f : Front} (hf : f.socket?.isSome)
    (hlong : Text.digitLimit < digits.length) {host : Host}
    (hl : host.listing = .ok ⟨0, String.ofList (f.line (numberText digits) ++ ['\n']), ""⟩) :
    ¬ Legible host := by
  have hinLine := inLine_numberText hd
  have hstarts : Starts (numberText digits) := ⟨'u', _, rfl, by decide⟩
  have hcolumns := f.columns?_line hstarts hinLine.trimEnd.lineFeed_notMem
  rw [trimEnd_numberText] at hcolumns
  have hmem : f.line (numberText digits) ∈
      Text.splitLines (String.ofList (f.line (numberText digits) ++ ['\n'])).toList := by
    rw [String.toList_ofList, Text.splitLines_lineFeed (f.inLine_line hinLine)]
    exact List.mem_cons_self
  have hne : digits ≠ [] := by
    rintro rfl
    cases hlong
  obtain ⟨make, hmake⟩ := Option.isSome_iff_exists.1 hf
  intro h
  have hfit := h _ hl rfl _ hmem (isSkipped_line hmake _) _ hcolumns (Front.namesSocket hf _)
    _ (mem_pidNumerals_numberText hd hne)
  omega

end NumberText

/-- A number of one digit more than is converted. -/
def oversized : List Char := List.replicate (Text.digitLimit + 1) '1'

/-- A host that lists a connection of a process with that number. -/
def oversizedHost : Host := { Host.idle "Linux" with
  listing := .ok ⟨0, String.ofList (Front.established.line (numberText oversized) ++ ['\n']), ""⟩ }

theorem not_legible_oversizedHost : ¬ Legible oversizedHost := by
  have hd : ∀ c ∈ oversized, c.isDigit := by
    intro c hc
    rw [List.eq_of_mem_replicate hc]
    decide
  have hlong : Text.digitLimit < oversized.length := by simp [oversized]
  exact not_legible_of_oversized hd (by decide +kernel) hlong rfl

end Listing

/-- A host with a connection at a name instead of an address. -/
def Connections.namedHost : Host := { Host.idle "Darwin" with
  connections := fun k => .ok
    (if k = ⟨.tcp, .inet4⟩ then [⟨.inet4, some ("nowhere", .number 22), none, "LISTEN", none⟩]
    else []) }

/-- A host with a table that counts one row and holds none. -/
def OwnerTable.shortHost : Host :=
  { Host.idle "Windows" with tables := fun _ => [.table [1, 0, 0, 0]] }

/-- A number of too many digits, an address that is a name and a table that is too short for its
count each end in an error that is no enumeration error. -/
theorem not_settled :
    ¬ Settled ((Backend.listing.collect none [.inet4, .inet6] [.tcp, .udp]).run.run
      ⟨Listing.oversizedHost, []⟩).1 ∧
    ¬ Settled ((Backend.connections.collect none [.inet4, .inet6] [.tcp, .udp]).run.run
      ⟨Connections.namedHost, []⟩).1 ∧
    ¬ Settled ((Backend.ownerTable.collect none [.inet4, .inet6] [.tcp, .udp]).run.run
      ⟨OwnerTable.shortHost, []⟩).1 := by
  refine ⟨fun h => ?_, fun h => ?_, fun h => ?_⟩
  · have ha : Listing.Answers Listing.oversizedHost := by rintro e ⟨⟩
    exact Listing.not_legible_oversizedHost ((Listing.settled_collect_iff _ _ none ha).1 h)
  · have hbad : ((Backend.connections.collect none [.inet4, .inet6] [.tcp, .udp]).run.run
        ⟨Connections.namedHost, []⟩).1 = .error (.badAddress "nowhere") := by rfl
    obtain ⟨e, he⟩ := settled_error_iff.1 (hbad ▸ h)
    cases he
  · have hshort : ((Backend.ownerTable.collect none [.inet4, .inet6] [.tcp, .udp]).run.run
        ⟨OwnerTable.shortHost, []⟩).1 = .error (.shortBuffer 4 28) := by rfl
    obtain ⟨e, he⟩ := settled_error_iff.1 (hshort ▸ h)
    cases he

end SocketInventory
