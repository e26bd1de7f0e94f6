import SocketInventory.Proofs.Session
import SocketInventory.Proofs.Source.Attribution
import SocketInventory.Proofs.Source.Ends

/-!
# Printed listings

The ways in which a listing shows a socket: addresses bare, bracketed or as a star, with or without
a zone, ports as numerals or as a star, any gaps between the columns, and the processes behind them
or nothing. Whatever the way, and whatever other lines stand in between, the sockets that are
printed are the sockets that are read.
-/

namespace SocketInventory.Listing

/-! ## Addresses -/

/-- What stands behind an address in front of its port: nothing, or a zone. -/
structure IsZone (zone : List Char) : Prop where
  nonblank : ∀ c ∈ zone, Text.isBlank c = false
  head : ∀ c, zone.head? = some c → c = '%'

theorem IsZone.nil : IsZone [] := ⟨by simp, by simp⟩

variable {host zone : List Char}

theorem IsZone.dropped (hz : IsZone zone) : Dropped zone := by
  rcases zone with _ | ⟨c, name⟩
  · exact dropped_nil
  · rw [hz.head c rfl]
    exact dropped_zone name

variable {a : Address}

/-- The canonical text of an address is read back, whatever zone stands behind it. -/
theorem parseHost_chars (ha : a.zone? = none) (hz : IsZone zone) :
    parseHost (a.chars ++ zone) = .ok a := by
  rw [parseHost_eq_ok_iff]
  exact (NameText.address (Address.addressText_chars ha)).readsHost hz.dropped

/-- The printed forms of an address. -/
inductive PrintsHost : Address → List Char → Prop
  | v4 (a b c d : UInt8) : PrintsHost (.v4 a b c d) (Address.v4 a b c d).chars
  | v6 (groups : Groups) :
      PrintsHost (.v6 groups none) ('[' :: ((Address.v6 groups none).chars ++ [']']))
  | star : PrintsHost (.unspecified .inet6) ['*']

theorem PrintsHost.readsHost (h : PrintsHost a host) (hz : IsZone zone) :
    ReadsHost (host ++ zone) a := by
  cases h with
  | v4 a b c d => exact (NameText.address (.v4 a b c d)).readsHost hz.dropped
  | v6 groups =>
      exact (NameText.address (Address.addressText_chars rfl)).readsHost_brackets hz.dropped
  | star => exact NameText.star.readsHost hz.dropped

/-! ## Ends -/

inductive PrintsPort : Int → List Char → Prop
  | numeral {n : Nat} (hn : n ≤ 65535) : PrintsPort n (Text.decimalChars n)
  | star : PrintsPort 0 ['*']

inductive PrintsEnd : Address → Int → List Char → Prop
  | intro {a : Address} {n : Int} {host zone port : List Char} (hh : PrintsHost a host)
      (hz : IsZone zone) (hp : PrintsPort n port) : PrintsEnd a n (host ++ zone ++ ':' :: port)

variable {n : Int} {word : List Char}

theorem PrintsPort.colon_notMem {port : List Char} (h : PrintsPort n port) : ':' ∉ port := by
  cases h with
  | numeral hn => exact fun hc => absurd (Text.isDigit_decimalChars _ hc) (by decide)
  | star => decide

theorem PrintsPort.readsPort {port : List Char} (h : PrintsPort n port) : ReadsPort port n := by
  rw [← integerOr_eq_iff]
  cases h with
  | @numeral n hn =>
      have hbound : n < 10 ^ Text.digitLimit :=
        Nat.lt_of_le_of_lt hn (Nat.lt_of_lt_of_le (by decide : 65535 < 10 ^ 5)
          (Nat.pow_le_pow_right (by decide) (by decide)))
      rw [integerOr, Text.parseInteger_decimalChars hbound]
  | star => rfl

theorem PrintsEnd.parseEnd (h : PrintsEnd a n word) : parseEnd word = .ok (a, n) := by
  cases h with
  | intro hh hz hp =>
      rw [parseEnd_eq_ok_iff]
      exact .intro (hh.readsHost hz) hp.colon_notMem hp.readsPort

/-! ## States -/

/-- The printed forms of a state: a listed word, or any other word in upper case. -/
inductive PrintsState : SocketState → List Char → Prop
  | listed {w : String} {s : TcpState} (h : (w, s) ∈ stateWords) :
      PrintsState (.known s) w.toList
  | other {w : List Char} (hu : Text.upper w = w)
      (hw : ∀ s, (String.ofList w, s) ∉ stateWords) : PrintsState (.word (String.ofList w)) w

theorem parseState_listed : ∀ e ∈ stateWords, parseState e.1.toList = .known e.2 := by
  decide +kernel

theorem PrintsState.parseState {st : SocketState} (h : PrintsState st word) :
    parseState word = st := by
  cases h with
  | @listed w s h => exact parseState_listed (w, s) h
  | other hu hw =>
      have hlookup : stateWords.lookup (String.ofList word) = none := by
        rw [List.lookup_eq_none_iff]
        rintro ⟨w, s⟩ hmem
        rw [bne_iff_ne]
        rintro rfl
        exact hw s hmem
      simp only [Listing.parseState, hu, hlookup]

/-! ## Lines -/

/-- The columns show a socket but for its owners. -/
inductive PrintsFront : (List Int → Socket) → Front → Prop
  | tcp {f : Front} {a b : Address} {n k : Int} {st : SocketState}
      (hp : f.protocol.word = ['t', 'c', 'p']) (hs : PrintsState st f.state.word)
      (hl : PrintsEnd a n f.localEnd.word) (hr : PrintsEnd b k f.peerEnd.word) :
      PrintsFront (fun pids => ⟨.tcp, a, some n, some b, some k, some st, pids⟩) f
  | udp {f : Front} {a b : Address} {n k : Int} (hp : f.protocol.word = ['u', 'd', 'p'])
      (hl : PrintsEnd a n f.localEnd.word) (hr : PrintsEnd b k f.peerEnd.word) :
      PrintsFront (fun pids => ⟨.udp, a, some n, none, none, none, pids⟩) f

/-- The lines that show a socket: with the processes that hold it, or without any. -/
inductive Prints : Socket → List Char → Prop
  | held {make : List Int → Socket} {f : Front} {entries : List Entry} (hf : PrintsFront make f)
      (hu : ∀ e ∈ entries, Unmarked e.name) (hl : ∀ e ∈ entries, Text.InLine e.name) :
      Prints (make (entries.map fun e => e.pid.value).eraseDups) (f.line (columnText entries))
  | bare {make : List Int → Socket} {f : Front} {ending : List Char} (hf : PrintsFront make f)
      (he : ∀ c ∈ ending, Text.isBlank c) (hl : Text.InLine ending) :
      Prints (make []) (f.bare ending)

variable {s : Socket} {line : List Char}

theorem PrintsFront.socket? {make : List Int → Socket} {f : Front} (h : PrintsFront make f) :
    f.socket? = some make := by
  cases h with
  | tcp hp hs hl hr =>
      have htransport : transport? f.protocol.word = some .tcp := by rw [hp]; decide
      simp only [Front.socket?, htransport, hl.parseEnd, hr.parseEnd, hs.parseState]
  | udp hp hl hr =>
      have htransport : transport? f.protocol.word = some .udp := by rw [hp]; decide
      simp only [Front.socket?, htransport, hl.parseEnd, hr.parseEnd]

theorem Prints.parseLine (h : Prints s line) : parseLine line = .ok (some s) := by
  cases h with
  | held hf hu hl =>
      have hlf := (inLine_columnText hl).lineFeed_notMem
      rw [← trimEnd_columnText] at hlf
      rw [parseLine_line hf.socket? (starts_columnText _) hlf, trimEnd_columnText,
        parsePids_columnText hu]
      rfl
  | bare hf he _ => exact parseLine_bare hf.socket? he

theorem Prints.isSkipped (h : Prints s line) : isSkipped line = false := by
  cases h with
  | held hf _ _ => exact isSkipped_line hf.socket? _
  | bare hf _ _ => exact isSkipped_bare hf.socket? _

theorem Prints.inLine (h : Prints s line) : Text.InLine line := by
  cases h with
  | held hf _ hl => exact Front.inLine_line _ (inLine_columnText hl)
  | bare hf _ hl => exact Front.inLine_bare _ hl

/-! ## Listings -/

/-- The lines that list some sockets, one line each, among headers, blank lines and lines that show
no socket. -/
inductive Lists : List Socket → List (List Char) → Prop
  | nil : Lists [] []
  | socket {s : Socket} {sockets : List Socket} {line : List Char} {lines : List (List Char)}
      (hs : Prints s line) (h : Lists sockets lines) : Lists (s :: sockets) (line :: lines)
  | header {sockets : List Socket} {rest : List Char} {lines : List (List Char)}
      (hl : Text.InLine rest) (h : Lists sockets lines) :
      Lists sockets (('N' :: 'e' :: 't' :: 'i' :: 'd' :: rest) :: lines)
  | blank {sockets : List Socket} {line : List Char} {lines : List (List Char)}
      (hl : Text.InLine line) (hb : ∀ c ∈ line, Text.isBlank c) (h : Lists sockets lines) :
      Lists sockets (line :: lines)
  | unread {sockets : List Socket} {line : List Char} {lines : List (List Char)}
      (hl : Text.InLine line) (hn : parseLine line = .ok none) (h : Lists sockets lines) :
      Lists sockets (line :: lines)

variable {sockets : List Socket} {lines : List (List Char)}

theorem Lists.inLine (h : Lists sockets lines) : ∀ line ∈ lines, Text.InLine line := by
  induction h with
  | nil => simp
  | socket hs _ ih => exact List.forall_mem_cons.2 ⟨hs.inLine, ih⟩
  | header hl _ ih =>
      have hword : Text.InLine ['N', 'e', 't', 'i', 'd'] := by decide
      exact List.forall_mem_cons.2 ⟨Text.inLine_append_iff.2 ⟨hword, hl⟩, ih⟩
  | blank hl _ _ ih => exact List.forall_mem_cons.2 ⟨hl, ih⟩
  | unread hl _ _ ih => exact List.forall_mem_cons.2 ⟨hl, ih⟩

theorem Lists.mapM_parseLine (h : Lists sockets lines) :
    ∃ found, (lines.filter (!isSkipped ·)).mapM parseLine = .ok found ∧
      found.filterMap id = sockets := by
  induction h with
  | nil => exact ⟨[], rfl, rfl⟩
  | socket hs _ ih =>
      obtain ⟨found, hfound, hsockets⟩ := ih
      rw [List.filter_cons_of_pos (by simp [hs.isSkipped])]
      exact ⟨_, mapM_cons_ok.2 ⟨_, found, hs.parseLine, hfound, rfl⟩, by simpa using hsockets⟩
  | header _ _ ih =>
      rw [List.filter_cons_of_neg (by simp [isSkipped])]
      exact ih
  | blank _ hb _ ih =>
      have hblank := List.all_eq_true.2 hb
      rw [List.filter_cons_of_neg (by simp [isSkipped, Text.isBlankText, hblank])]
      exact ih
  | @unread _ line _ _ hn _ ih =>
      obtain ⟨found, hfound, hsockets⟩ := ih
      -- Such a line may be passed over like a header, or be read and show nothing.
      rw [List.filter_cons]
      split
      · exact ⟨_, mapM_cons_ok.2 ⟨_, found, hn, hfound, rfl⟩, by simpa using hsockets⟩
      · exact ⟨found, hfound, hsockets⟩

/-- The text of some lines, with or without a line feed at the end. -/
def outputText (lines : List (List Char)) : String := String.ofList (['\n'].intercalate lines)

theorem Lists.parseOutput (h : Lists sockets lines) :
    parseOutput (outputText lines).toList = .ok sockets := by
  obtain ⟨found, hfound, hsockets⟩ := h.mapM_parseLine
  rw [Listing.parseOutput, outputText, String.toList_ofList,
    Text.filter_splitLines (by decide) h.inLine, hfound, ← hsockets]
  rfl

/-! ## Collecting -/

def Selected (families : List Family) (transports : List Transport) (s : Socket) : Prop :=
  s.transport ∈ transports ∧ s.localAddress.family ∈ families

instance (families : List Family) (transports : List Transport) :
    DecidablePred (Selected families transports) := fun _ =>
  inferInstanceAs (Decidable (_ ∧ _))

theorem run_collect {m : Machine} {errors : String} (h : Lists sockets lines)
    (hm : m.host.listing = .ok ⟨0, outputText lines, errors⟩) (limit : Option Seconds)
    (families : List Family) (transports : List Transport) :
    (collect limit families transports).run.run m =
      (.ok (sockets.filter (Selected families transports ·)),
        { m with events := m.events ++ [.call (.run command limit)] }) := by
  have hselect : select families transports ⟨0, outputText lines, errors⟩ =
      .ok (sockets.filter (Selected families transports ·)) := by
    have hselected : (fun s : Socket => transports.contains s.transport &&
        families.contains s.localAddress.family) =
          fun s => decide (Selected families transports s) := by
      funext s
      rw [Bool.eq_iff_iff, decide_eq_true_iff]
      simp [Selected]
    rw [select, if_neg (by simp), h.parseOutput, ← hselected]
    rfl
  rw [collect, Session.run_bind_ok (Session.run_call _), Session.run_bind_ok Session.run_host]
  simp only [hm, Session.run_lift, hselect]

/-- Collecting from a listing undoes printing it: of the sockets that are listed, those of a
selection are returned, in the order of the listing and each as it was printed. -/
theorem collect_printed {m : Machine} {errors : String} (h : Lists sockets lines)
    (hm : m.host.listing = .ok ⟨0, outputText lines, errors⟩) (limit : Option Seconds)
    (families : List Family) (transports : List Transport) :
    ((collect limit families transports).run.run m).1 =
      .ok (sockets.filter (Selected families transports ·)) := by
  rw [run_collect h hm]

def linkLocal : Groups := ⟨[0xFE80, 0, 0, 0, 0, 0, 0, 1], rfl⟩

/-- The columns of a socket with a zone behind its address and a peer of stars. -/
def Front.scoped : Front := { Front.established with
  protocol := .single ['u', 'd', 'p'] (by decide) (by decide)
  state := .single "UNCONN".toList (by decide) (by decide)
  localEnd := .single (('[' :: ((Address.v6 linkLocal none).chars ++ [']'])) ++ "%eth0".toList ++
    ':' :: Text.decimalChars 546) (by decide) (by decide +kernel)
  peerEnd := .single "*:*".toList (by decide) (by decide) }

/-- A holder whose name has a quote and a blank in it. -/
def Entry.quoted : Entry := ⟨"dhc\" 6".toList, ⟨['7'], by decide, by decide⟩, by decide,
  ⟨['9'], by decide, by decide⟩⟩

def scopedSocket : Socket := ⟨.udp, .v6 linkLocal none, some 546, none, none, none, [7]⟩

theorem prints_scoped : Prints scopedSocket (Front.scoped.line (columnText [.quoted])) := by
  have hzone : IsZone "%eth0".toList := by
    refine ⟨by decide, ?_⟩
    rintro c hc
    cases hc
    rfl
  have hlocal : PrintsEnd (.v6 linkLocal none) ((546 : Nat) : Int) Front.scoped.localEnd.word :=
    .intro (.v6 linkLocal) hzone (.numeral (by decide))
  have hpeer : PrintsEnd (.unspecified .inet6) 0 Front.scoped.peerEnd.word :=
    .intro .star .nil .star
  have hname : ∀ e ∈ [Entry.quoted], Unmarked e.name ∧ Text.InLine e.name := by
    rintro e he
    rw [List.mem_singleton.1 he]
    exact ⟨unmarked_of_notMem (by decide), by decide⟩
  exact .held (.udp rfl hlocal hpeer) (fun e he => (hname e he).1) fun e he => (hname e he).2

/-- The columns of a socket in a state without a name of its own. -/
def Front.bound : Front := { Front.established with
  state := .single "BOUND".toList (by decide) (by decide)
  localEnd := .single ((Address.v4 10 0 0 1).chars ++ [] ++ ':' :: Text.decimalChars 22) (by decide)
    (by decide +kernel)
  peerEnd := .single ((Address.v4 0 0 0 0).chars ++ [] ++ ':' :: ['*']) (by decide)
    (by decide +kernel) }

def boundSocket : Socket :=
  ⟨.tcp, .v4 10 0 0 1, some 22, some (.v4 0 0 0 0), some 0, some (.word "BOUND"), []⟩

theorem prints_bound : Prints boundSocket (Front.bound.bare [' ']) := by
  have hstate : PrintsState (.word "BOUND") Front.bound.state.word := by
    have hword : ∀ s, (String.ofList Front.bound.state.word, s) ∉ stateWords := by
      intro s
      cases s <;> decide +kernel
    exact .other (by decide +kernel) hword
  have hlocal : PrintsEnd (.v4 10 0 0 1) ((22 : Nat) : Int) Front.bound.localEnd.word :=
    .intro (.v4 10 0 0 1) .nil (.numeral (by decide))
  have hpeer : PrintsEnd (.v4 0 0 0 0) 0 Front.bound.peerEnd.word :=
    .intro (.v4 0 0 0 0) .nil .star
  exact .bare (.tcp rfl hstate hlocal hpeer) (by decide) (by decide)

/-- A header, two sockets, a blank line and a line cut short. -/
def mixedLines : List (List Char) :=
  ["Netid  State".toList, Front.scoped.line (columnText [.quoted]), [], "tcp  LISTEN".toList,
    Front.bound.bare [' ']]

theorem lists_mixed : Lists [scopedSocket, boundSocket] mixedLines := by
  have hcut : parseLine "tcp  LISTEN".toList = .ok none := ok_of_toOption (by decide +kernel)
  have hbound : Lists [boundSocket] [Front.bound.bare [' ']] := .socket prints_bound .nil
  have hunread : Lists [boundSocket] ["tcp  LISTEN".toList, Front.bound.bare [' ']] :=
    .unread (by decide) hcut hbound
  exact .header (by decide) (.socket prints_scoped (.blank (by decide) (by decide) hunread))

theorem collect_printed_mixed :
    Lists [scopedSocket, boundSocket] mixedLines ∧
      ((collect none [.inet6] [.udp]).run.run
        ⟨{ Host.idle "Linux" with listing := .ok ⟨0, outputText mixedLines, ""⟩ }, []⟩).1 =
          .ok [scopedSocket] := by
  refine ⟨lists_mixed, ?_⟩
  rw [collect_printed lists_mixed rfl]
  decide +kernel

end SocketInventory.Listing
