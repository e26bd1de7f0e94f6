import SocketInventory.Proofs.Source.Ends
import SocketInventory.Proofs.Source.Printing
import SocketInventory.Proofs.Source.Settled

/-!
# Documented ends

An end is documented as an address, bare or in brackets, with a zone or none, or a star, and behind
a colon a number of sixteen bits or a star; anything else is to be refused. The texts of which this
holds are those whose host is plain and whose port is fair, and a listing that is read has ports of
sixteen bits exactly when the numerals in it are such.
-/

namespace SocketInventory.Listing

open Address (AddressText)

variable {s host port : List Char} {a : Address} {n : Int}

/-! ## The documented forms -/

/-- Nothing, or a percent sign and a name. -/
def ZoneText (zone : List Char) : Prop := zone = [] ∨ ∃ name, zone = '%' :: name

inductive HostText : List Char → Address → Prop
  | star : HostText ['*'] (.unspecified .inet6)
  | bare {t zone : List Char} {a : Address} (h : AddressText t a) (hz : ZoneText zone) :
      HostText (t ++ zone) a
  | bracketed {t zone : List Char} {a : Address} (h : AddressText t a) (hz : ZoneText zone) :
      HostText ('[' :: t ++ [']'] ++ zone) a
  | within {t : List Char} {a : Address} (h : AddressText t a) (name : List Char) :
      HostText ('[' :: t ++ '%' :: (name ++ [']'])) a

/-- A star, or digits of a number of sixteen bits. -/
inductive PortText : List Char → Int → Prop
  | star : PortText ['*'] 0
  | digits {w : List Char} (hne : w ≠ []) (hw : ∀ c ∈ w, c.isDigit)
      (hle : Nat.ofDigitChars 10 w 0 ≤ 65535) : PortText w (Nat.ofDigitChars 10 w 0 : Nat)

inductive EndText : List Char → Address → Int → Prop
  | intro {host port : List Char} {a : Address} {n : Int} (hh : HostText host a)
      (hp : PortText port n) : EndText (host ++ ':' :: port) a n

/-! ## Where the documented forms are read -/

/-- No blanks around the host, and if it is a star, nothing else. -/
structure Plain (host : List Char) : Prop where
  front : ∀ c, host.head? = some c → Text.isBlank c = false
  back : '%' ∉ host → ∀ c, host.getLast? = some c → Text.isBlank c = false
  star : bareHost host = ['*'] → host = ['*']

/-- An address with a zone inside of brackets. -/
def ZoneWithin (host : List Char) : Prop :=
  ∃ t name, (∃ a, AddressText t a) ∧ host = '[' :: t ++ '%' :: (name ++ [']'])

/-- The port is documented, and its digits are converted or denote zero, as texts that are not. -/
def Fair (port : List Char) : Prop :=
  port = ['*'] ∨ (port ≠ [] ∧ (∀ c ∈ port, c.isDigit) ∧ Nat.ofDigitChars 10 port 0 ≤ 65535 ∧
    (port.length ≤ Text.digitLimit ∨ Nat.ofDigitChars 10 port 0 = 0))

theorem ZoneText.dropped {zone : List Char} (h : ZoneText zone) : Dropped zone := by
  rcases h with rfl | ⟨name, rfl⟩
  · exact dropped_nil
  · exact dropped_zone name

/-- Only behind brackets and bare is a zone read. -/
theorem HostText.readsHost (h : HostText host a) (hs : ¬ ZoneWithin host) : ReadsHost host a := by
  cases h with
  | star => exact NameText.star.readsHost dropped_nil
  | bare h hz => exact (NameText.address h).readsHost hz.dropped
  | bracketed h hz => exact (NameText.address h).readsHost_brackets hz.dropped
  | within h name => exact absurd ⟨_, name, ⟨a, h⟩, rfl⟩ hs

/-- The zone takes the closing bracket with it. -/
theorem ZoneWithin.not_readsHost (h : ZoneWithin host) : ¬ ReadsHost host a := by
  obtain ⟨t, name, ⟨b, ht⟩, rfl⟩ := h
  have hrefused := (NameText.address ht).parseHost_within (List.forall_mem_nil _) (name ++ [']'])
  rw [List.nil_append] at hrefused
  rw [← parseHost_eq_ok_iff, hrefused]
  rintro ⟨⟩

/-- What stands behind a host is a zone, unless the host ends with a blank. -/
theorem Dropped.zoneText {front after : List Char} (ha : Dropped after) (hp : '%' ∉ front)
    (h : '%' ∉ front ++ after → ∀ c, (front ++ after).getLast? = some c →
      Text.isBlank c = false) : ZoneText after := by
  rcases ha with hblank | hname
  · left
    rcases after.eq_nil_or_concat with hnil | ⟨rest, c, rfl⟩
    · exact hnil
    · rw [List.concat_eq_append] at hblank h
      have hpercent : '%' ∉ front ++ (rest ++ [c]) := by
        intro hmem
        rcases List.mem_append.1 hmem with hmem | hmem
        · exact hp hmem
        · exact absurd (hblank _ hmem) (by decide)
      have hc := h hpercent c (by rw [← List.append_assoc, List.getLast?_concat])
      rw [hblank c (by simp)] at hc
      cases hc
  · exact .inr hname

theorem eq_nil_of_front {before rest : List Char} (hb : ∀ c ∈ before, Text.isBlank c)
    (h : ∀ c, (before ++ rest).head? = some c → Text.isBlank c = false) : before = [] := by
  rcases before with _ | ⟨c, before⟩
  · rfl
  · have hc := h c rfl
    rw [hb c (by simp)] at hc
    cases hc

theorem ReadsHost.hostText (h : ReadsHost host a) (hp : Plain host) : HostText host a := by
  cases h with
  | @bare before t after _ hb h ha =>
      obtain rfl := eq_nil_of_front hb hp.front
      have hbare := h.bareHost hb ha
      cases h with
      | star =>
          rw [hp.star hbare]
          exact .star
      | address h =>
          rw [List.nil_append] at hp ⊢
          exact .bare h (ha.zoneText (h.notMem (by decide)) hp.back)
  | @bracketed before t after _ hb h ha =>
      obtain rfl := eq_nil_of_front hb hp.front
      have hbare := h.bareHost_brackets hb ha
      cases h with
      | star =>
          rw [hp.star hbare]
          exact .star
      | address h =>
          have hpercent := percent_notMem_brackets (h.notMem (by decide))
          rw [List.nil_append] at hp ⊢
          exact .bracketed h (ha.zoneText hpercent hp.back)

theorem Plain.of_append {front zone : List Char} (hne : front ≠ [])
    (hfront : ∀ c ∈ front, Text.isBlank c = false) (hz : ZoneText zone)
    (hstar : bareHost (front ++ zone) ≠ ['*']) : Plain (front ++ zone) where
  front := by
    obtain ⟨c, front, rfl⟩ := List.exists_cons_of_ne_nil hne
    rintro _ ⟨⟩
    exact hfront c (by simp)
  back := by
    intro hp c hc
    rcases hz with rfl | ⟨name, rfl⟩
    · rw [List.append_nil] at hc
      exact hfront c (List.mem_of_getLast? hc)
    · exact absurd (by simp) hp
  star := fun h => absurd h hstar

theorem HostText.plain (h : HostText host a) (hs : ¬ ZoneWithin host) : Plain host := by
  have hstar : ∀ {t : List Char} {b : Address}, AddressText t b → t ≠ ['*'] := by
    rintro t b h rfl
    exact absurd (h.allowed '*' (by simp)) (by decide)
  cases h with
  | star =>
      have hblank : Text.isBlank '*' = false := by decide
      exact ⟨by rintro _ ⟨⟩; exact hblank, by rintro - _ ⟨⟩; exact hblank, fun _ => rfl⟩
  | bare h hz =>
      have hbare := (NameText.address h).bareHost (List.forall_mem_nil _) hz.dropped
      rw [List.nil_append] at hbare
      exact .of_append h.ne_nil h.nonblank hz (by rw [hbare]; exact hstar h)
  | @bracketed t zone _ h hz =>
      have hbare := (NameText.address h).bareHost_brackets (List.forall_mem_nil _) hz.dropped
      rw [List.nil_append] at hbare
      exact .of_append (by simp) (nonblank_brackets h.nonblank) hz (by rw [hbare]; exact hstar h)
  | within h name => exact absurd ⟨_, name, ⟨a, h⟩, rfl⟩ hs

theorem PortText.colon_notMem (h : PortText port n) : ':' ∉ port := by
  cases h with
  | star => decide
  | digits _ hw _ => exact fun hc => absurd (hw _ hc) (by decide)

theorem PortText.unique {k : Int} (h : PortText port n) (h' : PortText port k) : n = k := by
  cases h with
  | star =>
      cases h' with
      | star => rfl
      | digits _ hw _ => exact absurd (hw '*' (by simp)) (by decide)
  | digits _ hw _ =>
      cases h' with
      | star => exact absurd (hw '*' (by simp)) (by decide)
      | digits => rfl

theorem readsPort_digits (hne : port ≠ []) (hw : ∀ c ∈ port, c.isDigit) :
    ReadsPort port
      (if Text.digitLimit < port.length then 0 else (Nat.ofDigitChars 10 port 0 : Nat)) := by
  rw [← integerOr_eq_iff, integerOr, Text.parseInteger_digits hw hne,
    Text.parseMagnitude_digits_eq hw hne]
  by_cases hlong : Text.digitLimit < port.length
  · rw [if_pos hlong, if_pos hlong]
    rfl
  · rw [if_neg hlong, if_neg hlong]
    rfl

theorem fair_iff : Fair port ↔ ∃ n, ReadsPort port n ∧ PortText port n := by
  constructor
  · rintro (rfl | ⟨hne, hw, hle, hlimit⟩)
    · exact ⟨0, integerOr_eq_iff.1 rfl, .star⟩
    · refine ⟨_, ?_, .digits hne hw hle⟩
      have hread := readsPort_digits hne hw
      rcases hlimit with hlimit | hzero
      · rwa [if_neg (by omega)] at hread
      · rw [hzero] at hread ⊢
        simpa using hread
  · rintro ⟨n, hread, hp⟩
    cases hp with
    | star => exact .inl rfl
    | digits hne hw hle =>
        refine .inr ⟨hne, hw, hle, ?_⟩
        have hvalue := hread.unique (readsPort_digits hne hw)
        split at hvalue
        · exact .inr (by exact_mod_cast hvalue)
        · exact .inl (by omega)

/-- The host is plain and the port fair wherever the host is read, and no zone is within brackets
in front of a documented port. -/
def Regular (s : List Char) : Prop :=
  ∀ host port, s = host ++ ':' :: port → ':' ∉ port →
    (∀ a, ReadsHost host a → Plain host ∧ Fair port) ∧
      (ZoneWithin host → ∀ n, ¬ PortText port n)

theorem endText_iff_regular :
    (∀ a n, parseEnd s = .ok (a, n) ↔ EndText s a n) ↔ Regular s := by
  -- No port holds a colon, so both readings of a text cut it at the last one.
  simp only [parseEnd_eq_ok_iff]
  constructor
  · rintro h host port rfl hc
    refine ⟨fun a hh => ?_, fun hwithin n hp => ?_⟩
    · obtain ⟨n, hn⟩ := exists_readsPort port
      generalize hs : host ++ ':' :: port = s at h
      obtain @⟨host', port', _, _, hh', hp'⟩ := (h a n).1 (hs ▸ .intro hh hc hn)
      obtain ⟨rfl, rfl⟩ := Text.append_cons_inj hc hp'.colon_notMem hs
      exact ⟨hh'.plain fun hw => hw.not_readsHost hh, fair_iff.2 ⟨n, hn, hp'⟩⟩
    · obtain ⟨t, name, ⟨a, ht⟩, rfl⟩ := hwithin
      generalize hs : ('[' :: t ++ '%' :: (name ++ [']'])) ++ ':' :: port = s at h
      obtain @⟨host', port', _, _, hh', hc', -⟩ := (h a n).2 (hs ▸ .intro (.within ht name) hp)
      obtain ⟨rfl, rfl⟩ := Text.append_cons_inj hc hc' hs
      exact ZoneWithin.not_readsHost ⟨t, name, ⟨a, ht⟩, rfl⟩ hh'
  · intro h a n
    constructor
    · rintro @⟨host, port, _, _, hh, hc, hp⟩
      obtain ⟨hplain, hfair⟩ := (h host port rfl hc).1 a hh
      obtain ⟨k, hk, hport⟩ := fair_iff.1 hfair
      rw [hp.unique hk]
      exact .intro (hh.hostText hplain) hport
    · rintro @⟨host, port, _, _, hh, hp⟩
      obtain ⟨hfair, hwithin⟩ := h host port rfl hp.colon_notMem
      have hread := hh.readsHost fun hw => hwithin hw n hp
      obtain ⟨k, hk, hport⟩ := fair_iff.1 (hfair a hread).2
      rw [hp.unique hport]
      exact .intro hread hp.colon_notMem hk

/-! ## Ports of a listing -/

/-- The socket that columns show, given its two ends and its owners. -/
def Columns.socket (c : Columns) (near far : Address × Int) (pids : List Int) : Transport → Socket
  | .udp => ⟨.udp, near.1, some near.2, none, none, none, pids⟩
  | .tcp => ⟨.tcp, near.1, some near.2, some far.1, some far.2, some (parseState c.state), pids⟩

theorem parseLine_named {line : List Char} {c : Columns} {t : Transport} {near far : Address × Int}
    (hc : columns? line = some c) (ht : transport? c.protocol = some t)
    (hl : parseEnd c.localEnd = .ok near) (hr : parseEnd c.peerEnd = .ok far) :
    parseLine line = (parsePids c.users).map fun pids => some (c.socket near far pids t) := by
  simp only [parseLine, hc, ht, hl, hr]
  cases t <;> cases parsePids c.users <;> rfl

structure Shows (line : List Char) (s : Socket) (c : Columns) (t : Transport)
    (near far : Address × Int) (pids : List Int) : Prop where
  columns : columns? line = some c
  transport : transport? c.protocol = some t
  localEnd : parseEnd c.localEnd = .ok near
  peerEnd : parseEnd c.peerEnd = .ok far
  owners : parsePids c.users = .ok pids
  socket : s = c.socket near far pids t

theorem parseLine_eq_some_iff {line : List Char} {x : Socket} : parseLine line = .ok (some x) ↔
    ∃ c t near far pids, Shows line x c t near far pids := by
  constructor
  · intro h
    rcases parseLine_cases line with ⟨hnone, -⟩ | ⟨c, -, hc, ⟨⟨t, ht⟩, ⟨near, hl⟩, far, hr⟩, -⟩
    · cases hnone.symm.trans h
    · rw [parseLine_named hc ht hl hr] at h
      obtain ⟨pids, hp, hx⟩ := exists_of_map_ok h
      cases hx
      exact ⟨c, t, near, far, pids, hc, ht, hl, hr, hp, rfl⟩
  · rintro ⟨c, t, near, far, pids, h⟩
    rw [parseLine_named h.columns h.transport h.localEnd h.peerEnd, h.owners, h.socket]
    rfl

theorem mem_parseOutput_iff {output : List Char} {sockets : List Socket} {x : Socket}
    (h : parseOutput output = .ok sockets) : x ∈ sockets ↔
      ∃ line ∈ Text.splitLines output, isSkipped line = false ∧ parseLine line = .ok (some x) := by
  obtain ⟨found, hfound, hsockets⟩ := exists_of_bind_ok h
  cases hsockets
  rw [List.mem_filterMap]
  constructor
  · rintro ⟨_, hx, rfl⟩
    obtain ⟨line, hline, hparse⟩ := exists_of_mem_mapM_ok hfound hx
    obtain ⟨hmem, hskip⟩ := List.mem_filter.1 hline
    exact ⟨line, hmem, by simpa using hskip, hparse⟩
  · rintro ⟨line, hmem, hskip, hparse⟩
    obtain ⟨y, hy, hread⟩ := mem_of_mapM_ok hfound (List.mem_filter.2 ⟨hmem, by simp [hskip]⟩)
    cases hparse.symm.trans hread
    exact ⟨_, hy, rfl⟩

/-- The ports of the socket are numbers of sixteen bits. -/
def PortsFit (s : Socket) : Prop :=
  ∀ n, s.localPort = some n ∨ s.remotePort = some n → 0 ≤ n ∧ n ≤ 65535

/-- Behind the last colon stands no numeral of another number than one of sixteen bits. -/
def Bounded (e : List Char) : Prop :=
  ∀ host port, e = host ++ ':' :: port → ':' ∉ port → ∀ n, Text.Numeral port n → 0 ≤ n ∧ n ≤ 65535

theorem bounded_iff {e : List Char} (h : parseEnd e = .ok (a, n)) :
    Bounded e ↔ 0 ≤ n ∧ n ≤ 65535 := by
  obtain @⟨host, port, _, _, -, hc, hp⟩ := parseEnd_eq_ok_iff.1 h
  constructor
  · intro hb
    cases hp with
    | numeral hn => exact hb host port rfl hc n hn
    | other => decide
  · rintro hn host' port' heq hc' k hk
    obtain ⟨rfl, rfl⟩ := Text.append_cons_inj hc hc' heq
    rw [hp.unique (.numeral hk)] at hn
    exact hn

theorem portsFit_socket_iff {c : Columns} {t : Transport} {near far : Address × Int}
    {pids : List Int} : PortsFit (c.socket near far pids t) ↔
      (0 ≤ near.2 ∧ near.2 ≤ 65535) ∧ (t = .tcp → 0 ≤ far.2 ∧ far.2 ≤ 65535) := by
  cases t with
  | udp => simp [PortsFit, Columns.socket]
  | tcp =>
      simp only [PortsFit, Columns.socket, Option.some.injEq, true_implies]
      constructor
      · intro h
        exact ⟨h near.2 (.inl rfl), h far.2 (.inr rfl)⟩
      · rintro ⟨hnear, hfar⟩ n (rfl | rfl)
        · exact hnear
        · exact hfar

theorem portsFit_iff_bounded {output : List Char} {sockets : List Socket}
    (h : parseOutput output = .ok sockets) : (∀ x ∈ sockets, PortsFit x) ↔
      ∀ line ∈ Text.splitLines output, isSkipped line = false →
        ∀ c, columns? line = some c → c.NamesSocket →
          Bounded c.localEnd ∧ (transport? c.protocol = some .tcp → Bounded c.peerEnd) := by
  constructor
  · rintro hall line hline hskip c hc ⟨⟨t, ht⟩, ⟨near, hl⟩, far, hr⟩
    -- The listing was read, so the owners of this line were read as well, and its socket is listed.
    obtain ⟨found, hfound, -⟩ := exists_of_bind_ok h
    obtain ⟨o, -, ho⟩ := mem_of_mapM_ok hfound (List.mem_filter.2 ⟨hline, by simp [hskip]⟩)
    obtain ⟨pids, hp, rfl⟩ := exists_of_map_ok (parseLine_named hc ht hl hr ▸ ho)
    have hmem := (mem_parseOutput_iff h).2 ⟨line, hline, hskip, ho⟩
    obtain ⟨hnear, hfar⟩ := portsFit_socket_iff.1 (hall _ hmem)
    refine ⟨(bounded_iff hl).2 hnear, fun htcp => (bounded_iff hr).2 (hfar ?_)⟩
    exact Option.some.inj (ht.symm.trans htcp)
  · intro hall x hx
    obtain ⟨line, hline, hskip, hparse⟩ := (mem_parseOutput_iff h).1 hx
    obtain ⟨c, t, near, far, pids, hs⟩ := parseLine_eq_some_iff.1 hparse
    obtain ⟨hnear, hfar⟩ := hall line hline hskip c hs.columns
      ⟨⟨t, hs.transport⟩, ⟨near, hs.localEnd⟩, far, hs.peerEnd⟩
    rw [hs.socket, portsFit_socket_iff]
    refine ⟨(bounded_iff hs.localEnd).1 hnear, fun ht => ?_⟩
    subst ht
    exact (bounded_iff hs.peerEnd).1 (hfar hs.transport)

/-- The texts that are read as an end and the errors for all others; a text is read as it is
documented exactly when it is regular; and the ports of a listing fit sixteen bits exactly when no
numeral behind the last colon of an end that is read exceeds them. -/
theorem documented_iff_regular (s output : List Char) :
    (∀ a n, parseEnd s = .ok (a, n) ↔ ReadsEnd s a n) ∧
    (∀ e, parseEnd s = .error e → ':' ∉ s ∧ e = .noPort (String.ofList s) ∨
      ∃ host port, s = host ++ ':' :: port ∧ ':' ∉ port ∧
        e = .badAddress (String.ofList (bareHost host))) ∧
    ((∀ a n, parseEnd s = .ok (a, n) ↔ EndText s a n) ↔ Regular s) ∧
    ∀ sockets, parseOutput output = .ok sockets → ((∀ x ∈ sockets, PortsFit x) ↔
      ∀ line ∈ Text.splitLines output, isSkipped line = false →
        ∀ c, columns? line = some c → c.NamesSocket →
          Bounded c.localEnd ∧ (transport? c.protocol = some .tcp → Bounded c.peerEnd)) :=
  ⟨fun _ _ => parseEnd_eq_ok_iff, fun _ => parseEnd_error, endText_iff_regular,
    fun _ => portsFit_iff_bounded⟩

/-- A link-local address in brackets with its zone behind them. -/
def scopedHost : List Char :=
  '[' :: (Address.v6 linkLocal none).chars ++ [']'] ++ ['%', 'e', 't', 'h', '0']

theorem readsHost_scopedHost : ReadsHost scopedHost (.v6 linkLocal none) :=
  (NameText.address (Address.addressText_chars rfl)).readsHost_brackets (.inr ⟨_, rfl⟩)

theorem hostText_scopedHost : HostText scopedHost (.v6 linkLocal none) :=
  .bracketed (Address.addressText_chars rfl) (.inr ⟨_, rfl⟩)

theorem fair_546 : Fair ['5', '4', '6'] :=
  .inr ⟨by decide, by decide, by decide, .inl (by decide)⟩

theorem regular_scopedHost : Regular (scopedHost ++ ':' :: ['5', '4', '6']) := by
  intro host port heq hc
  obtain ⟨rfl, rfl⟩ := Text.append_cons_inj (by decide) hc heq
  have hwithin : ¬ ZoneWithin scopedHost := fun h => h.not_readsHost readsHost_scopedHost
  exact ⟨fun a _ => ⟨hostText_scopedHost.plain hwithin, fair_546⟩, fun h => absurd h hwithin⟩

theorem documented_iff_regular_scoped :
    parseEnd (scopedHost ++ ':' :: ['5', '4', '6']) = .ok (.v6 linkLocal none, 546) ∧
    parseOutput (outputText mixedLines).toList = .ok [scopedSocket, boundSocket] ∧
    ∀ line ∈ Text.splitLines (outputText mixedLines).toList, isSkipped line = false →
      ∀ c, columns? line = some c → c.NamesSocket →
        Bounded c.localEnd ∧ (transport? c.protocol = some .tcp → Bounded c.peerEnd) := by
  obtain ⟨-, -, hends, hports⟩ := documented_iff_regular
    (scopedHost ++ ':' :: ['5', '4', '6']) (outputText mixedLines).toList
  have hport : PortText ['5', '4', '6'] 546 := .digits (by decide) (by decide) (by decide)
  have hlisted := lists_mixed.parseOutput
  have hscoped : PortsFit scopedSocket := by
    rintro n (hn | hn)
    · cases hn
      decide
    · cases hn
  have hbound : PortsFit boundSocket := by
    rintro n (hn | hn)
    · cases hn
      decide
    · cases hn
      decide
  have hfit : ∀ x ∈ [scopedSocket, boundSocket], PortsFit x :=
    List.forall_mem_cons.2 ⟨hscoped, List.forall_mem_singleton.2 hbound⟩
  exact ⟨(hends.2 regular_scopedHost _ _).2 (.intro hostText_scopedHost hport), hlisted,
    (hports _ hlisted).1 hfit⟩

def overflowLine : List Char := "tcp ESTAB 0 0 1.2.3.4:70000 5.6.7.8:10".toList

def overflowSocket : Socket :=
  ⟨.tcp, .v4 1 2 3 4, some 70000, some (.v4 5 6 7 8), some 10, some (.known .established), []⟩

theorem not_portText_word {w : List Char} {c : Char} (hc : c ∈ w) (hd : c.isDigit = false)
    (hs : w ≠ ['*']) : ¬ PortText w n := by
  intro h
  cases h with
  | star => exact hs rfl
  | digits _ hw _ =>
      rw [hw c hc] at hd
      cases hd

/-- A word is read as port zero, an end with the zone inside of its brackets is refused, and a port
of seventeen bits is listed. -/
theorem not_documented :
    (parseEnd "1.2.3.4:http".toList = .ok (.v4 1 2 3 4, 0) ∧
      ∀ a n, ¬ EndText "1.2.3.4:http".toList a n) ∧
    (EndText "[fe80::1%eth0]:546".toList (.v6 linkLocal none) 546 ∧
      ∀ a n, parseEnd "[fe80::1%eth0]:546".toList ≠ .ok (a, n)) ∧
    parseOutput overflowLine = .ok [overflowSocket] ∧ ¬ PortsFit overflowSocket := by
  refine ⟨⟨ok_of_toOption (by decide +kernel), ?_⟩, ⟨?_, ?_⟩,
    ok_of_toOption (by decide +kernel), ?_⟩
  · intro a n h
    generalize hs : "1.2.3.4:http".toList = s at h
    obtain @⟨host, port, _, _, -, hp⟩ := h
    have hword : "1.2.3.4:http".toList = "1.2.3.4".toList ++ ':' :: "http".toList := by decide
    obtain ⟨-, rfl⟩ := Text.append_cons_inj (by decide) hp.colon_notMem (hword.symm.trans hs)
    exact not_portText_word (c := 'h') (by decide) (by decide) (by decide) hp
  · have hword : "[fe80::1%eth0]:546".toList =
        ('[' :: (Address.v6 linkLocal none).chars ++ '%' :: (['e', 't', 'h', '0'] ++ [']'])) ++
          ':' :: ['5', '4', '6'] := by decide +kernel
    rw [hword]
    exact .intro (.within (Address.addressText_chars rfl) _)
      (.digits (by decide) (by decide) (by decide))
  · intro a n h
    have hrefused : (parseEnd "[fe80::1%eth0]:546".toList).toOption = none := by decide +kernel
    rw [h] at hrefused
    cases hrefused
  · intro h
    exact absurd (h 70000 (.inl rfl)) (by decide)

end SocketInventory.Listing
