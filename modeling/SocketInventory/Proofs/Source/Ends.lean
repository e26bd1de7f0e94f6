import SocketInventory.Proofs.Address.Grammar
import SocketInventory.Proofs.Source.Line
import SocketInventory.Proofs.Source.Soundness
import SocketInventory.Proofs.Text.Integer

/-!
# Ends of sockets

The texts that are read as an end of a socket. A host is an address or a star, in brackets or not,
with blanks in front of it and blanks or a zone behind it, both of which are dropped. What stands
behind the last colon is a port whatever it is: the number of a numeral, else zero.
-/

namespace SocketInventory.Listing

open Address (AddressText)

variable {s host port : List Char} {a : Address} {n : Int}

/-! ## Hosts that are read -/

/-- An address or a star, without zone and brackets. -/
inductive NameText : List Char → Address → Prop
  | star : NameText ['*'] (.unspecified .inet6)
  | address {t : List Char} {a : Address} (h : AddressText t a) : NameText t a

/-- What may stand behind a host: blanks, or a zone. -/
def Dropped (after : List Char) : Prop :=
  (∀ c ∈ after, Text.isBlank c) ∨ ∃ name, after = '%' :: name

theorem dropped_nil : Dropped [] := .inl (List.forall_mem_nil _)

theorem dropped_zone (name : List Char) : Dropped ('%' :: name) := .inr ⟨name, rfl⟩

inductive ReadsHost : List Char → Address → Prop
  | bare {before t after : List Char} {a : Address} (hb : ∀ c ∈ before, Text.isBlank c)
      (h : NameText t a) (ha : Dropped after) : ReadsHost (before ++ (t ++ after)) a
  | bracketed {before t after : List Char} {a : Address} (hb : ∀ c ∈ before, Text.isBlank c)
      (h : NameText t a) (ha : Dropped after) :
      ReadsHost (before ++ ('[' :: t ++ [']'] ++ after)) a

def isNameChar (c : Char) : Bool := Address.isAddressChar c || c == '*'

theorem NameText.allowed {t : List Char} (h : NameText t a) : ∀ c ∈ t, isNameChar c := by
  cases h with
  | star => decide
  | address h =>
      intro c hc
      simp [isNameChar, h.allowed c hc]

theorem NameText.notMem {t : List Char} (h : NameText t a) {c : Char} (hc : isNameChar c = false) :
    c ∉ t := by
  intro hmem
  rw [h.allowed c hmem] at hc
  cases hc

theorem NameText.nonblank {t : List Char} (h : NameText t a) :
    ∀ c ∈ t, Text.isBlank c = false := by
  cases h with
  | star => decide
  | address h => exact h.nonblank

theorem NameText.ne_nil {t : List Char} (h : NameText t a) : t ≠ [] := by
  cases h with
  | star => simp
  | address h => exact h.ne_nil

/-- The brackets around the whole of a host are dropped. -/
def unbracketed (host : List Char) : List Char :=
  if host.head? = some '[' && host.getLast? = some ']' then (host.drop 1).dropLast else host

theorem unbracketed_brackets (t : List Char) : unbracketed ('[' :: t ++ [']']) = t := by
  have hlast : ('[' :: t ++ [']']).getLast? = some ']' := List.getLast?_concat
  rw [unbracketed, if_pos (by rw [hlast]; rfl), List.cons_append, List.drop_one, List.tail_cons,
    List.dropLast_concat]

theorem nonblank_brackets {t : List Char} (h : ∀ c ∈ t, Text.isBlank c = false) :
    ∀ c ∈ '[' :: t ++ [']'], Text.isBlank c = false := by
  simp only [List.cons_append, List.forall_mem_cons, List.forall_mem_append]
  exact ⟨by decide, h, by decide⟩

theorem percent_notMem_brackets {t : List Char} (h : '%' ∉ t) : '%' ∉ '[' :: t ++ [']'] := by
  simpa using h

theorem unbracketed_eq_self (h : host.head? = some '[' → host.getLast? ≠ some ']') :
    unbracketed host = host := by
  rw [unbracketed, if_neg (by simpa using h)]

/-- A host has brackets around it, or none are dropped. -/
theorem unbracketed_cases (host : List Char) :
    host = '[' :: unbracketed host ++ [']'] ∨ unbracketed host = host := by
  rw [unbracketed]
  split
  · rename_i h
    simp only [Bool.and_eq_true, decide_eq_true_eq] at h
    obtain ⟨rest, rfl⟩ := List.head?_eq_some_iff.1 h.1
    obtain ⟨front, hfront⟩ := List.getLast?_eq_some_iff.1 h.2
    rcases front with _ | ⟨c, front⟩
    · cases hfront
    · cases hfront
      left
      simp
  · exact .inr rfl

theorem bareHost_eq (s : List Char) :
    bareHost s = unbracketed ((Text.trim s).takeWhile (· != '%')) := rfl

/-- The blanks in front of a host and what may stand behind it are dropped. -/
theorem bareHost_around {before core after : List Char} (hb : ∀ c ∈ before, Text.isBlank c)
    (hne : core ≠ []) (hcore : ∀ c ∈ core, Text.isBlank c = false) (hp : '%' ∉ core)
    (ha : Dropped after) : bareHost (before ++ (core ++ after)) = unbracketed core := by
  have hhead : ∀ c, (core ++ after).head? = some c → Text.isBlank c = false := by
    obtain ⟨c, core, rfl⟩ := List.exists_cons_of_ne_nil hne
    rintro _ ⟨⟩
    exact hcore c (by simp)
  have hwhole : core.takeWhile (· != '%') = core := by
    rw [List.takeWhile_eq_self_iff]
    intro c hc
    rw [bne_iff_ne]
    rintro rfl
    exact hp hc
  rw [bareHost_eq, Text.trim_append hb hhead]
  congr 1
  rcases ha with ha | ⟨name, rfl⟩
  · rw [Text.trimEnd_append_blanks ha, Text.trimEnd_eq_self, hwhole]
    exact fun c hc => hcore c (List.mem_of_getLast? hc)
  · have hpercent : ∃ c ∈ '%' :: name, Text.isBlank c = false := ⟨'%', by simp, by decide⟩
    rw [Text.trimEnd_append hpercent, Text.takeWhile_append_stop, hwhole]
    intro c hc
    cases Text.head?_trimEnd hc
    rfl

/-- Every host is something that is read without brackets, with blanks in front and behind it
blanks or a zone. -/
theorem exists_core (s : List Char) : ∃ before core after, s = before ++ (core ++ after) ∧
    (∀ c ∈ before, Text.isBlank c) ∧ Dropped after ∧ bareHost s = unbracketed core := by
  obtain ⟨before, blanks, hs, hbefore, hblanks⟩ := Text.exists_trim s
  have hsplit := List.takeWhile_append_dropWhile (p := (· != '%')) (l := Text.trim s)
  refine ⟨before, (Text.trim s).takeWhile (· != '%'),
    (Text.trim s).dropWhile (· != '%') ++ blanks, ?_, hbefore, ?_, bareHost_eq s⟩
  · rw [← List.append_assoc (List.takeWhile _ _), hsplit]
    exact hs
  · cases hrest : (Text.trim s).dropWhile (· != '%') with
    | nil => exact .inl hblanks
    | cons c rest =>
        have hc := List.head?_dropWhile_not (· != '%') (Text.trim s)
        rw [hrest] at hc
        obtain rfl : c = '%' := by simpa using hc
        exact .inr ⟨rest ++ blanks, rfl⟩

theorem NameText.readsHost {t after : List Char} (h : NameText t a) (ha : Dropped after) :
    ReadsHost (t ++ after) a := @ReadsHost.bare [] t after a (by simp) h ha

theorem NameText.readsHost_brackets {t after : List Char} (h : NameText t a) (ha : Dropped after) :
    ReadsHost ('[' :: t ++ [']'] ++ after) a := @ReadsHost.bracketed [] t after a (by simp) h ha

theorem parseHost_bareHost : parseHost s = .ok a ↔ NameText (bareHost s) a := by
  have hparse := Address.parse?_eq_some_iff (a := a) (percent_notMem_bareHost s)
  simp only [parseHost]
  split
  · rename_i hstar
    rw [hstar]
    constructor
    · rintro ⟨⟩
      exact .star
    · rintro (_ | h)
      · rfl
      · exact absurd (h.allowed '*' (by simp)) (by decide)
  · rename_i hstar
    have hname : NameText (bareHost s) a ↔ AddressText (bareHost s) a := by
      refine ⟨fun h => ?_, .address⟩
      generalize bareHost s = t at h hstar
      cases h with
      | star => exact absurd rfl hstar
      | address h => exact h
    rw [hname, ← hparse]
    cases Address.parse? (bareHost s) with
    | none => exact iff_of_false (by rintro ⟨⟩) (by rintro ⟨⟩)
    | some b => simp

theorem parseHost_error {e : Error} (h : parseHost s = .error e) :
    e = .badAddress (String.ofList (bareHost s)) := by
  simp only [parseHost] at h
  split at h
  · cases h
  · split at h
    · cases h
    · cases h
      rfl

section NameText

variable {before t after : List Char} (h : NameText t a) (hb : ∀ c ∈ before, Text.isBlank c)
  (ha : Dropped after)
include h hb ha

theorem NameText.bareHost : bareHost (before ++ (t ++ after)) = t := by
  have hbracket : t.head? ≠ some '[' := fun hhead =>
    h.notMem (by decide) (List.mem_of_mem_head? hhead)
  rw [bareHost_around hb h.ne_nil h.nonblank (h.notMem (by decide)) ha,
    unbracketed_eq_self fun hhead => absurd hhead hbracket]

theorem NameText.bareHost_brackets :
    Listing.bareHost (before ++ ('[' :: t ++ [']'] ++ after)) = t := by
  rw [bareHost_around hb (by simp) (nonblank_brackets h.nonblank)
    (percent_notMem_brackets (h.notMem (by decide))) ha, unbracketed_brackets]

end NameText

theorem parseHost_eq_ok_iff : parseHost s = .ok a ↔ ReadsHost s a := by
  rw [parseHost_bareHost]
  constructor
  · intro h
    obtain ⟨before, core, after, rfl, hb, ha, hbare⟩ := exists_core s
    rw [hbare] at h
    rcases unbracketed_cases core with hcore | hcore
    · rw [hcore]
      exact .bracketed hb h ha
    · rw [hcore] at h
      exact .bare hb h ha
  · intro h
    cases h with
    | bare hb h ha =>
        rw [h.bareHost hb ha]
        exact h
    | bracketed hb h ha =>
        rw [h.bareHost_brackets hb ha]
        exact h

/-- A zone inside of brackets takes the closing one with it. -/
theorem NameText.bareHost_within {before t : List Char} (h : NameText t a)
    (hb : ∀ c ∈ before, Text.isBlank c) (rest : List Char) :
    Listing.bareHost (before ++ ('[' :: t ++ '%' :: rest)) = '[' :: t := by
  have hnonblank : ∀ c ∈ '[' :: t, Text.isBlank c = false :=
    List.forall_mem_cons.2 ⟨by decide, h.nonblank⟩
  have hpercent : '%' ∉ '[' :: t := by
    have hname := h.notMem (c := '%') (by decide)
    simpa using hname
  have hlast : ('[' :: t).getLast? ≠ some ']' := by
    intro hlast
    rcases List.mem_cons.1 (List.mem_of_getLast? hlast) with hc | hc
    · cases hc
    · exact h.notMem (by decide) hc
  rw [bareHost_around hb (by simp) hnonblank hpercent (dropped_zone rest),
    unbracketed_eq_self fun _ => hlast]

theorem NameText.parseHost_within {before t : List Char} (h : NameText t a)
    (hb : ∀ c ∈ before, Text.isBlank c) (rest : List Char) :
    parseHost (before ++ ('[' :: t ++ '%' :: rest)) =
      .error (.badAddress (String.ofList ('[' :: t))) := by
  have hbare := h.bareHost_within hb rest
  cases hread : parseHost (before ++ ('[' :: t ++ '%' :: rest)) with
  | error e => rw [parseHost_error hread, hbare]
  | ok b =>
      rw [parseHost_bareHost, hbare] at hread
      exact absurd List.mem_cons_self (hread.notMem (by decide))

theorem ReadsHost.unique {b : Address} (h : ReadsHost host a) (h' : ReadsHost host b) : a = b := by
  have hread := parseHost_eq_ok_iff.2 h
  rw [parseHost_eq_ok_iff.2 h'] at hread
  cases hread
  rfl

/-! ## Ports that are read -/

/-- The number of a numeral, and zero for any other text. -/
inductive ReadsPort : List Char → Int → Prop
  | numeral {w : List Char} {n : Int} (h : Text.Numeral w n) : ReadsPort w n
  | other {w : List Char} (h : ∀ n, ¬ Text.Numeral w n) : ReadsPort w 0

theorem integerOr_eq_iff : integerOr 0 port = n ↔ ReadsPort port n := by
  rw [integerOr]
  cases h : Text.parseInteger port with
  | ok k =>
      rw [Text.parseInteger_eq_ok_iff] at h
      constructor
      · rintro rfl
        exact .numeral h
      · rintro (hn | hnot)
        · rw [← Text.parseInteger_eq_ok_iff] at h hn
          cases h.symm.trans hn
          rfl
        · exact absurd h (hnot k)
  | error e =>
      have hnot : ∀ n, ¬ Text.Numeral port n := by
        intro n hn
        rw [← Text.parseInteger_eq_ok_iff, h] at hn
        cases hn
      constructor
      · rintro rfl
        exact .other hnot
      · rintro (hn | _)
        · exact absurd hn (hnot n)
        · rfl

/-- A star counts as zero even where no case is made for it. -/
theorem port_eq (port : List Char) :
    (if port = ['*'] then 0 else integerOr 0 port) = integerOr 0 port := by
  split
  · rename_i hstar
    rw [hstar]
    rfl
  · rfl

theorem ReadsPort.unique {k : Int} (h : ReadsPort port n) (h' : ReadsPort port k) : n = k :=
  (integerOr_eq_iff.2 h).symm.trans (integerOr_eq_iff.2 h')

theorem exists_readsPort (port : List Char) : ∃ n, ReadsPort port n := ⟨_, integerOr_eq_iff.1 rfl⟩

/-! ## Ends that are read -/

inductive ReadsEnd : List Char → Address → Int → Prop
  | intro {host port : List Char} {a : Address} {n : Int} (hh : ReadsHost host a)
      (hc : ':' ∉ port) (hp : ReadsPort port n) : ReadsEnd (host ++ ':' :: port) a n

theorem parseEnd_mid (hc : ':' ∉ port) : parseEnd (host ++ ':' :: port) =
    (parseHost host).map fun a => (a, integerOr 0 port) := by
  simp only [parseEnd, Text.cutLast?_mid hc, port_eq]
  cases parseHost host <;> rfl

theorem parseEnd_eq_ok_iff : parseEnd s = .ok (a, n) ↔ ReadsEnd s a n := by
  constructor
  · intro h
    cases hcut : Text.cutLast? ':' s with
    | none =>
        rw [parseEnd, hcut] at h
        cases h
    | some parts =>
        obtain ⟨host, port⟩ := parts
        obtain ⟨rfl, hc⟩ := Text.cutLast?_sound hcut
        rw [parseEnd_mid hc] at h
        obtain ⟨b, hb, hpair⟩ := exists_of_map_ok h
        cases hpair
        exact .intro (parseHost_eq_ok_iff.1 hb) hc (integerOr_eq_iff.1 rfl)
  · rintro ⟨hh, hc, hp⟩
    rw [parseEnd_mid hc, parseHost_eq_ok_iff.2 hh, Except.map, integerOr_eq_iff.2 hp]

/-- A text is refused for want of a colon, or for its host. -/
theorem parseEnd_error {e : Error} (h : parseEnd s = .error e) :
    ':' ∉ s ∧ e = .noPort (String.ofList s) ∨
    ∃ host port, s = host ++ ':' :: port ∧ ':' ∉ port ∧
      e = .badAddress (String.ofList (bareHost host)) := by
  cases hcut : Text.cutLast? ':' s with
  | none =>
      rw [parseEnd, hcut] at h
      cases h
      exact .inl ⟨Text.cutLast?_eq_none_iff.1 hcut, rfl⟩
  | some parts =>
      obtain ⟨host, port⟩ := parts
      obtain ⟨rfl, hc⟩ := Text.cutLast?_sound hcut
      rw [parseEnd_mid hc] at h
      cases hhost : parseHost host with
      | ok a =>
          rw [hhost] at h
          cases h
      | error f =>
          rw [hhost] at h
          cases h
          exact .inr ⟨host, port, rfl, hc, parseHost_error hhost⟩

end SocketInventory.Listing
