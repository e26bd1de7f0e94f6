import SocketInventory.Inventory
import SocketInventory.Proofs.Query.Answers
import SocketInventory.Proofs.Source.Ends
import SocketInventory.Render.Table

/-!
# Ends that are shown

An end has a text unless its port is too long to be shown. The text of an end with a port names the
end: read as an end of a socket, it gives the port and an address that is shown like the one it was
made of. Where the unspecified address is absent, that of the family asked for stands in its place.
-/

namespace SocketInventory.Render

open Inventory (addressText)
open Listing (ReadsHost ReadsPort parseEnd)

variable {a : Address} {v6 : Bool} {port : Int}

/-! ## Texts -/

theorem shownInteger_eq_ok_iff {n : Int} {chars : List Char} : shownInteger n = .ok chars ↔
    (Query.Content.number n).Shown ∧ chars = Text.integerChars n := by
  by_cases hn : (Query.Content.number n).Shown
  · have hshown : shownInteger n = .ok (Text.integerChars n) := Query.Content.shown_eq hn
    rw [hshown, Except.ok.injEq, eq_comm]
    exact (and_iff_right hn).symm
  · have hshown : shownInteger n = .error (.data .integerLength) := Query.Content.shown_error hn
    rw [hshown]
    exact iff_of_false (by rintro ⟨⟩) fun h => hn h.1

/-- The text of a port that can be shown. -/
def portChars : Option Int → String
  | none => "*"
  | some port => Text.integerText port

theorem portText_eq_ok_iff {port : Option Int} {text : String} : portText port = .ok text ↔
    (∀ n, port = some n → (Query.Content.number n).Shown) ∧ text = portChars port := by
  cases port with
  | none =>
      rw [portText, Except.ok.injEq, eq_comm]
      exact (and_iff_right (by simp)).symm
  | some n =>
      simp only [portText, Option.some.injEq, forall_eq']
      constructor
      · intro h
        obtain ⟨chars, hchars, rfl⟩ := exists_of_map_ok h
        obtain ⟨hn, rfl⟩ := shownInteger_eq_ok_iff.1 hchars
        exact ⟨hn, rfl⟩
      · rintro ⟨hn, rfl⟩
        rw [shownInteger_eq_ok_iff.2 ⟨hn, rfl⟩]
        rfl

/-- The text of an end whose port can be shown. -/
def endChars (e : Endpoint) (v6 : Bool) : String :=
  if e.address.isNone && e.port.isNone then "*:*"
  else hostText e.address v6 ++ ":" ++ portChars e.port

theorem endText_eq_ok_iff {e : Endpoint} {v6 : Bool} {text : String} : endText e v6 = .ok text ↔
    (∀ n, e.port = some n → (Query.Content.number n).Shown) ∧ text = endChars e v6 := by
  rw [endText, endChars]
  split
  · rename_i h
    have hport : e.port = none := by
      simp only [Bool.and_eq_true, Option.isNone_iff_eq_none] at h
      exact h.2
    rw [Except.ok.injEq, eq_comm, hport]
    exact (and_iff_right (by simp)).symm
  · constructor
    · intro h
      obtain ⟨port, hport, h⟩ := exists_of_bind_ok h
      obtain ⟨hn, rfl⟩ := portText_eq_ok_iff.1 hport
      cases h
      exact ⟨hn, rfl⟩
    · rintro ⟨hn, rfl⟩
      rw [portText_eq_ok_iff.2 ⟨hn, rfl⟩]
      rfl

theorem portText_error {port : Option Int}
    (h : ¬ ∀ n, port = some n → (Query.Content.number n).Shown) :
    portText port = .error (.data .integerLength) := by
  cases port with
  | none => simp at h
  | some n =>
      have hn : shownInteger n = .error (.data .integerLength) :=
        @Query.Content.shown_error (.number n) (by simpa using h)
      rw [portText, hn]
      rfl

theorem endText_error {e : Endpoint} {v6 : Bool}
    (h : ¬ ∀ n, e.port = some n → (Query.Content.number n).Shown) :
    endText e v6 = .error (.data .integerLength) := by
  have hport : ¬ (e.address.isNone && e.port.isNone) = true := by
    intro hnone
    simp only [Bool.and_eq_true, Option.isNone_iff_eq_none] at hnone
    exact h (by simp [hnone.2])
  rw [endText, if_neg hport, portText_error h]
  rfl

/-! ## Hosts -/

/-- The address whose text is shown for an address. -/
def shownAddress (a : Address) (v6 : Bool) : Address :=
  if a.isUnspecified then .unspecified (if v6 then .inet6 else .inet4) else a

theorem zone?_shownAddress (ha : a.zone? = none) : (shownAddress a v6).zone? = none := by
  rw [shownAddress]
  split
  · cases v6 <;> rfl
  · exact ha

/-- An address and the one that is shown for it are alike in a record. -/
theorem addressText_shownAddress (a : Address) (v6 : Bool) :
    addressText (some (shownAddress a v6)) = addressText (some a) := by
  rw [shownAddress]
  split
  · rename_i ha
    rw [addressText, addressText, if_pos ha]
    cases v6 <;> rfl
  · rfl

def bracketed (host : List Char) : List Char :=
  if host.contains ':' then '[' :: host ++ [']'] else host

/-- The text that stands for an absent address. -/
theorem chars_unspecified (v6 : Bool) :
    (Address.unspecified (if v6 then .inet6 else .inet4)).chars =
      (if v6 then "::" else "0.0.0.0").toList := by
  revert v6
  decide +kernel

theorem hostText_addressText (ha : a.zone? = none) :
    (hostText (addressText (some a)) v6).toList = bracketed (shownAddress a v6).chars := by
  have hbrackets : ∀ host : String,
      (if host.toList.contains ':' then "[" ++ host ++ "]" else host).toList =
        bracketed host.toList := by
    intro host
    rw [bracketed]
    split <;> simp
  rw [hostText, hbrackets, shownAddress, addressText]
  cases hz : a.isUnspecified with
  | true => rw [if_pos rfl, if_pos rfl, chars_unspecified, Option.filter_none]
  | false =>
      have hne : a.text ≠ "" := by
        intro hempty
        have hchars := congrArg String.toList hempty
        rw [Address.text, String.toList_ofList] at hchars
        exact (Address.addressText_chars ha).ne_nil hchars
      have hfilter : (some a.text).filter (· ≠ "") = some a.text := by simpa using hne
      simp only [Bool.false_eq_true, ↓reduceIte]
      rw [hfilter, Address.text, String.toList_ofList]

theorem readsHost_bracketed (ha : a.zone? = none) : ReadsHost (bracketed a.chars) a := by
  have hname := Listing.NameText.address (Address.addressText_chars ha)
  rw [bracketed]
  split
  · simpa using hname.readsHost_brackets Listing.dropped_nil
  · simpa using hname.readsHost Listing.dropped_nil

/-! ## Ports -/

theorem colon_notMem_integerChars (port : Int) : ':' ∉ Text.integerChars port := by
  intro h
  rcases Text.mem_integerChars h with hc | hc
  · cases hc
  · exact absurd hc (by decide)

theorem readsPort_integerChars (hp : port.natAbs < 10 ^ Text.digitLimit) :
    ReadsPort (Text.integerChars port) port := by
  rw [← Listing.integerOr_eq_iff, Listing.integerOr, Text.parseInteger_integerChars hp]

/-! ## Ends -/

theorem shown_number {n : Int} (hn : n.natAbs < 10 ^ Text.digitLimit) :
    (Query.Content.number n).Shown :=
  (Nat.length_toDigits_le_iff (by decide) (by decide)).2 hn

theorem endText_port (address : Option String) (hp : port.natAbs < 10 ^ Text.digitLimit)
    (v6 : Bool) : ∃ text, endText ⟨address, some port⟩ v6 = .ok text ∧
      text.toList = (hostText address v6).toList ++ ':' :: Text.integerChars port := by
  have hshown : ∀ n, some port = some n → (Query.Content.number n).Shown := by
    rintro n ⟨⟩
    exact shown_number hp
  refine ⟨_, endText_eq_ok_iff.2 ⟨hshown, rfl⟩, ?_⟩
  simp [endChars, portChars, Text.integerText]

theorem parseEnd_endText (ha : a.zone? = none) (hp : port.natAbs < 10 ^ Text.digitLimit) :
    ∃ text, endText ⟨addressText (some a), some port⟩ v6 = .ok text ∧
      parseEnd text.toList = .ok (shownAddress a v6, port) := by
  obtain ⟨text, htext, hchars⟩ := endText_port (addressText (some a)) hp v6
  refine ⟨text, htext, ?_⟩
  rw [hchars, hostText_addressText ha, Listing.parseEnd_eq_ok_iff]
  exact .intro (readsHost_bracketed (zone?_shownAddress ha)) (colon_notMem_integerChars port)
    (readsPort_integerChars hp)

/-- The text of an end with a port is read as an address that is alike in a record and as the port,
whichever family the unspecified address is shown in. Two ends that are shown alike are therefore
one. -/
theorem endText_names (a : Address) (ha : a.zone? = none) (port : Int)
    (hp : port.natAbs < 10 ^ Text.digitLimit) (v6 : Bool) :
    (∃ text, endText ⟨addressText (some a), some port⟩ v6 = .ok text ∧
      ∃ b : Address, b.zone? = none ∧ parseEnd text.toList = .ok (b, port) ∧
        addressText (some b) = addressText (some a)) ∧
    ∀ (b : Address) (n : Int), b.zone? = none → n.natAbs < 10 ^ Text.digitLimit →
      endText ⟨addressText (some b), some n⟩ v6 = endText ⟨addressText (some a), some port⟩ v6 →
        (⟨addressText (some b), some n⟩ : Endpoint) = ⟨addressText (some a), some port⟩ := by
  obtain ⟨text, htext, hread⟩ := @parseEnd_endText a v6 port ha hp
  refine ⟨⟨text, htext, _, zone?_shownAddress ha, hread, addressText_shownAddress a v6⟩, ?_⟩
  intro b n hb hn halike
  obtain ⟨text', htext', hread'⟩ := @parseEnd_endText b v6 n hb hn
  cases (htext'.symm.trans halike).trans htext
  obtain ⟨hshown, rfl⟩ := Prod.mk.inj (Except.ok.inj (hread.symm.trans hread'))
  rw [← addressText_shownAddress b v6, ← hshown, addressText_shownAddress]

def documentationHost : Address := .v6 ⟨[0x2001, 0xDB8, 0, 0, 0, 0, 0, 1], rfl⟩ none

/-- Both unspecified addresses are absent, and are shown as the one of the family asked for. An
address of colons, compressed, stands in brackets, and one of octets in none. -/
theorem endText_names_unspecified :
    (22 : Int).natAbs < 10 ^ Text.digitLimit ∧ (65535 : Int).natAbs < 10 ^ Text.digitLimit ∧
    endText ⟨addressText (some (.unspecified .inet4)), some 22⟩ true = .ok "[::]:22" ∧
    (∃ b : Address, b.zone? = none ∧ parseEnd "[::]:22".toList = .ok (b, 22) ∧
      addressText (some b) = addressText (some (.unspecified .inet4))) ∧
    endText ⟨addressText (some (.unspecified .inet6)), some 22⟩ true = .ok "[::]:22" ∧
    (⟨addressText (some (.unspecified .inet6)), some 22⟩ : Endpoint) =
      ⟨addressText (some (.unspecified .inet4)), some 22⟩ ∧
    endText ⟨addressText (some documentationHost), some 65535⟩ false = .ok "[2001:db8::1]:65535" ∧
    (∃ b : Address, b.zone? = none ∧ parseEnd "[2001:db8::1]:65535".toList = .ok (b, 65535) ∧
      addressText (some b) = some "2001:db8::1") ∧
    endText ⟨addressText (some (.v4 192 0 2 7)), some 22⟩ true = .ok "192.0.2.7:22" ∧
    (∃ b : Address, b.zone? = none ∧ parseEnd "192.0.2.7:22".toList = .ok (b, 22) ∧
      addressText (some b) = some "192.0.2.7") := by
  have hport : (22 : Int).natAbs < 10 ^ Text.digitLimit := by decide +kernel
  have hlast : (65535 : Int).natAbs < 10 ^ Text.digitLimit := by decide +kernel
  have htext4 : endText ⟨addressText (some (.unspecified .inet4)), some 22⟩ true =
      .ok "[::]:22" := ok_of_toOption (by decide +kernel)
  have htext6 : endText ⟨addressText (some (.unspecified .inet6)), some 22⟩ true =
      .ok "[::]:22" := ok_of_toOption (by decide +kernel)
  have hcolons : endText ⟨addressText (some documentationHost), some 65535⟩ false =
      .ok "[2001:db8::1]:65535" := ok_of_toOption (by decide +kernel)
  have hoctets : endText ⟨addressText (some (.v4 192 0 2 7)), some 22⟩ true =
      .ok "192.0.2.7:22" := ok_of_toOption (by decide +kernel)
  obtain ⟨⟨_, htext, hread⟩, halike⟩ := endText_names (.unspecified .inet4) rfl 22 hport true
  cases htext4.symm.trans htext
  obtain ⟨⟨_, htext, b, hb, hread', hname⟩, -⟩ :=
    endText_names documentationHost rfl 65535 hlast false
  cases hcolons.symm.trans htext
  obtain ⟨⟨_, htext, b', hb', hread'', hname'⟩, -⟩ :=
    endText_names (.v4 192 0 2 7) rfl 22 hport true
  cases hoctets.symm.trans htext
  exact ⟨hport, hlast, htext4, hread, htext6,
    halike (.unspecified .inet6) 22 rfl hport (htext6.trans htext4.symm), hcolons,
    ⟨b, hb, hread', hname.trans (by decide +kernel)⟩, hoctets,
    ⟨b', hb', hread'', hname'.trans (by decide +kernel)⟩⟩

end SocketInventory.Render
