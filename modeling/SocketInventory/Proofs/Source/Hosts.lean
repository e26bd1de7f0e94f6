import SocketInventory.Inventory
import SocketInventory.Proofs.Source.Documented

/-!
# Decorated hosts

An address is read back without its zone from its text, whatever stands around it: brackets, another
zone, blanks. Only brackets around a text with a zone are not read. What is read has a text of its
own that is read as the same address, so that in the records two hosts of one family have one text
exactly when they denote one address.
-/

namespace SocketInventory

/-! ## Zones -/

namespace Address

variable {a b : Address}

def unzoned : Address → Address
  | .v4 a b c d => .v4 a b c d
  | .v6 groups _ => .v6 groups none

theorem zone?_unzoned (a : Address) : a.unzoned.zone? = none := by
  cases a <;> rfl

theorem unzoned_eq_self (ha : a.zone? = none) : a.unzoned = a := by
  cases a with
  | v4 a b c d => rfl
  | v6 groups zone =>
      cases ha
      rfl

/-! ## Texts in records -/

theorem chars_inj (ha : a.zone? = none) (hb : b.zone? = none) : a.chars = b.chars ↔ a = b := by
  constructor
  · intro h
    have hread := parse?_chars ha
    rw [h, parse?_chars hb] at hread
    exact (Option.some.inj hread).symm
  · rintro rfl
    rfl

/-- There is one unspecified address of each family. -/
theorem eq_unspecified (ha : a.zone? = none) (h : a.isUnspecified) :
    a = .unspecified a.family := by
  cases a with
  | v4 a b c d =>
      simp only [isUnspecified, Bool.and_eq_true, beq_iff_eq] at h
      obtain ⟨⟨⟨rfl, rfl⟩, rfl⟩, rfl⟩ := h
      rfl
  | v6 groups zone =>
      cases ha
      obtain ⟨list, hlength⟩ := groups
      have hzeros : list = List.replicate 8 0 := by
        rw [List.eq_replicate_iff]
        simpa [isUnspecified, hlength] using h
      subst hzeros
      rfl

end Address

namespace Inventory

theorem addressText_eq_iff {a b : Address} (ha : a.zone? = none) (hb : b.zone? = none)
    (hf : a.family = b.family) : addressText (some a) = addressText (some b) ↔ a = b := by
  constructor
  · intro h
    rw [addressText, addressText] at h
    cases hua : a.isUnspecified with
    | true =>
        cases hub : b.isUnspecified with
        | true => rw [Address.eq_unspecified ha hua, Address.eq_unspecified hb hub, hf]
        | false => simp [hua, hub] at h
    | false =>
        cases hub : b.isUnspecified with
        | true => simp [hua, hub] at h
        | false =>
            simp only [hua, hub, Bool.false_eq_true, ↓reduceIte, Option.some.injEq] at h
            have hchars := congrArg String.toList h
            rw [Address.text, Address.text, String.toList_ofList, String.toList_ofList] at hchars
            exact (Address.chars_inj ha hb).1 hchars
  · rintro rfl
    rfl

end Inventory

namespace Listing

open Inventory (addressText)

variable {s text before after : List Char} {a : Address}

/-! ## Decorations -/

def zoneChars (zone : Option (List Char)) : List Char := zone.elim [] ('%' :: ·)

/-- What tools print around the text of an address: brackets or none, and behind it a zone or
none. -/
structure Decoration where
  brackets : Bool
  zone : Option (List Char)

def Decoration.around (d : Decoration) (t : List Char) : List Char :=
  (if d.brackets then '[' :: t ++ [']'] else t) ++ zoneChars d.zone

/-- The zone of an address stands behind the text that it has without one. -/
theorem chars_eq_unzoned (a : Address) :
    a.chars = a.unzoned.chars ++ zoneChars (a.zone?.map String.toList) := by
  rcases a with ⟨a, b, c, d⟩ | ⟨groups, _ | zone⟩
  · exact (List.append_nil _).symm
  · exact (List.append_nil _).symm
  · simp [Address.chars, Address.unzoned, Address.zone?, zoneChars]

theorem dropped_zoneChars (zone : Option (List Char)) : Dropped (zoneChars zone) := by
  cases zone with
  | none => exact dropped_nil
  | some zone => exact dropped_zone zone

theorem Dropped.append_blanks (h : Dropped text) (ha : ∀ c ∈ after, Text.isBlank c) :
    Dropped (text ++ after) := by
  rcases h with hblank | ⟨zone, rfl⟩
  · exact .inl (List.forall_mem_append.2 ⟨hblank, ha⟩)
  · exact dropped_zone (zone ++ after)

/-- Blanks around a host do not matter. -/
theorem ReadsHost.between_blanks (h : ReadsHost s a) (hb : ∀ c ∈ before, Text.isBlank c)
    (ha : ∀ c ∈ after, Text.isBlank c) : ReadsHost (before ++ s ++ after) a := by
  cases h with
  | bare hfront hname hdropped =>
      have hread := ReadsHost.bare (List.forall_mem_append.2 ⟨hb, hfront⟩) hname
        (hdropped.append_blanks ha)
      simpa using hread
  | bracketed hfront hname hdropped =>
      have hread := ReadsHost.bracketed (List.forall_mem_append.2 ⟨hb, hfront⟩) hname
        (hdropped.append_blanks ha)
      simpa using hread

theorem nameText_unzoned (a : Address) : NameText a.unzoned.chars a.unzoned :=
  .address (Address.addressText_chars a.zone?_unzoned)

theorem readsHost_bare (a : Address) (zone : Option (List Char)) :
    ReadsHost (a.chars ++ zoneChars zone) a.unzoned := by
  rw [chars_eq_unzoned, List.append_assoc]
  refine (nameText_unzoned a).readsHost ?_
  cases a.zone? with
  | none => exact dropped_zoneChars zone
  | some own => exact dropped_zone (own.toList ++ zoneChars zone)

theorem readsHost_brackets (ha : a.zone? = none) (zone : Option (List Char)) :
    ReadsHost ('[' :: a.chars ++ [']'] ++ zoneChars zone) a.unzoned := by
  have hname := nameText_unzoned a
  rw [Address.unzoned_eq_self ha] at hname ⊢
  exact hname.readsHost_brackets (dropped_zoneChars zone)

theorem parseHost_around (a : Address) (d : Decoration) (hb : ∀ c ∈ before, Text.isBlank c)
    (ha : ∀ c ∈ after, Text.isBlank c) : parseHost (before ++ d.around a.chars ++ after) =
      if d.brackets && a.zone?.isSome then
        .error (.badAddress (String.ofList ('[' :: a.unzoned.chars)))
      else .ok a.unzoned := by
  obtain ⟨_ | _, zone⟩ := d
  · exact parseHost_eq_ok_iff.2 ((readsHost_bare a zone).between_blanks hb ha)
  · cases hz : a.zone? with
    | none => exact parseHost_eq_ok_iff.2 ((readsHost_brackets hz zone).between_blanks hb ha)
    | some own =>
        -- The first percent sign is that of the zone within, so the closing bracket is cut off.
        have htext : before ++ (Decoration.mk true zone).around a.chars ++ after =
            before ++ ('[' :: a.unzoned.chars ++ '%' :: (own.toList ++ ']' ::
              (zoneChars zone ++ after))) := by
          simp [Decoration.around, chars_eq_unzoned a, hz, zoneChars]
        rw [htext]
        exact (nameText_unzoned a).parseHost_within hb _

/-- An address is read back without its zone from its text under every decoration, but for brackets
around a zone of its own, which are refused. What is read from any text is read again from its own,
and two hosts of one family have one text in the records exactly when they denote one address. -/
theorem parseHost_decorated (a b : Address) (s t : List Char) :
    (∀ (d : Decoration) (before after : List Char),
      (∀ c ∈ before, Text.isBlank c) → (∀ c ∈ after, Text.isBlank c) →
        parseHost (before ++ d.around a.chars ++ after) =
          if d.brackets && a.zone?.isSome then
            .error (.badAddress (String.ofList ('[' :: a.unzoned.chars)))
          else .ok a.unzoned) ∧
    (parseHost s = .ok a → parseHost a.chars = .ok a) ∧
    (parseHost s = .ok a → parseHost t = .ok b → a.family = b.family →
      (addressText (some a) = addressText (some b) ↔ ∃ c, ReadsHost s c ∧ ReadsHost t c)) := by
  refine ⟨fun d before after hb ha => parseHost_around a d hb ha, fun h => ?_, fun hs ht hf => ?_⟩
  · have hread := readsHost_bare a none
    rw [Address.unzoned_eq_self (zone?_of_parseHost h), zoneChars, Option.elim_none,
      List.append_nil] at hread
    exact parseHost_eq_ok_iff.2 hread
  · rw [Inventory.addressText_eq_iff (zone?_of_parseHost hs) (zone?_of_parseHost ht) hf]
    rw [parseHost_eq_ok_iff] at hs ht
    constructor
    · rintro rfl
      exact ⟨a, hs, ht⟩
    · rintro ⟨c, hc, hc'⟩
      exact (hs.unique hc).trans (hc'.unique ht)

/-- An address with two runs of zeros of one length. -/
def twoRuns : Address := .v6 ⟨[0x2001, 0xDB8, 0, 0, 1, 0, 0, 1], rfl⟩ none

/-- In its text the first run is left out. Two other spellings write it out, or the second one. -/
theorem parseHost_decorated_twoRuns :
    ((∀ c ∈ [' ', '\u3000'], Text.isBlank c) ∧ (∀ c ∈ ['\n'], Text.isBlank c) ∧
      (Decoration.mk true (some "eth0".toList)).around twoRuns.chars =
        "[2001:db8::1:0:0:1]%eth0".toList ∧
      parseHost ([' ', '\u3000'] ++ "[2001:db8::1:0:0:1]%eth0".toList ++ ['\n']) = .ok twoRuns) ∧
    (parseHost "2001:DB8:0:0:1::01%lo".toList = .ok twoRuns ∧
      parseHost twoRuns.chars = .ok twoRuns) ∧
    parseHost "[2001:db8:0:0:1:0:0.0.0.1]".toList = .ok twoRuns ∧
      twoRuns.family = twoRuns.family ∧ (addressText (some twoRuns) = addressText (some twoRuns) ↔
        ∃ c, ReadsHost "2001:DB8:0:0:1::01%lo".toList c ∧
          ReadsHost "[2001:db8:0:0:1:0:0.0.0.1]".toList c) := by
  have htext : (Decoration.mk true (some "eth0".toList)).around twoRuns.chars =
      "[2001:db8::1:0:0:1]%eth0".toList := by decide +kernel
  have hbefore : ∀ c ∈ [' ', '\u3000'], Text.isBlank c := by decide
  have hafter : ∀ c ∈ ['\n'], Text.isBlank c := by decide
  have hfirst : parseHost "2001:DB8:0:0:1::01%lo".toList = .ok twoRuns :=
    ok_of_toOption (by decide +kernel)
  have hsecond : parseHost "[2001:db8:0:0:1:0:0.0.0.1]".toList = .ok twoRuns :=
    ok_of_toOption (by decide +kernel)
  obtain ⟨hread, hagain, hsame⟩ := parseHost_decorated twoRuns twoRuns
    "2001:DB8:0:0:1::01%lo".toList "[2001:db8:0:0:1:0:0.0.0.1]".toList
  have hdecorated := hread ⟨true, some "eth0".toList⟩ _ _ hbefore hafter
  rw [htext] at hdecorated
  exact ⟨⟨hbefore, hafter, htext, hdecorated⟩, ⟨hfirst, hagain hfirst⟩, hsecond, rfl,
    hsame hfirst hsecond rfl⟩

/-- A link-local address, with a zone of its own. -/
def zonedLink : Address := .v6 linkLocal (some "eth0")

/-- An address that is refused from its text in brackets. -/
theorem parseHost_zoneInBrackets :
    (Decoration.mk true none).around zonedLink.chars = "[fe80::1%eth0]".toList ∧
      parseHost "[fe80::1%eth0]".toList = .error (.badAddress "[fe80::1") ∧
      parseHost "[fe80::1%eth0]".toList ≠ .ok zonedLink.unzoned := by
  have htext : (Decoration.mk true none).around zonedLink.chars = "[fe80::1%eth0]".toList := by
    decide +kernel
  have hhost : '[' :: zonedLink.unzoned.chars = "[fe80::1".toList := by decide +kernel
  have hrefused : parseHost "[fe80::1%eth0]".toList = .error (.badAddress "[fe80::1") := by
    have haround := parseHost_around zonedLink ⟨true, none⟩ (List.forall_mem_nil _)
      (List.forall_mem_nil _)
    rw [List.nil_append, List.append_nil, htext, hhost, String.ofList_toList] at haround
    exact haround
  refine ⟨htext, hrefused, ?_⟩
  rw [hrefused]
  rintro ⟨⟩

end Listing

end SocketInventory
