import SocketInventory.Proofs.Address.Text

/-!
# The grammar of addresses

The texts that are read as an address without a zone: four canonical numerals with dots between
them, or groups of hexadecimal digits with colons between them. There are eight groups, or fewer
with a double colon for those that lack, and a dotted quad may stand for the last two.
-/

namespace SocketInventory.Address

variable {s t : List Char} {quad : Bool} {gs : List UInt16} {groups : Groups} {a : Address}

/-! ## Dotted quads -/

theorem parseOctet?_eq_some_iff {n : UInt8} :
    parseOctet? s = some n ↔ s = Text.decimalChars n.toNat := by
  constructor
  · intro h
    rw [parseOctet?] at h
    split at h
    · cases h
    · rename_i hform
      simp only [Bool.or_eq_true, List.isEmpty_iff, decide_eq_true_eq, Bool.not_eq_true',
        not_or, Bool.not_eq_false, List.all_eq_true] at hform
      obtain ⟨⟨hne, -⟩, hdigits⟩ := hform
      split at h
      · cases h
      · rename_i hzero
        have hcanonical := Text.decimalChars_ofDigitChars hdigits hne (by simpa using hzero)
        rw [Text.filterMap_digits hdigits, Text.ofDigits_digits] at h
        simp only at h
        split at h
        · rename_i hle
          cases h
          rw [UInt8.toNat_ofNat_of_lt' (Nat.lt_succ_of_le hle), hcanonical]
        · cases h
  · rintro rfl
    exact parseOctet?_decimalChars n

theorem parseV4?_eq_some_iff {a b c d : UInt8} :
    parseV4? s = some (a, b, c, d) ↔ s = (Address.v4 a b c d).chars := by
  constructor
  · intro h
    rw [parseV4?] at h
    split at h
    · rename_i hpieces
      cases h
      obtain ⟨p, ps, hs, hp, hps⟩ := List.map_eq_cons_iff.1 hpieces
      obtain ⟨q, qs, rfl, hq, hqs⟩ := List.map_eq_cons_iff.1 hps
      obtain ⟨r, rs, rfl, hr, hrs⟩ := List.map_eq_cons_iff.1 hqs
      obtain ⟨u, us, rfl, hu, hus⟩ := List.map_eq_cons_iff.1 hrs
      cases List.map_eq_nil_iff.1 hus
      rw [parseOctet?_eq_some_iff] at hp hq hr hu
      subst hp hq hr hu
      rw [← Text.intercalate_splitAt '.' s, hs]
      rfl
    · cases h
  · rintro rfl
    exact parseV4?_chars a b c d

/-! ## Groups -/

/-- One to four hexadecimal digits, in either case. -/
structure GroupText (s : List Char) (g : UInt16) : Prop where
  ne_nil : s ≠ []
  length_le : s.length ≤ 4
  digits : ∀ c ∈ s, (Text.hexValue? c).isSome
  value : Text.ofHexDigits s = g.toNat

/-- Groups with colons between them; a dotted quad may be the last of them where `quad` allows. -/
inductive GroupsText (quad : Bool) : List Char → List UInt16 → Prop
  | group {s : List Char} {g : UInt16} (h : GroupText s g) : GroupsText quad s [g]
  | quad (a b c d : UInt8) (hq : quad = true) :
      GroupsText quad (Address.v4 a b c d).chars (pairGroups [a, b, c, d])
  | cons {s t : List Char} {g : UInt16} {gs : List UInt16} (h : GroupText s g)
      (ht : GroupsText quad t gs) : GroupsText quad (s ++ ':' :: t) (g :: gs)

theorem parseGroup?_eq_some_iff {g : UInt16} : parseGroup? s = some g ↔ GroupText s g := by
  have hform : (s.isEmpty || decide (4 < s.length) ||
      !s.all fun c => (Text.hexValue? c).isSome) = false ↔
        s ≠ [] ∧ s.length ≤ 4 ∧ ∀ c ∈ s, (Text.hexValue? c).isSome := by
    simp only [Bool.or_eq_false_iff, List.isEmpty_eq_false_iff, decide_eq_false_iff_not,
      Bool.not_eq_false', List.all_eq_true, not_lt, and_assoc]
  rw [parseGroup?]
  split
  · rename_i h
    refine iff_of_false (by rintro ⟨⟩) fun hg => ?_
    rw [hform.2 ⟨hg.ne_nil, hg.length_le, hg.digits⟩] at h
    cases h
  · rename_i h
    obtain ⟨hne, hlength, hdigits⟩ := hform.1 (Bool.eq_false_of_not_eq_true h)
    have hlt : Text.ofHexDigits s < 16 ^ 4 :=
      Nat.lt_of_lt_of_le (Text.ofHexDigits_lt s) (Nat.pow_le_pow_right (by decide) hlength)
    constructor
    · rintro ⟨⟩
      exact ⟨hne, hlength, hdigits, (UInt16.toNat_ofNat_of_lt' hlt).symm⟩
    · intro hg
      rw [hg.value, UInt16.ofNat_toNat]

theorem GroupText.notMem {g : UInt16} (h : GroupText s g) {c : Char}
    (hc : Text.hexValue? c = none) : c ∉ s := by
  intro hmem
  have hdigit := h.digits c hmem
  rw [hc] at hdigit
  cases hdigit

theorem colon_notMem_quad (a b c d : UInt8) : ':' ∉ (Address.v4 a b c d).chars := by
  intro h
  rcases Text.mem_intercalate h with hsep | ⟨piece, hp, hc⟩
  · cases hsep
  · obtain ⟨octet, -, rfl⟩ := List.mem_map.1 hp
    exact absurd (Text.isDigit_decimalChars _ hc) (by decide)

theorem dot_mem_quad (a b c d : UInt8) : '.' ∈ (Address.v4 a b c d).chars := by
  simp [chars]

theorem GroupsText.ne_nil (h : GroupsText quad s gs) : s ≠ [] := by
  cases h with
  | group h => exact h.ne_nil
  | quad a b c d _ => exact List.ne_nil_of_mem (dot_mem_quad a b c d)
  | cons h ht => simp

theorem parseParts?_sound {parts : List (List Char)} (hne : parts ≠ [])
    (h : parseParts? quad parts = some gs) : GroupsText quad ([':'].intercalate parts) gs := by
  induction parts generalizing gs with
  | nil => exact absurd rfl hne
  | cons part parts ih =>
      rcases parts with _ | ⟨next, parts⟩
      · rw [List.intercalate_singleton]
        rw [parseParts?] at h
        split at h
        · rename_i hquad
          obtain ⟨⟨a, b, c, d⟩, hv4, rfl⟩ := Option.map_eq_some_iff.1 h
          rw [parseV4?_eq_some_iff.1 hv4]
          exact .quad a b c d (Bool.and_eq_true_iff.1 hquad).1
        · obtain ⟨g, hg, rfl⟩ := Option.map_eq_some_iff.1 h
          exact .group (parseGroup?_eq_some_iff.1 hg)
      · rw [parseParts?] at h
        · obtain ⟨g, hg, h⟩ := Option.bind_eq_some_iff.1 h
          obtain ⟨rest, hrest, h⟩ := Option.bind_eq_some_iff.1 h
          cases h
          rw [Text.intercalate_cons_cons]
          exact .cons (parseGroup?_eq_some_iff.1 hg) (ih (by simp) hrest)
        · simp

theorem GroupsText.parseParts? (h : GroupsText quad s gs) :
    parseParts? quad (Text.splitAt ':' s) = some gs := by
  induction h with
  | @group s g h =>
      have hdot : s.contains '.' = false := by simpa using h.notMem (by decide)
      rw [Text.splitAt_of_notMem (h.notMem (by decide)), Address.parseParts?, hdot,
        Bool.and_false, if_neg (by simp), parseGroup?_eq_some_iff.2 h]
      rfl
  | quad a b c d hq =>
      have hdot : (Address.v4 a b c d).chars.contains '.' = true := by
        simpa using dot_mem_quad a b c d
      rw [Text.splitAt_of_notMem (colon_notMem_quad a b c d), Address.parseParts?, hdot, hq,
        Bool.and_true, if_pos rfl, parseV4?_chars]
      rfl
  | @cons s t g gs h ht ih =>
      rw [Text.splitAt_append (h.notMem (by decide)), Address.parseParts?,
        parseGroup?_eq_some_iff.2 h, ih]
      · rfl
      · exact Text.splitAt_ne_nil ':' t

/-- The groups on one side of a double colon, perhaps none. -/
def SideText (quad : Bool) (s : List Char) (gs : List UInt16) : Prop :=
  s = [] ∧ gs = [] ∨ GroupsText quad s gs

theorem parseGroups?_eq_some_iff : parseGroups? quad s = some gs ↔ SideText quad s gs := by
  rw [parseGroups?]
  split
  · rename_i hempty
    obtain rfl := List.isEmpty_iff.1 hempty
    constructor
    · rintro ⟨⟩
      exact .inl ⟨rfl, rfl⟩
    · rintro (⟨-, rfl⟩ | h)
      · rfl
      · exact absurd rfl h.ne_nil
  · rename_i hne
    rw [List.isEmpty_iff] at hne
    constructor
    · intro h
      have hsound := parseParts?_sound (Text.splitAt_ne_nil ':' s) h
      rw [Text.intercalate_splitAt] at hsound
      exact .inr hsound
    · rintro (⟨rfl, -⟩ | h)
      · exact absurd rfl hne
      · exact h.parseParts?

/-! ## The gap -/

theorem cutGap?_sound {left right : List Char} (h : cutGap? s = some (left, right)) :
    s = left ++ ':' :: ':' :: right := by
  induction s using cutGap?.induct generalizing left with
  | case1 => cases h
  | case2 rest =>
      rw [cutGap?] at h
      cases h
      rfl
  | case3 c rest hgap ih =>
      rw [cutGap?] at h
      · obtain ⟨⟨left', right'⟩, hrest, hpair⟩ := Option.map_eq_some_iff.1 h
        cases hpair
        rw [ih hrest, List.cons_append]
      · exact hgap

theorem GroupsText.head_ne_colon (h : GroupsText quad s gs) (rest : List Char) :
    ∀ t, s ++ rest ≠ ':' :: t := by
  have hfirst : ∀ w : List Char, w ≠ [] → ':' ∉ w → ∀ more t, w ++ more ≠ ':' :: t := by
    intro w hne hcolon more t ht
    obtain ⟨c, w, rfl⟩ := List.exists_cons_of_ne_nil hne
    cases ht
    exact hcolon (by simp)
  intro t
  cases h with
  | group hg => exact hfirst _ hg.ne_nil (hg.notMem (by decide)) _ _
  | quad a b c d hq =>
      exact hfirst _ (GroupsText.quad a b c d hq).ne_nil (colon_notMem_quad a b c d) _ _
  | cons hg ht =>
      rw [List.append_assoc]
      exact hfirst _ hg.ne_nil (hg.notMem (by decide)) _ _

/-- Groups hold no double colon. -/
theorem GroupsText.cutGap? (h : GroupsText quad s gs) (rest : List Char) :
    cutGap? (s ++ rest) = (cutGap? rest).map fun (left, right) => (s ++ left, right) := by
  induction h with
  | group h => exact cutGap?_append (h.notMem (by decide)) rest
  | quad a b c d hq => exact cutGap?_append (colon_notMem_quad a b c d) rest
  | @cons s t g gs h ht ih =>
      rw [List.append_assoc, cutGap?_append (h.notMem (by decide)), List.cons_append,
        Address.cutGap?, ih]
      · simp [Function.comp_def]
      · intro u _
        exact ht.head_ne_colon rest u

/-- The forms of eight groups: in full, or with a double colon for the zeros that lack. -/
inductive V6Text : List Char → Groups → Prop
  | full {s : List Char} {groups : Groups} (h : GroupsText true s groups.list) : V6Text s groups
  | gap {left right : List Char} {high low : List UInt16} {groups : Groups}
      (hleft : SideText false left high) (hright : SideText true right low)
      (hcount : high.length + low.length < 8)
      (hlist : groups.list = high ++ List.replicate (8 - (high.length + low.length)) 0 ++ low) :
      V6Text (left ++ ':' :: ':' :: right) groups

theorem ofList?_eq_some_iff {list : List UInt16} :
    Groups.ofList? list = some groups ↔ groups.list = list := by
  rw [Groups.ofList?]
  split
  · rename_i hlength
    rw [Option.some.injEq]
    constructor
    · rintro rfl
      rfl
    · rintro rfl
      rfl
  · rename_i hlength
    refine iff_of_false nofun ?_
    rintro rfl
    exact hlength groups.length_list

theorem parseV6?_eq_some_iff : parseV6? s = some groups ↔ V6Text s groups := by
  constructor
  · intro h
    rw [parseV6?] at h
    split at h
    · obtain ⟨list, hlist, h⟩ := Option.bind_eq_some_iff.1 h
      rw [ofList?_eq_some_iff] at h
      rcases parseGroups?_eq_some_iff.1 hlist with ⟨-, rfl⟩ | hs
      · have hlength := groups.length_list
        rw [h] at hlength
        cases hlength
      · exact .full (h ▸ hs)
    · rename_i left right hcut
      obtain ⟨high, hhigh, h⟩ := Option.bind_eq_some_iff.1 h
      obtain ⟨low, hlow, h⟩ := Option.bind_eq_some_iff.1 h
      split at h
      · rename_i hcount
        rw [cutGap?_sound hcut]
        exact .gap (parseGroups?_eq_some_iff.1 hhigh) (parseGroups?_eq_some_iff.1 hlow) hcount
          (ofList?_eq_some_iff.1 h)
      · cases h
  · intro h
    cases h with
    | full h =>
        have hcut := h.cutGap? []
        rw [List.append_nil] at hcut
        simp only [parseV6?, hcut, Address.cutGap?, Option.map_none,
          parseGroups?_eq_some_iff.2 (.inr h), Option.bind_eq_bind, Option.bind_some]
        exact ofList?_eq_some_iff.2 rfl
    | @gap left right high low _ hleft hright hcount hlist =>
        have hcut : cutGap? (left ++ ':' :: ':' :: right) = some (left, right) := by
          rcases hleft with ⟨rfl, -⟩ | hleft
          · rfl
          · rw [hleft.cutGap?]
            simp [Address.cutGap?]
        simp only [parseV6?, hcut, parseGroups?_eq_some_iff.2 hleft,
          parseGroups?_eq_some_iff.2 hright, Option.bind_eq_bind, Option.bind_some]
        rw [if_pos hcount]
        exact ofList?_eq_some_iff.2 hlist

/-! ## Addresses -/

/-- The text denotes the address, which has no zone. -/
inductive AddressText : List Char → Address → Prop
  | v4 (a b c d : UInt8) : AddressText (Address.v4 a b c d).chars (.v4 a b c d)
  | v6 {s : List Char} {groups : Groups} (h : V6Text s groups) : AddressText s (.v6 groups none)

theorem V6Text.colon_mem (h : V6Text s groups) : ':' ∈ s := by
  cases h with
  | gap => simp
  | full h =>
      -- One group or one dotted quad is not yet eight groups.
      have hlength := groups.length_list
      generalize hlist : groups.list = list at h hlength
      cases h with
      | group => cases hlength
      | quad => cases hlength
      | cons => simp

/-- Without a percent sign, the texts that are read are those of the grammar. -/
theorem parse?_eq_some_iff (hs : '%' ∉ s) : parse? s = some a ↔ AddressText s a := by
  rw [parse?, Text.cutFirst?_eq_none_iff.2 hs]
  constructor
  · intro h
    split at h
    · rename_i hv4
      cases h
      rw [parseV4?_eq_some_iff.1 hv4]
      exact .v4 _ _ _ _
    · obtain ⟨groups, hv6, rfl⟩ := Option.map_eq_some_iff.1 h
      exact .v6 (parseV6?_eq_some_iff.1 hv6)
  · intro h
    cases h with
    | v4 a b c d => rw [parseV4?_chars]
    | @v6 _ groups hv6 =>
        have hv4 : parseV4? s = none := by
          cases h4 : parseV4? s with
          | none => rfl
          | some octets =>
              have hcolon := hv6.colon_mem
              rw [parseV4?_eq_some_iff.1 h4] at hcolon
              exact absurd hcolon (colon_notMem_quad _ _ _ _)
        simp only [hv4, parseV6?_eq_some_iff.2 hv6, Option.map_some]

theorem addressText_chars (hz : a.zone? = none) : AddressText a.chars a :=
  (parse?_eq_some_iff (notMem_chars hz (by decide) (by decide) (by decide))).1 (parse?_chars hz)

/-! ## Characters -/

def isAddressChar (c : Char) : Bool := (Text.hexValue? c).isSome || c == '.' || c == ':'

theorem isAddressChar_of_isDigit {c : Char} (h : c.isDigit) : isAddressChar c := by
  obtain ⟨d, hd, rfl⟩ := Text.eq_digitChar_of_isDigit h
  rw [isAddressChar, Text.hexValue?_digitChar d (by omega)]
  rfl

theorem isAddressChar_quad (a b c d : UInt8) :
    ∀ x ∈ (Address.v4 a b c d).chars, isAddressChar x := by
  intro x hx
  rcases Text.mem_intercalate hx with rfl | ⟨piece, hp, hx⟩
  · decide
  · obtain ⟨octet, -, rfl⟩ := List.mem_map.1 hp
    exact isAddressChar_of_isDigit (Text.isDigit_decimalChars x hx)

theorem GroupText.allowed {g : UInt16} (h : GroupText s g) : ∀ c ∈ s, isAddressChar c := by
  intro c hc
  simp [isAddressChar, h.digits c hc]

theorem GroupsText.allowed (h : GroupsText quad s gs) : ∀ c ∈ s, isAddressChar c := by
  induction h with
  | group h => exact h.allowed
  | quad a b c d _ => exact isAddressChar_quad a b c d
  | cons h _ ih =>
      exact List.forall_mem_append.2 ⟨h.allowed, List.forall_mem_cons.2 ⟨by decide, ih⟩⟩

theorem SideText.allowed (h : SideText quad s gs) : ∀ c ∈ s, isAddressChar c := by
  rcases h with ⟨rfl, -⟩ | h
  · simp
  · exact h.allowed

theorem AddressText.allowed (h : AddressText s a) : ∀ c ∈ s, isAddressChar c := by
  cases h with
  | v4 a b c d => exact isAddressChar_quad a b c d
  | v6 h =>
      cases h with
      | full h => exact h.allowed
      | gap hleft hright =>
          have hcolon : isAddressChar ':' := by decide
          exact List.forall_mem_append.2 ⟨hleft.allowed, List.forall_mem_cons.2
            ⟨hcolon, List.forall_mem_cons.2 ⟨hcolon, hright.allowed⟩⟩⟩

theorem AddressText.notMem (h : AddressText s a) {c : Char} (hc : isAddressChar c = false) :
    c ∉ s := by
  intro hmem
  rw [h.allowed c hmem] at hc
  cases hc

theorem AddressText.nonblank (h : AddressText s a) : ∀ c ∈ s, Text.isBlank c = false := by
  intro c hmem
  have hc := h.allowed c hmem
  simp only [isAddressChar, Bool.or_eq_true, beq_iff_eq] at hc
  rcases hc with (hc | rfl) | rfl
  · obtain ⟨d, hd⟩ := Option.isSome_iff_exists.1 hc
    exact Text.isBlank_of_hexValue hd
  · decide
  · decide

theorem AddressText.ne_nil (h : AddressText s a) : s ≠ [] := by
  cases h with
  | v4 a b c d => exact List.ne_nil_of_mem (dot_mem_quad a b c d)
  | v6 h => exact List.ne_nil_of_mem h.colon_mem

theorem AddressText.zone? (h : AddressText s a) : a.zone? = none := by
  cases h <;> rfl

end SocketInventory.Address
