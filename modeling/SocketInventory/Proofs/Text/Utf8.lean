import SocketInventory.Proofs.Outcome
import SocketInventory.Proofs.Text.Percent

/-!
# Octets as texts

The octets that are decoded are those of a text, and it is this text that they are decoded as.
-/

namespace SocketInventory.Text

/-! ## One character -/

theorem val_ofNat {n : Nat} (h : n < 0xD800 ∨ 0xDFFF < n ∧ n < 0x110000) :
    (Char.ofNat n).val.toNat = n := by
  have hvalid : n.isValidChar := h
  exact (Char.toNat_ofNat n).trans (if_pos hvalid)

theorem ofNat_eq {a : UInt8} {n : Nat} (h : n % 256 = a.toNat) : UInt8.ofNat n = a := by
  apply UInt8.toNat_inj.1
  rw [UInt8.toNat_ofNat']
  exact h

theorem isTail_iff {b : UInt8} : isTail b ↔ 0x80 ≤ b.toNat ∧ b.toNat ≤ 0xBF := by
  simp [isTail]

theorem bounds_of_secondAllowed {a b : UInt8} (h : secondAllowed a b) :
    (0x80 ≤ b.toNat ∧ b.toNat ≤ 0xBF) ∧ (a.toNat = 0xE0 → 0xA0 ≤ b.toNat) ∧
      (a.toNat = 0xED → b.toNat ≤ 0x9F) ∧ (a.toNat = 0xF0 → 0x90 ≤ b.toNat) ∧
      (a.toNat = 0xF4 → b.toNat ≤ 0x8F) := by
  rw [secondAllowed, Bool.and_eq_true, isTail_iff] at h
  obtain ⟨ht, hs⟩ := h
  have hfirst : ∀ k : UInt8, a.toNat = k.toNat → a = k := fun k => UInt8.toNat_inj.1
  refine ⟨ht, fun ha => ?_, fun ha => ?_, fun ha => ?_, fun ha => ?_⟩
  · obtain rfl := hfirst 0xE0 ha
    simpa using hs
  · obtain rfl := hfirst 0xED ha
    simpa using hs
  · obtain rfl := hfirst 0xF0 ha
    simpa using hs
  · obtain rfl := hfirst 0xF4 ha
    simpa using hs

theorem tailBits_add {b : UInt8} (h : 0x80 ≤ b.toNat ∧ b.toNat ≤ 0xBF) :
    tailBits b + 0x80 = b.toNat := by
  rw [tailBits]
  omega

/-- The octets of one character, with its code: one octet, or a first octet that tells how many
follow it. -/
inductive Utf8Sequence : List UInt8 → Nat → Prop
  | one {a : UInt8} (ha : a.toNat < 0x80) : Utf8Sequence [a] a.toNat
  | two {a b : UInt8} (ha : 0xC2 ≤ a.toNat ∧ a.toNat < 0xE0) (hb : secondAllowed a b) :
      Utf8Sequence [a, b] (a.toNat % 32 * 64 + tailBits b)
  | three {a b c : UInt8} (ha : 0xE0 ≤ a.toNat ∧ a.toNat < 0xF0) (hb : secondAllowed a b)
      (hc : isTail c) :
      Utf8Sequence [a, b, c] (a.toNat % 16 * 4096 + tailBits b * 64 + tailBits c)
  | four {a b c d : UInt8} (ha : 0xF0 ≤ a.toNat ∧ a.toNat ≤ 0xF4) (hb : secondAllowed a b)
      (hc : isTail c) (hd : isTail d) :
      Utf8Sequence [a, b, c, d]
        (a.toNat % 8 * 262144 + tailBits b * 4096 + tailBits c * 64 + tailBits d)

theorem Utf8Sequence.utf8EncodeChar {octets : List UInt8} {n : Nat} (h : Utf8Sequence octets n) :
    String.utf8EncodeChar (Char.ofNat n) = octets := by
  cases h with
  | @one a ha =>
      rw [String.utf8EncodeChar, val_ofNat (by omega), if_pos (by omega),
        ofNat_eq (a := a) (by omega)]
  | @two a b ha hb =>
      obtain ⟨hb, -⟩ := bounds_of_secondAllowed hb
      have hb' := tailBits_add hb
      rw [String.utf8EncodeChar, val_ofNat (by omega), if_neg (by omega), if_pos (by omega),
        ofNat_eq (a := a) (by omega), ofNat_eq (a := b) (by omega)]
  | @three a b c ha hb hc =>
      -- The bounds of the second octet keep the code out of the surrogates and of shorter forms.
      obtain ⟨hb, hE0, hED, -⟩ := bounds_of_secondAllowed hb
      have hb' := tailBits_add hb
      have hc' := tailBits_add (isTail_iff.1 hc)
      rw [isTail_iff] at hc
      rw [String.utf8EncodeChar, val_ofNat (by omega), if_neg (by omega), if_neg (by omega),
        if_pos (by omega), ofNat_eq (a := a) (by omega), ofNat_eq (a := b) (by omega),
        ofNat_eq (a := c) (by omega)]
  | @four a b c d ha hb hc hd =>
      obtain ⟨hb, -, -, hF0, hF4⟩ := bounds_of_secondAllowed hb
      have hb' := tailBits_add hb
      have hc' := tailBits_add (isTail_iff.1 hc)
      have hd' := tailBits_add (isTail_iff.1 hd)
      rw [isTail_iff] at hc hd
      rw [String.utf8EncodeChar, val_ofNat (by omega), if_neg (by omega), if_neg (by omega),
        if_neg (by omega), ofNat_eq (a := a) (by omega), ofNat_eq (a := b) (by omega),
        ofNat_eq (a := c) (by omega), ofNat_eq (a := d) (by omega)]

theorem sequence_of_decodeHead {a : UInt8} {rest rest' : List UInt8} {c : Char}
    (h : decodeHead a rest = .char c rest') :
    ∃ octets n, Utf8Sequence octets n ∧ c = Char.ofNat n ∧ a :: rest = octets ++ rest' := by
  -- Along the tests of the decoder: what passes the tests up to an octet may end there.
  unfold decodeHead at h
  dsimp only at h
  split at h
  · rename_i hone
    cases h
    exact ⟨_, _, .one hone, rfl, rfl⟩
  rename_i hone
  split at h
  · cases h
  rename_i hstart
  simp only [Bool.or_eq_true, decide_eq_true_eq, not_or, not_lt] at hstart
  split at h
  · cases h
  split at h
  · cases h
  rename_i hsecond
  rw [Bool.not_eq_true', Bool.not_eq_false] at hsecond
  split at h
  · rename_i htwo
    cases h
    exact ⟨_, _, .two ⟨hstart.1, htwo⟩ hsecond, rfl, rfl⟩
  rename_i htwo
  split at h
  · cases h
  split at h
  · cases h
  rename_i hthird
  rw [Bool.not_eq_true', Bool.not_eq_false] at hthird
  split at h
  · rename_i hthree
    cases h
    exact ⟨_, _, .three ⟨not_lt.1 htwo, hthree⟩ hsecond hthird, rfl, rfl⟩
  rename_i hthree
  split at h
  · cases h
  split at h
  · cases h
  rename_i hfourth
  rw [Bool.not_eq_true', Bool.not_eq_false] at hfourth
  cases h
  exact ⟨_, _, .four ⟨not_lt.1 hthree, hstart.2⟩ hsecond hthird hfourth, rfl, rfl⟩

/-- What is decoded as a character are the octets of the character. -/
theorem eq_of_decodeHead {a : UInt8} {rest rest' : List UInt8} {c : Char}
    (h : decodeHead a rest = .char c rest') : a :: rest = String.utf8EncodeChar c ++ rest' := by
  obtain ⟨octets, n, hs, rfl, hcut⟩ := sequence_of_decodeHead h
  rw [hs.utf8EncodeChar]
  exact hcut

/-! ## Texts -/

theorem decodeFrom_eq_ok_iff {offset : Nat} {octets : List UInt8} {s : List Char} :
    decodeFrom offset octets = .ok s ↔ octets = s.flatMap String.utf8EncodeChar := by
  constructor
  · intro h
    induction offset, octets using decodeFrom.induct generalizing s with
    | case1 offset =>
        rw [decodeFrom] at h
        cases h
        rfl
    | case2 offset first rest c rest' hhead hlength ih =>
        rw [decodeFrom] at h
        split at h
        · rename_i hhead'
          cases hhead.symm.trans hhead'
          obtain ⟨more, hmore, rfl⟩ := exists_of_map_ok h
          rw [List.flatMap_cons, ← ih hmore, eq_of_decodeHead hhead]
        · cases h
    | case3 offset first rest f further hhead =>
        rw [decodeFrom] at h
        split at h
        · rename_i hhead'
          cases hhead.symm.trans hhead'
        · cases h
  · rintro rfl
    induction s generalizing offset with
    | nil => rw [List.flatMap_nil, decodeFrom]
    | cons c s ih =>
        obtain ⟨first, tail, henc, hdecode⟩ := exists_utf8EncodeChar c
        rw [List.flatMap_cons, henc, List.cons_append, decodeFrom]
        split
        · rename_i h
          cases (hdecode _).symm.trans h
          rw [ih]
          rfl
        · rename_i h
          cases (hdecode _).symm.trans h

theorem decodeUtf8_eq_ok_iff {octets : List UInt8} {s : List Char} :
    decodeUtf8 octets = .ok s ↔ octets = encodeUtf8 (String.ofList s) := by
  rw [encodeUtf8_ofList]
  exact decodeFrom_eq_ok_iff

end SocketInventory.Text
