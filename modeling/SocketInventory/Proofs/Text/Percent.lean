import Mathlib
import SocketInventory.Text.Percent

/-!
# Texts as octets

Every text is read back from its octets, and from a query string in which each of its octets is
escaped.
-/

namespace SocketInventory.Text

/-! ## Octets of a character -/

theorem toList_toByteArray (octets : List UInt8) : octets.toByteArray.toList = octets := by
  have hloop : ∀ (b : ByteArray) (i : Nat) (r : List UInt8),
      ByteArray.toList.loop b i r = r.reverse ++ b.data.toList.drop i := by
    intro b i r
    fun_induction ByteArray.toList.loop b i r with
    | case1 i r hi ih =>
        have hget : b.get! i = b.data.toList[i] := getElem!_pos b.data i hi
        rw [ih, hget, List.reverse_cons, List.append_assoc, List.singleton_append,
          ← List.drop_eq_getElem_cons]
    | case2 i r hi => rw [List.drop_eq_nil_of_le (by simpa using hi), List.append_nil]
  rw [ByteArray.toList, hloop, List.drop_zero, List.toList_data_toByteArray]
  rfl

theorem encodeUtf8_ofList (s : List Char) :
    encodeUtf8 (String.ofList s) = s.flatMap String.utf8EncodeChar := by
  rw [encodeUtf8, String.toUTF8, String.toByteArray_ofList, List.utf8Encode, toList_toByteArray]

theorem secondAllowed_of_tail {first second : UInt8} (ht : isTail second)
    (h0 : first.toNat = 0xE0 → 0xA0 ≤ second.toNat) (h1 : first.toNat = 0xED → second.toNat ≤ 0x9F)
    (h2 : first.toNat = 0xF0 → 0x90 ≤ second.toNat)
    (h3 : first.toNat = 0xF4 → second.toNat ≤ 0x8F) : secondAllowed first second := by
  rw [secondAllowed, ht, Bool.true_and]
  split
  · rename_i h
    simpa using h0 (congrArg UInt8.toNat h)
  split
  · rename_i h
    simpa using h1 (congrArg UInt8.toNat h)
  split
  · rename_i h
    simpa using h2 (congrArg UInt8.toNat h)
  split
  · rename_i h
    simpa using h3 (congrArg UInt8.toNat h)
  · rfl

theorem isTail_ofNat (n : Nat) : isTail (UInt8.ofNat (n % 64 + 128)) := by
  simp only [isTail, UInt8.toNat_ofNat', Bool.and_eq_true, decide_eq_true_eq]
  omega

theorem tailBits_ofNat (n : Nat) : tailBits (UInt8.ofNat (n % 64 + 128)) = n % 64 := by
  rw [tailBits, UInt8.toNat_ofNat']
  omega

section Decoding

variable {a b c d : UInt8} (rest : List UInt8)

theorem decodeHead_one (ha : a.toNat < 0x80) :
    decodeHead a rest = .char (Char.ofNat a.toNat) rest := by
  rw [decodeHead.eq_def]
  exact if_pos ha

theorem decodeHead_two (ha : 0xC2 ≤ a.toNat ∧ a.toNat < 0xE0) (hb : secondAllowed a b) :
    decodeHead a (b :: rest) = .char (Char.ofNat (a.toNat % 32 * 64 + tailBits b)) rest := by
  simp only [decodeHead]
  rw [if_neg (by omega), if_neg (by simp; omega), if_neg (by simp [hb]), if_pos (by omega)]

theorem decodeHead_three (ha : 0xE0 ≤ a.toNat ∧ a.toNat < 0xF0) (hb : secondAllowed a b)
    (hc : isTail c) : decodeHead a (b :: c :: rest) =
      .char (Char.ofNat (a.toNat % 16 * 4096 + tailBits b * 64 + tailBits c)) rest := by
  simp only [decodeHead]
  rw [if_neg (by omega), if_neg (by simp; omega), if_neg (by simp [hb]), if_neg (by omega),
    if_neg (by simp [hc]), if_pos (by omega)]

theorem decodeHead_four (ha : 0xF0 ≤ a.toNat ∧ a.toNat ≤ 0xF4) (hb : secondAllowed a b)
    (hc : isTail c) (hd : isTail d) : decodeHead a (b :: c :: d :: rest) =
      .char (Char.ofNat (a.toNat % 8 * 262144 + tailBits b * 4096 + tailBits c * 64 + tailBits d))
        rest := by
  simp only [decodeHead]
  rw [if_neg (by omega), if_neg (by simp; omega), if_neg (by simp [hb]), if_neg (by omega),
    if_neg (by simp [hc]), if_neg (by omega), if_neg (by simp [hd])]

end Decoding

/-- The octets of a character are decoded as the character. -/
theorem exists_utf8EncodeChar (c : Char) : ∃ first tail, String.utf8EncodeChar c = first :: tail ∧
    ∀ rest, decodeHead first (tail ++ rest) = .char c rest := by
  have hrange : c.val.toNat < 0xD800 ∨ 0xDFFF < c.val.toNat ∧ c.val.toNat < 0x110000 := c.valid
  have hchar : ∀ n, n = c.val.toNat → Char.ofNat n = c := by
    rintro n rfl
    exact Char.ofNat_toNat c
  rw [String.utf8EncodeChar]
  generalize c.val.toNat = v at hrange hchar ⊢
  -- One case for each number of octets; what an octet holds is its value modulo 256.
  have hoctet : ∀ n, (UInt8.ofNat n).toNat = n % 256 := fun n => UInt8.toNat_ofNat'
  split
  · refine ⟨_, _, rfl, fun rest => ?_⟩
    have hfirst := hoctet v
    rw [List.nil_append, decodeHead_one rest (by omega), hchar _ (by omega)]
  split
  · refine ⟨_, _, rfl, fun rest => ?_⟩
    have hfirst := hoctet (v / 64 % 32 + 192)
    have hsecond := hoctet (v % 64 + 128)
    have hallowed : secondAllowed (UInt8.ofNat (v / 64 % 32 + 192)) (UInt8.ofNat (v % 64 + 128)) :=
      secondAllowed_of_tail (isTail_ofNat v) (by omega) (by omega) (by omega) (by omega)
    rw [List.singleton_append, decodeHead_two rest (by omega) hallowed, tailBits_ofNat,
      hchar _ (by omega)]
  split
  · refine ⟨_, _, rfl, fun rest => ?_⟩
    have hfirst := hoctet (v / 4096 % 16 + 224)
    have hsecond := hoctet (v / 64 % 64 + 128)
    have hallowed : secondAllowed (UInt8.ofNat (v / 4096 % 16 + 224))
        (UInt8.ofNat (v / 64 % 64 + 128)) :=
      secondAllowed_of_tail (isTail_ofNat _) (by omega) (by omega) (by omega) (by omega)
    rw [List.cons_append, List.singleton_append,
      decodeHead_three rest (by omega) hallowed (isTail_ofNat v), tailBits_ofNat, tailBits_ofNat,
      hchar _ (by omega)]
  · refine ⟨_, _, rfl, fun rest => ?_⟩
    have hfirst := hoctet (v / 262144 % 8 + 240)
    have hsecond := hoctet (v / 4096 % 64 + 128)
    have hallowed : secondAllowed (UInt8.ofNat (v / 262144 % 8 + 240))
        (UInt8.ofNat (v / 4096 % 64 + 128)) :=
      secondAllowed_of_tail (isTail_ofNat _) (by omega) (by omega) (by omega) (by omega)
    rw [List.cons_append, List.cons_append, List.singleton_append,
      decodeHead_four rest (by omega) hallowed (isTail_ofNat (v / 64)) (isTail_ofNat v),
      tailBits_ofNat, tailBits_ofNat, tailBits_ofNat, hchar _ (by omega)]

/-- A text is decoded from its octets, and nothing in it is replaced. -/
theorem decodeReplacing_encodeUtf8 (substitute : List UInt8 → List Char) (s : List Char) :
    decodeReplacing substitute (encodeUtf8 (String.ofList s)) = s := by
  rw [encodeUtf8_ofList]
  induction s with
  | nil => rw [List.flatMap_nil, decodeReplacing]
  | cons c s ih =>
      obtain ⟨first, tail, henc, hdecode⟩ := exists_utf8EncodeChar c
      rw [List.flatMap_cons, henc, List.cons_append, decodeReplacing]
      split
      · rename_i c' rest h
        cases (hdecode _).symm.trans h
        rw [ih]
      · rename_i h
        cases (hdecode _).symm.trans h

/-! ## Escapes -/

theorem percentOctets_of_notMem {s : List Char} (hs : '%' ∉ s) :
    percentOctets s = encodeUtf8 (String.ofList s) := by
  rw [encodeUtf8_ofList]
  induction s with
  | nil => rw [percentOctets, List.flatMap_nil]
  | cons c s ih =>
      obtain ⟨hc, hs⟩ := List.ne_and_not_mem_of_not_mem_cons hs
      rw [percentOctets, ih hs, List.flatMap_cons, String.singleton_eq_ofList, encodeUtf8_ofList,
        List.flatMap_singleton]
      rintro a b rest h -
      exact hc h.symm

/-- A text without escapes stands for itself. -/
theorem percentDecode_of_notMem {s : List Char} (hs : '%' ∉ s) : percentDecode s = s := by
  rw [percentDecode, percentOctets_of_notMem hs, decodeReplacing_encodeUtf8]

/-- A character that an escape is made of. -/
def isEscapeChar (c : Char) : Bool := c == '%' || c.isDigit || ('A' ≤ c && c ≤ 'F')

/-- The digit of an escape. -/
def escapeDigit (n : Nat) : Char := n.digitChar.toUpper

theorem escapeDigit_spec : ∀ n < 16, hexValue? (escapeDigit n) = some n ∧
    isEscapeChar (escapeDigit n) := by
  decide

theorem escape_octet : ∀ n < 256, (paddedHexChars 2 n).map Char.toUpper =
    [escapeDigit (n / 16), escapeDigit (n % 16)] := by
  decide +kernel

theorem percentEscape_cons (b : UInt8) (octets : List UInt8) : percentEscape (b :: octets) =
    '%' :: escapeDigit (b.toNat / 16) :: escapeDigit (b.toNat % 16) :: percentEscape octets := by
  rw [percentEscape, List.flatMap_cons, escape_octet _ b.toNat_lt]
  rfl

theorem mem_percentEscape {octets : List UInt8} {c : Char} (hc : c ∈ percentEscape octets) :
    isEscapeChar c := by
  induction octets with
  | nil => cases hc
  | cons b octets ih =>
      have hb := b.toNat_lt
      rw [percentEscape_cons] at hc
      rcases List.mem_cons.1 hc with rfl | hc
      · rfl
      rcases List.mem_cons.1 hc with rfl | hc
      · exact (escapeDigit_spec _ (by omega)).2
      rcases List.mem_cons.1 hc with rfl | hc
      · exact (escapeDigit_spec _ (by omega)).2
      · exact ih hc

theorem notMem_percentEscape {octets : List UInt8} {c : Char} (hc : isEscapeChar c = false) :
    c ∉ percentEscape octets := by
  intro hmem
  rw [mem_percentEscape hmem] at hc
  cases hc

theorem percentOctets_percentEscape (octets : List UInt8) :
    percentOctets (percentEscape octets) = octets := by
  induction octets with
  | nil => rw [percentEscape, List.flatMap_nil, percentOctets]
  | cons b octets ih =>
      have hb := b.toNat_lt
      rw [percentEscape_cons, percentOctets, (escapeDigit_spec _ (by omega)).1,
        (escapeDigit_spec _ (by omega)).1]
      simp only [ih]
      rw [Nat.div_add_mod, UInt8.ofNat_toNat]

/-- A text as a part of a query string, each of its octets escaped. -/
def queryEncode (s : String) : List Char := percentEscape (encodeUtf8 s)

theorem queryDecode_queryEncode (s : String) : queryDecode (queryEncode s) = s.toList := by
  have hplus : (queryEncode s).map (fun c => if c = '+' then ' ' else c) = queryEncode s := by
    rw [List.map_congr_left, List.map_id]
    intro c hc
    exact if_neg fun h => notMem_percentEscape (by decide) (h ▸ hc)
  rw [queryDecode, hplus, queryEncode, percentOctets_percentEscape]
  conv_lhs => rw [← @String.ofList_toList s]
  exact decodeReplacing_encodeUtf8 _ _

end SocketInventory.Text
