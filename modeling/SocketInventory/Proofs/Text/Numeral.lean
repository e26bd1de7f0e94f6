import Mathlib
import SocketInventory.Text.Numeral

/-!
# Numerals of ASCII digits

A run of ASCII digits within the limit is read as the number that it denotes, leading zeros
included, and the canonical numeral of a number is such a run. The hexadecimal numeral of a number
is read back as well.
-/

namespace SocketInventory.Text

/-! ## Digits -/

theorem digitValue?_isDigit {c : Char} (h : c.isDigit) :
    digitValue? c = some (c.toNat - '0'.toNat) := by
  obtain ⟨hlo, hhi⟩ := Char.isDigit_iff_toNat.1 h
  simp only [Char.reduceToNat] at hlo hhi
  replace hhi : c.toNat < 0x30 + 10 := by omega
  simp [digitValue?, digitZeros, hlo, hhi]

theorem isDecimalDigit_isDigit {c : Char} (h : c.isDigit) : isDecimalDigit c := by
  simp [isDecimalDigit, digitValue?_isDigit h]

theorem not_isUnderscore_of_decimal {c : Char} (h : isDecimalDigit c) : isUnderscore c = false := by
  unfold isUnderscore
  rw [beq_eq_false_iff_ne]
  rintro rfl
  exact absurd h (by decide)

theorem underscoresBetween_digits {w : List Char} (hw : ∀ c ∈ w, isDecimalDigit c) :
    underscoresBetween true w = true := by
  induction w with
  | nil => rfl
  | cons c w ih =>
      simp only [underscoresBetween, not_isUnderscore_of_decimal (hw c (by simp))]
      exact ih fun d hd => hw d (by simp [hd])

theorem length_filterMap_digits {w : List Char} (hw : ∀ c ∈ w, isDecimalDigit c) :
    (w.filterMap digitValue?).length = w.length := by
  induction w with
  | nil => rfl
  | cons c w ih =>
      obtain ⟨n, hn⟩ := Option.isSome_iff_exists.1 (hw c (by simp))
      rw [List.filterMap_cons_some hn, List.length_cons, ih fun d hd => hw d (by simp [hd]),
        List.length_cons]

theorem filterMap_digits {w : List Char} (hw : ∀ c ∈ w, c.isDigit) :
    w.filterMap digitValue? = w.map fun c => c.toNat - '0'.toNat := by
  induction w with
  | nil => rfl
  | cons c w ih =>
      rw [List.filterMap_cons_some (digitValue?_isDigit (hw c (by simp))), List.map_cons,
        ih fun d hd => hw d (by simp [hd])]

theorem ofDigits_digits (w : List Char) :
    ofDigits (w.map fun c => c.toNat - '0'.toNat) = Nat.ofDigitChars 10 w 0 := by
  simp [ofDigits, Nat.ofDigitChars, List.foldl_map]

/-! ## Reading -/

/-- A run of digits of any scripts is read unless there are too many of them. -/
theorem parseMagnitude_decimal {w : List Char} (hw : ∀ c ∈ w, isDecimalDigit c) (hne : w ≠ []) :
    parseMagnitude w =
      if digitLimit < w.length then .error (.tooLong w.length)
      else .ok (ofDigits (w.filterMap digitValue?)) := by
  have hrun : (w.takeWhile fun c => isDecimalDigit c || isUnderscore c) = w := by
    rw [List.takeWhile_eq_self_iff]
    intro c hc
    simp [hw c hc]
  have hbetween : underscoresBetween false w = true := by
    obtain ⟨c, w, rfl⟩ := List.exists_cons_of_ne_nil hne
    simp only [underscoresBetween, not_isUnderscore_of_decimal (hw c (by simp))]
    exact underscoresBetween_digits fun d hd => hw d (by simp [hd])
  simp only [parseMagnitude, hrun, hbetween, length_filterMap_digits hw, List.drop_length,
    List.all_nil]
  rfl

theorem parseMagnitude_digits_eq {w : List Char} (hw : ∀ c ∈ w, c.isDigit) (hne : w ≠ []) :
    parseMagnitude w =
      if digitLimit < w.length then .error (.tooLong w.length)
      else .ok (Nat.ofDigitChars 10 w 0) := by
  rw [parseMagnitude_decimal (fun c hc => isDecimalDigit_isDigit (hw c hc)) hne,
    filterMap_digits hw, ofDigits_digits]

theorem parseMagnitude_digits {w : List Char} (hw : ∀ c ∈ w, c.isDigit) (hne : w ≠ [])
    (hl : w.length ≤ digitLimit) : parseMagnitude w = .ok (Nat.ofDigitChars 10 w 0) := by
  rw [parseMagnitude_digits_eq hw hne, if_neg (by omega)]

theorem not_isBlank_isDigit {c : Char} (h : c.isDigit) : isBlank c = false := by
  obtain ⟨hlo, hhi⟩ := Char.isDigit_iff_toNat.1 h
  simp only [Char.reduceToNat] at hlo hhi
  simp only [isBlank, CodePoints.has, blanks, List.any_cons, List.any_nil, Bool.or_false,
    Bool.or_eq_false_iff, Bool.and_eq_false_iff, decide_eq_false_iff_not]
  omega

theorem parseInteger_digits {w : List Char} (hw : ∀ c ∈ w, c.isDigit) (hne : w ≠ []) :
    parseInteger w = (parseMagnitude w).map fun n => (n : Int) := by
  obtain ⟨c, w, rfl⟩ := List.exists_cons_of_ne_nil hne
  have hc := hw c (by simp)
  have hsign : c ≠ '-' ∧ c ≠ '+' := by
    constructor <;> rintro rfl <;> exact absurd hc (by decide)
  have hblanks : (c :: w).dropWhile isNumeralBlank = c :: w := by
    rw [List.dropWhile_cons_of_neg (by simp [isNumeralBlank, not_isBlank_isDigit hc])]
  simp only [parseInteger, hblanks]
  split
  · rename_i hminus
    exact absurd (List.cons.inj hminus).1 hsign.1
  · rename_i hplus
    exact absurd (List.cons.inj hplus).1 hsign.2
  · rfl

/-! ## Canonical numerals -/

theorem isDigit_decimalChars {n : Nat} : ∀ c ∈ decimalChars n, c.isDigit :=
  fun _ hc => Nat.isDigit_of_mem_toDigits (by decide) (by decide) hc

theorem decimalChars_ne_nil {n : Nat} : decimalChars n ≠ [] := Nat.toDigits_ne_nil

/-- A numeral of an integer is a minus sign or none, and digits. -/
theorem mem_integerChars {n : Int} {c : Char} (h : c ∈ integerChars n) : c = '-' ∨ c.isDigit := by
  cases n with
  | ofNat n => exact .inr (isDigit_decimalChars c h)
  | negSucc n =>
      rcases List.mem_cons.1 h with rfl | hc
      · exact .inl rfl
      · exact .inr (isDigit_decimalChars c hc)

theorem exists_digit_integerChars (n : Int) : ∃ c ∈ integerChars n, c.isDigit := by
  have hdigits : ∀ n, ∃ c ∈ decimalChars n, c.isDigit := by
    intro n
    obtain ⟨c, w, hw⟩ := List.exists_cons_of_ne_nil (@decimalChars_ne_nil n)
    have hc : c ∈ decimalChars n := by simp [hw]
    exact ⟨c, hc, isDigit_decimalChars c hc⟩
  cases n with
  | ofNat n => exact hdigits n
  | negSucc n =>
      obtain ⟨c, hc, hdigit⟩ := hdigits (n + 1)
      exact ⟨c, List.mem_cons_of_mem _ hc, hdigit⟩

theorem parseInteger_decimalChars {n : Nat} (hn : n < 10 ^ digitLimit) :
    parseInteger (decimalChars n) = .ok (n : Int) := by
  have hlength : (decimalChars n).length ≤ digitLimit :=
    (Nat.length_toDigits_le_iff (by decide) (by decide)).2 hn
  rw [parseInteger_digits isDigit_decimalChars decimalChars_ne_nil,
    parseMagnitude_digits isDigit_decimalChars decimalChars_ne_nil hlength, decimalChars,
    Nat.ofDigitChars_ten_toDigits]
  rfl

theorem eq_digitChar_of_isDigit {c : Char} (h : c.isDigit) : ∃ d < 10, c = d.digitChar := by
  obtain ⟨hlo, hhi⟩ := Char.isDigit_iff_toNat.1 h
  simp only [Char.reduceToNat] at hlo hhi
  refine ⟨c.toNat - 48, by omega, ?_⟩
  apply Char.toNat_inj.1
  rw [Nat.toNat_digitChar_of_lt_ten (by omega)]
  omega

/-- Digits without a leading zero are the canonical numeral of what they denote. -/
theorem decimalChars_ofDigitChars {s : List Char} (hs : ∀ c ∈ s, c.isDigit) (hne : s ≠ [])
    (hzero : s.head? = some '0' → s = ['0']) : decimalChars (Nat.ofDigitChars 10 s 0) = s := by
  induction s using List.reverseRecOn with
  | nil => exact absurd rfl hne
  | append_singleton s c ih =>
      obtain ⟨d, hd, rfl⟩ := eq_digitChar_of_isDigit (hs c (by simp))
      have hvalue :
          Nat.ofDigitChars 10 (s ++ [d.digitChar]) 0 = 10 * Nat.ofDigitChars 10 s 0 + d := by
        rw [Nat.ofDigitChars_append, Nat.ofDigitChars_cons_digitChar_of_lt_ten hd,
          Nat.ofDigitChars_nil]
      rcases s with _ | ⟨first, s⟩
      · rw [hvalue]
        simpa [decimalChars] using Nat.toDigits_of_lt_base hd
      · have hfirst : first ≠ '0' := by
          rintro rfl
          simpa using hzero rfl
        have hrest := ih (fun c hc => hs c (List.mem_append_left _ hc)) (by simp)
          fun h => absurd (Option.some.inj h) hfirst
        -- The digits in front do not denote zero, or they would start with it.
        have hpos : 0 < Nat.ofDigitChars 10 (first :: s) 0 := by
          rw [Nat.pos_iff_ne_zero]
          intro h0
          rw [h0] at hrest
          exact hfirst (List.cons.inj hrest).1.symm
        rw [hvalue, decimalChars, ← Nat.toDigits_append_toDigits (by decide) hpos hd,
          Nat.toDigits_of_lt_base hd]
        exact congrArg (· ++ [d.digitChar]) hrest

theorem hexValue?_digitChar : ∀ d < 16, hexValue? d.digitChar = some d := by
  decide

theorem mem_hexChars {n : Nat} {c : Char} (hc : c ∈ hexChars n) : ∃ d < 16, c = d.digitChar := by
  induction n using Nat.strongRecOn with
  | ind n ih =>
      rw [hexChars, Nat.toDigits_eq_if (by decide)] at hc
      split at hc
      · rename_i hlt
        exact ⟨n, hlt, List.mem_singleton.1 hc⟩
      · rcases List.mem_append.1 hc with hc | hc
        · exact ih (n / 16) (by omega) hc
        · exact ⟨n % 16, Nat.mod_lt _ (by decide), List.mem_singleton.1 hc⟩

theorem ofHexDigits_append_digitChar (s : List Char) {d : Nat} (hd : d < 16) :
    ofHexDigits (s ++ [d.digitChar]) = 16 * ofHexDigits s + d := by
  simp [ofHexDigits, List.foldl_append, hexValue?_digitChar d hd]

theorem ofHexDigits_hexChars (n : Nat) : ofHexDigits (hexChars n) = n := by
  induction n using Nat.strongRecOn with
  | ind n ih =>
      rw [hexChars, Nat.toDigits_eq_if (by decide)]
      split
      · rename_i hlt
        have hnil := ofHexDigits_append_digitChar [] hlt
        rw [List.nil_append] at hnil
        rw [hnil]
        simp [ofHexDigits]
      · have hrest := ih (n / 16) (by omega)
        rw [hexChars] at hrest
        rw [ofHexDigits_append_digitChar _ (Nat.mod_lt n (by decide)), hrest]
        omega

/-! ## Hexadecimal digits in either case -/

theorem hexValue?_cases {c : Char} {d : Nat} (h : hexValue? c = some d) :
    (48 ≤ c.toNat ∧ c.toNat ≤ 57 ∨ 97 ≤ c.toNat ∧ c.toNat ≤ 102 ∨ 65 ≤ c.toNat ∧ c.toNat ≤ 70) ∧
      d < 16 := by
  have hle : ∀ x y : Char, x ≤ y ↔ x.toNat ≤ y.toNat := fun x y => UInt32.le_iff_toNat_le
  simp only [hexValue?, Bool.and_eq_true, decide_eq_true_eq, hle, Char.reduceToNat] at h
  split at h
  · cases h
    omega
  · split at h
    · cases h
      omega
    · split at h
      · cases h
        omega
      · cases h

theorem isBlank_of_hexValue {c : Char} {d : Nat} (h : hexValue? c = some d) :
    isBlank c = false := by
  obtain ⟨hrange, -⟩ := hexValue?_cases h
  simp only [isBlank, CodePoints.has, blanks, List.any_cons, List.any_nil, Bool.or_false,
    Bool.or_eq_false_iff, Bool.and_eq_false_iff, decide_eq_false_iff_not]
  omega

theorem ofHexDigits_lt (s : List Char) : ofHexDigits s < 16 ^ s.length := by
  induction s using List.reverseRecOn with
  | nil => simp [ofHexDigits]
  | append_singleton s c ih =>
      have hvalue : (hexValue? c).getD 0 < 16 := by
        cases hc : hexValue? c with
        | none => simp
        | some d => exact (hexValue?_cases hc).2
      have hsum : ofHexDigits (s ++ [c]) = 16 * ofHexDigits s + (hexValue? c).getD 0 := by
        simp [ofHexDigits, List.foldl_append]
      rw [hsum, List.length_append, List.length_singleton, pow_succ]
      omega

end SocketInventory.Text
