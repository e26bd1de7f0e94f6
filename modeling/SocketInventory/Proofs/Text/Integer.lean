import SocketInventory.Proofs.Outcome
import SocketInventory.Proofs.Text.Lines
import SocketInventory.Proofs.Text.Numeral

/-!
# Numerals of integers

The form of a numeral: blanks, a sign or none, digits of any script with single underscores among
them, and blanks. The texts that are read as integers are those of this form whose digits are
within the limit.
-/

namespace SocketInventory.Text

/-! ## Digits with underscores -/

/-- Digits of any script, with single underscores between some of them, and the values of the
digits. -/
inductive Grouped : List Char → List Nat → Prop
  | digit {c : Char} {d : Nat} (hc : digitValue? c = some d) : Grouped [c] [d]
  | digits {c : Char} {d : Nat} {w : List Char} {ds : List Nat} (hc : digitValue? c = some d)
      (h : Grouped w ds) : Grouped (c :: w) (d :: ds)
  | underscore {c : Char} {d : Nat} {w : List Char} {ds : List Nat} (hc : digitValue? c = some d)
      (h : Grouped w ds) : Grouped (c :: '_' :: w) (d :: ds)

def isNumeralChar (c : Char) : Bool := isDecimalDigit c || isUnderscore c

theorem isDecimalDigit_of_value {c : Char} {d : Nat} (h : digitValue? c = some d) :
    isDecimalDigit c := by
  rw [isDecimalDigit, h]
  rfl

theorem isNumeralChar_of_value {c : Char} {d : Nat} (h : digitValue? c = some d) :
    isNumeralChar c := by
  rw [isNumeralChar, isDecimalDigit_of_value h]
  rfl

theorem isUnderscore_of_value {c : Char} {d : Nat} (h : digitValue? c = some d) :
    isUnderscore c = false := not_isUnderscore_of_decimal (isDecimalDigit_of_value h)

namespace Grouped

variable {w : List Char} {ds : List Nat} (h : Grouped w ds)
include h

theorem head : ∃ c d rest, w = c :: rest ∧ digitValue? c = some d := by
  cases h with
  | digit hc => exact ⟨_, _, _, rfl, hc⟩
  | digits hc h => exact ⟨_, _, _, rfl, hc⟩
  | underscore hc h => exact ⟨_, _, _, rfl, hc⟩

theorem isNumeralChar : ∀ c ∈ w, isNumeralChar c := by
  induction h with
  | digit hc => simpa using isNumeralChar_of_value hc
  | digits hc h ih => exact List.forall_mem_cons.2 ⟨isNumeralChar_of_value hc, ih⟩
  | underscore hc h ih =>
      exact List.forall_mem_cons.2
        ⟨isNumeralChar_of_value hc, List.forall_mem_cons.2 ⟨by decide, ih⟩⟩

theorem values : w.filterMap digitValue? = ds := by
  induction h with
  | digit hc => rw [List.filterMap_cons_some hc, List.filterMap_nil]
  | digits hc h ih => rw [List.filterMap_cons_some hc, ih]
  | underscore hc h ih =>
      rw [List.filterMap_cons_some hc, List.filterMap_cons_none (by decide), ih]

theorem underscoresBetween (afterDigit : Bool) : underscoresBetween afterDigit w = true := by
  induction h generalizing afterDigit with
  | digit hc => simp [Text.underscoresBetween, isUnderscore_of_value hc]
  | digits hc h ih => simp [Text.underscoresBetween, isUnderscore_of_value hc, ih]
  | underscore hc h ih =>
      have hunderscore : isUnderscore '_' = true := rfl
      simp [Text.underscoresBetween, isUnderscore_of_value hc, hunderscore, ih]

end Grouped

/-- The scan for misplaced underscores, behind a digit and elsewhere. -/
theorem grouped_of_underscoresBetween {w : List Char} (hw : ∀ c ∈ w, isNumeralChar c) :
    (underscoresBetween true w = true → ∀ c d, digitValue? c = some d →
      Grouped (c :: w) (d :: w.filterMap digitValue?)) ∧
    (underscoresBetween false w = true → Grouped w (w.filterMap digitValue?)) := by
  induction w with
  | nil => exact ⟨fun _ c d hc => .digit hc, nofun⟩
  | cons x w ih =>
      obtain ⟨hx, hw⟩ := List.forall_mem_cons.1 hw
      obtain ⟨ihtrue, ihfalse⟩ := ih hw
      cases hu : isUnderscore x with
      | true =>
          obtain rfl : x = '_' := by simpa [isUnderscore] using hu
          rw [List.filterMap_cons_none (by decide)]
          refine ⟨fun h c d hc => ?_, nofun⟩
          exact .underscore hc (ihfalse h)
      | false =>
          rw [isNumeralChar, hu, Bool.or_false, isDecimalDigit, Option.isSome_iff_exists] at hx
          obtain ⟨e, he⟩ := hx
          simp only [underscoresBetween, hu, List.filterMap_cons_some he]
          exact ⟨fun h c d hc => .digits hc (ihtrue h x e he), fun h => ihtrue h x e he⟩

/-! ## Blanks -/

/-- No digit of any script is a blank. -/
theorem isBlank_of_value {c : Char} {d : Nat} (h : digitValue? c = some d) : isBlank c = false := by
  have htables : ∀ first ∈ digitZeros, ∀ range ∈ blanks, first + 10 ≤ range.1 ∨ range.2 < first := by
    decide
  obtain ⟨first, hfirst, -⟩ := Option.map_eq_some_iff.1 h
  have hcovers := List.find?_some hfirst
  simp only [Bool.and_eq_true, decide_eq_true_eq] at hcovers
  rw [isBlank, CodePoints.has, List.any_eq_false]
  intro range hrange
  have hapart := htables first (List.mem_of_find?_eq_some hfirst) range hrange
  simp only [Bool.and_eq_true, decide_eq_true_eq]
  omega

theorem isNumeralBlank_of_value {c : Char} {d : Nat} (h : digitValue? c = some d) :
    isNumeralBlank c = false := by
  rw [isNumeralBlank, isBlank_of_value h]
  rfl

theorem isNumeralChar_of_blank {c : Char} (h : isNumeralBlank c) : isNumeralChar c = false := by
  rw [isNumeralChar, Bool.or_eq_false_iff]
  constructor
  · by_contra hdigit
    rw [Bool.not_eq_false, isDecimalDigit, Option.isSome_iff_exists] at hdigit
    obtain ⟨d, hd⟩ := hdigit
    rw [isNumeralBlank_of_value hd] at h
    cases h
  · rw [isUnderscore, beq_eq_false_iff_ne]
    rintro rfl
    exact absurd h (by decide)

/-! ## Numerals -/

/-- A sign or none, as a factor. -/
inductive Sign : List Char → Int → Prop
  | none : Sign [] 1
  | plus : Sign ['+'] 1
  | minus : Sign ['-'] (-1)

/-- The text is a numeral of the integer. -/
inductive Numeral : List Char → Int → Prop
  | intro {before sign w after : List Char} {k : Int} {ds : List Nat}
      (hbefore : ∀ c ∈ before, isNumeralBlank c) (hsign : Sign sign k) (hw : Grouped w ds)
      (hlimit : ds.length ≤ digitLimit) (hafter : ∀ c ∈ after, isNumeralBlank c) :
      Numeral (before ++ (sign ++ (w ++ after))) (k * ofDigits ds)

theorem parseMagnitude_eq (s : List Char) : parseMagnitude s =
    if !underscoresBetween false (s.takeWhile isNumeralChar) then .error .malformed
    else if digitLimit < ((s.takeWhile isNumeralChar).filterMap digitValue?).length then
      .error (.tooLong ((s.takeWhile isNumeralChar).filterMap digitValue?).length)
    else if (s.dropWhile isNumeralChar).all isNumeralBlank then
      .ok (ofDigits ((s.takeWhile isNumeralChar).filterMap digitValue?))
    else .error .malformed := by
  have hdrop : s.drop (s.takeWhile isNumeralChar).length = s.dropWhile isNumeralChar := by
    have hdrop := @List.drop_left _ (s.takeWhile isNumeralChar) (s.dropWhile isNumeralChar)
    rwa [List.takeWhile_append_dropWhile] at hdrop
  rw [← hdrop]
  rfl

theorem parseMagnitude_eq_ok_iff {s : List Char} {n : Nat} : parseMagnitude s = .ok n ↔
    ∃ w after ds, s = w ++ after ∧ Grouped w ds ∧ ds.length ≤ digitLimit ∧
      (∀ c ∈ after, isNumeralBlank c) ∧ n = ofDigits ds := by
  rw [parseMagnitude_eq]
  constructor
  · intro h
    split at h
    · cases h
    · rename_i hbetween
      split at h
      · cases h
      · rename_i hlimit
        split at h
        · rename_i hall
          cases h
          have hw : ∀ c ∈ s.takeWhile isNumeralChar, isNumeralChar c :=
            fun c hc => List.mem_takeWhile_imp hc
          exact ⟨_, _, _, List.takeWhile_append_dropWhile.symm,
            (grouped_of_underscoresBetween hw).2 (by simpa using hbetween), by omega,
            List.all_eq_true.1 hall, rfl⟩
        · cases h
  · rintro ⟨w, after, ds, rfl, hw, hlimit, hafter, rfl⟩
    have hstop : ∀ c, after.head? = some c → isNumeralChar c = false :=
      fun c hc => isNumeralChar_of_blank (hafter c (List.mem_of_head? hc))
    have hrun : (w ++ after).takeWhile isNumeralChar = w := by
      rw [takeWhile_append_stop hstop, List.takeWhile_eq_self_iff]
      exact hw.isNumeralChar
    have hrest : (w ++ after).dropWhile isNumeralChar = after := by
      rw [dropWhile_append_stop hstop, List.dropWhile_eq_nil_iff.2 hw.isNumeralChar,
        List.nil_append]
    rw [hrun, hrest, hw.underscoresBetween, hw.values, if_neg (by simp), if_neg (by omega),
      if_pos (List.all_eq_true.2 hafter)]

/-- A number without sign starts with a digit. -/
theorem parseMagnitude_sign {c : Char} (hc : isNumeralChar c = false) (s : List Char) :
    parseMagnitude (c :: s) = .error .malformed := by
  rw [parseMagnitude_eq, List.takeWhile_cons_of_neg (by simp [hc])]
  rfl

/-- Behind the leading blanks stand a sign or none and what is read without it. -/
theorem parseInteger_signed {s : List Char} {n : Int} : parseInteger s = .ok n ↔
    ∃ sign rest k m, s.dropWhile isNumeralBlank = sign ++ rest ∧ Sign sign k ∧
      parseMagnitude rest = .ok m ∧ n = k * m := by
  rw [parseInteger]
  constructor
  · intro h
    split at h
    all_goals
      obtain ⟨i, hi, rfl⟩ := exists_of_map_ok h
      obtain ⟨m, hm, hi⟩ := exists_of_bind_ok hi
      cases hi
    · exact ⟨['-'], _, -1, m, ‹_›, .minus, hm, by simp⟩
    · exact ⟨['+'], _, 1, m, ‹_›, .plus, hm, by simp⟩
    · exact ⟨[], _, 1, m, rfl, .none, hm, by simp⟩
  · rintro ⟨sign, rest, k, m, hs, hsign, hm, rfl⟩
    rw [hs]
    cases hsign with
    | minus => simp [hm, Except.map]
    | plus => simp [hm, Except.map]
    | none =>
        split
        · rename_i hrest
          rw [List.nil_append] at hrest
          rw [hrest, parseMagnitude_sign (by decide)] at hm
          cases hm
        · rename_i hrest
          rw [List.nil_append] at hrest
          rw [hrest, parseMagnitude_sign (by decide)] at hm
          cases hm
        · simp [hm, Except.map]

theorem parseInteger_eq_ok_iff {s : List Char} {n : Int} :
    parseInteger s = .ok n ↔ Numeral s n := by
  rw [parseInteger_signed]
  constructor
  · rintro ⟨sign, rest, k, m, hs, hsign, hm, rfl⟩
    obtain ⟨w, after, ds, rfl, hw, hlimit, hafter, rfl⟩ := parseMagnitude_eq_ok_iff.1 hm
    rw [← List.takeWhile_append_dropWhile (p := isNumeralBlank) (l := s), hs]
    exact .intro (fun c hc => List.mem_takeWhile_imp hc) hsign hw hlimit hafter
  · rintro @⟨before, sign, w, after, k, ds, hbefore, hsign, hw, hlimit, hafter⟩
    refine ⟨sign, w ++ after, k, _, ?_, hsign,
      parseMagnitude_eq_ok_iff.2 ⟨w, after, ds, rfl, hw, hlimit, hafter, rfl⟩, rfl⟩
    obtain ⟨c, d, rest, rfl, hc⟩ := hw.head
    rw [List.dropWhile_append_of_pos hbefore]
    apply dropWhile_eq_self
    cases hsign with
    | none =>
        rintro _ ⟨⟩
        exact isNumeralBlank_of_value hc
    | plus | minus =>
        rintro _ ⟨⟩
        decide

/-- A written integer is read back. -/
theorem parseInteger_integerChars {n : Int} (hn : n.natAbs < 10 ^ digitLimit) :
    parseInteger (integerChars n) = .ok n := by
  cases n with
  | ofNat n => exact parseInteger_decimalChars hn
  | negSucc n =>
      have hlength : (decimalChars (n + 1)).length ≤ digitLimit :=
        (Nat.length_toDigits_le_iff (by decide) (by decide)).2 hn
      rw [parseInteger_signed]
      refine ⟨['-'], decimalChars (n + 1), -1, n + 1, ?_, .minus, ?_, by omega⟩
      · exact dropWhile_eq_self (by rintro _ ⟨⟩; decide)
      · rw [parseMagnitude_digits isDigit_decimalChars decimalChars_ne_nil hlength, decimalChars,
          Nat.ofDigitChars_ten_toDigits]

end SocketInventory.Text
