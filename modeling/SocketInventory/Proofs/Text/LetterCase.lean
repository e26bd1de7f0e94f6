import Mathlib
import SocketInventory.Text.Case
import SocketInventory.Text.Lines
import SocketInventory.Text.Numeral

/-!
# Letter case

What a text is in lower case, and the number that it is read as, do not depend on the case of its
ASCII letters, though letters are the neighbours by which the form of a sigma is chosen.
-/

namespace SocketInventory.Text

/-! ## Characters -/

/-- A capital ASCII letter is its code. -/
theorem exists_of_isUpper {c : Char} (hc : c.isUpper) : ∃ n < 26, c = Char.ofNat (0x41 + n) := by
  simp only [Char.isUpper, UInt32.le_iff_toNat_le, decide_eq_true_eq] at hc
  have hn : c.toNat = c.val.toNat := rfl
  obtain ⟨hlo, hhi⟩ := hc
  simp only [Char.reduceVal, UInt32.reduceToNat] at hlo hhi
  refine ⟨c.toNat - 0x41, by omega, ?_⟩
  rw [show 0x41 + (c.toNat - 0x41) = c.toNat by omega, Char.ofNat_toNat]

/-- What the capital letters share with the small ones, every character shares with its small
form. -/
theorem apply_toLower {α : Type} {f : Char → α}
    (h : ∀ n < 26, f (Char.ofNat (0x41 + n)).toLower = f (Char.ofNat (0x41 + n))) (c : Char) :
    f c.toLower = f c := by
  by_cases hc : c.isUpper
  · obtain ⟨n, hn, rfl⟩ := exists_of_isUpper hc
    exact h n hn
  · rw [Char.toLower_eq_of_not_isUpper hc]

/-- A character of a class without capital letters is its own small form. -/
theorem toLower_eq_self {p : Char → Bool} (h : ∀ n < 26, p (Char.ofNat (0x41 + n)) = false)
    {c : Char} (hc : p c) : c.toLower = c := by
  apply Char.toLower_eq_of_not_isUpper
  intro hu
  obtain ⟨n, hn, rfl⟩ := exists_of_isUpper hu
  simp [h n hn] at hc

theorem map_toLower_eq_self {p : Char → Bool} (h : ∀ n < 26, p (Char.ofNat (0x41 + n)) = false)
    {s : List Char} (hs : ∀ c ∈ s, p c) : s.map Char.toLower = s :=
  (List.map_congr_left fun c hc => toLower_eq_self h (hs c hc)).trans (List.map_id s)

theorem toLower_eq_iff {c d : Char} (hd : d.isAlpha = false) : c.toLower = d ↔ c = d := by
  constructor
  · rintro rfl
    rw [Char.isAlpha_toLower_eq_isAlpha, Char.isAlpha, Bool.or_eq_false_iff] at hd
    rw [Char.toLower_eq_of_not_isUpper (by simp [hd])]
  · rintro rfl
    rw [Char.isAlpha, Bool.or_eq_false_iff] at hd
    rw [Char.toLower_eq_of_not_isUpper (by simp [hd])]

/-! ## Lists of characters -/

section Lists

variable {p : Char → Bool}
  (h : ∀ n < 26, p (Char.ofNat (0x41 + n)).toLower = p (Char.ofNat (0x41 + n)))
include h

theorem comp_toLower : p ∘ Char.toLower = p := funext (apply_toLower h)

theorem takeWhile_toLower (s : List Char) :
    (s.map Char.toLower).takeWhile p = (s.takeWhile p).map Char.toLower := by
  rw [List.takeWhile_map, comp_toLower h]

theorem dropWhile_toLower (s : List Char) :
    (s.map Char.toLower).dropWhile p = (s.dropWhile p).map Char.toLower := by
  rw [List.dropWhile_map, comp_toLower h]

theorem all_toLower (s : List Char) : (s.map Char.toLower).all p = s.all p := by
  rw [List.all_map, comp_toLower h]

end Lists

/-! ## Lower case -/

theorem meetsCaseLetter_toLower (s : List Char) :
    meetsCaseLetter (s.map Char.toLower) = meetsCaseLetter s := by
  have hdrop := dropWhile_toLower (p := caseIgnorable.has) (by decide +kernel) s
  rw [meetsCaseLetter, meetsCaseLetter, hdrop]
  cases s.dropWhile caseIgnorable.has with
  | nil => rfl
  | cons c rest => exact apply_toLower (f := caseLetters.has) (by decide +kernel) c

theorem lowerAfter_toLower (before s : List Char) :
    lowerAfter (before.map Char.toLower) (s.map Char.toLower) = lowerAfter before s := by
  induction s generalizing before with
  | nil => rfl
  | cons c s ih =>
      have hchar : lowerChar c.toLower = lowerChar c := apply_toLower (by decide +kernel) c
      have hsigma : c.toLower = capitalSigma ↔ c = capitalSigma := toLower_eq_iff (by decide)
      have htail := ih (c :: before)
      rw [List.map_cons] at htail
      simp only [List.map_cons, lowerAfter, meetsCaseLetter_toLower, hsigma, hchar, htail]

theorem lower_toLower (s : List Char) : lower (s.map Char.toLower) = lower s :=
  lowerAfter_toLower [] s

/-- Texts that differ in the case of letters only are the same in lower case. -/
theorem lower_congr {s t : List Char} (h : s.map Char.toLower = t.map Char.toLower) :
    lower s = lower t := by
  rw [← lower_toLower s, h, lower_toLower]

/-! ## Numerals -/

theorem parseMagnitude_toLower (s : List Char) :
    parseMagnitude (s.map Char.toLower) = parseMagnitude s := by
  have hrun : (s.map Char.toLower).takeWhile (fun c => isDecimalDigit c || isUnderscore c) =
      s.takeWhile fun c => isDecimalDigit c || isUnderscore c := by
    rw [takeWhile_toLower (by decide +kernel)]
    exact map_toLower_eq_self (by decide +kernel) fun c hc => List.mem_takeWhile_imp hc
  have hblank := all_toLower (p := isNumeralBlank) (by decide +kernel)
  simp only [parseMagnitude, hrun, ← List.map_drop, hblank]

theorem parseInteger_toLower (s : List Char) :
    parseInteger (s.map Char.toLower) = parseInteger s := by
  rw [parseInteger, parseInteger, dropWhile_toLower (by decide +kernel)]
  cases s.dropWhile isNumeralBlank with
  | nil => rfl
  | cons c rest =>
      have hminus : c.toLower = '-' ↔ c = '-' := toLower_eq_iff (by decide)
      have hplus : c.toLower = '+' ↔ c = '+' := toLower_eq_iff (by decide)
      have hrest := parseMagnitude_toLower (c :: rest)
      by_cases hm : c = '-'
      · subst hm
        simp [parseMagnitude_toLower]
      · by_cases hp : c = '+'
        · subst hp
          simp [parseMagnitude_toLower]
        · rw [List.map_cons] at hrest ⊢
          simp [hm, hp, hminus, hplus, hrest]

end SocketInventory.Text
