import SocketInventory.Proofs.Text.LetterCase

/-!
# Lower case in context

Lower case of a piece that stands between two others. The only character whose form depends on its
neighbours is the capital sigma, so a piece has one form in two places exactly when each of its
capital sigmas is final in both or in neither.
-/

namespace SocketInventory.Text

/-! ## Forms -/

/-- A capital sigma is final behind one text, its nearest character first, and in front of
another. -/
def isFinal (before after : List Char) : Bool := meetsCaseLetter before && !meetsCaseLetter after

/-- The lower-case form of a character in its place. -/
def form (before : List Char) (c : Char) (after : List Char) : List Char :=
  if c = capitalSigma then if isFinal before after then ['ς'] else ['σ'] else lowerChar c

/-- The lower case of a piece in its place. -/
def lowerBetween (before : List Char) : List Char → List Char → List Char
  | [], _ => []
  | c :: s, after => form before c (s ++ after) ++ lowerBetween (c :: before) s after

variable {before before' after after' s t : List Char}

theorem lowerAfter_eq (before s : List Char) : lowerAfter before s = lowerBetween before s [] := by
  induction s generalizing before with
  | nil => rfl
  | cons c s ih => rw [lowerAfter, lowerBetween, ih, List.append_nil, form, isFinal]

theorem lower_eq (s : List Char) : lower s = lowerBetween [] s [] := lowerAfter_eq [] s

theorem lowerBetween_append (before s t after : List Char) : lowerBetween before (s ++ t) after =
    lowerBetween before s (t ++ after) ++ lowerBetween (s.reverse ++ before) t after := by
  induction s generalizing before with
  | nil => rfl
  | cons c s ih => simp [lowerBetween, ih]

/-! ## Two places -/

theorem length_form (before : List Char) (c : Char) (after : List Char) :
    (form before c after).length = (lowerChar c).length := by
  rw [form]
  split
  · rename_i hc
    have hone : (lowerChar capitalSigma).length = 1 := by decide +kernel
    rw [hc, hone]
    split <;> rfl
  · rfl

theorem length_lowerBetween (before s after : List Char) :
    (lowerBetween before s after).length = (s.flatMap lowerChar).length := by
  induction s generalizing before with
  | nil => rfl
  | cons c s ih => simp [lowerBetween, length_form, ih]

theorem form_eq_iff {c : Char} : form before c after = form before' c after' ↔
    (c = capitalSigma → isFinal before after = isFinal before' after') := by
  by_cases hc : c = capitalSigma
  · simp only [form, hc, if_true, true_imp_iff]
    cases isFinal before after <;> cases isFinal before' after' <;> decide
  · simp [form, hc]

theorem lowerBetween_cons_eq_iff {c : Char} :
    lowerBetween before (c :: s) after = lowerBetween before' (c :: s) after' ↔
      (c = capitalSigma → isFinal before (s ++ after) = isFinal before' (s ++ after')) ∧
        lowerBetween (c :: before) s after = lowerBetween (c :: before') s after' := by
  rw [lowerBetween, lowerBetween, ← form_eq_iff]
  constructor
  · exact fun h => List.append_inj h (by rw [length_form, length_form])
  · rintro ⟨hform, hrest⟩
    rw [hform, hrest]

/-! ## Neighbours -/

theorem meetsCaseLetter_cons (c : Char) (s : List Char) : meetsCaseLetter (c :: s) =
    if caseIgnorable.has c then meetsCaseLetter s else caseLetters.has c := by
  cases h : caseIgnorable.has c <;> simp [meetsCaseLetter, h]

/-- A star is a neighbour that is no letter. -/
theorem meetsCaseLetter_star (s : List Char) : meetsCaseLetter ('*' :: s) = false := by
  have hignored : caseIgnorable.has '*' = false := by decide +kernel
  have hletter : caseLetters.has '*' = false := by decide +kernel
  simp [meetsCaseLetter_cons, hignored, hletter]

/-! ## Characters below the letters -/

section Low

variable {x : Char} (hpos : 0 < x.toNat) (hlow : x.toNat < 'A'.toNat)
include hlow

theorem isAlpha_of_low : x.isAlpha = false := by
  have hn : x.toNat = x.val.toNat := rfl
  simp only [Char.reduceToNat] at hlow
  simp [Char.isAlpha, Char.isUpper, Char.isLower, UInt32.le_iff_toNat_le]
  omega

theorem count_high {c : Char} (hc : 'A'.toNat ≤ c.toNat) : [c].count x = 0 := by
  apply List.count_eq_zero_of_not_mem
  rw [List.mem_singleton]
  rintro rfl
  omega

include hpos

theorem eq_of_ofNat_eq {n : Nat} (h : Char.ofNat n = x) : n = x.toNat := by
  by_cases hn : n.isValidChar
  · rw [← h, Char.toNat_ofNat, if_pos hn]
  · rw [Char.ofNat, dif_neg hn] at h
    subst h
    exact absurd hpos (by decide)

/-- The table makes letters only. -/
theorem notMem_mapCase {c : Char} (hc : c ≠ x) : x ∉ mapCase lowerRuns lowerExpansions c := by
  have hforms : ∀ e ∈ lowerExpansions, ∀ n ∈ e.2, 'A'.toNat ≤ n := by decide
  have hruns : ∀ run ∈ lowerRuns, ('A'.toNat : Int) ≤ run.first + run.shift := by decide +kernel
  unfold mapCase
  split
  · rename_i e form he
    intro h
    obtain ⟨n, hn, hx⟩ := List.mem_map.1 h
    have hletter := hforms _ (List.mem_of_find?_eq_some he) n hn
    have hcode := eq_of_ofNat_eq hpos hlow hx
    omega
  · split
    · rename_i run hrun
      intro h
      have hcode := eq_of_ofNat_eq hpos hlow (List.mem_singleton.1 h).symm
      have hletter := hruns run (List.mem_of_find?_eq_some hrun)
      have hcovers := List.find?_some hrun
      simp only [CaseRun.covers, Bool.and_eq_true, decide_eq_true_eq] at hcovers
      omega
    · simpa using hc.symm

theorem count_lowerChar (c : Char) : (lowerChar c).count x = [c].count x := by
  rw [lowerChar]
  split
  · have hself : c.toLower = x ↔ c = x := toLower_eq_iff (isAlpha_of_low hlow)
    simp only [List.count_singleton, beq_iff_eq, hself]
  · rename_i hc
    have hne : c ≠ x := by
      rintro rfl
      exact hc (hlow.trans (by decide))
    rw [List.count_eq_zero_of_not_mem (notMem_mapCase hpos hlow hne),
      List.count_eq_zero_of_not_mem (by simpa using hne.symm)]

theorem count_form (before : List Char) (c : Char) (after : List Char) :
    (form before c after).count x = [c].count x := by
  rw [form]
  split
  · rename_i hc
    rw [hc, count_high hlow (by decide)]
    split <;> exact count_high hlow (by decide)
  · exact count_lowerChar hpos hlow c

/-- Lower case neither makes such a character nor takes one away. -/
theorem count_lowerBetween (before s after : List Char) :
    (lowerBetween before s after).count x = s.count x := by
  induction s generalizing before with
  | nil => rfl
  | cons c s ih =>
      rw [lowerBetween, List.count_append, ih, count_form hpos hlow, ← List.count_append]
      rfl

theorem mem_lowerBetween : x ∈ lowerBetween before s after ↔ x ∈ s := by
  rw [← List.count_pos_iff, count_lowerBetween hpos hlow, List.count_pos_iff]

end Low

end SocketInventory.Text
