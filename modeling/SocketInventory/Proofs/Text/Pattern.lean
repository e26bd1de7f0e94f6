import SocketInventory.Proofs.Text.Lines
import SocketInventory.Proofs.Text.Sigma
import SocketInventory.Text.Pattern

/-!
# Texts that fit a pattern

A text fits a pattern when it is the pieces between the stars, in order, with a run of characters
in the place of each star. A pattern has the same stars in lower case.
-/

namespace SocketInventory.Text

/-- The text is the pieces in order, with any characters but line feeds in the gaps. -/
inductive Spread : List (List Char) → List Char → Prop
  | last (piece : List Char) : Spread [piece] piece
  | gap {piece run text : List Char} {pieces : List (List Char)} (hrun : '\n' ∉ run)
      (h : Spread pieces text) : Spread (piece :: pieces) (piece ++ (run ++ text))

section Spread

variable {pieces : List (List Char)} {piece text : List Char} {c d : Char}

theorem spread_iff : Spread (piece :: pieces) text ↔
    pieces = [] ∧ text = piece ∨
      ∃ run rest, text = piece ++ (run ++ rest) ∧ '\n' ∉ run ∧ Spread pieces rest := by
  constructor
  · intro h
    cases h with
    | last => exact .inl ⟨rfl, rfl⟩
    | gap hrun h => exact .inr ⟨_, _, rfl, hrun, h⟩
  · rintro (⟨rfl, rfl⟩ | ⟨run, rest, rfl, hrun, h⟩)
    · exact .last text
    · exact .gap hrun h

theorem not_spread_none : ¬ Spread [] text := nofun

/-- The first character of the first piece is the first of the text. -/
theorem spread_cons_cons : Spread ((d :: piece) :: pieces) (c :: text) ↔
    d = c ∧ Spread (piece :: pieces) text := by
  simp only [spread_iff, List.cons_append, List.cons.injEq, eq_comm (a := c)]
  constructor
  · rintro (⟨hnil, hd, htext⟩ | ⟨run, rest, ⟨hd, htext⟩, h⟩)
    · exact ⟨hd, .inl ⟨hnil, htext⟩⟩
    · exact ⟨hd, .inr ⟨run, rest, htext, h⟩⟩
  · rintro ⟨hd, ⟨hnil, htext⟩ | ⟨run, rest, htext, h⟩⟩
    · exact .inl ⟨hnil, hd, htext⟩
    · exact .inr ⟨run, rest, ⟨hd, htext⟩, h⟩

/-- A gap in front of a text is empty, or takes the first character. -/
theorem spread_star : Spread ([] :: piece :: pieces) text ↔
    Spread (piece :: pieces) text ∨
      ∃ c rest, text = c :: rest ∧ c ≠ '\n' ∧ Spread ([] :: piece :: pieces) rest := by
  constructor
  · intro h
    obtain ⟨hnil, -⟩ | ⟨run, rest, rfl, hrun, hrest⟩ := spread_iff.1 h
    · cases hnil
    · rcases run with _ | ⟨c, run⟩
      · exact .inl hrest
      · obtain ⟨hc, hrun⟩ := List.ne_and_not_mem_of_not_mem_cons hrun
        refine .inr ⟨c, run ++ rest, rfl, hc.symm, ?_⟩
        exact spread_iff.2 (.inr ⟨run, rest, rfl, hrun, hrest⟩)
  · rintro (h | ⟨c, rest, rfl, hc, h⟩)
    · exact spread_iff.2 (.inr ⟨[], text, rfl, by simp, h⟩)
    · obtain ⟨hnil, -⟩ | ⟨run, rest, rfl, hrun, hrest⟩ := spread_iff.1 h
      · cases hnil
      · exact spread_iff.2 (.inr ⟨c :: run, rest, rfl, by simp [hc.symm, hrun], hrest⟩)

end Spread

/-- The search along pattern and text finds a way to spread the pieces exactly when there is one. -/
theorem fits_iff_spread (pattern text : List Char) :
    fits pattern text = true ↔ Spread (splitAt '*' pattern) text := by
  -- Along the search: at a star the first gap is empty or takes a character of the text.
  induction pattern, text using fits.induct with
  | case1 => simp [fits, splitAt, spread_iff, not_spread_none]
  | case2 c text => simp [fits, splitAt, spread_iff, not_spread_none]
  | case3 p ih =>
      obtain ⟨piece, pieces, hp⟩ := List.exists_cons_of_ne_nil (splitAt_ne_nil '*' p)
      rw [fits, ih, splitAt_sep, hp, spread_star]
      simp
  | case4 p c t ih₁ ih₂ =>
      obtain ⟨piece, pieces, hp⟩ := List.exists_cons_of_ne_nil (splitAt_ne_nil '*' p)
      rw [splitAt_sep, hp] at ih₂
      rw [splitAt_sep, hp, spread_star, fits, Bool.or_eq_true, ih₁, Bool.and_eq_true, ih₂, hp]
      simp
  | case5 d p hd =>
      obtain ⟨piece, pieces, -, hp⟩ := exists_splitAt_cons (by simpa using hd : d ≠ '*') p
      rw [hp, spread_iff]
      simp [fits]
  | case6 d p c t hd ih =>
      obtain ⟨piece, pieces, hp, hdp⟩ := exists_splitAt_cons (by simpa using hd : d ≠ '*') p
      rw [hdp, spread_cons_cons, ← hp, ← ih]
      simp [fits]

/-! ## Patterns made from a text -/

section Fits

variable {p t : List Char}

/-- A star may stand for nothing. -/
theorem fits_star_empty (h : fits p t) : fits ('*' :: p) t := by
  cases t with
  | nil => rwa [fits]
  | cons c t => simp [fits, h]

theorem fits_star {run : List Char} (hrun : '\n' ∉ run) (h : fits p t) :
    fits ('*' :: p) (run ++ t) := by
  induction run with
  | nil => exact fits_star_empty h
  | cons c run ih =>
      obtain ⟨hc, hrun⟩ := List.ne_and_not_mem_of_not_mem_cons hrun
      simp [fits, hc.symm, ih hrun]

/-- Every character stands for itself, a star as well. -/
theorem fits_cons (c : Char) (h : fits p t) : fits (c :: p) (c :: t) := by
  by_cases hc : c = '*'
  · subst hc
    have hstar : '\n' ∉ ['*'] := by decide
    exact fits_star hstar h
  · simp [fits, h]

theorem fits_append (s : List Char) (h : fits p t) : fits (s ++ p) (s ++ t) := by
  induction s with
  | nil => exact h
  | cons c s ih => exact fits_cons c ih

theorem fits_self (s : List Char) : fits s s := by
  have h := fits_append s (by simp [fits] : fits [] [] = true)
  rwa [List.append_nil] at h

/-- A star takes no line feed, so text and pattern have as many. -/
theorem count_of_fits (h : fits p t) : t.count '\n' = p.count '\n' := by
  induction p, t using fits.induct with
  | case1 => rfl
  | case2 c t => simp [fits] at h
  | case3 p ih =>
      rw [fits] at h
      rw [ih h]
      rfl
  | case4 p c t ih₁ ih₂ =>
      simp only [fits, Bool.or_eq_true, Bool.and_eq_true, bne_iff_ne] at h
      rcases h with h | ⟨hc, h⟩
      · rw [ih₁ h]
        rfl
      · rw [List.count_cons_of_ne hc, ih₂ h]
  | case5 d p hd => simp [fits] at h
  | case6 d p c t hd ih =>
      simp only [fits, Bool.and_eq_true, beq_iff_eq] at h
      obtain ⟨rfl, h⟩ := h
      rw [List.count_cons, List.count_cons, ih h]

/-- The characters of the pattern other than stars stand in the text, in order. -/
theorem sublist_of_fits (h : fits p t) : (p.filter (· != '*')).Sublist t := by
  induction p, t using fits.induct with
  | case1 => exact .slnil
  | case2 c t => simp [fits] at h
  | case3 p ih =>
      rw [fits] at h
      exact ih h
  | case4 p c t ih₁ ih₂ =>
      simp only [fits, Bool.or_eq_true, Bool.and_eq_true] at h
      rcases h with h | ⟨-, h⟩
      · exact ih₁ h
      · exact (ih₂ h).cons c
  | case5 d p hd => simp [fits] at h
  | case6 d p c t hd ih =>
      simp only [fits, Bool.and_eq_true, beq_iff_eq] at h
      obtain ⟨rfl, h⟩ := h
      have hstar : d ≠ '*' := by simpa using hd
      rw [List.filter_cons_of_pos (by simpa using hstar)]
      exact (ih h).cons_cons d

/-- A pattern with one star. -/
theorem fits_once {a b : List Char} (ha : '*' ∉ a) (hb : '*' ∉ b) :
    fits (a ++ '*' :: b) t ↔ ∃ run, t = a ++ (run ++ b) ∧ '\n' ∉ run := by
  have hone : ∀ rest, Spread [b] rest ↔ rest = b := by simp [spread_iff, not_spread_none]
  rw [fits_iff_spread, splitAt_append ha, splitAt_of_notMem hb, spread_iff]
  constructor
  · rintro (⟨hnil, -⟩ | ⟨run, rest, rfl, hrun, hrest⟩)
    · cases hnil
    · exact ⟨run, by rw [(hone rest).1 hrest], hrun⟩
  · rintro ⟨run, rfl, hrun⟩
    exact .inr ⟨run, b, rfl, hrun, (hone b).2 rfl⟩

end Fits

/-! ## Stars in lower case -/

/-- Lower case neither makes a star nor takes one away. -/
theorem hasStar_lower (s : List Char) : hasStar (lower s) = true ↔ '*' ∈ s := by
  rw [hasStar, List.contains_iff_mem, lower_eq]
  exact mem_lowerBetween (by decide) (by decide)

theorem form_star (before after : List Char) : form before '*' after = ['*'] := by
  rw [form, if_neg (by decide)]
  rfl

theorem filter_form {c : Char} (hc : c ≠ '*') (before after : List Char) :
    (form before c after).filter (· != '*') = form before c after := by
  have hstar : '*' ∉ form before c after := by
    rw [← List.count_eq_zero, count_form (by decide) (by decide), List.count_eq_zero]
    simpa using hc.symm
  refine List.filter_eq_self.2 fun d hd => ?_
  rw [bne_iff_ne]
  rintro rfl
  exact hstar hd

theorem length_filter_lowerBetween (before s after : List Char) :
    ((lowerBetween before s after).filter (· != '*')).length =
      ((s.filter (· != '*')).flatMap lowerChar).length := by
  induction s generalizing before with
  | nil => rfl
  | cons c s ih =>
      rw [lowerBetween, List.filter_append, List.length_append, ih]
      by_cases hc : c = '*'
      · subst hc
        simp [form_star]
      · rw [filter_form hc, length_form, List.filter_cons_of_pos (by simpa using hc),
          List.flatMap_cons, List.length_append]

theorem lower_star (u v : List Char) : lowerBetween [] (u ++ '*' :: v) [] =
    lowerBetween [] u ('*' :: v) ++ '*' :: lowerBetween ('*' :: u.reverse) v [] := by
  rw [lowerBetween_append, lowerBetween, form_star, List.append_nil, List.append_nil]
  rfl

end SocketInventory.Text
