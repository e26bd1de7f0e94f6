import Mathlib
import SocketInventory.Proofs.Text.Integer
import SocketInventory.Proofs.Text.Pattern
import SocketInventory.Query.Eval

/-!
# Comparisons

Which comparisons hold, as rules: beside a text two texts are compared in lower case, by code point
or as a pattern with stars, and beside a number two integers. What is not read as an integer is only
unequal to one. Where neither a star nor a failed reading is in the way, the operators are those of
a linear order.
-/

namespace SocketInventory.Query

/-! ## Operators -/

/-- What an operator asks of two values of an ordered type. -/
def Op.Relates {α : Type} [LT α] (op : Op) (a b : α) : Prop :=
  match op with
  | .eq => a = b
  | .ne => a ≠ b
  | .lt => a < b
  | .gt => b < a
  | .le => a < b ∨ a = b
  | .ge => b < a ∨ a = b

section Test

variable {α : Type} [LinearOrder α] [DecidableEq α] [DecidableLT α] (a b : α)

theorem Op.test_iff_relates (op : Op) : op.test a b = true ↔ op.Relates a b := by
  cases op with
  | eq => exact beq_iff_eq
  | ne => exact bne_iff_ne
  | lt => exact decide_eq_true_iff
  | gt => exact decide_eq_true_iff
  | le =>
      rw [Op.test, Bool.not_eq_true', decide_eq_false_iff_not, not_lt]
      exact le_iff_lt_or_eq
  | ge =>
      rw [Op.test, Bool.not_eq_true', decide_eq_false_iff_not, not_lt, le_iff_lt_or_eq]
      exact or_congr_right eq_comm

/-- Exactly one of less, equal and greater holds, and the others deny one of these each. -/
structure Op.Ordered (compares : Op → Bool) : Prop where
  single : ∃! op, op ∈ [Op.lt, .eq, .gt] ∧ compares op = true
  ne : compares .ne = !compares .eq
  le : compares .le = !compares .gt
  ge : compares .ge = !compares .lt

theorem Op.ordered_test : Op.Ordered fun op => op.test a b where
  single := by
    simp only [Op.test_iff_relates]
    rcases lt_trichotomy a b with h | h | h
    · refine ⟨.lt, ⟨by simp, h⟩, ?_⟩
      rintro op ⟨hop, ho⟩
      fin_cases hop
      · rfl
      · exact absurd ho h.ne
      · exact absurd ho h.asymm
    · refine ⟨.eq, ⟨by simp, h⟩, ?_⟩
      rintro op ⟨hop, ho⟩
      fin_cases hop
      · exact absurd h ho.ne
      · rfl
      · exact absurd h ho.ne'
    · refine ⟨.gt, ⟨by simp, h⟩, ?_⟩
      rintro op ⟨hop, ho⟩
      fin_cases hop
      · exact absurd ho h.asymm
      · exact absurd ho h.ne'
      · rfl
  ne := rfl
  le := rfl
  ge := rfl

end Test

/-! ## The rules -/

/-- What is read as an integer: an integer, and a text that is a numeral of it. -/
inductive Converts : Content → Int → Prop
  | number (n : Int) : Converts (.number n) n
  | numeral {s : String} {n : Int} (h : Text.Numeral s.toList n) : Converts (.text s) n

/-- The code points of a text in lower case. -/
def folded (s : List Char) : List Nat := Text.codes (Text.lower s)

inductive Compares : Content → Op → Content → Prop
  | text {actual : Content} {op : Op} {s : String} (hs : op = .eq → '*' ∉ s.toList)
      (h : op.Relates (folded actual.chars) (folded s.toList)) : Compares actual op (.text s)
  | pattern {actual : Content} {s : String} (hs : '*' ∈ s.toList)
      (h : Text.Spread (Text.splitAt '*' (Text.lower s.toList)) (Text.lower actual.chars)) :
      Compares actual .eq (.text s)
  | number {actual : Content} {op : Op} {a n : Int} (ha : Converts actual a)
      (h : op.Relates a n) : Compares actual op (.number n)
  | unreadable {actual : Content} {n : Int} (ha : ∀ a, ¬ Converts actual a) :
      Compares actual .ne (.number n)

theorem integer?_eq_some_iff {c : Content} {n : Int} : c.integer? = some n ↔ Converts c n := by
  cases c with
  | number m =>
      constructor
      · rintro ⟨⟩
        exact .number n
      · rintro ⟨⟩
        rfl
  | text s =>
      have hread : (Text.parseInteger s.toList).toOption = some n ↔
          Text.parseInteger s.toList = .ok n := by
        cases Text.parseInteger s.toList <;> simp [Except.toOption]
      rw [Content.integer?, hread, Text.parseInteger_eq_ok_iff]
      constructor
      · exact .numeral
      · rintro ⟨⟩
        assumption

theorem compareText_plain {actual s : List Char} {op : Op} (hs : op = .eq → '*' ∉ s) :
    compareText actual op s = op.test (folded actual) (folded s) := by
  have hbranch : (decide (op = .eq) && Text.hasStar (Text.lower s)) = false := by
    rw [Bool.and_eq_false_iff, decide_eq_false_iff_not, Bool.eq_false_iff, ne_eq,
      Text.hasStar_lower]
    exact Decidable.not_or_of_imp hs
  simp only [compareText, hbranch]
  rfl

theorem compareText_pattern {actual s : List Char} (hs : '*' ∈ s) :
    compareText actual .eq s = Text.fits (Text.lower s) (Text.lower actual) := by
  simp only [compareText, (Text.hasStar_lower s).2 hs]
  rfl

theorem compareText_iff {actual : Content} {op : Op} {s : String} :
    compareText actual.chars op s.toList = true ↔ Compares actual op (.text s) := by
  constructor
  · intro h
    by_cases hs : op = .eq → '*' ∉ s.toList
    · rw [compareText_plain hs, Op.test_iff_relates] at h
      exact .text hs h
    · obtain ⟨rfl, hstar⟩ := Classical.not_imp.1 hs
      rw [not_not] at hstar
      rw [compareText_pattern hstar, Text.fits_iff_spread] at h
      exact .pattern hstar h
  · intro h
    cases h with
    | text hs h => rwa [compareText_plain hs, Op.test_iff_relates]
    | pattern hs h => rwa [compareText_pattern hs, Text.fits_iff_spread]

theorem compareNumber_of_converts {actual : Content} {a : Int} (ha : Converts actual a) (op : Op)
    (n : Int) : compareContent actual op (.number n) = op.test a n := by
  rw [compareContent, integer?_eq_some_iff.2 ha]

theorem compareNumber_iff {actual : Content} {op : Op} {n : Int} :
    compareContent actual op (.number n) = true ↔ Compares actual op (.number n) := by
  cases hi : actual.integer? with
  | some a =>
      have ha := integer?_eq_some_iff.1 hi
      rw [compareNumber_of_converts ha, Op.test_iff_relates]
      constructor
      · exact .number ha
      · intro h
        cases h with
        | number hb h =>
            cases hi.symm.trans (integer?_eq_some_iff.2 hb)
            exact h
        | unreadable hnone => exact absurd ha (hnone a)
  | none =>
      have hnone : ∀ a, ¬ Converts actual a := by
        intro a ha
        rw [integer?_eq_some_iff.2 ha] at hi
        cases hi
      simp only [compareContent, hi, beq_iff_eq]
      constructor
      · rintro rfl
        exact .unreadable hnone
      · intro h
        cases h with
        | number hb h => exact absurd hb (hnone _)
        | unreadable _ => rfl

/-- Nothing keeps a comparison from being one of two values in order: the text has no star, and what
stands beside a number is read as an integer. -/
def Plain (actual : Content) : Content → Prop
  | .text s => '*' ∉ s.toList
  | .number _ => ∃ a, Converts actual a

/-- A comparison holds exactly by the rules, and in the plain case the operators go together as
those of a linear order. -/
theorem compareContent_iff_compares :
    (∀ actual op expected, compareContent actual op expected = true ↔
      Compares actual op expected) ∧
    ∀ actual expected, Plain actual expected →
      Op.Ordered fun op => compareContent actual op expected := by
  constructor
  · intro actual op expected
    cases expected with
    | text s => exact compareText_iff
    | number n => exact compareNumber_iff
  · intro actual expected h
    cases expected with
    | text s =>
        have hplain : ∀ op, compareContent actual op (.text s) =
            op.test (folded actual.chars) (folded s.toList) := fun op => compareText_plain fun _ => h
        simp only [hplain]
        exact Op.ordered_test _ _
    | number n =>
        obtain ⟨a, ha⟩ := h
        simp only [compareNumber_of_converts ha]
        exact Op.ordered_test a n

/-- A padded numeral beside a number, and a pattern of three pieces. -/
theorem compareContent_iff_compares_padded :
    Plain (.text " +0_7\n") (.number 9) ∧
      (Op.Ordered fun op => compareContent (.text " +0_7\n") op (.number 9)) ∧
      Compares (.text "Chrome.EXE") .eq (.text "c*M*.exe") := by
  obtain ⟨hrules, hordered⟩ := compareContent_iff_compares
  have hread : Converts (.text " +0_7\n") 7 := integer?_eq_some_iff.1 (by decide +kernel)
  have hfits : compareContent (.text "Chrome.EXE") .eq (.text "c*M*.exe") = true := by
    decide +kernel
  exact ⟨⟨7, hread⟩, hordered _ _ ⟨7, hread⟩, (hrules _ _ _).1 hfits⟩

-- A star does not reach over the end of a line.
example : compareContent (.text "a\nb") .eq (.text "a*b") = false := by decide +kernel

end SocketInventory.Query
