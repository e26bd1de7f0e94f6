import Mathlib
import SocketInventory.Text.Blank
import SocketInventory.Text.Lines

/-!
# Cutting texts

Where a text is cut at a character, at a run of characters, and into lines.
-/

namespace SocketInventory.Text

/-! ## Runs of characters -/

-- Decided along the text: there is also an instance that runs through all characters.
instance decidableForallMem (p : Char → Prop) [DecidablePred p] (s : List Char) :
    Decidable (∀ c ∈ s, p c) :=
  List.decidableBAll p s

section Runs

variable {p : Char → Bool} {b : List Char}

/-- A run ends where a text begins whose first character does not belong to it. -/
theorem takeWhile_append_stop (hb : ∀ c, b.head? = some c → p c = false) (s : List Char) :
    (s ++ b).takeWhile p = s.takeWhile p := by
  induction s with
  | nil =>
      rcases b with _ | ⟨c, b⟩
      · rfl
      · simp [hb c rfl]
  | cons c s ih => simp only [List.cons_append, List.takeWhile_cons, ih]

theorem dropWhile_append_stop (hb : ∀ c, b.head? = some c → p c = false) (s : List Char) :
    (s ++ b).dropWhile p = s.dropWhile p ++ b := by
  induction s with
  | nil =>
      rcases b with _ | ⟨c, b⟩
      · rfl
      · simp [hb c rfl]
  | cons c s ih =>
      simp only [List.cons_append, List.dropWhile_cons, ih]
      split <;> rfl

end Runs

/-! ## Cuts -/

theorem cutFirst?_mid {c : Char} {first : List Char} (hc : c ∉ first) (rest : List Char) :
    cutFirst? c (first ++ c :: rest) = some (first, rest) := by
  have hfirst : ∀ x ∈ first, (x != c) = true := by
    intro x hx
    rw [bne_iff_ne]
    rintro rfl
    exact hc hx
  simp [cutFirst?, List.dropWhile_append_of_pos hfirst, List.takeWhile_append_of_pos hfirst]

theorem cutFirst?_sound {c : Char} {s first rest : List Char}
    (h : cutFirst? c s = some (first, rest)) : s = first ++ c :: rest ∧ c ∉ first := by
  unfold cutFirst? at h
  split at h
  · cases h
  · rename_i d rest' hd
    cases h
    have hdc : d = c := by
      have := List.head?_dropWhile_not (fun x => x != c) s
      simpa [hd] using this
    refine ⟨?_, fun hc => ?_⟩
    · subst hdc
      rw [← hd, List.takeWhile_append_dropWhile]
    · simpa using List.mem_takeWhile_imp hc

theorem cutFirst?_eq_none_iff {c : Char} {s : List Char} : cutFirst? c s = none ↔ c ∉ s := by
  constructor
  · intro h hc
    obtain ⟨first, rest, rfl, hfirst⟩ := List.eq_append_cons_of_mem hc
    rw [cutFirst?_mid hfirst] at h
    cases h
  · intro hc
    cases h : cutFirst? c s with
    | none => rfl
    | some x =>
        obtain ⟨rfl, -⟩ := cutFirst?_sound h
        exact absurd (by simp) hc

theorem cutFirst?_append {c : Char} {s first rest : List Char}
    (h : cutFirst? c s = some (first, rest)) (b : List Char) :
    cutFirst? c (s ++ b) = some (first, rest ++ b) := by
  obtain ⟨rfl, hc⟩ := cutFirst?_sound h
  rw [List.append_assoc]
  exact cutFirst?_mid hc (rest ++ b)

theorem cutLast?_mid {c : Char} {last : List Char} (hc : c ∉ last) (first : List Char) :
    cutLast? c (first ++ c :: last) = some (first, last) := by
  have hreverse : (first ++ c :: last).reverse = last.reverse ++ c :: first.reverse := by simp
  rw [cutLast?, hreverse, cutFirst?_mid (by simpa using hc)]
  simp

theorem cutLast?_sound {c : Char} {s first last : List Char}
    (h : cutLast? c s = some (first, last)) : s = first ++ c :: last ∧ c ∉ last := by
  obtain ⟨⟨front, back⟩, hcut, hpair⟩ := Option.map_eq_some_iff.1 h
  cases hpair
  obtain ⟨hs, hc⟩ := cutFirst?_sound hcut
  refine ⟨?_, by simpa using hc⟩
  rw [← List.reverse_reverse s, hs]
  simp

theorem cutLast?_eq_none_iff {c : Char} {s : List Char} : cutLast? c s = none ↔ c ∉ s := by
  rw [cutLast?, Option.map_eq_none_iff, cutFirst?_eq_none_iff, List.mem_reverse]

/-- There is one way to cut a text at the last occurrence of a character. -/
theorem append_cons_inj {c : Char} {first first' last last' : List Char} (hc : c ∉ last)
    (hc' : c ∉ last') (h : first ++ c :: last = first' ++ c :: last') :
    first = first' ∧ last = last' := by
  have hcut := cutLast?_mid hc first
  rw [h, cutLast?_mid hc'] at hcut
  cases hcut
  exact ⟨rfl, rfl⟩

/-! ## Pieces -/

theorem splitAt_of_notMem {sep : Char} {piece : List Char} (h : sep ∉ piece) :
    splitAt sep piece = [piece] := by
  induction piece with
  | nil => rfl
  | cons c piece ih =>
      obtain ⟨hc, hpiece⟩ := List.ne_and_not_mem_of_not_mem_cons h
      rw [splitAt, if_neg (Ne.symm hc), ih hpiece]

theorem splitAt_append {sep : Char} {piece : List Char} (h : sep ∉ piece) (rest : List Char) :
    splitAt sep (piece ++ sep :: rest) = piece :: splitAt sep rest := by
  induction piece with
  | nil => rw [List.nil_append, splitAt, if_pos rfl]
  | cons c piece ih =>
      obtain ⟨hc, hpiece⟩ := List.ne_and_not_mem_of_not_mem_cons h
      rw [List.cons_append, splitAt, if_neg (Ne.symm hc), ih hpiece]

theorem intercalate_cons_cons (sep piece next : List Char) (pieces : List (List Char)) :
    sep.intercalate (piece :: next :: pieces) =
      piece ++ (sep ++ sep.intercalate (next :: pieces)) := by
  simp

/-- Pieces that were joined by a character which none of them holds come apart again. -/
theorem splitAt_intercalate {sep : Char} {pieces : List (List Char)} (hne : pieces ≠ [])
    (h : ∀ piece ∈ pieces, sep ∉ piece) : splitAt sep ([sep].intercalate pieces) = pieces := by
  induction pieces with
  | nil => exact absurd rfl hne
  | cons piece pieces ih =>
      have hpiece := h piece (by simp)
      rcases pieces with _ | ⟨next, pieces⟩
      · simpa using splitAt_of_notMem hpiece
      · rw [intercalate_cons_cons, List.singleton_append, splitAt_append hpiece,
          ih (by simp) fun p hp => h p (by simp [hp])]

theorem splitAt_ne_nil (sep : Char) (s : List Char) : splitAt sep s ≠ [] := by
  cases s with
  | nil => simp [splitAt]
  | cons c s =>
      rw [splitAt]
      split
      · simp
      · split <;> simp

theorem splitAt_sep (sep : Char) (s : List Char) :
    splitAt sep (sep :: s) = [] :: splitAt sep s := by
  rw [splitAt, if_pos rfl]

theorem exists_splitAt_cons {sep c : Char} (hc : c ≠ sep) (s : List Char) :
    ∃ piece pieces, splitAt sep s = piece :: pieces ∧
      splitAt sep (c :: s) = (c :: piece) :: pieces := by
  obtain ⟨piece, pieces, hs⟩ := List.exists_cons_of_ne_nil (splitAt_ne_nil sep s)
  refine ⟨piece, pieces, hs, ?_⟩
  rw [splitAt, if_neg hc, hs]

/-- There is one piece more than separators. -/
theorem length_splitAt (sep : Char) (s : List Char) :
    (splitAt sep s).length = s.count sep + 1 := by
  induction s with
  | nil => rfl
  | cons c s ih =>
      rcases eq_or_ne c sep with rfl | hc
      · rw [splitAt_sep, List.length_cons, ih, List.count_cons_self]
      · obtain ⟨piece, pieces, hs, hcs⟩ := exists_splitAt_cons hc s
        rw [hcs, List.count_cons_of_ne hc, ← ih, hs, List.length_cons, List.length_cons]

theorem count_intercalate (sep : Char) (piece : List Char) (pieces : List (List Char)) :
    ([sep].intercalate (piece :: pieces)).count sep =
      pieces.length + ((piece :: pieces).map (List.count sep)).sum := by
  induction pieces generalizing piece with
  | nil => simp
  | cons next pieces ih =>
      have hsum : ((piece :: next :: pieces).map (List.count sep)).sum =
          piece.count sep + ((next :: pieces).map (List.count sep)).sum := List.sum_cons
      rw [intercalate_cons_cons, List.count_append, List.count_append, List.count_singleton_self,
        ih, hsum, List.length_cons]
      omega

/-- Joined pieces come apart into as many only if none holds what stands between them. -/
theorem notMem_of_length_splitAt {sep : Char} {pieces : List (List Char)} (hne : pieces ≠ [])
    (h : (splitAt sep ([sep].intercalate pieces)).length = pieces.length) :
    ∀ piece ∈ pieces, sep ∉ piece := by
  obtain ⟨first, rest, rfl⟩ := List.exists_cons_of_ne_nil hne
  rw [length_splitAt, count_intercalate, List.length_cons] at h
  have hsum : ((first :: rest).map (List.count sep)).sum = 0 := by omega
  intro piece hpiece
  rw [← List.count_eq_zero]
  exact List.sum_eq_zero_iff.1 hsum _ (List.mem_map_of_mem hpiece)

/-- The pieces make the text again. -/
theorem intercalate_splitAt (sep : Char) (s : List Char) :
    [sep].intercalate (splitAt sep s) = s := by
  induction s with
  | nil => rfl
  | cons c s ih =>
      rcases eq_or_ne c sep with rfl | hc
      · obtain ⟨piece, pieces, hs⟩ := List.exists_cons_of_ne_nil (splitAt_ne_nil c s)
        rw [splitAt_sep, hs, intercalate_cons_cons, ← hs, ih]
        rfl
      · obtain ⟨piece, pieces, hs, hcs⟩ := exists_splitAt_cons hc s
        rw [hs] at ih
        rw [hcs, ← ih]
        cases pieces with
        | nil => simp
        | cons next pieces => simp only [intercalate_cons_cons, List.cons_append]

/-- A joined text holds the characters of its pieces and the character between them. -/
theorem mem_intercalate {sep c : Char} {pieces : List (List Char)}
    (h : c ∈ [sep].intercalate pieces) : c = sep ∨ ∃ piece ∈ pieces, c ∈ piece := by
  induction pieces with
  | nil => cases h
  | cons piece pieces ih =>
      rcases pieces with _ | ⟨next, pieces⟩
      · exact .inr ⟨piece, by simp, by simpa using h⟩
      · rw [intercalate_cons_cons, List.mem_append, List.mem_append, List.mem_singleton] at h
        rcases h with h | h | h
        · exact .inr ⟨piece, by simp, h⟩
        · exact .inl h
        · rcases ih h with hsep | ⟨p, hp, hc⟩
          · exact .inl hsep
          · exact .inr ⟨p, List.mem_cons_of_mem _ hp, hc⟩

/-! ## Trimming -/

theorem dropWhile_eq_self {p : Char → Bool} {s : List Char}
    (hs : ∀ c, s.head? = some c → p c = false) : s.dropWhile p = s := by
  rcases s with _ | ⟨c, s⟩
  · rfl
  · rw [List.dropWhile_cons_of_neg (by simp [hs c rfl])]

theorem trim_append {indent s : List Char} (hi : ∀ c ∈ indent, isBlank c)
    (hs : ∀ c, s.head? = some c → isBlank c = false) : trim (indent ++ s) = trimEnd s := by
  simp only [trim, trimBy, trimEnd, List.dropWhile_append_of_pos hi, dropWhile_eq_self hs]

theorem trimEnd_append {s : List Char} (hs : ∃ c ∈ s, isBlank c = false) (a : List Char) :
    trimEnd (a ++ s) = a ++ trimEnd s := by
  obtain ⟨c, hc, hblank⟩ := hs
  have hne : (s.reverse.dropWhile isBlank).isEmpty = false := by
    rw [← Bool.not_eq_true, List.isEmpty_iff, List.dropWhile_eq_nil_iff]
    intro hall
    simp [hall c (by simpa using hc)] at hblank
  rw [trimEnd, List.reverse_append, List.dropWhile_append, hne, if_neg (by simp),
    List.reverse_append, List.reverse_reverse]
  rfl

theorem trimEnd_eq_self {s : List Char} (hs : ∀ c, s.getLast? = some c → isBlank c = false) :
    trimEnd s = s := by
  rw [trimEnd, dropWhile_eq_self, List.reverse_reverse]
  intro c hc
  exact hs c (by rwa [List.head?_reverse] at hc)

theorem trimEnd_append_blanks {b : List Char} (hb : ∀ c ∈ b, isBlank c) (s : List Char) :
    trimEnd (s ++ b) = trimEnd s := by
  rw [trimEnd, List.reverse_append, List.dropWhile_append_of_pos (by simpa using hb), trimEnd]

/-- What is trimmed off the end are blanks. -/
theorem exists_trimEnd (s : List Char) :
    ∃ after, s = trimEnd s ++ after ∧ ∀ c ∈ after, isBlank c := by
  refine ⟨(s.reverse.takeWhile isBlank).reverse, ?_, fun c hc => ?_⟩
  · rw [trimEnd, ← List.reverse_append, List.takeWhile_append_dropWhile, List.reverse_reverse]
  · exact List.mem_takeWhile_imp (List.mem_reverse.1 hc)

theorem mem_of_mem_trimEnd {s : List Char} {c : Char} (h : c ∈ trimEnd s) : c ∈ s := by
  obtain ⟨after, hs, -⟩ := exists_trimEnd s
  rw [hs]
  exact List.mem_append_left after h

theorem head?_trimEnd {s : List Char} {c : Char} (h : (trimEnd s).head? = some c) :
    s.head? = some c := by
  obtain ⟨after, hs, -⟩ := exists_trimEnd s
  rw [hs, List.head?_append, h]
  rfl

theorem exists_trim (s : List Char) : ∃ before after, s = before ++ (trim s ++ after) ∧
    (∀ c ∈ before, isBlank c) ∧ ∀ c ∈ after, isBlank c := by
  obtain ⟨after, hs, hafter⟩ := exists_trimEnd (s.dropWhile isBlank)
  refine ⟨s.takeWhile isBlank, after, ?_, fun c hc => List.mem_takeWhile_imp hc, hafter⟩
  rw [trim, trimBy, ← trimEnd, ← hs, List.takeWhile_append_dropWhile]

/-! ## Lines -/

theorem isBlank_of_isLineEnd {c : Char} (hc : isLineEnd c) : isBlank c := by
  simp only [isLineEnd, Bool.or_eq_true, Bool.and_eq_true, decide_eq_true_eq, beq_iff_eq] at hc
  simp only [isBlank, CodePoints.has, blanks, List.any_cons, List.any_nil, Bool.or_false,
    Bool.or_eq_true, Bool.and_eq_true, decide_eq_true_eq]
  omega

/-- The text has no boundary of a line. -/
def InLine (s : List Char) : Prop := ∀ c ∈ s, isLineEnd c = false

instance (s : List Char) : Decidable (InLine s) :=
  decidableForallMem _ s

theorem inLine_cons_iff {c : Char} {s : List Char} :
    InLine (c :: s) ↔ isLineEnd c = false ∧ InLine s :=
  List.forall_mem_cons

theorem inLine_append_iff {a b : List Char} : InLine (a ++ b) ↔ InLine a ∧ InLine b :=
  List.forall_mem_append

theorem InLine.of_nonblank {s : List Char} (hs : ∀ c ∈ s, isBlank c = false) : InLine s := by
  intro c hc
  rw [← Bool.not_eq_true]
  intro hend
  have hblank := hs c hc
  rw [isBlank_of_isLineEnd hend] at hblank
  cases hblank

theorem InLine.trimEnd {s : List Char} (hs : InLine s) : InLine (trimEnd s) :=
  fun c hc => hs c (mem_of_mem_trimEnd hc)

theorem InLine.lineFeed_notMem {s : List Char} (hs : InLine s) : '\n' ∉ s := by
  intro hlf
  exact absurd (hs '\n' hlf) (by decide)

theorem InLine.of_digits {s : List Char} (hs : ∀ c ∈ s, c.isDigit) : InLine s := by
  intro c hc
  obtain ⟨hlo, hhi⟩ := Char.isDigit_iff_toNat.1 (hs c hc)
  simp only [Char.reduceToNat] at hlo hhi
  simp only [isLineEnd, Bool.or_eq_false_iff, Bool.and_eq_false_iff, decide_eq_false_iff_not,
    beq_eq_false_iff_ne]
  omega

theorem splitLines_cons {c : Char} (hc : isLineEnd c = false) {s first : List Char}
    {rest : List (List Char)} (h : splitLines s = first :: rest) :
    splitLines (c :: s) = (c :: first) :: rest := by
  rw [splitLines]
  · simp [hc, h]
  · rintro t rfl
    exact absurd hc (by decide)

/-- What stands before the first boundary belongs to the first line. -/
theorem splitLines_append {a : List Char} (ha : InLine a) {s first : List Char}
    {rest : List (List Char)} (h : splitLines s = first :: rest) :
    splitLines (a ++ s) = (a ++ first) :: rest := by
  induction a with
  | nil => exact h
  | cons c a ih => exact splitLines_cons (ha c (by simp)) (ih (inLine_cons_iff.1 ha).2)

theorem splitLines_lineEnd {c : Char} (hc : isLineEnd c) (s : List Char) :
    ∃ rest, splitLines (c :: s) = [] :: rest := by
  by_cases hpair : ∃ t, c = '\r' ∧ s = '\n' :: t
  · obtain ⟨t, rfl, rfl⟩ := hpair
    exact ⟨splitLines t, by rw [splitLines]⟩
  · refine ⟨splitLines s, ?_⟩
    rw [splitLines]
    · simp [hc]
    · rintro t rfl rfl
      exact hpair ⟨t, rfl, rfl⟩

/-- The first boundary ends the first line. -/
theorem splitLines_cut {a : List Char} (ha : InLine a) {c : Char} (hc : isLineEnd c)
    (s : List Char) : ∃ rest, splitLines (a ++ c :: s) = a :: rest := by
  obtain ⟨rest, h⟩ := splitLines_lineEnd hc s
  exact ⟨rest, by rw [splitLines_append ha h, List.append_nil]⟩

theorem splitLines_single {a : List Char} (ha : InLine a) (hne : a ≠ []) :
    splitLines a = [a] := by
  obtain rfl | ⟨a, c, rfl⟩ := a.eq_nil_or_concat
  · exact absurd rfl hne
  · rw [List.concat_eq_append] at ha ⊢
    have hc : splitLines [c] = [[c]] := by
      rw [splitLines]
      · simp [ha c (by simp), splitLines]
      · simp
    exact splitLines_append (fun d hd => ha d (by simp [hd])) hc

theorem splitLines_lineFeed {a : List Char} (ha : InLine a) (s : List Char) :
    splitLines (a ++ '\n' :: s) = a :: splitLines s := by
  have hcut : splitLines ('\n' :: s) = [] :: splitLines s := by
    rw [splitLines]
    · rfl
    · simp
  rw [splitLines_append ha hcut, List.append_nil]

/-- A boundary at the end opens no line. -/
theorem splitLines_ended {a : List Char} (ha : InLine a) : splitLines (a ++ ['\n']) = [a] :=
  splitLines_lineFeed ha []

theorem exists_splitLines (c : Char) (s : List Char) :
    ∃ first rest, splitLines (c :: s) = first :: rest := by
  by_cases hc : isLineEnd c
  · obtain ⟨rest, h⟩ := splitLines_lineEnd hc s
    exact ⟨[], rest, h⟩
  · cases hs : splitLines s with
    | cons first rest => exact ⟨_, _, splitLines_cons (by simpa using hc) hs⟩
    | nil =>
        refine ⟨[c], [], ?_⟩
        rw [splitLines, if_neg hc, hs]
        rintro t rfl
        exact absurd hc (by decide)

/-- A line feed parts the lines of a text. -/
theorem splitLines_append_lineFeed (a s : List Char) :
    splitLines (a ++ '\n' :: s) = splitLines (a ++ ['\n']) ++ splitLines s := by
  have hempty : splitLines ('\n' :: s) = [] :: splitLines s :=
    @splitLines_lineFeed [] (by simp [InLine]) s
  have hother : ∀ c rest, isLineEnd c = false →
      splitLines (rest ++ '\n' :: s) = splitLines (rest ++ ['\n']) ++ splitLines s →
      splitLines (c :: rest ++ '\n' :: s) = splitLines (c :: rest ++ ['\n']) ++ splitLines s := by
    intro c rest hc ih
    obtain ⟨first, more, hfirst⟩ : ∃ first more, splitLines (rest ++ ['\n']) = first :: more := by
      cases rest with
      | nil => exact exists_splitLines _ _
      | cons d rest => exact exists_splitLines _ _
    rw [hfirst] at ih
    rw [List.cons_append, List.cons_append, splitLines_cons hc hfirst, splitLines_cons hc ih]
    rfl
  induction a using splitLines.induct with
  | case1 => exact hempty
  | case2 rest ih => simp only [List.cons_append, splitLines, ih]
  | case3 c rest hpair hend ih =>
      by_cases hlast : c = '\r' ∧ rest = []
      · obtain ⟨rfl, rfl⟩ := hlast
        simp only [List.cons_append, List.nil_append, splitLines]
      · -- A line feed behind the text makes no pair with its last character.
        have hcut : ∀ s, splitLines (c :: (rest ++ '\n' :: s)) =
            [] :: splitLines (rest ++ '\n' :: s) := by
          intro s
          rw [splitLines, if_pos hend]
          rintro t rfl hrest
          rcases rest with _ | ⟨d, rest⟩
          · exact hlast ⟨rfl, rfl⟩
          · cases hrest
            exact hpair _ rfl rfl
        rw [List.cons_append, List.cons_append, hcut, hcut, ih, List.cons_append]
  | case4 c rest _ hend _ ih => exact hother c rest (by simpa using hend) ih
  | case5 c rest _ hend _ _ _ ih => exact hother c rest (by simpa using hend) ih
/-- Lines that were joined by line feeds come apart again, but for an empty one at the end. -/
theorem filter_splitLines {p : List Char → Bool} (hp : p [] = false) {lines : List (List Char)}
    (h : ∀ line ∈ lines, InLine line) :
    (splitLines (['\n'].intercalate lines)).filter p = lines.filter p := by
  induction lines with
  | nil => rfl
  | cons line lines ih =>
      have hline := h line (by simp)
      rcases lines with _ | ⟨next, lines⟩
      · rcases line with _ | ⟨c, line⟩
        · rw [List.filter_cons_of_neg (by simp [hp])]
          rfl
        · have hsingle := splitLines_single hline (by simp)
          simpa using congrArg (List.filter p) hsingle
      · rw [intercalate_cons_cons, List.singleton_append, splitLines_lineFeed hline,
          List.filter_cons, List.filter_cons, ih fun l hl => h l (by simp [hl])]

end SocketInventory.Text
