import SocketInventory.Proofs.Query.Narrowing

/-!
# Passes of the scan

The scan of a query text as a loop. It stands at a place of the text, and each pass takes it over a
blank, over a character that starts no lexeme, or over a lexeme, whose token is found. Every pass
goes forward, so the loop ends, and what it has found at the end of the text are the tokens. A blank
behind a text whose quotes all close keeps its tokens apart from those of whatever follows.
-/

namespace SocketInventory.Query

/-! ## One pass -/

/-- The place where the scan of a text stands and the tokens that it has found in front of it. -/
structure Scan where
  place : Nat
  found : List Token
  deriving DecidableEq, Repr

namespace Scan

def start : Scan := ⟨0, []⟩

/-- One pass. At the end of the text there is none, and at a number of too many digits it fails. -/
def pass? (s : List Char) (x : Scan) : Option (Except Text.NumeralFault Scan) :=
  match s.drop x.place with
  | [] => none
  | c :: rest =>
    if Text.isBlank c then some (.ok ⟨x.place + 1, x.found⟩)
    else
      match readLexeme? c rest with
      | some (l, rest') => some (l.token.map fun t => ⟨s.length - rest'.length, x.found ++ [t]⟩)
      | none => some (.ok ⟨x.place + 1, x.found⟩)

end Scan

variable {s : List Char} {x y z : Scan} {n : Nat} {c : Char} {rest : List Char}

theorem readLexeme?_suffix {rest' : List Char} {l : Lexeme}
    (h : readLexeme? c rest = some (l, rest')) : rest' <:+ rest := by
  unfold readLexeme? at h
  split at h
  · rename_i hs
    cases h
    obtain ⟨sign, hsign, -⟩ := readSign?_consumes hs
    have hle := readSign?_rest hs
    rcases sign with _ | ⟨d, sign⟩
    · rw [List.nil_append] at hsign
      rw [← hsign, List.length_cons] at hle
      omega
    · exact ⟨sign, (List.cons.inj hsign).2.symm⟩
  · split at h
    · obtain ⟨⟨body, r⟩, hcut, he⟩ := Option.map_eq_some_iff.1 h
      cases he
      obtain ⟨rfl, -⟩ := Text.cutFirst?_sound hcut
      exact ⟨body ++ [c], by simp⟩
    · split at h
      · cases h
        exact List.dropWhile_suffix _
      · cases h

theorem Scan.pass?_eq_none_iff : x.pass? s = none ↔ s.length ≤ x.place := by
  rw [← List.drop_eq_nil_iff, pass?]
  cases s.drop x.place with
  | nil => simp
  | cons c rest =>
      simp only
      split
      · simp
      · split <;> simp

/-- What a pass can do. It always goes forward, and never over the end of the text. -/
theorem Scan.pass?_cases (h : x.pass? s = some (.ok y)) :
    x.place < y.place ∧ y.place ≤ s.length ∧ ∃ c rest, s.drop x.place = c :: rest ∧
      ((s.drop y.place = rest ∧ (Text.isBlank c ∨ readLexeme? c rest = none) ∧
          y.found = x.found) ∨
        ∃ l t, Text.isBlank c = false ∧ readLexeme? c rest = some (l, s.drop y.place) ∧
          l.token = .ok t ∧ y.found = x.found ++ [t]) := by
  rw [pass?] at h
  cases hdrop : s.drop x.place with
  | nil =>
      rw [hdrop] at h
      cases h
  | cons c rest =>
      rw [hdrop] at h
      have hlength := congrArg List.length hdrop
      simp only [List.length_drop, List.length_cons] at hlength
      have hskip : s.drop (x.place + 1) = rest := by
        rw [← List.drop_drop, hdrop]
        rfl
      simp only at h
      split at h
      · rename_i hc
        cases h
        exact ⟨Nat.lt_succ_self _, by simp only; omega, c, rest, rfl, .inl ⟨hskip, .inl hc, rfl⟩⟩
      · rename_i hc
        split at h
        · rename_i l rest' hr
          obtain ⟨t, ht, rfl⟩ := exists_of_map_ok (Option.some.inj h)
          have hle := readLexeme?_rest hr
          have hsuffix : rest' <:+ s := by
            have hwhole := (List.suffix_cons c rest).trans (hdrop ▸ List.drop_suffix x.place s)
            exact (readLexeme?_suffix hr).trans hwhole
          have hrest : s.drop (s.length - rest'.length) = rest' :=
            (List.suffix_iff_eq_drop.1 hsuffix).symm
          refine ⟨by simp only; omega, Nat.sub_le _ _, c, rest, rfl, .inr ⟨l, t, ?_, ?_, ht, rfl⟩⟩
          · simpa using hc
          · rw [hrest]
            exact hr
        · rename_i hr
          cases h
          exact ⟨Nat.lt_succ_self _, by simp only; omega, c, rest, rfl,
            .inl ⟨hskip, .inr hr, rfl⟩⟩

/-- A pass fails at a lexeme that has no token. -/
theorem Scan.pass?_error {e : Text.NumeralFault} (h : x.pass? s = some (.error e)) :
    ∃ c rest l rest', s.drop x.place = c :: rest ∧ Text.isBlank c = false ∧
      readLexeme? c rest = some (l, rest') ∧ l.token = .error e := by
  rw [pass?] at h
  cases hdrop : s.drop x.place with
  | nil =>
      rw [hdrop] at h
      cases h
  | cons c rest =>
      rw [hdrop] at h
      simp only at h
      split at h
      · cases h
      · rename_i hc
        split at h
        · rename_i l rest' hr
          refine ⟨c, rest, l, rest', rfl, by simpa using hc, hr, ?_⟩
          cases ht : l.token with
          | ok t =>
              rw [ht] at h
              cases h
          | error f =>
              rw [ht] at h
              cases h
              rfl
        · cases h

/-! ## The outcome -/

/-- What the loop comes to from a place on: what it has found, and the tokens of the rest. -/
def Scan.outcome (s : List Char) (x : Scan) : Except Text.NumeralFault (List Token) :=
  ((lexemes (s.drop x.place)).mapM Lexeme.token).map (x.found ++ ·)

theorem Scan.outcome_of_end (h : x.pass? s = none) : x.outcome s = .ok x.found := by
  rw [outcome, List.drop_eq_nil_iff.2 (pass?_eq_none_iff.1 h), lexemes]
  simp [pure, Except.pure, Except.map]

theorem Scan.outcome_of_error {e : Text.NumeralFault} (h : x.pass? s = some (.error e)) :
    x.outcome s = .error e := by
  obtain ⟨c, rest, l, rest', hdrop, hc, hr, ht⟩ := pass?_error h
  rw [outcome, hdrop, lexemes_some hc hr, List.mapM_cons, ht]
  rfl

/-- A pass changes nothing of what the loop comes to. -/
theorem Scan.outcome_of_pass (h : x.pass? s = some (.ok y)) : x.outcome s = y.outcome s := by
  obtain ⟨-, -, c, rest, hdrop, ⟨hrest, hskip, hfound⟩ | ⟨l, t, hc, hr, ht, hfound⟩⟩ :=
    pass?_cases h
  · have hlexemes : lexemes (c :: rest) = lexemes rest := by
      rcases hskip with hc | hr
      · exact lexemes_blank hc
      · exact lexemes_none hr
    rw [outcome, outcome, hdrop, hrest, hlexemes, hfound]
  · rw [outcome, outcome, hdrop, lexemes_some hc hr, List.mapM_cons, ht, hfound]
    cases (lexemes (s.drop y.place)).mapM Lexeme.token with
    | error e => rfl
    | ok ts => simp [bind, Except.bind, pure, Except.pure, Except.map]

/-! ## The loop -/

/-- So many passes take the scan from the start of the text to a place. -/
inductive Reaches (s : List Char) : Nat → Scan → Prop
  | start : Reaches s 0 ⟨0, []⟩
  | pass {n : Nat} {x y : Scan} (hx : Reaches s n x) (h : x.pass? s = some (.ok y)) :
      Reaches s (n + 1) y

theorem Reaches.le_place (h : Reaches s n x) : n ≤ x.place := by
  induction h with
  | start => exact Nat.le_refl _
  | pass _ h ih =>
      obtain ⟨hlt, -⟩ := Scan.pass?_cases h
      omega

theorem Reaches.place_le (h : Reaches s n x) : x.place ≤ s.length := by
  cases h with
  | start => exact Nat.zero_le _
  | pass _ h => exact (Scan.pass?_cases h).2.1

theorem Reaches.outcome (h : Reaches s n x) :
    x.outcome s = (lexemes s).mapM Lexeme.token := by
  induction h with
  | start =>
      rw [Scan.outcome, List.drop_zero]
      cases (lexemes s).mapM Lexeme.token <;> rfl
  | pass _ h ih => rw [← Scan.outcome_of_pass h, ih]

/-- The end token is never found. -/
theorem Reaches.eof_notMem (h : Reaches s n x) : .eof ∉ x.found := by
  induction h with
  | start => exact List.not_mem_nil
  | pass _ h ih =>
      obtain ⟨-, -, c, rest, -, ⟨-, -, hfound⟩ | ⟨l, t, hc, hr, ht, hfound⟩⟩ := Scan.pass?_cases h
      · rwa [hfound]
      · have hl : l ∈ lexemes (c :: rest) := by
          rw [lexemes_some hc hr]
          exact List.mem_cons_self
        have hne := Lexeme.token_ne_eof hl ht
        simp [hfound, ih, hne.symm]

/-- The loop ends: at the end of the text, or at a number of too many digits. -/
theorem Reaches.exists_end {s : List Char} {n : Nat} {x : Scan} (h : Reaches s n x) :
    ∃ m y, Reaches s m y ∧ (y.pass? s = none ∨ ∃ e, y.pass? s = some (.error e)) := by
  cases hpass : x.pass? s with
  | none => exact ⟨n, x, h, .inl hpass⟩
  | some outcome =>
      cases outcome with
      | error e => exact ⟨n, x, h, .inr ⟨e, hpass⟩⟩
      | ok y =>
          obtain ⟨hlt, hle, -⟩ := Scan.pass?_cases hpass
          exact (h.pass hpass).exists_end
termination_by s.length - x.place
decreasing_by omega

/-- The tokens of a text are what the loop has found when it has come to its end. -/
theorem mapM_token_eq_ok_iff {ts : List Token} : (lexemes s).mapM Lexeme.token = .ok ts ↔
    ∃ n, Reaches s n ⟨s.length, ts⟩ := by
  constructor
  · intro h
    obtain ⟨n, y, hy, hend⟩ := Reaches.start.exists_end (s := s)
    rw [← hy.outcome] at h
    rcases hend with hend | ⟨e, hfault⟩
    · rw [Scan.outcome_of_end hend] at h
      cases h
      have hplace := Nat.le_antisymm hy.place_le (Scan.pass?_eq_none_iff.1 hend)
      exact ⟨n, hplace ▸ hy⟩
    · rw [Scan.outcome_of_error hfault] at h
      cases h
  · rintro ⟨n, hy⟩
    rw [← hy.outcome]
    exact Scan.outcome_of_end (Scan.pass?_eq_none_iff.2 (Nat.le_refl _))

/-! ## Quotes that close -/

/-- Every quote at which the scan stands opens a string that is closed within the text. -/
def QuotesClose (s : List Char) : Prop :=
  ∀ n x c rest, Reaches s n x → s.drop x.place = c :: rest → isQuote c → c ∈ rest

theorem mem_of_openQuotes_eq_nil (h : openQuotes (c :: rest) = []) (hq : isQuote c) : c ∈ rest := by
  by_contra hc
  rw [openQuotes_none hq hc] at h
  cases h

/-- A pass leaves the open quotes as they were, unless it goes over one of them. -/
theorem openQuotes_of_pass (h : x.pass? s = some (.ok y))
    (hclose : ∀ c rest, s.drop x.place = c :: rest → isQuote c → c ∈ rest) :
    openQuotes (s.drop x.place) = openQuotes (s.drop y.place) := by
  obtain ⟨-, -, c, rest, hdrop, ⟨hrest, hskip, -⟩ | ⟨l, t, -, hr, -⟩⟩ := Scan.pass?_cases h
  · rw [hdrop, hrest]
    refine openQuotes_other ?_
    rcases hskip with hc | hr
    · exact isQuote_of_isBlank hc
    · by_contra hq
      rw [Bool.not_eq_false] at hq
      rw [readLexeme?_quote hq, Option.map_eq_none_iff, Text.cutFirst?_eq_none_iff] at hr
      exact hr (hclose c rest hdrop hq)
  · rw [hdrop]
    exact openQuotes_readLexeme? hr

theorem Reaches.openQuotes_eq_nil (h : Reaches s n x) (hs : openQuotes s = []) :
    openQuotes (s.drop x.place) = [] := by
  induction h with
  | start => exact hs
  | @pass n x y _ h ih =>
      rw [← openQuotes_of_pass h, ih]
      intro c rest hdrop
      rw [hdrop] at ih
      exact mem_of_openQuotes_eq_nil ih

theorem Reaches.openQuotes_eq (h : Reaches s n x) (hs : QuotesClose s) :
    openQuotes (s.drop x.place) = openQuotes s := by
  induction h with
  | start => rfl
  | @pass n x y hx h ih =>
      rw [← openQuotes_of_pass h fun c rest => hs n x c rest hx, ih]

/-- All quotes of a text close if and only if it leaves none open, wherever the loop comes to the
end of the text. -/
theorem quotesClose_iff (hfit : NumbersFit s) : QuotesClose s ↔ openQuotes s = [] := by
  constructor
  · intro h
    obtain ⟨ts, hts⟩ := exists_mapM_ok fun l hl => Lexeme.token_ok hfit hl
    obtain ⟨n, hend⟩ := mapM_token_eq_ok_iff.1 hts
    rw [← hend.openQuotes_eq h, List.drop_length, openQuotes]
  · intro h n x c rest hx hdrop hq
    have hnone := hx.openQuotes_eq_nil h
    rw [hdrop] at hnone
    exact mem_of_openQuotes_eq_nil hnone hq

/-! ## A blank between two texts -/

variable {a : List Char} {w : Char}

theorem breaks_blank (hw : Text.isBlank w) (b : List Char) : Breaks (w :: b) := by
  rintro _ ⟨⟩
  refine ⟨isWordChar_of_isBlank hw, ?_, ?_, ?_⟩ <;> rintro rfl <;> exact absurd hw (by decide)

theorem lexemes_append_blank (hw : Text.isBlank w) (ha : openQuotes a = []) (b : List Char) :
    lexemes (a ++ w :: b) = lexemes a ++ lexemes b := by
  have hseal : ∀ c ∈ openQuotes a, c ∉ w :: b := by
    rw [ha]
    exact List.forall_mem_nil _
  rw [lexemes_append (breaks_blank hw b) hseal, lexemes_blank hw]

/-- A blank keeps the lexemes of a text apart from those of all others only where no quote is open
in it. -/
theorem openQuotes_eq_nil_iff (hw : Text.isBlank w) :
    openQuotes a = [] ↔ ∀ b, lexemes (a ++ w :: b) = lexemes a ++ lexemes b := by
  constructor
  · exact fun ha b => lexemes_append_blank hw ha b
  · intro h
    by_contra hne
    obtain ⟨q, hq⟩ := List.exists_mem_of_ne_nil _ hne
    obtain ⟨before, c, behind, rfl, hopen, -, -⟩ := exists_opensAt (b := [q]) ⟨q, hq, by simp⟩
    have hother : ∀ {d : Char}, isQuote d → d ≠ w := by
      rintro d hd rfl
      rw [isQuote_of_isBlank hw] at hd
      cases hd
    have hbody : c ∉ behind ++ [w] := by
      simpa [hopen.notMem] using hother hopen.isQuote
    have hseal : ∀ d ∈ openQuotes before, d ∉ c :: (behind ++ [w] ++ c :: [c]) := by
      intro d hd
      have hnotMem := hopen.before_sealed d hd
      have hblank := hother (isQuote_of_mem_openQuotes hd)
      simp_all
    have halone : lexemes [c] = [] := by
      refine (lexemes_none ?_).trans (by rw [lexemes])
      rw [readLexeme?_quote hopen.isQuote]
      rfl
    have hpair : lexemes [c, c] = [.quoted []] := by
      have hquoted := @lexemes_quoted c [] hopen.isQuote (by simp) []
      rwa [lexemes] at hquoted
    -- With two such quotes behind the blank, the first closes the string that was left open, and
    -- without the first text they are a string of their own.
    have hlast := congrArg List.getLast? (h [c, c])
    have hsplit : before ++ c :: behind ++ w :: [c, c] =
        before ++ c :: (behind ++ [w] ++ c :: [c]) := by simp
    rw [hpair, List.getLast?_concat, hsplit, lexemes_append (breaks_quote hopen.isQuote _) hseal,
      lexemes_quoted hopen.isQuote hbody, halone, List.getLast?_concat] at hlast
    simp at hlast

/-- A blank behind a text whose quotes all close keeps its tokens apart from those of any text that
follows. Every pass of the scan goes forward, so the loop ends, with one end token at the end unless
a number has too many digits. -/
theorem tokenize_across_blank :
    (∀ (a b : String) (w : Char), NumbersFit a.toList → NumbersFit b.toList →
      QuotesClose a.toList → Text.isBlank w →
        ∃ first last : List Token,
          tokenize a = .ok (first ++ [.eof]) ∧ tokenize b = .ok (last ++ [.eof]) ∧
          tokenize (a ++ String.singleton w ++ b) = .ok (first ++ (last ++ [.eof]))) ∧
    (∀ (s : List Char) (x y : Scan), x.pass? s = some (.ok y) →
      x.place < y.place ∧ y.place ≤ s.length) ∧
    ∀ s : String, ∃ (n : Nat) (x : Scan),
      n ≤ s.toList.length ∧ Reaches s.toList n x ∧ Token.eof ∉ x.found ∧
      (x.place = s.toList.length ∧ tokenize s = .ok (x.found ++ [.eof]) ∨
        ¬ NumbersFit s.toList ∧
          ∃ e, x.pass? s.toList = some (.error e) ∧ tokenize s = .error e) := by
  refine ⟨fun a b w ha hb hclose hw => ?_, fun s x y h => ?_, fun s => ?_⟩
  · obtain ⟨first, hfirst⟩ := exists_mapM_ok fun l hl => Lexeme.token_ok ha hl
    obtain ⟨last, hlast⟩ := exists_mapM_ok fun l hl => Lexeme.token_ok hb hl
    have hsplit : (a ++ String.singleton w ++ b).toList = a.toList ++ w :: b.toList := by simp
    have hboth : (lexemes (a ++ String.singleton w ++ b).toList).mapM Lexeme.token =
        .ok (first ++ last) := by
      rw [hsplit, lexemes_append_blank hw ((quotesClose_iff ha).1 hclose)]
      exact mapM_append_ok.2 ⟨first, last, hfirst, hlast, rfl⟩
    refine ⟨first, last, tokenize_of_ok hfirst, tokenize_of_ok hlast, ?_⟩
    rw [tokenize_of_ok hboth, List.append_assoc]
  · obtain ⟨hlt, hle, -⟩ := Scan.pass?_cases h
    exact ⟨hlt, hle⟩
  · obtain ⟨n, x, hx, hend⟩ := Reaches.start.exists_end (s := s.toList)
    refine ⟨n, x, hx.le_place.trans hx.place_le, hx, hx.eof_notMem, ?_⟩
    rcases hend with hend | ⟨e, hfault⟩
    · have hplace := Nat.le_antisymm hx.place_le (Scan.pass?_eq_none_iff.1 hend)
      exact .inl ⟨hplace, tokenize_of_ok (hx.outcome.symm.trans (Scan.outcome_of_end hend))⟩
    · right
      have htokenize : tokenize s = .error e :=
        tokenize_of_error (hx.outcome.symm.trans (Scan.outcome_of_error hfault))
      refine ⟨fun hfit => ?_, e, hfault, htokenize⟩
      obtain ⟨ts, hts, -⟩ := tokenize_ok hfit
      rw [htokenize] at hts
      cases hts

/-- Without the blank the bars at the seam would be one sign. The quote inside of the string opens
none, and the one in the second text stays open. -/
theorem tokenize_across_blank_bars :
    (NumbersFit "name=\"it's\"|".toList ∧ NumbersFit "|pid=7 'x".toList ∧
      QuotesClose "name=\"it's\"|".toList ∧ Text.isBlank '\u3000' ∧
      tokenize ("name=\"it's\"|" ++ String.singleton '\u3000' ++ "|pid=7 'x") =
        .ok ([Token.word "name", .op .eq, .string "it's"] ++
          ([Token.word "pid", .op .eq, .number 7, .word "x"] ++ [Token.eof]))) ∧
    (Scan.pass? "name=\"it's\"|".toList ⟨5, [Token.word "name", .op .eq]⟩ =
        some (.ok ⟨11, [Token.word "name", .op .eq, .string "it's"]⟩) ∧
      5 < 11 ∧ 11 ≤ "name=\"it's\"|".toList.length) := by
  have ha : NumbersFit "name=\"it's\"|".toList := numbersFit_of_length (by decide)
  have hb : NumbersFit "|pid=7 'x".toList := numbersFit_of_length (by decide)
  have hclose : QuotesClose "name=\"it's\"|".toList := (quotesClose_iff ha).2 (by decide +kernel)
  have hw : Text.isBlank '\u3000' := by decide
  have hpass : Scan.pass? "name=\"it's\"|".toList ⟨5, [Token.word "name", .op .eq]⟩ =
      some (.ok ⟨11, [Token.word "name", .op .eq, .string "it's"]⟩) := rfl
  obtain ⟨hacross, hforward, -⟩ := tokenize_across_blank
  obtain ⟨first, last, hfirst, hlast, hboth⟩ := hacross _ _ _ ha hb hclose hw
  have hfirst' : tokenize "name=\"it's\"|" =
      .ok ([Token.word "name", .op .eq, .string "it's"] ++ [Token.eof]) :=
    ok_of_toOption (by decide +kernel)
  have hlast' : tokenize "|pid=7 'x" =
      .ok ([Token.word "pid", .op .eq, .number 7, .word "x"] ++ [Token.eof]) :=
    ok_of_toOption (by decide +kernel)
  rw [hfirst', Except.ok.injEq, List.append_left_inj] at hfirst
  rw [hlast', Except.ok.injEq, List.append_left_inj] at hlast
  rw [← hfirst, ← hlast] at hboth
  exact ⟨⟨ha, hb, hclose, hw, hboth⟩, hpass, hforward _ _ _ hpass⟩

end SocketInventory.Query
