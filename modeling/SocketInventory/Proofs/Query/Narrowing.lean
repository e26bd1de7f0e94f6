import SocketInventory.Proofs.Query.Acceptance
import SocketInventory.Proofs.Query.Nesting

/-!
# A preset narrowed by a filter

The two texts are put together in parentheses. Where no quote left open in the preset is met again
in the filter, the tokens of the whole are those of the parts, and where the filter is a query on
its own, the whole is the conjunction of both. A quote left open in the value of a comparison lets
a filter close it and escape.
-/

namespace SocketInventory.Query

/-! ## Texts -/

/-- What stands between a preset and a filter. -/
def seam : List Char := [')', ' ', '&', '&', ' ', '(']

theorem toList_narrow (preset filter : String) : (Filter.narrow preset filter).toList =
    '(' :: (preset.toList ++ (seam ++ (filter.toList ++ [')']))) := by
  simp [Filter.narrow, seam]

/-- No quote left open in the first text is met in the second. -/
def Sealed (a b : List Char) : Prop := ∀ c ∈ openQuotes a, c ∉ b

theorem isQuote_notMem {c : Char} (hc : isQuote c) {s : List Char}
    (hs : ∀ d ∈ s, isQuote d = false) : c ∉ s := by
  intro h
  simp [hs c h] at hc

theorem lexemes_lparen (s : List Char) : lexemes ('(' :: s) = .sign .lparen :: lexemes s :=
  lexemes_sign (by decide) rfl

theorem lexemes_rparen (s : List Char) : lexemes (')' :: s) = .sign .rparen :: lexemes s :=
  lexemes_sign (by decide) rfl

theorem lexemes_seam (s : List Char) :
    lexemes (seam ++ s) = .sign .rparen :: .sign .and :: .sign .lparen :: lexemes s := by
  have hand : lexemes ('&' :: '&' :: ' ' :: '(' :: s) = .sign .and :: lexemes (' ' :: '(' :: s) :=
    lexemes_sign (by decide) rfl
  have hblank : ∀ rest, lexemes (' ' :: rest) = lexemes rest := fun _ => lexemes_blank (by decide)
  simp only [seam, List.cons_append, List.nil_append, lexemes_rparen, hblank, hand, lexemes_lparen]

theorem breaks_rparen (s : List Char) : Breaks (')' :: s) := by
  rintro c hc
  cases hc
  decide

theorem breaks_seam (s : List Char) : Breaks (seam ++ s) := breaks_rparen _

theorem lexemes_append_rparen (s : List Char) :
    lexemes (s ++ [')']) = lexemes s ++ [.sign .rparen] := by
  have hseal : ∀ c ∈ openQuotes s, c ∉ [')'] := by
    intro c hc
    exact isQuote_notMem (isQuote_of_mem_openQuotes hc) (by decide)
  rw [lexemes_append (breaks_rparen []) hseal, lexemes_rparen, lexemes]

/-- The lexemes of the whole, no quote of the preset being closed by the filter. -/
theorem lexemes_narrow {preset filter : String} (hs : Sealed preset.toList filter.toList) :
    lexemes (Filter.narrow preset filter).toList =
      .sign .lparen :: (lexemes preset.toList ++
        .sign .rparen :: .sign .and :: .sign .lparen :: (lexemes filter.toList ++
          [.sign .rparen])) := by
  have hseal : ∀ c ∈ openQuotes preset.toList, c ∉ seam ++ (filter.toList ++ [')']) := by
    intro c hc
    have hq := isQuote_of_mem_openQuotes hc
    simp only [List.mem_append, not_or]
    exact ⟨isQuote_notMem hq (by decide), hs c hc, isQuote_notMem hq (by decide)⟩
  rw [toList_narrow, lexemes_lparen, lexemes_append (breaks_seam _) hseal, lexemes_seam,
    lexemes_append_rparen]

/-! ## Open quotes -/

theorem Sealed.cons {before b : List Char} {d : Char} (h : Sealed before b)
    (hd : isQuote d → d ∉ before ∧ d ∉ b) : Sealed (d :: before) b := by
  intro x hx
  by_cases hq : isQuote d
  · rw [openQuotes_none hq (hd hq).1, List.mem_cons] at hx
    rcases hx with rfl | hx
    · exact (hd hq).2
    · exact h x hx
  · rw [openQuotes_other (by simpa using hq)] at hx
    exact h x hx

/-- The text goes on with a quote, met outside a string, that stays open in it. -/
structure OpensAt (before : List Char) (c : Char) (behind : List Char) : Prop where
  isQuote : isQuote c
  notMem : c ∉ behind
  before_sealed : Sealed before (c :: behind)

theorem OpensAt.cons {before behind : List Char} {c d : Char} (h : OpensAt before c behind)
    (hd : Query.isQuote d → d ∉ before ++ c :: behind) : OpensAt (d :: before) c behind := by
  refine ⟨h.isQuote, h.notMem, h.before_sealed.cons fun hq => ?_⟩
  simpa only [List.mem_append, not_or] using hd hq

/-- Where a quote left open is met again, the first such quote is found. -/
theorem exists_opensAt {s b : List Char} (h : ∃ c ∈ openQuotes s, c ∈ b) :
    ∃ before c behind, s = before ++ c :: behind ∧ OpensAt before c behind ∧ c ∈ b ∧
      Sealed before b := by
  induction s using openQuotes.induct with
  | case1 => simp [openQuotes] at h
  | case2 d rest hd body rest' hcut _ ih =>
      rw [openQuotes_some hd hcut] at h
      obtain ⟨before, c, behind, rfl, hopen, hc, hs⟩ := ih h
      obtain ⟨rfl, hbody⟩ := Text.cutFirst?_sound hcut
      have hbefore : openQuotes (d :: (body ++ d :: before)) = openQuotes before :=
        openQuotes_some hd (Text.cutFirst?_mid hbody before)
      refine ⟨d :: (body ++ d :: before), c, behind, by simp, ⟨hopen.isQuote, hopen.notMem, ?_⟩, hc,
        ?_⟩
      · intro x hx
        rw [hbefore] at hx
        exact hopen.before_sealed x hx
      · intro x hx
        rw [hbefore] at hx
        exact hs x hx
  | case3 d rest hd hcut ih =>
      have hd' := Text.cutFirst?_eq_none_iff.1 hcut
      by_cases hdb : d ∈ b
      · refine ⟨[], d, rest, rfl, ⟨hd, hd', ?_⟩, hdb, ?_⟩
        · simp [Sealed, openQuotes]
        · simp [Sealed, openQuotes]
      · obtain ⟨x, hx, hxb⟩ := h
        rw [openQuotes_none hd hd', List.mem_cons] at hx
        have hx' : x ∈ openQuotes rest := by
          rcases hx with rfl | hx
          · exact absurd hxb hdb
          · exact hx
        obtain ⟨before, c, behind, rfl, hopen, hc, hs⟩ := ih ⟨x, hx', hxb⟩
        have hseal : Sealed (d :: before) b :=
          hs.cons fun _ => ⟨fun hmem => hd' (by simp [hmem]), hdb⟩
        exact ⟨d :: before, c, behind, rfl, hopen.cons fun _ => hd', hc, hseal⟩
  | case4 d rest hd ih =>
      rw [openQuotes_other (by simpa using hd)] at h
      obtain ⟨before, c, behind, rfl, hopen, hc, hs⟩ := ih h
      exact ⟨d :: before, c, behind, rfl, hopen.cons fun hq => absurd hq hd, hc,
        hs.cons fun hq => absurd hq hd⟩

theorem breaks_quote {c : Char} (hc : isQuote c) (s : List Char) : Breaks (c :: s) := by
  rintro d hd
  cases hd
  simp only [isQuote, Bool.or_eq_true, beq_iff_eq] at hc
  rcases hc with rfl | rfl <;> decide

/-- The open quote itself is passed over. -/
theorem OpensAt.lexemes {before behind : List Char} {c : Char} (h : OpensAt before c behind) :
    Query.lexemes (before ++ c :: behind) = Query.lexemes before ++ Query.lexemes behind := by
  rw [lexemes_append (breaks_quote h.isQuote behind) h.before_sealed]
  congr 1
  refine lexemes_none ?_
  rw [readLexeme?_quote h.isQuote, Text.cutFirst?_eq_none_iff.2 h.notMem]
  rfl

/-- A quote of the preset that the filter closes: all between the two is one string. -/
theorem OpensAt.lexemes_narrow {preset filter : String} {before behind first last : List Char}
    {c : Char} (h : OpensAt before c behind) (hp : preset.toList = before ++ c :: behind)
    (hf : filter.toList = first ++ c :: last) (hc : c ∉ first)
    (hs : Sealed before filter.toList) :
    Query.lexemes (Filter.narrow preset filter).toList =
      .sign .lparen :: (Query.lexemes before ++
        .quoted (behind ++ (seam ++ first)) :: (Query.lexemes last ++ [.sign .rparen])) := by
  have hsplit : before ++ c :: behind ++ (seam ++ (first ++ c :: last ++ [')'])) =
      before ++ c :: (behind ++ (seam ++ first) ++ c :: (last ++ [')'])) := by simp
  have hbody : c ∉ behind ++ (seam ++ first) := by
    simp only [List.mem_append, not_or]
    exact ⟨h.notMem, isQuote_notMem h.isQuote (by decide), hc⟩
  have hseal : ∀ x ∈ openQuotes before,
      x ∉ c :: (behind ++ (seam ++ first) ++ c :: (last ++ [')'])) := by
    intro x hx
    have hx1 := h.before_sealed x hx
    have hx2 := hs x hx
    have hq := isQuote_of_mem_openQuotes hx
    have hx3 := isQuote_notMem hq (s := seam) (by decide)
    have hx4 : x ≠ ')' := by
      rintro rfl
      exact absurd hq (by decide)
    rw [hf] at hx2
    simp_all
  rw [toList_narrow, lexemes_lparen, hp, hf, hsplit,
    lexemes_append (breaks_quote h.isQuote _) hseal, lexemes_quoted h.isQuote hbody,
    lexemes_append_rparen]

/-! ## Sealed presets -/

/-- The tokens of a sealed combination. -/
theorem mapM_token_narrow {preset filter : String} (hs : Sealed preset.toList filter.toList)
    {tokens : List Token}
    (h : (Query.lexemes (Filter.narrow preset filter).toList).mapM Lexeme.token = .ok tokens) :
    ∃ tp tf, (Query.lexemes preset.toList).mapM Lexeme.token = .ok tp ∧
      (Query.lexemes filter.toList).mapM Lexeme.token = .ok tf ∧
      tokens = .lparen :: (tp ++ .rparen :: .and :: .lparen :: (tf ++ [.rparen])) := by
  rw [Query.lexemes_narrow hs] at h
  obtain ⟨_, _, hl, h1, rfl⟩ := mapM_cons_ok.1 h
  obtain ⟨tp, _, htp, h2, rfl⟩ := mapM_append_ok.1 h1
  obtain ⟨_, _, hr, h3, rfl⟩ := mapM_cons_ok.1 h2
  obtain ⟨_, _, ha, h4, rfl⟩ := mapM_cons_ok.1 h3
  obtain ⟨_, _, hl', h5, rfl⟩ := mapM_cons_ok.1 h4
  obtain ⟨tf, _, htf, h6, rfl⟩ := mapM_append_ok.1 h5
  cases hl
  cases hr
  cases ha
  cases hl'
  cases h6
  exact ⟨tp, tf, htp, htf, rfl⟩

/-- A derivation that starts with another in parentheses and an `and` goes on with a derivation. -/
theorem Disjunction.tokens_pair {d dp : Disjunction} {rest : List Token}
    (hd : d.depth ≤ maxDepth) (hdp : dp.depth ≤ maxDepth)
    (h : d.tokens = .lparen :: (dp.tokens ++ .rparen :: .and :: rest)) :
    ∃ g e : Disjunction, g.query = dp.query ∧ g.tokens = dp.tokens ∧ g.depth < maxDepth ∧
      e.depth ≤ maxDepth ∧ e.tokens = rest := by
  obtain ⟨g, behind, hg, hgd, hbehind⟩ := Disjunction.tokens_lparen h
  obtain ⟨hgq, hgt, hbehind'⟩ := Disjunction.prefix_unique hdp (by omega) hg
    (by simp) (by simp) (by simp) (by simp)
  obtain rfl := (List.cons.inj hbehind').2
  rcases hbehind with hnil | ⟨e, he, hand | hor⟩
  · cases hnil
  · exact ⟨g, e, hgq.symm, hgt.symm, by omega, by omega, (List.cons.inj hand).2.symm⟩
  · cases hor

/-- A sealed combination that is accepted is the conjunction of the preset and the filter, if the
filter is accepted on its own. -/
theorem parse_narrow {preset filter : String} (hs : Sealed preset.toList filter.toList)
    {p q r : Query} (hp : Query.parse preset = .ok p) (hq : Query.parse filter = .ok q)
    (hr : Query.parse (Filter.narrow preset filter) = .ok r) : r = .and (.group p) (.group q) := by
  obtain ⟨dp, hdpt, hdp, rfl⟩ := parse_eq_ok_iff.1 hp
  obtain ⟨dq, hdqt, hdq, rfl⟩ := parse_eq_ok_iff.1 hq
  obtain ⟨d, hdt, hd, rfl⟩ := parse_eq_ok_iff.1 hr
  obtain ⟨tp, tf, htp, htf, htokens⟩ := mapM_token_narrow hs hdt
  obtain rfl : dp.tokens = tp := Except.ok.inj (hdpt.symm.trans htp)
  obtain rfl : dq.tokens = tf := Except.ok.inj (hdqt.symm.trans htf)
  obtain ⟨g, e, hgq, hgt, hgd, hed, het⟩ := Disjunction.tokens_pair hd hdp htokens
  obtain ⟨g', behind', hg', hgd', -⟩ := Disjunction.tokens_lparen het
  obtain ⟨hgq', hgt', hbehind'⟩ := Disjunction.prefix_unique hdq (by omega) hg'
    (by simp) (by simp) (by simp) (by simp)
  -- The tree of both in parentheses has the same tokens, so it is read alike.
  let whole : Disjunction := .last (.and (.group g) (.last (.group g')))
  have hwhole : whole.depth ≤ maxDepth := by
    simp only [whole, Disjunction.depth, Conjunction.depth, Factor.depth]
    omega
  have hdt' : d.tokens = whole.tokens := by
    simp [whole, htokens, Disjunction.tokens, Conjunction.tokens, Factor.tokens, hgt, hgt']
  rw [Disjunction.query_unique hd hwhole hdt', ← hgq, hgq']
  rfl

/-- A sealed combination with a blank filter is refused. -/
theorem parse_narrow_blank {preset filter : String} {p : Query} (hp : Query.parse preset = .ok p)
    (hf : ∀ c ∈ filter.toList, Text.isBlank c) (r : Query) :
    Query.parse (Filter.narrow preset filter) ≠ .ok r := by
  intro hr
  have hs : Sealed preset.toList filter.toList := by
    intro c hc hmem
    have hq := isQuote_of_mem_openQuotes hc
    rw [isQuote_of_isBlank (hf c hmem)] at hq
    cases hq
  have hlexemes : lexemes filter.toList = [] := by
    have hblank := lexemes_blanks hf []
    rwa [List.append_nil, lexemes] at hblank
  obtain ⟨dp, hdpt, hdp, rfl⟩ := parse_eq_ok_iff.1 hp
  obtain ⟨d, hdt, hd, -⟩ := parse_eq_ok_iff.1 hr
  obtain ⟨tp, tf, htp, htf, htokens⟩ := mapM_token_narrow hs hdt
  obtain rfl : dp.tokens = tp := Except.ok.inj (hdpt.symm.trans htp)
  rw [hlexemes] at htf
  cases htf
  obtain ⟨g, e, -, -, -, -, het⟩ := Disjunction.tokens_pair hd hdp htokens
  obtain ⟨g', behind, hg', -, -⟩ := Disjunction.tokens_lparen het
  -- Between the parentheses there would have to be a tree.
  rcases List.append_eq_cons_iff.1 hg'.symm with ⟨hnil, -⟩ | ⟨m, hm, hrest⟩
  · exact g'.tokens_ne_nil hnil
  · simp at hrest

/-- A sealed combination of texts that leave room for one more level is accepted. -/
theorem exists_parse_narrow {preset filter : String} (hs : Sealed preset.toList filter.toList)
    {p q : Query} (hp : Query.parse preset = .ok p) (hpd : p.depth < maxDepth)
    (hq : Query.parse filter = .ok q) (hqd : q.depth < maxDepth) :
    ∃ r, Query.parse (Filter.narrow preset filter) = .ok r := by
  obtain ⟨dp, hdpt, -, rfl⟩ := parse_eq_ok_iff.1 hp
  obtain ⟨dq, hdqt, -, rfl⟩ := parse_eq_ok_iff.1 hq
  rw [Disjunction.depth_query] at hpd hqd
  let whole : Disjunction := .last (.and (.group dp) (.last (.group dq)))
  refine ⟨whole.query, parse_eq_ok_iff.2 ⟨whole, ?_, ?_, rfl⟩⟩
  · have hend : [Lexeme.sign .rparen].mapM Lexeme.token = .ok [Token.rparen] := rfl
    have hfilter := mapM_append_ok.2 ⟨_, _, hdqt, hend, rfl⟩
    have hopen := mapM_cons_ok.2 ⟨.lparen, _, (rfl : (Lexeme.sign .lparen).token = _), hfilter, rfl⟩
    have hand := mapM_cons_ok.2 ⟨.and, _, (rfl : (Lexeme.sign .and).token = _), hopen, rfl⟩
    have hclose := mapM_cons_ok.2 ⟨.rparen, _, (rfl : (Lexeme.sign .rparen).token = _), hand, rfl⟩
    have hpreset := mapM_append_ok.2 ⟨_, _, hdpt, hclose, rfl⟩
    rw [Query.lexemes_narrow hs]
    refine mapM_cons_ok.2 ⟨.lparen, _, rfl, hpreset, ?_⟩
    simp [whole, Disjunction.tokens, Conjunction.tokens, Factor.tokens]
  · simp only [whole, Disjunction.depth, Conjunction.depth, Factor.depth]
    omega

theorem depth_of_parse {s : String} {q : Query} (h : Query.parse s = .ok q) :
    q.depth ≤ maxDepth := by
  obtain ⟨d, -, hd, rfl⟩ := parse_eq_ok_iff.1 h
  rwa [Disjunction.depth_query]

/-! ## Leaking presets -/

/-- The preset leaves a quote open where a value is due, under fewer than `maxDepth` parentheses
and negations: with any string in the place of the value, what stands before it can be closed. -/
def Leaks (s : List Char) : Prop :=
  ∃ before c behind tokens, s = before ++ c :: behind ∧ OpensAt before c behind ∧
    (lexemes before).mapM Lexeme.token = .ok tokens ∧
    Closes Disjunction.tokens Disjunction.depth (maxDepth - 1) tokens

/-- Where a combination is accepted although a quote of the preset is closed by the filter, the
preset leaks. -/
theorem leaks_of_parse {preset filter : String} {p r : Query} (hp : Query.parse preset = .ok p)
    (hr : Query.parse (Filter.narrow preset filter) = .ok r)
    (hs : ∃ c ∈ openQuotes preset.toList, c ∈ filter.toList) : Leaks preset.toList := by
  obtain ⟨before, c, behind, hpreset, hopen, hc, hseal⟩ := exists_opensAt hs
  obtain ⟨first, last, hfilter, hfirst⟩ := List.eq_append_cons_of_mem hc
  obtain ⟨dp, hdpt, hdp, -⟩ := parse_eq_ok_iff.1 hp
  obtain ⟨d, hdt, hd, -⟩ := parse_eq_ok_iff.1 hr
  rw [hpreset, hopen.lexemes] at hdpt
  obtain ⟨tb, tail, htb, -, htail⟩ := mapM_append_ok.1 hdpt
  rw [hopen.lexemes_narrow hpreset hfilter hfirst hseal] at hdt
  obtain ⟨_, _, hl, h1, htokens⟩ := mapM_cons_ok.1 hdt
  obtain ⟨tb', _, htb', h2, rfl⟩ := mapM_append_ok.1 h1
  obtain ⟨_, _, hstring, -, rfl⟩ := mapM_cons_ok.1 h2
  obtain rfl : tb = tb' := Except.ok.inj (htb.symm.trans htb')
  cases hl
  cases hstring
  refine ⟨before, c, behind, tb, hpreset, hopen, htb, ?_⟩
  obtain ⟨g, more, hg, hgd, -⟩ := Disjunction.tokens_lparen htokens
  rcases append_eq_mid hg.symm with ⟨m, hgt, -⟩ | ⟨m, hm, hrest⟩
  · refine (g.closes tb m hgt).map [] id (by omega) (fun _ => rfl) fun e he => ?_
    show e.depth ≤ maxDepth - 1
    omega
  · -- The preset has no closing parenthesis behind a whole tree.
    rcases List.append_eq_cons_iff.1 hrest.symm with ⟨-, hstring⟩ | ⟨m, rfl, -⟩
    · cases hstring
    · have hwhole : dp.tokens ++ [] = g.tokens ++ .rparen :: (m ++ tail) := by
        simp [htail, hm]
      obtain ⟨-, -, hnil⟩ := Disjunction.prefix_unique hdp (by omega) hwhole
        (by simp) (by simp) (by simp) (by simp)
      cases hnil

/-! ## The escape from a leaking preset -/

/-- A comparison that holds of no record. -/
def never : Factor := .comparison "x" .eq (.number 1)

theorem holds_never (r : Record) : holds r never.query = false := by
  have hfield : Field.ofName? (fieldName "x") = none := by decide
  simp [never, Factor.query, holds, hfield]

theorem lexemes_replicate (n : Nat) {c : Char} {t : Token}
    (hc : ∀ s, lexemes (c :: s) = .sign t :: lexemes s) (s : List Char) :
    lexemes (List.replicate n c ++ s) = List.replicate n (.sign t) ++ lexemes s := by
  induction n with
  | zero => rfl
  | succ n ih => rw [List.replicate_succ, List.cons_append, hc, ih]; rfl

theorem mapM_token_replicate (n : Nat) (t : Token) :
    (List.replicate n (.sign t)).mapM Lexeme.token = .ok (List.replicate n t) := by
  induction n with
  | zero => rfl
  | succ n ih =>
      rw [List.replicate_succ, List.mapM_cons, ih]
      rfl

/-- The comparison as a text. -/
def neverText : List Char := ['x', '=', '1']

theorem lexemes_never : lexemes neverText = [.bare ['x'], .sign (.op .eq), .bare ['1']] := by
  have hx : IsWord ['x'] := .intro (by decide) (by simp)
  have h1 : IsWord ['1'] := .intro (by decide) (by simp)
  have hnil := @lexemes_word _ [] h1 (by simp)
  have heq : lexemes ('=' :: ['1']) = .sign (.op .eq) :: lexemes ['1'] :=
    lexemes_sign (by decide) rfl
  have hword := @lexemes_word _ ('=' :: ['1']) hx (by simp; decide)
  rw [List.append_nil] at hnil
  rw [heq, hnil, lexemes] at hword
  exact hword

theorem mapM_token_never : (lexemes neverText).mapM Lexeme.token = .ok never.tokens := by
  rw [lexemes_never]
  rfl

/-- A disjunction that holds of every record. -/
def always : Disjunction := .last (.last (.not never))

theorem holds_always (r : Record) : holds r always.query = true := by
  simp [always, Disjunction.query, Conjunction.query, Factor.query, holds, holds_never]

theorem holds_join (r : Record) (d e : Disjunction) :
    holds r (d.join e).query = (holds r d.query || holds r e.query) := by
  fun_induction Disjunction.join d e with
  | case1 c e => rfl
  | case2 c d e ih => simp only [Disjunction.query, holds, ih, Bool.or_assoc]

/-- The two parts of the filter that escapes: the first opens as many parentheses as the second
closes, behind which a condition follows that always holds. -/
def opening (k : Nat) : List Char := List.replicate k '(' ++ neverText

def closing (k : Nat) : List Char := List.replicate k ')' ++ '|' :: '|' :: '!' :: neverText

theorem mapM_token_opening (k : Nat) : (lexemes (opening k)).mapM Lexeme.token =
    .ok (List.replicate k .lparen ++ never.tokens) := by
  rw [opening, lexemes_replicate k lexemes_lparen]
  exact mapM_append_ok.2 ⟨_, _, mapM_token_replicate k .lparen, mapM_token_never, rfl⟩

theorem mapM_token_closing (k : Nat) : (lexemes (closing k)).mapM Lexeme.token =
    .ok (List.replicate k .rparen ++ .or :: always.tokens) := by
  have hor : lexemes ('|' :: '|' :: '!' :: neverText) =
      .sign .or :: .sign .not :: lexemes neverText := by
    have hnot : lexemes ('!' :: neverText) = .sign .not :: lexemes neverText :=
      lexemes_sign (by decide) rfl
    rw [← hnot]
    exact lexemes_sign (by decide) rfl
  rw [closing, lexemes_replicate k lexemes_rparen, hor, lexemes_never]
  exact mapM_append_ok.2 ⟨_, _, mapM_token_replicate k .rparen, rfl, rfl⟩

theorem isQuote_opening (k : Nat) : ∀ x ∈ opening k, isQuote x = false := by
  have htext : ∀ x ∈ neverText, isQuote x = false := by decide
  intro x hx
  rcases List.mem_append.1 hx with hx | hx
  · rw [List.eq_of_mem_replicate hx]
    decide
  · exact htext x hx

theorem isQuote_closing (k : Nat) : ∀ x ∈ closing k, isQuote x = false := by
  have htext : ∀ x ∈ '|' :: '|' :: '!' :: neverText, isQuote x = false := by decide
  intro x hx
  rcases List.mem_append.1 hx with hx | hx
  · rw [List.eq_of_mem_replicate hx]
    decide
  · exact htext x hx

def escaping (c : Char) (k : Nat) : List Char := opening k ++ c :: closing k

variable {c : Char} {k : Nat}

theorem opensAt_escaping (hc : isQuote c) (k : Nat) : OpensAt (opening k) c (closing k) := by
  refine ⟨hc, isQuote_notMem hc (isQuote_closing k), ?_⟩
  have hnone := openQuotes_append (isQuote_opening k) []
  rw [List.append_nil] at hnone
  simp [Sealed, hnone, openQuotes]

/-- On its own the filter is the first part or the condition behind it, the quote passed over. -/
theorem parse_escaping {filter : String} (hf : filter.toList = escaping c k) (hc : isQuote c)
    (hk : k ≤ maxDepth - 1) : ∃ q, Query.parse filter = .ok q := by
  let alone : Disjunction := .or (.last (never.nest k)) always
  refine ⟨alone.query, parse_eq_ok_iff.2 ⟨alone, ?_, ?_, rfl⟩⟩
  · rw [hf, escaping, (opensAt_escaping hc k).lexemes]
    refine mapM_append_ok.2 ⟨_, _, mapM_token_opening k, mapM_token_closing k, ?_⟩
    simp [alone, Disjunction.tokens, Conjunction.tokens, Factor.tokens_nest]
  · simp only [alone, Disjunction.depth, Conjunction.depth, Factor.depth_nest, always, never,
      Factor.depth]
    simp only [maxDepth] at hk ⊢
    omega

theorem OpensAt.sealed_escaping {before behind : List Char} (h : OpensAt before c behind)
    (k : Nat) : Sealed before (escaping c k) := by
  intro x hx
  have hq := isQuote_of_mem_openQuotes hx
  have hother := h.before_sealed x hx
  simp only [escaping, List.mem_append, List.mem_cons, not_or] at hother ⊢
  exact ⟨isQuote_notMem hq (isQuote_opening k), hother.1, isQuote_notMem hq (isQuote_closing k)⟩

/-- A filter that is accepted on its own and with a leaking preset keeps every record. -/
theorem Leaks.escape {preset : String} (h : Leaks preset.toList) :
    ∃ filter q r, filter ≠ "" ∧ Query.parse filter = .ok q ∧
      Query.parse (Filter.narrow preset filter) = .ok r ∧ ∀ record, holds record r = true := by
  obtain ⟨before, c, behind, tokens, hpreset, hopen, htokens, k, hk, hclose⟩ := h
  let filter := String.ofList (escaping c k)
  have hfilter : filter.toList = escaping c k := String.toList_ofList
  obtain ⟨q, hq⟩ := parse_escaping hfilter hopen.isQuote hk
  obtain ⟨d, hd, hdd⟩ := hclose (String.ofList (behind ++ (seam ++ opening k)))
  let whole : Disjunction := .last (.last (.group (d.join always)))
  refine ⟨filter, q, whole.query, ?_, hq, parse_eq_ok_iff.2 ⟨whole, ?_, ?_, rfl⟩, ?_⟩
  · intro hempty
    rw [hempty] at hfilter
    simp [escaping] at hfilter
  · have hfirst : c ∉ opening k := isQuote_notMem hopen.isQuote (isQuote_opening k)
    have hseal : Sealed before filter.toList := by
      rw [hfilter]
      exact hopen.sealed_escaping k
    rw [hopen.lexemes_narrow hpreset hfilter hfirst hseal]
    have hend := mapM_append_ok.2 ⟨_, _, mapM_token_closing k,
      (rfl : [Lexeme.sign .rparen].mapM Lexeme.token = .ok [.rparen]), rfl⟩
    have hvalue := mapM_cons_ok.2 ⟨_, _,
      (rfl : (Lexeme.quoted (behind ++ (seam ++ opening k))).token = .ok _), hend, rfl⟩
    have hinner := mapM_append_ok.2 ⟨_, _, htokens, hvalue, rfl⟩
    refine mapM_cons_ok.2 ⟨.lparen, _, rfl, hinner, ?_⟩
    simp [whole, Disjunction.tokens, Conjunction.tokens, Factor.tokens, Disjunction.tokens_join, hd]
  · simp only [whole, Disjunction.depth, Conjunction.depth, Factor.depth, Disjunction.depth_join,
      always, never]
    simp only [maxDepth] at hdd ⊢
    omega
  · intro record
    simp [whole, Disjunction.query, Conjunction.query, Factor.query, holds, holds_join,
      holds_always]

end SocketInventory.Query
