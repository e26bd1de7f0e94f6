import SocketInventory.Proofs.Query.Evaluation
import SocketInventory.Proofs.Text.LetterCase

/-!
# Letter case of queries and records

Two query texts that differ in the case of ASCII letters only are both refused, or denote queries
with the same answers on records that again differ only so. Capital letters are made small from the
text over its lexemes and tokens to the derivation, and the meaning is that of the small letters.
-/

namespace SocketInventory

/-! ## Small letters -/

def Endpoint.small (e : Endpoint) : Endpoint := { e with address := e.address.map String.toLower }

/-- The record with its texts in small ASCII letters. -/
def Record.small (r : Record) : Record where
  protocol := r.protocol.toLower
  localEnd := r.localEnd.small
  remoteEnd := r.remoteEnd.small
  state := r.state.toLower
  pid := r.pid
  processName := r.processName.map String.toLower

namespace Query

def Token.small : Token → Token
  | .string s => .string s.toLower
  | .word w => .word w.toLower
  | t => t

def Lexeme.small : Lexeme → Lexeme
  | .sign t => .sign t.small
  | .quoted s => .quoted (s.map Char.toLower)
  | .bare w => .bare (w.map Char.toLower)

def Value.small : Value → Value
  | .number n => .number n
  | .text s => .text s.toLower

def Content.small : Content → Content
  | .number n => .number n
  | .text s => .text s.toLower

/-- The names of fields are in lower case already. -/
def small : Query → Query
  | .comparison field op value => .comparison field op value.small
  | .group q => .group q.small
  | .not q => .not q.small
  | .and p q => .and p.small q.small
  | .or p q => .or p.small q.small

theorem toList_toLower (s : String) : s.toLower.toList = s.toList.map Char.toLower :=
  String.toList_map

theorem toLower_ofList (s : List Char) :
    (String.ofList s).toLower = String.ofList (s.map Char.toLower) := by
  rw [← String.toList_inj, toList_toLower, String.toList_ofList, String.toList_ofList]

/-! ## Lexemes -/

open Text (toLower_eq_iff apply_toLower)

theorem map_toLower_eq_cons {d : Char} (hd : d.isAlpha = false) {s t : List Char}
    (h : s.map Char.toLower = d :: t) : ∃ rest, s = d :: rest ∧ rest.map Char.toLower = t := by
  obtain ⟨c, rest, rfl, hc, hrest⟩ := List.map_eq_cons_iff.1 h
  exact ⟨rest, by rw [(toLower_eq_iff hd).1 hc], hrest⟩

theorem readSign?_small (s : List Char) :
    readSign? (s.map Char.toLower) =
      (readSign? s).map fun (t, rest) => (t, rest.map Char.toLower) := by
  conv_rhs => unfold readSign?
  split
  -- A sign that is the start of a longer one: no capital letter becomes what makes it longer.
  case h_9 rest hne | h_10 rest hne | h_11 rest hne | h_13 rest hne =>
    rcases rest with _ | ⟨d, rest⟩
    · rfl
    · have hd : d ≠ '=' := by rintro rfl; exact hne _ rfl
      have hd' : d.toLower ≠ '=' := fun h => hd ((toLower_eq_iff (by decide)).1 h)
      simp [readSign?, hd']
  -- No sign: the text would begin with the sign that its small letters begin with.
  case h_14 =>
    unfold readSign?
    split
    case h_14 => rfl
    all_goals
      rename_i heq
      obtain ⟨rest, hs, heq⟩ := map_toLower_eq_cons (by decide) heq
      exfalso
    case h_3 | h_4 | h_5 | h_6 | h_7 | h_8 =>
      obtain ⟨rest', hrest, -⟩ := map_toLower_eq_cons (by decide) heq
      rw [hrest] at hs
      solve_by_elim
    all_goals solve_by_elim
  all_goals rfl

theorem small_of_readSign? {s rest : List Char} {t : Token} (h : readSign? s = some (t, rest)) :
    t.small = t := by
  unfold readSign? at h
  split at h <;> cases h <;> rfl

theorem isQuote_toLower (c : Char) : isQuote c.toLower = isQuote c :=
  apply_toLower (by decide) c

theorem cutFirst?_small {q : Char} (hq : isQuote q) (s : List Char) :
    Text.cutFirst? q (s.map Char.toLower) = (Text.cutFirst? q s).map fun (body, rest) =>
      (body.map Char.toLower, rest.map Char.toLower) := by
  have halpha : q.isAlpha = false := by
    simp only [isQuote, Bool.or_eq_true, beq_iff_eq] at hq
    rcases hq with rfl | rfl <;> decide
  have hp : (fun c => c != q) ∘ Char.toLower = fun c => c != q := by
    funext c
    rw [Function.comp_apply, Bool.eq_iff_iff]
    simp [toLower_eq_iff halpha]
  rw [Text.cutFirst?, Text.cutFirst?, List.dropWhile_map, List.takeWhile_map, hp]
  cases s.dropWhile (· != q) <;> rfl

theorem readLexeme?_small (c : Char) (rest : List Char) :
    readLexeme? c.toLower (rest.map Char.toLower) =
      (readLexeme? c rest).map fun (l, r) => (l.small, r.map Char.toLower) := by
  have hsign := readSign?_small (c :: rest)
  have hstart : isWordStart c.toLower = isWordStart c := apply_toLower (by decide) c
  rw [List.map_cons] at hsign
  unfold readLexeme?
  rw [hsign, isQuote_toLower, hstart]
  cases hs : readSign? (c :: rest) with
  | some x => simp [Lexeme.small, small_of_readSign? hs]
  | none =>
      simp only [Option.map_none]
      by_cases hq : isQuote c
      · have hself : c.toLower = c := Text.toLower_eq_self (by decide) hq
        rw [if_pos hq, if_pos hq, hself, cutFirst?_small hq]
        cases Text.cutFirst? c rest <;> rfl
      · rw [if_neg hq, if_neg hq]
        split
        · rw [Text.takeWhile_toLower (p := isWordChar) (by decide),
            Text.dropWhile_toLower (p := isWordChar) (by decide)]
          rfl
        · rfl

theorem lexemes_small (s : List Char) :
    lexemes (s.map Char.toLower) = (lexemes s).map Lexeme.small := by
  have hblank : ∀ c : Char, Text.isBlank c.toLower = Text.isBlank c :=
    apply_toLower (by decide +kernel)
  induction s using lexemes.induct with
  | case1 => simp [lexemes]
  | case2 c rest hc ih =>
      rw [List.map_cons, lexemes_blank (by rwa [hblank]), lexemes_blank hc, ih]
  | case3 c rest hc l rest' hr _ ih =>
      have hc' : Text.isBlank c = false := by simpa using hc
      have hsmall : readLexeme? c.toLower (rest.map Char.toLower) =
          some (l.small, rest'.map Char.toLower) := by
        rw [readLexeme?_small, hr]
        rfl
      rw [List.map_cons, lexemes_some (by rwa [hblank]) hsmall, lexemes_some hc' hr, ih,
        List.map_cons]
  | case4 c rest hc hr ih =>
      have hsmall : readLexeme? c.toLower (rest.map Char.toLower) = none := by
        rw [readLexeme?_small, hr]
        rfl
      rw [List.map_cons, lexemes_none hsmall, lexemes_none hr, ih]

/-! ## Tokens -/

theorem wordToken_small (w : List Char) :
    wordToken (w.map Char.toLower) = (wordToken w).map Token.small := by
  have hupper : (w.map Char.toLower).map Char.toUpper = w.map Char.toUpper := by simp
  have hall : (w.map Char.toLower).all Char.isDigit = w.all Char.isDigit :=
    Text.all_toLower (by decide) w
  rw [wordToken, wordToken, hupper, hall]
  split
  · rfl
  · split
    · rfl
    · split
      · rw [Text.parseMagnitude_toLower]
        cases Text.parseMagnitude w <;> rfl
      · rw [← toLower_ofList]
        rfl

theorem Lexeme.token_small (l : Lexeme) : l.small.token = l.token.map Token.small := by
  cases l with
  | sign t => rfl
  | quoted s => simp only [Lexeme.small, Lexeme.token, Except.map, Token.small, toLower_ofList]
  | bare w => exact wordToken_small w

theorem mapM_token_small (ls : List Lexeme) : (ls.map Lexeme.small).mapM Lexeme.token =
    (ls.mapM Lexeme.token).map (List.map Token.small) := by
  induction ls with
  | nil => rfl
  | cons l ls ih =>
      rw [List.map_cons, List.mapM_cons, List.mapM_cons, Lexeme.token_small, ih]
      cases l.token with
      | error e => rfl
      | ok t => cases ls.mapM Lexeme.token <;> rfl

/-- Of two texts with the same small letters, either both have tokens or none. -/
theorem mapM_token_congr {s t : String} (h : s.toLower = t.toLower) {tokens : List Token}
    (hs : (lexemes s.toList).mapM Lexeme.token = .ok tokens) :
    ∃ tokens', (lexemes t.toList).mapM Lexeme.token = .ok tokens' ∧
      tokens'.map Token.small = tokens.map Token.small := by
  have hchars : s.toList.map Char.toLower = t.toList.map Char.toLower := by
    rw [← toList_toLower, h, toList_toLower]
  have hsmall := mapM_token_small (lexemes t.toList)
  rw [← lexemes_small, ← hchars, lexemes_small, mapM_token_small, hs] at hsmall
  obtain ⟨tokens', ht, heq⟩ := exists_of_map_ok hsmall.symm
  exact ⟨tokens', ht, heq.symm⟩

/-! ## Derivations -/

theorem eq_of_small {t u : Token} (h : t.small = u) (hs : ∀ s, u ≠ .string s)
    (hw : ∀ w, u ≠ .word w) : t = u := by
  cases t with
  | string s => exact absurd h.symm (hs _)
  | word w => exact absurd h.symm (hw _)
  | _ => exact h

theorem exists_word {t : Token} {w : String} (h : t.small = .word w) :
    ∃ w', t = .word w' ∧ w'.toLower = w := by
  cases t with
  | word w' => exact ⟨w', rfl, Token.word.inj h⟩
  | _ => cases h

theorem fieldName_congr {v w : String} (h : v.toLower = w.toLower) : fieldName v = fieldName w := by
  have hchars : v.toList.map Char.toLower = w.toList.map Char.toLower := by
    rw [← toList_toLower, h, toList_toLower]
  rw [fieldName, fieldName, Text.lower_congr hchars]

/-- An operand is found again, in other letters. -/
theorem exists_operand {t : Token} (v : Operand) (h : t.small = v.token.small) :
    ∃ v' : Operand, v'.token = t ∧ v'.value.small = v.value.small := by
  cases v with
  | number n => exact ⟨.number n, (eq_of_small h nofun nofun).symm, rfl⟩
  | string s =>
      cases t with
      | string s' => exact ⟨.string s', rfl, congrArg Value.text (Token.string.inj h)⟩
      | _ => cases h
  | word w =>
      obtain ⟨w', rfl, hw⟩ := exists_word h
      exact ⟨.word w', rfl, congrArg Value.text hw⟩

mutual
/-- A token sequence with the small letters of a derivation has a derivation of the same depth. -/
theorem Disjunction.exists_small : (d : Disjunction) → (tokens : List Token) →
    tokens.map Token.small = d.tokens.map Token.small →
      ∃ d' : Disjunction, d'.tokens = tokens ∧ d'.depth = d.depth ∧ d'.query.small = d.query.small
  | .last c, tokens, h => by
      obtain ⟨c', ht, hd, hq⟩ := c.exists_small tokens h
      exact ⟨.last c', ht, hd, hq⟩
  | .or c d, tokens, h => by
      rw [Disjunction.tokens, List.map_append, List.map_cons, List.map_eq_append_iff] at h
      obtain ⟨first, more, rfl, hfirst, hmore⟩ := h
      obtain ⟨t, last, rfl, ht, hlast⟩ := List.map_eq_cons_iff.1 hmore
      obtain ⟨c', rfl, hcd, hcq⟩ := c.exists_small first hfirst
      obtain ⟨d', rfl, hdd, hdq⟩ := d.exists_small last hlast
      refine ⟨.or c' d', ?_, ?_, ?_⟩
      · rw [Disjunction.tokens, eq_of_small ht nofun nofun]
        rfl
      · simp [Disjunction.depth, hcd, hdd]
      · simp [Disjunction.query, small, hcq, hdq]

theorem Conjunction.exists_small : (c : Conjunction) → (tokens : List Token) →
    tokens.map Token.small = c.tokens.map Token.small →
      ∃ c' : Conjunction, c'.tokens = tokens ∧ c'.depth = c.depth ∧ c'.query.small = c.query.small
  | .last f, tokens, h => by
      obtain ⟨f', ht, hd, hq⟩ := f.exists_small tokens h
      exact ⟨.last f', ht, hd, hq⟩
  | .and f c, tokens, h => by
      rw [Conjunction.tokens, List.map_append, List.map_cons, List.map_eq_append_iff] at h
      obtain ⟨first, more, rfl, hfirst, hmore⟩ := h
      obtain ⟨t, last, rfl, ht, hlast⟩ := List.map_eq_cons_iff.1 hmore
      obtain ⟨f', rfl, hfd, hfq⟩ := f.exists_small first hfirst
      obtain ⟨c', rfl, hcd, hcq⟩ := c.exists_small last hlast
      refine ⟨.and f' c', ?_, ?_, ?_⟩
      · rw [Conjunction.tokens, eq_of_small ht nofun nofun]
        rfl
      · simp [Conjunction.depth, hfd, hcd]
      · simp [Conjunction.query, small, hfq, hcq]

theorem Factor.exists_small : (f : Factor) → (tokens : List Token) →
    tokens.map Token.small = f.tokens.map Token.small →
      ∃ f' : Factor, f'.tokens = tokens ∧ f'.depth = f.depth ∧ f'.query.small = f.query.small
  | .group d, tokens, h => by
      obtain ⟨t, more, rfl, ht, hmore⟩ := List.map_eq_cons_iff.1 h
      rw [List.map_append, List.map_eq_append_iff] at hmore
      obtain ⟨inner, close, rfl, hinner, hclose⟩ := hmore
      obtain ⟨u, rest, rfl, hu, hrest⟩ := List.map_eq_cons_iff.1 hclose
      obtain ⟨d', rfl, hdd, hdq⟩ := d.exists_small inner hinner
      refine ⟨.group d', ?_, ?_, ?_⟩
      · rw [Factor.tokens, eq_of_small ht nofun nofun, eq_of_small hu nofun nofun,
          List.map_eq_nil_iff.1 hrest]
        rfl
      · simp [Factor.depth, hdd]
      · simp [Factor.query, small, hdq]
  | .not f, tokens, h => by
      obtain ⟨t, inner, rfl, ht, hinner⟩ := List.map_eq_cons_iff.1 h
      obtain ⟨f', rfl, hfd, hfq⟩ := f.exists_small inner hinner
      refine ⟨.not f', ?_, ?_, ?_⟩
      · rw [Factor.tokens, eq_of_small ht nofun nofun]
        rfl
      · simp [Factor.depth, hfd]
      · simp [Factor.query, small, hfq]
  | .comparison field op operand, tokens, h => by
      obtain ⟨t, more, rfl, ht, hmore⟩ := List.map_eq_cons_iff.1 h
      obtain ⟨u, more, rfl, hu, hmore⟩ := List.map_eq_cons_iff.1 hmore
      obtain ⟨x, rest, rfl, hx, hrest⟩ := List.map_eq_cons_iff.1 hmore
      obtain ⟨field', rfl, hfield⟩ := exists_word ht
      obtain ⟨operand', rfl, hoperand⟩ := exists_operand operand hx
      refine ⟨.comparison field' op operand', ?_, rfl, ?_⟩
      · rw [Factor.tokens, eq_of_small hu nofun nofun, List.map_eq_nil_iff.1 hrest]
        rfl
      · simp [Factor.query, small, fieldName_congr hfield, hoperand]
end

theorem parse_congr {s t : String} (h : s.toLower = t.toLower) {p : Query}
    (hp : Query.parse s = .ok p) : ∃ q, Query.parse t = .ok q ∧ q.small = p.small := by
  obtain ⟨d, hd, hdepth, rfl⟩ := parse_eq_ok_iff.1 hp
  obtain ⟨tokens, ht, hsmall⟩ := mapM_token_congr h hd
  obtain ⟨d', rfl, hdepth', hq⟩ := d.exists_small tokens hsmall
  exact ⟨d'.query, parse_eq_ok_iff.2 ⟨d', ht, by omega, rfl⟩, hq⟩

/-! ## Records -/

theorem lower_toList_toLower (s : String) : Text.lower s.toLower.toList = Text.lower s.toList := by
  rw [toList_toLower, Text.lower_toLower]

theorem wildcardAddress_small (r : Record) :
    wildcardAddress r.small = (wildcardAddress r).toLower := by
  have hsix : r.protocol.toLower.toList.contains '6' = r.protocol.toList.contains '6' := by
    rw [toList_toLower, Bool.eq_iff_iff]
    simp [toLower_eq_iff]
  simp only [wildcardAddress, Record.small, hsix]
  split <;> rw [← String.toList_inj, toList_toLower] <;> rfl

theorem addressContent_small (r : Record) (e : Endpoint) :
    addressContent r.small e.small = (addressContent r e).toLower := by
  rw [addressContent, addressContent, wildcardAddress_small, Endpoint.small]
  cases e.address with
  | none => rfl
  | some a =>
      have hempty : a.toLower.isEmpty = a.isEmpty := by
        rw [Bool.eq_iff_iff]
        simp [← String.toList_eq_nil_iff, toList_toLower]
      simp only [Option.map_some, hempty]
      split <;> rfl

theorem content?_small (r : Record) (f : Field) :
    f.content? r.small = (f.content? r).map Content.small := by
  cases f with
  | localAddress | remoteAddress => exact congrArg (some ∘ Content.text) (addressContent_small r _)
  | processName =>
      simp only [Field.content?, Record.small, Option.map_map]
      rfl
  | localPort | remotePort =>
      simp only [Field.content?, Record.small, Endpoint.small, Option.map_map]
      rfl
  | pid | protocol | state => rfl

theorem actual_small (r : Record) (field : String) :
    (Field.ofName? field >>= Field.content? r.small) =
      (Field.ofName? field >>= Field.content? r).map Content.small := by
  cases Field.ofName? field with
  | none => rfl
  | some f => exact content?_small r f

/-! ## Answers -/

@[simp] theorem Content.small_number (n : Int) : (Content.number n).small = .number n := rfl

@[simp] theorem Content.small_text (s : String) : (Content.text s).small = .text s.toLower := rfl

theorem content_small (v : Value) : v.small.content = v.content.small := by
  cases v <;> rfl

theorem integer?_small (c : Content) : c.small.integer? = c.integer? := by
  cases c with
  | number n => rfl
  | text s => simp [Content.integer?, toList_toLower, Text.parseInteger_toLower]

theorem lower_chars_small (c : Content) : Text.lower c.small.chars = Text.lower c.chars := by
  cases c with
  | number n => rfl
  | text s => exact lower_toList_toLower s

theorem compareContent_small (c : Content) (op : Op) (expected : Content) :
    compareContent c.small op expected.small = compareContent c op expected := by
  cases expected with
  | number n => simp [compareContent, integer?_small c]
  | text s => simp [compareContent, compareText, lower_chars_small c, lower_toList_toLower s]

theorem stage_small (c : Content) (op : String) (expected : Content) :
    stage c.small op expected.small = stage c op expected := by
  cases expected with
  | number n => simp [stage, integer?_small c]
  | text s =>
      cases c with
      | number m => simp [stage, lower_toList_toLower s]
      | text t => simp [stage, Content.shown, lower_toList_toLower]

theorem holds_small (r : Record) (q : Query) : q.small.holds r.small = q.holds r := by
  induction q with
  | comparison field op value =>
      simp only [small, holds, actual_small, compare, content_small]
      cases Field.ofName? field >>= Field.content? r with
      | none => rfl
      | some c => exact compareContent_small c op value.content
  | group q ih => exact ih
  | not q ih => simp only [small, holds, ih]
  | and p q ihp ihq | or p q ihp ihq => simp only [small, holds, ihp, ihq]

theorem evaluate_small (r : Record) (q : Query) : q.small.evaluate r.small = q.evaluate r := by
  induction q with
  | comparison field op value =>
      simp only [small, evaluate, actual_small, content_small]
      cases Field.ofName? field >>= Field.content? r with
      | none => rfl
      | some c => exact congrArg (· >>= Stage.answer) (stage_small c op.text value.content)
  | group q ih => exact ih
  | not q ih => simp only [small, evaluate, ih]
  | and p q ihp ihq | or p q ihp ihq => simp only [small, evaluate, ihp, ihq]

/-- Texts that differ in the case of ASCII letters only are both refused, or they are queries that
give the same answer, or the same failure, on records that differ so. -/
theorem parse_letterCase (s t : String) (h : s.toLower = t.toLower) :
    ((∃ e, Query.parse s = .error e) ∧ ∃ e, Query.parse t = .error e) ∨
      ∃ p q, Query.parse s = .ok p ∧ Query.parse t = .ok q ∧
        ∀ r r' : Record, r.small = r'.small →
          p.evaluate r = q.evaluate r' ∧ p.holds r = q.holds r' := by
  cases hs : Query.parse s with
  | ok p =>
      obtain ⟨q, ht, hq⟩ := parse_congr h hs
      refine .inr ⟨p, q, rfl, ht, fun r r' hr => ⟨?_, ?_⟩⟩
      · rw [← evaluate_small r p, ← evaluate_small r' q, hr, hq]
      · rw [← holds_small r p, ← holds_small r' q, hr, hq]
  | error e =>
      refine .inl ⟨⟨e, rfl⟩, ?_⟩
      cases ht : Query.parse t with
      | error e' => exact ⟨e', rfl⟩
      | ok q =>
          obtain ⟨p, hp, -⟩ := parse_congr h.symm ht
          rw [hp] at hs
          cases hs

/-- A socket whose owner has the given name. -/
def owned (name : String) : Record :=
  ⟨"TCP6", ⟨some "FE80::1", some 80⟩, ⟨none, some 0⟩, "Listen", 7, some name⟩

/-- The letter before a sigma that is final in another form. -/
theorem parse_letterCase_sigma :
    "NAME='ΟΔΟS*' aNd !pid<7".toLower = "name='ΟΔΟs*' AND !PID<7".toLower ∧
      (owned "ΟΔΟSΣ").small = (owned "ΟΔΟsΣ").small ∧
      ∃ p q, Query.parse "NAME='ΟΔΟS*' aNd !pid<7" = .ok p ∧
        Query.parse "name='ΟΔΟs*' AND !PID<7" = .ok q ∧
        p.holds (owned "ΟΔΟSΣ") ∧ q.holds (owned "ΟΔΟsΣ") := by
  have hs : "NAME='ΟΔΟS*' aNd !pid<7".toLower = "name='ΟΔΟs*' AND !PID<7".toLower := by
    rw [← String.toList_inj, toList_toLower, toList_toLower]
    decide +kernel
  have hname : "ΟΔΟSΣ".toLower = "ΟΔΟsΣ".toLower := by
    rw [← String.toList_inj, toList_toLower, toList_toLower]
    decide +kernel
  have hr : (owned "ΟΔΟSΣ").small = (owned "ΟΔΟsΣ").small := by
    simp only [owned, Record.small, Option.map_some, hname]
  have hp : Query.parse "NAME='ΟΔΟS*' aNd !pid<7" = .ok (.and
      (.comparison "name" .eq (.text "ΟΔΟS*")) (.not (.comparison "pid" .lt (.number 7)))) :=
    ok_of_toOption (by decide +kernel)
  refine ⟨hs, hr, ?_⟩
  rcases parse_letterCase _ _ hs with ⟨⟨e, he⟩, -⟩ | ⟨p, q, hp', hq, hanswer⟩
  · rw [hp] at he
    cases he
  · obtain rfl := Except.ok.inj (hp.symm.trans hp')
    obtain ⟨-, hholds⟩ := hanswer _ _ hr
    have hfirst : holds (owned "ΟΔΟSΣ") (.and (.comparison "name" .eq (.text "ΟΔΟS*"))
        (.not (.comparison "pid" .lt (.number 7)))) := by decide +kernel
    exact ⟨_, q, hp, hq, hfirst, hholds ▸ hfirst⟩

end Query

end SocketInventory
