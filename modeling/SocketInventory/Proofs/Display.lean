import SocketInventory.Proofs.Query.Fieldless
import SocketInventory.Proofs.Validation

/-!
# Values on display

The text of a loaded value that is no text itself denotes no query, as long as the keys of its maps
are texts. A presets file with such keys is therefore accepted only if it maps texts to texts.
-/

namespace SocketInventory

open Query (Atom Breaks Fieldless breaks_mark isWordChar lexemes)

/-! ## Numbers -/

namespace Number.Binary64

theorem atom_shortest (x : Binary64) (num den : Nat) : Atom (shortest x num den).1 := by
  dsimp only [shortest]
  split
  · refine .digits fun c hc => ?_
    have hkept := (List.dropWhile_sublist _).mem (List.mem_reverse.1 hc)
    exact Text.isDigit_decimalChars c (List.mem_reverse.1 hkept)
  · decide

theorem atom_layout {digits : List Char} (hd : Atom digits) (point : Int) :
    Atom (layout digits point) := by
  have hzeros : ∀ n, Atom (List.replicate n '0') := fun n => .digits (by simp)
  have hsize : ∀ n, Atom (Text.decimalChars n) := fun n => .digits Text.isDigit_decimalChars
  have hsign : ∀ b : Prop, [Decidable b] → Query.isAtomChar (if b then '-' else '+') := by
    intro b _
    split <;> decide
  rw [layout]
  split
  · split
    · exact .cons (by decide) (.cons (by decide) ((hzeros _).append hd))
    · split
      · exact (hd.append (hzeros _)).append (by decide)
      · exact (hd.take _).append (.cons (by decide) (hd.drop _))
  · refine ((hd.take _).append ?_).append (.cons (by decide) (.cons (hsign _) ?_))
    · split
      · exact .cons (by decide) (hd.drop _)
      · decide
    · split
      · exact .cons (by decide) (hsize _)
      · exact hsize _

theorem atom_chars (x : Binary64) : Atom x.chars := by
  have hsign : ∀ negative : Bool, Atom (if negative then ['-'] else []) := by decide
  cases x with
  | nan => decide
  | infinite negative => exact (hsign _).append (by decide)
  | finite negative significand exponent =>
      rw [chars]
      split
      · exact (hsign _).append (by decide)
      · exact (hsign _).append (atom_layout (atom_shortest _ _ _) _)

end Number.Binary64

namespace Data

/-! ## Keys -/

mutual
/-- Every map within the value has texts for keys. -/
def TextKeyed : Data → Prop
  | .list items => TextKeyedItems items
  | .pairs items => TextKeyedPairs items
  | .map entries => TextKeyedEntries entries
  | .set members => TextKeyedItems members
  | _ => True

def TextKeyedItems : List Data → Prop
  | [] => True
  | item :: items => item.TextKeyed ∧ TextKeyedItems items

def TextKeyedPairs : List (Data × Data) → Prop
  | [] => True
  | (first, second) :: rest => first.TextKeyed ∧ second.TextKeyed ∧ TextKeyedPairs rest

def TextKeyedEntries : List (Data × Data) → Prop
  | [] => True
  | (key, value) :: entries => (∃ s, key = .text s) ∧ value.TextKeyed ∧ TextKeyedEntries entries
end

theorem textKeyedEntries_iff {entries : List (Data × Data)} : TextKeyedEntries entries ↔
    ∀ entry ∈ entries, (∃ s, entry.1 = .text s) ∧ entry.2.TextKeyed := by
  induction entries with
  | nil => simp [TextKeyedEntries]
  | cons entry entries ih =>
      obtain ⟨key, value⟩ := entry
      simp only [TextKeyedEntries, ih, List.forall_mem_cons, and_assoc]

/-! ## Texts -/

theorem toList_listed (texts : List String) :
    (listed texts).toList = [',', ' '].intercalate (texts.map String.toList) :=
  String.toList_intercalate

theorem listed_cons_cons (s t : String) (texts : List String) (rest : List Char) :
    (listed (s :: t :: texts)).toList ++ rest =
      s.toList ++ ',' :: ' ' :: ((listed (t :: texts)).toList ++ rest) := by
  simp only [toList_listed, List.map_cons, Text.intercalate_cons_cons, List.cons_append,
    List.nil_append, List.append_assoc]

/-- A list of texts starts with the first one. -/
theorem exists_listed (s : String) (texts : List String) (rest : List Char) :
    ∃ more, (listed (s :: texts)).toList ++ rest = s.toList ++ more := by
  cases texts with
  | nil => exact ⟨rest, by simp [toList_listed]⟩
  | cons t texts => exact ⟨_, listed_cons_cons s t texts rest⟩

theorem toList_bracketed (s : String) (rest : List Char) :
    ("[" ++ s ++ "]").toList ++ rest = '[' :: (s.toList ++ ']' :: rest) := by
  simp

theorem toList_braced (s : String) (rest : List Char) :
    (braced s).toList ++ rest = '\x7b' :: (s.toList ++ '\x7d' :: rest) := by
  simp [braced]

theorem toList_paired (s t : String) (rest : List Char) :
    ("(" ++ s ++ ", " ++ t ++ ")").toList ++ rest =
      '(' :: (s.toList ++ ',' :: ' ' :: (t.toList ++ ')' :: rest)) := by
  simp

theorem toList_points (rest : List Char) : "...".toList ++ rest = '.' :: '.' :: '.' :: rest := by
  simp

theorem isQuote_quoteFor (s : List Char) : Query.isQuote (Text.quoteFor s) := by
  rw [Text.quoteFor]
  split <;> rfl

theorem fieldless_quoteLetters (ls : Text.Letters) (rest : List Char) :
    Fieldless (lexemes (Text.quoteLetters ls ++ rest)) :=
  Query.fieldless_quote (isQuote_quoteFor (ls.map Text.Letter.kept)) (by simp)

theorem fieldless_quoteOctets (bytes : List UInt8) (rest : List Char) :
    Fieldless (lexemes (Text.quoteOctets bytes ++ rest)) := by
  let q := Text.quoteFor (bytes.map fun b => Char.ofNat b.toNat)
  have hq : Query.isQuote q := isQuote_quoteFor _
  have hquote : Fieldless (lexemes (q :: (bytes.flatMap (Text.quoteOctet q) ++ [q] ++ rest))) :=
    Query.fieldless_quote hq (by simp)
  refine Query.fieldless_word (w := ['b']) (.intro (by decide) (by simp)) ?_ hquote.head?_ne_op
  intro c hc
  cases hc
  exact (Query.breaks_quote hq rest _ rfl).1

theorem toList_callText (function : String) (arguments : List String) :
    (callText function arguments).toList =
      function.toList ++ '(' :: ((", ".intercalate arguments).toList ++ [')']) := by
  simp [callText]

theorem fieldless_callText {function : String} (hw : Query.IsWord function.toList)
    (arguments : List String) (rest : List Char) :
    Fieldless (lexemes ((callText function arguments).toList ++ rest)) := by
  rw [toList_callText, List.append_assoc]
  exact Query.fieldless_call hw _

-- The induction carries what stands behind the value: it ends a word, and starts with no field.
mutual
theorem fieldless_quoted : (d : Data) → d.TextKeyed → (rest : List Char) → Breaks rest →
    Fieldless (lexemes rest) → Fieldless (lexemes (d.quoted.toList ++ rest))
  | .null, _, rest, hb, h => by
      rw [quoted]
      exact h.atom (by decide) hb
  | .bool true, _, rest, hb, h => by
      rw [quoted]
      exact h.atom (by decide) hb
  | .bool false, _, rest, hb, h => by
      rw [quoted]
      exact h.atom (by decide) hb
  | .int n, _, rest, hb, h => by
      rw [quoted, Text.integerText, String.toList_ofList]
      exact h.atom (.integer n) hb
  | .real x, _, rest, hb, h => by
      rw [quoted, Number.Binary64.text, String.toList_ofList]
      exact h.atom x.atom_chars hb
  | .text s, _, rest, _, _ => by
      rw [quoted, String.toList_ofList]
      exact fieldless_quoteLetters s rest
  | .octets bytes, _, rest, _, _ => by
      rw [quoted, String.toList_ofList]
      exact fieldless_quoteOctets bytes rest
  | .date d, _, rest, _, _ => by
      rw [quoted, Date.quoted]
      exact fieldless_callText (Query.isWord_of_head (by decide) (by decide)) _ rest
  | .moment m, _, rest, _, _ => by
      rw [quoted, Moment.quoted]
      exact fieldless_callText (Query.isWord_of_head (by decide) (by decide)) _ rest
  | .list items, hk, rest, hb, h => by
      rw [quoted, toList_bracketed]
      exact (fieldless_listed items hk _ (breaks_mark (by decide) _) (h.mark (by decide))).mark
        (by decide)
  | .pairs [], _, rest, _, h => by
      rw [quoted, quotedPairs, toList_bracketed]
      exact (h.mark (by decide)).mark (by decide)
  | .pairs ((first, second) :: more), hk, rest, hb, h => by
      -- The parenthesis closes behind the second part, so nothing behind the first pair counts.
      obtain ⟨hfirst, hsecond, -⟩ := hk
      obtain ⟨tail, hlisted⟩ := exists_listed
        ("(" ++ first.quoted ++ ", " ++ second.quoted ++ ")") (quotedPairs more) (']' :: rest)
      rw [quoted, toList_bracketed, quotedPairs, hlisted, toList_paired]
      refine .mark (by decide) ?_
      rw [Query.lexemes_lparen]
      refine fieldless_quoted first hfirst _ (breaks_mark (by decide) _) (.mark (by decide) ?_)
      rw [Query.lexemes_blank (by decide)]
      refine fieldless_quoted second hsecond _ (Query.breaks_rparen _) ?_
      rw [Query.lexemes_rparen]
      rfl
  | .map [], _, rest, _, h => by
      rw [quoted, quotedEntries, toList_braced]
      exact (h.mark (by decide)).mark (by decide)
  | .map ((key, value) :: entries), hk, rest, hb, h => by
      obtain ⟨⟨s, rfl⟩, -⟩ := hk
      obtain ⟨tail, hlisted⟩ := exists_listed ((text s).quoted ++ ": " ++ value.quoted)
        (quotedEntries entries) ('\x7d' :: rest)
      rw [quoted, toList_braced, quotedEntries, hlisted, quoted]
      refine .mark (by decide) ?_
      simp only [String.toList_append, String.toList_ofList, List.append_assoc]
      exact fieldless_quoteLetters s _
  | .set [], _, rest, _, _ => by
      rw [quoted]
      exact Query.fieldless_call (w := ['s', 'e', 't']) (.intro (by decide) (by decide)) _
  | .set (member :: members), hk, rest, hb, h => by
      rw [quoted, toList_braced]
      exact (fieldless_listed (member :: members) hk _ (breaks_mark (by decide) _)
        (h.mark (by decide))).mark (by decide)
  | .sameList, _, rest, _, h => by
      have hpoints : quoted .sameList = "[" ++ "..." ++ "]" := by decide
      rw [hpoints, toList_bracketed]
      refine .mark (by decide) ?_
      rw [toList_points, Query.lexemes_points]
      exact h.mark (by decide)
  | .sameMap, _, rest, _, h => by
      rw [quoted, toList_braced]
      refine .mark (by decide) ?_
      rw [toList_points, Query.lexemes_points]
      exact h.mark (by decide)

theorem fieldless_listed : (items : List Data) → TextKeyedItems items → (rest : List Char) →
    Breaks rest → Fieldless (lexemes rest) →
    Fieldless (lexemes ((listed (quotedItems items)).toList ++ rest))
  | [], _, rest, _, h => h
  | [item], hk, rest, hb, h => by
      rw [toList_listed, quotedItems, quotedItems, List.map_singleton, List.intercalate_singleton]
      exact fieldless_quoted item hk.1 rest hb h
  | item :: next :: items, hk, rest, hb, h => by
      rw [quotedItems, quotedItems, listed_cons_cons, ← quotedItems]
      refine fieldless_quoted item hk.1 _ (breaks_mark (by decide) _) (.mark (by decide) ?_)
      rw [Query.lexemes_blank (by decide)]
      exact fieldless_listed (next :: items) hk.2 rest hb h
end

/-! ## Dates -/

theorem isDigit_paddedDecimal (width n : Nat) :
    ∀ c ∈ (paddedDecimal width n).toList, c.isDigit := by
  rw [paddedDecimal, String.toList_ofList, List.forall_mem_append]
  refine ⟨fun c hc => ?_, Text.isDigit_decimalChars⟩
  rw [(List.mem_replicate.1 hc).2]
  rfl

theorem paddedDecimal_ne_nil (width n : Nat) : (paddedDecimal width n).toList ≠ [] := by
  rw [paddedDecimal, String.toList_ofList]
  exact List.append_ne_nil_of_right_ne_nil _ Text.decimalChars_ne_nil

theorem isWord_date (d : Date) : Query.IsWord d.text.toList := by
  have htext : d.text.toList = (paddedDecimal 4 d.year).toList ++
      '-' :: ((paddedDecimal 2 d.month).toList ++ '-' :: (paddedDecimal 2 d.day).toList) := by
    simp [Date.text]
  have hdigit : ∀ c, c.isDigit → Query.isWordStart c := by
    intro c hc
    simp [Query.isWordStart, Char.isAlphanum, hc]
  have hdigits : ∀ width n, ∀ c ∈ (paddedDecimal width n).toList, isWordChar c := by
    intro width n c hc
    exact Query.isWordChar_of_isWordStart (hdigit c (isDigit_paddedDecimal width n c hc))
  rw [htext]
  refine Query.isWord_of_head ?_ ?_
  · obtain ⟨c, year, hyear⟩ := List.exists_cons_of_ne_nil (paddedDecimal_ne_nil 4 d.year)
    rw [hyear]
    exact hdigit c (isDigit_paddedDecimal 4 d.year c (by simp [hyear]))
  · exact List.forall_mem_append.2 ⟨hdigits _ _, List.forall_mem_cons.2 ⟨by decide,
      List.forall_mem_append.2 ⟨hdigits _ _, List.forall_mem_cons.2 ⟨by decide, hdigits _ _⟩⟩⟩⟩

theorem exists_momentText (m : Moment) : ∃ more, m.text.toList =
    m.date.text.toList ++ ' ' :: ((paddedDecimal 2 m.hour).toList ++ ':' :: more) := by
  have hblank : " ".toList = [' '] := by simp
  have htime : ∀ h n s : String, (":".intercalate [h, n, s]).toList =
      h.toList ++ ':' :: (n.toList ++ ':' :: s.toList) := by simp
  rw [Moment.text]
  simp only [String.toList_append, hblank, htime, List.append_assoc, List.cons_append,
    List.nil_append]
  exact ⟨_, rfl⟩

/-- Day and time of a moment are two words side by side. -/
theorem fieldless_moment (m : Moment) : Fieldless (lexemes m.text.toList) := by
  obtain ⟨more, htext⟩ := exists_momentText m
  have hhour : Query.IsWord (paddedDecimal 2 m.hour).toList :=
    Query.isWord_of_digits (isDigit_paddedDecimal 2 m.hour) (paddedDecimal_ne_nil 2 m.hour)
  rw [htext]
  refine Query.fieldless_word (isWord_date m.date) (by rintro c ⟨⟩; rfl) fun o => ?_
  rw [Query.lexemes_blank (by decide), Query.lexemes_word hhour (by rintro c ⟨⟩; rfl)]
  simp

/-- What is no text is shown as no query. -/
theorem parse_display_ne_ok {d : Data} (hk : d.TextKeyed) (hd : ∀ s, d ≠ .text s) (q : Query) :
    Query.parse d.display ≠ .ok q := by
  apply Query.parse_ne_ok_of_fieldless
  have hquoted : Fieldless (lexemes d.quoted.toList) := by
    have hempty : Fieldless (lexemes []) := by
      rw [lexemes]
      trivial
    have happend := fieldless_quoted d hk [] (by rintro c ⟨⟩) hempty
    rwa [List.append_nil] at happend
  cases d with
  | text s => exact absurd rfl (hd s)
  | date d =>
      have hend : ∀ o, (lexemes []).head? ≠ some (.sign (.op o)) := by simp [lexemes]
      have hword := Query.fieldless_word (isWord_date d) (by rintro c ⟨⟩) hend
      rwa [List.append_nil] at hword
  | moment m => exact fieldless_moment m
  | _ => exact hquoted

/-! ## The interchange format -/

theorem forall_mem_setEntry {κ α : Type} {same : κ → κ → Bool} {P : κ → Prop} {Q : α → Prop}
    {entries : List (κ × α)} (h : ∀ e ∈ entries, P e.1 ∧ Q e.2) {entry : κ × α}
    (he : P entry.1 ∧ Q entry.2) : ∀ e ∈ setEntry same entries entry, P e.1 ∧ Q e.2 := by
  rw [setEntry]
  split
  · rw [List.forall_mem_map]
    intro e hmem
    dsimp only
    split
    · exact ⟨(h e hmem).1, he.2⟩
    · exact h e hmem
  · exact List.forall_mem_append.2 ⟨h, by simpa using he⟩

theorem forall_mem_entriesOf {κ α : Type} {same : κ → κ → Bool} {P : κ → Prop} {Q : α → Prop}
    {settings : List (κ × α)} (h : ∀ e ∈ settings, P e.1 ∧ Q e.2) :
    ∀ e ∈ entriesOf same settings, P e.1 ∧ Q e.2 := by
  suffices hfold : ∀ entries : List (κ × α), (∀ e ∈ entries, P e.1 ∧ Q e.2) →
      ∀ e ∈ settings.foldl (setEntry same) entries, P e.1 ∧ Q e.2 from hfold [] (by simp)
  induction settings with
  | nil => exact fun entries hentries => hentries
  | cons setting settings ih =>
      obtain ⟨hsetting, hrest⟩ := List.forall_mem_cons.1 h
      exact fun entries hentries => ih hrest _ (forall_mem_setEntry hentries hsetting)

mutual
theorem textKeyed_ofJson : (v : Json) → (ofJson v).TextKeyed
  | .null => trivial
  | .bool _ => trivial
  | .int _ => trivial
  | .real _ => trivial
  | .text _ => trivial
  | .list items => textKeyed_ofItems items
  | .object members =>
      textKeyedEntries_iff.2 (forall_mem_entriesOf (P := fun key => ∃ s, key = Data.text s)
        (Q := TextKeyed) (textKeyed_ofMembers members))

theorem textKeyed_ofItems : (items : List Json) → TextKeyedItems (ofItems items)
  | [] => trivial
  | item :: items => ⟨textKeyed_ofJson item, textKeyed_ofItems items⟩

theorem textKeyed_ofMembers : (members : List (Text.Letters × Json)) →
    ∀ e ∈ ofMembers members, (∃ s, e.1 = .text s) ∧ e.2.TextKeyed
  | [] => by simp [ofMembers]
  | (name, value) :: members =>
      List.forall_mem_cons.2 ⟨⟨⟨name, rfl⟩, textKeyed_ofJson value⟩, textKeyed_ofMembers members⟩
end

end Data

/-! ## Presets -/

namespace Presets

open Text (Letters keptText)

variable {limit : Nat} {presets presets' : Presets} {entry : Data × Data}
  {entries : List (Data × Data)}

/-- The entry of a file for a preset. -/
def textEntry (preset : Letters × Letters) : Data × Data := (.text preset.1, .text preset.2)

/-- The preset as it is kept. -/
def keptEntry (preset : Letters × Letters) : String × String :=
  (keptText preset.1, keptText preset.2)

theorem shown_eq_ok {d : Data} {s : String} (h : shown limit d = .ok s) : s = d.display := by
  rw [shown] at h
  split at h
  · cases h
  · cases h
    rfl

theorem add_eq_ok_iff (hkey : ∃ s, entry.1 = .text s) (hvalue : entry.2.TextKeyed) :
    add limit presets entry = .ok presets' ↔ ∃ preset, entry = textEntry preset ∧
      (∃ q, Query.parse (keptText preset.2) = .ok q) ∧
      presets' = setEntry (· == ·) presets (keptEntry preset) := by
  obtain ⟨key, value⟩ := entry
  obtain ⟨name, rfl⟩ := hkey
  constructor
  · intro h
    obtain ⟨query, hquery, h⟩ := exists_of_bind_ok h
    obtain ⟨valid, hvalid, h⟩ := exists_of_bind_ok h
    cases valid with
    | false => cases h
    | true =>
        obtain ⟨q, hq⟩ := Filter.isValid_iff.1 hvalid
        obtain rfl := shown_eq_ok hquery
        have htext : ∃ s, value = .text s := by
          by_contra hnone
          exact Data.parse_display_ne_ok hvalue (fun s hs => hnone ⟨s, hs⟩) q hq
        obtain ⟨s, rfl⟩ := htext
        cases h
        exact ⟨(name, s), rfl, ⟨q, hq⟩, rfl⟩
  · rintro ⟨⟨name, query⟩, hentry, hq, rfl⟩
    cases hentry
    rw [add_eq (shown_text name) (shown_text query), Filter.isValid_iff.2 hq]
    rfl

theorem foldlM_add_eq_ok_iff (hk : Data.TextKeyedEntries entries) :
    entries.foldlM (add limit) presets = .ok presets' ↔
      ∃ texts : List (Letters × Letters), entries = texts.map textEntry ∧
      (∀ preset ∈ texts, ∃ q, Query.parse (keptText preset.2) = .ok q) ∧
      presets' = (texts.map keptEntry).foldl (setEntry (· == ·)) presets := by
  induction entries generalizing presets with
  | nil =>
      constructor
      · rintro ⟨⟩
        exact ⟨[], rfl, by simp, rfl⟩
      · rintro ⟨texts, hnil, -, rfl⟩
        rw [List.map_eq_nil_iff.1 hnil.symm]
        rfl
  | cons entry entries ih =>
      obtain ⟨⟨hkey, hvalue⟩, hrest⟩ := List.forall_mem_cons.1 (Data.textKeyedEntries_iff.1 hk)
      have hks := Data.textKeyedEntries_iff.2 hrest
      rw [List.foldlM_cons]
      constructor
      · intro h
        obtain ⟨added, hadd, h⟩ := exists_of_bind_ok h
        obtain ⟨preset, rfl, hq, rfl⟩ := (add_eq_ok_iff hkey hvalue).1 hadd
        obtain ⟨texts, rfl, hqs, rfl⟩ := (ih hks).1 h
        exact ⟨preset :: texts, rfl, List.forall_mem_cons.2 ⟨hq, hqs⟩, rfl⟩
      · rintro ⟨_ | ⟨preset, texts⟩, hentries, hqs, rfl⟩
        · cases hentries
        · obtain ⟨rfl, rfl⟩ := List.cons.inj hentries
          obtain ⟨hq, hqs⟩ := List.forall_mem_cons.1 hqs
          rw [(add_eq_ok_iff hkey hvalue).2 ⟨preset, rfl, hq, rfl⟩]
          exact (ih hks).2 ⟨texts, rfl, hqs, rfl⟩

/-- A map with texts for keys, at every depth, is accepted just if it maps texts to texts that
denote queries: what is no text is shown as no query. All data of the interchange format has such
keys. -/
theorem accepted_iff_texts (entries : List (Data × Data)) (hk : (Data.map entries).TextKeyed) :
    (∀ limit presets, ofData limit (.map entries) = .ok presets ↔
      ∃ texts : List (Letters × Letters), entries = texts.map textEntry ∧
        (∀ preset ∈ texts, ∃ q, Query.parse (keptText preset.2) = .ok q) ∧
        presets = entriesOf (· == ·) (texts.map keptEntry)) ∧
    (∀ d : Data, d.TextKeyed → (∀ s, d ≠ .text s) → ∀ q, Query.parse d.display ≠ .ok q) ∧
    ∀ v : Json, (Data.ofJson v).TextKeyed :=
  ⟨fun _ _ => foldlM_add_eq_ok_iff hk, fun _ hd hs q => Data.parse_display_ne_ok hd hs q,
    Data.textKeyed_ofJson⟩

/-- A list that is shown with both quotes and with all of a query inside. -/
def quotedQuery : Data :=
  .list [.list [], .map [(.text ↑"it's", .text ↑"pid=\"1\" || '"), (.text ↑"", .int (-1))]]

theorem accepted_iff_texts_quoted :
    (Data.map [(.text ↑"a", quotedQuery)]).TextKeyed ∧
    quotedQuery.display = "[[], \x7b\"it's\": 'pid=\"1\" || \\'', '': -1\x7d]" ∧
    (∀ q, Query.parse quotedQuery.display ≠ .ok q) ∧
    ∀ limit presets, ofData limit (.map [(.text ↑"a", quotedQuery)]) ≠ .ok presets := by
  have hquery : quotedQuery.TextKeyed :=
    ⟨trivial, ⟨⟨_, rfl⟩, trivial, ⟨_, rfl⟩, trivial, trivial⟩, trivial⟩
  have hk : (Data.map [(.text ↑"a", quotedQuery)]).TextKeyed := ⟨⟨_, rfl⟩, hquery, trivial⟩
  obtain ⟨haccepted, hshown, -⟩ := accepted_iff_texts [(.text ↑"a", quotedQuery)] hk
  refine ⟨hk, by decide +kernel, hshown quotedQuery hquery (by rintro s ⟨⟩),
    fun limit presets h => ?_⟩
  obtain ⟨_ | ⟨preset, texts⟩, hentries, -⟩ := (haccepted limit presets).1 h
  · cases hentries
  · cases congrArg Prod.snd (List.cons.inj hentries).1

/-- A key that is no text can be the field of a comparison. -/
example : (Query.parse (Data.map [(.null, .int 1)]).display).toOption.isSome := by decide +kernel

end Presets

end SocketInventory
