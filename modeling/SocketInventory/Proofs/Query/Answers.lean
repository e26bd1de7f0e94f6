import SocketInventory.Proofs.Outcome
import SocketInventory.Query.Evaluation

/-!
# Answers of queries

The answer that a query gives is what holds of the record. The one thing that can keep it from
giving one is an integer of the record that has too many digits to be shown: every operator of a
query is known, and what stands on its two sides is made to be of one sort.
-/

namespace SocketInventory

/-! ## Integers that can be shown -/

namespace Query

def Content.Shown : Content → Prop
  | .number n => (Text.decimalChars n.natAbs).length ≤ Text.digitLimit
  | .text _ => True

instance : DecidablePred Content.Shown
  | .number _ => inferInstanceAs (Decidable (_ ≤ _))
  | .text _ => inferInstanceAs (Decidable True)

end Query

/-- Every integer of the record has at most as many digits as are shown. -/
structure Record.Shown (r : Record) : Prop where
  pid : (Query.Content.number r.pid).Shown
  localPort : ∀ n, r.localEnd.port = some n → (Query.Content.number n).Shown
  remotePort : ∀ n, r.remoteEnd.port = some n → (Query.Content.number n).Shown

/-- A socket with a port and the name of an owner. -/
def Record.namedListener : Record :=
  ⟨"tcp", ⟨none, some 80⟩, ⟨none, some 0⟩, "LISTEN", 7, some "sshd"⟩

theorem Record.shown_namedListener : namedListener.Shown where
  pid := by decide
  localPort := by rintro _ ⟨⟩; decide
  remotePort := by rintro _ ⟨⟩; decide

namespace Query

variable {r : Record} {c : Content} {op : Op}

theorem Content.shown_eq (h : c.Shown) : c.shown = .ok c.chars := by
  cases c with
  | number n => exact if_neg (by simpa [Content.Shown] using h)
  | text s => rfl

theorem Content.shown_error (h : ¬ c.Shown) : c.shown = .error (.data .integerLength) := by
  cases c with
  | number n => exact if_pos (by simpa [Content.Shown] using h)
  | text s => exact absurd trivial h

theorem shown_content (hr : r.Shown) {f : Field} (h : f.content? r = some c) : c.Shown := by
  cases f with
  | pid => cases h; exact hr.pid
  | localPort =>
      obtain ⟨n, hn, rfl⟩ := Option.map_eq_some_iff.1 h
      exact hr.localPort n hn
  | remotePort =>
      obtain ⟨n, hn, rfl⟩ := Option.map_eq_some_iff.1 h
      exact hr.remotePort n hn
  | processName =>
      obtain ⟨s, hs, rfl⟩ := Option.map_eq_some_iff.1 h
      trivial
  | protocol | state | localAddress | remoteAddress => cases h; trivial

/-! ## Comparisons -/

theorem number_beq (m n : Int) : (Key.number m == .number n) = Op.eq.test m n := by
  rw [Bool.eq_iff_iff]
  simp [Op.test]

theorem text_beq (s t : List Nat) : (Key.text s == .text t) = Op.eq.test s t := by
  rw [Bool.eq_iff_iff]
  simp [Op.test]

theorem lookup_orderings (he : op ≠ .eq) (hn : op ≠ .ne) : orderings.lookup op.text = some op := by
  cases op with
  | eq => exact absurd rfl he
  | ne => exact absurd rfl hn
  | lt | gt | le | ge => rfl

/-- Two keys of one sort have an answer to every operator. -/
theorem answer_between {a b : Key} {answer : Bool} (h : Key.order op a b = .ok answer) :
    (Stage.between op.text a b).answer = .ok answer := by
  by_cases he : op = .eq
  · subst he
    cases a <;> cases b <;> cases h
    · exact congrArg Except.ok (number_beq _ _)
    · exact congrArg Except.ok (text_beq _ _)
  · by_cases hn : op = .ne
    · subst hn
      cases a <;> cases b <;> cases h
      · exact congrArg (fun b => Except.ok !b) (number_beq _ _)
      · exact congrArg (fun b => Except.ok !b) (text_beq _ _)
    · have hb : Stage.between op.text a b = .ordering op.text a b := by
        cases op with
        | eq => exact absurd rfl he
        | ne => exact absurd rfl hn
        | lt | gt | le | ge => rfl
      simp only [hb, Stage.answer, lookup_orderings he hn, h]

/-- The stage of two texts is answered as the comparison of the texts. -/
theorem answer_stageText (op : Op) (actual expected : List Char) :
    (stageText op.text (Text.lower actual) (Text.lower expected)).answer =
      .ok (compareText actual op expected) := by
  have heq : op.text = "=" ↔ op = .eq := by cases op <;> decide
  by_cases h : op = .eq ∧ Text.hasStar (Text.lower expected)
  · obtain ⟨rfl, hstar⟩ := h
    simp [stageText, compareText, Op.text, hstar, Stage.answer]
  · have hstage : stageText op.text (Text.lower actual) (Text.lower expected) =
        .between op.text (.text (Text.codes (Text.lower actual)))
          (.text (Text.codes (Text.lower expected))) := by
      rw [stageText, if_neg (by simpa [heq] using h)]
    have htest : compareText actual op expected =
        op.test (Text.codes (Text.lower actual)) (Text.codes (Text.lower expected)) := by
      simp only [compareText]
      exact if_neg (by simpa using h)
    rw [hstage, htest]
    exact answer_between rfl

theorem answer_stage (h : c.Shown) (op : Op) (expected : Content) :
    stage c op.text expected >>= Stage.answer = .ok (compareContent c op expected) := by
  cases expected with
  | text s =>
      rw [stage, Content.shown_eq h]
      exact answer_stageText op c.chars s.toList
  | number n =>
      simp only [stage, compareContent]
      cases c.integer? with
      | some a => exact answer_between rfl
      | none =>
          have hne : (op.text == "!=") = (op == .ne) := by cases op <;> rfl
          exact congrArg Except.ok hne

/-- A comparison fails only beside a text, by an integer that is not shown. -/
theorem stage_cases (c : Content) (op : Op) (expected : Content) :
    stage c op.text expected >>= Stage.answer = .ok (compareContent c op expected) ∨
      stage c op.text expected >>= Stage.answer = .error (.data .integerLength) ∧ ¬ c.Shown := by
  by_cases h : c.Shown
  · exact .inl (answer_stage h op expected)
  · cases expected with
    | text s =>
        refine .inr ⟨?_, h⟩
        rw [stage, Content.shown_error h]
        rfl
    | number n =>
        cases c with
        | number m => exact .inl (answer_between rfl)
        | text s => exact absurd trivial h

/-! ## Queries -/

/-- The query has an answer for the record. -/
def Answers (q : Query) (r : Record) : Prop := q.evaluate r = .ok (q.holds r)

/-- A query has an answer, or it meets an integer that is not shown. -/
theorem answers_or (q : Query) (r : Record) :
    q.Answers r ∨ q.evaluate r = .error (.data .integerLength) ∧ ¬ r.Shown := by
  induction q with
  | comparison field op value =>
      simp only [Answers, evaluate, holds]
      cases hc : Field.ofName? field >>= Field.content? r with
      | none => exact .inl rfl
      | some c =>
          rcases stage_cases c op value.content with h | ⟨h, hn⟩
          · exact .inl h
          · refine .inr ⟨h, fun hr => hn ?_⟩
            obtain ⟨f, -, hf⟩ := Option.bind_eq_some_iff.1 hc
            exact shown_content hr hf
  | group q ih => exact ih
  | not q ih =>
      rcases ih with h | ⟨h, hr⟩
      · exact .inl (by rw [Answers, evaluate, h]; rfl)
      · exact .inr ⟨by rw [evaluate, h]; rfl, hr⟩
  | and p q ihp ihq =>
      rcases ihp with h | ⟨h, hr⟩
      · rw [Answers] at h
        simp only [Answers, evaluate, holds, h]
        cases p.holds r with
        | true => exact ihq
        | false => exact .inl rfl
      · exact .inr ⟨by rw [evaluate, h]; rfl, hr⟩
  | or p q ihp ihq =>
      rcases ihp with h | ⟨h, hr⟩
      · rw [Answers] at h
        simp only [Answers, evaluate, holds, h]
        cases p.holds r with
        | true => exact .inl rfl
        | false => exact ihq
      · exact .inr ⟨by rw [evaluate, h]; rfl, hr⟩

theorem answers_of_shown {r : Record} (hr : r.Shown) (q : Query) : q.Answers r := by
  rcases answers_or q r with h | ⟨-, hn⟩
  · exact h
  · exact absurd hr hn

theorem Answers.evaluate_eq {q : Query} (h : q.Answers r) : q.evaluate r = .ok (q.holds r) := h

theorem answers_iff {q : Query} : q.Answers r ↔ ∃ answer, q.evaluate r = .ok answer := by
  refine ⟨fun h => ⟨_, h⟩, fun ⟨answer, h⟩ => ?_⟩
  rcases answers_or q r with hq | ⟨hq, -⟩
  · exact hq
  · cases hq.symm.trans h

theorem not_answers_iff {q : Query} :
    ¬ q.Answers r ↔ q.evaluate r = .error (.data .integerLength) := by
  refine ⟨fun h => ?_, fun h hq => ?_⟩
  · exact ((answers_or q r).resolve_left h).1
  · cases h.symm.trans hq

/-- The second part of a conjunction is asked only where the first one holds. -/
theorem answers_and_iff {p q : Query} :
    (p.and q).Answers r ↔ p.Answers r ∧ (p.holds r = true → q.Answers r) := by
  simp only [answers_iff (q := p.and q), evaluate]
  by_cases hp : p.Answers r
  · rw [hp.evaluate_eq]
    cases p.holds r with
    | true => simpa [hp, bind, Except.bind] using answers_iff.symm
    | false => simp [hp, bind, Except.bind, pure, Except.pure]
  · rw [not_answers_iff.1 hp]
    simp [hp, bind, Except.bind]

theorem answers_comparison {field : String} {value : Value}
    (hc : Field.ofName? field >>= Field.content? r = some c) (h : c.Shown) (op : Op) :
    (comparison field op value).Answers r := by
  simp only [Answers, evaluate, holds, hc]
  exact answer_stage h op value.content

/-! ## Lists of records -/

theorem filterAuxM_evaluate {records : List Record} {q : Query}
    (h : ∀ r ∈ records, q.Answers r) (kept : List Record) :
    records.filterAuxM (fun r => q.evaluate r) kept =
      .ok ((records.filter fun r => q.holds r).reverse ++ kept) := by
  induction records generalizing kept with
  | nil => rfl
  | cons r records ih =>
      obtain ⟨hr, hrs⟩ := List.forall_mem_cons.1 h
      rw [List.filterAuxM, hr.evaluate_eq]
      refine (ih hrs _).trans ?_
      cases hq : q.holds r <;> simp [hq]

/-- Where the query has an answer for every record, those that it holds of are kept. -/
theorem filterM_evaluate {records : List Record} {q : Query} (h : ∀ r ∈ records, q.Answers r) :
    records.filterM (fun r => q.evaluate r) = .ok (records.filter fun r => q.holds r) := by
  rw [List.filterM, filterAuxM_evaluate h, List.append_nil]
  exact congrArg Except.ok (List.reverse_reverse _)

theorem filterM_evaluate_error {records : List Record} {q : Query}
    (h : ∃ r ∈ records, ¬ q.Answers r) :
    records.filterM (fun r => q.evaluate r) = .error (.data .integerLength) := by
  have haux : ∀ kept, records.filterAuxM (fun r => q.evaluate r) kept =
      .error (.data .integerLength) := by
    induction records with
    | nil => simp at h
    | cons r records ih =>
        intro kept
        rw [List.filterAuxM]
        by_cases hr : q.Answers r
        · obtain ⟨r', hmem, hr'⟩ := h
          rcases List.mem_cons.1 hmem with rfl | hmem
          · exact absurd hr hr'
          · rw [hr.evaluate_eq]
            exact ih ⟨r', hmem, hr'⟩ _
        · rw [not_answers_iff.1 hr]
          rfl
  rw [List.filterM, haux]
  rfl

theorem filterM_evaluate_eq_ok_iff {records kept : List Record} {q : Query} :
    records.filterM (fun r => q.evaluate r) = .ok kept ↔
      (∀ r ∈ records, q.Answers r) ∧ kept = records.filter fun r => q.holds r := by
  by_cases h : ∀ r ∈ records, q.Answers r
  · rw [filterM_evaluate h, Except.ok.injEq, eq_comm]
    exact (and_iff_right h).symm
  · have herror : ∃ r ∈ records, ¬ q.Answers r := by simpa using h
    rw [filterM_evaluate_error herror]
    exact iff_of_false (by rintro ⟨⟩) fun hok => h hok.1

/-- A conjunction keeps what its second part keeps of what its first part keeps, and has no answer
where one of them has none. -/
theorem filterM_and (records : List Record) (p q : Query) :
    records.filterM (fun r => (p.and q).evaluate r) =
      (records.filterM fun r => p.evaluate r).bind fun alone =>
        alone.filterM fun r => q.evaluate r := by
  by_cases hp : ∀ r ∈ records, p.Answers r
  · rw [filterM_evaluate hp, Except.bind]
    by_cases hq : ∀ r ∈ records, p.holds r = true → q.Answers r
    · have hboth : ∀ r ∈ records, (p.and q).Answers r :=
        fun r hr => answers_and_iff.2 ⟨hp r hr, hq r hr⟩
      have hkept : ∀ r ∈ records.filter (fun r => p.holds r), q.Answers r :=
        fun r hr => hq r (List.mem_filter.1 hr).1 (List.mem_filter.1 hr).2
      rw [filterM_evaluate hboth, filterM_evaluate hkept, List.filter_filter]
      simp only [holds, Bool.and_comm]
    · obtain ⟨r, hr, hpr, hqr⟩ : ∃ r ∈ records, p.holds r = true ∧ ¬ q.Answers r := by
        simpa using hq
      rw [filterM_evaluate_error ⟨r, hr, fun h => hqr ((answers_and_iff.1 h).2 hpr)⟩,
        filterM_evaluate_error ⟨r, List.mem_filter.2 ⟨hr, hpr⟩, hqr⟩]
  · obtain ⟨r, hr, hpr⟩ : ∃ r ∈ records, ¬ p.Answers r := by simpa using hp
    rw [filterM_evaluate_error ⟨r, hr, fun h => hpr (answers_and_iff.1 h).1⟩,
      filterM_evaluate_error ⟨r, hr, hpr⟩]
    rfl

end Query

end SocketInventory
