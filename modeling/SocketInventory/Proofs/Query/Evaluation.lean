import SocketInventory.Proofs.Selection

/-!
# Evaluation does not fail

An accepted query asks for an order only of two keys of one sort, and by an operator that is known,
so that it is evaluated to what holds of every record whose integers can be shown.
-/

namespace SocketInventory

namespace Query

variable {c : Content} {op : Op}

/-! ## Questions of order -/

/-- The operators that answer at once are those of equality. -/
theorem between_ordering {name : String} {a b a' b' : Key}
    (h : Stage.between op.text a b = .ordering name a' b') :
    name ∈ orderings.map Prod.fst ∧ a' = a ∧ b' = b := by
  cases op with
  | eq | ne => cases h
  | lt | gt | le | ge => cases h; simp [orderings, Op.text]

/-- An order is asked of keys of one sort, by an operator of the table. -/
theorem stage_ordering {expected : Content} {name : String} {a b : Key}
    (h : stage c op.text expected = .ok (.ordering name a b)) :
    name ∈ orderings.map Prod.fst ∧ a.sort = b.sort := by
  cases expected with
  | text s =>
      obtain ⟨chars, -, hs⟩ := exists_of_bind_ok h
      replace hs := Except.ok.inj hs
      unfold stageText at hs
      split at hs
      · cases hs
      · obtain ⟨hname, rfl, rfl⟩ := between_ordering hs
        exact ⟨hname, rfl⟩
  | number n =>
      rw [stage] at h
      split at h
      · obtain ⟨hname, rfl, rfl⟩ := between_ordering (Except.ok.inj h)
        exact ⟨hname, rfl⟩
      · cases h

/-! ## Comparisons of a query -/

def comparisons : Query → List (String × Op × Value)
  | .comparison field op value => [(field, op, value)]
  | .group q | .not q => q.comparisons
  | .and p q | .or p q => p.comparisons ++ q.comparisons

/-- The comparison stands as three tokens in a row. -/
def Stands (tokens : List Token) (x : String × Op × Value) : Prop :=
  ∃ w, ∃ operand : Operand, [.word w, .op x.2.1, operand.token] <:+: tokens ∧
    fieldName w = x.1 ∧ operand.value = x.2.2

theorem Stands.mono {tokens more : List Token} {x : String × Op × Value} (h : Stands tokens x)
    (hm : tokens <:+: more) : Stands more x := by
  obtain ⟨w, operand, hin, hfield, hvalue⟩ := h
  exact ⟨w, operand, hin.trans hm, hfield, hvalue⟩

mutual
theorem Disjunction.stands {x : String × Op × Value} :
    (d : Disjunction) → x ∈ d.query.comparisons → Stands d.tokens x
  | .last c, h => c.stands h
  | .or c d, h => by
      rcases List.mem_append.1 h with h | h
      · exact (c.stands h).mono (List.prefix_append _ _).isInfix
      · exact (d.stands h).mono ((List.suffix_cons _ _).trans (List.suffix_append _ _)).isInfix

theorem Conjunction.stands {x : String × Op × Value} :
    (c : Conjunction) → x ∈ c.query.comparisons → Stands c.tokens x
  | .last f, h => f.stands h
  | .and f c, h => by
      rcases List.mem_append.1 h with h | h
      · exact (f.stands h).mono (List.prefix_append _ _).isInfix
      · exact (c.stands h).mono ((List.suffix_cons _ _).trans (List.suffix_append _ _)).isInfix

theorem Factor.stands {x : String × Op × Value} :
    (f : Factor) → x ∈ f.query.comparisons → Stands f.tokens x
  | .group d, h =>
      (d.stands h).mono ((List.prefix_append _ _).isInfix.trans (List.suffix_cons _ _).isInfix)
  | .not f, h => (f.stands h).mono (List.suffix_cons _ _).isInfix
  | .comparison field op operand, h => by
      cases List.mem_singleton.1 h
      exact ⟨field, operand, List.infix_rfl, rfl, rfl⟩
end

theorem stands_of_parse {s : String} {q : Query} (hq : Query.parse s = .ok q)
    {x : String × Op × Value} (hx : x ∈ q.comparisons) :
    ∃ tokens, tokenize s = .ok tokens ∧ Stands tokens x := by
  obtain ⟨d, hd, -, rfl⟩ := parse_eq_ok_iff.1 hq
  refine ⟨d.tokens ++ [.eof], tokenize_of_ok hd, ?_⟩
  exact (d.stands hx).mono (List.prefix_append _ _).isInfix

/-! ## Accepted queries -/

/-- An accepted query has an answer for every record whose integers can be shown. Each of its
comparisons stands in the text, and asks for an order by an operator of the table only, of two
keys of one sort. -/
theorem evaluate_accepted (s : String) (q : Query) (hq : Query.parse s = .ok q) :
    (∀ r : Record, r.Shown → q.evaluate r = .ok (q.holds r)) ∧
    (∀ field op value, (field, op, value) ∈ q.comparisons →
      (∃ tokens, tokenize s = .ok tokens ∧ Stands tokens (field, op, value)) ∧
      ∀ actual name a b, stage actual op.text value.content = .ok (.ordering name a b) →
        name ∈ orderings.map Prod.fst ∧ a.sort = b.sort) ∧
    ∀ records : List Record,
      Filter.apply records s = records.filterM (fun r => q.evaluate r) ∧
      ((∀ r ∈ records, r.Shown) →
        Filter.apply records s = .ok (records.filter fun r => q.holds r)) := by
  refine ⟨fun r hr => answers_of_shown hr q, fun field op value hx => ?_,
    fun records => ⟨Filter.apply_eq hq records, Filter.apply_shown hq⟩⟩
  exact ⟨stands_of_parse hq hx, fun actual name a b h => stage_ordering h⟩

theorem evaluate_accepted_listener :
    ∃ q, Query.parse "!(lport>=100 or Name<'nginx')" = .ok q ∧ Record.namedListener.Shown ∧
      q.evaluate Record.namedListener = .ok true ∧ ("lport", .ge, .number 100) ∈ q.comparisons := by
  have hq : Query.parse "!(lport>=100 or Name<'nginx')" = .ok (.not (.group (.or
      (.comparison "lport" .ge (.number 100)) (.comparison "name" .lt (.text "nginx"))))) :=
    ok_of_toOption (by decide +kernel)
  obtain ⟨hanswer, -, -⟩ := evaluate_accepted _ _ hq
  refine ⟨_, hq, Record.shown_namedListener, ?_, by decide⟩
  rw [hanswer Record.namedListener Record.shown_namedListener]
  exact congrArg Except.ok (by decide +kernel)

end Query

end SocketInventory
