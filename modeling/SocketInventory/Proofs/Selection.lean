import SocketInventory.Proofs.Query.Answers
import SocketInventory.Proofs.Query.Narrowing
import SocketInventory.Proofs.Session
import SocketInventory.Selection

/-!
# Presets and filters

What a filter does to the preset that it is put together with. The two are joined as texts, so that
a filter may leave the parentheses around it and a quote left open in the preset may swallow what
follows. A filter that is valid on its own narrows every preset that does not leak.
-/

namespace SocketInventory

/-! ## Filters -/

namespace Filter

theorem isBlank_eq_false {s : String} {q : Query} (h : Query.parse s = .ok q) :
    isBlank s = false := by
  by_contra hblank
  obtain ⟨d, hd, -, -⟩ := Query.parse_eq_ok_iff.1 h
  have hs : ∀ c ∈ s.toList, Text.isBlank c := by
    simpa [isBlank, Text.isBlankText] using hblank
  have hnil := Query.lexemes_blanks hs []
  rw [List.append_nil] at hnil
  rw [hnil, Query.lexemes] at hd
  exact d.tokens_ne_nil (Except.ok.inj hd).symm

theorem isValid_iff {s : String} : isValid s = .ok true ↔ ∃ q, Query.parse s = .ok q := by
  constructor
  · intro h
    unfold isValid at h
    split at h
    · cases h
    · split at h
      · rename_i q hq
        exact ⟨q, hq⟩
      · cases h
      · cases h
  · rintro ⟨q, hq⟩
    rw [isValid, isBlank_eq_false hq, hq]
    rfl

theorem refusal?_iff {s : String} (hs : isBlank s = false) :
    refusal? s = .ok none ↔ ∃ q, Query.parse s = .ok q := by
  constructor
  · intro h
    unfold refusal? at h
    rw [hs] at h
    split at h
    · cases ‹false = true›
    · split at h
      · rename_i q hq
        exact ⟨q, hq⟩
      · cases h
      · cases h
  · rintro ⟨q, hq⟩
    rw [refusal?, hs, hq]
    rfl

theorem apply_eq {s : String} {q : Query} (hq : Query.parse s = .ok q) (records : List Record) :
    apply records s = records.filterM fun r => q.evaluate r := by
  rw [apply, isBlank_eq_false hq, hq]
  rfl

theorem apply_eq_ok_iff {s : String} {q : Query} (hq : Query.parse s = .ok q)
    {records kept : List Record} : apply records s = .ok kept ↔
      (∀ r ∈ records, q.Answers r) ∧ kept = records.filter fun r => q.holds r := by
  rw [apply_eq hq, Query.filterM_evaluate_eq_ok_iff]

/-- Of records whose integers can be shown a filter keeps those that its query holds of. -/
theorem apply_shown {s : String} {q : Query} (hq : Query.parse s = .ok q) {records : List Record}
    (hr : ∀ r ∈ records, r.Shown) : apply records s = .ok (records.filter fun r => q.holds r) :=
  (apply_eq_ok_iff hq).2 ⟨fun r hmem => Query.answers_of_shown (hr r hmem) q, rfl⟩

theorem isBlank_narrow (preset extra : String) : isBlank (narrow preset extra) = false := by
  rw [isBlank, Query.toList_narrow]
  rfl

end Filter

/-! ## Presets -/

namespace Selection

open Query (Leaks Sealed)

/-- The filter is one on its own, and what it keeps of some records together with a preset the
preset alone keeps, wherever the two are accepted together. -/
def Narrows (among : Record → Prop) (presets : Presets) (name filter : String) : Prop :=
  ∀ text alone, query presets (some name) filter = .ok text →
    query presets (some name) "" = .ok alone → Filter.refusal? text = .ok none →
    Filter.isValid filter = .ok true ∧
      ∀ records kept, (∀ r ∈ records, among r) → Filter.apply records text = .ok kept →
        ∃ keptAlone, Filter.apply records alone = .ok keptAlone ∧ ∀ r ∈ kept, r ∈ keptAlone

variable {presets : Presets} {name preset filter : String}

theorem query_narrow (hn : name ≠ "") (hp : presets.lookup name = some preset)
    (hf : filter ≠ "") : query presets (some name) filter = .ok (Filter.narrow preset filter) := by
  simp [query, Option.filter, hn, hp, hf]

theorem query_alone (hn : name ≠ "") (hp : presets.lookup name = some preset) :
    query presets (some name) "" = .ok preset := by
  simp [query, Option.filter, hn, hp]

/-- The law in terms of the queries that the texts denote. -/
theorem narrows_iff_holds {among : Record → Prop} {p : Query} (hn : name ≠ "")
    (hp : presets.lookup name = some preset) (hv : Query.parse preset = .ok p) (hf : filter ≠ "") :
    Narrows among presets name filter ↔
      ∀ q, Query.parse (Filter.narrow preset filter) = .ok q →
        Filter.isValid filter = .ok true ∧
          ∀ r : Record, among r → q.Answers r →
            p.Answers r ∧ (q.holds r = true → p.holds r = true) := by
  have haccept := Filter.refusal?_iff (Filter.isBlank_narrow preset filter)
  constructor
  · intro h q hq
    obtain ⟨hvalid, hkeep⟩ := h _ _ (query_narrow hn hp hf) (query_alone hn hp)
      (haccept.2 ⟨q, hq⟩)
    refine ⟨hvalid, fun r hr hanswers => ?_⟩
    obtain ⟨keptAlone, halone, hmem⟩ := hkeep [r] _ (by simpa using hr)
      ((Filter.apply_eq_ok_iff hq).2 ⟨by simpa using hanswers, rfl⟩)
    obtain ⟨hall, rfl⟩ := (Filter.apply_eq_ok_iff hv).1 halone
    refine ⟨hall r (by simp), fun hqr => ?_⟩
    simpa using hmem r (by simp [hqr])
  · intro h text alone htext halone hacc
    obtain rfl := Except.ok.inj ((query_narrow hn hp hf).symm.trans htext)
    obtain rfl := Except.ok.inj ((query_alone hn hp).symm.trans halone)
    obtain ⟨q, hq⟩ := haccept.1 hacc
    obtain ⟨hvalid, hholds⟩ := h q hq
    refine ⟨hvalid, fun records kept hrecords hkept => ?_⟩
    obtain ⟨hall, rfl⟩ := (Filter.apply_eq_ok_iff hq).1 hkept
    have halone := (Filter.apply_eq_ok_iff hv).2
      ⟨fun r hr => (hholds r (hrecords r hr) (hall r hr)).1, rfl⟩
    refine ⟨_, halone, fun r hr => ?_⟩
    obtain ⟨hr, hqr⟩ := List.mem_filter.1 hr
    exact List.mem_filter.2 ⟨hr, (hholds r (hrecords r hr) (hall r hr)).2 hqr⟩

/-- A filter that closes no quote of a preset and is valid on its own narrows it. -/
theorem narrows_of_sealed (among : Record → Prop) (hn : name ≠ "")
    (hp : presets.lookup name = some preset) (hv : Filter.isValid preset = .ok true)
    (hf : filter ≠ "") (hs : Sealed preset.toList filter.toList)
    (hvf : Filter.isValid filter = .ok true) : Narrows among presets name filter := by
  obtain ⟨p, hpp⟩ := Filter.isValid_iff.1 hv
  obtain ⟨f, hff⟩ := Filter.isValid_iff.1 hvf
  refine (narrows_iff_holds hn hp hpp hf).2 fun q hq => ⟨hvf, fun r _ hanswers => ?_⟩
  rw [Query.parse_narrow hs hpp hff hq] at hanswers ⊢
  refine ⟨(Query.answers_and_iff.1 hanswers).1, fun hr => ?_⟩
  simp only [Query.holds, Bool.and_eq_true] at hr
  exact hr.1

/-- A preset that does not leak is narrowed by every filter that is valid on its own, among any
records: one that would close a quote of the preset is not accepted together with it. -/
theorem narrows_of_not_leaks (among : Record → Prop) (hn : name ≠ "")
    (hp : presets.lookup name = some preset) (hv : Filter.isValid preset = .ok true)
    (hleaks : ¬ Leaks preset.toList) (hf : filter ≠ "") (hvf : Filter.isValid filter = .ok true) :
    Narrows among presets name filter := by
  by_cases hs : Sealed preset.toList filter.toList
  · exact narrows_of_sealed among hn hp hv hf hs hvf
  · obtain ⟨p, hpp⟩ := Filter.isValid_iff.1 hv
    refine (narrows_iff_holds hn hp hpp hf).2 fun q hq => absurd ?_ hleaks
    exact Query.leaks_of_parse hpp hq (by simpa [Sealed] using hs)

/-- A valid preset is narrowed by every filter that is valid on its own exactly when it does not
leak or keeps every record anyway: among records whose integers can be shown, and where the preset
does not leak among all. And wherever a preset and a filter that closes none of its quotes are
accepted together, the law fails only by a filter that is not valid on its own. -/
theorem narrows_iff_not_leaks (presets : Presets) (name preset : String) (hn : name ≠ "")
    (hp : presets.lookup name = some preset) (hv : Filter.isValid preset = .ok true) :
    ((∀ filter, filter ≠ "" → Filter.isValid filter = .ok true →
        Narrows Record.Shown presets name filter) ↔
      ¬ Leaks preset.toList ∨
        ∀ records, (∀ r ∈ records, r.Shown) → Filter.apply records preset = .ok records) ∧
    (¬ Leaks preset.toList → ∀ filter, filter ≠ "" → Filter.isValid filter = .ok true →
      ∀ among, Narrows among presets name filter) ∧
    ∀ filter text, filter ≠ "" → Sealed preset.toList filter.toList →
      query presets (some name) filter = .ok text → Filter.refusal? text = .ok none →
        ∀ among, Narrows among presets name filter ↔ Filter.isValid filter = .ok true := by
  obtain ⟨p, hpp⟩ := Filter.isValid_iff.1 hv
  refine ⟨⟨fun h => ?_, fun h filter hf hvf => ?_⟩,
    fun hleaks filter hf hvf among => narrows_of_not_leaks among hn hp hv hleaks hf hvf,
    fun filter text hf hs ht hacc among => ⟨?_, narrows_of_sealed among hn hp hv hf hs⟩⟩
  · by_cases hleaks : Leaks preset.toList
    · right
      obtain ⟨filter, f, q, hf, hff, hq, hall⟩ := hleaks.escape
      have hvf := Filter.isValid_iff.2 ⟨f, hff⟩
      obtain ⟨-, hholds⟩ := (narrows_iff_holds hn hp hpp hf).1 (h filter hf hvf) q hq
      intro records hshown
      have hkeep : ∀ r ∈ records, p.holds r = true := fun r hr =>
        (hholds r (hshown r hr) (Query.answers_of_shown (hshown r hr) q)).2 (hall r)
      rw [Filter.apply_shown hpp hshown, List.filter_eq_self.2 hkeep]
    · exact .inl hleaks
  · rcases h with hleaks | hall
    · exact narrows_of_not_leaks _ hn hp hv hleaks hf hvf
    · refine (narrows_iff_holds hn hp hpp hf).2 fun q _ => ⟨hvf, fun r hr _ => ?_⟩
      have hkept := hall [r] (by simpa using hr)
      rw [Filter.apply_shown hpp (by simpa using hr)] at hkept
      exact ⟨Query.answers_of_shown hr p, fun _ => by simpa using Except.ok.inj hkept⟩
  · intro h
    exact (h text preset ht (query_alone hn hp) hacc).1

theorem narrows_iff_not_leaks_listening :
    "listening" ≠ "" ∧ List.lookup "listening" [("listening", "state=LISTEN")] =
        some "state=LISTEN" ∧ Filter.isValid "state=LISTEN" = .ok true ∧
      ((∀ filter, filter ≠ "" → Filter.isValid filter = .ok true →
          Narrows Record.Shown [("listening", "state=LISTEN")] "listening" filter) ↔
        ¬ Leaks "state=LISTEN".toList ∨ ∀ records, (∀ r ∈ records, r.Shown) →
          Filter.apply records "state=LISTEN" = .ok records) := by
  have hn : "listening" ≠ "" := by decide
  have hp : List.lookup "listening" [("listening", "state=LISTEN")] = some "state=LISTEN" := rfl
  have hv : Filter.isValid "state=LISTEN" = .ok true := ok_of_toOption (by decide +kernel)
  exact ⟨hn, hp, hv, (narrows_iff_not_leaks _ _ _ hn hp hv).1⟩

/-- Both ways of escaping: a filter that closes the parentheses around it and opens others, and a
valid filter that closes the string which a valid preset leaves open. -/
theorem narrows_escaped :
    Filter.isValid "state=LISTEN" = .ok true ∧
      ¬ Narrows Record.Shown [("listening", "state=LISTEN")] "listening" "pid=1) || (pid=2" ∧
    Filter.isValid "state=\"LISTEN" = .ok true ∧ Filter.isValid "pid=1 \" || pid=2" = .ok true ∧
      ¬ Narrows Record.Shown [("listening", "state=\"LISTEN")] "listening"
        "pid=1 \" || pid=2" := by
  refine ⟨ok_of_toOption (by decide +kernel), fun h => ?_, ok_of_toOption (by decide +kernel),
    ok_of_toOption (by decide +kernel), fun h => ?_⟩
  · have hacc : Filter.refusal? (Filter.narrow "state=LISTEN" "pid=1) || (pid=2") = .ok none :=
      ok_of_toOption (by decide +kernel)
    have hvalid : Filter.isValid "pid=1) || (pid=2" = .ok false :=
      ok_of_toOption (by decide +kernel)
    obtain ⟨hvalid', -⟩ := h _ _ rfl rfl hacc
    rw [hvalid] at hvalid'
    cases hvalid'
  · let r : Record := ⟨"tcp", ⟨none, some 1⟩, ⟨none, none⟩, "ESTABLISHED", 2, some "x"⟩
    have hshown : r.Shown := ⟨by decide, by rintro _ ⟨⟩; decide, by rintro _ ⟨⟩⟩
    have hacc : Filter.refusal? (Filter.narrow "state=\"LISTEN" "pid=1 \" || pid=2") = .ok none :=
      ok_of_toOption (by decide +kernel)
    have hkept : Filter.apply [r] (Filter.narrow "state=\"LISTEN" "pid=1 \" || pid=2") = .ok [r] :=
      ok_of_toOption (by decide +kernel)
    have halone : Filter.apply [r] "state=\"LISTEN" = .ok [] := ok_of_toOption (by decide +kernel)
    obtain ⟨-, hkeep⟩ := h _ "state=\"LISTEN" rfl rfl hacc
    obtain ⟨keptAlone, halone', hmem⟩ := hkeep [r] [r] (by simpa using hshown) hkept
    rw [halone] at halone'
    cases halone'
    exact absurd (hmem r (by simp)) (by simp)

/-! ## Answers -/

/-- What becomes of a failure: a message for those of the host, and a failure for all others. -/
def answer {α : Type} : Except Error α → Except Error (Except String α)
  | .ok a => .ok (.ok a)
  | .error (.enumeration e) => .ok (.error e.message)
  | .error (.processTable e) => .ok (.error e.message)
  | .error e => .error e

theorem answer_eq_ok_iff {α : Type} {x : Except Error α} {a : α} :
    answer x = .ok (.ok a) ↔ x = .ok a := by
  rcases x with e | b
  · cases e <;> simp [answer]
  · simp [answer]

/-- The inventory is taken once, and filtered as it was taken. -/
theorem records_run (inventory : Session (List Record)) (text : String) (m : Machine) :
    (records inventory text).run.run m =
      (answer ((inventory.run.run m).1.bind fun rs => Filter.apply rs text),
        (inventory.run.run m).2) := by
  rw [records, Session.run_tryCatch, Session.run_bind]
  rcases inventory.run.run m with ⟨e | rs, m'⟩
  · cases e <;> rfl
  · simp only
    rw [Session.run_bind, Session.run_lift, Except.bind]
    cases Filter.apply rs text with
    | ok kept => rfl
    | error e => cases e <;> rfl

/-- What a filter that narrows a preset lets through of an inventory, the preset alone lets through
of the same inventory. -/
theorem Narrows.records {among : Record → Prop} {text alone : String}
    (h : Narrows among presets name filter) (ht : query presets (some name) filter = .ok text)
    (ha : query presets (some name) "" = .ok alone) (hacc : Filter.refusal? text = .ok none)
    {inventory : Session (List Record)} {m : Machine} {taken kept : List Record}
    (hi : (inventory.run.run m).1 = .ok taken) (hamong : ∀ r ∈ taken, among r)
    (hk : ((Selection.records inventory text).run.run m).1 = .ok (.ok kept)) :
    ∃ keptAlone, ((Selection.records inventory alone).run.run m).1 = .ok (.ok keptAlone) ∧
      ∀ r ∈ kept, r ∈ keptAlone := by
  rw [records_run, answer_eq_ok_iff, hi] at hk
  obtain ⟨keptAlone, halone, hmem⟩ := (h text alone ht ha hacc).2 taken kept hamong hk
  refine ⟨keptAlone, ?_, hmem⟩
  rw [records_run, answer_eq_ok_iff, hi]
  exact halone

end Selection

end SocketInventory
