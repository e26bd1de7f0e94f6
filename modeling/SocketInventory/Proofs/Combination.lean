import SocketInventory.Proofs.Surfaces

/-!
# Filters that lose nothing

When a preset and a filter, each accepted on its own, are accepted together and keep what the one
keeps of what the other keeps. The parentheses that are put around both need one more level of
nesting, and leave no room for a filter that is blank but not empty.
-/

namespace SocketInventory

namespace Filter

/-- The text is accepted on its own, be it as a query or as a blank: it filters all records whose
integers can be shown. -/
def Accepted (s : String) : Prop :=
  ∀ records : List Record, (∀ r ∈ records, r.Shown) → ∃ kept, apply records s = .ok kept

/-- The text is a query that leaves room for one more level of parentheses. -/
def Shallow (s : String) : Prop := ∃ q, Query.parse s = .ok q ∧ q.depth < Query.maxDepth

theorem accepted_cases {s : String} (h : Accepted s) :
    (isBlank s = true ∧ ∀ records, apply records s = .ok records) ∨
      ∃ q, Query.parse s = .ok q := by
  cases hs : isBlank s with
  | true =>
      refine .inl ⟨rfl, fun records => ?_⟩
      rw [apply, hs]
      rfl
  | false =>
      obtain ⟨kept, hkept⟩ := h [] (by simp)
      rw [apply, hs, if_neg (by simp)] at hkept
      obtain ⟨q, hq, -⟩ := exists_of_bind_ok hkept
      exact .inr ⟨q, hq⟩

theorem accepted_of_parse {s : String} {q : Query} (h : Query.parse s = .ok q) : Accepted s :=
  fun _ hr => ⟨_, apply_shown h hr⟩

theorem shallow_iff {s : String} {q : Query} (h : Query.parse s = .ok q) :
    Shallow s ↔ q.depth < Query.maxDepth := by
  constructor
  · rintro ⟨q', hq', hd⟩
    cases h.symm.trans hq'
    exact hd
  · exact fun hd => ⟨q, h, hd⟩

theorem isBlank_chars {s : String} (h : isBlank s = true) : ∀ c ∈ s.toList, Text.isBlank c := by
  simpa [isBlank, Text.isBlankText] using h

end Filter

namespace Selection

open SocketInventory.Filter (Accepted Shallow)
open Query (Leaks Sealed)

variable {presets : Presets} {name preset filter : String}

/-- What the filter keeps of what the preset keeps, or the failure of one of the two. -/
def inTurn (records : List Record) (preset filter : String) : Except Error (List Record) :=
  (Filter.apply records preset).bind fun alone => Filter.apply alone filter

/-- The combination is accepted and, whatever the inventory, comes to what the filter keeps of what
the preset keeps. -/
structure Lossless (presets : Presets) (name preset filter : String) : Prop where
  accepted : ∃ text, query presets (some name) filter = .ok text ∧ Filter.refusal? text = .ok none
  verdict_eq : ∀ (inventory : Session (List Record)) (m m' : Machine) (taken : List Record),
    inventory.run.run m = (.ok taken, m') →
      verdict presets inventory (some name) filter m =
        (.of (answer (inTurn taken preset filter)), m')

theorem inTurn_shown {p : Query} (hp : Query.parse preset = .ok p) (hf : Accepted filter)
    {records : List Record} (hr : ∀ r ∈ records, r.Shown) : ∃ alone kept,
      Filter.apply records preset = .ok alone ∧ Filter.apply alone filter = .ok kept ∧
        inTurn records preset filter = .ok kept := by
  have halone := Filter.apply_shown hp hr
  obtain ⟨kept, hkept⟩ := hf (records.filter fun r => p.holds r)
    fun r hmem => hr r (List.mem_filter.1 hmem).1
  exact ⟨_, kept, halone, hkept, by rw [inTurn, halone]; exact hkept⟩

theorem lossless_of_apply {text : String} (hq : query presets (some name) filter = .ok text)
    (hr : Filter.refusal? text = .ok none)
    (happly : ∀ taken, Filter.apply taken text = inTurn taken preset filter) :
    Lossless presets name preset filter where
  accepted := ⟨text, hq, hr⟩
  verdict_eq inventory m m' taken hrun := by
    rw [verdict_accepted hq hr, hrun]
    simp only [Except.bind, happly]

/-- The empty filter leaves the preset alone. -/
theorem lossless_empty {p : Query} (hn : name ≠ "") (hp : presets.lookup name = some preset)
    (hpp : Query.parse preset = .ok p) : Lossless presets name preset "" := by
  have hr := (Filter.refusal?_iff (Filter.isBlank_eq_false hpp)).2 ⟨p, hpp⟩
  refine lossless_of_apply (query_alone hn hp) hr fun taken => ?_
  rw [inTurn]
  cases Filter.apply taken preset <;> rfl

/-- Texts that leave room for the parentheses around them lose nothing when they are sealed. -/
theorem lossless_of_shallow (hn : name ≠ "") (hp : presets.lookup name = some preset)
    (hs : Sealed preset.toList filter.toList) (hpreset : Shallow preset)
    (hfilter : Shallow filter) : Lossless presets name preset filter := by
  obtain ⟨p, hpp, hpd⟩ := hpreset
  obtain ⟨f, hff, hfd⟩ := hfilter
  obtain ⟨q, hq⟩ := Query.exists_parse_narrow hs hpp hpd hff hfd
  have hf : filter ≠ "" := by
    rintro rfl
    cases Filter.isBlank_eq_false hff
  have hr := (Filter.refusal?_iff (Filter.isBlank_narrow preset filter)).2 ⟨q, hq⟩
  refine lossless_of_apply (query_narrow hn hp hf) hr fun taken => ?_
  rw [Filter.apply_eq hq, Query.parse_narrow hs hpp hff hq, Query.filterM_and, inTurn,
    Filter.apply_eq hpp]
  simp only [Filter.apply_eq hff]
  rfl

/-- A combination that is accepted has parentheses around both of its parts. -/
theorem shallow_of_parse {p r : Query} (hs : Sealed preset.toList filter.toList)
    (hpp : Query.parse preset = .ok p) (hf : Accepted filter)
    (hr : Query.parse (Filter.narrow preset filter) = .ok r) : Shallow preset ∧ Shallow filter := by
  rcases Filter.accepted_cases hf with ⟨hblank, -⟩ | ⟨f, hff⟩
  · exact absurd hr (Query.parse_narrow_blank hpp (Filter.isBlank_chars hblank) r)
  · have hdepth := Query.depth_of_parse hr
    rw [Query.parse_narrow hs hpp hff hr] at hdepth
    simp only [Query.depth] at hdepth
    rw [Filter.shallow_iff hpp, Filter.shallow_iff hff]
    omega

/-- A sealed filter that is accepted on its own loses nothing exactly when it is empty, or both it
and the preset leave room for one more level of parentheses; a filter that closes a quote of the
preset loses something unless the preset leaks. Where nothing is lost, the program and the service
give the records that the filter keeps of those that the preset keeps; an integer that cannot be
shown is the one thing that has both fail, alike. -/
theorem lossless_iff_shallow (presets : Presets) (name preset filter : String) (hn : name ≠ "")
    (hp : presets.lookup name = some preset) (hv : Filter.isValid preset = .ok true)
    (hf : Accepted filter) :
    (Sealed preset.toList filter.toList →
      (Lossless presets name preset filter ↔ filter = "" ∨ Shallow preset ∧ Shallow filter)) ∧
    (¬ Sealed preset.toList filter.toList →
      Lossless presets name preset filter → Leaks preset.toList) ∧
    (Lossless presets name preset filter →
      ∀ (a : CommandLine.Arguments) (cfg : Config) (m m' : Machine) (taken : List Record),
        a.serve = false → a.preset = some name → a.filter = filter → cfg.presets = presets →
        (Inventory.ofConfig cfg).run.run m = (.ok taken, m') →
        ∃ v, v = Verdict.of (answer (inTurn taken preset filter)) ∧
          ((∀ r ∈ taken, r.Shown) → ∃ alone kept, Filter.apply taken preset = .ok alone ∧
            Filter.apply alone filter = .ok kept ∧ v = .selected kept) ∧
          (CommandLine.withConfig a cfg).run.run m = CommandLine.tell a.format m' v ∧
          ∀ target, (Web.Target.parse target).Asks (some name) filter →
            (Web.answer presets (Inventory.ofConfig cfg) ⟨"GET", target⟩).run.run m =
              (.ok (Web.tell m' v).1, (Web.tell m' v).2)) := by
  obtain ⟨p, hpp⟩ := Filter.isValid_iff.1 hv
  have hnarrow : Lossless presets name preset filter → filter ≠ "" →
      ∃ r, Query.parse (Filter.narrow preset filter) = .ok r := by
    intro h hne
    obtain ⟨text, htext, hacc⟩ := h.accepted
    cases (query_narrow hn hp hne).symm.trans htext
    exact (Filter.refusal?_iff (Filter.isBlank_narrow preset filter)).1 hacc
  refine ⟨fun hs => ⟨fun h => ?_, ?_⟩, fun hs h => ?_,
    fun h a cfg m m' taken ha hap haf hcfg hrun => ?_⟩
  · rcases eq_or_ne filter "" with hempty | hne
    · exact .inl hempty
    · obtain ⟨r, hr⟩ := hnarrow h hne
      exact .inr (shallow_of_parse hs hpp hf hr)
  · rintro (rfl | ⟨hpreset, hfilter⟩)
    · exact lossless_empty hn hp hpp
    · exact lossless_of_shallow hn hp hs hpreset hfilter
  · have hne : filter ≠ "" := by
      rintro rfl
      exact hs fun c _ => by simp
    obtain ⟨r, hr⟩ := hnarrow h hne
    exact Query.leaks_of_parse hpp hr (by simpa [Sealed] using hs)
  · have hverdict := h.verdict_eq (Inventory.ofConfig cfg) m m' taken hrun
    refine ⟨_, rfl, fun hshown => ?_, ?_, fun target ht => ?_⟩
    · obtain ⟨alone, kept, halone, hkept, hturn⟩ := inTurn_shown hpp hf hshown
      exact ⟨alone, kept, halone, hkept, by rw [hturn]; rfl⟩
    · rw [CommandLine.run_withConfig ha, hcfg, hap, haf, hverdict]
    · rw [Web.run_answer ht, hverdict]

theorem lossless_iff_shallow_listening :
    "listening" ≠ "" ∧ List.lookup "listening" [("listening", "state=LISTEN")] =
        some "state=LISTEN" ∧ Filter.isValid "state=LISTEN" = .ok true ∧ Accepted "pid=1" ∧
      Lossless [("listening", "state=LISTEN")] "listening" "state=LISTEN" "pid=1" := by
  let state : Query := .comparison "state" .eq (.text "LISTEN")
  let pid : Query := .comparison "pid" .eq (.number 1)
  have hstate : Query.parse "state=LISTEN" = .ok state := ok_of_toOption (by decide +kernel)
  have hpid : Query.parse "pid=1" = .ok pid := ok_of_toOption (by decide +kernel)
  have hn : "listening" ≠ "" := by decide
  have hp : List.lookup "listening" [("listening", "state=LISTEN")] = some "state=LISTEN" := rfl
  have hv : Filter.isValid "state=LISTEN" = .ok true := Filter.isValid_iff.2 ⟨state, hstate⟩
  have hs : Sealed "state=LISTEN".toList "pid=1".toList := by
    unfold Sealed
    decide +kernel
  have hf := Filter.accepted_of_parse hpid
  have hshallow : Shallow "state=LISTEN" ∧ Shallow "pid=1" :=
    ⟨⟨state, hstate, by decide⟩, ⟨pid, hpid, by decide⟩⟩
  exact ⟨hn, hp, hv, hf, ((lossless_iff_shallow _ _ _ _ hn hp hv hf).1 hs).2 (.inr hshallow)⟩

/-- A comparison under as many parentheses as there may be. -/
def deepest : String :=
  String.ofList (List.replicate Query.maxDepth '(' ++ "pid=1".toList ++
    List.replicate Query.maxDepth ')')

/-- What is lost: a blank filter has a valid preset refused, so has any filter when the preset is
nested as deep as may be, and a quote in the filter closes the one that the preset leaves open. -/
theorem not_lossless :
    (Filter.isValid "state=LISTEN" = .ok true ∧ Accepted " " ∧
      ¬ Lossless [("listening", "state=LISTEN")] "listening" "state=LISTEN" " ") ∧
    (Filter.isValid deepest = .ok true ∧ Accepted "pid=1" ∧
      ¬ Lossless [("deepest", deepest)] "deepest" deepest "pid=1") ∧
    (Filter.isValid "state=\"LISTEN" = .ok true ∧ Accepted "pid=1 \"" ∧
      ¬ Lossless [("listening", "state=\"LISTEN")] "listening" "state=\"LISTEN" "pid=1 \"") := by
  have hrefused : ∀ {presets name preset filter text} {e : QueryError},
      query presets (some name) filter = .ok text → Filter.refusal? text = .ok (some e) →
        ¬ Lossless presets name preset filter := by
    intro presets name preset filter text e hq hr h
    obtain ⟨text', hq', hr'⟩ := h.accepted
    cases hq.symm.trans hq'
    cases hr.symm.trans hr'
  have hpid : Query.parse "pid=1" = .ok (.comparison "pid" .eq (.number 1)) :=
    ok_of_toOption (by decide +kernel)
  have hquoted : Query.parse "pid=1 \"" = .ok (.comparison "pid" .eq (.number 1)) :=
    ok_of_toOption (by decide +kernel)
  refine ⟨⟨ok_of_toOption (by decide +kernel), fun records _ => ⟨records, rfl⟩, ?_⟩,
    ⟨ok_of_toOption (by decide +kernel), Filter.accepted_of_parse hpid, ?_⟩,
    ⟨ok_of_toOption (by decide +kernel), Filter.accepted_of_parse hquoted, fun h => ?_⟩⟩
  · have hr : Filter.refusal? (Filter.narrow "state=LISTEN" " ") =
        .ok (some (.malformed (.unexpected .rparen 7 .word))) := ok_of_toOption (by decide +kernel)
    exact hrefused rfl hr
  · have hr : Filter.refusal? (Filter.narrow deepest "pid=1") = .ok (some (.malformed .tooDeep)) :=
      ok_of_toOption (by decide +kernel)
    exact hrefused rfl hr
  · let r : Record := ⟨"tcp", ⟨none, some 1⟩, ⟨none, none⟩, "LISTEN", 1, some "x"⟩
    have hr : Filter.refusal? (Filter.narrow "state=\"LISTEN" "pid=1 \"") = .ok none :=
      ok_of_toOption (by decide +kernel)
    have halone : inTurn [r] "state=\"LISTEN" "pid=1 \"" = .ok [r] :=
      ok_of_toOption (by decide +kernel)
    have hnone : Filter.apply [r] (Filter.narrow "state=\"LISTEN" "pid=1 \"") = .ok [] :=
      ok_of_toOption (by decide +kernel)
    have hv := h.verdict_eq (pure [r]) ⟨Host.idle "", []⟩ _ [r] (Session.run_pure [r])
    rw [verdict_accepted rfl hr, Session.run_pure, halone] at hv
    simp only [Except.bind, hnone] at hv
    cases hv

end Selection

end SocketInventory
