import SocketInventory.CommandLine.Arguments
import SocketInventory.Proofs.Outcome

/-!
# Numbers given by options

A setting that is a number keeps its default unless an argument names the option that sets it. The
number stands behind an equals sign, or is the next argument.
-/

namespace SocketInventory.CommandLine

/-! ## Items -/

/-- The item is the argument as it stands, or one of the options. -/
def Item.Fits (argument : String) : Item → Prop
  | .value s => s = argument
  | .option r _ => r ∈ rules
  | .letters _ => True
  | .unknown _ => True

theorem fits_joinedItem {argument : String} {r : OptionRule} (hr : r ∈ rules) (name : List Char)
    (joined : Option String) : (joinedItem r name joined).Fits argument := by
  unfold joinedItem
  split
  · split
    · trivial
    · exact hr
  · exact hr

theorem fits_classifyOther {argument : String} {i : Item}
    (h : classifyOther argument.toList = .ok i) : i.Fits argument := by
  simp only [classifyOther] at h
  split at h
  · rename_i r hcandidates
    cases h
    have hmem : r ∈ [r] := List.mem_singleton.2 rfl
    rw [← hcandidates] at hmem
    split at hmem
    · exact (List.mem_filter.1 hmem).1
    · cases hmem
  · cases h
  · split at h
    · cases h
      trivial
    · split at h
      · cases h
        exact String.ofList_toList
      · cases h
        trivial

theorem fits_classify {argument : String} {i : Item} (h : classify argument = .ok i) :
    i.Fits argument := by
  simp only [classify] at h
  split at h
  · cases h
    rfl
  · split at h
    · rename_i hfound
      cases h
      exact List.mem_of_find?_eq_some hfound
    · rename_i hfound
      cases h
      exact fits_joinedItem (List.mem_of_find?_eq_some hfound) _ _
    · exact fits_classifyOther h

/-! ## Numbers -/

/-- An option is named with a number behind an equals sign or in the next argument. -/
inductive Gives (arguments : List String) (name : String) (n : Int) : Prop
  | joined {argument value : String} {r : OptionRule} (hmem : argument ∈ arguments)
      (hr : classify argument = .ok (.option r (some value))) (hname : r.name = name)
      (hn : Text.parseInteger value.toList = .ok n)
  | apart {argument value : String} {r : OptionRule} (hmem : [argument, value] <:+: arguments)
      (hr : classify argument = .ok (.option r none)) (hname : r.name = name)
      (hn : Text.parseInteger value.toList = .ok n)

theorem Gives.mono {arguments more : List String} {name : String} {n : Int}
    (h : Gives arguments name n) (hsub : arguments <:+: more) : Gives more name n := by
  cases h with
  | joined hmem hr hname hn => exact .joined (hsub.mem hmem) hr hname hn
  | apart hmem hr hname hn => exact .apart (hmem.trans hsub) hr hname hn

/-- The option leaves the setting as it is. -/
def Effect.Keeps (setting : Arguments → Option Int) : Effect → Prop
  | .help => True
  | .flag set => ∀ a, setting (set a) = setting a
  | .text set => ∀ s a, setting (set s a) = setting a
  | .choice _ set => ∀ s a, setting (set s a) = setting a
  | .integer set => ∀ n a, setting (set n a) = setting a
  | .decimal set => ∀ x a, setting (set x a) = setting a

/-- The option sets the setting to the number that it takes. -/
def Effect.Sets (setting : Arguments → Option Int) : Effect → Prop
  | .integer set => ∀ n a, setting (set n a) = some n
  | _ => False

/-- No option but the one of this name changes the setting. -/
def SetBy (name : String) (setting : Arguments → Option Int) : Prop :=
  ∀ r ∈ rules, r.effect.Keeps setting ∨ r.name = name ∧ r.effect.Sets setting

theorem setBy_kill : SetBy "--kill" Arguments.kill := by
  simp only [SetBy, rules, List.forall_mem_cons]
  simp [Effect.Keeps, Effect.Sets]

theorem setBy_path : SetBy "--path" Arguments.path := by
  simp only [SetBy, rules, List.forall_mem_cons]
  simp [Effect.Keeps, Effect.Sets]

section Reading

variable {name value : String} {setting : Arguments → Option Int} {r : OptionRule}
  {a a' : Arguments}

theorem setting_of_keeps (hr : r.effect.Keeps setting) (h : applyValue r value a = .ok a') :
    setting a' = setting a := by
  obtain ⟨name, effect⟩ := r
  cases effect with
  | help => cases h
  | flag set => cases h
  | text set =>
      cases h
      exact hr value a
  | choice names set =>
      simp only [applyValue] at h
      split at h
      · cases h
        exact hr value a
      · cases h
  | integer set =>
      simp only [applyValue] at h
      split at h
      · cases h
        exact hr _ a
      · cases h
  | decimal set =>
      simp only [applyValue] at h
      split at h
      · cases h
        exact hr _ a
      · cases h

theorem setting_of_sets (hr : r.effect.Sets setting) (h : applyValue r value a = .ok a') :
    ∃ n, Text.parseInteger value.toList = .ok n ∧ setting a' = some n := by
  obtain ⟨name, effect⟩ := r
  cases effect with
  | integer set =>
      simp only [applyValue] at h
      split at h
      · rename_i n hn
        cases h
        exact ⟨n, hn, hr n a⟩
      · cases h
  | _ => cases hr

theorem SetBy.applyValue (hs : SetBy name setting) (hr : r ∈ rules)
    (h : applyValue r value a = .ok a') : setting a' = setting a ∨
      r.name = name ∧ ∃ n, Text.parseInteger value.toList = .ok n ∧ setting a' = some n := by
  rcases hs r hr with hkeeps | ⟨hname, hsets⟩
  · exact .inl (setting_of_keeps hkeeps h)
  · exact .inr ⟨hname, setting_of_sets hsets h⟩

theorem SetBy.flag (hs : SetBy name setting) (hr : r ∈ rules) {set : Arguments → Arguments}
    (h : r.effect = .flag set) (a : Arguments) : setting (set a) = setting a := by
  rcases hs r hr with hkeeps | ⟨-, hsets⟩
  · rw [h] at hkeeps
    exact hkeeps a
  · rw [h] at hsets
    cases hsets

/-- The setting is what it was, or what the arguments give. -/
def KeptOrGiven (arguments : List String) (name : String) (was became : Option Int) : Prop :=
  became = was ∨ ∃ n, became = some n ∧ Gives arguments name n

theorem KeptOrGiven.mono {arguments more : List String} {was became : Option Int}
    (h : KeptOrGiven arguments name was became) (hsub : arguments <:+: more) :
    KeptOrGiven more name was became := by
  rcases h with h | ⟨n, hn, hgives⟩
  · exact .inl h
  · exact .inr ⟨n, hn, hgives.mono hsub⟩

theorem KeptOrGiven.trans {arguments : List String} {was between became : Option Int}
    (h : KeptOrGiven arguments name was between) (h' : KeptOrGiven arguments name between became) :
    KeptOrGiven arguments name was became := by
  rcases h' with rfl | h'
  · exact h
  · exact .inr h'

/-- Every item keeps the setting, or sets it to what its arguments give. -/
theorem SetBy.readItems (hs : SetBy name setting) {arguments : List String} {items : List Item}
    (hitems : arguments.mapM classify = .ok items) {extra tail : List String}
    (h : readItems a extra tail items = .ok (.run a')) :
    KeptOrGiven arguments name (setting a) (setting a') := by
  fun_induction CommandLine.readItems a extra tail items generalizing arguments with
  | case1 =>
      cases h
      exact .inl rfl
  | case2 => cases h
  | case3 _ _ s items ih =>
      obtain ⟨argument, rest, rfl, -, hrest⟩ := exists_cons_of_mapM_ok hitems
      exact (ih hrest h).mono (List.suffix_cons _ _).isInfix
  | case4 _ _ s items ih =>
      obtain ⟨argument, rest, rfl, -, hrest⟩ := exists_cons_of_mapM_ok hitems
      exact (ih hrest h).mono (List.suffix_cons _ _).isInfix
  | case5 _ _ letters _ =>
      unfold readLetters at h
      split at h <;> cases h
  | case6 a _ r value items ih =>
      obtain ⟨argument, rest, rfl, hr, hrest⟩ := exists_cons_of_mapM_ok hitems
      obtain ⟨between, happly, h⟩ := exists_of_bind_ok h
      have hlater := (ih between hrest h).mono (List.suffix_cons argument rest).isInfix
      refine KeptOrGiven.trans ?_ hlater
      rcases hs.applyValue (fits_classify hr) happly with hkeep | ⟨hname, n, hn, hset⟩
      · exact .inl hkeep
      · exact .inr ⟨n, hset, .joined (by simp) hr hname hn⟩
  | case7 => cases h
  | case8 a _ r items set hflag ih =>
      obtain ⟨argument, rest, rfl, hr, hrest⟩ := exists_cons_of_mapM_ok hitems
      have hlater := (ih hrest h).mono (List.suffix_cons argument rest).isInfix
      rwa [hs.flag (fits_classify hr) hflag] at hlater
  | case9 a _ r s items _ _ ih =>
      obtain ⟨argument, rest, rfl, hr, hrest⟩ := exists_cons_of_mapM_ok hitems
      obtain ⟨value, last, rfl, hvalue, hlast⟩ := exists_cons_of_mapM_ok hrest
      obtain ⟨between, happly, h⟩ := exists_of_bind_ok h
      obtain rfl : s = value := fits_classify hvalue
      have hlater := (ih between hlast h).mono (List.suffix_append [argument, s] last).isInfix
      refine KeptOrGiven.trans ?_ hlater
      rcases hs.applyValue (fits_classify hr) happly with hkeep | ⟨hname, n, hn, hset⟩
      · exact .inl hkeep
      · exact .inr ⟨n, hset, .apart (List.prefix_append [argument, s] last).isInfix hr hname hn⟩
  | case10 => cases h

/-- A number that the arguments come to was given by them. -/
theorem SetBy.gives (hs : SetBy name setting) (hnone : setting .none = none)
    {arguments : List String} (h : read arguments = .ok (.run a)) {n : Int}
    (hn : setting a = some n) : Gives arguments name n := by
  obtain ⟨⟨items, tail⟩, hclassify, h⟩ := exists_of_bind_ok h
  obtain ⟨items', hitems, hpair⟩ := exists_of_bind_ok hclassify
  cases hpair
  have hsub : arguments.takeWhile (· ≠ "--") <:+: arguments := (List.takeWhile_prefix _).isInfix
  rcases hs.readItems hitems h with heq | ⟨n', hn', hgives⟩
  · rw [hn, hnone] at heq
    cases heq
  · cases hn.symm.trans hn'
    exact hgives.mono hsub

end Reading

end SocketInventory.CommandLine
