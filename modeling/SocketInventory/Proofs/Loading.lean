import SocketInventory.Proofs.Files
import SocketInventory.Proofs.Text.Utf8
import SocketInventory.Proofs.Validation

/-!
# Loading of presets

A file of presets is found, read, decoded, parsed and validated. What the parser refuses and what is
no preset puts the user at fault; every other stage has errors of its own, which nothing handles.
-/

namespace SocketInventory

/-- The errors that put the user at fault. -/
def Error.IsQuery (e : Error) : Prop := ∃ q, e = .query q

namespace Presets

variable {host : Host} {path : String} {file : Path} {e : Error}

/-! ## Reading -/

/-- Octets that cannot be read are no text, or a text on which the parser fails. -/
theorem readData_error {octets : List UInt8} (h : readData host file octets = .error e) :
    (∃ f, Text.decodeUtf8 octets = .error f ∧ e = .undecodable f) ∨
      ∃ s, octets = Text.encodeUtf8 s := by
  cases hd : Text.decodeUtf8 octets with
  | error f =>
      rw [readData, hd] at h
      cases h
      exact .inl ⟨f, rfl, rfl⟩
  | ok text => exact .inr ⟨_, Text.decodeUtf8_eq_ok_iff.1 hd⟩

theorem readData_undecodable {octets : List UInt8} {f : Text.Utf8Error}
    (h : Text.decodeUtf8 octets = .error f) :
    readData host file octets = .error (.undecodable f) := by
  rw [readData, h]
  rfl

/-! ## Validating -/

section Entries

variable {limit : Nat} {presets : Presets} {entry : Data × Data} {entries : List (Data × Data)}
  {d : Data}

/-- The entry can be shown, and its query is one. -/
structure Accepted (limit : Nat) (entry : Data × Data) : Prop where
  query : entry.2.displayFault? limit = none
  name : entry.1.displayFault? limit = none
  parsed : ∃ q, Query.parse entry.2.display = .ok q

/-- The entry cannot be shown, or its query has a number of too many digits. -/
inductive Spoils (limit : Nat) (entry : Data × Data) : Error → Prop
  | query {f : DataFault} (hq : entry.2.displayFault? limit = some f) : Spoils limit entry (.data f)
  | number {e : Error} (hq : entry.2.displayFault? limit = none)
      (hn : ¬ Query.NumbersFit entry.2.display.toList)
      (he : Query.parse entry.2.display = .error e) : Spoils limit entry e
  | name {f : DataFault} (hq : entry.2.displayFault? limit = none)
      (hn : Query.NumbersFit entry.2.display.toList)
      (hf : entry.1.displayFault? limit = some f) : Spoils limit entry (.data f)

/-- Where entries are added in order, one that spoils comes behind accepted ones only. -/
def SpoiledBy (limit : Nat) (entries : List (Data × Data)) (e : Error) : Prop :=
  ∃ before entry after, entries = before ++ entry :: after ∧ (∀ x ∈ before, Accepted limit x) ∧
    Spoils limit entry e

theorem shown_of_fault {f : DataFault} (h : d.displayFault? limit = some f) :
    shown limit d = .error (.data f) := by
  rw [shown, h]

theorem shown_of_none (h : d.displayFault? limit = none) : shown limit d = .ok d.display := by
  rw [shown, h]

/-- An entry that spoils the loading ends it in its error, whatever was added before. -/
theorem Spoils.add (h : Spoils limit entry e) (presets : Presets) :
    add limit presets entry = .error e ∧ ¬ e.IsQuery := by
  cases h with
  | query hq =>
      refine ⟨?_, by rintro ⟨q, ⟨⟩⟩⟩
      rw [Presets.add, shown_of_fault hq]
      rfl
  | number hq hn he =>
      obtain ⟨n, -, hparse⟩ := Query.parse_of_not_fit hn
      cases he.symm.trans hparse
      have hvalid : Filter.isValid entry.2.display =
          .error (.badNumeral entry.2.display (.tooLong n)) := by
        rw [Filter.isValid, Filter.isBlank_of_not_fit hn, hparse]
        rfl
      refine ⟨?_, by rintro ⟨q, ⟨⟩⟩⟩
      rw [Presets.add, shown_of_none hq]
      change (Filter.isValid entry.2.display).bind _ = _
      rw [hvalid]
      rfl
  | name hq hn hf =>
      refine ⟨?_, by rintro ⟨q, ⟨⟩⟩⟩
      obtain ⟨valid, hvalid⟩ := Filter.exists_isValid_iff.2 hn
      rw [Presets.add, shown_of_none hq, shown_of_fault hf]
      change (Filter.isValid entry.2.display).bind _ = _
      rw [hvalid]
      cases valid <;> rfl

/-- Any other entry is added, or refused as no preset. -/
theorem add_of_unspoiled (h : ∀ e, ¬ Spoils limit entry e) (presets : Presets) :
    (Accepted limit entry ∧ ∃ added, add limit presets entry = .ok added) ∨
      ¬ Accepted limit entry ∧ ∃ q, add limit presets entry = .error (.query q) := by
  have hq : entry.2.displayFault? limit = none := by
    cases hq : entry.2.displayFault? limit with
    | none => rfl
    | some f => exact absurd (.query hq) (h _)
  have hn : Query.NumbersFit entry.2.display.toList := by
    by_contra hn
    obtain ⟨n, -, he⟩ := Query.parse_of_not_fit hn
    exact h _ (.number hq hn he)
  have hname : entry.1.displayFault? limit = none := by
    cases hname : entry.1.displayFault? limit with
    | none => rfl
    | some f => exact absurd (.name hq hn hname) (h _)
  obtain ⟨valid, hvalid⟩ := Filter.exists_isValid_iff.2 hn
  rw [add_eq (shown_of_none hname) (shown_of_none hq), hvalid]
  cases valid with
  | true => exact .inl ⟨⟨hq, hname, Filter.isValid_iff.1 hvalid⟩, _, rfl⟩
  | false =>
      refine .inr ⟨fun ha => ?_, _, rfl⟩
      cases hvalid.symm.trans (Filter.isValid_iff.2 ha.parsed)

theorem Accepted.unspoiled (h : Accepted limit entry) : ∀ e, ¬ Spoils limit entry e := by
  intro e hs
  obtain ⟨q, hq⟩ := h.parsed
  cases hs with
  | query hf => cases h.query.symm.trans hf
  | number _ _ he => cases hq.symm.trans he
  | name _ _ hf => cases h.name.symm.trans hf

theorem foldlM_error_iff : (entries.foldlM (add limit) presets = .error e ∧ ¬ e.IsQuery) ↔
    SpoiledBy limit entries e := by
  -- Whether an entry spoils does not depend on what was added, so the presets are generalised.
  induction entries generalizing presets with
  | nil => exact iff_of_false (by rintro ⟨⟨⟩, -⟩) not_exists_mid_nil
  | cons first entries ih =>
      have hcons : (first :: entries).foldlM (add limit) presets =
          (add limit presets first).bind fun added => entries.foldlM (add limit) added := rfl
      rw [hcons, SpoiledBy, exists_mid_cons_iff]
      by_cases hs : ∃ f, Spoils limit first f
      · obtain ⟨f, hs⟩ := hs
        obtain ⟨hadd, hquery⟩ := hs.add presets
        rw [hadd]
        constructor
        · rintro ⟨⟨⟩, -⟩
          exact .inl ⟨List.forall_mem_nil _, hs⟩
        · rintro (⟨-, he⟩ | ⟨before, entry, after, -, hbefore, -⟩)
          · cases hadd.symm.trans (he.add presets).1
            exact ⟨rfl, hquery⟩
          · exact absurd hs ((hbefore first List.mem_cons_self).unspoiled f)
      · rw [not_exists] at hs
        rw [or_iff_right fun h => hs e h.2]
        rcases add_of_unspoiled hs presets with ⟨ha, added, hadd⟩ | ⟨ha, q, hadd⟩
        · simp only [List.forall_mem_cons, ha, true_and]
          rw [hadd]
          exact ih
        · rw [hadd]
          refine iff_of_false ?_ ?_
          · rintro ⟨⟨⟩, hquery⟩
            exact hquery ⟨q, rfl⟩
          · rintro ⟨before, entry, after, -, hbefore, -⟩
            exact ha (hbefore first List.mem_cons_self)

theorem ofData_error_iff : (ofData limit d = .error e ∧ ¬ e.IsQuery) ↔
    ∃ entries, d = .map entries ∧ SpoiledBy limit entries e := by
  cases d with
  | map entries =>
      have hmap : ofData limit (.map entries) = entries.foldlM (add limit) [] := rfl
      rw [hmap, foldlM_error_iff]
      constructor
      · exact fun h => ⟨entries, rfl, h⟩
      · rintro ⟨_, ⟨⟩, h⟩
        exact h
  | null => exact iff_of_false (by rintro ⟨⟨⟩, -⟩) (by rintro ⟨_, ⟨⟩, -⟩)
  | _ => exact iff_of_false (by rintro ⟨⟨⟩, h⟩; exact h ⟨_, rfl⟩) (by rintro ⟨_, ⟨⟩, -⟩)

end Entries

/-! ## Loading -/

/-- The stages at which the loading fails other than by the user's fault, with the error of each. -/
inductive Stumbles (host : Host) (path : String) : Error → Prop
  | losing {e : Error} (hl : Loses host path e) : Stumbles host path e
  | looking {file : Path} {f : PathFault} (hl : locate host path = .ok file)
      (hr : host.files.Refuses file f) : Stumbles host path (.path f)
  | reading {file : Path} {f : PathFault} (hf : Finds host path file true)
      (hr : host.files.read file = .error f) : Stumbles host path (.path f)
  | undecodable {file : Path} {octets : List UInt8} {f : Text.Utf8Error}
      (hr : Reads host path file octets) (hd : Text.decodeUtf8 octets = .error f) :
      Stumbles host path (.undecodable f)
  /-- Of a parser it is assumed that this does not happen. -/
  | parser {file : Path} {s : String} {e : Error} (hr : Reads host path file (Text.encodeUtf8 s))
      (hp : readData host file (Text.encodeUtf8 s) = .error e) (hq : ¬ e.IsQuery) :
      Stumbles host path e
  | entry {file : Path} {octets : List UInt8} {entries : List (Data × Data)} {e : Error}
      (hr : Reads host path file octets) (hd : readData host file octets = .ok (.map entries))
      (hs : SpoiledBy host.limits.display entries e) : Stumbles host path e

variable {m m' : Machine}

theorem Loses.not_isQuery (h : Loses host path e) : ¬ e.IsQuery := by
  cases h with
  | home hu hh => cases hh <;> rintro ⟨q, ⟨⟩⟩
  | workingDirectory | searching => rintro ⟨q, ⟨⟩⟩
  | following hl hs =>
      rw [FileSystem.linkError]
      split <;> rintro ⟨q, ⟨⟩⟩

theorem stumbles_of_octets {octets : List UInt8} (hr : Reads host path file octets)
    (h : (readData host file octets >>= ofData host.limits.display) = .error e)
    (hq : ¬ e.IsQuery) : Stumbles host path e := by
  cases hd : readData host file octets with
  | error f =>
      rw [hd] at h
      cases h
      rcases readData_error hd with ⟨f, hf', rfl⟩ | ⟨s, rfl⟩
      · exact .undecodable hr hf'
      · exact .parser hr hd hq
  | ok d =>
      rw [hd] at h
      obtain ⟨entries, rfl, hs⟩ := ofData_error_iff.1 ⟨h, hq⟩
      exact .entry hr hd hs

/-- What stumbles ends the loading in its error, without a trace. -/
theorem Stumbles.run_error (h : Stumbles m.host path e) (hne : path ≠ "") :
    (load (some path)).run.run m = (.error e, m) ∧ ¬ e.IsQuery := by
  cases h with
  | losing hl =>
      refine ⟨?_, hl.not_isQuery⟩
      simp only [run_load, filter_of_ne hne, locate_error_iff.2 hl]
  | looking hl hr =>
      refine ⟨?_, by rintro ⟨q, ⟨⟩⟩⟩
      simp only [run_load, filter_of_ne hne, hl, FileSystem.holds_error_iff.2 ⟨_, hr, rfl⟩]
  | reading hf hr =>
      refine ⟨?_, by rintro ⟨q, ⟨⟩⟩⟩
      simp only [run_load, filter_of_ne hne, hf.place, hf.found, hr]
  | undecodable hr hd =>
      refine ⟨run_load_reads hne hr ?_, by rintro ⟨q, ⟨⟩⟩⟩
      rw [readData_undecodable hd]
      rfl
  | parser hr hp hq =>
      refine ⟨run_load_reads hne hr ?_, hq⟩
      rw [hp]
      rfl
  | entry hr hd hs =>
      obtain ⟨hdata, hq⟩ := ofData_error_iff.2 ⟨_, rfl, hs⟩
      refine ⟨run_load_reads hne hr ?_, hq⟩
      rw [hd]
      exact hdata

theorem run_load_error_iff (hne : path ≠ "") :
    (load (some path)).run.run m = (.error e, m') ∧ ¬ e.IsQuery ↔
      m' = m ∧ Stumbles m.host path e := by
  constructor
  · rintro ⟨h, hq⟩
    -- Each way in which the run ends in an error is one stage; the other ways end in presets.
    simp only [run_load, filter_of_ne hne] at h
    split at h
    · rename_i hl
      cases h
      exact ⟨rfl, .losing (locate_error_iff.1 hl)⟩
    rename_i file hl
    split at h
    · rename_i hs
      cases h
      obtain ⟨f, hr, rfl⟩ := FileSystem.holds_error_iff.1 hs
      exact ⟨rfl, .looking hl hr⟩
    · cases h
    · rename_i hs
      split at h
      · rename_i hr
        cases h
        exact ⟨rfl, .reading ⟨hl, hs⟩ hr⟩
      · rename_i octets hr
        split at h
        · rename_i hd
          cases h
          exact ⟨rfl, stumbles_of_octets ⟨⟨hl, hs⟩, hr⟩ hd hq⟩
        · cases h
  · rintro ⟨rfl, h⟩
    exact h.run_error hne

theorem orderly_load_iff (hne : path ≠ "") :
    Orderly ((load (some path)).run.run m).1 ↔ ∀ e, ¬ Stumbles m.host path e := by
  rcases hrun : (load (some path)).run.run m with ⟨e | presets, m'⟩
  · constructor
    · rintro (⟨a, ⟨⟩⟩ | ⟨q, ⟨⟩⟩) f hf
      obtain ⟨hstumbles, hquery⟩ := hf.run_error hne
      cases hrun.symm.trans hstumbles
      exact hquery ⟨q, rfl⟩
    · intro h
      by_contra hnot
      have hquery : ¬ e.IsQuery := by
        rintro ⟨q, rfl⟩
        exact hnot (.inr ⟨q, rfl⟩)
      exact h e ((run_load_error_iff hne).1 ⟨hrun, hquery⟩).2
  · refine iff_of_true (.inl ⟨presets, rfl⟩) fun e he => ?_
    cases hrun.symm.trans (he.run_error hne).1

theorem run_load_missing (hne : path ≠ "") (h : Finds m.host path file false) :
    (load (some path)).run.run m = (.ok [], m.noting [missingEntry file]) := by
  simp only [run_load, filter_of_ne hne, h.place, h.found]

end Presets

open Presets (Finds Reads Stumbles)

theorem CommandLine.run_stumbles {a : Arguments} {path : String} {m : Machine} {e : Error}
    (hk : a.kill = none) (hp : a.path = none) (hr : a.request.Chosen) (ha : a.presets = some path)
    (hne : path ≠ "") (he : Stumbles m.host path e) : (run a).run.run m = (.error e, m) := by
  obtain ⟨h, hq⟩ := he.run_error hne
  rw [← ha] at h
  exact run_escaped hk hp (fun q hquery => hq ⟨q, hquery⟩) (Config.ofRequest_error hr h)

/-- Loading gives sound presets, none of them with a warning if the file is missing, or puts the
user at fault, which ends the program with status two, exactly when no stage stumbles. A stage that
stumbles ends the loading and the program in an error that nothing handles. -/
theorem orderly_iff_not_stumbles (path : Option String) (m : Machine) :
    (Orderly ((Presets.load path).run.run m).1 ↔
      ∀ p, path = some p → p ≠ "" → ∀ e, ¬ Stumbles m.host p e) ∧
    (∀ presets m', (Presets.load path).run.run m = (.ok presets, m') → presets.Sound) ∧
    ∀ p, path = some p → p ≠ "" →
      (∀ e m', (Presets.load path).run.run m = (.error e, m') ∧ ¬ e.IsQuery ↔
        m' = m ∧ Stumbles m.host p e) ∧
      (∀ file, Finds m.host p file false →
        (Presets.load path).run.run m = (.ok [], m.noting [Presets.missingEntry file])) ∧
      ∀ a : CommandLine.Arguments, a.kill = none → a.path = none → a.request.Chosen →
        a.presets = path →
          (∀ q m', (Presets.load path).run.run m = (.error (.query q), m') →
            (CommandLine.run a).run.run m =
              (.ok 2, m'.noting [CommandLine.errorLine q.message])) ∧
          ∀ e, Stumbles m.host p e → (CommandLine.run a).run.run m = (.error e, m) := by
  refine ⟨?_, fun presets m' h => Presets.returns_load path m presets (by rw [h]), ?_⟩
  · by_cases hpath : ∃ p, path = some p ∧ p ≠ ""
    · obtain ⟨p, rfl, hne⟩ := hpath
      rw [Presets.orderly_load_iff hne]
      constructor
      · rintro h _ ⟨⟩ -
        exact h
      · exact fun h => h p rfl hne
    · have hnone : path.filter (· ≠ "") = none := by
        rw [Option.filter_eq_none_iff]
        rintro p rfl
        simpa using fun hne => hpath ⟨p, rfl, hne⟩
      rw [Presets.run_load, hnone]
      exact iff_of_true (.inl ⟨_, rfl⟩) fun p hp hne => absurd ⟨p, hp, hne⟩ hpath
  · rintro p rfl hne
    refine ⟨fun e m' => Presets.run_load_error_iff hne,
      fun file hf => Presets.run_load_missing hne hf, fun a hk hp hr ha => ⟨fun q m' h => ?_,
        fun e he => CommandLine.run_stumbles hk hp hr ha hne he⟩⟩
    rw [← ha] at h
    exact CommandLine.run_refused hk hp (Config.ofRequest_error hr h)

theorem orderly_iff_not_stumbles_unfinished :
    (∀ e, ¬ Stumbles unfinishedHost "/p" e) ∧
      (CommandLine.run unfinishedArguments).run.run ⟨unfinishedHost, []⟩ =
        (.ok 2, ⟨unfinishedHost, [CommandLine.errorLine
          (QueryError.invalidPreset (Data.quoted (.text ↑"broken"))
            (Data.displayQuoted (.text ↑unfinished))).message]⟩) ∧
      (Presets.load (some "/q")).run.run ⟨unfinishedHost, []⟩ =
        (.ok [], ⟨unfinishedHost, [.errors "[warn] presets not found: /q\n"]⟩) := by
  have hvalid : Filter.isValid unfinished = .ok false := ok_of_toOption (by decide +kernel)
  have hdata : Presets.ofData Limits.standard.display
      (.map [(.text ↑"broken", .text ↑unfinished)]) =
        .error (.query (.invalidPreset (Data.quoted (.text ↑"broken"))
          (Data.displayQuoted (.text ↑unfinished)))) := by
    have hadd := @Presets.add_eq Limits.standard.display [] (.text ↑"broken", .text ↑unfinished)
      "broken" unfinished (Presets.shown_letters _) (Presets.shown_letters _)
    rw [hvalid] at hadd
    change (Presets.add _ [] _).bind _ = _
    rw [hadd]
    rfl
  have hload := @Presets.run_load_error "/p" _ _ ⟨unfinishedHost, []⟩ holds_unfinished hdata
  have hmissing : Finds unfinishedHost "/q" ⟨true, ["q"]⟩ false :=
    ⟨ok_of_toOption (by decide +kernel), ok_of_toOption (by decide +kernel)⟩
  obtain ⟨horderly, -, hfile⟩ := orderly_iff_not_stumbles (some "/p") ⟨unfinishedHost, []⟩
  obtain ⟨-, -, hprogram⟩ := hfile "/p" rfl (by decide)
  obtain ⟨-, -, habsent⟩ := orderly_iff_not_stumbles (some "/q") ⟨unfinishedHost, []⟩
  obtain ⟨-, hwarns, -⟩ := habsent "/q" rfl (by decide)
  refine ⟨horderly.1 (.inr ⟨_, by rw [hload]⟩) "/p" rfl (by decide), ?_, hwarns _ hmissing⟩
  exact (hprogram unfinishedArguments rfl rfl ⟨⟨_, rfl⟩, _, rfl⟩ rfl).1 _ _ hload

/-- A host with one entry where the presets are looked for. -/
def hostWith (entry : FileEntry) : Host := { Host.idle "Linux" with
  files := FileTree.system [(["p"], entry)] }

/-- A host whose file of presets nobody may look at. -/
def lockedHost : Host := { Host.idle "Linux" with
  files := { FileTree.system [] with
    look := fun p => .error (.refused 13 "Permission denied" (some p.text)) } }

/-- A directory, octets that are no text, a file that may not be looked at, and the home of an
unknown user each end the loading in an error that is no query error; a directory ends the program
so. -/
theorem not_orderly_load :
    ¬ Orderly ((Presets.load (some "/p")).run.run ⟨hostWith .directory, []⟩).1 ∧
    (CommandLine.run unfinishedArguments).run.run ⟨hostWith .directory, []⟩ =
      (.error (.path (.isDirectory "/p")), ⟨hostWith .directory, []⟩) ∧
    ¬ Orderly ((Presets.load (some "/p")).run.run ⟨hostWith (.file [0xFF]), []⟩).1 ∧
    ¬ Orderly ((Presets.load (some "/p")).run.run ⟨lockedHost, []⟩).1 ∧
    ¬ Orderly ((Presets.load (some "~nobody/p")).run.run ⟨Host.idle "Linux", []⟩).1 := by
  have hfound : Finds (hostWith .directory) "/p" ⟨true, ["p"]⟩ true :=
    ⟨ok_of_toOption (by decide +kernel), ok_of_toOption (by decide +kernel)⟩
  have hdirectory : Stumbles (hostWith .directory) "/p" (.path (.isDirectory "/p")) :=
    .reading hfound rfl
  have hlatin : Reads (hostWith (.file [0xFF])) "/p" ⟨true, ["p"]⟩ [0xFF] :=
    ⟨⟨ok_of_toOption (by decide +kernel), ok_of_toOption (by decide +kernel)⟩, ok_of_toOption rfl⟩
  have hundecodable : Text.decodeUtf8 [0xFF] = .error ⟨.invalidStart, 0, [0xFF]⟩ := by
    rw [Text.decodeUtf8, Text.decodeFrom]
    rfl
  have hplace : Presets.locate lockedHost "/p" = .ok ⟨true, ["p"]⟩ :=
    ok_of_toOption (by decide +kernel)
  have hlocked : Stumbles lockedHost "/p" (.path (.refused 13 "Permission denied" (some "/p"))) :=
    .looking hplace ⟨rfl, rfl⟩
  have hnobody : Presets.StartsAt (Path.parse "~nobody/p") "nobody".toList :=
    ⟨["p"], by decide +kernel⟩
  have hhomeless : Presets.Homeless (Host.idle "Linux") "nobody".toList .noHome := .none rfl
  have hload {host : Host} {path : String} {e : Error} (hne : path ≠ "")
      (he : Stumbles host path e) :
      ¬ Orderly ((Presets.load (some path)).run.run ⟨host, []⟩).1 :=
    fun h => (Presets.orderly_load_iff hne).1 h e he
  exact ⟨hload (by decide) hdirectory,
    CommandLine.run_stumbles rfl rfl ⟨⟨_, rfl⟩, _, rfl⟩ rfl (by decide) hdirectory,
    hload (by decide) (.undecodable hlatin hundecodable), hload (by decide) hlocked,
    hload (by decide) (.losing (.home hnobody hhomeless))⟩

end SocketInventory
