import SocketInventory.Proofs.Combination
import SocketInventory.Proofs.Json.RoundTrip
import SocketInventory.Proofs.Presets
import SocketInventory.Proofs.Query.Printing

/-!
# Validation of query texts

A text is validated by being read. Either it denotes a query, or it is refused as no query; the
numbers in it have to fit for this, and one that has too many digits to be read ends in an error
that neither surface expects.
-/

namespace SocketInventory

/-- The outcome is a value, or the refusal of a query. -/
def Orderly {α : Type} (x : Except Error α) : Prop :=
  (∃ a, x = .ok a) ∨ ∃ e, x = .error (.query e)

/-! ## Reading -/

namespace Query

theorem orderly_parse {s : String} (h : NumbersFit s.toList) : Orderly (Query.parse s) := by
  obtain ⟨tokens, ht, -⟩ := tokenize_ok h
  cases ho : ofTokens (tokens ++ [.eof]) with
  | ok q => exact .inl ⟨q, parse_ok ht ho⟩
  | error f => exact .inr ⟨.malformed f, parse_malformed ht ho⟩

theorem orderly_parse_iff {s : String} : Orderly (Query.parse s) ↔ NumbersFit s.toList := by
  refine ⟨fun h => ?_, orderly_parse⟩
  by_contra hfit
  obtain ⟨n, -, hparse⟩ := parse_of_not_fit hfit
  rw [hparse] at h
  rcases h with ⟨q, hq⟩ | ⟨e, he⟩
  · cases hq
  · cases he

theorem numbersFit_of_isBlank {s : String} (h : Filter.isBlank s = true) :
    NumbersFit s.toList := by
  intro w hw
  have hnil := lexemes_blanks (Filter.isBlank_chars h) []
  rw [List.append_nil] at hnil
  rw [hnil, lexemes] at hw
  cases hw

end Query

open Query (NumbersFit)

namespace Filter

variable {s : String}

/-- The check of a text, where the numbers fit, lets it pass or refuses it. -/
theorem refusal?_of_fit (h : NumbersFit s.toList) : refusal? s = .ok none ∨
    ∃ e, Query.parse s = .error (.query e) ∧ refusal? s = .ok (some e) := by
  cases hb : isBlank s with
  | true => exact .inl (by rw [refusal?, hb]; rfl)
  | false =>
      rcases Query.orderly_parse h with ⟨q, hq⟩ | ⟨e, he⟩
      · exact .inl ((refusal?_iff hb).2 ⟨q, hq⟩)
      · exact .inr ⟨e, he, by rw [refusal?, hb, he]; rfl⟩

theorem isBlank_of_not_fit (h : ¬ NumbersFit s.toList) : isBlank s = false :=
  eq_false_of_ne_true fun hb => h (Query.numbersFit_of_isBlank hb)

theorem refusal?_of_not_fit (h : ¬ NumbersFit s.toList) :
    ∃ n, Text.digitLimit < n ∧ refusal? s = .error (.badNumeral s (.tooLong n)) := by
  obtain ⟨n, hn, hparse⟩ := Query.parse_of_not_fit h
  refine ⟨n, hn, ?_⟩
  rw [refusal?, isBlank_of_not_fit h, hparse]
  rfl

theorem isValid_eq_refusal? (hb : isBlank s = false) :
    isValid s = (refusal? s).map Option.isNone := by
  rw [isValid, refusal?, hb]
  cases Query.parse s with
  | ok q => rfl
  | error e => cases e <;> rfl

theorem isValid_of_not_fit (h : ¬ NumbersFit s.toList) :
    ∃ n, Text.digitLimit < n ∧ isValid s = .error (.badNumeral s (.tooLong n)) := by
  obtain ⟨n, hn, hr⟩ := refusal?_of_not_fit h
  exact ⟨n, hn, by rw [isValid_eq_refusal? (isBlank_of_not_fit h), hr]; rfl⟩

theorem exists_isValid_iff : (∃ b, isValid s = .ok b) ↔ NumbersFit s.toList := by
  constructor
  · rintro ⟨b, hb⟩
    by_contra hfit
    obtain ⟨n, -, herror⟩ := isValid_of_not_fit hfit
    cases herror.symm.trans hb
  · intro h
    cases hb : isBlank s with
    | true => exact ⟨false, by rw [isValid, hb]; rfl⟩
    | false =>
        rw [isValid_eq_refusal? hb]
        rcases refusal?_of_fit h with hr | ⟨e, -, hr⟩
        · exact ⟨true, by rw [hr]; rfl⟩
        · exact ⟨false, by rw [hr]; rfl⟩

end Filter

/-! ## The surfaces -/

namespace Surfaces

open CommandLine (Arguments errorLine)
open Selection (verdict)

variable {a : Arguments} {cfg : Config} {text : String} {m : Machine}

/-- Both surfaces go on to the inventory. -/
def Passes (a : Arguments) (cfg : Config) (text : String) (m : Machine) : Prop :=
  (CommandLine.withConfig a cfg).run.run m =
      (CommandLine.printInventory cfg a.format text).run.run m ∧
    ∀ target, (Web.Target.parse target).Asks a.preset a.filter →
      let taken := (Selection.records (Inventory.ofConfig cfg) text).run.run m
      (Web.answer cfg.presets (Inventory.ofConfig cfg) ⟨"GET", target⟩).run.run m =
        (.ok (Web.tell taken.2 (.of taken.1)).1, (Web.tell taken.2 (.of taken.1)).2)

/-- Both surfaces find the user at fault, and ask the host for nothing. -/
def Refuses (a : Arguments) (cfg : Config) (m : Machine) (e : QueryError) : Prop :=
  (CommandLine.withConfig a cfg).run.run m =
      (.ok 2, m.noting [errorLine ("invalid filter: " ++ e.message)]) ∧
    ∀ target, (Web.Target.parse target).Asks a.preset a.filter →
      ∃ m', (Web.answer cfg.presets (Inventory.ofConfig cfg) ⟨"GET", target⟩).run.run m =
          (.ok (.error 400 ("invalid query: " ++ e.message)), m') ∧
        callsOf m'.events = callsOf m.events

/-- The program ends in an error that nothing handles, and the service in a bare page. -/
def Escapes (a : Arguments) (cfg : Config) (m : Machine) (e : Error) : Prop :=
  (CommandLine.withConfig a cfg).run.run m = (.error e, m) ∧
    ∀ target, (Web.Target.parse target).Asks a.preset a.filter →
      (Web.answer cfg.presets (Inventory.ofConfig cfg) ⟨"GET", target⟩).run.run m =
        (.ok (.page 500), m.noting [Web.exceptionEntry])

theorem passes (hs : a.serve = false)
    (hq : Selection.query cfg.presets a.preset a.filter = .ok text)
    (hr : Filter.refusal? text = .ok none) : Passes a cfg text m := by
  have hv : verdict cfg.presets (Inventory.ofConfig cfg) a.preset a.filter m =
      let taken := (Selection.records (Inventory.ofConfig cfg) text).run.run m
      (.of taken.1, taken.2) := by
    simp only [verdict, hq, hr]
  refine ⟨?_, fun target ht => ?_⟩
  · rw [CommandLine.run_withConfig hs, hv, CommandLine.run_printInventory]
  · rw [Web.run_answer ht, hv]

theorem refuses {e : QueryError} (hs : a.serve = false)
    (hq : Selection.query cfg.presets a.preset a.filter = .ok text)
    (hr : Filter.refusal? text = .ok (some e)) : Refuses a cfg m e := by
  have hv : verdict cfg.presets (Inventory.ofConfig cfg) a.preset a.filter m =
      (.refused text e, m) := by
    simp only [verdict, hq, hr]
  refine ⟨?_, fun target ht => ?_⟩
  · rw [CommandLine.run_withConfig hs, hv]
    rfl
  · refine ⟨_, by rw [Web.run_answer ht, hv]; rfl, ?_⟩
    exact callsOf_quiet rfl

theorem escapes {e : Error} (hs : a.serve = false)
    (hq : Selection.query cfg.presets a.preset a.filter = .ok text)
    (hr : Filter.refusal? text = .error e) : Escapes a cfg m e := by
  have hv : verdict cfg.presets (Inventory.ofConfig cfg) a.preset a.filter m =
      (.escaped e, m) := by
    simp only [verdict, hq, hr]
  refine ⟨?_, fun target ht => ?_⟩
  · rw [CommandLine.run_withConfig hs, hv]
    rfl
  · rw [Web.run_answer ht, hv]
    rfl

end Surfaces

/-! ## Presets -/

namespace Presets

section Adding

variable {limit : Nat} {presets : Presets} {entry : Data × Data} {name query : String}

theorem shown_text (s : Text.Letters) : shown limit (.text s) = .ok (Text.keptText s) := rfl

theorem shown_letters (s : String) : shown limit (.text ↑s) = .ok s := by
  rw [shown_text, Text.keptText_letters]

theorem add_eq (hname : shown limit entry.1 = .ok name) (hquery : shown limit entry.2 = .ok query) :
    add limit presets entry = (Filter.isValid query).bind fun valid =>
      if valid then .ok (setEntry (· == ·) presets (name, query))
      else .error (.query (.invalidPreset entry.1.quoted entry.2.displayQuoted)) := by
  rw [add, hquery, hname]
  refine congrArg (Filter.isValid query).bind (funext fun valid => ?_)
  cases valid <;> rfl

/-- An entry whose numbers fit is added, or refused by the name of the preset. -/
theorem add_of_fit (hname : shown limit entry.1 = .ok name)
    (hquery : shown limit entry.2 = .ok query) (hfit : NumbersFit query.toList) :
    add limit presets entry = .ok (setEntry (· == ·) presets (name, query)) ∨
      add limit presets entry =
        .error (.query (.invalidPreset entry.1.quoted entry.2.displayQuoted)) := by
  obtain ⟨valid, hvalid⟩ := Filter.exists_isValid_iff.2 hfit
  rw [add_eq hname hquery, hvalid]
  cases valid with
  | true => exact .inl rfl
  | false => exact .inr rfl

theorem add_of_not_fit (hquery : shown limit entry.2 = .ok query)
    (hfit : ¬ NumbersFit query.toList) : ∃ n, Text.digitLimit < n ∧
      add limit presets entry = .error (.badNumeral query (.tooLong n)) := by
  obtain ⟨n, hn, hvalid⟩ := Filter.isValid_of_not_fit hfit
  refine ⟨n, hn, ?_⟩
  rw [add, hquery]
  change (Filter.isValid query).bind _ = _
  rw [hvalid]
  rfl

end Adding

/-- The first entry that fails ends the fold. -/
theorem foldlM_error {limit : Nat} {before after : List (Data × Data)} {entry : Data × Data}
    {presets added : Presets} {e : Error} (hbefore : before.foldlM (add limit) presets = .ok added)
    (hadd : add limit added entry = .error e) :
    (before ++ entry :: after).foldlM (add limit) presets = .error e := by
  rw [List.foldlM_append, hbefore]
  change (add limit added entry).bind _ = _
  rw [hadd]
  rfl

/-- The file that is found for a path holds some data. -/
structure Holds (host : Host) (path : String) (d : Data) : Prop where
  nonempty : path ≠ ""
  file : ∃ file octets, Reads host path file octets ∧ readData host file octets = .ok d

/-- Data that fails ends the loading before anything is told. -/
theorem run_load_error {path : String} {d : Data} {e : Error} {m : Machine}
    (h : Holds m.host path d) (hd : ofData m.host.limits.display d = .error e) :
    (load (some path)).run.run m = (.error e, m) := by
  obtain ⟨file, octets, hreads, hdata⟩ := h.file
  refine run_load_reads h.nonempty hreads ?_
  rw [hdata]
  exact hd

end Presets

/-- The families and the transports that are asked for are there. -/
def Request.Chosen (r : Request) : Prop :=
  (∃ families, Config.choose Config.familyChoices (Config.wish "all" r.family) = .ok families) ∧
    ∃ transports, Config.choose Config.transportChoices (Config.wish "all" r.kind) = .ok transports

namespace Config

variable {r : Request} {m m' : Machine}

theorem ofRequest_error {e : Error} (hr : r.Chosen)
    (h : (Presets.load r.presets).run.run m = (.error e, m')) :
    (ofRequest r).run.run m = (.error e, m') := by
  obtain ⟨⟨families, hfamilies⟩, transports, htransports⟩ := hr
  rw [ofRequest, hfamilies, htransports, Session.run_bind_ok (Session.run_lift _),
    Session.run_bind_ok (Session.run_lift _), Session.run_bind_error h]

end Config

namespace CommandLine

variable {a : Arguments} {m m' : Machine}

/-- A preset that is refused puts the user at fault. -/
theorem run_refused {e : QueryError} (hk : a.kill = none) (hp : a.path = none)
    (h : (Config.ofRequest a.request).run.run m = (.error (.query e), m')) :
    (run a).run.run m = (.ok 2, m'.noting [errorLine e.message]) := by
  have hmade : (configOf a).run.run m = (.ok (.error e), m') := by
    rw [configOf, Session.run_tryCatch, Session.run_bind_error h]
    rfl
  rw [run, hk, hp, Session.run_bind_ok hmade]
  rfl

theorem run_escaped {e : Error} (hk : a.kill = none) (hp : a.path = none)
    (he : ∀ e', e ≠ .query e')
    (h : (Config.ofRequest a.request).run.run m = (.error e, m')) :
    (run a).run.run m = (.error e, m') := by
  have hmade : (configOf a).run.run m = (.error e, m') := by
    rw [configOf, Session.run_tryCatch, Session.run_bind_error h]
    cases e with
    | query e' => exact absurd rfl (he e')
    | _ => rfl
  rw [run, hk, hp, Session.run_bind_error hmade]

end CommandLine

/-! ## Validation -/

/-- A text is validated, wherever it is read, exactly when its numbers fit: it denotes a query or is
refused as none, as a filter both surfaces go on with it or find the user at fault, and in a file of
presets it is added or puts the user at fault. A text with a number of too many digits ends all of
them in an error that nothing handles. -/
theorem orderly_iff_numbersFit (s : String) :
    (Orderly (Query.parse s) ↔ NumbersFit s.toList) ∧
    ((∃ b, Filter.isValid s = .ok b) ↔ NumbersFit s.toList) ∧
    (Filter.isValid s = .ok true ↔ Filter.isBlank s = false ∧ ∃ q, Query.parse s = .ok q) ∧
    (∀ (a : CommandLine.Arguments) (cfg : Config) (m : Machine), a.serve = false →
      Selection.query cfg.presets a.preset a.filter = .ok s →
      (NumbersFit s.toList →
        (Filter.isBlank s = true ∨ ∃ q, Query.parse s = .ok q) ∧ Surfaces.Passes a cfg s m ∨
          ∃ e, Query.parse s = .error (.query e) ∧ Surfaces.Refuses a cfg m e) ∧
      (¬ NumbersFit s.toList → ∃ n, Text.digitLimit < n ∧
        Surfaces.Escapes a cfg m (.badNumeral s (.tooLong n)))) ∧
    ∀ (a : CommandLine.Arguments) (path name : String) (before after : List (Data × Data))
      (entry : Data × Data) (added : Presets) (m : Machine),
      a.kill = none → a.path = none → a.presets = some path → a.request.Chosen →
      Presets.Holds m.host path (.map (before ++ entry :: after)) →
      before.foldlM (Presets.add m.host.limits.display) [] = .ok added →
      Presets.shown m.host.limits.display entry.1 = .ok name →
      Presets.shown m.host.limits.display entry.2 = .ok s →
      (NumbersFit s.toList →
        Presets.add m.host.limits.display added entry =
            .ok (setEntry (· == ·) added (name, s)) ∨
          (CommandLine.run a).run.run m = (.ok 2, m.noting [CommandLine.errorLine
            (QueryError.invalidPreset entry.1.quoted entry.2.displayQuoted).message])) ∧
      (¬ NumbersFit s.toList → ∃ n, Text.digitLimit < n ∧
        (CommandLine.run a).run.run m = (.error (.badNumeral s (.tooLong n)), m)) := by
  refine ⟨Query.orderly_parse_iff, Filter.exists_isValid_iff, ?_,
    fun a cfg m hs hq => ⟨fun hfit => ?_, fun hfit => ?_⟩, ?_⟩
  · rw [Filter.isValid_iff]
    exact ⟨fun ⟨q, hq⟩ => ⟨Filter.isBlank_eq_false hq, q, hq⟩, fun h => h.2⟩
  · rcases Filter.refusal?_of_fit hfit with hr | ⟨e, he, hr⟩
    · refine .inl ⟨?_, Surfaces.passes hs hq hr⟩
      cases hb : Filter.isBlank s with
      | true => exact .inl rfl
      | false => exact .inr ((Filter.refusal?_iff hb).1 hr)
    · exact .inr ⟨e, he, Surfaces.refuses hs hq hr⟩
  · obtain ⟨n, hn, hr⟩ := Filter.refusal?_of_not_fit hfit
    exact ⟨n, hn, Surfaces.escapes hs hq hr⟩
  · intro a path name before after entry added m hk hp hpresets hr hfile hbefore hname hquery
    -- What the entry ends in, the loading, the configuration and the run end in.
    have hmade : ∀ {e}, Presets.add m.host.limits.display added entry = .error e →
        (Config.ofRequest a.request).run.run m = (.error e, m) := by
      intro e hadd
      have hload := Presets.run_load_error hfile (Presets.foldlM_error hbefore hadd)
      rw [← hpresets] at hload
      exact Config.ofRequest_error hr hload
    refine ⟨fun hfit => ?_, fun hfit => ?_⟩
    · rcases Presets.add_of_fit hname hquery hfit with hadd | hadd
      · exact .inl hadd
      · exact .inr (CommandLine.run_refused hk hp (hmade hadd))
    · obtain ⟨n, hn, hadd⟩ := Presets.add_of_not_fit hquery hfit
      exact ⟨n, hn, CommandLine.run_escaped hk hp (by rintro e' ⟨⟩) (hmade hadd)⟩

/-- A comparison without a value, as a filter and in a file of presets. -/
def unfinished : String := "pid="

def unfinishedFile : Json := .object [(↑"broken", .text ↑unfinished)]

def unfinishedHost : Host := { Host.idle "Linux" with
  files := FileTree.system [(["p"], .file ((unfinishedFile.render .compact).toList.flatMap
    String.utf8EncodeChar))] }

def unfinishedArguments : CommandLine.Arguments := { CommandLine.Arguments.none with
  filter := unfinished, presets := some "/p" }

theorem parseWithin_unfinished :
    Json.parseWithin (some Limits.standard.json) (unfinishedFile.render .compact) =
      .ok unfinishedFile := by
  have hwritten := @Json.lexemes_write .compact rfl 0 unfinishedFile []
    ⟨Json.isWhole_letters _, Json.isWhole_letters _, trivial⟩ (by rintro c ⟨⟩)
  rw [List.append_nil, Json.lexemes, List.append_nil] at hwritten
  have hlexemes : Json.lexemes (unfinishedFile.render .compact).toList = unfinishedFile.yield := by
    rw [Json.render, String.toList_ofList, hwritten]
  have hvalue : ((Json.readValue (some Limits.standard.json) 0 unfinishedFile.yield).map
      fun p => (p.1, p.2.val)) = .ok (unfinishedFile, []) := by
    simp only [unfinishedFile, Json.yield, Json.readValue, Json.readMembers, List.cons_append]
    rfl
  rw [← hlexemes] at hvalue
  obtain ⟨hr, hread⟩ := Json.exists_of_map_rest hvalue
  rw [Json.parseWithin, hread]
  rfl

theorem holds_unfinished :
    Presets.Holds unfinishedHost "/p" (.map [(.text ↑"broken", .text ↑unfinished)]) where
  nonempty := by decide
  file := by
    refine ⟨⟨true, ["p"]⟩, _,
      ⟨⟨ok_of_toOption (by decide +kernel), ok_of_toOption rfl⟩, ok_of_toOption rfl⟩, ?_⟩
    have htext : Text.decodeUtf8 ((unfinishedFile.render .compact).toList.flatMap
        String.utf8EncodeChar) = .ok (unfinishedFile.render .compact).toList :=
      ok_of_toOption (by decide +kernel)
    have hsuffix : Presets.yamlSuffixes.contains (Path.suffix ⟨true, ["p"]⟩) = false := by decide
    simp only [Presets.readData, htext, hsuffix, Except.mapError, bind, Except.bind]
    have hjson : Json.parseWithin (some unfinishedHost.limits.json)
        (unfinishedFile.render .compact) = .ok unfinishedFile := parseWithin_unfinished
    rw [String.ofList_toList, hjson]
    rfl

theorem orderly_iff_numbersFit_unfinished :
    NumbersFit unfinished.toList ∧ Orderly (Query.parse unfinished) ∧
      Filter.isValid unfinished = .ok false ∧
      (∃ e, Surfaces.Refuses unfinishedArguments Config.standard ⟨unfinishedHost, []⟩ e) ∧
      (CommandLine.run unfinishedArguments).run.run ⟨unfinishedHost, []⟩ =
        (.ok 2, ⟨unfinishedHost, [CommandLine.errorLine
          (QueryError.invalidPreset (Data.quoted (.text ↑"broken"))
            (Data.displayQuoted (.text ↑unfinished))).message]⟩) := by
  have hfit : NumbersFit unfinished.toList := Query.numbersFit_of_length (by decide)
  have hparse : (Query.parse unfinished).toOption = none := by decide +kernel
  have hvalid : Filter.isValid unfinished = .ok false := ok_of_toOption (by decide +kernel)
  obtain ⟨horderly, -, -, hfilter, hpreset⟩ := orderly_iff_numbersFit unfinished
  refine ⟨hfit, horderly.2 hfit, hvalid, ?_, ?_⟩
  · obtain ⟨hchecked, -⟩ := hfilter unfinishedArguments Config.standard ⟨unfinishedHost, []⟩ rfl rfl
    rcases hchecked hfit with ⟨hblank | ⟨q, hq⟩, -⟩ | ⟨e, -, he⟩
    · exact absurd hblank (by decide)
    · rw [hq] at hparse
      cases hparse
    · exact ⟨e, he⟩
  · obtain ⟨hadded, -⟩ := hpreset unfinishedArguments "/p" "broken" [] []
      (.text ↑"broken", .text ↑unfinished) [] ⟨unfinishedHost, []⟩ rfl rfl rfl ⟨⟨_, rfl⟩, _, rfl⟩
      holds_unfinished rfl (Presets.shown_letters _) (Presets.shown_letters _)
    rcases hadded hfit with hadd | hrefused
    · rw [Presets.add_eq (Presets.shown_letters _) (Presets.shown_letters _), hvalid] at hadd
      cases hadd
    · exact hrefused

/-- A comparison with a number of one digit too many. -/
def overlong : String :=
  String.ofList (['p', 'i', 'd'] ++ '=' :: List.replicate (Text.digitLimit + 1) '1')

/-- A filter that neither denotes a query nor is refused as none, and ends both surfaces in an error
that nothing handles. -/
theorem not_orderly_overlong :
    ¬ Orderly (Query.parse overlong) ∧ (∀ b, Filter.isValid overlong ≠ .ok b) ∧
      Surfaces.Escapes { CommandLine.Arguments.none with filter := overlong } Config.standard
        ⟨Host.idle "Linux", []⟩ (.badNumeral overlong (.tooLong 4301)) := by
  have hpid : Query.IsWord ['p', 'i', 'd'] := .intro (by decide) (by decide)
  have hparse : Query.parse overlong = .error (.badNumeral overlong (.tooLong 4301)) := by
    have hlength : (List.replicate (Text.digitLimit + 1) '1').length = 4301 := by
      rw [List.length_replicate]
      rfl
    rw [← hlength]
    refine Query.parse_overlong (.word hpid (by decide) (by decide) (by decide)) hpid ?_ ?_
    · intro c hc
      rw [List.eq_of_mem_replicate hc]
      decide
    · rw [List.length_replicate]
      omega
  have hblank : Filter.isBlank overlong = false := by
    rw [Filter.isBlank, overlong, String.toList_ofList]
    rfl
  have hr : Filter.refusal? overlong = .error (.badNumeral overlong (.tooLong 4301)) := by
    rw [Filter.refusal?, hblank, hparse]
    rfl
  refine ⟨?_, fun b hb => ?_, Surfaces.escapes rfl rfl hr⟩
  · rw [hparse]
    rintro (⟨q, hq⟩ | ⟨e, he⟩)
    · cases hq
    · cases he
  · rw [Filter.isValid, hblank, hparse] at hb
    cases hb

end SocketInventory
