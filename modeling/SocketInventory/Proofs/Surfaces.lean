import SocketInventory.CommandLine.Run
import SocketInventory.Proofs.Files
import SocketInventory.Proofs.Json.Records
import SocketInventory.Proofs.Quiet
import SocketInventory.Proofs.Selection
import SocketInventory.Proofs.Web.Target
import SocketInventory.Web.Service

/-!
# The two surfaces

The program and the service answer the same wish for an inventory, each in words of its own. Both
answers are read off one verdict, which depends on the configuration, the preset, the filter and the
host alone.
-/

namespace SocketInventory

/-! ## Verdicts -/

namespace Selection

/-- What a wish for an inventory comes to, before a surface puts it in words. -/
inductive Verdict where
  | unknownPreset (name : String)
  | refused (text : String) (e : QueryError)
  | failed (message : String)
  | selected (records : List Record)
  /-- An error that nothing handles. -/
  | escaped (e : Error)

def Verdict.of : Except Error (Except String (List Record)) → Verdict
  | .ok (.ok records) => .selected records
  | .ok (.error message) => .failed message
  | .error e => .escaped e

/-- The verdict on a preset and a filter, and the machine that it leaves. -/
def verdict (presets : Presets) (inventory : Session (List Record)) (name : Option String)
    (filter : String) (m : Machine) : Verdict × Machine :=
  match query presets name filter with
  | .error name => (.unknownPreset name, m)
  | .ok text =>
    match Filter.refusal? text with
    | .error e => (.escaped e, m)
    | .ok (some e) => (.refused text e, m)
    | .ok none =>
      let taken := (records inventory text).run.run m
      (.of taken.1, taken.2)

section

variable {presets : Presets} {inventory : Session (List Record)} {name : Option String}
  {filter : String} {m : Machine}

theorem verdict_accepted {text : String} (hq : query presets name filter = .ok text)
    (hr : Filter.refusal? text = .ok none) : verdict presets inventory name filter m =
      let taken := inventory.run.run m
      (.of (answer (taken.1.bind fun rs => Filter.apply rs text)), taken.2) := by
  simp only [verdict, hq, hr, records_run]

end

/-- A verdict does not depend on what was told before. -/
theorem exists_verdict {inventory : Session (List Record)} (hi : Session.Quiet inventory)
    (presets : Presets) (name : Option String) (filter : String) (host : Host) :
    ∃ v host' told, (∀ e ∈ told, Event.isQuiet e) ∧
      ∀ events, verdict presets inventory name filter ⟨host, events⟩ =
        (v, ⟨host', events ++ told⟩) := by
  simp only [verdict]
  cases query presets name filter with
  | error name => exact ⟨.unknownPreset name, host, [], by simp, fun events => by simp⟩
  | ok text =>
      cases hr : Filter.refusal? text with
      | error e => exact ⟨.escaped e, host, [], by simp, fun events => by simp [hr]⟩
      | ok refusal =>
          cases refusal with
          | some e => exact ⟨.refused text e, host, [], by simp, fun events => by simp [hr]⟩
          | none =>
              obtain ⟨out, host', told, htold, hrun⟩ := hi host
              refine ⟨.of (answer (out.bind fun rs => Filter.apply rs text)), host', told, htold,
                fun events => ?_⟩
              simp only [hr, records_run, hrun]

/-- The wish is turned down before anything is asked. -/
inductive Verdict.Rejects : Verdict → Prop
  | unknownPreset (name : String) : Rejects (.unknownPreset name)
  | refused (text : String) (e : QueryError) : Rejects (.refused text e)

theorem not_rejects_of (x : Except Error (Except String (List Record))) :
    ¬ (Verdict.of x).Rejects := by
  rcases x with e | message | records <;> rintro ⟨⟩

theorem machine_of_rejects {inventory : Session (List Record)} {presets : Presets}
    {name : Option String} {filter : String} {m : Machine}
    (h : (verdict presets inventory name filter m).1.Rejects) :
    (verdict presets inventory name filter m).2 = m := by
  revert h
  rw [verdict]
  cases query presets name filter with
  | error name => exact fun _ => rfl
  | ok text =>
      cases hr : Filter.refusal? text with
      | error e => exact fun _ => by simp only [hr]
      | ok refusal =>
          cases refusal with
          | some e => exact fun _ => by simp only [hr]
          | none =>
              simp only [hr]
              exact fun h => absurd h (not_rejects_of _)

end Selection

open Selection (Verdict verdict)

/-! ## The program -/

namespace CommandLine

def errorLine (message : String) : Event := .errors ("[error] " ++ message ++ "\n")

/-- How the program puts a verdict. -/
def tell (format : String) (m : Machine) : Verdict → Except Error Int × Machine
  | .unknownPreset name => (.ok 2, m.noting [errorLine ("unknown preset: " ++ name)])
  | .refused _ e => (.ok 2, m.noting [errorLine ("invalid filter: " ++ e.message)])
  | .failed message => (.ok 1, m.noting [errorLine message])
  | .selected records =>
    match render format records with
    | .ok text => (.ok 0, m.noting [.output (text ++ "\n")])
    | .error e => (.error e, m)
  | .escaped e => (.error e, m)

theorem tell_eq_two_iff {format : String} {m : Machine} {v : Verdict} :
    (tell format m v).1 = .ok 2 ↔ v.Rejects := by
  cases v with
  | unknownPreset name => exact iff_of_true rfl (.unknownPreset name)
  | refused text e => exact iff_of_true rfl (.refused text e)
  | failed message => exact iff_of_false (by rintro ⟨⟩) (by rintro ⟨⟩)
  | escaped e => exact iff_of_false (by rintro ⟨⟩) (by rintro ⟨⟩)
  | selected records =>
      refine iff_of_false ?_ (by rintro ⟨⟩)
      simp only [tell]
      cases render format records <;> rintro ⟨⟩

theorem run_fail {m : Machine} (status : Int) (message : String) :
    (fail status message).run.run m = (.ok status, m.noting [errorLine message]) := rfl

theorem run_printInventory (cfg : Config) (format text : String) (m : Machine) :
    (printInventory cfg format text).run.run m =
      let taken := (Selection.records (Inventory.ofConfig cfg) text).run.run m
      tell format taken.2 (.of taken.1) := by
  rw [printInventory, Session.run_bind]
  rcases (Selection.records (Inventory.ofConfig cfg) text).run.run m with ⟨e | message | found, m'⟩
  · rfl
  · exact run_fail 1 message
  · simp only [Verdict.of, tell]
    rw [Session.run_bind, Session.run_lift]
    cases render format found <;> rfl

theorem run_withConfig {a : Arguments} (hs : a.serve = false) (cfg : Config) (m : Machine) :
    (withConfig a cfg).run.run m =
      let taken := verdict cfg.presets (Inventory.ofConfig cfg) a.preset a.filter m
      tell a.format taken.2 taken.1 := by
  rw [withConfig, hs, if_neg (by simp), verdict]
  cases Selection.query cfg.presets a.preset a.filter with
  | error name => exact run_fail 2 _
  | ok text =>
      simp only
      rw [Session.run_bind, Session.run_lift]
      cases Filter.refusal? text with
      | error e => rfl
      | ok refusal =>
          cases refusal with
          | some e => exact run_fail 2 _
          | none => exact run_printInventory cfg a.format text m

/-! ## Making the configuration -/

theorem run_load {path : Option String} {presets : Presets} {m m' : Machine}
    (h : (Presets.load path).run.run m = (.ok presets, m')) :
    ∃ texts : List String, m' = m.noting (texts.map .errors) := by
  rw [Presets.run_load] at h
  split at h
  · cases h
    exact ⟨[], by simp [Machine.noting]⟩
  split at h
  · cases h
  split at h
  · cases h
  · cases h
    exact ⟨[_], rfl⟩
  split at h
  · cases h
  split at h
  · cases h
  · cases h
    exact ⟨[_], rfl⟩

/-- A configuration is made without asking the host for anything but files. -/
theorem run_configOf {a : Arguments} {cfg : Config} {m m' : Machine}
    (h : (configOf a).run.run m = (.ok (.ok cfg), m')) :
    ∃ texts : List String, m' = m.noting (texts.map .errors) := by
  have hrequest : (Config.ofRequest a.request).run.run m = (.ok cfg, m') := by
    rw [configOf, Session.run_tryCatch, Session.run_bind] at h
    rcases hr : (Config.ofRequest a.request).run.run m with ⟨e | cfg', m₁⟩
    · rw [hr] at h
      cases e <;> cases h
    · rw [hr] at h
      cases h
      rfl
  rw [Config.ofRequest] at hrequest
  obtain ⟨families, m₁, hfamilies, hrequest⟩ := Session.exists_of_run_bind hrequest
  obtain ⟨transports, m₂, htransports, hrequest⟩ := Session.exists_of_run_bind hrequest
  rw [Session.run_lift] at hfamilies htransports
  obtain ⟨-, rfl⟩ := Prod.mk.inj hfamilies
  obtain ⟨-, rfl⟩ := Prod.mk.inj htransports
  obtain ⟨presets, m₃, hload, hrequest⟩ := Session.exists_of_run_bind hrequest
  obtain ⟨texts, rfl⟩ := run_load hload
  cases hstrict : a.request.strictProcesses with
  | false =>
      rw [hstrict] at hrequest
      cases hrequest
      exact ⟨texts, rfl⟩
  | true =>
      rw [hstrict] at hrequest
      cases hrequest
      refine ⟨texts ++ ["[*] process table failures are fatal" ++ "\n"], ?_⟩
      rw [List.map_append, ← Machine.noting_noting]
      rfl

end CommandLine

/-! ## The service -/

namespace Web

/-- What the log says of an error that no answer is meant for. -/
def exceptionEntry : Event :=
  .log .error ("Exception on " ++ String.ofList connectionsPath ++ " [" ++ "GET" ++ "]")

/-- How the service puts a verdict. -/
def tell (m : Machine) : Verdict → Response × Machine
  | .unknownPreset name =>
    (.error 400 ("unknown preset: " ++ name),
      m.noting [.log .warning ("unknown preset requested: " ++ name)])
  | .refused text e =>
    (.error 400 ("invalid query: " ++ e.message),
      m.noting [.log .warning ("rejected query " ++ Text.quote text ++ ": " ++ e.message)])
  | .failed message =>
    (.error 500 message, m.noting [.log .error ("inventory failed: " ++ message)])
  | .selected records =>
    let served := m.noting
      [.log .info ("inventory served: " ++ toString records.length ++ " records")]
    match Render.json .compact records with
    | .ok text => (⟨200, .json text⟩, served)
    | .error _ => (.page 500, served.noting [exceptionEntry])
  | .escaped _ => (.page 500, m.noting [exceptionEntry])

theorem tell_status_iff {m : Machine} {v : Verdict} : (tell m v).1.status = 400 ↔ v.Rejects := by
  cases v with
  | unknownPreset name => exact iff_of_true rfl (.unknownPreset name)
  | refused text e => exact iff_of_true rfl (.refused text e)
  | failed message => exact iff_of_false (by rintro ⟨⟩) (by rintro ⟨⟩)
  | escaped e => exact iff_of_false (by rintro ⟨⟩) (by rintro ⟨⟩)
  | selected records =>
      refine iff_of_false ?_ (by rintro ⟨⟩)
      simp only [tell]
      cases Render.json .compact records <;> rintro ⟨⟩

/-- An answer, or the page that stands for an error. -/
def orPage (x : Except Error Response × Machine) : Response × Machine :=
  match x with
  | (.ok r, m) => (r, m)
  | (.error _, m) => (.page 500, m.noting [exceptionEntry])

theorem run_serveRecords (inventory : Session (List Record)) (text : String) (m : Machine) :
    orPage ((serveRecords inventory text).run.run m) =
      let taken := (Selection.records inventory text).run.run m
      tell taken.2 (.of taken.1) := by
  rw [serveRecords, Session.run_bind]
  rcases (Selection.records inventory text).run.run m with ⟨e | message | found, m'⟩
  · rfl
  · rfl
  · simp only [Verdict.of, tell]
    rw [Session.run_bind_ok (Session.run_log _ _), Session.run_bind, Session.run_lift]
    cases Render.json .compact found <;> rfl

theorem run_connections (presets : Presets) (inventory : Session (List Record)) (t : Target)
    (m : Machine) : orPage ((connections presets inventory t).run.run m) =
      let taken := verdict presets inventory (t.value? "preset") ((t.value? "q").getD "") m
      tell taken.2 taken.1 := by
  rw [connections, verdict]
  cases Selection.query presets (t.value? "preset") ((t.value? "q").getD "") with
  | error name => rfl
  | ok text =>
      simp only
      rw [Session.run_bind, Session.run_lift]
      cases Filter.refusal? text with
      | error e => rfl
      | ok refusal =>
          cases refusal with
          | some e => rfl
          | none => exact run_serveRecords inventory text m

theorem route_connections : route "GET" connectionsPath = .to .connections := by
  decide +kernel

theorem capitals_get : capitals "GET" = "GET" := by
  decide +kernel

theorem serve_connections (presets : Presets) (inventory : Session (List Record)) (t : Target) :
    serve presets inventory "GET" t .connections = connections presets inventory t := by
  rw [serve]
  exact if_neg (by decide)

theorem withoutText_get (r : Response) : withoutText "GET" r = r := by
  rw [withoutText]
  cases r.body with
  | json text => exact if_neg (by decide)
  | page => rfl

theorem run_orPage (x : Session Response) (m : Machine) :
    (tryCatch x fun _ => do
      Session.note exceptionEntry
      return .page 500).run.run m = (.ok (orPage (x.run.run m)).1, (orPage (x.run.run m)).2) := by
  rw [Session.run_tryCatch]
  rcases x.run.run m with ⟨e | r, m'⟩ <;> rfl

/-- A request for the connections is always answered. -/
theorem run_answer {presets : Presets} {inventory : Session (List Record)} {target : String}
    {preset : Option String} {filter : String} (ht : (Target.parse target).Asks preset filter)
    (m : Machine) : (answer presets inventory ⟨"GET", target⟩).run.run m =
      let taken := verdict presets inventory preset filter m
      (.ok (tell taken.2 taken.1).1, (tell taken.2 taken.1).2) := by
  have hanswer := run_orPage (connections presets inventory (Target.parse target)) m
  rw [run_connections, ht.preset, ht.filter] at hanswer
  unfold answer
  simp only [capitals_get, ht.path, route_connections, serve_connections, withoutText_get]
  exact (Session.run_bind_ok hanswer).trans (Session.run_pure _)

end Web

/-! ## Agreement -/

namespace Surfaces

open CommandLine (Arguments errorLine)
open Web (Response)

/-- How the program ended, and what the service answered, with the accounts of both. -/
structure EndAlike (printed : Except Error Int × Machine) (answered : Response × Machine) :
    Prop where
  calls : printed.2.events.filterMap Event.call? = answered.2.events.filterMap Event.call?
  listed : printed.1 = .ok 0 ↔ answered.1.status = 200
  /-- What is printed and what is answered is read as the same value. -/
  value : printed.1 = .ok 0 → ∃ body v, answered.1.body = .json body ∧ Json.parse body = .ok v ∧
    Json.parse (outputOf printed.2.events) = .ok v
  refused : printed.1 = .ok 2 ↔ answered.1.status = 400
  failed : printed.1 = .ok 1 ↔ answered.1.status = 500 ∧ answered.1.body ≠ .page
  /-- The message of a failure is the same, and printed last. -/
  message : printed.1 = .ok 1 → ∃ message, answered.1 = .error 500 message ∧
    printed.2.events.getLast? = some (errorLine message)
  escaped : (∃ e, printed.1 = .error e) ↔ answered.1 = .page 500

theorem outputOf_append (first last : List Event) :
    outputOf (first ++ last) = outputOf first ++ outputOf last := by
  rw [outputOf, List.map_append, String.join_append]
  rfl

theorem error_status (status : Nat) (message : String) :
    (Response.error status message).status = status := rfl

theorem error_body (status : Nat) (message : String) :
    (Response.error status message).body ≠ .page := by
  rintro ⟨⟩

section Verdicts

variable {m m' : Machine}
  (hcalls : m.events.filterMap Event.call? = m'.events.filterMap Event.call?)

include hcalls

/-- What the surfaces add in the end are no calls. -/
theorem calls_noting {last last' : List Event} (hl : last.filterMap Event.call? = [])
    (hl' : last'.filterMap Event.call? = []) :
    (m.noting last).events.filterMap Event.call? =
      (m'.noting last').events.filterMap Event.call? := by
  simp only [Machine.noting, List.filterMap_append, hl, hl', hcalls]

theorem endAlike_refused (said answered : String) (level : Level) (entry : String) :
    EndAlike (.ok 2, m.noting [errorLine said])
      (.error 400 answered, m'.noting [.log level entry]) where
  calls := calls_noting hcalls rfl rfl
  listed := by simp [error_status]
  value := by rintro ⟨⟩
  refused := by simp [error_status]
  failed := by simp [error_status]
  message := by rintro ⟨⟩
  escaped := by
    have hpage : Response.error 400 answered ≠ .page 500 := by rintro ⟨⟩
    simp [hpage]

theorem endAlike_failed (message : String) (level : Level) (entry : String) :
    EndAlike (.ok 1, m.noting [errorLine message])
      (.error 500 message, m'.noting [.log level entry]) where
  calls := calls_noting hcalls rfl rfl
  listed := by simp [error_status]
  value := by rintro ⟨⟩
  refused := by simp [error_status]
  failed := by simp [error_status, error_body]
  message := fun _ => ⟨message, rfl, by simp [Machine.noting]⟩
  escaped := by
    have hpage : Response.error 500 message ≠ .page 500 := by rintro ⟨⟩
    simp [hpage]

theorem endAlike_escaped (e : Error) {last : List Event} (hl : last.filterMap Event.call? = []) :
    EndAlike (.error e, m) (.page 500, m'.noting last) where
  calls := by
    have hcalls' := calls_noting hcalls (@List.filterMap_nil _ _ Event.call?) hl
    rwa [Machine.noting, List.append_nil] at hcalls'
  listed := by simp [Web.Response.page]
  value := by rintro ⟨⟩
  refused := by simp [Web.Response.page]
  failed := by simp [Web.Response.page]
  message := by rintro ⟨⟩
  escaped := by simp

theorem endAlike_selected (hm : outputOf m.events = "") {records : List Record} {v : Json}
    (hv : Render.jsonRecords records = .ok v) (level : Level) (entry : String) :
    EndAlike (.ok 0, m.noting [.output (v.render .pretty ++ "\n")])
      (⟨200, .json (v.render .compact)⟩, m'.noting [.log level entry]) where
  calls := calls_noting hcalls rfl rfl
  listed := by simp
  value := by
    intro _
    obtain ⟨hcompact, -⟩ := Render.parse_json .compact rfl hv
    obtain ⟨-, hpretty⟩ := Render.parse_json .pretty rfl hv
    refine ⟨_, v, rfl, hcompact, ?_⟩
    rw [Machine.noting, outputOf_append, hm]
    simpa [outputOf, Event.outputText, String.join] using hpretty
  refused := by simp
  failed := by simp
  message := by rintro ⟨⟩
  escaped := by simp [Web.Response.page]

/-- The surfaces put every verdict alike. -/
theorem endAlike_tell (hm : outputOf m.events = "") (v : Verdict) :
    EndAlike (CommandLine.tell "json" m v) (Web.tell m' v) := by
  cases v with
  | unknownPreset name => exact endAlike_refused hcalls _ _ _ _
  | refused text e => exact endAlike_refused hcalls _ _ _ _
  | failed message => exact endAlike_failed hcalls message _ _
  | escaped e => exact endAlike_escaped hcalls e rfl
  | selected records =>
      simp only [CommandLine.tell, CommandLine.render, if_pos, Web.tell, Render.json_eq]
      cases hv : Render.jsonRecords records with
      | ok v => exact endAlike_selected hcalls hm hv _ _
      | error e =>
          rw [Except.map, Except.map, Machine.noting_noting]
          exact endAlike_escaped hcalls e rfl

end Verdicts

theorem outputOf_errors (texts : List String) : outputOf (texts.map .errors) = "" := by
  induction texts with
  | nil => rfl
  | cons text texts ih =>
      rw [List.map_cons, ← List.singleton_append, outputOf_append, ih]
      rfl

theorem outputOf_isQuiet {told : List Event} (h : ∀ e ∈ told, e.isQuiet) : outputOf told = "" := by
  induction told with
  | nil => rfl
  | cons e told ih =>
      obtain ⟨he, htold⟩ := List.forall_mem_cons.1 h
      rw [← List.singleton_append, outputOf_append, ih htold, outputOf, List.map_singleton,
        Event.outputText_of_isQuiet he]
      rfl

/-- Messages on the error output beforehand make no difference. -/
theorem endAlike_verdict {inventory : Session (List Record)} (hi : Session.Quiet inventory)
    (presets : Presets) (name : Option String) (filter : String) (host : Host)
    (texts : List String) :
    let taken := verdict presets inventory name filter ⟨host, texts.map .errors⟩
    let taken' := verdict presets inventory name filter ⟨host, []⟩
    EndAlike (CommandLine.tell "json" taken.2 taken.1) (Web.tell taken'.2 taken'.1) := by
  obtain ⟨v, host', told, htold, hrun⟩ := Selection.exists_verdict hi presets name filter host
  simp only [hrun]
  refine endAlike_tell ?_ ?_ v
  · have hnone : (texts.map Event.errors).filterMap Event.call? = [] := by
      simp [List.filterMap_map, Event.call?, Function.comp_def]
    rw [List.nil_append, List.filterMap_append, hnone, List.nil_append]
  · rw [outputOf_append, outputOf_errors, outputOf_isQuiet htold]
    rfl

/-- For every wish there are requests, and each of them is answered as the program ends that is run
with the same configuration, also where it has made the configuration itself. -/
theorem program_and_service_agree (a : Arguments) (cfg : Config) (host : Host)
    (hs : a.serve = false) (hf : a.format = "json") :
    (∃ target, (Web.Target.parse target).Asks a.preset a.filter) ∧
    ∀ target, (Web.Target.parse target).Asks a.preset a.filter →
      ∃ r m, (Web.answer cfg.presets (Inventory.ofConfig cfg) ⟨"GET", target⟩).run.run ⟨host, []⟩ =
          (.ok r, m) ∧
        EndAlike ((CommandLine.withConfig a cfg).run.run ⟨host, []⟩) (r, m) ∧
        ∀ made, a.kill = none → a.path = none →
          (CommandLine.configOf a).run.run ⟨host, []⟩ = (.ok (.ok cfg), made) →
            EndAlike ((CommandLine.run a).run.run ⟨host, []⟩) (r, m) := by
  refine ⟨Web.exists_asks a.preset a.filter, fun target ht => ?_⟩
  have hagree := endAlike_verdict (Inventory.quiet_ofConfig cfg) cfg.presets a.preset a.filter host
  refine ⟨_, _, Web.run_answer ht _, ?_, fun made hk hp hmade => ?_⟩
  · rw [CommandLine.run_withConfig hs, hf]
    exact hagree []
  · obtain ⟨texts, rfl⟩ := CommandLine.run_configOf hmade
    have hrun : (CommandLine.run a).run.run ⟨host, []⟩ =
        (CommandLine.withConfig a cfg).run.run (Machine.noting ⟨host, []⟩ (texts.map .errors)) := by
      rw [CommandLine.run, hk, hp]
      exact Session.run_bind_ok hmade
    rw [hrun, CommandLine.run_withConfig hs, hf]
    exact hagree texts

/-- A host with one listener. -/
def listenerHost : Host := { Host.idle "Darwin" with
  connections := fun k => .ok
    (if k = ⟨.tcp, .inet4⟩ then [⟨.inet4, some ("127.0.0.1", .number 22), none, "LISTEN", none⟩]
    else []) }

/-- A preset and a filter that the listener satisfies. -/
def listenerArguments : Arguments := { Arguments.none with
  format := "json", preset := some "listening", filter := "lport=22" }

def listenerConfig : Config := { Config.standard with presets := Presets.shipped }

theorem program_and_service_agree_listener :
    (CommandLine.configOf listenerArguments).run.run ⟨listenerHost, []⟩ =
      (.ok (.ok listenerConfig), ⟨listenerHost, []⟩) ∧
    ((CommandLine.run listenerArguments).run.run ⟨listenerHost, []⟩).1 = .ok 0 ∧
    ∃ r m, (Web.answer listenerConfig.presets (Inventory.ofConfig listenerConfig)
        ⟨"GET", "/api/connections?preset=listening&q=lport%3D22"⟩).run.run ⟨listenerHost, []⟩ =
          (.ok r, m) ∧ r.status = 200 ∧
        EndAlike ((CommandLine.run listenerArguments).run.run ⟨listenerHost, []⟩) (r, m) := by
  have hmade : (CommandLine.configOf listenerArguments).run.run ⟨listenerHost, []⟩ =
      (.ok (.ok listenerConfig), ⟨listenerHost, []⟩) := rfl
  have hlisted : ((CommandLine.run listenerArguments).run.run ⟨listenerHost, []⟩).1 = .ok 0 :=
    ok_of_toOption (by decide +kernel)
  have htarget : (Web.Target.parse "/api/connections?preset=listening&q=lport%3D22").Asks
      (some "listening") "lport=22" := by
    constructor <;> decide +kernel
  obtain ⟨-, hagree⟩ := program_and_service_agree listenerArguments listenerConfig listenerHost
    rfl rfl
  obtain ⟨r, m, hanswer, -, hrun⟩ := hagree _ htarget
  have hend := hrun _ rfl rfl hmade
  exact ⟨hmade, hlisted, r, m, hanswer, hend.listed.1 hlisted, hend⟩

end Surfaces

end SocketInventory
