import SocketInventory.Proofs.CommandLine.Effects
import SocketInventory.Proofs.Web.Route

/-!
# What requests ask

A request ends a process when it asks for exactly this, and once; a request that is turned down is
turned down before the host is asked for anything. From request to request this is carried over to
all requests in a row.
-/

namespace SocketInventory

open Session

namespace Web

/-! ## Ending a process -/

/-- The request asks for the end of a process, whose number stands in the path in digits. -/
structure Request.AsksKill (r : Request) (pid : Int) : Prop where
  method : capitals r.method = "POST"
  path : ∃ digits, (Target.parse r.target).path = killPath digits ∧
    Route.isNumber digits = true ∧ Text.parseInteger digits = .ok pid

theorem processNumber_eq_ok_iff {digits : List Char} {pid : Int} :
    processNumber digits = .ok pid ↔ Text.parseInteger digits = .ok pid := by
  rw [processNumber]
  cases Text.parseInteger digits <;> simp [Except.mapError]

/-- A request is routed to the end of a process by the path and the methods for it. -/
theorem route_eq_processKill_iff {method : String} {path digits : List Char}
    (hpath : path.head? = some '/') : route method path = .to (.processKill digits) ↔
      path = killPath digits ∧ Route.isNumber digits = true ∧
        (method = "POST" ∨ method = "OPTIONS") := by
  rw [← and_assoc, ← Route.ofPath?_eq_processKill_iff hpath, route]
  cases Route.ofPath? path with
  | none =>
      refine iff_of_false ?_ (by simp)
      cases Route.ofPath? (mergeSlashes path) with
      | none => rintro ⟨⟩
      | some place =>
          simp only
          split <;> rintro ⟨⟩
  | some place =>
      simp only [Option.some.injEq]
      constructor
      · intro h
        split at h
        · rename_i hmethod
          cases h
          simpa [Route.methods] using hmethod
        · cases h
      · rintro ⟨rfl, hmethod⟩
        rw [if_pos (by simpa [Route.methods] using hmethod)]

theorem head?_path (s : String) : (Target.parse s).path.head? = some '/' := rfl

section Answers

variable {presets : Presets} {inventory : Session (List Record)} {r : Request} {m : Machine}

theorem calls_killProcess (pid : Int) : callsOf ((killProcess pid).run.run m).2.events =
    callsOf m.events ++ m.host.opening pid (.kill pid) := by
  rw [killProcess, calls_tryCatch, calls_bind, Processes.calls_terminate]
  · exact fun _ => (silent_log _ _).bind fun _ => tells_pure _
  · intro e
    cases e with
    | processNotFound pid => exact (silent_log _ _).bind fun _ => tells_pure _
    | terminationFailed pid reason => exact (silent_log _ _).bind fun _ => tells_pure _
    | _ => exact tells_throw _

/-- A request for the end of a process makes the call for this, if the process can be opened. -/
theorem calls_answer_kill {pid : Int} (h : r.AsksKill pid) :
    callsOf ((answer presets inventory r).run.run m).2.events =
      callsOf m.events ++ m.host.opening pid (.kill pid) := by
  obtain ⟨hmethod, digits, hpath, hnumber, hpid⟩ := h
  have hroute : route "POST" (Target.parse r.target).path = .to (.processKill digits) :=
    (route_eq_processKill_iff (head?_path _)).2 ⟨hpath, hnumber, .inl rfl⟩
  unfold answer
  simp only [hmethod, hroute]
  rw [calls_bind fun _ => tells_pure _, calls_tryCatch fun _ => (silent_log _ _).bind fun _ =>
    tells_pure _, serve, processNumber_eq_ok_iff.2 hpid]
  exact calls_killProcess pid

theorem harmless_connections (hi : Harmless inventory) (t : Target) :
    Harmless (connections presets inventory t) := by
  unfold connections
  split
  · exact (silent_log _ _).harmless.bind fun _ => tells_pure _
  · refine (tells_lift _).bind fun refusal => ?_
    cases refusal with
    | some e => exact (silent_log _ _).harmless.bind fun _ => tells_pure _
    | none =>
        refine (Selection.harmless_records hi _).bind fun found => ?_
        cases found with
        | error message => exact (silent_log _ _).harmless.bind fun _ => tells_pure _
        | ok records =>
            exact (silent_log _ _).harmless.bind fun _ =>
              (tells_lift _).bind fun _ => tells_pure _

theorem harmless_processPath (pid : Int) : Harmless (processPath pid) :=
  (Processes.harmless_executablePath pid).bind fun _ => tells_pure _

/-- Only the route to the end of a process leads to one, and only by the method for it. -/
theorem harmless_serve (hi : Harmless inventory) {method : String} {t : Target} {place : Route}
    (h : ∀ digits pid, place = .processKill digits → processNumber digits = .ok pid →
      method = "OPTIONS") : Harmless (serve presets inventory method t place) := by
  cases place with
  | connections =>
      rw [serve]
      split
      · exact tells_pure _
      · exact harmless_connections hi t
  | presets =>
      rw [serve]
      split <;> exact tells_pure _
  | processPath digits =>
      refine (tells_lift _).bind fun pid => ?_
      split
      · exact tells_pure _
      · exact harmless_processPath pid
  | processKill digits =>
      refine tells_lift_bind fun pid hpid => ?_
      rw [if_pos (h digits pid rfl hpid)]
      exact tells_pure _
  | asset => exact tells_pure _

/-- Any other request ends no process. -/
theorem harmless_answer (hi : Harmless inventory) (h : ∀ pid, ¬ r.AsksKill pid) :
    Harmless (answer presets inventory r) := by
  unfold answer
  dsimp only
  cases hroute : route (capitals r.method) (Target.parse r.target).path with
  | «to» place =>
      refine Tells.bind (Tells.tryCatch (harmless_serve hi ?_) fun _ =>
        (silent_log _ _).harmless.bind fun _ => tells_pure _) fun _ => tells_pure _
      rintro digits pid rfl hpid
      obtain ⟨hpath, hnumber, hmethod⟩ := (route_eq_processKill_iff (head?_path _)).1 hroute
      rcases hmethod with hpost | hoptions
      · exact absurd ⟨hpost, digits, hpath, hnumber, processNumber_eq_ok_iff.1 hpid⟩ (h pid)
      · exact hoptions
  | _ => exact tells_pure _

/-- Every request is answered. -/
theorem exists_answer (presets : Presets) (inventory : Session (List Record)) (r : Request)
    (m : Machine) : ∃ response m', (answer presets inventory r).run.run m = (.ok response, m') := by
  unfold answer
  dsimp only
  cases route (capitals r.method) (Target.parse r.target).path with
  | «to» place =>
      rw [run_bind, run_tryCatch]
      rcases (serve presets inventory (capitals r.method) (Target.parse r.target) place).run.run m
        with ⟨e | response, m'⟩ <;> exact ⟨_, _, rfl⟩
  | _ => exact ⟨_, m, rfl⟩

/-! ## Requests that are turned down -/

/-- The answer is a verdict that turns the request down. -/
def Rejected (presets : Presets) (inventory : Session (List Record)) (t : Target) (m m' : Machine) :
    Prop :=
  ∃ v, Selection.verdict presets inventory (t.value? "preset") ((t.value? "q").getD "") m = (v, m) ∧
    v.Rejects ∧ m' = (tell m v).2

theorem Rejected.calls {t : Target} {m' : Machine} (h : Rejected presets inventory t m m') :
    callsOf m'.events = callsOf m.events := by
  obtain ⟨v, -, hv, rfl⟩ := h
  cases hv <;> exact callsOf_quiet rfl

theorem rejected_of_connections {t : Target} {response : Response} {m' : Machine}
    (h : (connections presets inventory t).run.run m = (.ok response, m'))
    (hs : response.status = 400) : Rejected presets inventory t m m' := by
  have hrun := run_connections presets inventory t m
  rcases htaken : Selection.verdict presets inventory (t.value? "preset")
    ((t.value? "q").getD "") m with ⟨v, m₁⟩
  rw [h, htaken] at hrun
  obtain ⟨rfl, rfl⟩ : response = (tell m₁ v).1 ∧ m' = (tell m₁ v).2 := Prod.mk.inj hrun
  have hrejects := tell_status_iff.1 hs
  obtain rfl : m₁ = m := by
    have hm := Selection.machine_of_rejects (by rwa [htaken])
    rwa [htaken] at hm
  exact ⟨v, htaken, hrejects, rfl⟩

theorem returns_object {status : Nat} (h : status ≠ 400) (members : List (String × Json)) :
    Returns (fun r : Response => r.status ≠ 400) (pure (.object status members)) := returns_pure h

theorem returns_page {status : Nat} (h : status ≠ 400) :
    Returns (fun r : Response => r.status ≠ 400) (pure (.page status)) := returns_pure h

theorem returns_killProcess (pid : Int) : Returns (·.status ≠ 400) (killProcess pid) := by
  refine returns_tryCatch (returns_bind fun _ => returns_bind fun _ => ?_) fun e => ?_
  · exact returns_object (by decide) _
  · cases e with
    | processNotFound pid => exact returns_bind fun _ => returns_object (by decide) _
    | terminationFailed pid reason => exact returns_bind fun _ => returns_object (by decide) _
    | _ => exact returns_throw _

/-- Where the connections are not asked for, nothing is turned down. -/
theorem returns_serve {method : String} {t : Target} {place : Route}
    (h : place ≠ .connections ∨ method = "OPTIONS") :
    Returns (·.status ≠ 400) (serve presets inventory method t place) := by
  cases place with
  | connections =>
      rw [serve, if_pos (h.resolve_left (absurd rfl))]
      exact returns_page (by decide)
  | presets =>
      rw [serve]
      split
      · exact returns_page (by decide)
      · exact returns_object (by decide) _
  | processPath digits =>
      refine returns_bind fun pid => ?_
      split
      · exact returns_page (by decide)
      · exact returns_bind fun _ => returns_object (by decide) _
  | processKill digits =>
      refine returns_bind fun pid => ?_
      split
      · exact returns_page (by decide)
      · exact returns_killProcess pid
  | asset =>
      refine returns_page ?_
      split <;> decide

theorem rejected_of_serve {method : String} {t : Target} {place : Route} {response : Response}
    {m' : Machine} (h : (serve presets inventory method t place).run.run m = (.ok response, m'))
    (hs : response.status = 400) : Rejected presets inventory t m m' := by
  by_cases hplace : place = .connections ∧ method ≠ "OPTIONS"
  · obtain ⟨rfl, hmethod⟩ := hplace
    rw [serve, if_neg hmethod] at h
    exact rejected_of_connections h hs
  · have hother : place ≠ .connections ∨ method = "OPTIONS" := by
      simpa only [not_and_or, not_not] using hplace
    exact absurd hs (returns_serve hother m response (by rw [h]))

theorem withoutText_status (method : String) (r : Response) :
    (withoutText method r).status = r.status := by
  rw [withoutText]
  split
  · split <;> rfl
  · rfl

/-- Only a verdict on a preset and a filter turns a request down. -/
theorem rejected_of_answer {response : Response} {m' : Machine}
    (h : (answer presets inventory r).run.run m = (.ok response, m'))
    (hs : response.status = 400) :
    Rejected presets inventory (Target.parse r.target) m m' := by
  unfold answer at h
  dsimp only at h
  cases hroute : route (capitals r.method) (Target.parse r.target).path with
  | «to» place =>
      rw [hroute, run_bind, run_tryCatch] at h
      rcases hserve : (serve presets inventory (capitals r.method) (Target.parse r.target)
        place).run.run m with ⟨e | served, m₁⟩
      · rw [hserve] at h
        cases h
        rw [withoutText_status] at hs
        cases hs
      · rw [hserve] at h
        cases h
        rw [withoutText_status] at hs
        exact rejected_of_serve hserve hs
  | _ =>
      rw [hroute] at h
      cases h
      cases hs

end Answers

/-! ## Requests in a row -/

/-- Answers a request with the host as it is when the request comes. -/
def answerAt (presets : Presets) (inventory : Session (List Record)) (visit : Host × Request) :
    Session Response := do
  modify fun m => { m with host := visit.1 }
  answer presets inventory visit.2

def answerAll (presets : Presets) (inventory : Session (List Record))
    (visits : List (Host × Request)) : Session (List Response) :=
  visits.mapM (answerAt presets inventory)

/-- The processes that requests ask to end and that can be opened, in order. -/
inductive Killed : List (Host × Request) → List Int → Prop
  | nil : Killed [] []
  | opened {host : Host} {r : Request} {pid : Int} {handle : ProcessHandle}
      {visits : List (Host × Request)} {pids : List Int} (hr : r.AsksKill pid)
      (hp : host.process pid = .ok handle) (h : Killed visits pids) :
      Killed ((host, r) :: visits) (pid :: pids)
  | spared {host : Host} {r : Request} {visits : List (Host × Request)} {pids : List Int}
      (hr : ∀ pid handle, r.AsksKill pid → host.process pid ≠ .ok handle)
      (h : Killed visits pids) : Killed ((host, r) :: visits) pids

section Visits

variable {presets : Presets} {inventory : Session (List Record)} {r : Request} {m : Machine}

theorem Request.AsksKill.unique {pid pid' : Int} (h : r.AsksKill pid) (h' : r.AsksKill pid') :
    pid = pid' := by
  obtain ⟨digits, hpath, -, hpid⟩ := h.path
  obtain ⟨digits', hpath', -, hpid'⟩ := h'.path
  obtain rfl : digits = digits' := by
    unfold killPath at hpath hpath'
    exact List.append_cancel_left (List.append_cancel_right (hpath.symm.trans hpath'))
  exact Except.ok.inj (hpid.symm.trans hpid')

/-- One request ends the process that it asks to end, if this can be opened, and no other. -/
theorem exists_killed (hi : Harmless inventory) (m : Machine) (r : Request) :
    ∃ first, killsOf ((answer presets inventory r).run.run m).2.events =
        killsOf m.events ++ first ∧
      ∀ {visits pids}, Killed visits pids → Killed ((m.host, r) :: visits) (first ++ pids) := by
  by_cases hask : ∃ pid, r.AsksKill pid
  · obtain ⟨pid, hpid⟩ := hask
    cases hp : m.host.process pid with
    | error e =>
        refine ⟨[], ?_, .spared fun pid' handle hpid' hp' => ?_⟩
        · rw [killsOf, calls_answer_kill hpid, Host.opening, hp, List.append_nil, List.append_nil]
          rfl
        · rw [hpid'.unique hpid, hp] at hp'
          cases hp'
    | ok handle =>
        refine ⟨[pid], ?_, .opened hpid hp⟩
        rw [killsOf, calls_answer_kill hpid, Host.opening, hp, List.filterMap_append]
        rfl
  · have hno : ∀ pid, ¬ r.AsksKill pid := not_exists.1 hask
    refine ⟨[], ?_, .spared fun pid _ hpid => absurd hpid (hno pid)⟩
    rw [(harmless_answer hi hno).kills, List.append_nil]

/-- Requests in a row are all answered, and end the processes that they ask to end. -/
theorem run_answerAll (hi : Harmless inventory) (visits : List (Host × Request)) (m : Machine) :
    ∃ responses m' pids, (answerAll presets inventory visits).run.run m = (.ok responses, m') ∧
      responses.length = visits.length ∧ Killed visits pids ∧
      killsOf m'.events = killsOf m.events ++ pids := by
  -- The account grows with each request, so the start is arbitrary; only its host is set anew.
  induction visits generalizing m with
  | nil => exact ⟨[], m, [], rfl, rfl, .nil, (List.append_nil _).symm⟩
  | cons visit visits ih =>
      obtain ⟨host, r⟩ := visit
      obtain ⟨first, hfirst, hcons⟩ := exists_killed hi ⟨host, m.events⟩ r
      obtain ⟨response, m₁, hanswer⟩ := exists_answer presets inventory r ⟨host, m.events⟩
      rw [hanswer] at hfirst
      obtain ⟨responses, m', pids, hrun, hlength, hkilled, hkills⟩ := ih m₁
      refine ⟨response :: responses, m', first ++ pids, ?_, by simp [hlength], hcons hkilled, ?_⟩
      · have hvisit : (answerAt presets inventory (host, r)).run.run m = (.ok response, m₁) :=
          (run_bind_ok (run_modify _)).trans hanswer
        rw [answerAll] at hrun
        rw [answerAll, List.mapM_cons, run_bind_ok hvisit, run_bind_ok hrun]
        rfl
      · rw [hkills, hfirst, List.append_assoc]

/-- The requests and the hosts determine the processes. -/
theorem Killed.unique {visits : List (Host × Request)} {pids pids' : List Int}
    (h : Killed visits pids) (h' : Killed visits pids') : pids = pids' := by
  induction h generalizing pids' with
  | nil =>
      cases h'
      rfl
  | opened hr hp _ ih =>
      cases h' with
      | opened hr' _ h' => rw [hr.unique hr', ih h']
      | spared hr' _ => exact absurd hp (hr' _ _ hr)
  | spared hr _ ih =>
      cases h' with
      | opened hr' hp' _ => exact absurd hp' (hr _ _ hr')
      | spared _ h' => exact ih h'

end Visits

end Web

/-! ## Programs and requests -/

/-- A run of the program asks of the host what its arguments say, and nothing when the user is at
fault. Requests in a row end the processes that they ask to end and that can be opened, in order
and once each; and a request that is turned down has nothing asked. -/
theorem calls_confined :
    (∀ (arguments : List String) (host : Host),
      let ended := (CommandLine.program arguments).run.run ⟨host, []⟩
      CommandLine.Confined arguments host ended.1 (callsOf ended.2.events)) ∧
    ∀ cfg : Config,
      (∀ (visits : List (Host × Web.Request)) (host : Host), ∃ responses m pids,
        (Web.answerAll cfg.presets (Inventory.ofConfig cfg) visits).run.run ⟨host, []⟩ =
            (.ok responses, m) ∧ responses.length = visits.length ∧
          Web.Killed visits pids ∧ killsOf m.events = pids) ∧
      ∀ (r : Web.Request) (m : Machine) (response : Web.Response) (m' : Machine),
        (Web.answer cfg.presets (Inventory.ofConfig cfg) r).run.run m = (.ok response, m') →
          response.status = 400 → callsOf m'.events = callsOf m.events := by
  refine ⟨CommandLine.confined_program, fun cfg => ⟨fun visits host => ?_, fun r m response m' h hs =>
    (Web.rejected_of_answer h hs).calls⟩⟩
  obtain ⟨responses, m, pids, hrun, hlength, hkilled, hkills⟩ :=
    Web.run_answerAll (Inventory.harmless_ofConfig cfg) visits ⟨host, []⟩
  exact ⟨responses, m, pids, hrun, hlength, hkilled, hkills⟩

/-- A host with one process that can be opened. -/
def openHost : Host := { Host.idle "Linux" with
  process := fun pid =>
    if pid = 7 then .ok ⟨.ok none, .ok ()⟩ else .error (.host .noSuchProcess "") }

theorem calls_confined_seven :
    CommandLine.read ["--kill", "7", "--serve"] =
        .ok (.run { CommandLine.Arguments.none with kill := some 7, serve := true }) ∧
      callsOf ((CommandLine.program ["--kill", "7", "--serve"]).run.run ⟨openHost, []⟩).2.events =
        [.kill 7] ∧
      ∃ responses m, (Web.answerAll [] (Inventory.ofConfig Config.standard)
          [(openHost, ⟨"POST", "/api/processes/7/kill"⟩),
            (Host.idle "Linux", ⟨"POST", "/api/processes/7/kill"⟩)]).run.run ⟨openHost, []⟩ =
          (.ok responses, m) ∧ killsOf m.events = [7] := by
  have hread : CommandLine.read ["--kill", "7", "--serve"] =
      .ok (.run { CommandLine.Arguments.none with kill := some 7, serve := true }) := rfl
  have hask : Web.Request.AsksKill ⟨"POST", "/api/processes/7/kill"⟩ 7 :=
    ⟨by decide +kernel, "7".toList, by decide +kernel, by decide, rfl⟩
  obtain ⟨hprogram, hservice⟩ := calls_confined
  obtain ⟨-, hcalls⟩ := (hprogram _ openHost).kill _ 7 hread rfl
  obtain ⟨responses, m, pids, hrun, -, hkilled, hkills⟩ := (hservice Config.standard).1 _ openHost
  refine ⟨hread, hcalls, responses, m, hrun, hkills.trans (hkilled.unique ?_)⟩
  exact .opened hask rfl (.spared (fun _ _ _ => nofun) .nil)

end SocketInventory
