import SocketInventory.Proofs.CommandLine.Options
import SocketInventory.Proofs.Effects
import SocketInventory.Proofs.Surfaces

/-!
# What a run of the program asks

A run with the option for it ends one process and asks for nothing else; a run with the option for
a path asks for this path. Any other run ends no process, and has asked for nothing when it finds
the user at fault.
-/

namespace SocketInventory

open Session

namespace CommandLine

/-! ## Processes -/

theorem silent_fail (status : Int) (message : String) : Silent (fail status message) :=
  (silent_printError _).bind fun _ => tells_pure _

theorem calls_killProcess (pid : Int) (m : Machine) :
    callsOf ((killProcess pid).run.run m).2.events =
      callsOf m.events ++ m.host.opening pid (.kill pid) := by
  rw [killProcess, calls_tryCatch, calls_bind, Processes.calls_terminate]
  · exact fun _ => (silent_printLine _).bind fun _ => tells_pure _
  · intro e
    cases e with
    | processNotFound pid => exact silent_fail _ _
    | terminationFailed pid reason => exact silent_fail _ _
    | _ => exact tells_throw _

theorem returns_fail {status : Int} (h : status ≠ 2) (message : String) :
    Returns (· ≠ 2) (fail status message) := returns_bind fun _ => returns_pure h

theorem returns_killProcess (pid : Int) : Returns (· ≠ 2) (killProcess pid) := by
  refine returns_tryCatch (returns_bind fun _ => returns_bind fun _ => returns_pure ?_) fun e => ?_
  · decide
  · cases e with
    | processNotFound pid => exact returns_fail (by decide) _
    | terminationFailed pid reason => exact returns_fail (by decide) _
    | _ => exact returns_throw _

theorem calls_printPath (pid : Int) (m : Machine) :
    callsOf ((printPath pid).run.run m).2.events =
      callsOf m.events ++ m.host.opening pid (.executable pid) := by
  rw [printPath, calls_bind, Processes.calls_executablePath]
  exact fun _ => (silent_printLine _).bind fun _ => tells_pure _

theorem returns_printPath (pid : Int) : Returns (· ≠ 2) (printPath pid) :=
  returns_bind fun _ => returns_bind fun _ => returns_pure (by decide)

/-! ## The configuration -/

theorem silent_load (path : Option String) : Silent (Presets.load path) := by
  unfold Presets.load
  split
  · exact tells_pure _
  · refine tells_host.bind fun host => (tells_lift _).bind fun file =>
      (tells_lift _).bind fun there => ?_
    split
    · exact (tells_lift _).bind fun octets => (tells_lift _).bind fun presets =>
        (silent_printError _).bind fun _ => tells_pure _
    · exact (silent_printError _).bind fun _ => tells_pure _

theorem silent_ofRequest (r : Request) : Silent (Config.ofRequest r) := by
  refine (tells_lift _).bind fun families => (tells_lift _).bind fun transports => ?_
  refine (silent_load _).bind fun presets => ?_
  split
  · exact (silent_printError _).bind fun _ => tells_pure _
  · exact tells_pure _

theorem silent_configOf (a : Arguments) : Silent (configOf a) := by
  refine ((silent_ofRequest _).bind fun _ => tells_pure _).tryCatch fun e => ?_
  cases e with
  | query e => exact tells_pure _
  | _ => exact tells_throw _

/-! ## The inventory -/

theorem harmless_printInventory (cfg : Config) (format text : String) :
    Harmless (printInventory cfg format text) := by
  refine (Selection.harmless_records (Inventory.harmless_ofConfig cfg) text).bind fun found => ?_
  cases found with
  | error message => exact (silent_fail _ _).harmless
  | ok records =>
      exact (tells_lift _).bind fun _ => (silent_printLine _).harmless.bind fun _ => tells_pure _

theorem harmless_withConfig (a : Arguments) (cfg : Config) : Harmless (withConfig a cfg) := by
  unfold withConfig
  split
  · exact (silent_printLine _).harmless.bind fun _ =>
      (harmless_call rfl).bind fun _ => tells_pure _
  · split
    · exact (silent_fail _ _).harmless
    · refine (tells_lift _).bind fun refusal => ?_
      cases refusal with
      | some e => exact (silent_fail _ _).harmless
      | none => exact harmless_printInventory _ _ _

theorem calls_tell {v : Selection.Verdict} (hv : v.Rejects) (format : String) (m : Machine) :
    callsOf (tell format m v).2.events = callsOf m.events := by
  cases hv <;> exact callsOf_quiet rfl

/-- Who is told that the preset or the filter is at fault has had nothing asked. -/
theorem calls_withConfig {a : Arguments} {cfg : Config} {m : Machine}
    (h : ((withConfig a cfg).run.run m).1 = .ok 2) :
    callsOf ((withConfig a cfg).run.run m).2.events = callsOf m.events := by
  cases hs : a.serve with
  | true =>
      rw [withConfig, hs] at h
      cases h
  | false =>
      rw [run_withConfig hs] at h ⊢
      have hrejects := tell_eq_two_iff.1 h
      rw [calls_tell hrejects, Selection.machine_of_rejects hrejects]

/-! ## Runs -/

/-- What a run of the program may ask of the host, by its arguments and its end. -/
structure Confined (arguments : List String) (host : Host) (ended : Except Error Int)
    (calls : List Call) : Prop where
  refused : ended = .ok 2 → calls = []
  kill : ∀ a pid, read arguments = .ok (.run a) → a.kill = some pid →
    Gives arguments "--kill" pid ∧ calls = host.opening pid (.kill pid)
  path : ∀ a pid, read arguments = .ok (.run a) → a.kill = none → a.path = some pid →
    Gives arguments "--path" pid ∧ calls = host.opening pid (.executable pid)
  /-- A process is ended only on its wish, once, and with no other call. -/
  killed : ∀ pid, .kill pid ∈ calls → Gives arguments "--kill" pid ∧ calls = [.kill pid]

section Runs

variable {arguments : List String} {a : Arguments} {host : Host}

theorem confined_silent {ended : Except Error Int} (h : ∀ a, read arguments ≠ .ok (.run a)) :
    Confined arguments host ended [] where
  refused _ := rfl
  kill a _ ha := absurd ha (h a)
  path a _ ha := absurd ha (h a)
  killed _ hmem := by cases hmem

/-- For a run that is read, what the options ask for suffices. -/
theorem confined_of_read {ended : Except Error Int} {calls : List Call}
    (ha : read arguments = .ok (.run a)) (hrefused : ended = .ok 2 → calls = [])
    (hkill : ∀ pid, a.kill = some pid → calls = host.opening pid (.kill pid))
    (hpath : ∀ pid, a.kill = none → a.path = some pid → calls = host.opening pid (.executable pid))
    (hkilled : ∀ pid, .kill pid ∈ calls → a.kill = some pid ∧ calls = [.kill pid]) :
    Confined arguments host ended calls where
  refused := hrefused
  kill a' pid ha' hk := by
    cases ha.symm.trans ha'
    exact ⟨setBy_kill.gives rfl ha hk, hkill pid hk⟩
  path a' pid ha' hk hp := by
    cases ha.symm.trans ha'
    exact ⟨setBy_path.gives rfl ha hp, hpath pid hk hp⟩
  killed pid hmem := by
    obtain ⟨hk, hcalls⟩ := hkilled pid hmem
    exact ⟨setBy_kill.gives rfl ha hk, hcalls⟩

theorem confined_kill {pid : Int} {ended : Except Error Int}
    (ha : read arguments = .ok (.run a)) (hk : a.kill = some pid) (hended : ended ≠ .ok 2) :
    Confined arguments host ended (host.opening pid (.kill pid)) := by
  refine confined_of_read ha (absurd · hended) (fun pid' hk' => ?_) (fun _ hk' => ?_)
    fun pid' hmem => ?_
  · cases hk.symm.trans hk'
    rfl
  · cases hk.symm.trans hk'
  · obtain ⟨hcall, hcalls⟩ := Host.opening_of_mem hmem
    cases hcall
    exact ⟨hk, hcalls⟩

theorem confined_path {pid : Int} {ended : Except Error Int}
    (ha : read arguments = .ok (.run a)) (hk : a.kill = none) (hp : a.path = some pid)
    (hended : ended ≠ .ok 2) :
    Confined arguments host ended (host.opening pid (.executable pid)) := by
  refine confined_of_read ha (absurd · hended) (fun pid' hk' => ?_) (fun pid' _ hp' => ?_)
    fun pid' hmem => ?_
  · cases hk.symm.trans hk'
  · cases hp.symm.trans hp'
    rfl
  · cases (Host.opening_of_mem hmem).1

theorem confined_inventory {ended : Except Error Int} {calls : List Call}
    (ha : read arguments = .ok (.run a)) (hk : a.kill = none) (hp : a.path = none)
    (hrefused : ended = .ok 2 → calls = []) (hkills : ∀ pid, .kill pid ∉ calls) :
    Confined arguments host ended calls := by
  refine confined_of_read ha hrefused (fun pid hk' => ?_) (fun pid _ hp' => ?_)
    fun pid hmem => absurd hmem (hkills pid)
  · cases hk.symm.trans hk'
  · cases hp.symm.trans hp'

end Runs

theorem kill_notMem_calls {x : Session Int} (hx : Harmless x) (host : Host) (pid : Int) :
    .kill pid ∉ callsOf (x.run.run ⟨host, []⟩).2.events := by
  obtain ⟨out, host', told, htold, hrun⟩ := hx host
  rw [hrun, List.nil_append]
  intro hmem
  obtain ⟨e, he, hcall⟩ := List.mem_filterMap.1 hmem
  cases e with
  | call c =>
      cases hcall
      exact htold _ he pid rfl
  | _ => cases hcall

theorem harmless_run {a : Arguments} (hk : a.kill = none) (hp : a.path = none) :
    Harmless (run a) := by
  rw [run, hk, hp]
  refine (silent_configOf a).harmless.bind fun made => ?_
  cases made with
  | error e => exact (silent_fail _ _).harmless
  | ok cfg => exact harmless_withConfig a cfg

theorem calls_run_refused {a : Arguments} (hk : a.kill = none) (hp : a.path = none) {m : Machine}
    (h : ((run a).run.run m).1 = .ok 2) :
    callsOf ((run a).run.run m).2.events = callsOf m.events := by
  rw [run, hk, hp, run_bind] at h ⊢
  have hmade := (silent_configOf a).calls (m := m)
  rcases hrun : (configOf a).run.run m with ⟨e | e | cfg, m'⟩
  all_goals rw [hrun] at h hmade
  · exact hmade
  · exact (silent_fail _ _).calls.trans hmade
  · exact (calls_withConfig h).trans hmade

theorem confined_program (arguments : List String) (host : Host) :
    Confined arguments host ((program arguments).run.run ⟨host, []⟩).1
      (callsOf ((program arguments).run.run ⟨host, []⟩).2.events) := by
  cases ha : read arguments with
  | error fault =>
      rw [program, ha]
      exact confined_silent (by simp [ha])
  | ok outcome =>
      cases outcome with
      | help =>
          rw [program, ha]
          exact confined_silent (by simp [ha])
      | run a =>
          rw [program, ha]
          cases hk : a.kill with
          | some pid =>
              simp only [run, hk]
              rw [calls_killProcess]
              exact confined_kill ha hk fun h => returns_killProcess pid _ _ h rfl
          | none =>
              cases hp : a.path with
              | some pid =>
                  simp only [run, hk, hp]
                  rw [calls_printPath]
                  exact confined_path ha hk hp fun h => returns_printPath pid _ _ h rfl
              | none =>
                  exact confined_inventory ha hk hp (calls_run_refused hk hp)
                    (kill_notMem_calls (harmless_run hk hp) host)

end CommandLine

end SocketInventory
