import SocketInventory.Proofs.Quiet
import SocketInventory.Proofs.Selection

/-!
# What is asked of the host

The calls of an account, and the sessions that make none, or end no process. What a session on one
process asks is one call on it, if the process can be opened.
-/

namespace SocketInventory

/-! ## Calls of an account -/

def callsOf (events : List Event) : List Call := events.filterMap Event.call?

def Call.killed? : Call → Option Int
  | .kill pid => some pid
  | _ => none

/-- The processes that were to be ended, in order. -/
def killsOf (events : List Event) : List Int := (callsOf events).filterMap Call.killed?

theorem callsOf_append (first last : List Event) :
    callsOf (first ++ last) = callsOf first ++ callsOf last := List.filterMap_append

theorem callsOf_quiet {events last : List Event} (h : callsOf last = []) :
    callsOf (events ++ last) = callsOf events := by
  rw [callsOf_append, h, List.append_nil]

theorem killsOf_append (first last : List Event) :
    killsOf (first ++ last) = killsOf first ++ killsOf last := by
  rw [killsOf, callsOf_append, List.filterMap_append]
  rfl

/-- The event is not the end of a process. -/
def Event.Harmless (e : Event) : Prop := ∀ pid, e ≠ .call (.kill pid)

theorem Event.harmless_of_isSurvey {e : Event} (h : e.isSurvey) : e.Harmless := by
  rintro pid rfl
  cases h

theorem killsOf_harmless {told : List Event} (h : ∀ e ∈ told, e.Harmless) : killsOf told = [] := by
  rw [killsOf, callsOf, List.filterMap_filterMap, List.filterMap_eq_nil_iff]
  intro e he
  cases e with
  | call c =>
      cases c with
      | kill pid => exact absurd rfl (h _ he pid)
      | _ => rfl
  | _ => rfl

namespace Session

variable {α β : Type} {x : Session α} {m : Machine}

/-- The session asks the host for nothing. -/
abbrev Silent (x : Session α) : Prop := Tells (fun e => e.call? = none) x

/-- The session ends no process. -/
abbrev Harmless (x : Session α) : Prop := Tells Event.Harmless x

theorem Silent.harmless (h : Silent x) : Harmless x :=
  h.mono fun _ he _ heq => by rw [heq] at he; cases he

theorem Silent.calls (h : Silent x) : callsOf (x.run.run m).2.events = callsOf m.events := by
  obtain ⟨out, host', told, htold, hrun⟩ := h m.host
  rw [hrun m.events]
  exact callsOf_quiet (List.filterMap_eq_nil_iff.2 htold)

theorem Harmless.kills (h : Harmless x) : killsOf (x.run.run m).2.events = killsOf m.events := by
  obtain ⟨out, host', told, htold, hrun⟩ := h m.host
  rw [hrun m.events, killsOf_append, killsOf_harmless htold, List.append_nil]

theorem calls_bind {f : α → Session β} (hf : ∀ a, Silent (f a)) :
    callsOf ((x >>= f).run.run m).2.events = callsOf (x.run.run m).2.events := by
  rw [run_bind]
  rcases x.run.run m with ⟨e | a, m'⟩
  · rfl
  · exact (hf a).calls

theorem calls_tryCatch {handle : Error → Session α} (hh : ∀ e, Silent (handle e)) :
    callsOf ((tryCatch x handle).run.run m).2.events = callsOf (x.run.run m).2.events := by
  rw [run_tryCatch]
  rcases x.run.run m with ⟨e | a, m'⟩
  · exact (hh e).calls
  · rfl

theorem silent_printLine (text : String) : Silent (printLine text) := tells_note rfl

theorem silent_printError (text : String) : Silent (printError text) := tells_note rfl

theorem silent_log (level : Level) (message : String) : Silent (log level message) :=
  tells_note rfl

theorem harmless_call {c : Call} (h : c.killed? = none) : Harmless (call c) :=
  tells_note fun _ heq => by cases heq; cases h

end Session

open Session

/-! ## Processes -/

/-- A call on a process, if the process can be opened. -/
def Host.opening (host : Host) (pid : Int) (c : Call) : List Call :=
  match host.process pid with
  | .ok _ => [c]
  | .error _ => []

theorem Host.opening_of_mem {host : Host} {pid : Int} {c c' : Call}
    (h : c' ∈ host.opening pid c) : c' = c ∧ host.opening pid c = [c] := by
  unfold Host.opening at h ⊢
  cases hp : host.process pid with
  | error e =>
      rw [hp] at h
      cases h
  | ok handle =>
      rw [hp] at h
      exact ⟨List.mem_singleton.1 h, rfl⟩

namespace Processes

variable (pid : Int) (m : Machine)

theorem calls_terminate : callsOf ((terminate pid).run.run m).2.events =
    callsOf m.events ++ m.host.opening pid (.kill pid) := by
  rw [terminate, run_bind_ok run_host, Host.opening]
  cases m.host.process pid with
  | error e => exact (List.append_nil _).symm
  | ok handle =>
      simp only
      rw [run_bind_ok (run_call _)]
      cases handle.kill <;> exact callsOf_append _ _

theorem calls_executablePath : callsOf ((executablePath pid).run.run m).2.events =
    callsOf m.events ++ m.host.opening pid (.executable pid) := by
  rw [executablePath, run_bind_ok run_host, Host.opening]
  cases m.host.process pid with
  | error e => simp
  | ok handle =>
      simp only
      rw [run_bind_ok (run_call _), run_lift]
      exact callsOf_append _ _

theorem harmless_executablePath : Harmless (executablePath pid) := by
  refine tells_host.bind fun host => ?_
  cases host.process pid with
  | error e => exact tells_lift _
  | ok handle => exact (harmless_call rfl).bind fun _ => tells_lift _

end Processes

/-! ## The inventory -/

theorem Inventory.harmless_ofConfig (cfg : Config) : Harmless (ofConfig cfg) :=
  (tells_ofConfig cfg).mono fun _ => Event.harmless_of_isSurvey

theorem Selection.harmless_records {inventory : Session (List Record)} (hi : Harmless inventory)
    (text : String) : Harmless (records inventory text) := by
  refine (hi.bind fun _ => (tells_lift _).bind fun _ => tells_pure _).tryCatch fun e => ?_
  cases e with
  | enumeration e => exact tells_pure _
  | processTable e => exact tells_pure _
  | _ => exact tells_throw _

end SocketInventory
