import SocketInventory.Inventory
import SocketInventory.Proofs.Session

/-!
# What sessions tell

A session tells events of one sort when all that it adds to the account is of this sort, and neither
this nor what it gives depends on what was told before. One lemma for each way of making a session
keeps this. An inventory, whatever the backend, asks for sockets and for the process table and
writes to the log; a quiet session makes calls and writes to the log only.
-/

namespace SocketInventory

/-- The event is a call on the host or an entry of the log. -/
def Event.isQuiet : Event → Bool
  | .call _ => true
  | .log _ _ => true
  | .supplied _ => false
  | .output _ => false
  | .errors _ => false

theorem Event.outputText_of_isQuiet {e : Event} (h : e.isQuiet) : e.outputText = "" := by
  cases e with
  | output text => cases h
  | _ => rfl

/-- The call asks for sockets or for the process table. -/
def Call.isSurvey : Call → Bool
  | .run _ _ => true
  | .connections _ => true
  | .processes => true
  | .load _ => true
  | .table _ _ _ _ _ => true
  | .kill _ => false
  | .executable _ => false
  | .serve _ _ => false

/-- The event is such a call or an entry of the log. -/
def Event.isSurvey : Event → Bool
  | .call c => c.isSurvey
  | .log _ _ => true
  | _ => false

theorem Event.isQuiet_of_isSurvey {e : Event} (h : e.isSurvey) : e.isQuiet := by
  cases e with
  | call c => rfl
  | log level message => rfl
  | _ => cases h

namespace Session

variable {α β : Type} {P Q : Event → Prop}

def Tells (P : Event → Prop) (x : Session α) : Prop :=
  ∀ host, ∃ out host' told, (∀ e ∈ told, P e) ∧
    ∀ events, x.run.run ⟨host, events⟩ = (out, ⟨host', events ++ told⟩)

def Quiet (x : Session α) : Prop :=
  ∀ host, ∃ out host' told, (∀ e ∈ told, e.isQuiet) ∧
    ∀ events, x.run.run ⟨host, events⟩ = (out, ⟨host', events ++ told⟩)

/-! ## Ways of making a session -/

theorem tells_pure (a : α) : Tells P (pure a) :=
  fun host => ⟨.ok a, host, [], by simp, fun events => by rw [List.append_nil]; rfl⟩

theorem tells_throw (e : Error) : Tells P (throw e : Session α) :=
  fun host => ⟨.error e, host, [], by simp, fun events => by rw [List.append_nil]; rfl⟩

theorem tells_lift (x : Except Error α) : Tells P (liftM x : Session α) :=
  fun host => ⟨x, host, [], by simp, fun events => by simp⟩

theorem tells_host : Tells P host :=
  fun host => ⟨.ok host, host, [], by simp, fun events => by simp⟩

/-- A session may change what the host answers later. -/
theorem tells_modify (f : Host → Host) :
    Tells P (modify fun m => { m with host := f m.host } : Session PUnit) :=
  fun host => ⟨.ok (), f host, [], by simp, fun events => by simp⟩

theorem tells_note {e : Event} (h : P e) : Tells P (note e) :=
  fun host => ⟨.ok (), host, [e], by simpa using h, fun _ => run_note e⟩

theorem Tells.mono {x : Session α} (hx : Tells P x) (h : ∀ e, P e → Q e) : Tells Q x := by
  intro host
  obtain ⟨out, host', told, htold, hrun⟩ := hx host
  exact ⟨out, host', told, fun e he => h e (htold e he), hrun⟩

theorem Tells.bind {x : Session α} {f : α → Session β} (hx : Tells P x)
    (hf : ∀ a, Tells P (f a)) : Tells P (x >>= f) := by
  intro host
  obtain ⟨out, host', told, htold, hrun⟩ := hx host
  cases out with
  | error e => exact ⟨.error e, host', told, htold, fun events => run_bind_error (hrun events)⟩
  | ok a =>
      obtain ⟨out', host'', told', htold', hrun'⟩ := hf a host'
      refine ⟨out', host'', told ++ told', ?_, fun events => ?_⟩
      · exact List.forall_mem_append.2 ⟨htold, htold'⟩
      · rw [run_bind_ok (hrun events), hrun', List.append_assoc]

theorem tells_lift_bind {x : Except Error α} {f : α → Session β}
    (hf : ∀ a, x = .ok a → Tells P (f a)) : Tells P (liftM x >>= f) := by
  intro host
  cases x with
  | error e =>
      refine ⟨.error e, host, [], by simp, fun events => ?_⟩
      rw [run_bind_error (run_lift _), List.append_nil]
  | ok a =>
      obtain ⟨out, host', told, htold, hrun⟩ := hf a rfl host
      exact ⟨out, host', told, htold, fun events => by rw [run_bind_ok (run_lift _), hrun]⟩

theorem Tells.tryCatch {x : Session α} {handle : Error → Session α} (hx : Tells P x)
    (hh : ∀ e, Tells P (handle e)) : Tells P (tryCatch x handle) := by
  intro host
  obtain ⟨out, host', told, htold, hrun⟩ := hx host
  cases out with
  | ok a => exact ⟨.ok a, host', told, htold, fun events => by rw [run_tryCatch, hrun]⟩
  | error e =>
      obtain ⟨out', host'', told', htold', hrun'⟩ := hh e host'
      refine ⟨out', host'', told ++ told', ?_, fun events => ?_⟩
      · exact List.forall_mem_append.2 ⟨htold, htold'⟩
      · rw [run_tryCatch, hrun]
        simp only
        rw [hrun', List.append_assoc]

theorem Tells.mapM {f : α → Session β} (hf : ∀ a, Tells P (f a)) (xs : List α) :
    Tells P (xs.mapM f) := by
  induction xs with
  | nil => exact tells_pure []
  | cons x xs ih =>
      rw [List.mapM_cons]
      exact (hf x).bind fun y => ih.bind fun ys => tells_pure (y :: ys)

theorem tells_forM_call (calls : List α) {f : α → Call} (h : ∀ a, P (.call (f a))) :
    Tells P (calls.forM fun a => call (f a)) := by
  refine fun host => ⟨.ok (), host, calls.map fun a => .call (f a), ?_, fun _ =>
    run_forM_call calls f⟩
  intro e he
  obtain ⟨a, -, rfl⟩ := List.mem_map.1 he
  exact h a

/-! ## Surveys -/

/-- The session asks for sockets and for the process table and writes to the log. -/
abbrev Surveys (x : Session α) : Prop := Tells (fun e => e.isSurvey = true) x

theorem surveys_call {c : Call} (h : c.isSurvey) : Surveys (call c) :=
  tells_note h

theorem surveys_log (level : Level) (message : String) : Surveys (log level message) :=
  tells_note rfl

theorem surveys_forM_call (calls : List α) {f : α → Call} (h : ∀ a, (f a).isSurvey) :
    Surveys (calls.forM fun a => call (f a)) :=
  tells_forM_call calls h

end Session

/-! ## Inventories -/

open Session

variable (families : List Family) (transports : List Transport)

theorem Listing.tells_collect (limit : Option Seconds) :
    Surveys (Listing.collect limit families transports) := by
  refine (surveys_call rfl).bind fun _ => tells_host.bind fun host => ?_
  cases host.listing with
  | ok result => exact tells_lift _
  | error e => exact tells_throw _

theorem Connections.tells_collectKind (kind : Kind) :
    Surveys (Connections.collectKind kind) := by
  refine (surveys_call rfl).bind fun _ => tells_host.bind fun host => ?_
  cases host.connections kind with
  | ok connections => exact tells_lift _
  | error e => exact tells_throw _

theorem OwnerTable.tells_collectKind (kind : Kind) :
    Surveys (OwnerTable.collectKind kind) := by
  refine tells_host.bind fun host => ?_
  refine (tells_modify fun h => Host.leave h kind (read (host.tables kind)).left).bind fun _ => ?_
  exact (surveys_forM_call _ fun _ => rfl).bind fun _ => tells_lift _

theorem OwnerTable.tells_collect :
    Surveys (OwnerTable.collect families transports) := by
  refine tells_host.bind fun host => ?_
  dsimp only
  split
  · exact tells_throw _
  · refine (surveys_call rfl).bind fun _ => ?_
    cases host.library with
    | ok _ => exact (Tells.mapM OwnerTable.tells_collectKind _).bind fun _ => tells_pure _
    | error e => exact tells_throw _

theorem Backend.tells_collect (limit : Option Seconds) (b : Backend) :
    Surveys (b.collect limit families transports) := by
  cases b with
  | listing => exact Listing.tells_collect families transports limit
  | connections =>
      exact (Tells.mapM Connections.tells_collectKind _).bind fun _ => tells_pure _
  | ownerTable => exact OwnerTable.tells_collect families transports

namespace Inventory

theorem tells_entries : Surveys Processes.entries := by
  refine (surveys_call rfl).bind fun _ => tells_host.bind fun host => ?_
  cases host.processes with
  | ok feed => exact tells_pure _
  | error e => exact tells_pure _

theorem tells_nameIndex (strict : Bool) {processes : Session (Feed ProcessEntry)}
    (hp : Surveys processes) : Surveys (nameIndex strict processes) := by
  refine hp.bind fun feed => ?_
  cases feed.mapM id with
  | ok index => exact tells_pure index
  | error e =>
      cases e with
      | processTable e =>
          cases strict with
          | true => exact tells_throw _
          | false => exact (surveys_log _ _).bind fun _ => tells_pure []
      | _ => exact tells_throw _

theorem tells_build {sockets : Session (Feed Socket)} {processes : Session (Feed ProcessEntry)}
    (hs : Surveys sockets) (hp : Surveys processes) (expand strict : Bool) :
    Surveys (build sockets processes expand strict) :=
  hs.bind fun _ => (tells_lift _).bind fun _ =>
    (tells_nameIndex strict hp).bind fun _ => tells_pure _

theorem tells_ofConfig (cfg : Config) : Surveys (ofConfig cfg) :=
  tells_host.bind fun _ => (tells_lift _).bind fun b =>
    tells_build ((b.tells_collect _ _ _).bind fun _ => tells_pure _) tells_entries _ _

/-- An inventory is taken without a word to the user. -/
theorem quiet_ofConfig (cfg : Config) : Quiet (ofConfig cfg) :=
  (tells_ofConfig cfg).mono fun _ => Event.isQuiet_of_isSurvey

end Inventory

end SocketInventory
