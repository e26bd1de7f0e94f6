import Mathlib
import SocketInventory.Host.Basic
import SocketInventory.Host.Tree

/-!
# Runs of sessions

What a session gives and leaves behind, one lemma for each way of making a session. A session that
fails keeps what it has asked and told so far.
-/

namespace SocketInventory

/-- A host of a platform with nothing to tell. -/
def Host.idle (platform : String) : Host where
  platform := platform
  which := fun _ => none
  listing := .ok ⟨0, "", ""⟩
  connections := fun _ => .ok []
  processes := .ok []
  process := fun _ => .error (.host .noSuchProcess "")
  library := .ok ()
  tables := fun _ => []
  files := FileTree.system []
  workingDirectory := .ok ⟨true, []⟩
  packageDirectory := ⟨true, []⟩
  home := homeIn (some ⟨true, []⟩) fun _ => none
  limits := .standard
  arrange := Data.inPlace

/-- A machine whose account goes on with some events. -/
def Machine.noting (m : Machine) (events : List Event) : Machine :=
  { m with events := m.events ++ events }

theorem Machine.noting_noting (m : Machine) (first last : List Event) :
    (m.noting first).noting last = m.noting (first ++ last) := by
  simp [Machine.noting]

namespace Session

variable {α β : Type} {m : Machine}

@[simp] theorem run_pure (a : α) : (pure a : Session α).run.run m = (.ok a, m) := rfl

@[simp] theorem run_throw (e : Error) : (throw e : Session α).run.run m = (.error e, m) := rfl

@[simp] theorem run_lift (x : Except Error α) : (liftM x : Session α).run.run m = (x, m) := by
  cases x <;> rfl

@[simp] theorem run_host : host.run.run m = (.ok m.host, m) := rfl

@[simp] theorem run_modify (f : Machine → Machine) :
    (modify f : Session PUnit).run.run m = (.ok (), f m) := rfl

@[simp] theorem run_call (c : Call) :
    (call c).run.run m = (.ok (), { m with events := m.events ++ [.call c] }) := rfl

@[simp] theorem run_log (level : Level) (message : String) :
    (log level message).run.run m =
      (.ok (), { m with events := m.events ++ [.log level message] }) := rfl

theorem run_note (e : Event) : (note e).run.run m = (.ok (), m.noting [e]) := rfl

theorem run_bind (x : Session α) (f : α → Session β) :
    (x >>= f).run.run m =
      match x.run.run m with
      | (.ok a, m') => (f a).run.run m'
      | (.error e, m') => (.error e, m') := by
  simp only [bind, ExceptT.bind, ExceptT.run, ExceptT.mk, StateT.run, StateT.bind]
  rcases x m with ⟨e | a, m'⟩ <;> rfl

theorem run_bind_ok {x : Session α} {f : α → Session β} {a : α} {m' : Machine}
    (h : x.run.run m = (.ok a, m')) : (x >>= f).run.run m = (f a).run.run m' := by
  rw [run_bind, h]

theorem run_bind_error {x : Session α} {f : α → Session β} {e : Error} {m' : Machine}
    (h : x.run.run m = (.error e, m')) : (x >>= f).run.run m = (.error e, m') := by
  rw [run_bind, h]

theorem run_tryCatch (x : Session α) (handle : Error → Session α) :
    (tryCatch x handle).run.run m =
      match x.run.run m with
      | (.ok a, m') => (.ok a, m')
      | (.error e, m') => (handle e).run.run m' := by
  simp only [tryCatch, tryCatchThe, MonadExceptOf.tryCatch, ExceptT.tryCatch, ExceptT.run,
    ExceptT.mk, StateT.run, bind, StateT.bind]
  rcases x m with ⟨e | a, m'⟩ <;> rfl

/-- A session that ends well has done so in each of its parts. -/
theorem exists_of_run_bind {x : Session α} {f : α → Session β} {b : β} {m' : Machine}
    (h : (x >>= f).run.run m = (.ok b, m')) :
    ∃ a m₁, x.run.run m = (.ok a, m₁) ∧ (f a).run.run m₁ = (.ok b, m') := by
  rw [run_bind] at h
  rcases hx : x.run.run m with ⟨e | a, m₁⟩
  · rw [hx] at h
    cases h
  · rw [hx] at h
    exact ⟨a, m₁, rfl, h⟩

/-- What one step guarantees and preserves, every step of a run does. -/
theorem forall_of_run_mapM {f : α → Session β} {P : Machine → Prop} {Q : α → β → Prop}
    {xs : List α} (hstep : ∀ a ∈ xs, ∀ m b m', P m → (f a).run.run m = (.ok b, m') → Q a b ∧ P m')
    {ys : List β} {m' : Machine} (hm : P m) (h : (xs.mapM f).run.run m = (.ok ys, m')) :
    ∀ y ∈ ys, ∃ x ∈ xs, Q x y := by
  induction xs generalizing m ys with
  | nil =>
      cases h
      simp
  | cons x xs ih =>
      rw [List.mapM_cons] at h
      obtain ⟨y, m₁, hx, h⟩ := exists_of_run_bind h
      obtain ⟨rest, m₂, hrest, h⟩ := exists_of_run_bind h
      cases h
      obtain ⟨hy, hm₁⟩ := hstep x (by simp) m y m₁ hm hx
      have hys := ih (fun a ha => hstep a (by simp [ha])) hm₁ hrest
      refine List.forall_mem_cons.2 ⟨⟨x, by simp, hy⟩, fun z hz => ?_⟩
      obtain ⟨w, hw, hq⟩ := hys z hz
      exact ⟨w, by simp [hw], hq⟩

theorem run_forM_call (calls : List α) (f : α → Call) :
    (calls.forM fun a => call (f a)).run.run m =
      (.ok (), { m with events := m.events ++ calls.map fun a => .call (f a) }) := by
  induction calls generalizing m with
  | nil =>
      rw [List.map_nil, List.append_nil]
      rfl
  | cons a calls ih =>
      have hcons : ((a :: calls).forM fun a => call (f a)) =
          (call (f a) >>= fun _ => calls.forM fun a => call (f a)) := rfl
      rw [hcons, run_bind_ok (run_call _), ih, List.map_cons, List.append_assoc]
      rfl

/-! ## What sessions give -/

/-- What the session gives has the property, if it gives anything. -/
def Returns (Q : α → Prop) (x : Session α) : Prop := ∀ m a, (x.run.run m).1 = .ok a → Q a

section Returns

variable {Q : α → Prop} {R : β → Prop} {x : Session α}

theorem returns_pure {a : α} (h : Q a) : Returns Q (pure a : Session α) := by
  rintro m b ⟨⟩
  exact h

theorem returns_throw (e : Error) : Returns Q (throw e : Session α) := by
  rintro m b ⟨⟩

theorem returns_lift {x : Except Error α} (h : ∀ a, x = .ok a → Q a) :
    Returns Q (liftM x : Session α) := by
  intro m a ha
  rw [run_lift] at ha
  exact h a ha

theorem Returns.bind {y : Session β} {f : β → Session α} (hy : Returns R y)
    (hf : ∀ b, R b → Returns Q (f b)) : Returns Q (y >>= f) := by
  intro m a h
  rw [run_bind] at h
  rcases hrun : y.run.run m with ⟨e | b, m'⟩
  · rw [hrun] at h
    cases h
  · rw [hrun] at h
    exact hf b (hy m b (by rw [hrun])) m' a h

/-- The last session of a row decides what is given. -/
theorem returns_bind {y : Session β} {f : β → Session α} (hf : ∀ b, Returns Q (f b)) :
    Returns Q (y >>= f) :=
  Returns.bind (fun _ _ _ => trivial : Returns (fun _ => True) y) fun b _ => hf b

theorem returns_tryCatch {handle : Error → Session α} (hx : Returns Q x)
    (hh : ∀ e, Returns Q (handle e)) : Returns Q (tryCatch x handle) := by
  intro m a h
  rw [run_tryCatch] at h
  rcases hrun : x.run.run m with ⟨e | b, m'⟩
  · rw [hrun] at h
    exact hh e m' a h
  · rw [hrun] at h
    exact hx m a (by rw [hrun]; exact h)

end Returns

end Session

end SocketInventory
