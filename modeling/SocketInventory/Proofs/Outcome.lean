/-!
# Outcomes

Computations that end in a value or in a failure, one after the other along a list.
-/

namespace SocketInventory

theorem ok_of_toOption {ε α : Type} {x : Except ε α} {a : α} (h : x.toOption = some a) :
    x = .ok a := by
  cases x with
  | error e => cases h
  | ok b => cases h; rfl

/-- A computation that ends in a value has done so in both of its parts. -/
theorem exists_of_bind_ok {ε α β : Type} {x : Except ε α} {f : α → Except ε β} {b : β}
    (h : (x >>= f) = .ok b) : ∃ a, x = .ok a ∧ f a = .ok b := by
  cases x with
  | error e => cases h
  | ok a => exact ⟨a, rfl, h⟩

theorem exists_of_map_ok {ε α β : Type} {x : Except ε α} {f : α → β} {b : β}
    (h : x.map f = .ok b) : ∃ a, x = .ok a ∧ b = f a := by
  cases x with
  | error e => cases h
  | ok a => cases h; exact ⟨a, rfl, rfl⟩

section Lists

variable {ε α β : Type} {f : α → Except ε β} {xs : List α}

theorem mapM_cons_ok {x : α} {ys : List β} : (x :: xs).mapM f = .ok ys ↔
    ∃ y rest, f x = .ok y ∧ xs.mapM f = .ok rest ∧ ys = y :: rest := by
  rw [List.mapM_cons]
  constructor
  · intro h
    cases hy : f x with
    | error e => rw [hy] at h; cases h
    | ok y =>
        cases hr : xs.mapM f with
        | error e => rw [hy, hr] at h; cases h
        | ok rest =>
            rw [hy, hr] at h
            cases h
            exact ⟨y, rest, rfl, rfl, rfl⟩
  · rintro ⟨y, rest, hy, hr, rfl⟩
    rw [hy, hr]
    rfl

theorem exists_cons_of_mapM_ok {y : β} {ys : List β} (h : xs.mapM f = .ok (y :: ys)) :
    ∃ x rest, xs = x :: rest ∧ f x = .ok y ∧ rest.mapM f = .ok ys := by
  cases xs with
  | nil => cases h
  | cons x rest =>
      obtain ⟨y', ys', hy, hys, hcons⟩ := mapM_cons_ok.1 h
      cases hcons
      exact ⟨x, rest, rfl, hy, hys⟩

theorem mapM_append_ok {more : List α} {ys : List β} : (xs ++ more).mapM f = .ok ys ↔
    ∃ first last, xs.mapM f = .ok first ∧ more.mapM f = .ok last ∧ ys = first ++ last := by
  induction xs generalizing ys with
  | nil =>
      constructor
      · exact fun h => ⟨[], ys, rfl, h, rfl⟩
      · rintro ⟨_, last, hnil, hlast, rfl⟩
        cases hnil
        exact hlast
  | cons x xs ih =>
      simp only [List.cons_append, mapM_cons_ok, ih]
      constructor
      · rintro ⟨y, _, hy, ⟨first, last, hfirst, hlast, rfl⟩, rfl⟩
        exact ⟨y :: first, last, ⟨y, first, hy, hfirst, rfl⟩, hlast, rfl⟩
      · rintro ⟨_, last, ⟨y, first, hy, hfirst, rfl⟩, hlast, rfl⟩
        exact ⟨y, first ++ last, hy, ⟨first, last, hfirst, hlast, rfl⟩, rfl⟩

theorem exists_mapM_ok (h : ∀ x ∈ xs, ∃ y, f x = .ok y) : ∃ ys, xs.mapM f = .ok ys := by
  induction xs with
  | nil => exact ⟨[], rfl⟩
  | cons x xs ih =>
      obtain ⟨y, hy⟩ := h x (by simp)
      obtain ⟨ys, hys⟩ := ih fun z hz => h z (by simp [hz])
      exact ⟨y :: ys, mapM_cons_ok.2 ⟨y, ys, hy, hys, rfl⟩⟩

theorem mem_of_mapM_ok {x : α} {ys : List β} (h : xs.mapM f = .ok ys) (hx : x ∈ xs) :
    ∃ y ∈ ys, f x = .ok y := by
  induction xs generalizing ys with
  | nil => cases hx
  | cons z xs ih =>
      obtain ⟨y, rest, hy, hr, rfl⟩ := mapM_cons_ok.1 h
      rcases List.mem_cons.1 hx with rfl | hx
      · exact ⟨y, by simp, hy⟩
      · obtain ⟨y', hmem, hy'⟩ := ih hr hx
        exact ⟨y', by simp [hmem], hy'⟩

theorem exists_of_mem_mapM_ok {y : β} {ys : List β} (h : xs.mapM f = .ok ys) (hy : y ∈ ys) :
    ∃ x ∈ xs, f x = .ok y := by
  induction xs generalizing ys with
  | nil =>
      cases h
      cases hy
  | cons z xs ih =>
      obtain ⟨y', rest, hz, hr, rfl⟩ := mapM_cons_ok.1 h
      rcases List.mem_cons.1 hy with rfl | hy
      · exact ⟨z, by simp, hz⟩
      · obtain ⟨x, hmem, hx⟩ := ih hr hy
        exact ⟨x, by simp [hmem], hx⟩

theorem mapM_ok_map {γ : Type} {g : γ → α} {k : γ → β} {zs : List γ}
    (h : ∀ z ∈ zs, f (g z) = .ok (k z)) : (zs.map g).mapM f = .ok (zs.map k) := by
  induction zs with
  | nil => rfl
  | cons z zs ih =>
      have hrest := ih fun z' hz' => h z' (by simp [hz'])
      exact mapM_cons_ok.2 ⟨k z, _, h z (by simp), hrest, rfl⟩

/-- Where each element gives a value of its own under a condition of its own, a list gives the
values of its elements under the conditions of all. -/
theorem mapM_ok_iff {P : α → Prop} {g : α → β} (hf : ∀ x y, f x = .ok y ↔ P x ∧ y = g x)
    {ys : List β} : xs.mapM f = .ok ys ↔ (∀ x ∈ xs, P x) ∧ ys = xs.map g := by
  induction xs generalizing ys with
  | nil =>
      constructor
      · rintro ⟨⟩
        exact ⟨by simp, rfl⟩
      · rintro ⟨-, rfl⟩
        rfl
  | cons x xs ih =>
      simp only [mapM_cons_ok, hf, ih, List.forall_mem_cons, List.map_cons]
      constructor
      · rintro ⟨_, _, ⟨hx, rfl⟩, ⟨hxs, rfl⟩, rfl⟩
        exact ⟨⟨hx, hxs⟩, rfl⟩
      · rintro ⟨⟨hx, hxs⟩, rfl⟩
        exact ⟨_, _, ⟨hx, rfl⟩, ⟨hxs, rfl⟩, rfl⟩

/-- No element stands between two parts of an empty list. -/
theorem not_exists_mid_nil {P : List α → α → List α → Prop} :
    ¬ ∃ before x after, [] = before ++ x :: after ∧ P before x after := by
  rintro ⟨before, x, after, hnil, -⟩
  cases before <;> cases hnil

/-- An element between two parts of a list is its first one, or between two parts of the rest. -/
theorem exists_mid_cons_iff {first : α} {P : List α → α → List α → Prop} :
    (∃ before x after, first :: xs = before ++ x :: after ∧ P before x after) ↔
      P [] first xs ∨
        ∃ before x after, xs = before ++ x :: after ∧ P (first :: before) x after := by
  constructor
  · rintro ⟨before, x, after, hcut, h⟩
    rcases before with _ | ⟨_, before⟩
    · cases hcut
      exact .inl h
    · cases hcut
      exact .inr ⟨before, x, after, rfl, h⟩
  · rintro (h | ⟨before, x, after, rfl, h⟩)
    · exact ⟨[], first, xs, rfl, h⟩
    · exact ⟨first :: before, x, after, rfl, h⟩

/-- A list fails as the first of its elements that fails. -/
theorem mapM_error_iff {e : ε} : xs.mapM f = .error e ↔
    ∃ before x after, xs = before ++ x :: after ∧ (∀ y ∈ before, ∃ b, f y = .ok b) ∧
      f x = .error e := by
  induction xs with
  | nil => exact iff_of_false (by rintro ⟨⟩) not_exists_mid_nil
  | cons x xs ih =>
      rw [exists_mid_cons_iff, List.mapM_cons]
      cases hx : f x with
      | error e' =>
          constructor
          · rintro ⟨⟩
            exact .inl ⟨by simp, rfl⟩
          · rintro (⟨-, ⟨⟩⟩ | ⟨before, y, after, -, hbefore, -⟩)
            · rfl
            · obtain ⟨b, hb⟩ := hbefore x (by simp)
              cases hx.symm.trans hb
      | ok b =>
          have hrest : (xs.mapM f >>= fun rest => pure (b :: rest)) = .error e ↔
              xs.mapM f = .error e := by
            cases xs.mapM f with
            | error e' => exact ⟨by rintro ⟨⟩; rfl, by rintro ⟨⟩; rfl⟩
            | ok rest => exact iff_of_false (by rintro ⟨⟩) (by rintro ⟨⟩)
          have hfirst : ∃ b, f x = .ok b := ⟨b, hx⟩
          rw [or_iff_right (by rintro ⟨-, ⟨⟩⟩)]
          simp only [List.forall_mem_cons, hfirst, true_and]
          exact hrest.trans ih

/-- Where all elements that fail do so alike, and one fails, the list fails alike. -/
theorem mapM_error_of_mem {e : ε} (he : ∀ x e', f x = .error e' → e' = e) {x : α} (hx : x ∈ xs)
    (hf : f x = .error e) : xs.mapM f = .error e := by
  cases h : xs.mapM f with
  | ok ys =>
      obtain ⟨y, -, hy⟩ := mem_of_mapM_ok h hx
      cases hf.symm.trans hy
  | error e' =>
      obtain ⟨_, z, _, -, -, hz⟩ := mapM_error_iff.1 h
      rw [he z e' hz]

/-- A feed without failures is read to its end. -/
theorem mapM_id_ok (xs : List α) : (xs.map .ok : List (Except ε α)).mapM id = .ok xs := by
  induction xs with
  | nil => rfl
  | cons x xs ih => exact mapM_cons_ok.2 ⟨x, xs, rfl, ih, rfl⟩

end Lists

end SocketInventory
