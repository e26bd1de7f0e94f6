import Mathlib
import SocketInventory.Socket

/-!
# Kinds of sockets

Every socket is of one kind, so the sockets of some kinds may be taken kind by kind: none is lost
and none is met twice, though their order may be another one.
-/

namespace SocketInventory

variable {k : Kind} {families : List Family} {transports : List Transport}

/-- A socket belongs to the kind of its transport and of the family of its local address. -/
def Socket.kind (s : Socket) : Kind := ⟨s.transport, s.localAddress.family⟩

namespace Kind

/-- The sockets of a kind, in the order of their list. -/
def among (k : Kind) (sockets : List Socket) : List Socket := sockets.filter (·.kind = k)

theorem mem_select :
    k ∈ select transports families ↔ k.transport ∈ transports ∧ k.family ∈ families := by
  obtain ⟨t, f⟩ := k
  simp [select]

theorem nodup_select (ht : transports.Nodup) (hf : families.Nodup) :
    (select transports families).Nodup := by
  have hproduct : select transports families =
      (transports.product families).map fun p => ⟨p.1, p.2⟩ := by
    rw [List.product, List.map_flatMap]
    simp only [List.map_map]
    rfl
  rw [hproduct]
  refine (List.Nodup.product ht hf).map ?_
  rintro ⟨t, f⟩ ⟨t', f'⟩ heq
  cases heq
  rfl

/-- Kind by kind, each socket of some distinct kinds is met once. -/
theorem flatMap_among_perm {kinds : List Kind} (h : kinds.Nodup) (sockets : List Socket) :
    (kinds.flatMap (·.among sockets)).Perm (sockets.filter (·.kind ∈ kinds)) := by
  induction kinds with
  | nil => simp
  | cons k kinds ih =>
      obtain ⟨hk, hkinds⟩ := List.nodup_cons.1 h
      -- The sockets of all these kinds are parted into those of the first kind and the others.
      let found := sockets.filter (·.kind ∈ k :: kinds)
      have hhere : found.filter (·.kind = k) = k.among sockets := by
        rw [List.filter_filter, among]
        exact List.filter_congr fun s _ => by simp +contextual
      have hrest : found.filter (fun s => !decide (s.kind = k)) =
          sockets.filter (·.kind ∈ kinds) := by
        rw [List.filter_filter]
        refine List.filter_congr fun s _ => ?_
        by_cases hs : s.kind = k
        · simp [hs, hk]
        · simp [hs]
      have hsplit := List.filter_append_perm (·.kind = k) found
      rw [hhere, hrest] at hsplit
      exact ((ih hkinds).append_left (k.among sockets)).trans hsplit

end Kind

end SocketInventory
