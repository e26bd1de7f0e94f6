import SocketInventory.Proofs.Text.Lines
import SocketInventory.Web.Route

/-!
# The route to the end of a process

One path leads to the end of a process for each way of writing its number in digits.
-/

namespace SocketInventory.Web

/-- The path that asks for the end of the process with these digits. -/
def killPath (digits : List Char) : List Char :=
  "/api/processes/".toList ++ digits ++ "/kill".toList

/-- The parts of the path between its slashes. -/
def killParts (digits : List Char) : List (List Char) :=
  ["api".toList, "processes".toList, digits, "kill".toList]

theorem killPath_eq (digits : List Char) :
    killPath digits = ['/'].intercalate ([] :: killParts digits) := by
  have hfirst : "/api/processes/".toList =
      ['/'] ++ ("api".toList ++ (['/'] ++ ("processes".toList ++ ['/']))) := by decide
  have hlast : "/kill".toList = ['/'] ++ "kill".toList := by decide
  unfold killPath killParts
  simp only [hfirst, hlast, Text.intercalate_cons_cons, List.intercalate_singleton,
    List.nil_append, List.append_assoc]

theorem slash_notMem {digits : List Char} (h : Route.isNumber digits = true) : '/' ∉ digits := by
  simp only [Route.isNumber, Bool.and_eq_true, List.all_eq_true] at h
  intro hslash
  exact absurd (h.2 '/' hslash) (by decide)

theorem splitAt_killPath {digits : List Char} (h : Route.isNumber digits = true) :
    Text.splitAt '/' (killPath digits) = [] :: killParts digits := by
  rw [killPath_eq]
  refine Text.splitAt_intercalate (by simp) ?_
  simp only [killParts, List.forall_mem_cons]
  exact ⟨by simp, by decide, by decide, slash_notMem h, by decide, by simp⟩

namespace Route

theorem ofParts?_killParts {digits : List Char} (h : isNumber digits = true) :
    ofParts? (killParts digits) = some (.processKill digits) := by
  simp [ofParts?, killParts, h]

theorem parts_of_processKill {parts : List (List Char)} {digits : List Char}
    (h : ofParts? parts = some (.processKill digits)) :
    parts = killParts digits ∧ isNumber digits = true := by
  have hparts : parts = (parts.map String.ofList).map String.toList := by simp
  unfold ofParts? at h
  split at h
  · cases h
  · cases h
  · rename_i pid verb hmap
    split at h
    · cases h
    · split at h
      · cases h
      · split at h
        · rename_i hnumber _ hverb
          cases h
          rw [hmap, hverb] at hparts
          exact ⟨hparts, by simpa using hnumber⟩
        · cases h
  · split at h <;> cases h
  · cases h

/-- A path with a slash before it leads to the end of a process when it is the path for this. -/
theorem ofPath?_eq_processKill_iff {path digits : List Char} (hpath : path.head? = some '/') :
    ofPath? path = some (.processKill digits) ↔
      path = killPath digits ∧ isNumber digits = true := by
  constructor
  · intro h
    obtain ⟨hparts, hnumber⟩ := parts_of_processKill h
    obtain ⟨rest, rfl⟩ : ∃ rest, path = '/' :: rest := by
      cases path with
      | nil => cases hpath
      | cons c rest =>
          cases hpath
          exact ⟨rest, rfl⟩
    refine ⟨?_, hnumber⟩
    have hjoined := Text.intercalate_splitAt '/' ('/' :: rest)
    rw [Text.splitAt_sep] at hparts hjoined
    rw [killPath_eq, ← hparts]
    exact hjoined.symm
  · rintro ⟨rfl, hnumber⟩
    rw [ofPath?, splitAt_killPath hnumber]
    exact ofParts?_killParts hnumber

end Route

end SocketInventory.Web
