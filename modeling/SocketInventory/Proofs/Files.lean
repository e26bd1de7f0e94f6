import SocketInventory.Presets
import SocketInventory.Proofs.Outcome
import SocketInventory.Proofs.Session

/-!
# Files of presets

Where a path of presets leads, and what can go wrong on the way: a home or a working directory that
is not known, a place that cannot be searched or followed, and links in a circle. What the loading
comes to depends on the file that is found there.
-/

namespace SocketInventory

variable {e : Error}

/-! ## Looking up -/

namespace FileSystem

variable {files : FileSystem} {p place : Path}

/-- The answer at a path is an error other than that nothing stands there. -/
def Refuses (files : FileSystem) (p : Path) (f : PathFault) : Prop :=
  files.look p = .error f ∧ f.saysNothing = false

theorem holds_error_iff : files.holds p = .error e ↔ ∃ f, files.Refuses p f ∧ e = .path f := by
  rw [holds]
  constructor
  · intro h
    split at h
    · cases h
    · rename_i f hlook
      split at h
      · cases h
      · rename_i hnothing
        cases h
        exact ⟨f, ⟨hlook, by simpa using hnothing⟩, rfl⟩
  · rintro ⟨f, ⟨hlook, hnothing⟩, rfl⟩
    simp only [hlook, hnothing, Bool.false_eq_true, if_false]

/-- Links lead from the path in a circle, or to a place that cannot be named. -/
def Strays (files : FileSystem) (p : Path) (f : PathFault) : Prop :=
  files.place p = .error f ∨ ∃ place, files.place p = .ok place ∧ files.look place = .error f ∧
    (f.isLoop || f.isUnnameable) = true

theorem resolve_error_iff : files.resolve p = .error e ↔
    ∃ f, files.Strays p f ∧ e = linkError f := by
  rw [resolve]
  cases hp : files.place p with
  | error g =>
      constructor
      · rintro ⟨⟩
        exact ⟨g, .inl hp, rfl⟩
      · rintro ⟨f, hf | ⟨place, hf, -⟩, rfl⟩
        · cases hp.symm.trans hf
          rfl
        · cases hp.symm.trans hf
  | ok place =>
      simp only [Except.mapError, bind, Except.bind]
      cases hlook : files.look place with
      | ok there =>
          refine iff_of_false (by rintro ⟨⟩) ?_
          rintro ⟨f, hf | ⟨place', hplace, hf, -⟩, rfl⟩
          · cases hp.symm.trans hf
          · cases hp.symm.trans hplace
            cases hlook.symm.trans hf
      | error g =>
          constructor
          · intro h
            simp only at h
            split at h
            · rename_i hstray
              cases h
              exact ⟨g, .inr ⟨place, hp, hlook, hstray⟩, rfl⟩
            · cases h
          · rintro ⟨f, hf | ⟨place', hplace, hf, hstray⟩, rfl⟩
            · cases hp.symm.trans hf
            · cases hp.symm.trans hplace
              cases hlook.symm.trans hf
              simp only [hstray, if_true]

end FileSystem

/-! ## Finding the file -/

namespace Presets

variable {host : Host} {path : String} {p place : Path}

/-- The path starts at the home of a user, who need not be named. -/
def StartsAt (p : Path) (user : List Char) : Prop :=
  ∃ rest, p = ⟨false, String.ofList ('~' :: user) :: rest⟩

/-- The home of a user is not told, or there is none. -/
inductive Homeless (host : Host) (user : List Char) : Error → Prop
  | fault {f : PathFault} (h : host.home user = .error f) : Homeless host user (.path f)
  | none (h : host.home user = .ok none) : Homeless host user .noHome

theorem expandHome_error_iff :
    expandHome host p = .error e ↔ ∃ user, StartsAt p user ∧ Homeless host user e := by
  constructor
  · intro h
    rw [expandHome] at h
    split at h
    · rename_i name rest habsolute hnames
      split at h
      · rename_i user hname
        have hstarts : StartsAt p user := by
          refine ⟨rest, ?_⟩
          rw [← hname, String.ofList_toList, ← habsolute, ← hnames]
        split at h
        · cases h
        · rename_i hhome
          cases h
          exact ⟨user, hstarts, .none hhome⟩
        · rename_i hhome
          cases h
          exact ⟨user, hstarts, .fault hhome⟩
      · cases h
    · cases h
  · rintro ⟨user, ⟨rest, rfl⟩, hfault⟩
    have hname : (String.ofList ('~' :: user)).toList = '~' :: user := String.toList_ofList
    simp only [expandHome, hname]
    cases hfault with
    | fault h => rw [h]
    | none h => rw [h]

/-- The path is relative and continues a working directory. -/
def Continues (host : Host) (path : String) (here : Path) : Prop :=
  ∃ q directory, expandHome host (Path.parse path) = .ok q ∧ q.absolute = false ∧
    host.workingDirectory = .ok directory ∧ here = directory.under q

/-- Where a path leads: to itself from the root, to the working directory if something is there,
and else to the package. -/
inductive Leads (host : Host) (path : String) : Path → Prop
  | absolute {q : Path} (he : expandHome host (Path.parse path) = .ok q)
      (ha : q.absolute = true) : Leads host path q
  | here {place : Path} (hc : Continues host path place)
      (hs : host.files.holds place = .ok true) : Leads host path place
  | package {q here : Path} (he : expandHome host (Path.parse path) = .ok q)
      (hc : Continues host path here) (hs : host.files.holds here = .ok false) :
      Leads host path (host.packageDirectory.under q)

theorem locate_absolute {q : Path} (he : expandHome host (Path.parse path) = .ok q)
    (ha : q.absolute = true) : locate host path = host.files.resolve q := by
  simp [locate, he, ha, bind, Except.bind]

theorem locate_relative {q directory : Path} (he : expandHome host (Path.parse path) = .ok q)
    (ha : q.absolute = false) (hw : host.workingDirectory = .ok directory) :
    locate host path = (host.files.holds (directory.under q)).bind fun there =>
      if there then host.files.resolve (directory.under q)
      else host.files.resolve (host.packageDirectory.under q) := by
  simp [locate, he, ha, hw, bind, Except.bind, Except.mapError]

theorem Leads.locate (h : Leads host path place) : locate host path = host.files.resolve place := by
  cases h with
  | absolute he ha => exact locate_absolute he ha
  | here hc hs =>
      obtain ⟨q, directory, he, ha, hw, rfl⟩ := hc
      rw [locate_relative he ha hw, hs]
      rfl
  | package he hc hs =>
      obtain ⟨q, directory, he', ha, hw, rfl⟩ := hc
      cases he.symm.trans he'
      rw [locate_relative he ha hw, hs]
      rfl

/-- The stages at which a path leads to no place, with the error of each. -/
inductive Loses (host : Host) (path : String) : Error → Prop
  | home {user : List Char} {e : Error} (hu : StartsAt (Path.parse path) user)
      (hh : Homeless host user e) : Loses host path e
  | workingDirectory {q : Path} {f : PathFault} (he : expandHome host (Path.parse path) = .ok q)
      (ha : q.absolute = false) (hw : host.workingDirectory = .error f) : Loses host path (.path f)
  | searching {here : Path} {f : PathFault} (hc : Continues host path here)
      (hr : host.files.Refuses here f) : Loses host path (.path f)
  | following {place : Path} {f : PathFault} (hl : Leads host path place)
      (hs : host.files.Strays place f) : Loses host path (FileSystem.linkError f)

/-- A path leads somewhere, unless it loses its way before. -/
theorem leads_or_loses (host : Host) (path : String) :
    (∃ place, Leads host path place) ∨ ∃ e, Loses host path e ∧ locate host path = .error e := by
  cases he : expandHome host (Path.parse path) with
  | error e =>
      obtain ⟨user, hu, hh⟩ := expandHome_error_iff.1 he
      exact .inr ⟨e, .home hu hh, by rw [locate, he]; rfl⟩
  | ok q =>
      cases ha : q.absolute with
      | true => exact .inl ⟨_, .absolute he ha⟩
      | false =>
          cases hw : host.workingDirectory with
          | error f =>
              refine .inr ⟨.path f, .workingDirectory he ha hw, ?_⟩
              simp [locate, he, ha, hw, bind, Except.bind, Except.mapError]
          | ok directory =>
              have hc : Continues host path (directory.under q) := ⟨q, directory, he, ha, hw, rfl⟩
              cases hs : host.files.holds (directory.under q) with
              | error e =>
                  obtain ⟨f, hr, rfl⟩ := FileSystem.holds_error_iff.1 hs
                  exact .inr ⟨_, .searching hc hr, by rw [locate_relative he ha hw, hs]; rfl⟩
              | ok there =>
                  cases there with
                  | true => exact .inl ⟨_, .here hc hs⟩
                  | false => exact .inl ⟨_, .package he hc hs⟩

theorem locate_error_iff : locate host path = .error e ↔ Loses host path e := by
  constructor
  · intro h
    rcases leads_or_loses host path with ⟨place, hl⟩ | ⟨f, hf, hlocate⟩
    · rw [hl.locate] at h
      obtain ⟨f, hs, rfl⟩ := FileSystem.resolve_error_iff.1 h
      exact .following hl hs
    · cases h.symm.trans hlocate
      exact hf
  · intro h
    cases h with
    | home hu hh =>
        rw [locate, expandHome_error_iff.2 ⟨_, hu, hh⟩]
        rfl
    | workingDirectory he ha hw => simp [locate, he, ha, hw, bind, Except.bind, Except.mapError]
    | searching hc hr =>
        obtain ⟨q, directory, he, ha, hw, rfl⟩ := hc
        rw [locate_relative he ha hw, FileSystem.holds_error_iff.2 ⟨_, hr, rfl⟩]
        rfl
    | following hl hs => rw [hl.locate, FileSystem.resolve_error_iff.2 ⟨_, hs, rfl⟩]

/-- Whether something stands at the place where the path leads. -/
structure Finds (host : Host) (path : String) (file : Path) (there : Bool) : Prop where
  place : locate host path = .ok file
  found : host.files.holds file = .ok there

/-- The octets of the file where the path leads. -/
structure Reads (host : Host) (path : String) (file : Path) (octets : List UInt8) : Prop extends
    Finds host path file true where
  read : host.files.read file = .ok octets

/-! ## The run of a loading -/

theorem filter_of_ne (h : path ≠ "") : (some path).filter (· ≠ "") = some path := by
  simp [Option.filter, h]

/-- The account of a file that is not there. -/
def missingEntry (file : Path) : Event :=
  .errors ("[warn] presets not found: " ++ file.text ++ "\n")

def loadedEntry (presets : Presets) (file : Path) : Event :=
  .errors ("[*] presets: " ++ toString presets.length ++ " loaded from " ++ file.text ++ "\n")

theorem run_load (path : Option String) (m : Machine) : (load path).run.run m =
    match path.filter (· ≠ "") with
    | none => (.ok shipped, m)
    | some path =>
      match locate m.host path with
      | .error e => (.error e, m)
      | .ok file =>
        match m.host.files.holds file with
        | .error e => (.error e, m)
        | .ok false => (.ok [], m.noting [missingEntry file])
        | .ok true =>
          match m.host.files.read file with
          | .error f => (.error (.path f), m)
          | .ok octets =>
            match readData m.host file octets >>= ofData m.host.limits.display with
            | .error e => (.error e, m)
            | .ok presets => (.ok presets, m.noting [loadedEntry presets file]) := by
  rw [load]
  rcases path.filter (· ≠ "") with _ | path
  · rfl
  simp only
  rw [Session.run_bind_ok Session.run_host]
  cases hl : locate m.host path with
  | error e => rw [Session.run_bind_error (Session.run_lift _)]
  | ok file =>
      rw [Session.run_bind_ok (Session.run_lift _)]
      simp only
      cases hs : m.host.files.holds file with
      | error e => rw [Session.run_bind_error (Session.run_lift _)]
      | ok there =>
          rw [Session.run_bind_ok (Session.run_lift _)]
          cases there with
          | false => rfl
          | true =>
              simp only [if_true]
              cases hr : m.host.files.read file with
              | error f =>
                  simp only [Except.mapError]
                  rw [Session.run_bind_error (Session.run_lift _)]
              | ok octets =>
                  simp only [Except.mapError]
                  rw [Session.run_bind_ok (Session.run_lift _)]
                  cases hd : readData m.host file octets >>= ofData m.host.limits.display with
                  | error e => rw [Session.run_bind_error (Session.run_lift _)]
                  | ok presets =>
                      rw [Session.run_bind_ok (Session.run_lift _)]
                      rfl

/-- Octets that are no presets end the loading before anything is told. -/
theorem run_load_reads {m : Machine} {file : Path} {octets : List UInt8} (hne : path ≠ "")
    (hr : Reads m.host path file octets)
    (h : (readData m.host file octets >>= ofData m.host.limits.display) = .error e) :
    (load (some path)).run.run m = (.error e, m) := by
  simp only [run_load, filter_of_ne hne, hr.place, hr.found, hr.read, h]

end Presets

end SocketInventory
