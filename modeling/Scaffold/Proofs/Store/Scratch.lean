import Scaffold.Proofs.Store.Walk

/-!
# New files of a fresh name

A new file takes a name that no place of the store contains. Until it is moved it is the only
change, whatever was refused, and when it has been moved to a path, the place that the path names
is the only one.

## Main definitions

* `Replaces` - one store is another one but for a file at a path.

## Main results

* `find?_freshName` - nothing stands at a place of a fresh name.
* `createScratch_inv`, `fill_cases`, `permit_inv` - what the steps before the move change.
* `rename_inv` - when a file is moved, and what that changes.
* `replaces_of_rename` - a new file that was moved to a path is the only change.
-/

namespace Scaffold.Store

/-! ### Fresh names -/

/-- A number is at most the greatest of a list. -/
theorem le_foldl_max {n m : Nat} {ns : List Nat} (h : n ≤ m ∨ n ∈ ns) : n ≤ ns.foldl max m := by
  induction ns generalizing m with
  | nil => exact h.resolve_right List.not_mem_nil
  | cons k ns ih =>
    refine ih ?_
    rcases h with h | h
    · exact .inl (Nat.le_trans h (Nat.le_max_left m k))
    · rcases List.mem_cons.1 h with rfl | h
      · exact .inl (Nat.le_max_right m n)
      · exact .inr h

/-- A fresh name is longer than every name that occurs. -/
theorem length_lt_freshName {s : Store} {place : Place} {e : Entry} {name : String}
    (hplace : (place, e) ∈ s.entries.entries) (hname : name ∈ place) :
    name.length < s.freshName.length := by
  have hmem : name.length ∈ s.entries.entries.flatMap fun entry => entry.1.map String.length :=
    List.mem_flatMap.2 ⟨(place, e), hplace, List.mem_map.2 ⟨name, hname, rfl⟩⟩
  have hle := le_foldl_max (m := 0) (.inr hmem)
  have hlength : s.freshName.length = 4 +
      (s.entries.entries.flatMap fun entry => entry.1.map String.length).foldl max 0 := by
    unfold freshName
    rw [String.length_ofList, List.length_append, List.length_replicate]
    rfl
  omega

/-- **Nothing stands at a place of a fresh name.** -/
theorem find?_freshName (s : Store) (parent : Place) :
    s.find? (parent ++ [s.freshName]) = none := by
  have hfind : s.find? (parent ++ [s.freshName]) =
      s.entries.find? (parent ++ [s.freshName]) := by
    cases parent <;> rfl
  rw [hfind, Option.eq_none_iff_forall_ne_some]
  intro e he
  exact Nat.lt_irrefl _ (length_lt_freshName (SortedMap.find?_eq_some_iff.1 he)
    (List.mem_append_right parent List.mem_cons_self))

/-- A new file is **created at a fresh place**, and nothing else is changed. -/
theorem createScratch_inv {s filled : Store} {directory : List String} {scratch : Place}
    (h : s.createScratch directory = .ok (scratch, filled)) :
    scratch ≠ [] ∧ s.find? scratch = none ∧ filled = s.set scratch (.file scratchMode []) := by
  obtain ⟨parent, -, h⟩ := bind_eq_ok_iff.1 h
  obtain ⟨_, -, heq⟩ := bind_eq_ok_iff.1 h
  cases heq
  exact ⟨List.append_ne_nil_of_right_ne_nil _ (List.cons_ne_nil _ _),
    find?_freshName s parent, rfl⟩

/-! ### Filling a file -/

/-- A new file is **filled** with all its bytes, or with the first ones if it cannot hold them. -/
theorem fill_cases (s : Store) (place : Place) (bytes : List UInt8) :
    s.fill place bytes = (.ok (), s.set place (.file scratchMode bytes)) ∨
      ∃ n fault,
        s.fill place bytes = (.error fault, s.set place (.file scratchMode (bytes.take n))) := by
  rw [fill]
  cases s.refusals.fill place with
  | none => exact .inl rfl
  | some refusal => exact .inr ⟨_, _, rfl⟩

/-- A file that is **given permissions** keeps its bytes, and nothing else is changed. -/
theorem permit_inv {s s' : Store} {place : Place} {mode : Nat}
    (h : s.permit place mode = .ok s') :
    ∃ old bytes, s.find? place = some (.file old bytes) ∧
      s' = s.set place (.file mode bytes) := by
  obtain ⟨_, -, h⟩ := bind_eq_ok_iff.1 h
  split at h
  · next old bytes hfile =>
    cases h
    exact ⟨old, bytes, hfile, rfl⟩
  · cases h

/-! ### Moving a file -/

/-- A **file is moved** to a place that a path names and at which no directory stands; it then
stands there as the process's own, and where it stood nothing stands. -/
theorem rename_inv {s s' : Store} {source : Place} {path : String}
    (h : s.rename source path = .ok s') :
    ∃ place e, s.target path = .ok (.place place) ∧ checkLast place = .ok () ∧
      endsInSlash path = false ∧ s.find? source = some e ∧
      s.find? place ≠ some .directory ∧ s' = ((s.erase source).set place e).own place := by
  unfold rename at h
  obtain ⟨target, htarget, h⟩ := bind_eq_ok_iff.1 h
  split at h
  · cases h
  · next place =>
    obtain ⟨_, hlast, h⟩ := bind_eq_ok_iff.1 h
    cases hslash : endsInSlash path with
    | true =>
      rw [hslash] at h
      cases h
    | false =>
      rw [hslash] at h
      dsimp only at h
      rw [if_neg Bool.false_ne_true] at h
      obtain ⟨_, -, h⟩ := bind_eq_ok_iff.1 h
      split at h
      · cases h
      · cases h
      · next e hsource hdirectory =>
        cases h
        exact ⟨place, e, htarget, hlast, rfl, hsource, hdirectory, rfl⟩

/-! ### A new file in place of another one -/

/-- A store **replaces a file** of another one: the path leads to a file of the given bytes that
everyone may read, which is the process's own, and at every other place stands what stood there. -/
def Replaces (s s' : Store) (path : String) (bytes : List UInt8) : Prop :=
  ∃ place, s'.locate path = .ok place ∧ s'.find? place = some (.file fileMode bytes) ∧
    (∀ p, p ≠ place → s'.find? p = s.find? p) ∧ s'.refusals = s.refusals.own place

section

variable {s s' : Store} {scratch : Place} {path : String} {bytes : List UInt8}

/-- What stands where after a new file was moved to a path: the file at the place that the path
names, and at every other place what stood there. No directory is replaced. -/
theorem find?_of_rename (hscratch : scratch ≠ []) (hfresh : s.find? scratch = none)
    (h : (s.set scratch (.file fileMode bytes)).rename scratch path = .ok s') :
    ∃ place, (s.set scratch (.file fileMode bytes)).target path = .ok (.place place) ∧
      checkLast place = .ok () ∧ endsInSlash path = false ∧ s.find? place ≠ some .directory ∧
      (∀ p, s'.find? p = if p = place then some (.file fileMode bytes) else s.find? p) ∧
      s'.refusals = s.refusals.own place := by
  obtain ⟨place, e, htarget, hlast, hslash, hsource, hdirectory, rfl⟩ := rename_inv h
  have hplace := ne_nil_of_target htarget
  obtain rfl : Entry.file fileMode bytes = e := by
    rw [find?_set _ _ hscratch, if_pos rfl] at hsource
    exact Option.some.inj hsource
  refine ⟨place, htarget, hlast, hslash, fun heq => ?_, fun p => ?_, rfl⟩
  · by_cases hp : place = scratch
    · rw [hp, hfresh] at heq
      cases heq
    · exact hdirectory (by rw [find?_set _ _ hscratch, if_neg hp, heq])
  · rw [find?_own, find?_set _ _ hplace, find?_erase _ hscratch, find?_set _ _ hscratch]
    split
    · rfl
    split
    · next hp => rw [hp, hfresh]
    · rfl

/-- A new file that is moved to a path **replaces no directory**. -/
theorem keepsDirectories_of_rename (hscratch : scratch ≠ []) (hfresh : s.find? scratch = none)
    (h : (s.set scratch (.file fileMode bytes)).rename scratch path = .ok s') :
    KeepsDirectories s s' := by
  obtain ⟨place, -, -, -, hdirectory, hmoved, hrefusals⟩ := find?_of_rename hscratch hfresh h
  exact keepsDirectories_of_ne hdirectory (fun p hp => by rw [hmoved, if_neg hp])
    (by rw [hrefusals, Refusals.search_own])

/-- A new file that is **moved to a path is the only change**, provided that it stood at a place
at which nothing had stood. -/
theorem replaces_of_rename (hscratch : scratch ≠ []) (hfresh : s.find? scratch = none)
    (h : (s.set scratch (.file fileMode bytes)).rename scratch path = .ok s') :
    s.Replaces s' path bytes := by
  obtain ⟨place, htarget, hlast, hslash, -, hmoved, hrefusals⟩ := find?_of_rename hscratch hfresh h
  -- The directories are those of the first store, and none of them is replaced.
  have hkeeps : KeepsDirectories (s.set scratch (.file fileMode bytes)) s' := by
    refine ⟨fun p hp => ?_, by rw [hrefusals, Refusals.search_own, refusals_set]⟩
    rw [find?_set _ _ hscratch] at hp
    split at hp
    · cases hp
    · exact (keepsDirectories_of_rename hscratch hfresh h).directory p hp
  refine ⟨place, locate_of_target hkeeps htarget hlast hslash ?_, ?_, fun p hp => ?_, hrefusals⟩
  · rw [hmoved, if_pos rfl]
    rfl
  · rw [hmoved, if_pos rfl]
  · rw [hmoved, if_neg hp]

/-- What **stands where** after a file was replaced. -/
theorem Replaces.found (h : s.Replaces s' path bytes) :
    ∃ place, s'.locate path = .ok place ∧ s'.find? place = some (.file fileMode bytes) ∧
      ∀ p, p ≠ place → s'.find? p = s.find? p := by
  obtain ⟨place, hlocate, hfile, hother, -⟩ := h
  exact ⟨place, hlocate, hfile, hother⟩

/-- What is **read** at the path of a replaced file is its bytes. -/
theorem Replaces.read_eq_ok (h : s.Replaces s' path bytes) : s'.read path = .ok bytes := by
  obtain ⟨place, hlocate, hfile, -, hrefusals⟩ := h
  refine read_eq_ok_iff.2 ⟨place, fileMode, hlocate, hfile, ?_⟩
  rw [hrefusals, Refusals.read_own, if_pos rfl]
  rfl

end

end Scaffold.Store
