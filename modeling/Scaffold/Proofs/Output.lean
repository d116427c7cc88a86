import Scaffold.Generation
import Scaffold.Proofs.Store.Scratch
import Scaffold.Proofs.Text.Utf8

/-!
# Writing and checking files

Writing is all or nothing: it either replaces the file at the path and changes nothing else, or
fails and changes nothing. The new file stands at a place of its own until it is moved, and is
removed if the system refuses a step on the way there. Checking changes nothing and compares the
bytes of the file with those of a text, but calls the file stale only if these are the bytes of a
text, too.

## Main results

* `install_cases` - what becomes of the new file.
* `replaces_of_write`, `write_eq_error_inv` - what a write leaves behind.
* `write_all_or_nothing` - both cases.
* `compare_ok_cases` - what is found of a file that can be read.
* `check_eq_ok_iff` - which files pass the check.
* `check_decides` - what the check finds in every case.
* `check_raw` - a file with other bytes that is not called stale.
-/

namespace Scaffold.Output

open Text (Utf8.encode Utf8.decode Utf8.decode_encode Utf8.decode_eq_some_iff Utf8.encode_inj)

/-! ### Writing -/

/-- The new file for a destination is created at a fresh place. -/
theorem createScratch_inv {s filled : Store} {path : String} {scratch : Store.Place}
    (h : createScratch s path = .ok (scratch, filled)) :
    scratch ≠ [] ∧ s.find? scratch = none ∧
      filled = s.set scratch (.file Store.scratchMode []) := by
  obtain ⟨_, -, hscratch⟩ := bind_eq_ok_iff.1 h
  exact Store.createScratch_inv hscratch

/-- **What becomes of a new file**: it is moved to the path with all of the content, or something
is refused and it still stands where it was created. Nothing else is changed. -/
theorem install_cases (s : Store) {scratch : Store.Place} (hscratch : scratch ≠ [])
    (e : Store.Entry) (path content : String) :
    (∃ s', install (s.set scratch e) scratch path content = (.ok (), s') ∧
      (s.set scratch (.file Store.fileMode (Utf8.encode content.toList))).rename scratch path =
        .ok s') ∨
    ∃ stage fault left,
      install (s.set scratch e) scratch path content =
        (.error (stage, fault), s.set scratch left) := by
  rw [install]
  rcases Store.fill_cases (s.set scratch e) scratch (Utf8.encode content.toList) with
    hfill | ⟨n, fault, hfill⟩
  · rw [hfill, Store.set_set]
    dsimp only
    cases hpermit : (s.set scratch (.file Store.scratchMode (Utf8.encode content.toList))).permit
        scratch Store.fileMode with
    | error fault => exact .inr ⟨_, fault, _, rfl⟩
    | ok permitted =>
      obtain ⟨_, bytes, hfile, rfl⟩ := Store.permit_inv hpermit
      rw [Store.find?_set _ _ hscratch, if_pos rfl] at hfile
      cases hfile
      rw [Store.set_set]
      dsimp only
      cases (s.set scratch (.file Store.fileMode (Utf8.encode content.toList))).rename
          scratch path with
      | error fault => exact .inr ⟨_, fault, _, rfl⟩
      | ok s' => exact .inl ⟨s', rfl, rfl⟩
  · rw [hfill, Store.set_set]
    exact .inr ⟨_, fault, _, rfl⟩

/-- A store in which there is room for one byte. -/
def oneByteLeft : Store :=
  { Store.empty with refusals := { fill := fun _ => some (1, .storageFull) } }

/-- There the new file is left with the first byte of the content. -/
example : install (oneByteLeft.set [".tmp"] (.file 0o600 [])) [".tmp"] "gen.rs" "é" =
    (.error (.fill ".", .storageFull), oneByteLeft.set [".tmp"] (.file 0o600 [0xC3])) := rfl

/-- A write that succeeds has moved a new file of its content to the path. -/
theorem write_eq_ok_inv {s s' : Store} {path content : String}
    (h : write s path content = (.ok (), s')) :
    ∃ scratch, scratch ≠ [] ∧ s.find? scratch = none ∧
      (s.set scratch (.file Store.fileMode (Utf8.encode content.toList))).rename scratch path =
        .ok s' := by
  rw [write] at h
  split at h
  · cases h
  next scratch filled hcreate =>
  obtain ⟨hscratch, hfresh, rfl⟩ := createScratch_inv hcreate
  rcases install_cases s hscratch (.file Store.scratchMode []) path content with
    ⟨_, hinstall, hmoved⟩ | ⟨_, _, _, hinstall⟩
  · rw [hinstall] at h
    cases h
    exact ⟨scratch, hscratch, hfresh, hmoved⟩
  · rw [hinstall] at h
    cases h

/-- A write that succeeds **replaces the file** at the path. -/
theorem replaces_of_write {s s' : Store} {path content : String}
    (h : write s path content = (.ok (), s')) :
    s.Replaces s' path (Utf8.encode content.toList) := by
  obtain ⟨_, hscratch, hfresh, hmoved⟩ := write_eq_ok_inv h
  exact Store.replaces_of_rename hscratch hfresh hmoved

/-- A write that fails says so of the path, and **changes nothing**. -/
theorem write_eq_error_inv {s s' : Store} {path content : String} {e : Error}
    (h : write s path content = (.error e, s')) :
    (∃ stage fault, e = .write path stage fault) ∧ s' = s := by
  rw [write] at h
  split at h
  · next fault hcreate =>
    cases h
    exact ⟨⟨_, fault, rfl⟩, rfl⟩
  next scratch filled hcreate =>
  obtain ⟨hscratch, hfresh, rfl⟩ := createScratch_inv hcreate
  rcases install_cases s hscratch (.file Store.scratchMode []) path content with
    ⟨_, hinstall, -⟩ | ⟨_, fault, left, hinstall⟩
  · rw [hinstall] at h
    cases h
  · rw [hinstall] at h
    cases h
    exact ⟨⟨_, fault, rfl⟩, Store.erase_set s left hscratch hfresh⟩

/-- **Writing is all or nothing.** If it succeeds, the path leads to a file of exactly the given
content that everyone may read and its owner may change, and every other place holds what it
held. If it fails, the error names the path, and the store is what it was. -/
theorem write_all_or_nothing (s : Store) (path content : String) :
    (∀ s', write s path content = (.ok (), s') →
      ∃ place, s'.locate path = .ok place ∧
        s'.find? place = some (.file 0o644 (Utf8.encode content.toList)) ∧
        ∀ p, p ≠ place → s'.find? p = s.find? p) ∧
    ∀ e s', write s path content = (.error e, s') →
      (∃ stage fault, e = .write path stage fault) ∧ s' = s :=
  ⟨fun _ h => (replaces_of_write h).found, fun _ _ => write_eq_error_inv⟩

/-- A store with a file and a directory. -/
def twoEntries : Store :=
  (Store.empty.set ["old"] (.file 0o600 [0x78])).set ["gen"] .directory

/-- In that store the file can be written, by a path that leads out of the directory again, and
the directory cannot. -/
theorem write_twoEntries :
    (write twoEntries "gen/../old" "é").1 = .ok () ∧
      (∃ place, (write twoEntries "gen/../old" "é").2.locate "gen/../old" = .ok place ∧
        (write twoEntries "gen/../old" "é").2.find? place = some (.file 0o644 [0xC3, 0xA9])) ∧
      (write twoEntries "gen" "é").1 = .error (.write "gen" .move .isADirectory) ∧
      (write twoEntries "gen" "é").2 = twoEntries := by
  have hok : (write twoEntries "gen/../old" "é").1 = .ok () := rfl
  have herror : (write twoEntries "gen" "é").1 = .error (.write "gen" .move .isADirectory) :=
    rfl
  obtain ⟨place, hlocate, hfile, -⟩ :=
    (write_all_or_nothing twoEntries "gen/../old" "é").1 _ (Prod.ext hok rfl)
  obtain ⟨-, hsame⟩ :=
    (write_all_or_nothing twoEntries "gen" "é").2 _ _ (Prod.ext herror rfl)
  exact ⟨hok, ⟨place, hlocate, hfile.trans (by decide +kernel)⟩, herror, hsame⟩

/-! ### Checking -/

/-- A file that holds a text passes the check with that text, and is stale with any other. -/
theorem compare_encode (path content : String) (cs : List Char) :
    compare path content (.ok (Utf8.encode cs)) =
      if cs = content.toList then .ok () else .error (.stale path) := by
  rw [compare, Utf8.decode_encode]
  dsimp only
  by_cases h : cs = content.toList
  · rw [if_pos h, if_pos (by rw [h, String.ofList_toList])]
  · rw [if_neg h, if_neg fun heq => h (by rw [← heq, String.toList_ofList])]

/-- A file that holds no text is not compared. -/
theorem compare_of_notText {path content : String} {bytes : List UInt8}
    (h : ∀ cs, bytes ≠ Utf8.encode cs) :
    compare path content (.ok bytes) = .error (.io .notUtf8) := by
  have hdecode : Utf8.decode bytes = none :=
    Option.eq_none_iff_forall_ne_some.2 fun cs hcs => h cs (Utf8.decode_eq_some_iff.1 hcs)
  rw [compare, hdecode]

/-- Where there is nothing to compare, the check does not pass. -/
theorem compare_error_ne_ok {path content : String} {fault : Store.Fault} :
    compare path content (.error fault) ≠ .ok () := by
  rw [compare.eq_def]
  cases fault <;> nofun

/-- The **check of a file** passes if the file holds the bytes of the content; else the file is
stale if it holds a text, and cannot be read as one if it does not. -/
theorem compare_ok_cases (path content : String) (bytes : List UInt8) :
    (compare path content (.ok bytes) = .ok () ↔ bytes = Utf8.encode content.toList) ∧
    (compare path content (.ok bytes) = .error (.stale path) ↔
      bytes ≠ Utf8.encode content.toList ∧ ∃ cs, bytes = Utf8.encode cs) ∧
    (compare path content (.ok bytes) = .error (.io .notUtf8) ↔
      ¬ ∃ cs, bytes = Utf8.encode cs) := by
  by_cases htext : ∃ cs, bytes = Utf8.encode cs
  · obtain ⟨cs, rfl⟩ := htext
    have htext : ∃ ds, Utf8.encode cs = Utf8.encode ds := ⟨cs, rfl⟩
    rw [compare_encode, Ne, Utf8.encode_inj]
    by_cases h : cs = content.toList
    · subst h
      simp [htext]
    · simp [h, htext]
  · have hne : ∀ cs, bytes ≠ Utf8.encode cs := fun cs hcs => htext ⟨cs, hcs⟩
    rw [compare_of_notText hne]
    simp [hne]

/-- The **check passes exactly if the file holds the bytes** of the text. -/
theorem check_eq_ok_iff {s : Store} {path content : String} :
    check s path content = .ok () ↔ s.read path = .ok (Utf8.encode content.toList) := by
  rw [check]
  cases s.read path with
  | error fault => exact ⟨fun h => absurd h compare_error_ne_ok, nofun⟩
  | ok bytes =>
    rw [(compare_ok_cases path content bytes).1]
    exact ⟨congrArg _, Except.ok.inj⟩

/-- **Which check finds what.** A file that is not there is stale. One that is there and can be read
passes exactly if its bytes are those of the content; it is stale exactly if they are others and are
those of a text, and otherwise, if they are those of no text, the check ends with a fault instead.
Whatever else keeps the file from being read is reported as it is. The store is left alone. -/
theorem check_decides (s : Store) (path content : String) :
    (s.locate path = .error .notFound → check s path content = .error (.stale path)) ∧
    (∀ place mode bytes, s.locate path = .ok place → s.find? place = some (.file mode bytes) →
      s.refusals.read place mode = none →
      (check s path content = .ok () ↔ bytes = Utf8.encode content.toList) ∧
      (check s path content = .error (.stale path) ↔
        bytes ≠ Utf8.encode content.toList ∧ ∃ cs, bytes = Utf8.encode cs) ∧
      (check s path content = .error (.io .notUtf8) ↔ ¬ ∃ cs, bytes = Utf8.encode cs)) ∧
    (∀ fault, s.read path = .error fault → fault ≠ .notFound →
      check s path content = .error (.io fault)) ∧
    ∀ n, Generated.deliver .check ⟨path, content, n⟩ s = (check s path content, s) := by
  refine ⟨fun habsent => ?_, fun place mode bytes hlocate hfile hreadable => ?_,
    fun fault hread hne => ?_, fun n => rfl⟩
  · have hread : s.read path = .error .notFound := by
      rw [Store.read, habsent]
      rfl
    rw [check, hread]
    rfl
  · rw [check, Store.read_eq_ok_iff.2 ⟨place, mode, hlocate, hfile, hreadable⟩]
    exact compare_ok_cases path content bytes
  · rw [check, hread, compare.eq_def]
    cases fault with
    | notFound => exact absurd rfl hne
    | _ => rfl

/-- A store with a text, a file that holds none, and a text that is not read. -/
def textAndBytes : Store :=
  ((Store.empty.set ["gen"] (.file 0o644 [0xC3, 0xA9])).set ["raw"] (.file 0o644 [0xFF])).set
    ["shut"] (.file 0o200 [0xC3, 0xA9])

/-- In that store the text passes with itself and is stale with another one, and so is a file that
is not there; what would stand in a file cannot be read, and what its owner may not read is not. -/
theorem check_decides_textAndBytes :
    check textAndBytes "gen" "é" = .ok () ∧ check textAndBytes "gen" "e" = .error (.stale "gen") ∧
      check textAndBytes "old" "é" = .error (.stale "old") ∧
      check textAndBytes "gen/x" "é" = .error (.io .notADirectory) ∧
      check textAndBytes "shut" "é" = .error (.io .permissionDenied) := by
  have hlocate : textAndBytes.locate "gen" = .ok ["gen"] := rfl
  have hfile : textAndBytes.find? ["gen"] = some (.file 0o644 [0xC3, 0xA9]) := rfl
  have hsame : ([0xC3, 0xA9] : List UInt8) = Utf8.encode "é".toList := by decide +kernel
  have hother : ([0xC3, 0xA9] : List UInt8) ≠ Utf8.encode "e".toList := by decide +kernel
  obtain ⟨-, hpass, -⟩ := check_decides textAndBytes "gen" "é"
  obtain ⟨-, hstale, -⟩ := check_decides textAndBytes "gen" "e"
  obtain ⟨habsent, -⟩ := check_decides textAndBytes "old" "é"
  obtain ⟨-, -, hfault, -⟩ := check_decides textAndBytes "gen/x" "é"
  obtain ⟨-, -, hshut, -⟩ := check_decides textAndBytes "shut" "é"
  exact ⟨(hpass _ _ _ hlocate hfile rfl).1.2 hsame,
    (hstale _ _ _ hlocate hfile rfl).2.1.2 ⟨hother, _, hsame⟩, habsent rfl, hfault _ rfl nofun,
    hshut _ rfl nofun⟩

/-- A file that is there, can be read and **holds other bytes is not called stale**, if they are
those of no text. -/
theorem check_raw :
    textAndBytes.locate "raw" = .ok ["raw"] ∧
      textAndBytes.find? ["raw"] = some (.file 0o644 [0xFF]) ∧
      ([0xFF] : List UInt8) ≠ Utf8.encode "x".toList ∧
      check textAndBytes "raw" "x" = .error (.io .notUtf8) ∧
      check textAndBytes "raw" "x" ≠ .error (.stale "raw") :=
  ⟨rfl, rfl, by decide +kernel, rfl, nofun⟩

end Scaffold.Output
