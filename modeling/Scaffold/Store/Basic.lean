import Scaffold.SortedMap
import Scaffold.Store.Fault
import Scaffold.Text.Split

/-!
# File stores

A store is a tree of files and directories, kept as a map from places to entries. A place is
the list of the names that lead to it from the top, and the top itself is always a directory.
A path is text; it is followed name by name from the top, so that `..` leads out of the
directory that was reached, and every name but the last must be that of a directory.

What stands in a store does not tell whether it may be read or changed, or whether there is room for
more. A store therefore also says, place by place, what the system refuses: that a name is looked up
in a directory, that a file is read or written over, and each of the steps by which a new file comes
to stand at a path. Where nothing else is said, every file is taken to be the process's own, so that
it is read and written over if the permissions of the owner allow it.

## Main definitions

* `Refusals` - what the system refuses at each place.
* `Refusals.own` - what it refuses once the file at a place is the process's own.
* `Store.enter` - the directory that some names lead to.
* `Store.locate` - the place of what a path leads to.
* `Store.read`, `Store.mode` - the bytes of a file and the permissions of an entry.

## Main results

* `find?_set`, `find?_erase` - what putting and clearing do to each place.
* `set_set`, `erase_set` - of an entry that is put over another one, or cleared again, the earlier
  one leaves no trace.
-/

namespace Scaffold

namespace Store

/-- Where something stands in a store: the names that lead to it from the top. -/
abbrev Place := List String

/-- Places are ordered as a dictionary orders words. -/
instance (priority := high) : LE Place := List.instLE

/-- What stands at a place. -/
inductive Entry where
  /-- A file with its permissions and its bytes. -/
  | file (mode : Nat) (bytes : List UInt8)
  | directory
  deriving Repr, DecidableEq

/-- The permissions of a file that everyone may read and its owner may change. -/
def fileMode : Nat := 0o644

/-- The permissions of a file that is its owner's alone. -/
def scratchMode : Nat := 0o600

/-- The permissions of a directory that everyone may read and its owner may change. -/
def directoryMode : Nat := 0o755

/-- The permissions of an entry. -/
def Entry.mode (e : Entry) : Nat :=
  match e with
  | .file mode _ => mode
  | .directory => directoryMode

/-- Why its owner does not read a file of the given permissions. -/
def ownerRead (mode : Nat) : Option Fault :=
  if mode.testBit 8 then none else some .permissionDenied

/-- Why its owner does not write over a file of the given permissions. -/
def ownerWrite (mode : Nat) : Option Fault :=
  if mode.testBit 7 then none else some .permissionDenied

/-- What the **system refuses**, for want of a permission or of room. -/
structure Refusals where
  /-- Why no name is looked up in the directory at a place. -/
  search : Place → Option Fault := fun _ => none
  /-- Why what stands at a place is not read, if it has the given permissions. -/
  read : Place → Nat → Option Fault := fun _ => ownerRead
  /-- Why the file at a place is not written over, if it has the given permissions. -/
  overwrite : Place → Nat → Option Fault := fun _ => ownerWrite
  /-- Why no file is created at a place. -/
  create : Place → Option Fault := fun _ => none
  /-- Why not all bytes go into the file at a place, and how many do. -/
  fill : Place → Option (Nat × Fault) := fun _ => none
  /-- Why the file at a place keeps its permissions. -/
  permit : Place → Option Fault := fun _ => none
  /-- Why no file is moved to a place. -/
  move : Place → Option Fault := fun _ => none
  deriving Inhabited

/-- What is refused once the file at a place is **the process's own**. -/
def Refusals.own (r : Refusals) (place : Place) : Refusals :=
  { r with
    read := fun p => if p = place then ownerRead else r.read p
    overwrite := fun p => if p = place then ownerWrite else r.overwrite p }

@[simp] theorem Refusals.search_own (r : Refusals) (place : Place) :
    (r.own place).search = r.search :=
  rfl

@[simp] theorem Refusals.read_own (r : Refusals) (place p : Place) :
    (r.own place).read p = if p = place then ownerRead else r.read p :=
  rfl

/-- Fails if there is something for which the system refuses a step. -/
def refuse (refusal : Option Fault) : Except Fault Unit :=
  match refusal with
  | none => .ok ()
  | some fault => .error fault

end Store

/-- A **file store**. -/
structure Store where
  /-- The entries at their places. The top has none. -/
  entries : SortedMap Store.Place Store.Entry
  refusals : Store.Refusals := {}
  deriving Inhabited

namespace Store

/-- The store without entries, in which the files will be the process's own. -/
def empty : Store := { entries := .empty }

/-- What stands at a place. -/
def find? (s : Store) (place : Place) : Option Entry :=
  match place with
  | [] => some .directory
  | place => s.entries.find? place

/-- Puts an entry at a place. -/
def set (s : Store) (place : Place) (e : Entry) : Store :=
  { s with entries := s.entries.insert place e }

/-- Clears a place. -/
def erase (s : Store) (place : Place) : Store :=
  { s with entries := s.entries.erase place }

/-- After an entry was put at a place, that place holds it, and every other one what it held. -/
theorem find?_set (s : Store) (e : Entry) {place : Place} (h : place ≠ []) (p : Place) :
    (s.set place e).find? p = if p = place then some e else s.find? p := by
  cases p with
  | nil => rw [if_neg h.symm, find?, find?]
  | cons name rest => exact s.entries.find?_insert place e (name :: rest)

/-- After a place was cleared it holds nothing, and every other one what it held. -/
theorem find?_erase (s : Store) {place : Place} (h : place ≠ []) (p : Place) :
    (s.erase place).find? p = if p = place then none else s.find? p := by
  cases p with
  | nil => rw [if_neg h.symm, find?, find?]
  | cons name rest => exact s.entries.find?_erase place (name :: rest)

/-- An entry that is put over another one replaces it. -/
theorem set_set (s : Store) (place : Place) (e e' : Entry) :
    (s.set place e).set place e' = s.set place e' := by
  refine congrArg (Store.mk · s.refusals) (SortedMap.ext_find? fun p => ?_)
  rw [SortedMap.find?_insert, SortedMap.find?_insert, set, SortedMap.find?_insert]
  split <;> rfl

/-- To put an entry at a place that holds none and clear the place again changes nothing. -/
theorem erase_set (s : Store) (e : Entry) {place : Place} (h : place ≠ [])
    (hnone : s.find? place = none) : (s.set place e).erase place = s := by
  refine congrArg (Store.mk · s.refusals) (SortedMap.ext_find? fun p => ?_)
  rw [SortedMap.find?_erase, set, SortedMap.find?_insert]
  split
  · next hp =>
    obtain ⟨name, rest, rfl⟩ := List.exists_cons_of_ne_nil h
    exact hp ▸ hnone.symm
  · rfl

/-- Makes the file at a place the process's own. -/
def own (s : Store) (place : Place) : Store :=
  { s with refusals := s.refusals.own place }

@[simp] theorem find?_own (s : Store) (place p : Place) : (s.own place).find? p = s.find? p := by
  cases p <;> rfl

@[simp] theorem refusals_set (s : Store) (place : Place) (e : Entry) :
    (s.set place e).refusals = s.refusals :=
  rfl

/-- Whether a directory stands at a place. -/
def isDirectory (s : Store) (place : Place) : Bool :=
  s.find? place = some .directory

/-! ## Paths -/

/-- The most bytes that a name may have. -/
def nameMax : Nat := 255

/-- The number of bytes at which a path is too long. -/
def pathLimit : Nat := 4096

/-- The names in a path. Slashes only separate them. -/
def names (path : String) : List String :=
  ((Text.split '/' path.toList).filter (!·.isEmpty)).map String.ofList

/-- Whether a path ends in a slash, and so asks for a directory. -/
def endsInSlash (path : String) : Bool :=
  path.toList.getLast? = some '/'

/-- Refuses a path that no store can have. -/
def checkPath (path : String) : Except Fault Unit :=
  if path.toList.contains '\x00' then .error .nullInPath
  else if path.isEmpty then .error .notFound
  else if pathLimit ≤ path.utf8ByteSize then .error .nameTooLong
  else .ok ()

/-- Refuses a name that no store can have. -/
def checkName (name : String) : Except Fault Unit :=
  if nameMax < name.utf8ByteSize then .error .nameTooLong else .ok ()

/-- Refuses a place at which no directory stands. -/
def checkDirectory (s : Store) (place : Place) : Except Fault Unit :=
  if s.isDirectory place then .ok () else .error .notADirectory

/-- Refuses a place at which there is no directory in which names may be looked up. -/
def checkSearch (s : Store) (place : Place) : Except Fault Unit := do
  s.checkDirectory place
  refuse (s.refusals.search place)

/-- Follows one name from a place. -/
def step (s : Store) (place : Place) (name : String) : Except Fault Place := do
  s.checkSearch place
  match name with
  | "." => return place
  | ".." => return place.dropLast
  | name =>
    checkName name
    if (s.find? (place ++ [name])).isSome then return place ++ [name] else throw .notFound

/-- The place that names lead to from the top. -/
def walk (s : Store) (names : List String) : Except Fault Place :=
  names.foldlM s.step []

/-- The **directory that names lead to** from the top, in which names may be looked up. -/
def enter (s : Store) (names : List String) : Except Fault Place := do
  let place ← s.walk names
  s.checkSearch place
  return place

/-- The **place of what a path leads to**. -/
def locate (s : Store) (path : String) : Except Fault Place := do
  checkPath path
  let place ← s.walk (names path)
  if endsInSlash path then s.checkDirectory place
  return place

/-- The **bytes of the file at a path**, unless the system refuses that it is read. -/
def read (s : Store) (path : String) : Except Fault (List UInt8) := do
  let place ← s.locate path
  match s.find? place with
  | none => throw .notFound
  | some e =>
    refuse (s.refusals.read place e.mode)
    match e with
    | .file _ bytes => return bytes
    | .directory => throw .isADirectory

/-- The permissions of what stands at a path. -/
def mode (s : Store) (path : String) : Except Fault Nat := do
  match s.find? (← s.locate path) with
  | some e => return e.mode
  | none => throw .notFound

end Store

end Scaffold
