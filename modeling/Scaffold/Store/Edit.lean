import Scaffold.Store.Basic

/-!
# Changing a file store

Each operation gives the changed store, or a fault. Of the steps by which a new file comes to stand
at a path, one that is refused changes nothing; only a file that cannot be filled is left with the
bytes that went into it. A path that names a place for a new entry is followed up to its last name,
which need not be there yet.

## Main definitions

* `Store.put` - writes bytes into a file, which is created if it is not there.
* `Store.remove` - removes a file.
* `Store.makeDirectories` - creates a directory and those that lead to it.
* `Store.createScratch`, `Store.fill`, `Store.permit`, `Store.rename` - the steps by which a new
  file comes to stand at a path. The system may refuse each of them.
-/

namespace Scaffold.Store

/-- Where the last name of a path leads. -/
inductive Target where
  /-- To a directory that was entered: the name is `.` or `..`, or there is none. -/
  | entered
  /-- To a place in the directory that the other names lead to. -/
  | place (place : Place)
  deriving Repr, DecidableEq

/-- The target of a path, whether or not something stands there. -/
def target (s : Store) (path : String) : Except Fault Target := do
  checkPath path
  let parent ← s.enter (names path).dropLast
  match (names path).getLast? with
  | none => return .entered
  | some "." => return .entered
  | some ".." => return .entered
  | some name => return .place (parent ++ [name])

/-- Refuses a place whose last name no store can have. -/
def checkLast (place : Place) : Except Fault Unit :=
  checkName (place.getLast?.getD "")

/-- Refuses a place at which a file does not take all bytes. -/
def checkRoom (s : Store) (place : Place) : Except Fault Unit :=
  refuse ((s.refusals.fill place).map Prod.snd)

/-- **Writes bytes into the file at a path.** A file that was there keeps its permissions, and a
new one is the process's own. -/
def put (s : Store) (path : String) (bytes : List UInt8) : Except Fault Store := do
  match ← s.target path with
  | .entered => throw .isADirectory
  | .place place =>
    if endsInSlash path then throw .isADirectory
    checkLast place
    match s.find? place with
    | some .directory => throw .isADirectory
    | some (.file mode _) =>
      refuse (s.refusals.overwrite place mode)
      s.checkRoom place
      return s.set place (.file mode bytes)
    | none =>
      refuse (s.refusals.create place)
      s.checkRoom place
      return (s.set place (.file fileMode bytes)).own place

/-- **Removes the file at a path.** -/
def remove (s : Store) (path : String) : Except Fault Store := do
  match ← s.target path with
  | .entered => throw .isADirectory
  | .place place =>
    checkLast place
    match s.find? place with
    | none => throw .notFound
    | some .directory => throw .isADirectory
    | some (.file ..) => if endsInSlash path then throw .notADirectory else return s.erase place

/-- Follows names from a place, and creates the directories that are not there. -/
def makeFrom (s : Store) (place : Place) (names : List String) : Except Fault Store :=
  match names with
  | [] => .ok s
  | name :: rest =>
    match s.step place name with
    | .ok next =>
      if rest.isEmpty && !s.isDirectory next then .error .alreadyExists
      else s.makeFrom next rest
    | .error .notFound =>
      (s.set (place ++ [name]) .directory).makeFrom (place ++ [name]) rest
    | .error fault => .error fault

/-- **Creates a directory**, and those that lead to it. -/
def makeDirectories (s : Store) (path : String) : Except Fault Store :=
  if path.isEmpty then
    .ok s
  else do
    checkPath path
    s.makeFrom [] (names path)

/-! ## Moving a new file into place -/

/-- A name that no place of a store contains: it is longer than every name that occurs. -/
def freshName (s : Store) : String :=
  let lengths := s.entries.entries.flatMap fun (place, _) => place.map String.length
  String.ofList (".tmp".toList ++ List.replicate (lengths.foldl max 0) 'p')

/-- Creates an empty file of a **fresh name** in a directory, and tells its place. -/
def createScratch (s : Store) (directory : List String) : Except Fault (Place × Store) := do
  let place := (← s.enter directory) ++ [s.freshName]
  refuse (s.refusals.create place)
  return (place, s.set place (.file scratchMode []))

/-- **Fills the new file at a place.** If it cannot hold all the bytes, it holds the first ones. -/
def fill (s : Store) (place : Place) (bytes : List UInt8) : Except Fault Unit × Store :=
  match s.refusals.fill place with
  | none => (.ok (), s.set place (.file scratchMode bytes))
  | some (n, fault) => (.error fault, s.set place (.file scratchMode (bytes.take n)))

/-- **Gives permissions to the file at a place.** -/
def permit (s : Store) (place : Place) (mode : Nat) : Except Fault Store := do
  refuse (s.refusals.permit place)
  match s.find? place with
  | some (.file _ bytes) => return s.set place (.file mode bytes)
  | _ => throw .notFound

/-- **Moves the file at a place to a path**, in place of the file that was there. It is the
process's own. -/
def rename (s : Store) (source : Place) (path : String) : Except Fault Store := do
  match ← s.target path with
  | .entered => throw .busy
  | .place place =>
    checkLast place
    if endsInSlash path then throw .notADirectory
    refuse (s.refusals.move place)
    match s.find? source, s.find? place with
    | none, _ => throw .notFound
    | _, some .directory => throw .isADirectory
    | some file, _ => return ((s.erase source).set place file).own place

end Scaffold.Store
