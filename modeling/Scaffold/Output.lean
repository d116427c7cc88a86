import Scaffold.Error
import Scaffold.Event
import Scaffold.Store.Edit
import Scaffold.Text.Utf8

/-!
# Writing and checking output

Output is written to a scratch file beside its destination, and the scratch file is then moved
there, so that the destination never holds a part of it. If a step fails, the scratch file is
removed. Output is checked by comparing the destination with it.

## Main definitions

* `Output.install` - fills a scratch file and moves it to its destination.
* `Output.write` - replaces the file at a path.
* `Output.check` - compares the file at a path.
-/

namespace Scaffold.Output

/-- The names of the directory that encloses the destination. Single dots do not count. -/
def parentNames (path : String) : List String :=
  ((Store.names path).filter (· ≠ ".")).dropLast

/-- The path of the directory that encloses the destination. -/
def parentPath (path : String) : String :=
  match parentNames path with
  | [] => "."
  | names => String.intercalate "/" names

/-- Creates the scratch file for a destination. -/
def createScratch (s : Store) (path : String) : Except Store.Fault (Store.Place × Store) := do
  Store.checkPath (parentPath path)
  s.createScratch (parentNames path)

/-- Fills a scratch file, makes it readable for everyone, and moves it to its destination. On
failure it is left where it is. -/
def install (s : Store) (scratch : Store.Place) (path content : String) :
    Except (WriteStage × Store.Fault) Unit × Store :=
  match s.fill scratch (Text.Utf8.encode content.toList) with
  | (.error fault, s) => (.error (.fill (parentPath path), fault), s)
  | (.ok (), s) =>
    match s.permit scratch Store.fileMode with
    | .error fault => (.error (.permit, fault), s)
    | .ok s =>
      match s.rename scratch path with
      | .error fault => (.error (.move, fault), s)
      | .ok s => (.ok (), s)

/-- **Replaces the file at a path.** On failure the store is as it was. -/
def write (s : Store) (path content : String) : Except Error Unit × Store :=
  match createScratch s path with
  | .error fault => (.error (.write path (.create (parentPath path)) fault), s)
  | .ok (scratch, s) =>
    match install s scratch path content with
    | (.error (stage, fault), s) => (.error (.write path stage fault), s.erase scratch)
    | (.ok (), s) => (.ok (), s)

/-- What `write` reports if it succeeds. -/
def writeEvents (path content : String) : List Event :=
  [.replaced content.utf8ByteSize path]

/-- Compares the bytes of the file at a path with a text, or says why there is nothing to
compare. -/
def compare (path content : String) (found : Except Store.Fault (List UInt8)) :
    Except Error Unit :=
  match found with
  | .ok bytes =>
    match Text.Utf8.decode bytes with
    | some text => if String.ofList text = content then .ok () else .error (.stale path)
    | none => .error (.io .notUtf8)
  | .error .notFound => .error (.stale path)
  | .error fault => .error (.io fault)

/-- **Checks the file at a path.** It is stale if it is missing or holds another text. -/
def check (s : Store) (path content : String) : Except Error Unit :=
  compare path content (s.read path)

end Scaffold.Output
