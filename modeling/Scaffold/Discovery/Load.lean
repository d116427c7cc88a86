import Scaffold.Discovery.Reader
import Scaffold.Error
import Scaffold.Store.Basic

/-!
# Loading discovery documents

A document from a file of a store. If the file is not a document, the error names its path.
-/

namespace Scaffold.Discovery

/-- The **document in the file at a path**. -/
def Document.load (s : Store) (path : String) : Except Error Document := do
  let bytes ← (s.read path).mapError .io
  (decode bytes).mapError fun failure => .decode (.inFile path (.json failure))

end Scaffold.Discovery
