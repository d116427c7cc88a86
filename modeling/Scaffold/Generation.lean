import Scaffold.BigQuery.Document
import Scaffold.Discovery.Reader
import Scaffold.Emit
import Scaffold.Output

/-!
# Generation

From a document and a configuration to generated source at its destination: the handlers are
enumerated, their source is emitted, and it is written, checked or only returned. Nothing is
done to the store before the source is complete, so that all modes fail alike up to there.

## Main definitions

* `Generated.plan` - the source and its destination, without a store.
* `Generated.run` - a generation run on a store.
-/

namespace Scaffold

/-- What is done with generated source. -/
inductive Mode where
  /-- It replaces the file at its destination. -/
  | write
  /-- It is compared with the file at its destination. -/
  | check
  /-- It is only returned. -/
  | dryRun
  deriving Repr, DecidableEq, Inhabited

/-- The result of a generation run. -/
structure Generated where
  /-- Destination of the source. -/
  path : String
  /-- The formatted source. -/
  source : String
  /-- How many handlers the source has. -/
  handlerCount : Nat
  deriving Repr, DecidableEq

namespace Generated

open Discovery (Document)

/-- The formatted source for a document with its **destination**, or why there is none. The
library's own sources lie in `home`. -/
def plan (home : String) (config : Config) (doc : Document) : Except Error Generated := do
  let handlers ← (Handler.enumerate doc).mapError .decode
  let source ← Emit.emit config handlers
  return ⟨config.resolveOutput home, source, handlers.length⟩

/-- What `plan` reports. -/
def planEvents (config : Config) (doc : Document) : List Event :=
  Handler.enumerateEvents doc ++
    match Handler.enumerate doc with
    | .ok handlers =>
      .enumerated handlers.length doc.resources.size :: Emit.events config handlers
    | .error _ => []

/-- Does with generated source what a mode says. -/
def deliver (mode : Mode) (g : Generated) (s : Store) : Except Error Unit × Store :=
  match mode with
  | .write => Output.write s g.path g.source
  | .check => (Output.check s g.path g.source, s)
  | .dryRun => (.ok (), s)

/-- What `deliver` reports if it succeeds. -/
def deliverEvents (mode : Mode) (g : Generated) : List Event :=
  match mode with
  | .write => Output.writeEvents g.path g.source ++ [.wrote g.path]
  | .check => [.upToDate g.path]
  | .dryRun => []

/-- A **generation run**: its result and the store after it. -/
def run (home : String) (config : Config) (mode : Mode) (doc : Document) (s : Store) :
    Except Error Generated × Store :=
  match plan home config doc with
  | .error e => (.error e, s)
  | .ok g =>
    match g.deliver mode s with
    | (.ok (), s) => (.ok g, s)
    | (.error e, s) => (.error e, s)

/-- What `run` reports. -/
def runEvents (home : String) (config : Config) (mode : Mode) (doc : Document) (s : Store) :
    List Event :=
  planEvents config doc ++
    match (run home config mode doc s).1 with
    | .ok g => g.deliverEvents mode
    | .error _ => []

end Generated

/-- What the loading of the bundled document reports. -/
def BigQuery.loadEvents : List Event :=
  Discovery.Document.decodeEvents BigQuery.document ++ [.loaded BigQuery.document.title BigQuery.document.version]

end Scaffold
