import Scaffold.Error
import Scaffold.Text.Blank
import Scaffold.Text.Split

/-!
# Configuration

Where the generated source goes, and which trait its handlers must implement. The trait is
given by its path; its name is what stands behind the last `::` of the path.
-/

namespace Scaffold

/-- The configuration of a run. -/
structure Config where
  /-- Destination of the generated source, if it is not the usual one. -/
  outputPath : Option String := none
  /-- Path of the trait that every handler must implement. -/
  handlerTrait : String := "crate::HttpHandler"
  deriving Repr, DecidableEq, Inhabited

namespace Config

/-- What stands behind the last `::` of a text, of several that overlap the rightmost. -/
def afterSeparator? (cs : List Char) : Option (List Char) :=
  match cs with
  | [] => none
  | c :: rest =>
    match afterSeparator? rest with
    | some name => some name
    | none => if [':', ':'].isPrefixOf (c :: rest) then some (rest.drop 1) else none

/-- What stands behind the last `::` of a text; all of it if there is none. -/
def lastSegment (cs : List Char) : List Char :=
  (afterSeparator? cs).getD cs

/-- **Name of the trait**: what stands behind the last `::` of its path, without white space. -/
def traitName (config : Config) : String :=
  String.ofList (Text.trim (lastSegment config.handlerTrait.toList))

/-- Refuses a configuration whose trait has no name. -/
def validate (config : Config) : Except Error Unit :=
  if config.traitName.isEmpty then .error (.config config.handlerTrait) else .ok ()

/-- Where the library's own sources lie within the repository. -/
def sourceDirectory : List String :=
  ["crates", "handlergen-core"]

/-- Where the generated source lies within the repository. -/
def outputFile : List String :=
  ["crates", "handlergen-server", "src", "handler_gen.rs"]

/-- The **root of the repository**, told from the directory of the library's own sources: the
directory that encloses them at their usual place, and the directory itself elsewhere. -/
def repositoryRoot (home : String) : String :=
  let parts := (Text.split '/' home.toList).map String.ofList
  match sourceDirectory.isSuffixOf? parts with
  | some root => String.intercalate "/" root
  | none => home

/-- The usual destination of the generated source. -/
def defaultOutput (home : String) : String :=
  String.intercalate "/" (repositoryRoot home :: outputFile)

/-- The destination of the generated source. -/
def resolveOutput (home : String) (config : Config) : String :=
  config.outputPath.getD (defaultOutput home)

end Config

end Scaffold
