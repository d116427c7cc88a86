import Scaffold.Discovery.Document
import Scaffold.Error
import Scaffold.Event
import Scaffold.Text.Uppercase

/-!
# Handler descriptors

Every method of a document gives one handler, described by its path, its verb and an
identifier. `enumerate` lists the descriptors of a document in ascending order of identifier.
It refuses a document in which a method has no name, or in which two methods, of one resource
or of two, give one identifier.
-/

namespace Scaffold.Handler

open Discovery (Document Method)

/-- What is generated for one method. -/
structure Descriptor where
  /-- Path template, which starts with a slash. -/
  path : String
  /-- HTTP verb as the document has it. -/
  httpMethod : String
  /-- Name of the resource followed by the capitalized name of the method. -/
  identifier : String
  deriving Repr, DecidableEq, Inhabited

/-- Name of the generated handler type. -/
def Descriptor.typeName (d : Descriptor) : String :=
  d.identifier ++ "Handler"

/-- Text with its first character in upper case. -/
def capitalized (s : String) : String :=
  String.ofList (Text.capitalize s.toList)

/-- The **identifier** of a method: the name of its resource as it is, and the name of the
method with its first character in upper case. -/
def identifierOf (resource method : String) : String :=
  resource ++ capitalized method

/-- A path that starts with a slash: the path itself if it does. -/
def rooted (path : String) : String :=
  if path.toList.head? = some '/' then path else "/" ++ path

/-- The descriptor of a method. -/
def describe (resource name : String) (m : Method) : Descriptor where
  path := rooted m.resolvedPath
  httpMethod := m.httpMethod
  identifier := identifierOf resource name

/-- The descriptors of all methods, in the order of the document. -/
def describeAll (doc : Document) : List Descriptor :=
  doc.methods.map fun (resource, name, m) => describe resource name m

/-- The first resource with a method whose name is empty. -/
def unnamed? (doc : Document) : Option String :=
  (doc.methods.find? fun (_, name, _) => name.isEmpty).map (·.1)

/-- The first identifier that two neighbours of a list share. -/
def repeated? (ds : List Descriptor) : Option String :=
  match ds with
  | a :: b :: rest => if a.identifier = b.identifier then some a.identifier
    else repeated? (b :: rest)
  | _ => none

/-- Descriptors in ascending order of identifier. -/
def sorted (ds : List Descriptor) : List Descriptor :=
  ds.mergeSort fun a b => a.identifier ≤ b.identifier

/-- The descriptors of a document in ascending order of identifier, or why there are none. -/
def enumerate (doc : Document) : Except DecodeError (List Descriptor) :=
  match unnamed? doc with
  | some resource => .error (.unnamedMethod resource)
  | none =>
    let ds := sorted (describeAll doc)
    match repeated? ds with
    | some identifier => .error (.duplicateIdentifier identifier)
    | none => .ok ds

/-- What `enumerate` reports: every method up to the first without a name. -/
def enumerateEvents (doc : Document) : List Event :=
  (doc.methods.takeWhile fun (_, name, _) => !name.isEmpty).map fun (resource, name, m) =>
    let d := describe resource name m
    .described d.httpMethod d.path d.identifier

end Scaffold.Handler
