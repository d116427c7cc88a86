import Scaffold.SortedMap

/-!
# Discovery documents

A discovery document describes an API as a tree: resources hold methods, a method has an HTTP
verb, a path template and parameters. Only what the generation of handlers can show is kept.
Every field has an empty default, and a document is read as if absent fields had it.
-/

namespace Scaffold.Discovery

/-- A finite map from names. -/
abbrev NameMap (α : Type) := SortedMap String α

/-- A parameter of a method. -/
structure Parameter where
  /-- Name of the value's type, such as `string`. -/
  type : String := ""
  /-- Where a request carries the value, such as `path`. -/
  location : String := ""
  /-- Whether a request has to carry the value. -/
  required : Bool := false
  deriving Inhabited

/-- A method of a resource. -/
structure Method where
  /-- HTTP verb, such as `GET`. -/
  httpMethod : String := ""
  /-- The parameters by name. -/
  parameters : NameMap Parameter := .empty
  /-- Path template, in which a placeholder may stand for several segments. -/
  path : String := ""
  /-- Path template in which a placeholder stands within one segment. -/
  flatPath : Option String := none
  /-- Authorization scopes, any of which a caller needs. -/
  scopes : List String := []
  deriving Inhabited

/-- A named group of methods. -/
structure Resource where
  /-- The methods by name. -/
  methods : NameMap Method := .empty
  deriving Inhabited

/-- A discovery document. -/
structure Document where
  /-- Name of the API. -/
  name : String := ""
  /-- Version of the API. -/
  version : String := ""
  /-- Title for human readers. -/
  title : String := ""
  /-- The resources by name. -/
  resources : NameMap Resource := .empty
  deriving Inhabited

/-- The path template to serve: the **flat one if it is given** and not empty. -/
def Method.resolvedPath (m : Method) : String :=
  match m.flatPath with
  | some flat => if flat.isEmpty then m.path else flat
  | none => m.path

namespace Document

/-- Every method with the names of its resource and itself, in ascending order of both. -/
def methods (doc : Document) : List (String × String × Method) :=
  doc.resources.entries.flatMap fun (resource, r) =>
    r.methods.entries.map fun (name, m) => (resource, name, m)

/-- How many methods the document has. -/
def methodCount (doc : Document) : Nat :=
  doc.resources.entries.foldr (fun (_, r) n => r.methods.size + n) 0

end Document

end Scaffold.Discovery
