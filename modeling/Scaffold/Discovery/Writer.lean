import Scaffold.Discovery.Document
import Scaffold.Json.Value

/-!
# Writing discovery documents

A document as a JSON value with all its fields, in the order in which the types declare them.
-/

namespace Scaffold.Discovery

/-- A map from names as an object. -/
def namesToJson (value : α → Json.Value) (m : NameMap α) : Json.Value :=
  .object (m.entries.map fun (name, a) => (name, value a))

/-- A parameter as an object. -/
def Parameter.toJson (p : Parameter) : Json.Value :=
  .object [("type", .text p.type), ("location", .text p.location),
    ("required", .boolean p.required)]

/-- A method as an object. -/
def Method.toJson (m : Method) : Json.Value :=
  .object [("httpMethod", .text m.httpMethod),
    ("parameters", namesToJson Parameter.toJson m.parameters),
    ("path", .text m.path),
    ("flatPath", m.flatPath.elim .null .text),
    ("scopes", .list (m.scopes.map .text))]

/-- A resource as an object. -/
def Resource.toJson (r : Resource) : Json.Value :=
  .object [("methods", namesToJson Method.toJson r.methods)]

/-- A document as an object. -/
def Document.toJson (d : Document) : Json.Value :=
  .object [("name", .text d.name), ("version", .text d.version), ("title", .text d.title),
    ("resources", namesToJson Resource.toJson d.resources)]

/-- The JSON text of a document. -/
def Document.encode (d : Document) : String :=
  d.toJson.render

end Scaffold.Discovery
