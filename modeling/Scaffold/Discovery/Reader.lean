import Scaffold.Discovery.Document
import Scaffold.Event
import Scaffold.Json.Lexer
import Scaffold.Json.Reader

/-!
# Reading discovery documents

The shapes of a document and its parts, as JSON records. Null stands for a field's default;
resources, methods and parameters are maps whose values must be records, and of several members
with one name the last counts.
-/

namespace Scaffold.Discovery

open Json (Reader text boolean orNull optional listOf mapOf record)

/-- A map from names to values of one shape. -/
def namesTo (r : Reader α) : Reader (NameMap α) :=
  mapOf .empty SortedMap.insert r

/-- A field with a default, for which null stands too. -/
def fieldOf (name : String) (blank : α) (r : Reader α) (put : σ → α → σ)
    (aliases : List String := []) : Json.Field σ where
  name := name
  aliases := aliases
  read s ts := (orNull blank r ts).map fun (a, rest) => (put s a, rest)

/-- The shape of a parameter. -/
def Parameter.reader : Reader Parameter :=
  record "Parameter" [
    fieldOf "type" "" text fun p v => { p with type := v },
    fieldOf "location" "" text fun p v => { p with location := v },
    fieldOf "required" false boolean fun p v => { p with required := v }] {}

/-- The shape of a method. -/
def Method.reader : Reader Method :=
  record "Method" [
    fieldOf "httpMethod" "" text fun m v => { m with httpMethod := v },
    fieldOf "parameters" .empty (namesTo Parameter.reader) fun m v => { m with parameters := v },
    fieldOf "path" "" text fun m v => { m with path := v },
    fieldOf "flatPath" none (optional text) fun m v => { m with flatPath := v },
    fieldOf "scopes" [] (listOf text) (fun m v => { m with scopes := v }) ["scope"]] {}

/-- The shape of a resource. -/
def Resource.reader : Reader Resource :=
  record "Resource" [
    fieldOf "methods" .empty (namesTo Method.reader) fun r v => { r with methods := v }] {}

/-- The shape of a document. -/
def Document.reader : Reader Document :=
  record "DiscoveryDocument" [
    fieldOf "name" "" text fun d v => { d with name := v },
    fieldOf "version" "" text fun d v => { d with version := v },
    fieldOf "title" "" text fun d v => { d with title := v },
    fieldOf "resources" .empty (namesTo Resource.reader) fun d v => { d with resources := v }] {}

/-- The document that a JSON text gives, or why it gives none. -/
def Document.decode (bytes : List UInt8) : Except Json.Failure Document :=
  Json.whole Document.reader (Json.tokens bytes)

/-- What `decode` reports if it succeeds. -/
def Document.decodeEvents (doc : Document) : List Event :=
  [.decoded doc.name doc.version doc.resources.size]

end Scaffold.Discovery
