import Scaffold.Emit
import Scaffold.Proofs.Source.Lexing

/-!
# The tree of generated source

What generated source says, as a syntax tree, given the path of the trait and the handlers: it
imports the trait and declares the type of the table's entries, the table, the assertions and one
type for each handler. Nothing of how the source is spelled or laid out is left in it.

## Main definitions

* `Name.ofSpelling` - the name that a spelling stands for, raw or plain.
* `isIdentifier`, `TraitPath` - which names and paths may be put into the template.
* `tree` - the tree of generated source.
-/

namespace Scaffold.Source.Name

/-- The **name that a spelling stands for**. -/
def ofSpelling (cs : List Char) : Name :=
  match cs with
  | 'r' :: '#' :: text => ⟨true, text⟩
  | text => ⟨false, text⟩

/-- A spelling is the spelling of the name that it stands for. -/
theorem spelling_ofSpelling (cs : List Char) : (ofSpelling cs).spelling = cs := by
  unfold ofSpelling
  split <;> rfl

end Scaffold.Source.Name

namespace Scaffold.Emit

open Handler (Descriptor)
open Source

/-! ### What is put into the template -/

/-- Whether a name is an **identifier** of the target language. -/
def isIdentifier (n : Name) : Bool :=
  n.isSpelled && n.isIdentifier

/-- Whether a name may stand in a path in front of the last one: an identifier, or one of the
words that lead out of the module. -/
def isStep (n : Name) : Bool :=
  n.isSpelled && (n.isIdentifier || ["crate", "self", "super"].any fun w => n.isWord w)

/-- The **path of a trait**: steps that lead to it, and its name. -/
structure TraitPath where
  steps : List Name
  name : Name
  areSteps : steps.all isStep = true
  isNamed : isIdentifier name = true

/-- A path as it is spelled, its names joined by colons. -/
def TraitPath.spelling (p : TraitPath) : List Char :=
  p.steps.flatMap (fun n => n.spelling ++ [':', ':']) ++ p.name.spelling

/-- The name of the type of a handler. -/
def typeOf (d : Descriptor) : Name :=
  .ofSpelling d.typeName.toList

/-! ### The tree -/

/-- A path of one name. -/
def pathOf (name : String) : Path :=
  .ofName (.ofString name)

/-- The import of a path. -/
def importTree (steps : List Name) (name : Name) : UseTree :=
  match steps with
  | [] => .name name
  | n :: rest => .path n (importTree rest name)

/-- The attribute that allows types in lower case. -/
def allowance : Attribute :=
  ⟨true, ⟨false, [.ofString "allow"]⟩, .tokens .paren [.name (.ofString "non_camel_case_types")]⟩

/-- The import of the trait. -/
def importItem (p : TraitPath) : Item :=
  .mk [] .inherited (.use false (importTree p.steps p.name))

/-- A type behind a reference that lasts for the whole run. -/
def lasting (t : TypeTerm) : TypeTerm :=
  .reference (some (.ofString "static")) false t

/-- The bounds that a handler has to satisfy: the trait, and that it may be shared. -/
def bounds (t : Name) : List Bound :=
  [.trait false false (.ofName t), .trait false false (pathOf "Sync")]

/-- A field of an entry. -/
def field (name : String) (t : TypeTerm) : Field :=
  ⟨[], .everyone, some (.ofString name), t⟩

/-- The fields of an entry. -/
def fields (t : Name) : List Field := [
  field "path" (lasting (.path (pathOf "str"))),
  field "http_method" (lasting (.path (pathOf "str"))),
  field "handler" (lasting (.enclosed (.object (bounds t))))]

/-- The declaration of the **type of the entries**. -/
def handlerItem (t : Name) : Item :=
  .mk [] .everyone (.record (.ofString "Handler") {} (.named (fields t)))

/-- The **entry of a handler**: its path and verb as texts, and a value of its type. -/
def entryTree (d : Descriptor) : Expr :=
  .record (pathOf "Handler") [
    .full (.ofString "path") (.literal (.quoted d.path.toList)),
    .full (.ofString "http_method") (.literal (.quoted d.httpMethod.toList)),
    .full (.ofString "handler") (.reference false (.record (.ofName (typeOf d)) []))]

/-- The declaration of the **table**, one entry for each handler in their order. -/
def tableItem (handlers : List Descriptor) : Item :=
  .mk [] .everyone (.static false (.ofString "HANDLERS")
    (.reference none false (.slice (.path (pathOf "Handler"))))
    (.reference false (.array (handlers.map entryTree))))

/-- The function whose calls assert that a type implements the trait and may be shared. -/
def assertingItem (t : Name) : Item :=
  .mk [] .inherited (.function
    { qualifiers := []
      name := .ofString "assert_handler"
      generics := { parameters := [.type (.ofString "T") (bounds t) none] }
      parameters := []
      result := none } [])

/-- The **assertion of a handler**: a call of that function at its type. -/
def assertionTree (d : Descriptor) : Statement :=
  .expression (.call (.path (.mk false
    [.mk (.ofString "assert_handler") [.type (.path (.ofName (typeOf d)))]])) []) true

/-- The constant in whose value the assertions stand, one for each handler in their order. -/
def assertionsItem (t : Name) (handlers : List Descriptor) : Item :=
  .mk [] .inherited (.constant (.ofString "_") (.procedure [])
    (.closure [] (.declaration (assertingItem t) :: handlers.map assertionTree)))

/-- The declaration of the **type of a handler**, which is empty. -/
def declarationItem (d : Descriptor) : Item :=
  .mk [] .everyone (.record (typeOf d) {} (.named []))

/-- The **tree of generated source**. -/
def tree (p : TraitPath) (handlers : List Descriptor) : File where
  shebang := none
  attributes := [allowance]
  items := importItem p :: handlerItem p.name :: tableItem handlers ::
    assertionsItem p.name handlers :: handlers.map declarationItem

end Scaffold.Emit
