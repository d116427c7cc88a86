import Scaffold.Config
import Scaffold.Handler.Descriptor
import Scaffold.Text.Quoted

/-!
# The template of generated source

The generated source imports the trait, declares the type of the table's entries, and has for
each handler an entry of the table, an assertion that the handler implements the trait, and the
declaration of its type. Names are put in as they are, paths and verbs in quotes.

## Main definitions

* `Template.render` - the source for a list of handlers, not yet formatted.
-/

namespace Scaffold.Template

open Handler (Descriptor)

/-- The mark of a generated file, on its first line. -/
def mark : String :=
  "// Code generated by handlergen. DO NOT EDIT!"

/-- What the template takes from a configuration. -/
structure Trait where
  /-- The path by which the trait is imported. -/
  path : String
  /-- Its name. -/
  name : String
  deriving Repr, DecidableEq

/-- The trait that a configuration names. -/
def Trait.ofConfig (config : Config) : Trait where
  path := Text.trimmed config.handlerTrait
  name := config.traitName

/-- The lines in front of the entries of the table. -/
def head (t : Trait) : String :=
  mark ++ "\n\n#![allow(non_camel_case_types)]\n\nuse " ++ t.path ++ ";\n\n"
    ++ "pub struct Handler \x7b\n"
    ++ "    pub path: &'static str,\n"
    ++ "    pub http_method: &'static str,\n"
    ++ "    pub handler: &'static (dyn " ++ t.name ++ " + Sync),\n"
    ++ "\x7d\n\npub static HANDLERS: &[Handler] = &["

/-- The entry of a handler in the table. -/
def entry (d : Descriptor) : String :=
  "\n    Handler \x7b\n        path: " ++ Text.quote d.path
    ++ ",\n        http_method: " ++ Text.quote d.httpMethod
    ++ ",\n        handler: &" ++ d.typeName ++ " \x7b\x7d,\n    \x7d,"

/-- The lines between the entries and the assertions. -/
def middle (t : Trait) : String :=
  "\n];\n\nconst _: fn() = || \x7b\n    fn assert_handler<T: " ++ t.name ++ " + Sync>() \x7b\x7d"

/-- The assertion that a handler implements the trait. -/
def assertion (d : Descriptor) : String :=
  "\n    assert_handler::<" ++ d.typeName ++ ">();"

/-- The declaration of the type of a handler. -/
def declaration (d : Descriptor) : String :=
  "\npub struct " ++ d.typeName ++ " \x7b\x7d\n"

/-- The **source for a list of handlers**, not yet formatted. -/
def render (t : Trait) (handlers : List Descriptor) : String :=
  head t ++ String.join (handlers.map entry) ++ middle t ++ String.join (handlers.map assertion)
    ++ "\n\x7d;\n" ++ String.join (handlers.map declaration) ++ "\n"

end Scaffold.Template
