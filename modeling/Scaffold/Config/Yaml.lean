import Scaffold.Config
import Scaffold.Store.Edit
import Scaffold.Text.Utf8
import Scaffold.Yaml.Node.Reader
import Scaffold.Yaml.Scalar.Meaning
import Scaffold.Yaml.Token.Lexer
import Scaffold.Yaml.Writer

/-!
# Configuration files

A configuration as a YAML mapping. Every scalar is text for the trait; a plain spelling of null
means that there is no output path. Unknown keys are ignored, and a text without a document is
the default configuration.

## Main definitions

* `Config.decode`, `Config.encode` - a configuration from and to the text of a file.
* `Config.load`, `Config.save` - a configuration from and to a file of a store.
-/

namespace Scaffold.Config

open Yaml (Node Scalar)

/-- The key of the output path. -/
def outputKey : String := "output_path"

/-- The key of the trait. -/
def traitKey : String := "handler_trait"

/-! ### Reading -/

/-- The text of a scalar. -/
def text? (node : Node) : Option (List Char) :=
  match node with
  | .scalar s => some s.text
  | _ => none

/-- The tag of nulls. -/
def nullTag : List Char := "tag:yaml.org,2002:null".toList

/-- The text of a scalar, or `some none` for a null. What is tagged as a null must be one. -/
def optionalText? (node : Node) : Option (Option (List Char)) :=
  match node with
  | .scalar ⟨.plain, none, text⟩ =>
    some (if text.isEmpty || Yaml.isNull text then none else some text)
  | .scalar ⟨.plain, some tag, text⟩ =>
    if tag = nullTag then if Yaml.isNull text then some none else none
    else some (some text)
  | .scalar s => some (some s.text)
  | _ => none

/-- The fields of a configuration that were read. -/
structure Fields where
  /-- The output path. -/
  output : Option (Option (List Char)) := none
  /-- The trait. -/
  handlerTrait : Option (List Char) := none
  deriving Repr, DecidableEq

/-- Reads one entry of the mapping. No field may occur twice. -/
def Fields.read (f : Fields) (key value : Node) : Option Fields := do
  let name ← text? key
  if name = outputKey.toList then
    if f.output.isSome then none else (optionalText? value).map ({ f with output := some · })
  else if name = traitKey.toList then
    if f.handlerTrait.isSome then none
    else (text? value).map ({ f with handlerTrait := some · })
  else
    some f

/-- Reads the entries of the mapping. -/
def Fields.readAll (f : Fields) (entries : List (Node × Node)) : Option Fields :=
  match entries with
  | [] => some f
  | (key, value) :: rest => (f.read key value).bind (·.readAll rest)

/-- The configuration that fields give. -/
def ofFields (f : Fields) : Config where
  outputPath := f.output.join.map String.ofList
  handlerTrait := f.handlerTrait.elim ({} : Config).handlerTrait String.ofList

/-- The configuration that a document gives. -/
def ofNode? (document : Option Node) : Option Config :=
  match document with
  | none => some {}
  | some (.scalar ⟨.plain, _, []⟩) => some {}
  | some (.mapping entries) => (Fields.readAll {} entries).map ofFields
  | some _ => none

/-- The **configuration of a text**; `none` if it does not give one. -/
def decode (cs : List Char) : Option Config :=
  ((Yaml.tokens? cs).bind Yaml.Document.ofTokens?).bind ofNode?

/-- The configuration of the bytes of a file, with a trait that has a name. -/
def ofBytes (bytes : List UInt8) : Except Error Config :=
  match Text.Utf8.decode bytes with
  | none => .error (.io .notUtf8)
  | some cs =>
    match decode cs with
    | none => .error .yaml
    | some config => config.validate.map fun () => config

/-- The **configuration in the file at a path**. -/
def load (s : Store) (path : String) : Except Error Config :=
  ((s.read path).mapError .io).bind ofBytes

/-! ### Writing -/

/-- The **text of a configuration**. -/
def encode (config : Config) : List Char :=
  Yaml.writeMapping [
    (outputKey.toList, config.outputPath.map String.toList),
    (traitKey.toList, some config.handlerTrait.toList)]

/-- Writes a configuration into the file at a path. -/
def save (s : Store) (path : String) (config : Config) : Except Error Store :=
  (s.put path (Text.Utf8.encode config.encode)).mapError .io

end Scaffold.Config
