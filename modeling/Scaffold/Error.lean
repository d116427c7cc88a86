import Scaffold.Json.Failure
import Scaffold.Store.Fault

/-!
# Errors of a generation run

The causes for which a run fails, each with its wording. A cause may have another one behind
it; `Error.chain` lists the wordings from the outermost to the innermost.
-/

namespace Scaffold

/-- Why a document cannot be used. -/
inductive DecodeError where
  /-- The text is not the JSON of a document. -/
  | json (failure : Json.Failure)
  /-- A resource has a method whose name is empty. -/
  | unnamedMethod (resource : String)
  /-- Two methods give one identifier. -/
  | duplicateIdentifier (identifier : String)
  /-- The document in a file cannot be used. -/
  | inFile (path : String) (cause : DecodeError)
  deriving Repr, DecidableEq

/-- Where writing a file failed. -/
inductive WriteStage where
  /-- Creating the scratch file in a directory. -/
  | create (directory : String)
  /-- Filling the scratch file in a directory. -/
  | fill (directory : String)
  /-- Making the scratch file readable for everyone. -/
  | permit
  /-- Moving the scratch file to its destination. -/
  | move
  deriving Repr, DecidableEq

/-- Why a run fails. -/
inductive Error where
  | decode (cause : DecodeError)
  /-- The value of `handler_trait` ends in no name. -/
  | config (handlerTrait : String)
  /-- The rendered source does not parse. -/
  | format
  /-- A configuration file is not the YAML of a configuration. -/
  | yaml
  | io (fault : Store.Fault)
  | write (path : String) (stage : WriteStage) (fault : Store.Fault)
  /-- The file at a path does not hold the generated source. -/
  | stale (path : String)
  deriving Repr, DecidableEq

/-- The wording of a decode error, without its kind. -/
def DecodeError.detail (e : DecodeError) : String :=
  match e with
  | .json failure => failure.message
  | .unnamedMethod resource =>
    "resource '" ++ resource ++ "' declares a method with an empty name"
  | .duplicateIdentifier identifier => "duplicate handler identifier '" ++ identifier ++ "'"
  | .inFile path cause =>
    "Failed to parse discovery document at " ++ path ++ ": Decode error: " ++ cause.detail

/-- What the wording of a fault says of the scratch file's directory. -/
def WriteStage.location (stage : WriteStage) : String :=
  match stage with
  | .create directory | .fill directory => " at path \"" ++ directory ++ "\""
  | .permit | .move => ""

namespace Error

/-- The wording of an error. -/
def message (e : Error) : String :=
  match e with
  | .decode cause => "Decode error: " ++ cause.detail
  | .config handlerTrait =>
    "Configuration error: handler_trait '" ++ handlerTrait ++ "' does not name a trait"
  | .format => "Format error: rendered source is not valid Rust: unexpected token"
  | .yaml => "YAML parsing error: not a configuration"
  | .io fault => "I/O error: " ++ fault.message
  | .write path _ _ => "Failed to write '" ++ path ++ "'"
  | .stale path => "Generated file is out of date: " ++ path

/-- The wordings of an error and of what is behind it, the outermost first. -/
def chain (e : Error) : List String :=
  match e with
  | .io fault => [e.message, fault.message]
  | .write _ stage fault => [e.message, fault.message ++ stage.location]
  | e => [e.message]

end Error

end Scaffold
