import Scaffold.Config.Yaml
import Scaffold.Generation

/-!
# The command line

The arguments of the program and what it does with them: it generates the handlers of the
bundled document, with a configuration from a file if one is named. A failure of use has the
exit code 2, any other failure 1.

## Main definitions

* `CommandLine.parse` - the request that arguments make.
* `CommandLine.run` - the program on a store.
-/

namespace Scaffold.CommandLine

/-- What the program was asked to do with the bundled document. -/
structure Options where
  /-- Path of the configuration file. -/
  config : Option String := none
  /-- Destination of the source, in place of the configured one. -/
  output : Option String := none
  /-- Whether the source is printed. -/
  stdout : Bool := false
  /-- Whether the source is checked. -/
  check : Bool := false
  deriving Repr, DecidableEq

/-- What the arguments ask for. -/
inductive Request where
  | help
  | version
  | generate (options : Options)
  deriving Repr, DecidableEq

/-! ### Arguments -/

/-- Sets the path of the configuration file, which may be named once. -/
def Options.withConfig (o : Options) (path : String) : Option Options :=
  if o.config.isSome || path.isEmpty then none else some { o with config := some path }

/-- Sets the destination, which may be named once. -/
def Options.withOutput (o : Options) (path : String) : Option Options :=
  if o.output.isSome || path.isEmpty then none else some { o with output := some path }

/-- Sets a switch, which may be given once. -/
def Options.withSwitch (o : Options) (name : String) : Option Options :=
  match name with
  | "--stdout" => if o.stdout then none else some { o with stdout := true }
  | "--check" => if o.check then none else some { o with check := true }
  | _ => none

/-- What follows the name of an option and an equals sign in an argument. -/
def attached? (name argument : String) : Option String :=
  ((name.toList ++ ['=']).isPrefixOf? argument.toList).map String.ofList

/-- Whether an argument can be the value of the option in front of it. -/
def isValue (argument : String) : Bool :=
  argument.toList.head? ≠ some '-' || argument = "-"

/-- The request of an argument that answers at once, whatever follows it. -/
def immediate? (argument : String) : Option Request :=
  match argument.toList with
  | '-' :: 'h' :: _ => some .help
  | '-' :: 'V' :: _ => some .version
  | _ =>
    if argument = "--help" then some .help
    else if argument = "--version" then some .version
    else none

/-- The options after an argument that stands alone. -/
def Options.withArgument (o : Options) (argument : String) : Option Options :=
  match attached? "--config" argument, attached? "--output" argument with
  | some path, _ => o.withConfig path
  | none, some path => o.withOutput path
  | none, none => o.withSwitch argument

/-- Options whose switches do not contradict each other. -/
def Options.checked (o : Options) : Option Options :=
  if o.stdout && o.check then none else some o

/-- Reads arguments from the first to the last, with the options so far. -/
def parseFrom (o : Options) (arguments : List String) : Option Request :=
  match arguments with
  | [] => o.checked.map .generate
  | ["--"] => o.checked.map .generate
  | "--config" :: path :: rest =>
    if isValue path then (o.withConfig path).bind (parseFrom · rest) else none
  | "--output" :: path :: rest =>
    if isValue path then (o.withOutput path).bind (parseFrom · rest) else none
  | argument :: rest =>
    match immediate? argument with
    | some request => some request
    | none => (o.withArgument argument).bind (parseFrom · rest)

/-- The **request that arguments make**; `none` if they make none. -/
def parse (arguments : List String) : Option Request :=
  parseFrom {} arguments

/-! ### Texts -/

/-- The text that explains the arguments. -/
def helpText : String :=
  "CLI for generating HTTP handler scaffolding from API discovery documents\n\n"
    ++ "Usage: handlergen [OPTIONS]\n\n"
    ++ "Options:\n"
    ++ "      --config <CONFIG>  YAML configuration file\n"
    ++ "      --output <OUTPUT>  "
    ++ "Destination of the generated file (overrides the configuration)\n"
    ++ "      --stdout           Print the generated source instead of writing it\n"
    ++ "      --check            Fail if the generated file is missing or out of date\n"
    ++ "  -h, --help             Print help\n"
    ++ "  -V, --version          Print version\n"

/-- The text that names the program and its version. -/
def versionText : String := "handlergen 0.1.0\n"

/-- The wording of an error with what the program was doing. -/
def failureText (doing : String) (e : Error) : String :=
  ": ".intercalate (doing :: e.chain)

/-! ### The program -/

/-- What the program does with the source. -/
def Options.mode (o : Options) : Mode :=
  if o.check then .check else if o.stdout then .dryRun else .write

/-- A configuration with the destination that was asked for. -/
def Options.override (o : Options) (c : Config) : Config :=
  match o.output with
  | some path => { c with outputPath := some path }
  | none => c

/-- What a run of the program leaves behind, apart from files. -/
structure Outcome where
  /-- The exit code. -/
  code : Nat := 0
  /-- What was printed. -/
  stdout : String := ""
  /-- The error that was reported. -/
  error : Option String := none
  deriving Repr, DecidableEq

/-- The outcome of a wrong use. -/
def Outcome.misuse : Outcome :=
  { code := 2 }

/-- The outcome of a failure. -/
def Outcome.failure (text : String) : Outcome :=
  { code := 1, error := some text }

/-- What the program was doing when a configuration could not be loaded. -/
def loading (path : String) : String :=
  "Failed to load config from " ++ path

/-- What the program was doing when the source could not be generated. -/
def generating (home : String) (c : Config) : String :=
  "Failed to generate handlers for " ++ c.resolveOutput home

/-- The configuration that options name, or the wording of the failure. -/
def Options.loadConfig (o : Options) (s : Store) : Except String Config :=
  match o.config with
  | none => .ok (o.override {})
  | some path => ((Config.load s path).map o.override).mapError (failureText (loading path))

/-- Generates the handlers of the bundled document. -/
def generate (home : String) (o : Options) (s : Store) : Outcome × Store :=
  match o.loadConfig s with
  | .error text => (.failure text, s)
  | .ok c =>
    match Generated.run home c o.mode BigQuery.document s with
    | (.error e, s) => (.failure (failureText (generating home c) e), s)
    | (.ok g, s) => ({ stdout := if o.mode = .dryRun then g.source else "" }, s)

/-- The **program**: its outcome and the store after it. -/
def run (home : String) (arguments : List String) (s : Store) : Outcome × Store :=
  match parse arguments with
  | none => (.misuse, s)
  | some .help => ({ stdout := helpText }, s)
  | some .version => ({ stdout := versionText }, s)
  | some (.generate o) => generate home o s

end Scaffold.CommandLine
