import Scaffold.CommandLine

/-!
# The program

The command line on real files. What to do, and what every failure means, is decided by
`CommandLine`, `Config`, `Generated` and `Output`; here files are only read, written and moved.
The program is run at the root of the repository.
-/

namespace Scaffold.Program

open CommandLine (Options Request)

/-- The fault that an error of the file system is, if it is one that has a wording. -/
def fault? (e : IO.Error) : Option Store.Fault :=
  match e with
  | .noFileOrDirectory .. => some .notFound
  | .alreadyExists .. => some .alreadyExists
  | .resourceBusy .. => some .busy
  | .inappropriateType _ code _ => some (if code = 20 then .notADirectory else .isADirectory)
  | .invalidArgument _ code _ => if code = 36 then some .nameTooLong else none
  | .permissionDenied _ code _ =>
    if code = 13 then some .permissionDenied else if code = 30 then some .readOnly else none
  | .resourceExhausted _ code _ => if code = 28 then some .storageFull else none
  | _ => none

/-- The result of an action on files, or its fault. -/
def attempt (act : IO α) : IO (Except Store.Fault α) := do
  try
    return .ok (← act)
  catch e =>
    match fault? e with
    | some fault => return .error fault
    | none => throw e

/-- The bytes of a file. -/
def readFile (path : String) : IO (Except Store.Fault (List UInt8)) := do
  return (← attempt (IO.FS.readBinFile path)).map (·.toList)

/-- A stage of a write, or where and for what it fails. -/
def atStage (stage : WriteStage) (act : IO Unit) : ExceptT (WriteStage × Store.Fault) IO Unit := do
  match ← attempt act with
  | .ok () => return ()
  | .error fault => throw (stage, fault)

/-- Fills a scratch file, makes it readable for everyone, and moves it to its destination. -/
def install (file : IO.FS.Handle) (scratch path content : String) :
    ExceptT (WriteStage × Store.Fault) IO Unit := do
  atStage (.fill (Output.parentPath path)) do
    file.putStr content
    file.flush
  atStage .permit do
    IO.setAccessRights scratch
      { user := { read := true, write := true }, group := { read := true },
        other := { read := true } }
  atStage .move (IO.FS.rename scratch path)

/-- Replaces a file by way of a scratch file beside it. -/
def writeFile (path content : String) : IO (Except Error Unit) := do
  let directory := Output.parentPath path
  let scratch := directory ++ "/.tmp" ++ toString (← IO.rand 0 (1000000000000))
  match ← attempt (IO.FS.Handle.mk scratch .writeNew) with
  | .error fault => return .error (.write path (.create directory) fault)
  | .ok file =>
    match ← (install file scratch path content).run with
    | .ok () => return .ok ()
    | .error (stage, fault) =>
      IO.FS.removeFile scratch
      return .error (.write path stage fault)

/-- Does with generated source what a mode says. -/
def deliver (mode : Mode) (g : Generated) : IO (Except Error Unit) := do
  match mode with
  | .write => writeFile g.path g.source
  | .check => return Output.compare g.path g.source (← readFile g.path)
  | .dryRun =>
    IO.print g.source
    return .ok ()

/-- The configuration that options name. -/
def loadConfig (o : Options) : IO (Except Error Config) := do
  match o.config with
  | none => return .ok {}
  | some path => return ((← readFile path).mapError .io).bind Config.ofBytes

/-- Reports a failure, and gives its exit code. -/
def fail (doing : String) (e : Error) : IO UInt32 := do
  IO.eprintln (CommandLine.failureText doing e)
  return 1

/-- Generates the handlers of the bundled document. -/
def generate (o : Options) : IO UInt32 := do
  let home := "/".intercalate ((← IO.currentDir).toString :: Config.sourceDirectory)
  match ← loadConfig o with
  | .error e => fail (CommandLine.loading (o.config.getD "")) e
  | .ok c =>
    let c := o.override c
    match Generated.plan home c BigQuery.document with
    | .error e => fail (CommandLine.generating home c) e
    | .ok g =>
      match ← deliver o.mode g with
      | .error e => fail (CommandLine.generating home c) e
      | .ok () => return 0

/-- Answers a request. -/
def answer (r : Request) : IO UInt32 := do
  match r with
  | .help =>
    IO.print CommandLine.helpText
    return 0
  | .version =>
    IO.print CommandLine.versionText
    return 0
  | .generate o => generate o

end Scaffold.Program

/-- Runs the program on its arguments. -/
def main (arguments : List String) : IO UInt32 := do
  match Scaffold.CommandLine.parse arguments with
  | some r => Scaffold.Program.answer r
  | none =>
    IO.eprintln Scaffold.CommandLine.helpText
    return 2
