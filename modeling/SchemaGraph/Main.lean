import SchemaGraph.Command.Run

/-!
# The command line program

The outer layer of the program: it reads the files that a command asks for, runs the command on
them, and does what the outcome says.
-/

namespace SchemaGraph

/-- The variable of the environment that holds the path of the configuration. -/
def configVariable : String := "TYPEGRAPH_CONFIG"

/-- The number of an error, which is given as it is or negated. -/
def errorNumber (code : UInt32) : Nat :=
  (if code.toInt32 < 0 then -code else code).toNat

/-- The reason with a number, if a folder of text files gives it. -/
def FileError.ofNumber? (number : Nat) : Option FileError :=
  [notFound, alreadyExists, notADirectory, isADirectory, nameTooLong].find? fun error =>
    error.code = number

/-- The reason that an operating system gives. -/
def FileError.ofSystem : IO.Error → FileError
  | .noFileOrDirectory _ _ _ => .notFound
  | .alreadyExists _ _ _ => .alreadyExists
  | .inappropriateType _ code details | .invalidArgument _ code details =>
      (ofNumber? (errorNumber code)).getD (.other (errorNumber code) "Uncategorized" details)
  | .permissionDenied _ code details => .other (errorNumber code) "PermissionDenied" details
  | error => .other 0 "Other" (toString error)

/-- The result of an action, or why an operating system refuses it. -/
def attempt {α : Type} (action : IO α) : ExceptT FileError IO α :=
  ExceptT.mk do
    try
      let value ← action
      pure (.ok value)
    catch error => pure (.error (.ofSystem error))

/-- The text of a file, or why it cannot be read. -/
def readText (path : String) : IO (Except FileError String) :=
  (attempt (IO.FS.readFile path)).run

/-- Create a folder unless there is one, which the attempt to read it as a file tells. -/
def createFolder (start : String) (outer : List String) (name : String) :
    ExceptT FileError IO Unit := do
  let path := start ++ "/".intercalate (outer ++ [name])
  try
    attempt (IO.FS.createDir path)
  catch error =>
    let read ← ExceptT.lift (readText path)
    unless read matches .error .isADirectory do throw error

/-- Write a file and create the folders around it. -/
def writeText (path text : String) : ExceptT FileError IO Unit := do
  Path.createAround (createFolder (if Path.isAbsolute path then "/" else "")) path
  attempt (IO.FS.writeFile path text)

/-- Do what an outcome says, and give its exit status. -/
def perform (outcome : Outcome) : IO UInt32 := do
  let outcome ← match outcome.written with
    | none => pure outcome
    | some (path, text) => do
        match ← (writeText path text).run with
        | .ok _ => pure outcome
        | .error error => pure (.writeFailed error)
  IO.print outcome.printed
  IO.eprint outcome.complaint
  pure outcome.status.toUInt32

/-- Run a command on the files that it names. -/
def execute (command : Command) : IO UInt32 := do
  let paths := command.config.toList ++ [command.input.path]
  let texts ← paths.mapM fun path => do
    let text ← readText path
    pure (path, text)
  perform (command.run fun path => (texts.lookup path).getD (.error .notFound))

end SchemaGraph

/-- Run the command line. -/
def main (arguments : List String) : IO UInt32 := do
  let environment ← IO.getEnv SchemaGraph.configVariable
  match SchemaGraph.Command.parse? environment arguments with
  | some command => SchemaGraph.execute command
  | none => do
      IO.eprintln "usage: (inspect | check) DOCUMENT [options]"
      pure SchemaGraph.usageStatus.toUInt32
