import ToolGate.Program

/-!
# The command line

The outermost layer: it takes the arguments and the environment, reads the
files that the request names, and prints what the program answers.
-/

namespace ToolGate

/-- The environment variable that holds credentials. -/
def credentialsVariable : String := "MCP_HIVE_CREDENTIALS"

/-- Read a file. -/
def readPath (path : String) : IO (Except FileFault String) := do
  try
    return .ok (← IO.FS.readFile path)
  catch
    | .noFileOrDirectory .. => return .error .missing
    | .inappropriateType .. => return .error .directory
    | error => return .error (.other (toString error))

/-- Read the files of a request. -/
def readPaths (arguments : List String) : IO (List (String × Except FileFault String)) :=
  match CommandLine.Request.read none arguments with
  | .error _ => return []
  | .ok request =>
      (Program.filesNeeded request).mapM fun path => return (path, ← readPath path)

end ToolGate

open ToolGate in
/-- Run the program. -/
def main (arguments : List String) : IO UInt32 := do
  let contents ← readPaths arguments
  let files : Files := fun path => (contents.lookup path).getD (.error .missing)
  let outcome := Program.run (← IO.getEnv credentialsVariable) files arguments
  IO.print outcome.output
  IO.eprint outcome.report
  return outcome.exitCode.toUInt32
