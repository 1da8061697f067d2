import DryRun.CommandLine.Commands

/-!
# The program

It looks up the paths that the arguments name, asks for the response, and prints and waits as the
response says. A record is shown with its level in front.
-/

set_option autoImplicit false

namespace DryRun.CommandLine

/-- What a path leads to in the file system. -/
def lookUp (path : String) : IO Entry := do
  match ← (IO.FS.readBinFile path).toBaseIO with
  | .ok bytes => return .file bytes.toList
  | .error (.inappropriateType ..) => return .directory
  | .error _ => return .absent

def perform : Effect Text → IO Unit
  | .output s => IO.println (String.ofList s)
  | .record level message => IO.println (level.name ++ " " ++ String.ofList message)
  | .wait seconds => IO.sleep (seconds * 1000).toUInt32

/-- Answer the arguments and tell the exit code. -/
def run (arguments : List Text) : IO UInt32 := do
  let entries ← (pathsOf arguments).mapM fun path => do
    return (path, ← lookUp (String.ofList path))
  let response := respond (fun path => (entries.lookup path).getD .absent) arguments
  response.effects.forM perform
  return response.exitCode.toUInt32

end DryRun.CommandLine

def main (arguments : List String) : IO UInt32 :=
  DryRun.CommandLine.run (arguments.map String.toList)
