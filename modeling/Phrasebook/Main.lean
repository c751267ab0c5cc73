import Phrasebook.CommandLine.Run

/-!
# The program

The program reads the environment and the files that its arguments name, runs
the command and writes the outcome.
-/

namespace Phrasebook.FileContent

/-- Reads a file. A path that leads through something other than a directory
does not exist. -/
def read (path : String) : IO FileContent := do
  try
    return .text (← IO.FS.readFile path)
  catch
    | .noFileOrDirectory _ _ _ => return .absent
    | .inappropriateType (some _) _ _ => return .absent
    | _ => return .unreadable

end Phrasebook.FileContent

open Phrasebook

/-- Runs the program; the exit code is that of the outcome. -/
def main (arguments : List String) : IO UInt32 := do
  let names :=
    ["STENCIL_CONFIG_PATH", "STENCIL_UNRESTRICTED_ASYNC",
      "XDG_CONFIG_HOME", "HOME"]
  let found ← names.filterMapM fun name => do
    return (← IO.getEnv name).map fun value => (name, value)
  let environment :=
    Environment.ofVariables ((found.lookup "HOME").getD "") (fun name =>
      found.lookup name)
  let contents ← (CommandLine.filesRead environment arguments).mapM fun path =>
    do
    return (path, ← FileContent.read path)
  let outcome :=
    CommandLine.run environment (fun path =>
      (contents.lookup path).getD .absent) arguments
  IO.print outcome.output
  if let some failure := outcome.failure then IO.eprintln ("Error: " ++ failure)
  return outcome.exitCode.toUInt32
