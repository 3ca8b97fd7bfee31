import Dialogue.CommandLine.Program

/-!
# The command line

Reads the files that the arguments and the settings name, and lets the program answer from them.

## Main definitions

* `lookUp path`: what stands at a path of the real file system
* `main`: the program
-/

namespace Dialogue.CommandLine

/-- The number of a system error, which may be given with either sign. -/
def systemCode (code : UInt32) : Nat :=
  min code.toNat (-code).toNat

/-- What stands at a path of the real file system. -/
def lookUp (path : String) : IO Entry := do
  try
    let bytes ← IO.FS.readBinFile path
    return .file bytes.toList
  catch error =>
    match error with
    | .noFileOrDirectory .. => return .absent .notFound
    | .inappropriateType _ code _ =>
      return if systemCode code = 20 then .absent .notDirectory else .directory
    | .illegalOperation .. => return .directory
    | .permissionDenied .. => return .absent (.other "Permission denied (os error 13)")
    | .invalidArgument _ code _ =>
      return .absent (if systemCode code = 36 then .nameTooLong else .other error.toString)
    | error => return .absent (.other error.toString)

/-- Looks at the given paths and at no others. -/
def snapshot (paths : List String) : IO FileSystem := do
  let entries ← paths.mapM fun path => do return (path, ← lookUp path)
  return fun path => (entries.lookup path).getD (.absent .notFound)

/-- The paths at which the settings of an invocation may be found. -/
def Invocation.settingsPaths (invocation : Invocation) : List String :=
  invocation.layers.flatMap fun
    | .file path => path :: (Settings.withEnding path).toList
    | .optionalFile path => path :: (Settings.withEnding path).toList
    | .override _ _ => []

/-- The paths of the chatfiles that an invocation may open. -/
def Invocation.chatfilePaths (invocation : Invocation) (settings : Settings) : List String :=
  invocation.path :: settings.models.map ModelEntry.path ++
    invocation.choices.assignments.filterMap fun text =>
      match parseAssignment text with
      | .ok (_, path) => some path
      | .error _ => none

/-- The files that the arguments and the settings name. -/
def filesFor (arguments : List String) : IO FileSystem := do
  match Invocation.ofArguments arguments with
  | .error _ => snapshot []
  | .ok invocation =>
    let settingsFiles ← snapshot invocation.settingsPaths
    match Settings.load settingsFiles invocation.layers with
    | .error _ => return settingsFiles
    | .ok settings =>
      snapshot (invocation.settingsPaths ++ invocation.chatfilePaths settings)

end Dialogue.CommandLine

open Dialogue.CommandLine in
/-- Prints the outcome of the program and ends with its exit code. -/
def main (arguments : List String) : IO UInt32 := do
  let outcome := run (← filesFor arguments) arguments
  IO.print outcome.output
  IO.eprint outcome.errorOutput
  return outcome.code.toUInt32
