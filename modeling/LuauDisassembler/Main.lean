import LuauDisassembler.Command

/-!
# The program

Reads the files that the arguments name and writes what the command reports: the listing to standard
output, the log to standard error.
-/

namespace LuauDisassembler

open Command

/-- Reads what a path leads to, if it leads to anything.  A failure of the wrong type that names the
path comes from looking it up, one that names none from reading what was found. -/
def readSource (path : String) : IO (Option Source) := do
  try
    let content ← IO.FS.readBinFile path
    return some (.file content.toList)
  catch e =>
    match e with
    | .noFileOrDirectory _ _ _ | .noSuchThing _ _ _ | .inappropriateType (some _) _ _ => return none
    | .permissionDenied _ _ _ => return some .forbidden
    | _ => return some .unreadable

/-- Reads all paths that the options name. -/
def readSources (o : Options) : IO (List (String × Source)) :=
  (o.config.toList ++ o.paths).filterMapM fun path => do
    return (← readSource path).map fun source => (path, source)

end LuauDisassembler

open LuauDisassembler Command in
def main (args : List String) : IO UInt32 := do
  let sources ← match Options.ofArguments args with
    | .ok o => readSources o
    | .error _ => pure []
  match execute (List.lookup · sources) args with
  | .error e =>
    IO.eprintln e.message
    return usageExitCode.toUInt32
  | .ok report =>
    for record in report.log do
      IO.eprintln record.fullLine
    IO.print report.stdout
    return report.exitCode.toUInt32
