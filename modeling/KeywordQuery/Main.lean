import KeywordQuery.Command.Program
import KeywordQuery.Layout.Console

/-!
# The command line

The program on real files, with the real environment and standard streams.
-/

namespace KeywordQuery.Command

/-- Why a file cannot be opened. -/
def openFault : IO.Error → OpenFault
  | .noFileOrDirectory .. => .notFound
  | .permissionDenied .. => .notPermitted
  | .inappropriateType .. => .isDirectory
  | error => .other (toString error)

/-- The content of a file, or why it cannot be opened. -/
def openRealFile (name : String) : IO (Except OpenFault (List UInt8)) := do
  try
    return .ok (← IO.FS.readBinFile name).toList
  catch error =>
    return .error (openFault error)

/-- The surroundings of the running program. -/
def realHost (started : Nat) (lookup : String → Option String) : Host IO where
  lookupVariable := lookup
  openFile := openRealFile
  readInput := do return (← (← IO.getStdin).readBinToEnd).toList
  elapsedMs := do return Int.ofNat ((← IO.monoMsNow) - started)
  trace _ _ := return ""
  console := Layout.consoleOf lookup
  nesting := 1000
  runtime := "unknown"
  platform := "unknown"

/-- Prints on the real streams, which are UTF-8. -/
def printReal (printed : Printed) : IO Unit := do
  IO.print printed.out.replaced
  IO.eprint printed.err.replaced

end KeywordQuery.Command

open KeywordQuery KeywordQuery.Command in
/-- Runs the program and hands its exit code to the system. -/
def main (args : List String) : IO UInt32 := do
  let started ← IO.monoMsNow
  let names := [policyVariable, Layout.widthVariable, Layout.heightVariable]
  let environment ← names.filterMapM fun name => do
    return (← IO.getEnv name).map (name, ·)
  let lookup (name : String) := (environment.find? (·.1 == name)).map (·.2)
  match ← run (realHost started lookup) args with
  | .finished code printed =>
    printReal printed
    return UInt32.ofNat code.toNat
  | .misused fault =>
    IO.eprintln ("Error: " ++ fault.message)
    return UInt32.ofNat usageExitCode.toNat
  | .failed failure printed =>
    printReal printed
    IO.eprintln (failure.kindName ++ ": " ++ failure.message.replaced)
    return 1
