import KernelTrace.Command.Run

open KernelTrace

def readContent (path : String) : IO FileContent := do
  try
    return .ok (← IO.FS.readBinFile path)
  catch
    | .noFileOrDirectory .. => return .error .notFound
    | .inappropriateType .. => return .error .isDirectory
    | failure => return .error (.device (toString failure))

def main (args : List String) : IO UInt32 := do
  match Invocation.ofArguments args with
  | .error .version =>
    IO.println versionText
    return 0
  | .error .help =>
    IO.print helpText
    return 0
  | .error .usage =>
    IO.eprint helpText
    return 2
  | .ok invocation =>
    let contents ← invocation.paths.mapM fun path => do return (path, ← readContent path)
    let files : Files := fun path => (contents.lookup path).getD (.error .notFound)
    let report := invocation.run files
    IO.eprint report.standardError
    IO.print report.standardOutput
    return report.exitCode
