import RowStream.CommandLine.Report

/-! The program: dumps a captured response from a file to the standard output. -/
namespace RowStream

def environment : IO Environment := do
  let setting? (name : String) : IO (Option Text) :=
    return (← IO.getEnv name).map String.toList
  return ⟨← setting? "FB_BUFFER_SIZE", ← setting? "FB_LOG_RESULT_STREAM",
    ← setting? "FB_LOG_LEVEL"⟩

def fileContent (path : Text) : IO (Except FileFault Bytes) := do
  try
    return .ok (← IO.FS.readBinFile (String.ofList path)).toList
  catch
    | .noFileOrDirectory .. => return .error .notFound
    | .permissionDenied .. => return .error .notPermitted
    | .inappropriateType .. => return .error .isDirectory
    | .invalidArgument .. => return .error .pathTooLong
    | fault => throw fault

/-- Prints the output of a run, and what it reports on the standard error. -/
def finish (report : Report) : IO UInt32 := do
  IO.print (String.ofList report.output)
  match report.ending with
  | .reported e | .escaped e => IO.eprintln (String.ofList e.message)
  | .misused => IO.eprintln "Use --help to see how this program is used."
  | .done => pure ()
  return ((report.ending.exitCode?).getD 1).toUInt32

/-- Runs the command that the arguments make up. -/
def runCommand (args : List String) : IO UInt32 := do
  let command := Command.ofArguments (args.map String.toList)
  let content ← match command.file? with
    | some path => fileContent path
    | none => pure (.error .notFound)
  finish (command.run "rowstream".toList (← environment) content)

end RowStream

def main (args : List String) : IO UInt32 := RowStream.runCommand args
