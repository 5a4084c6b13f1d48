import IsaCensus.CommandLine.Run

/-! The command line program. It reads the files that the arguments name, and prints the answer. -/

namespace IsaCensus.CommandLine

/-- What is at a path that cannot be read. -/
def unreadable : IO.Error → Except ReadFault Entry
  | .noFileOrDirectory _ _ _ => .error Refusal.notThere.fault
  | .inappropriateType _ _ "not a directory" => .error Refusal.notFolder.fault
  | .inappropriateType _ _ _ => .ok .folder
  | .invalidArgument _ _ "name too long" => .error Refusal.nameTooLong.fault
  | error => .error (.system (toString error))

def readInput (path : String) : IO (String × Except ReadFault Entry) := do
  try
    let content ← IO.FS.readBinFile path
    return (path, .ok (.file content.data))
  catch error => return (path, unreadable error)

def readInputs (paths : List String) : IO Files := do
  let contents ← paths.mapM readInput
  return fun path => (contents.lookup path).getD (.error (.system "file was not read"))

end IsaCensus.CommandLine

open IsaCensus CommandLine

def main (arguments : List String) : IO UInt32 := do
  let paths := match Request.ofArguments arguments with
    | .ok (.census request) => request.inputs
    | _ => []
  let files ← readInputs paths
  let answer := CommandLine.answer files arguments
  IO.print answer.output
  for line in answer.errors do
    IO.eprintln line
  return answer.exitCode.toUInt32
