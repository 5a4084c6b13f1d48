import IsaCensus.Census
import IsaCensus.CommandLine.Folder
import IsaCensus.CommandLine.Request
import IsaCensus.Config.Json
import IsaCensus.Container.Image
import IsaCensus.Deadline
import IsaCensus.Decode.X86.Table
import IsaCensus.Report.Json
import IsaCensus.Report.Summary

/-! What the command line program does and says. The files it can see are given to it. -/

namespace IsaCensus.CommandLine

structure Answer where
  exitCode : Nat
  output : String := ""
  errors : List String := []
deriving DecidableEq, Repr

def programName : String := "isa-sampler"

def version : String := "0.1.0"

/-- The number of features that a summary lists unless another one is asked for. -/
def usualTop : UInt64 := 20

namespace Request

/-- The configuration of all files. What the command line says is added to what the
configuration file says, or replaces it. -/
def config (files : Files) (request : Request) : Except Fault Config := do
  let config ← match request.configFile with
    | some path => Config.ofFile (files path >>= Entry.content)
    | none => .ok {}
  let config := request.entryPoints.foldl Config.addEntryPoint config
  return match request.maxInstructions with
    | some limit => config.limitInstructions limit
    | none => config

/-- The census of a file, with the parser and the engine that the program comes with. -/
def analyze (files : Files) (config : Config) (path : String) : Except Fault Report :=
  match files path >>= Entry.image with
  | .ok image => (analyzeFile Layout.parse X86.tables image config {}).map Prod.fst
  | .error fault => .error (.io fault)

/-- The census of a file under the deadline that may be set. A census that has come to its
end meets it. -/
def result (files : Files) (config : Config) (request : Request) (path : String) : Except Fault Report :=
  match request.timeout with
  | none => analyze files config path
  | some seconds =>
    Deadline.await { seconds := seconds.toNat, operation := path } (.ofResult (analyze files config path))

/-- The complaint about a configuration that cannot be had. A single cause is indented;
several are numbered. -/
def configComplaint (path : String) (fault : Fault) : List String :=
  let causes := match fault.causes with
    | [] => ["    " ++ fault.message]
    | causes => (fault.message :: causes).mapIdx fun i cause => padLeft 5 (toString i) ++ ": " ++ cause
  ["Error: failed to load config " ++ path, "", "Caused by:"] ++ causes

def jsonEntry : String × Except Fault Report → Json.Value
  | (path, .ok report) => .object [("path", .text path), ("report", report.toJson)]
  | (path, .error fault) => .object [("error", .text fault.chain), ("path", .text path)]

def isFailure : String × Except Fault Report → Bool
  | (_, .ok _) => false
  | (_, .error _) => true

def summaryLines (top : Nat) : String × Except Fault Report → List String
  | (path, .ok report) => report.summary path top
  | (_, .error _) => []

def complaintLines : String × Except Fault Report → List String
  | (_, .ok _) => []
  | (path, .error fault) => [path ++ ": error: " ++ fault.chain]

/-- The answer that shows the result of every file, in the order of the files. -/
def present (request : Request) (results : List (String × Except Fault Report)) : Answer :=
  let exitCode := if results.any isFailure then 1 else 0
  if request.json then
    { exitCode, output := (Json.Value.list (results.map jsonEntry)).sorted.render ++ "\n" }
  else
    let lines := results.flatMap (summaryLines (request.top.getD usualTop).toNat)
    { exitCode
      output := String.join (lines.map (· ++ "\n"))
      errors := results.flatMap complaintLines }

def run (files : Files) (request : Request) : Answer :=
  match request.config files with
  | .ok config => request.present (request.files.map fun path => (path, result files config request path))
  | .error fault => { exitCode := 1, errors := configComplaint (request.configFile.getD "") fault }

def inputs (request : Request) : List String := request.configFile.toList ++ request.files

end Request

def helpText : List String :=
  ["Usage: " ++ programName ++ " [OPTIONS] <FILES>...",
    "",
    "Options:",
    "      --json                  Print reports as JSON",
    "      --config <FILE>         JSON configuration file",
    "      --entry <ADDR>          Extra entry point (hex with 0x prefix, or decimal); repeatable",
    "      --max-instructions <N>  Stop after decoding this many instructions per file",
    "      --timeout <SECS>        Per-file deadline",
    "      --log-json              Emit logs as JSON",
    "      --top <N>               Number of features listed per file in text output",
    "  -h, --help                  Print help",
    "  -V, --version               Print version"]

def Mistake.answer : Mistake → Answer
  | .usage => { exitCode := 2, errors := helpText }
  | .address fault => { exitCode := 2, errors := [fault.message] }

def answer (files : Files) (arguments : List String) : Answer :=
  match Request.ofArguments arguments with
  | .ok (.census request) => request.run files
  | .ok .help => { exitCode := 0, output := String.join (helpText.map (· ++ "\n")) }
  | .ok .version => { exitCode := 0, output := programName ++ " " ++ version ++ "\n" }
  | .error mistake => mistake.answer

end IsaCensus.CommandLine
