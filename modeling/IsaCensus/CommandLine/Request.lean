import IsaCensus.Address.Literal

/-! The command line: its options, and what is asked for by its arguments. The arguments are
read in order and the first mistake counts. -/

namespace IsaCensus.CommandLine

structure Request where
  files : List String := []
  json : Bool := false
  configFile : Option String := none
  entryPoints : List UInt64 := []
  maxInstructions : Option UInt64 := none
  timeout : Option UInt64 := none
  logJson : Bool := false
  /-- The number of features in a summary, if it is not the usual one. -/
  top : Option UInt64 := none
deriving DecidableEq, Repr

inductive Invocation
  | census (request : Request)
  | help
  | version
deriving DecidableEq, Repr

/-- Arguments that ask for nothing. -/
inductive Mistake
  | usage
  | address (fault : AddressFault)
deriving DecidableEq, Repr

inductive Switch
  | json
  | logJson
  | help
  | version
deriving DecidableEq, Repr

inductive Key
  | config
  | entry
  | maxInstructions
  | timeout
  | top
deriving DecidableEq, Repr

inductive Argument
  /-- From here on there are only files. -/
  | filesOnly
  | file (path : String)
  | switch (switch : Switch)
  | key (key : Key) (value : Option String)
  | unknown
deriving DecidableEq, Repr

def Switch.named : List (String × Switch) :=
  [("json", .json), ("log-json", .logJson), ("help", .help), ("version", .version)]

def Key.named : List (String × Key) :=
  [("config", .config), ("entry", .entry), ("max-instructions", .maxInstructions),
    ("timeout", .timeout), ("top", .top)]

namespace Argument

/-- An option by its long name, with the value that an equals sign joins to it. -/
def ofLong (option : List Char) : Argument :=
  let name := String.ofList (option.takeWhile (· ≠ '='))
  let value := match option.dropWhile (· ≠ '=') with
    | [] => none
    | _ :: value => some (String.ofList value)
  match Switch.named.lookup name, Key.named.lookup name, value with
  | some alone, _, none => .switch alone
  | none, some valued, value => .key valued value
  | _, _, _ => .unknown

/-- A lone dash is a file. Of letters behind one dash the first decides, as each of them
ends the reading. -/
def ofText (text : String) : Argument :=
  match text.toList with
  | ['-', '-'] => .filesOnly
  | '-' :: '-' :: option => ofLong option
  | '-' :: 'h' :: _ => .switch .help
  | '-' :: 'V' :: _ => .switch .version
  | '-' :: _ :: _ => .unknown
  | _ => .file text

end Argument

namespace Request

def addFile (request : Request) (path : String) : Except Mistake Request :=
  if path = "" then .error .usage else .ok { request with files := request.files ++ [path] }

def addFiles (request : Request) (paths : List String) : Except Mistake Request :=
  paths.foldlM addFile request

def once {α : Type} (current : Option α) (value : α) : Except Mistake (Option α) :=
  match current with
  | none => .ok (some value)
  | some _ => .error .usage

def number (text : String) : Except Mistake UInt64 :=
  match Text.numeral 10 text.toList with
  | .ok n => .ok n.toUInt64
  | .error _ => .error .usage

/-- Sets an option. Only entry points can be given more than once. -/
def set (request : Request) (key : Key) (value : String) : Except Mistake Request :=
  match key with
  | .config => do
    let configFile ← once request.configFile value
    if value = "" then throw .usage
    return { request with configFile }
  | .entry =>
    match parseAddress value with
    | .ok address => .ok { request with entryPoints := request.entryPoints ++ [address] }
    | .error fault => .error (.address fault)
  | .maxInstructions => do
    return { request with maxInstructions := ← once request.maxInstructions (← number value) }
  | .timeout => do return { request with timeout := ← once request.timeout (← number value) }
  | .top => do return { request with top := ← once request.top (← number value) }

/-- An argument that is not understood comes before a mistake in the value in front of it. -/
def setBefore (request : Request) (key : Key) (value : String) (rest : List String) : Except Mistake Request :=
  match rest.head?.map Argument.ofText with
  | some .unknown => .error .usage
  | _ => request.set key value

def extend (request : Request) : List String → Except Mistake Invocation
  | [] => if request.files = [] then .error .usage else .ok (.census request)
  | text :: rest =>
    match Argument.ofText text with
    | .filesOnly => do
      let request ← request.addFiles rest
      if request.files = [] then throw .usage
      return .census request
    | .file path => do (← request.addFile path).extend rest
    | .switch .help => .ok .help
    | .switch .version => .ok .version
    | .switch .json => if request.json then .error .usage else { request with json := true }.extend rest
    | .switch .logJson => if request.logJson then .error .usage else { request with logJson := true }.extend rest
    | .key key (some value) => do (← request.set key value).extend rest
    | .key key none =>
      match rest with
      | value :: rest =>
        match Argument.ofText value with
        | .file value => do (← request.setBefore key value rest).extend rest
        | _ => .error .usage
      | [] => .error .usage
    | .unknown => .error .usage

def ofArguments (arguments : List String) : Except Mistake Invocation := ({} : Request).extend arguments

end Request

end IsaCensus.CommandLine
