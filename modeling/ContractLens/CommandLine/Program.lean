import ContractLens.CommandLine.Help
import ContractLens.ConfigFile
import ContractLens.Inspector
import ContractLens.LogFile
import ContractLens.NoticeFilter
import ContractLens.Rpc.Endpoint
import ContractLens.Text.Blank

/-!
# Commands of the command line

What each command prints. A command sees the world through its `Surroundings`: the texts of files,
and the node at an endpoint. `respond` takes the arguments all the way to a `Response`: the exit
code, the lines of output and, if the command failed, why.
-/

namespace ContractLens.CommandLine

/-- What commands see of the world. -/
structure Surroundings where
  /-- The network that the environment names. -/
  networkName : Option String
  /-- The text of a file; none if it cannot be read. -/
  file : String → Option String
  /-- The text of the standard input; none if it cannot be read. -/
  input : Option String
  /-- The node at an endpoint. -/
  node : Rpc.Endpoint → Node

/-- Why a command failed. -/
inductive Failure where
  | configUnreadable (path : String)
  | publicNodeMissing (network : Network)
  | configInvalid
  | blockInvalid (block : String)
  | contractUnreadable (address : String)
  | searchFailed (address : String)
  | codeMissing (address : String)
  | fileUnreadable (path : String)
  | inputUnreadable
  | badLogs (fault : LogFile.Fault)
  | logsUndecodable (error : ConfigError)
  | heightInvalid (error : ConfigError)
  | releasesMissing (network : Network)
deriving DecidableEq, Repr

/-- The message of a failure. -/
def Failure.message : Failure → String
  | configUnreadable path => "Error: failed to load config " ++ path
  | publicNodeMissing network => "Error: no public node for " ++ network.name
  | configInvalid => "Error: invalid parser configuration"
  | blockInvalid block => "Error: invalid --block '" ++ block ++ "'"
  | contractUnreadable address => "Error: failed to inspect " ++ address
  | searchFailed address => "Error: deployment search for " ++ address ++ " failed"
  | codeMissing address => "✗ no code found at " ++ address
  | fileUnreadable path => "Error: failed to read " ++ path
  | inputUnreadable => "Error: failed to read stdin"
  | badLogs fault => "Error: " ++ fault.message
  | logsUndecodable error | heightInvalid error => "Error: " ++ error.message
  | releasesMissing network => "Error: no bridge releases for " ++ network.name

/-- An activity that may fail, with its notices. -/
abbrev Run := ExceptT Failure Noted

/-- A notice. -/
def Run.note (n : Notice) : Run Unit := ExceptT.lift (Noted.note n)

/-- A result with its error put into other words. -/
def Run.ofExcept {ε α : Type} (failure : ε → Failure) (r : Except ε α) : Run α :=
  ExceptT.mk (pure (r.mapError failure))

/-- What comes of a query, with its notices. -/
def Run.ofQuery {ε α : Type} (failure : ε → Failure) (q : Query ε α) (node : Node) : Run α :=
  let o := q.run node
  ExceptT.mk ⟨o.result.mapError failure, o.notices⟩

/-! ## Inspectors -/

/-- The extension of a path: what stands behind the last dot of its last part, unless that dot is
    the first character. -/
def extensionOf (path : String) : String :=
  let part := (path.toList.reverse.dropWhile (· == '/')).takeWhile (· != '/')
  let reversed := part.takeWhile (· != '.')
  if reversed.length + 1 < part.length then String.ofList reversed.reverse else ""

/-- The configuration of a request (in `build_parser`). Its network is that of the request, not that
    of the file. -/
def configFor (world : Surroundings) (r : Request) : Except Failure Config := do
  let config ← match r.config with
    | none => pure Config.standard
    | some path =>
      match (world.file path).map (ConfigFile.ofText (extensionOf path)) with
      | some (.ok config) => pure config
      | _ => throw (.configUnreadable path)
  return { config with networkId := some r.network.id }

/-- The endpoint of a request (in `build_parser`). -/
def endpointFor (r : Request) : Except Failure Rpc.Endpoint :=
  if r.usesPublicNode then
    match Rpc.Endpoint.ofNetwork? r.network with
    | some e => .ok e
    | none => .error (.publicNodeMissing r.network)
  else .ok ((r.rpc.map Rpc.Endpoint.ofUrl).getD .standard)

/-- The inspector and the node of a request (`build_parser`). -/
def inspectorFor (world : Surroundings) (r : Request) : Run (Inspector × Node) := do
  let config ← Run.ofExcept id (configFor world r)
  let endpoint ← Run.ofExcept id (endpointFor r)
  let made ← ExceptT.lift (Inspector.ofConfig config)
  let i ← Run.ofExcept (fun _ => .configInvalid) made
  return (i, world.node endpoint)

/-! ## Commands -/

/-- The block of a request (`block_tag`). -/
def blockFor (block : String) : Run BlockTag :=
  Run.ofExcept (fun _ => .blockInvalid block) (BlockTag.ofText block)

/-- What a contract is (`cmd_inspect.details`). -/
def details (i : Inspector) (node : Node) (address block : String) : Run String := do
  let tag ← blockFor block
  let d ← Run.ofQuery (fun _ => .contractUnreadable address) (i.details address tag) node
  return d.toJson.pretty

/-- The usual data of a token (`cmd_inspect.token_data`). -/
def tokenData (i : Inspector) (node : Node) (address block : String) : Run String := do
  let tag ← blockFor block
  let d ← Run.ofQuery id (Inspector.tokenData (i.contract address) tag) node
  return d.toJson.pretty

/-- The transaction that created a contract (`cmd_inspect.deployment`). -/
def deployment (node : Node) (address : String) (high : Option UInt64) : Run String := do
  let query := deploymentOf address ⟨none, none, none, high⟩
  match ← Run.ofQuery (fun _ => .searchFailed address) query node with
  | some d => return d.toJson.pretty
  | none => throw (.codeMissing address)

/-- The text of a file, or of the standard input if the path is a hyphen (in `cmd_decode.run`). -/
def readInput (world : Surroundings) (path : String) : Except Failure String :=
  let (text, failure) :=
    if path = "-" then (world.input, Failure.inputUnreadable)
    else (world.file path, .fileUnreadable path)
  match text with
  | some s => .ok s
  | none => .error failure

/-- The logs in a text decoded (`cmd_decode.run`). -/
def decodeLogs (i : Inspector) (text : String) (pretty : Bool) : Run String := do
  let logs ← Run.ofExcept .badLogs (LogFile.ofText text)
  let parsed ← ExceptT.lift (i.parseLogs logs)
  let decoded ← Run.ofExcept .logsUndecodable parsed
  Run.note ⟨.info, "logs decoded",
    [("total", toString decoded.length),
      ("undecoded", toString (decoded.countP fun d => d.event.isNone))]⟩
  return LogFile.text pretty decoded

/-- The bridge's release at a height, with its functions if they are asked for
    (`cmd_release.release`). -/
def release (network : Network) (height : String) (withMethods : Bool) :
    Except Failure (List String) := do
  let height ← (Bridge.ReleaseHeight.ofText height).mapError .heightInvalid
  let release ← (Bridge.Release.resolve height network).mapError fun _ => .releasesMissing network
  let about := [
    "Release:    " ++ release.name,
    "Activation: " ++ Natural.decimal release.height,
    "Network:    " ++ network.name ++ " (queried at " ++ height.text ++ ")"]
  let methods := release.methods.mergeSort fun a b => decide (a ≤ b)
  let listed := methods.map fun m => "  " ++ Abi.methodSelector m ++ "  " ++ m
  let count := "Methods:    " ++ toString methods.length
  return if withMethods then about ++ count :: listed else about

/-- The selector and the hash of a signature, which may have blanks in it (in
    `cmd_release.selectors`). -/
def selectorLine (signature : String) : String :=
  let method := String.ofList (signature.toList.filter fun c => !isWhiteSpace c)
  Abi.methodSelector method ++ "  " ++ Keccak.keccak256Hex method ++ "  " ++ method

/-- The output of a request, piece by piece with a line end behind each (in `main`). -/
def output (world : Surroundings) (r : Request) : Run (List String) := do
  match r.command with
  | .details address block =>
    let (i, node) ← inspectorFor world r
    return [← details i node address block]
  | .tokenData address block =>
    let (i, node) ← inspectorFor world r
    return [← tokenData i node address block]
  | .deployment address high =>
    let (_, node) ← inspectorFor world r
    return [← deployment node address high]
  | .decodeLogs file pretty =>
    let (i, _) ← inspectorFor world r
    let text ← Run.ofExcept id (readInput world file)
    return [← decodeLogs i text pretty]
  | .release height methods => Run.ofExcept id (release r.network height methods)
  | .selector signatures => return signatures.map selectorLine

/-! ## Responses -/

/-- What a command line comes to. -/
structure Response where
  exitCode : UInt32
  /-- The standard output. -/
  output : String
  /-- The standard error output. -/
  errors : String

/-- Texts with a line end behind each. -/
def lines (texts : List String) : String := String.join (texts.map (· ++ "\n"))

/-- Which notices a request shows (in `main`). -/
def filterFor (r : Request) : NoticeFilter :=
  { NoticeFilter.ofLevel (if r.verbose then "debug" else "warn") with json := r.jsonLogs }

/-- What arguments come to (`main`). Wrong usage ends with 2, a failed command with 1. -/
def respond (world : Surroundings) (args : List String) : Response :=
  match Request.ofArguments world.networkName args with
  | .error (.help topic) => ⟨0, lines (topic.lines world.networkName), ""⟩
  | .error .version => ⟨0, lines [Help.versionLine], ""⟩
  | .error (.usage e) => ⟨2, "", lines ["error: " ++ e.message]⟩
  | .ok request =>
    let ⟨result, notices⟩ := (output world request).run
    let shown := (filterFor request).lines notices
    match result with
    | .ok texts => ⟨0, lines texts, lines shown⟩
    | .error failure => ⟨1, "", lines (shown ++ [failure.message])⟩

end ContractLens.CommandLine
