import ContractLens.CommandLine.Program

/-!
# The program

Reads the arguments, the environment and the files that a command needs, and prints what the command
comes to. The program has no connection of its own to a node, so every question to one fails.

Here as in the other modules, the name in parentheses behind what a definition is, such as `main`, is
that of the function or type that it models.
-/

namespace ContractLens.CommandLine

/-- A node that cannot be reached. -/
def unreachable (url : String) : Node :=
  let error := NodeError.transport ("HTTP error: no connection to " ++ url)
  { code := fun _ _ => .error error
    storage := fun _ _ _ => .error error
    call := fun _ _ _ => .error error
    blockNumber := .error error
    block := fun _ _ => .error error
    receipt := fun _ => .error error
    trace := fun _ => .error error }

/-- The files that a request reads. -/
def filesOf (r : Request) : List String :=
  r.config.toList ++
    match r.command with
    | .decodeLogs file _ => if file = "-" then [] else [file]
    | _ => []

/-- Whether a request reads the standard input. -/
def readsInput (r : Request) : Bool :=
  match r.command with
  | .decodeLogs file _ => file == "-"
  | _ => false

/-- A text that is read by an action; none if that fails. -/
def tryRead (action : IO String) : IO (Option String) := do
  try
    let text ← action
    return some text
  catch _ => return none

/-- The text of a whole stream. -/
def readAll (stream : IO.FS.Stream) : IO String := do
  let mut raw := ByteArray.empty
  repeat
    let chunk ← stream.read 65536
    if chunk.isEmpty then break
    raw := raw ++ chunk
  match String.fromUTF8? raw with
  | some text => return text
  | none => throw (IO.userError "not UTF-8")

/-- What the arguments need of the world. -/
def surroundings (args : List String) : IO Surroundings := do
  let networkName ← IO.getEnv "RSK_NETWORK"
  let nodeUrl ← IO.getEnv "RSK_NODE_URL"
  let request := (Request.ofArguments networkName args).toOption
  let paths := (request.map filesOf).getD []
  let texts ← paths.mapM fun (path : String) => do
    let text ← tryRead (IO.FS.readFile path)
    return (path, text)
  let input ← if (request.map readsInput).getD false then
      tryRead do readAll (← IO.getStdin)
    else pure none
  return {
    networkName
    file := fun path => (texts.lookup path).join
    input
    node := fun endpoint => unreachable (endpoint.urlIn nodeUrl) }

end ContractLens.CommandLine

/-- Runs a command and ends with its exit code (`main`). -/
def main (args : List String) : IO UInt32 := do
  let world ← ContractLens.CommandLine.surroundings args
  let response := ContractLens.CommandLine.respond world args
  IO.print response.output
  IO.eprint response.errors
  return response.exitCode
