import ContractLens.Network

/-!
# Arguments of the command line

A command line is a list of options, the name of a command, and the command's own options and words.
The general options may stand on either side of the command's name; what stands behind the name
counts before what stands in front of it.

* `Scan.run` reads the arguments of one level, in front of or behind the command's name.
* `Request.ofArguments` is what all arguments together ask for.
-/

namespace ContractLens.CommandLine

/-- Why arguments cannot be understood. -/
inductive UsageError where
  | unknown (argument : String)
  | repeated (option : String)
  /-- An option without its value. -/
  | valueMissing (option : String)
  | valueUnexpected (option : String)
  | valueInvalid (option value : String)
  | optionMissing (option : String)
  | wordsMissing (command : String)
  | conflict (option other : String)
  | commandMissing
deriving DecidableEq, Repr

/-- The message of an error. -/
def UsageError.message : UsageError → String
  | unknown argument => "unexpected argument '" ++ argument ++ "'"
  | repeated option => "the option '--" ++ option ++ "' cannot be used multiple times"
  | valueMissing option => "a value is required for '--" ++ option ++ "'"
  | valueUnexpected option => "no value is allowed for '--" ++ option ++ "'"
  | valueInvalid option value => "invalid value '" ++ value ++ "' for '--" ++ option ++ "'"
  | optionMissing option => "the option '--" ++ option ++ "' is required"
  | wordsMissing command => "'" ++ command ++ "' requires an argument"
  | conflict option other =>
    "the option '--" ++ option ++ "' cannot be used with '--" ++ other ++ "'"
  | commandMissing => "a command is required"

/-- What is explained: the program, at length or in short, or one of its commands. -/
inductive HelpTopic where
  | program (long : Bool)
  | command (name : String)
deriving DecidableEq, Repr

/-- Why arguments are not read to their end: they are wrong, or they ask for information. -/
inductive Stop where
  | usage (error : UsageError)
  | help (topic : HelpTopic)
  | version
deriving DecidableEq, Repr

/-! ## Options of a level -/

/-- An option: its name, and which values it accepts if it takes one. -/
structure OptionSpec where
  name : String
  value? : Option (String → Bool)

/-- An option without a value. -/
def OptionSpec.flag (name : String) : OptionSpec := ⟨name, none⟩

/-- An option with any text for its value. -/
def OptionSpec.text (name : String) : OptionSpec := ⟨name, some fun _ => true⟩

/-- The options that may stand on either side of the command's name. -/
def generalOptions : List OptionSpec := [
  .flag "verbose", .flag "json-logs", ⟨"network", some fun s => (Network.ofText? s).isSome⟩,
  ⟨"config", some (· ≠ "")⟩, .text "rpc", .flag "public"]

/-- The arguments that are understood in one place: options, whether there may be words, and the
    names of commands, after which another level begins. Only a level with commands has a
    version. -/
structure Level where
  options : List OptionSpec
  words : Bool
  commands : List String
  /-- The command in whose place this is. -/
  command : Option String

/-- The option of this name. -/
def Level.option? (l : Level) (name : String) : Option OptionSpec :=
  l.options.find? (·.name == name)

/-- What is explained in this place. -/
def Level.topic (l : Level) (long : Bool) : HelpTopic :=
  l.command.elim (.program long) .command

/-! ## Scanning -/

/-- The options with their values and the words that were read. -/
structure Scan where
  options : List (String × String)
  words : List String
  /-- An option whose value comes next. -/
  pending : Option OptionSpec
  /-- An option with a value of its own argument. It counts only when reading goes on behind it, and
      so behind a command's name not before the command. -/
  held : Option (OptionSpec × String)
  /-- Whether all that comes is words. -/
  literal : Bool

namespace Scan

/-- Nothing read. -/
def empty : Scan := ⟨[], [], none, none, false⟩

/-- The value of an option. -/
def value? (s : Scan) (name : String) : Option String := s.options.lookup name

/-- Whether an option was given. -/
def has (s : Scan) (name : String) : Bool := (s.value? name).isSome

/-- An option with its value. -/
def put (s : Scan) (name value : String) : Except Stop Scan :=
  if s.has name then .error (.usage (.repeated name))
  else .ok { s with options := s.options ++ [(name, value)] }

/-- The value of an option that takes one. -/
def putValue (s : Scan) (o : OptionSpec) (value : String) : Except Stop Scan :=
  if (o.value?.map (· value)).getD false then s.put o.name value
  else .error (.usage (.valueInvalid o.name value))

/-- Lets the option that is held count. -/
def settle (s : Scan) : Except Stop Scan :=
  match s.held with
  | some (o, value) => { s with held := none }.putValue o value
  | none => .ok s

/-- An option by its name, with the value behind `=` if there is one. -/
def long (l : Level) (s : Scan) (name : String) (value : Option String) : Except Stop Scan :=
  match l.option? name, value with
  | some o, none => if o.value?.isSome then .ok { s with pending := some o } else s.put name ""
  | some o, some v =>
    if o.value?.isSome then s.putValue o v else .error (.usage (.valueUnexpected name))
  | none, value =>
    if name = "help" ∧ value = none then .error (.help (l.topic true))
    else if name = "version" ∧ value = none ∧ l.commands ≠ [] then .error .version
    else .error (.usage (.unknown ("--" ++ name)))

/-- Options of one letter, one after the other. -/
def letters (l : Level) (s : Scan) : List Char → Except Stop Scan
  | [] => .ok s
  | 'v' :: rest =>
    match s.put "verbose" "" with
    | .ok s => s.letters l rest
    | .error e => .error e
  | 'h' :: _ => .error (.help (l.topic false))
  | c :: _ =>
    if c = 'V' ∧ l.commands ≠ [] then .error .version
    else .error (.usage (.unknown (String.ofList ['-', c])))

/-- A word. -/
def word (l : Level) (s : Scan) (arg : String) : Except Stop Scan :=
  if l.words then .ok { s with words := s.words ++ [arg] } else .error (.usage (.unknown arg))

/-- The name of an option and the value behind the first `=`. -/
def splitValue (cs : List Char) : String × Option String :=
  let name := cs.takeWhile (· ≠ '=')
  let rest := cs.drop name.length
  (String.ofList name, if rest.isEmpty then none else some (String.ofList rest.tail))

/-- One argument that is neither a value nor a command's name. -/
def argument (l : Level) (s : Scan) (arg : String) : Except Stop Scan :=
  match s.literal, arg.toList with
  | true, _ => s.word l arg
  | false, ['-', '-'] => .ok { s with literal := true }
  | false, '-' :: '-' :: cs =>
    let (name, value) := splitValue cs
    s.long l name value
  | false, '-' :: c :: cs => s.letters l (c :: cs)
  | false, _ => s.word l arg

/-- One argument that is no command's name. -/
def step (l : Level) (s : Scan) (arg : String) : Except Stop Scan :=
  match s.pending, arg.toList with
  | some o, '-' :: _ :: _ => .error (.usage (.valueMissing o.name))
  | some o, _ => .ok { s with pending := none, held := some (o, arg) }
  | none, _ =>
    match s.settle with
    | .ok s => s.argument l arg
    | .error e => .error e

/-- Whether an argument names a command here. -/
def isCommand (l : Level) (s : Scan) (arg : String) : Bool :=
  s.pending.isNone && !s.literal && l.commands.contains arg

/-- The end of the arguments. -/
def finish (s : Scan) : Except Stop Scan :=
  match s.pending with
  | some o => .error (.usage (.valueMissing o.name))
  | none => s.settle

/-- All arguments up to a command's name, which comes with the arguments behind it. -/
def run (l : Level) (s : Scan) : List String → Except Stop (Scan × Option (String × List String))
  | [] => s.finish.map fun s => (s, none)
  | arg :: rest =>
    if s.isCommand l arg then .ok (s, some (arg, rest))
    else
      match s.step l arg with
      | .ok s => s.run l rest
      | .error e => .error e

end Scan

/-! ## Commands -/

/-- What is to be done (`Commands`). -/
inductive Command where
  /-- The details of a contract. -/
  | details (address block : String)
  /-- The usual data of a token. -/
  | tokenData (address block : String)
  /-- The transaction that created a contract. -/
  | deployment (address : String) (high : Option UInt64)
  /-- The logs in a file decoded. -/
  | decodeLogs (file : String) (pretty : Bool)
  /-- The bridge's release at a height. -/
  | release (height : String) (methods : Bool)
  /-- The selectors of signatures. -/
  | selector (signatures : List String)
deriving DecidableEq, Repr

/-- The names of the commands. -/
def commandNames : List String :=
  ["details", "token-data", "deployment", "decode-logs", "release", "selector"]

/-- The options that a command has of its own. -/
def ownOptions : String → List OptionSpec
  | "details" | "token-data" => [.text "address", .text "block"]
  | "deployment" => [.text "address", ⟨"high", some fun s => (Natural.decimalWord64? s).isSome⟩]
  | "decode-logs" => [.text "file", .flag "pretty"]
  | "release" => [.text "height", .flag "methods"]
  | _ => []

/-- The arguments in front of the command's name. -/
def outerLevel : Level := ⟨generalOptions, false, "help" :: commandNames, none⟩

/-- The arguments behind the name of a command. -/
def innerLevel (name : String) : Level :=
  ⟨ownOptions name ++ generalOptions, name == "selector", [], some name⟩

/-- An option that a command needs. -/
def needed (s : Scan) (name : String) : Except Stop String :=
  match s.value? name with
  | some v => .ok v
  | none => .error (.usage (.optionMissing name))

/-- The command of this name with its options and words. -/
def Command.ofScan (name : String) (s : Scan) : Except Stop Command :=
  let block := (s.value? "block").getD "latest"
  match name with
  | "details" => (needed s "address").map (details · block)
  | "token-data" => (needed s "address").map (tokenData · block)
  | "deployment" =>
    (needed s "address").map (deployment · ((s.value? "high").bind Natural.decimalWord64?))
  | "decode-logs" => (needed s "file").map (decodeLogs · (s.has "pretty"))
  | "release" => .ok (release ((s.value? "height").getD "latest") (s.has "methods"))
  | "selector" =>
    if s.words.isEmpty then .error (.usage (.wordsMissing name)) else .ok (selector s.words)
  | _ => .error (.usage (.unknown name))

/-! ## Requests -/

/-- What a command line asks for (`Cli`). -/
structure Request where
  verbose : Bool
  jsonLogs : Bool
  network : Network
  /-- The file with the configuration. -/
  config : Option String
  /-- The URL of the node. -/
  rpc : Option String
  /-- Whether to ask the network's public node. -/
  usesPublicNode : Bool
  command : Command
deriving DecidableEq, Repr

namespace Request

/-- Two options that do not go together in one place. -/
def checkConflict (s : Scan) : Except Stop Unit :=
  if s.has "public" && s.has "rpc" then .error (.usage (.conflict "public" "rpc")) else .ok ()

/-- A network from the environment has to be one wherever no option overrides it. -/
def checkEnvironment (s : Scan) (environment : Option String) : Except Stop Unit :=
  match environment with
  | some name =>
    if s.has "network" || (Network.ofText? name).isSome then .ok ()
    else .error (.usage (.valueInvalid "network" name))
  | none => .ok ()

/-- What is asked for by the arguments in front of a command's name, those behind it, and the
    network in the environment. -/
def ofScans (outer inner : Scan) (environment : Option String) (command : Command) : Request :=
  let value? (name : String) : Option String := (inner.value? name).or (outer.value? name)
  let given (name : String) : Bool := inner.has name || outer.has name
  { verbose := given "verbose"
    jsonLogs := given "json-logs"
    network := (((value? "network").or environment).bind Network.ofText?).getD .mainnet
    config := value? "config"
    rpc := value? "rpc"
    usesPublicNode := given "public"
    command }

/-- What is explained for the names behind `help`, of which there may be one. -/
def helpFor : List String → Stop
  | [] => .help (.program true)
  | name :: more =>
    if !outerLevel.commands.contains name then .usage (.unknown name)
    else
      match more with
      | [] => .help (.command name)
      | other :: _ => .usage (.unknown other)

/-- What arguments ask for, with the network that the environment names (`Cli.parse`). -/
def ofArguments (environment : Option String) (args : List String) : Except Stop Request := do
  let (outer, command) ← Scan.empty.run outerLevel args
  match command with
  | none =>
    checkEnvironment outer environment
    throw (.usage .commandMissing)
  | some ("help", names) => throw (helpFor names)
  | some (name, rest) =>
    let (inner, _) ← Scan.empty.run (innerLevel name) rest
    checkEnvironment inner environment
    let command ← Command.ofScan name inner
    checkConflict inner
    let outer ← outer.settle
    checkEnvironment outer environment
    checkConflict outer
    return ofScans outer inner environment command

end Request

end ContractLens.CommandLine
