import ContractLens.CommandLine.Arguments

/-!
# Help

How the program and its commands are used. The help of a command lists its own options together with
the general ones, each option of its own next to the general one in the same place.

In the short form an option takes one line. In the long form, which only the program itself has, its
description stands on lines of its own.
-/

namespace ContractLens.CommandLine

namespace Help

/-- The name of the program. -/
def programName : String := "chainparser"

/-- The name and version of the program. -/
def versionLine : String := programName ++ " 0.2.0"

/-! ## Options -/

/-- What is said about an option. -/
structure OptionText where
  letter : Option Char
  name : String
  /-- The name of its value. -/
  value : Option String
  text : String
  /-- Notes in brackets behind the text. -/
  notes : List String

namespace OptionText

/-- An option without a value. -/
def flag (name text : String) : OptionText := ⟨none, name, none, text, []⟩

/-- An option with a value. -/
def valued (name value text : String) : OptionText := ⟨none, name, some value, text, []⟩

/-- The option with a note about what it is by default. -/
def withDefault (o : OptionText) (value : String) : OptionText :=
  { o with notes := o.notes ++ ["[default: " ++ value ++ "]"] }

/-- The option as it is written. -/
def label (o : OptionText) : String :=
  let start := match o.letter with
    | some c => String.ofList [' ', ' ', '-', c, ',', ' ']
    | none => "      "
  let value := match o.value with
    | some v => " <" ++ v ++ ">"
    | none => ""
  start ++ "--" ++ o.name ++ value

/-- What options in the same place are sorted by. -/
def sortKey (o : OptionText) : String :=
  match o.letter with
  | some c => String.ofList [c, '0']
  | none => o.name

end OptionText

/-- The options that may stand on either side of the command's name, with the network that the
    environment names. -/
def generalOptions (environment : Option String) : List OptionText := [
  { OptionText.flag "verbose" "Log at debug level" with letter := some 'v' },
  .flag "json-logs" "Emit logs as JSON lines on stderr",
  { OptionText.valued "network" "NETWORK"
      "Network whose bridge releases and native addresses apply" with
    notes := ["[env: RSK_NETWORK=" ++ environment.getD "" ++ "]"] }.withDefault "mainnet",
  .valued "config" "CONFIG"
    "Parser config file (.yaml or .json); --network overrides its net id",
  .valued "rpc" "RPC" "JSON-RPC endpoint; defaults to RSK_NODE_URL, then localhost:4444",
  .flag "public" "Use the public RSK node of the selected network"]

/-- The option that asks for help. -/
def helpOption (text : String) : OptionText :=
  { OptionText.flag "help" text with letter := some 'h' }

/-- The option that asks for the version. -/
def versionOption : OptionText :=
  { OptionText.flag "version" "Print version" with letter := some 'V' }

/-- The options that a command has of its own. -/
def ownOptions : String → List OptionText
  | "details" => [
    .valued "address" "ADDRESS" "",
    (OptionText.valued "block" "BLOCK" "Block number or tag").withDefault "latest"]
  | "token-data" => [
    .valued "address" "ADDRESS" "",
    (OptionText.valued "block" "BLOCK" "").withDefault "latest"]
  | "deployment" => [
    .valued "address" "ADDRESS" "",
    .valued "high" "HIGH" "Upper bound of the search (default: latest block)"]
  | "decode-logs" => [
    .valued "file" "FILE" "Path to the JSON file, or `-` for stdin",
    .flag "pretty" "Pretty-print the output"]
  | "release" => [
    (OptionText.valued "height" "HEIGHT" "Block number or `latest`").withDefault "latest",
    .flag "methods" "Also list the release's bridge methods"]
  | _ => []

/-- Two lists of options place by place. -/
def interleave : List OptionText → List OptionText → List OptionText
  | [], others => others
  | own, [] => own
  | o :: own, p :: others =>
    (if o.sortKey ≤ p.sortKey then [o, p] else [p, o]) ++ interleave own others

/-! ## Commands -/

/-- What each command does. -/
def commandTexts : List (String × String) := [
  ("details", "Methods, ERC interfaces and proxy information of a contract"),
  ("token-data", "name, symbol, decimals and totalSupply of a token"),
  ("deployment", "Block and transaction that deployed a contract"),
  ("decode-logs", "Decode logs from a JSON file: an array of logs or a receipt"),
  ("release", "Bridge release active at a height"),
  ("selector", "Selector and topic hash of canonical signatures"),
  ("help", "Print this message or the help of the given subcommand(s)")]

/-- What has to stand behind the name of a command, or may stand there. -/
def arguments : String → String
  | "details" | "token-data" | "deployment" => "[OPTIONS] --address <ADDRESS>"
  | "decode-logs" => "[OPTIONS] --file <FILE>"
  | "selector" => "[OPTIONS] <SIGNATURES>..."
  | "help" => "[COMMAND]..."
  | _ => "[OPTIONS]"

/-- The words behind the name of a command, and what is said about them. -/
def wordsText : String → List (String × String)
  | "selector" => [("<SIGNATURES>...", "e.g. `transfer(address,uint256)`")]
  | "help" => [("[COMMAND]...", "Print help for the subcommand(s)")]
  | _ => []

/-! ## Lines -/

/-- Labels with a text behind each, lined up two columns behind the longest label. -/
def aligned (entries : List (String × String)) : List String :=
  let width := (entries.map (·.1.length)).foldl max 0 + 2
  entries.map fun (label, text) => String.ofList (label.toList.rightpad width ' ') ++ text

/-- Entries that are indented, under a title. -/
def titled (title : String) (entries : List (String × String)) : List String :=
  if entries.isEmpty then []
  else title :: aligned (entries.map fun (label, text) => ("  " ++ label, text))

/-- Options in the short form. -/
def shortOptions (options : List OptionText) : List String :=
  "Options:" :: aligned (options.map fun o =>
    (o.label, " ".intercalate ([o.text].filter (· ≠ "") ++ o.notes)))

/-- An option in the long form. -/
def longOption (o : OptionText) : List String :=
  let described := if o.notes.isEmpty then [o.text] else o.text :: "" :: o.notes
  o.label :: described.map ("          " ++ ·)

/-- Groups of lines with an empty line between them. -/
def spaced (groups : List (List String)) : List String :=
  [""].intercalate (groups.filter (!·.isEmpty))

/-- What the program does, at length. -/
def longAbout : List String := [
  "ChainParser CLI: detect ERC interfaces and proxies, decode bridge and token",
  "logs, and locate contract deployments on RSK.",
  "",
  "ENVIRONMENT VARIABLES:",
  "  RSK_NODE_URL    JSON-RPC endpoint used when --rpc is not given",
  "  RSK_NETWORK     mainnet | testnet (same as --network)",
  "  RUST_LOG        log filter, overrides --verbose",
  ""]

/-- How a command line looks. -/
def usage (arguments : String) : List String := ["Usage: " ++ programName ++ " " ++ arguments]

/-- The help of the program. -/
def programLines (environment : Option String) (long : Bool) : List String :=
  let options (helpText : String) : List OptionText :=
    generalOptions environment ++ [helpOption helpText, versionOption]
  let about := if long then longAbout else ["Inspect RSK contracts and decode their logs"]
  let described :=
    if long then
      "Options:" :: spaced ((options "Print help (see a summary with '-h')").map longOption)
    else shortOptions (options "Print help (see more with '--help')")
  spaced [about, usage "[OPTIONS] <COMMAND>", titled "Commands:" commandTexts, described]

/-- The help of a command. -/
def commandLines (environment : Option String) (name : String) : List String :=
  let options :=
    if name = "help" then []
    else shortOptions
      (interleave (ownOptions name) (generalOptions environment) ++ [helpOption "Print help"])
  spaced [((commandTexts.lookup name).map ([·])).getD [], usage (name ++ " " ++ arguments name),
    titled "Arguments:" (wordsText name), options]

end Help

/-- The help for a topic, with the network that the environment names. -/
def HelpTopic.lines (environment : Option String) : HelpTopic → List String
  | program long => Help.programLines environment long
  | command name => Help.commandLines environment name

end ContractLens.CommandLine
