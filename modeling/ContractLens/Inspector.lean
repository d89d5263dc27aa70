import ContractLens.Abi.Bundled
import ContractLens.Bridge.Decoder
import ContractLens.EventAddresses
import ContractLens.Fingerprint
import ContractLens.NativeContracts
import ContractLens.Search

/-!
# Inspecting contracts and decoding their logs

An `Inspector` is made from a configuration. It knows an interface description, the built-in
contracts and, if it has a network, how to decode their logs.

* `details` tells what is known of a contract: whether it is a proxy, its functions and its
  interfaces.
* `decodeLogs` decodes the logs of built-in contracts by the bridge's releases and all others by the
  interface description.
* `tokenData` asks for the usual data of a token.
-/

namespace ContractLens

open Abi

/-! ## Details of contracts -/

/-- The functions that were found in code, and the interfaces that they complete. -/
structure MethodsAndInterfaces where
  methods : List String
  interfaces : List String
deriving DecidableEq, Repr

/-- The findings as JSON (`MethodsAndInterfaces.serialize`). -/
def MethodsAndInterfaces.toJson (f : MethodsAndInterfaces) : Json :=
  .obj [("methods", .ofTexts f.methods), ("interfaces", .ofTexts f.interfaces)]

/-- What is known of a contract at a block. -/
structure ContractDetails where
  address : String
  isProxy : Bool
  implementation : Option String
  beacon : Option String
  proxyType : Option ProxyType
  methods : List String
  interfaces : List String
deriving DecidableEq, Repr

namespace ContractDetails

/-- A contract that is no proxy, with functions and interfaces (`ContractDetails.new`). -/
def plain (address : String) (methods interfaces : List String) : ContractDetails :=
  ⟨address, false, none, none, none, methods, interfaces⟩

/-- The interfaces with the one that a proxy has by being one in front (in
    `ContractDetails.with_fingerprint`). It is not repeated. -/
def withMarker (marker : Option String) (interfaces : List String) : List String :=
  match marker with
  | some m => m :: interfaces.filter (· ≠ m)
  | none => interfaces

/-- A proxy with the findings in the code of its implementation (`ContractDetails.from` and
    `ContractDetails.with_fingerprint`). -/
def ofResolution (r : ProxyResolution) (found : MethodsAndInterfaces) : ContractDetails :=
  ⟨r.address, r.isProxy, r.implementation, r.beacon, r.proxyType, found.methods,
    withMarker (r.proxyType.bind ProxyType.marker?) found.interfaces⟩

/-- The details as JSON (`ContractDetails.serialize`). -/
def toJson (d : ContractDetails) : Json :=
  .obj [("address", .str d.address), ("isProxy", .bool d.isProxy),
    ("implementationAddress", Json.ofOption .str d.implementation),
    ("beaconAddress", Json.ofOption .str d.beacon),
    ("proxyType", Json.ofOption (fun t => .str t.description) d.proxyType),
    ("methods", .ofTexts d.methods), ("interfaces", .ofTexts d.interfaces)]

end ContractDetails

/-- The usual data of a token; what could not be asked is missing. -/
structure TokenData where
  name : Option Value
  symbol : Option Value
  decimals : Option Value
  totalSupply : Option Value

/-- The data as JSON (`TokenData.serialize`). -/
def TokenData.toJson (t : TokenData) : Json :=
  .obj [("name", Json.ofOption Value.toJson t.name),
    ("symbol", Json.ofOption Value.toJson t.symbol),
    ("decimals", Json.ofOption Value.toJson t.decimals),
    ("totalSupply", Json.ofOption Value.toJson t.totalSupply)]

/-! ## Inspectors -/

/-- How a log is decoded (`DecoderKind`). -/
inductive LogDecoder where
  | standard (decoder : EventDecoder)
  | native (decoder : Bridge.Decoder)

namespace LogDecoder

/-- Whether the log is one of a built-in contract (`DecoderKind.is_native`). -/
def isNative : LogDecoder → Bool
  | standard _ => false
  | native _ => true

/-- A log decoded (`DecoderKind.decode`). -/
def decodeLog : LogDecoder → RawLog → Noted DecodedLog
  | standard d, log => d.decodeLog log
  | native d, log => d.decodeLog log

end LogDecoder

/-- What contracts are inspected with (`ContractParser`). -/
structure Inspector where
  abi : List Fragment
  signatures : SignatureTable
  events : EventDecoder
  natives : NativeContracts
  network : Option Network
  bridge : Option Bridge.Decoder

namespace Inspector

/-- The inspector with an interface description, the bundled one if there is none
    (`ContractParser.set_abi`). Of the events with the same layout only the first stays. -/
def withAbi (i : Inspector) (abi : Option (List Fragment)) : Inspector :=
  let given := abi.getD Bundled.fragments
  let signatures := SignatureTable.ofFragments given
  let kept := dedupeEvents given signatures
  { i with abi := kept, signatures, events := EventDecoder.ofTable kept signatures }

/-- A network as it is shown in diagnostics. -/
def networkText : Option Network → String
  | some .mainnet => "Some(Mainnet)"
  | some .testnet => "Some(Testnet)"
  | some .regtest => "Some(Regtest)"
  | none => "None"

/-- The decoder for the built-in contracts' logs on the configured network (in
    `ContractParser.new`). -/
def bridgeDecoder : Option Network → Noted (Except ConfigError (Option Bridge.Decoder))
  | none => pure (.ok none)
  | some n => do
    let d ← Bridge.Decoder.ofNetwork n
    return d.map some

/-- The inspector for a configuration (`ContractParser.new`). Its network has to have a table of
    releases and the addresses of the built-in contracts have to be addresses. -/
def ofConfig (c : Config) : Noted (Except ConfigError Inspector) :=
  match c.network with
  | .error e => pure (.error e)
  | .ok network => do
    match ← bridgeDecoder network with
    | .error e => pure (.error e)
    | .ok bridge =>
      let natives := NativeContracts.ofConfig c.natives
      match natives.validate with
      | .error e => pure (.error e)
      | .ok () =>
        let i := withAbi ⟨[], .empty, ⟨[]⟩, natives, network, bridge⟩ c.abi
        Noted.note ⟨.debug, "contract parser ready",
          [("network", networkText network), ("fragments", toString i.abi.length),
            ("events", toString i.events.events.length)]⟩
        pure (.ok i)

/-- The inspector as it is shown in diagnostics (`ContractParser.fmt`). -/
def debugText (i : Inspector) : String :=
  "ContractParser \x7b abi_fragments: " ++ toString i.abi.length ++ ", network: " ++
    networkText i.network ++ ", natives: " ++ i.natives.debugText ++ " \x7d"

/-! ## Functions -/

/-- An association list with the last value of each key at the place of the first one (in
    `ContractParser.get_abi_methods`). -/
def insertLast {α : Type} (pairs : List (String × α)) (key : String) (value : α) :
    List (String × α) :=
  if pairs.any (·.1 == key) then pairs.map fun (k, v) => if k = key then (k, value) else (k, v)
  else pairs ++ [(key, value)]

/-- The signature of each named function by its canonical signature
    (`ContractParser.get_abi_methods`). -/
def methods (i : Inspector) : List (String × Signature) :=
  (i.abi.filter (·.isFunction)).foldl (fun pairs f =>
    let s := i.signatures.signature f
    match s.method with
    | some method => insertLast pairs method s
    | none => pairs) []

/-- The selector of each named function by its canonical signature
    (`ContractParser.get_methods_selectors`). -/
def selectors (i : Inspector) : List (String × String) := functionSelectors i.abi i.signatures

/-- The functions whose selectors occur in code
    (`ContractParser.get_methods_from_contract_bytecode`). -/
def methodsInCode (i : Inspector) (code : Option String) : List String :=
  Fingerprint.matchMethods code i.selectors

/-- The functions and interfaces in the code at an address
    (`ContractParser.get_contract_methods_and_erc_interfaces`). -/
def fingerprint (i : Inspector) (address : String) (block : BlockTag) :
    Query InspectError MethodsAndInterfaces := do
  let code ← (Query.getCode address block).mapError .node
  let methods := i.methodsInCode (some code)
  return ⟨methods, Interface.namesOfMethods methods⟩

/-! ## Details -/

/-- What storage and code tell about the contract at an address (`ContractParser.inspect`). -/
def inspect (i : Inspector) (address : String) (block : BlockTag) :
    Query InspectError ContractDetails := do
  let r ← ProxyResolution.resolve address block
  match r.implementation with
  | none =>
    let found ← i.fingerprint address block
    return .plain address found.methods found.interfaces
  | some implementation =>
    let pattern := match r.proxyType with
      | some t => "Some(" ++ t.label ++ ")"
      | none => "None"
    Query.note ⟨.debug, "fingerprinting proxy implementation",
      [("address", address), ("implementation", implementation), ("proxy_type", pattern)]⟩
    let found ← i.fingerprint implementation block
    return .ofResolution r found

/-- The details of the contract at an address (`ContractParser.get_contract_details`). Nothing is
    asked about a built-in contract. -/
def details (i : Inspector) (address : String) (block : BlockTag) :
    Query InspectError ContractDetails := do
  if i.natives.isNative address then
    match i.natives.methods address (i.network.getD .mainnet) with
    | .ok methods => return .plain address methods []
    | .error e => .fail (.config e)
  else
    match ← Query.attempt (i.inspect address block) with
    | .ok d => return d
    | .error e =>
      Query.note ⟨.error, "error getting contract details", [("address", address)]⟩
      .fail e

/-! ## Logs -/

/-- How a log is decoded, by the address that it comes from (`ContractParser.decoder_for`). -/
def decoderFor (i : Inspector) (log : RawLog) : Except ConfigError LogDecoder :=
  match i.bridge with
  | none => .error .networkMissing
  | some bridge =>
    if i.natives.isNative log.address then .ok (.native bridge) else .ok (.standard i.events)

/-- Logs decoded one by one (in `ContractParser.decode_logs`). -/
def decodeEach (i : Inspector) : List RawLog → Noted (Except ConfigError (List DecodedLog))
  | [] => pure (.ok [])
  | log :: logs =>
    match i.decoderFor log with
    | .error e => pure (.error e)
    | .ok decoder => do
      let decoded ← decoder.decodeLog log
      let rest ← i.decodeEach logs
      return rest.map (decoded :: ·)

/-- Logs decoded one by one, for which a network is needed even if there are none
    (`ContractParser.decode_logs`). -/
def decodeLogs (i : Inspector) (logs : List RawLog) :
    Noted (Except ConfigError (List DecodedLog)) :=
  match i.bridge with
  | none => pure (.error .networkMissing)
  | some _ => i.decodeEach logs

/-- Logs decoded with the addresses that they carry (`ContractParser.parse_tx_logs`). -/
def parseLogs (i : Inspector) (logs : List RawLog) :
    Noted (Except ConfigError (List DecodedLog)) := do
  let decoded ← i.decodeLogs logs
  return decoded.map fun ds => ds.map DecodedLog.withAddresses

/-! ## Calls -/

/-- The contract at an address with the inspector's interface description
    (`ContractParser.make_contract`). -/
def contract (i : Inspector) (address : String) : Contract := ⟨i.abi, address⟩

/-- What a call returns, or nothing if it fails (`ContractParser.call`). -/
def tryCall {ε : Type} (c : Contract) (method : String) (params : List String) (block : BlockTag) :
    Query ε (Option Value) := do
  match ← Query.attempt (c.call method params block) with
  | .ok value => return some value
  | .error _ =>
    Query.note ⟨.debug, "contract call failed", [("address", c.address), ("method", method)]⟩
    return none

/-- The usual data of a token (`ContractParser.get_default_token_data`). -/
def tokenData {ε : Type} (c : Contract) (block : BlockTag) : Query ε TokenData := do
  let name ← tryCall c "name" [] block
  let symbol ← tryCall c "symbol" [] block
  let decimals ← tryCall c "decimals" [] block
  let totalSupply ← tryCall c "totalSupply" [] block
  return { name, symbol, decimals, totalSupply }

end Inspector

/-- A contract as it is shown in diagnostics (`Contract.fmt`). -/
def Contract.debugText (c : Contract) : String :=
  "Contract \x7b address: " ++ Quoted.text c.address ++ ", functions: " ++
    toString (c.abi.filter (·.isFunction)).length ++ " \x7d"

end ContractLens
