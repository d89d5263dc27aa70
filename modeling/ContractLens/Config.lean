import ContractLens.Abi.Fragment
import ContractLens.Error
import ContractLens.Network

/-!
# Configuration

The addresses of the built-in contracts, the network, and an interface description. In the JSON form
of a configuration, what is absent has a default value.
-/

namespace ContractLens

/-- The addresses of the built-in contracts (`NativeContractsConfig`). -/
structure NativeConfig where
  bridge : String
  remasc : String
deriving DecidableEq, Repr

namespace NativeConfig

/-- The addresses on the public networks (`NativeContractsConfig.default`). -/
def standard : NativeConfig :=
  ⟨"0x0000000000000000000000000000000001000006", "0x0000000000000000000000000000000001000008"⟩

/-- The addresses that a JSON value describes (`NativeContractsConfig.deserialize`). -/
def ofJson? (value : Json) : Option NativeConfig := do
  let r ← value.record? ["bridge", "remasc"]
  let bridge ← r.withDefault "bridge" standard.bridge Json.text?
  let remasc ← r.withDefault "remasc" standard.remasc Json.text?
  return { bridge, remasc }

/-- The addresses as JSON (`NativeContractsConfig.serialize`). -/
def toJson (c : NativeConfig) : Json := .obj [("bridge", .str c.bridge), ("remasc", .str c.remasc)]

end NativeConfig

/-- A configuration (`ParserConfig`). -/
structure Config where
  natives : NativeConfig
  /-- The number of the network. -/
  networkId : Option UInt64
  /-- The interface description in place of the bundled one. -/
  abi : Option (List Abi.Fragment)
deriving DecidableEq

namespace Config

/-- The configuration without any settings (`ParserConfig.default`). -/
def standard : Config := ⟨.standard, none, none⟩

/-- The configuration for a network (`ParserConfig.for_network`). -/
def ofNetwork (network : Network) : Config := { standard with networkId := some network.id }

/-- The network of a configuration (`ParserConfig.network`). A number without a network is an
    error. -/
def network (c : Config) : Except ConfigError (Option Network) :=
  match c.networkId with
  | none => .ok none
  | some id =>
    match Network.ofId? id with
    | some n => .ok (some n)
    | none => .error (.unsupportedNetwork (Natural.decimal id))

/-! ## JSON -/

/-- The number of a network, as a number or in decimal (`de_net_id`). -/
def idOfJson? : Json → Option UInt64
  | .str s => Natural.decimalWord64? s
  | value => value.word?

/-- The number of the network that an object describes (`NetConfig.deserialize`). -/
def netOfJson? (value : Json) : Option UInt64 := do
  let r ← value.record? ["id"]
  r.required "id" idOfJson?

/-- The configuration that a JSON value describes (`ParserConfig.deserialize`). -/
def ofJson? (value : Json) : Option Config := do
  let r ← value.record? ["nativeContracts", "net", "abi"]
  let natives ← r.withDefault "nativeContracts" .standard NativeConfig.ofJson?
  let networkId ← r.optional "net" netOfJson?
  let abi ← r.optional "abi" Abi.Fragment.listOfJson?
  return { natives, networkId, abi }

/-- The configuration as JSON (`ParserConfig.serialize`). -/
def toJson (c : Config) : Json :=
  .obj [("nativeContracts", c.natives.toJson),
    ("net", Json.ofOption (fun id => .obj [("id", .ofWord id)]) c.networkId),
    ("abi", Json.ofOption (fun abi => .arr (abi.map Abi.Fragment.toJson)) c.abi)]

end Config

end ContractLens
