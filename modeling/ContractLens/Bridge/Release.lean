import ContractLens.Abi.SignatureTable
import ContractLens.Bridge.Abi
import ContractLens.Error
import ContractLens.Json.Printer
import ContractLens.Network

/-!
# Releases of the bridge

The network upgrades and the interface of the bridge in each. A release is active from its
activation height up to the one before the next release's; the last one stays active.

* `Release.tableOf` lists the releases of a network by height.
* `Release.resolve` is the one that is active at a height.
-/

namespace ContractLens.Bridge

/-- A network upgrade: its name, its activation height and the bridge's interface (`RskRelease`). -/
structure Release where
  name : String
  height : UInt64
  abi : List Abi.Fragment

/-- The height for which a release is wanted. -/
inductive ReleaseHeight where
  | latest
  | number (n : UInt64)
deriving DecidableEq, Repr

namespace ReleaseHeight

/-- The height as text (`ReleaseHeight.fmt`). -/
def text : ReleaseHeight → String
  | latest => "latest"
  | number n => Natural.decimal n

/-- A height that is missing stands for the latest release (`ReleaseHeight.from`). -/
def ofOption : Option UInt64 → ReleaseHeight
  | some n => number n
  | none => latest

/-- The height that `latest` or a decimal number stands for (`ReleaseHeight.from_str`). -/
def ofText (s : String) : Except ConfigError ReleaseHeight :=
  if s = "latest" then .ok latest
  else match Natural.decimalWord64? s with
    | some n => .ok (number n)
    | none => .error (.invalidHeight s)

/-- The height that the string `latest` or a whole number stands for (`ReleaseHeight.try_from`).
    Numbers in strings do not count. -/
def ofJson : Json → Except ConfigError ReleaseHeight
  | .str "latest" => .ok latest
  | value => match value.word? with
    | some n => .ok (number n)
    | none => .error (.invalidHeight value.compact)

end ReleaseHeight

namespace Release

/-- The release as JSON (`RskRelease.serialize`). -/
def toJson (r : Release) : Json := .obj [("name", .str r.name), ("height", .ofWord r.height)]

/-- The releases of the main network (`MAINNET`). -/
def mainnet : List Release := [
  ⟨"orchid", 0, Bridge.orchid⟩, ⟨"wasabi", 1591000, Bridge.wasabi⟩,
  ⟨"papyrus", 2392700, Bridge.papyrus⟩, ⟨"iris", 3614800, Bridge.iris⟩,
  ⟨"hop", 4598500, Bridge.hop⟩, ⟨"fingerroot", 5468000, Bridge.fingerroot⟩,
  ⟨"lovell", 7338024, Bridge.lovell⟩, ⟨"reed", 8052200, Bridge.reed⟩]

/-- The releases of the test network (`TESTNET`). -/
def testnet : List Release := [
  ⟨"wasabi", 0, Bridge.wasabi⟩, ⟨"papyrus", 863000, Bridge.papyrus⟩,
  ⟨"iris", 2060500, Bridge.iris⟩, ⟨"hop", 3103000, Bridge.hop⟩,
  ⟨"fingerroot", 4015800, Bridge.fingerroot⟩, ⟨"lovell", 6110487, Bridge.lovell⟩,
  ⟨"reed", 6835700, Bridge.reed⟩]

/-- The releases of a network by height (`releases`). Not every network has a table. -/
def tableOf : Network → Except ConfigError (List Release)
  | .mainnet => .ok mainnet
  | .testnet => .ok testnet
  | .regtest => .error (.unsupportedNetwork Network.regtest.name)

/-- The last release of a table that is active at a height (in `resolve_release`). -/
def activeAt? (n : UInt64) (table : List Release) : Option Release :=
  table.reverse.find? fun r => r.height ≤ n

/-- The release that is active at a height (`resolve_release`). Heights before the first activation
    belong to the first release. -/
def resolve (height : ReleaseHeight) (network : Network) : Except ConfigError Release := do
  let table ← tableOf network
  let release := match height with
    | .latest => table.getLast?
    | .number n => (activeAt? n table).or table.head?
  match release with
  | some r => return r
  | none => throw (.unsupportedNetwork network.name)

/-- The release for a height and a network given as text (`resolve_release_str`). -/
def resolveText (height network : String) : Except ConfigError Release :=
  match Network.ofText? network with
  | none => .error (.unsupportedNetwork network)
  | some network => do
    let height ← ReleaseHeight.ofText height
    resolve height network

/-- The canonical signatures of a release's functions (in `latest_bridge_methods`). -/
def methods (r : Release) : List String :=
  (r.abi.filter (·.isFunction)).filterMap (·.canonicalSignature?)

/-- The canonical signatures of the functions of a network's newest release
    (`latest_bridge_methods`). -/
def latestMethods (network : Network) : Except ConfigError (List String) := do
  let release ← resolve .latest network
  return release.methods

end Release

end ContractLens.Bridge
