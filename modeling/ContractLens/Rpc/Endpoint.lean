import ContractLens.Network
import ContractLens.Rpc.Retry
import ContractLens.Rpc.Transport
import ContractLens.Text.Quoted

/-!
# Endpoints

Where a node is reached and with how much patience. A URL that is not configured comes from the
environment, and without one there the node is a local one. Two networks have a public node.
-/

namespace ContractLens.Rpc

/-- The settings of a connection (`NodeConfig`). -/
structure Endpoint where
  url : Option String
  /-- How long to wait for a response, in milliseconds. -/
  timeout : UInt64
  retry : RetryPolicy

namespace Endpoint

/-- The endpoint without any settings (`NodeConfig.default`). -/
def standard : Endpoint := ⟨none, 30000, .standard⟩

/-- The endpoint at a URL (`NodeConfig.with_url`). -/
def ofUrl (url : String) : Endpoint := { standard with url := some url }

/-- The URL of a node on the local machine (`DEFAULT_NODE_URL`). -/
def localUrl : String := "http://localhost:4444"

/-- The configured URL, or a non-empty one from the environment, or the local node
    (`NodeConfig.url`). -/
def urlIn (e : Endpoint) (environment : Option String) : String :=
  (e.url.or (environment.filter (· ≠ ""))).getD localUrl

/-- The URL of the public node of a network, if there is one (`public_node_url`). -/
def publicUrl? : Network → Option String
  | .mainnet => some "https://public-node.rsk.co"
  | .testnet => some "https://public-node.testnet.rsk.co"
  | .regtest => none

/-- The public node of a network with the usual settings (`NodeConfig.public`). -/
def ofNetwork? (network : Network) : Option Endpoint := (publicUrl? network).map ofUrl

/-- The public node of a network with more patience (`public_client`). -/
def patient (network : Network) : Except TransportError Endpoint :=
  match publicUrl? network with
  | some url => .ok ⟨some url, 30000, ⟨5, 500, 30000, 2.0⟩⟩
  | none => .error (.setup ("no public node for " ++ network.name))

/-- The settings that a JSON value describes; what is absent is as in the standard ones
    (`NodeConfig.deserialize`). -/
def ofJson? (value : Json) : Option Endpoint := do
  let r ← value.record? ["url", "timeout_ms", "retry"]
  let url ← r.optional "url" Json.text?
  let timeout ← r.withDefault "timeout_ms" standard.timeout Json.word?
  let retry ← r.withDefault "retry" standard.retry RetryPolicy.ofJson?
  return { url, timeout, retry }

end Endpoint

/-! ## Diagnostics -/

/-- Milliseconds in seconds with the decimals that are not zero, or in milliseconds below one
    second. -/
def durationText (milliseconds : UInt64) : String :=
  let seconds := milliseconds / 1000
  let rest := (milliseconds % 1000).toNat
  if milliseconds = 0 then "0ns"
  else if seconds = 0 then toString rest ++ "ms"
  else if rest = 0 then Natural.decimal seconds ++ "s"
  else
    let digits := Nat.toDigits 10 (1000 + rest)
    let decimals := (digits.tail.reverse.dropWhile (· == '0')).reverse
    Natural.decimal seconds ++ "." ++ String.ofList decimals ++ "s"

/-- A transport over HTTP as it is shown in diagnostics (`HttpTransport.fmt`). -/
def transportText (url : String) (timeout : UInt64) : String :=
  "HttpTransport \x7b url: " ++ Quoted.text url ++ ", timeout: " ++ durationText timeout ++ " \x7d"

/-- A client as it is shown in diagnostics (`RpcNodeClient.fmt`). -/
def clientText (url : String) : String :=
  "RpcNodeClient \x7b url: " ++ Quoted.text url ++ " \x7d"

end ContractLens.Rpc
