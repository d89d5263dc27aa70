import ContractLens.Error
import ContractLens.Rpc.Message

/-!
# Transports

The way to a node. A `Transport` brings a request to an endpoint and the response back;
`TransportError` lists why that may fail. Failures of the connection are worth another attempt,
errors that the node itself reports are final.
-/

namespace ContractLens.Rpc

/-- Why a request has no response. -/
inductive TransportError where
  /-- The connection failed or the status was no success. -/
  | http (message : String)
  | timeout (milliseconds : UInt64)
  | rpc (error : CallError)
  /-- The response is of the wrong shape. -/
  | malformed
  /-- The transport could not be set up. -/
  | setup (reason : String)

namespace TransportError

/-- The message of an error (`TransportError.fmt`). -/
def message : TransportError → String
  | http message => "HTTP error: " ++ message
  | timeout ms => "Request timed out after " ++ Natural.decimal ms ++ "ms"
  | rpc e => "RPC error " ++ toString e.code ++ ": " ++ e.message
  | malformed => "Deserialization error: not a response"
  | setup reason => "Client setup failed: " ++ reason

/-- Whether another attempt may succeed (`TransportError.is_retryable`). -/
def isRetryable : TransportError → Bool
  | http _ | timeout _ => true
  | _ => false

/-- The error as one of the node (`NodeError.from`). -/
def toNodeError : TransportError → NodeError
  | rpc e => .rpc e.code e.message
  | malformed => .malformed
  | e => .transport e.message

end TransportError

/-- A way to a node: its endpoint and the response to each request (`RpcTransport`). -/
structure Transport where
  url : String
  send : Request → Except TransportError Response

end ContractLens.Rpc
