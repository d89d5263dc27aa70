import ContractLens.Node.Query
import ContractLens.Rpc.Transport

/-!
# Asking a node by JSON-RPC

Each question that can be put to a node is one request: `NodeCall.request` writes it and
`NodeCall.read` reads the result. A `Client` numbers its requests from one, and the number grows
with every question, whatever comes of it. The requests that it has sent are kept in order:
`Client.send` is the only way to the node, and it adds the request to them.
-/

namespace ContractLens

/-! ## Questions as requests -/

namespace NodeCall

/-- The method that answers a question (in `RpcNodeClient.get_code` and its siblings). -/
def method : NodeCall → String
  | code .. => "eth_getCode"
  | storage .. => "eth_getStorageAt"
  | call .. => "eth_call"
  | blockNumber => "eth_blockNumber"
  | block .. => "eth_getBlockByNumber"
  | receipt _ => "eth_getTransactionReceipt"
  | trace _ => "trace_block"

/-- The parameters of a question (in `RpcNodeClient.get_code` and its siblings). -/
def params : NodeCall → List Json
  | code address tag => [.str address, .str tag.text]
  | storage address slot tag => [.str address, .str slot, .str tag.text]
  | call address data tag => [.obj [("to", .str address), ("data", .str data)], .str tag.text]
  | blockNumber => []
  | block tag full => [.str tag.text, .bool full]
  | receipt hash | trace hash => [.str hash]

/-- The request of a question (`JsonRpcRequest.new`). -/
def request (c : NodeCall) (id : UInt64) : Rpc.Request := ⟨id, c.method, c.params⟩

/-- What a question is answered with. -/
def Answer : NodeCall → Type
  | code .. | storage .. | call .. => String
  | blockNumber => UInt64
  | block .. => Option Block
  | receipt _ => Option Receipt
  | trace _ => List InternalTransaction

/-- The answer in a result; none if the result is of the wrong shape (in `RpcNodeClient.request` and
    `RpcNodeClient.block_number`). A trace that is `null` is empty. -/
def answer? : (c : NodeCall) → Json → Option c.Answer
  | code .., result | storage .., result | call .., result => result.text?
  | blockNumber, result => result.text?.bind Quantity.ofText?
  | block .., result => Json.nullable? Block.ofJson? result
  | receipt _, result => Json.nullable? Receipt.ofJson? result
  | trace _, result =>
    (Json.nullable? (Json.list? InternalTransaction.ofJson?) result).map (·.getD [])

/-- Why a result answers no question of this kind (in `RpcNodeClient.request` and
    `RpcNodeClient.block_number`). -/
def faultIn (c : NodeCall) (result : Json) : String :=
  match c, result with
  | blockNumber, .str s => "not a quantity: " ++ s
  | _, _ => "result of the wrong shape"

/-- The answer in a result, or the error of a result of the wrong shape (in
    `RpcNodeClient.request`). -/
def read (c : NodeCall) (result : Json) : Except NodeError c.Answer :=
  match c.answer? result with
  | some a => .ok a
  | none => .error (.invalidResponse c.method (c.faultIn result))

/-- An answer as JSON. -/
def answerToJson : (c : NodeCall) → c.Answer → Json
  | code .., (a : String) | storage .., (a : String) | call .., (a : String) => .str a
  | blockNumber, (a : UInt64) => .ofWord a
  | block .., (a : Option Block) => Json.ofOption Block.toJson a
  | receipt _, (a : Option Receipt) => Json.ofOption Receipt.toJson a
  | trace _, (a : List InternalTransaction) => .arr (a.map InternalTransaction.toJson)

end NodeCall

namespace Rpc

/-! ## Clients -/

/-- What a reply to a question's request means (in `RpcNodeClient.request`). -/
def readReply (c : NodeCall) : Except TransportError Response → Except NodeError c.Answer
  | .error e => .error e.toNodeError
  | .ok response =>
    match response.outcome with
    | .error e => .error (TransportError.rpc e).toNodeError
    | .ok result => c.read result

/-- A client: the way to its node, the number of its next request, and the requests that it has
    sent, in order (`RpcNodeClient`). -/
structure Client where
  transport : Transport
  nextId : UInt64
  sent : List Request

/-- One question with its request, its answer and the client after it. -/
structure Exchange (call : NodeCall) where
  request : Request
  answer : Except NodeError call.Answer
  client : Client

namespace Client

/-- A new client (`RpcNodeClient.new`). -/
def ofTransport (transport : Transport) : Client := ⟨transport, 1, []⟩

/-- A request sent to the node: the reply to it, and the client after it (`RpcTransport.send`). -/
def send (client : Client) (request : Request) : Except TransportError Response × Client :=
  (client.transport.send request, { client with sent := client.sent ++ [request] })

/-- A question put to the node (`RpcNodeClient.request`). -/
def ask (client : Client) (call : NodeCall) : Noted (Exchange call) := do
  let id := client.nextId
  let numbered := { client with nextId := id + 1 }
  Noted.note ⟨.trace, "rpc request", [("id", Natural.decimal id), ("method", call.method)]⟩
  let request := call.request id
  let (reply, after) := numbered.send request
  return ⟨request, readReply call reply, after⟩

end Client

end Rpc

end ContractLens
