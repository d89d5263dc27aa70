import ContractLens.Json.Basic

/-!
# JSON-RPC messages

Requests to a node and its responses. A response carries a result or an error; where it has both,
the error counts, and where it has neither, the result is `null`.
-/

namespace ContractLens.Rpc

/-- The version of the protocol that is written into messages. -/
def version : String := "2.0"

/-! ## Requests -/

/-- A request: its number, the method and the parameters (`JsonRpcRequest`). -/
structure Request where
  id : UInt64
  method : String
  params : List Json

/-- The request as JSON (`JsonRpcRequest.serialize`). -/
def Request.toJson (r : Request) : Json :=
  .obj [("jsonrpc", .str version), ("method", .str r.method), ("params", .arr r.params),
    ("id", .ofWord r.id)]

/-! ## Responses -/

/-- What a node reports when a call fails, with data such as the payload of a revert
    (`JsonRpcError`). -/
structure CallError where
  code : Int
  message : String
  data : Option Json

namespace CallError

/-- The number that a JSON value is, if it is whole and has at most 64 bits with its sign. -/
def codeOfJson? : Json → Option Int
  | .int n => if -(Nat.pow 2 63) ≤ n ∧ n < Nat.pow 2 63 then some n else none
  | _ => none

/-- The error that a JSON value describes (`JsonRpcError.deserialize`). -/
def ofJson? (value : Json) : Option CallError := do
  let r ← value.record? ["code", "message", "data"]
  let code ← r.required "code" codeOfJson?
  let message ← r.required "message" Json.text?
  let data ← r.optional "data" some
  return { code, message, data }

/-- The error as JSON (`JsonRpcError.serialize`). -/
def toJson (e : CallError) : Json :=
  .obj ([("code", .int e.code), ("message", .str e.message)] ++
    Json.fieldOfOption "data" (fun v => v) e.data)

/-- The error as text (`JsonRpcError.fmt`). -/
def text (e : CallError) : String := "JSON-RPC error " ++ toString e.code ++ ": " ++ e.message

end CallError

/-- A response of a node (`JsonRpcResponse`). -/
structure Response where
  version : String
  id : Json
  result : Option Json
  error : Option CallError

namespace Response

/-- A response with a result (`JsonRpcResponse.ok`). -/
def ofResult (id : UInt64) (result : Json) : Response :=
  ⟨Rpc.version, .ofWord id, some result, none⟩

/-- A response with an error that has no data (`JsonRpcResponse.err`). -/
def ofError (id : UInt64) (code : Int) (message : String) : Response :=
  ⟨Rpc.version, .ofWord id, none, some ⟨code, message, none⟩⟩

/-- The response that a JSON value describes (`JsonRpcResponse.deserialize`). -/
def ofJson? (value : Json) : Option Response := do
  let r ← value.record? ["jsonrpc", "id", "result", "error"]
  let version ← r.withDefault "jsonrpc" "" Json.text?
  let id ← r.withDefault "id" .null some
  let result ← r.optional "result" some
  let error ← r.optional "error" CallError.ofJson?
  return { version, id, result, error }

/-- The response as JSON (`JsonRpcResponse.serialize`). -/
def toJson (r : Response) : Json :=
  .obj ([("jsonrpc", .str r.version), ("id", r.id)] ++
    Json.fieldOfOption "result" (fun v => v) r.result ++
    Json.fieldOfOption "error" CallError.toJson r.error)

/-- What the call came to (`JsonRpcResponse.into_result`). -/
def outcome (r : Response) : Except CallError Json :=
  match r.error with
  | some e => .error e
  | none => .ok (r.result.getD .null)

end Response

end ContractLens.Rpc
