import ContractLens.Abi.Literal
import ContractLens.EventDecoder
import ContractLens.Node.Query

/-!
# Calling contracts

A contract is an address with an interface description. The data of a call is the function's
selector and the encoding of its parameters, which are given as text; returned data is read along
the function's outputs. A single output comes as it is, several as a tuple.
-/

namespace ContractLens

open Abi

/-- A contract at an address. -/
structure Contract where
  abi : List Fragment
  address : String

namespace Contract

/-- Whether a function goes by this name, or, if the text has a parenthesis, by this signature (in
    `Contract.function`). -/
def answersTo (method : String) (f : Fragment) : Bool :=
  if method.toList.contains '(' then f.canonicalSignature? == some method
  else f.name? == some method

/-- The first function that goes by a name or signature (`Contract.function`). -/
def function (c : Contract) (method : String) : Except DecodeError Fragment :=
  match (c.abi.filter (·.isFunction)).find? (answersTo method) with
  | some f => .ok f
  | none => .error (.unknownFunction method)

/-- The value of a parameter given as text (in `Contract.encode_call`). -/
def paramDatum (p : Param) (text : String) : Except DecodeError Datum := do
  let type ← EventDecoder.paramType p
  match type.ofText? text with
  | some d => return d
  | none => throw (.paramMismatch p.name)

/-- The values of parameters given as texts (in `Contract.encode_call`). -/
def paramData : List Param → List String → Except DecodeError (List Datum)
  | p :: ps, text :: texts => do
    let d ← paramDatum p text
    let ds ← paramData ps texts
    return d :: ds
  | _, _ => .ok []

/-- The data of a call (`Contract.encode_call`). -/
def encodeCall (c : Contract) (method : String) (params : List String) :
    Except DecodeError (List UInt8) := do
  let f ← c.function method
  if params.length ≠ f.inputs.length then
    throw (.paramCount method f.inputs.length params.length)
  let data ← paramData f.inputs params
  match f.canonicalSignature? with
  | none => throw (.unknownFunction method)
  | some signature =>
    let selector ← decodeHex (methodSelector signature)
    return selector ++ Datum.encodeParams data

/-- The value that returned data holds (`Contract.decode_call`). -/
def decodeCall (c : Contract) (method : String) (data : List UInt8) : Except DecodeError Value := do
  let f ← c.function method
  if f.outputs.isEmpty then return .null
  let types ← f.outputs.mapM EventDecoder.paramType
  match AbiType.decodeParams types data with
  | .error fault => throw (.outputMismatch method fault)
  | .ok [d] => return Value.ofDatum d
  | .ok ds => return .tuple (Value.ofData ds)

/-- The value that a call at a block returns (`Contract.call`). -/
def call (c : Contract) (method : String) (params : List String) (block : BlockTag) :
    Query InspectError Value := do
  let data ← .ofExcept ((c.encodeCall method params).mapError .decode)
  let reply ← (Query.callContract c.address (Hex.encodePrefixed data) block).mapError .node
  let raw ← .ofExcept ((decodeHex reply).mapError .decode)
  .ofExcept ((c.decodeCall method raw).mapError .decode)

end Contract

end ContractLens
