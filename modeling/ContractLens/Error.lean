import ContractLens.Abi.Decode
import ContractLens.Text.Hex
import ContractLens.Text.Quoted

/-!
# Errors

The causes for which an operation has no answer, each with its message.

* `ConfigError`: input or configuration that cannot be used.
* `DecodeError`: a call or a payload that does not fit its description.
* `NodeError`: what a node or the way to it reported.
* `InspectError`: any of these, or a beacon that names no implementation.
-/

namespace ContractLens

/-! ## Input and configuration -/

/-- Input or configuration that cannot be used. -/
inductive ConfigError where
  | unsupportedNetwork (network : String)
  | invalidHeight (value : String)
  /-- An interface description that is no array. -/
  | abiNotArray
  /-- An interface description that does not read. -/
  | abiUnreadable
  | invalidAddress (value : String)
  /-- Logs cannot be decoded without a network. -/
  | networkMissing
  | fileUnreadable
  | yamlUnreadable
  | jsonUnreadable
deriving DecidableEq, Repr

/-- The message of an error (`ConfigError.fmt`). -/
def ConfigError.message : ConfigError → String
  | unsupportedNetwork network => "Unsupported network: " ++ network
  | invalidHeight value => "Invalid block height: " ++ value
  | abiNotArray => "Invalid ABI: ABI must be a JSON array"
  | abiUnreadable => "Invalid ABI: not a list of fragments"
  | invalidAddress value => "Invalid address: " ++ value
  | networkMissing => "Native contract decoding requires a configured network id"
  | fileUnreadable => "Config file error: the file cannot be read"
  | yamlUnreadable | jsonUnreadable => "Config parse error: not a configuration"

/-! ## Decoding and encoding -/

/-- Why bytes are no RLP. -/
inductive RlpFault where
  /-- The bytes end before the item does. -/
  | tooShort
  /-- The length of a length starts with a zero byte. -/
  | lengthWithZero
  /-- A long form is used for a length of at most 55. -/
  | needlessLongForm
deriving DecidableEq, Repr

/-- The name of a fault. -/
def RlpFault.message : RlpFault → String
  | tooShort => "RlpIsTooShort"
  | lengthWithZero => "RlpDataLenWithZeroPrefix"
  | needlessLongForm => "RlpInvalidIndirection"

/-- A call or a payload that does not fit its description. -/
inductive DecodeError where
  /-- A text that is the type of no value. -/
  | unknownType (type : String)
  /-- A topic that does not hold its parameter's value. -/
  | topicMismatch (param : String) (fault : Abi.DecodeFault)
  /-- Event data that does not hold the values of the parameters. -/
  | dataMismatch (fault : Abi.DecodeFault)
  /-- An indexed parameter without a topic. -/
  | topicMissing (param : String)
  /-- Returned data that does not hold the values of a method's outputs. -/
  | outputMismatch (method : String) (fault : Abi.DecodeFault)
  /-- A wrong number of parameters. -/
  | paramCount (method : String) (expected given : Nat)
  /-- A text that is no value of its parameter's type. -/
  | paramMismatch (param : String)
  | rlp (fault : RlpFault)
  | federationsNotList
  | federationNotList
  | invalidHex (value : String) (digit : Hex.BadDigit)
  | unknownFunction (name : String)
deriving DecidableEq, Repr

/-- The message of an error (`DecodeError.fmt`). -/
def DecodeError.message : DecodeError → String
  | unknownType type => "ABI decode failed: type '" ++ type ++ "': not a type"
  | topicMismatch param fault => "ABI decode failed: topic '" ++ param ++ "': " ++ fault.message
  | dataMismatch fault => "ABI decode failed: data: " ++ fault.message
  | topicMissing param => "ABI decode failed: missing topic for '" ++ param ++ "'"
  | outputMismatch method fault => "ABI decode failed: " ++ method ++ " output: " ++ fault.message
  | paramCount method expected given =>
    "ABI encode failed: " ++ method ++ " expects " ++ toString expected ++ " params, got " ++
      toString given
  | paramMismatch param => "ABI encode failed: param '" ++ param ++ "': not a value of its type"
  | rlp fault => "RLP decode failed: " ++ fault.message
  | federationsNotList => "RLP decode failed: federation change payload is not a list"
  | federationNotList => "RLP decode failed: federation entry is not a list"
  | invalidHex value digit =>
    "Invalid hex '" ++ value ++ "': Invalid character " ++ Quoted.char (Hex.byteChar digit.byte) ++
      " at position " ++ toString digit.position
  | unknownFunction name => "Unknown function: " ++ name

/-- The bytes of a text of hex digits, or the error that names it (`decode_hex`). -/
def decodeHex (s : String) : Except DecodeError (List UInt8) :=
  match Hex.decode s with
  | .ok raw => .ok raw
  | .error digit => .error (.invalidHex s digit)

/-! ## Nodes -/

/-- What a node or the way to it reported. -/
inductive NodeError where
  | transport (message : String)
  | rpc (code : Int) (message : String)
  /-- A reply to a method that does not mean anything. -/
  | invalidResponse (method reason : String)
  /-- A method that the node does not offer. -/
  | unsupported (method : String)
  /-- A reply of the wrong shape. -/
  | malformed
deriving DecidableEq, Repr

/-- The message of an error (`NodeError.fmt`). -/
def NodeError.message : NodeError → String
  | transport message => "Transport error: " ++ message
  | rpc code message => "RPC error " ++ toString code ++ ": " ++ message
  | invalidResponse method reason => "Invalid node response for " ++ method ++ ": " ++ reason
  | unsupported method => "Node does not support " ++ method
  | malformed => "Deserialization error: not a reply"

/-! ## Inspection -/

/-- Why a contract cannot be inspected (`ParserError`). -/
inductive InspectError where
  | config (error : ConfigError)
  | node (error : NodeError)
  | decode (error : DecodeError)
  /-- A beacon that names no implementation. -/
  | beacon (address reason : String)
  /-- A storage word in which an address would start inside a character. -/
  | brokenWord (word : String)
deriving DecidableEq, Repr

/-- The message of an error (`ParserError.fmt`). -/
def InspectError.message : InspectError → String
  | config error => error.message
  | node error => error.message
  | decode error => error.message
  | beacon address reason =>
    "Beacon " ++ address ++ " did not resolve an implementation: " ++ reason
  | brokenWord word => "Storage word without an address: " ++ word

end ContractLens
