import ContractLens.Error
import ContractLens.Log

/-!
# Blocks, receipts and traces

What a node tells about blocks: the blocks themselves with their transactions, the receipts of
transactions, and the internal transactions of a block's trace. Each is read from JSON and written
back.

A `BlockTag` says at which block the state is to be read: by a name or by its number.
-/

namespace ContractLens

/-! ## Block tags -/

/-- The block at which state is read. -/
inductive BlockTag where
  | latest
  | earliest
  | pending
  | number (n : UInt64)
deriving DecidableEq, Repr

namespace BlockTag

/-- The number of a block that is given by its number (`BlockTag.number`). -/
def number? : BlockTag → Option UInt64
  | number n => some n
  | _ => none

/-- The tag as a node reads it: a name, or the number in hex (`BlockTag.fmt`). -/
def text : BlockTag → String
  | latest => "latest"
  | earliest => "earliest"
  | pending => "pending"
  | number n => Natural.hexQuantity n

/-- The tag that a name or a quantity stands for (`BlockTag.from_str`). -/
def ofText (s : String) : Except ConfigError BlockTag :=
  if s = "latest" then .ok latest
  else if s = "earliest" then .ok earliest
  else if s = "pending" then .ok pending
  else match Quantity.ofText? s with
    | some n => .ok (number n)
    | none => .error (.invalidHeight s)

end BlockTag

/-! ## Blocks -/

/-- A transaction inside a block. -/
structure BlockTransaction where
  hash : String
  sender : Option String
  recipient : Option String
  blockNumber : Option UInt64
deriving DecidableEq, Repr

namespace BlockTransaction

/-- The transaction that a JSON value describes (`BlockTransaction.deserialize`). -/
def ofJson? (value : Json) : Option BlockTransaction := do
  let r ← value.record? ["hash", "from", "to", "blockNumber"]
  let hash ← r.required "hash" Json.text?
  let sender ← r.optional "from" Json.text?
  let recipient ← r.optional "to" Json.text?
  let blockNumber ← r.withDefault "blockNumber" none Quantity.ofNullable?
  return { hash, sender, recipient, blockNumber }

/-- The transaction as JSON (`BlockTransaction.serialize`). -/
def toJson (tx : BlockTransaction) : Json :=
  .obj [("hash", .str tx.hash), ("from", Json.ofOption .str tx.sender),
    ("to", Json.ofOption .str tx.recipient), ("blockNumber", Json.ofOption .ofWord tx.blockNumber)]

end BlockTransaction

/-- A block with its transactions. -/
structure Block where
  number : UInt64
  hash : String
  timestamp : UInt64
  transactions : List BlockTransaction
deriving DecidableEq, Repr

namespace Block

/-- The block that a JSON value describes (`Block.deserialize`). -/
def ofJson? (value : Json) : Option Block := do
  let r ← value.record? ["number", "hash", "timestamp", "transactions"]
  let number ← r.required "number" Quantity.ofJson?
  let hash ← r.required "hash" Json.text?
  let timestamp ← r.withDefault "timestamp" 0 Quantity.ofJson?
  let transactions ← r.withDefault "transactions" [] (Json.list? BlockTransaction.ofJson?)
  return { number, hash, timestamp, transactions }

/-- The block as JSON (`Block.serialize`). -/
def toJson (b : Block) : Json :=
  .obj [("number", .ofWord b.number), ("hash", .str b.hash), ("timestamp", .ofWord b.timestamp),
    ("transactions", .arr (b.transactions.map BlockTransaction.toJson))]

end Block

/-! ## Receipts -/

/-- The receipt of a transaction (`TransactionReceipt`). -/
structure Receipt where
  transactionHash : String
  contractAddress : Option String
  blockNumber : Option UInt64
  logs : List RawLog
deriving DecidableEq, Repr

namespace Receipt

/-- The receipt that a JSON value describes (`TransactionReceipt.deserialize`). -/
def ofJson? (value : Json) : Option Receipt := do
  let r ← value.record? ["transactionHash", "contractAddress", "blockNumber", "logs"]
  let transactionHash ← r.required "transactionHash" Json.text?
  let contractAddress ← r.optional "contractAddress" Json.text?
  let blockNumber ← r.withDefault "blockNumber" none Quantity.ofNullable?
  let logs ← r.withDefault "logs" [] (Json.list? RawLog.ofJson?)
  return { transactionHash, contractAddress, blockNumber, logs }

/-- The receipt as JSON (`TransactionReceipt.serialize`). -/
def toJson (r : Receipt) : Json :=
  .obj [("transactionHash", .str r.transactionHash),
    ("contractAddress", Json.ofOption .str r.contractAddress),
    ("blockNumber", Json.ofOption .ofWord r.blockNumber),
    ("logs", .arr (r.logs.map RawLog.toJson))]

end Receipt

/-! ## Internal transactions -/

/-- The result of an internal transaction, with the address of a contract that it created. -/
structure TraceResult where
  address : Option String
deriving DecidableEq, Repr

/-- The result that a JSON value describes (`TraceResult.deserialize`). -/
def TraceResult.ofJson? (value : Json) : Option TraceResult := do
  let r ← value.record? ["address"]
  let address ← r.optional "address" Json.text?
  return { address }

/-- The result as JSON (`TraceResult.serialize`). -/
def TraceResult.toJson (r : TraceResult) : Json := .obj [("address", Json.ofOption .str r.address)]

/-- An entry of a block's trace. -/
structure InternalTransaction where
  kind : Option String
  result : Option TraceResult
  transactionHash : Option String
  blockNumber : Option UInt64
  action : Json

namespace InternalTransaction

/-- The entry that a JSON value describes (`InternalTransaction.deserialize`). -/
def ofJson? (value : Json) : Option InternalTransaction := do
  let r ← value.record? ["type", "result", "transactionHash", "blockNumber", "action"]
  let kind ← r.optional "type" Json.text?
  let result ← r.optional "result" TraceResult.ofJson?
  let transactionHash ← r.optional "transactionHash" Json.text?
  let blockNumber ← r.withDefault "blockNumber" none Quantity.ofNullable?
  let action ← r.withDefault "action" .null some
  return { kind, result, transactionHash, blockNumber, action }

/-- The entry as JSON (`InternalTransaction.serialize`). -/
def toJson (t : InternalTransaction) : Json :=
  .obj [("type", Json.ofOption .str t.kind), ("result", Json.ofOption TraceResult.toJson t.result),
    ("transactionHash", Json.ofOption .str t.transactionHash),
    ("blockNumber", Json.ofOption .ofWord t.blockNumber), ("action", t.action)]

/-- Whether the entry created the contract at an address (`BcSearch.is_itx_deployment`). -/
def creates (t : InternalTransaction) (address : String) : Bool :=
  t.kind == some "create" &&
    match t.result.bind TraceResult.address with
    | some created => LetterCase.equalIgnoringAsciiCase created address
    | none => false

end InternalTransaction

end ContractLens
