import ContractLens.Abi.Fragment
import ContractLens.Quantity
import ContractLens.Text.LetterCase
import ContractLens.Text.Hex
import ContractLens.Value

/-!
# Logs

The logs of transactions as a node reports them (`RawLog`) and what they were decoded to
(`DecodedLog`). A decoded log is written as the raw log with further fields, so the raw log can be
read from it again.
-/

namespace ContractLens

/-- A log as a node reports it. -/
structure RawLog where
  address : String
  topics : List String
  data : String
  blockNumber : Option UInt64
  blockHash : Option String
  transactionHash : Option String
  transactionIndex : Option UInt64
  logIndex : Option UInt64
deriving DecidableEq, Repr

namespace RawLog

/-- The names of the fields of a log. -/
def fieldNames : List String :=
  ["address", "topics", "data", "blockNumber", "blockHash", "transactionHash", "transactionIndex",
    "logIndex"]

/-- The log that a JSON value describes (`RawLog.deserialize`). Topics and data may be absent. -/
def ofJson? (value : Json) : Option RawLog := do
  let r ← value.record? fieldNames
  let address ← r.required "address" Json.text?
  let topics ← r.withDefault "topics" [] (Json.list? Json.text?)
  let data ← r.withDefault "data" "0x" Json.text?
  let blockNumber ← r.withDefault "blockNumber" none Quantity.ofNullable?
  let blockHash ← r.optional "blockHash" Json.text?
  let transactionHash ← r.optional "transactionHash" Json.text?
  let transactionIndex ← r.withDefault "transactionIndex" none Quantity.ofNullable?
  let logIndex ← r.withDefault "logIndex" none Quantity.ofNullable?
  return { address, topics, data, blockNumber, blockHash, transactionHash, transactionIndex,
           logIndex }

/-- The fields of a log in JSON. The block's number is always there, other fields where they are
    known. -/
def toFields (log : RawLog) : List (String × Json) :=
  [("address", .str log.address), ("topics", .ofTexts log.topics), ("data", .str log.data),
    ("blockNumber", Json.ofOption .ofWord log.blockNumber)] ++
    Json.fieldOfOption "blockHash" .str log.blockHash ++
    Json.fieldOfOption "transactionHash" .str log.transactionHash ++
    Json.fieldOfOption "transactionIndex" .ofWord log.transactionIndex ++
    Json.fieldOfOption "logIndex" .ofWord log.logIndex

/-- The log as JSON (`RawLog.serialize`). -/
def toJson (log : RawLog) : Json := .obj log.toFields

/-- A topic in lower case without `0x` (in `RawLog.topic0` and `EventDecoder.find_event`). -/
def plainTopic (topic : String) : String := LetterCase.lower (Hex.stripMarker topic)

/-- The first topic in lower case without `0x` (`RawLog.topic0`). -/
def firstTopic? (log : RawLog) : Option String := log.topics.head?.map plainTopic

end RawLog

/-- What the log of a known event says: the event's name, the hash of its signature, its fragment,
    and one value for each argument (the optional fields of `DecodedLog`). -/
structure DecodedEvent where
  name : String
  signature : String
  fragment : Abi.Fragment
  args : List Value

/-- A log with the event that it was decoded to, if any, and the addresses that were found in it. -/
structure DecodedLog where
  log : RawLog
  event : Option DecodedEvent
  addresses : Option (List String)

namespace DecodedLog

/-- A log that was not decoded (`DecodedLog.undecoded`). -/
def undecoded (log : RawLog) : DecodedLog := ⟨log, none, none⟩

/-- A log that was decoded to an event. -/
def decoded (log : RawLog) (event : DecodedEvent) : DecodedLog := ⟨log, some event, none⟩

/-- The log as JSON: the fields of the raw log and those of the event (`DecodedLog.serialize`). -/
def toJson (d : DecodedLog) : Json :=
  let event := match d.event with
    | some e =>
      [("event", .str e.name), ("signature", .str e.signature), ("abi", e.fragment.toJson),
        ("args", .arr (Value.listToJson e.args))]
    | none => []
  .obj (d.log.toFields ++ event ++ Json.fieldOfOption "_addresses" .ofTexts d.addresses)

end DecodedLog

end ContractLens
