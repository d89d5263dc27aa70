import ContractLens.Abi.Signature
import ContractLens.Bitcoin.Base58Check
import ContractLens.EventDecoder
import ContractLens.Network
import ContractLens.Rlp

/-!
# Legacy bridge events

The bridge's logs before it had events of its own: the first topic is the event's name in ASCII,
filled up with zero bytes, and the data is RLP. In most events each item of the data is one field. A
change of the federation holds a pair of keys and an address for the old and for the new federation,
and a height.

A field that is a byte string loses its leading zero bytes, except that zeros alone leave one of
them; a field that is a list keeps its encoding. Indexed inputs take topics and the others take
fields, each in their order; an empty field gives no argument.
-/

namespace ContractLens.Bridge

open Abi

/-! ## Events -/

/-- How a field is read before it takes the type of its input (`ValueFilter`). -/
inductive FieldReading where
  /-- As it is. -/
  | plain
  /-- A list of public keys. -/
  | publicKeys
  /-- An address in Base58Check, expected to be pay-to-script-hash on the network. -/
  | btcAddress (network : Network)
  /-- A number as decimal text. -/
  | decimal
deriving DecidableEq, Repr

/-- How the data of an event is split into fields. -/
inductive PayloadLayout where
  /-- One field for each item. -/
  | flat
  /-- Keys and address of two federations, then a height. -/
  | federationChange
deriving DecidableEq, Repr

/-- A legacy event: its name, its layout and its inputs. -/
structure LegacyEvent where
  name : String
  layout : PayloadLayout
  inputs : List (Param × FieldReading)

/-- The event as a fragment (in `LegacyEvent.new`). -/
def LegacyEvent.fragment (e : LegacyEvent) : Fragment := .ofEvent e.name (e.inputs.map (·.1))

/-- The hash of the event's canonical signature (in `LegacyDecoder.new`). -/
def LegacyEvent.hash (e : LegacyEvent) : String :=
  Keccak.keccak256Hex (e.name ++ typeList (canonicalTypes (e.inputs.map (·.1))))

/-- The legacy events on a network (`legacy_events`). -/
def legacyEvents (network : Network) : List LegacyEvent := [
  ⟨"update_collections", .flat, [(.plain "sender" "address", .plain)]⟩,
  ⟨"release_btc", .flat,
    [(.plain "releaseRskTxHash" "bytes32", .plain), (.plain "btcRawTransaction" "bytes", .plain)]⟩,
  ⟨"add_signature", .flat,
    [(.ofEvent "sender" "address" true, .plain), (.plain "releaseRskTxHash" "bytes32", .plain),
      (.plain "executorPublicKey" "bytes", .plain)]⟩,
  ⟨"commit_federation", .federationChange,
    [(.plain "oldFederationBtcPublicKeys" "bytes[]", .publicKeys),
      (.plain "oldFederationBtcAddress" "string", .btcAddress network),
      (.plain "newFederationBtcPublicKeys" "bytes[]", .publicKeys),
      (.plain "newFederationBtcAddress" "string", .btcAddress network),
      (.plain "activationHeight" "uint256", .decimal)]⟩]

/-- The name in a topic: its bytes without their high bits, zeros left out (`event_name`). -/
def eventName (topic : String) : Except DecodeError String := do
  let raw ← decodeHex topic
  return String.ofList (((raw.map (· &&& 0x7f)).filter (· != 0)).map Hex.byteChar)

/-! ## Fields -/

/-- A byte string without leading zeros, of which one is left if there is nothing else
    (`trim_leading_zeros`). -/
def trimLeadingZeros (raw : List UInt8) : List UInt8 :=
  match raw.dropWhile (· == 0) with
  | [] => raw.take 1
  | rest => rest

/-- The field that an item is (`field_bytes`). -/
def fieldBytes (item : List UInt8) : Except DecodeError (List UInt8) :=
  if Rlp.isList item then .ok item
  else
    match Rlp.payload item with
    | .ok raw => .ok (trimLeadingZeros raw)
    | .error fault => .error (.rlp fault)

/-- The fields in data with one field for each item (`decode_fields`). An item that is no list is
    the only field. -/
def decodeFields (data : String) : Except DecodeError (List (List UInt8)) := do
  let raw ← decodeHex data
  if raw.isEmpty then return []
  if Rlp.isList raw then (Rlp.elements raw).mapM fieldBytes
  else
    let field ← fieldBytes raw
    return [field]

/-- The fields of one federation (in `federation_fields`). -/
def federationEntry (entry : List UInt8) : Except DecodeError (List (List UInt8)) :=
  if Rlp.isList entry then ((Rlp.elements entry).take 2).mapM fieldBytes
  else .error .federationNotList

/-- The fields in data of a federation change: old keys, old address, new keys, new address, height
    (`federation_fields`). -/
def federationFields (data : String) : Except DecodeError (List (List UInt8)) := do
  let raw ← decodeHex data
  if raw.isEmpty then return []
  if !Rlp.isList raw then throw .federationsNotList
  let entries ← ((Rlp.elements raw).take 2).mapM federationEntry
  match (Rlp.elementsAgain raw)[2]? with
  | some item =>
    let height ← fieldBytes item
    return entries.flatten ++ [height]
  | none => return entries.flatten

/-- The fields in the data of an event (`LegacyEvent.fields`). -/
def PayloadLayout.fields : PayloadLayout → String → Except DecodeError (List (List UInt8))
  | flat, data => decodeFields data
  | federationChange, data => federationFields data

/-! ## Values -/

/-- The byte strings in a list, if all elements are such (`rlp_byte_list`). -/
def byteStrings? (raw : List UInt8) : Option (List (List UInt8)) :=
  if Rlp.isList raw then (Rlp.elements raw).mapM fun item => (Rlp.payload item).toOption else none

/-- A number of at most 128 bits in decimal ASCII (in `ValueFilter.apply`). -/
def decimalNumber? (raw : List UInt8) : Option Nat :=
  (Natural.read? 10 (raw.map Hex.byteChar)).filter (· < Nat.pow 2 128)

/-- A version byte in a notice (in `ValueFilter.apply`). -/
def versionText : Option UInt8 → String
  | some v => "Some(" ++ toString v.toNat ++ ")"
  | none => "None"

/-- The value of a field by itself (`ValueFilter.apply`). An address is kept as it is; only a notice
    tells that it is not one of the expected kind. -/
def FieldReading.apply (reading : FieldReading) (raw : List UInt8) : Noted Value :=
  match reading with
  | plain => pure (.bytes raw)
  | publicKeys =>
    match byteStrings? raw with
    | some keys => pure (.array (keys.map .bytes))
    | none => pure (.bytes raw)
  | btcAddress network => do
    let address := Utf8.decode raw
    let version := Base58Check.version? address
    if version ≠ some network.scriptHashVersion then
      Noted.note ⟨.debug, "federation address is not P2SH for the network",
        [("address", address), ("version", versionText version), ("network", network.name)]⟩
    pure (.str address)
  | decimal =>
    match decimalNumber? raw with
    | some n => pure (.uint n)
    | none => pure (.bytes raw)

/-- The last twenty bytes, with zeros in front of fewer ones (in `coerce`). -/
def addressBytes (raw : List UInt8) : List UInt8 :=
  let low := raw.drop (raw.length - 20)
  List.replicate (20 - low.length) 0 ++ low

/-- A byte string as a value of a type; other values stay as they are (`coerce`). -/
def coerce (type : String) : Value → Value
  | .bytes raw =>
    if type = "address" then .ofAddressBytes (addressBytes raw)
    else if type.startsWith "uint" && !type.endsWith "]" then
      if raw.length ≤ 32 then .ofNat (natOfBytes raw) else .bytes raw
    else if type = "string" then .str (Utf8.decode raw)
    else if type = "bool" then .bool (raw.any (· != 0))
    else .bytes raw
  | value => value

/-- The value of a field for an input (`convert`). -/
def inputValue (p : Param) (reading : FieldReading) (raw : List UInt8) : Noted Value := do
  let value ← reading.apply raw
  return coerce p.type value

/-! ## Logs -/

/-- The arguments of inputs from topics and fields (in `decode_args`). -/
def legacyArgs : List (Param × FieldReading) → List String → List (List UInt8) →
    Noted (Except DecodeError (List Value))
  | [], _, _ => pure (.ok [])
  | (p, reading) :: inputs, topics, fields =>
    if p.isIndexed then
      match topics with
      | [] => legacyArgs inputs [] fields
      | topic :: topics =>
        match decodeHex topic with
        | .error e => pure (.error e)
        | .ok raw => do
          let value ← inputValue p reading raw
          let args ← legacyArgs inputs topics fields
          return args.map (value :: ·)
    else
      match fields with
      | [] => legacyArgs inputs topics []
      | raw :: fields => do
        let value ← inputValue p reading raw
        let args ← legacyArgs inputs topics fields
        return args.map fun args => if value.isEmpty then args else value :: args

/-- The arguments of a legacy event from the topics behind the first one and the data
    (`decode_args`). -/
def LegacyEvent.args (e : LegacyEvent) (topics : List String) (data : String) :
    Noted (Except DecodeError (List Value)) :=
  match e.layout.fields data with
  | .error error => pure (.error error)
  | .ok fields => legacyArgs e.inputs topics fields

/-- The event of this name (`LegacyDecoder.find_event`). -/
def findLegacyEvent (events : List LegacyEvent) (name : String) : Option LegacyEvent :=
  events.find? (·.name == name)

/-- A log decoded to the one of the events that its first topic names (`LegacyDecoder.decode_log`).
    Any other log stays undecoded. -/
def decodeLegacyLog (events : List LegacyEvent) (log : RawLog) : Noted DecodedLog :=
  match log.topics with
  | [] => pure (.undecoded log)
  | topic :: topics =>
    match eventName topic with
    | .error _ => pure (.undecoded log)
    | .ok name =>
      match findLegacyEvent events name with
      | none => do
        Noted.note ⟨.debug, "unknown legacy bridge event",
          [("address", log.address), ("event", name)]⟩
        return .undecoded log
      | some event => do
        match ← event.args topics log.data with
        | .ok args => return .decoded log ⟨name, event.hash, event.fragment, args⟩
        | .error _ =>
          Noted.note ⟨.debug, "legacy payload does not decode",
            [("address", log.address), ("event", name)]⟩
          return .undecoded log

end ContractLens.Bridge
