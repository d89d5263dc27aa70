import ContractLens.Abi.SignatureTable
import ContractLens.Error
import ContractLens.Log
import ContractLens.Notice

/-!
# Decoding event logs

A log belongs to an event when its first topic is the hash of the event's signature and the other
topics are as many as the event's indexed inputs. Indexed inputs are read from the topics, all
others from the data, each in their order; the arguments come out in the order of the inputs.

An indexed input of a dynamic or compound type is only known by the hash in its topic, and that hash
is its argument.
-/

namespace ContractLens

open Abi

/-- An event by which logs are recognised (an entry of `EventDecoder.events`). -/
structure KnownEvent where
  fragment : Fragment
  name : String
  /-- The hash of the canonical signature in hex. -/
  hash : String
  indexedCount : Nat
deriving DecidableEq

/-- The events by which logs are recognised, in order of preference. -/
structure EventDecoder where
  events : List KnownEvent

namespace EventDecoder

/-- The known event that a fragment is, if it is an event that is not anonymous and its signature
    has a hash (in `EventDecoder.with_table`). Such a fragment has a name. -/
def knownEvent? (t : SignatureTable) (f : Fragment) : Option KnownEvent :=
  if f.isEvent && f.anonymous != some true then
    let s := t.signature f
    s.hash.map fun hash => ⟨f, f.name?.getD "", hash, s.indexedCount⟩
  else none

/-- The decoder for the events among the fragments, one for each layout
    (`EventDecoder.with_table`). -/
def ofTable (fragments : List Fragment) (t : SignatureTable) : EventDecoder :=
  ⟨(dedupeEvents fragments t).filterMap (knownEvent? t)⟩

/-- The decoder for the events among the fragments (`EventDecoder.new`). -/
def ofFragments (fragments : List Fragment) : EventDecoder :=
  ofTable fragments (SignatureTable.ofFragments fragments)

/-! ## Matching -/

/-- Whether an event fits a first topic and a number of further topics (in
    `EventDecoder.find_event`). -/
def fits (topic : String) (further : Nat) (e : KnownEvent) : Bool :=
  e.hash == topic && e.indexedCount == further

/-- The first event that fits the topics (`EventDecoder.find_event`). More than one is worth a
    warning. -/
def findEvent (d : EventDecoder) : List String → Noted (Option KnownEvent)
  | [] => pure none
  | topic :: further => do
    let topic := RawLog.plainTopic topic
    match d.events.filter (fits topic further.length) with
    | [] => pure none
    | [e] => pure (some e)
    | e :: others =>
      Noted.note ⟨.warn, "duplicate event fragments for log, using the first",
        [("topic0", topic), ("candidates", toString (others.length + 1))]⟩
      pure (some e)

/-! ## Arguments -/

/-- The type of a parameter (`resolve`). -/
def paramType (p : Param) : Except DecodeError AbiType :=
  let type := canonicalType p
  match AbiType.parse? type with
  | some t => .ok t
  | none => .error (.unknownType type)

/-- The value that a topic holds for an indexed parameter (`decode_topic`). -/
def topicValue (p : Param) (topic : String) : Except DecodeError Value := do
  let raw ← decodeHex topic
  let type ← paramType p
  if type.isHashedWhenIndexed then return .bytes raw
  match type.decodeWord raw with
  | .ok d => return Value.ofDatum d
  | .error fault => throw (.topicMismatch p.name fault)

/-- The values that data holds for parameters; without parameters the data is not looked at (in
    `decode_args`). -/
def dataValues (params : List Param) (data : String) : Except DecodeError (List Value) :=
  if params.isEmpty then .ok []
  else do
    let types ← params.mapM paramType
    let raw ← decodeHex data
    match AbiType.decodeParams types raw with
    | .ok ds => return Value.ofData ds
    | .error fault => throw (.dataMismatch fault)

/-- One argument for each input: indexed ones from the topics, the others from the values (in
    `decode_args`). -/
def mergeArgs : List Param → List String → List Value → Except DecodeError (List Value)
  | [], _, _ => .ok []
  | p :: ps, topics, values =>
    if p.isIndexed then
      match topics with
      | [] => .error (.topicMissing p.name)
      | topic :: topics => do
        let v ← topicValue p topic
        let vs ← mergeArgs ps topics values
        return v :: vs
    else
      match values with
      | [] => do
        let vs ← mergeArgs ps topics []
        return .null :: vs
      | v :: values => do
        let vs ← mergeArgs ps topics values
        return v :: vs

/-- The arguments of an event from the topics behind the first one and the data (`decode_args`). -/
def eventArgs (f : Fragment) (topics : List String) (data : String) :
    Except DecodeError (List Value) := do
  let values ← dataValues (f.inputs.filter fun p => !p.isIndexed) data
  mergeArgs f.inputs topics values

/-! ## Logs -/

/-- A log decoded to the event that it belongs to (`EventDecoder.decode_log`). A log that belongs to
    none, or whose payload does not fit, stays undecoded. -/
def decodeLog (d : EventDecoder) (log : RawLog) : Noted DecodedLog := do
  match ← d.findEvent log.topics with
  | none =>
    Noted.note ⟨.debug, "no event fragment matches log", [("address", log.address)]⟩
    pure (.undecoded log)
  | some e =>
    match eventArgs e.fragment log.topics.tail log.data with
    | .ok args => pure (.decoded log ⟨e.name, e.hash, e.fragment, args⟩)
    | .error _ =>
      Noted.note ⟨.debug, "event payload does not decode",
        [("address", log.address), ("event", Quoted.optionalText e.fragment.name?)]⟩
      pure (.undecoded log)

end EventDecoder

end ContractLens
