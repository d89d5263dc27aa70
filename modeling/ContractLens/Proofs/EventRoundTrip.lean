import ContractLens.Proofs.Abi.RoundTrip
import ContractLens.Proofs.LogAddresses
import ContractLens.Proofs.Text.HexReading

/-!
# Encoded events are decoded

The log of an event carries a value for each input: those of indexed inputs in the topics behind the
first one, all others together in the data. Decoding puts them back in the order of the inputs,
however indexed inputs and others are mixed.

* `Encodes`: topics and data values carry these values for the inputs.
* `mergeArgs_of_encodes`: both streams are merged in order.
* `decodeLog_of_encodes`: a log that encodes an event is decoded to it, with one argument for each
  input.
-/

namespace ContractLens

open Abi

/-- What a log carries for an input: a value, or of an indexed input the hash of its value. -/
inductive Carried where
  | value (d : Datum)
  | hash (raw : List UInt8)

/-- The argument that is reported. -/
def Carried.arg : Carried → Value
  | value d => .ofDatum d
  | hash raw => .bytes raw

namespace EventDecoder

/-- Topics carry these values for indexed inputs, and data values of these types are those of the
    other inputs, both in order. Of a type that is not a word there is a hash of 32 bytes in the
    topic. -/
inductive Encodes : List Param → List String → List AbiType → List Datum → List Carried → Prop
  | nil : Encodes [] [] [] [] []
  | data {p : Param} {t : AbiType} {d : Datum} {ps : List Param} {topics : List String}
      {types : List AbiType} {ds : List Datum} {cs : List Carried} :
      p.isIndexed = false → paramType p = .ok t → Encodes ps topics types ds cs →
      Encodes (p :: ps) topics (t :: types) (d :: ds) (.value d :: cs)
  | word {p : Param} {t : AbiType} {d : Datum} {topic : String} {ps : List Param}
      {topics : List String} {types : List AbiType} {ds : List Datum} {cs : List Carried} :
      p.isIndexed = true → paramType p = .ok t → t.isHashedWhenIndexed = false → t.Has d →
      decodeHex topic = .ok d.encode → Encodes ps topics types ds cs →
      Encodes (p :: ps) (topic :: topics) types ds (.value d :: cs)
  | hash {p : Param} {t : AbiType} {raw : List UInt8} {topic : String} {ps : List Param}
      {topics : List String} {types : List AbiType} {ds : List Datum} {cs : List Carried} :
      p.isIndexed = true → paramType p = .ok t → t.isHashedWhenIndexed = true →
      raw.length = 32 → decodeHex topic = .ok raw → Encodes ps topics types ds cs →
      Encodes (p :: ps) (topic :: topics) types ds (.hash raw :: cs)

variable {inputs : List Param} {topics : List String} {types : List AbiType} {ds : List Datum}
  {cs : List Carried}

/-! ## The streams -/

theorem topicValue_of_word {p : Param} {t : AbiType} {d : Datum} {topic : String}
    (ht : paramType p = .ok t) (hword : t.isHashedWhenIndexed = false) (hd : t.Has d)
    (htopic : decodeHex topic = .ok d.encode) : topicValue p topic = .ok (.ofDatum d) := by
  rw [topicValue, htopic, ok_bind, ht, ok_bind, if_neg (by rw [hword]; decide),
    decodeWord_encode hd hword]
  rfl

theorem topicValue_of_hash {p : Param} {t : AbiType} {raw : List UInt8} {topic : String}
    (ht : paramType p = .ok t) (hhash : t.isHashedWhenIndexed = true)
    (htopic : decodeHex topic = .ok raw) : topicValue p topic = .ok (.bytes raw) := by
  rw [topicValue, htopic, ok_bind, ht, ok_bind, if_pos hhash]
  rfl

/-- Topics and data values are merged in the order of the inputs. -/
theorem mergeArgs_of_encodes (h : Encodes inputs topics types ds cs) :
    mergeArgs inputs topics (Value.ofData ds) = .ok (cs.map Carried.arg) := by
  induction h with
  | nil => rfl
  | data hindexed _ _ ih =>
    rw [Value.ofData, mergeArgs.eq_def]
    simp only
    rw [if_neg (by rw [hindexed]; decide)]
    simp only [ih]
    rfl
  | word hindexed ht hword hd htopic _ ih =>
    rw [mergeArgs.eq_def]
    simp only
    rw [if_pos hindexed]
    simp only [topicValue_of_word ht hword hd htopic, ih]
    rfl
  | hash hindexed ht hhash _ htopic _ ih =>
    rw [mergeArgs.eq_def]
    simp only
    rw [if_pos hindexed]
    simp only [topicValue_of_hash ht hhash htopic, ih]
    rfl

theorem paramTypes_of_encodes (h : Encodes inputs topics types ds cs) :
    (inputs.filter fun p => !p.isIndexed).mapM paramType = .ok types := by
  induction h with
  | nil => rfl
  | data hindexed ht _ ih =>
    rw [List.filter_cons_of_pos (by simp [hindexed]), List.mapM_cons, ht, ok_bind, ih, ok_bind]
    rfl
  | word hindexed _ _ _ _ _ ih | hash hindexed _ _ _ _ _ ih =>
    rw [List.filter_cons_of_neg (by simp [hindexed]), ih]

theorem length_of_encodes (h : Encodes inputs topics types ds cs) : cs.length = inputs.length := by
  induction h with
  | nil => rfl
  | data _ _ _ ih | word _ _ _ _ _ _ ih | hash _ _ _ _ _ _ ih =>
    rw [List.length_cons, List.length_cons, ih]

/-- Without inputs in the data there are no data values. -/
theorem dataValues_of_encodes (h : Encodes inputs topics types ds cs) {data : String}
    (hdata : decodeHex data = .ok (Datum.encodeParams ds))
    (hinverse : AbiType.decodeParams types (Datum.encodeParams ds) = .ok ds) :
    dataValues (inputs.filter fun p => !p.isIndexed) data = .ok (Value.ofData ds) := by
  have htypes := paramTypes_of_encodes h
  rw [dataValues]
  split_ifs with hempty
  · rw [List.isEmpty_iff.mp hempty] at htypes
    cases htypes
    cases hinverse
    rfl
  · rw [htypes, ok_bind, hdata, ok_bind, hinverse]
    rfl

/-! ## Logs -/

theorem decodeLog_of_mergeArgs {d : EventDecoder} {log : RawLog} {e : KnownEvent}
    {values args : List Value} (hfind : (d.findEvent log.topics).value = some e)
    (hvalues : dataValues (e.fragment.inputs.filter fun p => !p.isIndexed) log.data = .ok values)
    (hargs : mergeArgs e.fragment.inputs log.topics.tail values = .ok args) :
    (d.decodeLog log).value = .decoded log ⟨e.name, e.hash, e.fragment, args⟩ := by
  have hevent : eventArgs e.fragment log.topics.tail log.data = .ok args := by
    rw [eventArgs, hvalues, ok_bind, hargs]
  rw [decodeLog, Noted.value_bind, hfind]
  simp only [hevent]
  rfl

/-- A log whose topics and data encode the event that it is taken for is decoded to this event, with
    one argument for each input in order, as long as its data is what the decoder of data reads
    back, which `decodeParams_encodeParams` tells. -/
theorem decodeLog_of_encodes {d : EventDecoder} {log : RawLog} {e : KnownEvent}
    (hfind : (d.findEvent log.topics).value = some e)
    (hencodes : Encodes e.fragment.inputs log.topics.tail types ds cs)
    (hdata : decodeHex log.data = .ok (Datum.encodeParams ds))
    (hinverse : AbiType.decodeParams types (Datum.encodeParams ds) = .ok ds) :
    (d.decodeLog log).value =
        .decoded log ⟨e.name, e.hash, e.fragment, cs.map Carried.arg⟩ ∧
      (cs.map Carried.arg).length = e.fragment.inputs.length := by
  constructor
  · exact decodeLog_of_mergeArgs hfind (dataValues_of_encodes hencodes hdata hinverse)
      (mergeArgs_of_encodes hencodes)
  · rw [List.length_map, length_of_encodes hencodes]

/-- An event with words, a hashed text and a nested tuple, indexed inputs and others in turns. -/
def mixed : Fragment := .ofEvent "Mixed" [.ofEvent "owner" "address" true,
  .ofEvent "note" "string" false, .ofEvent "label" "string" true,
  .mk "pair" "tuple" [.plain "n" "uint256", .plain "parts" "bytes[]"] (some false) none,
  .ofEvent "level" "uint8" true, .ofEvent "open" "bool" false]

/-- A log of this event is decoded to its six arguments. -/
theorem decodeLog_mixed :
    let owner := List.replicate 20 0x11
    let label := List.replicate 32 0xab
    let types : List AbiType := [.string, .tuple [.uint 256, .array .bytes], .bool]
    let ds : List Datum :=
      [.string "hi", .tuple [.uint 5 256, .array [.bytes [1, 2], .bytes []]], .bool true]
    let topics := [Hex.encodePrefixed (Datum.address owner).encode, Hex.encodePrefixed label,
      Hex.encodePrefixed (Datum.uint 7 8).encode]
    let cs := [.value (.address owner), .value (.string "hi"), .hash label,
      .value (.tuple [.uint 5 256, .array [.bytes [1, 2], .bytes []]]), .value (.uint 7 8),
      .value (.bool true)]
    let log := eventLog "Mixed" mixed topics (Hex.encodePrefixed (Datum.encodeParams ds))
    let e : KnownEvent :=
      ⟨mixed, "Mixed", Keccak.keccak256Hex (signatureText "Mixed" mixed.inputs), 3⟩
    ((ofFragments [mixed]).findEvent log.topics).value = some e ∧
      Encodes mixed.inputs topics types ds cs ∧
      decodeHex log.data = .ok (Datum.encodeParams ds) ∧
      AbiType.decodeParams types (Datum.encodeParams ds) = .ok ds ∧
      ((ofFragments [mixed]).decodeLog log).value = .decoded log ⟨e.name, e.hash, mixed,
        [.ofAddressBytes owner, .str "hi", .bytes label,
          .tuple [.uint 5, .array [.bytes [1, 2], .bytes []]], .uint 7, .bool true]⟩ := by
  intro owner label types ds topics cs log e
  have hfind : ((ofFragments [mixed]).findEvent log.topics).value = some e :=
    findEvent_eventLog rfl (by decide) rfl rfl _
  have hnote : paramType (.ofEvent "note" "string" false) = .ok .string := rfl
  have hpair : paramType (.mk "pair" "tuple" [.plain "n" "uint256", .plain "parts" "bytes[]"]
      (some false) none) = .ok (.tuple [.uint 256, .array .bytes]) := rfl
  have hlevel : paramType (.ofEvent "level" "uint8" true) = .ok (.uint 8) := rfl
  have hopen : paramType (.ofEvent "open" "bool" false) = .ok .bool := rfl
  have hsmall : AbiType.Has (.uint 8) (.uint 7 8) := .uint (by norm_num) (by norm_num)
  have hencodes : Encodes mixed.inputs topics types ds cs :=
    .word rfl rfl rfl (.address rfl) (decodeHex_encodePrefixed _) <| .data rfl hnote <|
      .hash rfl rfl rfl rfl (decodeHex_encodePrefixed label) <| .data rfl hpair <|
      .word rfl hlevel rfl hsmall (decodeHex_encodePrefixed _) <| .data rfl hopen .nil
  have hparts : AbiType.Has (.array .bytes) (.array [.bytes [1, 2], .bytes []]) :=
    .array (by decide) (by simp [AbiType.Has.bytes])
  have htuple : AbiType.Has (.tuple [.uint 256, .array .bytes])
      (.tuple [.uint 5 256, .array [.bytes [1, 2], .bytes []]]) :=
    .tuple_of_forall₂ (.cons (.uint le_rfl (by norm_num)) (.cons hparts .nil))
  have hhas : List.Forall₂ AbiType.Has types ds :=
    .cons (.string "hi") (.cons htuple (.cons (.bool true) .nil))
  have hinverse : AbiType.decodeParams types (Datum.encodeParams ds) = .ok ds :=
    decodeParams_encodeParams hhas rfl (by decide) rfl (by decide +kernel)
  have hdata : decodeHex log.data = .ok (Datum.encodeParams ds) := decodeHex_encodePrefixed _
  obtain ⟨hdecoded, -⟩ := decodeLog_of_encodes hfind hencodes hdata hinverse
  exact ⟨hfind, hencodes, hdata, hinverse, hdecoded⟩

end EventDecoder

end ContractLens
