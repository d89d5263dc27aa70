import ContractLens.Proofs.Bridge.Events
import ContractLens.Proofs.Bridge.LegacyLog
import ContractLens.Proofs.EventRoundTrip

/-!
# Events that are logged in both ways

Updates of collections and releases of bitcoins were logged as legacy events before `iris` and are
logged by the bridge's interface since. Both logs of an event are decoded to the same name and
signature. The arguments are the same too, except that a legacy field loses its leading zero bytes.

* `SharedEvent`, `IsLegacyLog`, `IsAbiLog`: such an event and its logs.
* `decodeLog_of_isLegacyLog`, `decodeLog_of_isAbiLog`: what each of its logs is decoded to.
* `legacyArgs_eq_args_iff`: when the arguments are the same.
-/

namespace ContractLens.Bridge

open Abi

/-! ## Events -/

/-- An event that is logged in both ways. -/
inductive SharedEvent where
  | updateCollections (sender : List UInt8)
  | releaseBtc (hash transaction : List UInt8)

namespace SharedEvent

/-- The sizes of the values. A transaction is as long as byte strings can be. -/
def Valid : SharedEvent → Prop
  | updateCollections sender => sender.length = 20
  | releaseBtc hash transaction =>
    hash.length = 32 ∧ transaction ≠ [] ∧ transaction.length < 2 ^ 63

/-- The name of the event. -/
def name : SharedEvent → String
  | updateCollections _ => "update_collections"
  | releaseBtc .. => "release_btc"

/-- The hash of the event's canonical signature. -/
def signature : SharedEvent → String
  | updateCollections _ => Keccak.keccak256Hex "update_collections(address)"
  | releaseBtc .. => Keccak.keccak256Hex "release_btc(bytes32,bytes)"

/-- The values as arguments. -/
def args : SharedEvent → List Value
  | updateCollections sender => [.ofAddressBytes sender]
  | releaseBtc hash transaction => [.bytes hash, .bytes transaction]

/-- The values as arguments, byte strings without leading zeros. -/
def legacyArgs : SharedEvent → List Value
  | updateCollections sender => [.ofAddressBytes sender]
  | releaseBtc hash transaction =>
    [.bytes (trimLeadingZeros hash), .bytes (trimLeadingZeros transaction)]

/-- No byte string starts with a zero that is left out. -/
def KeepsZeros : SharedEvent → Prop
  | updateCollections _ => True
  | releaseBtc hash transaction =>
    hash.head? ≠ some 0 ∧ (transaction.head? ≠ some 0 ∨ transaction = [0])

/-- The values as a list in RLP. -/
def legacyItem : SharedEvent → Rlp.Item
  | updateCollections sender => .list [.bytes sender]
  | releaseBtc hash transaction => .list [.bytes hash, .bytes transaction]

/-- The event in the interface of `iris`. -/
def fragment : SharedEvent → Fragment
  | updateCollections _ => event "update_collections" [plain "sender" "address"]
  | releaseBtc .. =>
    event "release_btc" [indexed "releaseRskTxHash" "bytes32", plain "btcRawTransaction" "bytes"]

/-- The legacy event. -/
def legacyEvent : SharedEvent → LegacyEvent
  | updateCollections _ => ⟨"update_collections", .flat, [(.plain "sender" "address", .plain)]⟩
  | releaseBtc .. => ⟨"release_btc", .flat,
      [(.plain "releaseRskTxHash" "bytes32", .plain),
        (.plain "btcRawTransaction" "bytes", .plain)]⟩

end SharedEvent

/-- A log is the legacy one of an event: its height is before `iris`, its topic is the event's name
    with zeros up to 32 bytes, its data are the values in RLP. -/
structure IsLegacyLog (network : Network) (event : SharedEvent) (log : RawLog) : Prop where
  height : ∃ n, log.blockNumber = some n ∧ n < irisHeight network
  topics : ∃ topic, log.topics = [topic] ∧ decodeHex topic =
    .ok (utf8Bytes event.name ++ List.replicate (32 - (utf8Bytes event.name).length) 0)
  data : decodeHex log.data = .ok event.legacyItem.encode

/-- Topics and data hold the values as the bridge's interface says. -/
def HoldsValues : SharedEvent → List String → String → Prop
  | .updateCollections sender, further, data =>
    further = [] ∧ decodeHex data = .ok (Datum.encodeParams [.address sender])
  | .releaseBtc hash transaction, further, data =>
    (∃ topic, further = [topic] ∧ decodeHex topic = .ok hash) ∧
      decodeHex data = .ok (Datum.encodeParams [.bytes transaction])

/-- A log is the one of an event by the bridge's interface: its height is not before `iris`, its
    first topic is the hash of the signature, the other topics and the data hold the values. -/
structure IsAbiLog (network : Network) (event : SharedEvent) (log : RawLog) : Prop where
  height : ∀ n, log.blockNumber = some n → irisHeight network ≤ n
  topics : ∃ topic further, log.topics = topic :: further ∧
    EventDecoder.Spells topic event.signature ∧ HoldsValues event further log.data

variable {network : Network} {d : Decoder} {event : SharedEvent} {log : RawLog}

/-! ## Legacy logs -/

theorem fits_legacyItem (h : event.Valid) : event.legacyItem.Fits := by
  cases event with
  | updateCollections sender =>
    have hlength : sender.length = 20 := h
    have hsender := Rlp.length_encode_bytes_le (by omega : sender.length < 2 ^ 64)
    simp only [SharedEvent.legacyItem, Rlp.Item.Fits, Rlp.Item.payload, Rlp.Item.encodeAll,
      List.append_nil]
    omega
  | releaseBtc hash transaction =>
    obtain ⟨hlength, -, htransaction⟩ := h
    have hfirst := Rlp.length_encode_bytes_le (by omega : hash.length < 2 ^ 64)
    have hsecond := Rlp.length_encode_bytes_le (by omega : transaction.length < 2 ^ 64)
    simp only [SharedEvent.legacyItem, Rlp.Item.Fits, Rlp.Item.payload, Rlp.Item.encodeAll,
      List.append_nil, List.length_append]
    omega

theorem args_legacyEvent (h : event.Valid) {data : String}
    (hdata : decodeHex data = .ok event.legacyItem.encode) :
    (event.legacyEvent.args [] data).value = .ok event.legacyArgs := by
  have hfits := fits_legacyItem h
  cases event with
  | updateCollections sender =>
    have hfields := decodeFields_list hfits hdata
    have hsender := EventSource.inputValue_sender (p := .plain "sender" "address") rfl
      (trimLeadingZeros sender)
    rw [addressBytes_trimLeadingZeros h] at hsender
    rw [LegacyEvent.args, SharedEvent.legacyEvent, PayloadLayout.fields, hfields]
    exact legacyArgs_cons_of_field rfl hsender rfl rfl
  | releaseBtc hash transaction =>
    obtain ⟨hhash, htransaction, -⟩ := h
    have hfields := decodeFields_list hfits hdata
    have hbytes {raw : List UInt8} (hne : raw ≠ []) :
        (Value.bytes (trimLeadingZeros raw)).isEmpty = false := by
      rw [Value.isEmpty, List.isEmpty_eq_false_iff]
      exact trimLeadingZeros_ne_nil hne
    have hhash' : hash ≠ [] := by
      rintro rfl
      cases hhash
    rw [LegacyEvent.args, SharedEvent.legacyEvent, PayloadLayout.fields, hfields]
    exact legacyArgs_cons_of_field rfl (inputValue_bytes (.inl rfl) _) (hbytes hhash')
      (legacyArgs_cons_of_field rfl (inputValue_bytes (.inr rfl) _) (hbytes htransaction) rfl)

theorem name_legacyEvent (event : SharedEvent) : event.legacyEvent.name = event.name := by
  cases event <;> rfl

theorem ascii_name (event : SharedEvent) :
    ∀ c ∈ event.name.toList, 0 < c.toNat ∧ c.toNat < 0x80 := by
  cases event <;> simp [SharedEvent.name]

theorem hash_legacyEvent (event : SharedEvent) : event.legacyEvent.hash = event.signature := by
  cases event with
  | updateCollections => exact congrArg Keccak.keccak256Hex rfl
  | releaseBtc => exact congrArg Keccak.keccak256Hex rfl

theorem decodeLog_of_isLegacyLog (hd : (Decoder.ofNetwork network).value = .ok d)
    (h : event.Valid) (hlog : IsLegacyLog network event log) :
    (d.decodeLog log).value = .decoded log
      ⟨event.name, event.signature, event.legacyEvent.fragment, event.legacyArgs⟩ := by
  obtain ⟨n, hheight, hn⟩ := hlog.height
  obtain ⟨topic, htopics, htopic⟩ := hlog.topics
  have hname : eventName topic = .ok event.legacyEvent.name := by
    rw [name_legacyEvent]
    exact eventName_of_padded (ascii_name event) htopic
  have hfind : findLegacyEvent (legacyEvents network) event.legacyEvent.name =
      some event.legacyEvent := by
    cases event <;> rfl
  rw [decodeLog_of_lt_iris hd hheight hn,
    decodeLegacyLog_of_args htopics hname hfind (args_legacyEvent h hlog.data), hash_legacyEvent,
    name_legacyEvent]

/-! ## Logs by the interface -/

/-- The events in the interface of `iris`. -/
def irisEvents : List Fragment := iris.filter (·.isEvent)

/-- The place of the event among those of `iris`. -/
def SharedEvent.place : SharedEvent → ℕ
  | updateCollections _ => 1
  | releaseBtc .. => 4

theorem nodup_layouts_irisEvents :
    ((irisEvents.take 5).map fun f => (Signature.ofFragment f).layoutHash).Nodup := by
  have htake : irisEvents.take 5 = events.take 5 := rfl
  rw [htake, List.map_take]
  exact nodup_layoutHash_events.sublist (List.take_sublist ..)

theorem irisEvents_eq (event : SharedEvent) :
    irisEvents = irisEvents.take event.place ++
      event.fragment :: irisEvents.drop (event.place + 1) := by
  cases event <;> rfl

/-- No event before it has as many indexed inputs. -/
theorem indexedCount_ne_of_mem_take (event : SharedEvent) :
    ∀ g ∈ irisEvents.take event.place, g.indexedCount ≠ event.fragment.indexedCount := by
  cases event <;>
  · rw [SharedEvent.place, SharedEvent.fragment]
    decide +kernel

theorem signature_eq (event : SharedEvent) :
    Keccak.keccak256Hex (signatureText event.name event.fragment.inputs) = event.signature := by
  cases event with
  | updateCollections => exact congrArg Keccak.keccak256Hex rfl
  | releaseBtc => exact congrArg Keccak.keccak256Hex rfl

/-- The event is found by its signature in every interface that starts like that of `iris`. -/
theorem findEvent_fragment {t : SignatureTable} (ht : t.Faithful) (more : List Fragment)
    {topic : String} {further : List String} (htopic : EventDecoder.Spells topic event.signature)
    (hfurther : further.length = event.fragment.indexedCount) :
    ((EventDecoder.ofTable (iris ++ more) t).findEvent (topic :: further)).value =
      some ⟨event.fragment, event.name, event.signature, event.fragment.indexedCount⟩ := by
  have hfront : (iris ++ more).filter (·.isEvent) = irisEvents.take event.place ++
      event.fragment :: (irisEvents.drop (event.place + 1) ++ more.filter (·.isEvent)) := by
    rw [List.filter_append, ← irisEvents]
    conv_lhs => rw [irisEvents_eq event]
    rw [List.append_assoc, List.cons_append]
  have hplace : event.place + 1 ≤ 5 := by cases event <;> simp [SharedEvent.place]
  have hnodup : ((irisEvents.take event.place ++ [event.fragment]).map (layoutOf t)).Nodup := by
    have htake : irisEvents.take event.place ++ [event.fragment] =
        irisEvents.take (event.place + 1) := by cases event <;> rfl
    have hlayout : layoutOf t = fun f => (Signature.ofFragment f).layoutHash :=
      funext fun f => congrArg Signature.layoutHash (ht.signature_eq f)
    rw [htake, hlayout]
    exact nodup_layouts_irisEvents.sublist ((List.take_sublist_take_left hplace).map _)
  have hname : event.fragment.name? = some event.name := by cases event <;> rfl
  have hanon : event.fragment.anonymous ≠ some true := by cases event <;> nofun
  rw [← signature_eq] at htopic ⊢
  exact EventDecoder.findEvent_ofTable_of_front ht hfront hnodup
    (indexedCount_ne_of_mem_take event) hanon hname htopic hfurther

/-- What the log of an event carries for its inputs. -/
def SharedEvent.carried : SharedEvent → List Carried
  | updateCollections sender => [.value (.address sender)]
  | releaseBtc hash transaction =>
    [.value (.fixedBytes (padRight hash) 32), .value (.bytes transaction)]

theorem padRight_of_length {raw : List UInt8} (h : raw.length = 32) : padRight raw = raw := by
  rw [padRight, h]
  exact List.append_nil raw

theorem arg_carried (h : event.Valid) : event.carried.map Carried.arg = event.args := by
  cases event with
  | updateCollections => rfl
  | releaseBtc hash transaction =>
    have hhash : (padRight hash).take 32 = hash := by
      rw [padRight_of_length h.1, ← h.1, List.take_length]
    simp only [SharedEvent.carried, List.map_cons, List.map_nil, Carried.arg, Value.ofDatum, hhash,
      SharedEvent.args]

theorem length_encodeParams_address {sender : List UInt8} (h : sender.length = 20) :
    (Datum.encodeParams [.address sender]).length = 32 := by
  have hhead : ∀ offset, ((Datum.address sender).head offset).length = 32 :=
    AbiType.Has.length_head (.address h)
  rw [Datum.encodeParams, Datum.encode_tuple]
  exact @AbiType.length_sequence_of_static [.address] _ (.cons hhead .nil) rfl

theorem length_encodeParams_bytes_le (raw : List UInt8) :
    (Datum.encodeParams [.bytes raw]).length ≤ raw.length + 96 := by
  rw [Datum.encodeParams, Datum.encode_tuple]
  simp [Datum.sequence, Datum.heads, Datum.tails, Datum.head, Datum.tail, Datum.isDynamic,
    Datum.encode, padRight]
  omega

/-- Topics and data that hold the values encode them. -/
theorem exists_encodes (h : event.Valid) {further : List String} {data : String}
    (hholds : HoldsValues event further data) :
    ∃ types ds, EventDecoder.Encodes event.fragment.inputs further types ds event.carried ∧
      decodeHex data = .ok (Datum.encodeParams ds) ∧
      AbiType.decodeParams types (Datum.encodeParams ds) = .ok ds := by
  cases event with
  | updateCollections sender =>
    obtain ⟨rfl, hdata⟩ := hholds
    have htype : EventDecoder.paramType (plain "sender" "address") = .ok .address := rfl
    have hsize : (Datum.encodeParams [.address sender]).length < 2 ^ 64 := by
      rw [length_encodeParams_address h]
      norm_num
    exact ⟨[.address], [.address sender], .data rfl htype .nil, hdata,
      decodeParams_encodeParams (.cons (.address h) .nil) rfl (by decide) rfl hsize⟩
  | releaseBtc hash transaction =>
    obtain ⟨⟨topic, rfl, htopic⟩, hdata⟩ := hholds
    obtain ⟨hhash, -, htransaction⟩ := h
    have hword : EventDecoder.paramType (indexed "releaseRskTxHash" "bytes32") =
      .ok (.fixedBytes 32) := rfl
    have hbytes : EventDecoder.paramType (plain "btcRawTransaction" "bytes") = .ok .bytes := rfl
    have hhas : AbiType.Has (.fixedBytes 32) (.fixedBytes (padRight hash) 32) :=
      .fixedBytes hhash (by norm_num) le_rfl
    have hencode : (Datum.fixedBytes (padRight hash) 32).encode = hash := by
      rw [Datum.encode, padRight_of_length hhash]
    have hsize := lt_of_le_of_lt (length_encodeParams_bytes_le transaction)
      (by omega : transaction.length + 96 < 2 ^ 64)
    exact ⟨[.bytes], [.bytes transaction],
      .word rfl hword rfl hhas (by rw [hencode, htopic]) (.data rfl hbytes .nil), hdata,
      decodeParams_encodeParams (.cons (.bytes transaction) .nil) rfl (by decide) rfl hsize⟩

theorem decodeLog_of_isAbiLog (hd : (Decoder.ofNetwork network).value = .ok d)
    (h : event.Valid) (hlog : IsAbiLog network event log) :
    (d.decodeLog log).value = .decoded log
      ⟨event.name, event.signature, event.fragment, event.args⟩ := by
  obtain ⟨topic, further, htopics, htopic, hholds⟩ := hlog.topics
  obtain ⟨t, more, ht, hdecode⟩ := decodeLog_of_iris_le hd hlog.height
  obtain ⟨types, ds, hencodes, hdata, hinverse⟩ := exists_encodes h hholds
  have hfurther : further.length = event.fragment.indexedCount := by
    cases event with
    | updateCollections => rw [hholds.1]; rfl
    | releaseBtc =>
      obtain ⟨topic, rfl, -⟩ := hholds.1
      rfl
  have hfind := findEvent_fragment ht more htopic hfurther
  rw [← htopics] at hfind
  have htail : log.topics.tail = further := by rw [htopics, List.tail_cons]
  rw [← htail] at hencodes
  have hvalues := EventDecoder.dataValues_of_encodes hencodes hdata hinverse
  have hargs := EventDecoder.mergeArgs_of_encodes hencodes
  rw [hdecode _ hfind, EventDecoder.decodeLog_of_mergeArgs hfind hvalues hargs, arg_carried h]

/-! ## Both logs -/

/-- The arguments are the same if no zeros are left out. -/
theorem legacyArgs_eq_args_iff (h : event.Valid) : event.legacyArgs = event.args ↔
    event.KeepsZeros := by
  cases event with
  | updateCollections => exact iff_of_true rfl trivial
  | releaseBtc hash transaction =>
    obtain ⟨hhash, htransaction, -⟩ := h
    have hne : hash ≠ [] := by
      rintro rfl
      cases hhash
    have hlong : hash ≠ [0] := by
      rintro rfl
      cases hhash
    simp only [SharedEvent.legacyArgs, SharedEvent.args, SharedEvent.KeepsZeros, List.cons.injEq,
      Value.bytes.injEq, and_true]
    rw [trimLeadingZeros_eq_self_iff hne, trimLeadingZeros_eq_self_iff htransaction]
    simp [hlong]

/-- Both logs of an event are decoded to its name and its signature. Since `iris` the arguments are
    its values, before they are its values without leading zeros, which are the same exactly if no
    byte string starts with a zero, or the transaction is one zero. -/
theorem decodeLog_shared_event (hd : (Decoder.ofNetwork network).value = .ok d) (h : event.Valid)
    {old new : RawLog} (hold : IsLegacyLog network event old) (hnew : IsAbiLog network event new) :
    (d.decodeLog old).value = .decoded old
        ⟨event.name, event.signature, event.legacyEvent.fragment, event.legacyArgs⟩ ∧
      (d.decodeLog new).value = .decoded new
        ⟨event.name, event.signature, event.fragment, event.args⟩ ∧
      (event.legacyArgs = event.args ↔ event.KeepsZeros) :=
  ⟨decodeLog_of_isLegacyLog hd h hold, decodeLog_of_isAbiLog hd h hnew, legacyArgs_eq_args_iff h⟩

/-- The legacy log of an event at a height. -/
def legacyLog (event : SharedEvent) (height : UInt64) : RawLog :=
  bridgeLog [utf8Bytes event.name ++ List.replicate (32 - (utf8Bytes event.name).length) 0]
    event.legacyItem.encode height

theorem isLegacyLog_legacyLog (event : SharedEvent) {height : UInt64}
    (h : height < irisHeight network) : IsLegacyLog network event (legacyLog event height) :=
  ⟨⟨height, rfl, h⟩, ⟨_, rfl, decodeHex_encodePrefixed _⟩, decodeHex_encodePrefixed _⟩

/-- A release of bitcoins whose hash has no leading zero is decoded to the same arguments. -/
theorem decodeLog_release :
    let hash : List UInt8 := List.replicate 32 0xaa
    let event := SharedEvent.releaseBtc hash [1, 2]
    let old := legacyLog event 2000000
    let new := { bridgeLog [] (Datum.encodeParams [.bytes [1, 2]]) 4000000 with
      topics := ["0x" ++ event.signature, Hex.encodePrefixed hash] }
    ∃ d, (Decoder.ofNetwork .mainnet).value = .ok d ∧ event.Valid ∧
      IsLegacyLog .mainnet event old ∧ IsAbiLog .mainnet event new ∧
      ∃ f g, (d.decodeLog old).value = .decoded old
          ⟨"release_btc", event.signature, f, [.bytes hash, .bytes [1, 2]]⟩ ∧
        (d.decodeLog new).value = .decoded new
          ⟨"release_btc", event.signature, g, [.bytes hash, .bytes [1, 2]]⟩ := by
  intro hash event old new
  have hvalid : event.Valid := ⟨rfl, List.cons_ne_nil 1 [2], by decide⟩
  have hold : IsLegacyLog .mainnet event old := isLegacyLog_legacyLog event (by decide)
  have hnew : IsAbiLog .mainnet event new := by
    refine ⟨?_, _, _, rfl, EventDecoder.spells_marked _, ⟨_, rfl, ?_⟩, ?_⟩
    · rintro n ⟨⟩
      decide
    · exact decodeHex_encodePrefixed hash
    · exact decodeHex_encodePrefixed _
  obtain ⟨d, hd⟩ : ∃ d, (Decoder.ofNetwork .mainnet).value = .ok d := ⟨_, rfl⟩
  obtain ⟨hlegacy, habi, hargs⟩ := decodeLog_shared_event hd hvalid hold hnew
  rw [hargs.mpr ⟨by decide, .inl (by decide)⟩] at hlegacy
  exact ⟨d, hd, hvalid, hold, hnew, _, _, hlegacy, habi⟩

/-- A legacy release of bitcoins whose hash has a leading zero is decoded to a shorter hash. -/
theorem decodeLog_release_loses_zero :
    let hash : List UInt8 := 0 :: List.replicate 31 0xaa
    let event := SharedEvent.releaseBtc hash [1, 2]
    let log := legacyLog event 2000000
    event.Valid ∧ IsLegacyLog .mainnet event log ∧
      ∃ d, (Decoder.ofNetwork .mainnet).value = .ok d ∧
        (∃ f, (d.decodeLog log).value = .decoded log ⟨"release_btc", event.signature, f,
          [.bytes (List.replicate 31 0xaa), .bytes [1, 2]]⟩) ∧
        ∀ name signature f, (d.decodeLog log).value ≠ .decoded log
          ⟨name, signature, f, [.bytes hash, .bytes [1, 2]]⟩ := by
  intro hash event log
  have hvalid : event.Valid := ⟨rfl, List.cons_ne_nil 1 [2], by decide⟩
  have hlog : IsLegacyLog .mainnet event log := isLegacyLog_legacyLog event (by decide)
  obtain ⟨d, hd⟩ : ∃ d, (Decoder.ofNetwork .mainnet).value = .ok d := ⟨_, rfl⟩
  have hdecoded := decodeLog_of_isLegacyLog hd hvalid hlog
  have hargs : event.legacyArgs = [.bytes (List.replicate 31 0xaa), .bytes [1, 2]] := rfl
  rw [hargs] at hdecoded
  refine ⟨hvalid, hlog, d, hd, ⟨_, hdecoded⟩, fun name signature f heq => ?_⟩
  rw [hdecoded] at heq
  simp [DecodedLog.decoded, hash] at heq

end ContractLens.Bridge
