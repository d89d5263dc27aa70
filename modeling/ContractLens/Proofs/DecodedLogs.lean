import ContractLens.Proofs.Bridge.Releases
import ContractLens.Proofs.Inspector
import ContractLens.Proofs.Json.Record

/-!
# Lists of decoded logs

With a network, each log of a list is decoded by itself and keeps its place. Without one nothing is
decoded, not even an empty list.

* `DecodedLog.Describes`: what an entry says of its log, in full or not at all.
* `EventDecoder.decodeLog_describes`, `Bridge.Decoder.decodeLog_describes`: both decoders give such
  entries.
* `Inspector.decodeEach_eq_map`: a list is decoded log by log.
* `Inspector.decodeLogs_spec`: what becomes of a list of logs.
-/

namespace ContractLens

open Abi

/-! ## Entries as JSON -/

/-- A raw log has no other fields. -/
theorem RawLog.lookup_toFields {key : String} (h : key ∉ fieldNames) (log : RawLog) :
    log.toFields.lookup key = none := by
  have hne : ∀ name ∈ fieldNames, (key == name) = false ∧ key ≠ name := by
    intro name hname
    have hkey : key ≠ name := fun heq => h (heq ▸ hname)
    exact ⟨beq_eq_false_iff_ne.mpr hkey, hkey⟩
  simp only [fieldNames, List.forall_mem_cons] at hne
  simp [toFields, List.lookup_append, List.lookup_cons, Json.lookup_fieldOfOption, hne]

/-- The fields that an event has in JSON. -/
def DecodedEvent.toFields (e : DecodedEvent) : List (String × Json) :=
  [("event", .str e.name), ("signature", .str e.signature), ("abi", e.fragment.toJson),
    ("args", .arr (Value.listToJson e.args))]

/-- The keys of these fields. -/
def DecodedEvent.keys : List String := ["event", "signature", "abi", "args"]

namespace DecodedLog

/-- The fields of a decoded log besides those of the raw log. -/
theorem field?_toJson {key : String} (h : key ∉ RawLog.fieldNames) (d : DecodedLog) :
    d.toJson.field? key = (((d.event.map DecodedEvent.toFields).getD []).lookup key).or
      (if key = "_addresses" then d.addresses.map Json.ofTexts else none) := by
  rw [toJson, Json.field?, List.lookup_append, List.lookup_append, RawLog.lookup_toFields h,
    Option.none_or, Json.lookup_fieldOfOption]
  cases d.event <;> rfl

/-- The fields of the raw log stay as they are. -/
theorem field?_toJson_of_raw (d : DecodedLog) {key : String} {value : Json}
    (h : d.log.toJson.field? key = some value) : d.toJson.field? key = some value := by
  rw [RawLog.toJson, Json.field?] at h
  rw [toJson, Json.field?, List.lookup_append, List.lookup_append, h, Option.some_or,
    Option.some_or]

theorem field?_addresses (d : DecodedLog) :
    d.toJson.field? "_addresses" = d.addresses.map Json.ofTexts := by
  have hkey : "_addresses" ∉ RawLog.fieldNames := by decide
  rw [field?_toJson hkey, if_pos rfl]
  cases d.event with
  | none => rfl
  | some e => rfl

/-- An entry keeps the log as it is. It has an event with the name and the signature of its fragment
    and tells all of the event, or it has none and tells nothing of one. -/
structure Describes (d : DecodedLog) (log : RawLog) : Prop where
  log_eq : d.log = log
  raw : ∀ key value, log.toJson.field? key = some value → d.toJson.field? key = some value
  event : match d.event with
    | none => ∀ key ∈ DecodedEvent.keys, d.toJson.field? key = none
    | some e => e.fragment.name? = some e.name ∧
        e.fragment.canonicalSignature?.map Keccak.keccak256Hex = some e.signature ∧
        d.toJson.field? "event" = some (.str e.name) ∧
        d.toJson.field? "signature" = some (.str e.signature) ∧
        d.toJson.field? "abi" = some e.fragment.toJson ∧
        d.toJson.field? "args" = some (.arr (Value.listToJson e.args))

/-- What an entry tells follows from its log and its event. -/
theorem describes_of {d : DecodedLog} {log : RawLog} (hlog : d.log = log)
    (hevent : ∀ e, d.event = some e → e.fragment.name? = some e.name ∧
      e.fragment.canonicalSignature?.map Keccak.keccak256Hex = some e.signature) :
    d.Describes log := by
  refine ⟨hlog, fun key value h => d.field?_toJson_of_raw (hlog ▸ h), ?_⟩
  have hraw : ∀ key ∈ DecodedEvent.keys, key ∉ RawLog.fieldNames ∧ key ≠ "_addresses" := by decide
  have hfield : ∀ key ∈ DecodedEvent.keys, d.toJson.field? key =
      ((d.event.map DecodedEvent.toFields).getD []).lookup key := by
    intro key hkey
    rw [d.field?_toJson (hraw key hkey).1, if_neg (hraw key hkey).2, Option.or_none]
  cases he : d.event with
  | none =>
    rw [he] at hfield
    exact hfield
  | some e =>
    rw [he] at hfield
    obtain ⟨hname, hsignature⟩ := hevent e he
    exact ⟨hname, hsignature, hfield "event" (by decide), hfield "signature" (by decide),
      hfield "abi" (by decide), hfield "args" (by decide)⟩

theorem withAddresses_log (d : DecodedLog) : d.withAddresses.log = d.log := by
  rw [withAddresses]
  cases d.event <;> rfl

theorem withAddresses_event (d : DecodedLog) : d.withAddresses.event = d.event := by
  rw [withAddresses]
  cases hevent : d.event with
  | none => exact hevent
  | some e => rfl

theorem withAddresses_addresses {d : DecodedLog} (h : d.addresses = none) :
    d.withAddresses.addresses = d.event.map fun e => EventAddresses.ofArgs e.fragment e.args := by
  rw [withAddresses]
  cases d.event with
  | none => exact h
  | some e => rfl

/-- Addresses do not change what an entry says of its log otherwise. -/
theorem Describes.withAddresses {d : DecodedLog} {log : RawLog} (h : d.Describes log) :
    d.withAddresses.Describes log := by
  refine describes_of (d.withAddresses_log.trans h.log_eq) fun e he => ?_
  rw [withAddresses_event] at he
  have hevent := h.event
  rw [he] at hevent
  exact ⟨hevent.1, hevent.2.1⟩

end DecodedLog

/-! ## Entries of both decoders -/

theorem DecodesBy.log_eq {source? : Option EventSource} {log : RawLog} {d : DecodedLog}
    (h : DecodesBy source? log d) : d.log = log ∧ d.addresses = none := by
  rcases h with rfl | ⟨source, args, name, signature, -, -, rfl⟩
  · exact ⟨rfl, rfl⟩
  · exact ⟨rfl, rfl⟩

theorem hash_of_name {f : Fragment} {name : String} (h : f.name? = some name) :
    f.canonicalSignature?.map Keccak.keccak256Hex =
      some (Keccak.keccak256Hex (signatureText name f.inputs)) := by
  rw [canonicalSignature?_of_name h, Option.map_some]

namespace EventDecoder

variable {fragments : List Fragment} {t : SignatureTable}

/-- What is found has the name of its fragment and the hash of its signature. -/
theorem name?_of_findEvent (ht : t.Faithful) {topics : List String} {k : KnownEvent}
    (h : ((ofTable fragments t).findEvent topics).value = some k) :
    k.fragment.name? = some k.name ∧
      k.fragment.canonicalSignature?.map Keccak.keccak256Hex = some k.hash := by
  obtain ⟨-, -, f, name, -, -, -, -, -, hname, rfl⟩ := exists_of_findEvent ht h
  exact ⟨hname, hash_of_name hname⟩

/-- An event that a log is decoded to has been found for it, and its arguments have been read. -/
theorem decodeLog_event_eq_some {d : EventDecoder} {log : RawLog} {e : DecodedEvent}
    (h : (d.decodeLog log).value.event = some e) :
    ∃ k args, (d.findEvent log.topics).value = some k ∧
      eventArgs k.fragment log.topics.tail log.data = .ok args ∧
      e = ⟨k.name, k.hash, k.fragment, args⟩ := by
  rw [decodeLog, Noted.value_bind] at h
  cases hfind : (d.findEvent log.topics).value with
  | none =>
    rw [hfind] at h
    cases h
  | some k =>
    rw [hfind] at h
    cases hargs : eventArgs k.fragment log.topics.tail log.data with
    | error error =>
      simp only [hargs] at h
      cases h
    | ok args =>
      simp only [hargs] at h
      cases h
      exact ⟨k, args, rfl, hargs, rfl⟩

theorem decodeLog_describes (ht : t.Faithful) (log : RawLog) :
    ((ofTable fragments t).decodeLog log).value.Describes log := by
  refine DecodedLog.describes_of ((decodeLog_decodesBy _ log).log_eq).1 fun e he => ?_
  obtain ⟨k, args, hfind, -, rfl⟩ := decodeLog_event_eq_some he
  exact name?_of_findEvent ht hfind

end EventDecoder

namespace Bridge

theorem name?_legacyEvent {network : Network} : ∀ e ∈ legacyEvents network,
    e.fragment.name? = some e.name := by
  cases network <;> decide

theorem decodeLegacyLog_describes {network : Network} (log : RawLog) :
    (decodeLegacyLog (legacyEvents network) log).value.Describes log := by
  refine DecodedLog.describes_of ((decodeLegacyLog_decodesBy _ log).log_eq).1 fun e he => ?_
  unfold decodeLegacyLog at he
  cases htopics : log.topics with
  | nil =>
    rw [htopics] at he
    cases he
  | cons topic topics =>
    rw [htopics] at he
    cases hname : eventName topic with
    | error error =>
      simp only [hname] at he
      cases he
    | ok name =>
      cases hevent : findLegacyEvent (legacyEvents network) name with
      | none =>
        simp only [hname, hevent] at he
        cases he
      | some event =>
        simp only [hname, hevent, Noted.value_bind] at he
        cases hargs : (event.args topics log.data).value with
        | error error =>
          rw [hargs] at he
          cases he
        | ok args =>
          rw [hargs] at he
          cases he
          have hfound := List.find?_some hevent
          rw [beq_iff_eq] at hfound
          have hnamed := name?_legacyEvent event (List.mem_of_find?_eq_some hevent)
          subst hfound
          exact ⟨hnamed, hash_of_name hnamed⟩

theorem Decoder.decodeLog_describes {network : Network} {d : Decoder}
    (hd : (Decoder.ofNetwork network).value = .ok d) (log : RawLog) :
    (d.decodeLog log).value.Describes log := by
  obtain ⟨r, t, -, ht, hrelease⟩ := releaseFor_isActive hd log.blockNumber
  rw [decodeLog, hrelease]
  simp only [Noted.value_bind, legacy_ofNetwork hd]
  cases ((EventDecoder.ofTable r.abi t).findEvent log.topics).value with
  | none => exact decodeLegacyLog_describes log
  | some k => exact EventDecoder.decodeLog_describes ht log

end Bridge

/-! ## Lists -/

/-- A log decoded by itself: by the decoder for the built-in contracts if it comes from one of them,
    else by the events among the fragments. -/
def decodeAlone (natives : NativeConfig) (bridge : Bridge.Decoder) (fragments : List Fragment)
    (log : RawLog) : DecodedLog :=
  if natives.Names log.address then (bridge.decodeLog log).value
  else ((EventDecoder.ofFragments fragments).decodeLog log).value

theorem decodeAlone_describes {network : Network} {bridge : Bridge.Decoder}
    (hbridge : (Bridge.Decoder.ofNetwork network).value = .ok bridge) (natives : NativeConfig)
    (fragments : List Fragment) (log : RawLog) :
    (decodeAlone natives bridge fragments log).Describes log ∧
      (decodeAlone natives bridge fragments log).addresses = none := by
  rw [decodeAlone]
  split_ifs
  · exact ⟨Bridge.Decoder.decodeLog_describes hbridge log, (bridge.decodeLog_decodesBy log).log_eq.2⟩
  · exact ⟨EventDecoder.decodeLog_describes (SignatureTable.faithful_ofFragments fragments) log,
      ((EventDecoder.ofFragments fragments).decodeLog_decodesBy log).log_eq.2⟩

namespace Inspector

variable {c : Config} {i : Inspector} {fragments : List Fragment} {bridge : Bridge.Decoder}

/-- With a network, a list is decoded log by log. -/
theorem decodeEach_eq_map (h : i.MadeFrom c fragments) (hbridge : i.bridge = some bridge)
    (logs : List RawLog) :
    (i.decodeEach logs).value = .ok (logs.map (decodeAlone c.natives bridge fragments)) := by
  induction logs with
  | nil => rfl
  | cons log logs ih =>
    have hdecoder : ∃ decoder, i.decoderFor log = .ok decoder ∧
        (decoder.decodeLog log).value = decodeAlone c.natives bridge fragments log := by
      rw [decoderFor, hbridge, decodeAlone]
      by_cases hnative : c.natives.Names log.address
      · exact ⟨.native bridge, if_pos (h.isNative_iff.mpr hnative), by rw [if_pos hnative]; rfl⟩
      · refine ⟨.standard i.events, if_neg (mt h.isNative_iff.mp hnative), ?_⟩
        rw [if_neg hnative, h.events_eq]
        rfl
    obtain ⟨decoder, hdecoder, halone⟩ := hdecoder
    rw [decodeEach, hdecoder]
    simp only [Noted.value_bind, Noted.value_pure, ih, halone]
    rfl

/-- Lists of logs are decoded and parsed exactly if the configuration has a network. Then each log
    is decoded by itself, by the address that it comes from, and keeps its place; each entry keeps
    its log and tells all of an event or nothing, and after parsing it has addresses exactly if it
    has an event. -/
theorem decodeLogs_spec (h : MadeFrom c i fragments) :
    (c.networkId = none → ∀ logs, (i.decodeLogs logs).value = .error .networkMissing ∧
      (i.parseLogs logs).value = .error .networkMissing) ∧
    ∀ id, c.networkId = some id → ∃ network bridge, Network.ofId? id = some network ∧
      (Bridge.Decoder.ofNetwork network).value = .ok bridge ∧
      (∀ logs, (i.decodeLogs logs).value =
          .ok (logs.map (decodeAlone c.natives bridge fragments)) ∧
        (i.parseLogs logs).value =
          .ok (logs.map fun log => (decodeAlone c.natives bridge fragments log).withAddresses)) ∧
      ∀ log, (decodeAlone c.natives bridge fragments log).Describes log ∧
        (decodeAlone c.natives bridge fragments log).withAddresses.Describes log ∧
        (((decodeAlone c.natives bridge fragments log).withAddresses.toJson.field?
          "_addresses").isSome = true ↔
            (decodeAlone c.natives bridge fragments log).event.isSome = true) := by
  rcases h.bridge_cases with ⟨hid, hnone⟩ | ⟨id, network, bridge, hid, hnetwork, hbridge, hsome⟩
  · refine ⟨fun _ logs => ?_, fun id hid' => ?_⟩
    · have hmissing : (i.decodeLogs logs).value = .error .networkMissing := by
        rw [decodeLogs, hnone]
        rfl
      refine ⟨hmissing, ?_⟩
      rw [parseLogs, Noted.value_bind, hmissing]
      rfl
    · rw [hid] at hid'
      cases hid'
  · refine ⟨fun hnone => ?_, fun id' hid' => ?_⟩
    · rw [hid] at hnone
      cases hnone
    rw [hid] at hid'
    obtain rfl := Option.some.inj hid'
    refine ⟨network, bridge, hnetwork, hbridge, fun logs => ?_, fun log => ?_⟩
    · have hdecoded : (i.decodeLogs logs).value =
          .ok (logs.map (decodeAlone c.natives bridge fragments)) := by
        rw [decodeLogs, hsome]
        exact decodeEach_eq_map h hsome logs
      refine ⟨hdecoded, ?_⟩
      rw [parseLogs, Noted.value_bind, hdecoded, Noted.value_pure, Except.map, List.map_map]
      rfl
    · obtain ⟨hdescribes, hnone⟩ := decodeAlone_describes hbridge c.natives fragments log
      refine ⟨hdescribes, hdescribes.withAddresses, ?_⟩
      rw [DecodedLog.field?_addresses, DecodedLog.withAddresses_addresses hnone, Option.isSome_map,
        Option.isSome_map]

/-- A configuration for the main network with a single event. -/
def ownerConfig : Config :=
  { Config.ofNetwork .mainnet with abi := some [oneTopic "Owner" "address"] }

/-- The log of an owner. -/
def ownerLog : RawLog := eventLog "Owner" (oneTopic "Owner" "address") [ownerTopic] "0x"

/-- A log of the bridge without any topics. -/
def bridgeLog : RawLog := { ownerLog with address := NativeConfig.standard.bridge, topics := [] }

/-- Of these two logs the first is decoded and the second is not, but both have their entries. -/
theorem decodeLogs_owner_bridge :
    ∃ (i : Inspector) (ds : List DecodedLog),
      i.MadeFrom ownerConfig [oneTopic "Owner" "address"] ∧
      (i.decodeLogs [ownerLog, bridgeLog]).value = .ok ds ∧
      ds.map (fun d => d.event.map DecodedEvent.name) = [some "Owner", none] := by
  obtain ⟨i, hi, -⟩ := exists_ofConfig (c := ownerConfig) rfl rfl (by decide +kernel)
  have hmade : i.MadeFrom ownerConfig [oneTopic "Owner" "address"] := .ofConfig hi
  obtain ⟨network, bridge, -, -, hlists, -⟩ := (decodeLogs_spec hmade).2 _ rfl
  refine ⟨i, _, hmade, (hlists [ownerLog, bridgeLog]).1, ?_⟩
  have howner : (decodeAlone ownerConfig.natives bridge [oneTopic "Owner" "address"]
      ownerLog).event.map DecodedEvent.name = some "Owner" := by
    have hplain : ¬ ownerConfig.natives.Names ownerLog.address := by decide +kernel
    have hname : (oneTopic "Owner" "address").name? = some "Owner" := by decide
    have hcount : (oneTopic "Owner" "address").indexedCount = [ownerTopic].length := rfl
    have hfind := EventDecoder.findEvent_eventLog rfl (by decide) hname hcount "0x"
    rw [decodeAlone, if_neg hplain, EventDecoder.decodeLog, Noted.value_bind, ownerLog, hfind]
    simp only [eventLog, List.tail_cons, EventDecoder.eventArgs_owner]
    rfl
  have hbridge : (decodeAlone ownerConfig.natives bridge [oneTopic "Owner" "address"]
      bridgeLog).event = none := by
    have hnative : ownerConfig.natives.Names bridgeLog.address := by decide +kernel
    have hsource : bridge.eventSource? bridgeLog = none := by
      rw [Bridge.Decoder.eventSource?]
      cases bridge.releaseFor bridgeLog.blockNumber <;> rfl
    have hdecodes := bridge.decodeLog_decodesBy bridgeLog
    rw [hsource] at hdecodes
    rw [decodeAlone, if_pos hnative, DecodesBy.eq_undecoded hdecodes]
    rfl
  simp only [List.map_cons, List.map_nil, howner, hbridge, Option.map_none]

end Inspector

end ContractLens
