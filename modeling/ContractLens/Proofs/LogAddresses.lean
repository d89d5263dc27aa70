import ContractLens.Inspector
import ContractLens.Proofs.EventSource
import ContractLens.Proofs.Inspector

/-!
# Addresses of parsed logs

An inspector with a network decodes each log by the event that it takes it for, and reports the
addresses of that event. They are the ones that the log carries and those that are misread.

* `Inspector.Reachable`: inspectors as they come about.
* `Inspector.eventSource?`: the event that a log is taken for.
* `Inspector.parseLogs_eq_ok`: each log is decoded by itself, to the event that it is taken for.
* `parseLogs_addresses_iff`: what is reported for a log.
-/

namespace ContractLens

open Abi

/-! ## Inspectors -/

/-- The inspectors that come from a configuration and from changes of the interface description. -/
inductive Inspector.Reachable : Inspector → Prop
  | ofConfig {c : Config} {i : Inspector} : (Inspector.ofConfig c).value = .ok i → Reachable i
  | withAbi {i : Inspector} (abi : Option (List Fragment)) : Reachable i → Reachable (i.withAbi abi)

theorem Bridge.Decoder.legacy_ofNetwork {network : Network} {d : Decoder}
    (h : (ofNetwork network).value = .ok d) : d.legacy = legacyEvents network := by
  unfold ofNetwork at h
  split at h
  · cases h
  · cases h
    rfl

/-- With a network there is a decoder for the built-in contracts' logs, with the network's legacy
    events. -/
theorem Inspector.Reachable.bridge {i : Inspector} (h : i.Reachable) {network : Network}
    (hnetwork : i.network = some network) :
    ∃ d, i.bridge = some d ∧ d.legacy = Bridge.legacyEvents network := by
  induction h with
  | @ofConfig c i hi =>
    obtain ⟨n, bridge, -, hbridge, -, rfl⟩ := exists_of_ofConfig hi
    obtain rfl : n = some network := hnetwork
    obtain ⟨d, hd, hsome⟩ := map_eq_ok_iff.mp hbridge
    exact ⟨d, hsome.symm, Bridge.Decoder.legacy_ofNetwork hd⟩
  | withAbi abi _ ih => exact ih hnetwork

/-! ## Decoded logs -/

/-- The legacy event that a log names. -/
def Bridge.legacySource? (events : List LegacyEvent) (log : RawLog) : Option EventSource := do
  let topic ← log.topics.head?
  let name ← (eventName topic).toOption
  let e ← findLegacyEvent events name
  return .legacy e

/-- The event of an interface description that a log fits. -/
def EventDecoder.eventSource? (d : EventDecoder) (log : RawLog) : Option EventSource :=
  (d.findEvent log.topics).value.map fun e => .standard e.fragment

/-- The event that the bridge's decoder takes a log for. -/
def Bridge.Decoder.eventSource? (d : Decoder) (log : RawLog) : Option EventSource :=
  match d.releaseFor log.blockNumber with
  | .ok (_, standard) => (standard.eventSource? log).or (legacySource? d.legacy log)
  | .error _ => legacySource? d.legacy log

/-- The event that a log is taken for. -/
def LogDecoder.eventSource? : LogDecoder → RawLog → Option EventSource
  | standard d, log => d.eventSource? log
  | native d, log => d.eventSource? log

/-- The arguments that are read from a log for an event. -/
def EventSource.args : EventSource → RawLog → Except DecodeError (List Value)
  | standard f, log => EventDecoder.eventArgs f log.topics.tail log.data
  | legacy e, log => (e.args log.topics.tail log.data).value

/-- A log stays undecoded or is decoded to the event that it is taken for. -/
def DecodesBy (source? : Option EventSource) (log : RawLog) (d : DecodedLog) : Prop :=
  d = .undecoded log ∨ ∃ source args name signature, source? = some source ∧
    source.args log = .ok args ∧ d = .decoded log ⟨name, signature, source.fragment, args⟩

theorem DecodesBy.exists_source {source? : Option EventSource} {log : RawLog} {d : DecodedLog}
    (h : DecodesBy source? log d) {e : DecodedEvent} (he : d.event = some e) :
    ∃ source, source? = some source ∧ e.fragment = source.fragment := by
  rcases h with rfl | ⟨source, args, name, signature, hsource, -, rfl⟩
  · cases he
  · cases he
    exact ⟨source, hsource, rfl⟩

theorem DecodesBy.eq_undecoded {log : RawLog} {d : DecodedLog} (h : DecodesBy none log d) :
    d = .undecoded log := by
  rcases h with h | ⟨source, args, name, signature, hsource, -⟩
  · exact h
  · cases hsource

theorem EventDecoder.decodeLog_decodesBy (d : EventDecoder) (log : RawLog) :
    DecodesBy (d.eventSource? log) log (d.decodeLog log).value := by
  rw [decodeLog, Noted.value_bind, eventSource?]
  cases (d.findEvent log.topics).value with
  | none => exact Or.inl rfl
  | some e =>
    cases hargs : eventArgs e.fragment log.topics.tail log.data with
    | error error =>
      simp only [hargs]
      exact Or.inl rfl
    | ok args =>
      simp only [hargs]
      exact Or.inr ⟨_, args, e.name, e.hash, rfl, hargs, rfl⟩

theorem Bridge.decodeLegacyLog_decodesBy (events : List LegacyEvent) (log : RawLog) :
    DecodesBy (legacySource? events log) log (decodeLegacyLog events log).value := by
  unfold decodeLegacyLog legacySource?
  cases htopics : log.topics with
  | nil => exact Or.inl rfl
  | cons topic topics =>
    cases hname : eventName topic with
    | error error =>
      simp only [hname]
      exact Or.inl rfl
    | ok name =>
      cases hevent : findLegacyEvent events name with
      | none =>
        simp only [hname, hevent]
        exact Or.inl rfl
      | some e =>
        simp only [hname, hevent, Noted.value_bind]
        cases hargs : (e.args topics log.data).value with
        | error error => exact Or.inl rfl
        | ok args =>
          refine Or.inr ⟨.legacy e, args, name, e.hash, ?_, ?_, rfl⟩
          · simp [Except.toOption, hname, hevent]
          · rw [EventSource.args, htopics, List.tail_cons, hargs]

theorem Bridge.Decoder.decodeLog_decodesBy (d : Decoder) (log : RawLog) :
    DecodesBy (d.eventSource? log) log (d.decodeLog log).value := by
  unfold decodeLog eventSource?
  cases d.releaseFor log.blockNumber with
  | error error => exact decodeLegacyLog_decodesBy d.legacy log
  | ok found =>
    obtain ⟨release, standard⟩ := found
    have hstandard := standard.decodeLog_decodesBy log
    simp only [Noted.value_bind]
    -- the release's decoder looks for the event once more, with the same outcome
    unfold EventDecoder.eventSource? at hstandard ⊢
    cases hfind : (standard.findEvent log.topics).value with
    | none => exact decodeLegacyLog_decodesBy d.legacy log
    | some e =>
      rw [hfind] at hstandard
      exact hstandard

theorem LogDecoder.decodeLog_decodesBy (d : LogDecoder) (log : RawLog) :
    DecodesBy (d.eventSource? log) log (d.decodeLog log).value := by
  cases d with
  | standard d => exact d.decodeLog_decodesBy log
  | native d => exact d.decodeLog_decodesBy log

/-! ## Legacy events of a log -/

theorem EventDecoder.eventSource?_ne_legacy {d : EventDecoder} {log : RawLog}
    {e : Bridge.LegacyEvent} : d.eventSource? log ≠ some (.legacy e) := by
  intro h
  obtain ⟨k, -, hk⟩ := Option.map_eq_some_iff.mp h
  cases hk

theorem Bridge.mem_of_legacySource? {events : List LegacyEvent} {log : RawLog} {e : LegacyEvent}
    (h : legacySource? events log = some (.legacy e)) : e ∈ events := by
  obtain ⟨topic, -, h⟩ := Option.bind_eq_some_iff.mp h
  obtain ⟨name, -, h⟩ := Option.bind_eq_some_iff.mp h
  obtain ⟨e', he', h⟩ := Option.bind_eq_some_iff.mp h
  cases h
  exact List.mem_of_find?_eq_some he'

theorem Bridge.exists_of_legacySource? {events : List LegacyEvent} {log : RawLog}
    {source : EventSource} (h : legacySource? events log = some source) :
    ∃ e ∈ events, source = .legacy e := by
  obtain ⟨e, rfl⟩ : ∃ e, source = .legacy e := by
    obtain ⟨topic, -, h⟩ := Option.bind_eq_some_iff.mp h
    obtain ⟨name, -, h⟩ := Option.bind_eq_some_iff.mp h
    obtain ⟨e, -, h⟩ := Option.bind_eq_some_iff.mp h
    exact ⟨e, (Option.some.inj h).symm⟩
  exact ⟨e, mem_of_legacySource? h, rfl⟩

/-- Only the bridge's legacy events are taken for such. -/
theorem Bridge.Decoder.mem_of_eventSource? {d : Decoder} {log : RawLog} {e : LegacyEvent}
    (h : d.eventSource? log = some (.legacy e)) : e ∈ d.legacy := by
  unfold eventSource? at h
  split at h
  · rcases Option.or_eq_some_iff.mp h with h | ⟨-, h⟩
    · exact absurd h EventDecoder.eventSource?_ne_legacy
    · exact mem_of_legacySource? h
  · exact mem_of_legacySource? h

/-! ## Parsed logs -/

namespace Inspector

/-- The event that an inspector takes a log for. -/
def eventSource? (i : Inspector) (log : RawLog) : Option EventSource :=
  (i.decoderFor log).toOption.bind fun d => d.eventSource? log

theorem mem_legacyEvents_of_eventSource? {i : Inspector} (hi : i.Reachable) {network : Network}
    (hnetwork : i.network = some network) {log : RawLog} {e : Bridge.LegacyEvent}
    (h : i.eventSource? log = some (.legacy e)) : e ∈ Bridge.legacyEvents network := by
  obtain ⟨bridge, hbridge, hlegacy⟩ := hi.bridge hnetwork
  rw [eventSource?, decoderFor, hbridge] at h
  simp only at h
  split_ifs at h
  · exact hlegacy ▸ Bridge.Decoder.mem_of_eventSource? h
  · exact absurd h EventDecoder.eventSource?_ne_legacy

/-- With a bridge, logs are decoded one by one. -/
theorem decodeEach_eq_ok {i : Inspector} {bridge : Bridge.Decoder} (h : i.bridge = some bridge)
    (logs : List RawLog) :
    ∃ ds, (i.decodeEach logs).value = .ok ds ∧
      List.Forall₂ (fun log d => DecodesBy (i.eventSource? log) log d) logs ds := by
  induction logs with
  | nil => exact ⟨[], rfl, .nil⟩
  | cons log logs ih =>
    obtain ⟨ds, hds, hall⟩ := ih
    obtain ⟨decoder, hdecoder⟩ : ∃ decoder, i.decoderFor log = .ok decoder := by
      unfold decoderFor
      rw [h]
      split_ifs
      · exact ⟨_, rfl⟩
      · exact ⟨_, rfl⟩
    refine ⟨(decoder.decodeLog log).value :: ds, ?_, .cons ?_ hall⟩
    · rw [decodeEach, hdecoder]
      simp only [Noted.value_bind, Noted.value_pure, hds]
      rfl
    · rw [eventSource?, hdecoder]
      exact decoder.decodeLog_decodesBy log

/-- With a network, logs are parsed one by one. -/
theorem parseLogs_eq_ok {i : Inspector} (hi : i.Reachable) {network : Network}
    (hnetwork : i.network = some network) (logs : List RawLog) :
    ∃ ds, (i.parseLogs logs).value = .ok ds ∧ List.Forall₂ (fun log d =>
      ∃ d', DecodesBy (i.eventSource? log) log d' ∧ d = d'.withAddresses) logs ds := by
  obtain ⟨bridge, hbridge, -⟩ := hi.bridge hnetwork
  obtain ⟨ds, hds, hall⟩ := decodeEach_eq_ok hbridge logs
  refine ⟨ds.map DecodedLog.withAddresses, ?_, ?_⟩
  · rw [parseLogs, decodeLogs, hbridge, Noted.value_bind, hds]
    rfl
  · rw [List.forall₂_map_right_iff]
    exact hall.imp fun _ d h => ⟨d, h, rfl⟩

end Inspector

/-- The addresses that are read from a log for an event. -/
theorem EventSource.mem_ofArgs_iff {network : Network} {source : EventSource}
    (hlegacy : ∀ e, source = .legacy e → e ∈ Bridge.legacyEvents network) {log : RawLog}
    {args : List Value} (h : source.args log = .ok args) {a : String} :
    a ∈ EventAddresses.ofArgs source.fragment args ↔
      source.Carries log a ∨ source.Misreads log a := by
  cases source with
  | standard f => exact mem_ofArgs_standard_iff h
  | legacy e => exact mem_ofArgs_legacy_iff (hlegacy e rfl) h

/-! ## Inspectors with one event -/

/-- A configuration with a network that has releases gives an inspector. -/
theorem Inspector.exists_ofConfig {c : Config} {network : Network} {table : List Bridge.Release}
    (hnetwork : c.network = .ok (some network))
    (htable : Bridge.Release.tableOf network = .ok table)
    (hnatives : (NativeContracts.ofConfig c.natives).validate = .ok ()) :
    ∃ i, (Inspector.ofConfig c).value = .ok i ∧ i.network = some network ∧
      i.natives = NativeContracts.ofConfig c.natives := by
  unfold Inspector.ofConfig bridgeDecoder Bridge.Decoder.ofNetwork
  simp only [hnetwork, htable, Noted.value_bind, Noted.value_pure, Except.map, hnatives]
  exact ⟨_, rfl, rfl, rfl⟩

/-- The address of a contract that is not built in. -/
def plainAddress : String := "0x77045e71a7a2c50903d88e564cd72fab11e82051"

theorem isNative_plainAddress :
    (NativeContracts.ofConfig .standard).isNative plainAddress = false := by decide +kernel

/-- A log of an event from such a contract. -/
def eventLog (name : String) (f : Fragment) (further : List String) (data : String) : RawLog where
  address := plainAddress
  topics := ("0x" ++ Keccak.keccak256Hex (signatureText name f.inputs)) :: further
  data
  blockNumber := none
  blockHash := none
  transactionHash := none
  transactionIndex := none
  logIndex := none

theorem EventDecoder.findEvent_eventLog {f : Fragment} {name : String} (hev : f.isEvent = true)
    (hanon : f.anonymous ≠ some true) (hname : f.name? = some name) {further : List String}
    (hcount : f.indexedCount = further.length) (data : String) :
    ((ofFragments [f]).findEvent (eventLog name f further data).topics).value =
      some ⟨f, name, Keccak.keccak256Hex (signatureText name f.inputs), f.indexedCount⟩ := by
  rw [eventLog, findEvent_eq_find?, events_ofFragments_singleton hev hanon hname,
    plainTopic_of_spells (spells_marked _), List.find?_cons_of_pos]
  exact fits_iff.mpr ⟨rfl, hcount⟩

/-- With an inspector whose only event fits a log, the log is decoded to this event. -/
theorem Inspector.exists_parseLogs_eventLog {f : Fragment} {name : String}
    (hev : f.isEvent = true) (hanon : f.anonymous ≠ some true) (hname : f.name? = some name)
    {further : List String} {data : String} {args : List Value}
    (hcount : f.indexedCount = further.length)
    (hargs : EventDecoder.eventArgs f further data = .ok args) :
    ∃ i : Inspector, i.Reachable ∧ i.network = some .mainnet ∧
      i.eventSource? (eventLog name f further data) = some (.standard f) ∧
      ∃ d, (i.parseLogs [eventLog name f further data]).value = .ok [d] ∧
        d.event.map (·.fragment) = some f ∧
        d.addresses = some (EventAddresses.ofArgs f args) := by
  obtain ⟨i, hi, hnetwork, hnatives⟩ := exists_ofConfig (c := .ofNetwork .mainnet) rfl rfl
    (by decide +kernel)
  have hreachable : (i.withAbi (some [f])).Reachable := .withAbi _ (.ofConfig hi)
  obtain ⟨bridge, hbridge, -⟩ := hreachable.bridge hnetwork
  have hnative : (i.withAbi (some [f])).natives.isNative plainAddress = false := by
    rw [show (i.withAbi (some [f])).natives = _ from hnatives]
    exact isNative_plainAddress
  have hdecoder : (i.withAbi (some [f])).decoderFor (eventLog name f further data) =
      .ok (.standard (.ofFragments [f])) := by
    rw [decoderFor, hbridge, ← events_withAbi]
    exact if_neg (by rw [eventLog, hnative]; decide)
  have hfind := EventDecoder.findEvent_eventLog hev hanon hname hcount data
  refine ⟨i.withAbi (some [f]), hreachable, hnetwork, ?_, ?_⟩
  · rw [eventSource?, hdecoder]
    show ((EventDecoder.ofFragments [f]).findEvent _).value.map _ = _
    rw [hfind]
    rfl
  · let e : DecodedEvent := ⟨name, Keccak.keccak256Hex (signatureText name f.inputs), f, args⟩
    refine ⟨(DecodedLog.decoded (eventLog name f further data) e).withAddresses, ?_, rfl, rfl⟩
    have hdecode : ((EventDecoder.ofFragments [f]).decodeLog (eventLog name f further data)).value =
        .decoded (eventLog name f further data) e := by
      rw [EventDecoder.decodeLog, Noted.value_bind, hfind]
      simp only [eventLog, List.tail_cons, hargs]
      rfl
    rw [parseLogs, decodeLogs, hbridge, decodeEach, hdecoder]
    simp only [Noted.value_bind, Noted.value_pure, LogDecoder.decodeLog, hdecode]
    rfl

/-- An event with one input, which is indexed. -/
def Abi.oneTopic (name type : String) : Fragment := .ofEvent name [.ofEvent "value" type true]

theorem EventDecoder.eventArgs_oneTopic (name type topic data : String) :
    eventArgs (oneTopic name type) [topic] data =
      (topicValue (.ofEvent "value" type true) topic).map fun v => [v] := by
  have hindexed : (Param.ofEvent "value" type true).isIndexed = true := rfl
  have hnone : [Param.ofEvent "value" type true].filter (fun p => !p.isIndexed) = [] := rfl
  rw [eventArgs, oneTopic, Fragment.ofEvent, hnone, dataValues, List.isEmpty_nil, if_pos rfl,
    ok_bind, mergeArgs.eq_def]
  simp only [hindexed, if_true]
  cases topicValue (Param.ofEvent "value" type true) topic <;> rfl

/-- The topic of an owner. -/
def ownerTopic : String := "0x0000000000000000000000002222222222222222222222222222222222222222"

/-- The topic of a list of members. -/
def membersTopic : String := "0x1111111111111111111111111111111111111111111111111111111111111111"

theorem EventDecoder.eventArgs_owner (data : String) :
    eventArgs (oneTopic "Owner" "address") [ownerTopic] data =
      .ok [.address "0x2222222222222222222222222222222222222222"] := by
  have htopic : decodeHex ownerTopic = .ok (List.replicate 12 0 ++ List.replicate 20 0x22) := by
    decide +kernel
  have hhex : Hex.encodePrefixed (List.replicate 20 0x22) =
      "0x2222222222222222222222222222222222222222" := by decide +kernel
  rw [eventArgs_oneTopic, topicValue, htopic, ok_bind, paramType_address rfl, ok_bind,
    if_neg (by decide), ← hhex]
  rfl

theorem EventDecoder.eventArgs_members (data : String) :
    eventArgs (oneTopic "Members" "address[]") [membersTopic] data =
      .ok [.bytes (List.replicate 32 0x11)] := by
  have htopic : decodeHex membersTopic = .ok (List.replicate 32 0x11) := by decide +kernel
  rw [eventArgs_oneTopic, topicValue_addressList rfl, htopic]
  rfl

/-! ## What is reported -/

/-- An inspector with a network parses all logs. A log stays undecoded or is decoded to the event
    that it is taken for, and then the addresses that are reported are those that it carries for
    this event and those that are misread. So all of them are carried exactly if none is misread
    that is not carried as well. -/
theorem parseLogs_addresses_iff {i : Inspector} (hi : i.Reachable) {network : Network}
    (hnetwork : i.network = some network) (logs : List RawLog) :
    ∃ ds, (i.parseLogs logs).value = .ok ds ∧ List.Forall₂ (fun log d =>
      d = .undecoded log ∨ ∃ source found, i.eventSource? log = some source ∧
        d.event.map (·.fragment) = some source.fragment ∧ d.addresses = some found ∧
        (∀ a, a ∈ found ↔ source.Carries log a ∨ source.Misreads log a) ∧
        ((∀ a ∈ found, source.Carries log a) ↔
          ∀ a, source.Misreads log a → source.Carries log a)) logs ds := by
  obtain ⟨ds, hds, hall⟩ := Inspector.parseLogs_eq_ok hi hnetwork logs
  refine ⟨ds, hds, hall.imp fun log d => ?_⟩
  rintro ⟨d', hdecodes, rfl⟩
  rcases hdecodes with rfl | ⟨source, args, name, signature, hsource, hargs, rfl⟩
  · exact Or.inl rfl
  · have hmem (a : String) := EventSource.mem_ofArgs_iff (a := a)
      (fun e he => Inspector.mem_legacyEvents_of_eventSource? hi hnetwork (he ▸ hsource)) hargs
    refine Or.inr ⟨source, _, hsource, rfl, rfl, hmem, ?_⟩
    constructor
    · exact fun h a ha => h a ((hmem a).mpr (Or.inr ha))
    · exact fun h a ha => ((hmem a).mp ha).elim id (h a)

/-- The address in the topic of an owner is reported, and the log carries it. -/
theorem parseLogs_addresses_owner :
    ∃ (i : Inspector) (log : RawLog) (d : DecodedLog) (source : EventSource),
      i.Reachable ∧ i.network = some .mainnet ∧ (i.parseLogs [log]).value = .ok [d] ∧
        d.addresses = some ["0x2222222222222222222222222222222222222222"] ∧
        i.eventSource? log = some source ∧
        source.Carries log "0x2222222222222222222222222222222222222222" := by
  obtain ⟨i, hi, hnetwork, hsource, d, hd, -, haddresses⟩ :=
    Inspector.exists_parseLogs_eventLog (f := oneTopic "Owner" "address") rfl (by decide)
      (by decide : _ = some "Owner") rfl (EventDecoder.eventArgs_owner "0x")
  refine ⟨i, _, d, _, hi, hnetwork, hd, haddresses, hsource, ?_⟩
  obtain ⟨ds, hds, hall⟩ := parseLogs_addresses_iff hi hnetwork
    [eventLog "Owner" (oneTopic "Owner" "address") [ownerTopic] "0x"]
  obtain rfl := Except.ok.inj (hd.symm.trans hds)
  rcases (List.forall₂_cons.mp hall).1 with rfl | ⟨source, found, hsource', -, hfound, hmem, -⟩
  · cases haddresses
  obtain rfl := Option.some.inj (hsource.symm.trans hsource')
  obtain rfl := Option.some.inj (haddresses.symm.trans hfound)
  rcases (hmem _).mp (List.mem_singleton_self _) with hcarries | hmisreads
  · exact hcarries
  · exact absurd hmisreads.exists_input (by decide)

/-- The first bytes of the topic of a list are reported, although the log carries no address. -/
theorem parseLogs_addresses_members :
    ∃ (i : Inspector) (log : RawLog) (d : DecodedLog),
      i.Reachable ∧ i.network = some .mainnet ∧ (i.parseLogs [log]).value = .ok [d] ∧
        d.event.map (·.fragment) = some (oneTopic "Members" "address[]") ∧
        log.topics.tail = ["0x1111111111111111111111111111111111111111111111111111111111111111"] ∧
        d.addresses = some ["0x1111111111111111111111111111111111111111"] ∧
        i.eventSource? log = some (.standard (oneTopic "Members" "address[]")) ∧
        ∀ a, ¬ (EventSource.standard (oneTopic "Members" "address[]")).Carries log a := by
  obtain ⟨i, hi, hnetwork, hsource, d, hd, hfragment, haddresses⟩ :=
    Inspector.exists_parseLogs_eventLog (f := oneTopic "Members" "address[]") rfl (by decide)
      (by decide : _ = some "Members") rfl (EventDecoder.eventArgs_members "0x")
  refine ⟨i, _, d, hi, hnetwork, hd, hfragment, rfl, ?_, hsource, ?_⟩
  · rw [haddresses]
    decide +kernel
  · exact fun a hcarries => absurd hcarries.exists_input (by decide)

end ContractLens
