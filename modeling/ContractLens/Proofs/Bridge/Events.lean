import ContractLens.Proofs.Bridge.Releases
import ContractLens.Proofs.Hash.Keccak
import ContractLens.Proofs.Text.HexReading

/-!
# The events of the bridge's releases

The interfaces of all releases have sixteen events between them. The hashes of their signatures are
all different, and so are their layouts, so a release's decoder has all events of its interface.
Taken for a name, none of the hashes is that of a legacy event.

* `Abi.Fragment.Fits`: an event has the hash that the first topic spells, and as many indexed inputs
  as there are further topics.
* `map_hashByte_events`: the hashes differ in their first bytes.
* `fits_of_findEvent`, `not_fits_of_findEvent`: what a release's decoder finds, and when it finds
  nothing.
* `legacySource?_of_fits`: no log of such an event is taken for a legacy event.
-/

namespace ContractLens

open Abi

/-! ## Fitting events -/

/-- A topic spells a hash exactly if it is the hash in lower case and without `0x`. -/
theorem EventDecoder.spells_iff {topic text : String} :
    Spells topic (Keccak.keccak256Hex text) ↔
      RawLog.plainTopic topic = Keccak.keccak256Hex text := by
  constructor
  · exact plainTopic_of_spells
  · intro h
    refine ⟨Hex.stripMarker topic, ?_, LetterCase.lower_eq_hex_iff.mp h⟩
    unfold Hex.stripMarker
    split
    next rest htopic =>
      right
      apply String.toList_injective
      rw [htopic, String.toList_append, show (String.ofList rest).toList = rest from
        String.toList_ofList]
      rfl
    · exact Or.inl rfl

/-- An event fits topics if the first one spells the hash of its signature and there is one more for
    each of its indexed inputs. -/
def Abi.Fragment.Fits (f : Fragment) (topics : List String) : Prop :=
  ∃ topic further hash, topics = topic :: further ∧ (Signature.ofFragment f).hash = some hash ∧
    EventDecoder.Spells topic hash ∧ f.indexedCount = further.length

/-- The known event that a named event is. -/
def Abi.Fragment.known (f : Fragment) (name : String) : KnownEvent :=
  ⟨f, name, Keccak.keccak256Hex (signatureText name f.inputs), f.indexedCount⟩

theorem Abi.Fragment.fits_cons_iff {f : Fragment} {name : String} (hname : f.name? = some name)
    {topic : String} {further : List String} :
    f.Fits (topic :: further) ↔
      EventDecoder.fits (RawLog.plainTopic topic) further.length (f.known name) = true := by
  have hhash := hash_ofFragment_eq_some_iff.mpr ⟨name, hname, rfl⟩
  rw [EventDecoder.fits_iff, Fragment.known, eq_comm, ← EventDecoder.spells_iff]
  constructor
  · rintro ⟨_, _, hash, ⟨rfl, rfl⟩, hhash', hspells, hcount⟩
    obtain rfl := Option.some.inj (hhash.symm.trans hhash')
    exact ⟨hspells, hcount⟩
  · rintro ⟨hspells, hcount⟩
    exact ⟨topic, further, _, rfl, hhash, hspells, hcount⟩

namespace Bridge

/-! ## The events of all releases -/

/-- The events of the bridge in any release: those of `reed`, and the one of `hop` that was changed
    later. -/
def events : List Fragment :=
  reed.filter (·.isEvent) ++ hop.filter fun f => f.isEvent && !reed.contains f

theorem mem_events_of_mem_abi {network : Network} {table : List Release}
    (htable : Release.tableOf network = .ok table) {r : Release} (hr : r ∈ table) {f : Fragment}
    (hf : f ∈ r.abi) (hevent : f.isEvent = true) : f ∈ events := by
  have hall : ∀ r ∈ Release.mainnet ++ Release.testnet, ∀ f ∈ r.abi, f.isEvent = true →
      f ∈ events := by
    decide +kernel
  cases network with
  | regtest => cases htable
  | mainnet =>
    cases htable
    exact hall r (List.mem_append_left _ hr) f hf hevent
  | testnet =>
    cases htable
    exact hall r (List.mem_append_right _ hr) f hf hevent

theorem isEvent_of_mem_events {f : Fragment} (hf : f ∈ events) : f.isEvent = true := by
  rcases List.mem_append.mp hf with h | h
  · exact (List.mem_filter.mp h).2
  · exact (Bool.and_eq_true_iff.mp (List.mem_filter.mp h).2).1

/-! ## Their hashes -/

/-- The canonical signatures of the bridge's events in order, with the flags of their inputs. -/
def layouts : List (String × List Bool) := [
  ("lock_btc(address,bytes32,string,int256)", [true, true, false, false]),
  ("update_collections(address)", [false]),
  ("release_requested(bytes32,bytes32,uint256)", [true, true, false]),
  ("add_signature(bytes32,address,bytes)", [true, true, false]),
  ("release_btc(bytes32,bytes)", [true, false]),
  ("commit_federation(bytes,string,bytes,string,uint256)", [false, false, false, false, false]),
  ("pegin_btc(address,bytes32,int256,int256)", [true, true, false, false]),
  ("rejected_pegin(bytes32,int256)", [true, false]),
  ("unrefundable_pegin(bytes32,int256)", [true, false]),
  ("release_request_received(address,string,uint256)", [true, false, false]),
  ("release_request_rejected(address,uint256,int256)", [true, false, false]),
  ("batch_pegout_created(bytes32,bytes)", [true, false]),
  ("pegout_confirmed(bytes32,uint256)", [true, false]),
  ("pegout_transaction_created(bytes32,bytes)", [true, false]),
  ("commit_federation_failed(bytes,uint256)", [false, false]),
  ("release_request_received(address,bytes,uint256)", [true, false, false])]

theorem map_layout_events :
    events.map (fun f => (f.canonicalSignature?, f.inputs.map Param.isIndexed)) =
      layouts.map fun l => (some l.1, l.2) := by
  decide +kernel

theorem named_of_mem_events {f : Fragment} (hf : f ∈ events) :
    f.anonymous ≠ some true ∧ f.name?.isSome = true := by
  have hopen : ∀ g ∈ reed ++ hop, g.anonymous ≠ some true := by decide +kernel
  constructor
  · rcases List.mem_append.mp hf with h | h
    · exact hopen f (List.mem_append_left _ (List.mem_filter.mp h).1)
    · exact hopen f (List.mem_append_right _ (List.mem_filter.mp h).1)
  · have hlayout := List.mem_map_of_mem hf
      (f := fun f => (f.canonicalSignature?, f.inputs.map Param.isIndexed))
    rw [map_layout_events] at hlayout
    obtain ⟨l, -, hl⟩ := List.mem_map.mp hlayout
    have hsignature : f.canonicalSignature?.isSome = true := by rw [← (Prod.mk.inj hl).1]; rfl
    rwa [Fragment.canonicalSignature?, Option.isSome_map] at hsignature

/-- The first byte of the hash of a fragment's signature. -/
def hashByte (f : Fragment) : Option UInt8 := f.canonicalSignature?.bind Keccak.firstByte

/-- The first bytes of the hashes of the bridge's events in order. -/
def hashBytes : List UInt8 :=
  [236, 16, 122, 131, 101, 125, 68, 112, 53, 26, 182, 72, 194, 158, 143, 142]

/-- The hashes of the bridge's events differ in their first bytes. -/
theorem map_hashByte_events : events.map hashByte = hashBytes.map some := by
  have hlayouts : layouts.map (fun l => Keccak.firstByte l.1) = hashBytes.map some := by
    decide +kernel
  calc events.map hashByte
      = (events.map fun f => (f.canonicalSignature?, f.inputs.map Param.isIndexed)).map
          fun l => l.1.bind Keccak.firstByte := by
        rw [List.map_map]
        rfl
    _ = (layouts.map fun l => (some l.1, l.2)).map fun l => l.1.bind Keccak.firstByte := by
        rw [map_layout_events]
    _ = layouts.map fun l => Keccak.firstByte l.1 := List.map_map ..
    _ = hashBytes.map some := hlayouts

theorem hash_inj_of_mem_events {f g : Fragment} (hf : f ∈ events) (hg : g ∈ events)
    {hash : String} (hfh : (Signature.ofFragment f).hash = some hash)
    (hgh : (Signature.ofFragment g).hash = some hash) : f = g := by
  obtain ⟨name, hname, hhash⟩ := hash_ofFragment_eq_some_iff.mp hfh
  obtain ⟨name', hname', hhash'⟩ := hash_ofFragment_eq_some_iff.mp hgh
  have hnodup : (events.map hashByte).Nodup := by
    rw [map_hashByte_events]
    decide
  refine List.inj_on_of_nodup_map hnodup hf hg ?_
  rw [hashByte, hashByte, canonicalSignature?_of_name hname, canonicalSignature?_of_name hname']
  exact Keccak.firstByte_congr (hhash.trans hhash'.symm)

/-- The bridge's events have different layout hashes. -/
theorem nodup_layoutHash_events :
    (events.map fun f => (Signature.ofFragment f).layoutHash).Nodup := by
  have hbytes : ((layouts.map fun l => layoutText l.1 l.2).map Keccak.firstByte).Nodup := by
    decide +kernel
  have hhashes : events.map (fun f => (Signature.ofFragment f).layoutHash) =
      ((layouts.map fun l => layoutText l.1 l.2).map Keccak.keccak256Hex).map some := by
    calc events.map (fun f => (Signature.ofFragment f).layoutHash)
        = events.map fun f => f.canonicalSignature?.map
            (Signature.layoutHashOf · (f.inputs.map Param.isIndexed)) := by
          refine List.map_congr_left fun f hf => ?_
          rw [Signature.ofFragment, isEvent_of_mem_events hf, if_pos rfl, if_pos rfl]
      _ = (events.map fun f => (f.canonicalSignature?, f.inputs.map Param.isIndexed)).map
            fun l => l.1.map (Signature.layoutHashOf · l.2) := by
          rw [List.map_map]
          rfl
      _ = (layouts.map fun l => (some l.1, l.2)).map
            fun l => l.1.map (Signature.layoutHashOf · l.2) := by
          rw [map_layout_events]
      _ = ((layouts.map fun l => layoutText l.1 l.2).map Keccak.keccak256Hex).map some := by
          rw [List.map_map, List.map_map, List.map_map]
          rfl
  rw [hhashes]
  exact (Keccak.nodup_keccak256Hex hbytes).map (Option.some_injective _)

/-! ## The decoder of a release -/

section Release

variable {network : Network} {table : List Release} {r : Release} {t : SignatureTable}

/-- The layouts in an interface are all different, so that each event is the first of its layout. -/
theorem mem_dedupeEvents_of_mem_abi (htable : Release.tableOf network = .ok table) (hr : r ∈ table)
    (ht : t.Faithful) {f : Fragment} (hf : f ∈ r.abi) (hevent : f.isEvent = true) :
    f ∈ dedupeEvents r.abi t := by
  rw [mem_dedupeEvents_iff_of_event hevent]
  cases hfirst : (r.abi.filter (·.isEvent)).find? (layoutOf t · == layoutOf t f) with
  | none =>
    have hmem : f ∈ r.abi.filter (·.isEvent) := List.mem_filter.mpr ⟨hf, hevent⟩
    exact absurd (beq_self_eq_true _) (List.find?_eq_none.mp hfirst f hmem)
  | some g =>
    obtain ⟨hg, hgevent⟩ := List.mem_filter.mp (List.mem_of_find?_eq_some hfirst)
    have hlayout := List.find?_some hfirst
    rw [beq_iff_eq, layoutOf, layoutOf, ht.signature_eq, ht.signature_eq] at hlayout
    exact congrArg some (List.inj_on_of_nodup_map nodup_layoutHash_events
      (mem_events_of_mem_abi htable hr hg hgevent) (mem_events_of_mem_abi htable hr hf hevent)
      hlayout)

/-- The decoder of a release has all events of its interface. -/
theorem mem_events_ofTable_iff (htable : Release.tableOf network = .ok table) (hr : r ∈ table)
    (ht : t.Faithful) {k : KnownEvent} :
    k ∈ (EventDecoder.ofTable r.abi t).events ↔
      ∃ f ∈ r.abi, f.isEvent = true ∧ ∃ name, f.name? = some name ∧ k = f.known name := by
  simp only [EventDecoder.ofTable, List.mem_filterMap, EventDecoder.knownEvent?_eq_some_iff ht]
  constructor
  · rintro ⟨f, hf, hevent, -, hknown⟩
    exact ⟨f, mem_of_mem_dedupeEvents hf, hevent, hknown⟩
  · rintro ⟨f, hf, hevent, hknown⟩
    have hopen := (named_of_mem_events (mem_events_of_mem_abi htable hr hf hevent)).1
    exact ⟨f, mem_dedupeEvents_of_mem_abi htable hr ht hf hevent, hevent, hopen, hknown⟩

/-- What is found for topics is an event of the interface that fits them. -/
theorem fits_of_findEvent (htable : Release.tableOf network = .ok table) (hr : r ∈ table)
    (ht : t.Faithful) {topics : List String} {k : KnownEvent}
    (h : ((EventDecoder.ofTable r.abi t).findEvent topics).value = some k) :
    k.fragment ∈ r.abi ∧ k.fragment.isEvent = true ∧ k.fragment.Fits topics := by
  cases topics with
  | nil => cases h
  | cons topic further =>
    rw [EventDecoder.findEvent_eq_find?] at h
    obtain ⟨f, hf, hevent, name, hname, rfl⟩ :=
      (mem_events_ofTable_iff htable hr ht).mp (List.mem_of_find?_eq_some h)
    have hfits : f.Fits (topic :: further) :=
      (Fragment.fits_cons_iff hname).mpr (List.find?_some h)
    exact ⟨hf, hevent, hfits⟩

/-- If nothing is found, no event of the interface fits. -/
theorem not_fits_of_findEvent (htable : Release.tableOf network = .ok table) (hr : r ∈ table)
    (ht : t.Faithful) {topics : List String}
    (h : ((EventDecoder.ofTable r.abi t).findEvent topics).value = none) :
    ∀ f ∈ r.abi, f.isEvent = true → ¬ f.Fits topics := by
  intro f hf hevent hfits
  cases topics with
  | nil =>
    obtain ⟨_, _, _, htopics, -⟩ := hfits
    cases htopics
  | cons topic further =>
    have hnamed := (named_of_mem_events (mem_events_of_mem_abi htable hr hf hevent)).2
    obtain ⟨name, hname⟩ := Option.isSome_iff_exists.mp hnamed
    have hknown : f.known name ∈ (EventDecoder.ofTable r.abi t).events :=
      (mem_events_ofTable_iff htable hr ht).mpr ⟨f, hf, hevent, name, hname, rfl⟩
    rw [EventDecoder.findEvent_eq_find?, List.find?_eq_none] at h
    exact h _ hknown ((Fragment.fits_cons_iff hname).mp hfits)

end Release

/-! ## Hashes and legacy names -/

theorem decodeHex_of_spells {topic : String} {bytes : List UInt8}
    (h : EventDecoder.Spells topic (Hex.encode bytes)) : decodeHex topic = .ok bytes := by
  obtain ⟨digits, rfl | rfl, hdigits⟩ := h
  · exact (decodeHex_of_asciiLower_hex hdigits).1
  · exact (decodeHex_of_asciiLower_hex hdigits).2

/-- Without its high bit the first byte of a topic, unless it is zero, starts the name. -/
theorem head?_eventName {topic name : String} {b : UInt8} {bytes : List UInt8}
    (htopic : decodeHex topic = .ok (b :: bytes)) (hb : b &&& 0x7f ≠ 0)
    (h : eventName topic = .ok name) : name.toList.head? = some (Hex.byteChar (b &&& 0x7f)) := by
  rw [eventName, htopic, ok_bind] at h
  obtain rfl := Except.ok.inj h
  have hkept : (b &&& 0x7f != 0) = true := bne_iff_ne.mpr hb
  rw [String.toList_ofList, List.map_cons, List.filter_cons, if_pos hkept, List.map_cons,
    List.head?_cons]

example : eventName ("0x7570646174655f636f6c6c656374696f6e73" ++ "0000000000000000000000000000") =
    .ok "update_collections" := by
  decide +kernel

/-- The names of the legacy events start with other characters than the hashes of the events. -/
theorem byteChar_ne_head?_legacyName (network : Network) : ∀ b ∈ hashBytes,
    b &&& 0x7f ≠ 0 ∧ ∀ e ∈ legacyEvents network,
      e.name.toList.head? ≠ some (Hex.byteChar (b &&& 0x7f)) := by
  cases network <;> decide +kernel

/-- No log of an event of the bridge is taken for a legacy event. -/
theorem legacySource?_of_fits (network : Network) {f : Fragment} (hf : f ∈ events) {log : RawLog}
    (hfits : f.Fits log.topics) : legacySource? (legacyEvents network) log = none := by
  obtain ⟨topic, further, hash, htopics, hhash, hspells, -⟩ := hfits
  obtain ⟨name, hname, rfl⟩ := hash_ofFragment_eq_some_iff.mp hhash
  have hbytes := decodeHex_of_spells hspells
  have hmem : hashByte f ∈ events.map hashByte := List.mem_map_of_mem hf
  rw [map_hashByte_events, hashByte, canonicalSignature?_of_name hname, Option.bind_some,
    Keccak.firstByte_eq] at hmem
  obtain ⟨b, hb, hhead⟩ := List.mem_map.mp hmem
  obtain ⟨rest, hrest⟩ := List.head?_eq_some_iff.mp hhead.symm
  rw [hrest] at hbytes
  obtain ⟨hzero, hnames⟩ := byteChar_ne_head?_legacyName network b hb
  cases hlegacyName : eventName topic with
  | error error => simp [legacySource?, htopics, hlegacyName, Except.toOption]
  | ok legacyName =>
    have hnone : findLegacyEvent (legacyEvents network) legacyName = none := by
      refine List.find?_eq_none.mpr fun e he hnamed => ?_
      rw [beq_iff_eq] at hnamed
      refine hnames e he ?_
      rw [hnamed]
      exact head?_eventName hbytes hzero hlegacyName
    simp [legacySource?, htopics, hlegacyName, Except.toOption, hnone]

end Bridge

end ContractLens
