import ContractLens.Proofs.Bridge.Events

/-!
# Logs and the active release

A log is decoded by the events of the release that is active at its height, and by the legacy events
if none of these fits. A log of an event that the active release lacks stays undecoded.

* `Decoder.eventSource?_cases`: the event that a log is taken for.
* `Decoder.decodeLog_of_active`: what a log is decoded to.
-/

namespace ContractLens.Bridge

open Abi

/-! ## Logs -/

section Logs

variable {network : Network} {table : List Release} {r : Release} {t : SignatureTable} {d : Decoder}
  {log : RawLog}

/-- What the logs at the height of a release are taken for: an event of the release that fits, or a
    legacy event if there is none. -/
theorem Decoder.eventSource?_cases (htable : Release.tableOf network = .ok table) (hr : r ∈ table)
    (ht : t.Faithful) (hlegacy : d.legacy = legacyEvents network)
    (hrelease : d.releaseFor log.blockNumber = .ok (r, .ofTable r.abi t)) :
    (∃ f ∈ r.abi, f.isEvent = true ∧ f.Fits log.topics ∧
      d.eventSource? log = some (.standard f)) ∨
    (∀ f ∈ r.abi, f.isEvent = true → ¬ f.Fits log.topics) ∧
      d.eventSource? log = legacySource? (legacyEvents network) log := by
  rw [eventSource?, hrelease]
  simp only [EventDecoder.eventSource?, hlegacy]
  cases hfind : ((EventDecoder.ofTable r.abi t).findEvent log.topics).value with
  | some k =>
    obtain ⟨hmem, hevent, hfits⟩ := fits_of_findEvent htable hr ht hfind
    exact Or.inl ⟨k.fragment, hmem, hevent, hfits, rfl⟩
  | none => exact Or.inr ⟨not_fits_of_findEvent htable hr ht hfind, rfl⟩

/-- Without the event of a log in its release, the log stays undecoded. -/
theorem Decoder.decodeLog_of_foreign (htable : Release.tableOf network = .ok table) (hr : r ∈ table)
    (ht : t.Faithful) (hlegacy : d.legacy = legacyEvents network)
    (hrelease : d.releaseFor log.blockNumber = .ok (r, .ofTable r.abi t)) {f : Fragment}
    (hf : f ∈ events) (hfr : f ∉ r.abi) (hfits : f.Fits log.topics) :
    (d.decodeLog log).value = .undecoded log := by
  have hdecodes := d.decodeLog_decodesBy log
  rcases eventSource?_cases htable hr ht hlegacy hrelease with
    ⟨g, hg, hevent, hgfits, -⟩ | ⟨-, hsource⟩
  · -- the topics spell the hash of both events, so that they are the same
    obtain ⟨topic, further, hash, htopics, hhash, hspells, -⟩ := hfits
    obtain ⟨topic', further', hash', htopics', hhash', hspells', -⟩ := hgfits
    obtain ⟨rfl, -⟩ := List.cons.inj (htopics.symm.trans htopics')
    obtain ⟨name, -, rfl⟩ := hash_ofFragment_eq_some_iff.mp hhash
    obtain ⟨name', -, rfl⟩ := hash_ofFragment_eq_some_iff.mp hhash'
    rw [EventDecoder.spells_iff] at hspells hspells'
    rw [← hspells, hspells'] at hhash
    have hsame : f = g :=
      hash_inj_of_mem_events hf (mem_events_of_mem_abi htable hr hg hevent) hhash hhash'
    exact absurd (hsame ▸ hg) hfr
  · rw [hsource, legacySource?_of_fits network hf hfits] at hdecodes
    exact hdecodes.eq_undecoded

end Logs

/-- A log is decoded to an event of the release that is active at its height, whose hash its first
    topic spells and which has as many indexed inputs as there are further topics, or else to a
    legacy event, but only if no event of that release fits. The logs of an event that is only in
    other releases stay undecoded, and no log is decoded to such an event, unless it is a legacy
    event as well. -/
theorem Decoder.decodeLog_of_active {network : Network} (hnetwork : network ≠ .regtest) :
    ∃ table d, Release.tableOf network = .ok table ∧ (Decoder.ofNetwork network).value = .ok d ∧
      ∀ log, ∃ r ∈ table, (∀ s, s.IsActive network log.blockNumber ↔ s = r) ∧
        (∀ e, (d.decodeLog log).value.event = some e →
          (e.fragment ∈ r.abi ∧ e.fragment.isEvent = true ∧ e.fragment.Fits log.topics) ∨
          ((∃ legacy ∈ legacyEvents network, e.fragment = legacy.fragment) ∧
            ∀ f ∈ r.abi, f.isEvent = true → ¬ f.Fits log.topics)) ∧
        ∀ s ∈ table, ∀ f ∈ s.abi, f.isEvent = true → f ∉ r.abi →
          (f.Fits log.topics → (d.decodeLog log).value = .undecoded log) ∧
          ((∀ legacy ∈ legacyEvents network, f ≠ legacy.fragment) →
            ∀ e, (d.decodeLog log).value.event = some e → e.fragment ≠ f) := by
  obtain ⟨table, htable⟩ : ∃ table, Release.tableOf network = .ok table := by
    cases network with
    | regtest => exact absurd rfl hnetwork
    | mainnet | testnet => exact ⟨_, rfl⟩
  obtain ⟨d, hd⟩ : ∃ d, (Decoder.ofNetwork network).value = .ok d := by
    rw [Decoder.ofNetwork, htable]
    exact ⟨_, rfl⟩
  refine ⟨table, d, htable, hd, fun log => ?_⟩
  have hlegacy := legacy_ofNetwork hd
  obtain ⟨r, t, hactive, ht, hrelease⟩ := releaseFor_isActive hd log.blockNumber
  have hr : r ∈ table := hactive.mem htable
  have hreported : ∀ e, (d.decodeLog log).value.event = some e →
      (e.fragment ∈ r.abi ∧ e.fragment.isEvent = true ∧ e.fragment.Fits log.topics) ∨
      ((∃ legacy ∈ legacyEvents network, e.fragment = legacy.fragment) ∧
        ∀ f ∈ r.abi, f.isEvent = true → ¬ f.Fits log.topics) := by
    intro e he
    obtain ⟨source, hsource, hfragment⟩ := (d.decodeLog_decodesBy log).exists_source he
    rcases eventSource?_cases htable hr ht hlegacy hrelease with
      ⟨f, hf, hevent, hfits, hstandard⟩ | ⟨hnone, hlegacySource⟩
    · obtain rfl := Option.some.inj (hstandard.symm.trans hsource)
      rw [hfragment]
      exact Or.inl ⟨hf, hevent, hfits⟩
    · rw [hlegacySource] at hsource
      obtain ⟨legacy, hmem, rfl⟩ := exists_of_legacySource? hsource
      exact Or.inr ⟨⟨legacy, hmem, hfragment⟩, hnone⟩
  refine ⟨r, hr, fun s => ⟨fun hs => hs.unique hactive, fun hs => hs ▸ hactive⟩, hreported, ?_⟩
  intro s hs f hf hevent hfr
  refine ⟨fun hfits => ?_, fun hother e he hsame => ?_⟩
  · exact decodeLog_of_foreign htable hr ht hlegacy hrelease
      (mem_events_of_mem_abi htable hs hf hevent) hfr hfits
  · rcases hreported e he with ⟨hmem, -, -⟩ | ⟨⟨legacy, hlegacy, hfragment⟩, -⟩
    · exact hfr (hsame ▸ hmem)
    · exact hother legacy hlegacy (hsame.symm.trans hfragment)

/-- The event that came with `lovell`. -/
def pegoutTransactionCreated : Fragment :=
  event "pegout_transaction_created" [indexed "btcTxHash" "bytes32",
    plain "utxoOutpointValues" "bytes"]

theorem fits_pegoutTransactionCreated (txHash : String) :
    pegoutTransactionCreated.Fits
      ["0x" ++ Keccak.keccak256Hex "pegout_transaction_created(bytes32,bytes)", txHash] := by
  have hname : pegoutTransactionCreated.name? = some "pegout_transaction_created" := by decide
  exact ⟨_, [txHash], _, rfl, hash_ofFragment_eq_some_iff.mpr ⟨_, hname, rfl⟩,
    EventDecoder.spells_marked _, rfl⟩

/-- On the test network a log of that event stays undecoded at a height of `fingerroot`. -/
theorem Decoder.decodeLog_pegoutTransactionCreated :
    ∃ d, (Decoder.ofNetwork .testnet).value = .ok d ∧ ∀ (log : RawLog) (txHash : String),
      log.blockNumber = some 5650461 →
      log.topics =
        ["0x" ++ Keccak.keccak256Hex "pegout_transaction_created(bytes32,bytes)", txHash] →
      (d.decodeLog log).value = .undecoded log := by
  have hnetwork : Network.testnet ≠ .regtest := by decide
  obtain ⟨table, d, htable, hd, hlogs⟩ := decodeLog_of_active hnetwork
  cases htable
  refine ⟨d, hd, fun log txHash hheight htopics => ?_⟩
  obtain ⟨r, -, hactive, -, hforeign⟩ := hlogs log
  have hfingerroot : (⟨"fingerroot", 4015800, fingerroot⟩ : Release) = r := by
    refine (hactive _).mp ⟨Release.testnet, rfl, by simp [Release.testnet], ?_, ?_⟩
    · rw [hheight]
      rintro _ ⟨⟩
      decide
    · have hbelow : ∀ s ∈ Release.testnet, s.height ≤ 5650461 → s.height ≤ 4015800 := by decide
      rw [hheight]
      exact fun s hs hreached => hbelow s hs (hreached _ rfl)
  have hmissing : pegoutTransactionCreated ∉ r.abi := by
    rw [← hfingerroot]
    decide +kernel
  have hlater : pegoutTransactionCreated ∈ lovell := by decide +kernel
  have hfits : pegoutTransactionCreated.Fits log.topics := by
    rw [htopics]
    exact fits_pegoutTransactionCreated txHash
  exact (hforeign ⟨"lovell", 6110487, lovell⟩ (by simp [Release.testnet]) _ hlater rfl hmissing).1
    hfits

end ContractLens.Bridge
