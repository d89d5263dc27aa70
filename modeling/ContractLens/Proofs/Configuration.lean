import ContractLens.Proofs.Bridge.Fallback
import ContractLens.Proofs.Details
import ContractLens.Proofs.FirstOccurrences
import ContractLens.Proofs.InterfaceChanges

/-!
# Accepted configurations

An inspector is made exactly from the configurations with no network or one that has a table of
releases, and with addresses for the built-in contracts. What would fail otherwise never does with an
inspector that was made: the functions of a built-in contract are known without a node, and every
height has a release.

* `Config.IsUsable`: the configurations that are accepted.
* `NativeContracts.validate_eq_ok_iff`, `NativeContracts.validate_of_isFirst`: the check of addresses.
* `Inspector.exists_ofConfig_iff`, `Inspector.ofConfig_eq_unsupported`,
  `Inspector.ofConfig_eq_invalid`: which configurations are accepted, and the errors of the others.
* `Inspector.MadeFrom.runs_details`, `Inspector.MadeFrom.finds_release`: what an inspector never
  fails at.
-/

namespace ContractLens

open Abi

/-! ## Usable configurations -/

/-- A configuration without a network, or with one that has a table of releases. -/
def Config.HasUsableNetwork (c : Config) : Prop :=
  c.networkId = none ∨ c.networkId = some 30 ∨ c.networkId = some 31

/-- A configuration with a usable network and addresses for the built-in contracts; letter case does
    not matter in them. -/
structure Config.IsUsable (c : Config) : Prop where
  network : c.HasUsableNetwork
  bridge : IsAddress (LetterCase.lower c.natives.bridge)
  remasc : IsAddress (LetterCase.lower c.natives.remasc)

/-! ## Addresses -/

namespace NativeContracts

variable {n : NativeContracts}

/-- The first address that is none is the error. -/
theorem validate_of_isFirst {a : String} (h : IsFirst (fun b => ¬ IsAddress b) n.addresses a) :
    n.validate = .error (.invalidAddress a) := by
  have hfind : n.addresses.find? (fun b => !isHexAddress b) = some a := by
    refine find?_eq_some_iff_isFirst.mpr (h.congr fun b => ?_)
    rw [Bool.not_eq_true', ← Bool.not_eq_true, isHexAddress_iff]
  rw [validate, hfind]

theorem validate_eq_ok_iff : n.validate = .ok () ↔ IsAddress n.bridge ∧ IsAddress n.remasc := by
  refine ⟨isAddress_of_validate, fun ⟨hbridge, hremasc⟩ => ?_⟩
  have hnone : n.addresses.find? (fun b => !isHexAddress b) = none := by
    rw [List.find?_eq_none]
    intro a ha
    rw [Bool.not_eq_true', Bool.not_eq_false, isHexAddress_iff]
    simp only [addresses, List.mem_cons, List.not_mem_nil, or_false] at ha
    rcases ha with rfl | rfl
    · exact hbridge
    · exact hremasc
  rw [validate, hnone]

end NativeContracts

namespace Inspector

variable {c : Config} {i : Inspector} {fragments : List Fragment}

/-! ## New inspectors -/

/-- A network that is usable has a decoder. -/
theorem exists_bridge_of_usable (h : c.HasUsableNetwork) :
    ∃ network bridge, c.network = .ok network ∧ (bridgeDecoder network).value = .ok bridge := by
  rw [Config.network]
  rcases h with hid | hid | hid
  · rw [hid]
    exact ⟨none, none, rfl, rfl⟩
  · rw [hid]
    exact ⟨some .mainnet, _, rfl, rfl⟩
  · rw [hid]
    exact ⟨some .testnet, _, rfl, rfl⟩

/-- The number of a network without a table of releases is an error, whatever the addresses are. -/
theorem ofConfig_eq_unsupported {id : UInt64} (hid : c.networkId = some id) (h30 : id ≠ 30)
    (h31 : id ≠ 31) :
    (ofConfig c).value = .error
      (.unsupportedNetwork (if id = 33 then Network.regtest.name else Natural.decimal id)) := by
  by_cases h33 : id = 33
  · have hnetwork : c.network = .ok (some .regtest) := by
      rw [Config.network, hid, h33]
      rfl
    rw [ofConfig, hnetwork, if_pos h33]
    rfl
  · have hnetwork : c.network = .error (.unsupportedNetwork (Natural.decimal id)) := by
      rw [Config.network, hid]
      simp only [Network.ofId?, if_neg h30, if_neg h31, if_neg h33]
    rw [ofConfig, hnetwork, if_neg h33]
    rfl

/-- With a usable network the first address that is none is the error. -/
theorem ofConfig_eq_invalid (h : c.HasUsableNetwork) {a : String}
    (ha : IsFirst (fun b => ¬ IsAddress b) (NativeContracts.ofConfig c.natives).addresses a) :
    (ofConfig c).value = .error (.invalidAddress a) := by
  obtain ⟨network, bridge, hnetwork, hbridge⟩ := exists_bridge_of_usable h
  unfold ofConfig
  simp only [hnetwork, Noted.value_bind, hbridge, NativeContracts.validate_of_isFirst ha,
    Noted.value_pure]

/-- The configurations that are accepted. -/
theorem exists_ofConfig_iff : (∃ i, (ofConfig c).value = .ok i) ↔ c.IsUsable := by
  constructor
  · rintro ⟨i, hi⟩
    obtain ⟨network, bridge, -, -, hvalid, -⟩ := exists_of_ofConfig hi
    obtain ⟨hbridge, hremasc⟩ := NativeContracts.validate_eq_ok_iff.mp hvalid
    refine ⟨?_, hbridge, hremasc⟩
    cases hid : c.networkId with
    | none => exact Or.inl hid
    | some id =>
      by_cases h30 : id = 30
      · exact Or.inr (Or.inl (h30 ▸ hid))
      by_cases h31 : id = 31
      · exact Or.inr (Or.inr (h31 ▸ hid))
      rw [ofConfig_eq_unsupported hid h30 h31] at hi
      cases hi
  · rintro ⟨hnetwork, hbridge, hremasc⟩
    obtain ⟨network, bridge, hnetwork, hdecoder⟩ := exists_bridge_of_usable hnetwork
    exact ⟨_, ofConfig_eq_ok hnetwork hdecoder
      (NativeContracts.validate_eq_ok_iff.mpr ⟨hbridge, hremasc⟩)⟩

/-! ## Inspectors that were made -/

/-- The network of an inspector, the main network if there is none, has a table of releases. -/
theorem MadeFrom.exists_table (h : MadeFrom c i fragments) :
    ∃ table, Bridge.Release.tableOf (i.network.getD .mainnet) = .ok table := by
  obtain ⟨-, hbridge, -, -⟩ := h.configured
  cases hnetwork : i.network with
  | none => exact ⟨_, rfl⟩
  | some network =>
    rw [hnetwork] at hbridge
    obtain ⟨d, hd, -⟩ := map_eq_ok_iff.mp hbridge
    obtain ⟨table, _, _, htable, -⟩ := Bridge.releaseFor_eq hd none
    exact ⟨table, htable⟩

/-- The details of a built-in contract are there without a call, however its address is spelled. -/
theorem MadeFrom.runs_details (h : MadeFrom c i fragments) {address : String}
    (hnative : c.natives.Names address) (node : Node) (block : BlockTag) :
    ∃ methods, i.natives.methods address (i.network.getD .mainnet) = .ok methods ∧
      (i.details address block).Runs node [] (.ok (.plain address methods [])) := by
  obtain ⟨table, htable⟩ := h.exists_table
  obtain ⟨r, hresolve, -⟩ := Bridge.Release.resolve_isActive htable none
  obtain ⟨methods, hmethods⟩ :
      ∃ methods, i.natives.methods address (i.network.getD .mainnet) = .ok methods := by
    rw [NativeContracts.methods]
    split
    · refine ⟨r.methods, ?_⟩
      rw [Bridge.Release.latestMethods]
      show (Bridge.Release.resolve (.ofOption none) _ >>= _) = _
      rw [hresolve]
      rfl
    · exact ⟨[], rfl⟩
  refine ⟨methods, hmethods, ?_⟩
  rw [details, if_pos (h.isNative_iff.mpr hnative), hmethods]
  exact Query.runs_pure _ node

/-- Every log of a built-in contract has a release. -/
theorem MadeFrom.finds_release (h : MadeFrom c i fragments) {d : Bridge.Decoder}
    (hd : i.bridge = some d) (height : Option UInt64) : ∃ found, d.releaseFor height = .ok found := by
  rcases h.bridge_cases with ⟨-, hnone⟩ | ⟨_, network, bridge, -, -, hdecoder, hsome⟩
  · rw [hnone] at hd
    cases hd
  · obtain rfl := Option.some.inj (hsome.symm.trans hd)
    obtain ⟨r, t, -, -, hrelease⟩ := Bridge.Decoder.releaseFor_isActive hdecoder height
    exact ⟨_, hrelease⟩

/-- For every configuration: an inspector is made exactly if there is no network or the one numbered
    30 or 31 and both addresses of built-in contracts are `0x` and forty hex digits in lower case;
    any other network is the error whatever the addresses are, else the first of them that is none.
    And with every inspector that was made, the details of a built-in contract are there without a
    call for every spelling of its address and every node, and no log of a built-in contract is
    without a release. -/
theorem configuration_checks_suffice (c : Config) :
    ((∃ i, (ofConfig c).value = .ok i) ↔ c.IsUsable) ∧
    (∀ id, c.networkId = some id → id ≠ 30 → id ≠ 31 →
      (ofConfig c).value = .error
        (.unsupportedNetwork (if id = 33 then Network.regtest.name else Natural.decimal id))) ∧
    (c.HasUsableNetwork → ∀ a, IsFirst (fun b => ¬ IsAddress b)
        [LetterCase.lower c.natives.bridge, LetterCase.lower c.natives.remasc] a →
      (ofConfig c).value = .error (.invalidAddress a)) ∧
    ∀ i fragments, MadeFrom c i fragments →
      (∀ address, c.natives.Names address → ∀ node block, ∃ methods,
        i.natives.methods address (i.network.getD .mainnet) = .ok methods ∧
        (i.details address block).Runs node [] (.ok (.plain address methods []))) ∧
      ∀ d, i.bridge = some d →
        (∀ height, ∃ found, d.releaseFor height = .ok found) ∧
        ∀ log, (d.decodeLog log).Omits Bridge.noRelease := by
  refine ⟨exists_ofConfig_iff, fun id hid h30 h31 => ofConfig_eq_unsupported hid h30 h31,
    fun hnetwork a ha => ofConfig_eq_invalid hnetwork ha, fun i fragments h => ⟨?_, ?_⟩⟩
  · exact fun address hnative node block => h.runs_details hnative node block
  · intro d hd
    have hfinds := h.finds_release hd
    exact ⟨hfinds, fun log => (d.omits_noRelease_iff log).mpr (hfinds log.blockNumber)⟩

/-- A configuration for the test network with addresses in mixed case. -/
def mixedCaseConfig : Config where
  natives := ⟨"0X00000000000000000000000000000000010000AB",
    "0x00000000000000000000000000000000010000Cd"⟩
  networkId := some 31
  abi := none

/-- It is accepted, and the details of the bridge are there in yet another spelling. A network
    without a table of releases is the error also where the address of the bridge is none. -/
theorem configuration_checks_mixedCase :
    ∃ (i : Inspector) (d : Bridge.Decoder),
      (ofConfig mixedCaseConfig).value = .ok i ∧ i.bridge = some d ∧
      (∀ node, ∃ methods, (i.details "0x00000000000000000000000000000000010000aB" .latest).Runs node
        [] (.ok (.plain "0x00000000000000000000000000000000010000aB" methods []))) ∧
      (∃ found, d.releaseFor (some 0) = .ok found) ∧
      (ofConfig ⟨⟨"bridge", "remasc"⟩, some 33, none⟩).value =
        .error (.unsupportedNetwork "regtest") ∧
      (ofConfig ⟨⟨"BRIDGE", "remasc"⟩, some 30, none⟩).value =
        .error (.invalidAddress "bridge") := by
  obtain ⟨haccepted, -, -, hnever⟩ := configuration_checks_suffice mixedCaseConfig
  obtain ⟨i, hi⟩ := haccepted.mpr
    ⟨Or.inr (Or.inr rfl), isHexAddress_iff.mp (by decide +kernel),
      isHexAddress_iff.mp (by decide +kernel)⟩
  have hmade := MadeFrom.ofConfig hi
  obtain ⟨hdetails, hreleases⟩ := hnever i _ hmade
  obtain ⟨d, hd⟩ : ∃ d, i.bridge = some d := by
    rcases hmade.bridge_cases with ⟨hnone, -⟩ | ⟨_, _, d, -, -, -, hd⟩
    · cases hnone
    · exact ⟨d, hd⟩
  have hfirst : IsFirst (fun b => ¬ IsAddress b)
      [LetterCase.lower "BRIDGE", LetterCase.lower "remasc"] "bridge" := by
    have hlower : LetterCase.lower "BRIDGE" = "bridge" := by decide +kernel
    have hnone : ¬ IsAddress "bridge" := by
      rw [← isHexAddress_iff]
      decide
    exact ⟨[], _, by rw [hlower, List.nil_append], hnone, List.forall_mem_nil _⟩
  refine ⟨i, d, hi, hd, fun node => ?_, (hreleases d hd).1 (some 0), ?_, ?_⟩
  · have hnamed : mixedCaseConfig.natives.Names "0x00000000000000000000000000000000010000aB" := by
      decide +kernel
    obtain ⟨methods, -, hruns⟩ := hdetails _ hnamed node .latest
    exact ⟨methods, hruns⟩
  · exact (configuration_checks_suffice _).2.1 33 rfl (by decide) (by decide)
  · exact (configuration_checks_suffice _).2.2.1 (Or.inr (Or.inl rfl)) _ hfirst

end Inspector

end ContractLens
