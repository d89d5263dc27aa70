import ContractLens.Proofs.EventTable
import ContractLens.Proofs.Except

/-!
# Inspectors as they are made

An inspector is made from a configuration; afterwards only its interface description changes. So its
network and its built-in contracts are those of the configuration, and all else comes from the
interface description that it was given last.

* `Inspector.MadeFrom`: an inspector with its configuration and its last interface description.
* `MadeFrom.abi_eq`, `MadeFrom.events_eq`: what it keeps of the interface description.
* `MadeFrom.isNative_iff`: the addresses that it takes for built-in contracts.
* `MadeFrom.bridge_cases`: it decodes logs of built-in contracts exactly if it has a network.
-/

namespace ContractLens

open Abi

/-! ## Addresses of built-in contracts -/

/-- A text is one of two addresses, in any case of ASCII letters. -/
def NativeConfig.Names (c : NativeConfig) (address : String) : Prop :=
  LetterCase.asciiLower address = LetterCase.asciiLower c.bridge ∨
    LetterCase.asciiLower address = LetterCase.asciiLower c.remasc

instance (c : NativeConfig) (address : String) : Decidable (c.Names address) :=
  inferInstanceAs (Decidable (_ ∨ _))

namespace NativeContracts

theorem isNative_iff {n : NativeContracts} {address : String} :
    n.isNative address = true ↔
      LetterCase.asciiLower n.bridge = LetterCase.asciiLower address ∨
        LetterCase.asciiLower n.remasc = LetterCase.asciiLower address := by
  rw [isNative, at?, ← LetterCase.equalIgnoringAsciiCase_iff,
    ← LetterCase.equalIgnoringAsciiCase_iff]
  split_ifs with hbridge hremasc
  · simp [hbridge]
  · simp [hremasc]
  · simp [hbridge, hremasc]

/-- Addresses that pass the check are addresses. -/
theorem isAddress_of_validate {n : NativeContracts} (h : n.validate = .ok ()) :
    IsAddress n.bridge ∧ IsAddress n.remasc := by
  rw [validate] at h
  cases hfind : n.addresses.find? fun a => !isHexAddress a with
  | some a => rw [hfind] at h; cases h
  | none =>
    have hall : ∀ a ∈ n.addresses, IsAddress a := by
      intro a ha
      have hnot := List.find?_eq_none.mp hfind a ha
      rw [Bool.not_eq_true', Bool.not_eq_false] at hnot
      exact isHexAddress_iff.mp hnot
    exact ⟨hall _ (by simp [addresses]), hall _ (by simp [addresses])⟩

/-- Addresses of a configuration are matched without regard to the case of ASCII letters. -/
theorem isNative_ofConfig_iff {c : NativeConfig} (hvalid : (ofConfig c).validate = .ok ())
    {address : String} : (ofConfig c).isNative address = true ↔ c.Names address := by
  obtain ⟨hbridge, hremasc⟩ := isAddress_of_validate hvalid
  have hbridge' := LetterCase.asciiLower_lower_of_isAddress hbridge
  have hremasc' := LetterCase.asciiLower_lower_of_isAddress hremasc
  rw [isNative_iff, ofConfig, hbridge', hremasc', NativeConfig.Names, eq_comm,
    @eq_comm _ (LetterCase.asciiLower c.remasc)]

example : NativeConfig.standard.Names "0x0000000000000000000000000000000001000006" := by
  decide +kernel

end NativeContracts

/-! ## Networks of a configuration -/

theorem Config.network_eq_ok_iff {c : Config} {network : Option Network} :
    c.network = .ok network ↔ c.networkId = none ∧ network = none ∨
      ∃ id n, c.networkId = some id ∧ Network.ofId? id = some n ∧ network = some n := by
  rw [Config.network]
  cases hid : c.networkId with
  | none => simp [eq_comm]
  | some id =>
    cases hn : Network.ofId? id with
    | none => simp [hn]
    | some n => simp [hn, eq_comm]

namespace Inspector

/-! ## Making inspectors -/

/-- An inspector comes from a configuration and from changes of the interface description. With it
    stands the interface description that was given last, which is the bundled one where none
    was. -/
inductive MadeFrom (c : Config) : Inspector → List Fragment → Prop
  | ofConfig {i : Inspector} : (Inspector.ofConfig c).value = .ok i →
      MadeFrom c i (c.abi.getD Bundled.fragments)
  | withAbi {i : Inspector} {fragments : List Fragment} (abi : Option (List Fragment)) :
      MadeFrom c i fragments → MadeFrom c (i.withAbi abi) (abi.getD Bundled.fragments)

theorem withAbi_eq_getD (i : Inspector) (abi : Option (List Fragment)) :
    i.withAbi abi = i.withAbi (some (abi.getD Bundled.fragments)) := rfl

/-- An inspector that comes from a configuration has its network, the decoder for this network and
    the addresses of the configuration, which have passed the check. -/
theorem exists_of_ofConfig {c : Config} {i : Inspector}
    (h : (Inspector.ofConfig c).value = .ok i) :
    ∃ network bridge, c.network = .ok network ∧ (bridgeDecoder network).value = .ok bridge ∧
      (NativeContracts.ofConfig c.natives).validate = .ok () ∧
      i = withAbi ⟨[], .empty, ⟨[]⟩, NativeContracts.ofConfig c.natives, network, bridge⟩
        c.abi := by
  unfold ofConfig at h
  split at h
  · cases h
  next network hnetwork =>
  rw [Noted.value_bind] at h
  split at h
  · cases h
  next bridge hbridge =>
  simp only at h
  split at h
  · cases h
  next hvalid =>
  exact ⟨network, bridge, hnetwork, hbridge, hvalid, (Except.ok.inj h).symm⟩

namespace MadeFrom

variable {c : Config} {i : Inspector} {fragments : List Fragment}

/-- Whatever came before, the inspector has been given its interface description last. -/
theorem exists_eq_withAbi (h : MadeFrom c i fragments) :
    ∃ before : Inspector, i = before.withAbi (some fragments) := by
  cases h with
  | ofConfig hi =>
    obtain ⟨network, bridge, -, -, -, rfl⟩ := exists_of_ofConfig hi
    exact ⟨_, withAbi_eq_getD _ _⟩
  | withAbi abi _ => exact ⟨_, withAbi_eq_getD _ abi⟩

theorem abi_eq (h : MadeFrom c i fragments) :
    i.abi = dedupeEvents fragments (.ofFragments fragments) := by
  obtain ⟨before, rfl⟩ := h.exists_eq_withAbi
  rfl

theorem signatures_eq (h : MadeFrom c i fragments) : i.signatures = .ofFragments fragments := by
  obtain ⟨before, rfl⟩ := h.exists_eq_withAbi
  rfl

theorem signatures_faithful (h : MadeFrom c i fragments) : i.signatures.Faithful := by
  rw [h.signatures_eq]
  exact SignatureTable.faithful_ofFragments fragments

theorem events_eq (h : MadeFrom c i fragments) : i.events = .ofFragments fragments := by
  obtain ⟨before, rfl⟩ := h.exists_eq_withAbi
  exact events_withAbi before fragments

/-- What does not depend on the interface description stays as the configuration has it. -/
theorem configured (h : MadeFrom c i fragments) :
    c.network = .ok i.network ∧ (bridgeDecoder i.network).value = .ok i.bridge ∧
      i.natives = .ofConfig c.natives ∧ i.natives.validate = .ok () := by
  induction h with
  | ofConfig hi =>
    obtain ⟨network, bridge, hnetwork, hbridge, hvalid, rfl⟩ := exists_of_ofConfig hi
    exact ⟨hnetwork, hbridge, rfl, hvalid⟩
  | withAbi abi _ ih => exact ih

/-- The built-in contracts are at the addresses of the configuration. -/
theorem isNative_iff (h : MadeFrom c i fragments) {address : String} :
    i.natives.isNative address = true ↔ c.natives.Names address := by
  obtain ⟨-, -, hnatives, hvalid⟩ := h.configured
  rw [hnatives] at hvalid ⊢
  exact NativeContracts.isNative_ofConfig_iff hvalid

/-- There is a decoder for the built-in contracts' logs exactly if there is a network. -/
theorem bridge_cases (h : MadeFrom c i fragments) :
    (c.networkId = none ∧ i.bridge = none) ∨
      ∃ id network bridge, c.networkId = some id ∧ Network.ofId? id = some network ∧
        (Bridge.Decoder.ofNetwork network).value = .ok bridge ∧ i.bridge = some bridge := by
  obtain ⟨hnetwork, hbridge, -⟩ := h.configured
  rcases Config.network_eq_ok_iff.mp hnetwork with ⟨hid, hnone⟩ | ⟨id, network, hid, hn, hsome⟩
  · rw [hnone] at hbridge
    exact Or.inl ⟨hid, (Except.ok.inj hbridge).symm⟩
  · rw [hsome] at hbridge
    obtain ⟨bridge, hdecoder, hsome⟩ := map_eq_ok_iff.mp hbridge
    exact Or.inr ⟨id, network, bridge, hid, hn, hdecoder, hsome.symm⟩

end MadeFrom

end Inspector

end ContractLens
