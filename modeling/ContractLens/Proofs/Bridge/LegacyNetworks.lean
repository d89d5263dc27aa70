import ContractLens.Bridge.Legacy
import ContractLens.Proofs.Bitcoin.Base58Check

/-!
# Legacy logs on different networks

The network of a decoder for legacy events only matters for a notice, which tells that an address of
a federation is not one of the network. A log is decoded to the same on each network.

* `Noted.AgreeBut`: two activities with the same answer and the same notices but for one message.
* `LegacyEvent.on`, `legacyEvents_on`: the events of one network are those of another one with its
  addresses.
* `decodeLegacyLog_on`: they are decoded alike.
* `decodeLegacyLog_network`: what the network changes and what not.
-/

namespace ContractLens

/-! ## Notices of one message -/

/-- Two activities have the same answer, and the same notices but for those of one message. -/
structure Noted.AgreeBut {α : Type} (message : String) (m m' : Noted α) : Prop where
  value : m.value = m'.value
  notices : m.notices.filter (·.message != message) = m'.notices.filter (·.message != message)

namespace Noted.AgreeBut

variable {α β : Type} {message : String} {m m' : Noted α}

theorem refl (message : String) (m : Noted α) : AgreeBut message m m := ⟨rfl, rfl⟩

theorem bind {f f' : α → Noted β} (hm : AgreeBut message m m')
    (hf : ∀ a, AgreeBut message (f a) (f' a)) : AgreeBut message (m >>= f) (m' >>= f') := by
  refine ⟨?_, ?_⟩
  · rw [value_bind, value_bind, ← hm.value, (hf _).value]
  · rw [notices_bind, notices_bind, List.filter_append, List.filter_append, hm.notices, ← hm.value,
      (hf _).notices]

end Noted.AgreeBut

namespace Bridge

open Abi

/-! ## Events of a network -/

/-- What is reported of an address that is not one of the network. -/
def otherNetwork : String := "federation address is not P2SH for the network"

/-- The reading of a field on a network. -/
def FieldReading.on (network : Network) : FieldReading → FieldReading
  | btcAddress _ => btcAddress network
  | reading => reading

/-- The inputs of an event on a network. -/
def inputsOn (network : Network) (inputs : List (Param × FieldReading)) :
    List (Param × FieldReading) :=
  inputs.map fun (p, reading) => (p, reading.on network)

/-- The event on a network. -/
def LegacyEvent.on (network : Network) (e : LegacyEvent) : LegacyEvent :=
  { e with inputs := inputsOn network e.inputs }

/-- The events of a network are those of any other one on it. -/
theorem legacyEvents_on (m n : Network) :
    (legacyEvents m).map (LegacyEvent.on n) = legacyEvents n := rfl

theorem params_inputsOn (network : Network) (inputs : List (Param × FieldReading)) :
    (inputsOn network inputs).map (·.1) = inputs.map (·.1) := by
  rw [inputsOn, List.map_map]
  rfl

theorem LegacyEvent.fragment_on (network : Network) (e : LegacyEvent) :
    (e.on network).fragment = e.fragment := by
  rw [fragment, fragment, on, params_inputsOn]

theorem LegacyEvent.hash_on (network : Network) (e : LegacyEvent) :
    (e.on network).hash = e.hash := by
  rw [hash, hash, on, params_inputsOn]

/-! ## Values -/

open Noted (AgreeBut)

variable (network : Network)

/-- An address is kept, and there is a notice exactly if it is not one of the network. -/
theorem FieldReading.apply_btcAddress (raw : List UInt8) :
    (FieldReading.btcAddress network).apply raw =
      ⟨.str (Utf8.decode raw),
        if Base58Check.version? (Utf8.decode raw) = some network.scriptHashVersion then []
        else [⟨.debug, otherNetwork, [("address", Utf8.decode raw),
          ("version", versionText (Base58Check.version? (Utf8.decode raw))),
          ("network", network.name)]⟩]⟩ := by
  rw [apply]
  dsimp only
  by_cases hversion : Base58Check.version? (Utf8.decode raw) = some network.scriptHashVersion
  · rw [if_neg (not_not.mpr hversion), if_pos hversion]
    rfl
  · rw [if_pos hversion, if_neg hversion]
    rfl

theorem FieldReading.apply_on (reading : FieldReading) (raw : List UInt8) :
    AgreeBut otherNetwork (reading.apply raw) ((reading.on network).apply raw) := by
  cases reading with
  | plain | publicKeys | decimal => exact .refl _ _
  | btcAddress other =>
    rw [on, apply_btcAddress, apply_btcAddress]
    refine ⟨rfl, ?_⟩
    split_ifs <;> simp

theorem inputValue_on (p : Param) (reading : FieldReading) (raw : List UInt8) :
    AgreeBut otherNetwork (inputValue p reading raw) (inputValue p (reading.on network) raw) :=
  (reading.apply_on network raw).bind fun _ => .refl _ _

/-- The arguments are the same. -/
theorem legacyArgs_on (inputs : List (Param × FieldReading)) (topics : List String)
    (fields : List (List UInt8)) :
    AgreeBut otherNetwork (legacyArgs inputs topics fields)
      (legacyArgs (inputsOn network inputs) topics fields) := by
  induction inputs generalizing topics fields with
  | nil => exact .refl _ _
  | cons input inputs ih =>
    obtain ⟨p, reading⟩ := input
    show AgreeBut _ _
      (legacyArgs ((p, reading.on network) :: inputsOn network inputs) topics fields)
    rw [legacyArgs.eq_def, legacyArgs.eq_def (_ :: inputsOn network inputs)]
    have hcons (raw : List UInt8) (topics : List String) (fields : List (List UInt8))
        (add : Value → List Value → List Value) :=
      (inputValue_on network p reading raw).bind fun value => (ih topics fields).bind fun args =>
        .refl otherNetwork (pure (args.map (add value)))
    by_cases hindexed : p.isIndexed = true
    · simp only [if_pos hindexed]
      cases topics with
      | nil => exact ih [] fields
      | cons topic topics =>
        cases hraw : decodeHex topic with
        | error error =>
          simp only [hraw]
          exact .refl _ _
        | ok raw =>
          simp only [hraw]
          exact hcons raw topics fields fun value args => value :: args
    · simp only [if_neg hindexed]
      cases fields with
      | nil => exact ih topics []
      | cons raw fields =>
        exact hcons raw topics fields fun value args =>
          if value.isEmpty = true then args else value :: args

theorem LegacyEvent.args_on (e : LegacyEvent) (topics : List String) (data : String) :
    AgreeBut otherNetwork (e.args topics data) ((e.on network).args topics data) := by
  have hlayout : (e.on network).layout = e.layout := rfl
  rw [args, args, hlayout]
  cases e.layout.fields data with
  | error error => exact .refl _ _
  | ok fields => exact legacyArgs_on network e.inputs topics fields

/-! ## Logs -/

theorem findLegacyEvent_on (events : List LegacyEvent) (name : String) :
    findLegacyEvent (events.map (LegacyEvent.on network)) name =
      (findLegacyEvent events name).map (LegacyEvent.on network) := by
  rw [findLegacyEvent, List.find?_map]
  rfl

/-- A log is decoded to the same by the events on a network. -/
theorem decodeLegacyLog_on (events : List LegacyEvent) (log : RawLog) :
    AgreeBut otherNetwork (decodeLegacyLog events log)
      (decodeLegacyLog (events.map (LegacyEvent.on network)) log) := by
  rw [decodeLegacyLog, decodeLegacyLog]
  cases log.topics with
  | nil => exact .refl _ _
  | cons topic topics =>
    dsimp only
    cases eventName topic with
    | error error => exact .refl _ _
    | ok name =>
      dsimp only
      rw [findLegacyEvent_on]
      cases findLegacyEvent events name with
      | none => exact .refl _ _
      | some e =>
        refine (e.args_on network topics log.data).bind fun args => ?_
        cases args with
        | error error => exact .refl _ _
        | ok args =>
          show AgreeBut _ _ (pure (DecodedLog.decoded log
            ⟨_, (e.on network).hash, (e.on network).fragment, _⟩))
          rw [e.hash_on, e.fragment_on]
          exact .refl _ _

/-- The legacy events of any two networks decode each log to the same, and they give the same
    notices but for those of addresses that are not of the network. Such an address is kept as it
    is. The test of an address never leaves the bytes of the address, whatever its text is. -/
theorem decodeLegacyLog_network :
    (∀ (m n : Network) (log : RawLog),
      (decodeLegacyLog (legacyEvents m) log).value = (decodeLegacyLog (legacyEvents n) log).value ∧
      (decodeLegacyLog (legacyEvents m) log).notices.filter (·.message != otherNetwork) =
        (decodeLegacyLog (legacyEvents n) log).notices.filter (·.message != otherNetwork)) ∧
    (∀ (network : Network) (raw : List UInt8),
      ((FieldReading.btcAddress network).apply raw).value = .str (Utf8.decode raw) ∧
      (((FieldReading.btcAddress network).apply raw).notices = [] ↔
        Base58Check.version? (Utf8.decode raw) = some network.scriptHashVersion)) ∧
    ∀ address, Base58Check.versionChecked address = some (Base58Check.version? address) := by
  refine ⟨fun m n log => ?_, fun network raw => ?_, Base58Check.versionChecked_eq⟩
  · have hagree := decodeLegacyLog_on n (legacyEvents m) log
    rw [legacyEvents_on] at hagree
    exact ⟨hagree.value, hagree.notices⟩
  · rw [FieldReading.apply_btcAddress]
    refine ⟨rfl, ?_⟩
    dsimp only
    split_ifs with hversion <;> simp [hversion]

end Bridge

end ContractLens
