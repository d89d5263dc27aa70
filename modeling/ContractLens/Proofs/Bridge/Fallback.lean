import ContractLens.Proofs.Bridge.Releases

/-!
# Logs without a release

Where there is no release for the height of a log, the log is only taken for a legacy event, and a
notice tells so. No other notice of the decoders has its message.

* `Noted.Omits.bind`: a sequence leaves a message out if its parts do.
* `EventDecoder.omits_decodeLog`, `omits_decodeLegacyLog`: the notices of the decoders.
* `Decoder.omits_noRelease_iff`: when the notice comes.
-/

namespace ContractLens

/-! ## Notices that do not come -/

namespace Noted

variable {α β : Type} {m : Noted α} {message : String}

/-- No notice has this message. -/
def Omits (m : Noted α) (message : String) : Prop := ∀ n ∈ m.notices, n.message ≠ message

theorem omits_pure (a : α) (message : String) : (pure a : Noted α).Omits message :=
  List.forall_mem_nil _

theorem omits_note {level : Notice.Level} {text : String} {details : List (String × String)}
    (h : text ≠ message) : (note ⟨level, text, details⟩).Omits message :=
  List.forall_mem_singleton.mpr h

theorem Omits.bind {f : α → Noted β} (hm : m.Omits message) (hf : (f m.value).Omits message) :
    (m >>= f).Omits message := by
  rw [Omits, notices_bind]
  exact List.forall_mem_append.mpr ⟨hm, hf⟩

end Noted

/-- What is reported of a log without a release. -/
def Bridge.noRelease : String := "no release for log"

/-! ## Events of a release -/

namespace EventDecoder

open Bridge (noRelease)

theorem omits_findEvent (d : EventDecoder) (topics : List String) :
    (d.findEvent topics).Omits noRelease := by
  cases topics with
  | nil => exact Noted.omits_pure _ _
  | cons topic further =>
    rw [findEvent]
    split
    · exact Noted.omits_pure _ _
    · exact Noted.omits_pure _ _
    · exact (Noted.omits_note (by decide)).bind (Noted.omits_pure _ _)

theorem omits_decodeLog (d : EventDecoder) (log : RawLog) : (d.decodeLog log).Omits noRelease := by
  apply (d.omits_findEvent log.topics).bind
  split
  · exact (Noted.omits_note (by decide)).bind (Noted.omits_pure _ _)
  · split
    · exact Noted.omits_pure _ _
    · exact (Noted.omits_note (by decide)).bind (Noted.omits_pure _ _)

end EventDecoder

namespace Bridge

open Abi

/-! ## Legacy events -/

theorem FieldReading.omits_apply (reading : FieldReading) (raw : List UInt8) :
    (reading.apply raw).Omits noRelease := by
  cases reading with
  | plain => exact Noted.omits_pure _ _
  | publicKeys | decimal =>
    rw [apply]
    split
    · exact Noted.omits_pure _ _
    · exact Noted.omits_pure _ _
  | btcAddress network =>
    rw [apply]
    simp only
    split_ifs
    · exact (Noted.omits_note (by decide)).bind (Noted.omits_pure _ _)
    · exact Noted.omits_pure _ _

theorem omits_inputValue (p : Param) (reading : FieldReading) (raw : List UInt8) :
    (inputValue p reading raw).Omits noRelease :=
  (reading.omits_apply raw).bind (Noted.omits_pure _ _)

theorem omits_legacyArgs (inputs : List (Param × FieldReading)) (topics : List String)
    (fields : List (List UInt8)) : (legacyArgs inputs topics fields).Omits noRelease := by
  induction inputs generalizing topics fields with
  | nil => exact Noted.omits_pure _ _
  | cons input inputs ih =>
    obtain ⟨p, reading⟩ := input
    rw [legacyArgs.eq_def]
    simp only
    split
    · split
      · exact ih [] fields
      · split
        · exact Noted.omits_pure _ _
        · exact (omits_inputValue _ _ _).bind ((ih _ _).bind (Noted.omits_pure _ _))
    · split
      · exact ih topics []
      · exact (omits_inputValue _ _ _).bind ((ih _ _).bind (Noted.omits_pure _ _))

theorem LegacyEvent.omits_args (e : LegacyEvent) (topics : List String) (data : String) :
    (e.args topics data).Omits noRelease := by
  rw [args]
  split
  · exact Noted.omits_pure _ _
  · exact omits_legacyArgs _ _ _

theorem omits_decodeLegacyLog (events : List LegacyEvent) (log : RawLog) :
    (decodeLegacyLog events log).Omits noRelease := by
  rw [decodeLegacyLog]
  split
  · exact Noted.omits_pure _ _
  · split
    · exact Noted.omits_pure _ _
    · split
      · exact (Noted.omits_note (by decide)).bind (Noted.omits_pure _ _)
      · apply (LegacyEvent.omits_args _ _ _).bind
        split
        · exact Noted.omits_pure _ _
        · exact (Noted.omits_note (by decide)).bind (Noted.omits_pure _ _)

/-! ## Logs of built-in contracts -/

/-- The notice comes exactly for the logs whose heights have no release. -/
theorem Decoder.omits_noRelease_iff (d : Decoder) (log : RawLog) :
    (d.decodeLog log).Omits noRelease ↔ ∃ found, d.releaseFor log.blockNumber = .ok found := by
  rw [decodeLog]
  cases hrelease : d.releaseFor log.blockNumber with
  | error e =>
    refine iff_of_false (fun homits => ?_) (by simp)
    exact homits _ List.mem_cons_self rfl
  | ok found =>
    refine iff_of_true ?_ ⟨found, rfl⟩
    apply (found.2.omits_findEvent log.topics).bind
    split
    · exact (Noted.omits_note (by decide)).bind (found.2.omits_decodeLog log)
    · exact omits_decodeLegacyLog _ log

end Bridge

end ContractLens
