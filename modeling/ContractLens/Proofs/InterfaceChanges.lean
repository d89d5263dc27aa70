import ContractLens.Proofs.Inspector
import ContractLens.Proofs.SignatureCache

/-!
# Changes of the interface description

An inspector keeps its interface description in three forms: the fragments that are left of it, the
signatures of all of it, and the events by which logs are recognised. A change replaces all three,
so nothing stays of what came before. To be given what is left of its own interface description
changes the signatures that an inspector has at hand, but no answer.

* `MadeFrom.ofConfig_eq`: an inspector is the one that is newly made for the interface description
  that it was given last.
* `SameAnswers`: two inspectors answer every question alike.
* `withAbi_own_sameAnswers`: an inspector with its own interface description once more.
* `MadeFrom.independent`: no answer depends on what came before.
-/

namespace ContractLens

open Abi

namespace Inspector

variable {c : Config} {i : Inspector} {fragments : List Fragment}

/-! ## New inspectors -/

theorem ofConfig_eq_ok {network : Option Network} {bridge : Option Bridge.Decoder}
    (hnetwork : c.network = .ok network) (hbridge : (bridgeDecoder network).value = .ok bridge)
    (hvalid : (NativeContracts.ofConfig c.natives).validate = .ok ()) :
    (ofConfig c).value = .ok
      (withAbi ⟨[], .empty, ⟨[]⟩, .ofConfig c.natives, network, bridge⟩ c.abi) := by
  unfold ofConfig
  simp only [hnetwork, Noted.value_bind, hbridge, hvalid, Noted.value_pure]

/-- Whatever an inspector was given before, it is the one that is newly made for the interface
    description that it was given last. -/
theorem MadeFrom.ofConfig_eq (h : MadeFrom c i fragments) :
    (Inspector.ofConfig { c with abi := some fragments }).value = .ok i := by
  obtain ⟨hnetwork, hbridge, hnatives, hvalid⟩ := h.configured
  obtain ⟨before, rfl⟩ := h.exists_eq_withAbi
  rw [hnatives] at hvalid
  rw [ofConfig_eq_ok (c := { c with abi := some fragments }) hnetwork hbridge hvalid, ← hnatives]
  rfl

/-! ## Answers -/

/-- Two inspectors answer every question alike, with the same calls and notices. -/
structure SameAnswers (i j : Inspector) : Prop where
  abi : i.abi = j.abi
  natives : i.natives = j.natives
  network : i.network = j.network
  debugText : i.debugText = j.debugText
  methods : i.methods = j.methods
  selectors : i.selectors = j.selectors
  methodsInCode : i.methodsInCode = j.methodsInCode
  fingerprint : i.fingerprint = j.fingerprint
  details : i.details = j.details
  decoderFor : i.decoderFor = j.decoderFor
  decodeLogs : i.decodeLogs = j.decodeLogs
  parseLogs : i.parseLogs = j.parseLogs
  contract : i.contract = j.contract

/-- Of its table of signatures an inspector uses nothing but the signatures that it gives. -/
theorem sameAnswers_of_signature_eq (t : SignatureTable)
    (h : t.signature = i.signatures.signature) :
    ({ i with signatures := t } : Inspector).SameAnswers i := by
  have hmethods : ({ i with signatures := t } : Inspector).methods = i.methods := by
    rw [methods, methods, h]
  have hselectors : ({ i with signatures := t } : Inspector).selectors = i.selectors :=
    functionSelectors_congr h i.abi
  have hcode : ({ i with signatures := t } : Inspector).methodsInCode = i.methodsInCode := by
    funext code
    rw [methodsInCode, methodsInCode, hselectors]
  have hfingerprint : ({ i with signatures := t } : Inspector).fingerprint = i.fingerprint := by
    funext address block
    rw [fingerprint, fingerprint, hcode]
  have hdetails : ({ i with signatures := t } : Inspector).details = i.details := by
    funext address block
    rw [details, details, inspect, inspect, hfingerprint]
  have heach : ({ i with signatures := t } : Inspector).decodeEach = i.decodeEach := by
    funext logs
    induction logs with
    | nil => rfl
    | cons log logs ih =>
      rw [decodeEach, decodeEach, ih]
      rfl
  have hdecode : ({ i with signatures := t } : Inspector).decodeLogs = i.decodeLogs := by
    funext logs
    rw [decodeLogs, decodeLogs, heach]
  have hparse : ({ i with signatures := t } : Inspector).parseLogs = i.parseLogs := by
    funext logs
    rw [parseLogs, parseLogs, hdecode]
  exact {
    abi := rfl
    natives := rfl
    network := rfl
    debugText := rfl
    methods := hmethods
    selectors := hselectors
    methodsInCode := hcode
    fingerprint := hfingerprint
    details := hdetails
    decoderFor := rfl
    decodeLogs := hdecode
    parseLogs := hparse
    contract := rfl }

/-- An inspector that is given its own interface description differs only in its table. -/
theorem withAbi_own (i : Inspector) (fragments : List Fragment) :
    (i.withAbi (some fragments)).withAbi (some (i.withAbi (some fragments)).abi) =
      { i.withAbi (some fragments) with
        signatures := .ofFragments (i.withAbi (some fragments)).abi } := by
  have hsame : (SignatureTable.ofFragments (i.withAbi (some fragments)).abi).signature =
      (SignatureTable.ofFragments fragments).signature :=
    (SignatureTable.faithful_ofFragments _).signature_eq_signature
      (SignatureTable.faithful_ofFragments _)
  have hkept : dedupeEvents (i.withAbi (some fragments)).abi
      (.ofFragments (i.withAbi (some fragments)).abi) = (i.withAbi (some fragments)).abi := by
    rw [dedupeEvents_congr hsame]
    exact dedupeEvents_idem fragments _
  rw [withAbi, Option.getD_some, hkept, EventDecoder.ofTable_congr hsame]
  rfl

theorem withAbi_own_sameAnswers (i : Inspector) (fragments : List Fragment) :
    ((i.withAbi (some fragments)).withAbi (some (i.withAbi (some fragments)).abi)).SameAnswers
      (i.withAbi (some fragments)) := by
  rw [withAbi_own]
  exact sameAnswers_of_signature_eq _
    ((SignatureTable.faithful_ofFragments _).signature_eq_signature
      (SignatureTable.faithful_ofFragments _))

/-- After any changes of its interface description an inspector is the one that is newly made with
    the last of them, and so answers every question as that one does. What is left of its own
    interface description may be given to it again without a change of any answer. -/
theorem MadeFrom.independent (h : MadeFrom c i fragments) :
    (Inspector.ofConfig { c with abi := some fragments }).value = .ok i ∧
      (i.withAbi (some i.abi)).SameAnswers i := by
  refine ⟨h.ofConfig_eq, ?_⟩
  obtain ⟨before, rfl⟩ := h.exists_eq_withAbi
  exact withAbi_own_sameAnswers before fragments

/-- Of two events with one layout the first stays. -/
theorem dedupeEvents_ping (a b : Bool) :
    dedupeEvents [ping a, ping b] (.ofFragments [ping a, ping b]) = [ping a] := by
  have hname (c : Bool) : (ping c).name? = some "Ping" := name?_eq_some_iff.mpr ⟨rfl, by decide⟩
  have hlayout : layoutOf (.ofFragments [ping a, ping b]) (ping b) =
      layoutOf (.ofFragments [ping a, ping b]) (ping a) := by
    have ht := SignatureTable.faithful_ofFragments [ping a, ping b]
    rw [layoutOf, layoutOf, ht.signature_eq, ht.signature_eq, ofFragment_event rfl (hname a),
      ofFragment_event rfl (hname b)]
    rfl
  have hevents : [ping a, ping b].filter (·.isEvent) = [ping a, ping b] := rfl
  have hothers : [ping a, ping b].filter (!·.isEvent) = [] := rfl
  rw [dedupeEvents, hevents, hothers, firstOfEachLayout_cons, if_neg List.not_mem_nil,
    firstOfEachLayout_cons, hlayout, if_pos (List.mem_singleton.mpr rfl)]
  rfl

/-- Two changes after an inspector was made, of which the second leaves out an event. -/
theorem independent_ping :
    ∃ i : Inspector, MadeFrom (.ofNetwork .mainnet) i [ping true, ping false] ∧
      i.abi = [ping true] ∧
      (Inspector.ofConfig
        { Config.ofNetwork .mainnet with abi := some [ping true, ping false] }).value = .ok i ∧
      (i.withAbi (some [ping true])).SameAnswers i := by
  obtain ⟨bridge, hbridge⟩ :
      ∃ bridge, (bridgeDecoder (some .mainnet)).value = .ok (some bridge) := ⟨_, rfl⟩
  have hnew := ofConfig_eq_ok (c := .ofNetwork .mainnet) rfl hbridge (by decide +kernel)
  have hmade := (MadeFrom.ofConfig hnew).withAbi none |>.withAbi (some [ping true, ping false])
  have habi := hmade.abi_eq.trans (dedupeEvents_ping true false)
  obtain ⟨hsame, hown⟩ := hmade.independent
  rw [habi] at hown
  exact ⟨_, hmade, habi, hsame, hown⟩

end Inspector

end ContractLens
