import ContractLens.Proofs.DecodedLogs
import ContractLens.Proofs.EventRoundTrip

/-!
# What a decoded event says

A log is only decoded to an event of the interface description that it fits: its first topic is the
hash of the event's signature, and its other topics are as many as the indexed inputs. So every
indexed input finds its topic. The other inputs find their values in the data, as many as there are
types, unless these types hold nothing but empty tuples: then there is no value at all, and `null`
stands for each.

* `Abi.AbiType.ReadsAll`: data of these types has a value for each.
* `eventArgs_ne_topicMissing`: with as many topics as indexed inputs, none is missing.
* `DecodedEvent.BelongsTo`, `DecodedEvent.ReadFrom`: what an event has to do with its log.
* `DecodedEvent.ReadFrom.getElem?_args_eq`: an argument depends on its topic or on the data alone.
* `decodeLog_event`: what is known of an event that a log is decoded to.
-/

namespace ContractLens

open Abi

/-! ## Values of parameter lists -/

/-- Data of these types has a value for each of them. -/
def Abi.AbiType.ReadsAll (types : List AbiType) : Prop :=
  ∀ raw ds, decodeParams types raw = .ok ds → ds.length = types.length

/-- Only types that hold nothing have fewer values. -/
theorem Abi.AbiType.readsAll_iff {types : List AbiType} :
    ReadsAll types ↔ types = [] ∨ allEmpty types = false := by
  constructor
  · intro hall
    cases hempty : allEmpty types with
    | false => exact Or.inr rfl
    | true =>
      have hnone : decodeParams types [] = .ok [] := by rw [decodeParams, if_pos hempty]
      exact Or.inl (List.length_eq_zero_iff.mp (hall [] [] hnone).symm)
  · intro htypes raw ds hds
    obtain ⟨hempty, rfl⟩ | hreads := decodeParams_eq_ok hds
    · obtain rfl | hfull := htypes
      · rfl
      · rw [hempty] at hfull
        cases hfull
    · exact hreads.length_eq.symm

/-- The inputs of an event that are not indexed. -/
def Abi.Fragment.dataInputs (f : Fragment) : List Param := f.inputs.filter fun p => !p.isIndexed

/-- Data has a value for each input of an event that is not indexed. -/
def Abi.Fragment.ReadsData (f : Fragment) : Prop :=
  ∀ types, f.dataInputs.mapM EventDecoder.paramType = .ok types → AbiType.ReadsAll types

/-! ## Values are not null -/

theorem Value.ofDatum_ne_null (d : Datum) : Value.ofDatum d ≠ .null := by
  intro h
  cases d with
  | uint n bits =>
    rw [ofDatum, ofNat] at h
    split_ifs at h
  | int n bits =>
    rw [ofDatum, ofInt] at h
    split_ifs at h
  | bool | address | fixedBytes | function | bytes | string | array | fixedArray | tuple =>
    rw [ofDatum] at h
    cases h

namespace EventDecoder

theorem topicValue_ne_null {p : Param} {topic : String} {v : Value}
    (h : topicValue p topic = .ok v) : v ≠ .null := by
  intro hnull
  obtain ⟨raw, -, h⟩ := bind_eq_ok_iff.mp h
  obtain ⟨type, -, h⟩ := bind_eq_ok_iff.mp h
  split_ifs at h
  · cases h
    cases hnull
  · split at h
    · cases h
      exact Value.ofDatum_ne_null _ hnull
    · cases h

/-- No value in data is null, and there is one for each parameter or, if their types hold nothing,
    none. -/
theorem dataValues_eq_ok {f : Fragment} {data : String} {values : List Value}
    (h : dataValues f.dataInputs data = .ok values) :
    (∀ v ∈ values, v ≠ .null) ∧
      (f.ReadsData ∧ values.length = f.dataInputs.length ∨
        ¬f.ReadsData ∧ values = [] ∧ f.dataInputs ≠ []) := by
  unfold dataValues at h
  split_ifs at h with hempty
  · cases h
    rw [List.isEmpty_iff] at hempty
    have hreads : f.ReadsData := by
      intro types htypes
      rw [hempty] at htypes
      cases htypes
      exact AbiType.readsAll_iff.mpr (Or.inl rfl)
    exact ⟨by simp, Or.inl ⟨hreads, by rw [hempty]; rfl⟩⟩
  · obtain ⟨types, htypes, h⟩ := bind_eq_ok_iff.mp h
    obtain ⟨raw, -, h⟩ := bind_eq_ok_iff.mp h
    have hcount : f.dataInputs.length = types.length := (forall₂_of_mapM htypes).length_eq
    split at h
    · next ds hds =>
      cases h
      rw [Value.ofData_eq_map]
      refine ⟨?_, ?_⟩
      · intro v hv
        obtain ⟨d, -, rfl⟩ := List.mem_map.mp hv
        exact Value.ofDatum_ne_null d
      · by_cases hall : AbiType.ReadsAll types
        · refine Or.inl ⟨?_, by rw [List.length_map, hall raw ds hds, hcount]⟩
          intro types' htypes'
          obtain rfl := Except.ok.inj (htypes.symm.trans htypes')
          exact hall
        · refine Or.inr ⟨fun hreads => hall (hreads types htypes), ?_, ?_⟩
          · rw [AbiType.readsAll_iff, not_or, Bool.not_eq_false] at hall
            rw [AbiType.decodeParams, if_pos hall.2] at hds
            cases hds
            rfl
          · intro hnil
            rw [hnil] at hempty
            exact hempty rfl
    · cases h

/-! ## No topic is missing -/

theorem paramType_ne_topicMissing (p : Param) (name : String) :
    paramType p ≠ .error (.topicMissing name) := by
  intro h
  rw [paramType] at h
  cases htype : AbiType.parse? (canonicalType p) <;> simp only [htype] at h <;> cases h

theorem decodeHex_ne_topicMissing (s name : String) :
    decodeHex s ≠ .error (.topicMissing name) := by
  intro h
  unfold decodeHex at h
  split at h <;> cases h

theorem topicValue_ne_topicMissing (p : Param) (topic name : String) :
    topicValue p topic ≠ .error (.topicMissing name) := by
  intro h
  obtain hraw | ⟨raw, -, h⟩ := bind_eq_error_iff.mp h
  · exact decodeHex_ne_topicMissing topic name hraw
  obtain htype | ⟨type, -, h⟩ := bind_eq_error_iff.mp h
  · exact paramType_ne_topicMissing p name htype
  split_ifs at h
  · cases h
  · split at h <;> cases h

theorem dataValues_ne_topicMissing (params : List Param) (data name : String) :
    dataValues params data ≠ .error (.topicMissing name) := by
  intro h
  unfold dataValues at h
  split_ifs at h
  obtain htypes | ⟨types, -, h⟩ := bind_eq_error_iff.mp h
  · obtain ⟨p, -, hp⟩ := exists_of_mapM_eq_error htypes
    exact paramType_ne_topicMissing p name hp
  obtain hraw | ⟨raw, -, h⟩ := bind_eq_error_iff.mp h
  · exact decodeHex_ne_topicMissing data name hraw
  split at h <;> cases h

theorem mergeArgs_ne_topicMissing {inputs : List Param} {topics : List String}
    (hcount : inputs.countP Param.isIndexed ≤ topics.length) (values : List Value)
    (name : String) : mergeArgs inputs topics values ≠ .error (.topicMissing name) := by
  intro h
  induction inputs generalizing topics values with
  | nil => cases h
  | cons p inputs ih =>
    rw [mergeArgs.eq_def] at h
    cases hp : p.isIndexed with
    | true =>
      rw [List.countP_cons_of_pos hp] at hcount
      cases topics with
      | nil => exact absurd hcount (by simp)
      | cons topic topics =>
        simp only [hp, if_true] at h
        obtain hv | ⟨v, -, h⟩ := bind_eq_error_iff.mp h
        · exact topicValue_ne_topicMissing p topic name hv
        obtain hvs | ⟨vs, -, h⟩ := bind_eq_error_iff.mp h
        · exact ih (Nat.le_of_succ_le_succ hcount) values hvs
        · cases h
    | false =>
      rw [List.countP_cons_of_neg (by simp [hp])] at hcount
      simp only [hp] at h
      cases values with
      | nil =>
        obtain hvs | ⟨vs, -, h⟩ := bind_eq_error_iff.mp h
        · exact ih hcount [] hvs
        · cases h
      | cons v values =>
        obtain hvs | ⟨vs, -, h⟩ := bind_eq_error_iff.mp h
        · exact ih hcount values hvs
        · cases h

/-- With as many topics as indexed inputs, none is missing. -/
theorem eventArgs_ne_topicMissing {f : Fragment} {topics : List String}
    (hcount : topics.length = f.indexedCount) (data name : String) :
    eventArgs f topics data ≠ .error (.topicMissing name) := by
  intro h
  obtain hvalues | ⟨values, -, h⟩ := bind_eq_error_iff.mp h
  · exact dataValues_ne_topicMissing _ data name hvalues
  · exact mergeArgs_ne_topicMissing hcount.ge values name h

/-! ## One argument for each input -/

theorem length_mergeArgs {inputs : List Param} {topics : List String} {values args : List Value}
    (h : mergeArgs inputs topics values = .ok args) : args.length = inputs.length := by
  induction inputs generalizing topics values args with
  | nil =>
    cases h
    rfl
  | cons p inputs ih =>
    obtain ⟨v, vs, rfl, hstep⟩ := mergeArgs_cons_eq_ok h
    rw [List.length_cons, List.length_cons]
    split_ifs at hstep
    · obtain ⟨topic, rest, -, -, hvs⟩ := hstep
      rw [ih hvs]
    · rw [ih hstep.2]

end EventDecoder

/-- An input that is not indexed has its place among these. -/
theorem Abi.Fragment.getElem?_dataInputs {f : Fragment} {k : ℕ} {p : Param}
    (hp : f.inputs[k]? = some p) (hindexed : p.isIndexed = false) :
    f.dataInputs[dataPlace f.inputs k]? = some p :=
  getElem?_filter_countP hp (by rw [hindexed]; rfl)

namespace DecodedEvent

/-- The event is one of the fragments, a named event that is not anonymous. The log's first topic is
    the hash of its signature, and its other topics are as many as the indexed inputs. -/
structure BelongsTo (e : DecodedEvent) (fragments : List Fragment) (log : RawLog) : Prop where
  mem : e.fragment ∈ fragments
  isEvent : e.fragment.isEvent = true
  not_anonymous : e.fragment.anonymous ≠ some true
  name : e.fragment.name? = some e.name
  signature : Keccak.keccak256Hex (signatureText e.name e.fragment.inputs) = e.signature
  firstTopic : log.firstTopic? = some e.signature
  topics : log.topics.length = e.fragment.indexedCount + 1

/-- There is one argument for each input: that of an indexed one is the value of its topic, and
    those of the others are the values of the data in order, or `null` where there is none. -/
structure ReadFrom (e : DecodedEvent) (log : RawLog) : Prop where
  length : e.args.length = e.fragment.inputs.length
  indexed : ∀ k p, e.fragment.inputs[k]? = some p → p.isIndexed = true →
    ∃ topic v, log.topics[topicPlace e.fragment.inputs k + 1]? = some topic ∧
      EventDecoder.topicValue p topic = .ok v ∧ e.args[k]? = some v
  data : ∃ values, EventDecoder.dataValues e.fragment.dataInputs log.data = .ok values ∧
    ∀ k p, e.fragment.inputs[k]? = some p → p.isIndexed = false →
      e.args[k]? = some (values[dataPlace e.fragment.inputs k]?.getD .null)

variable {e e' : DecodedEvent} {log log' : RawLog}

/-- The argument of an indexed input depends on its topic alone, those of the others on the data. -/
theorem ReadFrom.getElem?_args_eq (h : e.ReadFrom log) (h' : e'.ReadFrom log')
    (hfragment : e'.fragment = e.fragment) {k : ℕ} {p : Param}
    (hp : e.fragment.inputs[k]? = some p)
    (hsame : if p.isIndexed then
        log'.topics[topicPlace e.fragment.inputs k + 1]? =
          log.topics[topicPlace e.fragment.inputs k + 1]?
      else log'.data = log.data) : e'.args[k]? = e.args[k]? := by
  split_ifs at hsame with hindexed
  · obtain ⟨topic, v, htopic, hv, harg⟩ := h.indexed k p hp hindexed
    obtain ⟨topic', v', htopic', hv', harg'⟩ := h'.indexed k p (by rw [hfragment, hp]) hindexed
    rw [hfragment, hsame, htopic] at htopic'
    obtain rfl := Option.some.inj htopic'
    obtain rfl := Except.ok.inj (hv.symm.trans hv')
    rw [harg, harg']
  · rw [Bool.not_eq_true] at hindexed
    obtain ⟨values, hvalues, hargs⟩ := h.data
    obtain ⟨values', hvalues', hargs'⟩ := h'.data
    rw [hfragment, hsame] at hvalues'
    obtain rfl := Except.ok.inj (hvalues.symm.trans hvalues')
    rw [hargs k p hp hindexed, hargs' k p (by rw [hfragment, hp]) hindexed, hfragment]

/-- No argument is null exactly if data has a value for each input that is not indexed. -/
theorem ReadFrom.forall_ne_null_iff (h : e.ReadFrom log) :
    (∀ v ∈ e.args, v ≠ .null) ↔ e.fragment.ReadsData := by
  obtain ⟨values, hvalues, hargs⟩ := h.data
  obtain ⟨hnonnull, hcount⟩ := EventDecoder.dataValues_eq_ok hvalues
  constructor
  · intro hall
    by_contra hreads
    -- without any value, the first input that is not indexed has the argument `null`
    obtain ⟨habsurd, -⟩ | ⟨-, rfl, hne⟩ := hcount
    · exact hreads habsurd
    obtain ⟨p, hp⟩ := List.exists_mem_of_ne_nil _ hne
    obtain ⟨hmem, hindexed⟩ := List.mem_filter.mp hp
    rw [Bool.not_eq_true'] at hindexed
    obtain ⟨k, hk⟩ := List.mem_iff_getElem?.mp hmem
    exact hall .null (List.mem_of_getElem? (hargs k p hk hindexed)) rfl
  · intro hreads v hv
    obtain ⟨-, hlength⟩ | ⟨habsurd, -⟩ := hcount
    · obtain ⟨k, hk⟩ := List.mem_iff_getElem?.mp hv
      have hinput : k < e.fragment.inputs.length :=
        h.length ▸ (List.getElem?_eq_some_iff.mp hk).1
      have hp := List.getElem?_eq_getElem hinput
      cases hindexed : (e.fragment.inputs[k]).isIndexed with
      | true =>
        obtain ⟨topic, w, -, hw, harg⟩ := h.indexed k _ hp hindexed
        obtain rfl := Option.some.inj (hk.symm.trans harg)
        exact EventDecoder.topicValue_ne_null hw
      | false =>
        have hplace := Fragment.getElem?_dataInputs hp hindexed
        have hvalue : dataPlace e.fragment.inputs k < values.length :=
          hlength ▸ (List.getElem?_eq_some_iff.mp hplace).1
        rw [hargs k _ hp hindexed, List.getElem?_eq_getElem hvalue, Option.getD_some,
          Option.some.injEq] at hk
        exact hk ▸ hnonnull _ (List.getElem_mem hvalue)
    · exact absurd hreads habsurd

end DecodedEvent

namespace EventDecoder

/-- What is found for a log fits its topics and is one of the fragments. -/
theorem belongsTo_of_findEvent {fragments : List Fragment} {log : RawLog} {k : KnownEvent}
    (h : ((ofFragments fragments).findEvent log.topics).value = some k) (args : List Value) :
    (DecodedEvent.mk k.name k.hash k.fragment args).BelongsTo fragments log := by
  obtain ⟨topic, further, f, name, htopics, hfits, hf, hev, hanon, hname, rfl⟩ :=
    exists_of_findEvent (SignatureTable.faithful_ofFragments fragments) h
  obtain ⟨hhash, hcount⟩ := fits_iff.mp hfits
  have hfirst : log.firstTopic? = some (RawLog.plainTopic topic) := by
    rw [RawLog.firstTopic?, htopics]
    rfl
  exact {
    mem := hf
    isEvent := hev
    not_anonymous := hanon
    name := hname
    signature := rfl
    firstTopic := hfirst.trans (congrArg some hhash.symm)
    topics := by rw [htopics, List.length_cons, ← hcount] }

/-- Arguments are read from the topics behind the first one and from the data. -/
theorem readFrom_of_eventArgs {log : RawLog} {f : Fragment} {args : List Value}
    (h : eventArgs f log.topics.tail log.data = .ok args) (name signature : String) :
    (DecodedEvent.mk name signature f args).ReadFrom log := by
  obtain ⟨values, hvalues, hmerge⟩ := bind_eq_ok_iff.mp h
  refine ⟨length_mergeArgs hmerge, ?_, values, hvalues, ?_⟩
  · intro k p hp hindexed
    have hk := mergeArgs_getElem? hmerge hp
    rw [if_pos hindexed] at hk
    obtain ⟨topic, v, htopic, hv, harg⟩ := hk
    exact ⟨topic, v, by rw [← List.getElem?_tail, htopic], hv, harg⟩
  · intro k p hp hindexed
    have hk := mergeArgs_getElem? hmerge hp
    rwa [if_neg (by rw [hindexed]; decide)] at hk

/-- An event that a log is decoded to belongs to it and is read from it. No argument is null exactly
    if data has a value for each input that is not indexed. In another log that is decoded to the
    same fragment, an argument is the same if its topic is the same or, for an input that is not
    indexed, the data. For a log with an event no topic is missing, and no value is if data has all
    of them. -/
theorem decodeLog_event (fragments : List Fragment) (log : RawLog) :
    (∀ e, ((ofFragments fragments).decodeLog log).value.event = some e →
      e.BelongsTo fragments log ∧ e.ReadFrom log ∧
        ((∀ v ∈ e.args, v ≠ .null) ↔ e.fragment.ReadsData) ∧
        ∀ fragments' log' e', ((ofFragments fragments').decodeLog log').value.event = some e' →
          e'.fragment = e.fragment → ∀ k p, e.fragment.inputs[k]? = some p →
            (if p.isIndexed then log'.topics[topicPlace e.fragment.inputs k + 1]? =
                log.topics[topicPlace e.fragment.inputs k + 1]?
              else log'.data = log.data) → e'.args[k]? = e.args[k]?) ∧
      ∀ k, ((ofFragments fragments).findEvent log.topics).value = some k →
        (∀ name, eventArgs k.fragment log.topics.tail log.data ≠ .error (.topicMissing name)) ∧
        ∀ values, k.fragment.ReadsData → dataValues k.fragment.dataInputs log.data = .ok values →
          values.length = k.fragment.dataInputs.length := by
  have hread {fragments : List Fragment} {log : RawLog} {e : DecodedEvent}
      (he : ((ofFragments fragments).decodeLog log).value.event = some e) : e.ReadFrom log := by
    obtain ⟨k, args, -, hargs, rfl⟩ := decodeLog_event_eq_some he
    exact readFrom_of_eventArgs hargs k.name k.hash
  constructor
  · intro e he
    refine ⟨?_, hread he, (hread he).forall_ne_null_iff, ?_⟩
    · obtain ⟨k, args, hfind, -, rfl⟩ := decodeLog_event_eq_some he
      exact belongsTo_of_findEvent hfind args
    · intro fragments' log' e' he' hfragment k p hp hsame
      exact (hread he).getElem?_args_eq (hread he') hfragment hp hsame
  · intro k hfind
    refine ⟨?_, ?_⟩
    · have htopics := (belongsTo_of_findEvent hfind []).topics
      exact eventArgs_ne_topicMissing (by rw [List.length_tail, htopics]; rfl) log.data
    · intro values hreads hvalues
      obtain ⟨-, ⟨-, hlength⟩ | ⟨habsurd, -⟩⟩ := dataValues_eq_ok hvalues
      · exact hlength
      · exact absurd hreads habsurd

/-- A payment with an indexed payer. -/
def payment : Fragment :=
  .ofEvent "Payment" [.ofEvent "payer" "address" true, .ofEvent "amount" "uint256" false]

/-- The log of a payment. -/
def paymentLog (payer : List UInt8) (amount : ℕ) : RawLog :=
  eventLog "Payment" payment [Hex.encodePrefixed (Datum.address payer).encode]
    (Hex.encodePrefixed (Datum.encodeParams [.uint amount 256]))

theorem readsData_payment : payment.ReadsData := by
  intro types htypes
  obtain rfl : types = [.uint 256] := (Except.ok.inj htypes).symm
  exact AbiType.readsAll_iff.mpr (Or.inr rfl)

theorem findEvent_paymentLog (payer : List UInt8) (amount : ℕ) :
    ((ofFragments [payment]).findEvent (paymentLog payer amount).topics).value =
      some ⟨payment, "Payment", Keccak.keccak256Hex (signatureText "Payment" payment.inputs), 1⟩ :=
  findEvent_eventLog rfl (by decide) rfl rfl _

theorem decodeLog_paymentLog (payer : List UInt8) (amount : ℕ) (hpayer : payer.length = 20)
    (hamount : amount < 2 ^ 256) :
    ((ofFragments [payment]).decodeLog (paymentLog payer amount)).value.event =
      some ⟨"Payment", Keccak.keccak256Hex (signatureText "Payment" payment.inputs), payment,
        [.ofAddressBytes payer, .ofNat amount]⟩ := by
  have hpayerType : paramType (.ofEvent "payer" "address" true) = .ok .address := rfl
  have hamountType : paramType (.ofEvent "amount" "uint256" false) = .ok (.uint 256) := rfl
  have hencodes : Encodes payment.inputs [Hex.encodePrefixed (Datum.address payer).encode]
      [.uint 256] [.uint amount 256] [.value (.address payer), .value (.uint amount 256)] :=
    .word rfl hpayerType rfl (.address hpayer) (decodeHex_encodePrefixed _) <|
      .data rfl hamountType .nil
  have hdata : Datum.encodeParams [.uint amount 256] = wordOfNat amount := by
    simp [Datum.encodeParams, Datum.encode, Datum.encodeParts, Datum.isDynamic]
  have hinverse : AbiType.decodeParams [.uint 256] (Datum.encodeParams [.uint amount 256]) =
      .ok [.uint amount 256] :=
    decodeParams_encodeParams (.cons (.uint le_rfl hamount) .nil) rfl (by decide) rfl
      (by rw [hdata, length_wordOfNat]; norm_num)
  rw [decodeLog_of_mergeArgs (findEvent_paymentLog payer amount)
    (dataValues_of_encodes hencodes (decodeHex_encodePrefixed _) hinverse)
    (mergeArgs_of_encodes hencodes)]
  rfl

/-- The logs of two payments of the same amount are decoded to arguments that agree in it. -/
theorem decodeLog_event_payment :
    ∃ (log log' : RawLog) (e e' : DecodedEvent) (k : KnownEvent) (values : List Value),
      ((ofFragments [payment]).decodeLog log).value.event = some e ∧
      ((ofFragments [payment]).decodeLog log').value.event = some e' ∧
      ((ofFragments [payment]).findEvent log.topics).value = some k ∧
      dataValues k.fragment.dataInputs log.data = .ok values ∧
      e.BelongsTo [payment] log ∧ e.ReadFrom log ∧ e.fragment.ReadsData ∧
      (∀ v ∈ e.args, v ≠ .null) ∧ e'.args[0]? ≠ e.args[0]? ∧ e'.args[1]? = e.args[1]? ∧
      (∀ name, eventArgs k.fragment log.topics.tail log.data ≠ .error (.topicMissing name)) ∧
      values.length = 1 := by
  have he := decodeLog_paymentLog (List.replicate 20 0x11) 5 rfl (by norm_num)
  have he' := decodeLog_paymentLog (List.replicate 20 0x22) 5 rfl (by norm_num)
  have hfind := findEvent_paymentLog (List.replicate 20 0x11) 5
  obtain ⟨hevent, hfound⟩ := decodeLog_event [payment] (paymentLog (List.replicate 20 0x11) 5)
  obtain ⟨hbelongs, hread, hnull, hsame⟩ := hevent _ he
  obtain ⟨hmissing, hcount⟩ := hfound _ hfind
  obtain ⟨values, hvalues, -⟩ := hread.data
  have hpayers : Value.ofAddressBytes (List.replicate 20 0x22) ≠
      .ofAddressBytes (List.replicate 20 0x11) := by
    rw [Value.ofAddressBytes, Value.ofAddressBytes, ne_eq, Value.address.injEq]
    decide +kernel
  have hamount : payment.inputs[1]? = some (.ofEvent "amount" "uint256" false) := rfl
  have hplain : (Param.ofEvent "amount" "uint256" false).isIndexed = false := rfl
  have hargs := hsame [payment] _ _ he' rfl 1 _ hamount (by rw [hplain]; rfl)
  exact ⟨_, _, _, _, _, values, he, he', hfind, hvalues, hbelongs, hread, readsData_payment,
    hnull.mpr readsData_payment, by simpa using hpayers, hargs, hmissing,
    hcount values readsData_payment hvalues⟩

end EventDecoder

end ContractLens
