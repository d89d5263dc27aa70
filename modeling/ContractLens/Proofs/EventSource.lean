import ContractLens.Bridge.Legacy
import ContractLens.Proofs.EventAddresses

/-!
# Carried and misread addresses

A log carries an address if the value that it holds for an input of type `address` is that address,
or if it is in the list that it holds for an input of type `address[]`. Almost all addresses that
are reported are carried. The others are misread: parts of the topic of an indexed list, and a field
of a legacy event that is taken for the sender when the sender's topic is missing.

* `EventSource.Carries`, `EventSource.Misreads`: the two kinds of addresses that are reported.
* `mem_ofArgs_standard_iff`, `mem_ofArgs_legacy_iff`: nothing else is reported.
-/

namespace ContractLens

open Abi

/-! ## Where events come from -/

/-- The value that the topics behind the first one and the data hold for the input at a place. -/
def Bridge.LegacyEvent.inputValue? (e : LegacyEvent) (topics : List String) (data : String)
    (k : ℕ) : Option Value := do
  let (p, reading) ← e.inputs[k]?
  let raw ← if p.isIndexed then do
      let topic ← topics[topicPlace e.fragment.inputs k]?
      (decodeHex topic).toOption
    else do
      let fields ← (e.layout.fields data).toOption
      fields[dataPlace e.fragment.inputs k]?
  return (inputValue p reading raw).value

/-- An event by which a log is decoded: of an interface description or a legacy one. -/
inductive EventSource where
  | standard (f : Fragment)
  | legacy (e : Bridge.LegacyEvent)

namespace EventSource

open EventAddresses

/-- The fragment of the event. -/
def fragment : EventSource → Fragment
  | standard f => f
  | legacy e => e.fragment

/-- The value that a log holds for the input at a place. -/
def inputValue? : EventSource → RawLog → ℕ → Option Value
  | standard f, log => EventDecoder.inputValue? f log.topics.tail log.data
  | legacy e, log => e.inputValue? log.topics.tail log.data

/-- The log carries the address for an input of the event. -/
def Carries (source : EventSource) (log : RawLog) (a : String) : Prop :=
  ∃ (k : ℕ) (p : Param) (v : Value), source.fragment.inputs[k]? = some p ∧
    source.inputValue? log k = some v ∧ Holds p.type v a

/-- The address is made of bytes that are none: a block of the topic of an indexed list or, where
    the topic of a sender is missing, the first field of a signature that is not empty. -/
def Misreads : EventSource → RawLog → String → Prop
  | standard f, log, a =>
    ∃ (k : ℕ) (p : Param) (topic : String) (raw : List UInt8), f.inputs[k]? = some p ∧
      p.isIndexed = true ∧ p.type = "address[]" ∧
      log.topics.tail[topicPlace f.inputs k]? = some topic ∧ decodeHex topic = .ok raw ∧
      IsBlockOf raw a
  | legacy e, log, a =>
    e.name = "add_signature" ∧ log.topics.tail = [] ∧
      ∃ fields raw, e.layout.fields log.data = .ok fields ∧
        (fields.take 2).find? (fun field => !field.isEmpty) = some raw ∧ raw.length = 20 ∧
        a = Hex.encodePrefixed raw

/-- What is reported for one input of an event of an interface description. -/
theorem mem_ofArg_inputValue?_iff {f : Fragment} {topics : List String} {data : String} {k : ℕ}
    {p : Param} {v : Value} (hp : f.inputs[k]? = some p)
    (hv : EventDecoder.inputValue? f topics data k = some v) {a : String} :
    a ∈ ofArg p.type v ↔ Holds p.type v a ∨
      (p.isIndexed = true ∧ p.type = "address[]" ∧ ∃ topic raw,
        topics[topicPlace f.inputs k]? = some topic ∧ decodeHex topic = .ok raw ∧
          v = .bytes raw ∧ IsBlockOf raw a) := by
  constructor
  · intro ha
    rcases isAddressType_of_mem_ofArg _ _ ha with htype | htype
    · obtain ⟨hex, rfl⟩ := EventDecoder.inputValue?_address hp htype hv
      rw [htype] at ha ⊢
      exact Or.inl (holds_address_iff.mp ha)
    · have hform := EventDecoder.inputValue?_addressList hp htype hv
      rw [htype] at ha ⊢
      split_ifs at hform with hindexed
      · obtain ⟨topic, raw, htopic, hraw, rfl⟩ := hform
        exact Or.inr ⟨hindexed, rfl, topic, raw, htopic, hraw, rfl, mem_ofArg_bytes_iff.mp ha⟩
      · obtain ⟨items, rfl, hitems⟩ := hform
        exact Or.inl ((holds_array_iff hitems).mp ha)
  · rintro (hholds | ⟨-, htype, topic, raw, -, -, rfl, hblock⟩)
    · exact hholds.mem_ofArg
    · rw [htype]
      exact mem_ofArg_bytes_iff.mpr hblock

/-- The addresses of an event of an interface description. -/
theorem mem_ofArgs_standard_iff {f : Fragment} {log : RawLog} {args : List Value}
    (h : EventDecoder.eventArgs f log.topics.tail log.data = .ok args) {a : String} :
    a ∈ ofArgs f args ↔ (standard f).Carries log a ∨ (standard f).Misreads log a := by
  rw [mem_ofArgs_iff]
  constructor
  · rintro ⟨k, p, v, hp, harg, ha⟩
    rw [EventDecoder.eventArgs_getElem? h hp, Option.some.injEq] at harg
    cases hv : EventDecoder.inputValue? f log.topics.tail log.data k with
    | none =>
      -- the argument is `null`, of which nothing is reported
      rw [hv] at harg
      rw [← harg, Option.getD_none, ofArg_null] at ha
      exact absurd ha List.not_mem_nil
    | some w =>
      rw [hv] at harg
      obtain rfl : w = v := harg
      rcases (mem_ofArg_inputValue?_iff hp hv).mp ha with
        hholds | ⟨hindexed, htype, topic, raw, htopic, hraw, -, hblock⟩
      · exact Or.inl ⟨k, p, w, hp, hv, hholds⟩
      · exact Or.inr ⟨k, p, topic, raw, hp, hindexed, htype, htopic, hraw, hblock⟩
  · rintro (⟨k, p, v, hp, hv, hholds⟩ | ⟨k, p, topic, raw, hp, hindexed, htype, htopic, hraw, ha⟩)
    · refine ⟨k, p, v, hp, ?_, hholds.mem_ofArg⟩
      rw [EventDecoder.eventArgs_getElem? h hp, show EventDecoder.inputValue? f _ _ k = _ from hv]
      rfl
    · refine ⟨k, p, .bytes raw, hp, ?_, htype ▸ mem_ofArg_bytes_iff.mpr ha⟩
      rw [EventDecoder.eventArgs_getElem? h hp, EventDecoder.inputValue?]
      simp [hp, hindexed, htopic, EventDecoder.topicValue_addressList htype, hraw, Except.map,
        Except.toOption]

/-- Whatever a log carries is for an input of type `address`, or for a list that is not indexed. -/
theorem Carries.exists_input {f : Fragment} {log : RawLog} {a : String}
    (h : (standard f).Carries log a) :
    ∃ p ∈ f.inputs, p.type = "address" ∨ (p.type = "address[]" ∧ p.isIndexed = false) := by
  obtain ⟨k, p, v, hp, hv, hholds⟩ := h
  refine ⟨p, List.mem_of_getElem? hp, ?_⟩
  rcases hholds with ⟨htype, -⟩ | ⟨htype, items, rfl, -⟩
  · exact Or.inl htype
  · refine Or.inr ⟨htype, ?_⟩
    have hform := EventDecoder.inputValue?_addressList hp htype hv
    by_contra hindexed
    rw [if_pos (by simpa using hindexed)] at hform
    obtain ⟨topic, raw, -, -, hbytes⟩ := hform
    cases hbytes

/-- Only a list that is indexed is misread. -/
theorem Misreads.exists_input {f : Fragment} {log : RawLog} {a : String}
    (h : (standard f).Misreads log a) :
    ∃ p ∈ f.inputs, p.type = "address[]" ∧ p.isIndexed = true := by
  obtain ⟨k, p, topic, raw, hp, hindexed, htype, -⟩ := h
  exact ⟨p, List.mem_of_getElem? hp, htype, hindexed⟩

/-! ## Legacy events -/

/-- Where only the first input may be reported, the first value decides. -/
theorem exists_place_iff_head {inputs : List Param} {p : Param}
    (hrest : ∀ q ∈ inputs, ¬ IsAddressType q.type) {value? : ℕ → Option Value}
    {S : String → Value → Prop} (hS : ∀ type v, S type v → IsAddressType type) :
    (∃ (k : ℕ) (q : Param) (v : Value), (p :: inputs)[k]? = some q ∧ value? k = some v ∧
        S q.type v) ↔
      ∃ v, value? 0 = some v ∧ S p.type v := by
  constructor
  · rintro ⟨k, q, v, hq, hv, hsv⟩
    cases k with
    | zero =>
      obtain rfl := Option.some.inj hq
      exact ⟨v, hv, hsv⟩
    | succ k =>
      rw [List.getElem?_cons_succ] at hq
      exact absurd (hS _ _ hsv) (hrest q (List.mem_of_getElem? hq))
  · rintro ⟨v, hv, hsv⟩
    exact ⟨0, p, v, rfl, hv, hsv⟩

/-- An event without inputs of these types has no addresses. -/
theorem mem_ofArgs_iff_carries_of_none (source : EventSource)
    (h : ∀ q ∈ source.fragment.inputs, ¬ IsAddressType q.type) (log : RawLog) {args : List Value}
    {a : String} : a ∈ ofArgs source.fragment args ↔ source.Carries log a := by
  rw [mem_ofArgs_iff]
  constructor
  · rintro ⟨k, p, v, hp, -, ha⟩
    exact absurd (isAddressType_of_mem_ofArg _ _ ha) (h p (List.mem_of_getElem? hp))
  · rintro ⟨k, p, v, hp, -, hholds⟩
    exact absurd hholds.isAddressType (h p (List.mem_of_getElem? hp))

/-- A sender's value is an address. -/
theorem inputValue_sender {p : Param} (h : p.type = "address") (raw : List UInt8) :
    (Bridge.inputValue p .plain raw).value = .ofAddressBytes (Bridge.addressBytes raw) := by
  simp [Bridge.inputValue, Bridge.FieldReading.apply, Bridge.coerce, h]

/-- If only the first input is an address and the first argument is its value, all is carried. -/
theorem mem_ofArgs_iff_carries_of_head (source : EventSource) {p : Param} {inputs : List Param}
    (hinputs : source.fragment.inputs = p :: inputs) (hp : p.type = "address")
    (hrest : ∀ q ∈ inputs, ¬ IsAddressType q.type) {log : RawLog} {args : List Value}
    (hhead : args[0]? = source.inputValue? log 0)
    (hform : ∀ v, args[0]? = some v → ∃ hex, v = .address hex) {a : String} :
    a ∈ ofArgs source.fragment args ↔ source.Carries log a := by
  rw [mem_ofArgs_iff, Carries, hinputs,
    exists_place_iff_head hrest (S := fun type v => a ∈ ofArg type v) isAddressType_of_mem_ofArg,
    exists_place_iff_head hrest (S := fun type v => Holds type v a) fun _ _ => Holds.isAddressType,
    ← hhead, hp]
  refine exists_congr fun v => and_congr_right fun hv => ?_
  obtain ⟨hex, rfl⟩ := hform v hv
  exact holds_address_iff

/-- The first input takes the first topic if it is indexed, and the first field if not. Without one
    it has no argument, and neither has it for an empty value in the data. -/
theorem legacyArgs_cons_eq_ok {p : Param} {reading : Bridge.FieldReading}
    {inputs : List (Param × Bridge.FieldReading)} {topics : List String}
    {fields : List (List UInt8)} {args : List Value}
    (h : (Bridge.legacyArgs ((p, reading) :: inputs) topics fields).value = .ok args) :
    if p.isIndexed then
      (topics = [] ∧ (Bridge.legacyArgs inputs [] fields).value = .ok args) ∨
        ∃ topic rest raw vs, topics = topic :: rest ∧ decodeHex topic = .ok raw ∧
          (Bridge.legacyArgs inputs rest fields).value = .ok vs ∧
          args = (Bridge.inputValue p reading raw).value :: vs
    else
      (fields = [] ∧ (Bridge.legacyArgs inputs topics []).value = .ok args) ∨
        ∃ raw rest vs, fields = raw :: rest ∧
          (Bridge.legacyArgs inputs topics rest).value = .ok vs ∧
          args = if (Bridge.inputValue p reading raw).value.isEmpty then vs
            else (Bridge.inputValue p reading raw).value :: vs := by
  rw [Bridge.legacyArgs.eq_def] at h
  split_ifs with hp
  · simp only [hp, if_true] at h
    cases topics with
    | nil => exact Or.inl ⟨rfl, h⟩
    | cons topic rest =>
      cases hraw : decodeHex topic with
      | error e =>
        simp only [hraw] at h
        cases h
      | ok raw =>
        simp only [hraw] at h
        obtain ⟨vs, hvs, rfl⟩ := map_eq_ok_iff.mp h
        exact Or.inr ⟨topic, rest, raw, vs, rfl, hraw, hvs, rfl⟩
  · simp only [hp] at h
    cases fields with
    | nil => exact Or.inl ⟨rfl, h⟩
    | cons raw rest =>
      obtain ⟨vs, hvs, rfl⟩ := map_eq_ok_iff.mp h
      exact Or.inr ⟨raw, rest, vs, rfl, hvs, rfl⟩

/-- The first input has the first topic if it is indexed, and the first field if not. -/
theorem legacy_inputValue?_zero {e : Bridge.LegacyEvent} {p : Param}
    {reading : Bridge.FieldReading} {inputs : List (Param × Bridge.FieldReading)}
    (he : e.inputs = (p, reading) :: inputs) {topics : List String} {data : String}
    {fields : List (List UInt8)} (hfields : e.layout.fields data = .ok fields) :
    e.inputValue? topics data 0 =
      (if p.isIndexed then topics[0]?.bind fun topic => (decodeHex topic).toOption
        else fields[0]?).map fun raw => (Bridge.inputValue p reading raw).value := by
  rw [Bridge.LegacyEvent.inputValue?, he, hfields]
  simp only [Option.bind_eq_bind, Option.bind_some, List.getElem?_cons_zero, topicPlace, dataPlace,
    List.take_zero, List.countP_nil]
  split_ifs
  · cases topics[0]? with
    | none => rfl
    | some topic => cases h : decodeHex topic <;> simp [Except.toOption, h]
  · cases h : fields[0]? <;> simp [Except.toOption, h]

/-- The event whose only input is a sender. -/
def updateCollections : Bridge.LegacyEvent :=
  ⟨"update_collections", .flat, [(.plain "sender" "address", .plain)]⟩

/-- The event of a signature, with its sender in a topic. -/
def addSignature : Bridge.LegacyEvent :=
  ⟨"add_signature", .flat, [(.ofEvent "sender" "address" true, .plain),
    (.plain "releaseRskTxHash" "bytes32", .plain), (.plain "executorPublicKey" "bytes", .plain)]⟩

/-- All other legacy events are without addresses. -/
theorem mem_legacyEvents {network : Network} {e : Bridge.LegacyEvent}
    (he : e ∈ Bridge.legacyEvents network) :
    e = updateCollections ∨ e = addSignature ∨
      e.name ≠ "add_signature" ∧ ∀ q ∈ e.fragment.inputs, ¬ IsAddressType q.type := by
  simp only [Bridge.legacyEvents, List.mem_cons, List.not_mem_nil, or_false] at he
  rcases he with rfl | rfl | rfl | rfl
  · exact Or.inl rfl
  · exact Or.inr (Or.inr (by decide))
  · exact Or.inr (Or.inl rfl)
  · refine Or.inr (Or.inr ⟨show "commit_federation" ≠ "add_signature" by decide, ?_⟩)
    simp [Bridge.LegacyEvent.fragment, Fragment.ofEvent, IsAddressType, Param.plain, Param.type]

section Sender

variable {log : RawLog} {args : List Value} {a : String}

theorem mem_ofArgs_updateCollections
    (h : (updateCollections.args log.topics.tail log.data).value = .ok args) :
    a ∈ ofArgs updateCollections.fragment args ↔ (legacy updateCollections).Carries log a := by
  unfold Bridge.LegacyEvent.args at h
  split at h
  · cases h
  next fields hfields =>
  have hsender (raw : List UInt8) := inputValue_sender (p := .plain "sender" "address") rfl raw
  have hargs : args[0]? = fields[0]?.map fun raw =>
      (Bridge.inputValue (.plain "sender" "address") .plain raw).value := by
    rcases legacyArgs_cons_eq_ok h with ⟨rfl, h⟩ | ⟨raw, rest, vs, rfl, -, rfl⟩
    · cases h
      rfl
    · rw [hsender]
      simp [hsender, Value.ofAddressBytes, Value.isEmpty]
  refine mem_ofArgs_iff_carries_of_head (legacy _) rfl rfl (by simp) ?_ ?_
  · rw [hargs]
    exact (legacy_inputValue?_zero rfl hfields).symm
  · intro v hv
    rw [hargs, Option.map_eq_some_iff] at hv
    obtain ⟨raw, -, rfl⟩ := hv
    exact ⟨_, hsender raw⟩

/-- With the topic of its sender, a signature has the sender as its address. -/
theorem mem_ofArgs_addSignature_of_topic (htopic : log.topics.tail ≠ [])
    (h : (addSignature.args log.topics.tail log.data).value = .ok args) :
    a ∈ ofArgs addSignature.fragment args ↔ (legacy addSignature).Carries log a := by
  unfold Bridge.LegacyEvent.args at h
  split at h
  · cases h
  next fields hfields =>
  have hsender (raw : List UInt8) :=
    inputValue_sender (p := .ofEvent "sender" "address" true) rfl raw
  rcases legacyArgs_cons_eq_ok h with ⟨hnil, -⟩ | ⟨topic, rest, raw, vs, hcons, hraw, -, rfl⟩
  · exact absurd hnil htopic
  refine mem_ofArgs_iff_carries_of_head (legacy _) rfl rfl (by decide) ?_ ?_
  · refine Eq.trans ?_ (legacy_inputValue?_zero rfl hfields).symm
    rw [hcons]
    simp [Param.isIndexed, Param.indexed, Param.ofEvent, hraw, Except.toOption]
  · intro v hv
    obtain rfl := Option.some.inj hv
    exact ⟨_, hsender raw⟩

/-- A field of these types keeps its bytes, and has no argument if there are none. -/
theorem legacyArgs_cons_bytes {p : Param} (hindexed : p.isIndexed = false)
    (hp : p.type = "bytes32" ∨ p.type = "bytes") {inputs : List (Param × Bridge.FieldReading)}
    {topics : List String} {fields : List (List UInt8)}
    (h : (Bridge.legacyArgs ((p, .plain) :: inputs) topics fields).value = .ok args) :
    ∃ vs, (Bridge.legacyArgs inputs topics fields.tail).value = .ok vs ∧
      args = ((fields.head?.filter fun raw => !raw.isEmpty).map .bytes).toList ++ vs := by
  have hvalue (raw : List UInt8) : (Bridge.inputValue p .plain raw).value = .bytes raw := by
    rcases hp with hp | hp <;>
      simp [Bridge.inputValue, Bridge.FieldReading.apply, Bridge.coerce, hp]
  have hstep := legacyArgs_cons_eq_ok h
  rw [if_neg (by simp [hindexed])] at hstep
  rcases hstep with ⟨rfl, hvs⟩ | ⟨raw, rest, vs, rfl, hvs, rfl⟩
  · exact ⟨args, hvs, rfl⟩
  · refine ⟨vs, hvs, ?_⟩
    rw [hvalue]
    cases raw <;> rfl

/-- Without the topic of its sender, a signature has its first field that is not empty as its first
    argument. -/
theorem addSignature_args_of_noTopic {data : String} {fields : List (List UInt8)}
    (hfields : addSignature.layout.fields data = .ok fields)
    (h : (addSignature.args [] data).value = .ok args) :
    args[0]? = ((fields.take 2).find? fun raw => !raw.isEmpty).map .bytes := by
  rw [Bridge.LegacyEvent.args, hfields] at h
  rcases legacyArgs_cons_eq_ok h with ⟨-, h⟩ | ⟨topic, rest, raw, vs, hcons, -⟩
  · -- the sender has no argument, so those of the two fields move up to its place
    obtain ⟨vs, hvs, rfl⟩ := legacyArgs_cons_bytes rfl (Or.inl rfl) h
    obtain ⟨ws, hws, rfl⟩ := legacyArgs_cons_bytes rfl (Or.inr rfl) hvs
    cases hws
    rcases fields with _ | ⟨_ | ⟨b, raw⟩, _ | ⟨_ | ⟨c, raw'⟩, fields⟩⟩ <;> rfl
  · cases hcons

/-- Bytes are an address if there are twenty of them. -/
theorem mem_ofArg_address_bytes_iff {raw : List UInt8} :
    a ∈ ofArg "address" (.bytes raw) ↔ raw.length = 20 ∧ a = Hex.encodePrefixed raw := by
  show a ∈ (ofValue? (.bytes raw)).toList ↔ _
  rw [ofValue?]
  split_ifs with hlength
  · simp [hlength]
  · simp [hlength]

/-- Without it, the first field that is not empty is its address if it has twenty bytes. -/
theorem mem_ofArgs_addSignature_of_noTopic (htopic : log.topics.tail = [])
    (h : (addSignature.args log.topics.tail log.data).value = .ok args) :
    a ∈ ofArgs addSignature.fragment args ↔
      (legacy addSignature).Carries log a ∨ (legacy addSignature).Misreads log a := by
  have hrest : ∀ q ∈ [Param.plain "releaseRskTxHash" "bytes32",
      Param.plain "executorPublicKey" "bytes"], ¬ IsAddressType q.type := by decide
  cases hfields : addSignature.layout.fields log.data with
  | error e =>
    rw [Bridge.LegacyEvent.args, hfields] at h
    cases h
  | ok fields =>
    have hnot : ¬ (legacy addSignature).Carries log a := by
      -- only the sender is an address, and it has no value
      intro hcarries
      obtain ⟨v, hv, -⟩ := (exists_place_iff_head (S := fun type v => Holds type v a) hrest
        fun _ _ => Holds.isAddressType).mp hcarries
      rw [inputValue?, htopic, legacy_inputValue?_zero rfl hfields] at hv
      cases hv
    rw [htopic] at h
    rw [or_iff_right hnot, mem_ofArgs_iff]
    refine (exists_place_iff_head (S := fun type v => a ∈ ofArg type v) hrest
      isAddressType_of_mem_ofArg).trans ?_
    rw [addSignature_args_of_noTopic hfields h]
    constructor
    · rintro ⟨v, hv, ha⟩
      obtain ⟨raw, hraw, rfl⟩ := Option.map_eq_some_iff.mp hv
      obtain ⟨hlength, ha⟩ := mem_ofArg_address_bytes_iff.mp ha
      exact ⟨rfl, htopic, fields, raw, hfields, hraw, hlength, ha⟩
    · rintro ⟨-, -, fields', raw, hfields', hraw, hlength, ha⟩
      obtain rfl := Except.ok.inj (hfields.symm.trans hfields')
      exact ⟨.bytes raw, by rw [hraw]; rfl, mem_ofArg_address_bytes_iff.mpr ⟨hlength, ha⟩⟩

end Sender

/-- The addresses of a legacy event. -/
theorem mem_ofArgs_legacy_iff {network : Network} {e : Bridge.LegacyEvent}
    (he : e ∈ Bridge.legacyEvents network) {log : RawLog} {args : List Value}
    (h : (e.args log.topics.tail log.data).value = .ok args) {a : String} :
    a ∈ ofArgs e.fragment args ↔ (legacy e).Carries log a ∨ (legacy e).Misreads log a := by
  rcases mem_legacyEvents he with rfl | rfl | ⟨hname, hnone⟩
  · rw [mem_ofArgs_updateCollections h]
    exact (or_iff_left fun hm => absurd hm.1 (by decide)).symm
  · by_cases htopic : log.topics.tail = []
    · exact mem_ofArgs_addSignature_of_noTopic htopic h
    · rw [mem_ofArgs_addSignature_of_topic htopic h]
      exact (or_iff_left fun hm => htopic hm.2.1).symm
  · refine (mem_ofArgs_iff_carries_of_none (legacy e) hnone log).trans ?_
    exact (or_iff_left fun hm => hname hm.1).symm

end EventSource

end ContractLens
