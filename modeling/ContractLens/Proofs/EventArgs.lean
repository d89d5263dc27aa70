import ContractLens.EventDecoder
import ContractLens.Proofs.Abi.Decode
import ContractLens.Proofs.Except
import Mathlib.Tactic

/-!
# Arguments of decoded events

An indexed input has its own topic and any other input its own value in the data, which is found by
counting the inputs of the same kind before it. The argument at the place of an input is the value
that is found so.

* `EventDecoder.inputValue?`: the value that a log holds for an input.
* `eventArgs_getElem?`: the argument at the place of an input.
* `inputValue?_address`, `inputValue?_addressList`: its form for `address` and `address[]`.
-/

namespace ContractLens

open Abi

/-! ## Places -/

/-- How many indexed inputs stand before the input at a place. -/
def Abi.topicPlace (inputs : List Param) (k : ℕ) : ℕ := (inputs.take k).countP Param.isIndexed

/-- How many inputs that are not indexed stand before the input at a place. -/
def Abi.dataPlace (inputs : List Param) (k : ℕ) : ℕ :=
  (inputs.take k).countP fun p => !p.isIndexed

/-- The place of a member among the members that are kept. -/
theorem getElem?_filter_countP {α : Type} {q : α → Bool} {l : List α} {k : ℕ} {a : α}
    (h : l[k]? = some a) (ha : q a = true) : (l.filter q)[(l.take k).countP q]? = some a := by
  induction l generalizing k with
  | nil => simp at h
  | cons b l ih =>
    cases k with
    | zero =>
      obtain rfl : b = a := by simpa using h
      simp [ha]
    | succ k =>
      rw [List.getElem?_cons_succ] at h
      rw [List.take_succ_cons]
      by_cases hb : q b = true
      · rw [List.filter_cons_of_pos hb, List.countP_cons_of_pos hb, List.getElem?_cons_succ, ih h]
      · rw [List.filter_cons_of_neg hb, List.countP_cons_of_neg hb, ih h]

theorem Value.ofData_eq_map (ds : List Datum) : Value.ofData ds = ds.map Value.ofDatum := by
  induction ds with
  | nil => rfl
  | cons d ds ih => rw [Value.ofData, ih, List.map_cons]

namespace EventDecoder

/-! ## The value of an input -/

/-- The value that the topics behind the first one and the data hold for the input at a place. -/
def inputValue? (f : Fragment) (topics : List String) (data : String) (k : ℕ) : Option Value := do
  let p ← f.inputs[k]?
  if p.isIndexed then
    let topic ← topics[topicPlace f.inputs k]?
    (topicValue p topic).toOption
  else
    let values ← (dataValues (f.inputs.filter fun p => !p.isIndexed) data).toOption
    values[dataPlace f.inputs k]?

/-- The first input takes the first topic if it is indexed, and the first value if not. -/
theorem mergeArgs_cons_eq_ok {p : Param} {inputs : List Param} {topics : List String}
    {values args : List Value} (h : mergeArgs (p :: inputs) topics values = .ok args) :
    ∃ v vs, args = v :: vs ∧
      if p.isIndexed then
        ∃ topic rest, topics = topic :: rest ∧ topicValue p topic = .ok v ∧
          mergeArgs inputs rest values = .ok vs
      else v = values.head?.getD .null ∧ mergeArgs inputs topics values.tail = .ok vs := by
  rw [mergeArgs.eq_def] at h
  split_ifs with hp
  · simp only [hp, if_true] at h
    cases topics with
    | nil => cases h
    | cons topic rest =>
      obtain ⟨v, hv, h⟩ := bind_eq_ok_iff.mp h
      obtain ⟨vs, hvs, h⟩ := bind_eq_ok_iff.mp h
      cases h
      exact ⟨v, vs, rfl, topic, rest, rfl, hv, hvs⟩
  · simp only [hp] at h
    cases values with
    | nil =>
      obtain ⟨vs, hvs, h⟩ := bind_eq_ok_iff.mp h
      cases h
      exact ⟨_, vs, rfl, rfl, hvs⟩
    | cons v values =>
      obtain ⟨vs, hvs, h⟩ := bind_eq_ok_iff.mp h
      cases h
      exact ⟨v, vs, rfl, rfl, hvs⟩

/-- Arguments are merged by place. -/
theorem mergeArgs_getElem? {inputs : List Param} {topics : List String} {values args : List Value}
    (h : mergeArgs inputs topics values = .ok args) {k : ℕ} {p : Param}
    (hp : inputs[k]? = some p) :
    if p.isIndexed then
      ∃ topic v, topics[topicPlace inputs k]? = some topic ∧ topicValue p topic = .ok v ∧
        args[k]? = some v
    else args[k]? = some (values[dataPlace inputs k]?.getD .null) := by
  induction inputs generalizing topics values args k with
  | nil => simp at hp
  | cons q inputs ih =>
    obtain ⟨v, vs, rfl, hstep⟩ := mergeArgs_cons_eq_ok h
    cases k with
    | zero =>
      obtain rfl : q = p := by simpa using hp
      split_ifs at hstep ⊢
      · obtain ⟨topic, rest, rfl, hv, -⟩ := hstep
        exact ⟨topic, v, rfl, hv, rfl⟩
      · rw [hstep.1, List.head?_eq_getElem?]
        rfl
    | succ k =>
      -- the places behind the first input shift by one in the topics or in the values
      rw [List.getElem?_cons_succ] at hp
      cases hq : q.isIndexed with
      | true =>
        rw [if_pos hq] at hstep
        obtain ⟨topic, rest, rfl, -, hvs⟩ := hstep
        simpa [topicPlace, dataPlace, List.take_succ_cons, hq] using ih hvs hp
      | false =>
        rw [if_neg (by simp [hq])] at hstep
        simpa [topicPlace, dataPlace, List.take_succ_cons, hq] using ih hstep.2 hp

/-- The argument at the place of an input is its value, or `null` if there is none. -/
theorem eventArgs_getElem? {f : Fragment} {topics : List String} {data : String}
    {args : List Value} (h : eventArgs f topics data = .ok args) {k : ℕ} {p : Param}
    (hp : f.inputs[k]? = some p) :
    args[k]? = some ((inputValue? f topics data k).getD .null) := by
  obtain ⟨values, hvalues, h⟩ := bind_eq_ok_iff.mp h
  have hmerge := mergeArgs_getElem? h hp
  split_ifs at hmerge with hindexed
  · obtain ⟨topic, v, htopic, hv, harg⟩ := hmerge
    simp [inputValue?, hp, hindexed, htopic, hv, harg, Except.toOption]
  · simp [inputValue?, hp, hindexed, hvalues, hmerge, Except.toOption]

/-! ## Addresses -/

theorem paramType_of_parse {p : Param} {t : AbiType} (hplain : tupleSuffix? p.type = none)
    (ht : AbiType.parse? p.type = some t) : paramType p = .ok t := by
  obtain ⟨name, type, components, indexed, internalType⟩ := p
  have hcanonical : canonicalType (.mk name type components indexed internalType) = type := by
    rw [canonicalType, show tupleSuffix? type = none from hplain]
  rw [paramType, hcanonical]
  simp only [show AbiType.parse? type = some t from ht]

theorem paramType_address {p : Param} (h : p.type = "address") : paramType p = .ok .address :=
  paramType_of_parse (by rw [h]; rfl) (by rw [h]; rfl)

theorem paramType_addressList {p : Param} (h : p.type = "address[]") :
    paramType p = .ok (.array .address) :=
  paramType_of_parse (by rw [h]; rfl) (by rw [h]; rfl)

/-- Of an indexed list of addresses the topic is all there is. -/
theorem topicValue_addressList {p : Param} (h : p.type = "address[]") (topic : String) :
    topicValue p topic = (decodeHex topic).map .bytes := by
  rw [topicValue]
  cases decodeHex topic with
  | error e => rfl
  | ok raw =>
    rw [ok_bind, paramType_addressList h]
    rfl

/-- A value in the data has the type of its parameter. -/
theorem dataValues_getElem? {params : List Param} {data : String} {values : List Value}
    (h : dataValues params data = .ok values) {j : ℕ} {p : Param} {v : Value}
    (hp : params[j]? = some p) (hv : values[j]? = some v) :
    ∃ t d, paramType p = .ok t ∧ t.Reads d ∧ v = .ofDatum d := by
  unfold dataValues at h
  split_ifs at h with hempty
  · cases h
    simp at hv
  obtain ⟨types, htypes, h⟩ := bind_eq_ok_iff.mp h
  obtain ⟨raw, -, h⟩ := bind_eq_ok_iff.mp h
  split at h
  · next ds hds =>
    cases h
    rw [Value.ofData_eq_map, List.getElem?_map, Option.map_eq_some_iff] at hv
    obtain ⟨d, hd, rfl⟩ := hv
    rcases decodeParams_eq_ok hds with ⟨-, rfl⟩ | hreads
    · simp at hd
    obtain ⟨t, ht, hread⟩ := exists_getElem?_of_forall₂ hreads hd
    obtain ⟨q, hq, hqt⟩ := exists_getElem?_of_forall₂ (forall₂_of_mapM htypes) ht
    obtain rfl := Option.some.inj (hq.symm.trans hp)
    exact ⟨t, d, hqt, hread, rfl⟩
  · cases h

/-- The value of an input is what its topic holds if it is indexed, and a datum of its type if
    not. -/
theorem inputValue?_eq_some {f : Fragment} {topics : List String} {data : String} {k : ℕ}
    {p : Param} {v : Value} (hp : f.inputs[k]? = some p)
    (hv : inputValue? f topics data k = some v) :
    if p.isIndexed then
      ∃ topic, topics[topicPlace f.inputs k]? = some topic ∧ topicValue p topic = .ok v
    else ∃ t d, paramType p = .ok t ∧ t.Reads d ∧ v = .ofDatum d := by
  rw [inputValue?, hp, Option.bind_eq_bind, Option.bind_some] at hv
  split_ifs at hv ⊢ with hindexed
  · obtain ⟨topic, htopic, hv⟩ := Option.bind_eq_some_iff.mp hv
    exact ⟨topic, htopic, toOption_eq_some_iff.mp hv⟩
  · obtain ⟨values, hvalues, hv⟩ := Option.bind_eq_some_iff.mp hv
    have hplace := getElem?_filter_countP (q := fun p => !p.isIndexed) hp (by simpa using hindexed)
    exact dataValues_getElem? (toOption_eq_some_iff.mp hvalues) hplace hv

/-- The value of an address is an address. -/
theorem inputValue?_address {f : Fragment} {topics : List String} {data : String} {k : ℕ}
    {p : Param} {v : Value} (hp : f.inputs[k]? = some p) (htype : p.type = "address")
    (hv : inputValue? f topics data k = some v) : ∃ hex, v = .address hex := by
  have hdatum {d : Datum} (hd : AbiType.address.Reads d) :
      ∃ hex, Value.ofDatum d = .address hex := by
    obtain ⟨raw, rfl⟩ := hd.address
    exact ⟨Hex.encodePrefixed raw, rfl⟩
  have hvalue := inputValue?_eq_some hp hv
  rw [paramType_address htype] at hvalue
  split_ifs at hvalue
  · obtain ⟨topic, -, hv⟩ := hvalue
    obtain ⟨raw, -, hv⟩ := bind_eq_ok_iff.mp hv
    rw [paramType_address htype, ok_bind, if_neg (by decide)] at hv
    split at hv
    · next d hd =>
      cases hv
      exact hdatum (decodeWord_eq_ok hd)
    · cases hv
  · obtain ⟨t, d, ht, hread, rfl⟩ := hvalue
    cases ht
    exact hdatum hread

/-- The value of a list of addresses is the bytes of its topic if it is indexed, and an array of
    addresses if not. -/
theorem inputValue?_addressList {f : Fragment} {topics : List String} {data : String} {k : ℕ}
    {p : Param} {v : Value} (hp : f.inputs[k]? = some p) (htype : p.type = "address[]")
    (hv : inputValue? f topics data k = some v) :
    if p.isIndexed then
      ∃ topic raw, topics[topicPlace f.inputs k]? = some topic ∧ decodeHex topic = .ok raw ∧
        v = .bytes raw
    else ∃ items, v = .array items ∧ ∀ item ∈ items, ∃ hex, item = .address hex := by
  have hvalue := inputValue?_eq_some hp hv
  split_ifs at hvalue ⊢
  · obtain ⟨topic, htopic, hv⟩ := hvalue
    rw [topicValue_addressList htype] at hv
    obtain ⟨raw, hraw, rfl⟩ := map_eq_ok_iff.mp hv
    exact ⟨topic, raw, htopic, hraw, rfl⟩
  · obtain ⟨t, d, ht, hread, rfl⟩ := hvalue
    rw [paramType_addressList htype] at ht
    cases ht
    obtain ⟨items, rfl, hitems⟩ := hread.array
    refine ⟨items.map Value.ofDatum, by rw [Value.ofDatum, Value.ofData_eq_map], ?_⟩
    intro item hitem
    obtain ⟨d, hd, rfl⟩ := List.mem_map.mp hitem
    obtain ⟨raw, rfl⟩ := (hitems d hd).address
    exact ⟨Hex.encodePrefixed raw, rfl⟩

end EventDecoder

end ContractLens
