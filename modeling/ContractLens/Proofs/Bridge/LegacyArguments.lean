import ContractLens.Proofs.Bridge.FederationChange
import ContractLens.Proofs.EventSource

/-!
# Which inputs of a legacy event have an argument

Indexed inputs take topics and the others take fields, each in their order. A topic that is left for
an input always gives an argument, and so does a field that is not empty. An empty field should give
none. But whether it is empty is only looked at when it is a value of its type, so that an empty
address has become the zero address by then, and an empty number zero.

* `inputArg?`: the argument that an input contributes.
* `legacyArgs_eq_filterMap`: the arguments are those of the inputs, in order.
* `exists_legacyArgs_iff`: there are arguments unless a topic that is taken is no hex.
* `inputValue_isEmpty_of_ne_nil`, `inputValue_nil`: which values of fields are empty.
* `isSome_inputArg?_iff`: which inputs contribute an argument.
* `args_due_iff`: the inputs for which only fields that are not empty count.
-/

namespace ContractLens.Bridge

open Abi
open EventSource (legacyArgs_cons_eq_ok)

/-! ## What is left for an input -/

section Places

variable (inputs : List (Param × FieldReading)) (topics : List String) (fields : List (List UInt8))

/-- The bytes that are left for the input at a place: those of a topic if it is indexed, and a field
    if not. -/
def leftFor? (k : ℕ) : Option (List UInt8) := do
  let (p, _) ← inputs[k]?
  if p.isIndexed then
    let topic ← topics[topicPlace (inputs.map (·.1)) k]?
    (decodeHex topic).toOption
  else fields[dataPlace (inputs.map (·.1)) k]?

/-- The argument that the input at a place contributes: the value of what is left for it. Unless it
    is indexed, an empty value is none. -/
def inputArg? (k : ℕ) : Option Value := do
  let (p, reading) ← inputs[k]?
  let raw ← leftFor? inputs topics fields k
  let value := (inputValue p reading raw).value
  if p.isIndexed || !value.isEmpty then some value else none

end Places

variable {inputs : List (Param × FieldReading)} {topics : List String}
  {fields : List (List UInt8)} {args : List Value}

/-- An indexed input contributes the value of its topic, any other one the value of its field if
    that is not empty. -/
theorem inputArg?_eq {k : ℕ} {p : Param} {reading : FieldReading}
    (hinput : inputs[k]? = some (p, reading)) :
    inputArg? inputs topics fields k =
      if p.isIndexed then
        (topics[topicPlace (inputs.map (·.1)) k]?.bind fun topic =>
          (decodeHex topic).toOption).map fun raw => (inputValue p reading raw).value
      else (fields[dataPlace (inputs.map (·.1)) k]?.map fun raw =>
        (inputValue p reading raw).value).filter fun value => !value.isEmpty := by
  cases hp : p.isIndexed
  · cases hfield : fields[dataPlace (inputs.map (·.1)) k]? with
    | none => simp [inputArg?, leftFor?, hinput, hp, hfield]
    | some raw =>
      cases hempty : (inputValue p reading raw).value.isEmpty <;>
        simp [inputArg?, leftFor?, hinput, hp, hfield, hempty, Option.filter_some]
  · cases htopic : topics[topicPlace (inputs.map (·.1)) k]? with
    | none => simp [inputArg?, leftFor?, hinput, hp, htopic]
    | some topic =>
      cases hraw : decodeHex topic <;>
        simp [inputArg?, leftFor?, hinput, hp, htopic, hraw, Except.toOption]

/-- Behind the first input, one topic or one field less is left. -/
theorem inputArg?_succ (p : Param) (reading : FieldReading) (inputs : List (Param × FieldReading))
    (topics : List String) (fields : List (List UInt8)) (k : ℕ) :
    inputArg? ((p, reading) :: inputs) topics fields (k + 1) =
      if p.isIndexed then inputArg? inputs topics.tail fields k
      else inputArg? inputs topics fields.tail k := by
  cases hp : p.isIndexed <;>
    simp [inputArg?, leftFor?, topicPlace, dataPlace, List.take_succ_cons, hp]

/-- The arguments of inputs are that of the first one and those of the others. -/
theorem filterMap_inputArg?_cons (p : Param) (reading : FieldReading)
    (inputs : List (Param × FieldReading)) (topics : List String) (fields : List (List UInt8)) :
    (List.range ((p, reading) :: inputs).length).filterMap
        (inputArg? ((p, reading) :: inputs) topics fields) =
      (inputArg? ((p, reading) :: inputs) topics fields 0).toList ++
        (List.range inputs.length).filterMap (if p.isIndexed then inputArg? inputs topics.tail fields
          else inputArg? inputs topics fields.tail) := by
  have hrest : inputArg? ((p, reading) :: inputs) topics fields ∘ Nat.succ =
      if p.isIndexed then inputArg? inputs topics.tail fields
      else inputArg? inputs topics fields.tail := by
    funext k
    rw [Function.comp_apply, Nat.succ_eq_add_one, inputArg?_succ]
    split_ifs <;> rfl
  rw [List.length_cons, List.range_succ_eq_map, List.filterMap_cons, List.filterMap_map, hrest]
  cases inputArg? ((p, reading) :: inputs) topics fields 0 <;> rfl

/-- The arguments of a legacy event are what its inputs contribute, in order. -/
theorem legacyArgs_eq_filterMap (h : (legacyArgs inputs topics fields).value = .ok args) :
    args = (List.range inputs.length).filterMap (inputArg? inputs topics fields) := by
  induction inputs generalizing topics fields args with
  | nil =>
    cases h
    rfl
  | cons input inputs ih =>
    obtain ⟨p, reading⟩ := input
    have hstep := legacyArgs_cons_eq_ok h
    rw [filterMap_inputArg?_cons, inputArg?_eq (k := 0) rfl]
    split_ifs at hstep ⊢ with hp
    · obtain ⟨rfl, hrest⟩ | ⟨topic, rest, raw, vs, rfl, hraw, hrest, rfl⟩ := hstep
      · exact ih hrest
      · have hfirst : (topic :: rest)[topicPlace (((p, reading) :: inputs).map (·.1)) 0]? =
            some topic := rfl
        rw [ih hrest, hfirst, Option.bind_some, hraw]
        rfl
    · obtain ⟨rfl, hrest⟩ | ⟨raw, rest, vs, rfl, hrest, rfl⟩ := hstep
      · exact ih hrest
      · have hfirst : (raw :: rest)[dataPlace (((p, reading) :: inputs).map (·.1)) 0]? =
            some raw := rfl
        rw [ih hrest, hfirst, Option.map_some]
        cases hempty : (inputValue p reading raw).value.isEmpty <;>
          simp [hempty, Option.filter_some]

/-- There are arguments exactly if all topics that indexed inputs take are hex. -/
theorem exists_legacyArgs_iff :
    (∃ args, (legacyArgs inputs topics fields).value = .ok args) ↔
      ∀ topic ∈ topics.take ((inputs.map (·.1)).countP Param.isIndexed),
        ∃ raw, decodeHex topic = .ok raw := by
  induction inputs generalizing topics fields with
  | nil => exact iff_of_true ⟨[], rfl⟩ (by simp)
  | cons input inputs ih =>
    obtain ⟨p, reading⟩ := input
    have hmap {r : Noted (Except DecodeError (List Value))} {f : List Value → List Value} :
        (∃ args, (r.value.map f) = .ok args) ↔ ∃ args, r.value = .ok args := by
      cases r.value <;> simp [Except.map]
    rw [legacyArgs.eq_def, List.map_cons, List.countP_cons]
    cases hp : p.isIndexed with
    | false =>
      cases fields with
      | nil => simpa [hp] using ih
      | cons raw rest => simpa [hp, hmap] using ih
    | true =>
      cases topics with
      | nil => simpa [hp] using @ih [] fields
      | cons topic rest =>
        cases hraw : decodeHex topic with
        | error e => simp [hp, hraw]
        | ok raw => simpa [hp, hraw, hmap] using ih

/-! ## Values of fields -/

/-- The zero that an empty field of a type becomes, if it becomes one. -/
def zeroOf? (type : String) : Option Value :=
  if type = "address" then some (.ofAddressBytes (List.replicate 20 0))
  else if type.startsWith "uint" && !type.endsWith "]" then some (.uint 0)
  else none

theorem isNumberType : ("uint256".startsWith "uint" && !"uint256".endsWith "]") = true := by
  decide +kernel

theorem zeroOf?_number : zeroOf? "uint256" = some (.uint 0) := by
  rw [zeroOf?, if_neg (by decide), if_pos isNumberType]

/-- Other types have no zero. -/
theorem zeroOf?_of_not {type : String} (haddress : type ≠ "address")
    (hnumber : (type.startsWith "uint" && !type.endsWith "]") = false) : zeroOf? type = none := by
  rw [zeroOf?, if_neg haddress, if_neg (by simp [hnumber])]

/-- A field of bytes as a number. -/
theorem coerce_number (raw : List UInt8) :
    coerce "uint256" (.bytes raw) =
      if raw.length ≤ 32 then .ofNat (natOfBytes raw) else .bytes raw := by
  rw [coerce, if_neg (by decide), if_pos isNumberType]

/-- A field of bytes as a list of keys that is none. -/
theorem coerce_keys (raw : List UInt8) : coerce "bytes[]" (.bytes raw) = .bytes raw := by
  simp [coerce]

section Table

variable {network : Network} {e : LegacyEvent} {p : Param} {reading : FieldReading}

/-- How the fields of legacy events are read. -/
theorem reading_cases (he : e ∈ legacyEvents network) (hinput : (p, reading) ∈ e.inputs)
    (hindexed : p.isIndexed = false) :
    reading = .plain ∧ p.type = "address" ∨
      reading = .plain ∧ (p.type = "bytes32" ∨ p.type = "bytes") ∨
      reading = .publicKeys ∧ p.type = "bytes[]" ∨
      reading = .btcAddress network ∧ p.type = "string" ∨
      reading = .decimal ∧ p.type = "uint256" := by
  simp only [legacyEvents, List.mem_cons, List.not_mem_nil, or_false] at he
  obtain rfl | rfl | rfl | rfl := he <;>
    simp only [List.mem_cons, List.not_mem_nil, or_false, Prod.mk.injEq] at hinput
  · obtain ⟨rfl, rfl⟩ := hinput
    exact .inl ⟨rfl, rfl⟩
  · obtain ⟨rfl, rfl⟩ | ⟨rfl, rfl⟩ := hinput
    · exact .inr (.inl ⟨rfl, .inl rfl⟩)
    · exact .inr (.inl ⟨rfl, .inr rfl⟩)
  · obtain ⟨rfl, -⟩ | ⟨rfl, rfl⟩ | ⟨rfl, rfl⟩ := hinput
    · -- the sender is indexed
      cases hindexed
    · exact .inr (.inl ⟨rfl, .inl rfl⟩)
    · exact .inr (.inl ⟨rfl, .inr rfl⟩)
  · obtain ⟨rfl, rfl⟩ | ⟨rfl, rfl⟩ | ⟨rfl, rfl⟩ | ⟨rfl, rfl⟩ | ⟨rfl, rfl⟩ := hinput
    · exact .inr (.inr (.inl ⟨rfl, rfl⟩))
    · exact .inr (.inr (.inr (.inl ⟨rfl, rfl⟩)))
    · exact .inr (.inr (.inl ⟨rfl, rfl⟩))
    · exact .inr (.inr (.inr (.inl ⟨rfl, rfl⟩)))
    · exact .inr (.inr (.inr (.inr ⟨rfl, rfl⟩)))

/-- A field that is not empty has a value that is not empty either. -/
theorem inputValue_isEmpty_of_ne_nil (he : e ∈ legacyEvents network)
    (hinput : (p, reading) ∈ e.inputs) (hindexed : p.isIndexed = false) {raw : List UInt8}
    (hraw : raw ≠ []) : (inputValue p reading raw).value.isEmpty = false := by
  have hbytes : (Value.bytes raw).isEmpty = false := by
    rw [Value.isEmpty, ← Bool.not_eq_true, List.isEmpty_iff]
    exact hraw
  obtain ⟨rfl, htype⟩ | ⟨rfl, htype⟩ | ⟨rfl, htype⟩ | ⟨rfl, htype⟩ | ⟨rfl, htype⟩ :=
    reading_cases he hinput hindexed
  · rw [EventSource.inputValue_sender htype]
    rfl
  · rw [inputValue_bytes htype]
    exact hbytes
  · rw [inputValue, FieldReading.apply, htype]
    cases byteStrings? raw with
    | some keys => rfl
    | none =>
      show (coerce "bytes[]" (.bytes raw)).isEmpty = false
      rw [coerce_keys]
      exact hbytes
  · rw [inputValue_btcAddress_decode]
    exact isEmpty_str (mt Utf8.decode_eq_empty_iff.mp hraw)
  · rw [inputValue, FieldReading.apply, htype]
    cases decimalNumber? raw with
    | some n => rfl
    | none =>
      show (coerce "uint256" (.bytes raw)).isEmpty = false
      rw [coerce_number, Value.ofNat]
      split_ifs
      · rfl
      · rfl
      · exact hbytes

/-- An empty field has an empty value, unless it becomes a zero. -/
theorem inputValue_nil (he : e ∈ legacyEvents network) (hinput : (p, reading) ∈ e.inputs)
    (hindexed : p.isIndexed = false) :
    (some (inputValue p reading []).value).filter (fun value => !value.isEmpty) =
      zeroOf? p.type := by
  have hnone : ∀ type ∈ ["bytes32", "bytes", "bytes[]", "string"], zeroOf? type = none := by
    intro type htype
    simp only [List.mem_cons, List.not_mem_nil, or_false] at htype
    obtain rfl | rfl | rfl | rfl := htype <;>
      exact zeroOf?_of_not (by decide) (by decide +kernel)
  obtain ⟨rfl, htype⟩ | ⟨rfl, htype⟩ | ⟨rfl, htype⟩ | ⟨rfl, htype⟩ | ⟨rfl, htype⟩ :=
    reading_cases he hinput hindexed
  · rw [EventSource.inputValue_sender htype, htype]
    rfl
  · rw [inputValue_bytes htype, hnone p.type (by simp; tauto)]
    rfl
  · rw [hnone p.type (by simp [htype]), inputValue, FieldReading.apply, htype]
    show (some (coerce "bytes[]" (.bytes []))).filter _ = _
    rw [coerce_keys]
    rfl
  · rw [hnone p.type (by simp [htype]), inputValue_btcAddress_decode,
      Utf8.decode_eq_empty_iff.mpr rfl]
    rfl
  · rw [inputValue, FieldReading.apply, htype, zeroOf?_number]
    show (some (coerce "uint256" (.bytes []))).filter _ = _
    rw [coerce_number]
    rfl

end Table

/-! ## Which inputs have an argument -/

/-- A topic is left for the input at a place if it is indexed, and a field that is not empty if
    not. -/
def Due (inputs : List Param) (topics : List String) (fields : List (List UInt8)) (k : ℕ) : Prop :=
  ∃ p, inputs[k]? = some p ∧
    if p.isIndexed then topicPlace inputs k < topics.length
    else ∃ raw, fields[dataPlace inputs k]? = some raw ∧ raw ≠ []

/-- An empty field is left for the input at a place, and it becomes this zero. -/
def BecomesZero (inputs : List Param) (fields : List (List UInt8)) (k : ℕ) (zero : Value) : Prop :=
  ∃ p, inputs[k]? = some p ∧ p.isIndexed = false ∧ fields[dataPlace inputs k]? = some [] ∧
    zeroOf? p.type = some zero

/-- An indexed input takes a topic before the number of indexed inputs. -/
theorem topicPlace_lt {inputs : List Param} {k : ℕ} {p : Param} (hp : inputs[k]? = some p)
    (hindexed : p.isIndexed = true) : topicPlace inputs k < inputs.countP Param.isIndexed := by
  have hplace := getElem?_filter_countP hp hindexed
  rw [List.countP_eq_length_filter]
  exact (List.getElem?_eq_some_iff.mp hplace).1

/-- An indexed input has an argument exactly if a topic is left for it, as long as there are
    arguments at all. -/
theorem isSome_inputArg?_of_indexed {k : ℕ} {p : Param} {reading : FieldReading}
    (hargs : (legacyArgs inputs topics fields).value = .ok args)
    (hinput : inputs[k]? = some (p, reading)) (hindexed : p.isIndexed = true) :
    (inputArg? inputs topics fields k).isSome = true ↔
      topicPlace (inputs.map (·.1)) k < topics.length := by
  have hp : (inputs.map (·.1))[k]? = some p := by rw [List.getElem?_map, hinput, Option.map_some]
  rw [inputArg?_eq hinput, if_pos hindexed, Option.isSome_map]
  constructor
  · intro hsome
    obtain ⟨raw, hraw⟩ := Option.isSome_iff_exists.mp hsome
    obtain ⟨topic, htopic, -⟩ := Option.bind_eq_some_iff.mp hraw
    exact (List.getElem?_eq_some_iff.mp htopic).1
  · intro hplace
    have htaken : topics[topicPlace (inputs.map (·.1)) k] ∈
        topics.take ((inputs.map (·.1)).countP Param.isIndexed) :=
      List.mem_take_iff_getElem.mpr ⟨_, lt_min (topicPlace_lt hp hindexed) hplace, rfl⟩
    obtain ⟨raw, hraw⟩ := exists_legacyArgs_iff.mp ⟨args, hargs⟩ _ htaken
    rw [List.getElem?_eq_getElem hplace, Option.bind_some, hraw]
    rfl

section Table

variable {network : Network} {e : LegacyEvent} {k : ℕ} {p : Param} {reading : FieldReading}

/-- Any other input contributes the value of its field, unless that is empty and becomes no zero. -/
theorem inputArg?_of_field (he : e ∈ legacyEvents network)
    (hinput : e.inputs[k]? = some (p, reading)) (hindexed : p.isIndexed = false) :
    inputArg? e.inputs topics fields k = fields[dataPlace (e.inputs.map (·.1)) k]?.bind fun raw =>
      if raw = [] then zeroOf? p.type else some (inputValue p reading raw).value := by
  have hmem := List.mem_of_getElem? hinput
  rw [inputArg?_eq hinput, if_neg (by simp [hindexed])]
  cases fields[dataPlace (e.inputs.map (·.1)) k]? with
  | none => rfl
  | some raw =>
    rw [Option.map_some, Option.bind_some]
    split_ifs with hraw
    · rw [hraw, inputValue_nil he hmem hindexed]
    · rw [Option.filter_some, inputValue_isEmpty_of_ne_nil he hmem hindexed hraw]
      rfl

/-- An input has an argument exactly if one is due or an empty field becomes a zero. -/
theorem isSome_inputArg?_iff (he : e ∈ legacyEvents network)
    (hargs : (legacyArgs e.inputs topics fields).value = .ok args) (hk : k < e.inputs.length) :
    (inputArg? e.inputs topics fields k).isSome = true ↔
      Due e.fragment.inputs topics fields k ∨
        ∃ zero, BecomesZero e.fragment.inputs fields k zero := by
  obtain ⟨⟨p, reading⟩, hinput⟩ : ∃ input, e.inputs[k]? = some input :=
    ⟨_, List.getElem?_eq_getElem hk⟩
  have hp : e.fragment.inputs[k]? = some p := by
    show (e.inputs.map (·.1))[k]? = some p
    rw [List.getElem?_map, hinput, Option.map_some]
  cases hindexed : p.isIndexed with
  | true =>
    rw [isSome_inputArg?_of_indexed hargs hinput hindexed]
    have hplace : topicPlace (e.inputs.map (·.1)) k = topicPlace e.fragment.inputs k := rfl
    simp [Due, BecomesZero, hp, hindexed, hplace]
  | false =>
    rw [inputArg?_of_field he hinput hindexed]
    have hplace : dataPlace (e.inputs.map (·.1)) k = dataPlace e.fragment.inputs k := rfl
    rw [hplace]
    cases hfield : fields[dataPlace e.fragment.inputs k]? with
    | none => simp [Due, BecomesZero, hp, hindexed, hfield]
    | some raw =>
      by_cases hraw : raw = []
      · simp [Due, BecomesZero, hp, hindexed, hfield, hraw, Option.isSome_iff_exists]
      · simp [Due, BecomesZero, hp, hindexed, hfield, hraw]

theorem inputArg?_of_becomesZero (he : e ∈ legacyEvents network) {zero : Value}
    (h : BecomesZero e.fragment.inputs fields k zero) :
    inputArg? e.inputs topics fields k = some zero := by
  obtain ⟨p, hp, hindexed, hfield, hzero⟩ := h
  obtain ⟨⟨q, reading⟩, hinput, rfl⟩ : ∃ input, e.inputs[k]? = some input ∧ input.1 = p := by
    change (e.inputs.map (·.1))[k]? = some p at hp
    rw [List.getElem?_map] at hp
    exact Option.map_eq_some_iff.mp hp
  rw [inputArg?_of_field he hinput hindexed]
  change (fields[dataPlace e.fragment.inputs k]?).bind _ = _
  rw [hfield, Option.bind_some, if_pos rfl, hzero]

/-- No argument is due where a zero comes from an empty field. -/
theorem BecomesZero.not_due {inputs : List Param} {zero : Value}
    (h : BecomesZero inputs fields k zero) : ¬Due inputs topics fields k := by
  obtain ⟨p, hp, hindexed, hfield, -⟩ := h
  rintro ⟨q, hq, hdue⟩
  obtain rfl := Option.some.inj (hp.symm.trans hq)
  rw [if_neg (by simp [hindexed])] at hdue
  obtain ⟨raw, hraw, hne⟩ := hdue
  exact hne (Option.some.inj (hraw.symm.trans hfield))

end Table

/-- A payload that the layout of a legacy event accepts gives arguments unless a topic that an
    indexed input takes is no hex. The arguments are those of the inputs, in order. An input has one
    exactly if a topic or a field that is not empty is left for it, except that an empty field
    becomes the zero address for an address and zero for a number. -/
theorem args_due_iff {network : Network} {e : LegacyEvent} (he : e ∈ legacyEvents network)
    (topics : List String) {data : String} {fields : List (List UInt8)}
    (hfields : e.layout.fields data = .ok fields) :
    ((∃ args, (e.args topics data).value = .ok args) ↔
        ∀ topic ∈ topics.take e.fragment.indexedCount, ∃ raw, decodeHex topic = .ok raw) ∧
      ∀ args, (e.args topics data).value = .ok args →
        args = (List.range e.inputs.length).filterMap (inputArg? e.inputs topics fields) ∧
          ∀ k < e.inputs.length,
            (((inputArg? e.inputs topics fields k).isSome = true ↔
                Due e.fragment.inputs topics fields k) ↔
              ¬∃ zero, BecomesZero e.fragment.inputs fields k zero) ∧
            ∀ zero, BecomesZero e.fragment.inputs fields k zero →
              inputArg? e.inputs topics fields k = some zero := by
  rw [LegacyEvent.args, hfields]
  refine ⟨exists_legacyArgs_iff, ?_⟩
  intro args hargs
  refine ⟨legacyArgs_eq_filterMap hargs, ?_⟩
  intro k hk
  have hsome := isSome_inputArg?_iff he hargs hk
  have hexcluded : (∃ zero, BecomesZero e.fragment.inputs fields k zero) →
      ¬Due e.fragment.inputs topics fields k := by
    rintro ⟨zero, hzero⟩
    exact hzero.not_due
  exact ⟨by tauto, fun zero => inputArg?_of_becomesZero he⟩

/-- In a change from a federation without keys and address to one with an address, only this address
    and the height are due, and they are the arguments. -/
theorem args_due_partialChange :
    let e := commitFederation .testnet
    let fields : List (List UInt8) := [[], [], [], [0x61], [0x37]]
    e ∈ legacyEvents .testnet ∧ e.layout.fields "0xc7c28080c2806137" = .ok fields ∧
      ∃ args, (e.args [] "0xc7c28080c2806137").value = .ok args ∧
        args = (List.range 5).filterMap (inputArg? e.inputs [] fields) ∧
        ∀ k < 5, (inputArg? e.inputs [] fields k).isSome = true ↔
          Due e.fragment.inputs [] fields k := by
  intro e fields
  have he : e ∈ legacyEvents .testnet :=
    List.mem_of_find?_eq_some (findLegacyEvent_commitFederation .testnet)
  have hfields : e.layout.fields "0xc7c28080c2806137" = .ok fields := by
    rw [← toOption_eq_some_iff]
    decide +kernel
  obtain ⟨hexists, hspec⟩ := args_due_iff he [] hfields
  obtain ⟨args, hargs⟩ := hexists.mpr (by simp)
  obtain ⟨hlist, hdue⟩ := hspec args hargs
  refine ⟨he, hfields, args, hargs, hlist, ?_⟩
  intro k hk
  refine (hdue k hk).1.mpr ?_
  -- the empty fields are a list of keys, an address in Base58Check and a list of keys again
  rintro ⟨zero, p, hp, -, hfield, hzero⟩
  have hnone : zeroOf? p.type = none := by
    interval_cases k
    · obtain rfl := Option.some.inj hp
      exact zeroOf?_of_not (by decide) (by decide +kernel)
    · obtain rfl := Option.some.inj hp
      exact zeroOf?_of_not (by decide) (by decide +kernel)
    · obtain rfl := Option.some.inj hp
      exact zeroOf?_of_not (by decide) (by decide +kernel)
    · exact absurd hfield (by decide)
    · exact absurd hfield (by decide)
  rw [hnone] at hzero
  cases hzero

/-- An empty sender becomes the zero address, and the height of an empty change zero, though nothing
    is due for them. -/
theorem args_empty_zero :
    (∃ e ∈ legacyEvents .mainnet, e.name = "update_collections" ∧
      e.layout.fields "0x80" = .ok [[]] ∧ ¬Due e.fragment.inputs [] [[]] 0 ∧
      (e.args [] "0x80").value =
        .ok [.address "0x0000000000000000000000000000000000000000"]) ∧
    ∃ e ∈ legacyEvents .mainnet, e.name = "commit_federation" ∧
      e.layout.fields "0xc7c28080c2808080" = .ok [[], [], [], [], []] ∧
      ¬Due e.fragment.inputs [] [[], [], [], [], []] 4 ∧
      inputArg? e.inputs [] [[], [], [], [], []] 4 = some (.uint 0) := by
  constructor
  · have hfields : EventSource.updateCollections.layout.fields "0x80" = .ok [[]] := by
      rw [← toOption_eq_some_iff]
      decide +kernel
    refine ⟨EventSource.updateCollections, List.mem_cons_self .., rfl, hfields, ?_, ?_⟩
    · simp [Due, EventSource.updateCollections, dataPlace, LegacyEvent.fragment, Fragment.ofEvent]
    · rw [LegacyEvent.args, hfields]
      rfl
  · have he : commitFederation .mainnet ∈ legacyEvents .mainnet :=
      List.mem_of_find?_eq_some (findLegacyEvent_commitFederation .mainnet)
    have hzero : BecomesZero (commitFederation .mainnet).fragment.inputs [[], [], [], [], []] 4
        (.uint 0) :=
      ⟨.plain "activationHeight" "uint256", rfl, rfl, rfl, zeroOf?_number⟩
    refine ⟨commitFederation .mainnet, he, rfl, ?_, hzero.not_due, inputArg?_of_becomesZero he hzero⟩
    rw [← toOption_eq_some_iff]
    decide +kernel

end ContractLens.Bridge
