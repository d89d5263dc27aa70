import ContractLens.Node.Block
import ContractLens.Proofs.Json.Record
import ContractLens.Proofs.Text.Numeral

/-!
# Which texts are quantities

A quantity is written as hex digits behind `0x`, none of them for zero, or as decimal digits. All
such texts of numbers below `2 ^ 64` are read as these numbers. Apart from them only those are read
that have a plus sign in front of their digits.

* `Quantity.Spells`, `Quantity.SpellsSigned`: the texts that are quantities, and those with a sign.
* `Quantity.ofText?_eq_some_iff`, `BlockTag.ofText_eq_ok_iff`: the texts that are read.
* `ReadsFields.readsTexts`: a text in a field that holds a quantity is read in the same way, in each
  record that is read field by field.
* `QuantityField.readsTexts_of_mem`: so are the texts in the records of a node.
* `Quantity.grammar_iff`: where the texts that are read are those that are quantities.
-/

namespace ContractLens

open Natural (IsNumeral)

/-! ## Texts -/

namespace Quantity

/-- The text is the quantity: hex digits behind `0x`, where none stand for zero, or decimal digits,
    of which there is at least one. -/
def Spells (s : String) (n : ℕ) : Prop :=
  (∃ digits, s.toList = '0' :: 'x' :: digits ∧ (∀ c ∈ digits, Hex.isDigit c = true) ∧
      Hex.value digits = n) ∨
    s.toList ≠ [] ∧ (∀ c ∈ s.toList, c.isDigit = true) ∧ Nat.ofDigitChars 10 s.toList 0 = n

/-- The text would be the quantity without the plus sign in front of its digits. -/
def SpellsSigned (s : String) (n : ℕ) : Prop :=
  (∃ digits, s.toList = '0' :: 'x' :: '+' :: digits ∧ digits ≠ [] ∧
      (∀ c ∈ digits, Hex.isDigit c = true) ∧ Hex.value digits = n) ∨
    ∃ digits, s.toList = '+' :: digits ∧ digits ≠ [] ∧ (∀ c ∈ digits, c.isDigit = true) ∧
      Nat.ofDigitChars 10 digits 0 = n

variable {s : String} {digits : List Char} {n : ℕ}

/-- Behind a marker stand hex digits. -/
theorem spells_marked (h : s.toList = '0' :: 'x' :: digits) :
    Spells s n ↔ (∀ c ∈ digits, Hex.isDigit c = true) ∧ Hex.value digits = n := by
  -- the letter of the marker is no decimal digit
  simp [Spells, h]

theorem spellsSigned_marked (h : s.toList = '0' :: 'x' :: digits) :
    SpellsSigned s n ↔ ∃ rest, digits = '+' :: rest ∧ IsNumeral 16 rest n := by
  simp [SpellsSigned, h, Natural.isNumeral_sixteen_iff]

/-- Without a marker the text is decimal. -/
theorem spells_unmarked (h : ∀ digits, s.toList ≠ '0' :: 'x' :: digits) :
    Spells s n ↔ IsNumeral 10 s.toList n := by
  simp [Spells, h, Natural.isNumeral_ten_iff]

theorem spellsSigned_unmarked (h : ∀ digits, s.toList ≠ '0' :: 'x' :: digits) :
    SpellsSigned s n ↔ ∃ rest, s.toList = '+' :: rest ∧ IsNumeral 10 rest n := by
  simp [SpellsSigned, h, Natural.isNumeral_ten_iff]

/-- The texts that are read are those of quantities below `2 ^ 64`, with or without a plus sign. -/
theorem ofText?_eq_some_iff {w : UInt64} :
    ofText? s = some w ↔ Spells s w.toNat ∨ SpellsSigned s w.toNat := by
  unfold ofText?
  split
  · next hzero =>
    have hvalue : Hex.value [] = w.toNat ↔ 0 = w := by
      rw [← UInt64.toNat_inj]
      rfl
    simp [spells_marked hzero, spellsSigned_marked hzero, hvalue]
  · next digits hdigits hmarked =>
    have hne : digits ≠ [] := hdigits
    rw [spells_marked hmarked, spellsSigned_marked hmarked, Natural.word64?_eq_some_iff,
      Natural.isNumeral_sixteen_iff, and_iff_right hne]
  · next hunmarked =>
    rw [spells_unmarked hunmarked, spellsSigned_unmarked hunmarked, Natural.word64?_eq_some_iff]

end Quantity

/-! ## Block tags -/

namespace BlockTag

/-- The text is the tag: its name, or the quantity that is the number of the block. -/
def WrittenAs (s : String) : BlockTag → Prop
  | latest => s = "latest"
  | earliest => s = "earliest"
  | pending => s = "pending"
  | number n => Quantity.Spells s n.toNat

/-- The texts that are read as a number are those of the number, with or without a plus sign. -/
theorem ofText_eq_ok_number_iff {s : String} {n : UInt64} :
    ofText s = .ok (number n) ↔ Quantity.Spells s n.toNat ∨ Quantity.SpellsSigned s n.toNat := by
  have hname {name : String} (h : Quantity.ofText? name = none) :
      Quantity.ofText? name ≠ some n := by
    simp [h]
  rw [← Quantity.ofText?_eq_some_iff, ofText]
  split_ifs with hlatest hearliest hpending
  · simpa [hlatest] using hname (by decide)
  · simpa [hearliest] using hname (by decide)
  · simpa [hpending] using hname (by decide)
  · cases Quantity.ofText? s <;> simp

/-- The texts that are read as a tag are its own, and those of its number with a plus sign. -/
theorem ofText_eq_ok_iff {s : String} {tag : BlockTag} :
    ofText s = .ok tag ↔
      tag.WrittenAs s ∨ ∃ n, tag = number n ∧ Quantity.SpellsSigned s n.toNat := by
  cases tag with
  | number n => simp [ofText_eq_ok_number_iff, WrittenAs]
  | latest | earliest | pending =>
    rw [or_iff_left (by simp), ofText]
    split_ifs with hlatest hearliest hpending
    · simp [WrittenAs, hlatest]
    · simp [WrittenAs, hearliest]
    · simp [WrittenAs, hpending]
    · cases Quantity.ofText? s <;> simp [WrittenAs, hlatest, hearliest, hpending]

end BlockTag

/-! ## Records -/

/-- A field of a record in which a quantity stands: how the record is read, the names of its fields,
    the name of this one, and the quantity in the record. -/
structure QuantityField where
  Content : Type
  read : Json → Option Content
  names : List String
  name : String
  quantity : Content → Option UInt64

namespace QuantityField

open Json (Record)

/-- Two records have the same fields of these names, apart from one. -/
def AgreeBut (names : List String) (name : String) (r r' : Record) : Prop :=
  ∀ other ∈ names, other ≠ name → r'.get? other = r.get? other

/-- A text in the field is read as the quantity that it stands for: the record is the one that is
    read when the field is that number, and its quantity is this one. A text that stands for no
    quantity makes the record unreadable. -/
def ReadsTexts (f : QuantityField) : Prop :=
  ∀ (value : Json) (r : Record) (s : String), value.record? f.names = some r →
    r.get? f.name = some (.str s) →
      (Quantity.ofText? s = none → f.read value = none) ∧
      ∀ n, Quantity.ofText? s = some n →
        (∀ a, f.read value = some a → f.quantity a = some n) ∧
        ∀ (value' : Json) (r' : Record), value'.record? f.names = some r' →
          r'.get? f.name = some (.ofWord n) → AgreeBut f.names f.name r r' →
            f.read value' = f.read value

/-- A field of a log. -/
def ofLog (name : String) (quantity : RawLog → Option UInt64) : QuantityField :=
  ⟨RawLog, RawLog.ofJson?, RawLog.fieldNames, name, quantity⟩

/-- A field of a block. -/
def ofBlock (name : String) (quantity : Block → UInt64) : QuantityField :=
  ⟨Block, Block.ofJson?, ["number", "hash", "timestamp", "transactions"], name,
    fun b => some (quantity b)⟩

/-- The block of a transaction. -/
def ofTransaction : QuantityField :=
  ⟨BlockTransaction, BlockTransaction.ofJson?, ["hash", "from", "to", "blockNumber"],
    "blockNumber", BlockTransaction.blockNumber⟩

/-- The block of a receipt. -/
def ofReceipt : QuantityField :=
  ⟨Receipt, Receipt.ofJson?, ["transactionHash", "contractAddress", "blockNumber", "logs"],
    "blockNumber", Receipt.blockNumber⟩

/-- The block of an entry of a trace. -/
def ofTrace : QuantityField :=
  ⟨InternalTransaction, InternalTransaction.ofJson?,
    ["type", "result", "transactionHash", "blockNumber", "action"], "blockNumber",
    InternalTransaction.blockNumber⟩

/-- The fields of logs, blocks, transactions, receipts and traces in which quantities stand. -/
def all : List QuantityField :=
  [ofLog "blockNumber" RawLog.blockNumber, ofLog "transactionIndex" RawLog.transactionIndex,
    ofLog "logIndex" RawLog.logIndex, ofBlock "number" Block.number,
    ofBlock "timestamp" Block.timestamp, ofTransaction, ofReceipt, ofTrace]

end QuantityField

/-! ## Records read field by field -/

open Json (Record)

/-- A field of a record, and when its value, or its absence, is read as what stands for it in the
    content of the record. -/
structure FieldReading (Content : Type) where
  name : String
  Reads : Option Json → Content → Prop

namespace FieldReading

variable {Content Value : Type}

/-- A field that has to be there. -/
def required (name : String) (read : Json → Option Value) (get : Content → Value) :
    FieldReading Content :=
  ⟨name, fun value? a => value?.bind read = some (get a)⟩

/-- A field that has a value of its own when it is absent. -/
def withDefault (name : String) (absent : Value) (read : Json → Option Value)
    (get : Content → Value) : FieldReading Content :=
  ⟨name, fun value? a => value?.elim (some absent) read = some (get a)⟩

/-- A field that may be absent or `null`. -/
def optional (name : String) (read : Json → Option Value) (get : Content → Option Value) :
    FieldReading Content :=
  withDefault name none (Json.nullable? read) get

/-- The field holds a quantity: a text is read as the quantity that it stands for, and a number as
    itself. -/
structure HoldsQuantity (f : FieldReading Content) (quantity : Content → Option UInt64) : Prop where
  text : ∀ s a, f.Reads (some (.str s)) a ↔
    ∃ n, Quantity.ofText? s = some n ∧ quantity a = some n
  number : ∀ n a, f.Reads (some (.ofWord n)) a ↔ quantity a = some n

section Reads

variable {name : String} {absent : Value} {read : Json → Option Value}

@[simp] theorem name_required (get : Content → Value) : (required name read get).name = name := rfl

@[simp] theorem name_withDefault (get : Content → Value) :
    (withDefault name absent read get).name = name := rfl

@[simp] theorem name_optional (get : Content → Option Value) :
    (optional name read get).name = name := rfl

@[simp] theorem reads_required_some (get : Content → Value) (value : Json) (a : Content) :
    (required name read get).Reads (some value) a ↔ read value = some (get a) := Iff.rfl

@[simp] theorem reads_withDefault_some (get : Content → Value) (value : Json) (a : Content) :
    (withDefault name absent read get).Reads (some value) a ↔ read value = some (get a) := Iff.rfl

@[simp] theorem reads_required (get : Content → Value) (r : Record) (a : Content) :
    (required name read get).Reads (r.get? name) a ↔ r.required name read = some (get a) := Iff.rfl

@[simp] theorem reads_withDefault (get : Content → Value) (r : Record) (a : Content) :
    (withDefault name absent read get).Reads (r.get? name) a ↔
      r.withDefault name absent read = some (get a) := by
  rw [Record.withDefault]
  cases hvalue : r.get? name with
  | none => exact Iff.rfl
  | some value => exact reads_withDefault_some get value a

@[simp] theorem reads_optional (get : Content → Option Value) (r : Record) (a : Content) :
    (optional name read get).Reads (r.get? name) a ↔ r.optional name read = some (get a) :=
  reads_withDefault get r a

end Reads

theorem ofJson?_str (s : String) : Quantity.ofJson? (.str s) = Quantity.ofText? s := rfl

theorem ofJson?_ofWord (n : UInt64) : Quantity.ofJson? (.ofWord n) = some n :=
  Json.readsBack_quantity .written n

theorem ofNullable?_str (s : String) :
    Quantity.ofNullable? (.str s) = (Quantity.ofText? s).map some := rfl

theorem ofNullable?_ofWord (n : UInt64) : Quantity.ofNullable? (.ofWord n) = some (some n) :=
  Json.readsBack_nullableQuantity .written (some n)

/-- A field that is read as a quantity wherever it is there holds one. -/
theorem holdsQuantity {f : FieldReading Content} {get : Content → UInt64}
    (h : ∀ value a, f.Reads (some value) a ↔ Quantity.ofJson? value = some (get a)) :
    f.HoldsQuantity fun a => some (get a) where
  text s a := by simp [h, ofJson?_str]
  number n a := by simp [h, ofJson?_ofWord, eq_comm]

/-- So does a field that may be `null`. -/
theorem holdsQuantity_nullable (name : String) (get : Content → Option UInt64) :
    (withDefault name none Quantity.ofNullable? get).HoldsQuantity get where
  text s a := by simp [ofNullable?_str, eq_comm]
  number n a := by simp [ofNullable?_ofWord, eq_comm]

end FieldReading

/-- A record is read field by field: it is read as a content if each field is. -/
def ReadsFields {Content : Type} (read : Json → Option Content)
    (fields : List (FieldReading Content)) : Prop :=
  ∀ value a, read value = some a ↔
    ∃ r, value.record? (fields.map FieldReading.name) = some r ∧
      ∀ f ∈ fields, f.Reads (r.get? f.name) a

namespace ReadsFields

variable {Content : Type} {read : Json → Option Content} {fields : List (FieldReading Content)}

theorem eq_some_iff (h : ReadsFields read fields) {value : Json} {r : Record}
    (hr : value.record? (fields.map FieldReading.name) = some r) (a : Content) :
    read value = some a ↔ ∀ f ∈ fields, f.Reads (r.get? f.name) a := by
  rw [h value a]
  constructor
  · rintro ⟨r', hr', hall⟩
    obtain rfl : r = r' := Option.some_inj.mp (hr.symm.trans hr')
    exact hall
  · exact fun hall => ⟨r, hr, hall⟩

/-- A text in a field that holds a quantity is read as what it stands for, if no other field has the
    same name. -/
theorem readsTexts (h : ReadsFields read fields) (hnames : (fields.map FieldReading.name).Nodup)
    {f : FieldReading Content} (hf : f ∈ fields) {quantity : Content → Option UInt64}
    (hquantity : f.HoldsQuantity quantity) :
    QuantityField.ReadsTexts ⟨Content, read, fields.map FieldReading.name, f.name, quantity⟩ := by
  intro value r s hr hs
  dsimp only at hr hs ⊢
  have hfield {a : Content} (ha : read value = some a) :
      ∃ n, Quantity.ofText? s = some n ∧ quantity a = some n := by
    rw [← hquantity.text, ← hs]
    exact (h.eq_some_iff hr a).mp ha f hf
  refine ⟨fun hnone => ?_, fun n hn => ⟨fun a ha => ?_, fun value' r' hr' hn' hagree => ?_⟩⟩
  · rw [Option.eq_none_iff_forall_ne_some]
    intro a ha
    obtain ⟨n, hn, -⟩ := hfield ha
    rw [hnone] at hn
    cases hn
  · obtain ⟨m, hm, ha⟩ := hfield ha
    rw [ha, ← hm, hn]
  · -- each field of the other record allows the same contents
    have hsame (a : Content) (g : FieldReading Content) (hg : g ∈ fields) :
        g.Reads (r'.get? g.name) a ↔ g.Reads (r.get? g.name) a := by
      by_cases hname : g.name = f.name
      · obtain rfl := List.inj_on_of_nodup_map hnames hg hf hname
        rw [hn', hs, hquantity.text, hquantity.number, hn]
        simp
      · rw [hagree g.name (List.mem_map_of_mem hg) hname]
    ext a
    rw [h.eq_some_iff hr' a, h.eq_some_iff hr a]
    exact forall₂_congr (hsame a)

end ReadsFields

/-! The records of a node are read field by field. -/

/-- The fields of a log. -/
def RawLog.fields : List (FieldReading RawLog) :=
  [.required "address" Json.text? RawLog.address,
    .withDefault "topics" [] (Json.list? Json.text?) RawLog.topics,
    .withDefault "data" "0x" Json.text? RawLog.data,
    .withDefault "blockNumber" none Quantity.ofNullable? RawLog.blockNumber,
    .optional "blockHash" Json.text? RawLog.blockHash,
    .optional "transactionHash" Json.text? RawLog.transactionHash,
    .withDefault "transactionIndex" none Quantity.ofNullable? RawLog.transactionIndex,
    .withDefault "logIndex" none Quantity.ofNullable? RawLog.logIndex]

theorem RawLog.readsFields : ReadsFields RawLog.ofJson? RawLog.fields := by
  rintro value ⟨⟩
  simp [RawLog.ofJson?, RawLog.fieldNames, RawLog.fields, Option.bind_eq_some_iff]

/-- The fields of a block. -/
def Block.fields : List (FieldReading Block) :=
  [.required "number" Quantity.ofJson? Block.number,
    .required "hash" Json.text? Block.hash,
    .withDefault "timestamp" 0 Quantity.ofJson? Block.timestamp,
    .withDefault "transactions" [] (Json.list? BlockTransaction.ofJson?) Block.transactions]

theorem Block.readsFields : ReadsFields Block.ofJson? Block.fields := by
  rintro value ⟨⟩
  simp [Block.ofJson?, Block.fields, Option.bind_eq_some_iff]

/-- The fields of a transaction. -/
def BlockTransaction.fields : List (FieldReading BlockTransaction) :=
  [.required "hash" Json.text? BlockTransaction.hash,
    .optional "from" Json.text? BlockTransaction.sender,
    .optional "to" Json.text? BlockTransaction.recipient,
    .withDefault "blockNumber" none Quantity.ofNullable? BlockTransaction.blockNumber]

theorem BlockTransaction.readsFields :
    ReadsFields BlockTransaction.ofJson? BlockTransaction.fields := by
  rintro value ⟨⟩
  simp [BlockTransaction.ofJson?, BlockTransaction.fields, Option.bind_eq_some_iff]

/-- The fields of a receipt. -/
def Receipt.fields : List (FieldReading Receipt) :=
  [.required "transactionHash" Json.text? Receipt.transactionHash,
    .optional "contractAddress" Json.text? Receipt.contractAddress,
    .withDefault "blockNumber" none Quantity.ofNullable? Receipt.blockNumber,
    .withDefault "logs" [] (Json.list? RawLog.ofJson?) Receipt.logs]

theorem Receipt.readsFields : ReadsFields Receipt.ofJson? Receipt.fields := by
  rintro value ⟨⟩
  simp [Receipt.ofJson?, Receipt.fields, Option.bind_eq_some_iff]

/-- The fields of an entry of a trace. -/
def InternalTransaction.fields : List (FieldReading InternalTransaction) :=
  [.optional "type" Json.text? InternalTransaction.kind,
    .optional "result" TraceResult.ofJson? InternalTransaction.result,
    .optional "transactionHash" Json.text? InternalTransaction.transactionHash,
    .withDefault "blockNumber" none Quantity.ofNullable? InternalTransaction.blockNumber,
    .withDefault "action" .null some InternalTransaction.action]

theorem InternalTransaction.readsFields :
    ReadsFields InternalTransaction.ofJson? InternalTransaction.fields := by
  rintro value ⟨⟩
  simp [InternalTransaction.ofJson?, InternalTransaction.fields, Option.bind_eq_some_iff]

open FieldReading in
/-- The quantities in the records of a node are read from texts. -/
theorem QuantityField.readsTexts_of_mem {f : QuantityField} (hf : f ∈ all) : f.ReadsTexts := by
  simp only [all, List.mem_cons, List.not_mem_nil, or_false] at hf
  obtain rfl | rfl | rfl | rfl | rfl | rfl | rfl | rfl := hf
  · exact RawLog.readsFields.readsTexts (by decide) (List.mem_of_getElem? (i := 3) rfl)
      (holdsQuantity_nullable _ _)
  · exact RawLog.readsFields.readsTexts (by decide) (List.mem_of_getElem? (i := 6) rfl)
      (holdsQuantity_nullable _ _)
  · exact RawLog.readsFields.readsTexts (by decide) (List.mem_of_getElem? (i := 7) rfl)
      (holdsQuantity_nullable _ _)
  · exact Block.readsFields.readsTexts (by decide) (List.mem_of_getElem? (i := 0) rfl)
      (holdsQuantity (reads_required_some _))
  · exact Block.readsFields.readsTexts (by decide) (List.mem_of_getElem? (i := 2) rfl)
      (holdsQuantity (reads_withDefault_some _))
  · exact BlockTransaction.readsFields.readsTexts (by decide) (List.mem_of_getElem? (i := 3) rfl)
      (holdsQuantity_nullable _ _)
  · exact Receipt.readsFields.readsTexts (by decide) (List.mem_of_getElem? (i := 2) rfl)
      (holdsQuantity_nullable _ _)
  · exact InternalTransaction.readsFields.readsTexts (by decide)
      (List.mem_of_getElem? (i := 3) rfl) (holdsQuantity_nullable _ _)

/-! ## The grammar -/

namespace Quantity

/-- A text with a plus sign in front of its digits is no quantity. -/
theorem SpellsSigned.not_spells {s : String} {m n : ℕ} (h : SpellsSigned s m) : ¬Spells s n := by
  have hsign : Hex.isDigit '+' = false ∧ '+'.isDigit = false := by decide
  obtain ⟨digits, htext, -⟩ | ⟨digits, htext, -⟩ := h
  · rw [spells_marked htext]
    rintro ⟨hall, -⟩
    have hplus := hall '+' List.mem_cons_self
    rw [hsign.1] at hplus
    cases hplus
  · rw [spells_unmarked (by simp [htext]), htext, Natural.isNumeral_ten_iff]
    rintro ⟨-, hall, -⟩
    have hplus := hall '+' List.mem_cons_self
    rw [hsign.2] at hplus
    cases hplus

/-- The quantities below `2 ^ 64` and the same texts with a plus sign in front of the digits are
    read, and nothing else. So for a text it is true that it is read exactly if it is a quantity,
    unless it has such a sign. The same holds of block tags, which may also be names. In the records
    of a node, texts are read by this rule. -/
theorem grammar_iff (s : String) :
    (∀ n : UInt64, ofText? s = some n ↔ Spells s n.toNat ∨ SpellsSigned s n.toNat) ∧
    ((∀ n : UInt64, ofText? s = some n ↔ Spells s n.toNat) ↔
      ¬∃ n : UInt64, SpellsSigned s n.toNat) ∧
    ((∀ tag : BlockTag, BlockTag.ofText s = .ok tag ↔ tag.WrittenAs s) ↔
      ¬∃ n : UInt64, SpellsSigned s n.toNat) ∧
    ∀ f ∈ QuantityField.all, f.ReadsTexts := by
  refine ⟨fun n => ofText?_eq_some_iff, ⟨?_, ?_⟩, ⟨?_, ?_⟩,
    fun f => QuantityField.readsTexts_of_mem⟩
  · rintro hrule ⟨n, hsigned⟩
    exact hsigned.not_spells ((hrule n).mp (ofText?_eq_some_iff.mpr (.inr hsigned)))
  · intro hunsigned n
    rw [ofText?_eq_some_iff, or_iff_left fun hsigned => hunsigned ⟨n, hsigned⟩]
  · rintro hrule ⟨n, hsigned⟩
    have htag : BlockTag.ofText s = .ok (.number n) :=
      BlockTag.ofText_eq_ok_number_iff.mpr (.inr hsigned)
    exact hsigned.not_spells ((hrule (.number n)).mp htag)
  · intro hunsigned tag
    rw [BlockTag.ofText_eq_ok_iff, or_iff_left]
    rintro ⟨n, -, hsigned⟩
    exact hunsigned ⟨n, hsigned⟩

example : ofText? "0x" = some 0 ∧ ofText? "0x001A" = some 26 ∧ ofText? "0X1a" = none := by decide

/-- A hex number with a plus sign is read, also as a block tag, though such a text is no
    quantity. -/
theorem ofText?_plusSign :
    ofText? "0x+1a" = some 26 ∧ BlockTag.ofText "0x+1a" = .ok (.number 26) ∧
      ∀ n : ℕ, ¬Spells "0x+1a" n := by
  have hdigits : ['1', 'a'].all Hex.isDigit = true := by decide
  have hsigned : SpellsSigned "0x+1a" 26 :=
    .inl ⟨['1', 'a'], rfl, List.cons_ne_nil _ _, List.all_eq_true.mp hdigits, rfl⟩
  exact ⟨ofText?_eq_some_iff.mpr (.inr hsigned),
    BlockTag.ofText_eq_ok_number_iff.mpr (.inr hsigned), fun n => hsigned.not_spells⟩

end Quantity

end ContractLens
