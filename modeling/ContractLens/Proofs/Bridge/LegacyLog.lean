import ContractLens.Proofs.Bridge.LegacyFields
import ContractLens.Proofs.Text.HexReading
import ContractLens.Proofs.Text.Natural

/-!
# Decoding of legacy logs

A legacy log is decoded in three steps: its first topic names the event, the data is split into
fields, and each input takes the value of a field. What a step gives is stated here for topics and
fields that come from names and values.

* `eventName_of_padded`: a name is read from its bytes with zeros behind them.
* `inputValue_bytes`, `inputValue_publicKeys`, `inputValue_btcAddress`, `inputValue_decimal`: the
  values of fields.
* `legacyArgs_cons_of_field`: an argument that comes from a field.
* `decodeLegacyLog_of_args`: a log with the name of an event and all its arguments.
-/

namespace ContractLens.Bridge

open Abi (Param)
open Rlp (Item)

/-! ## Names -/

theorem and_sevenBits {b : UInt8} (h : b.toNat < 0x80) : b &&& 0x7f = b := by
  refine UInt8.toNat.inj ?_
  rw [UInt8.toNat_and]
  change b.toNat &&& 2 ^ 7 - 1 = b.toNat
  rw [Nat.and_two_pow_sub_one_eq_mod, Nat.mod_eq_of_lt h]

/-- A name in ASCII is read from its bytes with any number of zeros behind them. -/
theorem eventName_of_padded {topic name : String} {count : ℕ}
    (hname : ∀ c ∈ name.toList, 0 < c.toNat ∧ c.toNat < 0x80)
    (h : decodeHex topic = .ok (utf8Bytes name ++ List.replicate count 0)) :
    eventName topic = .ok name := by
  have hascii : ∀ c ∈ name.toList, c.toNat < 0x80 := fun c hc => (hname c hc).2
  have hbytes : ∀ b ∈ utf8Bytes name, 0 < b.toNat ∧ b.toNat < 0x80 := by
    rw [LetterCase.utf8Bytes_of_ascii hascii]
    rintro b hb
    obtain ⟨c, hc, rfl⟩ := List.mem_map.mp hb
    rw [toNat_ofNat_of_lt (by have := hascii c hc; omega)]
    exact hname c hc
  have hbits : (utf8Bytes name).map (· &&& 0x7f) = utf8Bytes name :=
    (List.map_congr_left fun b hb => and_sevenBits (hbytes b hb).2).trans (List.map_id _)
  have hkept : (utf8Bytes name).filter (· != 0) = utf8Bytes name := by
    refine List.filter_eq_self.mpr fun b hb => ?_
    have hpos := (hbytes b hb).1
    rw [bne_iff_ne]
    rintro rfl
    exact absurd hpos (by decide)
  have hpadding : ((List.replicate count (0 : UInt8)).map (· &&& 0x7f)).filter (· != 0) = [] := by
    rw [List.map_replicate]
    exact List.filter_replicate_of_neg (by decide)
  rw [eventName, h, ok_bind, List.map_append, List.filter_append, hpadding, hbits, hkept,
    List.append_nil, Hex.map_byteChar_utf8Bytes hascii, String.ofList_toList]
  rfl

/-! ## Values of fields -/

/-- A text that does not start with a NUL loses nothing as a field. -/
theorem trimLeadingZeros_utf8Bytes {s : String} (hne : s ≠ "")
    (hnul : s.toList.head? ≠ some '\x00') : trimLeadingZeros (utf8Bytes s) = utf8Bytes s := by
  have hdecode := Utf8.decode_utf8Bytes s
  have hbytes : utf8Bytes s ≠ [] := by
    intro hnil
    rw [hnil, Utf8.decode, Utf8.decodeChars] at hdecode
    exact hne hdecode.symm
  refine (trimLeadingZeros_eq_self_iff hbytes).mpr (.inl fun hzero => ?_)
  obtain ⟨rest, hrest⟩ := List.head?_eq_some_iff.mp hzero
  rw [hrest, Utf8.decode, Utf8.decodeChars_one (by decide)] at hdecode
  rw [← hdecode, String.toList_ofList] at hnul
  exact hnul rfl

theorem inputValue_bytes {p : Param} (h : p.type = "bytes32" ∨ p.type = "bytes")
    (raw : List UInt8) : (inputValue p .plain raw).value = .bytes raw := by
  obtain h | h := h <;> simp [inputValue, FieldReading.apply, coerce, h]

/-- Keys are the byte strings in a list. -/
theorem byteStrings?_encode {keys : List (List UInt8)}
    (h : (Item.list (keys.map .bytes)).Fits) :
    byteStrings? (Item.list (keys.map .bytes)).encode = some keys := by
  have hkeys : ∀ key ∈ keys, (Rlp.payload (Item.bytes key).encode).toOption = some key := by
    intro key hkey
    rw [Rlp.payload_encode (Rlp.fits_of_mem h _ (List.mem_map_of_mem hkey))]
    rfl
  rw [byteStrings?, Rlp.isList_encode h, Item.isList, if_pos rfl, Rlp.elements_encode h,
    List.map_map, List.mapM_map]
  clear h
  induction keys with
  | nil => rfl
  | cons key keys ih =>
    obtain ⟨hkey, hrest⟩ := List.forall_mem_cons.mp hkeys
    rw [List.mapM_cons, ih hrest]
    change (Rlp.payload (Item.bytes key).encode).toOption >>= _ = _
    rw [hkey]
    rfl

theorem inputValue_publicKeys {keys : List (List UInt8)}
    (h : (Item.list (keys.map .bytes)).Fits) (p : Param) :
    (inputValue p .publicKeys (Item.list (keys.map .bytes)).encode).value =
      .array (keys.map .bytes) := by
  rw [inputValue, FieldReading.apply, byteStrings?_encode h]
  rfl

/-- An address is the text of its field, whatever kind of address it is. -/
theorem inputValue_btcAddress_decode (p : Param) (network : Network) (raw : List UInt8) :
    (inputValue p (.btcAddress network) raw).value = .str (Utf8.decode raw) := by
  have happly : (FieldReading.apply (.btcAddress network) raw).value = .str (Utf8.decode raw) := by
    rw [FieldReading.apply]
    simp only
    split_ifs <;> rfl
  rw [inputValue, Noted.value_bind, happly]
  rfl

theorem inputValue_btcAddress (p : Param) (network : Network) (address : String) :
    (inputValue p (.btcAddress network) (utf8Bytes address)).value = .str address := by
  rw [inputValue_btcAddress_decode, Utf8.decode_utf8Bytes]

theorem ascii_of_mem_toString {n : ℕ} {c : Char} (h : c ∈ (toString n).toList) :
    0 < c.toNat ∧ c.toNat < 0x80 := by
  rw [Nat.toString_eq_repr, Nat.toList_repr] at h
  have hdigit : c.isDigit = true := Nat.isDigit_of_mem_toDigits (by decide) (by decide) h
  have hbounds := Natural.toNat_of_isDigit hdigit
  omega

/-- A number of at most 128 bits is read from its decimal text. -/
theorem inputValue_decimal {n : ℕ} (h : n < 2 ^ 128) (p : Param) :
    (inputValue p .decimal (utf8Bytes (toString n))).value = .uint n := by
  have hread : Natural.read? 10 ((utf8Bytes (toString n)).map Hex.byteChar) = some n := by
    rw [Hex.map_byteChar_utf8Bytes fun c hc => (ascii_of_mem_toString hc).2, Nat.toString_eq_repr,
      Nat.toList_repr]
    exact Natural.read?_toDigits (by decide) (by decide) n
  have hnumber : decimalNumber? (utf8Bytes (toString n)) = some n := by
    rw [decimalNumber?, hread]
    exact Option.filter_eq_some_iff.mpr ⟨rfl, decide_eq_true h⟩
  rw [inputValue, FieldReading.apply, hnumber]
  rfl

/-! ## Arguments -/

/-- An input takes a field as its argument unless the value is empty. -/
theorem legacyArgs_cons_of_field {p : Param} {reading : FieldReading}
    {inputs : List (Param × FieldReading)} {topics : List String} {raw : List UInt8}
    {fields : List (List UInt8)} {v : Value} {args : List Value} (hindexed : p.isIndexed = false)
    (hv : (inputValue p reading raw).value = v) (hne : v.isEmpty = false)
    (hrest : (legacyArgs inputs topics fields).value = .ok args) :
    (legacyArgs ((p, reading) :: inputs) topics (raw :: fields)).value = .ok (v :: args) := by
  rw [legacyArgs.eq_def]
  simp only [hindexed, Bool.false_eq_true, if_false, Noted.value_bind, Noted.value_pure, hv, hrest,
    hne, Except.map]

/-! ## Logs -/

/-- A log of the bridge. -/
def bridgeLog (topics : List (List UInt8)) (data : List UInt8) (height : UInt64) : RawLog where
  address := "0x0000000000000000000000000000000001000006"
  topics := topics.map Hex.encodePrefixed
  data := Hex.encodePrefixed data
  blockNumber := some height
  blockHash := none
  transactionHash := none
  transactionIndex := none
  logIndex := none

/-- A log with the name of an event is decoded to this event if all arguments can be read. -/
theorem decodeLegacyLog_of_args {events : List LegacyEvent} {event : LegacyEvent} {log : RawLog}
    {topic : String} {topics : List String} {args : List Value}
    (htopics : log.topics = topic :: topics) (hname : eventName topic = .ok event.name)
    (hevent : findLegacyEvent events event.name = some event)
    (hargs : (event.args topics log.data).value = .ok args) :
    (decodeLegacyLog events log).value =
      .decoded log ⟨event.name, event.hash, event.fragment, args⟩ := by
  rw [decodeLegacyLog, htopics]
  simp only [hname, hevent, Noted.value_bind, hargs, Noted.value_pure]

end ContractLens.Bridge
