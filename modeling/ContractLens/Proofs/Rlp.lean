import ContractLens.Proofs.Bytes
import ContractLens.Rlp
import Mathlib.Data.Nat.Log

/-!
# Encoded items are read back

An `Item` is a byte string or a list of items, and `Item.encode` its shortest encoding, the only one
that is well-formed. Items are read from any slice that starts with their encoding.

* `header_lengthPrefix`: a header is read from what is written for a length.
* `completeHeader_encode`, `payload_encode_append`: an item is found at the start of a slice.
* `walk_encodeAll`, `elements_encode`: the items in a payload are found one after the other.
* `payload_of_isEncoding`: the elements of an encoded list make up its payload.
-/

namespace ContractLens.Rlp

/-! ## Encoding -/

/-- The bytes that a number takes without leading zeros. -/
def byteCount (n : ℕ) : ℕ := Nat.log 256 n + 1

/-- The header of a payload of a length: its kind with the length, or with the length's length. -/
def lengthPrefix (kind n : ℕ) : List UInt8 :=
  if n ≤ 55 then [UInt8.ofNat (kind + n)]
  else UInt8.ofNat (kind + 55 + byteCount n) :: bytesOfNat (byteCount n) n

/-- A byte string or a list. -/
inductive Item where
  | bytes (raw : List UInt8)
  | list (items : List Item)

/-- Whether a byte string is one byte that needs no header. -/
def needsNoHeader : List UInt8 → Bool
  | [b] => b.toNat ≤ 0x7f
  | _ => false

namespace Item

mutual

/-- The encoding of an item. -/
def encode : Item → List UInt8
  | bytes raw => if needsNoHeader raw then raw else lengthPrefix 0x80 raw.length ++ raw
  | list items => lengthPrefix 0xc0 (encodeAll items).length ++ encodeAll items
termination_by structural item => item

/-- The encodings of items one after the other. -/
def encodeAll : List Item → List UInt8
  | [] => []
  | item :: items => item.encode ++ encodeAll items
termination_by structural items => items

end

/-- The bytes behind the header of an item. -/
def payload : Item → List UInt8
  | bytes raw => raw
  | list items => encodeAll items

/-- The header of an item. -/
def marker : Item → List UInt8
  | bytes raw => if needsNoHeader raw then [] else lengthPrefix 0x80 raw.length
  | list items => lengthPrefix 0xc0 (encodeAll items).length

/-- Whether an item is a list. -/
def isList : Item → Bool
  | bytes _ => false
  | list _ => true

/-- Whether all lengths can be written in eight bytes, as a header has to. -/
def Fits (item : Item) : Prop := item.payload.length < 2 ^ 64

end Item

/-- A byte string is exactly the encoding of an item. -/
def IsEncoding (raw : List UInt8) (item : Item) : Prop := item.Fits ∧ item.encode = raw

/-! ## Lengths -/

theorem lt_pow_byteCount (n : ℕ) : n < 256 ^ byteCount n := Nat.lt_pow_succ_log_self (by norm_num) n

theorem byteCount_le {n : ℕ} (h : n < 2 ^ 64) : byteCount n ≤ 8 := by
  obtain rfl | hne := eq_or_ne n 0
  · rw [byteCount, Nat.log_zero_right]
    norm_num
  · exact Nat.log_lt_of_lt_pow hne (lt_of_lt_of_eq h (by norm_num))

/-- A length is written without leading zeros. -/
theorem exists_bytesOfNat_byteCount {n : ℕ} (h : n ≠ 0) :
    ∃ first rest, bytesOfNat (byteCount n) n = first :: rest ∧ first ≠ 0 := by
  have hlength := length_bytesOfNat (byteCount n) n
  cases hbytes : bytesOfNat (byteCount n) n with
  | nil =>
    rw [hbytes] at hlength
    cases hlength
  | cons first rest =>
    refine ⟨first, rest, rfl, ?_⟩
    rintro rfl
    have hvalue := natOfBytes_bytesOfNat_of_lt (lt_pow_byteCount n)
    have hrest := natOfBytes_lt rest
    rw [hbytes, List.length_cons] at hlength
    rw [Nat.succ.inj hlength] at hrest
    rw [hbytes, natOfBytes_cons, Nat.succ.inj hlength, UInt8.toNat_zero, Nat.mul_zero,
      Nat.zero_add] at hvalue
    have hlog := Nat.pow_log_le_self 256 h
    omega

/-- When a length behind the first byte is read. -/
theorem longHeader_eq_ok_iff {count : ℕ} {rest : List UInt8} {h : Header} :
    longHeader count rest = .ok h ↔ (∃ first more, rest = first :: more ∧ first ≠ 0) ∧
      count ≤ rest.length ∧ 55 < natOfBytes (rest.take count) ∧
      h = ⟨1 + count, natOfBytes (rest.take count)⟩ := by
  unfold longHeader
  split
  · simp
  · simp
  · next hnil hzero =>
    have hfirst : ∃ first more, rest = first :: more ∧ first ≠ 0 := by
      cases rest with
      | nil => exact absurd rfl hnil
      | cons first more => exact ⟨first, more, rfl, fun h0 => hzero more (by rw [h0])⟩
    dsimp only
    split_ifs with hlong hsmall
    · exact iff_of_false nofun fun hok => absurd hok.2.1 (by omega)
    · exact iff_of_false nofun fun hok => absurd hok.2.2.1 (by omega)
    · rw [Except.ok.injEq, eq_comm]
      exact ⟨fun hh => ⟨hfirst, by omega, by omega, hh⟩, fun hok => hok.2.2.2⟩

theorem longHeader_append {n : ℕ} (h : 55 < n) (rest : List UInt8) :
    longHeader (byteCount n) (bytesOfNat (byteCount n) n ++ rest) =
      .ok ⟨1 + byteCount n, n⟩ := by
  have hlength := length_bytesOfNat (byteCount n) n
  have hvalue := natOfBytes_bytesOfNat_of_lt (lt_pow_byteCount n)
  obtain ⟨first, more, hbytes, hfirst⟩ := exists_bytesOfNat_byteCount (by omega : n ≠ 0)
  rw [longHeader_eq_ok_iff, List.take_left' hlength, hvalue]
  refine ⟨⟨first, more ++ rest, by rw [hbytes, List.cons_append], hfirst⟩, ?_, h, rfl⟩
  rw [List.length_append]
  omega

/-- A header is read from what is written for the length of a payload. -/
theorem header_lengthPrefix {kind n : ℕ} (hkind : kind = 0x80 ∨ kind = 0xc0) (h : n < 2 ^ 64)
    (rest : List UInt8) :
    header (lengthPrefix kind n ++ rest) = .ok ⟨(lengthPrefix kind n).length, n⟩ := by
  have hcount := byteCount_le h
  have hpos : 0 < byteCount n := Nat.succ_pos _
  rw [lengthPrefix]
  split_ifs with hsmall
  · have hfirst : (UInt8.ofNat (kind + n)).toNat = kind + n :=
      toNat_ofNat_of_lt (by omega)
    rw [List.singleton_append, header, hfirst]
    obtain rfl | rfl := hkind
    · rw [if_neg (by omega), if_pos (by omega), Nat.add_sub_cancel_left]
      rfl
    · rw [if_neg (by omega), if_neg (by omega), if_neg (by omega), if_pos (by omega),
        Nat.add_sub_cancel_left]
      rfl
  · have hfirst : (UInt8.ofNat (kind + 55 + byteCount n)).toNat = kind + 55 + byteCount n :=
      toNat_ofNat_of_lt (by omega)
    rw [List.cons_append, header, hfirst, List.length_cons, length_bytesOfNat]
    obtain rfl | rfl := hkind
    · rw [if_neg (by omega), if_neg (by omega), if_pos (by omega), Nat.add_sub_cancel_left,
        longHeader_append (by omega), Nat.add_comm]
    · rw [if_neg (by omega), if_neg (by omega), if_neg (by omega), if_neg (by omega),
        Nat.add_sub_cancel_left, longHeader_append (by omega), Nat.add_comm]

/-! ## Items -/

theorem encode_eq (item : Item) : item.encode = item.marker ++ item.payload := by
  cases item with
  | bytes raw =>
    rw [Item.encode, Item.marker, Item.payload]
    split_ifs <;> rfl
  | list items => rw [Item.encode, Item.marker, Item.payload]

theorem length_payload_le (item : Item) : item.payload.length ≤ item.encode.length := by
  rw [encode_eq, List.length_append]
  exact Nat.le_add_left _ _

theorem eq_singleton_of_needsNoHeader {raw : List UInt8} (h : needsNoHeader raw = true) :
    ∃ b, raw = [b] ∧ b.toNat ≤ 0x7f := by
  unfold needsNoHeader at h
  split at h
  · exact ⟨_, rfl, of_decide_eq_true h⟩
  · cases h

theorem length_lengthPrefix_le {kind n : ℕ} (h : n < 2 ^ 64) :
    (lengthPrefix kind n).length ≤ 9 := by
  have hcount := byteCount_le h
  rw [lengthPrefix]
  split_ifs
  · exact Nat.le_add_left 1 8
  · rw [List.length_cons, length_bytesOfNat]
    omega

/-- A header takes at most nine bytes. -/
theorem length_encode_le {item : Item} (h : item.Fits) :
    item.encode.length ≤ item.payload.length + 9 := by
  rw [encode_eq, List.length_append, Nat.add_comm]
  refine Nat.add_le_add_left ?_ _
  cases item with
  | bytes raw =>
    rw [Item.marker]
    split_ifs
    · exact Nat.zero_le 9
    · exact length_lengthPrefix_le h
  | list items => exact length_lengthPrefix_le h

theorem length_encode_bytes_le {raw : List UInt8} (h : raw.length < 2 ^ 64) :
    (Item.bytes raw).encode.length ≤ raw.length + 9 := by
  have hfits : (Item.bytes raw).Fits := h
  exact length_encode_le hfits

theorem header_encode {item : Item} (h : item.Fits) (rest : List UInt8) :
    header (item.encode ++ rest) = .ok ⟨item.marker.length, item.payload.length⟩ := by
  cases item with
  | bytes raw =>
    rw [encode_eq, Item.marker, Item.payload]
    split_ifs with hraw
    · obtain ⟨b, rfl, hb⟩ := eq_singleton_of_needsNoHeader hraw
      rw [List.nil_append, List.singleton_append, header, if_pos hb]
      rfl
    · rw [List.append_assoc]
      exact header_lengthPrefix (.inl rfl) h _
  | list items =>
    rw [encode_eq, Item.marker, Item.payload, List.append_assoc]
    exact header_lengthPrefix (.inr rfl) h _

theorem total_eq (item : Item) :
    (⟨item.marker.length, item.payload.length⟩ : Header).total = item.encode.length := by
  rw [Header.total, encode_eq, List.length_append]

/-- An item is found at the start of a slice. -/
theorem completeHeader_encode {item : Item} (h : item.Fits) (rest : List UInt8) :
    completeHeader (item.encode ++ rest) = .ok ⟨item.marker.length, item.payload.length⟩ := by
  rw [completeHeader, header_encode h]
  simp only [total_eq]
  rw [if_pos (by rw [List.length_append]; omega)]

theorem payload_encode_append {item : Item} (h : item.Fits) (rest : List UInt8) :
    payload (item.encode ++ rest) = .ok item.payload := by
  rw [payload, completeHeader_encode h, encode_eq, List.append_assoc]
  simp only [List.drop_left, List.take_left]

theorem payload_encode {item : Item} (h : item.Fits) : payload item.encode = .ok item.payload := by
  have hpayload := payload_encode_append h []
  rwa [List.append_nil] at hpayload

theorem isList_cons (first : UInt8) (rest : List UInt8) :
    isList (first :: rest) = decide (0xc0 ≤ first.toNat) :=
  decide_eq_decide.mpr UInt8.le_iff_toNat_le

/-- The first byte of a header is at most 63 above the number of its kind. -/
theorem exists_lengthPrefix {kind n : ℕ} (hkind : kind ≤ 0xc0) (h : n < 2 ^ 64) :
    ∃ first more, lengthPrefix kind n = first :: more ∧ kind ≤ first.toNat ∧
      first.toNat < kind + 64 := by
  have hcount := byteCount_le h
  rw [lengthPrefix]
  split_ifs with hsmall
  · have hfirst : (UInt8.ofNat (kind + n)).toNat = kind + n :=
      toNat_ofNat_of_lt (by omega)
    exact ⟨_, [], rfl, by omega, by omega⟩
  · have hfirst : (UInt8.ofNat (kind + 55 + byteCount n)).toNat = kind + 55 + byteCount n :=
      toNat_ofNat_of_lt (by omega)
    exact ⟨_, _, rfl, by omega, by omega⟩

/-- The first byte tells a list from a byte string. -/
theorem isList_encode_append {item : Item} (h : item.Fits) (rest : List UInt8) :
    isList (item.encode ++ rest) = item.isList := by
  cases item with
  | bytes raw =>
    rw [encode_eq, Item.marker, Item.payload]
    split_ifs with hraw
    · obtain ⟨b, rfl, hb⟩ := eq_singleton_of_needsNoHeader hraw
      rw [List.nil_append, List.singleton_append, isList_cons]
      exact decide_eq_false (by omega)
    · obtain ⟨first, more, hstart, -, hlt⟩ := exists_lengthPrefix (by norm_num : 0x80 ≤ 0xc0) h
      rw [Item.payload] at hstart
      rw [hstart, List.cons_append, List.cons_append, isList_cons]
      exact decide_eq_false (by omega)
  | list items =>
    obtain ⟨first, more, hstart, hle, -⟩ := exists_lengthPrefix (le_refl 0xc0) h
    rw [Item.payload] at hstart
    rw [encode_eq, Item.marker, Item.payload, hstart, List.cons_append, List.cons_append,
      isList_cons]
    exact decide_eq_true hle

theorem isList_encode {item : Item} (h : item.Fits) : isList item.encode = item.isList := by
  have hlist := isList_encode_append h []
  rwa [List.append_nil] at hlist

/-! ## Sequences of items -/

theorem encode_ne_nil {item : Item} (h : item.Fits) : item.encode ≠ [] := by
  intro hnil
  have hheader := header_encode h []
  rw [hnil, List.nil_append, header] at hheader
  cases hheader

theorem fits_of_mem {items : List Item} (h : (Item.encodeAll items).length < 2 ^ 64) :
    ∀ item ∈ items, item.Fits := by
  induction items with
  | nil => nofun
  | cons item items ih =>
    rw [Item.encodeAll, List.length_append] at h
    have hpayload := length_payload_le item
    exact List.forall_mem_cons.mpr ⟨by rw [Item.Fits]; omega, ih (by omega)⟩

theorem walkFor_encodeAll {items : List Item} (h : ∀ item ∈ items, item.Fits) {count : ℕ}
    (hcount : items.length ≤ count) :
    walkFor count (Item.encodeAll items) = items.map Item.encode := by
  induction items generalizing count with
  | nil => cases count <;> rfl
  | cons item items ih =>
    obtain ⟨hitem, hitems⟩ := List.forall_mem_cons.mp h
    cases count with
    | zero => cases hcount
    | succ count =>
      rw [walkFor, Item.encodeAll, completeHeader_encode hitem]
      simp only [total_eq, List.take_left, List.drop_left]
      rw [ih hitems (Nat.le_of_succ_le_succ hcount), List.map_cons]

theorem length_le_encodeAll {items : List Item} (h : ∀ item ∈ items, item.Fits) :
    items.length ≤ (Item.encodeAll items).length := by
  induction items with
  | nil => exact Nat.zero_le _
  | cons item items ih =>
    obtain ⟨hitem, hitems⟩ := List.forall_mem_cons.mp h
    have hpos := List.length_pos_iff.mpr (encode_ne_nil hitem)
    have hrest := ih hitems
    rw [Item.encodeAll, List.length_append, List.length_cons]
    omega

/-- Items are found one after the other. -/
theorem walk_encodeAll {items : List Item} (h : ∀ item ∈ items, item.Fits) :
    walk (Item.encodeAll items) = items.map Item.encode :=
  walkFor_encodeAll h (length_le_encodeAll h)

/-- The elements of a list are the items in it. -/
theorem elements_encode {items : List Item} (h : (Item.list items).Fits) :
    elements (Item.list items).encode = items.map Item.encode := by
  have hitems := fits_of_mem h
  have hhead := completeHeader_encode h []
  rw [List.append_nil] at hhead
  have hdrop : (Item.list items).encode.drop (Item.list items).marker.length =
      Item.encodeAll items := by
    rw [encode_eq, List.drop_left, Item.payload]
  rw [elements, hhead]
  simp only [hdrop, Item.payload, List.take_length]
  cases items with
  | nil => rfl
  | cons item items =>
    have hfirst := completeHeader_encode (List.forall_mem_cons.mp hitems).1 (Item.encodeAll items)
    rw [← Item.encodeAll] at hfirst
    rw [hfirst]
    exact walk_encodeAll hitems

theorem encodeAll_eq_flatten (items : List Item) :
    Item.encodeAll items = (items.map Item.encode).flatten := by
  induction items with
  | nil => rfl
  | cons item items ih => rw [Item.encodeAll, ih, List.map_cons, List.flatten_cons]

/-- The elements of an encoded list make up its payload. -/
theorem payload_of_isEncoding {raw : List UInt8} {item : Item} (h : IsEncoding raw item)
    (hlist : isList raw = true) : payload raw = .ok (elements raw).flatten := by
  obtain ⟨hfits, rfl⟩ := h
  cases item with
  | bytes raw =>
    rw [isList_encode hfits] at hlist
    cases hlist
  | list items =>
    rw [payload_encode hfits, elements_encode hfits, ← encodeAll_eq_flatten]
    rfl

end ContractLens.Rlp
