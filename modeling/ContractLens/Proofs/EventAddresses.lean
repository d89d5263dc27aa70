import ContractLens.EventAddresses
import ContractLens.Proofs.Bytes
import ContractLens.Proofs.EventArgs
import ContractLens.Proofs.Text.Hex

/-!
# Addresses of decoded events

The addresses of an event are those of its arguments, each paired with the input at its place. An
argument that is an address, or a list of addresses, holds them; bytes that stand for a list are cut
into blocks of twenty.

* `mem_ofArgs_iff`: inputs and arguments are paired by place.
* `mem_splitPacked_encode`: packed addresses are blocks of twenty bytes.
* `Holds`: a value is an address or lists it.
-/

namespace ContractLens

open Abi

namespace EventAddresses

/-! ## Pairs of inputs and arguments -/

theorem mem_addNew {found texts : List String} {a : String} :
    a ∈ addNew found texts ↔ a ∈ found ∨ a ∈ texts := by
  induction texts generalizing found with
  | nil => simp [addNew]
  | cons s texts ih =>
    rw [addNew, List.foldl_cons, ← addNew, ih, List.mem_cons]
    split_ifs with hs
    · rw [List.contains_iff_mem] at hs
      constructor
      · exact Or.imp_right Or.inr
      · rintro (h | rfl | h)
        · exact Or.inl h
        · exact Or.inl hs
        · exact Or.inr h
    · rw [List.mem_append, List.mem_singleton, or_assoc]

theorem mem_foldl_addNew {pairs : List (Param × Value)} {found : List String} {a : String} :
    a ∈ pairs.foldl (fun found (input, arg) => addNew found (ofArg input.type arg)) found ↔
      a ∈ found ∨ ∃ pair ∈ pairs, a ∈ ofArg pair.1.type pair.2 := by
  induction pairs generalizing found with
  | nil => simp
  | cons pair pairs ih =>
    rw [List.foldl_cons, ih, mem_addNew, List.exists_mem_cons_iff, or_assoc]

/-- The addresses of an event are those of the arguments at the places of its inputs. -/
theorem mem_ofArgs_iff {f : Fragment} {args : List Value} {a : String} :
    a ∈ ofArgs f args ↔
      ∃ (k : ℕ) (p : Param) (v : Value), f.inputs[k]? = some p ∧ args[k]? = some v ∧
        a ∈ ofArg p.type v := by
  rw [ofArgs, mem_foldl_addNew]
  constructor
  · rintro (h | ⟨⟨p, v⟩, hmem, ha⟩)
    · exact absurd h List.not_mem_nil
    · obtain ⟨k, hk⟩ := List.mem_iff_getElem?.mp hmem
      obtain ⟨hp, hv⟩ := List.getElem?_zip_eq_some.mp hk
      exact ⟨k, p, v, hp, hv, ha⟩
  · rintro ⟨k, p, v, hp, hv, ha⟩
    refine Or.inr ⟨(p, v), ?_, ha⟩
    exact List.mem_iff_getElem?.mpr ⟨k, List.getElem?_zip_eq_some.mpr ⟨hp, hv⟩⟩

/-- A type whose values may be reported. -/
def IsAddressType (type : String) : Prop := type = "address" ∨ type = "address[]"

instance (type : String) : Decidable (IsAddressType type) := inferInstanceAs (Decidable (_ ∨ _))

theorem ofArg_of_not_isAddressType {type : String} (h : ¬ IsAddressType type) (v : Value) :
    ofArg type v = [] := by
  rw [IsAddressType, not_or] at h
  unfold ofArg
  rw [if_neg h.1, if_neg h.2]

theorem isAddressType_of_mem_ofArg {a : String} (type : String) (v : Value)
    (h : a ∈ ofArg type v) : IsAddressType type := by
  by_contra htype
  rw [ofArg_of_not_isAddressType htype] at h
  exact List.not_mem_nil h

theorem ofArg_null (type : String) : ofArg type .null = [] := by
  unfold ofArg
  split_ifs <;> rfl

/-! ## Packed addresses -/

/-- The bytes of a text are read as that text. -/
theorem fromUTF8?_utf8Bytes (s : String) :
    String.fromUTF8? (ByteArray.mk (utf8Bytes s).toArray) = some s := by
  have hbytes : ByteArray.mk (utf8Bytes s).toArray = s.toByteArray := by
    rw [utf8Bytes_eq, Array.toArray_toList]
  rw [hbytes, String.fromUTF8?, dif_pos s.isValidUTF8]
  rfl

/-- Some twenty bytes in hex, where the bytes are cut into such blocks from their start. -/
def IsBlockOf (raw : List UInt8) (a : String) : Prop :=
  ∃ n, 20 * (n + 1) ≤ raw.length ∧ a = Hex.encodePrefixed ((raw.drop (20 * n)).take 20)

/-- Packed addresses in hex are the blocks of twenty bytes. -/
theorem mem_splitPacked_encode {raw : List UInt8} {a : String} :
    a ∈ splitPacked (Hex.encode raw) ↔ IsBlockOf raw a := by
  have hblock (n : ℕ) : ((utf8Bytes (Hex.encode raw)).drop (40 * n)).take 40 =
      utf8Bytes (Hex.encode ((raw.drop (20 * n)).take 20)) := by
    rw [show 40 * n = 2 * (20 * n) by omega, show 40 = 2 * 20 from rfl,
      Hex.drop_utf8Bytes_encode, Hex.take_utf8Bytes_encode]
  simp only [splitPacked, blocks, List.mem_filterMap, List.mem_map, List.mem_range,
    Hex.length_utf8Bytes_encode, hblock]
  constructor
  · rintro ⟨block, ⟨n, hn, rfl⟩, ha⟩
    rw [fromUTF8?_utf8Bytes] at ha
    exact ⟨n, by omega, (Option.some.inj ha).symm⟩
  · rintro ⟨n, hn, rfl⟩
    refine ⟨_, ⟨n, by omega, rfl⟩, ?_⟩
    rw [fromUTF8?_utf8Bytes]
    rfl

/-! ## Addresses that a value holds -/

/-- A value of this type is the address or lists it. -/
def Holds (type : String) (v : Value) (a : String) : Prop :=
  (type = "address" ∧ v = .address a) ∨
    (type = "address[]" ∧ ∃ items, v = .array items ∧ .address a ∈ items)

theorem Holds.isAddressType {type : String} {v : Value} {a : String} (h : Holds type v a) :
    IsAddressType type := h.imp And.left And.left

/-- Whatever holds an address is reported. -/
theorem Holds.mem_ofArg {type : String} {v : Value} {a : String} (h : Holds type v a) :
    a ∈ ofArg type v := by
  rcases h with ⟨rfl, rfl⟩ | ⟨rfl, items, rfl, ha⟩
  · exact List.mem_singleton_self a
  · exact List.mem_filterMap.mpr ⟨.address a, ha, rfl⟩

theorem holds_address_iff {hex a : String} :
    a ∈ ofArg "address" (.address hex) ↔ Holds "address" (.address hex) a := by
  refine ⟨fun h => Or.inl ⟨rfl, ?_⟩, Holds.mem_ofArg⟩
  rw [List.mem_singleton.mp h]

/-- Of a list of addresses all items are reported. -/
theorem holds_array_iff {items : List Value} (h : ∀ item ∈ items, ∃ hex, item = .address hex)
    {a : String} : a ∈ ofArg "address[]" (.array items) ↔ Holds "address[]" (.array items) a := by
  refine ⟨fun ha => Or.inr ⟨rfl, items, rfl, ?_⟩, Holds.mem_ofArg⟩
  obtain ⟨item, hitem, ha⟩ := List.mem_filterMap.mp ha
  obtain ⟨hex, rfl⟩ := h item hitem
  obtain rfl := Option.some.inj ha
  exact hitem

theorem mem_ofArg_bytes_iff {raw : List UInt8} {a : String} :
    a ∈ ofArg "address[]" (.bytes raw) ↔ IsBlockOf raw a := mem_splitPacked_encode

end EventAddresses

end ContractLens
