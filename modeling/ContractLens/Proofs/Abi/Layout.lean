import ContractLens.Abi.Decode
import ContractLens.Proofs.Bytes
import Mathlib.Data.List.Forall2

/-!
# Values of a type and the layout of their encoding

A member of a sequence has a head and a tail: a value of a static type stands in its head, a dynamic
one in its tail, and its head is the offset of the tail. The layout is the same for all values of a
type.

* `AbiType.Has`: a value has a type.
* `encodeParts_eq`: a sequence is encoded by the heads and the tails of its members.
* `AbiType.Has.isDynamic_eq`, `AbiType.Has.length_head`: type and value agree on the layout.
* `AbiType.Has.minWords_le`: a value takes as many words as its type needs at least.
-/

namespace ContractLens.Abi

/-! ## Values of a type -/

/-- A value has a type. A byte string of fixed size stands at the start of its word. A sequence has
    at most as many items as can be stored, and an array of fixed size is not empty. -/
inductive AbiType.Has : AbiType → Datum → Prop
  | bool (b : Bool) : Has .bool (.bool b)
  | uint {bits n : ℕ} : bits ≤ 256 → n < 2 ^ bits → Has (.uint bits) (.uint n bits)
  | int {bits : ℕ} {n : ℤ} : 0 < bits → bits ≤ 256 → -2 ^ (bits - 1) ≤ n → n < 2 ^ (bits - 1) →
      Has (.int bits) (.int n bits)
  | address {raw : List UInt8} : raw.length = 20 → Has .address (.address raw)
  | fixedBytes {raw : List UInt8} {size : ℕ} : raw.length = size → 0 < size → size ≤ 32 →
      Has (.fixedBytes size) (.fixedBytes (padRight raw) size)
  | function {raw : List UInt8} : raw.length = 24 → Has .function (.function raw)
  | bytes (raw : List UInt8) : Has .bytes (.bytes raw)
  | string (s : String) : Has .string (.string s)
  | array {t : AbiType} {items : List Datum} : items.length * valueSize < storageSize →
      (∀ d ∈ items, Has t d) → Has (.array t) (.array items)
  | fixedArray {t : AbiType} {items : List Datum} : items ≠ [] →
      items.length * valueSize < storageSize → (∀ d ∈ items, Has t d) →
      Has (.fixedArray t items.length) (.fixedArray items)
  | tuple {types : List AbiType} {items : List Datum} : types.length = items.length →
      (∀ t d, (t, d) ∈ types.zip items → Has t d) → Has (.tuple types) (.tuple items)

/-- The items of an array are values of as many equal types. -/
theorem forall₂_replicate {R : AbiType → Datum → Prop} {t : AbiType} {items : List Datum}
    (h : ∀ d ∈ items, R t d) : List.Forall₂ R (List.replicate items.length t) items := by
  induction items with
  | nil => exact .nil
  | cons d items ih =>
    exact .cons (h d List.mem_cons_self) (ih fun d' hd' => h d' (List.mem_cons_of_mem d hd'))

theorem forall₂_of_zip {R : AbiType → Datum → Prop} {types : List AbiType} {items : List Datum}
    (hlength : types.length = items.length) (h : ∀ t d, (t, d) ∈ types.zip items → R t d) :
    List.Forall₂ R types items :=
  List.forall₂_iff_zip.mpr ⟨hlength, fun {t d} hmem => h t d hmem⟩

/-- The members of a tuple have its types. -/
theorem AbiType.Has.tuple_of_forall₂ {types : List AbiType} {items : List Datum}
    (h : List.Forall₂ AbiType.Has types items) : (AbiType.tuple types).Has (.tuple items) :=
  .tuple h.length_eq fun _ _ hmem => (List.forall₂_iff_zip.mp h).2 hmem

/-! ## Words -/

@[simp] theorem length_wordOfNat (n : ℕ) : (wordOfNat n).length = 32 := length_bytesOfNat 32 n

@[simp] theorem length_wordOfInt (n : ℤ) : (wordOfInt n).length = 32 := length_wordOfNat _

theorem length_padLeft {raw : List UInt8} (h : raw.length ≤ 32) : (padLeft raw).length = 32 := by
  rw [padLeft, List.length_append, List.length_replicate]
  omega

theorem length_padRight_of_le {raw : List UInt8} (hpos : 0 < raw.length) (h : raw.length ≤ 32) :
    (padRight raw).length = 32 := by
  rw [padRight, List.length_append, List.length_replicate]
  omega

/-! ## Heads and tails -/

namespace Datum

/-- What stands for a member among the heads of its sequence, if its tail is at an offset. -/
def head (d : Datum) (offset : ℕ) : List UInt8 := if d.isDynamic then wordOfNat offset else d.encode

/-- What stands for a member behind all heads of its sequence. -/
def tail (d : Datum) : List UInt8 := if d.isDynamic then d.encode else []

/-- The heads of members whose tails start at an offset. -/
def heads : ℕ → List Datum → List UInt8
  | _, [] => []
  | offset, d :: ds => d.head offset ++ heads (offset + d.tail.length) ds

/-- The tails of members. -/
def tails (ds : List Datum) : List UInt8 := ds.flatMap tail

theorem encodeParts_eq (offset : ℕ) (ds : List Datum) :
    encodeParts offset ds = (heads offset ds, tails ds) := by
  induction ds generalizing offset with
  | nil => rfl
  | cons d ds ih =>
    rw [encodeParts, heads, tails, List.flatMap_cons, ← tails, head, tail]
    cases d.isDynamic with
    | true => simp only [if_true, ih]
    | false => simp only [Bool.false_eq_true, if_false, ih, List.length_nil, Nat.add_zero,
        List.nil_append]

/-- The encoding of a sequence. -/
def sequence (ds : List Datum) : List UInt8 := heads (headSizeSum ds) ds ++ tails ds

theorem encode_array (ds : List Datum) :
    (array ds).encode = wordOfNat ds.length ++ sequence ds := by
  rw [encode, encodeParts_eq, sequence]
  exact List.append_assoc ..

theorem encode_fixedArray (ds : List Datum) : (fixedArray ds).encode = sequence ds := by
  rw [encode, encodeParts_eq, sequence]

theorem encode_tuple (ds : List Datum) : (tuple ds).encode = sequence ds := by
  rw [encode, encodeParts_eq, sequence]

theorem tail_of_static {d : Datum} (h : d.isDynamic = false) : d.tail = [] := by
  rw [tail, h]
  rfl

/-- Members that are not dynamic have no tails. -/
theorem tails_of_static {ds : List Datum} (h : anyDynamic ds = false) : tails ds = [] := by
  induction ds with
  | nil => rfl
  | cons d ds ih =>
    rw [anyDynamic, Bool.or_eq_false_iff] at h
    rw [tails, List.flatMap_cons, ← tails, tail_of_static h.1, ih h.2, List.nil_append]

theorem length_encode_le (d : Datum) (offset : ℕ) :
    d.encode.length ≤ (d.head offset).length + d.tail.length := by
  rw [head, tail]
  split_ifs
  · exact Nat.le_add_left _ _
  · exact Nat.le_add_right _ _

end Datum

/-! ## Layout by type -/

namespace AbiType

open Datum (headSizeSum heads tails)

/-- Type and value agree on whether the encoding stands behind an offset. -/
theorem anyDynamic_eq {types : List AbiType} {ds : List Datum}
    (h : List.Forall₂ (fun t d => d.isDynamic = t.isDynamic) types ds) :
    Datum.anyDynamic ds = anyDynamic types := by
  induction h with
  | nil => rfl
  | cons htd _ ih => rw [Datum.anyDynamic, anyDynamic, htd, ih]

theorem anyDynamic_replicate {n : ℕ} (h : 0 < n) (t : AbiType) :
    anyDynamic (List.replicate n t) = t.isDynamic := by
  induction n with
  | zero => exact absurd h (lt_irrefl 0)
  | succ n ih =>
    rw [List.replicate_succ, anyDynamic]
    cases n with
    | zero => exact Bool.or_false _
    | succ n => rw [ih (Nat.succ_pos n), Bool.or_self]

theorem Has.isDynamic_eq {t : AbiType} {d : Datum} (h : t.Has d) : d.isDynamic = t.isDynamic := by
  induction h with
  | @fixedArray t items hne _ _ ih =>
    have hitems := anyDynamic_eq (forall₂_replicate ih)
    rw [anyDynamic_replicate (List.length_pos_iff.mpr hne)] at hitems
    rw [Datum.isDynamic, hitems, isDynamic]
  | tuple hlength _ ih =>
    rw [Datum.isDynamic, isDynamic, anyDynamic_eq (forall₂_of_zip hlength ih)]
  | _ => rfl

/-- The heads of members fill the space that is set aside for them. -/
theorem length_heads {types : List AbiType} {ds : List Datum}
    (h : List.Forall₂ (fun _ d => ∀ offset, (d.head offset).length = d.headSize) types ds)
    (offset : ℕ) : (heads offset ds).length = headSizeSum ds := by
  induction h generalizing offset with
  | nil => rfl
  | cons hd _ ih => rw [heads, List.length_append, hd, ih, headSizeSum]

/-- A sequence without dynamic members is its heads. -/
theorem length_sequence_of_static {types : List AbiType} {ds : List Datum}
    (h : List.Forall₂ (fun _ d => ∀ offset, (d.head offset).length = d.headSize) types ds)
    (hstatic : Datum.anyDynamic ds = false) : (Datum.sequence ds).length = headSizeSum ds := by
  rw [Datum.sequence, Datum.tails_of_static hstatic, List.append_nil, length_heads h]

/-- The head of a sequence in one value: an offset, or all members. -/
theorem length_head_sequence {types : List AbiType} {ds : List Datum} {d : Datum}
    (hdynamic : d.isDynamic = Datum.anyDynamic ds) (hcode : d.encode = Datum.sequence ds)
    (hsize : d.headSize = if Datum.anyDynamic ds then 32 else headSizeSum ds)
    (h : List.Forall₂ (fun _ d => ∀ offset, (d.head offset).length = d.headSize) types ds)
    (offset : ℕ) : (d.head offset).length = d.headSize := by
  rw [Datum.head, hdynamic, hsize, hcode]
  cases hany : Datum.anyDynamic ds with
  | true => exact length_wordOfNat offset
  | false => exact length_sequence_of_static h hany

/-- The head of a value has the size that is set aside for it. -/
theorem Has.length_head {t : AbiType} {d : Datum} (h : t.Has d) (offset : ℕ) :
    (d.head offset).length = d.headSize := by
  induction h generalizing offset with
  | address hraw => exact length_padLeft (by omega)
  | fixedBytes hraw hpos hsize => exact length_padRight_of_le (by omega) (by omega)
  | function hraw => exact length_padRight_of_le (by omega) (by omega)
  | @fixedArray t _ _ _ _ ih =>
    exact length_head_sequence rfl (Datum.encode_fixedArray _) rfl (forall₂_replicate (t := t) ih)
      offset
  | tuple hlength _ ih =>
    exact length_head_sequence rfl (Datum.encode_tuple _) rfl (forall₂_of_zip hlength ih) offset
  | _ => exact length_wordOfNat _

theorem length_heads_of_has {types : List AbiType} {ds : List Datum}
    (h : List.Forall₂ Has types ds) (offset : ℕ) : (heads offset ds).length = headSizeSum ds :=
  length_heads (h.imp fun _ _ => Has.length_head) offset

/-! ## Words that are needed -/

theorem minWordsSum_replicate (n : ℕ) (t : AbiType) :
    minWordsSum (List.replicate n t) = n * t.minWords := by
  induction n with
  | zero => rw [List.replicate_zero, minWordsSum, Nat.zero_mul]
  | succ n ih => rw [List.replicate_succ, minWordsSum, ih]; ring

/-- Members of a sequence take the words that their types need at least. -/
theorem minWordsSum_le {types : List AbiType} {ds : List Datum}
    (h : List.Forall₂ (fun t d => 32 * t.minWords ≤ d.encode.length) types ds) (offset : ℕ) :
    32 * minWordsSum types ≤ (heads offset ds).length + (tails ds).length := by
  induction h generalizing offset with
  | nil => exact Nat.le_refl 0
  | @cons t d types ds htd _ ih =>
    have hrest := ih (offset + d.tail.length)
    have hd := d.length_encode_le offset
    rw [minWordsSum, heads, tails, List.flatMap_cons, ← tails, List.length_append,
      List.length_append]
    omega

theorem minWordsSum_le_sequence {types : List AbiType} {ds : List Datum}
    (h : List.Forall₂ (fun t d => 32 * t.minWords ≤ d.encode.length) types ds) :
    32 * minWordsSum types ≤ (Datum.sequence ds).length := by
  rw [Datum.sequence, List.length_append]
  exact minWordsSum_le h _

/-- A value takes the words that its type needs at least. -/
theorem Has.minWords_le {t : AbiType} {d : Datum} (h : t.Has d) :
    32 * t.minWords ≤ d.encode.length := by
  induction h with
  | bool b => exact (length_wordOfNat _).ge
  | uint _ _ => exact (length_wordOfNat _).ge
  | int _ _ _ _ => exact (length_wordOfInt _).ge
  | address hraw => exact (length_padLeft (by omega)).ge
  | fixedBytes hraw hpos hsize => exact (length_padRight_of_le (by omega) (by omega)).ge
  | function hraw => exact (length_padRight_of_le (by omega) (by omega)).ge
  | bytes raw =>
    rw [Datum.encode, List.length_append, length_wordOfNat]
    exact Nat.le_add_right _ _
  | string s =>
    rw [Datum.encode, List.length_append, length_wordOfNat]
    exact Nat.le_add_right _ _
  | array _ _ _ =>
    rw [Datum.encode_array, List.length_append, length_wordOfNat]
    exact Nat.le_add_right _ _
  | fixedArray _ _ _ ih =>
    rw [Datum.encode_fixedArray, minWords, ← minWordsSum_replicate]
    exact minWordsSum_le_sequence (forall₂_replicate ih)
  | tuple hlength _ ih =>
    rw [Datum.encode_tuple, minWords]
    exact minWordsSum_le_sequence (forall₂_of_zip hlength ih)

end AbiType

end ContractLens.Abi
