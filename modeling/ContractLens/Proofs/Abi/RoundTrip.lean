import ContractLens.Proofs.Abi.Layout
import ContractLens.Proofs.Text.Utf8

/-!
# Encoded data is read back

The decoder undoes the encoding of every value that has the type, as long as frames are not nested
too deeply and all offsets and lengths fit into eight bytes.

* `AbiType.frames`: how deep the frames of a type are nested.
* `AbiType.ReadsBack`: a value is read back wherever its head and its tail stand.
* `decodeAll_heads`: the step from the members to their sequence.
* `AbiType.Has.readsBack`: all values of a type are read back.
* `decodeParams_encodeParams`, `decodeWord_encode`: parameter lists and single words.
-/

namespace ContractLens.Abi

open DecodeFault (maxDepth)

/-! ## Reading words -/

namespace Cursor

variable {frame rest : List UInt8} {depth : ℕ}

theorem word_append {w : List UInt8} (h : w.length = 32) :
    word ⟨frame, w ++ rest, depth⟩ = .ok (w, ⟨frame, rest, depth⟩) := by
  have hlong : ¬ (w ++ rest).length < 32 := by
    rw [List.length_append]
    omega
  rw [word, if_neg hlong, List.take_left' h, List.drop_left' h]

theorem wordValue_append {w : List UInt8} (h : w.length = 32) (value : List UInt8 → Datum) :
    wordValue ⟨frame, w ++ rest, depth⟩ value = .ok (value w, ⟨frame, rest, depth⟩) := by
  rw [wordValue, word_append h]

/-- The low eight bytes of a word hold an offset. -/
theorem offset_append {n : ℕ} (h : n < 2 ^ 64) :
    offset ⟨frame, wordOfNat n ++ rest, depth⟩ = .ok (n, ⟨frame, rest, depth⟩) := by
  have hlow : (wordOfNat n).drop 24 = bytesOfNat 8 n := drop_bytesOfNat 24 8 n
  rw [offset, word_append (length_wordOfNat n)]
  simp only [hlow]
  rw [natOfBytes_bytesOfNat_of_lt (lt_of_lt_of_eq h (by norm_num))]

theorem follow_append {n : ℕ} (h : n < 2 ^ 64) (hdepth : depth < maxDepth)
    (hle : n ≤ frame.length) :
    follow ⟨frame, wordOfNat n ++ rest, depth⟩ =
      .ok (⟨frame.drop n, frame.drop n, depth + 1⟩, ⟨frame, rest, depth⟩) := by
  rw [follow, offset_append h]
  simp only [child]
  rw [if_neg (Nat.not_le.mpr hdepth), if_neg (Nat.not_lt.mpr hle)]

/-- A byte string is found behind its offset. -/
theorem byteString_append {n : ℕ} {raw after : List UInt8} (h : n < 2 ^ 64)
    (hraw : raw.length < 2 ^ 64) (hdepth : depth < maxDepth) (hle : n ≤ frame.length)
    (hframe : frame.drop n = wordOfNat raw.length ++ padRight raw ++ after) :
    byteString ⟨frame, wordOfNat n ++ rest, depth⟩ = .ok (raw, ⟨frame, rest, depth⟩) := by
  rw [byteString, follow_append h hdepth hle, hframe]
  simp only [List.append_assoc, offset_append hraw]
  rw [padRight, List.append_assoc, if_neg (by rw [List.length_append]; omega), List.take_left]

theorem here_append (hdepth : depth < maxDepth) :
    here ⟨frame, rest, depth⟩ = .ok ⟨rest, rest, depth + 1⟩ := by
  rw [here, if_neg (Nat.not_le.mpr hdepth)]

/-- The items of an array are read like members of as many equal types. -/
theorem many_eq_decodeAll (t : AbiType) (n : ℕ) (c : Cursor) :
    many t.decode n c = AbiType.decodeAll (List.replicate n t) c := by
  induction n generalizing c with
  | zero => rw [many, List.replicate_zero, AbiType.decodeAll]
  | succ n ih =>
    rw [many, List.replicate_succ, AbiType.decodeAll]
    simp only [ih]

end Cursor

/-! ## Numbers in words -/

theorem natOfBytes_wordOfNat {n : ℕ} (h : n < 2 ^ 256) : natOfBytes (wordOfNat n) = n :=
  natOfBytes_bytesOfNat_of_lt (lt_of_lt_of_eq h (by norm_num))

/-- Two's complement in any modulus that is the one of a word. -/
theorem bmod_natOfBytes_wordOfNat {modulus : ℕ} (hmodulus : modulus = 2 ^ 256) {n : ℤ}
    (hlow : -2 ^ 255 ≤ n) (hhigh : n < 2 ^ 255) :
    Int.bmod (natOfBytes (wordOfNat (n % modulus).toNat)) modulus = n := by
  have hnonneg : 0 ≤ n % modulus := Int.emod_nonneg n (by omega)
  have hlt : n % modulus < modulus := Int.emod_lt_of_pos n (by omega)
  rw [natOfBytes_wordOfNat (by omega), Int.toNat_of_nonneg hnonneg, Int.emod_bmod]
  exact Int.bmod_eq_of_le (by omega) (by omega)

theorem intOfWord_wordOfInt {n : ℤ} (hlow : -2 ^ 255 ≤ n) (hhigh : n < 2 ^ 255) :
    intOfWord (wordOfInt n) = n :=
  bmod_natOfBytes_wordOfNat (by rw [Nat.pow_eq]) hlow hhigh

/-! ## Values -/

namespace AbiType

open Datum (heads tails)

mutual

/-- How deep the frames that a value opens are nested. -/
def frames : AbiType → ℕ
  | bytes | string => 1
  | array item => item.frames + 2
  | fixedArray item _ => item.frames + 1
  | tuple items => framesMax items + 1
  | _ => 0
termination_by structural t => t

/-- How deep the frames of members are nested. -/
def framesMax : List AbiType → ℕ
  | [] => 0
  | t :: ts => max t.frames (framesMax ts)
termination_by structural ts => ts

end

theorem framesMax_replicate_le (n : ℕ) (t : AbiType) :
    framesMax (List.replicate n t) ≤ t.frames := by
  induction n with
  | zero => exact Nat.zero_le _
  | succ n ih =>
    rw [List.replicate_succ, framesMax]
    exact max_le le_rfl ih

/-- A value is read back from its head, if its tail stands at the offset that the head tells. -/
def ReadsBack (t : AbiType) (d : Datum) : Prop :=
  ∀ (rest : List UInt8) (depth : ℕ) {frame after : List UInt8} {offset : ℕ},
    depth + t.frames ≤ maxDepth →
    d.encode.length < 2 ^ 64 → offset < 2 ^ 64 → offset ≤ frame.length →
    frame.drop offset = d.tail ++ after →
    t.decode ⟨frame, d.head offset ++ rest, depth⟩ = .ok (d, ⟨frame, rest, depth⟩)

/-! ## Sequences -/

/-- Members are read back from their heads one after the other. -/
theorem decodeAll_heads {types : List AbiType} {ds : List Datum}
    (h : List.Forall₂ ReadsBack types ds) {frame rest after : List UInt8} {offset depth : ℕ}
    (hdepth : depth + framesMax types ≤ maxDepth)
    (hsize : (heads offset ds).length + (tails ds).length < 2 ^ 64)
    (hoffset : offset + (tails ds).length < 2 ^ 64) (hle : offset ≤ frame.length)
    (hframe : frame.drop offset = tails ds ++ after) :
    decodeAll types ⟨frame, heads offset ds ++ rest, depth⟩ = .ok (ds, ⟨frame, rest, depth⟩) := by
  induction h generalizing offset with
  | nil => rfl
  | @cons t d types ds hd _ ih =>
    rw [framesMax] at hdepth
    rw [heads, tails, List.flatMap_cons, ← tails, List.length_append, List.length_append] at hsize
    rw [tails, List.flatMap_cons, ← tails] at hframe
    rw [tails, List.flatMap_cons, ← tails, List.length_append] at hoffset
    rw [List.append_assoc] at hframe
    have hlength := congrArg List.length hframe
    rw [List.length_drop, List.length_append] at hlength
    -- the next tail stands right behind this one
    have hnext : frame.drop (offset + d.tail.length) = tails ds ++ after := by
      rw [← List.drop_drop, hframe, List.drop_left]
    have hread := hd (heads (offset + d.tail.length) ds ++ rest) depth (by omega)
      (lt_of_le_of_lt (d.length_encode_le offset) (by omega)) (by omega) hle hframe
    have hrest := ih (by omega) (by omega) (by omega) (by omega) hnext
    rw [decodeAll, heads, List.append_assoc, hread]
    simp only [hrest]

/-- A sequence is read back from a frame of its own. -/
theorem decodeAll_sequence {types : List AbiType} {ds : List Datum}
    (hhas : List.Forall₂ Has types ds) (h : List.Forall₂ ReadsBack types ds)
    (after : List UInt8) {depth : ℕ} (hdepth : depth + framesMax types ≤ maxDepth)
    (hsize : (Datum.sequence ds).length < 2 ^ 64) :
    decodeAll types ⟨Datum.sequence ds ++ after, Datum.sequence ds ++ after, depth⟩ =
      .ok (ds, ⟨Datum.sequence ds ++ after, tails ds ++ after, depth⟩) := by
  have hheads := length_heads_of_has hhas (Datum.headSizeSum ds)
  rw [Datum.sequence, List.length_append] at hsize
  rw [Datum.sequence, List.append_assoc]
  refine decodeAll_heads h hdepth hsize (by omega) ?_ (List.drop_left' hheads)
  rw [List.length_append]
  omega

/-- A sequence is read back in place, or from behind the offset in its head. -/
theorem sequence_append {types : List AbiType} {ds : List Datum}
    (hhas : List.Forall₂ Has types ds) (h : List.Forall₂ ReadsBack types ds)
    (rest : List UInt8) {frame after : List UInt8} {offset depth : ℕ}
    (hdepth : depth + (framesMax types + 1) ≤ maxDepth)
    (hsize : (Datum.sequence ds).length < 2 ^ 64) (hoffset : offset < 2 ^ 64)
    (hle : offset ≤ frame.length) {d : Datum} (hdynamic : d.isDynamic = Datum.anyDynamic ds)
    (hcode : d.encode = Datum.sequence ds) (hframe : frame.drop offset = d.tail ++ after) :
    Cursor.sequence ⟨frame, d.head offset ++ rest, depth⟩ (anyDynamic types) (decodeAll types) =
      .ok (ds, ⟨frame, rest, depth⟩) := by
  have hany := anyDynamic_eq (hhas.imp fun _ _ => Has.isDynamic_eq)
  rw [Cursor.sequence, ← hany]
  cases hcase : Datum.anyDynamic ds with
  | true =>
    rw [Datum.tail, hdynamic, hcase, if_pos rfl, hcode] at hframe
    rw [if_pos rfl, Datum.head, hdynamic, hcase, if_pos rfl,
      Cursor.follow_append hoffset (by omega) hle, hframe]
    simp only
    rw [decodeAll_sequence hhas h _ (by omega) hsize]
  | false =>
    have hread := decodeAll_sequence hhas h rest
      (by omega : depth + 1 + framesMax types ≤ maxDepth) hsize
    rw [Datum.tails_of_static hcase, List.nil_append] at hread
    rw [if_neg Bool.false_ne_true, Datum.head, hdynamic, hcase, if_neg Bool.false_ne_true, hcode,
      Cursor.here_append (by omega)]
    simp only
    rw [hread]

/-! ## Types -/

theorem readsBack_word {t : AbiType} {d : Datum} (hstatic : d.isDynamic = false)
    (hlength : d.encode.length = 32) (value : List UInt8 → Datum)
    (hdecode : ∀ c, t.decode c = c.wordValue value) (hvalue : value d.encode = d) :
    t.ReadsBack d := by
  intro rest depth frame after offset _ _ _ _ _
  rw [hdecode, Datum.head, hstatic, if_neg Bool.false_ne_true, Cursor.wordValue_append hlength,
    hvalue]

theorem readsBack_bytes {t : AbiType} {d : Datum} {raw : List UInt8} (hdynamic : d.isDynamic = true)
    (hcode : d.encode = wordOfNat raw.length ++ padRight raw) (hframes : t.frames = 1)
    (value : List UInt8 → Datum) (hdecode : ∀ c, t.decode c = c.byteValue value)
    (hvalue : value raw = d) : t.ReadsBack d := by
  intro rest depth frame after offset hdepth hsize hoffset hle hframe
  have hraw : raw.length < 2 ^ 64 := by
    rw [hcode, padRight] at hsize
    simp only [List.length_append] at hsize
    omega
  rw [Datum.tail, hdynamic, if_pos rfl, hcode] at hframe
  rw [hdecode, Cursor.byteValue, Datum.head, hdynamic, if_pos rfl,
    Cursor.byteString_append hoffset hraw (by omega) hle hframe]
  simp only
  rw [hvalue]

/-- Items that can be stored pass the check of storage. -/
theorem checkStorage_eq_ok {n : ℕ} (h : n * valueSize < storageSize) : checkStorage n = .ok () := by
  have hcount : storageSize ≤ Nat.pow 2 63 := by decide
  rw [checkStorage, if_neg (by omega), if_neg (by omega)]

theorem readsBack_array {t : AbiType} {items : List Datum}
    (hstored : items.length * valueSize < storageSize) (hhas : ∀ d ∈ items, t.Has d)
    (h : ∀ d ∈ items, t.ReadsBack d) : (array t).ReadsBack (.array items) := by
  intro rest depth frame after offset hdepth hsize hoffset hle hframe
  rw [frames] at hdepth
  have hcount : items.length < 2 ^ 64 := by
    have hroom : items.length * 40 < 2 ^ 35 := hstored
    omega
  rw [Datum.tail, Datum.isDynamic, if_pos rfl, Datum.encode_array, List.append_assoc] at hframe
  rw [Datum.encode_array, List.length_append, length_wordOfNat] at hsize
  rw [decode, Cursor.list, Datum.head, Datum.isDynamic, if_pos rfl,
    Cursor.follow_append hoffset (by omega) hle, hframe]
  simp only
  rw [Cursor.offset_append hcount]
  cases items with
  | nil => rfl
  | cons d ds =>
    -- the items fill the frame behind the length
    have hwords := minWordsSum_le_sequence (forall₂_replicate fun d hd => (hhas d hd).minWords_le)
    rw [minWordsSum_replicate] at hwords
    have hmod : (d :: ds).length * t.minWords % Nat.pow 2 64 ≤ (d :: ds).length * t.minWords :=
      Nat.mod_le _ _
    have hroom : ¬ (Datum.sequence (d :: ds) ++ after).length / 32 <
        (d :: ds).length * t.minWords % Nat.pow 2 64 := by
      rw [List.length_append]
      omega
    have hframes := framesMax_replicate_le (d :: ds).length t
    have hread := decodeAll_sequence (forall₂_replicate hhas) (forall₂_replicate h) after
      (by omega : depth + 1 + 1 + framesMax (List.replicate (d :: ds).length t) ≤ maxDepth)
      (by omega)
    rw [← Cursor.many_eq_decodeAll] at hread
    simp only [List.length_cons] at hroom hread hstored ⊢
    rw [Cursor.here_append (by omega)]
    simp only
    rw [if_neg hroom, checkStorage_eq_ok hstored, ite_self]
    simp only
    rw [hread]

/-- All values of a type are read back. -/
theorem Has.readsBack {t : AbiType} {d : Datum} (h : t.Has d) : t.ReadsBack d := by
  induction h with
  | bool b =>
    refine readsBack_word rfl (length_wordOfNat _) _ (fun c => by rw [decode]) ?_
    have hsmall : (if b then 1 else 0) ≤ 1 := by split_ifs <;> norm_num
    have hword : natOfBytes (wordOfNat (if b then 1 else 0)) = if b then 1 else 0 :=
      natOfBytes_wordOfNat (lt_of_le_of_lt hsmall (by norm_num))
    rw [Datum.encode, hword]
    cases b <;> rfl
  | @uint bits n hbits hn =>
    refine readsBack_word rfl (length_wordOfNat _) _ (fun c => by rw [decode]) ?_
    have hword : natOfBytes (wordOfNat n) = n :=
      natOfBytes_wordOfNat (lt_of_lt_of_le hn (Nat.pow_le_pow_right (by norm_num) hbits))
    rw [Datum.encode, hword]
  | @int bits n hpos hbits hlow hhigh =>
    refine readsBack_word rfl (length_wordOfInt _) _ (fun c => by rw [decode]) ?_
    have hwidth : (2 : ℤ) ^ (bits - 1) ≤ 2 ^ 255 :=
      pow_le_pow_right₀ (by norm_num) (by omega)
    rw [Datum.encode, intOfWord_wordOfInt (by omega) (by omega)]
  | @address raw hraw =>
    refine readsBack_word rfl (length_padLeft (by omega)) _ (fun c => by rw [decode]) ?_
    rw [Datum.encode, padLeft, List.drop_left' (by rw [List.length_replicate]; omega)]
  | fixedBytes hraw hpos hsize =>
    refine readsBack_word rfl (length_padRight_of_le (by omega) (by omega)) _
      (fun c => by rw [decode]) ?_
    rw [Datum.encode]
  | @function raw hraw =>
    refine readsBack_word rfl (length_padRight_of_le (by omega) (by omega)) _
      (fun c => by rw [decode]) ?_
    rw [Datum.encode, padRight, List.take_left' hraw]
  | bytes raw => exact readsBack_bytes rfl rfl rfl _ (fun c => by rw [decode]) rfl
  | string s =>
    refine readsBack_bytes rfl rfl rfl _ (fun c => by rw [decode]) ?_
    rw [Utf8.decode_utf8Bytes]
  | array hstored hhas ih => exact readsBack_array hstored hhas ih
  | @fixedArray t items hne hstored hhas ih =>
    intro rest depth frame after offset hdepth hsize hoffset hle hframe
    rw [frames] at hdepth
    rw [Datum.encode_fixedArray] at hsize
    have hmax := framesMax_replicate_le items.length t
    have hread := sequence_append (forall₂_replicate hhas) (forall₂_replicate ih) rest
      (by omega : depth + (framesMax (List.replicate items.length t) + 1) ≤ maxDepth) hsize hoffset
      hle (d := .fixedArray items) rfl (Datum.encode_fixedArray items) hframe
    rw [anyDynamic_replicate (List.length_pos_iff.mpr hne)] at hread
    rw [decode, funext (Cursor.many_eq_decodeAll t items.length), hread]
  | @tuple types items hlength hhas ih =>
    intro rest depth frame after offset hdepth hsize hoffset hle hframe
    rw [frames] at hdepth
    rw [Datum.encode_tuple] at hsize
    have hread := sequence_append (forall₂_of_zip hlength hhas) (forall₂_of_zip hlength ih) rest
      hdepth hsize hoffset hle (d := .tuple items) rfl (Datum.encode_tuple items) hframe
    rw [decode, hread]

end AbiType

/-! ## Parameter lists and words -/

/-- A parameter list is read back if its types hold something and can be stored, and the offsets fit
    into eight bytes. -/
theorem decodeParams_encodeParams {types : List AbiType} {ds : List Datum}
    (h : List.Forall₂ AbiType.Has types ds) (hempty : AbiType.allEmpty types = false)
    (hdepth : AbiType.framesMax types ≤ maxDepth) (hreserve : AbiType.reserveAll types = .ok ())
    (hsize : (Datum.encodeParams ds).length < 2 ^ 64) :
    AbiType.decodeParams types (Datum.encodeParams ds) = .ok ds := by
  rw [Datum.encodeParams, Datum.encode_tuple] at hsize ⊢
  have hwords := AbiType.minWordsSum_le_sequence (h.imp fun _ _ => AbiType.Has.minWords_le)
  have hmod : AbiType.minWordsSum types % Nat.pow 2 64 ≤ AbiType.minWordsSum types := Nat.mod_le _ _
  have hread := AbiType.decodeAll_sequence h (h.imp fun _ _ => AbiType.Has.readsBack) []
    (by omega : 0 + AbiType.framesMax types ≤ maxDepth) hsize
  rw [List.append_nil] at hread
  rw [AbiType.decodeParams, if_neg (by rw [hempty]; decide), if_neg (by omega), hreserve]
  simp only [Cursor.ofBytes]
  rw [hread]

/-- A value of one word is read back. -/
theorem decodeWord_encode {t : AbiType} {d : Datum} (h : t.Has d)
    (hword : t.isHashedWhenIndexed = false) : t.decodeWord d.encode = .ok d := by
  have hstatic : t.isDynamic = false ∧ t.frames = 0 ∧ d.encode.length = 32 := by
    cases h with
    | address hraw => exact ⟨rfl, rfl, length_padLeft (by omega)⟩
    | fixedBytes hraw hpos hsize => exact ⟨rfl, rfl, length_padRight_of_le (by omega) (by omega)⟩
    | function hraw => exact ⟨rfl, rfl, length_padRight_of_le (by omega) (by omega)⟩
    | bool | uint | int => exact ⟨rfl, rfl, length_wordOfNat _⟩
    | _ => cases hword
  obtain ⟨hstatic, hframes, hlength⟩ := hstatic
  rw [← h.isDynamic_eq] at hstatic
  have hread := h.readsBack [] 0 (by omega) (by omega) (by norm_num : 0 < 2 ^ 64)
    (Nat.zero_le d.encode.length) (by rw [Datum.tail_of_static hstatic]; rfl)
  rw [Datum.head, hstatic, if_neg Bool.false_ne_true, List.append_nil] at hread
  rw [AbiType.decodeWord, Cursor.ofBytes, hread]

end ContractLens.Abi
