import ContractLens.Text.Hex
import Mathlib.Tactic

/-!
# Hex digits

The characters that `Hex.encode` writes, and the numbers that hex digits stand for.

* `exists_digit_of_mem_encode`: all of them are lower-case hex digits.
* `encode_inj`: different bytes are written differently.
* `drop_utf8Bytes_encode`, `take_utf8Bytes_encode`: parts of the text are the texts of parts.
* `value`: the number that hex digits stand for, and what becomes of it without the first ones.
* `isHexAddress_iff`: which texts are addresses.
-/

namespace ContractLens

namespace Hex

/-! ## Lower-case digits -/

theorem digit_lower {n : ℕ} (h : n < 16) : (digit n).toLower = digit n := by
  interval_cases n <;> decide

theorem digit_toNat_lt {n : ℕ} (h : n < 16) : (digit n).toNat < 128 := by
  interval_cases n <;> decide

theorem digitValue?_digit {n : ℕ} (h : n < 16) : digitValue? (digit n) = some n := by
  interval_cases n <;> decide

theorem digit_inj {m n : ℕ} (hm : m < 16) (hn : n < 16) (h : digit m = digit n) : m = n := by
  have := digitValue?_digit hm
  rw [h, digitValue?_digit hn] at this
  exact (Option.some.inj this).symm

/-- The letter case of a digit does not matter. -/
theorem digitValue?_toLower (c : Char) : digitValue? c.toLower = digitValue? c := by
  by_cases hascii : c.toNat < 0x80
  · have hcases : ∀ k < 0x80,
        digitValue? (Char.ofNat k).toLower = digitValue? (Char.ofNat k) := by
      decide +kernel
    have hc := hcases c.toNat hascii
    rwa [Char.ofNat_toNat] at hc
  · have hsame : c.toLower = c := by
      unfold Char.toLower
      split
      · next hupper =>
        have hcode : c.toNat ≤ 'Z'.toNat := UInt32.le_iff_toNat_le.mp hupper.2
        exact absurd (Nat.lt_of_le_of_lt hcode (by decide)) hascii
      · rfl
    rw [hsame]

/-- A character that is no hex digit is not written. -/
theorem digit_ne {n : ℕ} (h : n < 16) {c : Char} (hc : digitValue? c = none) : digit n ≠ c := by
  rintro rfl
  rw [digitValue?_digit h] at hc
  cases hc

/-! ## Written bytes -/

@[simp] theorem toList_encode (bytes : List UInt8) : (encode bytes).toList = digits bytes :=
  String.toList_ofList

@[simp] theorem digits_nil : digits [] = [] := rfl

theorem digits_cons (b : UInt8) (bytes : List UInt8) :
    digits (b :: bytes) = digit (b.toNat / 16) :: digit (b.toNat % 16) :: digits bytes := rfl

theorem length_digits (bytes : List UInt8) : (digits bytes).length = 2 * bytes.length := by
  induction bytes with
  | nil => rfl
  | cons b bytes ih =>
    rw [digits_cons, List.length_cons, List.length_cons, List.length_cons, ih]
    omega

theorem take_digits (bytes : List UInt8) (n : ℕ) :
    (digits bytes).take (2 * n) = digits (bytes.take n) := by
  induction bytes generalizing n with
  | nil => simp
  | cons b bytes ih =>
    cases n with
    | zero => rfl
    | succ n =>
      rw [digits_cons, List.take_succ_cons, digits_cons, Nat.mul_succ, List.take_succ_cons,
        List.take_succ_cons, ih]

theorem exists_digit_of_mem_digits {bytes : List UInt8} {c : Char} (h : c ∈ digits bytes) :
    ∃ n < 16, c = digit n := by
  obtain ⟨b, -, hc⟩ := List.mem_flatMap.mp h
  have hb := b.toNat_lt
  simp only [byteDigits, List.mem_cons, List.not_mem_nil, or_false] at hc
  rcases hc with rfl | rfl
  · exact ⟨b.toNat / 16, by omega, rfl⟩
  · exact ⟨b.toNat % 16, by omega, rfl⟩

/-- What is written are lower-case hex digits. -/
theorem exists_digit_of_mem_encode {bytes : List UInt8} {c : Char}
    (h : c ∈ (encode bytes).toList) : ∃ n < 16, c = digit n := by
  rw [toList_encode] at h
  exact exists_digit_of_mem_digits h

theorem byteDigits_inj {a b : UInt8} (h : byteDigits a = byteDigits b) : a = b := by
  have ha := a.toNat_lt
  have hb := b.toNat_lt
  simp only [byteDigits, List.cons.injEq, and_true] at h
  have hhigh := digit_inj (by omega) (by omega) h.1
  have hlow := digit_inj (by omega) (by omega) h.2
  exact UInt8.toNat.inj (by omega)

theorem digits_inj {a b : List UInt8} (h : digits a = digits b) : a = b := by
  induction a generalizing b with
  | nil =>
    cases b with
    | nil => rfl
    | cons y b => simp [digits_cons] at h
  | cons x a ih =>
    cases b with
    | nil => simp [digits_cons] at h
    | cons y b =>
      rw [digits_cons, digits_cons, List.cons.injEq, List.cons.injEq] at h
      have hxy : x = y := byteDigits_inj (by rw [byteDigits, byteDigits, h.1, h.2.1])
      rw [hxy, ih h.2.2]

/-- Different bytes are written differently. -/
theorem encode_inj {a b : List UInt8} (h : encode a = encode b) : a = b := by
  apply digits_inj
  rw [← toList_encode, ← toList_encode, h]

theorem encodePrefixed_inj {a b : List UInt8} (h : encodePrefixed a = encodePrefixed b) :
    a = b := by
  apply encode_inj
  have htext := congrArg String.toList h
  rw [encodePrefixed, encodePrefixed, String.toList_append, String.toList_append] at htext
  exact String.toList_injective (List.append_cancel_left htext)

/-! ## The bytes of the text -/

/-- The UTF-8 bytes of the digits of a byte. -/
def byteText (b : UInt8) : List UInt8 := (byteDigits b).flatMap String.utf8EncodeChar

theorem utf8Size_digit {n : ℕ} (h : n < 16) : (digit n).utf8Size = 1 := by
  revert n; decide

theorem length_byteText (b : UInt8) : (byteText b).length = 2 := by
  have hlow : b.toNat % 16 < 16 := Nat.mod_lt _ (by decide)
  have hhigh : b.toNat / 16 < 16 := by have := b.toNat_lt; omega
  simp [byteText, byteDigits, String.length_utf8EncodeChar, utf8Size_digit hlow,
    utf8Size_digit hhigh]

theorem utf8Bytes_encode (bytes : List UInt8) :
    utf8Bytes (encode bytes) = bytes.flatMap byteText := by
  rw [utf8Bytes, toList_encode, digits, List.flatMap_assoc]
  rfl

theorem length_utf8Bytes_encode (bytes : List UInt8) :
    (utf8Bytes (encode bytes)).length = 2 * bytes.length := by
  rw [utf8Bytes_encode, List.length_flatMap, List.map_congr_left fun b _ => length_byteText b]
  simp [Nat.mul_comm]

/-- Two bytes of the text stand for one byte. -/
theorem drop_utf8Bytes_encode (bytes : List UInt8) (n : ℕ) :
    (utf8Bytes (encode bytes)).drop (2 * n) = utf8Bytes (encode (bytes.drop n)) := by
  rw [utf8Bytes_encode, utf8Bytes_encode]
  induction bytes generalizing n with
  | nil => simp
  | cons b bytes ih =>
    cases n with
    | zero => simp
    | succ n =>
      rw [List.drop_succ_cons, ← ih, List.flatMap_cons, List.drop_append, length_byteText,
        List.drop_of_length_le (by rw [length_byteText]; omega), List.nil_append]
      congr 1

theorem take_utf8Bytes_encode (bytes : List UInt8) (n : ℕ) :
    (utf8Bytes (encode bytes)).take (2 * n) = utf8Bytes (encode (bytes.take n)) := by
  rw [utf8Bytes_encode, utf8Bytes_encode]
  induction bytes generalizing n with
  | nil => simp
  | cons b bytes ih =>
    cases n with
    | zero => simp
    | succ n =>
      rw [List.take_succ_cons, List.flatMap_cons, List.flatMap_cons, ← ih, List.take_append,
        length_byteText, List.take_of_length_le (by rw [length_byteText]; omega)]
      congr 1

/-! ## Numbers -/

theorem digitValue?_lt {c : Char} {n : ℕ} (h : digitValue? c = some n) : n < 16 := by
  have hcode {low high : Char} (hc : low ≤ c ∧ c ≤ high) :
      low.toNat ≤ c.toNat ∧ c.toNat ≤ high.toNat :=
    ⟨UInt32.le_iff_toNat_le.mp hc.1, UInt32.le_iff_toNat_le.mp hc.2⟩
  unfold digitValue? at h
  split_ifs at h with h0 ha hA
  · have hrange : 0x30 ≤ c.toNat ∧ c.toNat ≤ 0x39 := hcode h0
    obtain rfl := Option.some.inj h
    omega
  · have hrange : 0x61 ≤ c.toNat ∧ c.toNat ≤ 0x66 := hcode ha
    obtain rfl := Option.some.inj h
    omega
  · have hrange : 0x41 ≤ c.toNat ∧ c.toNat ≤ 0x46 := hcode hA
    obtain rfl := Option.some.inj h
    omega

/-- The number that hex digits stand for, the highest one first. -/
def value (cs : List Char) : ℕ :=
  Nat.ofDigits 16 (cs.reverse.map fun c => (digitValue? c).getD 0)

/-- Zeros in front do not count. -/
theorem value_zeros_append (count : ℕ) (cs : List Char) :
    value (List.replicate count '0' ++ cs) = value cs := by
  have hzero : (digitValue? '0').getD 0 = 0 := rfl
  rw [value, List.reverse_append, List.reverse_replicate, List.map_append, List.map_replicate,
    hzero, Nat.ofDigits_append_replicate_zero, value]

/-- The last digits stand for the remainder by a power of sixteen. -/
theorem value_drop (count : ℕ) (cs : List Char) :
    value (cs.drop (cs.length - count)) = value cs % 16 ^ count := by
  have hdigits : ∀ n ∈ cs.reverse.map fun c => (digitValue? c).getD 0, n < 16 := by
    intro n hn
    obtain ⟨c, -, rfl⟩ := List.mem_map.mp hn
    cases hc : digitValue? c with
    | none => exact Nat.zero_lt_succ _
    | some n => exact digitValue?_lt hc
  rw [value, value, Nat.ofDigits_mod_pow_eq_ofDigits_take count (by norm_num) _ hdigits,
    ← List.map_take, List.take_reverse]

theorem value_map_toLower (cs : List Char) : value (cs.map Char.toLower) = value cs := by
  simp [value, ← List.map_reverse, List.map_map, Function.comp_def, digitValue?_toLower]

/-! ## Markers -/

theorem toList_marked (cs : List Char) : ("0x" ++ String.ofList cs).toList = '0' :: 'x' :: cs := by
  have hcs : (String.ofList cs).toList = cs := String.toList_ofList
  rw [String.toList_append, hcs]
  rfl

theorem stripMarker_append (s : String) : stripMarker ("0x" ++ s) = s := by
  unfold stripMarker
  rw [String.toList_append]
  exact String.ofList_toList

/-- A text without the letter `x` has no marker. -/
theorem stripMarker_eq_self {s : String} (h : 'x' ∉ s.toList) : stripMarker s = s := by
  unfold stripMarker
  split
  · rename_i rest heq
    rw [heq] at h
    simp at h
  · rfl

end Hex

/-! ## Addresses -/

/-- A text is an address: `0x` and forty hex digits. -/
def IsAddress (s : String) : Prop :=
  ∃ digits, s.toList = '0' :: 'x' :: digits ∧ digits.length = 40 ∧
    ∀ c ∈ digits, Hex.isDigit c = true

theorem isHexAddress_iff {s : String} : isHexAddress s = true ↔ IsAddress s := by
  unfold isHexAddress IsAddress
  split
  · next digits heq => simp [heq]
  · next hx => exact iff_of_false Bool.false_ne_true fun ⟨digits, heq, _⟩ => hx digits heq

theorem Hex.ascii_of_isDigit {c : Char} (h : isDigit c = true) : c.toNat < 0x80 ∧ c ≠ 'k' := by
  have hle : ∀ {low high : Char}, low ≤ c ∧ c ≤ high → high.toNat < 0x80 → c.toNat < 0x80 :=
    fun hc hhigh => Nat.lt_of_le_of_lt (UInt32.le_iff_toNat_le.mp hc.2) hhigh
  constructor
  · unfold isDigit digitValue? at h
    split_ifs at h with hnumber hlower hupper
    · exact hle hnumber (by decide)
    · exact hle hlower (by decide)
    · exact hle hupper (by decide)
    · cases h
  · rintro rfl
    revert h
    decide

/-- In lower case a digit is one that is written. -/
theorem Hex.exists_digit_of_isDigit {c : Char} (h : isDigit c = true) :
    ∃ n < 16, c.toLower = digit n := by
  have hcases : ∀ k < 0x80, isDigit (Char.ofNat k) = true →
      ∃ n < 16, (Char.ofNat k).toLower = digit n := by
    decide +kernel
  have hdigit := hcases c.toNat (ascii_of_isDigit h).1
  rw [Char.ofNat_toNat] at hdigit
  exact hdigit h

end ContractLens
