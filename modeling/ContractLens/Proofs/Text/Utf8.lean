import ContractLens.Proofs.Bytes
import ContractLens.Text.Utf8
import Mathlib.Tactic

/-!
# Reading UTF-8

A text is read from its own UTF-8 bytes. The decoder tells the length of a character by the first
byte, so there is one lemma for each length, and the bytes of a character meet the bounds of theirs.

* `decodeChars_utf8EncodeChar`: one character in front of any bytes.
* `decode_utf8Bytes`: a whole text.
* `decode_eq_empty_iff`: only without bytes there is no text.
-/

namespace ContractLens.Utf8

/-! ## Characters by length -/

section Ranges

variable {low high b : UInt8}

theorem between_iff :
    (low ≤ b && b ≤ high) = true ↔ low.toNat ≤ b.toNat ∧ b.toNat ≤ high.toNat := by
  rw [Bool.and_eq_true, decide_eq_true_iff, decide_eq_true_iff, UInt8.le_iff_toNat_le,
    UInt8.le_iff_toNat_le]

theorem between_eq_false (h : high.toNat < b.toNat) : (low ≤ b && b ≤ high) = false := by
  rw [← Bool.not_eq_true, between_iff]
  omega

theorem not_lt_of_le (h : 0xc2 ≤ b.toNat) : ¬ b < 0x80 := by
  rw [UInt8.lt_iff_toNat_lt]
  have : (0x80 : UInt8).toNat = 0x80 := rfl
  omega

end Ranges

section Characters

variable {b0 b1 b2 b3 : UInt8}

theorem decodeChars_one (h : b0.toNat < 0x80) (rest : List UInt8) :
    decodeChars (b0 :: rest) = Char.ofNat b0.toNat :: decodeChars rest := by
  have hone : b0 < 0x80 := UInt8.lt_iff_toNat_lt.mpr h
  rw [decodeChars.eq_def]
  simp only [hone, if_true]

/-- Bytes of ASCII are read one by one. -/
theorem decodeChars_of_ascii {bytes : List UInt8} (h : ∀ b ∈ bytes, b.toNat < 0x80) :
    decodeChars bytes = bytes.map fun b => Char.ofNat b.toNat := by
  induction bytes with
  | nil => rw [decodeChars, List.map_nil]
  | cons b bytes ih =>
    obtain ⟨hb, hbytes⟩ := List.forall_mem_cons.mp h
    rw [decodeChars_one hb, ih hbytes, List.map_cons]

theorem decodeChars_two (hlow : 0xc2 ≤ b0.toNat) (hhigh : b0.toNat ≤ 0xdf)
    (h1 : continues b1 = true) (rest : List UInt8) :
    decodeChars (b0 :: b1 :: rest) = charOfTwo b0 b1 :: decodeChars rest := by
  have htwo : (0xc2 ≤ b0 && b0 ≤ 0xdf) = true := between_iff.mpr ⟨hlow, hhigh⟩
  rw [decodeChars.eq_def]
  simp only [not_lt_of_le hlow, htwo, h1, if_true, if_false]

theorem decodeChars_three (hlow : 0xe0 ≤ b0.toNat) (hhigh : b0.toNat ≤ 0xef)
    (h1 : secondOfThree b0 b1 = true) (h2 : continues b2 = true) (rest : List UInt8) :
    decodeChars (b0 :: b1 :: b2 :: rest) = charOfThree b0 b1 b2 :: decodeChars rest := by
  have htwo : (0xc2 ≤ b0 && b0 ≤ 0xdf) = false := between_eq_false (lt_of_lt_of_le (by decide) hlow)
  have hthree : (0xe0 ≤ b0 && b0 ≤ 0xef) = true := between_iff.mpr ⟨hlow, hhigh⟩
  rw [decodeChars.eq_def]
  simp only [not_lt_of_le (le_trans (by decide) hlow), htwo, hthree, h1, h2, if_true, if_false,
    Bool.false_eq_true]

theorem decodeChars_four (hlow : 0xf0 ≤ b0.toNat) (hhigh : b0.toNat ≤ 0xf4)
    (h1 : secondOfFour b0 b1 = true) (h2 : continues b2 = true) (h3 : continues b3 = true)
    (rest : List UInt8) :
    decodeChars (b0 :: b1 :: b2 :: b3 :: rest) = charOfFour b0 b1 b2 b3 :: decodeChars rest := by
  have htwo : (0xc2 ≤ b0 && b0 ≤ 0xdf) = false := between_eq_false (lt_of_lt_of_le (by decide) hlow)
  have hthree : (0xe0 ≤ b0 && b0 ≤ 0xef) = false :=
    between_eq_false (lt_of_lt_of_le (by decide) hlow)
  have hfour : (0xf0 ≤ b0 && b0 ≤ 0xf4) = true := between_iff.mpr ⟨hlow, hhigh⟩
  rw [decodeChars.eq_def]
  simp only [not_lt_of_le (le_trans (by decide) hlow), htwo, hthree, hfour, h1, h2, h3, if_true,
    if_false, Bool.false_eq_true]

end Characters

/-! ## Bytes of a character -/

theorem continues_ofNat (n : ℕ) : continues (UInt8.ofNat (n % 64 + 128)) = true := by
  have hn : (UInt8.ofNat (n % 64 + 128)).toNat = n % 64 + 128 := toNat_ofNat_of_lt (by omega)
  rw [continues, between_iff, hn]
  constructor
  · exact Nat.le_add_left _ _
  · show n % 64 + 128 ≤ 191
    omega

/-- The second of three bytes rules out longer forms and surrogates. -/
theorem secondOfThree_ofNat {n : ℕ} (hlow : 0x7ff < n) (hhigh : n ≤ 0xffff)
    (hsurrogate : n < 0xd800 ∨ 0xdfff < n) :
    secondOfThree (UInt8.ofNat (n / 4096 % 16 + 224)) (UInt8.ofNat (n / 64 % 64 + 128)) = true := by
  have h0 : (UInt8.ofNat (n / 4096 % 16 + 224)).toNat = n / 4096 % 16 + 224 :=
    toNat_ofNat_of_lt (by omega)
  have h1 : (UInt8.ofNat (n / 64 % 64 + 128)).toNat = n / 64 % 64 + 128 :=
    toNat_ofNat_of_lt (by omega)
  unfold secondOfThree
  split_ifs with he0 hed
  · have hfirst : n / 4096 % 16 + 224 = 0xe0 := h0 ▸ congrArg UInt8.toNat he0
    rw [between_iff, h1, show (0xa0 : UInt8).toNat = 0xa0 from rfl,
      show (0xbf : UInt8).toNat = 0xbf from rfl]
    omega
  · have hfirst : n / 4096 % 16 + 224 = 0xed := h0 ▸ congrArg UInt8.toNat hed
    rw [between_iff, h1, show (0x80 : UInt8).toNat = 0x80 from rfl,
      show (0x9f : UInt8).toNat = 0x9f from rfl]
    omega
  · exact continues_ofNat _

/-- The second of four bytes rules out longer forms and numbers that are too large. -/
theorem secondOfFour_ofNat {n : ℕ} (hlow : 0xffff < n) (hhigh : n < 0x110000) :
    secondOfFour (UInt8.ofNat (n / 262144 % 8 + 240)) (UInt8.ofNat (n / 4096 % 64 + 128)) =
      true := by
  have h0 : (UInt8.ofNat (n / 262144 % 8 + 240)).toNat = n / 262144 % 8 + 240 :=
    toNat_ofNat_of_lt (by omega)
  have h1 : (UInt8.ofNat (n / 4096 % 64 + 128)).toNat = n / 4096 % 64 + 128 :=
    toNat_ofNat_of_lt (by omega)
  unfold secondOfFour
  split_ifs with hf0 hf4
  · have hfirst : n / 262144 % 8 + 240 = 0xf0 := h0 ▸ congrArg UInt8.toNat hf0
    rw [between_iff, h1, show (0x90 : UInt8).toNat = 0x90 from rfl,
      show (0xbf : UInt8).toNat = 0xbf from rfl]
    omega
  · have hfirst : n / 262144 % 8 + 240 = 0xf4 := h0 ▸ congrArg UInt8.toNat hf4
    rw [between_iff, h1, show (0x80 : UInt8).toNat = 0x80 from rfl,
      show (0x8f : UInt8).toNat = 0x8f from rfl]
    omega
  · exact continues_ofNat _

theorem ofNat_eq_of_toNat {c : Char} {n : ℕ} (h : n = c.val.toNat) : Char.ofNat n = c := by
  rw [h]
  exact Char.ofNat_toNat c

/-- No character has a number between `0xd800` and `0xdfff`, nor one from `0x110000` on. -/
theorem toNat_val_bounds (c : Char) :
    (c.val.toNat < 0xd800 ∨ 0xdfff < c.val.toNat) ∧ c.val.toNat < 0x110000 := by
  have h := c.valid
  simp only [UInt32.isValidChar, Nat.isValidChar] at h
  omega

/-- A character is read from its bytes. -/
theorem decodeChars_utf8EncodeChar (c : Char) (rest : List UInt8) :
    decodeChars (String.utf8EncodeChar c ++ rest) = c :: decodeChars rest := by
  obtain ⟨hsurrogate, hmax⟩ := toNat_val_bounds c
  unfold String.utf8EncodeChar
  generalize hn : c.val.toNat = n at hsurrogate hmax
  simp only
  split_ifs with h1 h2 h3
  · have hb : (UInt8.ofNat n).toNat = n := toNat_ofNat_of_lt (by omega)
    rw [List.singleton_append, decodeChars_one (by omega), hb, ofNat_eq_of_toNat hn.symm]
  · have h0 : (UInt8.ofNat (n / 64 % 32 + 192)).toNat = n / 64 % 32 + 192 :=
      toNat_ofNat_of_lt (by omega)
    have hb1 : (UInt8.ofNat (n % 64 + 128)).toNat = n % 64 + 128 := toNat_ofNat_of_lt (by omega)
    rw [List.cons_append, List.singleton_append,
      decodeChars_two (by omega) (by omega) (continues_ofNat n), charOfTwo, h0, hb1,
      ofNat_eq_of_toNat]
    omega
  · have h0 : (UInt8.ofNat (n / 4096 % 16 + 224)).toNat = n / 4096 % 16 + 224 :=
      toNat_ofNat_of_lt (by omega)
    have hb1 : (UInt8.ofNat (n / 64 % 64 + 128)).toNat = n / 64 % 64 + 128 :=
      toNat_ofNat_of_lt (by omega)
    have hb2 : (UInt8.ofNat (n % 64 + 128)).toNat = n % 64 + 128 := toNat_ofNat_of_lt (by omega)
    have hsecond := secondOfThree_ofNat (by omega) (by omega) hsurrogate
    rw [List.cons_append, List.cons_append, List.singleton_append,
      decodeChars_three (by omega) (by omega) hsecond (continues_ofNat n), charOfThree, h0, hb1,
      hb2, ofNat_eq_of_toNat]
    omega
  · have h0 : (UInt8.ofNat (n / 262144 % 8 + 240)).toNat = n / 262144 % 8 + 240 :=
      toNat_ofNat_of_lt (by omega)
    have hb1 : (UInt8.ofNat (n / 4096 % 64 + 128)).toNat = n / 4096 % 64 + 128 :=
      toNat_ofNat_of_lt (by omega)
    have hb2 : (UInt8.ofNat (n / 64 % 64 + 128)).toNat = n / 64 % 64 + 128 :=
      toNat_ofNat_of_lt (by omega)
    have hb3 : (UInt8.ofNat (n % 64 + 128)).toNat = n % 64 + 128 := toNat_ofNat_of_lt (by omega)
    have hsecond := secondOfFour_ofNat (by omega) hmax
    rw [List.cons_append, List.cons_append, List.cons_append, List.singleton_append,
      decodeChars_four (by omega) (by omega) hsecond (continues_ofNat _) (continues_ofNat n),
      charOfFour, h0, hb1, hb2, hb3, ofNat_eq_of_toNat]
    omega

/-- A text is read from its bytes. -/
theorem decode_utf8Bytes (s : String) : decode (utf8Bytes s) = s := by
  have hchars (cs : List Char) : decodeChars (cs.flatMap String.utf8EncodeChar) = cs := by
    induction cs with
    | nil => rw [List.flatMap_nil, decodeChars]
    | cons c cs ih => rw [List.flatMap_cons, decodeChars_utf8EncodeChar, ih]
  rw [decode, utf8Bytes, hchars, String.ofList_toList]

/-! ## Texts without characters -/

theorem decodeChars_eq_nil_iff {bytes : List UInt8} : decodeChars bytes = [] ↔ bytes = [] := by
  cases bytes with
  | nil => simp [decodeChars]
  | cons b rest =>
    refine iff_of_false ?_ (List.cons_ne_nil b rest)
    -- whatever the first byte is, it gives a character or a replacement for one
    rw [decodeChars.eq_def]
    simp only
    repeat' split
    all_goals exact List.cons_ne_nil _ _

/-- Only without bytes there is no text. -/
theorem decode_eq_empty_iff {bytes : List UInt8} : decode bytes = "" ↔ bytes = [] := by
  rw [decode, ← decodeChars_eq_nil_iff]
  constructor
  · intro h
    simpa using congrArg String.toList h
  · intro h
    rw [h]

end ContractLens.Utf8
