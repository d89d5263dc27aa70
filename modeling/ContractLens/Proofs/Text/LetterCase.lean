import ContractLens.Proofs.Text.Hex
import ContractLens.Text.LetterCase

/-!
# Lower case of ASCII texts

On ASCII texts `lower` changes nothing but the ASCII letters. The only character outside ASCII with
a lower-case form in ASCII is the sign for kelvin, which becomes a `k`.

* `lower_eq_asciiLower`: the two lower-case forms agree there.
* `lower_eq_hex_iff`: a text is hex apart from the letter case exactly if its lower-case form is
  hex.
-/

namespace ContractLens.LetterCase

@[simp] theorem toList_asciiLower (s : String) :
    (asciiLower s).toList = s.toList.map Char.toLower := String.toList_ofList

theorem equalIgnoringAsciiCase_iff {s t : String} :
    equalIgnoringAsciiCase s t = true ↔ asciiLower s = asciiLower t := beq_iff_eq

theorem lowerChar_of_ascii {c : Char} (h : c.toNat < 0x80) : lowerChar c = c.toLower := by
  rw [lowerChar, if_pos h]

theorem lowerFrom_of_ascii (before cs : List Char) (h : ∀ c ∈ cs, c.toNat < 0x80) :
    lowerFrom before cs = cs.map Char.toLower := by
  induction cs generalizing before with
  | nil => rfl
  | cons c cs ih =>
    have hc : c.toNat < 0x80 := h c (List.mem_cons_self ..)
    have hsigma : c ≠ 'Σ' := by rintro rfl; revert hc; decide
    have hdotted : c ≠ 'İ' := by rintro rfl; revert hc; decide
    rw [lowerFrom, if_neg hsigma, if_neg hdotted, lowerChar_of_ascii hc,
      ih (c :: before) fun d hd => h d (List.mem_cons_of_mem _ hd)]
    rfl

theorem lower_eq_asciiLower {s : String} (h : ∀ c ∈ s.toList, c.toNat < 0x80) :
    lower s = asciiLower s := by
  rw [lower, asciiLower, lowerFrom_of_ascii _ _ h]

/-- No letter is lost. -/
theorem toList_lower_ne_nil {s : String} (h : s ≠ "") : (lower s).toList ≠ [] := by
  intro hnil
  apply h
  rw [lower, String.toList_ofList] at hnil
  cases hs : s.toList with
  | nil => exact String.toList_eq_nil_iff.mp hs
  | cons c cs =>
    rw [hs, lowerFrom] at hnil
    split_ifs at hnil <;> cases hnil

/-- Only ASCII letters are changed, so what is ASCII in lower case was ASCII before. -/
theorem ascii_of_toLower {c : Char} (h : c.toLower.toNat < 0x80) : c.toNat < 0x80 := by
  unfold Char.toLower at h
  split at h
  · rename_i hupper
    have : c.val.toNat ≤ 'Z'.val.toNat := UInt32.le_iff_toNat_le.mp hupper.2
    exact Nat.lt_of_le_of_lt this (by decide)
  · exact h

/-! ## ASCII in lower case -/

/-- Letters behind ASCII have lower-case forms behind ASCII, except for the sign for kelvin. -/
theorem behind_ascii_of_mem_lowerRuns : ∀ run ∈ lowerRuns,
    run = (0x212a, 0x212a, 1, -8383) ∨ (0x80 : Int) ≤ run.1 + run.2.2.2 ∧
      (run.2.1 + run.2.2.2 < 0xd800 ∨
        0xdfff < run.1 + run.2.2.2 ∧ run.2.1 + run.2.2.2 < 0x110000) := by
  decide +kernel

theorem toNat_ofNat_of_isValidChar {n : ℕ} (h : n.isValidChar) : (Char.ofNat n).toNat = n := by
  rw [Char.ofNat, dif_pos h]
  rfl

/-- What is ASCII in lower case, but is no `k`, was ASCII before. -/
theorem ascii_of_lowerChar {c : Char} (h : (lowerChar c).toNat < 0x80) (hk : lowerChar c ≠ 'k') :
    c.toNat < 0x80 := by
  by_contra hc
  rw [lowerChar, if_neg hc] at h hk
  split at h
  next first last step shift hfind =>
    have hrange := List.find?_some hfind
    simp only [Bool.and_eq_true, decide_eq_true_eq] at hrange
    obtain ⟨⟨hfirst, hlast⟩, -⟩ := hrange
    rcases behind_ascii_of_mem_lowerRuns _ (List.mem_of_find?_eq_some hfind) with
      hkelvin | ⟨hlow, hvalid⟩
    · rw [hfind] at hk
      cases hkelvin
      have hcode : c.toNat = 0x212a := by omega
      exact hk (by rw [hcode]; rfl)
    · dsimp only at hlow hvalid
      have hcode : (((c.toNat : Int) + shift).toNat).isValidChar := by
        simp only [Nat.isValidChar]
        omega
      rw [toNat_ofNat_of_isValidChar hcode] at h
      omega
  · exact hc h

theorem ascii_of_lowerFrom {before cs : List Char}
    (h : ∀ c ∈ lowerFrom before cs, c.toNat < 0x80 ∧ c ≠ 'k') : ∀ c ∈ cs, c.toNat < 0x80 := by
  induction cs generalizing before with
  | nil => exact nofun
  | cons c cs ih =>
    rw [lowerFrom] at h
    obtain ⟨hform, hrest⟩ := List.forall_mem_append.mp h
    refine List.forall_mem_cons.mpr ⟨?_, ih hrest⟩
    split_ifs at hform with hsigma hdotted
    · have hlower := (List.forall_mem_singleton.mp hform).1
      unfold lowerSigma at hlower
      split_ifs at hlower <;> exact absurd hlower (by decide)
    · exact absurd (hform '\u0307' (by simp)).1 (by decide)
    · obtain ⟨hascii, hk⟩ := List.forall_mem_singleton.mp hform
      exact ascii_of_lowerChar hascii hk

/-- Where the lower-case form is ASCII without a `k`, only ASCII letters were changed. -/
theorem lower_eq_asciiLower_of_ascii {s : String}
    (h : ∀ c ∈ (lower s).toList, c.toNat < 0x80 ∧ c ≠ 'k') : lower s = asciiLower s := by
  rw [lower, String.toList_ofList] at h
  exact lower_eq_asciiLower (ascii_of_lowerFrom h)

/-- An address in lower case differs from what it was only in the case of ASCII letters. -/
theorem asciiLower_lower_of_isAddress {s : String} (h : IsAddress (lower s)) :
    asciiLower (lower s) = asciiLower s := by
  obtain ⟨digits, hdigits, -, hall⟩ := h
  have hascii : ∀ c ∈ (lower s).toList, c.toNat < 0x80 ∧ c ≠ 'k' := by
    rw [hdigits, List.forall_mem_cons, List.forall_mem_cons]
    exact ⟨by decide, by decide, fun c hc => Hex.ascii_of_isDigit (hall c hc)⟩
  have hlower := lower_eq_asciiLower_of_ascii hascii
  have hcases : ∀ k < 0x80, (Char.ofNat k).toLower.toLower = (Char.ofNat k).toLower := by
    decide +kernel
  apply String.toList_injective
  rw [toList_asciiLower, hlower, toList_asciiLower, List.map_map]
  refine List.map_congr_left fun c hc => ?_
  have hc : c.toNat < 0x80 := by
    refine ascii_of_toLower (hascii c.toLower ?_).1
    rw [hlower, toList_asciiLower]
    exact List.mem_map_of_mem hc
  have hidem := hcases c.toNat hc
  rwa [Char.ofNat_toNat] at hidem

/-- The UTF-8 bytes of an ASCII text are the codes of its characters. -/
theorem utf8Bytes_of_ascii {s : String} (h : ∀ c ∈ s.toList, c.toNat < 0x80) :
    utf8Bytes s = s.toList.map fun c => UInt8.ofNat c.toNat := by
  have hchar : ∀ c ∈ s.toList, String.utf8EncodeChar c = [UInt8.ofNat c.toNat] := by
    intro c hc
    have hle : c.val.toNat ≤ 127 := Nat.le_of_lt_succ (h c hc)
    simp only [String.utf8EncodeChar, if_pos hle]
    rfl
  rw [utf8Bytes, List.flatMap_congr hchar, List.map_eq_flatMap]

/-! ## Hex in any letter case -/

/-- Hex is in lower case. -/
theorem asciiLower_encode (bytes : List UInt8) :
    asciiLower (Hex.encode bytes) = Hex.encode bytes := by
  apply String.toList_injective
  rw [toList_asciiLower]
  conv_rhs => rw [← List.map_id (Hex.encode bytes).toList]
  refine List.map_congr_left fun c hc => ?_
  obtain ⟨n, hn, rfl⟩ := Hex.exists_digit_of_mem_encode hc
  exact Hex.digit_lower hn

section Hex

variable {digits : String} {bytes : List UInt8}

theorem exists_digit_of_asciiLower_hex (h : asciiLower digits = Hex.encode bytes) {c : Char}
    (hc : c ∈ digits.toList) : ∃ n < 16, c.toLower = Hex.digit n := by
  have hmem : c.toLower ∈ (Hex.encode bytes).toList := by
    rw [← h, toList_asciiLower]
    exact List.mem_map_of_mem hc
  exact Hex.exists_digit_of_mem_encode hmem

/-- A text that is hex apart from the letter case has that hex as its lower-case form. -/
theorem lower_of_asciiLower_hex (h : asciiLower digits = Hex.encode bytes) :
    lower digits = Hex.encode bytes := by
  rw [lower_eq_asciiLower, h]
  intro c hc
  obtain ⟨n, hn, hdigit⟩ := exists_digit_of_asciiLower_hex h hc
  refine ascii_of_toLower ?_
  rw [hdigit]
  exact Hex.digit_toNat_lt hn

/-- Such a text has no marker. -/
theorem stripMarker_of_asciiLower_hex (h : asciiLower digits = Hex.encode bytes) :
    Hex.stripMarker digits = digits := by
  refine Hex.stripMarker_eq_self fun hx => ?_
  obtain ⟨n, hn, hdigit⟩ := exists_digit_of_asciiLower_hex h hx
  exact Hex.digit_ne hn (by decide : Hex.digitValue? 'x' = none) hdigit.symm

/-- A text is hex apart from the letter case exactly if its lower-case form is hex. -/
theorem lower_eq_hex_iff :
    lower digits = Hex.encode bytes ↔ asciiLower digits = Hex.encode bytes := by
  refine ⟨fun h => ?_, lower_of_asciiLower_hex⟩
  rw [← lower_eq_asciiLower_of_ascii, h]
  rw [h]
  intro c hc
  obtain ⟨n, hn, rfl⟩ := Hex.exists_digit_of_mem_encode hc
  exact ⟨Hex.digit_toNat_lt hn, Hex.digit_ne hn (by decide)⟩

end Hex

end ContractLens.LetterCase
