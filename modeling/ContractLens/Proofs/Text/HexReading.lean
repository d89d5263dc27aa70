import ContractLens.Error
import ContractLens.Proofs.Except
import ContractLens.Proofs.Text.LetterCase
import ContractLens.Proofs.Text.Numeral
import ContractLens.Proofs.Text.Utf8

/-!
# Reading hex

A text is read as bytes exactly if it is hex digits, with or without `0x` in front of them. Reading
works on the UTF-8 bytes of the text, and their number decides whether a zero is put in front. No
text is misread for that: the bytes of a text are hex digits only if all of its characters are, and
then there is one byte for each character.

* `Hex.decodePairs_eq_ok_iff`: what an even number of bytes is read as.
* `Hex.forall_isDigit_byteChar_iff`, `Hex.dropMarker_utf8Bytes`: hex digits and markers in the bytes
  of a text are those in the text.
* `Hex.decode_eq_ok_iff`: what a text is read as.
* `decodeHex_of_asciiLower_hex`, `decodeHex_encodePrefixed`: written bytes are read again.
* `decodeHex_iff_spells`: the texts that are read, and the bytes that they stand for.
-/

namespace ContractLens

namespace Hex

variable {position : ℕ} {raw bytes : List UInt8} {s : String}

/-! ## Numbers -/

theorem value_cons (c : Char) (cs : List Char) :
    value (c :: cs) = 16 ^ cs.length * (digitValue? c).getD 0 + value cs :=
  Natural.value_cons 16 c cs

/-- Two digits in front are one of base 256. -/
theorem value_cons_cons {c d : Char} {high low : ℕ} (hc : digitValue? c = some high)
    (hd : digitValue? d = some low) (cs : List Char) :
    value (c :: d :: cs) = 16 ^ cs.length * (16 * high + low) + value cs := by
  rw [value_cons, value_cons, hc, hd, Option.getD_some, Option.getD_some, List.length_cons]
  ring

/-- The digits of bytes stand for the number that the bytes stand for. -/
theorem value_digits (bytes : List UInt8) : value (digits bytes) = natOfBytes bytes := by
  induction bytes with
  | nil => rfl
  | cons b bytes ih =>
    have hb := b.toNat_lt
    have hhigh := digitValue?_digit (show b.toNat / 16 < 16 by omega)
    have hlow := digitValue?_digit (show b.toNat % 16 < 16 by omega)
    have hpower : 16 ^ (2 * bytes.length) = 256 ^ bytes.length := pow_mul 16 2 _
    rw [digits_cons, value_cons_cons hhigh hlow, Nat.div_add_mod, ih, length_digits, hpower,
      natOfBytes_cons]

/-! ## Pairs of digits -/

theorem isDigit_of_digitValue? {c : Char} {n : ℕ} (h : digitValue? c = some n) :
    isDigit c = true := by
  rw [isDigit, h, Option.isSome_some]

theorem digitAt_eq_ok_iff {b : UInt8} {n : ℕ} :
    digitAt position b = .ok n ↔ digitValue? (byteChar b) = some n := by
  unfold digitAt
  cases digitValue? (byteChar b) <;> simp

/-- A pair of digits is one byte in front of what is read from the others. -/
theorem decodePairs_cons_eq_ok_iff {hi lo : UInt8} :
    decodePairs position (hi :: lo :: raw) = .ok bytes ↔
      ∃ high low rest, digitValue? (byteChar hi) = some high ∧
        digitValue? (byteChar lo) = some low ∧ decodePairs (position + 2) raw = .ok rest ∧
        bytes = UInt8.ofNat (16 * high + low) :: rest := by
  simp only [decodePairs, bind_eq_ok_iff, digitAt_eq_ok_iff]
  constructor
  · rintro ⟨high, hhigh, low, hlow, rest, hrest, ⟨⟩⟩
    exact ⟨high, low, rest, hhigh, hlow, hrest, rfl⟩
  · rintro ⟨high, low, rest, hhigh, hlow, hrest, rfl⟩
    exact ⟨high, hhigh, low, hlow, rest, hrest, rfl⟩

/-- Hex digits are read as some bytes. -/
theorem exists_decodePairs (h : ∀ b ∈ raw, isDigit (byteChar b) = true) (position : ℕ) :
    ∃ bytes, decodePairs position raw = .ok bytes := by
  induction position, raw using decodePairs.induct with
  | case1 position hi lo raw ih =>
    rw [List.forall_mem_cons, List.forall_mem_cons] at h
    obtain ⟨high, hhigh⟩ := Option.isSome_iff_exists.mp h.1
    obtain ⟨low, hlow⟩ := Option.isSome_iff_exists.mp h.2.1
    obtain ⟨rest, hrest⟩ := ih h.2.2
    exact ⟨_, decodePairs_cons_eq_ok_iff.mpr ⟨high, low, rest, hhigh, hlow, hrest, rfl⟩⟩
  | case2 raw position hshort =>
    unfold decodePairs
    split
    · next hi lo rest => exact absurd rfl (hshort hi lo rest)
    · exact ⟨[], rfl⟩

/-- Only hex digits are read. Two of them are one byte, and all bytes stand for the number that the
    digits stand for. -/
theorem of_decodePairs (heven : raw.length % 2 = 0) (h : decodePairs position raw = .ok bytes) :
    (∀ b ∈ raw, isDigit (byteChar b) = true) ∧ raw.length = 2 * bytes.length ∧
      natOfBytes bytes = value (raw.map byteChar) := by
  induction position, raw using decodePairs.induct generalizing bytes with
  | case1 position hi lo raw ih =>
    obtain ⟨high, low, rest, hhigh, hlow, hrest, rfl⟩ := decodePairs_cons_eq_ok_iff.mp h
    rw [List.length_cons, List.length_cons] at heven
    obtain ⟨hdigits, hlength, hvalue⟩ := ih (by omega) hrest
    have hbyte : (UInt8.ofNat (16 * high + low)).toNat = 16 * high + low := by
      have hlt := digitValue?_lt hhigh
      have hlt' := digitValue?_lt hlow
      exact toNat_ofNat_of_lt (by omega)
    have hpower : 16 ^ raw.length = 256 ^ rest.length := by rw [hlength]; exact pow_mul 16 2 _
    refine ⟨?_, ?_, ?_⟩
    · rw [List.forall_mem_cons, List.forall_mem_cons]
      exact ⟨isDigit_of_digitValue? hhigh, isDigit_of_digitValue? hlow, hdigits⟩
    · rw [List.length_cons, List.length_cons, List.length_cons]
      omega
    · rw [natOfBytes_cons, hbyte, hvalue, List.map_cons, List.map_cons, value_cons_cons hhigh hlow,
        List.length_map, hpower]
  | case2 raw position hshort =>
    -- one byte is left out as it is no pair, but an even number below two is zero
    match raw with
    | [] =>
      obtain rfl := Except.ok.inj h
      simp [value]
    | [_] => simp at heven
    | hi :: lo :: raw => exact absurd rfl (hshort hi lo raw)

/-- An even number of bytes is read exactly if all are hex digits, as half as many bytes that stand
    for the same number. -/
theorem decodePairs_eq_ok_iff (heven : raw.length % 2 = 0) :
    decodePairs position raw = .ok bytes ↔
      (∀ b ∈ raw, isDigit (byteChar b) = true) ∧ raw.length = 2 * bytes.length ∧
        natOfBytes bytes = value (raw.map byteChar) := by
  refine ⟨of_decodePairs heven, ?_⟩
  rintro ⟨hdigits, hlength, hvalue⟩
  obtain ⟨bytes', h⟩ := exists_decodePairs hdigits position
  obtain ⟨-, hlength', hvalue'⟩ := of_decodePairs heven h
  have hsame : bytes = bytes' := natOfBytes_inj (by omega) (hvalue.trans hvalue'.symm)
  rw [hsame, h]

/-! ## Bytes of a text -/

theorem toNat_byteChar (b : UInt8) : (byteChar b).toNat = b.toNat := by
  have hb := b.toNat_lt
  exact LetterCase.toNat_ofNat_of_isValidChar (.inl (by omega))

theorem byteChar_ofNat_toNat {c : Char} (h : c.toNat < 0x80) :
    byteChar (UInt8.ofNat c.toNat) = c := by
  rw [byteChar, UInt8.toNat_ofNat', Nat.mod_eq_of_lt (by omega), Char.ofNat_toNat]

/-- The bytes of a text in ASCII are its characters. -/
theorem map_byteChar_utf8Bytes (h : ∀ c ∈ s.toList, c.toNat < 0x80) :
    (utf8Bytes s).map byteChar = s.toList := by
  rw [LetterCase.utf8Bytes_of_ascii h, List.map_map]
  exact (List.map_congr_left fun c hc => byteChar_ofNat_toNat (h c hc)).trans (List.map_id _)

theorem map_byteChar_of_isDigit (h : ∀ c ∈ s.toList, isDigit c = true) :
    (utf8Bytes s).map byteChar = s.toList :=
  map_byteChar_utf8Bytes fun c hc => (ascii_of_isDigit (h c hc)).1

/-- The bytes of a text are hex digits exactly if its characters are. -/
theorem forall_isDigit_byteChar_iff :
    (∀ b ∈ utf8Bytes s, isDigit (byteChar b) = true) ↔ ∀ c ∈ s.toList, isDigit c = true := by
  constructor
  · intro h
    have hascii : ∀ b ∈ utf8Bytes s, b.toNat < 0x80 := by
      intro b hb
      have hlt := (ascii_of_isDigit (h b hb)).1
      rwa [toNat_byteChar] at hlt
    -- the text is what its bytes are read as, and in ASCII each of them is read as a character
    have hchars : s.toList = (utf8Bytes s).map byteChar := by
      have htext := congrArg String.toList (Utf8.decode_utf8Bytes s)
      rw [Utf8.decode, Utf8.decodeChars_of_ascii hascii, String.toList_ofList] at htext
      exact htext.symm
    rw [hchars]
    exact List.forall_mem_map.mpr h
  · intro h b hb
    refine h (byteChar b) ?_
    rw [← map_byteChar_of_isDigit h]
    exact List.mem_map_of_mem hb

/-- A marker in front of the bytes is one in front of the text. -/
theorem dropMarker_utf8Bytes (s : String) :
    dropMarker (utf8Bytes s) = utf8Bytes (stripMarker s) := by
  unfold stripMarker
  split
  · next rest hs =>
    rw [utf8Bytes, utf8Bytes, hs, String.toList_ofList]
    rfl
  · next hmarker =>
    unfold dropMarker
    split
    · next rest hbytes =>
      have htext := congrArg String.toList (Utf8.decode_utf8Bytes s)
      rw [hbytes, Utf8.decode, Utf8.decodeChars_one (by decide), Utf8.decodeChars_one (by decide),
        String.toList_ofList] at htext
      exact absurd htext.symm (hmarker (Utf8.decodeChars rest))
    · rfl

/-! ## A zero in front -/

theorem length_padEven (raw : List UInt8) :
    (padEven raw).length = 2 * ((raw.length + 1) / 2) := by
  unfold padEven
  split_ifs with hodd
  · rw [List.length_cons]
    omega
  · omega

theorem forall_mem_padEven_iff :
    (∀ b ∈ padEven raw, isDigit (byteChar b) = true) ↔
      ∀ b ∈ raw, isDigit (byteChar b) = true := by
  have hzero : isDigit (byteChar 0x30) = true := by decide
  unfold padEven
  split_ifs <;> simp [hzero]

theorem value_padEven (raw : List UInt8) :
    value ((padEven raw).map byteChar) = value (raw.map byteChar) := by
  unfold padEven
  split_ifs
  · exact value_zeros_append 1 _
  · rfl

/-! ## Texts -/

/-- Hex digits behind an optional marker are read as some bytes. -/
theorem exists_decode (h : ∀ c ∈ (stripMarker s).toList, isDigit c = true) :
    ∃ bytes, decode s = .ok bytes := by
  rw [decode, dropMarker_utf8Bytes]
  apply exists_decodePairs
  rw [forall_mem_padEven_iff, forall_isDigit_byteChar_iff]
  exact h

/-- Only hex digits behind an optional marker are read. Two of them are one byte, where an odd
    number has a zero in front, and all bytes stand for the number that the digits stand for. -/
theorem decode_eq_ok_iff :
    decode s = .ok bytes ↔ (∀ c ∈ (stripMarker s).toList, isDigit c = true) ∧
      bytes.length = ((stripMarker s).toList.length + 1) / 2 ∧
      natOfBytes bytes = value (stripMarker s).toList := by
  have heven : (padEven (utf8Bytes (stripMarker s))).length % 2 = 0 := by
    rw [length_padEven]
    omega
  rw [decode, dropMarker_utf8Bytes, decodePairs_eq_ok_iff heven, forall_mem_padEven_iff,
    forall_isDigit_byteChar_iff, length_padEven, value_padEven]
  refine and_congr_right fun hdigits => ?_
  have hchars := map_byteChar_of_isDigit hdigits
  have hlength : (utf8Bytes (stripMarker s)).length = (stripMarker s).toList.length := by
    rw [← List.length_map, hchars]
  rw [hchars, hlength]
  omega

/-- Hex in any letter case, behind an optional marker, is read as the bytes that it stands for. -/
theorem decode_of_stripMarker (h : LetterCase.asciiLower (stripMarker s) = encode bytes) :
    decode s = .ok bytes := by
  have hlower : (stripMarker s).toList.map Char.toLower = digits bytes := by
    rw [← LetterCase.toList_asciiLower, h, toList_encode]
  rw [decode_eq_ok_iff]
  refine ⟨?_, ?_, ?_⟩
  · intro c hc
    obtain ⟨n, hn, hdigit⟩ := LetterCase.exists_digit_of_asciiLower_hex h hc
    have hvalue : digitValue? c = some n := by
      rw [← digitValue?_toLower, hdigit, digitValue?_digit hn]
    exact isDigit_of_digitValue? hvalue
  · have hlength := congrArg List.length hlower
    rw [List.length_map, length_digits] at hlength
    omega
  · rw [← value_map_toLower, hlower, value_digits]

end Hex

/-! ## Written bytes -/

theorem decodeHex_eq_ok_iff {s : String} {raw : List UInt8} :
    decodeHex s = .ok raw ↔ Hex.decode s = .ok raw := by
  unfold decodeHex
  cases Hex.decode s <;> simp

/-- Hex in any letter case is read like hex in lower case, with or without `0x`. -/
theorem decodeHex_of_asciiLower_hex {digits : String} {raw : List UInt8}
    (h : LetterCase.asciiLower digits = Hex.encode raw) :
    decodeHex digits = .ok raw ∧ decodeHex ("0x" ++ digits) = .ok raw := by
  rw [decodeHex_eq_ok_iff, decodeHex_eq_ok_iff]
  constructor
  · apply Hex.decode_of_stripMarker
    rw [LetterCase.stripMarker_of_asciiLower_hex h, h]
  · apply Hex.decode_of_stripMarker
    rw [Hex.stripMarker_append, h]

/-- Written bytes are read from the text that holds them. -/
theorem decodeHex_encodePrefixed (raw : List UInt8) :
    decodeHex (Hex.encodePrefixed raw) = .ok raw :=
  (decodeHex_of_asciiLower_hex (LetterCase.asciiLower_encode raw)).2

/-! ## Texts that are read -/

/-- The text is the digits, with or without `0x` in front of them. -/
def Hex.Spells (s : String) (digits : List Char) : Prop :=
  (s.toList = digits ∨ s.toList = '0' :: 'x' :: digits) ∧ ∀ c ∈ digits, isDigit c = true

theorem Hex.spells_iff {s : String} {digits : List Char} :
    Spells s digits ↔ (stripMarker s).toList = digits ∧ ∀ c ∈ digits, isDigit c = true := by
  refine and_congr_left fun hdigits => ?_
  unfold stripMarker
  split
  · next rest hs =>
    -- the letter of the marker is no digit
    have hletter : s.toList ≠ digits := by
      rintro rfl
      have hx := hdigits 'x' (by simp [hs])
      cases hx
    rw [or_iff_right hletter, hs, String.toList_ofList]
    simp
  · next hmarker => exact or_iff_left (hmarker digits)

/-- A text is read exactly if it is hex digits of either letter case, with or without `0x`. Then it
    is read as the bytes that stand for the same number, one for two digits and one for a digit that
    is left. Bytes are read again from their hex in any letter case, with or without `0x`. -/
theorem decodeHex_iff_spells (s : String) :
    ((∃ raw, decodeHex s = .ok raw) ↔ ∃ digits, Hex.Spells s digits) ∧
    (∀ digits, Hex.Spells s digits → ∀ raw, decodeHex s = .ok raw ↔
      raw.length = (digits.length + 1) / 2 ∧ natOfBytes raw = Hex.value digits) ∧
    ∀ raw, LetterCase.asciiLower s = Hex.encode raw →
      decodeHex s = .ok raw ∧ decodeHex ("0x" ++ s) = .ok raw := by
  refine ⟨⟨?_, ?_⟩, ?_, fun raw => decodeHex_of_asciiLower_hex⟩
  · rintro ⟨raw, hraw⟩
    have hdigits := (Hex.decode_eq_ok_iff.mp (decodeHex_eq_ok_iff.mp hraw)).1
    exact ⟨_, Hex.spells_iff.mpr ⟨rfl, hdigits⟩⟩
  · rintro ⟨digits, hspells⟩
    obtain ⟨rfl, hdigits⟩ := Hex.spells_iff.mp hspells
    obtain ⟨raw, hraw⟩ := Hex.exists_decode hdigits
    exact ⟨raw, decodeHex_eq_ok_iff.mpr hraw⟩
  · intro digits hspells raw
    obtain ⟨rfl, hdigits⟩ := Hex.spells_iff.mp hspells
    rw [decodeHex_eq_ok_iff, Hex.decode_eq_ok_iff, and_iff_right hdigits]

example : (decodeHex "0x0xab").toOption = none ∧ (decodeHex "0x1é").toOption = none := by decide

/-- An odd number of digits, and bytes written in both letter cases. -/
theorem decodeHex_oddDigits :
    Hex.Spells "0xaBc" ['a', 'B', 'c'] ∧ decodeHex "0xaBc" = .ok [0x0a, 0xbc] ∧
      LetterCase.asciiLower "AbCd" = Hex.encode [0xab, 0xcd] ∧
      decodeHex "AbCd" = .ok [0xab, 0xcd] ∧ decodeHex "0xAbCd" = .ok [0xab, 0xcd] := by
  have hdigits : ['a', 'B', 'c'].all Hex.isDigit = true := by decide
  have hspells : Hex.Spells "0xaBc" ['a', 'B', 'c'] := ⟨.inr rfl, List.all_eq_true.mp hdigits⟩
  have hlower : LetterCase.asciiLower "AbCd" = Hex.encode [0xab, 0xcd] := by decide
  obtain ⟨-, hodd, -⟩ := decodeHex_iff_spells "0xaBc"
  obtain ⟨-, -, hwritten⟩ := decodeHex_iff_spells "AbCd"
  exact ⟨hspells, (hodd _ hspells _).mpr ⟨rfl, rfl⟩, hlower, hwritten _ hlower⟩

end ContractLens
