import ContractLens.Proofs.Text.Hex
import ContractLens.Proofs.Text.Natural

/-!
# Which texts are numbers

A number is read from one or more digits of its base, and also from such digits behind a plus sign.
No other text is read, and a word of 64 bits is not read from digits of a greater number.

* `foldDigits?_eq_some_iff`: what digits that are taken in one after the other stand for.
* `read?_eq_some_iff`, `word64?_eq_some_iff`: the texts of numbers and of words.
* `isNumeral_ten_iff`, `isNumeral_sixteen_iff`: decimal and hex digits.
-/

namespace ContractLens.Natural

/-! ## Digits -/

/-- The character is a digit of the base. -/
def IsDigitOf (radix : ℕ) (c : Char) : Prop := ∃ d < radix, Hex.digitValue? c = some d

/-- The number that digits stand for, the highest one first. -/
def value (radix : ℕ) (cs : List Char) : ℕ :=
  Nat.ofDigits radix (cs.reverse.map fun c => (Hex.digitValue? c).getD 0)

/-- The characters are one or more digits of the base, and stand for the number. -/
def IsNumeral (radix : ℕ) (cs : List Char) (n : ℕ) : Prop :=
  cs ≠ [] ∧ (∀ c ∈ cs, IsDigitOf radix c) ∧ value radix cs = n

variable {radix acc n : ℕ} {c : Char} {cs : List Char}

theorem value_cons (radix : ℕ) (c : Char) (cs : List Char) :
    value radix (c :: cs) = radix ^ cs.length * (Hex.digitValue? c).getD 0 + value radix cs := by
  rw [value, List.reverse_cons, List.map_append, Nat.ofDigits_append, List.length_map,
    List.length_reverse, List.map_singleton, Nat.ofDigits_singleton, Nat.add_comm]
  rfl

/-- Digits are taken in up to a number exactly if they stand for it together with what was read
    before them. -/
theorem foldDigits?_eq_some_iff :
    foldDigits? radix acc cs = some n ↔
      (∀ c ∈ cs, IsDigitOf radix c) ∧ radix ^ cs.length * acc + value radix cs = n := by
  induction cs generalizing acc with
  | nil => simp [foldDigits?, value]
  | cons c cs ih =>
    rw [foldDigits?, List.forall_mem_cons, value_cons, List.length_cons]
    cases hc : Hex.digitValue? c with
    | none => simp [IsDigitOf, hc]
    | some d =>
      have hdigit : IsDigitOf radix c ↔ d < radix := by simp [IsDigitOf, hc]
      have hnumber : radix ^ cs.length * (radix * acc + d) + value radix cs =
          radix ^ (cs.length + 1) * acc + (radix ^ cs.length * d + value radix cs) := by ring
      simp only [hdigit, Option.getD_some]
      split_ifs with hd
      · rw [ih, hnumber]
        tauto
      · simp [hd]

/-! ## Numbers -/

theorem digits?_eq_some_iff : digits? radix cs = some n ↔ IsNumeral radix cs n := by
  cases cs with
  | nil => simp [digits?, IsNumeral]
  | cons c cs => simp [digits?, foldDigits?_eq_some_iff, IsNumeral]

/-- A number is read from its digits, with or without a plus sign in front. -/
theorem read?_eq_some_iff :
    read? radix cs = some n ↔
      IsNumeral radix cs n ∨ ∃ digits, cs = '+' :: digits ∧ IsNumeral radix digits n := by
  unfold read?
  split
  · next digits =>
    -- the sign itself is no digit
    have hsign : ¬IsNumeral radix ('+' :: digits) n := by
      rintro ⟨-, hall, -⟩
      obtain ⟨d, -, hd⟩ := hall '+' List.mem_cons_self
      cases hd
    simp [digits?_eq_some_iff, hsign]
  · next hnone =>
    rw [digits?_eq_some_iff, or_iff_left]
    rintro ⟨digits, rfl, -⟩
    exact hnone digits rfl

theorem word64?_eq_some_iff {w : UInt64} :
    word64? radix cs = some w ↔
      IsNumeral radix cs w.toNat ∨
        ∃ digits, cs = '+' :: digits ∧ IsNumeral radix digits w.toNat := by
  rw [← read?_eq_some_iff, word64?, Option.bind_eq_some_iff]
  constructor
  · rintro ⟨m, hm, h⟩
    split_ifs at h with hlt
    obtain rfl := Option.some.inj h
    rwa [UInt64.toNat_ofNat', Nat.mod_eq_of_lt hlt]
  · intro h
    exact ⟨w.toNat, h, by rw [if_pos w.toNat_lt, UInt64.ofNat_toNat]⟩

/-! ## Decimal and hex digits -/

theorem digitValue?_of_isDigit (h : c.isDigit = true) :
    Hex.digitValue? c = some (c.toNat - '0'.toNat) := by
  have hrange : '0' ≤ c ∧ c ≤ '9' := by
    obtain ⟨hlow, hhigh⟩ := toNat_of_isDigit h
    exact ⟨hlow, hhigh⟩
  rw [Hex.digitValue?, if_pos hrange]
  rfl

theorem isDigitOf_ten_iff : IsDigitOf 10 c ↔ c.isDigit = true := by
  constructor
  · rintro ⟨d, hlt, hd⟩
    have hcode {letter : Char} (h : letter ≤ c) : letter.toNat ≤ c.toNat :=
      UInt32.le_iff_toNat_le.mp h
    unfold Hex.digitValue? at hd
    split_ifs at hd with hnumber hlower hupper
    · rw [Char.isDigit, Bool.and_eq_true, decide_eq_true_iff, decide_eq_true_iff]
      exact hnumber
    -- letters stand for ten or more
    · have hle : 0x61 ≤ c.toNat := hcode hlower.1
      have hvalue := Option.some.inj hd
      omega
    · have hle : 0x41 ≤ c.toNat := hcode hupper.1
      have hvalue := Option.some.inj hd
      omega
  · intro h
    have hrange := toNat_of_isDigit h
    have hzero : '0'.toNat = 48 := rfl
    exact ⟨_, by omega, digitValue?_of_isDigit h⟩

theorem isDigitOf_sixteen_iff : IsDigitOf 16 c ↔ Hex.isDigit c = true := by
  rw [Hex.isDigit, Option.isSome_iff_exists]
  constructor
  · rintro ⟨d, -, hd⟩
    exact ⟨d, hd⟩
  · rintro ⟨d, hd⟩
    exact ⟨d, Hex.digitValue?_lt hd, hd⟩

theorem value_ten (h : ∀ c ∈ cs, c.isDigit = true) : value 10 cs = Nat.ofDigitChars 10 cs 0 := by
  induction cs with
  | nil => rfl
  | cons c cs ih =>
    obtain ⟨hc, hcs⟩ := List.forall_mem_cons.mp h
    rw [value_cons, digitValue?_of_isDigit hc, ih hcs, Nat.ofDigitChars_cons, Option.getD_some,
      Nat.mul_zero, Nat.zero_add]
    exact Nat.ofDigitChars_eq_ofDigitChars_zero.symm

/-- Decimal numbers. -/
theorem isNumeral_ten_iff :
    IsNumeral 10 cs n ↔
      cs ≠ [] ∧ (∀ c ∈ cs, c.isDigit = true) ∧ Nat.ofDigitChars 10 cs 0 = n := by
  simp only [IsNumeral, isDigitOf_ten_iff]
  refine and_congr_right fun _ => and_congr_right fun hall => ?_
  rw [value_ten hall]

/-- Hex numbers. -/
theorem isNumeral_sixteen_iff :
    IsNumeral 16 cs n ↔ cs ≠ [] ∧ (∀ c ∈ cs, Hex.isDigit c = true) ∧ Hex.value cs = n := by
  simp only [IsNumeral, isDigitOf_sixteen_iff]
  rfl

end ContractLens.Natural
