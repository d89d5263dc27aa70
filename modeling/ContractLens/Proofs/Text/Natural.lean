import ContractLens.Text.Natural
import Mathlib.Tactic

/-!
# Numbers read from their digits

A number is read from the digits that it is written with, in any base up to sixteen.

* `toDigits_eq_cons`, `isDigit_of_mem`: the digits that a number is written with.
* `foldDigits?_toDigits`: digits are taken in up to the number that they stand for.
* `read?_toDigits`: a number is read from its digits.
* `word64?_toDigits`: so is a word of 64 bits.
-/

namespace ContractLens.Natural

variable {radix : ℕ}

/-- The code points of decimal digits. -/
theorem toNat_of_isDigit {c : Char} (h : c.isDigit = true) : 48 ≤ c.toNat ∧ c.toNat ≤ 57 := by
  rw [Char.isDigit, Bool.and_eq_true, decide_eq_true_iff, decide_eq_true_iff] at h
  exact h

/-- Only the digits of zero start with a zero. -/
theorem toDigits_eq_cons (n : ℕ) :
    ∃ c cs, Nat.toDigits 10 n = c :: cs ∧ (c = '0' → n = 0) := by
  induction n using Nat.strong_induction_on with
  | _ n ih =>
    by_cases hn : n < 10
    · have hzero : ∀ d < 10, Nat.digitChar d = '0' → d = 0 := by decide
      exact ⟨_, [], Nat.toDigits_of_lt_base hn, hzero n hn⟩
    · obtain ⟨c, cs, hcs, hc⟩ := ih (n / 10) (by omega)
      rw [Nat.toDigits_of_base_le (by decide) (not_lt.mp hn), hcs]
      exact ⟨c, _, rfl, fun h => by have := hc h; omega⟩

theorem isDigit_of_mem {n : ℕ} {c : Char} (h : c ∈ Nat.toDigits 10 n) : c.isDigit = true :=
  Nat.isDigit_of_mem_toDigits (by decide) (by decide) h

theorem digitValue?_digitChar : ∀ d < 16, Hex.digitValue? (Nat.digitChar d) = some d := by decide

theorem foldDigits?_digitChar {d : ℕ} (hradix : radix ≤ 16) (hd : d < radix) (acc : ℕ)
    (rest : List Char) :
    foldDigits? radix acc (Nat.digitChar d :: rest) =
      foldDigits? radix (radix * acc + d) rest := by
  rw [foldDigits?, digitValue?_digitChar d (by omega)]
  exact if_pos hd

/-- Digits are taken in up to the number that they stand for. -/
theorem foldDigits?_toDigits (hone : 1 < radix) (hradix : radix ≤ 16) (n : ℕ) (rest : List Char) :
    foldDigits? radix 0 (Nat.toDigits radix n ++ rest) = foldDigits? radix n rest := by
  induction n using Nat.strong_induction_on generalizing rest with
  | _ n ih =>
    by_cases hn : n < radix
    · rw [Nat.toDigits_of_lt_base hn, List.singleton_append, foldDigits?_digitChar hradix hn,
        Nat.mul_zero, Nat.zero_add]
    · have hless : n / radix < n := Nat.div_lt_self (by omega) hone
      have hlast : n % radix < radix := Nat.mod_lt n (by omega)
      rw [Nat.toDigits_of_base_le hone (not_lt.mp hn), List.append_assoc, ih _ hless,
        List.singleton_append, foldDigits?_digitChar hradix hlast, Nat.div_add_mod]

/-- A number is read from its digits. -/
theorem read?_toDigits (hone : 1 < radix) (hradix : radix ≤ 16) (n : ℕ) :
    read? radix (Nat.toDigits radix n) = some n := by
  have hfold := foldDigits?_toDigits hone hradix n []
  rw [List.append_nil] at hfold
  cases hdigits : Nat.toDigits radix n with
  | nil => exact absurd hdigits Nat.toDigits_ne_nil
  | cons c cs =>
    rw [hdigits] at hfold
    -- no digit is taken for the sign
    have hsign : c ≠ '+' := by
      rintro rfl
      cases hfold
    unfold read?
    split
    · next heq => exact absurd (List.cons.inj heq).1 hsign
    · exact hfold

/-- A word of 64 bits is read from its digits. -/
theorem word64?_toDigits (hone : 1 < radix) (hradix : radix ≤ 16) (n : UInt64) :
    word64? radix (Nat.toDigits radix n.toNat) = some n := by
  rw [word64?, read?_toDigits hone hradix, Option.bind_some, if_pos n.toNat_lt,
    UInt64.ofNat_toNat]

end ContractLens.Natural
