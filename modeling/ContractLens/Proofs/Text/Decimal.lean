import ContractLens.Proofs.Text.Natural

/-!
# Integers in decimal

The decimal text of an integer is its digits, without needless zeros in front, behind a minus sign if
it is negative. Such a text stands for one integer only.

* `AreDigits`, `IsDecimal`: the decimal digits of a number, the decimal text of an integer.
* `isDecimal_toString`: integers are written as their decimal texts.
* `IsDecimal.unique`: a text stands for at most one integer.
-/

namespace ContractLens.Natural

/-! ## Digits -/

/-- The characters are the decimal digits of a number, with no zero in front but for zero itself. -/
structure AreDigits (digits : List Char) (n : ℕ) : Prop where
  isDigit : ∀ c ∈ digits, c.isDigit = true
  ne_nil : digits ≠ []
  leading : digits.head? = some '0' → digits = ['0']
  value : Nat.ofDigitChars 10 digits 0 = n

theorem areDigits_toDigits (n : ℕ) : AreDigits (Nat.toDigits 10 n) n := by
  refine ⟨fun _ => isDigit_of_mem, Nat.toDigits_ne_nil, fun h => ?_, Nat.ofDigitChars_ten_toDigits⟩
  obtain ⟨c, cs, hcs, hzero⟩ := toDigits_eq_cons n
  rw [hcs, List.head?_cons] at h
  rw [hzero (Option.some.inj h)]
  rfl

theorem AreDigits.ne_minus {digits : List Char} {n : ℕ} (h : AreDigits digits n)
    (rest : List Char) : digits ≠ '-' :: rest := by
  rintro rfl
  exact absurd (h.isDigit '-' List.mem_cons_self) (by decide)

/-! ## Integers -/

/-- The decimal text of an integer. -/
def IsDecimal (n : ℤ) (s : String) : Prop :=
  ∃ digits, AreDigits digits n.natAbs ∧ s.toList = if n < 0 then '-' :: digits else digits

/-- An integer is written as its decimal text. -/
theorem isDecimal_toString (n : ℤ) : IsDecimal n (toString n) := by
  refine ⟨Nat.toDigits 10 n.natAbs, areDigits_toDigits _, ?_⟩
  rw [Int.toString_eq_repr, Int.repr_eq_if]
  by_cases hn : n < 0
  · have habs : (-n).toNat = n.natAbs := by omega
    rw [if_neg (not_le.mpr hn), if_pos hn, habs, String.toList_append, Nat.toList_repr]
    rfl
  · have habs : n.toNat = n.natAbs := by omega
    rw [if_pos (not_lt.mp hn), if_neg hn, habs, Nat.toList_repr]

/-- So is a natural number. -/
theorem isDecimal_toString_nat (n : ℕ) : IsDecimal n (toString n) :=
  isDecimal_toString n

/-- A text is the decimal text of at most one integer. -/
theorem IsDecimal.unique {m n : ℤ} {s : String} (hm : IsDecimal m s) (hn : IsDecimal n s) :
    m = n := by
  obtain ⟨digits, hdigits, htext⟩ := hm
  obtain ⟨digits', hdigits', htext'⟩ := hn
  rw [htext] at htext'
  have hvalue : digits = digits' → m.natAbs = n.natAbs := by
    intro h
    rw [← hdigits.value, ← hdigits'.value, h]
  -- the sign is told from the first character, the rest from the digits
  split_ifs at htext' with hm hn hn
  · have habs := hvalue (List.cons.inj htext').2
    omega
  · exact absurd htext'.symm (hdigits'.ne_minus _)
  · exact absurd htext' (hdigits.ne_minus _)
  · have habs := hvalue htext'
    omega

end ContractLens.Natural
