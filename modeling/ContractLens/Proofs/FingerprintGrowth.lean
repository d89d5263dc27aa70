import ContractLens.Proofs.Fingerprint

/-!
# More code, more functions

What is found in code is found in all code that it is a part of, and more functions complete more
interfaces. Nothing changes its place, since all that is found stands in an order that does not
depend on the code: functions in that of the candidates, interfaces in that of the registry.

* `IsCode`, `codeDigits_of_isCode`: the digits of code in hex.
* `matchMethods_sublist`: the functions found in a part of code.
* `Interface.namesOfMethods_sublist`: the interfaces completed by some of the functions.
* `fingerprint_monotone`: both together, and that the order of the functions does not matter.
-/

namespace ContractLens

open Abi

/-! ## Code -/

namespace Fingerprint

/-- The text of code is these hex digits in any letter case, with or without `0x` in front. -/
def IsCode (code : String) (digits : List Char) : Prop :=
  (∀ c ∈ digits, Hex.isDigit c = true) ∧
    (code = String.ofList digits ∨ code = "0x" ++ String.ofList digits)

/-- Digits stand one after the other among others, in any letter case. -/
def Within (part whole : List Char) : Prop :=
  part.map Char.toLower <:+: whole.map Char.toLower

variable {code code' : String} {digits digits' : List Char}

theorem codeDigits_of_isCode (h : IsCode code digits) :
    codeDigits code = digits.map Char.toLower := by
  obtain ⟨hdigits, hcode⟩ := h
  have hstrip : Hex.stripMarker code = String.ofList digits := by
    rcases hcode with rfl | rfl
    · apply Hex.stripMarker_eq_self
      rw [String.toList_ofList]
      intro hx
      exact absurd (hdigits 'x' hx) (by decide)
    · exact Hex.stripMarker_append _
  have hascii : ∀ c ∈ (String.ofList digits).toList, c.toNat < 0x80 := by
    rw [String.toList_ofList]
    intro c hc
    exact (Hex.ascii_of_isDigit (hdigits c hc)).1
  rw [codeDigits, hstrip, LetterCase.lower_eq_asciiLower hascii, LetterCase.toList_asciiLower,
    String.toList_ofList]

/-- A selector that occurs in a part occurs in the whole. -/
theorem hasSelector_of_infix {part whole : List Char} (h : part <:+: whole) {selector : String}
    (hpart : hasSelector part selector = true) : hasSelector whole selector = true := by
  rw [hasSelector, Bool.and_eq_true, occursIn_iff] at hpart ⊢
  exact ⟨hpart.1, hpart.2.trans h⟩

/-- What is found in a part of code is found in the code, in the same order. -/
theorem matchMethods_sublist (h : codeDigits code <:+: codeDigits code')
    (candidates : List (String × String)) :
    (matchMethods (some code) candidates).Sublist (matchMethods (some code') candidates) := by
  rw [matchMethods_eq_filter, matchMethods_eq_filter]
  apply List.Sublist.map
  apply List.monotone_filter_right
  intro candidate
  exact hasSelector_of_infix h

end Fingerprint

/-! ## Interfaces -/

namespace Abi.Interface

variable {methods methods' : List String}

/-- More functions complete more interfaces, in the same order. -/
theorem namesOfMethods_sublist (h : methods ⊆ methods') :
    (namesOfMethods methods).Sublist (namesOfMethods methods') := by
  rw [namesOfMethods_eq, namesOfMethods_eq]
  apply List.Sublist.map
  apply List.monotone_filter_right
  intro i hi
  rw [decide_eq_true_iff] at hi ⊢
  intro m hm
  exact h (hi m hm)

/-- The order and the repetitions of the functions do not matter. -/
theorem namesOfMethods_congr (h : ∀ m, m ∈ methods ↔ m ∈ methods') :
    namesOfMethods methods = namesOfMethods methods' := by
  simp only [namesOfMethods_eq, completedNames, h]

end Abi.Interface

/-! ## Fingerprints -/

open Fingerprint Interface

/-- Whatever the candidates and their selectors are: if the digits of code stand among those of
    other code, with or without `0x` and in any letter case, the functions found in the former are
    found in the latter, and so are the interfaces that they complete, all in the same order. The
    interfaces depend on nothing but which functions there are, and more functions complete more of
    them, in the same order. -/
theorem fingerprint_monotone :
    (∀ (candidates : List (String × String)) (code code' : String) (digits digits' : List Char),
      IsCode code digits → IsCode code' digits' → Within digits digits' →
        (matchMethods (some code) candidates).Sublist (matchMethods (some code') candidates) ∧
        (namesOfMethods (matchMethods (some code) candidates)).Sublist
          (namesOfMethods (matchMethods (some code') candidates))) ∧
    ∀ methods methods' : List String,
      ((∀ m, m ∈ methods ↔ m ∈ methods') → namesOfMethods methods = namesOfMethods methods') ∧
      (methods ⊆ methods' → (namesOfMethods methods).Sublist (namesOfMethods methods')) := by
  constructor
  · intro candidates code code' digits digits' hcode hcode' hwithin
    have hdigits : codeDigits code <:+: codeDigits code' := by
      rw [codeDigits_of_isCode hcode, codeDigits_of_isCode hcode']
      exact hwithin
    have hfound := matchMethods_sublist hdigits candidates
    exact ⟨hfound, namesOfMethods_sublist hfound.subset⟩
  · intro methods methods'
    exact ⟨namesOfMethods_congr, namesOfMethods_sublist⟩

/-- Two functions, one of which is found in the shorter code. -/
def twoCandidates : List (String × String) :=
  [("transferAndCall(address,uint256,bytes)", "4000aea0"), ("proxiableUUID()", "52D1902D")]

/-- The function that is found in the shorter code is found in the longer one, where another letter
    case is used and another function is found behind it. -/
theorem fingerprint_monotone_twoCandidates :
    IsCode "0x4000AEA0" "4000AEA0".toList ∧
    IsCode "60804000aea052d1902d" "60804000aea052d1902d".toList ∧
    Within "4000AEA0".toList "60804000aea052d1902d".toList ∧
    ["transferAndCall(address,uint256,bytes)"].Sublist
      (matchMethods (some "60804000aea052d1902d") twoCandidates) ∧
    ["ERC677"].Sublist
      (namesOfMethods (matchMethods (some "60804000aea052d1902d") twoCandidates)) := by
  have hcode : IsCode "0x4000AEA0" "4000AEA0".toList :=
    ⟨List.all_eq_true.mp rfl, Or.inr rfl⟩
  have hcode' : IsCode "60804000aea052d1902d" "60804000aea052d1902d".toList :=
    ⟨List.all_eq_true.mp rfl, Or.inl String.ofList_toList.symm⟩
  have hwithin : Within "4000AEA0".toList "60804000aea052d1902d".toList :=
    (occursIn_iff _ _).mp (by decide +kernel)
  have hfound : matchMethods (some "0x4000AEA0") twoCandidates =
      ["transferAndCall(address,uint256,bytes)"] := by
    decide +kernel
  have hnames : namesOfMethods ["transferAndCall(address,uint256,bytes)"] = ["ERC677"] := by
    decide +kernel
  have hgrows := fingerprint_monotone.1 twoCandidates _ _ _ _ hcode hcode' hwithin
  rw [hfound, hnames] at hgrows
  exact ⟨hcode, hcode', hwithin, hgrows⟩

end ContractLens
