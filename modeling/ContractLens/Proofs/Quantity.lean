import ContractLens.Node.Block
import ContractLens.Proofs.Text.Natural

/-!
# Quantities and block tags read back

A word of 64 bits is read from its hex digits behind `0x`. So a node reads the number of a block
from the text of its tag, and each tag from its own text.

* `ofText?_hexQuantity`: a word is read from what is written for it.
* `ofText_text`: a tag is read from its text.
-/

namespace ContractLens

/-- A word is read from what is written for it. -/
theorem Quantity.ofText?_hexQuantity (n : UInt64) :
    ofText? (Natural.hexQuantity n) = some n := by
  have hchars : (Natural.hexQuantity n).toList = '0' :: 'x' :: Nat.toDigits 16 n.toNat := by
    rw [Natural.hexQuantity, String.toList_append]
    exact congrArg ("0x".toList ++ ·) String.toList_ofList
  have hword := Natural.word64?_toDigits (by norm_num : 1 < 16) le_rfl n
  unfold ofText?
  rw [hchars]
  split
  · next heq => exact absurd (List.cons.inj (List.cons.inj heq).2).2 Nat.toDigits_ne_nil
  · next heq =>
    rw [← (List.cons.inj (List.cons.inj heq).2).2]
    exact hword
  · next hmarker => exact absurd rfl (hmarker _)

/-- A tag is read from its text. -/
theorem BlockTag.ofText_text (tag : BlockTag) : ofText tag.text = .ok tag := by
  cases tag with
  | latest => rfl
  | earliest => rfl
  | pending => rfl
  | number n =>
    have hname {name : String} (h : name.toList.head? ≠ some '0') :
        Natural.hexQuantity n ≠ name := by
      rintro rfl
      rw [Natural.hexQuantity, String.toList_append] at h
      exact h rfl
    rw [ofText, text, if_neg (hname (by decide)), if_neg (hname (by decide)),
      if_neg (hname (by decide)), Quantity.ofText?_hexQuantity]

end ContractLens
