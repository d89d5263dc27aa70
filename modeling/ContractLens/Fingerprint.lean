import ContractLens.Abi.Interface
import ContractLens.Abi.SignatureTable
import ContractLens.Text.LetterCase

/-!
# Fingerprints of code

A function counts as present in deployed code when its selector's digits occur anywhere in the
code's hex text, in either letter case. This may take a constant for a selector.
-/

namespace ContractLens.Fingerprint

/-- Whether the characters occur one after the other in the text. -/
def occursIn (part : List Char) : List Char → Bool
  | [] => part.isEmpty
  | c :: rest => part.isPrefixOf (c :: rest) || occursIn part rest

/-- Whether a selector is not empty and occurs in the code, which is in lower case (in
    `match_methods`). -/
def hasSelector (code : List Char) (selector : String) : Bool :=
  selector ≠ "" && occursIn (LetterCase.lower selector).toList code

/-- The digits of code in lower case without `0x` (in `match_methods`). -/
def codeDigits (code : String) : List Char := (LetterCase.lower (Hex.stripMarker code)).toList

/-- The signatures whose selectors occur in the code (`match_methods`). Code that is missing or
    empty has none. -/
def matchMethods (code : Option String) (candidates : List (String × String)) : List String :=
  match code with
  | none => []
  | some code =>
    match codeDigits code with
    | [] => []
    | digits => (candidates.filter fun (_, selector) => hasSelector digits selector).map (·.1)

end ContractLens.Fingerprint
