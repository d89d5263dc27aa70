import ContractLens.Json.Basic
import ContractLens.Text.Natural

/-!
# Quantities

Block heights, indices and times. As text a quantity is decimal, or hex behind `0x`, where `0x`
alone is zero; as a JSON value it may also be a whole number.
-/

namespace ContractLens.Quantity

/-- The quantity that a text stands for (`parse_quantity`). -/
def ofText? (s : String) : Option UInt64 :=
  match s.toList with
  | ['0', 'x'] => some 0
  | '0' :: 'x' :: digits => Natural.word64? 16 digits
  | digits => Natural.word64? 10 digits

/-- The quantity that a JSON number or string stands for (`de_quantity` for blocks). -/
def ofJson? : Json → Option UInt64
  | .str s => ofText? s
  | value => value.word?

/-- A quantity that may be `null` (`de_quantity` for logs, `de_opt_quantity`). -/
def ofNullable? : Json → Option (Option UInt64) := Json.nullable? ofJson?

end ContractLens.Quantity
