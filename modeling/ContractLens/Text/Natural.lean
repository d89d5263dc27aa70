import ContractLens.Text.Hex

/-!
# Natural numbers as text

Numbers written in a base up to sixteen: one optional `+`, then one or more digits, leading zeros
allowed, and nothing else. `word64?` also asks the number to be below `2 ^ 64`.
-/

namespace ContractLens.Natural

/-! ## Reading -/

/-- The number that the digits stand for when `acc` was read before them. -/
def foldDigits? (radix : Nat) : Nat → List Char → Option Nat
  | acc, [] => some acc
  | acc, c :: rest =>
    match Hex.digitValue? c with
    | some d => if d < radix then foldDigits? radix (radix * acc + d) rest else none
    | none => none

/-- One or more digits. -/
def digits? (radix : Nat) : List Char → Option Nat
  | [] => none
  | cs => foldDigits? radix 0 cs

/-- One or more digits behind an optional `+`. -/
def read? (radix : Nat) : List Char → Option Nat
  | '+' :: cs => digits? radix cs
  | cs => digits? radix cs

/-- A number below `2 ^ 64`. -/
def word64? (radix : Nat) (cs : List Char) : Option UInt64 :=
  (read? radix cs).bind fun n => if n < Nat.pow 2 64 then some (UInt64.ofNat n) else none

/-- A decimal text of a number below `2 ^ 64`. -/
def decimalWord64? (s : String) : Option UInt64 := word64? 10 s.toList

/-! ## Writing -/

/-- The decimal digits of a word. -/
def decimal (n : UInt64) : String := toString n.toNat

/-- The shortest lower-case hex digits of a word behind `0x`. -/
def hexQuantity (n : UInt64) : String := "0x" ++ String.ofList (Nat.toDigits 16 n.toNat)

end ContractLens.Natural
