import ContractLens.Bytes

/-!
# Hexadecimal text

Bytes written with two lower-case digits each, and texts of hex digits read back as bytes.

* `encode` writes bytes, `encodePrefixed` puts `0x` in front.
* `decode` takes an optional leading `0x` and any number of digits of either letter case; an odd
  number of digits reads as if a `0` stood in front of the first one.
* `decodePairs?` takes an even number of digits and nothing else.

Reading works on the UTF-8 bytes of the text, so the position in a `BadDigit` counts bytes.
-/

namespace ContractLens

namespace Hex

/-! ## Digits -/

/-- The lower-case digit of the number `n`, for `n < 16`. -/
def digit (n : Nat) : Char :=
  if n < 10 then Char.ofNat (0x30 + n) else Char.ofNat (0x57 + n)

/-- The value of a hex digit of either letter case. -/
def digitValue? (c : Char) : Option Nat :=
  if '0' ≤ c ∧ c ≤ '9' then some (c.toNat - 0x30)
  else if 'a' ≤ c ∧ c ≤ 'f' then some (c.toNat - 0x57)
  else if 'A' ≤ c ∧ c ≤ 'F' then some (c.toNat - 0x37)
  else none

/-- Whether the character is a hex digit of either letter case. -/
def isDigit (c : Char) : Bool := (digitValue? c).isSome

/-- The character whose code is the byte. -/
def byteChar (b : UInt8) : Char := Char.ofNat b.toNat

/-! ## Writing -/

/-- The two digits of a byte, high half first. -/
def byteDigits (b : UInt8) : List Char := [digit (b.toNat / 16), digit (b.toNat % 16)]

/-- The digits of the bytes in order. -/
def digits (bytes : List UInt8) : List Char := bytes.flatMap byteDigits

/-- The bytes as lower-case hex. -/
def encode (bytes : List UInt8) : String := String.ofList (digits bytes)

/-- The bytes as lower-case hex behind `0x`. -/
def encodePrefixed (bytes : List UInt8) : String := "0x" ++ encode bytes

/-! ## Reading -/

/-- A byte that is no hex digit, and how many bytes stand before it. -/
structure BadDigit where
  byte : UInt8
  position : Nat
deriving DecidableEq, Repr

/-- The value of the digit at `position`. -/
def digitAt (position : Nat) (b : UInt8) : Except BadDigit Nat :=
  match digitValue? (byteChar b) with
  | some n => .ok n
  | none => .error ⟨b, position⟩

/-- The bytes that pairs of digits stand for. The first digit stands at `position`; a last digit
    without a partner is left out. -/
def decodePairs (position : Nat) : List UInt8 → Except BadDigit (List UInt8)
  | hi :: lo :: rest => do
    let h ← digitAt position hi
    let l ← digitAt (position + 1) lo
    let bytes ← decodePairs (position + 2) rest
    return UInt8.ofNat (16 * h + l) :: bytes
  | _ => .ok []

/-- A leading `0x` taken away, once (in `decode_hex`). -/
def dropMarker : List UInt8 → List UInt8
  | 0x30 :: 0x78 :: rest => rest
  | bytes => bytes

/-- A `0` put in front of an odd number of digits (in `decode_hex`). -/
def padEven (digits : List UInt8) : List UInt8 :=
  if digits.length % 2 = 1 then 0x30 :: digits else digits

/-- The bytes that a text of hex digits, with or without `0x`, stands for (in `decode_hex`). -/
def decode (s : String) : Except BadDigit (List UInt8) :=
  decodePairs 0 (padEven (dropMarker (utf8Bytes s)))

/-- The bytes that an even number of hex digits without any marker stands for. -/
def decodePairs? (s : String) : Option (List UInt8) :=
  let digits := utf8Bytes s
  if digits.length % 2 = 1 then none else (decodePairs 0 digits).toOption

/-! ## Markers in front of text -/

/-- The text without a leading `0x`, which is taken away once. -/
def stripMarker (s : String) : String :=
  match s.toList with
  | '0' :: 'x' :: rest => String.ofList rest
  | _ => s

end Hex

/-- Whether a text is `0x` and forty hex digits (`is_hex_address` and `is_address`). -/
def isHexAddress (s : String) : Bool :=
  match s.toList with
  | '0' :: 'x' :: digits => digits.length == 40 && digits.all Hex.isDigit
  | _ => false

end ContractLens
