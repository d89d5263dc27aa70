import ContractLens.Bytes
import ContractLens.Hash.Sha256

/-!
# Base58Check

Texts of Bitcoin addresses: a version byte, a payload and a checksum of four bytes, written as one
number in base 58 with a `1` for each leading zero byte.

`version?` reads the version byte, and `versionChecked` does so where no access may be out of range.
-/

namespace ContractLens.Base58Check

/-- The digits in order of their value. -/
def alphabet : List Char := "123456789ABCDEFGHJKLMNPQRSTUVWXYZabcdefghijkmnopqrstuvwxyz".toList

/-- The number that digits stand for when `acc` was read before them. -/
def number? : Nat → List Char → Option Nat
  | acc, [] => some acc
  | acc, c :: rest => (alphabet.idxOf? c).bind fun d => number? (58 * acc + d) rest

/-- The fewest bytes that hold a number, none for zero. -/
def minimalBytes (n : Nat) : List UInt8 :=
  if n = 0 then [] else bytesOfNat (Nat.log2 n / 8 + 1) n

/-- The bytes that a text stands for (`bs58.decode`). -/
def decode? (s : String) : Option (List UInt8) :=
  (number? 0 s.toList).map fun n =>
    List.replicate (s.toList.takeWhile (· == '1')).length 0 ++ minimalBytes n

/-- The first four bytes of the hash of a hash (in `base58check_version`). -/
def checksum (payload : List UInt8) : List UInt8 := (Sha256.sha256 (Sha256.sha256 payload)).take 4

/-- The version byte of a text with a right checksum (`base58check_version`). -/
def version? (s : String) : Option UInt8 :=
  (decode? s).bind fun raw =>
    let payload := raw.take (raw.length - 4)
    if 5 ≤ raw.length ∧ checksum payload = raw.drop (raw.length - 4) then payload.head? else none

/-! The same with every difference, cut and access checked. -/

/-- The first bytes and the rest, if there are so many (in `base58check_version`). -/
def splitWithin? (count : Nat) (raw : List UInt8) : Option (List UInt8 × List UInt8) :=
  if count ≤ raw.length then some (raw.take count, raw.drop count) else none

/-- The difference of two counts, if it is not negative (in `base58check_version`). -/
def differenceWithin? (a b : Nat) : Option Nat := if b ≤ a then some (a - b) else none

/-- `version?`, where each difference, each cut and each access has to stay in range
    (`base58check_version`). There is no answer at all if one of them does not. -/
def versionChecked (s : String) : Option (Option UInt8) :=
  match decode? s with
  | none => some none
  | some raw =>
    if raw.length < 5 then some none
    else do
      let count ← differenceWithin? raw.length 4
      let (payload, check) ← splitWithin? count raw
      let (front, _) ← splitWithin? 4 (Sha256.sha256 (Sha256.sha256 payload))
      if front = check then do
        let version ← payload[0]?
        return some version
      else return none

end ContractLens.Base58Check
