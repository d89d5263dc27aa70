import ContractLens.Abi.Type
import ContractLens.Text.Hex

/-!
# ABI data

`Datum` is a value together with the parts of its type that its encoding depends on. `encode` writes
words of 32 bytes: a dynamic member of a sequence stands behind all of the sequence's heads, and its
head is the distance from the start of the sequence.

`encodeParams` is the encoding of a parameter list.
-/

namespace ContractLens.Abi

/-- A value of an ABI type (`DynSolValue`). Numbers carry their width in bits, byte strings of fixed
    size the whole word in which they stand and their size. -/
inductive Datum where
  | bool (b : Bool)
  | uint (n : Nat) (bits : Nat)
  | int (n : Int) (bits : Nat)
  | address (raw : List UInt8)
  | fixedBytes (word : List UInt8) (size : Nat)
  | function (raw : List UInt8)
  | bytes (raw : List UInt8)
  | string (s : String)
  | array (items : List Datum)
  | fixedArray (items : List Datum)
  | tuple (items : List Datum)

/-! ## Words -/

/-- The word of a number. -/
def wordOfNat (n : Nat) : List UInt8 := bytesOfNat 32 n

/-- The word of a signed number, in two's complement. -/
def wordOfInt (n : Int) : List UInt8 := wordOfNat (n % Nat.pow 2 256).toNat

/-- The signed number of a word, in two's complement. -/
def intOfWord (word : List UInt8) : Int := Int.bmod (natOfBytes word) (Nat.pow 2 256)

/-- Zeros up to the next multiple of 32 bytes behind a byte string. -/
def padRight (bytes : List UInt8) : List UInt8 :=
  bytes ++ List.replicate ((32 - bytes.length % 32) % 32) 0

/-- Zeros in front of a byte string up to 32 bytes. -/
def padLeft (bytes : List UInt8) : List UInt8 := List.replicate (32 - bytes.length) 0 ++ bytes

namespace Datum

/-! ## Layout -/

mutual

/-- Whether the encoding stands behind an offset. -/
def isDynamic : Datum → Bool
  | bytes _ | string _ | array _ => true
  | fixedArray items | tuple items => anyDynamic items
  | _ => false
termination_by structural d => d

/-- Whether any of the values stands behind an offset. -/
def anyDynamic : List Datum → Bool
  | [] => false
  | d :: ds => d.isDynamic || anyDynamic ds
termination_by structural ds => ds

end

mutual

/-- The bytes of the head: one word for an offset, the whole encoding otherwise. -/
def headSize : Datum → Nat
  | fixedArray items | tuple items => if anyDynamic items then 32 else headSizeSum items
  | _ => 32
termination_by structural d => d

/-- The bytes of the heads. -/
def headSizeSum : List Datum → Nat
  | [] => 0
  | d :: ds => d.headSize + headSizeSum ds
termination_by structural ds => ds

end

/-! ## Encoding -/

mutual

/-- The encoding of a value without any offset of its own. -/
def encode : Datum → List UInt8
  | bool b => wordOfNat (if b then 1 else 0)
  | uint n _ => wordOfNat n
  | int n _ => wordOfInt n
  | address raw => padLeft raw
  | fixedBytes word _ => word
  | function raw => padRight raw
  | bytes raw => wordOfNat raw.length ++ padRight raw
  | string s => wordOfNat (utf8Bytes s).length ++ padRight (utf8Bytes s)
  | array items =>
    let (heads, tails) := encodeParts (headSizeSum items) items
    wordOfNat items.length ++ heads ++ tails
  | fixedArray items | tuple items =>
    let (heads, tails) := encodeParts (headSizeSum items) items
    heads ++ tails
termination_by structural d => d

/-- The heads and the tails of the members of a sequence, when the next tail stands `offset` bytes
    behind the start of the sequence. -/
def encodeParts (offset : Nat) : List Datum → List UInt8 × List UInt8
  | [] => ([], [])
  | d :: ds =>
    let code := d.encode
    if d.isDynamic then
      let (heads, tails) := encodeParts (offset + code.length) ds
      (wordOfNat offset ++ heads, code ++ tails)
    else
      let (heads, tails) := encodeParts offset ds
      (code ++ heads, tails)
termination_by structural ds => ds

end

/-- The encoding of a parameter list (`DynSolValue.abi_encode_params`). -/
def encodeParams (params : List Datum) : List UInt8 := (tuple params).encode

end Datum

end ContractLens.Abi
