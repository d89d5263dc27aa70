import ContractLens.Bytes
import ContractLens.Error

/-!
# RLP

The recursive length prefix: an item is a byte string or a list of items behind a header with its
length. A byte up to `7f` is an item by itself, lengths up to 55 stand in the first byte, longer
ones behind it.

Items are read from slices. The first element of a list has to lie inside the list's payload; the
ones after it are found by walking on through the whole slice, so bytes behind a list count as
further elements of it. Walking stops without an error at the first item that is not complete.
-/

namespace ContractLens.Rlp

/-! ## Headers -/

/-- How many bytes the header and the payload of an item take. -/
structure Header where
  headerSize : Nat
  payloadSize : Nat
deriving DecidableEq, Repr

/-- The bytes of the whole item. -/
def Header.total (h : Header) : Nat := h.headerSize + h.payloadSize

/-- A header with a length of `count` bytes behind its first byte. -/
def longHeader (count : Nat) (rest : List UInt8) : Except RlpFault Header :=
  match rest with
  | [] => .error .tooShort
  | 0 :: _ => .error .lengthWithZero
  | rest =>
    if rest.length < count then .error .tooShort
    else
      let size := natOfBytes (rest.take count)
      if size ≤ 55 then .error .needlessLongForm else .ok ⟨1 + count, size⟩

/-- The header of the item at the start of a slice. -/
def header : List UInt8 → Except RlpFault Header
  | [] => .error .tooShort
  | first :: rest =>
    let n := first.toNat
    if n ≤ 0x7f then .ok ⟨0, 1⟩
    else if n ≤ 0xb7 then .ok ⟨1, n - 0x80⟩
    else if n ≤ 0xbf then longHeader (n - 0xb7) rest
    else if n ≤ 0xf7 then .ok ⟨1, n - 0xc0⟩
    else longHeader (n - 0xf7) rest

/-- The header of an item that lies inside the slice. -/
def completeHeader (slice : List UInt8) : Except RlpFault Header :=
  match header slice with
  | .ok h => if h.total ≤ slice.length then .ok h else .error .tooShort
  | .error e => .error e

/-! ## Items -/

/-- Whether the slice starts like a list (`Rlp.is_list`). -/
def isList : List UInt8 → Bool
  | [] => false
  | first :: _ => 0xc0 ≤ first

/-- The payload of the item at the start of a slice (`Rlp.data`). -/
def payload (slice : List UInt8) : Except RlpFault (List UInt8) :=
  match completeHeader slice with
  | .ok h => .ok ((slice.drop h.headerSize).take h.payloadSize)
  | .error e => .error e

/-- At most `count` items one after the other, up to the first that is not complete. -/
def walkFor : Nat → List UInt8 → List (List UInt8)
  | 0, _ => []
  | count + 1, slice =>
    match completeHeader slice with
    | .ok h => slice.take h.total :: walkFor count (slice.drop h.total)
    | .error _ => []

/-- The items one after the other, up to the first that is not complete. An item takes at least a
    byte. -/
def walk (slice : List UInt8) : List (List UInt8) := walkFor slice.length slice

/-- The elements of the list at the start of a slice (`Rlp.iter`). -/
def elements (slice : List UInt8) : List (List UInt8) :=
  match completeHeader slice with
  | .error _ => []
  | .ok h =>
    match completeHeader ((slice.drop h.headerSize).take h.payloadSize) with
    | .error _ => []
    | .ok _ => walk (slice.drop h.headerSize)

/-- The elements that a second pass over a list finds (a second `Rlp.iter`). Where the first pass
    found none behind a complete header, the second one walks from there without looking at the end
    of the payload. -/
def elementsAgain (slice : List UInt8) : List (List UInt8) :=
  match completeHeader slice with
  | .error _ => []
  | .ok h => walk (slice.drop h.headerSize)

end ContractLens.Rlp
