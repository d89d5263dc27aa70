import ContractLens.Abi.Datum
import ContractLens.Text.Utf8

/-!
# Reading ABI data

Data is read along its type. Words are taken as they are: a small integer keeps the bits beyond its
width, any word but zero is true, and padding is not looked at. Offsets and lengths are the low
eight bytes of their words.

A `Cursor` reads one frame, the bytes that offsets count from. Following an offset opens a new
frame, and so does entering a tuple or an array of fixed size; frames may be nested `maxDepth` deep.
An array needs as many words behind its length as its items take at least, counted in 64 bits, and
so does a parameter list. Values side by side need storage, which is limited.

* `decodeParams` reads a parameter list.
* `decodeWord` reads one value that is not behind an offset.
-/

namespace ContractLens.Abi

/-- Why data cannot be read. -/
inductive DecodeFault where
  /-- The data ends too early, or an offset points behind its end. -/
  | overrun
  /-- Frames are nested too deeply. -/
  | tooDeep
  /-- Values need more storage than can be counted. -/
  | beyondCapacity
  /-- Values need more storage than there is. -/
  | noStorage
deriving DecidableEq, Repr

namespace DecodeFault

/-- How many frames may be nested. -/
def maxDepth : Nat := 16

/-- The words for a fault. -/
def message : DecodeFault → String
  | overrun => "ABI decoding failed: buffer overrun while deserializing"
  | tooDeep =>
    "ABI decoding failed: recursion limit of " ++ toString maxDepth ++
      " exceeded during decoding"
  | beyondCapacity =>
    "memory allocation failed because the computed capacity exceeded the collection's maximum"
  | noStorage => "memory allocation failed because the memory allocator returned an error"

end DecodeFault

/-- The bytes of storage that a value takes by itself. -/
def valueSize : Nat := 40

/-- The bytes of storage that there are. -/
def storageSize : Nat := Nat.pow 2 35

/-- Whether values side by side can be stored, as many as the count says. -/
def checkStorage (count : Nat) : Except DecodeFault Unit :=
  if Nat.pow 2 63 ≤ count * valueSize then .error .beyondCapacity
  else if storageSize ≤ count * valueSize then .error .noStorage
  else .ok ()

/-- A place in a frame: all bytes of the frame, those that are not read yet, and how deep the frame
    is nested. -/
structure Cursor where
  frame : List UInt8
  rest : List UInt8
  depth : Nat

namespace Cursor

/-- The start of data. -/
def ofBytes (bytes : List UInt8) : Cursor := ⟨bytes, bytes, 0⟩

/-- The next word. -/
def word (c : Cursor) : Except DecodeFault (List UInt8 × Cursor) :=
  if c.rest.length < 32 then .error .overrun
  else .ok (c.rest.take 32, { c with rest := c.rest.drop 32 })

/-- The next word as an offset or length. -/
def offset (c : Cursor) : Except DecodeFault (Nat × Cursor) :=
  match c.word with
  | .ok (w, c) => .ok (natOfBytes (w.drop 24), c)
  | .error e => .error e

/-- The frame that starts `offset` bytes behind the start of this one. -/
def child (c : Cursor) (offset : Nat) : Except DecodeFault Cursor :=
  if DecodeFault.maxDepth ≤ c.depth then .error .tooDeep
  else if c.frame.length < offset then .error .overrun
  else .ok ⟨c.frame.drop offset, c.frame.drop offset, c.depth + 1⟩

/-- The frame that starts at this place. -/
def here (c : Cursor) : Except DecodeFault Cursor :=
  if DecodeFault.maxDepth ≤ c.depth then .error .tooDeep else .ok ⟨c.rest, c.rest, c.depth + 1⟩

/-- The frame that the next word points to, and the place behind that word. -/
def follow (c : Cursor) : Except DecodeFault (Cursor × Cursor) :=
  match c.offset with
  | .ok (n, next) =>
    match next.child n with
    | .ok target => .ok (target, next)
    | .error e => .error e
  | .error e => .error e

/-- The byte string behind an offset. -/
def byteString (c : Cursor) : Except DecodeFault (List UInt8 × Cursor) :=
  match c.follow with
  | .error e => .error e
  | .ok (target, next) =>
    match target.offset with
    | .error e => .error e
    | .ok (n, body) =>
      if body.rest.length < n then .error .overrun else .ok (body.rest.take n, next)

/-- The next word turned into a value. -/
def wordValue (c : Cursor) (value : List UInt8 → Datum) : Except DecodeFault (Datum × Cursor) :=
  match c.word with
  | .ok (w, c) => .ok (value w, c)
  | .error e => .error e

/-- The byte string behind an offset turned into a value. -/
def byteValue (c : Cursor) (value : List UInt8 → Datum) : Except DecodeFault (Datum × Cursor) :=
  match c.byteString with
  | .ok (bytes, c) => .ok (value bytes, c)
  | .error e => .error e

/-- A sequence in a frame of its own: behind an offset if it is dynamic, in place if not. -/
def sequence (c : Cursor) (dynamic : Bool)
    (read : Cursor → Except DecodeFault (List Datum × Cursor)) :
    Except DecodeFault (List Datum × Cursor) :=
  if dynamic then
    match c.follow with
    | .error e => .error e
    | .ok (target, next) =>
      match read target with
      | .ok (items, _) => .ok (items, next)
      | .error e => .error e
  else
    match c.here with
    | .error e => .error e
    | .ok inner =>
      match read inner with
      | .ok (items, done) => .ok (items, { c with rest := done.rest })
      | .error e => .error e

/-- An array behind an offset: its length, then its items in a frame of their own. -/
def list (c : Cursor) (minWords : Nat)
    (read : Nat → Cursor → Except DecodeFault (List Datum × Cursor)) :
    Except DecodeFault (List Datum × Cursor) :=
  match c.follow with
  | .error e => .error e
  | .ok (target, next) =>
    match target.offset with
    | .error e => .error e
    | .ok (0, _) => .ok ([], next)
    | .ok (n, body) =>
      match body.here with
      | .error e => .error e
      | .ok inner =>
        if inner.rest.length / 32 < n * minWords % Nat.pow 2 64 then .error .overrun
        else
          match if n = 1 then .ok () else checkStorage n with
          | .error e => .error e
          | .ok () =>
            match read n inner with
            | .ok (items, _) => .ok (items, next)
            | .error e => .error e

/-- A number of values read one after the other in the same way. -/
def many (read : Cursor → Except DecodeFault (Datum × Cursor)) :
    Nat → Cursor → Except DecodeFault (List Datum × Cursor)
  | 0, c => .ok ([], c)
  | n + 1, c =>
    match read c with
    | .error e => .error e
    | .ok (d, c) =>
      match many read n c with
      | .ok (ds, c) => .ok (d :: ds, c)
      | .error e => .error e

end Cursor

namespace AbiType

mutual

/-- A value of the type. -/
def decode : AbiType → Cursor → Except DecodeFault (Datum × Cursor)
  | bool, c => c.wordValue fun w => .bool (natOfBytes w != 0)
  | uint bits, c => c.wordValue fun w => .uint (natOfBytes w) bits
  | int bits, c => c.wordValue fun w => .int (intOfWord w) bits
  | address, c => c.wordValue fun w => .address (w.drop 12)
  | fixedBytes size, c => c.wordValue fun w => .fixedBytes w size
  | function, c => c.wordValue fun w => .function (w.take 24)
  | bytes, c => c.byteValue .bytes
  | string, c => c.byteValue fun bytes => .string (Utf8.decode bytes)
  | array item, c =>
    match c.list item.minWords (Cursor.many item.decode) with
    | .ok (items, c) => .ok (.array items, c)
    | .error e => .error e
  | fixedArray item count, c =>
    match c.sequence item.isDynamic (Cursor.many item.decode count) with
    | .ok (items, c) => .ok (.fixedArray items, c)
    | .error e => .error e
  | tuple items, c =>
    match c.sequence (anyDynamic items) (decodeAll items) with
    | .ok (items, c) => .ok (.tuple items, c)
    | .error e => .error e
termination_by structural t => t

/-- Values of these types, one after the other. -/
def decodeAll : List AbiType → Cursor → Except DecodeFault (List Datum × Cursor)
  | [], c => .ok ([], c)
  | t :: ts, c =>
    match t.decode c with
    | .error e => .error e
    | .ok (d, c) =>
      match decodeAll ts c with
      | .ok (ds, c) => .ok (d :: ds, c)
      | .error e => .error e
termination_by structural ts => ts

end

mutual

/-- Whether the values of a type's sizes can be stored, of which the items of an array have theirs
    even if there is none: the innermost ones first. -/
def reserve : AbiType → Except DecodeFault Unit
  | array item => item.reserve
  | fixedArray item count =>
    match item.reserve with
    | .ok () => checkStorage count
    | .error e => .error e
  | tuple items => reserveAll items
  | _ => .ok ()
termination_by structural t => t

/-- Whether the values that these types have in any case can be stored. -/
def reserveAll : List AbiType → Except DecodeFault Unit
  | [] => .ok ()
  | t :: ts =>
    match t.reserve with
    | .ok () => reserveAll ts
    | .error e => .error e
termination_by structural ts => ts

end

/-- The values of a parameter list (`DynSolType.abi_decode_params`). Where all types hold nothing,
    no data is read and there are no values. -/
def decodeParams (types : List AbiType) (data : List UInt8) : Except DecodeFault (List Datum) :=
  if allEmpty types then .ok []
  else if data.length / 32 < minWordsSum types % Nat.pow 2 64 then .error .overrun
  else
    match reserveAll types with
    | .error e => .error e
    | .ok () =>
      match decodeAll types (Cursor.ofBytes data) with
      | .ok (ds, _) => .ok ds
      | .error e => .error e

/-- A value at the start of data (`DynSolType.abi_decode`). -/
def decodeWord (t : AbiType) (data : List UInt8) : Except DecodeFault Datum :=
  match t.decode (Cursor.ofBytes data) with
  | .ok (d, _) => .ok d
  | .error e => .error e

end AbiType

end ContractLens.Abi
