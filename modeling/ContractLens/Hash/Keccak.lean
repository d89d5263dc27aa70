import ContractLens.Text.Hex

/-!
# Keccak-256

The sponge with the 24-round permutation on twenty-five 64-bit lanes, a rate of 136 bytes and the
padding `01 … 80`. A lane `(x, y)` is entry `x` of row `y`; a round is `θ`, `ρ` and `π` together,
`χ` and `ι`.

`keccak256` is the hash of bytes, `keccak256Hex` the hash of a text's UTF-8 bytes in lower-case hex.
-/

namespace ContractLens.Keccak

/-! ## Lanes -/

/-- The five lanes of one row. -/
structure Row where
  a : UInt64
  b : UInt64
  c : UInt64
  d : UInt64
  e : UInt64

/-- The sums of the lanes of two rows. -/
def Row.add (p q : Row) : Row := ⟨p.a ^^^ q.a, p.b ^^^ q.b, p.c ^^^ q.c, p.d ^^^ q.d, p.e ^^^ q.e⟩

/-- The five rows of the state. -/
structure Lanes where
  r0 : Row
  r1 : Row
  r2 : Row
  r3 : Row
  r4 : Row

/-- A word rotated to the left by `0 ≤ n < 64` places. -/
def rotate (w : UInt64) (n : Nat) : UInt64 :=
  if n = 0 then w else (w <<< UInt64.ofNat n) ||| (w >>> UInt64.ofNat (64 - n))

/-! ## The permutation -/

/-- Each lane gets the parities of two neighbouring columns added. -/
def theta (s : Lanes) : Lanes :=
  let c := s.r0.add (s.r1.add (s.r2.add (s.r3.add s.r4)))
  let d : Row :=
    ⟨c.e ^^^ rotate c.b 1, c.a ^^^ rotate c.c 1, c.b ^^^ rotate c.d 1, c.c ^^^ rotate c.e 1,
      c.d ^^^ rotate c.a 1⟩
  ⟨s.r0.add d, s.r1.add d, s.r2.add d, s.r3.add d, s.r4.add d⟩

/-- Each lane is rotated by its own distance and moved to its new place. -/
def rhoPi (s : Lanes) : Lanes :=
  ⟨⟨s.r0.a, rotate s.r1.b 44, rotate s.r2.c 43, rotate s.r3.d 21, rotate s.r4.e 14⟩,
    ⟨rotate s.r0.d 28, rotate s.r1.e 20, rotate s.r2.a 3, rotate s.r3.b 45, rotate s.r4.c 61⟩,
    ⟨rotate s.r0.b 1, rotate s.r1.c 6, rotate s.r2.d 25, rotate s.r3.e 8, rotate s.r4.a 18⟩,
    ⟨rotate s.r0.e 27, rotate s.r1.a 36, rotate s.r2.b 10, rotate s.r3.c 15, rotate s.r4.d 56⟩,
    ⟨rotate s.r0.c 62, rotate s.r1.d 55, rotate s.r2.e 39, rotate s.r3.a 41, rotate s.r4.b 2⟩⟩

/-- Within a row, each lane gets a product of the next two added. -/
def Row.chi (r : Row) : Row :=
  ⟨r.a ^^^ (~~~r.b &&& r.c), r.b ^^^ (~~~r.c &&& r.d), r.c ^^^ (~~~r.d &&& r.e),
    r.d ^^^ (~~~r.e &&& r.a), r.e ^^^ (~~~r.a &&& r.b)⟩

/-- The constants of the rounds in order. -/
def roundConstants : List UInt64 := [
  0x0000000000000001, 0x0000000000008082, 0x800000000000808a, 0x8000000080008000,
  0x000000000000808b, 0x0000000080000001, 0x8000000080008081, 0x8000000000008009,
  0x000000000000008a, 0x0000000000000088, 0x0000000080008009, 0x000000008000000a,
  0x000000008000808b, 0x800000000000008b, 0x8000000000008089, 0x8000000000008003,
  0x8000000000008002, 0x8000000000000080, 0x000000000000800a, 0x800000008000000a,
  0x8000000080008081, 0x8000000000008080, 0x0000000080000001, 0x8000000080008008]

/-- One round. -/
def round (s : Lanes) (constant : UInt64) : Lanes :=
  let t := rhoPi (theta s)
  let first := t.r0.chi
  ⟨{ first with a := first.a ^^^ constant }, t.r1.chi, t.r2.chi, t.r3.chi, t.r4.chi⟩

/-- All rounds. -/
def permute (s : Lanes) : Lanes := roundConstants.foldl round s

/-! ## The sponge -/

/-- Bytes that enter or leave the state between two permutations. -/
def rate : Nat := 136

/-- The word whose lowest byte comes first. -/
def wordOfBytes (bytes : List UInt8) : UInt64 :=
  bytes.foldr (fun b w => (w <<< 8) ||| b.toUInt64) 0

/-- The eight bytes of a word, lowest first. -/
def bytesOfWord (w : UInt64) : List UInt8 :=
  (List.range 8).map fun i => (w >>> UInt64.ofNat (8 * i)).toUInt8

/-- Lane `i` of a block. -/
def blockLane (block : List UInt8) (i : Nat) : UInt64 := wordOfBytes ((block.drop (8 * i)).take 8)

/-- The lanes of a block of `rate` bytes; the lanes behind it are zero. -/
def blockLanes (block : List UInt8) : Lanes :=
  let lane := blockLane block
  ⟨⟨lane 0, lane 1, lane 2, lane 3, lane 4⟩, ⟨lane 5, lane 6, lane 7, lane 8, lane 9⟩,
    ⟨lane 10, lane 11, lane 12, lane 13, lane 14⟩, ⟨lane 15, lane 16, 0, 0, 0⟩, ⟨0, 0, 0, 0, 0⟩⟩

/-- The sums of all lanes. -/
def Lanes.add (s t : Lanes) : Lanes :=
  ⟨s.r0.add t.r0, s.r1.add t.r1, s.r2.add t.r2, s.r3.add t.r3, s.r4.add t.r4⟩

/-- The state before the first block. -/
def start : Lanes :=
  ⟨⟨0, 0, 0, 0, 0⟩, ⟨0, 0, 0, 0, 0⟩, ⟨0, 0, 0, 0, 0⟩, ⟨0, 0, 0, 0, 0⟩, ⟨0, 0, 0, 0, 0⟩⟩

/-- The message filled up to whole blocks: a `1` bit behind it and a `1` bit at the end. -/
def pad (message : List UInt8) : List UInt8 :=
  let missing := rate - message.length % rate
  if missing = 1 then message ++ [0x81]
  else message ++ 0x01 :: List.replicate (missing - 2) 0 ++ [0x80]

/-- The first `blocks` blocks of the bytes taken into the state. -/
def absorb : Nat → Lanes → List UInt8 → Lanes
  | 0, s, _ => s
  | blocks + 1, s, bytes =>
    absorb blocks (permute (s.add (blockLanes (bytes.take rate)))) (bytes.drop rate)

/-- The 32 bytes of the hash of a message (`keccak256`). -/
def keccak256 (message : List UInt8) : List UInt8 :=
  let s := absorb (message.length / rate + 1) start (pad message)
  [s.r0.a, s.r0.b, s.r0.c, s.r0.d].flatMap bytesOfWord

/-- The hash of a text in hex (`keccak256_hex`). -/
def keccak256Hex (s : String) : String := Hex.encode (keccak256 (utf8Bytes s))

end ContractLens.Keccak
