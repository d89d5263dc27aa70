import ContractLens.Abi.Datum
import ContractLens.Text.Blank

/-!
# Values as text

The texts in which the parameters of a call are given: `true`, `0x…` for addresses and byte strings,
numbers in base 2, 8, 10 or 16 with a fraction, an exponent and a unit (`1.5 ether`, `2e9`), texts
with or without quotes, arrays in `[…]` and tuples in `(…)`. `AbiType.ofText?` takes the whole text.

A number is scaled by a power of ten, its exponent and unit together; a fraction may not have more
digits than the scale. A negative number of any width need only fit 256 bits. Items of arrays may be
nested up to `maxLevels` levels.
-/

namespace ContractLens.Abi.Literal

open AbiType (skipBlanks afterWord?)

/-! ## Byte strings -/

/-- Hex digits behind an optional `0x`, as bytes, and whether the `0x` was there. -/
def spanBytes? (cs : List Char) : Option (Bool × List UInt8 × List Char) :=
  let (marked, cs) := match afterWord? "0x".toList cs with
    | some rest => (true, rest)
    | none => (false, cs)
  let digits := cs.takeWhile Hex.isDigit
  (Hex.decodePairs? (String.ofList digits)).map fun raw => (marked, raw, cs.dropWhile Hex.isDigit)

/-- As many bytes as the size says. -/
def sizedBytes? (size : Nat) (cs : List Char) : Option (List UInt8 × List Char) :=
  match spanBytes? cs with
  | some (_, raw, rest) => if raw.length = size then some (raw, rest) else none
  | none => none

/-- Any number of bytes; none at all only behind `0x`. -/
def anyBytes? (cs : List Char) : Option (List UInt8 × List Char) :=
  match spanBytes? cs with
  | some (marked, raw, rest) => if raw = [] ∧ !marked then none else some (raw, rest)
  | none => none

/-! ## Numbers -/

/-- The base that a mark in front of digits stands for. -/
def radixMark? : List Char → Option (Nat × List Char)
  | '0' :: 'x' :: rest | '0' :: 'X' :: rest => some (16, rest)
  | '0' :: 'o' :: rest | '0' :: 'O' :: rest => some (8, rest)
  | '0' :: 'b' :: rest | '0' :: 'B' :: rest => some (2, rest)
  | _ => none

/-- The whole part of a number. Behind the mark of a base all hex digits belong to it. -/
def whole? (cs : List Char) : Option (Nat × List Char) :=
  match radixMark? cs with
  | some (radix, rest) =>
    (Natural.digits? radix (rest.takeWhile Hex.isDigit)).map (·, rest.dropWhile Hex.isDigit)
  | none => (Natural.digits? 10 (cs.takeWhile Char.isDigit)).map (·, cs.dropWhile Char.isDigit)

/-- The digits of the fraction behind a point, if there is one. -/
def fraction? : List Char → Option (Option (List Char) × List Char)
  | '.' :: rest =>
    match rest.takeWhile Char.isDigit with
    | [] => none
    | ds => some (some ds, rest.dropWhile Char.isDigit)
  | cs => some (none, cs)

/-- A whole number without leading zeros; a sign only in front of a number other than zero. -/
def exponentDigits? : List Char → Option (Int × List Char)
  | '0' :: rest => some (0, rest)
  | cs =>
    let (sign, ds) : Int × List Char := match cs with
      | '-' :: rest => (-1, rest)
      | '+' :: rest => (1, rest)
      | rest => (1, rest)
    if ds.head? = some '0' then none
    else
      (Natural.digits? 10 (ds.takeWhile Char.isDigit)).map fun n =>
        (sign * n, ds.dropWhile Char.isDigit)

/-- The exponent behind `e` or `E`. Where no number follows the letter, there is no exponent and
    nothing is taken. -/
def exponent (cs : List Char) : Int × List Char :=
  match cs with
  | e :: rest => if e = 'e' ∨ e = 'E' then (exponentDigits? rest).getD (0, cs) else (0, cs)
  | [] => (0, cs)

/-- The power of ten of each unit. -/
def units : List (String × Int) :=
  [("wei", 0), ("gwei", 9), ("nanoether", 9), ("nano", 9), ("ether", 18)]

/-- The power of ten of the unit in front of the text; without a unit it is zero. -/
def unitScale (cs : List Char) : Int × List Char :=
  (units.findSome? fun (name, scale) => (afterWord? name.toList cs).map (scale, ·)).getD (0, cs)

/-- A number that fits 256 bits. -/
def fit256? (n : Nat) : Option Nat := if n < Nat.pow 2 256 then some n else none

/-- A number times a power of ten, where all parts have to fit 256 bits. -/
def scaled? (n places : Nat) : Option Nat :=
  if Nat.pow 10 (min places 78) < Nat.pow 2 256 then fit256? (n * Nat.pow 10 places) else none

/-- A number without a sign that fits the given number of bits. -/
def unsigned? (bits : Nat) (cs : List Char) : Option (Nat × List Char) := do
  let (n, cs) ← whole? cs
  let (fraction, cs) ← fraction? cs
  let n ← fit256? n
  let (e, cs) := exponent cs
  let (unit, cs) := unitScale (skipBlanks cs)
  let scale := unit + e
  if scale < 0 then none
  else
    let places := scale.toNat
    let value ← match fraction with
      | none => scaled? n places
      | some ds => do
        let f ← (Natural.digits? 10 ds).bind fit256?
        if places < ds.length then none
        else
          let m ← (scaled? n ds.length).bind fun m => fit256? (m + f)
          scaled? m (places - ds.length)
    if value < Nat.pow 2 bits then some (value, cs) else none

/-- A number with an optional sign. A non-negative number leaves the sign bit of its width free. -/
def signed? (bits : Nat) (cs : List Char) : Option (Int × List Char) :=
  match cs with
  | '-' :: rest =>
    match unsigned? bits rest with
    | some (n, rest) => if n ≤ Nat.pow 2 255 then some (-(n : Int), rest) else none
    | none => none
  | cs =>
    let digits := match cs with
      | '+' :: rest => rest
      | rest => rest
    match unsigned? bits digits with
    | some (n, rest) => if n < Nat.pow 2 (bits - 1) then some (n, rest) else none
    | none => none

/-! ## Texts -/

/-- A text in quotes, without escapes; or a text without quotes, trimmed at its end: all that is
    left, or inside brackets at least one character up to a comma or the bracket `close`. -/
def string? (close : Option Char) (cs : List Char) : Option (String × List Char) :=
  match cs with
  | [] => some ("", [])
  | q :: rest =>
    if q = '"' ∨ q = '\'' then
      match rest.dropWhile (· ≠ q) with
      | _ :: after => some (String.ofList (rest.takeWhile (· ≠ q)), after)
      | [] => none
    else
      match close with
      | none => some (String.ofList (trimEnd cs), [])
      | some close =>
        let inside := fun c => c ≠ ',' ∧ c ≠ close
        match cs.takeWhile inside with
        | [] => none
        | text => some (String.ofList (trimEnd text), cs.dropWhile inside)

/-! ## Sequences -/

/-- The items of an array up to its closing bracket, behind at least one item; a comma may stand
    behind the last one. The first argument bounds their number. -/
def items? (read : List Char → Option (Datum × List Char)) :
    Nat → List Char → Option (List Datum × List Char)
  | 0, _ => none
  | fuel + 1, cs =>
    match read cs with
    | none => none
    | some (d, ',' :: rest) =>
      match skipBlanks rest with
      | ']' :: rest => some ([d], rest)
      | rest => (items? read fuel rest).map fun (ds, rest) => (d :: ds, rest)
    | some (d, rest) =>
      match skipBlanks rest with
      | ']' :: rest => some ([d], rest)
      | _ => none

/-- The reader of items one level further in. At the innermost level no item can be read. -/
def inner? (read : Nat → List Char → Option (Datum × List Char)) :
    Nat → List Char → Option (Datum × List Char)
  | 0, _ => none
  | levels + 1, cs => read levels cs

/-- An array. Each item takes at least one character. -/
def array? (read : List Char → Option (Datum × List Char)) :
    List Char → Option (List Datum × List Char)
  | '[' :: cs =>
    match skipBlanks cs with
    | ']' :: rest => some ([], rest)
    | cs => items? read (cs.length + 1) cs
  | _ => none

mutual

/-- A value of the type in front of the rest of a text, inside brackets that `close` ends and with
    arrays whose items are in at most `levels` levels. -/
def read? : AbiType → Nat → Option Char → List Char → Option (Datum × List Char)
  | .bool, _, _, cs =>
    match afterWord? "true".toList cs, afterWord? "false".toList cs with
    | some rest, _ => some (.bool true, rest)
    | _, some rest => some (.bool false, rest)
    | _, _ => none
  | .uint bits, _, _, cs => (unsigned? bits cs).map fun (n, rest) => (.uint n bits, rest)
  | .int bits, _, _, cs => (signed? bits cs).map fun (n, rest) => (.int n bits, rest)
  | .address, _, _, cs => (sizedBytes? 20 cs).map fun (raw, rest) => (.address raw, rest)
  | .function, _, _, cs => (sizedBytes? 24 cs).map fun (raw, rest) => (.function raw, rest)
  | .fixedBytes size, _, _, cs =>
    (sizedBytes? size cs).map fun (raw, rest) => (.fixedBytes (padRight raw) size, rest)
  | .bytes, _, _, cs => (anyBytes? cs).map fun (raw, rest) => (.bytes raw, rest)
  | .string, _, close, cs => (string? close cs).map fun (s, rest) => (.string s, rest)
  | .array item, levels, _, cs =>
    (array? (inner? (fun n => read? item n (some ']')) levels) cs).map fun (ds, rest) =>
      (.array ds, rest)
  | .fixedArray item count, levels, _, cs =>
    match array? (inner? (fun n => read? item n (some ']')) levels) cs with
    | some (ds, rest) => if ds.length = count then some (.fixedArray ds, rest) else none
    | none => none
  | .tuple items, levels, _, cs =>
    match skipBlanks cs with
    | '(' :: rest =>
      match members? items levels true rest with
      | some (ds, rest) =>
        match skipBlanks rest with
        | ')' :: rest => some (.tuple ds, rest)
        | _ => none
      | none => none
    | _ => none
termination_by structural t => t

/-- The members of a tuple, separated by commas. -/
def members? :
    List AbiType → Nat → Bool → List Char → Option (List Datum × List Char)
  | [], _, _, cs => some ([], cs)
  | t :: ts, levels, first, cs =>
    let start := if first then some cs else
      match skipBlanks cs with
      | ',' :: rest => some rest
      | _ => none
    match start with
    | none => none
    | some cs =>
      match read? t levels (some ')') (skipBlanks cs) with
      | none => none
      | some (d, rest) => (members? ts levels false rest).map fun (ds, rest) => (d :: ds, rest)
termination_by structural ts => ts

end

/-- In how many levels items of arrays may be nested. -/
def maxLevels : Nat := 79

end ContractLens.Abi.Literal

namespace ContractLens.Abi

/-- The value of the type that a text stands for (`DynSolType.coerce_str`). -/
def AbiType.ofText? (t : AbiType) (s : String) : Option Datum :=
  match Literal.read? t Literal.maxLevels none s.toList with
  | some (d, []) => some d
  | _ => none

end ContractLens.Abi
