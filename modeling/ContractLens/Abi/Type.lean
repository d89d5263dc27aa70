import ContractLens.Text.Natural

/-!
# ABI types

The types of values in calls, results and events, and their text: `uint256`, `bytes32[]`,
`(address,uint8)[3]`. `AbiType.parse?` takes the whole text.

* Integer widths are multiples of 8 from 8 to 256, widths of byte strings go from 1 to 32.
* In a tuple, blanks may follow `(` and `,` and precede `)`; one trailing comma may stand there.
* A name with a dot, `Library.Enum`, is an enumeration from elsewhere and has type `uint8`.
* Tuples may be nested up to `maxLevels` levels, where the members of the innermost one count as a
  level of their own.
-/

namespace ContractLens.Abi

/-- The type of a value (`DynSolType`). -/
inductive AbiType where
  | bool
  | uint (bits : Nat)
  | int (bits : Nat)
  | address
  | fixedBytes (size : Nat)
  | function
  | bytes
  | string
  | array (item : AbiType)
  | fixedArray (item : AbiType) (count : Nat)
  | tuple (items : List AbiType)

namespace AbiType

/-! ## Layout -/

mutual

/-- Whether the encoding stands behind an offset. -/
def isDynamic : AbiType → Bool
  | bytes | string | array _ => true
  | fixedArray item _ => item.isDynamic
  | tuple items => anyDynamic items
  | _ => false
termination_by structural t => t

/-- Whether any of the types stands behind an offset. -/
def anyDynamic : List AbiType → Bool
  | [] => false
  | t :: ts => t.isDynamic || anyDynamic ts
termination_by structural ts => ts

end

mutual

/-- The words that a value takes at least: one behind an offset, all its parts' otherwise. -/
def minWords : AbiType → Nat
  | fixedArray item count => count * item.minWords
  | tuple items => minWordsSum items
  | _ => 1
termination_by structural t => t

/-- The words that values of these types take at least. -/
def minWordsSum : List AbiType → Nat
  | [] => 0
  | t :: ts => t.minWords + minWordsSum ts
termination_by structural ts => ts

end

mutual

/-- Whether the type holds nothing but empty tuples. -/
def isEmpty : AbiType → Bool
  | array item | fixedArray item _ => item.isEmpty
  | tuple items => allEmpty items
  | _ => false
termination_by structural t => t

/-- Whether all of the types hold nothing but empty tuples. -/
def allEmpty : List AbiType → Bool
  | [] => true
  | t :: ts => t.isEmpty && allEmpty ts
termination_by structural ts => ts

end

/-- Whether an indexed event input of this type is only known by its hash
    (`is_hashed_when_indexed`). -/
def isHashedWhenIndexed : AbiType → Bool
  | string | bytes | array _ | fixedArray .. | tuple _ => true
  | _ => false

/-! ## Text -/

/-- Whether a character may start a name. -/
def startsName (c : Char) : Bool := c.isAlpha || c == '_' || c == '$'

/-- Whether a character may stand inside a name. -/
def insideName (c : Char) : Bool := c.isAlphanum || c == '_' || c == '$'

/-- A name in front of the rest of a text. -/
def spanName? : List Char → Option (List Char × List Char)
  | [] => none
  | c :: cs =>
    if startsName c then some (c :: cs.takeWhile insideName, cs.dropWhile insideName) else none

/-- The text behind leading spaces and tabs. -/
def skipBlanks (cs : List Char) : List Char := cs.dropWhile fun c => c == ' ' || c == '\t'

/-- The text behind a word, if it starts with it. -/
def afterWord? : List Char → List Char → Option (List Char)
  | [], cs => some cs
  | _ :: _, [] => none
  | w :: ws, c :: cs => if w = c then afterWord? ws cs else none

/-- A width that is a multiple of 8 from 8 to 256. -/
def integerWidth? (digits : List Char) : Option Nat :=
  if digits = [] then some 256
  else (Natural.digits? 10 digits).filter fun n => n % 8 = 0 ∧ 0 < n ∧ n ≤ 256

/-- The type of this name without a dot. -/
def named? (name : List Char) : Option AbiType :=
  if name = "address".toList then some address
  else if name = "bool".toList then some bool
  else if name = "string".toList then some string
  else if name = "bytes".toList then some bytes
  else if name = "function".toList then some function
  else if let some digits := afterWord? "uint".toList name then (integerWidth? digits).map uint
  else if let some digits := afterWord? "int".toList name then (integerWidth? digits).map int
  else if let some digits := afterWord? "bytes".toList name then
    ((Natural.digits? 10 digits).filter fun n => 0 < n ∧ n ≤ 32).map fixedBytes
  else none

/-- A type that is a name, in front of the rest of a text. -/
def parseNamed? (cs : List Char) : Option (AbiType × List Char) :=
  match spanName? cs with
  | none => none
  | some (_, '.' :: rest) =>
    match spanName? rest with
    | some (_, rest) => some (uint 8, rest)
    | none => some (uint 8, rest)
  | some (name, rest) => (named? name).map fun t => (t, rest)

/-- The brackets behind a type, at most as many as the first argument says. -/
def parseBrackets? : Nat → AbiType → List Char → Option (AbiType × List Char)
  | fuel + 1, t, '[' :: cs =>
    match cs with
    | ']' :: rest => parseBrackets? fuel (array t) rest
    | cs =>
      match Natural.digits? 10 (cs.takeWhile Char.isDigit), cs.dropWhile Char.isDigit with
      | some n, ']' :: rest =>
        if 0 < n ∧ n < Nat.pow 2 64 then parseBrackets? fuel (fixedArray t n) rest else none
      | _, _ => none
  | _, t, cs => some (t, cs)

/-- One or more members of a tuple and the closing parenthesis. The first argument bounds the number
    of members. -/
def parseMembers? (read : List Char → Option (AbiType × List Char)) :
    Nat → List Char → Option (List AbiType × List Char)
  | 0, _ => none
  | fuel + 1, cs =>
    match read cs with
    | none => none
    | some (t, ',' :: rest) =>
      match skipBlanks rest with
      | ')' :: rest => some ([t], rest)
      | rest => (parseMembers? read fuel rest).map fun (ts, rest) => (t :: ts, rest)
    | some (t, rest) =>
      match skipBlanks rest with
      | ')' :: rest => some ([t], rest)
      | _ => none

/-- A tuple behind its opening parenthesis. Each member takes at least one character. -/
def parseTuple? (read : List Char → Option (AbiType × List Char)) (cs : List Char) :
    Option (AbiType × List Char) :=
  match skipBlanks cs with
  | ')' :: rest => some (tuple [], rest)
  | cs => (parseMembers? read cs.length cs).map fun (ts, rest) => (tuple ts, rest)

/-- The text behind the opening parenthesis of a tuple. -/
def afterTupleMark? (cs : List Char) : Option (List Char) :=
  (afterWord? "(".toList cs).or (afterWord? "tuple(".toList cs)

/-- A type in front of the rest of a text, with types in at most as many levels as the first
    argument says: the members of a tuple are one level further in. -/
def parseType? : Nat → List Char → Option (AbiType × List Char)
  | 0, _ => none
  | levels + 1, cs =>
    let stem := match afterTupleMark? cs with
      | some rest => parseTuple? (parseType? levels) rest
      | none => parseNamed? cs
    match stem with
    | some (t, rest) => parseBrackets? rest.length t rest
    | none => none

/-- How many levels of types a text may have. -/
def maxLevels : Nat := 80

/-- The type that a text stands for (`DynSolType.parse`). -/
def parse? (s : String) : Option AbiType :=
  match parseType? maxLevels s.toList with
  | some (t, []) => some t
  | _ => none

end AbiType

end ContractLens.Abi
