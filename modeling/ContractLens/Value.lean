import ContractLens.Abi.Datum
import ContractLens.Json.Basic

/-!
# Values

Decoded arguments and results as they are reported. Integers of up to 128 bits are numbers, larger
ones decimal texts. As JSON, addresses and byte strings are `0x` hex, integers decimal strings, and
arrays and tuples arrays; as text, the parts of an array or tuple stand between brackets without
quotes.

* `Value.ofDatum` is the value of ABI data.
* `Value.toJson` and `Value.text` write it.
-/

namespace ContractLens

/-- A decoded value (`NormalizedValue`). -/
inductive Value where
  /-- A number below `2 ^ 128`. -/
  | uint (n : Nat)
  /-- A larger number in decimal. -/
  | bigUint (decimal : String)
  /-- A signed number of 128 bits. -/
  | int (n : Int)
  /-- A wider signed number in decimal. -/
  | bigInt (decimal : String)
  | bool (b : Bool)
  | bytes (raw : List UInt8)
  | str (s : String)
  /-- An address in hex. -/
  | address (hex : String)
  | array (items : List Value)
  | tuple (items : List Value)
  | null
deriving Inhabited

namespace Value

/-- The address of these bytes (`NormalizedValue.address`). -/
def ofAddressBytes (raw : List UInt8) : Value := address (Hex.encodePrefixed raw)

/-- An unsigned number (in `normalize`). -/
def ofNat (n : Nat) : Value := if n < Nat.pow 2 128 then uint n else bigUint (toString n)

/-- A signed number (in `normalize`). -/
def ofInt (n : Int) : Value :=
  if -(Nat.pow 2 127) ≤ n ∧ n < Nat.pow 2 127 then int n else bigInt (toString n)

mutual

/-- The value of ABI data (`normalize`). A byte string of fixed size is cut to its size. -/
def ofDatum : Abi.Datum → Value
  | .bool b => bool b
  | .uint n _ => ofNat n
  | .int n _ => ofInt n
  | .address raw => ofAddressBytes raw
  | .fixedBytes word size => bytes (word.take size)
  | .function raw => bytes raw
  | .bytes raw => bytes raw
  | .string s => str s
  | .array items | .fixedArray items => array (ofData items)
  | .tuple items => tuple (ofData items)
termination_by structural d => d

/-- The values of several data. -/
def ofData : List Abi.Datum → List Value
  | [] => []
  | d :: ds => ofDatum d :: ofData ds
termination_by structural ds => ds

end

/-- Whether the value is `null` (`NormalizedValue.is_null`). -/
def isNull : Value → Bool
  | null => true
  | _ => false

/-- Whether the value is an empty byte string, an empty text or `null`
    (`NormalizedValue.is_empty`). -/
def isEmpty : Value → Bool
  | null => true
  | bytes raw => raw.isEmpty
  | str s => s.isEmpty
  | _ => false

/-- The address, if the value is one (`NormalizedValue.as_address`). -/
def address? : Value → Option String
  | address hex => some hex
  | _ => none

/-- The number, if the value is an unsigned one of 128 bits (`NormalizedValue.as_u128`). -/
def uint? : Value → Option Nat
  | uint n => some n
  | _ => none

/-- The text, if the value is one (`NormalizedValue.as_str`). -/
def str? : Value → Option String
  | str s => some s
  | _ => none

mutual

/-- The value as text (`NormalizedValue.fmt`). -/
def text : Value → String
  | uint n => toString n
  | bigUint decimal => decimal
  | int n => toString n
  | bigInt decimal => decimal
  | bool true => "true"
  | bool false => "false"
  | bytes raw => Hex.encodePrefixed raw
  | str s => s
  | address hex => hex
  | array items | tuple items => "[" ++ String.intercalate ", " (texts items) ++ "]"
  | null => "null"
termination_by structural v => v

/-- The values as texts. -/
def texts : List Value → List String
  | [] => []
  | v :: vs => text v :: texts vs
termination_by structural vs => vs

end

mutual

/-- The value as JSON (`NormalizedValue.serialize`). -/
def toJson : Value → Json
  | bool b => .bool b
  | null => .null
  | array items | tuple items => .arr (listToJson items)
  | value => .str (text value)
termination_by structural v => v

/-- The values as JSON. -/
def listToJson : List Value → List Json
  | [] => []
  | v :: vs => toJson v :: listToJson vs
termination_by structural vs => vs

end

end Value

end ContractLens
