import ContractLens.Json.Basic
import ContractLens.Decimal.Binary64

/-!
# JSON text

A JSON value written on one line without blanks (`compact`), or with one item or field a line,
indented by two spaces a level (`pretty`).

Strings escape the quote, the backslash and the control characters. Numbers that are not whole have
the fewest digits that read back: written out from `10 ^ -5` up to sixteen digits in front of the
point, with a signed exponent beyond.
-/

namespace ContractLens.Json

/-! ## Strings and numbers -/

/-- A character inside quotes. -/
def escapeChar (c : Char) : List Char :=
  if c = '"' then ['\\', '"']
  else if c = '\\' then ['\\', '\\']
  else if c = '\x08' then ['\\', 'b']
  else if c = '\x0c' then ['\\', 'f']
  else if c = '\n' then ['\\', 'n']
  else if c = '\r' then ['\\', 'r']
  else if c = '\t' then ['\\', 't']
  else if c.toNat < 0x20 then
    ['\\', 'u', '0', '0', Nat.digitChar (c.toNat / 16), Nat.digitChar (c.toNat % 16)]
  else [c]

/-- A string in quotes. -/
def quote (s : String) : String :=
  String.ofList ('"' :: s.toList.flatMap escapeChar ++ ['"'])

/-- The digits of a positive number `digits · 10 ^ place`, written out or with an exponent. -/
def decimalText (digits : Nat) (place : Int) : String :=
  let ds := Nat.toDigits 10 digits
  let point : Int := ds.length + place
  let zeros (n : Int) : List Char := List.replicate n.toNat '0'
  let cs :=
    if 0 ≤ place ∧ point ≤ 16 then ds ++ zeros place ++ ['.', '0']
    else if 0 < point ∧ point ≤ 16 then ds.take point.toNat ++ '.' :: ds.drop point.toNat
    else if -5 < point ∧ point ≤ 0 then '0' :: '.' :: zeros (-point) ++ ds
    else
      let mantissa := match ds with
        | d :: e :: rest => d :: '.' :: e :: rest
        | ds => ds
      let sign := if 1 ≤ point then '+' else '-'
      mantissa ++ 'e' :: sign :: Nat.toDigits 10 (point - 1).natAbs
  String.ofList cs

/-- A binary64 number. -/
def realText (bits : UInt64) : String :=
  let magnitude := bits &&& 0x7fffffffffffffff
  let text :=
    if magnitude = 0 then "0.0"
    else
      let (digits, place) := Binary64.shortest magnitude
      decimalText digits place
  if magnitude = bits then text else "-" ++ text

/-- A value that holds no other values. -/
def scalarText : Json → String
  | bool true => "true"
  | bool false => "false"
  | int n => toString n
  | real bits => realText bits
  | str s => quote s
  | _ => "null"

/-! ## One line -/

mutual

/-- The pieces of a value on one line, in front of the pieces `rest`. -/
def compactPieces : Json → List String → List String
  | arr [], rest => "[]" :: rest
  | arr (item :: items), rest => "[" :: compactPieces item (compactItems items ("]" :: rest))
  | obj fields, rest => "\x7b" :: compactFields "" fields ("\x7d" :: rest)
  | value, rest => scalarText value :: rest
termination_by structural j => j

/-- The pieces of items, each behind a comma. -/
def compactItems : List Json → List String → List String
  | [], rest => rest
  | item :: items, rest => "," :: compactPieces item (compactItems items rest)
termination_by structural items => items

/-- The pieces of fields; `separator` stands in front of the first, a comma in front of the
    others. -/
def compactFields (separator : String) : List (String × Json) → List String → List String
  | [], rest => rest
  | (key, value) :: fields, rest =>
    separator :: quote key :: ":" :: compactPieces value (compactFields "," fields rest)
termination_by structural fields => fields

end

/-- The value on one line. -/
def compact (value : Json) : String := String.join (compactPieces value [])

/-! ## Indented lines -/

/-- A new line at a depth of nesting. -/
def newLine (depth : Nat) : String := String.ofList ('\n' :: List.replicate (2 * depth) ' ')

mutual

/-- The pieces of a value at a depth of nesting, in front of the pieces `rest`. -/
def prettyPieces (depth : Nat) : Json → List String → List String
  | arr [], rest => "[]" :: rest
  | arr (item :: items), rest =>
    "[" :: newLine (depth + 1) ::
      prettyPieces (depth + 1) item (prettyItems depth items (newLine depth :: "]" :: rest))
  | obj [], rest => "\x7b\x7d" :: rest
  | obj ((key, value) :: fields), rest =>
    "\x7b" :: newLine (depth + 1) :: quote key :: ": " ::
      prettyPieces (depth + 1) value (prettyFields depth fields (newLine depth :: "\x7d" :: rest))
  | value, rest => scalarText value :: rest
termination_by structural j => j

/-- The pieces of items, each behind a comma and on a line of its own. -/
def prettyItems (depth : Nat) : List Json → List String → List String
  | [], rest => rest
  | item :: items, rest =>
    "," :: newLine (depth + 1) :: prettyPieces (depth + 1) item (prettyItems depth items rest)
termination_by structural items => items

/-- The pieces of fields, each behind a comma and on a line of its own. -/
def prettyFields (depth : Nat) : List (String × Json) → List String → List String
  | [], rest => rest
  | (key, value) :: fields, rest =>
    "," :: newLine (depth + 1) :: quote key :: ": " ::
      prettyPieces (depth + 1) value (prettyFields depth fields rest)
termination_by structural fields => fields

end

/-- The value with one item or field a line. -/
def pretty (value : Json) : String := String.join (prettyPieces 0 value [])

end ContractLens.Json
