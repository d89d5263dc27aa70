/-!
# JSON values

`Json` keeps whole numbers apart from binary64 numbers, and the fields of an object in the order in
which they were written. `canonical` is the value as a mapping: of a repeated key the last field
stays, and the keys are sorted.

A part of a text may follow the grammar and still stand for no value; it is kept as `unreadable`.
Readers of records pass over it in fields that they do not know, and `isReadable` tells whether a
value is free of it.

A record is read from an object by the names of its fields, or from an array by their positions.
`Json.record?` finds the fields that a reader knows; `required`, `optional` and `withDefault` read
one of them.
-/

namespace ContractLens

/-- A JSON value. A number is `real`, given by the bits of its binary64 form, when it is written
    with a fraction or an exponent or lies outside the words of 64 bits. -/
inductive Json where
  | null
  | bool (b : Bool)
  | int (n : Int)
  | real (bits : UInt64)
  | str (s : String)
  | arr (items : List Json)
  | obj (fields : List (String × Json))
  /-- A number that is too large, a string with half of a surrogate pair, an object with such a key,
      or an array or object that is nested too deeply. -/
  | unreadable
deriving Inhabited

namespace Json

/-! ## Objects as mappings -/

/-- A field put into a sorted list of fields; a field of the same key is replaced. -/
def insertField (key : String) (value : Json) : List (String × Json) → List (String × Json)
  | [] => [(key, value)]
  | (k, v) :: rest =>
    if key < k then (key, value) :: (k, v) :: rest
    else if k = key then (key, value) :: rest
    else (k, v) :: insertField key value rest

mutual

/-- The value with each object's keys sorted, keeping the last field of a repeated key. -/
def canonical : Json → Json
  | arr items => arr (canonicalItems items)
  | obj fields => obj (canonicalFields [] fields)
  | value => value
termination_by structural j => j

/-- The items in canonical form. -/
def canonicalItems : List Json → List Json
  | [] => []
  | item :: rest => item.canonical :: canonicalItems rest
termination_by structural items => items

/-- The fields in canonical form put into the sorted fields `done`. -/
def canonicalFields (done : List (String × Json)) : List (String × Json) → List (String × Json)
  | [] => done
  | (key, value) :: rest => canonicalFields (insertField key value.canonical done) rest
termination_by structural fields => fields

end

/-- The first field of an object with this key. -/
def field? (key : String) : Json → Option Json
  | obj fields => fields.lookup key
  | _ => none

/-- The field of an object with this key, `null` when there is none. -/
def fieldD (key : String) (value : Json) : Json := (value.field? key).getD null

mutual

/-- Whether no part of the value is unreadable. -/
def isReadable : Json → Bool
  | arr items => allReadable items
  | obj fields => fieldsReadable fields
  | unreadable => false
  | _ => true
termination_by structural j => j

/-- Whether no part of the items is unreadable. -/
def allReadable : List Json → Bool
  | [] => true
  | item :: rest => item.isReadable && allReadable rest
termination_by structural items => items

/-- Whether no part of the fields is unreadable. -/
def fieldsReadable : List (String × Json) → Bool
  | [] => true
  | (_, value) :: rest => value.isReadable && fieldsReadable rest
termination_by structural fields => fields

end

/-- Whether the value is `null`. -/
def isNull : Json → Bool
  | null => true
  | _ => false

/-! ## Reading single values -/

/-- The text of a string. -/
def text? : Json → Option String
  | str s => some s
  | _ => none

/-- The truth value of a boolean. -/
def flag? : Json → Option Bool
  | bool b => some b
  | _ => none

/-- The word that a whole number from 0 to `2 ^ 64 - 1` is. -/
def word? : Json → Option UInt64
  | int n => if 0 ≤ n ∧ n < Nat.pow 2 64 then some (UInt64.ofNat n.toNat) else none
  | _ => none

/-- The items of an array, each read in the same way. -/
def list? {α : Type} (read : Json → Option α) : Json → Option (List α)
  | arr items => items.mapM read
  | _ => none

/-- `null` as nothing, and anything else by its reader. -/
def nullable? {α : Type} (read : Json → Option α) : Json → Option (Option α)
  | null => some none
  | value => (read value).map some

/-! ## Reading records -/

/-- The fields that a reader knows, each at most once. -/
structure Record where
  fields : List (String × Json)

/-- Whether no key occurs twice. -/
def distinctKeys : List (String × Json) → Bool
  | [] => true
  | (key, _) :: rest => !rest.any (·.1 == key) && distinctKeys rest

/-- The fields of these names: by name from an object, where a known name must not be repeated and
    others are passed over, and by position from an array, which may be shorter than the names. -/
def record? (names : List String) : Json → Option Record
  | obj fields =>
    let known := fields.filter fun (key, _) => names.contains key
    if distinctKeys known then some ⟨known⟩ else none
  | arr items => if items.length ≤ names.length then some ⟨names.zip items⟩ else none
  | _ => none

namespace Record

/-- The field of this name. -/
def get? (r : Record) (name : String) : Option Json := r.fields.lookup name

/-- A field that has to be there. -/
def required {α : Type} (r : Record) (name : String) (read : Json → Option α) : Option α :=
  (r.get? name).bind read

/-- A field that may be absent or `null`. -/
def optional {α : Type} (r : Record) (name : String) (read : Json → Option α) : Option (Option α) :=
  match r.get? name with
  | none => some none
  | some value => nullable? read value

/-- A field that has a value of its own when it is absent. -/
def withDefault {α : Type} (r : Record) (name : String) (absent : α) (read : Json → Option α) :
    Option α :=
  match r.get? name with
  | none => some absent
  | some value => read value

end Record

/-! ## Writing -/

/-- A number as a JSON value. -/
def ofWord (n : UInt64) : Json := int n.toNat

/-- A count as a JSON value. -/
def ofNat (n : Nat) : Json := int n

/-- Texts as a JSON array. -/
def ofTexts (texts : List String) : Json := arr (texts.map str)

/-- A value, or `null` for nothing. -/
def ofOption {α : Type} (write : α → Json) : Option α → Json
  | some a => write a
  | none => null

/-- A field that is left out when there is nothing to write. -/
def fieldOfOption {α : Type} (key : String) (write : α → Json) : Option α → List (String × Json)
  | some a => [(key, write a)]
  | none => []

end Json

end ContractLens
