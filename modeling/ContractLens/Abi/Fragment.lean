import ContractLens.Json.Basic

/-!
# ABI fragments

The entries of a contract's interface description in JSON: functions, events, constructors,
fallbacks and errors with their parameters. A fragment keeps what was written, absent options
included, so `Fragment.toJson` and `Fragment.ofJson?` are inverse to each other on fragments.
-/

namespace ContractLens.Abi

/-! ## Parameters -/

/-- An input or output: its name, its type as written, the parts of a tuple type, whether it was
    said to be indexed, and the type's name in the contract's source (`AbiParam`). -/
inductive Param where
  | mk (name : String) (type : String) (components : List Param) (indexed : Option Bool)
      (internalType : Option String)

namespace Param

/-- The name. -/
def name : Param → String
  | mk n _ _ _ _ => n

/-- The type as written. -/
def type : Param → String
  | mk _ t _ _ _ => t

/-- The parts of a tuple type. -/
def components : Param → List Param
  | mk _ _ cs _ _ => cs

/-- Whether the parameter was said to be indexed. -/
def indexed : Param → Option Bool
  | mk _ _ _ i _ => i

/-- The type's name in the contract's source. -/
def internalType : Param → Option String
  | mk _ _ _ _ t => t

/-- A parameter with a name and a type alone (`AbiParam.new`). -/
def plain (name type : String) : Param := mk name type [] none none

/-- A parameter of an event, indexed or not (`AbiParam.indexed`). -/
def ofEvent (name type : String) (indexed : Bool) : Param := mk name type [] (some indexed) none

/-- Whether the parameter is indexed (`AbiParam.is_indexed`). -/
def isIndexed (p : Param) : Bool := p.indexed == some true

mutual

/-- Equality is decided part by part. -/
def decEq : (p q : Param) → Decidable (p = q)
  | mk n t cs i y, mk n' t' cs' i' y' =>
    if h : n = n' ∧ t = t' ∧ i = i' ∧ y = y' then
      match decEqList cs cs' with
      | isTrue hc => isTrue (by rw [h.1, h.2.1, h.2.2.1, h.2.2.2, hc])
      | isFalse hc => isFalse fun e => hc (by injection e)
    else isFalse fun e => h (by injection e with a b _ d e; exact ⟨a, b, d, e⟩)
termination_by structural p => p

/-- Equality of lists is decided member by member. -/
def decEqList : (ps qs : List Param) → Decidable (ps = qs)
  | [], [] => isTrue rfl
  | [], _ :: _ => isFalse nofun
  | _ :: _, [] => isFalse nofun
  | p :: ps, q :: qs =>
    match decEq p q, decEqList ps qs with
    | isTrue h, isTrue hs => isTrue (by rw [h, hs])
    | isFalse h, _ => isFalse fun e => h (by injection e)
    | _, isFalse hs => isFalse fun e => hs (by injection e)
termination_by structural ps => ps

end

instance : DecidableEq Param := decEq

/-- The names of the fields of a parameter. -/
def fieldNames : List String := ["name", "type", "components", "indexed", "internalType"]

/-- The parameter that a record describes, given its parts. -/
def ofRecord? (r : Json.Record) (components : List Param) : Option Param := do
  let name ← r.withDefault "name" "" Json.text?
  let type ← r.required "type" Json.text?
  let indexed ← r.optional "indexed" Json.flag?
  let internalType ← r.optional "internalType" Json.text?
  return mk name type components indexed internalType

mutual

/-- The parameter that a JSON value describes (`AbiParam.deserialize`). -/
def ofJson? : Json → Option Param
  | .obj fields => do
    let r ← Json.record? fieldNames (.obj fields)
    let components ← componentsByName? fields
    ofRecord? r components
  | .arr items => do
    let r ← Json.record? fieldNames (.arr items)
    let components ← componentsByPlace? 2 items
    ofRecord? r components
  | _ => none
termination_by structural j => j

/-- The parameters that an array describes. -/
def listOfJson? : Json → Option (List Param)
  | .arr items => listOfItems? items
  | _ => none
termination_by structural j => j

/-- The parameters that items describe. -/
def listOfItems? : List Json → Option (List Param)
  | [] => some []
  | item :: rest => do
    let p ← ofJson? item
    let ps ← listOfItems? rest
    return p :: ps
termination_by structural items => items

/-- The parts named in the fields of an object; none are there when the field is absent. -/
def componentsByName? : List (String × Json) → Option (List Param)
  | [] => some []
  | (key, value) :: rest =>
    if key = "components" then listOfJson? value else componentsByName? rest
termination_by structural fields => fields

/-- The parts at a place of an array; none are there when the array is shorter. -/
def componentsByPlace? (place : Nat) : List Json → Option (List Param)
  | [] => some []
  | item :: rest => if place = 0 then listOfJson? item else componentsByPlace? (place - 1) rest
termination_by structural items => items

end

mutual

/-- The parameter as JSON: name and type always, the rest where it is there
    (`AbiParam.serialize`). -/
def toJson : Param → Json
  | mk name type components indexed internalType =>
    .obj ([("name", .str name), ("type", .str type)] ++ componentsField components ++
      Json.fieldOfOption "indexed" .bool indexed ++
      Json.fieldOfOption "internalType" .str internalType)
termination_by structural p => p

/-- The field for the parts of a tuple, left out when there are none. -/
def componentsField : List Param → List (String × Json)
  | [] => []
  | p :: ps => [("components", .arr (toJson p :: listToItems ps))]
termination_by structural ps => ps

/-- The items for the parameters. -/
def listToItems : List Param → List Json
  | [] => []
  | p :: ps => toJson p :: listToItems ps
termination_by structural ps => ps

end

end Param

/-! ## Fragments -/

/-- What a fragment describes. -/
inductive FragmentKind where
  | function
  | event
  | constructor
  | fallback
  | receive
  | error
deriving DecidableEq, Repr

/-- The word for a kind (`FragmentKind.serialize`). -/
def FragmentKind.name : FragmentKind → String
  | function => "function"
  | event => "event"
  | constructor => "constructor"
  | fallback => "fallback"
  | receive => "receive"
  | error => "error"

/-- The kind that a word stands for. -/
def FragmentKind.ofName? : String → Option FragmentKind
  | "function" => some function
  | "event" => some event
  | "constructor" => some constructor
  | "fallback" => some fallback
  | "receive" => some receive
  | "error" => some error
  | _ => none

/-- The kind that a JSON value stands for: the word, or an object with the word as its only key and
    `null` as its value (`FragmentKind.deserialize`). -/
def FragmentKind.ofJson? : Json → Option FragmentKind
  | .str s => ofName? s
  | .obj [(key, .null)] => ofName? key
  | _ => none

/-- An entry of an interface description (`AbiFragment`). -/
structure Fragment where
  kind : FragmentKind
  /-- The name as written; see `Fragment.name?`. -/
  givenName : Option String
  inputs : List Param
  outputs : List Param
  anonymous : Option Bool
  stateMutability : Option String
  constant : Option Bool
  payable : Option Bool
deriving DecidableEq

namespace Fragment

/-- The name, if there is one that is not empty (`AbiFragment.name`). -/
def name? (f : Fragment) : Option String := f.givenName.filter (· ≠ "")

/-- Whether the fragment is an event (`AbiFragment.is_event`). -/
def isEvent (f : Fragment) : Bool := f.kind == .event

/-- Whether the fragment is a function (`AbiFragment.is_function`). -/
def isFunction (f : Fragment) : Bool := f.kind == .function

/-- How many inputs are indexed (`AbiFragment.indexed_count`). -/
def indexedCount (f : Fragment) : Nat := f.inputs.countP Param.isIndexed

/-- A function without any options (`AbiFragment.function`). -/
def ofFunction (name : String) (inputs outputs : List Param) : Fragment :=
  ⟨.function, some name, inputs, outputs, none, none, none, none⟩

/-- An event that is said not to be anonymous (`AbiFragment.event`). -/
def ofEvent (name : String) (inputs : List Param) : Fragment :=
  ⟨.event, some name, inputs, [], some false, none, none, none⟩

/-- The names of the fields of a fragment. -/
def fieldNames : List String :=
  ["type", "name", "inputs", "outputs", "anonymous", "stateMutability", "constant", "payable"]

/-- The fragment that a JSON value describes (`AbiFragment.deserialize`). Without a kind it is a
    function. -/
def ofJson? (value : Json) : Option Fragment := do
  let r ← value.record? fieldNames
  let kind ← r.withDefault "type" .function FragmentKind.ofJson?
  let givenName ← r.optional "name" Json.text?
  let inputs ← r.withDefault "inputs" [] Param.listOfJson?
  let outputs ← r.withDefault "outputs" [] Param.listOfJson?
  let anonymous ← r.optional "anonymous" Json.flag?
  let stateMutability ← r.optional "stateMutability" Json.text?
  let constant ← r.optional "constant" Json.flag?
  let payable ← r.optional "payable" Json.flag?
  return { kind, givenName, inputs, outputs, anonymous, stateMutability, constant, payable }

/-- The fragment as JSON: kind and inputs always, the rest where it is there
    (`AbiFragment.serialize`). -/
def toJson (f : Fragment) : Json :=
  .obj ([("type", .str f.kind.name)] ++ Json.fieldOfOption "name" .str f.givenName ++
    [("inputs", .arr (Param.listToItems f.inputs))] ++
    (if f.outputs = [] then [] else [("outputs", .arr (Param.listToItems f.outputs))]) ++
    Json.fieldOfOption "anonymous" .bool f.anonymous ++
    Json.fieldOfOption "stateMutability" .str f.stateMutability ++
    Json.fieldOfOption "constant" .bool f.constant ++
    Json.fieldOfOption "payable" .bool f.payable)

/-- The fragments that a JSON array describes (`abi_from_value`). -/
def listOfJson? : Json → Option (List Fragment) := Json.list? ofJson?

end Fragment

end ContractLens.Abi
