import ContractLens.Config
import ContractLens.Json.Reader
import ContractLens.Yaml.Node

/-!
# Files of configurations

A configuration is read from JSON or from YAML text. What a YAML scalar stands for depends on what
is expected in its place, so a YAML node is first turned into the JSON value that it is for a
`Shape`.

* Texts are scalars of any kind; a plain word for nothing is no text where nothing may stand.
* A record or list that is not written at all is empty. Records are mappings, never sequences.
* Fields that are not known are passed over, together with the aliases in them.
* Collections may be nested up to `maxDepth` levels, and aliases followed up to `aliasFactor` times
  the size of the document.
-/

namespace ContractLens.ConfigFile

open Yaml (Style)

/-! ## Shapes -/

/-- What is expected at a place of a YAML document. -/
inductive Shape where
  | config
  | natives
  | net
  | id
  | abi
  | fragment
  | kind
  | params
  | param
  | text
  | flag
  | anything
deriving DecidableEq

namespace Shape

/-- What is expected in a field of a record, and whether nothing may stand there. -/
def field : Shape → String → Shape × Bool
  | config, "nativeContracts" => (natives, false)
  | config, "net" => (net, true)
  | config, "abi" => (abi, true)
  | natives, "bridge" | natives, "remasc" => (text, false)
  | net, "id" => (id, false)
  | fragment, "type" => (kind, false)
  | fragment, "inputs" | fragment, "outputs" => (params, false)
  | fragment, "name" | fragment, "stateMutability" => (text, true)
  | fragment, "anonymous" | fragment, "constant" | fragment, "payable" => (flag, true)
  | param, "name" | param, "type" => (text, false)
  | param, "components" => (params, false)
  | param, "indexed" => (flag, true)
  | param, "internalType" => (text, true)
  | _, _ => (anything, true)

/-- What is expected of the items of a list. -/
def item? : Shape → Option Shape
  | abi => some fragment
  | params => some param
  | _ => none

/-- Whether a record is expected. -/
def isRecord : Shape → Bool
  | config | natives | net | fragment | param => true
  | _ => false

end Shape

/-! ## Scalars -/

/-- Whether a plain scalar is a word for nothing. -/
def isNullWord (s : String) : Bool := s == "~" || s == "null" || s == "Null" || s == "NULL"

/-- The truth value of a word. -/
def flagOfWord? (s : String) : Option Bool :=
  if ["true", "True", "TRUE"].contains s then some true
  else if ["false", "False", "FALSE"].contains s then some false
  else none

/-- Digits behind the mark of a base, or decimal ones without leading zeros. -/
def markedDigits? : List Char → Option Nat
  | '0' :: 'x' :: ds => Natural.digits? 16 ds
  | '0' :: 'o' :: ds => Natural.digits? 8 ds
  | '0' :: 'b' :: ds => Natural.digits? 2 ds
  | '0' :: _ :: _ => none
  | ds => Natural.digits? 10 ds

/-- The integer that a word stands for. A mark may follow the sign. -/
def intOfWord? (s : String) : Option Int :=
  match s.toList with
  | '-' :: cs => (markedDigits? cs).map fun n => -(n : Int)
  | '+' :: cs => (markedDigits? cs).map fun n => (n : Int)
  | cs => (markedDigits? cs).map fun n => (n : Int)

/-- The tag of one of the types that YAML has by itself. -/
def coreTag (name : String) : List UInt8 := ("tag:yaml.org,2002:" ++ name).toUTF8.toList

/-- The name of a tag of the document's own. -/
def localName? : Option (List UInt8) → Option String
  | some (0x21 :: name) => String.fromUTF8? ⟨name.toArray⟩
  | _ => none

/-- Whether a scalar is nothing where nothing may stand. A scalar with the tag of nothing has to be
    a word for it. -/
def isNothing? (tag : Option (List UInt8)) (style : Style) (s : String) : Option Bool :=
  if style ≠ .plain then some false
  else
    match tag with
    | none => some (s = "" || isNullWord s)
    | some tag =>
      if tag ≠ coreTag "null" then some false
      else if isNullWord s then some true
      else none

/-- The number of a network in a scalar (in `de_net_id`). Only a plain scalar without a tag, or one
    with the tag of integers, is looked at as a number; any other one is a text. -/
def idOfScalar? (tag : Option (List UInt8)) (style : Style) (s : String) : Option Json :=
  let untagged := (intOfWord? s).elim (Json.str s) .int
  match tag with
  | none => some (if style = .plain then untagged else .str s)
  | some bytes =>
    if (localName? tag).isSome then none
    else if bytes = coreTag "int" then (intOfWord? s).map .int
    else if ["bool", "float", "null"].any fun name => bytes = coreTag name then none
    else some (if style = .plain && bytes.head? = some 0x21 then untagged else .str s)

/-- The kind of a fragment in a scalar: its text, or its tag if it has one of its own, which then
    stands for all of it. -/
def kindOfScalar? (tag : Option (List UInt8)) (style : Style) (s : String) : Option Json :=
  match localName? tag with
  | none => some (.str s)
  | some name => if style = .plain && (s = "" || isNullWord s) then some (.str name) else none

/-- The truth value in a scalar, which is plain, or a literal block with the tag of truth values. -/
def flagOfScalar? (tag : Option (List UInt8)) (style : Style) (s : String) : Option Json :=
  if style = .plain || (style = .literal && tag = some (coreTag "bool")) then
    (flagOfWord? s).map .bool
  else none

/-- The JSON value of a scalar where a shape is expected, if it fits. -/
def jsonOfScalar? (shape : Shape) (tag : Option (List UInt8)) (style : Style) (s : String) :
    Option Json :=
  match shape with
  | .text => some (.str s)
  | .kind => kindOfScalar? tag style s
  | .id => idOfScalar? tag style s
  | .flag => flagOfScalar? tag style s
  | shape =>
    if style = .plain && s = "" then some (if shape.isRecord then .obj [] else .arr []) else none

/-- The same where nothing may stand. -/
def nullableOfScalar? (shape : Shape) (tag : Option (List UInt8)) (style : Style) (s : String) :
    Option Json :=
  match isNothing? tag style s with
  | none => none
  | some true => some .null
  | some false => jsonOfScalar? shape tag style s

/-! ## Nodes -/

/-- An activity that follows aliases, of which only so many may be followed. -/
abbrev Following := StateT Nat Option

/-- How deep collections may be nested. -/
def maxDepth : Nat := 128

/-- How many aliases may be followed for each part of a document. -/
def aliasFactor : Nat := 100

/-- The node that an alias stands for, given the nodes with anchors; any other node is itself. -/
def resolve (anchored : List (Nat × Yaml.Node)) : Yaml.Node → Following Yaml.Node
  | .reference number => do
    match ← get, anchored.lookup number with
    | left + 1, some target =>
      set left
      return target
    | _, _ => failure
  | node => return node

/-- The text of a key. -/
def keyText (anchored : List (Nat × Yaml.Node)) (key : Yaml.Node) : Following String := do
  match ← resolve anchored key with
  | .scalar _ _ _ text => return text
  | _ => failure

/-- The JSON value that a node is where a shape is expected, with collections in at most as many
    levels as the second argument says. -/
def jsonOfNode (anchored : List (Nat × Yaml.Node)) :
    Nat → Shape → Bool → Yaml.Node → Following Json
  | levels, shape, nullable, node => do
    if shape = .anything then return .null
    match ← resolve anchored node, levels with
    | .scalar _ tag style text, _ =>
      StateT.lift ((if nullable then nullableOfScalar? else jsonOfScalar?) shape tag style text)
    | .sequence _ items, levels + 1 =>
      match shape.item? with
      | some item => return .arr (← items.mapM (jsonOfNode anchored levels item false))
      | none => failure
    | .mapping _ fields, levels + 1 =>
      if shape.isRecord then
        let read ← fields.mapM fun (key, value) => do
          let name ← keyText anchored key
          let (inner, nullable) := shape.field name
          return (name, ← jsonOfNode anchored levels inner nullable value)
        return .obj read
      else failure
    | _, _ => failure

/-- The JSON form of the configuration in a YAML text. -/
def jsonOfYaml? (text : String) : Option Json :=
  (Yaml.Node.ofText? text).bind fun root =>
    (jsonOfNode (root.anchored []) maxDepth .config false root).run' (aliasFactor * root.size)

/-! ## Files -/

/-- The configuration in the text of a file (`ParserConfig.from_file`). A file whose name ends in
    `json` holds JSON, any other one YAML. -/
def ofText (extension text : String) : Except ConfigError Config :=
  if extension = "json" then
    match (Json.parse? text).bind Config.ofJson? with
    | some c => .ok c
    | none => .error .jsonUnreadable
  else
    match (jsonOfYaml? text).bind Config.ofJson? with
    | some c => .ok c
    | none => .error .yamlUnreadable

end ContractLens.ConfigFile
